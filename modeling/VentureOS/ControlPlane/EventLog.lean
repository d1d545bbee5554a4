import VentureOS.Foundations.Machine
import VentureOS.ControlPlane.Events

/-! # The event log over its whole life

`InMemoryOperationalEventLog` as a machine whose labels are its two public methods, with any
capability and any context in each call. What a call may store is decided by `Admits`, a statement
about the batch and the log it meets (`checkBatch_eq_ok`); an admitted batch is appended to the
stored events as it stands (`stored_foldl_write`), and a refused one leaves the log alone. From these
two facts every property of the log is read off: no identifier and no idempotency key is stored
twice, every stored event was valid where it was appended, and what is stored stays stored
(`event_log_is_append_only`). -/

namespace VentureOS.ControlPlane

namespace EventLog

open Program

variable {dateParse : String → Option Int} {log : EventLog}

/-- The key an event is filed under. -/
def eventKeyOf (event : OperationalEvent) : Key := key event.workspaceId event.id

/-- The stored events, oldest first. -/
def stored (log : EventLog) : List OperationalEvent := log.events.values

/-! ## Admitted batches -/

section Batches

variable {capability : OperationalEventCapability} {context : WorkspaceContext}

/-- The log accepts the events: all are valid, and neither an identifier nor an idempotency key occurs
twice, in the batch or in the log. -/
structure Admits (dateParse : String → Option Int) (log : EventLog)
    (capability : OperationalEventCapability) (context : WorkspaceContext)
    (events : List OperationalEvent) : Prop where
  valid : ∀ event ∈ events, validateOperationalEvent dateParse capability context event = .ok ()
  freshIds : ∀ event ∈ events, log.events.get? (eventKeyOf event) = none
  distinctIds : (events.map eventKeyOf).Nodup
  freshKeys : ∀ event ∈ events, idempotencyKeyOf event ∉ log.idempotencyKeys
  distinctKeys : (events.map idempotencyKeyOf).Nodup

/-- A map with the keys of the batch so far beside it has a key in neither. -/
theorem not_has_iff {k : Key} {ks : List Key} :
    ¬ (log.events.has k = true ∨ k ∈ ks) ↔ log.events.get? k = none ∧ k ∉ ks := by
  rw [not_or, OrderedMap.has, Bool.not_eq_true, Option.isSome_eq_false_iff, Option.isNone_iff_eq_none]

/-- The loop of checks, after the events with identifiers `ks` and idempotency keys `is`. -/
theorem checkBatch_eq_ok_after {ks : List Key} {is : List (EntityId × EventSource × String)}
    {events : List OperationalEvent} :
    checkBatch dateParse log capability context ks is events = .ok () ↔
      Admits dateParse log capability context events
        ∧ (∀ event ∈ events, eventKeyOf event ∉ ks)
        ∧ ∀ event ∈ events, idempotencyKeyOf event ∉ is := by
  induction events generalizing ks is with
  | nil =>
    refine ⟨fun _ => ⟨⟨?_, ?_, List.nodup_nil, ?_, List.nodup_nil⟩, ?_, ?_⟩, fun _ => rfl⟩ <;>
      · intro event h
        cases h
  | cons event rest ih =>
    rw [checkBatch, check_bind_eq_ok, check_bind_eq_ok, check_bind_eq_ok, throwIf_eq_ok,
      throwIf_eq_ok, not_has_iff, not_or, ih]
    constructor
    · rintro ⟨hvalid, ⟨hid, hks⟩, ⟨hkey, his⟩, admits, hidRest, hkeyRest⟩
      refine ⟨⟨?_, ?_, ?_, ?_, ?_⟩, ?_, ?_⟩
      · exact List.forall_mem_cons.mpr ⟨hvalid, admits.valid⟩
      · exact List.forall_mem_cons.mpr ⟨hid, admits.freshIds⟩
      · refine List.nodup_cons.mpr ⟨fun hmem => ?_, admits.distinctIds⟩
        obtain ⟨other, hother, heq⟩ := List.mem_map.mp hmem
        exact hidRest other hother (heq ▸ List.mem_cons_self)
      · exact List.forall_mem_cons.mpr ⟨hkey, admits.freshKeys⟩
      · refine List.nodup_cons.mpr ⟨fun hmem => ?_, admits.distinctKeys⟩
        obtain ⟨other, hother, heq⟩ := List.mem_map.mp hmem
        exact hkeyRest other hother (heq ▸ List.mem_cons_self)
      · exact List.forall_mem_cons.mpr
          ⟨hks, fun other hother hmem => hidRest other hother (List.mem_cons_of_mem _ hmem)⟩
      · exact List.forall_mem_cons.mpr
          ⟨his, fun other hother hmem => hkeyRest other hother (List.mem_cons_of_mem _ hmem)⟩
    · rintro ⟨admits, hks, his⟩
      obtain ⟨hvalid, validRest⟩ := List.forall_mem_cons.mp admits.valid
      obtain ⟨hid, freshRest⟩ := List.forall_mem_cons.mp admits.freshIds
      obtain ⟨hnotId, distinctIds⟩ := List.nodup_cons.mp admits.distinctIds
      obtain ⟨hkey, keysRest⟩ := List.forall_mem_cons.mp admits.freshKeys
      obtain ⟨hnotKey, distinctKeys⟩ := List.nodup_cons.mp admits.distinctKeys
      obtain ⟨hks, hksRest⟩ := List.forall_mem_cons.mp hks
      obtain ⟨his, hisRest⟩ := List.forall_mem_cons.mp his
      refine ⟨hvalid, ⟨hid, hks⟩, ⟨hkey, his⟩, ⟨validRest, freshRest, distinctIds, keysRest, distinctKeys⟩, ?_, ?_⟩
      · intro other hother hmem
        rcases List.mem_cons.mp hmem with heq | hmem
        · exact hnotId (List.mem_map.mpr ⟨other, hother, heq⟩)
        · exact hksRest other hother hmem
      · intro other hother hmem
        rcases List.mem_cons.mp hmem with heq | hmem
        · exact hnotKey (List.mem_map.mpr ⟨other, hother, heq⟩)
        · exact hisRest other hother hmem

/-- **What the checks decide.** The loop of checks passes exactly on the admitted batches. -/
theorem checkBatch_eq_ok {events : List OperationalEvent} :
    checkBatch dateParse log capability context [] [] events = .ok () ↔
      Admits dateParse log capability context events := by
  rw [checkBatch_eq_ok_after]
  refine ⟨fun h => h.1, fun h => ⟨h, ?_, ?_⟩⟩ <;>
    · intro _ _ hmem
      cases hmem

/-- A batch is accepted exactly if it has 1 to 64 events and is admitted. -/
theorem appendBatch_exec (events : List OperationalEvent) :
    Ensures (appendBatch dateParse capability context events) log (fun r _ =>
      r = .ok () ↔ (events ≠ [] ∧ events.length ≤ 64)
        ∧ Admits dateParse log capability context events) := by
  unfold appendBatch
  rw [ensures_lift_bind]
  refine ⟨fun e he => ?_, fun _ hsize => ?_⟩
  · rw [throwIf_eq_error, List.length_eq_zero_iff] at he
    refine ⟨fun h => (by cases h), fun h => ?_⟩
    rcases he.1 with hnil | hlong
    · exact absurd hnil h.1.1
    · exact absurd h.1.2 (by omega)
  · rw [throwIf_eq_ok, List.length_eq_zero_iff, not_or, not_lt] at hsize
    rw [ensures_get_bind, ensures_lift_bind]
    refine ⟨fun e he => ?_, fun _ hok => ?_⟩
    · refine ⟨fun h => (by cases h), fun h => ?_⟩
      rw [checkBatch_eq_ok.mpr h.2] at he
      cases he
    · rw [ensures_modify]
      exact ⟨fun _ => ⟨hsize, checkBatch_eq_ok.mp hok⟩, fun _ => rfl⟩

end Batches

/-! ## What a log looks like -/

/-- Every event is filed under its own key, and the idempotency keys are those of the events, each of
one event only. -/
structure WellFormed (log : EventLog) : Prop where
  filed : ∀ k event, log.events.get? k = some event → eventKeyOf event = k
  keys : ∀ t, t ∈ log.idempotencyKeys ↔ ∃ event ∈ log.stored, idempotencyKeyOf event = t
  distinctKeys : (log.stored.map idempotencyKeyOf).Nodup

theorem wellFormed_empty : WellFormed EventLog.empty where
  filed _ _ h := by cases h
  keys t := by simp [EventLog.empty, stored, OrderedMap.empty, OrderedMap.values]
  distinctKeys := List.nodup_nil

/-- The identifiers of a well-formed log are the keys of its map. -/
theorem WellFormed.map_eventKeyOf (wellFormed : WellFormed log) :
    log.stored.map eventKeyOf = log.events.entries.map Prod.fst := by
  rw [stored, OrderedMap.values, List.map_map]
  refine List.map_congr_left fun entry hentry => ?_
  exact wellFormed.filed _ _ ((lookupEntry_eq_some log.events.nodup_keys).mpr hentry)

/-- No identifier of a well-formed log occurs twice. -/
theorem WellFormed.distinctIds (wellFormed : WellFormed log) :
    (log.stored.map eventKeyOf).Nodup := by
  rw [wellFormed.map_eventKeyOf]
  exact log.events.nodup_keys

/-- Looking up after an event is written. -/
theorem get?_write (log : EventLog) (event : OperationalEvent) (k : Key) :
    (log.write event).events.get? k
      = if k = eventKeyOf event then some event else log.events.get? k :=
  OrderedMap.get?_set log.events (eventKeyOf event) k event

/-- An event with a fresh identifier is stored last. -/
theorem stored_write {event : OperationalEvent} (hid : log.events.get? (eventKeyOf event) = none) :
    (log.write event).stored = log.stored ++ [event] :=
  OrderedMap.values_set_of_fresh event hid

/-- Writing an event with a fresh idempotency key keeps the log well formed. -/
theorem WellFormed.write (wellFormed : WellFormed log) {event : OperationalEvent}
    (hid : log.events.get? (eventKeyOf event) = none)
    (hkey : idempotencyKeyOf event ∉ log.idempotencyKeys) : WellFormed (log.write event) where
  filed k other h := by
    rw [get?_write] at h
    split at h
    · rename_i hk
      rw [Option.some.injEq] at h
      rw [← h, hk]
    · exact wellFormed.filed k other h
  keys t := by
    rw [stored_write hid, EventLog.write, Finset.mem_insert, wellFormed.keys]
    simp only [List.mem_append, List.mem_singleton, or_and_right, exists_or, exists_eq_left]
    rw [or_comm, eq_comm]
  distinctKeys := by
    rw [stored_write hid, List.map_append, List.map_cons, List.map_nil]
    refine List.nodup_append.mpr ⟨wellFormed.distinctKeys, List.nodup_singleton _, ?_⟩
    intro t ht t' ht' heq
    rw [List.mem_singleton] at ht'
    obtain ⟨other, hother, rfl⟩ := List.mem_map.mp ht
    exact hkey (ht' ▸ heq ▸ (wellFormed.keys _).mpr ⟨other, hother, rfl⟩)

section Batches

variable {capability : OperationalEventCapability} {context : WorkspaceContext}

/-- After one event of an admitted batch is written, the rest is still admitted. -/
theorem Admits.tail {event : OperationalEvent} {rest : List OperationalEvent}
    (admits : Admits dateParse log capability context (event :: rest)) :
    Admits dateParse (log.write event) capability context rest := by
  obtain ⟨-, validRest⟩ := List.forall_mem_cons.mp admits.valid
  obtain ⟨-, freshRest⟩ := List.forall_mem_cons.mp admits.freshIds
  obtain ⟨hnotId, distinctIds⟩ := List.nodup_cons.mp admits.distinctIds
  obtain ⟨-, keysRest⟩ := List.forall_mem_cons.mp admits.freshKeys
  obtain ⟨hnotKey, distinctKeys⟩ := List.nodup_cons.mp admits.distinctKeys
  refine ⟨validRest, ?_, distinctIds, ?_, distinctKeys⟩
  · intro other hother
    have hne : eventKeyOf other ≠ eventKeyOf event := fun heq =>
      hnotId (List.mem_map.mpr ⟨other, hother, heq⟩)
    rw [get?_write, if_neg hne]
    exact freshRest other hother
  · intro other hother hmem
    rw [EventLog.write, Finset.mem_insert] at hmem
    rcases hmem with heq | hmem
    · exact hnotKey (List.mem_map.mpr ⟨other, hother, heq⟩)
    · exact keysRest other hother hmem

/-- **Writing an admitted batch** appends it to the stored events as it stands. -/
theorem stored_foldl_write {events : List OperationalEvent}
    (admits : Admits dateParse log capability context events) :
    (events.foldl EventLog.write log).stored = log.stored ++ events := by
  induction events generalizing log with
  | nil => simp
  | cons event rest ih =>
    have hid := (List.forall_mem_cons.mp admits.freshIds).1
    rw [List.foldl_cons, ih admits.tail, stored_write hid]
    simp

/-- Writing an admitted batch keeps the log well formed. -/
theorem WellFormed.foldl_write (wellFormed : WellFormed log) {events : List OperationalEvent}
    (admits : Admits dateParse log capability context events) :
    WellFormed (events.foldl EventLog.write log) := by
  induction events generalizing log with
  | nil => exact wellFormed
  | cons event rest ih =>
    have hid := (List.forall_mem_cons.mp admits.freshIds).1
    have hkey := (List.forall_mem_cons.mp admits.freshKeys).1
    exact ih (wellFormed.write hid hkey) admits.tail

end Batches

/-! ## Runs -/

/-- A call of one of the two methods that append. -/
inductive Call where
  | append (capability : OperationalEventCapability) (context : WorkspaceContext)
      (event : OperationalEvent)
  | appendBatch (capability : OperationalEventCapability) (context : WorkspaceContext)
      (events : List OperationalEvent)

/-- The capability a call is made with. -/
def Call.capability : Call → OperationalEventCapability
  | .append capability _ _ => capability
  | .appendBatch capability _ _ => capability

/-- The context a call is made in. -/
def Call.context : Call → WorkspaceContext
  | .append _ context _ => context
  | .appendBatch _ context _ => context

/-- The events of a call. -/
def Call.events : Call → List OperationalEvent
  | .append _ _ event => [event]
  | .appendBatch _ _ events => events

section Runs

variable (dateParse)

/-- Answer a call. -/
def answer : Call → Program Failure EventLog Unit
  | .append capability context event => EventLog.append dateParse capability context event
  | .appendBatch capability context events => EventLog.appendBatch dateParse capability context events

/-- One step of the log. -/
def perform (call : Call) (log : EventLog) : Except Failure Unit × EventLog :=
  (answer dateParse call).exec log

/-- The log after a list of calls. -/
def reach (calls : List Call) : EventLog := run (perform dateParse) .empty calls

/-- The steps along a list of calls. -/
def trace (calls : List Call) : List (Entry Call (Except Failure Unit) EventLog) :=
  history (perform dateParse) .empty calls

end Runs

variable (dateParse) in
/-- **One call.** A refused call leaves the log alone; an accepted one had an admitted batch, which is
written. -/
theorem perform_cases (call : Call) (log : EventLog) :
    (∃ error, (perform dateParse call log).1 = .error error ∧ (perform dateParse call log).2 = log)
      ∨ ((perform dateParse call log).1 = .ok ()
        ∧ Admits dateParse log call.capability call.context call.events
        ∧ (perform dateParse call log).2 = call.events.foldl EventLog.write log) := by
  have batch : ∀ capability context events,
      Ensures (EventLog.appendBatch dateParse capability context events) log (fun r log' =>
        (∃ error, r = .error error ∧ log' = log) ∨ (r = .ok ()
          ∧ Admits dateParse log capability context events
          ∧ log' = events.foldl EventLog.write log)) := by
    intro capability context events
    refine (appendBatch_spec dateParse capability context events log).mono fun r log' h => ?_
    cases r with
    | error e => exact Or.inl ⟨e, rfl, h⟩
    | ok u => exact Or.inr ⟨rfl, checkBatch_eq_ok.mp h.1, h.2⟩
  cases call with
  | append capability context event => exact batch capability context [event]
  | appendBatch capability context events => exact batch capability context events

variable (dateParse) in
/-- Every reachable log is well formed. -/
theorem wellFormed_reach (calls : List Call) : WellFormed (reach dateParse calls) := by
  refine run_induction (perform dateParse) wellFormed_empty (fun pre call ih => ?_) calls
  rcases perform_cases dateParse call (run (perform dateParse) .empty pre) with
    ⟨_, -, hlog⟩ | ⟨-, admits, hlog⟩
  · rw [hlog]
    exact ih
  · rw [hlog]
    exact ih.foldl_write admits

/-- The event is among those of an accepted call of the history, and was valid there. -/
def Appended (dateParse : String → Option Int)
    (steps : List (Entry Call (Except Failure Unit) EventLog)) (event : OperationalEvent) : Prop :=
  ∃ step ∈ steps, step.outcome = .ok () ∧ event ∈ step.label.events
    ∧ validateOperationalEvent dateParse step.label.capability step.label.context event = .ok ()

/-- Every stored event was valid in the call that appended it. -/
theorem stored_was_valid (calls : List Call) :
    ∀ event ∈ (reach dateParse calls).stored, Appended dateParse (trace dateParse calls) event := by
  refine history_induction (P := fun steps (log : EventLog) =>
    ∀ event ∈ log.stored, Appended dateParse steps event) (perform dateParse) ?_
    (fun pre call ih => ?_) calls
  · intro event h
    cases h
  intro event hevent
  have earlier : event ∈ (run (perform dateParse) .empty pre).stored →
      Appended dateParse (history (perform dateParse) .empty pre
        ++ [entryAt (perform dateParse) (run (perform dateParse) .empty pre) call]) event := by
    intro hold
    obtain ⟨step, hmem, h⟩ := ih event hold
    exact ⟨step, List.mem_append_left _ hmem, h⟩
  rcases perform_cases dateParse call (run (perform dateParse) .empty pre) with
    ⟨_, -, hlog⟩ | ⟨hok, admits, hlog⟩
  · rw [hlog] at hevent
    exact earlier hevent
  · rw [hlog, stored_foldl_write admits, List.mem_append] at hevent
    rcases hevent with hold | hnew
    · exact earlier hold
    · exact ⟨_, List.mem_append_right _ (List.mem_singleton.mpr rfl), hok, hnew, admits.valid event hnew⟩

/-- What is stored stays stored, in place and as it is. -/
theorem stored_reach_append (calls more : List Call) :
    (reach dateParse calls).stored <+: (reach dateParse (calls ++ more)).stored := by
  induction more using List.reverseRecOn with
  | nil => rw [List.append_nil]
  | append_singleton more call ih =>
    refine ih.trans ?_
    have hreach : reach dateParse (calls ++ (more ++ [call]))
        = (perform dateParse call (reach dateParse (calls ++ more))).2 := by
      rw [reach, ← List.append_assoc, run_concat]
      rfl
    rw [hreach]
    rcases perform_cases dateParse call (reach dateParse (calls ++ more)) with
      ⟨_, -, hlog⟩ | ⟨-, admits, hlog⟩
    · rw [hlog]
    · rw [hlog, stored_foldl_write admits]
      exact List.prefix_append _ _

/-- **The event log.** After any list of calls: event identifiers are unique per workspace,
idempotency keys per workspace and source; every stored event was valid for the capability and the
context of the call that appended it; a call that throws changed nothing, one that returns appended
exactly its events; and whatever is called later, the stored events stay as they are. -/
theorem event_log_is_append_only (dateParse : String → Option Int) (calls : List Call) :
    ((reach dateParse calls).stored.map fun event => (event.workspaceId, event.id)).Nodup
      ∧ ((reach dateParse calls).stored.map fun event =>
          (event.workspaceId, event.source, event.idempotencyKey)).Nodup
      ∧ (∀ event ∈ (reach dateParse calls).stored, Appended dateParse (trace dateParse calls) event)
      ∧ (∀ step ∈ trace dateParse calls,
          (∀ error, step.outcome = .error error → step.after = step.before)
          ∧ (step.outcome = .ok () → step.after.stored = step.before.stored ++ step.label.events))
      ∧ ∀ more, (reach dateParse calls).stored <+: (reach dateParse (calls ++ more)).stored := by
  have wellFormed := wellFormed_reach dateParse calls
  refine ⟨wellFormed.distinctIds, wellFormed.distinctKeys, stored_was_valid calls, ?_, stored_reach_append calls⟩
  intro step hstep
  obtain ⟨pre, call, post, -, rfl⟩ := eq_entryAt_of_mem_history _ hstep
  rcases perform_cases dateParse call (run (perform dateParse) .empty pre) with
    ⟨error, herror, hlog⟩ | ⟨hok, admits, hlog⟩
  · exact ⟨fun _ _ => hlog, fun h => (by rw [entryAt, herror] at h; cases h)⟩
  · refine ⟨fun error h => ?_, fun _ => ?_⟩
    · rw [entryAt, hok] at h
      cases h
    · show (perform dateParse call _).2.stored = _
      rw [hlog]
      exact stored_foldl_write admits

end EventLog

end VentureOS.ControlPlane
