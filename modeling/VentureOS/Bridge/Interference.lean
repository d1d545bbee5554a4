import VentureOS.Bridge.ProcessSession

/-! # Interference between dispatches

Both replay memories of the bridge know an execution by an id that joins the references it is for with colons.
A reference may contain colons itself, so that executions for different references share an id exactly when the
references have the same parts between colons in turn. Then one of them is refused because of the other; in all
other cases, an execution is only refused because of executions that are for the same references, or for others
that share their id. -/

namespace VentureOS.Bridge

open ReplayMemory

/-! ## Ids -/

/-- The parts of some references between colons, in turn. -/
def colonParts (references : List String) : List (List Char) :=
  references.flatMap fun text => text.toList.splitOn ':'

/-- Two texts that join references with colons are the same when the references have the same parts. -/
theorem joined_eq_iff {key key' : String} {references references' : List String} (h : references ≠ [])
    (h' : references' ≠ []) (hkey : key.toList = [':'].intercalate (references.map String.toList))
    (hkey' : key'.toList = [':'].intercalate (references'.map String.toList)) :
    key = key' ↔ colonParts references = colonParts references' := by
  have hparts : ∀ texts : List String,
      (texts.map String.toList).flatMap (List.splitOn ':') = colonParts texts := fun texts => List.flatMap_map ..
  rw [← String.toList_inj, hkey, hkey', intercalate_eq_iff ':' (by simpa using h) (by simpa using h'), hparts, hparts]

/-- What an execution of the adapter is for. -/
structure DispatchPair where
  sessionId : String
  dispatchId : String
  deriving DecidableEq, Repr

/-- The pair of a dispatch. -/
def CodexValidationDispatchCandidate.pair (dispatch : CodexValidationDispatchCandidate) : DispatchPair :=
  ⟨dispatch.sessionId, dispatch.dispatchId⟩

/-- The parts of a pair. -/
def DispatchPair.parts (p : DispatchPair) : List (List Char) := colonParts [p.sessionId, p.dispatchId]

/-- The parts of a triple. -/
def SessionTriple.parts (t : SessionTriple) : List (List Char) :=
  colonParts [t.supervisionId, t.sessionId, t.dispatchId]

theorem toList_sessionKey (t : SessionTriple) : (sessionKey t).toList
    = [':'].intercalate ([t.supervisionId, t.sessionId, t.dispatchId].map String.toList) := by
  show (t.supervisionId ++ ":" ++ t.sessionId ++ ":" ++ t.dispatchId).toList = _
  simp

theorem toList_replayKey (d : CodexValidationDispatchCandidate) : (replayKey d).toList
    = [':'].intercalate ([d.pair.sessionId, d.pair.dispatchId].map String.toList) := by
  show (d.sessionId ++ ":" ++ d.dispatchId).toList = _
  simp [CodexValidationDispatchCandidate.pair]

theorem sessionKey_eq_iff {t u : SessionTriple} : sessionKey t = sessionKey u ↔ t.parts = u.parts :=
  joined_eq_iff (List.cons_ne_nil _ _) (List.cons_ne_nil _ _) (toList_sessionKey t) (toList_sessionKey u)

theorem replayKey_eq_iff {d e : CodexValidationDispatchCandidate} :
    replayKey d = replayKey e ↔ d.pair.parts = e.pair.parts :=
  joined_eq_iff (List.cons_ne_nil _ _) (List.cons_ne_nil _ _) (toList_replayKey d) (toList_replayKey e)

/-! ## Executions of the coordinator -/

section Sessions

variable (sha256 : String → String)

/-- An input that `execute` of the coordinator accepts: an execution of it comes to the lease. -/
def AcceptedBySessions (x : OwnedProcessInput) : Prop :=
  ∃ cleanupTimeoutMs now aborted, beginSession sha256 ⟨x, cleanupTimeoutMs, now, aborted⟩ = .authenticating

/-- Executions for `x` never make an execution for `y` fail: in a run in which only executions for the triple of
`x` have come through the replay checks, an execution for `y` that comes to them is not refused as concurrent or
used. -/
def SessionsIsolated (x y : OwnedProcessInput) : Prop :=
  ∀ (moves : List (Move SessionStart SessionReply)) (i : Nat) (reply : SessionReply) (call call' : SessionCall),
    ((processSessionCoordinator sha256).pool empty moves).calls[i]? = some call →
    call.input = y → call.point = .authenticating → reply.answer = .done (.ok ()) →
    (∀ t ∈ (sessionsShown sha256 moves).flatMap SessionShown.admitted, t = x.triple) →
    ((processSessionCoordinator sha256).pool empty (moves ++ [.resume i reply])).calls[i]? = some call' →
    call'.point ≠ .denied (.session .CONCURRENT_DISPATCH) ∧ call'.point ≠ .denied (.session .USED_DISPATCH)

variable {sha256}

variable {y : OwnedProcessInput}

/-- A refusal as concurrent or used is one of the memory. -/
theorem refused_of_claim {reading : Option Int} {memory : SessionMemory}
    (h : (claimSession y reading memory).2.2 = .denied (.session .CONCURRENT_DISPATCH)
      ∨ (claimSession y reading memory).2.2 = .denied (.session .USED_DISPATCH)) :
    ∃ now refusal, (memory.check sessionKey maxTrackedDispatches ⟨y.triple, now, y.dispatch.expiresAt⟩).1
      = .error refusal ∧ refusal ≠ .full := by
  unfold claimSession at h
  cases reading with
  | none => rcases h with h | h <;> cases h
  | some now =>
    dsimp only at h
    refine ⟨now, ?_⟩
    split at h
    · rename_i refusal purged hchecked
      refine ⟨refusal, congrArg Prod.fst hchecked, ?_⟩
      rintro rfl
      rcases h with h | h <;> cases h
    · rcases h with h | h <;> cases h

/-- What a run does with the memory. -/
theorem sessionsShown_uses (sha256 : String → String) (moves : List (Move SessionStart SessionReply)) :
    Uses sessionKey maxTrackedDispatches empty ((sessionsShown sha256 moves).flatMap SessionShown.ops)
      ((sessionsShown sha256 moves).flatMap SessionShown.admitted)
      ((processSessionCoordinator sha256).pool empty moves).shared :=
  Uses.of_run (fun _ memory => Uses.nil memory)
    (fun reply call memory => (sessionPiece_resume reply call.input call.point memory).faithful) moves

variable {x : OwnedProcessInput}

/-- Executions with another id do no harm. -/
theorem sessions_isolated_of_ne (h : sessionKey x.triple ≠ sessionKey y.triple) :
    SessionsIsolated sha256 x y := by
  intro moves i reply call call' hcall hinput hpoint hanswer hadmitted hcall'
  have huses := sessionsShown_uses sha256 moves
  rw [CallSystem.pool_concat, CallSystem.step_resume_of_some _ hcall] at hcall'
  have hbound := (List.getElem?_eq_some_iff.mp hcall).1
  rw [List.getElem?_set_self hbound, Option.some.injEq] at hcall'
  have hpoint' : call'.point = (claimSession y (reply.clock 0)
      ((processSessionCoordinator sha256).pool empty moves).shared).2.2 := by
    rw [← hcall', ← hinput]
    simp only [processSessionCoordinator, hpoint]
    unfold resumeSession
    rw [hanswer]
  rw [← not_or, hpoint']
  intro hrefused
  obtain ⟨now, refusal, hcheck, hfull⟩ := refused_of_claim hrefused
  obtain ⟨t, ht, hkey⟩ := huses.blame hcheck hfull
  rw [hadmitted t ht] at hkey
  exact h hkey

/-- The check of an execution at the time 0. -/
def OwnedProcessInput.check (x : OwnedProcessInput) : ReplayCheck SessionTriple := ⟨x.triple, 0, x.dispatch.expiresAt⟩

/-- The memory while a first execution is at work. -/
def OwnedProcessInput.taken (x : OwnedProcessInput) : SessionMemory :=
  ⟨[sessionKey x.triple], OrderedMap.empty.set (sessionKey x.triple) x.dispatch.expiresAt⟩

theorem claimSession_empty (x : OwnedProcessInput) : claimSession x (some 0) empty
    = (⟨[.check x.check], [x.triple], [], []⟩, x.taken, .claiming) := by
  have hcheck : (empty : SessionMemory).check sessionKey maxTrackedDispatches x.check = (.ok (), x.taken) :=
    check_empty (by decide)
  simp only [claimSession]
  rw [show (empty : SessionMemory).check sessionKey maxTrackedDispatches ⟨x.triple, 0, x.dispatch.expiresAt⟩ = _
    from hcheck]
  rfl

theorem claimSession_taken (h : sessionKey x.triple = sessionKey y.triple) : claimSession y (some 0) x.taken
      = (⟨[.check y.check], [], [], []⟩, x.taken.purge 0, .denied (.session .CONCURRENT_DISPATCH)) := by
  have hcheck : x.taken.check sessionKey maxTrackedDispatches y.check = (.error .concurrent, x.taken.purge 0) :=
    concurrent_of_active (List.mem_singleton.mpr h.symm)
  simp only [claimSession]
  rw [show x.taken.check sessionKey maxTrackedDispatches ⟨y.triple, 0, y.dispatch.expiresAt⟩ = _ from hcheck]
  rfl

/-- While an execution with the same id is at work, an execution is refused. -/
theorem not_sessions_isolated (hx : AcceptedBySessions sha256 x)
    (hy : AcceptedBySessions sha256 y) (h : sessionKey x.triple = sessionKey y.triple) :
    ¬ SessionsIsolated sha256 x y := by
  let coordinator := processSessionCoordinator sha256
  obtain ⟨timeout, now, aborted, hx⟩ := hx
  obtain ⟨timeout', now', aborted', hy⟩ := hy
  let reply : SessionReply := ⟨.done (.ok ()), fun _ => some 0, ⟨true, true⟩⟩
  intro hisolated
  have hempty : coordinator.pool empty [] = ⟨empty, []⟩ := rfl
  have hstart : coordinator.start ⟨x, timeout, now, aborted⟩ empty = (.nothing, empty, ⟨x, .authenticating, []⟩) :=
    congrArg (fun point => (SessionShown.nothing, (empty : SessionMemory), (⟨x, point, []⟩ : SessionCall))) hx
  have hclaim : coordinator.resume reply ⟨x, .authenticating, []⟩ empty
      = (⟨[.check x.check], [x.triple], [], []⟩, x.taken, ⟨x, .claiming, []⟩) :=
    congrArg (fun piece : SessionShown × SessionMemory × SessionPoint =>
      (piece.1, piece.2.1, (⟨x, piece.2.2, [] ++ piece.1.events⟩ : SessionCall))) (claimSession_empty x)
  have hstart' : coordinator.start ⟨y, timeout', now', aborted'⟩ x.taken
      = (.nothing, x.taken, ⟨y, .authenticating, []⟩) :=
    congrArg (fun point => (SessionShown.nothing, x.taken, (⟨y, point, []⟩ : SessionCall))) hy
  have hrefused : coordinator.resume reply ⟨y, .authenticating, []⟩ x.taken
      = (⟨[.check y.check], [], [], []⟩, x.taken.purge 0, ⟨y, .denied (.session .CONCURRENT_DISPATCH), []⟩) :=
    congrArg (fun piece : SessionShown × SessionMemory × SessionPoint =>
      (piece.1, piece.2.1, (⟨y, piece.2.2, [] ++ piece.1.events⟩ : SessionCall))) (claimSession_taken h)
  obtain ⟨h₁, hpool⟩ := coordinator.start_last hempty hstart
  obtain ⟨h₂, hpool⟩ := coordinator.resume_at (i := 0) hpool rfl hclaim
  obtain ⟨h₃, hpool⟩ := coordinator.start_last hpool hstart'
  obtain ⟨-, hpool'⟩ := coordinator.resume_at (i := 1) hpool rfl hrefused
  rw [h₂, h₁] at h₃
  have hcall := congrArg (fun p : Pool SessionMemory SessionCall => p.calls[1]?) hpool
  have hcall' := congrArg (fun p : Pool SessionMemory SessionCall => p.calls[1]?) hpool'
  refine (hisolated _ 1 reply ⟨y, .authenticating, []⟩ ⟨y, .denied (.session .CONCURRENT_DISPATCH), []⟩
    hcall rfl rfl rfl (fun t ht => ?_) hcall').1 rfl
  rw [sessionsShown, show (processSessionCoordinator sha256).shown empty _ = _ from h₃] at ht
  exact List.mem_singleton.mp ht

/-- **Executions for `x` never make an execution for `y` fail exactly when their ids differ.** -/
theorem sessions_isolated_iff (hx : AcceptedBySessions sha256 x)
    (hy : AcceptedBySessions sha256 y) : SessionsIsolated sha256 x y ↔ x.triple.parts ≠ y.triple.parts := by
  rw [Ne, ← sessionKey_eq_iff]
  exact ⟨fun hisolated h => not_sessions_isolated hx hy h hisolated, sessions_isolated_of_ne⟩

end Sessions

/-! ## Executions of the adapter -/

variable {y x : RuntimeAdapterInput}

section Adapter

variable (sha256 : String → String)

/-- An input that `execute` of the adapter accepts: an execution of it comes to the lease. -/
def AcceptedByAdapter (x : RuntimeAdapterInput) : Prop :=
  ∃ start now deadline, start.input = x ∧ beginExecution sha256 start = .verifying now deadline

/-- Executions for `x` never make an execution for `y` fail: in a run in which only executions for the pair of `x`
have come through the replay checks, an execution for `y` that comes to them is not refused as concurrent or
used. -/
def AdapterIsolated (x y : RuntimeAdapterInput) : Prop :=
  ∀ (moves : List (Move AdapterStart AdapterReply)) (i : Nat) (reply : AdapterReply) (call call' : AdapterCall)
    (now deadline : Int) (consumed : Bool),
    ((runtimeAdapter sha256).pool empty moves).calls[i]? = some call →
    call.input = y → call.point = .verifying now deadline → reply.answer = .lease consumed (.ok ()) →
    (∀ d ∈ (shownBy sha256 moves).flatMap AdapterShown.admitted, d.pair = x.dispatch.pair) →
    ((runtimeAdapter sha256).pool empty (moves ++ [.resume i reply])).calls[i]? = some call' →
    call'.point ≠ .refused .CONCURRENT_DISPATCH ∧ call'.point ≠ .refused .USED_DISPATCH

variable {sha256}

/-- A refusal as concurrent or used is one of the memory. -/
theorem refused_of_admission {now deadline : Int} {clock : Nat → Int}
    {memory : AdapterMemory}
    (h : (admitExecution y now deadline clock memory).2.2 = .refused .CONCURRENT_DISPATCH
      ∨ (admitExecution y now deadline clock memory).2.2 = .refused .USED_DISPATCH) :
    ∃ refusal, (memory.check replayKey maxTrackedDispatches ⟨y.dispatch, now, deadline⟩).1 = .error refusal
      ∧ refusal ≠ .full := by
  unfold admitExecution at h
  dsimp only at h
  split at h
  · rename_i refusal purged hchecked
    refine ⟨refusal, congrArg Prod.fst hchecked, ?_⟩
    rintro rfl
    rcases h with h | h <;> cases h
  · split at h <;> rcases h with h | h <;> cases h

/-- What a run does with the memory. -/
theorem shownBy_uses (sha256 : String → String) (moves : List (Move AdapterStart AdapterReply)) :
    Uses replayKey maxTrackedDispatches empty ((shownBy sha256 moves).flatMap AdapterShown.ops)
      ((shownBy sha256 moves).flatMap AdapterShown.admitted) ((runtimeAdapter sha256).pool empty moves).shared :=
  Uses.of_run (fun _ memory => Uses.nil memory)
    (fun reply call memory => resumeExecution_faithful reply call memory) moves

/-- Executions with another id do no harm. -/
theorem adapter_isolated_of_ne (h : x.dispatch.pair.parts ≠ y.dispatch.pair.parts) :
    AdapterIsolated sha256 x y := by
  intro moves i reply call call' now deadline consumed hcall hinput hpoint hanswer hadmitted hcall'
  have huses := shownBy_uses sha256 moves
  rw [CallSystem.pool_concat, CallSystem.step_resume_of_some _ hcall] at hcall'
  have hbound := (List.getElem?_eq_some_iff.mp hcall).1
  rw [List.getElem?_set_self hbound, Option.some.injEq] at hcall'
  have hpoint' : call'.point = (admitExecution y now deadline reply.clock
      ((runtimeAdapter sha256).pool empty moves).shared).2.2 := by
    rw [← hcall', ← hinput]
    simp only [runtimeAdapter, resumeExecution, hpoint, hanswer]
  rw [← not_or, hpoint']
  intro hrefused
  obtain ⟨refusal, hcheck, hfull⟩ := refused_of_admission hrefused
  obtain ⟨d, hd, hkey⟩ := huses.blame hcheck hfull
  rw [replayKey_eq_iff, hadmitted d hd] at hkey
  exact h hkey

/-- The check of an execution. -/
def RuntimeAdapterInput.check (x : RuntimeAdapterInput) (now deadline : Int) :
    ReplayCheck CodexValidationDispatchCandidate := ⟨x.dispatch, now, deadline⟩

/-- The memory while a first execution is at work. -/
def RuntimeAdapterInput.taken (x : RuntimeAdapterInput) (deadline : Int) : AdapterMemory :=
  ⟨[replayKey x.dispatch], OrderedMap.empty.set (replayKey x.dispatch) deadline⟩

theorem admitExecution_empty (x : RuntimeAdapterInput) (now deadline : Int) :
    admitExecution x now deadline (fun _ => deadline - 1) empty
      = (⟨[.check (x.check now deadline)], [x.dispatch], [x.dispatch], []⟩, x.taken deadline, .running deadline) := by
  have hcheck : (empty : AdapterMemory).check replayKey maxTrackedDispatches (x.check now deadline)
      = (.ok (), x.taken deadline) := check_empty (by decide)
  have hlive : ¬ deadline - (deadline - 1) < 1 := by omega
  simp only [admitExecution]
  rw [show (empty : AdapterMemory).check replayKey maxTrackedDispatches ⟨x.dispatch, now, deadline⟩ = _ from hcheck]
  dsimp only
  rw [if_neg hlive]
  rfl

theorem admitExecution_taken (h : replayKey x.dispatch = replayKey y.dispatch)
    (now deadline deadline' : Int) (clock : Nat → Int) :
    admitExecution y now deadline' clock (x.taken deadline)
      = (⟨[.check (y.check now deadline')], [], [], []⟩, (x.taken deadline).purge now,
        .refused .CONCURRENT_DISPATCH) := by
  have hcheck : (x.taken deadline).check replayKey maxTrackedDispatches (y.check now deadline')
      = (.error .concurrent, (x.taken deadline).purge now) :=
    concurrent_of_active (List.mem_singleton.mpr h.symm)
  simp only [admitExecution]
  rw [show (x.taken deadline).check replayKey maxTrackedDispatches ⟨y.dispatch, now, deadline'⟩ = _ from hcheck]
  rfl

/-- While an execution with the same id is at work, an execution is refused. -/
theorem not_adapter_isolated (hx : AcceptedByAdapter sha256 x)
    (hy : AcceptedByAdapter sha256 y) (h : replayKey x.dispatch = replayKey y.dispatch) :
    ¬ AdapterIsolated sha256 x y := by
  let adapter := runtimeAdapter sha256
  obtain ⟨start, now, deadline, rfl, hx⟩ := hx
  obtain ⟨start', now', deadline', rfl, hy⟩ := hy
  let x := start.input
  let y := start'.input
  let reply : AdapterReply := ⟨.lease true (.ok ()), fun _ => deadline - 1, true⟩
  intro hisolated
  have hempty : adapter.pool empty [] = ⟨empty, []⟩ := rfl
  have hstart : adapter.start start empty = (.nothing, empty, ⟨x, .verifying now deadline⟩) :=
    congrArg (fun point => (AdapterShown.nothing, (empty : AdapterMemory), (⟨x, point⟩ : AdapterCall))) hx
  have hadmit : adapter.resume reply ⟨x, .verifying now deadline⟩ empty
      = (⟨[.check (x.check now deadline)], [x.dispatch], [x.dispatch], []⟩, x.taken deadline,
        ⟨x, .running deadline⟩) :=
    congrArg (fun piece : AdapterShown × AdapterMemory × AdapterPoint =>
      (piece.1, piece.2.1, (⟨x, piece.2.2⟩ : AdapterCall))) (admitExecution_empty x now deadline)
  have hstart' : adapter.start start' (x.taken deadline)
      = (.nothing, x.taken deadline, ⟨y, .verifying now' deadline'⟩) :=
    congrArg (fun point => (AdapterShown.nothing, x.taken deadline, (⟨y, point⟩ : AdapterCall))) hy
  have hrefused : adapter.resume reply ⟨y, .verifying now' deadline'⟩ (x.taken deadline)
      = (⟨[.check (y.check now' deadline')], [], [], []⟩, (x.taken deadline).purge now',
        ⟨y, .refused .CONCURRENT_DISPATCH⟩) :=
    congrArg (fun piece : AdapterShown × AdapterMemory × AdapterPoint =>
      (piece.1, piece.2.1, (⟨y, piece.2.2⟩ : AdapterCall)))
      (admitExecution_taken h now' deadline deadline' fun _ => deadline - 1)
  obtain ⟨h₁, hpool⟩ := adapter.start_last hempty hstart
  obtain ⟨h₂, hpool⟩ := adapter.resume_at (i := 0) hpool rfl hadmit
  obtain ⟨h₃, hpool⟩ := adapter.start_last hpool hstart'
  obtain ⟨-, hpool'⟩ := adapter.resume_at (i := 1) hpool rfl hrefused
  rw [h₂, h₁] at h₃
  have hcall := congrArg (fun p : Pool AdapterMemory AdapterCall => p.calls[1]?) hpool
  have hcall' := congrArg (fun p : Pool AdapterMemory AdapterCall => p.calls[1]?) hpool'
  refine (hisolated _ 1 reply ⟨y, .verifying now' deadline'⟩ ⟨y, .refused .CONCURRENT_DISPATCH⟩ now' deadline' true
    hcall rfl rfl rfl (fun d hd => ?_) hcall').1 rfl
  rw [shownBy, show (runtimeAdapter sha256).shown empty _ = _ from h₃] at hd
  rw [show d = x.dispatch from List.mem_singleton.mp hd]

/-- **Executions for `x` never make an execution for `y` fail exactly when their ids differ.** -/
theorem adapter_isolated_iff (hx : AcceptedByAdapter sha256 x)
    (hy : AcceptedByAdapter sha256 y) :
    AdapterIsolated sha256 x y ↔ x.dispatch.pair.parts ≠ y.dispatch.pair.parts := by
  refine ⟨fun hisolated h => ?_, adapter_isolated_of_ne⟩
  exact not_adapter_isolated hx hy (replayKey_eq_iff.mpr h) hisolated

end Adapter

/-! ## Both memories -/

/-- **Two executions do not interfere exactly when their references have different parts.** -/
theorem dispatches_isolated_iff (sha256 : String → String) :
    (∀ x y, AcceptedBySessions sha256 x → AcceptedBySessions sha256 y →
      (SessionsIsolated sha256 x y ↔ x.triple.parts ≠ y.triple.parts))
    ∧ ∀ x y, AcceptedByAdapter sha256 x → AcceptedByAdapter sha256 y →
      (AdapterIsolated sha256 x y ↔ x.dispatch.pair.parts ≠ y.dispatch.pair.parts) :=
  ⟨fun _ _ => sessions_isolated_iff, fun _ _ => adapter_isolated_iff⟩

namespace Sample

/-- Two dispatches of one session, and a dispatch of another session that shares the id of the second one. -/
def st : Ids := ⟨"s", "t:d"⟩

def tu : Ids := ⟨"s:t", "d"⟩

theorem ids_checked : ∀ s ∈ ["s", "t:d", "s:t", "d"], referencePattern s = true ∧ isPlainText s = true := by
  decide

theorem st_safe : st.Safe := ⟨ids_checked _ (by decide), ids_checked _ (by decide)⟩

theorem tu_safe : tu.Safe := ⟨ids_checked _ (by decide), ids_checked _ (by decide)⟩

variable {sha256 : String → String} (hdigest : ∀ s, Durable.sha256Pattern (sha256 s) = true)
include hdigest

theorem accepted_sessions {ids : Ids} (hids : ids.Safe) : AcceptedBySessions sha256 (ownedInputOf sha256 ids) :=
  ⟨none, some 0, false, beginSession_eq hdigest hids⟩

theorem accepted_adapter {ids : Ids} (hids : ids.Safe) : AcceptedByAdapter sha256 (inputOf sha256 ids) :=
  ⟨⟨inputOf sha256 ids, 0, false⟩, 0, _, rfl, beginExecution_eq hdigest hids (Int.le_refl 0) (by decide)⟩

end Sample

open Sample in
/-- Two dispatches of a session. -/
theorem dispatches_isolated :
    SessionsIsolated textDigest (ownedInputOf textDigest sd) (ownedInputOf textDigest st)
      ∧ AdapterIsolated textDigest (inputOf textDigest sd) (inputOf textDigest st) := by
  constructor
  · refine ((dispatches_isolated_iff textDigest).1 _ _ (accepted_sessions textDigest_digest sd_safe)
      (accepted_sessions textDigest_digest st_safe)).mpr ?_
    show SessionTriple.parts ⟨"su", "s", "d"⟩ ≠ SessionTriple.parts ⟨"su", "s", "t:d"⟩
    decide
  · refine ((dispatches_isolated_iff textDigest).2 _ _ (accepted_adapter textDigest_digest sd_safe)
      (accepted_adapter textDigest_digest st_safe)).mpr ?_
    show DispatchPair.parts ⟨"s", "d"⟩ ≠ DispatchPair.parts ⟨"s", "t:d"⟩
    decide

open Sample in
/-- The dispatch `t:d` of the session `s` and the dispatch `d` of the session `s:t` share their ids. -/
theorem dispatches_interfere :
    (AcceptedBySessions textDigest (ownedInputOf textDigest st)
        ∧ AcceptedBySessions textDigest (ownedInputOf textDigest tu)
        ∧ (ownedInputOf textDigest st).triple ≠ (ownedInputOf textDigest tu).triple
        ∧ ¬ SessionsIsolated textDigest (ownedInputOf textDigest st) (ownedInputOf textDigest tu))
      ∧ AcceptedByAdapter textDigest (inputOf textDigest st) ∧ AcceptedByAdapter textDigest (inputOf textDigest tu)
      ∧ (inputOf textDigest st).dispatch.pair ≠ (inputOf textDigest tu).dispatch.pair
      ∧ ¬ AdapterIsolated textDigest (inputOf textDigest st) (inputOf textDigest tu) := by
  have hst := accepted_sessions textDigest_digest st_safe
  have htu := accepted_sessions textDigest_digest tu_safe
  have hst' := accepted_adapter textDigest_digest st_safe
  have htu' := accepted_adapter textDigest_digest tu_safe
  refine ⟨⟨hst, htu, ?_, not_sessions_isolated hst htu ?_⟩, hst', htu', ?_, not_adapter_isolated hst' htu' ?_⟩
  · show SessionTriple.mk "su" "s" "t:d" ≠ SessionTriple.mk "su" "s:t" "d"
    decide
  · show sessionKey ⟨"su", "s", "t:d"⟩ = sessionKey ⟨"su", "s:t", "d"⟩
    decide
  · show DispatchPair.mk "s" "t:d" ≠ DispatchPair.mk "s:t" "d"
    decide
  · refine replayKey_eq_iff.mpr ?_
    show DispatchPair.parts ⟨"s", "t:d"⟩ = DispatchPair.parts ⟨"s:t", "d"⟩
    decide

end VentureOS.Bridge
