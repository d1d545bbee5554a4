import VentureOS.ControlPlane.Dispatching

/-! # External ownership of runs

A run is bound to an external run of the runtime, and to the adapter registration it was started
through, when `adapter.start` resolves. The invariants of this module say what a binding rests on:
the connection and its runtime are known (`Placed`), a run is unbound or bound after a claim
(`OwnedRun`), bindings are not shared (`Unshared`), and an active bound run keeps the registration
of its runtime (`RegisteredRun`). -/

namespace VentureOS.ControlPlane

variable {σ : Type} {options : Options σ} {readings : Readings} {plane plane' : Plane} {call : Call}
  {outcome : Except Failure Answer}

/-! ## Connections and runtimes are known -/

/-- The runtime of every connection and the connection of every run are stored. -/
structure Placed (plane : Plane) : Prop where
  runtime : ∀ connection ∈ plane.connections, ∃ runtime,
    plane.runtimes.get? (key connection.workspaceId connection.runtimeId) = some runtime
  connection : ∀ run ∈ plane.runs, ∃ connection,
    plane.connections.get? (key run.workspaceId run.runtimeConnectionId) = some connection

/-- Putting a record does not hide another one. -/
theorem exists_get?_put {V : Type} [HasKey Key V] {records : Store Key V} {record : V} {k : Key}
    (h : ∃ r, records.get? k = some r) : ∃ r, (records.put record).get? k = some r := by
  rw [Store.get?_put]
  split
  · exact ⟨record, rfl⟩
  · exact h

variable {run : AgentRun}

/-- A run that is replaced keeps its place. -/
theorem Placed.put_run (h : Placed plane)
    (hrun : ∃ connection, plane.connections.get? (key run.workspaceId run.runtimeConnectionId) = some connection) :
    ∀ run' ∈ plane.runs.put run, ∃ connection,
      plane.connections.get? (key run'.workspaceId run'.runtimeConnectionId) = some connection := by
  intro run' hrun'
  rcases Store.mem_put.mp hrun' with rfl | ⟨hrun', -⟩
  · exact hrun
  · exact h.connection run' hrun'

/-- Every effect keeps connections and runs in place. -/
theorem Placed.effect (h : Placed plane)
    (he : Effect options readings plane call outcome plane') : Placed plane' := by
  cases he with
  | putRuntime workspace authorizer =>
    exact ⟨fun connection hconnection => exists_get?_put (h.runtime connection hconnection), h.connection⟩
  | putConnection admitted =>
    have hadmitted := ConnectionAdmitted.of_ok admitted
    refine ⟨fun connection hconnection => ?_, fun run hrun => exists_get?_put (h.connection run hrun)⟩
    rcases Store.mem_put.mp hconnection with rfl | ⟨hconnection, -⟩
    · exact hadmitted.runtime_found
    · exact h.runtime connection hconnection
  | startRun admitted =>
    obtain ⟨task, connection, hadmitted⟩ := RunAdmitted.of_ok admitted
    exact ⟨h.runtime, h.put_run ⟨connection, hadmitted.connection_found⟩⟩
  | boundRun pending admitted =>
    obtain ⟨connection, hadmitted⟩ := BindingAdmitted.of_ok admitted
    have hplace := h.connection _ (Store.mem_of_get? hadmitted.found)
    exact ⟨h.runtime, h.put_run hplace⟩
  | transitionRun admitted =>
    have hplace := h.connection _ (Store.mem_of_get? (RunTransitionAdmitted.of_ok admitted).found)
    exact ⟨h.runtime, h.put_run hplace⟩
  | _ => exact ⟨h.runtime, h.connection⟩

theorem Placed.of_reachable (h : Reachable options plane) : Placed plane := by
  refine h.induction ⟨fun connection hconnection => ?_, fun run hrun => ?_⟩
    fun _ hp he => hp.effect he
  · exact absurd hconnection (Store.not_mem_empty connection)
  · exact absurd hrun (Store.not_mem_empty run)

/-! ## Bindings follow claims -/

/-- The run was never bound and never left the queue but for a cancellation, or it is bound to an
external run and a registration, after its permit was claimed. -/
def OwnedRun (claimed : Finset Key) (run : AgentRun) : Prop :=
  (run.externalRunId = none ∧ run.adapterRegistrationId = none ∧ (run.status = .QUEUED ∨ run.status = .CANCELLED)) ∨
  ∃ externalRunId registrationId, run.externalRunId = some externalRunId ∧ externalRunId ≠ "" ∧
    run.adapterRegistrationId = some registrationId ∧ keyOf run ∈ claimed

/-- Every effect keeps runs unbound or owned. -/
theorem OwnedRun.effect (h : ∀ run ∈ plane.runs, OwnedRun plane.claimedDispatchRuns run)
    (he : Effect options readings plane call outcome plane') :
    ∀ run ∈ plane'.runs, OwnedRun plane'.claimedDispatchRuns run := by
  -- Claims are never taken back, so the runs that are not written stay owned.
  have hkeep : ∀ run ∈ plane.runs, OwnedRun plane'.claimedDispatchRuns run := by
    intro run hrun
    rcases h run hrun with hunbound | ⟨e, r, hext, hne, hreg, hclaimed⟩
    · exact .inl hunbound
    · exact .inr ⟨e, r, hext, hne, hreg, he.claimed_subset hclaimed⟩
  intro run hrun
  rcases he.runs_cases with hruns | ⟨_, new, _, _, hadmitted, hruns⟩
    | ⟨_, _, _, bound, _, _, hadmitted, hruns⟩ | ⟨_, _, next, moved, _, now, hadmitted, hruns⟩
  · exact hkeep run (hruns ▸ hrun)
  · rw [hruns] at hrun
    rcases Store.mem_put.mp hrun with rfl | ⟨hrun, -⟩
    · exact .inl ⟨hadmitted.unbound, hadmitted.unregistered, .inl hadmitted.queued⟩
    · exact hkeep run hrun
  · rw [hruns] at hrun
    rcases Store.mem_put.mp hrun with rfl | ⟨hrun, -⟩
    · exact .inr ⟨_, _, rfl, hadmitted.external_ne, rfl, he.claimed_subset hadmitted.claimed⟩
    · exact hkeep run hrun
  · rw [hruns] at hrun
    rcases Store.mem_put.mp hrun with rfl | ⟨hrun, -⟩
    · rcases hkeep moved (Store.mem_of_get? hadmitted.found) with ⟨hext, hreg, hstatus⟩ | howned
      · -- An unbound run leaves the queue only for a cancellation.
        refine .inl ⟨hext, hreg, .inr ?_⟩
        show next = .CANCELLED
        have hlegal := hadmitted.legal
        rcases hstatus with hstatus | hstatus
        · by_contra hne
          have hrunning : next = .RUNNING := by
            rw [hstatus] at hlegal
            simpa [runTransitions, hne] using hlegal
          have htruthy := (hadmitted.start hstatus hrunning).2
          rw [hext] at htruthy
          exact not_truthy_none htruthy
        · rw [hstatus] at hlegal
          cases hlegal
      · exact .inr howned
    · exact hkeep run hrun

theorem OwnedRun.of_reachable (h : Reachable options plane) :
    ∀ run ∈ plane.runs, OwnedRun plane.claimedDispatchRuns run :=
  h.induction (P := fun plane => ∀ run ∈ plane.runs, OwnedRun plane.claimedDispatchRuns run)
    (fun run hrun => absurd hrun (Store.not_mem_empty run)) fun _ ho he => OwnedRun.effect ho he

/-- A run that is not claimed is not bound. -/
theorem OwnedRun.unbound {claimed : Finset Key} (h : OwnedRun claimed run)
    (hnot : keyOf run ∉ claimed) : run.externalRunId = none := by
  rcases h with ⟨hext, -⟩ | ⟨_, _, -, -, -, hclaimed⟩
  · exact hext
  · exact absurd hclaimed hnot

/-- A run that left the queue without being cancelled is claimed and bound. -/
theorem OwnedRun.bound {claimed : Finset Key} (h : OwnedRun claimed run)
    (hqueued : run.status ≠ .QUEUED) (hcancelled : run.status ≠ .CANCELLED) :
    keyOf run ∈ claimed ∧ (∃ e, run.externalRunId = some e) ∧
      ∃ r, run.adapterRegistrationId = some r := by
  rcases h with ⟨-, -, hstatus⟩ | ⟨e, r, hext, -, hreg, hclaimed⟩
  · exact absurd hstatus (by simp [hqueued, hcancelled])
  · exact ⟨hclaimed, ⟨e, hext⟩, r, hreg⟩

/-! ## External runs are not shared -/

/-- No two runs on one connection are bound to the same external run. -/
def Unshared (runs : Store Key AgentRun) : Prop :=
  ∀ run ∈ runs, ∀ run' ∈ runs, run.workspaceId = run'.workspaceId →
    run.runtimeConnectionId = run'.runtimeConnectionId →
    ∀ e, run.externalRunId = some e → run'.externalRunId = some e → run = run'

/-- Replacing a run by one whose external run nobody else has keeps bindings unshared. -/
theorem Unshared.put {runs : Store Key AgentRun} (h : Unshared runs)
    (hrun : ∀ other ∈ runs, keyOf other ≠ keyOf run → other.workspaceId = run.workspaceId →
      other.runtimeConnectionId = run.runtimeConnectionId →
      ∀ e, run.externalRunId = some e → other.externalRunId ≠ some e) :
    Unshared (runs.put run) := by
  intro a ha b hb hws hconn e hea heb
  rcases Store.mem_put.mp ha with rfl | ⟨holda, hna⟩ <;>
    rcases Store.mem_put.mp hb with rfl | ⟨holdb, hnb⟩
  · rfl
  · exact absurd heb (hrun b holdb hnb hws.symm hconn.symm e hea)
  · exact absurd hea (hrun a holda hna hws hconn e heb)
  · exact h a holda b holdb hws hconn e hea heb

/-- Every effect keeps bindings unshared. -/
theorem Unshared.effect (h : Unshared plane.runs)
    (he : Effect options readings plane call outcome plane') : Unshared plane'.runs := by
  rcases he.runs_cases with hruns | ⟨_, new, _, _, hadmitted, hruns⟩
    | ⟨_, _, _, bound, _, _, hadmitted, hruns⟩ | ⟨_, _, next, moved, _, now, hadmitted, hruns⟩
  · rw [hruns]; exact h
  · rw [hruns]
    refine h.put fun other _ _ _ _ e he' => ?_
    rw [hadmitted.unbound] at he'
    cases he'
  · rw [hruns]
    refine h.put fun other hother hne hws hconn e he' => ?_
    have hid : other.id ≠ bound.id := fun hid => hne (by rw [keyOf_run, keyOf_run, hws, hid])
    rw [← he']
    exact hadmitted.unshared other hother hws hid hconn
  · rw [hruns]
    -- The moved run keeps its binding, and no other run has it.
    refine h.put fun other hother hne hws hconn e he' hother' => hne ?_
    have hmoved : moved ∈ plane.runs := Store.mem_of_get? hadmitted.found
    rw [h other hother moved hmoved hws hconn e hother' he']
    rfl

theorem Unshared.of_reachable (h : Reachable options plane) : Unshared plane.runs :=
  h.induction (P := fun plane => Unshared plane.runs)
    (fun run hrun => absurd hrun (Store.not_mem_empty run)) fun _ hu he => hu.effect he

/-! ## Active runs keep their connection and their adapter -/

/-- Rotating a connection leaves the identity that active runs use. -/
theorem ConnectionAdmitted.identity {context : WorkspaceContext} {connection : RuntimeConnection}
    (h : ConnectionAdmitted options plane context connection) {run : AgentRun}
    (hrun : run ∈ plane.runs) (hactive : run.status.Active) {current : RuntimeConnection}
    (hcurrent : plane.connections.get? (key run.workspaceId run.runtimeConnectionId) = some current) :
    ∃ connection',
      (plane.connections.put connection).get? (key run.workspaceId run.runtimeConnectionId)
        = some connection' ∧ connection'.runtimeId = current.runtimeId ∧
      connection'.authenticatedPrincipalId = current.authenticatedPrincipalId := by
  rw [Store.get?_put]
  split
  · rename_i hk
    rw [keyOf_connection, key_inj] at hk
    rw [hk.1, hk.2] at hcurrent
    -- The run is active, so the connection it uses keeps its identity.
    have hsame : ¬ ChangesIdentity connection current := fun hchange =>
      h.rotation current hcurrent hchange run hrun ⟨hk.1, hk.2⟩ hactive
    simp only [ChangesIdentity, not_or, not_not, ne_eq] at hsame
    exact ⟨connection, rfl, hsame.1, hsame.2.1⟩
  · exact ⟨current, hcurrent, rfl, rfl⟩

/-- An active bound run has the registration currently registered for its connection's runtime. -/
def RegisteredRun (connections : Store Key RuntimeConnection)
    (runtimeAdapters : OrderedMap Key AdapterRegistration) (run : AgentRun) : Prop :=
  run.status.Active → ∀ registrationId, run.adapterRegistrationId = some registrationId →
    ∃ connection, connections.get? (key run.workspaceId run.runtimeConnectionId) = some connection ∧
      (runtimeAdapters.get? (key run.workspaceId connection.runtimeId)).map
        AdapterRegistration.registrationId = some registrationId

/-- Every effect keeps the registrations of active bound runs. -/
theorem RegisteredRun.effect
    (h : ∀ run ∈ plane.runs, RegisteredRun plane.connections plane.runtimeAdapters run)
    (he : Effect options readings plane call outcome plane') :
    ∀ run ∈ plane'.runs, RegisteredRun plane'.connections plane'.runtimeAdapters run := by
  cases he with
  | @registerRuntimeAdapter context runtimeId adapter runtime admitted =>
    intro run hrun hactive registrationId hreg
    have hadmitted := AdapterAdmitted.of_ok admitted
    obtain ⟨connection, hconnection, hcurrent⟩ := h run hrun hactive registrationId hreg
    refine ⟨connection, hconnection, ?_⟩
    show ((plane.runtimeAdapters.set _ _).get? _).map _ = _
    rw [OrderedMap.get?_set, if_neg]
    · exact hcurrent
    · -- The run is bound to the adapter that would be replaced.
      intro hk
      obtain ⟨hws, hrid⟩ := key_inj.mp hk
      obtain ⟨previous, hprevious, hid⟩ := Option.map_eq_some_iff.mp hcurrent
      rw [hk] at hprevious
      refine (hadmitted.unused previous hprevious).2 run hrun ⟨hws, ?_, ?_⟩ hactive
      · rw [hid]; exact hreg
      · rw [hconnection, Option.map_some, hrid]
  | putConnection admitted =>
    intro run hrun hactive registrationId hreg
    have hadmitted := ConnectionAdmitted.of_ok admitted
    obtain ⟨current, hcurrent, hregistered⟩ := h run hrun hactive registrationId hreg
    obtain ⟨connection', hconnection', hrid, -⟩ :=
      hadmitted.identity hrun hactive hcurrent
    exact ⟨connection', hconnection', by rw [hrid]; exact hregistered⟩
  | startRun admitted =>
    obtain ⟨task, connection, hadmitted⟩ := RunAdmitted.of_ok admitted
    intro run hrun
    rcases Store.mem_put.mp hrun with rfl | ⟨hrun, -⟩
    · intro _ registrationId hreg
      rw [hadmitted.unregistered] at hreg
      cases hreg
    · exact h run hrun
  | @boundRun number frame externalRunId bound pending admitted =>
    obtain ⟨connection, hadmitted⟩ := BindingAdmitted.of_ok admitted
    intro run hrun
    rcases Store.mem_put.mp hrun with rfl | ⟨hrun, -⟩
    · intro _ registrationId hreg
      have hws : bound.workspaceId = frame.context.workspaceId :=
        (key_inj.mp (Store.keyOf_of_get? hadmitted.found)).1
      rw [Option.some.injEq] at hreg
      refine ⟨connection, ?_, ?_⟩
      · show plane.connections.get? (key bound.workspaceId bound.runtimeConnectionId) = _
        rw [hws]; exact hadmitted.connection_found
      · show (plane.runtimeAdapters.get? (key bound.workspaceId connection.runtimeId)).map _ = _
        rw [hws, ← hreg]; exact hadmitted.registered
    · exact h run hrun
  | @transitionRun context runId next moved task now admitted =>
    have hadmitted := RunTransitionAdmitted.of_ok admitted
    intro run hrun
    rcases Store.mem_put.mp hrun with rfl | ⟨hrun, -⟩
    · intro _ registrationId hreg
      exact h moved (Store.mem_of_get? hadmitted.found)
        (active_of_runTransitions hadmitted.legal) registrationId hreg
    · exact h run hrun
  | _ => exact h

theorem RegisteredRun.of_reachable (h : Reachable options plane) :
    ∀ run ∈ plane.runs, RegisteredRun plane.connections plane.runtimeAdapters run :=
  h.induction
    (P := fun plane => ∀ run ∈ plane.runs,
      RegisteredRun plane.connections plane.runtimeAdapters run)
    (fun run hrun => absurd hrun (Store.not_mem_empty run))
    fun _ hr he => RegisteredRun.effect hr he

end VentureOS.ControlPlane
