import VentureOS.ControlPlane.Starts

/-! # The evidence behind a connected runtime

`deriveConnectionStatus` looks only at part of the evidence for `CONNECTED`. The rest was looked at
when the connection was stored, or when a heartbeat, an event or a binding was recorded, and has not
changed since: heartbeats and events are never replaced, and a run keeps its binding. This module
traces each piece of evidence back to the step of the history that recorded it. -/

namespace VentureOS.ControlPlane

variable {σ : Type} {options : Options σ} {readings : Readings} {plane plane' : Plane} {call : Call}
  {outcome : Except Failure Answer}

/-! ## What was recorded, and by whom -/

/-- The step is a call of the control plane that was accepted. -/
def Accepts (e : Step σ) (call : Call) : Prop := e.label.call = call ∧ e.outcome = .ok .done

/-- Heartbeats are only added, by `recordHeartbeat`. -/
theorem Effect.heartbeats_cases (he : Effect options readings plane call outcome plane') :
    plane'.heartbeats = plane.heartbeats ∨ ∃ context heartbeat,
      call = .recordHeartbeat context heartbeat ∧ outcome = .ok .done ∧
      HeartbeatAdmitted plane context heartbeat ∧
      plane'.heartbeats = plane.heartbeats.put heartbeat := by
  cases he with
  | recordHeartbeat admitted =>
    exact .inr ⟨_, _, rfl, rfl, HeartbeatAdmitted.of_ok admitted, rfl⟩
  | _ => exact .inl rfl

/-- Events are only added, by `appendEvent`. -/
theorem Effect.eventsById_cases (he : Effect options readings plane call outcome plane') :
    plane'.eventsById = plane.eventsById ∨ ∃ context event,
      call = .appendEvent context event ∧ outcome = .ok .done ∧
      EventAdmitted plane context event ∧ plane' = { plane with
        eventsById := plane.eventsById.put event
        eventIdempotency := plane.eventIdempotency.set (key event.workspaceId event.idempotencyKey)
          event.id } := by
  cases he with
  | appendEvent admitted => exact .inr ⟨_, _, rfl, rfl, EventAdmitted.of_ok admitted, rfl⟩
  | _ => exact .inl rfl

/-- Claims are only added, by a call of `adapter.start`. -/
theorem Effect.claimed_called (hreach : Reachable options plane)
    (he : Effect options readings plane call outcome plane') :
    plane'.claimedDispatchRuns = plane.claimedDispatchRuns ∨ ∃ number frame,
      outcome = .ok (.startCalled number frame) ∧
      plane'.claimedDispatchRuns = insert frame.runKey plane.claimedDispatchRuns := by
  cases he with
  | lostStart owned valid lost => exact absurd lost (not_lost_of_valid hreach valid _)
  | calledStart owned valid called =>
    refine .inr ⟨_, _, rfl, ?_⟩
    rw [(StartCalled.of_ok called).runKey_eq]
    rfl
  | _ => exact .inl rfl

/-- A binding was there before, or is made by resolving `adapter.start`. -/
theorem Effect.bound_cases (he : Effect options readings plane call outcome plane')
    {run : AgentRun} (hrun : run ∈ plane'.runs) {externalRunId : String}
    (hbound : run.externalRunId = some externalRunId) :
    (∃ run' ∈ plane.runs, keyOf run' = keyOf run ∧ run'.externalRunId = some externalRunId) ∨
      outcome = .ok (.started externalRunId) ∧ ∃ number frame,
        call = .startResolved number (some (.str externalRunId)) ∧
        plane.pendingStarts.get? number = some frame ∧ frame.runKey = keyOf run := by
  cases he with
  | startRun admitted =>
    obtain ⟨task, connection, hadmitted⟩ := RunAdmitted.of_ok admitted
    rcases Store.mem_put.mp hrun with rfl | ⟨hrun, -⟩
    · rw [hadmitted.unbound] at hbound
      cases hbound
    · exact .inl ⟨run, hrun, rfl, hbound⟩
  | boundRun pending admitted =>
    obtain ⟨connection, hadmitted⟩ := BindingAdmitted.of_ok admitted
    rcases Store.mem_put.mp hrun with rfl | ⟨hrun, -⟩
    · obtain rfl := Option.some.inj hbound
      exact .inr ⟨rfl, _, _, rfl, pending, (Store.keyOf_of_get? hadmitted.found).symm⟩
    · exact .inl ⟨run, hrun, rfl, hbound⟩
  | transitionRun admitted =>
    have hadmitted := RunTransitionAdmitted.of_ok admitted
    rcases Store.mem_put.mp hrun with rfl | ⟨hrun, -⟩
    · exact .inl ⟨_, Store.mem_of_get? hadmitted.found, rfl, hbound⟩
    · exact .inl ⟨run, hrun, rfl, hbound⟩
  | _ => exact .inl ⟨run, hrun, rfl, hbound⟩

/-- What a history says about the records of the plane it leads to: who recorded each heartbeat and
each event, which step claimed each claimed run, and which step bound each bound run. -/
structure Recorded (steps : List (Step σ)) (plane : Plane) : Prop where
  heartbeat : ∀ heartbeat ∈ plane.heartbeats, ∃ e ∈ steps, Accepts e
    (.recordHeartbeat ⟨heartbeat.workspaceId, heartbeat.principalId⟩ heartbeat)
  event : ∀ event ∈ plane.eventsById, ∃ e ∈ steps, Accepts e
    (.appendEvent ⟨event.workspaceId, event.actorId⟩ event)
  claim : ∀ k ∈ plane.claimedDispatchRuns, ∃ e ∈ steps, startedRun e = some k
  binding : ∀ run ∈ plane.runs, ∀ externalRunId, run.externalRunId = some externalRunId →
    ∃ e ∈ steps, e.outcome = .ok (.started externalRunId) ∧ ∃ number frame,
      e.label.call = .startResolved number (some (.str externalRunId)) ∧
      e.before.plane.pendingStarts.get? number = some frame ∧ frame.runKey = keyOf run

variable {steps : List (Step σ)}

/-- A witness among the steps so far is a witness among all steps. -/
theorem exists_mem_concat {P : Step σ → Prop} (e : Step σ)
    (h : ∃ s ∈ steps, P s) : ∃ s ∈ steps ++ [e], P s := by
  obtain ⟨s, hs, hP⟩ := h
  exact ⟨s, List.mem_append_left _ hs, hP⟩

/-- The last step as a witness. -/
theorem exists_mem_last {P : Step σ → Prop} (steps : List (Step σ)) {e : Step σ} (h : P e) :
    ∃ s ∈ steps ++ [e], P s :=
  ⟨e, List.mem_append_right _ (List.mem_singleton.mpr rfl), h⟩

/-- One more step keeps every record accounted for. -/
theorem Recorded.step {e : Step σ}
    (hreach : Reachable options e.before.plane) (h : Recorded steps e.before.plane)
    (he : Effect options e.label.readings e.before.plane e.label.call e.outcome e.after.plane) :
    Recorded (steps ++ [e]) e.after.plane := by
  refine ⟨fun heartbeat hheartbeat => ?_, fun event hevent => ?_, fun k hk => ?_,
    fun run hrun externalRunId hbound => ?_⟩
  · rcases he.heartbeats_cases with hsame | ⟨context, new, hcall, hok, hadmitted, hput⟩
    · exact exists_mem_concat e (h.heartbeat heartbeat (hsame ▸ hheartbeat))
    · rw [hput] at hheartbeat
      rcases Store.mem_put.mp hheartbeat with rfl | ⟨hheartbeat, -⟩
      · refine exists_mem_last steps ⟨?_, hok⟩
        rw [hcall, ← hadmitted.workspace, ← hadmitted.principal]
      · exact exists_mem_concat e (h.heartbeat heartbeat hheartbeat)
  · rcases he.eventsById_cases with hsame | ⟨context, new, hcall, hok, hadmitted, hput⟩
    · exact exists_mem_concat e (h.event event (hsame ▸ hevent))
    · rw [hput] at hevent
      rcases Store.mem_put.mp hevent with rfl | ⟨hevent, -⟩
      · refine exists_mem_last steps ⟨?_, hok⟩
        rw [hcall, ← hadmitted.workspace, ← hadmitted.actor]
      · exact exists_mem_concat e (h.event event hevent)
  · rcases he.claimed_called hreach with hsame | ⟨number, frame, hcalled, hclaimed⟩
    · exact exists_mem_concat e (h.claim k (hsame ▸ hk))
    · rw [hclaimed, Finset.mem_insert] at hk
      rcases hk with rfl | hk
      · exact exists_mem_last steps (by rw [startedRun, hcalled])
      · exact exists_mem_concat e (h.claim k hk)
  · rcases he.bound_cases hrun hbound with ⟨run', hrun', hkey, hbound'⟩ | ⟨hok, number, frame, hnew⟩
    · rw [← hkey]
      exact exists_mem_concat e (h.binding run' hrun' externalRunId hbound')
    · exact exists_mem_last steps ⟨hok, number, frame, hnew⟩

/-- **Every record is accounted for by the history.** -/
theorem Recorded.of_trace (options : Options σ) (sink : σ) (labels : List Label) :
    Recorded (trace options sink labels) (reach options sink labels).plane := by
  refine trace_induction ⟨fun heartbeat hheartbeat => ?_, fun event hevent => ?_, fun k hk => ?_,
    fun run hrun => ?_⟩ (fun hreach h he => h.step hreach he) labels
  · exact absurd hheartbeat (Store.not_mem_empty heartbeat)
  · exact absurd hevent (Store.not_mem_empty event)
  · simp [Plane.empty] at hk
  · exact absurd hrun (Store.not_mem_empty run)

/-! ## Stored heartbeat proofs -/

/-- The heartbeat that the connection offers as a proof was recorded on it by its principal. -/
def HeartbeatProven (heartbeats : Store Key Heartbeat) (connection : RuntimeConnection) : Prop :=
  ∀ proof, connection.heartbeatProof = some proof → ∃ heartbeat,
    heartbeats.get? (key connection.workspaceId proof.heartbeatId) = some heartbeat ∧
    connection.authenticatedPrincipalId = some heartbeat.principalId

/-- `putConnection` tests the heartbeat proof. -/
theorem ConnectionAdmitted.heartbeatProven {context : WorkspaceContext}
    {connection : RuntimeConnection} (h : ConnectionAdmitted options plane context connection) :
    HeartbeatProven plane.heartbeats connection := by
  intro proof hproof
  have hproofs := h.proofs
  simp only [validateConnectionProofs, except_bind_eq_ok, hproof, ifPresent_some,
    validateHeartbeatProof, requireRecord_eq_ok, throwIf_eq_ok, not_or, ne_eq, not_not,
    exists_const] at hproofs
  obtain ⟨-, _, -, _, -, ⟨-, heartbeat, hfound, -, hprincipal, -⟩, -⟩ := hproofs
  rw [h.workspace] at hfound
  exact ⟨heartbeat, hfound, hprincipal.symm⟩

/-- Every effect keeps heartbeat proofs: heartbeats are never replaced. -/
theorem HeartbeatProven.effect
    (h : ∀ connection ∈ plane.connections, HeartbeatProven plane.heartbeats connection)
    (he : Effect options readings plane call outcome plane') :
    ∀ connection ∈ plane'.connections, HeartbeatProven plane'.heartbeats connection := by
  cases he with
  | putConnection admitted =>
    intro connection hconnection
    rcases Store.mem_put.mp hconnection with rfl | ⟨hconnection, -⟩
    · exact (ConnectionAdmitted.of_ok admitted).heartbeatProven
    · exact h connection hconnection
  | recordHeartbeat admitted =>
    intro connection hconnection proof hproof
    obtain ⟨heartbeat, hfound, hprincipal⟩ := h connection hconnection proof hproof
    have hfresh := (HeartbeatAdmitted.of_ok admitted).fresh
    exact ⟨heartbeat, Store.get?_put_of_fresh hfresh hfound, hprincipal⟩
  | _ => exact h

theorem HeartbeatProven.of_reachable (h : Reachable options plane) :
    ∀ connection ∈ plane.connections, HeartbeatProven plane.heartbeats connection :=
  h.induction
    (P := fun plane => ∀ connection ∈ plane.connections,
      HeartbeatProven plane.heartbeats connection)
    (fun connection hconnection => absurd hconnection (Store.not_mem_empty connection))
    fun _ hp he => HeartbeatProven.effect hp he

/-! ## Connected -/

/-- What `deriveConnectionStatus` has found when it answers `CONNECTED`. -/
structure ConnectedRecords (options : Options σ) (now : Int) (plane : Plane)
    (connection : RuntimeConnection) (heartbeatProof : HeartbeatProof)
    (roundTrip : TaskRoundTripProof) (heartbeat : Heartbeat) (run : AgentRun)
    (event : ControlPlaneEvent) : Prop where
  heartbeat_proof : connection.heartbeatProof = some heartbeatProof
  heartbeat_found :
    plane.heartbeats.get? (key connection.workspaceId heartbeatProof.heartbeatId) = some heartbeat
  heartbeat_connection : heartbeat.runtimeConnectionId = connection.id
  healthy : heartbeat.health = .HEALTHY
  fresh : ∃ observedAt, options.dateParse heartbeat.observedAt = some observedAt ∧
    -30000 ≤ now - observedAt ∧ now - observedAt ≤ options.heartbeatFreshnessMs
  round_trip : connection.taskRoundTripProof = some roundTrip
  run_found : plane.runs.get? (key connection.workspaceId roundTrip.runId) = some run
  event_found :
    plane.eventsById.get? (key connection.workspaceId roundTrip.resultEventId) = some event
  run_connection : run.runtimeConnectionId = connection.id
  completed : run.status = .COMPLETED
  event_run : event.runId = some run.id
  event_type : event.type = "run.completed"
  event_actor : connection.authenticatedPrincipalId = some event.actorId

theorem dateParse_of_parsedTime {dateParse : String → Option Int} {value field : String}
    {time : Int} (h : parsedTime dateParse value field = .ok time) :
    dateParse value = some time := by
  unfold parsedTime at h
  split at h
  · rename_i parsed hparsed
    rw [hparsed]
    simpa using h
  · cases h

theorem ConnectedRecords.of_ok {now : Int} {context : WorkspaceContext} {connectionId : EntityId}
    (h : deriveConnectionStatus options now plane context connectionId = .ok .CONNECTED) :
    ∃ connection heartbeatProof roundTrip heartbeat run event,
      plane.connections.get? (key context.workspaceId connectionId) = some connection ∧
      ConnectedRecords options now plane connection heartbeatProof roundTrip heartbeat run
        event := by
  rw [deriveConnectionStatus, except_bind_eq_ok] at h
  obtain ⟨connection, hfound, h⟩ := h
  rw [requireRecord_eq_ok] at hfound
  -- Every branch but one answers with another status.
  split at h
  · cases h
  split at h
  · cases h
  · rename_i heartbeatProof roundTrip _ _ hheartbeat hround
    split at h
    · cases h
    · rename_i heartbeat hheartbeatFound
      split at h
      · cases h
      split at h
      · cases h
      rename_i hconnection hhealthy
      rw [except_bind_eq_ok] at h
      obtain ⟨observedAt, hobserved, h⟩ := h
      dsimp only at h
      split at h
      · cases h
      rename_i hage
      split at h
      · rename_i task run event htask hrun hevent
        split at h
        · cases h
        · rename_i agent hagent
          split at h
          · cases h
          · rename_i hrecords
            simp only [not_or, not_not, ne_eq] at hrecords
            obtain ⟨-, -, -, hrunConnection, hcompleted, heventRun, heventType, hactor⟩ := hrecords
            rw [not_or, not_lt, not_lt] at hage
            exact ⟨connection, heartbeatProof, roundTrip, heartbeat, run, event, hfound, hheartbeat,
              hheartbeatFound, not_not.mp hconnection, not_not.mp hhealthy,
              ⟨observedAt, dateParse_of_parsedTime hobserved, hage⟩, hround, hrun, hevent,
              hrunConnection, hcompleted, heventRun, heventType, hactor.symm⟩
      · cases h
  · cases h

/-- The heartbeat was recorded on the connection by the principal, is healthy and is fresh: at most
`heartbeatFreshnessMs` old and at most 30 seconds ahead of the clock. -/
structure HeartbeatEvidence (options : Options σ) (now : Int) (steps : List (Step σ))
    (connection : RuntimeConnection) (principalId : EntityId) (heartbeat : Heartbeat) : Prop where
  recorded : ∃ e ∈ steps,
    Accepts e (.recordHeartbeat ⟨connection.workspaceId, principalId⟩ heartbeat)
  on_connection : heartbeat.runtimeConnectionId = connection.id
  healthy : heartbeat.health = .HEALTHY
  fresh : ∃ observedAt, options.dateParse heartbeat.observedAt = some observedAt ∧
    now - observedAt ≤ options.heartbeatFreshnessMs ∧ observedAt - now ≤ 30000

/-- The run completed on the connection after its permit was claimed for a call of `adapter.start`
and an external run was bound to it, and the principal recorded its completion. -/
structure RoundTripEvidence (steps : List (Step σ)) (claimed : Finset Key)
    (connection : RuntimeConnection) (principalId : EntityId) (run : AgentRun)
    (event : ControlPlaneEvent) : Prop where
  on_connection : run.runtimeConnectionId = connection.id
  completed : run.status = .COMPLETED
  claim : keyOf run ∈ claimed ∧ ∃ e ∈ steps, startedRun e = some (keyOf run)
  binding : ∃ externalRunId, run.externalRunId = some externalRunId ∧
    ∃ e ∈ steps, e.outcome = .ok (.started externalRunId) ∧ ∃ number frame,
      e.label.call = .startResolved number (some (.str externalRunId)) ∧
      e.before.plane.pendingStarts.get? number = some frame ∧ frame.runKey = keyOf run
  event_run : event.runId = some run.id
  event_type : event.type = "run.completed"
  authored : ∃ e ∈ steps, Accepts e (.appendEvent ⟨connection.workspaceId, principalId⟩ event)

/-- The heartbeat and the round trip named by the proofs of the connection are stored, and are
evidence for its current principal. -/
def ProvenConnection (options : Options σ) (now : Int) (steps : List (Step σ)) (plane : Plane)
    (connection : RuntimeConnection) : Prop :=
  ∃ principalId, connection.authenticatedPrincipalId = some principalId ∧
    (∃ proof heartbeat, connection.heartbeatProof = some proof ∧
      plane.heartbeats.get? (key connection.workspaceId proof.heartbeatId) = some heartbeat ∧
      HeartbeatEvidence options now steps connection principalId heartbeat) ∧
    ∃ proof run event, connection.taskRoundTripProof = some proof ∧
      plane.runs.get? (key connection.workspaceId proof.runId) = some run ∧
      plane.eventsById.get? (key connection.workspaceId proof.resultEventId) = some event ∧
      RoundTripEvidence steps plane.claimedDispatchRuns connection principalId run event

/-- A connection that passes the tests of the status in a state where every record is accounted for
is proven. -/
theorem ConnectedRecords.proven {now : Int}
    (hreach : Reachable options plane) (hrecorded : Recorded steps plane)
    {connection : RuntimeConnection} (hconnection : connection ∈ plane.connections) {heartbeatProof : HeartbeatProof}
    {roundTrip : TaskRoundTripProof} {heartbeat : Heartbeat} {run : AgentRun}
    {event : ControlPlaneEvent}
    (h : ConnectedRecords options now plane connection heartbeatProof roundTrip heartbeat run event) :
    ProvenConnection options now steps plane connection := by
  -- The stored proof names a heartbeat of the current principal, who also signed the event.
  obtain ⟨heartbeat', hfound, hprincipal⟩ :=
    HeartbeatProven.of_reachable hreach connection hconnection heartbeatProof h.heartbeat_proof
  obtain rfl : heartbeat = heartbeat' := Option.some.inj (h.heartbeat_found.symm.trans hfound)
  have hactor : event.actorId = heartbeat.principalId :=
    Option.some.inj (h.event_actor.symm.trans hprincipal)
  have hheartbeatWs : heartbeat.workspaceId = connection.workspaceId :=
    (key_inj.mp (Store.keyOf_of_get? hfound)).1
  have heventWs : event.workspaceId = connection.workspaceId :=
    (key_inj.mp (Store.keyOf_of_get? h.event_found)).1
  -- A completed run was claimed and bound.
  have hrun := Store.mem_of_get? h.run_found
  obtain ⟨hclaimed, ⟨externalRunId, hbound⟩, -⟩ := (OwnedRun.of_reachable hreach run hrun).bound
    (by simp [h.completed]) (by simp [h.completed])
  refine ⟨heartbeat.principalId, hprincipal, ⟨heartbeatProof, heartbeat, h.heartbeat_proof, hfound,
    ⟨?_, h.heartbeat_connection, h.healthy, ?_⟩⟩, roundTrip, run, event, h.round_trip, h.run_found,
    h.event_found, ⟨h.run_connection, h.completed, ⟨hclaimed, hrecorded.claim _ hclaimed⟩,
      ⟨externalRunId, hbound, hrecorded.binding run hrun externalRunId hbound⟩, h.event_run,
      h.event_type, ?_⟩⟩
  · rw [← hheartbeatWs]
    exact hrecorded.heartbeat heartbeat (Store.mem_of_get? hfound)
  · obtain ⟨observedAt, hparse, hahead, hage⟩ := h.fresh
    exact ⟨observedAt, hparse, hage, by omega⟩
  · rw [← heventWs, ← hactor]
    exact hrecorded.event event (Store.mem_of_get? h.event_found)

/-- **A connected runtime is proven.** In every reachable state, whenever `deriveConnectionStatus`
answers `CONNECTED`, the proofs of the connection name a fresh healthy heartbeat and a completed run
of its current principal. -/
theorem connected_is_proven (options : Options σ) (sink : σ) (labels : List Label) (now : Int)
    (context : WorkspaceContext) (connectionId : EntityId)
    (hconnected : deriveConnectionStatus options now (reach options sink labels).plane context
      connectionId = .ok .CONNECTED) :
    ∃ connection, (reach options sink labels).plane.connections.get?
        (key context.workspaceId connectionId) = some connection ∧
      ProvenConnection options now (trace options sink labels) (reach options sink labels).plane
        connection := by
  obtain ⟨connection, heartbeatProof, roundTrip, heartbeat, run, event, hfound, hrecords⟩ :=
    ConnectedRecords.of_ok hconnected
  exact ⟨connection, hfound, hrecords.proven (reachable_reach options sink labels)
    (Recorded.of_trace options sink labels) (Store.mem_of_get? hfound)⟩

/-- The sample run connects its runtime. -/
theorem sample_connected_is_proven :
    deriveConnectionStatus Sample.options 0 (reach Sample.options () Sample.connected).plane
      Sample.worker "x" = .ok .CONNECTED ∧
    ∃ connection, (reach Sample.options () Sample.connected).plane.connections.get? (key "w" "x")
        = some connection ∧
      ProvenConnection Sample.options 0 (trace Sample.options () Sample.connected)
        (reach Sample.options () Sample.connected).plane connection :=
  have hconnected : deriveConnectionStatus Sample.options 0
      (reach Sample.options () Sample.connected).plane Sample.worker "x" = .ok .CONNECTED := by
    decide +kernel
  ⟨hconnected, connected_is_proven Sample.options () Sample.connected 0 Sample.worker "x" hconnected⟩

end VentureOS.ControlPlane
