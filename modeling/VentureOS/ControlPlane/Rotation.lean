import VentureOS.ControlPlane.Evidence

/-! # Round trips and rotated principals

The status `CONNECTED` rests on a `run.completed` event of the current principal, and the plane does
not record which principal executed a run. `appendEvent` compares the author of an event with the
principal the connection has *now*, so after a rotation the new principal may report the completion
of a run that its predecessor executed.

`CompletionByExecutor` is the test that is missing, as a condition on the steps of a run. Under it a
connected runtime executed its round trip under its current principal; the invariant that carries
the proof is `CompletionOwned`. -/

namespace VentureOS.ControlPlane

variable {σ : Type} {options : Options σ} {readings : Readings} {plane plane' : Plane} {call : Call}
  {outcome : Except Failure Answer}

/-! ## Executors and reports -/

/-- The principal whose permit a step claimed to call `adapter.start`. -/
def executor (e : Step σ) : Option EntityId :=
  match e.outcome with
  | .ok (.startCalled _ frame) => frame.dispatch.runtimePrincipalId
  | _ => none

/-- The `run.completed` event a step appended. -/
def completionOf (e : Step σ) : Option ControlPlaneEvent :=
  match e.label.call, e.outcome with
  | .appendEvent _ event, .ok _ => if event.type = "run.completed" then some event else none
  | _, _ => none

/-- **Completions are reported by the executor:** a `run.completed` event names its run by an id
that is not empty, and if the permit of the run was claimed before, the author claimed it. -/
def CompletionByExecutor (past : List (Step σ)) (e : Step σ) : Prop :=
  ∀ event ∈ completionOf e, ∀ runId ∈ event.runId, runId ≠ "" ∧
    ∀ s ∈ past, startedRun s = some (key event.workspaceId runId) →
      executor s = some event.actorId

instance (past : List (Step σ)) (e : Step σ) : Decidable (CompletionByExecutor past e) :=
  inferInstanceAs (Decidable (∀ event ∈ completionOf e, ∀ runId ∈ event.runId, _ ∧ ∀ s ∈ past, _))

/-- A step that calls `adapter.start` for a run does so for the principal of its connection. -/
theorem executor_of_startedRun {e : Step σ} {k : Key}
    (he : Effect options e.label.readings e.before.plane e.label.call e.outcome e.after.plane)
    (h : startedRun e = some k) : ∃ run connection,
      e.before.plane.runs.get? k = some run ∧ run.status = .QUEUED ∧
      e.before.plane.connections.get? (key run.workspaceId run.runtimeConnectionId)
        = some connection ∧
      executor e = connection.authenticatedPrincipalId := by
  obtain ⟨number, frame, houtcome, rfl⟩ := exists_of_startedRun h
  have hexecutor : executor e = frame.dispatch.runtimePrincipalId := by rw [executor, houtcome]
  rw [houtcome] at he
  obtain ⟨context, dispatch, stored, -, howned, hvalid, hcalled, -⟩ := he.of_startCalled
  obtain ⟨run, connection, registration, hvalid⟩ := DispatchValid.of_ok hvalid
  have hws : run.workspaceId = context.workspaceId :=
    (key_inj.mp (Store.keyOf_of_get? hvalid.run_found)).1
  refine ⟨run, connection, ?_, hvalid.queued, ?_, ?_⟩
  · rw [hcalled.runKey_eq]
    exact hvalid.run_found
  · rw [hws]
    exact hvalid.connection_found
  · rw [hexecutor, hcalled.dispatch_eq, (stored_of_ownedDispatch howned).2, hvalid.principal]

/-! ## Reported completions -/

/-- The principal of the connection of an active run is kept. -/
theorem Effect.principal_kept (he : Effect options readings plane call outcome plane')
    {run : AgentRun} (hrun : run ∈ plane.runs) (hactive : run.status.Active)
    {connection : RuntimeConnection}
    (hconnection : plane.connections.get? (key run.workspaceId run.runtimeConnectionId) = some connection) :
    ∃ connection', plane'.connections.get? (key run.workspaceId run.runtimeConnectionId)
        = some connection' ∧
      connection'.authenticatedPrincipalId = connection.authenticatedPrincipalId := by
  cases he with
  | putConnection admitted =>
    obtain ⟨connection', hconnection', -, hprincipal⟩ :=
      (ConnectionAdmitted.of_ok admitted).identity hrun hactive hconnection
    exact ⟨connection', hconnection', hprincipal⟩
  | _ => exact ⟨connection, hconnection, rfl⟩

/-- **A reported completion belongs to its author:** the run is recorded, whoever claims its permit
is the author, and as long as nobody has and the run is active, the author is the principal of its
connection, the only one who can. -/
structure CompletionOwned (steps : List (Step σ)) (plane : Plane) (author : EntityId) (k : Key)
    (run : AgentRun) : Prop where
  found : plane.runs.get? k = some run
  executed : ∀ s ∈ steps, startedRun s = some k → executor s = some author
  waiting : k ∉ plane.claimedDispatchRuns → run.status.Active → ∃ connection,
    plane.connections.get? (key run.workspaceId run.runtimeConnectionId) = some connection ∧
    connection.authenticatedPrincipalId = some author

/-- A reported completion still belongs to its author after one more step. -/
theorem CompletionOwned.step {steps : List (Step σ)} {e : Step σ} {author : EntityId} {k : Key}
    {run : AgentRun} (hreach : Reachable options e.before.plane)
    (h : CompletionOwned steps e.before.plane author k run)
    (he : Effect options e.label.readings e.before.plane e.label.call e.outcome e.after.plane) :
    ∃ run', CompletionOwned (steps ++ [e]) e.after.plane author k run' := by
  obtain ⟨run', hrun', hcontinues⟩ := he.run_continues h.found
  refine ⟨run', hrun', fun s hs hstarted => ?_, fun hunclaimed hactive => ?_⟩
  · rcases List.mem_append.mp hs with hs | hs
    · exact h.executed s hs hstarted
    · -- The permit is claimed in this step, for the principal of the connection.
      obtain rfl := List.mem_singleton.mp hs
      obtain ⟨queued, connection, hfound, hqueued, hconnection, hexecutor⟩ :=
        executor_of_startedRun he hstarted
      obtain rfl : run = queued := Option.some.inj (h.found.symm.trans hfound)
      obtain ⟨connection', hconnection', hprincipal⟩ :=
        h.waiting (claimed_of_startedRun hreach he hstarted).1 (Or.inl hqueued)
      obtain rfl : connection = connection' :=
        Option.some.inj (hconnection.symm.trans hconnection')
      rw [hexecutor, hprincipal]
  · have hbefore := hcontinues.active hactive
    obtain ⟨connection, hconnection, hprincipal⟩ :=
      h.waiting (fun hk => hunclaimed (he.claimed_subset hk)) hbefore
    obtain ⟨connection', hconnection', hkept⟩ :=
      he.principal_kept (Store.mem_of_get? h.found) hbefore hconnection
    rw [hcontinues.workspace, hcontinues.connection]
    exact ⟨connection', hconnection', hkept.trans hprincipal⟩

/-- A completion that the executor reports belongs to its author. -/
theorem CompletionOwned.of_appended {steps : List (Step σ)} {e : Step σ}
    {context : WorkspaceContext} {event : ControlPlaneEvent} {runId : EntityId}
    (hcall : e.label.call = .appendEvent context event) (hok : e.outcome = .ok .done)
    (hruns : e.after.plane.runs = e.before.plane.runs)
    (hconnections : e.after.plane.connections = e.before.plane.connections)
    (hadmitted : EventAdmitted e.before.plane context event)
    (htype : event.type = "run.completed") (hrunId : event.runId = some runId)
    (hexecutor : CompletionByExecutor steps e) :
    ∃ run, CompletionOwned (steps ++ [e]) e.after.plane event.actorId
      (key event.workspaceId runId) run := by
  have hcompletion : event ∈ completionOf e := by
    rw [completionOf, hcall, hok]
    simp [htype]
  obtain ⟨hne, hpast⟩ := hexecutor event hcompletion runId hrunId
  obtain ⟨run, connection, hrun, hconnection, hprincipal⟩ := hadmitted.owner runId hrunId hne
  have hws : run.workspaceId = event.workspaceId := (key_inj.mp (Store.keyOf_of_get? hrun)).1
  refine ⟨run, ?_, fun s hs hstarted => ?_, fun _ _ => ⟨connection, ?_, hprincipal⟩⟩
  · rw [hruns]
    exact hrun
  · rcases List.mem_append.mp hs with hs | hs
    · exact hpast s hs hstarted
    · obtain rfl := List.mem_singleton.mp hs
      rw [startedRun, hok] at hstarted
      cases hstarted
  · rw [hconnections, hws]
    exact hconnection

/-- **Completions belong to their authors** in every run whose completions are reported by the
executors. -/
theorem completions_owned (options : Options σ) (sink : σ) (labels : List Label)
    (hsteps : EachStep CompletionByExecutor [] (trace options sink labels)) :
    ∀ event ∈ (reach options sink labels).plane.eventsById, event.type = "run.completed" →
      ∀ runId, event.runId = some runId → ∃ run, CompletionOwned (trace options sink labels)
        (reach options sink labels).plane event.actorId (key event.workspaceId runId) run := by
  refine trace_induction (P := fun steps plane => EachStep CompletionByExecutor [] steps →
    ∀ event ∈ plane.eventsById, event.type = "run.completed" → ∀ runId, event.runId = some runId →
      ∃ run, CompletionOwned steps plane event.actorId (key event.workspaceId runId) run)
    (fun _ event hevent => absurd hevent (Store.not_mem_empty event)) ?_ labels hsteps
  intro steps e hreach ih he hsteps event hevent htype runId hrunId
  obtain ⟨hbefore, hstep⟩ := (eachStep_concat CompletionByExecutor).mp hsteps
  have hold : event ∈ e.before.plane.eventsById → ∃ run, CompletionOwned (steps ++ [e])
      e.after.plane event.actorId (key event.workspaceId runId) run := by
    intro hevent
    obtain ⟨run, howned⟩ := ih hbefore event hevent htype runId hrunId
    exact howned.step hreach he
  rcases he.eventsById_cases with hsame | ⟨context, new, hcall, hok, hadmitted, hput⟩
  · exact hold (hsame ▸ hevent)
  · rw [hput] at hevent
    rcases Store.mem_put.mp hevent with rfl | ⟨hevent, -⟩
    · exact CompletionOwned.of_appended hcall hok (by rw [hput]) (by rw [hput]) hadmitted htype
        hrunId hstep
    · exact hold hevent

/-! ## Connected principals -/

/-- The round trip that the connection offers as a proof was executed: its permit was claimed, and
whoever claimed it is the current principal of the connection. -/
def ExecutedByPrincipal (steps : List (Step σ)) (plane : Plane) (context : WorkspaceContext)
    (connectionId : EntityId) : Prop :=
  ∃ connection proof,
    plane.connections.get? (key context.workspaceId connectionId) = some connection ∧
    connection.taskRoundTripProof = some proof ∧
    (∃ e ∈ steps, startedRun e = some (key connection.workspaceId proof.runId)) ∧
    ∀ e ∈ steps, startedRun e = some (key connection.workspaceId proof.runId) →
      executor e = connection.authenticatedPrincipalId

/-- **A connected principal executed its round trip,** in every run whose completions are reported
by the executors. -/
theorem connected_round_trip_executed_by_principal (options : Options σ) (sink : σ)
    (labels : List Label) (hsteps : EachStep CompletionByExecutor [] (trace options sink labels))
    (now : Int) (context : WorkspaceContext) (connectionId : EntityId)
    (hconnected : deriveConnectionStatus options now (reach options sink labels).plane context
      connectionId = .ok .CONNECTED) :
    ExecutedByPrincipal (trace options sink labels) (reach options sink labels).plane context
      connectionId := by
  obtain ⟨connection, heartbeatProof, proof, heartbeat, run, event, hfound, hrecords⟩ :=
    ConnectedRecords.of_ok hconnected
  have hreach := reachable_reach options sink labels
  have hrun : run ∈ (reach options sink labels).plane.runs := Store.mem_of_get? hrecords.run_found
  have hkey : keyOf run = key connection.workspaceId proof.runId :=
    Store.keyOf_of_get? hrecords.run_found
  have hid : run.id = proof.runId := (key_inj.mp hkey).2
  have heventWs : event.workspaceId = connection.workspaceId :=
    (key_inj.mp (Store.keyOf_of_get? hrecords.event_found)).1
  obtain ⟨hclaimed, -, -⟩ := (OwnedRun.of_reachable hreach run hrun).bound
    (by simp [hrecords.completed]) (by simp [hrecords.completed])
  -- The event that the status found was reported by the executor of the run.
  obtain ⟨run', howned⟩ := completions_owned options sink labels hsteps event
    (Store.mem_of_get? hrecords.event_found) hrecords.event_type run.id hrecords.event_run
  refine ⟨connection, proof, hfound, hrecords.round_trip, ?_, fun e he hstarted => ?_⟩
  · rw [← hkey]
    exact (Recorded.of_trace options sink labels).claim _ hclaimed
  · rw [hrecords.event_actor]
    refine howned.executed e he ?_
    rw [heventWs, hid]
    exact hstarted

/-- The sample run reports its completion by the executor. -/
theorem sample_round_trip_executed_by_principal :
    EachStep CompletionByExecutor [] (trace Sample.options () Sample.connected) ∧
    ExecutedByPrincipal (trace Sample.options () Sample.connected)
      (reach Sample.options () Sample.connected).plane Sample.worker "x" :=
  have hsteps : EachStep CompletionByExecutor [] (trace Sample.options () Sample.connected) := by
    decide +kernel
  ⟨hsteps, connected_round_trip_executed_by_principal Sample.options () Sample.connected hsteps 0
    Sample.worker "x" (by decide +kernel)⟩

/-- After a rotation, the second principal is connected by a run that the first one executed. -/
theorem rotated_principal_connected_by_old_round_trip :
    deriveConnectionStatus Sample.options 0 (reach Sample.options () Sample.rotated).plane
      Sample.successor "x" = .ok .CONNECTED ∧
    ¬ ExecutedByPrincipal (trace Sample.options () Sample.rotated)
      (reach Sample.options () Sample.rotated).plane Sample.successor "x" := by
  refine ⟨by decide +kernel, ?_⟩
  rintro ⟨connection, proof, hfound, hproof, -, hexecuted⟩
  have hconnection : (reach Sample.options () Sample.rotated).plane.connections.get? (key "w" "x")
      = some (Sample.connection "b" (some ⟨"x", "b", "h2", Sample.epoch⟩)
        (some ⟨"x", "b", "k", "u", "v", Sample.epoch⟩)) := by decide +kernel
  obtain rfl := Option.some.inj (hconnection.symm.trans hfound)
  obtain rfl := Option.some.inj hproof
  -- The permit was claimed before the rotation.
  have hstep := mem_trace_append (mem_trace_concat Sample.options () Sample.setup Sample.execute)
    (Sample.completion ++ Sample.rotation ++ Sample.proof Sample.successor "h2")
  have hexecutor := hexecuted _ hstep (by decide +kernel)
  exact absurd hexecutor (by decide +kernel)

end VentureOS.ControlPlane
