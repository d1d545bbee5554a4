import VentureOS.ControlPlane.System

/-! # What one step can do

`Effect options readings plane call outcome plane'` lists everything a label can do to the plane: it
is refused and leaves the plane alone, it only reads, or it makes the one change its constructor
names, after the checks the constructor records. `perform_effect` shows that every step of the
machine is one of these effects, for every event sink, so an invariant of the plane is proved by
cases on `Effect` and never looks into an operation again. -/

namespace VentureOS.ControlPlane

open Program

/-! ## The adapter calls a label settles and reports -/

/-- The awaited `adapter.start` that a label settles. -/
def Call.settledStart : Call → Option Nat
  | .startResolved call _ => some call
  | .startRejected call _ => some call
  | _ => none

/-- The awaited `adapter.cancel` that a label settles. -/
def Call.settledCancel : Call → Option Nat
  | .cancelResolved call => some call
  | .cancelRejected call _ => some call
  | _ => none

/-- The label is a public call and settles nothing. -/
def Call.Direct (call : Call) : Prop := call.settledStart = none ∧ call.settledCancel = none

/-- The call only reads. -/
def Call.Reads : Call → Prop
  | .getAgent _ _ => True
  | .getTask _ _ => True
  | .getRun _ _ => True
  | .deriveConnectionStatus _ _ => True
  | _ => False

/-- The call writes an agent, a capability, a tool or a grant. -/
def Call.Catalogues : Call → Prop
  | .putCapability _ _ => True
  | .putTool _ _ => True
  | .putAgent _ _ => True
  | .grantAgentCapability _ _ => True
  | .grantTool _ _ => True
  | .grantAuthority _ _ => True
  | _ => False

/-- The answer reports neither an adapter call nor a bound external run. -/
def Answer.Quiet : Answer → Prop
  | .startCalled _ _ => False
  | .started _ => False
  | .cancelCalled _ _ => False
  | _ => True

variable {σ : Type} (options : Options σ) (readings : Readings)

/-! ## Effects -/

/-- **What one step can do to the plane.** -/
inductive Effect (plane : Plane) : Call → Except Failure Answer → Plane → Prop
  /-- The call throws and leaves the plane as it was. -/
  | refused {call : Call} (e : Failure) (direct : call.Direct) : Effect plane call (.error e) plane
  /-- The call only reads. -/
  | observed {call : Call} {a : Answer} (reads : call.Reads) (quiet : a.Quiet) :
      Effect plane call (.ok a) plane
  /-- No `adapter.start` of that number is awaited. -/
  | idleStart {call : Call} {number : Nat} (settles : call.settledStart = some number)
      (idle : plane.pendingStarts.get? number = none) : Effect plane call (.ok .idle) plane
  /-- No `adapter.cancel` of that number is awaited. -/
  | idleCancel {call : Call} {number : Nat} (settles : call.settledCancel = some number)
      (idle : plane.pendingCancellations.get? number = none) : Effect plane call (.ok .idle) plane
  /-- An authorizer writes an agent, a capability, a tool or a grant. -/
  | catalogued {call : Call} (catalogues : call.Catalogues) (agents : Store Key Agent)
      (capabilities : Store Key Capability) (agentCapabilities : Store Key AgentCapability)
      (tools : Store Key Tool) (toolGrants : Store Key ToolGrant)
      (authorityGrants : Store Key AuthorityGrant) :
      Effect plane call (.ok .done) { plane with
        agents := agents, capabilities := capabilities, agentCapabilities := agentCapabilities,
        tools := tools, toolGrants := toolGrants, authorityGrants := authorityGrants }
  | putRuntime {context : WorkspaceContext} {runtime : Runtime}
      (workspace : context.workspaceId = runtime.workspaceId)
      (authorizer : context.principalId ∈ options.authorityPrincipals) :
      Effect plane (.putRuntime context runtime) (.ok .done)
        { plane with runtimes := plane.runtimes.put runtime }
  | registerRuntimeAdapter {context : WorkspaceContext} {runtimeId : EntityId}
      {adapter : RuntimeAdapter} {runtime : Runtime}
      (admitted : admitAdapter options plane context runtimeId adapter = .ok runtime) :
      Effect plane (.registerRuntimeAdapter context runtimeId adapter) (.ok .done) { plane with
        runtimeAdapters := plane.runtimeAdapters.set (key context.workspaceId runtime.id)
          ⟨readings.uuid, adapter⟩ }
  | putConnection {context : WorkspaceContext} {connection : RuntimeConnection}
      (admitted : admitConnection options plane context connection = .ok ()) :
      Effect plane (.putConnection context connection) (.ok .done)
        { plane with connections := plane.connections.put connection }
  | recordHeartbeat {context : WorkspaceContext} {heartbeat : Heartbeat}
      (admitted : admitHeartbeat options plane context heartbeat = .ok ()) :
      Effect plane (.recordHeartbeat context heartbeat) (.ok .done)
        { plane with heartbeats := plane.heartbeats.put heartbeat }
  | createTask {context : WorkspaceContext} {task : ControlPlaneTask}
      (admitted : admitTask options readings plane context task = .ok ()) :
      Effect plane (.createTask context task) (.ok .done)
        { plane with tasks := plane.tasks.put task }
  | transitionTask {context : WorkspaceContext} {taskId : EntityId} {next : TaskStatus}
      {task : ControlPlaneTask}
      (admitted : admitTaskTransition options readings plane context taskId next = .ok task)
      (legal : next ∈ taskTransitions task.status) :
      Effect plane (.transitionTask context taskId next) (.ok .done)
        { plane with tasks := plane.tasks.put { task with status := next } }
  | startRun {context : WorkspaceContext} {run : AgentRun}
      (admitted : admitRun options readings plane context run = .ok ()) :
      Effect plane (.startRun context run) (.ok .done) { plane with runs := plane.runs.put run }
  | mintDispatch {context : WorkspaceContext} {runId : EntityId} {runKey : Key}
      {dispatch : RuntimeDispatchPermit}
      (admitted : admitDispatch options readings plane context runId = .ok (runKey, dispatch)) :
      Effect plane (.mintDispatch context runId) (.ok (.dispatch dispatch))
        (plane.withDispatch runKey dispatch)
  /-- The permit is no longer valid and is dropped. -/
  | staleDispatch {context : WorkspaceContext} {dispatch stored : RuntimeDispatchPermit}
      {e : Failure} (owned : ownedDispatch plane context dispatch = .ok stored)
      (stale : revalidateDispatch options readings plane context stored = .error e) :
      Effect plane (.executeDispatch context dispatch) (.error e)
        (plane.dropDispatch (key context.workspaceId dispatch.dispatchId)
          (key context.workspaceId stored.envelope.runId))
  /-- The permit is claimed, and no adapter is found to call. -/
  | lostStart {context : WorkspaceContext} {dispatch stored : RuntimeDispatchPermit} {e : Failure}
      (owned : ownedDispatch plane context dispatch = .ok stored)
      (valid : revalidateDispatch options readings plane context stored = .ok ())
      (lost : startCall (plane.claimDispatch (key context.workspaceId dispatch.dispatchId)
          (key context.workspaceId stored.envelope.runId) stored.adapterRegistrationId)
        context stored = .error e) :
      Effect plane (.executeDispatch context dispatch) (.error e)
        (plane.claimDispatch (key context.workspaceId dispatch.dispatchId)
          (key context.workspaceId stored.envelope.runId) stored.adapterRegistrationId)
  /-- The permit is claimed and `adapter.start` is called. -/
  | calledStart {context : WorkspaceContext} {dispatch stored : RuntimeDispatchPermit}
      {frame : PendingStart} (owned : ownedDispatch plane context dispatch = .ok stored)
      (valid : revalidateDispatch options readings plane context stored = .ok ())
      (called : startCall (plane.claimDispatch (key context.workspaceId dispatch.dispatchId)
          (key context.workspaceId stored.envelope.runId) stored.adapterRegistrationId)
        context stored = .ok frame) :
      Effect plane (.executeDispatch context dispatch)
        (.ok (.startCalled plane.adapterCalls frame))
        ((plane.claimDispatch (key context.workspaceId dispatch.dispatchId)
          (key context.workspaceId stored.envelope.runId)
          stored.adapterRegistrationId).awaitStart frame)
  /-- `adapter.start` resolved and the external run is bound. -/
  | boundRun {call : Nat} {frame : PendingStart} {externalRunId : String} {run : AgentRun}
      (pending : plane.pendingStarts.get? call = some frame)
      (admitted : admitBinding (plane.resumeStart call) frame.context frame.runId externalRunId
        frame.registration.registrationId = .ok run) :
      Effect plane (.startResolved call (some (.str externalRunId))) (.ok (.started externalRunId))
        { plane with
          runs := plane.runs.put { run with
            externalRunId := some externalRunId
            adapterRegistrationId := some frame.registration.registrationId }
          pendingStarts := plane.pendingStarts.delete call
          inFlightDispatchAdapters := plane.inFlightDispatchAdapters.delete frame.runKey }
  /-- `adapter.start` rejected, or what it resolved to is refused. -/
  | failedStart {label : Call} {call : Nat} {frame : PendingStart} {e : Failure}
      (settles : label.settledStart = some call)
      (pending : plane.pendingStarts.get? call = some frame) :
      Effect plane label (.error e) ((plane.resumeStart call).releaseStart frame.runKey)
  | mintCancellation {context : WorkspaceContext} {runId workspaceId : EntityId}
      {cancellation : RuntimeCancellationPermit}
      (admitted : admitCancellation options readings plane context runId = .ok (workspaceId, cancellation)) :
      Effect plane (.mintCancellation context runId) (.ok (.cancellation cancellation))
        (plane.withCancellation workspaceId cancellation)
  /-- The permit is no longer valid, or no adapter is found to call, and the permit is dropped. -/
  | droppedCancellation {context : WorkspaceContext}
      {cancellation stored : RuntimeCancellationPermit} {e : Failure}
      (owned : ownedCancellation plane context cancellation = .ok stored) :
      Effect plane (.executeCancellation context cancellation) (.error e)
        (plane.dropCancellation (key context.workspaceId cancellation.cancellationId)
          (key context.workspaceId stored.runId))
  /-- The permit is claimed and `adapter.cancel` is called. -/
  | calledCancel {context : WorkspaceContext} {cancellation stored : RuntimeCancellationPermit}
      {frame : PendingCancellation}
      (owned : ownedCancellation plane context cancellation = .ok stored)
      (valid : revalidateCancellation plane context stored = .ok ())
      (called : cancelCall (plane.claimCancellation
        (key context.workspaceId cancellation.cancellationId)) context stored = .ok frame) :
      Effect plane (.executeCancellation context cancellation)
        (.ok (.cancelCalled plane.adapterCalls frame))
        ((plane.claimCancellation (key context.workspaceId cancellation.cancellationId)).awaitCancellation frame)
  | cancelResolved {call : Nat} {frame : PendingCancellation}
      (pending : plane.pendingCancellations.get? call = some frame) :
      Effect plane (.cancelResolved call) (.ok .done) { plane.resumeCancellation call with
        successfulCancellations := insert frame.runKey plane.successfulCancellations }
  | cancelRejected {call : Nat} {frame : PendingCancellation} {error : Failure}
      (pending : plane.pendingCancellations.get? call = some frame) :
      Effect plane (.cancelRejected call error) (.error error)
        ((plane.resumeCancellation call).reopenCancellation frame.runKey)
  | transitionRun {context : WorkspaceContext} {runId : EntityId} {next : RunStatus}
      {run : AgentRun} {task : ControlPlaneTask} {now : String}
      (admitted : admitRunTransition options plane context runId next = .ok (run, task)) :
      Effect plane (.transitionRun context runId next) (.ok .done) { plane with
        runs := plane.runs.put (transitionedRun run next now)
        tasks := tasksAfter plane.tasks task (taskStatusAfter run.status next) }
  | appendEvent {context : WorkspaceContext} {event : ControlPlaneEvent}
      (admitted : admitEvent plane context event = .ok ()) :
      Effect plane (.appendEvent context event) (.ok .done) { plane with
        eventsById := plane.eventsById.put event
        eventIdempotency := plane.eventIdempotency.set (key event.workspaceId event.idempotencyKey)
          event.id }
  | recordUsage {context : WorkspaceContext} {usage : UsageRecord}
      (admitted : admitUsage options plane context usage = .ok ()) :
      Effect plane (.recordUsage context usage) (.ok .done)
        { plane with usage := plane.usage.put usage }

/-! ## Operations and their effects -/

section Shapes

variable {options readings} {w : World σ}

/-- An operation that answers `done` has the effects of its body. -/
theorem ensures_done {x : Op σ Unit} {call : Call}
    (h : Ensures x w (fun r w' => match r with
      | .ok _ => Effect options readings w.plane call (.ok .done) w'.plane
      | .error e => Effect options readings w.plane call (.error e) w'.plane)) :
    Ensures (do x; return Answer.done) w
      (fun r w' => Effect options readings w.plane call r w'.plane) := by
  rw [ensures_bind]
  refine h.mono fun r w' hr => ?_
  cases r with
  | ok _ => exact hr
  | error e => exact hr

/-- An administrative operation that writes outside the ledgers. -/
theorem ensures_administer {context : WorkspaceContext} {workspaceId : EntityId}
    {check : Plane → Except Failure Unit} {write : Plane → Plane} {call : Call}
    (direct : call.Direct) (h : context.workspaceId = workspaceId →
      context.principalId ∈ options.authorityPrincipals →
      Effect options readings w.plane call (.ok .done) (write w.plane)) :
    Ensures (do administer options context workspaceId check write; return Answer.done) w
      (fun r w' => Effect options readings w.plane call r w'.plane) := by
  refine ensures_done ((administer_spec options context workspaceId check write w).mono ?_)
  intro r w' hr
  cases r with
  | ok _ =>
    obtain ⟨hws, hauthorizer, rfl⟩ := hr
    exact h hws hauthorizer
  | error e =>
    obtain rfl := hr
    exact .refused e direct

/-- An operation that checks, emits an event and writes. -/
theorem ensures_checked {check : Plane → Except Failure Unit} {emit : Op σ Unit}
    {write : Plane → Plane} {call : Call}
    (direct : call.Direct) (hemit : Ensures emit w (fun _ w' => w'.plane = w.plane))
    (h : check w.plane = .ok () → Effect options readings w.plane call (.ok .done) (write w.plane)) :
    Ensures (do
        (do
          let plane ← readPlane
          check plane
          emit
          writePlane write)
        return Answer.done) w
      (fun r w' => Effect options readings w.plane call r w'.plane) := by
  refine ensures_done ?_
  rw [ensures_readPlane_bind, ensures_lift_bind]
  refine ⟨fun e _ => .refused e direct, fun _ hcheck => ?_⟩
  rw [ensures_bind]
  refine hemit.mono fun r w' hw => ?_
  cases r with
  | error e => exact hw ▸ .refused e direct
  | ok _ =>
    show Effect options readings w.plane call (.ok .done) (write w'.plane)
    rw [hw]
    exact h hcheck

end Shapes

section Operations

variable (w : World σ)

/-- Undoing the write of `putConnection` restores the plane. -/
theorem ensures_restore {w' : World σ} {connection : RuntimeConnection} (e : Failure)
    (hplane : w'.plane = { w.plane with connections := w.plane.connections.put connection })
    {Q : Except Failure Unit → World σ → Prop}
    (h : Q (.error e) { w' with plane := w.plane }) :
    Ensures (do
      restoreConnection (key connection.workspaceId connection.id)
        (w.plane.connections.get? (key connection.workspaceId connection.id))
      throw e) w' Q := by
  unfold restoreConnection
  rw [ensures_writePlane_bind, ensures_throw, hplane]
  -- Re-putting the old record keeps its place in the map; a new one was last and is deleted.
  cases hprevious : w.plane.connections.get? (key connection.workspaceId connection.id) with
  | none =>
    have hback := Store.delete_put_of_fresh (v := connection) hprevious
    rw [keyOf_connection] at hback
    simp only [hback]
    exact h
  | some previous =>
    have hback := Store.put_put_restore (v := connection) hprevious
    simp only [hback]
    exact h

/-- `putConnection` stores an admitted connection, or throws and leaves the plane as it was. -/
theorem putConnection_effect (context : WorkspaceContext) (connection : RuntimeConnection) :
    Ensures (do putConnection options readings context connection; return Answer.done) w
      (fun r w' => Effect options readings w.plane (.putConnection context connection) r
        w'.plane) := by
  refine ensures_done ?_
  unfold putConnection
  rw [ensures_readPlane_bind, ensures_lift_bind]
  refine ⟨fun e _ => .refused e ⟨rfl, rfl⟩, fun _ hadmitted => ?_⟩
  rw [ensures_writePlane_bind, ensures_bind, ensures_tryCatch, ensures_readPlane_bind, ensures_lift]
  -- The claim to be connected is tested on the written plane; a failed test undoes the write.
  split
  · rw [ensures_tryCatch]
    refine (emitOperationalEvent_plane options readings context _ _).mono fun r w' hplane => ?_
    cases r with
    | ok _ => exact hplane ▸ .putConnection hadmitted
    | error e => exact ensures_restore w e hplane (.refused e ⟨rfl, rfl⟩)
  · exact ensures_restore w _ rfl (.refused _ ⟨rfl, rfl⟩)

/-- `registerRuntimeAdapter` registers an admitted adapter. -/
theorem registerRuntimeAdapter_effect (context : WorkspaceContext) (runtimeId : EntityId)
    (adapter : RuntimeAdapter) :
    Ensures (do registerRuntimeAdapter options readings context runtimeId adapter
                return Answer.done) w
      (fun r w' => Effect options readings w.plane
        (.registerRuntimeAdapter context runtimeId adapter) r w'.plane) := by
  refine ensures_done ?_
  unfold registerRuntimeAdapter
  rw [ensures_readPlane_bind, ensures_lift_bind]
  exact ⟨fun e _ => .refused e ⟨rfl, rfl⟩, fun _ hadmitted => .registerRuntimeAdapter hadmitted⟩

/-- `transitionTask` writes the task if the transition is legal. -/
theorem transitionTask_effect (context : WorkspaceContext) (taskId : EntityId)
    (next : TaskStatus) :
    Ensures (do transitionTask options readings context taskId next; return Answer.done) w
      (fun r w' => Effect options readings w.plane (.transitionTask context taskId next) r
        w'.plane) := by
  refine ensures_done ?_
  unfold transitionTask
  rw [ensures_readPlane_bind, ensures_lift_bind]
  refine ⟨fun e _ => .refused e ⟨rfl, rfl⟩, fun task hadmitted => ?_⟩
  rw [ensures_bind]
  refine (emitOperationalEvent_plane options readings context _ w).mono fun r w' hplane => ?_
  cases r with
  | error e => exact hplane ▸ .refused e ⟨rfl, rfl⟩
  | ok _ =>
    show Ensures (transitionTaskRecord task next) w' _
    unfold transitionTaskRecord
    rw [ensures_lift_bind, ensures_writePlane, hplane]
    refine ⟨fun e _ => .refused e ⟨rfl, rfl⟩, fun _ hlegal => .transitionTask hadmitted ?_⟩
    rwa [throwIf_eq_ok, not_not] at hlegal

/-- `transitionRun` writes the run and the task it moves along. -/
theorem transitionRun_effect (context : WorkspaceContext) (runId : EntityId) (next : RunStatus) :
    Ensures (do transitionRun options readings context runId next; return Answer.done) w
      (fun r w' => Effect options readings w.plane (.transitionRun context runId next) r
        w'.plane) := by
  refine ensures_done ?_
  unfold transitionRun
  rw [ensures_readPlane_bind, ensures_lift_bind]
  refine ⟨fun e _ => .refused e ⟨rfl, rfl⟩, fun (run, task) hadmitted => ?_⟩
  rw [ensures_lift_bind]
  refine ⟨fun e _ => .refused e ⟨rfl, rfl⟩, fun now _ => ?_⟩
  rw [ensures_bind]
  refine (emitOperationalEvent_plane options readings context _ w).mono fun r w' hplane => ?_
  cases r with
  | error e => exact hplane ▸ .refused e ⟨rfl, rfl⟩
  | ok _ =>
    rw [ensures_writePlane, hplane]
    exact .transitionRun hadmitted

/-- `appendEvent` leaves the plane alone until it writes. -/
theorem emitProjectedEvent_plane (context : WorkspaceContext) (event : ControlPlaneEvent) :
    Ensures (emitProjectedEvent options context event) w (fun _ w' => w'.plane = w.plane) := by
  unfold emitProjectedEvent
  split
  · rfl
  · split
    · rw [pure_bind, ensures_onSink]; trivial
    · rw [ensures_lift_bind]
      exact ⟨fun _ _ => rfl, fun _ _ => by rw [ensures_onSink]; trivial⟩

/-! ### Dispatches -/

/-- `mintDispatch` files an admitted permit. -/
theorem mintDispatch_effect (context : WorkspaceContext) (runId : EntityId) :
    Ensures (do return Answer.dispatch (← mintDispatch options readings context runId)) w
      (fun r w' => Effect options readings w.plane (.mintDispatch context runId) r w'.plane) := by
  unfold mintDispatch
  rw [bind_assoc, ensures_readPlane_bind, bind_assoc, ensures_lift_bind]
  refine ⟨fun e _ => .refused e ⟨rfl, rfl⟩, fun (runKey, dispatch) hadmitted => ?_⟩
  rw [bind_assoc, ensures_writePlane_bind, pure_bind, ensures_pure]
  exact .mintDispatch hadmitted

/-- `#claimDispatch` refuses a permit that is not owned, drops one that is stale and claims one that
is valid. -/
theorem claimDispatch_spec (context : WorkspaceContext) (dispatch : RuntimeDispatchPermit) :
    Ensures (claimDispatch options readings context dispatch) w (fun r w' => match r with
      | .error e => (ownedDispatch w.plane context dispatch = .error e ∧ w'.plane = w.plane)
          ∨ ∃ stored, ownedDispatch w.plane context dispatch = .ok stored ∧
            revalidateDispatch options readings w.plane context stored = .error e ∧
            w'.plane = w.plane.dropDispatch (key context.workspaceId dispatch.dispatchId)
              (key context.workspaceId stored.envelope.runId)
      | .ok stored => ownedDispatch w.plane context dispatch = .ok stored
          ∧ revalidateDispatch options readings w.plane context stored = .ok ()
          ∧ w'.plane = w.plane.claimDispatch (key context.workspaceId dispatch.dispatchId)
            (key context.workspaceId stored.envelope.runId) stored.adapterRegistrationId) := by
  unfold claimDispatch
  rw [ensures_readPlane_bind, ensures_lift_bind]
  refine ⟨fun e hnot => .inl ⟨hnot, rfl⟩, fun stored howned => ?_⟩
  rw [ensures_bind, ensures_tryCatch, ensures_lift]
  cases hvalid : revalidateDispatch options readings w.plane context stored with
  | error e => exact .inr ⟨stored, howned, hvalid, rfl⟩
  | ok _ => exact ⟨howned, hvalid, rfl⟩

/-- `executeDispatch` up to its `await`. -/
theorem executeDispatch_effect (context : WorkspaceContext) (dispatch : RuntimeDispatchPermit) :
    Ensures (do
        let (call, frame) ← executeDispatch options readings context dispatch
        return Answer.startCalled call frame) w
      (fun r w' => Effect options readings w.plane (.executeDispatch context dispatch) r
        w'.plane) := by
  unfold executeDispatch
  rw [bind_assoc, ensures_bind]
  refine (claimDispatch_spec options readings w context dispatch).mono fun r w' h => ?_
  cases r with
  | error e =>
    rcases h with ⟨-, hplane⟩ | ⟨stored, howned, hstale, hplane⟩
    · exact hplane ▸ .refused e ⟨rfl, rfl⟩
    · exact hplane ▸ .staleDispatch howned hstale
  | ok stored =>
    obtain ⟨howned, hvalid, hplane⟩ := h
    show Ensures _ w' _
    rw [bind_assoc, ensures_readPlane_bind, bind_assoc, ensures_lift_bind, hplane]
    -- The look-ups are outside the `try`: losing the start leaves the run claimed.
    refine ⟨fun e hlost => .lostStart howned hvalid hlost, fun frame hcalled => ?_⟩
    rw [bind_assoc, ensures_writePlane_bind, pure_bind, hplane]
    exact .calledStart howned hvalid hcalled

/-- `executeDispatch` after `adapter.start` resolved. -/
theorem startResolved_effect {call : Nat} {frame : PendingStart} (externalRunId : Option Json)
    (hpending : w.plane.pendingStarts.get? call = some frame) :
    Ensures (do return Answer.started (← startResolved call frame externalRunId)) w
      (fun r w' => Effect options readings w.plane (.startResolved call externalRunId) r
        w'.plane) := by
  -- The `finally` block releases the run on every failing path.
  have hfailed : ∀ e, Effect options readings w.plane (.startResolved call externalRunId)
      (.error e) ((w.plane.resumeStart call).releaseStart frame.runKey) := fun e =>
    .failedStart rfl hpending
  unfold startResolved
  rw [bind_assoc, ensures_writePlane_bind, bind_assoc, ensures_bind, ensures_tryCatch]
  unfold bindStarted
  rw [ensures_lift_bind]
  refine ⟨fun e _ => hfailed e, fun _ hstring => ?_⟩
  split
  · rename_i id
    unfold bindExternalRun
    rw [bind_assoc, ensures_readPlane_bind, bind_assoc, ensures_lift_bind]
    refine ⟨fun e _ => hfailed e, fun run hadmitted => ?_⟩
    exact .boundRun hpending hadmitted
  · exact hfailed _

/-! ### Cancellations -/

/-- `mintCancellation` files an admitted permit. -/
theorem mintCancellation_effect (context : WorkspaceContext) (runId : EntityId) :
    Ensures (do return Answer.cancellation (← mintCancellation options readings context runId)) w
      (fun r w' => Effect options readings w.plane (.mintCancellation context runId) r
        w'.plane) := by
  unfold mintCancellation
  rw [bind_assoc, ensures_readPlane_bind, bind_assoc, ensures_lift_bind]
  refine ⟨fun e _ => .refused e ⟨rfl, rfl⟩, fun (workspaceId, cancellation) hadmitted => ?_⟩
  rw [bind_assoc, ensures_writePlane_bind, pure_bind, ensures_pure]
  exact .mintCancellation hadmitted

/-- `executeCancellation` up to its `await`. A permit that is claimed and finds no adapter leaves
the same plane as a stale permit. -/
theorem executeCancellation_effect (context : WorkspaceContext)
    (cancellation : RuntimeCancellationPermit) :
    Ensures (do
        let (call, frame) ← executeCancellation context cancellation
        return Answer.cancelCalled call frame) w
      (fun r w' => Effect options readings w.plane (.executeCancellation context cancellation) r
        w'.plane) := by
  unfold executeCancellation claimCancellation
  rw [bind_assoc, bind_assoc, ensures_readPlane_bind, bind_assoc, ensures_lift_bind]
  refine ⟨fun e _ => .refused e ⟨rfl, rfl⟩, fun stored howned => ?_⟩
  rw [bind_assoc, ensures_bind, ensures_tryCatch, ensures_lift]
  cases hvalid : revalidateCancellation w.plane context stored with
  | error e => exact .droppedCancellation howned
  | ok _ =>
    simp only [bind_assoc, pure_bind]
    rw [ensures_writePlane_bind, ensures_readPlane_bind, ensures_bind, ensures_tryCatch, ensures_lift]
    cases hcalled : cancelCall (w.plane.claimCancellation
        (key context.workspaceId cancellation.cancellationId)) context stored with
    | error e => exact .droppedCancellation howned
    | ok frame => exact .calledCancel howned hvalid hcalled

end Operations

/-! ## Steps -/

/-- **Every step has one of the effects.** -/
theorem perform_effect (label : Label) (w : World σ) :
    Effect options label.readings w.plane label.call (perform options label w).1
      (perform options label w).2.plane := by
  obtain ⟨readings, call⟩ := label
  show Ensures (answer options readings call) w
    (fun r w' => Effect options readings w.plane call r w'.plane)
  cases call with
  | putRuntime context runtime =>
    exact ensures_administer ⟨rfl, rfl⟩ fun hws hauthorizer => .putRuntime hws hauthorizer
  | registerRuntimeAdapter context runtimeId adapter =>
    exact registerRuntimeAdapter_effect options readings w context runtimeId adapter
  -- Six administrative calls write catalogue records only.
  | putCapability _ _ | putTool _ _ | putAgent _ _ | grantAgentCapability _ _ | grantTool _ _
  | grantAuthority _ _ =>
    exact ensures_administer ⟨rfl, rfl⟩ fun _ _ => .catalogued (by trivial) _ _ _ _ _ _
  | getAgent _ _ | getTask _ _ | getRun _ _ => exact .observed trivial trivial
  | deriveConnectionStatus context connectionId =>
    show Ensures (readPlane >>= _) w _
    rw [ensures_readPlane_bind, ensures_lift_bind]
    exact ⟨fun e _ => .refused e ⟨rfl, rfl⟩, fun status _ => .observed trivial trivial⟩
  | putConnection context connection =>
    exact putConnection_effect options readings w context connection
  | recordHeartbeat context heartbeat =>
    exact ensures_checked ⟨rfl, rfl⟩ (emitOperationalEvent_plane options readings context _ w)
      fun hadmitted => .recordHeartbeat hadmitted
  | createTask context task =>
    exact ensures_checked ⟨rfl, rfl⟩ (emitOperationalEvent_plane options readings context _ w)
      fun hadmitted => .createTask hadmitted
  | transitionTask context taskId next =>
    exact transitionTask_effect options readings w context taskId next
  | startRun context run =>
    exact ensures_checked ⟨rfl, rfl⟩ (emitOperationalEvent_plane options readings context _ w)
      fun hadmitted => .startRun hadmitted
  | mintDispatch context runId => exact mintDispatch_effect options readings w context runId
  | executeDispatch context dispatch =>
    exact executeDispatch_effect options readings w context dispatch
  | startResolved call externalRunId =>
    show Ensures (readPlane >>= _) w _
    rw [ensures_readPlane_bind]
    cases hpending : w.plane.pendingStarts.get? call with
    | none => exact .idleStart rfl hpending
    | some frame => exact startResolved_effect options readings w externalRunId hpending
  | startRejected call error =>
    show Ensures (readPlane >>= _) w _
    rw [ensures_readPlane_bind]
    cases hpending : w.plane.pendingStarts.get? call with
    | none => exact .idleStart rfl hpending
    | some frame => exact .failedStart rfl hpending
  | mintCancellation context runId =>
    exact mintCancellation_effect options readings w context runId
  | executeCancellation context cancellation =>
    exact executeCancellation_effect options readings w context cancellation
  | cancelResolved call =>
    show Ensures (readPlane >>= _) w _
    rw [ensures_readPlane_bind]
    cases hpending : w.plane.pendingCancellations.get? call with
    | none => exact .idleCancel rfl hpending
    | some frame => exact .cancelResolved hpending
  | cancelRejected call error =>
    show Ensures (readPlane >>= _) w _
    rw [ensures_readPlane_bind]
    cases hpending : w.plane.pendingCancellations.get? call with
    | none => exact .idleCancel rfl hpending
    | some frame => exact .cancelRejected hpending
  | transitionRun context runId next =>
    exact transitionRun_effect options readings w context runId next
  | appendEvent context event =>
    exact ensures_checked ⟨rfl, rfl⟩ (emitProjectedEvent_plane options w context event)
      fun hadmitted => .appendEvent hadmitted
  | recordUsage context usage =>
    exact ensures_checked ⟨rfl, rfl⟩ (emitOperationalEvent_plane options readings context _ w)
      fun hadmitted => .recordUsage hadmitted

variable {labels : List Label} {sink : σ}

section Runs

variable {options}

/-- The plane occurs in some run, over some event sink. -/
def Reachable (options : Options σ) (plane : Plane) : Prop :=
  ∃ (sink : σ) (labels : List Label), (reach options sink labels).plane = plane

theorem reachable_reach (options : Options σ) (sink : σ) (labels : List Label) :
    Reachable options (reach options sink labels).plane := ⟨sink, labels, rfl⟩

/-- **Invariant rule.** What holds of the empty plane and is kept by every effect on a reachable
plane holds of every reachable plane. -/
theorem Reachable.induction {P : Plane → Prop} {plane : Plane} (h : Reachable options plane)
    (init : P Plane.empty)
    (next : ∀ {readings plane call outcome plane'}, Reachable options plane → P plane →
      Effect options readings plane call outcome plane' → P plane') : P plane := by
  obtain ⟨sink, labels, rfl⟩ := h
  exact run_induction (perform options) (P := fun w => P w.plane) init
    (fun pre l ih => next (reachable_reach options sink pre) ih (perform_effect options l _)) labels

/-- A step of a history is a step of the machine after some prefix of the labels. -/
theorem exists_of_mem_trace {e : Step σ}
    (h : e ∈ trace options sink labels) : ∃ pre post, labels = pre ++ e.label :: post ∧
      e.before = reach options sink pre ∧ e.after = reach options sink (pre ++ [e.label]) ∧
      e.outcome = (perform options e.label (reach options sink pre)).1 := by
  obtain ⟨pre, l, post, rfl, rfl⟩ := eq_entryAt_of_mem_history (perform options) h
  exact ⟨pre, post, rfl, rfl, (run_concat (perform options) _ pre l).symm, rfl⟩

/-- Every step of a history has one of the effects, on a reachable plane. -/
theorem effect_of_mem_trace {e : Step σ}
    (h : e ∈ trace options sink labels) : Reachable options e.before.plane ∧
      Effect options e.label.readings e.before.plane e.label.call e.outcome e.after.plane := by
  obtain ⟨pre, l, post, rfl, rfl⟩ := eq_entryAt_of_mem_history (perform options) h
  exact ⟨reachable_reach options sink pre, perform_effect options l _⟩

/-- The history of a run contains the history of each prefix. -/
theorem mem_trace_append {e : Step σ} (h : e ∈ trace options sink labels) (more : List Label) :
    e ∈ trace options sink (labels ++ more) := by
  rw [trace, history_append]
  exact List.mem_append_left _ h

/-- The last step of a run belongs to its history. -/
theorem mem_trace_concat (options : Options σ) (sink : σ) (labels : List Label) (l : Label) :
    entryAt (perform options) (reach options sink labels) l
      ∈ trace options sink (labels ++ [l]) := by
  rw [trace, history_concat]
  exact List.mem_append_right _ (List.mem_singleton.mpr rfl)

/-- **Invariant rule from a state on.** What holds after a run and is kept by every effect on a
reachable plane holds after every continuation of the run. -/
theorem reach_append_induction {P : Plane → Prop} (init : P (reach options sink labels).plane)
    (next : ∀ {readings plane call outcome plane'}, Reachable options plane → P plane →
      Effect options readings plane call outcome plane' → P plane')
    (more : List Label) : P (reach options sink (labels ++ more)).plane := by
  have hreach : ∀ pre, run (perform options) (reach options sink labels) pre
      = reach options sink (labels ++ pre) := fun pre => (run_append (perform options) _ _ _).symm
  rw [← hreach]
  refine run_induction (perform options) (P := fun w => P w.plane) init (fun pre l ih => ?_) more
  rw [hreach] at ih ⊢
  exact next (reachable_reach options sink (labels ++ pre)) ih (perform_effect options l _)

/-- **Invariant rule with history.** A relation between the steps taken and the plane reached that
holds initially and is kept by every effect on a reachable plane holds after every run. -/
theorem trace_induction {P : List (Step σ) → Plane → Prop} (init : P [] Plane.empty)
    (next : ∀ {steps} {e : Step σ}, Reachable options e.before.plane → P steps e.before.plane →
      Effect options e.label.readings e.before.plane e.label.call e.outcome e.after.plane →
      P (steps ++ [e]) e.after.plane)
    (labels : List Label) : P (trace options sink labels) (reach options sink labels).plane :=
  history_induction (perform options) (P := fun steps w => P steps w.plane) init
    (fun pre l ih => next (e := entryAt (perform options) (reach options sink pre) l)
      (reachable_reach options sink pre) ih (perform_effect options l _)) labels

end Runs

end VentureOS.ControlPlane
