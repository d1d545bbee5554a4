import VentureOS.ControlPlane.Effects

/-! # What an accepted call has checked

For every check function of the operations, the facts its success establishes, as a structure with
one field for each check that the proofs use. The invariants read these fields and never unfold a
check again. -/

namespace VentureOS.ControlPlane

variable {σ : Type} {options : Options σ} {readings : Readings} {plane : Plane}
  {context : WorkspaceContext}

/-! ## Tasks -/

/-- What `createTask` has checked. -/
structure TaskAdmitted (plane : Plane) (context : WorkspaceContext) (task : ControlPlaneTask) :
    Prop where
  workspace : context.workspaceId = task.workspaceId
  ready : task.status = .READY
  input : Json.SafeFields task.input
  fresh : plane.tasks.get? (keyOf task) = none

variable {task : ControlPlaneTask}

theorem TaskAdmitted.of_ok (h : admitTask options readings plane context task = .ok ()) :
    TaskAdmitted plane context task := by
  simp only [admitTask, assertWorkspace, except_bind_eq_ok, throwIf_eq_ok, ne_eq, not_not, exists_const] at h
  obtain ⟨hws, -, hready, _, hpolicy, hrest⟩ := h
  have hfresh : plane.tasks.get? (keyOf task) = none := by
    split at hrest
    · simp only [except_bind_eq_ok, throwIf_eq_ok, Bool.not_eq_true] at hrest
      obtain ⟨_, -, hfresh⟩ := hrest
      exact Store.has_eq_false.mp hfresh
    · rw [throwIf_eq_ok, Bool.not_eq_true] at hrest
      exact Store.has_eq_false.mp hrest
  simp only [validateCurrentTaskPolicy, except_bind_eq_ok] at hpolicy
  obtain ⟨_, hinput, -⟩ := hpolicy
  exact ⟨hws, hready, safeFields_of_assertTaskInput hinput, hfresh⟩

/-- What `transitionTask` has checked before it emits. -/
structure TaskTransitionAdmitted (plane : Plane) (context : WorkspaceContext) (taskId : EntityId)
    (next : TaskStatus) (task : ControlPlaneTask) : Prop where
  found : plane.tasks.get? (key context.workspaceId taskId) = some task
  not_running : next ≠ .RUNNING
  not_completed : next ≠ .COMPLETED
  idle : ∀ run ∈ plane.runs, RunOfTask task.workspaceId task.id run → ¬ run.status.Active

theorem TaskTransitionAdmitted.of_ok {taskId : EntityId} {next : TaskStatus}
    (h : admitTaskTransition options readings plane context taskId next = .ok task) :
    TaskTransitionAdmitted plane context taskId next task := by
  simp only [admitTaskTransition, except_bind_eq_ok, except_pure_eq_ok, throwIf_eq_ok,
    requireRecord_eq_ok, not_or, Bool.not_eq_true, anyActiveRun_eq_false, exists_const] at h
  obtain ⟨_, hfound, _, -, ⟨hrunning, hcompleted⟩, hidle, rfl⟩ := h
  exact ⟨hfound, hrunning, hcompleted, hidle⟩

/-! ## Runs -/

/-- What `startRun` has checked, with the task and the connection it found. -/
structure RunAdmitted (plane : Plane) (context : WorkspaceContext) (run : AgentRun)
    (task : ControlPlaneTask) (connection : RuntimeConnection) : Prop where
  workspace : context.workspaceId = run.workspaceId
  queued : run.status = .QUEUED
  unbound : run.externalRunId = none
  unregistered : run.adapterRegistrationId = none
  task_found : plane.tasks.get? (key run.workspaceId run.taskId) = some task
  task_ready : task.status = .READY
  connection_found :
    plane.connections.get? (key run.workspaceId run.runtimeConnectionId) = some connection
  fresh : plane.runs.get? (keyOf run) = none
  idle : ∀ other ∈ plane.runs, RunOfTask run.workspaceId run.taskId other → ¬ other.status.Active

theorem RunAdmitted.of_ok {run : AgentRun}
    (h : admitRun options readings plane context run = .ok ()) :
    ∃ task connection, RunAdmitted plane context run task connection := by
  simp only [admitRun, assertWorkspace, except_bind_eq_ok, throwIf_eq_ok, requireRecord_eq_ok,
    ne_eq, not_not, not_or, Bool.not_eq_true, anyActiveRun_eq_false, exists_const] at h
  obtain ⟨hws, hqueued, ⟨hunbound, hunreg, -⟩, task, htask, _, -, connection, hconnection, -,
    hfresh, ⟨hready, -⟩, _, -, _, -, hidle, -⟩ := h
  rw [hws] at htask hconnection
  have hid : task.id = run.taskId := (key_inj.mp (Store.keyOf_of_get? htask)).2
  rw [hid] at hidle
  exact ⟨task, connection, hws, hqueued, hunbound, hunreg, htask, hready, hconnection,
    Store.has_eq_false.mp hfresh, hidle⟩

/-- What `transitionRun` has checked, with the run and the task it found. -/
structure RunTransitionAdmitted (plane : Plane) (context : WorkspaceContext) (runId : EntityId)
    (next : RunStatus) (run : AgentRun) (task : ControlPlaneTask) : Prop where
  found : plane.runs.get? (key context.workspaceId runId) = some run
  settled : plane.inFlightDispatchAdapters.get? (keyOf run) = none
  legal : next ∈ runTransitions run.status
  cancellation : next = .CANCELLED → Truthy run.externalRunId →
    keyOf run ∈ plane.successfulCancellations
  start : run.status = .QUEUED → next = .RUNNING →
    keyOf run ∈ plane.claimedDispatchRuns ∧ Truthy run.externalRunId
  task_found : plane.tasks.get? (key run.workspaceId run.taskId) = some task

variable {runId : EntityId}

theorem RunTransitionAdmitted.of_ok {next : RunStatus} {run : AgentRun}
    (h : admitRunTransition options plane context runId next = .ok (run, task)) :
    RunTransitionAdmitted plane context runId next run task := by
  simp only [admitRunTransition, except_bind_eq_ok, throwIf_eq_ok, requireRecord_eq_ok, not_not,
    not_and, exists_const] at h
  obtain ⟨run', hfound, hsettled, _, -, -, hlegal, hcancel, hstart, task', htask, hrest⟩ := h
  have hpair : run' = run ∧ task' = task := by
    split at hrest
    · simpa using hrest
    · simp only [except_bind_eq_ok, except_pure_eq_ok] at hrest
      obtain ⟨_, -, hrest⟩ := hrest
      simpa using hrest
  obtain ⟨rfl, rfl⟩ := hpair
  have hws : run'.workspaceId = context.workspaceId := (key_inj.mp (Store.keyOf_of_get? hfound)).1
  refine ⟨hfound, ?_, hlegal, hcancel, ?_, hws ▸ htask⟩
  · simpa [OrderedMap.has] using hsettled
  · intro hqueued hrunning
    simpa using hstart hqueued hrunning

/-! ## Adapters and connections -/

/-- What `registerRuntimeAdapter` has checked, with the runtime it found. -/
structure AdapterAdmitted (plane : Plane) (context : WorkspaceContext) (runtimeId : EntityId)
    (adapter : RuntimeAdapter) (runtime : Runtime) : Prop where
  found : plane.runtimes.get? (key context.workspaceId runtimeId) = some runtime
  kind : adapter.adapterKind = runtime.adapterKind
  unused : ∀ previous,
    plane.runtimeAdapters.get? (key context.workspaceId runtime.id) = some previous →
    previous.registrationId ∉ plane.inFlightDispatchAdapters.values ∧
    ∀ run ∈ plane.runs,
      BoundToRuntime plane context.workspaceId runtime.id previous.registrationId run →
      ¬ run.status.Active

theorem AdapterAdmitted.of_ok {runtimeId : EntityId} {adapter : RuntimeAdapter} {runtime : Runtime}
    (h : admitAdapter options plane context runtimeId adapter = .ok runtime) :
    AdapterAdmitted plane context runtimeId adapter runtime := by
  simp only [admitAdapter, except_bind_eq_ok, throwIf_eq_ok, requireRecord_eq_ok, ne_eq, not_not, exists_const] at h
  obtain ⟨-, -, runtime', hfound, hkind, hrest⟩ := h
  split at hrest
  · rename_i hnone
    obtain rfl := except_pure_eq_ok.mp hrest
    exact ⟨hfound, hkind, fun previous hprevious => by simp [hnone] at hprevious⟩
  · rename_i previous hsome
    simp only [except_bind_eq_ok, throwIf_eq_ok, except_pure_eq_ok, not_or, Bool.not_eq_true,
      anyActiveRun_eq_false, exists_const] at hrest
    obtain ⟨⟨hflight, hidle⟩, rfl⟩ := hrest
    refine ⟨hfound, hkind, fun previous' hprevious => ?_⟩
    rw [hsome, Option.some.injEq] at hprevious
    exact hprevious ▸ ⟨hflight, hidle⟩

/-- What `putConnection` has checked. -/
structure ConnectionAdmitted (options : Options σ) (plane : Plane) (context : WorkspaceContext)
    (connection : RuntimeConnection) : Prop where
  workspace : context.workspaceId = connection.workspaceId
  runtime_found :
    ∃ runtime, plane.runtimes.get? (key connection.workspaceId connection.runtimeId) = some runtime
  rotation : ∀ previous,
    plane.connections.get? (key connection.workspaceId connection.id) = some previous →
    ChangesIdentity connection previous → ∀ run ∈ plane.runs,
      UsesConnection connection.workspaceId connection.id run → ¬ run.status.Active
  proofs : validateConnectionProofs options plane context connection = .ok ()

/-- The last checks of `putConnection`. -/
theorem ConnectionAdmitted.of_rest {connection : RuntimeConnection}
    (h : (do
      let _ ← requireRecord plane.runtimes context connection.runtimeId "Runtime"
      throwIf (Truthy connection.credentialReference
          ∧ isSecretReference (connection.credentialReference.getD "") = false)
        (policyError "Runtime credentials must be stored as secret references")
      validateConnectionProofs options plane context connection) = .ok ()) :
    (∃ runtime, plane.runtimes.get? (key context.workspaceId connection.runtimeId) = some runtime)
      ∧ validateConnectionProofs options plane context connection = .ok () := by
  simp only [except_bind_eq_ok, throwIf_eq_ok, requireRecord_eq_ok, exists_const] at h
  obtain ⟨runtime, hruntime, -, hproofs⟩ := h
  exact ⟨⟨runtime, hruntime⟩, hproofs⟩

theorem ConnectionAdmitted.of_ok {connection : RuntimeConnection}
    (h : admitConnection options plane context connection = .ok ()) :
    ConnectionAdmitted options plane context connection := by
  rw [admitConnection, except_bind_eq_ok] at h
  obtain ⟨_, hws, h⟩ := h
  rw [assertWorkspace, throwIf_eq_ok, ne_eq, not_not] at hws
  split at h
  · -- A new connection has no identity to rotate.
    rename_i hnone
    obtain ⟨_, -, hrest⟩ := except_bind_eq_ok.mp h
    obtain ⟨hruntime, hproofs⟩ := ConnectionAdmitted.of_rest hrest
    exact ⟨hws, hws ▸ hruntime, fun previous hprevious => by simp [hnone] at hprevious, hproofs⟩
  · rename_i previous hsome
    have hrotation : ∀ {rest : Except Failure Unit},
        (do throwIf (ChangesIdentity connection previous
              ∧ anyActiveRun plane (UsesConnection connection.workspaceId connection.id) = true)
              (policyError "Cannot rotate connection identity while it has active or in-flight runs")
            rest) = .ok () →
        (ChangesIdentity connection previous → ∀ run ∈ plane.runs,
          UsesConnection connection.workspaceId connection.id run → ¬ run.status.Active)
          ∧ rest = .ok () := by
      intro rest hrest
      simp only [except_bind_eq_ok, throwIf_eq_ok, not_and, Bool.not_eq_true,
        anyActiveRun_eq_false, exists_const] at hrest
      exact hrest
    have hall : (ChangesIdentity connection previous → ∀ run ∈ plane.runs,
          UsesConnection connection.workspaceId connection.id run → ¬ run.status.Active)
        ∧ ∃ runtime,
          plane.runtimes.get? (key context.workspaceId connection.runtimeId) = some runtime
        ∧ validateConnectionProofs options plane context connection = .ok () := by
      split at h
      · obtain ⟨_, -, h⟩ := except_bind_eq_ok.mp h
        obtain ⟨_, -, h⟩ := except_bind_eq_ok.mp h
        obtain ⟨hrot, hrest⟩ := hrotation h
        obtain ⟨⟨runtime, hruntime⟩, hproofs⟩ := ConnectionAdmitted.of_rest hrest
        exact ⟨hrot, runtime, hruntime, hproofs⟩
      · obtain ⟨hrot, hrest⟩ := hrotation h
        obtain ⟨⟨runtime, hruntime⟩, hproofs⟩ := ConnectionAdmitted.of_rest hrest
        exact ⟨hrot, runtime, hruntime, hproofs⟩
    obtain ⟨hrot, runtime, hruntime, hproofs⟩ := hall
    refine ⟨hws, ⟨runtime, hws ▸ hruntime⟩, fun previous' hprevious => ?_, hproofs⟩
    rw [hsome, Option.some.injEq] at hprevious
    exact hprevious ▸ hrot

/-! ## Heartbeats, events and usage -/

/-- What `recordHeartbeat` has checked. -/
structure HeartbeatAdmitted (plane : Plane) (context : WorkspaceContext) (heartbeat : Heartbeat) :
    Prop where
  workspace : context.workspaceId = heartbeat.workspaceId
  principal : context.principalId = heartbeat.principalId
  fresh : plane.heartbeats.get? (keyOf heartbeat) = none

theorem HeartbeatAdmitted.of_ok {heartbeat : Heartbeat}
    (h : admitHeartbeat options plane context heartbeat = .ok ()) :
    HeartbeatAdmitted plane context heartbeat := by
  simp only [admitHeartbeat, assertWorkspace, except_bind_eq_ok, throwIf_eq_ok, ne_eq, not_not,
    not_or, Bool.not_eq_true, exists_const] at h
  obtain ⟨hws, _, -, ⟨-, hprincipal⟩, -, hfresh, -⟩ := h
  exact ⟨hws, hprincipal, Store.has_eq_false.mp hfresh⟩

/-- What `appendEvent` has checked. -/
structure EventAdmitted (plane : Plane) (context : WorkspaceContext) (event : ControlPlaneEvent) :
    Prop where
  workspace : context.workspaceId = event.workspaceId
  actor : context.principalId = event.actorId
  fresh : plane.eventsById.get? (keyOf event) = none
  owner : ∀ runId, event.runId = some runId → runId ≠ "" → ∃ run connection,
    plane.runs.get? (key event.workspaceId runId) = some run ∧
    plane.connections.get? (key event.workspaceId run.runtimeConnectionId) = some connection ∧
    connection.authenticatedPrincipalId = some event.actorId

theorem EventAdmitted.of_ok {event : ControlPlaneEvent}
    (h : admitEvent plane context event = .ok ()) : EventAdmitted plane context event := by
  simp only [admitEvent, assertWorkspace, except_bind_eq_ok, throwIf_eq_ok, ne_eq, not_not,
    Bool.not_eq_true, exists_const] at h
  obtain ⟨hws, hactor, _, -, hfresh, -, hrest⟩ := h
  refine ⟨hws, hactor, Store.has_eq_false.mp hfresh, fun runId hrun hne => ?_⟩
  have htruthy : whenTruthy event.runId = some runId := by simp [whenTruthy, hrun, hne]
  rw [htruthy] at hrest
  simp only [except_bind_eq_ok, throwIf_eq_ok, requireRecord_eq_ok, not_not] at hrest
  obtain ⟨run, hfound, connection, hconnection, howner⟩ := hrest
  exact ⟨run, connection, hws ▸ hfound, hws ▸ hconnection, howner.symm⟩

/-- What `assertAmount` has checked. -/
theorem nonneg_of_assertAmount {amount : Option Int} {field : String}
    (h : assertAmount amount field = .ok ()) : 0 ≤ amount.getD 0 := by
  cases amount with
  | none => exact le_rfl
  | some n => exact (bounds_of_assertNonNegativeInteger h).1

/-- What `recordUsage` has checked. -/
structure UsageAdmitted (plane : Plane) (usage : UsageRecord) : Prop where
  cost : 0 ≤ usage.costMinorUnits.getD 0
  compute : 0 ≤ usage.computeUnits.getD 0
  fresh : plane.usage.get? (keyOf usage) = none

theorem UsageAdmitted.of_ok {usage : UsageRecord}
    (h : admitUsage options plane context usage = .ok ()) : UsageAdmitted plane usage := by
  simp only [admitUsage, assertWorkspace, except_bind_eq_ok, throwIf_eq_ok, Bool.not_eq_true, exists_const] at h
  obtain ⟨-, hfresh, _, -, _, -, _, -, -, -, _, hcost, _, hcompute, -⟩ := h
  exact ⟨nonneg_of_assertAmount hcost, nonneg_of_assertAmount hcompute, Store.has_eq_false.mp hfresh⟩

/-! ## Dispatches -/

/-- What `mintDispatch` has checked, with the run and the task it found. -/
structure DispatchAdmitted (plane : Plane) (context : WorkspaceContext) (runKey : Key)
    (dispatch : RuntimeDispatchPermit) (task : ControlPlaneTask) : Prop where
  unmarked : runKey ∉ plane.dispatchedRuns
  run_key : runKey = key dispatch.envelope.workspaceId dispatch.envelope.runId
  workspace : dispatch.envelope.workspaceId = context.workspaceId
  task_found : task ∈ plane.tasks
  input : dispatch.envelope.input = task.input

theorem DispatchAdmitted.of_ok {runKey : Key} {dispatch : RuntimeDispatchPermit}
    (h : admitDispatch options readings plane context runId = .ok (runKey, dispatch)) :
    runKey = key context.workspaceId runId ∧
      ∃ task, DispatchAdmitted plane context runKey dispatch task := by
  simp only [admitDispatch, except_bind_eq_ok, throwIf_eq_ok, requireRecord_eq_ok, exists_const] at h
  obtain ⟨run, hrun, -, hunmarked, connection, -, _, -, hrest⟩ := h
  split at hrest
  · cases hrest
  · simp only [except_bind_eq_ok, except_pure_eq_ok, requireRecord_eq_ok, Prod.mk.injEq] at hrest
    obtain ⟨task, htask, requirements, -, rfl, rfl⟩ := hrest
    have hkey : key run.workspaceId run.id = key context.workspaceId runId :=
      Store.keyOf_of_get? hrun
    have htws : task.workspaceId = context.workspaceId :=
      (key_inj.mp (Store.keyOf_of_get? htask)).1
    refine ⟨hkey, task, hunmarked, ?_, htws, Store.mem_of_get? htask, rfl⟩
    simp [envelopeFor, (key_inj.mp hkey).1, htws]

/-- A permit is executed only if it is stored and its principal presents it. -/
theorem stored_of_ownedDispatch {dispatch stored : RuntimeDispatchPermit}
    (h : ownedDispatch plane context dispatch = .ok stored) :
    plane.dispatches.get? (key context.workspaceId dispatch.dispatchId) = some stored
      ∧ stored.runtimePrincipalId = some context.principalId := by
  unfold ownedDispatch at h
  split at h
  · cases h
  · rename_i permit hfound
    simp only [except_bind_eq_ok, except_pure_eq_ok, throwIf_eq_ok, not_or, not_not, ne_eq, exists_const] at h
    obtain ⟨⟨hprincipal, -⟩, rfl⟩ := h
    exact ⟨hfound, hprincipal.symm⟩

/-- What the claim of a permit has checked about the records the call of the adapter depends on. -/
structure DispatchValid (plane : Plane) (context : WorkspaceContext)
    (stored : RuntimeDispatchPermit) (run : AgentRun) (connection : RuntimeConnection)
    (registration : AdapterRegistration) : Prop where
  run_found : plane.runs.get? (key context.workspaceId stored.envelope.runId) = some run
  queued : run.status = .QUEUED
  connection_found :
    plane.connections.get? (key context.workspaceId run.runtimeConnectionId) = some connection
  principal : connection.authenticatedPrincipalId = some context.principalId
  registered : plane.runtimeAdapters.get? (key context.workspaceId connection.runtimeId)
    = some registration
  registration_id : registration.registrationId = stored.adapterRegistrationId

theorem DispatchValid.of_ok {stored : RuntimeDispatchPermit}
    (h : revalidateDispatch options readings plane context stored = .ok ()) :
    ∃ run connection registration,
      DispatchValid plane context stored run connection registration := by
  simp only [revalidateDispatch, except_bind_eq_ok, throwIf_eq_ok, requireRecord_eq_ok, ne_eq,
    not_or, not_not, exists_const] at h
  obtain ⟨run, hrun, task, -, connection, hconnection,
    ⟨hqueued, -, -, hid, hregistered, -, hprincipal⟩, -⟩ := h
  obtain ⟨registration, hget, hreg⟩ := Option.map_eq_some_iff.mp hregistered.symm
  have hcid : connection.id = stored.connectionId :=
    (key_inj.mp (Store.keyOf_of_get? hconnection)).2
  rw [← hcid, ← hid] at hconnection
  exact ⟨run, connection, registration, hrun, hqueued, hconnection, hprincipal.symm, hget, hreg⟩

/-- What `executeDispatch` found before it called `adapter.start`. -/
structure StartCalled (plane : Plane) (context : WorkspaceContext)
    (validated : RuntimeDispatchPermit) (frame : PendingStart) : Prop where
  context_eq : frame.context = context
  run_id : frame.runId = validated.envelope.runId
  dispatch_eq : frame.dispatch = validated
  registered : ∃ run connection,
    plane.runs.get? frame.runKey = some run ∧
    plane.connections.get? (key context.workspaceId run.runtimeConnectionId) = some connection ∧
    (∃ runtime, plane.runtimes.get? (key context.workspaceId connection.runtimeId) = some runtime) ∧
    plane.runtimeAdapters.get? (key context.workspaceId connection.runtimeId)
      = some frame.registration

theorem StartCalled.of_ok {validated : RuntimeDispatchPermit} {frame : PendingStart}
    (h : startCall plane context validated = .ok frame) :
    StartCalled plane context validated frame := by
  simp only [startCall, except_bind_eq_ok, requireRecord_eq_ok] at h
  obtain ⟨run, hrun, connection, hconnection, runtime, hruntime, hrest⟩ := h
  split at hrest
  · cases hrest
  · rename_i registration hregistered
    simp only [except_bind_eq_ok, except_pure_eq_ok, throwIf_eq_ok, exists_const] at hrest
    obtain ⟨-, rfl⟩ := hrest
    have hid : run.id = validated.envelope.runId := (key_inj.mp (Store.keyOf_of_get? hrun)).2
    have hrid : runtime.id = connection.runtimeId :=
      (key_inj.mp (Store.keyOf_of_get? hruntime)).2
    refine ⟨rfl, hid, rfl, run, connection, ?_, hconnection, ⟨runtime, hruntime⟩, hrid ▸ hregistered⟩
    rw [PendingStart.runKey, hid]
    exact hrun

/-- What `#bindExternalRun` has checked, with the connection it found. -/
structure BindingAdmitted (plane : Plane) (context : WorkspaceContext) (runId : EntityId)
    (externalRunId : String) (registrationId : EntityId) (run : AgentRun)
    (connection : RuntimeConnection) : Prop where
  external_ne : externalRunId ≠ ""
  found : plane.runs.get? (key context.workspaceId runId) = some run
  connection_found :
    plane.connections.get? (key context.workspaceId run.runtimeConnectionId) = some connection
  claimed : keyOf run ∈ plane.claimedDispatchRuns
  registered : (plane.runtimeAdapters.get? (key context.workspaceId connection.runtimeId)).map
    AdapterRegistration.registrationId = some registrationId
  unshared : ∀ other ∈ plane.runs, other.workspaceId = run.workspaceId → other.id ≠ run.id →
    other.runtimeConnectionId = run.runtimeConnectionId → other.externalRunId ≠ some externalRunId

theorem BindingAdmitted.of_ok {externalRunId : String} {registrationId : EntityId} {run : AgentRun}
    (h : admitBinding plane context runId externalRunId registrationId = .ok run) :
    ∃ connection,
      BindingAdmitted plane context runId externalRunId registrationId run connection := by
  simp only [admitBinding, except_bind_eq_ok, except_pure_eq_ok, throwIf_eq_ok, requireRecord_eq_ok,
    not_not, ne_eq, Bool.not_eq_true, List.any_eq_false, decide_eq_true_eq, Store.mem_values,
    exists_const] at h
  obtain ⟨_, hstring, run', hrun, connection, hconnection, -, hclaimed, -, hregistered, -, -,
    hunshared, rfl⟩ := h
  have hcid : connection.id = run'.runtimeConnectionId :=
    (key_inj.mp (Store.keyOf_of_get? hconnection)).2
  refine ⟨connection, ne_empty_of_assertString hstring, hrun, hconnection, hclaimed, hregistered,
    fun other hother hws hid hconn hext => hunshared other hother ⟨hws, hid, ?_, hext⟩⟩
  rw [hconn, hcid]

/-! ## Cancellations -/

/-- What `mintCancellation` has checked. -/
structure CancellationAdmitted (plane : Plane) (context : WorkspaceContext)
    (workspaceId : EntityId) (cancellation : RuntimeCancellationPermit) : Prop where
  workspace : workspaceId = context.workspaceId
  unmarked : key workspaceId cancellation.runId ∉ plane.cancelledRuns

theorem CancellationAdmitted.of_ok {workspaceId : EntityId} {cancellation : RuntimeCancellationPermit}
    (h : admitCancellation options readings plane context runId = .ok (workspaceId, cancellation)) :
    cancellation.runId = runId ∧ CancellationAdmitted plane context workspaceId cancellation := by
  simp only [admitCancellation, except_bind_eq_ok, requireRecord_eq_ok] at h
  obtain ⟨run, hrun, hrest⟩ := h
  split at hrest
  · simp only [except_bind_eq_ok, throwIf_eq_ok, exists_const] at hrest
    obtain ⟨-, hunmarked, connection, -, _, -, hrest⟩ := hrest
    split at hrest
    · cases hrest
    · simp only [except_bind_eq_ok, except_pure_eq_ok, Prod.mk.injEq] at hrest
      obtain ⟨_, -, rfl, rfl⟩ := hrest
      obtain ⟨hws, hid⟩ := key_inj.mp (Store.keyOf_of_get? hrun)
      exact ⟨hid, hws, hunmarked⟩
  · cases hrest

/-- A cancellation is executed only if it is stored and its principal presents it. -/
theorem stored_of_ownedCancellation {cancellation stored : RuntimeCancellationPermit}
    (h : ownedCancellation plane context cancellation = .ok stored) :
    plane.cancellations.get? (key context.workspaceId cancellation.cancellationId)
      = some stored := by
  unfold ownedCancellation at h
  split at h
  · cases h
  · rename_i permit hfound
    simp only [except_bind_eq_ok, except_pure_eq_ok] at h
    obtain ⟨_, -, rfl⟩ := h
    exact hfound

/-- What the claim of a cancellation has checked about the run. -/
theorem run_of_revalidateCancellation {stored : RuntimeCancellationPermit}
    (h : revalidateCancellation plane context stored = .ok ()) :
    ∃ run, plane.runs.get? (key context.workspaceId stored.runId) = some run ∧ run.status.Active ∧
      run.externalRunId = some stored.externalRunId ∧
      run.adapterRegistrationId = some stored.adapterRegistrationId := by
  simp only [revalidateCancellation, except_bind_eq_ok, throwIf_eq_ok, requireRecord_eq_ok, ne_eq,
    not_or, not_not] at h
  obtain ⟨run, hrun, connection, -, hactive, -, -, hregistration, hexternal, -⟩ := h
  exact ⟨run, hrun, hactive, hexternal, hregistration⟩

/-- What `executeCancellation` found before it called `adapter.cancel`. -/
theorem frame_of_cancelCall {validated : RuntimeCancellationPermit} {frame : PendingCancellation}
    (h : cancelCall plane context validated = .ok frame) :
    frame.context = context ∧ frame.cancellation = validated ∧ ∃ run connection,
      plane.runs.get? frame.runKey = some run ∧
      plane.connections.get? (key context.workspaceId run.runtimeConnectionId) = some connection ∧
      (∃ runtime, plane.runtimes.get? (key context.workspaceId connection.runtimeId) = some runtime) ∧
      plane.runtimeAdapters.get? (key context.workspaceId connection.runtimeId)
        = some frame.registration := by
  simp only [cancelCall, except_bind_eq_ok, requireRecord_eq_ok] at h
  obtain ⟨run, hrun, connection, hconnection, runtime, hruntime, hrest⟩ := h
  split at hrest
  · cases hrest
  · rename_i registration hregistered
    simp only [except_bind_eq_ok, except_pure_eq_ok] at hrest
    obtain ⟨_, -, rfl⟩ := hrest
    have hrid : runtime.id = connection.runtimeId :=
      (key_inj.mp (Store.keyOf_of_get? hruntime)).2
    exact ⟨rfl, rfl, run, connection, hrun, hconnection, ⟨runtime, hruntime⟩, hrid ▸ hregistered⟩

end VentureOS.ControlPlane
