import VentureOS.ControlPlane.State

/-! # Synchronous operations of the control plane

The public mutators of `InMemoryControlPlane` that complete within one call. Each is written as the
source has it: checks on the plane, the emission of an operational event, the write. The checks that
precede the first effect of an operation are a function of their own (`admit…`), so that what an
accepted operation has checked can be stated by naming that function. -/

namespace VentureOS.ControlPlane

open Program

/-- The control plane together with the state of its event sink. -/
structure World (σ : Type) where
  /-- The private fields and suspended calls. -/
  plane : Plane
  /-- The state of the event sink. -/
  sink : σ

/-- A method of the control plane. -/
abbrev Op (σ α : Type) := Program Failure (World σ) α

variable {σ α : Type}

/-- Read the plane. -/
def readPlane : Op σ Plane := do return (← get).plane

/-- Write the plane. -/
def writePlane (f : Plane → Plane) : Op σ Unit := modify fun w => { w with plane := f w.plane }

/-- Call a method of the event sink. -/
def onSink (x : Program Failure σ α) : Op σ α := do
  let w ← get
  -- What the sink wrote stays written when it throws.
  set { w with sink := (x.exec w.sink).2 }
  (x.exec w.sink).1

theorem ensures_readPlane_bind (f : Plane → Op σ α) (w : World σ)
    (Q : Except Failure α → World σ → Prop) :
    Ensures (readPlane >>= f) w Q ↔ Ensures (f w.plane) w Q := by
  simp only [readPlane, bind_assoc, ensures_get_bind, pure_bind]

@[simp] theorem ensures_writePlane (f : Plane → Plane) (w : World σ)
    (Q : Except Failure Unit → World σ → Prop) :
    Ensures (writePlane f) w Q ↔ Q (.ok ()) { w with plane := f w.plane } := Iff.rfl

theorem ensures_writePlane_bind {β : Type} (f : Plane → Plane) (g : Unit → Op σ β) (w : World σ)
    (Q : Except Failure β → World σ → Prop) :
    Ensures (writePlane f >>= g) w Q ↔ Ensures (g ()) { w with plane := f w.plane } Q := by
  rw [ensures_bind, ensures_writePlane]

@[simp] theorem ensures_onSink (x : Program Failure σ α) (w : World σ)
    (Q : Except Failure α → World σ → Prop) :
    Ensures (onSink x) w Q ↔ Ensures x w.sink (fun r s => Q r { w with sink := s }) := by
  unfold onSink
  rw [ensures_get_bind, ensures_bind, ensures_set]
  simp only [ensures_lift]
  exact Iff.rfl

/-! ## Operational events -/

/-- `new Date(now).toISOString()`. -/
def isoTime (now : Int) : Except Failure String :=
  match toISOString now with
  | some text => .ok text
  | none => .error ⟨.rangeError, "Invalid time value"⟩

/-- An optional value under a truthiness test: `...(value ? { value } : {})`. -/
def whenTruthy (value : Option String) : Option String := if Truthy value then value else none

variable (options : Options σ) (readings : Readings)

/-- What `#emitOperationalEvent` is asked to report. -/
structure EventReport where
  type : OperationalEventType
  subjectType : String
  subjectId : EntityId
  facts : Facts
  correlationId : Option EntityId
  deriving DecidableEq, Repr

/-- The event `#emitOperationalEvent` appends. -/
def operationalEvent (context : WorkspaceContext) (actorKind : OperationalActorKind)
    (occurredAt : String) (report : EventReport) : OperationalEvent where
  id := readings.eventId
  workspaceId := context.workspaceId
  type := report.type
  source := .CONTROL_PLANE
  actorKind := actorKind
  actorId := context.principalId
  subjectType := report.subjectType
  subjectId := report.subjectId
  occurredAt := occurredAt
  idempotencyKey := readings.eventId
  correlationId := whenTruthy report.correlationId
  facts := report.facts

/-- `#emitOperationalEvent`. -/
def emitOperationalEvent (context : WorkspaceContext) (report : EventReport) : Op σ Unit :=
  match options.eventSink with
  | none => pure ()
  | some (sink, capability) => do
    -- The fields are evaluated in the order of the object literal, each may throw.
    let actorKind ← capability.actorKindFor context
    let occurredAt ← isoTime readings.now
    onSink (sink.append capability context (operationalEvent readings context actorKind occurredAt report))

/-- Emitting an event leaves the plane alone. -/
theorem emitOperationalEvent_plane (context : WorkspaceContext) (report : EventReport)
    (w : World σ) :
    Ensures (emitOperationalEvent options readings context report) w
      (fun _ w' => w'.plane = w.plane) := by
  unfold emitOperationalEvent
  split
  · rfl
  · simp only [ensures_lift_bind, ensures_onSink, ensures_true, implies_true, true_and]

/-! ## Administration -/

/-- The shape of the operations that only an authorizer may call: the record belongs to the caller's
workspace, the caller is an authorizer, the record passes its own checks, the record is written. -/
def administer (context : WorkspaceContext) (workspaceId : EntityId)
    (check : Plane → Except Failure Unit) (write : Plane → Plane) : Op σ Unit := do
  assertWorkspace context workspaceId
  assertAuthorizer options context
  let plane ← readPlane
  check plane
  writePlane write

/-- An administrative operation either fails without effect or writes its record. -/
theorem administer_spec (context : WorkspaceContext) (workspaceId : EntityId)
    (check : Plane → Except Failure Unit) (write : Plane → Plane) (w : World σ) :
    Ensures (administer options context workspaceId check write) w (fun r w' => match r with
      | .ok _ => context.workspaceId = workspaceId
          ∧ context.principalId ∈ options.authorityPrincipals
          ∧ w' = { w with plane := write w.plane }
      | .error _ => w' = w) := by
  unfold administer
  simp only [ensures_lift_bind, ensures_readPlane_bind, ensures_writePlane, implies_true, true_and,
    and_true, assertWorkspace, assertAuthorizer, throwIf_eq_ok, not_not]
  intro _ hws _ hauthorizer _ _
  exact ⟨hws, hauthorizer⟩

/-- `putRuntime`. -/
def putRuntime (context : WorkspaceContext) (runtime : Runtime) : Op σ Unit :=
  administer options context runtime.workspaceId (fun _ => .ok ())
    (fun plane => { plane with runtimes := plane.runtimes.put runtime })

/-- `putCapability`. -/
def putCapability (context : WorkspaceContext) (capability : Capability) : Op σ Unit :=
  administer options context capability.workspaceId (fun _ => .ok ())
    (fun plane => { plane with capabilities := plane.capabilities.put capability })

/-- `putTool`. -/
def putTool (context : WorkspaceContext) (tool : Tool) : Op σ Unit :=
  administer options context tool.workspaceId (fun _ => .ok ())
    (fun plane => { plane with tools := plane.tools.put tool })

/-- `putAgent`. -/
def putAgent (context : WorkspaceContext) (agent : Agent) : Op σ Unit :=
  administer options context agent.workspaceId
    (fun plane => do
      let _ ← requireRecord plane.runtimes context agent.runtimeId "Runtime"
      throwIf (isSafeInteger agent.maxConcurrentRuns = false ∨ agent.maxConcurrentRuns < 1)
        (policyError "Agent maxConcurrentRuns must be a positive integer"))
    (fun plane => { plane with agents := plane.agents.put agent })

/-- `grantAgentCapability`. -/
def grantAgentCapability (context : WorkspaceContext) (grant : AgentCapability) : Op σ Unit :=
  administer options context grant.workspaceId
    (fun plane => do
      let _ ← requireRecord plane.agents context grant.agentId "Agent"
      let _ ← requireRecord plane.capabilities context grant.capabilityId "Capability")
    (fun plane => { plane with agentCapabilities := plane.agentCapabilities.put grant })

/-- `grantTool`. -/
def grantTool (context : WorkspaceContext) (grant : ToolGrant) : Op σ Unit :=
  administer options context grant.workspaceId
    (fun plane => do
      let _ ← requireRecord plane.agents context grant.agentId "Agent"
      let _ ← requireRecord plane.tools context grant.toolId "Tool"
      throwIf (grant.scopes.length = 0) (policyError "Tool grant requires a scope"))
    (fun plane => { plane with toolGrants := plane.toolGrants.put grant })

/-- `grantAuthority`. -/
def grantAuthority (context : WorkspaceContext) (grant : AuthorityGrant) : Op σ Unit :=
  administer options context grant.workspaceId
    (fun plane => do
      let agent ← requireRecord plane.agents context grant.agentId "Agent"
      throwIf (agent.authorityLevel < grant.level)
        (policyError "Authority grant exceeds the agent authority ceiling")
      assertCostLimit grant.costLimit
      throwIf (isSafeInteger grant.maxConcurrentRuns = false ∨ grant.maxConcurrentRuns < 1)
        (policyError "Authority maxConcurrentRuns must be a positive integer"))
    (fun plane => { plane with authorityGrants := plane.authorityGrants.put grant })

/-- The run is bound to the registration and its connection belongs to the runtime. -/
def BoundToRuntime (plane : Plane) (workspaceId runtimeId registrationId : EntityId)
    (run : AgentRun) : Prop :=
  run.workspaceId = workspaceId ∧ run.adapterRegistrationId = some registrationId ∧
    (plane.connections.get? (key run.workspaceId run.runtimeConnectionId)).map
      RuntimeConnection.runtimeId = some runtimeId

instance (plane : Plane) (workspaceId runtimeId registrationId : EntityId) (run : AgentRun) :
    Decidable (BoundToRuntime plane workspaceId runtimeId registrationId run) :=
  inferInstanceAs (Decidable (_ ∧ _ ∧ _))

/-- The checks of `registerRuntimeAdapter`, with the runtime they find. -/
def admitAdapter (plane : Plane) (context : WorkspaceContext) (runtimeId : EntityId)
    (adapter : RuntimeAdapter) : Except Failure Runtime := do
  assertAuthorizer options context
  let runtime ← requireRecord plane.runtimes context runtimeId "Runtime"
  throwIf (adapter.adapterKind ≠ runtime.adapterKind)
    (policyError "Adapter kind does not match the registered runtime")
  match plane.runtimeAdapters.get? (key context.workspaceId runtime.id) with
  | none => return runtime
  | some previous => do
    throwIf (previous.registrationId ∈ plane.inFlightDispatchAdapters.values
        ∨ anyActiveRun plane (BoundToRuntime plane context.workspaceId runtime.id previous.registrationId) = true)
      (policyError "Cannot replace an adapter with in-flight dispatches or active bound runs")
    return runtime

/-- `registerRuntimeAdapter`. -/
def registerRuntimeAdapter (context : WorkspaceContext) (runtimeId : EntityId)
    (adapter : RuntimeAdapter) : Op σ Unit := do
  let plane ← readPlane
  let runtime ← admitAdapter options plane context runtimeId adapter
  writePlane fun plane => { plane with
    runtimeAdapters := plane.runtimeAdapters.set (key context.workspaceId runtime.id)
      ⟨readings.uuid, adapter⟩ }

/-! ## Connections and heartbeats -/

/-- The connection changes its runtime, its principal or its credential. -/
def ChangesIdentity (connection previous : RuntimeConnection) : Prop :=
  connection.runtimeId ≠ previous.runtimeId
    ∨ connection.authenticatedPrincipalId ≠ previous.authenticatedPrincipalId
    ∨ connection.credentialReference ≠ previous.credentialReference

instance (connection previous : RuntimeConnection) :
    Decidable (ChangesIdentity connection previous) :=
  inferInstanceAs (Decidable (_ ∨ _ ∨ _))

/-- The run uses the connection. -/
def UsesConnection (workspaceId connectionId : EntityId) (run : AgentRun) : Prop :=
  run.workspaceId = workspaceId ∧ run.runtimeConnectionId = connectionId

instance (workspaceId connectionId : EntityId) (run : AgentRun) :
    Decidable (UsesConnection workspaceId connectionId run) :=
  inferInstanceAs (Decidable (_ ∧ _))

/-- A credential must be a reference to a secret. -/
def isSecretReference (reference : String) : Bool :=
  "secret://".toList.isPrefixOf reference.toList || "vault://".toList.isPrefixOf reference.toList
    || "envref://".toList.isPrefixOf reference.toList

/-- The checks of `putConnection` before its first write. -/
def admitConnection (plane : Plane) (context : WorkspaceContext) (connection : RuntimeConnection) :
    Except Failure Unit := do
  assertWorkspace context connection.workspaceId
  match plane.connections.get? (key connection.workspaceId connection.id) with
  | none =>
    throwIf (context.principalId ∉ options.authorityPrincipals)
      (policyError "Initial connection provisioning requires an authorizer")
  | some previous => do
    -- A runtime may refresh its own proofs, but not change whose connection it is.
    if context.principalId ∉ options.authorityPrincipals then
      throwIf (some context.principalId ≠ previous.authenticatedPrincipalId)
        (policyError "Connection update requires its existing runtime principal")
      throwIf (ChangesIdentity connection previous)
        (policyError "Runtime identity and credential binding require authorizer rotation")
    -- Rotation waits for the active runs, whoever asks for it.
    throwIf (ChangesIdentity connection previous
        ∧ anyActiveRun plane (UsesConnection connection.workspaceId connection.id) = true)
      (policyError "Cannot rotate connection identity while it has active or in-flight runs")
  let _ ← requireRecord plane.runtimes context connection.runtimeId "Runtime"
  throwIf (Truthy connection.credentialReference
      ∧ isSecretReference (connection.credentialReference.getD "") = false)
    (policyError "Runtime credentials must be stored as secret references")
  validateConnectionProofs options plane context connection

/-- Undo a write of `putConnection`. -/
def restoreConnection (connectionKey : Key) (previous : Option RuntimeConnection) : Op σ Unit :=
  writePlane fun plane => { plane with
    connections := match previous with
      | some connection => plane.connections.put connection
      | none => plane.connections.delete connectionKey }

/-- The claim to be connected is tested against the evidence. -/
def assertConnectedEvidence (plane : Plane) (context : WorkspaceContext)
    (connection : RuntimeConnection) : Except Failure Unit := do
  if connection.status = .CONNECTED then
    let status ← deriveConnectionStatus options readings.now plane context connection.id
    throwIf (status ≠ .CONNECTED)
      (policyError "CONNECTED requires fresh correlated runtime evidence")

/-- What `putConnection` reports. -/
def connectionReport (connection : RuntimeConnection) : EventReport where
  type := .runtimeConnectionUpdated
  subjectType := "RuntimeConnection"
  subjectId := connection.id
  facts := [("status", .text connection.status.code), ("runtimeId", .text connection.runtimeId)]
  correlationId := none

/-- `putConnection`. -/
def putConnection (context : WorkspaceContext) (connection : RuntimeConnection) : Op σ Unit := do
  let plane ← readPlane
  let connectionKey := key connection.workspaceId connection.id
  let previous := plane.connections.get? connectionKey
  admitConnection options plane context connection
  -- Written before the test, which derives the status of the stored connection.
  writePlane fun plane => { plane with connections := plane.connections.put connection }
  tryCatch
    (do
      let plane ← readPlane
      assertConnectedEvidence options readings plane context connection)
    (fun error => do
      restoreConnection connectionKey previous
      throw error)
  tryCatch
    (emitOperationalEvent options readings context (connectionReport connection))
    (fun error => do
      restoreConnection connectionKey previous
      throw error)

/-- The highest sequence number recorded on a connection, `-1` without a heartbeat. -/
def priorSequence (plane : Plane) (workspaceId connectionId : EntityId) : Int :=
  ((plane.heartbeats.values.filter (fun candidate => decide
    (candidate.workspaceId = workspaceId ∧ candidate.runtimeConnectionId = connectionId))).map
      Heartbeat.sequence).foldl max (-1)

/-- The checks of `recordHeartbeat`. -/
def admitHeartbeat (plane : Plane) (context : WorkspaceContext) (heartbeat : Heartbeat) :
    Except Failure Unit := do
  assertWorkspace context heartbeat.workspaceId
  let connection ← requireRecord plane.connections context heartbeat.runtimeConnectionId
    "Runtime connection"
  throwIf (some heartbeat.principalId ≠ connection.authenticatedPrincipalId
      ∨ context.principalId ≠ heartbeat.principalId)
    (policyError "Heartbeat principal is not bound to the runtime connection")
  throwIf (isSafeInteger heartbeat.sequence = false
      ∨ heartbeat.sequence ≤ priorSequence plane heartbeat.workspaceId heartbeat.runtimeConnectionId)
    (policyError "Heartbeat sequence must increase monotonically")
  throwIf (plane.heartbeats.has (key heartbeat.workspaceId heartbeat.id) = true)
    (policyError "Duplicate heartbeat ID")
  let _ ← parsedTime options.dateParse heartbeat.observedAt "heartbeat.observedAt"

/-- What `recordHeartbeat` reports. -/
def heartbeatReport (heartbeat : Heartbeat) : EventReport where
  type := .runtimeHeartbeatRecorded
  subjectType := "Heartbeat"
  subjectId := heartbeat.id
  facts := [("connectionId", .text heartbeat.runtimeConnectionId),
    ("sequence", .integer heartbeat.sequence), ("health", .text heartbeat.health.code)]
  correlationId := some heartbeat.runtimeConnectionId

/-- `recordHeartbeat`. -/
def recordHeartbeat (context : WorkspaceContext) (heartbeat : Heartbeat) : Op σ Unit := do
  let plane ← readPlane
  admitHeartbeat options plane context heartbeat
  emitOperationalEvent options readings context (heartbeatReport heartbeat)
  writePlane fun plane => { plane with heartbeats := plane.heartbeats.put heartbeat }

/-! ## Tasks -/

/-- The string `task.input.connectionId as string`. -/
def inputConnectionId (task : ControlPlaneTask) : EntityId :=
  match fieldOf task.input "connectionId" with
  | some (.str id) => id
  | _ => ""

/-- The checks of `createTask`. -/
def admitTask (plane : Plane) (context : WorkspaceContext) (task : ControlPlaneTask) :
    Except Failure Unit := do
  assertWorkspace context task.workspaceId
  throwIf (context.principalId ∉ options.authorityPrincipals
      ∧ context.principalId ∉ options.plannerPrincipals)
    (policyError "Task creation requires an authorized planner")
  throwIf (task.status ≠ .READY) (policyError "New tasks must start READY")
  let _ ← validateCurrentTaskPolicy options readings.now plane context task
  -- A health check names the connection it is for.
  if task.kind = .runtimeHealthCheck then
    let _ ← requireRecord plane.connections context (inputConnectionId task) "Runtime connection"
  throwIf (plane.tasks.has (key task.workspaceId task.id) = true) (policyError "Duplicate task ID")

/-- What `createTask` reports. -/
def taskReport (task : ControlPlaneTask) : EventReport where
  type := .taskCreated
  subjectType := "Task"
  subjectId := task.id
  facts := [("kind", .text task.kind.code), ("status", .text task.status.code),
    ("requiredAuthorityLevel", .integer task.requiredAuthorityLevel.val)]
  correlationId := none

/-- `createTask`. -/
def createTask (context : WorkspaceContext) (task : ControlPlaneTask) : Op σ Unit := do
  let plane ← readPlane
  admitTask options readings plane context task
  emitOperationalEvent options readings context (taskReport task)
  writePlane fun plane => { plane with tasks := plane.tasks.put task }

/-- The run belongs to the task. -/
def RunOfTask (workspaceId taskId : EntityId) (run : AgentRun) : Prop :=
  run.workspaceId = workspaceId ∧ run.taskId = taskId

instance (workspaceId taskId : EntityId) (run : AgentRun) :
    Decidable (RunOfTask workspaceId taskId run) :=
  inferInstanceAs (Decidable (_ ∧ _))

/-- The checks of `transitionTask` before it emits, with the task they find. -/
def admitTaskTransition (plane : Plane) (context : WorkspaceContext) (taskId : EntityId)
    (next : TaskStatus) : Except Failure ControlPlaneTask := do
  let task ← requireRecord plane.tasks context taskId "Task"
  assertTaskOperator options readings.now plane context task
  -- These two states are reached only by `transitionRun`.
  throwIf (next = .RUNNING ∨ next = .COMPLETED)
    (policyError s!"{next.code} task state requires a valid run lifecycle")
  throwIf (anyActiveRun plane (RunOfTask task.workspaceId task.id) = true)
    (policyError "An active task may transition only through its run")
  return task

/-- What `transitionTask` reports. -/
def taskStatusReport (task : ControlPlaneTask) (next : TaskStatus) : EventReport where
  type := .taskStatusChanged
  subjectType := "Task"
  subjectId := task.id
  facts := [("previousStatus", .text task.status.code), ("nextStatus", .text next.code)]
  correlationId := some task.id

/-- `#transitionTaskRecord`. -/
def transitionTaskRecord (task : ControlPlaneTask) (next : TaskStatus) : Op σ Unit := do
  throwIf (next ∉ taskTransitions task.status)
    (policyError s!"Illegal task transition {task.status.code} -> {next.code}")
  writePlane fun plane => { plane with tasks := plane.tasks.put { task with status := next } }

/-- `transitionTask`. The legality of the transition is tested after the event is emitted. -/
def transitionTask (context : WorkspaceContext) (taskId : EntityId) (next : TaskStatus) :
    Op σ Unit := do
  let plane ← readPlane
  let task ← admitTaskTransition options readings plane context taskId next
  emitOperationalEvent options readings context (taskStatusReport task next)
  transitionTaskRecord task next

/-! ## Runs -/

/-- The checks of `startRun`. -/
def admitRun (plane : Plane) (context : WorkspaceContext) (run : AgentRun) :
    Except Failure Unit := do
  assertWorkspace context run.workspaceId
  throwIf (run.status ≠ .QUEUED) (policyError "New runs must start QUEUED")
  throwIf (run.externalRunId ≠ none ∨ run.adapterRegistrationId ≠ none ∨ run.startedAt ≠ none
      ∨ run.completedAt ≠ none)
    (policyError "New runs cannot pre-bind external ownership or lifecycle timestamps")
  let task ← requireRecord plane.tasks context run.taskId "Task"
  let (agent, authority) ← validateCurrentTaskPolicy options readings.now plane context task
  let connection ← requireRecord plane.connections context run.runtimeConnectionId
    "Runtime connection"
  throwIf (Unrelated options context connection)
    (policyError "Run start requires an authorizer or the bound runtime")
  throwIf (plane.runs.has (key run.workspaceId run.id) = true) (policyError "Duplicate run ID")
  throwIf (task.status ≠ .READY ∨ task.assignedAgentId ≠ agent.id ∨ run.agentId ≠ agent.id
      ∨ connection.runtimeId ≠ agent.runtimeId)
    (policyError "Run references do not match a ready task, agent, and runtime")
  assertConnectionCanRunTask options readings.now plane context connection task
  assertRemainingTaskBudget plane task
  throwIf (anyActiveRun plane (RunOfTask run.workspaceId task.id) = true)
    (policyError "Task already has an active run")
  throwIf (min agent.maxConcurrentRuns authority.maxConcurrentRuns
      ≤ (activeRunsOf plane run.workspaceId agent.id : Int))
    (policyError "Agent concurrency limit reached")

/-- What `startRun` reports. -/
def runReport (run : AgentRun) : EventReport where
  type := .runCreated
  subjectType := "Run"
  subjectId := run.id
  facts := [("taskId", .text run.taskId), ("agentId", .text run.agentId), ("status", .text run.status.code)]
  correlationId := some run.taskId

/-- `startRun`. -/
def startRun (context : WorkspaceContext) (run : AgentRun) : Op σ Unit := do
  let plane ← readPlane
  admitRun options readings plane context run
  emitOperationalEvent options readings context (runReport run)
  writePlane fun plane => { plane with runs := plane.runs.put run }

/-- The task status a run transition brings with it. -/
def taskStatusAfter (current next : RunStatus) : Option TaskStatus :=
  match current, next with
  | .QUEUED, .RUNNING => some .RUNNING
  | _, .COMPLETED => some .COMPLETED
  | _, .FAILED => some .FAILED
  | _, .CANCELLED => some .CANCELLED
  | _, _ => none

/-- The checks of `transitionRun`, with the run and the task they find. -/
def admitRunTransition (plane : Plane) (context : WorkspaceContext) (runId : EntityId)
    (next : RunStatus) : Except Failure (AgentRun × ControlPlaneTask) := do
  let run ← requireRecord plane.runs context runId "Run"
  let runKey := key run.workspaceId run.id
  throwIf (plane.inFlightDispatchAdapters.has runKey = true)
    (policyError "Run cannot transition while adapter start is in flight")
  let connection ← requireRecord plane.connections context run.runtimeConnectionId
    "Runtime connection"
  throwIf (Unrelated options context connection)
    (policyError "Run transition requires an authorizer or the bound runtime")
  throwIf (next ∉ runTransitions run.status)
    (policyError s!"Illegal run transition {run.status.code} -> {next.code}")
  throwIf (next = .CANCELLED ∧ Truthy run.externalRunId ∧ runKey ∉ plane.successfulCancellations)
    (policyError "A bound external run requires successful adapter cancellation before terminal transition")
  throwIf (run.status = .QUEUED ∧ next = .RUNNING
      ∧ (runKey ∉ plane.claimedDispatchRuns ∨ ¬ Truthy run.externalRunId))
    (policyError "A queued run requires a claimed dispatch and bound external run before starting")
  let task ← requireRecord plane.tasks context run.taskId "Run task"
  -- The task's own table is consulted here, before anything is emitted.
  match taskStatusAfter run.status next with
  | none => return (run, task)
  | some taskNext => do
    throwIf (taskNext ∉ taskTransitions task.status)
      (policyError s!"Illegal task transition {task.status.code} -> {taskNext.code}")
    return (run, task)

/-- The run after a transition. -/
def transitionedRun (run : AgentRun) (next : RunStatus) (now : String) : AgentRun := { run with
  status := next
  startedAt := if next = .RUNNING ∧ ¬ Truthy run.startedAt then some now else run.startedAt
  completedAt := if next = .COMPLETED ∨ next = .FAILED ∨ next = .CANCELLED then some now
    else run.completedAt }

/-- What `transitionRun` reports. -/
def runStatusReport (run : AgentRun) (next : RunStatus) : EventReport where
  type := match next with
    | .COMPLETED => .runCompleted
    | .FAILED => .runFailed
    | _ => .runStatusChanged
  subjectType := "Run"
  subjectId := run.id
  facts := [("previousStatus", .text run.status.code), ("nextStatus", .text next.code), ("taskId", .text run.taskId)]
  correlationId := some run.taskId

/-- The tasks after a run transition. -/
def tasksAfter (tasks : Store Key ControlPlaneTask) (task : ControlPlaneTask) :
    Option TaskStatus → Store Key ControlPlaneTask
  | none => tasks
  | some status => tasks.put { task with status := status }

/-- `transitionRun`. -/
def transitionRun (context : WorkspaceContext) (runId : EntityId) (next : RunStatus) :
    Op σ Unit := do
  let plane ← readPlane
  let (run, task) ← admitRunTransition options plane context runId next
  let now ← isoTime readings.now
  emitOperationalEvent options readings context (runStatusReport run next)
  -- Both records move in one step, with no throw in between.
  writePlane fun plane => { plane with
    runs := plane.runs.put (transitionedRun run next now)
    tasks := tasksAfter plane.tasks task (taskStatusAfter run.status next) }

/-! ## Events and usage -/

/-- `new DuplicateEventError(message)`. -/
def duplicateEvent (message : String) : Failure := ⟨.duplicateEvent, message⟩

/-- The checks of `appendEvent`. -/
def admitEvent (plane : Plane) (context : WorkspaceContext) (event : ControlPlaneEvent) :
    Except Failure Unit := do
  assertWorkspace context event.workspaceId
  throwIf (context.principalId ≠ event.actorId)
    (policyError "Event actor must match the authenticated principal")
  assertBoundedRecord event.payload
  throwIf (plane.eventsById.has (key event.workspaceId event.id) = true)
    (duplicateEvent "Duplicate workspace event ID")
  throwIf (plane.eventIdempotency.has (key event.workspaceId event.idempotencyKey) = true)
    (duplicateEvent "Duplicate workspace event idempotency key")
  -- An event with an empty run id counts as one without a run: nobody's connection is asked.
  match whenTruthy event.runId with
  | none => return
  | some runId => do
    let run ← requireRecord plane.runs context runId "Run"
    let connection ← requireRecord plane.connections context run.runtimeConnectionId
      "Event runtime connection"
    throwIf (some event.actorId ≠ connection.authenticatedPrincipalId)
      (policyError "Run event actor does not own the runtime connection")

/-- The operational event `appendEvent` appends. -/
def projectedEvent (event : ControlPlaneEvent) (actorKind : OperationalActorKind) :
    OperationalEvent where
  id := event.id
  workspaceId := event.workspaceId
  type := if Truthy event.runId then .runProgress else .eventRecorded
  source := .CONTROL_PLANE
  actorKind := actorKind
  actorId := event.actorId
  subjectType := if Truthy event.runId then "Run" else "ControlPlaneEvent"
  subjectId := event.runId.getD event.id
  occurredAt := event.occurredAt
  idempotencyKey := event.idempotencyKey
  correlationId := whenTruthy event.runId
  facts := [("payloadFieldCount", .integer event.payload.length),
    ("payloadBytes", .integer (Json.byteLength (Json.obj event.payload).text))]

/-- `this.#eventSink?.append(…)` of `appendEvent`. -/
def emitProjectedEvent (context : WorkspaceContext) (event : ControlPlaneEvent) : Op σ Unit :=
  match options.eventSink with
  | none => pure ()
  | some (sink, capability) => do
    let actorKind ← if Truthy event.runId then pure .RUNTIME else capability.actorKindFor context
    onSink (sink.append capability context (projectedEvent event actorKind))

/-- `appendEvent`. -/
def appendEvent (context : WorkspaceContext) (event : ControlPlaneEvent) : Op σ Unit := do
  let plane ← readPlane
  admitEvent plane context event
  emitProjectedEvent options context event
  writePlane fun plane => { plane with
    eventsById := plane.eventsById.put event
    eventIdempotency := plane.eventIdempotency.set (key event.workspaceId event.idempotencyKey)
      event.id }

/-- Check an amount that is present. -/
def assertAmount (value : Option Int) (field : String) : Except Failure Unit :=
  match value with
  | some amount => assertNonNegativeInteger amount field
  | none => .ok ()

/-- An amount, if present, would lift the total above the limit. -/
def Exceeds (total limit : Int) : Option Int → Prop
  | some amount => limit < addDouble total amount
  | none => False

instance (total limit : Int) (amount : Option Int) : Decidable (Exceeds total limit amount) :=
  match amount with
  | some _ => inferInstanceAs (Decidable (_ < _))
  | none => instDecidableFalse

/-- The checks of `recordUsage`. -/
def admitUsage (plane : Plane) (context : WorkspaceContext) (usage : UsageRecord) :
    Except Failure Unit := do
  assertWorkspace context usage.workspaceId
  throwIf (plane.usage.has (key usage.workspaceId usage.id) = true)
    (duplicateEvent "Duplicate workspace usage record")
  let task ← requireRecord plane.tasks context usage.taskId "Usage task"
  let run ← requireRecord plane.runs context usage.runId "Usage run"
  let connection ← requireRecord plane.connections context run.runtimeConnectionId
    "Runtime connection"
  throwIf (Unrelated options context connection)
    (policyError "Usage requires an authorizer or the bound runtime")
  throwIf (run.taskId ≠ task.id) (policyError "Usage run does not belong to task")
  assertAmount usage.costMinorUnits "Usage cost"
  assertAmount usage.computeUnits "Compute usage"
  throwIf (usage.costMinorUnits ≠ none ∧ usage.currency ≠ some task.costLimit.currency)
    (policyError "Usage currency must match the task cost limit currency")
  -- Sums of numbers are rounded the way double precision rounds them.
  let prior := usageOf plane usage.workspaceId usage.taskId
  throwIf (Exceeds (totalCost prior) task.costLimit.maximumMinorUnits usage.costMinorUnits)
    ⟨.costLimitExceeded, "Usage would exceed the task cost limit"⟩
  throwIf (Exceeds (totalCompute prior) task.costLimit.maximumComputeUnits usage.computeUnits)
    ⟨.costLimitExceeded, "Usage would exceed the task compute limit"⟩

/-- An optional integer fact. -/
def integerFact (name : String) (value : Option Int) : Facts :=
  match value with
  | some n => [(name, .integer n)]
  | none => []

/-- An optional text fact. -/
def textFact (name : String) (value : Option String) : Facts :=
  match value with
  | some s => [(name, .text s)]
  | none => []

/-- What `recordUsage` reports. -/
def usageReport (usage : UsageRecord) : EventReport where
  type := .usageRecorded
  subjectType := "UsageRecord"
  subjectId := usage.id
  facts := [("taskId", .text usage.taskId), ("runId", .text usage.runId)]
    ++ integerFact "computeUnits" usage.computeUnits
    ++ integerFact "costMinorUnits" usage.costMinorUnits ++ textFact "currency" usage.currency
  correlationId := some usage.runId

/-- `recordUsage`. -/
def recordUsage (context : WorkspaceContext) (usage : UsageRecord) : Op σ Unit := do
  let plane ← readPlane
  admitUsage options plane context usage
  emitOperationalEvent options readings context (usageReport usage)
  writePlane fun plane => { plane with usage := plane.usage.put usage }

end VentureOS.ControlPlane
