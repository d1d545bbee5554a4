import VentureOS.ControlPlane.Policy

/-! # The state of the control plane and its policy queries

`Plane` has the private fields of `InMemoryControlPlane`, and besides them the suspended halves of
`executeDispatch` and `executeCancellation`: what each pending `adapter.start` and `adapter.cancel`
call will resume with. The queries below are the private methods that only read, in the order of the
source; they take the configuration, the clock reading of the operation and the plane.

A synchronous method runs to completion, and the model gives it one clock reading. -/

namespace VentureOS.ControlPlane

/-! ## State -/

/-- A suspended `executeDispatch`: the call of `adapter.start` it awaits. -/
structure PendingStart where
  /-- The caller of `executeDispatch`. -/
  context : WorkspaceContext
  /-- `run.id`. -/
  runId : EntityId
  /-- The registration whose adapter was called. -/
  registration : AdapterRegistration
  /-- The validated permit the adapter was called with. -/
  dispatch : RuntimeDispatchPermit

/-- The key of the run a pending start belongs to. The run was found in the caller's workspace. -/
def PendingStart.runKey (frame : PendingStart) : Key := key frame.context.workspaceId frame.runId

/-- A suspended `executeCancellation`: the call of `adapter.cancel` it awaits. -/
structure PendingCancellation where
  /-- The caller of `executeCancellation`. -/
  context : WorkspaceContext
  /-- The registration whose adapter was called. -/
  registration : AdapterRegistration
  /-- The validated permit the adapter was called with. -/
  cancellation : RuntimeCancellationPermit

/-- The key of the run a pending cancellation belongs to. -/
def PendingCancellation.runKey (frame : PendingCancellation) : Key :=
  key frame.context.workspaceId frame.cancellation.runId

/-- The private fields of `InMemoryControlPlane` and its suspended calls. -/
structure Plane where
  runtimes : Store Key Runtime
  runtimeAdapters : OrderedMap Key AdapterRegistration
  agents : Store Key Agent
  capabilities : Store Key Capability
  agentCapabilities : Store Key AgentCapability
  tools : Store Key Tool
  toolGrants : Store Key ToolGrant
  authorityGrants : Store Key AuthorityGrant
  connections : Store Key RuntimeConnection
  heartbeats : Store Key Heartbeat
  tasks : Store Key ControlPlaneTask
  runs : Store Key AgentRun
  eventsById : Store Key ControlPlaneEvent
  eventIdempotency : OrderedMap Key EntityId
  usage : Store Key UsageRecord
  dispatches : OrderedMap Key RuntimeDispatchPermit
  cancellations : OrderedMap Key RuntimeCancellationPermit
  dispatchedRuns : Finset Key
  claimedDispatchRuns : Finset Key
  inFlightDispatchAdapters : OrderedMap Key EntityId
  cancelledRuns : Finset Key
  successfulCancellations : Finset Key
  /-- The suspended calls of `executeDispatch`, by call number. -/
  pendingStarts : OrderedMap Nat PendingStart
  /-- The suspended calls of `executeCancellation`, by call number. -/
  pendingCancellations : OrderedMap Nat PendingCancellation
  /-- How many adapter calls have been made. -/
  adapterCalls : Nat

/-- `new InMemoryControlPlane()`. -/
def Plane.empty : Plane where
  runtimes := .empty
  runtimeAdapters := .empty
  agents := .empty
  capabilities := .empty
  agentCapabilities := .empty
  tools := .empty
  toolGrants := .empty
  authorityGrants := .empty
  connections := .empty
  heartbeats := .empty
  tasks := .empty
  runs := .empty
  eventsById := .empty
  eventIdempotency := .empty
  usage := .empty
  dispatches := .empty
  cancellations := .empty
  dispatchedRuns := ∅
  claimedDispatchRuns := ∅
  inFlightDispatchAdapters := .empty
  cancelledRuns := ∅
  successfulCancellations := ∅
  pendingStarts := .empty
  pendingCancellations := .empty
  adapterCalls := 0

/-- `ControlPlaneOptions`. The source refuses a sink without a capability and a capability without a
sink, so the two come together. -/
structure Options (σ : Type) where
  /-- `Date.parse`. -/
  dateParse : String → Option Int
  /-- `eventSink` and `eventCapability`. -/
  eventSink : Option (OperationalEventSink σ × OperationalEventCapability)
  heartbeatFreshnessMs : Int
  authorityPrincipals : List EntityId
  plannerPrincipals : List EntityId

/-- What an operation reads from its surroundings. -/
structure Readings where
  /-- The clock. -/
  now : Int
  /-- The identifier `randomUUID` returns. -/
  uuid : EntityId
  /-- The identifier the event id factory returns. -/
  eventId : EntityId

variable {σ : Type} (options : Options σ) (now : Int) (plane : Plane)

/-! ## Lookups and guards -/

/-- `#require`. -/
def requireRecord {V : Type} [HasKey Key V] (records : Store Key V) (context : WorkspaceContext)
    (id : EntityId) (label : String) : Except Failure V :=
  match records.get? (key context.workspaceId id) with
  | some record => .ok record
  | none => .error (policyError s!"{label} not found in the authenticated workspace")

@[simp] theorem requireRecord_eq_ok {V : Type} [HasKey Key V] {records : Store Key V}
    {context : WorkspaceContext} {id : EntityId} {label : String} {record : V} :
    requireRecord records context id label = .ok record ↔
      records.get? (key context.workspaceId id) = some record := by
  unfold requireRecord
  split <;> simp_all

/-- `#assertAuthorizer`. -/
def assertAuthorizer (context : WorkspaceContext) : Except Failure Unit :=
  throwIf (context.principalId ∉ options.authorityPrincipals)
    (policyError "Principal is not authorized to issue grants")

/-- The caller is neither an authorizer nor the principal of the connection. -/
def Unrelated (context : WorkspaceContext) (connection : RuntimeConnection) : Prop :=
  context.principalId ∉ options.authorityPrincipals ∧
    some context.principalId ≠ connection.authenticatedPrincipalId

instance (context : WorkspaceContext) (connection : RuntimeConnection) :
    Decidable (Unrelated options context connection) :=
  inferInstanceAs (Decidable (_ ∧ _))

/-- `#assertConnectionOperator`. -/
def assertConnectionOperator (context : WorkspaceContext) (connection : RuntimeConnection)
    (action : String) : Except Failure Unit :=
  throwIf (Unrelated options context connection)
    (policyError s!"{action} requires an authorizer or the bound runtime principal")

/-- `#assertCostLimit`. -/
def assertCostLimit (limit : CostLimit) : Except Failure Unit := do
  assertString (some (.str limit.currency)) "currency"
  assertNonNegativeInteger limit.maximumMinorUnits "maximumMinorUnits"
  assertNonNegativeInteger limit.maximumComputeUnits "maximumComputeUnits"

/-- Some active run of the plane satisfies `p`. -/
def anyActiveRun (p : AgentRun → Prop) [DecidablePred p] : Bool :=
  plane.runs.values.any (fun run => decide (p run ∧ run.status.Active))

/-- The scans for active runs find what they look for. -/
theorem anyActiveRun_eq_false {p : AgentRun → Prop} [DecidablePred p] :
    anyActiveRun plane p = false ↔ ∀ run ∈ plane.runs, p run → ¬ run.status.Active := by
  simp only [anyActiveRun, List.any_eq_false, Store.mem_values, decide_eq_true_eq, not_and]

/-- The number of active runs of an agent. -/
def activeRunsOf (workspaceId agentId : EntityId) : Nat :=
  (plane.runs.values.filter (fun run => decide
    (run.workspaceId = workspaceId ∧ run.agentId = agentId ∧ run.status.Active))).length

/-! ## Connection status -/

/-- `deriveConnectionStatus`. -/
def deriveConnectionStatus (context : WorkspaceContext) (connectionId : EntityId) :
    Except Failure RuntimeConnectionStatus := do
  let connection ← requireRecord plane.connections context connectionId "Runtime connection"
  if ¬ Truthy connection.credentialReference ∨ ¬ Truthy connection.authenticatedPrincipalId then
    return .NOT_CONFIGURED
  -- `proofs.some(Boolean)` and `proofs.every(Boolean)`, as one match.
  match connection.registrationProof, connection.capabilityExchangeProof,
      connection.heartbeatProof, connection.taskRoundTripProof with
  | none, none, none, none => return .DISCONNECTED
  | some _, some _, some heartbeatProof, some roundTrip => do
    match plane.heartbeats.get? (key connection.workspaceId heartbeatProof.heartbeatId) with
    | none => return .PARTIAL
    | some heartbeat => do
      if heartbeat.runtimeConnectionId ≠ connection.id then return .PARTIAL
      if heartbeat.health ≠ .HEALTHY then return .DEGRADED
      -- A time that does not parse is thrown out of the status.
      let observedAt ← parsedTime options.dateParse heartbeat.observedAt "heartbeat.observedAt"
      let age := now - observedAt
      if age < -30000 ∨ options.heartbeatFreshnessMs < age then return .DEGRADED
      match plane.tasks.get? (key connection.workspaceId roundTrip.taskId),
          plane.runs.get? (key connection.workspaceId roundTrip.runId),
          plane.eventsById.get? (key connection.workspaceId roundTrip.resultEventId) with
      | some task, some run, some event =>
        match plane.agents.get? (key connection.workspaceId run.agentId) with
        | none => return .PARTIAL
        | some agent =>
          -- The principal of the heartbeat is not compared here, only that of the event.
          if run.taskId ≠ task.id ∨ task.assignedAgentId ≠ agent.id
              ∨ agent.runtimeId ≠ connection.runtimeId
              ∨ run.runtimeConnectionId ≠ connection.id ∨ run.status ≠ .COMPLETED
              ∨ event.runId ≠ some run.id ∨ event.type ≠ "run.completed"
              ∨ some event.actorId ≠ connection.authenticatedPrincipalId then
            return .PARTIAL
          return .CONNECTED
      | _, _, _ => return .PARTIAL
  | _, _, _, _ => return .PARTIAL

/-- `#assertTaskOperator`. -/
def assertTaskOperator (context : WorkspaceContext) (task : ControlPlaneTask) :
    Except Failure Unit := do
  if context.principalId ∈ options.authorityPrincipals then return
  let agent ← requireRecord plane.agents context task.assignedAgentId "Task agent"
  -- `some` derives the status of a candidate only if the tests before it pass, and stops at the
  -- first connected one.
  let boundRuntime ← someThrowing (fun connection =>
      if connection.workspaceId = task.workspaceId ∧ connection.runtimeId = agent.runtimeId
          ∧ connection.authenticatedPrincipalId = some context.principalId then do
        let status ← deriveConnectionStatus options now plane context connection.id
        return decide (status = .CONNECTED)
      else .ok false)
    plane.connections.values
  throwIf (boundRuntime = false)
    (policyError "Task transition requires an authorizer or bound runtime")

/-! ## Task policy -/

/-- A tool a task requires, resolved to its identifier. -/
structure ResolvedTool where
  id : EntityId
  scope : String
  deriving DecidableEq, Repr

/-- What `#deriveTaskRequirements` returns. -/
structure TaskRequirements where
  capabilityIds : List EntityId
  tools : List ResolvedTool
  authorityLevel : AuthorityLevel
  deriving DecidableEq, Repr

/-- `findUnique`: the one record of the list; `label name` resolves to it. -/
def findUnique {V : Type} (matching : List V) (label name : String) : Except Failure V :=
  match matching with
  | [record] => .ok record
  | _ => .error (policyError s!"{label} {name} must resolve uniquely in the workspace")

/-- `#deriveTaskRequirements`. -/
def deriveTaskRequirements (task : ControlPlaneTask) : Except Failure TaskRequirements := do
  let policy := taskPolicies task.kind
  -- Names are resolved among the records of the task's workspace, each to exactly one.
  let capabilityIds ← policy.capabilityNames.mapM fun name => do
    let capability ← findUnique (plane.capabilities.values.filter (fun record =>
      decide (record.workspaceId = task.workspaceId ∧ record.name = name))) "Capability" name
    return capability.id
  let tools ← policy.tools.mapM fun requirement => do
    let tool ← findUnique (plane.tools.values.filter (fun record =>
      decide (record.workspaceId = task.workspaceId ∧ record.name = requirement.name)))
      "Tool" requirement.name
    return ⟨tool.id, requirement.scope⟩
  return ⟨capabilityIds, tools, policy.authorityLevel⟩

/-- Whether a stored authority grant applies to a task. -/
def authorityGrantApplies (task : ControlPlaneTask) (grant : AuthorityGrant) :
    Except Failure Bool :=
  if grant.workspaceId = task.workspaceId ∧ grant.agentId = task.assignedAgentId
      ∧ task.requiredAuthorityLevel ≤ grant.level ∧ task.kind ∈ grant.actionClasses then do
    -- The expiry is parsed only for a grant that passed the tests before it, and may throw.
    let expired ← isExpired options.dateParse grant.expiresAt now
    return decide (expired = false ∧ grant.costLimit.currency = task.costLimit.currency
      ∧ task.costLimit.maximumMinorUnits ≤ grant.costLimit.maximumMinorUnits
      ∧ task.costLimit.maximumComputeUnits ≤ grant.costLimit.maximumComputeUnits)
  else .ok false

/-- `#requireApplicableAuthorityGrant`: the applicable grant of the lowest level. -/
def requireApplicableAuthorityGrant (task : ControlPlaneTask) : Except Failure AuthorityGrant := do
  let candidates ←
    filterThrowing (authorityGrantApplies options now task) plane.authorityGrants.values
  -- The sort is stable: among grants of one level the first in the map is taken.
  match candidates.insertionSort (fun left right => left.level ≤ right.level) with
  | grant :: _ => return grant
  | [] => .error (policyError "No stored authority grant permits this task")

/-- Whether a stored tool grant gives the agent of a task the required scope of a tool. -/
def toolGrantApplies (task : ControlPlaneTask) (agent : Agent) (requiredTool : ResolvedTool)
    (grant : ToolGrant) : Except Failure Bool :=
  if grant.workspaceId = task.workspaceId ∧ grant.agentId = agent.id
      ∧ grant.toolId = requiredTool.id ∧ requiredTool.scope ∈ grant.scopes then do
    let expired ← isExpired options.dateParse grant.expiresAt now
    return !expired
  else .ok false

/-- `#validateCurrentTaskPolicy`. -/
def validateCurrentTaskPolicy (context : WorkspaceContext) (task : ControlPlaneTask) :
    Except Failure (Agent × AuthorityGrant) := do
  assertTaskInput task
  assertCostLimit task.costLimit
  let agent ← requireRecord plane.agents context task.assignedAgentId "Agent"
  let requirements ← deriveTaskRequirements plane task
  throwIf (sameIds task.requiredCapabilityIds requirements.capabilityIds = false
      ∨ sameIds task.requiredToolIds (requirements.tools.map ResolvedTool.id) = false
      ∨ task.requiredAuthorityLevel ≠ requirements.authorityLevel)
    (policyError
      "Task capability, tool, and authority requirements must exactly match task-kind policy")
  throwIf (agent.authorityLevel < task.requiredAuthorityLevel)
    (policyError "Task exceeds the agent authority ceiling")
  forM requirements.capabilityIds fun capabilityId => do
    let _ ← requireRecord plane.capabilities context capabilityId "Capability"
    throwIf (plane.agentCapabilities.values.any (fun grant => decide
        (grant.workspaceId = task.workspaceId ∧ grant.agentId = agent.id
          ∧ grant.capabilityId = capabilityId)) = false)
      (policyError s!"Agent lacks capability {capabilityId}")
  -- Some unexpired grant must give the scope; which one does not matter.
  forM requirements.tools fun requiredTool => do
    let granted ←
      someThrowing (toolGrantApplies options now task agent requiredTool) plane.toolGrants.values
    throwIf (granted = false)
      (policyError s!"Agent lacks {requiredTool.scope} scope for {requiredTool.id}")
  let authority ← requireApplicableAuthorityGrant options now plane task
  return (agent, authority)

/-- A connection without a round trip that is otherwise proven, while it runs a health check. -/
def BootstrapRoundTrip (connection : RuntimeConnection) (task : ControlPlaneTask)
    (status : RuntimeConnectionStatus) : Prop :=
  task.kind = .runtimeHealthCheck ∧ status = .PARTIAL ∧ connection.registrationProof.isSome = true
    ∧ connection.capabilityExchangeProof.isSome = true ∧ connection.heartbeatProof.isSome = true

instance (connection : RuntimeConnection) (task : ControlPlaneTask)
    (status : RuntimeConnectionStatus) : Decidable (BootstrapRoundTrip connection task status) :=
  inferInstanceAs (Decidable (_ ∧ _ ∧ _ ∧ _ ∧ _))

/-- `#assertConnectionCanRunTask`. -/
def assertConnectionCanRunTask (context : WorkspaceContext) (connection : RuntimeConnection)
    (task : ControlPlaneTask) : Except Failure Unit := do
  let connectionStatus ← deriveConnectionStatus options now plane context connection.id
  throwIf (connectionStatus ≠ .CONNECTED ∧ ¬ BootstrapRoundTrip connection task connectionStatus)
    (policyError "Run requires a connected runtime or a bounded health-check bootstrap")
  -- Without an exchange every required capability is missing.
  let exchangedCapabilities := (connection.capabilityExchangeProof.map CapabilityExchangeProof.capabilityIds).getD []
  forM task.requiredCapabilityIds fun capabilityId =>
    throwIf (capabilityId ∉ exchangedCapabilities)
      (policyError s!"Runtime did not exchange required capability {capabilityId}")

/-- The usage records of a task. -/
def usageOf (workspaceId taskId : EntityId) : List UsageRecord :=
  plane.usage.values.filter (fun record =>
    decide (record.workspaceId = workspaceId ∧ record.taskId = taskId))

/-- The cost a list of usage records adds up to. -/
def totalCost (records : List UsageRecord) : Int :=
  (records.map (fun record => record.costMinorUnits.getD 0)).foldl addDouble 0

/-- The compute a list of usage records adds up to. -/
def totalCompute (records : List UsageRecord) : Int :=
  (records.map (fun record => record.computeUnits.getD 0)).foldl addDouble 0

/-- `#assertRemainingTaskBudget`. -/
def assertRemainingTaskBudget (task : ControlPlaneTask) : Except Failure Unit :=
  throwIf (task.costLimit.maximumMinorUnits ≤ totalCost (usageOf plane task.workspaceId task.id)
      ∨ task.costLimit.maximumComputeUnits
        ≤ totalCompute (usageOf plane task.workspaceId task.id))
    ⟨.costLimitExceeded, "Task budget is exhausted"⟩

/-! ## Connection proofs -/

/-- `correlated(proof)`. -/
def Correlated (connection : RuntimeConnection) (connectionId principalId : EntityId) : Prop :=
  connectionId = connection.id ∧ some principalId = connection.authenticatedPrincipalId

instance (connection : RuntimeConnection) (connectionId principalId : EntityId) :
    Decidable (Correlated connection connectionId principalId) :=
  inferInstanceAs (Decidable (_ ∧ _))

/-- The checks of a registration proof. -/
def validateRegistrationProof (connection : RuntimeConnection) (proof : RegistrationProof) :
    Except Failure Unit := do
  throwIf (¬ Correlated connection proof.connectionId proof.principalId
      ∨ proof.runtimeId ≠ connection.runtimeId)
    (policyError "Registration proof is not correlated to the runtime connection")
  let _ ← parsedTime options.dateParse proof.observedAt "registrationProof.observedAt"

/-- The checks of a capability exchange proof. -/
def validateCapabilityExchangeProof (context : WorkspaceContext) (connection : RuntimeConnection)
    (proof : CapabilityExchangeProof) : Except Failure Unit := do
  throwIf (¬ Correlated connection proof.connectionId proof.principalId
      ∨ proof.runtimeId ≠ connection.runtimeId)
    (policyError "Capability proof is not correlated to the runtime connection")
  let _ ← parsedTime options.dateParse proof.observedAt "capabilityExchangeProof.observedAt"
  forM proof.capabilityIds fun capabilityId => do
    let _ ← requireRecord plane.capabilities context capabilityId "Runtime capability"

/-- The checks of a heartbeat proof. -/
def validateHeartbeatProof (context : WorkspaceContext) (connection : RuntimeConnection)
    (proof : HeartbeatProof) : Except Failure Unit := do
  throwIf (¬ Correlated connection proof.connectionId proof.principalId)
    (policyError "Heartbeat proof is not correlated to the runtime connection")
  let heartbeat ← requireRecord plane.heartbeats context proof.heartbeatId "Heartbeat proof"
  throwIf (heartbeat.runtimeConnectionId ≠ connection.id
      ∨ some heartbeat.principalId ≠ connection.authenticatedPrincipalId
      ∨ heartbeat.observedAt ≠ proof.observedAt)
    (policyError "Heartbeat proof does not match the stored heartbeat")

/-- The checks of a task round-trip proof. -/
def validateTaskRoundTripProof (context : WorkspaceContext) (connection : RuntimeConnection)
    (proof : TaskRoundTripProof) : Except Failure Unit := do
  throwIf (¬ Correlated connection proof.connectionId proof.principalId)
    (policyError "Task proof is not correlated to the runtime connection")
  let _ ← parsedTime options.dateParse proof.completedAt "taskRoundTripProof.completedAt"
  let task ← requireRecord plane.tasks context proof.taskId "Task proof task"
  let run ← requireRecord plane.runs context proof.runId "Task proof run"
  let agent ← requireRecord plane.agents context run.agentId "Task proof agent"
  let event ← requireRecord plane.eventsById context proof.resultEventId "Task proof result event"
  throwIf (run.taskId ≠ task.id ∨ run.runtimeConnectionId ≠ connection.id
      ∨ task.assignedAgentId ≠ agent.id ∨ agent.runtimeId ≠ connection.runtimeId
      ∨ event.runId ≠ some run.id ∨ some event.actorId ≠ connection.authenticatedPrincipalId
      ∨ event.type ≠ "run.completed")
    (policyError "Task proof references are not a correlated result")

/-- Check a proof that is present. -/
def ifPresent {α : Type} (proof : Option α) (check : α → Except Failure Unit) :
    Except Failure Unit :=
  match proof with
  | some p => check p
  | none => .ok ()

@[simp] theorem ifPresent_some {α : Type} (p : α) (check : α → Except Failure Unit) :
    ifPresent (some p) check = check p := rfl

/-- `#validateConnectionProofs`. -/
def validateConnectionProofs (context : WorkspaceContext) (connection : RuntimeConnection) :
    Except Failure Unit := do
  throwIf ((Truthy connection.credentialReference ∨ connection.registrationProof.isSome = true)
      ∧ ¬ Truthy connection.authenticatedPrincipalId)
    (policyError "Runtime evidence requires an authenticated principal")
  ifPresent connection.registrationProof (validateRegistrationProof options connection)
  ifPresent connection.capabilityExchangeProof
    (validateCapabilityExchangeProof options plane context connection)
  ifPresent connection.heartbeatProof (validateHeartbeatProof plane context connection)
  ifPresent connection.taskRoundTripProof
    (validateTaskRoundTripProof options plane context connection)

end VentureOS.ControlPlane
