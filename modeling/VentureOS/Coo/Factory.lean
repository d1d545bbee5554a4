import VentureOS.ControlPlane.Operations
import VentureOS.Coo.Contracts

/-! # The agent factory

`DynamicAgentFactory`: the linkages of objectives and tasks, immutable template versions, and agents
instantiated from a template under the ceilings of the template, of the parent agent and of the
factory. Every public operation checks first and writes last, with the event appended in between, so
an operation that throws leaves the factory as it was (`instantiate_spec`, `registerPlan_spec`).

`AgentFactoryOptions` carries the checks its constructor makes. The clock is the sequence of its
readings. -/

namespace VentureOS.Factory

open ControlPlane Program

/-- `new AgentFactoryPolicyError(message)`. -/
def agentFactoryPolicyError (message : String) : Failure := ⟨.agentFactoryPolicy, message⟩

/-- `text`. -/
def text (value field : String) : Except Failure Unit :=
  throwIf (¬ PrintableText value) (agentFactoryPolicyError s!"{field} must be a bounded string")

/-- `integer`. -/
def integer (value : Int) (field : String) (max : Int) : Except Failure Unit :=
  throwIf (¬ WithinBounds value max)
    (agentFactoryPolicyError s!"{field} is outside policy bounds")

/-- `dense`: an array without holes of at most `max` items. -/
def dense {α : Type} (value : List α) (field : String) (max : Nat) : Except Failure Unit :=
  throwIf (max < value.length)
    (agentFactoryPolicyError s!"{field} must be a dense bounded array")

@[simp] theorem text_eq_ok {value field : String} {u : Unit} :
    text value field = .ok u ↔ PrintableText value := by
  simp [text]

@[simp] theorem integer_eq_ok {value max : Int} {field : String} {u : Unit} :
    integer value field max = .ok u ↔ WithinBounds value max := by
  simp [integer]

@[simp] theorem dense_eq_ok {α : Type} {value : List α} {field : String} {max : Nat} {u : Unit} :
    dense value field max = .ok u ↔ value.length ≤ max := by
  simp [dense]

/-! ## State -/

/-- The private fields of `DynamicAgentFactory`. -/
structure AgentFactory where
  templates : OrderedMap Key AgentTemplate
  agents : Store Key FactoryAgent
  consumedRequests : Finset Key
  objectives : Finset Key
  tasks : OrderedMap Key EntityId
  decisions : List AgentFactoryDecision
  events : List AgentFactoryEvent

/-- A factory on which nothing was done. -/
def AgentFactory.empty : AgentFactory where
  templates := .empty
  agents := .empty
  consumedRequests := ∅
  objectives := ∅
  tasks := .empty
  decisions := []
  events := []

/-- The checks the constructor makes on the limits. -/
def checkLimits (limits : AgentFactoryLimits) : Except Failure Unit := do
  integer limits.maxAgents "maxAgents" maxSafeInteger
  integer limits.maxAgentsPerWorkspace "maxAgentsPerWorkspace" maxSafeInteger
  integer limits.maxChildrenPerAgent "maxChildrenPerAgent" maxSafeInteger
  integer limits.maxNestingDepth "maxNestingDepth" maxSafeInteger
  integer limits.maxConcurrentAgents "maxConcurrentAgents" maxSafeInteger
  integer limits.maxRuntimeMs "maxRuntimeMs" maxSafeInteger
  integer limits.maxRetries "maxRetries" maxSafeInteger
  integer limits.maxBudgetMinorUnits "maxBudgetMinorUnits" maxSafeInteger
  integer limits.maxComputeUnits "maxComputeUnits" maxSafeInteger
  throwIf (limits.maxAgents < limits.maxAgentsPerWorkspace)
    (agentFactoryPolicyError "Workspace limit exceeds global limit")

/-- The arguments of the constructor, on which it did not throw. -/
structure AgentFactoryOptions (σ : Type) where
  authorityPrincipals : List EntityId
  aiCooPrincipals : List EntityId
  limits : AgentFactoryLimits
  /-- The constructor accepts the limits. -/
  governed : checkLimits limits = .ok ()
  /-- The readings of the clock, in the order in which they are taken. -/
  clock : Nat → Int
  /-- The SHA-256 digest of a stored template's JSON text. -/
  templateDigest : AgentTemplate → String
  /-- `eventSink` and `eventCapability`. -/
  eventSink : Option (OperationalEventBatchSink σ × OperationalEventCapability)

/-- The factory, the state of its event sink and the number of clock readings taken. -/
structure FactoryWorld (σ : Type) where
  factory : AgentFactory
  sink : σ
  factoryClockReads : Nat

/-- A method of the factory. -/
abbrev Op (σ α : Type) := Program Failure (FactoryWorld σ) α

variable {σ : Type} (options : AgentFactoryOptions σ)

/-- Read the factory. -/
def readFactory : Op σ AgentFactory := do return (← get).factory

/-- Write the factory. -/
def writeFactory (f : AgentFactory → AgentFactory) : Op σ Unit :=
  modify fun w => { w with factory := f w.factory }

/-- `this.#clock()`. -/
def readClock : Op σ Int := do
  let w ← get
  set { w with factoryClockReads := w.factoryClockReads + 1 }
  return options.clock w.factoryClockReads

/-- Call a method of the event sink. -/
def onSink {α : Type} (x : Program Failure σ α) : Op σ α :=
  focus FactoryWorld.sink (fun w s => { w with sink := s }) x

/-! ## Guards -/

/-- `#assertAuthorizer`. -/
def assertAuthorizer (context : WorkspaceContext) : Except Failure Unit :=
  throwIf (context.principalId ∉ options.authorityPrincipals)
    (agentFactoryPolicyError "Authorizer required")

/-- `#assertRequester`. -/
def assertRequester (context : WorkspaceContext) : Except Failure Unit :=
  throwIf (context.principalId ∉ options.authorityPrincipals
      ∧ context.principalId ∉ options.aiCooPrincipals)
    (agentFactoryPolicyError "Authorizer or AI COO required")

/-- `#assertWorkspace`. -/
def assertWorkspace (context : WorkspaceContext) (workspaceId : EntityId) : Except Failure Unit :=
  throwIf (context.workspaceId ≠ workspaceId)
    (agentFactoryPolicyError "Cross-workspace operation denied")

/-- `#assertSubset`. -/
def assertSubset (values allowed : List String) (label : String) : Except Failure Unit :=
  forM values fun value =>
    throwIf (value ∉ allowed) (agentFactoryPolicyError s!"{label} exceeds template grant")

/-- Every tool is among the granted ones, with no scope beyond its grant. -/
def assertToolSubset (grants allowed : List ScopedTool) (missing label : String) :
    Except Failure Unit :=
  forM grants fun grant =>
    match allowed.find? (fun item => item.toolId == grant.toolId) with
    | none => .error (agentFactoryPolicyError missing)
    | some granted => assertSubset grant.scopes granted.scopes label

/-! ## Validation -/

/-- `#validateTemplate`. -/
def validateTemplate (t : AgentTemplate) : Except Failure Unit := do
  text t.id "template.id"
  text t.workspaceId "workspaceId"
  text t.role "role"
  text t.department "department"
  integer t.version "version" maxSafeInteger
  throwIf (t.version < 1) (agentFactoryPolicyError "Template version must be positive")
  dense t.repositoryScopes "repository scopes" 64
  dense t.environmentScopes "environment scopes" 64
  dense t.dataScopes "data scopes" 64
  dense t.capabilityIds "capabilities" 64
  dense t.toolGrants "tools" 64
  forM [t.repositoryScopes, t.environmentScopes, t.dataScopes, t.capabilityIds] fun values =>
    forM values fun value => text value "template scoped value"
  forM t.toolGrants fun grant => do
    text grant.toolId "template toolId"
    dense grant.scopes "template tool scopes" 64
    forM grant.scopes fun scope => text scope "template tool scope"
  integer t.maximumAuthority.val "authority" 4
  integer t.maximumRuntimeMs "runtime" options.limits.maxRuntimeMs
  integer t.maximumRetries "retry" options.limits.maxRetries
  integer t.maximumChildren "children" options.limits.maxChildrenPerAgent
  integer t.maximumBudgetMinorUnits "budget" options.limits.maxBudgetMinorUnits
  integer t.maximumComputeUnits "compute" options.limits.maxComputeUnits

/-- `#validateRequest`. -/
def validateRequest (r : AgentInstantiationRequest) : Except Failure Unit := do
  forM r.parentAgentId.toList fun parentAgentId => text parentAgentId "parentAgentId"
  text r.id "id"
  text r.workspaceId "workspace"
  text r.templateId "template"
  text r.objectiveId "objective"
  text r.taskId "task"
  text r.stopCondition "stop"
  dense r.repositoryScopes "repo" 64
  dense r.environmentScopes "environment" 64
  dense r.dataScopes "data" 64
  dense r.capabilityIds "capabilities" 64
  dense r.toolGrants "tools" 64
  dense r.acceptanceCriteria "acceptance" 64
  dense r.verificationCriteria "verification" 64
  forM [r.repositoryScopes, r.environmentScopes, r.dataScopes, r.capabilityIds,
      r.acceptanceCriteria, r.verificationCriteria] fun values =>
    forM values fun value => text value "scoped value"
  throwIf (r.repositoryScopes = [] ∨ r.environmentScopes = [] ∨ r.dataScopes = []
      ∨ r.acceptanceCriteria = [] ∨ r.verificationCriteria = [])
    (agentFactoryPolicyError "Scoped criteria are required")
  forM r.toolGrants fun grant => do
    dense grant.scopes "tool scopes" 64
    text grant.toolId "toolId"
    forM grant.scopes fun scope => text scope "tool scope"
  integer r.templateVersion "templateVersion" maxSafeInteger
  throwIf (r.templateVersion < 1) (agentFactoryPolicyError "Template version must be positive")
  integer r.authorityLevel.val "authority" 4
  integer r.budgetMinorUnits "budget" maxSafeInteger
  integer r.computeUnits "compute" maxSafeInteger
  integer r.maxRuntimeMs "runtime" maxSafeInteger
  integer r.retryLimit "retry" maxSafeInteger
  integer r.childLimit "children" maxSafeInteger

/-! ## Linkages and templates -/

/-- `registerObjective`. -/
def registerObjective (context : WorkspaceContext) (id : EntityId) : Op σ Unit := do
  assertAuthorizer options context
  text id "objectiveId"
  let factory ← readFactory
  throwIf (key context.workspaceId id ∈ factory.objectives)
    (agentFactoryPolicyError "Objective linkage already exists")
  writeFactory fun f => { f with objectives := insert (key context.workspaceId id) f.objectives }

/-- `registerTask`. -/
def registerTask (context : WorkspaceContext) (id objectiveId : EntityId) : Op σ Unit := do
  assertAuthorizer options context
  text id "taskId"
  text objectiveId "objectiveId"
  let factory ← readFactory
  throwIf (key context.workspaceId objectiveId ∉ factory.objectives)
    (agentFactoryPolicyError "Task objective is not registered")
  throwIf (factory.tasks.has (key context.workspaceId id) = true)
    (agentFactoryPolicyError "Task linkage already exists")
  writeFactory fun f => { f with tasks := f.tasks.set (key context.workspaceId id) objectiveId }

/-- The checks of `registerPlan` on the tasks of a plan, after those with keys `taskKeys`. -/
def checkLinkages (factory : AgentFactory) (context : WorkspaceContext) (objectiveId : EntityId) :
    List Key → List (EntityId × EntityId) → Except Failure Unit
  | _, [] => .ok ()
  | taskKeys, (taskId, taskObjectiveId) :: rest => do
    text taskId "taskId"
    text taskObjectiveId "objectiveId"
    throwIf (taskObjectiveId ≠ objectiveId)
      (agentFactoryPolicyError "Task objective linkage is invalid")
    let taskKey := key context.workspaceId taskId
    throwIf (taskKey ∈ taskKeys ∨ factory.tasks.has taskKey = true)
      (agentFactoryPolicyError "Task linkage already exists")
    checkLinkages factory context objectiveId (taskKey :: taskKeys) rest

/-- The checks of `registerPlan`; a task is given by its identifier and its objective. -/
def admitPlan (factory : AgentFactory) (context : WorkspaceContext) (objectiveId : EntityId)
    (tasks : List (EntityId × EntityId)) : Except Failure Unit := do
  assertRequester options context
  text objectiveId "objectiveId"
  dense tasks "tasks" 1000
  throwIf (key context.workspaceId objectiveId ∈ factory.objectives)
    (agentFactoryPolicyError "Objective linkage already exists")
  checkLinkages factory context objectiveId [] tasks

/-- The writes of `registerPlan`. -/
def AgentFactory.link (factory : AgentFactory) (workspaceId objectiveId : EntityId)
    (tasks : List (EntityId × EntityId)) : AgentFactory :=
  { factory with
    objectives := insert (key workspaceId objectiveId) factory.objectives
    tasks := tasks.foldl (fun linked task => linked.set (key workspaceId task.1) objectiveId)
      factory.tasks }

/-- `registerPlan`. -/
def registerPlan (context : WorkspaceContext) (objectiveId : EntityId)
    (tasks : List (EntityId × EntityId)) : Op σ Unit := do
  let factory ← readFactory
  admitPlan options factory context objectiveId tasks
  writeFactory fun f => f.link context.workspaceId objectiveId tasks

/-- The key of a template version. -/
def templateKey (workspaceId templateId : EntityId) (version : Int) : Key :=
  key workspaceId s!"{templateId}@{version}"

/-- `putTemplate`. -/
def putTemplate (context : WorkspaceContext) (template : AgentTemplate) : Op σ Unit := do
  assertAuthorizer options context
  assertWorkspace context template.workspaceId
  validateTemplate options template
  let factory ← readFactory
  throwIf (factory.templates.has (templateKey template.workspaceId template.id template.version)
      = true)
    (agentFactoryPolicyError "Template versions are immutable")
  throwIf (1 < template.version ∧ factory.templates.has
      (templateKey template.workspaceId template.id (template.version - 1)) = false)
    (agentFactoryPolicyError "Template successor must follow an existing version")
  writeFactory fun f => { f with
    templates := f.templates.set
      (templateKey template.workspaceId template.id template.version) template }

/-! ## Agents -/

/-- The agents that are active. -/
def activeAgents (factory : AgentFactory) : List FactoryAgent :=
  factory.agents.values.filter (fun agent => decide (agent.lifecycle = .ACTIVE))

/-- The active children of an agent in a workspace. -/
def activeChildren (factory : AgentFactory) (workspaceId agentId : EntityId) : List FactoryAgent :=
  factory.agents.values.filter (fun agent => decide (agent.parentAgentId = some agentId
    ∧ agent.workspaceId = workspaceId ∧ agent.lifecycle = .ACTIVE))

/-- The checks of `instantiate` against the parent agent; the depth of the child. -/
def admitChild (factory : AgentFactory) (request : AgentInstantiationRequest)
    (parentAgentId : EntityId) : Except Failure Int := do
  match factory.agents.get? (key request.workspaceId parentAgentId) with
  | none => .error (agentFactoryPolicyError "Parent agent is missing or inactive")
  | some parent => do
    throwIf (parent.lifecycle ≠ .ACTIVE)
      (agentFactoryPolicyError "Parent agent is missing or inactive")
    throwIf (parent.agentId = s!"agent:{request.id}")
      (agentFactoryPolicyError "Agent parent cycle denied")
    throwIf (min parent.childLimit options.limits.maxChildrenPerAgent
        ≤ (activeChildren factory request.workspaceId parent.agentId).length)
      (agentFactoryPolicyError "Parent child limit reached")
    throwIf (parent.objectiveId ≠ request.objectiveId ∨ parent.taskId ≠ request.taskId)
      (agentFactoryPolicyError "Child lineage must match parent objective and task")
    assertSubset request.repositoryScopes parent.repositoryScopes "repository scope"
    assertSubset request.environmentScopes parent.environmentScopes "environment scope"
    assertSubset request.dataScopes parent.dataScopes "data scope"
    assertSubset request.capabilityIds parent.capabilityIds "parent capability"
    assertToolSubset request.toolGrants parent.toolGrants "Child tool exceeds parent grants"
      "parent tool scope"
    throwIf (parent.authorityLevel < request.authorityLevel
        ∨ parent.budgetMinorUnits < request.budgetMinorUnits
        ∨ parent.computeUnits < request.computeUnits
        ∨ parent.maxRuntimeMs < request.maxRuntimeMs
        ∨ parent.retryLimit < request.retryLimit
        ∨ parent.childLimit < request.childLimit)
      (agentFactoryPolicyError "Child exceeds parent ceilings")
    return parent.nestingDepth + 1

/-- One of the ceilings of `instantiate`. -/
def assertCeiling (value templateMax globalMax : Int) (label : String) : Except Failure Unit :=
  throwIf (templateMax < value ∨ globalMax < value)
    (agentFactoryPolicyError s!"{label} limit exceeded")

/-- The checks of `instantiate`: the template to use and the nesting depth. -/
def admitInstantiation (factory : AgentFactory) (context : WorkspaceContext)
    (request : AgentInstantiationRequest) : Except Failure (AgentTemplate × Int) := do
  assertRequester options context
  assertWorkspace context request.workspaceId
  validateRequest request
  match factory.templates.get?
      (templateKey request.workspaceId request.templateId request.templateVersion) with
  | none => .error (agentFactoryPolicyError "Template does not exist in workspace")
  | some template => do
    throwIf (key request.workspaceId request.objectiveId ∉ factory.objectives
        ∨ factory.tasks.get? (key request.workspaceId request.taskId)
          ≠ some request.objectiveId)
      (agentFactoryPolicyError "Parent objective/task linkage is not registered")
    throwIf (options.limits.maxAgents ≤ (activeAgents factory).length
        ∨ options.limits.maxConcurrentAgents ≤ (activeAgents factory).length)
      (agentFactoryPolicyError "Global agent limit reached")
    throwIf (options.limits.maxAgentsPerWorkspace ≤ ((activeAgents factory).filter
        (fun agent => decide (agent.workspaceId = request.workspaceId))).length)
      (agentFactoryPolicyError "Workspace agent limit reached")
    let depth ← match request.parentAgentId with
      | none => pure 0
      | some parentAgentId => admitChild options factory request parentAgentId
    throwIf (options.limits.maxNestingDepth < depth)
      (agentFactoryPolicyError "Nesting depth exceeded")
    assertSubset request.capabilityIds template.capabilityIds "capability"
    assertSubset request.repositoryScopes template.repositoryScopes "repository scope"
    assertSubset request.environmentScopes template.environmentScopes "environment scope"
    assertSubset request.dataScopes template.dataScopes "data scope"
    assertToolSubset request.toolGrants template.toolGrants "Tool is not granted by template"
      "tool scope"
    throwIf (template.maximumAuthority < request.authorityLevel ∨ 3 < request.authorityLevel.val)
      (agentFactoryPolicyError "Excess authority denied")
    assertCeiling request.budgetMinorUnits template.maximumBudgetMinorUnits
      options.limits.maxBudgetMinorUnits "budget"
    assertCeiling request.computeUnits template.maximumComputeUnits
      options.limits.maxComputeUnits "compute"
    assertCeiling request.maxRuntimeMs template.maximumRuntimeMs
      options.limits.maxRuntimeMs "runtime"
    assertCeiling request.retryLimit template.maximumRetries options.limits.maxRetries "retry"
    assertCeiling request.childLimit template.maximumChildren
      options.limits.maxChildrenPerAgent "child"
    throwIf (request.retention ≠ template.retention)
      (agentFactoryPolicyError "Retention exceeds template policy")
    throwIf (key request.workspaceId request.id ∈ factory.consumedRequests)
      (agentFactoryPolicyError "Instantiation request already consumed")
    return (template, depth)

/-- The agent `instantiate` creates. -/
def createdAgent (request : AgentInstantiationRequest) (template : AgentTemplate) (depth : Int)
    (createdAt : String) : FactoryAgent where
  toAgentInstantiationRequest := request
  agentId := s!"agent:{request.id}"
  role := template.role
  department := template.department
  nestingDepth := depth
  lifecycle := .ACTIVE
  createdAt := createdAt
  archivedAt := none
  terminalOutcome := none
  terminalReason := none
  completedAt := none

/-- The decision `instantiate` records. -/
def creationDecision (context : WorkspaceContext) (request : AgentInstantiationRequest)
    (template : AgentTemplate) (createdAt : String) : AgentFactoryDecision where
  requestId := request.id
  workspaceId := request.workspaceId
  agentId := s!"agent:{request.id}"
  templateId := template.id
  decidedAt := createdAt
  requesterId := context.principalId
  checks := ["workspace", "linkage", "template-grants", "authority", "budget", "runtime", "retry",
    "child", "nesting", "concurrency", "retention"]
  templateVersion := template.version
  templateSnapshot := template
  templateHash := options.templateDigest template

/-- The event `instantiate` records. -/
def createdEvent (request : AgentInstantiationRequest) (createdAt : String) :
    AgentFactoryEvent where
  id := s!"event:{request.id}:created"
  workspaceId := request.workspaceId
  agentId := s!"agent:{request.id}"
  type := .agentCreated
  occurredAt := createdAt
  reason := none

/-- `#toOperationalEvent`. -/
def toOperationalEvent (context : WorkspaceContext) (event : AgentFactoryEvent)
    (correlationId : EntityId) : OperationalEvent where
  id := event.id
  workspaceId := event.workspaceId
  type := if event.type = .agentCreated then .agentCreated else .agentLifecycleChanged
  source := .AGENT_FACTORY
  actorKind := if context.principalId ∈ options.aiCooPrincipals then .AGENT else .HUMAN
  actorId := context.principalId
  subjectType := "Agent"
  subjectId := event.agentId
  occurredAt := event.occurredAt
  idempotencyKey := event.id
  correlationId := some correlationId
  facts := ("lifecycle", .text event.type.code) ::
    (if Truthy event.reason then [("reasonPresent", .flag true)] else [])

/-- `#appendOperationalEvent`. -/
def appendOperationalEvent (context : WorkspaceContext) (event : AgentFactoryEvent)
    (correlationId : EntityId) : Op σ Unit :=
  match options.eventSink with
  | none => pure ()
  | some (sink, capability) =>
    onSink (sink.append capability context (toOperationalEvent options context event correlationId))

/-- The writes of `instantiate`. -/
def AgentFactory.enlist (factory : AgentFactory) (agent : FactoryAgent) (decision : AgentFactoryDecision)
    (event : AgentFactoryEvent) : AgentFactory :=
  { factory with
    agents := factory.agents.put agent
    consumedRequests := insert (key agent.workspaceId agent.id) factory.consumedRequests
    decisions := factory.decisions ++ [decision]
    events := factory.events ++ [event] }

/-- `instantiate`. -/
def instantiate (context : WorkspaceContext) (request : AgentInstantiationRequest) :
    Op σ (FactoryAgent × AgentFactoryDecision) := do
  let factory ← readFactory
  let (template, depth) ← admitInstantiation options factory context request
  let createdAt ← isoTime (← readClock options)
  let agent := createdAgent request template depth createdAt
  let decision := creationDecision options context request template createdAt
  let event := createdEvent request createdAt
  appendOperationalEvent options context event request.taskId
  writeFactory fun f => f.enlist agent decision event
  return (agent, decision)

/-- The outcome as a string. -/
def outcomeCode : AgentOutcome → String
  | .COMPLETED => "COMPLETED"
  | .FAILED => "FAILED"

/-- `outcome.toLowerCase()`. -/
def outcomeWord : AgentOutcome → String
  | .COMPLETED => "completed"
  | .FAILED => "failed"

/-- `nextLifecycle.toLowerCase()`. -/
def retentionWord : AgentRetention → String
  | .ARCHIVE => "archived"
  | .DELETE_ON_COMPLETION => "deleted"

/-- The event an outcome is recorded with. -/
def outcomeEvent (context : WorkspaceContext) (agentId : EntityId) (outcome : AgentOutcome)
    (reason at' : String) : AgentFactoryEvent where
  id := s!"event:{agentId}:{outcomeWord outcome}"
  workspaceId := context.workspaceId
  agentId := agentId
  type := match outcome with
    | .COMPLETED => .agentCompleted
    | .FAILED => .agentFailed
  occurredAt := at'
  reason := some reason

/-- The event the end of an agent's retention is recorded with. -/
def retentionEvent (context : WorkspaceContext) (agentId : EntityId) (retention : AgentRetention)
    (at' : String) : AgentFactoryEvent where
  id := s!"event:{agentId}:{retentionWord retention}"
  workspaceId := context.workspaceId
  agentId := agentId
  type := match retention with
    | .ARCHIVE => .agentArchived
    | .DELETE_ON_COMPLETION => .agentDeleted
  occurredAt := at'
  reason := none

/-- The checks of `complete`: the stored agent. -/
def admitCompletion (factory : AgentFactory) (context : WorkspaceContext) (agentId : EntityId)
    (reason : String) : Except Failure FactoryAgent := do
  assertAuthorizer options context
  match factory.agents.get? (key context.workspaceId agentId) with
  | none => .error (agentFactoryPolicyError "Active agent not found")
  | some stored => do
    throwIf (stored.lifecycle ≠ .ACTIVE) (agentFactoryPolicyError "Active agent not found")
    throwIf (activeChildren factory context.workspaceId agentId ≠ [])
      (agentFactoryPolicyError "Cannot finalize agent with active children")
    text reason "terminal reason"
    return stored

/-- The writes of `complete`: an archived agent stays with its outcome, a deleted one goes. -/
def AgentFactory.finalize (factory : AgentFactory) (stored : FactoryAgent) (outcome : AgentOutcome)
    (reason at' : String) (events : List AgentFactoryEvent) : AgentFactory :=
  { factory with
    agents := match stored.retention with
      | .ARCHIVE => factory.agents.put { stored with
          terminalOutcome := some outcome
          terminalReason := some reason
          completedAt := some at'
          lifecycle := .ARCHIVED
          archivedAt := some at' }
      | .DELETE_ON_COMPLETION => factory.agents.delete (key stored.workspaceId stored.agentId)
    events := factory.events ++ events }

/-- `complete`; without a reason the outcome is the reason. -/
def complete (context : WorkspaceContext) (agentId : EntityId) (outcome : AgentOutcome)
    (givenReason : Option String) : Op σ Unit := do
  let reason := givenReason.getD (outcomeCode outcome)
  let factory ← readFactory
  let stored ← admitCompletion options factory context agentId reason
  let at' ← isoTime (← readClock options)
  let events := [outcomeEvent context agentId outcome reason at', retentionEvent context agentId stored.retention at']
  match options.eventSink with
  | none => pure ()
  | some (sink, capability) =>
    onSink (sink.appendBatch capability context
      (events.map fun event => toOperationalEvent options context event stored.taskId))
  writeFactory fun f => f.finalize stored outcome reason at' events

/-! ## Specifications -/

section Specs

variable {options}

@[simp] theorem ensures_writeFactory (f : AgentFactory → AgentFactory) (w : FactoryWorld σ)
    (Q : Except Failure Unit → FactoryWorld σ → Prop) :
    Ensures (writeFactory f) w Q ↔ Q (.ok ()) { w with factory := f w.factory } := Iff.rfl

theorem ensures_readFactory_bind {α : Type} (f : AgentFactory → Op σ α) (w : FactoryWorld σ)
    (Q : Except Failure α → FactoryWorld σ → Prop) :
    Ensures (readFactory >>= f) w Q ↔ Ensures (f w.factory) w Q := by
  simp only [readFactory, bind_assoc, ensures_get_bind, pure_bind]

theorem ensures_readClock_bind {α : Type} (f : Int → Op σ α) (w : FactoryWorld σ)
    (Q : Except Failure α → FactoryWorld σ → Prop) :
    Ensures (readClock options >>= f) w Q ↔
      Ensures (f (options.clock w.factoryClockReads))
        { w with factoryClockReads := w.factoryClockReads + 1 } Q := by
  simp only [readClock, bind_assoc, ensures_get_bind, pure_bind]
  rw [ensures_bind, ensures_set]

/-- Appending an event leaves the factory and its clock alone. -/
theorem appendOperationalEvent_factory (context : WorkspaceContext) (event : AgentFactoryEvent)
    (correlationId : EntityId) (w : FactoryWorld σ) :
    Ensures (appendOperationalEvent options context event correlationId) w (fun _ w' =>
      w'.factory = w.factory ∧ w'.factoryClockReads = w.factoryClockReads) := by
  unfold appendOperationalEvent onSink
  split
  · exact ⟨rfl, rfl⟩
  · rw [ensures_focus]
    exact ⟨rfl, rfl⟩

/-- **Registering a plan.** The linkages are written all together, after every check. -/
theorem registerPlan_spec (context : WorkspaceContext) (objectiveId : EntityId)
    (tasks : List (EntityId × EntityId)) (w : FactoryWorld σ) :
    Ensures (registerPlan options context objectiveId tasks) w (fun r w' => match r with
      | .ok _ => admitPlan options w.factory context objectiveId tasks = .ok ()
          ∧ w' = { w with factory := w.factory.link context.workspaceId objectiveId tasks }
      | .error e => admitPlan options w.factory context objectiveId tasks = .error e ∧ w' = w) := by
  unfold registerPlan
  rw [ensures_readFactory_bind, ensures_lift_bind]
  exact ⟨fun e he => ⟨he, rfl⟩, fun _ hok => ⟨hok, rfl⟩⟩

/-- **Instantiating an agent.** A request that is refused at any point leaves the factory as it was;
an accepted one was admitted and is enlisted. -/
theorem instantiate_spec (context : WorkspaceContext) (request : AgentInstantiationRequest)
    (w : FactoryWorld σ) :
    Ensures (instantiate options context request) w (fun r w' => match r with
      | .ok (agent, decision) => ∃ template depth createdAt,
          admitInstantiation options w.factory context request = .ok (template, depth)
          ∧ agent = createdAgent request template depth createdAt
          ∧ decision = creationDecision options context request template createdAt
          ∧ w'.factory = w.factory.enlist agent decision (createdEvent request createdAt)
      | .error _ => w'.factory = w.factory) := by
  unfold instantiate
  rw [ensures_readFactory_bind, ensures_lift_bind]
  refine ⟨fun _ _ => rfl, fun p hp => ?_⟩
  obtain ⟨template, depth⟩ := p
  simp only
  rw [ensures_readClock_bind, ensures_lift_bind]
  refine ⟨fun _ _ => rfl, fun createdAt _ => ?_⟩
  -- Only the last write, after the event was appended, touches the factory.
  rw [ensures_bind]
  refine (appendOperationalEvent_factory context _ _ _).mono fun r w' hw => ?_
  cases r with
  | error e => exact hw.1
  | ok u =>
    rw [ensures_bind, ensures_writeFactory, hw.1]
    exact ⟨template, depth, createdAt, hp, rfl, rfl, rfl⟩

end Specs

end VentureOS.Factory
