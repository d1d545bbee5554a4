import VentureOS.Coo.Factory
import VentureOS.Coo.Planning

/-! # Operations of the AI COO

The public operations of `GovernedAiCoo` over its private fields, the agent factory it shares an
event sink with, the runtime broker and the evidence verifier. Each operation is written in the order
of the source: status changes come before the events that report them, and an event that is refused
throws and leaves the changes in place.

`idFactory` and `clock` are the sequences of their readings; the world counts how many were taken.
It also counts the emissions that were refused, which the source does not record. -/

namespace VentureOS.Coo

open ControlPlane Program Factory

/-! ## State -/

/-- The private fields of `GovernedAiCoo`. -/
structure GovernedAiCoo where
  objectives : Store Key CooObjective
  projects : Store Key CooProject
  tasks : Store Key CooTaskState
  events : List CooEvent
  eventIds : Finset EntityId
  approvals : Store Key FounderDecisionCard
  consumedAssignmentRequests : Finset Key
  entityIds : Finset Key

/-- `new GovernedAiCoo(...)`. -/
def GovernedAiCoo.empty : GovernedAiCoo where
  objectives := .empty
  projects := .empty
  tasks := .empty
  events := []
  eventIds := ∅
  approvals := .empty
  consumedAssignmentRequests := ∅
  entityIds := ∅

/-- `ArtifactEvidenceVerifier` asks about one artifact of a run. -/
structure EvidenceQuestion where
  runId : EntityId
  artifactId : EntityId
  contentHash : String
  deriving DecidableEq, Repr

/-- The arguments of the constructor, on which it did not throw. The broker and the verifier are
programs over a state `ω` of their own. -/
structure Governance (ω σ : Type) where
  options : AiCooOptions
  /-- The constructor accepts the options. -/
  governed : checkOptions options = .ok ()
  /-- The readings of `clock`, in the order in which they are taken. -/
  clock : Nat → Int
  /-- The readings of `idFactory`, in the order in which they are taken. -/
  idFactory : Nat → EntityId
  /-- `broker.route(context, request)`. -/
  route : WorkspaceContext → RuntimeRoutingRequest → Program Failure ω RuntimeRoutingDecision
  /-- `evidenceVerifier.verify(context, evidence)`. -/
  verify : WorkspaceContext → EvidenceQuestion → Program Failure ω Bool
  /-- The configuration of the agent factory. -/
  factory : AgentFactoryOptions σ
  /-- `eventSink` and `eventCapability`. -/
  eventSink : Option (OperationalEventSink σ × OperationalEventCapability)
  /-- The SHA-256 digest of a text, in hexadecimal. -/
  sha256 : String → String

/-- The COO with everything it writes to and reads from. -/
structure World (ω σ : Type) extends FactoryWorld σ where
  coo : GovernedAiCoo
  /-- The state of the broker and the verifier. -/
  outside : ω
  clockReads : Nat
  idReads : Nat
  /-- How many emissions have been refused. -/
  refusals : Nat

/-- A method of the COO. -/
abbrev Op (ω σ α : Type) := Program Failure (World ω σ) α

variable {ω σ α : Type}

/-- Read the fields of the COO. -/
def readCoo : Op ω σ GovernedAiCoo := do return (← get).coo

/-- Write the fields of the COO. -/
def writeCoo (f : GovernedAiCoo → GovernedAiCoo) : Op ω σ Unit :=
  modify fun w => { w with coo := f w.coo }

/-- Call a method of the factory. -/
def onFactory (x : Factory.Op σ α) : Op ω σ α :=
  focus World.toFactoryWorld (fun w f => { w with toFactoryWorld := f }) x

/-- Call a method of the event sink. -/
def onSink (x : Program Failure σ α) : Op ω σ α :=
  focus (fun w => w.sink) (fun w s => { w with sink := s }) x

/-- Call the broker or the verifier. -/
def onOutside (x : Program Failure ω α) : Op ω σ α :=
  focus World.outside (fun w o => { w with outside := o }) x

variable (governance : Governance ω σ)

/-- `this.#clock()`. -/
def readClock : Op ω σ Int := do
  let w ← get
  set { w with clockReads := w.clockReads + 1 }
  return governance.clock w.clockReads

/-- `this.#idFactory()`. -/
def readId : Op ω σ EntityId := do
  let w ← get
  set { w with idReads := w.idReads + 1 }
  return governance.idFactory w.idReads

/-! ## Lookups -/

/-- `#assertPlanner`. -/
def assertPlanner (context : WorkspaceContext) : Except Failure Unit := do
  throwIf (context.principalId ∉ governance.options.plannerPrincipals)
    (aiCooPolicyError "AI COO planner authority required")
  boundedText context.workspaceId "context.workspaceId"

/-- `#requireObjective`. -/
def requireObjective (coo : GovernedAiCoo) (context : WorkspaceContext) (id : EntityId) :
    Except Failure CooObjective :=
  match coo.objectives.get? (key context.workspaceId id) with
  | some objective => .ok objective
  | none => .error (aiCooPolicyError "Objective not found in authenticated workspace")

/-- `#requireTask`. -/
def requireTask (coo : GovernedAiCoo) (context : WorkspaceContext) (id : EntityId) :
    Except Failure CooTaskState :=
  match coo.tasks.get? (key context.workspaceId id) with
  | some task => .ok task
  | none => .error (aiCooPolicyError "Task not found in authenticated workspace")

@[simp] theorem requireObjective_eq_ok {coo : GovernedAiCoo} {context : WorkspaceContext}
    {id : EntityId} {objective : CooObjective} :
    requireObjective coo context id = .ok objective ↔
      coo.objectives.get? (key context.workspaceId id) = some objective := by
  unfold requireObjective
  split <;> simp_all

@[simp] theorem requireTask_eq_ok {coo : GovernedAiCoo} {context : WorkspaceContext}
    {id : EntityId} {task : CooTaskState} :
    requireTask coo context id = .ok task ↔
      coo.tasks.get? (key context.workspaceId id) = some task := by
  unfold requireTask
  split <;> simp_all

/-- `#objectiveTasks`. -/
def objectiveTasks (coo : GovernedAiCoo) (workspaceId objectiveId : EntityId) :
    List CooTaskState :=
  coo.tasks.values.filter (fun task =>
    decide (task.workspaceId = workspaceId ∧ task.objectiveId = objectiveId))

/-! ## Events -/

/-- What `#emit` is asked to report. -/
structure Announcement where
  objectiveId : EntityId
  type : OperationalEventType
  facts : Facts
  projectId : Option EntityId
  taskId : Option EntityId
  deriving DecidableEq, Repr

/-- The event an announcement is appended to the sink as. -/
def operationalEvent (context : WorkspaceContext) (id occurredAt : String)
    (announcement : Announcement) : OperationalEvent where
  id := id
  workspaceId := context.workspaceId
  type := announcement.type
  source := .AI_COO
  actorKind := .AGENT
  actorId := context.principalId
  subjectType :=
    if Truthy announcement.taskId then "Task"
    else if Truthy announcement.projectId then "Project"
    else "Objective"
  subjectId := (announcement.taskId <|> announcement.projectId).getD announcement.objectiveId
  occurredAt := occurredAt
  idempotencyKey := id
  correlationId := some announcement.objectiveId
  facts := announcement.facts

/-- The event an announcement is kept as by the COO. -/
def cooEvent (context : WorkspaceContext) (id occurredAt : String)
    (announcement : Announcement) : CooEvent where
  id := id
  workspaceId := context.workspaceId
  objectiveId := announcement.objectiveId
  projectId := announcement.projectId
  taskId := announcement.taskId
  type := announcement.type
  occurredAt := occurredAt
  actorId := context.principalId
  facts := announcement.facts

/-- Keep an event. -/
def GovernedAiCoo.record (coo : GovernedAiCoo) (event : CooEvent) : GovernedAiCoo :=
  { coo with
    eventIds := insert event.id coo.eventIds
    events := coo.events ++ [event] }

/-- The body of `#emit`. -/
def publish (context : WorkspaceContext) (announcement : Announcement) : Op ω σ Unit := do
  let id ← readId governance
  boundedText id "event.id"
  let coo ← readCoo
  throwIf (id ∈ coo.eventIds) (aiCooPolicyError "Duplicate event ID")
  let occurredAt ← isoTime (← readClock governance)
  match governance.eventSink with
  | none => pure ()
  | some (sink, capability) =>
    onSink (sink.append capability context (operationalEvent context id occurredAt announcement))
  writeCoo fun coo => coo.record (cooEvent context id occurredAt announcement)

/-- `#emit`; a refused emission is counted and thrown on. -/
def emit (context : WorkspaceContext) (announcement : Announcement) : Op ω σ Unit :=
  tryCatch (publish governance context announcement) fun e => do
    modify fun w => { w with refusals := w.refusals + 1 }
    throw e

/-- An announcement about a task. -/
def aboutTask (task : CooTask) (type : OperationalEventType) (facts : Facts) : Announcement where
  objectiveId := task.objectiveId
  type := type
  facts := facts
  projectId := some task.projectId
  taskId := some task.id

/-! ## Readiness -/

/-- The status the dependencies of a task give it. -/
def readiness (dependencies : List CooTaskState) : CooTaskStatus :=
  if dependencies.any (fun d => decide (d.status = .FAILED ∨ d.status = .STOPPED)) = true then
    .BLOCKED
  else if dependencies.all (fun d => decide (d.status = .COMPLETED)) = true then .READY
  else .BLOCKED

/-- The announcement of a task's readiness. -/
def readinessAnnouncement (task : CooTask) (status : CooTaskStatus) : Announcement :=
  aboutTask task (if status = .READY then .taskReady else .taskBlocked)
    [("dependencyIds", .list task.dependencyIds)]

/-- Write a task back. -/
def GovernedAiCoo.putTask (coo : GovernedAiCoo) (task : CooTaskState) : GovernedAiCoo :=
  { coo with tasks := coo.tasks.put task }

/-- The dependencies of a task, as they stand. -/
def requireDependencies (coo : GovernedAiCoo) (context : WorkspaceContext) (task : CooTask) :
    Except Failure (List CooTaskState) :=
  task.dependencyIds.mapM (requireTask coo context)

/-- `#refreshTaskReadiness` of the task with the given identifier. The source passes the stored
object, whose current fields are read here. -/
def refreshTaskReadiness (context : WorkspaceContext) (taskId : EntityId) : Op ω σ Unit := do
  let coo ← readCoo
  let task ← requireTask coo context taskId
  if task.status = .BLOCKED ∨ task.status = .READY then
    let dependencies ← requireDependencies coo context task.toCooTask
    let status := readiness dependencies
    writeCoo fun coo => coo.putTask { task with status := status }
    if status ≠ task.status then
      emit governance context (readinessAnnouncement task.toCooTask status)

/-! ## Plans -/

/-- The status of a task when its plan is accepted. -/
def initialStatus (task : CooTask) : CooTaskStatus :=
  if task.requiredAuthority.val = 4 then .AWAITING_APPROVAL
  else if task.dependencyIds.length ≠ 0 then .BLOCKED
  else .READY

/-- A task as it is stored when its plan is accepted. -/
def storedTask (task : CooTask) : CooTaskState where
  toCooTask := task
  status := initialStatus task
  attempts := 0
  costUsedMinorUnits := 0
  computeUsed := 0
  assignedAgentId := none
  selectedRuntimeId := none
  selectedConnectionId := none
  runId := none

/-- The identifiers a plan claims: its objective, projects and tasks. -/
def planEntityIds (plan : ObjectivePlan) : List EntityId :=
  plan.objective.id :: (plan.projects.map CooProject.id ++ plan.tasks.map CooTask.id)

/-- The linkages of a plan that the factory registers. -/
def planLinkages (plan : ObjectivePlan) : List (EntityId × EntityId) :=
  plan.tasks.map fun task => (task.id, task.objectiveId)

/-- The checks of `createPlan` that precede the factory's. -/
def checkPlan (coo : GovernedAiCoo) (context : WorkspaceContext) (plan : ObjectivePlan) :
    Except Failure Unit := do
  assertPlanner governance context
  validatePlan governance.options context plan
  throwIf (coo.objectives.has (key context.workspaceId plan.objective.id) = true)
    (aiCooPolicyError "Objective already exists")
  throwIf (¬ (planEntityIds plan).Nodup)
    (aiCooPolicyError "Entity IDs must be unique across the plan")
  forM (planEntityIds plan) fun id =>
    throwIf (key context.workspaceId id ∈ coo.entityIds)
      (aiCooPolicyError "Entity ID already exists in workspace")

/-- The records `createPlan` writes. -/
def GovernedAiCoo.addPlan (coo : GovernedAiCoo) (workspaceId : EntityId) (plan : ObjectivePlan) :
    GovernedAiCoo :=
  { coo with
    objectives := coo.objectives.put plan.objective
    projects := plan.projects.foldl Store.put coo.projects
    tasks := (plan.tasks.map storedTask).foldl Store.put coo.tasks
    entityIds := coo.entityIds ∪ ((planEntityIds plan).map (key workspaceId)).toFinset }

/-- `[...title].length`: the number of code points. -/
def titleLength (title : String) : Facts := [("titleLength", .integer title.toList.length)]

/-- The card `#createLevelFourCard` files. -/
def levelFourCard (context : WorkspaceContext) (task : CooTask) (expiresAt : String) :
    FounderDecisionCard where
  id := s!"approval:{task.id}"
  workspaceId := task.workspaceId
  objectiveId := task.objectiveId
  taskId := task.id
  requestedAction := task.title
  requesterId := context.principalId
  exactTarget := task.exactTarget
  reason := "Task requires Level-4 Founder authority"
  businessImpact := "Execution is blocked until an authorized human decision"
  securityImpact := "No execution permit or runtime assignment has been issued"
  privacyImpact := "No additional data access has been granted"
  financialImpact :=
    s!"{task.costLimit.maximumMinorUnits} {task.costLimit.currency} minor units maximum"
  alternatives := ["Reject the action", "Reduce the task to Level 3 or below", "Hold for more evidence"]
  recommendedAction := "Review evidence and decide through the protected Founder interface"
  rollback := "No action has executed; rejection leaves the task blocked"
  expiresAt := expiresAt

/-- `#createLevelFourCard`. -/
def createLevelFourCard (context : WorkspaceContext) (task : CooTask) : Op ω σ Unit := do
  let expiresAt ← isoTime ((← readClock governance) + 24 * 60 * 60 * 1000)
  writeCoo fun coo => { coo with
    approvals := coo.approvals.put (levelFourCard context task expiresAt) }

/-- The announcement of an objective. -/
def objectiveAnnouncement (objective : CooObjective) : Announcement :=
  ⟨objective.id, .objectiveCreated, titleLength objective.title, none, none⟩

/-- The announcement of a project. -/
def projectAnnouncement (objective : CooObjective) (project : CooProject) : Announcement :=
  ⟨objective.id, .projectCreated, titleLength project.title, some project.id, none⟩

/-- The second announcement of a new task: how it stands. -/
def standingAnnouncement (task : CooTask) : Announcement :=
  aboutTask task
    (match initialStatus task with
      | .AWAITING_APPROVAL => .approvalRequested
      | .READY => .taskReady
      | _ => .taskBlocked)
    [("dependencyIds", .list task.dependencyIds)]

/-- `criticalPath`. -/
def criticalPath (coo : GovernedAiCoo) (context : WorkspaceContext) (objectiveId : EntityId) :
    Except Failure CriticalPathReport := do
  assertPlanner governance context
  let _ ← requireObjective coo context objectiveId
  let tasks := objectiveTasks coo context.workspaceId objectiveId
  let graph := tasks.map CooTaskState.toCooTask
  let ordered := topologicalOrder graph
  throwIf (ordered.length ≠ graph.length)
    (aiCooPolicyError "Task dependency graph contains a cycle")
  let best ← longestPaths graph OrderedMap.empty ordered
  let longest := longestChain best.values
  return {
    objectiveId := objectiveId
    taskIds := (longest.map Chain.path).getD []
    totalDurationMs := (longest.map Chain.duration).getD 0
    blockedTaskIds := sortTexts ((tasks.filter (fun task =>
      decide (task.status = .BLOCKED ∨ task.status = .AWAITING_APPROVAL))).map (fun t => t.id)) }

/-- The announcements of a new plan. The status a task is announced with is the one just stored. -/
def announcePlan (context : WorkspaceContext) (plan : ObjectivePlan) : Op ω σ Unit := do
  emit governance context (objectiveAnnouncement plan.objective)
  forM plan.projects fun project =>
    emit governance context (projectAnnouncement plan.objective project)
  forM plan.tasks fun task => do
    emit governance context (aboutTask task .taskCreated (titleLength task.title))
    emit governance context (standingAnnouncement task)
    if task.requiredAuthority.val = 4 then createLevelFourCard governance context task

/-- `createPlan`. -/
def createPlan (context : WorkspaceContext) (plan : ObjectivePlan) :
    Op ω σ CriticalPathReport := do
  let coo ← readCoo
  checkPlan governance coo context plan
  onFactory (registerPlan governance.factory context plan.objective.id (planLinkages plan))
  writeCoo fun coo => coo.addPlan context.workspaceId plan
  announcePlan governance context plan
  criticalPath governance (← readCoo) context plan.objective.id

/-! ## Assignments -/

/-- `stopConditions.join(' AND ')`. -/
def joinedStopConditions (task : CooTask) : String := " AND ".intercalate task.stopConditions

/-- The part of a factory request that is compared with the governed task: everything but its
identifier and its linkage. -/
structure FactoryPolicy extends CooAgentPolicy where
  authorityLevel : AuthorityLevel
  budgetMinorUnits : Int
  computeUnits : Int
  retryLimit : Int
  acceptanceCriteria : List String
  verificationCriteria : List String
  stopCondition : String
  deriving DecidableEq, Repr

/-- `expectedFactoryPolicy`. -/
def expectedFactoryPolicy (task : CooTask) : FactoryPolicy where
  toCooAgentPolicy := task.agentPolicy
  authorityLevel := task.requiredAuthority
  budgetMinorUnits := task.costLimit.maximumMinorUnits
  computeUnits := task.costLimit.maximumComputeUnits
  retryLimit := task.retryPolicy.maximumAttempts - 1
  acceptanceCriteria := task.acceptanceCriteria
  verificationCriteria := task.verificationCriteria
  stopCondition := joinedStopConditions task

/-- `actualFactoryPolicy`. -/
def actualFactoryPolicy (request : AgentInstantiationRequest) : FactoryPolicy where
  templateId := request.templateId
  templateVersion := request.templateVersion
  parentAgentId := request.parentAgentId
  repositoryScopes := request.repositoryScopes
  environmentScopes := request.environmentScopes
  dataScopes := request.dataScopes
  capabilityIds := request.capabilityIds
  toolGrants := request.toolGrants
  maxRuntimeMs := request.maxRuntimeMs
  childLimit := request.childLimit
  retention := request.retention
  authorityLevel := request.authorityLevel
  budgetMinorUnits := request.budgetMinorUnits
  computeUnits := request.computeUnits
  retryLimit := request.retryLimit
  acceptanceCriteria := request.acceptanceCriteria
  verificationCriteria := request.verificationCriteria
  stopCondition := request.stopCondition

/-- The part of a routing request that is compared with the governed task: everything but its
identifier and its workspace. -/
structure RoutingPolicy extends CooRoutingPolicy where
  maximumCostMinorUnits : Int
  requiredComputeUnits : Int
  deriving DecidableEq, Repr

/-- `expectedRoutingPolicy`. -/
def expectedRoutingPolicy (task : CooTask) : RoutingPolicy where
  toCooRoutingPolicy := task.routingPolicy
  maximumCostMinorUnits := task.costLimit.maximumMinorUnits
  requiredComputeUnits := task.costLimit.maximumComputeUnits

/-- `actualRoutingPolicy`. -/
def actualRoutingPolicy (request : RuntimeRoutingRequest) : RoutingPolicy where
  toCooRoutingPolicy := request.toCooRoutingPolicy
  maximumCostMinorUnits := request.maximumCostMinorUnits
  requiredComputeUnits := request.requiredComputeUnits

/-- The checks of `requestAssignment` before the readiness of the task is refreshed: the task. -/
def findAssignable (coo : GovernedAiCoo) (context : WorkspaceContext)
    (request : AssignmentRequest) : Except Failure CooTaskState := do
  assertPlanner governance context
  boundedText request.taskId "taskId"
  throwIf (key context.workspaceId request.factoryRequest.id ∈ coo.consumedAssignmentRequests)
    (aiCooPolicyError "Assignment request already consumed")
  requireTask coo context request.taskId

/-- The checks of `requestAssignment` on the refreshed task. `equalData` compares two records of the
same fields, so it is equality of the records. -/
def checkAssignment (task : CooTaskState) (request : AssignmentRequest) :
    Except Failure Unit := do
  throwIf (task.requiredAuthority.val = 4)
    (aiCooPolicyError "Level-4 tasks require a Founder decision and cannot be assigned")
  throwIf (task.status ≠ .READY) (aiCooPolicyError "Task is not ready for assignment")
  throwIf (request.factoryRequest.workspaceId ≠ task.workspaceId
      ∨ request.factoryRequest.objectiveId ≠ task.objectiveId
      ∨ request.factoryRequest.taskId ≠ task.id
      ∨ request.routingRequest.workspaceId ≠ task.workspaceId)
    (aiCooPolicyError "Assignment linkage crosses the governed task graph")
  throwIf (task.requiredAuthority < request.factoryRequest.authorityLevel
      ∨ 3 < request.factoryRequest.authorityLevel.val
      ∨ task.costLimit.maximumMinorUnits < request.factoryRequest.budgetMinorUnits
      ∨ task.costLimit.maximumComputeUnits < request.factoryRequest.computeUnits
      ∨ task.costLimit.maximumMinorUnits < request.routingRequest.maximumCostMinorUnits
      ∨ task.costLimit.maximumComputeUnits < request.routingRequest.requiredComputeUnits)
    (aiCooPolicyError "Assignment exceeds task authority or budget ceilings")
  throwIf (actualFactoryPolicy request.factoryRequest ≠ expectedFactoryPolicy task.toCooTask
      ∨ actualRoutingPolicy request.routingRequest ≠ expectedRoutingPolicy task.toCooTask)
    (aiCooPolicyError "Assignment policy must exactly match the governed task")
  throwIf (request.factoryRequest.acceptanceCriteria ≠ task.acceptanceCriteria
      ∨ request.factoryRequest.verificationCriteria ≠ task.verificationCriteria)
    (aiCooPolicyError "Assignment criteria must exactly match the governed task")

/-- `coo-run:` and the identifier of the factory request. -/
def assignedRunId (request : AssignmentRequest) : EntityId :=
  s!"coo-run:{request.factoryRequest.id}"

/-- A task once it is assigned. -/
def assignedTask (task : CooTaskState) (request : AssignmentRequest) (agentId : EntityId)
    (runtime : RuntimeRoutingDecision) : CooTaskState :=
  { task with
    status := .ASSIGNED
    attempts := task.attempts + 1
    assignedAgentId := some agentId
    selectedRuntimeId := some runtime.selectedRuntimeId
    selectedConnectionId := some runtime.selectedConnectionId
    runId := some (assignedRunId request) }

/-- The writes of `requestAssignment`. -/
def GovernedAiCoo.assign (coo : GovernedAiCoo) (task : CooTaskState) (requestKey : Key) :
    GovernedAiCoo :=
  { coo.putTask task with
    consumedAssignmentRequests := insert requestKey coo.consumedAssignmentRequests }

/-- The announcement of an assignment. -/
def assignmentAnnouncement (task : CooTaskState) (agentId runtimeId : EntityId) : Announcement :=
  aboutTask task.toCooTask .taskAssigned
    [("agentId", .text agentId), ("runtimeId", .text runtimeId), ("attempt", .integer task.attempts)]

/-- The rest of `requestAssignment`, once its checks have passed: the broker selects a runtime, the
factory creates the agent, and the task is assigned. -/
def assignTask (context : WorkspaceContext) (request : AssignmentRequest) (task : CooTaskState) :
    Op ω σ AssignmentDecision := do
  let runtime ← onOutside (governance.route context request.routingRequest)
  let (agent, decision) ← onFactory (instantiate governance.factory context request.factoryRequest)
  let assigned := assignedTask task request agent.agentId runtime
  writeCoo fun coo => coo.assign assigned (key context.workspaceId request.factoryRequest.id)
  emit governance context
    (assignmentAnnouncement assigned agent.agentId runtime.selectedRuntimeId)
  return ⟨task.id, agent.agentId, runtime, decision, assignedRunId request⟩

/-- `requestAssignment`. -/
def requestAssignment (context : WorkspaceContext) (request : AssignmentRequest) :
    Op ω σ AssignmentDecision := do
  let coo ← readCoo
  let _ ← findAssignable governance coo context request
  refreshTaskReadiness governance context request.taskId
  let coo ← readCoo
  let task ← requireTask coo context request.taskId
  checkAssignment task request
  assignTask governance context request task

/-! ## Usage -/

/-- An amount added up over tasks without rounding. -/
def totalOf (tasks : List CooTaskState) (amount : CooTaskState → Int) : Int :=
  tasks.foldl (fun total task => total + amount task) 0

/-- The task-level branches of the ceiling check of `recordUsage`. -/
def ExceedsTask (task : CooTaskState) (costMinorUnits computeUnits : Int) : Prop :=
  task.costLimit.maximumMinorUnits < task.costUsedMinorUnits + costMinorUnits
    ∨ task.costLimit.maximumComputeUnits < task.computeUsed + computeUnits

/-- The objective-level branches of the ceiling check of `recordUsage`. -/
def ExceedsObjective (coo : GovernedAiCoo) (workspaceId : EntityId) (objective : CooObjective)
    (costMinorUnits computeUnits : Int) : Prop :=
  let tasks := objectiveTasks coo workspaceId objective.id
  objective.costLimit.maximumMinorUnits
      < totalOf tasks CooTaskState.costUsedMinorUnits + costMinorUnits
    ∨ objective.costLimit.maximumComputeUnits
      < totalOf tasks CooTaskState.computeUsed + computeUnits

instance (task : CooTaskState) (costMinorUnits computeUnits : Int) :
    Decidable (ExceedsTask task costMinorUnits computeUnits) := inferInstanceAs (Decidable (_ ∨ _))

instance (coo : GovernedAiCoo) (workspaceId : EntityId) (objective : CooObjective)
    (costMinorUnits computeUnits : Int) :
    Decidable (ExceedsObjective coo workspaceId objective costMinorUnits computeUnits) :=
  inferInstanceAs (Decidable (_ ∨ _))

/-- The checks of `recordUsage`: the task to charge. -/
def checkUsage (coo : GovernedAiCoo) (context : WorkspaceContext) (taskId : EntityId)
    (costMinorUnits computeUnits : Int) : Except Failure CooTaskState := do
  assertPlanner governance context
  let task ← requireTask coo context taskId
  throwIf (task.status ≠ .ASSIGNED) (aiCooPolicyError "Usage requires an assigned task")
  integer costMinorUnits "costMinorUnits" maxSafeInteger
  integer computeUnits "computeUnits" maxSafeInteger
  let objective ← requireObjective coo context task.objectiveId
  throwIf (ExceedsTask task costMinorUnits computeUnits
      ∨ ExceedsObjective coo context.workspaceId objective costMinorUnits computeUnits)
    (aiCooPolicyError "Usage exceeds task or objective cost ceiling")
  return task

/-- A task charged with usage. -/
def chargedTask (task : CooTaskState) (costMinorUnits computeUnits : Int) : CooTaskState :=
  { task with
    costUsedMinorUnits := addDouble task.costUsedMinorUnits costMinorUnits
    computeUsed := addDouble task.computeUsed computeUnits }

/-- The announcement of usage, with the totals of the charged task. -/
def usageAnnouncement (charged : CooTaskState) (costMinorUnits computeUnits : Int) :
    Announcement :=
  aboutTask charged.toCooTask .usageRecorded
    [("costMinorUnits", .integer costMinorUnits), ("computeUnits", .integer computeUnits),
      ("taskCostUsedMinorUnits", .integer charged.costUsedMinorUnits),
      ("taskComputeUsed", .integer charged.computeUsed)]

/-- `recordUsage`. -/
def recordUsage (context : WorkspaceContext) (taskId : EntityId)
    (costMinorUnits computeUnits : Int) : Op ω σ Unit := do
  let coo ← readCoo
  let task ← checkUsage governance coo context taskId costMinorUnits computeUnits
  let charged := chargedTask task costMinorUnits computeUnits
  writeCoo fun coo => coo.putTask charged
  emit governance context (usageAnnouncement charged costMinorUnits computeUnits)

/-! ## Completion -/

/-- `/^[a-f0-9]{64}$/u`. -/
def isSha256Hex (s : String) : Bool :=
  decide (s.toList.length = 64)
    && s.toList.all (fun c => ('a' ≤ c && c ≤ 'f') || ('0' ≤ c && c ≤ '9'))

/-- The checks of `completeTask` on the task. -/
def checkCompletable (coo : GovernedAiCoo) (context : WorkspaceContext) (taskId : EntityId) :
    Except Failure CooTaskState := do
  assertPlanner governance context
  let task ← requireTask coo context taskId
  throwIf (task.status ≠ .ASSIGNED) (aiCooPolicyError "Only an assigned task can complete")
  return task

/-- The checks of `completeTask` on an item of evidence that precede the verifier's. -/
def checkEvidence (task : CooTaskState) (seen : List String) (item : VerificationEvidence) :
    Except Failure Unit := do
  boundedText item.criterion "evidence.criterion"
  boundedText item.runId "evidence.runId"
  boundedText item.artifactId "evidence.artifactId"
  throwIf (isSha256Hex item.contentHash = false)
    (aiCooPolicyError "Evidence contentHash must be SHA-256")
  throwIf (item.criterion ∈ seen) (aiCooPolicyError "Duplicate verification evidence")
  throwIf (some item.runId ≠ task.runId)
    (aiCooPolicyError "Evidence is not bound to the assigned workspace run artifact")

/-- The loop of `completeTask` over the evidence, after the criteria `seen`. -/
def verifyEvidence (context : WorkspaceContext) (task : CooTaskState) :
    List String → List VerificationEvidence → Program Failure ω Unit
  | _, [] => pure ()
  | seen, item :: rest => do
    checkEvidence task seen item
    let verified ← governance.verify context ⟨item.runId, item.artifactId, item.contentHash⟩
    throwIf (verified = false)
      (aiCooPolicyError "Evidence is not bound to the assigned workspace run artifact")
    verifyEvidence context task (item.criterion :: seen) rest

/-- Every criterion of the task has its evidence, and there is no other evidence. -/
def checkCriteria (task : CooTask) (evidence : List VerificationEvidence) :
    Except Failure Unit :=
  let requiredCriteria := (task.acceptanceCriteria ++ task.verificationCriteria).dedup
  throwIf ((∃ criterion ∈ requiredCriteria,
        criterion ∉ evidence.map VerificationEvidence.criterion)
      ∨ evidence.length ≠ requiredCriteria.length)
    (aiCooPolicyError "Every acceptance and verification criterion requires exact artifact evidence")

/-- The announcement of a completed task. -/
def completionAnnouncement (task : CooTask) (evidence : List VerificationEvidence) :
    Announcement :=
  aboutTask task .taskCompleted
    [("artifactIds", .list (evidence.map VerificationEvidence.artifactId))]

/-- `completeTask`. -/
def completeTask (context : WorkspaceContext) (taskId : EntityId)
    (evidence : List VerificationEvidence) : Op ω σ Unit := do
  let coo ← readCoo
  let task ← checkCompletable governance coo context taskId
  onOutside (verifyEvidence governance context task [] evidence)
  checkCriteria task.toCooTask evidence
  writeCoo fun coo => coo.putTask { task with status := .COMPLETED }
  emit governance context (completionAnnouncement task.toCooTask evidence)
  let coo ← readCoo
  forM (objectiveTasks coo context.workspaceId task.objectiveId) fun candidate =>
    refreshTaskReadiness governance context candidate.id

/-! ## Failure -/

/-- The checks of `recordFailure`: the task that failed. -/
def checkFailure (coo : GovernedAiCoo) (context : WorkspaceContext) (taskId : EntityId)
    (failureCode : String) : Except Failure CooTaskState := do
  assertPlanner governance context
  boundedText failureCode "failureCode"
  let task ← requireTask coo context taskId
  throwIf (task.status ≠ .ASSIGNED) (aiCooPolicyError "Only an assigned task can fail")
  return task

/-- The status a failure leaves a task in. -/
def failureStatus (task : CooTaskState) (failureCode : String) : CooTaskStatus :=
  if failureCode ∈ task.retryPolicy.stopAfterFailureCodes then .STOPPED
  else if failureCode ∈ task.retryPolicy.retryableFailureCodes
      ∧ task.attempts < task.retryPolicy.maximumAttempts then .READY
  else .FAILED

/-- A task after a failure: its assignment is dropped. -/
def failedTask (task : CooTaskState) (failureCode : String) : CooTaskState :=
  { task with
    assignedAgentId := none
    selectedRuntimeId := none
    selectedConnectionId := none
    runId := none
    status := failureStatus task failureCode }

/-- The announcement of a failure. -/
def failureAnnouncement (failed : CooTaskState) (failureCode : String) : Announcement :=
  aboutTask failed.toCooTask
    (match failed.status with
      | .READY => .taskRetryReady
      | .STOPPED => .taskStopped
      | _ => .taskFailed)
    [("failureCodeDigest", .text (governance.sha256 failureCode)), ("attempt", .integer failed.attempts)]

/-- `recordFailure`. -/
def recordFailure (context : WorkspaceContext) (taskId : EntityId) (failureCode : String) :
    Op ω σ CooTaskStatus := do
  let coo ← readCoo
  let task ← checkFailure governance coo context taskId failureCode
  let failed := failedTask task failureCode
  writeCoo fun coo => coo.putTask failed
  emit governance context (failureAnnouncement governance failed failureCode)
  return failed.status

end VentureOS.Coo
