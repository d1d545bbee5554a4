import VentureOS.Foundations.Machine
import VentureOS.Durable.Database

/-! # The task and run service

`AcpTaskRunService` and `AuditService.recordOperationalEvent` as transactions on the database. Each call is
one serializable transaction: `step` commits it or leaves the database as it was. A label carries what a
call is given: the capability and the context of its caller, its arguments, what a verifier answers, the
random identifiers and the clock. -/

namespace VentureOS.Durable

open ControlPlane Transaction

/-! ## Principals -/

/-- `assertWorkspace`. -/
def assertWorkspace (context : WorkspaceContext) (workspaceId : EntityId) : Except Failure Unit :=
  throwIf (context.workspaceId ≠ workspaceId)
    (acpTaskRunDenied "Cross-workspace ACP operation denied")

/-- `authorityLevelFor`. -/
def authorityLevelFor (capability : OperationalEventCapability) (context : WorkspaceContext) :
    Except Failure AuthorityLevel := do
  let _ ← capability.actorKindFor context
  match capability.bindings.reverse.find? (fun binding =>
      binding.workspaceId == context.workspaceId && binding.principalId == context.principalId
        && binding.authorityLevel.isSome) with
  | some ⟨_, _, _, some level⟩ => .ok level
  | _ => .error (eventPolicyError "No trusted principal authority binding exists")

/-- `assertTrustedPlanner`. -/
def assertTrustedPlanner (capability : OperationalEventCapability) (context : WorkspaceContext) :
    Except Failure OperationalActorKind := do
  capability.assertSource .AI_COO
  let actorKind ← capability.actorKindFor context
  let denied := acpTaskRunDenied "A bound Level-1 human or AI COO principal is required"
  -- The level is asked for only when the kind is right.
  throwIf (actorKind ≠ .HUMAN ∧ actorKind ≠ .AGENT) denied
  let level ← authorityLevelFor capability context
  throwIf (level.val < 1) denied
  return actorKind

/-- `assertTrustedControlPlane`. -/
def assertTrustedControlPlane (capability : OperationalEventCapability) (context : WorkspaceContext) :
    Except Failure OperationalActorKind := do
  capability.assertSource .CONTROL_PLANE
  let actorKind ← capability.actorKindFor context
  throwIf (actorKind = .RUNTIME)
    (acpTaskRunDenied "Runtime principals cannot mutate durable task/run state")
  return actorKind

/-! ## Operational events -/

/-- What an operation says in an event; its author adds the rest. -/
structure Notice where
  type : OperationalEventType
  subjectType : String
  subjectId : EntityId
  idempotencyKey : String
  correlationId : EntityId
  facts : Facts
  deriving DecidableEq, Repr

section Events

variable (dateParse : String → Option Int) (supply : Supply) (capability : OperationalEventCapability)
  (context : WorkspaceContext)

/-- `AuditService.recordOperationalEvent`. -/
def recordOperationalEvent (event : OperationalEvent) (relationalActorId : Option EntityId) :
    Tx Unit := do
  validateOperationalEvent dateParse capability context event
  throwIf (relationalActorId.any fun actor => event.actorKind ≠ .HUMAN || actor ≠ event.actorId)
    (plainError "Relational audit actor must match the authenticated human event actor")
  let id ← randomUUID supply
  let _ ← isoTime (← newDate supply)
  createAuditEvent
    { id := id
      workspaceReference := event.workspaceId
      actorId := relationalActorId
      actorReference := event.actorId
      source := event.source
      sourceEventId := event.id
      idempotencyKey := event.idempotencyKey
      action := event.type
      entityType := event.subjectType
      entityId := event.subjectId
      after := event.facts
      correlationId := event.correlationId
      actorKind := event.actorKind
      occurredAt := event.occurredAt }

/-- The operational event of a notice. -/
def Notice.event (notice : Notice) (source : EventSource) (actorKind : OperationalActorKind)
    (id : EntityId) (occurredAt : String) : OperationalEvent where
  id := id
  workspaceId := context.workspaceId
  type := notice.type
  source := source
  actorKind := actorKind
  actorId := context.principalId
  subjectType := notice.subjectType
  subjectId := notice.subjectId
  occurredAt := occurredAt
  idempotencyKey := notice.idempotencyKey
  correlationId := some notice.correlationId
  facts := notice.facts

/-- The time read before, or a new reading of the clock. -/
def timeOr (now : Option Int) : Tx Int :=
  match now with
  | some time => pure time
  | none => newDate supply

/-- Record the event of a notice, dated `now` or by a new reading of the clock. Humans are named as
relational actors. -/
def announce (source : EventSource) (actorKind : OperationalActorKind) (now : Option Int)
    (notice : Notice) : Tx Unit := do
  let id ← randomUUID supply
  let occurredAt ← isoTime (← timeOr supply now)
  recordOperationalEvent dateParse supply capability context
    (notice.event context source actorKind id occurredAt)
    (if actorKind = .HUMAN then some context.principalId else none)

end Events

/-! ## Replies -/

/-- A task with its dependencies and its runs. -/
structure TaskWithRuns where
  task : AcpTask
  dependencies : List AcpTaskDependency
  runs : List AcpRun

/-- An objective with its projects and tasks. -/
structure ObjectiveWithWork where
  objective : AcpObjective
  projects : List AcpProject
  tasks : List TaskWithRuns

/-- What `include: { projects, tasks: { dependencies, runs } }` adds to an objective. -/
def Database.withWork (db : Database) (objective : AcpObjective) : ObjectiveWithWork where
  objective := objective
  projects := db.acpProject.values.filter fun project =>
    project.workspaceId = objective.workspaceId ∧ project.objectiveId = objective.id
  tasks := (db.acpTask.values.filter fun task =>
      task.workspaceId = objective.workspaceId ∧ task.objectiveId = objective.id).map fun task =>
    ⟨task, db.dependenciesOf task, db.runsOf task⟩

/-- What an operation answers. -/
inductive Reply where
  /-- `createPlan`. -/
  | plan (objective : ObjectiveWithWork) (replayed : Bool)
  /-- `reserveAssignment`. -/
  | assignment (run : AcpRun) (replayed : Bool)
  /-- `recordArtifact`. -/
  | artifact (artifact : AcpArtifact) (replayed : Bool)
  /-- `startRun`. -/
  | start (run : AcpRun) (replayed : Bool)
  /-- `failRun`. -/
  | failure (run : AcpRun) (retryRunId : Option EntityId) (replayed : Bool)
  /-- `completeRun`. -/
  | completion (run : AcpRun) (replayed : Bool)

/-- `replayed`. -/
def Reply.replayed : Reply → Bool
  | .plan _ replayed => replayed
  | .assignment _ replayed => replayed
  | .artifact _ replayed => replayed
  | .start _ replayed => replayed
  | .failure _ _ replayed => replayed
  | .completion _ replayed => replayed

section Operations

variable (sha256 : String → String) (dateParse : String → Option Int) (supply : Supply)
  (capability : OperationalEventCapability) (context : WorkspaceContext)

/-! ## Plans -/

/-- The objective of a plan. -/
def newObjective (input : DurableObjectivePlanInput) (policyHash : String) : AcpObjective where
  id := input.objective.id
  workspaceId := input.workspaceId
  title := input.objective.title
  desiredOutcome := input.objective.desiredOutcome
  maximumAuthority := input.objective.maximumAuthority
  currency := input.objective.costLimit.currency
  maximumCostMinorUnits := input.objective.costLimit.maximumMinorUnits
  maximumComputeUnits := input.objective.costLimit.maximumComputeUnits
  acceptanceCriteria := input.objective.acceptanceCriteria
  verificationCriteria := input.objective.verificationCriteria
  stopConditions := input.objective.stopConditions
  policyVersion := input.policyVersion
  policyHash := policyHash
  idempotencyKey := input.idempotencyKey

/-- The status a task starts in. -/
def initialTaskStatus (task : DurableTaskPlanInput) : DurableTaskStatus :=
  if 0 < task.dependencyIds.length then .BLOCKED
  else if task.requiredAuthority = 4 then .AWAITING_APPROVAL
  else .READY

/-- The status its first run starts in. -/
def initialRunStatus (task : DurableTaskPlanInput) : DurableRunStatus :=
  if task.requiredAuthority = 4 then .AWAITING_APPROVAL else .PREPARED

/-- A task of a plan. -/
def newTask (input : DurableObjectivePlanInput) (task : DurableTaskPlanInput) : AcpTask :=
  let snapshot := buildDurableTaskPolicySnapshot input task
  { id := task.id
    workspaceId := input.workspaceId
    objectiveId := input.objective.id
    projectId := task.projectId
    title := task.title
    kind := task.kind
    status := initialTaskStatus task
    requiredAuthority := task.requiredAuthority
    currency := task.costLimit.currency
    maximumCostMinorUnits := task.costLimit.maximumMinorUnits
    maximumComputeUnits := task.costLimit.maximumComputeUnits
    estimatedDurationMs := task.estimatedDurationMs
    acceptanceCriteria := task.acceptanceCriteria
    verificationCriteria := task.verificationCriteria
    stopConditions := task.stopConditions
    maximumAttempts := task.retryPolicy.maximumAttempts
    retryableFailureCodes := task.retryPolicy.retryableFailureCodes
    stopAfterFailureCodes := task.retryPolicy.stopAfterFailureCodes
    agentPolicy := snapshot.task.agentPolicy
    routingPolicy := snapshot.task.routingPolicy
    exactTarget := task.approval.map (·.exactTarget)
    approvalActionCode := task.approval.map (·.actionCode)
    approvalArtifactVersion := task.approval.map (·.artifactVersionId)
    approvalEvidenceHash := task.approval.map (·.evidenceHash)
    policyVersion := input.policyVersion
    policyHash := hashDurablePolicy sha256 snapshot
    assignedAgentId := none
    assignedRuntimeId := none
    assignedConnectionId := none
    attempt := 0
    version := 1
    completedAt := none }

/-- The first run of a task of a plan. -/
def newRun (input : DurableObjectivePlanInput) (task : DurableTaskPlanInput) (runId : EntityId) :
    AcpRun where
  id := runId
  workspaceId := input.workspaceId
  objectiveId := input.objective.id
  taskId := task.id
  status := initialRunStatus task
  requiredAuthority := task.requiredAuthority
  policyVersion := input.policyVersion
  policyHash := hashDurablePolicy sha256 (buildDurableTaskPolicySnapshot input task)
  actionCode := task.approval.map (·.actionCode)
  exactTarget := task.approval.map (·.exactTarget)
  artifactVersionId := task.approval.map (·.artifactVersionId)
  evidenceHash := task.approval.map (·.evidenceHash)
  assignedAgentId := none
  assignedRuntimeId := none
  assignedConnectionId := none
  assignmentEvidenceId := none
  assignmentEvidenceHash := none
  assignmentIdempotencyKey := none
  attempt := 1
  version := 1
  idempotencyKey := input.idempotencyKey ++ ":run:" ++ task.id ++ ":1"
  startedAt := none
  completedAt := none

/-- `objective.created`. -/
def objectiveCreated (input : DurableObjectivePlanInput) : Notice where
  type := .objectiveCreated
  subjectType := "AcpObjective"
  subjectId := input.objective.id
  idempotencyKey := input.idempotencyKey ++ ":objective"
  correlationId := input.objective.id
  facts := [("titleLength", .integer (utf16Length input.objective.title))]

/-- `project.created`. -/
def projectCreated (input : DurableObjectivePlanInput) (project : DurableProjectInput) : Notice where
  type := .projectCreated
  subjectType := "AcpProject"
  subjectId := project.id
  idempotencyKey := input.idempotencyKey ++ ":project:" ++ project.id
  correlationId := input.objective.id
  facts := [("titleLength", .integer (utf16Length project.title))]

/-- `task.created`. -/
def taskCreated (input : DurableObjectivePlanInput) (task : DurableTaskPlanInput) : Notice where
  type := .taskCreated
  subjectType := "AcpTask"
  subjectId := task.id
  idempotencyKey := input.idempotencyKey ++ ":task:" ++ task.id
  correlationId := input.objective.id
  facts := [("titleLength", .integer (utf16Length task.title)), ("kind", .text task.kind),
    ("status", .text (initialTaskStatus task).code),
    ("requiredAuthorityLevel", .integer task.requiredAuthority)]

/-- `run.created`. -/
def runCreated (input : DurableObjectivePlanInput) (task : DurableTaskPlanInput) (runId : EntityId) :
    Notice where
  type := .runCreated
  subjectType := "AcpRun"
  subjectId := runId
  idempotencyKey := input.idempotencyKey ++ ":run-event:" ++ task.id
  correlationId := input.objective.id
  facts := [("taskId", .text task.id), ("status", .text (initialRunStatus task).code)]

/-- The loop body of `createPlan` for a project. -/
def insertProject (input : DurableObjectivePlanInput) (actorKind : OperationalActorKind)
    (project : DurableProjectInput) : Tx Unit := do
  createProject ⟨project.id, input.workspaceId, input.objective.id, project.title⟩
  announce dateParse supply capability context .AI_COO actorKind none
    (projectCreated input project)

/-- The loop body of `createPlan` for a task: the task, its first run, and an event for each. -/
def insertTask (input : DurableObjectivePlanInput) (actorKind : OperationalActorKind)
    (task : DurableTaskPlanInput) : Tx Unit := do
  let runId ← randomUUID supply
  createTask (newTask sha256 input task)
  createRun (newRun sha256 input task runId)
  announce dateParse supply capability context .AI_COO actorKind none
    (taskCreated input task)
  announce dateParse supply capability context .AI_COO actorKind none
    (runCreated input task runId)

/-- The dependencies of a plan, as rows. -/
def newDependencies (input : DurableObjectivePlanInput) : List AcpTaskDependency :=
  input.tasks.flatMap fun task =>
    task.dependencyIds.map fun dependsOnTaskId => ⟨input.workspaceId, task.id, dependsOnTaskId⟩

/-- The transaction of `createPlan`. -/
def insertPlan (input : DurableObjectivePlanInput) (actorKind : OperationalActorKind)
    (objectivePolicyHash : String) : Tx Reply := do
  let created := newObjective input objectivePolicyHash
  createObjective created
  announce dateParse supply capability context .AI_COO actorKind none
    (objectiveCreated input)
  forM input.projects (insertProject dateParse supply capability context input actorKind)
  forM input.tasks (insertTask sha256 dateParse supply capability context input actorKind)
  forM (newDependencies input) createDependency
  return .plan ((← read).withWork created) false

/-- `createPlan`. -/
def createPlan (input : DurableObjectivePlanInput) : Tx Reply := do
  validateDurableObjectivePlan input
  assertWorkspace context input.workspaceId
  let actorKind ← assertTrustedPlanner capability context
  let taskHashes := input.tasks.map fun task =>
    hashDurablePolicy sha256 (buildDurableTaskPolicySnapshot input task)
  let objectivePolicyHash ← hashDurablePlanPolicy sha256 input taskHashes
  let db ← read
  match db.acpObjective.values.find? fun objective =>
      objective.workspaceId = input.workspaceId ∧ objective.idempotencyKey = input.idempotencyKey with
  | some existing =>
    throwIf (existing.id ≠ input.objective.id ∨ existing.policyHash ≠ objectivePolicyHash)
      (acpTaskRunConflict "Plan idempotency key was reused with different work")
    return .plan (db.withWork existing) true
  | none =>
    tryCatch (insertPlan sha256 dateParse supply capability context input actorKind
        objectivePolicyHash) fun error =>
      throw (if error = uniqueViolation then
          acpTaskRunConflict "Plan IDs or idempotency keys collide with existing work"
        else error)

/-! ## Assignments -/

/-- What `reserveAssignment` writes into the run. -/
def assignedRun (evidence : TrustedAssignmentEvidence) (idempotencyKey : String) (run : AcpRun) :
    AcpRun :=
  { run with
    status := .ASSIGNED
    assignedAgentId := some evidence.agentId
    assignedRuntimeId := some evidence.runtimeId
    assignedConnectionId := some evidence.connectionId
    assignmentEvidenceId := some evidence.evidenceId
    assignmentEvidenceHash := some evidence.evidenceHash
    assignmentIdempotencyKey := some idempotencyKey
    version := run.version + 1 }

/-- What `reserveAssignment` writes into the task. -/
def assignedTask (evidence : TrustedAssignmentEvidence) (attempt : Int) (task : AcpTask) : AcpTask :=
  { task with
    status := .ASSIGNED
    assignedAgentId := some evidence.agentId
    assignedRuntimeId := some evidence.runtimeId
    assignedConnectionId := some evidence.connectionId
    attempt := attempt
    version := task.version + 1 }

/-- `task.assigned`. -/
def taskAssigned (evidence : TrustedAssignmentEvidence) (run : AcpRun) (idempotencyKey : String) :
    Notice where
  type := .taskAssigned
  subjectType := "AcpTask"
  subjectId := run.taskId
  idempotencyKey := idempotencyKey ++ ":event"
  correlationId := run.id
  facts := [("agentId", .text evidence.agentId), ("runtimeId", .text evidence.runtimeId),
    ("attempt", .integer run.attempt)]

/-- `reserveAssignment`. The verifier answers `verified`. -/
def reserveAssignment (evidence : TrustedAssignmentEvidence) (expectedVersion : Int)
    (idempotencyKey : String) (verified : Except Failure Bool) : Tx Reply := do
  let actorKind ← assertTrustedControlPlane capability context
  validateTrustedAssignmentEvidence evidence
  validateAcpApprovalReference idempotencyKey "idempotencyKey"
  match (← read).findRun context.workspaceId evidence.runId with
  | none => throw (acpTaskRunNotFound "ACP run not found")
  | some (run, task) =>
    let verified ← verified
    throwIf (verified = false)
      (acpTaskRunDenied "Trusted assignment evidence was not verified")
    throwIf (run.taskId ≠ evidence.taskId)
      (acpTaskRunDenied "Assignment evidence targets a different task")
    throwIf (run.requiredAuthority = 4)
      (acpTaskRunDenied "Level-4 runs require a claimed exact approval permit before assignment")
    if run.status = .ASSIGNED ∧ run.assignmentIdempotencyKey = some idempotencyKey then
      throwIf (run.assignedAgentId ≠ some evidence.agentId
          ∨ run.assignedRuntimeId ≠ some evidence.runtimeId
          ∨ run.assignedConnectionId ≠ some evidence.connectionId
          ∨ run.assignmentEvidenceId ≠ some evidence.evidenceId
          ∨ run.assignmentEvidenceHash ≠ some evidence.evidenceHash)
        (acpTaskRunConflict "Assignment idempotency key was reused")
      return .assignment run true
    else
      throwIf (run.version ≠ expectedVersion ∨ run.status ≠ .PREPARED ∨ task.status ≠ .READY)
        (acpTaskRunConflict "Run or task is no longer ready for assignment")
      let runChanged ← updateRuns context.workspaceId run.id expectedVersion .PREPARED
        (assignedRun evidence idempotencyKey)
      throwIf (runChanged ≠ 1) (acpTaskRunConflict "Run was assigned concurrently")
      let taskChanged ← updateTasks context.workspaceId run.taskId task.version .READY
        (assignedTask evidence run.attempt)
      throwIf (taskChanged ≠ 1) (acpTaskRunConflict "Task was assigned concurrently")
      let updated ← findRunOrThrow context.workspaceId run.id
      announce dateParse supply capability context .CONTROL_PLANE actorKind none
        (taskAssigned evidence run idempotencyKey)
      return .assignment updated false

/-! ## Artifacts -/

/-- The artifact of some evidence. -/
def newArtifact (evidence : TrustedArtifactEvidence) (run : AcpRun) (idempotencyKey : String) :
    AcpArtifact where
  id := evidence.artifactId
  workspaceId := context.workspaceId
  objectiveId := run.objectiveId
  taskId := run.taskId
  runId := run.id
  criterion := evidence.criterion
  kind := evidence.kind
  uriReference := evidence.uriReference
  contentHash := evidence.contentHash
  sourceEvidenceId := evidence.evidenceId
  evidenceHash := evidence.evidenceHash
  idempotencyKey := idempotencyKey

/-- `artifact.created`. -/
def artifactCreated (evidence : TrustedArtifactEvidence) (run : AcpRun) (idempotencyKey : String) :
    Notice where
  type := .artifactCreated
  subjectType := "AcpArtifact"
  subjectId := evidence.artifactId
  idempotencyKey := idempotencyKey ++ ":event"
  correlationId := run.id
  facts := [("taskId", .text run.taskId), ("runId", .text run.id), ("kind", .text evidence.kind)]

/-- The criteria an artifact can satisfy: `[...acceptanceCriteria, ...verificationCriteria]`. -/
def AcpTask.criteria (task : AcpTask) : List String :=
  task.acceptanceCriteria ++ task.verificationCriteria

/-- `recordArtifact`. The verifier answers `verified`. -/
def recordArtifact (evidence : TrustedArtifactEvidence) (idempotencyKey : String)
    (verified : Except Failure Bool) : Tx Reply := do
  let actorKind ← assertTrustedControlPlane capability context
  validateTrustedArtifactEvidence evidence
  validateAcpApprovalReference idempotencyKey "idempotencyKey"
  let verified ← verified
  throwIf (verified = false) (acpTaskRunDenied "Trusted artifact evidence was not verified")
  let db ← read
  match db.acpArtifact.values.find? fun artifact =>
      artifact.workspaceId = context.workspaceId ∧ artifact.idempotencyKey = idempotencyKey with
  | some replay =>
    throwIf (replay.id ≠ evidence.artifactId ∨ replay.runId ≠ evidence.runId
        ∨ replay.taskId ≠ evidence.taskId ∨ replay.kind ≠ evidence.kind
        ∨ replay.uriReference ≠ evidence.uriReference ∨ replay.contentHash ≠ evidence.contentHash
        ∨ replay.sourceEvidenceId ≠ evidence.evidenceId
        ∨ replay.evidenceHash ≠ evidence.evidenceHash ∨ replay.criterion ≠ evidence.criterion)
      (acpTaskRunConflict "Artifact idempotency key was reused")
    return .artifact replay true
  | none =>
    match db.findRun context.workspaceId evidence.runId with
    | none => throw (acpTaskRunNotFound "Bound ACP run/task not found")
    | some (run, task) =>
      throwIf (run.taskId ≠ evidence.taskId)
        (acpTaskRunNotFound "Bound ACP run/task not found")
      throwIf (run.status ≠ .ASSIGNED ∧ run.status ≠ .RUNNING)
        (acpTaskRunDenied "Artifacts require an active assigned run")
      throwIf (evidence.criterion ∉ task.criteria)
        (acpTaskRunDenied "Artifact does not satisfy a declared criterion")
      let artifact := newArtifact context evidence run idempotencyKey
      createArtifact artifact
      announce dateParse supply capability context .CONTROL_PLANE actorKind none
        (artifactCreated evidence run idempotencyKey)
      return .artifact artifact false

/-! ## Runs -/

/-- A change of a run's status, as a notice. -/
def runChange (type : OperationalEventType) (run : AcpRun) (next : DurableRunStatus)
    (idempotencyKey : String) : Notice where
  type := type
  subjectType := "AcpRun"
  subjectId := run.id
  idempotencyKey := idempotencyKey ++ ":run"
  correlationId := run.id
  facts := [("previousStatus", .text run.status.code), ("nextStatus", .text next.code), ("taskId", .text run.taskId)]

/-- What `startRun` writes into the run. -/
def startedRun (now : Int) (run : AcpRun) : AcpRun :=
  { run with status := .RUNNING, startedAt := some now, version := run.version + 1 }

/-- What `startRun` writes into the task. -/
def startedTask (task : AcpTask) : AcpTask :=
  { task with status := .RUNNING, version := task.version + 1 }

/-- `startRun`. -/
def startRun (runId : EntityId) (expectedVersion : Int) (idempotencyKey : String) : Tx Reply := do
  let actorKind ← assertTrustedControlPlane capability context
  validateAcpApprovalReference runId "runId"
  validateAcpApprovalReference idempotencyKey "idempotencyKey"
  let db ← read
  match db.findAuditEvent context.workspaceId .CONTROL_PLANE (idempotencyKey ++ ":run") with
  | some replay =>
    throwIf (replay.action ≠ .runStatusChanged ∨ replay.entityId ≠ runId)
      (acpTaskRunConflict "Run-start idempotency key was reused")
    return .start (← findRunOrThrow context.workspaceId runId) true
  | none =>
    match db.findRun context.workspaceId runId with
    | none => throw (acpTaskRunNotFound "ACP run not found")
    | some (run, task) =>
      throwIf (run.requiredAuthority = 4)
        (acpTaskRunDenied "Level-4 execution is not implemented by this service")
      throwIf (run.version ≠ expectedVersion ∨ run.status ≠ .ASSIGNED ∨ task.status ≠ .ASSIGNED)
        (acpTaskRunConflict "Run is not at the expected assigned version")
      let now ← newDate supply
      let runChanged ← updateRuns context.workspaceId run.id expectedVersion .ASSIGNED
        (startedRun now)
      throwIf (runChanged ≠ 1) (acpTaskRunConflict "Run was started concurrently")
      let taskChanged ← updateTasks context.workspaceId run.taskId task.version .ASSIGNED
        startedTask
      throwIf (taskChanged ≠ 1) (acpTaskRunConflict "Task was started concurrently")
      let started ← findRunOrThrow context.workspaceId run.id
      announce dateParse supply capability context .CONTROL_PLANE actorKind (some now)
        (runChange .runStatusChanged run .RUNNING idempotencyKey)
      return .start started false

/-! ## Failures -/

/-- What `failRun` writes into the run. -/
def failedRun (next : DurableRunStatus) (now : Int) (run : AcpRun) : AcpRun :=
  { run with status := next, completedAt := some now, version := run.version + 1 }

/-- What `failRun` writes into a task that is tried again. -/
def retriedTask (attempt : Int) (task : AcpTask) : AcpTask :=
  { task with
    status := .READY
    assignedAgentId := none
    assignedRuntimeId := none
    assignedConnectionId := none
    attempt := attempt
    version := task.version + 1 }

/-- What `failRun` writes into a task that is not tried again. -/
def failedTask (next : DurableTaskStatus) (now : Int) (task : AcpTask) : AcpTask :=
  { task with status := next, completedAt := some now, version := task.version + 1 }

/-- The run of the next attempt. -/
def retryRun (run : AcpRun) (retryRunId : EntityId) (idempotencyKey : String) : AcpRun where
  id := retryRunId
  workspaceId := context.workspaceId
  objectiveId := run.objectiveId
  taskId := run.taskId
  status := .PREPARED
  requiredAuthority := run.requiredAuthority
  policyVersion := run.policyVersion
  policyHash := run.policyHash
  actionCode := none
  exactTarget := none
  artifactVersionId := none
  evidenceHash := none
  assignedAgentId := none
  assignedRuntimeId := none
  assignedConnectionId := none
  assignmentEvidenceId := none
  assignmentEvidenceHash := none
  assignmentIdempotencyKey := none
  attempt := run.attempt + 1
  version := 1
  idempotencyKey := idempotencyKey ++ ":retry:" ++ toString (run.attempt + 1)
  startedAt := none
  completedAt := none

/-- What becomes of the task of a failed run, as a notice. -/
def taskFailure (type : OperationalEventType) (run : AcpRun) (failureCodeDigest : String)
    (attempt : Int) (correlationId : EntityId) (idempotencyKey : String) : Notice where
  type := type
  subjectType := "AcpTask"
  subjectId := run.taskId
  idempotencyKey := idempotencyKey ++ ":task"
  correlationId := correlationId
  facts := [("failureCodeDigest", .text failureCodeDigest), ("attempt", .integer attempt)]

/-- `failRun` after its checks: a stop code stops the task, a retryable one with attempts left prepares
another run, any other one fails the task. -/
def recordFailure (actorKind : OperationalActorKind) (run : AcpRun) (task : AcpTask)
    (expectedVersion : Int) (failureCode idempotencyKey : String) : Tx Reply := do
  let failureCodeDigest := sha256 failureCode
  let shouldStop : Bool := failureCode ∈ task.stopAfterFailureCodes
  let shouldRetry : Bool := !shouldStop && failureCode ∈ task.retryableFailureCodes
    && run.attempt < task.maximumAttempts
  let now ← newDate supply
  let nextRunStatus : DurableRunStatus := if shouldStop then .STOPPED else .FAILED
  let runChanged ← updateRuns context.workspaceId run.id expectedVersion run.status
    (failedRun nextRunStatus now)
  throwIf (runChanged ≠ 1) (acpTaskRunConflict "Run failed concurrently")
  let failed ← findRunOrThrow context.workspaceId run.id
  let retryRunId ←
    if shouldRetry then do
      let retryRunId ← randomUUID supply
      let changed ← updateTasks context.workspaceId run.taskId task.version task.status
        (retriedTask run.attempt)
      throwIf (changed ≠ 1) (acpTaskRunConflict "Task failed concurrently")
      createRun (retryRun context run retryRunId idempotencyKey)
      pure (some retryRunId)
    else do
      let changed ← updateTasks context.workspaceId run.taskId task.version task.status
        (failedTask (if shouldStop then .STOPPED else .FAILED) now)
      throwIf (changed ≠ 1) (acpTaskRunConflict "Task failed concurrently")
      pure none
  announce dateParse supply capability context .CONTROL_PLANE actorKind (some now)
    (runChange (if nextRunStatus = .FAILED then .runFailed else .runStatusChanged) run nextRunStatus
      idempotencyKey)
  announce dateParse supply capability context .CONTROL_PLANE actorKind (some now)
    (taskFailure
      (if shouldRetry then .taskRetryReady else if shouldStop then .taskStopped else .taskFailed) run
      failureCodeDigest (if shouldRetry then run.attempt + 1 else run.attempt)
      (retryRunId.getD run.id) idempotencyKey)
  return .failure failed retryRunId false

/-- `failRun`. -/
def failRun (runId : EntityId) (expectedVersion : Int) (failureCode idempotencyKey : String) :
    Tx Reply := do
  let actorKind ← assertTrustedControlPlane capability context
  validateAcpApprovalReference runId "runId"
  validateAcpApprovalReference failureCode "failureCode"
  validateAcpApprovalReference idempotencyKey "idempotencyKey"
  let failureCodeDigest := sha256 failureCode
  let db ← read
  match db.findAuditEvent context.workspaceId .CONTROL_PLANE (idempotencyKey ++ ":run") with
  | some replay =>
    let taskReplay := db.findAuditEvent context.workspaceId .CONTROL_PLANE
      (idempotencyKey ++ ":task")
    throwIf ((replay.action ≠ .runFailed ∧ replay.action ≠ .runStatusChanged)
        ∨ replay.entityId ≠ runId
        ∨ (taskReplay.bind fun row => row.after.lookup "failureCodeDigest")
          ≠ some (.text failureCodeDigest))
      (acpTaskRunConflict "Run-failure idempotency key was reused")
    return .failure (← findRunOrThrow context.workspaceId runId) none true
  | none =>
    match db.findRun context.workspaceId runId with
    | none => throw (acpTaskRunNotFound "ACP run not found")
    | some (run, task) =>
      throwIf (run.version ≠ expectedVersion
          ∨ (run.status ≠ .ASSIGNED ∧ run.status ≠ .RUNNING)
          ∨ (task.status ≠ .ASSIGNED ∧ task.status ≠ .RUNNING))
        (acpTaskRunConflict "Run is not at the expected active version")
      recordFailure sha256 dateParse supply capability context actorKind run task expectedVersion
        failureCode idempotencyKey

/-! ## Completions -/

/-- What `completeRun` writes into the run. -/
def completedRun (now : Int) (run : AcpRun) : AcpRun :=
  { run with status := .COMPLETED, completedAt := some now, version := run.version + 1 }

/-- What `completeRun` writes into the task. -/
def completedTask (now : Int) (task : AcpTask) : AcpTask :=
  { task with status := .COMPLETED, completedAt := some now, version := task.version + 1 }

/-- `task.completed`. -/
def taskCompleted (run : AcpRun) (artifactIds : List EntityId) (idempotencyKey : String) :
    Notice where
  type := .taskCompleted
  subjectType := "AcpTask"
  subjectId := run.taskId
  idempotencyKey := idempotencyKey ++ ":task"
  correlationId := run.id
  facts := [("artifactIds", .list artifactIds)]

/-- The status a task is released to. -/
def releasedStatus (task : AcpTask) : DurableTaskStatus :=
  if task.requiredAuthority = 4 then .AWAITING_APPROVAL else .READY

/-- What `completeRun` writes into a task it releases. -/
def releasedTask (task : AcpTask) : AcpTask :=
  { task with status := releasedStatus task, version := task.version + 1 }

/-- `task.ready`. -/
def taskReady (task : AcpTask) (dependencyIds : List EntityId) (objectiveId : EntityId)
    (idempotencyKey : String) : Notice where
  type := .taskReady
  subjectType := "AcpTask"
  subjectId := task.id
  idempotencyKey := idempotencyKey ++ ":ready:" ++ task.id
  correlationId := objectiveId
  facts := [("dependencyIds", .list dependencyIds)]

/-- A task that the completion of its last dependency releases. -/
def Database.Releasable (db : Database) (task : AcpTask) : Prop :=
  task.status = .BLOCKED ∧ ∀ dependency ∈ db.dependenciesOf task, db.IsCompleted dependency

instance (db : Database) (task : AcpTask) : Decidable (db.Releasable task) :=
  inferInstanceAs (Decidable (_ ∧ _))

/-- The loop body of `completeRun` for a task that depends on the completed one. -/
def releaseDependent (actorKind : OperationalActorKind) (run : AcpRun) (now : Int)
    (idempotencyKey : String) (dependent : AcpTaskDependency) : Tx Unit := do
  let db ← read
  match db.acpTask.get? (key context.workspaceId dependent.taskId) with
  | none => pure ()
  | some blocked =>
    if db.Releasable blocked then do
      updateTask context.workspaceId blocked.id releasedTask
      announce dateParse supply capability context .CONTROL_PLANE actorKind (some now)
        (taskReady blocked
          (Coo.sortTexts ((db.dependenciesOf blocked).map AcpTaskDependency.dependsOnTaskId))
          run.objectiveId idempotencyKey)
    else pure ()

/-- `completeRun` after its checks. -/
def recordCompletion (actorKind : OperationalActorKind) (run : AcpRun) (task : AcpTask)
    (artifacts : List AcpArtifact) (expectedVersion : Int) (idempotencyKey : String) : Tx Reply := do
  let now ← newDate supply
  let runChanged ← updateRuns context.workspaceId run.id expectedVersion .RUNNING (completedRun now)
  throwIf (runChanged ≠ 1) (acpTaskRunConflict "Run completed concurrently")
  let taskChanged ← updateTasks context.workspaceId run.taskId task.version .RUNNING
    (completedTask now)
  throwIf (taskChanged ≠ 1) (acpTaskRunConflict "Task completed concurrently")
  let completed ← findRunOrThrow context.workspaceId run.id
  let artifactIds := Coo.sortTexts (artifacts.map AcpArtifact.id)
  announce dateParse supply capability context .CONTROL_PLANE actorKind (some now)
    (runChange .runCompleted run .COMPLETED idempotencyKey)
  announce dateParse supply capability context .CONTROL_PLANE actorKind (some now)
    (taskCompleted run artifactIds idempotencyKey)
  let dependents := (← read).dependentsOf context.workspaceId run.taskId
  forM dependents
    (releaseDependent dateParse supply capability context actorKind run now idempotencyKey)
  return .completion completed false

/-- `completeRun`. -/
def completeRun (runId : EntityId) (expectedVersion : Int) (idempotencyKey : String) :
    Tx Reply := do
  let actorKind ← assertTrustedControlPlane capability context
  validateAcpApprovalReference runId "runId"
  validateAcpApprovalReference idempotencyKey "idempotencyKey"
  let db ← read
  match db.findAuditEvent context.workspaceId .CONTROL_PLANE (idempotencyKey ++ ":run") with
  | some replay =>
    throwIf (replay.action ≠ .runCompleted ∨ replay.entityId ≠ runId)
      (acpTaskRunConflict "Run-completion idempotency key was reused")
    return .completion (← findRunOrThrow context.workspaceId runId) true
  | none =>
    match db.findRun context.workspaceId runId with
    | none => throw (acpTaskRunNotFound "ACP run not found")
    | some (run, task) =>
      throwIf (run.version ≠ expectedVersion ∨ run.status ≠ .RUNNING ∨ task.status ≠ .RUNNING)
        (acpTaskRunConflict "Run is not at the expected running version")
      let artifacts := db.artifactsOf run
      throwIf (∃ criterion ∈ task.criteria, criterion ∉ artifacts.map AcpArtifact.criterion)
        (acpTaskRunDenied "Run lacks trusted artifact evidence for every acceptance and verification criterion")
      recordCompletion dateParse supply capability context actorKind run task artifacts
        expectedVersion idempotencyKey

end Operations

/-! ## Calls and runs of the service -/

/-- The calls of the service with their arguments, and what the verifiers answer. -/
inductive Call where
  | createPlan (input : DurableObjectivePlanInput)
  | reserveAssignment (evidence : TrustedAssignmentEvidence) (expectedVersion : Int)
      (idempotencyKey : String) (verified : Except Failure Bool)
  | recordArtifact (evidence : TrustedArtifactEvidence) (idempotencyKey : String)
      (verified : Except Failure Bool)
  | startRun (runId : EntityId) (expectedVersion : Int) (idempotencyKey : String)
  | failRun (runId : EntityId) (expectedVersion : Int) (failureCode idempotencyKey : String)
  | completeRun (runId : EntityId) (expectedVersion : Int) (idempotencyKey : String)

/-- The idempotency key of a call. -/
def Call.idempotencyKey : Call → String
  | .createPlan input => input.idempotencyKey
  | .reserveAssignment _ _ idempotencyKey _ => idempotencyKey
  | .recordArtifact _ idempotencyKey _ => idempotencyKey
  | .startRun _ _ idempotencyKey => idempotencyKey
  | .failRun _ _ _ idempotencyKey => idempotencyKey
  | .completeRun _ _ idempotencyKey => idempotencyKey

/-- A call with all it is given. -/
structure Label where
  capability : OperationalEventCapability
  context : WorkspaceContext
  supply : Supply
  call : Call

section Runs

variable (sha256 : String → String) (dateParse : String → Option Int)

/-- The transaction of a call. -/
def perform (l : Label) : Tx Reply :=
  match l.call with
  | .createPlan input => createPlan sha256 dateParse l.supply l.capability l.context input
  | .reserveAssignment evidence expectedVersion idempotencyKey verified =>
    reserveAssignment dateParse l.supply l.capability l.context evidence expectedVersion
      idempotencyKey verified
  | .recordArtifact evidence idempotencyKey verified =>
    recordArtifact dateParse l.supply l.capability l.context evidence idempotencyKey verified
  | .startRun runId expectedVersion idempotencyKey =>
    startRun dateParse l.supply l.capability l.context runId expectedVersion idempotencyKey
  | .failRun runId expectedVersion failureCode idempotencyKey =>
    failRun sha256 dateParse l.supply l.capability l.context runId expectedVersion failureCode
      idempotencyKey
  | .completeRun runId expectedVersion idempotencyKey =>
    completeRun dateParse l.supply l.capability l.context runId expectedVersion idempotencyKey

/-- One call: committed, or as if it had not been made. -/
def step (l : Label) (db : Database) : Except Failure Reply × Database :=
  let result := (perform sha256 dateParse l).commit ⟨db, 0, 0⟩
  (result.1, result.2.database)

/-- The database after a list of calls. -/
def after (ls : List Label) : Database := run (step sha256 dateParse) Database.empty ls

/-- The steps a list of calls makes. -/
def steps (ls : List Label) : List (Entry Label (Except Failure Reply) Database) :=
  history (step sha256 dateParse) Database.empty ls

end Runs

end VentureOS.Durable
