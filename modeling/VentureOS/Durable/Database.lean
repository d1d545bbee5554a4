import VentureOS.Foundations.Transaction
import VentureOS.Durable.Policy

/-! # The database of the durable spine

The tables that the task and run service reads and writes, with the constraints its writes can run into:
primary keys, unique indexes, the index of one active run per task and the transition triggers. A statement
is a transaction on a `Session`: the database as the statements before it left it, and how many identifiers
and clock readings they have used.

A query without an order lists rows in the order of their insertion. Workspaces are the same when their
identifiers are the same text. -/

namespace VentureOS.Durable

open ControlPlane Transaction

/-! ## Rows -/

/-- `AcpObjective`. -/
structure AcpObjective where
  id : EntityId
  workspaceId : EntityId
  title : String
  desiredOutcome : String
  maximumAuthority : Int
  currency : String
  maximumCostMinorUnits : Int
  maximumComputeUnits : Int
  acceptanceCriteria : List String
  verificationCriteria : List String
  stopConditions : List String
  policyVersion : String
  policyHash : String
  idempotencyKey : String
  deriving DecidableEq, Repr

/-- `AcpProject`. -/
structure AcpProject where
  id : EntityId
  workspaceId : EntityId
  objectiveId : EntityId
  title : String
  deriving DecidableEq, Repr

/-- `AcpTask`. -/
structure AcpTask where
  id : EntityId
  workspaceId : EntityId
  objectiveId : EntityId
  projectId : EntityId
  title : String
  kind : String
  status : DurableTaskStatus
  requiredAuthority : Int
  currency : String
  maximumCostMinorUnits : Int
  maximumComputeUnits : Int
  estimatedDurationMs : Int
  acceptanceCriteria : List String
  verificationCriteria : List String
  stopConditions : List String
  maximumAttempts : Int
  retryableFailureCodes : List String
  stopAfterFailureCodes : List String
  agentPolicy : JsonRecord
  routingPolicy : JsonRecord
  exactTarget : Option String
  approvalActionCode : Option String
  approvalArtifactVersion : Option String
  approvalEvidenceHash : Option String
  policyVersion : String
  policyHash : String
  assignedAgentId : Option EntityId
  assignedRuntimeId : Option EntityId
  assignedConnectionId : Option EntityId
  attempt : Int
  version : Int
  completedAt : Option Int

/-- `AcpTaskDependency`. -/
structure AcpTaskDependency where
  workspaceId : EntityId
  taskId : EntityId
  dependsOnTaskId : EntityId
  deriving DecidableEq, Repr

/-- `AcpRun`. -/
structure AcpRun where
  id : EntityId
  workspaceId : EntityId
  objectiveId : EntityId
  taskId : EntityId
  status : DurableRunStatus
  requiredAuthority : Int
  policyVersion : String
  policyHash : String
  actionCode : Option String
  exactTarget : Option String
  artifactVersionId : Option String
  evidenceHash : Option String
  assignedAgentId : Option EntityId
  assignedRuntimeId : Option EntityId
  assignedConnectionId : Option EntityId
  assignmentEvidenceId : Option EntityId
  assignmentEvidenceHash : Option String
  assignmentIdempotencyKey : Option String
  attempt : Int
  version : Int
  idempotencyKey : String
  startedAt : Option Int
  completedAt : Option Int
  deriving DecidableEq, Repr

/-- `AcpArtifact`. -/
structure AcpArtifact where
  id : EntityId
  workspaceId : EntityId
  objectiveId : EntityId
  taskId : EntityId
  runId : EntityId
  criterion : String
  kind : String
  uriReference : String
  contentHash : String
  sourceEvidenceId : EntityId
  evidenceHash : String
  idempotencyKey : String
  deriving DecidableEq, Repr

/-- `AuditEvent`, as far as an operational event fills it. -/
structure AuditEvent where
  id : EntityId
  workspaceReference : EntityId
  actorId : Option EntityId
  actorReference : EntityId
  source : EventSource
  sourceEventId : EntityId
  idempotencyKey : String
  action : OperationalEventType
  entityType : String
  entityId : EntityId
  after : Facts
  correlationId : Option EntityId
  actorKind : OperationalActorKind
  occurredAt : String
  deriving DecidableEq, Repr

instance : HasKey Key AcpObjective := ⟨fun o => key o.workspaceId o.id⟩
instance : HasKey Key AcpProject := ⟨fun p => key p.workspaceId p.id⟩
instance : HasKey Key AcpTask := ⟨fun t => key t.workspaceId t.id⟩
instance : HasKey Key AcpRun := ⟨fun r => key r.workspaceId r.id⟩
instance : HasKey Key AcpArtifact := ⟨fun a => key a.workspaceId a.id⟩

@[simp] theorem keyOf_task (t : AcpTask) : keyOf t = key t.workspaceId t.id := rfl
@[simp] theorem keyOf_run (r : AcpRun) : keyOf r = key r.workspaceId r.id := rfl

/-- The tables. -/
structure Database where
  acpObjective : Store Key AcpObjective
  acpProject : Store Key AcpProject
  acpTask : Store Key AcpTask
  acpTaskDependency : List AcpTaskDependency
  acpRun : Store Key AcpRun
  acpArtifact : Store Key AcpArtifact
  auditEvent : List AuditEvent

namespace Database

/-- The tables without rows. -/
def empty : Database := ⟨.empty, .empty, .empty, [], .empty, .empty, []⟩

/-! ## Queries -/

/-- The runs of a task, in the order of their creation. -/
def runsOf (db : Database) (task : AcpTask) : List AcpRun :=
  db.acpRun.values.filter fun run => run.workspaceId = task.workspaceId ∧ run.taskId = task.id

/-- `task.dependencies`. -/
def dependenciesOf (db : Database) (task : AcpTask) : List AcpTaskDependency :=
  db.acpTaskDependency.filter fun dependency =>
    dependency.workspaceId = task.workspaceId ∧ dependency.taskId = task.id

/-- The dependencies on a task. -/
def dependentsOf (db : Database) (workspaceId taskId : EntityId) : List AcpTaskDependency :=
  db.acpTaskDependency.filter fun dependency =>
    dependency.workspaceId = workspaceId ∧ dependency.dependsOnTaskId = taskId

/-- `run.artifacts`. -/
def artifactsOf (db : Database) (run : AcpRun) : List AcpArtifact :=
  db.acpArtifact.values.filter fun artifact =>
    artifact.workspaceId = run.workspaceId ∧ artifact.runId = run.id

/-- `dependency.dependsOn.status === 'COMPLETED'`. -/
def IsCompleted (db : Database) (dependency : AcpTaskDependency) : Prop :=
  ∃ task, db.acpTask.get? (key dependency.workspaceId dependency.dependsOnTaskId) = some task
    ∧ task.status = .COMPLETED

instance (db : Database) (dependency : AcpTaskDependency) : Decidable (db.IsCompleted dependency) :=
  decidable_of_iff ((db.acpTask.get? (key dependency.workspaceId dependency.dependsOnTaskId)).any
    fun task => task.status = .COMPLETED) (by simp [IsCompleted, Option.any_eq_true])

/-- A run with its task: by its foreign key a run has one. -/
def findRun (db : Database) (workspaceId id : EntityId) : Option (AcpRun × AcpTask) := do
  let run ← db.acpRun.get? (key workspaceId id)
  let task ← db.acpTask.get? (key run.workspaceId run.taskId)
  return (run, task)

/-- The audit row of a source under an idempotency key. -/
def findAuditEvent (db : Database) (workspaceReference : EntityId) (source : EventSource)
    (idempotencyKey : String) : Option AuditEvent :=
  db.auditEvent.find? fun row => row.workspaceReference = workspaceReference ∧ row.source = source
    ∧ row.idempotencyKey = idempotencyKey

end Database

/-! ## Sessions -/

/-- What the environment gives one call: the values of `randomUUID()` and of the clock, in order. -/
structure Supply where
  uuid : Nat → EntityId
  now : Nat → Int

/-- A transaction in progress. -/
structure Session where
  database : Database
  /-- The identifiers drawn so far. -/
  drawn : Nat
  /-- The clock readings taken so far. -/
  ticks : Nat

/-- Statements of a transaction. -/
abbrev Tx (α : Type) := Transaction Failure Session α

/-- `randomUUID()`. -/
def randomUUID (supply : Supply) : Tx EntityId := do
  let session ← get
  set { session with drawn := session.drawn + 1 }
  return supply.uuid session.drawn

/-- `new Date()`. -/
def newDate (supply : Supply) : Tx Int := do
  let session ← get
  set { session with ticks := session.ticks + 1 }
  return supply.now session.ticks

/-- The database as a query sees it. -/
def read : Tx Database := do
  return (← get).database

/-- Change the database. -/
def write (f : Database → Database) : Tx Unit :=
  modify fun session => { session with database := f session.database }

/-- `P2002`: a unique constraint failed. -/
def uniqueViolation : Failure := ⟨.databaseConstraint, "Unique constraint failed"⟩

/-- `P2025`: the row to update does not exist. -/
def recordNotFound : Failure := ⟨.databaseConstraint, "Record to update not found"⟩

/-- An exception that a trigger raises. -/
def triggerException (message : String) : Failure := ⟨.databaseConstraint, message⟩

/-! ## Inserting rows -/

/-- `tx.acpObjective.create`. -/
def createObjective (row : AcpObjective) : Tx Unit := do
  let db ← read
  throwIf (db.acpObjective.has (keyOf row) = true
      ∨ ∃ other ∈ db.acpObjective.values, other.workspaceId = row.workspaceId
        ∧ other.idempotencyKey = row.idempotencyKey)
    uniqueViolation
  write fun db => { db with acpObjective := db.acpObjective.put row }

/-- `tx.acpProject.create`. -/
def createProject (row : AcpProject) : Tx Unit := do
  let db ← read
  throwIf (db.acpProject.has (keyOf row) = true) uniqueViolation
  write fun db => { db with acpProject := db.acpProject.put row }

/-- `tx.acpTask.create`. -/
def createTask (row : AcpTask) : Tx Unit := do
  let db ← read
  throwIf (db.acpTask.has (keyOf row) = true) uniqueViolation
  write fun db => { db with acpTask := db.acpTask.put row }

/-- `tx.acpTaskDependency.createMany` of one row. -/
def createDependency (row : AcpTaskDependency) : Tx Unit := do
  let db ← read
  throwIf (∃ other ∈ db.acpTaskDependency, other = row) uniqueViolation
  write fun db => { db with acpTaskDependency := db.acpTaskDependency ++ [row] }

/-- `tx.acpRun.create`, for a run without an assignment. -/
def createRun (row : AcpRun) : Tx Unit := do
  let db ← read
  throwIf (db.acpRun.has (keyOf row) = true
      ∨ ∃ other ∈ db.acpRun.values, other.workspaceId = row.workspaceId
        ∧ (other.idempotencyKey = row.idempotencyKey
          -- `acp_runs_one_active_per_task_idx`.
          ∨ (other.taskId = row.taskId ∧ ¬ other.status.Terminal ∧ ¬ row.status.Terminal)))
    uniqueViolation
  write fun db => { db with acpRun := db.acpRun.put row }

/-- `tx.acpArtifact.create`. -/
def createArtifact (row : AcpArtifact) : Tx Unit := do
  let db ← read
  throwIf (db.acpArtifact.has (keyOf row) = true
      ∨ ∃ other ∈ db.acpArtifact.values, other.workspaceId = row.workspaceId
        ∧ (other.idempotencyKey = row.idempotencyKey ∨ (other.runId = row.runId ∧ other.criterion = row.criterion)))
    uniqueViolation
  write fun db => { db with acpArtifact := db.acpArtifact.put row }

/-- `client.auditEvent.create`. -/
def createAuditEvent (row : AuditEvent) : Tx Unit := do
  let db ← read
  throwIf (∃ other ∈ db.auditEvent, other.id = row.id
      ∨ (other.workspaceReference = row.workspaceReference ∧ other.source = row.source
        ∧ (other.sourceEventId = row.sourceEventId ∨ other.idempotencyKey = row.idempotencyKey)))
    uniqueViolation
  write fun db => { db with auditEvent := db.auditEvent ++ [row] }

/-! ## Updating rows -/

/-- `ventureos_acp_task_transition_guard`. -/
def taskTransitionGuard (old new : DurableTaskStatus) : Bool :=
  old = new
    || (old = .BLOCKED && (new = .READY || new = .AWAITING_APPROVAL || new = .STOPPED))
    || (old = .READY && (new = .ASSIGNED || new = .STOPPED))
    || (old = .AWAITING_APPROVAL && new = .STOPPED)
    || (old = .ASSIGNED && (new = .READY || new = .RUNNING || new = .FAILED || new = .STOPPED))
    || (old = .RUNNING && (new = .READY || new = .COMPLETED || new = .FAILED || new = .STOPPED))

/-- The transitions that `ventureos_acp_run_guard` admits. -/
def runTransitionGuard (old new : DurableRunStatus) : Bool :=
  (old = .PREPARED && (new = .ASSIGNED || new = .STOPPED))
    || (old = .AWAITING_APPROVAL && new = .STOPPED)
    || (old = .ASSIGNED && (new = .RUNNING || new = .FAILED || new = .STOPPED))
    || (old = .RUNNING && (new = .COMPLETED || new = .FAILED || new = .STOPPED))

/-- Write the new content of a task, which keeps its key. -/
def storeTask (old new : AcpTask) : Tx Unit := do
  throwIf (taskTransitionGuard old.status new.status = false)
    (triggerException "Illegal ACP task state transition")
  write fun db => { db with acpTask := db.acpTask.put new }

/-- Write the new content of a run, which keeps its key. -/
def storeRun (old new : AcpRun) : Tx Unit := do
  let db ← read
  throwIf (runTransitionGuard old.status new.status = false)
    (triggerException "Illegal ACP run state transition")
  throwIf (new.assignmentIdempotencyKey ≠ old.assignmentIdempotencyKey
      ∧ ∃ other ∈ db.acpRun.values, other.workspaceId = new.workspaceId ∧ keyOf other ≠ keyOf new
        ∧ new.assignmentIdempotencyKey.isSome = true
        ∧ other.assignmentIdempotencyKey = new.assignmentIdempotencyKey)
    uniqueViolation
  write fun db => { db with acpRun := db.acpRun.put new }

/-- `tx.acpTask.updateMany` on one task at a version and in a status: the number of rows changed. -/
def updateTasks (workspaceId id : EntityId) (version : Int) (status : DurableTaskStatus)
    (data : AcpTask → AcpTask) : Tx Nat := do
  match (← read).acpTask.get? (key workspaceId id) with
  | some task =>
    if task.version = version ∧ task.status = status then
      storeTask task (data task)
      return 1
    else return 0
  | none => return 0

/-- `tx.acpTask.update`. -/
def updateTask (workspaceId id : EntityId) (data : AcpTask → AcpTask) : Tx Unit := do
  match (← read).acpTask.get? (key workspaceId id) with
  | some task => storeTask task (data task)
  | none => throw recordNotFound

/-- `tx.acpRun.updateMany` on one run at a version and in a status: the number of rows changed. -/
def updateRuns (workspaceId id : EntityId) (version : Int) (status : DurableRunStatus)
    (data : AcpRun → AcpRun) : Tx Nat := do
  match (← read).acpRun.get? (key workspaceId id) with
  | some run =>
    if run.version = version ∧ run.status = status then
      storeRun run (data run)
      return 1
    else return 0
  | none => return 0

/-- `tx.acpRun.findUniqueOrThrow`. -/
def findRunOrThrow (workspaceId id : EntityId) : Tx AcpRun := do
  match (← read).acpRun.get? (key workspaceId id) with
  | some run => return run
  | none => throw recordNotFound

end VentureOS.Durable
