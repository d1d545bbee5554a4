import VentureOS.ControlPlane.Operations

/-! # Contracts of the durable task and run spine

The types of `task-run-policy.ts`: the statuses of durable tasks and runs with their transition tables, the
plan a planner hands in, and the evidence a trusted port vouches for. Numbers are integers, objects and
arrays have the shape of their type; a task kind is the text the plan names, since the validator looks it
up in an object. -/

namespace VentureOS.Durable

open ControlPlane

/-! ## Statuses -/

/-- `DurableTaskStatus`. -/
inductive DurableTaskStatus where
  | BLOCKED
  | READY
  | AWAITING_APPROVAL
  | ASSIGNED
  | RUNNING
  | COMPLETED
  | FAILED
  | STOPPED
  deriving DecidableEq, Repr

/-- The task status as a string. -/
def DurableTaskStatus.code : DurableTaskStatus → String
  | .BLOCKED => "BLOCKED"
  | .READY => "READY"
  | .AWAITING_APPROVAL => "AWAITING_APPROVAL"
  | .ASSIGNED => "ASSIGNED"
  | .RUNNING => "RUNNING"
  | .COMPLETED => "COMPLETED"
  | .FAILED => "FAILED"
  | .STOPPED => "STOPPED"

/-- `DurableRunStatus`. -/
inductive DurableRunStatus where
  | PREPARED
  | AWAITING_APPROVAL
  | ASSIGNED
  | RUNNING
  | COMPLETED
  | FAILED
  | STOPPED
  deriving DecidableEq, Repr

/-- The run status as a string. -/
def DurableRunStatus.code : DurableRunStatus → String
  | .PREPARED => "PREPARED"
  | .AWAITING_APPROVAL => "AWAITING_APPROVAL"
  | .ASSIGNED => "ASSIGNED"
  | .RUNNING => "RUNNING"
  | .COMPLETED => "COMPLETED"
  | .FAILED => "FAILED"
  | .STOPPED => "STOPPED"

/-- `DURABLE_TASK_TRANSITIONS`. -/
def durableTaskTransitions : DurableTaskStatus → List DurableTaskStatus
  | .BLOCKED => [.READY, .AWAITING_APPROVAL, .STOPPED]
  | .READY => [.ASSIGNED, .STOPPED]
  | .AWAITING_APPROVAL => [.STOPPED]
  | .ASSIGNED => [.READY, .RUNNING, .FAILED, .STOPPED]
  | .RUNNING => [.READY, .COMPLETED, .FAILED, .STOPPED]
  | .COMPLETED => []
  | .FAILED => []
  | .STOPPED => []

/-- `DURABLE_RUN_TRANSITIONS`. -/
def durableRunTransitions : DurableRunStatus → List DurableRunStatus
  | .PREPARED => [.ASSIGNED, .STOPPED]
  | .AWAITING_APPROVAL => [.STOPPED]
  | .ASSIGNED => [.RUNNING, .FAILED, .STOPPED]
  | .RUNNING => [.COMPLETED, .FAILED, .STOPPED]
  | .COMPLETED => []
  | .FAILED => []
  | .STOPPED => []

/-- No transition leaves the status. -/
def DurableTaskStatus.Terminal (status : DurableTaskStatus) : Prop := durableTaskTransitions status = []

instance (status : DurableTaskStatus) : Decidable status.Terminal :=
  inferInstanceAs (Decidable (_ = _))

/-- No transition leaves the status. -/
def DurableRunStatus.Terminal (status : DurableRunStatus) : Prop := durableRunTransitions status = []

instance (status : DurableRunStatus) : Decidable status.Terminal :=
  inferInstanceAs (Decidable (_ = _))

/-! ## Plans -/

/-- `DurableApprovalPreparation`. -/
structure DurableApprovalPreparation where
  actionCode : String
  exactTarget : String
  artifactVersionId : String
  evidenceHash : String
  deriving DecidableEq, Repr

/-- The retry policy of a task. -/
structure RetryPolicy where
  maximumAttempts : Int
  retryableFailureCodes : List String
  stopAfterFailureCodes : List String
  deriving DecidableEq, Repr

/-- `DurableTaskPlanInput`. -/
structure DurableTaskPlanInput where
  id : EntityId
  projectId : EntityId
  title : String
  kind : String
  dependencyIds : List EntityId
  requiredAuthority : Int
  costLimit : CostLimit
  estimatedDurationMs : Int
  acceptanceCriteria : List String
  verificationCriteria : List String
  stopConditions : List String
  retryPolicy : RetryPolicy
  agentPolicy : JsonRecord
  routingPolicy : JsonRecord
  approval : Option DurableApprovalPreparation

/-- The objective of a plan. -/
structure DurableObjectiveInput where
  id : EntityId
  title : String
  desiredOutcome : String
  maximumAuthority : Int
  costLimit : CostLimit
  acceptanceCriteria : List String
  verificationCriteria : List String
  stopConditions : List String
  deriving DecidableEq, Repr

/-- A project of a plan. -/
structure DurableProjectInput where
  id : EntityId
  title : String
  deriving DecidableEq, Repr

/-- `DurableObjectivePlanInput`. -/
structure DurableObjectivePlanInput where
  workspaceId : EntityId
  idempotencyKey : String
  policyVersion : String
  objective : DurableObjectiveInput
  projects : List DurableProjectInput
  tasks : List DurableTaskPlanInput

/-! ## Evidence -/

/-- `TrustedAssignmentEvidence`. -/
structure TrustedAssignmentEvidence where
  evidenceId : EntityId
  evidenceHash : String
  taskId : EntityId
  runId : EntityId
  agentId : EntityId
  runtimeId : EntityId
  connectionId : EntityId
  deriving DecidableEq, Repr

/-- `TrustedArtifactEvidence`. -/
structure TrustedArtifactEvidence where
  evidenceId : EntityId
  evidenceHash : String
  taskId : EntityId
  runId : EntityId
  artifactId : EntityId
  criterion : String
  kind : String
  uriReference : String
  contentHash : String
  deriving DecidableEq, Repr

/-! ## Errors -/

/-- `new DurableTaskRunPolicyError(message)`. -/
def durableTaskRunPolicyError (message : String) : Failure := ⟨.durableTaskRunPolicy, message⟩

/-- `new AcpApprovalPolicyError(message)`. -/
def acpApprovalPolicyError (message : String) : Failure := ⟨.acpApprovalPolicy, message⟩

/-- `new AcpTaskRunDeniedError(message)`. -/
def acpTaskRunDenied (message : String) : Failure := ⟨.acpTaskRunDenied, message⟩

/-- `new AcpTaskRunConflictError(message)`. -/
def acpTaskRunConflict (message : String) : Failure := ⟨.acpTaskRunConflict, message⟩

/-- `new Error(message)`. -/
def plainError (message : String) : Failure := ⟨.plainError, message⟩

/-- `new AcpTaskRunNotFoundError(message)`. -/
def acpTaskRunNotFound (message : String) : Failure := ⟨.acpTaskRunNotFound, message⟩

end VentureOS.Durable
