import VentureOS.Durable.Service
import VentureOS.Finance.Outcomes

/-! # The cost ledger

`cost-governance.ts` and `acp-cost-governance.service.ts`: recognized usage is entered into a ledger when one
policy of the workspace and one policy of the task govern the time of its receipt and leave room for it. Each
call is one serializable transaction, in which a trigger checks the entry again. Policies and task limits are
fixed; receipts and usages are rows that others write, and a call is given those that it finds. A period or a
time stands in a binding as its ISO text, which is read back as the same time, so bindings have the times. -/

namespace VentureOS.Governance

open ControlPlane Durable

def costGovernancePolicyError (message : String) : Failure := ⟨.costGovernancePolicy, message⟩
def acpCostGovernanceDenied (message : String) : Failure := ⟨.acpCostGovernanceDenied, message⟩

/-! ## Rows -/

/-- The scopes of a policy. -/
inductive BudgetScope where
  | WORKSPACE
  | TASK
  deriving DecidableEq, Repr

def BudgetScope.text : BudgetScope → String
  | .WORKSPACE => "WORKSPACE"
  | .TASK => "TASK"

/-- A row of `acp_cost_budget_policies`. -/
structure AcpCostBudgetPolicy where
  id : EntityId
  workspaceId : EntityId
  taskId : Option EntityId
  scope : BudgetScope
  currency : String
  limitMinorUnits : Int
  periodStart : Int
  periodEnd : Int
  policyVersion : String
  policyHash : String
  hasScope : (scope = .WORKSPACE ∧ taskId = none) ∨ (scope = .TASK ∧ taskId ≠ none)
  bounded : 0 ≤ limitMinorUnits ∧ limitMinorUnits ≤ maxSafeInteger
  ordered : periodStart < periodEnd
  deriving DecidableEq

/-- The columns of `acp_tasks` that the trigger reads. -/
structure AcpTask where
  workspaceId : EntityId
  id : EntityId
  currency : String
  maximumCostMinorUnits : Int
  maximumComputeUnits : Int
  policyVersion : String
  cost_nonneg : 0 ≤ maximumCostMinorUnits
  compute_nonneg : 0 ≤ maximumComputeUnits

/-- `messageType`. -/
inductive BridgeMessageType where
  | AUTHENTICATE
  | CAPABILITIES
  | HEARTBEAT
  | DISPATCH_ACCEPTED
  | PROGRESS
  | ARTIFACT
  | USAGE
  | CANCELLED
  | RESULT
  | FAILED
  deriving DecidableEq, Repr

/-- The columns of `acp_bridge_receipts` that are read. -/
structure AcpBridgeReceipt where
  workspaceId : EntityId
  id : EntityId
  messageType : BridgeMessageType
  sessionId : EntityId
  dispatchId : Option EntityId
  runId : Option EntityId
  taskId : Option EntityId
  runtimeId : EntityId
  connectionId : EntityId
  sequence : Int
  receivedAt : Int
  deriving DecidableEq, Repr

/-- The columns of `acp_run_usages` that the trigger reads. -/
structure AcpRunUsage where
  workspaceId : EntityId
  id : EntityId
  receiptId : EntityId
  dispatchId : EntityId
  sessionId : EntityId
  runId : EntityId
  sequence : Int
  currency : String
  costMinorUnits : Int
  computeUnits : Int
  cumulativeCostMinorUnits : Int
  cumulativeComputeUnits : Int
  recordedAt : Int
  deriving DecidableEq, Repr

/-- A row of `acp_cost_ledger_entries`. -/
structure AcpCostLedgerEntry where
  id : EntityId
  workspaceId : EntityId
  usageId : EntityId
  receiptId : EntityId
  dispatchId : EntityId
  sessionId : EntityId
  runId : EntityId
  taskId : EntityId
  runtimeId : EntityId
  connectionId : EntityId
  sequence : Int
  currency : String
  costMinorUnits : Int
  computeUnits : Int
  workspacePolicyId : EntityId
  workspacePolicyHash : String
  taskPolicyId : EntityId
  taskPolicyHash : String
  periodStart : Int
  periodEnd : Int
  workspaceSpendMinorUnits : Int
  taskSpendMinorUnits : Int
  checksum : String
  recordedAt : Int
  deriving DecidableEq, Repr

instance : HasKey Key AcpCostBudgetPolicy := ⟨fun p => key p.workspaceId p.id⟩
instance : HasKey Key AcpTask := ⟨fun t => key t.workspaceId t.id⟩
instance : HasKey Key AcpBridgeReceipt := ⟨fun r => key r.workspaceId r.id⟩
instance : HasKey Key AcpRunUsage := ⟨fun u => key u.workspaceId u.id⟩
instance : HasKey Key AcpCostLedgerEntry := ⟨fun e => key e.workspaceId e.id⟩

/-- The policies and the tasks, which no call changes. -/
structure Terms where
  policies : Store Key AcpCostBudgetPolicy
  tasks : Store Key AcpTask

/-! ## Hashes -/

/-- `CostBudgetPolicyBinding`. -/
structure CostBudgetPolicyBinding where
  policyId : EntityId
  workspaceId : EntityId
  scope : BudgetScope
  taskId : Option EntityId
  currency : String
  limitMinorUnits : Int
  periodStart : Int
  periodEnd : Int
  policyVersion : String
  deriving DecidableEq, Repr

def CostBudgetPolicyBinding.toJson (binding : CostBudgetPolicyBinding) : Json :=
  .obj [
    ("schemaVersion", .int 1),
    ("policyId", .str binding.policyId),
    ("workspaceId", .str binding.workspaceId),
    ("scope", .str binding.scope.text),
    ("taskId", Finance.optionalText binding.taskId),
    ("currency", .str binding.currency),
    ("limitMinorUnits", Finance.bigintJson binding.limitMinorUnits),
    ("periodStart", Finance.dateText binding.periodStart),
    ("periodEnd", Finance.dateText binding.periodEnd),
    ("policyVersion", .str binding.policyVersion)]

/-- `CostLedgerBinding`. -/
structure CostLedgerBinding where
  workspaceId : EntityId
  usageId : EntityId
  receiptId : EntityId
  dispatchId : EntityId
  sessionId : EntityId
  runId : EntityId
  taskId : EntityId
  runtimeId : EntityId
  connectionId : EntityId
  sequence : Int
  currency : String
  costMinorUnits : Int
  computeUnits : Int
  workspacePolicyId : EntityId
  workspacePolicyHash : String
  taskPolicyId : EntityId
  taskPolicyHash : String
  workspaceSpendMinorUnits : Int
  taskSpendMinorUnits : Int
  workspaceLimitMinorUnits : Int
  taskLimitMinorUnits : Int
  periodStart : Int
  periodEnd : Int
  recordedAt : Int
  deriving DecidableEq, Repr

def CostLedgerBinding.toJson (binding : CostLedgerBinding) : Json :=
  .obj [
    ("schemaVersion", .int 1),
    ("workspaceId", .str binding.workspaceId),
    ("usageId", .str binding.usageId),
    ("receiptId", .str binding.receiptId),
    ("dispatchId", .str binding.dispatchId),
    ("sessionId", .str binding.sessionId),
    ("runId", .str binding.runId),
    ("taskId", .str binding.taskId),
    ("runtimeId", .str binding.runtimeId),
    ("connectionId", .str binding.connectionId),
    ("sequence", .int binding.sequence),
    ("currency", .str binding.currency),
    ("costMinorUnits", Finance.bigintJson binding.costMinorUnits),
    ("computeUnits", Finance.bigintJson binding.computeUnits),
    ("workspacePolicyId", .str binding.workspacePolicyId),
    ("workspacePolicyHash", .str binding.workspacePolicyHash),
    ("taskPolicyId", .str binding.taskPolicyId),
    ("taskPolicyHash", .str binding.taskPolicyHash),
    ("workspaceSpendMinorUnits", Finance.bigintJson binding.workspaceSpendMinorUnits),
    ("taskSpendMinorUnits", Finance.bigintJson binding.taskSpendMinorUnits),
    ("workspaceLimitMinorUnits", Finance.bigintJson binding.workspaceLimitMinorUnits),
    ("taskLimitMinorUnits", Finance.bigintJson binding.taskLimitMinorUnits),
    ("periodStart", Finance.dateText binding.periodStart),
    ("periodEnd", Finance.dateText binding.periodEnd),
    ("recordedAt", Finance.dateText binding.recordedAt)]

/-- `ref`. -/
def ref (value field : String) : Except Failure Unit :=
  match validateAcpApprovalReference value field with
  | .ok () => .ok ()
  | .error _ => .error (costGovernancePolicyError s!"{field} is invalid")

/-- `assertCanonicalCurrency`. -/
def assertCanonicalCurrency (value : String) : Except Failure Unit :=
  throwIf (currencyPattern value = false)
    (costGovernancePolicyError "currency must be ISO-style uppercase")

section Ledger

variable (sha256 : String → String)

/-- `createHash('sha256').update(canonical(value)).digest('hex')`. -/
def hashCanonical (value : Json) : String := sha256 (String.ofList (canonical value).text)

/-- `costBudgetPolicyHash`. -/
def costBudgetPolicyHash (binding : CostBudgetPolicyBinding) : Except Failure String := do
  ref binding.policyId "policyId"
  ref binding.workspaceId "workspaceId"
  ref binding.policyVersion "policyVersion"
  match binding.scope, binding.taskId with
  | .TASK, some taskId => do
    throwIf (taskId = "") (costGovernancePolicyError "task policy requires taskId")
    ref taskId "taskId"
  | .TASK, none => throw (costGovernancePolicyError "task policy requires taskId")
  | .WORKSPACE, taskId =>
    throwIf (taskId ≠ none) (costGovernancePolicyError "workspace policy cannot bind taskId")
  assertCanonicalCurrency binding.currency
  throwIf (binding.limitMinorUnits < 0 ∨ maxSafeInteger < binding.limitMinorUnits)
    (costGovernancePolicyError "limit must be a non-negative safe integer")
  throwIf (binding.periodEnd ≤ binding.periodStart)
    (costGovernancePolicyError "budget period must be canonical and ordered")
  return hashCanonical sha256 binding.toJson

/-- `costLedgerChecksum`. -/
def costLedgerChecksum (binding : CostLedgerBinding) : Except Failure String := do
  ref binding.workspaceId "workspaceId"
  ref binding.usageId "usageId"
  ref binding.receiptId "receiptId"
  ref binding.dispatchId "dispatchId"
  ref binding.sessionId "sessionId"
  ref binding.runId "runId"
  ref binding.taskId "taskId"
  ref binding.runtimeId "runtimeId"
  ref binding.connectionId "connectionId"
  ref binding.workspacePolicyId "workspacePolicyId"
  ref binding.taskPolicyId "taskPolicyId"
  throwIf (sha256Pattern binding.workspacePolicyHash = false)
    (costGovernancePolicyError "workspacePolicyHash must be SHA-256")
  throwIf (sha256Pattern binding.taskPolicyHash = false)
    (costGovernancePolicyError "taskPolicyHash must be SHA-256")
  assertCanonicalCurrency binding.currency
  throwIf (isSafeInteger binding.sequence = false ∨ binding.sequence < 1)
    (costGovernancePolicyError "sequence must be a positive safe integer")
  throwIf (binding.costMinorUnits < 0 ∨ binding.computeUnits < 0
      ∨ binding.workspaceSpendMinorUnits < binding.costMinorUnits
      ∨ binding.taskSpendMinorUnits < binding.costMinorUnits
      ∨ binding.workspaceLimitMinorUnits < binding.workspaceSpendMinorUnits
      ∨ binding.taskLimitMinorUnits < binding.taskSpendMinorUnits
      ∨ [binding.costMinorUnits, binding.computeUnits, binding.workspaceSpendMinorUnits,
          binding.taskSpendMinorUnits, binding.workspaceLimitMinorUnits,
          binding.taskLimitMinorUnits].any (fun value => decide (maxSafeInteger < value)) = true)
    (costGovernancePolicyError "usage values cannot be negative")
  throwIf (binding.periodEnd ≤ binding.periodStart)
    (costGovernancePolicyError "budget period must be canonical and ordered")
  throwIf (binding.recordedAt < binding.periodStart ∨ binding.periodEnd ≤ binding.recordedAt)
    (costGovernancePolicyError "recordedAt must be canonical and within period")
  return hashCanonical sha256 binding.toJson

/-- `assertBudgetAllows`. -/
def assertBudgetAllows (currentWorkspaceSpend workspaceLimit currentTaskSpend taskLimit delta : Int) :
    Except Failure Unit := do
  throwIf ([currentWorkspaceSpend, workspaceLimit, currentTaskSpend, taskLimit, delta].any
      (fun v => decide (v < 0 ∨ maxSafeInteger < v)) = true)
    (costGovernancePolicyError "budget values cannot be negative")
  throwIf (workspaceLimit < currentWorkspaceSpend + delta ∨ taskLimit < currentTaskSpend + delta)
    (costGovernancePolicyError "usage exceeds governed budget")

/-- `policyHash`. -/
def policyHash (policy : AcpCostBudgetPolicy) : Except Failure String :=
  costBudgetPolicyHash sha256
    { policyId := policy.id
      workspaceId := policy.workspaceId
      scope := policy.scope
      taskId := policy.taskId
      currency := policy.currency
      limitMinorUnits := policy.limitMinorUnits
      periodStart := policy.periodStart
      periodEnd := policy.periodEnd
      policyVersion := policy.policyVersion }

/-! ## Aggregates -/

/-- The time is in the period of the policy. -/
def AcpCostBudgetPolicy.Covers (policy : AcpCostBudgetPolicy) (t : Int) : Prop :=
  policy.periodStart ≤ t ∧ t < policy.periodEnd

instance (policy : AcpCostBudgetPolicy) (t : Int) : Decidable (policy.Covers t) :=
  inferInstanceAs (Decidable (_ ∧ _))

/-- `aggregate({ where, _sum })`. -/
def aggregateSum (entries : List AcpCostLedgerEntry) (p : AcpCostLedgerEntry → Bool)
    (f : AcpCostLedgerEntry → Int) : Int := ((entries.filter p).map f).sum

/-- The cost in a workspace and a currency, of a period. -/
def workspaceSpend (entries : List AcpCostLedgerEntry) (workspaceId : EntityId) (currency : String)
    (periodStart periodEnd : Int) : Int :=
  aggregateSum entries
    (fun e => decide (e.workspaceId = workspaceId ∧ e.currency = currency ∧ periodStart ≤ e.recordedAt
      ∧ e.recordedAt < periodEnd))
    AcpCostLedgerEntry.costMinorUnits

/-- The cost of a task in a currency, of a period. -/
def taskSpend (entries : List AcpCostLedgerEntry) (workspaceId taskId : EntityId) (currency : String)
    (periodStart periodEnd : Int) : Int :=
  aggregateSum entries
    (fun e => decide (e.workspaceId = workspaceId ∧ e.taskId = taskId ∧ e.currency = currency
      ∧ periodStart ≤ e.recordedAt ∧ e.recordedAt < periodEnd))
    AcpCostLedgerEntry.costMinorUnits

/-- The cost of a task in its lifetime. -/
def taskLifetimeCost (entries : List AcpCostLedgerEntry) (workspaceId taskId : EntityId) : Int :=
  aggregateSum entries (fun e => decide (e.workspaceId = workspaceId ∧ e.taskId = taskId))
    AcpCostLedgerEntry.costMinorUnits

/-- The compute of a task in its lifetime. -/
def taskLifetimeCompute (entries : List AcpCostLedgerEntry) (workspaceId taskId : EntityId) : Int :=
  aggregateSum entries (fun e => decide (e.workspaceId = workspaceId ∧ e.taskId = taskId))
    AcpCostLedgerEntry.computeUnits

/-! ## Recording usage -/

/-- `RecordGovernedUsageInput`. -/
structure RecordGovernedUsageInput where
  usageId : EntityId
  receiptId : EntityId
  dispatchId : EntityId
  sessionId : EntityId
  runId : EntityId
  taskId : EntityId
  runtimeId : EntityId
  connectionId : EntityId
  sequence : Int
  currency : String
  costMinorUnits : Int
  computeUnits : Int
  taskPolicyVersion : String
  taskLimitMinorUnits : Int
  taskComputeLimit : Int
  deriving DecidableEq, Repr

/-- `GovernedUsageTotals`. -/
structure GovernedUsageTotals where
  ledgerEntryId : EntityId
  workspaceSpendMinorUnits : Int
  workspaceLimitMinorUnits : Int
  taskSpendMinorUnits : Int
  taskLimitMinorUnits : Int
  workspacePolicyId : EntityId
  deriving DecidableEq, Repr

/-- What a call is given, and what it finds: its caller, its arguments, the receipts and usages, the clock
that the trigger reads, and whether the rest of its transaction goes through. -/
structure UsageLabel where
  capability : OperationalEventCapability
  context : WorkspaceContext
  actorKind : OperationalActorKind
  input : RecordGovernedUsageInput
  receipts : Store Key AcpBridgeReceipt
  usages : Store Key AcpRunUsage
  ledgerClock : Int
  audit : Except Failure Unit

/-- The exact receipt of the usage. -/
def exactReceipt (receipts : Store Key AcpBridgeReceipt) (workspaceId : EntityId)
    (input : RecordGovernedUsageInput) : Option AcpBridgeReceipt :=
  (receipts.get? (key workspaceId input.receiptId)).filter fun r =>
    decide (r.messageType = .USAGE ∧ r.sessionId = input.sessionId ∧ r.dispatchId = some input.dispatchId
      ∧ r.runId = some input.runId ∧ r.taskId = some input.taskId ∧ r.runtimeId = input.runtimeId
      ∧ r.connectionId = input.connectionId ∧ r.sequence = input.sequence)

/-- The policies of the workspace at a time. -/
def workspacePoliciesAt (terms : Terms) (workspaceId : EntityId) (currency : String) (t : Int) :
    List AcpCostBudgetPolicy :=
  terms.policies.values.filter fun p =>
    decide (p.workspaceId = workspaceId ∧ p.currency = currency ∧ p.Covers t ∧ p.scope = .WORKSPACE ∧ p.taskId = none)

/-- The policies of the task at a time. -/
def taskPoliciesAt (terms : Terms) (workspaceId taskId : EntityId) (currency : String) (t : Int) :
    List AcpCostBudgetPolicy :=
  terms.policies.values.filter fun p =>
    decide (p.workspaceId = workspaceId ∧ p.currency = currency ∧ p.Covers t ∧ p.scope = .TASK
      ∧ p.taskId = some taskId)

/-- `ventureos_validate_cost_ledger_insert`. -/
def validateCostLedgerInsert (terms : Terms) (receipts : Store Key AcpBridgeReceipt)
    (usages : Store Key AcpRunUsage) (ledgerClock : Int) (entries : List AcpCostLedgerEntry)
    (new : AcpCostLedgerEntry) : Except Failure Unit :=
  match receipts.get? (key new.workspaceId new.receiptId), usages.get? (key new.workspaceId new.usageId) with
  | some receipt, some usageRow => do
    throwIf (receipt.messageType ≠ .USAGE ∨ usageRow.receiptId ≠ new.receiptId
        ∨ usageRow.dispatchId ≠ new.dispatchId ∨ usageRow.sessionId ≠ new.sessionId
        ∨ usageRow.runId ≠ new.runId ∨ usageRow.sequence ≠ new.sequence
        ∨ usageRow.currency ≠ new.currency ∨ usageRow.costMinorUnits ≠ new.costMinorUnits
        ∨ usageRow.computeUnits ≠ new.computeUnits ∨ usageRow.recordedAt ≠ new.recordedAt)
      (triggerException "usage ledger correlation mismatch")
    throwIf (receipt.receivedAt ≠ usageRow.recordedAt ∨ receipt.receivedAt ≠ new.recordedAt)
      (triggerException "usage receipt database clock correlation mismatch")
    match terms.policies.get? (key new.workspaceId new.workspacePolicyId) with
    | none => throw (triggerException "workspace budget policy correlation mismatch")
    | some workspacePolicy => do
      throwIf (workspacePolicy.scope ≠ .WORKSPACE ∨ workspacePolicy.taskId ≠ none
          ∨ workspacePolicy.currency ≠ new.currency
          ∨ workspacePolicy.policyHash ≠ new.workspacePolicyHash
          ∨ workspacePolicy.periodStart ≠ new.periodStart ∨ workspacePolicy.periodEnd ≠ new.periodEnd
          ∨ ¬ workspacePolicy.Covers new.recordedAt)
        (triggerException "workspace budget policy correlation mismatch")
      match terms.policies.get? (key new.workspaceId new.taskPolicyId) with
      | none => throw (triggerException "task budget policy correlation mismatch")
      | some taskPolicy => do
        throwIf (taskPolicy.scope ≠ .TASK ∨ taskPolicy.taskId ≠ some new.taskId
            ∨ taskPolicy.currency ≠ new.currency ∨ taskPolicy.policyHash ≠ new.taskPolicyHash
            ∨ taskPolicy.periodStart ≠ workspacePolicy.periodStart
            ∨ taskPolicy.periodEnd ≠ workspacePolicy.periodEnd ∨ ¬ taskPolicy.Covers new.recordedAt)
          (triggerException "task budget policy correlation mismatch")
        throwIf (¬ (workspacePolicy.Covers ledgerClock ∧ taskPolicy.Covers ledgerClock))
          (triggerException "cost budget policy expired before ledger commit")
        match terms.tasks.get? (key new.workspaceId new.taskId) with
        | none => throw (triggerException "task durable budget correlation mismatch")
        | some task => do
          throwIf (task.currency ≠ new.currency
              ∨ task.maximumCostMinorUnits < taskPolicy.limitMinorUnits
              ∨ task.policyVersion ≠ taskPolicy.policyVersion
              ∨ task.maximumCostMinorUnits < usageRow.cumulativeCostMinorUnits
              ∨ task.maximumComputeUnits < usageRow.cumulativeComputeUnits
              ∨ task.maximumCostMinorUnits
                < taskLifetimeCost entries new.workspaceId new.taskId + new.costMinorUnits
              ∨ task.maximumComputeUnits
                < taskLifetimeCompute entries new.workspaceId new.taskId + new.computeUnits)
            (triggerException "task durable budget correlation mismatch")
          let priorWorkspace := workspaceSpend entries new.workspaceId new.currency
            workspacePolicy.periodStart workspacePolicy.periodEnd
          let priorTask := taskSpend entries new.workspaceId new.taskId new.currency
            taskPolicy.periodStart taskPolicy.periodEnd
          throwIf (new.workspaceSpendMinorUnits ≠ priorWorkspace + new.costMinorUnits
              ∨ new.taskSpendMinorUnits ≠ priorTask + new.costMinorUnits
              ∨ workspacePolicy.limitMinorUnits < new.workspaceSpendMinorUnits
              ∨ taskPolicy.limitMinorUnits < new.taskSpendMinorUnits)
            (triggerException "cost ledger exceeds or misstates governed budget")
  | _, _ => .error (triggerException "usage ledger correlation mismatch")

/-- What the checksum of an entry covers, under limits of the two policies. -/
def AcpCostLedgerEntry.binding (entry : AcpCostLedgerEntry) (workspaceLimit taskLimit : Int) :
    CostLedgerBinding where
  workspaceId := entry.workspaceId
  usageId := entry.usageId
  receiptId := entry.receiptId
  dispatchId := entry.dispatchId
  sessionId := entry.sessionId
  runId := entry.runId
  taskId := entry.taskId
  runtimeId := entry.runtimeId
  connectionId := entry.connectionId
  sequence := entry.sequence
  currency := entry.currency
  costMinorUnits := entry.costMinorUnits
  computeUnits := entry.computeUnits
  workspacePolicyId := entry.workspacePolicyId
  workspacePolicyHash := entry.workspacePolicyHash
  taskPolicyId := entry.taskPolicyId
  taskPolicyHash := entry.taskPolicyHash
  workspaceSpendMinorUnits := entry.workspaceSpendMinorUnits
  taskSpendMinorUnits := entry.taskSpendMinorUnits
  workspaceLimitMinorUnits := workspaceLimit
  taskLimitMinorUnits := taskLimit
  periodStart := entry.periodStart
  periodEnd := entry.periodEnd
  recordedAt := entry.recordedAt

/-- The entry of a usage under its two policies, without its checksum. -/
def ledgerEntry (workspaceId : EntityId) (input : RecordGovernedUsageInput)
    (workspacePolicy taskPolicy : AcpCostBudgetPolicy)
    (workspaceSpendMinorUnits taskSpendMinorUnits recordedAt : Int) : AcpCostLedgerEntry where
  id := input.usageId
  workspaceId := workspaceId
  usageId := input.usageId
  receiptId := input.receiptId
  dispatchId := input.dispatchId
  sessionId := input.sessionId
  runId := input.runId
  taskId := input.taskId
  runtimeId := input.runtimeId
  connectionId := input.connectionId
  sequence := input.sequence
  currency := input.currency
  costMinorUnits := input.costMinorUnits
  computeUnits := input.computeUnits
  workspacePolicyId := workspacePolicy.id
  workspacePolicyHash := workspacePolicy.policyHash
  taskPolicyId := taskPolicy.id
  taskPolicyHash := taskPolicy.policyHash
  periodStart := workspacePolicy.periodStart
  periodEnd := workspacePolicy.periodEnd
  workspaceSpendMinorUnits := workspaceSpendMinorUnits
  taskSpendMinorUnits := taskSpendMinorUnits
  checksum := ""
  recordedAt := recordedAt

/-- `INSERT`: the trigger, and the unique keys. -/
def insertEntry (terms : Terms) (l : UsageLabel) (ledger : Store Key AcpCostLedgerEntry)
    (new : AcpCostLedgerEntry) : Except Failure (Store Key AcpCostLedgerEntry) := do
  validateCostLedgerInsert terms l.receipts l.usages l.ledgerClock ledger.values new
  throwIf (ledger.get? (keyOf new) ≠ none
      ∨ ledger.values.any (fun e => decide (e.workspaceId = new.workspaceId
        ∧ (e.usageId = new.usageId ∨ e.receiptId = new.receiptId))) = true)
    uniqueViolation
  return ledger.put new

/-- `recordUsage`, once the two policies are found. -/
def recordUnderPolicies (terms : Terms) (l : UsageLabel) (ledger : Store Key AcpCostLedgerEntry)
    (recordedAt : Int) (workspacePolicy taskPolicy : AcpCostBudgetPolicy) :
    Except Failure (GovernedUsageTotals × Store Key AcpCostLedgerEntry) := do
  let workspaceId := l.context.workspaceId
  let input := l.input
  let mismatch := acpCostGovernanceDenied "Budget policy binding mismatch"
  let workspaceHash ← policyHash sha256 workspacePolicy
  throwIf (workspaceHash ≠ workspacePolicy.policyHash) mismatch
  let taskHash ← policyHash sha256 taskPolicy
  throwIf (taskHash ≠ taskPolicy.policyHash ∨ taskPolicy.policyVersion ≠ input.taskPolicyVersion
      ∨ taskPolicy.periodStart ≠ workspacePolicy.periodStart
      ∨ taskPolicy.periodEnd ≠ workspacePolicy.periodEnd
      ∨ input.taskLimitMinorUnits < taskPolicy.limitMinorUnits)
    mismatch
  let currentWorkspaceSpend := workspaceSpend ledger.values workspaceId input.currency
    workspacePolicy.periodStart workspacePolicy.periodEnd
  let currentTaskSpend := taskSpend ledger.values workspaceId input.taskId input.currency
    taskPolicy.periodStart taskPolicy.periodEnd
  throwIf (input.taskLimitMinorUnits
        < taskLifetimeCost ledger.values workspaceId input.taskId + input.costMinorUnits
      ∨ input.taskComputeLimit
        < taskLifetimeCompute ledger.values workspaceId input.taskId + input.computeUnits)
    (acpCostGovernanceDenied "Usage exceeds durable task lifetime budget")
  match assertBudgetAllows currentWorkspaceSpend workspacePolicy.limitMinorUnits currentTaskSpend
      taskPolicy.limitMinorUnits input.costMinorUnits with
  | .error _ => throw (acpCostGovernanceDenied "Usage exceeds governed budget")
  | .ok () => do
    let workspaceSpendMinorUnits := currentWorkspaceSpend + input.costMinorUnits
    let taskSpendMinorUnits := currentTaskSpend + input.costMinorUnits
    let unsigned := ledgerEntry workspaceId input workspacePolicy taskPolicy workspaceSpendMinorUnits
      taskSpendMinorUnits recordedAt
    let checksum ← costLedgerChecksum sha256
      (unsigned.binding workspacePolicy.limitMinorUnits taskPolicy.limitMinorUnits)
    let ledger' ← insertEntry terms l ledger { unsigned with checksum := checksum }
    l.audit
    return (⟨input.usageId, workspaceSpendMinorUnits, workspacePolicy.limitMinorUnits, taskSpendMinorUnits,
      taskPolicy.limitMinorUnits, workspacePolicy.id⟩, ledger')

/-- `recordUsage`. -/
def recordUsage (terms : Terms) (l : UsageLabel) (ledger : Store Key AcpCostLedgerEntry) :
    Except Failure (GovernedUsageTotals × Store Key AcpCostLedgerEntry) := do
  let denied := acpCostGovernanceDenied "Cost ledger actor binding mismatch"
  l.capability.assertSource .CONTROL_PLANE
  let derivedActorKind ← l.capability.actorKindFor l.context
  throwIf (derivedActorKind = .RUNTIME ∨ derivedActorKind ≠ l.actorKind) denied
  let level ← authorityLevelFor l.capability l.context
  throwIf (level.val < 3) denied
  match exactReceipt l.receipts l.context.workspaceId l.input with
  | none => throw (acpCostGovernanceDenied "Exact usage receipt clock is required")
  | some receipt =>
    match workspacePoliciesAt terms l.context.workspaceId l.input.currency receipt.receivedAt,
        taskPoliciesAt terms l.context.workspaceId l.input.taskId l.input.currency receipt.receivedAt with
    | [workspacePolicy], [taskPolicy] =>
      recordUnderPolicies sha256 terms l ledger receipt.receivedAt workspacePolicy taskPolicy
    | _, _ => throw (acpCostGovernanceDenied "Exactly one workspace and task budget policy required")

/-- A transaction: committed, or as if it had not been made. -/
def advanceLedger (terms : Terms) (l : UsageLabel) (ledger : Store Key AcpCostLedgerEntry) :
    Except Failure GovernedUsageTotals × Store Key AcpCostLedgerEntry :=
  match recordUsage sha256 terms l ledger with
  | .ok (totals, ledger') => (.ok totals, ledger')
  | .error e => (.error e, ledger)

/-! ## Reading the ledger -/

/-- What is verified of an entry that is read, with its policies. -/
def verifyEntry (terms : Terms) (entry : AcpCostLedgerEntry) : Except Failure Unit :=
  match terms.policies.get? (key entry.workspaceId entry.workspacePolicyId),
      terms.policies.get? (key entry.workspaceId entry.taskPolicyId) with
  | some workspacePolicy, some taskPolicy => do
    let checksum ← costLedgerChecksum sha256
      (entry.binding workspacePolicy.limitMinorUnits taskPolicy.limitMinorUnits)
    throwIf (checksum ≠ entry.checksum)
      (acpCostGovernanceDenied "Cost ledger checksum verification failed")
    let workspaceHash ← policyHash sha256 workspacePolicy
    throwIf (workspaceHash ≠ entry.workspacePolicyHash)
      (acpCostGovernanceDenied "Workspace cost policy verification failed")
    let taskHash ← policyHash sha256 taskPolicy
    throwIf (taskHash ≠ entry.taskPolicyHash)
      (acpCostGovernanceDenied "Task cost policy verification failed")
  | _, _ => .error ⟨.databaseConstraint, "Foreign key constraint failed"⟩

/-- The entries are verified one after the other. -/
def verifyEntries (terms : Terms) : List AcpCostLedgerEntry → Except Failure Unit
  | [] => .ok ()
  | entry :: rest => do
    verifyEntry sha256 terms entry
    verifyEntries terms rest

/-- `orderBy: [{ recordedAt: 'desc' }, { id: 'desc' }]`. -/
def newestFirst (compareText : String → String → Int) (a b : AcpCostLedgerEntry) : Int :=
  thenBy (b.recordedAt - a.recordedAt) (compareText b.id a.id)

/-- The page that is read. -/
def ledgerPage (compareText : String → String → Int) (ledger : Store Key AcpCostLedgerEntry)
    (workspaceId : EntityId) (count : Nat) : List AcpCostLedgerEntry :=
  (sortBy (newestFirst compareText) (ledger.values.filter fun e => decide (e.workspaceId = workspaceId))).take count

/-- The checks of `listLedger` on its caller. -/
def assertObserver (capability : OperationalEventCapability) (context : WorkspaceContext) (count : Int) :
    Except Failure Unit := do
  capability.assertSource .CONTROL_PLANE
  let actorKind ← capability.actorKindFor context
  throwIf (actorKind = .RUNTIME) (acpCostGovernanceDenied "Trusted observer authority is required")
  -- No level is below 0, but a principal without a level is refused.
  let _ ← authorityLevelFor capability context
  throwIf (count < 1 ∨ 100 < count) (acpCostGovernanceDenied "Ledger page size is invalid")

/-- `listLedger`. -/
def listLedger (terms : Terms) (compareText : String → String → Int) (ledger : Store Key AcpCostLedgerEntry)
    (capability : OperationalEventCapability) (context : WorkspaceContext) (count : Int) :
    Except Failure (List AcpCostLedgerEntry) := do
  assertObserver capability context count
  let entries := ledgerPage compareText ledger context.workspaceId count.toNat
  verifyEntries sha256 terms entries
  return entries

end Ledger

end VentureOS.Governance
