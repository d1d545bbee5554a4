import VentureOS.Foundations.Machine
import VentureOS.Foundations.Program
import VentureOS.Foundations.Sorting
import VentureOS.ControlPlane.Contracts

/-! # Outcomes of revenue runs

`revenue-run-outcome.ts`: facts (revenue entries, expenses, recognized runtime usage) are linked to a revenue
run, each with a hash of the fact; an operator reconciles the costs of exactly the facts that are linked; and
the outcome is read from the facts. Facts and runs are rows that none of these functions writes. Rows are kept
in the order in which they were committed, which is the order of `createdAt`. -/

namespace VentureOS.Finance

open ControlPlane

def revenueRunInvalidInput (message : String) : Failure := ⟨.revenueRunInvalidInput, message⟩
def revenueRunNotFound (message : String) : Failure := ⟨.revenueRunNotFound, message⟩
def revenueRunConflict (message : String) : Failure := ⟨.revenueRunConflict, message⟩
def revenueRunEvidenceDrift (message : String) : Failure := ⟨.revenueRunEvidenceDrift, message⟩

/-! ## Decimals -/

/-- The point and the places of so many hundredths, without trailing zeros. -/
def fractionText (hundredths : Nat) : List Char :=
  if hundredths = 0 then []
  else if hundredths % 10 = 0 then ['.', Nat.digitChar (hundredths / 10)]
  else ['.', Nat.digitChar (hundredths / 10), Nat.digitChar (hundredths % 10)]

/-- `decimal.toString()` of a decimal with two places. -/
def decimalText (cents : Int) : List Char :=
  let text := Nat.toDigits 10 (cents.natAbs / 100) ++ fractionText (cents.natAbs % 100)
  if cents < 0 then '-' :: text else text

/-- `BigInt` of a text of digits. -/
def bigIntOf (digits : List Char) : Int := (Nat.ofDigitChars 10 digits 0 : Nat)

/-- The digits after the point: one or two of them, or no point. -/
def fractionDigits : List Char → Option (List Char)
  | [] => some []
  | ['.', c] => if c.isDigit = true then some [c] else none
  | ['.', c, d] => if c.isDigit = true ∧ d.isDigit = true then some [c, d] else none
  | _ => none

/-- `s.padEnd(2, '0')`. -/
def padEnd2 (s : List Char) : List Char := s ++ List.replicate (2 - s.length) '0'

/-- The text without a leading minus. -/
def unsignedText (text : List Char) : List Char := if text.head? = some '-' then text.tail else text

/-- `eurDecimalToMinorUnits`: `^(-?)(\d+)(?:\.(\d{1,2}))?$`. -/
def eurDecimalToMinorUnits (text : List Char) : Except Failure Int :=
  let whole := (unsignedText text).takeWhile Char.isDigit
  match whole, fractionDigits ((unsignedText text).dropWhile Char.isDigit) with
  | c :: cs, some fraction =>
    let minor := bigIntOf (c :: cs) * 100 + bigIntOf (padEnd2 fraction)
    .ok (if text.head? = some '-' then -minor else minor)
  | _, _ => .error (revenueRunEvidenceDrift "EUR evidence has non-cent precision")

/-! ## Facts -/

/-- A row of `revenue_runs`. -/
structure RevenueRun where
  id : EntityId
  workspaceId : EntityId
  ventureProposalId : EntityId
  runId : Option EntityId
  currency : String
  expectedRevenueMinorUnits : Int
  expectedCostMinorUnits : Int
  downsideMinorUnits : Int
  confidenceBps : Int
  timeToCashDays : Int
  forecastEvidenceHash : String

/-- A row of `revenue_entries`. Amounts are cents, times milliseconds. -/
structure RevenueEntry where
  id : EntityId
  workspaceId : EntityId
  ventureProposalId : EntityId
  listingVersionId : Option EntityId
  unitsSold : Int
  grossRevenueEur : Int
  marketplaceFeeEur : Int
  paymentProcessingFeeEur : Int
  listingFeeEur : Int
  vatEur : Int
  refundsEur : Int
  netRevenueEur : Int
  source : String
  occurredAt : Int
  recordedBy : Option String
  createdAt : Int

/-- A row of `expenses`. -/
structure Expense where
  id : EntityId
  workspaceId : EntityId
  ventureProposalId : Option EntityId
  category : String
  amountEur : Int
  description : String
  source : String
  incurredAt : Int
  createdAt : Int

/-- The columns of `acp_cost_ledger_entries` that are compared or hashed here. -/
structure RecognizedCost where
  id : EntityId
  workspaceId : EntityId
  usageId : EntityId
  runId : EntityId
  currency : String
  costMinorUnits : Int
  computeUnits : Int
  checksum : String
  recordedAt : Int

/-- A row of `acp_run_usages`, with its cost ledger entry. -/
structure AcpRunUsage where
  id : EntityId
  workspaceId : EntityId
  dispatchId : EntityId
  runId : EntityId
  sessionId : EntityId
  receiptId : EntityId
  sequence : Int
  computeUnits : Int
  costMinorUnits : Int
  cumulativeComputeUnits : Int
  cumulativeCostMinorUnits : Int
  currency : String
  evidenceHash : String
  recordedAt : Int
  costLedgerEntry : Option RecognizedCost

instance : HasKey EntityId RevenueRun := ⟨RevenueRun.id⟩
instance : HasKey EntityId RevenueEntry := ⟨RevenueEntry.id⟩
instance : HasKey EntityId Expense := ⟨Expense.id⟩
instance : HasKey Key AcpRunUsage := ⟨fun u => key u.workspaceId u.id⟩

/-- The rows that are linked, and the runs they are linked to. -/
structure Facts where
  runs : Store EntityId RevenueRun
  revenueEntries : Store EntityId RevenueEntry
  expenses : Store EntityId Expense
  usages : Store Key AcpRunUsage

/-! ## Tables -/

/-- What the three link tables have in common. -/
structure RevenueRunLink where
  workspaceId : EntityId
  revenueRunId : EntityId
  factId : EntityId
  evidenceHash : String
  linkedBy : String
  deriving DecidableEq, Repr

/-- A row of `revenue_run_revenue_entries`. -/
structure RevenueRunRevenueEntry extends RevenueRunLink
  deriving DecidableEq, Repr

/-- A row of `revenue_run_expenses`. -/
structure RevenueRunExpense extends RevenueRunLink
  deriving DecidableEq, Repr

/-- A row of `revenue_run_usages`. -/
structure RevenueRunUsage extends RevenueRunLink
  deriving DecidableEq, Repr

instance : HasKey EntityId RevenueRunRevenueEntry := ⟨fun l => l.factId⟩
instance : HasKey EntityId RevenueRunExpense := ⟨fun l => l.factId⟩
instance : HasKey Key RevenueRunUsage := ⟨fun l => key l.workspaceId l.factId⟩

/-- `REVENUE_RUN_COMMERCIAL_EVIDENCE_KINDS`. -/
inductive CommercialEvidenceKind where
  | PAYMENT_SETTLEMENT
  | DELIVERY_CONFIRMATION
  | REFUND_OBSERVATION
  deriving DecidableEq, Repr

def CommercialEvidenceKind.text : CommercialEvidenceKind → String
  | .PAYMENT_SETTLEMENT => "PAYMENT_SETTLEMENT"
  | .DELIVERY_CONFIRMATION => "DELIVERY_CONFIRMATION"
  | .REFUND_OBSERVATION => "REFUND_OBSERVATION"

/-- `REVENUE_RUN_COMMERCIAL_EVIDENCE_SOURCE_TYPES`. -/
inductive CommercialEvidenceSource where
  | MARKETPLACE_EXPORT
  | PAYMENT_PROCESSOR_EXPORT
  | BANK_SETTLEMENT_EXPORT
  | FULFILLMENT_EXPORT
  | FOUNDER_OBSERVED
  deriving DecidableEq, Repr

def CommercialEvidenceSource.text : CommercialEvidenceSource → String
  | .MARKETPLACE_EXPORT => "MARKETPLACE_EXPORT"
  | .PAYMENT_PROCESSOR_EXPORT => "PAYMENT_PROCESSOR_EXPORT"
  | .BANK_SETTLEMENT_EXPORT => "BANK_SETTLEMENT_EXPORT"
  | .FULFILLMENT_EXPORT => "FULFILLMENT_EXPORT"
  | .FOUNDER_OBSERVED => "FOUNDER_OBSERVED"

/-- What `recordRevenueRunCommercialEvidence` hashes. The verification state is always
`UNVERIFIED_EXTERNAL_ASSERTION`. -/
structure CommercialAssertion where
  workspaceId : EntityId
  revenueRunId : EntityId
  revenueEntryId : EntityId
  kind : CommercialEvidenceKind
  sourceType : CommercialEvidenceSource
  sourceReferenceHash : String
  sourceArtifactSha256 : String
  observedAt : Int
  recordedBy : String
  deriving DecidableEq, Repr

/-- A row of `revenue_run_commercial_evidence`. -/
structure RevenueRunCommercialEvidence extends CommercialAssertion where
  id : EntityId
  idempotencyKey : String
  evidenceHash : String
  deriving DecidableEq, Repr

/-- What `recordRevenueRunCostReconciliation` hashes. -/
structure ReconciledCosts where
  workspaceId : EntityId
  revenueRunId : EntityId
  currency : String
  expenseEvidenceSetHash : String
  usageEvidenceSetHash : String
  expenseTotalMinorUnits : Int
  runtimeChargeMinorUnits : Int
  overlapMinorUnits : Int
  basisReference : String
  reconciledBy : String
  deriving DecidableEq, Repr

/-- A row of `revenue_run_cost_reconciliations`. -/
structure RevenueRunCostReconciliation extends ReconciledCosts where
  id : EntityId
  idempotencyKey : String
  reconciliationHash : String
  deriving DecidableEq, Repr

instance : HasKey Key RevenueRunCommercialEvidence := ⟨fun e => key e.workspaceId e.idempotencyKey⟩
instance : HasKey Key RevenueRunCostReconciliation := ⟨fun r => key r.workspaceId r.idempotencyKey⟩

/-- The tables that the functions write. -/
structure OutcomeTables where
  revenueEntries : Store EntityId RevenueRunRevenueEntry
  expenses : Store EntityId RevenueRunExpense
  usages : Store Key RevenueRunUsage
  commercialEvidence : Store Key RevenueRunCommercialEvidence
  costReconciliations : Store Key RevenueRunCostReconciliation

/-- Nothing is linked. -/
def OutcomeTables.empty : OutcomeTables := ⟨.empty, .empty, .empty, .empty, .empty⟩

/-! ## Hashes -/

/-- A text that may be missing. -/
def optionalText : Option String → Json
  | none => .null
  | some s => .str s

/-- `date.toISOString()` of a stored date. -/
def dateText (t : Int) : Json := .str ((toISOString t).getD "")

/-- `decimal.toString()`. -/
def decimalJson (cents : Int) : Json := .str (String.ofList (decimalText cents))

/-- `bigint.toString()`. -/
def bigintJson (n : Int) : Json := .str (String.ofList (integerText n))

section Outcomes

variable (hashObject : Json → String) (localeCompare : String → String → Int)

/-- `revenueEntryEvidenceHash`. -/
def revenueEntryEvidenceHash (entry : RevenueEntry) : String :=
  hashObject (.obj [
    ("kind", .str "REVENUE_ENTRY"),
    ("id", .str entry.id),
    ("workspaceId", .str entry.workspaceId),
    ("ventureProposalId", .str entry.ventureProposalId),
    ("listingVersionId", optionalText entry.listingVersionId),
    ("unitsSold", .int entry.unitsSold),
    ("grossRevenueEur", decimalJson entry.grossRevenueEur),
    ("marketplaceFeeEur", decimalJson entry.marketplaceFeeEur),
    ("paymentProcessingFeeEur", decimalJson entry.paymentProcessingFeeEur),
    ("listingFeeEur", decimalJson entry.listingFeeEur),
    ("vatEur", decimalJson entry.vatEur),
    ("refundsEur", decimalJson entry.refundsEur),
    ("netRevenueEur", decimalJson entry.netRevenueEur),
    ("source", .str entry.source),
    ("occurredAt", dateText entry.occurredAt),
    ("recordedBy", optionalText entry.recordedBy),
    ("createdAt", dateText entry.createdAt)])

/-- `expenseEvidenceHash`. -/
def expenseEvidenceHash (expense : Expense) : String :=
  hashObject (.obj [
    ("kind", .str "EXPENSE"),
    ("id", .str expense.id),
    ("workspaceId", .str expense.workspaceId),
    ("ventureProposalId", optionalText expense.ventureProposalId),
    ("category", .str expense.category),
    ("amountEur", decimalJson expense.amountEur),
    ("description", .str expense.description),
    ("source", .str expense.source),
    ("incurredAt", dateText expense.incurredAt),
    ("createdAt", dateText expense.createdAt)])

/-- `usageEvidenceHash`. -/
def usageEvidenceHash (usage : AcpRunUsage) : Except Failure String :=
  match usage.costLedgerEntry with
  | none => .error (revenueRunNotFound "Recognized ACP cost-ledger evidence not found")
  | some ledger => do
    throwIf (ledger.workspaceId ≠ usage.workspaceId ∨ ledger.usageId ≠ usage.id
        ∨ ledger.runId ≠ usage.runId ∨ ledger.currency ≠ usage.currency
        ∨ ledger.costMinorUnits ≠ usage.costMinorUnits ∨ ledger.computeUnits ≠ usage.computeUnits)
      (revenueRunEvidenceDrift "ACP usage and recognized cost-ledger evidence do not match")
    return hashObject (.obj [
      ("kind", .str "ACP_RECOGNIZED_USAGE"),
      ("usage", .obj [
        ("id", .str usage.id),
        ("workspaceId", .str usage.workspaceId),
        ("dispatchId", .str usage.dispatchId),
        ("runId", .str usage.runId),
        ("sessionId", .str usage.sessionId),
        ("receiptId", .str usage.receiptId),
        ("sequence", .int usage.sequence),
        ("computeUnits", bigintJson usage.computeUnits),
        ("costMinorUnits", bigintJson usage.costMinorUnits),
        ("cumulativeComputeUnits", bigintJson usage.cumulativeComputeUnits),
        ("cumulativeCostMinorUnits", bigintJson usage.cumulativeCostMinorUnits),
        ("currency", .str usage.currency),
        ("evidenceHash", .str usage.evidenceHash),
        ("recordedAt", dateText usage.recordedAt)]),
      ("recognizedCostLedger", .obj [
        ("id", .str ledger.id),
        ("checksum", .str ledger.checksum),
        ("costMinorUnits", bigintJson ledger.costMinorUnits),
        ("computeUnits", bigintJson ledger.computeUnits),
        ("recordedAt", dateText ledger.recordedAt)])])

/-- `commercialEvidenceHash`. -/
def commercialEvidenceHash (a : CommercialAssertion) : String :=
  hashObject (.obj [
    ("kind", .str "REVENUE_RUN_COMMERCIAL_EVIDENCE"),
    ("workspaceId", .str a.workspaceId),
    ("revenueRunId", .str a.revenueRunId),
    ("revenueEntryId", .str a.revenueEntryId),
    ("evidenceKind", .str a.kind.text),
    ("sourceType", .str a.sourceType.text),
    ("sourceReferenceHash", .str a.sourceReferenceHash),
    ("sourceArtifactSha256", .str a.sourceArtifactSha256),
    ("observedAt", dateText a.observedAt),
    ("verificationState", .str "UNVERIFIED_EXTERNAL_ASSERTION"),
    ("recordedBy", .str a.recordedBy)])

/-- `commercialEvidenceSetHash`. -/
def commercialEvidenceSetHash (evidence : List RevenueRunCommercialEvidence) : String :=
  hashObject (.obj [
    ("kind", .str "REVENUE_RUN_COMMERCIAL_EVIDENCE_SET"),
    ("evidence", .arr ((sortBy (fun a b => localeCompare a.id b.id) evidence).map fun e =>
      .obj [("id", .str e.id), ("evidenceHash", .str e.evidenceHash)]))])

/-- `costEvidenceSetHash`. -/
def costEvidenceSetHash (kind : String) (links : List RevenueRunLink) : String :=
  hashObject (.obj [
    ("kind", .str kind),
    ("evidence", .arr ((sortBy (fun a b => localeCompare a.factId b.factId) links).map fun l =>
      .obj [("factId", .str l.factId), ("evidenceHash", .str l.evidenceHash)]))])

/-- `costReconciliationHash`. -/
def costReconciliationHash (c : ReconciledCosts) : String :=
  hashObject (.obj [
    ("kind", .str "REVENUE_RUN_COST_RECONCILIATION"),
    ("workspaceId", .str c.workspaceId),
    ("revenueRunId", .str c.revenueRunId),
    ("currency", .str c.currency),
    ("expenseEvidenceSetHash", .str c.expenseEvidenceSetHash),
    ("usageEvidenceSetHash", .str c.usageEvidenceSetHash),
    ("expenseTotalMinorUnits", bigintJson c.expenseTotalMinorUnits),
    ("runtimeChargeMinorUnits", bigintJson c.runtimeChargeMinorUnits),
    ("overlapMinorUnits", bigintJson c.overlapMinorUnits),
    ("basisReference", .str c.basisReference),
    ("reconciledBy", .str c.reconciledBy)])

/-! ## Checks of parameters -/

/-- `LinkRevenueRunFactParams`. -/
structure LinkRevenueRunFactParams where
  workspaceId : EntityId
  revenueRunId : EntityId
  factId : EntityId
  linkedBy : String
  deriving DecidableEq, Repr

/-- `RecordRevenueRunCostReconciliationParams`. -/
structure RecordRevenueRunCostReconciliationParams where
  workspaceId : EntityId
  revenueRunId : EntityId
  overlapMinorUnits : Int
  basisReference : String
  idempotencyKey : String
  reconciledBy : String
  deriving DecidableEq, Repr

/-- `RecordRevenueRunCommercialEvidenceParams`: what is hashed, and the idempotency key. -/
structure RecordRevenueRunCommercialEvidenceParams extends CommercialAssertion where
  idempotencyKey : String
  deriving DecidableEq, Repr

/-- The text has as many UTF-16 code units, and no white space at either end. -/
def IsBoundedText (maximum : Nat) (value : String) : Prop :=
  1 ≤ utf16Length value ∧ utf16Length value ≤ maximum
    ∧ value.toList.head?.all (fun c => !isJsSpace c) = true
    ∧ value.toList.getLast?.all (fun c => !isJsSpace c) = true

instance (maximum : Nat) (value : String) : Decidable (IsBoundedText maximum value) :=
  inferInstanceAs (Decidable (_ ∧ _))

/-- `requireBoundedText`. -/
def requireBoundedText (value field : String) : Except Failure Unit :=
  throwIf (¬ IsBoundedText 200 value) (revenueRunInvalidInput (field ++ " must be 1-200 trimmed characters"))

/-- `validateLinkParams`. -/
def validateLinkParams (params : LinkRevenueRunFactParams) : Except Failure Unit := do
  requireBoundedText params.workspaceId "workspaceId"
  requireBoundedText params.revenueRunId "revenueRunId"
  requireBoundedText params.factId "factId"
  requireBoundedText params.linkedBy "linkedBy"

/-- `validateCostReconciliationParams`. -/
def validateCostReconciliationParams (params : RecordRevenueRunCostReconciliationParams) :
    Except Failure Unit := do
  requireBoundedText params.workspaceId "workspaceId"
  requireBoundedText params.revenueRunId "revenueRunId"
  requireBoundedText params.idempotencyKey "idempotencyKey"
  requireBoundedText params.reconciledBy "reconciledBy"
  throwIf (¬ IsBoundedText 500 params.basisReference)
    (revenueRunInvalidInput "basisReference must be 1-500 trimmed characters")
  throwIf (params.overlapMinorUnits < 0)
    (revenueRunInvalidInput "overlapMinorUnits must be a non-negative bigint")

/-- A lowercase SHA-256 digest. -/
def isSha256 (value : String) : Bool :=
  value.toList.length = 64 && value.toList.all fun c => c.isDigit || ('a' ≤ c && c ≤ 'f')

/-- `validateCommercialEvidenceParams`. -/
def validateCommercialEvidenceParams (params : RecordRevenueRunCommercialEvidenceParams)
    (capturedAt : Int) : Except Failure Unit := do
  requireBoundedText params.workspaceId "workspaceId"
  requireBoundedText params.revenueRunId "revenueRunId"
  requireBoundedText params.revenueEntryId "revenueEntryId"
  requireBoundedText params.idempotencyKey "idempotencyKey"
  requireBoundedText params.recordedBy "recordedBy"
  throwIf (isSha256 params.sourceReferenceHash = false)
    (revenueRunInvalidInput "sourceReferenceHash must be a lowercase SHA-256 digest")
  throwIf (isSha256 params.sourceArtifactSha256 = false)
    (revenueRunInvalidInput "sourceArtifactSha256 must be a lowercase SHA-256 digest")
  throwIf (capturedAt < params.observedAt)
    (revenueRunInvalidInput "observedAt must be a valid non-future timestamp")

/-! ## Links -/

/-- The run of a workspace. -/
def findRun (facts : Facts) (workspaceId revenueRunId : EntityId) : Except Failure RevenueRun :=
  match (facts.runs.get? revenueRunId).filter fun run => decide (run.workspaceId = workspaceId) with
  | none => .error (revenueRunNotFound "Revenue run not found")
  | some run => .ok run

/-- `exactLinkReplay`. -/
def ExactLinkReplay (existing candidate : RevenueRunLink) : Prop :=
  existing.workspaceId = candidate.workspaceId ∧ existing.revenueRunId = candidate.revenueRunId
    ∧ existing.evidenceHash = candidate.evidenceHash ∧ existing.linkedBy = candidate.linkedBy

instance (existing candidate : RevenueRunLink) : Decidable (ExactLinkReplay existing candidate) :=
  inferInstanceAs (Decidable (_ ∧ _))

/-- The end of the three link functions: the link that exists, if it is the same, or a new one. -/
def linkFact {K V : Type} [DecidableEq K] [HasKey K V] (toLink : V → RevenueRunLink) (conflict : String)
    (table : Store K V) (candidate : V) : Except Failure (RevenueRunLink × Store K V) :=
  match table.get? (keyOf candidate) with
  | some existing => do
    throwIf (¬ ExactLinkReplay (toLink existing) (toLink candidate)) (revenueRunConflict conflict)
    return (toLink existing, table)
  | none => .ok (toLink candidate, table.put candidate)

/-- The link that is asked for. -/
def LinkRevenueRunFactParams.link (params : LinkRevenueRunFactParams) (evidenceHash : String) :
    RevenueRunLink :=
  ⟨params.workspaceId, params.revenueRunId, params.factId, evidenceHash, params.linkedBy⟩

variable (facts : Facts) (gate : Except Failure Unit) (tables : OutcomeTables)

/-- `linkRevenueRunRevenueEntry`. -/
def linkRevenueRunRevenueEntry (params : LinkRevenueRunFactParams) :
    Except Failure (RevenueRunLink × OutcomeTables) := do
  validateLinkParams params
  gate
  let run ← findRun facts params.workspaceId params.revenueRunId
  throwIf (run.currency ≠ "EUR")
    (revenueRunInvalidInput "EUR revenue evidence cannot be linked to this currency")
  match (facts.revenueEntries.get? params.factId).filter fun entry =>
      decide (entry.workspaceId = params.workspaceId ∧ entry.ventureProposalId = run.ventureProposalId) with
  | none => throw (revenueRunNotFound "Revenue entry not found for the exact venture")
  | some entry =>
    let (link, revenueEntries) ← linkFact RevenueRunRevenueEntry.toRevenueRunLink
      "Revenue entry already has different correlation evidence" tables.revenueEntries
      ⟨params.link (revenueEntryEvidenceHash hashObject entry)⟩
    return (link, { tables with revenueEntries := revenueEntries })

/-- `linkRevenueRunExpense`. -/
def linkRevenueRunExpense (params : LinkRevenueRunFactParams) :
    Except Failure (RevenueRunLink × OutcomeTables) := do
  validateLinkParams params
  gate
  let run ← findRun facts params.workspaceId params.revenueRunId
  throwIf (run.currency ≠ "EUR")
    (revenueRunInvalidInput "EUR expense evidence cannot be linked to this currency")
  match (facts.expenses.get? params.factId).filter fun expense =>
      decide (expense.workspaceId = params.workspaceId ∧ expense.ventureProposalId = some run.ventureProposalId) with
  | none => throw (revenueRunNotFound "Expense not found for the exact venture")
  | some expense =>
    let (link, expenses) ← linkFact RevenueRunExpense.toRevenueRunLink
      "Expense already has different correlation evidence" tables.expenses
      ⟨params.link (expenseEvidenceHash hashObject expense)⟩
    return (link, { tables with expenses := expenses })

/-- `linkRevenueRunUsage`. -/
def linkRevenueRunUsage (params : LinkRevenueRunFactParams) :
    Except Failure (RevenueRunLink × OutcomeTables) := do
  validateLinkParams params
  gate
  let run ← findRun facts params.workspaceId params.revenueRunId
  match run.runId.filter fun id => decide (id ≠ "") with
  | none => throw (revenueRunInvalidInput "Revenue run has no exact ACP run binding")
  | some runId =>
    match (facts.usages.get? (key params.workspaceId params.factId)).filter fun usage =>
        decide (usage.runId = runId ∧ usage.currency = run.currency) with
    | none => throw (revenueRunNotFound "ACP usage not found for the exact run and currency")
    | some usage =>
      let evidenceHash ← usageEvidenceHash hashObject usage
      let (link, usages) ← linkFact RevenueRunUsage.toRevenueRunLink
        "ACP usage already has different correlation evidence" tables.usages
        ⟨params.link evidenceHash⟩
      return (link, { tables with usages := usages })

/-! ## Commercial evidence -/

/-- `recordRevenueRunCommercialEvidence`. -/
def recordRevenueRunCommercialEvidence (id : EntityId) (capturedAt : Int)
    (params : RecordRevenueRunCommercialEvidenceParams) :
    Except Failure (RevenueRunCommercialEvidence × OutcomeTables) := do
  validateCommercialEvidenceParams params capturedAt
  gate
  throwIf ((tables.revenueEntries.get? params.revenueEntryId).all (fun link =>
      decide (link.workspaceId ≠ params.workspaceId ∨ link.revenueRunId ≠ params.revenueRunId)) = true)
    (revenueRunNotFound "Exact revenue-run revenue link not found")
  let evidenceHash := commercialEvidenceHash hashObject params.toCommercialAssertion
  match tables.commercialEvidence.get? (key params.workspaceId params.idempotencyKey) with
  | some existing =>
    throwIf (existing.toCommercialAssertion ≠ params.toCommercialAssertion
        ∨ existing.evidenceHash ≠ evidenceHash)
      (revenueRunConflict "Commercial-evidence idempotency key already has different evidence")
    return (existing, tables)
  | none =>
    throwIf (tables.commercialEvidence.values.any fun e =>
        decide (e.workspaceId = params.workspaceId ∧ e.revenueRunId = params.revenueRunId
          ∧ e.revenueEntryId = params.revenueEntryId ∧ e.kind = params.kind
          ∧ e.sourceArtifactSha256 = params.sourceArtifactSha256))
      (revenueRunConflict "Commercial evidence artifact already has an immutable assertion")
    let row : RevenueRunCommercialEvidence :=
      { params.toCommercialAssertion with
        id := id
        idempotencyKey := params.idempotencyKey
        evidenceHash := evidenceHash }
    return (row, { tables with commercialEvidence := tables.commercialEvidence.put row })

/-! ## Reconciliation -/

/-- The revenue links of a run, with their entries. -/
def linkedRevenueEntries (runId : EntityId) : List (RevenueRunLink × RevenueEntry) :=
  tables.revenueEntries.values.filterMap fun l =>
    if l.revenueRunId = runId then
      (facts.revenueEntries.get? l.factId).map fun entry => (l.toRevenueRunLink, entry)
    else none

/-- The expense links of a run, with their expenses. -/
def linkedExpenses (runId : EntityId) : List (RevenueRunLink × Expense) :=
  tables.expenses.values.filterMap fun l =>
    if l.revenueRunId = runId then
      (facts.expenses.get? l.factId).map fun expense => (l.toRevenueRunLink, expense)
    else none

/-- The usage links of a run, with their usages. -/
def linkedUsages (runId : EntityId) : List (RevenueRunLink × AcpRunUsage) :=
  tables.usages.values.filterMap fun l =>
    if l.revenueRunId = runId then
      (facts.usages.get? (key l.workspaceId l.factId)).map fun usage => (l.toRevenueRunLink, usage)
    else none

/-- The sum of an amount over linked facts, of which each is hashed again. -/
def sumLinked {F : Type} (evidenceHash : F → Except Failure String) (drift : String)
    (amount : F → Except Failure Int) : List (RevenueRunLink × F) → Except Failure Int
  | [] => .ok 0
  | (link, fact) :: rest => do
    let hash ← evidenceHash fact
    throwIf (hash ≠ link.evidenceHash) (revenueRunEvidenceDrift drift)
    let n ← amount fact
    let total ← sumLinked evidenceHash drift amount rest
    return n + total

/-- The sum of the linked expenses. -/
def sumExpenses (links : List (RevenueRunLink × Expense)) : Except Failure Int :=
  sumLinked (fun expense => .ok (expenseEvidenceHash hashObject expense))
    "Expense evidence changed after linking"
    (fun expense => eurDecimalToMinorUnits (decimalText expense.amountEur)) links

/-- The sum of the linked usage charges. -/
def sumUsages (links : List (RevenueRunLink × AcpRunUsage)) : Except Failure Int :=
  sumLinked (usageEvidenceHash hashObject) "ACP usage evidence changed after linking"
    (fun usage => .ok usage.costMinorUnits) links

/-- The largest `bigint`. -/
def largestBigint : Int := 2 ^ 63 - 1

/-- `recordRevenueRunCostReconciliation`. -/
def recordRevenueRunCostReconciliation (id : EntityId)
    (params : RecordRevenueRunCostReconciliationParams) :
    Except Failure (RevenueRunCostReconciliation × OutcomeTables) := do
  validateCostReconciliationParams params
  gate
  let run ← findRun facts params.workspaceId params.revenueRunId
  let expenses := linkedExpenses facts tables run.id
  let usages := linkedUsages facts tables run.id
  throwIf (expenses = [] ∨ usages = [])
    (revenueRunInvalidInput "Cost reconciliation requires both expense and recognized runtime evidence")
  let expenseTotal ← sumExpenses hashObject expenses
  let runtimeCharge ← sumUsages hashObject usages
  throwIf (expenseTotal < 0 ∨ runtimeCharge < 0)
    (revenueRunEvidenceDrift "Cost evidence contains a negative aggregate")
  throwIf (expenseTotal < params.overlapMinorUnits ∨ runtimeCharge < params.overlapMinorUnits)
    (revenueRunInvalidInput "overlapMinorUnits exceeds an authoritative cost aggregate")
  let candidate : ReconciledCosts :=
    { workspaceId := params.workspaceId
      revenueRunId := params.revenueRunId
      currency := run.currency
      expenseEvidenceSetHash :=
        costEvidenceSetHash hashObject localeCompare "EXPENSE_SET" (expenses.map Prod.fst)
      usageEvidenceSetHash :=
        costEvidenceSetHash hashObject localeCompare "RECOGNIZED_RUNTIME_USAGE_SET" (usages.map Prod.fst)
      expenseTotalMinorUnits := expenseTotal
      runtimeChargeMinorUnits := runtimeCharge
      overlapMinorUnits := params.overlapMinorUnits
      basisReference := params.basisReference
      reconciledBy := params.reconciledBy }
  let reconciliationHash := costReconciliationHash hashObject candidate
  match tables.costReconciliations.get? (key params.workspaceId params.idempotencyKey) with
  | some existing =>
    throwIf (existing.toReconciledCosts ≠ candidate ∨ existing.reconciliationHash ≠ reconciliationHash)
      (revenueRunConflict "Cost-reconciliation idempotency key already has different evidence")
    return (existing, tables)
  | none =>
    throwIf (tables.costReconciliations.values.any fun r =>
        decide (r.workspaceId = params.workspaceId ∧ r.revenueRunId = params.revenueRunId
          ∧ r.expenseEvidenceSetHash = candidate.expenseEvidenceSetHash
          ∧ r.usageEvidenceSetHash = candidate.usageEvidenceSetHash))
      (revenueRunConflict "Current cost evidence set already has immutable reconciliation evidence")
    throwIf (largestBigint < expenseTotal ∨ largestBigint < runtimeCharge)
      ⟨.databaseConstraint, "bigint out of range"⟩
    let row : RevenueRunCostReconciliation :=
      { candidate with
        id := id
        idempotencyKey := params.idempotencyKey
        reconciliationHash := reconciliationHash }
    return (row, { tables with costReconciliations := tables.costReconciliations.put row })

/-! ## The outcome -/

/-- `forecast`. -/
structure Forecast where
  expectedRevenueMinorUnits : Int
  expectedCostMinorUnits : Int
  downsideMinorUnits : Int
  confidenceBps : Int
  timeToCashDays : Int
  evidenceHash : String

/-- `recordedRevenue.commercialEvidence`. -/
structure CommercialEvidenceSummary where
  evidenceCount : Nat
  paymentSettlementCount : Nat
  deliveryConfirmationCount : Nat
  refundObservationCount : Nat
  evidenceSetHash : Option String
  state : String

/-- `recordedRevenue`. -/
structure RecordedRevenue where
  evidenceCount : Nat
  grossMinorUnits : Int
  netMinorUnits : Int
  verificationState : String
  commercialEvidence : CommercialEvidenceSummary

/-- `recordedCosts.reconciliation`. -/
structure ReconciliationReference where
  id : EntityId
  evidenceHash : String
  basisReference : String

/-- `recordedCosts`. -/
structure RecordedCosts where
  expenseEvidenceCount : Nat
  expenseMinorUnits : Int
  recognizedRuntimeUsageCount : Nat
  recognizedRuntimeChargeMinorUnits : Int
  recognizedRuntimeComputeUnits : Int
  overlapState : String
  reconciledOverlapMinorUnits : Option Int
  deduplicatedTotalMinorUnits : Option Int
  reconciliation : Option ReconciliationReference

/-- `profit`. -/
structure Profit where
  minorUnits : Option Int
  state : String

/-- What `getRevenueRunOutcomeEvidence` answers. -/
structure OutcomeEvidence where
  id : EntityId
  workspaceId : EntityId
  currency : String
  forecast : Forecast
  recordedRevenue : RecordedRevenue
  recordedCosts : RecordedCosts
  profit : Profit

/-- The commercial evidence of a revenue link. -/
def evidenceOfLink (link : RevenueRunLink) : List RevenueRunCommercialEvidence :=
  tables.commercialEvidence.values.filter fun e =>
    decide (e.workspaceId = link.workspaceId ∧ e.revenueRunId = link.revenueRunId ∧ e.revenueEntryId = link.factId)

/-- The sums of the linked revenue entries, gross and net, and their commercial evidence. -/
def sumRevenue (workspaceId revenueRunId : EntityId) : List (RevenueRunLink × RevenueEntry) →
    Except Failure (Int × Int × List RevenueRunCommercialEvidence)
  | [] => .ok (0, 0, [])
  | (link, entry) :: rest => do
    throwIf (revenueEntryEvidenceHash hashObject entry ≠ link.evidenceHash)
      (revenueRunEvidenceDrift "Revenue-entry evidence changed after linking")
    let gross ← eurDecimalToMinorUnits (decimalText entry.grossRevenueEur)
    let net ← eurDecimalToMinorUnits (decimalText entry.netRevenueEur)
    let evidence := evidenceOfLink tables link
    throwIf (evidence.any fun e =>
        decide (e.workspaceId ≠ workspaceId ∨ e.revenueRunId ≠ revenueRunId
          ∨ e.revenueEntryId ≠ link.factId
          ∨ commercialEvidenceHash hashObject e.toCommercialAssertion ≠ e.evidenceHash))
      (revenueRunEvidenceDrift "Commercial evidence does not match its exact revenue link")
    let (grossRest, netRest, evidenceRest) ← sumRevenue workspaceId revenueRunId rest
    return (gross + grossRest, net + netRest, evidence ++ evidenceRest)

/-- `costReconciliations: { orderBy: { createdAt: 'desc' }, take: 1 }`. -/
def latestReconciliation (runId : EntityId) : Option RevenueRunCostReconciliation :=
  (tables.costReconciliations.values.filter fun r => decide (r.revenueRunId = runId)).getLast?

/-- The reconciliation, if it is one of these sets. -/
def matching (expenseEvidenceSetHash usageEvidenceSetHash : String)
    (reconciliation : Option RevenueRunCostReconciliation) : Option RevenueRunCostReconciliation :=
  reconciliation.filter fun r =>
    decide (r.expenseEvidenceSetHash = expenseEvidenceSetHash ∧ r.usageEvidenceSetHash = usageEvidenceSetHash)

/-- A reconciliation of the current sets is compared with what is read. -/
def assertReconciliation (run : RevenueRun) (workspaceId revenueRunId : EntityId)
    (expenseMinorUnits runtimeCharge : Int) : Option RevenueRunCostReconciliation → Except Failure Unit
  | none => .ok ()
  | some r =>
    throwIf (r.workspaceId ≠ workspaceId ∨ r.revenueRunId ≠ revenueRunId ∨ r.currency ≠ run.currency
        ∨ r.expenseTotalMinorUnits ≠ expenseMinorUnits ∨ r.runtimeChargeMinorUnits ≠ runtimeCharge
        ∨ expenseMinorUnits < r.overlapMinorUnits ∨ runtimeCharge < r.overlapMinorUnits
        ∨ r.reconciliationHash ≠ costReconciliationHash hashObject r.toReconciledCosts)
      (revenueRunEvidenceDrift
        "Cost-reconciliation evidence does not match authoritative aggregates")

/-- `recordedRevenue.commercialEvidence` of the evidence that was read. -/
def summarizeEvidence (evidence : List RevenueRunCommercialEvidence) : CommercialEvidenceSummary where
  evidenceCount := evidence.length
  paymentSettlementCount := (evidence.filter fun e => decide (e.kind = .PAYMENT_SETTLEMENT)).length
  deliveryConfirmationCount := (evidence.filter fun e => decide (e.kind = .DELIVERY_CONFIRMATION)).length
  refundObservationCount := (evidence.filter fun e => decide (e.kind = .REFUND_OBSERVATION)).length
  evidenceSetHash :=
    if evidence.length = 0 then none else some (commercialEvidenceSetHash hashObject localeCompare evidence)
  state :=
    if evidence.length = 0 then "NO_COMMERCIAL_EVIDENCE" else "UNVERIFIED_EXTERNAL_ASSERTIONS"

/-- `getRevenueRunOutcomeEvidence`. The gate is `enforceFinanceRead`. -/
def getRevenueRunOutcomeEvidence (workspaceId revenueRunId : EntityId) : Except Failure OutcomeEvidence := do
  requireBoundedText workspaceId "workspaceId"
  requireBoundedText revenueRunId "revenueRunId"
  gate
  let run ← findRun facts workspaceId revenueRunId
  let revenueEntries := linkedRevenueEntries facts tables run.id
  let (gross, net, evidence) ← sumRevenue hashObject tables workspaceId revenueRunId revenueEntries
  let expenses := linkedExpenses facts tables run.id
  let expenseMinorUnits ← sumExpenses hashObject expenses
  let usages := linkedUsages facts tables run.id
  let runtimeCharge ← sumUsages hashObject usages
  let latest := latestReconciliation tables run.id
  let current := matching
    (costEvidenceSetHash hashObject localeCompare "EXPENSE_SET" (expenses.map Prod.fst))
    (costEvidenceSetHash hashObject localeCompare "RECOGNIZED_RUNTIME_USAGE_SET" (usages.map Prod.fst))
    latest
  assertReconciliation hashObject run workspaceId revenueRunId expenseMinorUnits runtimeCharge current
  let deduplicated := current.map fun r => expenseMinorUnits + runtimeCharge - r.overlapMinorUnits
  return {
    id := run.id
    workspaceId := run.workspaceId
    currency := run.currency
    forecast :=
      { expectedRevenueMinorUnits := run.expectedRevenueMinorUnits
        expectedCostMinorUnits := run.expectedCostMinorUnits
        downsideMinorUnits := run.downsideMinorUnits
        confidenceBps := run.confidenceBps
        timeToCashDays := run.timeToCashDays
        evidenceHash := run.forecastEvidenceHash }
    recordedRevenue :=
      { evidenceCount := revenueEntries.length
        grossMinorUnits := gross
        netMinorUnits := net
        verificationState := "UNVERIFIED_SOURCE_RECORDS"
        commercialEvidence := summarizeEvidence hashObject localeCompare evidence }
    recordedCosts :=
      { expenseEvidenceCount := expenses.length
        expenseMinorUnits := expenseMinorUnits
        recognizedRuntimeUsageCount := usages.length
        recognizedRuntimeChargeMinorUnits := runtimeCharge
        recognizedRuntimeComputeUnits := (usages.map fun l => l.2.computeUnits).sum
        overlapState :=
          if current.isSome then "RECONCILED_EXACT_EVIDENCE_SET"
          else if latest.isSome then "STALE_RECONCILIATION_EVIDENCE_SET"
          else "POTENTIAL_EXPENSE_RUNTIME_OVERLAP"
        reconciledOverlapMinorUnits := current.map fun r => r.overlapMinorUnits
        deduplicatedTotalMinorUnits := deduplicated
        reconciliation := current.map fun r => ⟨r.id, r.reconciliationHash, r.basisReference⟩ }
    profit :=
      { minorUnits := deduplicated.map fun total => net - total
        state :=
          if deduplicated.isNone then "NOT_CALCULATED_POTENTIAL_COST_OVERLAP"
          else "CALCULATED_FROM_UNVERIFIED_REVENUE_AND_RECONCILED_COSTS" } }

end Outcomes

/-! ## Runs -/

/-- The operations that write. -/
inductive OutcomeCall where
  | linkRevenueEntry (params : LinkRevenueRunFactParams)
  | linkExpense (params : LinkRevenueRunFactParams)
  | linkUsage (params : LinkRevenueRunFactParams)
  | recordEvidence (id : EntityId) (capturedAt : Int) (params : RecordRevenueRunCommercialEvidenceParams)
  | reconcile (id : EntityId) (params : RecordRevenueRunCostReconciliationParams)

/-- A call, and what the gate answers to it. -/
structure OutcomeLabel where
  gate : Except Failure Unit
  call : OutcomeCall

/-- What a call answers. -/
inductive OutcomeAnswer where
  | linked (link : RevenueRunLink)
  | evidence (row : RevenueRunCommercialEvidence)
  | reconciled (row : RevenueRunCostReconciliation)

section Step

variable (hashObject : Json → String) (localeCompare : String → String → Int) (facts : Facts)

/-- The transaction of a call. -/
def performOutcome (l : OutcomeLabel) (tables : OutcomeTables) :
    Except Failure (OutcomeAnswer × OutcomeTables) :=
  match l.call with
  | .linkRevenueEntry params => do
    let r ← linkRevenueRunRevenueEntry hashObject facts l.gate tables params
    return (.linked r.1, r.2)
  | .linkExpense params => do
    let r ← linkRevenueRunExpense hashObject facts l.gate tables params
    return (.linked r.1, r.2)
  | .linkUsage params => do
    let r ← linkRevenueRunUsage hashObject facts l.gate tables params
    return (.linked r.1, r.2)
  | .recordEvidence id capturedAt params => do
    let r ← recordRevenueRunCommercialEvidence hashObject l.gate tables id capturedAt params
    return (.evidence r.1, r.2)
  | .reconcile id params => do
    let r ← recordRevenueRunCostReconciliation hashObject localeCompare facts l.gate tables id params
    return (.reconciled r.1, r.2)

/-- One call: committed, or as if it had not been made. -/
def advanceOutcome (l : OutcomeLabel) (tables : OutcomeTables) :
    Except Failure OutcomeAnswer × OutcomeTables :=
  match performOutcome hashObject localeCompare facts l tables with
  | .ok (answer, tables') => (.ok answer, tables')
  | .error e => (.error e, tables)

end Step

end VentureOS.Finance
