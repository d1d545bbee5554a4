import Mathlib.Data.Int.ConditionallyCompleteOrder
import VentureOS.Foundations.Machine
import VentureOS.Foundations.Text
import VentureOS.Foundations.Totals
import VentureOS.Foundations.Transaction
import VentureOS.ControlPlane.Contracts

/-! # Business spending

`business-spend-policy.ts` and `business-spending.ts` as transactions on the tables of the migration
`business_spending_commitments`. Amounts are EUR cents, instants are microseconds. Every operation locks
the account of its workspace first, so operations on one account follow each other; a label carries what an
operation is given: its arguments, what the capability gate answers and the time that passes before each
reading of the clock. -/

namespace VentureOS.Finance

open ControlPlane Transaction

/-- `new BusinessSpendDeniedError(message)`. -/
def businessSpendDenied (message : String) : Failure := ⟨.businessSpendDenied, message⟩

/-! ## Limits -/

/-- `BUSINESS_SPEND_LIMITS.monthlyCents`. -/
def monthlyCents : Int := 15000

/-- `BUSINESS_SPEND_LIMITS.singleCommitmentCents`. -/
def singleCommitmentCents : Int := 2500

/-- `business_spending_accounts.state`. -/
inductive ExecutionState where
  | RUNNING
  | PAUSED
  | STOPPED
  deriving DecidableEq, Repr

/-- `SpendCapacity`. -/
structure SpendCapacity where
  state : ExecutionState
  fundingFresh : Bool
  availableCents : Int
  monthlyUsedCents : Int
  relatedUsedCents : Int
  deriving DecidableEq, Repr

/-- `assertBusinessSpend`. -/
def assertBusinessSpend (capacity : SpendCapacity) (cents : Int) : Except Failure Unit := do
  throwIf (cents ≤ 0) (businessSpendDenied "A positive integer-cent commitment is required")
  throwIf (capacity.state ≠ .RUNNING)
    (businessSpendDenied "Business execution is paused or stopped")
  throwIf (capacity.fundingFresh = false)
    (businessSpendDenied "Available funding is not currently verified")
  throwIf (singleCommitmentCents < cents + capacity.relatedUsedCents)
    (businessSpendDenied "Related purchases exceed the EUR 25 commitment limit")
  throwIf (monthlyCents < cents + capacity.monthlyUsedCents)
    (businessSpendDenied "Paid and committed costs exceed the EUR 150 monthly limit")
  throwIf (capacity.availableCents < cents)
    (businessSpendDenied "Insufficient verified funds after reserves and commitments")

/-! ## Tables -/

/-- A row of `business_spending_accounts`. -/
structure Account where
  workspaceId : EntityId
  state : ExecutionState
  fundingCents : Int
  protectedCents : Int
  /-- `funding_valid_until` with `funding_evidence`, which are null together. -/
  funding : Option (Int × String)
  deriving DecidableEq, Repr

/-- `business_spending_commitments.state`, with the columns that the table's checks bind to it. -/
inductive CommitmentState where
  | RESERVED
  | SETTLED (actualCents : Nat) (settledAt : Int) (settlementEvidence : String)
  | CANCELLED (settlementEvidence : String)
  deriving DecidableEq, Repr

/-- A row of `business_spending_commitments`. -/
structure Commitment where
  workspaceId : EntityId
  id : String
  purchaseGroup : String
  reservedCents : Int
  /-- `CHECK (reserved_cents BETWEEN 1 AND 2500)`. -/
  bounded : 1 ≤ reservedCents ∧ reservedCents ≤ 2500
  costEvidence : String
  /-- Milliseconds. -/
  costValidUntil : Int
  state : CommitmentState
  deriving DecidableEq, Repr

/-- `business_spending_events.kind`. -/
inductive SpendingEventKind where
  | RESERVED
  | SETTLED
  | CANCELLED
  | PAUSED
  | RESUMED
  | STOPPED
  deriving DecidableEq, Repr

/-- A row of `business_spending_events`. -/
structure SpendingEvent where
  workspaceId : EntityId
  commitmentId : Option String
  kind : SpendingEventKind
  cents : Option Int
  evidence : String
  deriving DecidableEq, Repr

instance : HasKey EntityId Account := ⟨Account.workspaceId⟩
instance : HasKey Key Commitment := ⟨fun c => key c.workspaceId c.id⟩

@[simp] theorem keyOf_account (a : Account) : keyOf a = a.workspaceId := rfl
@[simp] theorem keyOf_commitment (c : Commitment) : keyOf c = key c.workspaceId c.id := rfl

/-- The tables. -/
structure Ledger where
  accounts : Store EntityId Account
  commitments : Store Key Commitment
  events : List SpendingEvent

/-- The commitment was cancelled. -/
def CommitmentState.Cancelled : CommitmentState → Prop
  | .CANCELLED _ => True
  | _ => False

instance : ∀ state : CommitmentState, Decidable state.Cancelled
  | .RESERVED => instDecidableFalse
  | .SETTLED _ _ _ => instDecidableFalse
  | .CANCELLED _ => instDecidableTrue

/-- `COALESCE(actual_cents, reserved_cents)`. -/
def Commitment.cents (c : Commitment) : Int :=
  match c.state with
  | .SETTLED actualCents _ _ => actualCents
  | _ => c.reservedCents

/-- The calendar of `Asia/Nicosia`: the months of its local time are numbered, and a later instant is in no
earlier month. -/
structure Calendar where
  /-- `date_trunc('month', t AT TIME ZONE 'Asia/Nicosia')`. -/
  month : Int → Int
  monotone : Monotone month

/-- The commitment counts for the month of an instant. -/
def Commitment.InMonth (calendar : Calendar) (now : Int) (c : Commitment) : Prop :=
  match c.state with
  | .RESERVED => True
  | .SETTLED _ settledAt _ => calendar.month settledAt = calendar.month now
  | .CANCELLED _ => False

instance (calendar : Calendar) (now : Int) (c : Commitment) :
    Decidable (c.InMonth calendar now) := by
  unfold Commitment.InMonth
  cases c.state <;> infer_instance

/-! ## Sessions -/

/-- A transaction in progress: the tables, the last reading of the clock and how many there were. -/
structure Session where
  ledger : Ledger
  now : Int
  ticks : Nat

/-- Statements of a transaction. -/
abbrev Tx (α : Type) := Transaction Failure Session α

/-- The tables as a query sees them. -/
def read : Tx Ledger := do
  return (← get).ledger

/-- Change the tables. -/
def write (f : Ledger → Ledger) : Tx Unit :=
  modify fun session => { session with ledger := f session.ledger }

/-- `clock_timestamp()`: before the `k`-th reading `elapsed k` microseconds pass. -/
def clockTimestamp (elapsed : Nat → Nat) : Tx Int := do
  let session ← get
  let now := session.now + elapsed session.ticks
  set { session with now := now, ticks := session.ticks + 1 }
  return now

/-- `new row for relation violates check constraint`. -/
def checkViolation : Failure := ⟨.databaseConstraint, "Check constraint failed"⟩

/-- `bigint out of range`. -/
def numericOutOfRange : Failure := ⟨.databaseConstraint, "bigint out of range"⟩

/-- What `business_commitment_immutable` raises. -/
def immutableHistory : Failure := ⟨.databaseConstraint, "Business commitment history is immutable"⟩

/-- The largest `bigint`. -/
def maxBigint : Int := 2 ^ 63 - 1

/-- The characters of an evidence reference. -/
def isReferenceChar (c : Char) : Bool := isAlnum c || ":._/-".toList.contains c

/-- `reference`: one to 200 letters, digits or `:` `.` `_` `/` `-`. -/
def reference (value : String) : Except Failure Unit :=
  throwIf (value.toList = [] ∨ 200 < value.toList.length ∨ value.toList.all isReferenceChar = false)
    (businessSpendDenied "A bounded evidence reference is required")

section Operations

variable (calendar : Calendar) (elapsed : Nat → Nat) (gate : Except Failure Unit)

/-- `lockAccount`: the account, and whether its funding is fresh. -/
def lockAccount (workspaceId : EntityId) : Tx (Account × Bool) := do
  let now ← clockTimestamp elapsed
  match (← read).accounts.get? workspaceId with
  | none => throw (businessSpendDenied "Business funding has not been configured")
  | some account => return (account, account.funding.any fun funding => now < funding.1)

/-- The rows that `totals` sums up. -/
def Ledger.outstanding (ledger : Ledger) (workspaceId : EntityId) : List Commitment :=
  ledger.commitments.values.filter fun c => c.workspaceId = workspaceId ∧ ¬ c.state.Cancelled

/-- `monthly`: every row is compared with the clock on its own. -/
def monthlyTotal : List Commitment → Tx Int
  | [] => return 0
  | c :: rest => do
    let now ← clockTimestamp elapsed
    let sum ← monthlyTotal rest
    return (if c.InMonth calendar now then c.cents else 0) + sum

/-- `totals`. -/
structure Totals where
  lifetime : Int
  monthly : Int
  related : Int

/-- `totals`. -/
def totals (workspaceId : EntityId) (group : String) : Tx Totals := do
  let rows := (← read).outstanding workspaceId
  let lifetime := (rows.map Commitment.cents).sum
  let monthly ← monthlyTotal calendar elapsed rows
  let related := ((rows.filter fun c => c.purchaseGroup = group).map Commitment.cents).sum
  throwIf (maxBigint < lifetime ∨ maxBigint < monthly ∨ maxBigint < related) numericOutOfRange
  return ⟨lifetime, monthly, related⟩

/-- `ReserveBusinessExpenseInput`. An invalid date is `none`. -/
structure ReserveBusinessExpenseInput where
  workspaceId : EntityId
  id : String
  purchaseGroup : String
  maximumCents : Int
  costEvidence : String
  costValidUntil : Option Int
  deriving DecidableEq, Repr

/-- `${costValidUntil} > clock_timestamp()`. -/
def assertCostValid (costValidUntil : Int) : Tx Unit := do
  let now ← clockTimestamp elapsed
  throwIf (1000 * costValidUntil ≤ now)
    (businessSpendDenied "Verified cost information has expired")

/-- `INSERT INTO business_spending_events`. -/
def insertEvent (event : SpendingEvent) : Tx Unit :=
  write fun ledger => { ledger with events := ledger.events ++ [event] }

/-- `INSERT INTO business_spending_commitments`. -/
def insertCommitment (input : ReserveBusinessExpenseInput) (costValidUntil : Int) : Tx Unit :=
  if bounded : 1 ≤ input.maximumCents ∧ input.maximumCents ≤ 2500 then
    write fun ledger => { ledger with
      commitments := ledger.commitments.put
        { workspaceId := input.workspaceId
          id := input.id
          purchaseGroup := input.purchaseGroup
          reservedCents := input.maximumCents
          bounded := bounded
          costEvidence := input.costEvidence
          costValidUntil := costValidUntil
          state := .RESERVED } }
  else throw checkViolation

/-- `UPDATE business_spending_commitments`, under `business_commitment_immutable_trigger`. -/
def updateCommitment (item : Commitment) (state : CommitmentState) : Tx Unit := do
  throwIf (item.state ≠ .RESERVED) immutableHistory
  write fun ledger => { ledger with
    commitments := ledger.commitments.put { item with state := state } }

/-- `reserveBusinessExpenseInTransaction`. The gate is `enforceFinanceMutation`. -/
def reserveBusinessExpense (input : ReserveBusinessExpenseInput) : Tx Unit := do
  reference input.id
  reference input.purchaseGroup
  reference input.costEvidence
  match input.costValidUntil with
  | none => throw (businessSpendDenied "Verified cost expiry is required")
  | some costValidUntil =>
    gate
    let (account, fundingFresh) ← lockAccount elapsed input.workspaceId
    match (← read).commitments.get? (key input.workspaceId input.id) with
    | some existing =>
      throwIf (existing.purchaseGroup ≠ input.purchaseGroup
          ∨ existing.reservedCents ≠ input.maximumCents
          ∨ existing.costEvidence ≠ input.costEvidence ∨ existing.state ≠ .RESERVED
          ∨ existing.costValidUntil ≠ costValidUntil)
        (businessSpendDenied "Commitment replay does not match the original reservation")
      throwIf (account.state ≠ .RUNNING ∨ fundingFresh = false)
        (businessSpendDenied "Business spending is unavailable")
      assertCostValid elapsed existing.costValidUntil
    | none =>
      assertCostValid elapsed costValidUntil
      let used ← totals calendar elapsed input.workspaceId input.purchaseGroup
      assertBusinessSpend
        { state := account.state
          fundingFresh := fundingFresh
          availableCents := account.fundingCents - account.protectedCents - used.lifetime
          monthlyUsedCents := used.monthly
          relatedUsedCents := used.related }
        input.maximumCents
      insertCommitment input costValidUntil
      insertEvent ⟨input.workspaceId, some input.id, .RESERVED, some input.maximumCents, input.costEvidence⟩

/-- `isBusinessReservationExecutable`. The gate is `enforceFinanceRead`. -/
def isBusinessReservationExecutable (workspaceId : EntityId) (id : String) (requiresFunds : Bool) :
    Tx Bool := do
  gate
  let ledger ← read
  match ledger.accounts.get? workspaceId with
  | none => return false
  | some account =>
    let item := ledger.commitments.get? (key workspaceId id)
    let fundingNow ← clockTimestamp elapsed
    let costNow ← clockTimestamp elapsed
    return decide (account.state = .RUNNING ∧ ((requiresFunds = false ∧ item.isNone = true)
      ∨ ((account.funding.any fun funding => fundingNow < funding.1) = true
        ∧ (item.any fun c => c.state = .RESERVED ∧ costNow < 1000 * c.costValidUntil) = true)))

/-- `cancelBusinessExpense`. -/
def cancelBusinessExpense (workspaceId : EntityId) (id evidence : String) : Tx Unit := do
  reference id
  reference evidence
  gate
  let _ ← lockAccount elapsed workspaceId
  let refused := businessSpendDenied "Reservation cannot be cancelled"
  match (← read).commitments.get? (key workspaceId id) with
  | none => throw refused
  | some item =>
    if item.state = .CANCELLED evidence then return ()
    else do
      throwIf (item.state ≠ .RESERVED) refused
      updateCommitment item (.CANCELLED evidence)
      insertEvent ⟨workspaceId, some id, .CANCELLED, none, evidence⟩

/-- `assertBusinessExecutionInTransaction`. -/
def assertBusinessExecution (workspaceId : EntityId) : Tx Unit := do
  gate
  let (account, _) ← lockAccount elapsed workspaceId
  throwIf (account.state ≠ .RUNNING) (businessSpendDenied "Business execution is paused or stopped")

/-- The commitment is settled at this amount with this evidence. -/
def Commitment.SettledAs (item : Commitment) (actualCents : Int) (evidence : String) : Prop :=
  match item.state with
  | .SETTLED actual _ settlementEvidence => (actual : Int) = actualCents ∧ settlementEvidence = evidence
  | _ => False

instance (item : Commitment) (actualCents : Int) (evidence : String) :
    Decidable (item.SettledAs actualCents evidence) := by
  unfold Commitment.SettledAs
  cases item.state <;> infer_instance

/-- What `reconcileBusinessExpense` does to the account when the provider charged more than was reserved. -/
def pauseOverrun (workspaceId : EntityId) (evidence : String) : Tx Unit := do
  write fun ledger => match ledger.accounts.get? workspaceId with
    | none => ledger
    | some account => { ledger with
        accounts := ledger.accounts.put { account with state := .PAUSED, funding := none } }
  insertEvent ⟨workspaceId, none, .PAUSED, none, evidence⟩

/-- `reconcileBusinessExpense`. -/
def reconcileBusinessExpense (workspaceId : EntityId) (id : String) (actualCents : Int)
    (evidence : String) : Tx Unit := do
  reference id
  reference evidence
  throwIf (actualCents < 0) (businessSpendDenied "Actual cost must be non-negative integer cents")
  gate
  let _ ← lockAccount elapsed workspaceId
  match (← read).commitments.get? (key workspaceId id) with
  | none => throw (businessSpendDenied "Reservation not found")
  | some item =>
    if item.SettledAs actualCents evidence then return ()
    else do
      throwIf (item.state ≠ .RESERVED)
        (businessSpendDenied "Settlement replay conflicts with history")
      throwIf (maxBigint < actualCents) numericOutOfRange
      let settledAt ← clockTimestamp elapsed
      updateCommitment item (.SETTLED actualCents.toNat settledAt evidence)
      insertEvent ⟨workspaceId, some id, .SETTLED, some actualCents, evidence⟩
      if item.reservedCents < actualCents then pauseOverrun workspaceId evidence
      else pure ()

/-- The kind of event that a change of the execution state is. -/
def ExecutionState.event : ExecutionState → SpendingEventKind
  | .RUNNING => .RESUMED
  | .PAUSED => .PAUSED
  | .STOPPED => .STOPPED

/-- The account of a workspace, or the one that `INSERT … ON CONFLICT DO NOTHING` creates. -/
def Ledger.accountOr (ledger : Ledger) (workspaceId : EntityId) : Account :=
  (ledger.accounts.get? workspaceId).getD ⟨workspaceId, .PAUSED, 0, 0, none⟩

/-- `setBusinessExecutionStateInTransaction`. `founder` says whether the founder was found. -/
def setBusinessExecutionState (founder : Bool) (workspaceId : EntityId) (state : ExecutionState)
    (evidence : String) : Tx Unit := do
  reference evidence
  throwIf (founder = false) (businessSpendDenied "Verified workspace founder required")
  liftM (if state = .RUNNING then gate else .ok ())
  write fun ledger => { ledger with
    accounts := ledger.accounts.put (ledger.accountOr workspaceId) }
  let _ ← lockAccount elapsed workspaceId
  write fun ledger => { ledger with
    accounts := ledger.accounts.put { ledger.accountOr workspaceId with state := state } }
  insertEvent ⟨workspaceId, none, state.event, none, evidence⟩

end Operations

/-! ## Calls and runs -/

/-- The operations with their arguments. -/
inductive SpendingCall where
  | reserve (input : ReserveBusinessExpenseInput)
  | isExecutable (workspaceId : EntityId) (id : String) (requiresFunds : Bool)
  | cancel (workspaceId : EntityId) (id evidence : String)
  | reconcile (workspaceId : EntityId) (id : String) (actualCents : Int) (evidence : String)
  | setState (workspaceId : EntityId) (state : ExecutionState) (evidence : String)
  /-- No function of the package verifies funding: its owner's statement sets the deadline and the
  evidence. -/
  | verifyFunding (workspaceId : EntityId) (funding : Option (Int × String))
  deriving DecidableEq

/-- A call with all it is given. -/
structure SpendingLabel where
  elapsed : Nat → Nat
  gate : Except Failure Unit
  founder : Bool
  call : SpendingCall

/-- The tables, and the last reading of the clock. -/
structure SpendingState where
  ledger : Ledger
  now : Int

/-- `UPDATE business_spending_accounts SET funding_valid_until = …, funding_evidence = …`. -/
def verifyFunding (workspaceId : EntityId) (funding : Option (Int × String)) : Tx Unit :=
  write fun ledger => match ledger.accounts.get? workspaceId with
    | none => ledger
    | some account => { ledger with accounts := ledger.accounts.put { account with funding := funding } }

/-- The transaction of a call; it answers whether a reservation is executable when asked that. -/
def performSpending (calendar : Calendar) (l : SpendingLabel) : Tx (Option Bool) :=
  match l.call with
  | .reserve input => do
    reserveBusinessExpense calendar l.elapsed l.gate input
    return none
  | .isExecutable workspaceId id requiresFunds => do
    return some (← isBusinessReservationExecutable l.elapsed l.gate workspaceId id requiresFunds)
  | .cancel workspaceId id evidence => do
    cancelBusinessExpense l.elapsed l.gate workspaceId id evidence
    return none
  | .reconcile workspaceId id actualCents evidence => do
    reconcileBusinessExpense l.elapsed l.gate workspaceId id actualCents evidence
    return none
  | .setState workspaceId state evidence => do
    setBusinessExecutionState l.elapsed l.gate l.founder workspaceId state evidence
    return none
  | .verifyFunding workspaceId funding => do
    verifyFunding workspaceId funding
    return none

/-- One call: committed, or as if it had not been made. -/
def spend (calendar : Calendar) (l : SpendingLabel) (s : SpendingState) :
    Except Failure (Option Bool) × SpendingState :=
  let result := (performSpending calendar l).commit ⟨s.ledger, s.now, 0⟩
  (result.1, ⟨result.2.ledger, result.2.now⟩)

end VentureOS.Finance
