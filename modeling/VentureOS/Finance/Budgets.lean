import VentureOS.Foundations.Machine
import VentureOS.Foundations.Rounding
import VentureOS.Foundations.Totals
import VentureOS.Foundations.Transaction
import VentureOS.ControlPlane.Contracts

/-! # Budget charges

`budget-guard.ts` with the tables `budget_allocations` and `cost_ledger_entries`. A charge is a decimal with
four places. It is filed as it is, compared with the limit in double precision, and added to the spent amount
of the allocation, a column with two places. The two records agree exactly as long as every charge that is
accepted is a whole number of cents. -/

namespace VentureOS.Finance

open ControlPlane Transaction

/-! ## Tables -/

/-- `DECIMAL(10, s)`: what fits in ten digits. -/
def FitsTenDigits (n : Int) : Prop := -10 ^ 10 < n ∧ n < 10 ^ 10

instance (n : Int) : Decidable (FitsTenDigits n) := inferInstanceAs (Decidable (_ ∧ _))

/-- A row of `budget_allocations`, with the workspace of its budget. Amounts are cents. -/
structure BudgetAllocation where
  id : EntityId
  workspaceId : EntityId
  category : String
  limitEur : Int
  spentEur : Int
  /-- The columns are `DECIMAL(10,2)`. -/
  fits : FitsTenDigits limitEur ∧ FitsTenDigits spentEur
  deriving DecidableEq, Repr

/-- A row of `cost_ledger_entries`. The amount is in ten-thousandths of a euro. -/
structure CostLedgerEntry where
  workspaceId : EntityId
  budgetAllocationId : Option EntityId
  ventureProposalId : Option EntityId
  category : String
  amountEur : Int
  source : String
  referenceType : Option String
  referenceId : Option String
  description : Option String
  deriving DecidableEq, Repr

/-- A row of `venture_proposals`. -/
structure VentureProposal where
  id : EntityId
  workspaceId : EntityId
  deriving DecidableEq, Repr

instance : HasKey EntityId BudgetAllocation := ⟨BudgetAllocation.id⟩
instance : HasKey EntityId VentureProposal := ⟨VentureProposal.id⟩

@[simp] theorem keyOf_budgetAllocation (a : BudgetAllocation) : keyOf a = a.id := rfl

/-- The tables. -/
structure BudgetTables where
  allocations : Store EntityId BudgetAllocation
  proposals : Store EntityId VentureProposal
  entries : List CostLedgerEntry

/-- `ChargeToBudgetParams`. The amount is a decimal with four places, in ten-thousandths of a euro. -/
structure ChargeToBudgetParams where
  workspaceId : EntityId
  budgetAllocationId : Option EntityId
  ventureProposalId : Option EntityId
  category : String
  amountEur : Int
  source : String
  referenceType : Option String
  referenceId : Option String
  description : Option String
  deriving DecidableEq, Repr

/-! ## Charging -/

/-- The number that the program is given for a decimal with four places. -/
def amountNumber (amountEur : Int) : ℚ := nearestDouble (amountEur / 10000)

/-- `Number(…)` of a column with two places. -/
def centsNumber (cents : Int) : ℚ := nearestDouble (cents / 100)

/-- `numeric field overflow`. -/
def numericFieldOverflow : Failure := ⟨.databaseConstraint, "numeric field overflow"⟩

/-- `invalid input syntax for type uuid`. -/
def invalidUuid : Failure := ⟨.databaseConstraint, "invalid input syntax for type uuid"⟩

/-- An optional id is used if it is given and not empty. -/
def givenId (id : Option EntityId) : Option EntityId := id.filter fun id => decide (id ≠ "")

section Charging

variable (numberText : ℚ → String) (gate : Except Failure Unit)

/-- `assertPositiveFiniteAmount`. -/
def assertPositiveFiniteAmount (amountEur : Int) : Except Failure Unit :=
  throwIf (doubleOverflow ≤ amountNumber amountEur ∨ amountNumber amountEur ≤ 0)
    ⟨.budgetLimitExceeded, "Budget charges must be a positive finite amount."⟩

/-- The sum that `assertAllocationCapacity` compares with the limit. -/
def projectedSpend (allocation : BudgetAllocation) (amountEur : Int) : ℚ :=
  nearestDouble (centsNumber allocation.spentEur + amountNumber amountEur)

/-- `assertAllocationCapacity`. -/
def assertAllocationCapacity (allocation : BudgetAllocation) (amountEur : Int) : Except Failure Unit :=
  let projected := projectedSpend allocation amountEur
  let limit := centsNumber allocation.limitEur
  throwIf (limit < projected)
    ⟨.budgetLimitExceeded, "Charging EUR " ++ toFixed numberText 4 (amountNumber amountEur)
      ++ " to budget allocation \"" ++ allocation.category ++ "\" would bring spend to EUR "
      ++ toFixed numberText 2 projected ++ ", exceeding its EUR " ++ toFixed numberText 2 limit
      ++ " limit."⟩

/-- `validateVentureOwnership`. -/
def validateVentureOwnership (tables : BudgetTables) (workspaceId : EntityId)
    (ventureProposalId : Option EntityId) : Except Failure Unit :=
  match givenId ventureProposalId with
  | none => .ok ()
  | some id => throwIf ((tables.proposals.get? id).all (fun p => decide (p.workspaceId ≠ workspaceId)) = true)
      ⟨.budgetNotFound, "Venture proposal not found"⟩

/-- The allocation that the charge names: one of its workspace and category. -/
def findAllocation (tables : BudgetTables) (params : ChargeToBudgetParams) (id : EntityId) :
    Except Failure BudgetAllocation :=
  match (tables.allocations.get? id).filter fun a =>
      decide (a.category = params.category ∧ a.workspaceId = params.workspaceId) with
  | none => .error ⟨.budgetNotFound, "BudgetAllocation " ++ id ++ " not found"⟩
  | some allocation => .ok allocation

/-- What the spent amount becomes: the sum, rounded to the two places of the column. -/
def incremented (spentEur amountEur : Int) : Int := roundHalfAway (100 * spentEur + amountEur) 100

/-- `tx.budgetAllocation.update`. -/
def incrementSpent (tables : BudgetTables) (allocation : BudgetAllocation) (amountEur : Int) :
    Except Failure BudgetTables :=
  if fits : FitsTenDigits (incremented allocation.spentEur amountEur) then
    .ok { tables with
      allocations := tables.allocations.put
        { allocation with
          spentEur := incremented allocation.spentEur amountEur
          fits := ⟨allocation.fits.1, fits⟩ } }
  else .error numericFieldOverflow

/-- The row of a charge. -/
def ChargeToBudgetParams.entry (params : ChargeToBudgetParams) : CostLedgerEntry where
  workspaceId := params.workspaceId
  budgetAllocationId := params.budgetAllocationId
  ventureProposalId := params.ventureProposalId
  category := params.category
  amountEur := params.amountEur
  source := params.source
  referenceType := params.referenceType
  referenceId := params.referenceId
  description := params.description

/-- `tx.costLedgerEntry.create`. -/
def createEntry (tables : BudgetTables) (params : ChargeToBudgetParams) : Except Failure BudgetTables := do
  throwIf (params.budgetAllocationId = some "" ∨ params.ventureProposalId = some "") invalidUuid
  throwIf (¬ FitsTenDigits params.amountEur) numericFieldOverflow
  return { tables with entries := tables.entries ++ [params.entry] }

/-- `chargeToBudgetInTransaction`. The gate is `enforceFinanceMutation`. -/
def chargeToBudget (params : ChargeToBudgetParams) (tables : BudgetTables) : Except Failure BudgetTables := do
  assertPositiveFiniteAmount params.amountEur
  validateVentureOwnership tables params.workspaceId params.ventureProposalId
  match givenId params.budgetAllocationId with
  | none =>
    gate
    createEntry tables params
  | some id =>
    let allocation ← findAllocation tables params id
    assertAllocationCapacity numberText allocation params.amountEur
    gate
    let tables ← createEntry tables params
    incrementSpent tables allocation params.amountEur

end Charging

/-! ## Runs -/

/-- A charge, and what the gate answers to it. -/
structure ChargeLabel where
  gate : Except Failure Unit
  params : ChargeToBudgetParams

/-- One call of `chargeToBudget`: it answers the entry and files it, or throws and changes nothing. -/
def charge (numberText : ℚ → String) (l : ChargeLabel) (tables : BudgetTables) :
    Except Failure CostLedgerEntry × BudgetTables :=
  match chargeToBudget numberText l.gate l.params tables with
  | .ok tables' => (.ok l.params.entry, tables')
  | .error e => (.error e, tables)

/-- The sum of the entries of an allocation. -/
def BudgetTables.charged (tables : BudgetTables) (id : EntityId) : Int :=
  ((tables.entries.filter fun e => decide (e.budgetAllocationId = some id)).map CostLedgerEntry.amountEur).sum

/-- The spent amount of the allocation is the sum of its entries, which is within the limit. -/
def Balanced (id : EntityId) (tables : BudgetTables) : Prop :=
  ∃ allocation, tables.allocations.get? id = some allocation
    ∧ 100 * allocation.spentEur = tables.charged id ∧ tables.charged id ≤ 100 * allocation.limitEur

/-! ## What a charge does -/

section Effects

variable {numberText : ℚ → String} {tables : BudgetTables} {l : ChargeLabel} {id : EntityId}
  {allocation : BudgetAllocation}

/-- The charge passes every check in these tables, and is one of this allocation. -/
structure Admitted (numberText : ℚ → String) (tables : BudgetTables) (l : ChargeLabel)
    (allocation : BudgetAllocation) : Prop where
  amount : assertPositiveFiniteAmount l.params.amountEur = .ok ()
  venture : validateVentureOwnership tables l.params.workspaceId l.params.ventureProposalId = .ok ()
  named : givenId l.params.budgetAllocationId = some allocation.id
  found : findAllocation tables l.params allocation.id = .ok allocation
  room : assertAllocationCapacity numberText allocation l.params.amountEur = .ok ()
  gate : l.gate = .ok ()
  entry : l.params.ventureProposalId ≠ some "" ∧ FitsTenDigits l.params.amountEur
  fits : FitsTenDigits (incremented allocation.spentEur l.params.amountEur)

theorem get?_of_findAllocation {params : ChargeToBudgetParams}
    (h : findAllocation tables params id = .ok allocation) :
    tables.allocations.get? id = some allocation := by
  unfold findAllocation at h
  split at h
  · cases h
  · rename_i hfilter
    cases h
    exact (Option.filter_eq_some_iff.mp hfilter).1

/-- The allocation after an admitted charge. -/
def Admitted.updated (h : Admitted numberText tables l allocation) : BudgetAllocation :=
  { allocation with
    spentEur := incremented allocation.spentEur l.params.amountEur
    fits := ⟨allocation.fits.1, h.fits⟩ }

/-- The tables after an admitted charge. -/
def Admitted.after (h : Admitted numberText tables l allocation) : BudgetTables :=
  { tables with
    allocations := tables.allocations.put h.updated
    entries := tables.entries ++ [l.params.entry] }

theorem eq_of_givenId (h : givenId l.params.budgetAllocationId = some id) :
    l.params.budgetAllocationId = some id :=
  (Option.filter_eq_some_iff.mp h).1

/-- **An admitted charge is filed and added.** -/
theorem charge_of_admitted (h : Admitted numberText tables l allocation) :
    charge numberText l tables = (.ok l.params.entry, h.after) := by
  have hid : allocation.id ≠ "" := by
    have hgiven := (Option.filter_eq_some_iff.mp h.named).2
    exact of_decide_eq_true hgiven
  have hname : l.params.budgetAllocationId ≠ some "" := by
    rw [eq_of_givenId h.named]
    exact fun heq => hid (Option.some.inj heq)
  have hentry : createEntry tables l.params
      = .ok { tables with entries := tables.entries ++ [l.params.entry] } := by
    unfold createEntry
    rw [check_bind_eq_ok, check_bind_eq_ok]
    exact ⟨throwIf_eq_ok.mpr (not_or.mpr ⟨hname, h.entry.1⟩), throwIf_eq_ok.mpr (not_not.mpr h.entry.2), rfl⟩
  have hcharge : chargeToBudget numberText l.gate l.params tables = .ok h.after := by
    unfold chargeToBudget
    rw [check_bind_eq_ok, check_bind_eq_ok]
    refine ⟨h.amount, h.venture, ?_⟩
    simp only [h.named]
    rw [except_bind_eq_ok]
    refine ⟨allocation, h.found, ?_⟩
    rw [check_bind_eq_ok, check_bind_eq_ok, except_bind_eq_ok]
    refine ⟨h.room, h.gate, _, hentry, ?_⟩
    unfold incrementSpent
    rw [dif_pos h.fits]
    rfl
  unfold charge
  rw [hcharge]

/-- **Every other charge** leaves the allocations as they are, and files nothing for any of them. -/
theorem charge_of_not_admitted (h : ∀ allocation, ¬ Admitted numberText tables l allocation) :
    (charge numberText l tables).2.allocations = tables.allocations
      ∧ ∀ id, (charge numberText l tables).2.charged id = tables.charged id := by
  unfold charge
  cases hresult : chargeToBudget numberText l.gate l.params tables with
  | error e => exact ⟨rfl, fun _ => rfl⟩
  | ok tables' =>
    unfold chargeToBudget at hresult
    rw [check_bind_eq_ok, check_bind_eq_ok] at hresult
    obtain ⟨hamount, hventure, hresult⟩ := hresult
    cases hnamed : givenId l.params.budgetAllocationId with
    | none =>
      simp only [hnamed] at hresult
      rw [check_bind_eq_ok, createEntry, check_bind_eq_ok, check_bind_eq_ok] at hresult
      obtain ⟨-, hids, -, hcreated⟩ := hresult
      obtain rfl := Except.ok.inj hcreated
      refine ⟨rfl, fun id => ?_⟩
      -- The entry names no allocation: an empty identifier is refused.
      have hno : l.params.budgetAllocationId ≠ some id := by
        intro hsome
        have hempty : id = "" := by
          apply Decidable.byContradiction
          intro hne
          rw [hsome, givenId, Option.filter_some, if_pos (decide_eq_true hne)] at hnamed
          cases hnamed
        exact throwIf_eq_ok.mp hids (Or.inl (hempty ▸ hsome))
      unfold BudgetTables.charged
      rw [List.filter_append, List.filter_cons_of_neg, List.filter_nil, List.append_nil]
      rw [decide_eq_true_eq]
      exact hno
    | some id =>
      simp only [hnamed] at hresult
      rw [except_bind_eq_ok] at hresult
      obtain ⟨allocation, hfound, hresult⟩ := hresult
      rw [check_bind_eq_ok, check_bind_eq_ok, except_bind_eq_ok] at hresult
      obtain ⟨hroom, hgate, tables₁, hcreated, hincrement⟩ := hresult
      obtain rfl : allocation.id = id := Store.keyOf_of_get? (get?_of_findAllocation hfound)
      rw [createEntry, check_bind_eq_ok, check_bind_eq_ok] at hcreated
      obtain ⟨hids, hfits, -⟩ := hcreated
      unfold incrementSpent at hincrement
      split at hincrement
      · rename_i hspent
        exact absurd ⟨hamount, hventure, hnamed, hfound, hroom, hgate,
          ⟨fun hv => throwIf_eq_ok.mp hids (Or.inr hv), not_not.mp (throwIf_eq_ok.mp hfits)⟩, hspent⟩
          (h allocation)
      · cases hincrement

/-! ## Balance -/

theorem Admitted.get? (h : Admitted numberText tables l allocation) :
    tables.allocations.get? allocation.id = some allocation :=
  get?_of_findAllocation h.found

theorem Admitted.get?_after (h : Admitted numberText tables l allocation) (id : EntityId) :
    h.after.allocations.get? id
      = if id = allocation.id then some h.updated else tables.allocations.get? id :=
  Store.get?_put _ _ _

theorem Admitted.charged_after (h : Admitted numberText tables l allocation) (id : EntityId) :
    h.after.charged id
      = tables.charged id + if allocation.id = id then l.params.amountEur else 0 := by
  have hname := eq_of_givenId h.named
  unfold BudgetTables.charged Admitted.after
  rw [List.filter_append, List.map_append, List.sum_append]
  by_cases hid : allocation.id = id
  · rw [if_pos hid, List.filter_cons_of_pos]
    · simp [ChargeToBudgetParams.entry]
    · simp [ChargeToBudgetParams.entry, hname, hid]
  · rw [if_neg hid, List.filter_cons_of_neg]
    · simp
    · simp [ChargeToBudgetParams.entry, hname, hid]

theorem Admitted.pos (h : Admitted numberText tables l allocation) : 0 < l.params.amountEur := by
  have hamount := throwIf_eq_ok.mp h.amount
  apply not_le.mp
  intro hle
  have hquot : ((l.params.amountEur : ℚ) / 10000) ≤ 0 :=
    div_nonpos_of_nonpos_of_nonneg (Int.cast_nonpos.mpr hle) (by norm_num)
  exact hamount (Or.inr (nearestDouble_nonpos hquot))

/-- **A sum of doubles that is not above a double.** Up to `2 ^ 27` the exact sum is not above by a hundredth. -/
theorem add_lt_of_nearestDouble_le {s a limit : ℚ} (hs : 0 ≤ s) (ha : 0 ≤ a) (hlimit : 0 ≤ limit)
    (hbound : limit ≤ 2 ^ 27)
    (h : nearestDouble (nearestDouble s + nearestDouble a) ≤ nearestDouble limit) :
    s + a < limit + 1 / 100 := by
  have hes := abs_le.mp (abs_nearestDouble_sub_le s)
  have hea := abs_le.mp (abs_nearestDouble_sub_le a)
  have hel := abs_le.mp (abs_nearestDouble_sub_le limit)
  have hsum : 0 ≤ nearestDouble s + nearestDouble a :=
    add_nonneg (nearestDouble_nonneg hs) (nearestDouble_nonneg ha)
  have hesum := abs_le.mp (abs_nearestDouble_sub_le (nearestDouble s + nearestDouble a))
  rw [abs_of_nonneg hs] at hes
  rw [abs_of_nonneg ha] at hea
  rw [abs_of_nonneg hlimit] at hel
  rw [abs_of_nonneg hsum] at hesum
  norm_num at hes hea hel hesum hbound ⊢
  linarith

/-- What there is room for does not exceed the limit by a cent. -/
theorem Admitted.lt (h : Admitted numberText tables l allocation) (hspent : 0 ≤ allocation.spentEur)
    (hlimit : 0 ≤ allocation.limitEur) :
    100 * allocation.spentEur + l.params.amountEur < 100 * allocation.limitEur + 100 := by
  have hroom : projectedSpend allocation l.params.amountEur ≤ centsNumber allocation.limitEur :=
    not_lt.mp (throwIf_eq_ok.mp h.room)
  have hfits : (allocation.limitEur : ℚ) < 10 ^ 10 := by exact_mod_cast allocation.fits.1.2
  have hs : (0 : ℚ) ≤ allocation.spentEur := Int.cast_nonneg hspent
  have ha : (0 : ℚ) ≤ l.params.amountEur := Int.cast_nonneg h.pos.le
  have hl : (0 : ℚ) ≤ allocation.limitEur := Int.cast_nonneg hlimit
  have hs' : (0 : ℚ) ≤ allocation.spentEur / 100 := by positivity
  have ha' : (0 : ℚ) ≤ l.params.amountEur / 10000 := by positivity
  have hl' : (0 : ℚ) ≤ allocation.limitEur / 100 := by positivity
  have hlt := add_lt_of_nearestDouble_le hs' ha' hl' (by norm_num at hfits ⊢; linarith) hroom
  have hscaled : (100 * allocation.spentEur + l.params.amountEur : ℚ) < 100 * allocation.limitEur + 100 := by
    linarith
  exact_mod_cast hscaled

/-- The spent amount of an allocation is balanced and not negative. -/
def Sound (id : EntityId) (tables : BudgetTables) : Prop :=
  Balanced id tables ∧ 0 ≤ tables.charged id

/-- **Step lemma**: a charge of whole cents keeps the balance. -/
theorem Sound.charge (hsound : Sound id tables)
    (h : ∀ allocation, Admitted numberText tables l allocation → allocation.id = id → 100 ∣ l.params.amountEur) :
    Sound id (charge numberText l tables).2 := by
  obtain ⟨⟨allocation, hget, hequal, hlimit⟩, hnonneg⟩ := hsound
  by_cases hadmitted : ∃ allocation, Admitted numberText tables l allocation
  · obtain ⟨allocation', hadmitted⟩ := hadmitted
    rw [charge_of_admitted hadmitted]
    by_cases hid : allocation'.id = id
    · obtain ⟨k, hk⟩ := h allocation' hadmitted hid
      have hsame : allocation = allocation' := by
        rw [← hid, hadmitted.get?] at hget
        exact (Option.some.inj hget).symm
      subst hsame
      have hlt := hadmitted.lt (by omega) (by omega)
      have hpos := hadmitted.pos
      have hspent : incremented allocation.spentEur l.params.amountEur = allocation.spentEur + k := by
        unfold incremented
        rw [hk, show 100 * allocation.spentEur + 100 * k = (allocation.spentEur + k) * (100 : Nat) by
          push_cast; ring]
        exact roundHalfAway_mul (by norm_num) _
      have hcharged := hadmitted.charged_after id
      rw [if_pos hid] at hcharged
      refine ⟨⟨hadmitted.updated, ?_, ?_, ?_⟩, ?_⟩
      · rw [hadmitted.get?_after, if_pos hid.symm]
      · show 100 * incremented allocation.spentEur l.params.amountEur = _
        rw [hspent, hcharged]
        omega
      · show _ ≤ 100 * allocation.limitEur
        rw [hcharged]
        omega
      · rw [hcharged]
        omega
    · have hcharged := hadmitted.charged_after id
      rw [if_neg hid, add_zero] at hcharged
      unfold Sound Balanced
      rw [hcharged, hadmitted.get?_after, if_neg (Ne.symm hid)]
      exact ⟨⟨allocation, hget, hequal, hlimit⟩, hnonneg⟩
  · obtain ⟨hallocations, hcharged⟩ := charge_of_not_admitted (not_exists.mp hadmitted)
    unfold Sound Balanced
    rw [hallocations, hcharged id]
    exact ⟨⟨allocation, hget, hequal, hlimit⟩, hnonneg⟩

/-- A charge after which the balance holds again is one of whole cents. -/
theorem Admitted.dvd (h : Admitted numberText tables l allocation) (hbefore : Balanced allocation.id tables)
    (hafter : Balanced allocation.id (charge numberText l tables).2) : 100 ∣ l.params.amountEur := by
  obtain ⟨before, -, hequal, -⟩ := hbefore
  obtain ⟨after, -, hequal', -⟩ := hafter
  rw [charge_of_admitted h, h.charged_after, if_pos rfl] at hequal'
  exact ⟨after.spentEur - before.spentEur, by omega⟩

end Effects

/-! ## Runs -/

/-- **The budget ledger is consistent** at every point of a run from an allocation of which nothing is spent,
exactly when every charge that is admitted to it is a whole number of cents. -/
theorem budget_balanced_iff (numberText : ℚ → String) {tables : BudgetTables} {allocation : BudgetAllocation}
    (hfound : tables.allocations.get? allocation.id = some allocation) (hspent : allocation.spentEur = 0)
    (hlimit : 0 ≤ allocation.limitEur)
    (hentries : ∀ e ∈ tables.entries, e.budgetAllocationId ≠ some allocation.id) (labels : List ChargeLabel) :
    (∀ pre post, labels = pre ++ post → Balanced allocation.id (run (charge numberText) tables pre))
      ↔ ∀ pre l post, labels = pre ++ l :: post → ∀ current,
        Admitted numberText (run (charge numberText) tables pre) l current → current.id = allocation.id →
        100 ∣ l.params.amountEur := by
  constructor
  · intro hbalanced pre l post hlabels current hadmitted hid
    have hbefore := hbalanced pre (l :: post) hlabels
    have hafter := hbalanced (pre ++ [l]) post (by simp [hlabels])
    rw [run_concat] at hafter
    rw [← hid] at hbefore hafter
    exact hadmitted.dvd hbefore hafter
  · intro hwhole pre post hlabels
    have hcharged : tables.charged allocation.id = 0 := by
      unfold BudgetTables.charged
      rw [List.filter_eq_nil_iff.mpr fun e he => by simpa using hentries e he]
      rfl
    suffices hsound : Sound allocation.id (run (charge numberText) tables pre) from hsound.1
    induction pre using List.reverseRecOn generalizing post with
    | nil =>
      refine ⟨⟨allocation, hfound, ?_, ?_⟩, hcharged.ge⟩
      · show 100 * allocation.spentEur = tables.charged allocation.id
        omega
      · show tables.charged allocation.id ≤ _
        omega
    | append_singleton pre l ih =>
      have hsplit : labels = pre ++ l :: post := by rw [hlabels, List.append_assoc, List.singleton_append]
      rw [run_concat]
      exact (ih (l :: post) hsplit).charge fun current => hwhole pre l post hsplit current

namespace Sample

/-- An allocation of 100 euros. -/
def allocation : BudgetAllocation := ⟨"a", "w", "AI_MODEL_USAGE", 10000, 0, by decide⟩

def tables : BudgetTables := ⟨Store.empty.put allocation, .empty, []⟩

def invocation (amountEur : Int) : ChargeLabel :=
  ⟨.ok (), ⟨"w", some "a", none, "AI_MODEL_USAGE", amountEur, "agent-runtime:model-usage", none, none, none⟩⟩

end Sample

/-- A charge of 0.004 euros is filed, and nothing is added to the spent amount. -/
theorem small_charge_not_balanced :
    (charge (fun _ => "") (Sample.invocation 40) Sample.tables).1.isOk = true
      ∧ ¬ Balanced "a" (charge (fun _ => "") (Sample.invocation 40) Sample.tables).2 := by
  have hcharged : (charge (fun _ => "") (Sample.invocation 40) Sample.tables).2.charged "a" = 40 := by
    decide +kernel
  refine ⟨by decide +kernel, ?_⟩
  rintro ⟨allocation, -, hequal, -⟩
  rw [hcharged] at hequal
  omega

theorem budget_balanced_iff_invocation :
    (∀ pre post, [Sample.invocation 40] = pre ++ post →
        Balanced "a" (run (charge fun _ => "") Sample.tables pre))
      ↔ ∀ pre l post, [Sample.invocation 40] = pre ++ l :: post → ∀ current,
        Admitted (fun _ => "") (run (charge fun _ => "") Sample.tables pre) l current → current.id = "a" →
        100 ∣ l.params.amountEur :=
  @budget_balanced_iff (fun _ => "") Sample.tables Sample.allocation rfl rfl (by decide)
    (fun _ he => absurd he List.not_mem_nil) _

end VentureOS.Finance
