import VentureOS.Finance.Outcomes

/-! # Profit and reconciliations

Links and reconciliations are only added, and the facts they name do not change, so nothing drifts: every
outcome can be read. A reconciliation is one of the costs that were linked when it was recorded. It is the
latest one, and of the same costs, exactly as long as no expense and no usage has been linked since. -/

namespace VentureOS.Finance

open ControlPlane

/-! ## Decimals -/

/-- Two places are read back. -/
theorem fractionDigits_fractionText {n : Nat} (h : n < 100) :
    (∃ digits, fractionDigits (fractionText n) = some digits ∧ bigIntOf (padEnd2 digits) = n)
      ∧ (fractionText n).takeWhile Char.isDigit = []
      ∧ (fractionText n).dropWhile Char.isDigit = fractionText n := by
  have hall : ∀ n < 100, (fractionDigits (fractionText n)).any (fun digits =>
      decide (bigIntOf (padEnd2 digits) = n)) = true
        ∧ (fractionText n).takeWhile Char.isDigit = []
        ∧ (fractionText n).dropWhile Char.isDigit = fractionText n := by decide
  obtain ⟨hdigits, htake, hdrop⟩ := hall n h
  refine ⟨?_, htake, hdrop⟩
  cases hsome : fractionDigits (fractionText n) with
  | none =>
    rw [hsome] at hdigits
    cases hdigits
  | some digits =>
    rw [hsome, Option.any_some, decide_eq_true_eq] at hdigits
    exact ⟨digits, rfl, hdigits⟩

/-- **A decimal with two places is read back exactly.** -/
theorem eurDecimalToMinorUnits_decimalText (cents : Int) :
    eurDecimalToMinorUnits (decimalText cents) = .ok cents := by
  obtain ⟨⟨digits, hfraction, hvalue⟩, htake, hdrop⟩ :=
    fractionDigits_fractionText (Nat.mod_lt cents.natAbs (by decide : 0 < 100))
  have hdigit : ∀ c ∈ Nat.toDigits 10 (cents.natAbs / 100), c.isDigit = true :=
    fun c hc => isDigit_of_mem_toDigits_ten hc
  have hwhole := @List.takeWhile_append_of_pos _ _ _ (fractionText (cents.natAbs % 100)) hdigit
  have hrest := @List.dropWhile_append_of_pos _ _ _ (fractionText (cents.natAbs % 100)) hdigit
  rw [htake, List.append_nil] at hwhole
  rw [hdrop] at hrest
  have hbig : bigIntOf (Nat.toDigits 10 (cents.natAbs / 100)) = (cents.natAbs / 100 : Nat) := by
    unfold bigIntOf
    rw [Nat.ofDigitChars_ten_toDigits]
  cases hlist : Nat.toDigits 10 (cents.natAbs / 100) with
  | nil => exact absurd hlist Nat.toDigits_ne_nil
  | cons c cs =>
    rw [hlist] at hwhole hrest hbig
    have hc : c.isDigit = true := hdigit c (hlist ▸ List.mem_cons_self)
    have hminus : c ≠ '-' := by
      rintro rfl
      exact absurd hc (by decide)
    unfold decimalText eurDecimalToMinorUnits
    rw [hlist]
    by_cases hneg : cents < 0
    · have hunsigned : unsignedText ('-' :: (c :: cs ++ fractionText (cents.natAbs % 100)))
          = c :: cs ++ fractionText (cents.natAbs % 100) := if_pos rfl
      simp only [if_pos hneg, hunsigned, hwhole, hrest, hfraction, hvalue, hbig, List.head?_cons]
      rw [if_pos trivial]
      congr 1
      omega
    · have hhead : (c :: cs ++ fractionText (cents.natAbs % 100)).head? ≠ some '-' := by
        rw [List.cons_append, List.head?_cons]
        exact fun h => hminus (Option.some.inj h)
      have hunsigned : unsignedText (c :: cs ++ fractionText (cents.natAbs % 100))
          = c :: cs ++ fractionText (cents.natAbs % 100) := if_neg hhead
      simp only [if_neg hneg, hunsigned, hwhole, hrest, hfraction, hvalue, hbig, if_neg hhead]
      congr 1
      omega

variable {link : RevenueRunLink} {runId : EntityId}

variable {params : LinkRevenueRunFactParams} {workspaceId : EntityId}

section Effects

variable {hashObject : Json → String} {localeCompare : String → String → Int} {facts : Facts}
  {gate : Except Failure Unit} {tables tables' : OutcomeTables}

/-! ## What a call does -/

theorem findRun_eq_ok {revenueRunId : EntityId} {run : RevenueRun} :
    findRun facts workspaceId revenueRunId = .ok run ↔
      facts.runs.get? revenueRunId = some run ∧ run.workspaceId = workspaceId := by
  unfold findRun
  cases hget : facts.runs.get? revenueRunId with
  | none => simp
  | some found =>
    rw [Option.filter_some]
    by_cases hws : found.workspaceId = workspaceId
    · rw [if_pos (decide_eq_true hws)]
      simp only [Except.ok.injEq, Option.some.injEq]
      exact ⟨fun h => ⟨h, h ▸ hws⟩, fun h => h.1⟩
    · rw [if_neg (by simpa using hws)]
      constructor
      · intro h
        cases h
      · rintro ⟨hfound, hsame⟩
        exact absurd (Option.some.inj hfound ▸ hsame) hws

/-- The link is one of a run of its workspace, and has the hash of its fact. -/
structure Anchored {F : Type} (facts : Facts) (fact? : RevenueRunLink → Option F)
    (evidenceHash : F → Except Failure String) (link : RevenueRunLink) : Prop where
  run : ∃ run, findRun facts link.workspaceId link.revenueRunId = .ok run
  fact : ∃ fact, fact? link = some fact ∧ evidenceHash fact = .ok link.evidenceHash

/-- A revenue link with its entry. -/
def AnchoredRevenue (hashObject : Json → String) (facts : Facts) : RevenueRunLink → Prop :=
  Anchored facts (fun l => facts.revenueEntries.get? l.factId)
    (fun entry => .ok (revenueEntryEvidenceHash hashObject entry))

/-- An expense link with its expense. -/
def AnchoredExpense (hashObject : Json → String) (facts : Facts) : RevenueRunLink → Prop :=
  Anchored facts (fun l => facts.expenses.get? l.factId)
    (fun expense => .ok (expenseEvidenceHash hashObject expense))

/-- A usage link with its usage. -/
def AnchoredUsage (hashObject : Json → String) (facts : Facts) : RevenueRunLink → Prop :=
  Anchored facts (fun l => facts.usages.get? (key l.workspaceId l.factId)) (usageEvidenceHash hashObject)

/-- A reconciliation that is recorded: what was checked of it, and what it is computed from. -/
structure Recorded (hashObject : Json → String) (localeCompare : String → String → Int) (facts : Facts)
    (tables : OutcomeTables) (r : RevenueRunCostReconciliation) : Prop where
  run : ∃ run, findRun facts r.workspaceId r.revenueRunId = .ok run ∧ r.currency = run.currency
  fresh : tables.costReconciliations.get? (keyOf r) = none
  unique : ∀ r' ∈ tables.costReconciliations, ¬ (r'.workspaceId = r.workspaceId
    ∧ r'.revenueRunId = r.revenueRunId ∧ r'.expenseEvidenceSetHash = r.expenseEvidenceSetHash
    ∧ r'.usageEvidenceSetHash = r.usageEvidenceSetHash)
  expenseSet : r.expenseEvidenceSetHash = costEvidenceSetHash hashObject localeCompare "EXPENSE_SET"
    ((linkedExpenses facts tables r.revenueRunId).map Prod.fst)
  usageSet : r.usageEvidenceSetHash
    = costEvidenceSetHash hashObject localeCompare "RECOGNIZED_RUNTIME_USAGE_SET"
      ((linkedUsages facts tables r.revenueRunId).map Prod.fst)
  expenseTotal : sumExpenses hashObject (linkedExpenses facts tables r.revenueRunId)
    = .ok r.expenseTotalMinorUnits
  runtimeCharge : sumUsages hashObject (linkedUsages facts tables r.revenueRunId)
    = .ok r.runtimeChargeMinorUnits
  overlap : 0 ≤ r.overlapMinorUnits ∧ r.overlapMinorUnits ≤ r.expenseTotalMinorUnits
    ∧ r.overlapMinorUnits ≤ r.runtimeChargeMinorUnits
  hash : r.reconciliationHash = costReconciliationHash hashObject r.toReconciledCosts

/-- What a call that was answered did to the tables. -/
inductive OutcomeEffect (hashObject : Json → String) (localeCompare : String → String → Int) (facts : Facts)
    (tables tables' : OutcomeTables) : OutcomeAnswer → Prop where
  | unchanged {answer : OutcomeAnswer} (same : tables' = tables)
      (old : ∀ r, answer = .reconciled r → r ∈ tables.costReconciliations) :
      OutcomeEffect hashObject localeCompare facts tables tables' answer
  | linkedRevenueEntry {l : RevenueRunRevenueEntry} {answer : RevenueRunLink}
      (anchored : AnchoredRevenue hashObject facts l.toRevenueRunLink)
      (fresh : tables.revenueEntries.get? (keyOf l) = none)
      (put : tables' = { tables with revenueEntries := tables.revenueEntries.put l }) :
      OutcomeEffect hashObject localeCompare facts tables tables' (.linked answer)
  | linkedExpense {l : RevenueRunExpense} {answer : RevenueRunLink}
      (anchored : AnchoredExpense hashObject facts l.toRevenueRunLink)
      (fresh : tables.expenses.get? (keyOf l) = none)
      (put : tables' = { tables with expenses := tables.expenses.put l }) :
      OutcomeEffect hashObject localeCompare facts tables tables' (.linked answer)
  | linkedUsage {l : RevenueRunUsage} {answer : RevenueRunLink}
      (anchored : AnchoredUsage hashObject facts l.toRevenueRunLink)
      (fresh : tables.usages.get? (keyOf l) = none)
      (put : tables' = { tables with usages := tables.usages.put l }) :
      OutcomeEffect hashObject localeCompare facts tables tables' (.linked answer)
  | evidenced {e : RevenueRunCommercialEvidence}
      (hashed : e.evidenceHash = commercialEvidenceHash hashObject e.toCommercialAssertion)
      (put : tables' = { tables with commercialEvidence := tables.commercialEvidence.put e }) :
      OutcomeEffect hashObject localeCompare facts tables tables' (.evidence e)
  | reconciled {r : RevenueRunCostReconciliation}
      (recorded : Recorded hashObject localeCompare facts tables r)
      (put : tables' = { tables with costReconciliations := tables.costReconciliations.put r }) :
      OutcomeEffect hashObject localeCompare facts tables tables' (.reconciled r)

theorem linkFact_eq_ok {K V : Type} [DecidableEq K] [HasKey K V] {toLink : V → RevenueRunLink}
    {conflict : String} {table table' : Store K V} {candidate : V}
    (h : linkFact toLink conflict table candidate = .ok (link, table')) :
    table' = table ∨ (table.get? (keyOf candidate) = none ∧ table' = table.put candidate) := by
  unfold linkFact at h
  cases hget : table.get? (keyOf candidate) with
  | some existing =>
    simp only [hget, check_bind_eq_ok] at h
    obtain ⟨-, hsame⟩ := h
    cases hsame
    exact Or.inl rfl
  | none =>
    simp only [hget] at h
    cases h
    exact Or.inr ⟨rfl, rfl⟩

theorem linkRevenueRunRevenueEntry_effect
    (h : linkRevenueRunRevenueEntry hashObject facts gate tables params = .ok (link, tables')) :
    OutcomeEffect hashObject localeCompare facts tables tables' (.linked link) := by
  unfold linkRevenueRunRevenueEntry at h
  rw [check_bind_eq_ok, check_bind_eq_ok, except_bind_eq_ok] at h
  obtain ⟨-, -, run, hrun, h⟩ := h
  rw [check_bind_eq_ok] at h
  obtain ⟨-, h⟩ := h
  split at h
  · cases h
  · rename_i entry hfound
    obtain ⟨hentry, -⟩ := Option.filter_eq_some_iff.mp hfound
    rw [except_bind_eq_ok] at h
    obtain ⟨⟨link', table'⟩, hlink, h⟩ := h
    cases h
    rcases linkFact_eq_ok hlink with rfl | ⟨hfresh, rfl⟩
    · exact .unchanged rfl fun r hr => by cases hr
    · exact .linkedRevenueEntry ⟨⟨run, hrun⟩, entry, hentry, rfl⟩ hfresh rfl

theorem linkRevenueRunExpense_effect
    (h : linkRevenueRunExpense hashObject facts gate tables params = .ok (link, tables')) :
    OutcomeEffect hashObject localeCompare facts tables tables' (.linked link) := by
  unfold linkRevenueRunExpense at h
  rw [check_bind_eq_ok, check_bind_eq_ok, except_bind_eq_ok] at h
  obtain ⟨-, -, run, hrun, h⟩ := h
  rw [check_bind_eq_ok] at h
  obtain ⟨-, h⟩ := h
  split at h
  · cases h
  · rename_i expense hfound
    obtain ⟨hexpense, -⟩ := Option.filter_eq_some_iff.mp hfound
    rw [except_bind_eq_ok] at h
    obtain ⟨⟨link', table'⟩, hlink, h⟩ := h
    cases h
    rcases linkFact_eq_ok hlink with rfl | ⟨hfresh, rfl⟩
    · exact .unchanged rfl fun r hr => by cases hr
    · exact .linkedExpense ⟨⟨run, hrun⟩, expense, hexpense, rfl⟩ hfresh rfl

theorem linkRevenueRunUsage_effect
    (h : linkRevenueRunUsage hashObject facts gate tables params = .ok (link, tables')) :
    OutcomeEffect hashObject localeCompare facts tables tables' (.linked link) := by
  unfold linkRevenueRunUsage at h
  rw [check_bind_eq_ok, check_bind_eq_ok, except_bind_eq_ok] at h
  obtain ⟨-, -, run, hrun, h⟩ := h
  split at h
  · cases h
  · split at h
    · cases h
    · rename_i usage hfound
      obtain ⟨husage, -⟩ := Option.filter_eq_some_iff.mp hfound
      rw [except_bind_eq_ok] at h
      obtain ⟨evidenceHash, hhash, h⟩ := h
      rw [except_bind_eq_ok] at h
      obtain ⟨⟨link', table'⟩, hlink, h⟩ := h
      cases h
      rcases linkFact_eq_ok hlink with rfl | ⟨hfresh, rfl⟩
      · exact .unchanged rfl fun r hr => by cases hr
      · exact .linkedUsage ⟨⟨run, hrun⟩, usage, husage, hhash⟩ hfresh rfl

theorem recordRevenueRunCommercialEvidence_effect {id : EntityId} {capturedAt : Int}
    {params : RecordRevenueRunCommercialEvidenceParams} {row : RevenueRunCommercialEvidence}
    (h : recordRevenueRunCommercialEvidence hashObject gate tables id capturedAt params = .ok (row, tables')) :
    OutcomeEffect hashObject localeCompare facts tables tables' (.evidence row) := by
  unfold recordRevenueRunCommercialEvidence at h
  rw [check_bind_eq_ok, check_bind_eq_ok, check_bind_eq_ok] at h
  obtain ⟨-, -, -, h⟩ := h
  split at h
  · rw [check_bind_eq_ok] at h
    obtain ⟨-, h⟩ := h
    cases h
    exact .unchanged rfl fun r hr => by cases hr
  · rw [check_bind_eq_ok] at h
    obtain ⟨-, h⟩ := h
    cases h
    exact .evidenced rfl rfl

theorem recordRevenueRunCostReconciliation_effect {id : EntityId}
    {params : RecordRevenueRunCostReconciliationParams} {row : RevenueRunCostReconciliation}
    (h : recordRevenueRunCostReconciliation hashObject localeCompare facts gate tables id params
      = .ok (row, tables')) :
    OutcomeEffect hashObject localeCompare facts tables tables' (.reconciled row) := by
  unfold recordRevenueRunCostReconciliation at h
  rw [check_bind_eq_ok, check_bind_eq_ok, except_bind_eq_ok] at h
  obtain ⟨hvalid, -, run, hrun, h⟩ := h
  have hid : run.id = params.revenueRunId := Store.keyOf_of_get? (findRun_eq_ok.mp hrun).1
  have hoverlap : 0 ≤ params.overlapMinorUnits := by
    simp only [validateCostReconciliationParams, check_bind_eq_ok, throwIf_eq_ok, not_lt] at hvalid
    exact hvalid.2.2.2.2.2
  rw [check_bind_eq_ok, except_bind_eq_ok] at h
  obtain ⟨-, expenseTotal, hexpenses, h⟩ := h
  rw [except_bind_eq_ok] at h
  obtain ⟨runtimeCharge, husages, h⟩ := h
  rw [check_bind_eq_ok, check_bind_eq_ok] at h
  obtain ⟨-, hwithin, h⟩ := h
  rw [throwIf_eq_ok, not_or, not_lt, not_lt] at hwithin
  rw [hid] at hexpenses husages h
  split at h
  · rename_i existing hget
    rw [check_bind_eq_ok] at h
    obtain ⟨-, h⟩ := h
    cases h
    refine .unchanged rfl fun r hr => ?_
    cases hr
    exact Store.mem_of_get? hget
  · rename_i hget
    rw [check_bind_eq_ok, check_bind_eq_ok] at h
    obtain ⟨hunique, -, h⟩ := h
    cases h
    refine .reconciled ⟨⟨run, hrun, rfl⟩, hget, fun r hr hsame => ?_, rfl, rfl, hexpenses, husages,
      ⟨hoverlap, hwithin⟩, rfl⟩ rfl
    rw [throwIf_eq_ok] at hunique
    exact hunique (List.any_eq_true.mpr ⟨r, Store.mem_values.mpr hr, decide_eq_true hsame⟩)

variable (hashObject localeCompare facts) in
/-- **What a call does**: it is refused and changes nothing, or it is answered. -/
theorem advanceOutcome_cases (l : OutcomeLabel) (tables : OutcomeTables) :
    (∃ e, advanceOutcome hashObject localeCompare facts l tables = (.error e, tables))
      ∨ ∃ answer tables', advanceOutcome hashObject localeCompare facts l tables = (.ok answer, tables')
        ∧ OutcomeEffect hashObject localeCompare facts tables tables' answer := by
  unfold advanceOutcome
  cases hperformed : performOutcome hashObject localeCompare facts l tables with
  | error e => exact Or.inl ⟨e, rfl⟩
  | ok result =>
    refine Or.inr ⟨result.1, result.2, rfl, ?_⟩
    unfold performOutcome at hperformed
    cases hcall : l.call
    all_goals
      simp only [hcall, except_bind_eq_ok] at hperformed
      obtain ⟨r, hr, ⟨⟩⟩ := hperformed
    case linkRevenueEntry => exact linkRevenueRunRevenueEntry_effect hr
    case linkExpense => exact linkRevenueRunExpense_effect hr
    case linkUsage => exact linkRevenueRunUsage_effect hr
    case recordEvidence => exact recordRevenueRunCommercialEvidence_effect hr
    case reconcile => exact recordRevenueRunCostReconciliation_effect hr

/-! ## Nothing drifts -/

/-- Every link has the hash of its fact, and every commercial evidence its own. -/
structure Intact (hashObject : Json → String) (facts : Facts) (tables : OutcomeTables) : Prop where
  revenue : ∀ l ∈ tables.revenueEntries, AnchoredRevenue hashObject facts l.toRevenueRunLink
  expenses : ∀ l ∈ tables.expenses, AnchoredExpense hashObject facts l.toRevenueRunLink
  usages : ∀ l ∈ tables.usages, AnchoredUsage hashObject facts l.toRevenueRunLink
  evidence : ∀ e ∈ tables.commercialEvidence,
    e.evidenceHash = commercialEvidenceHash hashObject e.toCommercialAssertion

theorem intact_empty : Intact hashObject facts .empty where
  revenue := fun l hl => absurd hl (Store.not_mem_empty l)
  expenses := fun l hl => absurd hl (Store.not_mem_empty l)
  usages := fun l hl => absurd hl (Store.not_mem_empty l)
  evidence := fun e he => absurd he (Store.not_mem_empty e)

/-- **Step lemma.** -/
theorem OutcomeEffect.intact {answer : OutcomeAnswer}
    (h : OutcomeEffect hashObject localeCompare facts tables tables' answer)
    (hintact : Intact hashObject facts tables) : Intact hashObject facts tables' := by
  cases h with
  | unchanged hsame => exact hsame ▸ hintact
  | linkedRevenueEntry hanchored hfresh hput =>
    subst hput
    refine { hintact with revenue := fun l hl => ?_ }
    rcases (Store.mem_put_of_fresh hfresh).mp hl with rfl | hl
    · exact hanchored
    · exact hintact.revenue l hl
  | linkedExpense hanchored hfresh hput =>
    subst hput
    refine { hintact with expenses := fun l hl => ?_ }
    rcases (Store.mem_put_of_fresh hfresh).mp hl with rfl | hl
    · exact hanchored
    · exact hintact.expenses l hl
  | linkedUsage hanchored hfresh hput =>
    subst hput
    refine { hintact with usages := fun l hl => ?_ }
    rcases (Store.mem_put_of_fresh hfresh).mp hl with rfl | hl
    · exact hanchored
    · exact hintact.usages l hl
  | evidenced hhashed hput =>
    subst hput
    refine { hintact with evidence := fun e he => ?_ }
    rcases Store.mem_put.mp he with rfl | ⟨he, -⟩
    · exact hhashed
    · exact hintact.evidence e he
  | reconciled hrecorded hput =>
    subst hput
    exact { hintact with }

theorem mem_linkedRevenueEntries {entry : RevenueEntry}
    (h : (link, entry) ∈ linkedRevenueEntries facts tables runId) :
    link.revenueRunId = runId ∧ facts.revenueEntries.get? link.factId = some entry
      ∧ ∃ l ∈ tables.revenueEntries, l.toRevenueRunLink = link := by
  obtain ⟨l, hl, hsome⟩ := List.mem_filterMap.mp h
  by_cases hrun : l.revenueRunId = runId
  · rw [if_pos hrun, Option.map_eq_some_iff] at hsome
    obtain ⟨entry', hentry, heq⟩ := hsome
    cases heq
    exact ⟨hrun, hentry, l, Store.mem_values.mp hl, rfl⟩
  · rw [if_neg hrun] at hsome
    cases hsome

theorem mem_linkedExpenses {expense : Expense}
    (h : (link, expense) ∈ linkedExpenses facts tables runId) :
    facts.expenses.get? link.factId = some expense ∧ ∃ l ∈ tables.expenses, l.toRevenueRunLink = link := by
  obtain ⟨l, hl, hsome⟩ := List.mem_filterMap.mp h
  by_cases hrun : l.revenueRunId = runId
  · rw [if_pos hrun, Option.map_eq_some_iff] at hsome
    obtain ⟨expense', hexpense, heq⟩ := hsome
    cases heq
    exact ⟨hexpense, l, Store.mem_values.mp hl, rfl⟩
  · rw [if_neg hrun] at hsome
    cases hsome

theorem mem_linkedUsages {usage : AcpRunUsage}
    (h : (link, usage) ∈ linkedUsages facts tables runId) :
    facts.usages.get? (key link.workspaceId link.factId) = some usage
      ∧ ∃ l ∈ tables.usages, l.toRevenueRunLink = link := by
  obtain ⟨l, hl, hsome⟩ := List.mem_filterMap.mp h
  by_cases hrun : l.revenueRunId = runId
  · rw [if_pos hrun, Option.map_eq_some_iff] at hsome
    obtain ⟨usage', husage, heq⟩ := hsome
    cases heq
    exact ⟨husage, l, Store.mem_values.mp hl, rfl⟩
  · rw [if_neg hrun] at hsome
    cases hsome

/-! ## Sums -/

/-- The net revenue of the linked entries. -/
def netRevenueOf (facts : Facts) (tables : OutcomeTables) (runId : EntityId) : Int :=
  ((linkedRevenueEntries facts tables runId).map fun l => l.2.netRevenueEur).sum

/-- The gross revenue of the linked entries. -/
def grossRevenueOf (facts : Facts) (tables : OutcomeTables) (runId : EntityId) : Int :=
  ((linkedRevenueEntries facts tables runId).map fun l => l.2.grossRevenueEur).sum

/-- The linked expenses. -/
def expensesOf (facts : Facts) (tables : OutcomeTables) (runId : EntityId) : Int :=
  ((linkedExpenses facts tables runId).map fun l => l.2.amountEur).sum

/-- The linked runtime charges. -/
def chargesOf (facts : Facts) (tables : OutcomeTables) (runId : EntityId) : Int :=
  ((linkedUsages facts tables runId).map fun l => l.2.costMinorUnits).sum

theorem sumLinked_eq_ok {F : Type} {evidenceHash : F → Except Failure String} {drift : String}
    {amount : F → Except Failure Int} {cents : F → Int} {links : List (RevenueRunLink × F)}
    (hhash : ∀ l ∈ links, evidenceHash l.2 = .ok l.1.evidenceHash)
    (hamount : ∀ fact, amount fact = .ok (cents fact)) :
    sumLinked evidenceHash drift amount links = .ok (links.map fun l => cents l.2).sum := by
  induction links with
  | nil => rfl
  | cons l rest ih =>
    obtain ⟨link, fact⟩ := l
    have hrest := ih fun l hl => hhash l (List.mem_cons_of_mem _ hl)
    have hhead : evidenceHash fact = .ok link.evidenceHash := hhash _ List.mem_cons_self
    unfold sumLinked
    rw [hhead, hamount, hrest]
    simp only [except_bind_eq_ok, Except.ok.injEq, throwIf_eq_ok, exists_eq_left', not_not, ne_eq,
      exists_const, true_and]
    rfl

theorem Intact.sumExpenses (h : Intact hashObject facts tables) (runId : EntityId) :
    sumExpenses hashObject (linkedExpenses facts tables runId) = .ok (expensesOf facts tables runId) := by
  refine sumLinked_eq_ok (fun l hl => ?_) fun expense => eurDecimalToMinorUnits_decimalText _
  obtain ⟨hexpense, link, hlink, heq⟩ := mem_linkedExpenses hl
  obtain ⟨expense', hexpense', hhash⟩ := (h.expenses link hlink).fact
  rw [heq] at hexpense' hhash
  rw [hexpense] at hexpense'
  cases hexpense'
  exact hhash

theorem Intact.sumUsages (h : Intact hashObject facts tables) (runId : EntityId) :
    sumUsages hashObject (linkedUsages facts tables runId) = .ok (chargesOf facts tables runId) := by
  refine sumLinked_eq_ok (fun l hl => ?_) fun usage => rfl
  obtain ⟨husage, link, hlink, heq⟩ := mem_linkedUsages hl
  obtain ⟨usage', husage', hhash⟩ := (h.usages link hlink).fact
  rw [heq] at husage' hhash
  rw [husage] at husage'
  cases husage'
  exact hhash

theorem sumRevenue_eq_ok {revenueRunId : EntityId} {links : List (RevenueRunLink × RevenueEntry)}
    (hlinks : ∀ l ∈ links, l.1.workspaceId = workspaceId ∧ l.1.revenueRunId = revenueRunId
      ∧ revenueEntryEvidenceHash hashObject l.2 = l.1.evidenceHash)
    (hevidence : ∀ e ∈ tables.commercialEvidence,
      e.evidenceHash = commercialEvidenceHash hashObject e.toCommercialAssertion) :
    ∃ evidence, sumRevenue hashObject tables workspaceId revenueRunId links
      = .ok ((links.map fun l => l.2.grossRevenueEur).sum, (links.map fun l => l.2.netRevenueEur).sum,
        evidence) := by
  induction links with
  | nil => exact ⟨[], rfl⟩
  | cons l rest ih =>
    obtain ⟨link, entry⟩ := l
    obtain ⟨evidence, hrest⟩ := ih fun l hl => hlinks l (List.mem_cons_of_mem _ hl)
    obtain ⟨hws, hrun, hhash⟩ := hlinks _ List.mem_cons_self
    refine ⟨evidenceOfLink tables link ++ evidence, ?_⟩
    unfold sumRevenue
    rw [check_bind_eq_ok, eurDecimalToMinorUnits_decimalText, eurDecimalToMinorUnits_decimalText, hrest]
    refine ⟨throwIf_eq_ok.mpr (not_not.mpr hhash), ?_⟩
    show (throwIf _ _ >>= _) = _
    rw [check_bind_eq_ok]
    refine ⟨throwIf_eq_ok.mpr fun hany => ?_, rfl⟩
    -- Evidence of a link is one of its run, and has its own hash.
    obtain ⟨e, he, hbad⟩ := List.any_eq_true.mp hany
    obtain ⟨hstored, hlink⟩ := List.mem_filter.mp he
    obtain ⟨hews, herun, hefact⟩ := of_decide_eq_true hlink
    rcases of_decide_eq_true hbad with h | h | h | h
    · exact h (hews.trans hws)
    · exact h (herun.trans hrun)
    · exact h hefact
    · exact h (hevidence e (Store.mem_values.mp hstored)).symm

theorem Intact.sumRevenue (h : Intact hashObject facts tables) {workspaceId runId : EntityId}
    {run : RevenueRun} (hrun : findRun facts workspaceId runId = .ok run) :
    ∃ evidence, sumRevenue hashObject tables workspaceId runId (linkedRevenueEntries facts tables runId)
      = .ok (grossRevenueOf facts tables runId, netRevenueOf facts tables runId, evidence) := by
  refine sumRevenue_eq_ok (fun l hl => ?_) h.evidence
  obtain ⟨hof, hentry, link, hlink, heq⟩ := mem_linkedRevenueEntries hl
  obtain ⟨⟨run', hrun'⟩, entry', hentry', hhash⟩ := h.revenue link hlink
  rw [heq] at hrun' hentry' hhash
  rw [hentry] at hentry'
  cases hentry'
  refine ⟨?_, hof, Except.ok.inj hhash⟩
  -- The run of the link is the run that is read, so it is of the same workspace.
  obtain ⟨hget, hws⟩ := findRun_eq_ok.mp hrun
  obtain ⟨hget', hws'⟩ := findRun_eq_ok.mp hrun'
  rw [hof, hget] at hget'
  cases hget'
  exact hws'.symm.trans hws

/-! ## Links and reconciliations are kept -/

/-- The second tables have the cost links of the first, and more behind them; they have the reconciliations
of the first. -/
structure Extends (facts : Facts) (tables tables' : OutcomeTables) : Prop where
  expenses : ∀ runId, linkedExpenses facts tables runId <+: linkedExpenses facts tables' runId
  usages : ∀ runId, linkedUsages facts tables runId <+: linkedUsages facts tables' runId
  rows : ∀ r ∈ tables.costReconciliations, r ∈ tables'.costReconciliations

theorem Extends.refl (facts : Facts) (tables : OutcomeTables) : Extends facts tables tables :=
  ⟨fun _ => List.prefix_refl _, fun _ => List.prefix_refl _, fun _ h => h⟩

theorem Extends.trans {tables'' : OutcomeTables} (h : Extends facts tables tables')
    (h' : Extends facts tables' tables'') : Extends facts tables tables'' :=
  ⟨fun runId => (h.expenses runId).trans (h'.expenses runId),
    fun runId => (h.usages runId).trans (h'.usages runId), fun r hr => h'.rows r (h.rows r hr)⟩

/-- **Step lemma.** -/
theorem OutcomeEffect.extends {answer : OutcomeAnswer}
    (h : OutcomeEffect hashObject localeCompare facts tables tables' answer) :
    Extends facts tables tables' := by
  cases h with
  | unchanged hsame => exact hsame ▸ Extends.refl facts tables
  | linkedRevenueEntry hanchored hfresh hput =>
    subst hput
    exact ⟨fun _ => List.prefix_refl _, fun _ => List.prefix_refl _, fun _ h => h⟩
  | linkedExpense hanchored hfresh hput =>
    subst hput
    refine ⟨fun runId => ?_, fun _ => List.prefix_refl _, fun _ h => h⟩
    unfold linkedExpenses
    rw [Store.values_put_of_fresh hfresh]
    exact (List.prefix_append _ _).filterMap _
  | linkedUsage hanchored hfresh hput =>
    subst hput
    refine ⟨fun _ => List.prefix_refl _, fun runId => ?_, fun _ h => h⟩
    unfold linkedUsages
    rw [Store.values_put_of_fresh hfresh]
    exact (List.prefix_append _ _).filterMap _
  | evidenced hhashed hput =>
    subst hput
    exact ⟨fun _ => List.prefix_refl _, fun _ => List.prefix_refl _, fun _ h => h⟩
  | reconciled hrecorded hput =>
    subst hput
    exact ⟨fun _ => List.prefix_refl _, fun _ => List.prefix_refl _,
      fun r hr => (Store.mem_put_of_fresh hrecorded.fresh).mpr (Or.inr hr)⟩

/-! ## The same costs -/

/-- The set of expense links of a run. -/
def expenseSet (facts : Facts) (tables : OutcomeTables) (runId : EntityId) : Set RevenueRunLink :=
  {l | l ∈ (linkedExpenses facts tables runId).map Prod.fst}

/-- The set of usage links of a run. -/
def usageSet (facts : Facts) (tables : OutcomeTables) (runId : EntityId) : Set RevenueRunLink :=
  {l | l ∈ (linkedUsages facts tables runId).map Prod.fst}

/-- The same expenses and the same usages are linked to the run. -/
def SameCosts (facts : Facts) (tables tables' : OutcomeTables) (runId : EntityId) : Prop :=
  expenseSet facts tables runId = expenseSet facts tables' runId
    ∧ usageSet facts tables runId = usageSet facts tables' runId

/-- The links of a run, of which each determines its row. -/
theorem nodup_linked {L F : Type} {toLink : L → RevenueRunLink} (hlink : Function.Injective toLink) (fact? : L → Option F)
    {rows : List L} (hrows : rows.Nodup) (runId : EntityId) :
    ((rows.filterMap fun l => if (toLink l).revenueRunId = runId then (fact? l).map fun fact => (toLink l, fact)
      else none).map Prod.fst).Nodup := by
  rw [List.map_filterMap]
  refine hrows.filterMap fun l l' link hl hl' => ?_
  have hrow : ∀ l : L, link ∈ Option.map Prod.fst (if (toLink l).revenueRunId = runId then
      (fact? l).map fun fact => (toLink l, fact) else none) → toLink l = link := by
    intro l hl
    by_cases hrun : (toLink l).revenueRunId = runId
    · rw [if_pos hrun, Option.map_map] at hl
      obtain ⟨fact, -, heq⟩ := Option.map_eq_some_iff.mp hl
      exact heq
    · rw [if_neg hrun] at hl
      cases hl
  exact hlink ((hrow l hl).trans (hrow l' hl').symm)

theorem nodup_linkedExpenses (facts : Facts) (tables : OutcomeTables) (runId : EntityId) :
    ((linkedExpenses facts tables runId).map Prod.fst).Nodup :=
  nodup_linked (fun ⟨_⟩ ⟨_⟩ => congrArg _) _ (List.Nodup.of_map _ (Store.nodup_map_keyOf_values tables.expenses)) runId

theorem nodup_linkedUsages (facts : Facts) (tables : OutcomeTables) (runId : EntityId) :
    ((linkedUsages facts tables runId).map Prod.fst).Nodup :=
  nodup_linked (fun ⟨_⟩ ⟨_⟩ => congrArg _) _ (List.Nodup.of_map _ (Store.nodup_map_keyOf_values tables.usages)) runId

/-- A list that goes on behind another of the same elements does not go on. -/
theorem eq_of_append_of_subset {F : Type} {links links' : List (RevenueRunLink × F)} (h : links <+: links')
    (hnodup : (links'.map Prod.fst).Nodup)
    (hsub : {l | l ∈ links'.map Prod.fst} ⊆ {l | l ∈ links.map Prod.fst}) : links = links' := by
  obtain ⟨rest, rfl⟩ := h
  cases rest with
  | nil => rw [List.append_nil]
  | cons l rest =>
    rw [List.map_append, List.nodup_append] at hnodup
    have hin : l.1 ∈ links.map Prod.fst := by
      apply hsub
      rw [Set.mem_ofPred_eq, List.map_append, List.map_cons]
      exact List.mem_append_right _ List.mem_cons_self
    exact absurd rfl (hnodup.2.2 l.1 hin l.1 List.mem_cons_self)

/-- Between tables that extend each other the sets are the same when the lists are. -/
theorem Extends.sameCosts_iff (h : Extends facts tables tables') :
    SameCosts facts tables tables' runId ↔
      linkedExpenses facts tables runId = linkedExpenses facts tables' runId
        ∧ linkedUsages facts tables runId = linkedUsages facts tables' runId := by
  constructor
  · rintro ⟨hexpenses, husages⟩
    exact ⟨eq_of_append_of_subset (h.expenses runId) (nodup_linkedExpenses facts tables' runId) hexpenses.ge,
      eq_of_append_of_subset (h.usages runId) (nodup_linkedUsages facts tables' runId) husages.ge⟩
  · rintro ⟨hexpenses, husages⟩
    unfold SameCosts expenseSet usageSet
    rw [hexpenses, husages]
    exact ⟨rfl, rfl⟩

/-- What is between tables of the same costs has the same costs. -/
theorem Extends.sameCosts_between {tables'' : OutcomeTables} (h : Extends facts tables tables')
    (h' : Extends facts tables' tables'')
    (hsame : SameCosts facts tables tables'' runId) : SameCosts facts tables tables' runId := by
  have hsub : ∀ {F : Type} {l l' : List (RevenueRunLink × F)}, l <+: l' →
      {x | x ∈ l.map Prod.fst} ⊆ {x | x ∈ l'.map Prod.fst} := by
    intro F l l' hpre x hx
    exact (hpre.map Prod.fst).subset hx
  exact ⟨Set.Subset.antisymm (hsub (h.expenses runId)) (hsame.1 ▸ hsub (h'.expenses runId)),
    Set.Subset.antisymm (hsub (h.usages runId)) (hsame.2 ▸ hsub (h'.usages runId))⟩

/-- Hashes of JSON values do not collide. -/
def CollisionFree (hashObject : Json → String) : Prop :=
  ∀ v w : Json, v.Safe → w.Safe → hashObject v = hashObject w → v = w

/-- Sets of different sizes have different hashes. -/
theorem length_eq_of_costEvidenceSetHash (hhash : CollisionFree hashObject) {kind : String}
    {links links' : List RevenueRunLink}
    (h : costEvidenceSetHash hashObject localeCompare kind links
      = costEvidenceSetHash hashObject localeCompare kind links') : links.length = links'.length := by
  have hitems : ∀ links : List RevenueRunLink, Json.SafeItems (links.map fun l =>
      Json.obj [("factId", .str l.factId), ("evidenceHash", .str l.evidenceHash)]) := by
    intro links
    induction links with
    | nil => trivial
    | cons l rest ih => exact ⟨⟨trivial, trivial, trivial⟩, ih⟩
  have hsafe : ∀ links : List RevenueRunLink, (Json.obj [("kind", .str kind),
      ("evidence", .arr (links.map fun l =>
        Json.obj [("factId", .str l.factId), ("evidenceHash", .str l.evidenceHash)]))]).Safe :=
    fun links => ⟨trivial, hitems links, trivial⟩
  have hjson := hhash _ _ (hsafe _) (hsafe _) h
  simp only [Json.obj.injEq, List.cons.injEq, Prod.mk.injEq, true_and, and_true, Json.arr.injEq] at hjson
  have hlength := congrArg List.length hjson
  rw [List.length_map, List.length_map, (sortBy_perm _ _).length_eq, (sortBy_perm _ _).length_eq] at hlength
  exact hlength

/-- **The hashes decide the sets**, when one of them goes on behind the other. -/
theorem Extends.hash_eq_iff (hhash : CollisionFree hashObject) (h : Extends facts tables tables')
    :
    (costEvidenceSetHash hashObject localeCompare "EXPENSE_SET"
        ((linkedExpenses facts tables runId).map Prod.fst)
      = costEvidenceSetHash hashObject localeCompare "EXPENSE_SET"
        ((linkedExpenses facts tables' runId).map Prod.fst)
      ∧ costEvidenceSetHash hashObject localeCompare "RECOGNIZED_RUNTIME_USAGE_SET"
        ((linkedUsages facts tables runId).map Prod.fst)
      = costEvidenceSetHash hashObject localeCompare "RECOGNIZED_RUNTIME_USAGE_SET"
        ((linkedUsages facts tables' runId).map Prod.fst))
      ↔ SameCosts facts tables tables' runId := by
  rw [h.sameCosts_iff]
  constructor
  · rintro ⟨hexpenses, husages⟩
    have hlength := length_eq_of_costEvidenceSetHash hhash hexpenses
    have hlength' := length_eq_of_costEvidenceSetHash hhash husages
    rw [List.length_map, List.length_map] at hlength hlength'
    exact ⟨(h.expenses runId).eq_of_length hlength, (h.usages runId).eq_of_length hlength'⟩
  · rintro ⟨hexpenses, husages⟩
    rw [hexpenses, husages]
    exact ⟨rfl, rfl⟩

end Effects

/-! ## Runs -/

variable {r : RevenueRunCostReconciliation} {tables : OutcomeTables}

variable {labels : List OutcomeLabel}

section Runs

variable (hashObject : Json → String) (localeCompare : String → String → Int) (facts : Facts)

/-- The tables after some calls. -/
def outcomeTables (labels : List OutcomeLabel) : OutcomeTables :=
  run (advanceOutcome hashObject localeCompare facts) .empty labels

/-- The call recorded this reconciliation. -/
def Records (tables : OutcomeTables) (l : OutcomeLabel) (r : RevenueRunCostReconciliation) : Prop :=
  (advanceOutcome hashObject localeCompare facts l tables).1 = .ok (.reconciled r)
    ∧ tables.costReconciliations.get? (keyOf r) = none

variable {hashObject localeCompare facts}

theorem Records.recorded {l : OutcomeLabel}
    (h : Records hashObject localeCompare facts tables l r) :
    Recorded hashObject localeCompare facts tables r
      ∧ (advanceOutcome hashObject localeCompare facts l tables).2
        = { tables with costReconciliations := tables.costReconciliations.put r } := by
  obtain ⟨hanswer, hfresh⟩ := h
  rcases advanceOutcome_cases hashObject localeCompare facts l tables with ⟨e, hrefused⟩ | ⟨answer, tables', hdone, heffect⟩
  · rw [hrefused] at hanswer
    cases hanswer
  · rw [hdone] at hanswer ⊢
    cases hanswer
    cases heffect with
    | unchanged hsame hold =>
      have hfound := Store.mem_iff_get?.mp (hold r rfl)
      rw [hfresh] at hfound
      cases hfound
    | reconciled hrecorded hput => exact ⟨hrecorded, hput⟩

variable (hashObject localeCompare facts)

theorem intact_outcomeTables (labels : List OutcomeLabel) :
    Intact hashObject facts (outcomeTables hashObject localeCompare facts labels) := by
  refine run_induction (advanceOutcome hashObject localeCompare facts) intact_empty (fun pre l ih => ?_) labels
  rcases advanceOutcome_cases hashObject localeCompare facts l (run (advanceOutcome hashObject localeCompare facts) .empty pre) with
    ⟨e, hrefused⟩ | ⟨answer, tables', hdone, heffect⟩
  · rw [hrefused]
    exact ih
  · rw [hdone]
    exact heffect.intact ih

theorem outcomeTables_concat (labels : List OutcomeLabel) (l : OutcomeLabel) :
    outcomeTables hashObject localeCompare facts (labels ++ [l])
      = (advanceOutcome hashObject localeCompare facts l
          (outcomeTables hashObject localeCompare facts labels)).2 :=
  run_concat _ _ _ _

theorem extends_step (tables : OutcomeTables) (l : OutcomeLabel) :
    Extends facts tables (advanceOutcome hashObject localeCompare facts l tables).2 := by
  rcases advanceOutcome_cases hashObject localeCompare facts l tables with ⟨e, hrefused⟩ | ⟨answer, tables', hdone, heffect⟩
  · rw [hrefused]
    exact Extends.refl facts tables
  · rw [hdone]
    exact heffect.extends

/-- **Run lemma**: links and reconciliations are kept. -/
theorem extends_outcomeTables (pre post : List OutcomeLabel) :
    Extends facts (outcomeTables hashObject localeCompare facts pre)
      (outcomeTables hashObject localeCompare facts (pre ++ post)) := by
  induction post using List.reverseRecOn with
  | nil =>
    rw [List.append_nil]
    exact Extends.refl facts _
  | append_singleton post l ih =>
    rw [← List.append_assoc, outcomeTables_concat]
    exact ih.trans (extends_step hashObject localeCompare facts _ l)

/-- The costs that are the same in the end were the same all the time. -/
theorem sameCosts_prefix {pre mid post : List OutcomeLabel}
    (h : SameCosts facts (outcomeTables hashObject localeCompare facts pre)
      (outcomeTables hashObject localeCompare facts (pre ++ (mid ++ post))) runId) :
    SameCosts facts (outcomeTables hashObject localeCompare facts pre)
      (outcomeTables hashObject localeCompare facts (pre ++ mid)) runId := by
  rw [← List.append_assoc] at h
  exact (extends_outcomeTables hashObject localeCompare facts pre mid).sameCosts_between
    (extends_outcomeTables hashObject localeCompare facts (pre ++ mid) post) h

variable {hashObject localeCompare facts}

/-- A call that records no reconciliation leaves them as they are. -/
theorem costReconciliations_step {l : OutcomeLabel}
    (h : ∀ r, ¬ Records hashObject localeCompare facts tables l r) :
    (advanceOutcome hashObject localeCompare facts l tables).2.costReconciliations
      = tables.costReconciliations := by
  rcases advanceOutcome_cases hashObject localeCompare facts l tables with ⟨e, hrefused⟩ | ⟨answer, tables', hdone, heffect⟩
  · rw [hrefused]
  · have hanswer : (advanceOutcome hashObject localeCompare facts l tables).1 = .ok answer := by rw [hdone]
    rw [hdone]
    cases heffect with
    | unchanged hsame => rw [hsame]
    | linkedRevenueEntry _ _ hput => rw [hput]
    | linkedExpense _ _ hput => rw [hput]
    | linkedUsage _ _ hput => rw [hput]
    | evidenced _ hput => rw [hput]
    | reconciled hrecorded hput => exact absurd ⟨hanswer, hrecorded.fresh⟩ (h _)

/-- The reconciliation that a call records is the latest of its run. -/
theorem Records.latest {l : OutcomeLabel}
    (h : Records hashObject localeCompare facts tables l r) (runId : EntityId) :
    latestReconciliation (advanceOutcome hashObject localeCompare facts l tables).2 runId
      = if r.revenueRunId = runId then some r else latestReconciliation tables runId := by
  unfold latestReconciliation
  rw [h.recorded.2, Store.values_put_of_fresh h.2, List.filter_append]
  by_cases hrun : r.revenueRunId = runId
  · rw [if_pos hrun, List.filter_cons_of_pos (by simpa using hrun), List.filter_nil, List.getLast?_concat]
  · rw [if_neg hrun, List.filter_cons_of_neg (by simpa using hrun), List.filter_nil, List.append_nil]

/-- No call of `post`, made after `pre`, records a reconciliation of the run. -/
def NotReconciled (hashObject : Json → String) (localeCompare : String → String → Int) (facts : Facts)
    (pre post : List OutcomeLabel) (runId : EntityId) : Prop :=
  ∀ mid l rest r, post = mid ++ l :: rest →
    Records hashObject localeCompare facts (outcomeTables hashObject localeCompare facts (pre ++ mid)) l r →
    r.revenueRunId ≠ runId

theorem latest_of_notReconciled {pre post : List OutcomeLabel}
    (h : NotReconciled hashObject localeCompare facts pre post runId) :
    latestReconciliation (outcomeTables hashObject localeCompare facts (pre ++ post)) runId
      = latestReconciliation (outcomeTables hashObject localeCompare facts pre) runId := by
  induction post using List.reverseRecOn with
  | nil => rw [List.append_nil]
  | append_singleton post l ih =>
    have hbefore := ih fun mid l' rest r hsplit =>
      h mid l' (rest ++ [l]) r (by rw [hsplit, List.append_assoc, List.cons_append])
    rw [← List.append_assoc, outcomeTables_concat, ← hbefore]
    by_cases hrecords : ∃ r, Records hashObject localeCompare facts
        (outcomeTables hashObject localeCompare facts (pre ++ post)) l r
    · obtain ⟨r, hr⟩ := hrecords
      rw [hr.latest runId, if_neg (h post l [] r rfl hr)]
    · unfold latestReconciliation
      rw [costReconciliations_step (not_exists.mp hrecords)]

/-- A reconciliation that is there was recorded by a call. -/
theorem exists_records (h : r ∈ (outcomeTables hashObject localeCompare facts labels).costReconciliations) :
    ∃ pre l post, labels = pre ++ l :: post
      ∧ Records hashObject localeCompare facts (outcomeTables hashObject localeCompare facts pre) l r := by
  induction labels using List.reverseRecOn with
  | nil => exact absurd h (Store.not_mem_empty r)
  | append_singleton labels l ih =>
    have hold : r ∈ (outcomeTables hashObject localeCompare facts labels).costReconciliations →
        ∃ pre l' post, labels ++ [l] = pre ++ l' :: post
          ∧ Records hashObject localeCompare facts (outcomeTables hashObject localeCompare facts pre) l' r := by
      intro hr
      obtain ⟨pre, l', post, rfl, hrecords⟩ := ih hr
      exact ⟨pre, l', post ++ [l], by rw [List.append_assoc, List.cons_append], hrecords⟩
    rw [outcomeTables_concat] at h
    by_cases hrecords : ∃ r', Records hashObject localeCompare facts
        (outcomeTables hashObject localeCompare facts labels) l r'
    · obtain ⟨r', hr'⟩ := hrecords
      rw [hr'.recorded.2] at h
      rcases (Store.mem_put_of_fresh hr'.2).mp h with rfl | hr
      · exact ⟨labels, l, [], rfl, hr'⟩
      · exact hold hr
    · rw [costReconciliations_step (not_exists.mp hrecords)] at h
      exact hold h

/-- **One reconciliation for each pair of sets**: a run whose costs are the same is not reconciled again. -/
theorem not_records_again (pre : List OutcomeLabel) (l : OutcomeLabel)
    (mid : List OutcomeLabel) (l' : OutcomeLabel) {r' : RevenueRunCostReconciliation}
    (h : Records hashObject localeCompare facts (outcomeTables hashObject localeCompare facts pre) l r)
    (h' : Records hashObject localeCompare facts
      (outcomeTables hashObject localeCompare facts (pre ++ l :: mid)) l' r')
    (hrun : r'.revenueRunId = r.revenueRunId) :
    ¬ SameCosts facts (outcomeTables hashObject localeCompare facts pre)
      (outcomeTables hashObject localeCompare facts (pre ++ l :: mid)) r.revenueRunId := by
  intro hsame
  have hlists := (extends_outcomeTables hashObject localeCompare facts pre (l :: mid)).sameCosts_iff.mp hsame
  obtain ⟨hrecorded, hput⟩ := h.recorded
  have hrecorded' := h'.recorded.1
  -- The first reconciliation is still there, and has the hashes of the second.
  have hthere : r ∈ (outcomeTables hashObject localeCompare facts (pre ++ l :: mid)).costReconciliations := by
    have hnext : r ∈ (outcomeTables hashObject localeCompare facts (pre ++ [l])).costReconciliations := by
      rw [outcomeTables_concat, hput]
      exact Store.mem_put_self _ r
    have hsplit : pre ++ l :: mid = pre ++ [l] ++ mid := by simp
    rw [hsplit]
    exact (extends_outcomeTables hashObject localeCompare facts (pre ++ [l]) mid).rows r hnext
  obtain ⟨run, hfound, -⟩ := hrecorded.run
  obtain ⟨run', hfound', -⟩ := hrecorded'.run
  obtain ⟨hget, hws⟩ := findRun_eq_ok.mp hfound
  obtain ⟨hget', hws'⟩ := findRun_eq_ok.mp hfound'
  rw [hrun, hget] at hget'
  cases hget'
  refine hrecorded'.unique r hthere ⟨hws.symm.trans hws', hrun.symm, ?_, ?_⟩
  · rw [hrecorded.expenseSet, hrecorded'.expenseSet, hrun, hlists.1]
  · rw [hrecorded.usageSet, hrecorded'.usageSet, hrun, hlists.2]

/-! ## The outcome -/

/-- The reconciliation that the outcome is computed from: the latest one, if it is of the current sets. -/
def currentReconciliation (hashObject : Json → String) (localeCompare : String → String → Int) (facts : Facts)
    (tables : OutcomeTables) (runId : EntityId) : Option RevenueRunCostReconciliation :=
  matching
    (costEvidenceSetHash hashObject localeCompare "EXPENSE_SET" ((linkedExpenses facts tables runId).map Prod.fst))
    (costEvidenceSetHash hashObject localeCompare "RECOGNIZED_RUNTIME_USAGE_SET"
      ((linkedUsages facts tables runId).map Prod.fst))
    (latestReconciliation tables runId)

/-- **The current reconciliation** is the one that was recorded for the costs that are linked now. -/
theorem currentReconciliation_eq_some (hhash : CollisionFree hashObject) :
    currentReconciliation hashObject localeCompare facts
        (outcomeTables hashObject localeCompare facts labels) runId = some r ↔
      ∃ pre l post, labels = pre ++ l :: post ∧ r.revenueRunId = runId
        ∧ Records hashObject localeCompare facts (outcomeTables hashObject localeCompare facts pre) l r
        ∧ SameCosts facts (outcomeTables hashObject localeCompare facts pre)
          (outcomeTables hashObject localeCompare facts labels) runId := by
  unfold currentReconciliation matching
  rw [Option.filter_eq_some_iff]
  constructor
  · rintro ⟨hlatest, hmatches⟩
    obtain ⟨hexpenses, husages⟩ := of_decide_eq_true hmatches
    obtain ⟨hstored, hof⟩ := List.mem_filter.mp (List.mem_of_getLast? hlatest)
    have hof := of_decide_eq_true hof
    obtain ⟨pre, l, post, rfl, hrecords⟩ := exists_records (Store.mem_values.mp hstored)
    have hrecorded := hrecords.recorded.1
    refine ⟨pre, l, post, rfl, hof, hrecords, ?_⟩
    rw [hrecorded.expenseSet, hof] at hexpenses
    rw [hrecorded.usageSet, hof] at husages
    exact ((extends_outcomeTables hashObject localeCompare facts pre (l :: post)).hash_eq_iff hhash).mp ⟨hexpenses, husages⟩
  · rintro ⟨pre, l, post, rfl, hof, hrecords, hsame⟩
    have hrecorded := hrecords.recorded.1
    have hextends := extends_outcomeTables hashObject localeCompare facts pre (l :: post)
    have hsplit : pre ++ l :: post = pre ++ [l] ++ post := by simp
    -- No call since can have recorded another reconciliation, for the costs were the same all the time.
    have hnone : NotReconciled hashObject localeCompare facts (pre ++ [l]) post runId := by
      intro mid l' rest r' hrest hrecords' hof'
      have hmid : pre ++ [l] ++ mid = pre ++ l :: mid := by simp
      rw [hmid] at hrecords'
      have hend : pre ++ l :: post = pre ++ l :: mid ++ l' :: rest := by rw [hrest]; simp
      rw [hend] at hsame
      refine not_records_again pre l mid l' hrecords hrecords' (hof'.trans hof.symm) ?_
      rw [hof]
      rw [List.append_assoc] at hsame
      exact sameCosts_prefix hashObject localeCompare facts hsame
    have hlatest : latestReconciliation (outcomeTables hashObject localeCompare facts (pre ++ l :: post)) runId
        = some r := by
      rw [hsplit, latest_of_notReconciled hnone, outcomeTables_concat, hrecords.latest runId, if_pos hof]
    obtain ⟨hexpenses, husages⟩ := (hextends.hash_eq_iff hhash).mpr hsame
    refine ⟨hlatest, decide_eq_true ⟨?_, ?_⟩⟩
    · rw [hrecorded.expenseSet, hof, hexpenses]
    · rw [hrecorded.usageSet, hof, husages]

/-- **The outcome can be read**, and its profit is computed from the current reconciliation. -/
theorem getRevenueRunOutcomeEvidence_eq_ok (localeCompare : String → String → Int) (facts : Facts)
    (hhash : CollisionFree hashObject) (labels : List OutcomeLabel) {run : RevenueRun} (hws : IsBoundedText 200 workspaceId)
    (hid : IsBoundedText 200 runId) (hrun : findRun facts workspaceId runId = .ok run) :
    ∃ evidence, getRevenueRunOutcomeEvidence hashObject localeCompare facts (.ok ())
        (outcomeTables hashObject localeCompare facts labels) workspaceId runId = .ok evidence
      ∧ evidence.recordedRevenue.netMinorUnits
        = netRevenueOf facts (outcomeTables hashObject localeCompare facts labels) runId
      ∧ evidence.recordedCosts.deduplicatedTotalMinorUnits
        = (currentReconciliation hashObject localeCompare facts
            (outcomeTables hashObject localeCompare facts labels) runId).map (fun r =>
          expensesOf facts (outcomeTables hashObject localeCompare facts labels) runId
            + chargesOf facts (outcomeTables hashObject localeCompare facts labels) runId
            - r.overlapMinorUnits)
      ∧ evidence.profit.minorUnits
        = evidence.recordedCosts.deduplicatedTotalMinorUnits.map (fun total =>
          netRevenueOf facts (outcomeTables hashObject localeCompare facts labels) runId - total) := by
  have hintact := intact_outcomeTables hashObject localeCompare facts labels
  obtain ⟨hget, hrunws⟩ := findRun_eq_ok.mp hrun
  have hrunid : run.id = runId := Store.keyOf_of_get? hget
  obtain ⟨evidence, hrevenue⟩ := hintact.sumRevenue hrun
  have hassert : assertReconciliation hashObject run workspaceId runId
      (expensesOf facts (outcomeTables hashObject localeCompare facts labels) runId)
      (chargesOf facts (outcomeTables hashObject localeCompare facts labels) runId)
      (currentReconciliation hashObject localeCompare facts
        (outcomeTables hashObject localeCompare facts labels) runId) = .ok () := by
    cases hcurrent : currentReconciliation hashObject localeCompare facts
        (outcomeTables hashObject localeCompare facts labels) runId with
    | none => rfl
    | some r =>
      obtain ⟨pre, l, post, rfl, hof, hrecords, hsame⟩ := (currentReconciliation_eq_some hhash).mp hcurrent
      have hrecorded := hrecords.recorded.1
      have hbefore := intact_outcomeTables hashObject localeCompare facts pre
      obtain ⟨hexpenses, husages⟩ := (extends_outcomeTables hashObject localeCompare facts pre (l :: post)).sameCosts_iff.mp hsame
      obtain ⟨run', hrun', hcurrency⟩ := hrecorded.run
      obtain ⟨hget', hws'⟩ := findRun_eq_ok.mp hrun'
      rw [hof, hget] at hget'
      cases hget'
      -- The totals that were recorded are those of the same lists.
      have htotal := hrecorded.expenseTotal
      have hcharge := hrecorded.runtimeCharge
      rw [hbefore.sumExpenses, hof, expensesOf, hexpenses, ← expensesOf] at htotal
      rw [hbefore.sumUsages, hof, chargesOf, husages, ← chargesOf] at hcharge
      have htotal := Except.ok.inj htotal
      have hcharge := Except.ok.inj hcharge
      obtain ⟨-, hle, hle'⟩ := hrecorded.overlap
      show throwIf _ _ = _
      rw [throwIf_eq_ok, htotal, hcharge]
      rintro (h | h | h | h | h | h | h | h)
      · exact h (hws'.symm.trans hrunws)
      · exact h hof
      · exact h hcurrency
      · exact h rfl
      · exact h rfl
      · omega
      · omega
      · exact h hrecorded.hash
  unfold getRevenueRunOutcomeEvidence
  rw [show requireBoundedText workspaceId "workspaceId" = .ok () from throwIf_eq_ok.mpr (not_not.mpr hws),
    show requireBoundedText runId "revenueRunId" = .ok () from throwIf_eq_ok.mpr (not_not.mpr hid), hrun]
  simp only [Except.bind, bind, hrunid, hrevenue, hintact.sumExpenses, hintact.sumUsages]
  unfold currentReconciliation at hassert ⊢
  rw [hassert]
  refine ⟨_, rfl, rfl, rfl, rfl⟩

/-- **Profit is computed exactly when the current costs are reconciled.** In every history the outcome of a
run can be read. It has a profit when a reconciliation was recorded for exactly the expenses and usages that
are linked now; then the profit is what the net revenue leaves of the costs, which count the overlap once. An
expense or a usage that is linked later takes the profit away until the run is reconciled again, and no two
reconciliations are of the same sets. -/
theorem profit_iff_reconciled (localeCompare : String → String → Int) (facts : Facts)
    (hhash : CollisionFree hashObject) (labels : List OutcomeLabel)
    {workspaceId runId : EntityId} {run : RevenueRun} (hws : IsBoundedText 200 workspaceId)
    (hid : IsBoundedText 200 runId) (hrun : findRun facts workspaceId runId = .ok run) :
    let tables := outcomeTables hashObject localeCompare facts labels
    let tablesAfter := outcomeTables hashObject localeCompare facts
    let expenses := expensesOf facts tables runId
    let charges := chargesOf facts tables runId
    ∃ evidence, getRevenueRunOutcomeEvidence hashObject localeCompare facts (.ok ()) tables workspaceId runId
        = .ok evidence
      ∧ (evidence.profit.minorUnits ≠ none ↔ ∃ pre l post r, labels = pre ++ l :: post
          ∧ r.revenueRunId = runId ∧ Records hashObject localeCompare facts (tablesAfter pre) l r
          ∧ SameCosts facts (tablesAfter pre) tables runId)
      ∧ (∀ pre l post r, labels = pre ++ l :: post → r.revenueRunId = runId →
          Records hashObject localeCompare facts (tablesAfter pre) l r →
          SameCosts facts (tablesAfter pre) tables runId →
          evidence.recordedCosts.deduplicatedTotalMinorUnits = some (expenses + charges - r.overlapMinorUnits)
          ∧ evidence.profit.minorUnits
            = some (netRevenueOf facts tables runId - (expenses + charges - r.overlapMinorUnits))
          ∧ max expenses charges ≤ expenses + charges - r.overlapMinorUnits
          ∧ expenses + charges - r.overlapMinorUnits ≤ expenses + charges)
      ∧ (∀ pre l post, labels = pre ++ l :: post →
          ¬ SameCosts facts (tablesAfter pre) (tablesAfter (pre ++ [l])) runId →
          NotReconciled hashObject localeCompare facts (pre ++ [l]) post runId →
          evidence.profit.minorUnits = none)
      ∧ ∀ pre l mid l' r r', Records hashObject localeCompare facts (tablesAfter pre) l r →
          Records hashObject localeCompare facts (tablesAfter (pre ++ l :: mid)) l' r' →
          r.revenueRunId = runId → r'.revenueRunId = runId →
          ¬ SameCosts facts (tablesAfter pre) (tablesAfter (pre ++ l :: mid)) runId := by
  intro tables tablesAfter expenses charges
  obtain ⟨evidence, hread, -, hdeduplicated, hprofit⟩ :=
    getRevenueRunOutcomeEvidence_eq_ok localeCompare facts hhash labels hws hid hrun
  have hnone : evidence.profit.minorUnits = none ↔
      currentReconciliation hashObject localeCompare facts tables runId = none := by
    rw [hprofit, Option.map_eq_none_iff, hdeduplicated, Option.map_eq_none_iff]
  refine ⟨evidence, hread, ?_, ?_, ?_, ?_⟩
  · rw [Ne, hnone, ← Ne, Option.ne_none_iff_exists']
    constructor
    · rintro ⟨r, hr⟩
      obtain ⟨pre, l, post, hsplit, hof, hrecords, hsame⟩ := (currentReconciliation_eq_some hhash).mp hr
      exact ⟨pre, l, post, r, hsplit, hof, hrecords, hsame⟩
    · rintro ⟨pre, l, post, r, hsplit, hof, hrecords, hsame⟩
      exact ⟨r, (currentReconciliation_eq_some hhash).mpr ⟨pre, l, post, hsplit, hof, hrecords, hsame⟩⟩
  · intro pre l post r hsplit hof hrecords hsame
    have hcurrent := (currentReconciliation_eq_some hhash).mpr ⟨pre, l, post, hsplit, hof, hrecords, hsame⟩
    rw [hcurrent] at hdeduplicated
    rw [hdeduplicated] at hprofit
    have hrecorded := hrecords.recorded.1
    have hbefore := intact_outcomeTables hashObject localeCompare facts pre
    subst hsplit
    obtain ⟨hexpenses, husages⟩ := (extends_outcomeTables hashObject localeCompare facts pre (l :: post)).sameCosts_iff.mp hsame
    have htotal := hrecorded.expenseTotal
    have hcharge := hrecorded.runtimeCharge
    rw [hbefore.sumExpenses, hof, expensesOf, hexpenses, ← expensesOf] at htotal
    rw [hbefore.sumUsages, hof, chargesOf, husages, ← chargesOf] at hcharge
    have htotal : expenses = r.expenseTotalMinorUnits := Except.ok.inj htotal
    have hcharge : charges = r.runtimeChargeMinorUnits := Except.ok.inj hcharge
    obtain ⟨hnonneg, hle, hle'⟩ := hrecorded.overlap
    refine ⟨hdeduplicated, hprofit, max_le ?_ ?_, ?_⟩
    · omega
    · omega
    · omega
  · intro pre l post hsplit hchanged hsince
    rw [hnone]
    apply Option.eq_none_iff_forall_not_mem.mpr
    intro r hr
    obtain ⟨pre', l', post', hsplit', hof, hrecords, hsame⟩ := (currentReconciliation_eq_some hhash).mp hr
    -- The reconciliation was recorded before the costs changed, or by that call, or since.
    rcases lt_trichotomy pre'.length pre.length with hlt | heq | hgt
    · obtain ⟨mid, rfl⟩ : pre' ++ [l'] <+: pre := by
        refine List.prefix_of_prefix_length_le ⟨post', ?_⟩ ⟨l :: post, hsplit.symm⟩ (by rw [List.length_append]; exact hlt)
        rw [hsplit', List.append_assoc, List.singleton_append]
      refine hchanged ?_
      have hmid : labels = pre' ++ ([l'] ++ mid ++ (l :: post)) := by rw [hsplit]; simp
      have hmid' : labels = pre' ++ ([l'] ++ mid ++ [l] ++ post) := by rw [hsplit]; simp
      have hbetween := sameCosts_prefix hashObject localeCompare facts (hmid ▸ hsame)
      have hbetween' := sameCosts_prefix hashObject localeCompare facts (hmid' ▸ hsame)
      rw [← List.append_assoc] at hbetween hbetween'
      rw [← List.append_assoc] at hbetween'
      exact ⟨hbetween.1.symm.trans hbetween'.1, hbetween.2.symm.trans hbetween'.2⟩
    · have hsame' : pre' = pre := by
        refine List.IsPrefix.eq_of_length (List.prefix_of_prefix_length_le ⟨l' :: post', ?_⟩
          ⟨l :: post, hsplit.symm⟩ heq.le) heq
        exact hsplit'.symm
      subst hsame'
      rw [hsplit'] at hsplit
      obtain ⟨rfl, -⟩ := List.cons_eq_cons.mp (List.append_cancel_left hsplit)
      -- A call that records a reconciliation links nothing.
      apply hchanged
      show SameCosts facts _ (outcomeTables hashObject localeCompare facts (pre' ++ [l'])) runId
      rw [outcomeTables_concat, hrecords.recorded.2]
      exact ⟨rfl, rfl⟩
    · obtain ⟨mid, rfl⟩ : pre ++ [l] <+: pre' := by
        refine List.prefix_of_prefix_length_le ⟨post, ?_⟩ ⟨l' :: post', hsplit'.symm⟩ (by rw [List.length_append]; exact hgt)
        rw [hsplit, List.append_assoc, List.singleton_append]
      refine hsince mid l' post' r ?_ hrecords hof
      rw [hsplit'] at hsplit
      have hall : pre ++ l :: (mid ++ l' :: post') = pre ++ l :: post := by rw [← hsplit]; simp
      exact (List.cons_eq_cons.mp (List.append_cancel_left hall)).2.symm
  · intro pre l mid l' r r' hrecords hrecords' hof hof'
    have hagain := not_records_again pre l mid l' hrecords hrecords' (hof'.trans hof.symm)
    rwa [hof] at hagain

end Runs

namespace Sample

/-- The text of a value as its hash. -/
def textHash (v : Json) : String := String.ofList v.text

theorem textHash_collisionFree : CollisionFree textHash := by
  intro v w hv hw h
  exact Json.text_injective hv hw (String.ofList_injective h)

def revenueRun : RevenueRun := ⟨"run", "w", "venture", some "acp", "EUR", 0, 0, 0, 0, 0, "forecast"⟩

def entry : RevenueEntry :=
  ⟨"entry", "w", "venture", none, 1, 2000, 0, 0, 0, 0, 0, 2000, "shop", 0, none, 0⟩

def expense : Expense := ⟨"expense", "w", some "venture", "HOSTING", 500, "server", "card", 0, 0⟩

def usage : AcpRunUsage :=
  ⟨"usage", "w", "dispatch", "acp", "session", "receipt", 1, 10, 300, 10, 300, "EUR", "evidence", 0,
    some ⟨"ledger", "w", "usage", "acp", "EUR", 300, 10, "checksum", 0⟩⟩

/-- A run with an expense of 5 euros, a runtime charge of 3 euros, and a sale of 20 euros. -/
def facts : Facts :=
  ⟨Store.empty.put revenueRun, Store.empty.put entry, Store.empty.put expense, Store.empty.put usage⟩

def linkEntry : OutcomeLabel := ⟨.ok (), .linkRevenueEntry ⟨"w", "run", "entry", "founder"⟩⟩
def linkExpense : OutcomeLabel := ⟨.ok (), .linkExpense ⟨"w", "run", "expense", "founder"⟩⟩
def linkUsage : OutcomeLabel := ⟨.ok (), .linkUsage ⟨"w", "run", "usage", "founder"⟩⟩

/-- One euro is in both costs. -/
def reconcile : OutcomeLabel :=
  ⟨.ok (), .reconcile "reconciliation" ⟨"w", "run", 100, "receipts", "key", "founder"⟩⟩

/-- The tables after some calls. -/
def outcomeTables (labels : List OutcomeLabel) : OutcomeTables :=
  Finance.outcomeTables textHash (fun _ _ => 0) facts labels

/-- The profit that is read after some calls. -/
def profitAfter (labels : List OutcomeLabel) : Except Failure (Option Int) :=
  (getRevenueRunOutcomeEvidence textHash (fun _ _ => 0) facts (.ok ()) (outcomeTables labels) "w" "run").map
    fun evidence => evidence.profit.minorUnits

section Reconciled

variable (h : Json → String)

/-- The costs are linked. -/
def linked : OutcomeTables :=
  { OutcomeTables.empty with
    expenses := Store.empty.put ⟨⟨"w", "run", "expense", expenseEvidenceHash h expense, "founder"⟩⟩
    usages :=
      Store.empty.put ⟨⟨"w", "run", "usage", (usageEvidenceHash h usage).toOption.getD "", "founder"⟩⟩ }

theorem linked_eq : Finance.outcomeTables h (fun _ _ => 0) facts [linkExpense, linkUsage] = linked h := rfl

/-- What is reconciled. -/
def costs : ReconciledCosts where
  workspaceId := "w"
  revenueRunId := "run"
  currency := "EUR"
  expenseEvidenceSetHash := costEvidenceSetHash h (fun _ _ => 0) "EXPENSE_SET"
    ((linkedExpenses facts (linked h) "run").map Prod.fst)
  usageEvidenceSetHash := costEvidenceSetHash h (fun _ _ => 0) "RECOGNIZED_RUNTIME_USAGE_SET"
    ((linkedUsages facts (linked h) "run").map Prod.fst)
  expenseTotalMinorUnits := 500
  runtimeChargeMinorUnits := 300
  overlapMinorUnits := 100
  basisReference := "receipts"
  reconciledBy := "founder"

def reconciliation : RevenueRunCostReconciliation :=
  { costs h with
    id := "reconciliation"
    idempotencyKey := "key"
    reconciliationHash := costReconciliationHash h (costs h) }

theorem reconcile_records :
    Records h (fun _ _ => 0) facts (linked h) reconcile (reconciliation h) := by
  have hintact : Intact h facts (linked h) :=
    intact_outcomeTables h (fun _ _ => 0) facts [linkExpense, linkUsage]
  have hexpenses : sumExpenses h (linkedExpenses facts (linked h) "run") = .ok 500 := hintact.sumExpenses "run"
  have husages : sumUsages h (linkedUsages facts (linked h) "run") = .ok 300 := hintact.sumUsages "run"
  have hrun : findRun facts "w" "run" = .ok revenueRun := rfl
  have hid : revenueRun.id = "run" := rfl
  have hvalid : validateCostReconciliationParams ⟨"w", "run", 100, "receipts", "key", "founder"⟩ = .ok () := by
    decide
  refine ⟨?_, rfl⟩
  unfold advanceOutcome performOutcome reconcile recordRevenueRunCostReconciliation
  simp only [Except.bind, bind, hvalid, hrun, hid, hexpenses, husages]
  rfl

theorem reconciled_eq : Finance.outcomeTables h (fun _ _ => 0) facts [linkExpense, linkUsage, reconcile]
    = { linked h with costReconciliations := Store.empty.put (reconciliation h) } := by
  rw [show [linkExpense, linkUsage, reconcile] = [linkExpense, linkUsage] ++ [reconcile] from rfl,
    outcomeTables_concat, linked_eq, (reconcile_records h).recorded.2]
  rfl

theorem reconciled_linked_eq :
    Finance.outcomeTables h (fun _ _ => 0) facts [linkExpense, linkUsage, reconcile, linkEntry]
      = { linked h with
          revenueEntries :=
            Store.empty.put ⟨⟨"w", "run", "entry", revenueEntryEvidenceHash h entry, "founder"⟩⟩
          costReconciliations := Store.empty.put (reconciliation h) } := by
  rw [show [linkExpense, linkUsage, reconcile, linkEntry]
      = [linkExpense, linkUsage, reconcile] ++ [linkEntry] from rfl, outcomeTables_concat, reconciled_eq]
  rfl

end Reconciled

/-- The profit is what the sales leave of the 7 euros. -/
theorem profitAfter_eq (net : Int) (htables : outcomeTables labels = tables)
    (hcurrent : currentReconciliation textHash (fun _ _ => 0) facts tables "run" = some (reconciliation textHash))
    (hexpenses : expensesOf facts tables "run" = 500) (hcharges : chargesOf facts tables "run" = 300)
    (hnet : netRevenueOf facts tables "run" = net) :
    profitAfter labels = .ok (some (net - 700)) := by
  have hrun : findRun facts "w" "run" = .ok revenueRun := rfl
  obtain ⟨evidence, hread, -, htotal, hprofit⟩ := getRevenueRunOutcomeEvidence_eq_ok (fun _ _ => 0) facts
    textHash_collisionFree labels (by decide) (by decide) hrun
  unfold outcomeTables at htables
  rw [htables] at hread htotal hprofit
  rw [htotal, hcurrent, hexpenses, hcharges, hnet] at hprofit
  unfold profitAfter outcomeTables
  rw [htables, hread]
  exact congrArg Except.ok hprofit

end Sample

/-- A revenue link that is added after the reconciliation does not take the profit away. -/
theorem revenue_link_keeps_profit :
    (Sample.outcomeTables [Sample.linkExpense, Sample.linkUsage, Sample.reconcile]).revenueEntries.values = []
      ∧ (Sample.outcomeTables [Sample.linkExpense, Sample.linkUsage, Sample.reconcile,
          Sample.linkEntry]).revenueEntries.values.map (fun l => (l.revenueRunId, l.factId)) = [("run", "entry")]
      ∧ Sample.profitAfter [Sample.linkExpense, Sample.linkUsage, Sample.reconcile] = .ok (some (-700))
      ∧ Sample.profitAfter [Sample.linkExpense, Sample.linkUsage, Sample.reconcile, Sample.linkEntry]
        = .ok (some 1300) := by
  have hbefore := Sample.reconciled_eq Sample.textHash
  have hafter := Sample.reconciled_linked_eq Sample.textHash
  have hcurrent : currentReconciliation Sample.textHash (fun _ _ => 0) Sample.facts
      (Finance.outcomeTables Sample.textHash (fun _ _ => 0) Sample.facts
        [Sample.linkExpense, Sample.linkUsage, Sample.reconcile]) "run"
      = some (Sample.reconciliation Sample.textHash) :=
    (currentReconciliation_eq_some Sample.textHash_collisionFree).mpr ⟨[Sample.linkExpense, Sample.linkUsage],
      Sample.reconcile, [], rfl, rfl, Sample.reconcile_records _, by rw [hbefore]; exact ⟨rfl, rfl⟩⟩
  have hcurrent' : currentReconciliation Sample.textHash (fun _ _ => 0) Sample.facts
      (Finance.outcomeTables Sample.textHash (fun _ _ => 0) Sample.facts
        [Sample.linkExpense, Sample.linkUsage, Sample.reconcile, Sample.linkEntry]) "run"
      = some (Sample.reconciliation Sample.textHash) :=
    (currentReconciliation_eq_some Sample.textHash_collisionFree).mpr ⟨[Sample.linkExpense, Sample.linkUsage],
      Sample.reconcile, [Sample.linkEntry], rfl, rfl, Sample.reconcile_records _, by rw [hafter]; exact ⟨rfl, rfl⟩⟩
  rw [hbefore] at hcurrent
  rw [hafter] at hcurrent'
  refine ⟨?_, ?_, ?_, ?_⟩
  · unfold Sample.outcomeTables
    rw [hbefore]
    rfl
  · unfold Sample.outcomeTables
    rw [hafter]
    rfl
  · exact Sample.profitAfter_eq 0 hbefore hcurrent rfl rfl rfl
  · exact Sample.profitAfter_eq 2000 hafter hcurrent' rfl rfl rfl

theorem profit_iff_reconciled_sale :
    ∃ evidence, getRevenueRunOutcomeEvidence Sample.textHash (fun _ _ => 0) Sample.facts (.ok ())
        (outcomeTables Sample.textHash (fun _ _ => 0) Sample.facts
          [Sample.linkExpense, Sample.linkUsage, Sample.reconcile, Sample.linkEntry]) "w" "run" = .ok evidence
      ∧ (evidence.profit.minorUnits ≠ none ↔ ∃ pre l post r,
          [Sample.linkExpense, Sample.linkUsage, Sample.reconcile, Sample.linkEntry] = pre ++ l :: post
          ∧ r.revenueRunId = "run"
          ∧ Records Sample.textHash (fun _ _ => 0) Sample.facts
            (outcomeTables Sample.textHash (fun _ _ => 0) Sample.facts pre) l r
          ∧ SameCosts Sample.facts (outcomeTables Sample.textHash (fun _ _ => 0) Sample.facts pre)
            (outcomeTables Sample.textHash (fun _ _ => 0) Sample.facts
              [Sample.linkExpense, Sample.linkUsage, Sample.reconcile, Sample.linkEntry]) "run") := by
  have hrun : findRun Sample.facts "w" "run" = .ok Sample.revenueRun := rfl
  obtain ⟨evidence, hread, hprofit, -⟩ := profit_iff_reconciled (fun _ _ => 0) Sample.facts
    Sample.textHash_collisionFree [Sample.linkExpense, Sample.linkUsage, Sample.reconcile, Sample.linkEntry]
    (by decide) (by decide) hrun
  exact ⟨evidence, hread, hprofit⟩

end VentureOS.Finance
