import VentureOS.Foundations.Journal
import VentureOS.Governance.CostLedger

/-! # The ceilings of the cost ledger

The ledger is a journal: an entry is recorded against those that were there. The policy of a period is the only
one of its kind that covers the entries of the period, so every one of them was checked against its limit. -/

namespace VentureOS.Governance

open ControlPlane Durable

variable {sha256 : String → String} {terms : Terms}

/-! ## Sums -/

theorem aggregateSum_concat (entries : List AcpCostLedgerEntry) (e : AcpCostLedgerEntry)
    (p : AcpCostLedgerEntry → Bool) (f : AcpCostLedgerEntry → Int) :
    aggregateSum (entries ++ [e]) p f = aggregateSum entries p f + if p e = true then f e else 0 := by
  unfold aggregateSum
  rw [List.filter_append, List.map_append, List.sum_append]
  by_cases hp : p e = true
  · rw [List.filter_cons_of_pos hp, if_pos hp]
    simp
  · rw [List.filter_cons_of_neg hp, if_neg hp]
    rfl

/-- **A ceiling holds of a journal** when every entry that counts was recorded below it. -/
theorem aggregateSum_le {R : List AcpCostLedgerEntry → AcpCostLedgerEntry → Prop}
    {entries : List AcpCostLedgerEntry} {p : AcpCostLedgerEntry → Bool} {f : AcpCostLedgerEntry → Int}
    {limit : Int} (hlimit : 0 ≤ limit)
    (hbelow : ∀ l e, R l e → p e = true → aggregateSum l p f + f e ≤ limit) (h : Journal R entries) :
    aggregateSum entries p f ≤ limit := by
  refine Journal.invariant (P := fun l => aggregateSum l p f ≤ limit) hlimit (fun l e ih he => ?_) h
  rw [aggregateSum_concat]
  by_cases hp : p e = true
  · rw [if_pos hp]
    exact hbelow l e he hp
  · rw [if_neg hp, add_zero]
    exact ih

/-! ## What is recorded -/

/-- An entry is recorded under two policies. -/
structure RecordedUnder (sha256 : String → String) (terms : Terms) (before : List AcpCostLedgerEntry)
    (e : AcpCostLedgerEntry) (workspacePolicy taskPolicy : AcpCostBudgetPolicy) : Prop where
  uniqueWorkspace : workspacePoliciesAt terms e.workspaceId e.currency e.recordedAt = [workspacePolicy]
  uniqueTask : taskPoliciesAt terms e.workspaceId e.taskId e.currency e.recordedAt = [taskPolicy]
  workspacePolicyId : e.workspacePolicyId = workspacePolicy.id
  taskPolicyId : e.taskPolicyId = taskPolicy.id
  workspaceHash : policyHash sha256 workspacePolicy = .ok e.workspacePolicyHash
  taskHash : policyHash sha256 taskPolicy = .ok e.taskPolicyHash
  start : e.periodStart = workspacePolicy.periodStart ∧ e.periodStart = taskPolicy.periodStart
  finish : e.periodEnd = workspacePolicy.periodEnd ∧ e.periodEnd = taskPolicy.periodEnd
  workspaceSpend : e.workspaceSpendMinorUnits
    = workspaceSpend before e.workspaceId e.currency e.periodStart e.periodEnd + e.costMinorUnits
  taskSpend : e.taskSpendMinorUnits
    = taskSpend before e.workspaceId e.taskId e.currency e.periodStart e.periodEnd + e.costMinorUnits
  withinWorkspace : e.workspaceSpendMinorUnits ≤ workspacePolicy.limitMinorUnits
  withinTask : e.taskSpendMinorUnits ≤ taskPolicy.limitMinorUnits
  withinLifetime : ∀ task, terms.tasks.get? (key e.workspaceId e.taskId) = some task →
    taskLifetimeCost before e.workspaceId e.taskId + e.costMinorUnits ≤ task.maximumCostMinorUnits
      ∧ taskLifetimeCompute before e.workspaceId e.taskId + e.computeUnits ≤ task.maximumComputeUnits
  checksum : costLedgerChecksum sha256
    (e.binding workspacePolicy.limitMinorUnits taskPolicy.limitMinorUnits) = .ok e.checksum

/-- An entry is recorded against those before it. -/
def Recorded (sha256 : String → String) (terms : Terms) (before : List AcpCostLedgerEntry)
    (e : AcpCostLedgerEntry) : Prop :=
  ∃ workspacePolicy taskPolicy, RecordedUnder sha256 terms before e workspacePolicy taskPolicy

/-- The trigger lets nothing in beyond the durable limits of the task. -/
theorem validateCostLedgerInsert_lifetime {receipts : Store Key AcpBridgeReceipt}
    {usages : Store Key AcpRunUsage} {ledgerClock : Int} {entries : List AcpCostLedgerEntry}
    {new : AcpCostLedgerEntry} {task : AcpTask}
    (h : validateCostLedgerInsert terms receipts usages ledgerClock entries new = .ok ())
    (htask : terms.tasks.get? (key new.workspaceId new.taskId) = some task) :
    taskLifetimeCost entries new.workspaceId new.taskId + new.costMinorUnits ≤ task.maximumCostMinorUnits
      ∧ taskLifetimeCompute entries new.workspaceId new.taskId + new.computeUnits
        ≤ task.maximumComputeUnits := by
  unfold validateCostLedgerInsert at h
  split at h
  · rw [check_bind_eq_ok, check_bind_eq_ok] at h
    obtain ⟨-, -, h⟩ := h
    split at h
    · cases h
    · rw [check_bind_eq_ok] at h
      obtain ⟨-, h⟩ := h
      split at h
      · cases h
      · rw [check_bind_eq_ok, check_bind_eq_ok] at h
        obtain ⟨-, -, h⟩ := h
        rw [htask] at h
        simp only [check_bind_eq_ok] at h
        obtain ⟨hlifetime, -⟩ := h
        rw [throwIf_eq_ok] at hlifetime
        push Not at hlifetime
        exact hlifetime.2.2.2.2.2
  · cases h

theorem insertEntry_eq_ok {l : UsageLabel} {ledger ledger' : Store Key AcpCostLedgerEntry}
    {new : AcpCostLedgerEntry} (h : insertEntry terms l ledger new = .ok ledger') :
    validateCostLedgerInsert terms l.receipts l.usages l.ledgerClock ledger.values new = .ok ()
      ∧ ledger.get? (keyOf new) = none ∧ ledger' = ledger.put new := by
  unfold insertEntry at h
  rw [check_bind_eq_ok, check_bind_eq_ok] at h
  obtain ⟨hvalid, hunique, h⟩ := h
  rw [throwIf_eq_ok, not_or, not_not] at hunique
  exact ⟨hvalid, hunique.1, (Except.ok.inj h).symm⟩

theorem recordUnderPolicies_eq_ok {l : UsageLabel} {ledger ledger' : Store Key AcpCostLedgerEntry}
    {recordedAt : Int} {workspacePolicy taskPolicy : AcpCostBudgetPolicy} {totals : GovernedUsageTotals}
    (hworkspace : workspacePoliciesAt terms l.context.workspaceId l.input.currency recordedAt = [workspacePolicy])
    (htask : taskPoliciesAt terms l.context.workspaceId l.input.taskId l.input.currency recordedAt = [taskPolicy])
    (h : recordUnderPolicies sha256 terms l ledger recordedAt workspacePolicy taskPolicy = .ok (totals, ledger')) :
    ∃ e, ledger.get? (keyOf e) = none ∧ ledger' = ledger.put e
      ∧ RecordedUnder sha256 terms ledger.values e workspacePolicy taskPolicy := by
  unfold recordUnderPolicies at h
  rw [except_bind_eq_ok] at h
  obtain ⟨workspaceHash, hworkspaceHash, h⟩ := h
  rw [check_bind_eq_ok, throwIf_eq_ok, not_not, except_bind_eq_ok] at h
  obtain ⟨hsame, taskHash, htaskHash, h⟩ := h
  rw [check_bind_eq_ok, check_bind_eq_ok, throwIf_eq_ok] at h
  obtain ⟨hmatch, -, h⟩ := h
  push Not at hmatch
  obtain ⟨hsame', -, hstart, hend, -⟩ := hmatch
  split at h
  · cases h
  · rename_i hallows
    rw [except_bind_eq_ok] at h
    obtain ⟨checksum, hchecksum, h⟩ := h
    rw [except_bind_eq_ok] at h
    obtain ⟨ledger₁, hinsert, h⟩ := h
    rw [check_bind_eq_ok] at h
    obtain ⟨-, h⟩ := h
    cases h
    obtain ⟨hvalid, hfresh, rfl⟩ := insertEntry_eq_ok hinsert
    unfold assertBudgetAllows at hallows
    rw [check_bind_eq_ok, throwIf_eq_ok, throwIf_eq_ok, not_or, not_lt, not_lt] at hallows
    obtain ⟨-, hwithinWorkspace, hwithinTask⟩ := hallows
    subst hsame hsame'
    exact ⟨_, hfresh, rfl,
      { uniqueWorkspace := hworkspace
        uniqueTask := htask
        workspacePolicyId := rfl
        taskPolicyId := rfl
        workspaceHash := hworkspaceHash
        taskHash := htaskHash
        start := ⟨rfl, hstart.symm⟩
        finish := ⟨rfl, hend.symm⟩
        workspaceSpend := rfl
        taskSpend := by
          rw [hstart, hend]
          rfl
        withinWorkspace := hwithinWorkspace
        withinTask := hwithinTask
        withinLifetime := fun task hget => validateCostLedgerInsert_lifetime hvalid hget
        checksum := hchecksum }⟩

/-- **What a transaction does**: it is refused and changes nothing, or it adds one recorded entry. -/
theorem advanceLedger_cases (sha256 : String → String) (terms : Terms) (l : UsageLabel)
    (ledger : Store Key AcpCostLedgerEntry) :
    (advanceLedger sha256 terms l ledger).2 = ledger
      ∨ ∃ e, ledger.get? (keyOf e) = none ∧ (advanceLedger sha256 terms l ledger).2 = ledger.put e
        ∧ Recorded sha256 terms ledger.values e := by
  unfold advanceLedger
  cases hrecord : recordUsage sha256 terms l ledger with
  | error e => exact Or.inl rfl
  | ok result =>
    unfold recordUsage at hrecord
    rw [check_bind_eq_ok, except_bind_eq_ok] at hrecord
    obtain ⟨-, derivedActorKind, -, hrecord⟩ := hrecord
    rw [check_bind_eq_ok, except_bind_eq_ok] at hrecord
    obtain ⟨-, level, -, hrecord⟩ := hrecord
    rw [check_bind_eq_ok] at hrecord
    obtain ⟨-, hrecord⟩ := hrecord
    split at hrecord
    · cases hrecord
    · rename_i receipt hreceipt
      split at hrecord
      · rename_i workspacePolicy taskPolicy hworkspace htask
        obtain ⟨e, hfresh, hput, hrecorded⟩ := recordUnderPolicies_eq_ok hworkspace htask hrecord
        exact Or.inr ⟨e, hfresh, hput, workspacePolicy, taskPolicy, hrecorded⟩
      · cases hrecord

/-! ## Runs -/

/-- The ledger after some transactions. -/
def ledgerAfter (sha256 : String → String) (terms : Terms) (labels : List UsageLabel) :
    Store Key AcpCostLedgerEntry :=
  run (advanceLedger sha256 terms) .empty labels

/-- **Run lemma**: the ledger is a journal of recorded entries. -/
theorem journal_ledgerAfter (sha256 : String → String) (terms : Terms) (labels : List UsageLabel) :
    Journal (Recorded sha256 terms) (ledgerAfter sha256 terms labels).values := by
  refine run_induction (advanceLedger sha256 terms)
    (P := fun ledger => Journal (Recorded sha256 terms) ledger.values) Journal.nil (fun pre l ih => ?_) labels
  rcases advanceLedger_cases sha256 terms l (run (advanceLedger sha256 terms) .empty pre) with
    hsame | ⟨e, hfresh, hput, hrecorded⟩
  · rw [hsame]
    exact ih
  · rw [hput, Store.values_put_of_fresh hfresh]
    exact ih.concat hrecorded

section Recorded

variable {before : List AcpCostLedgerEntry} {e : AcpCostLedgerEntry}
  {workspacePolicy taskPolicy policy : AcpCostBudgetPolicy}
  (h : RecordedUnder sha256 terms before e workspacePolicy taskPolicy)
include h

/-- A policy of the workspace that covers the entry is the one it was recorded under. -/
theorem RecordedUnder.eq_workspacePolicy (hpolicy : policy ∈ terms.policies)
    (hscope : policy.scope = .WORKSPACE) (hworkspace : e.workspaceId = policy.workspaceId)
    (hcurrency : e.currency = policy.currency) (hcovers : policy.Covers e.recordedAt) :
    policy = workspacePolicy := by
  have hnone : policy.taskId = none := by
    rcases policy.hasScope with ⟨-, hnone⟩ | ⟨htask, -⟩
    · exact hnone
    · rw [hscope] at htask
      cases htask
  have hmem : policy ∈ workspacePoliciesAt terms e.workspaceId e.currency e.recordedAt :=
    List.mem_filter.mpr ⟨Store.mem_values.mpr hpolicy,
      decide_eq_true ⟨hworkspace.symm, hcurrency.symm, hcovers, hscope, hnone⟩⟩
  rw [h.uniqueWorkspace] at hmem
  exact List.mem_singleton.mp hmem

/-- A policy of the task that covers the entry is the one it was recorded under. -/
theorem RecordedUnder.eq_taskPolicy (hpolicy : policy ∈ terms.policies)
    (htask : policy.taskId = some e.taskId) (hworkspace : e.workspaceId = policy.workspaceId)
    (hcurrency : e.currency = policy.currency) (hcovers : policy.Covers e.recordedAt) :
    policy = taskPolicy := by
  have hscope : policy.scope = .TASK := by
    rcases policy.hasScope with ⟨-, hnone⟩ | ⟨hscope, -⟩
    · rw [hnone] at htask
      cases htask
    · exact hscope
  have hmem : policy ∈ taskPoliciesAt terms e.workspaceId e.taskId e.currency e.recordedAt :=
    List.mem_filter.mpr ⟨Store.mem_values.mpr hpolicy,
      decide_eq_true ⟨hworkspace.symm, hcurrency.symm, hcovers, hscope, htask⟩⟩
  rw [h.uniqueTask] at hmem
  exact List.mem_singleton.mp hmem

/-- The two policies are found under the ids that the entry has. -/
theorem RecordedUnder.get? :
    terms.policies.get? (key e.workspaceId e.workspacePolicyId) = some workspacePolicy
      ∧ terms.policies.get? (key e.workspaceId e.taskPolicyId) = some taskPolicy := by
  have hworkspace : workspacePolicy ∈ workspacePoliciesAt terms e.workspaceId e.currency e.recordedAt := by
    rw [h.uniqueWorkspace]
    exact List.mem_singleton_self _
  have htask : taskPolicy ∈ taskPoliciesAt terms e.workspaceId e.taskId e.currency e.recordedAt := by
    rw [h.uniqueTask]
    exact List.mem_singleton_self _
  obtain ⟨hmem, hof⟩ := List.mem_filter.mp hworkspace
  obtain ⟨hmem', hof'⟩ := List.mem_filter.mp htask
  rw [h.workspacePolicyId, h.taskPolicyId]
  nth_rewrite 1 [← (of_decide_eq_true hof).1]
  rw [← (of_decide_eq_true hof').1]
  exact ⟨Store.mem_iff_get?.mp (Store.mem_values.mp hmem), Store.mem_iff_get?.mp (Store.mem_values.mp hmem')⟩

/-- The entry lies in its own period. -/
theorem RecordedUnder.within : e.periodStart ≤ e.recordedAt ∧ e.recordedAt < e.periodEnd := by
  have hmem : workspacePolicy ∈ workspacePoliciesAt terms e.workspaceId e.currency e.recordedAt := by
    rw [h.uniqueWorkspace]
    exact List.mem_singleton_self _
  rw [h.start.1, h.finish.1]
  exact (of_decide_eq_true (List.mem_filter.mp hmem).2).2.2.1

/-- **A recorded entry is verified** whenever it is read. -/
theorem RecordedUnder.verifyEntry : verifyEntry sha256 terms e = .ok () := by
  obtain ⟨hworkspace, htask⟩ := h.get?
  unfold Governance.verifyEntry
  rw [hworkspace, htask]
  simp only [Except.bind, bind, h.checksum, h.workspaceHash, h.taskHash, throwIf, ne_eq, not_true, if_false]

end Recorded

/-! ## The ceilings -/

section Ceilings

variable {entries : List AcpCostLedgerEntry} (h : Journal (Recorded sha256 terms) entries)
include h

/-- **The workspace ceiling.** -/
theorem workspaceSpend_le {policy : AcpCostBudgetPolicy} (hpolicy : policy ∈ terms.policies)
    (hscope : policy.scope = .WORKSPACE) :
    workspaceSpend entries policy.workspaceId policy.currency policy.periodStart policy.periodEnd
      ≤ policy.limitMinorUnits := by
  refine aggregateSum_le policy.bounded.1 (fun before e he hcounts => ?_) h
  obtain ⟨workspacePolicy, taskPolicy, hrecorded⟩ := he
  obtain ⟨hworkspace, hcurrency, hcovers⟩ := of_decide_eq_true hcounts
  have hsame := hrecorded.eq_workspacePolicy hpolicy hscope hworkspace hcurrency hcovers
  have hspend := hrecorded.workspaceSpend
  have hwithin := hrecorded.withinWorkspace
  rw [hrecorded.start.1, hrecorded.finish.1, ← hsame, hworkspace, hcurrency] at hspend
  rw [← hsame, hspend] at hwithin
  exact hwithin

/-- **The task ceiling.** -/
theorem taskSpend_le {policy : AcpCostBudgetPolicy} {taskId : EntityId} (hpolicy : policy ∈ terms.policies)
    (htask : policy.taskId = some taskId) :
    taskSpend entries policy.workspaceId taskId policy.currency policy.periodStart policy.periodEnd
      ≤ policy.limitMinorUnits := by
  refine aggregateSum_le policy.bounded.1 (fun before e he hcounts => ?_) h
  obtain ⟨workspacePolicy, taskPolicy, hrecorded⟩ := he
  obtain ⟨hworkspace, hof, hcurrency, hcovers⟩ := of_decide_eq_true hcounts
  have hsame := hrecorded.eq_taskPolicy hpolicy (hof ▸ htask) hworkspace hcurrency hcovers
  have hspend := hrecorded.taskSpend
  have hwithin := hrecorded.withinTask
  rw [hrecorded.start.2, hrecorded.finish.2, ← hsame, hworkspace, hof, hcurrency] at hspend
  rw [← hsame, hspend] at hwithin
  exact hwithin

/-- **The lifetime ceilings.** -/
theorem taskLifetime_le {task : AcpTask} (htask : task ∈ terms.tasks) :
    taskLifetimeCost entries task.workspaceId task.id ≤ task.maximumCostMinorUnits
      ∧ taskLifetimeCompute entries task.workspaceId task.id ≤ task.maximumComputeUnits := by
  constructor
  · refine aggregateSum_le task.cost_nonneg (fun before e he hcounts => ?_) h
    obtain ⟨workspacePolicy, taskPolicy, hrecorded⟩ := he
    obtain ⟨hworkspace, hof⟩ := of_decide_eq_true hcounts
    have hlifetime := hrecorded.withinLifetime task
    rw [hworkspace, hof] at hlifetime
    exact (hlifetime htask).1
  · refine aggregateSum_le task.compute_nonneg (fun before e he hcounts => ?_) h
    obtain ⟨workspacePolicy, taskPolicy, hrecorded⟩ := he
    obtain ⟨hworkspace, hof⟩ := of_decide_eq_true hcounts
    have hlifetime := hrecorded.withinLifetime task
    rw [hworkspace, hof] at hlifetime
    exact (hlifetime htask).2

/-- **Running totals**: an entry has the totals of its period up to itself. -/
theorem spend_eq {before after : List AcpCostLedgerEntry} {e : AcpCostLedgerEntry}
    (hsplit : entries = before ++ e :: after) :
    e.workspaceSpendMinorUnits
        = workspaceSpend (before ++ [e]) e.workspaceId e.currency e.periodStart e.periodEnd
      ∧ e.taskSpendMinorUnits
        = taskSpend (before ++ [e]) e.workspaceId e.taskId e.currency e.periodStart e.periodEnd := by
  obtain ⟨workspacePolicy, taskPolicy, hrecorded⟩ := h before e after hsplit
  have hwithin := hrecorded.within
  constructor
  · unfold workspaceSpend
    rw [aggregateSum_concat, if_pos (decide_eq_true ⟨rfl, rfl, hwithin⟩)]
    exact hrecorded.workspaceSpend
  · unfold taskSpend
    rw [aggregateSum_concat, if_pos (decide_eq_true ⟨rfl, rfl, rfl, hwithin⟩)]
    exact hrecorded.taskSpend

theorem verifyEntries_eq_ok {page : List AcpCostLedgerEntry} (hpage : ∀ e ∈ page, e ∈ entries) :
    verifyEntries sha256 terms page = .ok () := by
  induction page with
  | nil => rfl
  | cons e rest ih =>
    have hverified := h.forall_mem (fun _ _ ⟨_, _, hrecorded⟩ => hrecorded.verifyEntry) e
      (hpage e List.mem_cons_self)
    unfold verifyEntries
    rw [hverified]
    exact ih fun e' he' => hpage e' (List.mem_cons_of_mem _ he')

end Ceilings

/-- **The cost ledger stays below its ceilings**, its running totals are exact, and it can always be read: in
every history of transactions, against any policies and tasks. -/
theorem cost_ledger_ceilings (sha256 : String → String) (compareText : String → String → Int) (terms : Terms)
    (labels : List UsageLabel) :
    let ledger := ledgerAfter sha256 terms labels
    (∀ policy ∈ terms.policies, policy.scope = .WORKSPACE →
        workspaceSpend ledger.values policy.workspaceId policy.currency policy.periodStart policy.periodEnd
          ≤ policy.limitMinorUnits)
      ∧ (∀ policy ∈ terms.policies, ∀ taskId, policy.scope = .TASK → policy.taskId = some taskId →
        taskSpend ledger.values policy.workspaceId taskId policy.currency policy.periodStart policy.periodEnd
          ≤ policy.limitMinorUnits)
      ∧ (∀ task ∈ terms.tasks,
        taskLifetimeCost ledger.values task.workspaceId task.id ≤ task.maximumCostMinorUnits
          ∧ taskLifetimeCompute ledger.values task.workspaceId task.id ≤ task.maximumComputeUnits)
      ∧ (∀ before e after, ledger.values = before ++ e :: after →
        e.workspaceSpendMinorUnits
            = workspaceSpend (before ++ [e]) e.workspaceId e.currency e.periodStart e.periodEnd
          ∧ e.taskSpendMinorUnits
            = taskSpend (before ++ [e]) e.workspaceId e.taskId e.currency e.periodStart e.periodEnd)
      ∧ ∀ capability context count, assertObserver capability context count = .ok () →
        listLedger sha256 terms compareText ledger capability context count
          = .ok (ledgerPage compareText ledger context.workspaceId count.toNat) := by
  intro ledger
  have hjournal := journal_ledgerAfter sha256 terms labels
  refine ⟨fun policy hpolicy hscope => workspaceSpend_le hjournal hpolicy hscope,
    fun policy hpolicy taskId _ htask => taskSpend_le hjournal hpolicy htask,
    fun task htask => taskLifetime_le hjournal htask,
    fun before e after hsplit => spend_eq hjournal hsplit, fun capability context count hobserver => ?_⟩
  have hpage : ∀ e ∈ ledgerPage compareText ledger context.workspaceId count.toNat, e ∈ ledger.values := by
    intro e he
    have hsorted := List.mem_of_mem_take he
    exact (List.mem_filter.mp ((sortBy_perm _ _).mem_iff.mp hsorted)).1
  have hverified := verifyEntries_eq_ok hjournal hpage
  unfold listLedger
  rw [hobserver]
  simp only [Except.bind, bind, hverified]
  rfl

end VentureOS.Governance
