import VentureOS.ControlPlane.Authorization

/-! # What a task may spend

`recordUsage` compares the running total of a task with the limits of the task before it files a
record, and computes the total in double precision over the whole usage map. The invariant
`WithinBudget` carries the comparison over every run: each recorded amount belongs to a task and to
a run of that task, each limit is a safe integer, and each sum is within its limit. Since the sums
are safe, the totals the source computes are the exact sums. -/

namespace VentureOS.ControlPlane

variable {σ : Type} {options : Options σ} {readings : Readings} {plane plane' : Plane} {call : Call}
  {outcome : Except Failure Answer}

/-! ## Sums -/

/-- The exact sum of the costs recorded for a task. -/
def spentCost (plane : Plane) (workspaceId taskId : EntityId) : Int :=
  ((usageOf plane workspaceId taskId).map fun record => record.costMinorUnits.getD 0).sum

/-- The exact sum of the compute recorded for a task. -/
def spentCompute (plane : Plane) (workspaceId taskId : EntityId) : Int :=
  ((usageOf plane workspaceId taskId).map fun record => record.computeUnits.getD 0).sum

/-- The records of a task are stored. -/
theorem mem_of_mem_usageOf {workspaceId taskId : EntityId} {record : UsageRecord}
    (h : record ∈ usageOf plane workspaceId taskId) :
    record ∈ plane.usage ∧ record.workspaceId = workspaceId ∧ record.taskId = taskId := by
  obtain ⟨hstored, hof⟩ := List.mem_filter.mp h
  exact ⟨Store.mem_values.mp hstored, of_decide_eq_true hof⟩

variable {usage : UsageRecord}

/-- A fresh record is appended to the records of its own task, and to no other. -/
theorem usageOf_put (hfresh : plane.usage.get? (keyOf usage) = none)
    (workspaceId taskId : EntityId) :
    usageOf { plane with usage := plane.usage.put usage } workspaceId taskId
      = usageOf plane workspaceId taskId
        ++ if usage.workspaceId = workspaceId ∧ usage.taskId = taskId then [usage] else [] := by
  have hvalues : (plane.usage.put usage).values = plane.usage.values ++ [usage] :=
    OrderedMap.values_set_of_fresh usage hfresh
  unfold usageOf
  rw [hvalues, List.filter_append]
  by_cases h : usage.workspaceId = workspaceId ∧ usage.taskId = taskId
  · simp [h]
  · simp [h]

/-- Recording an amount adds it to the sum of its task and to no other. -/
theorem sum_usageOf_put (hfresh : plane.usage.get? (keyOf usage) = none)
    (amount : UsageRecord → Int) (workspaceId taskId : EntityId) :
    ((usageOf { plane with usage := plane.usage.put usage } workspaceId taskId).map amount).sum
      = ((usageOf plane workspaceId taskId).map amount).sum
        + if usage.workspaceId = workspaceId ∧ usage.taskId = taskId then amount usage else 0 := by
  rw [usageOf_put hfresh, List.map_append, List.sum_append]
  by_cases h : usage.workspaceId = workspaceId ∧ usage.taskId = taskId
  · simp [h]
  · simp [h]

/-- **A comparison in double precision decides the exact one.** Non-negative amounts with a sum
within a safe limit stay within it when an amount is added that does not exceed it. -/
theorem add_le_of_not_exceeds {amounts : List Int} (hamounts : ∀ n ∈ amounts, 0 ≤ n) {limit : Int}
    (hsum : amounts.sum ≤ limit) (hlimit : limit ≤ maxSafeInteger) {amount : Option Int}
    (hamount : 0 ≤ amount.getD 0) (h : ¬ Exceeds (amounts.foldl addDouble 0) limit amount) :
    amounts.sum + amount.getD 0 ≤ limit := by
  cases amount with
  | none => simpa using hsum
  | some n =>
    have hexact : amounts.foldl addDouble 0 = amounts.sum := by
      rw [foldl_addDouble amounts hamounts 0 le_rfl (by omega), zero_add]
    have hnonneg : 0 ≤ amounts.sum := List.sum_nonneg hamounts
    have hadd : 0 ≤ amounts.sum + n := Int.add_nonneg hnonneg hamount
    have hle : addDouble (amounts.foldl addDouble 0) n ≤ limit := not_lt.mp h
    rw [hexact] at hle
    exact (roundDouble_le_iff hadd hlimit).mp hle

/-! ## What an effect does to tasks and to usage -/

/-- What `recordUsage` has checked, with the task and the run it found. -/
structure UsageChecked (plane : Plane) (usage : UsageRecord) (task : ControlPlaneTask)
    (run : AgentRun) : Prop where
  task_found : plane.tasks.get? (key usage.workspaceId usage.taskId) = some task
  run_found : plane.runs.get? (key usage.workspaceId usage.runId) = some run
  run_of_task : run.taskId = task.id
  currency : usage.costMinorUnits ≠ none → usage.currency = some task.costLimit.currency
  cost : ¬ Exceeds (totalCost (usageOf plane usage.workspaceId usage.taskId))
    task.costLimit.maximumMinorUnits usage.costMinorUnits
  compute : ¬ Exceeds (totalCompute (usageOf plane usage.workspaceId usage.taskId))
    task.costLimit.maximumComputeUnits usage.computeUnits

variable {context : WorkspaceContext}

theorem UsageChecked.of_ok
    (h : admitUsage options plane context usage = .ok ()) :
    ∃ task run, UsageChecked plane usage task run := by
  simp only [admitUsage, assertWorkspace, except_bind_eq_ok, throwIf_eq_ok, requireRecord_eq_ok,
    ne_eq, not_and, not_not, exists_const] at h
  obtain ⟨hws, -, task, htask, run, hrun, _, -, -, hof, _, -, _, -, hcurrency, hcost, hcompute⟩ := h
  rw [hws] at htask hrun
  exact ⟨task, run, htask, hrun, hof, hcurrency, hcost, hcompute⟩

variable {task : ControlPlaneTask}

/-- The task that `recordUsage` found is the stored task of that key. -/
theorem UsageChecked.eq_task {task' : ControlPlaneTask} {run : AgentRun}
    (h : UsageChecked plane usage task' run) (htask : task ∈ plane.tasks)
    (hof : usage.workspaceId = task.workspaceId ∧ usage.taskId = task.id) : task' = task := by
  have hfound := h.task_found
  have hget : plane.tasks.get? (key task.workspaceId task.id) = some task := htask
  rw [hof.1, hof.2, hget, Option.some.injEq] at hfound
  exact hfound.symm

/-- A new task has limits that are safe integers. -/
theorem limits_of_admitTask
    (h : admitTask options readings plane context task = .ok ()) :
    (0 ≤ task.costLimit.maximumMinorUnits ∧ task.costLimit.maximumMinorUnits ≤ maxSafeInteger) ∧
      0 ≤ task.costLimit.maximumComputeUnits ∧
        task.costLimit.maximumComputeUnits ≤ maxSafeInteger := by
  simp only [admitTask, except_bind_eq_ok] at h
  obtain ⟨_, -, _, -, _, -, _, hpolicy, -⟩ := h
  simp only [validateCurrentTaskPolicy, assertCostLimit, except_bind_eq_ok] at hpolicy
  obtain ⟨_, -, _, ⟨_, -, _, hminor, hcompute⟩, -⟩ := hpolicy
  exact ⟨bounds_of_assertNonNegativeInteger hminor, bounds_of_assertNonNegativeInteger hcompute⟩

/-- An effect leaves the usage records, or files one that passed its checks and leaves the rest of
the plane. -/
theorem Effect.usage_cases (he : Effect options readings plane call outcome plane') :
    plane'.usage = plane.usage
    ∨ ∃ context usage, admitUsage options plane context usage = .ok ()
        ∧ plane' = { plane with usage := plane.usage.put usage } := by
  cases he with
  | recordUsage admitted => exact .inr ⟨_, _, admitted, rfl⟩
  | _ => exact .inl rfl

/-- No effect loses a task or changes its limits. -/
theorem Effect.task_keeps_limit (he : Effect options readings plane call outcome plane') {k : Key}
    (htask : plane.tasks.get? k = some task) :
    ∃ task', plane'.tasks.get? k = some task' ∧ task'.id = task.id
      ∧ task'.costLimit = task.costLimit := by
  obtain ⟨task', htask', hsame, -⟩ := he.task_moved htask
  exact ⟨task', htask', by rw [hsame], by rw [hsame]⟩

/-! ## The invariant -/

/-- The record belongs to a stored task and to a stored run of that task, and a cost is in the
currency of the task. -/
def Attached (plane : Plane) (record : UsageRecord) : Prop :=
  ∃ task run, plane.tasks.get? (key record.workspaceId record.taskId) = some task
    ∧ plane.runs.get? (key record.workspaceId record.runId) = some run
    ∧ run.taskId = task.id
    ∧ (record.costMinorUnits ≠ none → record.currency = some task.costLimit.currency)

/-- The limits of a task are safe integers and what is recorded for it is within them. -/
structure TaskWithinBudget (plane : Plane) (task : ControlPlaneTask) : Prop where
  cost_safe : task.costLimit.maximumMinorUnits ≤ maxSafeInteger
  compute_safe : task.costLimit.maximumComputeUnits ≤ maxSafeInteger
  cost : spentCost plane task.workspaceId task.id ≤ task.costLimit.maximumMinorUnits
  compute : spentCompute plane task.workspaceId task.id ≤ task.costLimit.maximumComputeUnits

/-- Every recorded amount is attached to a task, and every task is within its budget. -/
structure WithinBudget (plane : Plane) : Prop where
  nonnegative : NonnegativeUsage plane.usage
  attached : ∀ record ∈ plane.usage, Attached plane record
  task : ∀ task ∈ plane.tasks, TaskWithinBudget plane task

/-- Effects keep a stored record attached. -/
theorem Attached.effect {record : UsageRecord} (h : Attached plane record)
    (he : Effect options readings plane call outcome plane') : Attached plane' record := by
  obtain ⟨task, run, htask, hrun, hof, hcurrency⟩ := h
  obtain ⟨task', htask', hid, hlimit⟩ := he.task_keeps_limit htask
  obtain ⟨run', hrun', hcontinues⟩ := he.run_continues hrun
  refine ⟨task', run', htask', hrun', ?_, fun hcost => ?_⟩
  · rw [hcontinues.task, hof, hid]
  · rw [hlimit]; exact hcurrency hcost

/-- Amounts recorded for a task are not negative. -/
theorem NonnegativeUsage.amounts (h : NonnegativeUsage plane.usage)
    (workspaceId taskId : EntityId) :
    (∀ n ∈ (usageOf plane workspaceId taskId).map fun record => record.costMinorUnits.getD 0, 0 ≤ n) ∧
    ∀ n ∈ (usageOf plane workspaceId taskId).map fun record => record.computeUnits.getD 0,
      0 ≤ n := by
  constructor
  · intro n hn
    obtain ⟨record, hrecord, rfl⟩ := List.mem_map.mp hn
    exact (h record (mem_of_mem_usageOf hrecord).1).1
  · intro n hn
    obtain ⟨record, hrecord, rfl⟩ := List.mem_map.mp hn
    exact (h record (mem_of_mem_usageOf hrecord).1).2

namespace WithinBudget

/-- No amount is recorded for a task that is not stored. -/
theorem usageOf_eq_nil (h : WithinBudget plane) {workspaceId taskId : EntityId}
    (habsent : plane.tasks.get? (key workspaceId taskId) = none) :
    usageOf plane workspaceId taskId = [] := by
  refine List.eq_nil_iff_forall_not_mem.mpr fun record hrecord => ?_
  obtain ⟨hstored, hws, htid⟩ := mem_of_mem_usageOf hrecord
  obtain ⟨task, _, htask, -⟩ := h.attached record hstored
  rw [hws, htid, habsent] at htask
  cases htask

/-- Recording an admitted amount keeps every task within its budget. -/
theorem recordUsage (h : WithinBudget plane)
    (hadmitted : admitUsage options plane context usage = .ok ())
    (htask : task ∈ plane.tasks) :
    TaskWithinBudget { plane with usage := plane.usage.put usage } task := by
  have hamounts := UsageAdmitted.of_ok hadmitted
  have hold := h.task task htask
  refine ⟨hold.cost_safe, hold.compute_safe, ?_, ?_⟩
  · unfold spentCost
    rw [sum_usageOf_put hamounts.fresh]
    split
    · rename_i hof
      obtain ⟨task', run, hchecked⟩ := UsageChecked.of_ok hadmitted
      have hcost := hchecked.cost
      rw [hof.1, hof.2, hchecked.eq_task htask hof] at hcost
      exact add_le_of_not_exceeds (h.nonnegative.amounts _ _).1 hold.cost hold.cost_safe
        hamounts.cost hcost
    · rw [add_zero]; exact hold.cost
  · unfold spentCompute
    rw [sum_usageOf_put hamounts.fresh]
    split
    · rename_i hof
      obtain ⟨task', run, hchecked⟩ := UsageChecked.of_ok hadmitted
      have hcompute := hchecked.compute
      rw [hof.1, hof.2, hchecked.eq_task htask hof] at hcompute
      exact add_le_of_not_exceeds (h.nonnegative.amounts _ _).2 hold.compute hold.compute_safe
        hamounts.compute hcompute
    · rw [add_zero]; exact hold.compute

/-- What is spent depends on the usage records only. -/
theorem taskWithinBudget_congr {task' : ControlPlaneTask} (h : TaskWithinBudget plane task)
    (husage : plane'.usage = plane.usage) (hws : task'.workspaceId = task.workspaceId)
    (hid : task'.id = task.id) (hlimit : task'.costLimit = task.costLimit) :
    TaskWithinBudget plane' task' := by
  have hrecords : ∀ workspaceId taskId,
      usageOf plane' workspaceId taskId = usageOf plane workspaceId taskId := by
    intro workspaceId taskId
    rw [usageOf, usageOf, husage]
  refine ⟨hlimit ▸ h.cost_safe, hlimit ▸ h.compute_safe, ?_, ?_⟩
  · rw [spentCost, hrecords, hws, hid, hlimit]; exact h.cost
  · rw [spentCompute, hrecords, hws, hid, hlimit]; exact h.compute

/-- A new task has spent nothing yet. -/
theorem createTask (h : WithinBudget plane)
    (hadmitted : admitTask options readings plane context task = .ok ())
    (husage : plane'.usage = plane.usage) : TaskWithinBudget plane' task := by
  obtain ⟨⟨hcost, hcostSafe⟩, hcompute, hcomputeSafe⟩ := limits_of_admitTask hadmitted
  have hnone : usageOf plane' task.workspaceId task.id = [] := by
    have hfresh := (TaskAdmitted.of_ok hadmitted).fresh
    rw [usageOf, husage]
    exact h.usageOf_eq_nil hfresh
  refine ⟨hcostSafe, hcomputeSafe, ?_, ?_⟩
  · rw [spentCost, hnone]; exact hcost
  · rw [spentCompute, hnone]; exact hcompute

/-- Every effect keeps the budgets. -/
theorem effect (h : WithinBudget plane) (he : Effect options readings plane call outcome plane') :
    WithinBudget plane' := by
  refine ⟨h.nonnegative.effect he, ?_, ?_⟩
  · intro record hrecord
    rcases he.usage_cases with husage | ⟨context, usage, hadmitted, rfl⟩
    · rw [husage] at hrecord
      exact (h.attached record hrecord).effect he
    · rcases Store.mem_put.mp hrecord with rfl | ⟨hold, -⟩
      · obtain ⟨task, run, hchecked⟩ := UsageChecked.of_ok hadmitted
        exact ⟨task, run, hchecked.task_found, hchecked.run_found, hchecked.run_of_task, hchecked.currency⟩
      · exact (h.attached record hold).effect he
  · intro task htask
    rcases he.usage_cases with husage | ⟨context, usage, hadmitted, rfl⟩
    · rcases he.tasks_cases with htasks | ⟨_, new, hadmitted, htasks⟩ | ⟨old, hold, status, -, htasks⟩
      · rw [htasks] at htask
        exact taskWithinBudget_congr (h.task task htask) husage rfl rfl rfl
      · rw [htasks] at htask
        rcases Store.mem_put.mp htask with rfl | ⟨htask, -⟩
        · exact h.createTask hadmitted husage
        · exact taskWithinBudget_congr (h.task task htask) husage rfl rfl rfl
      · rw [htasks] at htask
        rcases Store.mem_put.mp htask with rfl | ⟨htask, -⟩
        · exact taskWithinBudget_congr (h.task old hold) husage rfl rfl rfl
        · exact taskWithinBudget_congr (h.task task htask) husage rfl rfl rfl
    · exact h.recordUsage hadmitted htask

theorem of_reachable (h : Reachable options plane) : WithinBudget plane := by
  refine h.induction ⟨?_, ?_, ?_⟩ fun _ hw he => hw.effect he
  · intro record hrecord
    exact absurd hrecord (Store.not_mem_empty record)
  · intro record hrecord
    exact absurd hrecord (Store.not_mem_empty record)
  · intro task htask
    exact absurd htask (Store.not_mem_empty task)

end WithinBudget

/-! ## Sums only grow -/

/-- No effect lowers what is recorded for a task. -/
theorem Effect.spent_le (he : Effect options readings plane call outcome plane')
    (workspaceId taskId : EntityId) :
    spentCost plane workspaceId taskId ≤ spentCost plane' workspaceId taskId
      ∧ spentCompute plane workspaceId taskId ≤ spentCompute plane' workspaceId taskId := by
  rcases he.usage_cases with husage | ⟨context, usage, hadmitted, rfl⟩
  · have hrecords : usageOf plane' workspaceId taskId = usageOf plane workspaceId taskId := by
      rw [usageOf, usageOf, husage]
    rw [spentCost, spentCost, spentCompute, spentCompute, hrecords]
    exact ⟨le_rfl, le_rfl⟩
  · have hamounts := UsageAdmitted.of_ok hadmitted
    have hcost := hamounts.cost
    have hcompute := hamounts.compute
    unfold spentCost spentCompute
    rw [sum_usageOf_put hamounts.fresh, sum_usageOf_put hamounts.fresh]
    split
    · constructor <;> omega
    · constructor <;> omega

/-- No run lowers what is recorded for a task. -/
theorem spent_le_reach_append (options : Options σ) (sink : σ) (labels more : List Label)
    (workspaceId taskId : EntityId) :
    spentCost (reach options sink labels).plane workspaceId taskId
        ≤ spentCost (reach options sink (labels ++ more)).plane workspaceId taskId
      ∧ spentCompute (reach options sink labels).plane workspaceId taskId
        ≤ spentCompute (reach options sink (labels ++ more)).plane workspaceId taskId := by
  refine reach_append_induction (P := fun plane =>
    spentCost (reach options sink labels).plane workspaceId taskId
        ≤ spentCost plane workspaceId taskId
      ∧ spentCompute (reach options sink labels).plane workspaceId taskId
        ≤ spentCompute plane workspaceId taskId) ⟨le_rfl, le_rfl⟩ ?_ more
  intro readings plane call outcome plane' _ ih he
  have hstep := he.spent_le workspaceId taskId
  exact ⟨ih.1.trans hstep.1, ih.2.trans hstep.2⟩

/-! ## The ceiling -/

/-- The totals the source computes in double precision are the exact sums. -/
theorem TaskWithinBudget.totals_exact (h : TaskWithinBudget plane task)
    (hnonneg : NonnegativeUsage plane.usage) :
    totalCost (usageOf plane task.workspaceId task.id) = spentCost plane task.workspaceId task.id ∧
    totalCompute (usageOf plane task.workspaceId task.id)
      = spentCompute plane task.workspaceId task.id := by
  have hamounts := hnonneg.amounts task.workspaceId task.id
  have hcost := h.cost.trans h.cost_safe
  have hcompute := h.compute.trans h.compute_safe
  constructor
  · rw [totalCost, foldl_addDouble _ hamounts.1 0 le_rfl (by rw [zero_add]; exact hcost), zero_add]
    rfl
  · rw [totalCompute, foldl_addDouble _ hamounts.2 0 le_rfl (by rw [zero_add]; exact hcompute),
      zero_add]
    rfl

/-- **Task spend ceiling.** After every sequence of calls, for every task the costs of its usage
records sum up to at most its cost limit and their compute to at most its compute limit; the totals
the source computes in double precision are these sums; every record belongs to a run of the task,
and one with a cost has the currency of the task. No continuation lowers a sum. -/
theorem task_spending_is_bounded (options : Options σ) (sink : σ) (labels : List Label) :
    (∀ task ∈ (reach options sink labels).plane.tasks,
      let plane := (reach options sink labels).plane
      let records := usageOf plane task.workspaceId task.id
      spentCost plane task.workspaceId task.id ≤ task.costLimit.maximumMinorUnits ∧
      spentCompute plane task.workspaceId task.id ≤ task.costLimit.maximumComputeUnits ∧
      totalCost records = spentCost plane task.workspaceId task.id ∧
      totalCompute records = spentCompute plane task.workspaceId task.id ∧
      ∀ record ∈ records,
        (∃ run ∈ plane.runs, run.id = record.runId ∧ RunOfTask task.workspaceId task.id run) ∧
        (record.costMinorUnits ≠ none → record.currency = some task.costLimit.currency)) ∧
    ∀ more workspaceId taskId,
      spentCost (reach options sink labels).plane workspaceId taskId
          ≤ spentCost (reach options sink (labels ++ more)).plane workspaceId taskId ∧
      spentCompute (reach options sink labels).plane workspaceId taskId
          ≤ spentCompute (reach options sink (labels ++ more)).plane workspaceId taskId := by
  have hbudget := WithinBudget.of_reachable (reachable_reach options sink labels)
  refine ⟨fun task htask => ?_, fun more workspaceId taskId =>
    spent_le_reach_append options sink labels more workspaceId taskId⟩
  have hwithin := hbudget.task task htask
  have hexact := hwithin.totals_exact hbudget.nonnegative
  refine ⟨hwithin.cost, hwithin.compute, hexact.1, hexact.2, fun record hrecord => ?_⟩
  obtain ⟨hstored, hws, htid⟩ := mem_of_mem_usageOf hrecord
  obtain ⟨task', run, htask', hrun, hof, hcurrency⟩ := hbudget.attached record hstored
  -- The task the record is attached to is this one: both are filed under one key.
  have hget : (reach options sink labels).plane.tasks.get? (key task.workspaceId task.id)
      = some task := htask
  rw [hws, htid, hget, Option.some.injEq] at htask'
  subst htask'
  have hkey := key_inj.mp (Store.keyOf_of_get? hrun)
  exact ⟨⟨run, Store.mem_of_get? hrun, hkey.2, hkey.1.trans hws, hof⟩, hcurrency⟩

end VentureOS.ControlPlane
