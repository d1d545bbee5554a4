import VentureOS.Coo.Writes

/-! # The governed task graph

The tasks of all accepted plans form a graph: a task points to the stored tasks it depends on. Plans
add to the graph (`addPlan`), no other write changes its shape: every other write replaces one task
by one with the same plan data (`Change`). `Write.effect` says this for each write, and `Sound` is
the invariant on the shape: objectives and dependencies of stored tasks are stored, and a task that
was ever ready has completed dependencies. -/

namespace VentureOS.Coo

open ControlPlane Program Relation

variable {ω σ : Type} {governance : Governance ω σ}

/-! ## Valid plans -/

/-- What `#validateAgentPolicy` has checked. -/
structure ValidAgentPolicy (options : AiCooOptions) (policy : CooAgentPolicy) (task : CooTask) :
    Prop where
  templateId : PrintableText policy.templateId
  parentAgentId : ∀ parentAgentId, policy.parentAgentId = some parentAgentId →
    PrintableText parentAgentId
  templateVersion : WithinBounds policy.templateVersion maxSafeInteger
  positive : 1 ≤ policy.templateVersion
  repositoryScopes : (policy.repositoryScopes ≠ [] ∧ policy.repositoryScopes.length ≤ 64)
    ∧ ∀ value ∈ policy.repositoryScopes, PrintableText value
  environmentScopes : (policy.environmentScopes ≠ [] ∧ policy.environmentScopes.length ≤ 64)
    ∧ ∀ value ∈ policy.environmentScopes, PrintableText value
  dataScopes : (policy.dataScopes ≠ [] ∧ policy.dataScopes.length ≤ 64)
    ∧ ∀ value ∈ policy.dataScopes, PrintableText value
  capabilityIds : policy.capabilityIds.length ≤ 64
    ∧ ∀ value ∈ policy.capabilityIds, PrintableText value
  toolGrants : policy.toolGrants.length ≤ 64 ∧ ∀ grant ∈ policy.toolGrants,
    PrintableText grant.toolId ∧ grant.scopes.length ≤ 64
      ∧ ∀ scope ∈ grant.scopes, PrintableText scope
  maxRuntimeMs : WithinBounds policy.maxRuntimeMs options.maximumTaskDurationMs
  childLimit : WithinBounds policy.childLimit 100

/-- What `#validatePlan` has checked on a task. -/
structure ValidTask (options : AiCooOptions) (objective : CooObjective) (task : CooTask) :
    Prop where
  dependencies : task.dependencyIds.Nodup
  costLimit : WithinBounds task.costLimit.maximumMinorUnits maxSafeInteger
  computeLimit : WithinBounds task.costLimit.maximumComputeUnits maxSafeInteger
  duration : WithinBounds task.estimatedDurationMs options.maximumTaskDurationMs
  acceptanceCriteria : (task.acceptanceCriteria ≠ [] ∧ task.acceptanceCriteria.length ≤ 64)
    ∧ ∀ value ∈ task.acceptanceCriteria, PrintableText value
  verificationCriteria : (task.verificationCriteria ≠ [] ∧ task.verificationCriteria.length ≤ 64)
    ∧ ∀ value ∈ task.verificationCriteria, PrintableText value
  stopConditions : (task.stopConditions ≠ [] ∧ task.stopConditions.length ≤ 64)
    ∧ ∀ value ∈ task.stopConditions, PrintableText value
  agentPolicy : ValidAgentPolicy options task.agentPolicy task
  attempts : WithinBounds task.retryPolicy.maximumAttempts (options.maximumRetriesPerTask + 1)
  attempted : 1 ≤ task.retryPolicy.maximumAttempts

variable {options : AiCooOptions}

theorem validAgentPolicy {policy : CooAgentPolicy} {task : CooTask}
    (h : validateAgentPolicy options policy task = .ok ()) :
    ValidAgentPolicy options policy task := by
  simp only [validateAgentPolicy, check_bind_eq_ok, throwIf_eq_ok, forM_eq_ok, boundedText_eq_ok,
    integer_eq_ok, denseStrings_eq_ok, boundedDenseStrings_eq_ok] at h
  obtain ⟨h₁, h₂, h₃, h₄, h₅, h₆, h₇, h₈, h₉, h₁₀, h₁₁, -, h₁₂⟩ := h
  refine ⟨h₁, fun parentAgentId hparent => ?_, h₃, by omega, ⟨h₅.1, h₅.2.1⟩, ⟨h₆.1, h₆.2.1⟩,
    ⟨h₇.1, h₇.2.1⟩, ⟨h₈.1, h₈.2.1⟩, ⟨by omega, fun grant hgrant => ?_⟩, h₁₁, h₁₂⟩
  · exact h₂ parentAgentId (by simp [hparent])
  · obtain ⟨htool, ⟨-, hlength⟩, hscopes, -⟩ := h₁₀ grant hgrant
    exact ⟨htool, hlength, hscopes⟩

theorem validTask {objective : CooObjective} {task : CooTask}
    (h : validateTask options objective task = .ok ()) : ValidTask options objective task := by
  simp only [validateTask, check_bind_eq_ok, throwIf_eq_ok, forM_eq_ok, boundedText_eq_ok,
    integer_eq_ok, boundedDenseStrings_eq_ok, validateCost_eq_ok, not_not] at h
  obtain ⟨hdeps, -, -, -, -, -, ⟨-, hcost, hcompute⟩, -, hduration, -, haccept, hverify, hstop,
    hagent, -, -, hattempts, hcount, -⟩ := h
  refine ⟨hdeps, hcost, hcompute, hduration, ⟨haccept.1, haccept.2.1⟩, ⟨hverify.1, hverify.2.1⟩,
    ⟨hstop.1, hstop.2.1⟩, validAgentPolicy hagent, hattempts, ?_⟩
  omega

/-- What `#validatePlan` has checked. -/
structure ValidPlan (options : AiCooOptions) (context : WorkspaceContext) (plan : ObjectivePlan) :
    Prop where
  workspace : plan.objective.workspaceId = context.workspaceId
  objectiveId : PrintableText plan.objective.id
  costLimit : WithinBounds plan.objective.costLimit.maximumMinorUnits maxSafeInteger
  computeLimit : WithinBounds plan.objective.costLimit.maximumComputeUnits maxSafeInteger
  count : plan.tasks.length ≤ options.maximumTasksPerObjective
  taskIds : (plan.tasks.map CooTask.id).Nodup
  linkage : ∀ task ∈ plan.tasks, task.workspaceId = context.workspaceId
    ∧ task.objectiveId = plan.objective.id ∧ PrintableText task.id
  valid : ∀ task ∈ plan.tasks, ValidTask options plan.objective task
  reservedCost : totalReserved plan.tasks CostLimit.maximumMinorUnits
    ≤ plan.objective.costLimit.maximumMinorUnits
  reservedCompute : totalReserved plan.tasks CostLimit.maximumComputeUnits
    ≤ plan.objective.costLimit.maximumComputeUnits
  dependencies : ∀ task ∈ plan.tasks, ∀ d ∈ task.dependencyIds,
    d ∈ plan.tasks.map CooTask.id ∧ d ≠ task.id
  acyclic : (topologicalOrder plan.tasks).length = plan.tasks.length

variable {context : WorkspaceContext}

variable {plan : ObjectivePlan}

/-- The loop over the tasks: each is valid and linked, and the identifiers are new. -/
theorem validateTasks_spec
    {taskIds : List EntityId} {tasks : List CooTask}
    (h : validateTasks options context plan taskIds tasks = .ok ()) :
    ((tasks.map CooTask.id).Nodup ∧ ∀ task ∈ tasks, task.id ∉ taskIds)
      ∧ ∀ task ∈ tasks, (task.workspaceId = context.workspaceId
        ∧ task.objectiveId = plan.objective.id ∧ PrintableText task.id)
        ∧ ValidTask options plan.objective task := by
  induction tasks generalizing taskIds with
  | nil => simp
  | cons task rest ih =>
    simp only [validateTasks, assertWorkspace, check_bind_eq_ok, throwIf_eq_ok,
      boundedText_eq_ok, not_or, not_not] at h
    obtain ⟨hworkspace, hid, -, -, ⟨hobjective, -⟩, hnew, hvalid, hrest⟩ := h
    obtain ⟨⟨hnodup, hfresh⟩, hall⟩ := ih hrest
    refine ⟨⟨?_, ?_⟩, ?_⟩
    · rw [List.map_cons, List.nodup_cons]
      refine ⟨fun hmem => ?_, hnodup⟩
      obtain ⟨other, hother, heq⟩ := List.mem_map.mp hmem
      exact hfresh other hother (by simp [heq])
    · rintro other hother
      rcases List.mem_cons.mp hother with rfl | hother
      · exact hnew
      · exact fun hmem => hfresh other hother (List.mem_cons_of_mem _ hmem)
    · rintro other hother
      rcases List.mem_cons.mp hother with rfl | hother
      · exact ⟨⟨hworkspace.symm, hobjective, hid⟩, validTask hvalid⟩
      · exact hall other hother

theorem validPlan (h : validatePlan options context plan = .ok ()) : ValidPlan options context plan := by
  simp only [validatePlan, assertAcyclic, check_bind_eq_ok, throwIf_eq_ok, forM_eq_ok, not_or, not_not, not_lt] at h
  obtain ⟨hobjective, -, ⟨-, hcount⟩, -, htasks, ⟨hcost, hcompute⟩, hdeps, hacyclic⟩ := h
  simp only [validateObjective, assertWorkspace, check_bind_eq_ok, throwIf_eq_ok,
    boundedText_eq_ok, validateCost_eq_ok, not_not] at hobjective
  obtain ⟨hworkspace, hid, -, -, -, ⟨-, hcostLimit, hcomputeLimit⟩, -⟩ := hobjective
  obtain ⟨⟨hnodup, -⟩, hall⟩ := validateTasks_spec htasks
  exact ⟨hworkspace.symm, hid, hcostLimit, hcomputeLimit, hcount, hnodup,
    fun task htask => (hall task htask).1, fun task htask => (hall task htask).2, hcost, hcompute,
    fun task htask d hd => by simpa using hdeps task htask d hd, hacyclic⟩

/-- What `createPlan` has checked before it registers the plan. -/
structure NewPlan (governance : Governance ω σ) (coo : GovernedAiCoo)
    (context : WorkspaceContext) (plan : ObjectivePlan) : Prop where
  valid : ValidPlan governance.options context plan
  newObjective : coo.objectives.get? (key context.workspaceId plan.objective.id) = none
  newIds : ∀ id ∈ planEntityIds plan, key context.workspaceId id ∉ coo.entityIds

variable {coo : GovernedAiCoo}

theorem newPlan
    (h : checkPlan governance coo context plan = .ok ()) : NewPlan governance coo context plan := by
  simp only [checkPlan, check_bind_eq_ok, throwIf_eq_ok, forM_eq_ok, Bool.not_eq_true, Store.has_eq_false] at h
  obtain ⟨-, hvalid, hobjective, -, hids⟩ := h
  exact ⟨validPlan hvalid, hobjective, hids⟩

/-! ## Dependencies -/

/-- Every task the given one names as a dependency is stored and completed. -/
def DependenciesCompleted (coo : GovernedAiCoo) (task : CooTask) : Prop :=
  ∀ d ∈ task.dependencyIds, ∃ dependency,
    coo.tasks.get? (key task.workspaceId d) = some dependency ∧ dependency.status = .COMPLETED

/-- The readiness derived from the dependencies of a task. -/
theorem readiness_eq_ready {task : CooTask}
    {dependencies : List CooTaskState} (hworkspace : task.workspaceId = context.workspaceId)
    (h : requireDependencies coo context task = .ok dependencies) :
    readiness dependencies = .READY ↔ DependenciesCompleted coo task := by
  have hall : readiness dependencies = .READY ↔ ∀ d ∈ dependencies, d.status = .COMPLETED := by
    unfold readiness
    constructor
    · intro hready
      split at hready
      · cases hready
      · split at hready
        next hcompleted => simpa using hcompleted
        next => cases hready
    · intro hcompleted
      have hfailed : ¬ dependencies.any
          (fun d => decide (d.status = .FAILED ∨ d.status = .STOPPED)) = true := by
        simp only [List.any_eq_true, decide_eq_true_eq, not_exists, not_and]
        intro d hd hstatus
        rw [hcompleted d hd] at hstatus
        simp at hstatus
      rw [if_neg hfailed, if_pos (by simpa using hcompleted)]
  rw [hall, DependenciesCompleted, hworkspace]
  have hfound := mapM_eq_ok.mp h
  generalize task.dependencyIds = ids at hfound
  clear hall h
  induction hfound with
  | nil => simp
  | cons hd _ ih =>
    rw [requireTask_eq_ok] at hd
    simp [hd, ih]

/-- The readiness of a task is one of two statuses. -/
theorem readiness_cases (dependencies : List CooTaskState) :
    readiness dependencies = .READY ∨ readiness dependencies = .BLOCKED := by
  unfold readiness
  split
  · exact Or.inr rfl
  · split
    · exact Or.inl rfl
    · exact Or.inr rfl

/-! ## Writes on the graph -/

/-- What can become of one stored task in one write. -/
structure Change (coo : GovernedAiCoo) (old new : CooTaskState) : Prop where
  /-- The plan data of a task never changes. -/
  same : new.toCooTask = old.toCooTask
  moving : old.status = .BLOCKED ∨ old.status = .READY ∨ old.status = .ASSIGNED
  notAwaiting : new.status ≠ .AWAITING_APPROVAL
  unblocked : new.status ≠ .BLOCKED →
    old.status ≠ .BLOCKED ∨ DependenciesCompleted coo old.toCooTask
  blocked : new.status = .BLOCKED → ¬ DependenciesCompleted coo old.toCooTask
  /-- Attempts are counted when a ready task is assigned. -/
  attempts : new.attempts = old.attempts
    ∨ (old.status = .READY ∧ new.status = .ASSIGNED ∧ new.attempts = old.attempts + 1)
  /-- A task waits again only with an attempt left. -/
  waiting : new.status = .BLOCKED ∨ new.status = .READY →
    new.attempts = old.attempts ∧ (old.status = .BLOCKED ∨ old.status = .READY
      ∨ old.attempts < old.retryPolicy.maximumAttempts)
  /-- Usage is charged within the limits of the task. -/
  usage : (new.costUsedMinorUnits = old.costUsedMinorUnits ∧ new.computeUsed = old.computeUsed)
    ∨ ∃ costMinorUnits computeUnits, WithinBounds costMinorUnits maxSafeInteger
      ∧ WithinBounds computeUnits maxSafeInteger ∧ ¬ ExceedsTask old costMinorUnits computeUnits
      ∧ new.costUsedMinorUnits = addDouble old.costUsedMinorUnits costMinorUnits
      ∧ new.computeUsed = addDouble old.computeUsed computeUnits

/-- A replaced task keeps its key. -/
theorem Change.keyOf_eq {old new : CooTaskState}
    (change : Change coo old new) : keyOf (K := Key) new = keyOf old := by
  show key new.workspaceId new.id = key old.workspaceId old.id
  rw [change.same]

variable {task : CooTaskState}

/-- A checked assignment is of a ready task below level 4. -/
theorem checkAssignment_ready {request : AssignmentRequest}
    (h : checkAssignment task request = .ok ()) :
    task.requiredAuthority.val ≠ 4 ∧ task.status = .READY := by
  simp only [checkAssignment, check_bind_eq_ok, throwIf_eq_ok, not_not] at h
  exact ⟨h.1, h.2.1⟩

variable {taskId : EntityId}

/-- What the checks of `recordUsage` establish. -/
theorem checkUsage_ok {costMinorUnits computeUnits : Int}
    (h : checkUsage governance coo context taskId costMinorUnits computeUnits = .ok task) :
    coo.tasks.get? (key context.workspaceId taskId) = some task ∧ task.status = .ASSIGNED
      ∧ WithinBounds costMinorUnits maxSafeInteger ∧ WithinBounds computeUnits maxSafeInteger
      ∧ ¬ ExceedsTask task costMinorUnits computeUnits := by
  simp only [checkUsage, check_bind_eq_ok] at h
  obtain ⟨-, h⟩ := h
  obtain ⟨found, hfound, h⟩ := except_bind_eq_ok.mp h
  simp only [check_bind_eq_ok, throwIf_eq_ok, integer_eq_ok, not_not] at h
  obtain ⟨hassigned, hcost, hcompute, h⟩ := h
  obtain ⟨objective, -, h⟩ := except_bind_eq_ok.mp h
  simp only [check_bind_eq_ok, throwIf_eq_ok, except_pure_eq_ok, not_or] at h
  obtain ⟨⟨hexceeds, -⟩, rfl⟩ := h
  exact ⟨requireTask_eq_ok.mp hfound, hassigned, hcost, hcompute, hexceeds⟩

/-- What the checks of `completeTask` on the task establish. -/
theorem checkCompletable_ok
    (h : checkCompletable governance coo context taskId = .ok task) :
    coo.tasks.get? (key context.workspaceId taskId) = some task ∧ task.status = .ASSIGNED := by
  simp only [checkCompletable, check_bind_eq_ok] at h
  obtain ⟨-, h⟩ := h
  obtain ⟨found, hfound, h⟩ := except_bind_eq_ok.mp h
  simp only [check_bind_eq_ok, throwIf_eq_ok, except_pure_eq_ok, not_not] at h
  obtain ⟨hassigned, rfl⟩ := h
  exact ⟨requireTask_eq_ok.mp hfound, hassigned⟩

/-- What the checks of `recordFailure` establish. -/
theorem checkFailure_ok {failureCode : String}
    (h : checkFailure governance coo context taskId failureCode = .ok task) :
    coo.tasks.get? (key context.workspaceId taskId) = some task ∧ task.status = .ASSIGNED := by
  simp only [checkFailure, check_bind_eq_ok] at h
  obtain ⟨-, -, h⟩ := h
  obtain ⟨found, hfound, h⟩ := except_bind_eq_ok.mp h
  simp only [check_bind_eq_ok, throwIf_eq_ok, except_pure_eq_ok, not_not] at h
  obtain ⟨hassigned, rfl⟩ := h
  exact ⟨requireTask_eq_ok.mp hfound, hassigned⟩

/-- Refreshing a waiting task. -/
theorem change_refresh
    {dependencies : List CooTaskState}
    (found : coo.tasks.get? (key context.workspaceId taskId) = some task)
    (waiting : task.status = .BLOCKED ∨ task.status = .READY)
    (resolved : requireDependencies coo context task.toCooTask = .ok dependencies) :
    Change coo task { task with status := readiness dependencies } := by
  have hkey : key task.workspaceId task.id = key context.workspaceId taskId :=
    Store.keyOf_of_get? found
  have hready := readiness_eq_ready (key_inj.mp hkey).1 resolved
  have hcases := readiness_cases dependencies
  refine ⟨rfl, by tauto, ?_, fun h => Or.inr ?_, fun h hcompleted => ?_, Or.inl rfl,
    fun _ => ⟨rfl, by tauto⟩, Or.inl ⟨rfl, rfl⟩⟩
  · rcases hcases with h | h <;> simp [h]
  · exact hready.mp (hcases.resolve_right h)
  · rw [hready.mpr hcompleted] at h
    cases h

/-- Assigning a ready task. -/
theorem change_assign {request : AssignmentRequest}
    (checked : checkAssignment task request = .ok ()) (agentId : EntityId)
    (runtime : RuntimeRoutingDecision) :
    Change coo task (assignedTask task request agentId runtime) := by
  obtain ⟨-, hready⟩ := checkAssignment_ready checked
  refine ⟨rfl, by tauto, by simp [assignedTask], fun _ => Or.inl (by simp [hready]),
    fun h => ?_, Or.inr ⟨hready, rfl, rfl⟩, fun h => ?_, Or.inl ⟨rfl, rfl⟩⟩
  · simp [assignedTask] at h
  · simp [assignedTask] at h

/-- Charging an assigned task. -/
theorem change_charge {costMinorUnits computeUnits : Int}
    (hassigned : task.status = .ASSIGNED) (hcost : WithinBounds costMinorUnits maxSafeInteger)
    (hcompute : WithinBounds computeUnits maxSafeInteger)
    (hexceeds : ¬ ExceedsTask task costMinorUnits computeUnits) :
    Change coo task (chargedTask task costMinorUnits computeUnits) := by
  refine ⟨rfl, by tauto, by simp [chargedTask, hassigned], fun _ => Or.inl (by simp [hassigned]),
    fun h => ?_, Or.inl rfl, fun h => ?_,
    Or.inr ⟨costMinorUnits, computeUnits, hcost, hcompute, hexceeds, rfl, rfl⟩⟩
  · simp [chargedTask, hassigned] at h
  · simp [chargedTask, hassigned] at h

/-- Completing an assigned task. -/
theorem change_complete
    (hassigned : task.status = .ASSIGNED) :
    Change coo task { task with status := .COMPLETED } := by
  refine ⟨rfl, by tauto, by simp, fun _ => Or.inl (by simp [hassigned]), fun h => ?_, Or.inl rfl,
    fun h => ?_, Or.inl ⟨rfl, rfl⟩⟩
  · cases h
  · rcases h with h | h <;> cases h

/-- The statuses a failure leaves. -/
theorem failureStatus_cases (task : CooTaskState) (failureCode : String) :
    failureStatus task failureCode = .STOPPED ∨ failureStatus task failureCode = .FAILED
      ∨ (failureStatus task failureCode = .READY
        ∧ task.attempts < task.retryPolicy.maximumAttempts) := by
  unfold failureStatus
  split
  · exact Or.inl rfl
  · split
    next h => exact Or.inr (Or.inr ⟨rfl, h.2⟩)
    next => exact Or.inr (Or.inl rfl)

/-- A failure of an assigned task. -/
theorem change_fail {failureCode : String}
    (hassigned : task.status = .ASSIGNED) : Change coo task (failedTask task failureCode) := by
  have hstatus : (failedTask task failureCode).status = failureStatus task failureCode := rfl
  have hcases := failureStatus_cases task failureCode
  refine ⟨rfl, by tauto, ?_, fun _ => Or.inl (by simp [hassigned]), fun h => ?_, Or.inl rfl,
    fun h => ⟨rfl, ?_⟩, Or.inl ⟨rfl, rfl⟩⟩
  · rw [hstatus]
    rcases hcases with h | h | ⟨h, -⟩ <;> simp [h]
  · rw [hstatus] at h
    rcases hcases with h' | h' | ⟨h', -⟩ <;> simp [h'] at h
  · rw [hstatus] at h
    rcases hcases with h' | h' | ⟨-, hlt⟩
    · simp [h'] at h
    · simp [h'] at h
    · exact Or.inr (Or.inr hlt)

/-- What one write does to the tasks and objectives. -/
inductive Effect (governance : Governance ω σ) (coo coo' : GovernedAiCoo) : Prop where
  /-- Nothing. -/
  | kept (tasks : coo'.tasks = coo.tasks) (objectives : coo'.objectives = coo.objectives)
      (entityIds : coo'.entityIds = coo.entityIds)
  /-- A new plan is added. -/
  | planned (context : WorkspaceContext) (plan : ObjectivePlan)
      (new : NewPlan governance coo context plan) (added : coo' = coo.addPlan context.workspaceId plan)
  /-- One task is replaced. -/
  | changed (old new : CooTaskState) (found : old ∈ coo.tasks) (change : Change coo old new)
      (tasks : coo'.tasks = coo.tasks.put new) (objectives : coo'.objectives = coo.objectives)
      (entityIds : coo'.entityIds = coo.entityIds)

/-- **Every write** keeps the graph, adds a new plan or replaces one task. -/
theorem Write.effect {call : Call ω σ} {coo' : GovernedAiCoo}
    (h : Write governance call coo coo') : Effect governance coo coo' := by
  cases h with
  | record event => exact .kept rfl rfl rfl
  | card card => exact .kept rfl rfl rfl
  | plan checked => exact .planned _ _ (newPlan checked) rfl
  | refresh found waiting resolved =>
    exact .changed _ _ (Store.mem_of_get? found) (change_refresh found waiting resolved) rfl rfl rfl
  | assign unconsumed found checked agentId runtime =>
    exact .changed _ _ (Store.mem_of_get? found) (change_assign checked agentId runtime) rfl rfl rfl
  | charge checked =>
    obtain ⟨hfound, hassigned, hcost, hcompute, hexceeds⟩ := checkUsage_ok checked
    exact .changed _ _ (Store.mem_of_get? hfound) (change_charge hassigned hcost hcompute hexceeds)
      rfl rfl rfl
  | complete checked =>
    obtain ⟨hfound, hassigned⟩ := checkCompletable_ok checked
    exact .changed _ _ (Store.mem_of_get? hfound) (change_complete hassigned) rfl rfl rfl
  | fail checked =>
    obtain ⟨hfound, hassigned⟩ := checkFailure_ok checked
    exact .changed _ _ (Store.mem_of_get? hfound) (change_fail hassigned) rfl rfl rfl

end VentureOS.Coo
