import Mathlib.Algebra.Group.Prod
import VentureOS.Coo.Dependencies

/-! # Ceilings on attempts and spending

Attempts and usage of a task stay within the limits of its plan (`WithinCeilings`), and the limits of
the tasks of an objective add up to at most the objective's (`Reserved`), which `createPlan` checks
once and no later write disturbs. So the objective-level test of `recordUsage` is never the only one
that fails, and all sums stay exact. What a task has used is the sum of the amounts that the accepted
calls of `recordUsage` named (`used_eq_charged`), and no two assignments of a run consume the same
request (`assignments_consume_once`). -/

namespace VentureOS.Coo

open ControlPlane Program Relation

variable {ω σ : Type} {governance : Governance ω σ}

/-! ## Tasks -/

/-- Attempts and usage of a task are within its limits. -/
structure WithinCeilings (task : CooTaskState) : Prop where
  costLimit : WithinBounds task.costLimit.maximumMinorUnits maxSafeInteger
  computeLimit : WithinBounds task.costLimit.maximumComputeUnits maxSafeInteger
  attempts : 0 ≤ task.attempts ∧ task.attempts ≤ task.retryPolicy.maximumAttempts
  waiting : task.status = .BLOCKED ∨ task.status = .READY →
    task.attempts < task.retryPolicy.maximumAttempts
  cost : 0 ≤ task.costUsedMinorUnits ∧ task.costUsedMinorUnits ≤ task.costLimit.maximumMinorUnits
  compute : 0 ≤ task.computeUsed ∧ task.computeUsed ≤ task.costLimit.maximumComputeUnits

/-- Adding within a safe limit is exact. -/
theorem addDouble_of_le {a b limit : Int} (ha : 0 ≤ a) (hb : 0 ≤ b)
    (hlimit : WithinBounds limit maxSafeInteger) (h : a + b ≤ limit) : addDouble a b = a + b := by
  obtain ⟨-, -, hmax⟩ := hlimit
  unfold maxSafeInteger at hmax
  exact roundDouble_eq_self (by omega) (by omega)

/-- An accepted charge is added exactly. -/
theorem WithinCeilings.charged {task : CooTaskState} {costMinorUnits computeUnits : Int}
    (h : WithinCeilings task) (hcost : 0 ≤ costMinorUnits) (hcompute : 0 ≤ computeUnits)
    (hexceeds : ¬ ExceedsTask task costMinorUnits computeUnits) :
    addDouble task.costUsedMinorUnits costMinorUnits = task.costUsedMinorUnits + costMinorUnits
      ∧ addDouble task.computeUsed computeUnits = task.computeUsed + computeUnits := by
  simp only [ExceedsTask, not_or, not_lt] at hexceeds
  exact ⟨addDouble_of_le h.cost.1 hcost h.costLimit hexceeds.1,
    addDouble_of_le h.compute.1 hcompute h.computeLimit hexceeds.2⟩

variable {coo : GovernedAiCoo}

/-- Replacing a task keeps it within its ceilings. -/
theorem Change.withinCeilings {old new : CooTaskState}
    (change : Change coo old new) (h : WithinCeilings old) : WithinCeilings new := by
  have hattempts : 0 ≤ new.attempts ∧ new.attempts ≤ old.retryPolicy.maximumAttempts := by
    have hold := h.attempts
    rcases change.attempts with heq | ⟨hready, -, heq⟩
    · rw [heq]; exact hold
    · -- A ready task has an attempt left.
      have hleft := h.waiting (Or.inr hready)
      omega
  have hwaiting : new.status = .BLOCKED ∨ new.status = .READY →
      new.attempts < old.retryPolicy.maximumAttempts := by
    intro hnew
    obtain ⟨heq, hbefore⟩ := change.waiting hnew
    rw [heq]
    rcases hbefore with hb | hr | hlt
    · exact h.waiting (Or.inl hb)
    · exact h.waiting (Or.inr hr)
    · exact hlt
  have husage : (0 ≤ new.costUsedMinorUnits
        ∧ new.costUsedMinorUnits ≤ old.costLimit.maximumMinorUnits)
      ∧ 0 ≤ new.computeUsed ∧ new.computeUsed ≤ old.costLimit.maximumComputeUnits := by
    rcases change.usage with ⟨hc, hu⟩ | ⟨cost, compute, hcost, hcompute, hexceeds, hc, hu⟩
    · rw [hc, hu]; exact ⟨h.cost, h.compute⟩
    · obtain ⟨hexact, hexact'⟩ := h.charged hcost.2.1 hcompute.2.1 hexceeds
      simp only [ExceedsTask, not_or, not_lt] at hexceeds
      have h0 := h.cost.1
      have h0' := h.compute.1
      have hn := hcost.2.1
      have hn' := hcompute.2.1
      rw [hc, hu, hexact, hexact']
      omega
  exact ⟨by rw [change.same]; exact h.costLimit, by rw [change.same]; exact h.computeLimit,
    by rw [change.same]; exact hattempts, by rw [change.same]; exact hwaiting,
    by rw [change.same]; exact husage.1, by rw [change.same]; exact husage.2⟩

variable {objective : CooObjective}

/-- A new task is within its ceilings. -/
theorem ValidTask.withinCeilings {options : AiCooOptions}
    {task : CooTask} (h : ValidTask options objective task) : WithinCeilings (storedTask task) := by
  have hattempted := h.attempted
  refine ⟨h.costLimit, h.computeLimit, ⟨le_refl 0, ?_⟩, fun _ => ?_, ⟨le_refl 0, h.costLimit.2.1⟩,
    ⟨le_refl 0, h.computeLimit.2.1⟩⟩
  · show (0 : Int) ≤ task.retryPolicy.maximumAttempts
    omega
  · show (0 : Int) < task.retryPolicy.maximumAttempts
    omega

/-! ## Objectives -/

/-- The plan data of the tasks of an objective. -/
def objectivePlan (coo : GovernedAiCoo) (workspaceId objectiveId : EntityId) : List CooTask :=
  (coo.tasks.values.map CooTaskState.toCooTask).filter (fun task =>
    decide (task.workspaceId = workspaceId ∧ task.objectiveId = objectiveId))

theorem objectivePlan_eq (coo : GovernedAiCoo) (workspaceId objectiveId : EntityId) :
    objectivePlan coo workspaceId objectiveId
      = (objectiveTasks coo workspaceId objectiveId).map CooTaskState.toCooTask := by
  rw [objectivePlan, List.filter_map]
  rfl

/-- The reservations of an objective's tasks fit its limits. -/
structure Reserved (coo : GovernedAiCoo) (objective : CooObjective) : Prop where
  costLimit : WithinBounds objective.costLimit.maximumMinorUnits maxSafeInteger
  computeLimit : WithinBounds objective.costLimit.maximumComputeUnits maxSafeInteger
  cost : totalReserved (objectivePlan coo objective.workspaceId objective.id)
    CostLimit.maximumMinorUnits ≤ objective.costLimit.maximumMinorUnits
  compute : totalReserved (objectivePlan coo objective.workspaceId objective.id)
    CostLimit.maximumComputeUnits ≤ objective.costLimit.maximumComputeUnits

/-- The invariant on attempts and spending. -/
structure Budgeted (coo : GovernedAiCoo) : Prop where
  sound : Sound coo
  tasks : ∀ task ∈ coo.tasks, WithinCeilings task
  objectives : ∀ objective ∈ coo.objectives, Reserved coo objective

/-- What an added plan makes of the plan data of an objective. -/
theorem NewPlan.objectivePlan {coo : GovernedAiCoo} {context : WorkspaceContext}
    {plan : ObjectivePlan} (new : NewPlan governance coo context plan) (sound : Sound coo)
    (workspaceId objectiveId : EntityId) :
    objectivePlan (coo.addPlan context.workspaceId plan) workspaceId objectiveId
      = if workspaceId = context.workspaceId ∧ objectiveId = plan.objective.id then plan.tasks
        else objectivePlan coo workspaceId objectiveId := by
  have hvalues : (coo.addPlan context.workspaceId plan).tasks.values.map CooTaskState.toCooTask
      = coo.tasks.values.map CooTaskState.toCooTask ++ plan.tasks := by
    rw [GovernedAiCoo.addPlan, Store.values_foldl_put new.nodup_keys (new.fresh sound.registered),
      List.map_append, List.map_map]
    exact congrArg _ (List.map_id _)
  unfold Coo.objectivePlan
  rw [hvalues, List.filter_append]
  split
  next h =>
    obtain ⟨rfl, rfl⟩ := h
    -- The objective is new, so no older task belongs to it.
    have hold : (coo.tasks.values.map CooTaskState.toCooTask).filter (fun task => decide
        (task.workspaceId = context.workspaceId ∧ task.objectiveId = plan.objective.id)) = [] := by
      rw [List.filter_eq_nil_iff]
      intro task htask
      obtain ⟨stored, hstored, rfl⟩ := List.mem_map.mp htask
      rw [decide_eq_true_eq]
      rintro ⟨hw, ho⟩
      obtain ⟨objective, hget⟩ := sound.objective stored (Store.mem_values.mp hstored)
      rw [hw, ho, new.newObjective] at hget
      cases hget
    have hnew : plan.tasks.filter (fun task => decide
        (task.workspaceId = context.workspaceId ∧ task.objectiveId = plan.objective.id))
          = plan.tasks := by
      rw [List.filter_eq_self]
      intro task htask
      rw [decide_eq_true_eq]
      exact ⟨(new.valid.linkage task htask).1, (new.valid.linkage task htask).2.1⟩
    rw [hold, hnew, List.nil_append]
  next h =>
    have hnew : plan.tasks.filter (fun task => decide
        (task.workspaceId = workspaceId ∧ task.objectiveId = objectiveId)) = [] := by
      rw [List.filter_eq_nil_iff]
      intro task htask
      rw [decide_eq_true_eq]
      rintro ⟨hw, ho⟩
      refine h ⟨?_, ?_⟩
      · rw [← hw, (new.valid.linkage task htask).1]
      · rw [← ho, (new.valid.linkage task htask).2.1]
    rw [hnew, List.append_nil]

variable {coo' : GovernedAiCoo}

/-- A write keeps the ceilings. -/
theorem Effect.budgeted (hb : Budgeted coo) (h : Effect governance coo coo') : Budgeted coo' := by
  have hsound := h.sound hb.sound
  cases h with
  | kept tasks objectives entityIds =>
    refine ⟨hsound, by rw [tasks]; exact hb.tasks, fun objective hobjective => ?_⟩
    rw [objectives] at hobjective
    obtain ⟨hcl, hul, hc, hu⟩ := hb.objectives objective hobjective
    have hplan : ∀ w o, objectivePlan coo' w o = objectivePlan coo w o := by
      intro w o
      rw [objectivePlan, tasks]
      rfl
    exact ⟨hcl, hul, by rw [hplan]; exact hc, by rw [hplan]; exact hu⟩
  | planned context plan new added =>
    subst added
    refine ⟨hsound, fun task htask => ?_, fun objective hobjective => ?_⟩
    · rcases (new.mem_tasks hb.sound.registered).mp htask with hold | ⟨t, ht, rfl⟩
      · exact hb.tasks task hold
      · exact (new.valid.valid t ht).withinCeilings
    · have hplan := new.objectivePlan hb.sound objective.workspaceId objective.id
      rcases Store.mem_put.mp hobjective with rfl | ⟨hold, hne⟩
      · rw [if_pos ⟨new.valid.workspace, rfl⟩] at hplan
        exact ⟨new.valid.costLimit, new.valid.computeLimit, by rw [hplan]; exact new.valid.reservedCost,
          by rw [hplan]; exact new.valid.reservedCompute⟩
      · have hother : ¬ (objective.workspaceId = context.workspaceId
            ∧ objective.id = plan.objective.id) := by
          rintro ⟨hw, ho⟩
          refine hne ?_
          rw [keyOf_objective, keyOf_objective, hw, ho, new.valid.workspace]
        rw [if_neg hother] at hplan
        obtain ⟨hcl, hul, hc, hu⟩ := hb.objectives objective hold
        exact ⟨hcl, hul, by rw [hplan]; exact hc, by rw [hplan]; exact hu⟩
  | changed old new found change tasks objectives entityIds =>
    refine ⟨hsound, fun task htask => ?_, fun objective hobjective => ?_⟩
    · rw [tasks] at htask
      rcases Store.mem_put.mp htask with rfl | ⟨hold, -⟩
      · exact change.withinCeilings (hb.tasks old found)
      · exact hb.tasks task hold
    · rw [objectives] at hobjective
      have hkey : keyOf (K := Key) new = keyOf old := change.keyOf_eq
      have hgraph : coo'.tasks.values.map CooTaskState.toCooTask
          = coo.tasks.values.map CooTaskState.toCooTask := by
        rw [tasks]
        exact Store.map_values_put (hkey ▸ found) change.same
      have hplan : ∀ w o, objectivePlan coo' w o = objectivePlan coo w o := by
        intro w o
        rw [objectivePlan, hgraph]
        rfl
      obtain ⟨hcl, hul, hc, hu⟩ := hb.objectives objective hobjective
      exact ⟨hcl, hul, by rw [hplan]; exact hc, by rw [hplan]; exact hu⟩

variable (governance) in
/-- **Attempts and spending are within their ceilings** in every reachable state. -/
theorem reach_budgeted (outside : ω) (sink : σ) (calls : List (Call ω σ)) :
    Budgeted (reach governance outside sink calls).coo :=
  reach_invariant governance
    ⟨sound_empty, fun task h => absurd h (Store.not_mem_empty task),
      fun objective h => absurd h (Store.not_mem_empty objective)⟩
    (fun _ _ _ hwrite hb => hwrite.effect.budgeted hb) outside sink calls

/-! ## Sums -/

/-- The limits of an objective's tasks add up to what is reserved. -/
theorem totalOf_limit (coo : GovernedAiCoo) (workspaceId objectiveId : EntityId)
    (amount : CostLimit → Int) :
    totalOf (objectiveTasks coo workspaceId objectiveId) (fun task => amount task.costLimit)
      = totalReserved (objectivePlan coo workspaceId objectiveId) amount := by
  rw [objectivePlan_eq, totalReserved, List.foldl_map]
  rfl

/-- The tasks of an objective are within their ceilings. -/
theorem Budgeted.objectiveTasks {coo : GovernedAiCoo} (hb : Budgeted coo)
    {workspaceId objectiveId : EntityId} :
    ∀ task ∈ objectiveTasks coo workspaceId objectiveId, WithinCeilings task := by
  intro task htask
  simp only [Coo.objectiveTasks, List.mem_filter, Store.mem_values] at htask
  exact hb.tasks task htask.1

/-- **Spending of an objective.** What its tasks have used is within its limits. -/
theorem Budgeted.totals (hb : Budgeted coo) (hobjective : objective ∈ coo.objectives) :
    totalOf (Coo.objectiveTasks coo objective.workspaceId objective.id)
        CooTaskState.costUsedMinorUnits ≤ objective.costLimit.maximumMinorUnits
      ∧ totalOf (Coo.objectiveTasks coo objective.workspaceId objective.id)
        CooTaskState.computeUsed ≤ objective.costLimit.maximumComputeUnits := by
  have hreserved := hb.objectives objective hobjective
  constructor
  · have hsum := foldl_add_le fun task
      (htask : task ∈ Coo.objectiveTasks coo objective.workspaceId objective.id) =>
        (hb.objectiveTasks task htask).cost.2
    exact (hsum.trans (totalOf_limit coo _ _ CostLimit.maximumMinorUnits).le).trans hreserved.cost
  · have hsum := foldl_add_le fun task
      (htask : task ∈ Coo.objectiveTasks coo objective.workspaceId objective.id) =>
        (hb.objectiveTasks task htask).compute.2
    exact (hsum.trans (totalOf_limit coo _ _ CostLimit.maximumComputeUnits).le).trans
      hreserved.compute

/-- **The objective-level test is never alone.** Where usage exceeds the objective, it exceeds the
task. -/
theorem Budgeted.exceedsTask (hb : Budgeted coo) {task : CooTaskState}
    (htask : task ∈ coo.tasks)
    (hobjective : coo.objectives.get? (key task.workspaceId task.objectiveId) = some objective)
    {costMinorUnits computeUnits : Int}
    (h : ExceedsObjective coo task.workspaceId objective costMinorUnits computeUnits) :
    ExceedsTask task costMinorUnits computeUnits := by
  have hreserved := hb.objectives objective (Store.mem_of_get? hobjective)
  have hkey : key objective.workspaceId objective.id = key task.workspaceId task.objectiveId :=
    Store.keyOf_of_get? hobjective
  obtain ⟨hw, ho⟩ := key_inj.mp hkey
  have hmem : task ∈ Coo.objectiveTasks coo task.workspaceId objective.id := by
    simp only [Coo.objectiveTasks, List.mem_filter, Store.mem_values, decide_eq_true_eq]
    exact ⟨htask, trivial, ho.symm⟩
  have hcost := hreserved.cost
  have hcompute := hreserved.compute
  rw [hw] at hcost hcompute
  by_contra hwithin
  simp only [ExceedsTask, not_or, not_lt] at hwithin
  simp only [ExceedsObjective] at h
  -- What fits the task fits the reservations of the objective's tasks, and so the objective.
  rcases h with h | h
  · have hsum := foldl_add_extra_le (fun t ht => (hb.objectiveTasks t ht).cost.2) hmem hwithin.1
    have hlimit := totalOf_limit coo task.workspaceId objective.id CostLimit.maximumMinorUnits
    simp only [totalOf] at hlimit h
    omega
  · have hsum := foldl_add_extra_le (fun t ht => (hb.objectiveTasks t ht).compute.2) hmem hwithin.2
    have hlimit := totalOf_limit coo task.workspaceId objective.id CostLimit.maximumComputeUnits
    simp only [totalOf] at hlimit h
    omega

/-! ## The ledger -/

/-- What the task with a key has used: cost and compute. -/
def usedBy (coo : GovernedAiCoo) (k : Key) : Int × Int :=
  match coo.tasks.get? k with
  | some task => (task.costUsedMinorUnits, task.computeUsed)
  | none => (0, 0)

/-- What a step charges to the task with a key: the amounts of an accepted `recordUsage`. -/
def chargedBy (governance : Governance ω σ) (k : Key) (e : Step ω σ) : Int × Int :=
  match e.label with
  | .recordUsage context taskId costMinorUnits computeUnits =>
    match checkUsage governance e.before.coo context taskId costMinorUnits computeUnits with
    | .ok _ =>
      if key context.workspaceId taskId = k then (costMinorUnits, computeUnits) else (0, 0)
    | .error _ => (0, 0)
  | _ => (0, 0)

/-- Replacing a task by one that has used as much. -/
theorem Change.usedBy {coo coo' : GovernedAiCoo} {old new : CooTaskState}
    (change : Change coo old new) (found : old ∈ coo.tasks)
    (tasks : coo'.tasks = coo.tasks.put new) (k : Key)
    (hused : new.costUsedMinorUnits = old.costUsedMinorUnits ∧ new.computeUsed = old.computeUsed) :
    usedBy coo' k = usedBy coo k := by
  have hkey : keyOf (K := Key) new = keyOf old := change.keyOf_eq
  unfold Coo.usedBy
  rw [tasks, Store.get?_put]
  by_cases hk : k = keyOf new
  · rw [if_pos hk, hk, hkey, show coo.tasks.get? (keyOf old) = some old from found]
    simp only [hused.1, hused.2]
  · rw [if_neg hk]

/-- No write but a charge changes what a task has used. -/
theorem Write.usedBy {call : Call ω σ} {coo coo' : GovernedAiCoo}
    (h : Write governance call coo coo')
    (hcall : ∀ context taskId cost compute, call ≠ .recordUsage context taskId cost compute)
    (sound : Sound coo) (k : Key) : usedBy coo' k = usedBy coo k := by
  cases h with
  | record event => rfl
  | card card => rfl
  | @plan _ context plan checked =>
    have new := newPlan checked
    unfold Coo.usedBy
    by_cases hk : k ∈ (plan.tasks.map storedTask).map (keyOf (K := Key))
    · -- A new task has used nothing, like no task at all.
      obtain ⟨stored, hstored, rfl⟩ := List.mem_map.mp hk
      have hget : (coo.addPlan context.workspaceId plan).tasks.get? (keyOf stored) = some stored :=
        Store.get?_foldl_put_of_mem new.nodup_keys hstored
      rw [hget, new.fresh sound.registered stored hstored]
      obtain ⟨task, -, rfl⟩ := List.mem_map.mp hstored
      rfl
    · have hget : (coo.addPlan context.workspaceId plan).tasks.get? k = coo.tasks.get? k :=
        Store.get?_foldl_put_of_not_mem hk
      rw [hget]
  | refresh found waiting resolved =>
    exact (change_refresh found waiting resolved).usedBy (Store.mem_of_get? found) rfl k
      ⟨rfl, rfl⟩
  | assign unconsumed found checked agentId runtime =>
    exact (change_assign checked agentId runtime).usedBy (Store.mem_of_get? found) rfl k
      ⟨rfl, rfl⟩
  | charge checked => exact absurd rfl (hcall _ _ _ _)
  | complete checked =>
    obtain ⟨hget, hassigned⟩ := checkCompletable_ok checked
    exact (change_complete hassigned).usedBy (Store.mem_of_get? hget) rfl k ⟨rfl, rfl⟩
  | fail checked =>
    obtain ⟨hget, hassigned⟩ := checkFailure_ok checked
    exact (change_fail hassigned).usedBy (Store.mem_of_get? hget) rfl k ⟨rfl, rfl⟩

/-- **Recording usage** charges exactly the amounts it was given, if it is accepted. -/
theorem recordUsage_usedBy (context : WorkspaceContext) (taskId : EntityId)
    (costMinorUnits computeUnits : Int) {w : World ω σ} (hb : Budgeted w.coo) (k : Key) :
    Ensures (recordUsage governance context taskId costMinorUnits computeUnits) w (fun _ w' =>
      usedBy w'.coo k = usedBy w.coo k +
        match checkUsage governance w.coo context taskId costMinorUnits computeUnits with
        | .ok _ =>
          if key context.workspaceId taskId = k then (costMinorUnits, computeUnits) else (0, 0)
        | .error _ => (0, 0)) := by
  unfold recordUsage
  rw [ensures_readCoo_bind, ensures_lift_bind]
  refine ⟨fun e he => ?_, fun task hchecked => ?_⟩
  · rw [he]
    exact (add_zero (usedBy w.coo k)).symm
  · rw [hchecked, ensures_writeCoo_bind]
    obtain ⟨hget, -, hcost, hcompute, hexceeds⟩ := checkUsage_ok hchecked
    obtain ⟨hexact, hexact'⟩ := (hb.tasks task (Store.mem_of_get? hget)).charged hcost.2.1
      hcompute.2.1 hexceeds
    have hcharged : usedBy (w.coo.putTask (chargedTask task costMinorUnits computeUnits)) k
        = usedBy w.coo k + if key context.workspaceId taskId = k then
            (costMinorUnits, computeUnits) else (0, 0) := by
      have hkey : key task.workspaceId task.id = key context.workspaceId taskId :=
        Store.keyOf_of_get? hget
      have hput : (w.coo.putTask (chargedTask task costMinorUnits computeUnits)).tasks.get? k
          = if k = key context.workspaceId taskId then
              some (chargedTask task costMinorUnits computeUnits)
            else w.coo.tasks.get? k := by
        rw [← hkey]
        exact Store.get?_put _ _ _
      unfold usedBy
      rw [hput]
      by_cases hk : key context.workspaceId taskId = k
      · rw [if_pos hk, if_pos hk.symm, ← hk, hget]
        simp only [chargedTask, hexact, hexact', Prod.mk_add_mk]
      · rw [if_neg hk, if_neg (fun h => hk h.symm)]
        exact (add_zero (usedBy w.coo k)).symm
    refine (emit_spec governance context _ _).mono fun r w' hw => ?_
    obtain ⟨-, hr⟩ := hw
    cases r with
    | error e => rw [hr.2]; exact hcharged
    | ok u =>
      obtain ⟨-, id, occurredAt, hcoo⟩ := hr
      rw [hcoo]
      exact hcharged

/-- A step charges a task what it says. -/
theorem perform_usedBy (call : Call ω σ) {w : World ω σ} (hb : Budgeted w.coo) (k : Key) :
    usedBy (perform governance call w).2.coo k
      = usedBy w.coo k + chargedBy governance k (entryAt (perform governance) w call) := by
  by_cases hcall : ∃ context taskId cost compute, call = .recordUsage context taskId cost compute
  · obtain ⟨context, taskId, cost, compute, rfl⟩ := hcall
    have hspec : Ensures (answer governance (.recordUsage context taskId cost compute)) w
        (fun _ w' => usedBy w'.coo k = usedBy w.coo k + chargedBy governance k
          (entryAt (perform governance) w (.recordUsage context taskId cost compute))) := by
      show Ensures (recordUsage governance context taskId cost compute >>= _) w _
      rw [ensures_bind]
      refine (recordUsage_usedBy context taskId cost compute hb k).mono fun r w' hw => ?_
      cases r with
      | error e => exact hw
      | ok u => exact hw
    exact hspec
  · simp only [not_exists] at hcall
    have hnone : chargedBy governance k (entryAt (perform governance) w call) = (0, 0) := by
      unfold chargedBy entryAt
      cases call with
      | recordUsage context taskId cost compute =>
        exact absurd rfl (hcall context taskId cost compute)
      | _ => rfl
    rw [hnone]
    have hsame := Writes.preserves governance
      (I := fun c => Sound c ∧ usedBy c k = usedBy w.coo k)
      (fun c c' hwrite hc => ⟨hwrite.effect.sound hc.1, (hwrite.usedBy hcall hc.1 k).trans hc.2⟩)
      (perform_moves governance call w).writes ⟨hb.sound, rfl⟩
    rw [hsame.2]
    exact (add_zero (usedBy w.coo k)).symm

/-- The amounts charged to a task along a history. -/
def chargedAlong (governance : Governance ω σ) (k : Key) (steps : List (Step ω σ)) : Int × Int :=
  steps.foldl (fun total e => total + chargedBy governance k e) (0, 0)

variable (governance)

/-- **The ledger.** What a task has used is the exact sum of what the accepted calls of `recordUsage`
charged to it. -/
theorem used_eq_charged (outside : ω) (sink : σ) (calls : List (Call ω σ)) (k : Key) :
    usedBy (reach governance outside sink calls).coo k
      = chargedAlong governance k (trace governance outside sink calls) := by
  induction calls using List.reverseRecOn with
  | nil => rfl
  | append_singleton calls call ih =>
    have hstep : usedBy (perform governance call _).2.coo k = _ :=
      perform_usedBy call (reach_budgeted governance outside sink calls) k
    unfold trace chargedAlong
    rw [history_concat, List.foldl_append]
    unfold reach at hstep ⊢
    rw [run_concat, hstep]
    exact congrArg (· + _) ih

/-! ## Requests -/

variable {governance}

/-- The step assigns a task under the request key `k`: it counts an attempt of some task. -/
def Assigns (e : Step ω σ) (k : Key) : Prop :=
  ∃ context request, e.label = .requestAssignment context request
    ∧ key context.workspaceId request.factoryRequest.id = k
    ∧ ∃ taskKey before after, e.before.coo.tasks.get? taskKey = some before
      ∧ e.after.coo.tasks.get? taskKey = some after ∧ before.attempts < after.attempts

/-- No write gives a consumed request back. -/
theorem Write.consumed {call : Call ω σ} (h : Write governance call coo coo') :
    coo.consumedAssignmentRequests ⊆ coo'.consumedAssignmentRequests := by
  cases h with
  | assign unconsumed found checked agentId runtime => exact Finset.subset_insert _ _
  | _ => exact Finset.Subset.refl _

/-- The writes of `requestAssignment` count no attempt, or consume the request, which was free. -/
theorem Writes.assigns {context : WorkspaceContext} {request : AssignmentRequest}
    (h : Writes governance (.requestAssignment context request) coo coo') :
    coo.consumedAssignmentRequests ⊆ coo'.consumedAssignmentRequests
      ∧ ((∀ k before, coo.tasks.get? k = some before →
          ∃ after, coo'.tasks.get? k = some after ∧ after.attempts = before.attempts)
        ∨ (key context.workspaceId request.factoryRequest.id ∉ coo.consumedAssignmentRequests
          ∧ key context.workspaceId request.factoryRequest.id ∈ coo'.consumedAssignmentRequests)) := by
  induction h with
  | refl => exact ⟨Finset.Subset.refl _, Or.inl fun k before hget => ⟨before, hget, rfl⟩⟩
  | tail _ hwrite ih =>
    obtain ⟨hsubset, ih⟩ := ih
    refine ⟨hsubset.trans hwrite.consumed, ?_⟩
    rcases ih with hsame | ⟨hfree, hconsumed⟩
    · cases hwrite with
      | record event => exact Or.inl hsame
      | card card => exact Or.inl hsame
      | refresh found waiting resolved =>
        refine Or.inl fun k before hget => ?_
        obtain ⟨mid, hmid, hattempts⟩ := hsame k before hget
        obtain ⟨after, hafter, heq⟩ := Store.exists_get?_put
          (R := fun t t' : CooTaskState => t'.attempts = t.attempts) (fun _ => rfl)
          (Store.mem_of_get? found)
          (change_refresh found waiting resolved).keyOf_eq rfl hmid
        exact ⟨after, hafter, heq.trans hattempts⟩
      | assign unconsumed found checked agentId runtime =>
        exact Or.inr ⟨fun h => unconsumed (hsubset h), Finset.mem_insert_self _ _⟩
    · exact Or.inr ⟨hfree, hwrite.consumed hconsumed⟩

/-- A step that assigns a task consumes its request, which was free. -/
theorem Assigns.consumes {w : World ω σ} {call : Call ω σ} {k : Key}
    (h : Assigns (entryAt (perform governance) w call) k) :
    k ∉ w.coo.consumedAssignmentRequests
      ∧ k ∈ (perform governance call w).2.coo.consumedAssignmentRequests := by
  obtain ⟨context, request, hlabel, rfl, taskKey, before, after, hbefore, hafter, hlt⟩ := h
  have hcall : call = .requestAssignment context request := hlabel
  subst hcall
  obtain ⟨-, hsame | hconsumes⟩ := (perform_moves governance _ w).writes.assigns
  · obtain ⟨after', hafter', heq⟩ := hsame taskKey before hbefore
    have hafter'' : (perform governance (.requestAssignment context request) w).2.coo.tasks.get?
        taskKey = some after := hafter
    rw [hafter', Option.some.injEq] at hafter''
    subst hafter''
    exact absurd heq hlt.ne'
  · exact hconsumes

variable (governance)

/-- **Requests are consumed once.** No two steps of a run assign a task under the same request. -/
theorem assignments_consume_once (outside : ω) (sink : σ) (calls : List (Call ω σ)) :
    (trace governance outside sink calls).Pairwise
      (fun earlier later => ∀ k, Assigns earlier k → ¬ Assigns later k) := by
  suffices h : (∀ e ∈ trace governance outside sink calls, ∀ k, Assigns e k →
      k ∈ (reach governance outside sink calls).coo.consumedAssignmentRequests)
      ∧ (trace governance outside sink calls).Pairwise
        (fun earlier later => ∀ k, Assigns earlier k → ¬ Assigns later k) from h.2
  refine history_induction (P := fun steps (w : World ω σ) =>
    (∀ e ∈ steps, ∀ k, Assigns e k → k ∈ w.coo.consumedAssignmentRequests)
      ∧ steps.Pairwise (fun earlier later => ∀ k, Assigns earlier k → ¬ Assigns later k))
    (perform governance) ⟨by simp, List.Pairwise.nil⟩ (fun pre call hP => ?_) calls
  obtain ⟨hconsumed, hpairwise⟩ := hP
  refine ⟨fun e he k hk => ?_, ?_⟩
  · rcases List.mem_append.mp he with he | he
    · exact Writes.preserves governance
        (I := fun coo => k ∈ coo.consumedAssignmentRequests)
        (fun _ _ hwrite hmem => hwrite.consumed hmem) (perform_moves governance call _).writes
        (hconsumed e he k hk)
    · rw [List.mem_singleton] at he
      subst he
      exact hk.consumes.2
  · rw [List.pairwise_append]
    refine ⟨hpairwise, List.pairwise_singleton _ _, fun earlier hearlier later hlater k hk hk' => ?_⟩
    rw [List.mem_singleton] at hlater
    subst hlater
    exact hk'.consumes.1 (hconsumed earlier hearlier k hk)

/-! ## The ceilings of a run -/

/-- **Retry and spend ceilings of the AI COO.** In every reachable state a task has made at most its
maximum of attempts, and less if it is waiting; it has used at most its limits, and exactly what was
charged to it; the tasks of an objective together have used at most its limits; the objective-level
test of `recordUsage` fails only where a task-level one does; and along every run each factory request
is consumed by at most one assignment in its workspace. -/
theorem ceilings_hold (outside : ω) (sink : σ) (calls : List (Call ω σ)) :
    (∀ task ∈ (reach governance outside sink calls).coo.tasks,
      task.attempts ≤ task.retryPolicy.maximumAttempts
      ∧ (task.status = .READY ∨ task.status = .BLOCKED → task.attempts < task.retryPolicy.maximumAttempts)
      ∧ task.costUsedMinorUnits ≤ task.costLimit.maximumMinorUnits
      ∧ task.computeUsed ≤ task.costLimit.maximumComputeUnits
      ∧ (task.costUsedMinorUnits, task.computeUsed)
        = chargedAlong governance (key task.workspaceId task.id)
          (trace governance outside sink calls))
    ∧ (∀ objective ∈ (reach governance outside sink calls).coo.objectives,
      totalOf (objectiveTasks (reach governance outside sink calls).coo objective.workspaceId
          objective.id) CooTaskState.costUsedMinorUnits ≤ objective.costLimit.maximumMinorUnits
      ∧ totalOf (objectiveTasks (reach governance outside sink calls).coo objective.workspaceId
          objective.id) CooTaskState.computeUsed ≤ objective.costLimit.maximumComputeUnits
      ∧ WithinBounds objective.costLimit.maximumMinorUnits maxSafeInteger
      ∧ WithinBounds objective.costLimit.maximumComputeUnits maxSafeInteger)
    ∧ (∀ task ∈ (reach governance outside sink calls).coo.tasks, ∀ objective,
      (reach governance outside sink calls).coo.objectives.get?
        (key task.workspaceId task.objectiveId) = some objective →
      ∀ costMinorUnits computeUnits,
        ExceedsObjective (reach governance outside sink calls).coo task.workspaceId objective
          costMinorUnits computeUnits → ExceedsTask task costMinorUnits computeUnits)
    ∧ (trace governance outside sink calls).Pairwise
      (fun earlier later => ∀ k, Assigns earlier k → ¬ Assigns later k) := by
  have hb := reach_budgeted governance outside sink calls
  refine ⟨fun task htask => ?_, fun objective hobjective => ?_,
    fun task htask objective hobjective cost compute h => hb.exceedsTask htask hobjective h,
    assignments_consume_once governance outside sink calls⟩
  · have hwithin := hb.tasks task htask
    have hledger := used_eq_charged governance outside sink calls (key task.workspaceId task.id)
    unfold usedBy at hledger
    rw [show (reach governance outside sink calls).coo.tasks.get? (key task.workspaceId task.id)
      = some task from htask] at hledger
    exact ⟨hwithin.attempts.2, fun h => hwithin.waiting h.symm, hwithin.cost.2, hwithin.compute.2, hledger⟩
  · obtain ⟨hcost, hcompute⟩ := hb.totals hobjective
    have hreserved := hb.objectives objective hobjective
    exact ⟨hcost, hcompute, hreserved.costLimit, hreserved.computeLimit⟩

end VentureOS.Coo
