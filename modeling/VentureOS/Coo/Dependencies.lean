import VentureOS.Coo.Graph

/-! # Dependencies of the governed task graph

`Sound` is the invariant on the shape of the graph and on how tasks stand in it; `Later` says how one
state of the graph extends an earlier one. Both hold along every run, with calls that threw
included. From them follows that a task that was ever ready has all its transitive dependencies
completed, and that nothing that depends on a failed, stopped or level-4 task is ever assigned. Where
no emission was ever refused, every blocked task waits for a dependency (`Awake`): completing a task
refreshes all tasks of its objective, and a task depends on tasks of its objective only. -/

namespace VentureOS.Coo

open ControlPlane Program Relation

variable {ω σ : Type} {governance : Governance ω σ}

/-! ## Soundness of the graph -/

/-- The task was ready at some time. -/
def Started (status : CooTaskStatus) : Prop := status ≠ .BLOCKED ∧ status ≠ .AWAITING_APPROVAL

/-- The invariant of the task graph. -/
structure Sound (coo : GovernedAiCoo) : Prop where
  /-- Stored records have claimed their identifiers. -/
  registered : ∀ task ∈ coo.tasks, key task.workspaceId task.id ∈ coo.entityIds
  /-- The objective of a task is stored. -/
  objective : ∀ task ∈ coo.tasks, ∃ objective,
    coo.objectives.get? (key task.workspaceId task.objectiveId) = some objective
  /-- A dependency is a stored task of the same objective. -/
  dependencies : ∀ task ∈ coo.tasks, ∀ d ∈ task.dependencyIds, ∃ dependency,
    coo.tasks.get? (key task.workspaceId d) = some dependency
      ∧ dependency.objectiveId = task.objectiveId
  /-- Exactly the level-4 tasks await approval. -/
  level4 : ∀ task ∈ coo.tasks, task.requiredAuthority.val = 4 ↔ task.status = .AWAITING_APPROVAL
  /-- A task that was ever ready has completed dependencies. -/
  started : ∀ task ∈ coo.tasks, Started task.status → DependenciesCompleted coo task.toCooTask

variable {coo : GovernedAiCoo}

/-- Keeping an event leaves the graph alone. -/
theorem Sound.record (sound : Sound coo) (event : CooEvent) : Sound (coo.record event) :=
  ⟨sound.registered, sound.objective, sound.dependencies, sound.level4, sound.started⟩

/-- A status no write leaves. -/
def Settled (status : CooTaskStatus) : Prop :=
  status = .COMPLETED ∨ status = .FAILED ∨ status = .STOPPED ∨ status = .AWAITING_APPROVAL

/-- What becomes of a stored task: its plan data stays, and so does a settled status. -/
def Later (coo coo' : GovernedAiCoo) : Prop :=
  ∀ k task, coo.tasks.get? k = some task → ∃ task', coo'.tasks.get? k = some task'
    ∧ task'.toCooTask = task.toCooTask ∧ (Settled task.status → task'.status = task.status)

theorem Later.refl (coo : GovernedAiCoo) : Later coo coo :=
  fun _ task h => ⟨task, h, rfl, fun _ => rfl⟩

variable {coo' : GovernedAiCoo}

theorem Later.trans {coo'' : GovernedAiCoo} (h : Later coo coo') (h' : Later coo' coo'') :
    Later coo coo'' := by
  intro k task htask
  obtain ⟨task', htask', hsame, hsettled⟩ := h k task htask
  obtain ⟨task'', htask'', hsame', hsettled'⟩ := h' k task' htask'
  refine ⟨task'', htask'', hsame'.trans hsame, fun hs => ?_⟩
  have hstatus := hsettled hs
  rw [hsettled' (hstatus ▸ hs), hstatus]

/-- Completed dependencies stay completed. -/
theorem DependenciesCompleted.later {task : CooTask}
    (h : DependenciesCompleted coo task) (hlater : Later coo coo') :
    DependenciesCompleted coo' task := by
  intro d hd
  obtain ⟨dependency, hget, hstatus⟩ := h d hd
  obtain ⟨dependency', hget', -, hsettled⟩ := hlater _ _ hget
  refine ⟨dependency', hget', ?_⟩
  rw [hsettled (Or.inl hstatus), hstatus]

/-! ## Added plans -/

section AddedPlan

variable {context : WorkspaceContext} {plan : ObjectivePlan}

/-- The tasks of a new plan have keys of their own. -/
theorem NewPlan.nodup_keys (new : NewPlan governance coo context plan) :
    ((plan.tasks.map storedTask).map (keyOf (K := Key))).Nodup := by
  have hkeys : (plan.tasks.map storedTask).map (keyOf (K := Key))
      = (plan.tasks.map CooTask.id).map (key context.workspaceId) := by
    rw [List.map_map, List.map_map]
    refine List.map_congr_left fun task htask => ?_
    show key task.workspaceId task.id = key context.workspaceId task.id
    rw [(new.valid.linkage task htask).1]
  rw [hkeys]
  exact new.valid.taskIds.map fun a b h => (key_inj.mp h).2

/-- The keys of a new plan's tasks are free. -/
theorem NewPlan.fresh (new : NewPlan governance coo context plan)
    (hregistered : ∀ task ∈ coo.tasks, key task.workspaceId task.id ∈ coo.entityIds) :
    ∀ task ∈ plan.tasks.map storedTask, coo.tasks.get? (keyOf task) = none := by
  intro stored hstored
  obtain ⟨task, htask, rfl⟩ := List.mem_map.mp hstored
  have hid : task.id ∈ planEntityIds plan := by
    simp only [planEntityIds, List.mem_cons, List.mem_append]
    exact Or.inr (Or.inr (List.mem_map_of_mem htask))
  have hworkspace := (new.valid.linkage task htask).1
  cases hget : coo.tasks.get? (keyOf (storedTask task)) with
  | none => rfl
  | some old =>
    have hkey : key old.workspaceId old.id = key task.workspaceId task.id :=
      Store.keyOf_of_get? hget
    have hmem := hregistered old (Store.mem_of_get? hget)
    rw [hkey, hworkspace] at hmem
    exact absurd hmem (new.newIds _ hid)

/-- The tasks stored once a plan is added. -/
theorem NewPlan.mem_tasks (new : NewPlan governance coo context plan)
    (hregistered : ∀ task ∈ coo.tasks, key task.workspaceId task.id ∈ coo.entityIds)
    {task : CooTaskState} :
    task ∈ (coo.addPlan context.workspaceId plan).tasks
      ↔ task ∈ coo.tasks ∨ ∃ t ∈ plan.tasks, task = storedTask t := by
  rw [GovernedAiCoo.addPlan, Store.mem_foldl_put new.nodup_keys (new.fresh hregistered), List.mem_map]
  simp only [eq_comm]

end AddedPlan

/-! ## Every write keeps the graph sound -/

/-- A write extends the graph. -/
theorem Effect.later (sound : Sound coo) (h : Effect governance coo coo') : Later coo coo' := by
  cases h with
  | kept tasks objectives entityIds =>
    intro k task htask
    exact ⟨task, tasks ▸ htask, rfl, fun _ => rfl⟩
  | planned context plan new added =>
    intro k task htask
    refine ⟨task, ?_, rfl, fun _ => rfl⟩
    rw [added]
    exact Store.get?_foldl_put_of_fresh (new.fresh sound.registered) htask
  | changed old new found change tasks objectives entityIds =>
    intro k task htask
    have hkey : keyOf (K := Key) new = keyOf old := change.keyOf_eq
    rw [tasks]
    refine Store.exists_get?_put (R := fun t t' : CooTaskState =>
      t'.toCooTask = t.toCooTask ∧ (Settled t.status → t'.status = t.status))
      (fun _ => ⟨rfl, fun _ => rfl⟩) found hkey ⟨change.same, fun hsettled => ?_⟩ htask
    -- A settled task is not one that a write replaces.
    have hmoving := change.moving
    unfold Settled at hsettled
    rcases hsettled with h | h | h | h <;> simp [h] at hmoving

/-- Adding a new plan keeps the graph sound. -/
theorem NewPlan.sound {coo : GovernedAiCoo} {context : WorkspaceContext} {plan : ObjectivePlan}
    (new : NewPlan governance coo context plan) (sound : Sound coo) :
    Sound (coo.addPlan context.workspaceId plan) := by
  have hlater : Later coo (coo.addPlan context.workspaceId plan) :=
    (.planned context plan new rfl : Effect governance _ _).later sound
  have hobjective : (coo.addPlan context.workspaceId plan).objectives.get?
      (key context.workspaceId plan.objective.id) = some plan.objective := by
    rw [GovernedAiCoo.addPlan, Store.get?_put, if_pos]
    rw [keyOf_objective, new.valid.workspace]
  have hnew : ∀ t ∈ plan.tasks, (coo.addPlan context.workspaceId plan).tasks.get?
      (key context.workspaceId t.id) = some (storedTask t) := by
    intro t ht
    have hkey : key context.workspaceId t.id = keyOf (storedTask t) := by
      show _ = key t.workspaceId t.id
      rw [(new.valid.linkage t ht).1]
    rw [hkey]
    exact Store.get?_foldl_put_of_mem new.nodup_keys (List.mem_map_of_mem ht)
  -- Each part holds of the old tasks as before, and of the new ones by the checks on the plan.
  refine ⟨fun task htask => ?_, fun task htask => ?_, fun task htask d hd => ?_,
    fun task htask => ?_, fun task htask hs => ?_⟩ <;>
    rcases (new.mem_tasks sound.registered).mp htask with hold | ⟨t, ht, rfl⟩
  · exact Finset.mem_union_left _ (sound.registered task hold)
  · refine Finset.mem_union_right _ (List.mem_toFinset.mpr (List.mem_map.mpr ⟨t.id, ?_, ?_⟩))
    · simp only [planEntityIds, List.mem_cons, List.mem_append]
      exact Or.inr (Or.inr (List.mem_map_of_mem ht))
    · rw [(new.valid.linkage t ht).1.symm]
      rfl
  · obtain ⟨objective, hget⟩ := sound.objective task hold
    refine ⟨objective, Store.get?_put_of_fresh ?_ hget⟩
    rw [keyOf_objective, new.valid.workspace]
    exact new.newObjective
  · refine ⟨plan.objective, ?_⟩
    show (coo.addPlan context.workspaceId plan).objectives.get?
      (key t.workspaceId t.objectiveId) = _
    rw [(new.valid.linkage t ht).1, (new.valid.linkage t ht).2.1]
    exact hobjective
  · obtain ⟨dependency, hget, hsame⟩ := sound.dependencies task hold d hd
    obtain ⟨dependency', hget', hplan, -⟩ := hlater _ _ hget
    exact ⟨dependency', hget', by rw [hplan, hsame]⟩
  · obtain ⟨hin, -⟩ := new.valid.dependencies t ht d hd
    obtain ⟨t', ht', rfl⟩ := List.mem_map.mp hin
    refine ⟨storedTask t', ?_, ?_⟩
    · show (coo.addPlan context.workspaceId plan).tasks.get? (key t.workspaceId t'.id) = _
      rw [(new.valid.linkage t ht).1]
      exact hnew t' ht'
    · show t'.objectiveId = t.objectiveId
      rw [(new.valid.linkage t ht).2.1, (new.valid.linkage t' ht').2.1]
  · exact sound.level4 task hold
  · show t.requiredAuthority.val = 4 ↔ initialStatus t = .AWAITING_APPROVAL
    unfold initialStatus
    split_ifs <;> simp_all
  · exact (sound.started task hold hs).later hlater
  · -- A new task that is not blocked has no dependencies.
    intro d hd
    have hstatus : Started (initialStatus t) := hs
    have hne : t.dependencyIds.length ≠ 0 := (List.length_pos_of_mem hd).ne'
    unfold Started initialStatus at hstatus
    split_ifs at hstatus <;> simp at hstatus

/-- Replacing one task keeps the graph sound. -/
theorem Change.sound {coo coo' : GovernedAiCoo} {old new : CooTaskState} (found : old ∈ coo.tasks)
    (change : Change coo old new) (tasks : coo'.tasks = coo.tasks.put new)
    (objectives : coo'.objectives = coo.objectives) (entityIds : coo'.entityIds = coo.entityIds)
    (sound : Sound coo) (hlater : Later coo coo') : Sound coo' := by
  have hmem : ∀ task ∈ coo'.tasks, task = new ∨ task ∈ coo.tasks := by
    intro task htask
    rw [tasks] at htask
    exact (Store.mem_put.mp htask).imp_right And.left
  have hnotAwaiting : old.status ≠ .AWAITING_APPROVAL := by
    have hmoving := change.moving
    intro hawaiting
    simp [hawaiting] at hmoving
  have hdependencies : ∀ task ∈ coo.tasks, ∀ d ∈ task.dependencyIds, ∃ dependency,
      coo'.tasks.get? (key task.workspaceId d) = some dependency
        ∧ dependency.objectiveId = task.objectiveId := by
    intro task htask d hd
    obtain ⟨dependency, hget, hobjective⟩ := sound.dependencies task htask d hd
    obtain ⟨dependency', hget', hsame, -⟩ := hlater _ _ hget
    exact ⟨dependency', hget', by rw [hsame, hobjective]⟩
  refine ⟨fun task htask => ?_, fun task htask => ?_, fun task htask => ?_,
    fun task htask => ?_, fun task htask hs => ?_⟩ <;>
    rcases hmem task htask with rfl | hold
  · rw [entityIds, change.same]; exact sound.registered old found
  · rw [entityIds]; exact sound.registered task hold
  · rw [objectives, change.same]; exact sound.objective old found
  · rw [objectives]; exact sound.objective task hold
  · rw [change.same]; exact hdependencies old found
  · exact hdependencies task hold
  · -- Neither before nor after does a replaced task await approval.
    rw [change.same, sound.level4 old found]
    exact ⟨fun h => absurd h hnotAwaiting, fun h => absurd h change.notAwaiting⟩
  · exact sound.level4 task hold
  · rw [change.same]
    rcases change.unblocked hs.1 with h | h
    · exact (sound.started old found ⟨h, hnotAwaiting⟩).later hlater
    · exact h.later hlater
  · exact (sound.started task hold hs).later hlater

/-- A write keeps the graph sound. -/
theorem Effect.sound {coo coo' : GovernedAiCoo} (sound : Sound coo)
    (h : Effect governance coo coo') : Sound coo' := by
  have hlater := h.later sound
  cases h with
  | kept tasks objectives entityIds =>
    obtain ⟨hregistered, hobjective, hdeps, hlevel4, hstarted⟩ := sound
    refine ⟨?_, ?_, ?_, ?_, ?_⟩
    · rw [tasks, entityIds]; exact hregistered
    · rw [tasks, objectives]; exact hobjective
    · rw [tasks]; exact hdeps
    · rw [tasks]; exact hlevel4
    · rw [tasks]
      exact fun task htask hs => (hstarted task htask hs).later hlater
  | planned context plan new added =>
    rw [added]
    exact new.sound sound
  | changed old new found change tasks objectives entityIds =>
    exact change.sound found tasks objectives entityIds sound hlater

/-- The empty graph is sound. -/
theorem sound_empty : Sound GovernedAiCoo.empty where
  registered := fun task h => absurd h (Store.not_mem_empty task)
  objective := fun task h => absurd h (Store.not_mem_empty task)
  dependencies := fun task h => absurd h (Store.not_mem_empty task)
  level4 := fun task h => absurd h (Store.not_mem_empty task)
  started := fun task h => absurd h (Store.not_mem_empty task)

/-- The writes of a call keep the graph sound and extend it. -/
theorem Writes.sound {call : Call ω σ} {coo coo' : GovernedAiCoo}
    (h : Writes governance call coo coo') (sound : Sound coo) : Sound coo' ∧ Later coo coo' := by
  refine Writes.preserves governance (I := fun c => Sound c ∧ Later coo c)
    (fun c c' hwrite hc => ?_) h ⟨sound, Later.refl coo⟩
  exact ⟨hwrite.effect.sound hc.1, hc.2.trans (hwrite.effect.later hc.1)⟩

variable (governance)

/-- **The graph is sound** in every reachable state. -/
theorem reach_sound (outside : ω) (sink : σ) (calls : List (Call ω σ)) :
    Sound (reach governance outside sink calls).coo :=
  reach_invariant governance sound_empty (fun _ _ _ hwrite hsound => hwrite.effect.sound hsound)
    outside sink calls

/-- **The graph only grows** along a run. -/
theorem reach_later (outside : ω) (sink : σ) (calls more : List (Call ω σ)) :
    Later (reach governance outside sink calls).coo
      (reach governance outside sink (calls ++ more)).coo := by
  induction more using List.reverseRecOn with
  | nil => rw [List.append_nil]; exact Later.refl _
  | append_singleton more call ih =>
    refine ih.trans ?_
    have hmoves := perform_moves governance call (reach governance outside sink (calls ++ more))
    rw [← List.append_assoc]
    unfold reach
    rw [run_concat]
    exact (hmoves.writes.sound (reach_sound governance outside sink _)).2

end VentureOS.Coo
