import VentureOS.Coo.Assignability
import VentureOS.Coo.CriticalPath
import VentureOS.Coo.Sweep
import VentureOS.Foundations.LongestChain
import VentureOS.Foundations.Sorting

/-! # The critical path is the longest chain

`longestPaths` finds the best chain that ends in each task (`Found`), since it takes the tasks in an order in which each
comes after its dependencies. So `criticalPath` reports the best of all chains, and every objective that is stored has
the task graph of a plan that was accepted (`Planned`). -/

namespace VentureOS.Coo

open ControlPlane Program LongestChain

/-! ## Chains of tasks -/

section Tasks

variable (tasks : List CooTask)

/-- The task with an identifier. -/
def taskWith (id : EntityId) : Option CooTask := tasks.find? fun task => task.id == id

/-- The direct dependencies of a task. -/
def dependenciesIn (id : EntityId) : List EntityId := ((taskWith tasks id).map CooTask.dependencyIds).getD []

/-- The estimated duration of a task. -/
def durationIn (id : EntityId) : Int := ((taskWith tasks id).map CooTask.estimatedDurationMs).getD 0

/-- A chain of tasks: each after the first depends directly on the one before it. -/
abbrev TaskChain (path : List EntityId) : Prop := IsChain (tasks.map CooTask.id) (dependenciesIn tasks) path

/-- The total duration of a chain. -/
abbrev durationOf (path : List EntityId) : Int := total (durationIn tasks) path

/-- The first of the longest chains, and its duration. -/
structure IsCriticalPath (path : List EntityId) (duration : Int) : Prop where
  chain : TaskChain tasks path
  lasts : durationOf tasks path = duration
  longest : ∀ other, TaskChain tasks other → durationOf tasks other ≤ duration
  first : ∀ other, TaskChain tasks other → durationOf tasks other = duration →
    path.map utf16Units ≤ other.map utf16Units

/-- The best chain that ends in a task. -/
abbrev BestIn (id : EntityId) (path : List EntityId) : Prop :=
  IsBest utf16Units (durationIn tasks) (tasks.map CooTask.id) (dependenciesIn tasks) id path

end Tasks

theorem utf16Units_inj : Function.Injective utf16Units := VentureOS.utf16Units_injective

variable {tasks' : List CooTask}

section Graph

variable {tasks : List CooTask} (wf : WellFormed tasks)
include wf

theorem WellFormed.taskWith_eq {task : CooTask} (h : task ∈ tasks) : taskWith tasks task.id = some task := by
  cases hfind : taskWith tasks task.id with
  | none =>
    have hnone := List.find?_eq_none.mp hfind task h
    simp at hnone
  | some other =>
    have hid := List.find?_some hfind
    rw [beq_iff_eq] at hid
    rw [wf.eq_of_id (List.mem_of_find?_eq_some hfind) h hid]

theorem WellFormed.dependenciesIn_eq {task : CooTask} (h : task ∈ tasks) :
    dependenciesIn tasks task.id = task.dependencyIds := by
  rw [dependenciesIn, wf.taskWith_eq h]
  rfl

theorem WellFormed.durationIn_eq {task : CooTask} (h : task ∈ tasks) :
    durationIn tasks task.id = task.estimatedDurationMs := by
  rw [durationIn, wf.taskWith_eq h]
  rfl

/-- The order in which the tasks are listed does not matter. -/
theorem WellFormed.perm (h : tasks.Perm tasks') : WellFormed tasks' where
  ids := (h.map CooTask.id).nodup_iff.mp wf.ids
  dependencies := fun task htask => wf.dependencies task (h.mem_iff.mpr htask)
  linked := fun task htask d hd => (h.map CooTask.id).mem_iff.mp (wf.linked task (h.mem_iff.mpr htask) d hd)

theorem WellFormed.taskWith_perm (h : tasks.Perm tasks') (id : EntityId) :
    taskWith tasks' id = taskWith tasks id := by
  cases hfind : taskWith tasks id with
  | none =>
    refine List.find?_eq_none.mpr fun task htask => ?_
    exact List.find?_eq_none.mp hfind task (h.mem_iff.mpr htask)
  | some task =>
    have hid := List.find?_some hfind
    rw [beq_iff_eq] at hid
    rw [← hid]
    exact (wf.perm h).taskWith_eq (h.mem_iff.mp (List.mem_of_find?_eq_some hfind))

end Graph

variable {tasks : List CooTask}

/-- **There is one critical path**, in whatever order the tasks are listed. -/
theorem IsCriticalPath.unique (wf : WellFormed tasks) (hperm : tasks.Perm tasks')
    {path path' : List EntityId} {duration duration' : Int} (h : IsCriticalPath tasks path duration)
    (h' : IsCriticalPath tasks' path' duration') : path = path' ∧ duration = duration' := by
  have hdependencies : dependenciesIn tasks' = dependenciesIn tasks := by
    funext id
    rw [dependenciesIn, wf.taskWith_perm hperm, dependenciesIn]
  have hdurations : durationIn tasks' = durationIn tasks := by
    funext id
    rw [durationIn, wf.taskWith_perm hperm, durationIn]
  have hchain : ∀ other, TaskChain tasks' other ↔ TaskChain tasks other := by
    intro other
    have hnodes : ∀ i, i ∈ tasks'.map CooTask.id ↔ i ∈ tasks.map CooTask.id :=
      fun i => (hperm.map CooTask.id).mem_iff.symm
    constructor
    · rintro ⟨hall, hdepends, hne⟩
      exact ⟨fun i hi => (hnodes i).mp (hall i hi), hdependencies ▸ hdepends, hne⟩
    · rintro ⟨hall, hdepends, hne⟩
      exact ⟨fun i hi => (hnodes i).mpr (hall i hi), hdependencies.symm ▸ hdepends, hne⟩
  have hdurationOf : ∀ other, durationOf tasks' other = durationOf tasks other := by
    intro other
    rw [durationOf, hdurations]
  have hmine := (hchain path').mp h'.chain
  have htheirs := (hchain path).mpr h.chain
  have hle := h.longest path' hmine
  have hge := h'.longest path htheirs
  have hduration := h'.lasts
  rw [hdurationOf] at hge hduration
  rw [h.lasts] at hge
  rw [hduration] at hle
  have hsame : duration = duration' := le_antisymm hge hle
  refine ⟨?_, hsame⟩
  have hfirst := h.first path' hmine (by rw [hduration, hsame])
  have hfirst' := h'.first path htheirs (by rw [hdurationOf, h.lasts, hsame])
  exact List.map_injective_iff.mpr utf16Units_inj (le_antisymm hfirst hfirst')

/-! ## Comparing chains -/

/-- The place of a chain among others. -/
def Chain.place (chain : Chain) : ℤ ×ₗ List (List Nat) := toLex (-chain.duration, chain.path.map utf16Units)

theorem textLe_iff {left right : String} : textLe left right = true ↔ utf16Units left ≤ utf16Units right := by
  simp [textLe]

theorem pathLe_iff {left right : List EntityId} :
    pathLe left right = true ↔ left.map utf16Units ≤ right.map utf16Units := by
  induction left generalizing right with
  | nil => simpa [pathLe] using nil_le (right.map utf16Units)
  | cons a left ih =>
    cases right with
    | nil => simp [pathLe]
    | cons b right =>
      rw [pathLe, List.map_cons, List.map_cons, cons_le_cons_iff]
      split
      · rename_i heq
        simp [heq, ih]
      · rename_i hne
        have hunits : utf16Units a ≠ utf16Units b := fun h => hne (utf16Units_inj h)
        rw [textLe_iff, le_iff_lt_or_eq]
        simp [hunits]

theorem before_iff {left right : Chain} : left.before right = true ↔ left.place ≤ right.place := by
  rw [Chain.before, Bool.or_eq_true, Bool.and_eq_true, decide_eq_true_eq, decide_eq_true_eq, pathLe_iff, Chain.place,
    Chain.place, Prod.Lex.toLex_le_toLex]
  simp only [neg_lt_neg_iff, neg_inj]

/-- **The longest chain of a list is before all others of it.** -/
theorem longestChain_spec {chains : List Chain} {chain : Chain} (h : longestChain chains = some chain) :
    chain ∈ chains ∧ ∀ other ∈ chains, chain.place ≤ other.place := by
  have htotal : Std.Total fun a b : Chain => a.before b = true :=
    ⟨fun a b => by simp only [before_iff]; exact le_total _ _⟩
  have htrans : IsTrans Chain fun a b => a.before b = true :=
    ⟨fun a b c => by simp only [before_iff]; exact le_trans⟩
  refine ⟨mem_of_longestChain h, ?_⟩
  have hsorted := List.pairwise_insertionSort (fun a b : Chain => a.before b = true) chains
  have hperm := List.perm_insertionSort (fun a b : Chain => a.before b = true) chains
  unfold longestChain at h
  intro other hother
  rw [← hperm.mem_iff] at hother
  cases hlist : chains.insertionSort fun a b : Chain => a.before b = true with
  | nil =>
    rw [hlist] at h
    cases h
  | cons first rest =>
    rw [hlist, List.head?_cons, Option.some.injEq] at h
    rw [hlist] at hsorted hother
    rw [List.pairwise_cons] at hsorted
    subst h
    rcases List.mem_cons.mp hother with rfl | hother
    · exact le_refl _
    · exact before_iff.mp (hsorted.1 other hother)

theorem longestChain_eq_none {chains : List Chain} : longestChain chains = none ↔ chains = [] := by
  rw [longestChain, List.head?_eq_none_iff]
  constructor
  · intro h
    exact List.perm_nil.mp (h ▸ (List.perm_insertionSort (Chain.before · ·) chains).symm)
  · rintro rfl
    rfl

/-! ## All chains -/

/-- What was found after these tasks were visited: the best chain that ends in each. -/
structure Found (tasks : List CooTask) (best : OrderedMap EntityId Chain) (visited : List EntityId) : Prop where
  found : ∀ id ∈ visited, ∃ chain, best.get? id = some chain
  best : ∀ id chain, best.get? id = some chain →
    id ∈ visited ∧ BestIn tasks id chain.path ∧ chain.duration = durationOf tasks chain.path

variable {best : OrderedMap EntityId Chain} {visited : List EntityId}

theorem Found.rank
    (h : Found tasks best visited) {id : EntityId} {chain : Chain} (hget : best.get? id = some chain) :
    chain.place = LongestChain.rank utf16Units (durationIn tasks) chain.path := by
  rw [Chain.place, (h.best id chain hget).2.2]
  rfl

/-- A sum that is a safe integer was added exactly. -/
theorem addDouble_of_safe {a b : Int} (h0 : 0 ≤ a + b) (h : isSafeInteger (addDouble a b) = true) :
    addDouble a b = a + b := by
  have hle := (of_decide_eq_true h).2
  unfold addDouble maxSafeInteger at *
  by_cases hsmall : a + b < 2 ^ 53
  · exact roundDouble_eq_self h0 hsmall
  · have hlarge := le_roundDouble (not_lt.mp hsmall)
    omega

/-- **Each visit finds the best chain that ends in the task.** -/
theorem longestPaths_spec (wf : WellFormed tasks)
    (hpos : ∀ task ∈ tasks, 0 < task.estimatedDurationMs) {rest : List EntityId}
    {all : OrderedMap EntityId Chain} (hfound : Found tasks best visited)
    (hids : ∀ id ∈ rest, id ∈ tasks.map CooTask.id)
    (hclosed : ∀ before id after, rest = before ++ id :: after →
      ∀ task ∈ tasks, task.id = id → ∀ d ∈ task.dependencyIds, d ∈ visited ++ before)
    (h : longestPaths tasks best rest = .ok all) : Found tasks all (visited ++ rest) := by
  induction rest generalizing best visited with
  | nil =>
    cases h
    rw [List.append_nil]
    exact hfound
  | cons id rest ih =>
    rw [List.forall_mem_cons] at hids
    obtain ⟨task, htask, rfl⟩ := List.mem_map.mp hids.1
    have hdeps := hclosed [] task.id rest rfl task htask rfl
    rw [List.append_nil] at hdeps
    have hfind : tasks.find? (fun t => t.id == task.id) = some task := wf.taskWith_eq htask
    have hweight : ∀ i ∈ tasks.map CooTask.id, 0 < durationIn tasks i := by
      intro i hi
      obtain ⟨t, ht, rfl⟩ := List.mem_map.mp hi
      rw [wf.durationIn_eq ht]
      exact hpos t ht
    rw [longestPaths, hfind] at h
    simp only [check_bind_eq_ok, throwIf_eq_ok, Bool.not_eq_false] at h
    obtain ⟨hsafe, hrest⟩ := h
    -- The chain that is stored is the best one.
    have hstored : BestIn tasks task.id
          (((longestChain (task.dependencyIds.filterMap best.get?)).map Chain.path).getD [] ++ [task.id])
        ∧ addDouble task.estimatedDurationMs
            (((longestChain (task.dependencyIds.filterMap best.get?)).map Chain.duration).getD 0)
          = durationOf tasks
            (((longestChain (task.dependencyIds.filterMap best.get?)).map Chain.path).getD [] ++ [task.id]) := by
      have hmine := hpos task htask
      cases hlongest : longestChain (task.dependencyIds.filterMap best.get?) with
      | none =>
        have hnone : task.dependencyIds = [] := by
          rw [longestChain_eq_none, List.filterMap_eq_nil_iff] at hlongest
          refine List.eq_nil_iff_forall_not_mem.mpr fun d hd => ?_
          obtain ⟨chain, hchain⟩ := hfound.found d (hdeps d hd)
          rw [hlongest d hd] at hchain
          cases hchain
        rw [hlongest] at hsafe
        refine ⟨isBest_single hids.1 ?_, ?_⟩
        · rw [wf.dependenciesIn_eq htask]
          exact hnone
        · rw [addDouble_of_safe (by simpa using hmine.le) hsafe]
          simp [durationOf, total, wf.durationIn_eq htask]
      | some chain =>
        obtain ⟨hmem, hfirst⟩ := longestChain_spec hlongest
        obtain ⟨d, hd, hget⟩ := List.mem_filterMap.mp hmem
        obtain ⟨-, hbest, hduration⟩ := hfound.best d chain hget
        rw [hlongest] at hsafe
        refine ⟨isBest_concat utf16Units_inj hweight hids.1 ?_ hbest ?_, ?_⟩
        · rw [wf.dependenciesIn_eq htask]
          exact hd
        · intro k hk
          rw [wf.dependenciesIn_eq htask] at hk
          obtain ⟨other, hother⟩ := hfound.found k (hdeps k hk)
          refine ⟨other.path, (hfound.best k other hother).2.1, ?_⟩
          show LongestChain.rank utf16Units (durationIn tasks) chain.path ≤ _
          rw [← hfound.rank hget, ← hfound.rank hother]
          exact hfirst other (List.mem_filterMap.mpr ⟨k, hk, hother⟩)
        · have hbefore : 0 < chain.duration := by
            rw [hduration]
            exact total_pos (fun i hi => hweight i (hbest.chain.nodes i hi)) hbest.chain.nonempty
          have hexact := addDouble_of_safe (b := chain.duration) (a := task.estimatedDurationMs) (by omega) hsafe
          show addDouble task.estimatedDurationMs chain.duration = _
          rw [hexact, durationOf, total_concat, wf.durationIn_eq htask, hduration]
          exact Int.add_comm _ _
    have hnext : Found tasks (best.set task.id
        ⟨addDouble task.estimatedDurationMs
            (((longestChain (task.dependencyIds.filterMap best.get?)).map Chain.duration).getD 0),
          ((longestChain (task.dependencyIds.filterMap best.get?)).map Chain.path).getD [] ++ [task.id]⟩)
        (visited ++ [task.id]) := by
      constructor
      · intro i hi
        rw [OrderedMap.get?_set]
        split
        · exact ⟨_, rfl⟩
        · rename_i hne
          rcases List.mem_append.mp hi with hi | hi
          · exact hfound.found i hi
          · exact absurd (List.mem_singleton.mp hi) hne
      · intro i chain hget
        rw [OrderedMap.get?_set] at hget
        split at hget
        · rename_i heq
          cases hget
          subst heq
          exact ⟨by simp, hstored⟩
        · obtain ⟨hmem, hbest⟩ := hfound.best i chain hget
          exact ⟨List.mem_append_left _ hmem, hbest⟩
    have hall := ih hnext hids.2 (fun before other after heq t ht hid d hd => ?_) hrest
    · rwa [List.append_assoc, List.singleton_append] at hall
    · have hmem := hclosed (task.id :: before) other after (by rw [heq]; rfl) t ht hid d hd
      rwa [List.append_assoc, List.singleton_append]

/-- **The best of all chains is the critical path.** -/
theorem Found.critical
    (h : Found tasks best visited) (hvisited : visited.Perm (tasks.map CooTask.id)) (hne : tasks ≠ []) :
    ∃ chain, longestChain best.values = some chain ∧ IsCriticalPath tasks chain.path chain.duration := by
  cases hlongest : longestChain best.values with
  | none =>
    exfalso
    obtain ⟨task, htask⟩ := List.exists_mem_of_ne_nil tasks hne
    obtain ⟨chain, hchain⟩ := h.found task.id (hvisited.mem_iff.mpr (List.mem_map_of_mem htask))
    have hmem := OrderedMap.mem_values.mpr ⟨_, hchain⟩
    rw [longestChain_eq_none.mp hlongest] at hmem
    cases hmem
  | some chain =>
    obtain ⟨hmem, hfirst⟩ := longestChain_spec hlongest
    obtain ⟨id, hget⟩ := OrderedMap.mem_values.mp hmem
    obtain ⟨-, hbest, hduration⟩ := h.best id chain hget
    -- Every chain ends in a task, and the best chain that ends there is at most as good.
    have hrank : ∀ other, TaskChain tasks other → LongestChain.rank utf16Units (durationIn tasks) chain.path
        ≤ LongestChain.rank utf16Units (durationIn tasks) other := by
      intro other hother
      obtain ⟨last, hlast⟩ : ∃ last, other.getLast? = some last :=
        ⟨_, List.getLast?_eq_some_getLast hother.nonempty⟩
      have hnode := hother.nodes last (List.mem_of_getLast? hlast)
      obtain ⟨chain', hget'⟩ := h.found last (hvisited.mem_iff.mpr hnode)
      have hle := hfirst chain' (OrderedMap.mem_values.mpr ⟨_, hget'⟩)
      rw [h.rank hget, h.rank hget'] at hle
      exact hle.trans ((h.best last chain' hget').2.1.best other hother hlast)
    refine ⟨chain, rfl, hbest.chain, hduration.symm, ?_, ?_⟩
    · intro other hother
      rcases rank_le_iff.mp (hrank other hother) with hlt | ⟨heq, -⟩
      · rw [hduration]
        exact hlt.le
      · rw [hduration]
        exact heq.le
    · intro other hother hsame
      rcases rank_le_iff.mp (hrank other hother) with hlt | ⟨-, hle⟩
      · rw [hduration] at hsame
        exact absurd hsame hlt.ne
      · exact hle

/-! ## Stored objectives -/

/-- What `#validatePlan` has checked on the tasks of an objective, as far as the critical path depends on it. -/
structure ValidGraph (options : AiCooOptions) (tasks : List CooTask) : Prop where
  wellFormed : WellFormed tasks
  nonempty : tasks ≠ []
  count : tasks.length ≤ options.maximumTasksPerObjective
  lasting : ∀ task ∈ tasks, 0 < task.estimatedDurationMs
    ∧ task.estimatedDurationMs ≤ options.maximumTaskDurationMs
  acyclic : (topologicalOrder tasks).length = tasks.length

variable {context : WorkspaceContext}

/-- No accepted task has the duration zero. -/
theorem lasting_of_validateTasks {options : AiCooOptions} {plan : ObjectivePlan} {taskIds : List EntityId}
    (h : validateTasks options context plan taskIds tasks = .ok ()) :
    ∀ task ∈ tasks, task.estimatedDurationMs ≠ 0 := by
  induction tasks generalizing taskIds with
  | nil => simp
  | cons task rest ih =>
    simp only [validateTasks, validateTask, check_bind_eq_ok, throwIf_eq_ok] at h
    obtain ⟨-, -, -, -, -, -, ⟨-, -, -, -, -, -, -, -, -, hlasting, -⟩, hrest⟩ := h
    rw [List.forall_mem_cons]
    exact ⟨hlasting, ih hrest⟩

variable {ω σ : Type} {governance : Governance ω σ}

variable {coo : GovernedAiCoo}

theorem validGraph {plan : ObjectivePlan}
    (hchecked : checkPlan governance coo context plan = .ok ()) : ValidGraph governance.options plan.tasks := by
  have hvalid := (newPlan hchecked).valid
  simp only [checkPlan, validatePlan, check_bind_eq_ok, throwIf_eq_ok, not_or] at hchecked
  obtain ⟨-, ⟨-, -, ⟨hne, -⟩, -, htasks, -⟩, -⟩ := hchecked
  have hlasting := lasting_of_validateTasks htasks
  refine ⟨⟨hvalid.taskIds, fun task htask => (hvalid.valid task htask).dependencies,
    fun task htask d hd => (hvalid.dependencies task htask d hd).1⟩, ?_, hvalid.count, ?_, hvalid.acyclic⟩
  · intro hnil
    exact hne (by rw [hnil]; rfl)
  · intro task htask
    obtain ⟨-, hnonneg, hle⟩ := (hvalid.valid task htask).duration
    have hne := hlasting task htask
    exact ⟨by omega, hle⟩

/-- The tasks of every stored objective are those of a plan that was accepted. -/
structure Planned (governance : Governance ω σ) (coo : GovernedAiCoo) : Prop where
  sound : Sound coo
  graphs : ∀ objective ∈ coo.objectives,
    ValidGraph governance.options (objectivePlan coo objective.workspaceId objective.id)

/-- Replacing a task by one with the same plan data leaves the plans as they are. -/
theorem objectivePlan_putTask {coo : GovernedAiCoo} {old new : CooTaskState}
    (found : coo.tasks.get? (keyOf new) = some old) (same : new.toCooTask = old.toCooTask)
    (workspaceId objectiveId : EntityId) :
    objectivePlan (coo.putTask new) workspaceId objectiveId = objectivePlan coo workspaceId objectiveId := by
  have hgraph : (coo.putTask new).tasks.values.map CooTaskState.toCooTask
      = coo.tasks.values.map CooTaskState.toCooTask := Store.map_values_put found same
  rw [objectivePlan, hgraph]
  rfl

theorem Planned.of_same {coo' : GovernedAiCoo} (h : Planned governance coo) (hsound : Sound coo')
    (hobjectives : coo'.objectives = coo.objectives)
    (hplans : ∀ w o, objectivePlan coo' w o = objectivePlan coo w o) : Planned governance coo' := by
  refine ⟨hsound, fun objective hobjective => ?_⟩
  rw [hobjectives] at hobjective
  rw [hplans]
  exact h.graphs objective hobjective

/-- **A write keeps the graphs of all objectives**, but for the graph of the plan that it adds. -/
theorem Write.planned {call : Call ω σ} {coo' : GovernedAiCoo} (hwrite : Write governance call coo coo')
    (h : Planned governance coo) : Planned governance coo' := by
  have hsound := hwrite.effect.sound h.sound
  cases hwrite with
  | @plan _ context plan checked =>
    have new := newPlan checked
    refine ⟨hsound, fun objective hobjective => ?_⟩
    rw [new.objectivePlan h.sound]
    split
    · exact validGraph checked
    · rename_i hother
      rcases Store.mem_put.mp hobjective with rfl | ⟨hold, -⟩
      · exact absurd ⟨new.valid.workspace, rfl⟩ hother
      · exact h.graphs objective hold
  | @refresh _ _ _ task _ _ found _ _ =>
    have hkey := Store.keyOf_of_get? found
    exact h.of_same hsound rfl (@objectivePlan_putTask _ task _ (hkey ▸ found) rfl)
  | @assign _ _ _ task _ found _ _ _ =>
    have hkey := Store.keyOf_of_get? found
    exact h.of_same hsound rfl (@objectivePlan_putTask _ task _ (hkey ▸ found) rfl)
  | @charge _ _ _ _ _ task checked =>
    have found := (checkUsage_ok checked).1
    have hkey := Store.keyOf_of_get? found
    exact h.of_same hsound rfl (@objectivePlan_putTask _ task _ (hkey ▸ found) rfl)
  | @complete _ _ _ _ task checked =>
    have found := (checkCompletable_ok checked).1
    have hkey := Store.keyOf_of_get? found
    exact h.of_same hsound rfl (@objectivePlan_putTask _ task _ (hkey ▸ found) rfl)
  | @fail _ _ _ _ task checked =>
    have found := (checkFailure_ok checked).1
    have hkey := Store.keyOf_of_get? found
    exact h.of_same hsound rfl (@objectivePlan_putTask _ task _ (hkey ▸ found) rfl)
  | _ => exact h.of_same hsound rfl fun _ _ => rfl

variable (governance) in
theorem reach_planned (outside : ω) (sink : σ) (calls : List (Call ω σ)) :
    Planned governance (reach governance outside sink calls).coo :=
  reach_invariant governance
    ⟨sound_empty, fun objective h => absurd h (Store.not_mem_empty objective)⟩
    (fun _ _ _ hwrite h => hwrite.planned h) outside sink calls

/-- **The critical path of a stored objective.** -/
theorem Planned.criticalPath (h : Planned governance coo) {objective : CooObjective}
    (hobjective : objective ∈ coo.objectives)
    (hplanner : assertPlanner governance context = .ok ()) (hworkspace : context.workspaceId = objective.workspaceId) :
    ∃ report, Coo.criticalPath governance coo context objective.id = .ok report
      ∧ IsCriticalPath (objectivePlan coo objective.workspaceId objective.id) report.taskIds report.totalDurationMs := by
  have hgraph := h.graphs objective hobjective
  have hstored : requireObjective coo context objective.id = .ok objective := by
    rw [requireObjective_eq_ok, hworkspace]
    exact hobjective
  obtain ⟨hvisited, hclosed⟩ := topologicalOrder_spec hgraph.wellFormed hgraph.acyclic
  obtain ⟨best, hbest⟩ := exists_best governance hgraph.count
    (fun task htask => ⟨(hgraph.lasting task htask).1.le, (hgraph.lasting task htask).2⟩) hgraph.acyclic
  have hfound : Found (objectivePlan coo objective.workspaceId objective.id) best
      ([] ++ topologicalOrder (objectivePlan coo objective.workspaceId objective.id)) := by
    refine longestPaths_spec hgraph.wellFormed (fun task htask => (hgraph.lasting task htask).1)
      ⟨fun _ hid => absurd hid List.not_mem_nil, fun id chain hget => ?_⟩ (fun id hid => hvisited.mem_iff.mp hid)
      hclosed hbest
    rw [OrderedMap.get?_empty] at hget
    cases hget
  obtain ⟨chain, hlongest, hcritical⟩ := hfound.critical hvisited hgraph.nonempty
  unfold Coo.criticalPath
  rw [objectivePlan_eq, ← hworkspace] at hcritical hbest hgraph
  refine ⟨_, except_bind_eq_ok.mpr ⟨(), hplanner, except_bind_eq_ok.mpr ⟨_, hstored,
    except_bind_eq_ok.mpr ⟨(), throwIf_eq_ok.mpr (not_not.mpr hgraph.acyclic),
      except_bind_eq_ok.mpr ⟨best, hbest, rfl⟩⟩⟩⟩, ?_⟩
  rw [hlongest, objectivePlan_eq, ← hworkspace]
  exact hcritical

/-- **The critical path is the longest chain.** For an authorized planner `criticalPath` never throws on an objective
that is stored: it reports the first of the longest chains of its tasks, and this is the same in whatever order the
tasks were listed. -/
theorem criticalPath_correct (governance : Governance ω σ) (outside : ω) (sink : σ) (calls : List (Call ω σ)) :
    ∀ objective ∈ (reach governance outside sink calls).coo.objectives, ∀ context,
      assertPlanner governance context = .ok () → context.workspaceId = objective.workspaceId →
    ∃ report, criticalPath governance (reach governance outside sink calls).coo context objective.id = .ok report
      ∧ IsCriticalPath ((objectiveTasks (reach governance outside sink calls).coo objective.workspaceId
          objective.id).map CooTaskState.toCooTask) report.taskIds report.totalDurationMs
      ∧ ∀ (governance' : Governance ω σ) outside' sink' calls',
        ∀ objective' ∈ (reach governance' outside' sink' calls').coo.objectives, ∀ context',
          assertPlanner governance' context' = .ok () → context'.workspaceId = objective'.workspaceId →
        ((objectiveTasks (reach governance outside sink calls).coo objective.workspaceId objective.id).map
            CooTaskState.toCooTask).Perm
          ((objectiveTasks (reach governance' outside' sink' calls').coo objective'.workspaceId objective'.id).map
            CooTaskState.toCooTask) →
        ∃ report', criticalPath governance' (reach governance' outside' sink' calls').coo context' objective'.id
            = .ok report'
          ∧ report'.taskIds = report.taskIds ∧ report'.totalDurationMs = report.totalDurationMs := by
  intro objective hobjective context hplanner hworkspace
  have hplanned := reach_planned governance outside sink calls
  obtain ⟨report, hreport, hcritical⟩ := hplanned.criticalPath hobjective hplanner hworkspace
  rw [objectivePlan_eq] at hcritical
  refine ⟨report, hreport, hcritical, ?_⟩
  intro governance' outside' sink' calls' objective' hobjective' context' hplanner' hworkspace' hperm
  obtain ⟨report', hreport', hcritical'⟩ :=
    (reach_planned governance' outside' sink' calls').criticalPath hobjective' hplanner' hworkspace'
  have hwf := (hplanned.graphs objective hobjective).wellFormed
  rw [objectivePlan_eq] at hcritical' hwf
  obtain ⟨hpath, hduration⟩ := hcritical.unique hwf hperm hcritical'
  exact ⟨report', hreport', hpath.symm, hduration.symm⟩

/-- The objective of the sample plan is stored. -/
theorem Sample.exists_objective : ∃ objective ∈
    (reach silent () () [.createPlan planner (plan "o" ["denied"])]).coo.objectives, objective.workspaceId = "w" := by
  have hsound := (reach_planned silent () () [.createPlan planner (plan "o" ["denied"])]).sound
  obtain ⟨-, -, hready, -⟩ := shortPlan_checked
  generalize reach silent () () [.createPlan planner (plan "o" ["denied"])] = w at hsound hready
  obtain ⟨stored, hstored, -⟩ := Option.map_eq_some_iff.mp hready
  have hkey : key stored.workspaceId stored.id = key "w" "t" := Store.keyOf_of_get? hstored
  obtain ⟨objective, hobjective⟩ := hsound.objective stored (Store.mem_of_get? hstored)
  have howner : key objective.workspaceId objective.id = key stored.workspaceId stored.objectiveId :=
    Store.keyOf_of_get? hobjective
  exact ⟨objective, Store.mem_of_get? hobjective, (key_inj.mp howner).1.trans (key_inj.mp hkey).1⟩

/-- The critical path of the sample plan is found. -/
theorem criticalPath_correct_sample : ∃ objective report,
    criticalPath Sample.silent (reach Sample.silent () () [.createPlan Sample.planner (Sample.plan "o" ["denied"])]).coo
        Sample.planner objective = .ok report
      ∧ report.taskIds ≠ [] := by
  obtain ⟨objective, hobjective, hworkspace⟩ := Sample.exists_objective
  obtain ⟨report, hreport, hcritical, -⟩ := criticalPath_correct Sample.silent () ()
    [.createPlan Sample.planner (Sample.plan "o" ["denied"])] objective hobjective Sample.planner (by decide)
    hworkspace.symm
  exact ⟨objective.id, report, hreport, hcritical.chain.nonempty⟩

end VentureOS.Coo
