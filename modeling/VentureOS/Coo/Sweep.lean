import VentureOS.Coo.Planning

/-! # The sweep over a task graph

What the loop of `#assertAcyclic` and of `criticalPath` does on a graph with the shape that `#validatePlan` has
checked. Between two rounds the counts are those of the open dependencies, and a task was visited or waits exactly when
it has none (`Swept`). So when all tasks were visited, each was visited after its dependencies
(`topologicalOrder_spec`). -/

namespace VentureOS.Coo

open ControlPlane

/-- The shape of a task graph: identifiers and dependencies are not repeated, and dependencies are tasks. -/
structure WellFormed (tasks : List CooTask) : Prop where
  ids : (tasks.map CooTask.id).Nodup
  dependencies : ∀ task ∈ tasks, task.dependencyIds.Nodup
  linked : ∀ task ∈ tasks, ∀ d ∈ task.dependencyIds, d ∈ tasks.map CooTask.id

variable {tasks : List CooTask}

variable {task : CooTask}

theorem WellFormed.eq_of_id (wf : WellFormed tasks) {task' : CooTask}
    (htask : task ∈ tasks) (htask' : task' ∈ tasks) (h : task.id = task'.id) : task = task' :=
  List.inj_on_of_nodup_map wf.ids htask htask' h

/-! ## Dependents -/

theorem mem_sortTexts {texts : List String} {text : String} : text ∈ sortTexts texts ↔ text ∈ texts :=
  (List.perm_insertionSort _ texts).mem_iff

theorem dependentsOf_eq (hnodup : ∀ task ∈ tasks, task.dependencyIds.Nodup) (id : EntityId) :
    dependentsOf tasks id = (tasks.filter fun task => decide (id ∈ task.dependencyIds)).map CooTask.id := by
  unfold dependentsOf
  induction tasks with
  | nil => rfl
  | cons task rest ih =>
    rw [List.forall_mem_cons] at hnodup
    rw [List.flatMap_cons, ih hnodup.2, List.filter_cons]
    by_cases hmem : id ∈ task.dependencyIds
    · have hone := List.count_eq_one_of_mem hnodup.1 hmem
      simp [hmem, List.filter_beq, hone]
    · have hzero := List.count_eq_zero_of_not_mem hmem
      simp [hmem, List.filter_beq, hzero]

theorem mem_dependentsOf (wf : WellFormed tasks) (htask : task ∈ tasks)
    {id : EntityId} : task.id ∈ dependentsOf tasks id ↔ id ∈ task.dependencyIds := by
  rw [dependentsOf_eq wf.dependencies, List.mem_map]
  constructor
  · rintro ⟨other, hother, heq⟩
    rw [List.mem_filter, decide_eq_true_eq] at hother
    rw [← wf.eq_of_id hother.1 htask heq]
    exact hother.2
  · intro hmem
    exact ⟨task, List.mem_filter.mpr ⟨htask, decide_eq_true hmem⟩, rfl⟩

theorem nodup_dependentsOf (wf : WellFormed tasks) (id : EntityId) :
    (dependentsOf tasks id).Nodup := by
  rw [dependentsOf_eq wf.dependencies]
  exact wf.ids.sublist (List.filter_sublist.map CooTask.id)

theorem exists_of_mem_dependentsOf (wf : WellFormed tasks) {id dependent : EntityId}
    (h : dependent ∈ dependentsOf tasks id) : ∃ task ∈ tasks, task.id = dependent ∧ id ∈ task.dependencyIds := by
  rw [dependentsOf_eq wf.dependencies, List.mem_map] at h
  obtain ⟨task, htask, heq⟩ := h
  rw [List.mem_filter, decide_eq_true_eq] at htask
  exact ⟨task, htask.1, heq, htask.2⟩

/-! ## Rounds -/

/-- The dependencies of a task that were not visited. -/
def openDependencies (ordered : List EntityId) (task : CooTask) : List EntityId :=
  task.dependencyIds.filter fun d => decide (d ∉ ordered)

theorem openDependencies_eq_nil {ordered : List EntityId} :
    openDependencies ordered task = [] ↔ ∀ d ∈ task.dependencyIds, d ∈ ordered := by
  simp [openDependencies, List.filter_eq_nil_iff]

/-- A visit meets one dependency of each task that has it. -/
theorem length_openDependencies_concat {ordered : List EntityId} {id : EntityId}
    (hnodup : task.dependencyIds.Nodup) (hnew : id ∉ ordered) :
    (openDependencies (ordered ++ [id]) task).length + (if id ∈ task.dependencyIds then 1 else 0)
      = (openDependencies ordered task).length := by
  have hopen : (openDependencies ordered task).Nodup := hnodup.filter _
  have hsplit : openDependencies (ordered ++ [id]) task = (openDependencies ordered task).erase id := by
    rw [hopen.erase_eq_filter, openDependencies, openDependencies, List.filter_filter]
    refine List.filter_congr fun d _ => ?_
    by_cases heq : d = id
    · simp [heq]
    · simp [heq]
  rw [hsplit, List.length_erase]
  have hmem : id ∈ openDependencies ordered task ↔ id ∈ task.dependencyIds := by
    simp [openDependencies, hnew]
  simp only [hmem]
  by_cases h : id ∈ task.dependencyIds
  · have hpos := List.length_pos_of_mem (hmem.mpr h)
    simp only [h, if_true]
    omega
  · simp [h]

/-- What a sweep has found so far. -/
structure Swept (tasks : List CooTask) (sweep : Sweep) : Prop where
  indegree : ∀ task ∈ tasks,
    sweep.indegree.get? task.id = some ((openDependencies sweep.ordered task).length : Int)
  waiting : ∀ task ∈ tasks,
    task.id ∈ sweep.ordered ++ sweep.ready ↔ openDependencies sweep.ordered task = []
  ids : ∀ id ∈ sweep.ordered ++ sweep.ready, id ∈ tasks.map CooTask.id
  nodup : (sweep.ordered ++ sweep.ready).Nodup
  closed : ∀ before id after, sweep.ordered = before ++ id :: after →
    ∀ task ∈ tasks, task.id = id → ∀ d ∈ task.dependencyIds, d ∈ before

/-- What counting a dependency of each of these tasks as met does. -/
theorem foldl_release {dependents : List EntityId} (hnodup : dependents.Nodup) (sweep : Sweep)
    (hstored : ∀ x ∈ dependents, ∃ n, sweep.indegree.get? x = some n) :
    (dependents.foldl Sweep.release sweep).ordered = sweep.ordered
    ∧ (∀ x, (dependents.foldl Sweep.release sweep).indegree.get? x
        = if x ∈ dependents then (sweep.indegree.get? x).map (· - 1) else sweep.indegree.get? x)
    ∧ (dependents.foldl Sweep.release sweep).ready.Perm
        (sweep.ready ++ dependents.filter fun x => decide (sweep.indegree.get? x = some 1)) := by
  induction dependents generalizing sweep with
  | nil => simp
  | cons dependent rest ih =>
    rw [List.nodup_cons] at hnodup
    rw [List.forall_mem_cons] at hstored
    obtain ⟨⟨n, hn⟩, hrest⟩ := hstored
    -- The counts of the others do not change.
    have hother : ∀ x ∈ rest, (sweep.release dependent).indegree.get? x = sweep.indegree.get? x := by
      intro x hx
      have hne : x ≠ dependent := fun heq => hnodup.1 (heq ▸ hx)
      simp [Sweep.release, hne]
    obtain ⟨hordered, hindegree, hready⟩ := ih hnodup.2 (sweep.release dependent) fun x hx => by
      rw [hother x hx]
      exact hrest x hx
    refine ⟨hordered, ?_, ?_⟩
    · intro x
      rw [List.foldl_cons, hindegree]
      by_cases hx : x ∈ rest
      · have hne : x ≠ dependent := fun heq => hnodup.1 (heq ▸ hx)
        simp [hx, hother x hx]
      · by_cases heq : x = dependent
        · subst heq
          simp [hx, Sweep.release, hn]
        · simp [hx, heq, Sweep.release]
    · refine hready.trans ?_
      have hfilter : (rest.filter fun x => decide ((sweep.release dependent).indegree.get? x = some 1))
          = rest.filter fun x => decide (sweep.indegree.get? x = some 1) :=
        List.filter_congr fun x hx => by rw [hother x hx]
      rw [hfilter, List.filter_cons, hn]
      by_cases hone : n = 1
      · have hmoved : (sweep.release dependent).ready = sortTexts (sweep.ready ++ [dependent]) := by
          simp [Sweep.release, hn, hone]
        have hsorted := List.perm_insertionSort (textLe · ·) (sweep.ready ++ [dependent])
        rw [hmoved]
        simp only [hone, decide_true, if_true]
        refine (hsorted.append_right _).trans ?_
        rw [List.append_assoc, List.singleton_append]
      · have hkept : (sweep.release dependent).ready = sweep.ready := by
          have hne : n - 1 ≠ 0 := by omega
          simp [Sweep.release, hn, hne]
        rw [hkept]
        simp [hone]

/-- **A round keeps what a sweep has found.** -/
theorem Swept.visit (wf : WellFormed tasks) {sweep : Sweep} (h : Swept tasks sweep) :
    Swept tasks (Sweep.visit tasks sweep) := by
  unfold Sweep.visit
  split
  · exact h
  · rename_i id rest hready
    have hnodup := h.nodup
    have hwaiting := h.waiting
    rw [hready] at hnodup hwaiting
    have hnew : id ∉ sweep.ordered := by
      intro hmem
      exact (List.nodup_append.mp hnodup).2.2 id hmem id List.mem_cons_self rfl
    have hsorted : (sortTexts (dependentsOf tasks id)).Nodup :=
      (List.perm_insertionSort _ _).nodup_iff.mpr (nodup_dependentsOf wf id)
    have hstored : ∀ x ∈ sortTexts (dependentsOf tasks id), ∃ n, sweep.indegree.get? x = some n := by
      intro x hx
      obtain ⟨task, htask, rfl, -⟩ := exists_of_mem_dependentsOf wf (mem_sortTexts.mp hx)
      exact ⟨_, h.indegree task htask⟩
    obtain ⟨hordered, hindegree, hperm⟩ := foldl_release hsorted
      { sweep with ready := rest, ordered := sweep.ordered ++ [id] } hstored
    generalize (sortTexts (dependentsOf tasks id)).foldl Sweep.release
      { sweep with ready := rest, ordered := sweep.ordered ++ [id] } = next at hordered hindegree hperm
    simp only at hordered hindegree hperm
    have hcount : ∀ task ∈ tasks, (openDependencies next.ordered task).length
        + (if id ∈ task.dependencyIds then 1 else 0) = (openDependencies sweep.ordered task).length := by
      intro task htask
      rw [hordered]
      exact length_openDependencies_concat (wf.dependencies task htask) hnew
    -- The tasks that begin to wait are those of which the visited one was the last open dependency.
    have hmoved : ∀ task ∈ tasks, task.id ∈ (sortTexts (dependentsOf tasks id)).filter
        (fun x => decide (sweep.indegree.get? x = some 1))
        ↔ id ∈ task.dependencyIds ∧ (openDependencies sweep.ordered task).length = 1 := by
      intro task htask
      rw [List.mem_filter, mem_sortTexts, mem_dependentsOf wf htask, decide_eq_true_eq, h.indegree task htask,
        Option.some.injEq]
      exact and_congr_right fun _ => by omega
    have hmem : ∀ x, x ∈ next.ordered ++ next.ready ↔ x ∈ sweep.ordered ++ id :: rest
        ∨ x ∈ (sortTexts (dependentsOf tasks id)).filter fun x => decide (sweep.indegree.get? x = some 1) := by
      intro x
      rw [hordered, List.mem_append, hperm.mem_iff]
      simp only [List.mem_append, List.mem_cons, List.not_mem_nil, or_false]
      tauto
    refine ⟨?_, ?_, ?_, ?_, ?_⟩
    · intro task htask
      have hlength := hcount task htask
      have hmem : task.id ∈ sortTexts (dependentsOf tasks id) ↔ id ∈ task.dependencyIds :=
        mem_sortTexts.trans (mem_dependentsOf wf htask)
      rw [hindegree, h.indegree task htask]
      by_cases hdepends : id ∈ task.dependencyIds
      · rw [if_pos hdepends] at hlength
        rw [if_pos (hmem.mpr hdepends), Option.map_some, Option.some.injEq]
        omega
      · rw [if_neg hdepends] at hlength
        rw [if_neg (hdepends ∘ hmem.mp), Option.some.injEq]
        omega
    · intro task htask
      have hlength := hcount task htask
      rw [hmem, hwaiting task htask, hmoved task htask]
      rw [← List.length_eq_zero_iff, ← List.length_eq_zero_iff]
      by_cases hdepends : id ∈ task.dependencyIds
      · rw [if_pos hdepends] at hlength
        simp only [hdepends, true_and]
        omega
      · rw [if_neg hdepends] at hlength
        simp only [hdepends, false_and, or_false]
        omega
    · intro x hx
      rcases (hmem x).mp hx with hx | hx
      · exact h.ids x (by rw [hready]; exact hx)
      · obtain ⟨task, htask, rfl, -⟩ :=
          exists_of_mem_dependentsOf wf (mem_sortTexts.mp (List.mem_filter.mp hx).1)
        exact List.mem_map_of_mem htask
    · have hall : (next.ordered ++ next.ready).Perm ((sweep.ordered ++ id :: rest)
          ++ (sortTexts (dependentsOf tasks id)).filter fun x => decide (sweep.indegree.get? x = some 1)) := by
        rw [hordered]
        refine (hperm.append_left _).trans ?_
        simp
      rw [hall.nodup_iff, List.nodup_append]
      refine ⟨hnodup, hsorted.filter _, ?_⟩
      rintro x hx y hy rfl
      obtain ⟨task, htask, rfl, -⟩ :=
        exists_of_mem_dependentsOf wf (mem_sortTexts.mp (List.mem_filter.mp hy).1)
      have hone := ((hmoved task htask).mp hy).2
      rw [(hwaiting task htask).mp hx] at hone
      cases hone
    · intro before other after heq task htask hid d hd
      rw [hordered] at heq
      rcases List.eq_nil_or_concat after with rfl | ⟨after', last, rfl⟩
      · obtain ⟨rfl, hlast⟩ := List.append_inj' heq rfl
        rw [List.cons.injEq] at hlast
        -- The task that is visited was waiting, so it has no open dependencies.
        have hopen := (hwaiting task htask).mp (by rw [hid, ← hlast.1]; simp)
        exact openDependencies_eq_nil.mp hopen d hd
      · rw [List.concat_eq_append, ← List.cons_append, ← List.append_assoc] at heq
        obtain ⟨heq, -⟩ := List.append_inj' heq rfl
        exact h.closed before other after' heq task htask hid d hd

/-! ## The start -/

/-- The counts of the dependencies, task by task. -/
theorem entries_indegree {counts : OrderedMap EntityId Int}
    (hids : (tasks.map CooTask.id).Nodup) (hfresh : ∀ task ∈ tasks, counts.get? task.id = none) :
    (tasks.foldl (fun counts task => counts.set task.id task.dependencyIds.length) counts).entries
      = counts.entries ++ tasks.map fun task => (task.id, (task.dependencyIds.length : Int)) := by
  induction tasks generalizing counts with
  | nil => simp
  | cons task rest ih =>
    rw [List.map_cons, List.nodup_cons] at hids
    rw [List.forall_mem_cons] at hfresh
    have hset : (counts.set task.id task.dependencyIds.length).entries
        = counts.entries ++ [(task.id, (task.dependencyIds.length : Int))] :=
      setEntry_of_lookup_none _ hfresh.1
    rw [List.foldl_cons, ih hids.2, hset, List.append_assoc, List.map_cons, List.singleton_append]
    intro other hother
    have hne : other.id ≠ task.id := fun heq => hids.1 (heq ▸ List.mem_map_of_mem hother)
    rw [OrderedMap.get?_set, if_neg hne]
    exact hfresh.2 other hother

theorem swept_start (wf : WellFormed tasks) : Swept tasks (Sweep.start tasks) := by
  have hentries : (Sweep.start tasks).indegree.entries
      = tasks.map fun task => (task.id, (task.dependencyIds.length : Int)) :=
    entries_indegree wf.ids fun _ _ => rfl
  have hopen : ∀ task : CooTask, openDependencies [] task = task.dependencyIds := by
    intro task
    simp [openDependencies]
  have hready : (Sweep.start tasks).ready.Perm
      ((tasks.filter fun task => decide (task.dependencyIds = [])).map CooTask.id) := by
    refine (List.perm_insertionSort _ _).trans ?_
    show (((Sweep.start tasks).indegree.entries.filter fun e => e.2 == 0).map Prod.fst).Perm _
    rw [hentries, List.filter_map, List.map_map]
    refine List.Perm.of_eq (congrArg₂ _ rfl (List.filter_congr fun task _ => ?_))
    rw [Bool.eq_iff_iff, Function.comp_apply, beq_iff_eq, decide_eq_true_eq, Int.natCast_eq_zero,
      List.length_eq_zero_iff]
  refine ⟨?_, ?_, ?_, ?_, ?_⟩
  · intro task htask
    show lookupEntry task.id (Sweep.start tasks).indegree.entries = some ((openDependencies [] task).length : Int)
    rw [lookupEntry_eq_some (OrderedMap.nodup_keys _), hentries]
    rw [hopen]
    exact List.mem_map.mpr ⟨task, htask, rfl⟩
  · intro task htask
    show task.id ∈ [] ++ (Sweep.start tasks).ready ↔ openDependencies [] task = []
    rw [List.nil_append, hready.mem_iff, List.mem_map, hopen]
    constructor
    · rintro ⟨other, hother, heq⟩
      rw [List.mem_filter, decide_eq_true_eq] at hother
      rw [← wf.eq_of_id hother.1 htask heq]
      exact hother.2
    · intro hnone
      exact ⟨task, List.mem_filter.mpr ⟨htask, decide_eq_true hnone⟩, rfl⟩
  · intro id hid
    have hid : id ∈ [] ++ (Sweep.start tasks).ready := hid
    rw [List.nil_append, hready.mem_iff, List.mem_map] at hid
    obtain ⟨task, htask, rfl⟩ := hid
    exact List.mem_map_of_mem (List.mem_filter.mp htask).1
  · show ([] ++ (Sweep.start tasks).ready).Nodup
    rw [List.nil_append, hready.nodup_iff]
    exact wf.ids.sublist (List.filter_sublist.map CooTask.id)
  · intro before id after heq
    have heq : [] = before ++ id :: after := heq
    simp at heq

/-! ## The order -/

theorem swept_iterate (wf : WellFormed tasks) (n : Nat) {sweep : Sweep}
    (h : Swept tasks sweep) : Swept tasks ((Sweep.visit tasks)^[n] sweep) := by
  induction n generalizing sweep with
  | zero => exact h
  | succ n ih =>
    rw [Function.iterate_succ_apply]
    exact ih (h.visit wf)

/-- **When all tasks were visited, each was visited once, after its dependencies.** -/
theorem topologicalOrder_spec (wf : WellFormed tasks)
    (h : (topologicalOrder tasks).length = tasks.length) : (topologicalOrder tasks).Perm (tasks.map CooTask.id)
    ∧ ∀ before id after, topologicalOrder tasks = before ++ id :: after →
      ∀ task ∈ tasks, task.id = id → ∀ d ∈ task.dependencyIds, d ∈ before := by
  have hswept := swept_iterate wf (tasks.length + 1) (swept_start wf)
  refine ⟨?_, hswept.closed⟩
  have hsubset : topologicalOrder tasks ⊆ tasks.map CooTask.id := by
    intro id hid
    exact hswept.ids id (List.mem_append_left _ hid)
  have hnodup : (topologicalOrder tasks).Nodup := (List.nodup_append.mp hswept.nodup).1
  refine (List.subperm_of_subset hnodup hsubset).perm_of_length_le ?_
  rw [List.length_map, h]

end VentureOS.Coo
