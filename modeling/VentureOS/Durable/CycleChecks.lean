import Mathlib.Data.Fintype.Order
import VentureOS.Coo.Sweep
import VentureOS.Coo.System
import VentureOS.Durable.Planning

/-! # The two searches for cycles

The AI COO counts open dependencies, the validator of durable plans searches depth first. On a task graph both
accept iff no task depends on itself, in one step or in many (`coo_assertAcyclic_iff`, `assertAcyclic_iff`), and
both end: the sweep has nothing left that waits after as many rounds as there are tasks, and the search never runs
out of fuel, since the answer does not depend on what it would say then. -/

namespace VentureOS.Durable

open ControlPlane Coo Relation

/-! ## Graphs -/

/-- `a` depends on `b`, by tasks with their dependencies. -/
def DependsOn (graph : List (EntityId × List EntityId)) (a b : EntityId) : Prop :=
  ∃ node ∈ graph, node.1 = a ∧ b ∈ node.2

/-- Identifiers and the dependencies of each task are distinct, and all dependencies are tasks. A task may depend
on itself here: that is a cycle. -/
structure TaskGraph (graph : List (EntityId × List EntityId)) : Prop where
  ids : (graph.map Prod.fst).Nodup
  dependencies : ∀ node ∈ graph, node.2.Nodup
  linked : ∀ node ∈ graph, ∀ d ∈ node.2, d ∈ graph.map Prod.fst

/-- No task depends on itself, in one step or in many. -/
def NoCycle (graph : List (EntityId × List EntityId)) : Prop := ∀ id, ¬ TransGen (DependsOn graph) id id

/-- Nothing that only finitely many dependencies are below is on a cycle. -/
theorem noCycle_of_acc {graph : List (EntityId × List EntityId)}
    (h : ∀ id ∈ graph.map Prod.fst, Acc (flip (DependsOn graph)) id) : NoCycle graph := by
  intro id hcycle
  have hmem : id ∈ graph.map Prod.fst := by
    obtain ⟨d, ⟨node, hnode, rfl, -⟩, -⟩ := TransGen.head'_iff.mp hcycle
    exact List.mem_map_of_mem hnode
  have hback : TransGen (flip (DependsOn graph)) id id := transGen_swap.mp hcycle
  induction (h id hmem).transGen with
  | intro id _ ih => exact ih id hback hcycle hmem hback

/-- The two parts of a task that make the graph. -/
def cooNode (task : CooTask) : EntityId × List EntityId := (task.id, task.dependencyIds)

def durableNode (task : DurableTaskPlanInput) : EntityId × List EntityId := (task.id, task.dependencyIds)

/-! ## Counting -/

section Counting

variable {tasks : List CooTask}

theorem wellFormed_of_taskGraph (h : TaskGraph (tasks.map cooNode)) : WellFormed tasks where
  ids := by simpa [cooNode, Function.comp_def] using h.ids
  dependencies task htask := h.dependencies _ (List.mem_map_of_mem htask)
  linked task htask d hd := by
    simpa [cooNode, Function.comp_def] using h.linked _ (List.mem_map_of_mem htask) d hd

theorem dependsOn_coo {a b : EntityId} :
    DependsOn (tasks.map cooNode) a b ↔ ∃ task ∈ tasks, task.id = a ∧ b ∈ task.dependencyIds := by
  simp [DependsOn, cooNode]

theorem ordered_foldl_release (dependents : List EntityId) (sweep : Sweep) :
    (dependents.foldl Sweep.release sweep).ordered = sweep.ordered := by
  induction dependents generalizing sweep with
  | nil => rfl
  | cons dependent rest ih => exact ih _

/-- Every round visits a task, until none waits. -/
theorem length_ordered_iterate (n : Nat) : ((Sweep.visit tasks)^[n] (Sweep.start tasks)).ready = []
    ∨ ((Sweep.visit tasks)^[n] (Sweep.start tasks)).ordered.length = n := by
  induction n with
  | zero => exact Or.inr rfl
  | succ n ih =>
    rw [Function.iterate_succ_apply']
    generalize (Sweep.visit tasks)^[n] (Sweep.start tasks) = sweep at ih
    cases hready : sweep.ready with
    | nil => exact Or.inl (by simp [Sweep.visit, hready])
    | cons id rest =>
      have hlength := ih.resolve_left (by simp [hready])
      refine Or.inr ?_
      simp [Sweep.visit, hready, ordered_foldl_release, hlength]

/-- **The sweep ends**: after as many rounds as there are tasks, none waits. -/
theorem ready_iterate (wf : WellFormed tasks) :
    ((Sweep.visit tasks)^[tasks.length] (Sweep.start tasks)).ready = [] := by
  refine (length_ordered_iterate tasks.length).elim id fun hlength => ?_
  have hswept := swept_iterate wf tasks.length (swept_start wf)
  have hle := (List.subperm_of_subset hswept.nodup hswept.ids).length_le
  rw [List.length_append, List.length_map, hlength] at hle
  exact List.length_eq_zero_iff.mp (by omega)

/-- The tasks are swept, and none waits. -/
theorem swept_end (wf : WellFormed tasks) : ∃ sweep, Swept tasks sweep ∧ sweep.ready = []
    ∧ sweep.ordered = topologicalOrder tasks := by
  refine ⟨_, swept_iterate wf tasks.length (swept_start wf), ready_iterate wf, ?_⟩
  have hready := ready_iterate wf
  unfold topologicalOrder
  rw [Function.iterate_succ_apply']
  simp [Sweep.visit, hready]

/-- **The counting check** accepts iff there is no cycle. -/
theorem coo_assertAcyclic_iff (hgraph : TaskGraph (tasks.map cooNode)) :
    Coo.assertAcyclic tasks = .ok () ↔ NoCycle (tasks.map cooNode) := by
  have wf := wellFormed_of_taskGraph hgraph
  unfold Coo.assertAcyclic
  rw [throwIf_eq_ok, not_not]
  constructor
  · intro hlength
    obtain ⟨hperm, hclosed⟩ := topologicalOrder_spec wf hlength
    have hacc : ∀ before after, topologicalOrder tasks = before ++ after →
        ∀ id ∈ before, Acc (flip (DependsOn (tasks.map cooNode))) id := by
      intro before
      induction before using List.reverseRecOn with
      | nil => exact fun _ _ _ h => absurd h List.not_mem_nil
      | append_singleton before id ih =>
        intro after heq other hother
        rw [List.append_assoc] at heq
        rcases List.mem_append.mp hother with hother | hother
        · exact ih _ heq other hother
        · obtain rfl := List.mem_singleton.mp hother
          refine Acc.intro _ fun d hd => ?_
          obtain ⟨task, htask, hid, hdependency⟩ := dependsOn_coo.mp hd
          exact ih _ heq d (hclosed before other after heq task htask hid d hdependency)
    refine noCycle_of_acc fun id hid => hacc _ [] (List.append_nil _).symm id ?_
    rw [List.map_map] at hid
    exact hperm.mem_iff.mpr hid
  · intro hacyclic
    obtain ⟨sweep, hswept, hready, hordered⟩ := swept_end wf
    have hwaiting := hswept.waiting
    rw [hready, List.append_nil, hordered] at hwaiting
    -- Below a task that was not visited is another one, so a lowest one would be on a cycle.
    have hall : ∀ id ∈ tasks.map CooTask.id, id ∈ topologicalOrder tasks := by
      let r : {id // id ∈ tasks.map CooTask.id} → {id // id ∈ tasks.map CooTask.id} → Prop :=
        fun d id => TransGen (DependsOn (tasks.map cooNode)) id d
      have htrans : IsTrans _ r := ⟨fun _ _ _ h h' => h'.trans h⟩
      have hirrefl : Std.Irrefl r := ⟨fun id => hacyclic id⟩
      have hwf : WellFounded r := Finite.wellFounded_of_trans_of_irrefl r
      suffices h : ∀ id : {id // id ∈ tasks.map CooTask.id}, id.1 ∈ topologicalOrder tasks from
        fun id hid => h ⟨id, hid⟩
      intro id
      induction id using hwf.induction with
      | _ id ih =>
        obtain ⟨id, hid⟩ := id
        obtain ⟨task, htask, rfl⟩ := List.mem_map.mp hid
        rw [hwaiting task htask, openDependencies_eq_nil]
        intro d hd
        exact ih ⟨d, wf.linked task htask d hd⟩ (.single (dependsOn_coo.mpr ⟨task, htask, rfl, hd⟩))
    have hnodup : (topologicalOrder tasks).Nodup := hordered ▸ (List.nodup_append.mp hswept.nodup).1
    have hsubset : topologicalOrder tasks ⊆ tasks.map CooTask.id := fun id hid =>
      hswept.ids id (List.mem_append_left _ (hordered ▸ hid))
    have hle := (List.subperm_of_subset hnodup hsubset).length_le
    have hge := (List.subperm_of_subset wf.ids hall).length_le
    rw [List.length_map] at hle hge
    omega

end Counting

/-! ## Searching -/

section Searching

variable (tasks : List DurableTaskPlanInput)

/-- `visit`, with an answer of its own when the fuel is out. -/
def visitWithin (out : Except Failure (List EntityId)) :
    Nat → List EntityId → List EntityId → EntityId → Except Failure (List EntityId)
  | 0, _, _, _ => out
  | fuel + 1, visiting, visited, id =>
    if id ∈ visiting then
      .error (durableTaskRunPolicyError "Task dependency graph contains a cycle")
    else if id ∈ visited then .ok visited
    else
      match taskById tasks id with
      | none => .error (durableTaskRunPolicyError "Task references an unknown dependency")
      | some task => do
        let visited ← visitAll (visitWithin out fuel (id :: visiting)) id visited task.dependencyIds
        return id :: visited

/-- The last loop of `assertAcyclic`, with that `visit`. -/
def visitTasksWithin (out : Except Failure (List EntityId)) (visited : List EntityId) :
    List DurableTaskPlanInput → Except Failure Unit
  | [] => .ok ()
  | task :: rest => do
    let visited ← visitWithin tasks out (tasks.length + 1) [] visited task.id
    visitTasksWithin out visited rest

variable {tasks}

theorem visit_eq_visitWithin (fuel : Nat) : visit tasks fuel
    = visitWithin tasks (.error (durableTaskRunPolicyError "Task dependency graph contains a cycle")) fuel := by
  induction fuel with
  | zero => rfl
  | succ fuel ih =>
    funext visiting visited id
    simp only [visit, visitWithin, ih] <;> rfl

theorem visitTasks_eq_visitTasksWithin (visited : List EntityId) (rest : List DurableTaskPlanInput) :
    visitTasks tasks visited rest = visitTasksWithin tasks
      (.error (durableTaskRunPolicyError "Task dependency graph contains a cycle")) visited rest := by
  induction rest generalizing visited with
  | nil => rfl
  | cons task rest ih => simp only [visitTasks, visitTasksWithin, visit_eq_visitWithin, ih]

/-- The identifiers have finitely many dependencies below them. -/
def Settled (tasks : List DurableTaskPlanInput) (visited : List EntityId) : Prop :=
  ∀ id ∈ visited, Acc (flip (DependsOn (tasks.map durableNode))) id

/-- A part of the search has one answer, whatever it would say out of fuel: it visits these identifiers, or there
is a cycle. -/
def Settles (tasks : List DurableTaskPlanInput) (ids visited : List EntityId)
    (search : Except Failure (List EntityId) → Except Failure (List EntityId)) : Prop :=
  (∃ visited', (∀ out, search out = .ok visited') ∧ visited ⊆ visited' ∧ ids ⊆ visited' ∧ Settled tasks visited')
  ∨ ∃ e, (∀ out, search out = .error e) ∧ ¬ NoCycle (tasks.map durableNode)

theorem dependsOn_durable {a b : EntityId} :
    DependsOn (tasks.map durableNode) a b ↔ ∃ task ∈ tasks, task.id = a ∧ b ∈ task.dependencyIds := by
  simp [DependsOn, durableNode]

/-- The loop over the dependencies of a task. -/
theorem settles_visitAll {visit : Except Failure (List EntityId) → List EntityId → EntityId →
      Except Failure (List EntityId)} {id : EntityId} {dependencyIds : List EntityId}
    (hloop : ∀ d ∈ dependencyIds, DependsOn (tasks.map durableNode) id d)
    (hvisit : ∀ visited, Settled tasks visited → ∀ d ∈ dependencyIds,
      Settles tasks [d] visited fun out => visit out visited d)
    {visited : List EntityId} (hsettled : Settled tasks visited) :
    Settles tasks dependencyIds visited fun out => visitAll (visit out) id visited dependencyIds := by
  induction dependencyIds generalizing visited with
  | nil => exact Or.inl ⟨visited, fun _ => rfl, List.Subset.refl _, List.nil_subset _, hsettled⟩
  | cons d rest ih =>
    rw [List.forall_mem_cons] at hloop
    by_cases hself : d = id
    · refine Or.inr ⟨_, fun _ => by simp only [visitAll, throwIf, if_pos hself]; rfl, fun hacyclic => ?_⟩
      exact hacyclic id (.single (hself ▸ hloop.1))
    have hstep : ∀ out, visitAll (visit out) id visited (d :: rest)
        = visit out visited d >>= fun visited => visitAll (visit out) id visited rest := by
      intro out
      simp only [visitAll, throwIf, if_neg hself]
      rfl
    rcases hvisit visited hsettled d List.mem_cons_self with
      ⟨visited', hok, hsubset, hd, hsettled'⟩ | ⟨e, herror, hcycle⟩
    · rcases ih hloop.2 (fun visited hs d hd => hvisit visited hs d (List.mem_cons_of_mem _ hd)) hsettled' with
        ⟨last, hok', hsubset', hrest, hlast⟩ | ⟨e, herror, hcycle⟩
      · refine Or.inl ⟨last, fun out => (hstep out).trans ?_, fun _ hx => hsubset' (hsubset hx), ?_, hlast⟩
        · rw [show visit out visited d = .ok visited' from hok out]
          exact hok' out
        · exact List.cons_subset.mpr ⟨hsubset' (hd List.mem_cons_self), hrest⟩
      · refine Or.inr ⟨e, fun out => (hstep out).trans ?_, hcycle⟩
        rw [show visit out visited d = .ok visited' from hok out]
        exact herror out
    · refine Or.inr ⟨e, fun out => (hstep out).trans ?_, hcycle⟩
      rw [show visit out visited d = .error e from herror out]
      rfl

/-- What is found under the identifier of a task. -/
theorem exists_taskById {id : EntityId} (h : id ∈ tasks.map DurableTaskPlanInput.id) :
    ∃ task, taskById tasks id = some task := by
  obtain ⟨task, htask, rfl⟩ := List.mem_map.mp h
  refine Option.isSome_iff_exists.mp ?_
  rw [taskById, List.find?_isSome]
  exact ⟨task, List.mem_reverse.mpr htask, beq_self_eq_true _⟩

/-- A visit, while the tasks being visited lead to this one and the fuel is enough for the others. -/
theorem settles_visit (hgraph : TaskGraph (tasks.map durableNode)) {fuel : Nat} :
    ∀ {visiting visited : List EntityId} {id : EntityId}, tasks.length + 1 ≤ fuel + visiting.length →
      visiting.Nodup → visiting ⊆ tasks.map DurableTaskPlanInput.id →
      (∀ x ∈ visiting, TransGen (DependsOn (tasks.map durableNode)) x id) →
      id ∈ tasks.map DurableTaskPlanInput.id → Settled tasks visited →
      Settles tasks [id] visited fun out => visitWithin tasks out fuel visiting visited id := by
  induction fuel with
  | zero =>
    intro visiting visited id hfuel hnodup hsubset _ _ _
    have hle := (List.subperm_of_subset hnodup hsubset).length_le
    rw [List.length_map] at hle
    omega
  | succ fuel ih =>
    intro visiting visited id hfuel hnodup hsubset hpath hid hsettled
    by_cases hvisiting : id ∈ visiting
    · refine Or.inr ⟨_, fun _ => if_pos hvisiting, fun hacyclic => ?_⟩
      exact hacyclic id (hpath id hvisiting)
    by_cases hvisited : id ∈ visited
    · refine Or.inl ⟨visited, fun _ => (if_neg hvisiting).trans (if_pos hvisited), List.Subset.refl _, ?_, hsettled⟩
      exact List.cons_subset.mpr ⟨hvisited, List.nil_subset _⟩
    obtain ⟨task, hfound⟩ := exists_taskById hid
    obtain ⟨htask, rfl⟩ := taskById_eq_some hfound
    have hdepends : ∀ d ∈ task.dependencyIds, DependsOn (tasks.map durableNode) task.id d :=
      fun d hd => dependsOn_durable.mpr ⟨task, htask, rfl, hd⟩
    have hstep : ∀ out, visitWithin tasks out (fuel + 1) visiting visited task.id
        = visitAll (visitWithin tasks out fuel (task.id :: visiting)) task.id visited task.dependencyIds
          >>= fun visited => .ok (task.id :: visited) := by
      intro out
      rw [visitWithin, if_neg hvisiting, if_neg hvisited, hfound]
      rfl
    have hvisit : ∀ visited, Settled tasks visited → ∀ d ∈ task.dependencyIds, Settles tasks [d] visited
        fun out => visitWithin tasks out fuel (task.id :: visiting) visited d := by
      intro visited hs d hd
      apply ih
      · rw [List.length_cons]
        omega
      · exact List.nodup_cons.mpr ⟨hvisiting, hnodup⟩
      · exact List.cons_subset.mpr ⟨hid, hsubset⟩
      · exact List.forall_mem_cons.mpr ⟨.single (hdepends d hd), fun x hx => (hpath x hx).tail (hdepends d hd)⟩
      · simpa [durableNode, Function.comp_def] using hgraph.linked _ (List.mem_map_of_mem htask) d hd
      · exact hs
    rcases settles_visitAll hdepends hvisit hsettled with
      ⟨visited', hok, hsubset', hall, hsettled'⟩ | ⟨e, herror, hcycle⟩
    · refine Or.inl ⟨task.id :: visited', fun out => (hstep out).trans (by beta_reduce at hok; rw [hok]; rfl),
        fun _ hx => List.mem_cons_of_mem _ (hsubset' hx), ?_, ?_⟩
      · exact List.cons_subset.mpr ⟨List.mem_cons_self, List.nil_subset _⟩
      refine List.forall_mem_cons.mpr ⟨Acc.intro _ fun d hd => ?_, hsettled'⟩
      obtain ⟨other, hother, hsame, hdependency⟩ := dependsOn_durable.mp hd
      -- Identifiers are distinct, so the dependency is one of those visited.
      have hids : (tasks.map DurableTaskPlanInput.id).Nodup := by
        simpa [durableNode, Function.comp_def] using hgraph.ids
      obtain rfl := List.inj_on_of_nodup_map hids hother htask hsame
      exact hsettled' d (hall hdependency)
    · exact Or.inr ⟨e, fun out => (hstep out).trans (by beta_reduce at herror; rw [herror]; rfl), hcycle⟩

/-- The search over all tasks has one answer, and accepts iff there is no cycle. -/
theorem visitTasksWithin_spec (hgraph : TaskGraph (tasks.map durableNode)) {rest : List DurableTaskPlanInput}
    (hrest : rest ⊆ tasks) {visited : List EntityId} (hsettled : Settled tasks visited) :
    (∀ out, visitTasksWithin tasks out visited rest = .ok ()) ∧ Settled tasks (rest.map DurableTaskPlanInput.id)
    ∨ (∃ e, ∀ out, visitTasksWithin tasks out visited rest = .error e) ∧ ¬ NoCycle (tasks.map durableNode) := by
  induction rest generalizing visited with
  | nil => exact Or.inl ⟨fun _ => rfl, fun _ h => absurd h List.not_mem_nil⟩
  | cons task rest ih =>
    rw [List.cons_subset] at hrest
    have hvisit : Settles tasks [task.id] visited
        fun out => visitWithin tasks out (tasks.length + 1) [] visited task.id := by
      apply settles_visit hgraph
      · simp
      · exact List.nodup_nil
      · exact List.nil_subset _
      · exact fun _ h => absurd h List.not_mem_nil
      · exact List.mem_map_of_mem hrest.1
      · exact hsettled
    rcases hvisit with
      ⟨visited', hok, -, hid, hsettled'⟩ | ⟨e, herror, hcycle⟩
    · rcases ih hrest.2 hsettled' with ⟨hok', hall⟩ | ⟨⟨e, herror⟩, hcycle⟩
      · refine Or.inl ⟨fun out => ?_, List.forall_mem_cons.mpr ⟨hsettled' _ (hid List.mem_cons_self), hall⟩⟩
        rw [visitTasksWithin, show visitWithin tasks out (tasks.length + 1) [] visited task.id = _ from hok out]
        exact hok' out
      · refine Or.inr ⟨⟨e, fun out => ?_⟩, hcycle⟩
        rw [visitTasksWithin, show visitWithin tasks out (tasks.length + 1) [] visited task.id = _ from hok out]
        exact herror out
    · refine Or.inr ⟨⟨e, fun out => ?_⟩, hcycle⟩
      rw [visitTasksWithin, show visitWithin tasks out (tasks.length + 1) [] visited task.id = _ from herror out]
      rfl

/-- **The depth-first check** accepts iff there is no cycle, and never runs out of fuel. -/
theorem assertAcyclic_iff (hgraph : TaskGraph (tasks.map durableNode)) :
    (assertAcyclic tasks = .ok () ↔ NoCycle (tasks.map durableNode))
      ∧ ∀ out, visitTasksWithin tasks out [] tasks = assertAcyclic tasks := by
  rw [assertAcyclic, visitTasks_eq_visitTasksWithin]
  have hstart : Settled tasks [] := fun _ h => absurd h List.not_mem_nil
  rcases visitTasksWithin_spec hgraph (List.Subset.refl tasks) hstart with ⟨hok, hall⟩ | ⟨⟨e, herror⟩, hcycle⟩
  · refine ⟨iff_of_true (hok _) (noCycle_of_acc fun id hid => hall id ?_), fun out => by rw [hok, hok]⟩
    rwa [List.map_map] at hid
  · exact ⟨iff_of_false (by rw [herror]; nofun) hcycle, fun out => by rw [herror, herror]⟩

end Searching

/-- **The two cycle checks agree.** On task graphs with the same dependencies, listed in any order, both accept iff
there is no cycle. After as many rounds as there are tasks nothing waits in the first, and the second gives its
answer within its fuel. -/
theorem cycle_checks_agree {coo : List CooTask} {durable : List DurableTaskPlanInput}
    (hcoo : TaskGraph (coo.map cooNode)) (hdurable : TaskGraph (durable.map durableNode))
    (hsame : ∀ a b, DependsOn (coo.map cooNode) a b ↔ DependsOn (durable.map durableNode) a b) :
    (Coo.assertAcyclic coo = .ok () ↔ assertAcyclic durable = .ok ())
      ∧ (Coo.assertAcyclic coo = .ok () ↔ NoCycle (coo.map cooNode))
      ∧ ((Sweep.visit coo)^[coo.length] (Sweep.start coo)).ready = []
      ∧ ∀ out, visitTasksWithin durable out [] durable = assertAcyclic durable := by
  have hgraph : DependsOn (coo.map cooNode) = DependsOn (durable.map durableNode) := by
    funext a b
    exact propext (hsame a b)
  obtain ⟨hsearch, hfuel⟩ := assertAcyclic_iff hdurable
  have hcount := coo_assertAcyclic_iff hcoo
  refine ⟨?_, hcount, ready_iterate (wellFormed_of_taskGraph hcoo), hfuel⟩
  rw [hcount, hsearch, NoCycle, NoCycle, hgraph]

/-- Two tasks of which one depends on the other, in both orders. -/
theorem cycle_checks_agree_two :
    let coo := fun id dependencyIds => { Coo.Sample.task "o" [] with id := id, dependencyIds := dependencyIds }
    let durable := fun id dependencyIds => (⟨id, "p", "t", "quality.verify", dependencyIds, 3, ⟨"USD", 0, 0⟩, 1,
      ["x"], ["x"], ["s"], ⟨1, ["R"], ["S"]⟩, [], [], none⟩ : DurableTaskPlanInput)
    Coo.assertAcyclic [coo "a" [], coo "b" ["a"]] = .ok ()
      ↔ assertAcyclic [durable "b" ["a"], durable "a" []] = .ok () := by
  refine (cycle_checks_agree ⟨by decide, by decide, by decide⟩ ⟨by decide, by decide, by decide⟩ fun a b => ?_).1
  simp [DependsOn, cooNode, durableNode]

end VentureOS.Durable
