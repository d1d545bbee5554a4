import VentureOS.Coo.LongestPath
import VentureOS.Foundations.Prerequisites

/-! # Objectives do not deadlock

The tasks of every stored objective come in an order in which each is after its dependencies, so there is no cycle
(`Planned.acc`), and where no emission was refused a blocked task waits in the end for one that is not blocked. -/

namespace VentureOS.Coo

open ControlPlane Relation

variable {ω σ : Type} {governance : Governance ω σ}

/-- Below each stored task there are finitely many dependencies. -/
theorem Planned.acc {coo : GovernedAiCoo} (h : Planned governance coo) {task : CooTaskState} (htask : task ∈ coo.tasks) :
    Acc (flip (DependsOn coo)) task := by
  -- The induction is on the place of the task in the topological order of its objective.
  generalize hplace : (topologicalOrder (objectivePlan coo task.workspaceId task.objectiveId)).idxOf task.id = n
  induction n using Nat.strong_induction_on generalizing task with
  | _ n ih =>
    refine ⟨_, fun d ⟨hid, hget⟩ => ih _ ?_ (Store.mem_of_get? hget) rfl⟩
    obtain ⟨objective, hobjective⟩ := h.sound.objective task htask
    have howner : key objective.workspaceId objective.id = key task.workspaceId task.objectiveId :=
      Store.keyOf_of_get? hobjective
    obtain ⟨hworkspace, hown⟩ := key_inj.mp howner
    have hgraph := h.graphs objective (Store.mem_of_get? hobjective)
    rw [hworkspace, hown] at hgraph
    obtain ⟨hperm, hclosed⟩ := topologicalOrder_spec hgraph.wellFormed hgraph.acyclic
    obtain ⟨other, hother, hshared⟩ := h.sound.dependencies task htask d.id hid
    obtain rfl := Option.some.inj (hget.symm.trans hother)
    have hkey : key d.workspaceId d.id = key task.workspaceId d.id := Store.keyOf_of_get? hget
    rw [(key_inj.mp hkey).1, hshared, ← hplace]
    have hmem : task.toCooTask ∈ objectivePlan coo task.workspaceId task.objectiveId := by
      rw [objectivePlan_eq, objectiveTasks]
      exact List.mem_map_of_mem (List.mem_filter.mpr ⟨Store.mem_values.mpr htask, by simp⟩)
    obtain ⟨before, after, hsplit, hnot⟩ :=
      List.eq_append_cons_of_mem (hperm.mem_iff.mpr (List.mem_map_of_mem hmem))
    have hbefore := hclosed before task.id after hsplit _ hmem rfl d.id hid
    rw [hsplit, List.idxOf_append_of_mem hbefore, List.idxOf_append_of_notMem hnot, List.idxOf_cons_self]
    exact List.idxOf_lt_length_of_mem hbefore

/-- **Objectives do not deadlock.** Along every run no stored task depends on itself, in one step or in many; and where
no emission was ever refused, a blocked task depends, directly or not, on one that is ready, assigned or awaits
approval, or that failed or was stopped. -/
theorem blocked_tasks_depend_on_work (outside : ω) (sink : σ) (calls : List (Call ω σ)) :
    (∀ task, ¬ TransGen (DependsOn (reach governance outside sink calls).coo) task task)
    ∧ ((reach governance outside sink calls).refusals = 0 →
      ∀ task ∈ (reach governance outside sink calls).coo.tasks, task.status = .BLOCKED →
        ∃ dependency, TransGen (DependsOn (reach governance outside sink calls).coo) task dependency
          ∧ (dependency.status = .READY ∨ dependency.status = .ASSIGNED ∨ dependency.status = .AWAITING_APPROVAL
            ∨ dependency.status = .FAILED ∨ dependency.status = .STOPPED)) := by
  have hplanned := reach_planned governance outside sink calls
  refine ⟨fun task hcycle => ?_, fun hrefusals task htask hblocked => ?_⟩
  · obtain ⟨_, -, hlast⟩ := TransGen.tail'_iff.mp hcycle
    exact not_transGen_self (hplanned.acc (Store.mem_of_get? hlast.2)) hcycle
  · have hwaits : ∀ t, t ∈ (reach governance outside sink calls).coo.tasks ∧ t.status = .BLOCKED →
        ∃ d, DependsOn (reach governance outside sink calls).coo t d ∧ d.status ≠ .COMPLETED := by
      rintro t ⟨ht, hstatus⟩
      have hawake := reach_awake governance outside sink calls hrefusals t ht hstatus
      unfold DependenciesCompleted at hawake
      push Not at hawake
      obtain ⟨id, hid, hopen⟩ := hawake
      obtain ⟨d, hget, -⟩ := hplanned.sound.dependencies t ht id hid
      obtain rfl : d.id = id := (key_inj.mp (Store.keyOf_of_get? hget)).2
      exact ⟨d, ⟨hid, hget⟩, hopen d hget⟩
    obtain ⟨d, hpath, hopen, hfree⟩ := exists_not_waiting hwaits (hplanned.acc htask) ⟨htask, hblocked⟩
    obtain ⟨_, -, hlast⟩ := TransGen.tail'_iff.mp hpath
    have hfree : d.status ≠ .BLOCKED := fun h => hfree ⟨Store.mem_of_get? hlast.2, h⟩
    refine ⟨d, hpath, ?_⟩
    revert hopen hfree
    cases d.status <;> simp

end VentureOS.Coo
