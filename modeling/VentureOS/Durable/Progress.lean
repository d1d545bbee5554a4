import VentureOS.Durable.Acceptance
import VentureOS.Durable.Dependencies

/-! # Durable plans do not deadlock

The validator accepts no plan with a cycle, plans do not depend on each other, and a dependency is never added to a
task that is there. So what the tasks of a reachable database depend on is well-founded (`acc_needs`), and a blocked
task waits in the end for one that can be worked on, or that was given up. -/

namespace VentureOS.Durable

open ControlPlane Relation Transaction

variable {sha256 : String → String} {dateParse : String → Option Int} {input : DurableObjectivePlanInput}

/-- The search over the tasks of an accepted plan has settled them all. -/
theorem settled_of_validate (h : validateDurableObjectivePlan input = .ok ()) :
    Settled input.tasks (input.tasks.map DurableTaskPlanInput.id) := by
  have hplan := validPlan_of_validate h
  simp only [validateDurableObjectivePlan, check_bind_eq_ok] at h
  obtain ⟨-, -, -, -, -, -, -, -, -, -, -, -, -, -, htasks, hacyclic⟩ := h
  have hgraph : TaskGraph (input.tasks.map durableNode) := by
    refine ⟨?_, ?_, ?_⟩
    · simpa [durableNode, Function.comp_def] using hplan.distinct
    · simpa [durableNode] using fun task htask => (checkedTask ((checkTasks_spec htasks).1 task htask).1).dependencies
    · simpa [durableNode, Function.comp_def] using hplan.known
  rcases visitTasksWithin_spec hgraph (List.Subset.refl _) (fun _ h => absurd h List.not_mem_nil)
    with ⟨-, hsettled⟩ | ⟨⟨e, he⟩, -⟩
  · exact hsettled
  · rw [assertAcyclic, visitTasks_eq_visitTasksWithin, he] at hacyclic
    cases hacyclic

/-- A plan is validated before anything else is done. -/
theorem validated_of_step {l : Label} {db : Database} {reply : Reply} (hcall : l.call = .createPlan input)
    (h : (step sha256 dateParse l db).1 = .ok reply) : validateDurableObjectivePlan input = .ok () := by
  obtain ⟨s', h, -⟩ := commits_of_step h
  unfold perform at h
  rw [hcall] at h
  simp only [createPlan, commits_check_bind] at h
  obtain ⟨_, hvalid, -⟩ := h
  exact hvalid

variable (sha256 dateParse)

/-- Below each task of a reachable database there are finitely many dependencies. -/
theorem acc_needs (ls : List Label) : ∀ k, Acc (flip (after sha256 dateParse ls).Needs) k := by
  refine run_induction (step sha256 dateParse) (P := fun db => ∀ k, Acc (flip db.Needs) k)
    (fun k => ⟨_, fun _ ⟨_, h, _⟩ => absurd h List.not_mem_nil⟩) (fun pre l hacc => ?_) ls
  change ∀ k, Acc (flip (after sha256 dateParse pre).Needs) k at hacc
  change ∀ k, Acc (flip (step sha256 dateParse l (after sha256 dateParse pre)).2.Needs) k
  rcases dependencies_of_effect (effect_of_step l (after sha256 dateParse pre))
    with hsame | ⟨reply, input, hreply, hcall, hplanned⟩
  · unfold Database.Needs at hacc ⊢
    rwa [hsame]
  -- What the tasks of the plan depend on is as the plan says, and the other tasks are older than the plan.
  have hnew : ∀ id, Acc (flip (DependsOn (input.tasks.map durableNode))) id → key input.workspaceId id ∈ planKeys input →
      Acc (flip (step sha256 dateParse l (after sha256 dateParse pre)).2.Needs) (key input.workspaceId id) := by
    intro id hid hk
    induction hid with
    | intro id _ ih =>
      refine ⟨_, fun d hneeds => ?_⟩
      rcases hplanned.needs hneeds with ⟨dependency, hold, hsame, -⟩ | ⟨task, htask, dependencyId, hdependency, hsame, rfl⟩
      · exact absurd (hsame ▸ hk) (hplanned.not_old (sound_after pre) hold)
      · obtain rfl := (key_inj.mp hsame).2
        obtain ⟨other, hother, rfl⟩ := List.mem_map.mp (hplanned.valid.known task htask dependencyId hdependency)
        exact ih other.id (dependsOn_durable.mpr ⟨task, htask, rfl, hdependency⟩) ⟨other, hother, rfl⟩
  intro k
  by_cases hk : k ∈ planKeys input
  · obtain ⟨task, htask, rfl⟩ := hk
    have hsettled := settled_of_validate (validated_of_step hcall hreply)
    exact hnew task.id (hsettled task.id (List.mem_map_of_mem htask)) ⟨task, htask, rfl⟩
  · induction hacc k with
    | intro k _ ih =>
      refine ⟨_, fun d hneeds => ?_⟩
      rcases hplanned.needs hneeds with hold | ⟨task, htask, -, -, rfl, -⟩
      · refine ih d hold fun hd => ((board_coherent pre).known k d hold).2 ?_
        exact congrArg (Option.map phaseOf) (hplanned.statusOf_fresh hd)
      · exact absurd ⟨task, htask, rfl⟩ hk

/-- **Durable plans do not deadlock.** After every history of calls no task depends on itself, in one step or in many,
and a blocked task waits, directly or not, for a task whose own dependencies are all completed and that can be worked
on, or was given up. -/
theorem blocked_tasks_wait_for_work (ls : List Label) : (∀ k, ¬ TransGen (after sha256 dateParse ls).Needs k k)
    ∧ ∀ k, (after sha256 dateParse ls).statusOf k = some .BLOCKED →
      ∃ d status, TransGen (after sha256 dateParse ls).Needs k d ∧ (after sha256 dateParse ls).statusOf d = some status
        ∧ (∀ d', (after sha256 dateParse ls).Needs d d' → (after sha256 dateParse ls).statusOf d' = some .COMPLETED)
        ∧ (status = .READY ∨ status = .AWAITING_APPROVAL ∨ status = .ASSIGNED ∨ status = .RUNNING
          ∨ status = .FAILED ∨ status = .STOPPED) := by
  have hacc := acc_needs sha256 dateParse ls
  refine ⟨fun k => not_transGen_self (hacc k), fun k hblocked => ?_⟩
  obtain ⟨d, hpath, hphase, hdone⟩ := (board_coherent ls).waits_for (hacc k) (board_blocked.mpr hblocked)
  have hphase : ∃ status, (after sha256 dateParse ls).statusOf d = some status
      ∧ (phaseOf status = .free ∨ phaseOf status = .dead) := by
    simp only [Database.board, Option.map_eq_some_iff] at hphase
    rcases hphase with ⟨status, hstatus, h⟩ | ⟨status, hstatus, h⟩
    · exact ⟨status, hstatus, .inl h⟩
    · exact ⟨status, hstatus, .inr h⟩
  obtain ⟨status, hstatus, hphase⟩ := hphase
  refine ⟨d, status, hpath, hstatus, fun d' hneeds => board_done.mp (hdone d' hneeds), ?_⟩
  cases status <;> simp [phaseOf] at hphase ⊢

end VentureOS.Durable
