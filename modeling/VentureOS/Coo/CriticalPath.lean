import VentureOS.Coo.Ceilings

/-! # The critical path of an accepted plan

`createPlan` ends with the critical path of the plan it has just stored. For an accepted plan that
computation never throws: the sweep runs over the tasks that `#assertAcyclic` ran over, and the
durations of at most a thousand tasks of at most a year each add up exactly. -/

namespace VentureOS.Coo

open ControlPlane Program

variable {ω σ : Type} {governance : Governance ω σ}

/-- The chains found so far last at most as long as the limit. -/
def ChainsWithin (best : OrderedMap EntityId Chain) (limit : Int) : Prop :=
  ∀ id chain, best.get? id = some chain → 0 ≤ chain.duration ∧ chain.duration ≤ limit

/-- The longest chain is one of the chains. -/
theorem mem_of_longestChain {chains : List Chain} {chain : Chain}
    (h : longestChain chains = some chain) : chain ∈ chains := by
  have hmem := List.mem_of_mem_head? h
  exact (List.mem_insertionSort _).mp hmem

/-- **Durations do not overflow.** If no task lasts longer than `maximum` and the chains found after
`count` tasks last at most `count` times as long, the chains of all further tasks are found. -/
theorem exists_longestPaths {tasks : List CooTask} {maximum : Int} (hmaximum : 0 ≤ maximum)
    (htasks : ∀ task ∈ tasks, 0 ≤ task.estimatedDurationMs ∧ task.estimatedDurationMs ≤ maximum)
    (ids : List EntityId) {best : OrderedMap EntityId Chain} {count : Int} (hcount : 0 ≤ count)
    (hbest : ChainsWithin best (count * maximum))
    (hlimit : (count + ids.length) * maximum ≤ maxSafeInteger) :
    ∃ all, longestPaths tasks best ids = .ok all := by
  induction ids generalizing best count with
  | nil => exact ⟨best, rfl⟩
  | cons id rest ih =>
    have hrest : (count + 1 + (rest.length : Int)) * maximum ≤ maxSafeInteger := by
      simpa [add_assoc, add_comm, add_left_comm] using hlimit
    have hstep : (count + 1) * maximum = count * maximum + maximum := by ring
    have hmore : 0 ≤ (rest.length : Int) * maximum :=
      mul_nonneg (Int.natCast_nonneg _) hmaximum
    have hbelow : count * maximum + maximum ≤ maxSafeInteger := by
      have hsplit : (count + 1 + (rest.length : Int)) * maximum
          = count * maximum + maximum + (rest.length : Int) * maximum := by ring
      omega
    rw [longestPaths]
    cases hfind : tasks.find? (fun task => task.id == id) with
    | none =>
      refine ih (by omega) (fun other chain hget => ?_) hrest
      have hchain := hbest other chain hget
      omega
    | some task =>
      obtain ⟨h0, hle⟩ := htasks task (List.mem_of_find?_eq_some hfind)
      -- The chain before the task is one found so far, or there is none.
      have hbefore : 0 ≤ ((longestChain (task.dependencyIds.filterMap best.get?)).map
            Chain.duration).getD 0
          ∧ ((longestChain (task.dependencyIds.filterMap best.get?)).map
            Chain.duration).getD 0 ≤ count * maximum := by
        cases hlongest : longestChain (task.dependencyIds.filterMap best.get?) with
        | none => exact ⟨le_rfl, mul_nonneg hcount hmaximum⟩
        | some chain =>
          obtain ⟨d, -, hd⟩ := List.mem_filterMap.mp (mem_of_longestChain hlongest)
          exact hbest d chain hd
      simp only
      generalize ((longestChain (task.dependencyIds.filterMap best.get?)).map
        Chain.duration).getD 0 = before at hbefore ⊢
      have hexact : addDouble task.estimatedDurationMs before
          = task.estimatedDurationMs + before :=
        roundDouble_eq_self (by omega) (by unfold maxSafeInteger at hbelow; omega)
      rw [hexact]
      have hsafe : isSafeInteger (task.estimatedDurationMs + before) = true := by
        simp only [isSafeInteger, decide_eq_true_eq]
        unfold maxSafeInteger at hbelow ⊢
        omega
      rw [show throwIf (isSafeInteger (task.estimatedDurationMs + before) = false)
        (aiCooPolicyError "Critical path exceeds numeric bounds") = .ok () from
          throwIf_eq_ok.mpr (by simp [hsafe])]
      refine ih (by omega) (fun other chain hget => ?_) hrest
      rw [OrderedMap.get?_set] at hget
      split at hget
      · rw [Option.some.injEq] at hget
        rw [← hget, hstep]
        show 0 ≤ task.estimatedDurationMs + before
          ∧ task.estimatedDurationMs + before ≤ count * maximum + maximum
        omega
      · have hchain := hbest other chain hget
        omega

variable (governance) in
/-- **The bounds of the company make all sums of durations safe**: the chains of a graph of its plans are found. -/
theorem exists_best {tasks : List CooTask} (hcount : tasks.length ≤ governance.options.maximumTasksPerObjective)
    (htasks : ∀ task ∈ tasks, 0 ≤ task.estimatedDurationMs
      ∧ task.estimatedDurationMs ≤ governance.options.maximumTaskDurationMs)
    (hacyclic : (topologicalOrder tasks).length = tasks.length) :
    ∃ best, longestPaths tasks OrderedMap.empty (topologicalOrder tasks) = .ok best := by
  have hgoverned := governance.governed
  simp only [checkOptions, check_bind_eq_ok, integer_eq_ok] at hgoverned
  obtain ⟨-, -, hmaximum, -, hduration, -⟩ := hgoverned
  refine exists_longestPaths hduration.2.1 htasks _ (le_refl 0) (fun id chain hget => ?_) ?_
  · rw [OrderedMap.get?_empty] at hget
    cases hget
  · have hlength : ((topologicalOrder tasks).length : Int) ≤ 1000 := by
      rw [hacyclic]
      exact hcount.trans hmaximum.2.2
    rw [zero_add]
    calc ((topologicalOrder tasks).length : Int) * governance.options.maximumTaskDurationMs
        ≤ 1000 * (365 * 24 * 60 * 60 * 1000) :=
          mul_le_mul hlength hduration.2.2 hduration.2.1 (by norm_num)
      _ ≤ maxSafeInteger := by unfold maxSafeInteger; norm_num

/-- **The critical path of an accepted plan** is computed, whatever events and cards were added since
the plan was stored. -/
theorem exists_criticalPath {coo coo' : GovernedAiCoo} {context : WorkspaceContext}
    {plan : ObjectivePlan} (sound : Sound coo)
    (hchecked : checkPlan governance coo context plan = .ok ())
    (hsame : SameGraph (coo.addPlan context.workspaceId plan) coo') :
    ∃ report, criticalPath governance coo' context plan.objective.id = .ok report := by
  have new := newPlan hchecked
  have hplanner : assertPlanner governance context = .ok () := by
    simp only [checkPlan, check_bind_eq_ok] at hchecked
    exact hchecked.1
  have hobjective : requireObjective coo' context plan.objective.id = .ok plan.objective := by
    rw [requireObjective_eq_ok, hsame.objectives]
    show (coo.objectives.put plan.objective).get? _ = _
    rw [Store.get?_put, if_pos]
    show _ = key plan.objective.workspaceId plan.objective.id
    rw [new.valid.workspace]
  have hgraph : (objectiveTasks coo' context.workspaceId plan.objective.id).map
      CooTaskState.toCooTask = plan.tasks := by
    rw [← objectivePlan_eq, objectivePlan, hsame.tasks, ← objectivePlan,
      new.objectivePlan sound context.workspaceId plan.objective.id, if_pos ⟨rfl, rfl⟩]
  obtain ⟨best, hbest⟩ := exists_best governance new.valid.count (fun task htask =>
    ⟨(new.valid.valid task htask).duration.2.1, (new.valid.valid task htask).duration.2.2⟩) new.valid.acyclic
  unfold criticalPath
  simp only [hgraph]
  refine ⟨_, except_bind_eq_ok.mpr ⟨(), hplanner, except_bind_eq_ok.mpr ⟨_, hobjective,
    except_bind_eq_ok.mpr ⟨(), throwIf_eq_ok.mpr ?_, except_bind_eq_ok.mpr ⟨best, hbest, rfl⟩⟩⟩⟩⟩
  exact not_not.mpr new.valid.acyclic

end VentureOS.Coo
