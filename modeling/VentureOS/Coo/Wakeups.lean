import VentureOS.Coo.Dependencies

/-! # Wake-ups

A blocked task is woken when the last of its dependencies completes: `completeTask` refreshes every
task of the objective after it has announced the completion. A refused announcement ends the call
before that, and then a task may stay blocked with all its dependencies completed. `Awake` says that
no task does; it holds in every state reached without a refused emission (`reach_awake`). -/

namespace VentureOS.Coo

open ControlPlane Program Relation

variable {ω σ : Type} {governance : Governance ω σ}

/-- No blocked task has all its dependencies completed. -/
def Awake (coo : GovernedAiCoo) : Prop :=
  ∀ task ∈ coo.tasks, task.status = .BLOCKED → ¬ DependenciesCompleted coo task.toCooTask

/-- Every task completed afterwards was completed before. -/
def NoneCompleted (coo coo' : GovernedAiCoo) : Prop :=
  ∀ k task', coo'.tasks.get? k = some task' → task'.status = .COMPLETED →
    ∃ task, coo.tasks.get? k = some task ∧ task.status = .COMPLETED

variable {coo coo' : GovernedAiCoo}

theorem NoneCompleted.dependencies {task : CooTask}
    (h : NoneCompleted coo coo') (hcompleted : DependenciesCompleted coo' task) :
    DependenciesCompleted coo task := by
  intro d hd
  obtain ⟨dependency, hget, hstatus⟩ := hcompleted d hd
  exact h _ _ hget hstatus

/-- Replacing a task by one that is not completed completes none. -/
theorem noneCompleted_put {new : CooTaskState}
    (tasks : coo'.tasks = coo.tasks.put new) (hnew : new.status ≠ .COMPLETED) :
    NoneCompleted coo coo' := by
  intro k task' hget hstatus
  rw [tasks, Store.get?_put] at hget
  split at hget
  · rw [Option.some.injEq] at hget
    exact absurd (hget ▸ hstatus) hnew
  · exact ⟨task', hget, hstatus⟩

/-- Replacing one task by one that is not completed keeps the others awake, and the new one is. -/
theorem Change.awake {old new : CooTaskState}
    (change : Change coo old new) (tasks : coo'.tasks = coo.tasks.put new)
    (hnew : new.status ≠ .COMPLETED) (hawake : Awake coo) : Awake coo' := by
  intro task htask hblocked hcompleted
  have hbefore := (noneCompleted_put tasks hnew).dependencies hcompleted
  rw [tasks] at htask
  rcases Store.mem_put.mp htask with rfl | ⟨hold, -⟩
  · rw [change.same] at hbefore
    exact change.blocked hblocked hbefore
  · exact hawake task hold hblocked hbefore

variable {context : WorkspaceContext}

/-- Adding a new plan keeps all tasks awake: what it blocks depends on its own new tasks. -/
theorem NewPlan.awake {plan : ObjectivePlan}
    (new : NewPlan governance coo context plan) (sound : Sound coo) (hawake : Awake coo) :
    Awake (coo.addPlan context.workspaceId plan) := by
  have hnew : ∀ t, initialStatus t ≠ .COMPLETED := by
    intro t
    unfold initialStatus
    split_ifs <;> simp
  have hnone : NoneCompleted coo (coo.addPlan context.workspaceId plan) := by
    intro k task' hget hstatus
    rcases (new.mem_tasks sound.registered).mp (Store.mem_of_get? hget) with hold | ⟨t, -, rfl⟩
    · rw [← Store.keyOf_of_get? hget]
      exact ⟨task', hold, hstatus⟩
    · exact absurd hstatus (hnew t)
  intro task htask hblocked hcompleted
  rcases (new.mem_tasks sound.registered).mp htask with hold | ⟨t, ht, rfl⟩
  · exact hawake task hold hblocked (hnone.dependencies hcompleted)
  · -- A new task is blocked only if it names a dependency, which is another new task.
    have hdeps : t.dependencyIds ≠ [] := by
      have hstatus : initialStatus t = .BLOCKED := hblocked
      rintro hnil
      unfold initialStatus at hstatus
      split_ifs at hstatus
      simp_all
    obtain ⟨d, hd⟩ := List.exists_mem_of_ne_nil _ hdeps
    obtain ⟨dependency, hget, hstatus⟩ := hnone.dependencies hcompleted d hd
    obtain ⟨hin, -⟩ := new.valid.dependencies t ht d hd
    obtain ⟨t', ht', rfl⟩ := List.mem_map.mp hin
    have hfresh := new.fresh sound.registered (storedTask t') (List.mem_map_of_mem ht')
    have hkey : keyOf (K := Key) (storedTask t') = key t.workspaceId t'.id := by
      show key t'.workspaceId t'.id = _
      rw [(new.valid.linkage t ht).1, (new.valid.linkage t' ht').1]
    rw [hkey] at hfresh
    have hget' : coo.tasks.get? (key t.workspaceId t'.id) = some dependency := hget
    rw [hfresh] at hget'
    cases hget'

/-- Every write but the completion of a task keeps all tasks awake. -/
theorem Write.awake {call : Call ω σ}
    (h : Write governance call coo coo')
    (hcall : ∀ context taskId evidence, call ≠ .completeTask context taskId evidence)
    (sound : Sound coo) (hawake : Awake coo) : Awake coo' := by
  cases h with
  | record event => exact hawake
  | card card => exact hawake
  | plan checked => exact (newPlan checked).awake sound hawake
  | @refresh _ _ _ _ _ dependencies found waiting resolved =>
    refine (change_refresh found waiting resolved).awake rfl ?_ hawake
    show readiness dependencies ≠ .COMPLETED
    rcases readiness_cases dependencies with h | h <;> simp [h]
  | assign unconsumed found checked agentId runtime =>
    exact (change_assign checked agentId runtime).awake rfl (by simp [assignedTask]) hawake
  | charge checked =>
    obtain ⟨-, hassigned, hcost, hcompute, hexceeds⟩ := checkUsage_ok checked
    exact (change_charge hassigned hcost hcompute hexceeds).awake rfl
      (by simp [chargedTask, hassigned]) hawake
  | complete checked => exact absurd rfl (hcall _ _ _)
  | @fail _ _ _ failureCode task checked =>
    obtain ⟨-, hassigned⟩ := checkFailure_ok checked
    refine (change_fail hassigned).awake rfl ?_ hawake
    show failureStatus task failureCode ≠ .COMPLETED
    rcases failureStatus_cases task failureCode with h | h | ⟨h, -⟩ <;> simp [h]

/-- The writes of a call that completes no task keep all tasks awake. -/
theorem Writes.awake {call : Call ω σ}
    (h : Writes governance call coo coo')
    (hcall : ∀ context taskId evidence, call ≠ .completeTask context taskId evidence)
    (sound : Sound coo) (hawake : Awake coo) : Awake coo' :=
  (Writes.preserves governance (I := fun c => Sound c ∧ Awake c)
    (fun _ _ hwrite hc => ⟨hwrite.effect.sound hc.1, hwrite.awake hcall hc.1 hc.2⟩) h
    ⟨sound, hawake⟩).2

/-! ## Refreshing one task -/

/-- The dependencies of a stored task are found. -/
theorem Sound.requireDependencies {coo : GovernedAiCoo} {context : WorkspaceContext}
    {task : CooTaskState} {taskId : EntityId} (sound : Sound coo)
    (found : coo.tasks.get? (key context.workspaceId taskId) = some task) :
    ∃ dependencies, requireDependencies coo context task.toCooTask = .ok dependencies := by
  have hkey : key task.workspaceId task.id = key context.workspaceId taskId :=
    Store.keyOf_of_get? found
  refine exists_mapM_eq_ok fun d hd => ?_
  obtain ⟨dependency, hget, -⟩ := sound.dependencies task (Store.mem_of_get? found) d hd
  rw [(key_inj.mp hkey).1] at hget
  exact ⟨dependency, requireTask_eq_ok.mpr hget⟩

variable {w : World ω σ}

variable {task : CooTaskState}

/-- **Refreshing a task** in a sound graph. A waiting task gets the readiness of its dependencies, any
other is left alone; only a refused emission throws. -/
theorem refreshTaskReadiness_spec {taskId : EntityId} (sound : Sound w.coo)
    (found : w.coo.tasks.get? (key context.workspaceId taskId) = some task) :
    Ensures (refreshTaskReadiness governance context taskId) w (fun r w' =>
      (match r with
        | .ok _ => w'.refusals = w.refusals
        | .error _ => w.refusals < w'.refusals)
      ∧ (w'.coo = w.coo ∧ task.status ≠ .BLOCKED ∨
        ∃ dependencies, requireDependencies w.coo context task.toCooTask = .ok dependencies
          ∧ (task.status = .BLOCKED ∨ task.status = .READY)
          ∧ w'.coo.tasks = w.coo.tasks.put { task with status := readiness dependencies })) := by
  unfold refreshTaskReadiness
  rw [ensures_readCoo_bind, requireTask_eq_ok.mpr found, ensures_ok_bind]
  split
  next hwaiting =>
    obtain ⟨dependencies, hdeps⟩ := sound.requireDependencies found
    rw [hdeps, ensures_ok_bind, ensures_writeCoo_bind]
    split
    · refine (emit_spec governance context _ _).mono fun r w' hw => ?_
      obtain ⟨-, hr⟩ := hw
      cases r with
      | error e =>
        refine ⟨?_, Or.inr ⟨dependencies, rfl, hwaiting, ?_⟩⟩
        · show w.refusals < w'.refusals
          rw [hr.1]
          exact Nat.lt_succ_self _
        · rw [hr.2]
          rfl
      | ok u =>
        obtain ⟨hrefusals, id, occurredAt, hcoo⟩ := hr
        refine ⟨hrefusals, Or.inr ⟨dependencies, rfl, hwaiting, ?_⟩⟩
        rw [hcoo]
        rfl
    · exact ⟨rfl, Or.inr ⟨dependencies, rfl, hwaiting, rfl⟩⟩
  next hwaiting =>
    exact ⟨rfl, Or.inl ⟨rfl, fun h => hwaiting (Or.inl h)⟩⟩

/-! ## Refreshing an objective -/

/-- The loop of `completeTask` over the tasks of an objective, with `done` refreshed and no emission
refused: only tasks of the objective that are not done yet may be blocked with all their
dependencies completed. -/
structure Waking (start : World ω σ) (workspaceId objectiveId : EntityId)
    (done : List CooTaskState) (w : World ω σ) : Prop where
  refusals : w.refusals = start.refusals
  sound : Sound w.coo
  later : Later start.coo w.coo
  /-- No task is added. -/
  known : ∀ task ∈ w.coo.tasks, ∃ t ∈ start.coo.tasks, t.toCooTask = task.toCooTask
  asleep : ∀ task ∈ w.coo.tasks, task.status = .BLOCKED →
    DependenciesCompleted w.coo task.toCooTask →
    task.workspaceId = workspaceId ∧ task.objectiveId = objectiveId ∧ task.id ∉ done.map (fun t => t.id)

variable {start : World ω σ}

/-- One iteration refreshes one more task, or an emission is refused. -/
theorem Waking.next {objectiveId : EntityId} {done : List CooTaskState} {candidate : CooTaskState}
    (h : Waking start context.workspaceId objectiveId done w)
    (hcandidate : candidate ∈ start.coo.tasks)
    (hworkspace : candidate.workspaceId = context.workspaceId) :
    Ensures (refreshTaskReadiness governance context candidate.id) w (fun r w' => match r with
      | .ok _ => Waking start context.workspaceId objectiveId (done ++ [candidate]) w'
      | .error _ => start.refusals < w'.refusals) := by
  have hget : start.coo.tasks.get? (key context.workspaceId candidate.id) = some candidate := by
    rw [← hworkspace]
    exact hcandidate
  obtain ⟨task, found, hsame, -⟩ := h.later _ _ hget
  have hwithin : Within governance (.sinkChanged w.sink) _ :=
    within_refreshTaskReadiness context candidate.id
  refine ((refreshTaskReadiness_spec h.sound found).and (hwithin w)).mono fun r w' hr => ?_
  obtain ⟨⟨hrefusals, hstate⟩, hmoves⟩ := hr
  cases r with
  | error e => exact h.refusals ▸ hrefusals
  | ok u =>
    obtain ⟨hsound, hlater⟩ := hmoves.writes.sound h.sound
    refine ⟨hrefusals.trans h.refusals, hsound, h.later.trans hlater, ?_, ?_⟩
    · -- A refresh replaces a task at most.
      intro t ht
      rcases hstate with ⟨hcoo, -⟩ | ⟨dependencies, -, -, htasks⟩
      · exact h.known t (hcoo ▸ ht)
      · rw [htasks] at ht
        rcases Store.mem_put.mp ht with rfl | ⟨hold, -⟩
        · exact h.known task (Store.mem_of_get? found)
        · exact h.known t hold
    · intro t ht hblocked hcompleted
      rcases hstate with ⟨hcoo, hnot⟩ | ⟨dependencies, hdeps, hwaiting, htasks⟩
      · rw [hcoo] at ht hcompleted
        obtain ⟨hw, ho, hdone⟩ := h.asleep t ht hblocked hcompleted
        refine ⟨hw, ho, ?_⟩
        rw [List.map_append, List.mem_append, not_or]
        refine ⟨hdone, fun hid => ?_⟩
        -- The task just refreshed is not blocked.
        have hid' : t.id = candidate.id := by simpa using hid
        have htask : w.coo.tasks.get? (key context.workspaceId candidate.id) = some t := by
          rw [← hid', ← hw]
          exact ht
        rw [found, Option.some.injEq] at htask
        exact hnot (htask ▸ hblocked)
      · have hchange := change_refresh found hwaiting hdeps
        have hready : readiness dependencies ≠ .COMPLETED := by
          rcases readiness_cases dependencies with hc | hc <;> simp [hc]
        have hbefore := (noneCompleted_put htasks hready).dependencies hcompleted
        rw [htasks] at ht
        rcases Store.mem_put.mp ht with rfl | ⟨hold, hne⟩
        · exact absurd hbefore (hchange.blocked hblocked)
        · obtain ⟨hw, ho, hdone⟩ := h.asleep t hold hblocked hbefore
          refine ⟨hw, ho, ?_⟩
          rw [List.map_append, List.mem_append, not_or]
          refine ⟨hdone, fun hid => hne ?_⟩
          have hid' : t.id = candidate.id := by simpa using hid
          have hkey : key task.workspaceId task.id = key context.workspaceId candidate.id :=
            Store.keyOf_of_get? found
          show key t.workspaceId t.id = key task.workspaceId task.id
          rw [hkey, hw, hid']

/-- A completed task can only have been the last dependency of tasks of its objective. -/
theorem waking_start (sound : Sound w.coo)
    (hawake : Awake w.coo) (hfound : task ∈ w.coo.tasks) (hsound : Sound start.coo)
    (htasks : start.coo.tasks = w.coo.tasks.put { task with status := .COMPLETED }) :
    Waking start task.workspaceId task.objectiveId [] start := by
  refine ⟨rfl, hsound, Later.refl _, fun t ht => ⟨t, ht, rfl⟩, fun t ht hblocked hcompleted => ?_⟩
  rw [htasks] at ht
  rcases Store.mem_put.mp ht with rfl | ⟨hold, -⟩
  · cases hblocked
  · by_contra hother
    refine hawake t hold hblocked fun d hd => ?_
    obtain ⟨dependency, hget, hstatus⟩ := hcompleted d hd
    rw [htasks, Store.get?_put] at hget
    split at hget
    next hkey =>
      -- The dependency is the completed task, so the two share the objective.
      have hkey' : key t.workspaceId d = key task.workspaceId task.id := hkey
      obtain ⟨hw, hid⟩ := key_inj.mp hkey'
      obtain ⟨before, hbefore, hobjective⟩ := sound.dependencies t hold d hd
      rw [hkey', show w.coo.tasks.get? (key task.workspaceId task.id) = some task from hfound,
        Option.some.injEq] at hbefore
      refine absurd ⟨hw, ?_, by simp⟩ hother
      rw [← hobjective, ← hbefore]
    next => exact ⟨dependency, hget, hstatus⟩

/-- Once all tasks of the objective are refreshed, no task sleeps. -/
theorem Waking.awake {workspaceId objectiveId : EntityId} (h : Waking start workspaceId objectiveId
      (objectiveTasks start.coo workspaceId objectiveId) w) : Awake w.coo := by
  intro task htask hblocked hcompleted
  obtain ⟨hw, ho, hnot⟩ := h.asleep task htask hblocked hcompleted
  obtain ⟨t, ht, hsame⟩ := h.known task htask
  refine hnot (List.mem_map.mpr ⟨t, ?_, by rw [hsame]⟩)
  simp only [objectiveTasks, List.mem_filter, Store.mem_values, decide_eq_true_eq]
  rw [hsame]
  exact ⟨ht, hw, ho⟩

/-- **Completing a task** wakes the tasks it was the last dependency of, unless an emission is
refused. -/
theorem completeTask_awake (context : WorkspaceContext) (taskId : EntityId)
    (evidence : List VerificationEvidence) (sound : Sound w.coo)
    (hawake : Awake w.coo) :
    Ensures (completeTask governance context taskId evidence) w (fun _ w' =>
      w'.refusals = w.refusals → Awake w'.coo) := by
  unfold completeTask
  rw [ensures_readCoo_bind, ensures_lift_bind]
  refine ⟨fun _ _ _ => hawake, fun task hchecked => ?_⟩
  obtain ⟨hget, hassigned⟩ := checkCompletable_ok hchecked
  have hfound := Store.mem_of_get? hget
  have hkey : key task.workspaceId task.id = key context.workspaceId taskId :=
    Store.keyOf_of_get? hget
  rw [ensures_bind]
  refine (onOutside_coo _ w).mono fun r w₁ hw₁ => ?_
  obtain ⟨hcoo₁, hrefusals₁⟩ := hw₁
  cases r with
  | error e => exact fun _ => hcoo₁ ▸ hawake
  | ok u =>
    show Ensures (liftM _ >>= _) w₁ _
    rw [ensures_lift_bind]
    refine ⟨fun _ _ _ => hcoo₁ ▸ hawake, fun _ _ => ?_⟩
    rw [ensures_writeCoo_bind, ensures_bind]
    refine (emit_spec governance context _ _).mono fun r w₂ hw₂ => ?_
    obtain ⟨-, hr⟩ := hw₂
    cases r with
    | error e =>
      intro hsame
      have hmore : w₂.refusals = w₁.refusals + 1 := hr.1
      omega
    | ok u =>
      obtain ⟨hrefusals₂, id, occurredAt, hcoo₂⟩ := hr
      have hrefusals : w₂.refusals = w.refusals := hrefusals₂.trans hrefusals₁
      have htasks : w₂.coo.tasks = w.coo.tasks.put { task with status := .COMPLETED } := by
        rw [hcoo₂]
        show w₁.coo.tasks.put _ = _
        rw [hcoo₁]
      have hsound₂ : Sound w₂.coo := by
        rw [hcoo₂]
        have hwrite : Write governance (.completeTask context taskId evidence) w₁.coo _ :=
          Write.complete (hcoo₁ ▸ hchecked)
        exact (hwrite.effect.sound (hcoo₁ ▸ sound)).record _
      have hstart := waking_start sound hawake hfound hsound₂ htasks
      rw [(key_inj.mp hkey).1] at hstart
      show Ensures (readCoo >>= _) w₂ _
      rw [ensures_readCoo_bind]
      -- Each iteration refreshes one more task of the objective.
      refine (ensures_forM (E := fun _ w' => w₂.refusals < w'.refusals)
        (fun done candidate rest hl w' hI => ?_) hstart).mono fun r w' hr => ?_
      · have hmem : candidate ∈ objectiveTasks w₂.coo context.workspaceId task.objectiveId := by
          rw [← hl]
          simp
        simp only [objectiveTasks, List.mem_filter, Store.mem_values, decide_eq_true_eq] at hmem
        refine Ensures.mono (hI.next hmem.1 hmem.2.1) fun r w'' hr => ?_
        cases r with
        | ok u => exact hr
        | error e => exact hr
      · cases r with
        | ok u => exact fun _ => hr.awake
        | error e =>
          intro hsame
          have hmore : w₂.refusals < w'.refusals := hr
          omega

/-! ## Runs -/

/-- A label keeps all tasks awake unless it has an emission refused. -/
theorem perform_awake (call : Call ω σ) (sound : Sound w.coo)
    (hawake : Awake w.coo) (hrefusals : (perform governance call w).2.refusals = w.refusals) :
    Awake (perform governance call w).2.coo := by
  by_cases hcall : ∃ context taskId evidence, call = .completeTask context taskId evidence
  · obtain ⟨context, taskId, evidence, rfl⟩ := hcall
    have hspec : Ensures (answer governance (.completeTask context taskId evidence)) w
        (fun _ w' => w'.refusals = w.refusals → Awake w'.coo) := by
      show Ensures (completeTask governance context taskId evidence >>= _) w _
      rw [ensures_bind]
      refine (completeTask_awake context taskId evidence sound hawake).mono fun r w' hw => ?_
      cases r with
      | error e => exact hw
      | ok u => exact hw
    exact hspec hrefusals
  · simp only [not_exists] at hcall
    exact (perform_moves governance call w).writes.awake hcall sound hawake

variable (governance)

/-- **No lost wake-up** where no emission was ever refused. -/
theorem reach_awake (outside : ω) (sink : σ) (calls : List (Call ω σ))
    (hrefusals : (reach governance outside sink calls).refusals = 0) :
    Awake (reach governance outside sink calls).coo := by
  induction calls using List.reverseRecOn with
  | nil => exact fun task htask => absurd htask (Store.not_mem_empty task)
  | append_singleton calls call ih =>
    have hmoves := perform_moves governance call (reach governance outside sink calls)
    unfold reach at hrefusals ⊢
    rw [run_concat] at hrefusals ⊢
    have hbefore : (reach governance outside sink calls).refusals = 0 :=
      Nat.le_zero.mp (hrefusals ▸ hmoves.refusals)
    exact perform_awake call (reach_sound governance outside sink calls) (ih hbefore)
      (hrefusals.trans hbefore.symm)

/-! ## Dependency soundness -/

/-- The first task names the second as a dependency. -/
def DependsOn (coo : GovernedAiCoo) (task dependency : CooTaskState) : Prop :=
  dependency.id ∈ task.dependencyIds
    ∧ coo.tasks.get? (key task.workspaceId dependency.id) = some dependency

/-- Where the direct dependencies of a task are completed, all transitive ones are. -/
theorem Sound.transitive (sound : Sound coo) {dependency : CooTaskState}
    (hcompleted : DependenciesCompleted coo task.toCooTask)
    (h : TransGen (DependsOn coo) task dependency) : dependency.status = .COMPLETED := by
  induction h using TransGen.head_induction_on with
  | single hdep =>
    obtain ⟨d, hget, hstatus⟩ := hcompleted _ hdep.1
    rw [hdep.2, Option.some.injEq] at hget
    exact hget ▸ hstatus
  | head hdep _ ih =>
    obtain ⟨d, hget, hstatus⟩ := hcompleted _ hdep.1
    rw [hdep.2, Option.some.injEq] at hget
    -- A completed task was ready once, so its own dependencies are completed.
    refine ih (sound.started _ (Store.mem_of_get? hdep.2) ?_)
    rw [hget, hstatus]
    exact ⟨by simp, by simp⟩

/-- Dependencies are part of the plan, so they stay along a run. -/
theorem Later.transitive (hlater : Later coo coo')
    {task' dependency : CooTaskState} (hsame : task'.toCooTask = task.toCooTask)
    (h : TransGen (DependsOn coo) task dependency) : ∃ dependency',
      TransGen (DependsOn coo') task' dependency'
        ∧ dependency'.toCooTask = dependency.toCooTask
        ∧ (Settled dependency.status → dependency'.status = dependency.status) := by
  induction h with
  | single hdep =>
    obtain ⟨d', hget, hd, hsettled⟩ := hlater _ _ hdep.2
    refine ⟨d', TransGen.single ⟨?_, ?_⟩, hd, hsettled⟩
    · rw [hsame, hd]; exact hdep.1
    · rw [hsame, hd]; exact hget
  | tail _ hdep ih =>
    obtain ⟨m', hm', hm, -⟩ := ih
    obtain ⟨d', hget, hd, hsettled⟩ := hlater _ _ hdep.2
    refine ⟨d', hm'.tail ⟨?_, ?_⟩, hd, hsettled⟩
    · rw [hm, hd]; exact hdep.1
    · rw [hm, hd]; exact hget

/-- Of two moments of a run one is later. -/
theorem reach_take_later (outside : ω) (sink : σ) (calls : List (Call ω σ)) {i j : Nat}
    (h : i ≤ j) : Later (reach governance outside sink (calls.take i)).coo
      (reach governance outside sink (calls.take j)).coo := by
  have htake : calls.take j = calls.take i ++ (calls.drop i).take (j - i) := by
    rw [← List.take_add, Nat.add_sub_cancel' h]
  rw [htake]
  exact reach_later governance outside sink _ _

/-- **Dependency soundness of the AI COO.** Along every run, with calls that throw because an event is
refused: a task that is ready, assigned, completed, failed or stopped has all its transitive
dependencies completed; a level-4 task awaits approval from then on; a task that at some moment
depends on a failed, stopped or level-4 task is assigned at no moment; and if no emission was ever
refused, a blocked task has a direct dependency that is not completed. -/
theorem dependencies_are_sound (outside : ω) (sink : σ) (calls : List (Call ω σ)) :
    (∀ task ∈ (reach governance outside sink calls).coo.tasks,
      task.status = .READY ∨ task.status = .ASSIGNED ∨ task.status = .COMPLETED
        ∨ task.status = .FAILED ∨ task.status = .STOPPED →
      ∀ dependency, TransGen (DependsOn (reach governance outside sink calls).coo) task dependency →
        dependency.status = .COMPLETED)
    ∧ (∀ i j, i ≤ j → ∀ task ∈ (reach governance outside sink (calls.take i)).coo.tasks,
      task.requiredAuthority.val = 4 → ∃ task',
        (reach governance outside sink (calls.take j)).coo.tasks.get?
          (key task.workspaceId task.id) = some task'
        ∧ task'.toCooTask = task.toCooTask ∧ task'.status = .AWAITING_APPROVAL)
    ∧ (∀ i j, ∀ task ∈ (reach governance outside sink (calls.take i)).coo.tasks, ∀ dependency,
      TransGen (DependsOn (reach governance outside sink (calls.take i)).coo) task dependency →
      dependency.status = .FAILED ∨ dependency.status = .STOPPED
        ∨ dependency.requiredAuthority.val = 4 →
      ∀ task', (reach governance outside sink (calls.take j)).coo.tasks.get?
        (key task.workspaceId task.id) = some task' → task'.status ≠ .ASSIGNED)
    ∧ ((reach governance outside sink calls).refusals = 0 →
      ∀ task ∈ (reach governance outside sink calls).coo.tasks, task.status = .BLOCKED →
        ∃ dependency, dependency.id ∈ task.dependencyIds
          ∧ (reach governance outside sink calls).coo.tasks.get?
            (key task.workspaceId dependency.id) = some dependency
          ∧ dependency.status ≠ .COMPLETED) := by
  refine ⟨fun task htask hstatus dependency hdep => ?_, fun i j hij task htask hlevel => ?_,
    fun i j task htask dependency hdep hbad task' htask' hassigned => ?_,
    fun hrefusals task htask hblocked => ?_⟩
  · have sound := reach_sound governance outside sink calls
    refine sound.transitive (sound.started task htask ?_) hdep
    rcases hstatus with h | h | h | h | h <;> exact ⟨by simp [h], by simp [h]⟩
  · have sound := reach_sound governance outside sink (calls.take j)
    obtain ⟨task', hget, hsame, -⟩ := reach_take_later governance outside sink calls hij _ task htask
    refine ⟨task', hget, hsame, ?_⟩
    rw [← sound.level4 task' (Store.mem_of_get? hget), hsame]
    exact hlevel
  · -- The dependency is as bad at the later of the two moments, or was so at the earlier one.
    have soundI := reach_sound governance outside sink (calls.take i)
    have soundJ := reach_sound governance outside sink (calls.take j)
    have hstarted := soundJ.started task' (Store.mem_of_get? htask')
      ⟨by simp [hassigned], by simp [hassigned]⟩
    have hopen : dependency.status ≠ .COMPLETED ∧ Settled dependency.status := by
      obtain ⟨m, -, hlast⟩ := TransGen.tail'_iff.mp hdep
      unfold Settled
      rcases hbad with h | h | h
      · exact ⟨by simp [h], by simp [h]⟩
      · exact ⟨by simp [h], by simp [h]⟩
      · rw [soundI.level4 dependency (Store.mem_of_get? hlast.2)] at h
        exact ⟨by simp [h], by simp [h]⟩
    rcases Nat.le_total i j with hij | hji
    · have hlater := reach_take_later governance outside sink calls hij
      obtain ⟨t, ht, hsame, -⟩ := hlater _ task htask
      rw [show keyOf (K := Key) task = key task.workspaceId task.id from rfl, htask',
        Option.some.injEq] at ht
      subst ht
      obtain ⟨dependency', hdep', -, hsettled⟩ := hlater.transitive hsame hdep
      have hcompleted := soundJ.transitive hstarted hdep'
      rw [hsettled hopen.2] at hcompleted
      exact hopen.1 hcompleted
    · have hlater := reach_take_later governance outside sink calls hji
      obtain ⟨t, ht, hsame, -⟩ := hlater _ task' htask'
      rw [show (reach governance outside sink (calls.take i)).coo.tasks.get?
        (key task.workspaceId task.id) = some task from htask, Option.some.injEq] at ht
      subst ht
      have hcompleted := hstarted.later hlater
      rw [← hsame] at hcompleted
      exact hopen.1 (soundI.transitive hcompleted hdep)
  · have sound := reach_sound governance outside sink calls
    have hawake := reach_awake governance outside sink calls hrefusals task htask hblocked
    unfold DependenciesCompleted at hawake
    push Not at hawake
    obtain ⟨d, hd, hopen⟩ := hawake
    obtain ⟨dependency, hget, -⟩ := sound.dependencies task htask d hd
    have hid : dependency.id = d := (key_inj.mp (Store.keyOf_of_get? hget)).2
    subst hid
    exact ⟨dependency, hd, hget, hopen dependency hget⟩

end VentureOS.Coo
