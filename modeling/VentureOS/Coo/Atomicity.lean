import VentureOS.Coo.Assignability
import VentureOS.Coo.CriticalPath
import VentureOS.Coo.Emissions

/-! # Operations of the AI COO and the event log

Each operation of the COO checks first, writes its fields second and reports third, and a report that
is refused throws with the writes in place. `Reportable` says, of the state before a call, that a call
whose checks pass will have all its reports accepted. In a run whose calls are all reportable, every
operation that throws leaves the fields of the COO, the factory and the event log as they were, and
the first call that is not reportable is an operation that throws and does not
(`operations_are_atomic_iff`). -/

namespace VentureOS.Coo

open ControlPlane Program Factory

variable {ω : Type} {governance : LoggedGovernance ω} {context : WorkspaceContext}

/-! ## Unchanged worlds -/

/-- The fields of the COO, the factory and the event log are as they were. -/
structure Unchanged (w w' : World ω EventLog) : Prop where
  coo : w'.coo = w.coo
  factory : w'.factory = w.factory
  log : w'.sink = w.sink

theorem Unchanged.refl (w : World ω EventLog) : Unchanged w w := ⟨rfl, rfl, rfl⟩

/-- A throw leaves the world unchanged. -/
def Rolled {α : Type} (w : World ω EventLog) (r : Except Failure α) (w' : World ω EventLog) : Prop :=
  ∀ error, r = .error error → Unchanged w w'

theorem rolled_ok {α : Type} (w w' : World ω EventLog) (a : α) :
    Rolled w (.ok a) w' := fun _ h => by cases h

variable {w : World ω EventLog}

theorem rolled_error {α : Type} {w' : World ω EventLog} {error : Failure} :
    Rolled (α := α) w (.error error) w' ↔ Unchanged w w' :=
  ⟨fun h => h error rfl, fun h _ _ => h⟩

/-- What is returned does not matter. -/
theorem ensures_rolled_map {α β : Type} {x : Op ω EventLog α} {f : α → β}
    {C : Prop} (h : Ensures x w (fun r w' => C ↔ Rolled w r w')) :
    Ensures (do return f (← x)) w (fun r w' => C ↔ Rolled w r w') := by
  rw [ensures_bind]
  refine h.mono fun r w' hr => ?_
  cases r with
  | error e => exact hr.trans (rolled_error.trans rolled_error.symm)
  | ok a => exact hr.trans ⟨fun _ => rolled_ok w w' _, fun _ => rolled_ok w w' a⟩

variable {coo : GovernedAiCoo} {task : CooTaskState}

/-- Replacing a task by another changes the fields of the COO. -/
theorem putTask_ne {new : CooTaskState} (found : task ∈ coo.tasks)
    (hsame : new.toCooTask = task.toCooTask) (hne : new ≠ task) : coo.putTask new ≠ coo := by
  intro h
  have hkey : keyOf (K := Key) task = keyOf new := by
    show key task.workspaceId task.id = key new.workspaceId new.id
    rw [hsame]
  have htasks : coo.tasks.put new = coo.tasks := congrArg GovernedAiCoo.tasks h
  have hget := Store.mem_iff_get?.mp found
  rw [← htasks, Store.get?_put, if_pos hkey, Option.some.injEq] at hget
  exact hne hget

/-- A write of one task and the report of it: the report is accepted, or the write stays. -/
theorem putTask_emit (new : CooTaskState) (announcement : Announcement) (w : World ω EventLog) :
    Ensures (do
        writeCoo fun coo => coo.putTask new
        emit governance.toGovernance context announcement) w (fun r w' =>
      match (Publication.event announcement).accept governance context w.outlet with
      | some _ => r = .ok () ∧ w'.refusals = w.refusals
      | none => (∃ e, r = .error e) ∧ w'.coo = w.coo.putTask new ∧ w'.factory = w.factory
          ∧ w'.sink = w.sink) := by
  rw [ensures_writeCoo_bind]
  refine (emit_accept (.event announcement) _).mono fun r w' hw => ?_
  obtain ⟨-, hfactory, hr⟩ := hw
  have houtlet : World.outlet { w with coo := w.coo.putTask new } = w.outlet := rfl
  rw [houtlet] at hr
  cases hacc : (Publication.event announcement).accept governance context w.outlet with
  | some outlet =>
    rw [hacc] at hr
    exact ⟨hr.1, hr.2.2⟩
  | none =>
    rw [hacc] at hr
    exact ⟨hr.1, hr.2.1, hfactory, hr.2.2⟩

/-! ## Usage and failure -/

/-- An operation that replaces a task by a different one and reports it, after its checks. -/
theorem putTask_emit_rolled {new : CooTaskState} {announcement : Announcement}
    (found : task ∈ w.coo.tasks) (hsame : new.toCooTask = task.toCooTask)
    (hne : new ≠ task) :
    Ensures (do
        writeCoo fun coo => coo.putTask new
        emit governance.toGovernance context announcement) w (fun r w' =>
      ((Publication.event announcement).accept governance context w.outlet).isSome = true
        ↔ Rolled w r w') := by
  refine (putTask_emit new announcement w).mono fun r w' hr => ?_
  cases hacc : (Publication.event announcement).accept governance context w.outlet with
  | some outlet =>
    rw [hacc] at hr
    obtain ⟨rfl, -⟩ := hr
    exact ⟨fun _ => rolled_ok w w' _, fun _ => rfl⟩
  | none =>
    rw [hacc] at hr
    obtain ⟨⟨e, rfl⟩, hcoo, -⟩ := hr
    rw [rolled_error]
    refine ⟨fun h => (by cases h), fun h => ?_⟩
    exact absurd (hcoo.symm.trans h.coo) (putTask_ne found hsame hne)

/-- `recordFailure` is atomic exactly if its report is accepted. -/
theorem recordFailure_atomic (taskId : EntityId) (failureCode : String) (w : World ω EventLog) :
    Ensures (recordFailure governance.toGovernance context taskId failureCode) w (fun r w' =>
      (∀ task, checkFailure governance.toGovernance w.coo context taskId failureCode = .ok task →
        ((Publication.event (failureAnnouncement governance.toGovernance
          (failedTask task failureCode) failureCode)).accept governance context
            w.outlet).isSome = true) ↔ Rolled w r w') := by
  unfold recordFailure
  rw [ensures_readCoo_bind, ensures_lift_bind]
  refine ⟨fun e he => ?_, fun task hchecked => ?_⟩
  · rw [rolled_error, he]
    exact ⟨fun _ => Unchanged.refl w, fun _ task h => (by cases h)⟩
  · obtain ⟨hget, hassigned⟩ := checkFailure_ok hchecked
    have hne : failedTask task failureCode ≠ task := by
      intro h
      have hstatus : failureStatus task failureCode = task.status :=
        congrArg CooTaskState.status h
      rw [hassigned] at hstatus
      rcases failureStatus_cases task failureCode with hc | hc | ⟨hc, -⟩ <;>
        rw [hc] at hstatus <;> cases hstatus
    simp only [hchecked, Except.ok.injEq, forall_eq']
    rw [← bind_assoc]
    exact ensures_rolled_map
      (putTask_emit_rolled (Store.mem_of_get? hget) rfl hne)

/-- Writing a task back changes nothing. -/
theorem putTask_self (found : task ∈ coo.tasks) :
    coo.putTask task = coo := by
  show ({ coo with tasks := coo.tasks.put task } : GovernedAiCoo) = coo
  rw [Store.put_self found]

/-- An accepted charge changes the task exactly if an amount is not zero. -/
theorem WithinCeilings.chargedTask_eq_iff {costMinorUnits computeUnits : Int}
    (h : WithinCeilings task) (hcost : 0 ≤ costMinorUnits) (hcompute : 0 ≤ computeUnits)
    (hexceeds : ¬ ExceedsTask task costMinorUnits computeUnits) :
    chargedTask task costMinorUnits computeUnits = task
      ↔ costMinorUnits = 0 ∧ computeUnits = 0 := by
  obtain ⟨hexact, hexact'⟩ := h.charged hcost hcompute hexceeds
  unfold chargedTask
  rw [hexact, hexact']
  constructor
  · intro heq
    have hc := congrArg CooTaskState.costUsedMinorUnits heq
    have hu := congrArg CooTaskState.computeUsed heq
    simp only at hc hu
    omega
  · rintro ⟨rfl, rfl⟩
    rw [add_zero, add_zero]

/-- `recordUsage` is atomic exactly if its report is accepted or nothing is charged. -/
theorem recordUsage_atomic (taskId : EntityId) (costMinorUnits computeUnits : Int)
    (budgeted : Budgeted w.coo) :
    Ensures (recordUsage governance.toGovernance context taskId costMinorUnits computeUnits) w
      (fun r w' => (∀ task, checkUsage governance.toGovernance w.coo context taskId costMinorUnits
          computeUnits = .ok task →
        (costMinorUnits = 0 ∧ computeUnits = 0) ∨ ((Publication.event (usageAnnouncement
          (chargedTask task costMinorUnits computeUnits) costMinorUnits computeUnits)).accept
            governance context w.outlet).isSome = true) ↔ Rolled w r w') := by
  unfold recordUsage
  rw [ensures_readCoo_bind, ensures_lift_bind]
  refine ⟨fun e he => ?_, fun task hchecked => ?_⟩
  · rw [rolled_error, he]
    exact ⟨fun _ => Unchanged.refl w, fun _ task h => (by cases h)⟩
  · obtain ⟨hget, -, hcost, hcompute, hexceeds⟩ := checkUsage_ok hchecked
    have hfound := Store.mem_of_get? hget
    have hzero := (budgeted.tasks task hfound).chargedTask_eq_iff hcost.2.1 hcompute.2.1 hexceeds
    simp only [hchecked, Except.ok.injEq, forall_eq']
    by_cases hsame : chargedTask task costMinorUnits computeUnits = task
    · -- Nothing is charged, so the write changes nothing.
      refine (putTask_emit _ _ w).mono fun r w' hr => ?_
      refine ⟨fun _ => ?_, fun _ => Or.inl (hzero.mp hsame)⟩
      split at hr
      · rw [hr.1]
        exact rolled_ok w w' _
      · obtain ⟨⟨e, rfl⟩, hcoo, hfactory, hsink⟩ := hr
        rw [hsame, putTask_self hfound] at hcoo
        exact rolled_error.mpr ⟨hcoo, hfactory, hsink⟩
    · have hne : ¬ (costMinorUnits = 0 ∧ computeUnits = 0) := fun h => hsame (hzero.mpr h)
      simp only [hne, false_or]
      exact putTask_emit_rolled hfound rfl hsame

/-! ## Completion -/

/-- What the refreshment of a task makes known, in a state with all reports accepted so far. -/
def wakeup (coo : GovernedAiCoo) (context : WorkspaceContext) (candidate : CooTaskState) :
    List Publication :=
  match requireDependencies coo context candidate.toCooTask with
  | .ok dependencies =>
    if candidate.status = .BLOCKED ∧ readiness dependencies = .READY then
      [.event (readinessAnnouncement candidate.toCooTask .READY)]
    else []
  | .error _ => []

/-- What the completion of a task makes known. -/
def completionPublications (coo : GovernedAiCoo) (context : WorkspaceContext) (task : CooTaskState)
    (evidence : List VerificationEvidence) : List Publication :=
  let completed := coo.putTask { task with status := .COMPLETED }
  .event (completionAnnouncement task.toCooTask evidence) ::
    (objectiveTasks completed context.workspaceId task.objectiveId).flatMap
      (wakeup completed context)

/-- The second state differs from the first in that some blocked tasks are ready. -/
def Woken (coo coo' : GovernedAiCoo) : Prop :=
  ∀ k, coo'.tasks.get? k = coo.tasks.get? k ∨
    ∃ task, coo.tasks.get? k = some task ∧ task.status = .BLOCKED
      ∧ coo'.tasks.get? k = some { task with status := .READY }

/-- Waking tasks completes none. -/
theorem Woken.dependenciesCompleted {coo' : GovernedAiCoo} (h : Woken coo coo')
    (task : CooTask) : DependenciesCompleted coo' task ↔ DependenciesCompleted coo task := by
  unfold DependenciesCompleted
  refine forall₂_congr fun d _ => ?_
  rcases h (key task.workspaceId d) with hsame | ⟨t, hget, hblocked, hready⟩
  · rw [hsame]
  · rw [hget, hready]
    constructor
    · rintro ⟨dependency, hdependency, hstatus⟩
      rw [Option.some.injEq] at hdependency
      rw [← hdependency] at hstatus
      cases hstatus
    · rintro ⟨dependency, hdependency, hstatus⟩
      rw [Option.some.injEq] at hdependency
      rw [← hdependency, hblocked] at hstatus
      cases hstatus

/-- What is made known of a candidate of a sound graph. -/
theorem Sound.wakeup_eq (sound : Sound coo) {candidate : CooTaskState}
    (hmem : candidate ∈ coo.tasks) (hworkspace : candidate.workspaceId = context.workspaceId) :
    (candidate.status = .BLOCKED ∧ DependenciesCompleted coo candidate.toCooTask
        ∧ wakeup coo context candidate
          = [.event (readinessAnnouncement candidate.toCooTask .READY)])
      ∨ ((candidate.status = .BLOCKED → ¬ DependenciesCompleted coo candidate.toCooTask)
        ∧ wakeup coo context candidate = []) := by
  have hget : coo.tasks.get? (key context.workspaceId candidate.id) = some candidate := by
    rw [← hworkspace]
    exact hmem
  obtain ⟨dependencies, hdeps⟩ := sound.requireDependencies hget
  have hready := readiness_eq_ready hworkspace hdeps
  unfold wakeup
  rw [hdeps]
  by_cases h : candidate.status = .BLOCKED ∧ readiness dependencies = .READY
  · exact Or.inl ⟨h.1, hready.mp h.2, if_pos h⟩
  · exact Or.inr ⟨fun hblocked hcompleted => h ⟨hblocked, hready.mpr hcompleted⟩, if_neg h⟩

/-- **Waking one task.** It becomes ready, and its report is accepted or refused. -/
theorem refreshTaskReadiness_wakes {candidate : CooTaskState}
    (sound : Sound w.coo) (hmem : candidate ∈ w.coo.tasks)
    (hworkspace : candidate.workspaceId = context.workspaceId)
    (hblocked : candidate.status = .BLOCKED)
    (hcompleted : DependenciesCompleted w.coo candidate.toCooTask) :
    Ensures (refreshTaskReadiness governance.toGovernance context candidate.id) w (fun r w' =>
      match (Publication.event (readinessAnnouncement candidate.toCooTask .READY)).accept governance
          context w.outlet with
      | some outlet => r = .ok () ∧ w'.outlet = outlet ∧ w'.refusals = w.refusals
          ∧ w'.coo.tasks = w.coo.tasks.put { candidate with status := .READY }
      | none => ∃ e, r = .error e) := by
  have hget : w.coo.tasks.get? (key context.workspaceId candidate.id) = some candidate := by
    rw [← hworkspace]
    exact hmem
  obtain ⟨dependencies, hdeps⟩ := sound.requireDependencies hget
  have hready := (readiness_eq_ready hworkspace hdeps).mpr hcompleted
  unfold refreshTaskReadiness
  rw [ensures_readCoo_bind, requireTask_eq_ok.mpr hget, ensures_ok_bind, if_pos (Or.inl hblocked), hdeps,
    ensures_ok_bind, ensures_writeCoo_bind, if_pos (by simp [hready, hblocked]), hready]
  refine (emit_accept (.event _) _).mono fun r w' hw => ?_
  obtain ⟨hsame, -, hr⟩ := hw
  have houtlet : World.outlet { w with
      coo := w.coo.putTask { candidate with status := .READY } } = w.outlet := rfl
  rw [houtlet] at hr
  cases hacc : (Publication.event (readinessAnnouncement candidate.toCooTask .READY)).accept
      governance context w.outlet with
  | some outlet =>
    rw [hacc] at hr
    exact ⟨hr.1, hr.2.1, hr.2.2, hsame.tasks⟩
  | none =>
    rw [hacc] at hr
    exact hr.1

/-- **The loop over an objective.** Starting from a state that `coo` was woken to, and with the tasks
of `rest` not refreshed yet, the loop ends exactly if what it makes known is accepted. -/
theorem refreshAll_accept (base : Sound coo) {rest : List CooTaskState}
    (hnodup : (rest.map fun t => t.id).Nodup)
    (hrest : ∀ t ∈ rest, t ∈ coo.tasks ∧ t.workspaceId = context.workspaceId)
    (sound : Sound w.coo) (woken : Woken coo w.coo)
    (unseen : ∀ t ∈ rest, t ∈ w.coo.tasks) :
    Ensures (forM rest fun candidate =>
        refreshTaskReadiness governance.toGovernance context candidate.id) w (fun r w' =>
      match acceptAll governance context (rest.flatMap (wakeup coo context)) w.outlet with
      | some _ => r = .ok () ∧ w'.refusals = w.refusals
      | none => ∃ e, r = .error e) := by
  induction rest generalizing w with
  | nil => exact ⟨rfl, rfl⟩
  | cons candidate rest ih =>
    obtain ⟨hmem, hworkspace⟩ := hrest candidate List.mem_cons_self
    have hcandidate := unseen candidate List.mem_cons_self
    rw [List.map_cons, List.nodup_cons] at hnodup
    have hlater : ∀ t ∈ rest, t ∈ coo.tasks ∧ t.workspaceId = context.workspaceId :=
      fun t ht => hrest t (List.mem_cons_of_mem _ ht)
    rw [List.forM_cons, List.flatMap_cons]
    rcases base.wakeup_eq hmem hworkspace with ⟨hblocked, hcompleted, hwakes⟩ | ⟨hblocked, hsleeps⟩
    · rw [hwakes, List.singleton_append, ensures_bind]
      have hnow := (woken.dependenciesCompleted candidate.toCooTask).mpr hcompleted
      have hwithin : Within governance.toGovernance (.sinkChanged w.sink) _ :=
        within_refreshTaskReadiness context candidate.id
      refine ((refreshTaskReadiness_wakes sound hcandidate hworkspace hblocked hnow).and
        (hwithin w)).mono fun r w₁ hw₁ => ?_
      obtain ⟨hr, hmoves⟩ := hw₁
      simp only [acceptAll]
      split at hr
      next outlet hacc =>
        obtain ⟨rfl, hout, hrefusals, htasks⟩ := hr
        rw [hacc, Option.bind_some, ← hout]
        have hwoken : Woken coo w₁.coo := by
          intro k
          rw [htasks, Store.get?_put]
          split
          next hk =>
            have hkey : k = keyOf candidate := hk
            exact Or.inr ⟨candidate, hkey ▸ hmem, hblocked, rfl⟩
          next => exact woken k
        have hunseen : ∀ t ∈ rest, t ∈ w₁.coo.tasks := by
          intro t ht
          rw [htasks, Store.mem_put]
          refine Or.inr ⟨unseen t (List.mem_cons_of_mem _ ht), fun hkey => hnodup.1 ?_⟩
          have hkey' : key t.workspaceId t.id = key candidate.workspaceId candidate.id := hkey
          exact List.mem_map.mpr ⟨t, ht, (key_inj.mp hkey').2⟩
        refine (ih hnodup.2 hlater (hmoves.writes.sound sound).1 hwoken hunseen).mono
          fun r w₂ hr₂ => ?_
        split at hr₂
        next => exact ⟨hr₂.1, hr₂.2.trans hrefusals⟩
        next => exact hr₂
      next hacc =>
        obtain ⟨e, rfl⟩ := hr
        rw [hacc]
        exact ⟨e, rfl⟩
    · -- A candidate that is not woken is left alone.
      have hget : w.coo.tasks.get? (key context.workspaceId candidate.id) = some candidate := by
        rw [← hworkspace]
        exact hcandidate
      have hidle : (refreshTaskReadiness governance.toGovernance context candidate.id).exec w
          = (.ok (), w) := refreshTaskReadiness_idle sound hget fun h hcompleted =>
        hblocked h ((woken.dependenciesCompleted candidate.toCooTask).mp hcompleted)
      rw [hsleeps, List.nil_append, ensures_bind, Ensures, hidle]
      exact ih hnodup.2 hlater sound woken fun t ht => unseen t (List.mem_cons_of_mem _ ht)

/-- The tasks of an objective are stored in its workspace, each under an identifier of its own. -/
theorem objectiveTasks_spec (coo : GovernedAiCoo) (workspaceId objectiveId : EntityId) :
    ((objectiveTasks coo workspaceId objectiveId).map fun t => t.id).Nodup
      ∧ ∀ t ∈ objectiveTasks coo workspaceId objectiveId,
        t ∈ coo.tasks ∧ t.workspaceId = workspaceId := by
  have hmem : ∀ t ∈ objectiveTasks coo workspaceId objectiveId,
      t ∈ coo.tasks ∧ t.workspaceId = workspaceId := by
    intro t ht
    simp only [objectiveTasks, List.mem_filter, Store.mem_values, decide_eq_true_eq] at ht
    exact ⟨ht.1, ht.2.1⟩
  refine ⟨List.Nodup.of_map (key workspaceId) ?_, hmem⟩
  have hkeys : ((objectiveTasks coo workspaceId objectiveId).map fun t => t.id).map
      (key workspaceId) = (objectiveTasks coo workspaceId objectiveId).map (keyOf (K := Key)) := by
    rw [List.map_map]
    refine List.map_congr_left fun t ht => ?_
    show key workspaceId t.id = key t.workspaceId t.id
    rw [(hmem t ht).2]
  rw [hkeys]
  exact (List.filter_sublist.map _).nodup (Store.nodup_map_keyOf_values coo.tasks)

/-- A graph that differs in events and cards only is as sound. -/
theorem SameGraph.sound {coo coo' : GovernedAiCoo} (same : SameGraph coo coo') (sound : Sound coo) :
    Sound coo' := by
  obtain ⟨h₁, h₂, h₃, h₄, h₅⟩ := sound
  refine ⟨?_, ?_, ?_, ?_, ?_⟩
  · rw [same.tasks, same.entityIds]; exact h₁
  · rw [same.tasks, same.objectives]; exact h₂
  · rw [same.tasks]; exact h₃
  · rw [same.tasks]; exact h₄
  · unfold DependenciesCompleted at *
    rw [same.tasks]; exact h₅

/-- The end of `completeTask`, started in a state that differs from `coo` in events and cards only. -/
theorem wakeAll_accept (base : Sound coo) (objectiveId : EntityId)
    (same : SameGraph coo w.coo) :
    Ensures (do
        let coo ← readCoo
        forM (objectiveTasks coo context.workspaceId objectiveId) fun candidate =>
          refreshTaskReadiness governance.toGovernance context candidate.id) w (fun r w' =>
      Later w.coo w'.coo ∧
      match acceptAll governance context ((objectiveTasks coo context.workspaceId
          objectiveId).flatMap (wakeup coo context)) w.outlet with
      | some _ => r = .ok () ∧ w'.refusals = w.refusals
      | none => ∃ e, r = .error e) := by
  have hobjective : objectiveTasks w.coo context.workspaceId objectiveId
      = objectiveTasks coo context.workspaceId objectiveId := by
    unfold objectiveTasks
    rw [same.tasks]
  have hsound := same.sound base
  obtain ⟨hnodup, hmem⟩ := objectiveTasks_spec coo context.workspaceId objectiveId
  have hwithin : Within governance.toGovernance (.sinkChanged w.sink)
      (forM (objectiveTasks coo context.workspaceId objectiveId) fun candidate =>
        refreshTaskReadiness governance.toGovernance context candidate.id) :=
    Within.forM (fun _ => within_refreshTaskReadiness context _) _
  rw [ensures_readCoo_bind, hobjective]
  refine ((refreshAll_accept base hnodup hmem hsound (fun k => Or.inl (by rw [same.tasks]))
    fun t ht => ?_).and (hwithin w)).mono fun r w' hr => ⟨(hr.2.writes.sound hsound).2, hr.1⟩
  rw [same.tasks]
  exact (hmem t ht).1

/-- The reports of a completion that passes its checks are accepted. -/
def CompletionReportable (governance : LoggedGovernance ω) (context : WorkspaceContext)
    (taskId : EntityId) (evidence : List VerificationEvidence) (w : World ω EventLog) : Prop :=
  ∀ task, checkCompletable governance.toGovernance w.coo context taskId = .ok task →
    ((verifyEvidence governance.toGovernance context task [] evidence).exec w.outside).1 = .ok () →
    checkCriteria task.toCooTask evidence = .ok () →
    (acceptAll governance context (completionPublications w.coo context task evidence) w.outlet).isSome = true

/-- `completeTask` is atomic exactly if its reports are accepted; no report is refused then. -/
theorem completeTask_atomic (taskId : EntityId) (evidence : List VerificationEvidence)
    (sound : Sound w.coo) :
    Ensures (completeTask governance.toGovernance context taskId evidence) w (fun r w' =>
      (CompletionReportable governance context taskId evidence w ↔ Rolled w r w')
        ∧ (CompletionReportable governance context taskId evidence w →
          w'.refusals = w.refusals)) := by
  unfold completeTask CompletionReportable
  rw [ensures_readCoo_bind, ensures_lift_bind]
  refine ⟨fun e he => ?_, fun task hchecked => ?_⟩
  · rw [rolled_error, he]
    exact ⟨⟨fun _ => Unchanged.refl w, fun _ task h => (by cases h)⟩, fun _ => rfl⟩
  simp only [hchecked, Except.ok.injEq, forall_eq']
  obtain ⟨hget, hassigned⟩ := checkCompletable_ok hchecked
  have hfound := Store.mem_of_get? hget
  rw [ensures_bind, onOutside, ensures_focus, Ensures]
  cases hverified : ((verifyEvidence governance.toGovernance context task [] evidence).exec w.outside).1 with
  | error e =>
    exact ⟨⟨fun _ => rolled_error.mpr ⟨rfl, rfl, rfl⟩, fun _ h => (by cases h)⟩, fun _ => rfl⟩
  | ok u =>
    show Ensures (liftM _ >>= _) _ _
    rw [ensures_lift_bind]
    refine ⟨fun e he => ?_, fun _ hcriteria => ?_⟩
    · rw [rolled_error, he]
      exact ⟨⟨fun _ => ⟨rfl, rfl, rfl⟩, fun _ _ h => (by cases h)⟩, fun _ => rfl⟩
    simp only [hcriteria, forall_true_left]
    have hne : ({ task with status := .COMPLETED } : CooTaskState) ≠ task := by
      intro h
      have hstatus := congrArg CooTaskState.status h
      simp only [hassigned] at hstatus
      cases hstatus
    have hwrite : Write governance.toGovernance (.completeTask context taskId evidence) w.coo
        (w.coo.putTask { task with status := .COMPLETED }) := Write.complete hchecked
    have base := (Writes.sound (Relation.ReflTransGen.single hwrite) sound).1
    rw [ensures_writeCoo_bind, ensures_bind]
    refine (emit_accept (.event (completionAnnouncement task.toCooTask evidence)) _).mono
      fun r w₁ hw₁ => ?_
    obtain ⟨hsame, -, hr⟩ := hw₁
    simp only at hsame
    simp only [completionPublications, acceptAll]
    split at hr
    next outlet hacc =>
      obtain ⟨rfl, hout, hrefusals⟩ := hr
      rw [show (Publication.event (completionAnnouncement task.toCooTask evidence)).accept
        governance context w.outlet = some outlet from hacc, Option.bind_some, ← hout]
      refine (wakeAll_accept base task.objectiveId hsame).mono fun r w₂ hw₂ => ?_
      obtain ⟨hlater, hr⟩ := hw₂
      split at hr
      next outlet' hacc' =>
        rw [hacc']
        exact ⟨⟨fun _ => hr.1 ▸ rolled_ok w w₂ _, fun _ => rfl⟩, fun _ => hr.2.trans hrefusals⟩
      next hacc' =>
        obtain ⟨e, rfl⟩ := hr
        rw [hacc', rolled_error]
        refine ⟨⟨fun h => (by cases h), fun h => ?_⟩, fun h => (by cases h)⟩
        -- The task is completed by now, and stays so.
        have hdone : w₁.coo.tasks.get? (keyOf task)
            = some { task with status := .COMPLETED } := by
          rw [hsame.tasks]
          exact Store.mem_put_self _ _
        obtain ⟨t, ht, -, hsettled⟩ := hlater _ _ hdone
        rw [h.coo, Store.mem_iff_get?.mp hfound, Option.some.injEq] at ht
        have hstatus := hsettled (Or.inl rfl)
        rw [← ht, hassigned] at hstatus
        cases hstatus
    next hacc =>
      obtain ⟨⟨e, rfl⟩, hcoo, -⟩ := hr
      rw [show (Publication.event (completionAnnouncement task.toCooTask evidence)).accept
        governance context w.outlet = none from hacc]
      refine ⟨⟨fun h => (by cases h), fun h => ?_⟩, fun h => (by cases h)⟩
      exact absurd (hcoo.symm.trans (rolled_error.mp h).coo) (putTask_ne hfound rfl hne)

/-! ## Plans -/

/-- The reports of a plan that passes the checks of the COO and of the factory are accepted. -/
def PlanReportable (governance : LoggedGovernance ω) (context : WorkspaceContext)
    (plan : ObjectivePlan) (w : World ω EventLog) : Prop :=
  checkPlan governance.toGovernance w.coo context plan = .ok () →
    admitPlan governance.factory w.factory context plan.objective.id (planLinkages plan) = .ok () →
    (acceptAll governance context (planPublications plan) w.outlet).isSome = true

/-- `createPlan` is atomic exactly if its reports are accepted. -/
theorem createPlan_atomic (plan : ObjectivePlan) (sound : Sound w.coo) :
    Ensures (createPlan governance.toGovernance context plan) w (fun r w' =>
      PlanReportable governance context plan w ↔ Rolled w r w') := by
  unfold createPlan PlanReportable
  rw [ensures_readCoo_bind, ensures_lift_bind]
  refine ⟨fun e he => ?_, fun _ hchecked => ?_⟩
  · rw [rolled_error, he]
    exact ⟨fun _ => Unchanged.refl w, fun _ h => (by cases h)⟩
  simp only [hchecked, forall_true_left]
  rw [ensures_bind, onFactory, ensures_focus]
  refine (registerPlan_spec context plan.objective.id (planLinkages plan) w.toFactoryWorld).mono
    fun r f hf => ?_
  cases r with
  | error e =>
    obtain ⟨hrefused, rfl⟩ := hf
    refine ⟨fun _ => rolled_error.mpr ⟨rfl, rfl, rfl⟩, fun _ hadmitted => ?_⟩
    rw [hrefused] at hadmitted
    cases hadmitted
  | ok u =>
    obtain ⟨hadmitted, rfl⟩ := hf
    simp only [hadmitted, forall_true_left]
    rw [ensures_writeCoo_bind, ensures_bind, announcePlan_eq]
    refine (emitAll_accept (planPublications plan) _).mono fun r w₁ hw₁ => ?_
    obtain ⟨hsame, -, hr⟩ := hw₁
    split at hr
    next outlet hacc =>
      obtain ⟨rfl, -⟩ := hr
      rw [show acceptAll governance context (planPublications plan) w.outlet = some outlet
        from hacc]
      obtain ⟨report, hreport⟩ := exists_criticalPath sound hchecked hsame
      show Ensures (readCoo >>= _) w₁ _
      rw [ensures_readCoo_bind, ensures_lift, hreport]
      exact ⟨fun _ => rolled_ok w w₁ report, fun _ => rfl⟩
    next hacc =>
      obtain ⟨e, rfl⟩ := hr
      rw [show acceptAll governance context (planPublications plan) w.outlet = none from hacc]
      refine ⟨fun h => (by cases h), fun h => ?_⟩
      -- The new objective stays stored.
      have new := newPlan hchecked
      have hstored := congrArg GovernedAiCoo.objectives (rolled_error.mp h).coo
      rw [hsame.objectives] at hstored
      have hnone := new.newObjective
      rw [← hstored, ← new.valid.workspace] at hnone
      have hsome : (w.coo.objectives.put plan.objective).get? (keyOf plan.objective)
          = some plan.objective := Store.mem_put_self _ _
      have hnone' : (w.coo.objectives.put plan.objective).get? (keyOf plan.objective) = none :=
        hnone
      rw [hsome] at hnone'
      cases hnone'

/-! ## Assignments -/

/-- An instantiation that is refused leaves the event log as it was. -/
theorem instantiate_log (request : AgentInstantiationRequest) (f : FactoryWorld EventLog) :
    Ensures (instantiate governance.factory context request) f (fun r f' =>
      ∀ error, r = .error error → f'.factory = f.factory ∧ f'.sink = f.sink) := by
  unfold instantiate
  rw [ensures_readFactory_bind, ensures_lift_bind]
  refine ⟨fun _ _ _ _ => ⟨rfl, rfl⟩, fun p _ => ?_⟩
  obtain ⟨template, depth⟩ := p
  simp only
  rw [Factory.ensures_readClock_bind, ensures_lift_bind]
  refine ⟨fun _ _ _ _ => ⟨rfl, rfl⟩, fun createdAt _ => ?_⟩
  rw [ensures_bind]
  have hevent : ∀ (event : AgentFactoryEvent) (correlationId : EntityId)
      (g : FactoryWorld EventLog),
      Ensures (appendOperationalEvent governance.factory context event correlationId) g
        (fun r g' => g'.factory = g.factory ∧ ∀ error, r = .error error → g'.sink = g.sink) := by
    intro event correlationId g
    unfold appendOperationalEvent
    cases hsink : governance.factory.eventSink with
    | none => exact ⟨rfl, fun _ _ => rfl⟩
    | some reporting =>
      obtain ⟨sink, capability⟩ := reporting
      have hlog := governance.factoryLogged sink capability hsink
      subst hlog
      show Ensures (Factory.onSink _) g _
      rw [Factory.onSink, ensures_focus]
      refine (EventLog.append_spec governance.dateParse capability context _ g.sink).mono
        fun r log hr => ⟨rfl, fun error he => ?_⟩
      rw [he] at hr
      exact hr
  refine (hevent _ _ _).mono fun r g hg => ?_
  cases r with
  | error e => exact fun _ _ => ⟨hg.1, hg.2 e rfl⟩
  | ok u => exact fun _ h => (by cases h)

/-- The report of an assignment that passes its checks, that the broker routes and that the factory
creates an agent for, is accepted. -/
def AssignmentReportable (governance : LoggedGovernance ω) (context : WorkspaceContext)
    (request : AssignmentRequest) (w : World ω EventLog) : Prop :=
  ∀ task, findAssignable governance.toGovernance w.coo context request = .ok task →
    checkAssignment task request = .ok () →
    ∀ runtime w₁, (onOutside (governance.route context request.routingRequest)).exec w
        = (.ok runtime, w₁) →
      ∀ agent decision w₂,
        (onFactory (instantiate governance.factory context request.factoryRequest)).exec w₁
          = (.ok (agent, decision), w₂) →
        ((Publication.event (assignmentAnnouncement
          (assignedTask task request agent.agentId runtime) agent.agentId
            runtime.selectedRuntimeId)).accept governance context w₂.outlet).isSome = true

/-- The part of `requestAssignment` after its checks is atomic exactly if its report is accepted. -/
theorem assignTask_atomic (request : AssignmentRequest)
    (hfound : task ∈ w.coo.tasks) (hready : task.status = .READY) :
    Ensures (assignTask governance.toGovernance context request task) w (fun r w' =>
      (∀ runtime w₁, (onOutside (governance.route context request.routingRequest)).exec w
          = (.ok runtime, w₁) →
        ∀ agent decision w₂,
          (onFactory (instantiate governance.factory context request.factoryRequest)).exec w₁
            = (.ok (agent, decision), w₂) →
          ((Publication.event (assignmentAnnouncement
            (assignedTask task request agent.agentId runtime) agent.agentId
              runtime.selectedRuntimeId)).accept governance context w₂.outlet).isSome = true)
        ↔ Rolled w r w') := by
  unfold assignTask
  rw [ensures_bind, Ensures]
  have hroute : Ensures (onOutside (governance.route context request.routingRequest)) w
      (fun _ w₁ => w₁.coo = w.coo ∧ w₁.toFactoryWorld = w.toFactoryWorld) := by
    rw [onOutside, ensures_focus]
    exact ⟨rfl, rfl⟩
  unfold Ensures at hroute
  rcases hrouted : (onOutside (governance.route context request.routingRequest)).exec w with
    ⟨r, w₁⟩
  rw [hrouted] at hroute
  obtain ⟨hcoo, hworld⟩ := hroute
  cases r with
  | error e =>
    refine ⟨fun _ => rolled_error.mpr ⟨hcoo, congrArg FactoryWorld.factory hworld,
      congrArg FactoryWorld.sink hworld⟩, fun _ runtime w₁' h => ?_⟩
    cases h
  | ok runtime =>
    show Ensures (onFactory _ >>= _) w₁ _
    rw [ensures_bind, Ensures]
    have hinstantiate : Ensures
        (onFactory (instantiate governance.factory context request.factoryRequest)) w₁
        (fun r w₂ => w₂.coo = w₁.coo ∧ ∀ error, r = .error error →
          w₂.factory = w₁.factory ∧ w₂.sink = w₁.sink) := by
      rw [onFactory, ensures_focus]
      exact (instantiate_log request.factoryRequest w₁.toFactoryWorld).mono
        fun r f hf => ⟨rfl, hf⟩
    unfold Ensures at hinstantiate
    rcases hcreated : (onFactory (instantiate governance.factory context request.factoryRequest)).exec w₁ with ⟨r, w₂⟩
    rw [hcreated] at hinstantiate
    obtain ⟨hcoo', hfailed⟩ := hinstantiate
    cases r with
    | error e =>
      obtain ⟨hfactory, hsink⟩ := hfailed e rfl
      refine ⟨fun _ => rolled_error.mpr ⟨hcoo'.trans hcoo,
        hfactory.trans (congrArg FactoryWorld.factory hworld),
        hsink.trans (congrArg FactoryWorld.sink hworld)⟩, fun _ runtime' w₁' h => ?_⟩
      rw [Prod.mk.injEq] at h
      obtain ⟨-, rfl⟩ := h
      intro agent decision w₂' h'
      rw [hcreated] at h'
      cases h'
    | ok created =>
      obtain ⟨agent, decision⟩ := created
      -- The condition is about this one runtime, agent and world.
      refine Ensures.mono (Q := fun r w' => ((Publication.event (assignmentAnnouncement
        (assignedTask task request agent.agentId runtime) agent.agentId
          runtime.selectedRuntimeId)).accept governance context w₂.outlet).isSome = true
            ↔ Rolled w r w') ?_ fun r w' hr => ⟨fun h => ?_, fun h runtime' w₁' hrouted' => ?_⟩
      rotate_left
      · exact hr.mp (h runtime w₁ rfl agent decision w₂ hcreated)
      · rw [Prod.mk.injEq, Except.ok.injEq] at hrouted'
        obtain ⟨rfl, rfl⟩ := hrouted'
        intro agent' decision' w₂' hcreated'
        rw [hcreated, Prod.mk.injEq, Except.ok.injEq, Prod.mk.injEq] at hcreated'
        obtain ⟨⟨rfl, rfl⟩, rfl⟩ := hcreated'
        exact hr.mpr h
      show Ensures (writeCoo _ >>= _) w₂ _
      rw [ensures_writeCoo_bind, ensures_bind]
      refine (emit_accept (.event _) _).mono fun r w₃ hw₃ => ?_
      obtain ⟨-, -, hr⟩ := hw₃
      split at hr
      next outlet hacc =>
        obtain ⟨rfl, -⟩ := hr
        exact ⟨fun _ => rolled_ok w w₃ _, fun _ => Option.isSome_iff_exists.mpr ⟨outlet, hacc⟩⟩
      next hacc =>
        obtain ⟨⟨e, rfl⟩, hcoo₃, -⟩ := hr
        refine ⟨fun h => ?_, fun h => ?_⟩
        · rw [show (Publication.event (assignmentAnnouncement
            (assignedTask task request agent.agentId runtime) agent.agentId
              runtime.selectedRuntimeId)).accept governance context w₂.outlet = none
            from hacc] at h
          cases h
        · -- The task stays assigned.
          have htasks := congrArg GovernedAiCoo.tasks
            (hcoo₃.symm.trans (rolled_error.mp h).coo)
          have hput : w₂.coo.tasks.put (assignedTask task request agent.agentId runtime)
              = w.coo.tasks := htasks
          have hmem : assignedTask task request agent.agentId runtime ∈ w.coo.tasks := by
            rw [← hput]
            exact Store.mem_put_self _ _
          have hstatus := congrArg CooTaskState.status (Store.eq_of_keyOf_eq hmem hfound rfl)
          rw [hready] at hstatus
          cases hstatus

/-- `requestAssignment` is atomic exactly if its report is accepted, where no task sleeps. -/
theorem requestAssignment_atomic (request : AssignmentRequest)
    (sound : Sound w.coo) (hawake : Awake w.coo) :
    Ensures (requestAssignment governance.toGovernance context request) w (fun r w' =>
      AssignmentReportable governance context request w ↔ Rolled w r w') := by
  unfold requestAssignment AssignmentReportable
  rw [ensures_readCoo_bind, ensures_lift_bind]
  refine ⟨fun e he => ?_, fun task hfound => ?_⟩
  · rw [rolled_error, he]
    exact ⟨fun _ => Unchanged.refl w, fun _ task h => (by cases h)⟩
  have hget : w.coo.tasks.get? (key context.workspaceId request.taskId) = some task := by
    simp only [findAssignable, check_bind_eq_ok] at hfound
    exact requireTask_eq_ok.mp hfound.2.2.2
  have hmem := Store.mem_of_get? hget
  -- Awake tasks are refreshed without a change.
  have hidle : (refreshTaskReadiness governance.toGovernance context request.taskId).exec w
      = (.ok (), w) := refreshTaskReadiness_idle sound hget (hawake task hmem)
  simp only [hfound, Except.ok.injEq, forall_eq']
  rw [ensures_bind, Ensures, hidle]
  show Ensures (readCoo >>= _) w _
  rw [ensures_readCoo_bind, requireTask_eq_ok.mpr hget, ensures_ok_bind, ensures_lift_bind]
  refine ⟨fun e he => ?_, fun _ hchecked => ?_⟩
  · rw [rolled_error, he]
    exact ⟨fun _ => Unchanged.refl w, fun _ h => (by cases h)⟩
  · simp only [hchecked, forall_true_left]
    exact assignTask_atomic request hmem (checkAssignment_ready hchecked).2

/-! ## Runs -/

/-- **The reports of a call** that passes its checks are accepted, as seen from the state before the
call: every identifier read is a text not used before, every time read is within the calendar, and
the event log accepts every event. Usage that charges nothing may be refused. -/
def Reportable (governance : LoggedGovernance ω) (w : World ω EventLog) : Call ω EventLog → Prop
  | .createPlan context plan => PlanReportable governance context plan w
  | .requestAssignment context request => AssignmentReportable governance context request w
  | .recordUsage context taskId costMinorUnits computeUnits =>
    ∀ task, checkUsage governance.toGovernance w.coo context taskId costMinorUnits
        computeUnits = .ok task →
      (costMinorUnits = 0 ∧ computeUnits = 0) ∨ ((Publication.event (usageAnnouncement
        (chargedTask task costMinorUnits computeUnits) costMinorUnits computeUnits)).accept
          governance context w.outlet).isSome = true
  | .completeTask context taskId evidence =>
    CompletionReportable governance context taskId evidence w
  | .recordFailure context taskId failureCode =>
    ∀ task, checkFailure governance.toGovernance w.coo context taskId failureCode = .ok task →
      ((Publication.event (failureAnnouncement governance.toGovernance
        (failedTask task failureCode) failureCode)).accept governance context
          w.outlet).isSome = true
  | _ => True

/-- The operations of the COO. -/
def Call.Operates {σ : Type} : Call ω σ → Prop
  | .createPlan _ _ => True
  | .requestAssignment _ _ => True
  | .recordUsage _ _ _ _ => True
  | .completeTask _ _ _ => True
  | .recordFailure _ _ _ => True
  | _ => False

/-- A step that is atomic: if it is an operation of the COO that throws, then the fields of the COO,
the factory and the event log are as they were. -/
def AtomicStep (e : Step ω EventLog) : Prop :=
  e.label.Operates → Rolled e.before e.outcome e.after

/-- **A step is atomic** exactly if its call is reportable, where no task sleeps. -/
theorem atomicStep_iff (call : Call ω EventLog) (budgeted : Budgeted w.coo)
    (hawake : Awake w.coo) :
    Reportable governance w call ↔ AtomicStep (entryAt (perform governance.toGovernance) w call) := by
  have hperform : ∀ {α : Type} {x : Op ω EventLog α} {f : α → Answer} {C : Prop},
      Ensures x w (fun r w' => C ↔ Rolled w r w') →
      (C ↔ Rolled w (Program.exec (do return f (← x)) w).1 (Program.exec (do return f (← x)) w).2) :=
    fun h => ensures_rolled_map h
  have hoperates : ∀ {P : Prop}, (True → P) ↔ P := by simp
  cases call with
  | createPlan context plan =>
    exact (hperform (createPlan_atomic plan budgeted.sound)).trans hoperates.symm
  | requestAssignment context request =>
    exact (hperform (requestAssignment_atomic request budgeted.sound hawake)).trans
      hoperates.symm
  | recordUsage context taskId costMinorUnits computeUnits =>
    exact (hperform (f := fun _ => .done)
      (recordUsage_atomic taskId costMinorUnits computeUnits budgeted)).trans hoperates.symm
  | completeTask context taskId evidence =>
    exact (hperform (f := fun _ => .done)
      ((completeTask_atomic taskId evidence budgeted.sound).mono fun _ _ h => h.1)).trans
        hoperates.symm
  | recordFailure context taskId failureCode =>
    exact (hperform (recordFailure_atomic taskId failureCode w)).trans hoperates.symm
  | _ => exact ⟨fun _ h => h.elim, fun _ => trivial⟩

/-- A reportable call leaves no task asleep. -/
theorem Reportable.awake {call : Call ω EventLog}
    (h : Reportable governance w call) (budgeted : Budgeted w.coo) (hawake : Awake w.coo) :
    Awake (perform governance.toGovernance call w).2.coo := by
  by_cases hcall : ∃ context taskId evidence, call = .completeTask context taskId evidence
  · obtain ⟨context, taskId, evidence, rfl⟩ := hcall
    refine perform_awake _ budgeted.sound hawake ?_
    have hspec : Ensures (answer governance.toGovernance (.completeTask context taskId evidence)) w
        (fun _ w' => w'.refusals = w.refusals) := by
      show Ensures (completeTask governance.toGovernance context taskId evidence >>= _) w _
      rw [ensures_bind]
      refine (completeTask_atomic taskId evidence budgeted.sound).mono fun r w' hw => ?_
      cases r with
      | error e => exact hw.2 h
      | ok u => exact hw.2 h
    exact hspec
  · simp only [not_exists] at hcall
    exact (perform_moves governance.toGovernance call w).writes.awake hcall budgeted.sound hawake

variable (governance)

/-- **Atomicity of the AI COO.** In every run, all operations that throw leave the objectives,
projects, tasks, approvals, consumed requests and events of the COO, the factory and the event log as
they were exactly if every call of the run is reportable. -/
theorem operations_are_atomic_iff (outside : ω) (log : EventLog) (calls : List (Call ω EventLog)) :
    (∀ e ∈ trace governance.toGovernance outside log calls,
        Reportable governance e.before e.label) ↔
      ∀ e ∈ trace governance.toGovernance outside log calls, AtomicStep e := by
  -- Along the run, reportable calls also leave no task asleep.
  suffices h : ((∀ e ∈ trace governance.toGovernance outside log calls,
        Reportable governance e.before e.label) ↔
      ∀ e ∈ trace governance.toGovernance outside log calls, AtomicStep e)
      ∧ ((∀ e ∈ trace governance.toGovernance outside log calls,
          Reportable governance e.before e.label) →
        Awake (reach governance.toGovernance outside log calls).coo) from h.1
  induction calls using List.reverseRecOn with
  | nil =>
    exact ⟨⟨fun _ e he => (by cases he), fun _ e he => (by cases he)⟩,
      fun _ task htask => absurd htask (Store.not_mem_empty task)⟩
  | append_singleton calls call ih =>
    obtain ⟨hiff, hawake⟩ := ih
    have hbudgeted := reach_budgeted governance.toGovernance outside log calls
    unfold trace at hiff hawake ⊢
    unfold reach at hawake hbudgeted ⊢
    simp only [history_concat, List.forall_mem_append, List.forall_mem_singleton, run_concat]
    constructor
    · rw [← hiff]
      refine and_congr_right fun hbefore => ?_
      exact atomicStep_iff call hbudgeted (hawake hbefore)
    · rintro ⟨hbefore, hcall⟩
      exact Reportable.awake hcall hbudgeted (hawake hbefore)

namespace Sample

/-- Parsing of the one time stamp of the sample run. -/
def dateParse (s : String) : Option Int :=
  if s = "1970-01-01T00:00:00.000Z" then some 0 else none

/-- The planner reports as an agent. -/
def capability : OperationalEventCapability := ⟨.AI_COO, [⟨"w", "planner", .AGENT, none⟩]⟩

/-- The company with an event log. -/
def logged : LoggedGovernance Unit where
  toGovernance := company (some (EventLog.sink dateParse, capability)) none
  dateParse := dateParse
  capability := capability
  logged := rfl
  factoryLogged := fun _ _ h => by cases h

/-- A plan whose objective is named by a text with a blank in it. -/
def unreportable : Call Unit EventLog := .createPlan planner (plan "o 1" ["denied"])

/-- The first report of the plan is accepted where the objective is named by a reference. -/
example : (acceptAll logged planner (planPublications (plan "o" ["denied"]))
    (World.initial () EventLog.empty).outlet).isSome = true := by decide

end Sample

/-- The COO accepts the plan and stores it, and the event log refuses the report of its objective. -/
theorem refused_report_leaves_plan :
    ¬ ∀ e ∈ trace Sample.logged.toGovernance () EventLog.empty [Sample.unreportable],
      AtomicStep e := by
  intro h
  have hstep := h _ List.mem_cons_self trivial
  have hrefused : (perform Sample.logged.toGovernance Sample.unreportable
      (World.initial () EventLog.empty)).1.toOption.isNone = true := by decide
  have hstored : (perform Sample.logged.toGovernance Sample.unreportable
      (World.initial () EventLog.empty)).2.coo.objectives.has (key "w" "o 1") = true := by
    decide
  cases houtcome : (perform Sample.logged.toGovernance Sample.unreportable (World.initial () EventLog.empty)).1 with
  | ok a =>
    rw [houtcome] at hrefused
    cases hrefused
  | error e =>
    have hcoo := (hstep e houtcome).coo
    rw [show (perform Sample.logged.toGovernance Sample.unreportable
      (World.initial () EventLog.empty)).2.coo = GovernedAiCoo.empty from hcoo] at hstored
    cases hstored

end VentureOS.Coo
