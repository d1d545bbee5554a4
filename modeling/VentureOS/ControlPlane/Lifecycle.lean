import VentureOS.ControlPlane.Admission

/-! # The life cycle of tasks and runs

A task's status is written by two paths, `transitionTask` and `transitionRun`, each with a
transition table of its own. `Coherent` relates what both leave behind: a run determines the status
of its task (`taskStatusOf`), a task has at most one run, and a task that has been executed has one.
Every effect keeps it, so it holds in every reachable plane. -/

namespace VentureOS.ControlPlane

open Relation

variable {σ : Type} {options : Options σ}

/-! ## Coherence -/

/-- The status of a task whose run has the given status. -/
def taskStatusOf : RunStatus → TaskStatus
  | .QUEUED => .READY
  | .RUNNING => .RUNNING
  | .PAUSED => .RUNNING
  | .COMPLETED => .COMPLETED
  | .FAILED => .FAILED
  | .CANCELLED => .CANCELLED

/-- A task status that only the execution of a run leads to. -/
def TaskStatus.Executed (status : TaskStatus) : Prop :=
  status = .RUNNING ∨ status = .COMPLETED ∨ status = .FAILED

/-- **Task and run coherence.** -/
structure Coherent (tasks : Store Key ControlPlaneTask) (runs : Store Key AgentRun) : Prop where
  /-- The run of a task determines its status. -/
  agrees : ∀ run ∈ runs, ∃ task, tasks.get? (key run.workspaceId run.taskId) = some task ∧
    task.status = taskStatusOf run.status
  /-- A task has at most one run. -/
  one : ∀ run ∈ runs, ∀ run' ∈ runs, run.workspaceId = run'.workspaceId →
    run.taskId = run'.taskId → run = run'
  /-- An executed task has a run. -/
  executed : ∀ task ∈ tasks, task.status.Executed →
    ∃ run ∈ runs, RunOfTask task.workspaceId task.id run

/-- A finished run leaves its task in a status without transitions. -/
theorem taskTransitions_of_not_active {status : RunStatus} (h : ¬ status.Active) :
    taskTransitions (taskStatusOf status) = [] := by
  cases status <;> first | rfl | exact absurd (by decide) h

/-- A run whose task is ready is active. -/
theorem active_of_taskStatusOf_eq_ready {status : RunStatus} (h : taskStatusOf status = .READY) :
    status.Active := by
  cases status <;> first | decide | cases h

/-- A legal run transition and the task transition it brings lead to agreeing statuses. -/
theorem taskStatusOf_next {current next : RunStatus} (h : next ∈ runTransitions current) :
    (taskStatusAfter current next).getD (taskStatusOf current) = taskStatusOf next := by
  cases current <;> cases next <;> first | rfl | (revert h; decide)

/-- A legal transition out of a run leaves an active run. -/
theorem active_of_runTransitions {current next : RunStatus} (h : next ∈ runTransitions current) :
    current.Active := by
  cases current <;> first | decide | cases h

variable {task : ControlPlaneTask}

/-- The tasks after a run transition, by key. -/
theorem get?_tasksAfter {tasks : Store Key ControlPlaneTask}
    (htask : task ∈ tasks) (status : Option TaskStatus) (k : Key) :
    (tasksAfter tasks task status).get? k
      = if k = keyOf task then some { task with status := status.getD task.status }
        else tasks.get? k := by
  cases status with
  | some s => exact Store.get?_put tasks { task with status := s } k
  | none =>
    -- Without a task transition the task is left as it is stored.
    show tasks.get? k = _
    split
    · rename_i hk; rw [hk]; exact htask
    · rfl

variable {run : AgentRun}

namespace Coherent

variable {tasks : Store Key ControlPlaneTask} {runs : Store Key AgentRun}

/-- A task without active run that can still move has no run. -/
theorem no_run (h : Coherent tasks runs) (htask : task ∈ tasks)
    (hmoves : taskTransitions task.status ≠ [])
    (hidle : ∀ run ∈ runs, RunOfTask task.workspaceId task.id run → ¬ run.status.Active) :
    ∀ run ∈ runs, ¬ RunOfTask task.workspaceId task.id run := by
  intro run hrun hof
  obtain ⟨task', htask', hstatus⟩ := h.agrees run hrun
  have hget : tasks.get? (key task.workspaceId task.id) = some task := htask
  rw [hof.1, hof.2, hget, Option.some.injEq] at htask'
  rw [htask', hstatus, taskTransitions_of_not_active (hidle run hrun hof)] at hmoves
  exact hmoves rfl

/-- A new ready task has no run yet. -/
theorem createTask (h : Coherent tasks runs)
    (hready : task.status = .READY) (hfresh : tasks.get? (keyOf task) = none) :
    Coherent (tasks.put task) runs where
  agrees run hrun := by
    obtain ⟨task', htask', hstatus⟩ := h.agrees run hrun
    exact ⟨task', Store.get?_put_of_fresh hfresh htask', hstatus⟩
  one := h.one
  executed task' htask' hexecuted := by
    rcases (Store.mem_put_of_fresh hfresh).mp htask' with rfl | htask'
    · rw [hready] at hexecuted
      simp [TaskStatus.Executed] at hexecuted
    · exact h.executed task' htask' hexecuted

/-- A task that `transitionTask` may move has no run, before and after. -/
theorem transitionTask (h : Coherent tasks runs) {next : TaskStatus}
    (htask : task ∈ tasks) (hlegal : next ∈ taskTransitions task.status)
    (hrunning : next ≠ .RUNNING) (hcompleted : next ≠ .COMPLETED)
    (hidle : ∀ run ∈ runs, RunOfTask task.workspaceId task.id run → ¬ run.status.Active) :
    Coherent (tasks.put { task with status := next }) runs := by
  have hnone := h.no_run htask (List.ne_nil_of_mem hlegal) hidle
  refine ⟨fun run hrun => ?_, h.one, fun task' htask' hexecuted => ?_⟩
  · obtain ⟨task', htask', hstatus⟩ := h.agrees run hrun
    refine ⟨task', ?_, hstatus⟩
    rw [Store.get?_put, if_neg]
    · exact htask'
    · intro hk
      rw [keyOf_task, key_inj] at hk
      exact hnone run hrun hk
  · rcases Store.mem_put.mp htask' with rfl | ⟨htask', -⟩
    · -- The one executed status the call may ask for is `FAILED`, which only `RUNNING` leads to.
      rcases hexecuted with heq | heq | heq
      · exact absurd heq hrunning
      · exact absurd heq hcompleted
      · have heq : next = .FAILED := heq
        have hfrom : task.status = .RUNNING := by
          revert hlegal
          rw [heq]
          cases task.status <;> simp [taskTransitions]
        obtain ⟨run, hrun, hof⟩ := h.executed task htask (Or.inl hfrom)
        exact absurd hof (hnone run hrun)
    · exact h.executed task' htask' hexecuted

/-- A new queued run of a ready task without active run is its first run. -/
theorem startRun (h : Coherent tasks runs) {run : AgentRun} {task : ControlPlaneTask}
    (hqueued : run.status = .QUEUED)
    (htask : tasks.get? (key run.workspaceId run.taskId) = some task)
    (hready : task.status = .READY) (hfresh : runs.get? (keyOf run) = none)
    (hidle : ∀ other ∈ runs, RunOfTask run.workspaceId run.taskId other → ¬ other.status.Active) :
    Coherent tasks (runs.put run) := by
  -- A run of a ready task would be active, and the task has no active run.
  have hnone : ∀ other ∈ runs, ¬ RunOfTask run.workspaceId run.taskId other := by
    intro other hother hof
    obtain ⟨task', htask', hstatus⟩ := h.agrees other hother
    rw [hof.1, hof.2, htask, Option.some.injEq] at htask'
    refine hidle other hother hof (active_of_taskStatusOf_eq_ready ?_)
    rw [← hstatus, ← htask', hready]
  refine ⟨fun other hother => ?_, fun a ha b hb hws htid => ?_, fun task' htask' hexecuted => ?_⟩
  · rcases (Store.mem_put_of_fresh hfresh).mp hother with rfl | hother
    · exact ⟨task, htask, by rw [hready, hqueued]; rfl⟩
    · exact h.agrees other hother
  · rcases (Store.mem_put_of_fresh hfresh).mp ha with rfl | holda <;>
      rcases (Store.mem_put_of_fresh hfresh).mp hb with rfl | holdb
    · rfl
    · exact absurd ⟨hws.symm, htid.symm⟩ (hnone b holdb)
    · exact absurd ⟨hws, htid⟩ (hnone a holda)
    · exact h.one a holda b holdb hws htid
  · obtain ⟨other, hother, hof⟩ := h.executed task' htask' hexecuted
    exact ⟨other, (Store.mem_put_of_fresh hfresh).mpr (Or.inr hother), hof⟩

/-- A run and its task that move together stay coherent. -/
theorem moveRun (h : Coherent tasks runs) {run' : AgentRun} {tasks' : Store Key ControlPlaneTask}
    (hrun : run ∈ runs) (hkey : keyOf run' = keyOf run) (htid : run'.taskId = run.taskId)
    (hagrees : ∃ task', tasks'.get? (key run.workspaceId run.taskId) = some task' ∧
      task'.status = taskStatusOf run'.status)
    (hframe : ∀ k, k ≠ key run.workspaceId run.taskId → tasks'.get? k = tasks.get? k) :
    Coherent tasks' (runs.put run') := by
  obtain ⟨hws, hid⟩ := key_inj.mp (show key run'.workspaceId run'.id = key run.workspaceId run.id
    from hkey)
  -- Another run belongs to another task, which has not moved.
  have hother : ∀ other ∈ runs, keyOf other ≠ keyOf run' →
      key other.workspaceId other.taskId ≠ key run.workspaceId run.taskId := by
    intro other hmem hne hk
    obtain ⟨hw, ht⟩ := key_inj.mp hk
    exact hne (by rw [hkey, h.one other hmem run hrun hw ht])
  refine ⟨fun other hmem => ?_, fun a ha b hb hw ht => ?_, fun task' htask' hexecuted => ?_⟩
  · rcases Store.mem_put.mp hmem with rfl | ⟨hmem, hne⟩
    · rw [hws, htid]; exact hagrees
    · obtain ⟨task', htask', hstatus⟩ := h.agrees other hmem
      exact ⟨task', by rw [hframe _ (hother other hmem hne)]; exact htask', hstatus⟩
  · rcases Store.mem_put.mp ha with rfl | ⟨holda, hna⟩ <;>
      rcases Store.mem_put.mp hb with rfl | ⟨holdb, hnb⟩
    · rfl
    · exact absurd (by rw [← hw, ← ht, hws, htid]) (hother b holdb hnb)
    · exact absurd (by rw [hw, ht, hws, htid]) (hother a holda hna)
    · exact h.one a holda b holdb hw ht
  -- The task of the moved run has that run, any other task keeps its own.
  · by_cases hk : key task'.workspaceId task'.id = key run.workspaceId run.taskId
    · obtain ⟨hw, ht⟩ := key_inj.mp hk
      exact ⟨run', Store.mem_put_self _ _, by rw [hws, hw], by rw [htid, ht]⟩
    · have hmem : task' ∈ tasks := by
        rw [Store.mem_iff_get?, keyOf_task, hframe _ hk] at htask'
        exact htask'
      obtain ⟨other, hmem', hof⟩ := h.executed task' hmem hexecuted
      have hne : keyOf other ≠ keyOf run' := by
        intro heq
        have : other = run := Store.eq_of_keyOf_eq hmem' hrun (heq.trans hkey)
        rw [this] at hof
        exact hk (by rw [hof.1, hof.2])
      exact ⟨other, Store.mem_put.mpr (Or.inr ⟨hmem', hne⟩), hof⟩

/-- **Every effect keeps tasks and runs coherent.** -/
theorem effect {readings : Readings} {plane plane' : Plane} {call : Call}
    {outcome : Except Failure Answer} (h : Coherent plane.tasks plane.runs)
    (he : Effect options readings plane call outcome plane') :
    Coherent plane'.tasks plane'.runs := by
  cases he with
  | createTask admitted =>
    have hadmitted := TaskAdmitted.of_ok admitted
    exact h.createTask hadmitted.ready hadmitted.fresh
  | transitionTask admitted legal =>
    have hadmitted := TaskTransitionAdmitted.of_ok admitted
    exact h.transitionTask (Store.mem_of_get? hadmitted.found) legal hadmitted.not_running
      hadmitted.not_completed hadmitted.idle
  | startRun admitted =>
    obtain ⟨task, connection, hadmitted⟩ := RunAdmitted.of_ok admitted
    exact h.startRun hadmitted.queued hadmitted.task_found hadmitted.task_ready hadmitted.fresh
      hadmitted.idle
  | boundRun pending admitted =>
    obtain ⟨connection, hadmitted⟩ := BindingAdmitted.of_ok admitted
    have hrun := Store.mem_of_get? hadmitted.found
    exact h.moveRun hrun rfl rfl (h.agrees _ hrun) fun _ _ => rfl
  | @transitionRun context runId next run task now admitted =>
    have hadmitted := RunTransitionAdmitted.of_ok admitted
    have hrun : run ∈ plane.runs := Store.mem_of_get? hadmitted.found
    have htask : task ∈ plane.tasks := Store.mem_of_get? hadmitted.task_found
    have hkey : keyOf task = key run.workspaceId run.taskId :=
      Store.keyOf_of_get? hadmitted.task_found
    -- Task and run agree before the step, so the two tables lead to agreeing statuses.
    have hstatus : task.status = taskStatusOf run.status := by
      obtain ⟨task', htask', hstatus⟩ := h.agrees run hrun
      rw [hadmitted.task_found, Option.some.injEq] at htask'
      rw [htask', hstatus]
    refine h.moveRun hrun rfl rfl ?_ fun k hk => ?_
    · refine ⟨_, by rw [get?_tasksAfter htask, if_pos hkey.symm], ?_⟩
      rw [hstatus]
      exact taskStatusOf_next hadmitted.legal
    · rw [get?_tasksAfter htask, if_neg (by rw [hkey]; exact hk)]
  | _ => exact h

/-- Tasks and runs are coherent in every reachable plane. -/
theorem of_reachable {plane : Plane} (h : Reachable options plane) :
    Coherent plane.tasks plane.runs := by
  refine h.induction (P := fun plane => Coherent plane.tasks plane.runs) ?_
    fun _ hc he => hc.effect he
  refine ⟨fun run hrun => ?_, fun run hrun => ?_, fun task htask => ?_⟩
  · exact absurd hrun (Store.not_mem_empty run)
  · exact absurd hrun (Store.not_mem_empty run)
  · exact absurd htask (Store.not_mem_empty task)

end Coherent

/-! ## Runs persist -/

/-- The later record continues the earlier one: same run, same task, same connection, and a run that
ended stays ended. -/
structure Continues (run run' : AgentRun) : Prop where
  workspace : run'.workspaceId = run.workspaceId
  id : run'.id = run.id
  task : run'.taskId = run.taskId
  connection : run'.runtimeConnectionId = run.runtimeConnectionId
  active : run'.status.Active → run.status.Active

variable {plane plane' : Plane}

/-- The task transition that a run transition brings was checked too. -/
theorem legal_of_admitRunTransition {context : WorkspaceContext} {runId : EntityId} {next : RunStatus}
    {status : TaskStatus} (h : admitRunTransition options plane context runId next = .ok (run, task))
    (hstatus : taskStatusAfter run.status next = some status) : status ∈ taskTransitions task.status := by
  simp only [admitRunTransition, except_bind_eq_ok] at h
  obtain ⟨run', -, _, -, _, -, _, -, _, -, _, -, _, -, task', -, h⟩ := h
  split at h
  · rename_i hnone
    cases h
    rw [hnone] at hstatus
    cases hstatus
  · rename_i status' hsome
    simp only [except_bind_eq_ok, throwIf_eq_ok, not_not, exists_const] at h
    obtain ⟨hlegal, h⟩ := h
    cases h
    exact Option.some.inj (hsome.symm.trans hstatus) ▸ hlegal

/-- The later record of a task differs in its status at most, which moved along the table. -/
def TaskMoved (task task' : ControlPlaneTask) : Prop :=
  task' = { task with status := task'.status }
    ∧ ReflTransGen (fun status next => next ∈ taskTransitions status) task.status task'.status

/-- The later record of a run is of the same task and connection, and its status moved along the table. -/
def RunMoved (run run' : AgentRun) : Prop :=
  run'.taskId = run.taskId ∧ run'.runtimeConnectionId = run.runtimeConnectionId
    ∧ ReflTransGen (fun status next => next ∈ runTransitions status) run.status run'.status

variable {k : Key}

/-- What moved from a stored run continues it. -/
theorem RunMoved.continues {run' : AgentRun} (h : RunMoved run run')
    (hrun : plane.runs.get? k = some run) (hrun' : plane'.runs.get? k = some run') : Continues run run' := by
  obtain ⟨htask, hconnection, hpath⟩ := h
  have hkey : key run'.workspaceId run'.id = key run.workspaceId run.id :=
    (Store.keyOf_of_get? hrun').trans (Store.keyOf_of_get? hrun).symm
  refine ⟨(key_inj.mp hkey).1, (key_inj.mp hkey).2, htask, hconnection, fun hactive => ?_⟩
  rcases hpath.cases_head with hsame | ⟨_, hlegal, -⟩
  · exact hsame ▸ hactive
  · exact active_of_runTransitions hlegal

section Effects

variable {readings : Readings} {call : Call} {outcome : Except Failure Answer}
  (he : Effect options readings plane call outcome plane')
include he

/-- **What an effect does to the runs.** It leaves them, adds a fresh queued run without external
ownership, binds the run of an awaited start, or moves the status of a run along its table. -/
theorem Effect.runs_cases : plane'.runs = plane.runs
    ∨ (∃ context run task connection, RunAdmitted plane context run task connection
        ∧ plane'.runs = plane.runs.put run)
    ∨ (∃ number frame externalRunId run connection,
        plane.pendingStarts.get? number = some frame
        ∧ BindingAdmitted (plane.resumeStart number) frame.context frame.runId externalRunId
          frame.registration.registrationId run connection
        ∧ plane'.runs = plane.runs.put { run with
            externalRunId := some externalRunId
            adapterRegistrationId := some frame.registration.registrationId })
    ∨ ∃ context runId next run task now,
        RunTransitionAdmitted plane context runId next run task
        ∧ plane'.runs = plane.runs.put (transitionedRun run next now) := by
  cases he with
  | startRun admitted =>
    obtain ⟨task, connection, hadmitted⟩ := RunAdmitted.of_ok admitted
    exact .inr (.inl ⟨_, _, task, connection, hadmitted, rfl⟩)
  | boundRun pending admitted =>
    obtain ⟨connection, hadmitted⟩ := BindingAdmitted.of_ok admitted
    exact .inr (.inr (.inl ⟨_, _, _, _, connection, pending, hadmitted, rfl⟩))
  | transitionRun admitted =>
    exact .inr (.inr (.inr ⟨_, _, _, _, _, _, RunTransitionAdmitted.of_ok admitted, rfl⟩))
  | _ => exact .inl rfl

/-- **What an effect does to the tasks.** It leaves them, adds a fresh task, or moves the status of a task along its
table. -/
theorem Effect.tasks_cases : plane'.tasks = plane.tasks
    ∨ (∃ context task, admitTask options readings plane context task = .ok () ∧ plane'.tasks = plane.tasks.put task)
    ∨ ∃ task ∈ plane.tasks, ∃ status ∈ taskTransitions task.status,
        plane'.tasks = plane.tasks.put { task with status := status } := by
  cases he with
  | createTask admitted => exact .inr (.inl ⟨_, _, admitted, rfl⟩)
  | transitionTask admitted legal =>
    have hfound := (TaskTransitionAdmitted.of_ok admitted).found
    exact .inr (.inr ⟨_, Store.mem_of_get? hfound, _, legal, rfl⟩)
  | @transitionRun context runId next run task now admitted =>
    have hfound := (RunTransitionAdmitted.of_ok admitted).task_found
    cases hnext : taskStatusAfter run.status next with
    | none => exact .inl (by simp only [tasksAfter])
    | some status =>
      refine .inr (.inr ⟨task, Store.mem_of_get? hfound, status, legal_of_admitRunTransition admitted hnext, ?_⟩)
      simp only [tasksAfter]
  | _ => exact .inl rfl

/-- **No effect loses a task.** -/
theorem Effect.task_moved (htask : plane.tasks.get? k = some task) :
    ∃ task', plane'.tasks.get? k = some task' ∧ TaskMoved task task' := by
  have hrefl : ∀ task, TaskMoved task task := fun _ => ⟨rfl, .refl⟩
  rcases he.tasks_cases with htasks | ⟨_, new, hadmitted, htasks⟩ | ⟨old, hold, status, hlegal, htasks⟩
  all_goals rw [htasks]
  · exact ⟨task, htask, hrefl task⟩
  · exact ⟨task, Store.get?_put_of_fresh (TaskAdmitted.of_ok hadmitted).fresh htask, hrefl task⟩
  · exact Store.exists_get?_put hrefl hold rfl ⟨rfl, .single hlegal⟩ htask

/-- **No effect loses a run.** -/
theorem Effect.run_moved (hrun : plane.runs.get? k = some run) :
    ∃ run', plane'.runs.get? k = some run' ∧ RunMoved run run' := by
  have hrefl : ∀ run, RunMoved run run := fun _ => ⟨rfl, rfl, .refl⟩
  rcases he.runs_cases with hruns | ⟨_, new, _, _, hadmitted, hruns⟩
    | ⟨_, _, _, bound, _, _, hadmitted, hruns⟩ | ⟨_, _, _, moved, _, _, hadmitted, hruns⟩
  all_goals rw [hruns]
  · exact ⟨run, hrun, hrefl run⟩
  · exact ⟨run, Store.get?_put_of_fresh hadmitted.fresh hrun, hrefl run⟩
  · exact Store.exists_get?_put hrefl (Store.mem_of_get? hadmitted.found) rfl ⟨rfl, rfl, .refl⟩ hrun
  · exact Store.exists_get?_put hrefl (Store.mem_of_get? hadmitted.found) rfl
      ⟨rfl, rfl, .single hadmitted.legal⟩ hrun

theorem Effect.run_continues (hrun : plane.runs.get? k = some run) :
    ∃ run', plane'.runs.get? k = some run' ∧ Continues run run' := by
  obtain ⟨run', hrun', hmoved⟩ := he.run_moved hrun
  exact ⟨run', hrun', hmoved.continues hrun hrun'⟩

end Effects

/-- A recorded run stays recorded along every continuation. -/
theorem reach_run_moved {sink : σ} {labels : List Label}
    (hrun : (reach options sink labels).plane.runs.get? k = some run) (more : List Label) :
    ∃ run', (reach options sink (labels ++ more)).plane.runs.get? k = some run' ∧ RunMoved run run' := by
  refine reach_append_induction (P := fun plane => ∃ run', plane.runs.get? k = some run' ∧ RunMoved run run')
    ⟨run, hrun, rfl, rfl, .refl⟩ ?_ more
  rintro readings plane call outcome plane' - ⟨mid, hmid, htask, hconnection, hpath⟩ he
  obtain ⟨run', hrun', htask', hconnection', hpath'⟩ := he.run_moved hmid
  exact ⟨run', hrun', htask'.trans htask, hconnection'.trans hconnection, hpath.trans hpath'⟩

theorem reach_run_continues {sink : σ} {labels : List Label}
    (hrun : (reach options sink labels).plane.runs.get? k = some run) (more : List Label) :
    ∃ run', (reach options sink (labels ++ more)).plane.runs.get? k = some run' ∧ Continues run run' := by
  obtain ⟨run', hrun', hmoved⟩ := reach_run_moved hrun more
  exact ⟨run', hrun', hmoved.continues hrun hrun'⟩

/-! ## Coherence of every run of the machine -/

/-- The run is the one run of the task. -/
def OnlyRun (plane : Plane) (task : ControlPlaneTask) (run : AgentRun) : Prop :=
  ∀ run', (run' ∈ plane.runs ∧ RunOfTask task.workspaceId task.id run') ↔ run' = run

/-- An executed task has exactly one run, and its status agrees. -/
theorem Coherent.exists_onlyRun {plane : Plane} (h : Coherent plane.tasks plane.runs)
    (htask : task ∈ plane.tasks) (hexecuted : task.status.Executed) :
    ∃ run, OnlyRun plane task run ∧ taskStatusOf run.status = task.status := by
  obtain ⟨run, hrun, hof⟩ := h.executed task htask hexecuted
  refine ⟨run, fun run' => ⟨fun ⟨hrun', hof'⟩ => ?_, ?_⟩, ?_⟩
  · exact h.one run' hrun' run hrun (hof'.1.trans hof.1.symm) (hof'.2.trans hof.2.symm)
  · rintro rfl
    exact ⟨hrun, hof⟩
  · obtain ⟨task', htask', hstatus⟩ := h.agrees run hrun
    have hget : plane.tasks.get? (key task.workspaceId task.id) = some task := htask
    rw [hof.1, hof.2, hget, Option.some.injEq] at htask'
    rw [htask', hstatus]

/-- **Task and run coherence.** After every sequence of calls and settlements, any two runs ever
recorded for a task are the same run; the status of a run determines the status of its task; and a
`RUNNING`, `COMPLETED` or `FAILED` task has exactly one run, in the matching status. -/
theorem tasks_and_runs_coherent (options : Options σ) (sink : σ) (labels : List Label) :
    (∀ more, ∀ run ∈ (reach options sink labels).plane.runs,
      ∀ run' ∈ (reach options sink (labels ++ more)).plane.runs,
        run.workspaceId = run'.workspaceId → run.taskId = run'.taskId → run.id = run'.id) ∧
    (∀ run ∈ (reach options sink labels).plane.runs, ∃ task,
      (reach options sink labels).plane.tasks.get? (key run.workspaceId run.taskId) = some task ∧
        task.status = taskStatusOf run.status) ∧
    (∀ task ∈ (reach options sink labels).plane.tasks,
      (task.status = .RUNNING → ∃ run, OnlyRun (reach options sink labels).plane task run ∧
        (run.status = .RUNNING ∨ run.status = .PAUSED)) ∧
      (task.status = .COMPLETED → ∃ run, OnlyRun (reach options sink labels).plane task run ∧
        run.status = .COMPLETED) ∧
      (task.status = .FAILED → ∃ run, OnlyRun (reach options sink labels).plane task run ∧
        run.status = .FAILED)) := by
  have hcoherent := Coherent.of_reachable (reachable_reach options sink labels)
  refine ⟨fun more run hrun run' hrun' hws htid => ?_, hcoherent.agrees, fun task htask => ?_⟩
  · -- The earlier run is still there, and the later plane is coherent too.
    have hlater := Coherent.of_reachable (reachable_reach options sink (labels ++ more))
    obtain ⟨now, hnow, hcontinues⟩ := reach_run_continues hrun more
    have heq := hlater.one now (Store.mem_of_get? hnow) run' hrun'
      (hcontinues.workspace.trans hws) (hcontinues.task.trans htid)
    rw [← heq, hcontinues.id]
  · refine ⟨fun hstatus => ?_, fun hstatus => ?_, fun hstatus => ?_⟩
    · obtain ⟨run, honly, hagrees⟩ := hcoherent.exists_onlyRun htask (Or.inl hstatus)
      rw [hstatus] at hagrees
      exact ⟨run, honly, by cases h : run.status <;> simp_all [taskStatusOf]⟩
    · obtain ⟨run, honly, hagrees⟩ := hcoherent.exists_onlyRun htask (Or.inr (Or.inl hstatus))
      rw [hstatus] at hagrees
      exact ⟨run, honly, by cases h : run.status <;> simp_all [taskStatusOf]⟩
    · obtain ⟨run, honly, hagrees⟩ := hcoherent.exists_onlyRun htask (Or.inr (Or.inr hstatus))
      rw [hstatus] at hagrees
      exact ⟨run, honly, by cases h : run.status <;> simp_all [taskStatusOf]⟩

/-! ## Histories -/

/-- **Statuses only move along the tables.** Whatever calls and settlements come after, each task and each run that is
stored stays stored, a task changes in nothing but its status, a run keeps its task and its connection, and both
statuses are reached step by step along `TASK_TRANSITIONS` and `RUN_TRANSITIONS`. -/
theorem statuses_move_along_tables (options : Options σ) (sink : σ) (labels more : List Label) :
    (∀ k task, (reach options sink labels).plane.tasks.get? k = some task →
      ∃ task', (reach options sink (labels ++ more)).plane.tasks.get? k = some task' ∧ TaskMoved task task')
    ∧ ∀ k run, (reach options sink labels).plane.runs.get? k = some run →
      ∃ run', (reach options sink (labels ++ more)).plane.runs.get? k = some run' ∧ RunMoved run run' := by
  refine ⟨fun k task htask => ?_, fun k run hrun => reach_run_moved hrun more⟩
  refine reach_append_induction (P := fun plane => ∃ task', plane.tasks.get? k = some task' ∧ TaskMoved task task')
    ⟨task, htask, rfl, .refl⟩ ?_ more
  rintro readings plane call outcome plane' - ⟨mid, hmid, hsame, hpath⟩ he
  obtain ⟨task', htask', hsame', hpath'⟩ := he.task_moved hmid
  exact ⟨task', htask', by rw [hsame', hsame], hpath.trans hpath'⟩

end VentureOS.ControlPlane
