import VentureOS.Foundations.Prerequisites
import VentureOS.Durable.Integrity

/-! # Dependencies of durable tasks

The tasks of the database with their dependencies are a board (`Database.board`), and every call takes it one
step: a plan admits its tasks, a completion finishes one task and looks at its dependents, everything else
is work on free tasks (`board_step`). What is known of boards then holds of the service: which tasks are
blocked, what releases them, and which are never released. -/

namespace VentureOS.Durable

open ControlPlane Transaction Relation

variable {sha256 : String → String} {dateParse : String → Option Int} {db db' : Database}

/-! ## The board of a database -/

/-- The status of the task under a key. -/
def Database.statusOf (db : Database) (k : Key) : Option DurableTaskStatus :=
  (db.acpTask.get? k).map AcpTask.status

/-- The task under the first key depends on the one under the second. -/
def Database.Needs (db : Database) (k k' : Key) : Prop :=
  ∃ dependency ∈ db.acpTaskDependency, key dependency.workspaceId dependency.taskId = k
    ∧ key dependency.workspaceId dependency.dependsOnTaskId = k'

/-- The tasks that the task under a key depends on, as they are listed. -/
def Database.dependencyIds (db : Database) (k : Key) : List EntityId :=
  (db.acpTaskDependency.filter fun dependency =>
    key dependency.workspaceId dependency.taskId = k).map AcpTaskDependency.dependsOnTaskId

/-- How far a task with this status is. -/
def phaseOf : DurableTaskStatus → Phase
  | .BLOCKED => .blocked
  | .READY => .free
  | .AWAITING_APPROVAL => .free
  | .ASSIGNED => .free
  | .RUNNING => .free
  | .COMPLETED => .done
  | .FAILED => .dead
  | .STOPPED => .dead

/-- The tasks of the database and what they depend on. -/
def Database.board (db : Database) : Board Key := ⟨fun k => (db.statusOf k).map phaseOf, db.Needs⟩

theorem phaseOf_eq_blocked {status : DurableTaskStatus} : phaseOf status = .blocked ↔ status = .BLOCKED := by
  cases status <;> decide

theorem phaseOf_eq_done {status : DurableTaskStatus} : phaseOf status = .done ↔ status = .COMPLETED := by
  cases status <;> decide

variable {k : Key}

theorem board_blocked : db.board.phase k = some .blocked ↔ db.statusOf k = some .BLOCKED := by
  simp only [Database.board, Option.map_eq_some_iff, phaseOf_eq_blocked]
  exact ⟨fun ⟨_, h, hs⟩ => hs ▸ h, fun h => ⟨_, h, rfl⟩⟩

theorem board_done : db.board.phase k = some .done ↔ db.statusOf k = some .COMPLETED := by
  simp only [Database.board, Option.map_eq_some_iff, phaseOf_eq_done]
  exact ⟨fun ⟨_, h, hs⟩ => hs ▸ h, fun h => ⟨_, h, rfl⟩⟩

theorem board_known : db.board.phase k ≠ none ↔ db.statusOf k ≠ none := by
  simp [Database.board]

theorem statusOf_of_get? {task : AcpTask} (h : db.acpTask.get? k = some task) :
    db.statusOf k = some task.status := by
  rw [Database.statusOf, h, Option.map_some]

variable {dependency : AcpTaskDependency}

/-- A dependency is completed iff its task is. -/
theorem isCompleted_iff : db.IsCompleted dependency ↔
    db.statusOf (key dependency.workspaceId dependency.dependsOnTaskId) = some .COMPLETED := by
  simp [Database.IsCompleted, Database.statusOf]

/-- The dependencies of a task are the rows under its key. -/
theorem mem_dependenciesOf {task : AcpTask} :
    dependency ∈ db.dependenciesOf task ↔ dependency ∈ db.acpTaskDependency
      ∧ key dependency.workspaceId dependency.taskId = keyOf task := by
  simp [Database.dependenciesOf, key_inj]

/-! ## Steps of the board -/

/-- A board is given by the statuses and the dependencies. -/
theorem board_eq (htasks : db'.acpTask = db.acpTask)
    (hdependencies : db'.acpTaskDependency = db.acpTaskDependency) : db'.board = db.board := by
  unfold Database.board Database.statusOf Database.Needs
  rw [htasks, hdependencies]

/-- A task that moves was free, and is free, finished or given up. -/
theorem PairMove.phase {run run' : DurableRunStatus} {task task' : DurableTaskStatus}
    (h : PairMove run task run' task') :
    phaseOf task = .free ∧ (task' = .COMPLETED ∨ phaseOf task' = .free ∨ phaseOf task' = .dead) := by
  cases h with
  | assign => decide
  | start => decide
  | complete => decide
  | fail _ htask => rcases htask with rfl | rfl <;> decide
  | stop _ htask => rcases htask with rfl | rfl <;> decide
  | retry _ htask => rcases htask with rfl | rfl <;> decide

/-- What is completed was running. -/
theorem PairMove.running {run run' : DurableRunStatus} {task : DurableTaskStatus}
    (h : PairMove run task run' .COMPLETED) : run = .RUNNING ∧ task = .RUNNING := by
  cases h with
  | complete => exact ⟨rfl, rfl⟩

section Moved

variable {run run' : AcpRun} {task task' : AcpTask} (h : Moved db db' run run' task task')
include h

theorem Moved.statusOf (k : Key) :
    db'.statusOf k = if k = keyOf task then some task'.status else db.statusOf k := by
  unfold Database.statusOf
  rw [h.get?_task]
  split <;> rfl

theorem Moved.statusOf_task : db.statusOf (keyOf task) = some task.status :=
  statusOf_of_get? h.task_mem

theorem Moved.needs : db'.Needs = db.Needs := by
  unfold Database.Needs
  rw [h.database]
  rfl

/-- A task that moves but is not finished. -/
theorem Moved.board_step (hopen : task'.status ≠ .COMPLETED) : db.board.Step db'.board := by
  refine .work h.needs fun k => ?_
  show (db'.statusOf k).map phaseOf = (db.statusOf k).map phaseOf ∨ _
  rw [h.statusOf]
  by_cases hk : k = keyOf task
  · obtain ⟨hfree, hnext⟩ := h.pairMove.phase
    have hbefore : db.board.phase k = some .free := by
      show (db.statusOf k).map phaseOf = _
      rw [hk, h.statusOf_task, Option.map_some, hfree]
    have hafter : db'.board.phase k = some (phaseOf task'.status) := by
      show (db'.statusOf k).map phaseOf = _
      rw [h.statusOf, if_pos hk, Option.map_some]
    rcases hnext with hdone | hfree' | hdead
    · exact absurd hdone hopen
    · refine Or.inl ?_
      rw [if_pos hk, Option.map_some, hfree']
      exact hbefore.symm
    · exact Or.inr ⟨hbefore, by rw [hafter, hdead]⟩
  · exact Or.inl (by rw [if_neg hk])

end Moved

variable {task : DurableTaskPlanInput}

section Plans

variable {context : WorkspaceContext} {input : DurableObjectivePlanInput}
  (h : Planned sha256 context input db db')
include h

/-- The keys of the tasks of a plan. -/
def planKeys (input : DurableObjectivePlanInput) : Set Key :=
  {k | ∃ task ∈ input.tasks, k = key input.workspaceId task.id}

omit h in
theorem mem_planKeys :
    k ∈ planKeys input ↔ k ∈ (input.tasks.map (newTask sha256 input)).map keyOf := by
  rw [List.map_map]
  exact ⟨fun ⟨task, htask, hk⟩ => List.mem_map.mpr ⟨task, htask, hk.symm⟩, fun hk =>
    let ⟨task, htask, hk⟩ := List.mem_map.mp hk
    ⟨task, htask, hk.symm⟩⟩

/-- The tasks of a plan are new. -/
theorem Planned.statusOf_fresh (hk : k ∈ planKeys input) : db.statusOf k = none := by
  obtain ⟨runs, db₁, hinserted, -⟩ := h.inserted
  obtain ⟨task, htask, rfl⟩ := hk
  have hfresh := hinserted.taskRows.fresh _ (List.mem_map_of_mem htask)
  exact congrArg (Option.map AcpTask.status) hfresh

/-- They start as the plan says. -/
theorem Planned.statusOf_new (htask : task ∈ input.tasks) :
    db'.statusOf (key input.workspaceId task.id) = some (initialTaskStatus task) := by
  obtain ⟨runs, db₁, hinserted, rfl⟩ := h.inserted
  exact statusOf_of_get? (hinserted.taskRows.get?_of_mem (List.mem_map_of_mem htask))

/-- The other tasks stay. -/
theorem Planned.statusOf_old (hk : k ∉ planKeys input) : db'.statusOf k = db.statusOf k := by
  obtain ⟨runs, db₁, hinserted, rfl⟩ := h.inserted
  rw [mem_planKeys] at hk
  exact congrArg (Option.map AcpTask.status) (hinserted.taskRows.get?_of_not_mem hk)

theorem Planned.dependencies_eq :
    db'.acpTaskDependency = db.acpTaskDependency ++ newDependencies input := by
  obtain ⟨runs, db₁, -, rfl⟩ := h.inserted
  rfl

omit h in
/-- A dependency of a plan. -/
theorem mem_newDependencies : dependency ∈ newDependencies input ↔
    ∃ task ∈ input.tasks, ∃ dependencyId ∈ task.dependencyIds,
      dependency = ⟨input.workspaceId, task.id, dependencyId⟩ := by
  unfold newDependencies
  simp only [List.mem_flatMap, List.mem_map]
  constructor
  · rintro ⟨task, htask, dependencyId, hid, rfl⟩
    exact ⟨task, htask, dependencyId, hid, rfl⟩
  · rintro ⟨task, htask, dependencyId, hid, rfl⟩
    exact ⟨task, htask, dependencyId, hid, rfl⟩

/-- No old dependency is one of a new task. -/
theorem Planned.not_old (hsound : Sound db)
    (hold : dependency ∈ db.acpTaskDependency) :
    key dependency.workspaceId dependency.taskId ∉ planKeys input := by
  intro hk
  obtain ⟨task, htask⟩ := (hsound.dependencies dependency hold).task
  have hfresh := h.statusOf_fresh hk
  rw [statusOf_of_get? htask] at hfresh
  cases hfresh

/-- The dependencies of the database, and those of the plan. -/
theorem Planned.needs {d : Key} (hneeds : db'.Needs k d) : db.Needs k d ∨ ∃ task ∈ input.tasks,
    ∃ dependencyId ∈ task.dependencyIds, k = key input.workspaceId task.id ∧ d = key input.workspaceId dependencyId := by
  obtain ⟨dependency, hdependency, rfl, rfl⟩ := hneeds
  rw [h.dependencies_eq] at hdependency
  rcases List.mem_append.mp hdependency with hold | hnew
  · exact Or.inl ⟨dependency, hold, rfl, rfl⟩
  · obtain ⟨task, htask, dependencyId, hid, rfl⟩ := mem_newDependencies.mp hnew
    exact Or.inr ⟨task, htask, dependencyId, hid, rfl, rfl⟩

/-- A plan admits its tasks. -/
theorem Planned.board_step (hsound : Sound db) : db.board.Step db'.board := by
  have hneedsNew : ∀ k d, db'.Needs k d → db.Needs k d ∨ (k ∈ planKeys input ∧ d ∈ planKeys input) := by
    refine fun k d hneeds => (h.needs hneeds).imp_right ?_
    rintro ⟨task, htask, dependencyId, hid, rfl, rfl⟩
    obtain ⟨other, hother, rfl⟩ := List.mem_map.mp (h.valid.known task htask dependencyId hid)
    exact ⟨⟨task, htask, rfl⟩, ⟨other, hother, rfl⟩⟩
  refine .enter (planKeys input) (fun k hk => ?_) (fun k hk => ?_) (fun k hk => ?_) (fun k d hneeds => ?_)
    hneedsNew
  · show (db.statusOf k).map phaseOf = none
    rw [h.statusOf_fresh hk]
    rfl
  · show (db'.statusOf k).map phaseOf = (db.statusOf k).map phaseOf
    rw [h.statusOf_old hk]
  · obtain ⟨task, htask, rfl⟩ := hk
    have hphase : db'.board.phase (key input.workspaceId task.id)
        = some (phaseOf (initialTaskStatus task)) := by
      show (db'.statusOf _).map phaseOf = _
      rw [h.statusOf_new htask, Option.map_some]
    rw [hphase]
    by_cases hnone : task.dependencyIds = []
    · refine Or.inr ⟨?_, fun d hneeds => ?_⟩
      · unfold initialTaskStatus
        rw [hnone, if_neg (by simp)]
        split <;> rfl
      · rcases h.needs hneeds with ⟨dependency, hold, hk, -⟩ | ⟨other, hother, dependencyId, hid, hk, -⟩
        · exact h.not_old hsound hold ⟨task, htask, hk⟩
        · obtain rfl := List.inj_on_of_nodup_map h.valid.distinct htask hother (key_inj.mp hk).2
          rw [hnone] at hid
          cases hid
    · obtain ⟨dependencyId, hid⟩ := List.exists_mem_of_ne_nil _ hnone
      refine Or.inl ⟨?_, key input.workspaceId dependencyId, ⟨input.workspaceId, task.id, dependencyId⟩, ?_, rfl, rfl⟩
      · unfold initialTaskStatus
        rw [if_pos (List.length_pos_of_ne_nil hnone)]
        rfl
      · rw [h.dependencies_eq]
        exact List.mem_append_right _ (mem_newDependencies.mpr ⟨task, htask, dependencyId, hid, rfl⟩)
  · obtain ⟨dependency, hdependency, hk⟩ := hneeds
    refine ⟨dependency, ?_, hk⟩
    rw [h.dependencies_eq]
    exact List.mem_append_left _ hdependency

end Plans

section Completions

variable {capability : OperationalEventCapability} {context : WorkspaceContext} {runId : EntityId}
  {idempotencyKey : String} {run : AcpRun} {task : AcpTask} {row row' : AuditEvent}
  (h : Completed dateParse capability context runId idempotencyKey db db' run task row row')
include h

/-- A completion in two parts: the task is completed, then its dependents are released. -/
theorem Completed.released : ∃ db₃ : Database, db₃.Needs = db.Needs
    ∧ (∀ k, db₃.statusOf k = if k = keyOf task then some .COMPLETED else db.statusOf k)
    ∧ (∀ k, k ≠ keyOf task → db₃.acpTask.get? k = db.acpTask.get? k)
    ∧ db'.acpTaskDependency = db.acpTaskDependency
    ∧ ∀ k, db'.acpTask.get? k
      = (db₃.acpTask.get? k).map (release db₃ (db₃.dependentsOf context.workspaceId run.taskId)) := by
  obtain ⟨now, db₁, db₂, db₃, hmoved, hrow, hrow', hreleasing⟩ := h.moved
  have htasks : db₃.acpTask = db₁.acpTask := hrow'.acpTask_eq.trans hrow.acpTask_eq
  have hdependencies : db₃.acpTaskDependency = db.acpTaskDependency := by
    rw [hrow'.database, hrow.database, hmoved.database]
    rfl
  refine ⟨db₃, ?_, fun k => ?_, fun k hk => ?_, hreleasing.dependencies.trans hdependencies, hreleasing.tasks⟩
  · unfold Database.Needs
    rw [hdependencies]
  · have hstatus := hmoved.statusOf k
    unfold Database.statusOf at hstatus ⊢
    rw [htasks]
    exact hstatus
  · rw [htasks, hmoved.get?_task, if_neg hk]

/-- The completed task was running. -/
theorem Completed.statusOf_task : db.statusOf (keyOf task) = some .RUNNING := by
  obtain ⟨now, db₁, -, -, hmoved, -⟩ := h.moved
  rw [hmoved.statusOf_task]
  exact congrArg some hmoved.pairMove.running.2

/-- The key of the completed task is what its dependents name. -/
theorem Completed.key_task : keyOf task = key context.workspaceId run.taskId := by
  obtain ⟨-, -, hws, -, hws', hid⟩ := mem_of_findRun h.found
  rw [keyOf_task, ← hws', hws, hid]

/-- A completion looks at exactly the tasks that it leaves without an open dependency. -/
theorem Completed.get?_task {old : AcpTask} (hk : k ≠ keyOf task)
    (hold : db.acpTask.get? k = some old) :
    db'.acpTask.get? k = some (releasedTask old) ∧ db.board.ReleasedBy (keyOf task) k
      ∨ db'.acpTask.get? k = some old ∧ ¬ db.board.ReleasedBy (keyOf task) k := by
  obtain ⟨db₃, hneeds, hstatus, htasks, -, hreleased⟩ := h.released
  have hstatusOld : db.board.phase k = some .blocked ↔ old.status = .BLOCKED := by
    rw [board_blocked, statusOf_of_get? hold, Option.some.injEq]
  have hcondition : ((∃ dependent ∈ db₃.dependentsOf context.workspaceId run.taskId,
      key dependent.workspaceId dependent.taskId = keyOf old) ∧ db₃.Releasable old)
      ↔ db.board.ReleasedBy (keyOf task) k := by
    have hkey : keyOf old = k := Store.keyOf_of_get? hold
    unfold Board.ReleasedBy Database.Releasable
    rw [hstatusOld]
    -- The rows looked at are those of the dependents of the completed task.
    have hrows : (∃ dependent ∈ db₃.dependentsOf context.workspaceId run.taskId,
        key dependent.workspaceId dependent.taskId = keyOf old) ↔ db.board.needs k (keyOf task) := by
      show _ ↔ db.Needs k (keyOf task)
      rw [← hneeds, h.key_task, hkey]
      constructor
      · rintro ⟨dependent, hdependent, hof⟩
        obtain ⟨hmem, hon⟩ := List.mem_filter.mp hdependent
        exact ⟨dependent, hmem, hof, key_inj.mpr (of_decide_eq_true hon)⟩
      · rintro ⟨dependent, hmem, hof, hon⟩
        exact ⟨dependent, List.mem_filter.mpr ⟨hmem, decide_eq_true (key_inj.mp hon)⟩, hof⟩
    have hall : (∀ dependency ∈ db₃.dependenciesOf old, db₃.IsCompleted dependency)
        ↔ ∀ d, db.board.needs k d → d = keyOf task ∨ db.board.phase d = some .done := by
      have hdone : ∀ d, db₃.statusOf d = some .COMPLETED ↔
          d = keyOf task ∨ db.board.phase d = some .done := by
        intro d
        rw [hstatus, board_done]
        by_cases hd : d = keyOf task
        · rw [if_pos hd]
          exact iff_of_true rfl (Or.inl hd)
        · rw [if_neg hd]
          exact ⟨Or.inr, fun hor => hor.resolve_left hd⟩
      show _ ↔ ∀ d, db.Needs k d → _
      rw [← hneeds, ← hkey]
      constructor
      · rintro hcompleted d ⟨dependency, hmem, hof, rfl⟩
        exact (hdone _).mp
          (isCompleted_iff.mp (hcompleted dependency (mem_dependenciesOf.mpr ⟨hmem, hof⟩)))
      · intro hneeded dependency hdependency
        obtain ⟨hmem, hof⟩ := mem_dependenciesOf.mp hdependency
        exact isCompleted_iff.mpr ((hdone _).mpr (hneeded _ ⟨dependency, hmem, hof, rfl⟩))
    rw [hrows, hall]
    exact ⟨fun ⟨hneeded, hblocked, hdone⟩ => ⟨hblocked, hneeded, hdone⟩,
      fun ⟨hblocked, hneeded, hdone⟩ => ⟨hneeded, hblocked, hdone⟩⟩
  rw [hreleased, htasks k hk, hold, Option.map_some]
  unfold release
  by_cases hrelease : db.board.ReleasedBy (keyOf task) k
  · rw [if_pos (hcondition.mpr hrelease)]
    exact Or.inl ⟨rfl, hrelease⟩
  · rw [if_neg fun hand => hrelease (hcondition.mp hand)]
    exact Or.inr ⟨rfl, hrelease⟩

/-- A completion finishes its task. -/
theorem Completed.board_step : db.board.Step db'.board := by
  have hfree : db.board.phase (keyOf task) = some .free := by
    show (db.statusOf (keyOf task)).map phaseOf = _
    rw [h.statusOf_task]
    rfl
  have hphase : ∀ {k : Key} {new : AcpTask}, db'.acpTask.get? k = some new →
      db'.board.phase k = some (phaseOf new.status) := fun hnew =>
    congrArg (Option.map phaseOf) (statusOf_of_get? hnew)
  refine .finish (keyOf task) hfree ?_ ?_ (fun u hu => ?_) (fun u hu hnot => ?_)
  · obtain ⟨db₃, -, -, -, hdependencies, -⟩ := h.released
    show db'.Needs = db.Needs
    unfold Database.Needs
    rw [hdependencies]
  · obtain ⟨db₃, -, hstatus, -, -, hreleased⟩ := h.released
    have hstatus' := hstatus (keyOf task)
    rw [if_pos rfl] at hstatus'
    obtain ⟨new, hnew, hcompleted⟩ := Option.map_eq_some_iff.mp hstatus'
    have hget := hreleased (keyOf task)
    rw [hnew, Option.map_some, release_of_not_blocked (by rw [hcompleted]; decide)] at hget
    rw [hphase hget, hcompleted]
    rfl
  · have hne : u ≠ keyOf task := hu.ne hfree
    obtain ⟨old, hold, -⟩ := Option.map_eq_some_iff.mp (board_blocked.mp hu.1)
    rcases h.get?_task hne hold with ⟨hnew, -⟩ | ⟨-, hnot⟩
    · rw [hphase hnew]
      show some (phaseOf (releasedStatus old)) = _
      rcases releasedStatus_cases old with hs | hs <;> rw [hs] <;> rfl
    · exact absurd hu hnot
  · cases hold : db.acpTask.get? u with
    | none =>
      obtain ⟨db₃, -, -, htasks, -, hreleased⟩ := h.released
      have hget := hreleased u
      rw [htasks u hu, hold] at hget
      show ((db'.acpTask.get? u).map _).map _ = ((db.acpTask.get? u).map _).map _
      rw [hget, hold]
      rfl
    | some old =>
      rcases h.get?_task hu hold with ⟨-, hrelease⟩ | ⟨hnew, -⟩
      · exact absurd hrelease hnot
      · rw [hphase hnew]
        exact (congrArg (Option.map phaseOf) (statusOf_of_get? hold)).symm

end Completions

/-! ## Every call -/

variable {outcome : Except Failure Reply} {l : Label}

/-- **Every call takes the board one step.** -/
theorem board_step (hsound : Sound db)
    (heffect : Effect sha256 dateParse l db outcome db') : db.board.Step db'.board := by
  have same : db.board.Step db.board := .work rfl fun _ => Or.inl rfl
  have announced : ∀ {capability context source notice row} {db₁ db₂ : Database},
      Announced dateParse capability context source notice row db₁ db₂ → db₂.board = db₁.board :=
    fun hrow => board_eq hrow.acpTask_eq (by rw [hrow.database])
  cases heffect with
  | refused e => exact same
  | replayed hreply => exact same
  | planned hreply hcall hplanned => exact hplanned.board_step hsound
  | assigned hreply hcall hassigned =>
    obtain ⟨db₁, hmoved, hrow⟩ := hassigned.moved
    rw [announced hrow]
    exact hmoved.board_step (by rintro ⟨⟩)
  | evidenced hreply hcall hevidenced =>
    rw [announced hevidenced.announced]
    exact same
  | started hreply hcall hstarted =>
    obtain ⟨now, db₁, hmoved, hrow⟩ := hstarted.moved
    rw [announced hrow]
    exact hmoved.board_step (by rintro ⟨⟩)
  | @failed _ _ _ _ failureCode _ run task _ _ hreply hcall hfailed =>
    obtain ⟨now, retryRunId, db₁, db₂, db₃, hmoved, hretried, hrow, hrow'⟩ := hfailed.moved
    have hretry : db₂.board = db₁.board := by
      cases hverdict : verdict run task failureCode <;> rw [hverdict] at hretried
      · exact congrArg Database.board hretried
      · rw [hretried.2]
        rfl
      · exact congrArg Database.board hretried
    rw [announced hrow', announced hrow, hretry]
    refine hmoved.board_step ?_
    cases verdict run task failureCode <;> rintro ⟨⟩
  | completed hreply hcall hcompleted => exact hcompleted.board_step

theorem board_empty : Database.empty.board.Coherent where
  blocked_iff := fun _ h => absurd rfl h
  known := fun _ _ ⟨_, h, _⟩ => absurd h List.not_mem_nil

/-- In every reachable database exactly the tasks with an open dependency are blocked. -/
theorem board_coherent (ls : List Label) : (after sha256 dateParse ls).board.Coherent := by
  have both : Sound (after sha256 dateParse ls) ∧ (after sha256 dateParse ls).board.Coherent :=
    after_induction (P := fun db => Sound db ∧ db.board.Coherent) ⟨sound_empty, board_empty⟩
      (fun _ _ _ _ h heffect =>
        ⟨sound_of_effect h.1 heffect, h.2.step (board_step h.1 heffect)⟩) ls
  exact both.2

/-- A run of the service is a run of its board. -/
theorem board_run (ls ls' : List Label) :
    ReflTransGen Board.Step (after sha256 dateParse ls).board
      (after sha256 dateParse (ls ++ ls')).board :=
  after_append_induction (P := fun db =>
      ReflTransGen Board.Step (after sha256 dateParse ls).board db.board) ReflTransGen.refl
    (fun pre _ _ _ h heffect => h.tail (board_step (sound_after pre) heffect)) ls'

/-! ## What a task depends on -/

variable {input : DurableObjectivePlanInput}

/-- Of the dependencies of a plan those of one task are the listed ones. -/
theorem filter_newDependencies
    (hdistinct : (input.tasks.map DurableTaskPlanInput.id).Nodup) (htask : task ∈ input.tasks) :
    ((newDependencies input).filter fun dependency => key dependency.workspaceId dependency.taskId
      = key input.workspaceId task.id).map AcpTaskDependency.dependsOnTaskId = task.dependencyIds := by
  unfold newDependencies
  generalize input.tasks = tasks at hdistinct htask
  -- The rows of one task have its key, or not one of them has.
  have ofTask : ∀ other : DurableTaskPlanInput, ((other.dependencyIds.map fun dependsOnTaskId =>
      (⟨input.workspaceId, other.id, dependsOnTaskId⟩ : AcpTaskDependency)).filter fun dependency =>
        key dependency.workspaceId dependency.taskId = key input.workspaceId task.id)
      = if other.id = task.id then other.dependencyIds.map fun dependsOnTaskId =>
          ⟨input.workspaceId, other.id, dependsOnTaskId⟩ else [] := by
    intro other
    by_cases hid : other.id = task.id
    · rw [if_pos hid, List.filter_eq_self]
      intro dependency hdependency
      obtain ⟨dependencyId, -, rfl⟩ := List.mem_map.mp hdependency
      exact decide_eq_true (key_inj.mpr ⟨rfl, hid⟩)
    · rw [if_neg hid, List.filter_eq_nil_iff]
      intro dependency hdependency hsame
      obtain ⟨dependencyId, -, rfl⟩ := List.mem_map.mp hdependency
      exact hid (key_inj.mp (of_decide_eq_true hsame)).2
  induction tasks with
  | nil => cases htask
  | cons first rest ih =>
    rw [List.map_cons, List.nodup_cons] at hdistinct
    rw [List.flatMap_cons, List.filter_append, ofTask, List.map_append]
    rcases List.mem_cons.mp htask with rfl | hrest
    · have hnone : ((rest.flatMap fun other => other.dependencyIds.map fun dependsOnTaskId =>
          (⟨input.workspaceId, other.id, dependsOnTaskId⟩ : AcpTaskDependency)).filter
          fun dependency => key dependency.workspaceId dependency.taskId
            = key input.workspaceId task.id) = [] := by
        rw [List.filter_flatMap, List.flatMap_eq_nil_iff]
        intro other hother
        rw [ofTask, if_neg]
        exact fun hid => hdistinct.1 (hid ▸ List.mem_map_of_mem hother)
      rw [if_pos rfl, hnone, List.map_nil, List.append_nil, List.map_map]
      exact List.map_id _
    · have hne : first.id ≠ task.id := fun hid =>
        hdistinct.1 (hid ▸ List.mem_map_of_mem hrest)
      rw [if_neg hne, List.map_nil, List.nil_append]
      exact ih hdistinct.2 hrest

/-- Only an inserted plan has new dependencies. -/
theorem dependencies_of_effect
    (heffect : Effect sha256 dateParse l db outcome db') : db'.acpTaskDependency = db.acpTaskDependency
    ∨ ∃ reply input, outcome = .ok reply ∧ l.call = .createPlan input ∧ Planned sha256 l.context input db db' := by
  cases heffect with
  | refused e => exact Or.inl rfl
  | replayed hreply => exact Or.inl rfl
  | planned hreply hcall hplanned => exact Or.inr ⟨_, _, rfl, hcall, hplanned⟩
  | assigned hreply hcall hassigned =>
    obtain ⟨db₁, hmoved, hrow⟩ := hassigned.moved
    exact Or.inl (by rw [hrow.database, hmoved.database]; rfl)
  | evidenced hreply hcall hevidenced => exact Or.inl (by rw [hevidenced.announced.database])
  | started hreply hcall hstarted =>
    obtain ⟨now, db₁, hmoved, hrow⟩ := hstarted.moved
    exact Or.inl (by rw [hrow.database, hmoved.database]; rfl)
  | @failed _ _ _ _ failureCode _ run task _ _ hreply hcall hfailed =>
    obtain ⟨now, retryRunId, db₁, db₂, db₃, hmoved, hretried, hrow, hrow'⟩ := hfailed.moved
    have hretry : db₂.acpTaskDependency = db₁.acpTaskDependency := by
      cases hverdict : verdict run task failureCode <;> rw [hverdict] at hretried
      · exact congrArg Database.acpTaskDependency hretried
      · rw [hretried.2]
      · exact congrArg Database.acpTaskDependency hretried
    refine Or.inl ?_
    rw [hrow'.database, hrow.database]
    exact hretry.trans (by rw [hmoved.database]; rfl)
  | completed hreply hcall hcompleted =>
    obtain ⟨db₃, -, -, -, hdependencies, -⟩ := hcompleted.released
    exact Or.inl hdependencies

/-- What a task of the database depends on is settled. -/
theorem dependencyIds_of_effect
    (heffect : Effect sha256 dateParse l db outcome db') (hknown : db.statusOf k ≠ none) :
    db'.dependencyIds k = db.dependencyIds k := by
  unfold Database.dependencyIds
  rcases dependencies_of_effect heffect with hsame | ⟨-, input, -, -, hplanned⟩
  · rw [hsame]
  · -- The new dependencies are those of new tasks.
    have hnone : ((newDependencies input).filter fun dependency =>
        key dependency.workspaceId dependency.taskId = k) = [] := by
      refine List.filter_eq_nil_iff.mpr fun dependency hdependency hk => hknown ?_
      obtain ⟨task, htask, dependencyId, -, rfl⟩ := mem_newDependencies.mp hdependency
      exact hplanned.statusOf_fresh ⟨task, htask, (of_decide_eq_true hk).symm⟩
    rw [hplanned.dependencies_eq, List.filter_append, hnone, List.append_nil]

/-- The tasks of an accepted plan keep the dependencies of the plan. -/
theorem dependencyIds_after {pre : List Label}
    (hplanned : Planned sha256 l.context input (after sha256 dateParse pre)
      (after sha256 dateParse (pre ++ [l]))) (htask : task ∈ input.tasks) (ls : List Label) :
    (after sha256 dateParse (pre ++ [l] ++ ls)).statusOf (key input.workspaceId task.id) ≠ none
      ∧ (after sha256 dateParse (pre ++ [l] ++ ls)).dependencyIds (key input.workspaceId task.id)
        = task.dependencyIds := by
  refine after_append_induction (P := fun db => db.statusOf (key input.workspaceId task.id) ≠ none
      ∧ db.dependencyIds (key input.workspaceId task.id) = task.dependencyIds) ⟨?_, ?_⟩ ?_ ls
  · rw [hplanned.statusOf_new htask]
    nofun
  · have hnone : ((after sha256 dateParse pre).acpTaskDependency.filter fun dependency =>
        key dependency.workspaceId dependency.taskId = key input.workspaceId task.id) = [] :=
      List.filter_eq_nil_iff.mpr fun dependency hold hk =>
        hplanned.not_old (sound_after pre) hold ⟨task, htask, of_decide_eq_true hk⟩
    unfold Database.dependencyIds
    rw [hplanned.dependencies_eq, List.filter_append, hnone, List.nil_append]
    exact filter_newDependencies hplanned.valid.distinct htask
  · rintro mid l' outcome' db' ⟨hknown, hsame⟩ heffect
    have hstep := board_step (sound_after mid) heffect
    exact ⟨board_known.mp (hstep.known_stays (board_known.mpr hknown)),
      (dependencyIds_of_effect heffect hknown).trans hsame⟩

/-! ## The main result -/

/-- The step releases the task under a key. -/
def Releases (e : Entry Label (Except Failure Reply) Database) (k : Key) : Prop :=
  e.before.statusOf k = some .BLOCKED ∧ e.after.statusOf k ≠ some .BLOCKED

/-- The step completes the last open dependency of the task under a key. -/
def CompletesLast (e : Entry Label (Except Failure Reply) Database) (k : Key) : Prop :=
  ∃ d, e.before.Needs k d ∧ e.before.statusOf d ≠ some .COMPLETED ∧ e.after.statusOf d = some .COMPLETED
    ∧ ∀ d', e.before.Needs k d' → d' ≠ d → e.before.statusOf d' = some .COMPLETED

/-- A blocked task stays as it is, or `completeRun` releases it by its level. -/
theorem released_by_completion {old : AcpTask}
    (heffect : Effect sha256 dateParse l db outcome db') (hold : db.acpTask.get? k = some old)
    (hblocked : old.status = .BLOCKED) : db'.acpTask.get? k = some old
      ∨ (db'.acpTask.get? k = some (releasedTask old)
        ∧ ∃ runId expectedVersion idempotencyKey, l.call = .completeRun runId expectedVersion idempotencyKey) := by
  have moved : ∀ {db₁ : Database} {run run' : AcpRun} {task task' : AcpTask},
      Moved db db₁ run run' task task' → db₁.acpTask.get? k = some old := by
    intro db₁ run run' task task' hmoved
    rw [hmoved.get?_task, if_neg, hold]
    rintro rfl
    rw [Store.mem_iff_get?.mp hmoved.task_mem, Option.some.injEq] at hold
    have hfree := hmoved.pairMove.phase.1
    rw [hold, hblocked] at hfree
    cases hfree
  cases heffect with
  | refused e => exact Or.inl hold
  | replayed hreply => exact Or.inl hold
  | planned hreply hcall hplanned => exact Or.inl (hplanned.adds.tasks hold)
  | assigned hreply hcall hassigned =>
    obtain ⟨db₁, hmoved, hrow⟩ := hassigned.moved
    exact Or.inl (hrow.adds.tasks (moved hmoved))
  | evidenced hreply hcall hevidenced => exact Or.inl (hevidenced.adds.tasks hold)
  | started hreply hcall hstarted =>
    obtain ⟨now, db₁, hmoved, hrow⟩ := hstarted.moved
    exact Or.inl (hrow.adds.tasks (moved hmoved))
  | failed hreply hcall hfailed =>
    obtain ⟨now, retryRunId, db₁, db₂, db₃, hmoved, hretried, hrow, hrow'⟩ := hfailed.moved
    exact Or.inl (hrow'.adds.tasks (hrow.adds.tasks (hretried.adds.tasks (moved hmoved))))
  | @completed _ _ _ _ _ run task _ _ hreply hcall hcompleted =>
    have hne : k ≠ keyOf task := by
      rintro rfl
      have hrunning := hcompleted.statusOf_task
      rw [statusOf_of_get? hold, hblocked] at hrunning
      cases hrunning
    rcases hcompleted.get?_task hne hold with ⟨hnew, -⟩ | ⟨hsame, -⟩
    · exact Or.inr ⟨hnew, _, _, _, hcall⟩
    · exact Or.inl hsame

/-- A new answer to `createPlan` is an inserted plan. -/
theorem planned_of_effect {reply : Reply}
    (heffect : Effect sha256 dateParse l db (.ok reply) db') (hcall : l.call = .createPlan input)
    (hreply : reply.replayed = false) : Planned sha256 l.context input db db' := by
  cases heffect with
  | replayed hreplayed =>
    rw [hreply] at hreplayed
    cases hreplayed
  | planned _ hcall' h =>
    rw [hcall] at hcall'
    cases hcall'
    exact h
  | assigned _ hcall' => rw [hcall] at hcall'; cases hcall'
  | evidenced _ hcall' => rw [hcall] at hcall'; cases hcall'
  | started _ hcall' => rw [hcall] at hcall'; cases hcall'
  | failed _ hcall' => rw [hcall] at hcall'; cases hcall'
  | completed _ hcall' => rw [hcall] at hcall'; cases hcall'

/-- No task is released twice. -/
theorem released_once (ls : List Label) :
    (steps sha256 dateParse ls).Pairwise fun e e' => ∀ k, Releases e k → ¬ Releases e' k := by
  have both : Sound (after sha256 dateParse ls)
      ∧ (steps sha256 dateParse ls).Pairwise (fun e e' => ∀ k, Releases e k → ¬ Releases e' k)
      ∧ ∀ e ∈ steps sha256 dateParse ls, ∀ k, Releases e k →
        (after sha256 dateParse ls).board.phase k ≠ none
          ∧ (after sha256 dateParse ls).board.phase k ≠ some .blocked := by
    refine history_induction (step sha256 dateParse) (P := fun es db => Sound db
      ∧ es.Pairwise (fun e e' => ∀ k, Releases e k → ¬ Releases e' k)
      ∧ ∀ e ∈ es, ∀ k, Releases e k → db.board.phase k ≠ none ∧ db.board.phase k ≠ some .blocked)
      ⟨sound_empty, List.Pairwise.nil, fun _ h => absurd h List.not_mem_nil⟩ ?_ ls
    rintro pre l ⟨hsound, hpairwise, hreleased⟩
    have heffect : Effect sha256 dateParse l (run (step sha256 dateParse) Database.empty pre) _ _ :=
      effect_of_step l _
    have hstep := board_step hsound heffect
    refine ⟨sound_of_effect hsound heffect, ?_, fun e he k hrelease => ?_⟩
    · refine List.pairwise_append.mpr ⟨hpairwise, List.pairwise_singleton _ _, ?_⟩
      intro e he e' he' k hrelease hagain
      rw [List.mem_singleton.mp he'] at hagain
      exact (hreleased e he k hrelease).2 (board_blocked.mpr hagain.1)
    · rcases List.mem_append.mp he with he | he
      · obtain ⟨hknown, hfree⟩ := hreleased e he k hrelease
        exact ⟨hstep.known_stays hknown, hstep.released_stays hknown hfree⟩
      · rw [List.mem_singleton.mp he] at hrelease
        refine ⟨hstep.known_stays (board_known.mpr ?_), fun h => hrelease.2 (board_blocked.mp h)⟩
        have hbefore := hrelease.1
        rw [show (run (step sha256 dateParse) Database.empty pre).statusOf k = _ from hbefore]
        nofun
  exact both.2.1

/-- **Dependencies are released exactly when they are all completed.** The tasks of an accepted plan keep
the dependencies of the plan. After every history of calls a task is blocked iff one it depends on is not
completed. A step releases a task iff it completes the last open dependency of the task; it is then a
completion, and releases the task by its level. No task is released twice, and a task downstream of one that
has failed or was stopped is blocked and stays so. -/
theorem dependencies_release_exactly_once (sha256 : String → String)
    (dateParse : String → Option Int) (ls : List Label) :
    (∀ e ∈ steps sha256 dateParse ls, ∀ input reply, e.label.call = .createPlan input →
      e.outcome = .ok reply → reply.replayed = false → ∀ task ∈ input.tasks,
        (after sha256 dateParse ls).statusOf (key input.workspaceId task.id) ≠ none
        ∧ (after sha256 dateParse ls).dependencyIds (key input.workspaceId task.id) = task.dependencyIds)
    ∧ (∀ k status, (after sha256 dateParse ls).statusOf k = some status → (status = .BLOCKED ↔
      ∃ d other, (after sha256 dateParse ls).Needs k d ∧ (after sha256 dateParse ls).statusOf d = some other
        ∧ other ≠ .COMPLETED))
    ∧ (∀ e ∈ steps sha256 dateParse ls, ∀ k, Releases e k ↔ CompletesLast e k)
    ∧ (∀ e ∈ steps sha256 dateParse ls, ∀ k, Releases e k →
      (∃ runId expectedVersion idempotencyKey, e.label.call = .completeRun runId expectedVersion idempotencyKey)
      ∧ ∃ task, e.before.acpTask.get? k = some task
        ∧ e.after.statusOf k = some (if task.requiredAuthority = 4 then .AWAITING_APPROVAL else .READY))
    ∧ (steps sha256 dateParse ls).Pairwise (fun e e' => ∀ k, Releases e k → ¬ Releases e' k)
    ∧ ∀ k d status, TransGen (after sha256 dateParse ls).Needs k d →
      (after sha256 dateParse ls).statusOf d = some status → (status = .FAILED ∨ status = .STOPPED) →
      ∀ ls', (after sha256 dateParse (ls ++ ls')).statusOf k = some .BLOCKED := by
  have hcoherent : (after sha256 dateParse ls).board.Coherent := board_coherent ls
  refine ⟨?_, fun k status hstatus => ?_, fun e he k => ?_, fun e he k hrelease => ?_, released_once ls,
    fun k d status hneeds hstatus hended ls' => ?_⟩
  · intro e he input reply hcall hreply hnew task htask
    obtain ⟨pre, post, hls, hbefore, hafter, heffect⟩ := effect_of_mem_steps he
    rw [hreply] at heffect
    have hplanned := planned_of_effect heffect hcall hnew
    rw [hbefore, hafter] at hplanned
    have hsettled := dependencyIds_after hplanned htask post
    rw [List.append_assoc, List.singleton_append, ← hls] at hsettled
    exact hsettled
  · have hknown : (after sha256 dateParse ls).board.phase k ≠ none :=
      board_known.mpr (by rw [hstatus]; nofun)
    have hiff := hcoherent.blocked_iff k hknown
    rw [board_blocked, hstatus, Option.some.injEq] at hiff
    rw [hiff]
    constructor
    · rintro ⟨d, hd, hopen⟩
      obtain ⟨other, hother⟩ := Option.ne_none_iff_exists'.mp (board_known.mp (hcoherent.known k d hd).2)
      refine ⟨d, other, hd, hother, fun hcompleted => hopen (board_done.mpr ?_)⟩
      rw [hother, hcompleted]
    · rintro ⟨d, other, hd, hother, hopen⟩
      refine ⟨d, hd, fun hdone => hopen ?_⟩
      rw [board_done, hother, Option.some.injEq] at hdone
      exact hdone
  · obtain ⟨pre, post, -, hbefore, -, heffect⟩ := effect_of_mem_steps he
    have hpre : e.before.board.Coherent := by rw [hbefore]; exact board_coherent pre
    have hsound : Sound e.before := by rw [hbefore]; exact sound_after pre
    have hreleased := hpre.released_iff (t := k) (board_step hsound heffect)
    simp only [board_blocked, board_done, ne_eq] at hreleased
    exact hreleased
  · obtain ⟨pre, post, -, -, -, heffect⟩ := effect_of_mem_steps he
    obtain ⟨hblocked, hreleased⟩ := hrelease
    obtain ⟨task, htask, hstatus⟩ := Option.map_eq_some_iff.mp hblocked
    rcases released_by_completion heffect htask hstatus with hsame | ⟨hnew, hcall⟩
    · rw [statusOf_of_get? hsame, hstatus] at hreleased
      exact absurd rfl hreleased
    · exact ⟨hcall, task, htask, statusOf_of_get? hnew⟩
  · have hdead : (after sha256 dateParse ls).board.phase d = some .dead := by
      show ((after sha256 dateParse ls).statusOf d).map phaseOf = _
      rw [hstatus]
      rcases hended with rfl | rfl <;> rfl
    exact board_blocked.mp (hcoherent.waits_forever (board_run ls ls') hneeds hdead)

end VentureOS.Durable
