import VentureOS.Durable.System

/-! # What every call keeps

Rows are never deleted. A call keeps every task and every run under its key, changes only what the immutable
policy lets change, and moves each status along its table or not at all (`Grows`); artifacts, dependencies
and audit rows stay as they are. What a run refers to therefore stays (`Sound`): its task, the tasks of a
dependency, the criterion of an artifact. -/

namespace VentureOS.Durable

open ControlPlane Transaction

variable {sha256 : String → String} {dateParse : String → Option Int} {db db' db'' : Database}

/-- What may become of a task in one call. -/
structure TaskStep (old new : AcpTask) : Prop where
  samePolicy : SamePolicy old new
  transition : new.status = old.status ∨ new.status ∈ durableTaskTransitions old.status

/-- What may become of a run in one call. -/
structure RunStep (old new : AcpRun) : Prop where
  sameBinding : SameBinding old new
  transition : new.status = old.status ∨ new.status ∈ durableRunTransitions old.status

theorem TaskStep.refl (task : AcpTask) : TaskStep task task := ⟨rfl, Or.inl rfl⟩

theorem RunStep.refl (run : AcpRun) : RunStep run run := ⟨rfl, Or.inl rfl⟩

/-- What one call keeps of the database. -/
structure Grows (db db' : Database) : Prop where
  tasks : ∀ {k task}, db.acpTask.get? k = some task →
    ∃ task', db'.acpTask.get? k = some task' ∧ TaskStep task task'
  runs : ∀ {k run}, db.acpRun.get? k = some run →
    ∃ run', db'.acpRun.get? k = some run' ∧ RunStep run run'
  artifacts : ∀ {k artifact}, db.acpArtifact.get? k = some artifact →
    db'.acpArtifact.get? k = some artifact
  dependencies : db.acpTaskDependency <+: db'.acpTaskDependency
  rows : db.auditEvent <+: db'.auditEvent

theorem Grows.refl (db : Database) : Grows db db :=
  ⟨fun h => ⟨_, h, .refl _⟩, fun h => ⟨_, h, .refl _⟩, fun h => h, List.prefix_refl _, List.prefix_refl _⟩

/-! ## Moving a run and its task -/

/-- A run and its task move along their tables. -/
theorem PairMove.transitions {run run' : DurableRunStatus} {task task' : DurableTaskStatus}
    (h : PairMove run task run' task') :
    run' ∈ durableRunTransitions run ∧ task' ∈ durableTaskTransitions task := by
  cases h with
  | assign => decide
  | start => decide
  | complete => decide
  | fail hrun htask => rcases hrun with rfl | rfl <;> rcases htask with rfl | rfl <;> decide
  | stop hrun htask => rcases hrun with rfl | rfl <;> rcases htask with rfl | rfl <;> decide
  | retry hrun htask => rcases hrun with rfl | rfl <;> rcases htask with rfl | rfl <;> decide

section Moved

variable {run run' : AcpRun} {task task' : AcpTask} (h : Moved db db' run run' task task')
include h

theorem Moved.get?_task (k : Key) :
    db'.acpTask.get? k = if k = keyOf task then some task' else db.acpTask.get? k := by
  rw [h.database, ← h.samePolicy.keyOf_eq]
  exact Store.get?_put _ _ _

theorem Moved.get?_run (k : Key) :
    db'.acpRun.get? k = if k = keyOf run then some run' else db.acpRun.get? k := by
  rw [h.database, ← h.sameBinding.keyOf_eq]
  exact Store.get?_put _ _ _

theorem Moved.taskStep : TaskStep task task' :=
  ⟨h.samePolicy, Or.inr h.pairMove.transitions.2⟩

theorem Moved.runStep : RunStep run run' :=
  ⟨h.sameBinding, Or.inr h.pairMove.transitions.1⟩

/-- Moving a run and its task keeps everything else. -/
theorem Moved.grows : Grows db db' where
  tasks := fun {k old} hold => by
    rw [h.get?_task]
    by_cases hk : k = keyOf task
    · rw [hk, Store.mem_iff_get?.mp h.task_mem, Option.some.injEq] at hold
      rw [if_pos hk]
      exact ⟨task', rfl, hold ▸ h.taskStep⟩
    · rw [if_neg hk]
      exact ⟨old, hold, .refl old⟩
  runs := fun {k old} hold => by
    rw [h.get?_run]
    by_cases hk : k = keyOf run
    · rw [hk, Store.mem_iff_get?.mp h.run_mem, Option.some.injEq] at hold
      rw [if_pos hk]
      exact ⟨run', rfl, hold ▸ h.runStep⟩
    · rw [if_neg hk]
      exact ⟨old, hold, .refl old⟩
  artifacts := fun hold => by
    rw [h.database]
    exact hold
  dependencies := by
    rw [h.database]
    exact List.prefix_refl _
  rows := by
    rw [h.database]
    exact List.prefix_refl _

end Moved

/-! ## Adding rows -/

/-- Only rows were added. -/
structure Adds (db db' : Database) : Prop where
  tasks : ∀ {k task}, db.acpTask.get? k = some task → db'.acpTask.get? k = some task
  runs : ∀ {k run}, db.acpRun.get? k = some run → db'.acpRun.get? k = some run
  artifacts : ∀ {k artifact}, db.acpArtifact.get? k = some artifact →
    db'.acpArtifact.get? k = some artifact
  dependencies : db.acpTaskDependency <+: db'.acpTaskDependency
  rows : db.auditEvent <+: db'.auditEvent

/-- Rows that are added to what a call keeps are kept too. -/
theorem Grows.adds (h : Grows db db') (h' : Adds db' db'') : Grows db db'' where
  tasks := fun hold => by
    obtain ⟨task', hnew, hstep⟩ := h.tasks hold
    exact ⟨task', h'.tasks hnew, hstep⟩
  runs := fun hold => by
    obtain ⟨run', hnew, hstep⟩ := h.runs hold
    exact ⟨run', h'.runs hnew, hstep⟩
  artifacts := fun hold => h'.artifacts (h.artifacts hold)
  dependencies := h.dependencies.trans h'.dependencies
  rows := h.rows.trans h'.rows

theorem Adds.grows (h : Adds db db') : Grows db db' := (Grows.refl db).adds h

section Announced

variable {capability : OperationalEventCapability} {context : WorkspaceContext} {source : EventSource}
  {notice : Notice} {row : AuditEvent}

theorem Announced.acpTask_eq (h : Announced dateParse capability context source notice row db db') :
    db'.acpTask = db.acpTask := by
  rw [h.database]

theorem Announced.acpRun_eq (h : Announced dateParse capability context source notice row db db') :
    db'.acpRun = db.acpRun := by
  rw [h.database]

/-- An event adds an audit row. -/
theorem Announced.adds (h : Announced dateParse capability context source notice row db db') :
    Adds db db' := by
  rw [h.database]
  exact ⟨fun h => h, fun h => h, fun h => h, List.prefix_refl _, List.prefix_append _ _⟩

end Announced

variable {context : WorkspaceContext} {idempotencyKey : String}

variable {run : AcpRun}

/-- Another attempt adds a run. -/
theorem Retried.adds {v : Verdict} {retryRunId : EntityId}
    (h : Retried context v run retryRunId idempotencyKey db db') :
    Adds db db' := by
  have same : Adds db db :=
    ⟨fun h => h, fun h => h, fun h => h, List.prefix_refl _, List.prefix_refl _⟩
  cases v with
  | stop => exact h ▸ same
  | fail => exact h ▸ same
  | retry =>
    obtain ⟨hfresh, rfl⟩ := h
    exact { same with runs := fun hold => Store.get?_put_of_fresh hfresh hold }

/-- The run of another attempt, or one that was there. -/
theorem Retried.mem_run {v : Verdict} {other : AcpRun} {retryRunId : EntityId}
    (h : Retried context v run retryRunId idempotencyKey db db') (hother : other ∈ db'.acpRun) :
    other ∈ db.acpRun ∨ other = retryRun context run retryRunId idempotencyKey := by
  cases v with
  | retry =>
    obtain ⟨-, rfl⟩ := h
    rcases Store.mem_put.mp hother with hnew | hold
    · exact Or.inr hnew
    · exact Or.inl hold.1
  | _ =>
    have hsame : db' = db := h
    exact Or.inl (hsame ▸ hother)

/-- A plan adds rows. -/
theorem Planned.adds {input : DurableObjectivePlanInput}
    (h : Planned sha256 context input db db') : Adds db db' := by
  obtain ⟨runs, db₁, hinserted, rfl⟩ := h.inserted
  obtain ⟨rows, hrows, -⟩ := hinserted.eventRows
  refine ⟨hinserted.taskRows.get?_of_some, hinserted.runRows.get?_of_some, fun hold => ?_, List.prefix_append _ _, ?_⟩
  · rw [hinserted.artifactRows]
    exact hold
  · rw [hrows]
    exact List.prefix_append _ _

/-- An artifact adds rows. -/
theorem Evidenced.adds {capability : OperationalEventCapability}
    {evidence : TrustedArtifactEvidence} {task : AcpTask}
    {row : AuditEvent}
    (h : Evidenced dateParse capability context evidence idempotencyKey db db' run task row) :
    Adds db db' := by
  have hrow := h.announced.adds
  exact ⟨hrow.tasks, hrow.runs, fun hold => hrow.artifacts (Store.get?_put_of_fresh h.newId hold),
    hrow.dependencies, hrow.rows⟩

/-! ## Releasing dependents -/

/-- A released task was blocked. -/
theorem taskStep_release (db : Database) (dependents : List AcpTaskDependency) (task : AcpTask) :
    TaskStep task (release db dependents task) := by
  refine ⟨samePolicy_release db dependents task, ?_⟩
  unfold release
  split
  · rename_i h
    have hblocked : task.status = .BLOCKED := h.2.1
    show releasedStatus task = task.status ∨ releasedStatus task ∈ durableTaskTransitions task.status
    rw [hblocked]
    rcases releasedStatus_cases task with h | h <;> rw [h] <;> decide
  · exact Or.inl rfl

/-- A task that is not blocked is not released. -/
theorem release_of_not_blocked {dependents : List AcpTaskDependency} {task : AcpTask}
    (h : task.status ≠ .BLOCKED) : release db dependents task = task :=
  if_neg fun hreleasable => h hreleasable.2.1

/-- After a completion its run and task are completed, and dependents may be released. -/
theorem Completed.grows {capability : OperationalEventCapability}
    {runId : EntityId} {task : AcpTask} {row row' : AuditEvent}
    (h : Completed dateParse capability context runId idempotencyKey db db' run task row row') :
    Grows db db' := by
  obtain ⟨now, db₁, db₂, db₃, hmoved, hrow, hrow', hreleasing⟩ := h.moved
  have before := (hmoved.grows.adds hrow.adds).adds hrow'.adds
  obtain ⟨rows, hrows, -⟩ := hreleasing.rows
  refine ⟨fun {k old} hold => ?_, fun hold => ?_, fun hold => ?_, ?_, ?_⟩
  · obtain ⟨new, hnew, hstep⟩ := before.tasks hold
    rw [hreleasing.tasks, hnew]
    refine ⟨_, rfl, ?_⟩
    by_cases hk : k = keyOf task
    · -- The completed task is not blocked, so it is not released.
      have hnew₁ := hmoved.get?_task k
      rw [if_pos hk] at hnew₁
      rw [hrow'.adds.tasks (hrow.adds.tasks hnew₁), Option.some.injEq] at hnew
      have hstatus : new.status = .COMPLETED := hnew ▸ rfl
      rw [release_of_not_blocked (by rw [hstatus]; decide)]
      exact hstep
    · have hold₁ := hmoved.get?_task k
      rw [if_neg hk, hold] at hold₁
      rw [hrow'.adds.tasks (hrow.adds.tasks hold₁), Option.some.injEq] at hnew
      subst hnew
      exact taskStep_release db₃ _ _
  · rw [hreleasing.runs]
    exact before.runs hold
  · rw [hreleasing.artifacts]
    exact before.artifacts hold
  · rw [hreleasing.dependencies]
    exact before.dependencies
  · rw [hrows]
    exact before.rows.trans (List.prefix_append _ _)

/-! ## Every call -/

/-- **What every call keeps.** -/
theorem grows_of_effect {l : Label} {outcome : Except Failure Reply}
    (h : Effect sha256 dateParse l db outcome db') : Grows db db' := by
  cases h with
  | refused e => exact Grows.refl db
  | replayed hreply => exact Grows.refl db
  | planned hreply hcall h => exact h.adds.grows
  | assigned hreply hcall h =>
    obtain ⟨db₁, hmoved, hrow⟩ := h.moved
    exact hmoved.grows.adds hrow.adds
  | evidenced hreply hcall h => exact h.adds.grows
  | started hreply hcall h =>
    obtain ⟨now, db₁, hmoved, hrow⟩ := h.moved
    exact hmoved.grows.adds hrow.adds
  | failed hreply hcall h =>
    obtain ⟨now, retryRunId, db₁, db₂, db₃, hmoved, hretried, hrow, hrow'⟩ := h.moved
    exact ((hmoved.grows.adds hretried.adds).adds hrow.adds).adds hrow'.adds
  | completed hreply hcall h => exact h.grows

end VentureOS.Durable
