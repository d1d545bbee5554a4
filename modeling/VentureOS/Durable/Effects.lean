import VentureOS.Durable.Statements

/-! # What a call does to the database

One inversion for each operation: a committed call answered a replay and changed nothing, or it found what
it needed, passed its checks, and left exactly the database described (`Planned`, `Assigned`, `Evidenced`,
`Started`, `Failed`, `Completed`). `Effect` collects them, so that an invariant is shown by one case
analysis. -/

namespace VentureOS.Durable

open ControlPlane Transaction

/-! ## Changed rows -/

/-- The new content of a task differs only in what `ventureos_acp_immutable_policy` lets change. -/
def SamePolicy (old new : AcpTask) : Prop :=
  new = { old with
    status := new.status
    version := new.version
    completedAt := new.completedAt
    assignedAgentId := new.assignedAgentId
    assignedRuntimeId := new.assignedRuntimeId
    assignedConnectionId := new.assignedConnectionId
    attempt := new.attempt }

/-- The new content of a run differs only in what `ventureos_acp_run_guard` lets change. -/
def SameBinding (old new : AcpRun) : Prop :=
  new = { old with
    status := new.status
    assignedAgentId := new.assignedAgentId
    assignedRuntimeId := new.assignedRuntimeId
    assignedConnectionId := new.assignedConnectionId
    assignmentEvidenceId := new.assignmentEvidenceId
    assignmentEvidenceHash := new.assignmentEvidenceHash
    assignmentIdempotencyKey := new.assignmentIdempotencyKey
    version := new.version
    startedAt := new.startedAt
    completedAt := new.completedAt }

theorem SamePolicy.refl (task : AcpTask) : SamePolicy task task := rfl

theorem SamePolicy.keyOf_eq {old new : AcpTask} (h : SamePolicy old new) : keyOf new = keyOf old := by
  rw [h]
  rfl

theorem SameBinding.keyOf_eq {old new : AcpRun} (h : SameBinding old new) : keyOf new = keyOf old := by
  rw [h]
  rfl

/-- The database with new contents of a run and of a task. -/
def Database.move (db : Database) (run : AcpRun) (task : AcpTask) : Database :=
  { db with acpRun := db.acpRun.put run, acpTask := db.acpTask.put task }

/-- What a run and its task may do together. -/
inductive PairMove : DurableRunStatus → DurableTaskStatus → DurableRunStatus → DurableTaskStatus → Prop
  | assign : PairMove .PREPARED .READY .ASSIGNED .ASSIGNED
  | start : PairMove .ASSIGNED .ASSIGNED .RUNNING .RUNNING
  | fail {run : DurableRunStatus} {task : DurableTaskStatus} (hrun : run = .ASSIGNED ∨ run = .RUNNING)
      (htask : task = .ASSIGNED ∨ task = .RUNNING) : PairMove run task .FAILED .FAILED
  | stop {run : DurableRunStatus} {task : DurableTaskStatus} (hrun : run = .ASSIGNED ∨ run = .RUNNING)
      (htask : task = .ASSIGNED ∨ task = .RUNNING) : PairMove run task .STOPPED .STOPPED
  | retry {run : DurableRunStatus} {task : DurableTaskStatus} (hrun : run = .ASSIGNED ∨ run = .RUNNING)
      (htask : task = .ASSIGNED ∨ task = .RUNNING) : PairMove run task .FAILED .READY
  | complete : PairMove .RUNNING .RUNNING .COMPLETED .COMPLETED

/-- A run and its task were found and rewritten together. -/
structure Moved (db db' : Database) (run run' : AcpRun) (task task' : AcpTask) : Prop where
  run_mem : run ∈ db.acpRun
  task_mem : task ∈ db.acpTask
  workspace : run.workspaceId = task.workspaceId
  taskId : run.taskId = task.id
  sameBinding : SameBinding run run'
  samePolicy : SamePolicy task task'
  pairMove : PairMove run.status task.status run'.status task'.status
  database : db' = db.move run' task'

variable {task : AcpTask} {actorKind : OperationalActorKind} {run : AcpRun}
  {idempotencyKey : String} {runId workspaceId : EntityId} {expectedVersion : Int}

variable {dependent : AcpTaskDependency} {db : Database} {id : EntityId}

section Operations

variable {sha256 : String → String} {dateParse : String → Option Int} {supply : Supply}
  {capability : OperationalEventCapability} {context : WorkspaceContext} {s s' : Session}
  {reply : Reply}

/-- What is found by the identifier of a run belongs together. -/
theorem mem_of_findRun (h : db.findRun workspaceId id = some (run, task)) :
    run ∈ db.acpRun ∧ task ∈ db.acpTask ∧ run.workspaceId = workspaceId ∧ run.id = id
      ∧ run.workspaceId = task.workspaceId ∧ run.taskId = task.id := by
  obtain ⟨hrun, htask⟩ := Database.findRun_eq_some.mp h
  have hkey := key_inj.mp (Store.keyOf_of_get? hrun)
  have hkey' := key_inj.mp (Store.keyOf_of_get? htask)
  exact ⟨Store.mem_of_get? hrun, Store.mem_of_get? htask, hkey.1, hkey.2, hkey'.1.symm, hkey'.2.symm⟩

/-- The row under the key of a run that was found is the run. -/
theorem eq_of_findRun {run' : AcpRun} (h : db.findRun workspaceId id = some (run, task))
    (h' : db.acpRun.get? (key workspaceId run.id) = some run') : run' = run := by
  obtain ⟨-, -, -, hid, -⟩ := mem_of_findRun h
  rw [hid, (Database.findRun_eq_some.mp h).1, Option.some.injEq] at h'
  exact h'.symm

/-- The row under the key of a task that was found is the task. -/
theorem eq_of_findRun_task {task' : AcpTask} (h : db.findRun workspaceId id = some (run, task))
    (h' : db.acpTask.get? (key workspaceId run.taskId) = some task') : task' = task := by
  obtain ⟨-, -, hws, -⟩ := mem_of_findRun h
  rw [← hws, (Database.findRun_eq_some.mp h).2, Option.some.injEq] at h'
  exact h'.symm

/-- A run and its task that were found and rewritten have moved. -/
theorem moved_of_findRun {run' : AcpRun} {task' : AcpTask} (h : db.findRun workspaceId id = some (run, task))
    (sameBinding : SameBinding run run') (samePolicy : SamePolicy task task')
    (pairMove : PairMove run.status task.status run'.status task'.status) :
    Moved db (db.move run' task') run run' task task' := by
  obtain ⟨hrun, htask, -, -, hws, htid⟩ := mem_of_findRun h
  exact ⟨hrun, htask, hws, htid, sameBinding, samePolicy, pairMove, rfl⟩

/-- A call that goes on has found its run and task. -/
theorem commits_found {found : Option (AcpRun × AcpTask)} {e : Failure} {f : AcpRun → AcpTask → Tx Reply}
    (h : Commits (match found with | none => throw e | some (run, task) => f run task) s reply s') :
    ∃ run task, found = some (run, task) ∧ Commits (f run task) s reply s' := by
  cases found with
  | none => exact absurd h (by simp)
  | some found => exact ⟨found.1, found.2, rfl, h⟩

/-! ## Starting a run -/

/-- `startRun` started the run. -/
structure Started (dateParse : String → Option Int) (capability : OperationalEventCapability)
    (context : WorkspaceContext) (runId : EntityId) (idempotencyKey : String) (db db' : Database)
    (run : AcpRun) (task : AcpTask) (row : AuditEvent) : Prop where
  checkedId : validateAcpApprovalReference runId "runId" = .ok ()
  found : db.findRun context.workspaceId runId = some (run, task)
  fresh : db.findAuditEvent context.workspaceId .CONTROL_PLANE (idempotencyKey ++ ":run") = none
  level : run.requiredAuthority ≠ 4
  moved : ∃ now db₁, Moved db db₁ run (startedRun now run) task (startedTask task)
    ∧ Announced dateParse capability context .CONTROL_PLANE
      (runChange .runStatusChanged run .RUNNING idempotencyKey) row db₁ db'

theorem startRun_spec
    (h : Commits (startRun dateParse supply capability context runId expectedVersion idempotencyKey) s reply s') :
    (∃ run replay, reply = .start run true ∧ s' = s
      ∧ s.database.findAuditEvent context.workspaceId .CONTROL_PLANE (idempotencyKey ++ ":run")
        = some replay ∧ replay.action = .runStatusChanged ∧ replay.entityId = runId)
    ∨ ∃ run task row, reply.replayed = false
      ∧ Started dateParse capability context runId idempotencyKey s.database s'.database run task
        row := by
  unfold startRun at h
  simp only [commits_check_bind, commits_read_bind] at h
  obtain ⟨actorKind, -, _, hid, _, -, h⟩ := h
  cases hreplay : s.database.findAuditEvent context.workspaceId .CONTROL_PLANE
      (idempotencyKey ++ ":run") with
  | some replay =>
    simp only [hreplay, commits_check_bind, throwIf_eq_ok, not_or, not_not, ne_eq,
      commits_findRunOrThrow_bind, commits_pure] at h
    obtain ⟨_, ⟨haction, hentity⟩, run, -, rfl, rfl⟩ := h
    exact Or.inl ⟨run, replay, rfl, rfl, rfl, haction, hentity⟩
  | none =>
    simp only [hreplay] at h
    obtain ⟨run, task, hfound, h⟩ := commits_found h
    simp only [commits_check_bind, throwIf_eq_ok, not_or, not_not, ne_eq,
      commits_newDate_bind, commits_one_bind, commits_updateRuns, commits_updateTasks,
      commits_findRunOrThrow_bind] at h
    obtain ⟨_, hlevel, _, ⟨hversion, hstatus, htstatus⟩, _, ⟨run', hrun', -, -, -, -, rfl⟩, _,
      ⟨task', htask', -, -, -, rfl⟩, started, -, h⟩ := h
    obtain rfl := eq_of_findRun hfound hrun'
    obtain rfl := eq_of_findRun_task hfound htask'
    rw [commits_bind] at h
    obtain ⟨_, t, hannounce, h⟩ := h
    obtain ⟨rfl, rfl⟩ := commits_pure.mp h
    obtain ⟨row, hrow⟩ := announced_of_commits hannounce
    refine Or.inr ⟨run', task', row, rfl, hid, hfound, hreplay, hlevel, _, _,
      moved_of_findRun hfound rfl rfl ?_, hrow⟩
    rw [hstatus, htstatus]
    exact PairMove.start

/-! ## Reserving an assignment -/

/-- `reserveAssignment` assigned the run. -/
structure Assigned (dateParse : String → Option Int) (capability : OperationalEventCapability)
    (context : WorkspaceContext) (evidence : TrustedAssignmentEvidence) (idempotencyKey : String)
    (db db' : Database) (run : AcpRun) (task : AcpTask) (row : AuditEvent) : Prop where
  found : db.findRun context.workspaceId evidence.runId = some (run, task)
  level : run.requiredAuthority ≠ 4
  moved : ∃ db₁, Moved db db₁ run (assignedRun evidence idempotencyKey run) task
      (assignedTask evidence run.attempt task)
    ∧ Announced dateParse capability context .CONTROL_PLANE
      (taskAssigned evidence run idempotencyKey) row db₁ db'

theorem reserveAssignment_spec {evidence : TrustedAssignmentEvidence}
    {verified : Except Failure Bool}
    (h : Commits (reserveAssignment dateParse supply capability context evidence expectedVersion
      idempotencyKey verified) s reply s') :
    (reply.replayed = true ∧ s' = s) ∨ ∃ run task row, reply.replayed = false
      ∧ Assigned dateParse capability context evidence idempotencyKey s.database s'.database run task
        row := by
  unfold reserveAssignment at h
  simp only [commits_check_bind, commits_read_bind] at h
  obtain ⟨actorKind, -, _, -, _, -, h⟩ := h
  obtain ⟨run, task, hfound, h⟩ := commits_found h
  simp only [commits_check_bind, throwIf_eq_ok, not_not, ne_eq] at h
  obtain ⟨_, -, _, -, _, -, _, hlevel, h⟩ := h
  by_cases hassigned : run.status = .ASSIGNED ∧ run.assignmentIdempotencyKey = some idempotencyKey
  · simp only [if_pos hassigned, commits_check_bind, commits_pure] at h
    obtain ⟨_, -, rfl, rfl⟩ := h
    exact Or.inl ⟨rfl, rfl⟩
  · simp only [if_neg hassigned, commits_check_bind, throwIf_eq_ok, not_or, not_not,
      commits_one_bind, commits_updateRuns, commits_updateTasks,
      commits_findRunOrThrow_bind] at h
    obtain ⟨_, ⟨-, hstatus, htstatus⟩, _, ⟨run', hrun', -, -, -, -, rfl⟩, _,
      ⟨task', htask', -, -, -, rfl⟩, updated, -, h⟩ := h
    obtain rfl := eq_of_findRun hfound hrun'
    obtain rfl := eq_of_findRun_task hfound htask'
    rw [commits_bind] at h
    obtain ⟨_, t, hannounce, h⟩ := h
    obtain ⟨rfl, rfl⟩ := commits_pure.mp h
    obtain ⟨row, hrow⟩ := announced_of_commits hannounce
    refine Or.inr ⟨run', task', row, rfl, hfound, hlevel, _, moved_of_findRun hfound rfl rfl ?_, hrow⟩
    rw [hstatus, htstatus]
    exact PairMove.assign

/-! ## Recording an artifact -/

/-- `recordArtifact` recorded the artifact. -/
structure Evidenced (dateParse : String → Option Int) (capability : OperationalEventCapability)
    (context : WorkspaceContext) (evidence : TrustedArtifactEvidence) (idempotencyKey : String)
    (db db' : Database) (run : AcpRun) (task : AcpTask) (row : AuditEvent) : Prop where
  found : db.findRun context.workspaceId evidence.runId = some (run, task)
  criterion : evidence.criterion ∈ task.criteria
  newId : db.acpArtifact.get? (keyOf (newArtifact context evidence run idempotencyKey)) = none
  newCriterion : ∀ other ∈ db.acpArtifact, other.workspaceId = context.workspaceId →
    other.runId = run.id → other.criterion ≠ evidence.criterion
  announced : Announced dateParse capability context .CONTROL_PLANE
    (artifactCreated evidence run idempotencyKey) row
    { db with acpArtifact := db.acpArtifact.put (newArtifact context evidence run idempotencyKey) }
    db'

theorem recordArtifact_spec {evidence : TrustedArtifactEvidence}
    {verified : Except Failure Bool}
    (h : Commits (recordArtifact dateParse supply capability context evidence idempotencyKey verified) s reply s') :
    (reply.replayed = true ∧ s' = s) ∨ ∃ run task row, reply.replayed = false
      ∧ Evidenced dateParse capability context evidence idempotencyKey s.database s'.database run task
        row := by
  unfold recordArtifact at h
  simp only [commits_check_bind, commits_read_bind] at h
  obtain ⟨actorKind, -, _, -, _, -, _, -, _, -, h⟩ := h
  cases hreplay : s.database.acpArtifact.values.find? (fun artifact : AcpArtifact =>
      decide (artifact.workspaceId = context.workspaceId ∧ artifact.idempotencyKey = idempotencyKey)) with
  | some replay =>
    simp only [hreplay, commits_check_bind, commits_pure] at h
    obtain ⟨_, -, rfl, rfl⟩ := h
    exact Or.inl ⟨rfl, rfl⟩
  | none =>
    simp only [hreplay] at h
    obtain ⟨run, task, hfound, h⟩ := commits_found h
    simp only [commits_check_bind, throwIf_eq_ok, not_not, ne_eq] at h
    obtain ⟨_, -, _, -, _, hcriterion, h⟩ := h
    rw [commits_bind] at h
    obtain ⟨_, t, hcreate, h⟩ := h
    obtain ⟨hfree, rfl⟩ := commits_insert.mp hcreate
    rw [commits_bind] at h
    obtain ⟨_, t, hannounce, h⟩ := h
    obtain ⟨rfl, rfl⟩ := commits_pure.mp h
    obtain ⟨row, hrow⟩ := announced_of_commits hannounce
    rw [not_or, Bool.not_eq_true, Store.has_eq_false] at hfree
    refine Or.inr ⟨run, task, row, rfl, hfound, hcriterion, hfree.1, ?_, hrow⟩
    intro other hother hws hrun hcrit
    exact hfree.2 ⟨other, Store.mem_values.mpr hother, hws, Or.inr ⟨hrun, hcrit⟩⟩

/-! ## Failing a run -/

/-- What a failure comes to. -/
inductive Verdict where
  | stop
  | retry
  | fail
  deriving DecidableEq

/-- A stop code stops the task, a retryable one with attempts left prepares another run, any other one
fails the task. -/
def verdict (run : AcpRun) (task : AcpTask) (failureCode : String) : Verdict :=
  if failureCode ∈ task.stopAfterFailureCodes then .stop
  else if failureCode ∈ task.retryableFailureCodes ∧ run.attempt < task.maximumAttempts then .retry
  else .fail

/-- The status of the failed run. -/
def Verdict.runStatus : Verdict → DurableRunStatus
  | .stop => .STOPPED
  | .retry => .FAILED
  | .fail => .FAILED

/-- What becomes of the task. -/
def Verdict.apply (v : Verdict) (run : AcpRun) (now : Int) (task : AcpTask) : AcpTask :=
  match v with
  | .stop => failedTask .STOPPED now task
  | .retry => retriedTask run.attempt task
  | .fail => failedTask .FAILED now task

/-- The notice about the run. -/
def Verdict.runNotice (v : Verdict) (run : AcpRun) (idempotencyKey : String) : Notice :=
  match v with
  | .stop => runChange .runStatusChanged run .STOPPED idempotencyKey
  | .retry => runChange .runFailed run .FAILED idempotencyKey
  | .fail => runChange .runFailed run .FAILED idempotencyKey

/-- The notice about the task. -/
def Verdict.taskNotice (v : Verdict) (run : AcpRun) (digest : String) (retryRunId : EntityId)
    (idempotencyKey : String) : Notice :=
  match v with
  | .stop => taskFailure .taskStopped run digest run.attempt run.id idempotencyKey
  | .retry => taskFailure .taskRetryReady run digest (run.attempt + 1) retryRunId idempotencyKey
  | .fail => taskFailure .taskFailed run digest run.attempt run.id idempotencyKey

/-- The run of the next attempt was prepared, if there is one. -/
def Retried (context : WorkspaceContext) (v : Verdict) (run : AcpRun) (retryRunId : EntityId)
    (idempotencyKey : String) (db db' : Database) : Prop :=
  match v with
  | .retry => db.acpRun.get? (key context.workspaceId retryRunId) = none
      ∧ db' = { db with acpRun := db.acpRun.put (retryRun context run retryRunId idempotencyKey) }
  | _ => db' = db

/-- `failRun` failed the run. -/
structure Failed (sha256 : String → String) (dateParse : String → Option Int)
    (capability : OperationalEventCapability) (context : WorkspaceContext) (runId : EntityId)
    (failureCode idempotencyKey : String) (db db' : Database) (run : AcpRun) (task : AcpTask)
    (row row' : AuditEvent) : Prop where
  found : db.findRun context.workspaceId runId = some (run, task)
  fresh : db.findAuditEvent context.workspaceId .CONTROL_PLANE (idempotencyKey ++ ":run") = none
  moved : ∃ now retryRunId db₁ db₂ db₃,
    Moved db db₁ run (failedRun (verdict run task failureCode).runStatus now run) task
      ((verdict run task failureCode).apply run now task)
    ∧ Retried context (verdict run task failureCode) run retryRunId idempotencyKey db₁ db₂
    ∧ Announced dateParse capability context .CONTROL_PLANE
      ((verdict run task failureCode).runNotice run idempotencyKey) row db₂ db₃
    ∧ Announced dateParse capability context .CONTROL_PLANE
      ((verdict run task failureCode).taskNotice run (sha256 failureCode) retryRunId idempotencyKey)
      row' db₃ db'

/-- What a failure does to a run and its task. -/
theorem Verdict.pairMove (v : Verdict) {now : Int}
    (hrun : run.status = .ASSIGNED ∨ run.status = .RUNNING)
    (htask : task.status = .ASSIGNED ∨ task.status = .RUNNING) :
    PairMove run.status task.status v.runStatus (v.apply run now task).status := by
  cases v with
  | stop => exact PairMove.stop hrun htask
  | retry => exact PairMove.retry hrun htask
  | fail => exact PairMove.fail hrun htask

theorem Verdict.samePolicy (v : Verdict) (run : AcpRun) (now : Int) (task : AcpTask) :
    SamePolicy task (v.apply run now task) := by
  cases v <;> rfl

/-- Two notices at the end of a transaction. -/
theorem announced_of_two {now now' : Option Int}
    {notice notice' : Notice} {answer : Reply}
    (h : Commits (do announce dateParse supply capability context .CONTROL_PLANE actorKind now notice
                     announce dateParse supply capability context .CONTROL_PLANE actorKind now' notice'
                     return answer) s reply s') :
    reply = answer ∧ ∃ row row' db,
      Announced dateParse capability context .CONTROL_PLANE notice row s.database db
      ∧ Announced dateParse capability context .CONTROL_PLANE notice' row' db s'.database := by
  rw [commits_bind] at h
  obtain ⟨_, t, hfirst, h⟩ := h
  rw [commits_bind] at h
  obtain ⟨_, t', hsecond, h⟩ := h
  obtain ⟨rfl, rfl⟩ := commits_pure.mp h
  obtain ⟨row, hrow⟩ := announced_of_commits hfirst
  obtain ⟨row', hrow'⟩ := announced_of_commits hsecond
  exact ⟨rfl, row, row', _, hrow, hrow'⟩

theorem recordFailure_spec
    {failureCode : String}
    (hfound : s.database.findRun context.workspaceId runId = some (run, task))
    (hfresh : s.database.findAuditEvent context.workspaceId .CONTROL_PLANE (idempotencyKey ++ ":run") = none)
    (hrun : run.status = .ASSIGNED ∨ run.status = .RUNNING)
    (htask : task.status = .ASSIGNED ∨ task.status = .RUNNING)
    (h : Commits (recordFailure sha256 dateParse supply capability context actorKind run task
      expectedVersion failureCode idempotencyKey) s reply s') :
    reply.replayed = false ∧ ∃ row row', Failed sha256 dateParse capability context runId failureCode
      idempotencyKey s.database s'.database run task row row' := by
  have hmoved : ∀ (v : Verdict) (now : Int), Moved s.database
      (s.database.move (failedRun v.runStatus now run) (v.apply run now task)) run
      (failedRun v.runStatus now run) task (v.apply run now task) :=
    fun v now => moved_of_findRun hfound rfl (v.samePolicy run now task) (v.pairMove hrun htask)
  unfold recordFailure at h
  simp only [commits_newDate_bind, commits_one_bind, commits_updateRuns, commits_findRunOrThrow_bind] at h
  obtain ⟨_, ⟨run', hrun', -, -, -, -, rfl⟩, failed, -, h⟩ := h
  obtain rfl := eq_of_findRun hfound hrun'
  by_cases hstop : failureCode ∈ task.stopAfterFailureCodes
  · have hverdict : verdict run' task failureCode = .stop := if_pos hstop
    simp only [hstop, decide_true, Bool.not_true, Bool.false_and, Bool.false_eq_true, if_true, if_false,
      pure_bind, commits_one_bind, commits_updateTasks, reduceCtorEq] at h
    obtain ⟨_, ⟨task', htask', -, -, -, rfl⟩, h⟩ := h
    obtain rfl := eq_of_findRun_task hfound htask'
    obtain ⟨rfl, row, row', db, hrow, hrow'⟩ := announced_of_two h
    refine ⟨rfl, row, row', hfound, hfresh, ?_⟩
    rw [hverdict]
    exact ⟨_, run'.id, _, _, db, hmoved .stop _, rfl, hrow, hrow'⟩
  · by_cases hretry : failureCode ∈ task.retryableFailureCodes ∧ run'.attempt < task.maximumAttempts
    · have hverdict : verdict run' task failureCode = .retry := by
        rw [verdict, if_neg hstop, if_pos hretry]
      simp only [hstop, hretry.1, hretry.2, decide_true, decide_false, Bool.not_false, Bool.true_and,
        Bool.false_eq_true, if_true, if_false, pure_bind, commits_randomUUID_bind,
        commits_one_bind, commits_updateTasks] at h
      obtain ⟨_, ⟨task', htask', -, -, -, rfl⟩, h⟩ := h
      obtain rfl := eq_of_findRun_task hfound htask'
      rw [commits_bind] at h
      obtain ⟨_, t, hcreate, h⟩ := h
      obtain ⟨hfree, rfl⟩ := commits_insert.mp hcreate
      obtain ⟨rfl, row, row', db, hrow, hrow'⟩ := announced_of_two h
      rw [not_or, Bool.not_eq_true, Store.has_eq_false] at hfree
      refine ⟨rfl, row, row', hfound, hfresh, ?_⟩
      rw [hverdict]
      exact ⟨_, _, _, _, db, hmoved .retry _, ⟨hfree.1, rfl⟩, hrow, hrow'⟩
    · have hverdict : verdict run' task failureCode = .fail := by
        rw [verdict, if_neg hstop, if_neg hretry]
      have hretry' : (decide (failureCode ∈ task.retryableFailureCodes)
          && decide (run'.attempt < task.maximumAttempts)) = false := by
        rw [← Bool.decide_and, decide_eq_false hretry]
      simp only [hstop, decide_false, Bool.not_false, Bool.true_and, hretry', Bool.false_eq_true,
        if_true, if_false, pure_bind, commits_one_bind, commits_updateTasks] at h
      obtain ⟨_, ⟨task', htask', -, -, -, rfl⟩, h⟩ := h
      obtain rfl := eq_of_findRun_task hfound htask'
      obtain ⟨rfl, row, row', db, hrow, hrow'⟩ := announced_of_two h
      refine ⟨rfl, row, row', hfound, hfresh, ?_⟩
      rw [hverdict]
      exact ⟨_, run'.id, _, _, db, hmoved .fail _, rfl, hrow, hrow'⟩

theorem failRun_spec {failureCode : String}
    (h : Commits (failRun sha256 dateParse supply capability context runId expectedVersion failureCode
      idempotencyKey) s reply s') :
    (∃ run replay taskReplay, reply = .failure run none true ∧ s' = s
      ∧ s.database.findAuditEvent context.workspaceId .CONTROL_PLANE (idempotencyKey ++ ":run")
        = some replay ∧ (replay.action = .runFailed ∨ replay.action = .runStatusChanged)
      ∧ replay.entityId = runId
      ∧ s.database.findAuditEvent context.workspaceId .CONTROL_PLANE (idempotencyKey ++ ":task")
        = some taskReplay
      ∧ taskReplay.after.lookup "failureCodeDigest" = some (.text (sha256 failureCode)))
    ∨ ∃ run task row row', reply.replayed = false
      ∧ Failed sha256 dateParse capability context runId failureCode idempotencyKey s.database
        s'.database run task row row' := by
  unfold failRun at h
  simp only [commits_check_bind, commits_read_bind] at h
  obtain ⟨actorKind, -, _, -, _, -, _, -, h⟩ := h
  cases hreplay : s.database.findAuditEvent context.workspaceId .CONTROL_PLANE
      (idempotencyKey ++ ":run") with
  | some replay =>
    simp only [hreplay, commits_check_bind, throwIf_eq_ok, not_or, not_and_or, not_not, ne_eq,
      commits_findRunOrThrow_bind, commits_pure] at h
    obtain ⟨_, ⟨haction, hentity, hdigest⟩, run, -, rfl, rfl⟩ := h
    obtain ⟨taskReplay, htask, hdigest⟩ := Option.bind_eq_some_iff.mp hdigest
    exact Or.inl ⟨run, replay, taskReplay, rfl, rfl, rfl, haction, hentity, htask, hdigest⟩
  | none =>
    simp only [hreplay] at h
    obtain ⟨run, task, hfound, h⟩ := commits_found h
    simp only [commits_check_bind, throwIf_eq_ok, not_or, not_and_or, not_not, ne_eq] at h
    obtain ⟨_, ⟨-, hrun, htask⟩, h⟩ := h
    obtain ⟨hreply, row, row', hfailed⟩ := recordFailure_spec hfound hreplay hrun htask h
    exact Or.inr ⟨run, task, row, row', hreply, hfailed⟩

/-! ## Releasing dependents -/

/-- What the completion of a task makes of another task. -/
def release (db : Database) (dependents : List AcpTaskDependency) (task : AcpTask) : AcpTask :=
  if (∃ dependent ∈ dependents, key dependent.workspaceId dependent.taskId = keyOf task)
      ∧ db.Releasable task then
    releasedTask task
  else task

/-- The dependents of `done` have been looked at; `db` is the database before the loop. -/
structure Releasing (dateParse : String → Option Int) (capability : OperationalEventCapability)
    (context : WorkspaceContext) (run : AcpRun) (idempotencyKey : String) (db : Database)
    (done : List AcpTaskDependency) (db' : Database) : Prop where
  tasks : ∀ k, db'.acpTask.get? k = (db.acpTask.get? k).map (release db done)
  rows : ∃ rows, db'.auditEvent = db.auditEvent ++ rows ∧ ∀ row ∈ rows, ∃ task before after,
    task ∈ db.acpTask ∧ db.Releasable task
      ∧ Announced dateParse capability context .CONTROL_PLANE
        (taskReady task (Coo.sortTexts ((db.dependenciesOf task).map AcpTaskDependency.dependsOnTaskId))
          run.objectiveId idempotencyKey) row before after
  objectives : db'.acpObjective = db.acpObjective
  projects : db'.acpProject = db.acpProject
  dependencies : db'.acpTaskDependency = db.acpTaskDependency
  runs : db'.acpRun = db.acpRun
  artifacts : db'.acpArtifact = db.acpArtifact

theorem releasedStatus_cases (task : AcpTask) :
    releasedStatus task = .READY ∨ releasedStatus task = .AWAITING_APPROVAL := by
  unfold releasedStatus
  split
  · exact Or.inr rfl
  · exact Or.inl rfl

theorem samePolicy_release (db : Database) (dependents : List AcpTaskDependency) (task : AcpTask) :
    SamePolicy task (release db dependents task) := by
  unfold release
  split
  · rfl
  · exact SamePolicy.refl task

/-- Releasing completes no task and undoes no completion. -/
theorem release_completed {dependents : List AcpTaskDependency} :
    (release db dependents task).status = .COMPLETED ↔ task.status = .COMPLETED := by
  unfold release
  split
  · rename_i h
    have hblocked : task.status = .BLOCKED := h.2.1
    rw [hblocked]
    show releasedStatus task = .COMPLETED ↔ _
    rcases releasedStatus_cases task with h | h <;> simp [h]
  · exact Iff.rfl

section Loop

variable {db' : Database} {done : List AcpTaskDependency}

theorem Releasing.refl : Releasing dateParse capability context run idempotencyKey db [] db where
  tasks k := by
    have hnone : ∀ task, release db [] task = task := fun task => if_neg fun h => by simpa using h.1
    rw [funext hnone, Option.map_id']
  rows := ⟨[], (List.append_nil _).symm, fun _ h => absurd h List.not_mem_nil⟩
  objectives := rfl
  projects := rfl
  dependencies := rfl
  runs := rfl
  artifacts := rfl

variable (h : Releasing dateParse capability context run idempotencyKey db done db')
include h

/-- The loop sees the completed tasks it started with. -/
theorem Releasing.isCompleted_iff {dependency : AcpTaskDependency} :
    db'.IsCompleted dependency ↔ db.IsCompleted dependency := by
  unfold Database.IsCompleted
  rw [h.tasks]
  cases db.acpTask.get? (key dependency.workspaceId dependency.dependsOnTaskId) with
  | none => simp
  | some task => simp [release_completed]

theorem Releasing.dependenciesOf_eq (task : AcpTask) :
    db'.dependenciesOf task = db.dependenciesOf task := by
  unfold Database.dependenciesOf
  rw [h.dependencies]

/-- A task is releasable in the loop iff it was before and has not been released. -/
theorem Releasing.releasable_iff (task : AcpTask) :
    db'.Releasable (release db done task) ↔ db.Releasable task ∧ release db done task = task := by
  have hdeps : db'.dependenciesOf (release db done task) = db.dependenciesOf task := by
    rw [h.dependenciesOf_eq, samePolicy_release db done task]
    rfl
  unfold Database.Releasable
  rw [hdeps]
  simp only [h.isCompleted_iff]
  constructor
  · rintro ⟨hblocked, hall⟩
    by_cases hreleased : (∃ dependent ∈ done, key dependent.workspaceId dependent.taskId = keyOf task)
        ∧ db.Releasable task
    · -- A released task is not blocked any more.
      rw [release, if_pos hreleased] at hblocked
      rcases releasedStatus_cases task with hs | hs <;> rw [releasedTask, hs] at hblocked <;>
        cases hblocked
    · have hsame : release db done task = task := if_neg hreleased
      rw [hsame] at hblocked
      exact ⟨⟨hblocked, hall⟩, hsame⟩
  · rintro ⟨⟨hblocked, hall⟩, hsame⟩
    rw [hsame]
    exact ⟨hblocked, hall⟩

omit h in
/-- Looking at one dependent more. -/
theorem release_concat (done : List AcpTaskDependency) (dependent : AcpTaskDependency)
    (task : AcpTask) : release db (done ++ [dependent]) task =
      if key dependent.workspaceId dependent.taskId = keyOf task ∧ db.Releasable task then
        releasedTask task
      else release db done task := by
  unfold release
  by_cases hkey : key dependent.workspaceId dependent.taskId = keyOf task ∧ db.Releasable task
  · have hlast : dependent ∈ done ++ [dependent] := List.mem_append_right _ (List.mem_singleton_self _)
    rw [if_pos hkey, if_pos ⟨⟨dependent, hlast, hkey.1⟩, hkey.2⟩]
  · rw [if_neg hkey]
    refine if_congr ?_ rfl rfl
    constructor
    · rintro ⟨⟨other, hother, hsame⟩, hreleasable⟩
      rcases List.mem_append.mp hother with hother | hother
      · exact ⟨⟨other, hother, hsame⟩, hreleasable⟩
      · rw [List.mem_singleton.mp hother] at hsame
        exact absurd ⟨hsame, hreleasable⟩ hkey
    · rintro ⟨⟨other, hother, hsame⟩, hreleasable⟩
      exact ⟨⟨other, List.mem_append_left _ hother, hsame⟩, hreleasable⟩

omit h in
/-- A task that was released is a released task. -/
theorem release_of_ne (h : release db done task ≠ task) :
    release db done task = releasedTask task := by
  unfold release at h ⊢
  split
  · rfl
  · rename_i hnot
    exact absurd (if_neg hnot) h

/-- A dependent that is not released leaves everything as it is. -/
theorem Releasing.skip
    (hskip : ∀ task, db.acpTask.get? (key dependent.workspaceId dependent.taskId) = some task →
      ¬ db'.Releasable (release db done task)) :
    Releasing dateParse capability context run idempotencyKey db (done ++ [dependent]) db' := by
  refine { h with tasks := fun k => ?_ }
  rw [h.tasks]
  cases hk : db.acpTask.get? k with
  | none => rfl
  | some task =>
    rw [Option.map_some, Option.map_some, release_concat]
    split
    · rename_i hmatch
      -- The task is releasable, so it is not blocked any more: it was released already.
      have hget : db.acpTask.get? (key dependent.workspaceId dependent.taskId) = some task := by
        rw [hmatch.1, Store.keyOf_of_get? hk]
        exact hk
      have hnot := hskip task hget
      rw [h.releasable_iff] at hnot
      have hne : release db done task ≠ task := fun hsame => hnot ⟨hmatch.2, hsame⟩
      rw [release_of_ne hne]
    · rfl

/-- A dependent that is released. -/
theorem Releasing.next {row : AuditEvent} {db'' : Database}
    (hget : db.acpTask.get? (key dependent.workspaceId dependent.taskId) = some task)
    (hreleasable : db'.Releasable (release db done task))
    (hrow : Announced dateParse capability context .CONTROL_PLANE
      (taskReady (release db done task) (Coo.sortTexts
        ((db'.dependenciesOf (release db done task)).map AcpTaskDependency.dependsOnTaskId))
        run.objectiveId idempotencyKey) row
      { db' with acpTask := db'.acpTask.put (releasedTask (release db done task)) } db'') :
    Releasing dateParse capability context run idempotencyKey db (done ++ [dependent]) db'' := by
  obtain ⟨hdb, hsame⟩ := (h.releasable_iff task).mp hreleasable
  obtain ⟨rows, hrows, hall⟩ := h.rows
  have hkey : keyOf task = key dependent.workspaceId dependent.taskId := Store.keyOf_of_get? hget
  rw [hsame, h.dependenciesOf_eq] at hrow
  have htables := hrow.database
  refine ⟨fun k => ?_, ⟨rows ++ [row], ?_, ?_⟩, ?_, ?_, ?_, ?_, ?_⟩
  · rw [htables]
    show (db'.acpTask.put (releasedTask task)).get? k = _
    rw [Store.get?_put]
    by_cases hk : k = keyOf task
    · have hk' : k = keyOf (releasedTask task) := hk
      rw [if_pos hk', hk, hkey, hget, Option.map_some, release_concat, if_pos ⟨hkey.symm, hdb⟩]
    · have hk' : k ≠ keyOf (releasedTask task) := hk
      rw [if_neg hk', h.tasks]
      cases hother : db.acpTask.get? k with
      | none => rfl
      | some other =>
        have hne : ¬ (key dependent.workspaceId dependent.taskId = keyOf other
            ∧ db.Releasable other) := by
          rintro ⟨hsamekey, -⟩
          rw [← hkey, Store.keyOf_of_get? hother] at hsamekey
          exact hk hsamekey.symm
        rw [Option.map_some, Option.map_some, release_concat, if_neg hne]
  · rw [htables, ← List.append_assoc, ← hrows]
  · intro r hr
    rcases List.mem_append.mp hr with hr | hr
    · exact hall r hr
    · rw [List.mem_singleton.mp hr]
      exact ⟨task, _, _, Store.mem_of_get? hget, hdb, hrow⟩
  · rw [htables]
    exact h.objectives
  · rw [htables]
    exact h.projects
  · rw [htables]
    exact h.dependencies
  · rw [htables]
    exact h.runs
  · rw [htables]
    exact h.artifacts

/-- One iteration of the loop. -/
theorem Releasing.step {now : Int}
    {u : Unit} (hws : dependent.workspaceId = context.workspaceId) (hdb : db' = s.database)
    (hstep : Commits (releaseDependent dateParse supply capability context actorKind run now
      idempotencyKey dependent) s u s') :
    Releasing dateParse capability context run idempotencyKey db (done ++ [dependent]) s'.database := by
  subst hdb
  unfold releaseDependent at hstep
  rw [commits_read_bind, ← hws, h.tasks] at hstep
  cases hget : db.acpTask.get? (key dependent.workspaceId dependent.taskId) with
  | none =>
    rw [hget] at hstep
    obtain ⟨-, rfl⟩ := commits_pure.mp hstep
    exact h.skip fun task htask => by rw [hget] at htask; cases htask
  | some task =>
    simp only [hget, Option.map_some] at hstep
    by_cases hreleasable : s.database.Releasable (release db done task)
    · rw [if_pos hreleasable, commits_bind] at hstep
      obtain ⟨_, t, hupdate, hannounce⟩ := hstep
      obtain ⟨blocked, hblocked, -, rfl⟩ := commits_updateTask.mp hupdate
      obtain ⟨row, hrow⟩ := announced_of_commits hannounce
      -- The task updated is the one that was read.
      obtain ⟨-, hsame⟩ := (h.releasable_iff task).mp hreleasable
      have hid : key dependent.workspaceId (release db done task).id
          = key dependent.workspaceId dependent.taskId := by
        have htaskId : task.id = dependent.taskId := (key_inj.mp (Store.keyOf_of_get? hget)).2
        rw [hsame, htaskId]
      rw [hid, h.tasks, hget, Option.map_some, Option.some.injEq] at hblocked
      subst hblocked
      exact h.next hget hreleasable hrow
    · rw [if_neg hreleasable] at hstep
      obtain ⟨-, rfl⟩ := commits_pure.mp hstep
      refine h.skip fun task' htask' => ?_
      rw [hget, Option.some.injEq] at htask'
      exact htask' ▸ hreleasable

end Loop

/-! ## Completing a run -/

/-- `completeRun` completed the run. -/
structure Completed (dateParse : String → Option Int) (capability : OperationalEventCapability)
    (context : WorkspaceContext) (runId : EntityId) (idempotencyKey : String) (db db' : Database)
    (run : AcpRun) (task : AcpTask) (row row' : AuditEvent) : Prop where
  found : db.findRun context.workspaceId runId = some (run, task)
  fresh : db.findAuditEvent context.workspaceId .CONTROL_PLANE (idempotencyKey ++ ":run") = none
  covered : ∀ criterion ∈ task.criteria, ∃ artifact ∈ db.artifactsOf run,
    artifact.criterion = criterion
  moved : ∃ now db₁ db₂ db₃, Moved db db₁ run (completedRun now run) task (completedTask now task)
    ∧ Announced dateParse capability context .CONTROL_PLANE
      (runChange .runCompleted run .COMPLETED idempotencyKey) row db₁ db₂
    ∧ Announced dateParse capability context .CONTROL_PLANE
      (taskCompleted run (Coo.sortTexts ((db.artifactsOf run).map AcpArtifact.id)) idempotencyKey)
      row' db₂ db₃
    ∧ Releasing dateParse capability context run idempotencyKey db₃
      (db₃.dependentsOf context.workspaceId run.taskId) db'

theorem recordCompletion_spec
    (hfound : s.database.findRun context.workspaceId runId = some (run, task))
    (hfresh : s.database.findAuditEvent context.workspaceId .CONTROL_PLANE (idempotencyKey ++ ":run") = none)
    (hrun : run.status = .RUNNING) (htask : task.status = .RUNNING)
    (hcovered : ∀ criterion ∈ task.criteria, ∃ artifact ∈ s.database.artifactsOf run, artifact.criterion = criterion)
    (h : Commits (recordCompletion dateParse supply capability context actorKind run task
      (s.database.artifactsOf run) expectedVersion idempotencyKey) s reply s') :
    reply.replayed = false ∧ ∃ row row', Completed dateParse capability context runId idempotencyKey
      s.database s'.database run task row row' := by
  unfold recordCompletion at h
  simp only [commits_newDate_bind, commits_one_bind, commits_updateRuns, commits_updateTasks,
    commits_findRunOrThrow_bind] at h
  obtain ⟨_, ⟨run', hrun', -, -, -, -, rfl⟩, _, ⟨task', htask', -, -, -, rfl⟩, completed, -, h⟩ := h
  obtain rfl := eq_of_findRun hfound hrun'
  obtain rfl := eq_of_findRun_task hfound htask'
  rw [commits_bind] at h
  obtain ⟨_, t₁, hfirst, h⟩ := h
  rw [commits_bind] at h
  obtain ⟨_, t₂, hsecond, h⟩ := h
  rw [commits_read_bind, commits_bind] at h
  obtain ⟨_, t₃, hloop, h⟩ := h
  obtain ⟨rfl, rfl⟩ := commits_pure.mp h
  obtain ⟨row, hrow⟩ := announced_of_commits hfirst
  obtain ⟨row', hrow'⟩ := announced_of_commits hsecond
  have hreleased := hloop.loop
    (I := fun done t => Releasing dateParse capability context run' idempotencyKey t₂.database done
      t.database) Releasing.refl
    (fun done dependent rest hsplit t t' u hdone hstep => by
      have hmem : dependent ∈ t₂.database.dependentsOf context.workspaceId run'.taskId := by
        rw [← hsplit]
        exact List.mem_append_right _ List.mem_cons_self
      have hws : dependent.workspaceId = context.workspaceId :=
        (of_decide_eq_true (List.mem_filter.mp hmem).2).1
      exact hdone.step hws rfl hstep)
  refine ⟨rfl, row, row', hfound, hfresh, hcovered, _, _, _, _, moved_of_findRun hfound rfl rfl ?_,
    hrow, hrow', hreleased⟩
  rw [hrun, htask]
  exact PairMove.complete

theorem completeRun_spec
    (h : Commits (completeRun dateParse supply capability context runId expectedVersion idempotencyKey) s reply s') :
    (∃ run replay, reply = .completion run true ∧ s' = s
      ∧ s.database.findAuditEvent context.workspaceId .CONTROL_PLANE (idempotencyKey ++ ":run")
        = some replay ∧ replay.action = .runCompleted ∧ replay.entityId = runId)
    ∨ ∃ run task row row', reply.replayed = false
      ∧ Completed dateParse capability context runId idempotencyKey s.database s'.database run task row
        row' := by
  unfold completeRun at h
  simp only [commits_check_bind, commits_read_bind] at h
  obtain ⟨actorKind, -, _, -, _, -, h⟩ := h
  cases hreplay : s.database.findAuditEvent context.workspaceId .CONTROL_PLANE
      (idempotencyKey ++ ":run") with
  | some replay =>
    simp only [hreplay, commits_check_bind, throwIf_eq_ok, not_or, not_not, ne_eq,
      commits_findRunOrThrow_bind, commits_pure] at h
    obtain ⟨_, ⟨haction, hentity⟩, run, -, rfl, rfl⟩ := h
    exact Or.inl ⟨run, replay, rfl, rfl, rfl, haction, hentity⟩
  | none =>
    simp only [hreplay] at h
    obtain ⟨run, task, hfound, h⟩ := commits_found h
    simp only [commits_check_bind, throwIf_eq_ok, not_or, not_not, ne_eq] at h
    obtain ⟨_, ⟨-, hrun, htask⟩, _, hmissing, h⟩ := h
    have hcovered : ∀ criterion ∈ task.criteria, ∃ artifact ∈ s.database.artifactsOf run,
        artifact.criterion = criterion := by
      intro criterion hcriterion
      by_contra hnone
      refine hmissing ⟨criterion, hcriterion, fun hmem => hnone ?_⟩
      obtain ⟨artifact, hartifact, hsame⟩ := List.mem_map.mp hmem
      exact ⟨artifact, hartifact, hsame⟩
    obtain ⟨hreply, row, row', hcompleted⟩ :=
      recordCompletion_spec hfound hreplay hrun htask hcovered h
    exact Or.inr ⟨run, task, row, row', hreply, hcompleted⟩

end Operations

end VentureOS.Durable
