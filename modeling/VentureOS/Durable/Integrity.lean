import VentureOS.Durable.Growth

/-! # What rows refer to

The identifiers in the database passed the checks of the events about them, and what a row refers to is
there: the task of a run, both tasks of a dependency, the run of an artifact and, among the criteria of its
task, the criterion of the artifact (`Sound`). -/

namespace VentureOS.Durable

open ControlPlane Transaction

variable {sha256 : String → String} {dateParse : String → Option Int} {db db' : Database}

/-- The identifier of a task is a reference, short enough for the keys of events about it. -/
structure SoundTask (task : AcpTask) : Prop where
  id : SafeReference task.id
  bounded : task.id.toList.length ≤ 244

/-- A run has references for identifiers, approved ones once it is running, and a task. -/
structure SoundRun (db : Database) (run : AcpRun) : Prop where
  id : SafeReference run.id
  objectiveId : SafeReference run.objectiveId
  approved : run.status = .RUNNING → validateAcpApprovalReference run.id "runId" = .ok ()
  task : ∃ task, db.acpTask.get? (key run.workspaceId run.taskId) = some task

/-- An artifact has a reference for identifier, and satisfies a criterion that the task of its run
declares. -/
structure SoundArtifact (db : Database) (artifact : AcpArtifact) : Prop where
  id : SafeReference artifact.id
  criterion : ∃ run task, db.acpRun.get? (key artifact.workspaceId artifact.runId) = some run
    ∧ db.acpTask.get? (key run.workspaceId run.taskId) = some task
    ∧ artifact.criterion ∈ task.criteria

/-- Both tasks of a dependency exist. -/
structure SoundDependency (db : Database) (dependency : AcpTaskDependency) : Prop where
  task : ∃ task, db.acpTask.get? (key dependency.workspaceId dependency.taskId) = some task
  dependsOn : ∃ task, db.acpTask.get? (key dependency.workspaceId dependency.dependsOnTaskId) = some task

/-- What rows refer to is there. -/
structure Sound (db : Database) : Prop where
  tasks : ∀ task ∈ db.acpTask, SoundTask task
  runs : ∀ run ∈ db.acpRun, SoundRun db run
  artifacts : ∀ artifact ∈ db.acpArtifact, SoundArtifact db artifact
  dependencies : ∀ dependency ∈ db.acpTaskDependency, SoundDependency db dependency

theorem sound_empty : Sound Database.empty :=
  ⟨fun _ h => absurd h (Store.not_mem_empty _), fun _ h => absurd h (Store.not_mem_empty _),
    fun _ h => absurd h (Store.not_mem_empty _), fun _ h => absurd h List.not_mem_nil⟩

/-! ## What a call keeps -/

theorem SamePolicy.criteria_eq {old new : AcpTask} (h : SamePolicy old new) :
    new.criteria = old.criteria := by
  rw [h]
  rfl

theorem SoundTask.samePolicy {old new : AcpTask} (h : SoundTask old) (hsame : SamePolicy old new) :
    SoundTask new := by
  rw [hsame]
  exact ⟨h.id, h.bounded⟩

theorem SoundRun.grows {old new : AcpRun} (h : SoundRun db old) (hgrows : Grows db db')
    (hsame : SameBinding old new)
    (happroved : new.status = .RUNNING → validateAcpApprovalReference old.id "runId" = .ok ()) :
    SoundRun db' new := by
  obtain ⟨task, htask⟩ := h.task
  obtain ⟨task', htask', -⟩ := hgrows.tasks htask
  rw [hsame]
  exact ⟨h.id, h.objectiveId, happroved, task', htask'⟩

theorem SoundArtifact.grows {artifact : AcpArtifact} (h : SoundArtifact db artifact)
    (hgrows : Grows db db') : SoundArtifact db' artifact := by
  obtain ⟨run, task, hrun, htask, hcriterion⟩ := h.criterion
  obtain ⟨run', hrun', hstep⟩ := hgrows.runs hrun
  obtain ⟨task', htask', hstep'⟩ := hgrows.tasks htask
  have hkey : key run'.workspaceId run'.taskId = key run.workspaceId run.taskId := by
    rw [hstep.sameBinding]
  refine ⟨h.id, run', task', hrun', hkey ▸ htask', ?_⟩
  rw [hstep'.samePolicy.criteria_eq]
  exact hcriterion

theorem SoundDependency.grows {dependency : AcpTaskDependency} (h : SoundDependency db dependency)
    (hgrows : Grows db db') : SoundDependency db' dependency := by
  obtain ⟨task, htask⟩ := h.task
  obtain ⟨other, hother⟩ := h.dependsOn
  obtain ⟨task', htask', -⟩ := hgrows.tasks htask
  obtain ⟨other', hother', -⟩ := hgrows.tasks hother
  exact ⟨⟨task', htask'⟩, ⟨other', hother'⟩⟩

theorem Verdict.runStatus_ne_running (v : Verdict) : v.runStatus ≠ .RUNNING := by
  cases v <;> decide

section Steps

variable {capability : OperationalEventCapability} {context : WorkspaceContext} {source : EventSource}
  {notice : Notice} {row row' : AuditEvent} {run run' : AcpRun} {task task' : AcpTask}
  (h : Sound db)
include h

theorem Sound.announced (hrow : Announced dateParse capability context source notice row db db') :
    Sound db' := by
  have hgrows := hrow.adds.grows
  rw [hrow.database] at hgrows ⊢
  exact ⟨h.tasks, fun run hrun => (h.runs run hrun).grows hgrows rfl (h.runs run hrun).approved,
    fun artifact hartifact => (h.artifacts artifact hartifact).grows hgrows,
    fun dependency hdependency => (h.dependencies dependency hdependency).grows hgrows⟩

theorem Sound.moved (hmoved : Moved db db' run run' task task')
    (happroved : run'.status = .RUNNING → validateAcpApprovalReference run.id "runId" = .ok ()) :
    Sound db' := by
  have hgrows := hmoved.grows
  refine ⟨fun other hother => ?_, fun other hother => ?_, fun artifact hartifact => ?_,
    fun dependency hdependency => ?_⟩
  · rw [hmoved.database] at hother
    rcases Store.mem_put.mp hother with rfl | hold
    · exact (h.tasks task hmoved.task_mem).samePolicy hmoved.samePolicy
    · exact h.tasks other hold.1
  · rw [hmoved.database] at hother
    rcases Store.mem_put.mp hother with rfl | hold
    · exact (h.runs run hmoved.run_mem).grows hgrows hmoved.sameBinding happroved
    · exact (h.runs other hold.1).grows hgrows rfl (h.runs other hold.1).approved
  · rw [hmoved.database] at hartifact
    exact (h.artifacts artifact hartifact).grows hgrows
  · rw [hmoved.database] at hdependency
    exact (h.dependencies dependency hdependency).grows hgrows

/-- The run of another attempt has the task of the failed one. -/
theorem Sound.retried {v : Verdict} {retryRunId : EntityId} {idempotencyKey : String}
    (hretried : Retried context v run retryRunId idempotencyKey db db')
    (hobjective : SafeReference run.objectiveId)
    (htask : ∃ task, db.acpTask.get? (key context.workspaceId run.taskId) = some task)
    (hid : v = .retry → SafeReference retryRunId) : Sound db' := by
  have hgrows := hretried.adds.grows
  cases v with
  | stop => exact hretried ▸ h
  | fail => exact hretried ▸ h
  | retry =>
    obtain ⟨-, rfl⟩ := hretried
    refine ⟨h.tasks, fun other hother => ?_,
      fun artifact hartifact => (h.artifacts artifact hartifact).grows hgrows,
      fun dependency hdependency => (h.dependencies dependency hdependency).grows hgrows⟩
    rcases Store.mem_put.mp hother with rfl | hold
    · exact ⟨hid rfl, hobjective, fun hrunning => (by cases hrunning), htask⟩
    · exact (h.runs other hold.1).grows hgrows rfl (h.runs other hold.1).approved

theorem Sound.evidenced {evidence : TrustedArtifactEvidence} {idempotencyKey : String}
    (hevidenced : Evidenced dateParse capability context evidence idempotencyKey db db' run task
      row) : Sound db' := by
  have hgrows := hevidenced.adds.grows
  obtain ⟨hrun, htask⟩ := Database.findRun_eq_some.mp hevidenced.found
  obtain ⟨-, -, -, hid, -⟩ := mem_of_findRun hevidenced.found
  have hdb := hevidenced.announced.database
  rw [hdb] at hgrows ⊢
  refine ⟨h.tasks, fun other hother => (h.runs other hother).grows hgrows rfl
    (h.runs other hother).approved, fun artifact hartifact => ?_,
    fun dependency hdependency => (h.dependencies dependency hdependency).grows hgrows⟩
  rcases Store.mem_put.mp hartifact with rfl | hold
  · have hkey : key context.workspaceId run.id = key context.workspaceId evidence.runId := by rw [hid]
    exact ⟨hevidenced.announced.references.1, run, task, hkey ▸ hrun, htask, hevidenced.criterion⟩
  · exact (h.artifacts artifact hold.1).grows hgrows

theorem Sound.failed {runId : EntityId} {failureCode idempotencyKey : String}
    (hfailed : Failed sha256 dateParse capability context runId failureCode idempotencyKey db db' run
      task row row') : Sound db' := by
  obtain ⟨now, retryRunId, db₁, db₂, db₃, hmoved, hretried, hrow, hrow'⟩ := hfailed.moved
  obtain ⟨-, -, hws, -⟩ := mem_of_findRun hfailed.found
  obtain ⟨task', htask', -⟩ := hmoved.grows.tasks (Database.findRun_eq_some.mp hfailed.found).2
  rw [hws] at htask'
  have hmovedSound : Sound db₁ := h.moved hmoved fun hrunning =>
    absurd hrunning (verdict run task failureCode).runStatus_ne_running
  have hretriedSound := hmovedSound.retried hretried (h.runs run hmoved.run_mem).objectiveId
    ⟨task', htask'⟩ fun hretry => by
      -- The event about another attempt belongs to its run.
      rw [hretry] at hrow'
      exact hrow'.references.2.2
  exact (hretriedSound.announced hrow).announced hrow'

theorem Sound.completed {runId : EntityId} {idempotencyKey : String}
    (hcompleted : Completed dateParse capability context runId idempotencyKey db db' run task row
      row') : Sound db' := by
  have hgrows := hcompleted.grows
  obtain ⟨now, db₁, db₂, db₃, hmoved, hrow, hrow', hreleasing⟩ := hcompleted.moved
  have hsound : Sound db₃ := ((h.moved hmoved fun hrunning => (by cases hrunning)).announced
    hrow).announced hrow'
  refine ⟨fun other hother => ?_, fun other hother => ?_, fun artifact hartifact => ?_,
    fun dependency hdependency => ?_⟩
  · rw [Store.mem_iff_get?, hreleasing.tasks] at hother
    obtain ⟨old, hold, rfl⟩ := Option.map_eq_some_iff.mp hother
    exact (hsound.tasks old (Store.mem_of_get? hold)).samePolicy (samePolicy_release _ _ old)
  · rw [hreleasing.runs] at hother
    obtain ⟨hid, hobjective, happroved, old, hold⟩ := hsound.runs other hother
    have hnew := hreleasing.tasks (key other.workspaceId other.taskId)
    rw [hold, Option.map_some] at hnew
    exact ⟨hid, hobjective, happroved, _, hnew⟩
  · rw [hreleasing.artifacts, hrow'.database, hrow.database, hmoved.database] at hartifact
    exact (h.artifacts artifact hartifact).grows hgrows
  · rw [hreleasing.dependencies, hrow'.database, hrow.database, hmoved.database] at hdependency
    exact (h.dependencies dependency hdependency).grows hgrows

end Steps

/-! ## Plans -/

/-- The key of an event about a task leaves room for its identifier. -/
theorem TaskReference.bounded {input : DurableObjectivePlanInput} {task : DurableTaskPlanInput}
    (h : TaskReference input task) : task.id.toList.length ≤ 244 := by
  have hbounded := h.2.bounded
  have hfirst := h.2.first
  have hevent : ":run-event:".toList.length = 11 := by decide
  rw [String.toList_append, String.toList_append, List.length_append, List.length_append, hevent] at hbounded
  cases hkey : input.idempotencyKey.toList with
  | nil =>
    -- A reference does not start with a colon.
    rw [String.toList_append, String.toList_append, hkey] at hfirst
    cases hfirst
  | cons c rest =>
    rw [hkey, List.length_cons] at hbounded
    omega

theorem Sound.planned {context : WorkspaceContext} {input : DurableObjectivePlanInput} (h : Sound db)
    (hplanned : Planned sha256 context input db db') : Sound db' := by
  have hgrows := hplanned.adds.grows
  obtain ⟨runs, db₁, hinserted, hdb⟩ := hplanned.inserted
  have htasks : db'.acpTask = db₁.acpTask := by rw [hdb]
  have hruns : db'.acpRun = db₁.acpRun := by rw [hdb]
  -- The tasks of the plan are found in the new database.
  have hfound : ∀ id ∈ input.tasks.map DurableTaskPlanInput.id,
      ∃ task, db'.acpTask.get? (key input.workspaceId id) = some task := by
    intro id hid
    obtain ⟨task, htask, rfl⟩ := List.mem_map.mp hid
    rw [htasks]
    exact ⟨_, hinserted.taskRows.get?_of_mem (List.mem_map_of_mem htask)⟩
  refine ⟨fun task htask => ?_, fun run hrun => ?_, fun artifact hartifact => ?_, fun dependency hdependency => ?_⟩
  · rw [htasks, hinserted.taskRows.mem_iff] at htask
    rcases htask with hold | hnew
    · exact h.tasks task hold
    · obtain ⟨planned, hplan, rfl⟩ := List.mem_map.mp hnew
      have hreference := hinserted.references planned hplan
      exact ⟨hreference.1, hreference.bounded⟩
  · rw [hruns, hinserted.runRows.mem_iff] at hrun
    rcases hrun with hold | hnew
    · exact (h.runs run hold).grows hgrows rfl (h.runs run hold).approved
    · obtain ⟨planned, hplan, hfirst, hid⟩ :=
        exists_of_firstRuns hinserted.firstRuns hnew
      obtain ⟨objective, hobjective, hreference, -⟩ := hinserted.objectiveRows
      refine ⟨hid, ?_, ?_, ?_⟩
      · rw [hfirst]
        rw [hobjective] at hreference
        exact hreference
      · rw [hfirst]
        intro hrunning
        have hinitial : initialRunStatus planned = .RUNNING := hrunning
        rcases initialRunStatus_cases planned with hs | hs <;> rw [hs] at hinitial <;> cases hinitial
      · rw [hfirst]
        exact hfound planned.id (List.mem_map_of_mem hplan)
  · rw [hdb] at hartifact
    exact (h.artifacts artifact (hinserted.artifactRows ▸ hartifact)).grows hgrows
  · rw [hdb] at hdependency
    rcases List.mem_append.mp hdependency with hold | hnew
    · exact (h.dependencies dependency hold).grows hgrows
    · obtain ⟨planned, hplan, hrow⟩ := List.mem_flatMap.mp hnew
      obtain ⟨dependencyId, hid, rfl⟩ := List.mem_map.mp hrow
      exact ⟨hfound planned.id (List.mem_map_of_mem hplan),
        hfound dependencyId (hplanned.valid.known planned hplan dependencyId hid)⟩

/-! ## Every call -/

theorem sound_of_effect {l : Label} {outcome : Except Failure Reply} (h : Sound db)
    (heffect : Effect sha256 dateParse l db outcome db') : Sound db' := by
  cases heffect with
  | refused e => exact h
  | replayed hreply => exact h
  | planned hreply hcall hplanned => exact h.planned hplanned
  | assigned hreply hcall hassigned =>
    obtain ⟨db₁, hmoved, hrow⟩ := hassigned.moved
    exact (h.moved hmoved fun hrunning => (by cases hrunning)).announced hrow
  | evidenced hreply hcall hevidenced => exact h.evidenced hevidenced
  | started hreply hcall hstarted =>
    obtain ⟨now, db₁, hmoved, hrow⟩ := hstarted.moved
    obtain ⟨-, -, -, hid, -⟩ := mem_of_findRun hstarted.found
    exact (h.moved hmoved fun _ => hid ▸ hstarted.checkedId).announced hrow
  | failed hreply hcall hfailed => exact h.failed hfailed
  | completed hreply hcall hcompleted => exact h.completed hcompleted

/-- **In every reachable database what rows refer to is there.** -/
theorem sound_after (ls : List Label) : Sound (after sha256 dateParse ls) :=
  after_induction sound_empty (fun _ _ _ _ h heffect => sound_of_effect h heffect) ls

end VentureOS.Durable
