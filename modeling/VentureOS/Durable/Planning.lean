import VentureOS.Durable.Statements

/-! # Accepted plans

What `validateDurableObjectivePlan` has checked of a plan (`ValidPlan`): its tasks have identifiers of their
own, and every dependency is on a task of the plan, since the search for cycles visits whatever a visited
task depends on (`Closed`). Then what `createPlan` inserts (`Planned`): the tasks of the plan, one run for
each, the dependencies as they are listed, and events of the planner only. -/

namespace VentureOS.Durable

open ControlPlane Transaction

/-! ## The search for cycles -/

section Acyclic

variable {tasks : List DurableTaskPlanInput}

/-- What is found under an identifier is a task of the plan with this identifier. -/
theorem taskById_eq_some {id : EntityId} {task : DurableTaskPlanInput}
    (h : taskById tasks id = some task) : task ∈ tasks ∧ task.id = id := by
  have hid := List.find?_some (p := fun task : DurableTaskPlanInput => task.id == id) h
  exact ⟨List.mem_reverse.mp (List.mem_of_find?_eq_some h), beq_iff_eq.mp hid⟩

/-- Every identifier visited is that of a task, and so is everything this task depends on. -/
def Closed (tasks : List DurableTaskPlanInput) (visited : List EntityId) : Prop :=
  ∀ id ∈ visited, ∃ task, taskById tasks id = some task
    ∧ ∀ dependencyId ∈ task.dependencyIds, (taskById tasks dependencyId).isSome

/-- What a part of the search keeps and adds. -/
structure Visits (tasks : List DurableTaskPlanInput) (ids visited visited' : List EntityId) : Prop where
  closed : Closed tasks visited → Closed tasks visited'
  subset : visited ⊆ visited'
  visits : ids ⊆ visited'

/-- The loop over the dependencies of a task visits them all. -/
theorem visitAll_spec {visit : List EntityId → EntityId → Except Failure (List EntityId)}
    {id : EntityId} (hvisit : ∀ {visited visited' : List EntityId} {dependencyId : EntityId},
      visit visited dependencyId = .ok visited' → Visits tasks [dependencyId] visited visited')
    {dependencyIds visited visited' : List EntityId}
    (h : visitAll visit id visited dependencyIds = .ok visited') :
    Visits tasks dependencyIds visited visited' := by
  induction dependencyIds generalizing visited with
  | nil =>
    obtain rfl := Except.ok.inj h
    exact ⟨fun hclosed => hclosed, fun _ hx => hx, List.nil_subset _⟩
  | cons dependencyId rest ih =>
    rw [visitAll, check_bind_eq_ok, except_bind_eq_ok] at h
    obtain ⟨-, between, hfirst, hrest⟩ := h
    have first := hvisit hfirst
    have others := ih hrest
    refine ⟨fun hclosed => others.closed (first.closed hclosed), fun _ hx => others.subset (first.subset hx), ?_⟩
    exact List.cons_subset.mpr ⟨others.subset (first.visits List.mem_cons_self), others.visits⟩

/-- A visit keeps the visited identifiers closed. -/
theorem visit_spec {fuel : Nat} : ∀ {visiting visited visited' : List EntityId} {id : EntityId},
    visit tasks fuel visiting visited id = .ok visited' → Visits tasks [id] visited visited' := by
  induction fuel with
  | zero => exact fun h => (by cases h)
  | succ fuel ih =>
    intro visiting visited visited' id h
    rw [visit] at h
    by_cases hvisiting : id ∈ visiting
    · rw [if_pos hvisiting] at h
      cases h
    · rw [if_neg hvisiting] at h
      by_cases hvisited : id ∈ visited
      · rw [if_pos hvisited, Except.ok.injEq] at h
        subst h
        exact ⟨fun hclosed => hclosed, fun _ hx => hx, List.cons_subset.mpr ⟨hvisited, List.nil_subset _⟩⟩
      · rw [if_neg hvisited] at h
        cases hfound : taskById tasks id with
        | none =>
          rw [hfound] at h
          cases h
        | some task =>
          simp only [hfound, except_bind_eq_ok, except_pure_eq_ok] at h
          obtain ⟨between, hall, rfl⟩ := h
          have below := visitAll_spec ih hall
          refine ⟨fun hclosed => ?_, fun _ hx => List.mem_cons_of_mem _ (below.subset hx),
            List.cons_subset.mpr ⟨List.mem_cons_self, List.nil_subset _⟩⟩
          refine List.forall_mem_cons.mpr ⟨⟨task, hfound, fun dependencyId hd => ?_⟩, below.closed hclosed⟩
          -- A dependency has been visited, so it is the identifier of a task.
          obtain ⟨other, hother, -⟩ := below.closed hclosed dependencyId (below.visits hd)
          rw [hother, Option.isSome_some]

/-- The search over all tasks leaves them all visited. -/
theorem visitTasks_spec {rest : List DurableTaskPlanInput} {visited : List EntityId}
    (hclosed : Closed tasks visited) (h : visitTasks tasks visited rest = .ok ()) :
    Closed tasks (rest.map DurableTaskPlanInput.id) := by
  induction rest generalizing visited with
  | nil => exact fun _ h => absurd h List.not_mem_nil
  | cons task rest ih =>
    rw [visitTasks, except_bind_eq_ok] at h
    obtain ⟨visited', hvisit, hrest⟩ := h
    have first := visit_spec hvisit
    have hclosed' := first.closed hclosed
    exact List.forall_mem_cons.mpr
      ⟨hclosed' task.id (first.visits List.mem_cons_self), ih hclosed' hrest⟩

end Acyclic

/-! ## Valid plans -/

/-- What has been checked of a plan. -/
structure ValidPlan (input : DurableObjectivePlanInput) : Prop where
  distinct : (input.tasks.map DurableTaskPlanInput.id).Nodup
  known : ∀ task ∈ input.tasks, ∀ dependencyId ∈ task.dependencyIds,
    dependencyId ∈ input.tasks.map DurableTaskPlanInput.id
  attempts : ∀ task ∈ input.tasks, 1 ≤ task.retryPolicy.maximumAttempts

theorem one_le_of_validateTask {task : DurableTaskPlanInput} {projectIds : List EntityId}
    (h : validateTask task projectIds = .ok ()) : 1 ≤ task.retryPolicy.maximumAttempts := by
  simp only [validateTask, check_bind_eq_ok, checkRetryPolicy, safeInteger, throwIf_eq_ok, not_or, not_lt] at h
  obtain ⟨-, -, -, -, -, -, -, -, -, -, -, -, -, -, ⟨⟨-, hattempts⟩, -⟩, -⟩ := h
  exact hattempts

/-- The loop over the tasks of a plan. -/
theorem checkTasks_spec {input : DurableObjectivePlanInput} {projectIds seen : List EntityId}
    {minorUnits computeUnits : Int} {tasks : List DurableTaskPlanInput}
    (h : checkTasks input projectIds seen minorUnits computeUnits tasks = .ok ()) :
    (∀ task ∈ tasks, validateTask task projectIds = .ok () ∧ task.id ∉ seen)
      ∧ (tasks.map DurableTaskPlanInput.id).Nodup := by
  induction tasks generalizing seen minorUnits computeUnits with
  | nil => exact ⟨fun _ h => absurd h List.not_mem_nil, List.nodup_nil⟩
  | cons task rest ih =>
    simp only [checkTasks, check_bind_eq_ok, throwIf_eq_ok] at h
    obtain ⟨hvalid, hnew, -, -, -, hrest⟩ := h
    obtain ⟨hall, hdistinct⟩ := ih hrest
    refine ⟨List.forall_mem_cons.mpr ⟨⟨hvalid, hnew⟩, fun other hother => ?_⟩, ?_⟩
    · exact ⟨(hall other hother).1, fun hseen => (hall other hother).2 (List.mem_cons_of_mem _ hseen)⟩
    · rw [List.map_cons, List.nodup_cons]
      refine ⟨fun hmem => ?_, hdistinct⟩
      obtain ⟨other, hother, hid⟩ := List.mem_map.mp hmem
      exact (hall other hother).2 (hid ▸ List.mem_cons_self)

/-- **Accepted plans** have tasks with identifiers of their own that depend on each other only. -/
theorem validPlan_of_validate {input : DurableObjectivePlanInput}
    (h : validateDurableObjectivePlan input = .ok ()) : ValidPlan input := by
  simp only [validateDurableObjectivePlan, check_bind_eq_ok] at h
  obtain ⟨-, -, -, -, -, -, -, -, -, -, -, -, -, -, htasks, hacyclic⟩ := h
  obtain ⟨hall, hdistinct⟩ := checkTasks_spec htasks
  refine ⟨hdistinct, fun task htask dependencyId hd => ?_,
    fun task htask => one_le_of_validateTask (hall task htask).1⟩
  have hnone : Closed input.tasks [] := fun _ h => absurd h List.not_mem_nil
  obtain ⟨found, hfound, hknown⟩ :=
    visitTasks_spec hnone hacyclic task.id (List.mem_map_of_mem htask)
  obtain ⟨hmem, hid⟩ := taskById_eq_some hfound
  -- Identifiers are distinct, so the task found is the task asked for.
  obtain rfl := List.inj_on_of_nodup_map hdistinct hmem htask hid
  obtain ⟨other, hother⟩ := Option.isSome_iff_exists.mp (hknown dependencyId hd)
  obtain ⟨hmem', rfl⟩ := taskById_eq_some hother
  exact List.mem_map_of_mem hmem'

/-! ## Inserting a plan -/

section Insertion

variable {sha256 : String → String} {dateParse : String → Option Int} {supply : Supply}
  {capability : OperationalEventCapability} {context : WorkspaceContext}
  {input : DurableObjectivePlanInput} {s s' : Session} {db db' db'' : Database}
  {projects : List DurableProjectInput} {tasks : List DurableTaskPlanInput} {runs : List AcpRun}

/-- A run is the first of a task of the plan. -/
def FirstRun (sha256 : String → String) (input : DurableObjectivePlanInput)
    (task : DurableTaskPlanInput) (run : AcpRun) : Prop :=
  run = newRun sha256 input task run.id ∧ SafeReference run.id

/-- Every first run is that of a task. -/
theorem exists_of_firstRuns {run : AcpRun} (h : List.Forall₂ (FirstRun sha256 input) tasks runs)
    (hrun : run ∈ runs) : ∃ task ∈ tasks, FirstRun sha256 input task run := by
  induction h with
  | nil => cases hrun
  | @cons task first tasks runs hfirst _ ih =>
    rcases List.mem_cons.mp hrun with rfl | hrun
    · exact ⟨task, List.mem_cons_self, hfirst⟩
    · obtain ⟨other, hother, hfirst'⟩ := ih hrun
      exact ⟨other, List.mem_cons_of_mem _ hother, hfirst'⟩

/-- A task has one first run. -/
theorem filter_firstRuns {task : DurableTaskPlanInput}
    (h : List.Forall₂ (FirstRun sha256 input) tasks runs)
    (hdistinct : (tasks.map DurableTaskPlanInput.id).Nodup) (htask : task ∈ tasks) :
    ∃ run, FirstRun sha256 input task run
      ∧ (runs.filter fun run => run.workspaceId = input.workspaceId ∧ run.taskId = task.id) = [run] := by
  have ofTask : ∀ {task : DurableTaskPlanInput} {run : AcpRun}, FirstRun sha256 input task run →
      run.workspaceId = input.workspaceId ∧ run.taskId = task.id := by
    intro task run hfirst
    rw [hfirst.1]
    exact ⟨rfl, rfl⟩
  induction h with
  | nil => cases htask
  | @cons first run tasks runs hfirst hrest ih =>
    rw [List.map_cons, List.nodup_cons] at hdistinct
    have hothers : ∀ other ∈ runs, other.taskId ∈ tasks.map DurableTaskPlanInput.id := by
      intro other hother
      obtain ⟨planned, hplanned, hfirst'⟩ := exists_of_firstRuns hrest hother
      rw [(ofTask hfirst').2]
      exact List.mem_map_of_mem hplanned
    rcases List.mem_cons.mp htask with rfl | htask
    · have hnone : (runs.filter fun run =>
          run.workspaceId = input.workspaceId ∧ run.taskId = task.id) = [] := by
        refine List.filter_eq_nil_iff.mpr fun other hother hsame => hdistinct.1 ?_
        rw [← (of_decide_eq_true hsame).2]
        exact hothers other hother
      refine ⟨run, hfirst, ?_⟩
      rw [List.filter_cons_of_pos, hnone]
      exact decide_eq_true (ofTask hfirst)
    · obtain ⟨found, hfound, hfilter⟩ := ih hdistinct.2 htask
      refine ⟨found, hfound, ?_⟩
      rw [List.filter_cons_of_neg, hfilter]
      intro hsame
      refine hdistinct.1 ?_
      rw [← (ofTask hfirst).2, (of_decide_eq_true hsame).2]
      exact List.mem_map_of_mem htask

theorem initialRunStatus_cases (task : DurableTaskPlanInput) :
    initialRunStatus task = .AWAITING_APPROVAL ∨ initialRunStatus task = .PREPARED := by
  unfold initialRunStatus
  split
  · exact Or.inl rfl
  · exact Or.inr rfl

/-- The identifier of a task passes the checks of the events about it. -/
def TaskReference (input : DurableObjectivePlanInput) (task : DurableTaskPlanInput) : Prop :=
  SafeReference task.id ∧ SafeReference (input.idempotencyKey ++ ":run-event:" ++ task.id)

/-- The objective, the projects and the tasks with their first runs are inserted. -/
structure Inserting (sha256 : String → String) (input : DurableObjectivePlanInput)
    (projects : List DurableProjectInput) (tasks : List DurableTaskPlanInput) (runs : List AcpRun)
    (db db' : Database) : Prop where
  objectiveRows : ∃ objective, objective.id = input.objective.id ∧ SafeReference objective.id
    ∧ Store.Filed db.acpObjective [objective] db'.acpObjective
  projectRows : Store.Filed db.acpProject (projects.map fun project =>
    ⟨project.id, input.workspaceId, input.objective.id, project.title⟩) db'.acpProject
  taskRows : Store.Filed db.acpTask (tasks.map (newTask sha256 input)) db'.acpTask
  runRows : Store.Filed db.acpRun runs db'.acpRun
  firstRuns : List.Forall₂ (FirstRun sha256 input) tasks runs
  references : ∀ task ∈ tasks, TaskReference input task
  dependencyRows : db'.acpTaskDependency = db.acpTaskDependency
  artifactRows : db'.acpArtifact = db.acpArtifact
  eventRows : ∃ rows, db'.auditEvent = db.auditEvent ++ rows ∧ ∀ row ∈ rows, row.source = .AI_COO

/-- An event of the planner changes nothing else. -/
theorem Inserting.announce {notice : Notice} {row : AuditEvent}
    (h : Inserting sha256 input projects tasks runs db db')
    (hrow : Announced dateParse capability context .AI_COO notice row db' db'') :
    Inserting sha256 input projects tasks runs db db'' := by
  obtain ⟨rows, hrows, hall⟩ := h.eventRows
  obtain ⟨actorKind, id, sourceEventId, occurredAt, heq, -⟩ := hrow.row_eq
  rw [hrow.database]
  refine ⟨h.objectiveRows, h.projectRows, h.taskRows, h.runRows, h.firstRuns, h.references,
    h.dependencyRows, h.artifactRows, rows ++ [row], ?_, ?_⟩
  · rw [← List.append_assoc, ← hrows]
  · intro r hr
    rcases List.mem_append.mp hr with hr | hr
    · exact hall r hr
    · rw [List.mem_singleton.mp hr, heq]
      rfl

/-- What an event is about is a reference, and so are its key and what it belongs to. -/
theorem Announced.references {source : EventSource} {notice : Notice} {row : AuditEvent}
    (h : Announced dateParse capability context source notice row db db') :
    SafeReference notice.subjectId ∧ SafeReference notice.idempotencyKey
      ∧ SafeReference notice.correlationId := by
  obtain ⟨_, _, _, _, -, hvalid⟩ := h.row_eq
  exact ⟨hvalid.subjectId, hvalid.idempotencyKey, hvalid.correlationId _ rfl⟩

/-- The objective is inserted first. -/
theorem inserting_objective {policyHash : String} {actorKind : OperationalActorKind} {t : Session}
    {u u' : Unit} (hcreate : Commits (createObjective (newObjective input policyHash)) s u t)
    (hannounce : Commits (announce dateParse supply capability context .AI_COO actorKind none
      (objectiveCreated input)) t u' s') :
    Inserting sha256 input [] [] [] s.database s'.database := by
  obtain ⟨hfree, rfl⟩ := commits_insert.mp hcreate
  obtain ⟨row, hrow⟩ := announced_of_commits hannounce
  rw [not_or, Bool.not_eq_true, Store.has_eq_false] at hfree
  have created : Inserting sha256 input [] [] [] s.database { s.database with
      acpObjective := s.database.acpObjective.put (newObjective input policyHash) } :=
    ⟨⟨_, rfl, hrow.references.1, (Store.Filed.nil _).concat hfree.1⟩, Store.Filed.nil _,
      Store.Filed.nil _, Store.Filed.nil _, List.Forall₂.nil, fun _ h => absurd h List.not_mem_nil,
      rfl, rfl, [], (List.append_nil _).symm, fun _ h => absurd h List.not_mem_nil⟩
  exact created.announce hrow

/-- One project more. -/
theorem Inserting.project {actorKind : OperationalActorKind} {project : DurableProjectInput} {u : Unit}
    (h : Inserting sha256 input projects tasks runs db s.database)
    (hstep : Commits (insertProject dateParse supply capability context input actorKind project)
      s u s') : Inserting sha256 input (projects ++ [project]) tasks runs db s'.database := by
  unfold insertProject at hstep
  rw [commits_bind] at hstep
  obtain ⟨_, t, hcreate, hannounce⟩ := hstep
  obtain ⟨hfree, rfl⟩ := commits_insert.mp hcreate
  obtain ⟨row, hrow⟩ := announced_of_commits hannounce
  rw [Bool.not_eq_true, Store.has_eq_false] at hfree
  have created : Inserting sha256 input (projects ++ [project]) tasks runs db
      { s.database with
        acpProject := s.database.acpProject.put
          ⟨project.id, input.workspaceId, input.objective.id, project.title⟩ } := by
    refine { h with projectRows := ?_ }
    rw [List.map_append]
    exact h.projectRows.concat hfree
  exact created.announce hrow

/-- One task more, with its first run. -/
theorem Inserting.task {actorKind : OperationalActorKind} {task : DurableTaskPlanInput} {u : Unit}
    (h : Inserting sha256 input projects tasks runs db s.database)
    (hstep : Commits (insertTask sha256 dateParse supply capability context input actorKind task) s u s') :
    ∃ run, Inserting sha256 input projects (tasks ++ [task]) (runs ++ [run]) db s'.database := by
  unfold insertTask at hstep
  rw [commits_randomUUID_bind, commits_bind] at hstep
  obtain ⟨_, t₁, htask, hstep⟩ := hstep
  rw [commits_bind] at hstep
  obtain ⟨_, t₂, hrun, hstep⟩ := hstep
  rw [commits_bind] at hstep
  obtain ⟨_, t₃, hfirst, hsecond⟩ := hstep
  obtain ⟨hfree, rfl⟩ := commits_insert.mp htask
  obtain ⟨hfree', rfl⟩ := commits_insert.mp hrun
  obtain ⟨row, hrow⟩ := announced_of_commits hfirst
  obtain ⟨row', hrow'⟩ := announced_of_commits hsecond
  rw [Bool.not_eq_true, Store.has_eq_false] at hfree
  rw [not_or, Bool.not_eq_true, Store.has_eq_false] at hfree'
  have hreference : TaskReference input task := ⟨hrow.references.1, hrow'.references.2.1⟩
  have created : Inserting sha256 input projects (tasks ++ [task])
      (runs ++ [newRun sha256 input task (supply.uuid s.drawn)]) db
      { s.database with
        acpTask := s.database.acpTask.put (newTask sha256 input task)
        acpRun := s.database.acpRun.put (newRun sha256 input task (supply.uuid s.drawn)) } := by
    refine { h with
      taskRows := ?_
      runRows := h.runRows.concat hfree'.1
      firstRuns := ?_
      references := ?_ }
    · rw [List.map_append]
      exact h.taskRows.concat hfree
    · exact List.rel_append h.firstRuns (.cons ⟨rfl, hrow'.references.1⟩ .nil)
    · intro other hother
      rcases List.mem_append.mp hother with hother | hother
      · exact h.references other hother
      · exact List.mem_singleton.mp hother ▸ hreference
  exact ⟨_, (created.announce hrow).announce hrow'⟩

/-- `createPlan` inserted the plan. -/
structure Planned (sha256 : String → String) (context : WorkspaceContext)
    (input : DurableObjectivePlanInput) (db db' : Database) : Prop where
  workspace : input.workspaceId = context.workspaceId
  valid : ValidPlan input
  inserted : ∃ runs db₁, Inserting sha256 input input.projects input.tasks runs db db₁
    ∧ db' = { db₁ with acpTaskDependency := db.acpTaskDependency ++ newDependencies input }

theorem insertPlan_spec {actorKind : OperationalActorKind} {policyHash : String} {reply : Reply}
    (h : Commits (insertPlan sha256 dateParse supply capability context input actorKind policyHash) s reply s') :
    reply.replayed = false ∧ ∃ runs db₁,
      Inserting sha256 input input.projects input.tasks runs s.database db₁
      ∧ s'.database
        = { db₁ with acpTaskDependency := s.database.acpTaskDependency ++ newDependencies input } := by
  unfold insertPlan at h
  rw [commits_bind] at h
  obtain ⟨_, t₁, hcreate, h⟩ := h
  rw [commits_bind] at h
  obtain ⟨_, t₂, hannounce, h⟩ := h
  rw [commits_bind] at h
  obtain ⟨_, t₃, hprojects, h⟩ := h
  rw [commits_bind] at h
  obtain ⟨_, t₄, htasks, h⟩ := h
  rw [commits_bind] at h
  obtain ⟨_, t₅, hdependencies, h⟩ := h
  rw [commits_read_bind] at h
  obtain ⟨rfl, rfl⟩ := commits_pure.mp h
  have start : Inserting sha256 input [] [] [] s.database t₂.database :=
    inserting_objective hcreate hannounce
  have projects := hprojects.loop
    (I := fun done t => Inserting sha256 input done [] [] s.database t.database) start
    fun done project rest hsplit t t' u hdone hstep => hdone.project hstep
  have tasks := htasks.loop
    (I := fun done t => ∃ runs, Inserting sha256 input input.projects done runs s.database t.database)
    ⟨[], projects⟩ fun done task rest hsplit t t' u hdone hstep => by
      obtain ⟨runs, hdone⟩ := hdone
      obtain ⟨run, hnext⟩ := hdone.task hstep
      exact ⟨runs ++ [run], hnext⟩
  obtain ⟨runs, tasks⟩ := tasks
  have dependencies := hdependencies.loop
    (I := fun done t => t.database
      = { t₄.database with acpTaskDependency := t₄.database.acpTaskDependency ++ done })
    (by rw [List.append_nil]) fun done dependency rest hsplit t t' u hdone hstep => by
      obtain ⟨-, rfl⟩ := commits_insert.mp hstep
      rw [hdone, List.append_assoc]
  rw [tasks.dependencyRows] at dependencies
  exact ⟨rfl, runs, t₄.database, tasks, dependencies⟩

theorem createPlan_spec {reply : Reply}
    (h : Commits (createPlan sha256 dateParse supply capability context input) s reply s') :
    (reply.replayed = true ∧ s' = s)
    ∨ (reply.replayed = false ∧ Planned sha256 context input s.database s'.database) := by
  unfold createPlan at h
  simp only [commits_check_bind, commits_read_bind] at h
  obtain ⟨_, hvalid, _, hworkspace, actorKind, -, policyHash, -, h⟩ := h
  rw [assertWorkspace, throwIf_eq_ok, not_not] at hworkspace
  split at h
  · simp only [commits_check_bind, commits_pure] at h
    obtain ⟨_, -, rfl, rfl⟩ := h
    exact Or.inl ⟨rfl, rfl⟩
  · obtain ⟨hreply, hinserted⟩ := insertPlan_spec (commits_tryCatch.mp h)
    exact Or.inr ⟨hreply, hworkspace.symm, validPlan_of_validate hvalid, hinserted⟩

end Insertion

end VentureOS.Durable
