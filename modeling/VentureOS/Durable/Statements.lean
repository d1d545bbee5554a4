import VentureOS.ControlPlane.References
import VentureOS.Durable.Service

/-! # What the statements do

One rule for each statement of a transaction: when it commits, and the database it leaves. Recording an
event is one statement too: the event is valid, its key and identifiers are new, and its row is the last of
the audit table (`Announced`). -/

namespace VentureOS.Durable

open ControlPlane Transaction

variable {α : Type} {s s' : Session} {b : α}

/-! ## Identifiers, clock and queries -/

theorem commits_randomUUID_bind {supply : Supply} {f : EntityId → Tx α} :
    Commits (randomUUID supply >>= f) s b s' ↔
      Commits (f (supply.uuid s.drawn)) { s with drawn := s.drawn + 1 } b s' := by
  rw [commits_bind]
  constructor
  · rintro ⟨id, t, hid, h⟩
    rw [randomUUID, commits_get_bind, commits_set_bind, commits_pure] at hid
    obtain ⟨rfl, rfl⟩ := hid
    exact h
  · intro h
    refine ⟨_, _, ?_, h⟩
    rw [randomUUID, commits_get_bind, commits_set_bind, commits_pure]
    exact ⟨rfl, rfl⟩

theorem commits_newDate_bind {supply : Supply} {f : Int → Tx α} :
    Commits (newDate supply >>= f) s b s' ↔
      Commits (f (supply.now s.ticks)) { s with ticks := s.ticks + 1 } b s' := by
  rw [commits_bind]
  constructor
  · rintro ⟨now, t, hnow, h⟩
    rw [newDate, commits_get_bind, commits_set_bind, commits_pure] at hnow
    obtain ⟨rfl, rfl⟩ := hnow
    exact h
  · intro h
    refine ⟨_, _, ?_, h⟩
    rw [newDate, commits_get_bind, commits_set_bind, commits_pure]
    exact ⟨rfl, rfl⟩

theorem commits_read_bind {f : Database → Tx α} :
    Commits (read >>= f) s b s' ↔ Commits (f s.database) s b s' := by
  rw [commits_bind]
  constructor
  · rintro ⟨db, t, hdb, h⟩
    rw [read, commits_get_bind, commits_pure] at hdb
    obtain ⟨rfl, rfl⟩ := hdb
    exact h
  · intro h
    refine ⟨_, _, ?_, h⟩
    rw [read, commits_get_bind, commits_pure]
    exact ⟨rfl, rfl⟩

variable {u : Unit}

@[simp] theorem commits_write {f : Database → Database} :
    Commits (write f) s u s' ↔ s' = { s with database := f s.database } :=
  commits_modify

variable {workspaceId : EntityId}

variable {id : EntityId}

theorem commits_findRunOrThrow_bind {f : AcpRun → Tx α} :
    Commits (findRunOrThrow workspaceId id >>= f) s b s' ↔
      ∃ run, s.database.acpRun.get? (key workspaceId id) = some run ∧ Commits (f run) s b s' := by
  rw [commits_bind]
  unfold findRunOrThrow
  simp only [commits_read_bind]
  cases s.database.acpRun.get? (key workspaceId id) with
  | none => simp
  | some run => simp

/-- Finding a run finds its task. -/
theorem Database.findRun_eq_some {db : Database} {run : AcpRun} {task : AcpTask} :
    db.findRun workspaceId id = some (run, task) ↔ db.acpRun.get? (key workspaceId id) = some run
      ∧ db.acpTask.get? (key run.workspaceId run.taskId) = some task := by
  unfold Database.findRun
  simp only [bind, Option.bind_eq_some_iff, pure, Option.some.injEq, Prod.mk.injEq]
  constructor
  · rintro ⟨run', hrun, task', htask, rfl, rfl⟩
    exact ⟨hrun, htask⟩
  · rintro ⟨hrun, htask⟩
    exact ⟨run, hrun, task, htask, rfl, rfl⟩

theorem Database.findAuditEvent_eq_some {db : Database} {source : EventSource}
    {idempotencyKey : String} {row : AuditEvent}
    (h : db.findAuditEvent workspaceId source idempotencyKey = some row) :
    row ∈ db.auditEvent ∧ row.workspaceReference = workspaceId ∧ row.source = source
      ∧ row.idempotencyKey = idempotencyKey := by
  have hrow := List.find?_some (p := fun row : AuditEvent => decide (row.workspaceReference = workspaceId
    ∧ row.source = source ∧ row.idempotencyKey = idempotencyKey)) h
  exact ⟨List.mem_of_find?_eq_some h, of_decide_eq_true hrow⟩

theorem Database.findAuditEvent_eq_none {db : Database} {source : EventSource}
    {idempotencyKey : String} :
    db.findAuditEvent workspaceId source idempotencyKey = none ↔
      ∀ row ∈ db.auditEvent, row.workspaceReference = workspaceId → row.source = source →
        row.idempotencyKey ≠ idempotencyKey := by
  simp [Database.findAuditEvent]

/-! ## Inserts -/

/-- Every insert is a constraint, then the write. -/
theorem commits_insert {P : Database → Prop} [∀ db, Decidable (P db)] {e : Failure}
    {f : Database → Database} :
    Commits (do let db ← read; throwIf (P db) e; write f) s u s' ↔
      ¬ P s.database ∧ s' = { s with database := f s.database } := by
  rw [commits_read_bind, commits_check_bind]
  simp only [throwIf_eq_ok, commits_write, exists_const]

/-- An identifier or the key of an audit row is taken. -/
def AuditTaken (db : Database) (row : AuditEvent) : Prop :=
  ∃ other ∈ db.auditEvent, other.id = row.id
    ∨ (other.workspaceReference = row.workspaceReference ∧ other.source = row.source
      ∧ (other.sourceEventId = row.sourceEventId ∨ other.idempotencyKey = row.idempotencyKey))

theorem commits_createAuditEvent {row : AuditEvent} :
    Commits (createAuditEvent row) s u s' ↔ ¬ AuditTaken s.database row ∧ s' = { s with database :=
          { s.database with auditEvent := s.database.auditEvent ++ [row] } } :=
  commits_insert

/-! ## Updates -/

theorem commits_storeTask {old new : AcpTask} :
    Commits (storeTask old new) s u s' ↔ taskTransitionGuard old.status new.status = true
      ∧ s' = { s with database := { s.database with acpTask := s.database.acpTask.put new } } := by
  unfold storeTask
  rw [commits_check_bind]
  simp only [throwIf_eq_ok, commits_write, exists_const, Bool.not_eq_false]

/-- The assignment key of the new content of a run is taken by another run. -/
def AssignmentTaken (db : Database) (old new : AcpRun) : Prop :=
  new.assignmentIdempotencyKey ≠ old.assignmentIdempotencyKey
    ∧ ∃ other ∈ db.acpRun.values, other.workspaceId = new.workspaceId ∧ keyOf other ≠ keyOf new
      ∧ new.assignmentIdempotencyKey.isSome = true
      ∧ other.assignmentIdempotencyKey = new.assignmentIdempotencyKey

theorem commits_storeRun {old new : AcpRun} :
    Commits (storeRun old new) s u s' ↔
      runTransitionGuard old.status new.status = true ∧ ¬ AssignmentTaken s.database old new
      ∧ s' = { s with database := { s.database with acpRun := s.database.acpRun.put new } } := by
  unfold storeRun AssignmentTaken
  rw [commits_read_bind, commits_check_bind]
  simp only [commits_check_bind, throwIf_eq_ok, commits_write, exists_const, Bool.not_eq_false]

/-- An update that changes one run. -/
theorem commits_updateRuns {version : Int} {status : DurableRunStatus} {data : AcpRun → AcpRun} :
    Commits (updateRuns workspaceId id version status data) s 1 s' ↔
      ∃ run, s.database.acpRun.get? (key workspaceId id) = some run ∧ run.version = version
        ∧ run.status = status ∧ runTransitionGuard run.status (data run).status = true
        ∧ ¬ AssignmentTaken s.database run (data run)
        ∧ s' = { s with database :=
            { s.database with acpRun := s.database.acpRun.put (data run) } } := by
  unfold updateRuns
  rw [commits_read_bind]
  cases s.database.acpRun.get? (key workspaceId id) with
  | none => simp
  | some run =>
    by_cases hmatch : run.version = version ∧ run.status = status
    · simp only [if_pos hmatch, commits_bind, commits_storeRun, commits_pure, Option.some.injEq,
        exists_eq_left']
      constructor
      · rintro ⟨_, t, ⟨hguard, hfree, rfl⟩, -, rfl⟩
        exact ⟨hmatch.1, hmatch.2, hguard, hfree, rfl⟩
      · rintro ⟨-, -, hguard, hfree, rfl⟩
        exact ⟨(), _, ⟨hguard, hfree, rfl⟩, trivial, rfl⟩
    · simp only [if_neg hmatch, commits_pure, Option.some.injEq, exists_eq_left']
      constructor
      · rintro ⟨hone, -⟩
        exact absurd hone Nat.one_ne_zero
      · rintro ⟨hversion, hstatus, -⟩
        exact absurd ⟨hversion, hstatus⟩ hmatch

/-- An update that changes one task. -/
theorem commits_updateTasks {version : Int} {status : DurableTaskStatus} {data : AcpTask → AcpTask} :
    Commits (updateTasks workspaceId id version status data) s 1 s' ↔
      ∃ task, s.database.acpTask.get? (key workspaceId id) = some task ∧ task.version = version
        ∧ task.status = status ∧ taskTransitionGuard task.status (data task).status = true
        ∧ s' = { s with database :=
            { s.database with acpTask := s.database.acpTask.put (data task) } } := by
  unfold updateTasks
  rw [commits_read_bind]
  cases s.database.acpTask.get? (key workspaceId id) with
  | none => simp
  | some task =>
    by_cases hmatch : task.version = version ∧ task.status = status
    · simp only [if_pos hmatch, commits_bind, commits_storeTask, commits_pure, Option.some.injEq,
        exists_eq_left']
      constructor
      · rintro ⟨_, t, ⟨hguard, rfl⟩, -, rfl⟩
        exact ⟨hmatch.1, hmatch.2, hguard, rfl⟩
      · rintro ⟨-, -, hguard, rfl⟩
        exact ⟨(), _, ⟨hguard, rfl⟩, trivial, rfl⟩
    · simp only [if_neg hmatch, commits_pure, Option.some.injEq, exists_eq_left']
      constructor
      · rintro ⟨hone, -⟩
        exact absurd hone Nat.one_ne_zero
      · rintro ⟨hversion, hstatus, -⟩
        exact absurd ⟨hversion, hstatus⟩ hmatch

/-- An update that must change one row, in front of a transaction. -/
theorem commits_one_bind {x : Tx Nat} {e : Failure} {f : Tx α} :
    Commits (do let changed ← x
                throwIf (changed ≠ 1) e
                f) s b s' ↔ ∃ t, Commits x s 1 t ∧ Commits f t b s' := by
  rw [commits_bind]
  constructor
  · rintro ⟨changed, t, hx, h⟩
    rw [commits_check_bind] at h
    obtain ⟨_, hone, hf⟩ := h
    rw [throwIf_eq_ok, not_not] at hone
    exact ⟨t, hone ▸ hx, hf⟩
  · rintro ⟨t, hx, hf⟩
    refine ⟨1, t, hx, ?_⟩
    rw [commits_check_bind]
    exact ⟨(), by simp, hf⟩

theorem commits_updateTask {data : AcpTask → AcpTask} : Commits (updateTask workspaceId id data) s u s' ↔
      ∃ task, s.database.acpTask.get? (key workspaceId id) = some task
        ∧ taskTransitionGuard task.status (data task).status = true
        ∧ s' = { s with database :=
            { s.database with acpTask := s.database.acpTask.put (data task) } } := by
  unfold updateTask
  rw [commits_read_bind]
  cases s.database.acpTask.get? (key workspaceId id) with
  | none => simp
  | some task => simp [commits_storeTask]

/-! ## Events -/

section Events

variable {dateParse : String → Option Int} {supply : Supply} {capability : OperationalEventCapability}
  {context : WorkspaceContext} {source : EventSource} {actorKind : OperationalActorKind}
  {notice : Notice}

/-- The audit row of a notice. -/
def Notice.row (notice : Notice) (context : WorkspaceContext) (source : EventSource)
    (actorKind : OperationalActorKind) (id sourceEventId : EntityId) (occurredAt : String) :
    AuditEvent where
  id := id
  workspaceReference := context.workspaceId
  actorId := if actorKind = .HUMAN then some context.principalId else none
  actorReference := context.principalId
  source := source
  sourceEventId := sourceEventId
  idempotencyKey := notice.idempotencyKey
  action := notice.type
  entityType := notice.subjectType
  entityId := notice.subjectId
  after := notice.facts
  correlationId := some notice.correlationId
  actorKind := actorKind
  occurredAt := occurredAt

/-- The clock readings taken when a notice has been dated. -/
def ticksAfter (now : Option Int) (ticks : Nat) : Nat := if now.isSome then ticks else ticks + 1

/-- **Recording an event** draws two identifiers, the first for the event and the second for its row. -/
theorem commits_announce {now : Option Int} :
    Commits (announce dateParse supply capability context source actorKind now notice) s u s' ↔
      ∃ occurredAt, isoTime (now.getD (supply.now s.ticks)) = .ok occurredAt
        ∧ ValidEvent dateParse capability context
            (notice.event context source actorKind (supply.uuid s.drawn) occurredAt)
        ∧ (∃ stamp, isoTime (supply.now (ticksAfter now s.ticks)) = .ok stamp)
        ∧ ¬ AuditTaken s.database (notice.row context source actorKind (supply.uuid (s.drawn + 1))
            (supply.uuid s.drawn) occurredAt)
        ∧ s' = ⟨{ s.database with auditEvent := s.database.auditEvent
              ++ [notice.row context source actorKind (supply.uuid (s.drawn + 1))
                (supply.uuid s.drawn) occurredAt] }, s.drawn + 2, ticksAfter now s.ticks + 1⟩ := by
  -- The relational actor is the principal of a human, which is what the writer asks for.
  have hactor : ∀ id occurredAt, (if actorKind = .HUMAN then some context.principalId else none).any
      (fun actor => (notice.event context source actorKind id occurredAt).actorKind ≠ .HUMAN
        || actor ≠ (notice.event context source actorKind id occurredAt).actorId) = false := by
    intro id occurredAt
    by_cases h : actorKind = .HUMAN
    · simp [h, Notice.event]
    · simp [h]
  have record : ∀ (t : Session) (id : EntityId) (occurredAt : String),
      Commits (recordOperationalEvent dateParse supply capability context
        (notice.event context source actorKind id occurredAt)
        (if actorKind = .HUMAN then some context.principalId else none)) t u s' ↔
      ValidEvent dateParse capability context (notice.event context source actorKind id occurredAt)
        ∧ (∃ stamp, isoTime (supply.now t.ticks) = .ok stamp)
        ∧ ¬ AuditTaken t.database
            (notice.row context source actorKind (supply.uuid t.drawn) id occurredAt)
        ∧ s' = ⟨{ t.database with auditEvent := t.database.auditEvent
              ++ [notice.row context source actorKind (supply.uuid t.drawn) id occurredAt] },
            t.drawn + 1, t.ticks + 1⟩ := by
    intro t id occurredAt
    unfold recordOperationalEvent
    simp only [commits_check_bind, validateOperationalEvent_eq_ok, throwIf_eq_ok, hactor,
      commits_randomUUID_bind, commits_newDate_bind, commits_createAuditEvent, exists_const,
      exists_and_right, Bool.false_eq_true, not_false_eq_true, true_and]
    exact Iff.rfl
  unfold announce timeOr
  cases now with
  | some time =>
    simp only [commits_randomUUID_bind, pure_bind, commits_check_bind, record]
    exact Iff.rfl
  | none =>
    simp only [commits_randomUUID_bind, commits_newDate_bind, commits_check_bind, record]
    exact Iff.rfl

/-- A notice was recorded: its event is valid and its key is new, and it is the one row added. -/
structure Announced (dateParse : String → Option Int) (capability : OperationalEventCapability)
    (context : WorkspaceContext) (source : EventSource) (notice : Notice) (row : AuditEvent)
    (db db' : Database) : Prop where
  row_eq : ∃ actorKind id sourceEventId occurredAt,
    row = notice.row context source actorKind id sourceEventId occurredAt
      ∧ ValidEvent dateParse capability context
        (notice.event context source actorKind sourceEventId occurredAt)
  fresh : db.findAuditEvent context.workspaceId source notice.idempotencyKey = none
  database : db' = { db with auditEvent := db.auditEvent ++ [row] }

theorem announced_of_commits {now : Option Int}
    (h : Commits (announce dateParse supply capability context source actorKind now notice) s u s') :
    ∃ row, Announced dateParse capability context source notice row s.database s'.database := by
  obtain ⟨occurredAt, -, hvalid, -, hfree, rfl⟩ := commits_announce.mp h
  refine ⟨_, ⟨actorKind, _, _, occurredAt, rfl, hvalid⟩, ?_, rfl⟩
  rw [Database.findAuditEvent_eq_none]
  intro row hrow hws hsource hkey
  exact hfree ⟨row, hrow, Or.inr ⟨hws, hsource, Or.inr hkey⟩⟩

end Events

end VentureOS.Durable
