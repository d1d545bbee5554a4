import VentureOS.Durable.Planning
import VentureOS.Durable.Effects

/-! # The steps of the service

`Effect` says once what a call does to the database: it is refused, or answers a replay, and changes nothing,
or it does the one thing of its operation. `after_induction` is the invariant rule of the service: what holds
of the empty database and is kept by every effect holds after every list of calls. -/

namespace VentureOS.Durable

open ControlPlane Transaction

variable {sha256 : String → String} {dateParse : String → Option Int}

/-- What a call answers and does to the database. -/
inductive Effect (sha256 : String → String) (dateParse : String → Option Int) (l : Label)
    (db : Database) : Except Failure Reply → Database → Prop
  /-- The call threw. -/
  | refused (e : Failure) : Effect sha256 dateParse l db (.error e) db
  /-- The call answered what an earlier one did. -/
  | replayed {reply : Reply} (hreply : reply.replayed = true) :
      Effect sha256 dateParse l db (.ok reply) db
  /-- `createPlan` inserted a plan. -/
  | planned {reply : Reply} {db' : Database} {input : DurableObjectivePlanInput}
      (hreply : reply.replayed = false) (hcall : l.call = .createPlan input)
      (h : Planned sha256 l.context input db db') : Effect sha256 dateParse l db (.ok reply) db'
  /-- `reserveAssignment` assigned a run. -/
  | assigned {reply : Reply} {db' : Database} {evidence : TrustedAssignmentEvidence}
      {expectedVersion : Int} {idempotencyKey : String} {verified : Except Failure Bool} {run : AcpRun}
      {task : AcpTask} {row : AuditEvent} (hreply : reply.replayed = false)
      (hcall : l.call = .reserveAssignment evidence expectedVersion idempotencyKey verified)
      (h : Assigned dateParse l.capability l.context evidence idempotencyKey db db' run task row) :
      Effect sha256 dateParse l db (.ok reply) db'
  /-- `recordArtifact` recorded an artifact. -/
  | evidenced {reply : Reply} {db' : Database} {evidence : TrustedArtifactEvidence}
      {idempotencyKey : String} {verified : Except Failure Bool} {run : AcpRun} {task : AcpTask}
      {row : AuditEvent} (hreply : reply.replayed = false)
      (hcall : l.call = .recordArtifact evidence idempotencyKey verified)
      (h : Evidenced dateParse l.capability l.context evidence idempotencyKey db db' run task row) :
      Effect sha256 dateParse l db (.ok reply) db'
  /-- `startRun` started a run. -/
  | started {reply : Reply} {db' : Database} {runId : EntityId} {expectedVersion : Int}
      {idempotencyKey : String} {run : AcpRun} {task : AcpTask} {row : AuditEvent}
      (hreply : reply.replayed = false) (hcall : l.call = .startRun runId expectedVersion idempotencyKey)
      (h : Started dateParse l.capability l.context runId idempotencyKey db db' run task row) :
      Effect sha256 dateParse l db (.ok reply) db'
  /-- `failRun` failed a run. -/
  | failed {reply : Reply} {db' : Database} {runId : EntityId} {expectedVersion : Int}
      {failureCode idempotencyKey : String} {run : AcpRun} {task : AcpTask} {row row' : AuditEvent}
      (hreply : reply.replayed = false)
      (hcall : l.call = .failRun runId expectedVersion failureCode idempotencyKey)
      (h : Failed sha256 dateParse l.capability l.context runId failureCode idempotencyKey db db' run
        task row row') : Effect sha256 dateParse l db (.ok reply) db'
  /-- `completeRun` completed a run. -/
  | completed {reply : Reply} {db' : Database} {runId : EntityId} {expectedVersion : Int}
      {idempotencyKey : String} {run : AcpRun} {task : AcpTask} {row row' : AuditEvent}
      (hreply : reply.replayed = false)
      (hcall : l.call = .completeRun runId expectedVersion idempotencyKey)
      (h : Completed dateParse l.capability l.context runId idempotencyKey db db' run task row row') :
      Effect sha256 dateParse l db (.ok reply) db'

/-- A call that was answered is a committed transaction. -/
theorem commits_of_step {l : Label} {db : Database} {reply : Reply}
    (h : (step sha256 dateParse l db).1 = .ok reply) :
    ∃ s', Commits (perform sha256 dateParse l) ⟨db, 0, 0⟩ reply s'
      ∧ (step sha256 dateParse l db).2 = s'.database :=
  ⟨_, commits_of_commit h, rfl⟩

/-- A call that threw changed nothing. -/
theorem step_of_error {l : Label} {db : Database} {e : Failure}
    (h : (step sha256 dateParse l db).1 = .error e) : (step sha256 dateParse l db).2 = db := by
  have hstate : ((perform sha256 dateParse l).commit ⟨db, 0, 0⟩).2 = ⟨db, 0, 0⟩ := commit_of_error h
  show ((perform sha256 dateParse l).commit ⟨db, 0, 0⟩).2.database = db
  rw [hstate]

/-- **Every call** has one of the effects. -/
theorem effect_of_step (l : Label) (db : Database) :
    Effect sha256 dateParse l db (step sha256 dateParse l db).1 (step sha256 dateParse l db).2 := by
  cases houtcome : (step sha256 dateParse l db).1 with
  | error e =>
    rw [step_of_error houtcome]
    exact .refused e
  | ok reply =>
    obtain ⟨s', h, hdb⟩ := commits_of_step houtcome
    rw [hdb]
    unfold perform at h
    cases hcall : l.call with
    | createPlan input =>
      rw [hcall] at h
      rcases createPlan_spec h with ⟨hreply, rfl⟩ | ⟨hreply, hplanned⟩
      · exact .replayed hreply
      · exact .planned hreply hcall hplanned
    | reserveAssignment evidence expectedVersion idempotencyKey verified =>
      rw [hcall] at h
      rcases reserveAssignment_spec h with ⟨hreply, rfl⟩ | ⟨run, task, row, hreply, hassigned⟩
      · exact .replayed hreply
      · exact .assigned hreply hcall hassigned
    | recordArtifact evidence idempotencyKey verified =>
      rw [hcall] at h
      rcases recordArtifact_spec h with ⟨hreply, rfl⟩ | ⟨run, task, row, hreply, hevidenced⟩
      · exact .replayed hreply
      · exact .evidenced hreply hcall hevidenced
    | startRun runId expectedVersion idempotencyKey =>
      rw [hcall] at h
      rcases startRun_spec h with ⟨run, replay, rfl, rfl, -⟩ | ⟨run, task, row, hreply, hstarted⟩
      · exact .replayed rfl
      · exact .started hreply hcall hstarted
    | failRun runId expectedVersion failureCode idempotencyKey =>
      rw [hcall] at h
      rcases failRun_spec h with ⟨run, replay, taskReplay, rfl, rfl, -⟩
        | ⟨run, task, row, row', hreply, hfailed⟩
      · exact .replayed rfl
      · exact .failed hreply hcall hfailed
    | completeRun runId expectedVersion idempotencyKey =>
      rw [hcall] at h
      rcases completeRun_spec h with ⟨run, replay, rfl, rfl, -⟩
        | ⟨run, task, row, row', hreply, hcompleted⟩
      · exact .replayed rfl
      · exact .completed hreply hcall hcompleted

/-! ## Runs of the service -/

/-- **Invariant rule.** -/
theorem after_induction {P : Database → Prop} (init : P Database.empty)
    (next : ∀ l db outcome db', P db → Effect sha256 dateParse l db outcome db' → P db')
    (ls : List Label) : P (after sha256 dateParse ls) :=
  run_induction (step sha256 dateParse) init
    (fun _ l hpre => next l _ _ _ hpre (effect_of_step l _)) ls

/-- What a later part of a run keeps. -/
theorem after_append_induction {P : Database → Prop} {ls : List Label}
    (init : P (after sha256 dateParse ls))
    (next : ∀ pre l outcome db', P (after sha256 dateParse pre) →
      Effect sha256 dateParse l (after sha256 dateParse pre) outcome db' → P db') (ls' : List Label) :
    P (after sha256 dateParse (ls ++ ls')) := by
  have hsplit : ∀ pre, after sha256 dateParse (ls ++ pre)
      = run (step sha256 dateParse) (after sha256 dateParse ls) pre :=
    fun pre => run_append (step sha256 dateParse) Database.empty ls pre
  rw [hsplit]
  refine run_induction (step sha256 dateParse) init (fun pre l hpre => ?_) ls'
  rw [← hsplit] at hpre ⊢
  exact next (ls ++ pre) l _ _ hpre (effect_of_step l _)

/-- A step of a history starts where the calls before it lead, and has an effect. -/
theorem effect_of_mem_steps {ls : List Label} {e : Entry Label (Except Failure Reply) Database}
    (h : e ∈ steps sha256 dateParse ls) :
    ∃ pre post, ls = pre ++ e.label :: post ∧ e.before = after sha256 dateParse pre
      ∧ e.after = after sha256 dateParse (pre ++ [e.label])
      ∧ Effect sha256 dateParse e.label e.before e.outcome e.after := by
  obtain ⟨pre, l, post, rfl, rfl⟩ := eq_entryAt_of_mem_history (step sha256 dateParse) h
  refine ⟨pre, post, rfl, rfl, ?_, effect_of_step l _⟩
  unfold after
  rw [run_concat]
  rfl

end VentureOS.Durable
