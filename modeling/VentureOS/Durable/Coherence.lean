import VentureOS.Durable.Integrity

/-! # Coherence of durable tasks and runs

The runs of a task are its attempts. `Attempts` says how they fit the task: they are numbered from one and
no more than the task allows, all but the last have ended, and the last agrees with the task. Each operation
replaces the last attempt, adds one, or only moves the task, and each keeps `Attempts`; the main result reads
off what a caller sees. -/

namespace VentureOS.Durable

open ControlPlane Transaction

variable {sha256 : String → String} {dateParse : String → Option Int} {db db' : Database}

/-! ## Attempts -/

/-- The statuses that a task and its last run have together. -/
def Agrees (run : DurableRunStatus) (task : DurableTaskStatus) : Prop :=
  match run with
  | .PREPARED => task = .READY ∨ task = .BLOCKED
  | .AWAITING_APPROVAL => task = .AWAITING_APPROVAL ∨ task = .BLOCKED
  | .ASSIGNED => task = .ASSIGNED
  | .RUNNING => task = .RUNNING
  | .COMPLETED => task = .COMPLETED
  | .FAILED => task = .FAILED
  | .STOPPED => task = .STOPPED

instance : ∀ (run : DurableRunStatus) (task : DurableTaskStatus), Decidable (Agrees run task)
  | .PREPARED, _ => inferInstanceAs (Decidable (_ ∨ _))
  | .AWAITING_APPROVAL, _ => inferInstanceAs (Decidable (_ ∨ _))
  | .ASSIGNED, _ => inferInstanceAs (Decidable (_ = _))
  | .RUNNING, _ => inferInstanceAs (Decidable (_ = _))
  | .COMPLETED, _ => inferInstanceAs (Decidable (_ = _))
  | .FAILED, _ => inferInstanceAs (Decidable (_ = _))
  | .STOPPED, _ => inferInstanceAs (Decidable (_ = _))

variable {task : DurableTaskStatus} {run : DurableRunStatus}

/-- A run that agrees with its task has ended iff the task has. -/
theorem Agrees.terminal_iff (h : Agrees run task) :
    run.Terminal ↔ task.Terminal := by
  revert h
  cases run <;> cases task <;> decide

/-- The attempts at a task: `earlier` ones and the `last`. -/
structure Attempts (task : AcpTask) (earlier : List AcpRun) (last : AcpRun) : Prop where
  numbered : (earlier ++ [last]).map AcpRun.attempt
    = (List.range (earlier.length + 1)).map fun i : Nat => (i : Int) + 1
  bounded : (earlier.length : Int) + 1 ≤ task.maximumAttempts
  ended : ∀ run ∈ earlier, run.status.Terminal
  agrees : Agrees last.status task.status
  level : last.status = .AWAITING_APPROVAL ↔ task.requiredAuthority = 4

variable {earlier : List AcpRun}

/-- The number of the last attempt. -/
theorem Attempts.attempt_last {task : AcpTask} {last : AcpRun}
    (h : Attempts task earlier last) : last.attempt = (earlier.length : Int) + 1 := by
  have hlast := congrArg List.getLast? h.numbered
  rw [List.map_append, List.range_succ, List.map_append] at hlast
  simpa using hlast

variable {task' : DurableTaskStatus} {run' : DurableRunStatus}

/-- A pair that moves agrees afterwards, unless the task is tried again. -/
theorem PairMove.agrees (h : PairMove run task run' task') (hretry : task' ≠ .READY) : Agrees run' task' := by
  cases h with
  | retry => exact absurd rfl hretry
  | _ => decide

/-- A pair that moves had not ended and was not waiting for an approval, and is not afterwards. -/
theorem PairMove.active (h : PairMove run task run' task') :
    ¬ run.Terminal ∧ run ≠ .AWAITING_APPROVAL ∧ run' ≠ .AWAITING_APPROVAL := by
  cases h with
  | assign => decide
  | start => decide
  | complete => decide
  | fail hrun => rcases hrun with rfl | rfl <;> decide
  | stop hrun => rcases hrun with rfl | rfl <;> decide
  | retry hrun => rcases hrun with rfl | rfl <;> decide

/-- A run that has failed while its task is ready again. -/
theorem PairMove.terminal_of_ready
    (h : PairMove run task run' task') (hretry : task' = .READY) : run'.Terminal := by
  cases h with
  | retry => decide
  | _ => cases hretry

section Attempts

variable {task task' : AcpTask} {run run' : AcpRun} (h : Attempts task earlier run)
include h

/-- A run that has not ended is the last attempt. -/
theorem Attempts.eq_last {other : AcpRun} (hmem : other ∈ earlier ++ [run])
    (hactive : ¬ other.status.Terminal) : other = run := by
  rcases List.mem_append.mp hmem with hearlier | hlast
  · exact absurd (h.ended other hearlier) hactive
  · exact List.mem_singleton.mp hlast

/-- The last attempt and the task move together. -/
theorem Attempts.move (hsame : SameBinding run run') (hpolicy : SamePolicy task task')
    (hmove : PairMove run.status task.status run'.status task'.status) (hready : task'.status ≠ .READY) :
    Attempts task' earlier run' := by
  have hattempt : run'.attempt = run.attempt := by rw [hsame]
  have hmaximum : task'.maximumAttempts = task.maximumAttempts := by rw [hpolicy]
  have hlevel : task'.requiredAuthority = task.requiredAuthority := by rw [hpolicy]
  refine ⟨?_, hmaximum ▸ h.bounded, h.ended, hmove.agrees hready, ?_⟩
  · rw [← h.numbered]
    simp [hattempt]
  · rw [hlevel, ← h.level]
    exact iff_of_false hmove.active.2.2 hmove.active.2.1

/-- The last attempt fails and another one follows. -/
theorem Attempts.retry {next : AcpRun} (hsame : SameBinding run run') (hpolicy : SamePolicy task task')
    (hmove : PairMove run.status task.status run'.status task'.status) (hready : task'.status = .READY)
    (hleft : run.attempt < task.maximumAttempts) (hnext : next.attempt = run.attempt + 1)
    (hprepared : next.status = .PREPARED) : Attempts task' (earlier ++ [run']) next := by
  have hattempt : run'.attempt = run.attempt := by rw [hsame]
  have hmaximum : task'.maximumAttempts = task.maximumAttempts := by rw [hpolicy]
  have hlevel : task'.requiredAuthority = task.requiredAuthority := by rw [hpolicy]
  have hlast := h.attempt_last
  refine ⟨?_, ?_, ?_, ?_, ?_⟩
  · have hnumbered := h.numbered
    rw [List.map_append, List.map_singleton] at hnumbered
    rw [List.map_append, List.map_append, List.map_singleton, List.map_singleton, hattempt, hnumbered,
      hnext, hlast, List.length_append, List.length_singleton, List.range_succ (n := earlier.length + 1),
      List.map_append, List.map_singleton]
    simp
  · rw [hmaximum, List.length_append, List.length_singleton]
    omega
  · intro other hother
    rcases List.mem_append.mp hother with hearlier | hfailed
    · exact h.ended other hearlier
    · exact List.mem_singleton.mp hfailed ▸ hmove.terminal_of_ready hready
  · rw [hprepared, hready]
    decide
  · rw [hprepared, hlevel, ← h.level]
    exact iff_of_false (by decide) hmove.active.2.1

/-- A blocked task is released to what agrees with its run. -/
theorem Attempts.release (hblocked : task.status = .BLOCKED) :
    Attempts (releasedTask task) earlier run := by
  refine ⟨h.numbered, h.bounded, h.ended, ?_, h.level⟩
  have hagrees := h.agrees
  have hlevel := h.level
  show Agrees run.status (releasedStatus task)
  rw [hblocked] at hagrees
  unfold releasedStatus
  by_cases happroval : task.requiredAuthority = 4
  · rw [if_pos happroval, hlevel.mpr happroval]
    decide
  · rw [if_neg happroval]
    -- Of the statuses a blocked task's run can have, the other one is left.
    cases hstatus : run.status with
    | PREPARED => decide
    | AWAITING_APPROVAL => exact absurd (hlevel.mp hstatus) happroval
    | _ => rw [hstatus] at hagrees; cases hagrees

end Attempts

/-- The first attempt at a task of a plan. -/
theorem attempts_first {input : DurableObjectivePlanInput} {task : DurableTaskPlanInput} {run : AcpRun}
    (hmaximum : 1 ≤ task.retryPolicy.maximumAttempts) (hfirst : FirstRun sha256 input task run) :
    Attempts (newTask sha256 input task) [] run := by
  have hattempt : run.attempt = 1 := by rw [hfirst.1]; rfl
  have hstatus : run.status = initialRunStatus task := by rw [hfirst.1]; rfl
  have hbounded : ((([] : List AcpRun).length : Nat) : Int) + 1
      ≤ (newTask sha256 input task).maximumAttempts := by
    rw [List.length_nil, Nat.cast_zero, zero_add]
    exact hmaximum
  refine ⟨by simp [hattempt], hbounded, fun _ h => absurd h List.not_mem_nil, ?_, ?_⟩
  · show Agrees run.status (initialTaskStatus task)
    rw [hstatus]
    unfold initialRunStatus initialTaskStatus
    split
    · split <;> decide
    · split <;> decide
  · show run.status = .AWAITING_APPROVAL ↔ task.requiredAuthority = 4
    rw [hstatus]
    unfold initialRunStatus
    split
    · simpa
    · simpa

/-! ## The runs of a task -/

/-- A run of a task. -/
theorem Database.mem_runsOf {task : AcpTask} {run : AcpRun} :
    run ∈ db.runsOf task ↔ run ∈ db.acpRun ∧ run.workspaceId = task.workspaceId
      ∧ run.taskId = task.id := by
  simp [Database.runsOf]

/-- The runs of a task depend on its key only. -/
theorem Database.runsOf_congr {task task' : AcpTask} (h : keyOf task' = keyOf task) :
    db.runsOf task' = db.runsOf task := by
  obtain ⟨hws, hid⟩ := key_inj.mp h
  unfold Database.runsOf
  rw [hws, hid]

section Moved

variable {run run' : AcpRun} {task task' : AcpTask} (h : Moved db db' run run' task task')
include h

/-- The run that moved stands where it stood. -/
theorem Moved.runsOf_eq (other : AcpTask) : db'.runsOf other
    = (db.runsOf other).map fun r => if keyOf r = keyOf run' then run' else r := by
  have hkey := h.sameBinding.keyOf_eq
  have hold : db.acpRun.get? (keyOf run') = some run := by
    rw [hkey]
    exact h.run_mem
  unfold Database.runsOf
  rw [h.database]
  show ((db.acpRun.put run').values.filter _) = _
  rw [Store.values_put_of_some hold, List.filter_map]
  refine congrArg _ (List.filter_congr fun r hr => ?_)
  by_cases hsame : keyOf r = keyOf run'
  · obtain rfl := Store.eq_of_keyOf_eq (Store.mem_values.mp hr) h.run_mem (hsame.trans hkey)
    rw [Function.comp_apply, if_pos hsame, h.sameBinding]
  · rw [Function.comp_apply, if_neg hsame]

/-- The run that moved was the last attempt, and still is. -/
theorem Moved.runsOf_last (hlast : db.runsOf task = earlier ++ [run]) :
    db'.runsOf task' = earlier ++ [run'] := by
  have hdistinct : ((earlier ++ [run]).map keyOf).Nodup := by
    rw [← hlast]
    exact (Store.nodup_map_keyOf_values db.acpRun).sublist (List.filter_sublist.map keyOf)
  rw [List.map_append, List.map_singleton, List.nodup_append] at hdistinct
  rw [Database.runsOf_congr h.samePolicy.keyOf_eq, h.runsOf_eq, hlast, List.map_append,
    List.map_singleton, if_pos h.sameBinding.keyOf_eq.symm]
  congr 1
  refine (List.map_congr_left fun r hr => if_neg fun hsame => ?_).trans (List.map_id earlier)
  exact hdistinct.2.2 _ (List.mem_map_of_mem hr) _ (List.mem_singleton_self _)
    (hsame.trans h.sameBinding.keyOf_eq)

/-- The runs of the other tasks stay. -/
theorem Moved.runsOf_other {other : AcpTask} (hne : keyOf other ≠ keyOf task) :
    db'.runsOf other = db.runsOf other := by
  rw [h.runsOf_eq]
  refine (List.map_congr_left fun r hr => if_neg fun hsame => hne ?_).trans (List.map_id _)
  obtain ⟨hmem, hws, hid⟩ := Database.mem_runsOf.mp hr
  obtain rfl := Store.eq_of_keyOf_eq hmem h.run_mem (hsame.trans h.sameBinding.keyOf_eq)
  exact key_inj.mpr ⟨hws.symm.trans h.workspace, hid.symm.trans h.taskId⟩

/-- The task that moved, or another one. -/
theorem Moved.mem_task {other : AcpTask} (hother : other ∈ db'.acpTask) :
    other = task' ∨ (other ∈ db.acpTask ∧ keyOf other ≠ keyOf task) := by
  rw [h.database] at hother
  rw [← h.samePolicy.keyOf_eq]
  exact Store.mem_put.mp hother

end Moved

/-! ## Coherence -/

/-- The runs of every task are attempts at it. -/
def Coherent (db : Database) : Prop :=
  ∀ task ∈ db.acpTask, ∃ earlier last, db.runsOf task = earlier ++ [last] ∧ Attempts task earlier last

theorem coherent_empty : Coherent Database.empty :=
  fun _ h => absurd h (Store.not_mem_empty _)

section Steps

variable {capability : OperationalEventCapability} {context : WorkspaceContext} {source : EventSource}
  {notice : Notice} {row row' : AuditEvent} {run run' : AcpRun} {task task' : AcpTask}
  (h : Coherent db)
include h

theorem Coherent.announced (hrow : Announced dateParse capability context source notice row db db') :
    Coherent db' := by
  rw [hrow.database]
  exact h

/-- The run that moves is the last attempt at its task. -/
theorem Coherent.last_of_moved (hmoved : Moved db db' run run' task task') :
    ∃ earlier, db.runsOf task = earlier ++ [run] ∧ Attempts task earlier run := by
  obtain ⟨earlier, last, hruns, hattempts⟩ := h task hmoved.task_mem
  have hmem : run ∈ earlier ++ [last] := by
    rw [← hruns]
    exact Database.mem_runsOf.mpr ⟨hmoved.run_mem, hmoved.workspace, hmoved.taskId⟩
  obtain rfl := hattempts.eq_last hmem hmoved.pairMove.active.1
  exact ⟨earlier, hruns, hattempts⟩

theorem Coherent.moved (hmoved : Moved db db' run run' task task') (hready : task'.status ≠ .READY) :
    Coherent db' := by
  intro other hother
  rcases hmoved.mem_task hother with rfl | ⟨hold, hne⟩
  · obtain ⟨earlier, hruns, hattempts⟩ := h.last_of_moved hmoved
    exact ⟨earlier, run', hmoved.runsOf_last hruns,
      hattempts.move hmoved.sameBinding hmoved.samePolicy hmoved.pairMove hready⟩
  · rw [hmoved.runsOf_other hne]
    exact h other hold

/-- A failed run is followed by another attempt. -/
theorem Coherent.retried {retryRunId : EntityId} {idempotencyKey : String} {db'' : Database}
    (hmoved : Moved db db' run run' task task') (hready : task'.status = .READY)
    (hleft : run.attempt < task.maximumAttempts) (hws : run.workspaceId = context.workspaceId)
    (hretried : Retried context .retry run retryRunId idempotencyKey db' db'') : Coherent db'' := by
  obtain ⟨hfresh, rfl⟩ := hretried
  have hruns : ∀ other : AcpTask, ({ db' with
      acpRun := db'.acpRun.put (retryRun context run retryRunId idempotencyKey) } : Database).runsOf other
      = db'.runsOf other ++ [retryRun context run retryRunId idempotencyKey].filter fun r =>
        r.workspaceId = other.workspaceId ∧ r.taskId = other.id := by
    intro other
    unfold Database.runsOf
    rw [Store.values_put_of_fresh hfresh, List.filter_append]
  intro other hother
  rw [hruns]
  rcases hmoved.mem_task hother with rfl | ⟨hold, hne⟩
  · obtain ⟨earlier, hearlier, hattempts⟩ := h.last_of_moved hmoved
    have hkey := key_inj.mp hmoved.samePolicy.keyOf_eq
    have hits : context.workspaceId = other.workspaceId ∧ run.taskId = other.id :=
      ⟨hws.symm.trans (hmoved.workspace.trans hkey.1.symm), hmoved.taskId.trans hkey.2.symm⟩
    refine ⟨earlier ++ [run'], retryRun context run retryRunId idempotencyKey, ?_,
      hattempts.retry hmoved.sameBinding hmoved.samePolicy hmoved.pairMove hready hleft rfl rfl⟩
    rw [hmoved.runsOf_last hearlier, List.filter_cons_of_pos, List.filter_nil]
    exact decide_eq_true hits
  · rw [hmoved.runsOf_other hne, List.filter_cons_of_neg, List.filter_nil, List.append_nil]
    · exact h other hold
    · intro hsame
      obtain ⟨hws', hid⟩ := of_decide_eq_true hsame
      exact hne (key_inj.mpr ⟨hws'.symm.trans (hws.symm.trans hmoved.workspace), hid.symm.trans hmoved.taskId⟩)

theorem Coherent.releasing {idempotencyKey : String} {done : List AcpTaskDependency}
    (hreleasing : Releasing dateParse capability context run idempotencyKey db done db') :
    Coherent db' := by
  have hruns : ∀ other : AcpTask, db'.runsOf other = db.runsOf other := by
    intro other
    unfold Database.runsOf
    rw [hreleasing.runs]
  intro other hother
  rw [Store.mem_iff_get?, hreleasing.tasks] at hother
  obtain ⟨old, hold, rfl⟩ := Option.map_eq_some_iff.mp hother
  obtain ⟨earlier, last, hlast, hattempts⟩ := h old (Store.mem_of_get? hold)
  refine ⟨earlier, last, ?_, ?_⟩
  · rw [hruns, Database.runsOf_congr (samePolicy_release db done old).keyOf_eq, hlast]
  · by_cases hsame : release db done old = old
    · rw [hsame]
      exact hattempts
    · have hblocked : old.status = .BLOCKED := by
        by_contra hnot
        exact hsame (release_of_not_blocked hnot)
      rw [release_of_ne hsame]
      exact hattempts.release hblocked

/-- The tasks of a plan have their first runs, and the old tasks their old ones. -/
theorem Coherent.planned {input : DurableObjectivePlanInput} (hsound : Sound db)
    (hplanned : Planned sha256 context input db db') : Coherent db' := by
  obtain ⟨runs, db₁, hinserted, rfl⟩ := hplanned.inserted
  have hruns : ∀ other : AcpTask, ({ db₁ with
      acpTaskDependency := db.acpTaskDependency ++ newDependencies input } : Database).runsOf other
      = db.runsOf other ++ runs.filter fun r =>
        r.workspaceId = other.workspaceId ∧ r.taskId = other.id := by
    intro other
    unfold Database.runsOf
    rw [hinserted.runRows.values_eq, List.filter_append]
  intro task htask
  rw [hruns]
  rcases hinserted.taskRows.mem_iff.mp htask with hold | hnew
  · -- No first run is a run of an old task.
    have hnone : (runs.filter fun r => r.workspaceId = task.workspaceId ∧ r.taskId = task.id) = [] := by
      refine List.filter_eq_nil_iff.mpr fun r hr hsame => ?_
      obtain ⟨hws, hid⟩ := of_decide_eq_true hsame
      obtain ⟨planned, hplan, hfirst, -⟩ := exists_of_firstRuns hinserted.firstRuns hr
      have hfresh := hinserted.taskRows.fresh _ (List.mem_map_of_mem hplan)
      rw [hfirst] at hws hid
      have hkey : keyOf (newTask sha256 input planned) = keyOf task := key_inj.mpr ⟨hws, hid⟩
      rw [hkey, Store.mem_iff_get?.mp hold] at hfresh
      cases hfresh
    rw [hnone, List.append_nil]
    exact h task hold
  · obtain ⟨planned, hplan, rfl⟩ := List.mem_map.mp hnew
    -- No old run is a run of a new task, since old runs have old tasks.
    have hnone : db.runsOf (newTask sha256 input planned) = [] := by
      refine List.filter_eq_nil_iff.mpr fun r hr hsame => ?_
      obtain ⟨hws, hid⟩ := of_decide_eq_true hsame
      obtain ⟨old, hold⟩ := (hsound.runs r (Store.mem_values.mp hr)).task
      have hfresh := hinserted.taskRows.fresh _ (List.mem_map_of_mem hplan)
      rw [hws, hid] at hold
      rw [keyOf_task, hold] at hfresh
      cases hfresh
    obtain ⟨run, hfirst, hfilter⟩ :=
      filter_firstRuns hinserted.firstRuns hplanned.valid.distinct hplan
    refine ⟨[], run, ?_, attempts_first (hplanned.valid.attempts planned hplan) hfirst⟩
    rw [hnone]
    exact hfilter

omit h in
/-- Another attempt is made only while the task allows one. -/
theorem attempt_lt_of_verdict {failureCode : String} (hverdict : verdict run task failureCode = .retry) :
    run.attempt < task.maximumAttempts := by
  unfold verdict at hverdict
  split at hverdict
  · cases hverdict
  · split at hverdict
    · rename_i hretry
      exact hretry.2
    · cases hverdict

theorem Coherent.failed {runId : EntityId} {failureCode idempotencyKey : String}
    (hfailed : Failed sha256 dateParse capability context runId failureCode idempotencyKey db db' run
      task row row') : Coherent db' := by
  obtain ⟨now, retryRunId, db₁, db₂, db₃, hmoved, hretried, hrow, hrow'⟩ := hfailed.moved
  obtain ⟨-, -, hws, -⟩ := mem_of_findRun hfailed.found
  have hcoherent : Coherent db₂ := by
    cases hverdict : verdict run task failureCode with
    | retry =>
      rw [hverdict] at hmoved hretried
      exact h.retried hmoved rfl (attempt_lt_of_verdict hverdict) hws hretried
    | _ =>
      rw [hverdict] at hmoved hretried
      exact hretried ▸ h.moved hmoved (by rintro ⟨⟩)
  exact (hcoherent.announced hrow).announced hrow'

theorem Coherent.completed {runId : EntityId} {idempotencyKey : String}
    (hcompleted : Completed dateParse capability context runId idempotencyKey db db' run task row
      row') : Coherent db' := by
  obtain ⟨now, db₁, db₂, db₃, hmoved, hrow, hrow', hreleasing⟩ := hcompleted.moved
  have hcoherent : Coherent db₁ := h.moved hmoved (by rintro ⟨⟩)
  exact ((hcoherent.announced hrow).announced hrow').releasing hreleasing

/-- Every call keeps the runs of every task attempts at it. -/
theorem coherent_of_effect {l : Label} {outcome : Except Failure Reply} (hsound : Sound db)
    (heffect : Effect sha256 dateParse l db outcome db') : Coherent db' := by
  cases heffect with
  | refused e => exact h
  | replayed hreply => exact h
  | planned hreply hcall hplanned => exact h.planned hsound hplanned
  | assigned hreply hcall hassigned =>
    obtain ⟨db₁, hmoved, hrow⟩ := hassigned.moved
    exact (h.moved hmoved (by rintro ⟨⟩)).announced hrow
  | evidenced hreply hcall hevidenced =>
    rw [hevidenced.announced.database]
    exact h
  | started hreply hcall hstarted =>
    obtain ⟨now, db₁, hmoved, hrow⟩ := hstarted.moved
    exact (h.moved hmoved (by rintro ⟨⟩)).announced hrow
  | failed hreply hcall hfailed => exact h.failed hfailed
  | completed hreply hcall hcompleted => exact h.completed hcompleted

end Steps

theorem coherent_after (ls : List Label) : Coherent (after sha256 dateParse ls) := by
  have both : Sound (after sha256 dateParse ls) ∧ Coherent (after sha256 dateParse ls) :=
    after_induction (P := fun db => Sound db ∧ Coherent db) ⟨sound_empty, coherent_empty⟩
      (fun _ _ _ _ h heffect =>
        ⟨sound_of_effect h.1 heffect, coherent_of_effect h.2 h.1 heffect⟩) ls
  exact both.2

/-! ## Evidence -/

/-- A run has an artifact for every criterion of its task. -/
def Covered (db : Database) (run : AcpRun) : Prop :=
  ∃ task, db.acpTask.get? (key run.workspaceId run.taskId) = some task
    ∧ ∀ criterion ∈ task.acceptanceCriteria ++ task.verificationCriteria,
      ∃ artifact ∈ db.acpArtifact, artifact.workspaceId = run.workspaceId ∧ artifact.runId = run.id
        ∧ artifact.criterion = criterion

/-- What covers a run is kept. -/
theorem Covered.grows {old new : AcpRun} (h : Covered db old) (hgrows : Grows db db')
    (hsame : SameBinding old new) : Covered db' new := by
  obtain ⟨task, htask, hall⟩ := h
  obtain ⟨task', htask', hstep⟩ := hgrows.tasks htask
  have hcriteria : task'.acceptanceCriteria ++ task'.verificationCriteria
      = task.acceptanceCriteria ++ task.verificationCriteria := hstep.samePolicy.criteria_eq
  rw [hsame]
  refine ⟨task', htask', fun criterion hcriterion => ?_⟩
  rw [hcriteria] at hcriterion
  obtain ⟨artifact, hartifact, hrest⟩ := hall criterion hcriterion
  exact ⟨artifact, Store.mem_of_get? (hgrows.artifacts hartifact), hrest⟩

/-- The completed runs are covered. -/
def CompletedCovered (db : Database) : Prop :=
  ∀ run ∈ db.acpRun, run.status = .COMPLETED → Covered db run

/-- The run that moved, or another one. -/
theorem Moved.mem_run {run run' other : AcpRun} {task task' : AcpTask}
    (h : Moved db db' run run' task task') (hother : other ∈ db'.acpRun) :
    other = run' ∨ other ∈ db.acpRun := by
  rw [h.database] at hother
  exact (Store.mem_put.mp hother).imp_right And.left

/-- A completed run was completed before, or has been covered when it was completed. -/
theorem completed_origin {l : Label} {outcome : Except Failure Reply} {run : AcpRun}
    (heffect : Effect sha256 dateParse l db outcome db') (hrun : run ∈ db'.acpRun)
    (hcompleted : run.status = .COMPLETED) :
    ∃ old ∈ db.acpRun, SameBinding old run ∧ (old.status = .COMPLETED ∨ Covered db old) := by
  have kept : run ∈ db.acpRun →
      ∃ old ∈ db.acpRun, SameBinding old run ∧ (old.status = .COMPLETED ∨ Covered db old) :=
    fun hold => ⟨run, hold, rfl, Or.inl hcompleted⟩
  cases heffect with
  | refused e => exact kept hrun
  | replayed hreply => exact kept hrun
  | planned hreply hcall hplanned =>
    obtain ⟨runs, db₁, hinserted, rfl⟩ := hplanned.inserted
    rcases hinserted.runRows.mem_iff.mp hrun with hold | hnew
    · exact kept hold
    · obtain ⟨planned, -, hfirst, -⟩ := exists_of_firstRuns hinserted.firstRuns hnew
      have hinitial : initialRunStatus planned = .COMPLETED := by
        rw [← hcompleted, hfirst]
        rfl
      rcases initialRunStatus_cases planned with hs | hs <;> rw [hs] at hinitial <;> cases hinitial
  | assigned hreply hcall hassigned =>
    obtain ⟨db₁, hmoved, hrow⟩ := hassigned.moved
    rcases hmoved.mem_run (hrow.acpRun_eq ▸ hrun) with rfl | hold
    · cases hcompleted
    · exact kept hold
  | evidenced hreply hcall hevidenced =>
    have hsame := hevidenced.announced.acpRun_eq
    exact kept (hsame ▸ hrun)
  | started hreply hcall hstarted =>
    obtain ⟨now, db₁, hmoved, hrow⟩ := hstarted.moved
    rcases hmoved.mem_run (hrow.acpRun_eq ▸ hrun) with rfl | hold
    · cases hcompleted
    · exact kept hold
  | @failed _ _ _ _ failureCode _ failed task _ _ hreply hcall hfailed =>
    obtain ⟨now, retryRunId, db₁, db₂, db₃, hmoved, hretried, hrow, hrow'⟩ := hfailed.moved
    rw [hrow'.acpRun_eq, hrow.acpRun_eq] at hrun
    rcases hretried.mem_run hrun with hbefore | rfl
    · rcases hmoved.mem_run hbefore with rfl | hold
      · have hended : (verdict failed task failureCode).runStatus = .COMPLETED := hcompleted
        cases hverdict : verdict failed task failureCode <;> rw [hverdict] at hended <;> cases hended
      · exact kept hold
    · cases hcompleted
  | @completed _ _ _ _ _ completed task _ _ hreply hcall hcompletion =>
    obtain ⟨now, db₁, db₂, db₃, hmoved, hrow, hrow', hreleasing⟩ := hcompletion.moved
    rw [hreleasing.runs, hrow'.acpRun_eq, hrow.acpRun_eq] at hrun
    rcases hmoved.mem_run hrun with rfl | hold
    · refine ⟨completed, hmoved.run_mem, hmoved.sameBinding, Or.inr ⟨task, ?_, ?_⟩⟩
      · exact (Database.findRun_eq_some.mp hcompletion.found).2
      · intro criterion hcriterion
        obtain ⟨artifact, hartifact, hsame⟩ := hcompletion.covered criterion hcriterion
        obtain ⟨hmem, hof⟩ := List.mem_filter.mp hartifact
        obtain ⟨hws, hid⟩ := of_decide_eq_true hof
        exact ⟨artifact, Store.mem_values.mp hmem, hws, hid, hsame⟩
    · exact kept hold

theorem completedCovered_after (ls : List Label) : CompletedCovered (after sha256 dateParse ls) := by
  refine after_induction (fun _ h => absurd h (Store.not_mem_empty _)) ?_ ls
  intro l db outcome db' h heffect run hrun hcompleted
  obtain ⟨old, hold, hsame, horigin⟩ := completed_origin heffect hrun hcompleted
  have hcovered : Covered db old := horigin.elim (h old hold) id
  exact hcovered.grows (grows_of_effect heffect) hsame

/-! ## The main result -/

/-- What a caller sees of a task and its runs. -/
structure CoherentTask (db : Database) (task : AcpTask) : Prop where
  /-- The runs are attempts `1` to `n`. -/
  numbered : (db.runsOf task).map AcpRun.attempt
    = (List.range (db.runsOf task).length).map fun i : Nat => (i : Int) + 1
  bounded : ((db.runsOf task).length : Int) ≤ task.maximumAttempts
  /-- Only the last may be going on. -/
  ended : ∀ run ∈ (db.runsOf task).dropLast, run.status.Terminal
  active : ¬ task.status.Terminal →
    ∃ run, (db.runsOf task).filter (fun run => ¬ run.status.Terminal) = [run]
  inactive : task.status.Terminal → ∀ run ∈ db.runsOf task, run.status.Terminal
  agrees : ∃ last, (db.runsOf task).getLast? = some last ∧ Agrees last.status task.status

/-- Attempts at a task are what a caller sees. -/
theorem Attempts.coherentTask {task : AcpTask} {last : AcpRun}
    (h : Attempts task earlier last) (hruns : db.runsOf task = earlier ++ [last]) :
    CoherentTask db task := by
  have hlength : (db.runsOf task).length = earlier.length + 1 := by
    rw [hruns, List.length_append, List.length_singleton]
  refine ⟨?_, ?_, ?_, fun hactive => ?_, fun hended run hrun => ?_, ?_⟩
  · rw [hlength, hruns]
    exact h.numbered
  · rw [hlength, Nat.cast_add, Nat.cast_one]
    exact h.bounded
  · rw [hruns, List.dropLast_concat]
    exact h.ended
  · refine ⟨last, ?_⟩
    have hnone : earlier.filter (fun run => ¬ run.status.Terminal) = [] :=
      List.filter_eq_nil_iff.mpr fun run hrun hnot => of_decide_eq_true hnot (h.ended run hrun)
    have hlast : ¬ last.status.Terminal := fun hended => hactive (h.agrees.terminal_iff.mp hended)
    rw [hruns, List.filter_append, hnone, List.nil_append, List.filter_cons_of_pos, List.filter_nil]
    exact decide_eq_true hlast
  · rw [hruns] at hrun
    by_contra hactive
    obtain rfl := h.eq_last hrun hactive
    exact hactive (h.agrees.terminal_iff.mpr hended)
  · exact ⟨last, by rw [hruns, List.getLast?_concat], h.agrees⟩

/-- Along a step every task and every run stays, and a status that changes changes along its table. -/
structure LegalStep (e : Entry Label (Except Failure Reply) Database) : Prop where
  tasks : ∀ k old, e.before.acpTask.get? k = some old → ∃ new, e.after.acpTask.get? k = some new
    ∧ (new.status ≠ old.status → new.status ∈ durableTaskTransitions old.status)
  runs : ∀ k old, e.before.acpRun.get? k = some old → ∃ new, e.after.acpRun.get? k = some new
    ∧ (new.status ≠ old.status → new.status ∈ durableRunTransitions old.status)

/-- **Durable tasks and runs are coherent** after every history of calls: the runs of a task are its
numbered attempts within its retry budget, of which only the last may be going on, and is exactly while the
task is; it agrees with the task. Statuses only change along the transition tables, and a completed run has
an artifact for each criterion. -/
theorem durable_tasks_and_runs_coherent (sha256 : String → String) (dateParse : String → Option Int)
    (ls : List Label) :
    (∀ task ∈ (after sha256 dateParse ls).acpTask, CoherentTask (after sha256 dateParse ls) task)
    ∧ (∀ e ∈ steps sha256 dateParse ls, LegalStep e)
    ∧ ∀ run ∈ (after sha256 dateParse ls).acpRun, run.status = .COMPLETED →
      Covered (after sha256 dateParse ls) run := by
  refine ⟨fun task htask => ?_, fun e he => ?_, completedCovered_after ls⟩
  · obtain ⟨earlier, last, hruns, hattempts⟩ := coherent_after ls task htask
    exact hattempts.coherentTask hruns
  · obtain ⟨pre, post, -, -, -, heffect⟩ := effect_of_mem_steps he
    have hgrows := grows_of_effect heffect
    constructor
    · intro k old hold
      obtain ⟨new, hnew, hstep⟩ := hgrows.tasks hold
      exact ⟨new, hnew, fun hchanged => hstep.transition.resolve_left hchanged⟩
    · intro k old hold
      obtain ⟨new, hnew, hstep⟩ := hgrows.runs hold
      exact ⟨new, hnew, fun hchanged => hstep.transition.resolve_left hchanged⟩

end VentureOS.Durable
