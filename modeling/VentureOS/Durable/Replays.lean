import VentureOS.Durable.Growth

/-! # Replays

An operation recognises that it was called before by an audit row under its key. `Writes` lists the notices
a call can record for the control plane, so a row that is found leads back to the call that wrote it; and the
row of a call is found for ever, since rows are only added. A replay of `failRun` or `completeRun` leads back
to the call it repeats, and so does one of `startRun`, except for the row that `failRun` writes when it stops
a run. -/

namespace VentureOS.Durable

open ControlPlane Transaction

variable {e : Entry Label (Except Failure Reply) Database} {ls : List Label} {row : AuditEvent}
  {runId workspaceId : EntityId} {idempotencyKey : String}

variable {expectedVersion : Int}

section Replays

variable {sha256 : String → String} {dateParse : String → Option Int} {db db' : Database}

/-! ## Audit rows -/

/-- A row of a notice. -/
structure RowOf (notice : Notice) (context : WorkspaceContext) (source : EventSource)
    (row : AuditEvent) : Prop where
  workspace : row.workspaceReference = context.workspaceId
  source : row.source = source
  idempotencyKey : row.idempotencyKey = notice.idempotencyKey
  action : row.action = notice.type
  entityId : row.entityId = notice.subjectId
  after : row.after = notice.facts

/-- A row that is found is found for ever. -/
theorem findAuditEvent_of_prefix {source : EventSource}
    (h : db.findAuditEvent workspaceId source idempotencyKey = some row)
    (hgrown : db.auditEvent <+: db'.auditEvent) :
    db'.findAuditEvent workspaceId source idempotencyKey = some row := by
  obtain ⟨rows, hrows⟩ := hgrown
  unfold Database.findAuditEvent at h ⊢
  rw [← hrows, List.find?_append, h, Option.some_or]

section Announced

variable {capability : OperationalEventCapability} {context : WorkspaceContext} {source : EventSource}
  {notice : Notice} (h : Announced dateParse capability context source notice row db db')
include h

theorem Announced.rowOf : RowOf notice context source row := by
  obtain ⟨_, _, _, _, rfl, -⟩ := h.row_eq
  exact ⟨rfl, rfl, rfl, rfl, rfl, rfl⟩

theorem Announced.mem_rows {other : AuditEvent} (hother : other ∈ db'.auditEvent) :
    other ∈ db.auditEvent ∨ other = row := by
  rw [h.database] at hother
  exact (List.mem_append.mp hother).imp_right List.mem_singleton.mp

/-- The row of a notice is found under its key. -/
theorem Announced.finds :
    db'.findAuditEvent context.workspaceId source notice.idempotencyKey = some row := by
  have hnone := h.fresh
  have hrow := h.rowOf
  rw [h.database]
  unfold Database.findAuditEvent at hnone ⊢
  rw [List.find?_append, hnone, Option.none_or, List.find?_cons_of_pos]
  exact decide_eq_true ⟨hrow.workspace, hrow.source, hrow.idempotencyKey⟩

end Announced

/-! ## Which call wrote a row -/

/-- The notices that a call can record for the control plane. -/
inductive Writes (sha256 : String → String) (call : Call) : Notice → Prop
  | assigned {evidence : TrustedAssignmentEvidence} {expectedVersion : Int} {idempotencyKey : String}
      {verified : Except Failure Bool} {run : AcpRun}
      (hcall : call = .reserveAssignment evidence expectedVersion idempotencyKey verified) :
      Writes sha256 call (taskAssigned evidence run idempotencyKey)
  | evidenced {evidence : TrustedArtifactEvidence} {idempotencyKey : String}
      {verified : Except Failure Bool} {run : AcpRun}
      (hcall : call = .recordArtifact evidence idempotencyKey verified) :
      Writes sha256 call (artifactCreated evidence run idempotencyKey)
  | started {runId : EntityId} {expectedVersion : Int} {idempotencyKey : String} {run : AcpRun}
      (hcall : call = .startRun runId expectedVersion idempotencyKey) (hid : run.id = runId) :
      Writes sha256 call (runChange .runStatusChanged run .RUNNING idempotencyKey)
  | failed {runId : EntityId} {expectedVersion : Int} {failureCode idempotencyKey : String} {run : AcpRun}
      (v : Verdict) (hcall : call = .failRun runId expectedVersion failureCode idempotencyKey)
      (hid : run.id = runId) : Writes sha256 call (v.runNotice run idempotencyKey)
  | failedTask {runId : EntityId} {expectedVersion : Int} {failureCode idempotencyKey : String}
      {run : AcpRun} {retryRunId : EntityId} (v : Verdict)
      (hcall : call = .failRun runId expectedVersion failureCode idempotencyKey) :
      Writes sha256 call (v.taskNotice run (sha256 failureCode) retryRunId idempotencyKey)
  | completed {runId : EntityId} {expectedVersion : Int} {idempotencyKey : String} {run : AcpRun}
      (hcall : call = .completeRun runId expectedVersion idempotencyKey) (hid : run.id = runId) :
      Writes sha256 call (runChange .runCompleted run .COMPLETED idempotencyKey)
  | completedTask {runId : EntityId} {expectedVersion : Int} {idempotencyKey : String} {run : AcpRun}
      {artifactIds : List EntityId} (hcall : call = .completeRun runId expectedVersion idempotencyKey) :
      Writes sha256 call (taskCompleted run artifactIds idempotencyKey)
  | ready {runId : EntityId} {expectedVersion : Int} {idempotencyKey : String} {task : AcpTask}
      {dependencyIds : List EntityId} {objectiveId : EntityId}
      (hcall : call = .completeRun runId expectedVersion idempotencyKey) :
      Writes sha256 call (taskReady task dependencyIds objectiveId idempotencyKey)

/-- **A new row of the control plane** was written by a call that was not a replay. -/
theorem written_of_effect {l : Label} {outcome : Except Failure Reply}
    (heffect : Effect sha256 dateParse l db outcome db') (hrow : row ∈ db'.auditEvent)
    (hnew : row ∉ db.auditEvent) (hsource : row.source = .CONTROL_PLANE) :
    (∃ reply, outcome = .ok reply ∧ reply.replayed = false)
      ∧ ∃ notice, Writes sha256 l.call notice ∧ RowOf notice l.context .CONTROL_PLANE row := by
  cases heffect with
  | planned hreply hcall hplanned =>
    obtain ⟨runs, db₁, hinserted, rfl⟩ := hplanned.inserted
    obtain ⟨rows, hrows, hall⟩ := hinserted.eventRows
    have hmem : row ∈ db₁.auditEvent := hrow
    rw [hrows] at hmem
    rcases List.mem_append.mp hmem with hold | hadded
    · exact absurd hold hnew
    · rw [hall row hadded] at hsource
      cases hsource
  | assigned hreply hcall hassigned =>
    obtain ⟨db₁, hmoved, hannounced⟩ := hassigned.moved
    refine ⟨⟨_, rfl, hreply⟩, ?_⟩
    rcases hannounced.mem_rows hrow with hold | rfl
    · rw [hmoved.database] at hold
      exact absurd hold hnew
    · exact ⟨_, .assigned hcall, hannounced.rowOf⟩
  | evidenced hreply hcall hevidenced =>
    refine ⟨⟨_, rfl, hreply⟩, ?_⟩
    rcases hevidenced.announced.mem_rows hrow with hold | rfl
    · exact absurd hold hnew
    · exact ⟨_, .evidenced hcall, hevidenced.announced.rowOf⟩
  | started hreply hcall hstarted =>
    obtain ⟨now, db₁, hmoved, hannounced⟩ := hstarted.moved
    obtain ⟨-, -, -, hid, -⟩ := mem_of_findRun hstarted.found
    refine ⟨⟨_, rfl, hreply⟩, ?_⟩
    rcases hannounced.mem_rows hrow with hold | rfl
    · rw [hmoved.database] at hold
      exact absurd hold hnew
    · exact ⟨_, .started hcall hid, hannounced.rowOf⟩
  | @failed _ _ _ _ failureCode _ run task _ _ hreply hcall hfailed =>
    obtain ⟨now, retryRunId, db₁, db₂, db₃, hmoved, hretried, hfirst, hsecond⟩ := hfailed.moved
    obtain ⟨-, -, -, hid, -⟩ := mem_of_findRun hfailed.found
    refine ⟨⟨_, rfl, hreply⟩, ?_⟩
    rcases hsecond.mem_rows hrow with hrow | rfl
    · rcases hfirst.mem_rows hrow with hold | rfl
      · have hretry : db₂.auditEvent = db₁.auditEvent := by
          cases hverdict : verdict run task failureCode <;> rw [hverdict] at hretried
          · exact congrArg Database.auditEvent hretried
          · rw [hretried.2]
          · exact congrArg Database.auditEvent hretried
        rw [hretry, hmoved.database] at hold
        exact absurd hold hnew
      · exact ⟨_, .failed _ hcall hid, hfirst.rowOf⟩
    · exact ⟨_, .failedTask _ hcall, hsecond.rowOf⟩
  | completed hreply hcall hcompleted =>
    obtain ⟨now, db₁, db₂, db₃, hmoved, hfirst, hsecond, hreleasing⟩ := hcompleted.moved
    obtain ⟨-, -, -, hid, -⟩ := mem_of_findRun hcompleted.found
    obtain ⟨rows, hrows, hall⟩ := hreleasing.rows
    refine ⟨⟨_, rfl, hreply⟩, ?_⟩
    rw [hrows] at hrow
    rcases List.mem_append.mp hrow with hrow | hready
    · rcases hsecond.mem_rows hrow with hrow | rfl
      · rcases hfirst.mem_rows hrow with hold | rfl
        · rw [hmoved.database] at hold
          exact absurd hold hnew
        · exact ⟨_, .completed hcall hid, hfirst.rowOf⟩
      · exact ⟨_, .completedTask hcall, hsecond.rowOf⟩
    · obtain ⟨task, before, after, -, -, hannounced⟩ := hall row hready
      exact ⟨_, .ready hcall, hannounced.rowOf⟩
  | _ => exact absurd hrow hnew

/-- A step of a list of calls. -/
theorem mem_steps (pre post : List Label) (l : Label) :
    entryAt (step sha256 dateParse) (after sha256 dateParse pre) l
      ∈ steps sha256 dateParse (pre ++ l :: post) := by
  unfold steps
  rw [history_append]
  exact List.mem_append_right _ List.mem_cons_self

/-- **Every row of the control plane** leads back to the step that wrote it. -/
theorem written_after
    (hrow : row ∈ (after sha256 dateParse ls).auditEvent) (hsource : row.source = .CONTROL_PLANE) :
    ∃ e ∈ steps sha256 dateParse ls, (∃ reply, e.outcome = .ok reply ∧ reply.replayed = false)
      ∧ ∃ notice, Writes sha256 e.label.call notice ∧ RowOf notice e.label.context .CONTROL_PLANE row := by
  obtain ⟨pre, l, post, rfl, hnew, hstep⟩ := exists_step_of_run (step sha256 dateParse)
    (P := fun db => row ∈ db.auditEvent) (s := Database.empty) List.not_mem_nil hrow
  exact ⟨_, mem_steps pre post l, written_of_effect (effect_of_step l _) hstep hnew hsource⟩

/-! ## Earlier steps -/

/-- A call that did new work. -/
def NewWork (e : Entry Label (Except Failure Reply) Database) : Prop :=
  ∃ reply, e.outcome = .ok reply ∧ reply.replayed = false

/-- New work was committed, and the rows and the runs that it left are there for ever. -/
theorem kept_of_mem_steps (h : e ∈ steps sha256 dateParse ls) (hnew : NewWork e) :
    (∃ reply s', Commits (perform sha256 dateParse e.label) ⟨e.before, 0, 0⟩ reply s' ∧ reply.replayed = false
        ∧ e.after = s'.database)
      ∧ e.after.auditEvent <+: (after sha256 dateParse ls).auditEvent
      ∧ ∀ k, e.after.acpRun.get? k ≠ none → (after sha256 dateParse ls).acpRun.get? k ≠ none := by
  obtain ⟨pre, l, post, rfl, rfl⟩ := eq_entryAt_of_mem_history (step sha256 dateParse) h
  obtain ⟨reply, hreply, hnew⟩ := hnew
  obtain ⟨s', hcommits, hdb⟩ := commits_of_step hreply
  refine ⟨⟨reply, s', hcommits, hnew, hdb⟩, ?_⟩
  have hafter : after sha256 dateParse (pre ++ [l])
      = (step sha256 dateParse l (after sha256 dateParse pre)).2 := run_concat _ _ _ _
  have kept := @after_append_induction sha256 dateParse (fun db =>
      (after sha256 dateParse (pre ++ [l])).auditEvent <+: db.auditEvent
        ∧ ∀ k, (after sha256 dateParse (pre ++ [l])).acpRun.get? k ≠ none → db.acpRun.get? k ≠ none)
    (pre ++ [l]) ⟨List.prefix_refl _, fun _ hk => hk⟩ (fun mid l' outcome db' hmid heffect => by
      have hgrows := grows_of_effect heffect
      refine ⟨hmid.1.trans hgrows.rows, fun k hk => ?_⟩
      obtain ⟨run, hrun⟩ := Option.ne_none_iff_exists'.mp (hmid.2 k hk)
      obtain ⟨run', hrun', -⟩ := hgrows.runs hrun
      rw [hrun']
      nofun) post
  rw [List.append_assoc, List.singleton_append, hafter] at kept
  exact kept

/-- **A row that is found** was written by an earlier call that did new work in the workspace. -/
theorem traced
    (h : (after sha256 dateParse ls).findAuditEvent workspaceId .CONTROL_PLANE idempotencyKey = some row) :
    ∃ e ∈ steps sha256 dateParse ls, NewWork e ∧ e.label.context.workspaceId = workspaceId
      ∧ ∃ notice, Writes sha256 e.label.call notice ∧ notice.idempotencyKey = idempotencyKey
        ∧ row.action = notice.type ∧ row.entityId = notice.subjectId ∧ row.after = notice.facts := by
  obtain ⟨hmem, hws, hsource, hkey⟩ := Database.findAuditEvent_eq_some h
  obtain ⟨e, he, hnew, notice, hwrites, hrow⟩ := written_after hmem hsource
  exact ⟨e, he, hnew, hrow.workspace.symm.trans hws, notice, hwrites, hrow.idempotencyKey.symm.trans hkey,
    hrow.action, hrow.entityId, hrow.after⟩

/-- The row of a run that was started is found for ever, and so is the run. -/
theorem startRun_traced
    (he : e ∈ steps sha256 dateParse ls) (hnew : NewWork e)
    (hcall : e.label.call = .startRun runId expectedVersion idempotencyKey) :
    (after sha256 dateParse ls).acpRun.get? (key e.label.context.workspaceId runId) ≠ none
      ∧ ∃ run row, (after sha256 dateParse ls).findAuditEvent e.label.context.workspaceId .CONTROL_PLANE
          (idempotencyKey ++ ":run") = some row
        ∧ RowOf (runChange .runStatusChanged run .RUNNING idempotencyKey) e.label.context .CONTROL_PLANE
          row := by
  obtain ⟨⟨reply, s', hcommits, hnew, hdb⟩, hrows, hruns⟩ := kept_of_mem_steps he hnew
  unfold perform at hcommits
  rw [hcall] at hcommits
  rcases startRun_spec hcommits with ⟨_, _, rfl, -⟩ | ⟨run, task, row, -, hstarted⟩
  · cases hnew
  · rw [← hdb] at hstarted
    obtain ⟨now, db₁, hmoved, hannounced⟩ := hstarted.moved
    refine ⟨hruns _ ?_, run, row, findAuditEvent_of_prefix hannounced.finds hrows, hannounced.rowOf⟩
    obtain ⟨run', hrun', -⟩ := (hmoved.grows.adds hannounced.adds).runs
      (Database.findRun_eq_some.mp hstarted.found).1
    rw [hrun']
    nofun

/-- The row of a run that failed is found for ever, and so is the run. -/
theorem failRun_traced
    (he : e ∈ steps sha256 dateParse ls) (hnew : NewWork e)
    {failureCode : String}
    (hcall : e.label.call = .failRun runId expectedVersion failureCode idempotencyKey) :
    (after sha256 dateParse ls).acpRun.get? (key e.label.context.workspaceId runId) ≠ none
      ∧ ∃ row, (after sha256 dateParse ls).findAuditEvent e.label.context.workspaceId .CONTROL_PLANE
          (idempotencyKey ++ ":run") = some row ∧ row.entityId = runId := by
  obtain ⟨⟨reply, s', hcommits, hnew, hdb⟩, hrows, hruns⟩ := kept_of_mem_steps he hnew
  unfold perform at hcommits
  rw [hcall] at hcommits
  rcases failRun_spec hcommits with ⟨_, _, _, rfl, -⟩ | ⟨run, task, row, row', -, hfailed⟩
  · cases hnew
  · rw [← hdb] at hfailed
    obtain ⟨now, retryRunId, db₁, db₂, db₃, hmoved, hretried, hfirst, hsecond⟩ := hfailed.moved
    obtain ⟨-, -, -, hid, -⟩ := mem_of_findRun hfailed.found
    have hkey : ((verdict run task failureCode).runNotice run idempotencyKey).idempotencyKey
        = idempotencyKey ++ ":run" := by
      cases verdict run task failureCode <;> rfl
    have hsubject : ((verdict run task failureCode).runNotice run idempotencyKey).subjectId = run.id := by
      cases verdict run task failureCode <;> rfl
    have hfound := hfirst.finds
    rw [hkey] at hfound
    refine ⟨hruns _ ?_, row, findAuditEvent_of_prefix hfound (hsecond.adds.rows.trans hrows), ?_⟩
    · obtain ⟨run', hrun', -⟩ := (((hmoved.grows.adds hretried.adds).adds hfirst.adds).adds
        hsecond.adds).runs (Database.findRun_eq_some.mp hfailed.found).1
      rw [hrun']
      nofun
    · rw [hfirst.rowOf.entityId, hsubject, hid]

/-! ## Faithful replays -/

/-- `startRun`, `failRun` and `completeRun`. -/
def Call.OnRun : Call → Prop
  | .startRun _ _ _ => True
  | .failRun _ _ _ _ => True
  | .completeRun _ _ _ => True
  | _ => False

/-- Both calls are the same operation on the same run under the same key; two failures have the same
code. -/
def Call.SameWork : Call → Call → Prop
  | .startRun runId _ idempotencyKey, .startRun runId' _ idempotencyKey' =>
    runId = runId' ∧ idempotencyKey = idempotencyKey'
  | .failRun runId _ failureCode idempotencyKey, .failRun runId' _ failureCode' idempotencyKey' =>
    runId = runId' ∧ failureCode = failureCode' ∧ idempotencyKey = idempotencyKey'
  | .completeRun runId _ idempotencyKey, .completeRun runId' _ idempotencyKey' =>
    runId = runId' ∧ idempotencyKey = idempotencyKey'
  | _, _ => False

/-- A replay changes nothing, and on a run it repeats an earlier call of the workspace that did new
work. -/
def Faithful (past : List (Entry Label (Except Failure Reply) Database))
    (e : Entry Label (Except Failure Reply) Database) : Prop :=
  ∀ reply, e.outcome = .ok reply → reply.replayed = true → e.after = e.before
    ∧ (e.label.call.OnRun → ∃ e' ∈ past, NewWork e'
      ∧ e'.label.context.workspaceId = e.label.context.workspaceId
      ∧ e'.label.call.SameWork e.label.call)

/-- What `startRun` checks before it looks for a replay. -/
structure StartAdmitted (l : Label) (runId : EntityId) (idempotencyKey : String) : Prop where
  principal : ∃ actorKind, assertTrustedControlPlane l.capability l.context = .ok actorKind
  runId : validateAcpApprovalReference runId "runId" = .ok ()
  idempotencyKey : validateAcpApprovalReference idempotencyKey "idempotencyKey" = .ok ()

/-- The row that `failRun` leaves about a run when a stop code stops it. -/
structure StopRow (runId : EntityId) (row : AuditEvent) : Prop where
  action : row.action = .runStatusChanged
  entityId : row.entityId = runId
  nextStatus : row.after.lookup "nextStatus" = some (.text "STOPPED")

/-- No `startRun` that is admitted finds the row of a stop under its key. -/
def StartsUnstopped (_past : List (Entry Label (Except Failure Reply) Database))
    (e : Entry Label (Except Failure Reply) Database) : Prop :=
  ∀ runId expectedVersion idempotencyKey, e.label.call = .startRun runId expectedVersion idempotencyKey →
    StartAdmitted e.label runId idempotencyKey → ∀ row, e.before.findAuditEvent
      e.label.context.workspaceId .CONTROL_PLANE (idempotencyKey ++ ":run") = some row →
      ¬ StopRow runId row

/-- The failure codes of the calls. -/
def failureCodes (ls : List Label) : List String :=
  ls.filterMap fun l => match l.call with
    | .failRun _ _ failureCode _ => some failureCode
    | _ => none

theorem mem_failureCodes {l : Label} (hl : l ∈ ls)
    {failureCode : String}
    (hcall : l.call = .failRun runId expectedVersion failureCode idempotencyKey) :
    failureCode ∈ failureCodes ls :=
  List.mem_filterMap.mpr ⟨l, hl, by rw [hcall]⟩

/-- A key is what stands before its suffix. -/
theorem append_suffix_inj {a b suffix : String} (h : a ++ suffix = b ++ suffix) : a = b := by
  have htext := congrArg String.toList h
  rw [String.toList_append, String.toList_append] at htext
  exact String.toList_inj.mp (List.append_cancel_right htext)

/-- A replay of `startRun` repeats a start, or meets the row of a stop. -/
theorem startRun_replayed
    (h : (after sha256 dateParse ls).findAuditEvent workspaceId .CONTROL_PLANE
      (idempotencyKey ++ ":run") = some row) (haction : row.action = .runStatusChanged)
    (hentity : row.entityId = runId) :
    (after sha256 dateParse ls).acpRun.get? (key workspaceId runId) ≠ none
      ∧ (StopRow runId row ∨ ∃ e ∈ steps sha256 dateParse ls, NewWork e
        ∧ e.label.context.workspaceId = workspaceId
        ∧ ∃ expectedVersion, e.label.call = .startRun runId expectedVersion idempotencyKey) := by
  obtain ⟨e, he, hnew, hws, notice, hwrites, hkey, htype, hsubject, hfacts⟩ := traced h
  rw [haction] at htype
  rw [hentity] at hsubject
  cases hwrites with
  | started hcall hid =>
    have hsame := append_suffix_inj hkey
    have hrun : runId = _ := hsubject.trans hid
    subst hsame hrun
    exact ⟨hws ▸ (startRun_traced he hnew hcall).1, Or.inr ⟨e, he, hnew, hws, _, hcall⟩⟩
  | failed v hcall hid =>
    cases v with
    | retry => cases htype
    | fail => cases htype
    | stop =>
      have hrun : runId = _ := hsubject.trans hid
      subst hrun
      refine ⟨hws ▸ (failRun_traced he hnew hcall).1, Or.inl ⟨haction, hentity, ?_⟩⟩
      rw [hfacts]
      rfl
  | failedTask v => cases v <;> cases htype
  | _ => cases htype

/-- A replay of `failRun` repeats a failure with a code of the same digest. -/
theorem failRun_replayed {digest : String}
    {taskRow : AuditEvent} (h : (after sha256 dateParse ls).findAuditEvent workspaceId .CONTROL_PLANE
      (idempotencyKey ++ ":run") = some row) (hentity : row.entityId = runId)
    (htask : (after sha256 dateParse ls).findAuditEvent workspaceId .CONTROL_PLANE
      (idempotencyKey ++ ":task") = some taskRow)
    (hdigest : taskRow.after.lookup "failureCodeDigest" = some (.text digest)) :
    ∃ e ∈ steps sha256 dateParse ls, NewWork e ∧ e.label.context.workspaceId = workspaceId
      ∧ ∃ expectedVersion failureCode,
        e.label.call = .failRun runId expectedVersion failureCode idempotencyKey
          ∧ sha256 failureCode = digest := by
  obtain ⟨e, he, hnew, hws, notice, hwrites, hkey, -, -, hfacts⟩ := traced htask
  rw [hfacts] at hdigest
  cases hwrites with
  | failed v => cases v <;> cases hdigest
  | @failedTask runId' expectedVersion failureCode idempotencyKey' run retryRunId v hcall =>
    have hsame : idempotencyKey' = idempotencyKey := by
      cases v <;> exact append_suffix_inj hkey
    have hcode : sha256 failureCode = digest := by
      cases v <;> exact ObservableFact.text.inj (Option.some.inj hdigest)
    subst hsame
    -- The run that this call failed is the one its row is about.
    obtain ⟨-, row', hrow', hentity'⟩ := failRun_traced he hnew hcall
    rw [hws, h, Option.some.injEq] at hrow'
    have hrun : runId' = runId := by rw [← hentity', ← hrow', hentity]
    subst hrun
    exact ⟨e, he, hnew, hws, _, _, hcall, hcode⟩
  | _ => cases hdigest

/-- A replay of `completeRun` repeats a completion. -/
theorem completeRun_replayed
    (h : (after sha256 dateParse ls).findAuditEvent workspaceId .CONTROL_PLANE
      (idempotencyKey ++ ":run") = some row) (haction : row.action = .runCompleted)
    (hentity : row.entityId = runId) :
    ∃ e ∈ steps sha256 dateParse ls, NewWork e ∧ e.label.context.workspaceId = workspaceId
      ∧ ∃ expectedVersion, e.label.call = .completeRun runId expectedVersion idempotencyKey := by
  obtain ⟨e, he, hnew, hws, notice, hwrites, hkey, htype, hsubject, -⟩ := traced h
  rw [haction] at htype
  rw [hentity] at hsubject
  cases hwrites with
  | failed v => cases v <;> cases htype
  | failedTask v => cases v <;> cases htype
  | completed hcall hid =>
    have hsame := append_suffix_inj hkey
    have hrun : runId = _ := hsubject.trans hid
    subst hsame hrun
    exact ⟨e, he, hnew, hws, _, hcall⟩
  | _ => cases htype

/-! ## When replays are faithful -/

section Step

variable {l : Label}

/-- A committed `startRun` was admitted. -/
theorem startAdmitted_of_commits {s s' : Session} {reply : Reply}
    (h : Commits (startRun dateParse l.supply l.capability l.context runId expectedVersion
      idempotencyKey) s reply s') : StartAdmitted l runId idempotencyKey := by
  unfold startRun at h
  simp only [commits_check_bind] at h
  obtain ⟨actorKind, hprincipal, _, hid, _, hkey, -⟩ := h
  exact ⟨⟨actorKind, hprincipal⟩, hid, hkey⟩

/-- An admitted `startRun` that finds a status change of its run answers a replay. -/
theorem commits_startRun_replay {s : Session}
    {run : AcpRun} (expectedVersion : Int)
    (hadmitted : StartAdmitted l runId idempotencyKey)
    (hrow : s.database.findAuditEvent l.context.workspaceId .CONTROL_PLANE (idempotencyKey ++ ":run")
      = some row) (haction : row.action = .runStatusChanged) (hentity : row.entityId = runId)
    (hrun : s.database.acpRun.get? (key l.context.workspaceId runId) = some run) :
    Commits (startRun dateParse l.supply l.capability l.context runId expectedVersion idempotencyKey)
      s (.start run true) s := by
  obtain ⟨actorKind, hprincipal⟩ := hadmitted.principal
  unfold startRun
  simp only [commits_check_bind, commits_read_bind]
  refine ⟨actorKind, hprincipal, (), hadmitted.runId, (), hadmitted.idempotencyKey, ?_⟩
  simp only [hrow, haction, hentity, ne_eq, not_true_eq_false, or_self, commits_check_bind,
    throwIf_eq_ok, not_false_eq_true, exists_const, commits_findRunOrThrow_bind, commits_pure]
  exact ⟨trivial, run, hrun, rfl, trivial⟩

/-- A replay that meets no row of a stop is faithful. -/
theorem faithful_of_startsUnstopped
    (hcodes : ∀ code ∈ failureCodes (ls ++ [l]), ∀ code' ∈ failureCodes (ls ++ [l]),
      sha256 code = sha256 code' → code = code')
    (h : StartsUnstopped (steps sha256 dateParse ls)
      (entryAt (step sha256 dateParse) (after sha256 dateParse ls) l)) :
    Faithful (steps sha256 dateParse ls)
      (entryAt (step sha256 dateParse) (after sha256 dateParse ls) l) := by
  intro reply hreply hreplayed
  obtain ⟨s', hcommits, hdb⟩ := commits_of_step hreply
  have hsame : s'.database = after sha256 dateParse ls →
      (entryAt (step sha256 dateParse) (after sha256 dateParse ls) l).after
        = (entryAt (step sha256 dateParse) (after sha256 dateParse ls) l).before := hdb.trans
  -- New work is no replay.
  have hold : ∀ {p : Prop}, reply.replayed = false → p := fun hnew => by
    rw [hreplayed] at hnew
    cases hnew
  unfold perform at hcommits
  cases hcall : l.call with
  | createPlan input =>
    rw [hcall] at hcommits
    rcases createPlan_spec hcommits with ⟨-, rfl⟩ | ⟨hnew, -⟩
    · exact ⟨hsame rfl, fun hon => by simp [entryAt, hcall, Call.OnRun] at hon⟩
    · exact hold hnew
  | reserveAssignment evidence expectedVersion idempotencyKey verified =>
    rw [hcall] at hcommits
    rcases reserveAssignment_spec hcommits with ⟨-, rfl⟩ | ⟨_, _, _, hnew, -⟩
    · exact ⟨hsame rfl, fun hon => by simp [entryAt, hcall, Call.OnRun] at hon⟩
    · exact hold hnew
  | recordArtifact evidence idempotencyKey verified =>
    rw [hcall] at hcommits
    rcases recordArtifact_spec hcommits with ⟨-, rfl⟩ | ⟨_, _, _, hnew, -⟩
    · exact ⟨hsame rfl, fun hon => by simp [entryAt, hcall, Call.OnRun] at hon⟩
    · exact hold hnew
  | startRun runId expectedVersion idempotencyKey =>
    rw [hcall] at hcommits
    have hadmitted := startAdmitted_of_commits hcommits
    rcases startRun_spec hcommits with ⟨run, row, -, rfl, hrow, haction, hentity⟩ | ⟨_, _, _, hnew, -⟩
    · refine ⟨hsame rfl, fun _ => ?_⟩
      rcases (startRun_replayed hrow haction hentity).2 with hstop | ⟨e, he, hwork, hws, _, hearlier⟩
      · exact absurd hstop (h runId expectedVersion idempotencyKey hcall hadmitted row hrow)
      · refine ⟨e, he, hwork, hws, ?_⟩
        rw [hearlier]
        show Call.SameWork _ l.call
        rw [hcall]
        exact ⟨rfl, rfl⟩
    · exact hold hnew
  | failRun runId expectedVersion failureCode idempotencyKey =>
    rw [hcall] at hcommits
    rcases failRun_spec hcommits with
      ⟨run, row, taskRow, -, rfl, hrow, -, hentity, htask, hdigest⟩ | ⟨_, _, _, _, hnew, -⟩
    · refine ⟨hsame rfl, fun _ => ?_⟩
      obtain ⟨e, he, hwork, hws, _, failureCode', hearlier, hdigest'⟩ :=
        failRun_replayed hrow hentity htask hdigest
      obtain ⟨pre, post, hsplit, -⟩ := effect_of_mem_steps he
      -- The digests agree, so the codes do.
      have hcode : failureCode' = failureCode :=
        hcodes _ (mem_failureCodes (List.mem_append_left _ (by rw [hsplit]; simp)) hearlier) _
          (mem_failureCodes (List.mem_append_right _ (List.mem_singleton_self l)) hcall) hdigest'
      refine ⟨e, he, hwork, hws, ?_⟩
      rw [hearlier]
      show Call.SameWork _ l.call
      rw [hcall]
      exact ⟨rfl, hcode, rfl⟩
    · exact hold hnew
  | completeRun runId expectedVersion idempotencyKey =>
    rw [hcall] at hcommits
    rcases completeRun_spec hcommits with ⟨run, row, -, rfl, hrow, haction, hentity⟩
      | ⟨_, _, _, _, hnew, -⟩
    · refine ⟨hsame rfl, fun _ => ?_⟩
      obtain ⟨e, he, hwork, hws, _, hearlier⟩ := completeRun_replayed hrow haction hentity
      refine ⟨e, he, hwork, hws, ?_⟩
      rw [hearlier]
      show Call.SameWork _ l.call
      rw [hcall]
      exact ⟨rfl, rfl⟩
    · exact hold hnew

/-- The row of a stop makes a replay of `startRun` unfaithful. -/
theorem startsUnstopped_of_faithful
    (h : Faithful (steps sha256 dateParse ls) (entryAt (step sha256 dateParse) (after sha256 dateParse ls) l)) :
    StartsUnstopped (steps sha256 dateParse ls)
      (entryAt (step sha256 dateParse) (after sha256 dateParse ls) l) := by
  intro runId expectedVersion idempotencyKey (hcall : l.call = _) hadmitted row hrow hstop
  obtain ⟨run, hrun⟩ :=
    Option.ne_none_iff_exists'.mp (startRun_replayed hrow hstop.action hstop.entityId).1
  -- The call answers a replay of the run that was stopped.
  have hcommits : Commits (perform sha256 dateParse l) ⟨after sha256 dateParse ls, 0, 0⟩
      (.start run true) ⟨after sha256 dateParse ls, 0, 0⟩ := by
    unfold perform
    rw [hcall]
    exact commits_startRun_replay expectedVersion hadmitted hrow hstop.action hstop.entityId hrun
  have hreply : (step sha256 dateParse l (after sha256 dateParse ls)).1 = .ok (.start run true) :=
    congrArg Prod.fst (commit_eq_ok.mpr hcommits)
  have hon : Call.OnRun l.call := by
    rw [hcall]
    exact trivial
  obtain ⟨e, he, hwork, hws, hsame⟩ := (h _ hreply rfl).2 hon
  have hws : e.label.context.workspaceId = l.context.workspaceId := hws
  have hsame : e.label.call.SameWork l.call := hsame
  rw [hcall] at hsame
  cases hearlier : e.label.call with
  | startRun runId' expectedVersion' idempotencyKey' =>
    rw [hearlier] at hsame
    obtain ⟨rfl, rfl⟩ := hsame
    -- A start leaves the row of a start under its key, and there is one row under a key.
    obtain ⟨-, run', row', hrow', hstart⟩ := startRun_traced he hwork hearlier
    rw [hws] at hrow'
    have hrows : row = row' := Option.some.inj (hrow.symm.trans hrow')
    have hnext := hstop.nextStatus
    rw [hrows, hstart.after] at hnext
    have hstatus : some (ObservableFact.text "RUNNING") = some (.text "STOPPED") := hnext
    simp at hstatus
  | _ => exact absurd hsame (by rw [hearlier]; exact id)

end Step

/-- **Replays are faithful** iff no `startRun` meets the row of a stop under its key: a call that answers
a replay has changed nothing and repeats an earlier call, when the digest tells the failure codes apart. -/
theorem replays_faithful_iff {ls : List Label}
    (hcodes : ∀ code ∈ failureCodes ls, ∀ code' ∈ failureCodes ls, sha256 code = sha256 code' → code = code') :
    EachStep Faithful [] (steps sha256 dateParse ls)
      ↔ EachStep StartsUnstopped [] (steps sha256 dateParse ls) := by
  unfold steps
  rw [eachStep_history, eachStep_history]
  refine forall₄_congr fun pre l post hsplit => ⟨startsUnstopped_of_faithful, ?_⟩
  have hearlier : ∀ code ∈ failureCodes (pre ++ [l]), code ∈ failureCodes ls := by
    intro code hcode
    rw [hsplit, List.append_cons]
    unfold failureCodes at hcode ⊢
    rw [List.filterMap_append]
    exact List.mem_append_left _ hcode
  exact faithful_of_startsUnstopped fun code hcode code' hcode' =>
    hcodes code (hearlier code hcode) code' (hearlier code' hcode')

end Replays

/-! ## A sample run of the service -/

namespace Sample

/-- A task that the failure code `S` stops. -/
def task : DurableTaskPlanInput where
  id := "a"
  projectId := "p"
  title := "t"
  kind := "runtime.health.check"
  dependencyIds := []
  requiredAuthority := 0
  costLimit := ⟨"USD", 0, 0⟩
  estimatedDurationMs := 1
  acceptanceCriteria := ["x"]
  verificationCriteria := ["x"]
  stopConditions := ["s"]
  retryPolicy := ⟨1, ["R"], ["S"]⟩
  agentPolicy := []
  routingPolicy := []
  approval := none

def plan : DurableObjectivePlanInput where
  workspaceId := "w"
  idempotencyKey := "k"
  policyVersion := "v"
  objective := ⟨"o", "t", "d", 0, ⟨"USD", 0, 0⟩, ["c"], ["c"], ["s"]⟩
  projects := [⟨"p", "t"⟩]
  tasks := [task]

/-- The digests of the texts that the sample run hashes: a failure code, the policy of the task and the
policy of the plan. -/
def sha256 (text : String) : String :=
  if text = "S" then "8de0b3c47f112c59745f717a626932264c422a7563954872e237b223af4ad643"
  else if text = String.ofList (canonical (buildDurableTaskPolicySnapshot plan task).toJson).text then
    "79900094dc0daaf21dfd91e2c3e9629e5280841ecf1445b9282e1d9a002ade47"
  else "00b33e39e6c2f20ad64076d07093dd363307a1246fc248d3f07d2e53999eebcc"

def dateParse (text : String) : Option Int :=
  if text = "1970-01-01T00:00:00.000Z" then some 0 else none

/-- The `n`-th call: it draws identifiers of its own, at the epoch. -/
def label (source : EventSource) (binding : OperationalEventPrincipalBinding) (n : Nat) (call : Call) :
    Label where
  capability := ⟨source, [binding]⟩
  context := ⟨binding.workspaceId, binding.principalId⟩
  supply := ⟨fun k => String.ofList ('u' :: Nat.toDigits 10 n ++ '-' :: Nat.toDigits 10 k), fun _ => 0⟩
  call := call

def planned (n : Nat) (call : Call) : Label := label .AI_COO ⟨"w", "p", .AGENT, some ⟨1, by decide⟩⟩ n call

def controlled (n : Nat) (call : Call) : Label := label .CONTROL_PLANE ⟨"w", "p", .SYSTEM, none⟩ n call

def assignment : TrustedAssignmentEvidence where
  evidenceId := "e"
  evidenceHash := "8de0b3c47f112c59745f717a626932264c422a7563954872e237b223af4ad643"
  taskId := "a"
  runId := "u0-4"
  agentId := "agent"
  runtimeId := "runtime"
  connectionId := "connection"

/-- The first run of the task is assigned and stopped. -/
def stopped : List Label :=
  [planned 0 (.createPlan plan), controlled 1 (.reserveAssignment assignment 1 "k1" (.ok true)),
    controlled 2 (.failRun "u0-4" 2 "S" "f")]

/-- Then a start under the key of the failure answers a replay. -/
def stoppedStarted : List Label := stopped ++ [controlled 3 (.startRun "u0-4" 2 "f")]

set_option maxRecDepth 100000 in
/-- What the calls answer. -/
theorem replayed_stoppedStarted :
    (steps sha256 dateParse stoppedStarted).map (fun e => (e.outcome.toOption.map Reply.replayed))
      = [some false, some false, some false, some true] := by
  decide +kernel

end Sample

/-- The one failure code of the sample run collides with no other. -/
theorem stopped_start_faithful_iff :
    EachStep Faithful [] (steps Sample.sha256 Sample.dateParse Sample.stoppedStarted)
      ↔ EachStep StartsUnstopped [] (steps Sample.sha256 Sample.dateParse Sample.stoppedStarted) :=
  replays_faithful_iff (by decide)

/-- A start under the key of a failure that stopped the run answers that it was made before, and it was
not. -/
theorem stopped_start_not_faithful :
    ¬ EachStep Faithful [] (steps Sample.sha256 Sample.dateParse Sample.stoppedStarted) := by
  intro h
  have hsteps : steps Sample.sha256 Sample.dateParse Sample.stoppedStarted
      = steps Sample.sha256 Sample.dateParse Sample.stopped
        ++ [entryAt (step Sample.sha256 Sample.dateParse)
          (after Sample.sha256 Sample.dateParse Sample.stopped)
          (Sample.controlled 3 (.startRun "u0-4" 2 "f"))] :=
    history_concat _ _ _ _
  -- The last call answers a replay.
  have hlast := congrArg List.getLast? Sample.replayed_stoppedStarted
  rw [hsteps, List.map_append, List.map_singleton, List.getLast?_concat] at hlast
  obtain ⟨reply, hreply, hreplayed⟩ := Option.map_eq_some_iff.mp (Option.some.inj hlast)
  rw [hsteps, eachStep_concat, List.nil_append] at h
  obtain ⟨-, hsame⟩ := h.2 reply (except_toOption_eq_some.mp hreply) hreplayed
  obtain ⟨e, he, -, -, hsame⟩ := hsame trivial
  -- No call before it is a start.
  obtain ⟨pre, post, hsplit, -⟩ := effect_of_mem_steps he
  have hmem : e.label ∈ Sample.stopped := by
    rw [hsplit]
    exact List.mem_append_right _ List.mem_cons_self
  have hnone : ∀ l ∈ Sample.stopped, ¬ l.call.SameWork (.startRun "u0-4" 2 "f") := by
    simp [Sample.stopped, Sample.planned, Sample.controlled, Sample.label, Call.SameWork]
  exact hnone _ hmem hsame

end VentureOS.Durable
