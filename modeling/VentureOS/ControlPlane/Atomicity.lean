import VentureOS.ControlPlane.Admission

/-! # Mutators and the event log

With an `InMemoryOperationalEventLog` as its sink, a mutator of the control plane changes two
things, its records and the log. `Atomic` says that it changes both or none: a call that throws
leaves the records and the log as they were, and an accepted one adds one event, which describes the
change made.

`transitionTask` reports before it tests whether the transition is legal, so it can leave an event
for a change it then refuses (`ReportsUnmade`). The mutators fail to be atomic in no other way. -/

namespace VentureOS.ControlPlane

open Program

/-- The control plane reports to an in-memory event log. -/
def Options.withLog (options : Options EventLog) (capability : OperationalEventCapability) :
    Options EventLog :=
  { options with eventSink := some (EventLog.sink options.dateParse, capability) }

/-- The synchronous mutators that report to the event sink. -/
def Call.Mutates : Call → Prop
  | .putConnection _ _ => True
  | .recordHeartbeat _ _ => True
  | .createTask _ _ => True
  | .transitionTask _ _ _ => True
  | .startRun _ _ => True
  | .transitionRun _ _ _ => True
  | .appendEvent _ _ => True
  | .recordUsage _ _ => True
  | _ => False

/-! ## Atomic calls -/

/-- The event is the report, signed by the caller at the time of the call. -/
def Reports (readings : Readings) (context : WorkspaceContext) (report : EventReport)
    (event : OperationalEvent) : Prop :=
  ∃ actorKind occurredAt, toISOString readings.now = some occurredAt ∧
    event = operationalEvent readings context actorKind occurredAt report

/-- **The event describes the change** that the call made of the plane `before`: it names the record
that was written, and the plane `after` differs by that record, or for a run by the run and the task
it moves along. -/
def Describes (readings : Readings) (before after : Plane) (event : OperationalEvent) : Call → Prop
  | .putConnection context connection =>
    Reports readings context (connectionReport connection) event ∧
      after = { before with connections := before.connections.put connection }
  | .recordHeartbeat context heartbeat =>
    Reports readings context (heartbeatReport heartbeat) event ∧
      after = { before with heartbeats := before.heartbeats.put heartbeat }
  | .createTask context task =>
    Reports readings context (taskReport task) event ∧
      after = { before with tasks := before.tasks.put task }
  | .transitionTask context taskId next =>
    ∃ task, before.tasks.get? (key context.workspaceId taskId) = some task ∧
      Reports readings context (taskStatusReport task next) event ∧
      after = { before with tasks := before.tasks.put { task with status := next } }
  | .startRun context run =>
    Reports readings context (runReport run) event ∧
      after = { before with runs := before.runs.put run }
  | .transitionRun context runId next =>
    ∃ run task now, before.runs.get? (key context.workspaceId runId) = some run ∧
      before.tasks.get? (key run.workspaceId run.taskId) = some task ∧
      Reports readings context (runStatusReport run next) event ∧
      after = { before with
        runs := before.runs.put (transitionedRun run next now)
        tasks := tasksAfter before.tasks task (taskStatusAfter run.status next) }
  | .appendEvent _ recorded =>
    (∃ actorKind, event = projectedEvent recorded actorKind) ∧
      after = { before with
        eventsById := before.eventsById.put recorded
        eventIdempotency := before.eventIdempotency.set
          (key recorded.workspaceId recorded.idempotencyKey) recorded.id }
  | .recordUsage context usage =>
    Reports readings context (usageReport usage) event ∧
      after = { before with usage := before.usage.put usage }
  | _ => False

/-- The log gained one event, at its end. -/
def Appended (before after : EventLog) (event : OperationalEvent) : Prop :=
  after = before.write event ∧ after.events.values = before.events.values ++ [event]

/-- A log that gained an event is another log. -/
theorem Appended.ne {before after : EventLog} {event : OperationalEvent}
    (h : Appended before after event) : after ≠ before := by
  intro heq
  have hlength := congrArg List.length (heq ▸ h.2)
  simp at hlength

/-- **All or nothing.** A call that throws leaves the records and the log as they were; a call that
returns adds one event to the log, and the event describes the change made. -/
def Atomic (readings : Readings) (call : Call) (before : World EventLog)
    (outcome : Except Failure Answer) (after : World EventLog) : Prop :=
  match outcome with
  | .error _ => after = before
  | .ok _ => ∃ event, Appended before.sink after.sink event ∧
      Describes readings before.plane after.plane event call

/-! ## Reporting to the log -/

section Reporting

variable (options : Options EventLog) (capability : OperationalEventCapability)
  (readings : Readings)

/-- The log accepts the report: the caller is bound to an actor kind, the time can be written, and
the event passes the checks of the log. -/
def LogAccepts (context : WorkspaceContext) (report : EventReport) (log : EventLog) : Prop :=
  ∃ actorKind occurredAt, capability.actorKindFor context = .ok actorKind ∧
    isoTime readings.now = .ok occurredAt ∧
    EventLog.checkBatch options.dateParse log capability context [] []
      [operationalEvent readings context actorKind occurredAt report] = .ok ()

theorem toISOString_of_isoTime {now : Int} {text : String} (h : isoTime now = .ok text) :
    toISOString now = some text := by
  unfold isoTime at h
  split at h
  · rename_i written hwritten
    rw [hwritten]
    simpa using h
  · cases h

/-- Appending to the log adds the event at its end, or throws and leaves the log alone. -/
theorem ensures_append (context : WorkspaceContext) (event : OperationalEvent)
    (w : World EventLog) :
    Ensures (onSink ((EventLog.sink options.dateParse).append capability context event)) w
      (fun r w' => r = EventLog.checkBatch options.dateParse w.sink capability context [] [] [event]
        ∧ match r with
          | .ok _ => w'.plane = w.plane ∧ Appended w.sink w'.sink event
          | .error _ => w' = w) := by
  rw [ensures_onSink]
  -- The checks decide the outcome, and only a batch that passes them is written.
  have hdecided := EventLog.append_decided options.dateParse capability context event w.sink
  have hspec := EventLog.append_spec options.dateParse capability context event w.sink
  refine (hdecided.and hspec).mono fun r log h => ⟨h.1, ?_⟩
  cases r with
  | error e =>
    obtain ⟨-, rfl⟩ := h
    rfl
  | ok _ =>
    obtain ⟨-, -, hfresh, rfl⟩ := h
    exact ⟨rfl, rfl, OrderedMap.values_set_of_fresh event hfresh⟩

/-- **Reporting is atomic,** and whether it succeeds is decided by the log. -/
theorem emitOperationalEvent_log (context : WorkspaceContext) (report : EventReport)
    (w : World EventLog) :
    Ensures (emitOperationalEvent (options.withLog capability) readings context report) w
      (fun r w' => match r with
        | .ok _ => LogAccepts options capability readings context report w.sink ∧
            w'.plane = w.plane ∧
            ∃ event, Reports readings context report event ∧ Appended w.sink w'.sink event
        | .error _ => ¬ LogAccepts options capability readings context report w.sink ∧ w' = w) := by
  show Ensures (liftM (capability.actorKindFor context) >>= _) w _
  rw [ensures_lift_bind]
  refine ⟨fun e hactor => ⟨?_, rfl⟩, fun actorKind hactor => ?_⟩
  · rintro ⟨actorKind, -, hok, -⟩
    rw [hactor] at hok
    cases hok
  rw [ensures_lift_bind]
  refine ⟨fun e htime => ⟨?_, rfl⟩, fun occurredAt htime => ?_⟩
  · rintro ⟨-, occurredAt, -, hok, -⟩
    rw [htime] at hok
    cases hok
  refine (ensures_append options capability context _ w).mono fun r w' h => ?_
  cases r with
  | error e =>
    refine ⟨?_, h.2⟩
    rintro ⟨actorKind', occurredAt', hactor', htime', hcheck⟩
    obtain rfl : actorKind = actorKind' := by rw [hactor] at hactor'; simpa using hactor'
    obtain rfl : occurredAt = occurredAt' := by rw [htime] at htime'; simpa using htime'
    rw [← h.1] at hcheck
    cases hcheck
  | ok _ =>
    obtain ⟨hcheck, hplane, happended⟩ := h
    exact ⟨⟨actorKind, occurredAt, hactor, htime, hcheck.symm⟩, hplane, _,
      ⟨actorKind, occurredAt, toISOString_of_isoTime htime, rfl⟩, happended⟩

/-- The report of `appendEvent` is atomic. -/
theorem emitProjectedEvent_log (context : WorkspaceContext) (event : ControlPlaneEvent)
    (w : World EventLog) :
    Ensures (emitProjectedEvent (options.withLog capability) context event) w
      (fun r w' => match r with
        | .ok _ => w'.plane = w.plane ∧
            ∃ reported, (∃ actorKind, reported = projectedEvent event actorKind) ∧
              Appended w.sink w'.sink reported
        | .error _ => w' = w) := by
  -- However the actor kind is found, the append is the same.
  have happend : ∀ actorKind, Ensures
      (onSink ((EventLog.sink options.dateParse).append capability context (projectedEvent event actorKind))) w
      (fun r w' => match r with
        | .ok _ => w'.plane = w.plane ∧
            ∃ reported, (∃ actorKind, reported = projectedEvent event actorKind) ∧
              Appended w.sink w'.sink reported
        | .error _ => w' = w) := by
    intro actorKind
    refine (ensures_append options capability context _ w).mono fun r w' h => ?_
    cases r with
    | error e => exact h.2
    | ok _ => exact ⟨h.2.1, _, ⟨actorKind, rfl⟩, h.2.2⟩
  simp only [emitProjectedEvent, Options.withLog]
  split
  · rw [pure_bind]
    exact happend _
  · rw [ensures_lift_bind]
    exact ⟨fun _ _ => rfl, fun actorKind _ => happend actorKind⟩

/-! ## The mutators one by one -/

variable {w : World EventLog} {readings}

/-- An operation that answers `done` is atomic if its body is. -/
theorem atomic_done {x : Op EventLog Unit} {call : Call}
    (h : Ensures x w (fun r w' => match r with
      | .ok _ => ∃ event, Appended w.sink w'.sink event ∧
          Describes readings w.plane w'.plane event call
      | .error _ => w' = w)) :
    Ensures (do x; return Answer.done) w (Atomic readings call w) := by
  rw [ensures_bind]
  refine h.mono fun r w' hr => ?_
  cases r with
  | ok _ => exact hr
  | error e => exact hr

/-- An operation that makes all its checks, reports and then writes is atomic. -/
theorem atomic_checked {check : Plane → Except Failure Unit} {emit : Op EventLog Unit}
    {write : Plane → Plane} {call : Call} {R : OperationalEvent → Prop}
    (hemit : Ensures emit w (fun r w' => match r with
      | .ok _ => w'.plane = w.plane ∧ ∃ event, R event ∧ Appended w.sink w'.sink event
      | .error _ => w' = w))
    (hwrite : ∀ event, R event → Describes readings w.plane (write w.plane) event call) :
    Ensures (do
        (do
          let plane ← readPlane
          check plane
          emit
          writePlane write)
        return Answer.done) w (Atomic readings call w) := by
  refine atomic_done ?_
  rw [ensures_readPlane_bind, ensures_lift_bind]
  refine ⟨fun e _ => rfl, fun _ _ => ?_⟩
  rw [ensures_bind]
  refine hemit.mono fun r w' hr => ?_
  cases r with
  | error e => exact hr
  | ok _ =>
    obtain ⟨hplane, event, hreport, happended⟩ := hr
    rw [ensures_writePlane, hplane]
    exact ⟨event, happended, hwrite event hreport⟩

/-- What a report to the log does, without its acceptance. -/
theorem emitOperationalEvent_appends (context : WorkspaceContext) (report : EventReport) :
    Ensures (emitOperationalEvent (options.withLog capability) readings context report) w
      (fun r w' => match r with
        | .ok _ => w'.plane = w.plane ∧
            ∃ event, Reports readings context report event ∧ Appended w.sink w'.sink event
        | .error _ => w' = w) := by
  refine (emitOperationalEvent_log options capability readings context report w).mono ?_
  intro r w' h
  cases r with
  | ok _ => exact h.2
  | error e => exact h.2

/-- `putConnection` undoes its write when its last test or its report fails. -/
theorem putConnection_atomic (context : WorkspaceContext) (connection : RuntimeConnection) :
    Ensures (do putConnection (options.withLog capability) readings context connection
                return Answer.done) w (Atomic readings (.putConnection context connection) w) := by
  refine atomic_done ?_
  unfold putConnection
  rw [ensures_readPlane_bind, ensures_lift_bind]
  refine ⟨fun e _ => rfl, fun _ _ => ?_⟩
  rw [ensures_writePlane_bind, ensures_bind, ensures_tryCatch, ensures_readPlane_bind, ensures_lift]
  -- The record is written first; both the failed test and the failed report undo it.
  split
  · rw [ensures_tryCatch]
    refine (emitOperationalEvent_appends options capability context _).mono fun r w' hr => ?_
    cases r with
    | ok _ =>
      obtain ⟨hplane, event, hreport, happended⟩ := hr
      exact ⟨event, happended, hreport, hplane⟩
    | error e =>
      obtain rfl := hr
      exact ensures_restore w e rfl rfl
  · exact ensures_restore w _ rfl rfl

/-- `transitionRun` makes its last check before it reports. -/
theorem transitionRun_atomic (context : WorkspaceContext) (runId : EntityId) (next : RunStatus) :
    Ensures (do transitionRun (options.withLog capability) readings context runId next
                return Answer.done) w (Atomic readings (.transitionRun context runId next) w) := by
  refine atomic_done ?_
  unfold transitionRun
  rw [ensures_readPlane_bind, ensures_lift_bind]
  refine ⟨fun e _ => rfl, fun (run, task) hadmitted => ?_⟩
  rw [ensures_lift_bind]
  refine ⟨fun e _ => rfl, fun now _ => ?_⟩
  rw [ensures_bind]
  refine (emitOperationalEvent_appends options capability context _).mono fun r w' hr => ?_
  cases r with
  | error e => exact hr
  | ok _ =>
    obtain ⟨hplane, event, hreport, happended⟩ := hr
    have hfound := RunTransitionAdmitted.of_ok hadmitted
    rw [ensures_writePlane, hplane]
    exact ⟨event, happended, run, task, now, hfound.found, hfound.task_found, hreport, rfl⟩

/-! ## Reports of changes that are not made -/

/-- **The call reports a change it does not make:** it asks for a task transition that passes the
checks made before the report and that the log accepts, but that the transition table refuses. -/
def ReportsUnmade (label : Label) (w : World EventLog) : Prop :=
  match label.call with
  | .transitionTask context taskId next => ∃ task,
      admitTaskTransition (options.withLog capability) label.readings w.plane context taskId next
        = .ok task ∧
      LogAccepts options capability label.readings context (taskStatusReport task next) w.sink ∧
      next ∉ taskTransitions task.status
  | _ => False

/-- Only a mutator reports. -/
theorem ReportsUnmade.mutates {options capability} {label : Label}
    (h : ReportsUnmade options capability label w) : label.call.Mutates := by
  obtain ⟨readings, call⟩ := label
  cases call with
  | transitionTask context taskId next => trivial
  | _ => exact h.elim

/-- `transitionTask` is atomic unless it reports a change it does not make. -/
theorem transitionTask_atomic_iff (context : WorkspaceContext) (taskId : EntityId)
    (next : TaskStatus) :
    Ensures (do transitionTask (options.withLog capability) readings context taskId next
                return Answer.done) w
      (fun r w' => Atomic readings (.transitionTask context taskId next) w r w' ↔
        ¬ ReportsUnmade options capability ⟨readings, .transitionTask context taskId next⟩ w) := by
  rw [ensures_bind]
  unfold transitionTask
  rw [ensures_readPlane_bind, ensures_lift_bind]
  refine ⟨fun e hrefused => iff_of_true rfl ?_, fun task hadmitted => ?_⟩
  · rintro ⟨task, hadmitted, -⟩
    rw [hrefused] at hadmitted
    cases hadmitted
  rw [ensures_bind]
  refine (emitOperationalEvent_log options capability readings context _ w).mono fun r w' hr => ?_
  -- The checks before the report are passed, for this task and no other.
  have hunmade :
      ReportsUnmade options capability ⟨readings, .transitionTask context taskId next⟩ w ↔
      LogAccepts options capability readings context (taskStatusReport task next) w.sink ∧
        next ∉ taskTransitions task.status := by
    refine ⟨?_, fun h => ⟨task, hadmitted, h⟩⟩
    rintro ⟨task', hadmitted', h⟩
    rw [hadmitted, Except.ok.injEq] at hadmitted'
    exact hadmitted' ▸ h
  rw [hunmade]
  cases r with
  | error e => exact iff_of_true hr.2 fun h => hr.1 h.1
  | ok _ =>
    obtain ⟨haccepts, hplane, event, hreport, happended⟩ := hr
    show Ensures (transitionTaskRecord task next) w' _
    unfold transitionTaskRecord
    rw [ensures_lift_bind, ensures_writePlane, hplane]
    simp only [throwIf_eq_error, throwIf_eq_ok, not_not]
    refine ⟨fun e hillegal => iff_of_false ?_ fun h => h ⟨haccepts, hillegal.1⟩,
      fun _ hlegal => iff_of_true ?_ fun h => h.2 hlegal⟩
    · intro hsame
      exact happended.ne (congrArg World.sink hsame)
    · have hfound := (TaskTransitionAdmitted.of_ok hadmitted).found
      exact ⟨event, happended, task, hfound, hreport, rfl⟩

/-- **Each mutator is atomic unless it reports a change it does not make.** -/
theorem perform_atomic_iff (label : Label) (w : World EventLog) (h : label.call.Mutates) :
    Atomic label.readings label.call w (perform (options.withLog capability) label w).1
        (perform (options.withLog capability) label w).2 ↔
      ¬ ReportsUnmade options capability label w := by
  obtain ⟨readings, call⟩ := label
  cases call with
  | putConnection context connection =>
    exact iff_of_true (putConnection_atomic options capability context connection) id
  | recordHeartbeat context heartbeat =>
    exact iff_of_true (atomic_checked (emitOperationalEvent_appends options capability context _)
      fun event hreport => ⟨hreport, rfl⟩) id
  | createTask context task =>
    exact iff_of_true (atomic_checked (emitOperationalEvent_appends options capability context _)
      fun event hreport => ⟨hreport, rfl⟩) id
  | transitionTask context taskId next =>
    exact transitionTask_atomic_iff options capability context taskId next
  | startRun context run =>
    exact iff_of_true (atomic_checked (emitOperationalEvent_appends options capability context _)
      fun event hreport => ⟨hreport, rfl⟩) id
  | transitionRun context runId next =>
    exact iff_of_true (transitionRun_atomic options capability context runId next) id
  | appendEvent context event =>
    exact iff_of_true (atomic_checked (emitProjectedEvent_log options capability context event w)
      fun reported hreport => ⟨hreport, rfl⟩) id
  | recordUsage context usage =>
    exact iff_of_true (atomic_checked (emitOperationalEvent_appends options capability context _)
      fun event hreport => ⟨hreport, rfl⟩) id
  | _ => exact h.elim

end Reporting

/-- **Atomicity of the mutators.** Over every run of the control plane with an in-memory event log,
every call of a mutator is atomic iff no step asks for a task transition that passes all checks made
before its report, that the log accepts and that the transition table refuses. -/
theorem mutators_atomic_iff (options : Options EventLog) (capability : OperationalEventCapability)
    (log : EventLog) (labels : List Label) :
    (∀ e ∈ trace (options.withLog capability) log labels, e.label.call.Mutates →
      Atomic e.label.readings e.label.call e.before e.outcome e.after) ↔
    ∀ e ∈ trace (options.withLog capability) log labels,
      ¬ ReportsUnmade options capability e.label e.before := by
  refine forall₂_congr fun e he => ?_
  obtain ⟨pre, l, post, -, rfl⟩ := eq_entryAt_of_mem_history _ he
  have hiff := perform_atomic_iff options capability l (reach (options.withLog capability) log pre)
  exact ⟨fun h hunmade => (hiff hunmade.mutates).mp (h hunmade.mutates) hunmade,
    fun h hmutates => (hiff hmutates).mpr h⟩

/-- A run that ends in the report of a change that is not made is not atomic throughout. -/
theorem not_atomic_of_reportsUnmade {options : Options EventLog}
    {capability : OperationalEventCapability} {log : EventLog} {labels : List Label} {l : Label}
    (h : ReportsUnmade options capability l (reach (options.withLog capability) log labels)) :
    ¬ ∀ e ∈ trace (options.withLog capability) log (labels ++ [l]), e.label.call.Mutates →
      Atomic e.label.readings e.label.call e.before e.outcome e.after := by
  intro hatomic
  have hlast := hatomic _ (mem_trace_concat (options.withLog capability) log labels l) h.mutates
  exact (perform_atomic_iff options capability l _ h.mutates).mp hlast h

namespace Sample

/-- The options of the sample run, for an event log. -/
def loggedOptions : Options EventLog where
  dateParse := dateParse
  eventSink := none
  heartbeatFreshnessMs := 300000
  authorityPrincipals := ["f"]
  plannerPrincipals := []

/-- The authorizer reports as a human. -/
def capability : OperationalEventCapability := ⟨.CONTROL_PLANE, [⟨"w", "f", .HUMAN, none⟩]⟩

/-- The connection is set up and the health check is created; both are reported. -/
def loggedSetup : List Label :=
  setup.take 9 ++ [⟨⟨0, "", "j"⟩, .createTask founder task⟩]

/-- The authorizer asks for the transition of the task from `READY` to `READY`. -/
def illegal : Label := ⟨⟨0, "", "m"⟩, .transitionTask founder "k" .READY⟩

end Sample

/-- A refused transition leaves an event in the log. -/
theorem illegal_task_transition_not_atomic :
    ¬ ∀ e ∈ trace (Sample.loggedOptions.withLog Sample.capability) EventLog.empty
        (Sample.loggedSetup ++ [Sample.illegal]),
      e.label.call.Mutates →
        Atomic e.label.readings e.label.call e.before e.outcome e.after := by
  refine not_atomic_of_reportsUnmade ?_
  have hadmitted : (admitTaskTransition (Sample.loggedOptions.withLog Sample.capability)
      Sample.illegal.readings (reach (Sample.loggedOptions.withLog Sample.capability) EventLog.empty
        Sample.loggedSetup).plane Sample.founder "k" .READY).toOption.map
        (fun task => (task.status, taskStatusReport task .READY))
      = some (.READY, taskStatusReport Sample.task .READY) := by decide +kernel
  obtain ⟨task, hadmitted, htask⟩ := Option.map_eq_some_iff.mp hadmitted
  rw [except_toOption_eq_some] at hadmitted
  obtain ⟨hstatus, hreport⟩ := Prod.mk.inj htask
  refine ⟨task, hadmitted, ?_, ?_⟩
  · rw [hreport]
    exact ⟨.HUMAN, Sample.epoch, by decide +kernel, by decide +kernel, by decide +kernel⟩
  · rw [hstatus]
    decide

end VentureOS.ControlPlane
