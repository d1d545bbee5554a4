import VentureOS.ControlPlane.EventLog
import VentureOS.Coo.Emissions
import VentureOS.Factory.Admission
import VentureOS.Factory.System

/-! # The agent factory with an event log

The factory configured with an `InMemoryOperationalEventLog`. An instantiation or a completion then
succeeds exactly if its checks pass, the clock can be read and the log admits its events, and what it
does to the log is to append them; a call that throws leaves the factory and the log as they were
(`perform_logged`). -/

namespace VentureOS.Factory

open ControlPlane Program

variable {σ : Type}

/-- The same factory reporting to an event log. -/
def AgentFactoryOptions.withLog (options : AgentFactoryOptions σ) (dateParse : String → Option Int)
    (capability : OperationalEventCapability) : AgentFactoryOptions EventLog where
  authorityPrincipals := options.authorityPrincipals
  aiCooPrincipals := options.aiCooPrincipals
  limits := options.limits
  governed := options.governed
  clock := options.clock
  templateDigest := options.templateDigest
  eventSink := some (EventLog.batchSink dateParse, capability)

/-- The operational event of an instantiation. -/
def creationEvent (options : AgentFactoryOptions σ) (context : WorkspaceContext)
    (request : AgentInstantiationRequest) (createdAt : String) : OperationalEvent :=
  toOperationalEvent options context (createdEvent request createdAt) request.taskId

/-- The operational events of a completion. -/
def completionEvents (options : AgentFactoryOptions σ) (context : WorkspaceContext)
    (stored : FactoryAgent) (agentId : EntityId) (outcome : AgentOutcome) (reason at' : String) :
    List OperationalEvent :=
  [toOperationalEvent options context (outcomeEvent context agentId outcome reason at') stored.taskId,
    toOperationalEvent options context (retentionEvent context agentId stored.retention at')
      stored.taskId]

variable {w : FactoryWorld EventLog}

section Logged

variable {options : AgentFactoryOptions σ} {dateParse : String → Option Int}
  {capability : OperationalEventCapability} {context : WorkspaceContext}

/-- What an accepted instantiation has checked and done, the log included. -/
structure LoggedCreation (options : AgentFactoryOptions EventLog) (dateParse : String → Option Int)
    (capability : OperationalEventCapability) (context : WorkspaceContext)
    (request : AgentInstantiationRequest) (template : AgentTemplate) (depth : Int)
    (createdAt : String) (w w' : FactoryWorld EventLog) : Prop where
  admitted : admitInstantiation options w.factory context request = .ok (template, depth)
  written : toISOString (options.clock w.factoryClockReads) = some createdAt
  admits : w.sink.Admits dateParse capability context
    [creationEvent options context request createdAt]
  factory : w'.factory = w.factory.enlist (createdAgent request template depth createdAt)
    (creationDecision options context request template createdAt) (createdEvent request createdAt)
  sink : w'.sink = w.sink.write (creationEvent options context request createdAt)

/-- **Instantiating with a log.** -/
theorem instantiate_logged (request : AgentInstantiationRequest) (w : FactoryWorld EventLog) :
    Ensures (instantiate (options.withLog dateParse capability) context request) w (fun r w' =>
      match r with
      | .ok _ => ∃ template depth createdAt, LoggedCreation (options.withLog dateParse capability)
          dateParse capability context request template depth createdAt w w'
      | .error _ => w'.factory = w.factory ∧ w'.sink = w.sink) := by
  unfold instantiate
  rw [ensures_readFactory_bind, ensures_lift_bind]
  refine ⟨fun _ _ => ⟨rfl, rfl⟩, fun p hp => ?_⟩
  obtain ⟨template, depth⟩ := p
  simp only
  rw [ensures_readClock_bind, ensures_lift_bind]
  refine ⟨fun _ _ => ⟨rfl, rfl⟩, fun createdAt hcreated => ?_⟩
  rw [ensures_bind, appendOperationalEvent]
  simp only [AgentFactoryOptions.withLog]
  rw [onSink, ensures_focus]
  refine (EventLog.appendBatch_spec dateParse capability context _ w.sink).mono fun r log hlog => ?_
  cases r with
  | error e => exact ⟨rfl, hlog⟩
  | ok u =>
    obtain ⟨hcheck, hlog⟩ := hlog
    rw [ensures_bind, ensures_writeFactory]
    exact ⟨template, depth, createdAt, hp, Coo.isoTime_eq_ok.mp hcreated,
      EventLog.checkBatch_eq_ok.mp hcheck, rfl, hlog⟩

/-- An instantiation whose checks pass, at a time that can be written and with an event the log admits,
is accepted. -/
theorem instantiate_accepted {request : AgentInstantiationRequest} {template : AgentTemplate}
    {depth : Int} {createdAt : String}
    (admitted : admitInstantiation (options.withLog dateParse capability) w.factory context request
      = .ok (template, depth))
    (written : toISOString (options.clock w.factoryClockReads) = some createdAt)
    (admits : w.sink.Admits dateParse capability context
      [creationEvent (options.withLog dateParse capability) context request createdAt]) :
    Ensures (instantiate (options.withLog dateParse capability) context request) w (fun r w' =>
      r = .ok (createdAgent request template depth createdAt,
          creationDecision (options.withLog dateParse capability) context request template createdAt)
        ∧ LoggedCreation (options.withLog dateParse capability) dateParse capability context request
          template depth createdAt w w') := by
  unfold instantiate
  have htime : isoTime ((options.withLog dateParse capability).clock w.factoryClockReads) = .ok createdAt :=
    Coo.isoTime_eq_ok.mpr written
  rw [ensures_readFactory_bind, admitted, ensures_ok_bind]
  simp only
  rw [ensures_readClock_bind, htime, ensures_ok_bind, ensures_bind, appendOperationalEvent]
  simp only [AgentFactoryOptions.withLog]
  rw [onSink, ensures_focus]
  have hspec := EventLog.appendBatch_spec dateParse capability context
    [creationEvent (options.withLog dateParse capability) context request createdAt] w.sink
  refine (Ensures.and (EventLog.appendBatch_exec _) hspec).mono fun r log hr => ?_
  obtain ⟨hok, hlog⟩ := hr
  rw [hok.mpr ⟨⟨by simp, by simp⟩, admits⟩] at hlog ⊢
  exact ⟨rfl, admitted, written, admits, rfl, hlog.2⟩

/-- What an accepted completion has checked and done, the log included. -/
structure LoggedCompletion (options : AgentFactoryOptions EventLog) (dateParse : String → Option Int)
    (capability : OperationalEventCapability) (context : WorkspaceContext) (agentId : EntityId)
    (outcome : AgentOutcome) (reason : String) (stored : FactoryAgent) (at' : String)
    (w w' : FactoryWorld EventLog) : Prop where
  completable : Completable options w.factory context agentId reason stored
  written : toISOString (options.clock w.factoryClockReads) = some at'
  admits : w.sink.Admits dateParse capability context
    (completionEvents options context stored agentId outcome reason at')
  factory : w'.factory = w.factory.finalize stored outcome reason at'
    [outcomeEvent context agentId outcome reason at', retentionEvent context agentId stored.retention at']
  sink : w'.sink = (completionEvents options context stored agentId outcome reason at').foldl
    EventLog.write w.sink

/-- **Completing with a log.** -/
theorem complete_logged (agentId : EntityId) (outcome : AgentOutcome) (reason : Option String)
    (w : FactoryWorld EventLog) :
    Ensures (complete (options.withLog dateParse capability) context agentId outcome reason) w
      (fun r w' => match r with
        | .ok _ => ∃ stored at', LoggedCompletion (options.withLog dateParse capability) dateParse
            capability context agentId outcome (reason.getD (outcomeCode outcome)) stored at' w w'
        | .error _ => w'.factory = w.factory ∧ w'.sink = w.sink) := by
  unfold complete
  simp only
  rw [ensures_readFactory_bind, ensures_lift_bind]
  refine ⟨fun _ _ => ⟨rfl, rfl⟩, fun stored hstored => ?_⟩
  rw [ensures_readClock_bind, ensures_lift_bind]
  refine ⟨fun _ _ => ⟨rfl, rfl⟩, fun at' hat => ?_⟩
  simp only [AgentFactoryOptions.withLog]
  rw [ensures_bind, onSink, ensures_focus]
  refine (EventLog.appendBatch_spec dateParse capability context _ w.sink).mono fun r log hlog => ?_
  cases r with
  | error e => exact ⟨rfl, hlog⟩
  | ok u =>
    obtain ⟨hcheck, hlog⟩ := hlog
    exact ⟨stored, at', admitCompletion_eq_ok.mp hstored, Coo.isoTime_eq_ok.mp hat,
      EventLog.checkBatch_eq_ok.mp hcheck, rfl, hlog⟩

/-- A completion whose checks pass, at a time that can be written and with events the log admits, is
accepted. -/
theorem complete_accepted {agentId : EntityId} {outcome : AgentOutcome} {reason : Option String}
    {stored : FactoryAgent} {at' : String}
    (completable : Completable (options.withLog dateParse capability) w.factory context agentId
      (reason.getD (outcomeCode outcome)) stored)
    (written : toISOString (options.clock w.factoryClockReads) = some at')
    (admits : w.sink.Admits dateParse capability context
      (completionEvents (options.withLog dateParse capability) context stored agentId outcome
        (reason.getD (outcomeCode outcome)) at')) :
    Ensures (complete (options.withLog dateParse capability) context agentId outcome reason) w
      (fun r _ => r = .ok ()) := by
  unfold complete
  simp only
  have htime : isoTime (options.clock w.factoryClockReads) = .ok at' := Coo.isoTime_eq_ok.mpr written
  rw [ensures_readFactory_bind, admitCompletion_eq_ok.mpr completable, ensures_ok_bind, ensures_readClock_bind]
  simp only [AgentFactoryOptions.withLog]
  rw [htime, ensures_ok_bind]
  rw [ensures_bind, onSink, ensures_focus]
  refine (EventLog.appendBatch_exec _).mono fun r log hr => ?_
  rw [hr.mpr ⟨⟨by simp, by simp⟩, admits⟩]
  rfl

/-- **When a completion is accepted.** -/
theorem perform_complete {agentId : EntityId} {outcome : AgentOutcome} {reason : Option String}
    :
    (perform (options.withLog dateParse capability) (.complete context agentId outcome reason) w).1
        = .ok .done ↔
      ∃ stored at', Completable (options.withLog dateParse capability) w.factory context agentId
          (reason.getD (outcomeCode outcome)) stored
        ∧ toISOString (options.clock w.factoryClockReads) = some at'
        ∧ w.sink.Admits dateParse capability context
          (completionEvents (options.withLog dateParse capability) context stored agentId outcome
            (reason.getD (outcomeCode outcome)) at') := by
  have needed : Ensures (answer (options.withLog dateParse capability)
      (.complete context agentId outcome reason)) w (fun r _ => r = .ok .done →
        ∃ stored at', Completable (options.withLog dateParse capability) w.factory context agentId
            (reason.getD (outcomeCode outcome)) stored
          ∧ toISOString (options.clock w.factoryClockReads) = some at'
          ∧ w.sink.Admits dateParse capability context
            (completionEvents (options.withLog dateParse capability) context stored agentId outcome
              (reason.getD (outcomeCode outcome)) at')) := by
    refine ensures_bind_pure.mpr ((complete_logged agentId outcome reason w).mono fun r w' h => ?_)
    cases r with
    | error e => exact fun he => (by cases he)
    | ok u =>
      obtain ⟨stored, at', completion⟩ := h
      exact fun _ => ⟨stored, at', completion.completable, completion.written, completion.admits⟩
  refine ⟨needed, ?_⟩
  rintro ⟨stored, at', completable, written, admits⟩
  have enough : Ensures (answer (options.withLog dateParse capability)
      (.complete context agentId outcome reason)) w (fun r _ => r = .ok .done) := by
    refine ensures_bind_pure.mpr ((complete_accepted completable written admits).mono fun r w' h => ?_)
    rw [h]
  exact enough

/-- What an accepted call does to the factory and the log. -/
inductive LoggedEffect (options : AgentFactoryOptions EventLog) (dateParse : String → Option Int)
    (capability : OperationalEventCapability) :
    Call EventLog → FactoryWorld EventLog → FactoryWorld EventLog → Prop
  /-- Linkages and templates are added. -/
  | linked {call : Call EventLog} {w w' : FactoryWorld EventLog}
      (agents : w'.factory.agents = w.factory.agents)
      (consumed : w'.factory.consumedRequests = w.factory.consumedRequests)
      (sink : w'.sink = w.sink) : LoggedEffect options dateParse capability call w w'
  /-- An agent is created and reported. -/
  | created {context : WorkspaceContext} {request : AgentInstantiationRequest}
      {template : AgentTemplate} {depth : Int} {createdAt : String} {w w' : FactoryWorld EventLog}
      (creation : LoggedCreation options dateParse capability context request template depth createdAt w w') :
      LoggedEffect options dateParse capability (.instantiate context request) w w'
  /-- An agent is finalized and reported. -/
  | completed {context : WorkspaceContext} {agentId : EntityId} {outcome : AgentOutcome}
      {reason : Option String} {stored : FactoryAgent} {at' : String} {w w' : FactoryWorld EventLog}
      (completion : LoggedCompletion options dateParse capability context agentId outcome
        (reason.getD (outcomeCode outcome)) stored at' w w') :
      LoggedEffect options dateParse capability (.complete context agentId outcome reason) w w'
  /-- Others write to the log. -/
  | sinkChanged {log : EventLog} {w : FactoryWorld EventLog} :
      LoggedEffect options dateParse capability (.sinkChanged log) w { w with sink := log }

variable (options dateParse capability) in
/-- **One call with a log.** A call that throws leaves the factory and the log as they were. -/
theorem perform_logged (call : Call EventLog) (w : FactoryWorld EventLog) :
    (∃ error, (perform (options.withLog dateParse capability) call w).1 = .error error
        ∧ (perform (options.withLog dateParse capability) call w).2.factory = w.factory
        ∧ (perform (options.withLog dateParse capability) call w).2.sink = w.sink)
      ∨ ∃ answer, (perform (options.withLog dateParse capability) call w).1 = .ok answer
        ∧ LoggedEffect (options.withLog dateParse capability) dateParse capability call w
          (perform (options.withLog dateParse capability) call w).2 := by
  have step : Ensures (answer (options.withLog dateParse capability) call) w (fun r w' =>
      (∃ error, r = .error error ∧ w'.factory = w.factory ∧ w'.sink = w.sink)
        ∨ ∃ answer, r = .ok answer
          ∧ LoggedEffect (options.withLog dateParse capability) dateParse capability call w w') := by
    cases call with
    | registerObjective context id =>
      refine ensures_bind_pure.mpr ((registerObjective_spec context id w).mono fun r w' h => ?_)
      cases r with
      | error e => exact Or.inl ⟨e, rfl, by rw [h], by rw [h]⟩
      | ok u => exact Or.inr ⟨.done, rfl, .linked h.1 h.2.1 h.2.2⟩
    | registerTask context id objectiveId =>
      refine ensures_bind_pure.mpr
        ((registerTask_spec context id objectiveId w).mono fun r w' h => ?_)
      cases r with
      | error e => exact Or.inl ⟨e, rfl, by rw [h], by rw [h]⟩
      | ok u => exact Or.inr ⟨.done, rfl, .linked h.1 h.2.1 h.2.2⟩
    | registerPlan context objectiveId tasks =>
      refine ensures_bind_pure.mpr
        ((registerPlan_spec context objectiveId tasks w).mono fun r w' h => ?_)
      cases r with
      | error e => exact Or.inl ⟨e, rfl, by rw [h.2], by rw [h.2]⟩
      | ok u =>
        refine Or.inr ⟨.done, rfl, .linked ?_ ?_ ?_⟩
        · rw [h.2]; rfl
        · rw [h.2]; rfl
        · rw [h.2]
    | putTemplate context template =>
      refine ensures_bind_pure.mpr ((putTemplate_spec context template w).mono fun r w' h => ?_)
      cases r with
      | error e => exact Or.inl ⟨e, rfl, by rw [h], by rw [h]⟩
      | ok u => exact Or.inr ⟨.done, rfl, .linked h.1 h.2.1 h.2.2⟩
    | instantiate context request =>
      refine ensures_bind_pure.mpr ((instantiate_logged request w).mono fun r w' h => ?_)
      cases r with
      | error e => exact Or.inl ⟨e, rfl, h⟩
      | ok p =>
        obtain ⟨template, depth, createdAt, creation⟩ := h
        exact Or.inr ⟨_, rfl, .created creation⟩
    | complete context agentId outcome reason =>
      refine ensures_bind_pure.mpr ((complete_logged agentId outcome reason w).mono fun r w' h => ?_)
      cases r with
      | error e => exact Or.inl ⟨e, rfl, h⟩
      | ok u =>
        obtain ⟨stored, at', completion⟩ := h
        exact Or.inr ⟨.done, rfl, .completed completion⟩
    | sinkChanged sink => exact Or.inr ⟨.done, rfl, .sinkChanged⟩
  exact step

end Logged

end VentureOS.Factory
