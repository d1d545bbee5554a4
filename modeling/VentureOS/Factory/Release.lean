import VentureOS.ControlPlane.References
import VentureOS.Factory.Lineage
import VentureOS.Factory.Logged

/-! # Releasing agents

With an event log, an agent is created under the event identifier `event:R:created` and finalized under
`event:agent:R:…`, where `R` is the identifier of its request. The second form is longer than the first,
and the log accepts references of at most 256 characters, so some requests are accepted for which no
completion can ever be reported. Everything else a completion needs is established when the agent is
created: its identifiers are references (`Reportable`), and the identifiers of its completion are not
used before it ends (`Accounted`). An active agent without active children can therefore be finalized
exactly if the identifier of its request is short enough (`active_agents_finalizable_iff`). -/

namespace VentureOS.Factory

open ControlPlane Program

/-! ## Event identifiers -/

/-- The identifier of the event an agent is created with. -/
def createdId (requestId : EntityId) : EntityId := s!"event:{requestId}:created"

/-- The identifier of an event that ends an agent. -/
def endedId (requestId : EntityId) (word : String) : EntityId :=
  s!"event:{agentIdOf requestId}:{word}"

/-- The words in which the identifiers of ending events end. -/
def endingWords : List String := ["completed", "failed", "archived", "deleted"]

/-- The identifiers that the factory uses for its events. -/
def IsEventId (id : EntityId) : Prop := "event:".toList <+: id.toList

theorem createdId_toList (requestId : EntityId) :
    (createdId requestId).toList
      = "event".toList ++ ':' :: (requestId.toList ++ ':' :: "created".toList) := by
  simp [createdId, toString, String.toList_append]

theorem agentIdOf_toList (requestId : EntityId) :
    (agentIdOf requestId).toList = "agent".toList ++ ':' :: requestId.toList := by
  simp [agentIdOf, toString, String.toList_append]

theorem endedId_toList (requestId : EntityId) (word : String) :
    (endedId requestId word).toList
      = "event".toList ++ ':' :: ((agentIdOf requestId).toList ++ ':' :: word.toList) := by
  simp [endedId, toString, String.toList_append]

theorem isEventId_endedId (requestId : EntityId) (word : String) :
    IsEventId (endedId requestId word) :=
  ⟨(agentIdOf requestId).toList ++ ':' :: word.toList, by rw [endedId_toList]; simp⟩

/-- The last part of an identifier tells how it was made. -/
theorem endedId_ne_createdId {requestId requestId' : EntityId} {word : String}
    (hword : word ∈ endingWords) : endedId requestId word ≠ createdId requestId' := by
  intro h
  have hlist := congrArg String.toList h
  rw [endedId_toList, createdId_toList] at hlist
  have hnot : ':' ∉ word.toList ∧ word ≠ "created" := by
    simp only [endingWords, List.mem_cons, List.not_mem_nil, or_false] at hword
    rcases hword with rfl | rfl | rfl | rfl <;> decide
  have hlast := (separated_inj (x := word.toList) (y := "created".toList) hnot.1 (by decide)
    (List.cons.inj (List.append_cancel_left hlist)).2).2
  exact hnot.2 (String.toList_inj.mp hlast)

theorem endedId_inj {requestId requestId' : EntityId} {word word' : String}
    (hword : word ∈ endingWords) (hword' : word' ∈ endingWords)
    (h : endedId requestId word = endedId requestId' word') :
    requestId = requestId' ∧ word = word' := by
  have hlist := congrArg String.toList h
  rw [endedId_toList, endedId_toList] at hlist
  have hnot : ∀ word ∈ endingWords, ':' ∉ word.toList := by decide
  obtain ⟨hagent, hlast⟩ := separated_inj (hnot word hword) (hnot word' hword')
    (List.cons.inj (List.append_cancel_left hlist)).2
  exact ⟨agentIdOf_inj (String.toList_inj.mp hagent), String.toList_inj.mp hlast⟩

/-- The longer the word, the longer the identifier. -/
theorem length_endedId (requestId : EntityId) (word : String) :
    (endedId requestId word).toList.length
      = 13 + requestId.toList.length + word.toList.length := by
  rw [endedId_toList, agentIdOf_toList]
  simp only [List.length_append, List.length_cons]
  have h1 : "event".toList.length = 5 := by decide
  have h2 : "agent".toList.length = 5 := by decide
  omega

/-- What is known of the words of the events, and of their facts. -/
theorem words_checked : ReferenceText "agent" ∧ ReferenceText "event" ∧ (∀ word ∈ endingWords, ReferenceText word)
    ∧ subjectTypeCode "Agent" = .ok ()
    ∧ validateFacts .agentLifecycleChanged [("lifecycle", .text "agent.completed"), ("reasonPresent", .flag true)]
      = .ok ()
    ∧ validateFacts .agentLifecycleChanged [("lifecycle", .text "agent.failed"), ("reasonPresent", .flag true)]
      = .ok ()
    ∧ validateFacts .agentLifecycleChanged [("lifecycle", .text "agent.archived")] = .ok ()
    ∧ validateFacts .agentLifecycleChanged [("lifecycle", .text "agent.deleted")] = .ok () := by
  decide

/-- **Identifiers of ending events** are references iff they are short enough. -/
theorem safeReference_endedId {requestId : EntityId} {word : String}
    (hrequest : ReferenceText requestId) (hword : word ∈ endingWords) :
    SafeReference (endedId requestId word) ↔
      13 + requestId.toList.length + word.toList.length ≤ 256 := by
  rw [← length_endedId]
  refine ⟨fun h => h.bounded, fun h => ?_⟩
  have hagent : ReferenceText (agentIdOf requestId) :=
    (referenceText_of_separated (agentIdOf_toList requestId)).mpr ⟨words_checked.1, hrequest⟩
  have hwords := words_checked.2.2.1
  have hrest : ReferenceText (s!"{agentIdOf requestId}:{word}") :=
    (referenceText_of_separated (a := agentIdOf requestId) (b := word)
      (by simp [toString, String.toList_append])).mpr ⟨hagent, hwords word hword⟩
  have hall : ReferenceText (endedId requestId word) :=
    (referenceText_of_separated (a := "event") (b := s!"{agentIdOf requestId}:{word}")
      (by rw [endedId_toList]; simp [toString, String.toList_append])).mpr ⟨words_checked.2.1, hrest⟩
  refine ⟨hall, ?_, h⟩
  rw [endedId_toList]
  rfl

/-! ## What the log has seen of the factory -/

/-- An identifier that the factory has used for an event: that of a creation, or that of the end of an
agent that is no longer active. -/
inductive UsedId (factory : AgentFactory) (workspaceId : EntityId) : EntityId → Prop
  | created {requestId : EntityId}
      (consumed : key workspaceId requestId ∈ factory.consumedRequests) :
      UsedId factory workspaceId (createdId requestId)
  | ended {requestId : EntityId} {word : String}
      (consumed : key workspaceId requestId ∈ factory.consumedRequests)
      (inactive : ∀ agent, factory.agents.get? (key workspaceId (agentIdOf requestId)) = some agent →
        agent.lifecycle ≠ .ACTIVE)
      (hword : word ∈ endingWords) :
      UsedId factory workspaceId (endedId requestId word)

/-- The event identifiers and idempotency keys of the factory in the log are used ones. -/
structure Accounted (factory : AgentFactory) (log : EventLog) : Prop where
  ids : ∀ workspaceId id, IsEventId id → log.events.get? (key workspaceId id) ≠ none →
    UsedId factory workspaceId id
  keys : ∀ workspaceId id, IsEventId id →
    (workspaceId, EventSource.AGENT_FACTORY, id) ∈ log.idempotencyKeys →
    UsedId factory workspaceId id

/-- From one log to the other, nobody has used an event identifier or an idempotency key of the factory.
-/
structure Foreign (log log' : EventLog) : Prop where
  ids : ∀ workspaceId id, IsEventId id → log'.events.get? (key workspaceId id) ≠ none →
    log.events.get? (key workspaceId id) ≠ none
  keys : ∀ workspaceId id, IsEventId id →
    (workspaceId, EventSource.AGENT_FACTORY, id) ∈ log'.idempotencyKeys →
    (workspaceId, EventSource.AGENT_FACTORY, id) ∈ log.idempotencyKeys

/-- What creation has established of an agent. -/
structure Reportable (agent : FactoryAgent) : Prop where
  workspaceId : SafeReference agent.workspaceId
  agentId : SafeReference agent.agentId
  taskId : SafeReference agent.taskId
  requestId : ReferenceText agent.id

/-- The invariant of a factory with an event log. -/
structure Traced (options : AgentFactoryOptions EventLog) (w : FactoryWorld EventLog) : Prop where
  lineage : Lineage options w.factory
  accounted : Accounted w.factory w.sink
  reportable : ∀ agent ∈ w.factory.agents, agent.lifecycle = .ACTIVE → Reportable agent

section Steps

variable {σ : Type} {options : AgentFactoryOptions EventLog} {dateParse : String → Option Int}
  {capability : OperationalEventCapability} {context : WorkspaceContext}
  {w w' : FactoryWorld EventLog}

/-- Writing an event of the factory: its identifier is the only one that is new. -/
theorem Accounted.write {factory factory' : AgentFactory} {log : EventLog} {event : OperationalEvent}
    (accounted : Accounted factory log)
    (mono : ∀ workspaceId id, UsedId factory workspaceId id → UsedId factory' workspaceId id)
    (hsame : event.idempotencyKey = event.id)
    (hused : UsedId factory' event.workspaceId event.id) : Accounted factory' (log.write event) where
  ids workspaceId id hid h := by
    rw [EventLog.get?_write] at h
    split at h
    · rename_i hkey
      rw [EventLog.eventKeyOf, key, key, Prod.mk.injEq] at hkey
      rw [hkey.1, hkey.2]
      exact hused
    · exact mono _ _ (accounted.ids workspaceId id hid h)
  keys workspaceId id hid h := by
    rw [EventLog.write, Finset.mem_insert] at h
    rcases h with h | h
    · rw [EventLog.idempotencyKeyOf, Prod.mk.injEq, Prod.mk.injEq] at h
      rw [h.1, h.2.2, hsame]
      exact hused
    · exact mono _ _ (accounted.keys workspaceId id hid h)

/-- What a valid creation event says about the agent it reports. -/
theorem reportable_of_valid {request : AgentInstantiationRequest} {template : AgentTemplate}
    {depth : Int} {createdAt : String}
    (valid : ValidEvent dateParse capability context (creationEvent options context request createdAt)) :
    Reportable (createdAgent request template depth createdAt) := by
  refine ⟨valid.workspaceId, valid.subjectId, valid.correlationId _ rfl, ?_⟩
  have hagent : SafeReference (agentIdOf request.id) := valid.subjectId
  exact ((referenceText_of_separated (agentIdOf_toList request.id)).mp hagent.toReferenceText).2

/-- Creating an agent keeps the invariant. -/
theorem Traced.created {request : AgentInstantiationRequest} {template : AgentTemplate} {depth : Int}
    {createdAt : String} (traced : Traced options w)
    (creation : LoggedCreation options dateParse capability context request template depth createdAt
      w w') : Traced options w' := by
  have admitted := Admitted.of_ok creation.admitted
  have hfresh := traced.lineage.get?_agentIdOf_of_unconsumed admitted.unconsumed
  have hconsumed : w'.factory.consumedRequests
      = insert (key request.workspaceId request.id) w.factory.consumedRequests := by
    rw [creation.factory]
    rfl
  -- The agent that is created now has no ending event yet.
  have mono : ∀ workspaceId id, UsedId w.factory workspaceId id → UsedId w'.factory workspaceId id := by
    intro workspaceId id h
    cases h with
    | created consumed =>
      refine .created ?_
      rw [hconsumed]
      exact Finset.mem_insert_of_mem consumed
    | @ended requestId word consumed inactive hword =>
      refine .ended ?_ ?_ hword
      · rw [hconsumed]
        exact Finset.mem_insert_of_mem consumed
      · intro agent hagent
        rw [creation.factory] at hagent
        have hget := (Store.get?_put _ _ _).symm.trans hagent
        split at hget
        · rename_i hkey
          rw [keyOf_factoryAgent, key, key, Prod.mk.injEq] at hkey
          have hid : requestId = request.id := agentIdOf_inj hkey.2
          have hworkspace : workspaceId = request.workspaceId := hkey.1
          rw [hid, hworkspace] at consumed
          exact absurd consumed admitted.unconsumed
        · exact inactive agent hget
  refine ⟨?_, ?_, ?_⟩
  · rw [creation.factory]
    exact traced.lineage.enlist admitted _ _ _ _
  · rw [creation.sink]
    refine traced.accounted.write mono rfl (.created ?_)
    rw [hconsumed]
    exact Finset.mem_insert_self _ _
  · intro agent hagent hactive
    rw [creation.factory] at hagent
    rcases Store.mem_put.mp hagent with rfl | ⟨hold, -⟩
    · exact reportable_of_valid (validateOperationalEvent_eq_ok.mp
        (creation.admits.valid _ (List.mem_singleton_self _)))
    · exact traced.reportable agent hold hactive

/-- Completing an agent keeps the invariant. -/
theorem Traced.completed {agentId : EntityId} {outcome : AgentOutcome} {reason : String}
    {stored : FactoryAgent} {at' : String} (traced : Traced options w)
    (completion : LoggedCompletion options dateParse capability context agentId outcome reason stored
      at' w w') : Traced options w' := by
  have completable := completion.completable
  have hstored : stored ∈ w.factory.agents := Store.mem_of_get? completable.found
  have hkey := Store.keyOf_of_get? completable.found
  rw [keyOf_factoryAgent, key, key, Prod.mk.injEq] at hkey
  have hid : agentId = agentIdOf stored.id := by
    rw [← hkey.2, traced.lineage.named stored hstored]
  have hconsumed : w'.factory.consumedRequests = w.factory.consumedRequests := by
    rw [completion.factory]
    rfl
  -- Whatever is stored now under a key was there before, or is not active.
  have origin : ∀ k agent, w'.factory.agents.get? k = some agent → agent.lifecycle = .ACTIVE →
      w.factory.agents.get? k = some agent ∧ k ≠ keyOf stored := by
    intro k agent hget hactive
    have hmem := Store.mem_of_get? hget
    rw [completion.factory] at hmem
    rcases mem_finalize hmem with ⟨hold, hne⟩ | ⟨-, -, -, harchived⟩
    · rw [← Store.keyOf_of_get? hget]
      exact ⟨Store.mem_iff_get?.mp hold, hne⟩
    · rw [harchived] at hactive
      cases hactive
  have mono : ∀ workspaceId id, UsedId w.factory workspaceId id → UsedId w'.factory workspaceId id := by
    intro workspaceId id h
    cases h with
    | created consumed => exact .created (hconsumed ▸ consumed)
    | ended consumed inactive hword =>
      refine .ended (hconsumed ▸ consumed) (fun agent hagent hactive => ?_) hword
      exact inactive agent (origin _ _ hagent hactive).1 hactive
  have inactive : ∀ word ∈ endingWords,
      UsedId w'.factory context.workspaceId (endedId stored.id word) := by
    intro word hword
    refine .ended ?_ (fun agent hagent hactive => ?_) hword
    · rw [hconsumed, ← hkey.1]
      exact traced.lineage.consumed stored hstored
    · refine (origin _ _ hagent hactive).2 ?_
      rw [keyOf_factoryAgent, hkey.1, traced.lineage.named stored hstored]
  refine ⟨?_, ?_, ?_⟩
  · rw [completion.factory]
    exact traced.lineage.finalize completable _ _ _
  · rw [completion.sink, completionEvents, List.foldl_cons, List.foldl_cons, List.foldl_nil]
    refine (traced.accounted.write mono rfl ?_).write (fun _ _ h => h) rfl ?_
    · show UsedId w'.factory context.workspaceId (s!"event:{agentId}:{outcomeWord outcome}")
      rw [hid]
      exact inactive _ (by cases outcome <;> simp [outcomeWord, endingWords])
    · show UsedId w'.factory context.workspaceId (s!"event:{agentId}:{retentionWord stored.retention}")
      rw [hid]
      exact inactive _ (by cases stored.retention <;> simp [retentionWord, endingWords])
  · intro agent hagent hactive
    rw [completion.factory] at hagent
    rcases mem_finalize hagent with ⟨hold, -⟩ | ⟨-, -, -, harchived⟩
    · exact traced.reportable agent hold hactive
    · rw [harchived] at hactive
      cases hactive

/-- A change of other fields of the factory keeps what it has used. -/
theorem UsedId.of_eq {factory factory' : AgentFactory} (agents : factory'.agents = factory.agents)
    (consumed : factory'.consumedRequests = factory.consumedRequests) {workspaceId id : EntityId}
    (h : UsedId factory workspaceId id) : UsedId factory' workspaceId id := by
  cases h with
  | created h => exact .created (consumed ▸ h)
  | ended h inactive hword => exact .ended (consumed ▸ h) (agents ▸ inactive) hword

/-- One call keeps the invariant, if other components leave the event identifiers of the factory alone.
-/
theorem Traced.effect {call : Call EventLog} (traced : Traced options w)
    (foreign : ∀ log, call = .sinkChanged log → Foreign w.sink log)
    (effect : LoggedEffect options dateParse capability call w w') : Traced options w' := by
  cases effect with
  | linked agents consumed sink =>
    have used : ∀ workspaceId id, UsedId w.factory workspaceId id →
        UsedId w'.factory workspaceId id := fun _ _ => UsedId.of_eq agents consumed
    refine ⟨traced.lineage.of_agents_eq agents consumed, ⟨?_, ?_⟩, ?_⟩
    · intro workspaceId id hid h
      exact used _ _ (traced.accounted.ids workspaceId id hid (sink ▸ h))
    · intro workspaceId id hid h
      exact used _ _ (traced.accounted.keys workspaceId id hid (sink ▸ h))
    · rw [agents]
      exact traced.reportable
  | created creation => exact traced.created creation
  | completed completion => exact traced.completed completion
  | sinkChanged =>
    have hforeign := foreign _ rfl
    refine ⟨traced.lineage, ⟨?_, ?_⟩, traced.reportable⟩
    · intro workspaceId id hid h
      exact traced.accounted.ids workspaceId id hid (hforeign.ids workspaceId id hid h)
    · intro workspaceId id hid h
      exact traced.accounted.keys workspaceId id hid (hforeign.keys workspaceId id hid h)

end Steps

/-! ## Reachable states -/

/-- In a run, other components never use an event identifier of the factory, and the log the factory is
given has none. -/
structure Undisturbed (options : AgentFactoryOptions EventLog) (log : EventLog)
    (calls : List (Call EventLog)) : Prop where
  initial : Foreign EventLog.empty log
  steps : ∀ step ∈ trace options log calls, ∀ log', step.label = .sinkChanged log' →
    Foreign step.before.sink log'

section Runs

variable {σ : Type} {options : AgentFactoryOptions σ} {dateParse : String → Option Int}
  {capability : OperationalEventCapability}

/-- Every state of an undisturbed run has the invariant. -/
theorem traced_reach {log : EventLog} {calls : List (Call EventLog)}
    (undisturbed : Undisturbed (options.withLog dateParse capability) log calls) :
    Traced (options.withLog dateParse capability)
      (reach (options.withLog dateParse capability) log calls) := by
  have foreign := undisturbed.steps
  have h := history_induction (P := fun (steps : List (Step EventLog)) (w : FactoryWorld EventLog) =>
    (∀ step ∈ steps, ∀ log', step.label = .sinkChanged log' → Foreign step.before.sink log') →
      Traced (options.withLog dateParse capability) w)
    (perform (options.withLog dateParse capability)) (s := .initial log) ?_ ?_ calls
  · exact h foreign
  · intro _
    refine ⟨lineage_empty, ⟨?_, ?_⟩, ?_⟩
    · intro workspaceId id hid h
      exact absurd (OrderedMap.get?_empty _) (undisturbed.initial.ids workspaceId id hid h)
    · intro workspaceId id hid h
      exact absurd (undisturbed.initial.keys workspaceId id hid h) (Finset.notMem_empty _)
    · exact fun agent h => absurd h (Store.not_mem_empty agent)
  · intro pre call ih hsteps
    have traced := ih fun step hstep => hsteps step (List.mem_append_left _ hstep)
    have hcall := hsteps _ (List.mem_append_right _ (List.mem_singleton_self _))
    rcases perform_logged options dateParse capability
        call (run (perform (options.withLog dateParse capability)) (.initial log) pre) with
      ⟨_, -, hfactory, hsink⟩ | ⟨answer, -, effect⟩
    · refine ⟨?_, ?_, ?_⟩
      · rw [hfactory]
        exact traced.lineage
      · rw [hfactory, hsink]
        exact traced.accounted
      · rw [hfactory]
        exact traced.reportable
    · exact traced.effect hcall effect

end Runs

/-! ## Completions -/

section Completions

variable {options : AgentFactoryOptions EventLog} {dateParse : String → Option Int}
  {capability : OperationalEventCapability} {w : FactoryWorld EventLog} {agent : FactoryAgent}

/-- The kind of actor the factory reports a principal as. -/
def actorKindOf {σ : Type} (options : AgentFactoryOptions σ) (principalId : EntityId) :
    OperationalActorKind :=
  if principalId ∈ options.aiCooPrincipals then .AGENT else .HUMAN

/-- The facts of a completion are the same for all agents, and accepted. -/
theorem validateFacts_outcome (outcome : AgentOutcome) {reason : String} (h : PrintableText reason)
    (context : WorkspaceContext) (agentId : EntityId) (at' : String) (correlationId : EntityId) :
    validateFacts .agentLifecycleChanged (toOperationalEvent options context
      (outcomeEvent context agentId outcome reason at') correlationId).facts = .ok () := by
  have htruthy : Truthy (some reason) := by
    refine fun hempty => ?_
    have hblank := h.1
    rw [show reason = "" from hempty] at hblank
    exact absurd hblank (by decide)
  cases outcome with
  | COMPLETED =>
    have hfacts : (toOperationalEvent options context
        (outcomeEvent context agentId .COMPLETED reason at') correlationId).facts
        = [("lifecycle", .text "agent.completed"), ("reasonPresent", .flag true)] := by
      simp [toOperationalEvent, outcomeEvent, htruthy, AgentFactoryEventType.code]
    rw [hfacts]
    exact words_checked.2.2.2.2.1
  | FAILED =>
    have hfacts : (toOperationalEvent options context
        (outcomeEvent context agentId .FAILED reason at') correlationId).facts
        = [("lifecycle", .text "agent.failed"), ("reasonPresent", .flag true)] := by
      simp [toOperationalEvent, outcomeEvent, htruthy, AgentFactoryEventType.code]
    rw [hfacts]
    exact words_checked.2.2.2.2.2.1

/-- The facts of the end of a retention. -/
theorem validateFacts_retention (context : WorkspaceContext) (agentId : EntityId)
    (retention : AgentRetention) (at' : String) (correlationId : EntityId) :
    validateFacts .agentLifecycleChanged (toOperationalEvent options context
      (retentionEvent context agentId retention at') correlationId).facts = .ok () := by
  cases retention with
  | ARCHIVE =>
    have hfacts : (toOperationalEvent options context
        (retentionEvent context agentId .ARCHIVE at') correlationId).facts
        = [("lifecycle", .text "agent.archived")] := by
      simp [toOperationalEvent, retentionEvent, Truthy, AgentFactoryEventType.code]
    rw [hfacts]
    exact words_checked.2.2.2.2.2.2.1
  | DELETE_ON_COMPLETION =>
    have hfacts : (toOperationalEvent options context
        (retentionEvent context agentId .DELETE_ON_COMPLETION at') correlationId).facts
        = [("lifecycle", .text "agent.deleted")] := by
      simp [toOperationalEvent, retentionEvent, Truthy, AgentFactoryEventType.code]
    rw [hfacts]
    exact words_checked.2.2.2.2.2.2.2

/-- The log of a factory that may finalize an agent: who reports, and when. -/
structure Reporting (options : AgentFactoryOptions EventLog) (dateParse : String → Option Int)
    (capability : OperationalEventCapability) (context : WorkspaceContext) (at' : String) : Prop where
  source : capability.source = .AGENT_FACTORY
  bound : capability.actorKindFor context = .ok (actorKindOf options context.principalId)
  actor : SafeReference context.principalId
  time : (dateParse at').bind toISOString = some at'

/-- Both identifiers of a completion that fails are short enough exactly if that of the retention is.
-/
theorem outcomeWord_length_le (outcome : AgentOutcome) (retention : AgentRetention) :
    (outcomeWord .FAILED).toList.length ≤ (retentionWord retention).toList.length
      ∧ outcomeWord outcome ∈ endingWords ∧ retentionWord retention ∈ endingWords
      ∧ outcomeWord outcome ≠ retentionWord retention := by
  cases outcome <;> cases retention <;> decide

/-- **The log admits a completion** that fails, if the identifier of its retention is a reference. -/
theorem admits_completion {context : WorkspaceContext} {reason at' : String}
    (traced : Traced options w) (reporting : Reporting options dateParse capability context at')
    (completable : Completable options w.factory context agent.agentId reason agent)
    (hlength : 13 + agent.id.toList.length + (retentionWord agent.retention).toList.length ≤ 256) :
    w.sink.Admits dateParse capability context
      (completionEvents options context agent agent.agentId .FAILED reason at') := by
  have hagent : agent ∈ w.factory.agents := Store.mem_of_get? completable.found
  have hid : agent.agentId = agentIdOf agent.id := traced.lineage.named agent hagent
  have hkey := Store.keyOf_of_get? completable.found
  rw [keyOf_factoryAgent, key, key, Prod.mk.injEq] at hkey
  have reportable := traced.reportable agent hagent completable.active
  obtain ⟨hshort, houtcome, hretention, hne⟩ := outcomeWord_length_le .FAILED agent.retention
  have safe : ∀ word ∈ endingWords,
      word.toList.length ≤ (retentionWord agent.retention).toList.length →
      SafeReference (endedId agent.id word) := fun word hword hle =>
    (safeReference_endedId reportable.requestId hword).mpr (by omega)
  -- The identifiers the agent ends under are not used while it is active.
  have unused : ∀ word ∈ endingWords,
      ¬ UsedId w.factory context.workspaceId (endedId agent.id word) := by
    intro word hword h
    generalize hx : endedId agent.id word = x at h
    cases h with
    | created _ => exact endedId_ne_createdId hword hx
    | @ended requestId word' _ inactive hword' =>
      obtain ⟨hrequest, -⟩ := endedId_inj hword hword' hx
      refine inactive agent ?_ completable.active
      rw [← hrequest, ← hid]
      exact completable.found
  have fresh : ∀ word ∈ endingWords,
      w.sink.events.get? (key context.workspaceId (endedId agent.id word)) = none
        ∧ (context.workspaceId, EventSource.AGENT_FACTORY, endedId agent.id word)
          ∉ w.sink.idempotencyKeys := by
    intro word hword
    constructor
    · by_contra h
      exact unused word hword (traced.accounted.ids _ _ (isEventId_endedId _ _) h)
    · exact fun h => unused word hword (traced.accounted.keys _ _ (isEventId_endedId _ _) h)
  have hids : completionEvents options context agent agent.agentId .FAILED reason at'
      = [toOperationalEvent options context
          (outcomeEvent context (agentIdOf agent.id) .FAILED reason at') agent.taskId,
        toOperationalEvent options context
          (retentionEvent context (agentIdOf agent.id) agent.retention at') agent.taskId] := by
    rw [completionEvents, hid]
  have hworkspace : SafeReference context.workspaceId := hkey.1 ▸ reportable.workspaceId
  have hsubject : SafeReference (agentIdOf agent.id) := hid ▸ reportable.agentId
  have hcode := words_checked.2.2.2.1
  have hdistinct : endedId agent.id (outcomeWord .FAILED)
      ≠ endedId agent.id (retentionWord agent.retention) := fun h =>
    hne (endedId_inj houtcome hretention h).2
  rw [hids]
  refine ⟨?_, ?_, ?_, ?_, ?_⟩
  · refine List.forall_mem_cons.mpr ⟨?_, List.forall_mem_singleton.mpr ?_⟩
    · exact validateOperationalEvent_eq_ok.mpr ⟨reporting.source.symm, reporting.bound, rfl, rfl,
        safe _ houtcome hshort, hworkspace, reporting.actor, hcode, hsubject,
        safe _ houtcome hshort, fun _ h => (by cases h; exact reportable.taskId), reporting.time,
        validateFacts_outcome .FAILED completable.printable _ _ _ _⟩
    · exact validateOperationalEvent_eq_ok.mpr ⟨reporting.source.symm, reporting.bound, rfl, rfl,
        safe _ hretention le_rfl, hworkspace, reporting.actor, hcode, hsubject,
        safe _ hretention le_rfl, fun _ h => (by cases h; exact reportable.taskId), reporting.time,
        by cases hr : agent.retention <;>
          exact validateFacts_retention context (agentIdOf agent.id) _ at' agent.taskId⟩
  · exact List.forall_mem_cons.mpr ⟨(fresh _ houtcome).1, List.forall_mem_singleton.mpr (fresh _ hretention).1⟩
  · refine List.nodup_cons.mpr ⟨fun h => ?_, List.nodup_singleton _⟩
    have h := List.mem_singleton.mp h
    rw [EventLog.eventKeyOf, EventLog.eventKeyOf, key, key, Prod.mk.injEq] at h
    exact hdistinct h.2
  · exact List.forall_mem_cons.mpr ⟨(fresh _ houtcome).2, List.forall_mem_singleton.mpr (fresh _ hretention).2⟩
  · refine List.nodup_cons.mpr ⟨fun h => ?_, List.nodup_singleton _⟩
    have h := List.mem_singleton.mp h
    rw [EventLog.idempotencyKeyOf, EventLog.idempotencyKeyOf, Prod.mk.injEq, Prod.mk.injEq] at h
    exact hdistinct h.2.2

/-- The event of the retention of a completed agent was valid, so its identifier is a reference. -/
theorem safeReference_of_completed {σ : Type} {options : AgentFactoryOptions σ}
    {principalId : EntityId} {outcome : AgentOutcome} {reason : Option String}
    (hagent : agent ∈ w.factory.agents) (hid : agent.agentId = agentIdOf agent.id)
    (h : (perform (options.withLog dateParse capability)
      (.complete ⟨agent.workspaceId, principalId⟩ agent.agentId outcome reason) w).1 = .ok .done) :
    SafeReference (endedId agent.id (retentionWord agent.retention)) := by
  obtain ⟨stored, at', completable, -, admits⟩ := perform_complete.mp h
  have hstored : stored = agent := by
    have hget : w.factory.agents.get? (key agent.workspaceId agent.agentId) = some agent :=
      Store.mem_iff_get?.mp hagent
    have hfound := completable.found
    rw [hget, Option.some.injEq] at hfound
    exact hfound.symm
  subst hstored
  have valid := validateOperationalEvent_eq_ok.mp
    (admits.valid _ (List.mem_cons_of_mem _ (List.mem_singleton_self _)))
  have hsafe := valid.id
  simp only [toOperationalEvent, retentionEvent, hid] at hsafe
  exact hsafe

end Completions

/-! ## What can be released -/

/-- The longest request identifier whose agent can be finalized. -/
def releasableLength : AgentRetention → Nat
  | .ARCHIVE => 235
  | .DELETE_ON_COMPLETION => 236

/-- **Active agents can be finalized exactly if their request identifier is short enough.** In every
state that a factory with an event log reaches, whose clock can be read and whose event identifiers
nobody else uses: an active agent without active children is finalized by an authorizer that the
capability speaks for, with some outcome and every valid reason, if and only if the identifier of its
request has at most 235 characters, or 236 if the agent is to be deleted. -/
theorem active_agents_finalizable_iff {σ : Type} (options : AgentFactoryOptions σ)
    (dateParse : String → Option Int) (bindings : List OperationalEventPrincipalBinding)
    (capability : OperationalEventCapability) (log : EventLog) (calls : List (Call EventLog))
    (issued : OperationalEventCapability.issue .AGENT_FACTORY bindings = .ok capability)
    (clock : ∀ n, ∃ text, toISOString (options.clock n) = some text ∧ dateParse text = some (options.clock n))
    (undisturbed : Undisturbed (options.withLog dateParse capability) log calls) :
    let w := reach (options.withLog dateParse capability) log calls
    ∀ agent ∈ w.factory.agents, agent.lifecycle = .ACTIVE →
      activeChildren w.factory agent.workspaceId agent.agentId = [] →
      ∀ authorizer ∈ options.authorityPrincipals,
        capability.actorKindFor ⟨agent.workspaceId, authorizer⟩
          = .ok (actorKindOf options authorizer) →
        ((∃ outcome, ∀ reason : Option String, PrintableText (reason.getD (outcomeCode outcome)) →
            (perform (options.withLog dateParse capability)
              (.complete ⟨agent.workspaceId, authorizer⟩ agent.agentId outcome reason) w).1
              = .ok .done)
          ↔ utf16Length agent.id ≤ releasableLength agent.retention) := by
  intro w agent hagent hactive hchildless authorizer hauthorizer hbound
  have traced : Traced (options.withLog dateParse capability) w := traced_reach undisturbed
  have reportable := traced.reportable agent hagent hactive
  have hid : agent.agentId = agentIdOf agent.id := traced.lineage.named agent hagent
  have hlength : utf16Length agent.id ≤ releasableLength agent.retention ↔
      13 + agent.id.toList.length + (retentionWord agent.retention).toList.length ≤ 256 := by
    rw [utf16Length_of_chars reportable.requestId.chars]
    cases agent.retention with
    | ARCHIVE =>
      have h : (retentionWord .ARCHIVE).toList.length = 8 := by decide
      rw [h, releasableLength]
      omega
    | DELETE_ON_COMPLETION =>
      have h : (retentionWord .DELETE_ON_COMPLETION).toList.length = 7 := by decide
      rw [h, releasableLength]
      omega
  obtain ⟨hsource, hissued⟩ := OperationalEventCapability.issue_eq_ok issued
  obtain ⟨at', hwritten, hparsed⟩ := clock w.factoryClockReads
  rw [hlength]
  constructor
  · rintro ⟨outcome, h⟩
    have hprintable : PrintableText (outcomeCode outcome) := by cases outcome <;> decide
    exact (safeReference_endedId reportable.requestId
      (outcomeWord_length_le outcome agent.retention).2.2.1).mp
      (safeReference_of_completed hagent hid (h none hprintable))
  · intro hshort
    refine ⟨.FAILED, fun reason hreason => ?_⟩
    have completable : Completable (options.withLog dateParse capability) w.factory
        ⟨agent.workspaceId, authorizer⟩ agent.agentId (reason.getD (outcomeCode .FAILED)) agent :=
      ⟨hauthorizer, Store.mem_iff_get?.mp hagent, hactive, hchildless, hreason⟩
    refine perform_complete.mpr ⟨agent, at', completable, hwritten, ?_⟩
    refine admits_completion traced ⟨hsource, hbound, (hissued _ _ hbound).2, ?_⟩ completable hshort
    rw [hparsed, Option.bind_some, hwritten]

/-! ## A sample factory -/

namespace Sample

/-- The authorizer of workspace `w`. -/
def owner : WorkspaceContext := ⟨"w", "owner"⟩

/-- The factory speaks for the owner. -/
def bindings : List OperationalEventPrincipalBinding := [⟨"w", "owner", .HUMAN, none⟩]

def capability : OperationalEventCapability := ⟨.AGENT_FACTORY, bindings⟩

/-- The text of the one time the clock shows. -/
def dateParse (text : String) : Option Int :=
  if text = "1970-01-01T00:00:00.000Z" then some 0 else none

def options : AgentFactoryOptions Unit where
  authorityPrincipals := ["owner"]
  aiCooPrincipals := []
  limits := ⟨8, 8, 8, 8, 8, 1000, 3, 100, 100⟩
  governed := rfl
  clock := fun _ => 0
  templateDigest := fun _ => ""
  eventSink := none

def template : AgentTemplate where
  id := "m"
  version := 1
  workspaceId := "w"
  role := "reviewer"
  department := "engineering"
  repositoryScopes := ["repo"]
  environmentScopes := ["env"]
  dataScopes := ["data"]
  capabilityIds := []
  toolGrants := []
  maximumAuthority := ⟨1, Nat.one_lt_succ_succ 3⟩
  maximumRuntimeMs := 10
  maximumRetries := 0
  maximumChildren := 0
  maximumBudgetMinorUnits := 10
  maximumComputeUnits := 10
  retention := .ARCHIVE

def request (id : EntityId) : AgentInstantiationRequest where
  id := id
  workspaceId := "w"
  templateId := "m"
  templateVersion := 1
  objectiveId := "o"
  taskId := "t"
  parentAgentId := none
  repositoryScopes := ["repo"]
  environmentScopes := ["env"]
  dataScopes := ["data"]
  capabilityIds := []
  toolGrants := []
  authorityLevel := ⟨1, Nat.one_lt_succ_succ 3⟩
  budgetMinorUnits := 1
  computeUnits := 1
  maxRuntimeMs := 1
  retryLimit := 0
  childLimit := 0
  acceptanceCriteria := ["accepted"]
  verificationCriteria := ["verified"]
  stopCondition := "stop"
  retention := .ARCHIVE

/-- What has to be registered before the request. -/
def preparation : List (Call EventLog) :=
  [.registerObjective owner "o", .registerTask owner "t" "o", .putTemplate owner template]

/-- The run in which one agent is created. -/
def calls (id : EntityId) : List (Call EventLog) := preparation ++ [.instantiate owner (request id)]

/-- The text `a:a:…:a` with `n + 1` letters. -/
def letters : Nat → String
  | 0 => "a"
  | n + 1 => "a:" ++ letters n

/-- What is known of the texts of a creation. -/
theorem creation_checked : ReferenceText "a" ∧ ReferenceText "w" ∧ ReferenceText "owner" ∧ ReferenceText "t"
    ∧ ReferenceText "created" ∧ toISOString 0 = some "1970-01-01T00:00:00.000Z"
    ∧ OperationalEventCapability.issue .AGENT_FACTORY bindings = .ok capability
    ∧ validateFacts .agentCreated [("lifecycle", .text "agent.created")] = .ok () := by
  decide

theorem referenceText_letters (n : Nat) : ReferenceText (letters n) := by
  induction n with
  | zero => exact creation_checked.1
  | succ n ih =>
    refine (referenceText_of_separated (a := "a") (b := letters n) ?_).mpr ⟨creation_checked.1, ih⟩
    simp [letters, String.toList_append]

theorem toISOString_zero : toISOString 0 = some "1970-01-01T00:00:00.000Z" := creation_checked.2.2.2.2.2.1

theorem clock_valid (n : Nat) : ∃ text, toISOString (options.clock n) = some text
    ∧ dateParse text = some (options.clock n) :=
  ⟨"1970-01-01T00:00:00.000Z", toISOString_zero, if_pos rfl⟩

theorem issued : OperationalEventCapability.issue .AGENT_FACTORY bindings = .ok capability :=
  creation_checked.2.2.2.2.2.2.1

/-- Nobody but the factory writes to the log. -/
theorem undisturbed (id : EntityId) :
    Undisturbed (options.withLog dateParse capability) .empty (calls id) where
  initial := ⟨fun _ _ _ h => h, fun _ _ _ h => h⟩
  steps step hstep log' h := by
    simp only [trace, calls, preparation, List.cons_append, List.nil_append, history,
      List.mem_cons, List.not_mem_nil, or_false] at hstep
    rcases hstep with rfl | rfl | rfl | rfl <;> cases h

/-- A request identifier with 239 characters. -/
def longId : EntityId := letters 119

theorem length_letters (n : Nat) : (letters n).toList.length = 2 * n + 1 := by
  induction n with
  | zero => rfl
  | succ n ih =>
    rw [letters, String.toList_append, List.length_append, ih]
    have h : "a:".toList.length = 2 := by decide
    omega

/-- The event of a creation is valid, as long as its identifier is short enough. -/
theorem valid_creationEvent (id : EntityId) (hid : ReferenceText id) (hlength : id.toList.length ≤ 242) :
    ValidEvent dateParse capability owner
      (creationEvent (options.withLog dateParse capability) owner (request id)
        "1970-01-01T00:00:00.000Z") := by
  have hagent : ReferenceText (agentIdOf id) :=
    (referenceText_of_separated (agentIdOf_toList id)).mpr ⟨words_checked.1, hid⟩
  have hrest : ReferenceText (s!"{id}:created") :=
    (referenceText_of_separated (a := id) (b := "created")
      (by simp [toString, String.toList_append])).mpr ⟨hid, creation_checked.2.2.2.2.1⟩
  have hcreated : ReferenceText (createdId id) :=
    (referenceText_of_separated (a := "event") (b := s!"{id}:created")
      (by rw [createdId_toList]; simp [toString, String.toList_append])).mpr
      ⟨words_checked.2.1, hrest⟩
  have hlengths : "event".toList.length = 5 ∧ "created".toList.length = 7
      ∧ "agent".toList.length = 5 := by decide
  have hsafe : SafeReference (createdId id) := by
    refine ⟨hcreated, by rw [createdId_toList]; rfl, ?_⟩
    rw [createdId_toList]
    simp only [List.length_append, List.length_cons]
    omega
  have hsubject : SafeReference (agentIdOf id) := by
    refine ⟨hagent, by rw [agentIdOf_toList]; rfl, ?_⟩
    rw [agentIdOf_toList]
    simp only [List.length_append, List.length_cons]
    omega
  have hworkspace : SafeReference "w" := ⟨creation_checked.2.1, by decide, by decide⟩
  have hactor : SafeReference "owner" := ⟨creation_checked.2.2.1, by decide, by decide⟩
  have htask : SafeReference "t" := ⟨creation_checked.2.2.2.1, by decide, by decide⟩
  have hkind : capability.actorKindFor owner = .ok .HUMAN := by decide
  have htype := words_checked.2.2.2.1
  have htime : (dateParse "1970-01-01T00:00:00.000Z").bind toISOString
      = some "1970-01-01T00:00:00.000Z" := toISOString_zero
  have hfacts := creation_checked.2.2.2.2.2.2.2
  refine ⟨rfl, hkind, rfl, rfl, hsafe, hworkspace, hactor, htype, hsubject, hsafe, ?_, htime, hfacts⟩
  intro correlationId h
  cases h
  exact htask

/-- The state in which the request is made. -/
def prepared : FactoryWorld EventLog :=
  reach (options.withLog dateParse capability) .empty preparation

theorem prepared_sink : prepared.sink = EventLog.empty := rfl

/-- The request with the long identifier is accepted. -/
theorem creation : LoggedCreation (options.withLog dateParse capability) dateParse capability owner
    (request longId) template 0 "1970-01-01T00:00:00.000Z" prepared
    (reach (options.withLog dateParse capability) .empty (calls longId)) := by
  have hadmitted : admitInstantiation (options.withLog dateParse capability) prepared.factory owner
      (request longId) = .ok (template, 0) := by decide +kernel
  have hlength : longId.toList.length ≤ 242 := by
    rw [longId, length_letters]
    omega
  have hvalid := valid_creationEvent longId (referenceText_letters 119) hlength
  generalize longId = id at hadmitted hvalid ⊢
  have hadmits : prepared.sink.Admits dateParse capability owner
      [creationEvent (options.withLog dateParse capability) owner (request id)
        "1970-01-01T00:00:00.000Z"] := by
    rw [prepared_sink]
    exact ⟨List.forall_mem_singleton.mpr (validateOperationalEvent_eq_ok.mpr hvalid),
      List.forall_mem_singleton.mpr rfl, List.nodup_singleton _,
      List.forall_mem_singleton.mpr (Finset.notMem_empty _), List.nodup_singleton _⟩
  have hwritten : toISOString (options.clock prepared.factoryClockReads)
      = some "1970-01-01T00:00:00.000Z" := toISOString_zero
  have hstep : Ensures (answer (options.withLog dateParse capability)
      (.instantiate owner (request id))) prepared (fun _ w' =>
        LoggedCreation (options.withLog dateParse capability) dateParse capability owner
          (request id) template 0 "1970-01-01T00:00:00.000Z" prepared w') := by
    refine ensures_bind_pure.mpr
      ((instantiate_accepted hadmitted hwritten hadmits).mono fun r w' h => ?_)
    rw [h.1]
    exact h.2
  rw [reach, calls, run_concat]
  exact hstep

end Sample

/-- **An agent that cannot be released.** The request with the 239 characters `a:a:…:a` is accepted in a
run that meets all conditions, and the agent it creates can be finalized with no outcome. -/
theorem long_request_never_released :
    ∃ agent ∈ (reach (Sample.options.withLog Sample.dateParse Sample.capability) .empty
        (Sample.calls Sample.longId)).factory.agents,
      agent.lifecycle = .ACTIVE
        ∧ activeChildren (reach (Sample.options.withLog Sample.dateParse Sample.capability) .empty
            (Sample.calls Sample.longId)).factory agent.workspaceId agent.agentId = []
        ∧ "owner" ∈ Sample.options.authorityPrincipals
        ∧ Sample.capability.actorKindFor ⟨agent.workspaceId, "owner"⟩
          = .ok (actorKindOf Sample.options "owner")
        ∧ Undisturbed (Sample.options.withLog Sample.dateParse Sample.capability) .empty
          (Sample.calls Sample.longId)
        ∧ ¬ ∃ outcome, ∀ reason : Option String,
          PrintableText (reason.getD (outcomeCode outcome)) →
            (perform (Sample.options.withLog Sample.dateParse Sample.capability)
              (.complete ⟨agent.workspaceId, "owner"⟩ agent.agentId outcome reason)
              (reach (Sample.options.withLog Sample.dateParse Sample.capability) .empty
                (Sample.calls Sample.longId))).1 = .ok .done := by
  have hcreation := Sample.creation
  have hundisturbed := Sample.undisturbed Sample.longId
  have hlength : Sample.longId.toList.length = 239 := Sample.length_letters 119
  generalize Sample.longId = id at hcreation hundisturbed hlength ⊢
  have hmem : createdAgent (Sample.request id) Sample.template 0 "1970-01-01T00:00:00.000Z"
      ∈ (reach (Sample.options.withLog Sample.dateParse Sample.capability) .empty
        (Sample.calls id)).factory.agents := by
    rw [hcreation.factory]
    exact Store.mem_put_self _ _
  have hkind : Sample.capability.actorKindFor ⟨"w", "owner"⟩
      = .ok (actorKindOf Sample.options "owner") := by decide
  refine ⟨_, hmem, rfl, ?_, by decide, hkind, hundisturbed, ?_⟩
  · rw [hcreation.factory]
    rfl
  · rintro ⟨outcome, h⟩
    have hprintable : PrintableText (outcomeCode outcome) := by cases outcome <;> decide
    have hsafe := safeReference_of_completed hmem rfl (h none hprintable)
    have hbounded := hsafe.bounded
    rw [length_endedId, show (createdAgent (Sample.request id) Sample.template 0
      "1970-01-01T00:00:00.000Z").id = id from rfl, hlength] at hbounded
    have hword : (retentionWord .ARCHIVE).toList.length = 8 := by decide
    exact absurd hbounded (by rw [show (createdAgent (Sample.request id) Sample.template 0
      "1970-01-01T00:00:00.000Z").retention = .ARCHIVE from rfl, hword]; omega)

/-- In the same factory, an agent with a short request identifier can be finalized. -/
theorem short_request_released :
    ∃ outcome, ∀ reason : Option String, PrintableText (reason.getD (outcomeCode outcome)) →
      (perform (Sample.options.withLog Sample.dateParse Sample.capability)
        (.complete Sample.owner "agent:r" outcome reason)
        (reach (Sample.options.withLog Sample.dateParse Sample.capability) .empty
          (Sample.calls "r"))).1 = .ok .done := by
  have hget : (reach (Sample.options.withLog Sample.dateParse Sample.capability) .empty
      (Sample.calls "r")).factory.agents.get? (key "w" "agent:r")
      = some (createdAgent (Sample.request "r") Sample.template 0 "1970-01-01T00:00:00.000Z") := by
    decide
  refine (active_agents_finalizable_iff Sample.options Sample.dateParse Sample.bindings
    Sample.capability .empty (Sample.calls "r") Sample.issued Sample.clock_valid
    (Sample.undisturbed "r") _ (Store.mem_of_get? hget) rfl (by decide) "owner" (by decide)
    (by decide)).mpr (by decide)

end VentureOS.Factory
