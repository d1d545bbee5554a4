import VentureOS.Voice.Effects

/-! # Voice commands are gated

`Effect` collects what one call can do (`perform_effect`). From it follow an invariant of every run
(`Invariant`): the moves that brought a session to where it is are the first steps of one walk of its own
principal, and a session that was routed, and the proof it was routed with, are used up. The gateway's
guarantees about each step (`Gated`) follow from both (`voice_commands_are_gated`). -/

namespace VentureOS.Voice

open ControlPlane Program

variable {ω : Type} {options : VoiceGatewayOptions} {ports : Ports ω}

/-! ## The effect of a call -/

/-- What a call does to the world, and what it answers. -/
inductive Effect (options : VoiceGatewayOptions) :
    Call → Watched ω → Watched ω → Except Failure Answer → Prop
  /-- At most an adapter is registered. -/
  | unchanged {call : Call} {w w' : Watched ω} {r : Except Failure Answer}
      (sessions : w'.gateway.sessions = w.gateway.sessions)
      (history : w'.gateway.history = w.gateway.history)
      (used : w'.gateway.usedTranscriptProofs = w.gateway.usedTranscriptProofs)
      (seen : w'.seen = w.seen) (noResult : ∀ result, r ≠ .ok (.result result)) :
      Effect options call w w' r
  /-- A session is filed. -/
  | created {context : WorkspaceContext} {request : VoiceSessionRequest} {w w' : Watched ω}
      {r : Except Failure Answer} {session : VoiceSession}
      (fresh : w.gateway.sessions.get? (key context.workspaceId request.id) = none)
      (id : session.id = request.id) (workspaceId : session.workspaceId = context.workspaceId)
      (principalId : session.principalId = context.principalId) (idle : session.state = .IDLE)
      (filed : Filed w.gateway w'.gateway session) (seen : w'.seen = w.seen)
      (noResult : ∀ result, r ≠ .ok (.result result)) :
      Effect options (.createSession context request) w w' r
  /-- A session is moved along. -/
  | moved {context : WorkspaceContext} {sessionId : EntityId} {call : Call} {w w' : Watched ω}
      {r : Except Failure Answer} {session session' : VoiceSession}
      (moved : Moved context sessionId call w.gateway w'.gateway session session')
      (seen : w'.seen = w.seen) (noResult : ∀ result, r ≠ .ok (.result result)) :
      Effect options call w w' r
  /-- A transcript is accepted and routed. -/
  | routed {context : WorkspaceContext} {untrusted : FinalTranscriptEnvelope} {w w₁ w' : Watched ω}
      {session session' : VoiceSession} {r : Except Failure VoiceRoutingResult}
      (accepted : Accepted context untrusted w w₁ session session')
      (routes : Routes options context untrusted.sessionId w₁ w' r) :
      Effect options (.routeFinalTranscript context untrusted) w w' (r.map .result)

/-- A quiet method. -/
theorem effect_of_quiet {α : Type} {x : Op (ω × List Observation) α} (hx : Along Quiet x)
    {f : α → Answer} (hf : ∀ a result, f a ≠ .result result) (call : Call) (w : Watched ω) :
    Ensures (do return f (← x)) w (fun r w' => Effect options call w w' r) := by
  rw [ensures_bind_pure]
  refine (hx w).mono fun r w' h => ?_
  have hsame : ∀ r' : Except Failure Answer, (∀ result, r' ≠ .ok (.result result)) →
      Effect options call w w' r' := by
    intro r' hr
    exact Effect.unchanged (by rw [h.1]) (by rw [h.1]) (by rw [h.1]) h.2 hr
  cases r with
  | error e => exact hsame _ fun result hr => by cases hr
  | ok a => exact hsame _ fun result hr => hf a result (Except.ok.inj hr)

variable {context : WorkspaceContext} {call : Call} {sessionId : EntityId}

/-- A method that moves a session. -/
theorem effect_of_moves {x : Op (ω × List Observation) VoiceSession}
    {w : Watched ω}
    (hx : Ensures x w (fun _ w' => MovesOrStays context sessionId call w w')) :
    Ensures (do return Answer.session (some (← x))) w (fun r w' => Effect options call w w' r) := by
  rw [ensures_bind_pure]
  refine hx.mono fun r w' h => ?_
  have hmoved : ∀ r' : Except Failure Answer, (∀ result, r' ≠ .ok (.result result)) →
      Effect options call w w' r' := by
    intro r' hr
    rcases h with h | ⟨hseen, session, session', hmoved⟩
    · exact Effect.unchanged (by rw [h.1]) (by rw [h.1]) (by rw [h.1]) h.2 hr
    · exact Effect.moved hmoved hseen hr
  cases r with
  | _ => exact hmoved _ fun result hr => by cases hr

theorem registerAdapter_effect (context : WorkspaceContext) (metadata : VoiceProviderMetadata)
    (w : Watched ω) :
    Ensures (answer options ports.observed (.registerAdapter context metadata)) w
      (fun r w' => Effect options (.registerAdapter context metadata) w w' r) := by
  unfold answer registerAdapter
  rw [ensures_bind_pure, ensures_lift_bind]
  have refused : ∀ (e : Failure) (w' : Watched ω), Quiet w w' →
      Effect options (.registerAdapter context metadata) w w' (.error e) := by
    intro e w' h
    exact Effect.unchanged (by rw [h.1]) (by rw [h.1]) (by rw [h.1]) h.2 fun result hr => by cases hr
  refine ⟨fun e _ => refused e w (Quiet.refl w), fun _ _ => ?_⟩
  rw [ensures_lift_bind]
  refine ⟨fun e _ => refused e w (Quiet.refl w), fun _ _ => ?_⟩
  refine ensures_quiet_bind (quiet_assertEvidence options ports context metadata) refused
    fun _ w₁ h₁ => ?_
  rw [ensures_get_bind, ensures_lift_bind]
  refine ⟨fun e _ => refused e w₁ h₁, fun _ _ => ?_⟩
  unfold update
  rw [ensures_modify]
  refine Effect.unchanged ?_ ?_ ?_ h₁.2 fun result hr => by cases hr
  · show w₁.gateway.sessions = w.gateway.sessions
    rw [h₁.1]
  · show w₁.gateway.history = w.gateway.history
    rw [h₁.1]
  · show w₁.gateway.usedTranscriptProofs = w.gateway.usedTranscriptProofs
    rw [h₁.1]

theorem createSession_effect (context : WorkspaceContext) (request : VoiceSessionRequest)
    (w : Watched ω) :
    Ensures (answer options ports.observed (.createSession context request)) w
      (fun r w' => Effect options (.createSession context request) w w' r) := by
  unfold answer
  rw [ensures_bind_pure]
  refine (createSession_spec options ports context request w).mono fun r w' h => ?_
  have heffect : ∀ r' : Except Failure Answer, (∀ result, r' ≠ .ok (.result result)) →
      Effect options (.createSession context request) w w' r' := by
    intro r' hr
    rcases h with h | ⟨hseen, hfresh, session, hid, hworkspace, hprincipal, hidle, hfiled⟩
    · exact Effect.unchanged (by rw [h.1]) (by rw [h.1]) (by rw [h.1]) h.2 hr
    · exact Effect.created hfresh hid hworkspace hprincipal hidle hfiled hseen hr
  cases r with
  | _ => exact heffect _ fun result hr => by cases hr

theorem routeFinalTranscript_effect (context : WorkspaceContext) (untrusted : FinalTranscriptEnvelope)
    (w : Watched ω) :
    Ensures (answer options ports.observed (.routeFinalTranscript context untrusted)) w
      (fun r w' => Effect options (.routeFinalTranscript context untrusted) w w' r) := by
  unfold answer
  rw [ensures_bind_pure]
  refine (routeFinalTranscript_spec options ports context untrusted w).mono fun r w' h => ?_
  rcases h with ⟨h, e, rfl⟩ | ⟨session, session', w₁, haccepted, hroutes⟩
  · exact Effect.unchanged (by rw [h.1]) (by rw [h.1]) (by rw [h.1]) h.2 fun result hr => by cases hr
  · cases r with
    | _ => exact Effect.routed haccepted hroutes

/-- **What one call can do.** -/
theorem perform_effect (call : Call) (w : Watched ω) :
    Effect options call w (perform options ports.observed call w).2
      (perform options ports.observed call w).1 := by
  suffices h : Ensures (answer options ports.observed call) w
      (fun r w' => Effect options call w w' r) from h
  cases call with
  | registerAdapter context metadata => exact registerAdapter_effect context metadata w
  | createSession context request => exact createSession_effect context request w
  | requestMicrophonePermission context sessionId =>
    exact effect_of_moves (requestMicrophonePermission_spec options ports context sessionId w)
  | recordMicrophonePermission context sessionId result =>
    exact effect_of_moves (recordMicrophonePermission_spec options ports context sessionId result w)
  | pressToTalk context sessionId =>
    exact effect_of_moves (pressToTalk_spec options ports context sessionId w)
  | releaseToTalk context sessionId =>
    exact effect_of_moves (releaseToTalk_spec options ports context sessionId w)
  | routeFinalTranscript context untrusted => exact routeFinalTranscript_effect context untrusted w
  | stop context sessionId reason =>
    exact effect_of_moves (stop_spec options ports context sessionId reason w)
  | replay context historyEntryId =>
    exact effect_of_quiet (quiet_replay options ports context historyEntryId)
      (fun _ _ h => by cases h) _ w
  | listHistory context =>
    exact effect_of_quiet (quiet_listHistory options context) (fun _ _ h => by cases h) _ w
  | _ =>
    refine effect_of_quiet ?_ (fun _ _ h => by cases h) _ w
    exact (Along.lift Quiet.refl _).bind Quiet.trans fun _ => Along.get_bind fun w => Quiet.refl w

/-! ## Steps and their observations -/

/-- A step of a run. -/
abbrev Step (ω : Type) := Entry Call (Except Failure Answer) (Watched ω)

/-- What was observed during a step. -/
def observationsOf (e : Step ω) : List Observation := e.after.seen.drop e.before.seen.length

/-- The invocations of the router among observations. -/
def invocations (observations : List Observation) :
    List (WorkspaceContext × VoiceCommandRoutingRequest) :=
  observations.filterMap fun
    | .invoked context request => some (context, request)
    | _ => none

/-- The decisions of the router among observations. -/
def decisions (observations : List Observation) : List VoiceCommandRoutingDecision :=
  observations.filterMap fun
    | .decided decision => some decision
    | _ => none

/-- The state of the session under a key. -/
def stateOf (k : Key) (w : Watched ω) : Option VoiceSessionState :=
  (w.gateway.sessions.get? k).map VoiceSession.state

/-- The call and the state it left, if a step changed the state of the session under a key. -/
def moveOf (k : Key) (e : Step ω) : Option (Call × VoiceSessionState) :=
  if stateOf k e.before = stateOf k e.after then none
  else (stateOf k e.after).map fun state => (e.label, state)

/-- The changes of state of the session under a key, in order. -/
def moves (k : Key) (steps : List (Step ω)) : List (Call × VoiceSessionState) :=
  steps.filterMap (moveOf k)

/-- The walk of a session to its transcript: the calls of its principal, and the states they lead to. -/
def walk (context : WorkspaceContext) (request : VoiceSessionRequest) :
    List (Call × VoiceSessionState) :=
  [(.createSession context request, .IDLE),
    (.requestMicrophonePermission context request.id, .REQUESTING_PERMISSION),
    (.recordMicrophonePermission context request.id .GRANTED, .READY),
    (.pressToTalk context request.id, .RECORDING),
    (.releaseToTalk context request.id, .TRANSCRIBING)]

/-- The length of the walk to a state. -/
def stage : VoiceSessionState → Option Nat
  | .IDLE => some 1
  | .REQUESTING_PERMISSION => some 2
  | .READY => some 3
  | .RECORDING => some 4
  | .TRANSCRIBING => some 5
  | _ => none

variable {session : VoiceSession}

/-- A session on its way is off the walk. -/
theorem OnRoute.stage_eq_none {principalId : EntityId}
    (h : OnRoute principalId session) : stage session.state = none := by
  rcases h.2 with h | h
  · rw [h]
    rfl
  · rw [h]
    rfl

variable {state state' : VoiceSessionState} {permission permission' : VoicePermission}

/-- A call moves a session one stage further, or off the walk. -/
theorem Moves.stage_next
    (h : Moves context sessionId call (state, permission) (state', permission')) :
    stage state' = none ∨ ∃ n, stage state = some n ∧ stage state' = some (n + 1) := by
  cases h with
  | requested => exact Or.inr ⟨1, rfl, rfl⟩
  | granted => exact Or.inr ⟨2, rfl, rfl⟩
  | refused _ => exact Or.inl rfl
  | pressed => exact Or.inr ⟨3, rfl, rfl⟩
  | released => exact Or.inr ⟨4, rfl, rfl⟩
  | stopped _ _ => exact Or.inl rfl

/-- The call that takes a session to the next stage is the next one of its walk. -/
theorem Moves.next {request : VoiceSessionRequest}
    {n : Nat}
    (h : Moves context request.id call (state, permission) (state', permission'))
    (hn : stage state = some n) (hnext : stage state' = some (n + 1)) :
    (walk context request)[n]? = some (call, state') := by
  cases h with
  | refused _ => cases hnext
  | stopped _ _ => cases hnext
  | _ =>
    obtain rfl := Option.some.inj hn
    rfl

/-- Permission is granted from the state `READY` on, until the transcript is routed. -/
def Permitted (state : VoiceSessionState) (permission : VoicePermission) : Prop :=
  state = .READY ∨ state = .RECORDING ∨ state = .TRANSCRIBING → permission = .GRANTED

theorem permitted_of_off
    (h : state ≠ .READY ∧ state ≠ .RECORDING ∧ state ≠ .TRANSCRIBING) : Permitted state permission := by
  rintro (hstate | hstate | hstate)
  · exact absurd hstate h.1
  · exact absurd hstate h.2.1
  · exact absurd hstate h.2.2

theorem Moves.permitted
    (h : Moves context sessionId call (state, permission) (state', permission'))
    (hpermitted : Permitted state permission) : Permitted state' permission' := by
  cases h with
  | granted => exact fun _ => rfl
  | pressed => exact fun _ => rfl
  | released => exact fun _ => hpermitted (Or.inr (Or.inl rfl))
  | _ => exact permitted_of_off (by decide)

theorem moves_concat (k : Key) (steps : List (Step ω)) (e : Step ω) :
    moves k (steps ++ [e]) = moves k steps ++ (moveOf k e).toList := by
  unfold moves
  rw [List.filterMap_append]
  cases h : moveOf k e with
  | none => simp [h]
  | some move => simp [h]

theorem moveOf_of_same {k : Key} {e : Step ω}
    (h : e.after.gateway.sessions.get? k = e.before.gateway.sessions.get? k) : moveOf k e = none := by
  unfold moveOf stateOf
  rw [h, if_pos rfl]

/-- Observations added by a step. -/
theorem observations_eq {e : Step ω} {observations : List Observation}
    (h : e.after.seen = e.before.seen ++ observations) : observationsOf e = observations := by
  unfold observationsOf
  rw [h, List.drop_left]

/-! ## The invariant -/

/-- What holds of the steps taken and the world they lead to. -/
structure Invariant (options : VoiceGatewayOptions) (steps : List (Step ω)) (w : Watched ω) : Prop where
  unfiled : ∀ k, w.gateway.sessions.get? k = none → moves k steps = []
  walked : ∀ k session n, w.gateway.sessions.get? k = some session → stage session.state = some n →
    ∃ request : VoiceSessionRequest, request.id = session.id
      ∧ moves k steps = (walk ⟨session.workspaceId, session.principalId⟩ request).take n
  permitted : ∀ k session, w.gateway.sessions.get? k = some session →
    Permitted session.state session.permission
  used : ∀ e ∈ steps, ∀ context untrusted, e.label = .routeFinalTranscript context untrusted →
    invocations (observationsOf e) ≠ [] → proofKey context untrusted ∈ w.gateway.usedTranscriptProofs
      ∧ ∃ session, w.gateway.sessions.get? (key context.workspaceId untrusted.sessionId) = some session
        ∧ stage session.state = none
  bounded : ∀ k entries, w.gateway.history.get? k = some entries →
    (entries.length : Int) ≤ options.maximumHistoryEntriesPerPrincipal

theorem invariant_empty (initial : ω × List Observation) :
    Invariant options ([] : List (Step ω)) ⟨.empty, initial⟩ where
  unfiled _ _ := rfl
  walked k session n h := by cases h
  permitted k session h := by cases h
  used e he := by cases he
  bounded k entries h := by cases h

variable {session' : VoiceSession}

/-- The parts of the invariant that speak of sessions, after a step that files one session. -/
theorem invariant_filed {steps : List (Step ω)} {w w' : Watched ω}
    {r : Except Failure Answer} (h : Invariant options steps w)
    (hget : w'.gateway.sessions.get? (keyOf session') = some session')
    (hothers : ∀ k, k ≠ keyOf session' → w'.gateway.sessions.get? k = w.gateway.sessions.get? k)
    (hwalked : ∀ n, stage session'.state = some n → ∃ request : VoiceSessionRequest,
      request.id = session'.id ∧ moves (keyOf session') (steps ++ [⟨w, call, r, w'⟩])
        = (walk ⟨session'.workspaceId, session'.principalId⟩ request).take n)
    (hpermitted : Permitted session'.state session'.permission)
    (hused : ∀ e ∈ steps ++ [⟨w, call, r, w'⟩], ∀ context untrusted,
      e.label = .routeFinalTranscript context untrusted → invocations (observationsOf e) ≠ [] →
      proofKey context untrusted ∈ w'.gateway.usedTranscriptProofs ∧ ∃ session,
        w'.gateway.sessions.get? (key context.workspaceId untrusted.sessionId) = some session
          ∧ stage session.state = none)
    (hbounded : ∀ k entries, w'.gateway.history.get? k = some entries →
      (entries.length : Int) ≤ options.maximumHistoryEntriesPerPrincipal) :
    Invariant options (steps ++ [⟨w, call, r, w'⟩]) w' := by
  have hmoves : ∀ k, k ≠ keyOf session' → moves k (steps ++ [⟨w, call, r, w'⟩]) = moves k steps := by
    intro k hk
    rw [moves_concat, moveOf_of_same (hothers k hk), Option.toList_none, List.append_nil]
  refine ⟨fun k hnone => ?_, fun k session n hsession hn => ?_, fun k session hsession => ?_, hused, hbounded⟩
  · have hk : k ≠ keyOf session' := by
      rintro rfl
      rw [hget] at hnone
      cases hnone
    rw [hmoves k hk]
    exact h.unfiled k (hothers k hk ▸ hnone)
  · by_cases hk : k = keyOf session'
    · subst hk
      rw [hget, Option.some.injEq] at hsession
      subst hsession
      exact hwalked n hn
    · rw [hmoves k hk]
      exact h.walked k session n (hothers k hk ▸ hsession) hn
  · by_cases hk : k = keyOf session'
    · subst hk
      rw [hget, Option.some.injEq] at hsession
      subst hsession
      exact hpermitted
    · exact h.permitted k session (hothers k hk ▸ hsession)

/-- Invocations recorded before stay used up, if the used proofs stay and no session returns to the
walk. -/
theorem used_concat {steps : List (Step ω)} {w w' : Watched ω}
    {r : Except Failure Answer} (h : Invariant options steps w)
    (hproofs : ∀ k ∈ w.gateway.usedTranscriptProofs, k ∈ w'.gateway.usedTranscriptProofs)
    (hoff : ∀ k session, w.gateway.sessions.get? k = some session → stage session.state = none →
      ∃ session', w'.gateway.sessions.get? k = some session' ∧ stage session'.state = none)
    (hnew : ∀ context untrusted, call = .routeFinalTranscript context untrusted →
      invocations (observationsOf ⟨w, call, r, w'⟩) ≠ [] →
      proofKey context untrusted ∈ w'.gateway.usedTranscriptProofs ∧ ∃ session,
        w'.gateway.sessions.get? (key context.workspaceId untrusted.sessionId) = some session
          ∧ stage session.state = none) :
    ∀ e ∈ steps ++ [⟨w, call, r, w'⟩], ∀ context untrusted,
      e.label = .routeFinalTranscript context untrusted → invocations (observationsOf e) ≠ [] →
      proofKey context untrusted ∈ w'.gateway.usedTranscriptProofs ∧ ∃ session,
        w'.gateway.sessions.get? (key context.workspaceId untrusted.sessionId) = some session
          ∧ stage session.state = none := by
  intro e he context untrusted hlabel hinvoked
  rcases List.mem_append.mp he with he | he
  · obtain ⟨hproof, session, hsession, hstage⟩ := h.used e he context untrusted hlabel hinvoked
    exact ⟨hproofs _ hproof, hoff _ session hsession hstage⟩
  · obtain rfl := List.mem_singleton.mp he
    exact hnew context untrusted hlabel hinvoked

/-- Without observations nothing was invoked. -/
theorem invocations_of_same {e : Step ω} (h : e.after.seen = e.before.seen) :
    invocations (observationsOf e) = [] := by
  rw [@observations_eq _ e [] (by rw [h, List.append_nil])]
  rfl

section Steps

variable {steps : List (Step ω)} {w w' : Watched ω} {r : Except Failure Answer}

/-- A step that changes neither sessions nor history nor used proofs. -/
theorem invariant_unchanged (h : Invariant options steps w)
    (sessions : w'.gateway.sessions = w.gateway.sessions)
    (history : w'.gateway.history = w.gateway.history)
    (used : w'.gateway.usedTranscriptProofs = w.gateway.usedTranscriptProofs)
    (seen : w'.seen = w.seen) : Invariant options (steps ++ [⟨w, call, r, w'⟩]) w' := by
  have hmoves : ∀ k, moves k (steps ++ [⟨w, call, r, w'⟩]) = moves k steps := by
    intro k
    rw [moves_concat, moveOf_of_same (by simp only [sessions]), Option.toList_none, List.append_nil]
  refine ⟨fun k hnone => ?_, fun k session n hsession hn => ?_, fun k session hsession => ?_, ?_,
    fun k entries hentries => ?_⟩
  · rw [hmoves]
    exact h.unfiled k (sessions ▸ hnone)
  · rw [hmoves]
    exact h.walked k session n (sessions ▸ hsession) hn
  · exact h.permitted k session (sessions ▸ hsession)
  · refine used_concat h (fun k hk => used ▸ hk) (fun k session hsession hoff => ?_)
      fun context untrusted _ hinvoked => ?_
    · exact ⟨session, sessions ▸ hsession, hoff⟩
    · exact absurd (invocations_of_same seen) hinvoked
  · exact h.bounded k entries (history ▸ hentries)

/-- A step that creates a session: the walk starts. -/
theorem invariant_created {request : VoiceSessionRequest}
    (h : Invariant options steps w)
    (fresh : w.gateway.sessions.get? (key context.workspaceId request.id) = none)
    (id : session.id = request.id) (workspaceId : session.workspaceId = context.workspaceId)
    (principalId : session.principalId = context.principalId) (idle : session.state = .IDLE)
    (filed : Filed w.gateway w'.gateway session) :
    Invariant options (steps ++ [⟨w, .createSession context request, r, w'⟩]) w' := by
  have hkey : keyOf session = key context.workspaceId request.id := by
    rw [keyOf_session, id, workspaceId]
  have hget : w'.gateway.sessions.get? (keyOf session) = some session := by
    rw [filed.sessions, if_pos rfl]
  have hothers : ∀ k, k ≠ keyOf session → w'.gateway.sessions.get? k = w.gateway.sessions.get? k := by
    intro k hk
    rw [filed.sessions, if_neg hk]
  refine invariant_filed h hget hothers (fun n hn => ⟨request, id.symm, ?_⟩) ?_ ?_
    fun k entries hentries => h.bounded k entries (filed.history ▸ hentries)
  · rw [idle] at hn
    obtain rfl := Option.some.inj hn
    rw [moves_concat, hkey, h.unfiled _ fresh]
    unfold moveOf stateOf
    rw [← hkey, hget, hkey, fresh, workspaceId, principalId]
    simp [idle, walk]
  · rw [idle]
    exact permitted_of_off (by decide)
  · refine used_concat h (fun k hk => filed.usedTranscriptProofs ▸ hk) (fun k old hold hoff => ?_)
      fun _ _ hcall => by cases hcall
    have hk : k ≠ keyOf session := by
      rintro rfl
      rw [hkey, fresh] at hold
      cases hold
    exact ⟨old, (hothers k hk).trans hold, hoff⟩

/-- A step that moves a session: the walk goes on, or the session leaves it. -/
theorem invariant_moved
    (h : Invariant options steps w)
    (moved : Moved context sessionId call w.gateway w'.gateway session session')
    (seen : w'.seen = w.seen) : Invariant options (steps ++ [⟨w, call, r, w'⟩]) w' := by
  have hkeyOld : keyOf session = key context.workspaceId sessionId := Store.keyOf_of_get? moved.found
  have hkey : keyOf session' = key context.workspaceId sessionId := by
    rw [← hkeyOld, keyOf_session, keyOf_session, moved.identity.id, moved.identity.workspaceId]
  have hget : w'.gateway.sessions.get? (keyOf session') = some session' := by
    rw [moved.filed.sessions, if_pos rfl]
  have hothers : ∀ k, k ≠ keyOf session' → w'.gateway.sessions.get? k = w.gateway.sessions.get? k := by
    intro k hk
    rw [moved.filed.sessions, if_neg hk]
  refine invariant_filed h hget hothers (fun n hn => ?_)
    (moved.moves.permitted (h.permitted _ session moved.found)) ?_
    fun k entries hentries => h.bounded k entries (moved.filed.history ▸ hentries)
  · -- The session was on the walk before, one step earlier.
    have hid : session.id = sessionId := by
      rw [keyOf_session, key_inj] at hkeyOld
      exact hkeyOld.2
    have hworkspace : session.workspaceId = context.workspaceId := by
      rw [keyOf_session, key_inj] at hkeyOld
      exact hkeyOld.1
    rcases moved.moves.stage_next with hoff | ⟨m, hm, hnext⟩
    · rw [hoff] at hn
      cases hn
    obtain ⟨request, hrequest, hwalk⟩ := h.walked _ session m moved.found hm
    rw [hid] at hrequest
    subst hrequest
    have hstep := moved.moves.next hm hnext
    rw [hnext, Option.some.injEq] at hn
    subst hn
    have hne : session.state ≠ session'.state := by
      intro heq
      rw [heq, hnext] at hm
      simp at hm
    refine ⟨request, moved.identity.id ▸ hid.symm, ?_⟩
    rw [moves_concat, hkey, hwalk, moved.identity.workspaceId, moved.identity.principalId,
      hworkspace, moved.principal, List.take_add_one, hstep]
    unfold moveOf stateOf
    rw [← hkey, hget, hkey, moved.found]
    simp [hne]
  · refine used_concat h (fun k hk => moved.filed.usedTranscriptProofs ▸ hk)
      (fun k old hold hoff => ?_) fun _ _ _ hinvoked => absurd (invocations_of_same seen) hinvoked
    by_cases hk : k = keyOf session'
    · subst hk
      rw [hkey, moved.found, Option.some.injEq] at hold
      subst hold
      refine ⟨session', hget, ?_⟩
      rcases moved.moves.stage_next with hstage | ⟨m, hm, -⟩
      · exact hstage
      · rw [hoff] at hm
        cases hm
    · exact ⟨old, (hothers k hk).trans hold, hoff⟩

/-- A step that routes a transcript: its session leaves the walk, and its proof is used up. -/
theorem invariant_routed {untrusted : FinalTranscriptEnvelope}
    {w₁ : Watched ω} {r' : Except Failure VoiceRoutingResult}
    (h : Invariant options steps w) (accepted : Accepted context untrusted w w₁ session session')
    (routes : Routes options context untrusted.sessionId w₁ w' r') :
    Invariant options (steps ++ [⟨w, .routeFinalTranscript context untrusted, r, w'⟩]) w' := by
  have hkeyOld := Store.keyOf_of_get? accepted.found
  have hkey : keyOf session' = key context.workspaceId untrusted.sessionId := by
    rw [← hkeyOld, keyOf_session, keyOf_session, accepted.identity.id, accepted.identity.workspaceId]
  obtain ⟨advances, -⟩ := routes
  obtain ⟨final, hfinal, hroute⟩ := advances.onRoute ⟨session', by
      rw [accepted.sessions, hkey, if_pos rfl],
    accepted.identity.principalId.trans accepted.principal, Or.inl accepted.routing⟩
  have hkeyFinal := Store.keyOf_of_get? hfinal
  have hproofs : w'.gateway.usedTranscriptProofs
      = proofKey context untrusted :: w.gateway.usedTranscriptProofs := by
    rw [advances.usedTranscriptProofs, accepted.usedTranscriptProofs]
  have hget : w'.gateway.sessions.get? (keyOf final) = some final := by rw [hkeyFinal, hfinal]
  have hothers : ∀ k, k ≠ keyOf final → w'.gateway.sessions.get? k = w.gateway.sessions.get? k := by
    intro k hk
    rw [hkeyFinal] at hk
    rw [advances.others k hk, accepted.sessions, if_neg (hkey ▸ hk)]
  refine invariant_filed h hget hothers (fun n hn => ?_) (permitted_of_off ?_) ?_ fun k entries hentries => ?_
  · rw [hroute.stage_eq_none] at hn
    cases hn
  · rcases hroute.2 with hstate | hstate
    · rw [hstate]
      decide
    · rw [hstate]
      decide
  · refine used_concat h (fun k hk => ?_) (fun k old hold hoff => ?_) fun context' untrusted' hcall _ => ?_
    · rw [hproofs]
      exact List.mem_cons_of_mem _ hk
    · by_cases hk : k = keyOf final
      · subst hk
        exact ⟨final, hget, hroute.stage_eq_none⟩
      · exact ⟨old, (hothers k hk).trans hold, hoff⟩
    · rw [Call.routeFinalTranscript.injEq] at hcall
      obtain ⟨rfl, rfl⟩ := hcall
      rw [hproofs]
      exact ⟨List.mem_cons_self, final, hfinal, hroute.stage_eq_none⟩
  · rcases advances.history k with hsame | ⟨entries', hentries', hlength⟩
    · rw [hsame, accepted.history] at hentries
      exact h.bounded k entries hentries
    · rw [hentries', Option.some.injEq] at hentries
      exact hentries ▸ hlength

/-- **The invariant is kept** by every call. -/
theorem invariant_step (h : Invariant options steps w)
    (effect : Effect options call w w' r) : Invariant options (steps ++ [⟨w, call, r, w'⟩]) w' := by
  cases effect with
  | unchanged sessions history used seen _ => exact invariant_unchanged h sessions history used seen
  | created fresh id workspaceId principalId idle filed _ _ =>
    exact invariant_created h fresh id workspaceId principalId idle filed
  | moved moved seen _ => exact invariant_moved h moved seen
  | routed accepted routes => exact invariant_routed h accepted routes

end Steps

/-! ## The guarantees -/

/-- What the gateway guarantees about a step that follows the steps `past`. -/
structure Gated (options : VoiceGatewayOptions) (past : List (Step ω)) (e : Step ω) : Prop where
  /-- The router is invoked once, for a transcript of a session of the caller that walked from `IDLE` to
  `TRANSCRIBING` by the calls of the same principal, with the microphone granted; it was not invoked for
  the session or with the proof before. -/
  invoked : ∀ context request, (context, request) ∈ invocations (observationsOf e) →
    ∃ untrusted, e.label = .routeFinalTranscript context untrusted
      ∧ invocations (observationsOf e) = [(context, request)]
      ∧ Linked context untrusted.sessionId request
      ∧ (∃ session, e.before.gateway.sessions.get? (key context.workspaceId untrusted.sessionId)
          = some session ∧ session.principalId = context.principalId
          ∧ session.state = .TRANSCRIBING ∧ session.permission = .GRANTED)
      ∧ (∃ creation, creation.id = untrusted.sessionId
          ∧ moves (key context.workspaceId untrusted.sessionId) past = walk context creation)
      ∧ ∀ e' ∈ past, ∀ context' untrusted', e'.label = .routeFinalTranscript context' untrusted' →
          invocations (observationsOf e') ≠ [] →
          key context'.workspaceId untrusted'.sessionId ≠ key context.workspaceId untrusted.sessionId
            ∧ key context'.workspaceId untrusted'.proof ≠ key context.workspaceId untrusted.proof
  /-- A routine outcome is within the authority. -/
  routine : ∀ result, e.outcome = .ok (.result result) → result.outcome = .ROUTINE →
    ∃ context authority request decision, observationsOf e
        = [.evaluated context authority, .invoked context request, .decided decision]
      ∧ authority.allowed = true ∧ decision.outcome = .ROUTINE
      ∧ decision.requiredAuthority ≤ min authority.maximumAuthority 3
  /-- A confirmation is required iff the decision requires level 4. -/
  confirmation : ∀ result, e.outcome = .ok (.result result) → (result.confirmation.isSome = true ↔
    ∃ decision ∈ decisions (observationsOf e), decision.requiredAuthority = 4)
  /-- A stopped or failed session stays as it is. -/
  terminal : ∀ k session, e.before.gateway.sessions.get? k = some session →
    session.state = .STOPPED ∨ session.state = .FAILED →
    e.after.gateway.sessions.get? k = some session
  /-- Every history is bounded. -/
  bounded : ∀ k entries, e.after.gateway.history.get? k = some entries →
    (entries.length : Int) ≤ options.maximumHistoryEntriesPerPrincipal

/-- A decision that passes the checks on its authority. -/
theorem checkAuthority_eq_ok {authority : VoiceAuthorityDecision}
    {decision : VoiceCommandRoutingDecision} : checkAuthority authority decision = .ok () ↔
      (decision.outcome ≠ .LEVEL_4 → decision.requiredAuthority ≤ authority.maximumAuthority)
        ∧ (decision.requiredAuthority = 4 ↔ decision.outcome = .LEVEL_4) := by
  unfold checkAuthority
  rw [check_bind_eq_ok, check_bind_eq_ok, throwIf_eq_ok, throwIf_eq_ok, throwIf_eq_ok]
  by_cases houtcome : decision.outcome = .LEVEL_4
  · simp [houtcome]
  · simp [houtcome, not_lt]

theorem Moves.not_terminal
    (h : Moves context sessionId call (state, permission) (state', permission')) :
    state ≠ .STOPPED ∧ state ≠ .FAILED := by
  cases h with
  | stopped notStopped notFailed => exact ⟨notStopped, notFailed⟩
  | _ => decide

variable {result : VoiceRoutingResult}

section Guarantees

variable {steps : List (Step ω)} {w w' : Watched ω} {r : Except Failure Answer}

/-- A stopped or failed session stays as it is. -/
theorem terminal_of_effect (effect : Effect options call w w' r) {k : Key}
    (hsession : w.gateway.sessions.get? k = some session)
    (hterminal : session.state = .STOPPED ∨ session.state = .FAILED) :
    w'.gateway.sessions.get? k = some session := by
  cases effect with
  | unchanged sessions _ _ _ _ => rw [sessions, hsession]
  | @created context request _ _ _ new fresh id workspaceId _ _ filed _ _ =>
    have hk : k ≠ keyOf new := by
      rintro rfl
      rw [keyOf_session, id, workspaceId, fresh] at hsession
      cases hsession
    rw [filed.sessions, if_neg hk, hsession]
  | @moved context sessionId _ _ _ _ old new moved _ _ =>
    have hkeyOld := Store.keyOf_of_get? moved.found
    have hk : k ≠ keyOf new := by
      rintro rfl
      have hkey : keyOf new = key context.workspaceId sessionId := by
        rw [← hkeyOld, keyOf_session, keyOf_session, moved.identity.id, moved.identity.workspaceId]
      rw [hkey, moved.found, Option.some.injEq] at hsession
      subst hsession
      have hnot := moved.moves.not_terminal
      exact hterminal.elim hnot.1 hnot.2
    rw [moved.filed.sessions, if_neg hk, hsession]
  | @routed context untrusted _ w₁ _ old new r' accepted routes =>
    have hkeyOld := Store.keyOf_of_get? accepted.found
    have hkey : keyOf new = key context.workspaceId untrusted.sessionId := by
      rw [← hkeyOld, keyOf_session, keyOf_session, accepted.identity.id, accepted.identity.workspaceId]
    have hk : k ≠ key context.workspaceId untrusted.sessionId := by
      rintro rfl
      rw [accepted.found, Option.some.injEq] at hsession
      subst hsession
      rw [accepted.transcribing] at hterminal
      rcases hterminal with h | h
      · cases h
      · cases h
    rw [routes.1.others k hk, accepted.sessions, if_neg (hkey ▸ hk), hsession]

/-- A result comes from a routing, and the step observed what the routing did. -/
theorem routing_of_result (effect : Effect options call w w' r)
    (hresult : r = .ok (.result result)) : ∃ context sessionId,
      Routing context sessionId (observationsOf ⟨w, call, r, w'⟩) (.ok result) := by
  cases effect with
  | unchanged _ _ _ _ noResult => exact absurd hresult (noResult result)
  | created _ _ _ _ _ _ _ noResult => exact absurd hresult (noResult result)
  | moved _ _ noResult => exact absurd hresult (noResult result)
  | @routed context untrusted _ w₁ _ old new r' accepted routes =>
    obtain ⟨-, observations, hseen, hrouting⟩ := routes
    rw [accepted.seen] at hseen
    rw [observations_eq hseen]
    cases r' with
    | error e => cases hresult
    | ok result' =>
      obtain rfl : result' = result := by
        simpa [Except.map] using hresult
      exact ⟨context, untrusted.sessionId, hrouting⟩

/-- A routine outcome is within the authority. -/
theorem routine_of_effect (effect : Effect options call w w' r)
    (hresult : r = .ok (.result result)) (hroutine : result.outcome = .ROUTINE) :
    ∃ context authority request decision, observationsOf ⟨w, call, r, w'⟩
        = [.evaluated context authority, .invoked context request, .decided decision]
      ∧ authority.allowed = true ∧ decision.outcome = .ROUTINE
      ∧ decision.requiredAuthority ≤ min authority.maximumAuthority 3 := by
  obtain ⟨context, sessionId, hrouting⟩ := routing_of_result effect hresult
  generalize observationsOf ⟨w, call, r, w'⟩ = observations at hrouting ⊢
  cases hrouting with
  | denied _ outcome _ =>
    rw [hroutine] at outcome
    cases outcome
  | @answered authority request decision text allowed _ bounded checked =>
    have houtcome : decision.outcome = .ROUTINE := hroutine
    rw [checkAuthority_eq_ok, houtcome] at checked
    refine ⟨context, authority, request, decision, rfl, allowed, houtcome, ?_⟩
    have hmaximum := checked.1 (by decide)
    have hnot4 : decision.requiredAuthority ≠ 4 := fun h => by cases checked.2.mp h
    omega

/-- A confirmation is required iff the decision requires level 4. -/
theorem confirmation_of_effect (effect : Effect options call w w' r)
    (hresult : r = .ok (.result result)) : result.confirmation.isSome = true ↔
      ∃ decision ∈ decisions (observationsOf ⟨w, call, r, w'⟩), decision.requiredAuthority = 4 := by
  obtain ⟨context, sessionId, hrouting⟩ := routing_of_result effect hresult
  generalize observationsOf ⟨w, call, r, w'⟩ = observations at hrouting ⊢
  cases hrouting with
  | denied _ _ confirmation => simp [confirmation, decisions]
  | @answered authority request decision text _ _ _ checked =>
    have h4 := (checkAuthority_eq_ok.mp checked).2
    by_cases houtcome : decision.outcome = .LEVEL_4
    · simp [routingResult, decisions, houtcome, h4]
    · simp [routingResult, decisions, houtcome, h4]

/-- The router is invoked only as the gateway guarantees. -/
theorem invoked_of_effect (h : Invariant options steps w) (effect : Effect options call w w' r)
    {request : VoiceCommandRoutingRequest}
    (hinvoked : (context, request) ∈ invocations (observationsOf ⟨w, call, r, w'⟩)) :
    ∃ untrusted, call = .routeFinalTranscript context untrusted
      ∧ invocations (observationsOf ⟨w, call, r, w'⟩) = [(context, request)]
      ∧ Linked context untrusted.sessionId request
      ∧ (∃ session, w.gateway.sessions.get? (key context.workspaceId untrusted.sessionId)
          = some session ∧ session.principalId = context.principalId
          ∧ session.state = .TRANSCRIBING ∧ session.permission = .GRANTED)
      ∧ (∃ creation, creation.id = untrusted.sessionId
          ∧ moves (key context.workspaceId untrusted.sessionId) steps = walk context creation)
      ∧ ∀ e' ∈ steps, ∀ context' untrusted', e'.label = .routeFinalTranscript context' untrusted' →
          invocations (observationsOf e') ≠ [] →
          key context'.workspaceId untrusted'.sessionId ≠ key context.workspaceId untrusted.sessionId
            ∧ key context'.workspaceId untrusted'.proof ≠ key context.workspaceId untrusted.proof := by
  cases effect with
  | unchanged _ _ _ seen _ =>
    rw [invocations_of_same seen] at hinvoked
    cases hinvoked
  | created _ _ _ _ _ _ seen _ =>
    rw [invocations_of_same seen] at hinvoked
    cases hinvoked
  | moved _ seen _ =>
    rw [invocations_of_same seen] at hinvoked
    cases hinvoked
  | @routed context' untrusted _ w₁ _ session new r' accepted routes =>
    obtain ⟨-, observations, hseen, hrouting⟩ := routes
    rw [accepted.seen] at hseen
    rw [observations_eq hseen] at hinvoked ⊢
    -- Whenever the router was invoked, it was for the session of the caller.
    obtain ⟨rfl, hone, hlinked⟩ : context = context' ∧ invocations observations = [(context, request)]
        ∧ Linked context' untrusted.sessionId request := by
      cases hrouting with
      | thrown linked =>
        obtain ⟨rfl, rfl⟩ := Prod.mk.inj (List.mem_singleton.mp hinvoked)
        exact ⟨rfl, rfl, linked⟩
      | rejected linked =>
        obtain ⟨rfl, rfl⟩ := Prod.mk.inj (List.mem_singleton.mp hinvoked)
        exact ⟨rfl, rfl, linked⟩
      | answered _ linked _ _ =>
        obtain ⟨rfl, rfl⟩ := Prod.mk.inj (List.mem_singleton.mp hinvoked)
        exact ⟨rfl, rfl, linked⟩
      | _ => cases hinvoked
    have hkey := Store.keyOf_of_get? accepted.found
    rw [keyOf_session, key_inj] at hkey
    refine ⟨untrusted, rfl, hone, hlinked, ⟨session, accepted.found, accepted.principal,
      accepted.transcribing, ?_⟩, ?_, fun e' he' context' untrusted' hlabel hother => ⟨?_, ?_⟩⟩
    · exact h.permitted _ session accepted.found (Or.inr (Or.inr accepted.transcribing))
    · obtain ⟨creation, hcreation, hwalk⟩ := h.walked _ session 5 accepted.found
        (by rw [accepted.transcribing]; rfl)
      refine ⟨creation, hcreation.trans hkey.2, ?_⟩
      rw [hwalk, hkey.1, accepted.principal]
      rfl
    · intro hsame
      obtain ⟨-, old, hold, hoff⟩ := h.used e' he' context' untrusted' hlabel hother
      rw [hsame, accepted.found, Option.some.injEq] at hold
      rw [← hold, accepted.transcribing] at hoff
      cases hoff
    · intro hsame
      obtain ⟨hproof, -⟩ := h.used e' he' context' untrusted' hlabel hother
      unfold proofKey at hproof
      rw [hsame] at hproof
      exact accepted.fresh hproof

theorem gated_of_effect (h : Invariant options steps w) (effect : Effect options call w w' r) :
    Gated options steps ⟨w, call, r, w'⟩ where
  invoked _ _ hinvoked := invoked_of_effect h effect hinvoked
  routine _ hresult hroutine := routine_of_effect effect hresult hroutine
  confirmation _ hresult := confirmation_of_effect effect hresult
  terminal _ _ hsession hterminal := terminal_of_effect effect hsession hterminal
  bounded := (invariant_step h effect).bounded

end Guarantees

/-- **Voice commands are gated.** Over every history of calls of a gateway, whatever its ports answer or
throw, every step is gated with regard to the steps before it. -/
theorem voice_commands_are_gated (options : VoiceGatewayOptions) (ports : Ports ω) (initial : ω)
    (calls : List Call) :
    EachStep (Gated options) [] (trace options ports.observed (initial, []) calls) := by
  -- The invariant of the run says of every step what the gateway needs to know of the past.
  suffices h : Invariant options (trace options ports.observed (initial, []) calls)
      (reach options ports.observed (initial, []) calls)
      ∧ EachStep (Gated options) [] (trace options ports.observed (initial, []) calls) from h.2
  refine @history_induction _ _ _ (perform options ports.observed)
    (fun steps w => Invariant options steps w ∧ EachStep (Gated options) [] steps) _
    ⟨invariant_empty _, trivial⟩ (fun pre call ih => ?_) calls
  have heffect := @perform_effect ω options ports call
    (run (perform options ports.observed) ⟨.empty, (initial, [])⟩ pre)
  refine ⟨invariant_step ih.1 heffect, ?_⟩
  rw [eachStep_concat]
  exact ⟨ih.2, gated_of_effect ih.1 heffect⟩

end VentureOS.Voice
