import VentureOS.Voice.Gateway

/-! # What a call does to the gateway

The ports are observed: `Ports.observed` keeps the ports as they are and writes down what the authority
answered, when the router was invoked and what it decided. `perform_effect` says once what a call can do:
nothing, file a new session, move a session along (`Moves`), or take a transcript to the router
(`Routing`). -/

namespace VentureOS.Voice

open ControlPlane Program

/-! ## Observed ports -/

/-- What is written down of the ports. -/
inductive Observation where
  | evaluated (context : WorkspaceContext) (authority : VoiceAuthorityDecision)
  | invoked (context : WorkspaceContext) (request : VoiceCommandRoutingRequest)
  | decided (decision : VoiceCommandRoutingDecision)
  deriving DecidableEq, Repr

variable {ω α : Type}

/-- Run a port beside the observations. -/
def aside (x : Program Failure ω α) : Program Failure (ω × List Observation) α :=
  focus Prod.fst (fun t s => (s, t.2)) x

/-- Write an observation down. -/
def observe (o : Observation) : Program Failure (ω × List Observation) PUnit :=
  modify fun t => (t.1, t.2 ++ [o])

/-- The ports, observed. -/
def Ports.observed (ports : Ports ω) : Ports (ω × List Observation) where
  clock := aside ports.clock
  idFactory := aside ports.idFactory
  proofVerifier context envelope adapter := aside (ports.proofVerifier context envelope adapter)
  adapterEvidenceVerifier context metadata := aside (ports.adapterEvidenceVerifier context metadata)
  transcriptHasher context transcript := aside (ports.transcriptHasher context transcript)
  authority context := do
    let authority ← aside (ports.authority context)
    observe (.evaluated context authority)
    return authority
  router context request := do
    observe (.invoked context request)
    let decision ← aside (ports.router context request)
    observe (.decided decision)
    return decision

/-- The world of observed ports. -/
abbrev Watched (ω : Type) := World (ω × List Observation)

/-- The observations so far. -/
def World.seen (w : Watched ω) : List Observation := w.foreign.2

/-! ## Calls without an effect on the gateway -/

/-- Nothing happened to the gateway, and nothing was observed. -/
def Quiet (w w' : Watched ω) : Prop := w'.gateway = w.gateway ∧ w'.seen = w.seen

theorem Quiet.refl (w : Watched ω) : Quiet w w := ⟨rfl, rfl⟩

theorem Quiet.trans (w w' w'' : Watched ω) (h : Quiet w w') (h' : Quiet w' w'') : Quiet w w'' :=
  ⟨h'.1.trans h.1, h'.2.trans h.2⟩

theorem quiet_aside (x : Program Failure ω α) : Along Quiet (port (aside x)) := by
  intro w
  unfold port aside
  rw [ensures_focus, ensures_focus]
  exact ⟨rfl, rfl⟩

variable {w : Watched ω}

/-- A quiet program before another one. -/
theorem ensures_quiet_bind {β : Type} {x : Op (ω × List Observation) α} (hx : Along Quiet x)
    {f : α → Op (ω × List Observation) β}
    {Q : Except Failure β → Watched ω → Prop} (throws : ∀ e w', Quiet w w' → Q (.error e) w')
    (next : ∀ a w', Quiet w w' → Ensures (f a) w' Q) : Ensures (x >>= f) w Q := by
  rw [ensures_bind]
  refine (hx w).mono fun r w' hquiet => ?_
  cases r with
  | error e => exact throws e w' hquiet
  | ok a => exact next a w' hquiet

variable (options : VoiceGatewayOptions) (ports : Ports ω)

theorem quiet_requireAdapter (context : WorkspaceContext) (adapterId : EntityId)
    (kind : VoiceAdapterKind) :
    Along Quiet (requireAdapter context adapterId kind : Op (ω × List Observation) _) := by
  refine Along.get_bind fun w => ?_
  split
  · split
    · exact Quiet.refl w
    · exact Quiet.refl w
  · exact Quiet.refl w

theorem quiet_assertEvidence (context : WorkspaceContext) (adapter : VoiceProviderMetadata) :
    Along Quiet (assertEvidence options ports.observed context adapter) := by
  refine (Along.lift Quiet.refl _).bind Quiet.trans fun evidenceAt => ?_
  refine (quiet_aside ports.clock).bind Quiet.trans fun now => ?_
  refine (Along.lift Quiet.refl _).bind Quiet.trans fun _ => ?_
  refine (quiet_aside _).bind Quiet.trans fun valid => ?_
  exact Along.lift Quiet.refl _

theorem quiet_assertAdapterUsable (context : WorkspaceContext) (adapter : VoiceProviderMetadata)
    (browser : BrowserVoiceCapabilities) :
    Along Quiet (assertAdapterUsable options ports.observed context adapter browser) := by
  refine (quiet_assertEvidence options ports context adapter).bind Quiet.trans fun _ => ?_
  refine (Along.lift Quiet.refl _).bind Quiet.trans fun _ => ?_
  exact Along.lift Quiet.refl _

theorem quiet_hashTranscript (context : WorkspaceContext) (transcript : String) :
    Along Quiet (hashTranscript ports.observed context transcript) := by
  refine (quiet_aside _).bind Quiet.trans fun digest => ?_
  refine (Along.lift Quiet.refl _).bind Quiet.trans fun _ => ?_
  exact Along.pure Quiet.refl digest

theorem quiet_requireSession (context : WorkspaceContext) (sessionId : EntityId) :
    Along Quiet (requireSession options context sessionId : Op (ω × List Observation) _) := by
  refine (Along.lift Quiet.refl _).bind Quiet.trans fun _ => Along.get_bind fun w => ?_
  split
  · split
    · exact Quiet.refl w
    · exact Quiet.refl w
  · exact Quiet.refl w

theorem quiet_listHistory (context : WorkspaceContext) :
    Along Quiet (listHistory options context : Op (ω × List Observation) _) := by
  refine (Along.lift Quiet.refl _).bind Quiet.trans fun _ => Along.get_bind fun w => ?_
  exact Quiet.refl w

theorem quiet_replay (context : WorkspaceContext) (historyEntryId : EntityId) :
    Along Quiet (replay options ports.observed context historyEntryId) := by
  refine (Along.lift Quiet.refl _).bind Quiet.trans fun _ => ?_
  refine (quiet_listHistory options context).bind Quiet.trans fun entries => ?_
  split
  · exact Along.throw Quiet.refl _
  · refine (quiet_requireSession options context _).bind Quiet.trans fun session => ?_
    split
    · exact Along.throw Quiet.refl _
    · refine (quiet_requireAdapter context _ _).bind Quiet.trans fun adapter => ?_
      refine (quiet_assertEvidence options ports context adapter).bind Quiet.trans fun _ => ?_
      refine (Along.lift Quiet.refl _).bind Quiet.trans fun _ => ?_
      refine (Along.lift Quiet.refl _).bind Quiet.trans fun _ => ?_
      exact Along.pure Quiet.refl _

/-! ## Sessions -/

/-- The session is filed; the other sessions, the history and the used transcripts stay. -/
structure Filed (g g' : GovernedVoiceGateway) (session : VoiceSession) : Prop where
  sessions : ∀ k, g'.sessions.get? k = if k = keyOf session then some session else g.sessions.get? k
  history : g'.history = g.history
  usedTranscriptProofs : g'.usedTranscriptProofs = g.usedTranscriptProofs

/-- What a session keeps for good. -/
structure SameIdentity (session session' : VoiceSession) : Prop where
  id : session'.id = session.id
  workspaceId : session'.workspaceId = session.workspaceId
  principalId : session'.principalId = session.principalId

/-- A touched session is filed with a new time, or the clock throws. -/
theorem touch_spec (session : VoiceSession) (w : Watched ω) :
    Ensures (touch ports.observed session) w (fun r w' => (Quiet w w' ∧ ∃ e, r = .error e) ∨
      w'.seen = w.seen ∧ ∃ text, r = .ok { session with updatedAt := text }
        ∧ Filed w.gateway w'.gateway { session with updatedAt := text }) := by
  unfold touch
  refine ensures_quiet_bind (quiet_aside ports.clock) (fun e w' h => Or.inl ⟨h, e, rfl⟩)
    fun now w' h => ?_
  rw [ensures_lift_bind]
  refine ⟨fun e _ => Or.inl ⟨h, e, rfl⟩, fun text _ => ?_⟩
  rw [ensures_bind_pure]
  unfold putSession update
  rw [ensures_modify]
  refine Or.inr ⟨h.2, text, rfl, ?_⟩
  rw [← h.1]
  exact ⟨fun k => Store.get?_put _ _ _, rfl, rfl⟩

variable {session : VoiceSession}

/-- Filing a session again under its key. -/
theorem Filed.again {g g' g'' : GovernedVoiceGateway} {session' : VoiceSession}
    (h : Filed g g' session) (h' : Filed g' g'' session') (hkey : keyOf session' = keyOf session) :
    Filed g g'' session' := by
  refine ⟨fun k => ?_, h'.history.trans h.history, h'.usedTranscriptProofs.trans h.usedTranscriptProofs⟩
  rw [h'.sessions, h.sessions, hkey]
  split
  · rfl
  · rfl

/-- A session that is changed in place and touched. -/
theorem put_touch_spec (session : VoiceSession) (w : Watched ω) :
    Ensures (do putSession session; touch ports.observed session) w (fun _ w' =>
      w'.seen = w.seen ∧ ∃ text, Filed w.gateway w'.gateway { session with updatedAt := text }) := by
  rw [ensures_bind]
  unfold putSession update
  rw [ensures_modify]
  have hput : Filed w.gateway { w.gateway with sessions := w.gateway.sessions.put session } session :=
    ⟨fun k => Store.get?_put _ _ _, rfl, rfl⟩
  refine (touch_spec ports session _).mono fun r w' h => ?_
  rcases h with ⟨h, -⟩ | ⟨hseen, text, -, hfiled⟩
  · refine ⟨h.2, session.updatedAt, ?_⟩
    rw [h.1]
    exact hput
  · exact ⟨hseen, text, hput.again hfiled rfl⟩

variable {context : WorkspaceContext}

/-- After the session of the caller was found. -/
theorem ensures_requireSession_bind {β : Type} {sessionId : EntityId}
    {f : VoiceSession → Op (ω × List Observation) β}
    {Q : Except Failure β → Watched ω → Prop} (throws : ∀ e, Q (.error e) w)
    (next : ∀ session, w.gateway.sessions.get? (key context.workspaceId sessionId) = some session →
      session.principalId = context.principalId → Ensures (f session) w Q) :
    Ensures (requireSession options context sessionId >>= f) w Q := by
  unfold requireSession
  rw [ensures_bind, ensures_lift_bind]
  refine ⟨fun e _ => throws e, fun _ _ => ?_⟩
  rw [ensures_get_bind]
  split
  · rename_i session hsession
    split
    · rename_i hprincipal
      exact next session hsession hprincipal
    · exact throws _
  · exact throws _

/-- The state and the permission of a session that a call moves it from and to. -/
inductive Moves (context : WorkspaceContext) (sessionId : EntityId) :
    Call → VoiceSessionState × VoicePermission → VoiceSessionState × VoicePermission → Prop
  | requested : Moves context sessionId (.requestMicrophonePermission context sessionId)
      (.IDLE, .NOT_REQUESTED) (.REQUESTING_PERMISSION, .PROMPTING)
  | granted : Moves context sessionId (.recordMicrophonePermission context sessionId .GRANTED)
      (.REQUESTING_PERMISSION, .PROMPTING) (.READY, .GRANTED)
  | refused {result : VoicePermission} (refusal : result ≠ .GRANTED) :
      Moves context sessionId (.recordMicrophonePermission context sessionId result)
        (.REQUESTING_PERMISSION, .PROMPTING) (.FAILED, result)
  | pressed : Moves context sessionId (.pressToTalk context sessionId)
      (.READY, .GRANTED) (.RECORDING, .GRANTED)
  | released {permission : VoicePermission} :
      Moves context sessionId (.releaseToTalk context sessionId)
        (.RECORDING, permission) (.TRANSCRIBING, permission)
  | stopped {state : VoiceSessionState} {permission : VoicePermission} {reason : String}
      (notStopped : state ≠ .STOPPED) (notFailed : state ≠ .FAILED) :
      Moves context sessionId (.stop context sessionId reason) (state, permission)
        (.STOPPED, permission)

/-- A session of the caller is moved along by the call. -/
structure Moved (context : WorkspaceContext) (sessionId : EntityId) (call : Call)
    (g g' : GovernedVoiceGateway) (session session' : VoiceSession) : Prop where
  found : g.sessions.get? (key context.workspaceId sessionId) = some session
  principal : session.principalId = context.principalId
  identity : SameIdentity session session'
  moves : Moves context sessionId call (session.state, session.permission)
    (session'.state, session'.permission)
  filed : Filed g g' session'

/-- The outcome of a call that moves a session: nothing, or the session moved. -/
def MovesOrStays (context : WorkspaceContext) (sessionId : EntityId) (call : Call)
    (w w' : Watched ω) : Prop :=
  Quiet w w' ∨ w'.seen = w.seen ∧ ∃ session session',
    Moved context sessionId call w.gateway w'.gateway session session'

/-- A found session that is changed as the call moves it. -/
theorem moves_spec {sessionId : EntityId} {call : Call} {session' : VoiceSession}
    (found : w.gateway.sessions.get? (key context.workspaceId sessionId) = some session)
    (principal : session.principalId = context.principalId) (identity : SameIdentity session session')
    (moves : Moves context sessionId call (session.state, session.permission) (session'.state, session'.permission)) :
    Ensures (do putSession session'; touch ports.observed session') w
      (fun _ w' => MovesOrStays context sessionId call w w') := by
  refine (put_touch_spec ports session' w).mono fun r w' ⟨hseen, text, hfiled⟩ => Or.inr ?_
  exact ⟨hseen, session, { session' with updatedAt := text }, found, principal,
    ⟨identity.id, identity.workspaceId, identity.principalId⟩, moves, hfiled⟩

theorem requestMicrophonePermission_spec (context : WorkspaceContext) (sessionId : EntityId)
    (w : Watched ω) :
    Ensures (requestMicrophonePermission options ports.observed context sessionId) w (fun _ w' =>
      MovesOrStays context sessionId (.requestMicrophonePermission context sessionId) w w') := by
  refine ensures_requireSession_bind options (fun _ => Or.inl (Quiet.refl w))
    fun session hfound hprincipal => ?_
  rw [ensures_lift_bind]
  refine ⟨fun _ _ => Or.inl (Quiet.refl w), fun _ hstate => ?_⟩
  rw [throwIf_eq_ok, not_or, not_not, not_not] at hstate
  refine moves_spec ports hfound hprincipal ⟨rfl, rfl, rfl⟩ ?_
  rw [hstate.1, hstate.2]
  exact Moves.requested

theorem recordMicrophonePermission_spec (context : WorkspaceContext) (sessionId : EntityId)
    (result : VoicePermission) (w : Watched ω) :
    Ensures (recordMicrophonePermission options ports.observed context sessionId result) w
      (fun _ w' => MovesOrStays context sessionId
        (.recordMicrophonePermission context sessionId result) w w') := by
  unfold recordMicrophonePermission
  rw [ensures_lift_bind]
  refine ⟨fun _ _ => Or.inl (Quiet.refl w), fun _ _ => ?_⟩
  refine ensures_requireSession_bind options (fun _ => Or.inl (Quiet.refl w))
    fun session hfound hprincipal => ?_
  rw [ensures_lift_bind]
  refine ⟨fun _ _ => Or.inl (Quiet.refl w), fun _ hstate => ?_⟩
  rw [throwIf_eq_ok, not_or, not_not, not_not] at hstate
  refine moves_spec ports hfound hprincipal ⟨rfl, rfl, rfl⟩ ?_
  rw [hstate.1, hstate.2]
  by_cases hresult : result = .GRANTED
  · subst hresult
    exact Moves.granted
  · simp only [if_neg hresult]
    exact Moves.refused hresult

theorem pressToTalk_spec (context : WorkspaceContext) (sessionId : EntityId) (w : Watched ω) :
    Ensures (pressToTalk options ports.observed context sessionId) w (fun _ w' =>
      MovesOrStays context sessionId (.pressToTalk context sessionId) w w') := by
  refine ensures_requireSession_bind options (fun _ => Or.inl (Quiet.refl w))
    fun session hfound hprincipal => ?_
  rw [ensures_lift_bind]
  refine ⟨fun _ _ => Or.inl (Quiet.refl w), fun _ hstate => ?_⟩
  rw [throwIf_eq_ok, not_or, not_not, not_not] at hstate
  refine moves_spec ports hfound hprincipal ⟨rfl, rfl, rfl⟩ ?_
  rw [hstate.1, hstate.2]
  exact Moves.pressed

theorem releaseToTalk_spec (context : WorkspaceContext) (sessionId : EntityId) (w : Watched ω) :
    Ensures (releaseToTalk options ports.observed context sessionId) w (fun _ w' =>
      MovesOrStays context sessionId (.releaseToTalk context sessionId) w w') := by
  refine ensures_requireSession_bind options (fun _ => Or.inl (Quiet.refl w))
    fun session hfound hprincipal => ?_
  rw [ensures_lift_bind]
  refine ⟨fun _ _ => Or.inl (Quiet.refl w), fun _ hstate => ?_⟩
  rw [throwIf_eq_ok, not_not] at hstate
  refine moves_spec ports hfound hprincipal ⟨rfl, rfl, rfl⟩ ?_
  rw [hstate]
  exact Moves.released

theorem stop_spec (context : WorkspaceContext) (sessionId : EntityId) (reason : String)
    (w : Watched ω) :
    Ensures (stop options ports.observed context sessionId reason) w (fun _ w' =>
      MovesOrStays context sessionId (.stop context sessionId reason) w w') := by
  unfold stop
  rw [ensures_lift_bind]
  refine ⟨fun _ _ => Or.inl (Quiet.refl w), fun _ _ => ?_⟩
  refine ensures_requireSession_bind options (fun _ => Or.inl (Quiet.refl w))
    fun session hfound hprincipal => ?_
  split
  · exact Or.inl (Quiet.refl w)
  · rename_i hstopped
    rw [ensures_lift_bind]
    refine ⟨fun _ _ => Or.inl (Quiet.refl w), fun _ hfailed => ?_⟩
    rw [throwIf_eq_ok] at hfailed
    exact moves_spec ports hfound hprincipal ⟨rfl, rfl, rfl⟩ (Moves.stopped hstopped hfailed)

/-- A created session is filed under a new key, or nothing happens. -/
theorem createSession_spec (context : WorkspaceContext) (request : VoiceSessionRequest)
    (w : Watched ω) :
    Ensures (createSession options ports.observed context request) w (fun _ w' => Quiet w w' ∨
      w'.seen = w.seen ∧ w.gateway.sessions.get? (key context.workspaceId request.id) = none ∧
      ∃ session, session.id = request.id ∧ session.workspaceId = context.workspaceId
        ∧ session.principalId = context.principalId ∧ session.state = .IDLE
        ∧ Filed w.gateway w'.gateway session) := by
  unfold createSession
  rw [ensures_lift_bind]
  refine ⟨fun _ _ => Or.inl (Quiet.refl w), fun _ _ => ?_⟩
  rw [ensures_lift_bind]
  refine ⟨fun _ _ => Or.inl (Quiet.refl w), fun _ _ => ?_⟩
  rw [ensures_get_bind, ensures_lift_bind]
  refine ⟨fun _ _ => Or.inl (Quiet.refl w), fun _ hfresh => ?_⟩
  rw [throwIf_eq_ok, Bool.not_eq_true, Store.has_eq_false] at hfresh
  -- What is left before the session is filed is quiet.
  refine ensures_quiet_bind (quiet_requireAdapter context _ _) (fun _ _ h => Or.inl h)
    fun stt w₁ h₁ => ?_
  refine ensures_quiet_bind (quiet_assertAdapterUsable options ports context _ _)
    (fun _ _ h => Or.inl (h₁.trans _ _ _ h)) fun _ w₂ h₂ => ?_
  have h₂ := h₁.trans _ _ _ h₂
  refine ensures_quiet_bind (Along.forM Quiet.refl Quiet.trans (fun ttsAdapterId =>
    (quiet_requireAdapter context _ _).bind Quiet.trans fun tts =>
      quiet_assertAdapterUsable options ports context _ _) _)
    (fun _ _ h => Or.inl (h₂.trans _ _ _ h)) fun _ w₃ h₃ => ?_
  have h₃ := h₂.trans _ _ _ h₃
  rw [ensures_lift_bind]
  refine ⟨fun _ _ => Or.inl h₃, fun _ _ => ?_⟩
  refine ensures_quiet_bind (quiet_aside ports.clock) (fun _ _ h => Or.inl (h₃.trans _ _ _ h))
    fun now w₄ h₄ => ?_
  have h₄ := h₃.trans _ _ _ h₄
  rw [ensures_lift_bind]
  refine ⟨fun _ _ => Or.inl h₄, fun text _ => ?_⟩
  rw [ensures_bind_pure]
  unfold putSession update
  rw [ensures_modify]
  refine Or.inr ⟨h₄.2, hfresh, ?_⟩
  rw [← h₄.1]
  exact ⟨_, rfl, rfl, rfl, rfl, fun k => Store.get?_put _ _ _, rfl, rfl⟩

/-! ## Transcripts -/

/-- The transcript was accepted: its session routes now, and its proof is used up. -/
structure Accepted (context : WorkspaceContext) (untrusted : FinalTranscriptEnvelope)
    (w w' : Watched ω) (session session' : VoiceSession) : Prop where
  seen : w'.seen = w.seen
  found : w.gateway.sessions.get? (key context.workspaceId untrusted.sessionId) = some session
  principal : session.principalId = context.principalId
  transcribing : session.state = .TRANSCRIBING
  fresh : proofKey context untrusted ∉ w.gateway.usedTranscriptProofs
  identity : SameIdentity session session'
  routing : session'.state = .ROUTING
  sessions : ∀ k, w'.gateway.sessions.get? k
    = if k = keyOf session' then some session' else w.gateway.sessions.get? k
  history : w'.gateway.history = w.gateway.history
  usedTranscriptProofs : w'.gateway.usedTranscriptProofs
    = proofKey context untrusted :: w.gateway.usedTranscriptProofs

/-- A transcript is refused, and nothing happened, or accepted; then a throw can only come from the
clock. -/
theorem acceptTranscript_spec (context : WorkspaceContext) (untrusted : FinalTranscriptEnvelope)
    (w : Watched ω) :
    Ensures (acceptTranscript options ports.observed context untrusted) w (fun r w' =>
      (Quiet w w' ∧ ∃ e, r = .error e) ∨ ∃ session session',
        Accepted context untrusted w w' session session'
          ∧ ((∃ e, r = .error e) ∨ ∃ transcript, r = .ok (session', transcript))) := by
  unfold acceptTranscript
  rw [ensures_lift_bind]
  refine ⟨fun e _ => Or.inl ⟨Quiet.refl w, e, rfl⟩, fun _ _ => ?_⟩
  refine ensures_requireSession_bind options (fun e => Or.inl ⟨Quiet.refl w, e, rfl⟩)
    fun session hfound hprincipal => ?_
  rw [ensures_lift_bind]
  refine ⟨fun e _ => Or.inl ⟨Quiet.refl w, e, rfl⟩, fun observedAt hchecked => ?_⟩
  have hstate : session.state = .TRANSCRIBING := by
    unfold checkTranscript at hchecked
    rw [check_bind_eq_ok, throwIf_eq_ok, not_not] at hchecked
    exact hchecked.1
  refine ensures_quiet_bind (quiet_aside ports.clock) (fun e _ h => Or.inl ⟨h, e, rfl⟩)
    fun now w₁ h₁ => ?_
  rw [ensures_lift_bind]
  refine ⟨fun e _ => Or.inl ⟨h₁, e, rfl⟩, fun _ _ => ?_⟩
  rw [ensures_get_bind, ensures_lift_bind]
  refine ⟨fun e _ => Or.inl ⟨h₁, e, rfl⟩, fun _ hused => ?_⟩
  rw [throwIf_eq_ok, not_or, h₁.1] at hused
  refine ensures_quiet_bind (quiet_requireAdapter context _ _)
    (fun e _ h => Or.inl ⟨h₁.trans _ _ _ h, e, rfl⟩) fun adapter w₂ h₂ => ?_
  have h₂ := h₁.trans _ _ _ h₂
  rw [ensures_lift_bind]
  refine ⟨fun e _ => Or.inl ⟨h₂, e, rfl⟩, fun _ _ => ?_⟩
  refine ensures_quiet_bind (quiet_aside _)
    (fun e _ h => Or.inl ⟨h₂.trans _ _ _ h, e, rfl⟩) fun valid w₃ h₃ => ?_
  have h₃ := h₂.trans _ _ _ h₃
  rw [ensures_lift_bind]
  refine ⟨fun e _ => Or.inl ⟨h₃, e, rfl⟩, fun _ _ => ?_⟩
  rw [ensures_lift_bind]
  refine ⟨fun e _ => Or.inl ⟨h₃, e, rfl⟩, fun _ _ => ?_⟩
  -- From here on the transcript is used up, whatever the clock does.
  unfold update
  rw [ensures_bind, ensures_modify, ensures_bind_pure]
  refine (touch_spec ports _ _).mono fun r w₄ h => ?_
  rcases h with ⟨h₄, e, rfl⟩ | ⟨hseen, text, rfl, hfiled⟩
  · refine Or.inr ⟨session, { session with state := .ROUTING }, ?_, Or.inl ⟨e, rfl⟩⟩
    refine ⟨h₄.2.trans h₃.2, hfound, hprincipal, hstate, hused.1, ⟨rfl, rfl, rfl⟩, rfl, ?_, ?_, ?_⟩
    · rw [h₄.1, ← h₃.1]
      exact fun k => Store.get?_put _ _ _
    · rw [h₄.1, ← h₃.1]
    · rw [h₄.1, ← h₃.1]
  · refine Or.inr ⟨session, { session with state := .ROUTING, updatedAt := text }, ?_,
      Or.inr ⟨_, rfl⟩⟩
    refine ⟨hseen.trans h₃.2, hfound, hprincipal, hstate, hused.1, ⟨rfl, rfl, rfl⟩, rfl, ?_, ?_, ?_⟩
    · intro k
      rw [hfiled.sessions, ← h₃.1]
      split
      · rfl
      · rename_i hne
        exact (Store.get?_put _ _ _).trans (if_neg hne)
    · rw [hfiled.history, ← h₃.1]
    · rw [hfiled.usedTranscriptProofs, ← h₃.1]

/-- The session is on its way: it routes or responds, for the principal. -/
def OnRoute (principalId : EntityId) (session : VoiceSession) : Prop :=
  session.principalId = principalId ∧ (session.state = .ROUTING ∨ session.state = .RESPONDING)

/-- What happens to the gateway after a transcript was accepted: the session of the transcript stays on
its way, no other session changes, and the history of a principal is replaced by a bounded one. -/
structure Advances (k : Key) (principalId : EntityId) (g g' : GovernedVoiceGateway) : Prop where
  others : ∀ k', k' ≠ k → g'.sessions.get? k' = g.sessions.get? k'
  onRoute : (∃ session, g.sessions.get? k = some session ∧ OnRoute principalId session) →
    ∃ session, g'.sessions.get? k = some session ∧ OnRoute principalId session
  history : ∀ k', g'.history.get? k' = g.history.get? k' ∨ ∃ entries,
    g'.history.get? k' = some entries ∧ entries.length ≤ options.maximumHistoryEntriesPerPrincipal
  usedTranscriptProofs : g'.usedTranscriptProofs = g.usedTranscriptProofs

variable {options} in
theorem Advances.refl {k : Key} {principalId : EntityId} (g : GovernedVoiceGateway) :
    Advances options k principalId g g :=
  ⟨fun _ _ => rfl, id, fun _ => Or.inl rfl, rfl⟩

variable {options} in
theorem Advances.trans {k : Key} {principalId : EntityId} {g g' g'' : GovernedVoiceGateway}
    (h : Advances options k principalId g g') (h' : Advances options k principalId g' g'') :
    Advances options k principalId g g'' where
  others k' hk := (h'.others k' hk).trans (h.others k' hk)
  onRoute hroute := h'.onRoute (h.onRoute hroute)
  history k' := by
    rcases h'.history k' with hsame | hnew
    · rw [hsame]
      exact h.history k'
    · exact Or.inr hnew
  usedTranscriptProofs := h'.usedTranscriptProofs.trans h.usedTranscriptProofs

/-- The relation, without an observation. -/
def AdvancesQuietly (k : Key) (principalId : EntityId) (w w' : Watched ω) : Prop :=
  w'.seen = w.seen ∧ Advances options k principalId w.gateway w'.gateway

section Advancing

variable {options} {k : Key} {principalId : EntityId}

theorem AdvancesQuietly.refl (w : Watched ω) : AdvancesQuietly options k principalId w w :=
  ⟨rfl, Advances.refl _⟩

theorem AdvancesQuietly.trans (w w' w'' : Watched ω) (h : AdvancesQuietly options k principalId w w')
    (h' : AdvancesQuietly options k principalId w' w'') :
    AdvancesQuietly options k principalId w w'' :=
  ⟨h'.1.trans h.1, h.2.trans h'.2⟩

theorem advances_of_quiet {x : Op (ω × List Observation) α} (hx : Along Quiet x) :
    Along (AdvancesQuietly options k principalId) x := by
  intro w
  refine (hx w).mono fun r w' h => ⟨h.2, ?_⟩
  rw [h.1]
  exact Advances.refl _

/-- Filing a session that responds. -/
theorem advances_putSession (hroute : OnRoute principalId session)
    (hk : keyOf session = k) :
    Along (AdvancesQuietly options k principalId)
      (putSession session : Op (ω × List Observation) _) := by
  intro w
  unfold putSession update
  rw [ensures_modify]
  refine ⟨rfl, ?_⟩
  constructor
  · intro k' hne
    show (w.gateway.sessions.put session).get? k' = w.gateway.sessions.get? k'
    rw [Store.get?_put, if_neg (hk ▸ hne)]
  · intro _
    refine ⟨session, ?_, hroute⟩
    show (w.gateway.sessions.put session).get? k = some session
    rw [Store.get?_put, if_pos hk.symm]
  · exact fun _ => Or.inl rfl
  · rfl

theorem advances_touch (hroute : OnRoute principalId session)
    (hk : keyOf session = k) :
    Along (AdvancesQuietly options k principalId) (touch ports.observed session) := by
  refine (advances_of_quiet (quiet_aside ports.clock)).bind AdvancesQuietly.trans fun now => ?_
  refine (Along.lift AdvancesQuietly.refl _).bind AdvancesQuietly.trans fun text => ?_
  have hroute : OnRoute principalId { session with updatedAt := text } := hroute
  refine (advances_putSession hroute hk).bind AdvancesQuietly.trans fun _ => ?_
  exact Along.pure AdvancesQuietly.refl _

/-- `while (entries.length > maximum) entries.shift()` keeps at most so many entries. -/
theorem length_shiftWhile {maximum : Int} (h : 0 ≤ maximum) (entries : List α) :
    ((shiftWhile maximum entries).length : Int) ≤ maximum := by
  induction entries with
  | nil => simpa [shiftWhile] using h
  | cons entry entries ih =>
    unfold shiftWhile
    split
    · exact ih
    · omega

theorem maximumHistory_nonneg (options : VoiceGatewayOptions) :
    0 ≤ options.maximumHistoryEntriesPerPrincipal := by
  have h := options.accepted
  unfold checkLimits boundedInteger at h
  simp only [check_bind_eq_ok, throwIf_eq_ok, not_or] at h
  omega

theorem advances_storeHistory (context : WorkspaceContext) (session : VoiceSession)
    (envelope : FinalTranscriptEnvelope) (decision : VoiceCommandRoutingDecision)
    (redactedTranscript redactedResponse : String) :
    Along (AdvancesQuietly options k principalId) (storeHistory options ports.observed context session
      envelope decision redactedTranscript redactedResponse) := by
  refine (advances_of_quiet (quiet_aside ports.idFactory)).bind AdvancesQuietly.trans fun id => ?_
  refine (advances_of_quiet (quiet_hashTranscript ports context _)).bind AdvancesQuietly.trans
    fun digest => ?_
  refine (advances_of_quiet (quiet_aside ports.clock)).bind AdvancesQuietly.trans fun now => ?_
  refine (Along.lift AdvancesQuietly.refl _).bind AdvancesQuietly.trans fun createdAt => ?_
  intro w
  unfold update
  rw [ensures_modify]
  refine ⟨rfl, fun _ _ => rfl, fun h => h, fun k' => ?_, rfl⟩
  simp only [OrderedMap.get?_set]
  split
  · exact Or.inr ⟨_, rfl, length_shiftWhile (maximumHistory_nonneg options) _⟩
  · exact Or.inl rfl

theorem advances_deny (hk : keyOf session = k)
    (hprincipal : session.principalId = principalId) (envelope : FinalTranscriptEnvelope)
    (redactedTranscript reason : String) :
    Along (AdvancesQuietly options k principalId)
      (deny options ports.observed session envelope redactedTranscript reason) := by
  refine (advances_of_quiet (quiet_aside ports.idFactory)).bind AdvancesQuietly.trans
    fun requestId => ?_
  refine (advances_of_quiet (quiet_aside ports.idFactory)).bind AdvancesQuietly.trans
    fun commandId => ?_
  have hroute : OnRoute principalId { session with state := .RESPONDING } := ⟨hprincipal, Or.inr rfl⟩
  refine (advances_putSession hroute hk).bind AdvancesQuietly.trans fun _ => ?_
  refine (advances_touch ports hroute hk).bind AdvancesQuietly.trans fun session => ?_
  refine (advances_storeHistory ports _ _ _ _ _ _).bind AdvancesQuietly.trans fun _ => ?_
  exact Along.pure AdvancesQuietly.refl _

theorem advances_respond (hk : keyOf session = k)
    (hprincipal : session.principalId = principalId) (context : WorkspaceContext)
    (untrusted : FinalTranscriptEnvelope) (authority : VoiceAuthorityDecision)
    (request : VoiceCommandRoutingRequest) (decision : VoiceCommandRoutingDecision) :
    Along (AdvancesQuietly options k principalId)
      (respond options ports.observed context session untrusted authority request decision) := by
  refine (Along.lift AdvancesQuietly.refl _).bind AdvancesQuietly.trans fun _ => ?_
  refine (Along.lift AdvancesQuietly.refl _).bind AdvancesQuietly.trans fun _ => ?_
  refine (Along.lift AdvancesQuietly.refl _).bind AdvancesQuietly.trans fun _ => ?_
  have hroute : OnRoute principalId { session with state := .RESPONDING } := ⟨hprincipal, Or.inr rfl⟩
  refine (advances_putSession hroute hk).bind AdvancesQuietly.trans fun _ => ?_
  refine (advances_touch ports hroute hk).bind AdvancesQuietly.trans fun session => ?_
  refine (advances_storeHistory ports _ _ _ _ _ _).bind AdvancesQuietly.trans fun _ => ?_
  exact Along.pure AdvancesQuietly.refl _

end Advancing

/-- A denial has no confirmation. -/
theorem returns_deny (session : VoiceSession) (envelope : FinalTranscriptEnvelope)
    (redactedTranscript reason : String) :
    Returns (deny options ports.observed session envelope redactedTranscript reason)
      (fun result => result.outcome = .DENY ∧ result.confirmation = none) := by
  refine Returns.bind fun requestId => Returns.bind fun commandId => Returns.bind fun _ => ?_
  refine Returns.bind fun session => Returns.bind fun _ => ?_
  exact Returns.pure ⟨rfl, rfl⟩

/-- An answer is that of a decision that passed the checks. -/
theorem returns_respond (context : WorkspaceContext) (session : VoiceSession)
    (untrusted : FinalTranscriptEnvelope) (authority : VoiceAuthorityDecision)
    (request : VoiceCommandRoutingRequest) (decision : VoiceCommandRoutingDecision) :
    Returns (respond options ports.observed context session untrusted authority request decision)
      (fun result => validateDecision options context session request decision = .ok ()
        ∧ checkAuthority authority decision = .ok ()
        ∧ ∃ text, result = routingResult decision text) := by
  refine Returns.lift_bind fun _ hvalid => Returns.lift_bind fun _ hauthority => ?_
  refine Returns.lift_bind fun _ _ => Returns.bind fun _ => Returns.bind fun session => ?_
  refine Returns.bind fun _ => Returns.pure ⟨hvalid, hauthority, _, rfl⟩

/-- A request to the router is about the session of the caller. -/
structure Linked (context : WorkspaceContext) (sessionId : EntityId)
    (request : VoiceCommandRoutingRequest) : Prop where
  workspaceId : request.workspaceId = context.workspaceId
  principalId : request.principalId = context.principalId
  sessionId : request.sessionId = sessionId

/-- What is observed after a transcript was accepted, and what is answered. -/
inductive Routing (context : WorkspaceContext) (sessionId : EntityId) :
    List Observation → Except Failure VoiceRoutingResult → Prop
  | silent {e : Failure} : Routing context sessionId [] (.error e)
  | unused {authority : VoiceAuthorityDecision} {e : Failure} :
      Routing context sessionId [.evaluated context authority] (.error e)
  | denied {authority : VoiceAuthorityDecision} {result : VoiceRoutingResult}
      (notAllowed : authority.allowed = false) (outcome : result.outcome = .DENY)
      (confirmation : result.confirmation = none) :
      Routing context sessionId [.evaluated context authority] (.ok result)
  | thrown {authority : VoiceAuthorityDecision} {request : VoiceCommandRoutingRequest} {e : Failure}
      (linked : Linked context sessionId request) :
      Routing context sessionId [.evaluated context authority, .invoked context request] (.error e)
  | rejected {authority : VoiceAuthorityDecision} {request : VoiceCommandRoutingRequest}
      {decision : VoiceCommandRoutingDecision} {e : Failure}
      (linked : Linked context sessionId request) :
      Routing context sessionId
        [.evaluated context authority, .invoked context request, .decided decision] (.error e)
  | answered {authority : VoiceAuthorityDecision} {request : VoiceCommandRoutingRequest}
      {decision : VoiceCommandRoutingDecision} {text : String}
      (allowed : authority.allowed = true) (linked : Linked context sessionId request)
      (bounded : decision.requiredAuthority ≤ 4) (checked : checkAuthority authority decision = .ok ()) :
      Routing context sessionId
        [.evaluated context authority, .invoked context request, .decided decision]
        (.ok (routingResult decision text))

/-- A routing that goes on from `w`. -/
def Routes (context : WorkspaceContext) (sessionId : EntityId) (w w' : Watched ω)
    (r : Except Failure VoiceRoutingResult) : Prop :=
  Advances options (key context.workspaceId sessionId) context.principalId w.gateway w'.gateway
    ∧ ∃ observations, w'.seen = w.seen ++ observations ∧ Routing context sessionId observations r

/-- The authority is asked, and its answer is written down. -/
theorem ensures_authority_bind {β : Type}
    {f : VoiceAuthorityDecision → Op (ω × List Observation) β}
    {Q : Except Failure β → Watched ω → Prop} (throws : ∀ e w', Quiet w w' → Q (.error e) w')
    (next : ∀ authority w', w'.gateway = w.gateway → w'.seen = w.seen ++ [.evaluated context authority] →
      Ensures (f authority) w' Q) :
    Ensures (port (ports.observed.authority context) >>= f) w Q := by
  rw [ensures_bind]
  unfold port Ports.observed aside observe
  rw [ensures_focus, ensures_bind, ensures_focus]
  generalize ports.authority context = x
  show Ensures x _ _
  unfold Ensures
  cases (x.exec w.foreign.1).1 with
  | error e => exact throws e _ ⟨rfl, rfl⟩
  | ok authority => exact next authority _ rfl rfl

/-- The router is invoked; the request and the decision are written down. -/
theorem ensures_router_bind {β : Type}
    {request : VoiceCommandRoutingRequest}
    {f : VoiceCommandRoutingDecision → Op (ω × List Observation) β}
    {Q : Except Failure β → Watched ω → Prop}
    (throws : ∀ e w', w'.gateway = w.gateway → w'.seen = w.seen ++ [.invoked context request] → Q (.error e) w')
    (next : ∀ decision w', w'.gateway = w.gateway →
      w'.seen = w.seen ++ [.invoked context request] ++ [.decided decision] →
      Ensures (f decision) w' Q) :
    Ensures (port (ports.observed.router context request) >>= f) w Q := by
  rw [ensures_bind]
  unfold port Ports.observed aside observe
  rw [ensures_focus, ensures_bind, ensures_modify, ensures_bind, ensures_focus]
  generalize ports.router context request = x
  show Ensures x _ _
  unfold Ensures
  cases (x.exec w.foreign.1).1 with
  | error e => exact throws e _ rfl rfl
  | ok decision => exact next decision _ rfl rfl

/-- What happens to an accepted transcript. -/
theorem routed_spec {untrusted : FinalTranscriptEnvelope}
    {redactedTranscript : String}
    (hkey : keyOf session = key context.workspaceId untrusted.sessionId)
    (hprincipal : session.principalId = context.principalId) (w : Watched ω) :
    Ensures (do
      let authority ← port (ports.observed.authority context)
      boundedInteger authority.maximumAuthority "maximumAuthority" 4
      boundedText authority.reason "authorityReason" 2048
      if authority.allowed = false then
        deny options ports.observed session untrusted redactedTranscript "Voice authority denied"
      else
        let id ← port ports.observed.idFactory
        let transcriptHash ← hashTranscript ports.observed context redactedTranscript
        let request : VoiceCommandRoutingRequest :=
          { id := id
            workspaceId := context.workspaceId
            principalId := context.principalId
            sessionId := session.id
            transcriptHash := transcriptHash
            redactedTranscript := redactedTranscript
            source := "VOICE"
            maximumExecutableAuthority := 3 }
        let decision ← port (ports.observed.router context request)
        respond options ports.observed context session untrusted authority request decision) w
      (fun r w' => Routes options context untrusted.sessionId w w' r) := by
  have hsession : session.id = untrusted.sessionId := by
    rw [keyOf_session, key_inj] at hkey
    exact hkey.2
  have same : ∀ {w' : Watched ω}, w'.gateway = w.gateway →
      Advances options (key context.workspaceId untrusted.sessionId) context.principalId w.gateway
        w'.gateway := by
    intro w' h
    rw [h]
    exact Advances.refl _
  refine ensures_authority_bind ports (fun e w' h => ⟨same h.1, [], ?_, Routing.silent⟩)
    fun authority w₁ h₁ hseen₁ => ?_
  · rw [h.2, List.append_nil]
  rw [ensures_lift_bind]
  refine ⟨fun e _ => ⟨same h₁, _, hseen₁, Routing.unused⟩, fun _ _ => ?_⟩
  rw [ensures_lift_bind]
  refine ⟨fun e _ => ⟨same h₁, _, hseen₁, Routing.unused⟩, fun _ _ => ?_⟩
  split
  · rename_i hallowed
    -- The authority denied: the session responds, and nothing more is observed.
    refine ((advances_deny ports hkey hprincipal _ _ _ w₁).and
      (returns_deny options ports _ _ _ _ w₁)).mono fun r w' ⟨hadvances, hreturns⟩ => ?_
    refine ⟨(same h₁).trans hadvances.2, [.evaluated context authority], hadvances.1.trans hseen₁, ?_⟩
    cases r with
    | error e => exact Routing.unused
    | ok result =>
      obtain ⟨houtcome, hconfirmation⟩ := hreturns result rfl
      exact Routing.denied hallowed houtcome hconfirmation
  · rename_i hallowed
    rw [Bool.not_eq_false] at hallowed
    refine ensures_quiet_bind (quiet_aside ports.idFactory)
      (fun e w' h => ⟨same (h.1.trans h₁), _, h.2.trans hseen₁, Routing.unused⟩) fun id w₂ h₂ => ?_
    have hseen₂ := h₂.2.trans hseen₁
    have h₂ := h₂.1.trans h₁
    refine ensures_quiet_bind (quiet_hashTranscript ports context _)
      (fun e w' h => ⟨same (h.1.trans h₂), _, h.2.trans hseen₂, Routing.unused⟩)
      fun transcriptHash w₃ h₃ => ?_
    have hseen₃ := h₃.2.trans hseen₂
    have h₃ := h₃.1.trans h₂
    refine ensures_router_bind ports (fun e w' h hseen => ?_) fun decision w₄ h₄ hseen₄ => ?_
    · rw [hseen₃, List.append_assoc] at hseen
      exact ⟨same (h.trans h₃), _, hseen, Routing.thrown ⟨rfl, rfl, hsession⟩⟩
    · refine ((advances_respond ports hkey hprincipal _ _ _ _ _ w₄).and
        (returns_respond options ports _ _ _ _ _ _ w₄)).mono fun r w' ⟨hadvances, hreturns⟩ => ?_
      have hseen := hadvances.1.trans hseen₄
      rw [hseen₃, List.append_assoc, List.append_assoc] at hseen
      refine ⟨(same (h₄.trans h₃)).trans hadvances.2, _, hseen, ?_⟩
      cases r with
      | error e => exact Routing.rejected ⟨rfl, rfl, hsession⟩
      | ok result =>
        obtain ⟨hvalid, hchecked, text, rfl⟩ := hreturns result rfl
        refine Routing.answered hallowed ⟨rfl, rfl, hsession⟩ ?_ hchecked
        unfold validateDecision boundedInteger at hvalid
        simp only [check_bind_eq_ok, throwIf_eq_ok, not_or, not_lt] at hvalid
        exact hvalid.2.2.1.2.2

/-- **Routing a transcript**: it is refused, and nothing happened, or it is accepted and routed. -/
theorem routeFinalTranscript_spec (context : WorkspaceContext) (untrusted : FinalTranscriptEnvelope)
    (w : Watched ω) :
    Ensures (routeFinalTranscript options ports.observed context untrusted) w (fun r w' =>
      (Quiet w w' ∧ ∃ e, r = .error e) ∨ ∃ session session' w₁,
        Accepted context untrusted w w₁ session session'
          ∧ Routes options context untrusted.sessionId w₁ w' r) := by
  unfold routeFinalTranscript
  rw [ensures_bind]
  refine (acceptTranscript_spec options ports context untrusted w).mono fun r w₁ h => ?_
  rcases h with ⟨hquiet, e, rfl⟩ | ⟨session, session', haccepted, ⟨e, rfl⟩ | ⟨transcript, rfl⟩⟩
  · exact Or.inl ⟨hquiet, e, rfl⟩
  · refine Or.inr ⟨session, session', w₁, haccepted, Advances.refl _, [], ?_, Routing.silent⟩
    rw [List.append_nil]
  · have hkey : keyOf session' = key context.workspaceId untrusted.sessionId := by
      have hfound := Store.keyOf_of_get? haccepted.found
      rw [← hfound, keyOf_session, keyOf_session, haccepted.identity.id, haccepted.identity.workspaceId]
    have hprincipal := haccepted.identity.principalId.trans haccepted.principal
    refine (routed_spec options ports hkey hprincipal w₁).mono fun r w' hroutes => ?_
    exact Or.inr ⟨session, session', w₁, haccepted, hroutes⟩

end VentureOS.Voice
