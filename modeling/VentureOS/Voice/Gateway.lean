import VentureOS.Foundations.Machine
import VentureOS.Voice.Contracts

/-! # The voice gateway

`GovernedVoiceGateway` as programs on its maps and sets and on the state of its ports. A session is changed
in place, in the order of the source, so a port that throws leaves the changes made before it. -/

namespace VentureOS.Voice

open ControlPlane Program

instance : HasKey Key VoiceSession := ⟨fun s => key s.workspaceId s.id⟩

@[simp] theorem keyOf_session (s : VoiceSession) : keyOf s = key s.workspaceId s.id := rfl

/-- The fields of `GovernedVoiceGateway`. -/
structure GovernedVoiceGateway where
  adapters : OrderedMap Key VoiceProviderMetadata
  sessions : Store Key VoiceSession
  history : OrderedMap Key (List VoiceHistoryEntry)
  usedTranscriptProofs : List Key
  usedSequences : List Key

/-- A new gateway. -/
def GovernedVoiceGateway.empty : GovernedVoiceGateway := ⟨.empty, .empty, .empty, [], []⟩

/-- The gateway and the state of its ports. -/
structure World (ω : Type) where
  gateway : GovernedVoiceGateway
  foreign : ω

variable {ω : Type}

/-- A method of the gateway. -/
abbrev Op (ω α : Type) := Program Failure (World ω) α

/-- Call a port. -/
def port {α : Type} (x : Program Failure ω α) : Op ω α :=
  focus World.foreign (fun w t => { w with foreign := t }) x

/-- Write the fields. -/
def update (f : GovernedVoiceGateway → GovernedVoiceGateway) : Op ω PUnit :=
  modify fun w => { w with gateway := f w.gateway }

/-- `new Date(time).toISOString()`. -/
def timeText (time : Option Int) : Except Failure String :=
  match time with
  | some t => isoTime t
  | none => .error ⟨.rangeError, "Invalid time value"⟩

/-- `Math.abs(now - time) > limit`; nothing is greater when the clock shows no number. -/
def isFar (now : Option Int) (time limit : Int) : Bool :=
  match now with
  | some n => decide (limit < |n - time|)
  | none => false

variable (options : VoiceGatewayOptions) (ports : Ports ω)

/-- `#assertAuthorized`. -/
def assertAuthorized (context : WorkspaceContext) : Except Failure Unit :=
  throwIf (context.principalId ∉ options.authorizedPrincipals)
    (voiceGatewayPolicyError "Voice Gateway authority required")

/-- `#requireAdapter`. -/
def requireAdapter (context : WorkspaceContext) (adapterId : EntityId) (kind : VoiceAdapterKind) :
    Op ω VoiceProviderMetadata := do
  match (← get).gateway.adapters.get? (key context.workspaceId adapterId) with
  | some adapter =>
    if adapter.kind = kind then return adapter
    else throw (voiceGatewayPolicyError s!"Supported {kind.code} adapter is required")
  | none => throw (voiceGatewayPolicyError s!"Supported {kind.code} adapter is required")

/-- The check on the time and the evidence of adapter metadata. -/
def assertEvidence (context : WorkspaceContext) (adapter : VoiceProviderMetadata) : Op ω Unit := do
  let evidenceAt ← parsedTime options.dateParse adapter.availabilityVerifiedAt "availabilityVerifiedAt"
  let now ← port ports.clock
  -- The verifier is asked only about current evidence.
  throwIf (isFar now evidenceAt options.availabilityEvidenceFreshnessMs = true)
    (voiceGatewayPolicyError "Adapter availability evidence is invalid or stale")
  let valid ← port (ports.adapterEvidenceVerifier context adapter)
  throwIf (valid = false)
    (voiceGatewayPolicyError "Adapter availability evidence is invalid or stale")

/-- `#assertEvidenceCurrent`. -/
def assertEvidenceCurrent (context : WorkspaceContext) (adapter : VoiceProviderMetadata) : Op ω Unit :=
  assertEvidence options ports context adapter

/-- The status of an adapter that can be used. -/
def isUsable (status : VoiceAdapterStatus) : Bool :=
  status = .AVAILABLE || status = .BROWSER_LOCAL_AVAILABLE

/-- `#assertAdapterUsable`. -/
def assertAdapterUsable (context : WorkspaceContext) (adapter : VoiceProviderMetadata)
    (browser : BrowserVoiceCapabilities) : Op ω Unit := do
  assertEvidenceCurrent options ports context adapter
  throwIf (isUsable adapter.status = false) (voiceGatewayPolicyError "Voice adapter is unavailable")
  let supported := (adapter.kind = .STT && browser.localSpeechToText)
    || (adapter.kind = .TTS && browser.localTextToSpeech)
    || (adapter.kind = .REALTIME && browser.realtimeSpeech)
  throwIf (adapter.status = .BROWSER_LOCAL_AVAILABLE
      ∧ (supported = false ∨ adapter.availability ≠ .LOCAL_BROWSER))
    (voiceGatewayPolicyError "Browser/local fallback is not available")

/-- `#hashTranscript`. -/
def hashTranscript (context : WorkspaceContext) (redactedTranscript : String) : Op ω String := do
  let digest ← port (ports.transcriptHasher context redactedTranscript)
  boundedText digest "transcriptHash" 512
  return digest

/-- `#requireSession`. -/
def requireSession (context : WorkspaceContext) (sessionId : EntityId) : Op ω VoiceSession := do
  assertAuthorized options context
  match (← get).gateway.sessions.get? (key context.workspaceId sessionId) with
  | some session =>
    if session.principalId = context.principalId then return session
    else throw (voiceGatewayPolicyError "Session is outside the authenticated principal scope")
  | none => throw (voiceGatewayPolicyError "Session is outside the authenticated principal scope")

/-- Change a session in place. -/
def putSession (session : VoiceSession) : Op ω PUnit :=
  update fun g => { g with sessions := g.sessions.put session }

/-- `#touch`. -/
def touch (session : VoiceSession) : Op ω VoiceSession := do
  let now ← port ports.clock
  let text ← timeText now
  putSession { session with updatedAt := text }
  return { session with updatedAt := text }

/-! ## Adapters and sessions -/

/-- `registerAdapter`. -/
def registerAdapter (context : WorkspaceContext) (metadata : VoiceProviderMetadata) : Op ω Unit := do
  assertAuthorized options context
  validateMetadata options.dateParse metadata
  assertEvidence options ports context metadata
  throwIf ((← get).gateway.adapters.has (key context.workspaceId metadata.adapterId) = true)
    (voiceGatewayPolicyError "Adapter already registered")
  update fun g =>
    { g with adapters := g.adapters.set (key context.workspaceId metadata.adapterId) metadata }

/-- `listAdapters`. -/
def listAdapters (context : WorkspaceContext) : Op ω (List VoiceProviderMetadata) := do
  assertAuthorized options context
  let entries := (← get).gateway.adapters.entries
  return (entries.filter fun entry => entry.1.1 = context.workspaceId).map Prod.snd

/-- `createSession`. -/
def createSession (context : WorkspaceContext) (request : VoiceSessionRequest) : Op ω VoiceSession := do
  assertAuthorized options context
  boundedText request.id "sessionId" 256
  let sessionKey := key context.workspaceId request.id
  throwIf ((← get).gateway.sessions.has sessionKey = true)
    (voiceGatewayPolicyError "Session already exists")
  let stt ← requireAdapter context request.sttAdapterId .STT
  assertAdapterUsable options ports context stt request.browser
  forM request.ttsAdapterId.toList fun ttsAdapterId => do
    let tts ← requireAdapter context ttsAdapterId .TTS
    assertAdapterUsable options ports context tts request.browser
  throwIf (request.browser.microphonePermissionApi = false)
    (voiceGatewayPolicyError "Microphone permission API is unavailable")
  let now ← timeText (← port ports.clock)
  let session : VoiceSession :=
    { id := request.id
      workspaceId := context.workspaceId
      principalId := context.principalId
      state := .IDLE
      permission := .NOT_REQUESTED
      sttAdapterId := request.sttAdapterId
      ttsAdapterId := request.ttsAdapterId
      createdAt := now
      updatedAt := now
      stoppedReason := none }
  putSession session
  return session

/-- `requestMicrophonePermission`. -/
def requestMicrophonePermission (context : WorkspaceContext) (sessionId : EntityId) :
    Op ω VoiceSession := do
  let session ← requireSession options context sessionId
  throwIf (session.state ≠ .IDLE ∨ session.permission ≠ .NOT_REQUESTED)
    (voiceGatewayPolicyError "Microphone permission transition is invalid")
  let session := { session with state := .REQUESTING_PERMISSION, permission := .PROMPTING }
  putSession session
  touch ports session

/-- `recordMicrophonePermission`. -/
def recordMicrophonePermission (context : WorkspaceContext) (sessionId : EntityId)
    (result : VoicePermission) : Op ω VoiceSession := do
  throwIf (result ≠ .GRANTED ∧ result ≠ .DENIED ∧ result ≠ .UNAVAILABLE)
    (voiceGatewayPolicyError "microphonePermissionResult is unsupported")
  let session ← requireSession options context sessionId
  throwIf (session.state ≠ .REQUESTING_PERMISSION ∨ session.permission ≠ .PROMPTING)
    (voiceGatewayPolicyError "Microphone permission result is unsolicited")
  let session :=
    { session with
      permission := result
      state := if result = .GRANTED then .READY else .FAILED
      stoppedReason := if result = .GRANTED then session.stoppedReason
        else some s!"MICROPHONE_{result.code}" }
  putSession session
  touch ports session

/-- `pressToTalk`. -/
def pressToTalk (context : WorkspaceContext) (sessionId : EntityId) : Op ω VoiceSession := do
  let session ← requireSession options context sessionId
  throwIf (session.permission ≠ .GRANTED ∨ session.state ≠ .READY)
    (voiceGatewayPolicyError "Push-to-talk requires granted permission and READY state")
  let session := { session with state := .RECORDING }
  putSession session
  touch ports session

/-- `releaseToTalk`. -/
def releaseToTalk (context : WorkspaceContext) (sessionId : EntityId) : Op ω VoiceSession := do
  let session ← requireSession options context sessionId
  throwIf (session.state ≠ .RECORDING)
    (voiceGatewayPolicyError "Push-to-talk release requires RECORDING state")
  let session := { session with state := .TRANSCRIBING }
  putSession session
  touch ports session

/-- `stop`. -/
def stop (context : WorkspaceContext) (sessionId : EntityId) (reason : String) :
    Op ω VoiceSession := do
  boundedText reason "stopReason" 2048
  let session ← requireSession options context sessionId
  if session.state = .STOPPED then
    return session
  else
    throwIf (session.state = .FAILED) (voiceGatewayPolicyError "Failed session is terminal")
    let session := { session with state := .STOPPED, stoppedReason := some (redact reason) }
    putSession session
    touch ports session

/-! ## Transcripts -/

/-- The keys under which a transcript is used up: its proof, and its place in the session. -/
def proofKey (context : WorkspaceContext) (untrusted : FinalTranscriptEnvelope) : Key :=
  key context.workspaceId untrusted.proof

@[inherit_doc proofKey]
def sequenceKey (context : WorkspaceContext) (untrusted : FinalTranscriptEnvelope) : Key :=
  key context.workspaceId s!"{untrusted.sessionId}:{untrusted.sequence}"

/-- The checks on a transcript that need no port. -/
def checkTranscript (context : WorkspaceContext) (session : VoiceSession)
    (untrusted : FinalTranscriptEnvelope) : Except Failure Int := do
  throwIf (session.state ≠ .TRANSCRIBING)
    (voiceGatewayPolicyError "Session is not accepting a transcript")
  throwIf (untrusted.workspaceId ≠ context.workspaceId ∨ untrusted.principalId ≠ context.principalId
      ∨ session.principalId ≠ context.principalId ∨ untrusted.adapterId ≠ session.sttAdapterId)
    (voiceGatewayPolicyError "Transcript linkage is invalid")
  throwIf (untrusted.final = false) (voiceGatewayPolicyError "Only final transcripts may route")
  throwIf (untrusted.retention ≠ "NONE" ∧ untrusted.retention ≠ "REDACTED_SESSION")
    (voiceGatewayPolicyError "Sensitive or raw transcript retention is forbidden")
  boundedInteger untrusted.sequence "sequence" maxSafeInteger
  throwIf (untrusted.sequence < 1) (voiceGatewayPolicyError "sequence must be positive")
  boundedText untrusted.nonce "nonce" 256
  boundedText untrusted.proof "proof" 4096
  boundedText untrusted.transcript "transcript" options.maximumTranscriptBytes
  boundedInteger untrusted.audioBytes "audioBytes" options.maximumAudioBytes
  parsedTime options.dateParse untrusted.observedAt "observedAt"

/-- The first part of `routeFinalTranscript`, up to the point where the transcript is used up and the
session routes: the session and the redacted transcript. -/
def acceptTranscript (context : WorkspaceContext) (untrusted : FinalTranscriptEnvelope) :
    Op ω (VoiceSession × String) := do
  assertAuthorized options context
  let session ← requireSession options context untrusted.sessionId
  let observedAt ← checkTranscript options context session untrusted
  let now ← port ports.clock
  throwIf (isFar now observedAt options.transcriptFreshnessMs = true)
    (voiceGatewayPolicyError "Transcript is stale or from the future")
  let gateway := (← get).gateway
  throwIf (proofKey context untrusted ∈ gateway.usedTranscriptProofs
      ∨ sequenceKey context untrusted ∈ gateway.usedSequences)
    (voiceGatewayPolicyError "Transcript replay rejected")
  let adapter ← requireAdapter context untrusted.adapterId .STT
  throwIf (adapter.maximumInputBytes < untrusted.audioBytes
      ∨ adapter.maximumTextBytes < untrusted.transcript.utf8ByteSize)
    (voiceGatewayPolicyError "Transcript exceeds adapter-specific limits")
  let valid ← port (ports.proofVerifier context untrusted adapter)
  throwIf (valid = false) (voiceGatewayPolicyError "Final transcript proof is invalid")
  let redactedTranscript := redact (trim untrusted.transcript)
  boundedText redactedTranscript "redactedTranscript" options.maximumTranscriptBytes
  let session := { session with state := .ROUTING }
  update fun g =>
    { g with
      usedTranscriptProofs := proofKey context untrusted :: g.usedTranscriptProofs
      usedSequences := sequenceKey context untrusted :: g.usedSequences
      sessions := g.sessions.put session }
  return (← touch ports session, redactedTranscript)

/-- `while (entries.length > maximum) entries.shift()`. -/
def shiftWhile {α : Type} (maximum : Int) : List α → List α
  | [] => []
  | entry :: entries =>
    if maximum < (entry :: entries).length then shiftWhile maximum entries else entry :: entries

/-- `#storeHistory`. -/
def storeHistory (context : WorkspaceContext) (session : VoiceSession)
    (envelope : FinalTranscriptEnvelope) (decision : VoiceCommandRoutingDecision)
    (redactedTranscript redactedResponse : String) : Op ω Unit := do
  let historyKey := key context.workspaceId context.principalId
  let id ← port ports.idFactory
  let transcriptHash ← hashTranscript ports context redactedTranscript
  let createdAt ← timeText (← port ports.clock)
  let entry : VoiceHistoryEntry :=
    { id := id
      workspaceId := context.workspaceId
      principalId := context.principalId
      sessionId := session.id
      commandId := decision.commandId
      transcriptHash := transcriptHash
      redactedTranscript :=
        if envelope.retention = "REDACTED_SESSION" then some redactedTranscript else none
      redactedResponse := redactedResponse
      outcome := decision.outcome
      requiredAuthority := decision.requiredAuthority
      createdAt := createdAt }
  update fun g =>
    { g with
      history := g.history.set historyKey (shiftWhile options.maximumHistoryEntriesPerPrincipal
        ((g.history.get? historyKey).getD [] ++ [entry])) }

/-- `#deny`. -/
def deny (session : VoiceSession) (envelope : FinalTranscriptEnvelope)
    (redactedTranscript reason : String) : Op ω VoiceRoutingResult := do
  let requestId ← port ports.idFactory
  let commandId ← port ports.idFactory
  let decision : VoiceCommandRoutingDecision :=
    { requestId := requestId
      workspaceId := session.workspaceId
      sessionId := session.id
      commandId := commandId
      outcome := .DENY
      requiredAuthority := 0
      exactTarget := none
      reason := reason
      responseText := "Voice command denied by policy." }
  let session := { session with state := .RESPONDING }
  putSession session
  let session ← touch ports session
  storeHistory options ports ⟨session.workspaceId, session.principalId⟩ session envelope decision
    redactedTranscript decision.responseText
  return ⟨decision.commandId, .DENY, decision.responseText, none⟩

/-- `#validateDecision`. -/
def validateDecision (context : WorkspaceContext) (session : VoiceSession)
    (request : VoiceCommandRoutingRequest) (decision : VoiceCommandRoutingDecision) :
    Except Failure Unit := do
  throwIf (decision.requestId ≠ request.id ∨ decision.workspaceId ≠ context.workspaceId
      ∨ decision.sessionId ≠ session.id)
    (voiceGatewayPolicyError "Routing decision linkage is invalid")
  boundedText decision.commandId "commandId" 256
  boundedInteger decision.requiredAuthority "requiredAuthority" 4
  boundedText decision.reason "decisionReason" 2048
  boundedText decision.responseText "responseText" options.maximumResponseBytes
  if decision.outcome = .LEVEL_4 then
    boundedOptionalText decision.exactTarget "exactTarget" 2048
  else
    throwIf (decision.exactTarget.isSome = true)
      (voiceGatewayPolicyError "Only Level-4 decisions may name an exact target")

/-- The checks on the authority a decision asks for. -/
def checkAuthority (authority : VoiceAuthorityDecision) (decision : VoiceCommandRoutingDecision) :
    Except Failure Unit := do
  throwIf (authority.maximumAuthority < decision.requiredAuthority ∧ decision.outcome ≠ .LEVEL_4)
    (voiceGatewayPolicyError "Routed command exceeds principal authority")
  throwIf (decision.requiredAuthority = 4 ∧ decision.outcome ≠ .LEVEL_4)
    (voiceGatewayPolicyError "Level-4 commands must require secure confirmation")
  throwIf (decision.outcome = .LEVEL_4 ∧ decision.requiredAuthority ≠ 4)
    (voiceGatewayPolicyError "Secure confirmation is reserved for Level-4 commands")

/-- What `routeFinalTranscript` answers. -/
def routingResult (decision : VoiceCommandRoutingDecision) (redactedResponse : String) :
    VoiceRoutingResult where
  commandId := decision.commandId
  outcome := decision.outcome
  responseText := redactedResponse
  confirmation := if decision.outcome = .LEVEL_4 then
      some ⟨"SECURE_CONFIRMATION_REQUIRED", decision.commandId, decision.exactTarget,
        ["PROTECTED_UI", "WEBAUTHN_OR_MFA"], false, decision.reason⟩
    else none

/-- The last part of `routeFinalTranscript`: what becomes of the decision of the router. -/
def respond (context : WorkspaceContext) (session : VoiceSession) (untrusted : FinalTranscriptEnvelope)
    (authority : VoiceAuthorityDecision) (request : VoiceCommandRoutingRequest)
    (decision : VoiceCommandRoutingDecision) : Op ω VoiceRoutingResult := do
  validateDecision options context session request decision
  checkAuthority authority decision
  let redactedResponse := redact (trim decision.responseText)
  boundedText redactedResponse "responseText" options.maximumResponseBytes
  let session := { session with state := .RESPONDING }
  putSession session
  let session ← touch ports session
  storeHistory options ports context session untrusted decision request.redactedTranscript
    redactedResponse
  return routingResult decision redactedResponse

/-- `routeFinalTranscript`. -/
def routeFinalTranscript (context : WorkspaceContext) (untrusted : FinalTranscriptEnvelope) :
    Op ω VoiceRoutingResult := do
  let (session, redactedTranscript) ← acceptTranscript options ports context untrusted
  let authority ← port (ports.authority context)
  boundedInteger authority.maximumAuthority "maximumAuthority" 4
  boundedText authority.reason "authorityReason" 2048
  if authority.allowed = false then
    deny options ports session untrusted redactedTranscript "Voice authority denied"
  else
    let id ← port ports.idFactory
    let transcriptHash ← hashTranscript ports context redactedTranscript
    let request : VoiceCommandRoutingRequest :=
      { id := id
        workspaceId := context.workspaceId
        principalId := context.principalId
        sessionId := session.id
        transcriptHash := transcriptHash
        redactedTranscript := redactedTranscript
        source := "VOICE"
        maximumExecutableAuthority := 3 }
    let decision ← port (ports.router context request)
    respond options ports context session untrusted authority request decision

/-! ## Reading -/

/-- `listHistory`. -/
def listHistory (context : WorkspaceContext) : Op ω (List VoiceHistoryEntry) := do
  assertAuthorized options context
  return ((← get).gateway.history.get? (key context.workspaceId context.principalId)).getD []

/-- `getSession`. -/
def getSession (context : WorkspaceContext) (sessionId : EntityId) : Op ω (Option VoiceSession) := do
  assertAuthorized options context
  let session := (← get).gateway.sessions.get? (key context.workspaceId sessionId)
  return session.filter fun session => session.principalId = context.principalId

/-- `replay`. -/
def replay (context : WorkspaceContext) (historyEntryId : EntityId) : Op ω ReplayPlan := do
  assertAuthorized options context
  let entries ← listHistory options context
  match entries.find? fun entry => entry.id = historyEntryId with
  | none => throw (voiceGatewayPolicyError "History entry not found")
  | some entry =>
    let session ← requireSession options context entry.sessionId
    match whenTruthy session.ttsAdapterId with
    | none => throw (voiceGatewayPolicyError "No TTS adapter selected")
    | some ttsAdapterId =>
      let adapter ← requireAdapter context ttsAdapterId .TTS
      assertEvidenceCurrent options ports context adapter
      throwIf (isUsable adapter.status = false)
        (voiceGatewayPolicyError "TTS adapter is unavailable")
      throwIf (adapter.maximumTextBytes < entry.redactedResponse.utf8ByteSize)
        (voiceGatewayPolicyError "Replay exceeds TTS adapter text limit")
      return ⟨entry.id, adapter.adapterId, entry.redactedResponse, true⟩

/-! ## The gateway as a machine -/

/-- A public call of the gateway. -/
inductive Call where
  | registerAdapter (context : WorkspaceContext) (metadata : VoiceProviderMetadata)
  | listAdapters (context : WorkspaceContext)
  | createSession (context : WorkspaceContext) (request : VoiceSessionRequest)
  | requestMicrophonePermission (context : WorkspaceContext) (sessionId : EntityId)
  | recordMicrophonePermission (context : WorkspaceContext) (sessionId : EntityId)
      (result : VoicePermission)
  | pressToTalk (context : WorkspaceContext) (sessionId : EntityId)
  | releaseToTalk (context : WorkspaceContext) (sessionId : EntityId)
  | routeFinalTranscript (context : WorkspaceContext) (untrusted : FinalTranscriptEnvelope)
  | stop (context : WorkspaceContext) (sessionId : EntityId) (reason : String)
  | replay (context : WorkspaceContext) (historyEntryId : EntityId)
  | listHistory (context : WorkspaceContext)
  | getSession (context : WorkspaceContext) (sessionId : EntityId)
  deriving DecidableEq, Repr

/-- What a call returns. -/
inductive Answer where
  | done
  | adapters (adapters : List VoiceProviderMetadata)
  | session (session : Option VoiceSession)
  | result (result : VoiceRoutingResult)
  | plan (plan : ReplayPlan)
  | history (entries : List VoiceHistoryEntry)
  deriving DecidableEq, Repr

/-- Answer a call. -/
def answer : Call → Op ω Answer
  | .registerAdapter context metadata => do
    registerAdapter options ports context metadata
    return .done
  | .listAdapters context => return .adapters (← listAdapters options context)
  | .createSession context request =>
    return .session (some (← createSession options ports context request))
  | .requestMicrophonePermission context sessionId =>
    return .session (some (← requestMicrophonePermission options ports context sessionId))
  | .recordMicrophonePermission context sessionId result =>
    return .session (some (← recordMicrophonePermission options ports context sessionId result))
  | .pressToTalk context sessionId =>
    return .session (some (← pressToTalk options ports context sessionId))
  | .releaseToTalk context sessionId =>
    return .session (some (← releaseToTalk options ports context sessionId))
  | .routeFinalTranscript context untrusted =>
    return .result (← routeFinalTranscript options ports context untrusted)
  | .stop context sessionId reason =>
    return .session (some (← stop options ports context sessionId reason))
  | .replay context historyEntryId => return .plan (← replay options ports context historyEntryId)
  | .listHistory context => return .history (← listHistory options context)
  | .getSession context sessionId => return .session (← getSession options context sessionId)

/-- One step of the machine. -/
def perform (call : Call) (w : World ω) : Except Failure Answer × World ω :=
  (answer options ports call).exec w

/-- The steps of a list of calls on a new gateway, and the world they lead to. -/
def trace (initial : ω) (calls : List Call) : List (Entry Call (Except Failure Answer) (World ω)) :=
  history (perform options ports) ⟨.empty, initial⟩ calls

@[inherit_doc trace]
def reach (initial : ω) (calls : List Call) : World ω :=
  run (perform options ports) ⟨.empty, initial⟩ calls

end VentureOS.Voice
