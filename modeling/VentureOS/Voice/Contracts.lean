import VentureOS.ControlPlane.Operations

/-! # Contracts of the voice gateway

The records of `GovernedVoiceGateway`, the checks on untrusted input, and the redaction of transcripts.
The checks on the shape of an object (its keys, booleans, known codes) always pass on these types; the
checks on texts, times and numbers do not, and stay. `Date.parse` is a parameter.

A port the gateway is given (the clock, the identifiers, the verifiers, the hasher, the authority and the
router) is an arbitrary program on a state of its own: it may answer differently each time, and throw. -/

namespace VentureOS.Voice

open ControlPlane Program

/-- `new VoiceGatewayPolicyError(message)`. -/
def voiceGatewayPolicyError (message : String) : Failure := ⟨.voiceGatewayPolicy, message⟩

/-! ## Records -/

/-- `VoicePermission`. -/
inductive VoicePermission where
  | NOT_REQUESTED
  | PROMPTING
  | GRANTED
  | DENIED
  | UNAVAILABLE
  deriving DecidableEq, Repr

/-- The permission as a string. -/
def VoicePermission.code : VoicePermission → String
  | .NOT_REQUESTED => "NOT_REQUESTED"
  | .PROMPTING => "PROMPTING"
  | .GRANTED => "GRANTED"
  | .DENIED => "DENIED"
  | .UNAVAILABLE => "UNAVAILABLE"

/-- `VoiceSessionState`. -/
inductive VoiceSessionState where
  | IDLE
  | REQUESTING_PERMISSION
  | READY
  | RECORDING
  | TRANSCRIBING
  | ROUTING
  | RESPONDING
  | STOPPED
  | FAILED
  deriving DecidableEq, Repr

/-- `VoiceAdapterKind`. -/
inductive VoiceAdapterKind where
  | STT
  | TTS
  | REALTIME
  deriving DecidableEq, Repr

/-- The kind as a string. -/
def VoiceAdapterKind.code : VoiceAdapterKind → String
  | .STT => "STT"
  | .TTS => "TTS"
  | .REALTIME => "REALTIME"

/-- `VoiceAdapterStatus`. -/
inductive VoiceAdapterStatus where
  | NOT_CONFIGURED
  | BROWSER_LOCAL_AVAILABLE
  | AVAILABLE
  | DEGRADED
  | UNAVAILABLE
  deriving DecidableEq, Repr

/-- `VoiceAvailability`. -/
inductive VoiceAvailability where
  | LOCAL_BROWSER
  | SELF_HOSTED
  | EXTERNAL_PROVIDER
  deriving DecidableEq, Repr

/-- `VoiceNetworkMode`. -/
inductive VoiceNetworkMode where
  | OFFLINE
  | LOOPBACK
  | EGRESS
  deriving DecidableEq, Repr

/-- `VoiceCredentialMode`. -/
inductive VoiceCredentialMode where
  | NONE
  | SECRET_REFERENCE
  | SESSION
  deriving DecidableEq, Repr

/-- The data policy of an adapter. -/
inductive VoiceDataPolicy where
  | LOCAL_ONLY
  | NO_TRAINING
  | PROVIDER_POLICY_REVIEW_REQUIRED
  deriving DecidableEq, Repr

/-- `VoiceProviderMetadata`. -/
structure VoiceProviderMetadata where
  adapterId : EntityId
  kind : VoiceAdapterKind
  provider : String
  model : Option String
  status : VoiceAdapterStatus
  availability : VoiceAvailability
  networkMode : VoiceNetworkMode
  credentialMode : VoiceCredentialMode
  isFallback : Bool
  availabilityEvidenceId : EntityId
  availabilityVerifiedAt : String
  maximumInputBytes : Int
  maximumTextBytes : Int
  latencyP50Ms : Option Int
  latencyP95Ms : Option Int
  qualityScoreBps : Option Int
  costMinorUnitsPerMillionInputUnits : Option Int
  currency : Option String
  dataPolicy : VoiceDataPolicy
  deriving DecidableEq, Repr

/-- `BrowserVoiceCapabilities`. -/
structure BrowserVoiceCapabilities where
  microphonePermissionApi : Bool
  localSpeechToText : Bool
  localTextToSpeech : Bool
  realtimeSpeech : Bool
  deriving DecidableEq, Repr

/-- The request of `createSession`. -/
structure VoiceSessionRequest where
  id : EntityId
  sttAdapterId : EntityId
  ttsAdapterId : Option EntityId
  browser : BrowserVoiceCapabilities
  deriving DecidableEq, Repr

/-- `VoiceSession`. -/
structure VoiceSession where
  id : EntityId
  workspaceId : EntityId
  principalId : EntityId
  state : VoiceSessionState
  permission : VoicePermission
  sttAdapterId : EntityId
  ttsAdapterId : Option EntityId
  createdAt : String
  updatedAt : String
  stoppedReason : Option String
  deriving DecidableEq, Repr

/-- `FinalTranscriptEnvelope`; the retention is the untrusted text. -/
structure FinalTranscriptEnvelope where
  sessionId : EntityId
  workspaceId : EntityId
  principalId : EntityId
  adapterId : EntityId
  sequence : Int
  nonce : String
  observedAt : String
  final : Bool
  transcript : String
  audioBytes : Int
  proof : String
  retention : String
  deriving DecidableEq, Repr

/-- `VoiceAuthorityDecision`; the level is the untrusted number. -/
structure VoiceAuthorityDecision where
  allowed : Bool
  maximumAuthority : Int
  reason : String
  deriving DecidableEq, Repr

/-- `VoiceCommandRoutingRequest`. Its source is always `VOICE` and its maximum executable authority 3. -/
structure VoiceCommandRoutingRequest where
  id : EntityId
  workspaceId : EntityId
  principalId : EntityId
  sessionId : EntityId
  transcriptHash : String
  redactedTranscript : String
  source : String
  maximumExecutableAuthority : Int
  deriving DecidableEq, Repr

/-- The outcome of a routing decision. -/
inductive VoiceOutcome where
  | ROUTINE
  | LEVEL_4
  | DENY
  deriving DecidableEq, Repr

/-- `VoiceCommandRoutingDecision`; the level is the untrusted number. -/
structure VoiceCommandRoutingDecision where
  requestId : EntityId
  workspaceId : EntityId
  sessionId : EntityId
  commandId : EntityId
  outcome : VoiceOutcome
  requiredAuthority : Int
  exactTarget : Option String
  reason : String
  responseText : String
  deriving DecidableEq, Repr

/-- `SecureConfirmationRequirement`. -/
structure SecureConfirmationRequirement where
  status : String
  commandId : EntityId
  exactTarget : Option String
  permittedChannels : List String
  voiceConfirmationAccepted : Bool
  reason : String
  deriving DecidableEq, Repr

/-- `VoiceHistoryEntry`. -/
structure VoiceHistoryEntry where
  id : EntityId
  workspaceId : EntityId
  principalId : EntityId
  sessionId : EntityId
  commandId : EntityId
  transcriptHash : String
  redactedTranscript : Option String
  redactedResponse : String
  outcome : VoiceOutcome
  requiredAuthority : Int
  createdAt : String
  deriving DecidableEq, Repr

/-- `VoiceRoutingResult`. -/
structure VoiceRoutingResult where
  commandId : EntityId
  outcome : VoiceOutcome
  responseText : String
  confirmation : Option SecureConfirmationRequirement
  deriving DecidableEq, Repr

/-- `ReplayPlan`. -/
structure ReplayPlan where
  responseId : EntityId
  ttsAdapterId : EntityId
  redactedText : String
  providerInvocationRequired : Bool
  deriving DecidableEq, Repr

/-! ## Checks -/

/-- `boundedInteger`. -/
def boundedInteger (value : Int) (field : String) (maximum : Int) : Except Failure Unit :=
  throwIf (isSafeInteger value = false ∨ value < 0 ∨ maximum < value)
    (voiceGatewayPolicyError s!"{field} is outside policy bounds")

/-- The control characters that `boundedText` forbids: tab, line feed and carriage return may stay. -/
def isForbiddenControl (c : Char) : Bool :=
  let code := c.toNat
  code ≤ 8 || code == 11 || code == 12 || (14 ≤ code && code ≤ 31) || code == 127

/-- `boundedText`. -/
def boundedText (value : String) (field : String) (maximumBytes : Int) : Except Failure Unit :=
  throwIf (isBlank value = true ∨ maximumBytes < value.utf8ByteSize
      ∨ value.toList.any isForbiddenControl = true)
    (voiceGatewayPolicyError s!"{field} must be bounded printable text")

/-- `boundedText` of a value that may be absent. -/
def boundedOptionalText (value : Option String) (field : String) (maximumBytes : Int) :
    Except Failure Unit :=
  match value with
  | some text => boundedText text field maximumBytes
  | none => .error (voiceGatewayPolicyError s!"{field} must be bounded printable text")

/-- `parsedTime`. -/
def parsedTime (dateParse : String → Option Int) (value field : String) : Except Failure Int :=
  match dateParse value with
  | some time => .ok time
  | none => .error (voiceGatewayPolicyError s!"{field} must be ISO-8601")

/-! ## Redaction -/

section Redaction

open Regex

/-- `r{0,n}`. -/
def upTo : Nat → Regex → Regex
  | 0, _ => .eps
  | n + 1, r => opt (.seq r (upTo n r))

/-- Under the flags `i` and `u` a class with a letter contains whatever folds to the letter, and so do
the word characters of `\b`; the patterns are those of the source for folded text. -/
def letters : Regex := .cls fun c => 'a' ≤ c && c ≤ 'z'

/-- One of the letters and digits of folded text, or of some further characters. -/
def alnumOr (s : String) : Regex := .cls fun c => isAlnum c || s.toList.contains c

/-- `\s*`. -/
def spaces : Regex := .star (.cls isJsSpace)

/-- `REDACTIONS`. -/
def redactions : List Regex :=
  [seqAll [.wordBoundary, literal "gh", oneOf "op", literal "_", atLeast 20 (alnumOr ""), .wordBoundary],
    seqAll [.wordBoundary, literal "sk-", atLeast 20 (alnumOr "_-"), .wordBoundary],
    seqAll [literal "-----begin ", upTo 40 (.cls fun c => c != '-'), literal "private key-----"],
    seqAll [.wordBoundary, altAll [literal "bearer", literal "authorization"], spaces, oneOf ":=", spaces,
      atLeast 12 (alnumOr "._~+/-")],
    seqAll [.wordBoundary, literal "bearer", .cls isJsSpace, spaces, atLeast 12 (alnumOr "._~+/-")],
    seqAll [.wordBoundary, atLeast 1 (alnumOr "._%+-"), literal "@", atLeast 1 (alnumOr ".-"), literal ".",
      atLeast 2 letters, .wordBoundary]]

/-- The length of the match at a place of a text: of the possible matches of these patterns their greedy
quantifiers choose the longest. -/
def matchLength (pattern : Regex) (before : Option Char) (rest : List Char) : Nat :=
  let folded := rest.map foldCase
  ((pattern.ends (before.map foldCase, folded)).map fun p => folded.length - p.2.length).foldl max 0

/-- Replace the matches from a place on; `skip` characters are left of the match before it. -/
def replaceFrom (pattern : Regex) (replacement : List Char) :
    Nat → Option Char → List Char → List Char
  | _, _, [] => []
  | skip + 1, _, c :: rest => replaceFrom pattern replacement skip (some c) rest
  | 0, before, c :: rest =>
    match matchLength pattern before (c :: rest) with
    | 0 => c :: replaceFrom pattern replacement 0 (some c) rest
    | n + 1 => replacement ++ replaceFrom pattern replacement n (some c) rest

/-- `SENSITIVE_TRANSCRIPT_MARKERS`. -/
def sensitiveTranscriptMarkers : List String :=
  ["private key", "password", "api key", "api_key", "api-key", "apikey", "secret", "credential",
    "token", "authorization", "bearer", "ghp_", "gho_", "sk-"]

/-- `toLocaleLowerCase`, as far as the lower case has ASCII letters: beside the capital letters the dotted
capital I and the Kelvin sign. -/
def lowerCase (c : Char) : List Char :=
  if c.toNat = 0x130 then ['i', Char.ofNat 0x307]
  else if c.toNat = 0x212A then ['k']
  else [c.toLower]

/-- `redact`. -/
def redact (value : String) : String :=
  let lower := value.toList.flatMap lowerCase
  if sensitiveTranscriptMarkers.any fun marker => decide (marker.toList <:+: lower) then
    "[REDACTED_SENSITIVE_TRANSCRIPT]"
  else
    String.ofList (redactions.foldl
      (fun result pattern => replaceFrom pattern "[REDACTED]".toList 0 none result) value.toList)

end Redaction

/-- `value.trim()`. -/
def trim (value : String) : String :=
  String.ofList ((value.toList.dropWhile isJsSpace).reverse.dropWhile isJsSpace).reverse

/-! ## Adapter metadata -/

/-- A bound on an optional number. -/
def optionalInteger (value : Option Int) (field : String) : Except Failure Unit :=
  match value with
  | some n => boundedInteger n field maxSafeInteger
  | none => .ok ()

/-- `validateMetadata`. -/
def validateMetadata (dateParse : String → Option Int) (metadata : VoiceProviderMetadata) :
    Except Failure Unit := do
  boundedText metadata.adapterId "adapterId" 256
  boundedText metadata.provider "provider" 256
  boundedText metadata.availabilityEvidenceId "availabilityEvidenceId" 256
  let _ ← parsedTime dateParse metadata.availabilityVerifiedAt "availabilityVerifiedAt"
  forM metadata.model.toList fun model => boundedText model "model" 256
  boundedInteger metadata.maximumInputBytes "maximumInputBytes" (100 * 1024 * 1024)
  boundedInteger metadata.maximumTextBytes "maximumTextBytes" (1024 * 1024)
  optionalInteger metadata.latencyP50Ms "latencyP50Ms"
  optionalInteger metadata.latencyP95Ms "latencyP95Ms"
  optionalInteger metadata.qualityScoreBps "qualityScoreBps"
  optionalInteger metadata.costMinorUnitsPerMillionInputUnits "costMinorUnitsPerMillionInputUnits"
  throwIf (metadata.costMinorUnitsPerMillionInputUnits.isNone ≠ metadata.currency.isNone)
    (voiceGatewayPolicyError "Cost metadata requires both amount and currency")
  forM metadata.currency.toList fun currency => boundedText currency "currency" 16
  throwIf (metadata.qualityScoreBps.any (fun score => decide (10000 < score)) = true)
    (voiceGatewayPolicyError "qualityScoreBps exceeds 10000")
  throwIf ((metadata.availability = .EXTERNAL_PROVIDER ∨ metadata.availability = .SELF_HOSTED)
      ∧ metadata.status = .BROWSER_LOCAL_AVAILABLE)
    (voiceGatewayPolicyError "Non-browser adapters cannot claim browser-local status")
  throwIf (metadata.availability = .LOCAL_BROWSER ∧ metadata.status ≠ .BROWSER_LOCAL_AVAILABLE)
    (voiceGatewayPolicyError "Browser-local adapters require browser-local status")
  throwIf (metadata.availability = .LOCAL_BROWSER
      ∧ (metadata.networkMode ≠ .OFFLINE ∨ metadata.credentialMode ≠ .NONE))
    (voiceGatewayPolicyError "Browser-local adapters must be offline and credential-free")
  throwIf (metadata.availability = .EXTERNAL_PROVIDER
      ∧ (metadata.networkMode ≠ .EGRESS ∨ metadata.credentialMode = .NONE))
    (voiceGatewayPolicyError "External providers require egress and scoped credentials")

/-! ## Options and ports -/

/-- The limits of `VoiceGatewayOptions`. -/
structure VoiceGatewayLimits where
  maximumAudioBytes : Int
  maximumTranscriptBytes : Int
  maximumResponseBytes : Int
  maximumHistoryEntriesPerPrincipal : Int
  transcriptFreshnessMs : Int
  availabilityEvidenceFreshnessMs : Int
  deriving DecidableEq, Repr

/-- The checks of the constructor. -/
def checkLimits (limits : VoiceGatewayLimits) : Except Failure Unit := do
  boundedInteger limits.maximumAudioBytes "maximumAudioBytes" (100 * 1024 * 1024)
  boundedInteger limits.maximumTranscriptBytes "maximumTranscriptBytes" (1024 * 1024)
  boundedInteger limits.maximumResponseBytes "maximumResponseBytes" (1024 * 1024)
  boundedInteger limits.maximumHistoryEntriesPerPrincipal "maximumHistoryEntriesPerPrincipal" 10000
  boundedInteger limits.transcriptFreshnessMs "transcriptFreshnessMs" (60 * 60 * 1000)
  boundedInteger limits.availabilityEvidenceFreshnessMs "availabilityEvidenceFreshnessMs"
    (30 * 24 * 60 * 60 * 1000)
  throwIf (limits.maximumAudioBytes = 0 ∨ limits.maximumTranscriptBytes = 0
      ∨ limits.maximumResponseBytes = 0)
    (voiceGatewayPolicyError "Voice payload limits must be positive")

/-- `VoiceGatewayOptions` that the constructor accepts. -/
structure VoiceGatewayOptions extends VoiceGatewayLimits where
  authorizedPrincipals : List EntityId
  dateParse : String → Option Int
  /-- The constructor did not throw. -/
  accepted : checkLimits toVoiceGatewayLimits = .ok ()

/-- The ports of the gateway, on a state `ω` of their own. A reading of the clock that is no number
is `none`. -/
structure Ports (ω : Type) where
  clock : Program Failure ω (Option Int)
  idFactory : Program Failure ω String
  proofVerifier : WorkspaceContext → FinalTranscriptEnvelope → VoiceProviderMetadata →
    Program Failure ω Bool
  adapterEvidenceVerifier : WorkspaceContext → VoiceProviderMetadata → Program Failure ω Bool
  transcriptHasher : WorkspaceContext → String → Program Failure ω String
  authority : WorkspaceContext → Program Failure ω VoiceAuthorityDecision
  router : WorkspaceContext → VoiceCommandRoutingRequest →
    Program Failure ω VoiceCommandRoutingDecision

end VentureOS.Voice
