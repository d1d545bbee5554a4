import VentureOS.Durable.Policy
import VentureOS.Foundations.Regex

/-! # Validation dispatches and their frames

`codec.ts`, `codex-validation-dispatch.ts` and the checks of `codex-validation-runtime-adapter.ts` on what a
call is given. Records have the fields of their types, so what is checked here is their values; a canonical
timestamp stands for its time. -/

namespace VentureOS.Bridge

/-! ## Errors -/

/-- `CodexValidationDispatchErrorCode`. -/
inductive DispatchErrorCode where
  | INVALID_EVIDENCE
  | HEARTBEAT_MISMATCH
  | VALIDATION_LIMIT_EXCEEDED
  | VALIDATION_DISPATCH_NOT_AUTHORIZED
  deriving DecidableEq, Repr

/-- `CodexValidationRuntimeAdapterErrorCode`. -/
inductive RuntimeAdapterErrorCode where
  | INVALID_INPUT
  | INVALID_FRAME
  | AUTHORITY_EXPIRED
  | CONCURRENT_DISPATCH
  | USED_DISPATCH
  | LIMIT_EXCEEDED
  | CANCELLED
  | SECRET_LEASE_DENIED
  | WRITE_TIMEOUT
  | TRANSPORT_DENIED
  | TRANSPORT_MUTATED_FRAME
  deriving DecidableEq, Repr

/-- An error of the bridge: `BridgeProtocolError`, or a denial with a code. -/
inductive BridgeError where
  | protocol (message : String)
  | dispatch (code : DispatchErrorCode)
  | adapter (code : RuntimeAdapterErrorCode)
  deriving DecidableEq, Repr

/-! ## Patterns -/

/-- `REFERENCE`: a letter or a digit, then at most 255 of these, colons, dots, underscores, slashes and
hyphens. -/
def referencePattern (s : String) : Bool :=
  match s.toList with
  | [] => false
  | c :: rest => isAlnum c && decide (rest.length ≤ 255)
      && rest.all fun d => isAlnum d || [':', '.', '_', '/', '-'].contains d

/-- `MAC`. -/
def macPattern (s : String) : Bool :=
  decide (s.toList.length = 43) && s.toList.all fun c => isAlnum c || c == '_' || c == '-'

/-- `/^[A-Za-z][A-Za-z0-9]{0,63}$/u`. -/
def fieldPattern (s : String) : Bool :=
  match s.toList with
  | [] => false
  | c :: rest => isAlnum c && !c.isDigit && decide (rest.length ≤ 63) && rest.all isAlnum

open Regex in
/-- `SENSITIVE` of the codec, in lower case. -/
def sensitive : Regex :=
  altAll [
    seqAll [literal "chain", opt dot, literal "of", opt dot, literal "thought"],
    seqAll [literal "private", opt dot, literal "reasoning"],
    literal "password", literal "credential",
    seqAll [literal "api", opt dot, literal "key"],
    seqAll [literal "-----begin ", .star (.cls fun c => ('a' ≤ c && c ≤ 'z') || c == ' '),
      literal "private key-----"],
    seqAll [.wordBoundary, literal "bearer", atLeast 1 (.cls isJsSpace)],
    seqAll [.wordBoundary,
      altAll [literal "sk", .seq (literal "gh") (oneOf "opusr"), literal "github_pat",
        literal "glpat", .seq (literal "xox") (oneOf "baprs")],
      oneOf "_-", atLeast 8 (Durable.alnumOr "_-")],
    seqAll [.wordBoundary, literal "eyj", atLeast 8 (Durable.alnumOr "_-"), literal ".",
      atLeast 8 (Durable.alnumOr "_-"), literal ".", atLeast 8 (Durable.alnumOr "_-")]]

/-- `SENSITIVE.test(value)`. -/
def isSensitive (value : String) : Bool := Durable.testIgnoreCase sensitive value

/-! ## Canonical JSON -/

mutual

/-- The checks of `canonicalize`. -/
def checkCanonical : Json → Except BridgeError Unit
  | .null => .ok ()
  | .bool _ => .ok ()
  | .int n => throwIf (isSafeInteger n = false) (.protocol "Numbers must be safe integers")
  | .num _ => .error (.protocol "Numbers must be safe integers")
  | .notJson => .error (.protocol "Only plain JSON records are allowed")
  | .str s => throwIf (2048 < utf16Length s ∨ isSensitive s = true)
      (.protocol "Sensitive or oversized payload text is forbidden")
  | .arr items => do
    throwIf (256 < items.length) (.protocol "Arrays are bounded")
    checkItems items
  | .obj fields => do
    throwIf (64 < fields.length) (.protocol "Objects are bounded")
    checkFields fields

/-- The checks of the items of an array. -/
def checkItems : List Json → Except BridgeError Unit
  | [] => .ok ()
  | item :: rest => do
    checkCanonical item
    checkItems rest

/-- The checks of the fields of a record. -/
def checkFields : List (String × Json) → Except BridgeError Unit
  | [] => .ok ()
  | (name, nested) :: rest => do
    throwIf (fieldPattern name = false ∨ isSensitive name = true) (.protocol "Unsafe payload field")
    checkCanonical nested
    checkFields rest

end

/-- `canonicalJson`. -/
def canonicalJson (value : Json) : Except BridgeError String := do
  checkCanonical value
  return String.ofList (Durable.canonical value).text

/-- A text that `canonicalize` accepts. -/
def isPlainText (s : String) : Bool := decide (utf16Length s ≤ 2048) && !isSensitive s

/-- A name that `canonicalize` accepts. -/
def isPlainName (s : String) : Bool := fieldPattern s && !isSensitive s

theorem checkCanonical_str {s : String} (h : isPlainText s = true) : checkCanonical (.str s) = .ok () := by
  obtain ⟨hlength, hsafe⟩ := Bool.and_eq_true_iff.mp h
  rw [Bool.not_eq_true'] at hsafe
  rw [checkCanonical, throwIf_eq_ok, not_or, Bool.not_eq_true]
  exact ⟨Nat.not_lt.mpr (of_decide_eq_true hlength), hsafe⟩

theorem checkFields_eq_ok {fields : List (String × Json)}
    (h : ∀ field ∈ fields, isPlainName field.1 = true ∧ checkCanonical field.2 = .ok ()) :
    checkFields fields = .ok () := by
  induction fields with
  | nil => rfl
  | cons field rest ih =>
    obtain ⟨name, nested⟩ := field
    obtain ⟨hname, hnested⟩ := h _ List.mem_cons_self
    obtain ⟨hpattern, hsafe⟩ := Bool.and_eq_true_iff.mp hname
    rw [Bool.not_eq_true'] at hsafe
    rw [checkFields, check_bind_eq_ok, throwIf_eq_ok, except_bind_eq_ok, hpattern, hsafe]
    exact ⟨by simp, (), hnested, ih fun field hfield => h field (List.mem_cons_of_mem _ hfield)⟩

theorem checkCanonical_obj {fields : List (String × Json)} (hlength : fields.length ≤ 64)
    (h : ∀ field ∈ fields, isPlainName field.1 = true ∧ checkCanonical field.2 = .ok ()) :
    checkCanonical (.obj fields) = .ok () := by
  rw [checkCanonical, check_bind_eq_ok, throwIf_eq_ok]
  exact ⟨Nat.not_lt.mpr hlength, checkFields_eq_ok h⟩

/-- The digits of a digest. -/
def hexDigits : List Char :=
  ['0', '1', '2', '3', '4', '5', '6', '7', '8', '9', 'a', 'b', 'c', 'd', 'e', 'f']

/-- What each of the digits is: known by its code, kept by folding, one unit, a letter or a digit, and never part of
something sensitive. -/
theorem hexDigits_checked :
    (∀ n < 103, (97 ≤ n ∧ n ≤ 102) ∨ (48 ≤ n ∧ n ≤ 57) → Char.ofNat n ∈ hexDigits)
      ∧ (hexDigits.all fun c => hexDigits.contains (Regex.foldCase c)) = true
      ∧ (hexDigits.all fun c => decide (c.toNat < 0x10000)) = true
      ∧ hexDigits.all isAlnum = true
      ∧ sensitive.blocked hexDigits = true := by decide

theorem mem_hexDigits {c : Char} (h : (('a' ≤ c && c ≤ 'f') || ('0' ≤ c && c ≤ '9')) = true) :
    c ∈ hexDigits := by
  have hrange : (97 ≤ c.toNat ∧ c.toNat ≤ 102) ∨ (48 ≤ c.toNat ∧ c.toNat ≤ 57) := by
    simpa [Char.le_def, UInt32.le_iff_toNat_le] using h
  rw [← Char.ofNat_toNat c]
  exact hexDigits_checked.1 c.toNat (by omega) hrange

/-- A digest is never taken for something sensitive. -/
theorem isPlainText_of_digest {s : String} (h : Durable.sha256Pattern s = true) : isPlainText s = true := by
  obtain ⟨hlength, hdigits⟩ := Bool.and_eq_true_iff.mp h
  have hhex : ∀ c ∈ s.toList, c ∈ hexDigits := fun c hc => mem_hexDigits (List.all_eq_true.mp hdigits c hc)
  obtain ⟨-, hfold, hbasic, -, hblocked⟩ := hexDigits_checked
  have hsafe : isSensitive s = false := by
    refine Regex.test_of_blocked hblocked fun c hc => ?_
    rw [String.toList_ofList] at hc
    obtain ⟨c', hc', rfl⟩ := List.mem_map.mp hc
    exact List.contains_iff_mem.mp (List.all_eq_true.mp hfold c' (hhex c' hc'))
  have hunits : utf16Length s = 64 := by
    have hones : ∀ n ∈ s.toList.map fun c => if c.toNat < 0x10000 then 1 else 2, n = 1 := by
      intro n hn
      obtain ⟨c, hc, rfl⟩ := List.mem_map.mp hn
      exact if_pos (of_decide_eq_true (List.all_eq_true.mp hbasic c (hhex c hc)))
    rw [utf16Length, List.sum_eq_card_nsmul _ _ hones, List.length_map, of_decide_eq_true hlength]
    rfl
  rw [isPlainText, hsafe, hunits]
  rfl

/-- A digest is a reference. -/
theorem referencePattern_of_digest {s : String} (h : Durable.sha256Pattern s = true) :
    referencePattern s = true := by
  obtain ⟨hlength, hdigits⟩ := Bool.and_eq_true_iff.mp h
  have hhex := hexDigits_checked.2.2.2.1
  have hall : ∀ c ∈ s.toList, isAlnum c = true := fun c hc =>
    List.all_eq_true.mp hhex c (mem_hexDigits (List.all_eq_true.mp hdigits c hc))
  have hlength := of_decide_eq_true hlength
  unfold referencePattern
  cases hs : s.toList with
  | nil =>
    rw [hs] at hlength
    cases hlength
  | cons c rest =>
    rw [hs, List.length_cons] at hlength
    rw [hs, List.forall_mem_cons] at hall
    have hshort : rest.length ≤ 255 := by omega
    have hrest : (rest.all fun d => isAlnum d || [':', '.', '_', '/', '-'].contains d) = true :=
      List.all_eq_true.mpr fun d hd => by rw [hall.2 d hd, Bool.true_or]
    simp only [hall.1, hshort, hrest, decide_true, Bool.and_self]

/-- The text of a time. -/
def timestampJson (t : Int) : Json := .str ((toISOString t).getD "")

/-! ## Dispatch candidates -/

/-- `CodexValidationDispatchCandidate`, but for the fields of which the type fixes the value. -/
structure CodexValidationDispatchCandidate where
  workspaceId : String
  runtimeId : String
  connectionId : String
  sessionId : String
  principalReference : String
  authGeneration : Int
  registrationCandidateHash : String
  capabilityCandidateHash : String
  heartbeatCandidateHash : String
  capabilityDigest : String
  bridgeIdentityHash : String
  secretBindingHash : String
  dispatchId : String
  taskId : String
  runId : String
  agentId : String
  authorityLevel : Int
  taskPolicyHash : String
  maximumComputeUnits : Int
  maximumDurationMs : Int
  messageId : String
  payloadDigest : String
  unsignedEnvelopeDigest : String
  issuedAt : Int
  expiresAt : Int
  validationDispatchCandidateHash : String
  deriving DecidableEq, Repr

/-- `BridgeMessageType`, as far as frames of validations have it. -/
inductive FrameType where
  | DISPATCH
  | DISPATCH_ACCEPTED
  | CANCELLED
  | RESULT
  deriving DecidableEq, Repr

def FrameType.text : FrameType → String
  | .DISPATCH => "DISPATCH"
  | .DISPATCH_ACCEPTED => "DISPATCH_ACCEPTED"
  | .CANCELLED => "CANCELLED"
  | .RESULT => "RESULT"

/-- `Omit<BridgeEnvelope, 'mac'>`. -/
structure UnsignedEnvelope where
  protocolVersion : String
  workspaceId : String
  runtimeId : String
  connectionId : String
  sessionId : String
  principalReference : String
  sequence : Int
  messageId : String
  type : FrameType
  issuedAt : Int
  expiresAt : Int
  payloadDigest : String
  payload : List (String × Json)

/-- `BridgeEnvelope`. -/
structure BridgeEnvelope extends UnsignedEnvelope where
  mac : String

/-- `BRIDGE_PROTOCOL_VERSION`. -/
def bridgeProtocolVersion : String := "ventureos.bridge.v1"

/-- `CODEX_VALIDATION_CHALLENGE`. -/
def codexValidationChallenge : String := "codex.runtime.round-trip.v1"

def UnsignedEnvelope.toJson (envelope : UnsignedEnvelope) : Json :=
  .obj [
    ("protocolVersion", .str envelope.protocolVersion),
    ("workspaceId", .str envelope.workspaceId),
    ("runtimeId", .str envelope.runtimeId),
    ("connectionId", .str envelope.connectionId),
    ("sessionId", .str envelope.sessionId),
    ("principalReference", .str envelope.principalReference),
    ("sequence", .int envelope.sequence),
    ("messageId", .str envelope.messageId),
    ("type", .str envelope.type.text),
    ("issuedAt", timestampJson envelope.issuedAt),
    ("expiresAt", timestampJson envelope.expiresAt),
    ("payloadDigest", .str envelope.payloadDigest),
    ("payload", .obj envelope.payload)]

/-- `codexValidationDispatchPayload`. -/
def codexValidationDispatchPayload (candidate : CodexValidationDispatchCandidate) : List (String × Json) :=
  [("schemaVersion", .int 1),
    ("challengeCode", .str codexValidationChallenge),
    ("dispatchId", .str candidate.dispatchId),
    ("taskId", .str candidate.taskId),
    ("runId", .str candidate.runId),
    ("agentId", .str candidate.agentId),
    ("authorityLevel", .int candidate.authorityLevel),
    ("taskPolicyHash", .str candidate.taskPolicyHash),
    ("registrationCandidateHash", .str candidate.registrationCandidateHash),
    ("capabilityCandidateHash", .str candidate.capabilityCandidateHash),
    ("heartbeatCandidateHash", .str candidate.heartbeatCandidateHash)]

/-- `unsignedEnvelope` of a candidate that has its payload digest. -/
def unsignedEnvelope (candidate : CodexValidationDispatchCandidate) : UnsignedEnvelope where
  protocolVersion := bridgeProtocolVersion
  workspaceId := candidate.workspaceId
  runtimeId := candidate.runtimeId
  connectionId := candidate.connectionId
  sessionId := candidate.sessionId
  principalReference := candidate.principalReference
  sequence := 1
  messageId := candidate.messageId
  type := .DISPATCH
  issuedAt := candidate.issuedAt
  expiresAt := candidate.expiresAt
  payloadDigest := candidate.payloadDigest
  payload := codexValidationDispatchPayload candidate

/-- `normalized`: the candidate without its own hash. -/
def CodexValidationDispatchCandidate.normalized (candidate : CodexValidationDispatchCandidate) : Json :=
  .obj [
    ("schemaVersion", .int 1),
    ("adapterKind", .str "CODEX_APP_SERVER_STDIO_V1"),
    ("workspaceId", .str candidate.workspaceId),
    ("runtimeId", .str candidate.runtimeId),
    ("connectionId", .str candidate.connectionId),
    ("sessionId", .str candidate.sessionId),
    ("principalReference", .str candidate.principalReference),
    ("authGeneration", .int candidate.authGeneration),
    ("registrationCandidateHash", .str candidate.registrationCandidateHash),
    ("capabilityCandidateHash", .str candidate.capabilityCandidateHash),
    ("heartbeatCandidateHash", .str candidate.heartbeatCandidateHash),
    ("capabilityDigest", .str candidate.capabilityDigest),
    ("bridgeIdentityHash", .str candidate.bridgeIdentityHash),
    ("secretBindingHash", .str candidate.secretBindingHash),
    ("dispatchId", .str candidate.dispatchId),
    ("taskId", .str candidate.taskId),
    ("runId", .str candidate.runId),
    ("agentId", .str candidate.agentId),
    ("authorityLevel", .int candidate.authorityLevel),
    ("taskPolicyHash", .str candidate.taskPolicyHash),
    ("maximumCostMinorUnits", .int 0),
    ("maximumComputeUnits", .int candidate.maximumComputeUnits),
    ("maximumDurationMs", .int candidate.maximumDurationMs),
    ("outboundSequence", .int 1),
    ("messageId", .str candidate.messageId),
    ("challengeCode", .str codexValidationChallenge),
    ("payloadDigest", .str candidate.payloadDigest),
    ("unsignedEnvelopeDigest", .str candidate.unsignedEnvelopeDigest),
    ("issuedAt", timestampJson candidate.issuedAt),
    ("expiresAt", timestampJson candidate.expiresAt),
    ("assignmentState", .str "NOT_CONFIGURED"),
    ("deliveryState", .str "NOT_SENT"),
    ("providerAccess", .str "NOT_CONFIGURED"),
    ("runtimeConnection", .str "NOT_CONFIGURED")]

/-- `MAX_WINDOW_MS`. -/
def maxWindowMs : Int := 60000

/-- `reference` of a dispatch. -/
def dispatchReference (value : String) : Except BridgeError Unit :=
  throwIf (referencePattern value = false) (.dispatch .INVALID_EVIDENCE)

/-- `digest` of a dispatch. -/
def dispatchDigest (value : String) : Except BridgeError Unit :=
  throwIf (Durable.sha256Pattern value = false) (.dispatch .INVALID_EVIDENCE)

/-- `boundedInteger`. -/
def boundedInteger (value minimum maximum : Int) : Except BridgeError Unit :=
  throwIf (isSafeInteger value = false ∨ value < minimum ∨ maximum < value)
    (.dispatch .VALIDATION_LIMIT_EXCEEDED)

section Validation

variable (sha256 : String → String)

/-- `createHash('sha256').update(canonicalJson(value)).digest('hex')`. -/
def hash (value : Json) : Except BridgeError String := do
  let text ← canonicalJson value
  return sha256 text

/-- `validateCodexValidationDispatchCandidate`. -/
def validateCodexValidationDispatchCandidate (candidate : CodexValidationDispatchCandidate) :
    Except BridgeError Unit := do
  dispatchReference candidate.dispatchId
  throwIf (candidate.messageId ≠ candidate.dispatchId) (.dispatch .INVALID_EVIDENCE)
  throwIf (candidate.expiresAt ≤ candidate.issuedAt
      ∨ maxWindowMs < candidate.expiresAt - candidate.issuedAt)
    (.dispatch .INVALID_EVIDENCE)
  dispatchReference candidate.workspaceId
  dispatchReference candidate.runtimeId
  dispatchReference candidate.connectionId
  dispatchReference candidate.sessionId
  dispatchReference candidate.principalReference
  boundedInteger candidate.authGeneration 1 maxSafeInteger
  dispatchDigest candidate.registrationCandidateHash
  dispatchDigest candidate.capabilityCandidateHash
  dispatchDigest candidate.heartbeatCandidateHash
  dispatchDigest candidate.capabilityDigest
  dispatchDigest candidate.bridgeIdentityHash
  dispatchDigest candidate.secretBindingHash
  dispatchReference candidate.taskId
  dispatchReference candidate.runId
  dispatchReference candidate.agentId
  boundedInteger candidate.authorityLevel 0 3
  dispatchDigest candidate.taskPolicyHash
  boundedInteger candidate.maximumComputeUnits 1 100
  boundedInteger candidate.maximumDurationMs 1 maxWindowMs
  dispatchDigest candidate.payloadDigest
  dispatchDigest candidate.unsignedEnvelopeDigest
  let unsigned := unsignedEnvelope candidate
  let payloadDigest ← hash sha256 (.obj unsigned.payload)
  throwIf (candidate.payloadDigest ≠ payloadDigest) (.dispatch .INVALID_EVIDENCE)
  let unsignedDigest ← hash sha256 unsigned.toJson
  throwIf (candidate.unsignedEnvelopeDigest ≠ unsignedDigest) (.dispatch .INVALID_EVIDENCE)
  let expectedHash ← hash sha256 candidate.normalized
  dispatchDigest candidate.validationDispatchCandidateHash
  throwIf (candidate.validationDispatchCandidateHash ≠ expectedHash) (.dispatch .INVALID_EVIDENCE)

/-! ## The bridge of a call -/

/-- `AuthenticatedJsonlSessionContext`. -/
structure BridgeContext where
  workspaceId : String
  runtimeId : String
  connectionId : String
  sessionId : String
  principalReference : String
  parentNonce : String
  runtimeNonce : String
  secretReference : String
  expectedSecretDigest : String
  authGeneration : Int
  authenticatedAt : Int
  expiresAt : Int
  deriving DecidableEq, Repr

/-- The denial of an input. -/
def invalidInput : BridgeError := .adapter .INVALID_INPUT

/-- `reference`. -/
def reference (value : String) : Except BridgeError Unit :=
  throwIf (referencePattern value = false) invalidInput

/-- `digest`. -/
def digest (value : String) : Except BridgeError Unit :=
  throwIf (Durable.sha256Pattern value = false) invalidInput

/-- `validateBridge`. -/
def validateBridge (bridge : BridgeContext) : Except BridgeError Unit := do
  throwIf (isSafeInteger bridge.authGeneration = false ∨ bridge.authGeneration < 1) invalidInput
  throwIf (bridge.expiresAt ≤ bridge.authenticatedAt
      ∨ 15 * 60000 < bridge.expiresAt - bridge.authenticatedAt)
    invalidInput
  reference bridge.workspaceId
  reference bridge.runtimeId
  reference bridge.connectionId
  reference bridge.sessionId
  reference bridge.principalReference
  reference bridge.parentNonce
  reference bridge.runtimeNonce
  reference bridge.secretReference
  digest bridge.expectedSecretDigest

/-- What the `bridgeIdentityHash` of `validateBinding` is the hash of. -/
def BridgeContext.identity (bridge : BridgeContext) : Json :=
  .obj [
    ("authGeneration", .int bridge.authGeneration),
    ("authenticatedAt", timestampJson bridge.authenticatedAt),
    ("connectionId", .str bridge.connectionId),
    ("expectedSecretDigest", .str bridge.expectedSecretDigest),
    ("expiresAt", timestampJson bridge.expiresAt),
    ("parentNonce", .str bridge.parentNonce),
    ("principalReference", .str bridge.principalReference),
    ("runtimeNonce", .str bridge.runtimeNonce),
    ("runtimeId", .str bridge.runtimeId),
    ("secretReference", .str bridge.secretReference),
    ("sessionId", .str bridge.sessionId),
    ("workspaceId", .str bridge.workspaceId)]

/-- What the `secretBindingHash` of `validateBinding` is the hash of. -/
def BridgeContext.secretBinding (bridge : BridgeContext) : Json :=
  .obj [("expectedSecretDigest", .str bridge.expectedSecretDigest), ("secretReference", .str bridge.secretReference)]

/-- `validateBinding`. -/
def validateBinding (dispatch : CodexValidationDispatchCandidate) (bridge : BridgeContext) :
    Except BridgeError Unit := do
  throwIf (dispatch.workspaceId ≠ bridge.workspaceId ∨ dispatch.runtimeId ≠ bridge.runtimeId
      ∨ dispatch.connectionId ≠ bridge.connectionId ∨ dispatch.sessionId ≠ bridge.sessionId
      ∨ dispatch.principalReference ≠ bridge.principalReference)
    invalidInput
  let bridgeIdentityHash ← hash sha256 bridge.identity
  let secretBindingHash ← hash sha256 bridge.secretBinding
  throwIf (dispatch.authGeneration ≠ bridge.authGeneration ∨ dispatch.bridgeIdentityHash ≠ bridgeIdentityHash
      ∨ dispatch.secretBindingHash ≠ secretBindingHash ∨ bridge.expiresAt < dispatch.expiresAt)
    invalidInput

/-! ## The frame of a call -/

mutual

/-- The nodes of a value that `enforceFrameBounds` visits, and the depth of the deepest. -/
def frameSize : Json → Nat × Nat
  | .arr items => ((itemsSize items).1 + 1, (itemsSize items).2)
  | .obj fields => ((fieldsSize fields).1 + 1, (fieldsSize fields).2)
  | _ => (1, 0)

def itemsSize : List Json → Nat × Nat
  | [] => (0, 0)
  | item :: rest =>
    ((frameSize item).1 + (itemsSize rest).1, max ((frameSize item).2 + 1) (itemsSize rest).2)

def fieldsSize : List (String × Json) → Nat × Nat
  | [] => (0, 0)
  | (_, nested) :: rest =>
    ((frameSize nested).1 + (fieldsSize rest).1, max ((frameSize nested).2 + 1) (fieldsSize rest).2)

end

mutual

/-- No array and no record of the value is too long. -/
def frameFits : Json → Bool
  | .arr items => decide (items.length ≤ 256) && itemsFit items
  | .obj fields => decide (fields.length ≤ 64) && fieldsFit fields
  | _ => true

def itemsFit : List Json → Bool
  | [] => true
  | item :: rest => frameFits item && itemsFit rest

def fieldsFit : List (String × Json) → Bool
  | [] => true
  | (_, nested) :: rest => frameFits nested && fieldsFit rest

end

/-- `enforceFrameBounds`. -/
def enforceFrameBounds (value : Json) : Except BridgeError Unit :=
  throwIf (1024 < (frameSize value).1 ∨ 8 < (frameSize value).2 ∨ frameFits value = false)
    (.adapter .LIMIT_EXCEEDED)

/-- `safeReference` of the codec. -/
def safeReference (value field : String) : Except BridgeError Unit :=
  throwIf (referencePattern value = false ∨ isSensitive value = true)
    (.protocol s!"{field} is not a safe reference")

/-- `validateBridgeEnvelope`. -/
def validateBridgeEnvelope (envelope : BridgeEnvelope) : Except BridgeError Unit := do
  throwIf (envelope.protocolVersion ≠ bridgeProtocolVersion) (.protocol "Unsupported protocol version")
  safeReference envelope.workspaceId "workspaceId"
  safeReference envelope.runtimeId "runtimeId"
  safeReference envelope.connectionId "connectionId"
  safeReference envelope.sessionId "sessionId"
  safeReference envelope.principalReference "principalReference"
  safeReference envelope.messageId "messageId"
  throwIf (isSafeInteger envelope.sequence = false ∨ envelope.sequence < 1)
    (.protocol "Sequence must be a positive safe integer")
  throwIf (envelope.expiresAt ≤ envelope.issuedAt ∨ 5 * 60000 < envelope.expiresAt - envelope.issuedAt)
    (.protocol "Frame expiry must follow issuance by at most five minutes")
  throwIf (Durable.sha256Pattern envelope.payloadDigest = false) (.protocol "Invalid payload digest")
  throwIf (macPattern envelope.mac = false) (.protocol "Invalid message authenticator")
  checkCanonical (.obj envelope.payload)

/-- The record of an envelope. -/
def BridgeEnvelope.toJson (envelope : BridgeEnvelope) : Json :=
  match envelope.toUnsignedEnvelope.toJson with
  | .obj fields => .obj (fields ++ [("mac", .str envelope.mac)])
  | value => value

/-- `validateDispatchFrame`. -/
def validateDispatchFrame (dispatch : CodexValidationDispatchCandidate) (envelope : BridgeEnvelope) :
    Except BridgeError Unit := do
  enforceFrameBounds envelope.toJson
  match validateBridgeEnvelope envelope with
  | .error _ => throw (.adapter .INVALID_FRAME)
  | .ok () => do
    throwIf (envelope.type ≠ .DISPATCH ∨ envelope.sequence ≠ 1 ∨ envelope.messageId ≠ dispatch.messageId
        ∨ envelope.issuedAt ≠ dispatch.issuedAt ∨ envelope.expiresAt ≠ dispatch.expiresAt
        ∨ envelope.payloadDigest ≠ dispatch.payloadDigest)
      (.adapter .INVALID_FRAME)
    let unsignedDigest ← hash sha256 envelope.toUnsignedEnvelope.toJson
    throwIf (unsignedDigest ≠ dispatch.unsignedEnvelopeDigest) (.adapter .INVALID_FRAME)
    let payload ← canonicalJson (.obj envelope.payload)
    let expected ← canonicalJson (.obj (codexValidationDispatchPayload dispatch))
    throwIf (payload ≠ expected) (.adapter .INVALID_FRAME)

/-- What `execute` is given. -/
structure RuntimeAdapterInput where
  dispatch : CodexValidationDispatchCandidate
  bridge : BridgeContext
  dispatchEnvelope : BridgeEnvelope

/-- The checks of `authenticateInput` on its input: an error that is not one of the adapter is `INVALID_INPUT`. -/
def validateInput (input : RuntimeAdapterInput) : Except RuntimeAdapterErrorCode Unit :=
  let checks : Except BridgeError Unit := do
    validateCodexValidationDispatchCandidate sha256 input.dispatch
    validateBridge input.bridge
    validateBinding sha256 input.dispatch input.bridge
    validateDispatchFrame sha256 input.dispatch input.dispatchEnvelope
  match checks with
  | .ok () => .ok ()
  | .error (.adapter code) => .error code
  | .error _ => .error .INVALID_INPUT

variable {sha256}

end Validation

end VentureOS.Bridge
