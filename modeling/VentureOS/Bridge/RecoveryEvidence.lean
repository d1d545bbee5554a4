import VentureOS.Bridge.RecoveryTexts

/-! # Evidence of a cleanup

An exchange whose observation was accepted returns a signed response exactly when the codec accepts the references of
the identity and the signal of the process: the other fields are accepted for what they are. -/

namespace VentureOS.Bridge

open JsonText Codec

variable {PrivateKey PublicKey : Type} {ed25519 : Ed25519 PrivateKey PublicKey} {sha256 : ByteArray → String}
  {dateParse : Text → Option Int}

/-- The names of the fields of a payload. -/
def ResponsePayload.names : List Text := [
  "schemaVersion", "responseId", "requestId", "requestHash", "supervisorInstanceId", "supervisorKeyId",
  "identityEstablishedAt", "identityVerifiedAt", "exitedAt", "observedAt", "processState", "exitCode", "signal",
  "identityAuthority", "runtimeConnection"].map ofString

theorem ResponsePayload.map_fst_fields (payload : ResponsePayload) : payload.fields.map Prod.fst = names := rfl

/-- The names of a payload are accepted, and its constant texts. -/
theorem ResponsePayload.accepts_texts : ResponsePayload.names.all acceptsKey = true
    ∧ acceptsText (ofString "EXITED") = true ∧ acceptsText (ofString "RETAINED_NATIVE_IDENTITY") = true
    ∧ acceptsText (ofString "NOT_CONFIGURED") = true := by
  decide

theorem ResponsePayload.accepts_names : ∀ name ∈ ResponsePayload.names, acceptsKey name = true :=
  List.all_eq_true.mp ResponsePayload.accepts_texts.1

theorem accepts_exitCodeValue {code : Option Int} (h : ∀ n ∈ code, 0 ≤ n ∧ n ≤ 255) :
    accepts (exitCodeValue code) = true := by
  cases code with
  | none => rfl
  | some n =>
    obtain ⟨hleast, hmost⟩ := h n rfl
    have hmax : maxSafeInteger = 9007199254740991 := rfl
    rw [exitCodeValue, accepts, isSafeInteger, decide_eq_true_eq]
    omega

theorem accepts_signalValue {signal : Option Text}
    (h : ∀ text ∈ signal, signalPattern (toWellFormed text).toList = true) :
    accepts (signalValue signal) = true ↔ ∀ text ∈ signal, isSensitive (toWellFormed text) = false := by
  cases signal with
  | none => simp [signalValue, accepts]
  | some text =>
    have hlength := length_of_signalPattern (h text rfl)
    rw [signalValue, accepts, acceptsText_iff (by omega)]
    simp

/-- **What the codec makes of a payload.** -/
theorem accepts_payload {identity : PeerIdentity PrivateKey} {request : RecoveryRequest}
    {observation : NativeObservation} {uuid : String} {started : Int}
    (hinstance : isReference identity.supervisorInstanceId = true) (hkey : isReference identity.supervisorKeyId = true)
    (hrequest : ValidRequest dateParse sha256 request started)
    (hobservation : ValidObservation dateParse request observation) (huuid : uuidPattern uuid.toList = true) :
    accepts (.obj (payloadOf identity request observation uuid).fields) = true
      ↔ isSensitive (toWellFormed identity.supervisorInstanceId) = false
        ∧ isSensitive (toWellFormed identity.supervisorKeyId) = false
        ∧ ∀ signal ∈ observation.signal, isSensitive (toWellFormed signal) = false := by
  have hinstanceLength := length_of_isReference hinstance
  have hkeyLength := length_of_isReference hkey
  obtain ⟨established, verified, exited, cleanup, hestablished, hverified, hexited, hcleanup, -⟩ := hobservation.times
  obtain ⟨hexitedText, hauthority, hconnection⟩ := ResponsePayload.accepts_texts.2
  rw [← acceptsText_iff (by omega), ← acceptsText_iff (by omega), ← accepts_signalValue hobservation.signal]
  have hnames := ResponsePayload.accepts_names
  rw [← ResponsePayload.map_fst_fields (payloadOf identity request observation uuid), List.forall_mem_map] at hnames
  have hfields : accepts (.obj (payloadOf identity request observation uuid).fields) = true
      ↔ ∀ field ∈ (payloadOf identity request observation uuid).fields, accepts field.2 = true := by
    rw [accepts, Bool.and_eq_true, acceptsFields_iff]
    constructor
    · exact fun h field hfield => (h.2 field hfield).2
    · exact fun h => ⟨rfl, fun field hfield => ⟨hnames field hfield, h field hfield⟩⟩
  rw [hfields]
  simp only [ResponsePayload.fields, List.forall_mem_cons, payloadOf]
  constructor
  · rintro ⟨-, -, -, -, hinstance', hkey', -, -, -, -, -, -, hsignal, -⟩
    exact ⟨hinstance', hkey', hsignal⟩
  · rintro ⟨hinstance', hkey', hsignal⟩
    exact ⟨rfl, acceptsText_responseId huuid, acceptsText_requestId hrequest.requestId,
      acceptsText_hash hrequest.requestHash, hinstance', hkey', hestablished.accepts, hverified.accepts,
      hexited.accepts, hcleanup.accepts, hexitedText, accepts_exitCodeValue hobservation.exitCode, hsignal,
      hauthority, hconnection, fun _ hfield => absurd hfield List.not_mem_nil⟩

/-- **An exchange returns the evidence of a cleanup exactly when the codec does not take the references of the
identity, or the signal of the process, for something sensitive.** -/
theorem evidence_returned_iff {input : PeerIdentityInput PrivateKey} {identity : PeerIdentity PrivateKey}
    {requestInput : Value} {r : PeerReadings} {request : RecoveryRequest} {observation : NativeObservation}
    (hidentity : parseIdentity ed25519 sha256 input = .ok identity)
    (hobserved : observe sha256 dateParse requestInput r = .ok (request, observation))
    (huuid : uuidPattern r.uuid.toList = true) :
    (∃ response, peerExchange ed25519 sha256 dateParse identity requestInput r = .ok response)
      ↔ isSensitive (toWellFormed identity.supervisorInstanceId) = false
        ∧ isSensitive (toWellFormed identity.supervisorKeyId) = false
        ∧ ∀ signal ∈ observation.signal, isSensitive (toWellFormed signal) = false := by
  obtain ⟨hinstance, hkey⟩ := parseIdentity_eq_ok hidentity
  obtain ⟨started, finished, -, -, hrequest, -, hobservation⟩ := observe_eq_ok hobserved
  rw [← accepts_payload hinstance hkey hrequest hobservation huuid]
  constructor
  · rintro ⟨response, h⟩
    obtain ⟨request', observation', hobserved', hsigned⟩ := peerExchange_eq_ok.mp h
    rw [hobserved, Except.ok.injEq, Prod.mk.injEq] at hobserved'
    obtain ⟨rfl, rfl⟩ := hobserved'
    obtain ⟨text, hcanonical, -⟩ := signPayload_eq_ok.mp hsigned
    exact (canonicalJson_eq_some.mp hcanonical).1
  · intro haccepts
    exact ⟨_, peerExchange_eq_ok.mpr ⟨request, observation, hobserved,
      signPayload_eq_ok.mpr ⟨_, canonicalJson_eq_some.mpr ⟨haccepts, rfl⟩, rfl⟩⟩⟩

namespace Sample

/-- A digest for which all bytes have the same hash. -/
def digest (_ : ByteArray) : String := String.ofList (List.replicate 64 'a')

/-- One key, and one signature. -/
def signer : Ed25519 Unit Unit where
  sign _ _ := (List.replicate 64 0).toByteArray
  verify _ _ signature := decide (signature = (List.replicate 64 0).toByteArray)
  publicKey := id
  spki _ := (List.replicate 44 0).toByteArray
  importSpki _ := some ()

def stamp (time : Int) : Text := ofString ((toISOString time).getD "")

/-- The times of the texts that are used. -/
def parseStamp (text : Text) : Option Int := some (([1000, 3000, 16000].find? fun time => stamp time = text).getD 0)

def uuid : String := "00000000-0000-4000-8000-000000000000"

def hash : Text := ofString (String.ofList (List.replicate 64 'a'))

def recoveryBinding : SupervisorProcessBinding where
  supervisionId := "s"
  launchNonce := "l"
  workspaceId := "w"
  runtimeId := "r"
  connectionId := "c"
  platform := .LINUX
  manifestHash := String.ofList (List.replicate 64 'a')
  admissionEvidenceHash := String.ofList (List.replicate 64 'a')
  admissionBindingHash := String.ofList (List.replicate 64 'a')
  testOnly := false

def workItem : RecoveryWorkItem where
  recoveryLeaseId := ofString "e"
  recoveryGeneration := 1
  claimId := ofString "m"
  handoffAttemptId := ofString "h"
  validationDispatchCandidateHash := hash
  sessionId := ofString "i"
  dispatchId := ofString "d"
  runId := ofString "u"
  binding := recoveryBinding
  processClaimedAt := stamp 0
  processExpiresAt := stamp 1000
  leaseClaimedAt := stamp 1000
  leaseExpiresAt := stamp 16000

def recoveryRequest : RecoveryRequest where
  requestId := ofString ("recovery-observation-" ++ uuid)
  challengeNonce := ofString (String.ofList (List.replicate 43 '0'))
  issuedAt := stamp 1000
  expiresAt := stamp 3000
  workspaceId := ofString "w"
  runtimeId := ofString "r"
  connectionId := ofString "c"
  recoveryLeaseId := ofString "e"
  recoveryGeneration := 1
  claimId := ofString "m"
  handoffAttemptId := ofString "h"
  supervisionId := ofString "s"
  launchNonce := ofString "l"
  sessionId := ofString "i"
  dispatchId := ofString "d"
  runId := ofString "u"
  validationDispatchCandidateHash := hash
  manifestHash := hash
  admissionEvidenceHash := hash
  admissionBindingHash := hash
  processClaimedAt := stamp 0
  processExpiresAt := stamp 1000
  requestHash := hash

/-- A process that has exited with this code, or by this signal. -/
def nativeObservation (exitCode : Option Int) (signal : Option Text) : Value := .obj [
  (ofString "schemaVersion", .int 1),
  (ofString "requestId", .str recoveryRequest.requestId),
  (ofString "requestHash", .str hash),
  (ofString "challengeNonce", .str recoveryRequest.challengeNonce),
  (ofString "supervisionId", .str (ofString "s")),
  (ofString "launchNonce", .str (ofString "l")),
  (ofString "identityEstablishedAt", .str (stamp 0)),
  (ofString "identityVerifiedAt", .str (stamp 1000)),
  (ofString "exitedAt", .str (stamp 0)),
  (ofString "observedAt", .str (stamp 1000)),
  (ofString "cleanupCompletedAt", .str (stamp 1000)),
  (ofString "processState", .str (ofString "EXITED")),
  (ofString "exitCode", exitCodeValue exitCode),
  (ofString "signal", signalValue signal),
  (ofString "identityAuthority", .str (ofString "RETAINED_NATIVE_IDENTITY")),
  (ofString "retainedIdentityKind", .str (ofString "PIDFD")),
  (ofString "cleanupState", .str (ofString "PROCESS_GROUP_GONE")),
  (ofString "runtimeConnection", .str (ofString "NOT_CONFIGURED"))]

/-- The observation as it was validated. -/
def validated (exitCode : Option Int) (signal : Option Text) : NativeObservation where
  identityEstablishedAt := stamp 0
  identityVerifiedAt := stamp 1000
  exitedAt := stamp 0
  observedAt := stamp 1000
  cleanupCompletedAt := stamp 1000
  exitCode := exitCode
  signal := signal

def readings (candidate : Value) : PeerReadings where
  live := true
  startedAt := some 1000
  candidate := some candidate
  aborted := false
  finishedAt := some 1000
  uuid := uuid

/-- An identity of the supervisor instance with this id. -/
def identityInput (instanceId : String) : PeerIdentityInput Unit where
  privateKey := some ()
  rest := .obj [
    (ofString "schemaVersion", .int 1),
    (ofString "supervisorInstanceId", .str (ofString instanceId)),
    (ofString "supervisorKeyId", .str (ofString "k")),
    (ofString "algorithm", .str (ofString "ED25519")),
    (ofString "purpose", .str (ofString "RETAINED_NATIVE_RECOVERY_OBSERVATION")),
    (ofString "publicKeySpkiSha256", .str hash),
    (ofString "testOnly", .bool false)]

/-- What is known of the texts of the request. -/
theorem requestTexts_checked :
    ([1000, 3000, 0].all fun time => parseStamp (stamp time) = some time
      ∧ (toISOString time).map ofString = some (stamp time)) = true
    ∧ Observation.isHash hash = true
    ∧ requestIdPattern (toWellFormed recoveryRequest.requestId).toList = true
    ∧ macPattern (toWellFormed recoveryRequest.challengeNonce) = true
    ∧ RecoveryRequest.names.all acceptsKey = true
    ∧ (recoveryRequest.references.all fun text => acceptsText text && isReference text) = true
    ∧ recoveryRequest.digests.all Observation.isHash = true
    ∧ acceptsText recoveryRequest.challengeNonce = true ∧ acceptsText (ofString "LINUX") = true
    ∧ acceptsText (ofString "NOT_CONFIGURED") = true
    ∧ acceptsText (ofString "ventureos.retained-native-supervisor.recovery-request.v1") = true
    ∧ acceptsKey (ofString "domain") = true ∧ acceptsKey (ofString "request") = true := by
  decide

/-- The times are canonical. -/
theorem isStamp (time : Int) (h : time = 1000 ∨ time = 3000 ∨ time = 0) : IsStamp parseStamp (stamp time) time := by
  have htime : time ∈ [1000, 3000, (0 : Int)] := by simpa using h
  have hchecked := of_decide_eq_true (List.all_eq_true.mp requestTexts_checked.1 time htime)
  exact ⟨hchecked.1, hchecked.2⟩

theorem isHash_hash : Observation.isHash hash = true := requestTexts_checked.2.1

theorem isRequestId : requestIdPattern (toWellFormed recoveryRequest.requestId).toList = true := requestTexts_checked.2.2.1

theorem accepts_requestNames : ∀ name ∈ RecoveryRequest.names, acceptsKey name = true :=
  List.all_eq_true.mp requestTexts_checked.2.2.2.2.1

theorem accepts_references : ∀ text ∈ recoveryRequest.references, acceptsText text = true ∧ isReference text = true := by
  intro text htext
  exact Bool.and_eq_true_iff.mp (List.all_eq_true.mp requestTexts_checked.2.2.2.2.2.1 text htext)

theorem accepts_request : ∀ field ∈ recoveryRequest.fieldsWithoutHash, accepts field.2 = true := by
  have hreferences : ∀ text ∈ recoveryRequest.references, acceptsText text = true :=
    fun text htext => (accepts_references text htext).1
  simp only [RecoveryRequest.references, List.forall_mem_cons] at hreferences
  obtain ⟨-, -, -, -, -, -, -, hnonce, hplatform, hconnection, -⟩ := requestTexts_checked
  have hhash : acceptsText hash = true := acceptsText_hash isHash_hash
  simp only [RecoveryRequest.fieldsWithoutHash, List.forall_mem_cons, accepts]
  have hdates := fun time h => (isStamp time h).accepts
  exact ⟨rfl, acceptsText_requestId isRequestId, hnonce, hdates 1000 (by decide), hdates 3000 (by decide),
    hreferences.1, hreferences.2.1, hreferences.2.2.1, hreferences.2.2.2.1, rfl, hreferences.2.2.2.2.1,
    hreferences.2.2.2.2.2.1, hreferences.2.2.2.2.2.2.1, hreferences.2.2.2.2.2.2.2.1, hplatform, trivial,
    hreferences.2.2.2.2.2.2.2.2.1, hreferences.2.2.2.2.2.2.2.2.2.1, hreferences.2.2.2.2.2.2.2.2.2.2.1,
    hhash, hhash, hhash, hhash, hdates 0 (by decide), hdates 1000 (by decide), hconnection,
    fun _ hfield => absurd hfield List.not_mem_nil⟩

/-- The request is accepted by the codec, and has its hash. -/
theorem hashed : Bridge.requestHash digest recoveryRequest = some recoveryRequest.requestHash := by
  obtain ⟨-, -, -, -, -, -, -, -, -, -, hdomain, hdomainKey, hrequestKey⟩ := requestTexts_checked
  have hnames := accepts_requestNames
  rw [← RecoveryRequest.map_fst_fields recoveryRequest, List.forall_mem_map, RecoveryRequest.fields,
    List.forall_mem_cons] at hnames
  have hrequest : acceptsFields recoveryRequest.fieldsWithoutHash = true :=
    acceptsFields_iff.mpr fun field hfield => ⟨hnames.2 field hfield, accepts_request field hfield⟩
  rw [Bridge.requestHash, Option.map_eq_some_iff]
  refine ⟨_, canonicalJson_eq_some.mpr ⟨?_, rfl⟩, rfl⟩
  simp only [accepts, acceptsFields, hdomain, hdomainKey, hrequestKey, hrequest]
  rfl

theorem valid : ValidRequest parseStamp digest recoveryRequest 1000 where
  requestId := isRequestId
  challengeNonce := requestTexts_checked.2.2.2.1
  generation := by decide
  references text htext := (accepts_references text htext).2
  digests := List.all_eq_true.mp requestTexts_checked.2.2.2.2.2.2.1
  requestHash := isHash_hash
  hashed := hashed
  times := ⟨1000, 3000, 0, 1000, isStamp 1000 (by decide), isStamp 3000 (by decide), isStamp 0 (by decide),
    isStamp 1000 (by decide), by decide⟩

/-- The identity of this supervisor instance. -/
def identity (instanceId : String) : PeerIdentity Unit where
  supervisorInstanceId := ofString instanceId
  supervisorKeyId := ofString "k"
  privateKey := ()

/-- What is known of an exchange: the observation, the identities of two instances, and what is secret in them. -/
theorem exchange_checked :
    validateNativeObservation parseStamp (nativeObservation (some 0) none) recoveryRequest 1000
        = .ok (validated (some 0) none)
    ∧ parseIdentity signer digest (identityInput "s") = .ok (identity "s")
    ∧ parseIdentity signer digest (identityInput "sk-12345678") = .ok (identity "sk-12345678")
    ∧ uuidPattern uuid.toList = true
    ∧ isSensitive (toWellFormed (ofString "s")) = false
    ∧ isSensitive (toWellFormed (ofString "k")) = false
    ∧ isSensitive (toWellFormed (ofString "sk-12345678")) = true := by
  decide

theorem validate_nativeObservation : validateNativeObservation parseStamp (nativeObservation (some 0) none)
    recoveryRequest 1000 = .ok (validated (some 0) none) :=
  exchange_checked.1

theorem parse_identityInput : parseIdentity signer digest (identityInput "s") = .ok (identity "s") :=
  exchange_checked.2.1

theorem observe_recoveryRequest :
    observe digest parseStamp (.obj recoveryRequest.fields) (readings (nativeObservation (some 0) none))
      = .ok (recoveryRequest, validated (some 0) none) := by
  simp only [observe, except_bind_eq_ok, throwIf_eq_ok, orThrow_eq_ok, except_pure_eq_ok]
  refine ⟨(), by decide, recoveryRequest, validateRecoveryRequest_of_validRequest (List.Perm.refl _) valid, ?_⟩
  exact ⟨_, rfl, (), by decide, 1000, rfl, (), by decide, _, validate_nativeObservation, rfl⟩

end Sample

/-- An exchange that returns a response. -/
theorem evidence_returned_sample : ∃ response, peerExchange Sample.signer Sample.digest Sample.parseStamp
    (Sample.identity "s") (.obj Sample.recoveryRequest.fields)
    (Sample.readings (Sample.nativeObservation (some 0) none)) = .ok response :=
  (evidence_returned_iff Sample.parse_identityInput Sample.observe_recoveryRequest Sample.exchange_checked.2.2.2.1).mpr
    ⟨Sample.exchange_checked.2.2.2.2.1, Sample.exchange_checked.2.2.2.2.2.1, fun _ hsignal => by cases hsignal⟩

/-- **The evidence of a cleanup is lost**: the peer accepts an identity, a request and an observation, and then the
codec takes the id of the supervisor instance for a secret key. -/
theorem evidence_lost :
    parseIdentity Sample.signer Sample.digest (Sample.identityInput "sk-12345678") = .ok (Sample.identity "sk-12345678")
    ∧ observe Sample.digest Sample.parseStamp (.obj Sample.recoveryRequest.fields)
        (Sample.readings (Sample.nativeObservation (some 0) none))
      = .ok (Sample.recoveryRequest, Sample.validated (some 0) none)
    ∧ peerExchange Sample.signer Sample.digest Sample.parseStamp (Sample.identity "sk-12345678")
        (.obj Sample.recoveryRequest.fields) (Sample.readings (Sample.nativeObservation (some 0) none))
      = .error .codec := by
  obtain ⟨-, -, hparsed, huuid, -, -, hsensitive⟩ := Sample.exchange_checked
  obtain ⟨hinstance, hkey⟩ := parseIdentity_eq_ok hparsed
  refine ⟨hparsed, Sample.observe_recoveryRequest, ?_⟩
  rw [peerExchange_of_observe Sample.observe_recoveryRequest]
  apply signPayload_of_rejected
  show accepts (.obj (payloadOf _ _ _ Sample.uuid).fields) = false
  rw [← Bool.not_eq_true, accepts_payload hinstance hkey Sample.valid
    (validateNativeObservation_eq_ok _ Sample.validate_nativeObservation) huuid]
  rintro ⟨hinsensitive, -⟩
  exact absurd (hsensitive.symm.trans hinsensitive) (by decide)

end VentureOS.Bridge
