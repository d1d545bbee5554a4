import VentureOS.Bridge.RecoveryEvidence

/-! # The recovery verifier

`BoundedEd25519RetainedNativeSupervisorRecoveryResponseVerifier` of `retained-native-supervisor-recovery.ts`: its trust
record, and what it makes of a response.

It repeats the checks of the peer, against the request that was sent and under its own clock. -/

namespace VentureOS.Bridge

open JsonText

variable {PrivateKey PublicKey : Type}

/-! ## Trust records -/

/-- `BASE64`. -/
def base64Pattern (text : List Char) : Bool :=
  !(text.takeWhile Base64.alphabet.contains).isEmpty
    && [[], ['='], ['=', '=']].contains (text.dropWhile Base64.alphabet.contains)

/-- `ED25519_SIGNATURE`. -/
def signaturePattern (text : List Char) : Bool :=
  decide (text.length = 88) && (text.take 86).all Base64.alphabet.contains && decide (text.drop 86 = ['=', '='])

/-- `value === null`. -/
def asNull : Value → Option Unit
  | .null => some ()
  | _ => none

/-- `RetainedNativeSupervisorTrustRecord`, without its constant fields, and its key. -/
structure TrustRecord (PublicKey : Type) where
  trustRecordId : Text
  trustRecordVersion : Int
  supervisorInstanceId : Text
  supervisorKeyId : Text
  publicKeySpkiBase64 : Text
  publicKeySpkiSha256 : Text
  validFrom : Stamp
  validUntil : Stamp
  publicKey : PublicKey
  deriving DecidableEq

/-- The names of the fields of a trust record. -/
def trustRecordKeys : List Text := [
  "algorithm", "publicKeySpkiBase64", "publicKeySpkiSha256", "purpose", "revokedAt", "schemaVersion",
  "supervisorInstanceId", "supervisorKeyId", "testOnly", "trustRecordId", "trustRecordVersion", "validFrom",
  "validUntil"].map ofString

/-- `MAX_TRUST_LIFETIME_MS`. -/
def maxTrustLifetimeMs : Int := 366 * 24 * 60 * 60 * 1000

/-- The names of the fields of a response. -/
def recoveryResponseKeys : List Text := [
  "exitCode", "exitedAt", "identityAuthority", "identityEstablishedAt", "identityVerifiedAt", "observedAt",
  "processState", "requestHash", "requestId", "responseId", "runtimeConnection", "schemaVersion", "signal",
  "signature", "supervisorInstanceId", "supervisorKeyId"].map ofString

section Verifier

variable (ed25519 : Ed25519 PrivateKey PublicKey) (sha256 : ByteArray → String) (dateParse : Text → Option Int)

/-- `parseTrustRecord`. -/
def parseTrustRecord (input : Value) : Except RecoveryErrorCode (TrustRecord PublicKey) := do
  let value ← orThrow .NOT_CONFIGURED (plainRecord trustRecordKeys input)
  let validFrom ← orThrow .NOT_CONFIGURED (field value "validFrom" (asTimestamp dateParse))
  let validUntil ← orThrow .NOT_CONFIGURED (field value "validUntil" (asTimestamp dateParse))
  throwIf (fieldIsInt value "schemaVersion" 1 = false
      ∨ fieldIsText value "algorithm" (ofString "ED25519") = false
      ∨ fieldIsText value "purpose" (ofString "RETAINED_NATIVE_RECOVERY_OBSERVATION") = false) .NOT_CONFIGURED
  let _ ← orThrow .NOT_CONFIGURED (field value "revokedAt" asNull)
  let _ ← orThrow .NOT_CONFIGURED (field value "testOnly" asFalse)
  let trustRecordVersion ← orThrow .NOT_CONFIGURED (field value "trustRecordVersion" (asIntegerFrom 1))
  throwIf (validUntil.time ≤ validFrom.time ∨ maxTrustLifetimeMs < validUntil.time - validFrom.time) .NOT_CONFIGURED
  let publicKeySpkiBase64 ← orThrow .NOT_CONFIGURED (field value "publicKeySpkiBase64" (asText fun text =>
    decide (text.length ≤ 256) && base64Pattern (toWellFormed text).toList))
  let publicKeySpkiSha256 ← orThrow .NOT_CONFIGURED (field value "publicKeySpkiSha256" asDigest)
  let encoded := Base64.decode (toWellFormed publicKeySpkiBase64).toList
  throwIf (encoded.length = 0 ∨ ofString (String.ofList (Base64.encode encoded)) ≠ publicKeySpkiBase64
      ∨ digestOf sha256 ⟨encoded.toArray⟩ ≠ publicKeySpkiSha256) .NOT_CONFIGURED
  let publicKey ← orThrow .NOT_CONFIGURED (ed25519.importSpki ⟨encoded.toArray⟩)
  let trustRecordId ← orThrow .NOT_CONFIGURED (field value "trustRecordId" asReference)
  let supervisorInstanceId ← orThrow .NOT_CONFIGURED (field value "supervisorInstanceId" asReference)
  let supervisorKeyId ← orThrow .NOT_CONFIGURED (field value "supervisorKeyId" asReference)
  return {
    trustRecordId, trustRecordVersion, supervisorInstanceId, supervisorKeyId, publicKeySpkiBase64,
    publicKeySpkiSha256, validFrom, validUntil, publicKey }

/-! ## Responses -/

/-- `verify`. -/
def verifyResponse (trust : TrustRecord PublicKey) (responseInput : Value) (request : RecoveryRequest)
    (observedAt : Option Int) : Except RecoveryError RecoveryResponse := do
  let invalid := RecoveryError.denied .INVALID_RESPONSE
  let observed ← orThrow invalid observedAt
  let value ← orThrow invalid (plainRecord recoveryResponseKeys responseInput)
  let identityEstablishedAt ← orThrow invalid (field value "identityEstablishedAt" (asTimestamp dateParse))
  let identityVerifiedAt ← orThrow invalid (field value "identityVerifiedAt" (asTimestamp dateParse))
  let exitedAt ← orThrow invalid (field value "exitedAt" (asTimestamp dateParse))
  let responseObservedAt ← orThrow invalid (field value "observedAt" (asTimestamp dateParse))
  let exitCode ← orThrow invalid (field value "exitCode" asExitCode)
  let signal ← orThrow invalid (field value "signal" asSignal)
  let hash ← orThrow invalid (field value "requestHash" asDigest)
  throwIf (fieldIsInt value "schemaVersion" 1 = false
      ∨ fieldIsText value "requestId" request.requestId = false ∨ hash ≠ request.requestHash
      ∨ fieldIsText value "supervisorInstanceId" trust.supervisorInstanceId = false
      ∨ fieldIsText value "supervisorKeyId" trust.supervisorKeyId = false
      ∨ fieldIsText value "processState" (ofString "EXITED") = false
      ∨ fieldIsText value "identityAuthority" (ofString "RETAINED_NATIVE_IDENTITY") = false
      ∨ fieldIsText value "runtimeConnection" (ofString "NOT_CONFIGURED") = false
      ∨ exitCode.isNone = signal.isNone) invalid
  throwIf (isBefore (some identityEstablishedAt.time) (dateParse request.processClaimedAt) = true
      ∨ exitedAt.time < identityEstablishedAt.time
      ∨ isBefore (dateParse request.processExpiresAt) (some exitedAt.time) = true
      ∨ isBefore (some identityVerifiedAt.time) (dateParse request.issuedAt) = true
      ∨ identityVerifiedAt.time < exitedAt.time ∨ responseObservedAt.time < identityVerifiedAt.time
      ∨ isBefore (some responseObservedAt.time) (dateParse request.issuedAt) = true
      ∨ responseObservedAt.time < exitedAt.time ∨ observed < responseObservedAt.time
      ∨ isAtMost (dateParse request.expiresAt) (some observed) = true
      ∨ isAtMost (dateParse request.expiresAt) (some responseObservedAt.time) = true
      ∨ responseObservedAt.time < trust.validFrom.time ∨ trust.validUntil.time ≤ responseObservedAt.time
      ∨ trust.validUntil.time ≤ observed) invalid
  let signature ← orThrow invalid (field value "signature" (asText fun text =>
    signaturePattern (toWellFormed text).toList))
  let responseId ← orThrow invalid (field value "responseId" asReference)
  let payload : ResponsePayload := {
    responseId
    requestId := request.requestId
    requestHash := request.requestHash
    supervisorInstanceId := trust.supervisorInstanceId
    supervisorKeyId := trust.supervisorKeyId
    identityEstablishedAt := identityEstablishedAt.text
    identityVerifiedAt := identityVerifiedAt.text
    exitedAt := exitedAt.text
    observedAt := responseObservedAt.text
    exitCode, signal }
  let bytes := Base64.decode (toWellFormed signature).toList
  throwIf (bytes.length ≠ 64) invalid
  let text ← orThrow .codec (Codec.canonicalJson (.obj payload.fields))
  throwIf (ed25519.verify trust.publicKey (TextDecoder.encode text) ⟨bytes.toArray⟩ = false) invalid
  return { payload with signature }

variable {ed25519 sha256 dateParse}

/-- The times of a response that was accepted, of a request whose times are dates. -/
theorem times_of_verifyResponse {trust : TrustRecord PublicKey} {input : Value} {request : RecoveryRequest}
    {observedAt : Option Int} {response : RecoveryResponse}
    (h : verifyResponse ed25519 dateParse trust input request observedAt = .ok response) :
    response.requestHash = request.requestHash ∧ ∃ established exited verified observed t,
      dateParse response.identityEstablishedAt = some established ∧ dateParse response.exitedAt = some exited
      ∧ dateParse response.identityVerifiedAt = some verified ∧ dateParse response.observedAt = some observed
      ∧ observedAt = some t ∧ isBefore (some established) (dateParse request.processClaimedAt) = false
      ∧ established ≤ exited ∧ exited ≤ verified ∧ verified ≤ observed ∧ observed ≤ t
      ∧ isAtMost (dateParse request.expiresAt) (some t) = false := by
  simp only [verifyResponse, except_bind_eq_ok, throwIf_eq_ok, orThrow_eq_ok, except_pure_eq_ok, field_timestamp,
    not_or, not_lt, Bool.not_eq_true] at h
  obtain ⟨t, ht, fields, -, h⟩ := h
  obtain ⟨established, ⟨-, hestablished, -⟩, h⟩ := h
  obtain ⟨verified, ⟨-, hverified, -⟩, h⟩ := h
  obtain ⟨exited, ⟨-, hexited, -⟩, h⟩ := h
  obtain ⟨observed, ⟨-, hobserved, -⟩, h⟩ := h
  obtain ⟨exitCode, -, signal, -, hash, -, _, -, h⟩ := h
  obtain ⟨_, ⟨hclaimed, hlived, -, -, hafter, hseen, -, -, hpast, hunexpired, -⟩, h⟩ := h
  obtain ⟨signature, -, responseId, -, _, -, text, -, _, -, rfl⟩ := h
  exact ⟨rfl, established.time, exited.time, verified.time, observed.time, t, hestablished, hexited, hverified,
    hobserved, ht, hclaimed, hlived, hafter, hseen, hpast, hunexpired⟩

/-! ## Signatures -/

/-- The text of a signature is one, and is decoded to it. -/
theorem signature_text {signature : ByteArray} (h : signature.size = 64) {text : Text}
    (htext : text = ofString (String.ofList (Base64.encode signature.data.toList))) :
    signaturePattern (toWellFormed text).toList = true
      ∧ Base64.decode (toWellFormed text).toList = signature.data.toList := by
  have hlength : signature.data.toList.length = 3 * 21 + 1 := by
    rw [Array.length_toList]
    exact h
  rw [htext, toWellFormed_ofString, String.toList_ofList, Base64.decode_encode]
  refine ⟨?_, rfl⟩
  obtain ⟨chars, hencode, hchars, halphabet⟩ := Base64.encode_of_length hlength
  rw [hencode, signaturePattern, List.length_append, hchars, List.take_left' hchars, List.drop_left' hchars]
  have hall : chars.all Base64.alphabet.contains = true :=
    List.all_eq_true.mpr fun c hc => List.contains_iff_mem.mpr (halphabet c hc)
  rw [hall]
  rfl

/-! ## Agreement -/

theorem asExitCode_exitCodeValue {code : Option Int} (h : ∀ n ∈ code, 0 ≤ n ∧ n ≤ 255) :
    asExitCode (exitCodeValue code) = some code := by
  cases code with
  | none => rfl
  | some n => rw [exitCodeValue, asExitCode, if_pos (h n rfl)]

theorem asSignal_signalValue {signal : Option Text}
    (h : ∀ text ∈ signal, signalPattern (toWellFormed text).toList = true) :
    asSignal (signalValue signal) = some signal := by
  cases signal with
  | none => rfl
  | some text => rw [signalValue, asSignal, if_pos (h text rfl)]

/-- The fields of a response, in the order of the keys that are expected. -/
theorem recoveryResponseKeys_perm : recoveryResponseKeys.Perm (ofString "signature" :: ResponsePayload.names) :=
  List.isPerm_iff.mp (by decide)

theorem RecoveryResponse.nodup_names : (ofString "signature" :: ResponsePayload.names).Nodup := by decide

/-- The verifier accepts what the peer signs: what the peer has validated is what the verifier asks for. -/
theorem verifyResponse_of_signPayload
    (hverify : ∀ key message, ed25519.verify (ed25519.publicKey key) message (ed25519.sign key message) = true)
    (hsize : ∀ key message, (ed25519.sign key message).size = 64)
    {identity : PeerIdentity PrivateKey} {trust : TrustRecord PublicKey}
    (hinstance : trust.supervisorInstanceId = identity.supervisorInstanceId)
    (hkey : trust.supervisorKeyId = identity.supervisorKeyId)
    (hpublic : trust.publicKey = ed25519.publicKey identity.privateKey) {request : RecoveryRequest} {started : Int}
    (hrequest : ValidRequest dateParse sha256 request started) {observation : NativeObservation}
    (hobservation : ValidObservation dateParse request observation) {uuid : String}
    (huuid : uuidPattern uuid.toList = true) {response : RecoveryResponse}
    (hsigned : signPayload ed25519 identity.privateKey (payloadOf identity request observation uuid) = .ok response)
    {cleanup t : Int} (hcleanup : dateParse observation.cleanupCompletedAt = some cleanup)
    (hunexpired : isAtMost (dateParse request.expiresAt) (some t) = false) (hlate : cleanup ≤ t)
    (hfrom : trust.validFrom.time ≤ cleanup) (huntil : t < trust.validUntil.time)
    {fields : List (Text × Value)} (hperm : fields.Perm response.fields) :
    verifyResponse ed25519 dateParse trust (.obj fields) request (some t) = .ok response := by
  obtain ⟨text, hcanonical, rfl⟩ := signPayload_eq_ok.mp hsigned
  obtain ⟨hsignature, hdecoded⟩ := signature_text (hsize identity.privateKey (TextDecoder.encode text)) rfl
  have hkeys : (fields.map Prod.fst).Perm (ofString "signature" :: ResponsePayload.names) := hperm.map Prod.fst
  have hnodup : (fields.map Prod.fst).Nodup := hkeys.nodup_iff.mpr RecoveryResponse.nodup_names
  have hlookup : ∀ entry ∈ RecoveryResponse.fields _, lookupEntry entry.1 fields = some entry.2 :=
    fun entry hentry => (lookupEntry_eq_some hnodup).mpr (hperm.mem_iff.mpr hentry)
  simp only [RecoveryResponse.fields, ResponsePayload.fields, List.forall_mem_cons] at hlookup
  obtain ⟨hsignatureField, hschemaVersion, hresponseId, hrequestId, hrequestHash, hlookup⟩ := hlookup
  obtain ⟨hinstanceField, hkeyField, hestablishedAt, hverifiedAt, hexitedAt, hobservedAt, hlookup⟩ := hlookup
  obtain ⟨hprocessState, hexitCode, hsignal, hauthority, hconnection, -⟩ := hlookup
  obtain ⟨issued, -, -, -, hissued, -⟩ := hrequest.times
  obtain ⟨established, verified, exited, cleanup', hestablished, hverified, hexited, hcleanup', htimes⟩ :=
    hobservation.times
  obtain ⟨hclaimed, hlived, hended, hverifiedIssued, hafter, hseen, hcleanupUnexpired⟩ := htimes
  have hsame := hcleanup'.parsed
  rw [hcleanup, Option.some.injEq] at hsame
  subst hsame
  have hcleanupIssued : isBefore (some cleanup) (dateParse request.issuedAt) = false := by
    rw [hissued.parsed, isBefore, decide_eq_false_iff_not] at hverifiedIssued ⊢
    omega
  simp only [verifyResponse, except_bind_eq_ok, throwIf_eq_ok, orThrow_eq_ok, except_pure_eq_ok, plainRecord_eq_some,
    field_timestamp, asReference, asDigest, field_text, not_or, Bool.not_eq_false, Bool.not_eq_true, fieldIsInt_iff,
    fieldIsText_iff, not_lt, not_le, ne_eq, not_not]
  refine ⟨t, rfl, fields, ⟨rfl, hkeys.trans recoveryResponseKeys_perm.symm⟩, ?_⟩
  refine ⟨⟨_, established⟩, ⟨hestablishedAt, hestablished.parsed, hestablished.canonical⟩, ?_⟩
  refine ⟨⟨_, verified⟩, ⟨hverifiedAt, hverified.parsed, hverified.canonical⟩, ?_⟩
  refine ⟨⟨_, exited⟩, ⟨hexitedAt, hexited.parsed, hexited.canonical⟩, ?_⟩
  refine ⟨⟨_, cleanup⟩, ⟨hobservedAt, hcleanup'.parsed, hcleanup'.canonical⟩, ?_⟩
  refine ⟨_, field_eq_some.mpr ⟨_, hexitCode, asExitCode_exitCodeValue hobservation.exitCode⟩, ?_⟩
  refine ⟨_, field_eq_some.mpr ⟨_, hsignal, asSignal_signalValue hobservation.signal⟩, ?_⟩
  refine ⟨_, ⟨hrequestHash, hrequest.requestHash⟩, ?_⟩
  rw [hinstance, hkey, hpublic]
  refine ⟨(), ⟨hschemaVersion, hrequestId, rfl, hinstanceField, hkeyField, hprocessState, hauthority, hconnection,
    hobservation.exit⟩, ?_⟩
  refine ⟨(), ⟨hclaimed, hlived, hended, hverifiedIssued, hafter, hseen, hcleanupIssued, hafter.trans hseen, hlate,
    hunexpired, hcleanupUnexpired, hfrom, hlate.trans_lt huntil, huntil⟩, ?_⟩
  refine ⟨_, ⟨hsignatureField, hsignature⟩, _, ⟨hresponseId, isReference_responseId huuid⟩, (), ?_, text, hcanonical, ?_⟩
  · rw [hdecoded, Array.length_toList]
    exact hsize _ _
  · refine ⟨(), ?_, rfl⟩
    rw [hdecoded, Array.toArray_toList]
    exact hverify _ _

/-- **The peer and the verifier agree**: on a request that was created, the verifier accepts every response of the peer
from the cleanup until the request or the trust record expires, and what it accepts is of this request, of a process
that has exited between the claim and now. -/
theorem peer_and_verifier_agree
    (hdate : ∀ time text, toISOString time = some text → (dateParse (ofString text)).isSome)
    (hverify : ∀ key message, ed25519.verify (ed25519.publicKey key) message (ed25519.sign key message) = true)
    (hsize : ∀ key message, (ed25519.sign key message).size = 64)
    {workItem : RecoveryWorkItem} {createdAt : Option Int} {uuid nonce : String} {request : RecoveryRequest}
    (hcreated : createRecoveryRequest dateParse sha256 workItem createdAt uuid nonce = .ok request) :
    (∀ identityInput identity trustInput trust requestFields r request' observation response,
      parseIdentity ed25519 sha256 identityInput = .ok identity →
      parseTrustRecord ed25519 sha256 dateParse trustInput = .ok trust →
      trust.supervisorInstanceId = identity.supervisorInstanceId → trust.supervisorKeyId = identity.supervisorKeyId →
      trust.publicKey = ed25519.publicKey identity.privateKey →
      requestFields.Perm request.fields → uuidPattern r.uuid.toList = true →
      observe sha256 dateParse (.obj requestFields) r = .ok (request', observation) →
      peerExchange ed25519 sha256 dateParse identity (.obj requestFields) r = .ok response →
      ∀ cleanup expires t responseFields, dateParse observation.cleanupCompletedAt = some cleanup →
        dateParse request.expiresAt = some expires → trust.validFrom.time ≤ cleanup → cleanup ≤ t →
        t < min expires trust.validUntil.time → responseFields.Perm response.fields →
        verifyResponse ed25519 dateParse trust (.obj responseFields) request (some t) = .ok response)
    ∧ ∀ trustInput trust input observedAt response,
      parseTrustRecord ed25519 sha256 dateParse trustInput = .ok trust →
      verifyResponse ed25519 dateParse trust input request observedAt = .ok response →
      response.requestHash = request.requestHash ∧ ∃ claimed established exited verified observed t expires,
        dateParse request.processClaimedAt = some claimed
        ∧ dateParse response.identityEstablishedAt = some established ∧ dateParse response.exitedAt = some exited
        ∧ dateParse response.identityVerifiedAt = some verified ∧ dateParse response.observedAt = some observed
        ∧ observedAt = some t ∧ dateParse request.expiresAt = some expires
        ∧ claimed ≤ established ∧ established ≤ exited ∧ exited ≤ verified ∧ verified ≤ observed ∧ observed ≤ t
        ∧ t < expires := by
  constructor
  · intro _ identity _ trust requestFields r request' observation response _ _ hinstance hkey hpublic hrequestFields
      huuid hobserved hexchanged cleanup expires t responseFields hcleanup hexpires hfrom hlate huntil hperm
    obtain ⟨request'', observation', hobserved', hsigned⟩ := peerExchange_eq_ok.mp hexchanged
    rw [hobserved, Except.ok.injEq, Prod.mk.injEq] at hobserved'
    obtain ⟨rfl, rfl⟩ := hobserved'
    obtain ⟨started, finished, -, hvalidated, hrequest, -, hobservation⟩ := observe_eq_ok hobserved
    have hsame := eq_of_validateRecoveryRequest hrequestFields hvalidated
    subst hsame
    have hunexpired : isAtMost (dateParse request'.expiresAt) (some t) = false := by
      rw [hexpires, isAtMost, decide_eq_false_iff_not]
      omega
    exact verifyResponse_of_signPayload hverify hsize hinstance hkey hpublic hrequest hobservation huuid hsigned
      hcleanup hunexpired hlate hfrom (by omega) hperm
  · intro _ trust input observedAt response _ hverified
    obtain ⟨hhash, established, exited, verified, observed, t, hestablished, hexited, hverifiedAt, hobserved, ht,
      hclaimed, hlived, hafter, hseen, hpast, hunexpired⟩ := times_of_verifyResponse hverified
    obtain ⟨hclaimedAt, -, -, hexpiresAt⟩ := times_of_createRecoveryRequest dateParse sha256 hdate hcreated
    obtain ⟨claimed, hclaimedAt⟩ := Option.isSome_iff_exists.mp hclaimedAt
    obtain ⟨expires, hexpiresAt⟩ := Option.isSome_iff_exists.mp hexpiresAt
    rw [hclaimedAt, isBefore, decide_eq_false_iff_not, not_lt] at hclaimed
    rw [hexpiresAt, isAtMost, decide_eq_false_iff_not, not_le] at hunexpired
    exact ⟨hhash, claimed, established, exited, verified, observed, t, expires, hclaimedAt, hestablished, hexited,
      hverifiedAt, hobserved, ht, hexpiresAt, hclaimed, hlived, hafter, hseen, hpast, hunexpired⟩

end Verifier

namespace Sample

theorem create_recoveryRequest : createRecoveryRequest parseStamp digest workItem (some 1000) uuid
    (String.ofList (List.replicate 43 '0')) = .ok recoveryRequest := by
  simp only [createRecoveryRequest, validateWorkItem, except_bind_eq_ok, throwIf_eq_ok, orThrow_eq_ok,
    except_pure_eq_ok, asTimestamp_eq_some, Value.str.injEq]
  have hstamp := fun time htime => isStamp time htime
  refine ⟨1000, rfl, (), ⟨1000, rfl, (), by decide, ⟨stamp 0, 0⟩, ⟨rfl, ?_⟩, ⟨stamp 1000, 1000⟩, ⟨rfl, ?_⟩,
    ⟨stamp 1000, 1000⟩, ⟨rfl, ?_⟩, ⟨stamp 16000, 16000⟩, ⟨rfl, ?_⟩, (), by decide, (), by decide,
    by decide⟩, (), by decide, 16000, by decide, (), by decide, _, rfl, _, rfl, hash, hashed, ?_⟩
  · decide
  · decide
  · decide
  · decide
  · decide

/-- A trust record of the key. -/
def trustInput : Value := .obj [
  (ofString "schemaVersion", .int 1),
  (ofString "trustRecordId", .str (ofString "t")),
  (ofString "trustRecordVersion", .int 1),
  (ofString "supervisorInstanceId", .str (ofString "s")),
  (ofString "supervisorKeyId", .str (ofString "k")),
  (ofString "algorithm", .str (ofString "ED25519")),
  (ofString "purpose", .str (ofString "RETAINED_NATIVE_RECOVERY_OBSERVATION")),
  (ofString "publicKeySpkiBase64", .str (ofString (String.ofList (Base64.encode (List.replicate 44 0))))),
  (ofString "publicKeySpkiSha256", .str hash),
  (ofString "validFrom", .str (stamp 1000)),
  (ofString "validUntil", .str (stamp 16000)),
  (ofString "revokedAt", .null),
  (ofString "testOnly", .bool false)]

/-- The trust record as it was parsed. -/
def trust : TrustRecord Unit where
  trustRecordId := ofString "t"
  trustRecordVersion := 1
  supervisorInstanceId := ofString "s"
  supervisorKeyId := ofString "k"
  publicKeySpkiBase64 := ofString (String.ofList (Base64.encode (List.replicate 44 0)))
  publicKeySpkiSha256 := hash
  validFrom := ⟨stamp 1000, 1000⟩
  validUntil := ⟨stamp 16000, 16000⟩
  publicKey := ()

theorem verify_sign (key : Unit) (message : ByteArray) :
    signer.verify (signer.publicKey key) message (signer.sign key message) = true := by
  have hsame : signer.sign key message = (List.replicate 64 0).toByteArray := rfl
  exact decide_eq_true hsame

theorem parse_trustInput : parseTrustRecord signer digest parseStamp trustInput = .ok trust := by decide

end Sample

/-- A response is returned, and accepted when the cleanup has just ended. -/
theorem peer_and_verifier_agree_sample : ∃ response,
    peerExchange Sample.signer Sample.digest Sample.parseStamp (Sample.identity "s")
        (.obj Sample.recoveryRequest.fields) (Sample.readings (Sample.nativeObservation (some 0) none)) = .ok response
    ∧ verifyResponse Sample.signer Sample.parseStamp Sample.trust (.obj response.fields) Sample.recoveryRequest
        (some 1000) = .ok response := by
  have hpayload : Codec.accepts (.obj (payloadOf (Sample.identity "s") Sample.recoveryRequest
      (Sample.validated (some 0) none) Sample.uuid).fields) = true := by
    obtain ⟨hinstance, hkey⟩ := parseIdentity_eq_ok Sample.parse_identityInput
    obtain ⟨-, -, -, huuid, hsafeInstance, hsafeKey, -⟩ := Sample.exchange_checked
    rw [accepts_payload hinstance hkey Sample.valid
      (validateNativeObservation_eq_ok _ Sample.validate_nativeObservation) huuid]
    exact ⟨hsafeInstance, hsafeKey, fun _ hsignal => by cases hsignal⟩
  obtain ⟨response, hresponse⟩ : ∃ response, peerExchange Sample.signer Sample.digest Sample.parseStamp
      (Sample.identity "s") (.obj Sample.recoveryRequest.fields)
      (Sample.readings (Sample.nativeObservation (some 0) none)) = .ok response := by
    rw [peerExchange_of_observe Sample.observe_recoveryRequest]
    exact ⟨_, signPayload_eq_ok.mpr ⟨_, Codec.canonicalJson_eq_some.mpr ⟨hpayload, rfl⟩, rfl⟩⟩
  refine ⟨response, hresponse, ?_⟩
  exact (peer_and_verifier_agree (fun _ _ _ => rfl) Sample.verify_sign (fun _ _ => rfl)
    Sample.create_recoveryRequest).1 _ _ _ _ _ _ _ _ _ Sample.parse_identityInput Sample.parse_trustInput rfl rfl rfl
    (List.Perm.refl _) Sample.exchange_checked.2.2.2.1 Sample.observe_recoveryRequest hresponse 1000 3000 1000 _
    (Sample.isStamp 1000 (by decide)).parsed (Sample.isStamp 3000 (by decide)).parsed (by decide) (by decide)
    (by decide) (List.Perm.refl _)

end VentureOS.Bridge
