import VentureOS.Bridge.RecoveryRequest
import VentureOS.Foundations.Base64

/-! # The recovery peer

`AuthenticatedLocalRetainedNativeSupervisorRecoveryPeer` of `retained-native-supervisor-peer.ts`: its identity, the
validation of a request and of what the native authority has observed, and the exchange that signs a response.

The response is signed through the codec, after the native authority has cleaned up. The codec forbids texts that the
validation allows: the references of the identity, and the signal of the process. -/

namespace VentureOS.Bridge

open JsonText

/-- `RetainedNativeSupervisorPeerErrorCode`. -/
inductive PeerErrorCode where
  | NOT_CONFIGURED
  | INVALID_REQUEST
  | NATIVE_AUTHORITY_DENIED
  | INVALID_NATIVE_OBSERVATION
  deriving DecidableEq, Repr

/-- What the peer throws: its own errors, or that of the codec. -/
inductive PeerError where
  | denied (code : PeerErrorCode)
  | codec
  deriving DecidableEq, Repr

/-- Ed25519: signatures, public keys and their encoding. -/
structure Ed25519 (PrivateKey PublicKey : Type) where
  sign : PrivateKey → ByteArray → ByteArray
  verify : PublicKey → ByteArray → ByteArray → Bool
  /-- `createPublicKey(privateKey)`. -/
  publicKey : PrivateKey → PublicKey
  /-- `publicKey.export({ format: 'der', type: 'spki' })`. -/
  spki : PublicKey → ByteArray
  /-- `createPublicKey({ key, format: 'der', type: 'spki' })`, of keys of Ed25519. -/
  importSpki : ByteArray → Option PublicKey

variable {PrivateKey PublicKey : Type}

/-! ## Requests -/

/-- `REQUEST_KEYS`. -/
def recoveryRequestKeys : List Text := [
  "admissionBindingHash", "admissionEvidenceHash", "challengeNonce", "claimId", "connectionId", "dispatchId",
  "expiresAt", "handoffAttemptId", "issuedAt", "launchNonce", "manifestHash", "platform", "processClaimedAt",
  "processExpiresAt", "recoveryGeneration", "recoveryLeaseId", "requestHash", "requestId", "runId",
  "runtimeConnection", "runtimeId", "schemaVersion", "sessionId", "supervisionId", "testOnly",
  "validationDispatchCandidateHash", "workspaceId"].map ofString

theorem recoveryRequestKeys_perm : recoveryRequestKeys.Perm RecoveryRequest.names :=
  List.isPerm_iff.mp (by decide)

section Validation

variable (dateParse : Text → Option Int) (sha256 : ByteArray → String)

/-- `validateRequest`. -/
def validateRecoveryRequest (input : Value) (observedAt : Option Int) : Except PeerError RecoveryRequest := do
  let invalid := PeerError.denied .INVALID_REQUEST
  let observed ← orThrow invalid observedAt
  let value ← orThrow invalid (plainRecord recoveryRequestKeys input)
  let issuedAt ← orThrow invalid (field value "issuedAt" (asTimestamp dateParse))
  let expiresAt ← orThrow invalid (field value "expiresAt" (asTimestamp dateParse))
  let processClaimedAt ← orThrow invalid (field value "processClaimedAt" (asTimestamp dateParse))
  let processExpiresAt ← orThrow invalid (field value "processExpiresAt" (asTimestamp dateParse))
  let _ ← orThrow invalid (field value "testOnly" asFalse)
  let requestId ← orThrow invalid (field value "requestId" (asText fun text =>
    requestIdPattern (toWellFormed text).toList))
  let challengeNonce ← orThrow invalid (field value "challengeNonce" (asText fun text =>
    macPattern (toWellFormed text)))
  let recoveryGeneration ← orThrow invalid (field value "recoveryGeneration" (asIntegerFrom 1))
  throwIf (fieldIsInt value "schemaVersion" 1 = false ∨ fieldIsText value "platform" (ofString "LINUX") = false
      ∨ fieldIsText value "runtimeConnection" (ofString "NOT_CONFIGURED") = false
      ∨ observed < issuedAt.time ∨ expiresAt.time ≤ observed ∨ expiresAt.time ≤ issuedAt.time
      ∨ 2000 < expiresAt.time - issuedAt.time ∨ processExpiresAt.time ≤ processClaimedAt.time) invalid
  let workspaceId ← orThrow invalid (field value "workspaceId" asReference)
  let runtimeId ← orThrow invalid (field value "runtimeId" asReference)
  let connectionId ← orThrow invalid (field value "connectionId" asReference)
  let recoveryLeaseId ← orThrow invalid (field value "recoveryLeaseId" asReference)
  let claimId ← orThrow invalid (field value "claimId" asReference)
  let handoffAttemptId ← orThrow invalid (field value "handoffAttemptId" asReference)
  let supervisionId ← orThrow invalid (field value "supervisionId" asReference)
  let launchNonce ← orThrow invalid (field value "launchNonce" asReference)
  let sessionId ← orThrow invalid (field value "sessionId" asReference)
  let dispatchId ← orThrow invalid (field value "dispatchId" asReference)
  let runId ← orThrow invalid (field value "runId" asReference)
  let validationDispatchCandidateHash ← orThrow invalid (field value "validationDispatchCandidateHash" asDigest)
  let manifestHash ← orThrow invalid (field value "manifestHash" asDigest)
  let admissionEvidenceHash ← orThrow invalid (field value "admissionEvidenceHash" asDigest)
  let admissionBindingHash ← orThrow invalid (field value "admissionBindingHash" asDigest)
  let request : RecoveryRequest := {
    requestId, challengeNonce, issuedAt := issuedAt.text, expiresAt := expiresAt.text, workspaceId, runtimeId,
    connectionId, recoveryLeaseId, recoveryGeneration, claimId, handoffAttemptId, supervisionId, launchNonce,
    sessionId, dispatchId, runId, validationDispatchCandidateHash, manifestHash, admissionEvidenceHash,
    admissionBindingHash, processClaimedAt := processClaimedAt.text, processExpiresAt := processExpiresAt.text,
    requestHash := [] }
  let expectedHash ← orThrow .codec (requestHash sha256 request)
  let given ← orThrow invalid (field value "requestHash" asDigest)
  throwIf (given ≠ expectedHash) invalid
  return { request with requestHash := expectedHash }

end Validation

/-- A text is the canonical text of this time. -/
structure IsStamp (dateParse : Text → Option Int) (text : Text) (time : Int) : Prop where
  parsed : dateParse text = some time
  canonical : (toISOString time).map ofString = some text

/-- The references of a request. -/
def RecoveryRequest.references (request : RecoveryRequest) : List Text := [
  request.workspaceId, request.runtimeId, request.connectionId, request.recoveryLeaseId, request.claimId,
  request.handoffAttemptId, request.supervisionId, request.launchNonce, request.sessionId, request.dispatchId,
  request.runId]

/-- The digests of a request, but for its own. -/
def RecoveryRequest.digests (request : RecoveryRequest) : List Text := [
  request.validationDispatchCandidateHash, request.manifestHash, request.admissionEvidenceHash,
  request.admissionBindingHash]

/-- What a request that was validated is. -/
structure ValidRequest (dateParse : Text → Option Int) (sha256 : ByteArray → String) (request : RecoveryRequest)
    (observed : Int) : Prop where
  requestId : requestIdPattern (toWellFormed request.requestId).toList = true
  challengeNonce : macPattern (toWellFormed request.challengeNonce) = true
  generation : isSafeInteger request.recoveryGeneration = true ∧ 1 ≤ request.recoveryGeneration
  references : ∀ text ∈ request.references, isReference text = true
  digests : ∀ text ∈ request.digests, Observation.isHash text = true
  requestHash : Observation.isHash request.requestHash = true
  hashed : Bridge.requestHash sha256 request = some request.requestHash
  times : ∃ issued expires claimed processExpires, IsStamp dateParse request.issuedAt issued
    ∧ IsStamp dateParse request.expiresAt expires ∧ IsStamp dateParse request.processClaimedAt claimed
    ∧ IsStamp dateParse request.processExpiresAt processExpires ∧ issued ≤ observed ∧ observed < expires
    ∧ issued < expires ∧ expires - issued ≤ 2000 ∧ claimed < processExpires

section Requests

variable {dateParse : Text → Option Int} {sha256 : ByteArray → String} {observedAt : Option Int}
  {request : RecoveryRequest}

theorem validRequest_of_validateRecoveryRequest {input : Value}
    (h : validateRecoveryRequest dateParse sha256 input observedAt = .ok request) :
    ∃ observed fields, observedAt = some observed ∧ input = .obj fields ∧ fields.Perm request.fields
      ∧ ValidRequest dateParse sha256 request observed := by
  simp only [validateRecoveryRequest, except_bind_eq_ok, throwIf_eq_ok, orThrow_eq_ok, except_pure_eq_ok,
    plainRecord_eq_some, field_timestamp, asReference, asDigest, field_text, field_integer, field_false, not_or,
    Bool.not_eq_false, fieldIsInt_iff, fieldIsText_iff, not_lt, not_le, ne_eq, not_not] at h
  obtain ⟨observed, hobserved, fields, ⟨rfl, hkeys⟩, h⟩ := h
  obtain ⟨issuedAt, ⟨hissuedAt, hissued, hissuedText⟩, h⟩ := h
  obtain ⟨expiresAt, ⟨hexpiresAt, hexpires, hexpiresText⟩, h⟩ := h
  obtain ⟨processClaimedAt, ⟨hprocessClaimedAt, hclaimed, hclaimedText⟩, h⟩ := h
  obtain ⟨processExpiresAt, ⟨hprocessExpiresAt, hprocessExpires, hprocessExpiresText⟩, h⟩ := h
  obtain ⟨_, htestOnly, h⟩ := h
  obtain ⟨requestId, ⟨hrequestId, hidPattern⟩, h⟩ := h
  obtain ⟨challengeNonce, ⟨hchallengeNonce, hnonce⟩, h⟩ := h
  obtain ⟨recoveryGeneration, ⟨hrecoveryGeneration, hgeneration⟩, h⟩ := h
  obtain ⟨_, ⟨hschemaVersion, hplatform, hruntimeConnection, hstarted, hunexpired, hordered, hshort, hprocess⟩, h⟩ := h
  obtain ⟨workspaceId, ⟨hworkspaceId, hworkspaceRef⟩, h⟩ := h
  obtain ⟨runtimeId, ⟨hruntimeId, hruntimeRef⟩, h⟩ := h
  obtain ⟨connectionId, ⟨hconnectionId, hconnectionRef⟩, h⟩ := h
  obtain ⟨recoveryLeaseId, ⟨hrecoveryLeaseId, hleaseRef⟩, h⟩ := h
  obtain ⟨claimId, ⟨hclaimId, hclaimRef⟩, h⟩ := h
  obtain ⟨handoffAttemptId, ⟨hhandoffAttemptId, hhandoffRef⟩, h⟩ := h
  obtain ⟨supervisionId, ⟨hsupervisionId, hsupervisionRef⟩, h⟩ := h
  obtain ⟨launchNonce, ⟨hlaunchNonce, hlaunchRef⟩, h⟩ := h
  obtain ⟨sessionId, ⟨hsessionId, hsessionRef⟩, h⟩ := h
  obtain ⟨dispatchId, ⟨hdispatchId, hdispatchRef⟩, h⟩ := h
  obtain ⟨runId, ⟨hrunId, hrunRef⟩, h⟩ := h
  obtain ⟨validationDispatchCandidateHash, ⟨hcandidateHash, hcandidate⟩, h⟩ := h
  obtain ⟨manifestHash, ⟨hmanifestHash, hmanifest⟩, h⟩ := h
  obtain ⟨admissionEvidenceHash, ⟨hadmissionEvidenceHash, hevidence⟩, h⟩ := h
  obtain ⟨admissionBindingHash, ⟨hadmissionBindingHash, hbinding⟩, h⟩ := h
  obtain ⟨expectedHash, hhashed, h⟩ := h
  obtain ⟨given, ⟨hgiven, hdigest⟩, h⟩ := h
  obtain ⟨_, hsame, hrequest⟩ := h
  subst hsame
  subst hrequest
  refine ⟨observed, fields, hobserved, rfl, ?_, hidPattern, hnonce, hgeneration, ?_, ?_, hdigest, hhashed, ?_⟩
  · apply perm_of_lookup
    · rw [RecoveryRequest.map_fst_fields]
      exact hkeys.trans recoveryRequestKeys_perm
    · rw [RecoveryRequest.map_fst_fields]
      exact RecoveryRequest.nodup_names
    · simp only [RecoveryRequest.fields, RecoveryRequest.fieldsWithoutHash, List.forall_mem_cons]
      exact ⟨hgiven, hschemaVersion, hrequestId, hchallengeNonce, hissuedAt, hexpiresAt, hworkspaceId, hruntimeId,
        hconnectionId, hrecoveryLeaseId, hrecoveryGeneration, hclaimId, hhandoffAttemptId, hsupervisionId,
        hlaunchNonce, hplatform, htestOnly, hsessionId, hdispatchId, hrunId, hcandidateHash, hmanifestHash,
        hadmissionEvidenceHash, hadmissionBindingHash, hprocessClaimedAt, hprocessExpiresAt, hruntimeConnection,
        fun _ hentry => absurd hentry List.not_mem_nil⟩
  · simp only [RecoveryRequest.references, List.forall_mem_cons]
    exact ⟨hworkspaceRef, hruntimeRef, hconnectionRef, hleaseRef, hclaimRef, hhandoffRef, hsupervisionRef, hlaunchRef,
      hsessionRef, hdispatchRef, hrunRef, fun _ htext => absurd htext List.not_mem_nil⟩
  · simp only [RecoveryRequest.digests, List.forall_mem_cons]
    exact ⟨hcandidate, hmanifest, hevidence, hbinding, fun _ htext => absurd htext List.not_mem_nil⟩
  · exact ⟨issuedAt.time, expiresAt.time, processClaimedAt.time, processExpiresAt.time, ⟨hissued, hissuedText⟩,
      ⟨hexpires, hexpiresText⟩, ⟨hclaimed, hclaimedText⟩, ⟨hprocessExpires, hprocessExpiresText⟩, hstarted, hunexpired,
      hordered, hshort, hprocess⟩

theorem validateRecoveryRequest_of_validRequest {fields : List (Text × Value)} {observed : Int}
    (hperm : fields.Perm request.fields) (h : ValidRequest dateParse sha256 request observed) :
    validateRecoveryRequest dateParse sha256 (.obj fields) (some observed) = .ok request := by
  have hkeys : (fields.map Prod.fst).Perm RecoveryRequest.names := hperm.map Prod.fst
  have hnodup : (fields.map Prod.fst).Nodup := hkeys.nodup_iff.mpr RecoveryRequest.nodup_names
  have hlookup : ∀ entry ∈ request.fields, lookupEntry entry.1 fields = some entry.2 :=
    fun entry hentry => (lookupEntry_eq_some hnodup).mpr (hperm.mem_iff.mpr hentry)
  simp only [RecoveryRequest.fields, RecoveryRequest.fieldsWithoutHash, List.forall_mem_cons] at hlookup
  obtain ⟨hgiven, hschemaVersion, hrequestId, hchallengeNonce, hissuedAt, hlookup⟩ := hlookup
  obtain ⟨hexpiresAt, hworkspaceId, hruntimeId, hconnectionId, hrecoveryLeaseId, hlookup⟩ := hlookup
  obtain ⟨hrecoveryGeneration, hclaimId, hhandoffAttemptId, hsupervisionId, hlaunchNonce, hlookup⟩ := hlookup
  obtain ⟨hplatform, htestOnly, hsessionId, hdispatchId, hrunId, hcandidateHash, hlookup⟩ := hlookup
  obtain ⟨hmanifestHash, hadmissionEvidenceHash, hadmissionBindingHash, hlookup⟩ := hlookup
  obtain ⟨hprocessClaimedAt, hprocessExpiresAt, hruntimeConnection, -⟩ := hlookup
  have hreferences := h.references
  simp only [RecoveryRequest.references, List.forall_mem_cons] at hreferences
  obtain ⟨hworkspaceRef, hruntimeRef, hconnectionRef, hleaseRef, hclaimRef, hreferences⟩ := hreferences
  obtain ⟨hhandoffRef, hsupervisionRef, hlaunchRef, hsessionRef, hdispatchRef, hrunRef, -⟩ := hreferences
  have hdigests := h.digests
  simp only [RecoveryRequest.digests, List.forall_mem_cons] at hdigests
  obtain ⟨hcandidate, hmanifest, hevidence, hbinding, -⟩ := hdigests
  obtain ⟨issued, expires, claimed, processExpires, hissued, hexpires, hclaimed, hprocessExpires, hbounds⟩ := h.times
  simp only [validateRecoveryRequest, except_bind_eq_ok, throwIf_eq_ok, orThrow_eq_ok, except_pure_eq_ok,
    plainRecord_eq_some, field_timestamp, asReference, asDigest, field_text, field_integer, field_false, not_or,
    Bool.not_eq_false, fieldIsInt_iff, fieldIsText_iff, not_lt, not_le, ne_eq, not_not]
  refine ⟨observed, rfl, fields, ⟨rfl, hkeys.trans recoveryRequestKeys_perm.symm⟩, ?_⟩
  refine ⟨⟨_, issued⟩, ⟨hissuedAt, hissued.parsed, hissued.canonical⟩, ?_⟩
  refine ⟨⟨_, expires⟩, ⟨hexpiresAt, hexpires.parsed, hexpires.canonical⟩, ?_⟩
  refine ⟨⟨_, claimed⟩, ⟨hprocessClaimedAt, hclaimed.parsed, hclaimed.canonical⟩, ?_⟩
  refine ⟨⟨_, processExpires⟩, ⟨hprocessExpiresAt, hprocessExpires.parsed, hprocessExpires.canonical⟩, ?_⟩
  refine ⟨(), htestOnly, _, ⟨hrequestId, h.requestId⟩, _, ⟨hchallengeNonce, h.challengeNonce⟩, ?_⟩
  refine ⟨_, ⟨hrecoveryGeneration, h.generation⟩, ?_⟩
  refine ⟨(), ⟨hschemaVersion, hplatform, hruntimeConnection, hbounds⟩, ?_⟩
  refine ⟨_, ⟨hworkspaceId, hworkspaceRef⟩, _, ⟨hruntimeId, hruntimeRef⟩, _, ⟨hconnectionId, hconnectionRef⟩, ?_⟩
  refine ⟨_, ⟨hrecoveryLeaseId, hleaseRef⟩, _, ⟨hclaimId, hclaimRef⟩, _, ⟨hhandoffAttemptId, hhandoffRef⟩, ?_⟩
  refine ⟨_, ⟨hsupervisionId, hsupervisionRef⟩, _, ⟨hlaunchNonce, hlaunchRef⟩, _, ⟨hsessionId, hsessionRef⟩, ?_⟩
  refine ⟨_, ⟨hdispatchId, hdispatchRef⟩, _, ⟨hrunId, hrunRef⟩, _, ⟨hcandidateHash, hcandidate⟩, ?_⟩
  refine ⟨_, ⟨hmanifestHash, hmanifest⟩, _, ⟨hadmissionEvidenceHash, hevidence⟩, ?_⟩
  exact ⟨_, ⟨hadmissionBindingHash, hbinding⟩, _, h.hashed, _, ⟨hgiven, h.requestHash⟩, (), rfl, rfl⟩

/-- **The peer accepts the requests that are valid**, whatever the order of their fields. -/
theorem validateRecoveryRequest_eq_ok {input : Value} :
    validateRecoveryRequest dateParse sha256 input observedAt = .ok request ↔ ∃ observed fields,
      observedAt = some observed ∧ input = .obj fields ∧ fields.Perm request.fields
        ∧ ValidRequest dateParse sha256 request observed := by
  constructor
  · exact validRequest_of_validateRecoveryRequest
  · rintro ⟨observed, fields, rfl, rfl, hperm, hvalid⟩
    exact validateRecoveryRequest_of_validRequest hperm hvalid

/-- The peer reads the request that it is given. -/
theorem eq_of_validateRecoveryRequest {request' : RecoveryRequest} {fields : List (Text × Value)}
    (hperm : fields.Perm request.fields)
    (h : validateRecoveryRequest dateParse sha256 (.obj fields) observedAt = .ok request') : request' = request := by
  obtain ⟨_, fields', -, hinput, hperm', -⟩ := validateRecoveryRequest_eq_ok.mp h
  cases hinput
  have hkeys : request.fields.map Prod.fst = request'.fields.map Prod.fst := rfl
  have hnodup : (request.fields.map Prod.fst).Nodup := by
    rw [RecoveryRequest.map_fst_fields]
    exact RecoveryRequest.nodup_names
  exact (RecoveryRequest.eq_of_fields (eq_of_perm hkeys hnodup (hperm.symm.trans hperm'))).symm

end Requests

/-! ## Observations -/

/-- `NATIVE_OBSERVATION_KEYS`. -/
def nativeObservationKeys : List Text := [
  "challengeNonce", "cleanupCompletedAt", "cleanupState", "exitCode", "exitedAt", "identityAuthority",
  "identityEstablishedAt", "identityVerifiedAt", "launchNonce", "observedAt", "processState", "requestHash",
  "requestId", "retainedIdentityKind", "runtimeConnection", "schemaVersion", "signal", "supervisionId"].map ofString

/-- `RetainedNativeRecoveryNativeObservation`, without what it repeats of the request, and its constant fields. -/
structure NativeObservation where
  identityEstablishedAt : Text
  identityVerifiedAt : Text
  exitedAt : Text
  observedAt : Text
  cleanupCompletedAt : Text
  exitCode : Option Int
  signal : Option Text
  deriving DecidableEq

/-- `exitCode`: `null`, or a safe integer up to 255. -/
def asExitCode : Value → Option (Option Int)
  | .null => some none
  | .int n => if 0 ≤ n ∧ n ≤ 255 then some (some n) else none
  | _ => none

/-- `signal`: `null`, or the name of one. -/
def asSignal : Value → Option (Option Text)
  | .null => some none
  | .str text => if signalPattern (toWellFormed text).toList = true then some (some text) else none
  | _ => none

variable {observation : NativeObservation} {request : RecoveryRequest}

section Observation

variable (dateParse : Text → Option Int)

/-- `validateNativeObservation`. -/
def validateNativeObservation (input : Value) (request : RecoveryRequest) (finishedAt : Int) :
    Except PeerError NativeObservation := do
  let invalid := PeerError.denied .INVALID_NATIVE_OBSERVATION
  let value ← orThrow invalid (plainRecord nativeObservationKeys input)
  let identityEstablishedAt ← orThrow invalid (field value "identityEstablishedAt" (asTimestamp dateParse))
  let identityVerifiedAt ← orThrow invalid (field value "identityVerifiedAt" (asTimestamp dateParse))
  let exitedAt ← orThrow invalid (field value "exitedAt" (asTimestamp dateParse))
  let observedAt ← orThrow invalid (field value "observedAt" (asTimestamp dateParse))
  let cleanupCompletedAt ← orThrow invalid (field value "cleanupCompletedAt" (asTimestamp dateParse))
  let exitCode ← orThrow invalid (field value "exitCode" asExitCode)
  let signal ← orThrow invalid (field value "signal" asSignal)
  throwIf (fieldIsInt value "schemaVersion" 1 = false
      ∨ fieldIsText value "requestId" request.requestId = false
      ∨ fieldIsText value "requestHash" request.requestHash = false
      ∨ fieldIsText value "challengeNonce" request.challengeNonce = false
      ∨ fieldIsText value "supervisionId" request.supervisionId = false
      ∨ fieldIsText value "launchNonce" request.launchNonce = false
      ∨ fieldIsText value "processState" (ofString "EXITED") = false
      ∨ fieldIsText value "identityAuthority" (ofString "RETAINED_NATIVE_IDENTITY") = false
      ∨ fieldIsText value "retainedIdentityKind" (ofString "PIDFD") = false
      ∨ fieldIsText value "cleanupState" (ofString "PROCESS_GROUP_GONE") = false
      ∨ fieldIsText value "runtimeConnection" (ofString "NOT_CONFIGURED") = false
      ∨ exitCode.isNone = signal.isNone) invalid
  throwIf (isBefore (some identityEstablishedAt.time) (dateParse request.processClaimedAt) = true
      ∨ exitedAt.time < identityEstablishedAt.time
      ∨ isBefore (dateParse request.processExpiresAt) (some exitedAt.time) = true
      ∨ isBefore (some identityVerifiedAt.time) (dateParse request.issuedAt) = true
      ∨ identityVerifiedAt.time < exitedAt.time ∨ observedAt.time < identityVerifiedAt.time
      ∨ cleanupCompletedAt.time < observedAt.time ∨ finishedAt < cleanupCompletedAt.time
      ∨ isAtMost (dateParse request.expiresAt) (some cleanupCompletedAt.time) = true) invalid
  return {
    identityEstablishedAt := identityEstablishedAt.text
    identityVerifiedAt := identityVerifiedAt.text
    exitedAt := exitedAt.text
    observedAt := observedAt.text
    cleanupCompletedAt := cleanupCompletedAt.text
    exitCode, signal }

/-- What an observation of a request is, when it was validated. -/
structure ValidObservation (request : RecoveryRequest) (observation : NativeObservation) : Prop where
  exit : observation.exitCode.isNone ≠ observation.signal.isNone
  exitCode : ∀ n ∈ observation.exitCode, 0 ≤ n ∧ n ≤ 255
  signal : ∀ text ∈ observation.signal, signalPattern (toWellFormed text).toList = true
  times : ∃ established verified exited cleanup, IsStamp dateParse observation.identityEstablishedAt established
    ∧ IsStamp dateParse observation.identityVerifiedAt verified ∧ IsStamp dateParse observation.exitedAt exited
    ∧ IsStamp dateParse observation.cleanupCompletedAt cleanup
    ∧ isBefore (some established) (dateParse request.processClaimedAt) = false ∧ established ≤ exited
    ∧ isBefore (dateParse request.processExpiresAt) (some exited) = false
    ∧ isBefore (some verified) (dateParse request.issuedAt) = false ∧ exited ≤ verified ∧ verified ≤ cleanup
    ∧ isAtMost (dateParse request.expiresAt) (some cleanup) = false

theorem field_exitCode {fields : List (Text × Value)} {code : Option Int}
    (h : field fields "exitCode" asExitCode = some code) : ∀ n ∈ code, 0 ≤ n ∧ n ≤ 255 := by
  obtain ⟨value, -, hread⟩ := field_eq_some.mp h
  unfold asExitCode at hread
  split at hread
  · cases hread
    exact fun n hn => by cases hn
  · split at hread
    · rename_i hrange
      cases hread
      intro n hn
      cases hn
      exact hrange
    · cases hread
  · cases hread

theorem field_signal {fields : List (Text × Value)} {signal : Option Text}
    (h : field fields "signal" asSignal = some signal) :
    ∀ text ∈ signal, signalPattern (toWellFormed text).toList = true := by
  obtain ⟨value, -, hread⟩ := field_eq_some.mp h
  unfold asSignal at hread
  split at hread
  · cases hread
    exact fun text htext => by cases htext
  · split at hread
    · rename_i hpattern
      cases hread
      intro text htext
      cases htext
      exact hpattern
    · cases hread
  · cases hread

theorem validateNativeObservation_eq_ok {input : Value} {finishedAt : Int}
    (h : validateNativeObservation dateParse input request finishedAt = .ok observation) :
    ValidObservation dateParse request observation := by
  simp only [validateNativeObservation, except_bind_eq_ok, throwIf_eq_ok, orThrow_eq_ok, except_pure_eq_ok,
    field_timestamp, not_or, not_lt, Bool.not_eq_true] at h
  obtain ⟨fields, -, h⟩ := h
  obtain ⟨established, ⟨-, hestablished⟩, h⟩ := h
  obtain ⟨verified, ⟨-, hverified⟩, h⟩ := h
  obtain ⟨exited, ⟨-, hexited⟩, h⟩ := h
  obtain ⟨observed, -, h⟩ := h
  obtain ⟨cleanup, ⟨-, hcleanup⟩, h⟩ := h
  obtain ⟨exitCode, hexitCode, h⟩ := h
  obtain ⟨signal, hsignal, h⟩ := h
  obtain ⟨_, ⟨-, -, -, -, -, -, -, -, -, -, -, hexit⟩, h⟩ := h
  obtain ⟨_, ⟨hclaimed, hlived, hexpired, hissued, hafter, hobserved, hcompleted, -, hunexpired⟩, rfl⟩ := h
  exact ⟨hexit, field_exitCode hexitCode, field_signal hsignal, established.time, verified.time, exited.time,
    cleanup.time, ⟨hestablished.1, hestablished.2⟩, ⟨hverified.1, hverified.2⟩, ⟨hexited.1, hexited.2⟩,
    ⟨hcleanup.1, hcleanup.2⟩, hclaimed, hlived, hexpired, hissued, hafter, hobserved.trans hcompleted, hunexpired⟩

end Observation

/-! ## Responses -/

/-- `RetainedNativeSupervisorRecoveryResponsePayload`, without its constant fields. -/
structure ResponsePayload where
  responseId : Text
  requestId : Text
  requestHash : Text
  supervisorInstanceId : Text
  supervisorKeyId : Text
  identityEstablishedAt : Text
  identityVerifiedAt : Text
  exitedAt : Text
  observedAt : Text
  exitCode : Option Int
  signal : Option Text
  deriving DecidableEq

/-- `RetainedNativeSupervisorRecoveryResponse`. -/
structure RecoveryResponse extends ResponsePayload where
  signature : Text
  deriving DecidableEq

/-- A number, or `null`. -/
def exitCodeValue : Option Int → Value
  | some n => .int n
  | none => .null

/-- A text, or `null`. -/
def signalValue : Option Text → Value
  | some text => .str text
  | none => .null

/-- The fields of a payload. -/
def ResponsePayload.fields (payload : ResponsePayload) : List (Text × Value) := [
  (ofString "schemaVersion", .int 1),
  (ofString "responseId", .str payload.responseId),
  (ofString "requestId", .str payload.requestId),
  (ofString "requestHash", .str payload.requestHash),
  (ofString "supervisorInstanceId", .str payload.supervisorInstanceId),
  (ofString "supervisorKeyId", .str payload.supervisorKeyId),
  (ofString "identityEstablishedAt", .str payload.identityEstablishedAt),
  (ofString "identityVerifiedAt", .str payload.identityVerifiedAt),
  (ofString "exitedAt", .str payload.exitedAt),
  (ofString "observedAt", .str payload.observedAt),
  (ofString "processState", .str (ofString "EXITED")),
  (ofString "exitCode", exitCodeValue payload.exitCode),
  (ofString "signal", signalValue payload.signal),
  (ofString "identityAuthority", .str (ofString "RETAINED_NATIVE_IDENTITY")),
  (ofString "runtimeConnection", .str (ofString "NOT_CONFIGURED"))]

/-- The fields of a response. -/
def RecoveryResponse.fields (response : RecoveryResponse) : List (Text × Value) :=
  (ofString "signature", .str response.signature) :: response.toResponsePayload.fields

/-! ## Identities -/

/-- An identity: its private key, when it has one of Ed25519, and its other fields. -/
structure PeerIdentityInput (PrivateKey : Type) where
  privateKey : Option PrivateKey
  rest : Value

/-- `ParsedPeerIdentity`. -/
structure PeerIdentity (PrivateKey : Type) where
  supervisorInstanceId : Text
  supervisorKeyId : Text
  privateKey : PrivateKey
  deriving DecidableEq

/-- The names of the fields of an identity, but for its private key. -/
def peerIdentityKeys : List Text := [
  "algorithm", "publicKeySpkiSha256", "purpose", "schemaVersion", "supervisorInstanceId", "supervisorKeyId",
  "testOnly"].map ofString

variable {identity : PeerIdentity PrivateKey} {requestInput : Value}

section Exchange

variable (ed25519 : Ed25519 PrivateKey PublicKey) (sha256 : ByteArray → String) (dateParse : Text → Option Int)

/-- `parseIdentity`. -/
def parseIdentity (input : PeerIdentityInput PrivateKey) : Except PeerErrorCode (PeerIdentity PrivateKey) := do
  let identity ← orThrow .NOT_CONFIGURED (plainRecord peerIdentityKeys input.rest)
  let _ ← orThrow .NOT_CONFIGURED (field identity "testOnly" asFalse)
  throwIf (fieldIsInt identity "schemaVersion" 1 = false
      ∨ fieldIsText identity "algorithm" (ofString "ED25519") = false
      ∨ fieldIsText identity "purpose" (ofString "RETAINED_NATIVE_RECOVERY_OBSERVATION") = false) .NOT_CONFIGURED
  let privateKey ← orThrow .NOT_CONFIGURED input.privateKey
  let hash ← orThrow .NOT_CONFIGURED (field identity "publicKeySpkiSha256" asDigest)
  throwIf (hash ≠ digestOf sha256 (ed25519.spki (ed25519.publicKey privateKey))) .NOT_CONFIGURED
  let supervisorInstanceId ← orThrow .NOT_CONFIGURED (field identity "supervisorInstanceId" asReference)
  let supervisorKeyId ← orThrow .NOT_CONFIGURED (field identity "supervisorKeyId" asReference)
  return { supervisorInstanceId, supervisorKeyId, privateKey }

/-- What an exchange reads. -/
structure PeerReadings where
  /-- The signal is one, and is not aborted. -/
  live : Bool
  startedAt : Option Int
  /-- What the native authority has observed, when it has answered in time. -/
  candidate : Option Value
  /-- The signal is aborted by then. -/
  aborted : Bool
  finishedAt : Option Int
  /-- `randomUUID()`. -/
  uuid : String

/-- The payload of a response. -/
def payloadOf (identity : PeerIdentity PrivateKey) (request : RecoveryRequest) (observation : NativeObservation)
    (uuid : String) : ResponsePayload where
  responseId := ofString ("native-recovery-observation-" ++ uuid)
  requestId := request.requestId
  requestHash := request.requestHash
  supervisorInstanceId := identity.supervisorInstanceId
  supervisorKeyId := identity.supervisorKeyId
  identityEstablishedAt := observation.identityEstablishedAt
  identityVerifiedAt := observation.identityVerifiedAt
  exitedAt := observation.exitedAt
  observedAt := observation.cleanupCompletedAt
  exitCode := observation.exitCode
  signal := observation.signal

/-- The end of an exchange: the payload is signed. -/
def signPayload (privateKey : PrivateKey) (payload : ResponsePayload) : Except PeerError RecoveryResponse := do
  let text ← orThrow .codec (Codec.canonicalJson (.obj payload.fields))
  let signature := ed25519.sign privateKey (TextDecoder.encode text)
  return { payload with signature := ofString (String.ofList (Base64.encode signature.data.toList)) }

/-- An exchange up to the observation, which comes after the cleanup. -/
def observe (requestInput : Value) (r : PeerReadings) :
    Except PeerError (RecoveryRequest × NativeObservation) := do
  throwIf (r.live = false) (.denied .INVALID_REQUEST)
  let request ← validateRecoveryRequest dateParse sha256 requestInput r.startedAt
  let candidate ← orThrow (.denied .NATIVE_AUTHORITY_DENIED) r.candidate
  throwIf (r.aborted = true) (.denied .NATIVE_AUTHORITY_DENIED)
  let finishedAt ← orThrow (.denied .NATIVE_AUTHORITY_DENIED) r.finishedAt
  throwIf (isBefore (some finishedAt) r.startedAt = true
      ∨ isAtMost (dateParse request.expiresAt) (some finishedAt) = true) (.denied .NATIVE_AUTHORITY_DENIED)
  let observation ← validateNativeObservation dateParse candidate request finishedAt
  return (request, observation)

/-- `exchange`. -/
def peerExchange (identity : PeerIdentity PrivateKey) (requestInput : Value) (r : PeerReadings) :
    Except PeerError RecoveryResponse := do
  let (request, observation) ← observe sha256 dateParse requestInput r
  signPayload ed25519 identity.privateKey (payloadOf identity request observation r.uuid)

variable {ed25519 sha256 dateParse}

theorem parseIdentity_eq_ok {input : PeerIdentityInput PrivateKey}
    (h : parseIdentity ed25519 sha256 input = .ok identity) :
    isReference identity.supervisorInstanceId = true ∧ isReference identity.supervisorKeyId = true := by
  simp only [parseIdentity, except_bind_eq_ok, throwIf_eq_ok, orThrow_eq_ok, except_pure_eq_ok, asReference,
    field_text] at h
  obtain ⟨_, -, _, -, _, -, _, -, _, -, _, -, h⟩ := h
  obtain ⟨_, ⟨-, hinstance⟩, h⟩ := h
  obtain ⟨_, ⟨-, hkey⟩, rfl⟩ := h
  exact ⟨hinstance, hkey⟩

theorem observe_eq_ok {r : PeerReadings}
    (h : observe sha256 dateParse requestInput r = .ok (request, observation)) :
    ∃ started finished, r.startedAt = some started
      ∧ validateRecoveryRequest dateParse sha256 requestInput r.startedAt = .ok request
      ∧ ValidRequest dateParse sha256 request started
      ∧ r.finishedAt = some finished ∧ ValidObservation dateParse request observation := by
  simp only [observe, except_bind_eq_ok, throwIf_eq_ok, orThrow_eq_ok, except_pure_eq_ok, Prod.mk.injEq] at h
  obtain ⟨_, -, request', hrequest, h⟩ := h
  obtain ⟨candidate, -, _, -, finishedAt, hfinished, h⟩ := h
  obtain ⟨_, -, observation', hobservation, rfl, rfl⟩ := h
  obtain ⟨started, fields, hstarted, -, -, hvalid⟩ := validateRecoveryRequest_eq_ok.mp hrequest
  exact ⟨started, finishedAt, hstarted, hrequest, hvalid, hfinished,
    validateNativeObservation_eq_ok dateParse hobservation⟩

theorem signPayload_eq_ok {privateKey : PrivateKey} {payload : ResponsePayload} {response : RecoveryResponse} :
    signPayload ed25519 privateKey payload = .ok response ↔ ∃ text,
      Codec.canonicalJson (.obj payload.fields) = some text
      ∧ response = { payload with signature := ofString (String.ofList (Base64.encode
          (ed25519.sign privateKey (TextDecoder.encode text)).data.toList)) } := by
  simp only [signPayload, orThrow_bind_eq_ok, except_pure_eq_ok]
  exact exists_congr fun _ => and_congr_right fun _ => eq_comm

/-- After an observation, an exchange signs. -/
theorem peerExchange_of_observe {r : PeerReadings}
    (h : observe sha256 dateParse requestInput r = .ok (request, observation)) :
    peerExchange ed25519 sha256 dateParse identity requestInput r
      = signPayload ed25519 identity.privateKey (payloadOf identity request observation r.uuid) := by
  rw [peerExchange, h]
  rfl

/-- The codec throws when it does not accept the payload. -/
theorem signPayload_of_rejected {privateKey : PrivateKey} {payload : ResponsePayload}
    (h : Codec.accepts (.obj payload.fields) = false) :
    signPayload ed25519 privateKey payload = .error .codec := by
  have hnone : Codec.canonicalJson (.obj payload.fields) = none := by
    rw [Codec.canonicalJson, Codec.canonicalize, h]
    rfl
  rw [signPayload, hnone]
  rfl

theorem peerExchange_eq_ok {r : PeerReadings} {response : RecoveryResponse} :
    peerExchange ed25519 sha256 dateParse identity requestInput r = .ok response ↔ ∃ request observation,
      observe sha256 dateParse requestInput r = .ok (request, observation)
      ∧ signPayload ed25519 identity.privateKey (payloadOf identity request observation r.uuid) = .ok response := by
  simp only [peerExchange, except_bind_eq_ok, Prod.exists]

end Exchange

end VentureOS.Bridge
