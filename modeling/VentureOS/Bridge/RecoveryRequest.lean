import VentureOS.Bridge.LocalIpc
import VentureOS.Bridge.ProcessSession
import VentureOS.Foundations.TimeText

/-! # Requests for recovery observations

`createRetainedNativeSupervisorRecoveryRequest` of `retained-native-supervisor-recovery.ts`, with the validation of
its work item, and the request as a record of JSON with its hash.

Texts are those of JSON. A time is the text of a date: `Date.parse` is a parameter, and a timestamp is accepted when
it is the text of the time that it is parsed to. -/

namespace VentureOS.Bridge

open JsonText

/-! ## Texts -/

/-- `SAFE_REFERENCE`, and not `PRIVATE_TEXT`. -/
def isReference (text : Text) : Bool :=
  referencePattern (toWellFormed text) && !Durable.testIgnoreCase privateText (toWellFormed text)

/-- `[0-9a-f]`. -/
def isHexDigit (c : Char) : Bool := hexDigits.contains c

/-- The character that may stand at a place of a UUID of version 4. -/
def uuidChar (place : Nat) (c : Char) : Bool :=
  if [8, 13, 18, 23].contains place then c == '-'
  else if place = 14 then c == '4'
  else if place = 19 then ['8', '9', 'a', 'b'].contains c
  else isHexDigit c

/-- A UUID of version 4, as `randomUUID` returns it. -/
def uuidPattern (text : List Char) : Bool :=
  decide (text.length = 36) && text.zipIdx.all fun p => uuidChar p.2 p.1

/-- `REQUEST_ID`. -/
def requestIdPattern (text : List Char) : Bool :=
  "recovery-observation-".toList.isPrefixOf text && uuidPattern (text.drop 21)

/-- `SIGNAL`. -/
def signalPattern (text : List Char) : Bool :=
  "SIG".toList.isPrefixOf text && decide (4 ≤ text.length ∧ text.length ≤ 34)
    && (text.drop 3).all fun c => ('A' ≤ c && c ≤ 'Z') || ('0' ≤ c && c ≤ '9')

/-! ## Fields -/

/-- What is read from a field. -/
def field {α : Type} (fields : List (Text × Value)) (name : String) (read : Value → Option α) : Option α :=
  (lookupEntry (ofString name) fields).bind read

/-- A text that matches. -/
def asText (matches' : Text → Bool) : Value → Option Text
  | .str text => if matches' text = true then some text else none
  | _ => none

/-- `reference`. -/
def asReference : Value → Option Text := asText isReference

/-- `digest`. -/
def asDigest : Value → Option Text := asText Observation.isHash

/-- A safe integer from this bound on. -/
def asIntegerFrom (least : Int) : Value → Option Int
  | .int n => if isSafeInteger n = true ∧ least ≤ n then some n else none
  | _ => none

/-- `value === false`. -/
def asFalse : Value → Option Unit
  | .bool false => some ()
  | _ => none

/-- A canonical timestamp, with its time. -/
structure Stamp where
  text : Text
  time : Int
  deriving DecidableEq

section Stamps

variable (dateParse : Text → Option Int)

/-- `timestamp`. -/
def asTimestamp : Value → Option Stamp
  | .str text =>
    match dateParse text with
    | some time => if (toISOString time).map ofString = some text then some ⟨text, time⟩ else none
    | none => none
  | _ => none

end Stamps

/-- `left < right`, of times that may be `NaN`. -/
def isBefore : Option Int → Option Int → Bool
  | some left, some right => decide (left < right)
  | _, _ => false

/-- `left <= right`, of times that may be `NaN`. -/
def isAtMost : Option Int → Option Int → Bool
  | some left, some right => decide (left ≤ right)
  | _, _ => false

variable {value : Value}

theorem asText_eq_some {matches' : Text → Bool} {text : Text} :
    asText matches' value = some text ↔ value = .str text ∧ matches' text = true := by
  unfold asText
  split
  · rename_i text'
    split
    · rename_i hmatches
      rw [Option.some.injEq, Value.str.injEq]
      constructor
      · rintro rfl
        exact ⟨rfl, hmatches⟩
      · exact fun h => h.1
    · rename_i hmatches
      constructor
      · intro h
        cases h
      · rintro ⟨heq, hmatches'⟩
        cases heq
        exact absurd hmatches' hmatches
  · rename_i hother
    constructor
    · intro h
      cases h
    · rintro ⟨rfl, -⟩
      exact absurd rfl (hother text)

theorem asIntegerFrom_eq_some {least : Int} {n : Int} :
    asIntegerFrom least value = some n ↔ value = .int n ∧ isSafeInteger n = true ∧ least ≤ n := by
  unfold asIntegerFrom
  split
  · rename_i m
    split
    · rename_i hsafe
      rw [Option.some.injEq, Value.int.injEq]
      constructor
      · rintro rfl
        exact ⟨rfl, hsafe⟩
      · exact fun h => h.1
    · rename_i hsafe
      constructor
      · intro h
        cases h
      · rintro ⟨heq, hsafe'⟩
        cases heq
        exact absurd hsafe' hsafe
  · rename_i hother
    constructor
    · intro h
      cases h
    · rintro ⟨rfl, -⟩
      exact absurd rfl (hother n)

theorem asFalse_eq_some {u : Unit} : asFalse value = some u ↔ value = .bool false := by
  unfold asFalse
  split
  · simp
  · rename_i hother
    constructor
    · intro h
      cases h
    · exact fun h => absurd h hother

/-- What a timestamp is. -/
theorem asTimestamp_eq_some {dateParse : Text → Option Int} {stamp : Stamp} :
    asTimestamp dateParse value = some stamp ↔ value = .str stamp.text ∧ dateParse stamp.text = some stamp.time
      ∧ (toISOString stamp.time).map ofString = some stamp.text := by
  unfold asTimestamp
  split
  · rename_i text
    rw [Value.str.injEq]
    split
    · rename_i time htime
      split
      · rename_i hcanonical
        constructor
        · intro h
          cases h
          exact ⟨rfl, htime, hcanonical⟩
        · rintro ⟨rfl, htime', -⟩
          rw [htime, Option.some.injEq] at htime'
          rw [htime']
      · rename_i hcanonical
        constructor
        · intro h
          cases h
        · rintro ⟨rfl, htime', hcanonical'⟩
          rw [htime, Option.some.injEq] at htime'
          subst htime'
          exact absurd hcanonical' hcanonical
    · rename_i hnone
      constructor
      · intro h
        cases h
      · rintro ⟨rfl, htime', -⟩
        rw [hnone] at htime'
        cases htime'
  · rename_i hother
    constructor
    · intro h
      cases h
    · exact fun h => absurd h.1 (hother stamp.text)

section FieldReads

variable {fields : List (Text × Value)} {name : String}

/-- A field is read when something is found under its name that can be. -/
theorem field_eq_some {α : Type} {read : Value → Option α} {a : α} :
    field fields name read = some a ↔ ∃ value, lookupEntry (ofString name) fields = some value ∧ read value = some a :=
  Option.bind_eq_some_iff

theorem field_text {matches' : Text → Bool} {text : Text} : field fields name (asText matches') = some text
    ↔ lookupEntry (ofString name) fields = some (.str text) ∧ matches' text = true := by
  rw [field_eq_some]
  simp only [asText_eq_some]
  constructor
  · rintro ⟨_, hlookup, rfl, hmatches⟩
    exact ⟨hlookup, hmatches⟩
  · rintro ⟨hlookup, hmatches⟩
    exact ⟨_, hlookup, rfl, hmatches⟩

theorem field_integer {least n : Int} : field fields name (asIntegerFrom least) = some n
    ↔ lookupEntry (ofString name) fields = some (.int n) ∧ isSafeInteger n = true ∧ least ≤ n := by
  rw [field_eq_some]
  simp only [asIntegerFrom_eq_some]
  constructor
  · rintro ⟨_, hlookup, rfl, hsafe⟩
    exact ⟨hlookup, hsafe⟩
  · rintro ⟨hlookup, hsafe⟩
    exact ⟨_, hlookup, rfl, hsafe⟩

theorem field_false {u : Unit} :
    field fields name asFalse = some u ↔ lookupEntry (ofString name) fields = some (.bool false) := by
  rw [field_eq_some]
  simp only [asFalse_eq_some, exists_eq_right]

theorem field_timestamp {dateParse : Text → Option Int} {stamp : Stamp} :
    field fields name (asTimestamp dateParse) = some stamp
      ↔ lookupEntry (ofString name) fields = some (.str stamp.text) ∧ dateParse stamp.text = some stamp.time
        ∧ (toISOString stamp.time).map ofString = some stamp.text := by
  rw [field_eq_some]
  simp only [asTimestamp_eq_some]
  constructor
  · rintro ⟨_, hlookup, rfl, htime⟩
    exact ⟨hlookup, htime⟩
  · rintro ⟨hlookup, htime⟩
    exact ⟨_, hlookup, rfl, htime⟩

end FieldReads

/-! ## Requests -/

/-- `RetainedNativeSupervisorRecoveryRequest`, without its constant fields. -/
structure RecoveryRequest where
  requestId : Text
  challengeNonce : Text
  issuedAt : Text
  expiresAt : Text
  workspaceId : Text
  runtimeId : Text
  connectionId : Text
  recoveryLeaseId : Text
  recoveryGeneration : Int
  claimId : Text
  handoffAttemptId : Text
  supervisionId : Text
  launchNonce : Text
  sessionId : Text
  dispatchId : Text
  runId : Text
  validationDispatchCandidateHash : Text
  manifestHash : Text
  admissionEvidenceHash : Text
  admissionBindingHash : Text
  processClaimedAt : Text
  processExpiresAt : Text
  requestHash : Text
  deriving DecidableEq

namespace RecoveryRequest

/-- The fields of a request, but for its hash. -/
def fieldsWithoutHash (request : RecoveryRequest) : List (Text × Value) := [
  (ofString "schemaVersion", .int 1),
  (ofString "requestId", .str request.requestId),
  (ofString "challengeNonce", .str request.challengeNonce),
  (ofString "issuedAt", .str request.issuedAt),
  (ofString "expiresAt", .str request.expiresAt),
  (ofString "workspaceId", .str request.workspaceId),
  (ofString "runtimeId", .str request.runtimeId),
  (ofString "connectionId", .str request.connectionId),
  (ofString "recoveryLeaseId", .str request.recoveryLeaseId),
  (ofString "recoveryGeneration", .int request.recoveryGeneration),
  (ofString "claimId", .str request.claimId),
  (ofString "handoffAttemptId", .str request.handoffAttemptId),
  (ofString "supervisionId", .str request.supervisionId),
  (ofString "launchNonce", .str request.launchNonce),
  (ofString "platform", .str (ofString "LINUX")),
  (ofString "testOnly", .bool false),
  (ofString "sessionId", .str request.sessionId),
  (ofString "dispatchId", .str request.dispatchId),
  (ofString "runId", .str request.runId),
  (ofString "validationDispatchCandidateHash", .str request.validationDispatchCandidateHash),
  (ofString "manifestHash", .str request.manifestHash),
  (ofString "admissionEvidenceHash", .str request.admissionEvidenceHash),
  (ofString "admissionBindingHash", .str request.admissionBindingHash),
  (ofString "processClaimedAt", .str request.processClaimedAt),
  (ofString "processExpiresAt", .str request.processExpiresAt),
  (ofString "runtimeConnection", .str (ofString "NOT_CONFIGURED"))]

/-- The fields of a request. -/
def fields (request : RecoveryRequest) : List (Text × Value) :=
  (ofString "requestHash", .str request.requestHash) :: request.fieldsWithoutHash

/-- The names of the fields, in the order of `fields`. -/
def names : List Text := [
  "requestHash", "schemaVersion", "requestId", "challengeNonce", "issuedAt", "expiresAt", "workspaceId", "runtimeId",
  "connectionId", "recoveryLeaseId", "recoveryGeneration", "claimId", "handoffAttemptId", "supervisionId",
  "launchNonce", "platform", "testOnly", "sessionId", "dispatchId", "runId", "validationDispatchCandidateHash",
  "manifestHash", "admissionEvidenceHash", "admissionBindingHash", "processClaimedAt", "processExpiresAt",
  "runtimeConnection"].map ofString

theorem map_fst_fields (request : RecoveryRequest) : request.fields.map Prod.fst = names := rfl

theorem nodup_names : names.Nodup := by decide

/-- A request is its fields. -/
theorem eq_of_fields {request request' : RecoveryRequest} (h : request.fields = request'.fields) :
    request = request' := by
  simp only [fields, fieldsWithoutHash, List.cons.injEq, Prod.mk.injEq, Value.str.injEq, Value.int.injEq, true_and,
    and_true] at h
  cases request
  cases request'
  simp only [mk.injEq]
  tauto

end RecoveryRequest

/-! ## Hashes -/

/-- `createHash('sha256').update(bytes).digest('hex')`. -/
def digestOf (sha256 : ByteArray → String) (bytes : ByteArray) : Text := ofString (sha256 bytes)

/-- `requestHash`: `none` when a field is not canonical. -/
def requestHash (sha256 : ByteArray → String) (request : RecoveryRequest) : Option Text :=
  (Codec.canonicalJson (.obj [
    (ofString "domain", .str (ofString "ventureos.retained-native-supervisor.recovery-request.v1")),
    (ofString "request", .obj request.fieldsWithoutHash)])).map fun text =>
      digestOf sha256 (TextDecoder.encode text)

/-! ## Work items -/

/-- `RetainedNativeSupervisorRecoveryErrorCode`. -/
inductive RecoveryErrorCode where
  | NOT_CONFIGURED
  | INVALID_REQUEST
  | EXCHANGE_DENIED
  | INVALID_RESPONSE
  deriving DecidableEq, Repr

/-- `CodexValidationProcessSessionRecoveryErrorCode`. -/
inductive RecoveryWorkItemErrorCode where
  | INVALID_WORK_ITEM
  | LEASE_INACTIVE
  deriving DecidableEq, Repr

/-- What the recovery throws: its own errors, that of the work item or of the codec, or a `RangeError`. -/
inductive RecoveryError where
  | denied (code : RecoveryErrorCode)
  | workItem (code : RecoveryWorkItemErrorCode)
  | codec
  | range
  deriving DecidableEq, Repr

/-- `CodexValidationProcessSessionRecoveryWorkItem`, without its constant fields. -/
structure RecoveryWorkItem where
  recoveryLeaseId : Text
  recoveryGeneration : Int
  claimId : Text
  handoffAttemptId : Text
  validationDispatchCandidateHash : Text
  sessionId : Text
  dispatchId : Text
  runId : Text
  binding : SupervisorProcessBinding
  processClaimedAt : Text
  processExpiresAt : Text
  leaseClaimedAt : Text
  leaseExpiresAt : Text

open Regex in
/-- `PRIVATE_TEXT` of work items, in lower case. -/
def workItemPrivateText : Regex :=
  altAll [
    seqAll [literal "chain", opt (oneOf "-_. "), literal "of", opt (oneOf "-_. "), literal "thought"],
    seqAll [literal "private", opt (oneOf "-_. "), literal "reasoning"],
    literal "password", literal "credential",
    seqAll [literal "api", opt (oneOf "-_. "), literal "key"],
    literal "token", literal "secret", literal "transcript", literal "prompt"]

/-- `reference` of work items. -/
def isWorkItemReference (text : Text) : Bool :=
  referencePattern (toWellFormed text) && !Durable.testIgnoreCase workItemPrivateText (toWellFormed text)

section Creation

variable (dateParse : Text → Option Int) (sha256 : ByteArray → String)

/-- `validateCodexValidationProcessSessionRecoveryWorkItem`. -/
def validateWorkItem (workItem : RecoveryWorkItem) (observedAt : Option Int) : Except RecoveryError Unit := do
  let invalid := RecoveryError.workItem .INVALID_WORK_ITEM
  let observed ← orThrow invalid observedAt
  throwIf (isProcessBinding workItem.binding = false) invalid
  let processClaimed ← orThrow invalid (asTimestamp dateParse (.str workItem.processClaimedAt))
  let processExpires ← orThrow invalid (asTimestamp dateParse (.str workItem.processExpiresAt))
  let leaseClaimed ← orThrow invalid (asTimestamp dateParse (.str workItem.leaseClaimedAt))
  let leaseExpires ← orThrow invalid (asTimestamp dateParse (.str workItem.leaseExpiresAt))
  throwIf (isSafeInteger workItem.recoveryGeneration = false ∨ workItem.recoveryGeneration < 1
      ∨ processExpires.time ≤ processClaimed.time ∨ leaseClaimed.time < processExpires.time
      ∨ leaseExpires.time ≠ leaseClaimed.time + 15000) invalid
  throwIf (observed < leaseClaimed.time ∨ leaseExpires.time ≤ observed) (.workItem .LEASE_INACTIVE)
  throwIf ((isWorkItemReference workItem.recoveryLeaseId && isWorkItemReference workItem.claimId
      && isWorkItemReference workItem.handoffAttemptId
      && Observation.isHash workItem.validationDispatchCandidateHash && isWorkItemReference workItem.sessionId
      && isWorkItemReference workItem.dispatchId && isWorkItemReference workItem.runId) = false) invalid

/-- `createRetainedNativeSupervisorRecoveryRequest`, with the UUID and the random bytes that it draws. -/
def createRecoveryRequest (workItem : RecoveryWorkItem) (observedAt : Option Int) (uuid nonce : String) :
    Except RecoveryError RecoveryRequest := do
  let observed ← orThrow (.denied .INVALID_REQUEST) observedAt
  validateWorkItem dateParse workItem observedAt
  throwIf (workItem.binding.platform ≠ .LINUX ∨ workItem.binding.testOnly = true) (.denied .INVALID_REQUEST)
  let leaseExpires ← orThrow .range (dateParse workItem.leaseExpiresAt)
  let expires := min (observed + 2000) leaseExpires
  throwIf (expires ≤ observed) (.denied .INVALID_REQUEST)
  let issuedAt ← orThrow .range (toISOString observed)
  let expiresAt ← orThrow .range (toISOString expires)
  let request : RecoveryRequest := {
    requestId := ofString ("recovery-observation-" ++ uuid)
    challengeNonce := ofString (String.ofList (nonce.toList.take 43))
    issuedAt := ofString issuedAt
    expiresAt := ofString expiresAt
    workspaceId := ofString workItem.binding.workspaceId
    runtimeId := ofString workItem.binding.runtimeId
    connectionId := ofString workItem.binding.connectionId
    recoveryLeaseId := workItem.recoveryLeaseId
    recoveryGeneration := workItem.recoveryGeneration
    claimId := workItem.claimId
    handoffAttemptId := workItem.handoffAttemptId
    supervisionId := ofString workItem.binding.supervisionId
    launchNonce := ofString workItem.binding.launchNonce
    sessionId := workItem.sessionId
    dispatchId := workItem.dispatchId
    runId := workItem.runId
    validationDispatchCandidateHash := workItem.validationDispatchCandidateHash
    manifestHash := ofString workItem.binding.manifestHash
    admissionEvidenceHash := ofString workItem.binding.admissionEvidenceHash
    admissionBindingHash := ofString workItem.binding.admissionBindingHash
    processClaimedAt := workItem.processClaimedAt
    processExpiresAt := workItem.processExpiresAt
    requestHash := [] }
  let hash ← orThrow .codec (requestHash sha256 request)
  return { request with requestHash := hash }

/-- The times of a request that was created. -/
theorem times_of_createRecoveryRequest
    (hdate : ∀ time text, toISOString time = some text → (dateParse (ofString text)).isSome)
    {workItem : RecoveryWorkItem} {observedAt : Option Int} {uuid nonce : String} {request : RecoveryRequest}
    (h : createRecoveryRequest dateParse sha256 workItem observedAt uuid nonce = .ok request) :
    (dateParse request.processClaimedAt).isSome ∧ (dateParse request.processExpiresAt).isSome
      ∧ (dateParse request.issuedAt).isSome ∧ (dateParse request.expiresAt).isSome := by
  simp only [createRecoveryRequest, validateWorkItem, except_bind_eq_ok, throwIf_eq_ok, orThrow_eq_ok,
    except_pure_eq_ok, asTimestamp_eq_some, Value.str.injEq] at h
  obtain ⟨observed, -, _, ⟨_, -, _, -, claimed, ⟨hclaimed, hclaimedAt, -⟩, expires, ⟨hexpires, hexpiresAt, -⟩, -⟩, _, -,
    leaseExpires, -, _, -, issuedText, hissued, expiresText, hexpiresText, hash, -, rfl⟩ := h
  refine ⟨?_, ?_, ?_, ?_⟩
  · show (dateParse workItem.processClaimedAt).isSome
    rw [hclaimed, hclaimedAt]
    rfl
  · show (dateParse workItem.processExpiresAt).isSome
    rw [hexpires, hexpiresAt]
    rfl
  · exact hdate _ _ hissued
  · exact hdate _ _ hexpiresText

end Creation

end VentureOS.Bridge
