import VentureOS.Bridge.AtMostOnce

/-! # The egress of validation frames

`BoundedCodexValidationEgressController.handoff`: a first piece, from the call to the write of the transport, and a
second one, from the answer of the transport or the interruption to the end.

The controller remembers a claim until it expires, by the clock of the calls: a call forgets what has expired at
its own reading. So a claim is handed off at most once as long as the clock does not go back before an expiry that
it has reached. -/

namespace VentureOS.Bridge

open ReplayMemory

/-- `CodexValidationEgressControllerErrorCode`. -/
inductive EgressErrorCode where
  | INVALID_CLAIM
  | INVALID_FRAME
  | AUTHORITY_EXPIRED
  | INVALID_TIMEOUT
  | CONCURRENT_HANDOFF
  | USED_HANDOFF
  | CANCELLED
  | WRITE_TIMEOUT
  | TRANSPORT_DENIED
  | TRANSPORT_MUTATED_FRAME
  deriving DecidableEq, Repr

/-! ## Claims -/

open Regex in
/-- `SENSITIVE` of the controller, in lower case, but for its last alternative. -/
def egressSensitive : Regex :=
  altAll [
    seqAll [literal "chain", opt (oneOf "-_. "), literal "of", opt (oneOf "-_. "), literal "thought"],
    seqAll [literal "private", opt (oneOf "-_. "), literal "reasoning"],
    literal "password", literal "credential",
    seqAll [literal "api", opt (oneOf "-_. "), literal "key"],
    literal "transcript", literal "prompt", literal "secret", literal "token",
    seqAll [literal "-----begin ", .star (.cls fun c => ('a' ≤ c && c ≤ 'z') || c == ' '),
      literal "private key-----"],
    seqAll [.wordBoundary, literal "bearer", atLeast 1 (.cls isJsSpace)],
    seqAll [.wordBoundary,
      altAll [literal "sk", .seq (literal "gh") (oneOf "opusr"), literal "github_pat", literal "npm",
        literal "glpat", .seq (literal "xox") (oneOf "baprs"), literal "hf"],
      oneOf "_-", atLeast 12 (Durable.alnumOr "_-")],
    seqAll [.wordBoundary, literal "akia", times 16 (Durable.alnumOr ""), .wordBoundary],
    seqAll [.wordBoundary, literal "aiza", atLeast 20 (Durable.alnumOr "_-")],
    seqAll [.wordBoundary, literal "eyj", atLeast 5 (Durable.alnumOr "_-"), literal ".eyj",
      atLeast 5 (Durable.alnumOr "_-"), literal ".", atLeast 8 (Durable.alnumOr "_-"), .wordBoundary]]

/-- `reference` of the controller accepts a text. -/
def isEgressReference (value : String) : Bool :=
  let folded := String.ofList (value.toList.map Regex.foldCase)
  Durable.approvalReferencePattern value && !egressSensitive.test folded
    && !Durable.matchesWhole Durable.credentialPair folded

/-- `ownerActorKind` of a claim. -/
inductive OwnerActorKind where
  | HUMAN
  | AGENT
  | SYSTEM
  deriving DecidableEq, Repr

/-- `CodexValidationEgressHandoffClaim`, but for the fields of which the type fixes the value. -/
structure CodexValidationEgressHandoffClaim where
  id : String
  workspaceId : String
  validationDispatchCandidateHash : String
  heartbeatCandidateHash : String
  ownerReference : String
  ownerActorKind : OwnerActorKind
  claimIdempotencyKey : String
  runtimeId : String
  connectionId : String
  sessionId : String
  dispatchId : String
  taskId : String
  runId : String
  agentId : String
  authorityLevel : Int
  taskPolicyHash : String
  maximumComputeUnits : Int
  maximumDurationMs : Int
  messageId : String
  payloadDigest : String
  unsignedEnvelopeDigest : String
  signedEnvelopeDigest : String
  authenticationTagDigest : String
  validationIssuedAt : Int
  validationExpiresAt : Int
  claimedAt : Int
  expiresAt : Int
  deriving DecidableEq, Repr

/-- `MAX_CLAIM_MS`. -/
def maxClaimMs : Int := 15000

/-- `MAX_WRITE_MS`. -/
def maxWriteMs : Int := 5000

/-- `validateClaim`. -/
def validateClaim (claim : CodexValidationEgressHandoffClaim) : Except EgressErrorCode Unit := do
  throwIf (∃ text ∈ [claim.id, claim.workspaceId, claim.ownerReference, claim.claimIdempotencyKey, claim.runtimeId,
      claim.connectionId, claim.sessionId, claim.dispatchId, claim.taskId, claim.runId, claim.agentId,
      claim.messageId], isEgressReference text = false) .INVALID_CLAIM
  throwIf (∃ text ∈ [claim.validationDispatchCandidateHash, claim.heartbeatCandidateHash, claim.taskPolicyHash,
      claim.payloadDigest, claim.unsignedEnvelopeDigest, claim.signedEnvelopeDigest,
      claim.authenticationTagDigest], Durable.sha256Pattern text = false) .INVALID_CLAIM
  throwIf (isSafeInteger claim.authorityLevel = false ∨ claim.authorityLevel < 0 ∨ 3 < claim.authorityLevel
      ∨ isSafeInteger claim.maximumComputeUnits = false ∨ claim.maximumComputeUnits < 1
      ∨ 100 < claim.maximumComputeUnits
      ∨ isSafeInteger claim.maximumDurationMs = false ∨ claim.maximumDurationMs < 1
      ∨ 60000 < claim.maximumDurationMs
      ∨ claim.messageId ≠ claim.dispatchId
      ∨ claim.validationExpiresAt ≤ claim.validationIssuedAt ∨ claim.claimedAt < claim.validationIssuedAt
      ∨ claim.expiresAt ≤ claim.claimedAt ∨ maxClaimMs < claim.expiresAt - claim.claimedAt
      ∨ claim.validationExpiresAt < claim.expiresAt)
    .INVALID_CLAIM

/-! ## Frames -/

/-- `MAX_BRIDGE_LINE_BYTES`. -/
def maxBridgeLineBytes : Nat := 65536

/-- `encodeBridgeLine`. -/
def encodeBridgeLine (envelope : BridgeEnvelope) : Except BridgeError ByteArray := do
  validateBridgeEnvelope envelope
  let text ← canonicalJson envelope.toJson
  let encoded := (text ++ "\n").toUTF8
  throwIf (maxBridgeLineBytes < encoded.size) (.protocol "Frame is too large")
  return encoded

/-- A field of a payload is this text. -/
def hasText (payload : List (String × Json)) (name text : String) : Bool :=
  match payload.lookup name with
  | some (.str s) => s == text
  | _ => false

theorem hasText_of_lookup {payload : List (String × Json)} {name text : String}
    (h : payload.lookup name = some (.str text)) : hasText payload name text = true := by
  simp only [hasText, h, beq_self_eq_true]

/-- A field of a payload is this number. -/
def hasInteger (payload : List (String × Json)) (name : String) (n : Int) : Bool :=
  match payload.lookup name with
  | some (.int m) => m == n
  | _ => false

/-- `PAYLOAD_KEYS`. -/
def payloadKeys : List String := [
  "agentId", "authorityLevel", "capabilityCandidateHash", "challengeCode", "dispatchId", "heartbeatCandidateHash",
  "registrationCandidateHash", "runId", "schemaVersion", "taskId", "taskPolicyHash"]

section Handoffs

variable (sha256 : String → String)

/-- The digests of a frame are those in the claim. -/
def sameDigests (claim : CodexValidationEgressHandoffClaim) (frame : BridgeEnvelope) : Except BridgeError Bool := do
  let unsignedDigest ← hash sha256 frame.toUnsignedEnvelope.toJson
  let signedDigest ← hash sha256 frame.toJson
  return decide (frame.payloadDigest = claim.payloadDigest ∧ unsignedDigest = claim.unsignedEnvelopeDigest
    ∧ signedDigest = claim.signedEnvelopeDigest ∧ sha256 frame.mac = claim.authenticationTagDigest)

/-- `validateFrame`. -/
def validateFrame (claim : CodexValidationEgressHandoffClaim) (frame : BridgeEnvelope) :
    Except EgressErrorCode Unit := do
  let payload := frame.payload
  throwIf ((payload.map Prod.fst).isPerm payloadKeys = false) .INVALID_FRAME
  throwIf (frame.protocolVersion ≠ bridgeProtocolVersion ∨ frame.workspaceId ≠ claim.workspaceId
      ∨ frame.runtimeId ≠ claim.runtimeId ∨ frame.connectionId ≠ claim.connectionId
      ∨ frame.sessionId ≠ claim.sessionId ∨ frame.sequence ≠ 1 ∨ frame.messageId ≠ claim.messageId
      ∨ frame.type ≠ .DISPATCH ∨ frame.issuedAt ≠ claim.validationIssuedAt
      ∨ frame.expiresAt ≠ claim.validationExpiresAt
      ∨ hasInteger payload "schemaVersion" 1 = false
      ∨ hasText payload "challengeCode" codexValidationChallenge = false
      ∨ hasText payload "dispatchId" claim.dispatchId = false ∨ hasText payload "taskId" claim.taskId = false
      ∨ hasText payload "runId" claim.runId = false ∨ hasText payload "agentId" claim.agentId = false
      ∨ hasInteger payload "authorityLevel" claim.authorityLevel = false
      ∨ hasText payload "taskPolicyHash" claim.taskPolicyHash = false
      ∨ hasText payload "heartbeatCandidateHash" claim.heartbeatCandidateHash = false)
    .INVALID_FRAME
  throwIf (sameDigests sha256 claim frame ≠ .ok true) .INVALID_FRAME

/-! ## Handoffs -/

/-- What `handoff` is called with, and the clock as its first piece reads it: an invalid date when there is none. -/
structure HandoffStart where
  claim : CodexValidationEgressHandoffClaim
  frame : BridgeEnvelope
  timeoutMs : Option Int
  aborted : Bool
  now : Option Int

/-- How the race of the transport with the interruption ends: with an error of the controller, with another error,
or with the write. Then whether the transport has changed the line, or has taken its buffer, and the clock. -/
structure HandoffReply where
  result : Except (Option EgressErrorCode) Unit
  mutated : Bool
  detached : Bool
  completedAt : Option Int

/-- Where a call waits, and how it has ended. -/
inductive HandoffPoint where
  | writing
  | denied (code : EgressErrorCode)
  | failed
  | returned
  deriving DecidableEq, Repr

/-- A call of `handoff`. -/
structure HandoffCall where
  claim : CodexValidationEgressHandoffClaim
  point : HandoffPoint

/-- A call of `transport.write`: the claim, the bytes of the line, and the last reading of the clock. -/
structure HandoffWrite where
  claim : CodexValidationEgressHandoffClaim
  line : ByteArray
  now : Int

/-- The state of a controller. -/
abbrev EgressMemory := ReplayMemory String

/-- The checks of `handoff` on a claim and its frame. -/
def checkHandoff (claim : CodexValidationEgressHandoffClaim) (frame : BridgeEnvelope) :
    Except EgressErrorCode ByteArray := do
  validateClaim claim
  match encodeBridgeLine frame with
  | .error _ => throw .INVALID_FRAME
  | .ok encoded => do
    validateFrame sha256 claim frame
    return encoded

/-- `handoff`, from the clock to the write. The memory forgets what has expired before the timeout is checked. -/
def writeHandoff (start : HandoffStart) (encoded : ByteArray) (now : Int) (memory : EgressMemory) :
    List HandoffWrite × EgressMemory × HandoffPoint :=
  let claim := start.claim
  let remaining := claim.expiresAt - now
  let timeoutMs := start.timeoutMs.getD (min maxWriteMs remaining)
  let purged := memory.purge now
  if remaining ≤ 0 then ([], memory, .denied .AUTHORITY_EXPIRED)
  else if isSafeInteger timeoutMs = false ∨ timeoutMs < 1 ∨ maxWriteMs < timeoutMs ∨ remaining < timeoutMs then
    ([], purged, .denied .INVALID_TIMEOUT)
  else if start.aborted = true then ([], purged, .denied .CANCELLED)
  else if purged.used.has claim.id = true then ([], purged, .denied .USED_HANDOFF)
  else if claim.id ∈ purged.active then ([], purged, .denied .CONCURRENT_HANDOFF)
  else ([⟨claim, encoded, now⟩], ⟨claim.id :: purged.active, purged.used.set claim.id claim.expiresAt⟩, .writing)

/-- `handoff`, from the call to the write. -/
def beginHandoff (start : HandoffStart) (memory : EgressMemory) : List HandoffWrite × EgressMemory × HandoffPoint :=
  match checkHandoff sha256 start.claim start.frame with
  | .error code => ([], memory, .denied code)
  | .ok encoded =>
    match start.now with
    | none => ([], memory, .denied .INVALID_CLAIM)
    | some now => writeHandoff start encoded now memory

/-- How a handoff ends that was written. -/
def completion (claim : CodexValidationEgressHandoffClaim) (reply : HandoffReply) : HandoffPoint :=
  match reply.result with
  | .error code => .denied (code.getD .TRANSPORT_DENIED)
  | .ok () =>
    if reply.mutated = true then .denied .TRANSPORT_MUTATED_FRAME
    else
      match reply.completedAt with
      | none => .denied .AUTHORITY_EXPIRED
      | some completedAt => if claim.expiresAt ≤ completedAt then .denied .AUTHORITY_EXPIRED else .returned

/-- `handoff`, from the answer to the end. When the transport has taken the buffer of the line, `fill` throws
before the id is released. -/
def finishHandoff (claim : CodexValidationEgressHandoffClaim) (reply : HandoffReply) (memory : EgressMemory) :
    EgressMemory × HandoffPoint :=
  if reply.detached = true then (memory, .failed) else (memory.release claim.id, completion claim reply)

/-- A call is resumed. A call that has ended stays as it is. -/
def resumeHandoff (reply : HandoffReply) (call : HandoffCall) (memory : EgressMemory) :
    EgressMemory × HandoffPoint :=
  match call.point with
  | .writing => finishHandoff call.claim reply memory
  | point => (memory, point)

/-- The controller, with all its calls. -/
def egressController : CallSystem EgressMemory HandoffCall HandoffStart HandoffReply (List HandoffWrite) where
  start a memory :=
    let r := beginHandoff sha256 a memory
    (r.1, r.2.1, ⟨a.claim, r.2.2⟩)
  resume reply call memory :=
    let r := resumeHandoff reply call memory
    ([], r.1, ⟨call.claim, r.2⟩)

/-! ## Runs of a controller -/

/-- The writes of the transport. -/
def handoffWrites (moves : List (Move HandoffStart HandoffReply)) : List HandoffWrite :=
  ((egressController sha256).shown empty moves).flatten

end Handoffs

/-- The readings of the clock of a move. -/
def handoffReadings : Move HandoffStart HandoffReply → List Int
  | .start a => a.now.toList
  | .resume _ reply => reply.completedAt.toList

/-- Every claim id names the same claim. -/
def SameClaims (moves : List (Move HandoffStart HandoffReply)) : Prop :=
  ∀ a b, .start a ∈ moves → .start b ∈ moves → a.claim.id = b.claim.id → a.claim = b.claim

/-- The clock does not go back before the expiry of a claim that it has reached. -/
def KeepsExpiries (moves : List (Move HandoffStart HandoffReply)) : Prop :=
  (moves.flatMap handoffReadings).Pairwise fun earlier later =>
    ∀ a, .start a ∈ moves → a.claim.expiresAt ≤ earlier → a.claim.expiresAt ≤ later

variable {moves : List (Move HandoffStart HandoffReply)}

theorem SameClaims.of_concat {move : Move HandoffStart HandoffReply}
    (h : SameClaims (moves ++ [move])) : SameClaims moves :=
  fun a b ha hb => h a b (List.mem_append_left _ ha) (List.mem_append_left _ hb)

theorem KeepsExpiries.of_concat
    {move : Move HandoffStart HandoffReply} (h : KeepsExpiries (moves ++ [move])) : KeepsExpiries moves := by
  unfold KeepsExpiries at h
  rw [List.flatMap_append, List.pairwise_append] at h
  exact h.1.imp fun hpair a ha => hpair a (List.mem_append_left _ ha)

/-- The clock is not before an expiry that it has reached earlier. -/
theorem KeepsExpiries.reached {a b : HandoffStart} {now r : Int}
    (h : KeepsExpiries (moves ++ [.start a])) (hnow : a.now = some now) (hb : .start b ∈ moves)
    (hr : r ∈ moves.flatMap handoffReadings) (hreached : b.claim.expiresAt ≤ r) : b.claim.expiresAt ≤ now := by
  unfold KeepsExpiries at h
  rw [List.flatMap_append, List.pairwise_append] at h
  refine h.2.2 r hr now ?_ b (List.mem_append_left _ hb) hreached
  simp [handoffReadings, hnow]

/-! ### Pieces -/

variable {claim : CodexValidationEgressHandoffClaim} {code : EgressErrorCode}

variable {encoded : ByteArray}

section Pieces

variable {sha256 : String → String}

/-- A write is one of a claim that has not expired, with the bytes of a frame that is valid for it. -/
structure HandoffWrite.Faithful (sha256 : String → String) (w : HandoffWrite) : Prop where
  live : w.now < w.claim.expiresAt
  claimed : validateClaim w.claim = .ok ()
  framed : ∃ frame, encodeBridgeLine frame = .ok w.line ∧ validateFrame sha256 w.claim frame = .ok ()
    ∧ frame.payloadDigest = w.claim.payloadDigest
    ∧ hash sha256 frame.toUnsignedEnvelope.toJson = .ok w.claim.unsignedEnvelopeDigest
    ∧ hash sha256 frame.toJson = .ok w.claim.signedEnvelopeDigest
    ∧ sha256 frame.mac = w.claim.authenticationTagDigest

theorem sameDigests_eq {frame : BridgeEnvelope}
    (h : sameDigests sha256 claim frame = .ok true) :
    frame.payloadDigest = claim.payloadDigest
      ∧ hash sha256 frame.toUnsignedEnvelope.toJson = .ok claim.unsignedEnvelopeDigest
      ∧ hash sha256 frame.toJson = .ok claim.signedEnvelopeDigest
      ∧ sha256 frame.mac = claim.authenticationTagDigest := by
  unfold sameDigests at h
  simp only [except_bind_eq_ok, except_pure_eq_ok, decide_eq_true_eq] at h
  obtain ⟨unsignedDigest, hunsigned, signedDigest, hsigned, hpayload, rfl, rfl, hmac⟩ := h
  exact ⟨hpayload, hunsigned, hsigned, hmac⟩

/-- What passes the checks can be written. -/
theorem faithful_of_check {frame : BridgeEnvelope}
    {now : Int} (h : checkHandoff sha256 claim frame = .ok encoded) (hlive : now < claim.expiresAt) :
    HandoffWrite.Faithful sha256 ⟨claim, encoded, now⟩ := by
  unfold checkHandoff at h
  rw [check_bind_eq_ok] at h
  obtain ⟨hclaim, hframe⟩ := h
  split at hframe
  · cases hframe
  · rename_i line hencoded
    rw [check_bind_eq_ok, except_pure_eq_ok] at hframe
    obtain ⟨hvalid, rfl⟩ := hframe
    refine ⟨hlive, hclaim, frame, hencoded, hvalid, sameDigests_eq ?_⟩
    simp only [validateFrame, check_bind_eq_ok, throwIf_eq_ok, not_not] at hvalid
    exact hvalid.2.2

/-- What a first piece can be. -/
inductive HandoffPiece (sha256 : String → String) (start : HandoffStart) (memory : EgressMemory) :
    List HandoffWrite × EgressMemory × HandoffPoint → Prop where
  | kept (code : EgressErrorCode) (hcode : code ≠ .CONCURRENT_HANDOFF) :
      HandoffPiece sha256 start memory ([], memory, .denied code)
  | purged {now : Int} (code : EgressErrorCode) (hcode : code ≠ .CONCURRENT_HANDOFF) (hnow : start.now = some now) :
      HandoffPiece sha256 start memory ([], memory.purge now, .denied code)
  | concurrent {now : Int} (hnow : start.now = some now) (hlive : now < start.claim.expiresAt)
      (hunused : (memory.purge now).used.get? start.claim.id = none) (hactive : start.claim.id ∈ memory.active) :
      HandoffPiece sha256 start memory ([], memory.purge now, .denied .CONCURRENT_HANDOFF)
  | written {now : Int} {encoded : ByteArray} (hnow : start.now = some now) (hlive : now < start.claim.expiresAt)
      (hunused : (memory.purge now).used.get? start.claim.id = none)
      (hfaithful : HandoffWrite.Faithful sha256 ⟨start.claim, encoded, now⟩) :
      HandoffPiece sha256 start memory ([⟨start.claim, encoded, now⟩],
        ⟨start.claim.id :: memory.active, (memory.purge now).used.set start.claim.id start.claim.expiresAt⟩, .writing)

theorem check_bind_eq_error {x : Except EgressErrorCode Unit} {α : Type} {f : Unit → Except EgressErrorCode α}
    (h : (x >>= f) = .error code) : x = .error code ∨ f () = .error code := by
  cases x with
  | error e =>
    cases h
    exact Or.inl rfl
  | ok u => exact Or.inr h

theorem validateClaim_code
    (h : validateClaim claim = .error code) : code = .INVALID_CLAIM := by
  unfold validateClaim at h
  rcases check_bind_eq_error h with h | h
  · exact (throwIf_eq_error.mp h).2.symm
  · rcases check_bind_eq_error h with h | h
    · exact (throwIf_eq_error.mp h).2.symm
    · exact (throwIf_eq_error.mp h).2.symm

theorem validateFrame_code {frame : BridgeEnvelope}
    (h : validateFrame sha256 claim frame = .error code) : code = .INVALID_FRAME := by
  unfold validateFrame at h
  rcases check_bind_eq_error h with h | h
  · exact (throwIf_eq_error.mp h).2.symm
  · rcases check_bind_eq_error h with h | h
    · exact (throwIf_eq_error.mp h).2.symm
    · exact (throwIf_eq_error.mp h).2.symm

theorem checkHandoff_code {frame : BridgeEnvelope}
    (h : checkHandoff sha256 claim frame = .error code) : code ≠ .CONCURRENT_HANDOFF := by
  unfold checkHandoff at h
  rcases check_bind_eq_error h with hclaim | hframe
  · rw [validateClaim_code hclaim]
    decide
  · split at hframe
    · cases hframe
      decide
    · rcases check_bind_eq_error hframe with hframe | hframe
      · rw [validateFrame_code hframe]
        decide
      · cases hframe

theorem handoffPiece_write {start : HandoffStart} {memory : EgressMemory} {now : Int}
    (hnow : start.now = some now) (hcheck : checkHandoff sha256 start.claim start.frame = .ok encoded) :
    HandoffPiece sha256 start memory (writeHandoff start encoded now memory) := by
  unfold writeHandoff
  dsimp only
  by_cases hexpired : start.claim.expiresAt - now ≤ 0
  · rw [if_pos hexpired]
    exact .kept _ (by decide)
  rw [if_neg hexpired]
  have hlive : now < start.claim.expiresAt := by omega
  split
  · exact .purged _ (by decide) hnow
  split
  · exact .purged _ (by decide) hnow
  by_cases hused : (memory.purge now).used.has start.claim.id = true
  · rw [if_pos hused]
    exact .purged _ (by decide) hnow
  rw [if_neg hused]
  have hunused : (memory.purge now).used.get? start.claim.id = none := by
    rw [OrderedMap.has, Option.isSome_iff_ne_none, not_not] at hused
    exact hused
  split
  · rename_i hactive
    exact .concurrent hnow hlive hunused hactive
  · exact .written hnow hlive hunused (faithful_of_check hcheck hlive)

variable (sha256) in
/-- **What the first piece of a handoff can be**. -/
theorem handoffPiece_begin (start : HandoffStart) (memory : EgressMemory) :
    HandoffPiece sha256 start memory (beginHandoff sha256 start memory) := by
  unfold beginHandoff
  split
  · rename_i hcheck
    exact .kept _ (checkHandoff_code hcheck)
  · rename_i hcheck
    split
    · exact .kept _ (by decide)
    · rename_i hnow
      exact handoffPiece_write hnow hcheck

/-- A first piece finds its claim unused. -/
def Unused (start : HandoffStart) (memory : EgressMemory) : Prop :=
  ∃ now, start.now = some now ∧ now < start.claim.expiresAt
    ∧ (memory.purge now).used.get? start.claim.id = none

variable {start : HandoffStart} {memory : EgressMemory} {r : List HandoffWrite × EgressMemory × HandoffPoint}

theorem HandoffPiece.wrote (h : HandoffPiece sha256 start memory r) {w : HandoffWrite} (hw : w ∈ r.1) :
    w.claim = start.claim ∧ w.Faithful sha256 ∧ Unused start memory
      ∧ r.2.1.used.get? w.claim.id = some w.claim.expiresAt := by
  cases h with
  | written hnow hlive hunused hfaithful =>
    obtain rfl := List.mem_singleton.mp hw
    refine ⟨rfl, hfaithful, ⟨_, hnow, hlive, hunused⟩, ?_⟩
    rw [OrderedMap.get?_set, if_pos rfl]
  | _ => exact absurd hw List.not_mem_nil

theorem HandoffPiece.length_le (h : HandoffPiece sha256 start memory r) : r.1.length ≤ 1 := by
  cases h with
  | written => exact Nat.le_refl 1
  | _ => exact Nat.zero_le 1

/-- What is remembered stays so, or its expiry is reached. -/
theorem HandoffPiece.remembers (h : HandoffPiece sha256 start memory r) {id : String} {expiresAt : Int}
    (hget : memory.used.get? id = some expiresAt) :
    r.2.1.used.get? id = some expiresAt ∨ ∃ now, start.now = some now ∧ expiresAt ≤ now := by
  have hpurge : ∀ now, start.now = some now → (memory.purge now).used.get? id = some expiresAt
      ∨ ∃ now, start.now = some now ∧ expiresAt ≤ now := by
    intro now hnow
    by_cases hlive : now < expiresAt
    · exact Or.inl (get?_purge_of_lt hget hlive)
    · exact Or.inr ⟨now, hnow, by omega⟩
  cases h with
  | kept => exact Or.inl hget
  | purged _ _ hnow => exact hpurge _ hnow
  | concurrent hnow => exact hpurge _ hnow
  | written hnow _ hunused =>
    rcases hpurge _ hnow with hkept | hreached
    · refine Or.inl ?_
      rw [OrderedMap.get?_set, if_neg]
      · exact hkept
      · rintro rfl
        rw [hunused] at hkept
        cases hkept
    · exact Or.inr hreached

/-- An id comes into use by a write. -/
theorem HandoffPiece.active (h : HandoffPiece sha256 start memory r) {id : String}
    (hid : id ∈ r.2.1.active) : id ∈ memory.active ∨ ∃ w ∈ r.1, w.claim.id = id := by
  cases h with
  | written =>
    rcases List.mem_cons.mp hid with rfl | hold
    · exact Or.inr ⟨_, List.mem_singleton_self _, rfl⟩
    · exact Or.inl hold
  | _ => exact Or.inl hid

/-- A claim that is denied as concurrent is unused, but in use. -/
theorem HandoffPiece.denied_concurrent (h : HandoffPiece sha256 start memory r)
    (hdenied : r.2.2 = .denied .CONCURRENT_HANDOFF) : Unused start memory ∧ start.claim.id ∈ memory.active := by
  cases h with
  | kept code hcode => exact absurd (HandoffPoint.denied.inj hdenied) hcode
  | purged code hcode => exact absurd (HandoffPoint.denied.inj hdenied) hcode
  | concurrent hnow hlive hunused hactive => exact ⟨⟨_, hnow, hlive, hunused⟩, hactive⟩
  | written => cases hdenied

end Pieces

/-! ### What a run keeps -/

section Runs

variable (sha256 : String → String)

/-- What holds after every run with claims that keep their names and a clock that keeps expiries. -/
structure HandoffInvariant (moves : List (Move HandoffStart HandoffReply)) : Prop where
  started : ∀ w ∈ handoffWrites sha256 moves, ∃ a, Move.start a ∈ moves ∧ a.claim = w.claim
  faithful : ∀ w ∈ handoffWrites sha256 moves, w.Faithful sha256
  /-- A claim that was written is remembered until the clock reaches its expiry. -/
  remembered : ∀ w ∈ handoffWrites sha256 moves,
    ((egressController sha256).pool empty moves).shared.used.get? w.claim.id = some w.claim.expiresAt
      ∨ ∃ r ∈ moves.flatMap handoffReadings, w.claim.expiresAt ≤ r
  active : ∀ id ∈ ((egressController sha256).pool empty moves).shared.active,
    ∃ w ∈ handoffWrites sha256 moves, w.claim.id = id
  once : ∀ id, (handoffWrites sha256 moves).countP (fun w => decide (w.claim.id = id)) ≤ 1
  /-- Only the transport denies a call as concurrent. -/
  sequential : ∀ i call, ((egressController sha256).pool empty moves).calls[i]? = some call →
    call.point = .denied .CONCURRENT_HANDOFF →
      ∃ reply, .resume i reply ∈ moves ∧ reply.result = .error (some .CONCURRENT_HANDOFF)

variable {sha256} {moves : List (Move HandoffStart HandoffReply)}

/-- A claim that a first piece finds unused was not written before. -/
theorem HandoffInvariant.unseen (h : HandoffInvariant sha256 moves) {a : HandoffStart}
    (hclaims : SameClaims (moves ++ [.start a])) (hclock : KeepsExpiries (moves ++ [.start a]))
    (hunused : Unused a ((egressController sha256).pool empty moves).shared) :
    ∀ w ∈ handoffWrites sha256 moves, w.claim.id ≠ a.claim.id := by
  intro w hw hid
  obtain ⟨now, hnow, hlive, hunused⟩ := hunused
  obtain ⟨b, hb, hbw⟩ := h.started w hw
  have hsame : b.claim = a.claim := by
    refine hclaims b a (List.mem_append_left _ hb) (by simp) ?_
    rw [hbw, hid]
  rcases h.remembered w hw with hget | ⟨r, hr, hreached⟩
  · rw [hid, ← hbw, hsame] at hget
    rw [get?_purge_of_lt hget hlive] at hunused
    cases hunused
  · rw [← hbw] at hreached
    have hlater := hclock.reached hnow hb hr hreached
    rw [hsame] at hlater
    omega

variable (sha256 moves) in
theorem handoffWrites_start (a : HandoffStart) : handoffWrites sha256 (moves ++ [.start a])
    = handoffWrites sha256 moves
      ++ (beginHandoff sha256 a ((egressController sha256).pool empty moves).shared).1 := by
  unfold handoffWrites
  rw [CallSystem.shown_concat, List.flatten_append]
  simp only [CallSystem.step, Option.toList_some, List.flatten_singleton]
  rfl

variable (sha256 moves) in
theorem handoffWrites_resume (i : Nat) (reply : HandoffReply) :
    handoffWrites sha256 (moves ++ [.resume i reply]) = handoffWrites sha256 moves := by
  unfold handoffWrites
  rw [CallSystem.shown_concat, List.flatten_append]
  cases hcall : ((egressController sha256).pool empty moves).calls[i]? with
  | none =>
    rw [CallSystem.step_resume_of_none _ hcall]
    simp
  | some call =>
    rw [CallSystem.step_resume_of_some _ hcall]
    simp [egressController]

variable (sha256 moves) in
theorem pool_start (a : HandoffStart) : (egressController sha256).pool empty (moves ++ [.start a])
    = ⟨(beginHandoff sha256 a ((egressController sha256).pool empty moves).shared).2.1,
      ((egressController sha256).pool empty moves).calls
        ++ [⟨a.claim, (beginHandoff sha256 a ((egressController sha256).pool empty moves).shared).2.2⟩]⟩ := by
  rw [CallSystem.pool_concat]
  rfl

/-- A resumption leaves what is remembered, and takes nothing into use. -/
theorem resumeHandoff_memory (reply : HandoffReply) (call : HandoffCall) (memory : EgressMemory) :
    (resumeHandoff reply call memory).1.used = memory.used
      ∧ ∀ id ∈ (resumeHandoff reply call memory).1.active, id ∈ memory.active := by
  unfold resumeHandoff
  split
  · unfold finishHandoff
    split
    · exact ⟨rfl, fun _ hid => hid⟩
    · exact ⟨rfl, fun _ hid => (List.mem_filter.mp hid).1⟩
  · exact ⟨rfl, fun _ hid => hid⟩

variable (sha256 moves) in
/-- A resumption leaves what is remembered, and takes nothing into use. -/
theorem memory_resume (i : Nat) (reply : HandoffReply) :
    ((egressController sha256).pool empty (moves ++ [.resume i reply])).shared.used
        = ((egressController sha256).pool empty moves).shared.used
      ∧ ∀ id ∈ ((egressController sha256).pool empty (moves ++ [.resume i reply])).shared.active,
        id ∈ ((egressController sha256).pool empty moves).shared.active := by
  rw [CallSystem.pool_concat]
  cases hcall : ((egressController sha256).pool empty moves).calls[i]? with
  | none =>
    rw [CallSystem.step_resume_of_none _ hcall]
    exact ⟨rfl, fun _ hid => hid⟩
  | some call =>
    rw [CallSystem.step_resume_of_some _ hcall]
    exact resumeHandoff_memory reply call _

/-- A call that is denied as concurrent when it is resumed was so before, or is by the transport. -/
theorem resumeHandoff_denied {reply : HandoffReply} {call : HandoffCall} {memory : EgressMemory}
    (h : (resumeHandoff reply call memory).2 = .denied .CONCURRENT_HANDOFF) :
    call.point = .denied .CONCURRENT_HANDOFF ∨ reply.result = .error (some .CONCURRENT_HANDOFF) := by
  unfold resumeHandoff at h
  split at h
  · refine Or.inr ?_
    unfold finishHandoff at h
    split at h
    · cases h
    · unfold completion at h
      split at h
      · rename_i code hresult
        cases code with
        | none => cases h
        | some code =>
          rw [hresult]
          exact congrArg (fun c => Except.error (some c)) (HandoffPoint.denied.inj h)
      · split at h
        · cases h
        · split at h
          · cases h
          · split at h <;> cases h
  · exact Or.inl h

/-- A start keeps the invariant. -/
theorem HandoffInvariant.start (h : HandoffInvariant sha256 moves) {a : HandoffStart}
    (hclaims : SameClaims (moves ++ [.start a])) (hclock : KeepsExpiries (moves ++ [.start a])) :
    HandoffInvariant sha256 (moves ++ [.start a]) := by
  have hpiece := handoffPiece_begin sha256 a ((egressController sha256).pool empty moves).shared
  have hunseen := h.unseen hclaims hclock
  have hpool := pool_start sha256 moves a
  have hwrites := handoffWrites_start sha256 moves a
  generalize beginHandoff sha256 a ((egressController sha256).pool empty moves).shared = r
    at hpiece hpool hwrites
  constructor
  case started =>
    intro w hw
    rw [hwrites] at hw
    rcases List.mem_append.mp hw with hold | hnew
    · obtain ⟨b, hb, hbw⟩ := h.started w hold
      exact ⟨b, List.mem_append_left _ hb, hbw⟩
    · exact ⟨a, by simp, (hpiece.wrote hnew).1.symm⟩
  case faithful =>
    intro w hw
    rw [hwrites] at hw
    rcases List.mem_append.mp hw with hold | hnew
    · exact h.faithful w hold
    · exact (hpiece.wrote hnew).2.1
  case remembered =>
    intro w hw
    rw [hwrites] at hw
    rw [hpool, List.flatMap_append]
    rcases List.mem_append.mp hw with hold | hnew
    · rcases h.remembered w hold with hget | ⟨reading, hreading, hreached⟩
      · rcases hpiece.remembers hget with hkept | ⟨now, hnow, hreached⟩
        · exact Or.inl hkept
        · refine Or.inr ⟨now, List.mem_append_right _ ?_, hreached⟩
          simp [handoffReadings, hnow]
      · exact Or.inr ⟨reading, List.mem_append_left _ hreading, hreached⟩
    · exact Or.inl (hpiece.wrote hnew).2.2.2
  case active =>
    intro id hid
    rw [hpool] at hid
    rw [hwrites]
    rcases hpiece.active hid with hold | ⟨w, hw, hwid⟩
    · obtain ⟨w, hw, hwid⟩ := h.active id hold
      exact ⟨w, List.mem_append_left _ hw, hwid⟩
    · exact ⟨w, List.mem_append_right _ hw, hwid⟩
  case once =>
    intro id
    rw [hwrites, List.countP_append]
    by_cases hid : ∃ w ∈ r.1, w.claim.id = id
    · obtain ⟨w, hw, rfl⟩ := hid
      obtain ⟨hclaim, -, hunused, -⟩ := hpiece.wrote hw
      have hbefore : (handoffWrites sha256 moves).countP (fun w' => decide (w'.claim.id = w.claim.id)) = 0 := by
        rw [List.countP_eq_zero]
        intro w' hw'
        rw [decide_eq_true_eq, hclaim]
        exact hunseen hunused w' hw'
      have hnew := (List.countP_le_length (p := fun w' => decide (w'.claim.id = w.claim.id)) (l := r.1)).trans
        hpiece.length_le
      omega
    · have hnew : r.1.countP (fun w => decide (w.claim.id = id)) = 0 := by
        rw [List.countP_eq_zero]
        intro w hw
        rw [decide_eq_true_eq]
        exact fun hwid => hid ⟨w, hw, hwid⟩
      have hbefore := h.once id
      omega
  case sequential =>
    intro i call hcall hdenied
    rw [hpool] at hcall
    rw [List.getElem?_append] at hcall
    split at hcall
    · obtain ⟨reply, hreply, hresult⟩ := h.sequential i call hcall hdenied
      exact ⟨reply, List.mem_append_left _ hreply, hresult⟩
    · exfalso
      obtain rfl := List.mem_singleton.mp (List.mem_of_getElem? hcall)
      obtain ⟨hunused, hactive⟩ := hpiece.denied_concurrent hdenied
      obtain ⟨w, hw, hwid⟩ := h.active _ hactive
      exact hunseen hunused w hw hwid

/-- A resumption keeps the invariant. -/
theorem HandoffInvariant.resume (h : HandoffInvariant sha256 moves) (i : Nat) (reply : HandoffReply) :
    HandoffInvariant sha256 (moves ++ [.resume i reply]) := by
  obtain ⟨hused, hactive⟩ := memory_resume sha256 moves i reply
  have hwrites := handoffWrites_resume sha256 moves i reply
  constructor
  case started =>
    intro w hw
    rw [hwrites] at hw
    obtain ⟨b, hb, hbw⟩ := h.started w hw
    exact ⟨b, List.mem_append_left _ hb, hbw⟩
  case faithful =>
    rw [hwrites]
    exact h.faithful
  case remembered =>
    intro w hw
    rw [hwrites] at hw
    rw [hused, List.flatMap_append]
    rcases h.remembered w hw with hget | ⟨reading, hreading, hreached⟩
    · exact Or.inl hget
    · exact Or.inr ⟨reading, List.mem_append_left _ hreading, hreached⟩
  case active =>
    intro id hid
    rw [hwrites]
    exact h.active id (hactive id hid)
  case once =>
    rw [hwrites]
    exact h.once
  case sequential =>
    intro j call hcall hdenied
    have hold : ∀ call, ((egressController sha256).pool empty moves).calls[j]? = some call →
        call.point = .denied .CONCURRENT_HANDOFF → ∃ reply', .resume j reply' ∈ moves ++ [.resume i reply]
          ∧ reply'.result = .error (some .CONCURRENT_HANDOFF) := by
      intro call hcall hdenied
      obtain ⟨reply', hreply', hresult⟩ := h.sequential j call hcall hdenied
      exact ⟨reply', List.mem_append_left _ hreply', hresult⟩
    rw [CallSystem.pool_concat] at hcall
    cases hbefore : ((egressController sha256).pool empty moves).calls[i]? with
    | none =>
      rw [CallSystem.step_resume_of_none _ hbefore] at hcall
      exact hold call hcall hdenied
    | some before =>
      rw [CallSystem.step_resume_of_some _ hbefore] at hcall
      by_cases hij : i = j
      · subst hij
        rw [List.getElem?_set_self (List.getElem?_eq_some_iff.mp hbefore).1, Option.some.injEq] at hcall
        subst hcall
        rcases resumeHandoff_denied hdenied with hdenied | hresult
        · exact hold before hbefore hdenied
        · exact ⟨reply, by simp, hresult⟩
      · rw [List.getElem?_set_ne hij] at hcall
        exact hold call hcall hdenied

/-- **What every run keeps** in which an id names one claim, and the clock keeps the expiries. -/
theorem handoffInvariant (hclaims : SameClaims moves) (hclock : KeepsExpiries moves) :
    HandoffInvariant sha256 moves := by
  induction moves using List.reverseRecOn with
  | nil =>
    have hwrites : ∀ w, w ∉ handoffWrites sha256 [] := fun w => List.not_mem_nil
    refine ⟨fun w hw => absurd hw (hwrites w), fun w hw => absurd hw (hwrites w), fun w hw => absurd hw (hwrites w),
      fun id hid => absurd hid List.not_mem_nil, fun id => Nat.zero_le 1, fun i call hcall => ?_⟩
    exact absurd (List.mem_of_getElem? hcall) List.not_mem_nil
  | append_singleton moves move ih =>
    have hbefore := ih hclaims.of_concat hclock.of_concat
    cases move with
    | start a => exact hbefore.start hclaims hclock
    | resume i reply => exact hbefore.resume i reply

/-- **A claim is handed off at most once, and faithfully**, as long as an id names one claim and the clock keeps the
expiries. -/
theorem handed_off_at_most_once (hclaims : SameClaims moves) (hclock : KeepsExpiries moves) :
    (∀ id, (handoffWrites sha256 moves).countP (fun w => decide (w.claim.id = id)) ≤ 1)
      ∧ (∀ w ∈ handoffWrites sha256 moves, w.Faithful sha256)
      ∧ ∀ i call, ((egressController sha256).pool empty moves).calls[i]? = some call →
        call.point = .denied .CONCURRENT_HANDOFF →
          ∃ reply, .resume i reply ∈ moves ∧ reply.result = .error (some .CONCURRENT_HANDOFF) :=
  let h := handoffInvariant hclaims hclock
  ⟨h.once, h.faithful, h.sequential⟩

end Runs

/-! ## The size of a line -/

theorem propertyOrder_perm (fields : List (String × Json)) : (Durable.propertyOrder fields).Perm fields := by
  unfold Durable.propertyOrder
  refine ((sortBy_perm _ _).append_right _).trans ?_
  have hsplit := List.filter_append_perm (fun field : String × Json => (Durable.arrayIndex? field.1).isSome) fields
  simpa only [Bool.not_eq_true', Option.not_isSome] using hsplit

theorem canonicalFields_eq_map (fields : List (String × Json)) :
    Durable.canonicalFields fields = fields.map fun field => (field.1, Durable.canonical field.2) := by
  induction fields with
  | nil => rfl
  | cons field rest ih => exact congrArg _ ih

/-- How long the text of a field is at most, with a comma and a colon. -/
def fieldLength (field : String × Json) : Nat :=
  6 * field.1.toList.length + 4 + (Durable.canonical field.2).text.length

theorem length_quoted_le (s : String) : (quoted s).length ≤ 6 * s.toList.length + 2 := by
  have hbody : ∀ cs : List Char, (quoteBody cs).length ≤ 6 * cs.length := by
    intro cs
    induction cs with
    | nil => exact Nat.le_refl 0
    | cons c cs ih =>
      have hchar : (quoteChar c).length ≤ 6 := by
        unfold quoteChar
        repeat' split
        all_goals simp
      have hcons : quoteBody (c :: cs) = quoteChar c ++ quoteBody cs := List.flatMap_cons
      rw [hcons, List.length_append, List.length_cons]
      omega
  have h := hbody s.toList
  simp only [quoted, List.length_cons, List.length_append, List.length_nil]
  omega

theorem length_fieldsText_le (fields : List (String × Json)) : (Json.fieldsText fields).length
    ≤ 1 + (fields.map fun field => 6 * field.1.toList.length + 4 + field.2.text.length).sum := by
  induction fields with
  | nil => exact Nat.le_refl 1
  | cons field rest ih =>
    have hname := length_quoted_le field.1
    simp only [Json.fieldsText, List.length_cons, List.length_append, List.map_cons, List.sum_cons]
    omega

/-- The text of a record is no longer than those of its fields. -/
theorem length_canonical_obj_le (fields : List (String × Json)) :
    (Durable.canonical (.obj fields)).text.length ≤ 2 + (fields.map fieldLength).sum := by
  have hperm : (Durable.propertyOrder
      ((Durable.canonicalFields fields).insertionSort fun a b => Coo.textLe a.1 b.1)).Perm
      (fields.map fun field => (field.1, Durable.canonical field.2)) := by
    rw [← canonicalFields_eq_map]
    exact (propertyOrder_perm _).trans (List.perm_insertionSort _ _)
  have hsum := (hperm.map fun field => 6 * field.1.toList.length + 4 + field.2.text.length).sum_eq
  rw [List.map_map] at hsum
  rw [show fieldLength = (fun field => 6 * field.1.toList.length + 4 + field.2.text.length)
    ∘ fun field : String × Json => (field.1, Durable.canonical field.2) from rfl, ← hsum, Durable.canonical]
  cases Durable.propertyOrder ((Durable.canonicalFields fields).insertionSort fun a b => Coo.textLe a.1 b.1) with
  | nil => exact Nat.le_refl 2
  | cons field rest =>
    have hname := length_quoted_le field.1
    have hrest := length_fieldsText_le rest
    simp only [Json.text, List.length_cons, List.length_append, List.map_cons, List.sum_cons]
    omega

theorem length_canonical_str_le (s : String) :
    (Durable.canonical (.str s)).text.length ≤ 6 * s.toList.length + 2 := by
  have hcanonical : Durable.canonical (.str s) = .str s := by simp only [Durable.canonical]
  rw [hcanonical]
  exact length_quoted_le s

theorem size_toUTF8_le (l : List Char) : (String.ofList l).toUTF8.size ≤ 4 * l.length := by
  induction l with
  | nil => decide
  | cons c l ih =>
    have hsize := Char.utf8Size_le_four c
    rw [String.toUTF8_eq_toByteArray, String.toByteArray_ofList] at ih ⊢
    rw [List.utf8Encode_cons, ByteArray.size_append]
    simp [List.utf8Encode] at ih ⊢
    omega

theorem fieldLength_str_le {name s : String} (hname : name.toList.length ≤ 25) (hs : s.toList.length ≤ 64) :
    fieldLength (name, .str s) ≤ 540 := by
  have htext := length_canonical_str_le s
  simp only [fieldLength]
  omega

theorem sum_fieldLength_le {fields : List (String × Json)} {n : Nat} (h : ∀ field ∈ fields, fieldLength field ≤ n) :
    (fields.map fieldLength).sum ≤ fields.length * n := by
  have hsum := List.sum_le_card_nsmul (fields.map fieldLength) n (List.forall_mem_map.mpr h)
  rwa [List.length_map, nsmul_eq_mul] at hsum

/-! ## Two claims of one frame -/

namespace Sample

section Claims

variable (sha256 : String → String)

/-- The frame of a dispatch. -/
def frame : BridgeEnvelope := (input sha256).dispatchEnvelope

/-- A claim of the frame. -/
def handoffClaim (id : String) (claimedAt expiresAt : Int) : CodexValidationEgressHandoffClaim where
  id := id
  workspaceId := "w"
  validationDispatchCandidateHash := (dispatch sha256).validationDispatchCandidateHash
  heartbeatCandidateHash := (dispatch sha256).heartbeatCandidateHash
  ownerReference := "owner"
  ownerActorKind := .SYSTEM
  claimIdempotencyKey := "claim"
  runtimeId := "r"
  connectionId := "c"
  sessionId := "s"
  dispatchId := "d"
  taskId := "t"
  runId := "run"
  agentId := "a"
  authorityLevel := 1
  taskPolicyHash := (dispatch sha256).taskPolicyHash
  maximumComputeUnits := 1
  maximumDurationMs := 1000
  messageId := "d"
  payloadDigest := (dispatch sha256).payloadDigest
  unsignedEnvelopeDigest := (dispatch sha256).unsignedEnvelopeDigest
  signedEnvelopeDigest := digestOf sha256 (frame sha256).toJson
  authenticationTagDigest := sha256 (frame sha256).mac
  validationIssuedAt := 0
  validationExpiresAt := 60000
  claimedAt := claimedAt
  expiresAt := expiresAt

/-- What is known of the texts of a claim, and of the short fields of its frame. -/
theorem texts_short :
    (["w", "owner", "claim", "r", "c", "s", "d", "t", "run", "a", "handoff-a", "handoff-b"].all isEgressReference) = true
    ∧ isPlainText "AAAAAAAAAAAAAAAAAAAAAAAAAAAAAAAAAAAAAAAAAAA" = true ∧ isPlainName "mac" = true
    ∧ ([("schemaVersion", Json.int 1), ("authorityLevel", .int 1), ("sequence", .int 1)].all
        fun field => fieldLength field ≤ 540) = true
    ∧ "AAAAAAAAAAAAAAAAAAAAAAAAAAAAAAAAAAAAAAAAAAA".toList.length = 43 := by
  decide

theorem egressReferences_ok :
    ∀ s ∈ ["w", "owner", "claim", "r", "c", "s", "d", "t", "run", "a", "handoff-a", "handoff-b"],
      isEgressReference s = true :=
  List.all_eq_true.mp texts_short.1

theorem fieldLength_int_le : ∀ field ∈ [("schemaVersion", Json.int 1), ("authorityLevel", .int 1),
    ("sequence", .int 1)], fieldLength field ≤ 540 :=
  fun field hfield => of_decide_eq_true (List.all_eq_true.mp texts_short.2.2.2.1 field hfield)

variable {sha256} (hdigest : ∀ s, Durable.sha256Pattern (sha256 s) = true)
include hdigest

theorem claim_valid {id : String} {claimedAt expiresAt : Int} (hid : isEgressReference id = true)
    (hclaimed : 0 ≤ claimedAt) (hlive : claimedAt < expiresAt) (hshort : expiresAt ≤ claimedAt + 15000)
    (hwindow : expiresAt ≤ 60000) : validateClaim (handoffClaim sha256 id claimedAt expiresAt) = .ok () := by
  have hreferences := egressReferences_ok
  simp only [List.forall_mem_cons] at hreferences
  simp only [validateClaim, check_bind_eq_ok]
  simp [handoffClaim, dispatch, dispatchOf, framedOf, draftOf, digestOf, hreferences, hid, hdigest, isSafeInteger,
    maxSafeInteger, maxClaimMs]
  omega

/-- The frame is a record that can be hashed. -/
theorem frame_checked : checkCanonical (frame sha256).toJson = .ok () := by
  obtain ⟨-, hmac, hnames, -⟩ := texts_short
  have hunsigned : Plain sha256 sd (unsignedEnvelope (framedOf sha256 sd)).toJson := unsigned_plain
  cases hunsigned with
  | record hlength hnamed hvalues =>
    refine checkCanonical_obj ?_ fun field hfield => ?_
    · simp
    · rcases List.mem_append.mp hfield with hold | hnew
      · exact ⟨isPlainName_of_mem _ hnamed _ (List.mem_map_of_mem hold),
          (hvalues field hold).checkCanonical_eq_ok hdigest sd_safe⟩
      · rw [List.mem_singleton.mp hnew]
        exact ⟨hnames, checkCanonical_str hmac⟩

theorem payload_short : (Durable.canonical (.obj (frame sha256).payload)).text.length ≤ 6000 := by
  have hdigests : ∀ s, (sha256 s).toList.length ≤ 64 :=
    fun s => Nat.le_of_eq (of_decide_eq_true (Bool.and_eq_true_iff.mp (hdigest s)).1)
  have hints := fieldLength_int_le
  have hfields : ∀ field ∈ codexValidationDispatchPayload (dispatchOf sha256 sd), fieldLength field ≤ 540 := by
    simp only [codexValidationDispatchPayload, dispatchOf, framedOf, draftOf, List.forall_mem_cons]
    simp only [List.forall_mem_cons] at hints
    refine ⟨hints.1, ?_, ?_, ?_, ?_, ?_, hints.2.1, ?_, ?_, ?_, ?_, fun _ hfield => absurd hfield List.not_mem_nil⟩
    all_goals first
      | exact fieldLength_str_le (by decide) (hdigests _)
      | exact fieldLength_str_le (by decide) (by decide)
  have hsum := sum_fieldLength_le hfields
  have hlength := length_canonical_obj_le (codexValidationDispatchPayload (dispatchOf sha256 sd))
  have hcount : (codexValidationDispatchPayload (dispatchOf sha256 sd)).length = 11 := rfl
  rw [hcount] at hsum
  exact hlength.trans (by omega)

theorem frame_short : (Durable.canonical (frame sha256).toJson).text.length ≤ 16000 := by
  have hpayloadDigest : (dispatch sha256).payloadDigest.toList.length ≤ 64 :=
    Nat.le_of_eq (of_decide_eq_true (Bool.and_eq_true_iff.mp (hdigest _)).1)
  let scalars : List (String × Json) := [
    ("protocolVersion", .str bridgeProtocolVersion), ("workspaceId", .str "w"), ("runtimeId", .str "r"),
    ("connectionId", .str "c"), ("sessionId", .str "s"), ("principalReference", .str "p"), ("sequence", .int 1),
    ("messageId", .str "d"), ("type", .str "DISPATCH"), ("issuedAt", .str "1970-01-01T00:00:00.000Z"),
    ("expiresAt", .str "1970-01-01T00:01:00.000Z"), ("payloadDigest", .str (dispatch sha256).payloadDigest)]
  have hfields : (frame sha256).toJson
      = .obj (scalars ++ [("payload", .obj (frame sha256).payload), ("mac", .str (frame sha256).mac)]) := by
    simp only [scalars]
    rw [← timestamp_start, ← timestamp_end]
    rfl
  have hsequence := fieldLength_int_le ("sequence", .int 1) (by simp)
  have hscalars : ∀ field ∈ scalars, fieldLength field ≤ 540 := by
    simp only [scalars, List.forall_mem_cons]
    refine ⟨?_, ?_, ?_, ?_, ?_, ?_, hsequence, ?_, ?_, ?_, ?_, fieldLength_str_le (by decide) hpayloadDigest,
      fun _ hfield => absurd hfield List.not_mem_nil⟩
    all_goals exact fieldLength_str_le (by decide) (by decide)
  have hsum := sum_fieldLength_le hscalars
  have hcount : scalars.length = 12 := rfl
  have hpayload : fieldLength ("payload", .obj (frame sha256).payload) ≤ 6046 := by
    have hname : "payload".toList.length = 7 := by decide
    have hshort := payload_short hdigest
    simp only [fieldLength, hname]
    omega
  have hmac : fieldLength ("mac", .str (frame sha256).mac) ≤ 540 := by
    have hlength : (frame sha256).mac.toList.length = 43 := texts_short.2.2.2.2
    exact fieldLength_str_le (by decide) (by omega)
  have hlength := length_canonical_obj_le
    (scalars ++ [("payload", .obj (frame sha256).payload), ("mac", .str (frame sha256).mac)])
  have htail : ∀ a b, ([a, b].map fieldLength).sum = fieldLength a + fieldLength b := fun a b => by simp
  rw [← hfields, List.map_append, List.sum_append, htail] at hlength
  omega

/-- The frame can be written. -/
theorem frame_encoded : ∃ line, encodeBridgeLine (frame sha256) = .ok line := by
  have htext : canonicalJson (frame sha256).toJson
      = .ok (String.ofList (Durable.canonical (frame sha256).toJson).text) := by
    rw [canonicalJson, frame_checked hdigest]
    rfl
  have hsize : ¬ maxBridgeLineBytes
      < (String.ofList (Durable.canonical (frame sha256).toJson).text ++ "\n").toUTF8.size := by
    have hshort := frame_short hdigest
    have hline := size_toUTF8_le ((Durable.canonical (frame sha256).toJson).text ++ ['\n'])
    rw [List.length_append, List.length_singleton, String.ofList_append] at hline
    rw [maxBridgeLineBytes]
    have hnewline : String.ofList ['\n'] = "\n" := by decide
    rw [hnewline] at hline
    omega
  refine ⟨(String.ofList (Durable.canonical (frame sha256).toJson).text ++ "\n").toUTF8, ?_⟩
  rw [encodeBridgeLine, check_bind_eq_ok]
  refine ⟨envelope_valid hdigest sd_safe, ?_⟩
  rw [htext, except_bind_eq_ok]
  refine ⟨_, rfl, ?_⟩
  rw [check_bind_eq_ok, throwIf_eq_ok]
  exact ⟨hsize, rfl⟩

theorem frame_claimed (id : String) (claimedAt expiresAt : Int) :
    validateFrame sha256 (handoffClaim sha256 id claimedAt expiresAt) (frame sha256) = .ok () := by
  have hunsigned : hash sha256 (frame sha256).toUnsignedEnvelope.toJson
      = .ok (dispatch sha256).unsignedEnvelopeDigest := hash_eq_ok hdigest sd_safe unsigned_plain
  have hsigned : hash sha256 (frame sha256).toJson = .ok (digestOf sha256 (frame sha256).toJson) := by
    rw [hash, canonicalJson, frame_checked hdigest]
    rfl
  have hdigests : sameDigests sha256 (handoffClaim sha256 id claimedAt expiresAt) (frame sha256) = .ok true := by
    rw [sameDigests, except_bind_eq_ok]
    refine ⟨_, hunsigned, ?_⟩
    rw [except_bind_eq_ok]
    refine ⟨_, hsigned, ?_⟩
    exact congrArg Except.ok (decide_eq_true ⟨rfl, rfl, rfl, rfl⟩)
  have hkeys : ((frame sha256).payload.map Prod.fst).isPerm payloadKeys = true := by
    show ["schemaVersion", "challengeCode", "dispatchId", "taskId", "runId", "agentId", "authorityLevel",
      "taskPolicyHash", "registrationCandidateHash", "capabilityCandidateHash", "heartbeatCandidateHash"].isPerm
      payloadKeys = true
    decide
  have hfields : ∀ field ∈ [("challengeCode", codexValidationChallenge), ("dispatchId", "d"), ("taskId", "t"),
      ("runId", "run"), ("agentId", "a"), ("taskPolicyHash", (dispatch sha256).taskPolicyHash),
      ("heartbeatCandidateHash", (dispatch sha256).heartbeatCandidateHash)],
      hasText (frame sha256).payload field.1 field.2 = true := by
    simp only [List.forall_mem_cons]
    exact ⟨hasText_of_lookup rfl, hasText_of_lookup rfl, hasText_of_lookup rfl, hasText_of_lookup rfl,
      hasText_of_lookup rfl, hasText_of_lookup rfl, hasText_of_lookup rfl, fun _ hfield => absurd hfield List.not_mem_nil⟩
  have hnumbers : hasInteger (frame sha256).payload "schemaVersion" 1 = true
      ∧ hasInteger (frame sha256).payload "authorityLevel" 1 = true := ⟨rfl, rfl⟩
  simp only [List.forall_mem_cons] at hfields
  simp only [validateFrame, check_bind_eq_ok, throwIf_eq_ok]
  refine ⟨by rw [hkeys]; exact Bool.noConfusion, ?_, fun h => h hdigests⟩
  simp [handoffClaim, hfields, hnumbers]
  simp [frame, input, inputOf, dispatch, dispatchOf, framedOf, draftOf, unsignedEnvelope, sd]

/-! ### Runs -/

omit hdigest in
/-- A call of `handoff` at a time. -/
def handoffStart (sha256 : String → String) (id : String) (claimedAt expiresAt now : Int) : HandoffStart :=
  ⟨handoffClaim sha256 id claimedAt expiresAt, frame sha256, none, false, some now⟩

omit hdigest in
/-- Within the time that is left, at most five seconds, a claim that is unused is written. -/
theorem writeHandoff_eq {start : HandoffStart} {now : Int} {memory : EgressMemory}
    (hlive : now < start.claim.expiresAt) (htimeout : start.timeoutMs = none) (haborted : start.aborted = false)
    (hunused : (memory.purge now).used.has start.claim.id = false)
    (hactive : start.claim.id ∉ (memory.purge now).active) :
    writeHandoff start encoded now memory
      = ([⟨start.claim, encoded, now⟩],
        ⟨start.claim.id :: memory.active, (memory.purge now).used.set start.claim.id start.claim.expiresAt⟩,
        .writing) := by
  have hsafe : isSafeInteger (min maxWriteMs (start.claim.expiresAt - now)) = true := by
    rw [isSafeInteger, decide_eq_true_eq, maxWriteMs, maxSafeInteger]
    omega
  have hexpiry : ¬ start.claim.expiresAt - now ≤ 0 := by omega
  have hbounds : ¬ (isSafeInteger (min maxWriteMs (start.claim.expiresAt - now)) = false
      ∨ min maxWriteMs (start.claim.expiresAt - now) < 1
      ∨ maxWriteMs < min maxWriteMs (start.claim.expiresAt - now)
      ∨ start.claim.expiresAt - now < min maxWriteMs (start.claim.expiresAt - now)) := by
    rw [hsafe, maxWriteMs]
    simp only [Bool.true_eq_false, false_or]
    omega
  unfold writeHandoff
  simp only [htimeout, Option.getD_none]
  rw [if_neg hexpiry, if_neg hbounds, haborted, if_neg (by decide), hunused, if_neg (by decide), if_neg hactive]
  rfl

/-- A handoff that finds its claim unused is written. -/
theorem begin_written {id : String} {claimedAt expiresAt now : Int} {memory : EgressMemory}
    (hid : isEgressReference id = true) (hclaimed : 0 ≤ claimedAt) (hlive : claimedAt < expiresAt)
    (hshort : expiresAt ≤ claimedAt + 15000) (hwindow : expiresAt ≤ 60000)
    (hnow : now < expiresAt) (hunused : (memory.purge now).used.has id = false)
    (hactive : id ∉ (memory.purge now).active) :
    ∃ line, beginHandoff sha256 (handoffStart sha256 id claimedAt expiresAt now) memory
      = ([⟨handoffClaim sha256 id claimedAt expiresAt, line, now⟩],
        ⟨id :: memory.active, (memory.purge now).used.set id expiresAt⟩, .writing) := by
  obtain ⟨line, hline⟩ := frame_encoded hdigest
  have hcheck : checkHandoff sha256 (handoffClaim sha256 id claimedAt expiresAt) (frame sha256) = .ok line := by
    rw [checkHandoff, check_bind_eq_ok]
    refine ⟨claim_valid hdigest hid hclaimed hlive hshort hwindow, ?_⟩
    rw [hline]
    dsimp only
    rw [check_bind_eq_ok]
    exact ⟨frame_claimed hdigest id claimedAt expiresAt, rfl⟩
  refine ⟨line, ?_⟩
  have hbegin : beginHandoff sha256 (handoffStart sha256 id claimedAt expiresAt now) memory
      = writeHandoff (handoffStart sha256 id claimedAt expiresAt now) line now memory := by
    simp only [beginHandoff, handoffStart, hcheck]
  rw [hbegin]
  exact writeHandoff_eq hnow rfl rfl hunused hactive

/-- The transport accepts the line. -/
def wroteAt (completedAt : Int) : HandoffReply := ⟨.ok (), false, false, some completedAt⟩

/-- The transport throws the error of another controller. -/
def relayed : HandoffReply := ⟨.error (some .CONCURRENT_HANDOFF), false, false, none⟩

variable (sha256) in
/-- A claim is handed off, and after it another one. -/
def handedOff : List (Move HandoffStart HandoffReply) := [
  .start (handoffStart sha256 "handoff-a" 0 10000 5000), .resume 0 (wroteAt 5001),
  .start (handoffStart sha256 "handoff-b" 20000 30000 20000)]

variable (sha256) in
/-- Then the clock is set back, and the first claim comes again. -/
def setBack : List (Move HandoffStart HandoffReply) :=
  handedOff sha256 ++ [.start (handoffStart sha256 "handoff-a" 0 10000 6000)]

omit hdigest in
theorem setBack_sameClaims : SameClaims (setBack sha256) := by
  have hstarts : ∀ a, .start a ∈ setBack sha256 →
      a.claim = handoffClaim sha256 "handoff-a" 0 10000 ∨ a.claim = handoffClaim sha256 "handoff-b" 20000 30000 := by
    intro a ha
    simp only [setBack, handedOff, List.cons_append, List.nil_append, List.mem_cons, Move.start.injEq, reduceCtorEq,
      List.not_mem_nil, or_false, false_or] at ha
    rcases ha with rfl | rfl | rfl
    · exact Or.inl rfl
    · exact Or.inr rfl
    · exact Or.inl rfl
  have hne : (handoffClaim sha256 "handoff-a" 0 10000).id ≠ (handoffClaim sha256 "handoff-b" 20000 30000).id := by
    show "handoff-a" ≠ "handoff-b"
    decide
  intro a b ha hb hid
  rcases hstarts a ha with ha | ha <;> rcases hstarts b hb with hb | hb
  · rw [ha, hb]
  · rw [ha, hb] at hid
    exact absurd hid hne
  · rw [ha, hb] at hid
    exact absurd hid.symm hne
  · rw [ha, hb]

/-- The first claim is written twice. -/
theorem setBack_writes :
    (handoffWrites sha256 (setBack sha256)).countP (fun w => decide (w.claim.id = "handoff-a")) = 2 := by
  have hid : isEgressReference "handoff-a" = true ∧ isEgressReference "handoff-b" = true :=
    ⟨egressReferences_ok _ (by decide), egressReferences_ok _ (by decide)⟩
  let controller := egressController sha256
  let first : EgressMemory := ⟨["handoff-a"], OrderedMap.empty.set "handoff-a" 10000⟩
  let second : EgressMemory := ⟨["handoff-b"], ((first.release "handoff-a").purge 20000).used.set "handoff-b" 30000⟩
  obtain ⟨lineA, hA⟩ := @begin_written sha256 hdigest "handoff-a" 0 10000 5000 empty hid.1 (by decide) (by decide)
    (by decide) (by decide) (by decide) (by decide) (by decide)
  obtain ⟨lineB, hB⟩ := @begin_written sha256 hdigest "handoff-b" 20000 30000 20000 (first.release "handoff-a") hid.2
    (by decide) (by decide) (by decide) (by decide) (by decide) (by decide) (by decide)
  obtain ⟨lineA', hA'⟩ := @begin_written sha256 hdigest "handoff-a" 0 10000 6000 second hid.1 (by decide) (by decide)
    (by decide) (by decide) (by decide) (by decide) (by decide)
  have hempty : controller.pool empty [] = ⟨empty, []⟩ := rfl
  have hstartA : controller.start (handoffStart sha256 "handoff-a" 0 10000 5000) empty
      = ([⟨_, lineA, 5000⟩], first, ⟨_, .writing⟩) :=
    congrArg (fun r => (r.1, r.2.1, (⟨handoffClaim sha256 "handoff-a" 0 10000, r.2.2⟩ : HandoffCall))) hA
  have hwritten : controller.resume (wroteAt 5001) ⟨handoffClaim sha256 "handoff-a" 0 10000, .writing⟩ first
      = ([], first.release "handoff-a", ⟨_, .returned⟩) := rfl
  have hstartB : controller.start (handoffStart sha256 "handoff-b" 20000 30000 20000) (first.release "handoff-a")
      = ([⟨_, lineB, 20000⟩], second, ⟨_, .writing⟩) :=
    congrArg (fun r => (r.1, r.2.1, (⟨handoffClaim sha256 "handoff-b" 20000 30000, r.2.2⟩ : HandoffCall))) hB
  have hstartA' : controller.start (handoffStart sha256 "handoff-a" 0 10000 6000) second
      = ([⟨_, lineA', 6000⟩], _, ⟨_, .writing⟩) :=
    congrArg (fun r => (r.1, r.2.1, (⟨handoffClaim sha256 "handoff-a" 0 10000, r.2.2⟩ : HandoffCall))) hA'
  obtain ⟨h₁, hpool⟩ := controller.start_last hempty hstartA
  obtain ⟨h₂, hpool⟩ := controller.resume_at (i := 0) hpool rfl hwritten
  obtain ⟨h₃, hpool⟩ := controller.start_last hpool hstartB
  obtain ⟨h₄, -⟩ := controller.start_last hpool hstartA'
  rw [h₃, h₂, h₁] at h₄
  have hshown : controller.shown empty (setBack sha256) = _ := h₄
  rw [handoffWrites, show (egressController sha256).shown empty (setBack sha256) = _ from hshown]
  rfl

/-- The transport denies a handoff as concurrent. -/
theorem relayed_pool :
    ((egressController sha256).pool empty
        [.start (handoffStart sha256 "handoff-a" 0 10000 5000), .resume 0 relayed]).calls
      = [⟨handoffClaim sha256 "handoff-a" 0 10000, .denied .CONCURRENT_HANDOFF⟩] := by
  have hid : isEgressReference "handoff-a" = true := egressReferences_ok _ (by decide)
  let controller := egressController sha256
  let first : EgressMemory := ⟨["handoff-a"], OrderedMap.empty.set "handoff-a" 10000⟩
  obtain ⟨line, hA⟩ := @begin_written sha256 hdigest "handoff-a" 0 10000 5000 empty hid (by decide) (by decide)
    (by decide) (by decide) (by decide) (by decide) (by decide)
  have hempty : controller.pool empty [] = ⟨empty, []⟩ := rfl
  have hstart : controller.start (handoffStart sha256 "handoff-a" 0 10000 5000) empty
      = ([⟨_, line, 5000⟩], first, ⟨_, .writing⟩) :=
    congrArg (fun r => (r.1, r.2.1, (⟨handoffClaim sha256 "handoff-a" 0 10000, r.2.2⟩ : HandoffCall))) hA
  have hdenied : controller.resume relayed ⟨handoffClaim sha256 "handoff-a" 0 10000, .writing⟩ first
      = ([], first.release "handoff-a", ⟨_, .denied .CONCURRENT_HANDOFF⟩) := rfl
  obtain ⟨-, hpool⟩ := controller.start_last hempty hstart
  obtain ⟨-, hpool⟩ := controller.resume_at (i := 0) hpool rfl hdenied
  exact congrArg Pool.calls hpool

end Claims

end Sample

open Sample in
/-- Two claims, one after the other. -/
theorem handed_off_at_most_once_ordered :
    (∀ id, (handoffWrites textDigest (handedOff textDigest)).countP (fun w => decide (w.claim.id = id)) ≤ 1)
      ∧ (∀ w ∈ handoffWrites textDigest (handedOff textDigest), w.Faithful textDigest)
      ∧ ∀ i call, ((egressController textDigest).pool empty (handedOff textDigest)).calls[i]? = some call →
        call.point = .denied .CONCURRENT_HANDOFF →
          ∃ reply, .resume i reply ∈ handedOff textDigest ∧ reply.result = .error (some .CONCURRENT_HANDOFF) := by
  refine handed_off_at_most_once (@setBack_sameClaims textDigest).of_concat ?_
  have hreadings : (handedOff textDigest).flatMap handoffReadings = [5000, 5001, 20000] := rfl
  rw [KeepsExpiries, hreadings]
  have hordered : [(5000 : Int), 5001, 20000].Pairwise (· ≤ ·) := by decide
  exact hordered.imp fun h a _ hreached => hreached.trans h

open Sample in
/-- The clock is set back before an expiry that it has reached, and the claim is written again. A transport can
throw the error of a concurrent handoff, whatever is pending. -/
theorem handed_off_twice :
    (SameClaims (setBack textDigest)
        ∧ (handoffWrites textDigest (setBack textDigest)).countP (fun w => decide (w.claim.id = "handoff-a")) = 2)
      ∧ ((egressController textDigest).pool empty
          [.start (handoffStart textDigest "handoff-a" 0 10000 5000), .resume 0 relayed]).calls
        = [⟨handoffClaim textDigest "handoff-a" 0 10000, .denied .CONCURRENT_HANDOFF⟩] :=
  ⟨⟨setBack_sameClaims, setBack_writes textDigest_digest⟩, relayed_pool textDigest_digest⟩

end VentureOS.Bridge
