import VentureOS.Bridge.Dispatch
import VentureOS.Foundations.ReplayMemory

/-! # The runtime adapter

`BoundedCodexValidationRuntimeAdapter.execute`, split at every point at which it waits: for the secret lease under
which the frame of the dispatch is verified, for the runner, for the lease under which the runtime frames are
signed, and for the transport. What is waited for answers as it likes, and the clock is read by every piece. -/

namespace VentureOS.Bridge

/-! ## Evidence -/

/-- `CodexValidationProtocolEvidence`: the interruption is there when the status is `interrupted`. -/
structure ProtocolEvidence where
  threadId : String
  turnId : String
  messageHash : String
  progressEventCount : Int
  progressEvidenceHash : String
  tokenUsageEventCount : Int
  tokenUsageEvidenceHash : String
  usageAccountingState : String
  recognizedCostMinorUnits : Int
  recognizedComputeUnits : Int
  interruption : Option (Int × String)
  deriving DecidableEq, Repr

/-- `EMPTY_PROGRESS_EVIDENCE_HASH`. -/
def emptyProgressEvidenceHash : String := "801adbaf421a4c656b9ec0f28085e952a35d35212487487d5b95a95a7c3b6a64"

/-- `EMPTY_TOKEN_USAGE_EVIDENCE_HASH`. -/
def emptyTokenUsageEvidenceHash : String := "95c9cbcf9d54ee66ed622c5c6dc41d45949a816164405da6219991a9b3dde532"

/-- `usageAccountingState` of so many events. -/
def usageAccountingState (tokenUsageEventCount : Int) : String :=
  if tokenUsageEventCount = 0 then "NOT_OBSERVED" else "OBSERVED_UNMAPPED"

/-- `validateTerminal`. -/
def validateTerminal (terminal : ProtocolEvidence) : Except BridgeError Unit := do
  reference terminal.threadId
  reference terminal.turnId
  digest terminal.messageHash
  throwIf (isSafeInteger terminal.progressEventCount = false ∨ terminal.progressEventCount < 0
      ∨ 128 < terminal.progressEventCount ∨ isSafeInteger terminal.tokenUsageEventCount = false
      ∨ terminal.tokenUsageEventCount < 0 ∨ terminal.progressEventCount < terminal.tokenUsageEventCount
      ∨ (terminal.progressEventCount = 0 ∧ terminal.progressEvidenceHash ≠ emptyProgressEvidenceHash)
      ∨ (terminal.tokenUsageEventCount = 0 ∧ terminal.tokenUsageEvidenceHash ≠ emptyTokenUsageEvidenceHash)
      ∨ terminal.recognizedCostMinorUnits ≠ 0 ∨ terminal.recognizedComputeUnits ≠ 0
      ∨ terminal.usageAccountingState ≠ usageAccountingState terminal.tokenUsageEventCount)
    invalidInput
  digest terminal.progressEvidenceHash
  digest terminal.tokenUsageEvidenceHash
  match terminal.interruption with
  | none => return ()
  | some (requestId, responseHash) => do
    throwIf (isSafeInteger requestId = false ∨ requestId < 1) invalidInput
    digest responseHash

/-! ## Runtime frames -/

section Frames

variable (sha256 : String → String)

/-- What the frames of a dispatch have in common. -/
def runtimeEnvelope (bridge : BridgeContext) (sequence : Int) (messageId : String) (type : FrameType)
    (issuedAt expiresAt : Int) (payload : List (String × Json)) : Except BridgeError UnsignedEnvelope := do
  let payloadDigest ← hash sha256 (.obj payload)
  return {
    protocolVersion := bridgeProtocolVersion
    workspaceId := bridge.workspaceId
    runtimeId := bridge.runtimeId
    connectionId := bridge.connectionId
    sessionId := bridge.sessionId
    principalReference := bridge.principalReference
    sequence := sequence
    messageId := messageId
    type := type
    issuedAt := issuedAt
    expiresAt := expiresAt
    payloadDigest := payloadDigest
    payload := payload }

/-- `hash(dispatch.dispatchId).slice(0, 32)`, behind a label. -/
def labelled (label : String) (dispatch : CodexValidationDispatchCandidate) : Except BridgeError String := do
  let digest ← hash sha256 (.str dispatch.dispatchId)
  return s!"{label}:{String.ofList (digest.toList.take 32)}"

/-- The payload of the first frame. -/
def statusPayload (dispatch : CodexValidationDispatchCandidate) : List (String × Json) :=
  [("challengeCode", .str codexValidationChallenge),
    ("dispatchId", .str dispatch.dispatchId),
    ("taskId", .str dispatch.taskId),
    ("runId", .str dispatch.runId)]

/-- What a last frame says of the evidence. -/
def observationPayload (terminal : ProtocolEvidence) : List (String × Json) :=
  [("progressEventCount", .int terminal.progressEventCount),
    ("progressEvidenceHash", .str terminal.progressEvidenceHash),
    ("tokenUsageEventCount", .int terminal.tokenUsageEventCount),
    ("tokenUsageEvidenceHash", .str terminal.tokenUsageEvidenceHash),
    ("usageAccountingState", .str terminal.usageAccountingState),
    ("recognizedCostMinorUnits", .int 0),
    ("recognizedComputeUnits", .int 0)]

/-- `createUnsignedRuntimeEnvelope` with sequence 2. -/
def statusEnvelope (dispatch : CodexValidationDispatchCandidate) (bridge : BridgeContext)
    (issuedAt expiresAt : Int) : Except BridgeError UnsignedEnvelope := do
  let messageId ← labelled sha256 "validation-status" dispatch
  runtimeEnvelope sha256 bridge 2 messageId .DISPATCH_ACCEPTED issuedAt expiresAt (statusPayload dispatch)

/-- `createUnsignedRuntimeEnvelope` with sequence 3. -/
def terminalEnvelope (dispatch : CodexValidationDispatchCandidate) (bridge : BridgeContext)
    (terminal : ProtocolEvidence) (issuedAt expiresAt : Int) : Except BridgeError UnsignedEnvelope := do
  let messageId ← labelled sha256 "validation-result" dispatch
  runtimeEnvelope sha256 bridge 3 messageId .RESULT issuedAt expiresAt
    (statusPayload dispatch ++ [
      ("resultCode", .str "VALIDATION_COMPLETED"),
      ("terminalThreadId", .str terminal.threadId),
      ("terminalTurnId", .str terminal.turnId),
      ("terminalMessageHash", .str terminal.messageHash),
      ("terminalStatus", .str "completed")] ++ observationPayload terminal)

/-- `createUnsignedCancellationEnvelope`. -/
def cancellationEnvelope (dispatch : CodexValidationDispatchCandidate) (bridge : BridgeContext)
    (terminal : ProtocolEvidence) (requestId : Int) (responseHash : String) (issuedAt expiresAt : Int) :
    Except BridgeError UnsignedEnvelope := do
  let messageId ← labelled sha256 "validation-cancelled" dispatch
  runtimeEnvelope sha256 bridge 2 messageId .CANCELLED issuedAt expiresAt
    (statusPayload dispatch ++ [
      ("resultCode", .str "VALIDATION_CANCELLED"),
      ("interruptRequestId", .int requestId),
      ("interruptResponseHash", .str responseHash),
      ("terminalThreadId", .str terminal.threadId),
      ("terminalTurnId", .str terminal.turnId),
      ("terminalMessageHash", .str terminal.messageHash),
      ("terminalStatus", .str "interrupted")] ++ observationPayload terminal)

/-- `authorizedTimestamp`. -/
def authorizedTimestamp (deadline reading floor : Int) : Except RuntimeAdapterErrorCode Int := do
  throwIf (deadline ≤ max reading floor) .AUTHORITY_EXPIRED
  return max reading floor

/-- The frames that a terminal is reported with, at the times that the clock allows. -/
def runtimeFrames (dispatch : CodexValidationDispatchCandidate) (bridge : BridgeContext)
    (terminal : ProtocolEvidence) (deadline : Int) (clock : Nat → Int) :
    Except RuntimeAdapterErrorCode (Except BridgeError (List UnsignedEnvelope)) :=
  match terminal.interruption with
  | some (requestId, responseHash) => do
    let cancellationAt ← authorizedTimestamp deadline (clock 0) 0
    return do
      let cancellation ← cancellationEnvelope sha256 dispatch bridge terminal requestId responseHash
        cancellationAt deadline
      return [cancellation]
  | none => do
    let statusAt ← authorizedTimestamp deadline (clock 0) 0
    let terminalAt ← authorizedTimestamp deadline (clock 1) statusAt
    return do
      let status ← statusEnvelope sha256 dispatch bridge statusAt deadline
      let result ← terminalEnvelope sha256 dispatch bridge terminal terminalAt deadline
      return [status, result]

/-! ## Executions -/

/-- How an execution that was admitted ends: with its candidate, denied with a code, or with an error of the
runner or of the candidate. -/
inductive Settlement where
  | returned
  | denied (code : RuntimeAdapterErrorCode)
  | failed
  deriving DecidableEq, Repr

/-- Where an execution waits, and how it has ended. `refused` is an end before it was admitted. -/
inductive AdapterPoint where
  | verifying (now deadline : Int)
  | running (deadline : Int)
  | signing (deadline : Int) (frames : Except BridgeError (List UnsignedEnvelope))
  | writing (deadline : Int) (frames : List UnsignedEnvelope)
  | refused (code : RuntimeAdapterErrorCode)
  | settled (settlement : Settlement)

/-- A call of `execute`. -/
structure AdapterCall where
  input : RuntimeAdapterInput
  point : AdapterPoint

/-- What `execute` is called with, and what its first piece reads. -/
structure AdapterStart where
  input : RuntimeAdapterInput
  now : Int
  aborted : Bool

/-- What is waited for answers. A lease tells whether it called its consumer: one that calls it again signs the
same frames again. -/
inductive AdapterAnswer where
  | lease (consumed : Bool) (result : Except RuntimeAdapterErrorCode Unit)
  | evidence (terminal : ProtocolEvidence)
  | rejected
  | written (result : Except RuntimeAdapterErrorCode Unit) (mutated : Bool) (accepted : Bool)

/-- An answer, the clock as the next piece reads it, and whether the next frame can be encoded. -/
structure AdapterReply where
  answer : AdapterAnswer
  clock : Nat → Int
  encodes : Bool

/-- What a piece shows: what it does with the replay memory, the dispatches it admits and hands to the runner, and
the frames that are signed. -/
structure AdapterShown where
  ops : List (ReplayOp String CodexValidationDispatchCandidate)
  admitted : List CodexValidationDispatchCandidate
  invoked : List CodexValidationDispatchCandidate
  signed : List (CodexValidationDispatchCandidate × List UnsignedEnvelope)

/-- Nothing is shown. -/
def AdapterShown.nothing : AdapterShown := ⟨[], [], [], []⟩

/-- `MAX_TRACKED_DISPATCHES`. -/
def maxTrackedDispatches : Nat := 1024

/-- `${bridge.sessionId}:${dispatch.dispatchId}`; the session of the bridge is that of the dispatch. -/
def replayKey (dispatch : CodexValidationDispatchCandidate) : String :=
  s!"{dispatch.sessionId}:{dispatch.dispatchId}"

/-- The code of a refusal. -/
def refusalCode : ReplayRefusal → RuntimeAdapterErrorCode
  | .concurrent => .CONCURRENT_DISPATCH
  | .used => .USED_DISPATCH
  | .full => .LIMIT_EXCEEDED

/-- The shared state of an adapter. -/
abbrev AdapterMemory := ReplayMemory String

/-- `Math.min(now + maximumDurationMs, dispatch.expiresAt, bridge.expiresAt)`. -/
def deadlineAt (input : RuntimeAdapterInput) (now : Int) : Int :=
  min (now + input.dispatch.maximumDurationMs) (min input.dispatch.expiresAt input.bridge.expiresAt)

/-- `authenticateInput`, up to the lease. -/
def beginExecution (start : AdapterStart) : AdapterPoint :=
  match validateInput sha256 start.input with
  | .error code => .refused code
  | .ok () =>
    if start.now < start.input.dispatch.issuedAt ∨ start.input.dispatch.expiresAt ≤ start.now
        ∨ start.input.bridge.expiresAt ≤ start.now then .refused .AUTHORITY_EXPIRED
    else if start.aborted = true then .refused .CANCELLED
    else .verifying start.now (deadlineAt start.input start.now)

/-- `finally`: the execution ends, and its id is released. -/
def settle (dispatch : CodexValidationDispatchCandidate) (settlement : Settlement) (shown : AdapterShown)
    (memory : AdapterMemory) : AdapterShown × AdapterMemory × AdapterPoint :=
  ({ shown with ops := shown.ops ++ [.release (replayKey dispatch)] }, memory.release (replayKey dispatch),
    .settled settlement)

/-- `execute`, from the verified frame to the runner. -/
def admitExecution (input : RuntimeAdapterInput) (now deadline : Int) (clock : Nat → Int) (memory : AdapterMemory) :
    AdapterShown × AdapterMemory × AdapterPoint :=
  let dispatch := input.dispatch
  let x : ReplayCheck CodexValidationDispatchCandidate := ⟨dispatch, now, deadline⟩
  match memory.check replayKey maxTrackedDispatches x with
  | (.error refusal, purged) => (⟨[.check x], [], [], []⟩, purged, .refused (refusalCode refusal))
  | (.ok (), remembered) =>
    if deadline - clock 0 < 1 then
      settle dispatch (.denied .AUTHORITY_EXPIRED) ⟨[.check x], [dispatch], [], []⟩ remembered
    else (⟨[.check x], [dispatch], [dispatch], []⟩, remembered, .running deadline)

/-- The first part of `write`: the next frame is under way, or denied. -/
def beginWrite (deadline reading : Int) (encodes : Bool) (frames : List UnsignedEnvelope) :
    Except RuntimeAdapterErrorCode AdapterPoint := do
  throwIf (encodes = false) .INVALID_FRAME
  throwIf (deadline - reading < 1) .AUTHORITY_EXPIRED
  return .writing deadline frames

/-- An execution goes on at a point, or ends. -/
def continueAt (dispatch : CodexValidationDispatchCandidate) (shown : AdapterShown) (memory : AdapterMemory) :
    Except RuntimeAdapterErrorCode AdapterPoint → AdapterShown × AdapterMemory × AdapterPoint
  | .ok point => (shown, memory, point)
  | .error code => settle dispatch (.denied code) shown memory

/-- `execute`, from the evidence of the runner to the lease. -/
def reportEvidence (input : RuntimeAdapterInput) (deadline : Int) (clock : Nat → Int)
    (terminal : ProtocolEvidence) : Except RuntimeAdapterErrorCode AdapterPoint :=
  match validateTerminal terminal with
  | .error _ => .error .INVALID_INPUT
  | .ok () => do
    let frames ← runtimeFrames sha256 input.dispatch input.bridge terminal deadline clock
    return .signing deadline frames

/-- The frames that a lease has signed. -/
def signedFrames (dispatch : CodexValidationDispatchCandidate)
    (frames : Except BridgeError (List UnsignedEnvelope)) (consumed : Bool) :
    List (CodexValidationDispatchCandidate × List UnsignedEnvelope) :=
  match frames with
  | .ok unsigned => if consumed = true then [(dispatch, unsigned)] else []
  | .error _ => []

/-- `execute`, from the signed frames to the transport. -/
def sendFrames (deadline : Int) (reply : AdapterReply) (frames : Except BridgeError (List UnsignedEnvelope))
    (result : Except RuntimeAdapterErrorCode Unit) : Except RuntimeAdapterErrorCode AdapterPoint := do
  result
  match frames with
  | .error _ => throw .SECRET_LEASE_DENIED
  | .ok unsigned => beginWrite deadline (reply.clock 0) reply.encodes unsigned

/-- `execute`, from a write to the next one or to the end. -/
def finishWrite (dispatch : CodexValidationDispatchCandidate) (deadline : Int) (reply : AdapterReply)
    (frames : List UnsignedEnvelope) (result : Except RuntimeAdapterErrorCode Unit) (mutated accepted : Bool)
    (memory : AdapterMemory) : AdapterShown × AdapterMemory × AdapterPoint :=
  let checked : Except RuntimeAdapterErrorCode Unit := do
    result
    throwIf (mutated = true) .TRANSPORT_MUTATED_FRAME
    throwIf (deadline ≤ reply.clock 0) .AUTHORITY_EXPIRED
  match checked, frames.tail with
  | .error code, _ => settle dispatch (.denied code) .nothing memory
  | .ok (), [] => settle dispatch (if accepted = true then .returned else .failed) .nothing memory
  | .ok (), frame :: rest =>
    continueAt dispatch .nothing memory (beginWrite deadline (reply.clock 1) reply.encodes (frame :: rest))

/-- An execution is resumed. An answer that it does not wait for changes nothing. -/
def resumeExecution (reply : AdapterReply) (call : AdapterCall) (memory : AdapterMemory) :
    AdapterShown × AdapterMemory × AdapterPoint :=
  let dispatch := call.input.dispatch
  match call.point, reply.answer with
  | .verifying _ _, .lease _ (.error code) => (.nothing, memory, .refused code)
  | .verifying now deadline, .lease _ (.ok ()) => admitExecution call.input now deadline reply.clock memory
  | .running deadline, .evidence terminal =>
    continueAt dispatch .nothing memory (reportEvidence sha256 call.input deadline reply.clock terminal)
  | .running _, .rejected => settle dispatch .failed .nothing memory
  | .signing deadline frames, .lease consumed result =>
    continueAt dispatch ⟨[], [], [], signedFrames dispatch frames consumed⟩ memory
      (sendFrames deadline reply frames result)
  | .writing deadline frames, .written result mutated accepted =>
    finishWrite dispatch deadline reply frames result mutated accepted memory
  | point, _ => (.nothing, memory, point)

/-- The adapter, with all its executions. -/
def runtimeAdapter :
    CallSystem AdapterMemory AdapterCall AdapterStart AdapterReply AdapterShown where
  start a memory := (.nothing, memory, ⟨a.input, beginExecution sha256 a⟩)
  resume reply call memory :=
    let r := resumeExecution sha256 reply call memory
    (r.1, r.2.1, ⟨call.input, r.2.2⟩)

end Frames

end VentureOS.Bridge
