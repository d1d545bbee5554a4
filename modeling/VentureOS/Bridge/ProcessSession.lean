import VentureOS.Bridge.AtMostOnce

/-! # Process sessions

`BoundedCodexValidationProcessSessionCoordinator.execute`, split at every point at which it waits: for the secret
lease under which the frame of the dispatch is verified, for the claim of the authority, for the session of the
owner, for the protocol, for the process to be closed, for the completion of the authority, and for the adapter
that reports the terminal.

The session of a dispatch is opened when the claim is accepted, which takes a claim that the replay memory has
admitted. The memory keeps an id until the dispatch expires, but the reading of the clock that it is purged with
is taken after the lease, and is not compared with the window of the dispatch again.

A reading of the clock may be an invalid date. What happens to a session from its validation on is kept with the
call. -/

namespace VentureOS.Bridge

open ReplayMemory

/-! ## Bindings -/

/-- `CodexValidationProcessSessionErrorCode`. -/
inductive ProcessSessionErrorCode where
  | INVALID_INPUT
  | AUTHORITY_DENIED
  | OWNER_DENIED
  | INVALID_SESSION
  | CLEANUP_FAILED
  | CLEANUP_TIMEOUT
  | CONCURRENT_DISPATCH
  | USED_DISPATCH
  | LIMIT_EXCEEDED
  deriving DecidableEq, Repr

/-- `SupervisorPlatform`. -/
inductive SupervisorPlatform where
  | WIN32
  | LINUX
  deriving DecidableEq, Repr

def SupervisorPlatform.text : SupervisorPlatform → String
  | .WIN32 => "WIN32"
  | .LINUX => "LINUX"

/-- `SupervisorProcessBinding`, but for its version. -/
structure SupervisorProcessBinding where
  supervisionId : String
  launchNonce : String
  workspaceId : String
  runtimeId : String
  connectionId : String
  platform : SupervisorPlatform
  manifestHash : String
  admissionEvidenceHash : String
  admissionBindingHash : String
  testOnly : Bool
  deriving DecidableEq, Repr

def SupervisorProcessBinding.toJson (binding : SupervisorProcessBinding) : Json :=
  .obj [
    ("schemaVersion", .int 1),
    ("supervisionId", .str binding.supervisionId),
    ("launchNonce", .str binding.launchNonce),
    ("workspaceId", .str binding.workspaceId),
    ("runtimeId", .str binding.runtimeId),
    ("connectionId", .str binding.connectionId),
    ("platform", .str binding.platform.text),
    ("manifestHash", .str binding.manifestHash),
    ("admissionEvidenceHash", .str binding.admissionEvidenceHash),
    ("admissionBindingHash", .str binding.admissionBindingHash),
    ("testOnly", .bool binding.testOnly)]

open Regex in
/-- `PRIVATE_TEXT` of the supervision lifecycle, in lower case. -/
def privateText : Regex :=
  altAll [
    seqAll [literal "chain", opt (oneOf "-_. "), literal "of", opt (oneOf "-_. "), literal "thought"],
    seqAll [literal "private", opt (oneOf "-_. "), literal "reasoning"],
    literal "password", literal "credential",
    seqAll [literal "api", opt (oneOf "-_. "), literal "key"],
    seqAll [literal "access", opt (oneOf "-_. "), literal "token"],
    seqAll [literal "auth", opt (literal "orization"), opt (oneOf "-_. "), literal "token"],
    seqAll [literal "session", opt (oneOf "-_. "), literal "token"],
    literal "secret", literal "transcript", literal "prompt"]

open Regex in
/-- `SECRET_LIKE` of the supervision lifecycle. -/
def secretLike : Regex :=
  altAll [
    seqAll [literal "-----BEGIN ", .star (.cls fun c => ('A' ≤ c && c ≤ 'Z') || c == ' '),
      literal "PRIVATE KEY-----"],
    seqAll [.wordBoundary, literal "Bearer", atLeast 1 (.cls isJsSpace), atLeast 12 (Durable.alnumOr "._~+/=-")],
    seqAll [.wordBoundary,
      altAll [literal "sk", .seq (literal "gh") (oneOf "opusr"), literal "github_pat", literal "glpat",
        .seq (literal "xox") (oneOf "baprs"), literal "AKIA"],
      opt (oneOf "_-"), atLeast 12 (Durable.alnumOr "_-")],
    seqAll [.wordBoundary, literal "eyJ", atLeast 8 (Durable.alnumOr "_-"), literal ".",
      atLeast 8 (Durable.alnumOr "_-"), literal ".", atLeast 8 (Durable.alnumOr "_-")]]

/-- `reference` of the supervision lifecycle accepts a text. -/
def isSupervisorReference (value : String) : Bool :=
  referencePattern value && !Durable.testIgnoreCase privateText value && !secretLike.test value

/-- `validateSupervisorProcessBinding` accepts a binding. -/
def isProcessBinding (binding : SupervisorProcessBinding) : Bool :=
  isSupervisorReference binding.supervisionId && isSupervisorReference binding.launchNonce
    && isSupervisorReference binding.workspaceId && isSupervisorReference binding.runtimeId
    && isSupervisorReference binding.connectionId && Durable.sha256Pattern binding.manifestHash
    && Durable.sha256Pattern binding.admissionEvidenceHash && Durable.sha256Pattern binding.admissionBindingHash

/-- `sameBinding`. -/
def sameBinding (expected observed : SupervisorProcessBinding) : Except BridgeError Bool := do
  let left ← canonicalJson expected.toJson
  let right ← canonicalJson observed.toJson
  return decide (left = right)

/-! ## What the owner answers -/

/-- The fields of a session that the owner has opened: its binding, and whether its streams and its `close` have
the functions that are called. -/
structure OwnedSession where
  binding : SupervisorProcessBinding
  usable : Bool

/-- `CodexValidationProcessCloseRequest.reason`. -/
inductive CloseReason where
  | COMPLETED
  | CANCELLED
  | FAILED
  deriving DecidableEq, Repr

/-- `CodexValidationProcessCloseResult`, but for the fields of which the type fixes the value. -/
structure CloseResult where
  binding : SupervisorProcessBinding
  dispatchId : String
  validationDispatchCandidateHash : String
  sessionId : String
  exitCode : Option Int
  signal : Option String
  closedAt : Int

/-- An error of the coordinator: a denial of its own, of its adapter, or another error. -/
inductive SessionError where
  | session (code : ProcessSessionErrorCode)
  | adapter (code : RuntimeAdapterErrorCode)
  | other
  deriving DecidableEq, Repr

/-- An error that is not a denial of the coordinator is replaced by one. -/
def SessionError.orElse (code : ProcessSessionErrorCode) : SessionError → SessionError
  | .session code' => .session code'
  | _ => .session code

/-- An error of the codec, in the coordinator. -/
def ofCodec {α : Type} : Except BridgeError α → Except SessionError α
  | .ok a => .ok a
  | .error _ => .error .other

/-- What `execute` is given. -/
structure OwnedProcessInput extends RuntimeAdapterInput where
  binding : SupervisorProcessBinding

/-- `validateSession`. -/
def validateSession (session : OwnedSession) (binding : SupervisorProcessBinding) :
    Except SessionError Unit := do
  throwIf (isProcessBinding session.binding = false) (.session .INVALID_SESSION)
  let same ← ofCodec (sameBinding binding session.binding)
  throwIf (same = false ∨ session.usable = false) (.session .INVALID_SESSION)

/-- `validateCloseResult`. -/
def validateCloseResult (result : CloseResult) (input : OwnedProcessInput) (observedAt : Int) :
    Except SessionError Unit := do
  throwIf (isProcessBinding result.binding = false) (.session .INVALID_SESSION)
  let same ← ofCodec (sameBinding input.binding result.binding)
  throwIf (same = false
      ∨ referencePattern result.dispatchId = false ∨ result.dispatchId ≠ input.dispatch.dispatchId
      ∨ referencePattern result.validationDispatchCandidateHash = false
      ∨ result.validationDispatchCandidateHash ≠ input.dispatch.validationDispatchCandidateHash
      ∨ referencePattern result.sessionId = false ∨ result.sessionId ≠ input.dispatch.sessionId
      ∨ (∃ exitCode ∈ result.exitCode, isSafeInteger exitCode = false ∨ exitCode < 0 ∨ 255 < exitCode)
      ∨ (∃ signal ∈ result.signal, referencePattern signal = false)
      ∨ result.exitCode.isNone = result.signal.isNone
      ∨ result.closedAt < input.dispatch.issuedAt ∨ input.dispatch.expiresAt < result.closedAt
      ∨ observedAt < result.closedAt)
    (.session .INVALID_SESSION)

/-- What the cleanup evidence of a result is the hash of. -/
def CloseResult.toJson (result : CloseResult) (reason : String) : Json :=
  .obj [
    ("domain", .str "ventureos.codex-validation.process-cleanup.v1"),
    ("evidence", .obj [
      ("schemaVersion", .int 1),
      ("binding", result.binding.toJson),
      ("dispatchId", .str result.dispatchId),
      ("validationDispatchCandidateHash", .str result.validationDispatchCandidateHash),
      ("sessionId", .str result.sessionId),
      ("processState", .str "EXITED"),
      ("exitCode", match result.exitCode with | none => .null | some exitCode => .int exitCode),
      ("signal", match result.signal with | none => .null | some signal => .str signal),
      ("closedAt", timestampJson result.closedAt),
      ("runtimeConnection", .str "NOT_CONFIGURED"),
      ("reason", .str reason)])]

/-! ## Executions of the coordinator -/

/-- What a session is opened for. -/
structure SessionTriple where
  supervisionId : String
  sessionId : String
  dispatchId : String
  deriving DecidableEq, Repr

/-- The triple of an input. -/
def OwnedProcessInput.triple (input : OwnedProcessInput) : SessionTriple :=
  ⟨input.binding.supervisionId, input.dispatch.sessionId, input.dispatch.dispatchId⟩

/-- `${binding.supervisionId}:${dispatch.sessionId}:${dispatch.dispatchId}`. -/
def sessionKey (t : SessionTriple) : String :=
  s!"{t.supervisionId}:{t.sessionId}:{t.dispatchId}"

/-- Where an execution waits, and how it has ended. A session that was opened is closed for a reason; the
protocol tells whether the turn was cancelled. -/
inductive SessionPoint where
  | authenticating
  | claiming
  | opening
  | running
  | closing (terminal : Except SessionError Bool)
  | completing
  | reporting
  | denied (error : SessionError)
  | returned

/-- What happens to a session: it is validated, its close port is invoked, and its streams are destroyed. A stream
that is destroyed already is not destroyed again. -/
inductive SessionEvent where
  | validated
  | closeInvoked
  | stdinDestroyed
  | stdoutDestroyed
  deriving DecidableEq, Repr

/-- A call of `execute`, and what has happened to its session. -/
structure SessionCall where
  input : OwnedProcessInput
  point : SessionPoint
  events : List SessionEvent

/-- What `execute` is called with, and what its first piece reads. -/
structure SessionStart where
  input : OwnedProcessInput
  cleanupTimeoutMs : Option Int
  now : Option Int
  aborted : Bool

/-- What is waited for answers: the lease, the authority and the adapter with a result, the owner with a session,
the protocol with whether the turn was interrupted, and the session with the exit of its process. -/
inductive SessionAnswer where
  | done (result : Except SessionError Unit)
  | opened (result : Except SessionError OwnedSession)
  | terminal (result : Except SessionError Bool)
  | closed (result : Except SessionError CloseResult)

/-- Whether the streams of a session can be destroyed: `destroy` throws otherwise. -/
structure SessionStreams where
  stdin : Bool
  stdout : Bool
  deriving DecidableEq, Repr

/-- An answer, the clock as the next piece reads it, and the streams as it finds them. -/
structure SessionReply where
  answer : SessionAnswer
  clock : Nat → Option Int
  streams : SessionStreams

/-- What a piece shows: what it does with the replay memory, the triples it admits, those for which it calls
`owner.open`, and what happens to the session. -/
structure SessionShown where
  ops : List (ReplayOp String SessionTriple)
  admitted : List SessionTriple
  opened : List SessionTriple
  events : List SessionEvent

/-- Nothing is shown. -/
def SessionShown.nothing : SessionShown := ⟨[], [], [], []⟩

/-- The state of a coordinator. -/
abbrev SessionMemory := ReplayMemory String

/-- The denial of a refusal. -/
def sessionRefusal : ReplayRefusal → SessionError
  | .concurrent => .session .CONCURRENT_DISPATCH
  | .used => .session .USED_DISPATCH
  | .full => .session .LIMIT_EXCEEDED

/-- `MAX_CLEANUP_TIMEOUT_MS`. -/
def maxCleanupTimeoutMs : Int := 5000

section Coordinator

variable (sha256 : String → String)

/-- `execute`, up to the lease of `adapter.authenticate`. -/
def beginSession (start : SessionStart) : SessionPoint :=
  let input := start.input
  let cleanupTimeoutMs := start.cleanupTimeoutMs.getD maxCleanupTimeoutMs
  if isProcessBinding input.binding = false
      ∨ validateCodexValidationDispatchCandidate sha256 input.dispatch ≠ .ok () then
    .denied (.session .INVALID_INPUT)
  else if input.binding.workspaceId ≠ input.dispatch.workspaceId
      ∨ input.binding.runtimeId ≠ input.dispatch.runtimeId
      ∨ input.binding.connectionId ≠ input.dispatch.connectionId then
    .denied (.session .INVALID_INPUT)
  else if isSafeInteger cleanupTimeoutMs = false ∨ cleanupTimeoutMs < 1
      ∨ maxCleanupTimeoutMs < cleanupTimeoutMs then
    .denied (.session .LIMIT_EXCEEDED)
  else
    match start.now with
    | none =>
      match validateInput sha256 input.toRuntimeAdapterInput with
      | .error code => .denied (.adapter code)
      | .ok () => .denied (.adapter .INVALID_INPUT)
    | some now =>
      match beginExecution sha256 ⟨input.toRuntimeAdapterInput, now, start.aborted⟩ with
      | .verifying _ _ => .authenticating
      | .refused code => .denied (.adapter code)
      | _ => .denied .other

/-- `this.#active.delete(id)`, and the execution goes on or ends. -/
def releaseSession (input : OwnedProcessInput) (point : SessionPoint) (events : List SessionEvent)
    (memory : SessionMemory) : SessionShown × SessionMemory × SessionPoint :=
  (⟨[.release (sessionKey input.triple)], [], [], events⟩, memory.release (sessionKey input.triple), point)

/-- `execute`, from the verified frame to the claim. The clock is read again. -/
def claimSession (input : OwnedProcessInput) (reading : Option Int) (memory : SessionMemory) :
    SessionShown × SessionMemory × SessionPoint :=
  match reading with
  | none => (.nothing, memory, .denied (.session .INVALID_INPUT))
  | some observedNow =>
    let x : ReplayCheck SessionTriple := ⟨input.triple, observedNow, input.dispatch.expiresAt⟩
    match memory.check sessionKey maxTrackedDispatches x with
    | (.error refusal, purged) => (⟨[.check x], [], [], []⟩, purged, .denied (sessionRefusal refusal))
    | (.ok (), remembered) => (⟨[.check x], [input.triple], [], []⟩, remembered, .claiming)

/-- The streams are destroyed, `stdin` first: what has happened to them, and whether both calls returned. -/
def destroyStreams (streams : SessionStreams) : List SessionEvent × Bool :=
  if streams.stdin = false then ([], false)
  else if streams.stdout = false then ([.stdinDestroyed], false)
  else ([.stdinDestroyed, .stdoutDestroyed], true)

/-- The cleanup throws: the streams are destroyed all the same, and the error of a stream takes its place. The id
is not released. -/
def failCleanup (e : SessionError) (streams : SessionStreams) (memory : SessionMemory) :
    SessionShown × SessionMemory × SessionPoint :=
  let destroyed := destroyStreams streams
  (⟨[], [], [], destroyed.1⟩, memory, .denied (if destroyed.2 = true then e else .other))

/-- `execute`, from the protocol to the close request: nothing is asked for when no time is left. -/
def closeSession (input : OwnedProcessInput) (reading : Option Int) (streams : SessionStreams)
    (terminal : Except SessionError Bool) (memory : SessionMemory) :
    SessionShown × SessionMemory × SessionPoint :=
  match reading with
  | none => failCleanup (.session .INVALID_INPUT) streams memory
  | some now =>
    if input.dispatch.expiresAt - now < 1 then failCleanup (.session .CLEANUP_TIMEOUT) streams memory
    else (⟨[], [], [], [.closeInvoked]⟩, memory, .closing terminal)

/-- Whether the process has exited, at a reading of the clock. -/
def checkExit (input : OwnedProcessInput) (reading : Option Int) (result : CloseResult) :
    Except SessionError Unit :=
  match reading with
  | none => .error (.session .INVALID_INPUT)
  | some observedAt => validateCloseResult result input observedAt

/-- `createCodexValidationProcessCleanupEvidence`, at a reading of the clock. -/
def checkEvidence (input : OwnedProcessInput) (reading : Option Int) (cancelled : Bool) (result : CloseResult) :
    Except SessionError Unit := do
  let _ ← ofCodec (canonicalJson (result.toJson (if cancelled = true then "CANCELLED" else "COMPLETED")))
  match reading with
  | none => .error (.session .INVALID_SESSION)
  | some observedAt => validateCloseResult result input observedAt

/-- `execute`, once the exit of the process is proved and both streams are destroyed: the id is released, and the
execution goes on to the completion when the protocol has ended well. -/
def exitSession (input : OwnedProcessInput) (reading : Option Int) (terminal : Except SessionError Bool)
    (result : CloseResult) (events : List SessionEvent) (memory : SessionMemory) :
    SessionShown × SessionMemory × SessionPoint :=
  match terminal with
  | .error e => releaseSession input (.denied e) events memory
  | .ok cancelled =>
    match checkEvidence input reading cancelled result with
    | .error e => releaseSession input (.denied e) events memory
    | .ok () => releaseSession input .completing events memory

/-- `execute`, from the exit of the process to the completion. An id is only released when the exit is proved. -/
def finishSession (input : OwnedProcessInput) (reply : SessionReply) (terminal : Except SessionError Bool)
    (result : CloseResult) (memory : SessionMemory) : SessionShown × SessionMemory × SessionPoint :=
  match checkExit input (reply.clock 0) result with
  | .error e => failCleanup e reply.streams memory
  | .ok () =>
    let destroyed := destroyStreams reply.streams
    if destroyed.2 = true then exitSession input (reply.clock 1) terminal result destroyed.1 memory
    else (⟨[], [], [], destroyed.1⟩, memory, .denied .other)

/-- An execution is resumed. An answer that it does not wait for changes nothing. -/
def resumeSession (reply : SessionReply) (input : OwnedProcessInput) (point : SessionPoint)
    (memory : SessionMemory) : SessionShown × SessionMemory × SessionPoint :=
  match point, reply.answer with
  | .authenticating, .done (.error e) => (.nothing, memory, .denied e)
  | .authenticating, .done (.ok ()) => claimSession input (reply.clock 0) memory
  | .claiming, .done (.error e) => releaseSession input (.denied (e.orElse .AUTHORITY_DENIED)) [] memory
  | .claiming, .done (.ok ()) => (⟨[], [], [input.triple], []⟩, memory, .opening)
  | .opening, .opened (.error e) => releaseSession input (.denied (e.orElse .OWNER_DENIED)) [] memory
  | .opening, .opened (.ok session) =>
    match validateSession session input.binding with
    | .error e => releaseSession input (.denied (e.orElse .OWNER_DENIED)) [] memory
    | .ok () => (⟨[], [], [], [.validated]⟩, memory, .running)
  | .running, .terminal result => closeSession input (reply.clock 0) reply.streams result memory
  | .closing _, .closed (.error e) => failCleanup (e.orElse .CLEANUP_FAILED) reply.streams memory
  | .closing terminal, .closed (.ok result) => finishSession input reply terminal result memory
  | .completing, .done (.error e) => (.nothing, memory, .denied (e.orElse .AUTHORITY_DENIED))
  | .completing, .done (.ok ()) => (.nothing, memory, .reporting)
  | .reporting, .done (.error e) => (.nothing, memory, .denied e)
  | .reporting, .done (.ok ()) => (.nothing, memory, .returned)
  | point, _ => (.nothing, memory, point)

/-- The coordinator, with all its executions. -/
def processSessionCoordinator :
    CallSystem SessionMemory SessionCall SessionStart SessionReply SessionShown where
  start a memory := (.nothing, memory, ⟨a.input, beginSession sha256 a, []⟩)
  resume reply call memory :=
    let r := resumeSession reply call.input call.point memory
    (r.1, r.2.1, ⟨call.input, r.2.2, call.events ++ r.1.events⟩)

/-! ## Runs of a coordinator -/

/-- What has been shown after some moves. -/
def sessionsShown (moves : List (Move SessionStart SessionReply)) : List SessionShown :=
  (processSessionCoordinator sha256).shown empty moves

/-- What was done with the memory. -/
def sessionOps (moves : List (Move SessionStart SessionReply)) : List (ReplayOp String SessionTriple) :=
  (sessionsShown sha256 moves).flatMap SessionShown.ops

/-- How often `owner.open` was called for `t`. -/
def openings (t : SessionTriple) (moves : List (Move SessionStart SessionReply)) : Nat :=
  ((sessionsShown sha256 moves).map fun o => o.opened.count t).sum

end Coordinator

/-! ### Pieces -/

/-- An execution that holds its id. -/
def SessionPoint.holds : SessionPoint → Bool
  | .claiming | .opening | .running | .closing _ => true
  | _ => false

/-- An execution that is past its cleanup, or has ended. -/
def SessionPoint.isPast : SessionPoint → Bool
  | .completing | .reporting | .denied _ | .returned => true
  | _ => false

/-- An execution whose claim is under way. -/
def SessionPoint.isClaiming : SessionPoint → Bool
  | .claiming => true
  | _ => false

variable {point : SessionPoint}

theorem SessionPoint.not_claiming (h : point.holds = false) : point.isClaiming = false := by
  cases point <;> first | rfl | cases h

theorem SessionPoint.not_holds (h : point.isPast = true) : point.holds = false := by
  cases point <;> first | rfl | cases h

/-- The cleanup of a session goes well, if this is where it comes: the clock is read before the dispatch expires,
and the session answers its close request in time with an exit that is accepted when the clock is read again, and
has streams that can be destroyed. -/
def CleanupHolds (reply : SessionReply) (input : OwnedProcessInput) : SessionPoint → Prop
  | .running => ∀ terminal, reply.answer = .terminal terminal →
      ∃ now ∈ reply.clock 0, now < input.dispatch.expiresAt
  | .closing _ => ∀ closed, reply.answer = .closed closed →
      reply.streams = ⟨true, true⟩ ∧ ∃ result, closed = .ok result
        ∧ ∃ observedAt ∈ reply.clock 0, validateCloseResult result input observedAt = .ok ()
  | _ => True

/-- What a piece can be. -/
inductive SessionPiece (reply : SessionReply) (input : OwnedProcessInput) (memory : SessionMemory) :
    SessionPoint → SessionShown × SessionMemory × SessionPoint → Prop where
  | idle (point : SessionPoint) : SessionPiece reply input memory point (.nothing, memory, point)
  | passed {point point' : SessionPoint} (hbefore : point.holds = false) (hafter : point'.isPast = true) :
      SessionPiece reply input memory point (.nothing, memory, point')
  | refused {x : ReplayCheck SessionTriple} {refusal : ReplayRefusal} {purged : SessionMemory} (e : SessionError)
      (hcheck : memory.check sessionKey maxTrackedDispatches x = (.error refusal, purged)) :
      SessionPiece reply input memory .authenticating (⟨[.check x], [], [], []⟩, purged, .denied e)
  | admitted {x : ReplayCheck SessionTriple} {remembered : SessionMemory} (htag : x.tag = input.triple)
      (hcheck : memory.check sessionKey maxTrackedDispatches x = (.ok (), remembered)) :
      SessionPiece reply input memory .authenticating
        (⟨[.check x], [input.triple], [], []⟩, remembered, .claiming)
  | opened : SessionPiece reply input memory .claiming (⟨[], [], [input.triple], []⟩, memory, .opening)
  | validated : SessionPiece reply input memory .opening (⟨[], [], [], [.validated]⟩, memory, .running)
  | closing (terminal : Except SessionError Bool) :
      SessionPiece reply input memory .running (⟨[], [], [], [.closeInvoked]⟩, memory, .closing terminal)
  | abandoned {point : SessionPoint} (e : SessionError) (hpoint : point = .claiming ∨ point = .opening) :
      SessionPiece reply input memory point (releaseSession input (.denied e) [] memory)
  | exited {terminal : Except SessionError Bool} {point : SessionPoint} (hafter : point.isPast = true) :
      SessionPiece reply input memory (.closing terminal)
        (releaseSession input point [.stdinDestroyed, .stdoutDestroyed] memory)
  | left {point : SessionPoint} (e : SessionError) (events : List SessionEvent) (hpoint : point.holds = true)
      (hfailed : ¬ CleanupHolds reply input point) :
      SessionPiece reply input memory point (⟨[], [], [], events⟩, memory, .denied e)

variable {terminal : Except SessionError Bool}

section Pieces

variable {reply : SessionReply} {input : OwnedProcessInput} {memory : SessionMemory}

theorem sessionPiece_claim (reading : Option Int) :
    SessionPiece reply input memory .authenticating (claimSession input reading memory) := by
  unfold claimSession
  dsimp only
  split
  · exact .passed rfl rfl
  · split
    · rename_i hcheck
      exact .refused _ hcheck
    · rename_i hcheck
      exact .admitted rfl hcheck

theorem sessionPiece_close (hanswer : reply.answer = .terminal terminal) :
    SessionPiece reply input memory .running
      (closeSession input (reply.clock 0) reply.streams terminal memory) := by
  unfold closeSession
  split
  · rename_i hreading
    refine .left _ _ rfl fun hcleanup => ?_
    obtain ⟨now, hnow, -⟩ := hcleanup terminal hanswer
    rw [hreading] at hnow
    cases hnow
  · rename_i now hreading
    split
    · rename_i hover
      refine .left _ _ rfl fun hcleanup => ?_
      obtain ⟨now', hnow', hlive⟩ := hcleanup terminal hanswer
      rw [hreading, Option.mem_def, Option.some.injEq] at hnow'
      omega
    · exact .closing terminal

theorem sessionPiece_exit (reading : Option Int) (result : CloseResult) :
    SessionPiece reply input memory (.closing terminal)
      (exitSession input reading terminal result [.stdinDestroyed, .stdoutDestroyed] memory) := by
  unfold exitSession
  split
  · exact .exited rfl
  · split
    · exact .exited rfl
    · exact .exited rfl

theorem sessionPiece_finish {result : CloseResult}
    (hanswer : reply.answer = .closed (.ok result)) :
    SessionPiece reply input memory (.closing terminal) (finishSession input reply terminal result memory) := by
  unfold finishSession
  split
  · rename_i e hexit
    refine .left _ _ rfl fun hcleanup => ?_
    obtain ⟨-, result', hresult, observedAt, hreading, hvalid⟩ := hcleanup _ hanswer
    cases hresult
    rw [Option.mem_def.mp hreading] at hexit
    exact absurd (hvalid.symm.trans hexit) (by simp)
  · by_cases hstreams : reply.streams = ⟨true, true⟩
    · rw [hstreams]
      exact sessionPiece_exit _ result
    · have hnot : (destroyStreams reply.streams).2 = false := by
        generalize reply.streams = streams at hstreams
        obtain ⟨stdin, stdout⟩ := streams
        cases stdin <;> cases stdout <;> first | rfl | exact absurd rfl hstreams
      dsimp only
      rw [if_neg (by rw [hnot]; exact Bool.false_ne_true)]
      exact .left _ _ rfl fun hcleanup => hstreams (hcleanup _ hanswer).1

/-- **What a resumption can be**. -/
theorem sessionPiece_resume (reply : SessionReply) (input : OwnedProcessInput) (point : SessionPoint)
    (memory : SessionMemory) :
    SessionPiece reply input memory point (resumeSession reply input point memory) := by
  unfold resumeSession
  split
  case h_1 | h_10 | h_11 | h_12 | h_13 => exact .passed rfl rfl
  case h_2 => exact sessionPiece_claim _
  case h_3 => exact .abandoned _ (Or.inl rfl)
  case h_4 => exact .opened
  case h_5 => exact .abandoned _ (Or.inr rfl)
  case h_6 =>
      split
      · exact .abandoned _ (Or.inr rfl)
      · exact .validated
  case h_7 hanswer => exact sessionPiece_close hanswer
  case h_8 hanswer =>
      refine .left _ _ rfl fun hcleanup => ?_
      obtain ⟨-, result, hresult, -⟩ := hcleanup _ hanswer
      cases hresult
  case h_9 hanswer => exact sessionPiece_finish hanswer
  case h_14 => exact .idle _

/-- A piece does to the memory what it shows, and admits what it shows. -/
theorem SessionPiece.faithful {piece : SessionShown × SessionMemory × SessionPoint}
    (h : SessionPiece reply input memory point piece) :
    Uses sessionKey maxTrackedDispatches memory piece.1.ops piece.1.admitted piece.2.1 := by
  cases h with
  | refused e hcheck => exact Uses.refused hcheck
  | admitted htag hcheck =>
    rw [← htag]
    exact Uses.admitted hcheck
  | abandoned e hpoint => exact Uses.release memory (sessionKey input.triple)
  | exited hafter => exact Uses.release memory (sessionKey input.triple)
  | idle | passed | opened | validated | closing | left => exact Uses.nil memory

end Pieces

/-- One for an execution for `t` whose claim is under way. -/
def claimWeight (t : SessionTriple) (call : SessionCall) : Nat :=
  if call.input.triple = t ∧ call.point.isClaiming = true then 1 else 0

theorem claimWeight_of_not (t : SessionTriple) (input : OwnedProcessInput)
    (events : List SessionEvent) (h : point.isClaiming = false) : claimWeight t ⟨input, point, events⟩ = 0 := by
  rw [claimWeight, h]
  simp

theorem claimWeight_claiming (t : SessionTriple) (input : OwnedProcessInput) (events : List SessionEvent) :
    claimWeight t ⟨input, .claiming, events⟩ = [input.triple].count t := by
  simp [claimWeight, SessionPoint.isClaiming, List.count_singleton]

theorem beginSession_holds (sha256 : String → String) (start : SessionStart) :
    (beginSession sha256 start).holds = false := by
  unfold beginSession
  dsimp only
  split
  · rfl
  · split
    · rfl
    · split
      · rfl
      · split
        · split <;> rfl
        · split <;> rfl

variable {memory : SessionMemory}

/-- The owner is asked for a session once for every claim that the memory has admitted. -/
theorem SessionPiece.opening_paid {reply : SessionReply} {input : OwnedProcessInput}
    {piece : SessionShown × SessionMemory × SessionPoint} (t : SessionTriple)
    (events events' : List SessionEvent) (h : SessionPiece reply input memory point piece) :
    claimWeight t ⟨input, piece.2.2, events'⟩ + piece.1.opened.count t
      ≤ claimWeight t ⟨input, point, events⟩ + piece.1.admitted.count t := by
  cases h with
  | idle => exact Nat.le_refl _
  | passed hbefore hafter =>
    rw [claimWeight_of_not t input _ (SessionPoint.not_claiming (SessionPoint.not_holds hafter))]
    exact Nat.zero_le _
  | admitted htag hcheck =>
    rw [claimWeight_claiming]
    exact Nat.le_add_left _ _
  | opened =>
    rw [claimWeight_of_not t input _ rfl, claimWeight_claiming]
    exact Nat.le_of_eq (Nat.add_comm _ _)
  | @exited terminal point hafter =>
    show claimWeight t ⟨input, point, events'⟩ + 0 ≤ _
    rw [claimWeight_of_not t input _ (SessionPoint.not_claiming (SessionPoint.not_holds hafter))]
    exact Nat.zero_le _
  | abandoned e hpoint =>
    show claimWeight t ⟨input, .denied e, events'⟩ + 0 ≤ _
    rw [claimWeight_of_not t input _ rfl]
    exact Nat.zero_le _
  | refused | validated | closing | left =>
    rw [claimWeight_of_not t input _ rfl]
    exact Nat.zero_le _

/-- **A session is opened at most once for a triple**, in every run in which, whenever an execution for it comes
to the replay checks after an earlier one was admitted, the id of that one has not been released, or no check has
read a time at or after its expiry. -/
theorem opened_at_most_once (sha256 : String → String) (t : SessionTriple)
    (moves : List (Move SessionStart SessionReply))
    (hguarded : Guarded sessionKey maxTrackedDispatches t (sessionOps sha256 moves)) :
    openings sha256 t moves ≤ 1 := by
  have hadmitted : ((sessionsShown sha256 moves).map fun o => o.admitted.count t).sum ≤ 1 :=
    hguarded.admitted_le_one (fun _ memory => Uses.nil memory)
      (fun reply call memory => (sessionPiece_resume reply call.input call.point memory).faithful)
  have hopened := (processSessionCoordinator sha256).accounting (claimWeight t) (fun o => o.opened.count t)
    (fun o => o.admitted.count t)
    (fun start memory => Nat.le_of_eq
      (claimWeight_of_not t start.input [] (SessionPoint.not_claiming (beginSession_holds sha256 start))))
    (fun reply call memory => (sessionPiece_resume reply call.input call.point memory).opening_paid t _ _)
    empty moves
  exact Nat.le_trans (Nat.le_trans (Nat.le_add_left _ _) hopened) hadmitted

/-! ### Single pieces -/

section Resumed

variable {input : OwnedProcessInput} (streams : SessionStreams) (memory : SessionMemory)

theorem resumeSession_opened (clock : Nat → Option Int) {session : OwnedSession} (h : validateSession session input.binding = .ok ()) :
    resumeSession ⟨.opened (.ok session), clock, streams⟩ input .opening memory
      = (⟨[], [], [], [.validated]⟩, memory, .running) := by
  unfold resumeSession
  simp only [h]

theorem resumeSession_live {clock : Nat → Option Int} {now : Int} (hclock : clock 0 = some now) (hlive : ¬ input.dispatch.expiresAt - now < 1)
    (terminal : Except SessionError Bool) :
    resumeSession ⟨.terminal terminal, clock, streams⟩ input .running memory
      = (⟨[], [], [], [.closeInvoked]⟩, memory, .closing terminal) := by
  unfold resumeSession
  simp only [closeSession, hclock, if_neg hlive]

theorem resumeSession_exited (clock : Nat → Option Int) {observedAt : Int} {result : CloseResult} (hclock : clock 0 = some observedAt)
    (h : validateCloseResult result input observedAt = .ok ()) (e : SessionError) :
    resumeSession ⟨.closed (.ok result), clock, ⟨true, true⟩⟩ input (.closing (.error e)) memory
      = releaseSession input (.denied e) [.stdinDestroyed, .stdoutDestroyed] memory := by
  unfold resumeSession
  simp only [finishSession, checkExit, hclock, h]
  rfl

end Resumed

/-! ### A session that is opened twice -/

/-- The readings of the clock of a move. -/
def sessionReadings : Move SessionStart SessionReply → List Int
  | .start a => a.now.toList
  | .resume _ reply => (reply.clock 0).toList ++ (reply.clock 1).toList

namespace Sample

variable (sha256 : String → String)

def binding : SupervisorProcessBinding where
  supervisionId := "su"
  launchNonce := "l"
  workspaceId := "w"
  runtimeId := "r"
  connectionId := "c"
  platform := .LINUX
  manifestHash := sha256 "manifest"
  admissionEvidenceHash := sha256 "evidence"
  admissionBindingHash := sha256 "admission"
  testOnly := true

def ownedInputOf (ids : Ids) : OwnedProcessInput := ⟨inputOf sha256 ids, binding sha256⟩

def ownedInput : OwnedProcessInput := ownedInputOf sha256 sd

/-- The exit of the process of the first session. -/
def exit : CloseResult :=
  ⟨binding sha256, "d", (dispatch sha256).validationDispatchCandidateHash, "s", some 0, none, 0⟩

/-- The check of the triple at some time. -/
def claimAt (now : Int) : ReplayCheck SessionTriple := ⟨⟨"su", "s", "d"⟩, now, 60000⟩

/-- Two executions of a dispatch start at once. The second one is authenticated at the end of the window, when the
first one is over. -/
def overtaken : List (Move SessionStart SessionReply) :=
  let reply := fun call now answer => Move.resume call (SessionReply.mk answer (fun _ => some now) ⟨true, true⟩)
  [.start ⟨ownedInput sha256, none, some 0, false⟩, .start ⟨ownedInput sha256, none, some 0, false⟩,
    reply 0 0 (.done (.ok ())), reply 0 0 (.done (.ok ())), reply 0 0 (.opened (.ok ⟨binding sha256, true⟩)),
    reply 0 0 (.terminal (.error .other)), reply 0 0 (.closed (.ok (exit sha256))),
    reply 1 60000 (.done (.ok ())), reply 1 60000 (.done (.ok ()))]

/-- The second execution comes to its claim while the first one holds its session. -/
def overlapping : List (Move SessionStart SessionReply) :=
  let reply := fun call now answer => Move.resume call (SessionReply.mk answer (fun _ => some now) ⟨true, true⟩)
  [.start ⟨ownedInput sha256, none, some 0, false⟩, .start ⟨ownedInput sha256, none, some 0, false⟩,
    reply 0 0 (.done (.ok ())), reply 0 0 (.done (.ok ())), reply 1 500 (.done (.ok ()))]

variable {sha256} (hdigest : ∀ s, Durable.sha256Pattern (sha256 s) = true)
include hdigest

omit hdigest in
/-- What is known of the texts and the names of a binding. -/
theorem bindingTexts_checked : (["su", "l", "w", "r", "c"].all isSupervisorReference) = true
    ∧ (["su", "l", "w", "r", "c", "LINUX"].all isPlainText) = true
    ∧ ((fieldNames (binding id).toJson).all isPlainName) = true := by
  decide

theorem binding_ok : isProcessBinding (binding sha256) = true := by
  have hreferences := List.all_eq_true.mp bindingTexts_checked.1
  simp only [List.forall_mem_cons] at hreferences
  simp [isProcessBinding, binding, hreferences, hdigest]

theorem sameBinding_ok : sameBinding (binding sha256) (binding sha256) = .ok true := by
  have hnames : ∀ name ∈ fieldNames (binding sha256).toJson, isPlainName name = true :=
    List.all_eq_true.mp bindingTexts_checked.2.2
  have htexts : ∀ text ∈ ["su", "l", "w", "r", "c", "LINUX"], checkCanonical (.str text) = .ok () := by
    exact fun text htext => checkCanonical_str (List.all_eq_true.mp bindingTexts_checked.2.1 text htext)
  have hdigests : ∀ s, checkCanonical (.str (sha256 s)) = .ok () := fun s =>
    checkCanonical_str (isPlainText_of_digest (hdigest s))
  have hplain : checkCanonical (binding sha256).toJson = .ok () := by
    refine checkCanonical_obj (by simp) fun field hfield => ⟨hnames _ (List.mem_map_of_mem hfield), ?_⟩
    have hversion : checkCanonical (.int 1) = .ok () ∧ ∀ b, checkCanonical (.bool b) = .ok () :=
      ⟨by decide, fun _ => by rw [checkCanonical]⟩
    simp only [List.forall_mem_cons] at htexts
    revert field
    simp [binding, SupervisorPlatform.text, htexts, hdigests, hversion]
  rw [sameBinding, canonicalJson, hplain]
  exact congrArg Except.ok (decide_eq_true rfl)

theorem exit_ok : validateCloseResult (exit sha256) (ownedInput sha256) 0 = .ok () := by
  have hhash := referencePattern_of_digest
    (hdigest (String.ofList (Durable.canonical (framedOf sha256 sd).normalized).text))
  have hreferences := references_ok
  simp only [List.forall_mem_cons] at hreferences
  have hhash' : referencePattern (dispatch sha256).validationDispatchCandidateHash = true := hhash
  have hfields : (ownedInput sha256).dispatch.dispatchId = "d" ∧ (ownedInput sha256).dispatch.sessionId = "s"
      ∧ (ownedInput sha256).dispatch.issuedAt = 0 ∧ (ownedInput sha256).dispatch.expiresAt = 60000
      ∧ (ownedInput sha256).dispatch.validationDispatchCandidateHash
        = (dispatch sha256).validationDispatchCandidateHash
      ∧ (ownedInput sha256).binding = binding sha256 := ⟨rfl, rfl, rfl, rfl, rfl, rfl⟩
  simp [validateCloseResult, exit, binding_ok hdigest, hfields, sameBinding_ok hdigest, ofCodec, hreferences, hhash',
    isSafeInteger, maxSafeInteger, throwIf]

/-- An execution for any ids waits for the lease. -/
theorem beginSession_eq {ids : Ids} (hids : ids.Safe) :
    beginSession sha256 ⟨ownedInputOf sha256 ids, none, some 0, false⟩ = .authenticating := by
  have hstart : beginExecution sha256 ⟨(ownedInputOf sha256 ids).toRuntimeAdapterInput, 0, false⟩
      = .verifying 0 _ := beginExecution_eq hdigest hids (Int.le_refl 0) (by decide)
  have hvalid : validateCodexValidationDispatchCandidate sha256 (ownedInputOf sha256 ids).dispatch = .ok () :=
    dispatch_valid hdigest hids
  have hbinding : (ownedInputOf sha256 ids).binding = binding sha256 := rfl
  unfold beginSession
  dsimp only
  rw [if_neg, if_neg, if_neg, hstart]
  · decide
  · show ¬ ("w" ≠ "w" ∨ "r" ≠ "r" ∨ "c" ≠ "c")
    decide
  · rw [hvalid, hbinding, binding_ok hdigest]
    simp

theorem opened_ok : validateSession ⟨binding sha256, true⟩ (ownedInput sha256).binding = .ok () := by
  have hbinding : (ownedInput sha256).binding = binding sha256 := rfl
  simp [validateSession, hbinding, binding_ok hdigest, sameBinding_ok hdigest, ofCodec, throwIf]

theorem start_owned (memory : SessionMemory) :
    (processSessionCoordinator sha256).start ⟨ownedInput sha256, none, some 0, false⟩ memory
      = (.nothing, memory, ⟨ownedInput sha256, .authenticating, []⟩) :=
  congrArg (fun point => (SessionShown.nothing, memory, (⟨ownedInput sha256, point, []⟩ : SessionCall)))
    (beginSession_eq hdigest sd_safe)

omit hdigest

theorem claimSession_admitted (sha256 : String → String) {remembered : SessionMemory} {now : Int}
    (h : memory.check sessionKey maxTrackedDispatches (claimAt now) = (.ok (), remembered)) :
    claimSession (ownedInput sha256) (some now) memory
      = (⟨[.check (claimAt now)], [⟨"su", "s", "d"⟩], [], []⟩, remembered, .claiming) := by
  have hcheck : memory.check sessionKey maxTrackedDispatches
      ⟨(ownedInput sha256).triple, now, (ownedInput sha256).dispatch.expiresAt⟩ = (.ok (), remembered) := h
  simp only [claimSession, hcheck]
  rfl

theorem claimSession_refused (sha256 : String → String) {purged : SessionMemory} {now : Int}
    {refusal : ReplayRefusal}
    (h : memory.check sessionKey maxTrackedDispatches (claimAt now) = (.error refusal, purged)) :
    claimSession (ownedInput sha256) (some now) memory
      = (⟨[.check (claimAt now)], [], [], []⟩, purged, .denied (sessionRefusal refusal)) := by
  have hcheck : memory.check sessionKey maxTrackedDispatches
      ⟨(ownedInput sha256).triple, now, (ownedInput sha256).dispatch.expiresAt⟩ = (.error refusal, purged) := h
  simp only [claimSession, hcheck]
  rfl

/-- The memory while the first session is open. -/
def claimed : SessionMemory :=
  ⟨[sessionKey ⟨"su", "s", "d"⟩], OrderedMap.empty.set (sessionKey ⟨"su", "s", "d"⟩) 60000⟩

/-- At the end of the window the id is forgotten. -/
theorem claimed_expired : ∃ memory, (claimed.release (sessionKey ⟨"su", "s", "d"⟩)).check
      sessionKey maxTrackedDispatches (claimAt 60000) = (.ok (), memory) := by
  refine ⟨_, Prod.ext (admitted_of_expired (by simp [claimAt, claimed, release]) ?_ (Int.le_refl 60000) ?_) rfl⟩
  · show (OrderedMap.set _ _ _).get? (sessionKey ⟨"su", "s", "d"⟩) = some 60000
    rw [OrderedMap.get?_set, if_pos rfl]
  · show 1 < 1024
    decide

/-- While the first session is open, its id is in use. -/
theorem claimed_refuses : ∃ refusal purged,
    claimed.check sessionKey maxTrackedDispatches (claimAt 500) = (.error refusal, purged) := by
  cases hchecked : (claimed.check sessionKey maxTrackedDispatches (claimAt 500)).1 with
  | error refusal => exact ⟨refusal, _, Prod.ext hchecked rfl⟩
  | ok u => exact absurd hchecked (not_admitted_of_active List.mem_cons_self)

theorem resume_owned {reply : SessionReply} {point' : SessionPoint} {memory' : SessionMemory}
    {shown : SessionShown} (events : List SessionEvent)
    (h : resumeSession reply (ownedInput sha256) point memory = (shown, memory', point')) :
    (processSessionCoordinator sha256).resume reply ⟨ownedInput sha256, point, events⟩ memory
      = (shown, memory', ⟨ownedInput sha256, point', events ++ shown.events⟩) := by
  simp only [processSessionCoordinator, h]

theorem resumeSession_claimed (sha256 : String → String) (clock : Nat → Option Int) (streams : SessionStreams)
    (memory : SessionMemory) :
    resumeSession ⟨.done (.ok ()), clock, streams⟩ (ownedInput sha256) .claiming memory
      = (⟨[], [], [⟨"su", "s", "d"⟩], []⟩, memory, .opening) := rfl

theorem resumeSession_terminal (sha256 : String → String) (streams : SessionStreams)
    (terminal : Except SessionError Bool) (memory : SessionMemory) :
    resumeSession ⟨.terminal terminal, fun _ => some 0, streams⟩ (ownedInput sha256) .running memory
      = (⟨[], [], [], [.closeInvoked]⟩, memory, .closing terminal) :=
  resumeSession_live streams memory rfl (show ¬ (60000 : Int) - 0 < 1 by decide) terminal

include hdigest

/-- What is done with the memory when the second execution is refused. -/
theorem overlapping_ops : sessionOps sha256 (overlapping sha256) = [.check (claimAt 0), .check (claimAt 500)] := by
  let coordinator := processSessionCoordinator sha256
  have hfirst : (empty : SessionMemory).check sessionKey maxTrackedDispatches (claimAt 0) = (.ok (), claimed) := rfl
  obtain ⟨refusal, purged, hrefused⟩ := claimed_refuses
  have hempty : coordinator.pool empty [] = ⟨empty, []⟩ := rfl
  obtain ⟨h₁, hpool⟩ := coordinator.start_last hempty (start_owned hdigest empty)
  obtain ⟨h₂, hpool⟩ := coordinator.start_last hpool (start_owned hdigest empty)
  obtain ⟨h₃, hpool⟩ := coordinator.resume_at (i := 0)
    (r := ⟨.done (.ok ()), fun _ => some 0, ⟨true, true⟩⟩) hpool rfl
    (resume_owned [] (claimSession_admitted sha256 hfirst))
  obtain ⟨h₄, hpool⟩ := coordinator.resume_at (i := 0) hpool rfl
    (resume_owned _ (resumeSession_claimed sha256 (fun _ => some 0) ⟨true, true⟩ claimed))
  obtain ⟨h₅, -⟩ := coordinator.resume_at (i := 1)
    (r := ⟨.done (.ok ()), fun _ => some 500, ⟨true, true⟩⟩) hpool rfl
    (resume_owned [] (claimSession_refused sha256 hrefused))
  rw [h₄, h₃, h₂, h₁] at h₅
  unfold sessionOps sessionsShown
  rw [show coordinator.shown empty (overlapping sha256) = _ from h₅]
  rfl

/-- The owner is asked twice. -/
theorem overtaken_openings : openings sha256 ⟨"su", "s", "d"⟩ (overtaken sha256) = 2 := by
  let coordinator := processSessionCoordinator sha256
  have hfirst : (empty : SessionMemory).check sessionKey maxTrackedDispatches (claimAt 0) = (.ok (), claimed) := rfl
  obtain ⟨memory, hexpired⟩ := claimed_expired
  have hempty : coordinator.pool empty [] = ⟨empty, []⟩ := rfl
  obtain ⟨h₁, hpool⟩ := coordinator.start_last hempty (start_owned hdigest empty)
  obtain ⟨h₂, hpool⟩ := coordinator.start_last hpool (start_owned hdigest empty)
  obtain ⟨h₃, hpool⟩ := coordinator.resume_at (i := 0)
    (r := ⟨.done (.ok ()), fun _ => some 0, ⟨true, true⟩⟩) hpool rfl
    (resume_owned [] (claimSession_admitted sha256 hfirst))
  obtain ⟨h₄, hpool⟩ := coordinator.resume_at (i := 0) hpool rfl
    (resume_owned _ (resumeSession_claimed sha256 (fun _ => some 0) ⟨true, true⟩ claimed))
  obtain ⟨h₅, hpool⟩ := coordinator.resume_at (i := 0) hpool rfl
    (resume_owned _ (resumeSession_opened ⟨true, true⟩ claimed (fun _ => some 0) (opened_ok hdigest)))
  obtain ⟨h₆, hpool⟩ := coordinator.resume_at (i := 0) hpool rfl
    (resume_owned _ (resumeSession_terminal sha256 ⟨true, true⟩ (.error .other) claimed))
  obtain ⟨h₇, hpool⟩ := coordinator.resume_at (i := 0) hpool rfl
    (resume_owned _ (resumeSession_exited claimed (fun _ => some 0) rfl (exit_ok hdigest) .other))
  obtain ⟨h₈, hpool⟩ := coordinator.resume_at (i := 1)
    (r := ⟨.done (.ok ()), fun _ => some 60000, ⟨true, true⟩⟩) hpool rfl
    (resume_owned [] (claimSession_admitted sha256 hexpired))
  obtain ⟨h₉, -⟩ := coordinator.resume_at (i := 1) hpool rfl
    (resume_owned _ (resumeSession_claimed sha256 (fun _ => some 60000) ⟨true, true⟩ memory))
  rw [h₈, h₇, h₆, h₅, h₄, h₃, h₂, h₁] at h₉
  unfold openings sessionsShown
  rw [show coordinator.shown empty (overtaken sha256) = _ from h₉]
  rfl

end Sample

open Sample in
/-- An execution that is refused, as the session of the dispatch is open. -/
theorem opened_at_most_once_overlapping :
    openings textDigest ⟨"su", "s", "d"⟩ (overlapping textDigest) ≤ 1 := by
  refine opened_at_most_once textDigest ⟨"su", "s", "d"⟩ (overlapping textDigest) ?_
  rw [overlapping_ops textDigest_digest]
  refine guarded_of_live fun x z hx hz => ?_
  simp only [List.mem_cons, ReplayOp.check.injEq, List.not_mem_nil, or_false] at hx hz
  rcases hx with rfl | rfl <;> rcases hz with rfl | rfl <;> decide

open Sample in
/-- The claim is made with the clock as it is after the lease, when the window of the dispatch may be over and its
id forgotten: then its session is opened again. -/
theorem opened_twice :
    ((overtaken textDigest).flatMap sessionReadings).Pairwise (· ≤ ·)
      ∧ openings textDigest ⟨"su", "s", "d"⟩ (overtaken textDigest) = 2 :=
  ⟨by decide, overtaken_openings textDigest_digest⟩

end VentureOS.Bridge
