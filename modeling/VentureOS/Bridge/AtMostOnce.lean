import VentureOS.Bridge.RuntimeAdapter

/-! # Dispatches are executed at most once

An execution pays for what it does when it is admitted: it is handed to the runner then, and signs its frames once
later. So a dispatch is executed as often as the replay memory admits it, which is once as long as it is not
forgotten: the memory keeps an id until the deadline of the execution, which can be long before the dispatch
expires. -/

namespace VentureOS.Bridge

open ReplayMemory

variable {sha256 : String → String}

/-! ## Pieces of an execution -/

/-- What a piece does to an execution, and what it shows. -/
inductive AdapterPiece (dispatch : CodexValidationDispatchCandidate) :
    AdapterPoint → AdapterShown → AdapterPoint → Prop where
  | idle (p : AdapterPoint) : AdapterPiece dispatch p .nothing p
  | refused {now deadline : Int} {code : RuntimeAdapterErrorCode}
      {ops : List (ReplayOp String CodexValidationDispatchCandidate)} :
      AdapterPiece dispatch (.verifying now deadline) ⟨ops, [], [], []⟩ (.refused code)
  | expired {now deadline : Int} {settlement : Settlement}
      {ops : List (ReplayOp String CodexValidationDispatchCandidate)} :
      AdapterPiece dispatch (.verifying now deadline) ⟨ops, [dispatch], [], []⟩ (.settled settlement)
  | invoked {now deadline : Int} {ops : List (ReplayOp String CodexValidationDispatchCandidate)} :
      AdapterPiece dispatch (.verifying now deadline) ⟨ops, [dispatch], [dispatch], []⟩ (.running deadline)
  | reported {deadline : Int} {frames : Except BridgeError (List UnsignedEnvelope)} :
      AdapterPiece dispatch (.running deadline) .nothing (.signing deadline frames)
  | sent {deadline : Int} {frames : Except BridgeError (List UnsignedEnvelope)}
      {unsigned : List UnsignedEnvelope} {consumed : Bool} :
      AdapterPiece dispatch (.signing deadline frames) ⟨[], [], [], signedFrames dispatch frames consumed⟩
        (.writing deadline unsigned)
  | unsent {deadline : Int} {frames : Except BridgeError (List UnsignedEnvelope)} {consumed : Bool}
      {settlement : Settlement} {ops : List (ReplayOp String CodexValidationDispatchCandidate)} :
      AdapterPiece dispatch (.signing deadline frames) ⟨ops, [], [], signedFrames dispatch frames consumed⟩
        (.settled settlement)
  | wrote {deadline : Int} {frames rest : List UnsignedEnvelope} :
      AdapterPiece dispatch (.writing deadline frames) .nothing (.writing deadline rest)
  | ended {p : AdapterPoint} {settlement : Settlement}
      {ops : List (ReplayOp String CodexValidationDispatchCandidate)}
      (admitted : (∃ deadline, p = .running deadline) ∨ ∃ deadline frames, p = .writing deadline frames) :
      AdapterPiece dispatch p ⟨ops, [], [], []⟩ (.settled settlement)

variable {memory : AdapterMemory} {deadline : Int}

variable {clock : Nat → Int}

theorem admit_piece {input : RuntimeAdapterInput} {now : Int} :
    AdapterPiece input.dispatch (.verifying now deadline) (admitExecution input now deadline clock memory).1
      (admitExecution input now deadline clock memory).2.2 := by
  unfold admitExecution
  dsimp only
  split
  · exact .refused
  · split
    · exact .expired
    · exact .invoked

variable {point : AdapterPoint}

theorem sendFrames_eq_ok {reply : AdapterReply}
    {frames : Except BridgeError (List UnsignedEnvelope)} {result : Except RuntimeAdapterErrorCode Unit}
    (h : sendFrames deadline reply frames result = .ok point) :
    ∃ unsigned, point = .writing deadline unsigned := by
  unfold sendFrames at h
  rw [check_bind_eq_ok] at h
  obtain ⟨-, h⟩ := h
  cases frames with
  | error e => cases h
  | ok unsigned =>
    simp only [beginWrite, check_bind_eq_ok] at h
    obtain ⟨-, -, h⟩ := h
    exact ⟨unsigned, (Except.ok.inj h).symm⟩

theorem beginWrite_eq_ok {reading : Int} {encodes : Bool} {frames : List UnsignedEnvelope}
    (h : beginWrite deadline reading encodes frames = .ok point) :
    point = .writing deadline frames := by
  simp only [beginWrite, check_bind_eq_ok] at h
  exact (Except.ok.inj h.2.2).symm

theorem reportEvidence_eq_ok {input : RuntimeAdapterInput} {terminal : ProtocolEvidence}
    (h : reportEvidence sha256 input deadline clock terminal = .ok point) :
    ∃ frames, point = .signing deadline frames := by
  unfold reportEvidence at h
  split at h
  · cases h
  · rw [except_bind_eq_ok] at h
    obtain ⟨frames, -, h⟩ := h
    exact ⟨frames, (Except.ok.inj h).symm⟩

theorem finishWrite_piece {dispatch : CodexValidationDispatchCandidate} {reply : AdapterReply}
    {frames : List UnsignedEnvelope} {result : Except RuntimeAdapterErrorCode Unit} {mutated accepted : Bool}
    :
    AdapterPiece dispatch (.writing deadline frames)
      (finishWrite dispatch deadline reply frames result mutated accepted memory).1
      (finishWrite dispatch deadline reply frames result mutated accepted memory).2.2 := by
  unfold finishWrite
  dsimp only
  split
  · exact .ended (Or.inr ⟨deadline, frames, rfl⟩)
  · exact .ended (Or.inr ⟨deadline, frames, rfl⟩)
  · rename_i frame rest _ _
    cases hnext : beginWrite deadline (reply.clock 1) reply.encodes (frame :: rest) with
    | error code => exact .ended (Or.inr ⟨deadline, frames, rfl⟩)
    | ok point =>
      rw [beginWrite_eq_ok hnext]
      exact .wrote

/-- **What a piece does**: one case for every point at which an execution waits. -/
theorem resumeExecution_piece (reply : AdapterReply) (call : AdapterCall) (memory : AdapterMemory) :
    AdapterPiece call.input.dispatch call.point (resumeExecution sha256 reply call memory).1
      (resumeExecution sha256 reply call memory).2.2 := by
  unfold resumeExecution
  dsimp only
  split
  · rename_i hpoint _
    rw [hpoint]
    exact .refused
  · rename_i hpoint _
    rw [hpoint]
    exact admit_piece
  · rename_i deadline terminal hpoint _
    rw [hpoint]
    cases hreported : reportEvidence sha256 call.input deadline reply.clock terminal with
    | error code => exact .ended (Or.inl ⟨deadline, rfl⟩)
    | ok point =>
      obtain ⟨frames, rfl⟩ := reportEvidence_eq_ok hreported
      exact .reported
  · rename_i deadline hpoint _
    rw [hpoint]
    exact .ended (Or.inl ⟨deadline, rfl⟩)
  · rename_i deadline frames consumed result hpoint _
    rw [hpoint]
    cases hsent : sendFrames deadline reply frames result with
    | error code => exact .unsent
    | ok point =>
      obtain ⟨unsigned, rfl⟩ := sendFrames_eq_ok hsent
      exact .sent
  · rename_i hpoint _
    rw [hpoint]
    exact finishWrite_piece
  · exact .idle _

/-! ## The replay memory of a run -/

/-- What was done with the memory. -/
def opsOf (shown : List AdapterShown) : List (ReplayOp String CodexValidationDispatchCandidate) :=
  shown.flatMap AdapterShown.ops

/-- A piece does to the memory what it shows, and admits what it shows. -/
abbrev Faithful (memory : AdapterMemory) (piece : AdapterShown × AdapterMemory × AdapterPoint) : Prop :=
  Uses replayKey maxTrackedDispatches memory piece.1.ops piece.1.admitted piece.2.1

theorem faithful_settle {memory' : AdapterMemory} {shown : AdapterShown}
    (h : Uses replayKey maxTrackedDispatches memory shown.ops shown.admitted memory')
    (dispatch : CodexValidationDispatchCandidate) (settlement : Settlement) :
    Faithful memory (settle dispatch settlement shown memory') :=
  h.released (replayKey dispatch)

theorem faithful_continueAt {shown : AdapterShown} (hops : shown.ops = [])
    (hadmitted : shown.admitted = []) (dispatch : CodexValidationDispatchCandidate)
    (next : Except RuntimeAdapterErrorCode AdapterPoint) :
    Faithful memory (continueAt dispatch shown memory next) := by
  have hnothing : Uses replayKey maxTrackedDispatches memory shown.ops shown.admitted memory := by
    rw [hops, hadmitted]
    exact Uses.nil memory
  cases next with
  | ok point => exact hnothing
  | error code => exact faithful_settle hnothing dispatch _

theorem faithful_admit {input : RuntimeAdapterInput} {now : Int} : Faithful memory (admitExecution input now deadline clock memory) := by
  unfold admitExecution
  dsimp only
  split
  · rename_i hchecked
    exact Uses.refused hchecked
  · rename_i hchecked
    split
    · exact faithful_settle (Uses.admitted hchecked) _ _
    · exact Uses.admitted hchecked

/-- A piece does to the memory what it shows, and admits what it shows. -/
theorem resumeExecution_faithful (reply : AdapterReply) (call : AdapterCall) (memory : AdapterMemory) :
    Faithful memory (resumeExecution sha256 reply call memory) := by
  have hnothing : Uses replayKey maxTrackedDispatches memory AdapterShown.nothing.ops
    AdapterShown.nothing.admitted memory := Uses.nil memory
  unfold resumeExecution
  dsimp only
  split
  · exact hnothing
  · exact faithful_admit
  · exact faithful_continueAt rfl rfl _ _
  · exact faithful_settle hnothing _ _
  · exact faithful_continueAt rfl rfl _ _
  · unfold finishWrite
    dsimp only
    split
    · exact faithful_settle hnothing _ _
    · exact faithful_settle hnothing _ _
    · exact faithful_continueAt rfl rfl _ _
  · exact hnothing

/-! ## Runs of an adapter -/

variable (sha256)

/-- What has been shown after some moves. -/
def shownBy (moves : List (Move AdapterStart AdapterReply)) : List AdapterShown :=
  (runtimeAdapter sha256).shown empty moves

/-- How often the runner was invoked for `d`. -/
def invocations (d : CodexValidationDispatchCandidate) (moves : List (Move AdapterStart AdapterReply)) : Nat :=
  ((shownBy sha256 moves).map fun o => o.invoked.count d).sum

/-- How many sets of runtime frames were signed for `d`. -/
def signings (d : CodexValidationDispatchCandidate) (moves : List (Move AdapterStart AdapterReply)) : Nat :=
  ((shownBy sha256 moves).map fun o => o.signed.countP fun e => decide (e.1 = d)).sum

/-- How often `d` was admitted. -/
def admissions (d : CodexValidationDispatchCandidate) (moves : List (Move AdapterStart AdapterReply)) : Nat :=
  ((shownBy sha256 moves).map fun o => o.admitted.count d).sum

/-- An execution that has passed the replay checks. -/
def AdapterPoint.accepted : AdapterPoint → Bool
  | .verifying _ _ => false
  | .refused _ => false
  | _ => true

/-- An execution that can still sign. -/
def AdapterPoint.unsigned : AdapterPoint → Bool
  | .running _ => true
  | .signing _ _ => true
  | _ => false

/-- The executions of `d` that have passed the replay checks. -/
def accepted (d : CodexValidationDispatchCandidate) (moves : List (Move AdapterStart AdapterReply)) : Nat :=
  ((runtimeAdapter sha256).pool empty moves).calls.countP
    fun call => decide (call.input.dispatch = d) && call.point.accepted

variable {sha256}

theorem admissions_le_one {d : CodexValidationDispatchCandidate} {moves : List (Move AdapterStart AdapterReply)}
    (hguarded : Guarded replayKey maxTrackedDispatches d (opsOf (shownBy sha256 moves))) :
    admissions sha256 d moves ≤ 1 :=
  hguarded.admitted_le_one (fun _ memory => Uses.nil memory)
    (fun reply call memory => resumeExecution_faithful reply call memory)

/-! ### What pieces pay with -/

/-- One for an execution of `d` at a point with a property. -/
def weightOf (d : CodexValidationDispatchCandidate) (at? : AdapterPoint → Bool) (call : AdapterCall) : Nat :=
  if call.input.dispatch = d ∧ at? call.point = true then 1 else 0

section Pieces

variable {d dispatch : CodexValidationDispatchCandidate} {input : RuntimeAdapterInput}
  {p p' : AdapterPoint} {shown : AdapterShown}

theorem AdapterPiece.invoked_le (h : AdapterPiece dispatch p shown p') :
    shown.invoked.count d ≤ shown.admitted.count d := by
  cases h with
  | invoked => exact Nat.le_refl _
  | _ => exact Nat.zero_le _

theorem countP_signedFrames_le (d dispatch : CodexValidationDispatchCandidate)
    (frames : Except BridgeError (List UnsignedEnvelope)) (consumed : Bool) :
    (signedFrames dispatch frames consumed).countP (fun e => decide (e.1 = d))
      ≤ if dispatch = d then 1 else 0 := by
  cases frames with
  | error e => exact Nat.zero_le _
  | ok unsigned =>
    cases consumed with
    | false => exact Nat.zero_le _
    | true => simp [signedFrames, List.countP_cons]

/-- An execution that was handed to the runner signs once, and then no more. -/
theorem AdapterPiece.signed_le (h : AdapterPiece input.dispatch p shown p') :
    weightOf d AdapterPoint.unsigned ⟨input, p'⟩ + shown.signed.countP (fun e => decide (e.1 = d))
      ≤ weightOf d AdapterPoint.unsigned ⟨input, p⟩ + shown.invoked.count d := by
  unfold weightOf
  cases h with
  | @sent deadline frames unsigned consumed =>
    simpa [AdapterPoint.unsigned] using countP_signedFrames_le d input.dispatch frames consumed
  | @unsent deadline frames consumed settlement ops =>
    simpa [AdapterPoint.unsigned] using countP_signedFrames_le d input.dispatch frames consumed
  | invoked => simp [AdapterPoint.unsigned, List.count_singleton]
  | _ => simp [AdapterPoint.unsigned, AdapterShown.nothing]

/-- An execution that passes the replay checks is admitted then. -/
theorem AdapterPiece.accepted_le (h : AdapterPiece input.dispatch p shown p') :
    weightOf d AdapterPoint.accepted ⟨input, p'⟩
      ≤ weightOf d AdapterPoint.accepted ⟨input, p⟩ + shown.admitted.count d := by
  unfold weightOf
  cases h with
  | ended hadmitted =>
    rcases hadmitted with ⟨deadline, rfl⟩ | ⟨deadline, frames, rfl⟩ <;> exact Nat.le_add_right _ _
  | expired | invoked => simp [AdapterPoint.accepted, List.count_singleton]
  | _ => simp [AdapterPoint.accepted, AdapterShown.nothing]

end Pieces

/-- An execution starts without having passed anything. -/
theorem beginExecution_starts (sha256 : String → String) (start : AdapterStart) :
    (beginExecution sha256 start).accepted = false ∧ (beginExecution sha256 start).unsigned = false := by
  unfold beginExecution
  split
  · exact ⟨rfl, rfl⟩
  · split
    · exact ⟨rfl, rfl⟩
    · split <;> exact ⟨rfl, rfl⟩

theorem invocations_le_admissions (d : CodexValidationDispatchCandidate)
    (moves : List (Move AdapterStart AdapterReply)) :
    invocations sha256 d moves ≤ admissions sha256 d moves := by
  have h := (runtimeAdapter sha256).accounting (fun _ => 0) (fun o => o.invoked.count d)
    (fun o => o.admitted.count d)
    (fun start memory => Nat.le_refl 0)
    (fun reply call memory => by
      rw [Nat.zero_add, Nat.zero_add]
      exact (resumeExecution_piece reply call memory).invoked_le) empty moves
  exact Nat.le_trans (Nat.le_add_left _ _) h

theorem signings_le_invocations (d : CodexValidationDispatchCandidate)
    (moves : List (Move AdapterStart AdapterReply)) :
    signings sha256 d moves ≤ invocations sha256 d moves := by
  have h := (runtimeAdapter sha256).accounting (weightOf d AdapterPoint.unsigned)
    (fun o => o.signed.countP fun e => decide (e.1 = d)) (fun o => o.invoked.count d)
    (fun start memory => by
      simp [runtimeAdapter, weightOf, (beginExecution_starts sha256 start).2, AdapterShown.nothing])
    (fun reply call memory => (resumeExecution_piece reply call memory).signed_le) empty moves
  exact Nat.le_trans (Nat.le_add_left _ _) h

theorem accepted_le_admissions (d : CodexValidationDispatchCandidate)
    (moves : List (Move AdapterStart AdapterReply)) :
    accepted sha256 d moves ≤ admissions sha256 d moves := by
  have h := (runtimeAdapter sha256).accounting (weightOf d AdapterPoint.accepted) (fun _ => 0)
    (fun o => o.admitted.count d)
    (fun start memory => by
      simp [runtimeAdapter, weightOf, (beginExecution_starts sha256 start).1])
    (fun reply call memory => (resumeExecution_piece reply call memory).accepted_le) empty moves
  have hcount : accepted sha256 d moves
      = CallSystem.weigh (weightOf d AdapterPoint.accepted)
        ((runtimeAdapter sha256).pool empty moves).calls := by
    unfold accepted CallSystem.weigh
    generalize ((runtimeAdapter sha256).pool empty moves).calls = calls
    induction calls with
    | nil => rfl
    | cons call rest ih =>
      rw [List.countP_cons, ih, List.map_cons, List.sum_cons, Nat.add_comm]
      simp [weightOf]
  rw [hcount]
  exact Nat.le_trans (Nat.le_add_right _ _) h

/-! ### At most once -/

/-- **A dispatch is executed at most once**, in every run in which, whenever an execution of it comes to the
replay checks after an earlier one was admitted, that one has not ended, or no check has read a time at or after
its deadline. -/
theorem executed_at_most_once (d : CodexValidationDispatchCandidate)
    (moves : List (Move AdapterStart AdapterReply))
    (hguarded : Guarded replayKey maxTrackedDispatches d (opsOf (shownBy sha256 moves))) :
    invocations sha256 d moves ≤ 1 ∧ signings sha256 d moves ≤ 1 ∧ accepted sha256 d moves ≤ 1 := by
  have hadmissions := admissions_le_one hguarded
  have hinvocations := Nat.le_trans (invocations_le_admissions d moves) hadmissions
  exact ⟨hinvocations, Nat.le_trans (signings_le_invocations d moves) hinvocations,
    Nat.le_trans (accepted_le_admissions d moves) hadmissions⟩

/-! ### A dispatch that is executed twice -/

/-- The readings of the clock of a move. -/
def readings : Move AdapterStart AdapterReply → List Int
  | .start a => [a.now]
  | .resume _ reply => [reply.clock 0, reply.clock 1]

/-- The clock never goes back. -/
def Chronological (moves : List (Move AdapterStart AdapterReply)) : Prop :=
  (moves.flatMap readings).Pairwise (· ≤ ·)

instance (moves : List (Move AdapterStart AdapterReply)) : Decidable (Chronological moves) :=
  inferInstanceAs (Decidable (List.Pairwise _ _))

namespace Sample

/-- What an execution is for: a session, and a dispatch of it. -/
structure Ids where
  sessionId : String
  dispatchId : String

/-- The ids are references, and can be hashed. -/
structure Ids.Safe (ids : Ids) : Prop where
  session : referencePattern ids.sessionId = true ∧ isPlainText ids.sessionId = true
  dispatch : referencePattern ids.dispatchId = true ∧ isPlainText ids.dispatchId = true

variable (sha256 : String → String) (ids : Ids)

/-- The hash of a value that is well formed. -/
def digestOf (value : Json) : String := sha256 (String.ofList (Durable.canonical value).text)

def bridgeOf : BridgeContext where
  workspaceId := "w"
  runtimeId := "r"
  connectionId := "c"
  sessionId := ids.sessionId
  principalReference := "p"
  parentNonce := "n1"
  runtimeNonce := "n2"
  secretReference := "s1"
  expectedSecretDigest := sha256 "s1"
  authGeneration := 1
  authenticatedAt := 0
  expiresAt := 60000

/-- A minute is granted, of which an execution may take a second. The hashes of the candidate are left out. -/
def draftOf : CodexValidationDispatchCandidate where
  workspaceId := "w"
  runtimeId := "r"
  connectionId := "c"
  sessionId := ids.sessionId
  principalReference := "p"
  authGeneration := 1
  registrationCandidateHash := sha256 "registration"
  capabilityCandidateHash := sha256 "capability"
  heartbeatCandidateHash := sha256 "heartbeat"
  capabilityDigest := sha256 "capabilities"
  bridgeIdentityHash := digestOf sha256 (bridgeOf sha256 ids).identity
  secretBindingHash := digestOf sha256 (bridgeOf sha256 ids).secretBinding
  dispatchId := ids.dispatchId
  taskId := "t"
  runId := "run"
  agentId := "a"
  authorityLevel := 1
  taskPolicyHash := sha256 "policy"
  maximumComputeUnits := 1
  maximumDurationMs := 1000
  messageId := ids.dispatchId
  payloadDigest := ""
  unsignedEnvelopeDigest := ""
  issuedAt := 0
  expiresAt := 60000
  validationDispatchCandidateHash := ""

/-- The draft with the digests of its frame. -/
def framedOf : CodexValidationDispatchCandidate :=
  let payload := { draftOf sha256 ids with
    payloadDigest := digestOf sha256 (.obj (codexValidationDispatchPayload (draftOf sha256 ids))) }
  { payload with unsignedEnvelopeDigest := digestOf sha256 (unsignedEnvelope payload).toJson }

def dispatchOf : CodexValidationDispatchCandidate :=
  { framedOf sha256 ids with validationDispatchCandidateHash := digestOf sha256 (framedOf sha256 ids).normalized }

def inputOf : RuntimeAdapterInput where
  dispatch := dispatchOf sha256 ids
  bridge := bridgeOf sha256 ids
  dispatchEnvelope :=
    ⟨unsignedEnvelope (dispatchOf sha256 ids), "AAAAAAAAAAAAAAAAAAAAAAAAAAAAAAAAAAAAAAAAAAA"⟩

/-- One dispatch of one session. -/
def sd : Ids := ⟨"s", "d"⟩

def bridge : BridgeContext := bridgeOf sha256 sd

def dispatch : CodexValidationDispatchCandidate := dispatchOf sha256 sd

def input : RuntimeAdapterInput := inputOf sha256 sd

def evidence : ProtocolEvidence where
  threadId := "thread"
  turnId := "turn"
  messageHash := sha256 "message"
  progressEventCount := 1
  progressEvidenceHash := sha256 "progress"
  tokenUsageEventCount := 1
  tokenUsageEvidenceHash := sha256 "usage"
  usageAccountingState := "OBSERVED_UNMAPPED"
  recognizedCostMinorUnits := 0
  recognizedComputeUnits := 0
  interruption := none

/-- The payload of the last frame. -/
def resultPayload (dispatch : CodexValidationDispatchCandidate) (terminal : ProtocolEvidence) :
    List (String × Json) :=
  statusPayload dispatch ++ [
    ("resultCode", .str "VALIDATION_COMPLETED"),
    ("terminalThreadId", .str terminal.threadId),
    ("terminalTurnId", .str terminal.turnId),
    ("terminalMessageHash", .str terminal.messageHash),
    ("terminalStatus", .str "completed")] ++ observationPayload terminal

/-- The names of the fields of a record. -/
def fieldNames : Json → List String
  | .obj fields => fields.map Prod.fst
  | _ => []

/-- The names of the fields of what is hashed. -/
def names : List (List String) := [
  fieldNames (.obj (codexValidationDispatchPayload (draftOf id sd))),
  fieldNames (unsignedEnvelope (draftOf id sd)).toJson,
  fieldNames (draftOf id sd).normalized,
  fieldNames (bridge id).identity,
  fieldNames (bridge id).secretBinding,
  fieldNames (.obj (resultPayload (dispatch id) (evidence id))),
  fieldNames (.obj (statusPayload (dispatch id)))]

/-- The texts that are hashed, besides digests and ids. -/
def texts : List String := [
  "codex.runtime.round-trip.v1", "ventureos.bridge.v1", "w", "r", "c", "s", "p", "n1", "n2", "s1", "d", "t",
  "run", "a", "DISPATCH", "1970-01-01T00:00:00.000Z", "1970-01-01T00:01:00.000Z", "CODEX_APP_SERVER_STDIO_V1",
  "NOT_CONFIGURED", "NOT_SENT", "VALIDATION_COMPLETED", "thread", "turn", "completed", "OBSERVED_UNMAPPED"]

/-- What is known of the names and the texts. -/
theorem texts_checked :
    names.flatten.eraseDups.all isPlainName = true ∧ texts.all isPlainText = true
    ∧ toISOString 0 = some "1970-01-01T00:00:00.000Z" ∧ toISOString 60000 = some "1970-01-01T00:01:00.000Z"
    ∧ (["d", "w", "r", "c", "s", "p", "t", "run", "a", "n1", "n2", "s1", "thread", "turn"].all referencePattern) = true
    ∧ macPattern "AAAAAAAAAAAAAAAAAAAAAAAAAAAAAAAAAAAAAAAAAAA" = true := by
  decide +kernel

theorem isPlainName_of_mem : ∀ record ∈ names, ∀ name ∈ record, isPlainName name = true := by
  intro record hrecord name hname
  apply List.all_eq_true.mp texts_checked.1
  exact List.mem_eraseDups.mpr (List.mem_flatten.mpr ⟨record, hrecord, hname⟩)

theorem isPlainText_of_mem : ∀ text ∈ texts, isPlainText text = true := List.all_eq_true.mp texts_checked.2.1

theorem timestamp_start : timestampJson 0 = .str "1970-01-01T00:00:00.000Z" := by
  rw [timestampJson, texts_checked.2.2.1]
  rfl

theorem timestamp_end : timestampJson 60000 = .str "1970-01-01T00:01:00.000Z" := by
  rw [timestampJson, texts_checked.2.2.2.1]
  rfl

/-- Values that can be hashed. -/
inductive Plain : Json → Prop where
  | text {s : String} (h : s ∈ texts) : Plain (.str s)
  | session : Plain (.str ids.sessionId)
  | dispatch : Plain (.str ids.dispatchId)
  | digest (s : String) : Plain (.str (sha256 s))
  | int {n : Int} (h : isSafeInteger n = true) : Plain (.int n)
  | record {fields : List (String × Json)} (hlength : fields.length ≤ 64)
      (hnames : fieldNames (.obj fields) ∈ names) (hvalues : ∀ field ∈ fields, Plain field.2) :
      Plain (.obj fields)

variable {sha256 ids}

theorem Plain.texts : (∀ s ∈ texts, Plain sha256 ids (.str s)) ∧ (∀ n ∈ [0, 1, 1000], Plain sha256 ids (.int n)) := by
  refine ⟨fun s h => .text h, fun n h => .int ?_⟩
  revert n
  decide

theorem payload_plain : Plain sha256 ids (.obj (codexValidationDispatchPayload (dispatchOf sha256 ids))) := by
  have htexts := @Plain.texts sha256 ids
  simp only [texts, List.forall_mem_cons] at htexts
  refine .record ?_ ?_ ?_
  · simp [codexValidationDispatchPayload]
  · exact List.mem_of_getElem? (i := 0) rfl
  · simp [codexValidationDispatchPayload, codexValidationChallenge, dispatchOf, framedOf, draftOf, Plain.digest,
      Plain.dispatch, htexts]

theorem unsigned_plain : Plain sha256 ids (unsignedEnvelope (framedOf sha256 ids)).toJson := by
  have htexts := @Plain.texts sha256 ids
  simp only [texts, List.forall_mem_cons] at htexts
  refine .record ?_ ?_ ?_
  · simp
  · exact List.mem_of_getElem? (i := 1) rfl
  · simp [unsignedEnvelope, bridgeProtocolVersion, framedOf, draftOf, Plain.digest, Plain.session, Plain.dispatch, htexts, timestamp_start,
      timestamp_end, digestOf, FrameType.text]
    exact payload_plain

theorem normalized_plain : Plain sha256 ids (framedOf sha256 ids).normalized := by
  have htexts := @Plain.texts sha256 ids
  simp only [texts, List.forall_mem_cons] at htexts
  refine .record ?_ ?_ ?_
  · simp
  · refine List.mem_of_getElem? (i := 2) ?_
    simp [names, fieldNames, CodexValidationDispatchCandidate.normalized]
  · simp [framedOf, draftOf, codexValidationChallenge, Plain.digest, Plain.session, Plain.dispatch, htexts, timestamp_start, timestamp_end,
      digestOf]

theorem identity_plain : Plain sha256 ids (bridgeOf sha256 ids).identity := by
  have htexts := @Plain.texts sha256 ids
  simp only [texts, List.forall_mem_cons] at htexts
  refine .record ?_ ?_ ?_
  · simp
  · exact List.mem_of_getElem? (i := 3) rfl
  · simp [bridgeOf, Plain.digest, Plain.session, htexts, timestamp_start, timestamp_end]

theorem secretBinding_plain : Plain sha256 ids (bridgeOf sha256 ids).secretBinding := by
  have htexts := @Plain.texts sha256 ids
  simp only [texts, List.forall_mem_cons] at htexts
  refine .record ?_ ?_ ?_
  · simp
  · exact List.mem_of_getElem? (i := 4) rfl
  · simp [bridgeOf, Plain.digest, htexts]

section Valid

variable (hdigest : ∀ s, Durable.sha256Pattern (sha256 s) = true) (hids : ids.Safe)
include hdigest hids

theorem Plain.checkCanonical_eq_ok {value : Json} (h : Plain sha256 ids value) : checkCanonical value = .ok () := by
  induction h with
  | text h => exact checkCanonical_str (isPlainText_of_mem _ h)
  | session => exact checkCanonical_str hids.session.2
  | dispatch => exact checkCanonical_str hids.dispatch.2
  | digest s => exact checkCanonical_str (isPlainText_of_digest (hdigest s))
  | int h =>
    rw [checkCanonical, throwIf_eq_ok, h]
    exact Bool.noConfusion
  | record hlength hnames _ ih =>
    refine checkCanonical_obj hlength fun field hfield => ⟨?_, ih field hfield⟩
    exact isPlainName_of_mem _ hnames _ (List.mem_map_of_mem hfield)

theorem hash_eq_ok {value : Json} (h : Plain sha256 ids value) :
    hash sha256 value = .ok (digestOf sha256 value) := by
  rw [hash, canonicalJson, h.checkCanonical_eq_ok hdigest hids]
  rfl

omit hdigest hids in
theorem references_ok : ∀ s ∈ ["d", "w", "r", "c", "s", "p", "t", "run", "a", "n1", "n2", "s1", "thread", "turn"],
    referencePattern s = true :=
  List.all_eq_true.mp texts_checked.2.2.2.2.1

/-- The candidate passes its own validation. -/
theorem dispatch_valid : validateCodexValidationDispatchCandidate sha256 (dispatchOf sha256 ids) = .ok () := by
  have hpayload : hash sha256 (.obj (unsignedEnvelope (dispatchOf sha256 ids)).payload)
      = .ok (dispatchOf sha256 ids).payloadDigest := hash_eq_ok hdigest hids payload_plain
  have hunsigned : hash sha256 (unsignedEnvelope (dispatchOf sha256 ids)).toJson
      = .ok (dispatchOf sha256 ids).unsignedEnvelopeDigest := hash_eq_ok hdigest hids unsigned_plain
  have hnormalized : hash sha256 (dispatchOf sha256 ids).normalized
      = .ok (dispatchOf sha256 ids).validationDispatchCandidateHash := hash_eq_ok hdigest hids normalized_plain
  have hreferences := references_ok
  simp only [List.forall_mem_cons] at hreferences
  simp only [validateCodexValidationDispatchCandidate, hpayload, hunsigned, hnormalized, except_bind_eq_ok,
    Except.ok.injEq, exists_eq_left']
  simp [dispatchOf, framedOf, draftOf, dispatchReference, dispatchDigest, boundedInteger, maxWindowMs, hreferences,
    hids.session, hids.dispatch, hdigest, digestOf, isSafeInteger, maxSafeInteger]

omit hdigest hids in
theorem safeReference_eq_ok (field : String) {s : String}
    (h : referencePattern s = true ∧ isPlainText s = true) : safeReference s field = .ok () := by
  have hsafe := (Bool.and_eq_true_iff.mp h.2).2
  rw [Bool.not_eq_true'] at hsafe
  rw [safeReference, throwIf_eq_ok, h.1, hsafe]
  simp

omit hdigest hids in
theorem safeReferences_ok (field : String) :
    ∀ s ∈ ["d", "w", "r", "c", "s", "p"], safeReference s field = .ok () := by
  intro s hs
  have hlisted : ∀ s ∈ ["d", "w", "r", "c", "s", "p"],
      s ∈ ["d", "w", "r", "c", "s", "p", "t", "run", "a", "n1", "n2", "s1", "thread", "turn"] ∧ s ∈ texts := by
    decide
  exact safeReference_eq_ok field ⟨references_ok s (hlisted s hs).1, isPlainText_of_mem s (hlisted s hs).2⟩

theorem envelope_valid : validateBridgeEnvelope (inputOf sha256 ids).dispatchEnvelope = .ok () := by
  have hmac : macPattern "AAAAAAAAAAAAAAAAAAAAAAAAAAAAAAAAAAAAAAAAAAA" = true := texts_checked.2.2.2.2.2
  have hreferences := safeReferences_ok
  simp only [List.forall_mem_cons, forall_and] at hreferences
  have hpayload : checkCanonical (.obj (inputOf sha256 ids).dispatchEnvelope.payload) = .ok () :=
    payload_plain.checkCanonical_eq_ok hdigest hids
  simp only [validateBridgeEnvelope, check_bind_eq_ok, hpayload]
  simp [inputOf, unsignedEnvelope, dispatchOf, framedOf, draftOf, hreferences, safeReference_eq_ok _ hids.session,
    safeReference_eq_ok _ hids.dispatch, hdigest, hmac,
    digestOf, isSafeInteger, maxSafeInteger]

omit hdigest hids in
theorem frame_bounded : enforceFrameBounds (inputOf sha256 ids).dispatchEnvelope.toJson = .ok () := by
  simp [enforceFrameBounds, inputOf, BridgeEnvelope.toJson, UnsignedEnvelope.toJson, unsignedEnvelope,
    codexValidationDispatchPayload, timestampJson, frameSize, fieldsSize, frameFits, fieldsFit]

theorem frame_valid :
    validateDispatchFrame sha256 (dispatchOf sha256 ids) (inputOf sha256 ids).dispatchEnvelope = .ok () := by
  have hunsigned : hash sha256 (inputOf sha256 ids).dispatchEnvelope.toUnsignedEnvelope.toJson
      = .ok (dispatchOf sha256 ids).unsignedEnvelopeDigest := hash_eq_ok hdigest hids unsigned_plain
  have hpayload : canonicalJson (.obj (inputOf sha256 ids).dispatchEnvelope.payload)
      = canonicalJson (.obj (codexValidationDispatchPayload (dispatchOf sha256 ids))) := rfl
  have htext : ∃ text, canonicalJson (.obj (codexValidationDispatchPayload (dispatchOf sha256 ids))) = .ok text := by
    rw [canonicalJson, payload_plain.checkCanonical_eq_ok hdigest hids]
    exact ⟨_, rfl⟩
  obtain ⟨text, htext⟩ := htext
  simp only [validateDispatchFrame, frame_bounded, envelope_valid hdigest hids, except_bind_eq_ok, hunsigned, hpayload,
    htext, Except.ok.injEq, exists_eq_left']
  simp [inputOf, unsignedEnvelope]

theorem bridge_valid : validateBridge (bridgeOf sha256 ids) = .ok () := by
  have hreferences := references_ok
  simp only [List.forall_mem_cons] at hreferences
  simp [validateBridge, bridgeOf, reference, digest, hreferences, hids.session, hdigest, isSafeInteger, maxSafeInteger]

theorem binding_valid : validateBinding sha256 (dispatchOf sha256 ids) (bridgeOf sha256 ids) = .ok () := by
  have hidentity : hash sha256 (bridgeOf sha256 ids).identity = .ok (dispatchOf sha256 ids).bridgeIdentityHash :=
    hash_eq_ok hdigest hids identity_plain
  have hsecret : hash sha256 (bridgeOf sha256 ids).secretBinding = .ok (dispatchOf sha256 ids).secretBindingHash :=
    hash_eq_ok hdigest hids secretBinding_plain
  simp only [validateBinding, hidentity, hsecret, except_bind_eq_ok, Except.ok.injEq, exists_eq_left']
  simp [dispatchOf, framedOf, draftOf, bridgeOf]

theorem input_valid : validateInput sha256 (inputOf sha256 ids) = .ok () := by
  have hchecks : (inputOf sha256 ids).dispatch = dispatchOf sha256 ids
      ∧ (inputOf sha256 ids).bridge = bridgeOf sha256 ids := ⟨rfl, rfl⟩
  rw [validateInput, hchecks.1, hchecks.2, dispatch_valid hdigest hids, bridge_valid hdigest hids, binding_valid hdigest hids,
    frame_valid hdigest hids]
  rfl

/-- An execution at a time within the window waits for the lease. -/
theorem beginExecution_eq {now : Int} (hstart : 0 ≤ now) (hend : now < 60000) :
    beginExecution sha256 ⟨inputOf sha256 ids, now, false⟩
      = .verifying now (deadlineAt (inputOf sha256 ids) now) := by
  have hwindow : ¬ (now < (inputOf sha256 ids).dispatch.issuedAt ∨ (inputOf sha256 ids).dispatch.expiresAt ≤ now
      ∨ (inputOf sha256 ids).bridge.expiresAt ≤ now) := by
    show ¬ (now < 0 ∨ 60000 ≤ now ∨ 60000 ≤ now)
    omega
  simp only [beginExecution, input_valid hdigest hids]
  rw [if_neg hwindow, if_neg (by decide)]

end Valid

theorem sd_safe : sd.Safe := ⟨by decide, by decide⟩

section Executed

variable (hdigest : ∀ s, Durable.sha256Pattern (sha256 s) = true)
include hdigest

omit hdigest in
theorem result_plain : Plain sha256 sd (.obj (resultPayload (dispatch sha256) (evidence sha256))) := by
  have htexts := @Plain.texts sha256 sd
  simp only [texts, List.forall_mem_cons] at htexts
  refine .record ?_ ?_ ?_
  · simp [resultPayload, statusPayload, observationPayload]
  · exact List.mem_of_getElem? (i := 5) rfl
  · simp [resultPayload, statusPayload, observationPayload, dispatch, dispatchOf, framedOf, draftOf, evidence,
      codexValidationChallenge, Plain.digest, Plain.dispatch, htexts]

omit hdigest in
theorem status_plain : Plain sha256 sd (.obj (statusPayload (dispatch sha256))) := by
  have htexts := @Plain.texts sha256 sd
  simp only [texts, List.forall_mem_cons] at htexts
  refine .record ?_ ?_ ?_
  · simp [statusPayload]
  · exact List.mem_of_getElem? (i := 6) rfl
  · simp [statusPayload, dispatch, dispatchOf, framedOf, draftOf, codexValidationChallenge, Plain.dispatch, htexts]

theorem evidence_valid : validateTerminal (evidence sha256) = .ok () := by
  have hreferences : referencePattern "thread" = true ∧ referencePattern "turn" = true :=
    ⟨references_ok _ (by decide), references_ok _ (by decide)⟩
  simp [validateTerminal, evidence, reference, digest, hreferences, hdigest, isSafeInteger, maxSafeInteger,
    usageAccountingState]

theorem label_ok (label : String) : ∃ messageId, labelled sha256 label (dispatch sha256) = .ok messageId := by
  have hid : Plain sha256 sd (.str "d") := .text (by decide)
  have hlabel : hash sha256 (.str (dispatch sha256).dispatchId) = .ok _ := hash_eq_ok hdigest sd_safe hid
  rw [labelled, hlabel]
  exact ⟨_, rfl⟩

theorem status_ok (issuedAt expiresAt : Int) : ∃ status,
    statusEnvelope sha256 (dispatch sha256) (bridge sha256) issuedAt expiresAt = .ok status := by
  obtain ⟨messageId, hlabel⟩ := label_ok hdigest "validation-status"
  rw [statusEnvelope, hlabel]
  show ∃ status, runtimeEnvelope sha256 _ _ messageId _ _ _ _ = .ok status
  rw [runtimeEnvelope, hash_eq_ok hdigest sd_safe status_plain]
  exact ⟨_, rfl⟩

theorem result_ok (issuedAt expiresAt : Int) : ∃ result,
    terminalEnvelope sha256 (dispatch sha256) (bridge sha256) (evidence sha256) issuedAt expiresAt
      = .ok result := by
  obtain ⟨messageId, hlabel⟩ := label_ok hdigest "validation-result"
  rw [terminalEnvelope, hlabel]
  show ∃ result, runtimeEnvelope sha256 _ _ messageId _ _ _
    (resultPayload (dispatch sha256) (evidence sha256)) = .ok result
  rw [runtimeEnvelope, hash_eq_ok hdigest sd_safe result_plain]
  exact ⟨_, rfl⟩

/-- The evidence is reported with two frames. -/
theorem reportEvidence_eq {now : Int} (hnow : 0 ≤ now) (hend : now < 60000) :
    ∃ status result, reportEvidence sha256 (input sha256) (deadlineAt (input sha256) now) (fun _ => now)
      (evidence sha256) = .ok (.signing (deadlineAt (input sha256) now) (.ok [status, result])) := by
  obtain ⟨status, hstatus⟩ := status_ok hdigest now (deadlineAt (input sha256) now)
  obtain ⟨result, hresult⟩ := result_ok hdigest now (deadlineAt (input sha256) now)
  have hlive : ¬ deadlineAt (input sha256) now ≤ now := by
    show ¬ min (now + 1000) (min 60000 60000) ≤ now
    omega
  have htimestamp : ∀ floor, floor ≤ now →
      authorizedTimestamp (deadlineAt (input sha256) now) now floor = .ok now := by
    intro floor hfloor
    rw [authorizedTimestamp, Int.max_eq_left hfloor, throwIf, if_neg hlive]
    rfl
  have hframes : runtimeFrames sha256 (dispatch sha256) (bridge sha256) (evidence sha256)
      (deadlineAt (input sha256) now) (fun _ => now) = .ok (.ok [status, result]) := by
    have hinterruption : (evidence sha256).interruption = none := rfl
    simp only [runtimeFrames, hinterruption, except_bind_eq_ok, htimestamp 0 hnow, Except.ok.injEq,
      exists_eq_left', htimestamp now (Int.le_refl now), except_pure_eq_ok, hstatus, hresult]
  refine ⟨status, result, ?_⟩
  have hinput : (input sha256).dispatch = dispatch sha256 ∧ (input sha256).bridge = bridge sha256 := ⟨rfl, rfl⟩
  rw [reportEvidence, evidence_valid hdigest, hinput.1, hinput.2, hframes]
  rfl

end Executed

variable (sha256)

/-- The check of the dispatch at some time. -/
def checkAt (now : Int) : ReplayCheck CodexValidationDispatchCandidate :=
  ⟨dispatch sha256, now, deadlineAt (input sha256) now⟩

/-- What an execution shows that signs some frames. -/
def shownAt (now : Int) (frames : List UnsignedEnvelope) : List AdapterShown := [
  .nothing,
  ⟨[.check (checkAt sha256 now)], [dispatch sha256], [dispatch sha256], []⟩,
  .nothing,
  ⟨[], [], [], [(dispatch sha256, frames)]⟩,
  .nothing,
  ⟨[.release (replayKey (dispatch sha256))], [], [], []⟩]

/-- The execution `call` from its start to its candidate, all at one time. -/
def execution (call : Nat) (now : Int) : List (Move AdapterStart AdapterReply) :=
  let reply := fun answer => Move.resume call (AdapterReply.mk answer (fun _ => now) true)
  [.start ⟨input sha256, now, false⟩, reply (.lease true (.ok ())), reply (.evidence (evidence sha256)),
    reply (.lease true (.ok ())), reply (.written (.ok ()) false true), reply (.written (.ok ()) false true)]

variable {sha256}

/-! The pieces of an execution, all at one time before its deadline. -/

section Pieces

variable {now : Int} {remembered : AdapterMemory}

theorem beginWrite_eq (hlive : ¬ deadline - now < 1) (frames : List UnsignedEnvelope) :
    beginWrite deadline now true frames = .ok (.writing deadline frames) := by
  rw [beginWrite, throwIf, if_neg (by decide), throwIf, if_neg hlive]
  rfl

theorem resume_verifying (hlive : ¬ deadline - now < 1)
    (hchecked : memory.check replayKey maxTrackedDispatches ⟨dispatch sha256, now, deadline⟩ = (.ok (), remembered)) :
    (runtimeAdapter sha256).resume ⟨.lease true (.ok ()), fun _ => now, true⟩
        ⟨input sha256, .verifying now deadline⟩ memory
      = (⟨[.check ⟨dispatch sha256, now, deadline⟩], [dispatch sha256], [dispatch sha256], []⟩, remembered,
        ⟨input sha256, .running deadline⟩) := by
  have hadmit : admitExecution (input sha256) now deadline (fun _ => now) memory
      = (⟨[.check ⟨dispatch sha256, now, deadline⟩], [dispatch sha256], [dispatch sha256], []⟩, remembered,
        .running deadline) := by
    unfold admitExecution
    dsimp only
    split
    · rename_i heq
      cases hchecked.symm.trans heq
    · rename_i heq
      rw [if_neg hlive, ← (Prod.mk.inj (hchecked.symm.trans heq)).2]
      rfl
  simp only [runtimeAdapter, resumeExecution, hadmit]

theorem resume_verifying_refused {refusal : ReplayRefusal}
    (hchecked : memory.check replayKey maxTrackedDispatches ⟨dispatch sha256, now, deadline⟩
      = (.error refusal, remembered)) :
    (runtimeAdapter sha256).resume ⟨.lease true (.ok ()), fun _ => now, true⟩
        ⟨input sha256, .verifying now deadline⟩ memory
      = (⟨[.check ⟨dispatch sha256, now, deadline⟩], [], [], []⟩, remembered,
        ⟨input sha256, .refused (refusalCode refusal)⟩) := by
  have hadmit : admitExecution (input sha256) now deadline (fun _ => now) memory
      = (⟨[.check ⟨dispatch sha256, now, deadline⟩], [], [], []⟩, remembered,
        .refused (refusalCode refusal)) := by
    unfold admitExecution
    dsimp only
    split
    · rename_i heq
      cases hchecked.symm.trans heq
      rfl
    · rename_i heq
      cases hchecked.symm.trans heq
  simp only [runtimeAdapter, resumeExecution, hadmit]

theorem resume_running
    (hreported : reportEvidence sha256 (input sha256) deadline (fun _ => now) (evidence sha256) = .ok point) :
    (runtimeAdapter sha256).resume ⟨.evidence (evidence sha256), fun _ => now, true⟩
        ⟨input sha256, .running deadline⟩ memory
      = (.nothing, memory, ⟨input sha256, point⟩) := by
  simp only [runtimeAdapter, resumeExecution, hreported, continueAt]

theorem resume_signing (hlive : ¬ deadline - now < 1) (frames : List UnsignedEnvelope) :
    (runtimeAdapter sha256).resume ⟨.lease true (.ok ()), fun _ => now, true⟩
        ⟨input sha256, .signing deadline (.ok frames)⟩ memory
      = (⟨[], [], [], [(dispatch sha256, frames)]⟩, memory, ⟨input sha256, .writing deadline frames⟩) := by
  have hsent : sendFrames deadline ⟨.lease true (.ok ()), fun _ => now, true⟩ (.ok frames) (.ok ())
      = .ok (.writing deadline frames) := beginWrite_eq hlive frames
  simp only [runtimeAdapter, resumeExecution, hsent, continueAt]
  rfl

theorem written_ok (hlive : ¬ deadline - now < 1) : (do
    (.ok () : Except RuntimeAdapterErrorCode Unit)
    throwIf (false = true) .TRANSPORT_MUTATED_FRAME
    throwIf (deadline ≤ now) .AUTHORITY_EXPIRED) = .ok () := by
  have hbefore : ¬ deadline ≤ now := by omega
  rw [throwIf, if_neg (by decide), throwIf, if_neg hbefore]
  rfl

/-- The transport takes a frame that is not the last one. -/
theorem resume_writing (hlive : ¬ deadline - now < 1) (frame next : UnsignedEnvelope)
    (rest : List UnsignedEnvelope) :
    (runtimeAdapter sha256).resume ⟨.written (.ok ()) false true, fun _ => now, true⟩
        ⟨input sha256, .writing deadline (frame :: next :: rest)⟩ memory
      = (.nothing, memory, ⟨input sha256, .writing deadline (next :: rest)⟩) := by
  simp only [runtimeAdapter, resumeExecution, finishWrite, written_ok hlive, List.tail_cons,
    beginWrite_eq hlive (next :: rest), continueAt]

/-- The transport takes the last frame. -/
theorem resume_writing_last (hlive : ¬ deadline - now < 1) (frame : UnsignedEnvelope) :
    (runtimeAdapter sha256).resume ⟨.written (.ok ()) false true, fun _ => now, true⟩
        ⟨input sha256, .writing deadline [frame]⟩ memory
      = (⟨[.release (replayKey (dispatch sha256))], [], [], []⟩, memory.release (replayKey (dispatch sha256)),
        ⟨input sha256, .settled .returned⟩) := by
  simp only [runtimeAdapter, resumeExecution, finishWrite, written_ok hlive, List.tail_cons, settle, if_true]
  rfl

end Pieces

/-- The memory after an execution at the start of the window. -/
def remembered (sha256 : String → String) : AdapterMemory :=
  release (replayKey (dispatch sha256))
    ⟨[replayKey (dispatch sha256)], OrderedMap.empty.set (replayKey (dispatch sha256)) 1000⟩

theorem get?_remembered : (remembered sha256).used.get? (replayKey (dispatch sha256)) = some 1000 := by
  show (OrderedMap.set _ _ _).get? (replayKey (dispatch sha256)) = some 1000
  rw [OrderedMap.get?_set, if_pos rfl]

/-- The id is remembered before the deadline. -/
theorem refused_before (sha256 : String → String) : ∃ refusal purged,
    (remembered sha256).check replayKey maxTrackedDispatches (checkAt sha256 500) = (.error refusal, purged) := by
  cases hchecked : ((remembered sha256).check replayKey maxTrackedDispatches (checkAt sha256 500)).1 with
  | error refusal => exact ⟨refusal, _, Prod.ext hchecked rfl⟩
  | ok u => exact absurd hchecked (not_admitted_of_live get?_remembered (show (500 : Int) < 1000 by decide))

/-- A check that has read the deadline has forgotten the id. -/
theorem admitted_after (sha256 : String → String) : ∃ memory,
    (remembered sha256).check replayKey maxTrackedDispatches (checkAt sha256 2000) = (.ok (), memory) := by
  refine ⟨_, Prod.ext (admitted_of_expired (by simp [remembered, release]) get?_remembered ?_ ?_) rfl⟩
  · show (1000 : Int) ≤ 2000
    decide
  · show 1 < 1024
    decide

section Executions

variable (hdigest : ∀ s, Durable.sha256Pattern (sha256 s) = true)
include hdigest

/-- A whole execution, when the replay memory admits the dispatch. -/
theorem execution_runs {moves : List (Move AdapterStart AdapterReply)} {remembered : AdapterMemory}
    {calls : List AdapterCall} (now : Int) (hnow : 0 ≤ now) (hend : now < 60000)
    (hpool : (runtimeAdapter sha256).pool empty moves = ⟨memory, calls⟩)
    (hchecked : memory.check replayKey maxTrackedDispatches (checkAt sha256 now) = (.ok (), remembered)) :
    ∃ frames, shownBy sha256 (moves ++ execution sha256 calls.length now)
        = shownBy sha256 moves ++ shownAt sha256 now frames
      ∧ (runtimeAdapter sha256).pool empty (moves ++ execution sha256 calls.length now)
        = ⟨remembered.release (replayKey (dispatch sha256)), calls ++ [⟨input sha256, .settled .returned⟩]⟩ := by
  obtain ⟨status, result, hreported⟩ := reportEvidence_eq hdigest hnow hend
  have hlive : ¬ deadlineAt (input sha256) now - now < 1 := by
    show ¬ min (now + 1000) (min 60000 60000) - now < 1
    omega
  have hstart : (runtimeAdapter sha256).start ⟨input sha256, now, false⟩ memory
      = (.nothing, memory, ⟨input sha256, .verifying now (deadlineAt (input sha256) now)⟩) := by
    exact congrArg (fun point => (AdapterShown.nothing, memory, (⟨input sha256, point⟩ : AdapterCall)))
      (beginExecution_eq hdigest sd_safe hnow hend)
  obtain ⟨hstarted, hpool⟩ := (runtimeAdapter sha256).start_last hpool hstart
  obtain ⟨hadmitted, hpool⟩ := (runtimeAdapter sha256).resume_last hpool (resume_verifying hlive hchecked)
  obtain ⟨hran, hpool⟩ := (runtimeAdapter sha256).resume_last hpool (resume_running hreported)
  obtain ⟨hsigned, hpool⟩ := (runtimeAdapter sha256).resume_last hpool (resume_signing hlive [status, result])
  obtain ⟨hwrote, hpool⟩ := (runtimeAdapter sha256).resume_last hpool (resume_writing hlive status result [])
  obtain ⟨hended, hpool⟩ := (runtimeAdapter sha256).resume_last hpool (resume_writing_last hlive result)
  rw [hwrote, hsigned, hran, hadmitted, hstarted] at hended
  simp only [List.append_assoc, List.cons_append, List.nil_append] at hended hpool
  exact ⟨[status, result], hended, hpool⟩

/-- The dispatch is executed at once, and again after half a second: it is refused. -/
def again (sha256 : String → String) : List (Move AdapterStart AdapterReply) :=
  execution sha256 0 0 ++ [.start ⟨input sha256, 500, false⟩, .resume 1 ⟨.lease true (.ok ()), fun _ => 500, true⟩]

/-- The dispatch is executed at once, and again when two seconds have passed. -/
def twice (sha256 : String → String) : List (Move AdapterStart AdapterReply) :=
  execution sha256 0 0 ++ execution sha256 1 2000

/-- The first execution. -/
theorem first_runs : ∃ frames, shownBy sha256 (execution sha256 0 0) = shownAt sha256 0 frames
    ∧ (runtimeAdapter sha256).pool empty (execution sha256 0 0)
      = ⟨remembered sha256, [⟨input sha256, .settled .returned⟩]⟩ := by
  have hempty : (runtimeAdapter sha256).pool empty [] = ⟨empty, []⟩ := rfl
  have hadmitted : (empty : AdapterMemory).check replayKey maxTrackedDispatches (checkAt sha256 0) = (.ok (),
    ⟨[replayKey (dispatch sha256)], OrderedMap.empty.set (replayKey (dispatch sha256)) 1000⟩) := rfl
  exact execution_runs hdigest 0 (by decide) (by decide) hempty hadmitted

theorem twice_shown : ∃ frames frames', shownBy sha256 (twice sha256)
    = shownAt sha256 0 frames ++ shownAt sha256 2000 frames' := by
  obtain ⟨frames, hfirst, hpool⟩ := first_runs hdigest
  obtain ⟨memory, hadmitted⟩ := admitted_after sha256
  obtain ⟨frames', hsecond, -⟩ := execution_runs hdigest 2000 (by decide) (by decide) hpool hadmitted
  rw [hfirst] at hsecond
  exact ⟨frames, frames', hsecond⟩

/-- What is done with the memory when the second execution is refused. -/
theorem again_ops : opsOf (shownBy sha256 (again sha256))
    = [.check (checkAt sha256 0), .release (replayKey (dispatch sha256)), .check (checkAt sha256 500)] := by
  obtain ⟨frames, hfirst, hpool⟩ := first_runs hdigest
  obtain ⟨refusal, purged, hchecked⟩ := refused_before sha256
  have hstart : (runtimeAdapter sha256).start ⟨input sha256, 500, false⟩ (remembered sha256)
      = (.nothing, remembered sha256, ⟨input sha256, .verifying 500 (deadlineAt (input sha256) 500)⟩) := by
    exact congrArg (fun point => (AdapterShown.nothing, remembered sha256, (⟨input sha256, point⟩ : AdapterCall)))
      (beginExecution_eq hdigest sd_safe (by decide) (by decide))
  obtain ⟨hstarted, hpool⟩ := (runtimeAdapter sha256).start_last hpool hstart
  obtain ⟨hrefused, -⟩ := (runtimeAdapter sha256).resume_last hpool (resume_verifying_refused hchecked)
  rw [hstarted, show (runtimeAdapter sha256).shown empty (execution sha256 0 0) = _ from hfirst,
    List.append_assoc] at hrefused
  have hshown : shownBy sha256 (again sha256) = _ := hrefused
  rw [hshown]
  rfl

end Executions

/-- A digest: 64 hexadecimal digits. -/
def textDigest (s : String) : String :=
  let n := s.toList.foldl (fun h c => (h * 257 + c.toNat) % 2 ^ 256) 1
  String.ofList ((List.range 64).map fun i => Nat.digitChar (n / 16 ^ i % 16))

theorem textDigest_digest (s : String) : Durable.sha256Pattern (textDigest s) = true := by
  have hdigits : ∀ n < 16, (('a' ≤ Nat.digitChar n && Nat.digitChar n ≤ 'f')
      || ('0' ≤ Nat.digitChar n && Nat.digitChar n ≤ '9')) = true := by decide
  unfold textDigest Durable.sha256Pattern
  dsimp only
  rw [String.toList_ofList, List.length_map, List.length_range]
  refine Bool.and_eq_true_iff.mpr ⟨rfl, List.all_eq_true.mpr fun c hc => ?_⟩
  obtain ⟨i, -, rfl⟩ := List.mem_map.mp hc
  exact hdigits _ (Nat.mod_lt _ (by decide))

end Sample

open Sample in
/-- An execution that is refused, as the dispatch was executed half a second before. -/
theorem executed_at_most_once_again :
    invocations textDigest (dispatch textDigest) (again textDigest) ≤ 1
      ∧ signings textDigest (dispatch textDigest) (again textDigest) ≤ 1
      ∧ accepted textDigest (dispatch textDigest) (again textDigest) ≤ 1 := by
  refine executed_at_most_once (dispatch textDigest) (again textDigest) ?_
  rw [again_ops textDigest_digest]
  refine guarded_of_live fun x z hx hz => ?_
  simp only [List.mem_cons, ReplayOp.check.injEq, List.not_mem_nil, or_false, reduceCtorEq, false_or] at hx hz
  rcases hx with rfl | rfl <;> rcases hz with rfl | rfl <;> decide

open Sample in
/-- The memory forgets a dispatch at the deadline of its execution, long before the dispatch expires: then it is
executed again. -/
theorem executed_twice :
    Chronological (twice textDigest)
      ∧ validateCodexValidationDispatchCandidate textDigest (dispatch textDigest) = .ok ()
      ∧ (∀ t ∈ (twice textDigest).flatMap readings, t < (dispatch textDigest).expiresAt)
      ∧ invocations textDigest (dispatch textDigest) (twice textDigest) = 2
      ∧ signings textDigest (dispatch textDigest) (twice textDigest) = 2 := by
  obtain ⟨frames, frames', hshown⟩ := twice_shown textDigest_digest
  refine ⟨by decide, dispatch_valid textDigest_digest sd_safe, by decide, ?_, ?_⟩
  · unfold invocations
    rw [hshown]
    simp [shownAt, AdapterShown.nothing]
  · unfold signings
    rw [hshown]
    simp [shownAt, AdapterShown.nothing]

end VentureOS.Bridge
