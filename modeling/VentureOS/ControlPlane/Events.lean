import VentureOS.Foundations.Program
import VentureOS.Foundations.Text
import VentureOS.Foundations.Double
import VentureOS.ControlPlane.Contracts
import Mathlib.Data.Finset.Basic

/-! # Operational events and the in-memory event log

`events.ts`: the envelope of an operational event, the capability that binds principals to actor
kinds, the validation of an event and `InMemoryOperationalEventLog`. The log checks a whole batch
before it writes any of it, so a refused append leaves it as it was (`append_error`) and an accepted
one adds exactly the event given (`append_ok`).

`Date.parse` reads more formats than the standard fixes, so it is a parameter (`dateParse`). -/

namespace VentureOS.ControlPlane

/-- `new OperationalEventPolicyError(message)`. -/
def eventPolicyError (message : String) : Failure := ⟨.operationalEventPolicy, message⟩

/-- `new DuplicateOperationalEventError(message)`. -/
def duplicateOperationalEvent (message : String) : Failure := ⟨.duplicateOperationalEvent, message⟩

/-! ## Events -/

/-- `OperationalActorKind`. -/
inductive OperationalActorKind where
  | HUMAN
  | AGENT
  | RUNTIME
  | SYSTEM
  deriving DecidableEq, Repr

/-- The components that write events. -/
inductive EventSource where
  | CONTROL_PLANE
  | AI_COO
  | AGENT_FACTORY
  deriving DecidableEq, Repr

/-- `OperationalEventType`. -/
inductive OperationalEventType where
  | objectiveCreated
  | projectCreated
  | taskCreated
  | taskReady
  | taskBlocked
  | taskAssigned
  | taskRetryReady
  | taskFailed
  | taskStopped
  | taskCompleted
  | taskStatusChanged
  | runCreated
  | runStatusChanged
  | runProgress
  | runCompleted
  | runFailed
  | artifactCreated
  | approvalRequested
  | approvalPermitIssued
  | approvalPermitClaimed
  | usageRecorded
  | costLedgerRecorded
  | agentCreated
  | agentLifecycleChanged
  | runtimeConnectionUpdated
  | runtimeHeartbeatRecorded
  | eventRecorded
  deriving DecidableEq, Repr

/-- `ObservableFact`. -/
inductive ObservableFact where
  | text (s : String)
  | integer (n : Int)
  | flag (b : Bool)
  | list (items : List String)
  deriving DecidableEq, Repr

/-- A fact as JSON. -/
def ObservableFact.toJson : ObservableFact → Json
  | .text s => .str s
  | .integer n => .int n
  | .flag b => .bool b
  | .list items => stringsJson items

/-- `Readonly<Record<string, ObservableFact>>`. -/
abbrev Facts := List (String × ObservableFact)

/-- `OperationalEvent`. -/
structure OperationalEvent where
  id : EntityId
  workspaceId : EntityId
  type : OperationalEventType
  source : EventSource
  actorKind : OperationalActorKind
  actorId : EntityId
  subjectType : String
  subjectId : EntityId
  occurredAt : String
  idempotencyKey : String
  correlationId : Option EntityId
  facts : Facts
  deriving DecidableEq, Repr

/-! ## Texts and facts -/

/-- `boundedText`: not blank and at most `maximum` code units. -/
def boundedText (value : String) (field : String) (maximum : Nat) : Except Failure Unit :=
  throwIf (isBlank value = true ∨ maximum < utf16Length value)
    (eventPolicyError s!"{field} must be non-empty and bounded")

/-- `SAFE_REFERENCE`: a letter or digit, then at most 255 letters, digits, colons, points,
underscores, slashes and hyphens. -/
def safeReferencePattern (s : String) : Bool :=
  match s.toList with
  | [] => false
  | c :: rest => isAlnum c && decide (rest.length ≤ 255)
      && rest.all (fun d => isAlnum d || [':', '.', '_', '/', '-'].contains d)

/-- `SAFE_SUBJECT_TYPE`: a capital letter, then at most 63 letters and digits. -/
def safeSubjectTypePattern (s : String) : Bool :=
  match s.toList with
  | [] => false
  | c :: rest => decide ('A' ≤ c) && decide (c ≤ 'Z') && decide (rest.length ≤ 63)
      && rest.all isAlnum

open Regex in
/-- `PRIVATE_FACT_KEYS`. -/
def privateFactKeys : Regex :=
  altAll [
    seqAll [literalIgnoreCase "chain", opt dot, literalIgnoreCase "of", opt dot, literalIgnoreCase "thought"],
    seqAll [literalIgnoreCase "private", opt dot, literalIgnoreCase "reasoning"],
    literalIgnoreCase "prompt", literalIgnoreCase "transcript", literalIgnoreCase "password",
    literalIgnoreCase "secret", literalIgnoreCase "token", literalIgnoreCase "credential",
    seqAll [literalIgnoreCase "api", opt dot, literalIgnoreCase "key"]]

open Regex in
/-- `PRIVATE_FACT_VALUE`. -/
def privateFactValue : Regex :=
  altAll [
    seqAll [literal "-----BEGIN ", .star (.cls (fun c => ('A' ≤ c && c ≤ 'Z') || c == ' ')),
      literal "PRIVATE KEY-----"],
    seqAll [.wordBoundary, literal "Bearer", atLeast 1 (.cls isJsSpace),
      atLeast 12 (.cls (fun c => isAlnum c || "._~+/=-".toList.contains c))],
    seqAll [.wordBoundary,
      altAll [literal "sk", .seq (literal "gh") (oneOf "opusr"), literal "github_pat"],
      literal "_", atLeast 12 (.cls (fun c => isAlnum c || c == '_' || c == '-'))]]

open Regex in
/-- `PRIVATE_FACT_TEXT`. -/
def privateFactText : Regex :=
  altAll [
    seqAll [literalIgnoreCase "chain", opt (oneOf "-_. "), literalIgnoreCase "of",
      opt (oneOf "-_. "), literalIgnoreCase "thought"],
    seqAll [literalIgnoreCase "private", opt (oneOf "-_. "), literalIgnoreCase "reasoning"],
    literalIgnoreCase "password", literalIgnoreCase "credential",
    seqAll [literalIgnoreCase "api", opt (oneOf "-_. "), literalIgnoreCase "key"],
    literalIgnoreCase "transcript", literalIgnoreCase "prompt"]

/-- `safeReference`. -/
def safeReference (value : String) (field : String) : Except Failure Unit := do
  boundedText value field 256
  throwIf (safeReferencePattern value = false ∨ privateFactValue.test value = true
      ∨ privateFactText.test value = true)
    (eventPolicyError s!"{field} must be a safe non-sensitive reference")

/-- `subjectTypeCode`. -/
def subjectTypeCode (value : String) : Except Failure Unit := do
  boundedText value "event.subjectType" 64
  throwIf (safeSubjectTypePattern value = false ∨ privateFactValue.test value = true
      ∨ privateFactText.test value = true)
    (eventPolicyError "event.subjectType must be a safe non-sensitive subject code")

/-- `FactKind`. -/
inductive FactKind where
  | REFERENCE
  | REFERENCE_LIST
  | CODE
  | INTEGER
  | BOOLEAN
  deriving DecidableEq, Repr

/-- `FACT_POLICIES`: the facts each event type may carry. -/
def factPolicies : OperationalEventType → List (String × FactKind)
  | .objectiveCreated => [("titleLength", .INTEGER)]
  | .projectCreated => [("titleLength", .INTEGER)]
  | .taskCreated => [("titleLength", .INTEGER), ("kind", .CODE), ("status", .CODE),
      ("requiredAuthorityLevel", .INTEGER)]
  | .taskReady => [("dependencyIds", .REFERENCE_LIST)]
  | .taskBlocked => [("dependencyIds", .REFERENCE_LIST)]
  | .taskAssigned => [("agentId", .REFERENCE), ("runtimeId", .REFERENCE), ("attempt", .INTEGER)]
  | .taskRetryReady => [("failureCodeDigest", .CODE), ("attempt", .INTEGER)]
  | .taskFailed => [("failureCodeDigest", .CODE), ("attempt", .INTEGER)]
  | .taskStopped => [("failureCodeDigest", .CODE), ("attempt", .INTEGER)]
  | .taskCompleted => [("artifactIds", .REFERENCE_LIST)]
  | .taskStatusChanged => [("previousStatus", .CODE), ("nextStatus", .CODE)]
  | .runCreated => [("taskId", .REFERENCE), ("agentId", .REFERENCE), ("status", .CODE)]
  | .runStatusChanged => [("previousStatus", .CODE), ("nextStatus", .CODE), ("taskId", .REFERENCE)]
  | .runProgress => [("payloadFieldCount", .INTEGER), ("payloadBytes", .INTEGER)]
  | .runCompleted => [("previousStatus", .CODE), ("nextStatus", .CODE), ("taskId", .REFERENCE)]
  | .runFailed => [("previousStatus", .CODE), ("nextStatus", .CODE), ("taskId", .REFERENCE)]
  | .artifactCreated => [("taskId", .REFERENCE), ("runId", .REFERENCE), ("kind", .CODE)]
  | .approvalRequested => [("dependencyIds", .REFERENCE_LIST), ("taskId", .REFERENCE),
      ("runId", .REFERENCE)]
  | .approvalPermitIssued => [("taskId", .REFERENCE), ("runId", .REFERENCE)]
  | .approvalPermitClaimed => [("taskId", .REFERENCE), ("runId", .REFERENCE)]
  | .usageRecorded => [("taskId", .REFERENCE), ("runId", .REFERENCE), ("computeUnits", .INTEGER),
      ("costMinorUnits", .INTEGER), ("currency", .CODE), ("taskCostUsedMinorUnits", .INTEGER),
      ("taskComputeUsed", .INTEGER)]
  | .costLedgerRecorded => [("taskId", .REFERENCE), ("runId", .REFERENCE), ("usageId", .REFERENCE),
      ("receiptId", .REFERENCE), ("currency", .CODE), ("costMinorUnits", .INTEGER),
      ("workspaceCostUsedMinorUnits", .INTEGER), ("workspaceCostLimitMinorUnits", .INTEGER),
      ("taskCostUsedMinorUnits", .INTEGER), ("taskCostLimitMinorUnits", .INTEGER),
      ("workspacePolicyId", .REFERENCE)]
  | .agentCreated => [("lifecycle", .CODE)]
  | .agentLifecycleChanged => [("lifecycle", .CODE), ("reasonPresent", .BOOLEAN)]
  | .runtimeConnectionUpdated => [("status", .CODE), ("runtimeId", .REFERENCE)]
  | .runtimeHeartbeatRecorded => [("connectionId", .REFERENCE), ("sequence", .INTEGER),
      ("health", .CODE)]
  | .eventRecorded => [("payloadFieldCount", .INTEGER), ("payloadBytes", .INTEGER)]

/-- The kind a policy gives a fact name. -/
def factKind? (policy : List (String × FactKind)) (name : String) : Option FactKind :=
  (policy.find? (fun entry => entry.1 == name)).map Prod.snd

/-- The value of one fact against the kind its name has. -/
def validateFactValue (kind : FactKind) : ObservableFact → Except Failure Unit
  | .text value => do
    throwIf (2048 < utf16Length value) (eventPolicyError "Event fact is too large")
    throwIf (privateFactValue.test value = true ∨ privateFactText.test value = true)
      (eventPolicyError "Secret-like event fact values are forbidden")
    throwIf ((kind = .REFERENCE ∨ kind = .CODE) ∧ safeReferencePattern value = false)
      (eventPolicyError "Event fact must be a safe reference or code")
    throwIf (kind ≠ .REFERENCE ∧ kind ≠ .CODE)
      (eventPolicyError "Event fact has the wrong value kind")
  | .integer value =>
    throwIf (isSafeInteger value = false ∨ value < 0 ∨ kind ≠ .INTEGER)
      (eventPolicyError "Numeric event facts must be non-negative safe integers")
  | .flag _ => throwIf (kind ≠ .BOOLEAN) (eventPolicyError "Event fact has the wrong value kind")
  | .list items => do
    throwIf (kind ≠ .REFERENCE_LIST ∨ 32 < items.length)
      (eventPolicyError "Event fact has an unsupported value")
    forM items fun item => do
      throwIf (safeReferencePattern item = false)
        (eventPolicyError "Event fact list must contain safe references")
      throwIf (privateFactValue.test item = true ∨ privateFactText.test item = true)
        (eventPolicyError "Secret-like event fact values are forbidden")

/-- `validateFacts`. -/
def validateFacts (type : OperationalEventType) (facts : Facts) : Except Failure Unit := do
  throwIf (32 < facts.length) (eventPolicyError "Event has too many facts")
  forM facts fun (name, value) => do
    boundedText name "fact name" 128
    throwIf (privateFactKeys.test name = true)
      (eventPolicyError "Private or secret-bearing event facts are forbidden")
    -- A name outside the policy of the type is refused, whatever its value.
    match factKind? (factPolicies type) name with
    | none => .error (eventPolicyError "Event fact is not allowed for this type")
    | some kind => validateFactValue kind value
  throwIf (32 * 1024
      < Json.byteLength (Json.obj (facts.map (fun fact => (fact.1, fact.2.toJson)))).text)
    (eventPolicyError "Event facts exceed the UTF-8 size limit")

/-! ## Capabilities -/

/-- `OperationalEventPrincipalBinding`. -/
structure OperationalEventPrincipalBinding where
  workspaceId : EntityId
  principalId : EntityId
  actorKind : OperationalActorKind
  authorityLevel : Option AuthorityLevel
  deriving DecidableEq, Repr

/-- `OperationalEventCapability`: a source and the principals it speaks for. -/
structure OperationalEventCapability where
  source : EventSource
  bindings : List OperationalEventPrincipalBinding
  deriving DecidableEq, Repr

namespace OperationalEventCapability

/-- The checks of `issue` on the bindings, after those of the principals `keys`. The actor kind and the
authority level are known codes on these types. -/
def checkBindings : List Key → List OperationalEventPrincipalBinding → Except Failure Unit
  | _, [] => .ok ()
  | keys, binding :: rest => do
    safeReference binding.workspaceId "capability workspaceId"
    safeReference binding.principalId "capability principalId"
    let bindingKey := key binding.workspaceId binding.principalId
    throwIf (bindingKey ∈ keys) (eventPolicyError "Duplicate capability principal binding")
    checkBindings (bindingKey :: keys) rest

/-- `issue`. -/
def issue (source : EventSource) (bindings : List OperationalEventPrincipalBinding) :
    Except Failure OperationalEventCapability := do
  throwIf (bindings.length = 0 ∨ 64 < bindings.length)
    (eventPolicyError "Capability bindings must be non-empty and bounded")
  checkBindings [] bindings
  return ⟨source, bindings⟩

/-- `actorKindFor`. A later binding of the same principal would replace an earlier one. -/
def actorKindFor (capability : OperationalEventCapability) (context : WorkspaceContext) :
    Except Failure OperationalActorKind :=
  match capability.bindings.reverse.find? (fun binding =>
      binding.workspaceId == context.workspaceId && binding.principalId == context.principalId) with
  | some binding => .ok binding.actorKind
  | none => .error (eventPolicyError "No trusted workspace principal binding exists")

/-- `assertSource`. -/
def assertSource (capability : OperationalEventCapability) (source : EventSource) :
    Except Failure Unit :=
  throwIf (source ≠ capability.source)
    (eventPolicyError "Event source does not match its trusted capability")

/-- `assertBinding`. -/
def assertBinding (capability : OperationalEventCapability) (context : WorkspaceContext)
    (event : OperationalEvent) : Except Failure Unit := do
  capability.assertSource event.source
  let actorKind ← capability.actorKindFor context
  throwIf (actorKind ≠ event.actorKind)
    (eventPolicyError "Event actor kind does not match its trusted principal binding")

end OperationalEventCapability

/-- `validateOperationalEvent`. The checks that the type, the source and the actor kind are known
codes always pass on the enumerations. -/
def validateOperationalEvent (dateParse : String → Option Int)
    (capability : OperationalEventCapability) (context : WorkspaceContext)
    (event : OperationalEvent) : Except Failure Unit := do
  capability.assertBinding context event
  throwIf (context.workspaceId ≠ event.workspaceId)
    (eventPolicyError "Cross-workspace event denied")
  throwIf (context.principalId ≠ event.actorId)
    (eventPolicyError "Event actor must match the authenticated principal")
  safeReference event.id "event.id"
  safeReference event.workspaceId "event.workspaceId"
  safeReference event.actorId "event.actorId"
  subjectTypeCode event.subjectType
  safeReference event.subjectId "event.subjectId"
  safeReference event.idempotencyKey "event.idempotencyKey"
  match event.correlationId with
  | none => pure ()
  | some correlationId => safeReference correlationId "event.correlationId"
  throwIf ((dateParse event.occurredAt).bind toISOString ≠ some event.occurredAt)
    (eventPolicyError "Event occurredAt must be an ISO timestamp")
  validateFacts event.type event.facts

/-! ## Sinks -/

/-- `OperationalEventSink`: where events are appended. A sink has a state of its own, and an append
may throw. -/
structure OperationalEventSink (σ : Type) where
  /-- `append(capability, context, event)`. -/
  append : OperationalEventCapability → WorkspaceContext → OperationalEvent → Program Failure σ Unit

/-- A sink that also appends several events at once. -/
structure OperationalEventBatchSink (σ : Type) extends OperationalEventSink σ where
  /-- `appendBatch(capability, context, events)`. -/
  appendBatch : OperationalEventCapability → WorkspaceContext → List OperationalEvent →
    Program Failure σ Unit

/-- The state of `InMemoryOperationalEventLog`: the events by workspace and id, and the idempotency
keys by workspace and source. -/
structure EventLog where
  /-- `#events`. -/
  events : OrderedMap Key OperationalEvent
  /-- `#idempotencyKeys`. -/
  idempotencyKeys : Finset (EntityId × EventSource × String)

namespace EventLog

/-- The log without events. -/
def empty : EventLog := ⟨OrderedMap.empty, ∅⟩

/-- The idempotency key of an event. -/
def idempotencyKeyOf (event : OperationalEvent) : EntityId × EventSource × String :=
  (event.workspaceId, event.source, event.idempotencyKey)

/-- Write one event. -/
def write (log : EventLog) (event : OperationalEvent) : EventLog where
  events := log.events.set (key event.workspaceId event.id) event
  idempotencyKeys := insert (idempotencyKeyOf event) log.idempotencyKeys

/-- The checks of `appendBatch` on the events of a batch: each is valid and repeats neither the log
nor the events of the batch before it. -/
def checkBatch (dateParse : String → Option Int) (log : EventLog)
    (capability : OperationalEventCapability) (context : WorkspaceContext) :
    List Key → List (EntityId × EventSource × String) → List OperationalEvent → Except Failure Unit
  | _, _, [] => .ok ()
  | batchEventKeys, batchIdempotencyKeys, event :: rest => do
    validateOperationalEvent dateParse capability context event
    let eventKey := key event.workspaceId event.id
    let idempotencyKey := idempotencyKeyOf event
    -- Both keys are compared with the log and with the batch so far.
    throwIf (log.events.has eventKey = true ∨ eventKey ∈ batchEventKeys)
      (duplicateOperationalEvent "Duplicate workspace event ID")
    throwIf (idempotencyKey ∈ log.idempotencyKeys ∨ idempotencyKey ∈ batchIdempotencyKeys)
      (duplicateOperationalEvent "Duplicate workspace event idempotency key")
    checkBatch dateParse log capability context (eventKey :: batchEventKeys)
      (idempotencyKey :: batchIdempotencyKeys) rest

/-- `appendBatch`: check everything, then write everything. -/
def appendBatch (dateParse : String → Option Int) (capability : OperationalEventCapability)
    (context : WorkspaceContext) (events : List OperationalEvent) :
    Program Failure EventLog Unit := do
  throwIf (events.length = 0 ∨ 64 < events.length)
    (eventPolicyError "Event batch must be non-empty and bounded")
  let log ← get
  checkBatch dateParse log capability context [] [] events
  -- The second loop of the source only writes.
  modify fun log => events.foldl write log

/-- `append`. -/
def append (dateParse : String → Option Int) (capability : OperationalEventCapability)
    (context : WorkspaceContext) (event : OperationalEvent) : Program Failure EventLog Unit :=
  appendBatch dateParse capability context [event]

/-- `InMemoryOperationalEventLog` as an event sink. -/
def sink (dateParse : String → Option Int) : OperationalEventSink EventLog :=
  ⟨append dateParse⟩

/-- `InMemoryOperationalEventLog` as a sink for single events and batches. -/
def batchSink (dateParse : String → Option Int) : OperationalEventBatchSink EventLog :=
  ⟨sink dateParse, appendBatch dateParse⟩

open Program in
/-- **Appending is atomic.** A refused batch leaves the log as it was; an accepted one is written in
order, after every event of it was checked. -/
theorem appendBatch_spec (dateParse : String → Option Int) (capability : OperationalEventCapability)
    (context : WorkspaceContext) (events : List OperationalEvent) (log : EventLog) :
    Ensures (appendBatch dateParse capability context events) log (fun r log' => match r with
      | .ok _ => checkBatch dateParse log capability context [] [] events = .ok ()
          ∧ log' = events.foldl write log
      | .error _ => log' = log) := by
  unfold appendBatch
  simp only [ensures_lift_bind, ensures_get_bind, ensures_modify, implies_true, true_and, and_true]
  intro _ _ _ hcheck
  exact hcheck

open Program in
/-- Appending one event: it is valid, its identifier is new, and it is the one event written. -/
theorem append_spec (dateParse : String → Option Int) (capability : OperationalEventCapability)
    (context : WorkspaceContext) (event : OperationalEvent) (log : EventLog) :
    Ensures (append dateParse capability context event) log (fun r log' => match r with
      | .ok _ => validateOperationalEvent dateParse capability context event = .ok ()
          ∧ log.events.get? (key event.workspaceId event.id) = none ∧ log' = log.write event
      | .error _ => log' = log) := by
  refine (appendBatch_spec dateParse capability context [event] log).mono fun r log' h => ?_
  cases r with
  | error e => exact h
  | ok u =>
    obtain ⟨hcheck, hlog⟩ := h
    simp only [checkBatch, except_bind_eq_ok, throwIf_eq_ok, not_or, Bool.not_eq_true] at hcheck
    -- Of the two freshness tests only that of the identifier is needed by callers.
    obtain ⟨u₁, hvalid, u₂, ⟨hfresh, -⟩, -⟩ := hcheck
    refine ⟨hvalid, ?_, hlog⟩
    simpa [OrderedMap.has] using hfresh

open Program in
/-- Whether an append is accepted is decided by the check of the batch. -/
theorem append_decided (dateParse : String → Option Int) (capability : OperationalEventCapability)
    (context : WorkspaceContext) (event : OperationalEvent) (log : EventLog) :
    Ensures (append dateParse capability context event) log (fun r _ =>
      r = checkBatch dateParse log capability context [] [] [event]) := by
  unfold append appendBatch
  rw [ensures_lift_bind]
  refine ⟨fun e he => ?_, fun _ _ => ?_⟩
  -- A batch of one event is neither empty nor too long.
  · simp [throwIf] at he
  · rw [ensures_get_bind, ensures_lift_bind]
    exact ⟨fun e he => he.symm, fun _ hok => hok.symm⟩

end EventLog

end VentureOS.ControlPlane
