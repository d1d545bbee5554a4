import VentureOS.Foundations.OrderedMap
import VentureOS.Foundations.Json

/-! # Contracts of the agent control plane

The records, permits and error values of `contracts.ts` and `control-plane.ts`, field by field.
Status codes keep their spelling. Numbers that the code checks with `Number.isSafeInteger` before
it reads them are integers here. Optional fields are `Option`s, and `Truthy` is the test JavaScript
makes when an optional string stands in a condition.

Every workspace-scoped record is filed under `key workspaceId id`. The source builds that key as the
text of a JSON array of the two strings; two such texts are equal only for equal pairs
(`keyText_injective`), and the model keys by the pair. -/

namespace VentureOS.ControlPlane

/-- `EntityId`. -/
abbrev EntityId := String

/-- `Readonly<Record<string, unknown>>`: own enumerable properties in enumeration order. -/
abbrev JsonRecord := List (String × Json)

/-- The truthiness of an optional string: present and not empty. -/
def Truthy (s : Option String) : Prop := s.getD "" ≠ ""

instance (s : Option String) : Decidable (Truthy s) := inferInstanceAs (Decidable (_ ≠ _))

@[simp] theorem not_truthy_none : ¬ Truthy none := by simp [Truthy]

@[simp] theorem truthy_some {s : String} : Truthy (some s) ↔ s ≠ "" := by simp [Truthy]

/-! ## Errors -/

/-- The error classes thrown by the control plane, by the components beside it, by the event log they
write to and by the adapters they call. -/
inductive ErrorClass where
  | controlPlanePolicy
  | crossWorkspaceAccess
  | duplicateEvent
  | costLimitExceeded
  | operationalEventPolicy
  | duplicateOperationalEvent
  | rangeError
  | adapterFailure
  | aiCooPolicy
  | agentFactoryPolicy
  | runtimeBrokerPolicy
  | voiceGatewayPolicy
  | acpApprovalPolicy
  | durableTaskRunPolicy
  | acpTaskRunDenied
  | acpTaskRunConflict
  | acpTaskRunNotFound
  | databaseConstraint
  | plainError
  | businessSpendDenied
  | workspaceCapability
  | brokerReservationPolicy
  | acpBrokerReservationDenied
  | acpBrokerReservationConflict
  | acpBrokerReservationNotFound
  | acpApprovalDenied
  | acpApprovalConflict
  | acpApprovalNotFound
  | costGovernancePolicy
  | acpCostGovernanceDenied
  | budgetNotFound
  | budgetLimitExceeded
  | revenueRunInvalidInput
  | revenueRunConflict
  | revenueRunNotFound
  | revenueRunEvidenceDrift
  | codexValidationRuntimeAdapter
  | codexValidationProcessSession
  deriving DecidableEq, Repr

/-- A thrown error: its class and its message. -/
structure Failure where
  /-- The class of the error. -/
  cls : ErrorClass
  /-- The text of the error. -/
  message : String
  deriving DecidableEq, Repr

/-- `new ControlPlanePolicyError(message)`. -/
def policyError (message : String) : Failure := ⟨.controlPlanePolicy, message⟩

/-! ## Keys -/

/-- The composite key of a record: its workspace and its identifier. -/
abbrev Key := EntityId × EntityId

/-- `key(workspaceId, id)`. -/
def key (workspaceId id : EntityId) : Key := (workspaceId, id)

/-- Keys are compared part by part. -/
instance : LawfulBEq Key := Prod.instLawfulBEq

/-- The text the source uses as the key: `JSON.stringify([workspaceId, id])`. -/
def keyText (k : Key) : List Char := (Json.arr [.str k.1, .str k.2]).text

@[simp] theorem key_inj {w w' i i' : EntityId} : key w i = key w' i' ↔ w = w' ∧ i = i' := by
  simp [key]

/-- **Composite keys do not collide.** -/
theorem keyText_injective : Function.Injective keyText := by
  intro k k' h
  have hsafe : ∀ q : Key, (Json.arr [.str q.1, .str q.2]).Safe :=
    fun q => ⟨trivial, trivial, trivial⟩
  have hjson := Json.text_injective (hsafe k) (hsafe k') h
  simp only [Json.arr.injEq, List.cons.injEq, Json.str.injEq, and_true] at hjson
  exact Prod.ext hjson.1 hjson.2

/-! ## Enumerations -/

/-- `RuntimeConnectionStatus`. -/
inductive RuntimeConnectionStatus where
  | CONNECTED
  | PARTIAL
  | DEGRADED
  | DISCONNECTED
  | NOT_CONFIGURED
  deriving DecidableEq, Repr

/-- The status as a string. -/
def RuntimeConnectionStatus.code : RuntimeConnectionStatus → String
  | .CONNECTED => "CONNECTED"
  | .PARTIAL => "PARTIAL"
  | .DEGRADED => "DEGRADED"
  | .DISCONNECTED => "DISCONNECTED"
  | .NOT_CONFIGURED => "NOT_CONFIGURED"

/-- `AuthorityLevel`: `0` to `4`. -/
abbrev AuthorityLevel := Fin 5

/-- `TaskKind`. -/
inductive TaskKind where
  | repositoryReview
  | qualityVerify
  | documentationPrepare
  | runtimeHealthCheck
  | businessResearch
  deriving DecidableEq, Repr

/-- The task kind as a string. -/
def TaskKind.code : TaskKind → String
  | .repositoryReview => "repository.review"
  | .qualityVerify => "quality.verify"
  | .documentationPrepare => "documentation.prepare"
  | .runtimeHealthCheck => "runtime.health.check"
  | .businessResearch => "business.research"

theorem TaskKind.code_injective : Function.Injective TaskKind.code := by
  intro a b h
  cases a <;> cases b <;> first | rfl | (revert h; decide)

/-- `TaskStatus`. -/
inductive TaskStatus where
  | READY
  | RUNNING
  | BLOCKED
  | COMPLETED
  | FAILED
  | CANCELLED
  deriving DecidableEq, Repr

/-- The task status as a string. -/
def TaskStatus.code : TaskStatus → String
  | .READY => "READY"
  | .RUNNING => "RUNNING"
  | .BLOCKED => "BLOCKED"
  | .COMPLETED => "COMPLETED"
  | .FAILED => "FAILED"
  | .CANCELLED => "CANCELLED"

/-- `RunStatus`. -/
inductive RunStatus where
  | QUEUED
  | RUNNING
  | PAUSED
  | COMPLETED
  | FAILED
  | CANCELLED
  deriving DecidableEq, Repr

/-- The run status as a string. -/
def RunStatus.code : RunStatus → String
  | .QUEUED => "QUEUED"
  | .RUNNING => "RUNNING"
  | .PAUSED => "PAUSED"
  | .COMPLETED => "COMPLETED"
  | .FAILED => "FAILED"
  | .CANCELLED => "CANCELLED"

/-- `['QUEUED', 'RUNNING', 'PAUSED'].includes(status)`. -/
def RunStatus.Active (status : RunStatus) : Prop :=
  status = .QUEUED ∨ status = .RUNNING ∨ status = .PAUSED

instance (status : RunStatus) : Decidable status.Active :=
  inferInstanceAs (Decidable (_ ∨ _ ∨ _))

/-- The health a heartbeat reports. -/
inductive Health where
  | HEALTHY
  | DEGRADED
  | UNHEALTHY
  deriving DecidableEq, Repr

/-- The health as a string. -/
def Health.code : Health → String
  | .HEALTHY => "HEALTHY"
  | .DEGRADED => "DEGRADED"
  | .UNHEALTHY => "UNHEALTHY"

/-! ## Records -/

/-- The authenticated caller of an operation. -/
structure WorkspaceContext where
  workspaceId : EntityId
  principalId : EntityId
  deriving DecidableEq, Repr

/-- `Runtime`. -/
structure Runtime where
  id : EntityId
  workspaceId : EntityId
  name : String
  adapterKind : String
  createdAt : String
  deriving DecidableEq, Repr

/-- `RegistrationProof`. -/
structure RegistrationProof where
  connectionId : EntityId
  runtimeId : EntityId
  principalId : EntityId
  observedAt : String
  deriving DecidableEq, Repr

/-- `CapabilityExchangeProof`. -/
structure CapabilityExchangeProof where
  connectionId : EntityId
  runtimeId : EntityId
  principalId : EntityId
  capabilityIds : List EntityId
  observedAt : String
  deriving DecidableEq, Repr

/-- `HeartbeatProof`. -/
structure HeartbeatProof where
  connectionId : EntityId
  principalId : EntityId
  heartbeatId : EntityId
  observedAt : String
  deriving DecidableEq, Repr

/-- `TaskRoundTripProof`. -/
structure TaskRoundTripProof where
  connectionId : EntityId
  principalId : EntityId
  taskId : EntityId
  runId : EntityId
  resultEventId : EntityId
  completedAt : String
  deriving DecidableEq, Repr

/-- `RuntimeConnection`. -/
structure RuntimeConnection where
  id : EntityId
  workspaceId : EntityId
  runtimeId : EntityId
  status : RuntimeConnectionStatus
  credentialReference : Option String
  authenticatedPrincipalId : Option EntityId
  registrationProof : Option RegistrationProof
  capabilityExchangeProof : Option CapabilityExchangeProof
  heartbeatProof : Option HeartbeatProof
  taskRoundTripProof : Option TaskRoundTripProof
  deriving DecidableEq, Repr

/-- `Capability`. -/
structure Capability where
  id : EntityId
  workspaceId : EntityId
  name : String
  version : String
  deriving DecidableEq, Repr

/-- `AgentCapability`. -/
structure AgentCapability where
  id : EntityId
  workspaceId : EntityId
  agentId : EntityId
  capabilityId : EntityId
  deriving DecidableEq, Repr

/-- `Agent`. -/
structure Agent where
  id : EntityId
  workspaceId : EntityId
  runtimeId : EntityId
  name : String
  role : String
  authorityLevel : AuthorityLevel
  maxConcurrentRuns : Int
  createdAt : String
  deriving DecidableEq, Repr

/-- `Tool`. -/
structure Tool where
  id : EntityId
  workspaceId : EntityId
  name : String
  version : String
  deriving DecidableEq, Repr

/-- `ToolGrant`. -/
structure ToolGrant where
  id : EntityId
  workspaceId : EntityId
  agentId : EntityId
  toolId : EntityId
  scopes : List String
  expiresAt : Option String
  deriving DecidableEq, Repr

/-- `CostLimit`. -/
structure CostLimit where
  currency : String
  maximumMinorUnits : Int
  maximumComputeUnits : Int
  deriving DecidableEq, Repr

/-- `AuthorityGrant`. -/
structure AuthorityGrant where
  id : EntityId
  workspaceId : EntityId
  agentId : EntityId
  level : AuthorityLevel
  actionClasses : List TaskKind
  costLimit : CostLimit
  maxConcurrentRuns : Int
  expiresAt : Option String
  deriving DecidableEq, Repr

/-- `ControlPlaneTask`. -/
structure ControlPlaneTask where
  id : EntityId
  workspaceId : EntityId
  assignedAgentId : EntityId
  kind : TaskKind
  input : JsonRecord
  requiredCapabilityIds : List EntityId
  requiredToolIds : List EntityId
  requiredAuthorityLevel : AuthorityLevel
  costLimit : CostLimit
  status : TaskStatus
  createdAt : String

/-- `AgentRun`. -/
structure AgentRun where
  id : EntityId
  workspaceId : EntityId
  taskId : EntityId
  agentId : EntityId
  runtimeConnectionId : EntityId
  status : RunStatus
  externalRunId : Option String
  adapterRegistrationId : Option EntityId
  startedAt : Option String
  completedAt : Option String
  deriving DecidableEq, Repr

/-- `ControlPlaneEvent`. -/
structure ControlPlaneEvent where
  id : EntityId
  workspaceId : EntityId
  runId : Option EntityId
  type : String
  occurredAt : String
  actorId : EntityId
  idempotencyKey : String
  payload : JsonRecord

/-- `Heartbeat`. -/
structure Heartbeat where
  id : EntityId
  workspaceId : EntityId
  runtimeConnectionId : EntityId
  principalId : EntityId
  observedAt : String
  sequence : Int
  health : Health
  deriving DecidableEq, Repr

/-- `UsageRecord`. -/
structure UsageRecord where
  id : EntityId
  workspaceId : EntityId
  runId : EntityId
  taskId : EntityId
  provider : Option String
  model : Option String
  computeUnits : Option Int
  costMinorUnits : Option Int
  currency : Option String
  recordedAt : String
  deriving DecidableEq, Repr

/-! ## Runtime adapters and permits -/

/-- `RuntimeAdapter`, as far as the control plane reads it. What `start` and `cancel` answer is
decided outside and enters a run as a label. -/
structure RuntimeAdapter where
  adapterKind : String
  deriving DecidableEq, Repr

/-- An entry of `#runtimeAdapters`. -/
structure AdapterRegistration where
  registrationId : EntityId
  adapter : RuntimeAdapter
  deriving DecidableEq, Repr

/-- A tool of a task envelope. -/
structure EnvelopeTool where
  toolId : EntityId
  scopes : List String
  deriving DecidableEq, Repr

/-- `RuntimeTaskEnvelope`. -/
structure RuntimeTaskEnvelope where
  runId : EntityId
  taskId : EntityId
  workspaceId : EntityId
  kind : TaskKind
  input : JsonRecord
  capabilityIds : List EntityId
  tools : List EnvelopeTool
  authorityLevel : AuthorityLevel
  costLimit : CostLimit

/-- `RuntimeDispatchPermit`. The source writes the connection's principal into
`runtimePrincipalId` without checking that there is one. -/
structure RuntimeDispatchPermit where
  dispatchId : EntityId
  connectionId : EntityId
  adapterRegistrationId : EntityId
  runtimePrincipalId : Option EntityId
  envelope : RuntimeTaskEnvelope

/-- `RuntimeCancellationPermit`. -/
structure RuntimeCancellationPermit where
  cancellationId : EntityId
  connectionId : EntityId
  adapterRegistrationId : EntityId
  runtimePrincipalId : Option EntityId
  runId : EntityId
  externalRunId : String
  deriving DecidableEq, Repr

/-! ### Permits as JSON -/

/-- An array of strings. -/
def stringsJson (l : List String) : Json := .arr (l.map .str)

/-- An optional field: an undefined one is left out. -/
def optionalField (name : String) (value : Option String) : JsonRecord :=
  match value with
  | none => []
  | some s => [(name, .str s)]

/-- The cost limit as JSON. -/
def CostLimit.toJson (limit : CostLimit) : Json :=
  .obj [("currency", .str limit.currency), ("maximumMinorUnits", .int limit.maximumMinorUnits),
    ("maximumComputeUnits", .int limit.maximumComputeUnits)]

/-- An envelope tool as JSON. -/
def EnvelopeTool.toJson (tool : EnvelopeTool) : Json :=
  .obj [("toolId", .str tool.toolId), ("scopes", stringsJson tool.scopes)]

/-- The envelope as JSON, fields in the order in which the source writes them. -/
def RuntimeTaskEnvelope.toJson (e : RuntimeTaskEnvelope) : Json :=
  .obj [("runId", .str e.runId), ("taskId", .str e.taskId), ("workspaceId", .str e.workspaceId),
    ("kind", .str e.kind.code), ("input", .obj e.input),
    ("capabilityIds", stringsJson e.capabilityIds),
    ("tools", .arr (e.tools.map EnvelopeTool.toJson)),
    ("authorityLevel", .int e.authorityLevel.val), ("costLimit", e.costLimit.toJson)]

/-- The dispatch permit as JSON. -/
def RuntimeDispatchPermit.toJson (d : RuntimeDispatchPermit) : Json :=
  .obj ([("dispatchId", .str d.dispatchId), ("connectionId", .str d.connectionId),
      ("adapterRegistrationId", .str d.adapterRegistrationId)]
    ++ optionalField "runtimePrincipalId" d.runtimePrincipalId ++ [("envelope", d.envelope.toJson)])

/-- The cancellation permit as JSON. -/
def RuntimeCancellationPermit.toJson (c : RuntimeCancellationPermit) : Json :=
  .obj ([("cancellationId", .str c.cancellationId), ("connectionId", .str c.connectionId),
      ("adapterRegistrationId", .str c.adapterRegistrationId)]
    ++ optionalField "runtimePrincipalId" c.runtimePrincipalId
    ++ [("runId", .str c.runId), ("externalRunId", .str c.externalRunId)])

theorem stringsJson_injective : Function.Injective stringsJson := by
  intro l l' h
  have hinj : Function.Injective Json.str := fun a b hab => by simpa using hab
  simpa [stringsJson, List.map_inj_right hinj] using h

theorem safeItems_map {α : Type} {f : α → Json} (hf : ∀ a, (f a).Safe) (l : List α) :
    Json.SafeItems (l.map f) := by
  induction l with
  | nil => trivial
  | cons a l ih => exact ⟨hf a, ih⟩

theorem stringsJson_safe (l : List String) : (stringsJson l).Safe :=
  safeItems_map (f := Json.str) (fun _ => trivial) l

/-- An envelope with a JSON input is JSON. -/
theorem RuntimeTaskEnvelope.toJson_safe {e : RuntimeTaskEnvelope} (h : Json.SafeFields e.input) :
    e.toJson.Safe := by
  have htools : Json.SafeItems (e.tools.map EnvelopeTool.toJson) :=
    safeItems_map (f := EnvelopeTool.toJson)
      (fun t => ⟨trivial, stringsJson_safe t.scopes, trivial⟩) e.tools
  exact ⟨trivial, trivial, trivial, trivial, h, stringsJson_safe _, htools, trivial,
    ⟨trivial, trivial, trivial, trivial⟩, trivial⟩

/-- The JSON of an envelope determines the envelope. -/
theorem RuntimeTaskEnvelope.toJson_injective : Function.Injective RuntimeTaskEnvelope.toJson := by
  intro a b h
  have htool : Function.Injective EnvelopeTool.toJson := by
    intro s t hst
    simp only [EnvelopeTool.toJson, Json.obj.injEq, List.cons.injEq, Prod.mk.injEq, Json.str.injEq,
      true_and, and_true] at hst
    cases s; cases t
    simp_all [stringsJson_injective.eq_iff]
  simp only [toJson, CostLimit.toJson, Json.obj.injEq, List.cons.injEq, Prod.mk.injEq,
    Json.str.injEq, Json.arr.injEq, Json.int.injEq, true_and, and_true,
    stringsJson_injective.eq_iff, TaskKind.code_injective.eq_iff, List.map_inj_right htool,
    Nat.cast_inj, Fin.val_inj] at h
  obtain ⟨hrun, htask, hws, hkind, hinput, hcaps, htools, hlevel, hcur, hminor, hcompute⟩ := h
  cases a with
  | mk _ _ _ _ _ _ _ _ la => cases b with
    | mk _ _ _ _ _ _ _ _ lb => cases la; cases lb; simp_all

/-- **Envelopes that print alike are equal.** -/
theorem RuntimeTaskEnvelope.eq_of_text_eq {a b : RuntimeTaskEnvelope}
    (ha : Json.SafeFields a.input) (hb : Json.SafeFields b.input)
    (h : a.toJson.text = b.toJson.text) : a = b :=
  toJson_injective (Json.text_injective (toJson_safe ha) (toJson_safe hb) h)

/-! ## Records under their keys -/

section Keys

instance : HasKey Key Runtime := ⟨fun r => key r.workspaceId r.id⟩
instance : HasKey Key Agent := ⟨fun r => key r.workspaceId r.id⟩
instance : HasKey Key Capability := ⟨fun r => key r.workspaceId r.id⟩
instance : HasKey Key AgentCapability := ⟨fun r => key r.workspaceId r.id⟩
instance : HasKey Key Tool := ⟨fun r => key r.workspaceId r.id⟩
instance : HasKey Key ToolGrant := ⟨fun r => key r.workspaceId r.id⟩
instance : HasKey Key AuthorityGrant := ⟨fun r => key r.workspaceId r.id⟩
instance : HasKey Key RuntimeConnection := ⟨fun r => key r.workspaceId r.id⟩
instance : HasKey Key Heartbeat := ⟨fun r => key r.workspaceId r.id⟩
instance : HasKey Key ControlPlaneTask := ⟨fun r => key r.workspaceId r.id⟩
instance : HasKey Key AgentRun := ⟨fun r => key r.workspaceId r.id⟩
instance : HasKey Key ControlPlaneEvent := ⟨fun r => key r.workspaceId r.id⟩
instance : HasKey Key UsageRecord := ⟨fun r => key r.workspaceId r.id⟩

@[simp] theorem keyOf_connection (r : RuntimeConnection) : keyOf r = key r.workspaceId r.id := rfl
@[simp] theorem keyOf_task (r : ControlPlaneTask) : keyOf r = key r.workspaceId r.id := rfl
@[simp] theorem keyOf_run (r : AgentRun) : keyOf r = key r.workspaceId r.id := rfl

end Keys

end VentureOS.ControlPlane
