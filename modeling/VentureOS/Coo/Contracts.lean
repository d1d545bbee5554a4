import VentureOS.ControlPlane.Events

/-! # Contracts of the AI COO and the agent factory

The records of `ai-coo.ts` and `agent-factory.ts`, field by field, with the parts of
`runtime-broker.ts` they refer to. Plans and requests arrive as untrusted data: the checks on their
shape (object keys, arrays without holes, known codes) always pass on these types, the checks on
texts and numbers do not, and stay. -/

namespace VentureOS

open ControlPlane

/-! ## Texts and numbers -/

/-- What both components accept as a text: not blank, at most 2048 code units, no control
character. -/
def PrintableText (value : String) : Prop :=
  isBlank value = false ∧ utf16Length value ≤ 2048 ∧ value.toList.any isControl = false

instance (value : String) : Decidable (PrintableText value) :=
  inferInstanceAs (Decidable (_ ∧ _ ∧ _))

/-- What both components accept as a number up to a maximum. -/
def WithinBounds (value maximum : Int) : Prop :=
  isSafeInteger value = true ∧ 0 ≤ value ∧ value ≤ maximum

instance (value maximum : Int) : Decidable (WithinBounds value maximum) :=
  inferInstanceAs (Decidable (_ ∧ _ ∧ _))

/-- A number within bounds is within wider safe ones. -/
theorem WithinBounds.safe {value maximum : Int} (h : WithinBounds value maximum) :
    WithinBounds value maxSafeInteger := by
  obtain ⟨hsafe, hnonneg, -⟩ := h
  refine ⟨hsafe, hnonneg, ?_⟩
  simp only [isSafeInteger, decide_eq_true_eq] at hsafe
  exact hsafe.2

/-- A safe limit bounds safe integers. -/
theorem withinBounds_of_le {value maximum : Int} (h : WithinBounds maximum maxSafeInteger)
    (h0 : 0 ≤ value) (hle : value ≤ maximum) : WithinBounds value maxSafeInteger := by
  obtain ⟨-, -, hmax⟩ := h
  refine ⟨?_, h0, hle.trans hmax⟩
  simp only [isSafeInteger, decide_eq_true_eq]
  unfold maxSafeInteger at *
  omega

/-! ## Agents of the factory -/

/-- `AgentRetention`. -/
inductive AgentRetention where
  | DELETE_ON_COMPLETION
  | ARCHIVE
  deriving DecidableEq, Repr

/-- `AgentLifecycle`. -/
inductive AgentLifecycle where
  | ACTIVE
  | COMPLETED
  | FAILED
  | ARCHIVED
  | DELETED
  deriving DecidableEq, Repr

/-- A tool an agent is granted, with its scopes. -/
structure ScopedTool where
  toolId : EntityId
  scopes : List String
  deriving DecidableEq, Repr

/-- `AgentFactoryLimits`. -/
structure AgentFactoryLimits where
  maxAgents : Int
  maxAgentsPerWorkspace : Int
  maxChildrenPerAgent : Int
  maxNestingDepth : Int
  maxConcurrentAgents : Int
  maxRuntimeMs : Int
  maxRetries : Int
  maxBudgetMinorUnits : Int
  maxComputeUnits : Int
  deriving DecidableEq, Repr

/-- `AgentTemplate`. -/
structure AgentTemplate where
  id : EntityId
  version : Int
  workspaceId : EntityId
  role : String
  department : String
  repositoryScopes : List String
  environmentScopes : List String
  dataScopes : List String
  capabilityIds : List EntityId
  toolGrants : List ScopedTool
  maximumAuthority : AuthorityLevel
  maximumRuntimeMs : Int
  maximumRetries : Int
  maximumChildren : Int
  maximumBudgetMinorUnits : Int
  maximumComputeUnits : Int
  retention : AgentRetention
  deriving DecidableEq, Repr

/-- `AgentInstantiationRequest`. -/
structure AgentInstantiationRequest where
  id : EntityId
  workspaceId : EntityId
  templateId : EntityId
  templateVersion : Int
  objectiveId : EntityId
  taskId : EntityId
  parentAgentId : Option EntityId
  repositoryScopes : List String
  environmentScopes : List String
  dataScopes : List String
  capabilityIds : List EntityId
  toolGrants : List ScopedTool
  authorityLevel : AuthorityLevel
  budgetMinorUnits : Int
  computeUnits : Int
  maxRuntimeMs : Int
  retryLimit : Int
  childLimit : Int
  acceptanceCriteria : List String
  verificationCriteria : List String
  stopCondition : String
  retention : AgentRetention
  deriving DecidableEq, Repr

/-- How an agent may end. -/
inductive AgentOutcome where
  | COMPLETED
  | FAILED
  deriving DecidableEq, Repr

/-- `FactoryAgent`. -/
structure FactoryAgent extends AgentInstantiationRequest where
  agentId : EntityId
  role : String
  department : String
  nestingDepth : Int
  lifecycle : AgentLifecycle
  createdAt : String
  archivedAt : Option String
  terminalOutcome : Option AgentOutcome
  terminalReason : Option String
  completedAt : Option String
  deriving DecidableEq, Repr

/-- `AgentFactoryDecision`. -/
structure AgentFactoryDecision where
  requestId : EntityId
  workspaceId : EntityId
  agentId : EntityId
  templateId : EntityId
  decidedAt : String
  requesterId : EntityId
  checks : List String
  templateVersion : Int
  templateSnapshot : AgentTemplate
  templateHash : String
  deriving DecidableEq, Repr

/-- The events of the factory. -/
inductive AgentFactoryEventType where
  | agentCreated
  | agentCompleted
  | agentFailed
  | agentArchived
  | agentDeleted
  deriving DecidableEq, Repr

/-- The event type as a string. -/
def AgentFactoryEventType.code : AgentFactoryEventType → String
  | .agentCreated => "agent.created"
  | .agentCompleted => "agent.completed"
  | .agentFailed => "agent.failed"
  | .agentArchived => "agent.archived"
  | .agentDeleted => "agent.deleted"

/-- `AgentFactoryEvent`. -/
structure AgentFactoryEvent where
  id : EntityId
  workspaceId : EntityId
  agentId : EntityId
  type : AgentFactoryEventType
  occurredAt : String
  reason : Option String
  deriving DecidableEq, Repr

/-! ## Routing -/

/-- `DataSensitivity`. -/
inductive DataSensitivity where
  | PUBLIC
  | INTERNAL
  | CONFIDENTIAL
  | RESTRICTED
  deriving DecidableEq, Repr

/-- `RuntimeSecurityTier`: `0` to `3`. -/
abbrev RuntimeSecurityTier := Fin 4

/-- `RuntimeRoutingWeights`. -/
structure RuntimeRoutingWeights where
  quality : Int
  reliability : Int
  security : Int
  latency : Int
  cost : Int
  workload : Int
  deriving DecidableEq, Repr

/-- A tool a runtime must offer, with the scope it must offer it in. -/
structure RequiredTool where
  toolId : EntityId
  scope : String
  deriving DecidableEq, Repr

/-- `CooRoutingPolicy`: a routing request without its identifiers and its ceilings. -/
structure CooRoutingPolicy where
  requiredCapabilityIds : List EntityId
  requiredTools : List RequiredTool
  dataSensitivity : DataSensitivity
  minimumSecurityTier : RuntimeSecurityTier
  minimumReliabilityScoreBps : Int
  maximumLatencyMs : Int
  heartbeatFreshnessMs : Int
  weights : Option RuntimeRoutingWeights
  deriving DecidableEq, Repr

/-- `RuntimeRoutingRequest`. -/
structure RuntimeRoutingRequest extends CooRoutingPolicy where
  id : EntityId
  workspaceId : EntityId
  maximumCostMinorUnits : Int
  requiredComputeUnits : Int
  deriving DecidableEq, Repr

/-- `RuntimeRoutingDecision`, without the evaluations it explains itself with. -/
structure RuntimeRoutingDecision where
  requestId : EntityId
  workspaceId : EntityId
  evaluatedAt : String
  selectedRuntimeId : EntityId
  selectedConnectionId : EntityId
  selectedScoreBps : Int
  deriving DecidableEq, Repr

/-! ## Plans -/

/-- `CooTaskStatus`. -/
inductive CooTaskStatus where
  | BLOCKED
  | READY
  | ASSIGNED
  | AWAITING_APPROVAL
  | COMPLETED
  | FAILED
  | STOPPED
  deriving DecidableEq, Repr

/-- `CooObjective`. -/
structure CooObjective where
  id : EntityId
  workspaceId : EntityId
  title : String
  desiredOutcome : String
  maximumAuthority : AuthorityLevel
  costLimit : CostLimit
  acceptanceCriteria : List String
  verificationCriteria : List String
  stopConditions : List String
  deriving DecidableEq, Repr

/-- `CooProject`. -/
structure CooProject where
  id : EntityId
  workspaceId : EntityId
  objectiveId : EntityId
  title : String
  deriving DecidableEq, Repr

/-- `CooRetryPolicy`. -/
structure CooRetryPolicy where
  maximumAttempts : Int
  retryableFailureCodes : List String
  stopAfterFailureCodes : List String
  deriving DecidableEq, Repr

/-- `CooAgentPolicy`. -/
structure CooAgentPolicy where
  templateId : EntityId
  templateVersion : Int
  parentAgentId : Option EntityId
  repositoryScopes : List String
  environmentScopes : List String
  dataScopes : List String
  capabilityIds : List EntityId
  toolGrants : List ScopedTool
  maxRuntimeMs : Int
  childLimit : Int
  retention : AgentRetention
  deriving DecidableEq, Repr

/-- `CooTask`. -/
structure CooTask where
  id : EntityId
  workspaceId : EntityId
  objectiveId : EntityId
  projectId : EntityId
  title : String
  kind : TaskKind
  dependencyIds : List EntityId
  requiredAuthority : AuthorityLevel
  costLimit : CostLimit
  estimatedDurationMs : Int
  acceptanceCriteria : List String
  verificationCriteria : List String
  stopConditions : List String
  retryPolicy : CooRetryPolicy
  agentPolicy : CooAgentPolicy
  routingPolicy : CooRoutingPolicy
  exactTarget : Option String
  deriving DecidableEq, Repr

/-- `CooTaskState`. -/
structure CooTaskState extends CooTask where
  status : CooTaskStatus
  attempts : Int
  costUsedMinorUnits : Int
  computeUsed : Int
  assignedAgentId : Option EntityId
  selectedRuntimeId : Option EntityId
  selectedConnectionId : Option EntityId
  runId : Option EntityId
  deriving DecidableEq, Repr

/-- `ObjectivePlan`. -/
structure ObjectivePlan where
  objective : CooObjective
  projects : List CooProject
  tasks : List CooTask
  deriving DecidableEq, Repr

/-- `VerificationEvidence`. -/
structure VerificationEvidence where
  criterion : String
  runId : EntityId
  artifactId : EntityId
  contentHash : String
  deriving DecidableEq, Repr

/-- `FounderDecisionCard`; its status is always `PENDING`. -/
structure FounderDecisionCard where
  id : EntityId
  workspaceId : EntityId
  objectiveId : EntityId
  taskId : EntityId
  requestedAction : String
  requesterId : EntityId
  exactTarget : Option String
  reason : String
  businessImpact : String
  securityImpact : String
  privacyImpact : String
  financialImpact : String
  alternatives : List String
  recommendedAction : String
  rollback : String
  expiresAt : String
  deriving DecidableEq, Repr

/-- `CooEvent`. -/
structure CooEvent where
  id : EntityId
  workspaceId : EntityId
  objectiveId : EntityId
  projectId : Option EntityId
  taskId : Option EntityId
  type : OperationalEventType
  occurredAt : String
  actorId : EntityId
  facts : Facts
  deriving DecidableEq, Repr

/-- `AssignmentRequest`. -/
structure AssignmentRequest where
  taskId : EntityId
  factoryRequest : AgentInstantiationRequest
  routingRequest : RuntimeRoutingRequest
  deriving DecidableEq, Repr

/-- `AssignmentDecision`. -/
structure AssignmentDecision where
  taskId : EntityId
  agentId : EntityId
  runtime : RuntimeRoutingDecision
  factoryDecision : AgentFactoryDecision
  runId : EntityId
  deriving DecidableEq, Repr

/-- `CriticalPathReport`. -/
structure CriticalPathReport where
  objectiveId : EntityId
  taskIds : List EntityId
  totalDurationMs : Int
  blockedTaskIds : List EntityId
  deriving DecidableEq, Repr

/-! ## Stored records -/

instance : HasKey Key FactoryAgent := ⟨fun r => key r.workspaceId r.agentId⟩
instance : HasKey Key CooObjective := ⟨fun r => key r.workspaceId r.id⟩
instance : HasKey Key CooProject := ⟨fun r => key r.workspaceId r.id⟩
instance : HasKey Key CooTaskState := ⟨fun r => key r.workspaceId r.id⟩
instance : HasKey Key FounderDecisionCard := ⟨fun r => key r.workspaceId r.id⟩

@[simp] theorem keyOf_objective (r : CooObjective) : keyOf r = key r.workspaceId r.id := rfl
@[simp] theorem keyOf_factoryAgent (r : FactoryAgent) :
    keyOf r = key r.workspaceId r.agentId := rfl

end VentureOS
