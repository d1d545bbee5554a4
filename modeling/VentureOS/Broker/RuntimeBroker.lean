import VentureOS.Foundations.Machine
import VentureOS.Foundations.Sorting
import VentureOS.ControlPlane.Operations
import VentureOS.Coo.Contracts

/-! # The runtime broker

`RuntimeBroker`: candidate evidence that an authorized principal ingests, and `route`, which evaluates the
candidates of a workspace against a request and selects the best one. Evidence and requests arrive as
untrusted data: the checks on their shape (plain objects, dense arrays, booleans, known codes) always pass
on these types, the checks on texts and numbers do not, and stay.

Candidates are filed under workspace, runtime and connection; the source builds that key as the JSON text
of the three. The clock is the sequence of its readings, and `Date.parse` is a parameter. -/

namespace VentureOS.Broker

open ControlPlane Program

/-- `new RuntimeBrokerPolicyError(message)`. -/
def runtimeBrokerPolicyError (message : String) : Failure := ⟨.runtimeBrokerPolicy, message⟩

/-! ## Contracts -/

/-- One proof of the trust evidence. -/
structure RuntimeProof where
  verified : Bool
  runtimeId : EntityId
  principalId : EntityId
  connectionId : EntityId
  deriving DecidableEq, Repr

/-- The heartbeat proof also says when it was observed. -/
structure HeartbeatProof extends RuntimeProof where
  observedAt : String
  deriving DecidableEq, Repr

/-- `RuntimeTrustEvidence`. -/
structure RuntimeTrustEvidence where
  registration : RuntimeProof
  capabilityExchange : RuntimeProof
  heartbeat : HeartbeatProof
  taskRoundTrip : RuntimeProof
  deriving DecidableEq, Repr

/-- `Object.values(trustEvidence)`. -/
def RuntimeTrustEvidence.proofs (evidence : RuntimeTrustEvidence) : List RuntimeProof :=
  [evidence.registration, evidence.capabilityExchange, evidence.heartbeat.toRuntimeProof, evidence.taskRoundTrip]

/-- `RuntimeRoutingCandidate`. -/
structure RuntimeRoutingCandidate where
  runtimeId : EntityId
  connectionId : EntityId
  workspaceId : EntityId
  connectionStatus : RuntimeConnectionStatus
  authenticatedPrincipalId : EntityId
  trustEvidence : RuntimeTrustEvidence
  capabilityIds : List EntityId
  toolGrants : List ScopedTool
  maximumDataSensitivity : DataSensitivity
  securityTier : RuntimeSecurityTier
  reliabilityScoreBps : Int
  qualityScoreBps : Int
  expectedLatencyMs : Int
  estimatedCostMinorUnits : Int
  activeRuns : Int
  maxConcurrentRuns : Int
  remainingBudgetMinorUnits : Int
  remainingComputeUnits : Int
  deriving DecidableEq, Repr

/-- `RuntimeRejectionReason`. -/
inductive RuntimeRejectionReason where
  | CROSS_WORKSPACE
  | NOT_CONNECTED
  | UNAUTHENTICATED
  | UNCORRELATED_TRUST_EVIDENCE
  | STALE_HEARTBEAT
  | MISSING_CAPABILITY
  | MISSING_TOOL_SCOPE
  | DATA_SENSITIVITY_DENIED
  | SECURITY_TIER_TOO_LOW
  | RELIABILITY_TOO_LOW
  | LATENCY_TOO_HIGH
  | TASK_COST_LIMIT_EXCEEDED
  | RUNTIME_BUDGET_EXHAUSTED
  | COMPUTE_BUDGET_EXHAUSTED
  | RUNTIME_AT_CAPACITY
  | INVALID_EVIDENCE
  deriving DecidableEq, Repr

/-- The reason as a string. -/
def RuntimeRejectionReason.code : RuntimeRejectionReason → String
  | .CROSS_WORKSPACE => "CROSS_WORKSPACE"
  | .NOT_CONNECTED => "NOT_CONNECTED"
  | .UNAUTHENTICATED => "UNAUTHENTICATED"
  | .UNCORRELATED_TRUST_EVIDENCE => "UNCORRELATED_TRUST_EVIDENCE"
  | .STALE_HEARTBEAT => "STALE_HEARTBEAT"
  | .MISSING_CAPABILITY => "MISSING_CAPABILITY"
  | .MISSING_TOOL_SCOPE => "MISSING_TOOL_SCOPE"
  | .DATA_SENSITIVITY_DENIED => "DATA_SENSITIVITY_DENIED"
  | .SECURITY_TIER_TOO_LOW => "SECURITY_TIER_TOO_LOW"
  | .RELIABILITY_TOO_LOW => "RELIABILITY_TOO_LOW"
  | .LATENCY_TOO_HIGH => "LATENCY_TOO_HIGH"
  | .TASK_COST_LIMIT_EXCEEDED => "TASK_COST_LIMIT_EXCEEDED"
  | .RUNTIME_BUDGET_EXHAUSTED => "RUNTIME_BUDGET_EXHAUSTED"
  | .COMPUTE_BUDGET_EXHAUSTED => "COMPUTE_BUDGET_EXHAUSTED"
  | .RUNTIME_AT_CAPACITY => "RUNTIME_AT_CAPACITY"
  | .INVALID_EVIDENCE => "INVALID_EVIDENCE"

/-- `RuntimeScoreFactors`. -/
structure RuntimeScoreFactors where
  quality : Int
  reliability : Int
  security : Int
  latency : Int
  cost : Int
  workload : Int
  deriving DecidableEq, Repr

/-- `RuntimeCandidateEvaluation`. -/
structure RuntimeCandidateEvaluation where
  runtimeId : EntityId
  connectionId : EntityId
  eligible : Bool
  rejectionReasons : List RuntimeRejectionReason
  scoreBps : Option Int
  scoreFactors : Option RuntimeScoreFactors
  deriving DecidableEq, Repr

/-- `RuntimeRoutingDecision` with the evaluations it explains itself with. The tie break rule is always
`SCORE_DESC_RUNTIME_ID_ASC_CONNECTION_ID_ASC`. -/
structure ExplainedRoutingDecision extends RuntimeRoutingDecision where
  tieBreakRule : String
  evaluations : List RuntimeCandidateEvaluation
  deriving DecidableEq, Repr

/-- `RuntimeNoCandidateEvidence`. -/
structure RuntimeNoCandidateEvidence where
  requestId : EntityId
  workspaceId : EntityId
  evaluatedAt : String
  evaluations : List RuntimeCandidateEvaluation
  deriving DecidableEq, Repr

/-- What the broker throws: `NoEligibleRuntimeError` carries the evidence. -/
inductive BrokerError where
  | failure (failure : Failure)
  | noEligibleRuntime (evidence : RuntimeNoCandidateEvidence)
  deriving DecidableEq, Repr

/-- `DEFAULT_WEIGHTS`. -/
def defaultWeights : RuntimeRoutingWeights where
  quality := 2500
  reliability := 2500
  security := 2000
  latency := 1000
  cost := 1000
  workload := 1000

/-- `SENSITIVITY_RANK`. -/
def sensitivityRank : DataSensitivity → Nat
  | .PUBLIC => 0
  | .INTERNAL => 1
  | .CONFIDENTIAL => 2
  | .RESTRICTED => 3

/-! ## Validation -/

/-- `compareText`. -/
def compareText (left right : String) : Int :=
  if left = right then 0 else if utf16Units left < utf16Units right then -1 else 1

/-- `assertBoundedString`. -/
def assertBoundedString (value field : String) : Except Failure Unit :=
  throwIf (isBlank value = true ∨ 2048 < utf16Length value)
    (runtimeBrokerPolicyError s!"{field} must be a non-empty bounded string")

/-- `assertArray`: an array without holes of at most `maximum` items. -/
def assertArray {α : Type} (value : List α) (field : String) (maximum : Nat) :
    Except Failure Unit :=
  throwIf (maximum < value.length)
    (runtimeBrokerPolicyError s!"{field} must be a dense bounded array")

/-- `assertIntegerInRange`. -/
def assertIntegerInRange (value : Int) (field : String) (minimum maximum : Int) :
    Except Failure Unit :=
  throwIf (isSafeInteger value = false ∨ value < minimum ∨ maximum < value)
    (runtimeBrokerPolicyError s!"{field} is outside its governed integer range")

/-- `ratioScore`. The quotient of big integers is exact. -/
def ratioScore (used maximum : Int) : Int :=
  if maximum ≤ 0 then 0 else max 0 (10000 - used * 10000 / maximum)

/-- `uniqueReasons`. -/
def uniqueReasons (reasons : List RuntimeRejectionReason) : List RuntimeRejectionReason :=
  sortBy (fun left right => compareText left.code right.code) reasons.dedup

/-- The values of the weights in the order of their names. -/
def RuntimeRoutingWeights.values (weights : RuntimeRoutingWeights) : List Int :=
  [weights.cost, weights.latency, weights.quality, weights.reliability, weights.security, weights.workload]

/-- `validateWeights`. -/
def validateWeights (weights : RuntimeRoutingWeights) : Except Failure Unit := do
  forM (RuntimeRoutingWeights.values weights).zipIdx fun (value, index) =>
    assertIntegerInRange value s!"routing weight {index}" 0 10000
  throwIf ((RuntimeRoutingWeights.values weights).sum ≠ 10000)
    (runtimeBrokerPolicyError "Routing weights must sum to 10,000 basis points")

/-- `validateRequest`. -/
def validateRequest (context : WorkspaceContext) (request : RuntimeRoutingRequest) :
    Except Failure Unit := do
  throwIf (context.workspaceId ≠ request.workspaceId)
    (runtimeBrokerPolicyError "Routing request is outside the authenticated workspace")
  assertBoundedString request.id "request.id"
  assertBoundedString request.workspaceId "request.workspaceId"
  assertIntegerInRange request.minimumSecurityTier.val "minimumSecurityTier" 0 3
  assertIntegerInRange request.minimumReliabilityScoreBps "minimumReliabilityScoreBps" 0 10000
  assertIntegerInRange request.maximumLatencyMs "maximumLatencyMs" 1 (24 * 60 * 60 * 1000)
  assertIntegerInRange request.maximumCostMinorUnits "maximumCostMinorUnits" 0 maxSafeInteger
  assertIntegerInRange request.requiredComputeUnits "requiredComputeUnits" 0 maxSafeInteger
  assertIntegerInRange request.heartbeatFreshnessMs "heartbeatFreshnessMs" 1 (60 * 60 * 1000)
  assertArray request.requiredCapabilityIds "requiredCapabilityIds" 64
  assertArray request.requiredTools "requiredTools" 64
  forM request.requiredCapabilityIds fun capabilityId =>
    assertBoundedString capabilityId "requiredCapabilityId"
  forM request.requiredTools fun tool => do
    assertBoundedString tool.toolId "requiredTool.toolId"
    assertBoundedString tool.scope "requiredTool.scope"
  validateWeights (request.weights.getD defaultWeights)

/-- The checks in the body of `validateCandidate`. -/
def checkCandidate (candidate : RuntimeRoutingCandidate) : Except Failure Unit := do
  assertBoundedString candidate.runtimeId "runtimeId"
  assertBoundedString candidate.connectionId "connectionId"
  assertBoundedString candidate.workspaceId "workspaceId"
  assertBoundedString candidate.authenticatedPrincipalId "authenticatedPrincipalId"
  assertIntegerInRange candidate.securityTier.val "securityTier" 0 3
  forM candidate.trustEvidence.proofs fun proof => do
    assertBoundedString proof.runtimeId "trustEvidence.runtimeId"
    assertBoundedString proof.principalId "trustEvidence.principalId"
    assertBoundedString proof.connectionId "trustEvidence.connectionId"
  assertBoundedString candidate.trustEvidence.heartbeat.observedAt
    "trustEvidence.heartbeat.observedAt"
  assertIntegerInRange candidate.reliabilityScoreBps "reliabilityScoreBps" 0 10000
  assertIntegerInRange candidate.qualityScoreBps "qualityScoreBps" 0 10000
  assertIntegerInRange candidate.expectedLatencyMs "expectedLatencyMs" 0 (24 * 60 * 60 * 1000)
  assertIntegerInRange candidate.estimatedCostMinorUnits "estimatedCostMinorUnits" 0 maxSafeInteger
  assertIntegerInRange candidate.activeRuns "activeRuns" 0 maxSafeInteger
  assertIntegerInRange candidate.maxConcurrentRuns "maxConcurrentRuns" 1 maxSafeInteger
  assertIntegerInRange candidate.remainingBudgetMinorUnits "remainingBudgetMinorUnits" 0
    maxSafeInteger
  assertIntegerInRange candidate.remainingComputeUnits "remainingComputeUnits" 0 maxSafeInteger
  assertArray candidate.capabilityIds "capabilityIds" 128
  assertArray candidate.toolGrants "toolGrants" 128
  forM candidate.capabilityIds fun capabilityId => assertBoundedString capabilityId "capabilityId"
  forM candidate.toolGrants fun grant => do
    assertBoundedString grant.toolId "toolGrant.toolId"
    assertArray grant.scopes "toolGrant.scopes" 64
    forM grant.scopes fun scope => assertBoundedString scope "toolGrant.scope"

/-- `validateCandidate`: a check that throws is one reason. -/
def validateCandidate (candidate : RuntimeRoutingCandidate) : List RuntimeRejectionReason :=
  match checkCandidate candidate with
  | .ok _ => []
  | .error _ => [.INVALID_EVIDENCE]

/-- The test on the proofs: one is not verified, or of another runtime, principal or connection. -/
def uncorrelated (candidate : RuntimeRoutingCandidate) : Bool :=
  candidate.trustEvidence.proofs.any fun proof =>
    !proof.verified || decide (proof.runtimeId ≠ candidate.runtimeId)
      || decide (proof.principalId ≠ candidate.authenticatedPrincipalId)
      || decide (proof.connectionId ≠ candidate.connectionId)

/-! ## The broker -/

/-- Workspace, runtime and connection of a candidate. -/
abbrev Identity := EntityId × EntityId × EntityId

instance : HasKey Identity RuntimeRoutingCandidate :=
  ⟨fun r => (r.workspaceId, r.runtimeId, r.connectionId)⟩

@[simp] theorem keyOf_candidate (r : RuntimeRoutingCandidate) :
    keyOf r = (r.workspaceId, r.runtimeId, r.connectionId) := rfl

/-- `RuntimeBrokerOptions`, with the readings of the clock in the order in which they are taken. -/
structure RuntimeBrokerOptions where
  authorityPrincipals : List EntityId
  clock : Nat → Int
  dateParse : String → Option Int

/-- The candidates of a broker, and the number of clock readings taken. -/
structure RuntimeBroker where
  candidates : Store Identity RuntimeRoutingCandidate
  clockReads : Nat

/-- A broker without evidence. -/
def RuntimeBroker.empty : RuntimeBroker := ⟨.empty, 0⟩

/-- A method of the broker. -/
abbrev Op (α : Type) := Program BrokerError RuntimeBroker α

/-- Throw a failure of a check. -/
def check {α : Type} (x : Except Failure α) : Except BrokerError α := x.mapError .failure

variable (options : RuntimeBrokerOptions)

/-- `#validatedEvidence`; normalizing copies the fields of the type and changes none. -/
def validatedEvidence (context : WorkspaceContext) (candidate : RuntimeRoutingCandidate) :
    Except Failure Unit := do
  throwIf (context.principalId ∉ options.authorityPrincipals)
    (runtimeBrokerPolicyError "Only an authorized control-plane principal may ingest evidence")
  throwIf (0 < (validateCandidate candidate).length)
    (runtimeBrokerPolicyError "Candidate evidence is malformed")
  throwIf (uncorrelated candidate = true)
    (runtimeBrokerPolicyError "Candidate trust evidence is not identity-correlated")
  throwIf (candidate.workspaceId ≠ context.workspaceId)
    (runtimeBrokerPolicyError "Candidate evidence is outside the authenticated workspace")

/-- `putCandidateEvidence`. -/
def putCandidateEvidence (context : WorkspaceContext) (candidate : RuntimeRoutingCandidate) :
    Op Unit := do
  check (validatedEvidence options context candidate)
  let broker ← get
  check (throwIf (broker.candidates.has (keyOf candidate) = true)
    (runtimeBrokerPolicyError "Candidate evidence identity already exists"))
  set { broker with candidates := broker.candidates.put candidate }

/-- `replaceCandidateEvidence`. -/
def replaceCandidateEvidence (context : WorkspaceContext) (candidate : RuntimeRoutingCandidate) :
    Op Unit := do
  check (validatedEvidence options context candidate)
  let broker ← get
  check (throwIf (broker.candidates.has (keyOf candidate) = false)
    (runtimeBrokerPolicyError "Candidate evidence identity does not exist"))
  set { broker with candidates := broker.candidates.put candidate }

/-! ## Evaluation -/

/-- A reason, if it applies. -/
def reasonIf (c : Prop) [Decidable c] (reason : RuntimeRejectionReason) :
    List RuntimeRejectionReason := if c then [reason] else []

/-- The heartbeat was observed too long ago, after the clock, or at no time at all. -/
def staleHeartbeat (request : RuntimeRoutingRequest) (candidate : RuntimeRoutingCandidate)
    (now : Int) : Bool :=
  match options.dateParse candidate.trustEvidence.heartbeat.observedAt with
  | none => true
  | some heartbeatTime => decide (now + 30000 < heartbeatTime)
      || decide (request.heartbeatFreshnessMs < now - heartbeatTime)

/-- The reasons `#evaluateCandidate` collects after those of `validateCandidate`. -/
def policyReasons (request : RuntimeRoutingRequest) (candidate : RuntimeRoutingCandidate)
    (now : Int) : List RuntimeRejectionReason :=
  reasonIf (candidate.connectionStatus ≠ .CONNECTED) .NOT_CONNECTED
    ++ reasonIf (candidate.authenticatedPrincipalId = "") .UNAUTHENTICATED
    ++ reasonIf (uncorrelated candidate = true) .UNCORRELATED_TRUST_EVIDENCE
    ++ reasonIf (staleHeartbeat options request candidate now = true) .STALE_HEARTBEAT
    ++ request.requiredCapabilityIds.flatMap (fun capabilityId =>
      reasonIf (capabilityId ∉ candidate.capabilityIds) .MISSING_CAPABILITY)
    ++ request.requiredTools.flatMap (fun requiredTool =>
      reasonIf (candidate.toolGrants.any (fun grant => grant.toolId == requiredTool.toolId
        && grant.scopes.contains requiredTool.scope) = false) .MISSING_TOOL_SCOPE)
    ++ reasonIf (sensitivityRank candidate.maximumDataSensitivity
      < sensitivityRank request.dataSensitivity) .DATA_SENSITIVITY_DENIED
    ++ reasonIf (candidate.securityTier < request.minimumSecurityTier) .SECURITY_TIER_TOO_LOW
    ++ reasonIf (candidate.reliabilityScoreBps < request.minimumReliabilityScoreBps)
      .RELIABILITY_TOO_LOW
    ++ reasonIf (request.maximumLatencyMs < candidate.expectedLatencyMs) .LATENCY_TOO_HIGH
    ++ reasonIf (request.maximumCostMinorUnits < candidate.estimatedCostMinorUnits)
      .TASK_COST_LIMIT_EXCEEDED
    ++ reasonIf (candidate.remainingBudgetMinorUnits < candidate.estimatedCostMinorUnits)
      .RUNTIME_BUDGET_EXHAUSTED
    ++ reasonIf (candidate.remainingComputeUnits < request.requiredComputeUnits)
      .COMPUTE_BUDGET_EXHAUSTED
    ++ reasonIf (candidate.maxConcurrentRuns ≤ candidate.activeRuns) .RUNTIME_AT_CAPACITY

/-- The factors of the score of an eligible candidate. -/
def scoreFactors (request : RuntimeRoutingRequest) (candidate : RuntimeRoutingCandidate) :
    RuntimeScoreFactors :=
  let costCeiling := min request.maximumCostMinorUnits candidate.remainingBudgetMinorUnits
  { quality := candidate.qualityScoreBps
    reliability := candidate.reliabilityScoreBps
    security := (candidate.securityTier.val + 1) * 10000 / 4
    latency := ratioScore candidate.expectedLatencyMs request.maximumLatencyMs
    cost := if costCeiling = 0 then (if candidate.estimatedCostMinorUnits = 0 then 10000 else 0)
      else ratioScore candidate.estimatedCostMinorUnits costCeiling
    workload := ratioScore candidate.activeRuns candidate.maxConcurrentRuns }

/-- The score: the weighted factors. -/
def scoreBps (weights : RuntimeRoutingWeights) (factors : RuntimeScoreFactors) : Int :=
  (factors.quality * weights.quality + factors.reliability * weights.reliability
    + factors.security * weights.security + factors.latency * weights.latency
    + factors.cost * weights.cost + factors.workload * weights.workload) / 10000

/-- `#evaluateCandidate`. -/
def evaluateCandidate (request : RuntimeRoutingRequest) (candidate : RuntimeRoutingCandidate)
    (now : Int) : RuntimeCandidateEvaluation :=
  let reasons := validateCandidate candidate
  if candidate.workspaceId ≠ request.workspaceId then
    ⟨"[cross-workspace]", "[cross-workspace]", false, [.CROSS_WORKSPACE], none, none⟩
  else if .INVALID_EVIDENCE ∈ reasons then
    ⟨candidate.runtimeId, candidate.connectionId, false, uniqueReasons reasons, none, none⟩
  else
    let rejectionReasons := uniqueReasons (reasons ++ policyReasons options request candidate now)
    if rejectionReasons ≠ [] then
      ⟨candidate.runtimeId, candidate.connectionId, false, rejectionReasons, none, none⟩
    else
      let factors := scoreFactors request candidate
      ⟨candidate.runtimeId, candidate.connectionId, true, [],
        some (scoreBps (request.weights.getD defaultWeights) factors), some factors⟩

/-! ## Routing -/

/-- The candidates of a workspace, in the order in which they were first ingested. -/
def workspaceCandidates (broker : RuntimeBroker) (workspaceId : EntityId) :
    List RuntimeRoutingCandidate :=
  broker.candidates.values.filter fun candidate => decide (candidate.workspaceId = workspaceId)

/-- The comparator of the eligible evaluations, which all have a score. -/
def compareEligible (left right : RuntimeCandidateEvaluation × Int) : Int :=
  thenBy (right.2 - left.2) (thenBy (compareText left.1.runtimeId right.1.runtimeId)
    (compareText left.1.connectionId right.1.connectionId))

/-- The comparator of all evaluations. -/
def compareEvaluations (left right : RuntimeCandidateEvaluation) : Int :=
  thenBy (compareText left.runtimeId right.runtimeId)
    (compareText left.connectionId right.connectionId)

/-- The evaluations that are eligible and have a score, with that score. -/
def scored (evaluations : List RuntimeCandidateEvaluation) :
    List (RuntimeCandidateEvaluation × Int) :=
  evaluations.filterMap fun evaluation =>
    if evaluation.eligible then evaluation.scoreBps.map fun score => (evaluation, score) else none

/-- What `route` makes of the evaluations. -/
def select (request : RuntimeRoutingRequest) (evaluatedAt : String)
    (evaluations : List RuntimeCandidateEvaluation) : Except BrokerError ExplainedRoutingDecision :=
  let eligible := sortBy compareEligible (scored evaluations)
  let orderedEvaluations := sortBy compareEvaluations evaluations
  match eligible.head? with
  | none => .error (.noEligibleRuntime
      ⟨request.id, request.workspaceId, evaluatedAt, orderedEvaluations⟩)
  | some (selected, score) => .ok
      { requestId := request.id
        workspaceId := request.workspaceId
        evaluatedAt := evaluatedAt
        selectedRuntimeId := selected.runtimeId
        selectedConnectionId := selected.connectionId
        selectedScoreBps := score
        tieBreakRule := "SCORE_DESC_RUNTIME_ID_ASC_CONNECTION_ID_ASC"
        evaluations := orderedEvaluations }

/-- `route`. -/
def route (context : WorkspaceContext) (request : RuntimeRoutingRequest) :
    Op ExplainedRoutingDecision := do
  check (validateRequest context request)
  let broker ← get
  let candidates := workspaceCandidates broker context.workspaceId
  check (throwIf (1000 < candidates.length)
    (runtimeBrokerPolicyError "Runtime candidate set exceeds the governed bound"))
  set { broker with clockReads := broker.clockReads + 1 }
  let evaluatedAtMs := options.clock broker.clockReads
  check (throwIf (isSafeInteger evaluatedAtMs = false ∨ evaluatedAtMs < 0)
    (runtimeBrokerPolicyError "Broker clock returned an invalid time"))
  let evaluatedAt ← check (isoTime evaluatedAtMs)
  let evaluations := candidates.map fun candidate =>
    evaluateCandidate options request candidate evaluatedAtMs
  select request evaluatedAt evaluations

/-! ## The broker as a machine -/

/-- A public call of the broker. -/
inductive Call where
  | putCandidateEvidence (context : WorkspaceContext) (candidate : RuntimeRoutingCandidate)
  | replaceCandidateEvidence (context : WorkspaceContext) (candidate : RuntimeRoutingCandidate)
  | route (context : WorkspaceContext) (request : RuntimeRoutingRequest)

/-- Answer a call: a decision, if it is a request. -/
def answer : Call → Op (Option ExplainedRoutingDecision)
  | .putCandidateEvidence context candidate => do
    putCandidateEvidence options context candidate; return none
  | .replaceCandidateEvidence context candidate => do
    replaceCandidateEvidence options context candidate; return none
  | .route context request => do return some (← route options context request)

/-- One step of the machine. -/
def perform (call : Call) (broker : RuntimeBroker) :
    Except BrokerError (Option ExplainedRoutingDecision) × RuntimeBroker :=
  (answer options call).exec broker

/-- The broker reached by a list of calls. -/
def reach (calls : List Call) : RuntimeBroker := run (perform options) .empty calls

end VentureOS.Broker
