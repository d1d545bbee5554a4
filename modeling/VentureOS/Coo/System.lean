import VentureOS.Foundations.Machine
import VentureOS.Coo.Operations

/-! # The AI COO as a machine

A label is one public call of the COO or of its agent factory, or a change made by others: the broker
and the verifier have a state of their own, and other components append to the shared event sink.
`perform` gives the outcome of a label and the world it leaves, so every interleaving of calls is a
list of labels, and calls that throw are among them. -/

namespace VentureOS.Coo

open ControlPlane Program Factory

/-- A public call of the COO or of the factory, or a change made by others. -/
inductive Call (ω σ : Type) where
  | createPlan (context : WorkspaceContext) (plan : ObjectivePlan)
  | requestAssignment (context : WorkspaceContext) (request : AssignmentRequest)
  | recordUsage (context : WorkspaceContext) (taskId : EntityId)
      (costMinorUnits computeUnits : Int)
  | completeTask (context : WorkspaceContext) (taskId : EntityId)
      (evidence : List VerificationEvidence)
  | recordFailure (context : WorkspaceContext) (taskId : EntityId) (failureCode : String)
  | registerObjective (context : WorkspaceContext) (id : EntityId)
  | registerTask (context : WorkspaceContext) (id objectiveId : EntityId)
  | registerPlan (context : WorkspaceContext) (objectiveId : EntityId)
      (tasks : List (EntityId × EntityId))
  | putTemplate (context : WorkspaceContext) (template : AgentTemplate)
  | instantiate (context : WorkspaceContext) (request : AgentInstantiationRequest)
  | complete (context : WorkspaceContext) (agentId : EntityId) (outcome : AgentOutcome)
      (reason : Option String)
  /-- The broker or the verifier change their state. -/
  | outsideChanged (outside : ω)
  /-- Another component writes to the event sink. -/
  | sinkChanged (sink : σ)

/-- What a label returns. -/
inductive Answer where
  /-- The method returns nothing. -/
  | done
  | report (report : CriticalPathReport)
  | assignment (decision : AssignmentDecision)
  | status (status : CooTaskStatus)
  | agent (agent : FactoryAgent) (decision : AgentFactoryDecision)

variable {ω σ : Type} (governance : Governance ω σ)

/-- Answer a label. -/
def answer : Call ω σ → Op ω σ Answer
  | .createPlan context plan => do return .report (← createPlan governance context plan)
  | .requestAssignment context request => do
    return .assignment (← requestAssignment governance context request)
  | .recordUsage context taskId costMinorUnits computeUnits => do
    recordUsage governance context taskId costMinorUnits computeUnits; return .done
  | .completeTask context taskId evidence => do
    completeTask governance context taskId evidence; return .done
  | .recordFailure context taskId failureCode => do
    return .status (← recordFailure governance context taskId failureCode)
  | .registerObjective context id => do
    onFactory (Factory.registerObjective governance.factory context id); return .done
  | .registerTask context id objectiveId => do
    onFactory (Factory.registerTask governance.factory context id objectiveId); return .done
  | .registerPlan context objectiveId tasks => do
    onFactory (Factory.registerPlan governance.factory context objectiveId tasks); return .done
  | .putTemplate context template => do
    onFactory (Factory.putTemplate governance.factory context template); return .done
  | .instantiate context request => do
    let (agent, decision) ← onFactory (Factory.instantiate governance.factory context request)
    return .agent agent decision
  | .complete context agentId outcome reason => do
    onFactory (Factory.complete governance.factory context agentId outcome reason); return .done
  | .outsideChanged outside => do
    modify fun w => { w with outside := outside }
    return .done
  | .sinkChanged sink => do
    modify fun w => { w with sink := sink }
    return .done

/-- One step of the machine. -/
def perform (call : Call ω σ) (w : World ω σ) : Except Failure Answer × World ω σ :=
  (answer governance call).exec w

/-- A step of a run of the COO. -/
abbrev Step (ω σ : Type) := Entry (Call ω σ) (Except Failure Answer) (World ω σ)

/-- A COO and a factory on which nothing was done. -/
def World.initial (outside : ω) (sink : σ) : World ω σ where
  factory := .empty
  sink := sink
  factoryClockReads := 0
  coo := .empty
  outside := outside
  clockReads := 0
  idReads := 0
  refusals := 0

/-- The state reached by a list of labels. -/
def reach (outside : ω) (sink : σ) (calls : List (Call ω σ)) : World ω σ :=
  run (perform governance) (World.initial outside sink) calls

/-- The steps taken along a list of labels. -/
def trace (outside : ω) (sink : σ) (calls : List (Call ω σ)) : List (Step ω σ) :=
  history (perform governance) (World.initial outside sink) calls

/-! ## A sample plan -/

namespace Sample

/-- The planner of workspace `w`. -/
def planner : WorkspaceContext := ⟨"w", "planner"⟩

/-- A broker that always selects runtime `r`, a verifier that accepts everything, and the given event
sinks of the COO and of the factory. -/
def company (eventSink : Option (OperationalEventSink σ × OperationalEventCapability))
    (batchSink : Option (OperationalEventBatchSink σ × OperationalEventCapability)) :
    Governance Unit σ where
  options := ⟨["planner"], 100, 100, 8, 8, 1000, 3⟩
  governed := by decide
  clock := fun _ => 0
  idFactory := fun n => String.ofList (List.replicate (n + 1) 'e')
  route := fun _ request => pure ⟨request.id, request.workspaceId, "", "r", "x", 10000⟩
  verify := fun _ _ => pure true
  factory := {
    authorityPrincipals := []
    aiCooPrincipals := ["planner"]
    limits := ⟨8, 8, 8, 8, 8, 1000, 3, 100, 100⟩
    governed := by decide
    clock := fun _ => 0
    templateDigest := fun _ => ""
    eventSink := batchSink }
  eventSink := eventSink
  sha256 := fun _ => ""

/-- The objective of the plan. -/
def objective (id : EntityId) : CooObjective where
  id := id
  workspaceId := "w"
  title := "review"
  desiredOutcome := "reviewed"
  maximumAuthority := (taskPolicies .repositoryReview).authorityLevel
  costLimit := ⟨"E", 10, 10⟩
  acceptanceCriteria := ["accepted"]
  verificationCriteria := ["verified"]
  stopConditions := ["denied"]

/-- The one task of the plan, a repository review with the given stop conditions. -/
def task (objectiveId : EntityId) (stopConditions : List String) : CooTask where
  id := "t"
  workspaceId := "w"
  objectiveId := objectiveId
  projectId := "p"
  title := "check"
  kind := .repositoryReview
  dependencyIds := []
  requiredAuthority := (taskPolicies .repositoryReview).authorityLevel
  costLimit := ⟨"E", 10, 10⟩
  estimatedDurationMs := 10
  acceptanceCriteria := ["accepted"]
  verificationCriteria := ["verified"]
  stopConditions := stopConditions
  retryPolicy := ⟨2, ["timeout"], ["denied"]⟩
  agentPolicy := ⟨"m", 1, none, ["repo"], ["env"], ["data"], ["repository.review"],
    [⟨"git.readonly", ["read"]⟩], 10, 0, .ARCHIVE⟩
  routingPolicy := ⟨["repository.review"], [⟨"git.readonly", "read"⟩], .PUBLIC, 0, 0, 1, 1, none⟩
  exactTarget := none

/-- The plan. -/
def plan (objectiveId : EntityId) (stopConditions : List String) : ObjectivePlan :=
  ⟨objective objectiveId, [⟨"p", "w", objectiveId, "project"⟩], [task objectiveId stopConditions]⟩

end Sample

end VentureOS.Coo
