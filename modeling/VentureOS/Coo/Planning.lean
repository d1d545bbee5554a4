import VentureOS.Coo.Contracts
import Mathlib.Data.List.Lex
import Mathlib.Data.List.Sort

/-! # Plans: validation, order and critical path

What `GovernedAiCoo` checks before it accepts a plan (`validatePlan`), in the order of the source,
and the two computations on an accepted task graph: the sweep that takes tasks in the order of their
dependencies (`topologicalOrder`, the loop of `#assertAcyclic` and of `criticalPath`) and the longest
chain of task durations (`longestPaths`).

The loops of the sweep run for one round more than there are tasks: either they have come to rest by
then, or they have visited more identifiers than there are tasks, which the check after the loop
refuses either way. -/

namespace VentureOS.Coo

open ControlPlane

/-- `new AiCooPolicyError(message)`. -/
def aiCooPolicyError (message : String) : Failure := ⟨.aiCooPolicy, message⟩

/-! ## Fields -/

/-- `boundedText`. -/
def boundedText (value field : String) : Except Failure Unit :=
  throwIf (¬ PrintableText value)
    (aiCooPolicyError s!"{field} must be a bounded printable string")

/-- `denseStrings`: at most 64 distinct texts. -/
def denseStrings (values : List String) (field : String) : Except Failure Unit := do
  throwIf (64 < values.length) (aiCooPolicyError s!"{field} must be a dense bounded array")
  forM values fun value => boundedText value field
  throwIf (¬ values.Nodup) (aiCooPolicyError s!"{field} must not contain duplicates")

/-- `boundedDenseStrings`: at least one and at most 64 distinct texts. -/
def boundedDenseStrings (values : List String) (field : String) : Except Failure Unit := do
  throwIf (values = [] ∨ 64 < values.length)
    (aiCooPolicyError s!"{field} must be a non-empty dense bounded array")
  forM values fun value => boundedText value field
  throwIf (¬ values.Nodup) (aiCooPolicyError s!"{field} must not contain duplicates")

/-- `integer`. -/
def integer (value : Int) (field : String) (maximum : Int) : Except Failure Unit :=
  throwIf (¬ WithinBounds value maximum) (aiCooPolicyError s!"{field} is outside policy bounds")

/-- `validateCost`. -/
def validateCost (limit : CostLimit) (field : String) : Except Failure Unit := do
  boundedText limit.currency s!"{field}.currency"
  integer limit.maximumMinorUnits s!"{field}.maximumMinorUnits" maxSafeInteger
  integer limit.maximumComputeUnits s!"{field}.maximumComputeUnits" maxSafeInteger

variable {field : String} {u : Unit}

@[simp] theorem boundedText_eq_ok {value : String} :
    boundedText value field = .ok u ↔ PrintableText value := by
  simp [boundedText]

@[simp] theorem integer_eq_ok {value maximum : Int} :
    integer value field maximum = .ok u ↔ WithinBounds value maximum := by
  simp [integer]

@[simp] theorem denseStrings_eq_ok {values : List String} : denseStrings values field = .ok u ↔
      values.length ≤ 64 ∧ (∀ value ∈ values, PrintableText value) ∧ values.Nodup := by
  simp [denseStrings]

@[simp] theorem boundedDenseStrings_eq_ok {values : List String} : boundedDenseStrings values field = .ok u ↔
      (values ≠ [] ∧ values.length ≤ 64) ∧ (∀ value ∈ values, PrintableText value)
        ∧ values.Nodup := by
  simp [boundedDenseStrings]

@[simp] theorem validateCost_eq_ok {limit : CostLimit} :
    validateCost limit field = .ok u ↔ PrintableText limit.currency
      ∧ WithinBounds limit.maximumMinorUnits maxSafeInteger
      ∧ WithinBounds limit.maximumComputeUnits maxSafeInteger := by
  simp [validateCost]

/-! ## Company policy -/

/-- The numeric part of `AiCooOptions` and the planners. -/
structure AiCooOptions where
  plannerPrincipals : List EntityId
  maximumObjectiveCostMinorUnits : Int
  maximumObjectiveComputeUnits : Int
  maximumTasksPerObjective : Int
  maximumProjectsPerObjective : Int
  maximumTaskDurationMs : Int
  maximumRetriesPerTask : Int
  deriving DecidableEq, Repr

/-- The checks the constructor makes on its options. -/
def checkOptions (options : AiCooOptions) : Except Failure Unit := do
  integer options.maximumObjectiveCostMinorUnits "maximumObjectiveCostMinorUnits" maxSafeInteger
  integer options.maximumObjectiveComputeUnits "maximumObjectiveComputeUnits" maxSafeInteger
  integer options.maximumTasksPerObjective "maximumTasksPerObjective" 1000
  integer options.maximumProjectsPerObjective "maximumProjectsPerObjective" 100
  integer options.maximumTaskDurationMs "maximumTaskDurationMs" (365 * 24 * 60 * 60 * 1000)
  integer options.maximumRetriesPerTask "maximumRetriesPerTask" 100

/-- What a task of a kind must at least ask for. -/
structure TaskKindMinimum where
  capabilityId : String
  toolId : String
  scope : String
  authority : Nat
  deriving DecidableEq, Repr

/-- `TASK_KIND_MINIMUMS`. -/
def taskKindMinimums : TaskKind → TaskKindMinimum
  | .businessResearch => ⟨"business.research", "research.readonly", "read", 1⟩
  | .repositoryReview => ⟨"repository.review", "git.readonly", "read", 1⟩
  | .qualityVerify => ⟨"quality.verify", "quality.runner", "verify", 3⟩
  | .documentationPrepare => ⟨"documentation.prepare", "documents.workspace", "write", 2⟩
  | .runtimeHealthCheck => ⟨"runtime.health", "runtime.health", "read", 1⟩

/-! ## Order -/

/-- The UTF-16 code units of a text. -/
def utf16Units (s : String) : List Nat :=
  s.toList.flatMap fun c =>
    let n := c.toNat
    if n < 0x10000 then [n]
    else [0xD800 + (n - 0x10000) / 0x400, 0xDC00 + (n - 0x10000) % 0x400]

/-- `compareText(left, right) <= 0`: the order of the code units, as in `sort()` without a
comparison. -/
def textLe (left right : String) : Bool := decide (utf16Units left ≤ utf16Units right)

/-- `sort` of texts. -/
def sortTexts (texts : List String) : List String := texts.insertionSort (textLe · ·)

/-- `dependents.get(id) ?? []`: the tasks that name `id` as a dependency. -/
def dependentsOf (tasks : List CooTask) (id : EntityId) : List EntityId :=
  tasks.flatMap fun task => (task.dependencyIds.filter (fun d => d == id)).map fun _ => task.id

/-- The variables of the sweep over a task graph. -/
structure Sweep where
  /-- The identifiers without open dependencies that wait to be visited. -/
  ready : List EntityId
  /-- How many dependencies of each task are open. -/
  indegree : OrderedMap EntityId Int
  /-- The identifiers visited. -/
  ordered : List EntityId

/-- The variables before the loop. -/
def Sweep.start (tasks : List CooTask) : Sweep :=
  let indegree := tasks.foldl (fun counts task => counts.set task.id task.dependencyIds.length)
    OrderedMap.empty
  { ready := sortTexts ((indegree.entries.filter (fun e => e.2 == 0)).map Prod.fst)
    indegree := indegree
    ordered := [] }

/-- Count one dependency of a task as met. -/
def Sweep.release (sweep : Sweep) (dependent : EntityId) : Sweep :=
  let next := (sweep.indegree.get? dependent).getD 0 - 1
  { sweep with
    indegree := sweep.indegree.set dependent next
    ready := if next = 0 then sortTexts (sweep.ready ++ [dependent]) else sweep.ready }

/-- One round of the loop: visit the first waiting task. -/
def Sweep.visit (tasks : List CooTask) (sweep : Sweep) : Sweep :=
  match sweep.ready with
  | [] => sweep
  | id :: rest =>
    (sortTexts (dependentsOf tasks id)).foldl Sweep.release
      { sweep with ready := rest, ordered := sweep.ordered ++ [id] }

/-- The identifiers in the order in which the sweep visits them. -/
def topologicalOrder (tasks : List CooTask) : List EntityId :=
  ((Sweep.visit tasks)^[tasks.length + 1] (Sweep.start tasks)).ordered

/-- `#assertAcyclic`. -/
def assertAcyclic (tasks : List CooTask) : Except Failure Unit :=
  throwIf ((topologicalOrder tasks).length ≠ tasks.length)
    (aiCooPolicyError "Task dependency graph contains a cycle")

/-! ## Validation -/

section Validation

variable (options : AiCooOptions)

/-- `#validateAgentPolicy`. -/
def validateAgentPolicy (policy : CooAgentPolicy) (task : CooTask) : Except Failure Unit := do
  boundedText policy.templateId "task.agentPolicy.templateId"
  forM policy.parentAgentId.toList fun parentAgentId =>
    boundedText parentAgentId "task.agentPolicy.parentAgentId"
  integer policy.templateVersion "task.agentPolicy.templateVersion" maxSafeInteger
  throwIf (policy.templateVersion < 1)
    (aiCooPolicyError "Agent template version must be positive")
  boundedDenseStrings policy.repositoryScopes "task.agentPolicy.repositoryScopes"
  boundedDenseStrings policy.environmentScopes "task.agentPolicy.environmentScopes"
  boundedDenseStrings policy.dataScopes "task.agentPolicy.dataScopes"
  denseStrings policy.capabilityIds "task.agentPolicy.capabilityIds"
  throwIf (64 < policy.toolGrants.length)
    (aiCooPolicyError "task.agentPolicy.toolGrants must be a dense bounded array")
  forM policy.toolGrants fun grant => do
    boundedText grant.toolId "task.agentPolicy.toolId"
    boundedDenseStrings grant.scopes "task.agentPolicy.toolScopes"
  integer policy.maxRuntimeMs "task.agentPolicy.maxRuntimeMs" options.maximumTaskDurationMs
  throwIf (policy.maxRuntimeMs = 0 ∨ task.estimatedDurationMs < policy.maxRuntimeMs)
    (aiCooPolicyError "Agent runtime exceeds task duration policy")
  integer policy.childLimit "task.agentPolicy.childLimit" 100

/-- `Object.values(policy.weights)`; the order does not matter to the checks on them. -/
def RuntimeRoutingWeights.values (weights : RuntimeRoutingWeights) : List Int :=
  [weights.quality, weights.reliability, weights.security, weights.latency, weights.cost, weights.workload]

/-- `#validateRoutingPolicy`. -/
def validateRoutingPolicy (policy : CooRoutingPolicy) : Except Failure Unit := do
  integer policy.minimumSecurityTier.val "task.routingPolicy.minimumSecurityTier" 3
  integer policy.minimumReliabilityScoreBps "task.routingPolicy.minimumReliabilityScoreBps" 10000
  integer policy.maximumLatencyMs "task.routingPolicy.maximumLatencyMs" (24 * 60 * 60 * 1000)
  throwIf (policy.maximumLatencyMs = 0) (aiCooPolicyError "Routing latency must be positive")
  integer policy.heartbeatFreshnessMs "task.routingPolicy.heartbeatFreshnessMs" (60 * 60 * 1000)
  throwIf (policy.heartbeatFreshnessMs = 0)
    (aiCooPolicyError "Heartbeat freshness must be positive")
  denseStrings policy.requiredCapabilityIds "task.routingPolicy.requiredCapabilityIds"
  throwIf (64 < policy.requiredTools.length)
    (aiCooPolicyError "task.routingPolicy.requiredTools must be a dense bounded array")
  forM policy.requiredTools fun tool => do
    boundedText tool.toolId "task.routingPolicy.toolId"
    boundedText tool.scope "task.routingPolicy.toolScope"
  forM policy.weights.toList fun weights => do
    forM (RuntimeRoutingWeights.values weights) fun value =>
      integer value "task.routingPolicy.weight" 10000
    throwIf ((RuntimeRoutingWeights.values weights).foldl (· + ·) 0 ≠ 10000)
      (aiCooPolicyError "Routing weights must total 10,000 basis points")

/-- The capabilities, tools and scopes of a task's kind are among those of its policies. -/
def MeetsKind (task : CooTask) : Prop :=
  let minimum := taskKindMinimums task.kind
  minimum.capabilityId ∈ task.agentPolicy.capabilityIds
    ∧ minimum.capabilityId ∈ task.routingPolicy.requiredCapabilityIds
    ∧ ((task.agentPolicy.toolGrants.find? (fun grant => grant.toolId == minimum.toolId)).any
        (fun grant => decide (minimum.scope ∈ grant.scopes))) = true
    ∧ (⟨minimum.toolId, minimum.scope⟩ : RequiredTool) ∈ task.routingPolicy.requiredTools

instance (task : CooTask) : Decidable (MeetsKind task) :=
  inferInstanceAs (Decidable (_ ∧ _ ∧ _ ∧ _))

/-- `#assertWorkspace`. -/
def assertWorkspace (context : WorkspaceContext) (workspaceId : EntityId) : Except Failure Unit :=
  throwIf (context.workspaceId ≠ workspaceId)
    (aiCooPolicyError "Cross-workspace graph link denied")

/-- The checks of `#validatePlan` on the objective. -/
def validateObjective (context : WorkspaceContext) (objective : CooObjective) :
    Except Failure Unit := do
  assertWorkspace context objective.workspaceId
  boundedText objective.id "objective.id"
  boundedText objective.title "objective.title"
  boundedText objective.desiredOutcome "objective.desiredOutcome"
  integer objective.maximumAuthority.val "objective.maximumAuthority" 4
  validateCost objective.costLimit "objective.costLimit"
  throwIf (options.maximumObjectiveCostMinorUnits < objective.costLimit.maximumMinorUnits
      ∨ options.maximumObjectiveComputeUnits < objective.costLimit.maximumComputeUnits)
    (aiCooPolicyError "Objective exceeds company cost ceilings")
  boundedDenseStrings objective.acceptanceCriteria "objective.acceptanceCriteria"
  boundedDenseStrings objective.verificationCriteria "objective.verificationCriteria"
  boundedDenseStrings objective.stopConditions "objective.stopConditions"

/-- The checks of `#validatePlan` on the projects, after those with identifiers `projectIds`. -/
def validateProjects (context : WorkspaceContext) (objective : CooObjective) :
    List EntityId → List CooProject → Except Failure Unit
  | _, [] => .ok ()
  | projectIds, project :: rest => do
    assertWorkspace context project.workspaceId
    boundedText project.id "project.id"
    boundedText project.title "project.title"
    throwIf (project.objectiveId ≠ objective.id)
      (aiCooPolicyError "Project objective linkage is invalid")
    throwIf (project.id ∈ projectIds) (aiCooPolicyError "Duplicate project ID")
    validateProjects context objective (project.id :: projectIds) rest

/-- The checks of `#validatePlan` on one task, but for the one that its identifier is new. -/
def validateTask (objective : CooObjective) (task : CooTask) : Except Failure Unit := do
  throwIf (¬ task.dependencyIds.Nodup)
    (aiCooPolicyError "Task dependencies must be a unique dense array")
  forM task.dependencyIds fun dependencyId => boundedText dependencyId "dependencyId"
  integer task.requiredAuthority.val "task.requiredAuthority" 4
  throwIf (task.requiredAuthority.val < (taskKindMinimums task.kind).authority)
    (aiCooPolicyError "Task authority is below its canonical task-kind policy")
  throwIf (objective.maximumAuthority < task.requiredAuthority)
    (aiCooPolicyError "Task exceeds objective authority ceiling")
  throwIf (task.requiredAuthority.val = 4 ∧ ¬ Truthy task.exactTarget)
    (aiCooPolicyError "Level-4 task requires an exact approval target")
  validateCost task.costLimit "task.costLimit"
  throwIf (task.costLimit.currency ≠ objective.costLimit.currency)
    (aiCooPolicyError "Task currency must match objective currency")
  integer task.estimatedDurationMs "task.estimatedDurationMs" options.maximumTaskDurationMs
  throwIf (task.estimatedDurationMs = 0) (aiCooPolicyError "Task duration must be positive")
  boundedDenseStrings task.acceptanceCriteria "task.acceptanceCriteria"
  boundedDenseStrings task.verificationCriteria "task.verificationCriteria"
  boundedDenseStrings task.stopConditions "task.stopConditions"
  validateAgentPolicy options task.agentPolicy task
  validateRoutingPolicy task.routingPolicy
  throwIf (¬ MeetsKind task)
    (aiCooPolicyError "Task does not satisfy canonical task-kind capabilities and tools")
  integer task.retryPolicy.maximumAttempts "task.retryPolicy.maximumAttempts"
    (options.maximumRetriesPerTask + 1)
  throwIf (task.retryPolicy.maximumAttempts < 1
      ∨ options.maximumRetriesPerTask < task.retryPolicy.maximumAttempts - 1)
    (aiCooPolicyError "Retry policy exceeds company ceiling")
  boundedDenseStrings task.retryPolicy.retryableFailureCodes
    "task.retryPolicy.retryableFailureCodes"
  boundedDenseStrings task.retryPolicy.stopAfterFailureCodes
    "task.retryPolicy.stopAfterFailureCodes"
  throwIf (∃ code ∈ task.retryPolicy.retryableFailureCodes,
      code ∈ task.retryPolicy.stopAfterFailureCodes)
    (aiCooPolicyError "Failure code cannot be both retryable and terminal")

/-- The checks of `#validatePlan` on the tasks, after those with identifiers `taskIds`. -/
def validateTasks (context : WorkspaceContext) (plan : ObjectivePlan) :
    List EntityId → List CooTask → Except Failure Unit
  | _, [] => .ok ()
  | taskIds, task :: rest => do
    assertWorkspace context task.workspaceId
    boundedText task.id "task.id"
    boundedText task.title "task.title"
    boundedText task.projectId "task.projectId"
    throwIf (task.objectiveId ≠ plan.objective.id
        ∨ task.projectId ∉ plan.projects.map CooProject.id)
      (aiCooPolicyError "Task graph linkage is invalid")
    throwIf (task.id ∈ taskIds) (aiCooPolicyError "Duplicate task ID")
    validateTask options plan.objective task
    validateTasks context plan (task.id :: taskIds) rest

/-- The reservations of a list of tasks, added up without rounding. -/
def totalReserved (tasks : List CooTask) (amount : CostLimit → Int) : Int :=
  tasks.foldl (fun total task => total + amount task.costLimit) 0

/-- `#validatePlan`. -/
def validatePlan (context : WorkspaceContext) (plan : ObjectivePlan) : Except Failure Unit := do
  validateObjective options context plan.objective
  throwIf (plan.projects.length = 0
      ∨ options.maximumProjectsPerObjective < plan.projects.length)
    (aiCooPolicyError "Project count exceeds policy")
  throwIf (plan.tasks.length = 0 ∨ options.maximumTasksPerObjective < plan.tasks.length)
    (aiCooPolicyError "Task count exceeds policy")
  validateProjects context plan.objective [] plan.projects
  validateTasks options context plan [] plan.tasks
  throwIf (plan.objective.costLimit.maximumMinorUnits
        < totalReserved plan.tasks CostLimit.maximumMinorUnits
      ∨ plan.objective.costLimit.maximumComputeUnits
        < totalReserved plan.tasks CostLimit.maximumComputeUnits)
    (aiCooPolicyError "Task reservations exceed objective budget")
  forM plan.tasks fun task =>
    forM task.dependencyIds fun dependencyId => do
      throwIf (dependencyId ∉ plan.tasks.map CooTask.id)
        (aiCooPolicyError "Dependency is outside the objective")
      throwIf (dependencyId = task.id) (aiCooPolicyError "Task cannot depend on itself")
  assertAcyclic plan.tasks

end Validation

/-! ## Critical path -/

/-- A chain of tasks with its total duration. -/
structure Chain where
  duration : Int
  path : List EntityId
  deriving DecidableEq, Repr

/-- `comparePath(left, right) <= 0`. -/
def pathLe : List EntityId → List EntityId → Bool
  | [], _ => true
  | _ :: _, [] => false
  | a :: left, b :: right => if a = b then pathLe left right else textLe a b

/-- Longer chains first, then by path. -/
def Chain.before (left right : Chain) : Bool :=
  decide (right.duration < left.duration)
    || (decide (left.duration = right.duration) && pathLe left.path right.path)

/-- The first chain of a list sorted with longer chains first. -/
def longestChain (chains : List Chain) : Option Chain :=
  (chains.insertionSort (Chain.before · ·)).head?

/-- The longest chain that ends in each task, task by task in the given order. A dependency without
a chain is `undefined`, which `sort` puts last. -/
def longestPaths (tasks : List CooTask) :
    OrderedMap EntityId Chain → List EntityId → Except Failure (OrderedMap EntityId Chain)
  | best, [] => .ok best
  | best, id :: rest =>
    match tasks.find? (fun task => task.id == id) with
    | none => longestPaths tasks best rest
    | some task => do
      let longestDependency := longestChain (task.dependencyIds.filterMap best.get?)
      let duration := addDouble task.estimatedDurationMs
        ((longestDependency.map Chain.duration).getD 0)
      throwIf (isSafeInteger duration = false)
        (aiCooPolicyError "Critical path exceeds numeric bounds")
      longestPaths tasks
        (best.set id ⟨duration, ((longestDependency.map Chain.path).getD []) ++ [id]⟩) rest

end VentureOS.Coo
