import VentureOS.Coo.Planning
import VentureOS.Foundations.Sorting
import VentureOS.Durable.Contracts

/-! # Validation of durable plans and evidence

The checks of `task-run-policy.ts` and of `validateAcpApprovalReference`, in the order of the source, and
the policy snapshot of a task with its digest. The checks on the shape of a value (plain objects, arrays,
strings, unsupported fields) always pass on these types. The digest is a parameter.

Both expressions that carry the flag `i` are matched against the folded text: under `i` and `u` a character
and its fold behave alike everywhere, at word boundaries too. -/

namespace VentureOS.Durable

open ControlPlane

/-! ## Patterns -/

/-- A character of the basic Latin alphabet and the digits, or one of the listed ones. -/
def alnumOr (others : String) : Regex := .cls fun c => isAlnum c || others.toList.contains c

/-- `regex.test(s)` under the flags `i` and `u`, for an expression in lower case. -/
def testIgnoreCase (r : Regex) (s : String) : Bool :=
  r.test (String.ofList (s.toList.map Regex.foldCase))

open Regex in
/-- `SENSITIVE`, in lower case. -/
def sensitive : Regex :=
  altAll [
    seqAll [literal "chain", opt (oneOf "-_. "), literal "of", opt (oneOf "-_. "), literal "thought"],
    seqAll [literal "private", opt (oneOf "-_. "), literal "reasoning"],
    literal "password", literal "credential",
    seqAll [literal "api", opt (oneOf "-_. "), literal "key"],
    literal "transcript", literal "prompt",
    seqAll [literal "-----begin ", .star (.cls fun c => ('a' ≤ c && c ≤ 'z') || c == ' '),
      literal "private key-----"],
    seqAll [.wordBoundary, literal "bearer", atLeast 1 (.cls isJsSpace), atLeast 12 (alnumOr "._~+/=-")],
    seqAll [.wordBoundary,
      altAll [literal "sk", .seq (literal "gh") (oneOf "opusr"), literal "github_pat", literal "glpat"],
      oneOf "_-", atLeast 12 (alnumOr "_-")],
    seqAll [.wordBoundary, literal "eyj", atLeast 1 (alnumOr "_-"), literal ".eyj",
      atLeast 1 (alnumOr "_-"), literal ".", atLeast 1 (alnumOr "_-")]]

/-- `SENSITIVE.test(value)`. -/
def isSensitive (value : String) : Bool := testIgnoreCase sensitive value

/-- `SAFE_CODE`. -/
def safeCodePattern (s : String) : Bool :=
  match s.toList with
  | [] => false
  | c :: rest => isCapitalOrDigit c && decide (rest.length ≤ 127)
      && rest.all fun d => isCapitalOrDigit d || ['.', '_', '-'].contains d
where
  /-- `[A-Z0-9]`. -/
  isCapitalOrDigit (c : Char) : Bool := ('A' ≤ c && c ≤ 'Z') || ('0' ≤ c && c ≤ '9')

/-- `SHA256`: 64 lower-case hexadecimal digits. -/
def sha256Pattern (s : String) : Bool :=
  decide (s.toList.length = 64)
    && s.toList.all fun c => ('a' ≤ c && c ≤ 'f') || ('0' ≤ c && c ≤ '9')

/-- `/^[A-Z]{3}$/u`. -/
def currencyPattern (s : String) : Bool :=
  decide (s.toList.length = 3) && s.toList.all fun c => 'A' ≤ c && c ≤ 'Z'

/-! ## Fields -/

/-- `safeReference`. -/
def safeReference (value field : String) : Except Failure Unit :=
  throwIf (safeReferencePattern value = false ∨ isSensitive value = true)
    (durableTaskRunPolicyError s!"{field} must be a safe non-sensitive reference")

/-- `boundedText`. -/
def boundedText (value field : String) : Except Failure Unit :=
  throwIf (isBlank value = true ∨ 2048 < utf16Length value ∨ value.toList.any isControl = true
      ∨ isSensitive value = true)
    (durableTaskRunPolicyError s!"{field} must be bounded, printable, and non-sensitive")

/-- The loop of `denseStrings`, after the texts of `seen`. -/
def denseItems (field : String) : List String → List String → Except Failure Unit
  | _, [] => .ok ()
  | seen, item :: rest => do
    boundedText item field
    throwIf (item ∈ seen) (durableTaskRunPolicyError s!"{field} must not contain duplicates")
    denseItems field (item :: seen) rest

/-- `denseStrings`. -/
def denseStrings (value : List String) (field : String) : Except Failure Unit := do
  throwIf (value = [] ∨ 64 < value.length)
    (durableTaskRunPolicyError s!"{field} must contain between 1 and 64 entries")
  denseItems field [] value

/-- `safeInteger`. -/
def safeInteger (value : Int) (field : String) (minimum : Int) : Except Failure Unit :=
  throwIf (isSafeInteger value = false ∨ value < minimum)
    (durableTaskRunPolicyError s!"{field} must be a safe integer of at least {minimum}")

/-- `authority`. -/
def authority (value : Int) (field : String) : Except Failure Unit := do
  safeInteger value field 0
  throwIf (4 < value) (durableTaskRunPolicyError s!"{field} must be an authority level")

/-- `costLimit`. -/
def costLimit (value : CostLimit) (field : String) : Except Failure Unit := do
  throwIf (currencyPattern value.currency = false)
    (durableTaskRunPolicyError s!"{field}.currency must be an ISO-style currency code")
  safeInteger value.maximumMinorUnits s!"{field}.maximumMinorUnits" 0
  safeInteger value.maximumComputeUnits s!"{field}.maximumComputeUnits" 0

/-- The first check of `jsonSafe`. -/
def checkDepth (field : String) (depth : Nat) : Except Failure Unit :=
  throwIf (8 < depth) (durableTaskRunPolicyError s!"{field} exceeds maximum nesting depth")

mutual

/-- `jsonSafe`. -/
def jsonSafe (field : String) (depth : Nat) : Json → Except Failure Unit
  | .null => checkDepth field depth
  | .bool _ => checkDepth field depth
  | .int n => do
    checkDepth field depth
    throwIf (isSafeInteger n = false)
      (durableTaskRunPolicyError s!"{field} contains an unsafe number")
  | .num _ => do
    checkDepth field depth
    .error (durableTaskRunPolicyError s!"{field} contains an unsafe number")
  | .str s => do
    checkDepth field depth
    boundedText s field
  | .arr items => do
    checkDepth field depth
    throwIf (64 < items.length)
      (durableTaskRunPolicyError s!"{field} contains too many entries")
    jsonSafeItems field (depth + 1) items
  | .obj fields => do
    checkDepth field depth
    throwIf (64 < fields.length)
      (durableTaskRunPolicyError s!"{field} contains too many fields")
    jsonSafeFields field (depth + 1) fields
  | .notJson => do
    checkDepth field depth
    .error (durableTaskRunPolicyError s!"{field} must be a plain object")

/-- The loop over the items of an array. -/
def jsonSafeItems (field : String) (depth : Nat) : List Json → Except Failure Unit
  | [] => .ok ()
  | item :: rest => do
    jsonSafe field depth item
    jsonSafeItems field depth rest

/-- The loop over the entries of an object. -/
def jsonSafeFields (field : String) (depth : Nat) : List (String × Json) → Except Failure Unit
  | [] => .ok ()
  | (name, nested) :: rest => do
    safeReference name s!"{field} field"
    jsonSafe field depth nested
    jsonSafeFields field depth rest

end

/-! ## Tasks -/

/-- `TASK_KIND_MINIMUM_AUTHORITY`. -/
def taskKindMinimumAuthority : List (String × Int) :=
  [("business.research", 1), ("repository.review", 1), ("quality.verify", 3),
    ("documentation.prepare", 2), ("runtime.health.check", 0)]

/-- The names every object inherits; `in` finds them too. -/
def inheritedNames : List String :=
  ["constructor", "__defineGetter__", "__defineSetter__", "hasOwnProperty", "__lookupGetter__",
    "__lookupSetter__", "isPrototypeOf", "propertyIsEnumerable", "toString", "valueOf", "__proto__",
    "toLocaleString"]

/-- The minimum authority of a kind. -/
def minimumAuthority? (kind : String) : Option Int :=
  (taskKindMinimumAuthority.find? fun entry => entry.1 == kind).map Prod.snd

/-- `validateApproval`. -/
def validateApproval (value : Option DurableApprovalPreparation) (requiredAuthority : Int) :
    Except Failure Unit :=
  if requiredAuthority ≠ 4 then
    throwIf (value.isSome = true)
      (durableTaskRunPolicyError "Only Level-4 tasks may prepare an approval binding")
  else
    match value with
    | none => .error (durableTaskRunPolicyError "task.approval must be a plain object")
    | some approval => do
      throwIf (safeCodePattern approval.actionCode = false)
        (durableTaskRunPolicyError "task.approval.actionCode must be a safe action code")
      safeReference approval.exactTarget "task.approval.exactTarget"
      safeReference approval.artifactVersionId "task.approval.artifactVersionId"
      throwIf (sha256Pattern approval.evidenceHash = false)
        (durableTaskRunPolicyError "task.approval.evidenceHash must be a lowercase SHA-256 digest")

/-- The loop over the dependencies of a task, after those of `seen`. -/
def checkDependencyIds : List EntityId → List EntityId → Except Failure Unit
  | _, [] => .ok ()
  | seen, dependencyId :: rest => do
    safeReference dependencyId "task.dependencyIds"
    throwIf (dependencyId ∈ seen) (durableTaskRunPolicyError "Task dependencies must be unique")
    checkDependencyIds (dependencyId :: seen) rest

/-- The checks of `validateTask` on the retry policy. -/
def checkRetryPolicy (policy : RetryPolicy) : Except Failure Unit := do
  safeInteger policy.maximumAttempts "task.retryPolicy.maximumAttempts" 1
  throwIf (32 < policy.maximumAttempts) (durableTaskRunPolicyError "Retry budget exceeds 32 attempts")
  denseStrings policy.retryableFailureCodes "task.retryPolicy.retryableFailureCodes"
  denseStrings policy.stopAfterFailureCodes "task.retryPolicy.stopAfterFailureCodes"
  -- No text of the first list is empty, so an overlap that is found is truthy.
  throwIf (∃ code ∈ policy.retryableFailureCodes, code ∈ policy.stopAfterFailureCodes)
    (durableTaskRunPolicyError "Retry and stop failure codes must not overlap")

/-- `validateTask`. -/
def validateTask (task : DurableTaskPlanInput) (projectIds : List EntityId) : Except Failure Unit := do
  safeReference task.id "task.id"
  safeReference task.projectId "task.projectId"
  throwIf (task.projectId ∉ projectIds)
    (durableTaskRunPolicyError "Task references an unknown project")
  boundedText task.title "task.title"
  throwIf ((minimumAuthority? task.kind).isNone = true ∧ task.kind ∉ inheritedNames)
    (durableTaskRunPolicyError "Unsupported task kind")
  throwIf (64 < task.dependencyIds.length)
    (durableTaskRunPolicyError "task.dependencyIds must be a bounded array")
  checkDependencyIds [] task.dependencyIds
  authority task.requiredAuthority "task.requiredAuthority"
  -- What is inherited is no number, and no number is less than it.
  throwIf ((minimumAuthority? task.kind).any fun minimum => task.requiredAuthority < minimum)
    (durableTaskRunPolicyError "Task authority is below the task-kind minimum")
  costLimit task.costLimit "task.costLimit"
  safeInteger task.estimatedDurationMs "task.estimatedDurationMs" 1
  denseStrings task.acceptanceCriteria "task.acceptanceCriteria"
  denseStrings task.verificationCriteria "task.verificationCriteria"
  denseStrings task.stopConditions "task.stopConditions"
  checkRetryPolicy task.retryPolicy
  jsonSafe "task.agentPolicy" 0 (.obj task.agentPolicy)
  jsonSafe "task.routingPolicy" 0 (.obj task.routingPolicy)
  validateApproval task.approval task.requiredAuthority

/-! ## Dependencies -/

section Acyclic

variable (tasks : List DurableTaskPlanInput)

/-- `byId.get(id)`: of several tasks with one identifier the last. -/
def taskById (id : EntityId) : Option DurableTaskPlanInput :=
  tasks.reverse.find? fun task => task.id == id

/-- The loop of `visit` over the dependencies of `id`: the identifiers visited when it returns. -/
def visitAll (visit : List EntityId → EntityId → Except Failure (List EntityId)) (id : EntityId) :
    List EntityId → List EntityId → Except Failure (List EntityId)
  | visited, [] => .ok visited
  | visited, dependencyId :: rest => do
    throwIf (dependencyId = id) (durableTaskRunPolicyError "Task cannot depend on itself")
    let visited ← visit visited dependencyId
    visitAll visit id visited rest

/-- `visit`: the identifiers visited when it returns. The identifiers of `visiting` are different tasks, so
`fuel` may be one more than there are tasks. -/
def visit : Nat → List EntityId → List EntityId → EntityId → Except Failure (List EntityId)
  | 0, _, _, _ => .error (durableTaskRunPolicyError "Task dependency graph contains a cycle")
  | fuel + 1, visiting, visited, id =>
    if id ∈ visiting then
      .error (durableTaskRunPolicyError "Task dependency graph contains a cycle")
    else if id ∈ visited then .ok visited
    else
      match taskById tasks id with
      | none => .error (durableTaskRunPolicyError "Task references an unknown dependency")
      | some task => do
        let visited ← visitAll (visit fuel (id :: visiting)) id visited task.dependencyIds
        return id :: visited

/-- The last loop of `assertAcyclic`. -/
def visitTasks (visited : List EntityId) : List DurableTaskPlanInput → Except Failure Unit
  | [] => .ok ()
  | task :: rest => do
    let visited ← visit tasks (tasks.length + 1) [] visited task.id
    visitTasks visited rest

/-- `assertAcyclic`. -/
def assertAcyclic : Except Failure Unit := visitTasks tasks [] tasks

end Acyclic

/-! ## Plans -/

/-- The loop over the projects of a plan, after those of `seen`. -/
def checkProjects : List EntityId → List DurableProjectInput → Except Failure Unit
  | _, [] => .ok ()
  | seen, project :: rest => do
    safeReference project.id "project.id"
    boundedText project.title "project.title"
    throwIf (project.id ∈ seen) (durableTaskRunPolicyError "Project IDs must be unique")
    checkProjects (project.id :: seen) rest

/-- The loop over the tasks of a plan, after those of `seen`, which cost `minorUnits` and `computeUnits`. -/
def checkTasks (input : DurableObjectivePlanInput) (projectIds : List EntityId) :
    List EntityId → Int → Int → List DurableTaskPlanInput → Except Failure Unit
  | _, _, _, [] => .ok ()
  | seen, minorUnits, computeUnits, task :: rest => do
    let limit := input.objective.costLimit
    validateTask task projectIds
    throwIf (task.id ∈ seen) (durableTaskRunPolicyError "Task IDs must be unique")
    throwIf (input.objective.maximumAuthority < task.requiredAuthority)
      (durableTaskRunPolicyError "Task authority exceeds the objective maximum")
    throwIf (task.costLimit.currency ≠ limit.currency
        ∨ limit.maximumMinorUnits < task.costLimit.maximumMinorUnits
        ∨ limit.maximumComputeUnits < task.costLimit.maximumComputeUnits)
      (durableTaskRunPolicyError "Task budget exceeds or conflicts with the objective budget")
    let minorUnits := minorUnits + task.costLimit.maximumMinorUnits
    let computeUnits := computeUnits + task.costLimit.maximumComputeUnits
    throwIf (isSafeInteger minorUnits = false ∨ isSafeInteger computeUnits = false
        ∨ limit.maximumMinorUnits < minorUnits ∨ limit.maximumComputeUnits < computeUnits)
      (durableTaskRunPolicyError "Aggregate task budgets exceed the objective budget")
    checkTasks input projectIds (task.id :: seen) minorUnits computeUnits rest

/-- `validateDurableObjectivePlan`. -/
def validateDurableObjectivePlan (input : DurableObjectivePlanInput) : Except Failure Unit := do
  safeReference input.workspaceId "plan.workspaceId"
  safeReference input.idempotencyKey "plan.idempotencyKey"
  safeReference input.policyVersion "plan.policyVersion"
  safeReference input.objective.id "objective.id"
  boundedText input.objective.title "objective.title"
  boundedText input.objective.desiredOutcome "objective.desiredOutcome"
  authority input.objective.maximumAuthority "objective.maximumAuthority"
  costLimit input.objective.costLimit "objective.costLimit"
  denseStrings input.objective.acceptanceCriteria "objective.acceptanceCriteria"
  denseStrings input.objective.verificationCriteria "objective.verificationCriteria"
  denseStrings input.objective.stopConditions "objective.stopConditions"
  throwIf (input.projects = [] ∨ 64 < input.projects.length)
    (durableTaskRunPolicyError "Plan must contain between 1 and 64 projects")
  checkProjects [] input.projects
  throwIf (input.tasks.length = 0 ∨ 256 < input.tasks.length)
    (durableTaskRunPolicyError "Plan must contain between 1 and 256 tasks")
  checkTasks input (input.projects.map DurableProjectInput.id) [] 0 0 input.tasks
  assertAcyclic input.tasks

/-! ## Policy snapshots -/

/-- The number a property name stands for when it is an array index. -/
def arrayIndex? (name : String) : Option Nat :=
  let index := name.toList.foldl (fun n c => 10 * n + (c.toNat - '0'.toNat)) 0
  if toString index = name ∧ index < 2 ^ 32 - 1 then some index else none

/-- The order in which an object lists the properties it was given: array indices first. -/
def propertyOrder (fields : JsonRecord) : JsonRecord :=
  sortBy (fun a b => ((arrayIndex? a.1).getD 0 : Int) - ((arrayIndex? b.1).getD 0 : Int))
      (fields.filter fun field => (arrayIndex? field.1).isSome)
    ++ fields.filter fun field => (arrayIndex? field.1).isNone

mutual

/-- `canonical`. -/
def canonical : Json → Json
  | .arr items => .arr (canonicalItems items)
  | .obj fields => .obj (propertyOrder
      ((canonicalFields fields).insertionSort fun a b => Coo.textLe a.1 b.1))
  | value => value

/-- `value.map(canonical)`. -/
def canonicalItems : List Json → List Json
  | [] => []
  | item :: rest => canonical item :: canonicalItems rest

/-- The entries of an object with canonical values. -/
def canonicalFields : List (String × Json) → List (String × Json)
  | [] => []
  | (name, nested) :: rest => (name, canonical nested) :: canonicalFields rest

end

/-- `canonical` of a record. -/
def canonicalRecord (record : JsonRecord) : JsonRecord :=
  match canonical (.obj record) with
  | .obj fields => fields
  | _ => []

/-- `DurableTaskPolicySnapshot`. -/
structure DurableTaskPolicySnapshot where
  policyVersion : String
  objectiveId : EntityId
  /-- The fields of the task, with its dependencies sorted and its policies canonical. -/
  task : DurableTaskPlanInput

/-- `buildDurableTaskPolicySnapshot`, for a task of a valid plan. -/
def buildDurableTaskPolicySnapshot (input : DurableObjectivePlanInput) (task : DurableTaskPlanInput) :
    DurableTaskPolicySnapshot where
  policyVersion := input.policyVersion
  objectiveId := input.objective.id
  task := { task with
    dependencyIds := Coo.sortTexts task.dependencyIds
    agentPolicy := canonicalRecord task.agentPolicy
    routingPolicy := canonicalRecord task.routingPolicy }

/-- An approval preparation as JSON. -/
def DurableApprovalPreparation.toJson (approval : DurableApprovalPreparation) : Json :=
  .obj [("actionCode", .str approval.actionCode), ("exactTarget", .str approval.exactTarget),
    ("artifactVersionId", .str approval.artifactVersionId),
    ("evidenceHash", .str approval.evidenceHash)]

/-- A retry policy as JSON. -/
def RetryPolicy.toJson (policy : RetryPolicy) : Json :=
  .obj [("maximumAttempts", .int policy.maximumAttempts),
    ("retryableFailureCodes", stringsJson policy.retryableFailureCodes),
    ("stopAfterFailureCodes", stringsJson policy.stopAfterFailureCodes)]

/-- A snapshot as JSON. -/
def DurableTaskPolicySnapshot.toJson (snapshot : DurableTaskPolicySnapshot) : Json :=
  let task := snapshot.task
  .obj ([("schemaVersion", .int 1), ("policyVersion", .str snapshot.policyVersion),
      ("objectiveId", .str snapshot.objectiveId), ("taskId", .str task.id),
      ("projectId", .str task.projectId), ("title", .str task.title), ("kind", .str task.kind),
      ("dependencyIds", stringsJson task.dependencyIds),
      ("requiredAuthority", .int task.requiredAuthority), ("costLimit", task.costLimit.toJson),
      ("estimatedDurationMs", .int task.estimatedDurationMs),
      ("acceptanceCriteria", stringsJson task.acceptanceCriteria),
      ("verificationCriteria", stringsJson task.verificationCriteria),
      ("stopConditions", stringsJson task.stopConditions), ("retryPolicy", task.retryPolicy.toJson),
      ("agentPolicy", .obj task.agentPolicy), ("routingPolicy", .obj task.routingPolicy)]
    ++ (task.approval.map fun approval => ("approval", approval.toJson)).toList)

/-- The objective of a plan as JSON. -/
def DurableObjectiveInput.toJson (objective : DurableObjectiveInput) : Json :=
  .obj [("id", .str objective.id), ("title", .str objective.title),
    ("desiredOutcome", .str objective.desiredOutcome),
    ("maximumAuthority", .int objective.maximumAuthority),
    ("costLimit", objective.costLimit.toJson),
    ("acceptanceCriteria", stringsJson objective.acceptanceCriteria),
    ("verificationCriteria", stringsJson objective.verificationCriteria),
    ("stopConditions", stringsJson objective.stopConditions)]

/-- A project of a plan as JSON. -/
def DurableProjectInput.toJson (project : DurableProjectInput) : Json :=
  .obj [("id", .str project.id), ("title", .str project.title)]

section Digests

variable (sha256 : String → String)

/-- `createHash('sha256').update(JSON.stringify(canonical(value))).digest('hex')`. -/
def hashJson (value : Json) : String := sha256 (String.ofList (canonical value).text)

/-- `hashDurablePolicy`. -/
def hashDurablePolicy (snapshot : DurableTaskPolicySnapshot) : String :=
  hashJson sha256 snapshot.toJson

/-- `hashDurablePlanPolicy`, for a valid plan. -/
def hashDurablePlanPolicy (input : DurableObjectivePlanInput) (taskHashes : List String) :
    Except Failure String := do
  throwIf (taskHashes.length ≠ input.tasks.length ∨ ∃ hash ∈ taskHashes, sha256Pattern hash = false)
    (durableTaskRunPolicyError "Plan task hashes must exactly cover the validated tasks")
  return hashJson sha256 (.obj [("schemaVersion", .int 1), ("workspaceId", .str input.workspaceId),
    ("policyVersion", .str input.policyVersion), ("objective", input.objective.toJson),
    ("projects", .arr (input.projects.map DurableProjectInput.toJson)),
    ("taskHashes", stringsJson taskHashes)])

end Digests

/-! ## Evidence -/

/-- `validateTrustedAssignmentEvidence`. -/
def validateTrustedAssignmentEvidence (value : TrustedAssignmentEvidence) : Except Failure Unit := do
  forM [("evidenceId", value.evidenceId), ("taskId", value.taskId), ("runId", value.runId),
      ("agentId", value.agentId), ("runtimeId", value.runtimeId),
      ("connectionId", value.connectionId)] fun (field, reference) =>
    safeReference reference s!"assignment evidence.{field}"
  throwIf (sha256Pattern value.evidenceHash = false)
    (durableTaskRunPolicyError "assignment evidence hash must be a lowercase SHA-256 digest")

/-- `validateTrustedArtifactEvidence`. -/
def validateTrustedArtifactEvidence (value : TrustedArtifactEvidence) : Except Failure Unit := do
  forM [("evidenceId", value.evidenceId), ("taskId", value.taskId), ("runId", value.runId),
      ("artifactId", value.artifactId), ("kind", value.kind),
      ("uriReference", value.uriReference)] fun (field, reference) =>
    safeReference reference s!"artifact evidence.{field}"
  boundedText value.criterion "artifact evidence.criterion"
  throwIf (sha256Pattern value.evidenceHash = false ∨ sha256Pattern value.contentHash = false)
    (durableTaskRunPolicyError "artifact evidence hashes must be lowercase SHA-256 digests")

/-! ## Approval references -/

/-- The `SAFE_REFERENCE` of the approval bridge, which also admits `@`. -/
def approvalReferencePattern (s : String) : Bool :=
  match s.toList with
  | [] => false
  | c :: rest => isAlnum c && decide (rest.length ≤ 255)
      && rest.all fun d => isAlnum d || [':', '.', '_', '/', '@', '-'].contains d

open Regex in
/-- `SENSITIVE_TEXT`, in lower case. -/
def sensitiveText : Regex :=
  altAll [
    seqAll [literal "chain", opt (oneOf "-_. "), literal "of", opt (oneOf "-_. "), literal "thought"],
    seqAll [literal "private", opt (oneOf "-_. "), literal "reasoning"],
    literal "password", literal "credential",
    seqAll [literal "api", opt (oneOf "-_. "), literal "key"],
    literal "transcript", literal "prompt", literal "secret", literal "token"]

open Regex in
/-- `SECRET_VALUE`, but for the last alternative. -/
def secretValue : Regex :=
  altAll [
    seqAll [.wordBoundary,
      altAll [literal "sk", .seq (literal "gh") (oneOf "opusr"), literal "github_pat", literal "npm",
        literal "glpat", .seq (literal "xox") (oneOf "baprs"), literal "hf"],
      oneOf "-_", atLeast 12 (alnumOr "_-")],
    seqAll [.wordBoundary, literal "AKIA",
      times 16 (.cls fun c => ('0' ≤ c && c ≤ '9') || ('A' ≤ c && c ≤ 'Z')), .wordBoundary],
    seqAll [.wordBoundary, literal "AIza", atLeast 20 (alnumOr "_-")],
    seqAll [.wordBoundary, literal "eyJ", atLeast 5 (alnumOr "_-"), literal ".eyJ",
      atLeast 5 (alnumOr "_-"), literal ".", atLeast 8 (alnumOr "_-"), .wordBoundary]]

open Regex in
/-- The last alternative of `SECRET_VALUE`: the whole text is a pair of credentials at a host. -/
def credentialPair : Regex :=
  seqAll [atLeast 1 (alnumOr "._-"), literal ":", atLeast 1 (alnumOr "._-"), literal "@", atLeast 1 (alnumOr ".-")]

/-- Some match covers the whole text. -/
def matchesWhole (r : Regex) (s : String) : Bool :=
  (r.ends (none, s.toList)).any fun place => place.2.isEmpty

/-- `validateAcpApprovalReference`. -/
def validateAcpApprovalReference (value field : String) : Except Failure Unit :=
  throwIf (approvalReferencePattern value = false ∨ testIgnoreCase sensitiveText value = true
      ∨ secretValue.test value = true ∨ matchesWhole credentialPair value = true)
    (acpApprovalPolicyError s!"{field} must be a safe non-sensitive reference")

end VentureOS.Durable
