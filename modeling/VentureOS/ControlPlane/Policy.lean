import VentureOS.ControlPlane.Events
import Mathlib.Data.List.Sort

/-! # Task policies, transition tables and input checks

The constants and free functions of `control-plane.ts`: what each task kind requires, which task and
run transitions are legal, and the checks of task inputs, payloads, amounts and time stamps. -/

namespace VentureOS.ControlPlane

/-! ## Task kinds -/

/-- A tool a task kind requires, by name, with the scope it is used in. -/
structure ToolRequirement where
  name : String
  scope : String
  deriving DecidableEq, Repr

/-- `TaskKindPolicy`. -/
structure TaskKindPolicy where
  inputKeys : List String
  capabilityNames : List String
  tools : List ToolRequirement
  authorityLevel : AuthorityLevel
  deriving DecidableEq, Repr

/-- `TASK_POLICIES`. -/
def taskPolicies : TaskKind → TaskKindPolicy
  | .businessResearch => ⟨["instructionReference"], ["business.research"],
      [⟨"research.readonly", "read"⟩], 1⟩
  | .repositoryReview => ⟨["repository", "ref", "pullRequestUrl"], ["repository.review"],
      [⟨"git.readonly", "read"⟩], 1⟩
  | .qualityVerify => ⟨["target", "checks"], ["quality.verify"],
      [⟨"quality.runner", "verify"⟩], 3⟩
  | .documentationPrepare => ⟨["document", "evidenceIds"], ["documentation.prepare"],
      [⟨"documents.workspace", "write"⟩], 2⟩
  | .runtimeHealthCheck => ⟨["connectionId"], ["runtime.health"],
      [⟨"runtime.health", "observe"⟩], 0⟩

/-! ## Transition tables -/

/-- `TASK_TRANSITIONS`. -/
def taskTransitions : TaskStatus → List TaskStatus
  | .READY => [.RUNNING, .BLOCKED, .CANCELLED]
  | .RUNNING => [.BLOCKED, .COMPLETED, .FAILED, .CANCELLED]
  | .BLOCKED => [.READY, .CANCELLED]
  | .COMPLETED => []
  | .FAILED => []
  | .CANCELLED => []

/-- `RUN_TRANSITIONS`. -/
def runTransitions : RunStatus → List RunStatus
  | .QUEUED => [.RUNNING, .CANCELLED]
  | .RUNNING => [.PAUSED, .COMPLETED, .FAILED, .CANCELLED]
  | .PAUSED => [.RUNNING, .CANCELLED]
  | .COMPLETED => []
  | .FAILED => []
  | .CANCELLED => []

/-! ## Free functions -/

/-- `assertWorkspace`. -/
def assertWorkspace (context : WorkspaceContext) (workspaceId : EntityId) : Except Failure Unit :=
  throwIf (context.workspaceId ≠ workspaceId)
    ⟨.crossWorkspaceAccess, "Resource is outside the authenticated workspace"⟩

mutual

/-- `assertSafeValue`. -/
def assertSafeValue : Json → Nat → Except Failure Unit
  | value, depth =>
    if 8 < depth then .error (policyError "Payload exceeds the maximum nesting depth")
    else match value with
      | .arr items => assertSafeItems items (depth + 1)
      | .obj fields => assertSafeFields fields (depth + 1)
      | .notJson => .error (policyError "Payload must contain only JSON-safe values")
      | _ => .ok ()

/-- `assertSafeValue` on every item. -/
def assertSafeItems : List Json → Nat → Except Failure Unit
  | [], _ => .ok ()
  | value :: rest, depth => do
    assertSafeValue value depth
    assertSafeItems rest depth

/-- `assertSafeValue` on every property value. -/
def assertSafeFields : List (String × Json) → Nat → Except Failure Unit
  | [], _ => .ok ()
  | (_, value) :: rest, depth => do
    assertSafeValue value depth
    assertSafeFields rest depth

end

mutual

/-- A value that passes `assertSafeValue` is JSON. -/
theorem safe_of_assertSafeValue : ∀ (value : Json) (depth : Nat),
    assertSafeValue value depth = .ok () → value.Safe
  | .null, _, _ => trivial
  | .bool _, _, _ => trivial
  | .int _, _, _ => trivial
  | .num _, _, _ => trivial
  | .str _, _, _ => trivial
  | .notJson, depth, h => by
    rw [assertSafeValue] at h
    split at h <;> cases h
  | .arr items, depth, h => by
    rw [assertSafeValue] at h
    split at h
    · cases h
    · exact safeItems_of_assertSafeItems items (depth + 1) h
  | .obj fields, depth, h => by
    rw [assertSafeValue] at h
    split at h
    · cases h
    · exact safeFields_of_assertSafeFields fields (depth + 1) h

/-- Items that pass `assertSafeValue` are JSON. -/
theorem safeItems_of_assertSafeItems : ∀ (items : List Json) (depth : Nat),
    assertSafeItems items depth = .ok () → Json.SafeItems items
  | [], _, _ => trivial
  | value :: rest, depth, h => by
    rw [assertSafeItems, except_bind_eq_ok] at h
    obtain ⟨_, hvalue, hrest⟩ := h
    exact ⟨safe_of_assertSafeValue value depth hvalue, safeItems_of_assertSafeItems rest depth hrest⟩

/-- Properties that pass `assertSafeValue` are JSON. -/
theorem safeFields_of_assertSafeFields : ∀ (fields : List (String × Json)) (depth : Nat),
    assertSafeFields fields depth = .ok () → Json.SafeFields fields
  | [], _, _ => trivial
  | (_, value) :: rest, depth, h => by
    rw [assertSafeFields, except_bind_eq_ok] at h
    obtain ⟨_, hvalue, hrest⟩ := h
    exact ⟨safe_of_assertSafeValue value depth hvalue, safeFields_of_assertSafeFields rest depth hrest⟩

end

/-- `assertBoundedRecord`. -/
def assertBoundedRecord (value : JsonRecord) : Except Failure Unit := do
  assertSafeValue (.obj value) 0
  throwIf (64 * 1024 < Json.byteLength (Json.obj value).text) (policyError "Payload exceeds 64 KiB")

/-- `assertString`; `none` is `undefined`. -/
def assertString (value : Option Json) (field : String) : Except Failure Unit :=
  match value with
  | some (.str s) =>
    throwIf (isBlank s = true ∨ 2048 < utf16Length s)
      (policyError s!"{field} must be a non-empty bounded string")
  | _ => .error (policyError s!"{field} must be a non-empty bounded string")

/-- A string that passes `assertString` is not empty. -/
theorem ne_empty_of_assertString {s field : String}
    (h : assertString (some (.str s)) field = .ok ()) : s ≠ "" := by
  rw [assertString, throwIf_eq_ok, not_or] at h
  rintro rfl
  exact h.1 rfl

/-- `assertStringArray`. -/
def assertStringArray (value : Option Json) (field : String) : Except Failure Unit :=
  match value with
  | some (.arr items) => do
    throwIf (32 < items.length)
      (policyError s!"{field} must be an array with at most 32 entries")
    forM items fun item => assertString (some item) field
  | _ => .error (policyError s!"{field} must be an array with at most 32 entries")

/-- `record[name]`. -/
def fieldOf (record : JsonRecord) (name : String) : Option Json :=
  (record.find? (fun field => field.1 == name)).map Prod.snd

/-- The pattern of a stored owner instruction: `slack:Ev` and 1 to 100 letters and digits. -/
def instructionReferencePattern (s : String) : Bool :=
  let rest := s.toList.drop 8
  s.toList.take 8 == "slack:Ev".toList && decide (1 ≤ rest.length) && decide (rest.length ≤ 100)
    && rest.all isAlnum

/-- `assertTaskInput`. Every task kind of the enumeration has a policy. -/
def assertTaskInput (task : ControlPlaneTask) : Except Failure Unit := do
  assertBoundedRecord task.input
  let policy := taskPolicies task.kind
  forM task.input fun field =>
    throwIf (field.1 ∉ policy.inputKeys)
      (policyError s!"Input field {field.1} is not allowed for {task.kind.code}")
  match task.kind with
  | .repositoryReview => do
    assertString (fieldOf task.input "repository") "repository"
    if (fieldOf task.input "ref").isSome then assertString (fieldOf task.input "ref") "ref"
    if (fieldOf task.input "pullRequestUrl").isSome then
      assertString (fieldOf task.input "pullRequestUrl") "pullRequestUrl"
  | .qualityVerify => do
    assertString (fieldOf task.input "target") "target"
    assertStringArray (fieldOf task.input "checks") "checks"
  | .documentationPrepare => do
    assertString (fieldOf task.input "document") "document"
    assertStringArray (fieldOf task.input "evidenceIds") "evidenceIds"
  | .businessResearch => do
    assertString (fieldOf task.input "instructionReference") "instructionReference"
    match fieldOf task.input "instructionReference" with
    | some (.str s) =>
      throwIf (instructionReferencePattern s = false)
        (policyError "Research requires a stored owner instruction reference")
    | _ => .error (policyError "Research requires a stored owner instruction reference")
  | .runtimeHealthCheck => assertString (fieldOf task.input "connectionId") "connectionId"

/-- The input of a checked task is JSON. -/
theorem safeFields_of_assertTaskInput {task : ControlPlaneTask}
    (h : assertTaskInput task = .ok ()) : Json.SafeFields task.input := by
  rw [assertTaskInput, except_bind_eq_ok] at h
  obtain ⟨_, hbounded, -⟩ := h
  rw [assertBoundedRecord, except_bind_eq_ok] at hbounded
  obtain ⟨_, hsafe, -⟩ := hbounded
  exact safe_of_assertSafeValue (.obj task.input) 0 hsafe

/-- `assertNonNegativeInteger`. -/
def assertNonNegativeInteger (value : Int) (field : String) : Except Failure Unit :=
  throwIf (isSafeInteger value = false ∨ value < 0)
    (policyError s!"{field} must be a non-negative integer")

/-- What `assertNonNegativeInteger` accepts is a safe amount. -/
theorem bounds_of_assertNonNegativeInteger {value : Int} {field : String}
    (h : assertNonNegativeInteger value field = .ok ()) : 0 ≤ value ∧ value ≤ maxSafeInteger := by
  rw [assertNonNegativeInteger, throwIf_eq_ok, not_or, not_lt, Bool.not_eq_false] at h
  have hsafe := of_decide_eq_true h.1
  exact ⟨h.2, hsafe.2⟩

/-- `parsedTime`: `Date.parse` must find a time. -/
def parsedTime (dateParse : String → Option Int) (value : String) (field : String) :
    Except Failure Int :=
  match dateParse value with
  | some time => .ok time
  | none => .error (policyError s!"{field} must be an ISO timestamp")

/-- `isExpired`. -/
def isExpired (dateParse : String → Option Int) (expiresAt : Option String) (now : Int) :
    Except Failure Bool :=
  match expiresAt with
  | none => .ok false
  | some value => do
    let time ← parsedTime dateParse value "expiresAt"
    return decide (time ≤ now)

/-- `[...new Set(ids)].sort()`, up to the choice of the total order. -/
def normalizedIds (ids : List EntityId) : List EntityId := ids.dedup.insertionSort (· ≤ ·)

/-- `sameIds`. -/
def sameIds (left right : List EntityId) : Bool :=
  decide (left.length = (normalizedIds left).length) &&
    decide (right.length = (normalizedIds right).length) &&
    decide (normalizedIds left = normalizedIds right)

/-- Lists that pass `sameIds` have the same members. -/
theorem mem_iff_of_sameIds {left right : List EntityId} (h : sameIds left right = true)
    (id : EntityId) : id ∈ left ↔ id ∈ right := by
  have hmem : ∀ l : List EntityId, id ∈ normalizedIds l ↔ id ∈ l := fun l => by
    rw [normalizedIds, (List.perm_insertionSort _ _).mem_iff, List.mem_dedup]
  simp only [sameIds, Bool.and_eq_true, decide_eq_true_eq] at h
  rw [← hmem left, ← hmem right, h.2]

end VentureOS.ControlPlane
