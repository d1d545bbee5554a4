import VentureOS.Durable.CycleChecks

/-! # Accepted plans are sound

What the checks of `validateDurableObjectivePlan` establish together, for values of any kind. One of them is not what
it seems: the kind of a task is looked up with `in`, which finds the names every object inherits as well, and the
authority is then compared with what is found there, which is no number. So an accepted plan is sound iff none of its
kinds is such a name (`soundPlan_iff`). -/

namespace VentureOS.Durable

open ControlPlane

/-! ## Values

The checks look at the kind of a value before anything else. A value of the wrong kind is refused; the others are
read here, and checked afterwards. Properties that are undefined are left out of their objects. -/

/-- `plainRecord` and `exactKeys`. -/
def record? (allowed : List String) : Option Json → Option JsonRecord
  | some (.obj fields) => if ∀ key ∈ fields.map Prod.fst, key ∈ allowed then some fields else none
  | _ => none

def text? : Option Json → Option String
  | some (.str s) => some s
  | _ => none

def number? : Option Json → Option Int
  | some (.int n) => some n
  | _ => none

def items? : Option Json → Option (List Json)
  | some (.arr items) => some items
  | _ => none

def texts? (value : Option Json) : Option (List String) := do
  (← items? value).mapM fun item => text? (some item)

def costLimit? (value : Option Json) : Option CostLimit := do
  let fields ← record? ["currency", "maximumMinorUnits", "maximumComputeUnits"] value
  return ⟨← text? (fields.lookup "currency"), ← number? (fields.lookup "maximumMinorUnits"),
    ← number? (fields.lookup "maximumComputeUnits")⟩

def retryPolicy? (value : Option Json) : Option RetryPolicy := do
  let fields ← record? ["maximumAttempts", "retryableFailureCodes", "stopAfterFailureCodes"] value
  return ⟨← number? (fields.lookup "maximumAttempts"), ← texts? (fields.lookup "retryableFailureCodes"),
    ← texts? (fields.lookup "stopAfterFailureCodes")⟩

def approval? : Option Json → Option (Option DurableApprovalPreparation)
  | none => some none
  | some value => do
    let fields ← record? ["actionCode", "exactTarget", "artifactVersionId", "evidenceHash"] (some value)
    return some ⟨← text? (fields.lookup "actionCode"), ← text? (fields.lookup "exactTarget"),
      ← text? (fields.lookup "artifactVersionId"), ← text? (fields.lookup "evidenceHash")⟩

/-- A policy may be any value that passes `jsonSafe`; one that is no object has no entries. -/
def policy? (field : String) : Option Json → Option JsonRecord
  | some (.obj entries) => some entries
  | some value => (jsonSafe field 0 value).toOption.map fun _ => []
  | none => none

def task? (value : Json) : Option DurableTaskPlanInput := do
  let fields ← record? ["id", "projectId", "title", "kind", "dependencyIds", "requiredAuthority", "costLimit",
    "estimatedDurationMs", "acceptanceCriteria", "verificationCriteria", "stopConditions", "retryPolicy",
    "agentPolicy", "routingPolicy", "approval"] (some value)
  return {
    id := ← text? (fields.lookup "id")
    projectId := ← text? (fields.lookup "projectId")
    title := ← text? (fields.lookup "title")
    kind := ← text? (fields.lookup "kind")
    dependencyIds := ← texts? (fields.lookup "dependencyIds")
    requiredAuthority := ← number? (fields.lookup "requiredAuthority")
    costLimit := ← costLimit? (fields.lookup "costLimit")
    estimatedDurationMs := ← number? (fields.lookup "estimatedDurationMs")
    acceptanceCriteria := ← texts? (fields.lookup "acceptanceCriteria")
    verificationCriteria := ← texts? (fields.lookup "verificationCriteria")
    stopConditions := ← texts? (fields.lookup "stopConditions")
    retryPolicy := ← retryPolicy? (fields.lookup "retryPolicy")
    agentPolicy := ← policy? "task.agentPolicy" (fields.lookup "agentPolicy")
    routingPolicy := ← policy? "task.routingPolicy" (fields.lookup "routingPolicy")
    approval := ← approval? (fields.lookup "approval") }

def objective? (value : Option Json) : Option DurableObjectiveInput := do
  let fields ← record? ["id", "title", "desiredOutcome", "maximumAuthority", "costLimit", "acceptanceCriteria",
    "verificationCriteria", "stopConditions"] value
  return ⟨← text? (fields.lookup "id"), ← text? (fields.lookup "title"), ← text? (fields.lookup "desiredOutcome"),
    ← number? (fields.lookup "maximumAuthority"), ← costLimit? (fields.lookup "costLimit"),
    ← texts? (fields.lookup "acceptanceCriteria"), ← texts? (fields.lookup "verificationCriteria"),
    ← texts? (fields.lookup "stopConditions")⟩

def project? (value : Json) : Option DurableProjectInput := do
  let fields ← record? ["id", "title"] (some value)
  return ⟨← text? (fields.lookup "id"), ← text? (fields.lookup "title")⟩

def plan? (value : Json) : Option DurableObjectivePlanInput := do
  let fields ← record? ["workspaceId", "idempotencyKey", "policyVersion", "objective", "projects", "tasks"]
    (some value)
  return {
    workspaceId := ← text? (fields.lookup "workspaceId")
    idempotencyKey := ← text? (fields.lookup "idempotencyKey")
    policyVersion := ← text? (fields.lookup "policyVersion")
    objective := ← objective? (fields.lookup "objective")
    projects := ← (← items? (fields.lookup "projects")).mapM project?
    tasks := ← (← items? (fields.lookup "tasks")).mapM task? }

/-- The plan that `validateDurableObjectivePlan` asserts the value to be, if it accepts it. -/
def acceptedPlan? (value : Json) : Option DurableObjectivePlanInput := do
  let plan ← plan? value
  (validateDurableObjectivePlan plan).toOption
  return plan

theorem validate_of_acceptedPlan {value : Json} {plan : DurableObjectivePlanInput}
    (h : acceptedPlan? value = some plan) : validateDurableObjectivePlan plan = .ok () := by
  simp only [acceptedPlan?, Option.bind_eq_bind, Option.bind_eq_some_iff, Option.pure_def, Option.some.injEq] at h
  obtain ⟨_, -, ⟨⟩, hvalid, rfl⟩ := h
  exact except_toOption_eq_some.mp hvalid

/-- A sound plan. The costs and the compute units are also what adding doubles makes of them. -/
structure SoundPlan (input : DurableObjectivePlanInput) : Prop where
  projectIds : (input.projects.map DurableProjectInput.id).Nodup
  taskIds : (input.tasks.map DurableTaskPlanInput.id).Nodup
  dependencies : ∀ task ∈ input.tasks, ∀ dependencyId ∈ task.dependencyIds,
    dependencyId ∈ input.tasks.map DurableTaskPlanInput.id
  acyclic : NoCycle (input.tasks.map durableNode)
  authorities : ∀ task ∈ input.tasks, ∃ minimum, (task.kind, minimum) ∈ taskKindMinimumAuthority
    ∧ minimum ≤ task.requiredAuthority ∧ task.requiredAuthority ≤ input.objective.maximumAuthority
  approvals : ∀ task ∈ input.tasks, task.approval.isSome = true ↔ task.requiredAuthority = 4
  failureCodes : ∀ task ∈ input.tasks, ∀ code ∈ task.retryPolicy.retryableFailureCodes,
    code ∉ task.retryPolicy.stopAfterFailureCodes
  cost : (input.tasks.map fun task => task.costLimit.maximumMinorUnits).sum
      ≤ input.objective.costLimit.maximumMinorUnits
    ∧ (input.tasks.map fun task => task.costLimit.maximumMinorUnits).foldl addDouble 0
      = (input.tasks.map fun task => task.costLimit.maximumMinorUnits).sum
  compute : (input.tasks.map fun task => task.costLimit.maximumComputeUnits).sum
      ≤ input.objective.costLimit.maximumComputeUnits
    ∧ (input.tasks.map fun task => task.costLimit.maximumComputeUnits).foldl addDouble 0
      = (input.tasks.map fun task => task.costLimit.maximumComputeUnits).sum

/-! ## Tasks -/

/-- What `validateTask` has checked, as far as the kind goes. -/
structure CheckedTask (task : DurableTaskPlanInput) : Prop where
  kind : (minimumAuthority? task.kind).isSome = true ∨ task.kind ∈ inheritedNames
  authority : ∀ minimum, minimumAuthority? task.kind = some minimum → minimum ≤ task.requiredAuthority
  dependencies : task.dependencyIds.Nodup
  cost : 0 ≤ task.costLimit.maximumMinorUnits ∧ 0 ≤ task.costLimit.maximumComputeUnits
  approval : task.approval.isSome = true ↔ task.requiredAuthority = 4
  failureCodes : ∀ code ∈ task.retryPolicy.retryableFailureCodes, code ∉ task.retryPolicy.stopAfterFailureCodes

theorem nodup_of_checkDependencyIds {seen ids : List EntityId} (h : checkDependencyIds seen ids = .ok ()) :
    ids.Nodup ∧ ∀ id ∈ ids, id ∉ seen := by
  induction ids generalizing seen with
  | nil => simp
  | cons id rest ih =>
    rw [checkDependencyIds, check_bind_eq_ok, check_bind_eq_ok, throwIf_eq_ok] at h
    obtain ⟨hnodup, hfresh⟩ := ih h.2.2
    refine ⟨List.nodup_cons.mpr ⟨fun hmem => hfresh id hmem List.mem_cons_self, hnodup⟩, ?_⟩
    exact List.forall_mem_cons.mpr ⟨h.2.1, fun other hother hseen => hfresh other hother (List.mem_cons_of_mem _ hseen)⟩

theorem costLimit_nonneg {limit : CostLimit} {field : String} (h : costLimit limit field = .ok ()) :
    0 ≤ limit.maximumMinorUnits ∧ 0 ≤ limit.maximumComputeUnits
      ∧ limit.maximumMinorUnits ≤ maxSafeInteger ∧ limit.maximumComputeUnits ≤ maxSafeInteger := by
  simp only [costLimit, check_bind_eq_ok, safeInteger, throwIf_eq_ok, isSafeInteger, decide_eq_false_iff_not,
    not_or, not_not, not_lt] at h
  obtain ⟨-, ⟨hminor, hminor'⟩, ⟨hcompute, hcompute'⟩⟩ := h
  exact ⟨hminor', hcompute', hminor.2, hcompute.2⟩

theorem isSome_of_validateApproval {approval : Option DurableApprovalPreparation} {level : Int}
    (h : validateApproval approval level = .ok ()) : approval.isSome = true ↔ level = 4 := by
  unfold validateApproval at h
  by_cases hlevel : level = 4
  · rw [if_neg (not_not.mpr hlevel)] at h
    cases approval with
    | none => cases h
    | some _ => simp [hlevel]
  · rw [if_pos hlevel, throwIf_eq_ok] at h
    simp [hlevel, h]

theorem checkedTask {task : DurableTaskPlanInput} {projectIds : List EntityId}
    (h : validateTask task projectIds = .ok ()) : CheckedTask task := by
  simp only [validateTask, check_bind_eq_ok, checkRetryPolicy, throwIf_eq_ok, not_and_or, not_not, not_exists] at h
  obtain ⟨-, -, -, -, hkind, -, hdependencies, -, hauthority, hcost, -, -, -, -, ⟨-, -, -, -, hcodes⟩, -, -,
    happroval⟩ := h
  have hcost := costLimit_nonneg hcost
  refine ⟨hkind.imp_left fun h => ?_, fun minimum hminimum => ?_, (nodup_of_checkDependencyIds hdependencies).1,
    ⟨hcost.1, hcost.2.1⟩, isSome_of_validateApproval happroval, fun code hcode => ?_⟩
  · simpa [Option.isSome_iff_ne_none] using h
  · simpa [hminimum] using hauthority
  · exact (hcodes code).resolve_left (not_not.mpr hcode)

/-- A minimum is that of a kind of the table. -/
theorem mem_of_minimumAuthority {kind : String} {minimum : Int} (h : minimumAuthority? kind = some minimum) :
    (kind, minimum) ∈ taskKindMinimumAuthority := by
  obtain ⟨entry, hentry, rfl⟩ := Option.map_eq_some_iff.mp h
  have hkind := List.find?_some hentry
  rw [beq_iff_eq] at hkind
  exact hkind ▸ List.mem_of_find?_eq_some hentry

/-- No kind of the table is an inherited name. -/
theorem not_mem_inheritedNames {kind : String} {minimum : Int} (h : (kind, minimum) ∈ taskKindMinimumAuthority) :
    kind ∉ inheritedNames := by
  have hall : ∀ entry ∈ taskKindMinimumAuthority, entry.1 ∉ inheritedNames := by decide
  exact hall _ h

/-! ## Plans -/

theorem nodup_of_checkProjects {seen : List EntityId} {projects : List DurableProjectInput}
    (h : checkProjects seen projects = .ok ()) :
    (projects.map DurableProjectInput.id).Nodup ∧ ∀ project ∈ projects, project.id ∉ seen := by
  induction projects generalizing seen with
  | nil => simp
  | cons project rest ih =>
    simp only [checkProjects, check_bind_eq_ok, throwIf_eq_ok] at h
    obtain ⟨hnodup, hfresh⟩ := ih h.2.2.2
    refine ⟨?_, ?_⟩
    · rw [List.map_cons, List.nodup_cons]
      refine ⟨fun hmem => ?_, hnodup⟩
      obtain ⟨other, hother, hid⟩ := List.mem_map.mp hmem
      exact hfresh other hother (hid ▸ List.mem_cons_self)
    · exact List.forall_mem_cons.mpr
        ⟨h.2.2.1, fun other hother hseen => hfresh other hother (List.mem_cons_of_mem _ hseen)⟩

/-- What the loop over the tasks has checked. -/
theorem checkTasks_bounds {input : DurableObjectivePlanInput} {projectIds seen : List EntityId}
    {minorUnits computeUnits : Int} {tasks : List DurableTaskPlanInput}
    (h : checkTasks input projectIds seen minorUnits computeUnits tasks = .ok ())
    (hminor : minorUnits ≤ input.objective.costLimit.maximumMinorUnits)
    (hcompute : computeUnits ≤ input.objective.costLimit.maximumComputeUnits) :
    (∀ task ∈ tasks, CheckedTask task ∧ task.requiredAuthority ≤ input.objective.maximumAuthority)
      ∧ minorUnits + (tasks.map fun task => task.costLimit.maximumMinorUnits).sum
        ≤ input.objective.costLimit.maximumMinorUnits
      ∧ computeUnits + (tasks.map fun task => task.costLimit.maximumComputeUnits).sum
        ≤ input.objective.costLimit.maximumComputeUnits := by
  induction tasks generalizing seen minorUnits computeUnits with
  | nil => simpa using ⟨hminor, hcompute⟩
  | cons task rest ih =>
    simp only [checkTasks, check_bind_eq_ok, throwIf_eq_ok, not_or, not_lt] at h
    obtain ⟨hvalid, -, hauthority, -, ⟨-, -, hminor', hcompute'⟩, hrest⟩ := h
    obtain ⟨hall, hsum, hsum'⟩ := ih hrest hminor' hcompute'
    refine ⟨List.forall_mem_cons.mpr ⟨⟨checkedTask hvalid, hauthority⟩, hall⟩, ?_, ?_⟩
    · rw [List.map_cons, List.sum_cons, ← add_assoc]
      exact hsum
    · rw [List.map_cons, List.sum_cons, ← add_assoc]
      exact hsum'

/-- **Acceptance is sound** iff no kind is an inherited name. -/
theorem soundPlan_iff {value : Json} {input : DurableObjectivePlanInput} (h : acceptedPlan? value = some input) :
    SoundPlan input ↔ ∀ task ∈ input.tasks, task.kind ∉ inheritedNames := by
  have h := validate_of_acceptedPlan h
  constructor
  · intro hsound task htask
    obtain ⟨minimum, hminimum, -⟩ := hsound.authorities task htask
    exact not_mem_inheritedNames hminimum
  · intro hkinds
    have hplan := validPlan_of_validate h
    simp only [validateDurableObjectivePlan, check_bind_eq_ok] at h
    obtain ⟨-, -, -, -, -, -, -, hlimit, -, -, -, -, hprojects, -, htasks, hacyclic⟩ := h
    obtain ⟨hminor, hcompute, hminor', hcompute'⟩ := costLimit_nonneg hlimit
    obtain ⟨hall, hsum, hsum'⟩ := checkTasks_bounds htasks hminor hcompute
    rw [zero_add] at hsum hsum'
    have hgraph : TaskGraph (input.tasks.map durableNode) := by
      refine ⟨?_, ?_, ?_⟩
      · simpa [durableNode, Function.comp_def] using hplan.distinct
      · simpa [durableNode] using fun task htask => (hall task htask).1.dependencies
      · simpa [durableNode, Function.comp_def] using hplan.known
    have hexact : ∀ amount : DurableTaskPlanInput → Int, (∀ task ∈ input.tasks, 0 ≤ amount task) →
        (input.tasks.map amount).sum ≤ maxSafeInteger →
        (input.tasks.map amount).foldl addDouble 0 = (input.tasks.map amount).sum := by
      intro amount hnonneg hsafe
      rw [foldl_addDouble _ (by simpa using hnonneg) 0 le_rfl (by rwa [zero_add]), zero_add]
    refine ⟨(nodup_of_checkProjects hprojects).1, hplan.distinct, hplan.known,
      (assertAcyclic_iff hgraph).1.mp hacyclic, fun task htask => ?_, fun task htask => (hall task htask).1.approval,
      fun task htask => (hall task htask).1.failureCodes,
      ⟨hsum, hexact _ (fun task htask => (hall task htask).1.cost.1) (hsum.trans hminor')⟩,
      ⟨hsum', hexact _ (fun task htask => (hall task htask).1.cost.2) (hsum'.trans hcompute')⟩⟩
    obtain ⟨hchecked, hmaximum⟩ := hall task htask
    have hsome := hchecked.kind.resolve_right (hkinds task htask)
    obtain ⟨minimum, hminimum⟩ := Option.isSome_iff_exists.mp hsome
    exact ⟨minimum, mem_of_minimumAuthority hminimum, hchecked.authority minimum hminimum, hmaximum⟩

/-! ## A kind that is inherited -/

/-- A plan with one task of a kind. -/
def sampleValue (kind : String) : Json :=
  let limit := Json.obj [("currency", .str "USD"), ("maximumMinorUnits", .int 1), ("maximumComputeUnits", .int 1)]
  let texts := Json.arr [.str "t"]
  .obj [("workspaceId", .str "w"), ("idempotencyKey", .str "k"), ("policyVersion", .str "v"),
    ("objective", .obj [("id", .str "o"), ("title", .str "t"), ("desiredOutcome", .str "t"),
      ("maximumAuthority", .int 3), ("costLimit", limit), ("acceptanceCriteria", texts),
      ("verificationCriteria", texts), ("stopConditions", texts)]),
    ("projects", .arr [.obj [("id", .str "p"), ("title", .str "t")]]),
    ("tasks", .arr [.obj [("id", .str "a"), ("projectId", .str "p"), ("title", .str "t"), ("kind", .str kind),
      ("dependencyIds", .arr []), ("requiredAuthority", .int 3), ("costLimit", limit),
      ("estimatedDurationMs", .int 1), ("acceptanceCriteria", texts), ("verificationCriteria", texts),
      ("stopConditions", texts), ("retryPolicy", .obj [("maximumAttempts", .int 1),
        ("retryableFailureCodes", .arr [.str "R"]), ("stopAfterFailureCodes", .arr [.str "S"])]),
      ("agentPolicy", .null), ("routingPolicy", .obj [])]])]

/-- The plan is accepted, also with an inherited name for a kind. -/
theorem sample_accepted : ∀ kind ∈ ["constructor", "quality.verify"], ∃ plan,
    acceptedPlan? (sampleValue kind) = some plan ∧ plan.tasks.map DurableTaskPlanInput.kind = [kind] := by
  have hkinds : ∀ kind ∈ ["constructor", "quality.verify"], (acceptedPlan? (sampleValue kind)).map
      (fun plan => plan.tasks.map DurableTaskPlanInput.kind) = some [kind] := by decide +kernel
  exact fun kind hkind => Option.map_eq_some_iff.mp (hkinds kind hkind)

/-- An accepted plan has a task of the kind `constructor`. -/
theorem constructor_accepted : ∃ plan, acceptedPlan? (sampleValue "constructor") = some plan ∧ ¬ SoundPlan plan := by
  obtain ⟨plan, hplan, hkinds⟩ := sample_accepted "constructor" (by decide)
  refine ⟨plan, hplan, fun h => ?_⟩
  obtain ⟨task, htask, hkind⟩ := List.mem_map.mp (hkinds ▸ List.mem_singleton_self "constructor")
  obtain ⟨minimum, hminimum, -⟩ := h.authorities task htask
  exact not_mem_inheritedNames (hkind ▸ hminimum) (by decide)

/-- A sound plan. -/
theorem sample_sound : ∃ plan, acceptedPlan? (sampleValue "quality.verify") = some plan ∧ SoundPlan plan := by
  obtain ⟨plan, hplan, hkinds⟩ := sample_accepted "quality.verify" (by decide)
  refine ⟨plan, hplan, (soundPlan_iff hplan).mpr fun task htask => ?_⟩
  have hkind := List.mem_map_of_mem (f := DurableTaskPlanInput.kind) htask
  rw [hkinds, List.mem_singleton] at hkind
  rw [hkind]
  decide

end VentureOS.Durable
