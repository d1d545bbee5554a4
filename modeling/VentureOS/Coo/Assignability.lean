import VentureOS.Coo.Wakeups

/-! # Assignability of accepted plans

A request for an assignment is compared with the governed task field by field, so a task determines
it up to its identifiers (`governedRequest`). The agent factory checks the same data again. Its bounds
are those `#validatePlan` puts on each field of a task, with one exception: the stop conditions of a
task are bounded one by one, but the factory is given their joined text as a single field. A ready
task can be assigned exactly if that text is within the factory's bound. -/

namespace VentureOS.Coo

open ControlPlane Program Factory

variable {ω σ : Type} (governance : Governance ω σ)

/-! ## Joined texts -/

/-- Printable texts joined by a printable separator are printable unless they become too long. -/
theorem printableText_intercalate {sep : String} {texts : List String} (hne : texts ≠ [])
    (hsep : ∀ c ∈ sep.toList, isControl c = false) (h : ∀ text ∈ texts, PrintableText text) :
    PrintableText (sep.intercalate texts) ↔ utf16Length (sep.intercalate texts) ≤ 2048 := by
  constructor
  · exact fun hprintable => hprintable.2.1
  · intro hlength
    refine ⟨?_, hlength, ?_⟩
    · obtain ⟨text, htext⟩ := List.exists_mem_of_ne_nil _ hne
      have hblank := (h text htext).1
      simp only [isBlank, List.all_eq_false] at hblank ⊢
      obtain ⟨c, hc, hspace⟩ := hblank
      exact ⟨c, mem_intercalate.mpr (Or.inl ⟨text, htext, hc⟩), hspace⟩
    · simp only [List.any_eq_false, Bool.not_eq_true]
      intro c hc
      rcases mem_intercalate.mp hc with ⟨text, htext, hc⟩ | ⟨-, hc⟩
      · have hcontrol := (h text htext).2.2
        simp only [List.any_eq_false, Bool.not_eq_true] at hcontrol
        exact hcontrol c hc
      · exact hsep c hc

/-- The joined stop conditions of a valid task are bounded by their length only. -/
theorem ValidTask.joinedStopConditions {options : AiCooOptions} {objective : CooObjective}
    {task : CooTask} (valid : ValidTask options objective task) :
    PrintableText (joinedStopConditions task) ↔ utf16Length (joinedStopConditions task) ≤ 2048 :=
  printableText_intercalate valid.stopConditions.1.1 (by simp [isControl]) valid.stopConditions.2

/-! ## Admissible requests -/

/-- The request passes every check that precedes the decisions of the broker and of the factory. -/
structure Admissible (w : World ω σ) (context : WorkspaceContext) (task : CooTaskState)
    (request : AssignmentRequest) : Prop where
  /-- The checks before the readiness of the task is refreshed. -/
  found : findAssignable governance w.coo context request = .ok task
  /-- The checks against the governed task. -/
  checked : checkAssignment task request = .ok ()
  /-- `#validateRequest` of the factory. -/
  accepted : validateRequest request.factoryRequest = .ok ()
  /-- `requestAssignment` goes on to the broker and the factory, with nothing changed. -/
  proceeds : (requestAssignment governance context request).exec w
    = (assignTask governance context request task).exec w

variable {governance}

/-- A request for the given task under the given identifier. -/
def governedRequest (task : CooTask) (id : EntityId) : AssignmentRequest where
  taskId := task.id
  factoryRequest := {
    id := id
    workspaceId := task.workspaceId
    templateId := task.agentPolicy.templateId
    templateVersion := task.agentPolicy.templateVersion
    objectiveId := task.objectiveId
    taskId := task.id
    parentAgentId := task.agentPolicy.parentAgentId
    repositoryScopes := task.agentPolicy.repositoryScopes
    environmentScopes := task.agentPolicy.environmentScopes
    dataScopes := task.agentPolicy.dataScopes
    capabilityIds := task.agentPolicy.capabilityIds
    toolGrants := task.agentPolicy.toolGrants
    authorityLevel := task.requiredAuthority
    budgetMinorUnits := task.costLimit.maximumMinorUnits
    computeUnits := task.costLimit.maximumComputeUnits
    maxRuntimeMs := task.agentPolicy.maxRuntimeMs
    retryLimit := task.retryPolicy.maximumAttempts - 1
    childLimit := task.agentPolicy.childLimit
    acceptanceCriteria := task.acceptanceCriteria
    verificationCriteria := task.verificationCriteria
    stopCondition := joinedStopConditions task
    retention := task.agentPolicy.retention }
  routingRequest := {
    toCooRoutingPolicy := task.routingPolicy
    id := id
    workspaceId := task.workspaceId
    maximumCostMinorUnits := task.costLimit.maximumMinorUnits
    requiredComputeUnits := task.costLimit.maximumComputeUnits }

/-- The request of a ready task below level 4 passes the checks against the task. -/
theorem checkAssignment_governed {task : CooTaskState} (id : EntityId)
    (hready : task.status = .READY) (hlevel : task.requiredAuthority.val ≠ 4) :
    checkAssignment task (governedRequest task.toCooTask id) = .ok () := by
  have hbelow : ¬ 3 < task.requiredAuthority.val := by
    have hlt := task.requiredAuthority.isLt
    omega
  simp only [checkAssignment, check_bind_eq_ok, throwIf_eq_ok]
  refine ⟨hlevel, by simp [hready], by simp [governedRequest], ?_, ?_, by simp [governedRequest]⟩
  · simpa [governedRequest] using hbelow
  · simp only [not_or, not_not]
    exact ⟨rfl, rfl⟩

/-- The request of a valid task is accepted by the factory if its stop condition is. -/
theorem validateRequest_governed {options : AiCooOptions} {objective : CooObjective}
    {task : CooTask} (valid : ValidTask options objective task) {id : EntityId}
    (hid : PrintableText id) (hworkspace : PrintableText task.workspaceId)
    (hobjective : PrintableText task.objectiveId) (htask : PrintableText task.id)
    (hstop : PrintableText (joinedStopConditions task)) :
    validateRequest (governedRequest task id).factoryRequest = .ok () := by
  have agent := valid.agentPolicy
  have hattempts := valid.attempts
  have hattempted := valid.attempted
  have hretries : WithinBounds (task.retryPolicy.maximumAttempts - 1) maxSafeInteger :=
    withinBounds_of_le hattempts.safe (by omega) (by omega)
  simp only [validateRequest, check_bind_eq_ok, throwIf_eq_ok, forM_eq_ok, text_eq_ok,
    Factory.integer_eq_ok, dense_eq_ok, not_or]
  refine ⟨fun parent hparent => agent.parentAgentId parent (Option.mem_toList.mp hparent), hid,
    hworkspace, agent.templateId, hobjective, htask, hstop, agent.repositoryScopes.1.2,
    agent.environmentScopes.1.2, agent.dataScopes.1.2, agent.capabilityIds.1, agent.toolGrants.1,
    valid.acceptanceCriteria.1.2, valid.verificationCriteria.1.2, ?_,
    ⟨agent.repositoryScopes.1.1, agent.environmentScopes.1.1, agent.dataScopes.1.1,
      valid.acceptanceCriteria.1.1, valid.verificationCriteria.1.1⟩, ?_, agent.templateVersion, ?_,
    ?_, valid.costLimit, valid.computeLimit, agent.maxRuntimeMs.safe, hretries,
    agent.childLimit.safe⟩
  · simp only [List.mem_cons, List.not_mem_nil, or_false, forall_eq_or_imp, forall_eq]
    exact ⟨agent.repositoryScopes.2, agent.environmentScopes.2, agent.dataScopes.2,
      agent.capabilityIds.2, valid.acceptanceCriteria.2, valid.verificationCriteria.2⟩
  · intro grant hgrant
    obtain ⟨htool, hlength, hscopes⟩ := agent.toolGrants.2 grant hgrant
    exact ⟨hlength, htool, hscopes⟩
  · exact not_lt.mpr agent.positive
  · have hlevel : ((governedRequest task id).factoryRequest.authorityLevel.val : Int) ≤ 4 := by
      have hlt := task.requiredAuthority.isLt
      show (task.requiredAuthority.val : Int) ≤ 4
      omega
    refine ⟨?_, Int.natCast_nonneg _, hlevel⟩
    simp only [isSafeInteger, decide_eq_true_eq]
    unfold maxSafeInteger
    omega

variable {context : WorkspaceContext}

/-- **Refreshing an awake task** that stands as its dependencies do changes nothing. -/
theorem refreshTaskReadiness_idle {taskId : EntityId}
    {task : CooTaskState} {w : World ω σ} (sound : Sound w.coo)
    (found : w.coo.tasks.get? (key context.workspaceId taskId) = some task)
    (hblocked : task.status = .BLOCKED → ¬ DependenciesCompleted w.coo task.toCooTask) :
    (refreshTaskReadiness governance context taskId).exec w = (.ok (), w) := by
  have hmem : task ∈ w.coo.tasks := Store.mem_of_get? found
  have hkey : key task.workspaceId task.id = key context.workspaceId taskId :=
    Store.keyOf_of_get? found
  suffices h : Ensures (refreshTaskReadiness governance context taskId) w
      (fun r w' => (r, w') = (.ok (), w)) from h
  unfold refreshTaskReadiness
  rw [ensures_readCoo_bind, requireTask_eq_ok.mpr found, ensures_ok_bind]
  split
  next hwaiting =>
    obtain ⟨dependencies, hdeps⟩ := sound.requireDependencies found
    have hready := readiness_eq_ready (key_inj.mp hkey).1 hdeps
    -- The readiness derived is the status the task has.
    have hsame : readiness dependencies = task.status := by
      rcases hwaiting with hstatus | hstatus
      · rw [hstatus]
        exact (readiness_cases dependencies).resolve_left fun h => hblocked hstatus (hready.mp h)
      · rw [hstatus]
        exact hready.mpr (sound.started task hmem (by simp [Started, hstatus]))
    have hput : w.coo.putTask { task with status := readiness dependencies } = w.coo := by
      rw [hsame]
      show ({ w.coo with tasks := w.coo.tasks.put task } : GovernedAiCoo) = w.coo
      rw [Store.put_self hmem]
    rw [hdeps, ensures_ok_bind, ensures_writeCoo_bind, hput, if_neg (by simp [hsame])]
    rfl
  next => rfl

/-- A request that passes the checks of a ready task in a sound graph goes on to the broker. -/
theorem requestAssignment_proceeds {request : AssignmentRequest}
    {task : CooTaskState} {w : World ω σ} (sound : Sound w.coo)
    (hfound : findAssignable governance w.coo context request = .ok task)
    (hchecked : checkAssignment task request = .ok ()) :
    (requestAssignment governance context request).exec w
      = (assignTask governance context request task).exec w := by
  have hget : w.coo.tasks.get? (key context.workspaceId request.taskId) = some task := by
    simp only [findAssignable, check_bind_eq_ok] at hfound
    exact requireTask_eq_ok.mp hfound.2.2.2
  have hready := (checkAssignment_ready hchecked).2
  have hidle : (refreshTaskReadiness governance context request.taskId).exec w = (.ok (), w) :=
    refreshTaskReadiness_idle sound hget (by simp [hready])
  suffices h : Ensures (requestAssignment governance context request) w
      (fun r w' => (r, w') = (assignTask governance context request task).exec w) from h
  unfold requestAssignment
  rw [ensures_readCoo_bind, hfound, ensures_ok_bind, ensures_bind, Ensures, hidle]
  show Ensures (readCoo >>= _) w _
  rw [ensures_readCoo_bind, requireTask_eq_ok.mpr hget, ensures_ok_bind, hchecked, ensures_ok_bind]
  rfl

/-! ## Accepted plans -/

variable (governance)

/-- What an accepted `createPlan` has checked and stored. -/
theorem createPlan_stored (context : WorkspaceContext) (plan : ObjectivePlan) (w : World ω σ) :
    Ensures (createPlan governance context plan) w (fun r w' => ∀ report, r = .ok report →
      checkPlan governance w.coo context plan = .ok ()
        ∧ w'.coo.tasks = (w.coo.addPlan context.workspaceId plan).tasks) := by
  unfold createPlan
  rw [ensures_readCoo_bind, ensures_lift_bind]
  refine ⟨fun e _ report h => (by cases h), fun _ hchecked => ?_⟩
  rw [ensures_bind]
  refine (onFactory_coo _ w).mono fun r w₁ hw₁ => ?_
  cases r with
  | error e => exact fun report h => (by cases h)
  | ok u =>
    show Ensures (writeCoo _ >>= _) w₁ _
    rw [ensures_writeCoo_bind, ensures_bind]
    refine (announces_announcePlan governance context plan _).mono fun r w₂ hw₂ => ?_
    cases r with
    | error e => exact fun report h => (by cases h)
    | ok u =>
      show Ensures (readCoo >>= _) w₂ _
      rw [ensures_readCoo_bind, ensures_lift]
      refine fun report _ => ⟨hchecked, ?_⟩
      rw [hw₂.tasks, hw₁.1]

/-- An accepted label `createPlan` is an accepted call. -/
theorem exists_answer_iff (context : WorkspaceContext) (plan : ObjectivePlan) (w : World ω σ) :
    (∃ answer, (perform governance (.createPlan context plan) w).1 = .ok answer) ↔
      ∃ report, ((createPlan governance context plan).exec w).1 = .ok report := by
  show (∃ answer, ((createPlan governance context plan >>= _).exec w).1 = _) ↔ _
  rw [exec_bind]
  cases (createPlan governance context plan |>.exec w).1 with
  | error e => simp
  | ok report => exact ⟨fun _ => ⟨report, rfl⟩, fun _ => ⟨.report report, rfl⟩⟩

/-- The tasks of an accepted plan are stored. -/
theorem stored_of_accepted {outside : ω} {sink : σ} {before : List (Call ω σ)}
    {plan : ObjectivePlan} {answer : Answer}
    (accepted : (perform governance (.createPlan context plan)
      (reach governance outside sink before)).1 = .ok answer) :
    checkPlan governance (reach governance outside sink before).coo context plan = .ok ()
      ∧ ∀ task ∈ plan.tasks,
        (reach governance outside sink (before ++ [.createPlan context plan])).coo.tasks.get?
            (key context.workspaceId task.id) = some (storedTask task) := by
  have hspec : Ensures (Coo.answer governance (.createPlan context plan))
      (reach governance outside sink before) (fun r w' => ∀ a, r = .ok a →
        checkPlan governance (reach governance outside sink before).coo context plan = .ok ()
          ∧ w'.coo.tasks = ((reach governance outside sink before).coo.addPlan
            context.workspaceId plan).tasks) := by
    show Ensures (createPlan governance context plan >>= _) _ _
    rw [ensures_bind]
    refine (createPlan_stored governance context plan _).mono fun r w' hw => ?_
    cases r with
    | error e => exact fun a h => (by cases h)
    | ok report => exact fun a _ => hw report rfl
  obtain ⟨hchecked, htasks⟩ := hspec answer accepted
  refine ⟨hchecked, fun task htask => ?_⟩
  have new := newPlan hchecked
  have hstored := (new.mem_tasks (reach_sound governance outside sink before).registered).mpr
    (Or.inr ⟨task, htask, rfl⟩)
  rw [← htasks] at hstored
  have hafter : (reach governance outside sink (before ++ [.createPlan context plan]))
      = (perform governance (.createPlan context plan)
        (reach governance outside sink before)).2 := by
    unfold reach
    rw [run_concat]
  have hkey : key context.workspaceId task.id = keyOf (storedTask task) := by
    show _ = key task.workspaceId task.id
    rw [(new.valid.linkage task htask).1]
  rw [hafter, hkey]
  exact Store.mem_iff_get?.mp hstored

/-- The tasks of an accepted plan stay, with their plan data. -/
theorem exists_stored_of_accepted {outside : ω} {sink : σ} {before : List (Call ω σ)}
    {plan : ObjectivePlan} {answer : Answer}
    (accepted : (perform governance (.createPlan context plan)
      (reach governance outside sink before)).1 = .ok answer) (after : List (Call ω σ)) :
    ∀ task ∈ plan.tasks, ∃ stored,
      (reach governance outside sink (before ++ .createPlan context plan :: after)).coo.tasks.get?
          (key context.workspaceId task.id) = some stored ∧ stored.toCooTask = task := by
  intro task htask
  have hget := (stored_of_accepted governance accepted).2 task htask
  have hlater := reach_later governance outside sink (before ++ [.createPlan context plan]) after
  rw [List.append_assoc, List.singleton_append] at hlater
  obtain ⟨stored, hget', hsame, -⟩ := hlater _ _ hget
  exact ⟨stored, hget', hsame⟩

/-- An admissible request carries the joined stop conditions, under an identifier that is free. -/
theorem Admissible.bounded {w : World ω σ} {task : CooTaskState}
    {request : AssignmentRequest} (h : Admissible governance w context task request) :
    utf16Length (joinedStopConditions task.toCooTask) ≤ 2048
      ∧ ∃ id, PrintableText id
        ∧ key context.workspaceId id ∉ w.coo.consumedAssignmentRequests := by
  obtain ⟨hfound, hchecked, haccepted, -⟩ := h
  simp only [findAssignable, check_bind_eq_ok, throwIf_eq_ok] at hfound
  simp only [checkAssignment, check_bind_eq_ok, throwIf_eq_ok, not_or, not_not] at hchecked
  simp only [validateRequest, check_bind_eq_ok, text_eq_ok] at haccepted
  obtain ⟨-, -, hfree, -⟩ := hfound
  obtain ⟨-, -, -, -, ⟨hpolicy, -⟩, -⟩ := hchecked
  obtain ⟨-, hid, -, -, -, -, hstop, -⟩ := haccepted
  have hstop' : request.factoryRequest.stopCondition = joinedStopConditions task.toCooTask :=
    congrArg FactoryPolicy.stopCondition hpolicy
  rw [hstop'] at hstop
  exact ⟨hstop.2.1, _, hid, hfree⟩

/-- **Assignability of accepted plans.** After every accepted `createPlan`, at every later time, a
ready task of the plan below level 4 has an admissible request exactly if its joined stop conditions
are at most 2048 code units long and the workspace has an unused request identifier. -/
theorem accepted_plans_are_assignable_iff (outside : ω) (sink : σ) (before after : List (Call ω σ))
    (context : WorkspaceContext) (plan : ObjectivePlan) (answer : Answer)
    (accepted : (perform governance (.createPlan context plan)
      (reach governance outside sink before)).1 = .ok answer) :
    let w := reach governance outside sink (before ++ .createPlan context plan :: after)
    ∀ task ∈ plan.tasks, ∃ stored,
      w.coo.tasks.get? (key context.workspaceId task.id) = some stored ∧ stored.toCooTask = task ∧
        (stored.status = .READY → task.requiredAuthority.val ≠ 4 →
          ∀ planner : WorkspaceContext, planner.principalId ∈ governance.options.plannerPrincipals →
            planner.workspaceId = context.workspaceId →
            ((∃ request, Admissible governance w planner stored request) ↔
              utf16Length (joinedStopConditions task) ≤ 2048 ∧ ∃ id, PrintableText id
                ∧ key planner.workspaceId id ∉ w.coo.consumedAssignmentRequests)) := by
  intro w task htask
  have hchecked := (stored_of_accepted governance accepted).1
  obtain ⟨stored, hget, hsame⟩ := exists_stored_of_accepted governance accepted after task htask
  refine ⟨stored, hget, hsame, fun hready hlevel planner hplanner hworkspace => ?_⟩
  have new := newPlan hchecked
  have valid := new.valid.valid task htask
  obtain ⟨hlinked, hobjective, hid⟩ := new.valid.linkage task htask
  have hprintable : PrintableText context.workspaceId := by
    simp only [checkPlan, assertPlanner, check_bind_eq_ok, boundedText_eq_ok] at hchecked
    exact hchecked.1.2
  constructor
  · rintro ⟨request, hadmissible⟩
    exact hsame ▸ hadmissible.bounded
  · rintro ⟨hlength, id, hprintableId, hfree⟩
    have hfound : findAssignable governance w.coo planner (governedRequest task id)
        = .ok stored := by
      simp only [findAssignable, assertPlanner, check_bind_eq_ok, throwIf_eq_ok, boundedText_eq_ok, requireTask_eq_ok]
      refine ⟨⟨not_not.mpr hplanner, hworkspace ▸ hprintable⟩, hid, hfree, ?_⟩
      rw [hworkspace]
      exact hget
    have hassignable : checkAssignment stored (governedRequest task id) = .ok () := by
      have h : checkAssignment stored (governedRequest stored.toCooTask id) = .ok () :=
        checkAssignment_governed id hready (by rw [hsame]; exact hlevel)
      rwa [hsame] at h
    refine ⟨governedRequest task id, hfound, hassignable, ?_,
      requestAssignment_proceeds (reach_sound governance outside sink _) hfound hassignable⟩
    refine validateRequest_governed valid hprintableId (hlinked ▸ hprintable) ?_ hid
      (valid.joinedStopConditions.mpr hlength)
    rw [hobjective]
    exact new.valid.objectiveId

/-! ## Long stop conditions -/

/-- One printable character, repeated. -/
theorem printableText_replicate {n : Nat} {c : Char} (h0 : 0 < n) (hn : n ≤ 2048)
    (hspace : isJsSpace c = false) (hcontrol : isControl c = false) (hlow : c.toNat < 0x10000) :
    PrintableText (String.ofList (List.replicate n c)) := by
  refine ⟨?_, ?_, ?_⟩
  · simp [isBlank, hspace]
    omega
  · rwa [utf16Length_replicate hlow]
  · simp [hcontrol]

/-- A valid task stays valid with other stop conditions that are accepted. -/
theorem validateTask_stopConditions {options : AiCooOptions} {objective : CooObjective}
    {task : CooTask} {stopConditions : List String}
    (h : validateTask options objective task = .ok ())
    (hstop : boundedDenseStrings stopConditions "task.stopConditions" = .ok ()) :
    validateTask options objective { task with stopConditions := stopConditions } = .ok () := by
  simp only [validateTask, check_bind_eq_ok] at h ⊢
  obtain ⟨h₁, h₂, h₃, h₄, h₅, h₆, h₇, h₈, h₉, h₁₀, h₁₁, h₁₂, -, hrest⟩ := h
  exact ⟨h₁, h₂, h₃, h₄, h₅, h₆, h₇, h₈, h₉, h₁₀, h₁₁, h₁₂, hstop, hrest⟩

/-- A single task without dependencies is its own order. -/
theorem topologicalOrder_singleton {task : CooTask} (h : task.dependencyIds = []) :
    topologicalOrder [task] = [task.id] := by
  simp [topologicalOrder, Sweep.start, Sweep.visit, dependentsOf, h, sortTexts, OrderedMap.set,
    OrderedMap.empty, setEntry]

namespace Sample

/-- Two stop conditions, each within the bound of a text, and joined beyond it. -/
def longStopConditions : List String :=
  [String.ofList (List.replicate 1100 'a'), String.ofList (List.replicate 1100 'b')]

/-- The company without event sinks. -/
abbrev silent : Governance Unit Unit := company none none

/-- Each of the two is accepted by the validation of the plan. -/
theorem longStopConditions_accepted :
    boundedDenseStrings longStopConditions "task.stopConditions" = .ok () := by
  have hne : String.ofList (List.replicate 1100 'a') ≠ String.ofList (List.replicate 1100 'b') := by
    intro h
    have hlist := String.ofList_injective h
    have hmem : 'a' ∈ List.replicate 1100 'b' := hlist ▸ List.mem_replicate.mpr ⟨by omega, rfl⟩
    exact absurd (List.eq_of_mem_replicate hmem) (by decide)
  rw [boundedDenseStrings_eq_ok, longStopConditions]
  refine ⟨⟨List.cons_ne_nil _ _, ?_⟩, ?_, ?_⟩
  · simp only [List.length_cons, List.length_nil]
    omega
  · simp only [List.mem_cons, List.not_mem_nil, or_false, forall_eq_or_imp, forall_eq]
    exact ⟨printableText_replicate (by omega) (by omega) (by decide) (by decide) (by decide),
      printableText_replicate (by omega) (by omega) (by decide) (by decide) (by decide)⟩
  · simp only [List.nodup_cons, List.mem_singleton, List.not_mem_nil, List.nodup_nil, not_false_iff,
      and_true]
    exact hne

/-- What is known of the plan with a short stop condition. -/
theorem shortPlan_checked :
    checkPlan silent .empty planner (plan "o" ["denied"]) = .ok ()
    ∧ ((createPlan silent planner (plan "o" ["denied"])).exec (reach silent () () [])).1.toOption.isSome = true
    ∧ ((reach silent () () [.createPlan planner (plan "o" ["denied"])]).coo.tasks.get? (key "w" "t")).map
        CooTaskState.status = some .READY
    ∧ key "w" "i" ∉ (reach silent () () [.createPlan planner (plan "o" ["denied"])]).coo.consumedAssignmentRequests
    ∧ utf16Length (joinedStopConditions (task "o" ["denied"])) ≤ 2048 := by
  decide +kernel

/-- The plan is accepted whatever printable stop conditions its task has. -/
theorem plan_checked {stopConditions : List String}
    (h : boundedDenseStrings stopConditions "task.stopConditions" = .ok ()) :
    checkPlan silent .empty planner (plan "o" stopConditions) = .ok () := by
  have hchecked := shortPlan_checked.1
  simp only [checkPlan, validatePlan, plan, validateTasks, check_bind_eq_ok] at hchecked ⊢
  -- Only the check of the task, and the order, see the stop conditions at all.
  obtain ⟨h₁, ⟨h₂, h₃, h₄, h₅, ⟨h₆, h₇, h₈, h₉, h₁₀, h₁₁, hvalid, h₁₂⟩, h₁₃, h₁₄, -⟩, h₁₅⟩ := hchecked
  refine ⟨h₁, ⟨h₂, h₃, h₄, h₅,
    ⟨h₆, h₇, h₈, h₉, h₁₀, h₁₁, validateTask_stopConditions hvalid h, h₁₂⟩, h₁₃, h₁₄, ?_⟩, h₁₅⟩
  simp [assertAcyclic, topologicalOrder_singleton, task]

/-- `createPlan` accepts the plan with a short stop condition. -/
theorem shortPlan_accepted : ∃ answer,
    (perform silent (.createPlan planner (plan "o" ["denied"])) (reach silent () () [])).1
      = .ok answer := by
  obtain ⟨report, hreport⟩ := Option.isSome_iff_exists.mp shortPlan_checked.2.1
  exact (exists_answer_iff silent planner _ _).mpr ⟨report, except_toOption_eq_some.mp hreport⟩

/-- `createPlan` accepts the plan with the long stop conditions. -/
theorem longPlan_accepted : ∃ answer,
    (perform silent (.createPlan planner (plan "o" longStopConditions)) (reach silent () () [])).1
      = .ok answer := by
  have hsome : Ensures (createPlan silent planner (plan "o" longStopConditions))
      (reach silent () () []) (fun r _ => r.toOption.isSome = true) := by
    unfold createPlan
    rw [ensures_readCoo_bind, ensures_lift_bind,
      show (reach silent () () []).coo = GovernedAiCoo.empty from rfl,
      plan_checked longStopConditions_accepted]
    refine ⟨fun e he => (by cases he), fun _ _ => ?_⟩
    -- Nothing after the checks of the plan looks at the stop conditions.
    unfold Ensures
    decide +kernel
  obtain ⟨report, hreport⟩ := Option.isSome_iff_exists.mp hsome
  exact (exists_answer_iff silent planner _ _).mpr ⟨report, except_toOption_eq_some.mp hreport⟩

/-- The joined stop conditions are longer than a text of the factory may be. -/
theorem longStopConditions_joined :
    2048 < utf16Length (joinedStopConditions (task "o" longStopConditions)) := by
  show 2048 < utf16Length (" AND ".intercalate longStopConditions)
  rw [longStopConditions, String.intercalate_cons_cons, String.intercalate_singleton]
  simp only [utf16Length_append, utf16Length_replicate (c := 'a') (by decide),
    utf16Length_replicate (c := 'b') (by decide)]
  omega

end Sample

/-- The sample plan with a short stop condition can be assigned. -/
theorem sample_plan_is_assignable : ∃ stored request,
    (reach Sample.silent () () [.createPlan Sample.planner
      (Sample.plan "o" ["denied"])]).coo.tasks.get? (key "w" "t") = some stored
    ∧ Admissible Sample.silent
      (reach Sample.silent () () [.createPlan Sample.planner (Sample.plan "o" ["denied"])])
      Sample.planner stored request := by
  obtain ⟨answer, accepted⟩ := Sample.shortPlan_accepted
  have h := accepted_plans_are_assignable_iff Sample.silent () () [] [] Sample.planner
    (Sample.plan "o" ["denied"]) answer accepted (Sample.task "o" ["denied"]) List.mem_cons_self
  rw [List.nil_append] at h
  obtain ⟨stored, hget, -, hassignable⟩ := h
  obtain ⟨-, -, hready, hfree, hlength⟩ := Sample.shortPlan_checked
  generalize reach Sample.silent () () [.createPlan Sample.planner
    (Sample.plan "o" ["denied"])] = w at hget hassignable hready hfree ⊢
  have hget' : w.coo.tasks.get? (key "w" "t") = some stored := hget
  rw [hget'] at hready
  have hlevel : (Sample.task "o" ["denied"]).requiredAuthority.val ≠ 4 := by decide
  obtain ⟨request, hrequest⟩ := (hassignable (Option.some.inj hready) hlevel Sample.planner
    (by decide) rfl).mpr ⟨hlength, "i", by decide, hfree⟩
  exact ⟨stored, request, hget', hrequest⟩

/-- An accepted plan with a ready task that no request can be assigned: its two stop conditions are
printable, and joined they are longer than the factory allows. -/
theorem long_stop_conditions_are_not_assignable :
    (∃ answer, (perform Sample.silent
      (.createPlan Sample.planner (Sample.plan "o" Sample.longStopConditions))
      (reach Sample.silent () () [])).1 = .ok answer) ∧
    ∃ stored, (reach Sample.silent () () [.createPlan Sample.planner
        (Sample.plan "o" Sample.longStopConditions)]).coo.tasks.get? (key "w" "t") = some stored
      ∧ stored.status = .READY ∧ stored.requiredAuthority.val ≠ 4
      ∧ ¬ ∃ context request, Admissible Sample.silent (reach Sample.silent () ()
          [.createPlan Sample.planner (Sample.plan "o" Sample.longStopConditions)])
          context stored request := by
  obtain ⟨answer, accepted⟩ := Sample.longPlan_accepted
  have hstored := (stored_of_accepted Sample.silent accepted).2
    (Sample.task "o" Sample.longStopConditions) List.mem_cons_self
  rw [List.nil_append] at hstored
  have hlong := Sample.longStopConditions_joined
  generalize Sample.longStopConditions = stopConditions at *
  refine ⟨⟨answer, accepted⟩, storedTask (Sample.task "o" stopConditions), hstored, rfl, ?_, ?_⟩
  · show (taskPolicies .repositoryReview).authorityLevel.val ≠ 4
    decide
  · rintro ⟨context, request, hadmissible⟩
    exact absurd hadmissible.bounded.1 (not_le.mpr hlong)

end VentureOS.Coo
