import VentureOS.ControlPlane.Starts

/-! # What every call of `adapter.start` was authorized by

Between the minting and the claim of a permit every grant, tool, capability, agent, connection and
usage record may be replaced. `#claimDispatch` therefore checks everything again, against the plane
at the moment of the claim. `Authorized` lists what holds in the very plane in which `adapter.start`
is called; the permit is compared as text, so the module also keeps track of the inputs being JSON
(`SafeInputs`), where equal texts are equal envelopes. -/

namespace VentureOS.ControlPlane

variable {σ : Type} {options : Options σ} {readings : Readings} {plane plane' : Plane} {call : Call}
  {outcome : Except Failure Answer}

/-! ## Inputs are JSON and amounts are not negative -/

/-- The inputs of tasks and of unclaimed permits are JSON. -/
structure SafeInputs (plane : Plane) : Prop where
  task : ∀ task ∈ plane.tasks, Json.SafeFields task.input
  permit : ∀ permitKey dispatch, plane.dispatches.get? permitKey = some dispatch →
    Json.SafeFields dispatch.envelope.input

/-- Deleting a permit keeps the inputs of the others. -/
theorem SafeInputs.delete (h : SafeInputs plane) (deleted : Key) :
    ∀ permitKey dispatch, (plane.dispatches.delete deleted).get? permitKey = some dispatch →
      Json.SafeFields dispatch.envelope.input := by
  intro permitKey dispatch hget
  rw [OrderedMap.get?_delete] at hget
  split at hget
  · cases hget
  · exact h.permit permitKey dispatch hget

variable {task : ControlPlaneTask}

/-- Writing a task with a JSON input keeps the inputs of tasks JSON. -/
theorem SafeInputs.put (h : SafeInputs plane)
    (htask : Json.SafeFields task.input) :
    ∀ task' ∈ plane.tasks.put task, Json.SafeFields task'.input := by
  intro task' htask'
  rcases Store.mem_put.mp htask' with rfl | ⟨hold, -⟩
  · exact htask
  · exact h.task task' hold

/-- Every effect keeps inputs JSON. -/
theorem SafeInputs.effect (h : SafeInputs plane)
    (he : Effect options readings plane call outcome plane') : SafeInputs plane' := by
  cases he with
  | createTask admitted => exact ⟨h.put (TaskAdmitted.of_ok admitted).input, h.permit⟩
  | transitionTask admitted legal =>
    have hfound := (TaskTransitionAdmitted.of_ok admitted).found
    have hinput := h.task _ (Store.mem_of_get? hfound)
    exact ⟨h.put hinput, h.permit⟩
  | @transitionRun context runId next run task now admitted =>
    have hinput := h.task _ (Store.mem_of_get? (RunTransitionAdmitted.of_ok admitted).task_found)
    refine ⟨?_, h.permit⟩
    show ∀ task' ∈ tasksAfter plane.tasks task _, _
    cases taskStatusAfter run.status next with
    | none => exact h.task
    | some status => exact h.put hinput
  | @mintDispatch context runId runKey dispatch admitted =>
    obtain ⟨-, task, hadmitted⟩ := DispatchAdmitted.of_ok admitted
    refine ⟨h.task, fun permitKey dispatch' hget => ?_⟩
    change (plane.dispatches.set _ _).get? permitKey = some dispatch' at hget
    rw [OrderedMap.get?_set] at hget
    split at hget
    · rw [Option.some.injEq] at hget
      rw [← hget, hadmitted.input]
      exact h.task task hadmitted.task_found
    · exact h.permit permitKey dispatch' hget
  | staleDispatch owned stale => exact ⟨h.task, h.delete _⟩
  | lostStart owned valid lost => exact ⟨h.task, h.delete _⟩
  | calledStart owned valid called => exact ⟨h.task, h.delete _⟩
  | _ => exact ⟨h.task, h.permit⟩

theorem SafeInputs.of_reachable (h : Reachable options plane) : SafeInputs plane := by
  refine h.induction ⟨fun task htask => ?_, fun _ _ hget => ?_⟩ fun _ hs he => hs.effect he
  · exact absurd htask (Store.not_mem_empty task)
  · cases hget

/-- The recorded amounts are not negative. -/
def NonnegativeUsage (usage : Store Key UsageRecord) : Prop :=
  ∀ record ∈ usage, 0 ≤ record.costMinorUnits.getD 0 ∧ 0 ≤ record.computeUnits.getD 0

/-- Every effect keeps recorded amounts non-negative. -/
theorem NonnegativeUsage.effect (h : NonnegativeUsage plane.usage)
    (he : Effect options readings plane call outcome plane') : NonnegativeUsage plane'.usage := by
  cases he with
  | recordUsage admitted =>
    have hadmitted := UsageAdmitted.of_ok admitted
    intro record hrecord
    rcases Store.mem_put.mp hrecord with rfl | ⟨hold, -⟩
    · exact ⟨hadmitted.cost, hadmitted.compute⟩
    · exact h record hold
  | _ => exact h

theorem NonnegativeUsage.of_reachable (h : Reachable options plane) :
    NonnegativeUsage plane.usage :=
  h.induction (P := fun plane => NonnegativeUsage plane.usage)
    (fun record hrecord => absurd hrecord (Store.not_mem_empty record)) fun _ hn he => hn.effect he

/-! ## Policy -/

/-- The grant is not expired. -/
def Unexpired (options : Options σ) (now : Int) (expiresAt : Option String) : Prop :=
  isExpired options.dateParse expiresAt now = .ok false

/-- The grant gives the agent the authority the task needs. -/
structure CoversTask (options : Options σ) (now : Int) (task : ControlPlaneTask)
    (grant : AuthorityGrant) : Prop where
  workspace : grant.workspaceId = task.workspaceId
  agent : grant.agentId = task.assignedAgentId
  level : task.requiredAuthorityLevel ≤ grant.level
  kind : task.kind ∈ grant.actionClasses
  unexpired : Unexpired options now grant.expiresAt
  currency : grant.costLimit.currency = task.costLimit.currency
  cost : task.costLimit.maximumMinorUnits ≤ grant.costLimit.maximumMinorUnits
  compute : task.costLimit.maximumComputeUnits ≤ grant.costLimit.maximumComputeUnits

variable {now : Int}

/-- A grant that applies covers the task. -/
theorem CoversTask.of_ok {grant : AuthorityGrant}
    (h : authorityGrantApplies options now task grant = .ok true) :
    CoversTask options now task grant := by
  unfold authorityGrantApplies at h
  split at h
  · rename_i hgrant
    obtain ⟨hws, hagent, hlevel, hkind⟩ := hgrant
    simp only [except_bind_eq_ok, except_pure_eq_ok, decide_eq_true_eq] at h
    obtain ⟨expired, hexpired, rfl, hcurrency, hcost, hcompute⟩ := h
    exact ⟨hws, hagent, hlevel, hkind, hexpired, hcurrency, hcost, hcompute⟩
  · cases h

/-- The grant that `#requireApplicableAuthorityGrant` picks is stored and covers the task. -/
theorem coversTask_of_required {grant : AuthorityGrant}
    (h : requireApplicableAuthorityGrant options now plane task = .ok grant) :
    grant ∈ plane.authorityGrants ∧ CoversTask options now task grant := by
  unfold requireApplicableAuthorityGrant at h
  obtain ⟨candidates, hcandidates, h⟩ := except_bind_eq_ok.mp h
  split at h
  · rename_i first rest hsorted
    obtain rfl := except_pure_eq_ok.mp h
    -- Sorting the candidates does not change which grants they are.
    have hmem : first ∈ candidates := by
      rw [← List.mem_insertionSort (fun left right : AuthorityGrant => left.level ≤ right.level), hsorted]
      exact List.mem_cons_self
    obtain ⟨hstored, happlies⟩ := mem_of_filterThrowing hcandidates first hmem
    exact ⟨Store.mem_values.mp hstored, CoversTask.of_ok happlies⟩
  · cases h

/-- What `#validateCurrentTaskPolicy` has checked. -/
structure PolicyHolds (options : Options σ) (now : Int) (plane : Plane) (context : WorkspaceContext)
    (task : ControlPlaneTask) (requirements : TaskRequirements) (agent : Agent)
    (authority : AuthorityGrant) : Prop where
  input : Json.SafeFields task.input
  cost_safe : task.costLimit.maximumMinorUnits ≤ maxSafeInteger
  compute_safe : task.costLimit.maximumComputeUnits ≤ maxSafeInteger
  agent_found : plane.agents.get? (key context.workspaceId task.assignedAgentId) = some agent
  derived : deriveTaskRequirements plane task = .ok requirements
  capability_ids : ∀ id, id ∈ task.requiredCapabilityIds ↔ id ∈ requirements.capabilityIds
  tool_ids : ∀ id, id ∈ task.requiredToolIds ↔ id ∈ requirements.tools.map ResolvedTool.id
  level : task.requiredAuthorityLevel = requirements.authorityLevel
  ceiling : task.requiredAuthorityLevel ≤ agent.authorityLevel
  capabilities : ∀ id ∈ requirements.capabilityIds, ∃ grant ∈ plane.agentCapabilities,
    grant.workspaceId = task.workspaceId ∧ grant.agentId = agent.id ∧ grant.capabilityId = id
  tools : ∀ tool ∈ requirements.tools, ∃ grant ∈ plane.toolGrants,
    grant.workspaceId = task.workspaceId ∧ grant.agentId = agent.id ∧ grant.toolId = tool.id ∧
      tool.scope ∈ grant.scopes ∧ Unexpired options now grant.expiresAt
  authority_stored : authority ∈ plane.authorityGrants
  authority_covers : CoversTask options now task authority

/-- A tool grant that applies gives the scope and is not expired. -/
theorem toolGrant_of_applies {agent : Agent} {tool : ResolvedTool} {grant : ToolGrant}
    (h : toolGrantApplies options now task agent tool grant = .ok true) :
    grant.workspaceId = task.workspaceId ∧ grant.agentId = agent.id ∧ grant.toolId = tool.id ∧
      tool.scope ∈ grant.scopes ∧ Unexpired options now grant.expiresAt := by
  unfold toolGrantApplies at h
  split at h
  · rename_i hgrant
    obtain ⟨hws, hagent, htool, hscope⟩ := hgrant
    simp only [except_bind_eq_ok, except_pure_eq_ok, Bool.not_eq_true'] at h
    obtain ⟨expired, hexpired, rfl⟩ := h
    exact ⟨hws, hagent, htool, hscope, hexpired⟩
  · cases h

variable {context : WorkspaceContext}

theorem PolicyHolds.of_ok {agent : Agent} {authority : AuthorityGrant}
    (h : validateCurrentTaskPolicy options now plane context task = .ok (agent, authority)) :
    ∃ requirements, PolicyHolds options now plane context task requirements agent authority := by
  simp only [validateCurrentTaskPolicy, except_bind_eq_ok, except_pure_eq_ok, throwIf_eq_ok,
    requireRecord_eq_ok, forM_eq_ok, not_or, not_lt, not_not, ne_eq, Bool.not_eq_false,
    exists_const] at h
  obtain ⟨_, hinput, _, hlimit, agent', hagent, requirements, hderived, ⟨hcaps, htools, hlevel⟩,
    hceiling, hcapabilities, hgrants, authority', hauthority, hpair⟩ := h
  obtain ⟨rfl, rfl⟩ := Prod.mk.inj hpair
  simp only [assertCostLimit, except_bind_eq_ok] at hlimit
  obtain ⟨_, -, _, hminor, hcompute⟩ := hlimit
  obtain ⟨hstored, hcovers⟩ := coversTask_of_required hauthority
  refine ⟨requirements, safeFields_of_assertTaskInput hinput,
    (bounds_of_assertNonNegativeInteger hminor).2, (bounds_of_assertNonNegativeInteger hcompute).2,
    hagent, hderived, mem_iff_of_sameIds hcaps, mem_iff_of_sameIds htools, hlevel, hceiling,
    fun id hid => ?_, fun tool htool => ?_, hstored, hcovers⟩
  · obtain ⟨_, -, hany⟩ := hcapabilities id hid
    obtain ⟨grant, hgrant, hfacts⟩ := List.any_eq_true.mp hany
    exact ⟨grant, Store.mem_values.mp hgrant, of_decide_eq_true hfacts⟩
  · obtain ⟨granted, hsome, rfl⟩ := hgrants tool htool
    obtain ⟨grant, hgrant, happlies⟩ := exists_of_someThrowing hsome
    exact ⟨grant, Store.mem_values.mp hgrant, toolGrant_of_applies happlies⟩

/-! ## Authorization -/

/-- **What authorizes a call of `adapter.start`,** read off the plane in which the call is made. -/
structure Authorized (options : Options σ) (now : Int) (plane : Plane) (frame : PendingStart)
    (run : AgentRun) (task : ControlPlaneTask) (agent : Agent) (connection : RuntimeConnection)
    (authority : AuthorityGrant) (requirements : TaskRequirements) : Prop where
  run_found : plane.runs.get? frame.runKey = some run
  queued : run.status = .QUEUED
  task_found : plane.tasks.get? (key run.workspaceId run.taskId) = some task
  ready : task.status = .READY
  assigned : task.assignedAgentId = run.agentId
  connection_found :
    plane.connections.get? (key run.workspaceId run.runtimeConnectionId) = some connection
  principal : connection.authenticatedPrincipalId = some frame.context.principalId
  runtime : connection.runtimeId = agent.runtimeId
  envelope : frame.dispatch.envelope = envelopeFor run task requirements
  policy : PolicyHolds options now plane frame.context task requirements agent authority
  cost : ((usageOf plane task.workspaceId task.id).map fun record =>
    record.costMinorUnits.getD 0).sum < task.costLimit.maximumMinorUnits
  compute : ((usageOf plane task.workspaceId task.id).map fun record =>
    record.computeUnits.getD 0).sum < task.costLimit.maximumComputeUnits
  concurrency : (activeRunsOf plane run.workspaceId agent.id : Int)
    ≤ min agent.maxConcurrentRuns authority.maxConcurrentRuns
  connected : deriveConnectionStatus options now plane frame.context connection.id = .ok .CONNECTED
    ∨ (deriveConnectionStatus options now plane frame.context connection.id = .ok .PARTIAL
      ∧ BootstrapRoundTrip connection task .PARTIAL)

/-- A task with remaining budget has spent less than both limits, in exact arithmetic. -/
theorem spent_lt_of_remaining (hreach : Reachable options plane)
    (hcost : task.costLimit.maximumMinorUnits ≤ maxSafeInteger)
    (hcompute : task.costLimit.maximumComputeUnits ≤ maxSafeInteger)
    (h : assertRemainingTaskBudget plane task = .ok ()) :
    ((usageOf plane task.workspaceId task.id).map fun record =>
        record.costMinorUnits.getD 0).sum < task.costLimit.maximumMinorUnits ∧
      ((usageOf plane task.workspaceId task.id).map fun record =>
        record.computeUnits.getD 0).sum < task.costLimit.maximumComputeUnits := by
  rw [assertRemainingTaskBudget, throwIf_eq_ok, not_or, not_le, not_le] at h
  have hstored : ∀ record ∈ usageOf plane task.workspaceId task.id, record ∈ plane.usage :=
    fun record hrecord => Store.mem_values.mp (List.mem_filter.mp hrecord).1
  have hnonneg := NonnegativeUsage.of_reachable hreach
  -- The source sums in double precision, which is exact below a safe limit.
  refine ⟨sum_lt_of_foldl_addDouble_lt ?_ hcost h.1, sum_lt_of_foldl_addDouble_lt ?_ hcompute h.2⟩
  · intro n hn
    obtain ⟨record, hrecord, rfl⟩ := List.mem_map.mp hn
    exact (hnonneg record (hstored record hrecord)).1
  · intro n hn
    obtain ⟨record, hrecord, rfl⟩ := List.mem_map.mp hn
    exact (hnonneg record (hstored record hrecord)).2

/-- A connection that may run the task is connected or bootstraps a health check. -/
theorem connected_of_canRunTask {connection : RuntimeConnection}
    (h : assertConnectionCanRunTask options now plane context connection task = .ok ()) :
    deriveConnectionStatus options now plane context connection.id = .ok .CONNECTED
      ∨ (deriveConnectionStatus options now plane context connection.id = .ok .PARTIAL
        ∧ BootstrapRoundTrip connection task .PARTIAL) := by
  simp only [assertConnectionCanRunTask, except_bind_eq_ok, throwIf_eq_ok, not_and, not_not, ne_eq, exists_const] at h
  obtain ⟨status, hstatus, hallowed, -⟩ := h
  by_cases hconnected : status = .CONNECTED
  · exact .inl (hconnected ▸ hstatus)
  · have hbootstrap := hallowed hconnected
    obtain rfl : status = .PARTIAL := hbootstrap.2.1
    exact .inr ⟨hstatus, hbootstrap⟩

/-- A valid claim authorizes the call it leads to. -/
theorem Authorized.of_valid (hreach : Reachable options plane)
    {dispatch stored : RuntimeDispatchPermit} {frame : PendingStart}
    (howned : ownedDispatch plane context dispatch = .ok stored)
    (hvalid : revalidateDispatch options readings plane context stored = .ok ())
    (hcalled : StartCalled plane context stored frame) :
    ∃ run task agent connection authority requirements,
      Authorized options readings.now plane frame run task agent connection authority
        requirements := by
  have hsafe := (SafeInputs.of_reachable hreach).permit _ _ (stored_of_ownedDispatch howned).1
  simp only [revalidateDispatch, except_bind_eq_ok, throwIf_eq_ok, requireRecord_eq_ok, ne_eq,
    not_or, not_not, not_lt, exists_const] at hvalid
  obtain ⟨run, hrun, task, htask, connection, hconnection,
    ⟨hqueued, hready, htid, hcid, -, -, hprincipal⟩, requirements, hderived, htext,
    ⟨agent, authority⟩, hpolicy, ⟨hagent, hruntime⟩, _, hcan, _, hbudget, hconcurrency⟩ := hvalid
  obtain ⟨requirements', hfacts⟩ := PolicyHolds.of_ok hpolicy
  -- The requirements are derived twice, from the same plane.
  have hreq : requirements' = requirements := by
    have := hfacts.derived
    rw [hderived, Except.ok.injEq] at this
    exact this.symm
  subst hreq
  have hws : run.workspaceId = context.workspaceId := (key_inj.mp (Store.keyOf_of_get? hrun)).1
  have htaskId : task.id = stored.envelope.taskId := (key_inj.mp (Store.keyOf_of_get? htask)).2
  have hconnId : connection.id = stored.connectionId :=
    (key_inj.mp (Store.keyOf_of_get? hconnection)).2
  have hagentId : agent.id = task.assignedAgentId :=
    (key_inj.mp (Store.keyOf_of_get? hfacts.agent_found)).2
  obtain ⟨hcost, hcompute⟩ :=
    spent_lt_of_remaining hreach hfacts.cost_safe hfacts.compute_safe hbudget
  refine ⟨run, task, agent, connection, authority, requirements', ?_, hqueued, ?_, hready, ?_, ?_,
    ?_, hruntime, ?_, ?_, hcost, hcompute, hconcurrency, ?_⟩
  · rw [hcalled.runKey_eq]; exact hrun
  · rw [hws, htid, htaskId]; exact htask
  · rw [hagent, hagentId]
  · rw [hws, hcid, hconnId]; exact hconnection
  · rw [hcalled.context_eq]; exact hprincipal.symm
  · rw [hcalled.dispatch_eq]
    -- The source compares texts; on JSON inputs equal texts are equal envelopes.
    exact RuntimeTaskEnvelope.eq_of_text_eq hsafe hfacts.input htext
  · rw [hcalled.context_eq]; exact hfacts
  · rw [hcalled.context_eq]; exact connected_of_canRunTask hcan

/-- Claiming a permit and suspending the call change nothing the authorization rests on. -/
theorem Authorized.claimed {frame : PendingStart} {run : AgentRun}
    {agent : Agent} {connection : RuntimeConnection}
    {authority : AuthorityGrant} {requirements : TaskRequirements}
    (h : Authorized options now plane frame run task agent connection authority requirements)
    (permitKey runKey : Key) (registrationId : EntityId) (frame' : PendingStart) :
    Authorized options now ((plane.claimDispatch permitKey runKey registrationId).awaitStart frame')
      frame run task agent connection authority requirements :=
  { h with policy := { h.policy with } }

/-- **Dispatch authorization.** Whenever `adapter.start` is called, then in the very state of the
call the run is queued, its task is ready and assigned to the run's agent, the caller is the
connection's principal, the envelope is the one derived now from the task and its policy, the agent
holds the capabilities and unexpired tool grants, an unexpired authority grant covers the task, what
the task has spent is below both limits, the agent is within its concurrency, and the connection is
connected or bootstraps a health check. -/
theorem start_is_authorized (options : Options σ) (sink : σ) (labels : List Label) (l : Label)
    (number : Nat) (frame : PendingStart)
    (hcalled : (perform options l (reach options sink labels)).1 = .ok (.startCalled number frame)) :
    ∃ run task agent connection authority requirements,
      Authorized options l.readings.now (perform options l (reach options sink labels)).2.plane
        frame run task agent connection authority requirements := by
  have he := perform_effect options l (reach options sink labels)
  rw [hcalled] at he
  obtain ⟨context, dispatch, stored, -, howned, hvalid, hstart, -, hplane⟩ := he.of_startCalled
  obtain ⟨run, task, agent, connection, authority, requirements, hauthorized⟩ :=
    Authorized.of_valid (reachable_reach options sink labels) howned hvalid
      { hstart with registered := hstart.registered }
  refine ⟨run, task, agent, connection, authority, requirements, ?_⟩
  rw [hplane]
  exact hauthorized.claimed _ _ _ _

/-- The health check of the sample run is started under authorization. -/
theorem sample_start_is_authorized : ∃ number frame,
    (perform Sample.options Sample.execute (reach Sample.options () Sample.setup)).1
      = .ok (.startCalled number frame) ∧ frame.runKey = key "w" "u" ∧
    ∃ run task agent connection authority requirements,
      Authorized Sample.options Sample.execute.readings.now
        (perform Sample.options Sample.execute (reach Sample.options () Sample.setup)).2.plane
        frame run task agent connection authority requirements := by
  have hstarted : startedRun (entryAt (perform Sample.options)
      (reach Sample.options () Sample.setup) Sample.execute) = some (key "w" "u") := by
    decide +kernel
  obtain ⟨number, frame, hcalled, hkey⟩ := startCalled_of_startedRun hstarted
  exact ⟨number, frame, hcalled, hkey,
    start_is_authorized Sample.options () Sample.setup Sample.execute number frame hcalled⟩

end VentureOS.ControlPlane
