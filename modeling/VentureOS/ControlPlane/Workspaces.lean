import VentureOS.Foundations.Coupling
import VentureOS.ControlPlane.Admission

/-! # The records of one workspace

All workspaces share the maps of the control plane, and every check reads these shared maps.
`plane.within w` keeps the records of the workspace `w`, in their order, and drops everything else.
Each query and each check of a call made in `w` gives the same result on the plane and on
`plane.within w`: look-ups build their keys from the caller's workspace, and scans compare the
workspace of a record before anything else. The one exception is the scan of `registerRuntimeAdapter`
for in-flight dispatches, which compares registration identifiers only. -/

namespace VentureOS.ControlPlane

/-! ## Restriction -/

/-- The key belongs to the workspace. -/
def inWorkspace (workspaceId : EntityId) (k : Key) : Bool := decide (k.1 = workspaceId)

@[simp] theorem inWorkspace_key (workspaceId workspaceId' id : EntityId) :
    inWorkspace workspaceId (key workspaceId' id) = decide (workspaceId' = workspaceId) := rfl

/-- The records of one workspace. The suspended calls are not records: they are `startsOf` and
`cancellationsOf`. -/
@[simps] def Plane.within (plane : Plane) (workspaceId : EntityId) : Plane where
  runtimes := plane.runtimes.restrict (inWorkspace workspaceId)
  runtimeAdapters := plane.runtimeAdapters.restrict (inWorkspace workspaceId)
  agents := plane.agents.restrict (inWorkspace workspaceId)
  capabilities := plane.capabilities.restrict (inWorkspace workspaceId)
  agentCapabilities := plane.agentCapabilities.restrict (inWorkspace workspaceId)
  tools := plane.tools.restrict (inWorkspace workspaceId)
  toolGrants := plane.toolGrants.restrict (inWorkspace workspaceId)
  authorityGrants := plane.authorityGrants.restrict (inWorkspace workspaceId)
  connections := plane.connections.restrict (inWorkspace workspaceId)
  heartbeats := plane.heartbeats.restrict (inWorkspace workspaceId)
  tasks := plane.tasks.restrict (inWorkspace workspaceId)
  runs := plane.runs.restrict (inWorkspace workspaceId)
  eventsById := plane.eventsById.restrict (inWorkspace workspaceId)
  eventIdempotency := plane.eventIdempotency.restrict (inWorkspace workspaceId)
  usage := plane.usage.restrict (inWorkspace workspaceId)
  dispatches := plane.dispatches.restrict (inWorkspace workspaceId)
  cancellations := plane.cancellations.restrict (inWorkspace workspaceId)
  dispatchedRuns := plane.dispatchedRuns.filter fun k => inWorkspace workspaceId k = true
  claimedDispatchRuns := plane.claimedDispatchRuns.filter fun k => inWorkspace workspaceId k = true
  inFlightDispatchAdapters := plane.inFlightDispatchAdapters.restrict (inWorkspace workspaceId)
  cancelledRuns := plane.cancelledRuns.filter fun k => inWorkspace workspaceId k = true
  successfulCancellations :=
    plane.successfulCancellations.filter fun k => inWorkspace workspaceId k = true
  pendingStarts := .empty
  pendingCancellations := .empty
  adapterCalls := 0

/-- The suspended calls made in a workspace, with their numbers. -/
def callsOf {F : Type} (workspaceOf : F → EntityId) (calls : OrderedMap Nat F)
    (workspaceId : EntityId) : List (Nat × F) :=
  calls.entries.filter fun e => decide (workspaceOf e.2 = workspaceId)

/-- The suspended calls of `executeDispatch` made in a workspace. -/
abbrev Plane.startsOf (plane : Plane) (workspaceId : EntityId) : List (Nat × PendingStart) :=
  callsOf (fun frame => frame.context.workspaceId) plane.pendingStarts workspaceId

/-- The suspended calls of `executeCancellation` made in a workspace. -/
abbrev Plane.cancellationsOf (plane : Plane) (workspaceId : EntityId) :
    List (Nat × PendingCancellation) :=
  callsOf (fun frame => frame.context.workspaceId) plane.pendingCancellations workspaceId

variable {σ : Type} (options : Options σ) (readings : Readings) (now : Int) (plane : Plane)
  {context : WorkspaceContext}

section Lookups

variable {V : Type} [HasKey Key V] (records : Store Key V) (workspaceId id : EntityId)

@[simp] theorem get?_restrict_key :
    (records.restrict (inWorkspace workspaceId)).get? (key workspaceId id)
      = records.get? (key workspaceId id) := by
  simp

@[simp] theorem has_restrict_key :
    (records.restrict (inWorkspace workspaceId)).has (key workspaceId id)
      = records.has (key workspaceId id) :=
  congrArg Option.isSome (get?_restrict_key records workspaceId id)

@[simp] theorem map_get?_restrict_key {V : Type} (map : OrderedMap Key V) :
    (map.restrict (inWorkspace workspaceId)).get? (key workspaceId id)
      = map.get? (key workspaceId id) := by
  simp

@[simp] theorem map_has_restrict_key {V : Type} (map : OrderedMap Key V) :
    (map.restrict (inWorkspace workspaceId)).has (key workspaceId id)
      = map.has (key workspaceId id) :=
  congrArg Option.isSome (map_get?_restrict_key workspaceId id map)

@[simp] theorem key_mem_filter (marks : Finset Key) :
    key workspaceId id ∈ marks.filter (fun k => inWorkspace workspaceId k = true)
      ↔ key workspaceId id ∈ marks := by
  simp

/-- Requiring a record looks into the caller's workspace. -/
@[simp] theorem requireRecord_restrict (label : String) :
    requireRecord (records.restrict (inWorkspace context.workspaceId)) context id label
      = requireRecord records context id label := by
  unfold requireRecord
  rw [get?_restrict_key]

/-- A scan that compares the workspace reads the records of that workspace. -/
theorem filter_values_restrict {q : V → Bool}
    (hq : ∀ v, q v = true → inWorkspace workspaceId (keyOf v) = true) :
    (records.restrict (inWorkspace workspaceId)).values.filter q = records.values.filter q := by
  rw [Store.values_restrict, List.filter_filter]
  refine List.filter_congr fun v _ => ?_
  by_cases hv : q v = true
  · simp [hv, hq v hv]
  · simp [hv]

/-- A search that compares the workspace searches the records of that workspace. -/
theorem any_values_restrict {q : V → Bool}
    (hq : ∀ v, q v = true → inWorkspace workspaceId (keyOf v) = true) :
    (records.restrict (inWorkspace workspaceId)).values.any q = records.values.any q := by
  rw [Bool.eq_iff_iff, List.any_eq_true, List.any_eq_true, Store.values_restrict]
  constructor
  · rintro ⟨v, hv, hqv⟩
    exact ⟨v, (List.mem_filter.mp hv).1, hqv⟩
  · rintro ⟨v, hv, hqv⟩
    exact ⟨v, List.mem_filter.mpr ⟨hv, hq v hqv⟩, hqv⟩

end Lookups

/-! ## Queries -/

/-- A scan for active runs of the workspace. -/
theorem anyActiveRun_within {workspaceId : EntityId} {p p' : AgentRun → Prop} [DecidablePred p]
    [DecidablePred p'] (hp : ∀ run, p' run → run.workspaceId = workspaceId)
    (hiff : ∀ run, run.workspaceId = workspaceId → (p run ↔ p' run)) :
    anyActiveRun (plane.within workspaceId) p = anyActiveRun plane p' := by
  have hscan : anyActiveRun (plane.within workspaceId) p'  = anyActiveRun plane p' := by
    refine any_values_restrict plane.runs workspaceId fun run hrun => ?_
    exact decide_eq_true (hp run (of_decide_eq_true hrun).1)
  rw [← hscan, anyActiveRun, anyActiveRun, Bool.eq_iff_iff, List.any_eq_true, List.any_eq_true]
  have hws : ∀ run ∈ (plane.within workspaceId).runs.values, run.workspaceId = workspaceId := by
    intro run hrun
    rw [Plane.within, Store.values_restrict] at hrun
    exact of_decide_eq_true (List.mem_filter.mp hrun).2
  refine exists_congr fun run => and_congr_right fun hrun => ?_
  rw [decide_eq_true_eq, decide_eq_true_eq, hiff run (hws run hrun)]

theorem activeRunsOf_within (workspaceId agentId : EntityId) :
    activeRunsOf (plane.within workspaceId) workspaceId agentId
      = activeRunsOf plane workspaceId agentId := by
  unfold activeRunsOf
  refine congrArg List.length (filter_values_restrict plane.runs workspaceId fun run hrun => ?_)
  exact decide_eq_true (of_decide_eq_true hrun).1

theorem usageOf_within (workspaceId taskId : EntityId) :
    usageOf (plane.within workspaceId) workspaceId taskId = usageOf plane workspaceId taskId := by
  refine filter_values_restrict plane.usage workspaceId fun record hrecord => ?_
  exact decide_eq_true (of_decide_eq_true hrecord).1

theorem priorSequence_within (workspaceId connectionId : EntityId) :
    priorSequence (plane.within workspaceId) workspaceId connectionId
      = priorSequence plane workspaceId connectionId := by
  unfold priorSequence
  refine congrArg (fun l : List Heartbeat => (l.map Heartbeat.sequence).foldl max (-1))
    (filter_values_restrict plane.heartbeats workspaceId fun heartbeat hheartbeat => ?_)
  exact decide_eq_true (of_decide_eq_true hheartbeat).1

/-- The workspace of a record found for the caller is the caller's. -/
theorem workspace_of_get? {V : Type} [HasKey Key V] {records : Store Key V} {record : V}
    {workspaceId id : EntityId} (h : records.get? (key workspaceId id) = some record) :
    (keyOf record).1 = workspaceId := by
  rw [Store.keyOf_of_get? h, key]

/-- The status of a connection rests on records of its workspace. -/
theorem deriveConnectionStatus_within (connectionId : EntityId) :
    deriveConnectionStatus options now (plane.within context.workspaceId) context connectionId
      = deriveConnectionStatus options now plane context connectionId := by
  unfold deriveConnectionStatus
  refine except_bind_congr (requireRecord_restrict _ _ _) fun connection hconnection => ?_
  have hfound : plane.connections.get? (key context.workspaceId connectionId) = some connection := by
    simpa [Plane.within] using hconnection
  have hws : connection.workspaceId = context.workspaceId := workspace_of_get? hfound
  simp only [Plane.within, hws, get?_restrict_key]

theorem assertTaskOperator_within {task : ControlPlaneTask}
    (hws : task.workspaceId = context.workspaceId) :
    assertTaskOperator options now (plane.within context.workspaceId) context task
      = assertTaskOperator options now plane context task := by
  unfold assertTaskOperator
  split
  · rfl
  · refine except_bind_congr (requireRecord_restrict _ _ _) fun agent _ => ?_
    refine except_bind_congr ?_ fun _ _ => rfl
    simp only [deriveConnectionStatus_within]
    show someThrowing _ (plane.connections.restrict (inWorkspace context.workspaceId)).values = _
    rw [Store.values_restrict]
    refine someThrowing_filter (fun connection hother => ?_) _
    -- A connection of another workspace fails the first test.
    have hne : ¬ connection.workspaceId = task.workspaceId := by
      rw [hws]
      exact of_decide_eq_false hother
    rw [if_neg fun h => hne h.1]

/-! ## Task policy -/

/-- Names are resolved among the records of the task's workspace. -/
theorem deriveTaskRequirements_within (task : ControlPlaneTask) :
    deriveTaskRequirements (plane.within task.workspaceId) task
      = deriveTaskRequirements plane task := by
  have hcapabilities : ∀ name : String,
      (plane.within task.workspaceId).capabilities.values.filter (fun record =>
        decide (record.workspaceId = task.workspaceId ∧ record.name = name))
      = plane.capabilities.values.filter (fun record =>
        decide (record.workspaceId = task.workspaceId ∧ record.name = name)) := fun name =>
    filter_values_restrict plane.capabilities task.workspaceId fun record hrecord =>
      decide_eq_true (of_decide_eq_true hrecord).1
  have htools : ∀ name : String,
      (plane.within task.workspaceId).tools.values.filter (fun record =>
        decide (record.workspaceId = task.workspaceId ∧ record.name = name))
      = plane.tools.values.filter (fun record =>
        decide (record.workspaceId = task.workspaceId ∧ record.name = name)) := fun name =>
    filter_values_restrict plane.tools task.workspaceId fun record hrecord =>
      decide_eq_true (of_decide_eq_true hrecord).1
  unfold deriveTaskRequirements
  simp only [hcapabilities, htools]

theorem requireApplicableAuthorityGrant_within (task : ControlPlaneTask) :
    requireApplicableAuthorityGrant options now (plane.within task.workspaceId) task
      = requireApplicableAuthorityGrant options now plane task := by
  unfold requireApplicableAuthorityGrant
  refine except_bind_congr ?_ fun _ _ => rfl
  show filterThrowing _ (plane.authorityGrants.restrict (inWorkspace task.workspaceId)).values = _
  rw [Store.values_restrict]
  refine filterThrowing_filter (fun grant hother => ?_) _
  have hne : ¬ grant.workspaceId = task.workspaceId := of_decide_eq_false hother
  rw [authorityGrantApplies, if_neg fun h => hne h.1]

theorem someThrowing_toolGrants_within (task : ControlPlaneTask) (agent : Agent)
    (tool : ResolvedTool) :
    someThrowing (toolGrantApplies options now task agent tool)
        (plane.within task.workspaceId).toolGrants.values
      = someThrowing (toolGrantApplies options now task agent tool) plane.toolGrants.values := by
  show someThrowing _ (plane.toolGrants.restrict (inWorkspace task.workspaceId)).values = _
  rw [Store.values_restrict]
  refine someThrowing_filter (fun grant hother => ?_) _
  have hne : ¬ grant.workspaceId = task.workspaceId := of_decide_eq_false hother
  rw [toolGrantApplies, if_neg fun h => hne h.1]

theorem validateCurrentTaskPolicy_within {task : ControlPlaneTask}
    (hws : task.workspaceId = context.workspaceId) :
    validateCurrentTaskPolicy options now (plane.within context.workspaceId) context task
      = validateCurrentTaskPolicy options now plane context task := by
  unfold validateCurrentTaskPolicy
  refine except_bind_congr rfl fun _ _ => except_bind_congr rfl fun _ _ => ?_
  refine except_bind_congr (requireRecord_restrict _ _ _) fun agent _ => ?_
  rw [← hws, deriveTaskRequirements_within]
  refine except_bind_congr rfl fun requirements _ => except_bind_congr rfl fun _ _ => ?_
  refine except_bind_congr rfl fun _ _ => ?_
  refine except_bind_congr ?_ fun _ _ => except_bind_congr ?_ fun _ _ => ?_
  · refine forM_congr fun capabilityId _ => ?_
    rw [hws]
    refine except_bind_congr (requireRecord_restrict _ _ _) fun _ _ => ?_
    have hgrants := any_values_restrict plane.agentCapabilities context.workspaceId
      (q := fun grant => decide (grant.workspaceId = context.workspaceId
        ∧ grant.agentId = agent.id ∧ grant.capabilityId = capabilityId))
      fun grant hgrant => decide_eq_true (of_decide_eq_true hgrant).1
    show throwIf ((plane.agentCapabilities.restrict (inWorkspace context.workspaceId)).values.any _ = false) _ = _
    rw [hgrants]
  · refine forM_congr fun tool _ => ?_
    rw [someThrowing_toolGrants_within]
  · rw [requireApplicableAuthorityGrant_within]

theorem assertConnectionCanRunTask_within (connection : RuntimeConnection)
    (task : ControlPlaneTask) :
    assertConnectionCanRunTask options now (plane.within context.workspaceId) context connection task
      = assertConnectionCanRunTask options now plane context connection task := by
  unfold assertConnectionCanRunTask
  rw [deriveConnectionStatus_within]

theorem assertRemainingTaskBudget_within (task : ControlPlaneTask) :
    assertRemainingTaskBudget (plane.within task.workspaceId) task
      = assertRemainingTaskBudget plane task := by
  unfold assertRemainingTaskBudget
  rw [usageOf_within]

/-! ## Connection proofs -/

theorem validateConnectionProofs_within (connection : RuntimeConnection) :
    validateConnectionProofs options (plane.within context.workspaceId) context connection
      = validateConnectionProofs options plane context connection := by
  have hexchange : validateCapabilityExchangeProof options (plane.within context.workspaceId)
      context connection = validateCapabilityExchangeProof options plane context connection := by
    funext proof
    simp only [validateCapabilityExchangeProof, Plane.within_capabilities, requireRecord_restrict]
  have hheartbeat : validateHeartbeatProof (plane.within context.workspaceId) context connection
      = validateHeartbeatProof plane context connection := by
    funext proof
    simp only [validateHeartbeatProof, Plane.within_heartbeats, requireRecord_restrict]
  have hroundTrip : validateTaskRoundTripProof options (plane.within context.workspaceId) context
      connection = validateTaskRoundTripProof options plane context connection := by
    funext proof
    simp only [validateTaskRoundTripProof, Plane.within_tasks, Plane.within_runs,
      Plane.within_agents, Plane.within_eventsById, requireRecord_restrict]
  unfold validateConnectionProofs
  rw [hexchange, hheartbeat, hroundTrip]

/-! ## Checks of the operations -/

/-- A check that finds its record in the caller's workspace goes on with the same record. -/
theorem requireRecord_bind_within {V α : Type} [HasKey Key V] {records : Store Key V} {id : EntityId}
    {label : String} {f g : V → Except Failure α}
    (h : ∀ record, records.get? (key context.workspaceId id) = some record → f record = g record) :
    requireRecord (records.restrict (inWorkspace context.workspaceId)) context id label >>= f
      = requireRecord records context id label >>= g :=
  except_bind_congr (requireRecord_restrict records id label) fun record hrecord => by
    rw [requireRecord_restrict, requireRecord_eq_ok] at hrecord
    exact h record hrecord

/-- No dispatch of another workspace is in flight on an adapter registered in this one. -/
def SeparateRegistrations (plane : Plane) : Prop :=
  ∀ adapterKey registration runKey registrationId,
    plane.runtimeAdapters.get? adapterKey = some registration →
    plane.inFlightDispatchAdapters.get? runKey = some registrationId →
    registration.registrationId = registrationId → adapterKey.1 = runKey.1

/-- The scan for in-flight dispatches compares registration identifiers only; where these are
separate it reads the caller's workspace too. -/
theorem inFlight_within {plane : Plane} (hseparate : SeparateRegistrations plane)
    {workspaceId id : EntityId} {previous : AdapterRegistration}
    (hprevious : plane.runtimeAdapters.get? (key workspaceId id) = some previous) :
    previous.registrationId ∈ (plane.within workspaceId).inFlightDispatchAdapters.values
      ↔ previous.registrationId ∈ plane.inFlightDispatchAdapters.values := by
  rw [OrderedMap.mem_values, OrderedMap.mem_values]
  refine exists_congr fun runKey => ?_
  rw [Plane.within_inFlightDispatchAdapters, OrderedMap.get?_restrict]
  split
  · exact Iff.rfl
  · rename_i hother
    refine ⟨fun h => (by cases h), fun hflight => ?_⟩
    have hws := hseparate _ _ _ _ hprevious hflight rfl
    exact absurd (decide_eq_true hws.symm) hother

theorem admitAdapter_within {plane : Plane} (hseparate : SeparateRegistrations plane)
    (runtimeId : EntityId) (adapter : RuntimeAdapter) :
    admitAdapter options (plane.within context.workspaceId) context runtimeId adapter
      = admitAdapter options plane context runtimeId adapter := by
  unfold admitAdapter
  refine except_bind_congr rfl fun _ _ => ?_
  refine requireRecord_bind_within fun runtime _ => except_bind_congr rfl fun _ _ => ?_
  rw [Plane.within_runtimeAdapters, map_get?_restrict_key]
  cases hprevious : plane.runtimeAdapters.get? (key context.workspaceId runtime.id) with
  | none => rfl
  | some previous =>
    have hflight := inFlight_within hseparate hprevious
    have hruns : anyActiveRun (plane.within context.workspaceId)
        (BoundToRuntime (plane.within context.workspaceId) context.workspaceId runtime.id previous.registrationId)
        = anyActiveRun plane (BoundToRuntime plane context.workspaceId runtime.id
            previous.registrationId) := by
      refine anyActiveRun_within plane (fun run hrun => hrun.1) fun run hws => ?_
      simp only [BoundToRuntime, Plane.within_connections, hws, get?_restrict_key]
    simp only [hflight, hruns]

theorem admitConnection_within (connection : RuntimeConnection) :
    admitConnection options (plane.within context.workspaceId) context connection
      = admitConnection options plane context connection := by
  unfold admitConnection
  refine except_bind_congr rfl fun _ hws => ?_
  rw [assertWorkspace, throwIf_eq_ok, not_not] at hws
  have hruns : anyActiveRun (plane.within context.workspaceId)
      (UsesConnection connection.workspaceId connection.id)
      = anyActiveRun plane (UsesConnection connection.workspaceId connection.id) :=
    anyActiveRun_within plane (fun run hrun => hrun.1.trans hws.symm) fun _ _ => Iff.rfl
  have hprevious : (plane.within context.workspaceId).connections.get?
      (key connection.workspaceId connection.id)
      = plane.connections.get? (key connection.workspaceId connection.id) := by
    rw [← hws]
    exact get?_restrict_key plane.connections context.workspaceId connection.id
  rw [hprevious, hruns, Plane.within_runtimes, requireRecord_restrict, validateConnectionProofs_within]

theorem assertConnectedEvidence_within (connection : RuntimeConnection) :
    assertConnectedEvidence options readings (plane.within context.workspaceId) context connection
      = assertConnectedEvidence options readings plane context connection := by
  unfold assertConnectedEvidence
  rw [deriveConnectionStatus_within]

theorem admitHeartbeat_within (heartbeat : Heartbeat) :
    admitHeartbeat options (plane.within context.workspaceId) context heartbeat
      = admitHeartbeat options plane context heartbeat := by
  unfold admitHeartbeat
  refine except_bind_congr rfl fun _ hws => ?_
  rw [assertWorkspace, throwIf_eq_ok, not_not] at hws
  refine requireRecord_bind_within fun connection _ => except_bind_congr rfl fun _ _ => ?_
  rw [← hws, priorSequence_within, Plane.within_heartbeats, has_restrict_key]

theorem admitTask_within (task : ControlPlaneTask) :
    admitTask options readings (plane.within context.workspaceId) context task
      = admitTask options readings plane context task := by
  unfold admitTask
  refine except_bind_congr rfl fun _ hws => ?_
  rw [assertWorkspace, throwIf_eq_ok, not_not] at hws
  rw [validateCurrentTaskPolicy_within options _ plane hws.symm, Plane.within_connections,
    requireRecord_restrict, Plane.within_tasks, ← hws, has_restrict_key]

theorem admitTaskTransition_within (taskId : EntityId) (next : TaskStatus) :
    admitTaskTransition options readings (plane.within context.workspaceId) context taskId next
      = admitTaskTransition options readings plane context taskId next := by
  unfold admitTaskTransition
  refine requireRecord_bind_within fun task hfound => ?_
  have hws : task.workspaceId = context.workspaceId := workspace_of_get? hfound
  have hruns : anyActiveRun (plane.within context.workspaceId) (RunOfTask task.workspaceId task.id)
      = anyActiveRun plane (RunOfTask task.workspaceId task.id) :=
    anyActiveRun_within plane (fun run hrun => hrun.1.trans hws) fun _ _ => Iff.rfl
  rw [assertTaskOperator_within options _ plane hws, hruns]

theorem admitRun_within (run : AgentRun) :
    admitRun options readings (plane.within context.workspaceId) context run
      = admitRun options readings plane context run := by
  unfold admitRun
  refine except_bind_congr rfl fun _ hws => ?_
  rw [assertWorkspace, throwIf_eq_ok, not_not] at hws
  refine except_bind_congr rfl fun _ _ => except_bind_congr rfl fun _ _ => ?_
  refine requireRecord_bind_within fun task hfound => ?_
  have htask : task.workspaceId = context.workspaceId := workspace_of_get? hfound
  rw [validateCurrentTaskPolicy_within options _ plane htask]
  refine except_bind_congr rfl fun policy _ => ?_
  obtain ⟨agent, authority⟩ := policy
  refine requireRecord_bind_within fun connection _ => except_bind_congr rfl fun _ _ => ?_
  have hruns : anyActiveRun (plane.within context.workspaceId) (RunOfTask run.workspaceId task.id)
      = anyActiveRun plane (RunOfTask run.workspaceId task.id) :=
    anyActiveRun_within plane (fun other hother => hother.1.trans hws.symm) fun _ _ => Iff.rfl
  have hbudget := assertRemainingTaskBudget_within plane task
  rw [htask] at hbudget
  rw [hruns, hbudget, assertConnectionCanRunTask_within, ← hws, activeRunsOf_within,
    Plane.within_runs, has_restrict_key]

theorem admitRunTransition_within (runId : EntityId) (next : RunStatus) :
    admitRunTransition options (plane.within context.workspaceId) context runId next
      = admitRunTransition options plane context runId next := by
  unfold admitRunTransition
  refine requireRecord_bind_within fun run hfound => ?_
  have hws : run.workspaceId = context.workspaceId := workspace_of_get? hfound
  simp only [hws, Plane.within_inFlightDispatchAdapters, map_has_restrict_key,
    Plane.within_connections, requireRecord_restrict, Plane.within_successfulCancellations,
    key_mem_filter, Plane.within_claimedDispatchRuns, Plane.within_tasks]

theorem admitEvent_within (event : ControlPlaneEvent) :
    admitEvent (plane.within context.workspaceId) context event
      = admitEvent plane context event := by
  unfold admitEvent
  refine except_bind_congr rfl fun _ hws => ?_
  rw [assertWorkspace, throwIf_eq_ok, not_not] at hws
  simp only [← hws, Plane.within_eventsById, has_restrict_key, Plane.within_eventIdempotency,
    map_has_restrict_key, Plane.within_runs, Plane.within_connections, requireRecord_restrict]

theorem admitUsage_within (usage : UsageRecord) :
    admitUsage options (plane.within context.workspaceId) context usage
      = admitUsage options plane context usage := by
  unfold admitUsage
  refine except_bind_congr rfl fun _ hws => ?_
  rw [assertWorkspace, throwIf_eq_ok, not_not] at hws
  simp only [← hws, Plane.within_usage, has_restrict_key, Plane.within_tasks, Plane.within_runs,
    Plane.within_connections, requireRecord_restrict, usageOf_within]

/-! ## Checks of dispatches and cancellations -/

theorem admitDispatch_within (runId : EntityId) :
    admitDispatch options readings (plane.within context.workspaceId) context runId
      = admitDispatch options readings plane context runId := by
  unfold admitDispatch
  refine requireRecord_bind_within fun run hfound => except_bind_congr rfl fun _ _ => ?_
  have hws : run.workspaceId = context.workspaceId := workspace_of_get? hfound
  simp only [hws, Plane.within_dispatchedRuns, key_mem_filter]
  refine except_bind_congr rfl fun _ _ => ?_
  refine requireRecord_bind_within fun connection _ => except_bind_congr rfl fun _ _ => ?_
  rw [Plane.within_runtimeAdapters, map_get?_restrict_key]
  split
  · rfl
  · refine requireRecord_bind_within fun task htask => ?_
    have htaskWs : task.workspaceId = context.workspaceId := workspace_of_get? htask
    rw [← htaskWs, deriveTaskRequirements_within]

theorem ownedDispatch_within (dispatch : RuntimeDispatchPermit) :
    ownedDispatch (plane.within context.workspaceId) context dispatch
      = ownedDispatch plane context dispatch := by
  unfold ownedDispatch
  rw [Plane.within_dispatches, map_get?_restrict_key]

theorem revalidateDispatch_within (stored : RuntimeDispatchPermit) :
    revalidateDispatch options readings (plane.within context.workspaceId) context stored
      = revalidateDispatch options readings plane context stored := by
  unfold revalidateDispatch
  refine requireRecord_bind_within fun run hrun => requireRecord_bind_within fun task htask => ?_
  have hrunWs : run.workspaceId = context.workspaceId := workspace_of_get? hrun
  have htaskWs : task.workspaceId = context.workspaceId := workspace_of_get? htask
  refine requireRecord_bind_within fun connection _ => ?_
  rw [Plane.within_runtimeAdapters, map_get?_restrict_key]
  refine except_bind_congr rfl fun _ _ => ?_
  have hrequirements := deriveTaskRequirements_within plane task
  have hbudget := assertRemainingTaskBudget_within plane task
  rw [htaskWs] at hrequirements hbudget
  rw [hrequirements]
  refine except_bind_congr rfl fun requirements _ => except_bind_congr rfl fun _ _ => ?_
  rw [validateCurrentTaskPolicy_within options _ plane htaskWs, hbudget, assertConnectionCanRunTask_within]
  refine except_bind_congr rfl fun policy _ => ?_
  obtain ⟨agent, authority⟩ := policy
  simp only [hrunWs, activeRunsOf_within]

theorem startCall_within (validated : RuntimeDispatchPermit) :
    startCall (plane.within context.workspaceId) context validated
      = startCall plane context validated := by
  unfold startCall
  simp only [Plane.within_runs, Plane.within_connections, Plane.within_runtimes,
    requireRecord_restrict, Plane.within_runtimeAdapters, map_get?_restrict_key]

theorem admitBinding_within (runId : EntityId) (externalRunId : String)
    (adapterRegistrationId : EntityId) :
    admitBinding (plane.within context.workspaceId) context runId externalRunId
        adapterRegistrationId
      = admitBinding plane context runId externalRunId adapterRegistrationId := by
  unfold admitBinding
  refine except_bind_congr rfl fun _ _ => requireRecord_bind_within fun run hfound => ?_
  have hws : run.workspaceId = context.workspaceId := workspace_of_get? hfound
  refine requireRecord_bind_within fun connection _ => ?_
  have hshared := any_values_restrict plane.runs context.workspaceId
    (q := fun candidate => decide (candidate.workspaceId = context.workspaceId
      ∧ candidate.id ≠ run.id ∧ candidate.runtimeConnectionId = connection.id
      ∧ candidate.externalRunId = some externalRunId))
    fun candidate hcandidate => decide_eq_true (of_decide_eq_true hcandidate).1
  simp only [hws, Plane.within_claimedDispatchRuns, key_mem_filter,
    Plane.within_inFlightDispatchAdapters, map_get?_restrict_key, Plane.within_runtimeAdapters,
    Plane.within_runs, hshared]

theorem admitCancellation_within (runId : EntityId) :
    admitCancellation options readings (plane.within context.workspaceId) context runId
      = admitCancellation options readings plane context runId := by
  unfold admitCancellation
  refine requireRecord_bind_within fun run hfound => ?_
  have hws : run.workspaceId = context.workspaceId := workspace_of_get? hfound
  simp only [hws, Plane.within_cancelledRuns, key_mem_filter, Plane.within_connections,
    requireRecord_restrict, Plane.within_runtimeAdapters, map_get?_restrict_key]

theorem ownedCancellation_within (cancellation : RuntimeCancellationPermit) :
    ownedCancellation (plane.within context.workspaceId) context cancellation
      = ownedCancellation plane context cancellation := by
  unfold ownedCancellation
  rw [Plane.within_cancellations, map_get?_restrict_key]

theorem revalidateCancellation_within (stored : RuntimeCancellationPermit) :
    revalidateCancellation (plane.within context.workspaceId) context stored
      = revalidateCancellation plane context stored := by
  unfold revalidateCancellation
  simp only [Plane.within_runs, Plane.within_connections, requireRecord_restrict,
    Plane.within_runtimeAdapters, map_get?_restrict_key]

theorem cancelCall_within (validated : RuntimeCancellationPermit) :
    cancelCall (plane.within context.workspaceId) context validated
      = cancelCall plane context validated := by
  unfold cancelCall
  simp only [Plane.within_runs, Plane.within_connections, Plane.within_runtimes,
    requireRecord_restrict, Plane.within_runtimeAdapters, map_get?_restrict_key]

end VentureOS.ControlPlane
