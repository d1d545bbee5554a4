import VentureOS.Foundations.Machine
import VentureOS.ControlPlane.Dispatch

/-! # The control plane as a machine

A label is one public call, or the settling of one adapter promise, with the clock reading and the
identifiers the call meets. `perform` gives the outcome of a label and the state it leaves; since
the two halves of `executeDispatch` and `executeCancellation` are separate labels, the lists of
labels are exactly the interleavings of calls and settlements.

`reach options labels` is the state after a list of labels, from the empty control plane, and
`trace options labels` the steps taken on the way. -/

namespace VentureOS.ControlPlane

open Program

/-- A public call of the control plane, or the settling of an adapter call by number. -/
inductive Call where
  | putRuntime (context : WorkspaceContext) (runtime : Runtime)
  | registerRuntimeAdapter (context : WorkspaceContext) (runtimeId : EntityId)
      (adapter : RuntimeAdapter)
  | putCapability (context : WorkspaceContext) (capability : Capability)
  | putTool (context : WorkspaceContext) (tool : Tool)
  | putAgent (context : WorkspaceContext) (agent : Agent)
  | getAgent (context : WorkspaceContext) (agentId : EntityId)
  | grantAgentCapability (context : WorkspaceContext) (grant : AgentCapability)
  | grantTool (context : WorkspaceContext) (grant : ToolGrant)
  | grantAuthority (context : WorkspaceContext) (grant : AuthorityGrant)
  | putConnection (context : WorkspaceContext) (connection : RuntimeConnection)
  | recordHeartbeat (context : WorkspaceContext) (heartbeat : Heartbeat)
  | deriveConnectionStatus (context : WorkspaceContext) (connectionId : EntityId)
  | createTask (context : WorkspaceContext) (task : ControlPlaneTask)
  | getTask (context : WorkspaceContext) (taskId : EntityId)
  | getRun (context : WorkspaceContext) (runId : EntityId)
  | transitionTask (context : WorkspaceContext) (taskId : EntityId) (next : TaskStatus)
  | startRun (context : WorkspaceContext) (run : AgentRun)
  | mintDispatch (context : WorkspaceContext) (runId : EntityId)
  | executeDispatch (context : WorkspaceContext) (dispatch : RuntimeDispatchPermit)
  | startResolved (call : Nat) (externalRunId : Option Json)
  | startRejected (call : Nat) (error : Failure)
  | mintCancellation (context : WorkspaceContext) (runId : EntityId)
  | executeCancellation (context : WorkspaceContext) (cancellation : RuntimeCancellationPermit)
  | cancelResolved (call : Nat)
  | cancelRejected (call : Nat) (error : Failure)
  | transitionRun (context : WorkspaceContext) (runId : EntityId) (next : RunStatus)
  | appendEvent (context : WorkspaceContext) (event : ControlPlaneEvent)
  | recordUsage (context : WorkspaceContext) (usage : UsageRecord)

/-- A call with what it reads from its surroundings. -/
structure Label where
  readings : Readings
  call : Call

/-- What a label returns. -/
inductive Answer where
  /-- The method returns nothing. -/
  | done
  | agent (agent : Option Agent)
  | task (task : Option ControlPlaneTask)
  | run (run : Option AgentRun)
  | status (status : RuntimeConnectionStatus)
  | dispatch (dispatch : RuntimeDispatchPermit)
  | cancellation (cancellation : RuntimeCancellationPermit)
  /-- `adapter.start` was called and is awaited. -/
  | startCalled (call : Nat) (frame : PendingStart)
  /-- `executeDispatch` resolved with the external run id. -/
  | started (externalRunId : String)
  /-- `adapter.cancel` was called and is awaited. -/
  | cancelCalled (call : Nat) (frame : PendingCancellation)
  /-- No call of that number is awaited. -/
  | idle

section Steps

variable {σ : Type} (options : Options σ)

/-- Answer a label. -/
def answer (readings : Readings) : Call → Op σ Answer
  | .putRuntime context runtime => do putRuntime options context runtime; return .done
  | .registerRuntimeAdapter context runtimeId adapter => do
    registerRuntimeAdapter options readings context runtimeId adapter; return .done
  | .putCapability context capability => do putCapability options context capability; return .done
  | .putTool context tool => do putTool options context tool; return .done
  | .putAgent context agent => do putAgent options context agent; return .done
  | .getAgent context agentId => do
    return .agent ((← readPlane).agents.get? (key context.workspaceId agentId))
  | .grantAgentCapability context grant => do
    grantAgentCapability options context grant; return .done
  | .grantTool context grant => do grantTool options context grant; return .done
  | .grantAuthority context grant => do grantAuthority options context grant; return .done
  | .putConnection context connection => do
    putConnection options readings context connection; return .done
  | .recordHeartbeat context heartbeat => do
    recordHeartbeat options readings context heartbeat; return .done
  | .deriveConnectionStatus context connectionId => do
    let plane ← readPlane
    return .status (← deriveConnectionStatus options readings.now plane context connectionId)
  | .createTask context task => do createTask options readings context task; return .done
  | .getTask context taskId => do
    return .task ((← readPlane).tasks.get? (key context.workspaceId taskId))
  | .getRun context runId => do
    return .run ((← readPlane).runs.get? (key context.workspaceId runId))
  | .transitionTask context taskId next => do
    transitionTask options readings context taskId next; return .done
  | .startRun context run => do startRun options readings context run; return .done
  | .mintDispatch context runId => do
    return .dispatch (← mintDispatch options readings context runId)
  | .executeDispatch context dispatch => do
    let (call, frame) ← executeDispatch options readings context dispatch
    return .startCalled call frame
  | .startResolved call externalRunId => do
    match (← readPlane).pendingStarts.get? call with
    | none => return .idle
    | some frame => return .started (← startResolved call frame externalRunId)
  | .startRejected call error => do
    match (← readPlane).pendingStarts.get? call with
    | none => return .idle
    | some frame => do startRejected call frame error; return .done
  | .mintCancellation context runId => do
    return .cancellation (← mintCancellation options readings context runId)
  | .executeCancellation context cancellation => do
    let (call, frame) ← executeCancellation context cancellation
    return .cancelCalled call frame
  | .cancelResolved call => do
    match (← readPlane).pendingCancellations.get? call with
    | none => return .idle
    | some frame => do cancelResolved call frame; return .done
  | .cancelRejected call error => do
    match (← readPlane).pendingCancellations.get? call with
    | none => return .idle
    | some frame => do cancelRejected call frame error; return .done
  | .transitionRun context runId next => do
    transitionRun options readings context runId next; return .done
  | .appendEvent context event => do appendEvent options context event; return .done
  | .recordUsage context usage => do recordUsage options readings context usage; return .done

/-- One step of the machine. -/
def perform (label : Label) (w : World σ) : Except Failure Answer × World σ :=
  (answer options label.readings label.call).exec w

/-- A step of a run of the control plane. -/
abbrev Step (σ : Type) := Entry Label (Except Failure Answer) (World σ)

/-- The control plane with empty maps over a sink in its initial state. -/
def World.initial (sink : σ) : World σ := ⟨Plane.empty, sink⟩

/-- The state reached by a list of labels. -/
def reach (sink : σ) (labels : List Label) : World σ :=
  run (perform options) (World.initial sink) labels

/-- The steps taken along a list of labels. -/
def trace (sink : σ) (labels : List Label) : List (Step σ) :=
  history (perform options) (World.initial sink) labels

end Steps

/-! ## A sample run

A runtime `r` with the principal `a` is set up, runs the health check that bootstraps its connection
`x` and completes it. Every identifier is one letter. -/

namespace Sample

/-- The time stamp of every record. -/
def epoch : String := "1970-01-01T00:00:00.000Z"

/-- `Date.parse`, on the time stamp of every record. -/
def dateParse (s : String) : Option Int := if s = epoch then some 0 else none

/-- No event sink and one authorizer `f`. -/
def options : Options Unit where
  dateParse := dateParse
  eventSink := none
  heartbeatFreshnessMs := 300000
  authorityPrincipals := ["f"]
  plannerPrincipals := []

/-- The authorizer. -/
def founder : WorkspaceContext := ⟨"w", "f"⟩

/-- The first principal of the runtime. -/
def worker : WorkspaceContext := ⟨"w", "a"⟩

/-- A call at time zero that meets the identifier `uuid`. -/
def at0 (uuid : EntityId) (call : Call) : Label := ⟨⟨0, uuid, "i"⟩, call⟩

/-- The connection with the given principal and proofs. -/
def connection (principalId : EntityId) (heartbeatProof : Option HeartbeatProof)
    (taskRoundTripProof : Option TaskRoundTripProof) : RuntimeConnection where
  id := "x"
  workspaceId := "w"
  runtimeId := "r"
  status := .PARTIAL
  credentialReference := some "vault://x"
  authenticatedPrincipalId := some principalId
  registrationProof := some ⟨"x", "r", principalId, epoch⟩
  capabilityExchangeProof := some ⟨"x", "r", principalId, ["c"], epoch⟩
  heartbeatProof := heartbeatProof
  taskRoundTripProof := taskRoundTripProof

/-- The authority level that a health check needs. -/
def level : AuthorityLevel := (taskPolicies .runtimeHealthCheck).authorityLevel

/-- The health check. -/
def task : ControlPlaneTask where
  id := "k"
  workspaceId := "w"
  assignedAgentId := "n"
  kind := .runtimeHealthCheck
  input := [("connectionId", .str "x")]
  requiredCapabilityIds := ["c"]
  requiredToolIds := ["t"]
  requiredAuthorityLevel := level
  costLimit := ⟨"E", 1, 1⟩
  status := .READY
  createdAt := epoch

/-- The run of the health check. -/
def run : AgentRun := ⟨"u", "w", "k", "n", "x", .QUEUED, none, none, none, none⟩

/-- The permit minted for the run. -/
def permit : RuntimeDispatchPermit where
  dispatchId := "d"
  connectionId := "x"
  adapterRegistrationId := "g"
  runtimePrincipalId := some "a"
  envelope := ⟨"u", "k", "w", .runtimeHealthCheck, [("connectionId", .str "x")], ["c"],
    [⟨"t", ["observe"]⟩], level, ⟨"E", 1, 1⟩⟩

/-- Setting up the runtime, its adapter, its agent and its connection. -/
def setup : List Label :=
  [at0 "" (.putRuntime founder ⟨"r", "w", "", "k", epoch⟩),
    at0 "g" (.registerRuntimeAdapter founder "r" ⟨"k"⟩),
    at0 "" (.putCapability founder ⟨"c", "w", "runtime.health", "1"⟩),
    at0 "" (.putTool founder ⟨"t", "w", "runtime.health", "1"⟩),
    at0 "" (.putAgent founder ⟨"n", "w", "r", "", "", level, 1, epoch⟩),
    at0 "" (.grantAgentCapability founder ⟨"gc", "w", "n", "c"⟩),
    at0 "" (.grantTool founder ⟨"gt", "w", "n", "t", ["observe"], none⟩),
    at0 "" (.grantAuthority founder ⟨"ga", "w", "n", level, [.runtimeHealthCheck], ⟨"E", 1, 1⟩, 1, none⟩),
    at0 "" (.putConnection founder (connection "a" none none)),
    at0 "" (.recordHeartbeat worker ⟨"h", "w", "x", "a", epoch, 0, .HEALTHY⟩),
    at0 "" (.putConnection founder (connection "a" (some ⟨"x", "a", "h", epoch⟩) none)),
    at0 "" (.createTask founder task),
    at0 "" (.startRun founder run),
    at0 "d" (.mintDispatch worker "u")]

/-- The call that claims the permit and calls `adapter.start`. -/
def execute : Label := at0 "" (.executeDispatch worker permit)

/-- `adapter.start` resolves and the run completes. -/
def completion : List Label :=
  [at0 "" (.startResolved 0 (some (.str "e"))),
    at0 "" (.transitionRun worker "u" .RUNNING),
    at0 "" (.transitionRun worker "u" .COMPLETED)]

/-- The principal reports that the run completed, and the connection offers the report as its
round trip. -/
def proof (context : WorkspaceContext) (heartbeatId : EntityId) : List Label :=
  [at0 "" (.appendEvent context
      ⟨"v", "w", some "u", "run.completed", epoch, context.principalId, "v", []⟩),
    at0 "" (.putConnection founder (connection context.principalId
      (some ⟨"x", context.principalId, heartbeatId, epoch⟩)
      (some ⟨"x", context.principalId, "k", "u", "v", epoch⟩)))]

/-- The whole run, to the connected runtime. -/
def connected : List Label := setup ++ [execute] ++ completion ++ proof worker "h"

/-- The second principal of the runtime. -/
def successor : WorkspaceContext := ⟨"w", "b"⟩

/-- The connection is rotated to the second principal, who sends a heartbeat. -/
def rotation : List Label :=
  [at0 "" (.putConnection founder (connection "b" none none)),
    at0 "" (.recordHeartbeat successor ⟨"h2", "w", "x", "b", epoch, 1, .HEALTHY⟩)]

/-- The run completes under the first principal and is reported by the second. -/
def rotated : List Label := setup ++ [execute] ++ (completion ++ rotation ++ proof successor "h2")

end Sample

end VentureOS.ControlPlane
