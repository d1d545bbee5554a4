import VentureOS.ControlPlane.Operations

/-! # Dispatch and cancellation

The operations around the runtime adapters. `executeDispatch` and `executeCancellation` are
asynchronous: each is split at its `await` into a first half that claims a permit and calls the
adapter, and a second half that runs when the adapter's promise settles. The first half leaves a
suspended call in the plane (`pendingStarts`, `pendingCancellations`), which the second half takes
out again. -/

namespace VentureOS.ControlPlane

open Program

variable {σ : Type} (options : Options σ) (readings : Readings)

/-! ## Minting a dispatch permit -/

/-- The envelope a task has under its current policy. -/
def envelopeFor (run : AgentRun) (task : ControlPlaneTask) (requirements : TaskRequirements) :
    RuntimeTaskEnvelope where
  runId := run.id
  taskId := task.id
  workspaceId := task.workspaceId
  kind := task.kind
  input := task.input
  capabilityIds := task.requiredCapabilityIds
  tools := requirements.tools.map (fun tool => ⟨tool.id, [tool.scope]⟩)
  authorityLevel := task.requiredAuthorityLevel
  costLimit := task.costLimit

/-- The checks of `mintDispatch`, with the key of the run and the permit they lead to. -/
def admitDispatch (plane : Plane) (context : WorkspaceContext) (runId : EntityId) :
    Except Failure (Key × RuntimeDispatchPermit) := do
  let run ← requireRecord plane.runs context runId "Dispatch run"
  throwIf (run.status ≠ .QUEUED) (policyError "Only a queued run may dispatch")
  let runKey := key run.workspaceId run.id
  throwIf (runKey ∈ plane.dispatchedRuns)
    (policyError "Run already has a policy-minted dispatch")
  let connection ← requireRecord plane.connections context run.runtimeConnectionId
    "Dispatch connection"
  assertConnectionOperator options context connection "Dispatch"
  match plane.runtimeAdapters.get? (key context.workspaceId connection.runtimeId) with
  | none => .error (policyError "Runtime adapter is not registered")
  | some adapterRegistration => do
    let task ← requireRecord plane.tasks context run.taskId "Dispatch task"
    let requirements ← deriveTaskRequirements plane task
    return (runKey, {
      dispatchId := readings.uuid
      connectionId := connection.id
      adapterRegistrationId := adapterRegistration.registrationId
      runtimePrincipalId := connection.authenticatedPrincipalId
      envelope := envelopeFor run task requirements })

/-- The plane after a dispatch permit was minted. -/
def Plane.withDispatch (plane : Plane) (runKey : Key) (dispatch : RuntimeDispatchPermit) : Plane :=
  { plane with
    dispatches :=
      plane.dispatches.set (key dispatch.envelope.workspaceId dispatch.dispatchId) dispatch
    dispatchedRuns := insert runKey plane.dispatchedRuns }

/-- `mintDispatch`. -/
def mintDispatch (context : WorkspaceContext) (runId : EntityId) : Op σ RuntimeDispatchPermit := do
  let plane ← readPlane
  let (runKey, dispatch) ← admitDispatch options readings plane context runId
  writePlane fun plane => plane.withDispatch runKey dispatch
  return dispatch

/-! ## Executing a dispatch -/

/-- The stored permit, if the caller presents it unchanged and is the principal it names. -/
def ownedDispatch (plane : Plane) (context : WorkspaceContext) (dispatch : RuntimeDispatchPermit) :
    Except Failure RuntimeDispatchPermit :=
  match plane.dispatches.get? (key context.workspaceId dispatch.dispatchId) with
  | none => .error (policyError "Dispatch is not a policy-minted runtime envelope")
  | some stored => do
    -- Permits are compared as the source compares them, by their `JSON.stringify` text.
    throwIf (some context.principalId ≠ stored.runtimePrincipalId
        ∨ stored.toJson.text ≠ dispatch.toJson.text)
      (policyError "Dispatch is not a policy-minted runtime envelope")
    return stored

/-- The checks inside the `try` block of `#claimDispatch`: everything the permit was minted for
still holds now. -/
def revalidateDispatch (plane : Plane) (context : WorkspaceContext)
    (stored : RuntimeDispatchPermit) : Except Failure Unit := do
  let run ← requireRecord plane.runs context stored.envelope.runId "Dispatch run"
  let task ← requireRecord plane.tasks context stored.envelope.taskId "Dispatch task"
  let connection ← requireRecord plane.connections context stored.connectionId "Dispatch connection"
  throwIf (run.status ≠ .QUEUED ∨ task.status ≠ .READY ∨ run.taskId ≠ task.id
      ∨ run.runtimeConnectionId ≠ connection.id
      ∨ some stored.adapterRegistrationId ≠
          (plane.runtimeAdapters.get? (key context.workspaceId connection.runtimeId)).map
            AdapterRegistration.registrationId
      ∨ stored.runtimePrincipalId ≠ connection.authenticatedPrincipalId
      ∨ some context.principalId ≠ connection.authenticatedPrincipalId)
    (policyError "Dispatch permit is stale or no longer owned")
  -- The envelope is derived again from the task and the policy of this moment.
  let requirements ← deriveTaskRequirements plane task
  throwIf (stored.envelope.toJson.text ≠ (envelopeFor run task requirements).toJson.text)
    (policyError "Dispatch permit no longer matches current task policy")
  let (agent, authority) ← validateCurrentTaskPolicy options readings.now plane context task
  throwIf (run.agentId ≠ agent.id ∨ connection.runtimeId ≠ agent.runtimeId)
    (policyError "Dispatch no longer matches its agent and runtime")
  assertConnectionCanRunTask options readings.now plane context connection task
  assertRemainingTaskBudget plane task
  -- The run itself is among the active runs counted here.
  throwIf (min agent.maxConcurrentRuns authority.maxConcurrentRuns
      < (activeRunsOf plane run.workspaceId agent.id : Int))
    (policyError "Dispatch exceeds the current concurrency budget")

/-- The plane after a stale permit was dropped: the run may be dispatched again. -/
def Plane.dropDispatch (plane : Plane) (dispatchKey runKey : Key) : Plane := { plane with
  dispatches := plane.dispatches.delete dispatchKey
  dispatchedRuns := plane.dispatchedRuns.erase runKey }

/-- The plane after a permit was claimed. -/
def Plane.claimDispatch (plane : Plane) (dispatchKey runKey : Key) (registrationId : EntityId) :
    Plane := { plane with
  dispatches := plane.dispatches.delete dispatchKey
  claimedDispatchRuns := insert runKey plane.claimedDispatchRuns
  inFlightDispatchAdapters := plane.inFlightDispatchAdapters.set runKey registrationId }

/-- `#claimDispatch`. -/
def claimDispatch (context : WorkspaceContext) (dispatch : RuntimeDispatchPermit) :
    Op σ RuntimeDispatchPermit := do
  let plane ← readPlane
  let dispatchKey := key context.workspaceId dispatch.dispatchId
  let stored ← ownedDispatch plane context dispatch
  let runKey := key context.workspaceId stored.envelope.runId
  tryCatch (revalidateDispatch options readings plane context stored)
    (fun error => do
      writePlane fun plane => plane.dropDispatch dispatchKey runKey
      throw error)
  -- Nothing puts the permit back from here on: a later failure leaves the run claimed.
  writePlane fun plane => plane.claimDispatch dispatchKey runKey stored.adapterRegistrationId
  return stored

/-- What `executeDispatch` looks up after the claim: the run and the adapter to call. -/
def startCall (plane : Plane) (context : WorkspaceContext) (validated : RuntimeDispatchPermit) :
    Except Failure PendingStart := do
  let run ← requireRecord plane.runs context validated.envelope.runId "Dispatch run"
  let connection ← requireRecord plane.connections context run.runtimeConnectionId
    "Dispatch connection"
  let runtime ← requireRecord plane.runtimes context connection.runtimeId "Dispatch runtime"
  match plane.runtimeAdapters.get? (key context.workspaceId runtime.id) with
  | none => .error (policyError "Dispatch adapter registration is stale")
  | some registration => do
    throwIf (registration.registrationId ≠ validated.adapterRegistrationId)
      (policyError "Dispatch adapter registration is stale")
    return ⟨context, run.id, registration, validated⟩

/-- The plane while `adapter.start` is awaited. -/
def Plane.awaitStart (plane : Plane) (frame : PendingStart) : Plane := { plane with
  pendingStarts := plane.pendingStarts.set plane.adapterCalls frame
  adapterCalls := plane.adapterCalls + 1 }

/-- `executeDispatch` up to its `await`: the permit is claimed and `adapter.start` is called.
Returns the number of the call and the call. -/
def executeDispatch (context : WorkspaceContext) (dispatch : RuntimeDispatchPermit) :
    Op σ (Nat × PendingStart) := do
  let validated ← claimDispatch options readings context dispatch
  let plane ← readPlane
  -- These look-ups repeat what the claim has checked, outside its `try` block.
  let frame ← startCall plane context validated
  writePlane fun plane => plane.awaitStart frame
  return (plane.adapterCalls, frame)

/-- The checks of `#bindExternalRun`, with the run they find. -/
def admitBinding (plane : Plane) (context : WorkspaceContext) (runId : EntityId)
    (externalRunId : String) (adapterRegistrationId : EntityId) : Except Failure AgentRun := do
  assertString (some (.str externalRunId)) "externalRunId"
  let run ← requireRecord plane.runs context runId "External run"
  let runKey := key run.workspaceId run.id
  let connection ← requireRecord plane.connections context run.runtimeConnectionId
    "External run connection"
  throwIf (some context.principalId ≠ connection.authenticatedPrincipalId)
    (policyError "External run binding requires the authenticated runtime principal")
  throwIf (runKey ∉ plane.claimedDispatchRuns)
    (policyError "External run binding requires a claimed dispatch")
  throwIf (plane.inFlightDispatchAdapters.get? runKey ≠ some adapterRegistrationId)
    (policyError "External run binding requires its in-flight adapter")
  throwIf ((plane.runtimeAdapters.get? (key context.workspaceId connection.runtimeId)).map
      AdapterRegistration.registrationId ≠ some adapterRegistrationId)
    (policyError "External run adapter registration is stale")
  throwIf (¬ run.status.Active) (policyError "Only an active run may bind an external run")
  -- Binding the same external run again is allowed.
  throwIf (Truthy run.externalRunId ∧ run.externalRunId ≠ some externalRunId)
    (policyError "External run is already bound")
  throwIf (plane.runs.values.any (fun candidate => decide
      (candidate.workspaceId = run.workspaceId ∧ candidate.id ≠ run.id
        ∧ candidate.runtimeConnectionId = connection.id
        ∧ candidate.externalRunId = some externalRunId)) = true)
    (policyError "External run is already bound to another run")
  return run

/-- `#bindExternalRun`. -/
def bindExternalRun (context : WorkspaceContext) (runId : EntityId) (externalRunId : String)
    (adapterRegistrationId : EntityId) : Op σ Unit := do
  let plane ← readPlane
  let run ← admitBinding plane context runId externalRunId adapterRegistrationId
  writePlane fun plane => { plane with runs := plane.runs.put { run with
    externalRunId := some externalRunId, adapterRegistrationId := some adapterRegistrationId } }

/-- Take a suspended `executeDispatch` out of the plane. -/
def Plane.resumeStart (plane : Plane) (call : Nat) : Plane :=
  { plane with pendingStarts := plane.pendingStarts.delete call }

/-- The `finally` block of `executeDispatch`. -/
def Plane.releaseStart (plane : Plane) (runKey : Key) : Plane :=
  { plane with inFlightDispatchAdapters := plane.inFlightDispatchAdapters.delete runKey }

/-- The rest of the `try` block of `executeDispatch` on the value `adapter.start` resolved to. -/
def bindStarted (frame : PendingStart) (externalRunId : Option Json) : Op σ String := do
  assertString externalRunId "externalRunId"
  -- Past the assertion the value is a string, so the last branch is never taken.
  match externalRunId with
  | some (.str id) => do
    bindExternalRun frame.context frame.runId id frame.registration.registrationId
    return id
  | _ => throw (policyError "externalRunId must be a non-empty bounded string")

/-- `executeDispatch` after `adapter.start` resolved with an `externalRunId`, where `none` stands
for `undefined`. -/
def startResolved (call : Nat) (frame : PendingStart) (externalRunId : Option Json) :
    Op σ String := do
  writePlane fun plane => plane.resumeStart call
  -- The `finally` block runs on both paths.
  let id ← tryCatch (bindStarted frame externalRunId)
    (fun error => do
      writePlane fun plane => plane.releaseStart frame.runKey
      throw error)
  writePlane fun plane => plane.releaseStart frame.runKey
  return id

/-- `executeDispatch` after `adapter.start` threw or rejected. -/
def startRejected (call : Nat) (frame : PendingStart) (error : Failure) : Op σ Unit := do
  writePlane fun plane => plane.resumeStart call
  writePlane fun plane => plane.releaseStart frame.runKey
  throw error

/-! ## Cancelling a run -/

/-- The checks of `mintCancellation`, with the run's workspace and the permit they lead to. -/
def admitCancellation (plane : Plane) (context : WorkspaceContext) (runId : EntityId) :
    Except Failure (EntityId × RuntimeCancellationPermit) := do
  let run ← requireRecord plane.runs context runId "Cancellation run"
  -- The source tests both fields for truth, so an empty string counts as missing.
  match whenTruthy run.externalRunId, whenTruthy run.adapterRegistrationId with
  | some externalRunId, some adapterRegistrationId => do
    throwIf (¬ run.status.Active)
      (policyError "Cancellation requires an active bound external run")
    throwIf (key run.workspaceId run.id ∈ plane.cancelledRuns)
      (policyError "Run already has a policy-minted cancellation")
    let connection ← requireRecord plane.connections context run.runtimeConnectionId
      "Cancellation connection"
    assertConnectionOperator options context connection "Cancellation"
    match plane.runtimeAdapters.get? (key context.workspaceId connection.runtimeId) with
    | none => .error (policyError "Runtime adapter is not registered")
    | some adapterRegistration => do
      throwIf (adapterRegistration.registrationId ≠ adapterRegistrationId)
        (policyError "Originating runtime adapter is no longer registered")
      return (run.workspaceId, {
        cancellationId := readings.uuid
        connectionId := connection.id
        adapterRegistrationId := adapterRegistrationId
        runtimePrincipalId := connection.authenticatedPrincipalId
        runId := run.id
        externalRunId := externalRunId })
  | _, _ => .error (policyError "Cancellation requires an active bound external run")

/-- The plane after a cancellation permit was minted. -/
def Plane.withCancellation (plane : Plane) (workspaceId : EntityId)
    (cancellation : RuntimeCancellationPermit) : Plane := { plane with
  cancellations :=
    plane.cancellations.set (key workspaceId cancellation.cancellationId) cancellation
  cancelledRuns := insert (key workspaceId cancellation.runId) plane.cancelledRuns }

/-- `mintCancellation`. -/
def mintCancellation (context : WorkspaceContext) (runId : EntityId) :
    Op σ RuntimeCancellationPermit := do
  let plane ← readPlane
  let (workspaceId, cancellation) ← admitCancellation options readings plane context runId
  writePlane fun plane => plane.withCancellation workspaceId cancellation
  return cancellation

/-- The stored permit, if the caller presents it unchanged and is the principal it names. -/
def ownedCancellation (plane : Plane) (context : WorkspaceContext)
    (cancellation : RuntimeCancellationPermit) : Except Failure RuntimeCancellationPermit :=
  match plane.cancellations.get? (key context.workspaceId cancellation.cancellationId) with
  | none => .error (policyError "Cancellation is not bound to this runtime and run")
  | some stored => do
    throwIf (some context.principalId ≠ stored.runtimePrincipalId
        ∨ stored.toJson.text ≠ cancellation.toJson.text)
      (policyError "Cancellation is not bound to this runtime and run")
    return stored

/-- The checks inside the `try` block of `#claimCancellation`. -/
def revalidateCancellation (plane : Plane) (context : WorkspaceContext)
    (stored : RuntimeCancellationPermit) : Except Failure Unit := do
  let run ← requireRecord plane.runs context stored.runId "Cancellation run"
  let connection ← requireRecord plane.connections context stored.connectionId
    "Cancellation connection"
  throwIf (¬ run.status.Active ∨ run.runtimeConnectionId ≠ connection.id
      ∨ ¬ Truthy run.externalRunId
      ∨ run.adapterRegistrationId ≠ some stored.adapterRegistrationId
      ∨ run.externalRunId ≠ some stored.externalRunId
      ∨ some stored.adapterRegistrationId ≠
          (plane.runtimeAdapters.get? (key context.workspaceId connection.runtimeId)).map
            AdapterRegistration.registrationId
      ∨ stored.runtimePrincipalId ≠ connection.authenticatedPrincipalId
      ∨ some context.principalId ≠ connection.authenticatedPrincipalId)
    (policyError "Cancellation permit is stale or no longer owned")

/-- The plane after a stale cancellation permit was dropped. -/
def Plane.dropCancellation (plane : Plane) (cancellationKey runKey : Key) : Plane := { plane with
  cancellations := plane.cancellations.delete cancellationKey
  cancelledRuns := plane.cancelledRuns.erase runKey }

/-- The plane after a cancellation permit was claimed. -/
def Plane.claimCancellation (plane : Plane) (cancellationKey : Key) : Plane :=
  { plane with cancellations := plane.cancellations.delete cancellationKey }

/-- `#claimCancellation`. -/
def claimCancellation (context : WorkspaceContext) (cancellation : RuntimeCancellationPermit) :
    Op σ RuntimeCancellationPermit := do
  let plane ← readPlane
  let cancellationKey := key context.workspaceId cancellation.cancellationId
  let stored ← ownedCancellation plane context cancellation
  let runKey := key context.workspaceId stored.runId
  tryCatch (revalidateCancellation plane context stored)
    (fun error => do
      writePlane fun plane => plane.dropCancellation cancellationKey runKey
      throw error)
  writePlane fun plane => plane.claimCancellation cancellationKey
  return stored

/-- What `executeCancellation` looks up after the claim: the adapter to call. -/
def cancelCall (plane : Plane) (context : WorkspaceContext)
    (validated : RuntimeCancellationPermit) : Except Failure PendingCancellation := do
  let run ← requireRecord plane.runs context validated.runId "Cancellation run"
  let connection ← requireRecord plane.connections context run.runtimeConnectionId
    "Cancellation connection"
  let runtime ← requireRecord plane.runtimes context connection.runtimeId "Cancellation runtime"
  match plane.runtimeAdapters.get? (key context.workspaceId runtime.id) with
  | none => .error (policyError "Cancellation adapter registration is stale")
  | some registration => do
    throwIf (registration.registrationId ≠ validated.adapterRegistrationId)
      (policyError "Cancellation adapter registration is stale")
    return ⟨context, registration, validated⟩

/-- The plane while `adapter.cancel` is awaited. -/
def Plane.awaitCancellation (plane : Plane) (frame : PendingCancellation) : Plane := { plane with
  pendingCancellations := plane.pendingCancellations.set plane.adapterCalls frame
  adapterCalls := plane.adapterCalls + 1 }

/-- The `catch` block of `executeCancellation`: the run may be cancelled again. -/
def Plane.reopenCancellation (plane : Plane) (runKey : Key) : Plane :=
  { plane with cancelledRuns := plane.cancelledRuns.erase runKey }

/-- `executeCancellation` up to its `await`: the permit is claimed and `adapter.cancel` is called.
Returns the number of the call and the call. -/
def executeCancellation (context : WorkspaceContext) (cancellation : RuntimeCancellationPermit) :
    Op σ (Nat × PendingCancellation) := do
  let validated ← claimCancellation context cancellation
  let runKey := key context.workspaceId validated.runId
  let plane ← readPlane
  -- The `try` block begins before the look-ups: a failed one reopens the run.
  let frame ← tryCatch (cancelCall plane context validated)
    (fun error => do
      writePlane fun plane => plane.reopenCancellation runKey
      throw error)
  writePlane fun plane => plane.awaitCancellation frame
  return (plane.adapterCalls, frame)

/-- Take a suspended `executeCancellation` out of the plane. -/
def Plane.resumeCancellation (plane : Plane) (call : Nat) : Plane :=
  { plane with pendingCancellations := plane.pendingCancellations.delete call }

/-- `executeCancellation` after `adapter.cancel` resolved. -/
def cancelResolved (call : Nat) (frame : PendingCancellation) : Op σ Unit := do
  writePlane fun plane => plane.resumeCancellation call
  writePlane fun plane => { plane with
    successfulCancellations := insert frame.runKey plane.successfulCancellations }

/-- `executeCancellation` after `adapter.cancel` threw or rejected. -/
def cancelRejected (call : Nat) (frame : PendingCancellation) (error : Failure) : Op σ Unit := do
  writePlane fun plane => plane.resumeCancellation call
  writePlane fun plane => plane.reopenCancellation frame.runKey
  throw error

end VentureOS.ControlPlane
