import Mathlib.Data.List.Pairwise
import VentureOS.ControlPlane.Locality

/-! # Workspaces do not interfere

A call made in a workspace is run on two planes that agree on the workspace, in lockstep: its checks
read the workspace only, so they have the same outcome, and its writes are local, so the planes agree
again and nothing of another workspace has changed. The control plane has no event sink here; a sink
is shared by all workspaces and may refuse an event for reasons of its own.

`registerRuntimeAdapter` is the one call whose check looks beyond the workspace: it compares the
identifier of a registration with those of all in-flight dispatches. The identifiers come from
`randomUUID`, and as long as no two registrations were given the same one, a match can only be found
in the same workspace (`SeparateRegistrations`). -/

namespace VentureOS.ControlPlane

open Program

variable {σ : Type} {options : Options σ} {readings : Readings} {context : WorkspaceContext}
  {start : Plane} {w w' : World σ}

/-! ## Reads and writes of two runs -/

variable {α : Type}

theorem coupled_readPlane_bind {β : Type} {E : α → β → Prop} {R : World σ → World σ → Prop}
    {f : Plane → Op σ α} {g : Plane → Op σ β}
    (h : Coupled E R (f w.plane) w (g w'.plane) w') :
    Coupled E R (readPlane >>= f) w (readPlane >>= g) w' := by
  simp only [readPlane, bind_assoc, pure_bind]
  exact coupled_get_bind h

variable {workspaceId : EntityId}

variable {f : Plane → Plane}

/-- A local write, and then the rest. -/
theorem coupled_writePlane_bind {β : Type} {E : α → β → Prop}
    (hf : Local workspaceId f) (h : InStep workspaceId start w w')
    {x : Unit → Op σ α} {y : Unit → Op σ β}
    (hrest : ∀ v v' : World σ, InStep workspaceId start v v' →
      Coupled E (InStep workspaceId start) (x ()) v (y ()) v') :
    Coupled E (InStep workspaceId start) (writePlane f >>= x) w (writePlane f >>= y) w' := by
  refine coupled_bind (E := fun _ _ => True) (coupled_modify (h.write hf)) ?_
  intro _ _ v v' _ hv
  exact hrest v v' hv

theorem coupled_writePlane (hf : Local workspaceId f) (h : InStep workspaceId start w w') :
    Coupled (fun _ _ => True) (InStep workspaceId start) (writePlane f) w (writePlane f) w' :=
  coupled_modify (h.write hf)

/-- A check that reads the workspace only, and then the rest. -/
theorem coupled_check_bind {β γ : Type} {E : β → γ → Prop} (check : Plane → Except Failure α)
    (hcheck : ∀ plane : Plane, check (plane.within workspaceId) = check plane)
    (h : InStep workspaceId start w w') {f : α → Op σ β} {g : α → Op σ γ}
    (hrest : ∀ a, check w.plane = .ok a → Coupled E (InStep workspaceId start) (f a) w (g a) w') :
    Coupled E (InStep workspaceId start) (liftM (check w.plane) >>= f) w
      (liftM (check w'.plane) >>= g) w' :=
  coupled_lift_bind (h.agree.eq_of_within hcheck) h hrest

/-- A check with a handler, both of which keep the runs in step. -/
theorem coupled_check_tryCatch (check : Plane → Except Failure Unit)
    (hcheck : ∀ plane : Plane, check (plane.within workspaceId) = check plane)
    (h : InStep workspaceId start w w') {handler : Failure → Op σ Unit}
    (hhandler : ∀ e (v v' : World σ), InStep workspaceId start v v' →
      Coupled (fun _ _ => True) (InStep workspaceId start) (handler e) v (handler e) v') :
    Coupled (fun _ _ => True) (InStep workspaceId start)
      (tryCatch (liftM (check w.plane) : Op σ Unit) handler) w
      (tryCatch (liftM (check w'.plane) : Op σ Unit) handler) w' := by
  refine coupled_tryCatch ?_ hhandler
  exact (coupled_lift (h.agree.eq_of_within hcheck) h).mono fun _ _ _ => trivial

/-- Undoing a local write and throwing the same error. -/
theorem coupled_writePlane_throw {E : α → α → Prop}
    (hf : Local workspaceId f) (h : InStep workspaceId start w w')
    (e : Failure) :
    Coupled E (InStep workspaceId start) (do writePlane f; throw e : Op σ α) w
      (do writePlane f; throw e) w' :=
  coupled_writePlane_bind hf h fun _ _ hv => coupled_throw hv

/-- Without a sink nothing is emitted. -/
theorem emitOperationalEvent_of_no_sink (hsink : options.eventSink = none)
    (report : EventReport) : emitOperationalEvent options readings context report = pure () := by
  simp only [emitOperationalEvent, hsink]

theorem emitProjectedEvent_of_no_sink (hsink : options.eventSink = none)
    (event : ControlPlaneEvent) : emitProjectedEvent options context event = pure () := by
  simp only [emitProjectedEvent, hsink]

/-- What begins with `assertWorkspace` succeeds in the workspace of the caller only. -/
theorem workspace_of_ok {f : Unit → Except Failure α} {a : α}
    (h : (assertWorkspace context workspaceId >>= f) = .ok a) :
    workspaceId = context.workspaceId := by
  obtain ⟨_, hws, -⟩ := except_bind_eq_ok.mp h
  rw [assertWorkspace, throwIf_eq_ok, not_not] at hws
  exact hws.symm

/-! ## Answers -/

/-- The answer without the number of a call. -/
def Answer.unnumbered : Answer → Answer
  | .startCalled _ frame => .startCalled 0 frame
  | .cancelCalled _ frame => .cancelCalled 0 frame
  | a => a

/-- The same answer, up to the numbers of calls. -/
def SameAnswer (a b : Answer) : Prop := a.unnumbered = b.unnumbered

/-- The operation keeps the runs in step. -/
abbrev KeepsInStep (workspaceId : EntityId) (start : Plane) (w w' : World σ) (x : Op σ Answer) : Prop :=
  Coupled SameAnswer (InStep workspaceId start) x w x w'

theorem coupled_done {R : World σ → World σ → Prop} {E : Unit → Unit → Prop} {x y : Op σ Unit}
    (h : Coupled E R x w y w') :
    Coupled SameAnswer R (do x; return Answer.done) w (do y; return Answer.done) w' :=
  coupled_bind h fun _ _ _ _ _ hR => coupled_pure rfl hR

/-! ## The operations -/

/-- The administrative operations. -/
theorem administer_coupled (h : InStep context.workspaceId start w w')
    {check : Plane → Except Failure Unit} {write : Plane → Plane}
    (hcheck : ∀ plane : Plane, check (plane.within context.workspaceId) = check plane)
    (hwrite : workspaceId = context.workspaceId → Local context.workspaceId write) :
    KeepsInStep context.workspaceId start w w'
      (do administer options context workspaceId check write; return Answer.done) := by
  refine coupled_done (E := fun _ _ => True) ?_
  unfold administer
  refine coupled_lift_bind rfl h fun _ hws => coupled_lift_bind rfl h fun _ _ => ?_
  rw [assertWorkspace, throwIf_eq_ok, not_not] at hws
  refine coupled_readPlane_bind ?_
  refine coupled_lift_bind (h.agree.eq_of_within hcheck) h fun _ _ => ?_
  exact coupled_writePlane (hwrite hws.symm) h

/-- The operations that check, emit an event and write. -/
theorem checked_coupled (h : InStep context.workspaceId start w w')
    {check : Plane → Except Failure Unit} {emit : Op σ Unit} {write : Plane → Plane}
    (hemit : emit = pure ())
    (hcheck : ∀ plane : Plane, check (plane.within context.workspaceId) = check plane)
    (hwrite : ∀ plane, check plane = .ok () → Local context.workspaceId write) :
    KeepsInStep context.workspaceId start w w'
      (do
        (do
          let plane ← readPlane
          check plane
          emit
          writePlane write)
        return Answer.done) := by
  subst hemit
  refine coupled_done (E := fun _ _ => True) (coupled_readPlane_bind ?_)
  refine coupled_lift_bind (h.agree.eq_of_within hcheck) h fun _ hok => ?_
  simp only [pure_bind]
  exact coupled_writePlane (hwrite _ hok) h

theorem registerRuntimeAdapter_coupled (h : InStep context.workspaceId start w w')
    (hseparate : SeparateRegistrations w.plane) (hseparate' : SeparateRegistrations w'.plane)
    (runtimeId : EntityId) (adapter : RuntimeAdapter) :
    KeepsInStep context.workspaceId start w w'
      (do registerRuntimeAdapter options readings context runtimeId adapter; return Answer.done) := by
  refine coupled_done (E := fun _ _ => True) ?_
  unfold registerRuntimeAdapter
  refine coupled_readPlane_bind ?_
  have hcheck : admitAdapter options w.plane context runtimeId adapter
      = admitAdapter options w'.plane context runtimeId adapter := by
    rw [← admitAdapter_within options hseparate, h.agree.records, admitAdapter_within options hseparate']
  refine coupled_lift_bind hcheck h fun runtime _ => ?_
  exact coupled_writePlane (local_register runtime.id ⟨readings.uuid, adapter⟩) h

/-- Undoing the write of `putConnection`. -/
theorem restoreConnection_coupled (h : InStep context.workspaceId start w w') {id : EntityId}
    {previous : Option RuntimeConnection} (hprevious : ∀ connection, previous = some connection →
      connection.workspaceId = context.workspaceId) (e : Failure) :
    Coupled (fun _ _ => True) (InStep context.workspaceId start)
      (do restoreConnection (key context.workspaceId id) previous; throw e : Op σ Unit) w
      (do restoreConnection (key context.workspaceId id) previous; throw e : Op σ Unit) w' := by
  unfold restoreConnection
  cases previous with
  | some connection =>
    have hconnection := hprevious connection rfl
    exact coupled_writePlane_throw (Local.put connectionsField connection hconnection) h e
  | none => exact coupled_writePlane_throw (local_deleteConnection id) h e

theorem putConnection_coupled (hsink : options.eventSink = none)
    (h : InStep context.workspaceId start w w') (connection : RuntimeConnection) :
    KeepsInStep context.workspaceId start w w'
      (do putConnection options readings context connection; return Answer.done) := by
  refine coupled_done (E := fun _ _ => True) ?_
  unfold putConnection
  refine coupled_readPlane_bind ?_
  refine coupled_check_bind (fun plane => admitConnection options plane context connection)
    (fun plane => admitConnection_within options plane connection) h fun _ hadmitted => ?_
  have hws : connection.workspaceId = context.workspaceId := workspace_of_ok hadmitted
  have hprevious : w.plane.connections.get? (key connection.workspaceId connection.id)
      = w'.plane.connections.get? (key connection.workspaceId connection.id) := by
    rw [hws]
    exact h.agree.eq_of_within (f := fun plane =>
      plane.connections.get? (key context.workspaceId connection.id))
      fun plane => get?_restrict_key plane.connections _ _
  have hrestore : ∀ previous : RuntimeConnection,
      w.plane.connections.get? (key connection.workspaceId connection.id) = some previous →
      previous.workspaceId = context.workspaceId := fun previous hfound =>
    (workspace_of_get? hfound).trans hws
  rw [← hprevious]
  refine coupled_writePlane_bind (Local.put connectionsField _ hws) h fun v v' hv => ?_
  refine coupled_bind (E := fun _ _ => True) ?_ fun _ _ u u' _ hu => ?_
  · refine coupled_tryCatch (coupled_readPlane_bind ?_) fun e u u' hu => ?_
    · have hevidence : assertConnectedEvidence options readings v.plane context connection
          = assertConnectedEvidence options readings v'.plane context connection :=
        hv.agree.eq_of_within
          (f := fun plane => assertConnectedEvidence options readings plane context connection)
          fun plane => assertConnectedEvidence_within options readings plane connection
      exact (coupled_lift hevidence hv).mono fun _ _ _ => trivial
    · simp only [hws] at hrestore ⊢
      exact restoreConnection_coupled hu hrestore e
  · rw [emitOperationalEvent_of_no_sink hsink]
    refine coupled_tryCatch (coupled_pure trivial hu) fun e u u' hu => ?_
    simp only [hws] at hrestore ⊢
    exact restoreConnection_coupled hu hrestore e

theorem transitionTask_coupled (hsink : options.eventSink = none)
    (h : InStep context.workspaceId start w w') (taskId : EntityId) (next : TaskStatus) :
    KeepsInStep context.workspaceId start w w'
      (do transitionTask options readings context taskId next; return Answer.done) := by
  refine coupled_done (E := fun _ _ => True) ?_
  unfold transitionTask
  refine coupled_readPlane_bind ?_
  refine coupled_check_bind
    (fun plane => admitTaskTransition options readings plane context taskId next)
    (fun plane => admitTaskTransition_within options readings plane taskId next) h
    fun task hadmitted => ?_
  have hws : task.workspaceId = context.workspaceId :=
    workspace_of_get? (TaskTransitionAdmitted.of_ok hadmitted).found
  rw [emitOperationalEvent_of_no_sink hsink, pure_bind, transitionTaskRecord]
  refine coupled_lift_bind rfl h fun _ _ => ?_
  exact coupled_writePlane (Local.put tasksField { task with status := next } hws) h

theorem transitionRun_coupled (hsink : options.eventSink = none)
    (h : InStep context.workspaceId start w w') (runId : EntityId) (next : RunStatus) :
    KeepsInStep context.workspaceId start w w'
      (do transitionRun options readings context runId next; return Answer.done) := by
  refine coupled_done (E := fun _ _ => True) ?_
  unfold transitionRun
  refine coupled_readPlane_bind ?_
  refine coupled_check_bind (fun plane => admitRunTransition options plane context runId next)
    (fun plane => admitRunTransition_within options plane runId next) h
    fun (run, task) hadmitted => ?_
  have hadmitted := RunTransitionAdmitted.of_ok hadmitted
  have hrun : run.workspaceId = context.workspaceId := workspace_of_get? hadmitted.found
  have htask : task.workspaceId = context.workspaceId :=
    (workspace_of_get? hadmitted.task_found).trans hrun
  refine coupled_lift_bind rfl h fun now _ => ?_
  rw [emitOperationalEvent_of_no_sink hsink, pure_bind]
  -- The two records are written at once; one after the other makes the same plane.
  refine coupled_writePlane ?_ h
  exact (local_tasksAfter htask _).comp
    (Local.put runsField (transitionedRun run next now) hrun)

theorem mintDispatch_coupled (h : InStep context.workspaceId start w w') (runId : EntityId) :
    KeepsInStep context.workspaceId start w w'
      (do return Answer.dispatch (← mintDispatch options readings context runId)) := by
  refine coupled_bind (E := Eq) ?_ fun a b _ _ hab hv => coupled_pure (by rw [hab]; rfl) hv
  unfold mintDispatch
  refine coupled_readPlane_bind ?_
  refine coupled_check_bind (fun plane => admitDispatch options readings plane context runId)
    (fun plane => admitDispatch_within options readings plane runId) h
    fun (runKey, dispatch) hok => ?_
  obtain ⟨rfl, task, hadmitted⟩ := DispatchAdmitted.of_ok hok
  exact coupled_writePlane_bind (local_withDispatch hadmitted.workspace) h
    fun _ _ hv => coupled_pure rfl hv

theorem mintCancellation_coupled (h : InStep context.workspaceId start w w') (runId : EntityId) :
    KeepsInStep context.workspaceId start w w'
      (do return Answer.cancellation (← mintCancellation options readings context runId)) := by
  refine coupled_bind (E := Eq) ?_ fun a b _ _ hab hv => coupled_pure (by rw [hab]; rfl) hv
  unfold mintCancellation
  refine coupled_readPlane_bind ?_
  refine coupled_check_bind (fun plane => admitCancellation options readings plane context runId)
    (fun plane => admitCancellation_within options readings plane runId) h
    fun (workspaceId, cancellation) hok => ?_
  obtain rfl := (CancellationAdmitted.of_ok hok).2.workspace
  exact coupled_writePlane_bind (local_withCancellation cancellation) h
    fun _ _ hv => coupled_pure rfl hv

/-! ### Executing and settling -/

theorem executeDispatch_coupled (h : InStep context.workspaceId start w w')
    (dispatch : RuntimeDispatchPermit) :
    KeepsInStep context.workspaceId start w w'
      (do
        let (call, frame) ← executeDispatch options readings context dispatch
        return Answer.startCalled call frame) := by
  refine coupled_bind (E := fun a b => a.2 = b.2) ?_ fun (_, frame) (_, frame') _ _ hframe hv => ?_
  · unfold executeDispatch
    refine coupled_bind (E := Eq) ?_ fun stored _ v v' hstored hv => ?_
    · unfold claimDispatch
      refine coupled_readPlane_bind ?_
      refine coupled_check_bind (fun plane => ownedDispatch plane context dispatch)
        (fun plane => ownedDispatch_within plane dispatch) h fun stored _ => ?_
      refine coupled_bind (E := fun _ _ => True) ?_ fun _ _ v v' _ hv => ?_
      · exact coupled_check_tryCatch
          (fun plane => revalidateDispatch options readings plane context stored)
          (fun plane => revalidateDispatch_within options readings plane stored) h
          fun e v v' hv => coupled_writePlane_throw (local_dropDispatch _ _) hv e
      · exact coupled_writePlane_bind (local_claimDispatch _ _ _) hv
          fun _ _ hu => coupled_pure rfl hu
    · subst hstored
      refine coupled_readPlane_bind ?_
      refine coupled_check_bind (fun plane => startCall plane context stored)
        (fun plane => startCall_within plane stored) hv fun frame hcalled => ?_
      have hcontext := (StartCalled.of_ok hcalled).context_eq
      refine coupled_bind (E := fun _ _ => True)
        (coupled_modify (hv.awaitStart (congrArg WorkspaceContext.workspaceId hcontext))) ?_
      intro _ _ u u' _ hu
      exact coupled_pure rfl hu
  · obtain rfl : frame = frame' := hframe
    exact coupled_pure rfl hv

theorem executeCancellation_coupled (h : InStep context.workspaceId start w w')
    (cancellation : RuntimeCancellationPermit) :
    KeepsInStep context.workspaceId start w w'
      (do
        let (call, frame) ← executeCancellation context cancellation
        return Answer.cancelCalled call frame) := by
  refine coupled_bind (E := fun a b => a.2 = b.2) ?_ fun (_, frame) (_, frame') _ _ hframe hv => ?_
  · unfold executeCancellation
    refine coupled_bind (E := Eq) ?_ fun stored _ v v' hstored hv => ?_
    · unfold claimCancellation
      refine coupled_readPlane_bind ?_
      refine coupled_check_bind (fun plane => ownedCancellation plane context cancellation)
        (fun plane => ownedCancellation_within plane cancellation) h fun stored _ => ?_
      refine coupled_bind (E := fun _ _ => True) ?_ fun _ _ v v' _ hv => ?_
      · exact coupled_check_tryCatch (fun plane => revalidateCancellation plane context stored)
          (fun plane => revalidateCancellation_within plane stored) h
          fun e v v' hv => coupled_writePlane_throw (local_dropCancellation _ _) hv e
      · exact coupled_writePlane_bind (local_claimCancellation _) hv
          fun _ _ hu => coupled_pure rfl hu
    · subst hstored
      refine coupled_readPlane_bind ?_
      have hcall : cancelCall v.plane context stored = cancelCall v'.plane context stored :=
        hv.agree.eq_of_within (f := fun plane => cancelCall plane context stored)
          fun plane => cancelCall_within plane stored
      refine coupled_bind (E := fun frame frame' => frame = frame' ∧ frame.context = context) ?_
        fun frame frame' u u' hframe hu => ?_
      · refine coupled_tryCatch ?_ fun e u u' hu => ?_
        · rw [← hcall]
          refine ⟨?_, hv⟩
          show Outcomes _ (cancelCall v.plane context stored) (cancelCall v.plane context stored)
          cases hcalled : cancelCall v.plane context stored with
          | ok frame => exact ⟨rfl, (frame_of_cancelCall hcalled).1⟩
          | error e => rfl
        · exact coupled_writePlane_throw (local_reopenCancellation _) hu e
      · obtain ⟨rfl, hcontext⟩ := hframe
        refine coupled_bind (E := fun _ _ => True) (coupled_modify
          (hu.awaitCancellation (congrArg WorkspaceContext.workspaceId hcontext))) ?_
        intro _ _ t t' _ ht
        exact coupled_pure rfl ht
  · obtain rfl : frame = frame' := hframe
    exact coupled_pure rfl hv

variable {frame : PendingStart}

/-- Binding the external run of an awaited start. -/
theorem bindStarted_coupled (h : InStep frame.context.workspaceId start w w') (externalRunId : Option Json) :
    Coupled Eq (InStep frame.context.workspaceId start) (bindStarted frame externalRunId) w
      (bindStarted frame externalRunId) w' := by
  unfold bindStarted
  refine coupled_lift_bind rfl h fun _ _ => ?_
  split
  · rename_i externalId _
    unfold bindExternalRun
    simp only [bind_assoc]
    refine coupled_readPlane_bind ?_
    refine coupled_check_bind (fun plane => admitBinding plane frame.context frame.runId externalId
        frame.registration.registrationId)
      (fun plane => admitBinding_within plane _ _ _) h fun run hadmitted => ?_
    obtain ⟨connection, hadmitted⟩ := BindingAdmitted.of_ok hadmitted
    have hrun : run.workspaceId = frame.context.workspaceId := workspace_of_get? hadmitted.found
    refine coupled_writePlane_bind (Local.put runsField { run with
      externalRunId := some externalId
      adapterRegistrationId := some frame.registration.registrationId } hrun) h fun _ _ hv => ?_
    exact coupled_pure rfl hv
  · exact coupled_throw h

section Settlements

variable {i number number' : Nat}

theorem startResolved_coupled (h : InStep frame.context.workspaceId start w w')
    (hcall : (w.plane.startsOf frame.context.workspaceId)[i]? = some (number, frame))
    (hcall' : (w'.plane.startsOf frame.context.workspaceId)[i]? = some (number', frame))
    (externalRunId : Option Json) :
    Coupled SameAnswer (InStep frame.context.workspaceId start)
      (do return Answer.started (← startResolved number frame externalRunId)) w
      (do return Answer.started (← startResolved number' frame externalRunId)) w' := by
  refine coupled_bind (E := Eq) ?_ fun a b _ _ hab hv => coupled_pure (by rw [hab]; rfl) hv
  unfold startResolved
  refine coupled_bind (E := fun _ _ => True) (coupled_modify (h.resumeStart hcall hcall')) ?_
  intro _ _ v v' _ hv
  refine coupled_bind (E := Eq) ?_ fun a b u u' hab hu => ?_
  · refine coupled_tryCatch (bindStarted_coupled hv externalRunId) fun e u u' hu => ?_
    exact coupled_writePlane_throw (local_releaseStart _) hu e
  · exact coupled_writePlane_bind (local_releaseStart _) hu fun _ _ ht => coupled_pure hab ht

theorem startRejected_coupled (h : InStep frame.context.workspaceId start w w')
    (hcall : (w.plane.startsOf frame.context.workspaceId)[i]? = some (number, frame))
    (hcall' : (w'.plane.startsOf frame.context.workspaceId)[i]? = some (number', frame))
    (error : Failure) :
    Coupled SameAnswer (InStep frame.context.workspaceId start)
      (do startRejected number frame error; return Answer.done) w
      (do startRejected number' frame error; return Answer.done) w' := by
  refine coupled_done (E := fun _ _ => True) ?_
  unfold startRejected
  refine coupled_bind (E := fun _ _ => True) (coupled_modify (h.resumeStart hcall hcall')) ?_
  intro _ _ v v' _ hv
  exact coupled_writePlane_throw (local_releaseStart _) hv error

theorem cancelResolved_coupled {frame : PendingCancellation}
    (h : InStep frame.context.workspaceId start w w')
    (hcall : (w.plane.cancellationsOf frame.context.workspaceId)[i]? = some (number, frame))
    (hcall' : (w'.plane.cancellationsOf frame.context.workspaceId)[i]? = some (number', frame)) :
    Coupled SameAnswer (InStep frame.context.workspaceId start)
      (do cancelResolved number frame; return Answer.done) w
      (do cancelResolved number' frame; return Answer.done) w' := by
  refine coupled_done (E := fun _ _ => True) ?_
  unfold cancelResolved
  refine coupled_bind (E := fun _ _ => True) (coupled_modify (h.resumeCancellation hcall hcall')) ?_
  intro _ _ v v' _ hv
  exact coupled_writePlane (local_cancelled _) hv

theorem cancelRejected_coupled {frame : PendingCancellation}
    (h : InStep frame.context.workspaceId start w w')
    (hcall : (w.plane.cancellationsOf frame.context.workspaceId)[i]? = some (number, frame))
    (hcall' : (w'.plane.cancellationsOf frame.context.workspaceId)[i]? = some (number', frame))
    (error : Failure) :
    Coupled SameAnswer (InStep frame.context.workspaceId start)
      (do cancelRejected number frame error; return Answer.done) w
      (do cancelRejected number' frame error; return Answer.done) w' := by
  refine coupled_done (E := fun _ _ => True) ?_
  unfold cancelRejected
  refine coupled_bind (E := fun _ _ => True) (coupled_modify (h.resumeCancellation hcall hcall')) ?_
  intro _ _ v v' _ hv
  exact coupled_writePlane_throw (local_reopenCancellation _) hv error

end Settlements

/-! ## Calls -/

/-- The caller of a public call. A settlement has none: it resumes the call of another. -/
def Call.caller : Call → Option WorkspaceContext
  | .putRuntime context _ => some context
  | .registerRuntimeAdapter context _ _ => some context
  | .putCapability context _ => some context
  | .putTool context _ => some context
  | .putAgent context _ => some context
  | .getAgent context _ => some context
  | .grantAgentCapability context _ => some context
  | .grantTool context _ => some context
  | .grantAuthority context _ => some context
  | .putConnection context _ => some context
  | .recordHeartbeat context _ => some context
  | .deriveConnectionStatus context _ => some context
  | .createTask context _ => some context
  | .getTask context _ => some context
  | .getRun context _ => some context
  | .transitionTask context _ _ => some context
  | .startRun context _ => some context
  | .mintDispatch context _ => some context
  | .executeDispatch context _ => some context
  | .startResolved _ _ => none
  | .startRejected _ _ => none
  | .mintCancellation context _ => some context
  | .executeCancellation context _ => some context
  | .cancelResolved _ => none
  | .cancelRejected _ _ => none
  | .transitionRun context _ _ => some context
  | .appendEvent context _ => some context
  | .recordUsage context _ => some context

/-- The same operation of a workspace on two planes: one call, or the same settlement of the calls
suspended at one position. -/
inductive SameOperation (workspaceId : EntityId) (plane plane' : Plane) : Call → Call → Prop
  | call {call : Call} {context : WorkspaceContext} (caller : call.caller = some context)
      (workspace : context.workspaceId = workspaceId) : SameOperation workspaceId plane plane' call call
  | startResolved {i number number' : Nat} {frame frame' : PendingStart}
      (at_left : (plane.startsOf workspaceId)[i]? = some (number, frame))
      (at_right : (plane'.startsOf workspaceId)[i]? = some (number', frame'))
      (externalRunId : Option Json) : SameOperation workspaceId plane plane'
        (.startResolved number externalRunId) (.startResolved number' externalRunId)
  | startRejected {i number number' : Nat} {frame frame' : PendingStart}
      (at_left : (plane.startsOf workspaceId)[i]? = some (number, frame))
      (at_right : (plane'.startsOf workspaceId)[i]? = some (number', frame'))
      (error : Failure) : SameOperation workspaceId plane plane'
        (.startRejected number error) (.startRejected number' error)
  | cancelResolved {i number number' : Nat} {frame frame' : PendingCancellation}
      (at_left : (plane.cancellationsOf workspaceId)[i]? = some (number, frame))
      (at_right : (plane'.cancellationsOf workspaceId)[i]? = some (number', frame')) :
      SameOperation workspaceId plane plane' (.cancelResolved number) (.cancelResolved number')
  | cancelRejected {i number number' : Nat} {frame frame' : PendingCancellation}
      (at_left : (plane.cancellationsOf workspaceId)[i]? = some (number, frame))
      (at_right : (plane'.cancellationsOf workspaceId)[i]? = some (number', frame'))
      (error : Failure) : SameOperation workspaceId plane plane'
        (.cancelRejected number error) (.cancelRejected number' error)

/-- A read of the caller's workspace. -/
theorem read_coupled (h : InStep context.workspaceId start w w') (f : Plane → Answer)
    (hf : ∀ plane : Plane, f (plane.within context.workspaceId) = f plane) :
    KeepsInStep context.workspaceId start w w'
      (do return f (← readPlane)) := by
  refine coupled_readPlane_bind (coupled_pure ?_ h)
  rw [h.agree.eq_of_within hf]
  rfl

/-- **Every call keeps two runs in step.** -/
theorem call_coupled (hsink : options.eventSink = none)
    (hseparate : SeparateRegistrations w.plane) (hseparate' : SeparateRegistrations w'.plane)
    {call : Call} (hcaller : call.caller = some context)
    (h : InStep context.workspaceId start w w') :
    KeepsInStep context.workspaceId start w w'
      (answer options readings call) := by
  cases call with
  | startResolved _ _ | startRejected _ _ | cancelResolved _ | cancelRejected _ _ => cases hcaller
  | putRuntime _ runtime =>
    cases hcaller
    exact administer_coupled h (fun _ => rfl) fun hws => Local.put runtimesField _ hws
  | registerRuntimeAdapter _ runtimeId adapter =>
    cases hcaller
    exact registerRuntimeAdapter_coupled h hseparate hseparate' runtimeId adapter
  | putCapability _ capability =>
    cases hcaller
    exact administer_coupled h (fun _ => rfl) fun hws => Local.put capabilitiesField _ hws
  | putTool _ tool =>
    cases hcaller
    exact administer_coupled h (fun _ => rfl) fun hws => Local.put toolsField _ hws
  | putAgent _ agent =>
    cases hcaller
    refine administer_coupled h (fun plane => ?_) fun hws => Local.put agentsField _ hws
    simp only [Plane.within_runtimes, requireRecord_restrict]
  | getAgent _ agentId =>
    cases hcaller
    refine read_coupled h (fun plane => .agent (plane.agents.get? (key context.workspaceId agentId)))
      fun plane => ?_
    simp only [Plane.within_agents, get?_restrict_key]
  | grantAgentCapability _ grant =>
    cases hcaller
    refine administer_coupled h (fun plane => ?_) fun hws => Local.put agentCapabilitiesField _ hws
    simp only [Plane.within_agents, Plane.within_capabilities, requireRecord_restrict]
  | grantTool _ grant =>
    cases hcaller
    refine administer_coupled h (fun plane => ?_) fun hws => Local.put toolGrantsField _ hws
    simp only [Plane.within_agents, Plane.within_tools, requireRecord_restrict]
  | grantAuthority _ grant =>
    cases hcaller
    refine administer_coupled h (fun plane => ?_) fun hws => Local.put authorityGrantsField _ hws
    simp only [Plane.within_agents, requireRecord_restrict]
  | putConnection _ connection =>
    cases hcaller
    exact putConnection_coupled hsink h connection
  | recordHeartbeat _ heartbeat =>
    cases hcaller
    exact checked_coupled h (emitOperationalEvent_of_no_sink hsink _)
      (fun plane => admitHeartbeat_within options plane heartbeat)
      fun _ hok => Local.put heartbeatsField _ (workspace_of_ok hok)
  | deriveConnectionStatus _ connectionId =>
    cases hcaller
    refine coupled_readPlane_bind (coupled_check_bind
      (fun plane => deriveConnectionStatus options readings.now plane context connectionId)
      (fun plane => deriveConnectionStatus_within options readings.now plane connectionId) h
      fun status _ => coupled_pure rfl h)
  | createTask _ task =>
    cases hcaller
    exact checked_coupled h (emitOperationalEvent_of_no_sink hsink _)
      (fun plane => admitTask_within options readings plane task)
      fun _ hok => Local.put tasksField _ (workspace_of_ok hok)
  | getTask _ taskId =>
    cases hcaller
    refine read_coupled h (fun plane => .task (plane.tasks.get? (key context.workspaceId taskId)))
      fun plane => ?_
    simp only [Plane.within_tasks, get?_restrict_key]
  | getRun _ runId =>
    cases hcaller
    refine read_coupled h (fun plane => .run (plane.runs.get? (key context.workspaceId runId)))
      fun plane => ?_
    simp only [Plane.within_runs, get?_restrict_key]
  | transitionTask _ taskId next =>
    cases hcaller
    exact transitionTask_coupled hsink h taskId next
  | startRun _ run =>
    cases hcaller
    exact checked_coupled h (emitOperationalEvent_of_no_sink hsink _)
      (fun plane => admitRun_within options readings plane run)
      fun _ hok => Local.put runsField _ (workspace_of_ok hok)
  | mintDispatch _ runId =>
    cases hcaller
    exact mintDispatch_coupled h runId
  | executeDispatch _ dispatch =>
    cases hcaller
    exact executeDispatch_coupled h dispatch
  | mintCancellation _ runId =>
    cases hcaller
    exact mintCancellation_coupled h runId
  | executeCancellation _ cancellation =>
    cases hcaller
    exact executeCancellation_coupled h cancellation
  | transitionRun _ runId next =>
    cases hcaller
    exact transitionRun_coupled hsink h runId next
  | appendEvent _ event =>
    cases hcaller
    refine checked_coupled h (emitProjectedEvent_of_no_sink hsink event)
      (fun plane => admitEvent_within plane event) fun _ hok => ?_
    have hws : event.workspaceId = context.workspaceId := workspace_of_ok hok
    rw [hws]
    exact (local_idempotency _ _).comp (Local.put eventsByIdField _ hws)
  | recordUsage _ usage =>
    cases hcaller
    exact checked_coupled h (emitOperationalEvent_of_no_sink hsink _)
      (fun plane => admitUsage_within options plane usage)
      fun _ hok => Local.put usageField _ (workspace_of_ok hok)

/-- **Every operation keeps two runs in step,** settlements included. -/
theorem operation_coupled (hsink : options.eventSink = none)
    (hseparate : SeparateRegistrations w.plane) (hseparate' : SeparateRegistrations w'.plane)
    {call call' : Call}
    (hsame : SameOperation workspaceId w.plane w'.plane call call')
    (h : InStep workspaceId start w w') :
    Coupled SameAnswer (InStep workspaceId start) (answer options readings call) w
      (answer options readings call') w' := by
  cases hsame with
  | call caller workspace =>
    subst workspace
    exact call_coupled hsink hseparate hseparate' caller h
  | startResolved at_left at_right externalRunId =>
    obtain rfl := frame_eq_of_map_snd_eq h.agree.starts at_left at_right
    obtain ⟨hpending, rfl⟩ := get?_of_callsOf at_left
    obtain ⟨hpending', -⟩ := get?_of_callsOf at_right
    refine coupled_readPlane_bind ?_
    rw [hpending, hpending']
    exact startResolved_coupled h at_left at_right externalRunId
  | startRejected at_left at_right error =>
    obtain rfl := frame_eq_of_map_snd_eq h.agree.starts at_left at_right
    obtain ⟨hpending, rfl⟩ := get?_of_callsOf at_left
    obtain ⟨hpending', -⟩ := get?_of_callsOf at_right
    refine coupled_readPlane_bind ?_
    rw [hpending, hpending']
    exact startRejected_coupled h at_left at_right error
  | cancelResolved at_left at_right =>
    obtain rfl := frame_eq_of_map_snd_eq h.agree.cancellations at_left at_right
    obtain ⟨hpending, rfl⟩ := get?_of_callsOf at_left
    obtain ⟨hpending', -⟩ := get?_of_callsOf at_right
    refine coupled_readPlane_bind ?_
    rw [hpending, hpending']
    exact cancelResolved_coupled h at_left at_right
  | cancelRejected at_left at_right error =>
    obtain rfl := frame_eq_of_map_snd_eq h.agree.cancellations at_left at_right
    obtain ⟨hpending, rfl⟩ := get?_of_callsOf at_left
    obtain ⟨hpending', -⟩ := get?_of_callsOf at_right
    refine coupled_readPlane_bind ?_
    rw [hpending, hpending']
    exact cancelRejected_coupled h at_left at_right error

/-! ## Invariants -/

/-- Every effect takes the next call number or none. -/
theorem Numbered.effect {plane plane' : Plane} {call : Call} {outcome : Except Failure Answer}
    (h : Numbered plane) (he : Effect options readings plane call outcome plane') :
    Numbered plane' := by
  cases he with
  | calledStart owned valid called => exact Numbered.awaitStart h _
  | calledCancel owned valid called => exact Numbered.awaitCancellation h _
  | boundRun pending admitted => exact Numbered.resumeStart h _
  | failedStart settles pending => exact Numbered.resumeStart h _
  | cancelResolved pending => exact Numbered.resumeCancellation h _
  | cancelRejected pending => exact Numbered.resumeCancellation h _
  | _ => exact h

theorem Numbered.of_reachable {plane : Plane} (h : Reachable options plane) : Numbered plane :=
  h.induction (fun _ _ => ⟨rfl, rfl⟩) fun _ hn he => hn.effect he

/-- The identifier a registration was given. -/
def Label.registrationId (l : Label) : Option EntityId :=
  match l.call with
  | .registerRuntimeAdapter _ _ _ => some l.readings.uuid
  | _ => none

/-- No two registrations were given the same identifier: `randomUUID` does not repeat itself. -/
def UniqueRegistrations (labels : List Label) : Prop :=
  labels.Pairwise fun l l' => ∀ id, l.registrationId = some id → l'.registrationId ≠ some id

instance (labels : List Label) : Decidable (UniqueRegistrations labels) :=
  have : DecidableRel fun l l' : Label =>
      ∀ id, l.registrationId = some id → l'.registrationId ≠ some id := fun l l' =>
    match hl : l.registrationId with
    | none => isTrue fun id hid => by rw [hl] at hid; cases hid
    | some id =>
      if hl' : l'.registrationId = some id then
        isFalse fun h => h id hl hl'
      else isTrue fun id' hid' => by
        rw [hl, Option.some.injEq] at hid'
        exact hid' ▸ hl'
  List.instDecidablePairwise labels

/-- The registration was made by a label of the run, in the workspace. -/
def RegisteredIn (labels : List Label) (workspaceId registrationId : EntityId) : Prop :=
  ∃ l ∈ labels, ∃ context : WorkspaceContext, l.call.caller = some context
    ∧ context.workspaceId = workspaceId ∧ l.registrationId = some registrationId

/-- Every registration in use was made by a label of the run, in the workspace it is used in. -/
structure RegistrationsRecorded (labels : List Label) (plane : Plane) : Prop where
  adapters : ∀ adapterKey registration,
    plane.runtimeAdapters.get? adapterKey = some registration →
    RegisteredIn labels adapterKey.1 registration.registrationId
  inFlight : ∀ runKey registrationId,
    plane.inFlightDispatchAdapters.get? runKey = some registrationId →
    RegisteredIn labels runKey.1 registrationId

theorem RegisteredIn.append {labels : List Label} {registrationId : EntityId}
    (h : RegisteredIn labels workspaceId registrationId) (more : List Label) :
    RegisteredIn (labels ++ more) workspaceId registrationId := by
  obtain ⟨l, hl, hrest⟩ := h
  exact ⟨l, List.mem_append_left more hl, hrest⟩

namespace RegistrationsRecorded

variable {labels : List Label} {plane : Plane}

/-- Later labels keep what is recorded. -/
theorem append (h : RegistrationsRecorded labels plane) (more : List Label) :
    RegistrationsRecorded (labels ++ more) plane :=
  ⟨fun adapterKey registration hget => (h.adapters adapterKey registration hget).append more,
    fun runKey registrationId hget => (h.inFlight runKey registrationId hget).append more⟩

/-- A valid permit names an adapter registered in the caller's workspace. -/
theorem of_valid (h : RegistrationsRecorded labels plane) {stored : RuntimeDispatchPermit}
    (hvalid : revalidateDispatch options readings plane context stored = .ok ()) :
    RegisteredIn labels context.workspaceId stored.adapterRegistrationId := by
  obtain ⟨run, connection, registration, hvalid⟩ := DispatchValid.of_ok hvalid
  rw [← hvalid.registration_id]
  exact h.adapters _ _ hvalid.registered

/-- Claiming a dispatch records its registration as in flight. -/
theorem claim (h : RegistrationsRecorded labels plane) {dispatchKey : Key} {runId : EntityId}
    {stored : RuntimeDispatchPermit}
    (hvalid : revalidateDispatch options readings plane context stored = .ok ()) :
    RegistrationsRecorded labels (plane.claimDispatch dispatchKey (key context.workspaceId runId)
      stored.adapterRegistrationId) := by
  refine ⟨h.adapters, fun runKey registrationId hget => ?_⟩
  change (plane.inFlightDispatchAdapters.set _ _).get? runKey = some registrationId at hget
  rw [OrderedMap.get?_set] at hget
  split at hget
  · rename_i hrunKey
    rw [Option.some.injEq] at hget
    rw [hrunKey, ← hget]
    exact h.of_valid hvalid
  · exact h.inFlight runKey registrationId hget

/-- Releasing a dispatch keeps the others. -/
theorem release (h : RegistrationsRecorded labels plane) (released : Key) :
    ∀ runKey registrationId,
      (plane.inFlightDispatchAdapters.delete released).get? runKey = some registrationId →
      RegisteredIn labels runKey.1 registrationId := by
  intro runKey registrationId hget
  rw [OrderedMap.get?_delete] at hget
  split at hget
  · cases hget
  · exact h.inFlight runKey registrationId hget

/-- Every effect records the registrations it puts to use. -/
theorem effect (h : RegistrationsRecorded labels plane) {l : Label} {plane' : Plane}
    {outcome : Except Failure Answer}
    (he : Effect options l.readings plane l.call outcome plane') :
    RegistrationsRecorded (labels ++ [l]) plane' := by
  obtain ⟨readings, call⟩ := l
  cases he with
  | @registerRuntimeAdapter context runtimeId adapter runtime admitted =>
    refine ⟨fun adapterKey registration hget => ?_, (h.append _).inFlight⟩
    change (plane.runtimeAdapters.set _ _).get? adapterKey = some registration at hget
    rw [OrderedMap.get?_set] at hget
    split at hget
    · rename_i hkey
      rw [Option.some.injEq] at hget
      refine ⟨_, List.mem_append_right _ (List.mem_singleton.mpr rfl), context, rfl, ?_, ?_⟩
      · rw [hkey, key]
      · rw [← hget]
        rfl
    · exact (h.append _).adapters adapterKey registration hget
  | lostStart owned valid lost => exact (h.claim valid).append _
  | @calledStart context dispatch stored frame owned valid called =>
    have hclaimed : RegistrationsRecorded labels
        (plane.claimDispatch (key context.workspaceId dispatch.dispatchId)
          (key context.workspaceId stored.envelope.runId) stored.adapterRegistrationId) :=
      h.claim valid
    exact ⟨(hclaimed.append _).adapters, (hclaimed.append _).inFlight⟩
  | boundRun pending admitted => exact ⟨(h.append _).adapters, (h.append _).release _⟩
  | failedStart settles pending => exact ⟨(h.append _).adapters, (h.append _).release _⟩
  | _ => exact ⟨(h.append _).adapters, (h.append _).inFlight⟩

theorem of_reach (options : Options σ) (sink : σ) (labels : List Label) :
    RegistrationsRecorded labels (reach options sink labels).plane := by
  induction labels using List.reverseRecOn with
  | nil =>
    refine ⟨fun _ _ hget => ?_, fun _ _ hget => ?_⟩
    · cases hget
    · cases hget
  | append_singleton labels l ih =>
    have hstep : reach options sink (labels ++ [l])
        = (perform options l (reach options sink labels)).2 := run_concat (perform options) _ _ _
    rw [hstep]
    exact ih.effect (perform_effect options l _)

/-- With unique registrations, an adapter and an in-flight dispatch of one registration are in one
workspace. -/
theorem separate (h : RegistrationsRecorded labels plane) (hunique : UniqueRegistrations labels) :
    SeparateRegistrations plane := by
  intro adapterKey registration runKey registrationId hadapter hflight hid
  obtain ⟨l, hl, c, hcaller, hws, hreg⟩ := h.adapters adapterKey registration hadapter
  obtain ⟨l', hl', c', hcaller', hws', hreg'⟩ := h.inFlight runKey registrationId hflight
  -- Both were made by a label that met this identifier, and there is only one.
  have heq : l = l' := by
    by_contra hne
    have hsymm : Std.Symm fun l l' : Label =>
        ∀ id, l.registrationId = some id → l'.registrationId ≠ some id :=
      ⟨fun a b hab id hb ha => hab id ha hb⟩
    exact List.Pairwise.forall hunique hl hl' hne registrationId (hid ▸ hreg) hreg'
  subst heq
  obtain rfl : c = c' := Option.some.inj (hcaller.symm.trans hcaller')
  exact hws.symm.trans hws'

end RegistrationsRecorded

/-! ## Generated identifiers -/

/-- Whatever the test, an outcome is like itself. -/
theorem outcomes_refl (x : Except Failure α) : Outcomes (fun _ _ => True) x x := by
  cases x <;> trivial

theorem outcomes_map {β : Type} (f : α → β) (x : Except Failure α) :
    Outcomes (fun _ _ => True) x (f <$> x) := by
  cases x <;> trivial

/-- The permit of a dispatch has the generated identifier, and nothing else depends on it. -/
theorem admitDispatch_uuid (plane : Plane) (runId uuid : EntityId) :
    admitDispatch options { readings with uuid := uuid } plane context runId
      = (fun r => (r.1, { r.2 with dispatchId := uuid }))
          <$> admitDispatch options readings plane context runId := by
  unfold admitDispatch
  simp only [map_bind]
  refine except_bind_congr rfl fun run _ => except_bind_congr rfl fun _ _ => ?_
  refine except_bind_congr rfl fun _ _ => except_bind_congr rfl fun connection _ => ?_
  refine except_bind_congr rfl fun _ _ => ?_
  split
  · rfl
  · simp only [map_bind]
    exact except_bind_congr rfl fun task _ => except_bind_congr rfl fun _ _ => rfl

/-- The permit of a cancellation has the generated identifier, and nothing else depends on it. -/
theorem admitCancellation_uuid (plane : Plane) (runId uuid : EntityId) :
    admitCancellation options { readings with uuid := uuid } plane context runId
      = (fun r => (r.1, { r.2 with cancellationId := uuid }))
          <$> admitCancellation options readings plane context runId := by
  unfold admitCancellation
  simp only [map_bind]
  refine except_bind_congr rfl fun run _ => ?_
  split
  · simp only [map_bind]
    refine except_bind_congr rfl fun _ _ => except_bind_congr rfl fun _ _ => ?_
    refine except_bind_congr rfl fun connection _ => except_bind_congr rfl fun _ _ => ?_
    split
    · rfl
    · simp only [map_bind]
      exact except_bind_congr rfl fun _ _ => rfl
  · rfl

/-- **Whether a call throws, and what, does not depend on the identifier generated in it.** -/
theorem outcome_uuid (uuid : EntityId) (call : Call) (w : World σ) :
    Outcomes (fun _ _ => True) (perform options ⟨readings, call⟩ w).1
      (perform options ⟨{ readings with uuid := uuid }, call⟩ w).1 := by
  -- Three calls generate an identifier; the others do not read it.
  cases call with
  | registerRuntimeAdapter context runtimeId adapter =>
    refine (coupled_bind (R := fun _ _ => True) (E := fun _ _ => True) ?_
      fun _ _ _ _ _ _ => coupled_pure trivial trivial).1
    exact coupled_readPlane_bind
      (coupled_lift_bind rfl trivial fun runtime _ => coupled_modify trivial)
  | mintDispatch context runId =>
    refine (coupled_bind (R := fun _ _ => True) (E := fun _ _ => True) ?_
      fun _ _ _ _ _ _ => coupled_pure trivial trivial).1
    refine coupled_readPlane_bind (coupled_bind (E := fun _ _ => True) ⟨?_, trivial⟩
      fun _ _ _ _ _ _ => ⟨trivial, trivial⟩)
    show Outcomes _ (admitDispatch options readings w.plane context runId)
      (admitDispatch options { readings with uuid := uuid } w.plane context runId)
    rw [admitDispatch_uuid w.plane runId uuid]
    exact outcomes_map _ _
  | mintCancellation context runId =>
    refine (coupled_bind (R := fun _ _ => True) (E := fun _ _ => True) ?_
      fun _ _ _ _ _ _ => coupled_pure trivial trivial).1
    refine coupled_readPlane_bind (coupled_bind (E := fun _ _ => True) ⟨?_, trivial⟩
      fun _ _ _ _ _ _ => ⟨trivial, trivial⟩)
    show Outcomes _ (admitCancellation options readings w.plane context runId)
      (admitCancellation options { readings with uuid := uuid } w.plane context runId)
    rw [admitCancellation_uuid w.plane runId uuid]
    exact outcomes_map _ _
  | _ => exact outcomes_refl _

/-! ## Noninterference -/

/-- **Workspace noninterference.** Take two states, each reached by any sequence of calls without an
event sink, that agree on a workspace, and an operation of that workspace with the same clock and
generated identifier on both. The executions throw the same error or return the same answer and lead
to states that agree on the workspace again; nothing of any other workspace has changed; and whether
and what the operation throws does not depend on the generated identifier. -/
theorem workspaces_do_not_interfere (options : Options σ) (hsink : options.eventSink = none)
    (sink sink' : σ) (labels labels' : List Label) (hunique : UniqueRegistrations labels)
    (hunique' : UniqueRegistrations labels') (workspaceId : EntityId)
    (hagree : Agree workspaceId (reach options sink labels).plane (reach options sink' labels').plane)
    (readings : Readings) (call call' : Call)
    (hsame : SameOperation workspaceId (reach options sink labels).plane
      (reach options sink' labels').plane call call') :
    Outcomes SameAnswer (perform options ⟨readings, call⟩ (reach options sink labels)).1
      (perform options ⟨readings, call'⟩ (reach options sink' labels')).1 ∧
    Agree workspaceId (perform options ⟨readings, call⟩ (reach options sink labels)).2.plane
      (perform options ⟨readings, call'⟩ (reach options sink' labels')).2.plane ∧
    (∀ other, other ≠ workspaceId → Unchanged other (reach options sink labels).plane
      (perform options ⟨readings, call⟩ (reach options sink labels)).2.plane) ∧
    ∀ uuid, Outcomes (fun _ _ => True)
      (perform options ⟨readings, call⟩ (reach options sink labels)).1
      (perform options ⟨{ readings with uuid := uuid }, call⟩ (reach options sink labels)).1 := by
  have hseparate := (RegistrationsRecorded.of_reach options sink labels).separate hunique
  have hseparate' := (RegistrationsRecorded.of_reach options sink' labels').separate hunique'
  have hstep : InStep workspaceId (reach options sink labels).plane (reach options sink labels)
      (reach options sink' labels') :=
    { agree := hagree
      outside := fun other _ => Unchanged.refl other _
      numbered := Numbered.of_reachable (reachable_reach options sink labels)
      numbered' := Numbered.of_reachable (reachable_reach options sink' labels') }
  have hcoupled : Coupled SameAnswer (InStep workspaceId (reach options sink labels).plane)
      (answer options readings call) (reach options sink labels)
      (answer options readings call') (reach options sink' labels') :=
    operation_coupled hsink hseparate hseparate' hsame hstep
  exact ⟨hcoupled.1, hcoupled.2.agree, hcoupled.2.outside, fun uuid => outcome_uuid uuid call _⟩

/-- A runtime of the sample workspace, alone. -/
def Sample.alone : List Label := [at0 "" (.putRuntime founder ⟨"r", "w", "", "k", epoch⟩)]

/-- The same runtime, after a runtime of the same name in another workspace. -/
def Sample.beside : List Label :=
  at0 "" (.putRuntime ⟨"v", "f"⟩ ⟨"r", "v", "", "k", epoch⟩) :: Sample.alone

/-- Registering an adapter for the runtime is not affected by the other workspace. -/
theorem sample_workspaces_do_not_interfere :
    Agree "w" (reach Sample.options () Sample.alone).plane
      (reach Sample.options () Sample.beside).plane ∧
    Agree "w"
      (perform Sample.options ⟨⟨0, "g", ""⟩, .registerRuntimeAdapter Sample.founder "r" ⟨"k"⟩⟩
        (reach Sample.options () Sample.alone)).2.plane
      (perform Sample.options ⟨⟨0, "g", ""⟩, .registerRuntimeAdapter Sample.founder "r" ⟨"k"⟩⟩
        (reach Sample.options () Sample.beside)).2.plane := by
  have hagree : Agree "w" (reach Sample.options () Sample.alone).plane
      (reach Sample.options () Sample.beside).plane := ⟨by rfl, by rfl, by rfl⟩
  refine ⟨hagree, ?_⟩
  exact (workspaces_do_not_interfere Sample.options rfl () () Sample.alone Sample.beside
    (by decide) (by decide) "w" hagree ⟨0, "g", ""⟩ _ _ (.call rfl rfl)).2.1

end VentureOS.ControlPlane
