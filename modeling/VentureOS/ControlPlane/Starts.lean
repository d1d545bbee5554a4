import VentureOS.ControlPlane.Ownership

/-! # Awaited starts

Between the claim of a permit and the settling of `adapter.start` any other call may run. `Awaited`
lists what the binding of the external run will ask for, and `Awaiting` says that every suspended
`executeDispatch` finds it, that suspended calls are one to a run, and that the in-flight marks are
exactly the runs of suspended calls. Each mutator that could break one of these is refused while the
call is awaited, which is what the cases of `Awaiting.effect` show. -/

namespace VentureOS.ControlPlane

open Program

variable {σ : Type} {options : Options σ} {readings : Readings} {plane plane' : Plane} {call : Call}
  {outcome : Except Failure Answer}

/-! ## What an awaited start rests on -/

/-- The part of the plane that suspended starts depend on. -/
structure StartView where
  runs : Store Key AgentRun
  connections : Store Key RuntimeConnection
  runtimeAdapters : OrderedMap Key AdapterRegistration
  claimed : Finset Key
  inFlight : OrderedMap Key EntityId
  pending : OrderedMap Nat PendingStart
  adapterCalls : Nat

/-- The view of a plane. -/
def Plane.startView (plane : Plane) : StartView where
  runs := plane.runs
  connections := plane.connections
  runtimeAdapters := plane.runtimeAdapters
  claimed := plane.claimedDispatchRuns
  inFlight := plane.inFlightDispatchAdapters
  pending := plane.pendingStarts
  adapterCalls := plane.adapterCalls

/-- What the binding of an awaited start will find. -/
structure Awaited (v : StartView) (frame : PendingStart) (run : AgentRun)
    (connection : RuntimeConnection) : Prop where
  run_found : v.runs.get? frame.runKey = some run
  queued : run.status = .QUEUED
  unbound : run.externalRunId = none
  connection_found :
    v.connections.get? (key run.workspaceId run.runtimeConnectionId) = some connection
  principal : connection.authenticatedPrincipalId = some frame.context.principalId
  registered : v.runtimeAdapters.get? (key run.workspaceId connection.runtimeId)
    = some frame.registration
  claimed : frame.runKey ∈ v.claimed
  in_flight : v.inFlight.get? frame.runKey = some frame.registration.registrationId

variable {frame : PendingStart} {connection : RuntimeConnection} {run : AgentRun}

/-- The run of an awaited start belongs to the caller's workspace. -/
theorem Awaited.workspace {v : StartView}
    (h : Awaited v frame run connection) :
    run.workspaceId = frame.context.workspaceId :=
  (key_inj.mp (Store.keyOf_of_get? h.run_found)).1

/-- **Suspended starts.** -/
structure Awaiting (v : StartView) : Prop where
  /-- Every suspended start finds what its binding will ask for. -/
  each : ∀ {number frame}, v.pending.get? number = some frame →
    ∃ run connection, Awaited v frame run connection
  /-- A run has at most one suspended start. -/
  one : ∀ {number number' frame frame'}, v.pending.get? number = some frame →
    v.pending.get? number' = some frame' → frame.runKey = frame'.runKey → number = number'
  /-- Only runs of suspended starts are in flight. -/
  exact : ∀ {k registrationId}, v.inFlight.get? k = some registrationId →
    ∃ number frame, v.pending.get? number = some frame ∧ frame.runKey = k
  /-- Call numbers are not used twice. -/
  fresh : ∀ {number frame}, v.pending.get? number = some frame → number < v.adapterCalls

/-- A run is in flight exactly while its start is suspended. -/
theorem Awaiting.inFlight_iff {v : StartView} (h : Awaiting v) (k : Key) :
    (∃ registrationId, v.inFlight.get? k = some registrationId) ↔
      ∃ number frame, v.pending.get? number = some frame ∧ frame.runKey = k := by
  constructor
  · rintro ⟨registrationId, hk⟩
    exact h.exact hk
  · rintro ⟨number, frame, hframe, rfl⟩
    obtain ⟨run, connection, hawaited⟩ := h.each hframe
    exact ⟨_, hawaited.in_flight⟩

/-! ## A valid claim finds its adapter -/

variable {context : WorkspaceContext}

variable {stored : RuntimeDispatchPermit}

/-- **The adapter of a valid claim is found.** The look-ups between the claim and the call of
`adapter.start` cannot fail. -/
theorem startCall_of_valid (hplaced : Placed plane)
    {registration : AdapterRegistration}
    (hvalid : DispatchValid plane context stored run connection registration) :
    startCall plane context stored = .ok ⟨context, run.id, registration, stored⟩ := by
  obtain ⟨runtime, hruntime⟩ := hplaced.runtime _ (Store.mem_of_get? hvalid.connection_found)
  have hws : connection.workspaceId = context.workspaceId :=
    (key_inj.mp (Store.keyOf_of_get? hvalid.connection_found)).1
  rw [hws] at hruntime
  have hrid : runtime.id = connection.runtimeId := (key_inj.mp (Store.keyOf_of_get? hruntime)).2
  -- `executeDispatch` looks the adapter up by the runtime's own id, the claim by the connection's.
  have hregistered := hvalid.registered
  rw [← hrid] at hregistered
  rw [startCall, except_bind_eq_ok]
  refine ⟨run, requireRecord_eq_ok.mpr hvalid.run_found, except_bind_eq_ok.mpr
    ⟨connection, requireRecord_eq_ok.mpr hvalid.connection_found, except_bind_eq_ok.mpr
      ⟨runtime, requireRecord_eq_ok.mpr hruntime, ?_⟩⟩⟩
  simp only [hregistered, except_bind_eq_ok, except_pure_eq_ok, throwIf_eq_ok, not_not, and_true, exists_const]
  exact hvalid.registration_id

/-- A valid claim does not lose its start. -/
theorem not_lost_of_valid (hreach : Reachable options plane)
    (hvalid : revalidateDispatch options readings plane context stored = .ok ()) (e : Failure) :
    startCall plane context stored ≠ .error e := by
  obtain ⟨run, connection, registration, hvalid⟩ := DispatchValid.of_ok hvalid
  rw [startCall_of_valid (Placed.of_reachable hreach) hvalid]
  simp

/-! ## Effects on suspended starts -/

variable {number : Nat}

namespace Awaiting

/-- A new registration leaves the adapters of suspended starts in place. -/
theorem registerRuntimeAdapter (h : Awaiting plane.startView) {context : WorkspaceContext}
    {runtimeId : EntityId} {adapter : RuntimeAdapter} {runtime : Runtime}
    (hadmitted : AdapterAdmitted plane context runtimeId adapter runtime)
    (registration : AdapterRegistration) :
    Awaiting { plane.startView with
      runtimeAdapters :=
        plane.runtimeAdapters.set (key context.workspaceId runtime.id) registration } := by
  refine ⟨fun {number frame} hframe => ?_, h.one, h.exact, h.fresh⟩
  obtain ⟨run, connection, ha⟩ := h.each hframe
  refine ⟨run, connection, { ha with registered := ?_ }⟩
  show (plane.runtimeAdapters.set _ _).get? _ = _
  rw [OrderedMap.get?_set, if_neg]
  · exact ha.registered
  · -- The adapter that would be replaced is in flight.
    intro hk
    have hprevious : plane.runtimeAdapters.get? (key context.workspaceId runtime.id)
        = some frame.registration := hk ▸ ha.registered
    exact (hadmitted.unused _ hprevious).1 (OrderedMap.mem_values.mpr ⟨_, ha.in_flight⟩)

/-- A stored connection leaves the principal and the runtime of suspended starts in place. -/
theorem putConnection (h : Awaiting plane.startView)
    (hadmitted : ConnectionAdmitted options plane context connection) :
    Awaiting { plane.startView with connections := plane.connections.put connection } := by
  refine ⟨fun {number frame} hframe => ?_, h.one, h.exact, h.fresh⟩
  obtain ⟨run, current, ha⟩ := h.each hframe
  -- The run of a suspended start is queued, hence active, and rotation waits for it.
  have hactive : run.status.Active := Or.inl ha.queued
  obtain ⟨connection', hfound, hrid, hprincipal⟩ :=
    hadmitted.identity (Store.mem_of_get? ha.run_found) hactive ha.connection_found
  refine ⟨run, connection',
    { ha with connection_found := hfound, principal := ?_, registered := ?_ }⟩
  · rw [hprincipal]; exact ha.principal
  · rw [hrid]; exact ha.registered

/-- Writing a run that is not in flight leaves the runs of suspended starts in place. -/
theorem putRun (h : Awaiting plane.startView)
    (hrun : plane.inFlightDispatchAdapters.get? (keyOf run) = none) :
    Awaiting { plane.startView with runs := plane.runs.put run } := by
  refine ⟨fun {number frame} hframe => ?_, h.one, h.exact, h.fresh⟩
  obtain ⟨awaited, connection, ha⟩ := h.each hframe
  refine ⟨awaited, connection, { ha with run_found := ?_ }⟩
  show (plane.runs.put run).get? _ = _
  rw [Store.get?_put, if_neg]
  · exact ha.run_found
  · intro hk
    have hflight : plane.inFlightDispatchAdapters.get? frame.runKey
        = some frame.registration.registrationId := ha.in_flight
    rw [hk, hrun] at hflight
    cases hflight

/-- A claim suspends a start of its own run and leaves the others. -/
theorem calledStart (h : Awaiting plane.startView) {context : WorkspaceContext}
    {stored : RuntimeDispatchPermit} {run : AgentRun} {connection : RuntimeConnection}
    {registration : AdapterRegistration} {frame : PendingStart}
    (hvalid : DispatchValid plane context stored run connection registration)
    (hcalled : StartCalled plane context stored frame)
    (hunbound : run.externalRunId = none)
    (hunclaimed : frame.runKey ∉ plane.claimedDispatchRuns) :
    Awaiting { plane.startView with
      claimed := insert frame.runKey plane.claimedDispatchRuns
      inFlight := plane.inFlightDispatchAdapters.set frame.runKey stored.adapterRegistrationId
      pending := plane.pendingStarts.set plane.adapterCalls frame
      adapterCalls := plane.adapterCalls + 1 } := by
  -- The run is claimed only now, so no suspended start is for it.
  have hother : ∀ {number frame'}, plane.pendingStarts.get? number = some frame' →
      frame'.runKey ≠ frame.runKey := by
    intro number frame' hframe' heq
    obtain ⟨_, _, ha⟩ := h.each hframe'
    exact hunclaimed (heq ▸ ha.claimed)
  have hnew : ∀ {number frame'}, plane.pendingStarts.get? number = some frame' →
      number ≠ plane.adapterCalls := fun hframe' => (h.fresh hframe').ne
  refine ⟨fun {number frame'} hframe' => ?_, fun {n n' f f'} hf hf' heq => ?_,
    fun {k registrationId} hk => ?_, fun {number frame'} hframe' => ?_⟩
  · simp only [OrderedMap.get?_set] at hframe'
    split at hframe'
    · -- The new call finds what the claim has just checked.
      rw [Option.some.injEq] at hframe'
      subst hframe'
      obtain ⟨run', connection', hrun', hconnection', -, hregistered'⟩ := hcalled.registered
      have hrun : plane.runs.get? frame.runKey = some run := by
        rw [hcalled.runKey_eq]; exact hvalid.run_found
      have hws : run.workspaceId = context.workspaceId :=
        (key_inj.mp (Store.keyOf_of_get? hvalid.run_found)).1
      rw [hrun, Option.some.injEq] at hrun'
      subst hrun'
      rw [hvalid.connection_found, Option.some.injEq] at hconnection'
      subst hconnection'
      rw [hvalid.registered, Option.some.injEq] at hregistered'
      refine ⟨run, connection, hrun, hvalid.queued, hunbound, ?_, ?_, ?_, Finset.mem_insert_self _ _, ?_⟩
      · rw [hws]; exact hvalid.connection_found
      · rw [hcalled.context_eq]; exact hvalid.principal
      · rw [hws, ← hregistered']; exact hvalid.registered
      · show (plane.inFlightDispatchAdapters.set _ _).get? _ = _
        rw [OrderedMap.get?_set, if_pos rfl, ← hregistered', hvalid.registration_id]
    · obtain ⟨run', connection', ha⟩ := h.each hframe'
      refine ⟨run', connection', { ha with
        claimed := Finset.mem_insert_of_mem ha.claimed, in_flight := ?_ }⟩
      show (plane.inFlightDispatchAdapters.set _ _).get? _ = _
      rw [OrderedMap.get?_set, if_neg (hother hframe')]
      exact ha.in_flight
  · simp only [OrderedMap.get?_set] at hf hf'
    split at hf <;> split at hf'
    · rename_i hn hn'; rw [hn, hn']
    · rw [Option.some.injEq] at hf
      exact absurd (hf ▸ heq.symm) (hother hf')
    · rw [Option.some.injEq] at hf'
      exact absurd (hf' ▸ heq) (hother hf)
    · exact h.one hf hf' heq
  · simp only [OrderedMap.get?_set] at hk
    split at hk
    · rename_i hkey
      exact ⟨plane.adapterCalls, frame, by simp, hkey.symm⟩
    · obtain ⟨number, frame', hframe', hkey⟩ := h.exact hk
      refine ⟨number, frame', ?_, hkey⟩
      show (plane.pendingStarts.set _ _).get? _ = _
      rw [OrderedMap.get?_set, if_neg (hnew hframe')]
      exact hframe'
  · simp only [OrderedMap.get?_set] at hframe'
    split at hframe'
    · rename_i hn; rw [hn]; exact Nat.lt_succ_self _
    · exact Nat.lt_succ_of_lt (h.fresh hframe')

/-- Settling a start releases its own run and leaves the others. -/
theorem settle (h : Awaiting plane.startView)
    (hframe : plane.pendingStarts.get? number = some frame) {runs : Store Key AgentRun}
    (hruns : ∀ k, k ≠ frame.runKey → runs.get? k = plane.runs.get? k) :
    Awaiting { plane.startView with
      runs := runs
      pending := plane.pendingStarts.delete number
      inFlight := plane.inFlightDispatchAdapters.delete frame.runKey } := by
  have hrest : ∀ {n f}, (plane.pendingStarts.delete number).get? n = some f →
      n ≠ number ∧ plane.pendingStarts.get? n = some f := by
    intro n f hf
    rw [OrderedMap.get?_delete] at hf
    split at hf
    · cases hf
    · rename_i hn; exact ⟨hn, hf⟩
  -- Suspended starts are one to a run, so the other runs stay in flight.
  have hother : ∀ {n f}, n ≠ number → plane.pendingStarts.get? n = some f →
      f.runKey ≠ frame.runKey := fun hn hf heq => hn (h.one hf hframe heq)
  refine ⟨fun {n f} hf => ?_, fun hf hf' heq => h.one (hrest hf).2 (hrest hf').2 heq,
    fun {k registrationId} hk => ?_, fun hf => h.fresh (hrest hf).2⟩
  · obtain ⟨hn, hf⟩ := hrest hf
    obtain ⟨run, connection, ha⟩ := h.each hf
    refine ⟨run, connection, { ha with run_found := ?_, in_flight := ?_ }⟩
    · show runs.get? f.runKey = _
      rw [hruns _ (hother hn hf)]; exact ha.run_found
    · show (plane.inFlightDispatchAdapters.delete _).get? _ = _
      rw [OrderedMap.get?_delete, if_neg (hother hn hf)]; exact ha.in_flight
  · simp only [OrderedMap.get?_delete] at hk
    split at hk
    · cases hk
    · rename_i hne
      obtain ⟨n, f, hf, hkey⟩ := h.exact hk
      refine ⟨n, f, ?_, hkey⟩
      show (plane.pendingStarts.delete _).get? _ = _
      rw [OrderedMap.get?_delete, if_neg]
      · exact hf
      · rintro rfl
        have hf : plane.pendingStarts.get? n = some f := hf
        rw [hframe, Option.some.injEq] at hf
        exact hne (by rw [← hkey, hf])

/-- **Every effect keeps what suspended starts rest on.** -/
theorem effect (hreach : Reachable options plane) (h : Awaiting plane.startView)
    (he : Effect options readings plane call outcome plane') : Awaiting plane'.startView := by
  cases he with
  | registerRuntimeAdapter admitted => exact h.registerRuntimeAdapter (.of_ok admitted) _
  | putConnection admitted => exact h.putConnection (.of_ok admitted)
  | @startRun context run admitted =>
    obtain ⟨task, connection, hadmitted⟩ := RunAdmitted.of_ok admitted
    refine h.putRun ?_
    -- A run in flight is recorded, and the new one is not.
    by_contra hsome
    obtain ⟨registrationId, hflight⟩ := Option.ne_none_iff_exists'.mp hsome
    obtain ⟨number, frame, hframe, hk⟩ := h.exact hflight
    obtain ⟨run', connection', ha⟩ := h.each hframe
    have hfound : plane.runs.get? frame.runKey = some run' := ha.run_found
    rw [hk, hadmitted.fresh] at hfound
    cases hfound
  | lostStart owned valid lost => exact absurd lost (not_lost_of_valid hreach valid _)
  | @calledStart context dispatch stored frame owned valid called =>
    obtain ⟨run, connection, registration, hvalid⟩ := DispatchValid.of_ok valid
    have hcalled : StartCalled plane context stored frame := StartCalled.of_ok called
    have hkey : keyOf run = key context.workspaceId stored.envelope.runId :=
      Store.keyOf_of_get? hvalid.run_found
    -- The permit is still there, so the run was not claimed, and hence is not bound.
    have hunclaimed := (Dispatching.of_reachable hreach).not_claimed_of_owned owned
    have hunbound := (OwnedRun.of_reachable hreach run
      (Store.mem_of_get? hvalid.run_found)).unbound (hkey ▸ hunclaimed)
    rw [← hcalled.runKey_eq] at hunclaimed
    have hnext := h.calledStart hvalid hcalled hunbound hunclaimed
    rw [hcalled.runKey_eq] at hnext
    exact hnext
  | @boundRun number frame externalRunId run pending admitted =>
    obtain ⟨connection, hadmitted⟩ := BindingAdmitted.of_ok admitted
    have hkey : keyOf run = frame.runKey := Store.keyOf_of_get? hadmitted.found
    refine h.settle pending fun k hk => ?_
    rw [Store.get?_put, if_neg]
    exact fun heq => hk (heq.trans hkey)
  | failedStart settles pending => exact h.settle pending fun _ _ => rfl
  | calledCancel owned valid called =>
    refine ⟨fun hframe => ?_, h.one, h.exact, fun hframe => Nat.lt_succ_of_lt (h.fresh hframe)⟩
    obtain ⟨run, connection, ha⟩ := h.each hframe
    exact ⟨run, connection, { ha with }⟩
  | transitionRun admitted =>
    have hadmitted := RunTransitionAdmitted.of_ok admitted
    exact h.putRun hadmitted.settled
  | _ => exact h

theorem of_reachable (h : Reachable options plane) : Awaiting plane.startView := by
  refine h.induction (P := fun plane => Awaiting plane.startView)
    ⟨fun hframe => ?_, fun hframe => ?_, fun hk => ?_, fun hframe => ?_⟩
    fun hreach ha he => ha.effect hreach he
  · cases hframe
  · cases hframe
  · cases hk
  · cases hframe

end Awaiting

/-! ## Binding an awaited start -/

/-- A suspended start stays suspended until a label settles it. -/
theorem Effect.pendingStart_stays (hreach : Reachable options plane)
    (he : Effect options readings plane call outcome plane')
    (hpending : plane.pendingStarts.get? number = some frame)
    (hcall : call.settledStart ≠ some number) :
    plane'.pendingStarts.get? number = some frame := by
  cases he with
  | calledStart owned valid called =>
    show (plane.pendingStarts.set _ _).get? _ = _
    rw [OrderedMap.get?_set, if_neg]
    · exact hpending
    · exact ((Awaiting.of_reachable hreach).fresh hpending).ne
  | @boundRun other frame' externalRunId run pending admitted =>
    show (plane.pendingStarts.delete _).get? _ = _
    rw [OrderedMap.get?_delete, if_neg]
    · exact hpending
    · rintro rfl
      exact hcall rfl
  | failedStart settles pending =>
    show (plane.pendingStarts.delete _).get? _ = _
    rw [OrderedMap.get?_delete, if_neg]
    · exact hpending
    · rintro rfl
      exact hcall settles
  | _ => exact hpending

/-- A suspended start stays suspended along a run that does not settle it. -/
theorem reach_pendingStart_stays {sink : σ} {labels : List Label}
    (hpending : (reach options sink labels).plane.pendingStarts.get? number = some frame)
    (others : List Label) (hothers : ∀ l ∈ others, l.call.settledStart ≠ some number) :
    (reach options sink (labels ++ others)).plane.pendingStarts.get? number = some frame := by
  induction others using List.reverseRecOn with
  | nil => rw [List.append_nil]; exact hpending
  | append_singleton others l ih =>
    rw [← List.append_assoc, reach, run_concat]
    refine (perform_effect options l _).pendingStart_stays
      (reachable_reach options sink (labels ++ others)) (ih fun l' hl' => ?_) ?_
    · exact hothers l' (List.mem_append_left _ hl')
    · exact hothers l (by simp)

/-- The external run is not bound to another run on the connection of the run. -/
def FreeExternalRun (runs : Store Key AgentRun) (run : AgentRun) (externalRunId : String) : Prop :=
  ∀ other ∈ runs, other.workspaceId = run.workspaceId → other.id ≠ run.id →
    other.runtimeConnectionId = run.runtimeConnectionId → other.externalRunId ≠ some externalRunId

variable {externalRunId : String}

/-- The checks of a binding pass once the start was awaited and the external run is free. -/
theorem Awaited.admitBinding
    (h : Awaited plane.startView frame run connection)
    (hstring : assertString (some (.str externalRunId)) "externalRunId" = .ok ())
    (hfree : FreeExternalRun plane.runs run externalRunId) :
    ControlPlane.admitBinding plane frame.context frame.runId externalRunId
      frame.registration.registrationId = .ok run := by
  have hkey : key run.workspaceId run.id = frame.runKey := Store.keyOf_of_get? h.run_found
  have hconnection := h.connection_found
  have hregistered := h.registered
  rw [h.workspace] at hconnection hregistered
  have hcid : connection.id = run.runtimeConnectionId :=
    (key_inj.mp (Store.keyOf_of_get? hconnection)).2
  simp only [ControlPlane.admitBinding, except_bind_eq_ok, except_pure_eq_ok, throwIf_eq_ok,
    requireRecord_eq_ok, not_not, ne_eq, Bool.not_eq_true, List.any_eq_false, decide_eq_true_eq,
    Store.mem_values, exists_const]
  refine ⟨(), hstring, run, h.run_found, connection, hconnection, h.principal.symm, ?_, ?_, ?_,
    Or.inl h.queued, ?_, ?_, rfl⟩
  · rw [hkey]; exact h.claimed
  · rw [hkey]; exact h.in_flight
  · show (plane.runtimeAdapters.get? _).map _ = _
    rw [show plane.runtimeAdapters.get? _ = _ from hregistered]
    rfl
  · rw [h.unbound]
    exact fun htruthy => not_truthy_none htruthy.1
  · rintro other hother ⟨hws, hid, hconn, hext⟩
    exact hfree other hother hws hid (hconn.trans hcid) hext

/-- Resolving an awaited start with a free external run answers with it. -/
theorem perform_startResolved (options : Options σ) (readings : Readings) {w : World σ}
    (hpending : w.plane.pendingStarts.get? number = some frame)
    (hstring : assertString (some (.str externalRunId)) "externalRunId" = .ok ())
    (hadmitted : admitBinding (w.plane.resumeStart number) frame.context frame.runId externalRunId
      frame.registration.registrationId = .ok run) :
    (perform options ⟨readings, .startResolved number (some (.str externalRunId))⟩ w).1
      = .ok (.started externalRunId) := by
  show Ensures (answer options readings (.startResolved number (some (.str externalRunId)))) w
    fun r _ => r = .ok (.started externalRunId)
  rw [answer, ensures_readPlane_bind, hpending]
  show Ensures (startResolved number frame (some (.str externalRunId)) >>= _) w _
  unfold startResolved
  rw [bind_assoc, ensures_writePlane_bind, bind_assoc, ensures_bind, ensures_tryCatch]
  unfold bindStarted bindExternalRun
  rw [ensures_lift_bind]
  refine ⟨fun e he => absurd (hstring.symm.trans he) (by simp), fun _ _ => ?_⟩
  show Ensures ((readPlane >>= _) >>= _) _ _
  rw [bind_assoc, ensures_readPlane_bind, bind_assoc, ensures_lift_bind]
  exact ⟨fun e he => absurd (hadmitted.symm.trans he) (by simp), fun _ _ => rfl⟩

/-- A valid permit that its principal presents leads to a call of `adapter.start`. -/
theorem perform_executeDispatch {w : World σ} (hreach : Reachable options w.plane)
    {dispatch : RuntimeDispatchPermit}
    (howned : ownedDispatch w.plane context dispatch = .ok stored)
    (hvalid : revalidateDispatch options readings w.plane context stored = .ok ()) :
    ∃ frame, (perform options ⟨readings, .executeDispatch context dispatch⟩ w).1
      = .ok (.startCalled w.plane.adapterCalls frame) := by
  show Ensures (answer options readings (.executeDispatch context dispatch)) w
    fun r _ => ∃ frame, r = .ok (.startCalled w.plane.adapterCalls frame)
  rw [answer, executeDispatch, bind_assoc, ensures_bind]
  refine (claimDispatch_spec options readings w context dispatch).mono fun r w' h => ?_
  cases r with
  -- Neither way to fail applies: the permit is owned and valid.
  | error e =>
    rcases h with ⟨hnot, -⟩ | ⟨stored', howned', hstale, -⟩
    · rw [howned] at hnot; cases hnot
    · rw [howned, Except.ok.injEq] at howned'
      rw [← howned', hvalid] at hstale
      cases hstale
  | ok stored' =>
    obtain ⟨howned', -, hplane⟩ := h
    rw [howned, Except.ok.injEq] at howned'
    subst howned'
    obtain ⟨run, connection, registration, hfacts⟩ := DispatchValid.of_ok hvalid
    have hcall : startCall w'.plane context stored
        = .ok ⟨context, run.id, registration, stored⟩ := by
      rw [hplane]
      exact startCall_of_valid (Placed.of_reachable hreach) hfacts
    show Ensures (readPlane >>= _ >>= _) w' _
    rw [bind_assoc, ensures_readPlane_bind, bind_assoc, ensures_lift_bind]
    refine ⟨fun e he => absurd (hcall.symm.trans he) (by simp), fun frame _ => ⟨frame, ?_⟩⟩
    show Except.ok (Answer.startCalled w'.plane.adapterCalls frame) = _
    rw [hplane]
    rfl

/-- The labels that settle an `adapter.start`. -/
theorem Call.eq_of_settledStart (h : call.settledStart = some number) :
    (∃ externalRunId, call = .startResolved number externalRunId)
      ∨ ∃ error, call = .startRejected number error := by
  cases call with
  | startResolved n externalRunId =>
    obtain rfl := Option.some.inj h
    exact .inl ⟨externalRunId, rfl⟩
  | startRejected n error =>
    obtain rfl := Option.some.inj h
    exact .inr ⟨error, rfl⟩
  | _ => cases h

/-- Settling a suspended start releases its run, however the start ended. -/
theorem Effect.released (he : Effect options readings plane call outcome plane')
    (hpending : plane.pendingStarts.get? number = some frame)
    (hcall : call.settledStart = some number) :
    plane'.inFlightDispatchAdapters.has frame.runKey = false ∧
      plane'.pendingStarts.get? number = none := by
  -- Both ways of settling take the same two entries out.
  have hgone : ∀ {settled : Nat} {frame' : PendingStart}, settled = number →
      plane.pendingStarts.get? settled = some frame' →
      (plane.inFlightDispatchAdapters.delete frame'.runKey).has frame.runKey = false ∧
        (plane.pendingStarts.delete settled).get? number = none := by
    rintro _ frame' rfl hframe'
    rw [hpending, Option.some.injEq] at hframe'
    subst hframe'
    simp [OrderedMap.has]
  cases he with
  | refused e direct => rw [direct.1] at hcall; cases hcall
  | idleStart settles idle =>
    rw [hcall, Option.some.injEq] at settles
    rw [← settles, hpending] at idle
    cases idle
  | boundRun pending admitted => exact hgone (Option.some.inj hcall) pending
  | failedStart settles pending =>
    exact hgone (Option.some.inj (settles.symm.trans hcall)) pending
  | observed reads quiet =>
    rcases Call.eq_of_settledStart hcall with ⟨_, rfl⟩ | ⟨_, rfl⟩ <;> exact reads.elim
  | catalogued catalogues =>
    rcases Call.eq_of_settledStart hcall with ⟨_, rfl⟩ | ⟨_, rfl⟩ <;> exact catalogues.elim
  | idleCancel settles idle =>
    rcases Call.eq_of_settledStart hcall with ⟨_, rfl⟩ | ⟨_, rfl⟩ <;> cases settles
  | _ => cases hcall

/-- An external run is answered only after the run of a suspended start was bound to it. -/
theorem Effect.of_started (he : Effect options readings plane call (.ok (.started externalRunId)) plane') :
    ∃ number frame run, call = .startResolved number (some (.str externalRunId)) ∧
      plane.pendingStarts.get? number = some frame ∧
      plane'.runs.get? frame.runKey = some run ∧ run.externalRunId = some externalRunId ∧
      run.adapterRegistrationId = some frame.registration.registrationId := by
  cases he with
  | observed reads quiet => exact quiet.elim
  | @boundRun number frame _ run pending admitted =>
    obtain ⟨connection, hadmitted⟩ := BindingAdmitted.of_ok admitted
    have hkey : keyOf run = frame.runKey := Store.keyOf_of_get? hadmitted.found
    refine ⟨number, frame, { run with
      externalRunId := some externalRunId
      adapterRegistrationId := some frame.registration.registrationId }, rfl, pending, ?_, rfl,
      rfl⟩
    show (plane.runs.put _).get? _ = _
    rw [Store.get?_put, if_pos]
    exact hkey.symm

/-- **A pending `adapter.start` can always be bound.** Take a state in which `executeDispatch`
awaits `adapter.start`, and any calls by anybody that do not settle it. If the start then resolves
with a non-blank string of at most 2048 code units that is not bound to another run on the
connection, the binding succeeds. A valid permit that its principal presents always leads to the
call of `adapter.start`; the runs in flight are exactly those whose start is awaited; and settling
the start releases the run. -/
theorem pending_start_can_be_bound (options : Options σ) (sink : σ) (labels : List Label) :
    (∀ number frame, (reach options sink labels).plane.pendingStarts.get? number = some frame →
      ∀ others : List Label, (∀ l ∈ others, l.call.settledStart ≠ some number) →
      ∀ (readings : Readings) (externalRunId : String),
        isBlank externalRunId = false → utf16Length externalRunId ≤ 2048 →
        (∀ run, (reach options sink (labels ++ others)).plane.runs.get? frame.runKey = some run →
          FreeExternalRun (reach options sink (labels ++ others)).plane.runs run externalRunId) →
        (perform options ⟨readings, .startResolved number (some (.str externalRunId))⟩
            (reach options sink (labels ++ others))).1 = .ok (.started externalRunId) ∧
        ∃ run, (perform options ⟨readings, .startResolved number (some (.str externalRunId))⟩
              (reach options sink (labels ++ others))).2.plane.runs.get? frame.runKey = some run ∧
            run.externalRunId = some externalRunId ∧
            run.adapterRegistrationId = some frame.registration.registrationId) ∧
    (∀ (readings : Readings) context dispatch stored,
      ownedDispatch (reach options sink labels).plane context dispatch = .ok stored →
      revalidateDispatch options readings (reach options sink labels).plane context stored
        = .ok () →
      ∃ frame, (perform options ⟨readings, .executeDispatch context dispatch⟩
        (reach options sink labels)).1
          = .ok (.startCalled (reach options sink labels).plane.adapterCalls frame)) ∧
    (∀ k, (reach options sink labels).plane.inFlightDispatchAdapters.has k = true ↔
      ∃ number frame, (reach options sink labels).plane.pendingStarts.get? number = some frame ∧
        frame.runKey = k) ∧
    (∀ number frame, (reach options sink labels).plane.pendingStarts.get? number = some frame →
      ∀ l : Label, l.call.settledStart = some number →
        (perform options l (reach options sink labels)).2.plane.inFlightDispatchAdapters.has
          frame.runKey = false) := by
  refine ⟨fun number frame hpending others hothers readings externalRunId hblank hlength hfree =>
      ?_,
    fun readings context dispatch stored howned hvalid => ?_, fun k => ?_,
    fun number frame hpending l hl => ?_⟩
  · have hreach := reachable_reach options sink (labels ++ others)
    -- Whatever the others did, the binding finds everything it asks for.
    have hstays := reach_pendingStart_stays hpending others hothers
    obtain ⟨run, connection, hawaited⟩ := (Awaiting.of_reachable hreach).each hstays
    have hstring : assertString (some (.str externalRunId)) "externalRunId" = .ok () := by
      rw [assertString, throwIf_eq_ok, not_or, not_lt]
      exact ⟨by simp [hblank], hlength⟩
    have hadmitted := hawaited.admitBinding hstring (hfree run hawaited.run_found)
    have houtcome := perform_startResolved options readings hstays hstring hadmitted
    have heffect := perform_effect options
      ⟨readings, .startResolved number (some (.str externalRunId))⟩
      (reach options sink (labels ++ others))
    rw [houtcome] at heffect
    obtain ⟨number', frame', run', hcall, hpending', hbound⟩ := heffect.of_started
    obtain rfl : number = number' := (Call.startResolved.inj hcall).1
    rw [hstays, Option.some.injEq] at hpending'
    subst hpending'
    exact ⟨houtcome, run', hbound⟩
  · exact perform_executeDispatch (reachable_reach options sink labels) howned hvalid
  · rw [OrderedMap.has_iff]
    exact (Awaiting.of_reachable (reachable_reach options sink labels)).inFlight_iff k
  · exact ((perform_effect options l _).released hpending hl).1

/-- The start of the sample run is bound after another heartbeat of its principal. -/
theorem sample_start_can_be_bound : ∃ frame,
    (reach Sample.options () (Sample.setup ++ [Sample.execute])).plane.pendingStarts.get? 0
      = some frame ∧
    (perform Sample.options ⟨⟨0, "", "i"⟩, .startResolved 0 (some (.str "e"))⟩
      (reach Sample.options () (Sample.setup ++ [Sample.execute] ++ [Sample.at0 ""
        (.recordHeartbeat Sample.worker ⟨"h3", "w", "x", "a", Sample.epoch, 1, .HEALTHY⟩)]))).1
      = .ok (.started "e") := by
  have hpending : ((reach Sample.options ()
      (Sample.setup ++ [Sample.execute])).plane.pendingStarts.get? 0).isSome = true := by
    decide +kernel
  obtain ⟨frame, hpending⟩ := Option.isSome_iff_exists.mp hpending
  -- There is one run only, so no other one holds the external run.
  have hruns : ∀ run ∈ (reach Sample.options () (Sample.setup ++ [Sample.execute] ++ [Sample.at0 ""
      (.recordHeartbeat Sample.worker ⟨"h3", "w", "x", "a", Sample.epoch, 1, .HEALTHY⟩)])).plane.runs.values,
      run.id = "u" := by decide +kernel
  refine ⟨frame, hpending, ((pending_start_can_be_bound Sample.options () _).1 0 frame hpending _ ?_
    ⟨0, "", "i"⟩ "e" (by decide) (by decide) ?_).1⟩
  · intro l hl
    rw [List.mem_singleton.mp hl]
    decide
  · intro run hrun other hother _ hid
    rw [hruns other (Store.mem_values.mpr hother), hruns run (Store.mem_values.mpr (Store.mem_of_get? hrun))] at hid
    exact absurd rfl hid

/-! ## Ownership of external runs -/

/-- What the earlier record is bound to, the later one is bound to. -/
def KeepsBinding (run run' : AgentRun) : Prop :=
  (∀ e, run.externalRunId = some e → run'.externalRunId = some e) ∧
    ∀ r, run.adapterRegistrationId = some r → run'.adapterRegistrationId = some r

theorem KeepsBinding.refl (run : AgentRun) : KeepsBinding run run := ⟨fun _ h => h, fun _ h => h⟩

/-- **No effect changes a binding.** A binding is written only for the run of a suspended start, and
that run is unbound. -/
theorem Effect.binding_kept (hreach : Reachable options plane)
    (he : Effect options readings plane call outcome plane') {k : Key}
    (hrun : plane.runs.get? k = some run) :
    ∃ run', plane'.runs.get? k = some run' ∧ KeepsBinding run run' := by
  rcases he.runs_cases with hruns | ⟨_, new, _, _, hadmitted, hruns⟩
    | ⟨number, frame, _, bound, _, hpending, hadmitted, hruns⟩
    | ⟨_, _, _, moved, _, _, hadmitted, hruns⟩
  · exact ⟨run, by rw [hruns]; exact hrun, KeepsBinding.refl run⟩
  · exact ⟨run, by rw [hruns]; exact Store.get?_put_of_fresh hadmitted.fresh hrun,
      KeepsBinding.refl run⟩
  · obtain ⟨awaited, connection, ha⟩ := (Awaiting.of_reachable hreach).each hpending
    have hbound : bound ∈ plane.runs := Store.mem_of_get? hadmitted.found
    have hext : bound.externalRunId = none := by
      have hfound : plane.runs.get? frame.runKey = some bound := hadmitted.found
      have hawaited : plane.runs.get? frame.runKey = some awaited := ha.run_found
      rw [hfound, Option.some.injEq] at hawaited
      rw [hawaited]; exact ha.unbound
    have hreg : bound.adapterRegistrationId = none := by
      rcases OwnedRun.of_reachable hreach bound hbound with ⟨-, hreg, -⟩ | ⟨e, _, he', -⟩
      · exact hreg
      · rw [hext] at he'; cases he'
    rw [hruns]
    refine Store.exists_get?_put KeepsBinding.refl hbound rfl ⟨fun e he' => ?_, fun r hr => ?_⟩ hrun
    · rw [hext] at he'; cases he'
    · rw [hreg] at hr; cases hr
  · rw [hruns]
    exact Store.exists_get?_put KeepsBinding.refl (Store.mem_of_get? hadmitted.found) rfl
      ⟨fun _ h => h, fun _ h => h⟩ hrun

/-- A binding is kept along every continuation of a run. -/
theorem reach_binding_kept {sink : σ} {labels : List Label} {k : Key}
    (hrun : (reach options sink labels).plane.runs.get? k = some run) (more : List Label) :
    ∃ run', (reach options sink (labels ++ more)).plane.runs.get? k = some run'
      ∧ KeepsBinding run run' := by
  refine reach_append_induction
    (P := fun plane => ∃ run', plane.runs.get? k = some run' ∧ KeepsBinding run run')
    ⟨run, hrun, KeepsBinding.refl run⟩ ?_ more
  rintro readings plane call outcome plane' hreach ⟨run', hrun', hext, hreg⟩ he
  obtain ⟨run'', hrun'', hext', hreg'⟩ := he.binding_kept hreach hrun'
  exact ⟨run'', hrun'', fun e h => hext' e (hext e h), fun r h => hreg' r (hreg r h)⟩

/-- **External ownership.** In every reachable state no two runs on a connection share an external
run; every run that is running, paused, completed or failed has a claimed dispatch, an external run
and a registration; every active run with a registration has the one registered for its connection's
runtime; and what a run is bound to never changes. -/
theorem external_runs_are_owned (options : Options σ) (sink : σ) (labels : List Label) :
    (∀ run ∈ (reach options sink labels).plane.runs,
      ∀ run' ∈ (reach options sink labels).plane.runs, run.workspaceId = run'.workspaceId →
        run.runtimeConnectionId = run'.runtimeConnectionId →
        ∀ e, run.externalRunId = some e → run'.externalRunId = some e → run = run') ∧
    (∀ run ∈ (reach options sink labels).plane.runs,
      run.status = .RUNNING ∨ run.status = .PAUSED ∨ run.status = .COMPLETED
        ∨ run.status = .FAILED →
      keyOf run ∈ (reach options sink labels).plane.claimedDispatchRuns ∧
        (∃ e, run.externalRunId = some e) ∧ ∃ r, run.adapterRegistrationId = some r) ∧
    (∀ run ∈ (reach options sink labels).plane.runs, run.status.Active →
      ∀ r, run.adapterRegistrationId = some r → ∃ connection,
        (reach options sink labels).plane.connections.get?
          (key run.workspaceId run.runtimeConnectionId) = some connection ∧
        ((reach options sink labels).plane.runtimeAdapters.get?
          (key run.workspaceId connection.runtimeId)).map AdapterRegistration.registrationId
            = some r) ∧
    (∀ run ∈ (reach options sink labels).plane.runs, ∀ more : List Label, ∃ run',
      (reach options sink (labels ++ more)).plane.runs.get? (keyOf run) = some run' ∧
        (∀ e, run.externalRunId = some e → run'.externalRunId = some e) ∧
        ∀ r, run.adapterRegistrationId = some r → run'.adapterRegistrationId = some r) := by
  have hreach := reachable_reach options sink labels
  refine ⟨Unshared.of_reachable hreach, fun run hrun hstatus => ?_,
    RegisteredRun.of_reachable hreach, fun run hrun more => reach_binding_kept hrun more⟩
  refine (OwnedRun.of_reachable hreach run hrun).bound ?_ ?_
  · rintro hqueued
    simp [hqueued] at hstatus
  · rintro hcancelled
    simp [hcancelled] at hstatus

end VentureOS.ControlPlane
