import VentureOS.ControlPlane.Starts

/-! # Cancellations

A cancellation of a run is outstanding as a permit and, once it is claimed, as an awaited
`adapter.cancel`. Both are tokens of the run: claiming exchanges the permit for the call, a failure
revokes the token and frees the run, and a success retires it. The history of a run of the machine
shows where a `CANCELLED` status comes from: a bound run reaches it only after a claimed
cancellation of exactly its external run was carried out. -/

namespace VentureOS.ControlPlane

variable {σ : Type} {options : Options σ} {readings : Readings} {plane plane' : Plane} {call : Call}
  {outcome : Except Failure Answer}

/-! ## Cancellations as tokens -/

/-- The run a cancellation permit filed under the given key was minted for. -/
def cancellationRun (permitKey : Key) (cancellation : RuntimeCancellationPermit) : Key :=
  key permitKey.1 cancellation.runId

/-- The outstanding cancellations, permits and awaited calls, as tokens of their runs. -/
def cancelTokens (plane : Plane) : Tokens (Key ⊕ Nat) Key where
  holder := Sum.elim (plane.cancellations.holder cancellationRun)
    (plane.pendingCancellations.holder fun _ frame => frame.runKey)
  marked := ↑plane.cancelledRuns

/-- Filing a permit gives its token to its run. -/
theorem cancelTokens_withCancellation (workspaceId : EntityId)
    (cancellation : RuntimeCancellationPermit) :
    cancelTokens (plane.withCancellation workspaceId cancellation)
      = { (cancelTokens plane).give (.inl (key workspaceId cancellation.cancellationId))
            (key workspaceId cancellation.runId) with
          marked := insert (key workspaceId cancellation.runId) (cancelTokens plane).marked } := by
  simp only [cancelTokens, Plane.withCancellation, OrderedMap.holder_set, Finset.coe_insert,
    Sum.elim_update_left, Tokens.give]
  rfl

/-- Dropping a permit revokes its token. -/
theorem cancelTokens_dropCancellation (permitKey runKey : Key) :
    cancelTokens (plane.dropCancellation permitKey runKey)
      = { (cancelTokens plane).clear (.inl permitKey) with
          marked := (cancelTokens plane).marked \ {runKey} } := by
  simp only [cancelTokens, Plane.dropCancellation, OrderedMap.holder_delete, Finset.coe_erase,
    Sum.elim_update_left, Tokens.clear]

/-- Claiming a permit exchanges it for an awaited call. -/
theorem cancelTokens_awaitCancellation (permitKey : Key) (frame : PendingCancellation) :
    cancelTokens ((plane.claimCancellation permitKey).awaitCancellation frame)
      = ((cancelTokens plane).clear (.inl permitKey)).give (.inr plane.adapterCalls)
          frame.runKey := by
  simp only [cancelTokens, Plane.claimCancellation, Plane.awaitCancellation,
    OrderedMap.holder_delete, OrderedMap.holder_set, Sum.elim_update_left, Sum.elim_update_right,
    Tokens.clear, Tokens.give]

/-- Taking an awaited call out retires its token. -/
theorem cancelTokens_resumeCancellation (plane : Plane) (number : Nat) :
    cancelTokens (plane.resumeCancellation number) = (cancelTokens plane).clear (.inr number) := by
  simp only [cancelTokens, Plane.resumeCancellation, OrderedMap.holder_delete, Sum.elim_update_right, Tokens.clear]

/-- Reopening the run after a failed call revokes the token of the call. -/
theorem cancelTokens_reopenCancellation (runKey : Key) :
    cancelTokens (plane.reopenCancellation runKey)
      = { cancelTokens plane with marked := (cancelTokens plane).marked \ {runKey} } := by
  simp only [cancelTokens, Plane.reopenCancellation, Finset.coe_erase]

/-- The token of a cancellation that its principal presents. -/
theorem holder_of_ownedCancellation {context : WorkspaceContext}
    {cancellation stored : RuntimeCancellationPermit}
    (h : ownedCancellation plane context cancellation = .ok stored) :
    (cancelTokens plane).holder (.inl (key context.workspaceId cancellation.cancellationId))
      = some (key context.workspaceId stored.runId) :=
  OrderedMap.holder_of_get? cancellationRun (stored_of_ownedCancellation h)

variable {frame : PendingCancellation}

variable {number : Nat}

/-- The token of an awaited call. -/
theorem holder_of_pendingCancellation (h : plane.pendingCancellations.get? number = some frame) :
    (cancelTokens plane).holder (.inr number) = some frame.runKey :=
  OrderedMap.holder_of_get? (fun _ frame => PendingCancellation.runKey frame) h

/-- **Every effect follows the token protocol.** -/
theorem Effect.cancelTokens_step (he : Effect options readings plane call outcome plane') :
    (cancelTokens plane).Step (cancelTokens plane') := by
  cases he with
  | mintCancellation admitted =>
    rw [cancelTokens_withCancellation]
    exact .issue _ (CancellationAdmitted.of_ok admitted).2.unmarked
  | droppedCancellation owned =>
    rw [cancelTokens_dropCancellation]
    exact .revoke (holder_of_ownedCancellation owned)
  -- Once claimed, the permit lives on as the awaited call.
  | calledCancel owned valid called =>
    obtain ⟨hcontext, hcancellation, -⟩ := frame_of_cancelCall called
    rw [cancelTokens_awaitCancellation, PendingCancellation.runKey, hcontext, hcancellation]
    exact .exchange (holder_of_ownedCancellation owned)
  | cancelResolved pending => exact cancelTokens_resumeCancellation plane _ ▸ .retire _
  | cancelRejected pending =>
    rw [cancelTokens_reopenCancellation, cancelTokens_resumeCancellation]
    exact .revoke (holder_of_pendingCancellation pending)
  | _ => exact .stutter

/-- `adapter.cancel` is called on the adapter registered for the runtime of the run. -/
theorem Effect.of_cancelCalled
    (he : Effect options readings plane call (.ok (.cancelCalled number frame)) plane') :
    ∃ context, frame.context = context ∧ ∃ run connection,
      plane.runs.get? frame.runKey = some run ∧
      plane.connections.get? (key context.workspaceId run.runtimeConnectionId) = some connection ∧
      (∃ runtime, plane.runtimes.get? (key context.workspaceId connection.runtimeId) = some runtime) ∧
      plane.runtimeAdapters.get? (key context.workspaceId connection.runtimeId)
        = some frame.registration := by
  cases he with
  | observed reads quiet => exact quiet.elim
  | calledCancel owned valid called =>
    obtain ⟨hcontext, -, hfound⟩ := frame_of_cancelCall called
    exact ⟨_, hcontext, hfound⟩

/-! ## Successful cancellations -/

/-- Cancellations are exclusive, and a run whose cancellation succeeded is retired. -/
structure Cancelling (plane : Plane) : Prop where
  exclusive : (cancelTokens plane).Exclusive
  successful : ∀ k ∈ plane.successfulCancellations, (cancelTokens plane).Retired k

/-- What an effect adds to the successful cancellations: the run of an awaited call. -/
theorem Effect.successful_cases (he : Effect options readings plane call outcome plane') :
    plane'.successfulCancellations = plane.successfulCancellations ∨ ∃ number frame,
      call = .cancelResolved number ∧ outcome = .ok .done
      ∧ plane.pendingCancellations.get? number = some frame
      ∧ plane'.successfulCancellations = insert frame.runKey plane.successfulCancellations
      ∧ plane'.runs = plane.runs
      ∧ cancelTokens plane' = (cancelTokens plane).clear (.inr number) := by
  cases he with
  | @cancelResolved number frame pending =>
    exact .inr ⟨number, frame, rfl, rfl, pending, rfl, rfl, cancelTokens_resumeCancellation plane number⟩
  | _ => exact .inl rfl

/-- Successful cancellations are never taken back. -/
theorem Effect.successful_subset (he : Effect options readings plane call outcome plane') :
    plane.successfulCancellations ⊆ plane'.successfulCancellations := by
  rcases he.successful_cases with h | ⟨_, _, -, -, -, h, -⟩
  · rw [h]
  · rw [h]; exact Finset.subset_insert _ _

/-- Every effect keeps cancellations exclusive and successfully cancelled runs retired. -/
theorem Cancelling.effect (h : Cancelling plane)
    (he : Effect options readings plane call outcome plane') : Cancelling plane' := by
  refine ⟨h.exclusive.step he.cancelTokens_step, fun k hk => ?_⟩
  rcases he.successful_cases with hsame | ⟨number, frame, -, -, hpending, hnew, -, htokens⟩
  · rw [hsame] at hk
    exact (h.successful k hk).step he.cancelTokens_step
  · rw [hnew, Finset.mem_insert] at hk
    rcases hk with rfl | hk
    · rw [htokens]
      exact h.exclusive.retired_clear (holder_of_pendingCancellation hpending)
    · exact (h.successful k hk).step he.cancelTokens_step

theorem Cancelling.of_reachable (h : Reachable options plane) : Cancelling plane := by
  refine h.induction ⟨⟨?_, ?_⟩, ?_⟩ fun _ hc he => hc.effect he
  · intro t k hk
    cases t <;> cases hk
  · intro t t' k hk
    cases t <;> cases hk
  · intro k hk
    simp [Plane.empty] at hk

/-- Resolving an awaited `adapter.cancel` makes the cancellation of its run successful. -/
theorem Effect.successful_of_resolved
    (he : Effect options readings plane (.cancelResolved number) outcome plane')
    (hpending : plane.pendingCancellations.get? number = some frame) :
    frame.runKey ∈ plane'.successfulCancellations := by
  cases he with
  | refused e direct => cases direct.2
  | observed reads quiet => exact reads.elim
  | idleStart settles idle => cases settles
  | idleCancel settles idle =>
    rw [← Option.some.inj settles, hpending] at idle
    cases idle
  | catalogued catalogues => exact catalogues.elim
  | failedStart settles pending => cases settles
  | cancelResolved pending =>
    rw [hpending, Option.some.injEq] at pending
    subst pending
    exact Finset.mem_insert_self _ _

/-- `mintCancellation` refuses a run whose cancellation succeeded. -/
theorem Effect.mintCancellation_refused (hreach : Reachable options plane)
    {context : WorkspaceContext} {runId : EntityId}
    (hsuccess : key context.workspaceId runId ∈ plane.successfulCancellations)
    (he : Effect options readings plane (.mintCancellation context runId) outcome plane') :
    ∃ e, outcome = .error e := by
  have hmarked := ((Cancelling.of_reachable hreach).successful _ hsuccess).1
  cases he with
  | refused e direct => exact ⟨e, rfl⟩
  | observed reads quiet => exact reads.elim
  | idleStart settles idle => cases settles
  | idleCancel settles idle => cases settles
  | catalogued catalogues => exact catalogues.elim
  | failedStart settles pending => cases settles
  | mintCancellation admitted =>
    obtain ⟨hid, hadmitted⟩ := CancellationAdmitted.of_ok admitted
    refine absurd ?_ hadmitted.unmarked
    rw [hadmitted.workspace, hid]
    exact hmarked

/-! ## Where a cancelled status comes from -/

/-- A bound run leaves for `CANCELLED` only through `transitionRun`, after its cancellation
succeeded. -/
theorem Effect.cancelled_cases (hreach : Reachable options plane)
    (he : Effect options readings plane call outcome plane') {k : Key} {run : AgentRun}
    (hrun : plane'.runs.get? k = some run) (hcancelled : run.status = .CANCELLED) {e : String}
    (hext : run.externalRunId = some e) :
    plane.runs.get? k = some run ∨ k ∈ plane.successfulCancellations := by
  -- Only `transitionRun` writes the status, and for a bound run it asks for a success.
  rcases he.runs_cases with hruns | ⟨_, new, _, _, hadmitted, hruns⟩
    | ⟨number, frame, _, bound, _, hpending, hadmitted, hruns⟩
    | ⟨_, _, next, moved, _, now, hadmitted, hruns⟩
  · exact .inl (hruns ▸ hrun)
  · rw [hruns, Store.get?_put] at hrun
    split at hrun
    · obtain rfl := Option.some.inj hrun
      rw [hadmitted.unbound] at hext
      cases hext
    · exact .inl hrun
  · rw [hruns, Store.get?_put] at hrun
    split at hrun
    · -- The run of a suspended start is queued.
      obtain ⟨awaited, connection, ha⟩ := (Awaiting.of_reachable hreach).each hpending
      have hfound : plane.runs.get? frame.runKey = some bound := hadmitted.found
      have hawaited : plane.runs.get? frame.runKey = some awaited := ha.run_found
      rw [hfound, Option.some.injEq] at hawaited
      obtain rfl := Option.some.inj hrun
      have hqueued := ha.queued
      rw [← hawaited] at hqueued
      rw [show bound.status = .CANCELLED from hcancelled] at hqueued
      cases hqueued
    · exact .inl hrun
  · rw [hruns, Store.get?_put] at hrun
    split at hrun
    · rename_i hk
      obtain rfl := Option.some.inj hrun
      have hmoved : moved ∈ plane.runs := Store.mem_of_get? hadmitted.found
      have hext' : moved.externalRunId = some e := hext
      -- A bound external run is not the empty string, which the source would take for unbound.
      have htruthy : Truthy moved.externalRunId := by
        rcases OwnedRun.of_reachable hreach moved hmoved with ⟨hnone, -⟩ | ⟨e', _, he', hne, -⟩
        · rw [hext'] at hnone; cases hnone
        · rw [he']; exact truthy_some.mpr hne
      exact .inr (hk ▸ hadmitted.cancellation hcancelled htruthy)
    · exact .inl hrun

/-- The step claimed a cancellation of the run and called `adapter.cancel`, while the run was active
and bound to the external run and the registration the cancellation carries. -/
structure ClaimsCancellation (e : Step σ) (number : Nat) (frame : PendingCancellation) : Prop where
  called : e.outcome = .ok (.cancelCalled number frame)
  run : ∃ run, e.before.plane.runs.get? frame.runKey = some run ∧ run.status.Active ∧
    run.externalRunId = some frame.cancellation.externalRunId ∧
    run.adapterRegistrationId = some frame.cancellation.adapterRegistrationId

/-- The step settled `adapter.cancel` with success. -/
def ResolvesCancellation (e : Step σ) (number : Nat) : Prop :=
  e.label.call = .cancelResolved number ∧ e.outcome = .ok .done

/-- A cancellation was claimed and then carried out, in this order. -/
def CarriedOut (steps : List (Step σ)) (frame : PendingCancellation) : Prop :=
  ∃ number early claim between resolve late,
    steps = early ++ claim :: (between ++ resolve :: late) ∧
    ClaimsCancellation claim number frame ∧ ResolvesCancellation resolve number

/-- The run of the cancellation is bound to what the cancellation carries. -/
def Carries (plane : Plane) (frame : PendingCancellation) : Prop :=
  ∃ run, plane.runs.get? frame.runKey = some run ∧
    run.externalRunId = some frame.cancellation.externalRunId ∧
    run.adapterRegistrationId = some frame.cancellation.adapterRegistrationId

/-- Bindings do not change, so the run of a cancellation stays the one it was minted for. -/
theorem Carries.effect (hreach : Reachable options plane)
    (he : Effect options readings plane call outcome plane')
    (h : Carries plane frame) : Carries plane' frame := by
  obtain ⟨run, hrun, hext, hreg⟩ := h
  obtain ⟨run', hrun', hkeepExt, hkeepReg⟩ := he.binding_kept hreach hrun
  exact ⟨run', hrun', hkeepExt _ hext, hkeepReg _ hreg⟩

/-- How the awaited calls of a plane can change. -/
theorem Effect.pendingCancellation_cases (he : Effect options readings plane call outcome plane')
    (h : plane'.pendingCancellations.get? number = some frame) :
    plane.pendingCancellations.get? number = some frame ∨
      (outcome = .ok (.cancelCalled number frame) ∧ ∃ run,
        plane.runs.get? frame.runKey = some run ∧ run.status.Active ∧
        run.externalRunId = some frame.cancellation.externalRunId ∧
        run.adapterRegistrationId = some frame.cancellation.adapterRegistrationId) := by
  have hdelete : ∀ {n : Nat}, (plane.pendingCancellations.delete n).get? number = some frame →
      plane.pendingCancellations.get? number = some frame := by
    intro n hn
    rw [OrderedMap.get?_delete] at hn
    split at hn
    · cases hn
    · exact hn
  cases he with
  | @calledCancel context cancellation stored frame' owned valid called =>
    change (plane.pendingCancellations.set _ _).get? number = some frame at h
    rw [OrderedMap.get?_set] at h
    split at h
    · rename_i hn
      obtain rfl := Option.some.inj h
      obtain ⟨hcontext, hcancellation, -⟩ := frame_of_cancelCall called
      obtain ⟨run, hrun, hfacts⟩ := run_of_revalidateCancellation valid
      refine .inr ⟨by rw [hn]; rfl, run, ?_, ?_⟩
      · rw [PendingCancellation.runKey, hcontext, hcancellation]; exact hrun
      · rw [hcancellation]; exact hfacts
    · exact .inl h
  | cancelResolved pending => exact .inl (hdelete h)
  | cancelRejected pending => exact .inl (hdelete h)
  | _ => exact .inl h

/-- **The history of cancellations.** Every awaited `adapter.cancel` was claimed, every successful
cancellation was claimed and carried out, and the runs are still bound to what the cancellations
carry. -/
structure CancellationHistory (steps : List (Step σ)) (plane : Plane) : Prop where
  claimed : ∀ number frame, plane.pendingCancellations.get? number = some frame →
    Carries plane frame ∧ ∃ early claim late, steps = early ++ claim :: late ∧
      ClaimsCancellation claim number frame
  carriedOut : ∀ k ∈ plane.successfulCancellations,
    ∃ frame, frame.runKey = k ∧ Carries plane frame ∧ CarriedOut steps frame

/-- A history that grows keeps what was carried out. -/
theorem CarriedOut.append {steps : List (Step σ)}
    (h : CarriedOut steps frame) (e : Step σ) : CarriedOut (steps ++ [e]) frame := by
  obtain ⟨number, early, claim, between, resolve, late, rfl, hclaim, hresolve⟩ := h
  exact ⟨number, early, claim, between, resolve, late ++ [e], by simp, hclaim, hresolve⟩

theorem CancellationHistory.of_trace (options : Options σ) (sink : σ) (labels : List Label) :
    CancellationHistory (trace options sink labels) (reach options sink labels).plane := by
  refine trace_induction (P := CancellationHistory) ⟨fun _ _ h => ?_, fun k hk => ?_⟩ ?_ labels
  · cases h
  · simp [Plane.empty] at hk
  · intro steps e hreach h he
    refine ⟨fun number frame hpending => ?_, fun k hk => ?_⟩
    · rcases he.pendingCancellation_cases hpending with hold | ⟨houtcome, run, hrun, hfacts⟩
      · obtain ⟨hcarries, early, claim, late, hsteps, hclaim⟩ := h.claimed number frame hold
        exact ⟨hcarries.effect hreach he, early, claim, late ++ [e], by rw [hsteps]; simp, hclaim⟩
      · have hcarries : Carries e.before.plane frame := ⟨run, hrun, hfacts.2⟩
        exact ⟨hcarries.effect hreach he, steps, e, [], rfl, houtcome, run, hrun, hfacts⟩
    · rcases he.successful_cases with hsame | ⟨number, frame, hcall, hdone, hpending, hnew, -⟩
      · obtain ⟨frame, hkey, hcarries, hout⟩ := h.carriedOut k (hsame ▸ hk)
        exact ⟨frame, hkey, hcarries.effect hreach he, hout.append e⟩
      · rw [hnew, Finset.mem_insert] at hk
        rcases hk with rfl | hk
        · -- The call that was settled had been claimed earlier in the history.
          obtain ⟨hcarries, early, claim, late, hsteps, hclaim⟩ := h.claimed number frame hpending
          exact ⟨frame, rfl, hcarries.effect hreach he, number, early, claim, late, e, [],
            by rw [hsteps]; simp, hclaim, hcall, hdone⟩
        · obtain ⟨frame', hkey, hcarries, hout⟩ := h.carriedOut k hk
          exact ⟨frame', hkey, hcarries.effect hreach he, hout.append e⟩

/-! ## Safety of cancellations -/

/-- The token is an outstanding cancellation of the run: an unclaimed permit or an awaited call. -/
def OutstandingCancellation (plane : Plane) (runKey : Key) : Key ⊕ Nat → Prop
  | .inl permitKey => ∃ cancellation, plane.cancellations.get? permitKey = some cancellation ∧
      cancellationRun permitKey cancellation = runKey
  | .inr number => ∃ frame, plane.pendingCancellations.get? number = some frame ∧
      frame.runKey = runKey

/-- Outstanding cancellations are the tokens of the protocol. -/
theorem OutstandingCancellation.holder {runKey : Key} {t : Key ⊕ Nat}
    (h : OutstandingCancellation plane runKey t) : (cancelTokens plane).holder t = some runKey := by
  cases t with
  | inl permitKey =>
    obtain ⟨cancellation, hget, rfl⟩ := h
    exact OrderedMap.holder_of_get? cancellationRun hget
  | inr number =>
    obtain ⟨frame, hget, rfl⟩ := h
    exact holder_of_pendingCancellation hget

/-- **Cancellation safety.** A bound run reaches `CANCELLED` only after a cancellation of it,
claimed while it was active and carrying exactly its external run and registration, was carried out;
at any time at most one cancellation of a run is outstanding; and once `adapter.cancel` resolved for
a run, `mintCancellation` refuses the run for good. -/
theorem cancellation_is_safe (options : Options σ) (sink : σ) (labels : List Label) :
    (∀ (l : Label) (k : Key) (run : AgentRun),
      (perform options l (reach options sink labels)).2.plane.runs.get? k = some run →
      run.status = .CANCELLED →
      (∀ earlier, (reach options sink labels).plane.runs.get? k = some earlier → earlier.status ≠ .CANCELLED) →
      ∀ externalRunId, run.externalRunId = some externalRunId →
        ∃ frame, frame.runKey = k ∧ frame.cancellation.externalRunId = externalRunId ∧
          run.adapterRegistrationId = some frame.cancellation.adapterRegistrationId ∧
          CarriedOut (trace options sink labels) frame) ∧
    (∀ (k : Key) (t t' : Key ⊕ Nat),
      OutstandingCancellation (reach options sink labels).plane k t →
      OutstandingCancellation (reach options sink labels).plane k t' → t = t') ∧
    (∀ (number : Nat) (frame : PendingCancellation) (readings : Readings),
      (reach options sink labels).plane.pendingCancellations.get? number = some frame →
      ∀ (more : List Label) (readings' : Readings) (context : WorkspaceContext) (runId : EntityId),
        key context.workspaceId runId = frame.runKey →
        ∃ e, (perform options ⟨readings', .mintCancellation context runId⟩
          (reach options sink (labels ++ ⟨readings, .cancelResolved number⟩ :: more))).1
            = .error e) := by
  have hreach := reachable_reach options sink labels
  refine ⟨fun l k run hrun hcancelled hearlier externalRunId hext => ?_, fun k t t' ht ht' => ?_,
    fun number frame readings hpending more readings' context runId hk => ?_⟩
  · have he := perform_effect options l (reach options sink labels)
    rcases he.cancelled_cases hreach hrun hcancelled hext with hold | hsuccess
    · exact absurd hcancelled (hearlier run hold)
    · obtain ⟨frame, hkey, hcarries, hout⟩ :=
        (CancellationHistory.of_trace options sink labels).carriedOut k hsuccess
      obtain ⟨run', hrun', hext', hreg'⟩ := hcarries.effect hreach he
      rw [hkey, hrun, Option.some.injEq] at hrun'
      subst hrun'
      rw [hext, Option.some.injEq] at hext'
      exact ⟨frame, hkey, hext'.symm, hreg', hout⟩
  · exact (Cancelling.of_reachable hreach).exclusive.unique ht.holder ht'.holder
  · -- The resolved call enters the successful cancellations, and nothing leaves them.
    have hsuccess : frame.runKey ∈ (reach options sink
        (labels ++ [⟨readings, .cancelResolved number⟩])).plane.successfulCancellations := by
      rw [reach, run_concat]
      exact (perform_effect options ⟨readings, .cancelResolved number⟩ _).successful_of_resolved
        hpending
    rw [List.append_cons]
    have hstill := reach_append_induction
      (P := fun plane => frame.runKey ∈ plane.successfulCancellations) hsuccess
      (fun _ hmem he => he.successful_subset hmem) more
    exact (perform_effect options ⟨readings', .mintCancellation context runId⟩
      _).mintCancellation_refused (reachable_reach options sink _) (hk ▸ hstill)

end VentureOS.ControlPlane
