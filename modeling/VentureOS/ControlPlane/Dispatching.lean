import VentureOS.Foundations.Tokens
import VentureOS.ControlPlane.Lifecycle

/-! # Dispatch permits are used at most once

The unclaimed dispatch permits of the plane are tokens of their runs: `mintDispatch` issues one and
marks the run, a stale permit is revoked and frees its run, and a claimed permit is retired. The
token protocol then gives at most one permit for a run, and none ever again once one was claimed,
whatever becomes of the adapter call. -/

namespace VentureOS.ControlPlane

variable {σ : Type} {options : Options σ} {readings : Readings} {plane plane' : Plane} {call : Call}
  {outcome : Except Failure Answer}

/-! ## Permits as tokens -/

/-- The run a permit filed under the given key was minted for. -/
def permitRun (permitKey : Key) (dispatch : RuntimeDispatchPermit) : Key :=
  key permitKey.1 dispatch.envelope.runId

/-- The unclaimed dispatch permits, as tokens of their runs. -/
def dispatchTokens (plane : Plane) : Tokens Key Key where
  holder := plane.dispatches.holder permitRun
  marked := ↑plane.dispatchedRuns

variable {context : WorkspaceContext}

/-- The token of a permit that its principal presents. -/
theorem holder_of_ownedDispatch
    {dispatch stored : RuntimeDispatchPermit}
    (h : ownedDispatch plane context dispatch = .ok stored) :
    (dispatchTokens plane).holder (key context.workspaceId dispatch.dispatchId)
      = some (key context.workspaceId stored.envelope.runId) :=
  OrderedMap.holder_of_get? permitRun (stored_of_ownedDispatch h).1

/-- Taking a permit out retires its token. -/
theorem dispatchTokens_clear (permitKey : Key)
    (hdispatches : plane'.dispatches = plane.dispatches.delete permitKey)
    (hmarked : plane'.dispatchedRuns = plane.dispatchedRuns) :
    dispatchTokens plane' = (dispatchTokens plane).clear permitKey := by
  rw [dispatchTokens, hdispatches, hmarked, OrderedMap.holder_delete]
  rfl

theorem retire_step (permitKey : Key)
    (hdispatches : plane'.dispatches = plane.dispatches.delete permitKey)
    (hmarked : plane'.dispatchedRuns = plane.dispatchedRuns) :
    (dispatchTokens plane).Step (dispatchTokens plane') := by
  rw [dispatchTokens_clear permitKey hdispatches hmarked]
  exact .retire permitKey

/-- Filing a permit gives its token to its run. -/
theorem dispatchTokens_withDispatch {runKey : Key} {dispatch : RuntimeDispatchPermit}
    (h : runKey = key dispatch.envelope.workspaceId dispatch.envelope.runId) :
    dispatchTokens (plane.withDispatch runKey dispatch)
      = { (dispatchTokens plane).give (key dispatch.envelope.workspaceId dispatch.dispatchId) runKey
          with marked := insert runKey (dispatchTokens plane).marked } := by
  simp only [dispatchTokens, Plane.withDispatch, OrderedMap.holder_set, Finset.coe_insert, Tokens.give, h]
  rfl

/-- Dropping a permit revokes its token. -/
theorem dispatchTokens_dropDispatch (permitKey runKey : Key) :
    dispatchTokens (plane.dropDispatch permitKey runKey)
      = { (dispatchTokens plane).clear permitKey with
          marked := (dispatchTokens plane).marked \ {runKey} } := by
  simp only [dispatchTokens, Plane.dropDispatch, OrderedMap.holder_delete, Finset.coe_erase, Tokens.clear]

/-- **Every effect follows the token protocol.** -/
theorem Effect.dispatchTokens_step (he : Effect options readings plane call outcome plane') :
    (dispatchTokens plane).Step (dispatchTokens plane') := by
  cases he with
  | @mintDispatch context runId runKey dispatch admitted =>
    obtain ⟨-, task, hadmitted⟩ := DispatchAdmitted.of_ok admitted
    rw [dispatchTokens_withDispatch hadmitted.run_key]
    exact .issue _ hadmitted.unmarked
  | staleDispatch owned stale =>
    rw [dispatchTokens_dropDispatch]
    exact .revoke (holder_of_ownedDispatch owned)
  -- A claim retires the permit even if no adapter is found to call.
  | lostStart owned valid lost => exact retire_step _ rfl rfl
  | calledStart owned valid called => exact retire_step _ rfl rfl
  | _ => exact .stutter

/-! ## Claims -/

/-- Permits are exclusive, and a run whose permit was claimed is retired. -/
structure Dispatching (plane : Plane) : Prop where
  exclusive : (dispatchTokens plane).Exclusive
  claimed : ∀ k ∈ plane.claimedDispatchRuns,
    (dispatchTokens plane).Retired k

/-- What an effect adds to the claimed runs: the run of a permit that is taken out. -/
theorem Effect.claimed_cases (he : Effect options readings plane call outcome plane') :
    plane'.claimedDispatchRuns = plane.claimedDispatchRuns ∨ ∃ permitKey runKey,
      (dispatchTokens plane).holder permitKey = some runKey
      ∧ plane'.claimedDispatchRuns = insert runKey plane.claimedDispatchRuns
      ∧ plane'.dispatches = plane.dispatches.delete permitKey
      ∧ plane'.dispatchedRuns = plane.dispatchedRuns := by
  cases he with
  | lostStart owned valid lost =>
    exact .inr ⟨_, _, holder_of_ownedDispatch owned, rfl, rfl, rfl⟩
  | calledStart owned valid called =>
    exact .inr ⟨_, _, holder_of_ownedDispatch owned, rfl, rfl, rfl⟩
  | _ => exact .inl rfl

/-- Claims are never taken back. -/
theorem Effect.claimed_subset (he : Effect options readings plane call outcome plane') :
    plane.claimedDispatchRuns ⊆ plane'.claimedDispatchRuns := by
  rcases he.claimed_cases with h | ⟨_, _, -, h, -⟩
  · rw [h]
  · rw [h]; exact Finset.subset_insert _ _

/-- Every effect keeps permits exclusive and claimed runs retired. -/
theorem Dispatching.effect (h : Dispatching plane)
    (he : Effect options readings plane call outcome plane') : Dispatching plane' := by
  refine ⟨h.exclusive.step he.dispatchTokens_step, fun k hk => ?_⟩
  rcases he.claimed_cases with hsame | ⟨permitKey, runKey, hheld, hclaimed, hdispatches, hmarked⟩
  · rw [hsame] at hk
    exact (h.claimed k hk).step he.dispatchTokens_step
  · rw [hclaimed, Finset.mem_insert] at hk
    rcases hk with rfl | hk
    · rw [dispatchTokens_clear permitKey hdispatches hmarked]
      exact h.exclusive.retired_clear hheld
    · exact (h.claimed k hk).step he.dispatchTokens_step

/-- Permits are exclusive and claimed runs retired in every reachable plane. -/
theorem Dispatching.of_reachable (h : Reachable options plane) : Dispatching plane := by
  refine h.induction ⟨⟨?_, ?_⟩, ?_⟩ fun _ hd he => hd.effect he
  · intro t k hk; cases hk
  · intro t t' k hk; cases hk
  · intro k hk; simp [Plane.empty] at hk

/-- The run of a permit that its principal presents has not been claimed. -/
theorem Dispatching.not_claimed_of_owned (h : Dispatching plane)
    {dispatch stored : RuntimeDispatchPermit}
    (howned : ownedDispatch plane context dispatch = .ok stored) :
    key context.workspaceId stored.envelope.runId ∉ plane.claimedDispatchRuns :=
  fun hk => (h.claimed _ hk).2 _ (holder_of_ownedDispatch howned)

/-! ## Adapter starts -/

/-- The run whose `adapter.start` a step called. -/
def startedRun (e : Step σ) : Option Key :=
  match e.outcome with
  | .ok (.startCalled _ frame) => some frame.runKey
  | _ => none

/-- `adapter.start` is called only by a valid claim. -/
theorem Effect.of_startCalled {number : Nat} {frame : PendingStart}
    (he : Effect options readings plane call (.ok (.startCalled number frame)) plane') :
    ∃ context dispatch stored, call = .executeDispatch context dispatch
      ∧ ownedDispatch plane context dispatch = .ok stored
      ∧ revalidateDispatch options readings plane context stored = .ok ()
      ∧ StartCalled (plane.claimDispatch (key context.workspaceId dispatch.dispatchId)
          (key context.workspaceId stored.envelope.runId) stored.adapterRegistrationId)
        context stored frame
      ∧ number = plane.adapterCalls
      ∧ plane' = (plane.claimDispatch (key context.workspaceId dispatch.dispatchId)
          (key context.workspaceId stored.envelope.runId)
          stored.adapterRegistrationId).awaitStart frame := by
  cases he with
  | observed reads quiet => exact quiet.elim
  | calledStart owned valid called =>
    exact ⟨_, _, _, rfl, owned, valid, StartCalled.of_ok called, rfl, rfl⟩

/-- The run of the call is the run of the permit. -/
theorem StartCalled.runKey_eq {validated : RuntimeDispatchPermit}
    {frame : PendingStart} (h : StartCalled plane context validated frame) :
    frame.runKey = key context.workspaceId validated.envelope.runId := by
  rw [PendingStart.runKey, h.context_eq, h.run_id]

/-- The step called `adapter.start` for the run. -/
theorem exists_of_startedRun {e : Step σ} {k : Key} (h : startedRun e = some k) :
    ∃ number frame, e.outcome = .ok (.startCalled number frame) ∧ frame.runKey = k := by
  unfold startedRun at h
  split at h
  · rename_i number frame houtcome
    rw [Option.some.injEq] at h
    exact ⟨number, frame, houtcome, h⟩
  · cases h

/-- The outcome of a label that calls `adapter.start` for the run. -/
theorem startCalled_of_startedRun {w : World σ} {l : Label} {k : Key}
    (h : startedRun (entryAt (perform options) w l) = some k) :
    ∃ number frame, (perform options l w).1 = .ok (.startCalled number frame) ∧ frame.runKey = k :=
  exists_of_startedRun h

/-- A step that calls `adapter.start` for a run claims the run, which was not claimed before. -/
theorem claimed_of_startedRun {e : Step σ} {k : Key} (hreach : Reachable options e.before.plane)
    (he : Effect options e.label.readings e.before.plane e.label.call e.outcome e.after.plane)
    (h : startedRun e = some k) :
    k ∉ e.before.plane.claimedDispatchRuns ∧ k ∈ e.after.plane.claimedDispatchRuns := by
  obtain ⟨number, frame, houtcome, rfl⟩ := exists_of_startedRun h
  rw [houtcome] at he
  obtain ⟨context, dispatch, stored, -, howned, -, hcalled, -, hafter⟩ := he.of_startCalled
  rw [hcalled.runKey_eq, hafter]
  exact ⟨(Dispatching.of_reachable hreach).not_claimed_of_owned howned, Finset.mem_insert_self _ _⟩

/-- The number of calls of `adapter.start` for a run in a history. -/
def startsOf (k : Key) (steps : List (Step σ)) : Nat :=
  steps.countP fun e => decide (startedRun e = some k)

/-- **`adapter.start` is called at most once for a run,** and not at all before its claim. -/
theorem startsOf_trace_le (options : Options σ) (sink : σ) (labels : List Label) (k : Key) :
    startsOf k (trace options sink labels)
      ≤ if k ∈ (reach options sink labels).plane.claimedDispatchRuns then 1 else 0 := by
  refine trace_induction
    (P := fun steps plane => startsOf k steps ≤ if k ∈ plane.claimedDispatchRuns then 1 else 0)
    (Nat.zero_le _) ?_ labels
  intro steps e hreach hcount he
  have hsubset := he.claimed_subset
  rw [startsOf, List.countP_append]
  change startsOf k steps + _ ≤ _
  -- A call claims its run, so the count is still 0 before the first one.
  by_cases hstart : startedRun e = some k
  · obtain ⟨hbefore, hafter⟩ := claimed_of_startedRun hreach he hstart
    rw [if_neg hbefore] at hcount
    have hone : [e].countP (fun e => decide (startedRun e = some k)) = 1 := by simp [hstart]
    rw [if_pos hafter, hone]
    omega
  · have hzero : [e].countP (fun e => decide (startedRun e = some k)) = 0 := by simp [hstart]
    rw [hzero, Nat.add_zero]
    refine hcount.trans ?_
    by_cases hbefore : k ∈ e.before.plane.claimedDispatchRuns
    · rw [if_pos hbefore, if_pos (hsubset hbefore)]
    · rw [if_neg hbefore]; exact Nat.zero_le _

/-- A run whose `adapter.start` was called is claimed. -/
theorem claimed_of_mem_trace {sink : σ} {labels : List Label} {e : Step σ} {k : Key}
    (he : e ∈ trace options sink labels) (h : startedRun e = some k) :
    k ∈ (reach options sink labels).plane.claimedDispatchRuns := by
  by_contra hnot
  have hle := startsOf_trace_le options sink labels k
  rw [if_neg hnot, Nat.le_zero, startsOf, List.countP_eq_zero] at hle
  exact hle e he (by simp [h])

/-- `mintDispatch` refuses a claimed run. -/
theorem Effect.mintDispatch_refused (hreach : Reachable options plane)
    {runId : EntityId} (hclaimed : key context.workspaceId runId ∈ plane.claimedDispatchRuns)
    (he : Effect options readings plane (.mintDispatch context runId) outcome plane') :
    ∃ e, outcome = .error e := by
  have hmarked := ((Dispatching.of_reachable hreach).claimed _ hclaimed).1
  -- The other effects belong to other calls.
  cases he with
  | refused e direct => exact ⟨e, rfl⟩
  | observed reads quiet => exact reads.elim
  | idleStart settles idle => cases settles
  | idleCancel settles idle => cases settles
  | catalogued catalogues => exact catalogues.elim
  | failedStart settles pending => cases settles
  | mintDispatch admitted =>
    obtain ⟨hk, task, hadmitted⟩ := DispatchAdmitted.of_ok admitted
    exact absurd (hk ▸ hmarked) hadmitted.unmarked

/-- **At-most-once dispatch.** For every run, in every interleaving of calls and settlements:
`adapter.start` is called at most once; at any time at most one unclaimed permit exists; a call of
`adapter.start` claims the run; and from a claim on, `mintDispatch` refuses the run for good,
however the call of the adapter ends. -/
theorem dispatch_at_most_once (options : Options σ) (sink : σ) (labels : List Label)
    (runKey : Key) :
    startsOf runKey (trace options sink labels) ≤ 1 ∧
    (∀ i i' d d', (reach options sink labels).plane.dispatches.get? i = some d →
      (reach options sink labels).plane.dispatches.get? i' = some d' →
      permitRun i d = runKey → permitRun i' d' = runKey → i = i') ∧
    (∀ e ∈ trace options sink labels, startedRun e = some runKey →
      runKey ∈ (reach options sink labels).plane.claimedDispatchRuns) ∧
    (runKey ∈ (reach options sink labels).plane.claimedDispatchRuns →
      ∀ (more : List Label) (readings : Readings) (context : WorkspaceContext) (runId : EntityId),
        key context.workspaceId runId = runKey →
        ∃ e, (perform options ⟨readings, .mintDispatch context runId⟩
          (reach options sink (labels ++ more))).1 = .error e) := by
  have hdispatching := Dispatching.of_reachable (reachable_reach options sink labels)
  refine ⟨?_, fun i i' d d' hd hd' hi hi' => ?_, fun e he hstart => claimed_of_mem_trace he hstart,
    fun hclaimed more readings context runId hk => ?_⟩
  · refine (startsOf_trace_le options sink labels runKey).trans ?_
    split <;> omega
  · have hheld := OrderedMap.holder_of_get? permitRun hd
    have hheld' := OrderedMap.holder_of_get? permitRun hd'
    rw [hi] at hheld
    rw [hi'] at hheld'
    exact hdispatching.exclusive.unique hheld hheld'
  · have hstill : runKey ∈ (reach options sink (labels ++ more)).plane.claimedDispatchRuns :=
      reach_append_induction (P := fun plane => runKey ∈ plane.claimedDispatchRuns) hclaimed
        (fun _ hk he => he.claimed_subset hk) more
    exact (perform_effect options ⟨readings, .mintDispatch context runId⟩ _).mintDispatch_refused
      (reachable_reach options sink (labels ++ more)) (hk ▸ hstill)

end VentureOS.ControlPlane
