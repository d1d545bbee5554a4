import VentureOS.ControlPlane.Authorization
import VentureOS.ControlPlane.Cancelling

/-! # Adapter kinds

`registerRuntimeAdapter` refuses an adapter whose kind is not the kind of the runtime, but
`putRuntime` may store the runtime again with another kind while the adapter stays registered. The
kinds agree in every state of a run exactly if no step of it does that. -/

namespace VentureOS.ControlPlane

open Program

variable {σ : Type} {options : Options σ} {readings : Readings} {plane plane' : Plane} {call : Call}
  {outcome : Except Failure Answer}

/-- The adapter registered for a runtime has the kind of the runtime. -/
def AdapterKindsAgree (plane : Plane) : Prop :=
  ∀ k registration runtime, plane.runtimeAdapters.get? k = some registration →
    plane.runtimes.get? k = some runtime → registration.adapter.adapterKind = runtime.adapterKind

/-- The adapter called for a run has the kind of the runtime of the run's connection. -/
def CallsMatchingAdapter (plane : Plane) (runKey : Key) (registration : AdapterRegistration) :
    Prop :=
  ∃ run connection runtime, plane.runs.get? runKey = some run ∧
    plane.connections.get? (key run.workspaceId run.runtimeConnectionId) = some connection ∧
    plane.runtimes.get? (key run.workspaceId connection.runtimeId) = some runtime ∧
    registration.adapter.adapterKind = runtime.adapterKind

/-- The call stores a runtime that has an adapter under another kind: an authorizer of the runtime's
workspace puts it. -/
def RetypesRuntime (options : Options σ) (plane : Plane) (call : Call) : Prop :=
  ∃ context runtime previous registration, call = .putRuntime context runtime ∧
    context.workspaceId = runtime.workspaceId ∧
    context.principalId ∈ options.authorityPrincipals ∧
    plane.runtimes.get? (keyOf runtime) = some previous ∧
    plane.runtimeAdapters.get? (keyOf runtime) = some registration ∧
    runtime.adapterKind ≠ previous.adapterKind

/-! ## Registered adapters belong to stored runtimes -/

/-- Adapters are registered for stored runtimes only. -/
def AdaptersPlaced (plane : Plane) : Prop :=
  ∀ k registration, plane.runtimeAdapters.get? k = some registration →
    ∃ runtime, plane.runtimes.get? k = some runtime

theorem AdaptersPlaced.of_reachable (h : Reachable options plane) : AdaptersPlaced plane := by
  refine h.induction (P := AdaptersPlaced) (fun k registration hk => by cases hk) ?_
  intro readings plane call outcome plane' _ hplaced he
  cases he with
  | putRuntime workspace authorizer =>
    exact fun k registration hk => exists_get?_put (hplaced k registration hk)
  | @registerRuntimeAdapter context runtimeId adapter runtime admitted =>
    intro k registration hk
    change (plane.runtimeAdapters.set _ _).get? k = some registration at hk
    rw [OrderedMap.get?_set] at hk
    split at hk
    · rename_i hkey
      have hfound := (AdapterAdmitted.of_ok admitted).found
      have hid : runtime.id = runtimeId := (key_inj.mp (Store.keyOf_of_get? hfound)).2
      exact ⟨runtime, by rw [hkey, hid]; exact hfound⟩
    · exact hplaced k registration hk
  | _ => exact hplaced

/-! ## Steps -/

/-- A step that does not retype a runtime keeps the kinds in agreement. -/
theorem AdapterKindsAgree.effect (hreach : Reachable options plane) (h : AdapterKindsAgree plane)
    (he : Effect options readings plane call outcome plane')
    (hcall : ¬ RetypesRuntime options plane call) : AdapterKindsAgree plane' := by
  cases he with
  | @putRuntime context runtime workspace authorizer =>
    intro k registration runtime' hreg hruntime
    change (plane.runtimes.put runtime).get? k = some runtime' at hruntime
    rw [Store.get?_put] at hruntime
    split at hruntime
    · rename_i hk
      obtain rfl := Option.some.inj hruntime
      -- An adapter needs a runtime, so there is a previous record to compare with.
      obtain ⟨previous, hprevious⟩ := AdaptersPlaced.of_reachable hreach k registration hreg
      subst hk
      have hkind : runtime.adapterKind = previous.adapterKind := by
        by_contra hne
        exact hcall ⟨context, runtime, previous, registration, rfl, workspace, authorizer, hprevious, hreg, hne⟩
      rw [hkind]
      exact h _ registration previous hreg hprevious
    · exact h k registration runtime' hreg hruntime
  | @registerRuntimeAdapter context runtimeId adapter runtime admitted =>
    have hadmitted := AdapterAdmitted.of_ok admitted
    intro k registration runtime' hreg hruntime
    change (plane.runtimeAdapters.set _ _).get? k = some registration at hreg
    rw [OrderedMap.get?_set] at hreg
    split at hreg
    · rename_i hk
      have hid : runtime.id = runtimeId :=
        (key_inj.mp (Store.keyOf_of_get? hadmitted.found)).2
      have hfound : plane.runtimes.get? k = some runtime := by
        rw [hk, hid]; exact hadmitted.found
      have hruntime : plane.runtimes.get? k = some runtime' := hruntime
      rw [hfound, Option.some.injEq] at hruntime
      rw [← Option.some.inj hreg, ← hruntime]
      exact hadmitted.kind
    · exact h k registration runtime' hreg hruntime
  | _ => exact h

/-- An authorizer that puts a runtime of its workspace stores it. -/
theorem perform_putRuntime {w : World σ} {context : WorkspaceContext} {runtime : Runtime}
    (hws : context.workspaceId = runtime.workspaceId)
    (hauthorizer : context.principalId ∈ options.authorityPrincipals) :
    (perform options ⟨readings, .putRuntime context runtime⟩ w).2.plane
      = { w.plane with runtimes := w.plane.runtimes.put runtime } := by
  show Ensures (answer options readings (.putRuntime context runtime)) w
    fun _ w' => w'.plane = { w.plane with runtimes := w.plane.runtimes.put runtime }
  rw [answer, putRuntime, administer, ensures_bind, ensures_lift_bind]
  refine ⟨fun e he => ?_, fun _ _ => ?_⟩
  · rw [assertWorkspace, throwIf_eq_error] at he
    exact absurd hws he.1
  · rw [ensures_lift_bind]
    refine ⟨fun e he => ?_, fun _ _ => ?_⟩
    · rw [assertAuthorizer, throwIf_eq_error] at he
      exact absurd hauthorizer he.1
    · rw [ensures_readPlane_bind, ensures_lift_bind]
      refine ⟨fun e he => ?_, fun _ _ => rfl⟩
      cases he

/-- A step that retypes a runtime leaves a disagreement, now or before. -/
theorem not_agree_of_retypes {w : World σ} {l : Label} (h : RetypesRuntime options w.plane l.call)
    (hbefore : AdapterKindsAgree w.plane) :
    ¬ AdapterKindsAgree (perform options l w).2.plane := by
  obtain ⟨readings, call⟩ := l
  obtain ⟨context, runtime, previous, registration, rfl, hws, hauthorizer, hprevious, hreg, hne⟩ :=
    h
  intro hafter
  rw [perform_putRuntime hws hauthorizer] at hafter
  -- The same adapter would have both kinds.
  have hkind := hafter (keyOf runtime) registration runtime hreg
    (by show (w.plane.runtimes.put runtime).get? _ = _; rw [Store.get?_put, if_pos rfl])
  have hkind' := hbefore (keyOf runtime) registration previous hreg hprevious
  exact hne (hkind.symm.trans hkind')

/-! ## Runs -/

/-- An adapter found through the connection of a run has the kind of the run's runtime. -/
theorem AdapterKindsAgree.calls (h : AdapterKindsAgree plane) {context : WorkspaceContext}
    {runKey : Key} {registration : AdapterRegistration} (hkey : runKey.1 = context.workspaceId)
    (hfound : ∃ run connection, plane.runs.get? runKey = some run ∧
      plane.connections.get? (key context.workspaceId run.runtimeConnectionId) = some connection ∧
      (∃ runtime, plane.runtimes.get? (key context.workspaceId connection.runtimeId) = some runtime) ∧
      plane.runtimeAdapters.get? (key context.workspaceId connection.runtimeId)
        = some registration) :
    CallsMatchingAdapter plane runKey registration := by
  obtain ⟨run, connection, hrun, hconnection, ⟨runtime, hruntime⟩, hreg⟩ := hfound
  have hws : run.workspaceId = context.workspaceId := by
    rw [← hkey, ← Store.keyOf_of_get? hrun]; rfl
  refine ⟨run, connection, runtime, hrun, ?_, ?_, h _ registration runtime hreg hruntime⟩
  · rw [hws]; exact hconnection
  · rw [hws]; exact hruntime

/-- The calls of adapters in an agreeing plane match. -/
theorem calls_match {e : Step σ} (hagree : AdapterKindsAgree e.before.plane)
    (he : Effect options e.label.readings e.before.plane e.label.call e.outcome e.after.plane) :
    (∀ number frame, e.outcome = .ok (.startCalled number frame) →
      CallsMatchingAdapter e.before.plane frame.runKey frame.registration) ∧
    ∀ number frame, e.outcome = .ok (.cancelCalled number frame) →
      CallsMatchingAdapter e.before.plane frame.runKey frame.registration := by
  constructor
  · intro number frame houtcome
    rw [houtcome] at he
    obtain ⟨context, dispatch, stored, -, -, -, hcalled, -, -⟩ := he.of_startCalled
    -- The look-ups are made after the claim, which leaves the records they read.
    exact hagree.calls (by rw [hcalled.runKey_eq]; rfl) hcalled.registered
  · intro number frame houtcome
    rw [houtcome] at he
    obtain ⟨context, hcontext, hfound⟩ := he.of_cancelCalled
    exact hagree.calls (by rw [PendingCancellation.runKey, hcontext]; rfl) hfound

/-- Without a step that retypes a runtime the kinds agree after the run. -/
theorem agree_of_not_retypes (options : Options σ) (sink : σ) (labels : List Label)
    (h : ∀ e ∈ trace options sink labels, ¬ RetypesRuntime options e.before.plane e.label.call) :
    AdapterKindsAgree (reach options sink labels).plane := by
  revert h
  refine trace_induction (P := fun steps plane =>
    (∀ e ∈ steps, ¬ RetypesRuntime options e.before.plane e.label.call) → AdapterKindsAgree plane)
    ?_ ?_ labels
  · exact fun _ k registration runtime hreg => by cases hreg
  · intro steps e hreach ih he hsteps
    have hbefore := ih fun e' he' => hsteps e' (List.mem_append_left _ he')
    exact hbefore.effect hreach he (hsteps e (by simp))

/-- **When adapter kinds agree.** In every state of a run the adapter of each runtime has the
runtime's kind, and every adapter called for a run has the kind of the run's runtime, if and only if
no step of the run retypes a runtime that has an adapter. -/
theorem adapter_kinds_agree_iff (options : Options σ) (sink : σ) (labels : List Label) :
    ((∀ pre, pre <+: labels → AdapterKindsAgree (reach options sink pre).plane) ∧
      ∀ e ∈ trace options sink labels,
        (∀ number frame, e.outcome = .ok (.startCalled number frame) →
          CallsMatchingAdapter e.before.plane frame.runKey frame.registration) ∧
        ∀ number frame, e.outcome = .ok (.cancelCalled number frame) →
          CallsMatchingAdapter e.before.plane frame.runKey frame.registration) ↔
    ∀ e ∈ trace options sink labels, ¬ RetypesRuntime options e.before.plane e.label.call := by
  constructor
  · rintro ⟨hstates, -⟩ e he hretypes
    obtain ⟨pre, post, rfl, hbefore, hafter, -⟩ := exists_of_mem_trace he
    -- The states before and after the retyping cannot both agree.
    have hagree := hstates pre (List.prefix_append _ _)
    have hagree' := hstates (pre ++ [e.label]) ⟨post, by simp⟩
    rw [reach, run_concat] at hagree'
    rw [hbefore] at hretypes
    exact not_agree_of_retypes hretypes hagree hagree'
  · intro hsteps
    have hstates : ∀ pre, pre <+: labels → AdapterKindsAgree (reach options sink pre).plane := by
      rintro pre ⟨post, rfl⟩
      exact agree_of_not_retypes options sink pre fun e he => hsteps e (mem_trace_append he post)
    refine ⟨hstates, fun e he => ?_⟩
    obtain ⟨pre, post, rfl, hbefore, -⟩ := exists_of_mem_trace he
    refine calls_match ?_ (effect_of_mem_trace he).2
    rw [hbefore]
    exact hstates pre (List.prefix_append _ _)

/-- Retyping a runtime under its registered adapter. -/
theorem adapter_kinds_disagree_after_retyping :
    ¬ AdapterKindsAgree (reach Sample.options ()
      [Sample.at0 "" (.putRuntime Sample.founder ⟨"r", "w", "", "k", Sample.epoch⟩),
        Sample.at0 "g" (.registerRuntimeAdapter Sample.founder "r" ⟨"k"⟩),
        Sample.at0 "" (.putRuntime Sample.founder ⟨"r", "w", "", "j", Sample.epoch⟩)]).plane := by
  intro h
  have hkind := h (key "w" "r") ⟨"g", ⟨"k"⟩⟩ ⟨"r", "w", "", "j", Sample.epoch⟩ (by decide)
    (by decide)
  exact absurd hkind (by decide)

end VentureOS.ControlPlane
