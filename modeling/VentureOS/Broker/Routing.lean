import VentureOS.Broker.RuntimeBroker

/-! # Routing selects the best candidate

What an evaluation says about its candidate (`eligible_iff`, `evaluateCandidate_of_eligible`), what `select`
makes of the evaluations (`select_eq_ok`, `select_eq_error`, `select_eq_of_perm`), and from these what
`route` answers in every state a broker reaches (`routing_is_optimal`): a candidate preferred to all others
that are eligible, with an evaluation of every candidate of the workspace, and the same answer from every
broker that holds the same candidates. -/

namespace VentureOS.Broker

open ControlPlane Program

/-! ## The comparators -/

/-- Texts are compared by their code units. -/
theorem orders_compareText {α : Type} (f : α → String) :
    Orders (fun a b => compareText (f a) (f b)) (fun a => utf16Units (f a)) := by
  intro a b
  by_cases h : f a = f b
  · simp [compareText, h]
  · have hunits : utf16Units (f a) ≠ utf16Units (f b) := fun h' => h (utf16Units_injective h')
    by_cases hlt : utf16Units (f a) < utf16Units (f b)
    · simp [compareText, h, hunits, hlt]
    · simp [compareText, h, hunits, hlt]

/-- Runtime and connection of an evaluation, as they are compared. -/
def place (evaluation : RuntimeCandidateEvaluation) : List Nat ×ₗ List Nat :=
  toLex (utf16Units evaluation.runtimeId, utf16Units evaluation.connectionId)

/-- Score, runtime and connection of an eligible evaluation, as they are compared. -/
def rank (evaluation : RuntimeCandidateEvaluation × Int) : Int ×ₗ (List Nat ×ₗ List Nat) :=
  toLex (-evaluation.2, place evaluation.1)

theorem orders_evaluations : Orders compareEvaluations place :=
  (orders_compareText RuntimeCandidateEvaluation.runtimeId).thenBy
    (orders_compareText RuntimeCandidateEvaluation.connectionId)

theorem orders_eligible : Orders compareEligible rank :=
  (orders_sub fun e : RuntimeCandidateEvaluation × Int => e.2).thenBy
    ((orders_compareText fun e : RuntimeCandidateEvaluation × Int => e.1.runtimeId).thenBy
      (orders_compareText fun e : RuntimeCandidateEvaluation × Int => e.1.connectionId))

variable {e : RuntimeCandidateEvaluation}

/-- The place of an evaluation tells its runtime and its connection. -/
theorem place_inj {e' : RuntimeCandidateEvaluation} :
    place e = place e' ↔ e.runtimeId = e'.runtimeId ∧ e.connectionId = e'.connectionId := by
  simp [place, utf16Units_injective.eq_iff]

/-! ## Evaluations -/

theorem uniqueReasons_eq_nil {reasons : List RuntimeRejectionReason} :
    uniqueReasons reasons = [] ↔ reasons = [] := by
  unfold uniqueReasons
  rw [← List.length_eq_zero_iff, (sortBy_perm _ _).length_eq, List.length_eq_zero_iff]
  exact List.dedup_eq_nil reasons

/-- A candidate is well formed, or has the one reason that it is not. -/
theorem invalidEvidence_mem {candidate : RuntimeRoutingCandidate} :
    .INVALID_EVIDENCE ∈ validateCandidate candidate ↔ validateCandidate candidate ≠ [] := by
  unfold validateCandidate
  cases checkCandidate candidate <;> simp

section Evaluation

variable (options : RuntimeBrokerOptions) (request : RuntimeRoutingRequest) (now : Int)

/-- The evaluation finds the candidate eligible. -/
def Eligible (candidate : RuntimeRoutingCandidate) : Prop :=
  (evaluateCandidate options request candidate now).eligible = true

instance (candidate : RuntimeRoutingCandidate) : Decidable (Eligible options request now candidate) :=
  inferInstanceAs (Decidable (_ = _))

/-- The score of a candidate, should it be eligible. -/
def score (candidate : RuntimeRoutingCandidate) : Int :=
  scoreBps (request.weights.getD defaultWeights) (scoreFactors request candidate)

variable {options request now}

/-- **Eligibility.** A candidate is eligible iff it is of the workspace, well formed, and no reason of the
policy speaks against it. -/
theorem eligible_iff {candidate : RuntimeRoutingCandidate} :
    Eligible options request now candidate ↔ candidate.workspaceId = request.workspaceId
      ∧ validateCandidate candidate = [] ∧ policyReasons options request candidate now = [] := by
  unfold Eligible evaluateCandidate
  by_cases hws : candidate.workspaceId = request.workspaceId
  · by_cases hvalid : validateCandidate candidate = []
    · by_cases hpolicy : policyReasons options request candidate now = []
      · simp [hws, hvalid, hpolicy, uniqueReasons_eq_nil]
      · simp [hws, hvalid, hpolicy, uniqueReasons_eq_nil]
    · simp [hws, hvalid, invalidEvidence_mem]
  · simp [hws]

/-- The evaluation of an eligible candidate has its score. -/
theorem evaluateCandidate_of_eligible {candidate : RuntimeRoutingCandidate}
    (h : Eligible options request now candidate) :
    evaluateCandidate options request candidate now
      = ⟨candidate.runtimeId, candidate.connectionId, true, [], some (score request candidate),
        some (scoreFactors request candidate)⟩ := by
  obtain ⟨hws, hvalid, hpolicy⟩ := eligible_iff.mp h
  have hreasons : uniqueReasons (policyReasons options request candidate now) = [] :=
    uniqueReasons_eq_nil.mpr hpolicy
  simp [evaluateCandidate, hws, hvalid, hreasons, score]

/-- The evaluation of a candidate of the workspace names its runtime and its connection. -/
theorem evaluateCandidate_names {candidate : RuntimeRoutingCandidate}
    (h : candidate.workspaceId = request.workspaceId) :
    (evaluateCandidate options request candidate now).runtimeId = candidate.runtimeId
      ∧ (evaluateCandidate options request candidate now).connectionId = candidate.connectionId := by
  simp only [evaluateCandidate]
  rw [if_neg (not_not.mpr h)]
  split
  · exact ⟨rfl, rfl⟩
  · split
    · exact ⟨rfl, rfl⟩
    · exact ⟨rfl, rfl⟩

end Evaluation

/-! ## Selection -/

theorem mem_scored {evaluations : List RuntimeCandidateEvaluation}
    {s : Int} : (e, s) ∈ scored evaluations ↔
      e ∈ evaluations ∧ e.eligible = true ∧ e.scoreBps = some s := by
  unfold scored
  rw [List.mem_filterMap]
  constructor
  · rintro ⟨e', he', h⟩
    split at h
    · rename_i heligible
      obtain ⟨s', hs', hpair⟩ := Option.map_eq_some_iff.mp h
      rw [Prod.mk.injEq] at hpair
      obtain ⟨rfl, rfl⟩ := hpair
      exact ⟨he', heligible, hs'⟩
    · cases h
  · rintro ⟨he, heligible, hs⟩
    exact ⟨e, he, by simp [heligible, hs]⟩

section Selection

variable {request : RuntimeRoutingRequest} {evaluatedAt : String}
  {evaluations evaluations' : List RuntimeCandidateEvaluation}

/-- A decision is about an eligible evaluation of least rank, and shows every evaluation. -/
theorem select_eq_ok {decision : ExplainedRoutingDecision}
    (h : select request evaluatedAt evaluations = .ok decision) :
    decision.evaluations.Perm evaluations ∧ ∃ selected, (selected, decision.selectedScoreBps) ∈ scored evaluations
      ∧ decision.selectedRuntimeId = selected.runtimeId
      ∧ decision.selectedConnectionId = selected.connectionId
      ∧ ∀ other ∈ scored evaluations, rank (selected, decision.selectedScoreBps) ≤ rank other := by
  simp only [select] at h
  split at h
  · cases h
  · rename_i selected score hhead
    obtain rfl := Except.ok.inj h
    obtain ⟨hmem, hleast⟩ := sortBy_head orders_eligible hhead
    exact ⟨sortBy_perm _ _, selected, hmem, rfl, rfl, hleast⟩

/-- Without an eligible evaluation there is no decision, but the evidence shows every evaluation. -/
theorem select_eq_error {e : BrokerError} (h : select request evaluatedAt evaluations = .error e) :
    scored evaluations = [] ∧ ∃ evidence, e = .noEligibleRuntime evidence
      ∧ evidence.evaluations.Perm evaluations := by
  simp only [select] at h
  split at h
  · rename_i hhead
    obtain rfl := Except.error.inj h
    exact ⟨sortBy_head_eq_none.mp hhead, _, rfl, sortBy_perm _ _⟩
  · cases h

/-- The selection does not depend on the order of evaluations that name distinct candidates. -/
theorem select_eq_of_perm (hperm : evaluations.Perm evaluations')
    (hplace : ∀ e ∈ evaluations, ∀ e' ∈ evaluations, place e = place e' → e = e') :
    select request evaluatedAt evaluations = select request evaluatedAt evaluations' := by
  have hscored : sortBy compareEligible (scored evaluations)
      = sortBy compareEligible (scored evaluations') := by
    refine sortBy_eq_of_perm orders_eligible ?_ (hperm.filterMap _)
    rintro ⟨e, s⟩ he ⟨e', s'⟩ he' hrank
    obtain ⟨hmem, -, hs⟩ := mem_scored.mp he
    obtain ⟨hmem', -, hs'⟩ := mem_scored.mp he'
    have hrank := congrArg ofLex hrank
    simp only [rank, ofLex_toLex, Prod.mk.injEq] at hrank
    obtain rfl := hplace e hmem e' hmem' hrank.2
    rw [hs, Option.some.injEq] at hs'
    rw [hs']
  unfold select
  rw [hscored, sortBy_eq_of_perm orders_evaluations hplace hperm]

end Selection

/-! ## Routing -/

section Routing

variable {options options' : RuntimeBrokerOptions} {context : WorkspaceContext}
  {request : RuntimeRoutingRequest} {broker broker' : RuntimeBroker}

/-- The next reading of the clock is a time. -/
def ClockTells (options : RuntimeBrokerOptions) (broker : RuntimeBroker) : Prop :=
  isSafeInteger (options.clock broker.clockReads) = true ∧ 0 ≤ options.clock broker.clockReads
    ∧ (toISOString (options.clock broker.clockReads)).isSome

instance : Decidable (ClockTells options broker) := inferInstanceAs (Decidable (_ ∧ _))

/-- What `route` answers. -/
def routed (options : RuntimeBrokerOptions) (context : WorkspaceContext)
    (request : RuntimeRoutingRequest) (broker : RuntimeBroker) :
    Except BrokerError ExplainedRoutingDecision :=
  ((route options context request).exec broker).1

/-- The evaluations `route` makes. -/
def evaluations (options : RuntimeBrokerOptions) (request : RuntimeRoutingRequest)
    (broker : RuntimeBroker) : List RuntimeCandidateEvaluation :=
  (workspaceCandidates broker request.workspaceId).map fun candidate =>
    evaluateCandidate options request candidate (options.clock broker.clockReads)

/-- An accepted request is of the workspace of its caller. -/
theorem workspace_of_validateRequest (h : validateRequest context request = .ok ()) :
    context.workspaceId = request.workspaceId := by
  unfold validateRequest at h
  rw [check_bind_eq_ok, throwIf_eq_ok] at h
  exact not_not.mp h.1

/-- A routing that passes its checks answers with the selection. -/
theorem routed_eq (hrequest : validateRequest context request = .ok ())
    (hbound : (workspaceCandidates broker context.workspaceId).length ≤ 1000)
    (hclock : ClockTells options broker) :
    ∃ evaluatedAt, toISOString (options.clock broker.clockReads) = some evaluatedAt
      ∧ routed options context request broker
        = select request evaluatedAt (evaluations options request broker) := by
  obtain ⟨hsafe, hnonneg, htext⟩ := hclock
  obtain ⟨evaluatedAt, htext⟩ := Option.isSome_iff_exists.mp htext
  refine ⟨evaluatedAt, htext, ?_⟩
  have hws := workspace_of_validateRequest hrequest
  suffices h : Ensures (route options context request) broker (fun r _ =>
      r = select request evaluatedAt (evaluations options request broker)) from h
  unfold route
  rw [ensures_lift_bind, hrequest]
  refine ⟨fun e he => (by cases he), fun _ _ => ?_⟩
  rw [ensures_get_bind, ensures_lift_bind]
  refine ⟨fun e he => ?_, fun _ _ => ?_⟩
  · simp only [check, throwIf, if_neg (Nat.not_lt.mpr hbound)] at he
    cases he
  rw [ensures_bind, ensures_set, ensures_lift_bind]
  refine ⟨fun e he => ?_, fun _ _ => ?_⟩
  · simp only [check, throwIf, hsafe, if_neg (show ¬ (true = false ∨ options.clock broker.clockReads < 0)
      from by simpa using hnonneg)] at he
    cases he
  rw [ensures_lift_bind]
  simp only [isoTime, htext]
  refine ⟨fun e he => (by cases he), fun text htext => ?_⟩
  obtain rfl := Except.ok.inj htext
  simp only [ensures_lift, evaluations, hws]

theorem mem_workspaceCandidates {workspaceId : EntityId} {candidate : RuntimeRoutingCandidate} :
    candidate ∈ workspaceCandidates broker workspaceId
      ↔ candidate ∈ broker.candidates ∧ candidate.workspaceId = workspaceId := by
  simp [workspaceCandidates]

theorem nodup_workspaceCandidates (broker : RuntimeBroker) (workspaceId : EntityId) :
    (workspaceCandidates broker workspaceId).Nodup :=
  (List.Nodup.of_map _ broker.candidates.nodup_map_keyOf_values).filter _

/-- Evaluations of one broker that name the same runtime and connection are of one candidate. -/
theorem evaluations_distinct : ∀ e ∈ evaluations options request broker,
    ∀ e' ∈ evaluations options request broker, place e = place e' → e = e' := by
  intro e he e' he' hplace
  obtain ⟨c, hc, rfl⟩ := List.mem_map.mp he
  obtain ⟨c', hc', rfl⟩ := List.mem_map.mp he'
  obtain ⟨hheld, hws⟩ := mem_workspaceCandidates.mp hc
  obtain ⟨hheld', hws'⟩ := mem_workspaceCandidates.mp hc'
  rw [place_inj, (evaluateCandidate_names hws).1, (evaluateCandidate_names hws).2,
    (evaluateCandidate_names hws').1, (evaluateCandidate_names hws').2] at hplace
  have hkey : keyOf c = keyOf c' := by simp [hws, hws', hplace.1, hplace.2]
  rw [Store.eq_of_keyOf_eq hheld hheld' hkey]

/-- Brokers with the same candidates in the workspace make the same evaluations. -/
theorem evaluations_perm (hparse : options'.dateParse = options.dateParse)
    (hclock : options'.clock broker'.clockReads = options.clock broker.clockReads)
    (hsame : ∀ candidate, candidate.workspaceId = request.workspaceId →
      (candidate ∈ broker.candidates ↔ candidate ∈ broker'.candidates)) :
    (evaluations options request broker).Perm (evaluations options' request broker') := by
  have hcandidates : (workspaceCandidates broker request.workspaceId).Perm
      (workspaceCandidates broker' request.workspaceId) := by
    rw [List.perm_ext_iff_of_nodup (nodup_workspaceCandidates _ _) (nodup_workspaceCandidates _ _)]
    intro candidate
    rw [mem_workspaceCandidates, mem_workspaceCandidates]
    exact and_congr_left (hsame candidate)
  -- Of the options, an evaluation uses the reading of heartbeats only.
  have hevaluate : ∀ candidate, evaluateCandidate options' request candidate
      (options'.clock broker'.clockReads)
      = evaluateCandidate options request candidate (options.clock broker.clockReads) := by
    intro candidate
    have hstale : staleHeartbeat options' request candidate
        = staleHeartbeat options request candidate := by
      funext now
      unfold staleHeartbeat
      rw [hparse]
    unfold evaluateCandidate policyReasons
    rw [hclock, hstale]
  unfold evaluations
  rw [List.map_congr_left fun candidate _ => hevaluate candidate]
  exact hcandidates.map _

/-- `left` is preferred to `right`: by a higher score, or the smaller runtime identifier, or the smaller
connection identifier. -/
def Preferred (request : RuntimeRoutingRequest) (left right : RuntimeRoutingCandidate) : Prop :=
  score request right < score request left ∨ score request left = score request right
    ∧ (utf16Units left.runtimeId < utf16Units right.runtimeId ∨ left.runtimeId = right.runtimeId
      ∧ utf16Units left.connectionId < utf16Units right.connectionId)

/-- The smaller rank is preferred. -/
theorem preferred_of_rank_lt {left right : RuntimeRoutingCandidate}
    {e' : RuntimeCandidateEvaluation}
    (he : e.runtimeId = left.runtimeId ∧ e.connectionId = left.connectionId)
    (he' : e'.runtimeId = right.runtimeId ∧ e'.connectionId = right.connectionId)
    (h : rank (e, score request left) < rank (e', score request right)) :
    Preferred request left right := by
  simp only [rank, place, Prod.Lex.toLex_lt_toLex, he, he', utf16Units_injective.eq_iff, Int.neg_inj] at h
  rcases h with h | ⟨hscore, h⟩
  · exact Or.inl (Int.neg_lt_neg_iff.mp h)
  · exact Or.inr ⟨hscore, h⟩

/-- The scored evaluations are those of the eligible candidates. -/
theorem mem_scored_evaluations {s : Int} :
    (e, s) ∈ scored (evaluations options request broker) ↔ ∃ candidate ∈ broker.candidates,
      candidate.workspaceId = request.workspaceId
        ∧ Eligible options request (options.clock broker.clockReads) candidate
        ∧ e = evaluateCandidate options request candidate (options.clock broker.clockReads)
        ∧ s = score request candidate := by
  rw [mem_scored]
  constructor
  · rintro ⟨he, heligible, hs⟩
    obtain ⟨candidate, hc, rfl⟩ := List.mem_map.mp he
    obtain ⟨hheld, hws⟩ := mem_workspaceCandidates.mp hc
    refine ⟨candidate, hheld, hws, heligible, rfl, ?_⟩
    rw [evaluateCandidate_of_eligible heligible] at hs
    exact (Option.some.inj hs).symm
  · rintro ⟨candidate, hheld, hws, heligible, rfl, rfl⟩
    refine ⟨List.mem_map_of_mem (mem_workspaceCandidates.mpr ⟨hheld, hws⟩), heligible, ?_⟩
    rw [evaluateCandidate_of_eligible heligible]

/-- A selected evaluation is of a held candidate, preferred to all other eligible ones. -/
theorem preferred_of_least {selected : RuntimeCandidateEvaluation} {s : Int}
    (hmem : (selected, s) ∈ scored (evaluations options request broker))
    (hleast : ∀ other ∈ scored (evaluations options request broker), rank (selected, s) ≤ rank other) :
    ∃ candidate ∈ broker.candidates, candidate.workspaceId = request.workspaceId
      ∧ Eligible options request (options.clock broker.clockReads) candidate
      ∧ selected.runtimeId = candidate.runtimeId ∧ selected.connectionId = candidate.connectionId
      ∧ s = score request candidate
      ∧ ∀ other ∈ broker.candidates, other.workspaceId = request.workspaceId →
        Eligible options request (options.clock broker.clockReads) other → other ≠ candidate →
        Preferred request candidate other := by
  obtain ⟨candidate, hheld, hws, heligible, rfl, rfl⟩ := mem_scored_evaluations.mp hmem
  have hnames := @evaluateCandidate_names options request (options.clock broker.clockReads) _ hws
  refine ⟨candidate, hheld, hws, heligible, hnames.1, hnames.2, rfl, ?_⟩
  intro other hheld' hws' heligible' hne
  have hnames' := @evaluateCandidate_names options request (options.clock broker.clockReads) _ hws'
  have hle := hleast _ (mem_scored_evaluations.mpr ⟨other, hheld', hws', heligible', rfl, rfl⟩)
  refine preferred_of_rank_lt hnames hnames' (lt_of_le_of_ne hle fun hrank => hne ?_)
  -- The rank names runtime and connection, so candidates of one rank are one candidate.
  have hrank := congrArg (fun r => (ofLex r).2) hrank
  simp only [rank, ofLex_toLex] at hrank
  rw [place_inj, hnames.1, hnames.2, hnames'.1, hnames'.2] at hrank
  refine Store.eq_of_keyOf_eq hheld' hheld ?_
  simp [hws, hws', hrank.1, hrank.2]

/-- A selection from the evaluations of a broker. -/
theorem select_evaluations {evaluatedAt : String} :
    (∀ decision, select request evaluatedAt (evaluations options request broker) = .ok decision →
      ∃ candidate ∈ broker.candidates, candidate.workspaceId = request.workspaceId
        ∧ Eligible options request (options.clock broker.clockReads) candidate) ∧
    ∀ e, select request evaluatedAt (evaluations options request broker) = .error e →
      (∃ evidence, e = .noEligibleRuntime evidence)
        ∧ ∀ candidate ∈ broker.candidates, candidate.workspaceId = request.workspaceId →
          ¬ Eligible options request (options.clock broker.clockReads) candidate := by
  constructor
  · intro decision hdecision
    obtain ⟨-, selected, hmem, -⟩ := select_eq_ok hdecision
    obtain ⟨candidate, hheld, hws, heligible, -⟩ := mem_scored_evaluations.mp hmem
    exact ⟨candidate, hheld, hws, heligible⟩
  · intro e he
    obtain ⟨hnone, evidence, rfl, -⟩ := select_eq_error he
    refine ⟨⟨evidence, rfl⟩, fun candidate hheld hws heligible => ?_⟩
    have hmem := mem_scored_evaluations.mpr ⟨candidate, hheld, hws, heligible, rfl, rfl⟩
    rw [hnone] at hmem
    cases hmem

end Routing

/-! ## Ingestion -/

/-! ## Every broker -/

/-- **Routing is optimal and does not depend on the order of ingestion.** In every state of a broker, and
for every accepted request with at most 1000 candidates in its workspace:
* `route` answers with an eligible candidate of the workspace that is preferred to all others;
* it finds no eligible runtime iff there is none, and answers otherwise;
* its evaluations, in the decision or in the evidence, are one of each candidate of the workspace;
* every broker that holds the same candidates in the workspace gives the same answer at the same time. -/
theorem routing_is_optimal (options : RuntimeBrokerOptions) (calls : List Call)
    (context : WorkspaceContext) (request : RuntimeRoutingRequest)
    (hrequest : validateRequest context request = .ok ())
    (hbound : (workspaceCandidates (reach options calls) context.workspaceId).length ≤ 1000)
    (hclock : ClockTells options (reach options calls)) :
    let broker := reach options calls
    let now := options.clock broker.clockReads
    let outcome := routed options context request broker
    let candidates := workspaceCandidates broker context.workspaceId
    (∀ candidate, candidate ∈ candidates ↔
      candidate ∈ broker.candidates ∧ candidate.workspaceId = context.workspaceId) ∧
    candidates.Nodup ∧
    (∀ decision, outcome = .ok decision →
      (∃ candidate ∈ candidates, Eligible options request now candidate
        ∧ decision.selectedRuntimeId = candidate.runtimeId
        ∧ decision.selectedConnectionId = candidate.connectionId
        ∧ decision.selectedScoreBps = score request candidate
        ∧ ∀ other ∈ candidates, Eligible options request now other → other ≠ candidate →
          Preferred request candidate other) ∧
      decision.evaluations.Perm
        (candidates.map fun candidate => evaluateCandidate options request candidate now)) ∧
    (∀ evidence, outcome = .error (.noEligibleRuntime evidence) → evidence.evaluations.Perm
      (candidates.map fun candidate => evaluateCandidate options request candidate now)) ∧
    ((∃ evidence, outcome = .error (.noEligibleRuntime evidence)) ↔
      ∀ candidate ∈ candidates, ¬ Eligible options request now candidate) ∧
    ((∃ decision, outcome = .ok decision) ↔ ∃ candidate ∈ candidates, Eligible options request now candidate) ∧
    ∀ options' calls', options'.dateParse = options.dateParse →
      options'.clock (reach options' calls').clockReads = now →
      (∀ candidate, candidate.workspaceId = context.workspaceId →
        (candidate ∈ broker.candidates ↔ candidate ∈ (reach options' calls').candidates)) →
      routed options' context request (reach options' calls') = outcome := by
  intro broker now outcome candidates
  have hws := workspace_of_validateRequest hrequest
  obtain ⟨evaluatedAt, htext, houtcome⟩ := routed_eq hrequest hbound hclock
  have hmem : ∀ candidate, candidate ∈ candidates ↔ candidate ∈ broker.candidates
      ∧ candidate.workspaceId = request.workspaceId := by
    intro candidate
    rw [← hws]
    exact mem_workspaceCandidates
  have hevaluations : evaluations options request broker
      = candidates.map fun candidate => evaluateCandidate options request candidate now := by
    simp only [evaluations, candidates, hws, now]
  obtain ⟨hfound, hnone⟩ := @select_evaluations options request broker evaluatedAt
  have houtcome : outcome = select request evaluatedAt (evaluations options request broker) := houtcome
  rw [← houtcome] at hfound hnone
  refine ⟨fun candidate => mem_workspaceCandidates, nodup_workspaceCandidates _ _, ?_, ?_, ?_, ?_, ?_⟩
  · intro decision hdecision
    rw [houtcome] at hdecision
    obtain ⟨hperm, selected, hselected, hruntime, hconnection, hleast⟩ := select_eq_ok hdecision
    refine ⟨?_, hevaluations ▸ hperm⟩
    obtain ⟨candidate, hheld, hworkspace, heligible, hr, hc, hscore, hothers⟩ :=
      preferred_of_least hselected hleast
    refine ⟨candidate, (hmem candidate).mpr ⟨hheld, hworkspace⟩, heligible, hruntime.trans hr,
      hconnection.trans hc, hscore, fun other hother heligible' hne => ?_⟩
    obtain ⟨hheld', hws'⟩ := (hmem other).mp hother
    exact hothers other hheld' hws' heligible' hne
  · intro evidence hevidence
    rw [houtcome] at hevidence
    obtain ⟨-, evidence', hsame, hperm⟩ := select_eq_error hevidence
    obtain rfl := BrokerError.noEligibleRuntime.inj hsame
    exact hevaluations ▸ hperm
  · constructor
    · rintro ⟨evidence, hevidence⟩ candidate hcandidate
      obtain ⟨hheld, hworkspace⟩ := (hmem candidate).mp hcandidate
      exact (hnone _ hevidence).2 candidate hheld hworkspace
    · intro hall
      cases hout : outcome with
      | ok decision =>
        obtain ⟨candidate, hheld, hworkspace, heligible⟩ := hfound decision hout
        exact absurd heligible (hall candidate ((hmem candidate).mpr ⟨hheld, hworkspace⟩))
      | error e =>
        obtain ⟨⟨evidence, rfl⟩, -⟩ := hnone e hout
        exact ⟨evidence, rfl⟩
  · constructor
    · rintro ⟨decision, hdecision⟩
      obtain ⟨candidate, hheld, hworkspace, heligible⟩ := hfound decision hdecision
      exact ⟨candidate, (hmem candidate).mpr ⟨hheld, hworkspace⟩, heligible⟩
    · rintro ⟨candidate, hcandidate, heligible⟩
      obtain ⟨hheld, hworkspace⟩ := (hmem candidate).mp hcandidate
      cases hout : outcome with
      | ok decision => exact ⟨decision, rfl⟩
      | error e => exact absurd heligible ((hnone e hout).2 candidate hheld hworkspace)
  · intro options' calls' hparse hreading hsame
    rw [hws] at hsame
    have hperm := @evaluations_perm options options' request broker (reach options' calls') hparse
      hreading hsame
    have hplaces : (workspaceCandidates (reach options' calls') context.workspaceId).length ≤ 1000 := by
      have hlength := hperm.length_eq
      simp only [evaluations, List.length_map] at hlength
      rw [hws, ← hlength, ← hws]
      exact hbound
    have hclock' : ClockTells options' (reach options' calls') := by
      unfold ClockTells
      rw [hreading]
      exact hclock
    obtain ⟨evaluatedAt', htext', houtcome'⟩ := routed_eq hrequest hplaces hclock'
    rw [hreading, htext, Option.some.injEq] at htext'
    rw [houtcome', houtcome, ← htext', select_eq_of_perm hperm evaluations_distinct]

namespace Sample

/-- A system principal ingests evidence in workspace `w` at the start of the epoch. -/
def options : RuntimeBrokerOptions where
  authorityPrincipals := ["system"]
  clock := fun _ => 0
  dateParse := fun _ => some 0

def context : WorkspaceContext := ⟨"w", "system"⟩

/-- The verified proof of a runtime. -/
def proof (runtimeId : EntityId) : RuntimeProof := ⟨true, runtimeId, "p", "c"⟩

/-- A connected candidate that can do everything; all candidates have one score. -/
def candidate (runtimeId : EntityId) : RuntimeRoutingCandidate where
  runtimeId := runtimeId
  connectionId := "c"
  workspaceId := "w"
  connectionStatus := .CONNECTED
  authenticatedPrincipalId := "p"
  trustEvidence :=
    { registration := proof runtimeId
      capabilityExchange := proof runtimeId
      heartbeat := { proof runtimeId with observedAt := "1970-01-01T00:00:00.000Z" }
      taskRoundTrip := proof runtimeId }
  capabilityIds := ["build"]
  toolGrants := []
  maximumDataSensitivity := .RESTRICTED
  securityTier := Fin.last 3
  reliabilityScoreBps := 9000
  qualityScoreBps := 9000
  expectedLatencyMs := 500
  estimatedCostMinorUnits := 100
  activeRuns := 1
  maxConcurrentRuns := 4
  remainingBudgetMinorUnits := 1000
  remainingComputeUnits := 1000

def request : RuntimeRoutingRequest where
  id := "r"
  workspaceId := "w"
  requiredCapabilityIds := ["build"]
  requiredTools := []
  dataSensitivity := .INTERNAL
  minimumSecurityTier := ⟨1, Nat.one_lt_succ_succ 2⟩
  minimumReliabilityScoreBps := 8000
  maximumLatencyMs := 1000
  maximumCostMinorUnits := 500
  requiredComputeUnits := 10
  heartbeatFreshnessMs := 60000
  weights := none

/-- Evidence of two runtimes, the greater first; that of the greater is replaced. -/
def calls : List Call :=
  [.putCandidateEvidence context (candidate "b"), .putCandidateEvidence context (candidate "a"),
    .replaceCandidateEvidence context (candidate "b")]

end Sample

/-- Of two candidates with one score the broker selects the one with the smaller runtime identifier. -/
theorem tie_is_routed :
    ∃ decision, routed Sample.options Sample.context Sample.request
        (reach Sample.options Sample.calls) = .ok decision
      ∧ decision.selectedRuntimeId = "a" := by
  obtain ⟨-, -, hok, -, -, hsome, -⟩ := routing_is_optimal Sample.options Sample.calls Sample.context
    Sample.request (by decide) (by decide) (by decide)
  obtain ⟨decision, hdecision⟩ := hsome.mpr
    ⟨Sample.candidate "a", by decide, by decide⟩
  refine ⟨decision, hdecision, ?_⟩
  -- Both candidates are eligible, and the greater is not preferred to the smaller.
  obtain ⟨⟨candidate, hcandidate, -, hruntime, -, -, hbest⟩, -⟩ := hok decision hdecision
  have hheld : candidate ∈ [Sample.candidate "b", Sample.candidate "a"] := hcandidate
  rcases List.mem_pair.mp hheld with rfl | rfl
  · have hpreferred := hbest (Sample.candidate "a") (by decide) (by decide)
      (by decide)
    exact absurd hpreferred (by unfold Preferred; decide)
  · exact hruntime

end VentureOS.Broker
