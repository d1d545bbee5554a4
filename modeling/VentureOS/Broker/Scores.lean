import VentureOS.Broker.Routing
import VentureOS.Foundations.Rounding

/-! # Scores are bounded and monotone

The score of an eligible candidate is from 0 to 10,000, and the doubles that compute it are exact up to the last
quotient, which rounding leaves between the same integers. A candidate that is at least as good in every respect has
at least the score: the ratios are monotone through their floors (`ratioScore_le`), and where the cost ceiling is
zero an eligible candidate costs nothing. -/

namespace VentureOS.Broker

open ControlPlane Program

/-! ## What the checks establish -/

theorem assertIntegerInRange_eq_ok {value minimum maximum : Int} {field : String} :
    assertIntegerInRange value field minimum maximum = .ok () ↔
      isSafeInteger value = true ∧ minimum ≤ value ∧ value ≤ maximum := by
  rw [assertIntegerInRange, throwIf_eq_ok]
  simp

/-- The numbers of accepted weights. -/
structure Weighing (weights : RuntimeRoutingWeights) : Prop where
  nonneg : ∀ weight ∈ RuntimeRoutingWeights.values weights, 0 ≤ weight
  total : (RuntimeRoutingWeights.values weights).sum = 10000

theorem weighing_of_validateWeights {weights : RuntimeRoutingWeights} (h : validateWeights weights = .ok ()) :
    Weighing weights := by
  rw [validateWeights, check_bind_eq_ok, throwIf_eq_ok, not_not, forM_eq_ok] at h
  refine ⟨fun weight hweight => ?_, h.2⟩
  obtain ⟨index, hindex⟩ := List.mem_iff_getElem?.mp hweight
  exact (assertIntegerInRange_eq_ok.mp (h.1 (weight, index) (List.mem_zipIdx_iff_getElem?.mpr hindex))).2.1

/-- The numbers of an accepted request. -/
structure Asking (request : RuntimeRoutingRequest) : Prop where
  latency : 1 ≤ request.maximumLatencyMs
  cost : 0 ≤ request.maximumCostMinorUnits
  weights : Weighing (request.weights.getD defaultWeights)

variable {request : RuntimeRoutingRequest}

theorem asking_of_validateRequest {context : WorkspaceContext}
    (h : validateRequest context request = .ok ()) : Asking request := by
  simp only [validateRequest, check_bind_eq_ok, assertIntegerInRange_eq_ok] at h
  obtain ⟨-, -, -, -, -, hlatency, hcost, -, -, -, -, -, -, hweights⟩ := h
  exact ⟨hlatency.2.1, hcost.2.1, weighing_of_validateWeights hweights⟩

/-- The numbers of an eligible candidate. -/
structure Offering (request : RuntimeRoutingRequest) (candidate : RuntimeRoutingCandidate) : Prop where
  reliability : 0 ≤ candidate.reliabilityScoreBps ∧ candidate.reliabilityScoreBps ≤ 10000
  quality : 0 ≤ candidate.qualityScoreBps ∧ candidate.qualityScoreBps ≤ 10000
  latency : 0 ≤ candidate.expectedLatencyMs ∧ candidate.expectedLatencyMs ≤ request.maximumLatencyMs
  cost : 0 ≤ candidate.estimatedCostMinorUnits
    ∧ candidate.estimatedCostMinorUnits ≤ min request.maximumCostMinorUnits candidate.remainingBudgetMinorUnits
  runs : 0 ≤ candidate.activeRuns ∧ candidate.activeRuns < candidate.maxConcurrentRuns

theorem reasonIf_eq_nil {c : Prop} [Decidable c] {reason : RuntimeRejectionReason} : reasonIf c reason = [] ↔ ¬ c := by
  simp [reasonIf]

theorem offering_of_eligible {options : RuntimeBrokerOptions} {now : Int}
    {candidate : RuntimeRoutingCandidate} (h : Eligible options request now candidate) : Offering request candidate := by
  obtain ⟨-, hvalid, hpolicy⟩ := eligible_iff.mp h
  have hchecked : checkCandidate candidate = .ok () := by
    unfold validateCandidate at hvalid
    split at hvalid
    · assumption
    · cases hvalid
  simp only [checkCandidate, check_bind_eq_ok, assertIntegerInRange_eq_ok] at hchecked
  obtain ⟨-, -, -, -, -, -, -, hreliability, hquality, hlatency, hcost, hruns, -⟩ := hchecked
  simp only [policyReasons, List.append_eq_nil_iff, reasonIf_eq_nil, not_lt, not_le] at hpolicy
  obtain ⟨⟨⟨⟨⟨-, hwithin⟩, htask⟩, hbudget⟩, -⟩, hcapacity⟩ := hpolicy
  exact ⟨hreliability.2, hquality.2, ⟨hlatency.2.1, hwithin⟩, ⟨hcost.2.1, le_min htask hbudget⟩, hruns.2.1, hcapacity⟩

/-! ## Ratios -/

theorem ratioScore_bounds (used maximum : Int) (hused : 0 ≤ used) :
    0 ≤ ratioScore used maximum ∧ ratioScore used maximum ≤ 10000 := by
  unfold ratioScore
  split
  · omega
  · have hquotient : 0 ≤ used * 10000 / maximum := Int.ediv_nonneg (by omega) (by omega)
    omega

/-- **Ratios are monotone**: less of more leaves more. -/
theorem ratioScore_le {used used' maximum maximum' : Int} (hused : 0 ≤ used') (hle : used' ≤ used)
    (hpos : 0 < maximum) (hmaximum : maximum ≤ maximum') : ratioScore used maximum ≤ ratioScore used' maximum' := by
  have hquotient : used' * 10000 / maximum' ≤ used * 10000 / maximum := by
    rw [Int.le_ediv_iff_mul_le hpos]
    have hnonneg : 0 ≤ used' * 10000 / maximum' := Int.ediv_nonneg (by omega) (by omega)
    calc used' * 10000 / maximum' * maximum
        ≤ used' * 10000 / maximum' * maximum' := mul_le_mul_of_nonneg_left hmaximum hnonneg
      _ ≤ used' * 10000 := Int.ediv_mul_le _ (by omega)
      _ ≤ used * 10000 := by omega
  unfold ratioScore
  rw [if_neg (by omega), if_neg (by omega)]
  omega

/-! ## Factors -/

/-- The factors of a score, in the order in which they are weighted. -/
def RuntimeScoreFactors.values (factors : RuntimeScoreFactors) : List Int :=
  [factors.quality, factors.reliability, factors.security, factors.latency, factors.cost, factors.workload]

theorem factors_bounds {candidate : RuntimeRoutingCandidate} (h : Offering request candidate) :
    ∀ factor ∈ (scoreFactors request candidate).values, 0 ≤ factor ∧ factor ≤ 10000 := by
  have htier := candidate.securityTier.isLt
  have hcost : 0 ≤ (scoreFactors request candidate).cost ∧ (scoreFactors request candidate).cost ≤ 10000 := by
    simp only [scoreFactors]
    split
    · split <;> omega
    · exact ratioScore_bounds _ _ h.cost.1
  simp only [RuntimeScoreFactors.values, List.forall_mem_cons]
  refine ⟨h.quality, h.reliability, ?_, ratioScore_bounds _ _ h.latency.1, hcost, ratioScore_bounds _ _ h.runs.1,
    fun _ h => absurd h List.not_mem_nil⟩
  simp only [scoreFactors]
  omega

/-- `b` is at least as good as `a` in every respect. -/
structure AtLeast (a b : RuntimeRoutingCandidate) : Prop where
  quality : a.qualityScoreBps ≤ b.qualityScoreBps
  reliability : a.reliabilityScoreBps ≤ b.reliabilityScoreBps
  securityTier : a.securityTier ≤ b.securityTier
  maxConcurrentRuns : a.maxConcurrentRuns ≤ b.maxConcurrentRuns
  remainingBudget : a.remainingBudgetMinorUnits ≤ b.remainingBudgetMinorUnits
  expectedLatency : b.expectedLatencyMs ≤ a.expectedLatencyMs
  estimatedCost : b.estimatedCostMinorUnits ≤ a.estimatedCostMinorUnits
  activeRuns : b.activeRuns ≤ a.activeRuns

theorem factors_le {a b : RuntimeRoutingCandidate} (hasking : Asking request)
    (ha : Offering request a) (hb : Offering request b) (h : AtLeast a b) :
    List.Forall₂ (· ≤ ·) (scoreFactors request a).values (scoreFactors request b).values := by
  have hsecurity : (scoreFactors request a).security ≤ (scoreFactors request b).security := by
    have htier : a.securityTier.val ≤ b.securityTier.val := h.securityTier
    simp only [scoreFactors]
    omega
  have hcost : (scoreFactors request a).cost ≤ (scoreFactors request b).cost := by
    have hceiling := min_le_min_left request.maximumCostMinorUnits h.remainingBudget
    have hcosta := ha.cost
    have hcostb := hb.cost
    have hcosts := h.estimatedCost
    simp only [scoreFactors]
    generalize min request.maximumCostMinorUnits a.remainingBudgetMinorUnits = ceiling at hceiling hcosta ⊢
    generalize min request.maximumCostMinorUnits b.remainingBudgetMinorUnits = ceiling' at hceiling hcostb ⊢
    by_cases hzero : ceiling = 0
    · -- The costs are within a ceiling of zero, so there are none.
      have hfree : b.estimatedCostMinorUnits = 0 := by omega
      rw [if_pos hzero, hfree]
      by_cases hzero' : ceiling' = 0
      · rw [if_pos hzero', if_pos rfl]
        split <;> simp
      · have hnone : ratioScore 0 ceiling' = 10000 := by
          rw [ratioScore, if_neg (by omega), zero_mul, Int.zero_ediv]
          rfl
        rw [if_neg hzero', hnone]
        split <;> simp
    · rw [if_neg hzero, if_neg (by omega)]
      exact ratioScore_le hcostb.1 hcosts (by omega) hceiling
  refine .cons h.quality (.cons h.reliability (.cons hsecurity (.cons ?_ (.cons hcost (.cons ?_ .nil)))))
  · exact ratioScore_le hb.latency.1 h.expectedLatency (by have := hasking.latency; omega) le_rfl
  · exact ratioScore_le hb.runs.1 h.activeRuns (by have := ha.runs; omega) h.maxConcurrentRuns

/-! ## Weighted sums -/

/-- The weights of a score, in that order. -/
def weightsOf (request : RuntimeRoutingRequest) : List Int :=
  let weights := request.weights.getD defaultWeights
  [weights.quality, weights.reliability, weights.security, weights.latency, weights.cost, weights.workload]

/-- The products of a score. -/
def products (request : RuntimeRoutingRequest) (candidate : RuntimeRoutingCandidate) : List Int :=
  List.zipWith (· * ·) (scoreFactors request candidate).values (weightsOf request)

theorem score_eq (request : RuntimeRoutingRequest) (candidate : RuntimeRoutingCandidate) :
    score request candidate = (products request candidate).sum / 10000 := by
  simp only [score, scoreBps, products, RuntimeScoreFactors.values, weightsOf, List.zipWith_cons_cons,
    List.zipWith_nil_left, List.sum_cons, List.sum_nil, add_zero, add_assoc]

/-- Sums of products are monotone in the factors. -/
theorem sum_zipWith_mul_le {factors factors' weights : List Int} (h : List.Forall₂ (· ≤ ·) factors factors')
    (hweights : ∀ weight ∈ weights, 0 ≤ weight) :
    (List.zipWith (· * ·) factors weights).sum ≤ (List.zipWith (· * ·) factors' weights).sum := by
  induction h generalizing weights with
  | nil => simp
  | cons hle _ ih =>
    cases weights with
    | nil => simp
    | cons weight weights =>
      rw [List.forall_mem_cons] at hweights
      simp only [List.zipWith_cons_cons, List.sum_cons]
      exact add_le_add (mul_le_mul_of_nonneg_right hle hweights.1) (ih hweights.2)

theorem weightsOf_nonneg (h : Asking request) : ∀ weight ∈ weightsOf request, 0 ≤ weight := by
  intro weight hweight
  refine h.weights.nonneg weight ?_
  simp only [weightsOf, RuntimeRoutingWeights.values, List.mem_cons, List.not_mem_nil, or_false] at hweight ⊢
  tauto

section Bounds

variable {candidate : RuntimeRoutingCandidate} (hasking : Asking request)
  (hoffering : Offering request candidate)

include hasking hoffering

theorem products_nonneg : ∀ product ∈ products request candidate, 0 ≤ product := by
  intro product hproduct
  obtain ⟨index, hindex⟩ := List.mem_iff_getElem?.mp hproduct
  obtain ⟨factor, weight, hfactor, hweight, rfl⟩ := List.getElem?_zipWith_eq_some.mp hindex
  exact mul_nonneg (factors_bounds hoffering factor (List.mem_of_getElem? hfactor)).1
    (weightsOf_nonneg hasking weight (List.mem_of_getElem? hweight))

theorem sum_products_le : (products request candidate).sum ≤ 10000 * 10000 := by
  have hbound : List.Forall₂ (· ≤ ·) (scoreFactors request candidate).values (List.replicate 6 10000) := by
    have hfactors := factors_bounds hoffering
    simp only [RuntimeScoreFactors.values, List.forall_mem_cons] at hfactors
    obtain ⟨h₁, h₂, h₃, h₄, h₅, h₆, -⟩ := hfactors
    exact .cons h₁.2 (.cons h₂.2 (.cons h₃.2 (.cons h₄.2 (.cons h₅.2 (.cons h₆.2 .nil)))))
  have htotal := hasking.weights.total
  refine (sum_zipWith_mul_le hbound (weightsOf_nonneg hasking)).trans ?_
  simp only [RuntimeRoutingWeights.values, List.sum_cons, List.sum_nil] at htotal
  simp only [weightsOf, List.replicate, List.zipWith_cons_cons, List.zipWith_nil_left, List.sum_cons, List.sum_nil]
  omega

/-- The doubles of a score: quotients, products and sums are exact, and rounding the last quotient does not change
its floor. -/
structure Exact (request : RuntimeRoutingRequest) (candidate : RuntimeRoutingCandidate) : Prop where
  ratios : ∀ ratio ∈ [(candidate.expectedLatencyMs, request.maximumLatencyMs),
      (candidate.estimatedCostMinorUnits, min request.maximumCostMinorUnits candidate.remainingBudgetMinorUnits),
      (candidate.activeRuns, candidate.maxConcurrentRuns)],
    roundDouble (ratio.1 * 10000 / ratio.2) = ratio.1 * 10000 / ratio.2
  factors : ∀ factor ∈ (scoreFactors request candidate).values, roundDouble factor = factor
  terms : ∀ product ∈ products request candidate, roundDouble product = product
  sums : ∀ n, ((products request candidate).take n).foldl addDouble 0 = ((products request candidate).take n).sum
  quotient : ⌊nearestDouble (((products request candidate).sum : ℚ) / 10000)⌋ = score request candidate

theorem exact_of_eligible : Exact request candidate := by
  have hnonneg := products_nonneg hasking hoffering
  have hsum := sum_products_le hasking hoffering
  have hpart : ∀ part : List Int, part.Sublist (products request candidate) → part.sum ≤ 10000 * 10000 :=
    fun part hpart => (hpart.sum_le_sum hnonneg).trans hsum
  refine ⟨?_, fun factor hfactor => ?_, fun product hproduct => ?_, fun n => ?_, ?_⟩
  · have hquotient : ∀ used maximum : Int, 0 ≤ used → used ≤ maximum →
        roundDouble (used * 10000 / maximum) = used * 10000 / maximum := by
      intro used maximum hused hle
      have hmaximum : 0 ≤ maximum := hused.trans hle
      refine roundDouble_eq_self (Int.ediv_nonneg (by omega) hmaximum) ?_
      have hratio : used * 10000 / maximum ≤ 10000 := by
        rcases hmaximum.eq_or_lt with rfl | hpos
        · simp
        · exact Int.ediv_le_of_le_mul hpos (by omega)
      omega
    simp only [List.forall_mem_cons]
    exact ⟨hquotient _ _ hoffering.latency.1 hoffering.latency.2, hquotient _ _ hoffering.cost.1 hoffering.cost.2,
      hquotient _ _ hoffering.runs.1 hoffering.runs.2.le, fun _ h => absurd h List.not_mem_nil⟩
  · have hfactor := factors_bounds hoffering factor hfactor
    exact roundDouble_eq_self hfactor.1 (by omega)
  · have hle := hpart [product] (List.singleton_sublist.mpr hproduct)
    rw [List.sum_singleton] at hle
    exact roundDouble_eq_self (hnonneg product hproduct) (by omega)
  · have hsublist := List.take_sublist n (products request candidate)
    have hle := hpart _ hsublist
    rw [foldl_addDouble _ (fun product h => hnonneg product (hsublist.subset h)) 0 le_rfl, zero_add]
    unfold maxSafeInteger
    omega
  · obtain ⟨total, htotal⟩ := Int.eq_ofNat_of_zero_le (List.sum_nonneg hnonneg)
    rw [htotal] at hsum
    rw [score_eq, htotal]
    have hfloor := floor_nearestDouble_div (n := total) (d := 10000) (by norm_num) (by omega)
    push_cast at hfloor ⊢
    exact hfloor

end Bounds

/-- **The score is bounded and monotone.** On an accepted request the evaluation of every eligible candidate has a
score from 0 to 10,000, computed without rounding, and a candidate that is at least as good has at least the score. -/
theorem score_bounded_monotone {options : RuntimeBrokerOptions} {context : WorkspaceContext}
    {request : RuntimeRoutingRequest} {now : Int} (hrequest : validateRequest context request = .ok ()) :
    (∀ a, Eligible options request now a → ∃ score, (evaluateCandidate options request a now).scoreBps = some score
      ∧ 0 ≤ score ∧ score ≤ 10000 ∧ Exact request a)
    ∧ ∀ a b, Eligible options request now a → Eligible options request now b → AtLeast a b →
      ∀ score score', (evaluateCandidate options request a now).scoreBps = some score →
        (evaluateCandidate options request b now).scoreBps = some score' → score ≤ score' := by
  have hasking := asking_of_validateRequest hrequest
  constructor
  · intro a ha
    have hoffering := offering_of_eligible ha
    have hsum := sum_products_le hasking hoffering
    have hnonneg := List.sum_nonneg (products_nonneg hasking hoffering)
    refine ⟨score request a, by rw [evaluateCandidate_of_eligible ha], ?_, ?_, exact_of_eligible hasking hoffering⟩
    · rw [score_eq]
      omega
    · rw [score_eq]
      omega
  · intro a b ha hb hatLeast score score' hscore hscore'
    rw [evaluateCandidate_of_eligible ha, Option.some.injEq] at hscore
    rw [evaluateCandidate_of_eligible hb, Option.some.injEq] at hscore'
    rw [← hscore, ← hscore', score_eq, score_eq]
    refine Int.ediv_le_ediv (by norm_num) (sum_zipWith_mul_le ?_ (weightsOf_nonneg hasking))
    exact factors_le hasking (offering_of_eligible ha) (offering_of_eligible hb) hatLeast

/-- The score of a sample candidate. -/
theorem sample_score_bounded : ∃ score,
    (evaluateCandidate Sample.options Sample.request (Sample.candidate "a") 0).scoreBps = some score
      ∧ 0 ≤ score ∧ score ≤ 10000 ∧ Exact Sample.request (Sample.candidate "a") :=
  (@score_bounded_monotone Sample.options Sample.context Sample.request 0 (by decide)).1 _ (by decide)

end VentureOS.Broker
