import Mathlib.Algebra.BigOperators.Ring.Finset
import Mathlib.Algebra.Order.BigOperators.Group.Finset
import Mathlib.Data.Rat.Floor
import VentureOS.Durable.Policy

/-! # Board voting

`calculateBoardVotingResult` under the default weights. The reviews that are missing are computed on the set of
roles, the score on the raw list of outputs, so a role counts as often as it voted. Weights are looked up in an
object, where the names every object inherits are found as well: what is found there is no number, and a score it
is added to is `NaN`. `countsSeatsOnce_iff` says for which lists every seat counts once.

All weights are multiples of one half, so scores are exact. -/

namespace VentureOS.Governance

open Durable (inheritedNames)

/-! ## Outputs -/

/-- `AgentDecision`. -/
inductive AgentDecision where
  | APPROVE
  | REVISE
  | REJECT
  deriving DecidableEq

/-- `VetoType`. -/
inductive VetoType where
  | NONE
  | FINANCE
  | COMPLIANCE
  | SECURITY
  | QUALITY
  deriving DecidableEq

/-- The veto type as a string. -/
def VetoType.code : VetoType → String
  | .NONE => "NONE"
  | .FINANCE => "FINANCE"
  | .COMPLIANCE => "COMPLIANCE"
  | .SECURITY => "SECURITY"
  | .QUALITY => "QUALITY"

/-- `Veto`. -/
structure Veto where
  active : Bool
  type : VetoType
  reason : String
  deriving DecidableEq

/-- `AgentOutput`: the role is any text. -/
structure AgentOutput where
  agentRole : String
  decision : AgentDecision
  veto : Veto
  deriving DecidableEq

/-- `DEFAULT_AGENT_WEIGHTS`. -/
def defaultAgentWeights : List (String × ℤ) :=
  [("MARKET_INTELLIGENCE_DIRECTOR", 15), ("PRODUCT_STRATEGY_DIRECTOR", 15),
    ("CREATIVE_AND_PRODUCTION_DIRECTOR", 10), ("FINANCE_AND_RISK_OFFICER", 15), ("GROWTH_DIRECTOR", 10),
    ("COMPLIANCE_AND_MARKETPLACE_POLICY_OFFICER", 15), ("OPERATIONS_AND_QUALITY_OFFICER", 10),
    ("RED_TEAM_AND_SECURITY_OFFICER", 10)]

/-- `CRITICAL_VETO_ROLES`. -/
def criticalVetoRoles : List (String × VetoType) :=
  [("FINANCE_AND_RISK_OFFICER", .FINANCE), ("COMPLIANCE_AND_MARKETPLACE_POLICY_OFFICER", .COMPLIANCE),
    ("OPERATIONS_AND_QUALITY_OFFICER", .QUALITY), ("RED_TEAM_AND_SECURITY_OFFICER", .SECURITY)]

/-- `DEFAULT_AGENT_WEIGHTS[role] ?? 0`, of a role that is no inherited name. -/
def weightOf (role : String) : ℤ := (defaultAgentWeights.lookup role).getD 0

/-! ## The result -/

/-- The options of `calculateBoardVotingResult` beside the weights. -/
structure VotingOptions where
  approvalThreshold : Option ℚ
  requiredRoles : Option (List String)
  evidenceQualityScore : Option ℚ
  evidenceQualityMinimum : Option ℚ

/-- `BoardVotingResult`; a score that is `NaN` is none. -/
structure BoardVotingResult where
  formulaVersion : String
  weightedScore : Option ℚ
  approvalThreshold : ℚ
  meetsThreshold : Bool
  activeCriticalVetoes : List (String × VetoType × String)
  blocked : Bool
  blockingReasons : List String
  missingReviews : List String

/-- What an output adds to the score. An inherited weight is an object or a function: added as it is it makes
the score a text that is no number, and its half is `NaN`. -/
def contribution (output : AgentOutput) : Option ℚ :=
  match output.decision with
  | .APPROVE => if output.agentRole ∈ inheritedNames then none else some (weightOf output.agentRole)
  | .REVISE => if output.agentRole ∈ inheritedNames then none else some ((weightOf output.agentRole : ℚ) / 2)
  | .REJECT => some 0

/-- The loop over the outputs. -/
def totalScore (outputs : List AgentOutput) : Option ℚ :=
  outputs.foldl (fun total output => do return (← total) + (← contribution output)) (some 0)

/-- `Math.round(x * 100) / 100`. -/
def roundHundredths (x : ℚ) : ℚ := ⌊x * 100 + 1 / 2⌋ / 100

/-- The veto is active and of the type that is critical for the role. -/
def CriticalVeto (output : AgentOutput) : Prop :=
  output.veto.active = true ∧ criticalVetoRoles.lookup output.agentRole = some output.veto.type

instance (output : AgentOutput) : Decidable (CriticalVeto output) := inferInstanceAs (Decidable (_ ∧ _))

/-- `calculateBoardVotingResult`. The texts of numbers are a parameter. -/
def calculateBoardVotingResult (numberText : ℚ → String) (outputs : List AgentOutput) (options : VotingOptions) :
    BoardVotingResult :=
  let approvalThreshold := options.approvalThreshold.getD 75
  let requiredRoles := options.requiredRoles.getD (defaultAgentWeights.map Prod.fst)
  let evidenceMinimum := options.evidenceQualityMinimum.getD 70
  let missingReviews := requiredRoles.filter fun role => role ∉ outputs.map AgentOutput.agentRole
  let activeCriticalVetoes := (outputs.filter fun output => CriticalVeto output).map fun output =>
    (output.agentRole, output.veto.type, output.veto.reason)
  let vetoText := String.intercalate ", " (activeCriticalVetoes.map fun veto => s!"{veto.1}({veto.2.1.code})")
  let missingText := String.intercalate ", " missingReviews
  let blockingReasons :=
    (if 0 < missingReviews.length then [s!"Missing mandatory board reviews: {missingText}"] else [])
    ++ (if 0 < activeCriticalVetoes.length then [s!"Active critical veto(es): {vetoText}"] else [])
    ++ match options.evidenceQualityScore with
      | some score => if score < evidenceMinimum then
          [s!"Evidence quality {numberText score} is below minimum {numberText evidenceMinimum}"] else []
      | none => []
  let weightedScore := (totalScore outputs).map roundHundredths
  let meetsThreshold := weightedScore.any fun score => decide (approvalThreshold ≤ score)
  { formulaVersion := "board-voting-v1"
    weightedScore := weightedScore
    approvalThreshold := approvalThreshold
    meetsThreshold := meetsThreshold
    activeCriticalVetoes := activeCriticalVetoes
    blocked := decide (0 < blockingReasons.length) || !meetsThreshold
    blockingReasons := blockingReasons
    missingReviews := missingReviews }

/-! ## Scores -/

/-- What an output adds, when it adds a number. -/
def points (output : AgentOutput) : ℚ := (contribution output).getD 0

/-- The output adds no number. -/
def Unscored (output : AgentOutput) : Prop :=
  output.agentRole ∈ inheritedNames ∧ output.decision ≠ .REJECT

instance (output : AgentOutput) : Decidable (Unscored output) := inferInstanceAs (Decidable (_ ∧ _))

theorem contribution_eq_none {output : AgentOutput} : contribution output = none ↔ Unscored output := by
  unfold contribution Unscored
  cases output.decision <;> by_cases hname : output.agentRole ∈ inheritedNames <;> simp [hname]

theorem totalScore_eq (outputs : List AgentOutput) : totalScore outputs =
    if ∃ output ∈ outputs, Unscored output then none else some (outputs.map points).sum := by
  -- The loop, started anywhere.
  have key : ∀ total : ℚ, outputs.foldl
      (fun total output => do return (← total) + (← contribution output)) (some total)
      = if ∃ output ∈ outputs, contribution output = none then none
        else some (total + (outputs.map points).sum) := by
    have hnone : ∀ rest : List AgentOutput,
        rest.foldl (fun total output => do return (← total) + (← contribution output)) none = none := by
      intro rest
      induction rest with
      | nil => rfl
      | cons output rest ih => exact ih
    induction outputs with
    | nil => simp
    | cons output rest ih =>
      intro total
      rw [List.foldl_cons]
      cases h : contribution output with
      | none =>
        rw [if_pos ⟨output, List.mem_cons_self, h⟩]
        exact hnone rest
      | some points' =>
        have hpoints : points output = points' := by rw [points, h]; rfl
        refine (ih (total + points')).trans ?_
        simp [h, hpoints, add_assoc]
  rw [totalScore, key 0]
  simp only [contribution_eq_none, zero_add]

theorem weightOf_nonneg (role : String) : 0 ≤ weightOf role := by
  unfold weightOf
  cases h : defaultAgentWeights.lookup role with
  | none => exact le_rfl
  | some weight =>
    obtain ⟨before, after, hsplit, -⟩ := List.lookup_eq_some_iff.mp h
    have hall : ∀ entry ∈ defaultAgentWeights, 0 ≤ entry.2 := by decide
    exact hall (role, weight) (hsplit ▸ List.mem_append_right _ List.mem_cons_self)

theorem points_cases (output : AgentOutput) : points output = 0
    ∨ (output.agentRole ∉ inheritedNames ∧ output.decision ≠ .REJECT
      ∧ (points output = weightOf output.agentRole ∨ points output = weightOf output.agentRole / 2)) := by
  unfold points contribution
  cases output.decision <;> by_cases hname : output.agentRole ∈ inheritedNames <;> simp [hname]

theorem points_nonneg (output : AgentOutput) : 0 ≤ points output := by
  have hweight : (0 : ℚ) ≤ weightOf output.agentRole := Int.cast_nonneg (weightOf_nonneg output.agentRole)
  rcases points_cases output with h | ⟨-, -, h | h⟩ <;> rw [h]
  · exact hweight
  · exact div_nonneg hweight two_pos.le

theorem points_le (output : AgentOutput) : points output ≤ weightOf output.agentRole := by
  have hweight : (0 : ℚ) ≤ weightOf output.agentRole := Int.cast_nonneg (weightOf_nonneg output.agentRole)
  rcases points_cases output with h | ⟨-, -, h | h⟩ <;> rw [h]
  · exact hweight
  · exact half_le_self hweight

theorem sum_points_nonneg (outputs : List AgentOutput) : 0 ≤ (outputs.map points).sum := by
  apply List.sum_nonneg
  intro x hx
  obtain ⟨output, -, rfl⟩ := List.mem_map.mp hx
  exact points_nonneg output

/-- Scores are whole numbers of halves. -/
theorem exists_halves (outputs : List AgentOutput) : ∃ n : ℤ, (outputs.map points).sum = n / 2 := by
  induction outputs with
  | nil => exact ⟨0, by simp⟩
  | cons output rest ih =>
    obtain ⟨n, hn⟩ := ih
    rw [List.map_cons, List.sum_cons, hn]
    rcases points_cases output with h | ⟨-, -, h | h⟩ <;> rw [h]
    · exact ⟨n, zero_add _⟩
    · exact ⟨2 * weightOf output.agentRole + n, by push_cast; ring⟩
    · exact ⟨weightOf output.agentRole + n, by push_cast; ring⟩

/-- Whole numbers of halves are not rounded. -/
theorem roundHundredths_halves (n : ℤ) : roundHundredths (n / 2) = n / 2 := by
  have hfloor : ⌊(n : ℚ) / 2 * 100 + 1 / 2⌋ = 50 * n := by
    rw [Int.floor_eq_iff]
    push_cast
    constructor <;> linarith
  rw [roundHundredths, hfloor]
  push_cast
  ring

section Result

variable (numberText : ℚ → String) (options : VotingOptions) {outputs other : List AgentOutput}

theorem weightedScore_eq (outputs : List AgentOutput) :
    (calculateBoardVotingResult numberText outputs options).weightedScore
      = if ∃ output ∈ outputs, Unscored output then none else some (outputs.map points).sum := by
  show (totalScore outputs).map roundHundredths = _
  rw [totalScore_eq]
  split
  · rfl
  · obtain ⟨n, hn⟩ := exists_halves outputs
    rw [hn, Option.map_some, roundHundredths_halves]

theorem mem_activeCriticalVetoes {veto : String × VetoType × String} :
    veto ∈ (calculateBoardVotingResult numberText outputs options).activeCriticalVetoes
      ↔ ∃ output ∈ outputs, CriticalVeto output
        ∧ (output.agentRole, output.veto.type, output.veto.reason) = veto := by
  simp [calculateBoardVotingResult, and_assoc]

/-- What a board has to pass. -/
structure Passed (outputs : List AgentOutput) (options : VotingOptions) : Prop where
  reviewed : ∀ role ∈ options.requiredRoles.getD (defaultAgentWeights.map Prod.fst),
    role ∈ outputs.map AgentOutput.agentRole
  unvetoed : ∀ output ∈ outputs, ¬ CriticalVeto output
  evidence : ∀ score, options.evidenceQualityScore = some score → options.evidenceQualityMinimum.getD 70 ≤ score
  score : ∃ score, (totalScore outputs).map roundHundredths = some score
    ∧ options.approvalThreshold.getD 75 ≤ score

/-- **A board that is not blocked** has passed everything. -/
theorem blocked_eq_false : (calculateBoardVotingResult numberText outputs options).blocked = false
    ↔ Passed outputs options := by
  have hmeets : (calculateBoardVotingResult numberText outputs options).meetsThreshold = true
      ↔ ∃ score, (totalScore outputs).map roundHundredths = some score
        ∧ options.approvalThreshold.getD 75 ≤ score := by
    show (((totalScore outputs).map roundHundredths).any _) = true ↔ _
    cases (totalScore outputs).map roundHundredths <;> simp
  have hreasons : (calculateBoardVotingResult numberText outputs options).blockingReasons = []
      ↔ (∀ role ∈ options.requiredRoles.getD (defaultAgentWeights.map Prod.fst),
          role ∈ outputs.map AgentOutput.agentRole)
        ∧ (∀ output ∈ outputs, ¬ CriticalVeto output)
        ∧ ∀ score, options.evidenceQualityScore = some score →
          options.evidenceQualityMinimum.getD 70 ≤ score := by
    simp only [calculateBoardVotingResult, List.append_eq_nil_iff, and_assoc]
    refine and_congr ?_ (and_congr ?_ ?_)
    · simp
    · simp
    · cases options.evidenceQualityScore <;> simp
  have hblocked : (calculateBoardVotingResult numberText outputs options).blocked
      = (decide (0 < (calculateBoardVotingResult numberText outputs options).blockingReasons.length)
        || !(calculateBoardVotingResult numberText outputs options).meetsThreshold) := rfl
  rw [hblocked, Bool.or_eq_false_iff, decide_eq_false_iff_not, Nat.not_lt, Nat.le_zero, List.length_eq_zero_iff,
    hreasons, Bool.not_eq_false', hmeets]
  exact ⟨fun ⟨⟨h₁, h₂, h₃⟩, h₄⟩ => ⟨h₁, h₂, h₃, h₄⟩, fun h => ⟨⟨h.reviewed, h.unvetoed, h.evidence⟩, h.score⟩⟩

/-- The results are the same, but for the order of the vetoes. -/
structure BoardVotingResult.Same (result result' : BoardVotingResult) : Prop where
  weightedScore : result.weightedScore = result'.weightedScore
  missingReviews : result.missingReviews = result'.missingReviews
  blocked : result.blocked = result'.blocked
  vetoes : ∀ veto, veto ∈ result.activeCriticalVetoes ↔ veto ∈ result'.activeCriticalVetoes

/-- **The order of the outputs does not matter.** -/
theorem result_perm (h : outputs.Perm other) : (calculateBoardVotingResult numberText outputs options).Same
    (calculateBoardVotingResult numberText other options) := by
  have hroles := h.map AgentOutput.agentRole
  have htotal : totalScore outputs = totalScore other := by
    simp only [totalScore_eq, h.mem_iff, (h.map points).sum_eq]
  have hpassed : Passed outputs options ↔ Passed other options := by
    constructor
    · rintro ⟨h₁, h₂, h₃, h₄⟩
      simp only [h.mem_iff, hroles.mem_iff, htotal] at h₁ h₂ h₄
      exact ⟨h₁, h₂, h₃, h₄⟩
    · rintro ⟨h₁, h₂, h₃, h₄⟩
      simp only [← h.mem_iff, ← hroles.mem_iff, ← htotal] at h₁ h₂ h₄
      exact ⟨h₁, h₂, h₃, h₄⟩
  refine ⟨?_, ?_, ?_, fun veto => ?_⟩
  · simp only [calculateBoardVotingResult, htotal]
  · simp only [calculateBoardVotingResult, hroles.mem_iff]
  · rw [← Bool.not_inj_iff, Bool.eq_iff_iff, Bool.not_eq_true', Bool.not_eq_true', blocked_eq_false,
      blocked_eq_false, hpassed]
  · simp only [mem_activeCriticalVetoes, h.mem_iff]

end Result

/-! ## Seats -/

/-- No seat is counted twice: only rejections are of a role with an inherited name, and outputs that share a
role that has a weight are rejections. -/
structure OneVoteEach (outputs : List AgentOutput) : Prop where
  named : ∀ output ∈ outputs, ¬ Unscored output
  once : outputs.Pairwise fun output other => output.agentRole = other.agentRole →
    weightOf output.agentRole ≠ 0 → output.decision = .REJECT ∧ other.decision = .REJECT

/-- A vote of a role that is there already adds nothing. -/
theorem points_eq_zero {output : AgentOutput} {rest : List AgentOutput} (h : OneVoteEach (output :: rest))
    (hrole : output.agentRole ∈ rest.map AgentOutput.agentRole) : points output = 0 := by
  obtain ⟨other, hother, heq⟩ := List.mem_map.mp hrole
  have hpair := (List.pairwise_cons.mp h.once).1 other hother heq.symm
  rcases points_cases output with hzero | ⟨-, hdecision, hpoints⟩
  · exact hzero
  · by_cases hweight : weightOf output.agentRole = 0
    · rcases hpoints with hpoints | hpoints <;> simp [hpoints, hweight]
    · exact absurd (hpair hweight).1 hdecision

open Finset in
/-- The score is at most the weight of the roles that voted. -/
theorem sum_points_le_roles {outputs : List AgentOutput} (h : OneVoteEach outputs) :
    (outputs.map points).sum ≤ ∑ role ∈ (outputs.map AgentOutput.agentRole).toFinset, (weightOf role : ℚ) := by
  induction outputs with
  | nil => simp
  | cons output rest ih =>
    have hrest := ih ⟨(List.forall_mem_cons.mp h.named).2, (List.pairwise_cons.mp h.once).2⟩
    rw [List.map_cons, List.sum_cons, List.map_cons, List.toFinset_cons]
    by_cases hrole : output.agentRole ∈ rest.map AgentOutput.agentRole
    · rw [insert_eq_of_mem (List.mem_toFinset.mpr hrole), points_eq_zero h hrole, zero_add]
      exact hrest
    · rw [sum_insert fun hmem => hrole (List.mem_toFinset.mp hmem)]
      exact add_le_add (points_le output) hrest

open Finset in
/-- The weights of all roles sum to 100. -/
theorem sum_weights_le (roles : Finset String) : ∑ role ∈ roles, (weightOf role : ℚ) ≤ 100 := by
  let keys : Finset String := (defaultAgentWeights.map Prod.fst).toFinset
  have hzero : ∀ role ∈ roles ∪ keys, role ∉ keys → (weightOf role : ℚ) = 0 := by
    intro role _ hrole
    have hnone : defaultAgentWeights.lookup role = none := by
      rw [List.lookup_eq_none_iff]
      intro entry hentry
      rw [bne_iff_ne]
      rintro rfl
      exact hrole (List.mem_toFinset.mpr (List.mem_map_of_mem hentry))
    rw [weightOf, hnone]
    rfl
  have htotal : ∑ role ∈ keys, weightOf role = 100 := by decide
  calc ∑ role ∈ roles, (weightOf role : ℚ)
      ≤ ∑ role ∈ roles ∪ keys, (weightOf role : ℚ) :=
        sum_le_sum_of_subset_of_nonneg subset_union_left fun role _ _ => Int.cast_nonneg (weightOf_nonneg role)
    _ = ∑ role ∈ keys, (weightOf role : ℚ) := (sum_subset subset_union_right hzero).symm
    _ = 100 := by rw [← Int.cast_sum, htotal]; norm_num

/-- Every seat counts once: the score is from 0 to 100 and the same in every order, a second output of a role
does not raise it, and a board that is not blocked has passed everything. -/
structure CountsSeatsOnce (numberText : ℚ → String) (outputs : List AgentOutput) : Prop where
  bounded : ∀ options, ∃ score,
    (calculateBoardVotingResult numberText outputs options).weightedScore = some score ∧ 0 ≤ score ∧ score ≤ 100
  orderless : ∀ options other, outputs.Perm other → (calculateBoardVotingResult numberText outputs options).Same
    (calculateBoardVotingResult numberText other options)
  second : ∀ options output rest, outputs.Perm (output :: rest) →
    output.agentRole ∈ rest.map AgentOutput.agentRole →
    ∀ before after, (calculateBoardVotingResult numberText rest options).weightedScore = some before →
      (calculateBoardVotingResult numberText outputs options).weightedScore = some after → after ≤ before
  passed : ∀ options, (calculateBoardVotingResult numberText outputs options).blocked = false →
    Passed outputs options

/-- The condition does not depend on the order. -/
theorem OneVoteEach.perm {outputs other : List AgentOutput} (h : OneVoteEach outputs) (hperm : outputs.Perm other) :
    OneVoteEach other := by
  refine ⟨fun output hmem => h.named output (hperm.mem_iff.mpr hmem), (hperm.pairwise_iff ?_).mp h.once⟩
  intro output other hpair hrole hweight
  exact (hpair hrole.symm (hrole ▸ hweight)).symm

/-- **Every seat counts once** iff only rejections share a role with a weight or have an inherited name. -/
theorem countsSeatsOnce_iff (numberText : ℚ → String) (outputs : List AgentOutput) :
    CountsSeatsOnce numberText outputs ↔ OneVoteEach outputs := by
  constructor
  · intro h
    have hnamed : ∀ output ∈ outputs, ¬ Unscored output := by
      intro output hmem hunscored
      obtain ⟨score, hscore, -⟩ := h.bounded ⟨none, none, none, none⟩
      rw [weightedScore_eq, if_pos ⟨output, hmem, hunscored⟩] at hscore
      cases hscore
    -- A vote that is no rejection has points, so it raises the score of the others.
    have hreject : ∀ {output rest}, outputs.Perm (output :: rest) →
        output.agentRole ∈ rest.map AgentOutput.agentRole → weightOf output.agentRole ≠ 0 →
        output.decision = .REJECT := by
      intro output rest hperm hrole hweight
      by_contra hdecision
      have hscored : ∀ other ∈ rest, ¬ Unscored other := fun other hother =>
        hnamed other (hperm.mem_iff.mpr (List.mem_cons_of_mem _ hother))
      have hle := h.second ⟨none, none, none, none⟩ output rest hperm hrole _ _
        (by rw [weightedScore_eq, if_neg fun ⟨x, hx, hun⟩ => hscored x hx hun])
        (by rw [weightedScore_eq, if_neg fun ⟨x, hx, hun⟩ => hnamed x hx hun])
      rw [(hperm.map points).sum_eq, List.map_cons, List.sum_cons] at hle
      have hpos : (0 : ℚ) < weightOf output.agentRole :=
        Int.cast_pos.mpr (lt_of_le_of_ne (weightOf_nonneg _) (Ne.symm hweight))
      have hname : output.agentRole ∉ inheritedNames := fun hname =>
        hnamed output (hperm.mem_iff.mpr List.mem_cons_self) ⟨hname, hdecision⟩
      have hpoints : 0 < points output := by
        unfold points contribution
        cases hcase : output.decision with
        | APPROVE => simpa [hname] using hpos
        | REVISE => simpa [hname] using hpos
        | REJECT => exact absurd hcase hdecision
      linarith
    refine ⟨hnamed, List.pairwise_iff_forall_sublist.mpr fun {output other} hsublist hrole hweight => ?_⟩
    obtain ⟨rest, hperm⟩ := hsublist.exists_perm_append
    have hswap : outputs.Perm (other :: output :: rest) := hperm.trans (List.Perm.swap _ _ _)
    exact ⟨hreject hperm (by simp [hrole]) hweight, hreject hswap (by simp [hrole]) (hrole ▸ hweight)⟩
  · intro h
    refine ⟨fun options => ?_, fun options _ => result_perm numberText options, ?_,
      fun options => (blocked_eq_false numberText options).mp⟩
    · rw [weightedScore_eq, if_neg fun ⟨output, hmem, hun⟩ => h.named output hmem hun]
      exact ⟨_, rfl, sum_points_nonneg outputs, (sum_points_le_roles h).trans (sum_weights_le _)⟩
    · intro options output rest hperm hrole before after hbefore hafter
      have hcons := h.perm hperm
      rw [weightedScore_eq, if_neg fun ⟨x, hx, hun⟩ => hcons.named x (List.mem_cons_of_mem _ hx) hun,
        Option.some.injEq] at hbefore
      rw [weightedScore_eq, if_neg fun ⟨x, hx, hun⟩ => h.named x hx hun, Option.some.injEq,
        (hperm.map points).sum_eq, List.map_cons, List.sum_cons, points_eq_zero hcons hrole, zero_add] at hafter
      rw [← hbefore, ← hafter]

/-- Two approvals of one role count twice: eight seats are worth more than 100. -/
theorem seat_counted_twice : ¬ CountsSeatsOnce (fun _ => "") ((defaultAgentWeights.map fun entry =>
    (⟨entry.1, .APPROVE, ⟨false, .NONE, ""⟩⟩ : AgentOutput))
      ++ [⟨"GROWTH_DIRECTOR", .APPROVE, ⟨false, .NONE, ""⟩⟩]) := by
  intro h
  obtain ⟨score, hscore, -, hle⟩ := h.bounded ⟨none, none, none, none⟩
  have hvalue : (calculateBoardVotingResult (fun _ => "") ((defaultAgentWeights.map fun entry =>
      (⟨entry.1, .APPROVE, ⟨false, .NONE, ""⟩⟩ : AgentOutput))
        ++ [⟨"GROWTH_DIRECTOR", .APPROVE, ⟨false, .NONE, ""⟩⟩]) ⟨none, none, none, none⟩).weightedScore
      = some 110 := by decide +kernel
  rw [hvalue, Option.some.injEq] at hscore
  rw [← hscore] at hle
  norm_num at hle

end VentureOS.Governance
