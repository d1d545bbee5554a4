import Mathlib.Data.Nat.Log
import Mathlib.Algebra.Order.BigOperators.Group.List
import Mathlib.Tactic.Ring
import Mathlib.Tactic.Linarith

/-! # Integers in double precision

JavaScript adds numbers as IEEE 754 doubles. On integers this is addition followed by rounding to 53
significant bits, ties to even (`roundDouble`). Rounding is exact up to `2 ^ 53`
(`roundDouble_eq_self`) and never falls back below it (`le_roundDouble`), so a comparison of a
rounded sum with a safe limit decides the comparison of the exact sum (`roundDouble_le_iff`), and a
running total of non-negative amounts is exact as long as it is safe (`foldl_addDouble`). A running
total below a safe limit is therefore the exact sum of its amounts (`sum_lt_of_foldl_addDouble_lt`).
-/

namespace VentureOS

/-- `Number.MAX_SAFE_INTEGER`. -/
def maxSafeInteger : Int := 2 ^ 53 - 1

/-- `Number.isSafeInteger(n)` of an integral number. -/
def isSafeInteger (n : Int) : Bool := decide (-maxSafeInteger ≤ n ∧ n ≤ maxSafeInteger)

/-- Round a magnitude to 53 significant bits, ties to even. -/
def roundMagnitude (m : Nat) : Nat :=
  let unit := 2 ^ (Nat.log2 m - 52)
  let q := m / unit
  let r := m % unit
  if unit < 2 * r ∨ (2 * r = unit ∧ q % 2 = 1) then (q + 1) * unit else q * unit

/-- Round an integer to the nearest double, ties to even. -/
def roundDouble (n : Int) : Int := n.sign * roundMagnitude n.natAbs

/-- `a + b` on doubles with integral values. -/
def addDouble (a b : Int) : Int := roundDouble (a + b)

/-- Magnitudes below `2 ^ 53` are representable. -/
theorem roundMagnitude_of_lt {m : Nat} (h : m < 2 ^ 53) : roundMagnitude m = m := by
  -- The unit in the last place is 1.
  have hlog : Nat.log2 m - 52 = 0 := by
    by_cases hm : m = 0
    · subst hm; rfl
    · have : Nat.log2 m < 53 := (Nat.log2_lt hm).mpr h
      omega
  simp [roundMagnitude, hlog, Nat.mod_one]

/-- Rounding keeps a magnitude of `2 ^ 53` or more at `2 ^ 53` or more. -/
theorem le_roundMagnitude {m : Nat} (h : 2 ^ 53 ≤ m) : 2 ^ 53 ≤ roundMagnitude m := by
  have hm : m ≠ 0 := by omega
  have hlog : 53 ≤ Nat.log2 m := (Nat.le_log2 hm).mpr h
  have hpow : 2 ^ Nat.log2 m ≤ m := Nat.log2_self_le hm
  have hsplit : 2 ^ 52 * 2 ^ (Nat.log2 m - 52) = 2 ^ Nat.log2 m := by
    rw [← pow_add]; congr 1; omega
  have hq : 2 ^ 52 ≤ m / 2 ^ (Nat.log2 m - 52) := by
    rw [Nat.le_div_iff_mul_le (by positivity), hsplit]; exact hpow
  -- Rounding down already stays above: `2 ^ 53` is a multiple of every smaller unit.
  have hfloor : 2 ^ 53 ≤ m / 2 ^ (Nat.log2 m - 52) * 2 ^ (Nat.log2 m - 52) :=
    calc 2 ^ 53 ≤ 2 ^ Nat.log2 m := Nat.pow_le_pow_right (by decide) hlog
      _ = 2 ^ 52 * 2 ^ (Nat.log2 m - 52) := hsplit.symm
      _ ≤ _ := Nat.mul_le_mul_right _ hq
  unfold roundMagnitude
  simp only
  split
  · exact hfloor.trans (Nat.mul_le_mul_right _ (Nat.le_succ _))
  · exact hfloor

/-- Non-negative integers below `2 ^ 53` are representable. -/
theorem roundDouble_eq_self {n : Int} (h0 : 0 ≤ n) (h : n < 2 ^ 53) : roundDouble n = n := by
  obtain ⟨m, rfl⟩ := Int.eq_ofNat_of_zero_le h0
  have hm : m < 2 ^ 53 := by exact_mod_cast h
  rw [roundDouble, Int.natAbs_natCast, roundMagnitude_of_lt hm]
  by_cases hz : m = 0
  · subst hz; rfl
  · rw [Int.sign_natCast_of_ne_zero hz, one_mul]

/-- Rounding keeps an integer of `2 ^ 53` or more at `2 ^ 53` or more. -/
theorem le_roundDouble {n : Int} (h : 2 ^ 53 ≤ n) : 2 ^ 53 ≤ roundDouble n := by
  obtain ⟨m, rfl⟩ := Int.eq_ofNat_of_zero_le (by omega : 0 ≤ n)
  have hm : 2 ^ 53 ≤ m := by exact_mod_cast h
  rw [roundDouble, Int.natAbs_natCast, Int.sign_natCast_of_ne_zero (by omega), one_mul]
  exact_mod_cast le_roundMagnitude hm

/-- **Comparing a rounded sum with a safe limit compares the exact sum.** -/
theorem roundDouble_le_iff {n limit : Int} (h0 : 0 ≤ n) (hlimit : limit ≤ maxSafeInteger) :
    roundDouble n ≤ limit ↔ n ≤ limit := by
  unfold maxSafeInteger at hlimit
  by_cases h : n < 2 ^ 53
  · rw [roundDouble_eq_self h0 h]
  · have := le_roundDouble (not_lt.mp h)
    constructor <;> intro hle <;> omega

/-- **A running total of non-negative amounts is exact while it is safe.** -/
theorem foldl_addDouble (l : List Int) (hl : ∀ n ∈ l, 0 ≤ n) (acc : Int) (hacc : 0 ≤ acc)
    (h : acc + l.sum ≤ maxSafeInteger) : l.foldl addDouble acc = acc + l.sum := by
  induction l generalizing acc with
  | nil => simp
  | cons n l ih =>
    rw [List.sum_cons] at h
    have hn : 0 ≤ n := hl n List.mem_cons_self
    have hrest : ∀ k ∈ l, 0 ≤ k := fun k hk => hl k (List.mem_cons_of_mem n hk)
    have hsum : 0 ≤ l.sum := List.sum_nonneg hrest
    have hstep : addDouble acc n = acc + n := by
      refine roundDouble_eq_self (by omega) ?_
      unfold maxSafeInteger at h
      omega
    rw [List.foldl_cons, hstep, ih hrest (acc + n) (by omega) (by omega), List.sum_cons]
    ring

/-- A running total that has left the safe range stays outside. -/
theorem le_foldl_addDouble (l : List Int) (hl : ∀ n ∈ l, 0 ≤ n) (acc : Int) (hacc : 0 ≤ acc)
    (h : 2 ^ 53 ≤ acc + l.sum) : 2 ^ 53 ≤ l.foldl addDouble acc := by
  induction l generalizing acc with
  | nil => simpa using h
  | cons n l ih =>
    have hn : 0 ≤ n := hl n List.mem_cons_self
    have hrest : ∀ k ∈ l, 0 ≤ k := fun k hk => hl k (List.mem_cons_of_mem n hk)
    have hsum : 0 ≤ l.sum := List.sum_nonneg hrest
    rw [List.sum_cons] at h
    rw [List.foldl_cons]
    -- Either this addition is still exact, or the total leaves the safe range here.
    by_cases hsafe : acc + n < 2 ^ 53
    · rw [addDouble, roundDouble_eq_self (by omega) hsafe]
      exact ih hrest (acc + n) (by omega) (by omega)
    · have hround : 2 ^ 53 ≤ addDouble acc n := le_roundDouble (not_lt.mp hsafe)
      exact ih hrest (addDouble acc n) (by omega) (by omega)

/-- **A running total below a safe limit is the exact sum.** -/
theorem sum_lt_of_foldl_addDouble_lt {l : List Int} (hl : ∀ n ∈ l, 0 ≤ n) {limit : Int}
    (hlimit : limit ≤ maxSafeInteger) (h : l.foldl addDouble 0 < limit) : l.sum < limit := by
  unfold maxSafeInteger at hlimit
  by_cases hsafe : 2 ^ 53 ≤ l.sum
  · have := le_foldl_addDouble l hl 0 le_rfl (by rwa [zero_add])
    omega
  · have hexact := foldl_addDouble l hl 0 le_rfl (by unfold maxSafeInteger; omega)
    rwa [hexact, zero_add] at h

/-! ## Sums without rounding -/

section Sums

variable {α : Type} {f g : α → Int} {l : List α}

/-- A sum may be started anywhere. -/
theorem foldl_add_init (f : α → Int) (l : List α) (acc : Int) :
    l.foldl (fun total a => total + f a) acc = acc + l.foldl (fun total a => total + f a) 0 := by
  induction l generalizing acc with
  | nil => simp
  | cons a l ih =>
    rw [List.foldl_cons, List.foldl_cons, ih, ih (0 + f a)]
    ring

theorem foldl_add_cons (f : α → Int) (a : α) (l : List α) :
    (a :: l).foldl (fun total a => total + f a) 0
      = f a + l.foldl (fun total a => total + f a) 0 := by
  rw [List.foldl_cons, foldl_add_init]
  ring

/-- Smaller amounts have a smaller sum. -/
theorem foldl_add_le (h : ∀ a ∈ l, f a ≤ g a) :
    l.foldl (fun total a => total + f a) 0 ≤ l.foldl (fun total a => total + g a) 0 := by
  induction l with
  | nil => simp
  | cons a l ih =>
    rw [foldl_add_cons, foldl_add_cons]
    exact Int.add_le_add (h a List.mem_cons_self)
      (ih fun b hb => h b (List.mem_cons_of_mem _ hb))

/-- If there is room for more in one of the amounts, there is room for it in the sum. -/
theorem foldl_add_extra_le (h : ∀ a ∈ l, f a ≤ g a) {a : α} (ha : a ∈ l) {extra : Int}
    (hextra : f a + extra ≤ g a) :
    l.foldl (fun total a => total + f a) 0 + extra
      ≤ l.foldl (fun total a => total + g a) 0 := by
  induction l with
  | nil => cases ha
  | cons b l ih =>
    rw [foldl_add_cons, foldl_add_cons]
    have hrest := fun c hc => h c (List.mem_cons_of_mem b hc)
    rcases List.mem_cons.mp ha with rfl | hmem
    · have hsum := foldl_add_le hrest
      omega
    · have hsum := ih hrest hmem
      have hb := h b List.mem_cons_self
      omega

end Sums

end VentureOS
