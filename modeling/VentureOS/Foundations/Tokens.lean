import Mathlib.Data.Set.Insert
import Mathlib.Data.Sum.Basic
import VentureOS.Foundations.OrderedMap

/-! # Single-use tokens

A protocol hands out tokens (permits, leases, outstanding calls), each to one owner, and marks an
owner when it issues one: a marked owner is refused another. A token is revoked, which frees its
owner, exchanged for another token of the same owner, or retired, which leaves the owner marked for
good. `Tokens T K` is the state of such a protocol and `Tokens.Step` what it may do.

Two facts carry every use of the protocol. At most one token of an owner is out (`Exclusive`), and
an owner whose token was retired never holds one again (`Retired`); both are kept by every step.

Programs keep their tokens in maps; `OrderedMap.holder` reads a map as the tokens it holds, and
setting or deleting a key gives or takes back one token. -/

namespace VentureOS

universe u v

/-- Who holds which token, and who may not be issued another one. -/
structure Tokens (T : Type u) (K : Type v) where
  /-- The owner of a token that is out. -/
  holder : T → Option K
  /-- The owners that may not be issued a token. -/
  marked : Set K

namespace Tokens

variable {T : Type u} {K : Type v}

/-- Every token that is out belongs to a marked owner, and no owner has two. -/
structure Exclusive (s : Tokens T K) : Prop where
  /-- Owners of tokens are marked. -/
  marked : ∀ {t k}, s.holder t = some k → k ∈ s.marked
  /-- An owner has at most one token. -/
  unique : ∀ {t t' k}, s.holder t = some k → s.holder t' = some k → t = t'

/-- The owner is marked and has no token. -/
def Retired (s : Tokens T K) (k : K) : Prop := k ∈ s.marked ∧ ∀ t, s.holder t ≠ some k

variable [DecidableEq T]

/-- The token `t` is taken back. -/
def clear (s : Tokens T K) (t : T) : Tokens T K :=
  { s with holder := Function.update s.holder t none }

/-- The token `t` is given to `k`. -/
def give (s : Tokens T K) (t : T) (k : K) : Tokens T K :=
  { s with holder := Function.update s.holder t (some k) }

/-- **What the protocol may do.** -/
inductive Step (s : Tokens T K) : Tokens T K → Prop
  /-- Nothing changes. -/
  | stutter : Step s s
  /-- An unmarked owner is marked and given a token. -/
  | issue (t : T) {k : K} (unmarked : k ∉ s.marked) :
      Step s { s.give t k with marked := insert k s.marked }
  /-- A token is taken back and its owner is freed. -/
  | revoke {t : T} {k : K} (held : s.holder t = some k) :
      Step s { s.clear t with marked := s.marked \ {k} }
  /-- A token is exchanged for another one of the same owner. -/
  | exchange {t t' : T} {k : K} (held : s.holder t = some k) : Step s ((s.clear t).give t' k)
  /-- A token is taken back and its owner stays marked. -/
  | retire (t : T) : Step s (s.clear t)

variable {s : Tokens T K}

theorem holder_clear {t t' : T} {k : K} :
    (s.clear t).holder t' = some k ↔ t' ≠ t ∧ s.holder t' = some k := by
  by_cases h : t' = t
  · subst h; simp [clear]
  · simp [clear, h]

theorem holder_give {t t' : T} {k k' : K} :
    (s.give t k).holder t' = some k' ↔ (t' = t ∧ k = k') ∨ (t' ≠ t ∧ s.holder t' = some k') := by
  by_cases h : t' = t
  · subst h; simp [give]
  · simp [give, h]

/-- Taking a token back keeps exclusivity. -/
theorem Exclusive.clear (h : s.Exclusive) (t : T) : (s.clear t).Exclusive where
  marked ht := h.marked (holder_clear.mp ht).2
  unique ht ht' := h.unique (holder_clear.mp ht).2 (holder_clear.mp ht').2

/-- Giving a token to an owner without one keeps exclusivity. -/
theorem Exclusive.give (h : s.Exclusive) (t : T) {k : K}
    (hk : ∀ t, s.holder t ≠ some k) {marked : Set K} (hmarked : k ∈ marked)
    (hsub : ∀ {k'}, k' ∈ s.marked → k' ∈ marked) :
    Exclusive { s.give t k with marked := marked } where
  marked ht := by
    rcases holder_give.mp ht with ⟨-, rfl⟩ | ⟨-, ht⟩
    · exact hmarked
    · exact hsub (h.marked ht)
  unique ht ht' := by
    rcases holder_give.mp ht with ⟨rfl, rfl⟩ | ⟨-, hold⟩ <;>
      rcases holder_give.mp ht' with ⟨rfl, heq⟩ | ⟨-, hold'⟩
    · rfl
    · exact absurd hold' (hk _)
    · rw [← heq] at hold
      exact absurd hold (hk _)
    · exact h.unique hold hold'

/-- **Every step keeps exclusivity.** -/
theorem Exclusive.step {s' : Tokens T K} (h : s.Exclusive) (hs : s.Step s') : s'.Exclusive := by
  cases hs with
  | stutter => exact h
  | issue t unmarked =>
    refine h.give t (fun t' ht' => unmarked (h.marked ht')) (Set.mem_insert _ _) ?_
    exact fun hk => Set.mem_insert_of_mem _ hk
  | revoke held =>
    refine ⟨fun {t' k'} ht' => ?_, (h.clear _).unique⟩
    obtain ⟨hne, ht'⟩ := holder_clear.mp ht'
    refine ⟨h.marked ht', fun hk => hne ?_⟩
    rw [Set.mem_singleton_iff.mp hk] at ht'
    exact h.unique ht' held
  | exchange held =>
    refine (h.clear _).give _ (fun t'' ht'' => ?_) (h.marked held) id
    obtain ⟨hne, ht''⟩ := holder_clear.mp ht''
    exact hne (h.unique ht'' held)
  | retire t => exact h.clear t

/-- **An owner whose token was retired never holds one again.** -/
theorem Retired.step {s' : Tokens T K} {k : K} (h : s.Retired k) (hs : s.Step s') :
    s'.Retired k := by
  obtain ⟨hmarked, hnone⟩ := h
  cases hs with
  | stutter => exact ⟨hmarked, hnone⟩
  | issue t unmarked =>
    refine ⟨Set.mem_insert_of_mem _ hmarked, fun t' ht' => ?_⟩
    rcases holder_give.mp ht' with ⟨-, rfl⟩ | ⟨-, ht'⟩
    · exact unmarked hmarked
    · exact hnone t' ht'
  | revoke held =>
    refine ⟨⟨hmarked, fun hk => hnone _ (Set.mem_singleton_iff.mp hk ▸ held)⟩, fun t' ht' => ?_⟩
    exact hnone t' (holder_clear.mp ht').2
  | exchange held =>
    refine ⟨hmarked, fun t' ht' => ?_⟩
    rcases holder_give.mp ht' with ⟨-, rfl⟩ | ⟨-, ht'⟩
    · exact hnone _ held
    · exact hnone t' (holder_clear.mp ht').2
  | retire t => exact ⟨hmarked, fun t' ht' => hnone t' (holder_clear.mp ht').2⟩

/-- Retiring the token of an owner retires the owner. -/
theorem Exclusive.retired_clear (h : s.Exclusive) {t : T} {k : K}
    (held : s.holder t = some k) : (s.clear t).Retired k := by
  refine ⟨h.marked held, fun t' ht' => ?_⟩
  obtain ⟨hne, ht'⟩ := holder_clear.mp ht'
  exact hne (h.unique ht' held)

end Tokens

/-! ## Maps of tokens -/

namespace OrderedMap

variable {I : Type u} {V K : Type v} [DecidableEq I] (owner : I → V → K)

/-- The tokens a map holds, each with the owner its entry names. -/
def holder (m : OrderedMap I V) (i : I) : Option K := (m.get? i).map (owner i)

/-- Setting a key gives its token to the owner of the new entry. -/
theorem holder_set (m : OrderedMap I V) (i : I) (v : V) :
    holder owner (m.set i v) = Function.update (holder owner m) i (some (owner i v)) := by
  funext j
  by_cases h : j = i
  · subst h; simp [holder]
  · simp [holder, h]

/-- Deleting a key takes its token back. -/
theorem holder_delete (m : OrderedMap I V) (i : I) :
    holder owner (m.delete i) = Function.update (holder owner m) i none := by
  funext j
  by_cases h : j = i
  · subst h; simp [holder]
  · simp [holder, h]

/-- The token of a present entry. -/
theorem holder_of_get? {m : OrderedMap I V} {i : I} {v : V} (h : m.get? i = some v) :
    holder owner m i = some (owner i v) := by
  rw [holder, h]; rfl

end OrderedMap

end VentureOS
