import Mathlib.Data.Prod.Lex
import Mathlib.Data.List.Chain
import Mathlib.Algebra.BigOperators.Group.List.Basic
import Mathlib.Algebra.Order.Ring.Int

/-! # Longest chains

Nodes have a positive weight, and each depends on some others. Of two chains of dependencies the better one is the
heavier one, and of two that are as heavy the one that comes first in the order of the keys of its nodes.

The best chain that ends in a node goes through the best one of all that end in its dependencies (`isBest_concat`):
a chain is never a prefix of another one that is as heavy, so what is better stays better when both go on with the
same node (`rank_concat_le`). -/

namespace VentureOS.LongestChain

variable {ι κ : Type} [LinearOrder κ] (key : ι → κ) (weight : ι → ℤ)

/-- The weight of a chain. -/
def total (path : List ι) : ℤ := (path.map weight).sum

/-- The place of a chain among all: heavier ones first, then in the order of the keys. -/
def rank (path : List ι) : ℤ ×ₗ List κ := toLex (-total weight path, path.map key)

variable {key weight}

theorem total_concat (path : List ι) (i : ι) : total weight (path ++ [i]) = total weight path + weight i := by
  simp [total]

theorem total_append (path path' : List ι) :
    total weight (path ++ path') = total weight path + total weight path' := by
  simp [total]

variable {path : List ι}

theorem total_pos (hweight : ∀ i ∈ path, 0 < weight i) (hne : path ≠ []) : 0 < total weight path := by
  induction path with
  | nil => exact absurd rfl hne
  | cons i rest ih =>
    rw [List.forall_mem_cons] at hweight
    have hrest : 0 ≤ total weight rest := by
      cases rest with
      | nil => simp [total]
      | cons j rest => exact (ih hweight.2 (by simp)).le
    simp only [total, List.map_cons, List.sum_cons] at hrest ⊢
    have hfirst := hweight.1
    omega

theorem rank_le_iff {path' : List ι} : rank key weight path ≤ rank key weight path'
    ↔ total weight path' < total weight path
      ∨ total weight path' = total weight path ∧ path.map key ≤ path'.map key := by
  rw [rank, rank, Prod.Lex.toLex_le_toLex]
  simp only
  constructor
  · rintro (h | ⟨h, hle⟩)
    · left
      omega
    · exact .inr ⟨by omega, hle⟩
  · rintro (h | ⟨h, hle⟩)
    · left
      omega
    · exact .inr ⟨by omega, hle⟩

theorem nil_le (a : List κ) : [] ≤ a := by
  cases a with
  | nil => exact le_refl _
  | cons x a => exact (List.nil_lt_cons x a).le

theorem cons_le_cons_iff {x y : κ} {a b : List κ} : x :: a ≤ y :: b ↔ x < y ∨ x = y ∧ a ≤ b := by
  rw [le_iff_lt_or_eq, List.cons_lt_cons_iff, List.cons.injEq, le_iff_lt_or_eq]
  tauto

/-- A list that comes before another is a prefix of it, or stays before it whatever follows. -/
theorem prefix_or_lt {a b : List κ} (h : a ≤ b) : (∃ c, b = a ++ c) ∨ ∀ c d, a ++ c < b ++ d := by
  rcases h.lt_or_eq with hlt | rfl
  · induction a generalizing b with
    | nil => exact .inl ⟨b, rfl⟩
    | cons x a ih =>
      cases b with
      | nil => exact absurd hlt (List.not_lt_nil _)
      | cons y b =>
        rcases List.cons_lt_cons_iff.mp hlt with hfirst | ⟨rfl, hrest⟩
        · right
          intro c d
          exact List.cons_lt_cons_iff.mpr (.inl hfirst)
        · rcases ih hrest.le hrest with ⟨c, rfl⟩ | hmore
          · exact .inl ⟨c, rfl⟩
          · right
            intro c d
            exact List.cons_lt_cons_iff.mpr (.inr ⟨rfl, hmore c d⟩)
  · exact .inl ⟨[], by simp⟩

/-- **What is better stays better when both go on with the same node.** -/
theorem rank_concat_le (hkey : Function.Injective key) {path' : List ι} (hweight : ∀ i ∈ path', 0 < weight i)
    (h : rank key weight path ≤ rank key weight path') (i : ι) :
    rank key weight (path ++ [i]) ≤ rank key weight (path' ++ [i]) := by
  rw [rank_le_iff] at h
  rw [rank_le_iff, total_concat, total_concat]
  rcases h with h | ⟨htotal, h⟩
  · left
    omega
  · right
    refine ⟨by omega, ?_⟩
    rw [List.map_append, List.map_append]
    rcases prefix_or_lt h with ⟨c, hpre⟩ | hlt
    · -- The longer one would be heavier, by what it has more.
      obtain ⟨first, more, rfl, hfirst, hmore⟩ := List.map_eq_append_iff.mp hpre
      have hsame : first = path := List.map_injective_iff.mpr hkey hfirst
      subst hsame
      rw [total_append] at htotal
      have hnil : more = [] := by
        by_contra hne
        have hpos := total_pos (fun j hj => hweight j (List.mem_append_right _ hj)) hne
        omega
      rw [hnil, List.append_nil]
    · exact (hlt _ _).le

/-! ## Chains -/

variable (key weight)
variable (nodes : List ι) (dependencies : ι → List ι)

/-- A chain of dependencies: each node after the first depends directly on the one before it. -/
structure IsChain (path : List ι) : Prop where
  nodes : ∀ i ∈ path, i ∈ nodes
  depends : path.IsChain fun i j => i ∈ dependencies j
  nonempty : path ≠ []

/-- A chain that ends in a node, and no other one is better. -/
structure IsBest (i : ι) (path : List ι) : Prop where
  chain : IsChain nodes dependencies path
  ends : path.getLast? = some i
  best : ∀ other, IsChain nodes dependencies other → other.getLast? = some i →
    rank key weight path ≤ rank key weight other

variable {key weight nodes dependencies}

theorem IsChain.single {i : ι} (h : i ∈ nodes) : IsChain nodes dependencies [i] :=
  ⟨by simpa using h, by simp, by simp⟩

theorem IsChain.concat {i j : ι} (h : IsChain nodes dependencies path)
    (hlast : path.getLast? = some i) (hj : j ∈ nodes) (hdepends : i ∈ dependencies j) :
    IsChain nodes dependencies (path ++ [j]) := by
  refine ⟨?_, ?_, by simp⟩
  · intro k hk
    rcases List.mem_append.mp hk with hk | hk
    · exact h.nodes k hk
    · rw [List.mem_singleton.mp hk]
      exact hj
  · rw [List.isChain_append]
    refine ⟨h.depends, by simp, ?_⟩
    intro k hk l hl
    rw [hlast, Option.mem_some_iff] at hk
    rw [List.head?_singleton, Option.mem_some_iff] at hl
    rw [← hk, ← hl]
    exact hdepends

/-- A chain that ends in a node is this node, after a chain that ends in one of its dependencies. -/
theorem IsChain.cases {path : List ι} {i : ι} (h : IsChain nodes dependencies path)
    (hlast : path.getLast? = some i) : path = [i] ∨ ∃ before j, path = before ++ [i] ∧ j ∈ dependencies i
      ∧ IsChain nodes dependencies before ∧ before.getLast? = some j := by
  obtain ⟨before, rfl⟩ : ∃ before, path = before ++ [i] := ⟨_, (List.dropLast_append_getLast? i hlast).symm⟩
  cases hbefore : before.getLast? with
  | none =>
    left
    rw [List.getLast?_eq_none_iff.mp hbefore]
    rfl
  | some j =>
    right
    have hdepends := List.isChain_append.mp h.depends
    refine ⟨before, j, rfl, hdepends.2.2 j hbefore i (by simp), ⟨?_, hdepends.1, ?_⟩, hbefore⟩
    · intro k hk
      exact h.nodes k (List.mem_append_left _ hk)
    · intro hnil
      rw [hnil] at hbefore
      cases hbefore

/-- The only chain that ends in a node without dependencies is the node. -/
theorem isBest_single {i : ι} (h : i ∈ nodes) (hnone : dependencies i = []) :
    IsBest key weight nodes dependencies i [i] := by
  refine ⟨.single h, rfl, ?_⟩
  intro other hother hlast
  rcases hother.cases hlast with rfl | ⟨before, j, -, hj, -⟩
  · exact le_refl _
  · rw [hnone] at hj
    cases hj

section Best

variable (hkey : Function.Injective key) (hweight : ∀ i ∈ nodes, 0 < weight i)
include hkey hweight

/-- **The best chain that ends in a node goes through the best one of those that end in its dependencies.** -/
theorem isBest_concat {i j : ι} (hi : i ∈ nodes) (hj : j ∈ dependencies i)
    (h : IsBest key weight nodes dependencies j path)
    (hothers : ∀ k ∈ dependencies i, ∃ path', IsBest key weight nodes dependencies k path'
      ∧ rank key weight path ≤ rank key weight path') :
    IsBest key weight nodes dependencies i (path ++ [i]) := by
  refine ⟨h.chain.concat h.ends hi hj, by simp, ?_⟩
  intro other hother hlast
  rcases hother.cases hlast with rfl | ⟨before, k, rfl, hk, hbefore, hend⟩
  · -- A chain of one node is lighter.
    rw [rank_le_iff, total_concat]
    left
    have hpos := total_pos (fun j hj => hweight j (h.chain.nodes j hj)) h.chain.nonempty
    simp only [total, List.map_cons, List.map_nil, List.sum_cons, List.sum_nil] at hpos ⊢
    omega
  · obtain ⟨path', hbest, hle⟩ := hothers k hk
    refine rank_concat_le hkey ?_ (hle.trans (hbest.best before hbefore hend)) i
    intro l hl
    exact hweight l (hbefore.nodes l hl)

end Best

end VentureOS.LongestChain
