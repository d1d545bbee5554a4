import Mathlib.Order.WellFounded

/-! # Forests of records with a parent

A relation that takes every record to at most one parent and never leads back to where it started is a
forest (`IsForest`). A rank that grows by the same step from every parent to its children excludes
cycles (`IsForest.of_rank`). What a record with `P` hands to its parent, together with a transitive
comparison between the two, holds of all its ancestors (`ancestor_of_step`). -/

namespace VentureOS

open Relation

universe u

variable {α : Type u} {parentOf : α → α → Prop}

/-- Every record has at most one parent, and none is its own ancestor. -/
structure IsForest (parentOf : α → α → Prop) : Prop where
  unique : ∀ child parent parent', parentOf child parent → parentOf child parent' → parent = parent'
  acyclic : ∀ record, ¬ TransGen parentOf record record

/-- A rank that is smaller at the parent is smaller at every ancestor. -/
theorem rank_lt_of_ancestor {ι : Type u} [Preorder ι] {rank : α → ι}
    (step : ∀ child parent, parentOf child parent → rank parent < rank child) {child ancestor : α}
    (h : TransGen parentOf child ancestor) : rank ancestor < rank child := by
  induction h with
  | single h => exact step _ _ h
  | tail _ h ih => exact (step _ _ h).trans ih

/-- **Ranked relations are forests.** Unique parents of a smaller rank make a forest. -/
theorem IsForest.of_rank {ι : Type u} [Preorder ι] (rank : α → ι)
    (unique : ∀ child parent parent', parentOf child parent → parentOf child parent' → parent = parent')
    (step : ∀ child parent, parentOf child parent → rank parent < rank child) :
    IsForest parentOf where
  unique := unique
  acyclic _ h := lt_irrefl _ (rank_lt_of_ancestor step h)

/-- **Ancestors.** A property handed from child to parent, with a transitive comparison of the two,
holds of every ancestor, compared with the record it started from. -/
theorem ancestor_of_step {P : α → Prop} {Q : α → α → Prop}
    (trans : ∀ a b c, Q a b → Q b c → Q a c)
    (step : ∀ child parent, P child → parentOf child parent → P parent ∧ Q child parent)
    {record ancestor : α} (hrecord : P record) (h : TransGen parentOf record ancestor) :
    P ancestor ∧ Q record ancestor := by
  induction h with
  | single h => exact step _ _ hrecord h
  | tail _ h ih =>
    obtain ⟨hparent, hparentQ⟩ := ih
    obtain ⟨hnext, hnextQ⟩ := step _ _ hparent h
    exact ⟨hnext, trans _ _ _ hparentQ hnextQ⟩

end VentureOS
