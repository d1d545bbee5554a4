import Mathlib.Algebra.Order.BigOperators.Group.List
import Mathlib.Data.List.Perm.Subperm

/-! # Rows in their places

A table to which rows are added at the end, and in which a row is changed in its place. `sumWhere p f rows` adds up what
`f` says of the rows with the property `p`. -/

namespace VentureOS.Rows

universe u v

variable {R : Type u} {A : Type v}

/-! ## Sums -/

variable {rows : List R}

section Sums

variable [AddCommMonoid A] [PartialOrder A] [IsOrderedAddMonoid A]

/-- The sum over the rows with a property. -/
def sumWhere (p : R → Bool) (f : R → A) (rows : List R) : A := ((rows.filter p).map f).sum

variable {p q : R → Bool} {f : R → A}

theorem sumWhere_cons (row : R) (rows : List R) :
    sumWhere p f (row :: rows) = (if p row then f row else 0) + sumWhere p f rows := by
  unfold sumWhere
  by_cases hrow : p row = true
  · rw [List.filter_cons_of_pos hrow, if_pos hrow, List.map_cons, List.sum_cons]
  · rw [List.filter_cons_of_neg hrow, if_neg hrow, zero_add]

/-- A row that is added adds its amount, when it has the property. -/
theorem sumWhere_concat (rows : List R) (row : R) :
    sumWhere p f (rows ++ [row]) = sumWhere p f rows + if p row then f row else 0 := by
  unfold sumWhere
  rw [List.filter_append, List.map_append, List.sum_append]
  by_cases hrow : p row = true
  · rw [List.filter_cons_of_pos hrow, if_pos hrow, List.filter_nil, List.map_singleton, List.sum_singleton]
  · rw [List.filter_cons_of_neg hrow, if_neg hrow, List.filter_nil, List.map_nil, List.sum_nil]

/-- More rows have a larger sum. -/
theorem sumWhere_mono (hnonneg : ∀ row ∈ rows, 0 ≤ f row)
    (himp : ∀ row ∈ rows, p row = true → q row = true) : sumWhere p f rows ≤ sumWhere q f rows := by
  induction rows with
  | nil => exact le_refl _
  | cons row rows ih =>
    rw [sumWhere_cons, sumWhere_cons]
    have hrest := ih (fun other hother => hnonneg other (List.mem_cons_of_mem row hother))
      (fun other hother => himp other (List.mem_cons_of_mem row hother))
    refine add_le_add ?_ hrest
    by_cases hrow : p row = true
    · rw [if_pos hrow, if_pos (himp row List.mem_cons_self hrow)]
    · rw [if_neg hrow]
      split
      · exact hnonneg row List.mem_cons_self
      · exact le_refl _

/-- A row that loses the property, or keeps its amount, does not make the sum larger. -/
theorem sumWhere_set_le {id : Nat} {row row' : R} (hat : rows[id]? = some row) (hnonneg : 0 ≤ f row)
    (hrow : p row' = true → p row = true ∧ f row' = f row) : sumWhere p f (rows.set id row') ≤ sumWhere p f rows := by
  obtain ⟨hid, rfl⟩ := List.getElem?_eq_some_iff.mp hat
  have hsum : ∀ {l l' : List R}, l.Perm l' → sumWhere p f l = sumWhere p f l' := fun h => ((h.filter p).map f).sum_eq
  rw [hsum (List.set_perm_cons_eraseIdx hid row'), ← hsum (List.getElem_cons_eraseIdx_perm hid), sumWhere_cons,
    sumWhere_cons]
  refine add_le_add ?_ (le_refl _)
  by_cases hrow' : p row' = true
  · obtain ⟨hbefore, hsame⟩ := hrow hrow'
    rw [if_pos hrow', if_pos hbefore, hsame]
  · rw [if_neg hrow']
    split
    · exact hnonneg
    · exact le_refl _

end Sums

/-! ## Counts -/

section Counts

variable {p : R → Bool}

/-- A row that is changed, and has the property only if it had it, does not make the count larger. -/
theorem countP_set_le {id : Nat} {row row' : R} (hat : rows[id]? = some row)
    (hrow : p row' = true → p row = true) : (rows.set id row').countP p ≤ rows.countP p := by
  obtain ⟨hid, rfl⟩ := List.getElem?_eq_some_iff.mp hat
  rw [List.countP_set hid]
  by_cases hrow' : p row' = true
  · have hpos := List.countP_pos_iff.mpr ⟨_, List.getElem_mem hid, hrow hrow'⟩
    rw [if_pos hrow', if_pos (hrow hrow')]
    omega
  · rw [if_neg hrow']
    omega

/-- The rows with a property, counted by their places. -/
theorem countP_range (rows : List R) :
    (List.range rows.length).countP (fun id => (rows[id]?).any p) = rows.countP p := by
  have hplaces : (List.range rows.length).map (fun id => rows[id]?) = rows.map some := by
    apply List.ext_getElem
    · simp
    · intro id hid hid'
      simp
  have hcount := congrArg (List.countP (Option.any p)) hplaces
  rw [List.countP_map, List.countP_map] at hcount
  exact hcount

/-- Different places of rows with a property are not more than these rows. -/
theorem countP_places_le {ids : List Nat} (hnodup : ids.Nodup) :
    ids.countP (fun id => (rows[id]?).any p) ≤ rows.countP p := by
  rw [← countP_range rows, List.countP_eq_length_filter, List.countP_eq_length_filter]
  refine (List.Nodup.subperm (hnodup.filter _) fun id hid => ?_).length_le
  obtain ⟨-, hany⟩ := List.mem_filter.mp hid
  refine List.mem_filter.mpr ⟨List.mem_range.mpr ?_, hany⟩
  by_contra hbound
  rw [List.getElem?_eq_none (Nat.le_of_not_lt hbound)] at hany
  cases hany

end Counts

end VentureOS.Rows
