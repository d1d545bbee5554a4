import Mathlib.Algebra.Order.BigOperators.Group.List
import Mathlib.Algebra.Order.Ring.Int
import VentureOS.Foundations.OrderedMap

/-! # Totals of a table

`m.total f` adds up what `f` says of every record. A record added to a table adds its own amount, and one
put over another replaces the amount of the old record by its own. -/

namespace VentureOS.Store

universe u v

variable {K : Type u} {V : Type v} [DecidableEq K] [HasKey K V]

/-- The sum of an amount over all records. -/
def total (f : V → Int) (m : Store K V) : Int := (m.values.map f).sum

variable {f g : V → Int} {m : Store K V} {v old : V}

/-- A new record adds its amount. -/
theorem total_put_of_fresh (h : m.get? (keyOf v) = none) : (m.put v).total f = m.total f + f v := by
  unfold total
  rw [values_put_of_fresh h, List.map_append, List.sum_append, List.map_singleton, List.sum_singleton]

/-- Amounts that agree on all records have the same total. -/
theorem total_congr (h : ∀ v ∈ m, f v = g v) : m.total f = m.total g := by
  unfold total
  rw [List.map_congr_left fun v hv => h v (mem_values.mp hv)]

/-- A sum over chosen records is the total of an amount that the others do not have. -/
theorem sum_map_filter_values (p : V → Bool) :
    ((m.values.filter p).map f).sum = m.total fun v => if p v = true then f v else 0 := by
  unfold total
  induction m.values with
  | nil => rfl
  | cons v rest ih =>
    rw [List.map_cons, List.sum_cons]
    by_cases hp : p v = true
    · rw [List.filter_cons_of_pos hp, List.map_cons, List.sum_cons, ih, if_pos hp]
    · rw [List.filter_cons_of_neg hp, ih, if_neg hp, zero_add]

/-- A record put over another replaces its amount. -/
theorem total_put_of_some (h : m.get? (keyOf v) = some old) :
    (m.put v).total f = m.total f - f old + f v := by
  have hold : old ∈ m.values := mem_values.mpr (mem_of_get? h)
  have hkey : keyOf old = keyOf v := keyOf_of_get? h
  unfold total
  rw [values_put_of_some h, List.map_map]
  -- Along the list one record has the key of `v`, and it is `old`.
  have hunique : ∀ w ∈ m.values, keyOf w = keyOf v → w = old := fun w hw hsame =>
    eq_of_keyOf_eq (mem_values.mp hw) (mem_values.mp hold) (hsame.trans hkey.symm)
  have hnodup : m.values.Nodup := List.Nodup.of_map _ (nodup_map_keyOf_values m)
  revert hold hunique hnodup
  induction m.values with
  | nil => exact fun hold => absurd hold List.not_mem_nil
  | cons w rest ih =>
    intro hold hunique hnodup
    obtain ⟨hnew, hrest⟩ := List.nodup_cons.mp hnodup
    rw [List.map_cons, List.sum_cons, List.map_cons, List.sum_cons, Function.comp_apply]
    rcases List.mem_cons.mp hold with rfl | hold
    · have hsame : (rest.map (f ∘ fun w => if keyOf w = keyOf v then v else w)) = rest.map f := by
        refine List.map_congr_left fun w hw => ?_
        have hne : keyOf w ≠ keyOf v := fun hk =>
          hnew (hunique w (List.mem_cons_of_mem _ hw) hk ▸ hw)
        rw [Function.comp_apply, if_neg hne]
      rw [hsame, if_pos hkey]
      omega
    · have hne : keyOf w ≠ keyOf v := fun hk =>
        hnew (hunique w List.mem_cons_self hk ▸ hold)
      have htail := ih hold (fun w' hw' => hunique w' (List.mem_cons_of_mem _ hw')) hrest
      rw [htail, if_neg hne]
      omega

/-- A record put over one of no smaller amount does not raise the total. -/
theorem total_put_le (h : m.get? (keyOf v) = some old) (hle : f v ≤ f old) : (m.put v).total f ≤ m.total f := by
  rw [total_put_of_some h]
  omega

end VentureOS.Store
