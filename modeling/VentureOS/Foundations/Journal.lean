import Mathlib.Data.List.Induction

/-! # Journals

A journal is a list that is only ever written at its end, and whose entries are judged by what was there when
they were written: `Journal R l` says that `R before e` holds of every entry `e` of `l` and the list `before`
of the entries before it. `Journal.invariant` is the induction rule: what holds of the empty list, and is kept
when an entry is written, holds of the journal. -/

namespace VentureOS

universe u

variable {α : Type u}

/-- Every entry is in a relation with the entries before it. -/
def Journal (R : List α → α → Prop) (l : List α) : Prop :=
  ∀ before e after, l = before ++ e :: after → R before e

namespace Journal

variable {R : List α → α → Prop} {l : List α} {e : α}

theorem nil : Journal R [] := fun before _ _ h => by simp at h

/-- The journal so far. -/
theorem of_append {l' : List α} (h : Journal R (l ++ l')) : Journal R l := by
  intro before e after hl
  exact h before e (after ++ l') (by rw [hl, List.append_assoc, List.cons_append])

/-- The last entry. -/
theorem last (h : Journal R (l ++ [e])) : R l e := h l e [] rfl

/-- An entry is written. -/
theorem concat (h : Journal R l) (he : R l e) : Journal R (l ++ [e]) := by
  intro before e' after hl
  induction after using List.reverseRecOn with
  | nil =>
    obtain ⟨rfl, hlast⟩ := List.append_inj' hl rfl
    cases hlast
    exact he
  | append_singleton after e'' _ =>
    rw [← List.cons_append, ← List.append_assoc] at hl
    exact h before e' after (List.append_inj' hl rfl).1

/-- **Induction over a journal.** -/
theorem invariant {P : List α → Prop} (hnil : P []) (hstep : ∀ l e, P l → R l e → P (l ++ [e]))
    (h : Journal R l) : P l := by
  induction l using List.reverseRecOn with
  | nil => exact hnil
  | append_singleton l e ih => exact hstep l e (ih h.of_append) h.last

/-- What follows from the relation holds of every entry. -/
theorem forall_mem {p : α → Prop} (himp : ∀ l e, R l e → p e) (h : Journal R l) : ∀ e ∈ l, p e := by
  intro e he
  obtain ⟨before, after, hl⟩ := List.append_of_mem he
  exact himp before e (h before e after hl)

end Journal

end VentureOS
