import Mathlib.Data.List.Lex
import Mathlib.Data.List.Sort
import Mathlib.Data.Prod.Lex
import VentureOS.Foundations.Text

/-! # Sorting by a comparator

`Array.prototype.sort(compare)` sorts stably by the sign of `compare` (`sortBy`). A comparator that orders
by a key in a linear order (`Orders`) sorts a list by that key, so the sorted list starts with a least
element (`sortBy_head`), and lists with the same elements under distinct keys are sorted to the same list
(`sortBy_eq_of_perm`). Comparators are combined as in the source, where `c || d` is `d` when `c` is zero
(`Orders.thenBy`).

Strings are compared by their UTF-16 code units (`utf16Units`). -/

namespace VentureOS

universe u v w

/-! ## Comparators -/

section Comparators

variable {α : Type u} {β : Type v} {γ : Type w} [LinearOrder β] [LinearOrder γ]

/-- The comparator orders by the key. -/
def Orders (compare : α → α → Int) (key : α → β) : Prop :=
  ∀ a b, (compare a b < 0 ↔ key a < key b) ∧ (compare a b = 0 ↔ key a = key b)

/-- `c || d` for numbers. -/
def thenBy (c d : Int) : Int := if c ≠ 0 then c else d

variable {compare : α → α → Int}

variable {key : α → β}

/-- **Combined comparators** order by the first key, then by the second. -/
theorem Orders.thenBy {compare' : α → α → Int} {key' : α → γ}
    (h : Orders compare key) (h' : Orders compare' key') :
    Orders (fun a b => VentureOS.thenBy (compare a b) (compare' a b))
      (fun a => toLex (key a, key' a)) := by
  intro a b
  obtain ⟨hlt, heq⟩ := h a b
  obtain ⟨hlt', heq'⟩ := h' a b
  unfold VentureOS.thenBy
  rw [Prod.Lex.lt_iff]
  by_cases hzero : compare a b = 0
  · have hkey := heq.mp hzero
    simp [hzero, hlt', heq', hkey]
  · have hkey : key a ≠ key b := fun h => hzero (heq.mpr h)
    simp [hzero, hlt, hkey]

/-- Numbers compared downwards. -/
theorem orders_sub (f : α → Int) : Orders (fun a b => f b - f a) (fun a => -f a) := by
  intro a b
  show (f b - f a < 0 ↔ -f a < -f b) ∧ (f b - f a = 0 ↔ -f a = -f b)
  constructor
  · omega
  · omega

/-- A comparator that orders by a key is at most zero where the key is at most as large. -/
theorem Orders.le_iff (h : Orders compare key) {a b : α} : compare a b ≤ 0 ↔ key a ≤ key b := by
  rw [Int.le_iff_lt_or_eq, (h a b).1, (h a b).2, le_iff_lt_or_eq]

/-! ## Sorting -/

/-- `array.sort(compare)`. -/
def sortBy (compare : α → α → Int) (l : List α) : List α :=
  l.insertionSort fun a b => compare a b ≤ 0

omit [LinearOrder β] in
theorem sortBy_perm (compare : α → α → Int) (l : List α) : (sortBy compare l).Perm l :=
  List.perm_insertionSort _ l

/-- The sorted list is sorted by the key. -/
theorem pairwise_sortBy (h : Orders compare key) (l : List α) :
    (sortBy compare l).Pairwise fun a b => key a ≤ key b := by
  have : Std.Total fun a b => compare a b ≤ 0 := ⟨fun a b => by
    rw [h.le_iff, h.le_iff]
    exact le_total _ _⟩
  have : IsTrans α fun a b => compare a b ≤ 0 := ⟨fun a b c hab hbc => by
    rw [h.le_iff] at hab hbc ⊢
    exact hab.trans hbc⟩
  exact (List.pairwise_insertionSort _ l).imp fun hab => h.le_iff.mp hab

/-- The sorted list starts with an element whose key is least. -/
theorem sortBy_head (h : Orders compare key) {l : List α}
    {a : α} (ha : (sortBy compare l).head? = some a) : a ∈ l ∧ ∀ b ∈ l, key a ≤ key b := by
  have hsorted := pairwise_sortBy h l
  have hperm := sortBy_perm compare l
  cases hl : sortBy compare l with
  | nil => simp [hl] at ha
  | cons c rest =>
    rw [hl, List.head?_cons, Option.some.injEq] at ha
    subst ha
    rw [hl] at hsorted hperm
    refine ⟨hperm.subset List.mem_cons_self, fun b hb => ?_⟩
    rcases List.mem_cons.mp (hperm.symm.subset hb) with rfl | hb
    · exact le_rfl
    · exact (List.pairwise_cons.mp hsorted).1 b hb

omit [LinearOrder β] in
/-- A sorted list is empty iff the list is. -/
theorem sortBy_head_eq_none {l : List α} :
    (sortBy compare l).head? = none ↔ l = [] := by
  rw [List.head?_eq_none_iff]
  constructor
  · intro h
    have hperm := sortBy_perm compare l
    rw [h] at hperm
    exact hperm.nil_eq.symm
  · rintro rfl
    rfl

/-- **Sorting forgets the order.** Lists with the same elements, whose keys are distinct, are sorted to the
same list. -/
theorem sortBy_eq_of_perm (h : Orders compare key)
    {l l' : List α} (hkey : ∀ a ∈ l, ∀ b ∈ l, key a = key b → a = b) (hperm : l.Perm l') :
    sortBy compare l = sortBy compare l' := by
  have hperm' : (sortBy compare l).Perm (sortBy compare l') :=
    (sortBy_perm compare l).trans (hperm.trans (sortBy_perm compare l').symm)
  refine List.Perm.eq_of_pairwise (fun a b ha hb hab hba => ?_) (pairwise_sortBy h l)
    (pairwise_sortBy h l') hperm'
  exact hkey a ((sortBy_perm compare l).subset ha) b
    (hperm.symm.subset ((sortBy_perm compare l').subset hb)) (le_antisymm hab hba)

end Comparators

/-! ## Strings -/

/-- The UTF-16 code units of a character. -/
def charUnits (c : Char) : List Nat :=
  if c.toNat < 0x10000 then [c.toNat]
  else [0xD800 + (c.toNat - 0x10000) / 0x400, 0xDC00 + (c.toNat - 0x10000) % 0x400]

/-- The UTF-16 code units of a string; strings are compared by them. -/
def utf16Units (s : String) : List Nat := s.toList.flatMap charUnits

/-- The first code units tell the first character, and leave the others. -/
theorem charUnits_append_inj {c d : Char} {x y : List Nat}
    (h : charUnits c ++ x = charUnits d ++ y) : c = d ∧ x = y := by
  have toNat_inj : c.toNat = d.toNat → c = d := fun h => Char.ext (UInt32.toNat_inj.mp h)
  -- A surrogate is not the code of a character.
  have valid : ∀ c : Char, c.toNat < 0xD800 ∨ 0xDFFF < c.toNat ∧ c.toNat < 0x110000 := fun c => c.valid
  have hcv := valid c
  have hdv := valid d
  unfold charUnits at h
  split at h <;> split at h
  · simp only [List.cons_append, List.nil_append, List.cons.injEq] at h
    exact ⟨toNat_inj h.1, h.2⟩
  · simp only [List.cons_append, List.nil_append, List.cons.injEq] at h
    omega
  · simp only [List.cons_append, List.nil_append, List.cons.injEq] at h
    omega
  · simp only [List.cons_append, List.nil_append, List.cons.injEq] at h
    exact ⟨toNat_inj (by omega), h.2.2⟩

/-- Strings with the same code units are equal. -/
theorem utf16Units_injective : Function.Injective utf16Units := by
  intro s t h
  have lists : ∀ l l' : List Char, l.flatMap charUnits = l'.flatMap charUnits → l = l' := by
    intro l
    induction l with
    | nil =>
      intro l' h
      cases l' with
      | nil => rfl
      | cons d l' =>
        rw [List.flatMap_nil, List.flatMap_cons, charUnits] at h
        split at h <;> cases h
    | cons c l ih =>
      intro l' h
      cases l' with
      | nil =>
        rw [List.flatMap_nil, List.flatMap_cons, charUnits] at h
        split at h <;> cases h
      | cons d l' =>
        rw [List.flatMap_cons, List.flatMap_cons] at h
        obtain ⟨rfl, hrest⟩ := charUnits_append_inj h
        rw [ih l' hrest]
  exact String.toList_inj.mp (lists _ _ h)

end VentureOS
