import Mathlib.Logic.Relation
import VentureOS.Foundations.Text

/-! # Regular expressions as relations

`Regex.ends` computes the places a match can end at; `Reaches` says the same without fuel: a repetition
is the reflexive and transitive closure of what it repeats (`mem_ends`). Because a match never moves
back, and moves forward whenever it moves, the fuel of `ends` suffices (`mem_rounds`).

The main result is about separators. An expression none of whose classes accepts a character `c`, where
`c` is no word character either, cannot see past `c`: it finds a match in `u ++ c :: v` iff it finds
one in `u` or in `v` (`test_separated`). -/

namespace VentureOS

variable {r : Regex}

namespace Regex

open Relation

/-! ## Reaching a place -/

/-- A match that starts at the first place can end at the second. -/
def Reaches : Regex → Position → Position → Prop
  | .eps, p, q => q = p
  | .cls f, p, q => ∃ c rest, p.2 = c :: rest ∧ f c = true ∧ q = (some c, rest)
  | .seq r s, p, q => ∃ m, Reaches r p m ∧ Reaches s m q
  | .alt r s, p, q => Reaches r p q ∨ Reaches s p q
  | .star r, p, q => ReflTransGen (Reaches r) p q
  | .wordBoundary, p, q => p.1.any isWord ≠ p.2.head?.any isWord ∧ q = p

/-- A match stays where it is or moves forward. -/
theorem Reaches.forward : ∀ {p q : Position}, Reaches r p q →
    q = p ∨ q.2.length < p.2.length := by
  induction r with
  | eps => exact fun h => Or.inl h
  | cls f =>
    rintro p q ⟨c, rest, hp, -, rfl⟩
    refine Or.inr ?_
    rw [hp]
    exact Nat.lt_succ_self _
  | seq r s ihr ihs =>
    rintro p q ⟨m, hr, hs⟩
    rcases ihr hr with rfl | hm
    · exact ihs hs
    · rcases ihs hs with rfl | hq
      · exact Or.inr hm
      · exact Or.inr (Nat.lt_trans hq hm)
  | alt r s ihr ihs =>
    rintro p q (h | h)
    · exact ihr h
    · exact ihs h
  | star r ih =>
    intro p q h
    induction h with
    | refl => exact Or.inl rfl
    | tail _ hstep ihsteps =>
      rcases ih hstep with rfl | hq
      · exact ihsteps
      · rcases ihsteps with rfl | hm
        · exact Or.inr hq
        · exact Or.inr (Nat.lt_trans hq hm)
  | wordBoundary => exact fun h => Or.inl h.2

/-- Rounds of a forward move reach everything that finitely many moves reach. -/
theorem mem_rounds {advance : Position → List Position}
    (forward : ∀ p q, q ∈ advance p → q = p ∨ q.2.length < p.2.length) {fuel : Nat}
    {p q : Position} (hfuel : p.2.length ≤ fuel) :
    q ∈ rounds advance fuel p ↔ ReflTransGen (fun p q => q ∈ advance p) p q := by
  constructor
  · clear hfuel
    induction fuel generalizing p with
    | zero =>
      intro h
      rw [rounds, List.mem_singleton] at h
      exact h ▸ ReflTransGen.refl
    | succ fuel ih =>
      intro h
      rcases List.mem_cons.mp h with rfl | h
      · exact ReflTransGen.refl
      · obtain ⟨m, hm, hq⟩ := List.mem_flatMap.mp h
        exact ReflTransGen.head hm (ih hq)
  · intro h
    -- The fuel is compared with the characters left, whichever move comes first.
    induction h using ReflTransGen.head_induction_on generalizing fuel with
    | refl =>
      cases fuel with
      | zero => exact List.mem_singleton_self _
      | succ fuel => exact List.mem_cons_self
    | @head a b hab _ ih =>
      rcases forward _ _ hab with rfl | hlt
      · exact ih hfuel
      · cases fuel with
        | zero => omega
        | succ fuel =>
          exact List.mem_cons_of_mem _ (List.mem_flatMap.mpr ⟨b, hab, ih (by omega)⟩)

/-- **The two readings agree.** -/
theorem mem_ends : ∀ {p q : Position}, q ∈ r.ends p ↔ Reaches r p q := by
  induction r with
  | eps => simp [ends, Reaches]
  | cls f =>
    rintro ⟨before, rest⟩ q
    cases rest with
    | nil => simp [ends, Reaches]
    | cons c rest =>
      by_cases hf : f c = true
      · simp [ends, Reaches, hf]
      · simp [ends, Reaches, hf]
  | seq r s ihr ihs => simp [ends, Reaches, ihr, ihs]
  | alt r s ihr ihs => simp [ends, Reaches, ihr, ihs]
  | star r ih =>
    intro p q
    rw [ends, mem_rounds (fun p q h => (ih.mp h).forward) le_rfl, Reaches]
    simp only [ih]
  | wordBoundary =>
    intro p q
    by_cases h : p.1.any isWord = p.2.head?.any isWord
    · simp [ends, Reaches, h]
    · simp [ends, Reaches, h]

/-- A search finds a match iff one starts after some part of the text. -/
theorem searchFrom_eq_true {before : Option Char} {text : List Char} :
    r.searchFrom before text = true ↔
      ∃ u v, text = u ++ v ∧ ∃ q, Reaches r (u.getLast?.or before, v) q := by
  have here : ∀ p : Position, (!(r.ends p).isEmpty) = true ↔ ∃ q, Reaches r p q := by
    intro p
    rw [Bool.not_eq_true', List.isEmpty_eq_false_iff_exists_mem]
    simp only [mem_ends]
  induction text generalizing before with
  | nil =>
    rw [searchFrom, here]
    constructor
    · exact fun h => ⟨[], [], rfl, h⟩
    · rintro ⟨u, v, huv, h⟩
      obtain ⟨rfl, rfl⟩ := List.append_eq_nil_iff.mp huv.symm
      exact h
  | cons c rest ih =>
    rw [searchFrom, Bool.or_eq_true, here]
    constructor
    · rintro (h | h)
      · exact ⟨[], c :: rest, rfl, h⟩
      · obtain ⟨u, v, huv, h'⟩ := ih.mp h
        refine ⟨c :: u, v, by rw [huv, List.cons_append], ?_⟩
        rw [List.getLast?_cons, Option.some_or]
        cases hu : u.getLast? with
        | none => simpa [hu] using h'
        | some d => simpa [hu] using h'
    · rintro ⟨u, v, huv, h⟩
      cases u with
      | nil => exact Or.inl (huv ▸ h)
      | cons d u =>
        rw [List.cons_append, List.cons.injEq] at huv
        obtain ⟨rfl, rfl⟩ := huv
        refine Or.inr (ih.mpr ⟨u, v, rfl, ?_⟩)
        rw [List.getLast?_cons, Option.some_or] at h
        cases hu : u.getLast? with
        | none => simpa [hu] using h
        | some d => simpa [hu] using h

/-- A text passes the test iff a match starts after some part of it. -/
theorem test_eq_true {s : String} :
    r.test s = true ↔ ∃ u v, s.toList = u ++ v ∧ ∃ q, Reaches r (u.getLast?, v) q := by
  rw [test, searchFrom_eq_true]
  simp only [Option.or_none]

/-- A text passes a choice iff it passes one of the two. -/
theorem test_alt {s : Regex} {text : String} : (alt r s).test text = (r.test text || s.test text) := by
  rw [Bool.eq_iff_iff, Bool.or_eq_true, test_eq_true, test_eq_true, test_eq_true]
  constructor
  · rintro ⟨u, v, huv, q, h | h⟩
    · exact Or.inl ⟨u, v, huv, q, h⟩
    · exact Or.inr ⟨u, v, huv, q, h⟩
  · rintro (⟨u, v, huv, q, h⟩ | ⟨u, v, huv, q, h⟩)
    · exact ⟨u, v, huv, q, Or.inl h⟩
    · exact ⟨u, v, huv, q, Or.inr h⟩

theorem test_altAll {rs : List Regex} {text : String} : (altAll rs).test text = rs.any fun r => r.test text := by
  induction rs with
  | nil =>
    rw [List.any_nil, ← Bool.not_eq_true, altAll, test_eq_true]
    rintro ⟨u, v, -, q, c, rest, -, hc, -⟩
    cases hc
  | cons r rs ih => rw [altAll, test_alt, ih, List.any_cons]

/-! ## Separators -/

/-- No class of the expression accepts the character. -/
def avoids (c : Char) : Regex → Bool
  | .eps => true
  | .cls f => !f c
  | .seq r s => avoids c r && avoids c s
  | .alt r s => avoids c r && avoids c s
  | .star r => avoids c r
  | .wordBoundary => true

/-- A place in a text that is followed by other characters. -/
def followedBy (rest : List Char) (p : Position) : Position := (p.1, p.2 ++ rest)

section Separators

variable {c : Char} (hword : isWord c = false)
include hword

/-- Before a separator a match runs as if the text ended there. -/
theorem reaches_followedBy {v : List Char} (hr : r.avoids c = true) :
    ∀ {p q : Position}, Reaches r (followedBy (c :: v) p) q ↔
      ∃ p', Reaches r p p' ∧ q = followedBy (c :: v) p' := by
  induction r with
  | eps =>
    intro p q
    constructor
    · exact fun h => ⟨p, rfl, h⟩
    · rintro ⟨p', rfl, rfl⟩
      rfl
  | cls f =>
    rintro ⟨before, text⟩ q
    simp only [avoids, Bool.not_eq_true'] at hr
    constructor
    · rintro ⟨d, rest, hp, hd, rfl⟩
      cases text with
      | nil =>
        -- The next character would be the separator.
        simp only [followedBy, List.nil_append, List.cons.injEq] at hp
        rw [← hp.1, hr] at hd
        cases hd
      | cons e text =>
        simp only [followedBy, List.cons_append, List.cons.injEq] at hp
        obtain ⟨rfl, rfl⟩ := hp
        exact ⟨(some e, text), ⟨e, text, rfl, hd, rfl⟩, rfl⟩
    · rintro ⟨p', ⟨d, rest, hp, hd, rfl⟩, rfl⟩
      refine ⟨d, rest ++ c :: v, ?_, hd, rfl⟩
      simp only [followedBy] at hp ⊢
      rw [hp, List.cons_append]
  | seq r s ihr ihs =>
    simp only [avoids, Bool.and_eq_true] at hr
    intro p q
    constructor
    · rintro ⟨m, hm, hq⟩
      obtain ⟨m', hm', rfl⟩ := (ihr hr.1).mp hm
      obtain ⟨p', hp', rfl⟩ := (ihs hr.2).mp hq
      exact ⟨p', ⟨m', hm', hp'⟩, rfl⟩
    · rintro ⟨p', ⟨m, hm, hp'⟩, rfl⟩
      exact ⟨_, (ihr hr.1).mpr ⟨m, hm, rfl⟩, (ihs hr.2).mpr ⟨p', hp', rfl⟩⟩
  | alt r s ihr ihs =>
    simp only [avoids, Bool.and_eq_true] at hr
    intro p q
    simp only [Reaches, ihr hr.1, ihs hr.2, or_and_right, exists_or]
  | star r ih =>
    intro p q
    constructor
    · intro h
      induction h with
      | refl => exact ⟨p, ReflTransGen.refl, rfl⟩
      | tail _ hstep ihsteps =>
        obtain ⟨m, hm, rfl⟩ := ihsteps
        obtain ⟨p', hp', rfl⟩ := (ih hr).mp hstep
        exact ⟨p', ReflTransGen.tail hm hp', rfl⟩
    · rintro ⟨p', hp', rfl⟩
      have steps : ReflTransGen (Reaches r) p p' := hp'
      exact steps.lift (followedBy (c :: v)) (fun a b hab => (ih hr).mpr ⟨b, hab, rfl⟩)
  | wordBoundary =>
    rintro ⟨before, text⟩ q
    have hhead : (text ++ c :: v).head?.any isWord = text.head?.any isWord := by
      cases text with
      | nil => simp [hword]
      | cons d text => rfl
    simp only [Reaches, followedBy, hhead]
    constructor
    · rintro ⟨h, rfl⟩
      exact ⟨(before, text), ⟨h, rfl⟩, rfl⟩
    · rintro ⟨p', ⟨h, rfl⟩, rfl⟩
      exact ⟨h, rfl⟩

omit hword in
/-- Two places with the same text left, whose preceding characters are both word characters or both
not. -/
def Alike (p q : Position) : Prop := p.2 = q.2 ∧ p.1.any isWord = q.1.any isWord

omit hword in
/-- From alike places a match reaches alike places. -/
theorem Reaches.alike : ∀ {p p' q : Position}, Reaches r p q → Alike p p' →
    ∃ q', Reaches r p' q' ∧ Alike q q' := by
  induction r with
  | eps =>
    rintro p p' q rfl halike
    exact ⟨p', rfl, halike⟩
  | cls f =>
    rintro p p' q ⟨d, rest, hp, hd, rfl⟩ halike
    exact ⟨(some d, rest), ⟨d, rest, halike.1 ▸ hp, hd, rfl⟩, rfl, rfl⟩
  | seq r s ihr ihs =>
    rintro p p' q ⟨m, hm, hq⟩ halike
    obtain ⟨m', hm', halike'⟩ := ihr hm halike
    obtain ⟨q', hq', halike''⟩ := ihs hq halike'
    exact ⟨q', ⟨m', hm', hq'⟩, halike''⟩
  | alt r s ihr ihs =>
    rintro p p' q (h | h) halike
    · obtain ⟨q', hq', halike'⟩ := ihr h halike
      exact ⟨q', Or.inl hq', halike'⟩
    · obtain ⟨q', hq', halike'⟩ := ihs h halike
      exact ⟨q', Or.inr hq', halike'⟩
  | star r ih =>
    intro p p' q h halike
    induction h with
    | refl => exact ⟨p', ReflTransGen.refl, halike⟩
    | tail _ hstep ihsteps =>
      obtain ⟨m', hm', halike'⟩ := ihsteps
      obtain ⟨q', hq', halike''⟩ := ih hstep halike'
      exact ⟨q', hm'.tail hq', halike''⟩
  | wordBoundary =>
    rintro p p' q ⟨h, rfl⟩ halike
    exact ⟨p', ⟨by rw [← halike.1, ← halike.2]; exact h, rfl⟩, halike⟩

/-- **Separators.** An expression that avoids a separator finds a match in a text with the separator iff
it finds one on either side of it. -/
theorem search_separated (hr : r.avoids c = true) (u v : List Char) :
    r.searchFrom none (u ++ c :: v) = (r.searchFrom none u || r.searchFrom none v) := by
  -- Behind the separator a match starts as it does at the start of a text.
  have halike : ∀ x rest : List Char, Alike ((u ++ c :: x).getLast?, rest) (x.getLast?, rest) := by
    intro x rest
    refine ⟨rfl, ?_⟩
    cases hx : x.getLast? with
    | none =>
      rw [List.getLast?_eq_none_iff] at hx
      simp [hx, hword]
    | some d => simp [List.getLast?_append, List.getLast?_cons, hx]
  rw [Bool.eq_iff_iff, Bool.or_eq_true, searchFrom_eq_true, searchFrom_eq_true, searchFrom_eq_true]
  simp only [Option.or_none]
  constructor
  · rintro ⟨x, y, hxy, q, hq⟩
    rcases List.append_eq_append_iff.mp hxy with ⟨w, rfl, hrest⟩ | ⟨w, rfl, hrest⟩
    · -- The match starts behind the first part.
      cases w with
      | nil =>
        rw [List.nil_append] at hrest
        subst hrest
        rw [List.append_nil] at hq
        obtain ⟨p', hp', -⟩ := (reaches_followedBy hword hr (v := v)
          (p := (u.getLast?, []))).mp hq
        exact Or.inl ⟨u, [], (List.append_nil u).symm, p', hp'⟩
      | cons d w =>
        rw [List.cons_append, List.cons.injEq] at hrest
        obtain ⟨rfl, rfl⟩ := hrest
        obtain ⟨q', hq', -⟩ := hq.alike (halike w y)
        exact Or.inr ⟨w, y, rfl, q', hq'⟩
    · subst hrest
      obtain ⟨p', hp', -⟩ := (reaches_followedBy hword hr (v := v)
        (p := (x.getLast?, w))).mp hq
      exact Or.inl ⟨x, w, rfl, p', hp'⟩
  · rintro (⟨x, y, rfl, q, hq⟩ | ⟨x, y, rfl, q, hq⟩)
    · refine ⟨x, y ++ c :: v, by rw [List.append_assoc], followedBy (c :: v) q, ?_⟩
      exact (reaches_followedBy hword hr (p := (x.getLast?, y))).mpr ⟨q, hq, rfl⟩
    · have hback : Alike (x.getLast?, y) ((u ++ c :: x).getLast?, y) := ⟨rfl, (halike x y).2.symm⟩
      obtain ⟨q', hq', -⟩ := hq.alike hback
      exact ⟨u ++ c :: x, y, by rw [List.append_assoc, List.cons_append], q', hq'⟩

/-- Testing a text that is joined by a separator. -/
theorem test_separated (hr : r.avoids c = true) {s a b : String}
    (hs : s.toList = a.toList ++ c :: b.toList) : r.test s = (r.test a || r.test b) := by
  rw [test, hs, search_separated hword hr]
  rfl

end Separators

/-! ## Letters that a match needs -/

/-- A match of the expression needs a character that is not in the alphabet. -/
def blocked (alphabet : List Char) : Regex → Bool
  | .eps => false
  | .cls f => alphabet.all fun c => !f c
  | .seq r s => blocked alphabet r || blocked alphabet s
  | .alt r s => blocked alphabet r && blocked alphabet s
  | .star _ => false
  | .wordBoundary => false

/-- What is left of a text after a match is an end of it. -/
theorem Reaches.suffix : ∀ {p q : Position}, Reaches r p q → q.2 <:+ p.2 := by
  induction r with
  | eps => exact fun h => h ▸ List.suffix_rfl
  | cls f =>
    rintro p q ⟨c, rest, hp, -, rfl⟩
    exact hp ▸ List.suffix_cons c rest
  | seq r s ihr ihs =>
    rintro p q ⟨m, hr, hs⟩
    exact (ihs hs).trans (ihr hr)
  | alt r s ihr ihs => exact fun h => h.elim ihr ihs
  | star r ih =>
    intro p q h
    induction h with
    | refl => exact List.suffix_rfl
    | tail _ hstep hsteps => exact (ih hstep).trans hsteps
  | wordBoundary => exact fun h => h.2 ▸ List.suffix_rfl

theorem not_reaches_of_blocked {alphabet : List Char} (hr : r.blocked alphabet = true) :
    ∀ {p q : Position}, (∀ c ∈ p.2, c ∈ alphabet) → ¬ Reaches r p q := by
  induction r with
  | cls f =>
    rintro p q hp ⟨c, rest, hcons, hf, -⟩
    have hblocked := List.all_eq_true.mp hr c (hp c (hcons ▸ List.mem_cons_self))
    rw [hf] at hblocked
    cases hblocked
  | seq r s ihr ihs =>
    rintro p q hp ⟨m, hleft, hright⟩
    rcases Bool.or_eq_true_iff.mp hr with h | h
    · exact ihr h hp hleft
    · exact ihs h (fun c hc => hp c (hleft.suffix.subset hc)) hright
  | alt r s ihr ihs =>
    obtain ⟨hl, hrt⟩ := Bool.and_eq_true_iff.mp hr
    rintro p q hp (h | h)
    · exact ihr hl hp h
    · exact ihs hrt hp h
  | eps | star | wordBoundary => cases hr

/-- **A text in an alphabet that blocks the expression** does not match it anywhere. -/
theorem test_of_blocked {alphabet : List Char} (hr : r.blocked alphabet = true) {s : String}
    (hs : ∀ c ∈ s.toList, c ∈ alphabet) : r.test s = false := by
  by_contra h
  obtain ⟨u, v, huv, q, hq⟩ := test_eq_true.mp (Bool.not_eq_false _ ▸ h)
  refine not_reaches_of_blocked hr (fun c hc => hs c ?_) hq
  rw [huv]
  exact List.mem_append_right u hc

end Regex

end VentureOS
