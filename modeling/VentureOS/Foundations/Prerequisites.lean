import Mathlib.Logic.Relation
import Mathlib.Tactic.Common

/-! # Prerequisites

A board of tasks, each of which needs others to be done first. Tasks are admitted in batches together with
what they need, are given up, and are finished one at a time; nobody looks for tasks to release except the
one who finishes a task, and then only among those that need it.

`Coherent` says that exactly the tasks with an open prerequisite are blocked. It survives every step
(`Coherent.step`), so looking at the neighbours of the finished task is enough. A task is released by the step
that finishes its last open prerequisite and by no other (`Coherent.released_iff`), it is not blocked again
(`Step.released_stays`), and what needs a task that was given up waits for ever
(`Coherent.waits_forever`). -/

namespace VentureOS

open Relation

universe u

/-- What finitely many steps are below does not come back to itself. -/
theorem not_transGen_self {T : Type u} {r : T → T → Prop} {t : T} (hacc : Acc (flip r) t) : ¬ TransGen r t t := by
  intro hcycle
  have hback : TransGen (flip r) t t := transGen_swap.mp hcycle
  replace hacc := hacc.transGen
  induction hacc with
  | intro t _ ih => exact ih t hback hcycle hback

/-- What waits for something, and that for something else in turn, waits for something that does not wait. -/
theorem exists_not_waiting {T : Type u} {needs : T → T → Prop} {isOpen waits : T → Prop}
    (h : ∀ t, waits t → ∃ d, needs t d ∧ isOpen d) {t : T} (hacc : Acc (flip needs) t) (ht : waits t) :
    ∃ d, TransGen needs t d ∧ isOpen d ∧ ¬ waits d := by
  induction hacc with
  | intro t _ ih =>
    obtain ⟨d, hneeds, hopen⟩ := h t ht
    by_cases hd : waits d
    · obtain ⟨e, hpath, he⟩ := ih d hneeds hd
      exact ⟨e, .head hneeds hpath, he⟩
    · exact ⟨d, .single hneeds, hopen, hd⟩

/-- How far a task is. -/
inductive Phase where
  | blocked
  | free
  | done
  /-- The task was given up. -/
  | dead
  deriving DecidableEq

/-- Tasks of `T`, as far as they are known, and what they need. -/
structure Board (T : Type u) where
  phase : T → Option Phase
  /-- The first task needs the second to be done. -/
  needs : T → T → Prop

namespace Board

variable {T : Type u} {b b' : Board T} {t d : T}

/-- Exactly the known tasks with an open prerequisite are blocked. -/
structure Coherent (b : Board T) : Prop where
  blocked_iff : ∀ t, b.phase t ≠ none →
    (b.phase t = some .blocked ↔ ∃ d, b.needs t d ∧ b.phase d ≠ some .done)
  known : ∀ t d, b.needs t d → b.phase t ≠ none ∧ b.phase d ≠ none

/-- Finishing `t` leaves nothing that keeps `u` waiting. -/
def ReleasedBy (b : Board T) (t u : T) : Prop :=
  b.phase u = some .blocked ∧ b.needs u t ∧ ∀ d, b.needs u d → d = t ∨ b.phase d = some .done

/-- One step of a board. -/
inductive Step (b b' : Board T) : Prop
  /-- New tasks are admitted, with what they need of each other. -/
  | enter (new : Set T) (hfresh : ∀ t ∈ new, b.phase t = none)
      (hold : ∀ t, t ∉ new → b'.phase t = b.phase t)
      (hblocked : ∀ t ∈ new, b'.phase t = some .blocked ∧ (∃ d, b'.needs t d)
        ∨ b'.phase t = some .free ∧ ∀ d, ¬ b'.needs t d)
      (hkept : ∀ t d, b.needs t d → b'.needs t d)
      (hadded : ∀ t d, b'.needs t d → b.needs t d ∨ (t ∈ new ∧ d ∈ new))
  /-- Free tasks may be given up. -/
  | work (hneeds : b'.needs = b.needs)
      (hphase : ∀ t, b'.phase t = b.phase t ∨ (b.phase t = some .free ∧ b'.phase t = some .dead))
  /-- A free task is finished, and the tasks that need it are looked at. -/
  | finish (t : T) (hfree : b.phase t = some .free) (hneeds : b'.needs = b.needs)
      (hdone : b'.phase t = some .done) (hreleased : ∀ u, b.ReleasedBy t u → b'.phase u = some .free)
      (hkept : ∀ u, u ≠ t → ¬ b.ReleasedBy t u → b'.phase u = b.phase u)

/-! ## What steps keep -/

/-- A released task is not the one that was finished. -/
theorem ReleasedBy.ne {u : T} (h : b.ReleasedBy t u) (hfree : b.phase t = some .free) : u ≠ t := by
  rintro rfl
  rw [h.1] at hfree
  cases hfree

/-- What becomes of a known task: a free one may be given up or finished, a blocked one may be released. -/
theorem Step.phase_cases (h : b.Step b') (hknown : b.phase t ≠ none) : b'.phase t = b.phase t
    ∨ b.phase t = some .free ∧ (b'.phase t = some .dead ∨ b'.phase t = some .done)
    ∨ b.phase t = some .blocked ∧ b'.phase t = some .free := by
  cases h with
  | enter new hfresh hold hblocked hkept hadded => exact .inl (hold t fun hnew => hknown (hfresh t hnew))
  | work hneeds hphase => exact (hphase t).imp_right fun ⟨hfree, hdead⟩ => .inl ⟨hfree, .inl hdead⟩
  | finish d hfree hneeds hdone hreleased hkept =>
    by_cases htd : t = d
    · subst htd
      exact .inr (.inl ⟨hfree, .inr hdone⟩)
    · by_cases hrelease : b.ReleasedBy d t
      · exact .inr (.inr ⟨hrelease.1, hreleased t hrelease⟩)
      · exact .inl (hkept t htd hrelease)

/-- Finished tasks stay finished. -/
theorem Step.done_stays (h : b.Step b') (hd : b.phase d = some .done) : b'.phase d = some .done := by
  have hcases := h.phase_cases (t := d) (by rw [hd]; nofun)
  rw [hd] at hcases
  simpa using hcases

/-- Tasks that were given up stay given up. -/
theorem Step.dead_stays (h : b.Step b') (hd : b.phase d = some .dead) : b'.phase d = some .dead := by
  have hcases := h.phase_cases (t := d) (by rw [hd]; nofun)
  rw [hd] at hcases
  simpa using hcases

/-- Known tasks stay known. -/
theorem Step.known_stays (h : b.Step b') (hknown : b.phase t ≠ none) : b'.phase t ≠ none := by
  rcases h.phase_cases hknown with hsame | ⟨-, hphase | hphase⟩ | ⟨-, hphase⟩
  · rwa [hsame]
  all_goals rw [hphase]; nofun

/-- A known task that is not blocked does not become so. -/
theorem Step.released_stays (h : b.Step b') (hknown : b.phase t ≠ none)
    (hfree : b.phase t ≠ some .blocked) : b'.phase t ≠ some .blocked := by
  rcases h.phase_cases hknown with hsame | ⟨-, hphase | hphase⟩ | ⟨hblocked, -⟩
  · rwa [hsame]
  · rw [hphase]
    nofun
  · rw [hphase]
    nofun
  · exact absurd hblocked hfree

/-- A known task needs what it needed when it was admitted. -/
theorem Step.needs_iff (h : b.Step b') (hknown : b.phase t ≠ none) :
    b'.needs t d ↔ b.needs t d := by
  cases h with
  | enter new hfresh hold hblocked hkept hadded =>
    refine ⟨fun hneeds => ?_, hkept t d⟩
    rcases hadded t d hneeds with hneeds | ⟨hnew, -⟩
    · exact hneeds
    · exact absurd (hfresh t hnew) hknown
  | work hneeds hphase => rw [hneeds]
  | finish t hfree hneeds hdone hreleased hkept => rw [hneeds]

/-- What a task needs it keeps needing. -/
theorem Step.needs_stays (h : b.Step b') (hneeds : b.needs t d) : b'.needs t d := by
  cases h with
  | enter new hfresh hold hblocked hkept hadded => exact hkept t d hneeds
  | work hsame hphase => rwa [hsame]
  | finish t hfree hsame hdone hreleased hkept => rwa [hsame]

/-- A step finishes one task at most. -/
theorem Step.done_unique (h : b.Step b') {d' : T} (hd : b.phase d ≠ some .done)
    (hd' : b.phase d' ≠ some .done) (hdone : b'.phase d = some .done)
    (hdone' : b'.phase d' = some .done) : d = d' := by
  -- Only the finished task of a finishing step becomes done.
  cases h with
  | enter new hfresh hold hblocked hkept hadded =>
    by_cases hnew : d ∈ new
    · rcases hblocked d hnew with ⟨hphase, -⟩ | ⟨hphase, -⟩ <;> rw [hphase] at hdone <;> cases hdone
    · rw [hold d hnew] at hdone
      exact absurd hdone hd
  | work hneeds hphase =>
    rcases hphase d with hsame | ⟨-, hdead⟩
    · rw [hsame] at hdone
      exact absurd hdone hd
    · rw [hdead] at hdone
      cases hdone
  | finish t hfree hneeds _ hreleased hkept =>
    have finished : ∀ z, b.phase z ≠ some .done → b'.phase z = some .done → z = t := by
      intro z hz hz'
      by_contra hzt
      by_cases hrelease : b.ReleasedBy t z
      · rw [hreleased z hrelease] at hz'
        cases hz'
      · rw [hkept z hzt hrelease] at hz'
        exact hz hz'
    rw [finished d hd hdone, finished d' hd' hdone']

/-! ## Coherence -/

/-- A task with an open prerequisite is blocked. -/
theorem Coherent.blocked (h : b.Coherent) (hneeds : b.needs t d) (hd : b.phase d ≠ some .done) :
    b.phase t = some .blocked :=
  (h.blocked_iff t (h.known t d hneeds).1).mpr ⟨d, hneeds, hd⟩

/-- **One step keeps the board coherent.** -/
theorem Coherent.step (h : b.Coherent) (hs : b.Step b') : b'.Coherent := by
  refine ⟨fun t hknown => ?_, fun t d hneeds => ?_⟩
  · cases hs with
    | enter new hfresh hold hblocked hkept hadded =>
      have hs : b.Step b' := .enter new hfresh hold hblocked hkept hadded
      by_cases hnew : t ∈ new
      · rcases hblocked t hnew with ⟨hphase, d, hneeds⟩ | ⟨hphase, hnone⟩
        · -- What a new task needs is new as well, so it is not done.
          refine iff_of_true hphase ⟨d, hneeds, fun hdone => ?_⟩
          rcases hadded t d hneeds with hneeds' | ⟨-, hnew'⟩
          · exact (h.known t d hneeds').1 (hfresh t hnew)
          · rcases hblocked d hnew' with ⟨hphase', -⟩ | ⟨hphase', -⟩ <;> rw [hphase'] at hdone <;>
              cases hdone
        · refine iff_of_false (by rw [hphase]; nofun) ?_
          rintro ⟨d, hneeds, -⟩
          exact hnone d hneeds
      · rw [hold t hnew] at hknown ⊢
        rw [h.blocked_iff t hknown]
        refine exists_congr fun d => ?_
        rw [hs.needs_iff hknown]
        refine and_congr_right fun hneeds => ?_
        have hd : d ∉ new := fun hnew' => (h.known t d hneeds).2 (hfresh d hnew')
        rw [hold d hd]
    | work hneeds hphase =>
      have hsame : ∀ (t : T) (p : Phase), p = .blocked ∨ p = .done →
          (b'.phase t = some p ↔ b.phase t = some p) := by
        intro t p hp
        rcases hphase t with hsame | ⟨hfree, hdead⟩
        · rw [hsame]
        · rw [hfree, hdead]
          rcases hp with rfl | rfl <;> exact iff_of_false nofun nofun
      have hbefore : b.phase t ≠ none := by
        rcases hphase t with hsame | ⟨hfree, -⟩
        · rwa [hsame] at hknown
        · rw [hfree]
          nofun
      rw [hsame t .blocked (Or.inl rfl), h.blocked_iff t hbefore, hneeds]
      refine exists_congr fun d => and_congr_right fun _ => ?_
      rw [ne_eq, ne_eq, hsame d .done (Or.inr rfl)]
    | finish d hfree hneeds hdone hreleased hkept =>
      have hs : b.Step b' := .finish d hfree hneeds hdone hreleased hkept
      have hopen : ∀ x, b'.phase x ≠ some .done → x ≠ d ∧ b.phase x ≠ some .done := fun x hx =>
        ⟨fun hxd => hx (hxd ▸ hdone), fun hx' => hx (hs.done_stays hx')⟩
      by_cases htd : t = d
      · -- The finished task was free, so all it needs is done.
        refine iff_of_false (by rw [htd, hdone]; nofun) ?_
        rintro ⟨x, hx, hxopen⟩
        rw [hneeds] at hx
        have hblocked := h.blocked hx (hopen x hxopen).2
        rw [htd, hfree] at hblocked
        cases hblocked
      · by_cases hrelease : b.ReleasedBy d t
        · refine iff_of_false (by rw [hreleased t hrelease]; nofun) ?_
          rintro ⟨x, hx, hxopen⟩
          rw [hneeds] at hx
          exact (hrelease.2.2 x hx).elim (hopen x hxopen).1 (hopen x hxopen).2
        · rw [hkept t htd hrelease] at hknown ⊢
          rw [h.blocked_iff t hknown, hneeds]
          constructor
          · rintro ⟨x, hx, hxopen⟩
            by_contra hnone
            -- Nothing is open any more, so what was open is the finished task.
            have hall : ∀ y, b.needs t y → b'.phase y = some .done := fun y hy => by
              by_contra hyopen
              exact hnone ⟨y, hy, hyopen⟩
            have hlast : ∀ y, b.needs t y → y = d ∨ b.phase y = some .done := by
              intro y hy
              by_contra hnot
              rw [not_or] at hnot
              exact hnot.1 (hs.done_unique hnot.2 (by rw [hfree]; nofun) (hall y hy) hdone)
            have hxd : x = d := (hlast x hx).resolve_right hxopen
            exact hrelease ⟨h.blocked hx hxopen, hxd ▸ hx, hlast⟩
          · rintro ⟨x, hx, hxopen⟩
            exact ⟨x, hx, (hopen x hxopen).2⟩
  · have hknown : b.needs t d → b'.phase t ≠ none ∧ b'.phase d ≠ none := fun hneeds =>
      (h.known t d hneeds).imp hs.known_stays hs.known_stays
    cases hs with
    | enter new hfresh hold hblocked hkept hadded =>
      have hnewKnown : ∀ x ∈ new, b'.phase x ≠ none := by
        intro x hx
        rcases hblocked x hx with ⟨hphase, -⟩ | ⟨hphase, -⟩ <;> rw [hphase] <;> nofun
      exact (hadded t d hneeds).elim hknown fun ⟨ht, hd⟩ => ⟨hnewKnown t ht, hnewKnown d hd⟩
    | work hsame hphase => exact hknown (hsame ▸ hneeds)
    | finish x hfree hsame hdone hreleased hkept => exact hknown (hsame ▸ hneeds)

/-- **Exactly the last prerequisite releases a task.** -/
theorem Coherent.released_iff (h : b.Coherent) (hs : b.Step b') :
    (b.phase t = some .blocked ∧ b'.phase t ≠ some .blocked) ↔
      ∃ d, b.needs t d ∧ b.phase d ≠ some .done ∧ b'.phase d = some .done
        ∧ ∀ d', b.needs t d' → d' ≠ d → b.phase d' = some .done := by
  have h' := h.step hs
  constructor
  · rintro ⟨hblocked, hreleased⟩
    have hknown : b.phase t ≠ none := by rw [hblocked]; nofun
    have hall : ∀ d, b.needs t d → b'.phase d = some .done := by
      intro d hd
      by_contra hopen
      exact hreleased (h'.blocked (hs.needs_stays hd) hopen)
    obtain ⟨d, hd, hopen⟩ := (h.blocked_iff t hknown).mp hblocked
    refine ⟨d, hd, hopen, hall d hd, fun d' hd' hne => ?_⟩
    by_contra hopen'
    exact hne (hs.done_unique hopen' hopen (hall d' hd') (hall d hd))
  · rintro ⟨d, hd, hopen, hdone, hothers⟩
    have hknown := (h.known t d hd).1
    refine ⟨h.blocked hd hopen, fun hblocked => ?_⟩
    obtain ⟨x, hx, hxopen⟩ := (h'.blocked_iff t (hs.known_stays hknown)).mp hblocked
    rw [hs.needs_iff hknown] at hx
    by_cases hxd : x = d
    · exact hxopen (hxd ▸ hdone)
    · exact hxopen (hs.done_stays (hothers x hx hxd))

/-- A task that needs one that was given up is blocked, and so is what needs it in turn. -/
theorem Coherent.blocked_of_dead (h : b.Coherent) (hneeds : TransGen b.needs t d)
    (hd : b.phase d = some .dead) : b.phase t = some .blocked := by
  induction hneeds using TransGen.head_induction_on with
  | single hneeds => exact h.blocked hneeds (by rw [hd]; nofun)
  | head hneeds _ ih => exact h.blocked hneeds (by rw [ih]; nofun)

/-- **A blocked task waits for one that is free**, with nothing open that it needs, or that was given up, when there
are finitely many below it. -/
theorem Coherent.waits_for (h : b.Coherent) (hacc : Acc (flip b.needs) t) (hblocked : b.phase t = some .blocked) :
    ∃ d, TransGen b.needs t d ∧ (b.phase d = some .free ∨ b.phase d = some .dead)
      ∧ ∀ d', b.needs d d' → b.phase d' = some .done := by
  have hwaits : ∀ t, b.phase t = some .blocked →
      ∃ d, b.needs t d ∧ b.phase d ≠ none ∧ b.phase d ≠ some .done := by
    intro t ht
    obtain ⟨d, hneeds, hd⟩ := (h.blocked_iff t (by rw [ht]; nofun)).mp ht
    exact ⟨d, hneeds, (h.known t d hneeds).2, hd⟩
  obtain ⟨d, hpath, ⟨hknown, hopen⟩, hfree⟩ := exists_not_waiting hwaits hacc hblocked
  refine ⟨d, hpath, ?_, fun d' hneeds => not_not.mp fun hd' => hfree (h.blocked hneeds hd')⟩
  cases hphase : b.phase d with
  | none => exact absurd hphase hknown
  | some phase => cases phase <;> simp_all

/-! ## Runs -/

/-- Every run of a coherent board leads to coherent boards. -/
theorem Coherent.run (h : b.Coherent) (hrun : ReflTransGen Step b b') : b'.Coherent := by
  induction hrun with
  | refl => exact h
  | tail _ hs ih => exact ih.step hs

/-- **What needs a task that was given up waits for ever.** -/
theorem Coherent.waits_forever (h : b.Coherent) (hrun : ReflTransGen Step b b')
    (hneeds : TransGen b.needs t d) (hd : b.phase d = some .dead) : b'.phase t = some .blocked := by
  have hkept : TransGen b'.needs t d ∧ b'.phase d = some .dead := by
    induction hrun with
    | refl => exact ⟨hneeds, hd⟩
    | tail _ hs ih => exact ⟨TransGen.mono (fun _ _ hstep => hs.needs_stays hstep) _ _ ih.1,
        hs.dead_stays ih.2⟩
  exact (h.run hrun).blocked_of_dead hkept.1 hkept.2

end Board

end VentureOS
