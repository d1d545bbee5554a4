import VentureOS.Foundations.Program

/-! # Two runs of a program side by side

A property such as "what is computed depends on a part of the state only" is about two runs.
`Coupled E R x s y t` relates a run of `x` from `s` with a run of `y` from `t`: either both throw the
same error or both return, with values related by `E`, and the states they leave are related by `R`.
The rules follow the syntax of a `do` block like the rules of `Ensures`: programs are walked through
in lockstep, and only reads and writes of the state need an argument. -/

namespace VentureOS

namespace Program

variable {ε S α β α' β' : Type}

/-- Both throw the same error, or both return related values. -/
def Outcomes (E : α → β → Prop) : Except ε α → Except ε β → Prop
  | .ok a, .ok b => E a b
  | .error e, .error e' => e = e'
  | _, _ => False

/-- Equal outcomes are related by equality. -/
theorem outcomes_eq_iff {x y : Except ε α} : Outcomes Eq x y ↔ x = y := by
  cases x with
  | ok a => cases y <;> simp [Outcomes]
  | error e => cases y <;> simp [Outcomes]

/-- Related outcomes are two returned values or one error. -/
theorem Outcomes.cases {E : α → β → Prop} {x : Except ε α} {y : Except ε β} (h : Outcomes E x y) :
    (∃ a b, x = .ok a ∧ y = .ok b ∧ E a b) ∨ ∃ e, x = .error e ∧ y = .error e := by
  cases x with
  | ok a =>
    cases y with
    | ok b => exact .inl ⟨a, b, rfl, rfl, h⟩
    | error e => exact absurd h id
  | error e =>
    cases y with
    | ok b => exact absurd h id
    | error e' =>
      obtain rfl : e = e' := h
      exact .inr ⟨e, rfl, rfl⟩

/-- The runs of `x` from `s` and of `y` from `t` end alike. -/
def Coupled (E : α → β → Prop) (R : S → S → Prop) (x : Program ε S α) (s : S) (y : Program ε S β)
    (t : S) : Prop :=
  Outcomes E (x.exec s).1 (y.exec t).1 ∧ R (x.exec s).2 (y.exec t).2

variable {E : α → β → Prop} {E' : α' → β' → Prop} {R : S → S → Prop} {s t : S}

theorem coupled_pure {a : α} {b : β} (hE : E a b) (hR : R s t) :
    Coupled E R (pure a : Program ε S α) s (pure b) t :=
  ⟨hE, hR⟩

theorem coupled_throw {e : ε} (hR : R s t) :
    Coupled E R (throw e : Program ε S α) s (throw e) t :=
  ⟨rfl, hR⟩

/-- A check with the same outcome on both sides. -/
theorem coupled_lift {x y : Except ε α} (h : x = y) (hR : R s t) :
    Coupled Eq R (liftM x : Program ε S α) s (liftM y) t :=
  ⟨outcomes_eq_iff.mpr h, hR⟩

theorem coupled_modify {f g : S → S} (hR : R (f s) (g t)) :
    Coupled (fun _ _ => True) R (modify f : Program ε S PUnit) s (modify g) t :=
  ⟨trivial, hR⟩

/-- **Sequencing.** The continuations are coupled wherever the prefixes may have returned. -/
theorem coupled_bind {x : Program ε S α} {y : Program ε S β} {f : α → Program ε S α'}
    {g : β → Program ε S β'} (h : Coupled E R x s y t)
    (hfg : ∀ a b s' t', E a b → R s' t' → Coupled E' R (f a) s' (g b) t') :
    Coupled E' R (x >>= f) s (y >>= g) t := by
  obtain ⟨hout, hstate⟩ := h
  unfold Coupled
  rw [exec_bind, exec_bind]
  rcases hout.cases with ⟨a, b, hx, hy, hab⟩ | ⟨e, hx, hy⟩
  · rw [hx, hy]
    exact hfg a b _ _ hab hstate
  · rw [hx, hy]
    exact ⟨rfl, hstate⟩

/-- Sequencing after a check with the same outcome on both sides. -/
theorem coupled_lift_bind {x y : Except ε α} {f : α → Program ε S α'} {g : α → Program ε S β'}
    (h : x = y) (hR : R s t) (hfg : ∀ a, x = .ok a → Coupled E' R (f a) s (g a) t) :
    Coupled E' R (liftM x >>= f) s (liftM y >>= g) t := by
  subst h
  unfold Coupled
  rw [exec_bind, exec_bind]
  cases x with
  | ok a => exact hfg a rfl
  | error e => exact ⟨rfl, hR⟩

/-- Reading the two states. -/
theorem coupled_get_bind {f : S → Program ε S α'} {g : S → Program ε S β'}
    (h : Coupled E' R (f s) s (g t) t) : Coupled E' R (get >>= f) s (get >>= g) t := by
  unfold Coupled
  rw [exec_bind, exec_bind]
  exact h

/-- **Handlers.** They run on equal errors, in the states the bodies left. -/
theorem coupled_tryCatch {x y : Program ε S α} {f g : ε → Program ε S α} {E : α → α → Prop}
    (h : Coupled E R x s y t) (hfg : ∀ e s' t', R s' t' → Coupled E R (f e) s' (g e) t') :
    Coupled E R (tryCatch x f) s (tryCatch y g) t := by
  obtain ⟨hout, hstate⟩ := h
  unfold Coupled
  rw [exec_tryCatch, exec_tryCatch]
  rcases hout.cases with ⟨a, b, hx, hy, hab⟩ | ⟨e, hx, hy⟩
  · rw [hx, hy]
    exact ⟨hab, hstate⟩
  · rw [hx, hy]
    exact hfg e _ _ hstate

/-- The relation of the returned values may be weakened. -/
theorem Coupled.mono {x : Program ε S α} {y : Program ε S β} {E' : α → β → Prop}
    (h : Coupled E R x s y t) (hE : ∀ a b, E a b → E' a b) : Coupled E' R x s y t := by
  obtain ⟨hout, hstate⟩ := h
  refine ⟨?_, hstate⟩
  rcases hout.cases with ⟨a, b, hx, hy, hab⟩ | ⟨e, hx, hy⟩
  · rw [hx, hy]
    exact hE a b hab
  · rw [hx, hy]
    rfl

end Program

/-! ## Checks on two states -/

variable {ε α β : Type}

/-- Two sequences of checks agree if their prefixes do and the rests agree on what was returned. -/
theorem except_bind_congr {x y : Except ε α} {f g : α → Except ε β} (h : x = y)
    (hfg : ∀ a, x = .ok a → f a = g a) : x >>= f = y >>= g := by
  subst h
  cases x with
  | ok a => exact hfg a rfl
  | error e => rfl

/-- Loops of checks agree if every iteration does. -/
theorem forM_congr {l : List α} {f g : α → Except ε Unit} (h : ∀ a ∈ l, f a = g a) :
    forM l f = forM l g := by
  induction l with
  | nil => rfl
  | cons a as ih =>
    rw [List.forM_cons, List.forM_cons, h a List.mem_cons_self]
    exact except_bind_congr rfl fun _ _ => ih fun b hb => h b (List.mem_cons_of_mem a hb)

/-- `some` skips what its test always refuses. -/
theorem someThrowing_filter {p : α → Except ε Bool} {q : α → Bool}
    (h : ∀ a, q a = false → p a = .ok false) (l : List α) :
    someThrowing p (l.filter q) = someThrowing p l := by
  induction l with
  | nil => rfl
  | cons a as ih =>
    by_cases hq : q a = true
    · rw [List.filter_cons_of_pos hq, someThrowing, someThrowing, ih]
    · rw [List.filter_cons_of_neg hq, ih, someThrowing, h a (Bool.eq_false_iff.mpr hq)]
      rfl

/-- `filter` skips what its test always refuses. -/
theorem filterThrowing_filter {p : α → Except ε Bool} {q : α → Bool}
    (h : ∀ a, q a = false → p a = .ok false) (l : List α) :
    filterThrowing p (l.filter q) = filterThrowing p l := by
  induction l with
  | nil => rfl
  | cons a as ih =>
    by_cases hq : q a = true
    · rw [List.filter_cons_of_pos hq, filterThrowing, filterThrowing, ih]
    · rw [List.filter_cons_of_neg hq, ih, filterThrowing, h a (Bool.eq_false_iff.mpr hq)]
      cases filterThrowing p as <;> rfl

end VentureOS
