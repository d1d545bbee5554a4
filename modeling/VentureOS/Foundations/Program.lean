import Mathlib.Data.List.Forall2

/-! # Programs that read and write a state and may throw

A method of a JavaScript class reads and writes fields, calls other methods and may throw; a throw
leaves every write made before it in place. `Program ε S α` is such a method, `exec` runs it, and
`Ensures x s Q` says that running `x` in `s` ends in an outcome and a state related by `Q`. The
rules `ensures_*` compute `Ensures` along the syntax of a `do` block, so a method's specification is
reduced to its checks and its writes.

Checks that only read are plain `Except` values; `throwIf`, `someThrowing`, `filterThrowing` and
`List.forM` are the shapes they take, each with the lemma that inverts a successful run. -/

namespace VentureOS

/-- A program over the state `S` that may throw an `ε`; writes made before a throw persist. -/
abbrev Program (ε S α : Type) := ExceptT ε (StateM S) α

variable {ε S α β : Type}

variable {l : List α}

variable {x : Program ε S α} {f : α → Program ε S β}

namespace Program

/-- Run a program: what it returned or threw, and the state it left. -/
def exec (x : Program ε S α) (s : S) : Except ε α × S := x.run.run s

/-- Running `x` in `s` ends in an outcome and a state related by `Q`. -/
def Ensures (x : Program ε S α) (s : S) (Q : Except ε α → S → Prop) : Prop :=
  Q (x.exec s).1 (x.exec s).2

/-- What a program does after a successful or throwing prefix. -/
theorem exec_bind (x : Program ε S α) (f : α → Program ε S β) (s : S) :
    (x >>= f).exec s =
      match (x.exec s).1 with
      | .ok a => (f a).exec (x.exec s).2
      | .error e => (.error e, (x.exec s).2) := by
  show (ExceptT.bindCont f (x.exec s).1).run (x.exec s).2 = _
  cases (x.exec s).1 <;> rfl

@[simp] theorem ensures_pure (a : α) (s : S) (Q : Except ε α → S → Prop) :
    Ensures (pure a) s Q ↔ Q (.ok a) s := Iff.rfl

@[simp] theorem ensures_throw (e : ε) (s : S) (Q : Except ε α → S → Prop) :
    Ensures (throw e) s Q ↔ Q (.error e) s := Iff.rfl

@[simp] theorem ensures_lift (x : Except ε α) (s : S) (Q : Except ε α → S → Prop) :
    Ensures (liftM x) s Q ↔ Q x s := Iff.rfl

@[simp] theorem ensures_get (s : S) (Q : Except ε S → S → Prop) :
    Ensures get s Q ↔ Q (.ok s) s := Iff.rfl

@[simp] theorem ensures_set (s t : S) (Q : Except ε PUnit → S → Prop) :
    Ensures (set t) s Q ↔ Q (.ok ⟨⟩) t := Iff.rfl

@[simp] theorem ensures_modify (f : S → S) (s : S) (Q : Except ε PUnit → S → Prop) :
    Ensures (modify f) s Q ↔ Q (.ok ⟨⟩) (f s) := Iff.rfl

@[simp] theorem ensures_true (x : Program ε S α) (s : S) : Ensures x s (fun _ _ => True) := trivial

/-- Sequencing: the continuation runs where the prefix returned, a throw ends the program. -/
theorem ensures_bind (x : Program ε S α) (f : α → Program ε S β) (s : S)
    (Q : Except ε β → S → Prop) :
    Ensures (x >>= f) s Q ↔
      Ensures x s (fun r s' => match r with
        | .ok a => Ensures (f a) s' Q
        | .error e => Q (.error e) s') := by
  simp only [Ensures, exec_bind]
  cases (x.exec s).1 <;> rfl

/-- Sequencing after a check: a failed check ends the program where it was started. -/
theorem ensures_lift_bind (x : Except ε α) (f : α → Program ε S β) (s : S)
    (Q : Except ε β → S → Prop) :
    Ensures (liftM x >>= f) s Q ↔
      (∀ e, x = .error e → Q (.error e) s) ∧ ∀ a, x = .ok a → Ensures (f a) s Q := by
  rw [ensures_bind, ensures_lift]
  cases x <;> simp

/-- Binding an outcome that is a value. -/
theorem ensures_ok_bind (a : α) (f : α → Program ε S β) (s : S) (Q : Except ε β → S → Prop) :
    Ensures (liftM (Except.ok a : Except ε α) >>= f) s Q ↔ Ensures (f a) s Q := by
  rw [ensures_lift_bind]
  simp

/-- Reading the state. -/
theorem ensures_get_bind (f : S → Program ε S β) (s : S) (Q : Except ε β → S → Prop) :
    Ensures (get >>= f) s Q ↔ Ensures (f s) s Q := by
  rw [ensures_bind, ensures_get]

/-- Answering with a value after a program. -/
theorem ensures_bind_pure {f : α → β} {s : S} {Q : Except ε β → S → Prop} :
    Ensures (do let a ← x; return f a) s Q ↔
      Ensures x s (fun r s' => match r with
        | .ok a => Q (.ok (f a)) s'
        | .error e => Q (.error e) s') := by
  simp only [Ensures, exec_bind]
  cases (x.exec s).1 <;> rfl

/-- What a program with a handler does. -/
theorem exec_tryCatch (x : Program ε S α) (h : ε → Program ε S α) (s : S) :
    (tryCatch x h : Program ε S α).exec s =
      match (x.exec s).1 with
      | .ok a => (.ok a, (x.exec s).2)
      | .error e => (h e).exec (x.exec s).2 := by
  show (match (x.exec s).1 with
    | .ok a => pure (.ok a)
    | .error e => (h e).run : StateM S (Except ε α)) (x.exec s).2 = _
  cases (x.exec s).1 <;> rfl

/-- A handler runs in the state the throwing program left. -/
theorem ensures_tryCatch (x : Program ε S α) (h : ε → Program ε S α) (s : S)
    (Q : Except ε α → S → Prop) :
    Ensures (tryCatch x h) s Q ↔
      Ensures x s (fun r s' => match r with
        | .ok a => Q (.ok a) s'
        | .error e => Ensures (h e) s' Q) := by
  simp only [Ensures, exec_tryCatch]
  cases (x.exec s).1 <;> rfl

/-- A specification may be weakened. -/
theorem Ensures.mono {x : Program ε S α} {s : S} {Q Q' : Except ε α → S → Prop}
    (h : Ensures x s Q) (hQ : ∀ r s', Q r s' → Q' r s') : Ensures x s Q' :=
  hQ _ _ h

/-- Two specifications of one program hold together. -/
theorem Ensures.and {s : S} {Q Q' : Except ε α → S → Prop}
    (h : Ensures x s Q) (h' : Ensures x s Q') : Ensures x s (fun r s' => Q r s' ∧ Q' r s') :=
  ⟨h, h'⟩

/-! ## Parts of the state -/

section Focus

variable {T : Type} (part : S → T) (replace : S → T → S)

/-- Run a program on a part of the state. What it wrote stays written when it throws. -/
def focus (x : Program ε T α) : Program ε S α := do
  let s ← get
  set (replace s (x.exec (part s)).2)
  (x.exec (part s)).1

@[simp] theorem ensures_focus (x : Program ε T α) (s : S) (Q : Except ε α → S → Prop) :
    Ensures (focus part replace x) s Q ↔ Ensures x (part s) (fun r t => Q r (replace s t)) := by
  unfold focus
  rw [ensures_get_bind, ensures_bind, ensures_set]
  simp only [ensures_lift]
  exact Iff.rfl

end Focus

/-! ## Loops -/

/-- **Loop rule.** If `I` holds with nothing done, every iteration takes it from the items done to
one item more, and a throw of an iteration ends in `E`, then the loop ends with all items done, or
throws in `E`. -/
theorem ensures_forM {f : α → Program ε S PUnit} {I : List α → S → Prop} {E : ε → S → Prop}
    (next : ∀ done a rest, done ++ a :: rest = l → ∀ s, I done s →
      Ensures (f a) s (fun r s' => match r with
        | .ok _ => I (done ++ [a]) s'
        | .error e => E e s'))
    {s : S} (init : I [] s) :
    Ensures (forM l f) s (fun r s' => match r with
      | .ok _ => I l s'
      | .error e => E e s') := by
  -- The invariant is carried over every split of the list into items done and items left.
  suffices h : ∀ rest done s, done ++ rest = l → I done s →
      Ensures (forM rest f) s (fun r s' => match r with
        | .ok _ => I l s'
        | .error e => E e s') from h l [] s rfl init
  intro rest
  induction rest with
  | nil =>
    intro done s hl hI
    rw [List.append_nil] at hl
    simpa [hl] using hI
  | cons a rest ih =>
    intro done s hl hI
    rw [List.forM_cons, ensures_bind]
    refine (next done a rest hl s hI).mono fun r s' hr => ?_
    cases r with
    | error e => exact hr
    | ok u => exact ih (done ++ [a]) s' (by simpa using hl) hr

/-! ## Relations kept -/

section Along

variable {R : S → S → Prop}

/-- Whatever its outcome, the program leads from every state to one that `R` relates it to. -/
def Along (R : S → S → Prop) (x : Program ε S α) : Prop := ∀ s, Ensures x s (fun _ s' => R s s')

theorem Along.pure (refl : ∀ s, R s s) (a : α) : Along R (pure a : Program ε S α) := refl

/-- A check. -/
theorem Along.lift (refl : ∀ s, R s s) (x : Except ε α) : Along R (liftM x : Program ε S α) := refl

theorem Along.throw (refl : ∀ s, R s s) (e : ε) : Along R (throw e : Program ε S α) := refl

/-- Reading the state, and going on with what was read. -/
theorem Along.get_bind {f : S → Program ε S α} (hf : ∀ s, Ensures (f s) s fun _ s' => R s s') :
    Along R (get >>= f) := by
  intro s
  rw [ensures_get_bind]
  exact hf s

/-- One program after another. -/
theorem Along.bind (trans : ∀ s s' s'', R s s' → R s' s'' → R s s'')
    (hx : Along R x) (hf : ∀ a, Along R (f a)) : Along R (x >>= f) := by
  intro s
  rw [ensures_bind]
  refine (hx s).mono fun r s' hs => ?_
  cases r with
  | error e => exact hs
  | ok a => exact (hf a s').mono fun _ s'' hs' => trans _ _ _ hs hs'

/-- A loop of programs. -/
theorem Along.forM (refl : ∀ s, R s s) (trans : ∀ s s' s'', R s s' → R s' s'' → R s s'')
    {f : α → Program ε S PUnit} (hf : ∀ a, Along R (f a)) (l : List α) : Along R (forM l f) := by
  induction l with
  | nil => exact Along.pure refl PUnit.unit
  | cons a l ih =>
    rw [List.forM_cons]
    exact (hf a).bind trans fun _ => ih

end Along

/-! ## Values returned -/

section Returns

variable {P : β → Prop}

/-- Whatever the program returns, from whatever state, meets `P`. -/
def Returns (x : Program ε S β) (P : β → Prop) : Prop :=
  ∀ s, Ensures x s (fun r _ => ∀ b, r = .ok b → P b)

theorem Returns.pure {b : β} (h : P b) : Returns (pure b : Program ε S β) P := by
  intro s b' hb
  exact Except.ok.inj hb ▸ h

/-- What a program returns, its last part does. -/
theorem Returns.bind (hf : ∀ a, Returns (f a) P) : Returns (x >>= f) P := by
  intro s
  rw [ensures_bind]
  unfold Ensures
  cases (x.exec s).1 with
  | error e =>
    intro b hb
    cases hb
  | ok a => exact hf a _

/-- After a check the program goes on only if it was passed. -/
theorem Returns.lift_bind {x : Except ε α}
    (hf : ∀ a, x = .ok a → Returns (f a) P) : Returns (liftM x >>= f) P := by
  intro s
  rw [ensures_lift_bind]
  refine ⟨fun e _ b hb => ?_, fun a ha => hf a ha s⟩
  cases hb

end Returns

/-- A loop over the items that each item stands for is a loop of loops. -/
theorem forM_flatMap {f : β → Program ε S PUnit} {g : α → List β} :
    forM (l.flatMap g) f = forM l fun a => forM (g a) f := by
  induction l with
  | nil => rfl
  | cons a l ih => rw [List.flatMap_cons, List.forM_append, List.forM_cons, ih]

end Program

/-! ## Checks -/

/-- Throw `e` when `c` holds. -/
def throwIf (c : Prop) [Decidable c] (e : ε) : Except ε Unit := if c then .error e else .ok ()

@[simp] theorem throwIf_eq_ok {c : Prop} [Decidable c] {e : ε} {u : Unit} :
    throwIf c e = .ok u ↔ ¬ c := by
  unfold throwIf; split <;> simp_all

@[simp] theorem throwIf_eq_error {c : Prop} [Decidable c] {e e' : ε} :
    throwIf c e = .error e' ↔ c ∧ e = e' := by
  unfold throwIf; split <;> simp_all

/-- A sequence of checks succeeds iff each part does. -/
@[simp] theorem except_bind_eq_ok {x : Except ε α} {f : α → Except ε β} {b : β} :
    (x >>= f) = .ok b ↔ ∃ a, x = .ok a ∧ f a = .ok b := by
  cases x <;> simp [bind, Except.bind]

/-- A check in front of a computation. -/
theorem check_bind_eq_ok {x : Except ε Unit} {f : Unit → Except ε β} {b : β} :
    (x >>= f) = .ok b ↔ x = .ok () ∧ f () = .ok b := by
  cases x <;> simp [bind, Except.bind]

@[simp] theorem except_pure_eq_ok {a b : α} : (pure a : Except ε α) = .ok b ↔ a = b := by
  simp [pure, Except.pure]

theorem except_toOption_eq_some {x : Except ε α} {a : α} : x.toOption = some a ↔ x = .ok a := by
  cases x <;> simp [Except.toOption]

/-- `list.some(p)` for a test that may throw: the first success decides, a throw before it ends. -/
def someThrowing (p : α → Except ε Bool) : List α → Except ε Bool
  | [] => .ok false
  | a :: as => do
    if ← p a then return true
    someThrowing p as

/-- A successful `some` has a witness. -/
theorem exists_of_someThrowing {p : α → Except ε Bool}
    (h : someThrowing p l = .ok true) : ∃ a ∈ l, p a = .ok true := by
  induction l with
  | nil => cases h
  | cons a as ih =>
    rw [someThrowing, except_bind_eq_ok] at h
    obtain ⟨b, hb, hrest⟩ := h
    cases b with
    | true => exact ⟨a, List.mem_cons_self, hb⟩
    | false =>
      obtain ⟨a', ha', hp⟩ := ih hrest
      exact ⟨a', List.mem_cons_of_mem a ha', hp⟩

/-- `list.filter(p)` for a test that may throw. -/
def filterThrowing (p : α → Except ε Bool) : List α → Except ε (List α)
  | [] => .ok []
  | a :: as => do
    let keep ← p a
    let rest ← filterThrowing p as
    return if keep then a :: rest else rest

/-- What a successful `filter` keeps passes the test. -/
theorem mem_of_filterThrowing {p : α → Except ε Bool} {kept : List α}
    (h : filterThrowing p l = .ok kept) : ∀ a ∈ kept, a ∈ l ∧ p a = .ok true := by
  induction l generalizing kept with
  | nil =>
    intro a ha
    cases h; cases ha
  | cons a₀ as ih =>
    rw [filterThrowing, except_bind_eq_ok] at h
    obtain ⟨keep, hkeep, h⟩ := h
    obtain ⟨rest, hrest, h⟩ := except_bind_eq_ok.mp h
    rw [except_pure_eq_ok] at h
    intro a ha
    cases keep with
    | false =>
      obtain ⟨hmem, hp⟩ := ih hrest a (by simpa [← h] using ha)
      exact ⟨List.mem_cons_of_mem a₀ hmem, hp⟩
    | true =>
      rw [← h, if_pos rfl] at ha
      rcases List.mem_cons.mp ha with rfl | ha
      · exact ⟨List.mem_cons_self, hkeep⟩
      · obtain ⟨hmem, hp⟩ := ih hrest a ha
        exact ⟨List.mem_cons_of_mem a₀ hmem, hp⟩

/-- A loop of checks succeeds iff every iteration does. -/
@[simp] theorem forM_eq_ok {f : α → Except ε Unit} {u : Unit} :
    forM l f = .ok u ↔ ∀ a ∈ l, f a = .ok () := by
  induction l with
  | nil => simp [pure, Except.pure]
  | cons a as ih =>
    rw [List.forM_cons, except_bind_eq_ok, List.forall_mem_cons, ih]
    exact ⟨fun ⟨_, ha, has⟩ => ⟨ha, has⟩, fun ⟨ha, has⟩ => ⟨(), ha, has⟩⟩

/-- Mapping with a function that may throw succeeds iff it does on every item. -/
theorem mapM_eq_ok {f : α → Except ε β} {bs : List β} :
    l.mapM f = .ok bs ↔ List.Forall₂ (fun a b => f a = .ok b) l bs := by
  induction l generalizing bs with
  | nil =>
    rw [List.mapM_nil, except_pure_eq_ok]
    constructor
    · rintro rfl
      exact List.Forall₂.nil
    · intro h
      cases h
      rfl
  | cons a l ih =>
    rw [List.mapM_cons, except_bind_eq_ok]
    constructor
    · rintro ⟨b, hb, h⟩
      obtain ⟨rest, hrest, h⟩ := except_bind_eq_ok.mp h
      rw [except_pure_eq_ok] at h
      rw [← h]
      exact List.Forall₂.cons hb (ih.mp hrest)
    · intro h
      obtain ⟨b, rest, hb, hrest, rfl⟩ := List.forall₂_cons_left_iff.mp h
      refine ⟨b, hb, ?_⟩
      rw [except_bind_eq_ok]
      exact ⟨rest, ih.mpr hrest, rfl⟩

/-- Mapping with a function that succeeds on every item succeeds. -/
theorem exists_mapM_eq_ok {f : α → Except ε β} (h : ∀ a ∈ l, ∃ b, f a = .ok b) :
    ∃ bs, l.mapM f = .ok bs := by
  induction l with
  | nil => exact ⟨[], rfl⟩
  | cons a l ih =>
    obtain ⟨b, hb⟩ := h a List.mem_cons_self
    obtain ⟨bs, hbs⟩ := ih fun a' ha' => h a' (List.mem_cons_of_mem _ ha')
    exact ⟨b :: bs, mapM_eq_ok.mpr (List.Forall₂.cons hb (mapM_eq_ok.mp hbs))⟩

end VentureOS
