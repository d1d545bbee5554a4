import Mathlib.Data.List.Induction

/-! # Machines, runs and histories

A machine reads labels one after the other: `step l s` is what the label `l` makes of the state `s`,
together with the outcome it shows to the outside. Everything a machine does not decide itself
(the caller's arguments, clock readings, random identifiers, the settling of a promise) is part of
the label, so a run is a list of labels and "every reachable state" is "the state after every list
of labels".

`run` is the state a list of labels leads to, `history` the list of steps taken on the way.
`run_induction` and `history_induction` are the invariant rules: what holds initially and is kept by
one step holds after every run. `EachStep` states a condition on every step of a history in terms of
the steps before it. -/

namespace VentureOS

universe u v w

variable {L : Type u} {O : Type v} {S : Type w}

/-- One step of a run: the state it started in, its label, its outcome and the state it left. -/
structure Entry (L : Type u) (O : Type v) (S : Type w) where
  /-- The state before the step. -/
  before : S
  /-- What was asked for. -/
  label : L
  /-- What was answered. -/
  outcome : O
  /-- The state after the step. -/
  after : S

variable (step : L → S → O × S)

/-- The step the machine takes in `s` on the label `l`. -/
def entryAt (s : S) (l : L) : Entry L O S := ⟨s, l, (step l s).1, (step l s).2⟩

/-- The state a list of labels leads to. -/
def run (s : S) (ls : List L) : S := ls.foldl (fun s l => (step l s).2) s

/-- The steps a list of labels makes the machine take, oldest first. -/
def history (s : S) : List L → List (Entry L O S)
  | [] => []
  | l :: ls => entryAt step s l :: history (step l s).2 ls

@[simp] theorem run_cons (s : S) (l : L) (ls : List L) :
    run step s (l :: ls) = run step (step l s).2 ls := rfl

@[simp] theorem run_concat (s : S) (ls : List L) (l : L) :
    run step s (ls ++ [l]) = (step l (run step s ls)).2 := by
  simp [run]

/-- A run in two parts. -/
theorem run_append (s : S) (ls ls' : List L) :
    run step s (ls ++ ls') = run step (run step s ls) ls' := by
  simp [run]

@[simp] theorem history_concat (s : S) (ls : List L) (l : L) :
    history step s (ls ++ [l]) = history step s ls ++ [entryAt step (run step s ls) l] := by
  induction ls generalizing s with
  | nil => rfl
  | cons l' ls ih => simp [history, ih]

/-- The history of a run in two parts. -/
theorem history_append (s : S) (ls ls' : List L) :
    history step s (ls ++ ls') = history step s ls ++ history step (run step s ls) ls' := by
  induction ls generalizing s with
  | nil => rfl
  | cons l ls ih => simp [history, ih]

/-- Every step of a history is a step of the machine. -/
theorem eq_entryAt_of_mem_history {s : S} {ls : List L} {e : Entry L O S}
    (h : e ∈ history step s ls) :
    ∃ pre l post, ls = pre ++ l :: post ∧ e = entryAt step (run step s pre) l := by
  induction ls generalizing s with
  | nil => cases h
  | cons l ls ih =>
    rcases List.mem_cons.mp h with rfl | h
    · exact ⟨[], l, ls, rfl, rfl⟩
    · obtain ⟨pre, l', post, rfl, he⟩ := ih h
      exact ⟨l :: pre, l', post, rfl, he⟩

/-- **Invariant rule.** What holds initially and is kept by every step from a state of the run holds
after every run. -/
theorem run_induction {P : S → Prop} {s : S} (init : P s)
    (next : ∀ pre l, P (run step s pre) → P (step l (run step s pre)).2) (ls : List L) :
    P (run step s ls) := by
  induction ls using List.reverseRecOn with
  | nil => exact init
  | append_singleton ls l ih =>
    rw [run_concat]
    exact next ls l ih

/-- **Invariant rule with history.** A relation between the steps taken and the state reached that
holds initially and is kept by every step from a state of the run holds after every run. -/
theorem history_induction {P : List (Entry L O S) → S → Prop} {s : S} (init : P [] s)
    (next : ∀ pre l, P (history step s pre) (run step s pre) →
      P (history step s pre ++ [entryAt step (run step s pre) l]) (step l (run step s pre)).2)
    (ls : List L) : P (history step s ls) (run step s ls) := by
  induction ls using List.reverseRecOn with
  | nil => exact init
  | append_singleton ls l ih =>
    rw [history_concat, run_concat]
    exact next ls l ih

/-- **What comes to hold in a run comes to hold in one of its steps.** -/
theorem exists_step_of_run {P : S → Prop} {s : S} {ls : List L} (init : ¬ P s)
    (h : P (run step s ls)) :
    ∃ pre l post, ls = pre ++ l :: post ∧ ¬ P (run step s pre) ∧ P (step l (run step s pre)).2 := by
  induction ls using List.reverseRecOn with
  | nil => exact absurd h init
  | append_singleton ls l ih =>
    by_cases hbefore : P (run step s ls)
    · obtain ⟨pre, l', post, rfl, hnot, hstep⟩ := ih hbefore
      exact ⟨pre, l', post ++ [l], by simp, hnot, hstep⟩
    · rw [run_concat] at h
      exact ⟨ls, l, [], rfl, hbefore, h⟩

/-! ## Conditions on the steps of a history -/

section Conditions

variable {α : Type u} (C : List α → α → Prop)

/-- Every step meets the condition `C` after the steps before it: those of `past` and those that
precede it in the list. -/
def EachStep : List α → List α → Prop
  | _, [] => True
  | past, e :: rest => C past e ∧ EachStep (past ++ [e]) rest

instance EachStep.decidable [∀ past e, Decidable (C past e)] :
    ∀ past steps, Decidable (EachStep C past steps)
  | _, [] => instDecidableTrue
  | past, e :: rest =>
    @instDecidableAnd _ _ inferInstance (EachStep.decidable (past ++ [e]) rest)

/-- The last step meets the condition after all others. -/
theorem eachStep_concat {past steps : List α} {e : α} :
    EachStep C past (steps ++ [e]) ↔ EachStep C past steps ∧ C (past ++ steps) e := by
  induction steps generalizing past with
  | nil => simp [EachStep]
  | cons e' steps ih => simp [EachStep, ih, and_assoc]

end Conditions

/-- A condition on every step of a history is one on the steps after every list of labels on the way. -/
theorem eachStep_history {C : List (Entry L O S) → Entry L O S → Prop} {s : S} {ls : List L} :
    EachStep C [] (history step s ls) ↔ ∀ pre l post, ls = pre ++ l :: post →
      C (history step s pre) (entryAt step (run step s pre) l) := by
  induction ls using List.reverseRecOn with
  | nil => simp [history, EachStep]
  | append_singleton ls l ih =>
    rw [history_concat, eachStep_concat, ih, List.nil_append]
    constructor
    · rintro ⟨hbefore, hlast⟩ pre l' post hsplit
      rcases List.eq_nil_or_concat post with rfl | ⟨post', l'', rfl⟩
      · obtain ⟨rfl, hl⟩ := List.append_inj' hsplit rfl
        obtain rfl := (List.cons.inj hl).1
        exact hlast
      · rw [List.concat_eq_append, ← List.cons_append, ← List.append_assoc] at hsplit
        exact hbefore pre l' post' (List.append_inj' hsplit rfl).1
    · intro hall
      refine ⟨fun pre l' post hsplit => ?_, hall ls l [] rfl⟩
      exact hall pre l' (post ++ [l]) (by rw [hsplit, List.append_assoc, List.cons_append])

end VentureOS
