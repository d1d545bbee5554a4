import Mathlib.Algebra.Order.Ring.Nat
import Mathlib.Algebra.Order.BigOperators.Group.List
import VentureOS.Foundations.Machine

/-! # Interleaved calls

Calls of asynchronous functions share a state. A call runs without interruption from its start to the first
point at which it waits, and from there, each time it is resumed, to the next such point; in between, other calls
run. A `CallSystem` says what a start and a resumption do to the shared state and to the call, and what they
show; a `Pool` is the shared state with all calls that were started. Every interleaving is a run of `step`.

Three rules carry properties of single pieces to every interleaving. `invariant` is for what holds of the shared
state and of each call by itself: a piece has to keep what the other calls rely on. `accounting` is for what is
bought and spent: what a call shows is paid for by its weight, or at the time. `held` is for what the shared state
has of a resource: no more than the calls hold. `EachResume` restricts a run to the resumptions that meet a
condition; `invariant_where` and `held` are rules for such runs. -/

namespace VentureOS

universe u v w x y

/-- How calls start and go on. -/
structure CallSystem (S : Type u) (T : Type v) (A : Type w) (R : Type x) (O : Type y) where
  /-- A call is started with arguments `a`: what is shown, the shared state, and the call. -/
  start : A → S → O × S × T
  /-- A call is resumed with a reply `r`. -/
  resume : R → T → S → O × S × T

/-- The shared state, and the calls in the order in which they were started. -/
structure Pool (S : Type u) (T : Type v) where
  shared : S
  calls : List T

/-- What happens next. -/
inductive Move (A : Type w) (R : Type x) where
  | start (a : A)
  | resume (call : Nat) (r : R)

namespace CallSystem

variable {S : Type u} {T : Type v} {A : Type w} {R : Type x} {O : Type y} (sys : CallSystem S T A R O)

/-- One move. Nothing is shown when there is no such call. -/
def step : Move A R → Pool S T → Option O × Pool S T
  | .start a, p =>
    let r := sys.start a p.shared
    (some r.1, ⟨r.2.1, p.calls ++ [r.2.2]⟩)
  | .resume i r, p =>
    match p.calls[i]? with
    | none => (none, p)
    | some t =>
      let r := sys.resume r t p.shared
      (some r.1, ⟨r.2.1, p.calls.set i r.2.2⟩)

theorem step_resume_of_none {i : Nat} {p : Pool S T} (h : p.calls[i]? = none) (r : R) :
    sys.step (.resume i r) p = (none, p) := by
  simp only [step, h]

theorem step_resume_of_some {i : Nat} {p : Pool S T} {t : T} (h : p.calls[i]? = some t) (r : R) :
    sys.step (.resume i r) p = (some (sys.resume r t p.shared).1,
      ⟨(sys.resume r t p.shared).2.1, p.calls.set i (sys.resume r t p.shared).2.2⟩) := by
  simp only [step, h]

/-- The pool after some moves. -/
def pool (s : S) (moves : List (Move A R)) : Pool S T := run sys.step ⟨s, []⟩ moves

/-- What the moves have shown. -/
def shown (s : S) (moves : List (Move A R)) : List O :=
  (history sys.step ⟨s, []⟩ moves).filterMap fun e => e.outcome

theorem pool_concat (s : S) (moves : List (Move A R)) (move : Move A R) :
    sys.pool s (moves ++ [move]) = (sys.step move (sys.pool s moves)).2 :=
  run_concat _ _ _ _

theorem shown_concat (s : S) (moves : List (Move A R)) (move : Move A R) :
    sys.shown s (moves ++ [move]) = sys.shown s moves ++ (sys.step move (sys.pool s moves)).1.toList := by
  unfold shown pool
  rw [history_concat, List.filterMap_append]
  cases h : (sys.step move (run sys.step ⟨s, []⟩ moves)).1 with
  | none => simp [entryAt, h]
  | some o => simp [entryAt, h]

variable {moves : List (Move A R)} {calls : List T} {s σ σ' : S} {i : Nat} {t t' : T} {r : R} {o : O}
  {ok : R → T → Pool S T → Prop}

/-- A call is started. -/
theorem start_last {a : A} (h : sys.pool s moves = ⟨σ, calls⟩) (hstart : sys.start a σ = (o, σ', t)) :
    sys.shown s (moves ++ [.start a]) = sys.shown s moves ++ [o]
      ∧ sys.pool s (moves ++ [.start a]) = ⟨σ', calls ++ [t]⟩ := by
  rw [shown_concat, pool_concat, h]
  simp only [step, hstart, Option.toList_some, and_self]

/-- A call is resumed. -/
theorem resume_at (h : sys.pool s moves = ⟨σ, calls⟩) (hcall : calls[i]? = some t)
    (hresume : sys.resume r t σ = (o, σ', t')) :
    sys.shown s (moves ++ [.resume i r]) = sys.shown s moves ++ [o]
      ∧ sys.pool s (moves ++ [.resume i r]) = ⟨σ', calls.set i t'⟩ := by
  rw [shown_concat, pool_concat, h, sys.step_resume_of_some hcall, hresume]
  exact ⟨rfl, rfl⟩

/-- The last call is resumed. -/
theorem resume_last (h : sys.pool s moves = ⟨σ, calls ++ [t]⟩) (hresume : sys.resume r t σ = (o, σ', t')) :
    sys.shown s (moves ++ [.resume calls.length r]) = sys.shown s moves ++ [o]
      ∧ sys.pool s (moves ++ [.resume calls.length r]) = ⟨σ', calls ++ [t']⟩ := by
  obtain ⟨hshown, hpool⟩ := sys.resume_at h List.getElem?_concat_length hresume
  rw [List.set_append_right _ _ (Nat.le_refl _), Nat.sub_self] at hpool
  exact ⟨hshown, hpool⟩

/-- Every resumption of a call meets a condition on the reply, the call and the pool that it finds. -/
def EachResumeIn (ok : R → T → Pool S T → Prop) (s : S) (moves : List (Move A R)) : Prop :=
  ∀ e ∈ history sys.step ⟨s, []⟩ moves, ∀ i r t,
    e.label = .resume i r → e.before.calls[i]? = some t → ok r t e.before

theorem eachResumeIn_concat {move : Move A R} :
    sys.EachResumeIn ok s (moves ++ [move]) ↔ sys.EachResumeIn ok s moves
      ∧ ∀ i r t, move = .resume i r → (sys.pool s moves).calls[i]? = some t → ok r t (sys.pool s moves) := by
  unfold EachResumeIn
  rw [history_concat]
  simp only [List.forall_mem_append, List.forall_mem_singleton, entryAt, pool]

/-- Every resumption of a call meets a condition on the reply, the call and the shared state that it finds. -/
def EachResume (ok : R → T → S → Prop) (s : S) (moves : List (Move A R)) : Prop :=
  ∀ e ∈ history sys.step ⟨s, []⟩ moves, ∀ i r t,
    e.label = .resume i r → e.before.calls[i]? = some t → ok r t e.before.shared

theorem eachResume_nil (ok : R → T → S → Prop) (s : S) : sys.EachResume ok s [] :=
  fun _ he => absurd he List.not_mem_nil

theorem eachResume_concat {ok : R → T → S → Prop} {move : Move A R} :
    sys.EachResume ok s (moves ++ [move]) ↔ sys.EachResume ok s moves
      ∧ ∀ i r t, move = .resume i r → (sys.pool s moves).calls[i]? = some t → ok r t (sys.pool s moves).shared :=
  @eachResumeIn_concat _ _ _ _ _ sys _ _ (fun r t p => ok r t p.shared) _

theorem EachResume.start {ok : R → T → S → Prop} {sys : CallSystem S T A R O}
    (h : sys.EachResume ok s moves) (a : A) : sys.EachResume ok s (moves ++ [.start a]) :=
  sys.eachResume_concat.mpr ⟨h, fun _ _ _ hmove => by cases hmove⟩

theorem EachResume.resume {ok : R → T → S → Prop} {s : S} {moves : List (Move A R)} {sys : CallSystem S T A R O}
    (h : sys.EachResume ok s moves) {calls : List T} {i : Nat} {t : T} {r : R}
    (hpool : sys.pool s moves = ⟨σ, calls⟩) (hcall : calls[i]? = some t) (hok : ok r t σ) :
    sys.EachResume ok s (moves ++ [.resume i r]) := by
  refine sys.eachResume_concat.mpr ⟨h, fun i' r' t' hmove hcall' => ?_⟩
  cases hmove
  rw [hpool] at hcall' ⊢
  rw [hcall, Option.some.injEq] at hcall'
  rw [← hcall']
  exact hok

/-- The condition, for one entry of the history. -/
def Meets (ok : R → T → Pool S T → Prop) (e : Entry (Move A R) (Option O) (Pool S T)) : Prop :=
  match e.label with
  | .start _ => True
  | .resume i r => ∀ t ∈ e.before.calls[i]?, ok r t e.before

theorem eachResumeIn_iff :
    sys.EachResumeIn ok s moves ↔ ∀ e ∈ history sys.step ⟨s, []⟩ moves, Meets ok e := by
  refine forall₂_congr fun e _ => ?_
  unfold Meets
  cases hlabel : e.label with
  | start a => exact ⟨fun _ => trivial, fun _ i r t h => by cases h⟩
  | resume i r =>
    refine ⟨fun h t ht => h i r t rfl ht, fun h i' r' t hsame ht => ?_⟩
    cases hsame
    exact h t ht

instance {ok : R → T → Pool S T → Prop} [∀ r t p, Decidable (ok r t p)]
    (e : Entry (Move A R) (Option O) (Pool S T)) : Decidable (Meets ok e) :=
  match h : e.label with
  | .start _ => isTrue (by unfold Meets; rw [h]; trivial)
  | .resume i r => decidable_of_iff (∀ t ∈ e.before.calls[i]?, ok r t e.before) (by unfold Meets; rw [h])

instance {ok : R → T → Pool S T → Prop} [∀ r t p, Decidable (ok r t p)] {s : S} {moves : List (Move A R)} :
    Decidable (sys.EachResumeIn ok s moves) :=
  decidable_of_iff _ (sys.eachResumeIn_iff).symm

instance {ok : R → T → S → Prop} [∀ r t s, Decidable (ok r t s)] {s : S} {moves : List (Move A R)} :
    Decidable (sys.EachResume ok s moves) :=
  inferInstanceAs (Decidable (sys.EachResumeIn (fun r t p => ok r t p.shared) s moves))

/-- **The induction over a run**: what holds of nothing shown and the first pool, and is kept by every start and by every
resumption that meets the condition, holds of what was shown and the pool. -/
theorem induction_where {P : List O → Pool S T → Prop} (init : P [] ⟨s, []⟩)
    (hstart : ∀ os a p, P os p →
      P (os ++ [(sys.start a p.shared).1]) ⟨(sys.start a p.shared).2.1, p.calls ++ [(sys.start a p.shared).2.2]⟩)
    (hresume : ∀ os i r t p, ok r t p → P os p → p.calls[i]? = some t → P (os ++ [(sys.resume r t p.shared).1])
        ⟨(sys.resume r t p.shared).2.1, p.calls.set i (sys.resume r t p.shared).2.2⟩)
    (hmoves : sys.EachResumeIn ok s moves) : P (sys.shown s moves) (sys.pool s moves) := by
  induction moves using List.reverseRecOn with
  | nil => exact init
  | append_singleton moves move ih =>
    obtain ⟨hbefore, hlast⟩ := sys.eachResumeIn_concat.mp hmoves
    have hpool := ih hbefore
    rw [shown_concat, pool_concat]
    generalize sys.pool s moves = p at hlast hpool ⊢
    cases move with
    | start a => exact hstart _ a p hpool
    | resume i r =>
      cases hcall : p.calls[i]? with
      | none =>
        rw [sys.step_resume_of_none hcall, Option.toList_none, List.append_nil]
        exact hpool
      | some t =>
        rw [sys.step_resume_of_some hcall]
        exact hresume _ i r t p (hlast i r t rfl hcall) hpool hcall

theorem eachResumeIn_true (s : S) (moves : List (Move A R)) : sys.EachResumeIn (fun _ _ _ => True) s moves :=
  fun _ _ _ _ _ _ _ => trivial

/-- **The rule for the pools of some runs**: what holds at first, and is kept by every start and by every resumption
that meets the condition, holds of the pool. -/
theorem pool_induction_where {P : Pool S T → Prop} (init : P ⟨s, []⟩)
    (hstart : ∀ a p, P p → P ⟨(sys.start a p.shared).2.1, p.calls ++ [(sys.start a p.shared).2.2]⟩)
    (hresume : ∀ i r t p, ok r t p → P p → p.calls[i]? = some t →
      P ⟨(sys.resume r t p.shared).2.1, p.calls.set i (sys.resume r t p.shared).2.2⟩)
    (hmoves : sys.EachResumeIn ok s moves) : P (sys.pool s moves) :=
  @induction_where _ _ _ _ _ sys _ _ _ (fun _ => P) init (fun _ => hstart) (fun _ => hresume) hmoves

/-- **The invariant rule for some runs**: `I` holds of the shared state, and `L` of it and each call. A piece keeps
`I`, makes `L` hold of its own call, and keeps `L` for the others, when its resumption meets the condition. -/
theorem invariant_where {ok : R → T → S → Prop} {I : S → Prop} {L : S → T → Prop} (init : I s)
    (hstart : ∀ a s, I s → I (sys.start a s).2.1 ∧ L (sys.start a s).2.1 (sys.start a s).2.2
      ∧ ∀ t, L s t → L (sys.start a s).2.1 t)
    (hresume : ∀ r t s, ok r t s → I s → L s t → I (sys.resume r t s).2.1
      ∧ L (sys.resume r t s).2.1 (sys.resume r t s).2.2 ∧ ∀ t', L s t' → L (sys.resume r t s).2.1 t')
    (hmoves : sys.EachResume ok s moves) :
    I (sys.pool s moves).shared ∧ ∀ t ∈ (sys.pool s moves).calls, L (sys.pool s moves).shared t := by
  let P : Pool S T → Prop := fun p => I p.shared ∧ ∀ t ∈ p.calls, L p.shared t
  refine @pool_induction_where _ _ _ _ _ sys _ _ (fun r t p => ok r t p.shared) P
    ⟨init, fun t ht => absurd ht List.not_mem_nil⟩ ?_ ?_ hmoves
  · rintro a p ⟨hshared, hcalls⟩
    obtain ⟨hshared', hnew, hothers⟩ := hstart a p.shared hshared
    refine ⟨hshared', fun t ht => ?_⟩
    rcases List.mem_append.mp ht with hold | hlast
    · exact hothers t (hcalls t hold)
    · rw [List.mem_singleton.mp hlast]
      exact hnew
  · rintro i r t p hok ⟨hshared, hcalls⟩ hcall
    obtain ⟨hshared', hnew, hothers⟩ := hresume r t p.shared hok hshared (hcalls t (List.mem_of_getElem? hcall))
    refine ⟨hshared', fun t' ht' => ?_⟩
    rcases List.mem_or_eq_of_mem_set ht' with hold | rfl
    · exact hothers t' (hcalls t' hold)
    · exact hnew

/-- **The invariant rule**: `I` holds of the shared state, and `L` of it and each call. A piece keeps `I`, makes
`L` hold of its own call, and keeps `L` for the others. -/
theorem invariant {I : S → Prop} {L : S → T → Prop} (init : I s)
    (hstart : ∀ a s, I s → I (sys.start a s).2.1 ∧ L (sys.start a s).2.1 (sys.start a s).2.2
      ∧ ∀ t, L s t → L (sys.start a s).2.1 t)
    (hresume : ∀ r t s, I s → L s t → I (sys.resume r t s).2.1
      ∧ L (sys.resume r t s).2.1 (sys.resume r t s).2.2 ∧ ∀ t', L s t' → L (sys.resume r t s).2.1 t')
    (moves : List (Move A R)) :
    I (sys.pool s moves).shared ∧ ∀ t ∈ (sys.pool s moves).calls, L (sys.pool s moves).shared t :=
  have hall : sys.EachResume (fun _ _ _ => True) s moves := sys.eachResumeIn_true s moves
  sys.invariant_where init hstart (fun r t s _ => hresume r t s) hall

/-- **The rule for pools**: what holds at first and is kept by every start and every resumption holds of every pool. -/
theorem pool_induction {P : Pool S T → Prop} {s : S} (init : P ⟨s, []⟩)
    (hstart : ∀ a p, P p → P ⟨(sys.start a p.shared).2.1, p.calls ++ [(sys.start a p.shared).2.2]⟩)
    (hresume : ∀ i r t p, P p → p.calls[i]? = some t →
      P ⟨(sys.resume r t p.shared).2.1, p.calls.set i (sys.resume r t p.shared).2.2⟩)
    (moves : List (Move A R)) : P (sys.pool s moves) :=
  sys.pool_induction_where init hstart (fun i r t p _ => hresume i r t p) (sys.eachResumeIn_true s moves)

/-- **The rule for what is shown**: a property of all that was shown and of the shared state. -/
theorem shown_invariant {P : List O → S → Prop} (init : P [] s)
    (hstart : ∀ os a s, P os s → P (os ++ [(sys.start a s).1]) (sys.start a s).2.1)
    (hresume : ∀ os r t s, P os s → P (os ++ [(sys.resume r t s).1]) (sys.resume r t s).2.1)
    (moves : List (Move A R)) : P (sys.shown s moves) (sys.pool s moves).shared :=
  @induction_where _ _ _ _ _ sys _ _ _ (fun os p => P os p.shared) init (fun os a p => hstart os a p.shared)
    (fun os _ r t p _ h _ => hresume os r t p.shared h) (sys.eachResumeIn_true s moves)

section Ownership

variable {K : Type*} (owned : T → Option K)

/-- No two calls own the same. -/
def Apart (calls : List T) : Prop :=
  ∀ (i j : Nat) (t u : T) (k : K), calls[i]? = some t → calls[j]? = some u → owned t = some k → owned u = some k → i = j

variable {owned}

/-- A call that owns nothing is started. -/
theorem Apart.append (h : Apart owned calls) (hnone : owned t = none) :
    Apart owned (calls ++ [t]) := by
  have hbefore : ∀ {i : Nat} {u : T} {k : K}, (calls ++ [t])[i]? = some u → owned u = some k → calls[i]? = some u := by
    intro i u k hi hu
    by_cases hbound : i < calls.length
    · rwa [List.getElem?_append_left hbound] at hi
    · rw [List.getElem?_append_right (Nat.le_of_not_lt hbound)] at hi
      rw [List.mem_singleton.mp (List.mem_of_getElem? hi), hnone] at hu
      cases hu
  intro i j u v k hi hj hu hv
  exact h i j u v k (hbefore hi hu) (hbefore hj hv) hu hv

/-- A call goes on: it owns what it owned, or what no call owned. -/
theorem Apart.set (h : Apart owned calls) (hcall : calls[i]? = some t)
    (hnew : ∀ k, owned t' = some k → owned t = some k ∨ ∀ u ∈ calls, owned u ≠ some k) :
    Apart owned (calls.set i t') := by
  have hbound := (List.getElem?_eq_some_iff.mp hcall).1
  -- another call does not own what the call owns now
  have hother : ∀ {j : Nat} {u : T} {k : K}, j ≠ i → calls[j]? = some u → owned t' = some k → owned u ≠ some k := by
    intro j u k hne hj ht' hu
    rcases hnew k ht' with ht | hnone
    · exact hne (h j i u t k hj hcall hu ht)
    · exact hnone u (List.mem_of_getElem? hj) hu
  intro j k u v a hj hk hu hv
  by_cases hji : j = i
  · by_cases hki : k = i
    · exact hji.trans hki.symm
    · subst hji
      rw [List.getElem?_set_self hbound, Option.some.injEq] at hj
      rw [List.getElem?_set_ne (Ne.symm hki)] at hk
      exact absurd hv (hother hki hk (hj ▸ hu))
  · rw [List.getElem?_set_ne (Ne.symm hji)] at hj
    by_cases hki : k = i
    · subst hki
      rw [List.getElem?_set_self hbound, Option.some.injEq] at hk
      exact absurd hu (hother hji hj (hk ▸ hv))
    · rw [List.getElem?_set_ne (Ne.symm hki)] at hk
      exact h j k u v a hj hk hu hv

/-- **The rule for calls that own something**: what is known of a call is kept by the others, which own other things, and
a call comes to own only what was not taken. -/
theorem invariant_owned {taken : S → K → Prop} {I : S → Prop} {L : S → T → Prop} {s : S} (init : I s)
    (htaken : ∀ s t k, L s t → owned t = some k → taken s k)
    (hstart : ∀ a s, I s → I (sys.start a s).2.1 ∧ L (sys.start a s).2.1 (sys.start a s).2.2
      ∧ owned (sys.start a s).2.2 = none ∧ ∀ u, L s u → L (sys.start a s).2.1 u)
    (hresume : ∀ r t s, I s → L s t → I (sys.resume r t s).2.1 ∧ L (sys.resume r t s).2.1 (sys.resume r t s).2.2
      ∧ (∀ k, owned (sys.resume r t s).2.2 = some k → owned t = some k ∨ ¬taken s k)
      ∧ ∀ u, L s u → (∀ k, owned u = some k → owned t ≠ some k) → L (sys.resume r t s).2.1 u)
    (moves : List (Move A R)) :
    I (sys.pool s moves).shared ∧ (∀ t ∈ (sys.pool s moves).calls, L (sys.pool s moves).shared t)
      ∧ Apart owned (sys.pool s moves).calls := by
  let P : Pool S T → Prop := fun p => I p.shared ∧ (∀ t ∈ p.calls, L p.shared t) ∧ Apart owned p.calls
  refine @pool_induction _ _ _ _ _ sys P _ ⟨init, fun _ ht => absurd ht List.not_mem_nil, ?_⟩ ?_ ?_ moves
  · intro i j t u k hi
    cases hi
  · rintro a p ⟨hshared, hcalls, hapart⟩
    obtain ⟨hshared', hnew, hnone, hkept⟩ := hstart a p.shared hshared
    refine ⟨hshared', fun t ht => ?_, hapart.append hnone⟩
    rcases List.mem_append.mp ht with hold | hlast
    · exact hkept t (hcalls t hold)
    · exact List.mem_singleton.mp hlast ▸ hnew
  · rintro i r t p ⟨hshared, hcalls, hapart⟩ hcall
    obtain ⟨hshared', hself, hown, hkept⟩ := hresume r t p.shared hshared (hcalls t (List.mem_of_getElem? hcall))
    refine ⟨hshared', fun u hu => ?_, hapart.set hcall fun k hk => ?_⟩
    · obtain ⟨j, hj⟩ := List.mem_iff_getElem?.mp hu
      by_cases hji : j = i
      · subst hji
        rw [List.getElem?_set_self (List.getElem?_eq_some_iff.mp hcall).1, Option.some.injEq] at hj
        exact hj ▸ hself
      · rw [List.getElem?_set_ne (Ne.symm hji)] at hj
        refine hkept u (hcalls u (List.mem_of_getElem? hj)) fun k hu ht => hji ?_
        exact hapart j i u t k hj hcall hu ht
    · rcases hown k hk with hsame | hfree
      · exact .inl hsame
      · exact .inr fun u hu howned => hfree (htaken p.shared u k (hcalls u hu) howned)

end Ownership

section Accounting

/-- The weight of all calls. -/
def weigh (weight : T → Nat) (calls : List T) : Nat := (calls.map weight).sum

theorem weigh_set (weight : T → Nat) (t' : T) (h : calls[i]? = some t) :
    weigh weight (calls.set i t') + weight t = weigh weight calls + weight t' := by
  obtain ⟨hi, rfl⟩ := List.getElem?_eq_some_iff.mp h
  have hbefore := ((List.getElem_cons_eraseIdx_perm hi).map weight).sum_eq
  have hafter := ((List.set_perm_cons_eraseIdx hi t').map weight).sum_eq
  rw [List.map_cons, List.sum_cons] at hbefore hafter
  unfold weigh
  omega

/-- Two calls weigh no more than all calls. -/
theorem add_le_weigh (weight : T → Nat) {j : Nat} {u : T} (hne : i ≠ j)
    (ht : calls[i]? = some t) (hu : calls[j]? = some u) : weight t + weight u ≤ weigh weight calls := by
  obtain ⟨hi, rfl⟩ := List.getElem?_eq_some_iff.mp ht
  have hmem : u ∈ calls.eraseIdx i := List.mem_eraseIdx_iff_getElem?.mpr ⟨j, hne.symm, hu⟩
  rw [weigh, ← ((List.getElem_cons_eraseIdx_perm hi).map weight).sum_eq, List.map_cons, List.sum_cons]
  exact Nat.add_le_add_left (List.le_sum_of_mem (List.mem_map_of_mem hmem)) _

/-- **The accounting rule**: what a piece costs is gained by it, or taken from the weight of its call. -/
theorem accounting (weight : T → Nat) (cost gain : O → Nat)
    (hstart : ∀ a s, weight (sys.start a s).2.2 + cost (sys.start a s).1 ≤ gain (sys.start a s).1)
    (hresume : ∀ r t s, weight (sys.resume r t s).2.2 + cost (sys.resume r t s).1
      ≤ weight t + gain (sys.resume r t s).1)
    (s : S) (moves : List (Move A R)) :
    weigh weight (sys.pool s moves).calls + ((sys.shown s moves).map cost).sum
      ≤ ((sys.shown s moves).map gain).sum := by
  let P : List O → Pool S T → Prop := fun os p =>
    weigh weight p.calls + (os.map cost).sum ≤ (os.map gain).sum
  refine @induction_where _ _ _ _ _ sys _ _ _ P (Nat.le_refl 0) ?_ ?_ (sys.eachResumeIn_true s moves)
  · intro os a p ih
    have hpiece := hstart a p.shared
    unfold P weigh at ih ⊢
    simp only [List.map_append, List.map_singleton, List.sum_append, List.sum_singleton]
    omega
  · intro os i r t p _ ih hcall
    have hpiece := hresume r t p.shared
    have hset := weigh_set weight (sys.resume r t p.shared).2.2 hcall
    unfold P at ih ⊢
    simp only [List.map_append, List.map_singleton, List.sum_append, List.sum_singleton]
    omega

/-- **The rule for what is held**: a piece takes no more of a resource than its call then holds, or leaves nothing
of it. -/
theorem held {ok : R → T → S → Prop} (weight : T → Nat) (amount : S → Nat) (init : amount s = 0)
    (hstart : ∀ a s, amount (sys.start a s).2.1 ≤ amount s + weight (sys.start a s).2.2)
    (hresume : ∀ r t s, ok r t s → amount (sys.resume r t s).2.1 = 0
      ∨ amount (sys.resume r t s).2.1 + weight t ≤ amount s + weight (sys.resume r t s).2.2)
    (hmoves : sys.EachResume ok s moves) :
    amount (sys.pool s moves).shared ≤ weigh weight (sys.pool s moves).calls := by
  refine @pool_induction_where _ _ _ _ _ sys _ _ (fun r t p => ok r t p.shared)
    (fun p => amount p.shared ≤ weigh weight p.calls) (Nat.le_of_eq init) ?_ ?_ hmoves
  · intro a p hheld
    have hpiece := hstart a p.shared
    unfold weigh at hheld ⊢
    simp only [List.map_append, List.map_singleton, List.sum_append, List.sum_singleton]
    omega
  · intro i r t p hok hheld hcall
    have hpiece := hresume r t p.shared hok
    have hset := weigh_set weight (sys.resume r t p.shared).2.2 hcall
    dsimp only
    omega

/-- **The rule for what is covered**: what a call takes hold of is added to the shared state, and taken from it only
when the call lets go. -/
theorem covered (weight : T → Nat) (amount : S → Nat)
    (hstart : ∀ a s, weight (sys.start a s).2.2 + amount s ≤ amount (sys.start a s).2.1)
    (hresume : ∀ r t s, weight (sys.resume r t s).2.2 + amount s ≤ amount (sys.resume r t s).2.1 + weight t)
    (s : S) (moves : List (Move A R)) :
    weigh weight (sys.pool s moves).calls ≤ amount (sys.pool s moves).shared := by
  refine sys.pool_induction (P := fun p => weigh weight p.calls ≤ amount p.shared) (Nat.zero_le _) ?_ ?_ moves
  · intro a p ih
    have hpiece := hstart a p.shared
    unfold weigh at ih ⊢
    simp only [List.map_append, List.map_singleton, List.sum_append, List.sum_singleton]
    omega
  · intro i r t p ih hcall
    have hpiece := hresume r t p.shared
    have hset := weigh_set weight (sys.resume r t p.shared).2.2 hcall
    dsimp only
    omega

theorem weigh_eq_zero_iff {weight : T → Nat} :
    weigh weight calls = 0 ↔ ∀ t ∈ calls, weight t = 0 := by
  rw [weigh, List.sum_eq_zero_iff_forall_eq_nat, List.forall_mem_map]

/-- Calls that hold nothing weigh nothing. -/
theorem weigh_eq_zero {weight : T → Nat} (h : ∀ t ∈ calls, weight t = 0) :
    weigh weight calls = 0 :=
  weigh_eq_zero_iff.mpr h

end Accounting

section Traces

variable {V : Type*} (view : S → V)

/-- A move that starts or resumes this call. -/
def Takes (i : Nat) (e : Entry (Move A R) (Option O) (Pool S T)) : Prop :=
  match e.label with
  | .start _ => e.before.calls.length = i
  | .resume j _ => j = i

/-- The moves that started and resumed a call have left what is viewed as it was. -/
def Untouched (s : S) (moves : List (Move A R)) (i : Nat) : Prop :=
  ∀ e ∈ history sys.step ⟨s, []⟩ moves, Takes i e → view e.after.shared = view e.before.shared

variable {view}

/-- **The rule for calls that leave no trace**: when only a piece that commits a call changes what is viewed, a call
that has not committed has changed nothing. -/
theorem untouched (committed : T → Prop)
    (hstart : ∀ a s, ¬committed (sys.start a s).2.2 → view (sys.start a s).2.1 = view s)
    (hresume : ∀ r t s, ¬committed (sys.resume r t s).2.2 → ¬committed t ∧ view (sys.resume r t s).2.1 = view s)
    (s : S) (moves : List (Move A R)) (i : Nat) (hcall : ∀ t ∈ (sys.pool s moves).calls[i]?, ¬committed t) :
    sys.Untouched view s moves i := by
  induction moves using List.reverseRecOn with
  | nil => exact fun e he => absurd he List.not_mem_nil
  | append_singleton moves move ih =>
    rw [pool_concat] at hcall
    unfold Untouched at ih ⊢
    rw [history_concat, List.forall_mem_append, List.forall_mem_singleton]
    change _ ∧ (Takes i (entryAt sys.step (sys.pool s moves) move) →
      view (sys.step move (sys.pool s moves)).2.shared = view (sys.pool s moves).shared)
    generalize sys.pool s moves = p at hcall ih ⊢
    cases move with
    | start a =>
      refine ⟨ih fun t ht => hcall t ?_, fun htakes => ?_⟩
      · exact List.getElem?_append_left (List.getElem?_eq_some_iff.mp ht).1 ▸ ht
      · have hlast : p.calls.length = i := htakes
        exact hstart a p.shared (hcall _ (by simp [step, ← hlast]))
    | resume j r =>
      cases hj : p.calls[j]? with
      | none =>
        rw [sys.step_resume_of_none hj] at hcall ⊢
        exact ⟨ih hcall, fun _ => rfl⟩
      | some t =>
        rw [sys.step_resume_of_some hj] at hcall ⊢
        by_cases hij : j = i
        · subst hij
          have hnow := hcall (sys.resume r t p.shared).2.2
            (List.getElem?_set_self (List.getElem?_eq_some_iff.mp hj).1)
          obtain ⟨hbefore, hsame⟩ := hresume r t p.shared hnow
          refine ⟨ih fun u hu => ?_, fun _ => hsame⟩
          rw [hj, Option.mem_some_iff] at hu
          exact hu ▸ hbefore
        · refine ⟨ih fun u hu => hcall u ?_, fun htakes => absurd htakes hij⟩
          rwa [List.getElem?_set_ne hij]

/-- What holds of a call, and is kept when it goes on, holds of it from then on. -/
theorem call_kept {P : T → Prop} (hresume : ∀ r t s, P t → P (sys.resume r t s).2.2)
    (h : ∃ t, (sys.pool s moves).calls[i]? = some t ∧ P t)
    (rest : List (Move A R)) : ∃ t, (sys.pool s (moves ++ rest)).calls[i]? = some t ∧ P t := by
  induction rest using List.reverseRecOn with
  | nil => rwa [List.append_nil]
  | append_singleton rest move ih =>
    obtain ⟨t, ht, hP⟩ := ih
    rw [← List.append_assoc, pool_concat]
    generalize sys.pool s (moves ++ rest) = p at ht ⊢
    have hbound := (List.getElem?_eq_some_iff.mp ht).1
    cases move with
    | start a => exact ⟨t, by rw [← ht]; exact List.getElem?_append_left hbound, hP⟩
    | resume j r =>
      cases hj : p.calls[j]? with
      | none =>
        rw [sys.step_resume_of_none hj]
        exact ⟨t, ht, hP⟩
      | some u =>
        rw [sys.step_resume_of_some hj]
        by_cases hij : j = i
        · subst hij
          rw [ht, Option.some.injEq] at hj
          exact ⟨_, List.getElem?_set_self hbound, hresume r u p.shared (hj ▸ hP)⟩
        · exact ⟨t, by rw [← ht]; exact List.getElem?_set_ne hij, hP⟩

end Traces

end CallSystem

end VentureOS
