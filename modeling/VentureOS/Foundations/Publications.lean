import VentureOS.Foundations.Interleaving
import VentureOS.Foundations.VersionedLedger

/-! # Publications

Calls publish rows into a versioned ledger, at least once: a call prepares its insertion, and inserts its row. When a row
of its version is there already it reads that row again and answers that it was published before. Any calls may run in
between.

The rows are in the order of the calls that answered that they appended (`appended_eq_rows`), a version is appended
once (`appended_once`), and what a call answers is said by the row of its version (`published`). A call that repeats
what was published answers so when the version is the newest of its key as it inserts (`repeated_newest`), and is
denied otherwise (`repeated_older`). -/

namespace VentureOS

universe u v w x y

/-- What is published: the insertion of a call, its row, when it may be inserted in some circumstances, and when a row
confirms that it was published before. -/
structure Publishing (A : Type y) (B : Type u) (C : Type v) (α : Type w) (K : Type x) extends Versioning α K where
  /-- The insertion of a call that gets as far as that. -/
  prepare : A → Option B
  row : B → α
  opens : List α → B → C → Bool
  succeeds : List α → α → B → C → Bool
  repeats : List α → α → B → Bool
  confirms : α → B → Bool

/-- What a call answers. -/
inductive Published where
  | APPENDED
  | REPLAYED
  deriving DecidableEq, Repr

/-- Where a call is. -/
inductive PublishCall (B : Type u) where
  | inserting (b : B)
  | rereading (b : B)
  | returned (b : B) (answer : Published)
  | denied
  deriving DecidableEq

namespace Publishing

variable {A : Type y} {B : Type u} {C : Type v} {α : Type w} {K : Type x} [DecidableEq K]
  (pub : Publishing A B C α K)

/-- The rule of its insertions. -/
def rule : LedgerRule (B × C) α K where
  toVersioning := pub.toVersioning
  row a := pub.row a.1
  opens rows a := pub.opens rows a.1 a.2
  succeeds rows old a := pub.succeeds rows old a.1 a.2
  repeats rows old a := pub.repeats rows old a.1

/-- The row of a version. -/
def reread (rows : List α) (b : B) : Option α :=
  rows.find? fun r => pub.key r = pub.key (pub.row b) ∧ pub.version r = pub.version (pub.row b)

/-- The calls over the rows. A call that is resumed inserts in these circumstances, or reads again. -/
def calls : CallSystem (List α) (PublishCall B) A C (Option (B × Published)) where
  start a rows :=
    match pub.prepare a with
    | none => (none, rows, .denied)
    | some b => (none, rows, .inserting b)
  resume c call rows :=
    match call with
    | .inserting b =>
      match pub.rule.insert rows (b, c) with
      | none => (none, rows, .denied)
      | some (true, rows') => (some (b, .APPENDED), rows', .returned b .APPENDED)
      | some (false, rows') => (none, rows', .rereading b)
    | .rereading b =>
      match pub.reread rows b with
      | none => (none, rows, .denied)
      | some r =>
        if pub.confirms r b = true then (some (b, .REPLAYED), rows, .returned b .REPLAYED)
        else (none, rows, .denied)
    | call => (none, rows, call)

/-! ## One piece of a call -/

variable {rows : List α}

variable {b : B} {r : α}

section Pieces

variable {pub} in
theorem mem_of_reread (h : pub.reread rows b = some r) :
    r ∈ rows ∧ pub.key r = pub.key (pub.row b) ∧ pub.version r = pub.version (pub.row b) := by
  unfold reread at h
  exact ⟨List.mem_of_find?_eq_some h, by simpa using List.find?_some h⟩

theorem start_of_unprepared {a : A} (h : pub.prepare a = none) (rows : List α) :
    pub.calls.start a rows = (none, rows, .denied) := by
  simp only [calls, h]

theorem start_of_prepared {a : A} (h : pub.prepare a = some b) (rows : List α) :
    pub.calls.start a rows = (none, rows, .inserting b) := by
  simp only [calls, h]

/-- No row is added before the insertion. -/
theorem start_rows (a : A) (rows : List α) : (pub.calls.start a rows).1 = none ∧ (pub.calls.start a rows).2.1 = rows := by
  cases hprepare : pub.prepare a with
  | none =>
    rw [pub.start_of_unprepared hprepare]
    exact ⟨rfl, rfl⟩
  | some b =>
    rw [pub.start_of_prepared hprepare]
    exact ⟨rfl, rfl⟩

/-- An insertion that is refused. -/
theorem resume_of_refused {c : C} (h : pub.rule.insert rows (b, c) = none) :
    pub.calls.resume c (.inserting b) rows = (none, rows, .denied) := by
  simp only [calls, h]

/-- An insertion of a new version. -/
theorem resume_of_inserted {rows' : List α} {c : C} (h : pub.rule.insert rows (b, c) = some (true, rows')) :
    pub.calls.resume c (.inserting b) rows = (some (b, .APPENDED), rows', .returned b .APPENDED) := by
  simp only [calls, h]

/-- An insertion that finds its version. -/
theorem resume_of_conflict {rows' : List α} {c : C} (h : pub.rule.insert rows (b, c) = some (false, rows')) :
    pub.calls.resume c (.inserting b) rows = (none, rows', .rereading b) := by
  simp only [calls, h]

/-- A row that confirms the call. -/
theorem resume_of_confirms (hread : pub.reread rows b = some r)
    (hconfirms : pub.confirms r b = true) (c : C) :
    pub.calls.resume c (.rereading b) rows = (some (b, .REPLAYED), rows, .returned b .REPLAYED) := by
  simp only [calls, hread, if_pos hconfirms]

/-- **What a piece does**: it appends the row of its call, or leaves the rows as they are. -/
theorem resume_cases (c : C) (call : PublishCall B) (rows : List α) :
    (∃ b rows', call = .inserting b ∧ pub.rule.insert rows (b, c) = some (true, rows')
        ∧ pub.calls.resume c call rows = (some (b, .APPENDED), rows', .returned b .APPENDED))
      ∨ (∃ b r, call = .rereading b ∧ pub.reread rows b = some r ∧ pub.confirms r b = true
        ∧ pub.calls.resume c call rows = (some (b, .REPLAYED), rows, .returned b .REPLAYED))
      ∨ ∃ call', pub.calls.resume c call rows = (none, rows, call')
        ∧ (call' = call ∨ call' = .denied ∨ ∃ b, call = .inserting b ∧ call' = .rereading b) := by
  cases call with
  | inserting b =>
    cases hinsert : pub.rule.insert rows (b, c) with
    | none =>
      exact .inr (.inr ⟨.denied, pub.resume_of_refused hinsert, .inr (.inl rfl)⟩)
    | some result =>
      obtain ⟨new, rows'⟩ := result
      cases new with
      | true =>
        exact .inl ⟨b, rows', rfl, hinsert, pub.resume_of_inserted hinsert⟩
      | false =>
        obtain ⟨rfl, -⟩ := LedgerRule.insert_old hinsert
        exact .inr (.inr ⟨.rereading b, pub.resume_of_conflict hinsert, .inr (.inr ⟨b, rfl, rfl⟩)⟩)
  | rereading b =>
    cases hread : pub.reread rows b with
    | none =>
      refine .inr (.inr ⟨.denied, ?_, .inr (.inl rfl)⟩)
      simp only [calls, hread]
    | some r =>
      by_cases hconfirms : pub.confirms r b = true
      · exact .inr (.inl ⟨b, r, rfl, hread, hconfirms, pub.resume_of_confirms hread hconfirms c⟩)
      · refine .inr (.inr ⟨.denied, ?_, .inr (.inl rfl)⟩)
        simp only [calls, hread, if_neg hconfirms]
  | _ => exact .inr (.inr ⟨_, rfl, .inl rfl⟩)

/-- Rows are only added, and at the end. -/
theorem resume_grows (c : C) (call : PublishCall B) (rows : List α) :
    ∃ new, (pub.calls.resume c call rows).2.1 = rows ++ new := by
  rcases pub.resume_cases c call rows with ⟨b, rows', -, hinsert, hresume⟩ | ⟨b, r, -, -, -, hresume⟩
    | ⟨call', hresume, -⟩
  · rw [hresume, (LedgerRule.insert_new hinsert).1]
    exact ⟨_, rfl⟩
  · rw [hresume]
    exact ⟨[], (List.append_nil _).symm⟩
  · rw [hresume]
    exact ⟨[], (List.append_nil _).symm⟩

end Pieces

/-! ## Whole runs -/

section Runs

variable {Opened : List α → α → Prop} {Succeeded : List α → α → α → Prop}

/-- What is known of a call: it was admitted, and what it has answered is said by the row of its version. -/
def CallKept (rows : List α) : PublishCall B → Prop
  | .inserting b => ∃ a, pub.prepare a = some b
  | .rereading b => ∃ a, pub.prepare a = some b
  | .returned b .APPENDED => (∃ a, pub.prepare a = some b) ∧ pub.row b ∈ rows
  | .returned b .REPLAYED => (∃ a, pub.prepare a = some b)
      ∧ ∃ r ∈ rows, pub.key r = pub.key (pub.row b) ∧ pub.version r = pub.version (pub.row b) ∧ pub.confirms r b = true
  | .denied => True

variable {pub}

omit [DecidableEq K] in
theorem CallKept.append {call : PublishCall B} (h : pub.CallKept rows call) (new : List α) :
    pub.CallKept (rows ++ new) call := by
  cases call with
  | inserting b => exact h
  | rereading b => exact h
  | returned b answer =>
    cases answer with
    | APPENDED => exact ⟨h.1, List.mem_append_left _ h.2⟩
    | REPLAYED =>
      obtain ⟨hprepared, r, hr, hsays⟩ := h
      exact ⟨hprepared, r, List.mem_append_left _ hr, hsays⟩
  | denied => trivial

/-- **Every run of calls** keeps the ledger, and what is known of each call. -/
theorem published (hopens : ∀ rows a b c, pub.prepare a = some b → pub.opens rows b c = true → Opened rows (pub.row b))
    (hsucceeds : ∀ rows old a b c, pub.prepare a = some b → old ∈ rows → pub.succeeds rows old b c = true →
      Succeeded rows old (pub.row b)) (moves : List (Move A C)) :
    pub.Kept Opened Succeeded (pub.calls.pool [] moves).shared
      ∧ ∀ call ∈ (pub.calls.pool [] moves).calls, pub.CallKept (pub.calls.pool [] moves).shared call := by
  refine pub.calls.invariant (I := fun rows => pub.Kept Opened Succeeded rows) (L := pub.CallKept) Journal.nil
    (fun a rows h => ?_) (fun c call rows h hcall => ?_) moves
  · cases hprepare : pub.prepare a with
    | none =>
      rw [pub.start_of_unprepared hprepare]
      exact ⟨h, trivial, fun _ hcall => hcall⟩
    | some b =>
      rw [pub.start_of_prepared hprepare]
      exact ⟨h, ⟨a, hprepare⟩, fun _ hcall => hcall⟩
  · obtain ⟨new, hgrows⟩ := pub.resume_grows c call rows
    refine ⟨?_, ?_, fun other hother => by rw [hgrows]; exact hother.append new⟩
    · rcases pub.resume_cases c call rows with ⟨b, rows', rfl, hinsert, hresume⟩ | ⟨b, r, -, -, -, hresume⟩
        | ⟨call', hresume, -⟩
      · rw [hresume]
        obtain ⟨a, hprepare⟩ := hcall
        exact pub.rule.kept_insert h (b, c) (hopens rows a b c hprepare)
          (fun old => hsucceeds rows old a b c hprepare) hinsert
      · rw [hresume]
        exact h
      · rw [hresume]
        exact h
    · rcases pub.resume_cases c call rows with ⟨b, rows', rfl, hinsert, hresume⟩
        | ⟨b, r, rfl, hread, hconfirms, hresume⟩ | ⟨call', hresume, hcall'⟩
      · rw [hresume, (LedgerRule.insert_new hinsert).1]
        exact ⟨hcall, List.mem_append_right _ List.mem_cons_self⟩
      · rw [hresume]
        obtain ⟨hmem, hkey, hversion⟩ := mem_of_reread hread
        exact ⟨hcall, r, hmem, hkey, hversion, hconfirms⟩
      · rw [hresume]
        rcases hcall' with rfl | rfl | ⟨b, rfl, rfl⟩
        · exact hcall
        · trivial
        · exact hcall

variable (pub)

/-- The row of a call that has appended. -/
def appendedRow : Option (B × Published) → Option α
  | some (b, .APPENDED) => some (pub.row b)
  | _ => none

variable {pub}

/-- **The rows are those of the calls that have appended**, in their order. -/
theorem appended_eq_rows (moves : List (Move A C)) :
    (pub.calls.shown [] moves).filterMap pub.appendedRow = (pub.calls.pool [] moves).shared := by
  refine pub.calls.shown_invariant (P := fun shown rows => shown.filterMap pub.appendedRow = rows) rfl ?_ ?_ moves
  · intro shown a rows h
    rw [(pub.start_rows a rows).1, (pub.start_rows a rows).2, List.filterMap_append, h]
    exact List.append_nil rows
  · intro shown c call rows h
    rw [List.filterMap_append, h]
    rcases pub.resume_cases c call rows with ⟨b, rows', -, hinsert, hresume⟩ | ⟨b, r, -, -, -, hresume⟩
      | ⟨call', hresume, -⟩
    · rw [hresume, (LedgerRule.insert_new hinsert).1]
      rfl
    · rw [hresume]
      exact List.append_nil rows
    · rw [hresume]
      exact List.append_nil rows

/-- **A version is appended once**, if there is a row of it. -/
theorem appended_once [DecidableEq α] {moves : List (Move A C)}
    (h : pub.Kept Opened Succeeded (pub.calls.pool [] moves).shared) (hr : r ∈ (pub.calls.pool [] moves).shared) :
    ((pub.calls.shown [] moves).filterMap pub.appendedRow).countP
      (fun r' => pub.key r' = pub.key r ∧ pub.version r' = pub.version r) = 1 := by
  rw [appended_eq_rows, ← List.count_eq_one_of_mem h.nodup hr, List.count_eq_countP]
  refine List.countP_congr fun r' hr' => ?_
  rw [decide_eq_true_eq, beq_iff_eq]
  exact ⟨fun hsays => h.unique hr' hr hsays.1 hsays.2, fun heq => heq ▸ ⟨rfl, rfl⟩⟩

/-! ## Repetitions -/

/-- Rows are only added. -/
theorem shared_grows (moves after : List (Move A C)) :
    ∃ new, (pub.calls.pool [] (moves ++ after)).shared = (pub.calls.pool [] moves).shared ++ new := by
  induction after using List.reverseRecOn with
  | nil => exact ⟨[], by rw [List.append_nil, List.append_nil]⟩
  | append_singleton after move ih =>
    obtain ⟨new, hnew⟩ := ih
    rw [← List.append_assoc, CallSystem.pool_concat]
    cases move with
    | start a => exact ⟨new, (pub.start_rows a _).2.trans hnew⟩
    | resume i c =>
      cases hcall : (pub.calls.pool [] (moves ++ after)).calls[i]? with
      | none =>
        rw [CallSystem.step_resume_of_none _ hcall]
        exact ⟨new, hnew⟩
      | some call =>
        rw [CallSystem.step_resume_of_some _ hcall]
        obtain ⟨new', hgrows⟩ := pub.resume_grows c call (pub.calls.pool [] (moves ++ after)).shared
        exact ⟨new ++ new', by rw [hgrows, hnew, List.append_assoc]⟩

/-- **What holds of a call from one point on**: it holds there, and every resumption of the call keeps it. -/
theorem call_invariant {P : PublishCall B → Prop} {moves : List (Move A C)} {i : Nat} {call : PublishCall B}
    (hcall : (pub.calls.pool [] moves).calls[i]? = some call) (hinit : P call)
    (hresume : ∀ after c call, P call →
      P (pub.calls.resume c call (pub.calls.pool [] (moves ++ after)).shared).2.2) (after : List (Move A C)) :
    ∃ call, (pub.calls.pool [] (moves ++ after)).calls[i]? = some call ∧ P call := by
  induction after using List.reverseRecOn with
  | nil =>
    rw [List.append_nil]
    exact ⟨call, hcall, hinit⟩
  | append_singleton after move ih =>
    obtain ⟨call, hcall, hkept⟩ := ih
    have hbound := (List.getElem?_eq_some_iff.mp hcall).1
    rw [← List.append_assoc, CallSystem.pool_concat]
    cases move with
    | start a => exact ⟨call, (List.getElem?_append_left hbound).trans hcall, hkept⟩
    | resume j c =>
      by_cases hj : j = i
      · subst hj
        rw [CallSystem.step_resume_of_some _ hcall]
        exact ⟨_, List.getElem?_set_self hbound, hresume after c call hkept⟩
      · cases hother : (pub.calls.pool [] (moves ++ after)).calls[j]? with
        | none =>
          rw [CallSystem.step_resume_of_none _ hother]
          exact ⟨call, hcall, hkept⟩
        | some other =>
          rw [CallSystem.step_resume_of_some _ hother]
          exact ⟨call, (List.getElem?_set_ne hj).trans hcall, hkept⟩

/-- The row of a version is read again. -/
theorem reread_eq_some (h : pub.Kept Opened Succeeded rows) (hr : r ∈ rows)
    (hkey : pub.key r = pub.key (pub.row b)) (hversion : pub.version r = pub.version (pub.row b)) :
    pub.reread rows b = some r := by
  cases hread : pub.reread rows b with
  | none =>
    unfold reread at hread
    exact absurd (decide_eq_true ⟨hkey, hversion⟩) (List.find?_eq_none.mp hread r hr)
  | some r' =>
    obtain ⟨hr', hkey', hversion'⟩ := mem_of_reread hread
    rw [h.unique hr' hr (hkey'.trans hkey.symm) (hversion'.trans hversion.symm)]

/-- **A repetition of the newest version** answers that it was published before. -/
theorem repeated_newest (h : ∀ moves, pub.Kept Opened Succeeded (pub.calls.pool [] moves).shared)
    {before : List (Move A C)} {i : Nat} (hcall : (pub.calls.pool [] before).calls[i]? = some (.inserting b))
    (hnewest : pub.newest (pub.calls.pool [] before).shared (pub.key (pub.row b)) = some r)
    (hversion : pub.version (pub.row b) = pub.version r) (hrepeats : pub.repeats (pub.calls.pool [] before).shared r b = true)
    (hconfirms : pub.confirms r b = true) (c c' : C) (after : List (Move A C)) :
    (pub.calls.pool [] (before ++ [.resume i c] ++ after ++ [.resume i c'])).calls[i]?
      = some (.returned b .REPLAYED) := by
  obtain ⟨hmem, hkey⟩ := pub.mem_of_newest hnewest
  have hbound := (List.getElem?_eq_some_iff.mp hcall).1
  have hrereading : (pub.calls.pool [] (before ++ [.resume i c])).calls[i]? = some (.rereading b) := by
    have hinsert : pub.rule.insert (pub.calls.pool [] before).shared (b, c)
        = some (false, (pub.calls.pool [] before).shared) := by
      rw [LedgerRule.insert_of_same hnewest hversion]
      exact if_pos hrepeats
    rw [CallSystem.pool_concat, CallSystem.step_resume_of_some _ hcall, pub.resume_of_conflict hinsert]
    exact List.getElem?_set_self hbound
  -- it reads the row of its version, however many rows were added
  have hread : ∀ after, pub.reread (pub.calls.pool [] (before ++ [.resume i c] ++ after)).shared b = some r := by
    intro after
    obtain ⟨new, hnew⟩ := pub.shared_grows before ([.resume i c] ++ after)
    rw [← List.append_assoc] at hnew
    exact reread_eq_some (h _) (by rw [hnew]; exact List.mem_append_left _ hmem) hkey hversion.symm
  obtain ⟨call, hafter, hcases⟩ := call_invariant
    (P := fun call => call = .rereading b ∨ call = .returned b .REPLAYED) hrereading (.inl rfl)
    (fun after c call hcall => by
      rcases hcall with rfl | rfl
      · rw [pub.resume_of_confirms (hread after) hconfirms]
        exact .inr rfl
      · exact .inr rfl) after
  have hlast := (List.getElem?_eq_some_iff.mp hafter).1
  rw [CallSystem.pool_concat, CallSystem.step_resume_of_some _ hafter]
  refine (List.getElem?_set_self hlast).trans (congrArg some ?_)
  rcases hcases with rfl | rfl
  · rw [pub.resume_of_confirms (hread after) hconfirms]
  · rfl

/-- **A repetition of an older version** is denied. -/
theorem repeated_older {before : List (Move A C)} {i : Nat}
    (hcall : (pub.calls.pool [] before).calls[i]? = some (.inserting b))
    (hnewest : pub.newest (pub.calls.pool [] before).shared (pub.key (pub.row b)) = some r)
    (hversion : pub.version (pub.row b) < pub.version r) (c : C) (after : List (Move A C)) :
    (pub.calls.pool [] (before ++ [.resume i c] ++ after)).calls[i]? = some (.denied) := by
  have hbound := (List.getElem?_eq_some_iff.mp hcall).1
  have hdenied : (pub.calls.pool [] (before ++ [.resume i c])).calls[i]? = some (.denied) := by
    have hinsert : pub.rule.insert (pub.calls.pool [] before).shared (b, c) = none :=
      LedgerRule.insert_of_older hnewest hversion
    rw [CallSystem.pool_concat, CallSystem.step_resume_of_some _ hcall, pub.resume_of_refused hinsert]
    exact List.getElem?_set_self hbound
  obtain ⟨call, hafter, rfl⟩ := call_invariant (P := fun call => call = .denied) hdenied rfl
    (fun after c call hcall => by rw [hcall]; rfl) after
  exact hafter

end Runs

end Publishing

end VentureOS
