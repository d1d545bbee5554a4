import Mathlib.Data.List.MinMax
import Mathlib.Data.List.Nodup
import Mathlib.Data.List.Chain
import VentureOS.Foundations.Journal

/-! # Versioned ledgers

A ledger is a table into which rows are only ever inserted. Every row has a key and a version, and an insertion is
judged by the newest row of its key: a first version opens the key, a next version succeeds the newest row, a row that
repeats the newest one is not inserted a second time, and everything else is refused (`LedgerRule.insert`).

`Versioning.Kept` is what such insertions keep: every row was allowed when it was inserted. Then the versions of a key
are `1, …, n` in the order of their insertion (`Kept.versions`), a version of a key is one row (`Kept.unique`), and what
holds from each row to its successor holds along the versions of a key (`Kept.chain`, `Kept.along`). -/

namespace VentureOS

universe u v w

/-- Rows with a key and a version. -/
structure Versioning (α : Type u) (K : Type v) where
  key : α → K
  version : α → Nat

namespace Versioning

variable {α : Type u} {K : Type v} [DecidableEq K] (rule : Versioning α K)

/-- The rows of a key. -/
def rowsOf (rows : List α) (k : K) : List α := rows.filter fun r => rule.key r = k

/-- The row of a key with the greatest version. -/
def newest (rows : List α) (k : K) : Option α := (rule.rowsOf rows k).argmax rule.version

variable {r : α}

variable {k : K}

theorem mem_rowsOf {rows : List α} : r ∈ rule.rowsOf rows k ↔ r ∈ rows ∧ rule.key r = k := by
  rw [rowsOf, List.mem_filter, decide_eq_true_eq]

theorem rowsOf_concat_self (rows : List α) (r : α) :
    rule.rowsOf (rows ++ [r]) (rule.key r) = rule.rowsOf rows (rule.key r) ++ [r] := by
  simp [rowsOf]

theorem rowsOf_concat_of_ne (rows : List α) (h : rule.key r ≠ k) :
    rule.rowsOf (rows ++ [r]) k = rule.rowsOf rows k := by
  simp [rowsOf, h]

theorem mem_of_newest {rows : List α} (h : rule.newest rows k = some r) : r ∈ rows ∧ rule.key r = k :=
  rule.mem_rowsOf.mp (List.argmax_mem h)

theorem version_le_newest {rows : List α} {r' : α} (h : rule.newest rows k = some r) (hr' : r' ∈ rows)
    (hkey : rule.key r' = k) : rule.version r' ≤ rule.version r :=
  List.le_of_mem_argmax (rule.mem_rowsOf.mpr ⟨hr', hkey⟩) h

theorem newest_eq_none {rows : List α} : rule.newest rows k = none ↔ ∀ r ∈ rows, rule.key r ≠ k := by
  rw [newest, List.argmax_eq_none, rowsOf, List.filter_eq_nil_iff]
  simp only [decide_eq_true_eq, ne_eq]

theorem exists_newest {rows : List α} (hr : r ∈ rows) (hkey : rule.key r = k) :
    ∃ r', rule.newest rows k = some r' := by
  cases h : rule.newest rows k with
  | none => exact absurd hkey (rule.newest_eq_none.mp h r hr)
  | some r' => exact ⟨r', rfl⟩

theorem newest_concat_of_ne (rows : List α) (h : rule.key r ≠ k) :
    rule.newest (rows ++ [r]) k = rule.newest rows k := by
  rw [newest, rowsOf_concat_of_ne rule rows h]
  rfl

/-- A row that is newer than all of its key is the newest. -/
theorem newest_concat_self {rows : List α} (h : ∀ r' ∈ rows, rule.key r' = rule.key r → rule.version r' < rule.version r) :
    rule.newest (rows ++ [r]) (rule.key r) = some r := by
  rw [newest, rowsOf_concat_self, List.argmax_concat]
  cases hmax : (rule.rowsOf rows (rule.key r)).argmax rule.version with
  | none => rfl
  | some r' =>
    obtain ⟨hr', hkey⟩ := rule.mem_of_newest hmax
    exact if_pos (h r' hr' hkey)

/-! ## What is kept -/

variable (Opened : List α → α → Prop) (Succeeded : List α → α → α → Prop)

/-- A row may come after some rows: it opens its key, or succeeds the newest row of its key. -/
def Allowed (before : List α) (r : α) : Prop :=
  (rule.newest before (rule.key r) = none ∧ rule.version r = 1 ∧ Opened before r)
    ∨ ∃ old, rule.newest before (rule.key r) = some old ∧ rule.version r = rule.version old + 1
      ∧ Succeeded before old r

/-- Every row was allowed when it was inserted. -/
def Kept (rows : List α) : Prop := Journal (rule.Allowed Opened Succeeded) rows

variable {rule Opened Succeeded} {rows : List α}

/-- A row that is allowed is newer than all of its key. -/
theorem Allowed.newer (h : rule.Allowed Opened Succeeded rows r) :
    ∀ r' ∈ rows, rule.key r' = rule.key r → rule.version r' < rule.version r := by
  intro r' hr' hkey
  rcases h with ⟨hnone, -⟩ | ⟨old, hold, hversion, -⟩
  · exact absurd hkey (rule.newest_eq_none.mp hnone r' hr')
  · have hle := rule.version_le_newest hold hr' hkey
    omega

/-- **The versions of a key** are `1, …, n`, and the newest row is the last one. -/
theorem Kept.versions (h : rule.Kept Opened Succeeded rows) (k : K) :
    (rule.rowsOf rows k).map rule.version = List.range' 1 (rule.rowsOf rows k).length
      ∧ rule.newest rows k = (rule.rowsOf rows k).getLast? := by
  let P : List α → Prop := fun rows => ∀ k,
    (rule.rowsOf rows k).map rule.version = List.range' 1 (rule.rowsOf rows k).length
      ∧ rule.newest rows k = (rule.rowsOf rows k).getLast?
  refine Journal.invariant (P := P) (fun k => ⟨rfl, rfl⟩) (fun rows r ih hrow k => ?_) h k
  by_cases hk : rule.key r = k
  · subst hk
    obtain ⟨hversions, hlast⟩ := ih (rule.key r)
    have hnext : rule.version r = 1 + (rule.rowsOf rows (rule.key r)).length := by
      rcases hrow with ⟨hnone, hversion, -⟩ | ⟨old, hold, hversion, -⟩
      · rw [hnone] at hlast
        rw [List.getLast?_eq_none_iff.mp hlast.symm, hversion]
        rfl
      · rw [hold] at hlast
        obtain ⟨init, hinit⟩ := List.getLast?_eq_some_iff.mp hlast.symm
        rw [hinit, List.map_append, List.length_append, List.map_singleton, List.length_singleton,
          List.range'_1_concat] at hversions
        obtain ⟨-, hone⟩ := List.append_inj' hversions rfl
        rw [List.cons.injEq] at hone
        rw [hinit, List.length_append, List.length_singleton, hversion]
        omega
    rw [rule.newest_concat_self hrow.newer, rowsOf_concat_self, List.getLast?_concat, List.map_append,
      List.length_append, List.length_singleton, List.range'_1_concat, hversions, List.map_singleton, hnext]
    exact ⟨rfl, rfl⟩
  · rw [newest_concat_of_ne rule rows hk, rowsOf_concat_of_ne rule rows hk]
    exact ih k

/-- The rows of a key come with ever greater versions. -/
theorem Kept.increasing (h : rule.Kept Opened Succeeded rows) (k : K) :
    (rule.rowsOf rows k).Pairwise fun r r' => rule.version r < rule.version r' := by
  rw [← List.pairwise_map (R := (· < ·)), (h.versions k).1]
  exact List.pairwise_lt_range'

/-- **A version of a key is one row.** -/
theorem Kept.unique (h : rule.Kept Opened Succeeded rows) {r' : α} (hr : r ∈ rows) (hr' : r' ∈ rows)
    (hkey : rule.key r = rule.key r') (hversion : rule.version r = rule.version r') : r = r' := by
  have hnodup : ((rule.rowsOf rows (rule.key r')).map rule.version).Nodup := by
    rw [(h.versions (rule.key r')).1]
    exact List.nodup_range'
  exact List.inj_on_of_nodup_map hnodup (rule.mem_rowsOf.mpr ⟨hr, hkey⟩) (rule.mem_rowsOf.mpr ⟨hr', rfl⟩) hversion

/-- The rows are distinct. -/
theorem Kept.nodup (h : rule.Kept Opened Succeeded rows) : rows.Nodup := by
  refine Journal.invariant (P := fun rows => rows.Nodup) List.nodup_nil (fun rows r ih hrow => ?_) h
  refine List.nodup_append.mpr ⟨ih, List.nodup_singleton r, fun r' hr' r'' hr'' heq => ?_⟩
  rw [List.mem_singleton.mp hr''] at heq
  exact absurd (hrow.newer r' hr' (congrArg rule.key heq)) (by rw [heq]; exact Nat.lt_irrefl _)

/-- **Where a row comes from**: it opened its key, or came after a row that is there. -/
theorem Kept.predecessor (h : rule.Kept Opened Succeeded rows) (hr : r ∈ rows) :
    (rule.version r = 1 ∧ ∃ before, Opened before r)
      ∨ ∃ old ∈ rows, rule.key old = rule.key r ∧ rule.version r = rule.version old + 1
        ∧ ∃ before, Succeeded before old r := by
  obtain ⟨before, after, hrows⟩ := List.append_of_mem hr
  rcases h before r after hrows with ⟨-, hversion, hopened⟩ | ⟨old, hold, hversion, hsucceeded⟩
  · exact .inl ⟨hversion, before, hopened⟩
  · obtain ⟨hmem, hkey⟩ := rule.mem_of_newest hold
    exact .inr ⟨old, by rw [hrows]; exact List.mem_append_left _ hmem, hkey, hversion, before, hsucceeded⟩

/-- **What holds from each row to its successor** holds from each of a key to the next. -/
theorem Kept.chain (h : rule.Kept Opened Succeeded rows) {R : α → α → Prop}
    (hR : ∀ before old r, Succeeded before old r → R old r) (k : K) : (rule.rowsOf rows k).IsChain R := by
  induction rows using List.reverseRecOn with
  | nil => exact List.isChain_nil
  | append_singleton rows r ih =>
    have hchain := ih h.of_append
    by_cases hk : rule.key r = k
    · subst hk
      rw [rowsOf_concat_self]
      refine List.isChain_append.mpr ⟨hchain, List.isChain_singleton r, fun old hold r' hr' => ?_⟩
      cases hr'
      have hnewest := ((show rule.Kept Opened Succeeded rows from h.of_append).versions (rule.key r)).2
      rcases h.last with ⟨hnone, -⟩ | ⟨old', hold', -, hsucceeded⟩
      · rw [hnewest, Option.mem_def.mp hold] at hnone
        cases hnone
      · rw [hnewest, Option.mem_def.mp hold] at hold'
        cases hold'
        exact hR _ _ _ hsucceeded
    · rw [rowsOf_concat_of_ne rule rows hk]
      exact hchain

/-- **What holds from each row to its successor and is transitive** holds from each row of a key to each later one. -/
theorem Kept.along (h : rule.Kept Opened Succeeded rows) {R : α → α → Prop}
    (hR : ∀ before old r, Succeeded before old r → R old r) (htrans : ∀ {a b c}, R a b → R b c → R a c)
    {r' : α} (hr : r ∈ rows) (hr' : r' ∈ rows) (hkey : rule.key r = rule.key r')
    (hversion : rule.version r < rule.version r') : R r r' := by
  have : IsTrans α R := ⟨fun _ _ _ => htrans⟩
  have hpairs := List.isChain_iff_pairwise.mp (h.chain hR (rule.key r'))
  have hincreasing := List.pairwise_iff_getElem.mp (h.increasing (rule.key r'))
  obtain ⟨i, hi, hi'⟩ := List.getElem_of_mem (rule.mem_rowsOf.mpr ⟨hr, hkey⟩)
  obtain ⟨j, hj, hj'⟩ := List.getElem_of_mem (rule.mem_rowsOf.mpr ⟨hr', rfl⟩)
  rcases Nat.lt_trichotomy i j with hlt | rfl | hgt
  · have hrelated := List.pairwise_iff_getElem.mp hpairs i j hi hj hlt
    rwa [hi', hj'] at hrelated
  · rw [← hi', hj'] at hversion
    exact absurd hversion (Nat.lt_irrefl _)
  · have hless := hincreasing j i hj hi hgt
    rw [hi', hj'] at hless
    omega

end Versioning

/-! ## Insertions -/

/-- What a ledger asks of an insertion. -/
structure LedgerRule (A : Type w) (α : Type u) (K : Type v) extends Versioning α K where
  /-- The row that is to be inserted. -/
  row : A → α
  /-- A first row may be inserted. -/
  opens : List α → A → Bool
  /-- A row may be inserted after the newest one. -/
  succeeds : List α → α → A → Bool
  /-- A row of the version of the newest one is no contradiction. -/
  repeats : List α → α → A → Bool

namespace LedgerRule

variable {A : Type w} {α : Type u} {K : Type v} [DecidableEq K] (rule : LedgerRule A α K)

/-- An insertion: nothing when it is refused, else whether the row is new, and the rows. -/
def insert (rows : List α) (a : A) : Option (Bool × List α) :=
  match rule.newest rows (rule.key (rule.row a)) with
  | none =>
    if rule.version (rule.row a) = 1 ∧ rule.opens rows a = true then some (true, rows ++ [rule.row a]) else none
  | some old =>
    if rule.version (rule.row a) = rule.version old then
      if rule.repeats rows old a = true then some (false, rows) else none
    else if rule.version (rule.row a) = rule.version old + 1 ∧ rule.succeeds rows old a = true then
      some (true, rows ++ [rule.row a])
    else none

variable {rule} {rows rows' : List α} {a : A}

/-- **A row is inserted**: it opens its key, or succeeds the newest row of it. -/
theorem insert_new (h : rule.insert rows a = some (true, rows')) :
    rows' = rows ++ [rule.row a]
      ∧ ((rule.newest rows (rule.key (rule.row a)) = none ∧ rule.version (rule.row a) = 1 ∧ rule.opens rows a = true)
        ∨ ∃ old, rule.newest rows (rule.key (rule.row a)) = some old
          ∧ rule.version (rule.row a) = rule.version old + 1 ∧ rule.succeeds rows old a = true) := by
  unfold insert at h
  cases hnewest : rule.newest rows (rule.key (rule.row a)) with
  | none =>
    simp only [hnewest] at h
    split at h
    · next hopens =>
      obtain ⟨-, rfl⟩ := Prod.mk.inj (Option.some.inj h)
      exact ⟨rfl, .inl ⟨rfl, hopens⟩⟩
    · cases h
  | some old =>
    simp only [hnewest] at h
    split at h
    · split at h
      · cases h
      · cases h
    · split at h
      · next hsucceeds =>
        obtain ⟨-, rfl⟩ := Prod.mk.inj (Option.some.inj h)
        exact ⟨rfl, .inr ⟨old, rfl, hsucceeds⟩⟩
      · cases h

/-- **Nothing is inserted**: the newest row is of that version, and says nothing else. -/
theorem insert_old (h : rule.insert rows a = some (false, rows')) :
    rows' = rows ∧ ∃ old, rule.newest rows (rule.key (rule.row a)) = some old
      ∧ rule.version (rule.row a) = rule.version old ∧ rule.repeats rows old a = true := by
  unfold insert at h
  cases hnewest : rule.newest rows (rule.key (rule.row a)) with
  | none =>
    simp only [hnewest] at h
    split at h
    · cases h
    · cases h
  | some old =>
    simp only [hnewest] at h
    split at h
    · next hversion =>
      split at h
      · next hrepeats =>
        obtain ⟨-, rfl⟩ := Prod.mk.inj (Option.some.inj h)
        exact ⟨rfl, old, rfl, hversion, hrepeats⟩
      · cases h
    · split at h
      · cases h
      · cases h

/-- A version of the newest row is inserted no second time. -/
theorem insert_of_same {old : α} (hnewest : rule.newest rows (rule.key (rule.row a)) = some old)
    (hversion : rule.version (rule.row a) = rule.version old) :
    rule.insert rows a = if rule.repeats rows old a = true then some (false, rows) else none := by
  unfold insert
  simp only [hnewest]
  rw [if_pos hversion]

/-- A version that is older than the newest row is refused. -/
theorem insert_of_older {old : α} (hnewest : rule.newest rows (rule.key (rule.row a)) = some old)
    (hversion : rule.version (rule.row a) < rule.version old) : rule.insert rows a = none := by
  unfold insert
  simp only [hnewest]
  rw [if_neg (Nat.ne_of_lt hversion), if_neg fun h => absurd h.1 (by omega)]

variable (rule)

/-- **Insertions keep the ledger.** -/
theorem kept_insert {Opened : List α → α → Prop} {Succeeded : List α → α → α → Prop}
    (h : rule.Kept Opened Succeeded rows) (a : A)
    (hopens : rule.opens rows a = true → Opened rows (rule.row a))
    (hsucceeds : ∀ old ∈ rows, rule.succeeds rows old a = true → Succeeded rows old (rule.row a))
    {new : Bool} (hinsert : rule.insert rows a = some (new, rows')) : rule.Kept Opened Succeeded rows' := by
  cases new with
  | true =>
    obtain ⟨rfl, ⟨hnone, hversion, hopen⟩ | ⟨old, hold, hversion, hsucceed⟩⟩ := insert_new hinsert
    · exact Journal.concat h (.inl ⟨hnone, hversion, hopens hopen⟩)
    · exact Journal.concat h
        (.inr ⟨old, hold, hversion, hsucceeds old (rule.mem_of_newest hold).1 hsucceed⟩)
  | false =>
    obtain ⟨rfl, -⟩ := insert_old hinsert
    exact h

end LedgerRule

end VentureOS
