import Mathlib.Data.List.Nodup

/-! # Insertion-ordered maps and stores of self-keyed records

`OrderedMap K V` is the `Map` of the JavaScript standard library: a list of entries with pairwise
distinct keys, in the order in which the keys were first set. Setting a present key replaces its
value in place, setting an absent key appends, deleting drops the entry.

`Store K V` is an ordered map whose records carry their own key (`HasKey`): every value is filed
under the key it names, so membership of a record (`r ∈ m`) is the same as finding it under its own
key (`Store.mem_iff_get?`), and `Store.put` is the only way to write. -/

namespace VentureOS

universe u v w

variable {K : Type u} {V : Type v} [DecidableEq K] {k : K} {v : V} {l : List (K × V)}

/-! ## Entry lists -/

/-- The value of the first entry filed under `k`. -/
def lookupEntry (k : K) : List (K × V) → Option V
  | [] => none
  | (k', v) :: rest => if k' = k then some v else lookupEntry k rest

/-- Replace the value of the first entry filed under `k`, or append a new entry. -/
def setEntry (k : K) (v : V) : List (K × V) → List (K × V)
  | [] => [(k, v)]
  | (k', v') :: rest => if k' = k then (k', v) :: rest else (k', v') :: setEntry k v rest

attribute [local simp] lookupEntry setEntry

/-- A key is absent from the entry list iff looking it up fails. -/
theorem lookupEntry_eq_none : lookupEntry k l = none ↔ k ∉ l.map Prod.fst := by
  induction l with
  | nil => simp
  | cons e rest ih =>
    obtain ⟨k', v⟩ := e
    by_cases h : k' = k
    · simp [h]
    · simp [h, ih, Ne.symm h]

/-- Without repeated keys, an entry occurs in the list iff looking its key up finds its value. -/
theorem lookupEntry_eq_some (hl : (l.map Prod.fst).Nodup) : lookupEntry k l = some v ↔ (k, v) ∈ l := by
  induction l with
  | nil => simp
  | cons e rest ih =>
    obtain ⟨k', v'⟩ := e
    rw [List.map_cons, List.nodup_cons] at hl
    by_cases h : k' = k
    · subst h
      have hnot : (k', v) ∉ rest := fun hmem => hl.1 (List.mem_map.mpr ⟨_, hmem, rfl⟩)
      simp [hnot, eq_comm]
    · simp [h, ih hl.2, Ne.symm h]

/-- Looking up after `setEntry`: the new value under its key, the old one elsewhere. -/
theorem lookupEntry_setEntry (k k' : K) (v : V) (l : List (K × V)) :
    lookupEntry k' (setEntry k v l) = if k' = k then some v else lookupEntry k' l := by
  induction l with
  | nil => simp [eq_comm]
  | cons e rest ih =>
    obtain ⟨k₀, v₀⟩ := e
    by_cases h : k₀ = k
    · subst h
      by_cases h' : k₀ = k'
      · simp [h']
      · simp [h', Ne.symm h']
    · by_cases h' : k₀ = k'
      · subst h'; simp [h]
      · simp [h, h', ih]

/-- `setEntry` keeps the key list, or appends the new key at its end. -/
theorem map_fst_setEntry (k : K) (v : V) (l : List (K × V)) :
    (setEntry k v l).map Prod.fst
      = if k ∈ l.map Prod.fst then l.map Prod.fst else l.map Prod.fst ++ [k] := by
  induction l with
  | nil => simp
  | cons e rest ih =>
    obtain ⟨k₀, v₀⟩ := e
    by_cases h : k₀ = k
    · simp [h]
    · rw [setEntry, if_neg h, List.map_cons, ih]
      by_cases hk : k ∈ rest.map Prod.fst
      · simp [hk]
      · simp [hk, Ne.symm h]

/-- Setting an absent key appends its entry. -/
theorem setEntry_of_lookup_none (v : V) (h : lookupEntry k l = none) : setEntry k v l = l ++ [(k, v)] := by
  induction l with
  | nil => rfl
  | cons e rest ih =>
    obtain ⟨k₀, v₀⟩ := e
    by_cases hk : k₀ = k
    · simp [hk] at h
    · rw [lookupEntry, if_neg hk] at h
      rw [setEntry, if_neg hk, ih h, List.cons_append]

/-- Setting a key to the value it has changes nothing. -/
theorem setEntry_self (h : lookupEntry k l = some v) : setEntry k v l = l := by
  induction l with
  | nil => cases h
  | cons e rest ih =>
    obtain ⟨k', v'⟩ := e
    by_cases hk : k' = k
    · simp only [lookupEntry, if_pos hk, Option.some.injEq] at h
      simp [hk, h]
    · simp only [lookupEntry, if_neg hk] at h
      simp [hk, ih h]

variable {old : V}

/-- Overwriting a present key does not change what a function that agrees on the two values sees. -/
theorem map_snd_setEntry {W : Type w} {g : V → W} (h : lookupEntry k l = some old) (hg : g v = g old) :
    (setEntry k v l).map (fun e => g e.2) = l.map (fun e => g e.2) := by
  induction l with
  | nil => simp at h
  | cons e rest ih =>
    obtain ⟨k₀, v₀⟩ := e
    by_cases hk : k₀ = k
    · rw [lookupEntry, if_pos hk, Option.some.injEq] at h
      simp [hk, hg, h]
    · rw [lookupEntry, if_neg hk] at h
      simp [hk, ih h]

/-- Writing a value outside `p` leaves no more values in `p`. -/
theorem filter_map_snd_setEntry_sublist {p : V → Bool} (hv : p v = false) (l : List (K × V)) :
    (((setEntry k v l).map Prod.snd).filter p).Sublist ((l.map Prod.snd).filter p) := by
  induction l with
  | nil => simp [hv]
  | cons e rest ih =>
    obtain ⟨k₀, v₀⟩ := e
    by_cases hk : k₀ = k
    · rw [setEntry, if_pos hk, List.map_cons, List.map_cons, List.filter_cons_of_neg (by simp [hv])]
      exact (List.sublist_cons_self v₀ _).filter p
    · rw [setEntry, if_neg hk, List.map_cons, List.map_cons]
      by_cases hp : p v₀ = true
      · rw [List.filter_cons_of_pos hp, List.filter_cons_of_pos hp]
        exact ih.cons_cons v₀
      · rw [List.filter_cons_of_neg hp, List.filter_cons_of_neg hp]
        exact ih

/-- Overwriting a present key and then writing its old value back restores the entry list. -/
theorem setEntry_setEntry_restore (v : V) (h : lookupEntry k l = some old) :
    setEntry k old (setEntry k v l) = l := by
  induction l with
  | nil => simp at h
  | cons e rest ih =>
    obtain ⟨k₀, v₀⟩ := e
    by_cases hk : k₀ = k
    · rw [lookupEntry, if_pos hk, Option.some.injEq] at h
      simp [hk, h]
    · rw [lookupEntry, if_neg hk] at h
      simp [hk, ih h]

/-! ## Ordered maps -/

/-- An insertion-ordered map: entries with pairwise distinct keys, oldest key first. -/
structure OrderedMap (K : Type u) (V : Type v) where
  /-- The entries, in the order in which their keys were first set. -/
  entries : List (K × V)
  /-- No key has two entries. -/
  nodup_keys : (entries.map Prod.fst).Nodup

variable {m : OrderedMap K V}

namespace OrderedMap

/-- The map without entries. -/
def empty : OrderedMap K V := ⟨[], List.nodup_nil⟩

/-- `map.get(k)`. -/
def get? (m : OrderedMap K V) (k : K) : Option V := lookupEntry k m.entries

/-- `map.has(k)`. -/
def has (m : OrderedMap K V) (k : K) : Bool := (m.get? k).isSome

/-- `[...map.values()]`, oldest key first. -/
def values (m : OrderedMap K V) : List V := m.entries.map Prod.snd

/-- `map.set(k, v)`. -/
def set (m : OrderedMap K V) (k : K) (v : V) : OrderedMap K V :=
  ⟨setEntry k v m.entries, by
    rw [map_fst_setEntry]
    split
    · exact m.nodup_keys
    · rename_i h
      exact List.nodup_append.mpr ⟨m.nodup_keys, List.nodup_singleton k,
        fun a ha b hb hab => h (List.mem_singleton.mp hb ▸ hab ▸ ha)⟩⟩

/-- `map.delete(k)`. -/
def delete (m : OrderedMap K V) (k : K) : OrderedMap K V :=
  ⟨m.entries.filter (fun e => decide (e.1 ≠ k)), m.nodup_keys.sublist (List.filter_sublist.map Prod.fst)⟩

omit [DecidableEq K] in
/-- Maps with the same entries in the same order are equal. -/
@[ext] theorem ext {m' : OrderedMap K V} (h : m.entries = m'.entries) : m = m' := by
  cases m; cases m'; cases h; rfl

@[simp] theorem get?_empty (k : K) : (empty : OrderedMap K V).get? k = none := rfl

/-- A value is listed iff it is filed under some key. -/
theorem mem_values : v ∈ m.values ↔ ∃ k, m.get? k = some v := by
  simp [values, get?, lookupEntry_eq_some m.nodup_keys]

@[simp] theorem get?_set (m : OrderedMap K V) (k k' : K) (v : V) :
    (m.set k v).get? k' = if k' = k then some v else m.get? k' :=
  lookupEntry_setEntry k k' v m.entries

@[simp] theorem get?_delete (m : OrderedMap K V) (k k' : K) :
    (m.delete k).get? k' = if k' = k then none else m.get? k' := by
  refine Option.ext fun v => ?_
  rw [get?, lookupEntry_eq_some (m.delete k).nodup_keys]
  by_cases h : k' = k
  · simp [delete, h]
  · rw [if_neg h, get?, lookupEntry_eq_some m.nodup_keys]
    simp [delete, h]

@[simp] theorem has_iff : m.has k = true ↔ ∃ v, m.get? k = some v := by
  simp [has, Option.isSome_iff_exists]

/-- A fresh key appends its value to the value list. -/
theorem values_set_of_fresh (v : V) (h : m.get? k = none) : (m.set k v).values = m.values ++ [v] := by
  simp only [values, set, setEntry_of_lookup_none v h, List.map_append, List.map_cons, List.map_nil]

/-- Setting an absent key and deleting it again restores the map. -/
theorem delete_set_of_fresh (v : V) (h : m.get? k = none) : (m.set k v).delete k = m := by
  have hk : k ∉ m.entries.map Prod.fst := lookupEntry_eq_none.mp h
  refine ext ?_
  simp only [delete, set, setEntry_of_lookup_none v h, List.filter_append]
  have hall : m.entries.filter (fun e => decide (e.1 ≠ k)) = m.entries := by
    refine List.filter_eq_self.mpr fun e he => decide_eq_true fun heq => hk ?_
    exact List.mem_map.mpr ⟨e, he, heq⟩
  rw [hall]; simp

/-- Overwriting a key and writing its old value back restores the map. -/
theorem set_set_restore (v : V) (h : m.get? k = some old) : (m.set k v).set k old = m :=
  ext (setEntry_setEntry_restore v h)

end OrderedMap

/-! ## Stores of self-keyed records -/

/-- Records of `V` name the key of `K` they are filed under. -/
class HasKey (K : outParam (Type u)) (V : Type v) where
  /-- The key a record names. -/
  keyOf : V → K

export HasKey (keyOf)

/-- An ordered map that files every record under the key the record names. -/
structure Store (K : Type u) (V : Type v) [DecidableEq K] [HasKey K V] where
  /-- The underlying map. -/
  map : OrderedMap K V
  /-- Every record is filed under its own key. -/
  keyed : ∀ k v, map.get? k = some v → keyOf v = k

variable {w : V}

namespace Store

variable [HasKey K V] {m : Store K V}

/-- The store without records. -/
def empty : Store K V := ⟨OrderedMap.empty, fun _ _ h => by simp at h⟩

/-- The record filed under `k`. -/
def get? (m : Store K V) (k : K) : Option V := m.map.get? k

/-- Whether a record is filed under `k`. -/
def has (m : Store K V) (k : K) : Bool := m.map.has k

/-- The records, oldest key first. -/
def values (m : Store K V) : List V := m.map.values

/-- File a record under its own key. -/
def put (m : Store K V) (v : V) : Store K V :=
  ⟨m.map.set (keyOf v) v, fun k w h => by
    rw [OrderedMap.get?_set] at h
    split at h
    · rename_i hk; rw [Option.some.injEq] at h; rw [← h, hk]
    · exact m.keyed k w h⟩

/-- Drop the record filed under `k`. -/
def delete (m : Store K V) (k : K) : Store K V :=
  ⟨m.map.delete k, fun k' w h => by
    rw [OrderedMap.get?_delete] at h
    split at h
    · cases h
    · exact m.keyed k' w h⟩

instance : Membership V (Store K V) := ⟨fun m v => m.get? (keyOf v) = some v⟩

/-- Membership of a record is finding it under its own key. -/
theorem mem_iff_get? : v ∈ m ↔ m.get? (keyOf v) = some v := Iff.rfl

/-- A record found under a key belongs to the store. -/
theorem mem_of_get? (h : m.get? k = some v) : v ∈ m := by
  rw [mem_iff_get?, m.keyed k v h]; exact h

/-- A record found under a key names that key. -/
theorem keyOf_of_get? (h : m.get? k = some v) : keyOf v = k :=
  m.keyed k v h

/-- Two records of a store with the same key are the same record. -/
theorem eq_of_keyOf_eq (hv : v ∈ m) (hw : w ∈ m) (h : keyOf v = keyOf w) : v = w := by
  rw [mem_iff_get?] at hv hw
  rw [h, hw, Option.some.injEq] at hv
  exact hv.symm

/-- The records listed are exactly the members. -/
@[simp] theorem mem_values : v ∈ m.values ↔ v ∈ m := by
  rw [values, OrderedMap.mem_values]
  exact ⟨fun ⟨_, h⟩ => mem_of_get? h, fun h => ⟨_, h⟩⟩

@[simp] theorem get?_empty (k : K) : (empty : Store K V).get? k = none := rfl

@[simp] theorem not_mem_empty (v : V) : ¬ v ∈ (empty : Store K V) := by simp [mem_iff_get?]

@[simp] theorem get?_put (m : Store K V) (v : V) (k : K) :
    (m.put v).get? k = if k = keyOf v then some v else m.get? k :=
  m.map.get?_set (keyOf v) k v

/-- After `put v` the members are `v` and the old records with another key. -/
theorem mem_put : w ∈ m.put v ↔ w = v ∨ (w ∈ m ∧ keyOf w ≠ keyOf v) := by
  rw [mem_iff_get?, get?_put]
  by_cases h : keyOf w = keyOf v
  · simp [h, eq_comm]
  · have hne : w ≠ v := fun hw => h (hw ▸ rfl)
    simp [h, hne, mem_iff_get?]

/-- The record put is a member. -/
@[simp] theorem mem_put_self (m : Store K V) (v : V) : v ∈ m.put v := mem_put.mpr (Or.inl rfl)

/-- Replacing a record by a related one relates every record to its successor. -/
theorem exists_get?_put {R : V → V → Prop} (hrefl : ∀ v, R v v) {v' : V} (hv : v ∈ m)
    (hkey : keyOf v' = keyOf v) (hR : R v v')
    (hold : m.get? k = some old) :
    ∃ new, (m.put v').get? k = some new ∧ R old new := by
  rw [get?_put, hkey]
  split
  · rename_i hk
    rw [hk, mem_iff_get?.mp hv, Option.some.injEq] at hold
    exact ⟨v', rfl, hold ▸ hR⟩
  · exact ⟨old, hold, hrefl old⟩

/-- Putting a record under a fresh key leaves the others. -/
theorem get?_put_of_fresh (hfresh : m.get? (keyOf v) = none)
    (hold : m.get? k = some old) : (m.put v).get? k = some old := by
  rw [get?_put, if_neg]
  · exact hold
  · intro hk
    rw [hk, hfresh] at hold
    cases hold

/-- Under a fresh key `put` only adds. -/
theorem mem_put_of_fresh (h : m.get? (keyOf v) = none) : w ∈ m.put v ↔ w = v ∨ w ∈ m := by
  rw [mem_put]
  refine or_congr_right ⟨fun hw => hw.1, fun hw => ⟨hw, fun hk => ?_⟩⟩
  rw [mem_iff_get?, hk, h] at hw
  cases hw

/-- A record put under a fresh key is listed last. -/
theorem values_put_of_fresh (h : m.get? (keyOf v) = none) : (m.put v).values = m.values ++ [v] :=
  OrderedMap.values_set_of_fresh v h

/-- Overwriting a record does not change what a function that agrees on the two records sees. -/
theorem map_values_put {W : Type w} {g : V → W} (h : m.get? (keyOf v) = some old) (hg : g v = g old) :
    (m.put v).values.map g = m.values.map g := by
  have hentries : (m.put v).map.entries.map (fun e => g e.2) = m.map.entries.map (fun e => g e.2) :=
    map_snd_setEntry h hg
  simp only [values, OrderedMap.values, List.map_map]
  exact hentries

/-- A record put over another takes its place in the list. -/
theorem values_put_of_some (h : m.get? (keyOf v) = some old) :
    (m.put v).values = m.values.map fun w => if keyOf w = keyOf v then v else w := by
  have key : ∀ l : List (K × V), (∀ e ∈ l, keyOf e.2 = e.1) → (l.map Prod.fst).Nodup →
      lookupEntry (keyOf v) l = some old → (setEntry (keyOf v) v l).map Prod.snd
        = (l.map Prod.snd).map fun w => if keyOf w = keyOf v then v else w := by
    intro l
    induction l with
    | nil => exact fun _ _ h => (by cases h)
    | cons e rest ih =>
      intro hkeyed hnodup hlookup
      obtain ⟨k₀, v₀⟩ := e
      obtain ⟨hhead, hrest⟩ := List.forall_mem_cons.mp hkeyed
      rw [List.map_cons, List.nodup_cons] at hnodup
      by_cases hk : k₀ = keyOf v
      · -- No later record has the key.
        have hsame : (rest.map Prod.snd).map (fun w => if keyOf w = keyOf v then v else w)
            = rest.map Prod.snd := by
          rw [List.map_map]
          refine List.map_congr_left fun e he => if_neg fun hkey => hnodup.1 ?_
          rw [hrest e he] at hkey
          exact List.mem_map.mpr ⟨e, he, hkey.trans hk.symm⟩
        rw [setEntry, if_pos hk, List.map_cons, List.map_cons, List.map_cons, hsame, if_pos (hhead.trans hk)]
      · rw [lookupEntry, if_neg hk] at hlookup
        rw [setEntry, if_neg hk, List.map_cons, List.map_cons, List.map_cons,
          ih hrest hnodup.2 hlookup, if_neg fun hkey => hk (hhead.symm.trans hkey)]
  refine key m.map.entries (fun e he => ?_) m.map.nodup_keys h
  exact m.keyed e.1 e.2 ((lookupEntry_eq_some m.map.nodup_keys).mpr he)

/-! ### Filing several records -/

section PutAll

variable {m' : Store K V} {l : List V}

/-- Filing records leaves the keys they do not name. -/
theorem get?_foldl_put_of_not_mem (hk : k ∉ l.map keyOf) : (l.foldl put m).get? k = m.get? k := by
  induction l generalizing m with
  | nil => rfl
  | cons v l ih =>
    rw [List.map_cons, List.mem_cons, not_or] at hk
    rw [List.foldl_cons, ih hk.2, get?_put, if_neg hk.1]

/-- Of records with distinct keys each is filed. -/
theorem get?_foldl_put_of_mem (hl : (l.map keyOf).Nodup) (hv : v ∈ l) :
    (l.foldl put m).get? (keyOf v) = some v := by
  induction l generalizing m with
  | nil => cases hv
  | cons v₀ l ih =>
    rw [List.map_cons, List.nodup_cons] at hl
    rw [List.foldl_cons]
    rcases List.mem_cons.mp hv with rfl | hv
    · rw [get?_foldl_put_of_not_mem hl.1, get?_put, if_pos rfl]
    · exact ih hl.2 hv

/-- Filing records under distinct fresh keys lists them last. -/
theorem values_foldl_put (hl : (l.map keyOf).Nodup) (hfresh : ∀ v ∈ l, m.get? (keyOf v) = none) :
    (l.foldl put m).values = m.values ++ l := by
  induction l generalizing m with
  | nil => simp
  | cons v₀ l ih =>
    rw [List.map_cons, List.nodup_cons] at hl
    have hrest : ∀ v ∈ l, (m.put v₀).get? (keyOf v) = none := by
      intro v hv
      have hne : keyOf v ≠ keyOf v₀ := fun h => hl.1 (h ▸ List.mem_map_of_mem hv)
      rw [get?_put, if_neg hne]
      exact hfresh v (List.mem_cons_of_mem _ hv)
    rw [List.foldl_cons, ih hl.2 hrest, values_put_of_fresh (hfresh v₀ List.mem_cons_self)]
    simp

/-- Filing records under distinct fresh keys only adds them. -/
theorem mem_foldl_put (hl : (l.map keyOf).Nodup)
    (hfresh : ∀ v ∈ l, m.get? (keyOf v) = none) : w ∈ l.foldl put m ↔ w ∈ m ∨ w ∈ l := by
  rw [← mem_values, values_foldl_put hl hfresh, List.mem_append, mem_values]

/-- Filing records under fresh keys keeps the old ones. -/
theorem get?_foldl_put_of_fresh (hfresh : ∀ v ∈ l, m.get? (keyOf v) = none)
    (hold : m.get? k = some old) : (l.foldl put m).get? k = some old := by
  rw [get?_foldl_put_of_not_mem, hold]
  intro hk
  obtain ⟨v, hv, rfl⟩ := List.mem_map.mp hk
  rw [hfresh v hv] at hold
  cases hold

/-- Records with distinct keys, all new to `m`, were filed one after the other. -/
structure Filed (m : Store K V) (l : List V) (m' : Store K V) : Prop where
  eq_foldl : m' = l.foldl put m
  distinct : (l.map keyOf).Nodup
  fresh : ∀ v ∈ l, m.get? (keyOf v) = none

/-- Nothing was filed. -/
theorem Filed.nil (m : Store K V) : Filed m [] m :=
  ⟨rfl, List.nodup_nil, fun _ h => absurd h List.not_mem_nil⟩

/-- The old records keep their places. -/
theorem Filed.get?_of_some (h : Filed m l m') (hold : m.get? k = some old) : m'.get? k = some old := by
  rw [h.eq_foldl]
  exact get?_foldl_put_of_fresh h.fresh hold

/-- The new records are found. -/
theorem Filed.get?_of_mem (h : Filed m l m') (hv : v ∈ l) : m'.get? (keyOf v) = some v := by
  rw [h.eq_foldl]
  exact get?_foldl_put_of_mem h.distinct hv

/-- Nothing else changed. -/
theorem Filed.get?_of_not_mem (h : Filed m l m') (hk : k ∉ l.map keyOf) : m'.get? k = m.get? k := by
  rw [h.eq_foldl]
  exact get?_foldl_put_of_not_mem hk

/-- One record more was filed. -/
theorem Filed.concat (h : Filed m l m') (hv : m'.get? (keyOf v) = none) : Filed m (l ++ [v]) (m'.put v) := by
  have hnot : keyOf v ∉ l.map keyOf := by
    intro hmem
    obtain ⟨w, hw, hkey⟩ := List.mem_map.mp hmem
    rw [← hkey, h.get?_of_mem hw] at hv
    cases hv
  have hfresh : m.get? (keyOf v) = none := by
    cases hold : m.get? (keyOf v) with
    | none => rfl
    | some old =>
      rw [h.get?_of_some hold] at hv
      cases hv
  refine ⟨?_, ?_, ?_⟩
  · rw [List.foldl_append, ← h.eq_foldl]
    rfl
  · rw [List.map_append, List.nodup_append]
    refine ⟨h.distinct, List.nodup_singleton _, fun a ha b hb hab => ?_⟩
    obtain rfl := List.mem_singleton.mp hb
    exact hnot (hab ▸ ha)
  · intro w hw
    rcases List.mem_append.mp hw with hw | hw
    · exact h.fresh w hw
    · exact List.mem_singleton.mp hw ▸ hfresh

/-- What was filed is listed last. -/
theorem Filed.values_eq (h : Filed m l m') : m'.values = m.values ++ l := by
  rw [h.eq_foldl, values_foldl_put h.distinct h.fresh]

/-- The records are the old and the new ones. -/
theorem Filed.mem_iff (h : Filed m l m') : w ∈ m' ↔ w ∈ m ∨ w ∈ l := by
  rw [h.eq_foldl, mem_foldl_put h.distinct h.fresh]

end PutAll

@[simp] theorem get?_delete (m : Store K V) (k k' : K) :
    (m.delete k).get? k' = if k' = k then none else m.get? k' :=
  m.map.get?_delete k k'

/-- After `delete k` the members are the old records with another key. -/
theorem mem_delete : w ∈ m.delete k ↔ w ∈ m ∧ keyOf w ≠ k := by
  rw [mem_iff_get?, get?_delete]
  by_cases h : keyOf w = k
  · simp [h]
  · simp [h, mem_iff_get?]

/-- Putting a record outside `p` leaves no more records in `p`. -/
theorem filter_values_put_sublist {p : V → Bool} (hv : p v = false) (m : Store K V) :
    ((m.put v).values.filter p).Sublist (m.values.filter p) :=
  filter_map_snd_setEntry_sublist hv m.map.entries

/-- Deleting leaves no more records. -/
theorem values_delete_sublist (m : Store K V) (k : K) : (m.delete k).values.Sublist m.values :=
  List.filter_sublist.map Prod.snd

/-- `has` decides whether a record is filed under the key. -/
@[simp] theorem has_eq_false : m.has k = false ↔ m.get? k = none := by
  simp [has, OrderedMap.has, get?]

/-- Putting a record under a fresh key and deleting it again restores the store. -/
theorem delete_put_of_fresh (h : m.get? (keyOf v) = none) : (m.put v).delete (keyOf v) = m := by
  obtain ⟨map, keyed⟩ := m
  simp only [delete, put, OrderedMap.delete_set_of_fresh v h]

/-- Overwriting a record and putting the old one back restores the store. -/
theorem put_put_restore (h : m.get? (keyOf v) = some old) : (m.put v).put old = m := by
  have hk : keyOf old = keyOf v := m.keyed _ _ h
  obtain ⟨map, keyed⟩ := m
  simp only [put, hk, OrderedMap.set_set_restore v h]

/-- The records listed have keys of their own. -/
theorem nodup_map_keyOf_values (m : Store K V) : (m.values.map keyOf).Nodup := by
  have hkeys : m.values.map keyOf = m.map.entries.map Prod.fst := by
    rw [values, OrderedMap.values, List.map_map]
    refine List.map_congr_left fun e he => ?_
    exact m.keyed e.1 e.2 ((lookupEntry_eq_some m.map.nodup_keys).mpr he)
  rw [hkeys]
  exact m.map.nodup_keys

/-- Writing a record back changes nothing. -/
theorem put_self (h : v ∈ m) : m.put v = m := by
  obtain ⟨map, keyed⟩ := m
  have hset : map.set (keyOf v) v = map := OrderedMap.ext (setEntry_self h)
  simp only [put, hset]

end Store

/-! ## Restriction to some of the keys -/

section Restriction

variable {p : K → Bool}

/-- Looking up among the entries with keys in `p`. -/
theorem lookupEntry_filter (p : K → Bool) (k : K) (l : List (K × V)) :
    lookupEntry k (l.filter fun e => p e.1) = if p k = true then lookupEntry k l else none := by
  induction l with
  | nil => simp
  | cons e rest ih =>
    obtain ⟨k₀, v₀⟩ := e
    by_cases hk : k₀ = k
    · subst hk
      by_cases hp : p k₀ = true
      · simp [hp]
      · simp [hp, ih]
    · by_cases hp : p k₀ = true
      · simp [hp, hk, ih]
      · simp [hp, hk, ih]

/-- Setting a key in `p` and restricting to `p` may be exchanged. -/
theorem filter_setEntry_of_mem (hk : p k = true) (l : List (K × V)) :
    (setEntry k v l).filter (fun e => p e.1) = setEntry k v (l.filter fun e => p e.1) := by
  induction l with
  | nil => simp [hk]
  | cons e rest ih =>
    obtain ⟨k₀, v₀⟩ := e
    by_cases h : k₀ = k
    · subst h
      simp [hk]
    · rw [setEntry, if_neg h]
      by_cases hp : p k₀ = true
      · simp [hp, h, ih]
      · simp [hp, ih]

/-- Setting a key outside `p` is not seen in the restriction to `p`. -/
theorem filter_setEntry_of_not_mem (hk : p k = false) (l : List (K × V)) :
    (setEntry k v l).filter (fun e => p e.1) = l.filter fun e => p e.1 := by
  induction l with
  | nil => simp [hk]
  | cons e rest ih =>
    obtain ⟨k₀, v₀⟩ := e
    by_cases h : k₀ = k
    · subst h
      simp [hk]
    · rw [setEntry, if_neg h]
      by_cases hp : p k₀ = true
      · simp [hp, ih]
      · simp [hp, ih]

/-- Without repeated keys, dropping a key drops the entry at its position. -/
theorem filter_ne_eq_eraseIdx (hl : (l.map Prod.fst).Nodup) {i : Nat} (h : l[i]? = some (k, v)) :
    l.filter (fun e => decide (e.1 ≠ k)) = l.eraseIdx i := by
  induction l generalizing i with
  | nil => simp at h
  | cons e rest ih =>
    rw [List.map_cons, List.nodup_cons] at hl
    cases i with
    | zero =>
      obtain rfl : e = (k, v) := by simpa using h
      have hall : ∀ e ∈ rest, decide (e.1 ≠ k) = true := fun e he =>
        decide_eq_true fun hk => hl.1 (List.mem_map.mpr ⟨e, he, hk⟩)
      rw [List.filter_cons_of_neg (by simp), List.filter_eq_self.mpr hall,
        List.eraseIdx_cons_zero]
    | succ i =>
      have hrest : rest[i]? = some (k, v) := by simpa using h
      have hne : e.1 ≠ k := fun hk =>
        hl.1 (List.mem_map.mpr ⟨(k, v), List.mem_of_getElem? hrest, hk.symm⟩)
      rw [List.filter_cons_of_pos (by simpa using hne), ih hl.2 hrest, List.eraseIdx_cons_succ]

namespace OrderedMap

/-- The entries whose keys are in `p`, in their order. -/
def restrict (p : K → Bool) (m : OrderedMap K V) : OrderedMap K V :=
  ⟨m.entries.filter (fun e => p e.1), m.nodup_keys.sublist (List.filter_sublist.map Prod.fst)⟩

@[simp] theorem get?_restrict (p : K → Bool) (m : OrderedMap K V) (k : K) :
    (m.restrict p).get? k = if p k = true then m.get? k else none :=
  lookupEntry_filter p k m.entries

theorem restrict_set_of_mem (hk : p k = true) (m : OrderedMap K V) :
    (m.set k v).restrict p = (m.restrict p).set k v :=
  ext (filter_setEntry_of_mem hk m.entries)

theorem restrict_set_of_not_mem (hk : p k = false) (m : OrderedMap K V) :
    (m.set k v).restrict p = m.restrict p :=
  ext (filter_setEntry_of_not_mem hk m.entries)

theorem restrict_delete (p : K → Bool) (m : OrderedMap K V) (k : K) :
    (m.delete k).restrict p = (m.restrict p).delete k := by
  refine ext ?_
  simp only [restrict, delete]
  exact List.filter_comm _ _ _

theorem restrict_delete_of_not_mem (hk : p k = false) (m : OrderedMap K V) :
    (m.delete k).restrict p = m.restrict p := by
  refine ext ?_
  simp only [restrict, delete, List.filter_filter]
  refine List.filter_congr fun e _ => ?_
  by_cases hp : p e.1 = true
  · have hne : e.1 ≠ k := fun h => by rw [h, hk] at hp; cases hp
    simp [hp, hne]
  · simp [hp]

end OrderedMap

namespace Store

variable [HasKey K V]

/-- The records whose keys are in `p`, in their order. -/
def restrict (p : K → Bool) (m : Store K V) : Store K V :=
  ⟨m.map.restrict p, fun k w h => by
    rw [OrderedMap.get?_restrict] at h
    split at h
    · exact m.keyed k w h
    · cases h⟩

theorem ext_map {m m' : Store K V} (h : m.map = m'.map) : m = m' := by
  cases m; cases m'; cases h; rfl

@[simp] theorem get?_restrict (p : K → Bool) (m : Store K V) (k : K) :
    (m.restrict p).get? k = if p k = true then m.get? k else none :=
  m.map.get?_restrict p k

/-- The restricted records are the records with their keys in `p`. -/
theorem values_restrict (p : K → Bool) (m : Store K V) :
    (m.restrict p).values = m.values.filter fun v => p (keyOf v) := by
  have hkeyed : ∀ e ∈ m.map.entries, p e.1 = p (keyOf e.2) := by
    intro e he
    rw [m.keyed e.1 e.2 ((lookupEntry_eq_some m.map.nodup_keys).mpr he)]
  show (m.map.entries.filter fun e => p e.1).map Prod.snd
    = (m.map.entries.map Prod.snd).filter fun v => p (keyOf v)
  rw [List.filter_map]
  exact congrArg (List.map Prod.snd) (List.filter_congr hkeyed)

theorem restrict_put_of_mem (hv : p (keyOf v) = true) (m : Store K V) :
    (m.put v).restrict p = (m.restrict p).put v :=
  ext_map (OrderedMap.restrict_set_of_mem hv m.map)

theorem restrict_put_of_not_mem (hv : p (keyOf v) = false) (m : Store K V) :
    (m.put v).restrict p = m.restrict p :=
  ext_map (OrderedMap.restrict_set_of_not_mem hv m.map)

theorem restrict_delete (p : K → Bool) (m : Store K V) (k : K) :
    (m.delete k).restrict p = (m.restrict p).delete k :=
  ext_map (m.map.restrict_delete p k)

theorem restrict_delete_of_not_mem (hk : p k = false) (m : Store K V) :
    (m.delete k).restrict p = m.restrict p :=
  ext_map (OrderedMap.restrict_delete_of_not_mem hk m.map)

end Store

end Restriction

end VentureOS
