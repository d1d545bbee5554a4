import VentureOS.Foundations.Interleaving
import VentureOS.Foundations.OrderedMap

/-! # Replay memories

A replay memory keeps the keys that are in use, and those that were used, each until its expiry. A check first
forgets what has expired at its reading of the clock; then it admits a key that is neither in use nor
remembered, as long as there is room, and from then on the key is in use and remembered. A key is no longer in
use when it is released.

What is to be used at most once is a tag `t : T`, remembered under `key t`. A tag is admitted once, whatever
happens between (`uses_le_one`), if it is only checked again while its first use is not released, or while no
check has reached its expiry (`Guarded`). -/

namespace VentureOS

universe u v w x y z

/-- The keys in use, and the keys that were used with their expiries. -/
structure ReplayMemory (K : Type u) where
  active : List K
  used : OrderedMap K Int

/-- Why a check admits nothing. -/
inductive ReplayRefusal where
  | concurrent
  | used
  | full
  deriving DecidableEq, Repr

/-- A tag is to be used: at a reading of the clock, and to be remembered until its expiry. -/
structure ReplayCheck (T : Type v) where
  tag : T
  now : Int
  expiresAt : Int
  deriving DecidableEq, Repr

/-- What is done with a memory. -/
inductive ReplayOp (K : Type u) (T : Type v) where
  | check (x : ReplayCheck T)
  | release (k : K)

variable {e : ReplayRefusal} {expiresAt : Int}

namespace ReplayMemory

variable {K : Type u} {T : Type v} [DecidableEq K]

def empty : ReplayMemory K := ⟨[], .empty⟩

/-- What has expired is forgotten. -/
def purge (now : Int) (m : ReplayMemory K) : ReplayMemory K :=
  { m with
    used := ⟨m.used.entries.filter fun e => decide (now < e.2),
      m.used.nodup_keys.sublist (List.filter_sublist.map Prod.fst)⟩ }

/-- What a check answers, once the memory is purged. -/
def admits (capacity : Nat) (k : K) (m : ReplayMemory K) : Except ReplayRefusal Unit :=
  if k ∈ m.active then .error .concurrent
  else if m.used.has k = true then .error .used
  else if capacity ≤ m.used.entries.length then .error .full
  else .ok ()

/-- A check. -/
def check (key : T → K) (capacity : Nat) (x : ReplayCheck T) (m : ReplayMemory K) :
    Except ReplayRefusal Unit × ReplayMemory K :=
  let purged := m.purge x.now
  match admits capacity (key x.tag) purged with
  | .ok () => (.ok (), ⟨key x.tag :: purged.active, purged.used.set (key x.tag) x.expiresAt⟩)
  | .error e => (.error e, purged)

/-- A key is no longer in use. -/
def release (k : K) (m : ReplayMemory K) : ReplayMemory K :=
  { m with active := m.active.filter fun k' => decide (k' ≠ k) }

variable (key : T → K) (capacity : Nat)

/-- One operation. -/
def apply (m : ReplayMemory K) : ReplayOp K T → ReplayMemory K
  | .check x => (m.check key capacity x).2
  | .release k => m.release k

/-- Some operations. -/
def replay (m : ReplayMemory K) (ops : List (ReplayOp K T)) : ReplayMemory K :=
  ops.foldl (apply key capacity) m

theorem replay_append (m : ReplayMemory K) (ops ops' : List (ReplayOp K T)) :
    m.replay key capacity (ops ++ ops') = (m.replay key capacity ops).replay key capacity ops' :=
  List.foldl_append

/-! ## Purging -/

theorem get?_purge (now : Int) (m : ReplayMemory K) (k : K) :
    (m.purge now).used.get? k = (m.used.get? k).filter fun expiresAt => decide (now < expiresAt) := by
  refine Option.ext fun expiresAt => ?_
  rw [OrderedMap.get?, lookupEntry_eq_some (m.purge now).used.nodup_keys, Option.filter_eq_some_iff,
    OrderedMap.get?, lookupEntry_eq_some m.used.nodup_keys]
  exact List.mem_filter

omit [DecidableEq K] in
theorem active_purge (now : Int) (m : ReplayMemory K) : (m.purge now).active = m.active := rfl

variable {k : K}

/-- What has not expired is kept. -/
theorem get?_purge_of_lt {now : Int} {m : ReplayMemory K}
    (h : m.used.get? k = some expiresAt) (hnow : now < expiresAt) :
    (m.purge now).used.get? k = some expiresAt := by
  rw [get?_purge, h]
  exact if_pos (decide_eq_true hnow)

/-! ## Checks -/

variable {key capacity} {x : ReplayCheck T} {m : ReplayMemory K}

theorem admits_eq_ok : m.admits capacity k = .ok () ↔ k ∉ m.active ∧ m.used.get? k = none
      ∧ m.used.entries.length < capacity := by
  unfold admits
  by_cases hactive : k ∈ m.active
  · simp [hactive]
  · by_cases hused : m.used.has k = true
    · obtain ⟨expiresAt, hget⟩ := OrderedMap.has_iff.mp hused
      simp [hactive, hused, hget]
    · have hnone : m.used.get? k = none := by
        rw [OrderedMap.has, Option.isSome_iff_ne_none, not_not] at hused
        exact hused
      rw [if_neg hactive, if_neg hused]
      by_cases hroom : capacity ≤ m.used.entries.length
      · simp [hroom]
      · simp [hroom, hactive, hnone, Nat.not_le.mp hroom]

theorem check_eq_ok : (m.check key capacity x).1 = .ok () ↔
    (m.purge x.now).admits capacity (key x.tag) = .ok () := by
  unfold check
  cases hadmits : (m.purge x.now).admits capacity (key x.tag) <;> simp only [hadmits]

/-- An admitted key is in use and remembered. -/
theorem check_of_admitted (h : (m.check key capacity x).1 = .ok ()) :
    (m.check key capacity x).2
      = ⟨key x.tag :: m.active, (m.purge x.now).used.set (key x.tag) x.expiresAt⟩ := by
  rw [check_eq_ok] at h
  simp only [check, h]
  rfl

/-- A refused check only forgets. -/
theorem check_of_refused (h : (m.check key capacity x).1 = .error e) :
    (m.check key capacity x).2 = m.purge x.now := by
  unfold check at h ⊢
  cases hadmits : (m.purge x.now).admits capacity (key x.tag) with
  | ok u =>
    simp only [hadmits] at h
    cases h
  | error e => simp only [hadmits]

/-- A key in use is not admitted. -/
theorem not_admitted_of_active (h : key x.tag ∈ m.active) : (m.check key capacity x).1 ≠ .ok () :=
  fun hok => (admits_eq_ok.mp (check_eq_ok.mp hok)).1 h

/-- A key in use is refused as such. -/
theorem concurrent_of_active (h : key x.tag ∈ m.active) :
    m.check key capacity x = (.error .concurrent, m.purge x.now) := by
  have hadmits : (m.purge x.now).admits capacity (key x.tag) = .error .concurrent := if_pos h
  simp only [check, hadmits]

/-- An empty memory admits a key. -/
theorem check_empty (hcapacity : 0 < capacity) : (empty : ReplayMemory K).check key capacity x
    = (.ok (), ⟨[key x.tag], OrderedMap.empty.set (key x.tag) x.expiresAt⟩) := by
  have hadmitted : ((empty : ReplayMemory K).check key capacity x).1 = .ok () := by
    rw [check_eq_ok, admits_eq_ok]
    exact ⟨List.not_mem_nil, rfl, hcapacity⟩
  exact Prod.ext hadmitted (check_of_admitted hadmitted)

/-- A key that is remembered is not admitted. -/
theorem not_admitted_of_live (h : m.used.get? (key x.tag) = some expiresAt)
    (hnow : x.now < expiresAt) : (m.check key capacity x).1 ≠ .ok () := by
  intro hok
  have hnone := (admits_eq_ok.mp (check_eq_ok.mp hok)).2.1
  rw [get?_purge_of_lt h hnow] at hnone
  cases hnone

/-- A key that is no longer in use is admitted again by a check that has read its expiry. -/
theorem admitted_of_expired (hactive : key x.tag ∉ m.active)
    (hused : m.used.get? (key x.tag) = some expiresAt) (hnow : expiresAt ≤ x.now)
    (hroom : m.used.entries.length < capacity) : (m.check key capacity x).1 = .ok () := by
  refine check_eq_ok.mpr (admits_eq_ok.mpr ⟨hactive, ?_, ?_⟩)
  · rw [get?_purge, hused]
    exact if_neg (by simp only [decide_eq_true_eq]; omega)
  · exact Nat.lt_of_le_of_lt (List.length_filter_le _ _) hroom

/-! ## What is kept -/

/-- A key stays in use until it is released. -/
theorem mem_active_apply {op : ReplayOp K T} (h : k ∈ m.active) (hop : op ≠ .release k) :
    k ∈ (m.apply key capacity op).active := by
  cases op with
  | release k' =>
    refine List.mem_filter.mpr ⟨h, decide_eq_true ?_⟩
    rintro rfl
    exact hop rfl
  | check x =>
    show k ∈ (m.check key capacity x).2.active
    cases hchecked : (m.check key capacity x).1 with
    | ok u =>
      rw [check_of_admitted hchecked]
      exact List.mem_cons_of_mem _ h
    | error e =>
      rw [check_of_refused hchecked]
      exact h

/-- A key is remembered until a check reaches its expiry. -/
theorem get?_apply {op : ReplayOp K T} (h : m.used.get? k = some expiresAt)
    (hop : ∀ x, op = .check x → x.now < expiresAt) :
    (m.apply key capacity op).used.get? k = some expiresAt := by
  cases op with
  | release k' => exact h
  | check x =>
    have hnow := hop x rfl
    show (m.check key capacity x).2.used.get? k = some expiresAt
    cases hchecked : (m.check key capacity x).1 with
    | ok u =>
      rw [check_of_admitted hchecked, OrderedMap.get?_set, if_neg, get?_purge_of_lt h hnow]
      rintro rfl
      exact not_admitted_of_live h hnow hchecked
    | error e =>
      rw [check_of_refused hchecked]
      exact get?_purge_of_lt h hnow

variable {ops : List (ReplayOp K T)}

theorem mem_active_replay (h : k ∈ m.active)
    (hops : .release k ∉ ops) : k ∈ (m.replay key capacity ops).active := by
  induction ops using List.reverseRecOn with
  | nil => exact h
  | append_singleton ops op ih =>
    rw [List.mem_append, List.mem_singleton, not_or] at hops
    rw [replay_append]
    exact mem_active_apply (ih hops.1) fun heq => hops.2 heq.symm

theorem get?_replay (h : m.used.get? k = some expiresAt) (hops : ∀ x, .check x ∈ ops → x.now < expiresAt) :
    (m.replay key capacity ops).used.get? k = some expiresAt := by
  induction ops using List.reverseRecOn with
  | nil => exact h
  | append_singleton ops op ih =>
    rw [replay_append]
    refine get?_apply (ih fun x hx => hops x (List.mem_append_left _ hx)) fun x hx => ?_
    exact hops x (List.mem_append_right _ (List.mem_singleton.mpr hx.symm))

/-! ## At most once -/

variable (key capacity)

/-- The check is admitted after these operations. -/
def Admitted (before : List (ReplayOp K T)) (x : ReplayCheck T) : Prop :=
  ((empty.replay key capacity before).check key capacity x).1 = .ok ()

instance (before : List (ReplayOp K T)) (x : ReplayCheck T) : Decidable (Admitted key capacity before x) :=
  inferInstanceAs (Decidable (_ = _))

/-- Whenever the tag is checked again, its use that was admitted is not released, or no check has reached its
expiry. -/
def Guarded (t : T) (ops : List (ReplayOp K T)) : Prop :=
  ∀ before x between y after, ops = before ++ .check x :: (between ++ .check y :: after) →
    x.tag = t → y.tag = t → Admitted key capacity before x →
    .release (key t) ∉ between ∨ ∀ z, .check z ∈ between ++ [.check y] → z.now < x.expiresAt

/-- The uses of a tag that are admitted. -/
def uses [DecidableEq T] (t : T) : ReplayMemory K → List (ReplayOp K T) → Nat
  | _, [] => 0
  | m, .release k :: rest => uses t (m.release k) rest
  | m, .check x :: rest =>
    (if x.tag = t ∧ (m.check key capacity x).1 = .ok () then 1 else 0)
      + uses t (m.check key capacity x).2 rest

variable {key capacity}

variable {t : T}

/-- **A tag that was admitted is not admitted again** while it is guarded. -/
theorem Guarded.refused (h : Guarded key capacity t ops)
    {before between after : List (ReplayOp K T)} {x y : ReplayCheck T}
    (hops : ops = before ++ .check x :: (between ++ .check y :: after)) (hx : x.tag = t) (hy : y.tag = t)
    (hadmitted : Admitted key capacity before x) :
    ¬ Admitted key capacity (before ++ .check x :: between) y := by
  unfold Admitted at hadmitted ⊢
  have hsplit : (empty.replay key capacity (before ++ .check x :: between))
      = (((empty.replay key capacity before).check key capacity x).2.replay key capacity between) := by
    rw [replay_append]
    rfl
  rw [hsplit, check_of_admitted hadmitted, hx]
  rcases h before x between y after hops hx hy hadmitted with hrelease | hlive
  · refine not_admitted_of_active ?_
    rw [hy]
    exact mem_active_replay List.mem_cons_self hrelease
  · refine not_admitted_of_live ?_ (hlive y (by simp))
    rw [hy]
    refine get?_replay ?_ fun z hz => hlive z (List.mem_append_left _ hz)
    rw [OrderedMap.get?_set, if_pos rfl]

/-- A tag is guarded as long as no check has reached any expiry. -/
theorem guarded_of_live
    (h : ∀ x z, .check x ∈ ops → .check z ∈ ops → z.now < x.expiresAt) : Guarded key capacity t ops := by
  intro before x between y after hops hx hy hadmitted
  refine Or.inr fun z hz => h x z ?_ ?_
  · rw [hops]
    simp
  · rw [hops]
    simp only [List.mem_append, List.mem_cons] at hz ⊢
    tauto

theorem Guarded.of_append {ops' : List (ReplayOp K T)}
    (h : Guarded key capacity t (ops ++ ops')) : Guarded key capacity t ops := by
  intro before x between y after hops
  exact h before x between y (after ++ ops') (by rw [hops]; simp)

/-! ### Blame -/

/-- A key that is in use, or remembered. -/
def Known (m : ReplayMemory K) (k : K) : Prop := k ∈ m.active ∨ ∃ expiresAt, m.used.get? k = some expiresAt

theorem known_of_purge {now : Int} (h : (m.purge now).Known k) : m.Known k := by
  rcases h with hactive | ⟨expiresAt, hget⟩
  · exact Or.inl hactive
  · rw [get?_purge, Option.filter_eq_some_iff] at hget
    exact Or.inr ⟨expiresAt, hget.1⟩

/-- What a check refuses is known, unless there is no room. -/
theorem known_of_refused (h : (m.check key capacity x).1 = .error e) (he : e ≠ .full) :
    m.Known (key x.tag) := by
  have hadmits : (m.purge x.now).admits capacity (key x.tag) = .error e := by
    unfold check at h
    cases hadmits : (m.purge x.now).admits capacity (key x.tag) with
    | ok u =>
      simp only [hadmits] at h
      cases h
    | error e' =>
      simp only [hadmits] at h
      exact h
  unfold admits at hadmits
  by_cases hactive : key x.tag ∈ (m.purge x.now).active
  · exact known_of_purge (Or.inl hactive)
  · rw [if_neg hactive] at hadmits
    by_cases hused : (m.purge x.now).used.has (key x.tag) = true
    · exact known_of_purge (Or.inr (OrderedMap.has_iff.mp hused))
    · rw [if_neg hused] at hadmits
      split at hadmits
      · cases hadmits
        exact absurd rfl he
      · cases hadmits

/-- A key is known after a check if it was known, or is admitted by it. -/
theorem known_of_check (h : (m.check key capacity x).2.Known k) :
    m.Known k ∨ (key x.tag = k ∧ (m.check key capacity x).1 = .ok ()) := by
  cases hchecked : (m.check key capacity x).1 with
  | error e =>
    rw [check_of_refused hchecked] at h
    exact Or.inl (known_of_purge h)
  | ok u =>
    by_cases hk : key x.tag = k
    · exact Or.inr ⟨hk, rfl⟩
    · rw [check_of_admitted hchecked] at h
      rcases h with hactive | ⟨expiresAt, hget⟩
      · rcases List.mem_cons.mp hactive with rfl | hold
        · exact absurd rfl hk
        · exact Or.inl (Or.inl hold)
      · rw [OrderedMap.get?_set, if_neg (Ne.symm hk)] at hget
        exact Or.inl (known_of_purge (Or.inr ⟨expiresAt, hget⟩))

/-- **A key that is known was admitted.** -/
theorem exists_admitted_of_known (h : (empty.replay key capacity ops).Known k) :
    ∃ before x after, ops = before ++ .check x :: after ∧ key x.tag = k ∧ Admitted key capacity before x := by
  induction ops using List.reverseRecOn with
  | nil =>
    rcases h with hactive | ⟨expiresAt, hget⟩
    · cases hactive
    · cases hget
  | append_singleton ops op ih =>
    have hearlier : (empty.replay key capacity ops).Known k → ∃ before x after,
        ops ++ [op] = before ++ .check x :: after ∧ key x.tag = k ∧ Admitted key capacity before x := by
      intro hknown
      obtain ⟨before, x, after, rfl, hx, hadmitted⟩ := ih hknown
      exact ⟨before, x, after ++ [op], by simp, hx, hadmitted⟩
    rw [replay_append] at h
    cases op with
    | release k' =>
      refine hearlier (h.imp_left fun hactive => ?_)
      exact (List.mem_filter.mp hactive).1
    | check x =>
      rcases known_of_check h with hknown | ⟨hx, hadmitted⟩
      · exact hearlier hknown
      · exact ⟨ops, x, [], rfl, hx, hadmitted⟩

/-! ### Uses -/

variable [DecidableEq T]

theorem uses_append (t : T) (m : ReplayMemory K) (ops ops' : List (ReplayOp K T)) :
    uses key capacity t m (ops ++ ops')
      = uses key capacity t m ops + uses key capacity t (m.replay key capacity ops) ops' := by
  induction ops generalizing m with
  | nil => simp [uses, replay]
  | cons op rest ih =>
    cases op with
    | release k => exact ih _
    | check x =>
      simp only [List.cons_append, uses, ih, replay, List.foldl_cons, apply]
      omega

/-- A use that is counted is that of an admitted check. -/
theorem exists_admitted (h : uses key capacity t empty ops ≠ 0) :
    ∃ before x after, ops = before ++ .check x :: after ∧ x.tag = t ∧ Admitted key capacity before x := by
  induction ops using List.reverseRecOn with
  | nil => exact absurd rfl h
  | append_singleton ops op ih =>
    by_cases hbefore : uses key capacity t empty ops = 0
    · rw [uses_append, hbefore, Nat.zero_add] at h
      cases op with
      | release k => exact absurd rfl h
      | check x =>
        unfold uses at h
        by_cases hadmitted : x.tag = t
            ∧ ((empty.replay key capacity ops).check key capacity x).1 = .ok ()
        · exact ⟨ops, x, [], rfl, hadmitted⟩
        · rw [if_neg hadmitted] at h
          exact absurd rfl h
    · obtain ⟨before, x, after, rfl, hx, hadmitted⟩ := ih hbefore
      exact ⟨before, x, after ++ [op], by simp, hx, hadmitted⟩

/-- **A guarded tag is used at most once.** -/
theorem Guarded.uses_le_one (h : Guarded key capacity t ops) : uses key capacity t empty ops ≤ 1 := by
  induction ops using List.reverseRecOn with
  | nil => exact Nat.zero_le 1
  | append_singleton ops op ih =>
    have hbefore := ih h.of_append
    rw [uses_append]
    cases op with
    | release k => exact hbefore
    | check y =>
      simp only [uses, Nat.add_zero]
      by_cases hadmitted : y.tag = t ∧ ((empty.replay key capacity ops).check key capacity y).1 = .ok ()
      · have hnone : uses key capacity t empty ops = 0 := by
          by_contra hsome
          obtain ⟨before, x, between, hops, hx, hfirst⟩ := exists_admitted hsome
          subst hops
          have hsplit : before ++ .check x :: between ++ [.check y]
              = before ++ .check x :: (between ++ .check y :: []) := by
            rw [List.append_assoc, List.cons_append]
          exact h.refused hsplit hx hadmitted.1 hfirst hadmitted.2
        simp only [hnone, if_pos hadmitted, Nat.zero_add, Nat.le_refl]
      · rw [if_neg hadmitted]
        exact hbefore

/-! ## Calls that share a memory -/

variable (key capacity)

/-- What is done with a memory: by these operations, which admit these tags, it becomes `m'`. -/
structure Uses (m : ReplayMemory K) (ops : List (ReplayOp K T)) (admitted : List T) (m' : ReplayMemory K) :
    Prop where
  memory : m' = m.replay key capacity ops
  admits : ∀ t, uses key capacity t m ops = admitted.count t

variable {key capacity}

theorem Uses.nil (m : ReplayMemory K) : Uses key capacity m [] [] m := ⟨rfl, fun _ => rfl⟩

variable {m' : ReplayMemory K}

theorem Uses.append {m m'' : ReplayMemory K} {ops' : List (ReplayOp K T)} {admitted admitted' : List T}
    (h : Uses key capacity m ops admitted m') (h' : Uses key capacity m' ops' admitted' m'') :
    Uses key capacity m (ops ++ ops') (admitted ++ admitted') m'' := by
  constructor
  · rw [replay_append, ← h.memory]
    exact h'.memory
  · intro t
    rw [uses_append, ← h.memory, h.admits, h'.admits, List.count_append]

theorem Uses.release (m : ReplayMemory K) (k : K) : Uses key capacity m [.release k] [] (m.release k) :=
  ⟨rfl, fun _ => rfl⟩

/-- A release at the end admits nothing. -/
theorem Uses.released {m : ReplayMemory K} {admitted : List T}
    (h : Uses key capacity m ops admitted m') (k : K) :
    Uses key capacity m (ops ++ [.release k]) admitted (m'.release k) := by
  have happend := h.append (Uses.release m' k)
  rw [List.append_nil] at happend
  exact happend

theorem Uses.admitted {m : ReplayMemory K} {x : ReplayCheck T} (h : m.check key capacity x = (.ok (), m')) :
    Uses key capacity m [.check x] [x.tag] m' := by
  constructor
  · simp only [replay, List.foldl_cons, List.foldl_nil, ReplayMemory.apply, h]
  · intro t
    simp only [uses, h, and_true, Nat.add_zero, List.count_cons, List.count_nil, Nat.zero_add, beq_iff_eq]

theorem Uses.refused {m : ReplayMemory K} {x : ReplayCheck T}
    (h : m.check key capacity x = (.error e, m')) : Uses key capacity m [.check x] [] m' := by
  constructor
  · simp only [replay, List.foldl_cons, List.foldl_nil, ReplayMemory.apply, h]
  · intro t
    simp only [uses, h, reduceCtorEq, and_false, if_false, List.count_nil]

/-- **Who is to blame for a refusal**: a tag with the same key was admitted. -/
theorem Uses.blame {m : ReplayMemory K} {admitted : List T}
    (h : Uses key capacity empty ops admitted m) {x : ReplayCheck T}
    (hrefused : (m.check key capacity x).1 = .error e) (he : e ≠ .full) : ∃ t ∈ admitted, key t = key x.tag := by
  have hknown := known_of_refused hrefused he
  rw [h.memory] at hknown
  obtain ⟨before, y, after, rfl, hy, hadmitted⟩ := exists_admitted_of_known hknown
  refine ⟨y.tag, List.count_pos_iff.mp ?_, hy⟩
  rw [← h.admits, uses_append]
  simp only [uses, show _ = Except.ok () from hadmitted, and_self, if_true]
  omega

section Calls

variable {C : Type w} {A : Type x} {R : Type y} {O : Type z} {sys : CallSystem (ReplayMemory K) C A R O}
  {ops : O → List (ReplayOp K T)} {admitted : O → List T}

/-- The memory of a run is what its operations have made of it, and they admit what is shown. -/
theorem Uses.of_run
    (hstart : ∀ a m, Uses key capacity m (ops (sys.start a m).1) (admitted (sys.start a m).1) (sys.start a m).2.1)
    (hresume : ∀ r c m, Uses key capacity m (ops (sys.resume r c m).1) (admitted (sys.resume r c m).1)
      (sys.resume r c m).2.1) (moves : List (Move A R)) :
    Uses key capacity empty ((sys.shown empty moves).flatMap ops) ((sys.shown empty moves).flatMap admitted)
      (sys.pool empty moves).shared := by
  refine sys.shown_invariant
    (P := fun shown m => Uses key capacity empty (shown.flatMap ops) (shown.flatMap admitted) m)
    (Uses.nil empty) ?_ ?_ moves
  · intro shown a m h
    rw [List.flatMap_append, List.flatMap_append, List.flatMap_singleton, List.flatMap_singleton]
    exact h.append (hstart a m)
  · intro shown r c m h
    rw [List.flatMap_append, List.flatMap_append, List.flatMap_singleton, List.flatMap_singleton]
    exact h.append (hresume r c m)

/-- **A guarded tag is admitted at most once** in a run of calls. -/
theorem Guarded.admitted_le_one {moves : List (Move A R)}
    (hstart : ∀ a m, Uses key capacity m (ops (sys.start a m).1) (admitted (sys.start a m).1) (sys.start a m).2.1)
    (hresume : ∀ r c m, Uses key capacity m (ops (sys.resume r c m).1) (admitted (sys.resume r c m).1)
      (sys.resume r c m).2.1)
    (hguarded : Guarded key capacity t ((sys.shown empty moves).flatMap ops)) :
    ((sys.shown empty moves).map fun o => (admitted o).count t).sum ≤ 1 := by
  have huses := (Uses.of_run hstart hresume moves).admits t
  rw [List.count_flatMap] at huses
  exact huses ▸ hguarded.uses_le_one

end Calls

end ReplayMemory

end VentureOS
