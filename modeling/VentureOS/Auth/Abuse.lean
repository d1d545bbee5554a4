import VentureOS.Foundations.OrderedMap
import VentureOS.Foundations.Sorting

/-! # Counters of attempts

`auth-abuse.service.ts`: the rows that count the attempts of an account and of a source address, and the cooldowns that
they come to. -/

namespace VentureOS.Auth

/-- `AuthChannel`. -/
inductive AuthChannel where
  | LOGIN
  | REGISTER
  deriving DecidableEq, Repr

/-- `AuthScope`. -/
inductive AuthScope where
  | ACCOUNT
  | IP
  deriving DecidableEq, Repr

/-- The channel as a string. -/
def AuthChannel.code : AuthChannel → String
  | .LOGIN => "LOGIN"
  | .REGISTER => "REGISTER"

/-- The scope as a string. -/
def AuthScope.code : AuthScope → String
  | .ACCOUNT => "ACCOUNT"
  | .IP => "IP"

/-- The key of a row: its channel, its scope and its digest. -/
structure AbuseKey where
  channel : AuthChannel
  scope : AuthScope
  keyDigest : String
  deriving DecidableEq, Repr

/-- `StoredAuthAbuseState`. Times are in milliseconds. -/
structure AuthAbuseState where
  key : AbuseKey
  attemptCount : Nat
  windowStartedAt : Int
  cooldownLevel : Nat
  cooldownUntil : Option Int
  lastAttemptAt : Int
  expiresAt : Int
  deriving DecidableEq, Repr

instance : HasKey AbuseKey AuthAbuseState := ⟨AuthAbuseState.key⟩

/-- The rows of `auth_abuse_states`. -/
abbrev AbuseRows := Store AbuseKey AuthAbuseState

/-- `AuthAbusePolicy`. -/
structure AuthAbusePolicy where
  windowMs : Int
  threshold : Nat
  deriving DecidableEq, Repr

/-- `AUTH_ABUSE_POLICIES`. -/
def authAbusePolicies : AuthChannel → AuthScope → Option AuthAbusePolicy
  | .LOGIN, .ACCOUNT => some ⟨15 * 60 * 1000, 5⟩
  | .LOGIN, .IP => some ⟨15 * 60 * 1000, 20⟩
  | .REGISTER, .IP => some ⟨60 * 60 * 1000, 10⟩
  | .REGISTER, .ACCOUNT => none

/-- `RETENTION_MS`. -/
def retentionMs : Int := 24 * 60 * 60 * 1000

/-- `MAX_COOLDOWN_MS`. -/
def maxCooldownMs : Int := 15 * 60 * 1000

/-- `CLEANUP_BATCH_SIZE`. -/
def cleanupBatchSize : Nat := 500

/-- `AuthBlock`. -/
structure AuthBlock where
  reasonCode : String
  retryAfterSeconds : Int
  deriving DecidableEq, Repr

/-- `AuthAbuseContext`. -/
structure AuthAbuseContext where
  accountDigest : String
  ipDigest : String
  deriving DecidableEq, Repr

/-- `scopedKeys`. -/
def scopedKeys (channel : AuthChannel) (context : AuthAbuseContext) : List AbuseKey :=
  match channel with
  | .REGISTER => [⟨channel, .IP, context.ipDigest⟩]
  | .LOGIN => [⟨channel, .ACCOUNT, context.accountDigest⟩, ⟨channel, .IP, context.ipDigest⟩]

/-! ## Blocks -/

/-- A row is in a cooldown. -/
def AuthAbuseState.cooling (row : AuthAbuseState) (now : Int) : Bool :=
  row.cooldownUntil.any fun cooldownUntil => now < cooldownUntil

/-- The end of a cooldown, or zero. -/
def AuthAbuseState.endsAt (row : AuthAbuseState) : Int := row.cooldownUntil.getD 0

/-- `blockFromRows`. -/
def blockFromRows (channel : AuthChannel) (rows : List AuthAbuseState) (now : Int) : Option AuthBlock :=
  let blocked := (rows.filter fun row => row.cooling now).insertionSort fun left right => right.endsAt ≤ left.endsAt
  blocked.head?.map fun row =>
    { reasonCode := channel.code ++ "_" ++ row.key.scope.code ++ "_COOLDOWN"
      retryAfterSeconds := max 1 ((row.endsAt - now + 999) / 1000) }

/-- The rows that `getActiveBlock` finds. -/
def findCooling (keys : List AbuseKey) (now : Int) (rows : AbuseRows) : List AuthAbuseState :=
  (keys.filterMap rows.get?).filter fun row => row.cooling now

/-- `getActiveBlock`, of a call that has read the time before. -/
def getActiveBlock (channel : AuthChannel) (context : AuthAbuseContext) (now : Int) (rows : AbuseRows) :
    Option AuthBlock :=
  blockFromRows channel (findCooling (scopedKeys channel context) now rows) now

theorem blockFromRows_eq_none {channel : AuthChannel} {rows : List AuthAbuseState} {now : Int} :
    blockFromRows channel rows now = none ↔ ∀ row ∈ rows, row.cooling now = false := by
  rw [blockFromRows, Option.map_eq_none_iff, List.head?_eq_none_iff]
  constructor
  · intro h row hrow
    have hnil := List.perm_nil.mp (h ▸ (List.perm_insertionSort _ _).symm)
    simpa using List.filter_eq_nil_iff.mp hnil row hrow
  · intro h
    rw [List.filter_eq_nil_iff.mpr fun row hrow => by simp [h row hrow]]
    rfl

/-- **No call goes on in a cooldown.** -/
theorem not_cooling_of_getActiveBlock {channel : AuthChannel} {context : AuthAbuseContext} {now : Int}
    {rows : AbuseRows} (h : getActiveBlock channel context now rows = none) {key : AbuseKey}
    (hkey : key ∈ scopedKeys channel context) {row : AuthAbuseState} (hrow : rows.get? key = some row) :
    row.cooling now = false := by
  by_contra hcooling
  rw [Bool.not_eq_false] at hcooling
  have hfound : row ∈ findCooling (scopedKeys channel context) now rows :=
    List.mem_filter.mpr ⟨List.mem_filterMap.mpr ⟨key, hkey, hrow⟩, hcooling⟩
  rw [blockFromRows_eq_none.mp h row hfound] at hcooling
  cases hcooling

theorem cooling_eq_false {row : AuthAbuseState} {now : Int} :
    row.cooling now = false ↔ ∀ cooldownUntil, row.cooldownUntil = some cooldownUntil → cooldownUntil ≤ now := by
  unfold AuthAbuseState.cooling
  cases row.cooldownUntil with
  | none => simp
  | some cooldownUntil => simp

/-! ## Counting -/

/-- The counting starts again: a cooldown or the window is over. -/
def AuthAbuseState.restarts (row : AuthAbuseState) (policy : AuthAbusePolicy) (now : Int) : Bool :=
  row.cooldownUntil.isSome || decide (row.windowStartedAt ≤ now - policy.windowMs)

/-- The count after an attempt outside of a cooldown. -/
def AuthAbuseState.nextCount (row : AuthAbuseState) (policy : AuthAbusePolicy) (now : Int) : Nat :=
  if row.restarts policy now then 1 else row.attemptCount + 1

/-- How long a cooldown of a level lasts. -/
def cooldownMs (level : Nat) : Int :=
  match level with
  | 1 => 60 * 1000
  | 2 => 5 * 60 * 1000
  | _ => 15 * 60 * 1000

/-- The row of a first attempt. -/
def insertedState (key : AbuseKey) (now : Int) : AuthAbuseState where
  key
  attemptCount := 1
  windowStartedAt := now
  cooldownLevel := 0
  cooldownUntil := none
  lastAttemptAt := now
  expiresAt := now + retentionMs + maxCooldownMs

/-- The row after a further attempt. -/
def AuthAbuseState.updated (row : AuthAbuseState) (policy : AuthAbusePolicy) (now : Int) : AuthAbuseState where
  key := row.key
  attemptCount := if row.cooling now then row.attemptCount else row.nextCount policy now
  windowStartedAt :=
    if row.cooling now then row.windowStartedAt
    else if row.restarts policy now then now else row.windowStartedAt
  cooldownLevel :=
    if row.cooling now then row.cooldownLevel
    else if policy.threshold ≤ row.nextCount policy now then min (row.cooldownLevel + 1) 3 else row.cooldownLevel
  cooldownUntil :=
    if row.cooling now then row.cooldownUntil
    else if policy.threshold ≤ row.nextCount policy now then some (now + cooldownMs (min (row.cooldownLevel + 1) 3))
    else none
  lastAttemptAt := now
  expiresAt := now + retentionMs + maxCooldownMs

/-- The row that `increment` writes. -/
def incrementedState (policy : AuthAbusePolicy) (key : AbuseKey) (now : Int) (rows : AbuseRows) : AuthAbuseState :=
  match rows.get? key with
  | none => insertedState key now
  | some row => row.updated policy now

/-- `increment`. There is no row for a scope without a policy. -/
def increment (key : AbuseKey) (now : Int) (rows : AbuseRows) : AbuseRows :=
  match authAbusePolicies key.channel key.scope with
  | none => rows
  | some policy => rows.put (incrementedState policy key now rows)

theorem key_incrementedState (policy : AuthAbusePolicy) (key : AbuseKey) (now : Int) (rows : AbuseRows) :
    (incrementedState policy key now rows).key = key := by
  unfold incrementedState
  cases hrow : rows.get? key with
  | none => rfl
  | some row => exact Store.keyOf_of_get? hrow

theorem get?_increment_of_ne {key other : AbuseKey} (h : other ≠ key) (now : Int) (rows : AbuseRows) :
    (increment key now rows).get? other = rows.get? other := by
  unfold increment
  cases authAbusePolicies key.channel key.scope with
  | none => rfl
  | some policy =>
    show (rows.put (incrementedState policy key now rows)).get? other = _
    rw [Store.get?_put]
    exact if_neg fun heq => h (heq.trans (key_incrementedState policy key now rows))

theorem get?_increment {key : AbuseKey} {policy : AuthAbusePolicy}
    (hpolicy : authAbusePolicies key.channel key.scope = some policy) (now : Int) (rows : AbuseRows) :
    (increment key now rows).get? key = some (incrementedState policy key now rows) := by
  unfold increment
  rw [hpolicy]
  show (rows.put (incrementedState policy key now rows)).get? key = _
  rw [Store.get?_put]
  exact if_pos (key_incrementedState policy key now rows).symm

/-- The increments of a recorded attempt. -/
def incrementAll (keys : List AbuseKey) (now : Int) (rows : AbuseRows) : AbuseRows :=
  keys.foldl (fun rows key => increment key now rows) rows

/-! ## Expired rows -/

/-- The rows that `deleteExpiredBatch` deletes: the first ones to expire that no one else has locked. -/
def expiredBatch (now : Int) (locked : List AbuseKey) (rows : AbuseRows) : List AuthAbuseState :=
  ((rows.values.filter fun row => row.expiresAt ≤ now ∧ row.key ∉ locked).insertionSort
    fun left right => left.expiresAt ≤ right.expiresAt).take cleanupBatchSize

/-- `deleteExpiredBatch`. -/
def deleteExpiredBatch (now : Int) (locked : List AbuseKey) (rows : AbuseRows) : AbuseRows :=
  rows.restrict fun key => decide (key ∉ (expiredBatch now locked rows).map AuthAbuseState.key)

/-- Only expired rows are deleted. -/
theorem get?_deleteExpiredBatch (now : Int) (locked : List AbuseKey) (rows : AbuseRows) (key : AbuseKey) :
    (deleteExpiredBatch now locked rows).get? key = rows.get? key
      ∨ (deleteExpiredBatch now locked rows).get? key = none
        ∧ ∃ row, rows.get? key = some row ∧ row.expiresAt ≤ now := by
  unfold deleteExpiredBatch
  rw [Store.get?_restrict]
  by_cases hmem : key ∈ (expiredBatch now locked rows).map AuthAbuseState.key
  · right
    obtain ⟨row, hrow, rfl⟩ := List.mem_map.mp hmem
    have hexpired := (List.perm_insertionSort _ _).mem_iff.mp (List.mem_of_mem_take hrow)
    rw [List.mem_filter, decide_eq_true_eq] at hexpired
    refine ⟨if_neg ?_, row, Store.mem_values.mp hexpired.1, hexpired.2.1⟩
    rw [decide_eq_true_eq, not_not]
    exact hmem
  · exact .inl (if_pos (decide_eq_true hmem))

end VentureOS.Auth
