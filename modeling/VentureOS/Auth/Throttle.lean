import VentureOS.Auth.Abuse
import VentureOS.Foundations.Interleaving

/-! # Throttled guesses

`AuthService.login` of `auth.service.ts`, for the calls with wrong passwords for one account from any source address.

A call looks for a cooldown before it checks its password, and counts the attempt after that. So calls that overlap all
check their passwords before any of them is counted. When no call looks for a cooldown while another one is in between
(`Alone`), no more than nine passwords are checked within a minute: four at the end of one window, and five in the
next. -/

namespace VentureOS.Auth

/-! ## Calls -/

/-- What happens to an account. -/
inductive LoginEvent where
  /-- A password is checked. -/
  | checked (time : Int)
  /-- A cooldown begins. -/
  | cooldown (duration : Int)
  /-- The row of the account is deleted. -/
  | expired
  deriving DecidableEq, Repr

/-- The clock, the rows, and what has happened to the account, the last first. -/
structure LoginWorld where
  clock : Int
  rows : AbuseRows
  events : List LoginEvent

/-- The time goes on while a call waits, and others lock rows. -/
structure Wait where
  elapsed : Nat
  locked : List AbuseKey
  deriving DecidableEq, Repr

/-- Where a call of `login` is: what it waits for, or its end. -/
inductive LoginPoint where
  /-- `authAbuseState.findMany` of `getActiveBlock`, which has read the time. -/
  | throttling (now : Int)
  /-- The event of a cooldown. -/
  | refusing (block : AuthBlock)
  /-- `user.findUnique`. -/
  | finding
  /-- `verifyPasswordAsync`. -/
  | verifying
  /-- `deleteExpiredBatch` of `recordAttempt`, which has read the time. -/
  | deleting (now : Int)
  /-- The increments of `recordAttempt`. -/
  | incrementing (now : Int)
  /-- The event of a failure. -/
  | recording (newBlock : Option AuthBlock)
  /-- `AuthCooldownException`, before the password is checked. -/
  | refused (block : AuthBlock)
  /-- `AuthCooldownException`, after that. -/
  | cooldown (block : AuthBlock)
  /-- `UnauthorizedException`. -/
  | unauthorized (message : String)
  deriving DecidableEq, Repr

/-- A call of `login`. -/
structure LoginCall where
  ipDigest : String
  point : LoginPoint
  deriving DecidableEq, Repr

/-- A call is at this point. -/
def LoginCall.goTo (call : LoginCall) (point : LoginPoint) : LoginCall := { call with point }

/-- The time goes on. -/
def LoginWorld.after (world : LoginWorld) (elapsed : Nat) : LoginWorld :=
  { world with clock := world.clock + elapsed }

/-- Something happens. -/
def LoginWorld.log (world : LoginWorld) (events : List LoginEvent) : LoginWorld :=
  { world with events := events ++ world.events }

section Calls

variable (accountDigest : String)

/-- The key of the row of the account. -/
def accountKey : AbuseKey := ⟨.LOGIN, .ACCOUNT, accountDigest⟩

/-- The cooldown that begins with a row. -/
def cooldownBegun (before : Option AuthAbuseState) (row : AuthAbuseState) : List LoginEvent :=
  if before.bind AuthAbuseState.cooldownUntil = row.cooldownUntil then []
  else (row.cooldownUntil.map fun cooldownUntil => .cooldown (cooldownUntil - row.lastAttemptAt)).toList

/-- `deleteExpiredBatch`, and whether it deletes the row of the account. -/
def LoginWorld.deleteExpired (world : LoginWorld) (now : Int) (locked : List AbuseKey) : LoginWorld :=
  let rows := deleteExpiredBatch now locked world.rows
  { world with
    rows
    events :=
      if (world.rows.get? (accountKey accountDigest)).isSome ∧ (rows.get? (accountKey accountDigest)).isNone then
        .expired :: world.events
      else world.events }

/-- The increments, and whether a cooldown of the account begins. -/
def LoginWorld.increment (world : LoginWorld) (keys : List AbuseKey) (now : Int) : LoginWorld :=
  let rows := incrementAll keys now world.rows
  { world with
    rows
    events :=
      ((rows.get? (accountKey accountDigest)).map
        (cooldownBegun (world.rows.get? (accountKey accountDigest)))).getD [] ++ world.events }

/-- A call goes on. Its password is wrong. -/
def resumeLogin (wait : Wait) (call : LoginCall) (world : LoginWorld) : LoginWorld × LoginCall :=
  let context : AuthAbuseContext := ⟨accountDigest, call.ipDigest⟩
  let world := world.after wait.elapsed
  match call.point with
  | .throttling now =>
    match getActiveBlock .LOGIN context now world.rows with
    | some activeBlock => (world, call.goTo (.refusing activeBlock))
    | none => (world, call.goTo .finding)
  | .refusing block => (world, call.goTo (.refused block))
  | .finding => (world, call.goTo .verifying)
  | .verifying => (world.log [.checked world.clock], call.goTo (.deleting world.clock))
  | .deleting now => (world.deleteExpired accountDigest now wait.locked, call.goTo (.incrementing now))
  | .incrementing now =>
    let world := world.increment accountDigest (scopedKeys .LOGIN context) now
    (world, call.goTo (.recording (blockFromRows .LOGIN ((scopedKeys .LOGIN context).filterMap world.rows.get?) now)))
  | .recording newBlock =>
    match newBlock with
    | some block => (world, call.goTo (.cooldown block))
    | none => (world, call.goTo (.unauthorized "Invalid email or password"))
  | .refused _ => (world, call)
  | .cooldown _ => (world, call)
  | .unauthorized _ => (world, call)

/-- The calls of `login` for an account. A call is started from an address, after some time, and reads the time. -/
def logins : CallSystem LoginWorld LoginCall (String × Nat) Wait Unit where
  start args world := ((), world.after args.2, ⟨args.1, .throttling (world.after args.2).clock⟩)
  resume wait call world :=
    ((), (resumeLogin accountDigest wait call world).1, (resumeLogin accountDigest wait call world).2)

end Calls

/-! ## What has happened -/

/-- The time of a check. -/
def LoginEvent.checkedAt : LoginEvent → Option Int
  | .checked time => some time
  | _ => none

/-- The times at which passwords were checked, the last first. -/
def LoginWorld.checks (world : LoginWorld) : List Int := world.events.filterMap LoginEvent.checkedAt

/-- The cooldowns since the row of the account was last deleted, the last first. -/
def cooldownsSinceExpired : List LoginEvent → List Int
  | [] => []
  | .expired :: _ => []
  | .cooldown duration :: rest => duration :: cooldownsSinceExpired rest
  | .checked _ :: rest => cooldownsSinceExpired rest

/-- A call looks for a cooldown. -/
def LoginCall.isThrottling (call : LoginCall) : Bool := call.point matches .throttling _

/-- A call has found no cooldown, and its attempt is not counted. -/
def LoginCall.between (call : LoginCall) : Bool :=
  match call.point with
  | .finding => true
  | .verifying => true
  | .deleting _ => true
  | .incrementing _ => true
  | _ => false

/-- No other call is in between when a call looks for a cooldown. -/
def Alone (_ : Wait) (call : LoginCall) (pool : Pool LoginWorld LoginCall) : Prop :=
  call.isThrottling = true → ∀ other ∈ pool.calls, other.between = false

instance (wait : Wait) (call : LoginCall) (pool : Pool LoginWorld LoginCall) : Decidable (Alone wait call pool) :=
  inferInstanceAs (Decidable (_ → _))

/-! ## The row of the account -/

section Row

variable {accountDigest : String}

/-- The row of the account. -/
abbrev LoginWorld.account (world : LoginWorld) (accountDigest : String) : Option AuthAbuseState :=
  world.rows.get? (accountKey accountDigest)

/-- The policy for accounts. -/
def accountPolicy : AuthAbusePolicy := ⟨15 * 60 * 1000, 5⟩

/-- The row of the account after an attempt. -/
def countedState (accountDigest : String) (now : Int) (row : Option AuthAbuseState) : AuthAbuseState :=
  match row with
  | none => insertedState (accountKey accountDigest) now
  | some row => row.updated accountPolicy now

variable (accountDigest) in
theorem account_increment (world : LoginWorld) (ipDigest : String) (now : Int) :
    (world.increment accountDigest (scopedKeys .LOGIN ⟨accountDigest, ipDigest⟩) now).account accountDigest
      = some (countedState accountDigest now (world.account accountDigest)) := by
  show (increment ⟨.LOGIN, .IP, ipDigest⟩ now (increment (accountKey accountDigest) now world.rows)).get? _ = _
  rw [get?_increment_of_ne (by simp [accountKey])]
  exact @get?_increment (accountKey accountDigest) accountPolicy rfl now world.rows

variable (accountDigest) in
theorem events_increment (world : LoginWorld) (ipDigest : String) (now : Int) :
    (world.increment accountDigest (scopedKeys .LOGIN ⟨accountDigest, ipDigest⟩) now).events
      = cooldownBegun (world.account accountDigest) (countedState accountDigest now (world.account accountDigest))
        ++ world.events := by
  have haccount : (incrementAll (scopedKeys .LOGIN ⟨accountDigest, ipDigest⟩) now world.rows).get?
      (accountKey accountDigest) = _ := account_increment accountDigest world ipDigest now
  simp only [LoginWorld.increment, haccount, Option.map_some, Option.getD_some]

variable (accountDigest) in
/-- **The row of the account is kept, or it has expired and is gone.** -/
theorem deleteExpired_cases (world : LoginWorld) (now : Int) (locked : List AbuseKey) :
    (world.deleteExpired accountDigest now locked).account accountDigest = world.account accountDigest
        ∧ (world.deleteExpired accountDigest now locked).events = world.events
      ∨ (world.deleteExpired accountDigest now locked).account accountDigest = none
        ∧ (world.deleteExpired accountDigest now locked).events = .expired :: world.events
        ∧ ∃ row, world.account accountDigest = some row ∧ row.expiresAt ≤ now := by
  unfold LoginWorld.deleteExpired
  simp only
  rcases get?_deleteExpiredBatch now locked world.rows (accountKey accountDigest) with hsame | ⟨hnone, row, hrow, hle⟩
  · left
    refine ⟨hsame, if_neg ?_⟩
    rw [hsame]
    cases world.rows.get? (accountKey accountDigest) <;> simp
  · right
    refine ⟨hnone, if_pos ?_, row, hrow, hle⟩
    rw [hnone, hrow]
    exact ⟨rfl, rfl⟩

/-- No password is checked when a cooldown begins. -/
theorem checkedAt_cooldownBegun (before : Option AuthAbuseState) (row : AuthAbuseState) :
    (cooldownBegun before row).filterMap LoginEvent.checkedAt = [] := by
  unfold cooldownBegun
  split
  · rfl
  · cases row.cooldownUntil <;> rfl

theorem cooldownMs_le (level : Nat) : 60000 ≤ cooldownMs level := by
  unfold cooldownMs
  split <;> decide

end Row

/-! ## Cooldowns -/

/-- The cooldowns since the last deletion have got longer, as the row of the account says. -/
structure Escalated (row : Option AuthAbuseState) (events : List LoginEvent) : Prop where
  durations : (cooldownsSinceExpired events).reverse
    = (List.range (cooldownsSinceExpired events).length).map fun k => cooldownMs (k + 1)
  level : (row.map AuthAbuseState.cooldownLevel).getD 0 = min (cooldownsSinceExpired events).length 3

theorem cooldownMs_min (n : Nat) : cooldownMs (min (min n 3 + 1) 3) = cooldownMs (n + 1) := by
  match n with
  | 0 => rfl
  | 1 => rfl
  | 2 => rfl
  | n + 3 =>
    have hmin : min (min (n + 3) 3 + 1) 3 = 3 := by omega
    rw [hmin]
    rfl

variable {row : AuthAbuseState}

/-- Nothing begins with a row whose cooldown is the same, or none. -/
theorem cooldownBegun_eq_nil {before : Option AuthAbuseState}
    (h : row.cooldownUntil = before.bind AuthAbuseState.cooldownUntil ∨ row.cooldownUntil = none) :
    cooldownBegun before row = [] := by
  unfold cooldownBegun
  rcases h with hsame | hnone
  · exact if_pos hsame.symm
  · split
    · rfl
    · rw [hnone]
      rfl

/-- **An attempt begins the next cooldown, or none.** -/
theorem Escalated.counted {accountDigest : String} {row : Option AuthAbuseState} {events : List LoginEvent} (now : Int)
    (h : Escalated row events) : Escalated (some (countedState accountDigest now row))
      (cooldownBegun row (countedState accountDigest now row) ++ events) := by
  have hlevel := h.level
  cases row with
  | none =>
    rw [cooldownBegun_eq_nil (.inl rfl)]
    exact ⟨h.durations, hlevel⟩
  | some row =>
    simp only [Option.map_some, Option.getD_some] at hlevel
    simp only [countedState]
    by_cases hcooling : row.cooling now = true
    · rw [cooldownBegun_eq_nil (.inl (by simp [AuthAbuseState.updated, hcooling]))]
      refine ⟨h.durations, ?_⟩
      simpa [AuthAbuseState.updated, hcooling] using hlevel
    · by_cases hreached : accountPolicy.threshold ≤ row.nextCount accountPolicy now
      · have huntil : (row.updated accountPolicy now).cooldownUntil
            = some (now + cooldownMs (min (row.cooldownLevel + 1) 3)) := by
          simp [AuthAbuseState.updated, hcooling, hreached]
        have hnew : row.cooldownUntil ≠ (row.updated accountPolicy now).cooldownUntil := by
          -- The old cooldown is over.
          intro heq
          have hover := cooling_eq_false.mp (Bool.not_eq_true _ ▸ hcooling) _ (heq.trans huntil)
          have hpos := cooldownMs_le (min (row.cooldownLevel + 1) 3)
          omega
        have hbegun : cooldownBegun (some row) (row.updated accountPolicy now)
            = [.cooldown (cooldownMs ((cooldownsSinceExpired events).length + 1))] := by
          rw [cooldownBegun, Option.bind_some, if_neg hnew, huntil, Option.map_some, Option.toList_some, ← cooldownMs_min, ← hlevel]
          simp [AuthAbuseState.updated]
        rw [hbegun]
        refine ⟨?_, ?_⟩
        · simp only [List.singleton_append, cooldownsSinceExpired, List.reverse_cons, h.durations, List.length_cons,
            List.range_succ, List.map_append, List.map_singleton]
        · simp only [List.singleton_append, cooldownsSinceExpired, List.length_cons, Option.map_some,
            Option.getD_some, AuthAbuseState.updated]
          rw [if_neg hcooling, if_pos hreached]
          omega
      · rw [cooldownBegun_eq_nil (.inr (by simp [AuthAbuseState.updated, hcooling, hreached]))]
        refine ⟨h.durations, ?_⟩
        simpa [AuthAbuseState.updated, hcooling, hreached] using hlevel

/-- A deleted row has no cooldowns. -/
theorem escalated_expired (events : List LoginEvent) : Escalated none (.expired :: events) := ⟨rfl, rfl⟩

variable {call : LoginCall}

section Runs

variable {accountDigest : String}

theorem Escalated.resume {world : LoginWorld} (wait : Wait) (call : LoginCall)
    (h : Escalated (world.account accountDigest) world.events) :
    Escalated ((resumeLogin accountDigest wait call world).1.account accountDigest)
      (resumeLogin accountDigest wait call world).1.events := by
  rcases call with ⟨ipDigest, point⟩
  cases point with
  | throttling now =>
    simp only [resumeLogin]
    split
    · exact h
    · exact h
  | verifying => exact ⟨h.durations, h.level⟩
  | deleting now =>
    simp only [resumeLogin]
    rcases deleteExpired_cases accountDigest (world.after wait.elapsed) now wait.locked with
      ⟨hrow, hevents⟩ | ⟨hrow, hevents, -⟩
    · rw [hrow, hevents]
      exact h
    · rw [hrow, hevents]
      exact escalated_expired _
  | incrementing now =>
    simp only [resumeLogin]
    rw [account_increment, events_increment]
    exact h.counted now
  | recording newBlock => cases newBlock <;> exact h
  | _ => exact h

theorem escalated_of_run {world : LoginWorld} (h : Escalated (world.account accountDigest) world.events)
    (moves : List (Move (String × Nat) Wait)) :
    Escalated (((logins accountDigest).pool world moves).shared.account accountDigest)
      ((logins accountDigest).pool world moves).shared.events := by
  let I : LoginWorld → Prop := fun world => Escalated (world.account accountDigest) world.events
  refine ((logins accountDigest).invariant (I := I) (L := fun _ _ => True) h ?_ ?_ moves).1
  · exact fun args world h => ⟨h, trivial, fun _ _ => trivial⟩
  · exact fun wait call world h _ => ⟨h.resume wait call, trivial, fun _ _ => trivial⟩

/-! ## Cooldowns hold -/

/-- A call that looks for a cooldown has read the time before. -/
def LoginCall.timely (world : LoginWorld) (call : LoginCall) : Prop :=
  ∀ now, call.point = .throttling now → now ≤ world.clock

/-- The time does not go back. -/
theorem clock_le_resume (wait : Wait) (call : LoginCall) (world : LoginWorld) :
    world.clock ≤ (resumeLogin accountDigest wait call world).1.clock := by
  have hclock : (resumeLogin accountDigest wait call world).1.clock = world.clock + wait.elapsed := by
    rcases call with ⟨ipDigest, point⟩
    cases point with
    | throttling now =>
      simp only [resumeLogin]
      split
      · rfl
      · rfl
    | recording newBlock => cases newBlock <;> rfl
    | _ => rfl
  omega

/-- No call comes back to its start. -/
theorem not_throttling_resume (wait : Wait) (call : LoginCall) (world : LoginWorld) (now : Int) :
    (resumeLogin accountDigest wait call world).2.point ≠ .throttling now := by
  rcases call with ⟨ipDigest, point⟩
  cases point with
  | throttling now' =>
    simp only [resumeLogin]
    split
    · exact LoginPoint.noConfusion
    · exact LoginPoint.noConfusion
  | recording newBlock => cases newBlock <;> exact LoginPoint.noConfusion
  | _ => exact LoginPoint.noConfusion

theorem timely_of_run (world : LoginWorld) (moves : List (Move (String × Nat) Wait)) :
    ∀ call ∈ ((logins accountDigest).pool world moves).calls,
      call.timely ((logins accountDigest).pool world moves).shared := by
  refine ((logins accountDigest).invariant (I := fun _ => True) (L := fun world call => call.timely world)
    trivial ?_ ?_ moves).2
  · refine fun args world _ => ⟨trivial, ?_, ?_⟩
    · intro now hnow
      cases hnow
      exact le_refl _
    · intro call hcall now hnow
      have hclock : world.clock ≤ (world.after args.2).clock := by
        show world.clock ≤ world.clock + args.2
        omega
      exact (hcall now hnow).trans hclock
  · refine fun wait call world _ _ => ⟨trivial, ?_, ?_⟩
    · exact fun now hnow => absurd hnow (not_throttling_resume wait call world now)
    · exact fun other hother now hnow => (hother now hnow).trans (clock_le_resume wait call world)

/-- A call has found a cooldown. -/
def LoginCall.turnedAway (call : LoginCall) : Prop :=
  match call.point with
  | .refusing _ => True
  | .refused _ => True
  | _ => False

/-- A call has found no cooldown. -/
def LoginCall.passed (call : LoginCall) : Prop := call.isThrottling = false ∧ ¬call.turnedAway

theorem turnedAway_resume (wait : Wait) (call : LoginCall) (world : LoginWorld) (h : call.turnedAway) :
    (resumeLogin accountDigest wait call world).2.turnedAway := by
  rcases call with ⟨ipDigest, point⟩
  cases point with
  | refusing block => exact h
  | refused block => exact h
  | _ => exact h.elim

/-- A call that has not found that there is no cooldown has checked no password. -/
theorem checks_resume (wait : Wait) (call : LoginCall) (world : LoginWorld)
    (h : ¬(resumeLogin accountDigest wait call world).2.passed) :
    ¬call.passed ∧ (resumeLogin accountDigest wait call world).1.checks = world.checks := by
  rcases call with ⟨ipDigest, point⟩
  cases point with
  | throttling now =>
    refine ⟨fun hpassed => (by cases hpassed.1), ?_⟩
    simp only [resumeLogin]
    split
    · rfl
    · rfl
  | refusing block => exact ⟨fun hpassed => hpassed.2 trivial, rfl⟩
  | refused block => exact ⟨fun hpassed => hpassed.2 trivial, rfl⟩
  | recording newBlock => cases newBlock <;> exact absurd ⟨rfl, not_false⟩ h
  | _ => exact absurd ⟨rfl, not_false⟩ h

/-- A call that looks for a cooldown when there is one is turned away. -/
theorem turnedAway_of_cooling {wait : Wait} {world : LoginWorld} (htimely : call.timely world)
    (hthrottling : call.isThrottling = true) (hrow : world.account accountDigest = some row)
    (hcooling : row.cooling (world.clock + wait.elapsed) = true) :
    (resumeLogin accountDigest wait call world).2.turnedAway := by
  rcases call with ⟨ipDigest, point⟩
  cases point with
  | throttling now =>
    simp only [resumeLogin]
    split
    · trivial
    · rename_i hnone
      exfalso
      have hover := cooling_eq_false.mp (not_cooling_of_getActiveBlock hnone
        (show accountKey accountDigest ∈ _ from List.mem_cons_self) hrow)
      rw [AuthAbuseState.cooling, Option.any_eq_true] at hcooling
      obtain ⟨cooldownUntil, huntil, hlt⟩ := hcooling
      rw [decide_eq_true_eq] at hlt
      have hnow : now ≤ world.clock := htimely now rfl
      have hle := hover cooldownUntil huntil
      omega
  | _ => cases hthrottling

/-- **No password is checked by a call that looks for a cooldown when there is one.** -/
theorem untouched_of_cooling (world : LoginWorld) {before after : List (Move (String × Nat) Wait)} {i : Nat}
    {wait : Wait} (hcall : ((logins accountDigest).pool world before).calls[i]? = some call)
    (hthrottling : call.isThrottling = true)
    (hrow : ((logins accountDigest).pool world before).shared.account accountDigest = some row)
    (hcooling : row.cooling (((logins accountDigest).pool world before).shared.clock + wait.elapsed) = true) :
    (logins accountDigest).Untouched LoginWorld.checks world (before ++ .resume i wait :: after) i := by
  have hnext : ∃ t, ((logins accountDigest).pool world (before ++ [.resume i wait])).calls[i]? = some t
      ∧ t.turnedAway := by
    rw [CallSystem.pool_concat, CallSystem.step_resume_of_some _ hcall]
    refine ⟨_, List.getElem?_set_self (List.getElem?_eq_some_iff.mp hcall).1, ?_⟩
    exact turnedAway_of_cooling (timely_of_run world before call (List.mem_of_getElem? hcall)) hthrottling hrow hcooling
  have hlast := (logins accountDigest).call_kept turnedAway_resume hnext after
  rw [List.append_assoc, List.singleton_append] at hlast
  obtain ⟨t, ht, haway⟩ := hlast
  refine (logins accountDigest).untouched LoginCall.passed (fun _ _ _ => rfl) checks_resume world _ i ?_
  intro u hu
  rw [ht, Option.mem_some_iff] at hu
  exact fun hpassed => hpassed.2 (hu ▸ haway)

end Runs

/-! ## Nine in a minute -/

/-- The checks are in order, and of ten of them the last one is a minute or more after the first one. -/
def Spread : List Int → Prop
  | [] => True
  | time :: earlier =>
    Spread earlier ∧ (∀ t ∈ earlier, t ≤ time) ∧ ∀ t ∈ earlier.drop 8, t + 60000 ≤ time

/-- **No more than nine checks fall within a minute.** -/
theorem Spread.countP_le {times : List Int} (h : Spread times) {a b : Int} (hab : b < a + 60000) :
    times.countP (fun t => a ≤ t ∧ t ≤ b) ≤ 9 := by
  induction times with
  | nil => exact Nat.zero_le _
  | cons time earlier ih =>
    obtain ⟨hearlier, -, hfar⟩ := h
    rw [List.countP_cons]
    by_cases hin : a ≤ time ∧ time ≤ b
    · -- Only the eight checks before it can be in the interval as well.
      have hnone : (earlier.drop 8).countP (fun t => a ≤ t ∧ t ≤ b) = 0 := by
        rw [List.countP_eq_zero]
        intro t ht
        have hle := hfar t ht
        rw [decide_eq_true_eq]
        omega
      have hsplit : earlier.countP (fun t => a ≤ t ∧ t ≤ b) ≤ 8 := by
        rw [← List.take_append_drop 8 earlier, List.countP_append, hnone, Nat.add_zero]
        exact List.countP_le_length.trans (List.length_take_le 8 earlier)
      rw [if_pos (decide_eq_true hin)]
      omega
    · rw [if_neg (by simpa using hin), Nat.add_zero]
      exact ih hearlier

/-- How the row of the account goes with the checks that were counted: those in its window, those before, of which all
but four are a minute older than the window, and a minute or more of cooldown after them. -/
structure RowFits (row : AuthAbuseState) (times : List Int) (clock : Int) : Prop where
  counting : row.cooldownUntil = none → row.attemptCount < 5
  window : ∃ recent older, times = recent ++ older ∧ recent.length ≤ row.attemptCount
    ∧ (∀ t ∈ older, t ≤ row.windowStartedAt) ∧ ∀ t ∈ older.drop 4, t + 60000 ≤ row.windowStartedAt
  cooled : ∀ cooldownUntil, row.cooldownUntil = some cooldownUntil → ∀ t ∈ times, t + 60000 ≤ cooldownUntil
  kept : ∀ t ∈ times, t + 60000 ≤ row.expiresAt
  started : row.windowStartedAt ≤ clock

/-- A row that fits, or none when nothing was counted. -/
def Fits (row : Option AuthAbuseState) (times : List Int) (clock : Int) : Prop :=
  match row with
  | none => times = []
  | some row => RowFits row times clock

/-- The cooldown of the account is over. -/
def Over (row : Option AuthAbuseState) (clock : Int) : Prop :=
  ∀ cooldownUntil, row.bind AuthAbuseState.cooldownUntil = some cooldownUntil → cooldownUntil ≤ clock

theorem Over.mono {row : Option AuthAbuseState} {clock later : Int} (h : Over row clock) (hle : clock ≤ later) :
    Over row later :=
  fun cooldownUntil huntil => (h cooldownUntil huntil).trans hle

theorem Fits.mono {row : Option AuthAbuseState} {times : List Int} {clock later : Int} (h : Fits row times clock)
    (hle : clock ≤ later) : Fits row times later := by
  cases row with
  | none => exact h
  | some row => exact { h with started := RowFits.started h |>.trans hle }

theorem mem_older_of_drop {recent older : List Int} {n m : Nat} (hlength : recent.length ≤ n) {t : Int}
    (ht : t ∈ (recent ++ older).drop (n + m)) : t ∈ older.drop m := by
  rw [List.drop_append, List.drop_of_length_le (by omega), List.nil_append] at ht
  exact List.drop_subset_drop_left older (by omega) ht

/-- **A check that is let through is a minute after the ninth one before it.** -/
theorem RowFits.spread {times : List Int} {clock : Int} (h : RowFits row times clock)
    (hover : Over (some row) clock) : ∀ t ∈ times.drop 8, t + 60000 ≤ clock := by
  intro t ht
  cases huntil : row.cooldownUntil with
  | some cooldownUntil =>
    exact (h.cooled cooldownUntil huntil t (List.mem_of_mem_drop ht)).trans (hover cooldownUntil huntil)
  | none =>
    obtain ⟨recent, older, rfl, hlength, -, hfar⟩ := h.window
    have hcount := h.counting huntil
    exact (hfar t (mem_older_of_drop (n := 4) (by omega) ht)).trans h.started

/-- A check has been made, and is not counted. -/
def Pending (row : Option AuthAbuseState) (earlier : List Int) (time : Int) : Prop :=
  match row with
  | none => ∀ t ∈ earlier, t + 60000 ≤ time
  | some row => RowFits row earlier time ∧ Over (some row) time

/-- When the counting starts again, all checks but four are a minute old. -/
theorem RowFits.restarts {earlier : List Int} {time : Int} (h : RowFits row earlier time)
    (hover : Over (some row) time) (hrestarts : row.restarts accountPolicy time = true) :
    ∀ t ∈ earlier.drop 4, t + 60000 ≤ time := by
  intro t ht
  cases huntil : row.cooldownUntil with
  | some cooldownUntil =>
    exact (h.cooled cooldownUntil huntil t (List.mem_of_mem_drop ht)).trans (hover cooldownUntil huntil)
  | none =>
    obtain ⟨recent, older, rfl, hlength, hold, -⟩ := h.window
    have hcount := h.counting huntil
    have hle := hold t (List.mem_of_mem_drop (mem_older_of_drop (m := 0) (n := 4) (by omega) ht))
    rw [AuthAbuseState.restarts, huntil, Option.isSome_none, Bool.false_or, decide_eq_true_eq] at hrestarts
    have hwindow : row.windowStartedAt ≤ time - 15 * 60 * 1000 := hrestarts
    omega

/-- **The attempt of a check is counted.** -/
theorem Pending.counted {accountDigest : String} {row : Option AuthAbuseState} {earlier : List Int} {time : Int}
    (h : Pending row earlier time) (hpast : ∀ t ∈ earlier, t ≤ time) :
    RowFits (countedState accountDigest time row) (time :: earlier) time := by
  have hkept : ∀ t ∈ time :: earlier, t + 60000 ≤ time + retentionMs + maxCooldownMs := by
    intro t ht
    have hle : t ≤ time := by
      rcases List.mem_cons.mp ht with rfl | ht
      · exact le_refl _
      · exact hpast t ht
    unfold retentionMs maxCooldownMs
    omega
  cases row with
  | none =>
    refine ⟨fun _ => (show 1 < 5 by decide), ⟨[time], earlier, rfl, le_refl _, hpast, ?_⟩, fun _ huntil => (by cases huntil),
      hkept, le_refl _⟩
    exact fun t ht => h t (List.mem_of_mem_drop ht)
  | some row =>
    obtain ⟨hfits, hover⟩ := h
    have hcooling : row.cooling time = false := cooling_eq_false.mpr hover
    have hcooled : ∀ t ∈ time :: earlier, ∀ level, t + 60000 ≤ time + cooldownMs level := by
      intro t ht level
      have hlong := cooldownMs_le level
      rcases List.mem_cons.mp ht with rfl | ht
      · omega
      · have hle := hpast t ht
        omega
    simp only [countedState]
    by_cases hrestarts : row.restarts accountPolicy time = true
    · -- The check is the first one of a new window.
      have hcount : row.nextCount accountPolicy time = 1 := if_pos hrestarts
      have hbelow : ¬accountPolicy.threshold ≤ row.nextCount accountPolicy time := by
        rw [hcount]
        decide
      refine ⟨?_, ⟨[time], earlier, rfl, ?_, ?_, ?_⟩, ?_, hkept, ?_⟩
      · intro _
        simp [AuthAbuseState.updated, hcooling, hcount]
      · simp [AuthAbuseState.updated, hcooling, hcount]
      · simpa [AuthAbuseState.updated, hcooling, hrestarts] using hpast
      · simpa [AuthAbuseState.updated, hcooling, hrestarts] using hfits.restarts hover hrestarts
      · simp [AuthAbuseState.updated, hcooling, hbelow]
      · simp [AuthAbuseState.updated, hcooling, hrestarts]
    · have hcount : row.nextCount accountPolicy time = row.attemptCount + 1 := if_neg hrestarts
      have hstart : (row.updated accountPolicy time).windowStartedAt = row.windowStartedAt := by
        simp [AuthAbuseState.updated, hcooling, hrestarts]
      obtain ⟨recent, older, rfl, hlength, hold, hfar⟩ := hfits.window
      refine ⟨?_, ⟨time :: recent, older, rfl, ?_, ?_, ?_⟩, ?_, hkept, ?_⟩
      · intro hnone
        simp only [AuthAbuseState.updated, hcooling, Bool.false_eq_true, if_false] at hnone ⊢
        by_cases hreached : accountPolicy.threshold ≤ row.nextCount accountPolicy time
        · rw [if_pos hreached] at hnone
          cases hnone
        · exact Nat.lt_of_not_le hreached
      · simpa [AuthAbuseState.updated, hcooling, hcount] using hlength
      · rw [hstart]
        exact hold
      · rw [hstart]
        exact hfar
      · intro cooldownUntil huntil t ht
        simp only [AuthAbuseState.updated, hcooling, Bool.false_eq_true, if_false] at huntil
        split at huntil
        · cases huntil
          exact hcooled t ht _
        · cases huntil
      · rw [hstart]
        exact hfits.started

/-! ## Calls one at a time -/

variable {pool : Pool LoginWorld LoginCall}

section Alone

variable {accountDigest : String}

/-- What is known when a call in between goes on. -/
def LoginCall.Phase (accountDigest : String) (world : LoginWorld) (call : LoginCall) : Prop :=
  match call.point with
  | .finding => Fits (world.account accountDigest) world.checks world.clock ∧ Over (world.account accountDigest) world.clock
  | .verifying => Fits (world.account accountDigest) world.checks world.clock ∧ Over (world.account accountDigest) world.clock
  | .deleting now => ∃ earlier, world.checks = now :: earlier ∧ Pending (world.account accountDigest) earlier now
  | .incrementing now => ∃ earlier, world.checks = now :: earlier ∧ Pending (world.account accountDigest) earlier now
  | _ => True

/-- The checks are far enough apart, and in the past. -/
structure Sparse (world : LoginWorld) : Prop where
  spread : Spread world.checks
  past : ∀ t ∈ world.checks, t ≤ world.clock

theorem Sparse.after {world : LoginWorld} (h : Sparse world) (elapsed : Nat) : Sparse (world.after elapsed) := by
  refine ⟨h.spread, fun t ht => (h.past t ht).trans ?_⟩
  show world.clock ≤ world.clock + elapsed
  omega

theorem le_after (world : LoginWorld) (elapsed : Nat) : world.clock ≤ (world.after elapsed).clock := by
  show world.clock ≤ world.clock + elapsed
  omega

theorem LoginCall.Phase.after {world : LoginWorld} (h : call.Phase accountDigest world)
    (elapsed : Nat) : call.Phase accountDigest (world.after elapsed) := by
  rcases call with ⟨ipDigest, point⟩
  cases point with
  | finding => exact ⟨h.1.mono (le_after world elapsed), h.2.mono (le_after world elapsed)⟩
  | verifying => exact ⟨h.1.mono (le_after world elapsed), h.2.mono (le_after world elapsed)⟩
  | deleting now => exact h
  | incrementing now => exact h
  | _ => trivial

variable (accountDigest) in
/-- **A call that is not in between** lets the time go on, and may come to be in between when there is no cooldown. -/
theorem resume_idle (wait : Wait) {world : LoginWorld} (h : call.between = false)
    (htimely : call.timely world) :
    (resumeLogin accountDigest wait call world).1 = world.after wait.elapsed
      ∧ ((resumeLogin accountDigest wait call world).2.between = true → call.isThrottling = true
        ∧ (resumeLogin accountDigest wait call world).2.point = .finding
        ∧ Over (world.account accountDigest) (world.after wait.elapsed).clock) := by
  rcases call with ⟨ipDigest, point⟩
  cases point with
  | throttling now =>
    simp only [resumeLogin]
    split
    · exact ⟨rfl, fun hbetween => (by cases hbetween)⟩
    · rename_i hnone
      refine ⟨rfl, fun _ => ⟨rfl, rfl, fun cooldownUntil huntil => ?_⟩⟩
      obtain ⟨row, hrow, hrowUntil⟩ := Option.bind_eq_some_iff.mp huntil
      have hover := cooling_eq_false.mp (not_cooling_of_getActiveBlock hnone
        (show accountKey accountDigest ∈ _ from List.mem_cons_self) hrow) cooldownUntil hrowUntil
      exact hover.trans ((htimely now rfl).trans (le_after world wait.elapsed))
  | recording newBlock => cases newBlock <;> exact ⟨rfl, fun hbetween => (by cases hbetween)⟩
  | refusing block => exact ⟨rfl, fun hbetween => (by cases hbetween)⟩
  | refused block => exact ⟨rfl, fun hbetween => (by cases hbetween)⟩
  | cooldown block => exact ⟨rfl, fun hbetween => (by cases hbetween)⟩
  | unauthorized message => exact ⟨rfl, fun hbetween => (by cases hbetween)⟩
  | _ => cases h

/-- **A call in between** goes on to check its password and to count it. -/
theorem resume_between (wait : Wait) {world : LoginWorld} (h : call.between = true)
    (hphase : call.Phase accountDigest world) (hsparse : Sparse world) :
    Sparse (resumeLogin accountDigest wait call world).1
      ∧ (resumeLogin accountDigest wait call world).2.Phase accountDigest (resumeLogin accountDigest wait call world).1
      ∧ ((resumeLogin accountDigest wait call world).2.between = false →
        Fits ((resumeLogin accountDigest wait call world).1.account accountDigest)
          (resumeLogin accountDigest wait call world).1.checks (resumeLogin accountDigest wait call world).1.clock) := by
  rcases call with ⟨ipDigest, point⟩
  have hnext := hphase.after wait.elapsed
  have hlater := hsparse.after wait.elapsed
  generalize hworld : world.after wait.elapsed = later at hnext hlater
  cases point with
  | finding =>
    simp only [resumeLogin, hworld]
    exact ⟨hlater, hnext, fun hbetween => (by cases hbetween)⟩
  | verifying =>
    simp only [resumeLogin, hworld]
    obtain ⟨hfits, hover⟩ := hnext
    have hchecks : (later.log [.checked later.clock]).checks = later.clock :: later.checks := rfl
    have hfar : ∀ t ∈ later.checks.drop 8, t + 60000 ≤ later.clock := by
      intro t ht
      cases hrow : later.account accountDigest with
      | none =>
        rw [hrow] at hfits
        have hnil : later.checks = [] := hfits
        rw [hnil] at ht
        cases ht
      | some row =>
        rw [hrow] at hfits hover
        exact RowFits.spread hfits hover t ht
    refine ⟨⟨?_, ?_⟩, ⟨later.checks, hchecks, ?_⟩, fun hbetween => (by cases hbetween)⟩
    · rw [hchecks]
      exact ⟨hlater.spread, hlater.past, hfar⟩
    · rw [hchecks, List.forall_mem_cons]
      exact ⟨le_refl _, hlater.past⟩
    · show Pending (later.account accountDigest) later.checks later.clock
      cases hrow : later.account accountDigest with
      | none =>
        rw [hrow] at hfits
        have hnil : later.checks = [] := hfits
        rw [hnil]
        exact fun t ht => absurd ht List.not_mem_nil
      | some row =>
        rw [hrow] at hfits hover
        exact ⟨hfits, hover⟩
  | deleting now =>
    simp only [resumeLogin, hworld]
    obtain ⟨earlier, hchecks, hpending⟩ := hnext
    have hsame : (later.deleteExpired accountDigest now wait.locked).checks = later.checks := by
      rcases deleteExpired_cases accountDigest later now wait.locked with
        ⟨-, hevents⟩ | ⟨-, hevents, -⟩
      · rw [LoginWorld.checks, hevents]
        rfl
      · rw [LoginWorld.checks, hevents]
        rfl
    refine ⟨⟨?_, ?_⟩, ⟨earlier, hsame.trans hchecks, ?_⟩, fun hbetween => (by cases hbetween)⟩
    · rw [hsame]
      exact hlater.spread
    · rw [hsame]
      exact hlater.past
    · rcases deleteExpired_cases accountDigest later now wait.locked with
        ⟨hrow, -⟩ | ⟨hrow, -, row, hold, hexpired⟩
      · rw [hrow]
        exact hpending
      · rw [hrow]
        rw [hold] at hpending
        exact fun t ht => (hpending.1.kept t ht).trans hexpired
  | incrementing now =>
    simp only [resumeLogin, hworld]
    obtain ⟨earlier, hchecks, hpending⟩ := hnext
    have hevents := events_increment accountDigest later ipDigest now
    have hsame : (later.increment accountDigest (scopedKeys .LOGIN ⟨accountDigest, ipDigest⟩) now).checks
        = later.checks := by
      rw [LoginWorld.checks, hevents, List.filterMap_append, checkedAt_cooldownBegun]
      rfl
    refine ⟨⟨?_, ?_⟩, trivial, fun _ => ?_⟩
    · rw [hsame]
      exact hlater.spread
    · rw [hsame]
      exact hlater.past
    · rw [account_increment, hsame, hchecks]
      have hspread := hlater.spread
      have hpast := hlater.past
      rw [hchecks] at hspread hpast
      exact @Fits.mono (some _) _ _ _ (hpending.counted hspread.2.1) (hpast now List.mem_cons_self)
  | _ => cases h

/-- A call in between holds the account. -/
def LoginCall.holds (call : LoginCall) : Option Unit := if call.between then some () else none

/-- What holds when no call looks for a cooldown while another one is in between. -/
structure Guarded (accountDigest : String) (pool : Pool LoginWorld LoginCall) : Prop where
  sparse : Sparse pool.shared
  timely : ∀ call ∈ pool.calls, call.timely pool.shared
  apart : CallSystem.Apart LoginCall.holds pool.calls
  phases : ∀ call ∈ pool.calls, call.Phase accountDigest pool.shared
  idle : (∀ call ∈ pool.calls, call.between = false) →
    Fits (pool.shared.account accountDigest) pool.shared.checks pool.shared.clock

theorem phase_of_not_between (h : call.between = false) (world : LoginWorld) :
    call.Phase accountDigest world := by
  rcases call with ⟨ipDigest, point⟩
  cases point with
  | finding => cases h
  | verifying => cases h
  | deleting now => cases h
  | incrementing now => cases h
  | _ => trivial

/-- The calls but one are not in between. -/
theorem Guarded.others (h : Guarded accountDigest pool) {i : Nat}
    (hcall : pool.calls[i]? = some call) (hbetween : call.between = true) (next : LoginCall) :
    ∀ other ∈ pool.calls.set i next, other = next ∨ other.between = false := by
  intro other hother
  obtain ⟨j, hj⟩ := List.mem_iff_getElem?.mp hother
  by_cases hij : i = j
  · subst hij
    rw [List.getElem?_set_self (List.getElem?_eq_some_iff.mp hcall).1, Option.some.injEq] at hj
    exact .inl hj.symm
  · rw [List.getElem?_set_ne hij] at hj
    right
    by_contra hother
    rw [Bool.not_eq_false] at hother
    exact hij (h.apart i j call other () hcall hj (if_pos hbetween) (if_pos hother))

theorem Guarded.start (h : Guarded accountDigest pool) (args : String × Nat) :
    Guarded accountDigest ⟨((logins accountDigest).start args pool.shared).2.1,
      pool.calls ++ [((logins accountDigest).start args pool.shared).2.2]⟩ := by
  have hlast : ∀ {P : LoginCall → Prop}, (∀ call ∈ pool.calls, P call)
      → P ((logins accountDigest).start args pool.shared).2.2 →
      ∀ call ∈ pool.calls ++ [((logins accountDigest).start args pool.shared).2.2], P call := by
    intro P hall hnew call hcall
    rcases List.mem_append.mp hcall with hcall | hcall
    · exact hall call hcall
    · rw [List.mem_singleton.mp hcall]
      exact hnew
  refine ⟨h.sparse.after args.2, hlast ?_ ?_, h.apart.append rfl, hlast ?_ trivial, ?_⟩
  · exact fun call hcall now hnow => (h.timely call hcall now hnow).trans (le_after pool.shared args.2)
  · intro now hnow
    cases hnow
    exact le_refl _
  · exact fun call hcall => (h.phases call hcall).after args.2
  · intro hidle
    exact (h.idle fun call hcall => hidle call (List.mem_append_left _ hcall)).mono (le_after pool.shared args.2)

theorem Guarded.resume (h : Guarded accountDigest pool) {i : Nat} {wait : Wait}
    {call : LoginCall} (halone : Alone wait call pool) (hcall : pool.calls[i]? = some call) :
    Guarded accountDigest ⟨(resumeLogin accountDigest wait call pool.shared).1,
      pool.calls.set i (resumeLogin accountDigest wait call pool.shared).2⟩ := by
  have hmem := List.mem_of_getElem? hcall
  have htimely : ∀ other ∈ pool.calls.set i (resumeLogin accountDigest wait call pool.shared).2,
      other.timely (resumeLogin accountDigest wait call pool.shared).1 := by
    intro other hother now hnow
    rcases List.mem_or_eq_of_mem_set hother with hold | rfl
    · exact (h.timely other hold now hnow).trans (clock_le_resume wait call pool.shared)
    · exact absurd hnow (not_throttling_resume wait call pool.shared now)
  by_cases hbetween : call.between = true
  · -- The call holds the account before and, but for the last piece, after.
    obtain ⟨hsparse, hphase, hfits⟩ := resume_between wait hbetween (h.phases call hmem) h.sparse
    have hothers := h.others hcall hbetween (resumeLogin accountDigest wait call pool.shared).2
    refine ⟨hsparse, htimely, ?_, ?_, ?_⟩
    · exact h.apart.set hcall fun k _ => .inl (if_pos hbetween)
    · intro other hother
      rcases hothers other hother with rfl | hnot
      · exact hphase
      · exact phase_of_not_between hnot _
    · intro hidle
      exact hfits (hidle _ (List.mem_set (List.getElem?_eq_some_iff.mp hcall).1 _))
  · rw [Bool.not_eq_true] at hbetween
    obtain ⟨hworld, hnext⟩ := resume_idle accountDigest wait hbetween (h.timely call hmem)
    rw [hworld] at htimely ⊢
    refine ⟨h.sparse.after wait.elapsed, htimely, ?_, ?_, ?_⟩
    · refine h.apart.set hcall fun k hk => .inr fun u hu => ?_
      -- No call holds the account when one comes to hold it.
      have hholds : (resumeLogin accountDigest wait call pool.shared).2.between = true := by
        by_contra hnot
        rw [LoginCall.holds, if_neg hnot] at hk
        cases hk
      rw [LoginCall.holds, halone (hnext hholds).1 u hu]
      exact Option.some_ne_none k |>.symm
    · intro other hother
      rcases List.mem_or_eq_of_mem_set hother with hold | rfl
      · exact (h.phases other hold).after wait.elapsed
      · by_cases hholds : (resumeLogin accountDigest wait call pool.shared).2.between = true
        · obtain ⟨hthrottling, hpoint, hover⟩ := hnext hholds
          rw [LoginCall.Phase, hpoint]
          exact ⟨(h.idle (halone hthrottling)).mono (le_after pool.shared wait.elapsed), hover⟩
        · exact phase_of_not_between (Bool.not_eq_true _ ▸ hholds) _
    · intro hidle
      refine (h.idle fun other hother => ?_).mono (le_after pool.shared wait.elapsed)
      obtain ⟨j, hj⟩ := List.mem_iff_getElem?.mp hother
      by_cases hij : i = j
      · subst hij
        rw [hcall, Option.some.injEq] at hj
        exact hj ▸ hbetween
      · exact hidle other (List.mem_of_getElem? ((List.getElem?_set_ne hij).trans hj))

theorem guarded_of_run {world : LoginWorld} (hrow : world.account accountDigest = none) (hevents : world.events = [])
    {moves : List (Move (String × Nat) Wait)} (hmoves : (logins accountDigest).EachResumeIn Alone world moves) :
    Guarded accountDigest ((logins accountDigest).pool world moves) := by
  refine (logins accountDigest).pool_induction_where ?_ (fun args pool h => h.start args)
    (fun i wait call pool halone h hcall => h.resume halone hcall) hmoves
  have hchecks : world.checks = [] := by
    rw [LoginWorld.checks, hevents]
    rfl
  refine ⟨⟨hchecks ▸ trivial, by simp [hchecks]⟩, by simp, by simp [CallSystem.Apart], by simp, fun _ => ?_⟩
  rw [hrow]
  exact hchecks

end Alone

/-- **Passwords are guessed no more often than nine times within a minute when calls are counted one at a time.** In
every run, no password is checked by a call that looks for a cooldown when there is one, and the cooldowns since the
row of the account was last deleted last 1, 5, 15, 15, ... minutes. When no call looks for a cooldown while another one
is in between, at most nine passwords are checked within an interval that is shorter than a minute. -/
theorem guesses_throttled (accountDigest : String) {world : LoginWorld} (hrow : world.account accountDigest = none)
    (hevents : world.events = []) (moves : List (Move (String × Nat) Wait)) :
    ((logins accountDigest).EachResumeIn Alone world moves → ∀ a b, b < a + 60000 →
        ((logins accountDigest).pool world moves).shared.checks.countP (fun t => a ≤ t ∧ t ≤ b) ≤ 9)
      ∧ (∀ before i wait after call row, moves = before ++ .resume i wait :: after →
        ((logins accountDigest).pool world before).calls[i]? = some call → call.isThrottling = true →
        ((logins accountDigest).pool world before).shared.account accountDigest = some row →
        row.cooling (((logins accountDigest).pool world before).shared.clock + wait.elapsed) = true →
        (logins accountDigest).Untouched LoginWorld.checks world moves i)
      ∧ (cooldownsSinceExpired ((logins accountDigest).pool world moves).shared.events).reverse
        = (List.range (cooldownsSinceExpired ((logins accountDigest).pool world moves).shared.events).length).map
          fun k => cooldownMs (k + 1) := by
  refine ⟨?_, ?_, ?_⟩
  · intro hmoves a b hab
    exact (guarded_of_run hrow hevents hmoves).sparse.spread.countP_le hab
  · rintro before i wait after call row rfl hcall hthrottling hsome hcooling
    exact untouched_of_cooling world hcall hthrottling hsome hcooling
  · refine (escalated_of_run ?_ moves).durations
    rw [hrow, hevents]
    exact ⟨rfl, rfl⟩

/-! ## Ten calls at once -/

namespace Sample

/-- No row, and nothing has happened. -/
def world : LoginWorld := ⟨0, .empty, []⟩

/-- A call goes on so often, and no time passes. -/
def resumes (call times : Nat) : List (Move (String × Nat) Wait) := List.replicate times (.resume call ⟨0, []⟩)

/-- A call after the other. -/
def inTurn : List (Move (String × Nat) Wait) :=
  .start ("127.0.0.1", 0) :: resumes 0 6 ++ .start ("127.0.0.1", 0) :: resumes 1 6

/-- Ten calls look for a cooldown before one of them is counted. -/
def together : List (Move (String × Nat) Wait) :=
  List.replicate 10 (.start ("127.0.0.1", 0)) ++ (List.range 10).flatMap fun call => resumes call 3

end Sample

/-- Two calls, one after the other. -/
theorem guesses_throttled_in_turn :
    ((logins "a").pool Sample.world Sample.inTurn).shared.checks.countP (fun t => 0 ≤ t ∧ t ≤ 0) ≤ 9 :=
  (guesses_throttled "a" rfl rfl Sample.inTurn).1 (by decide +kernel) 0 0 (by decide)

/-- **Ten calls that overlap check ten passwords** at one time. -/
theorem ten_guesses :
    ((logins "a").pool Sample.world Sample.together).shared.checks.countP (fun t => 0 ≤ t ∧ t ≤ 0) = 10 := by
  decide +kernel

end VentureOS.Auth
