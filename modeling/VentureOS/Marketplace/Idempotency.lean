import VentureOS.Foundations.Interleaving

/-! # Marketplace idempotency

`withIdempotency` of `idempotency.ts`, for the calls with one workspace and one key.

The calls share at most one row, which the unique index on workspace and key sees to. A call waits at every statement
and at every callback, and the calls go on in any order. A row that is pending is that of one call, which has claimed
it and has not let go of it; a call that has executed never lets go (`covered`). -/

namespace VentureOS.Marketplace

/-! ## Rows -/

/-- `IdempotencyKey.status`. -/
inductive IdempotencyStatus where
  | PENDING
  | SUCCEEDED
  | FAILED
  deriving DecidableEq, Repr

/-- `IdempotencyKey`, of one workspace and key. -/
structure IdempotencyRow (J : Type) where
  id : String
  marketplaceAccountId : String
  operationType : String
  requestHash : String
  status : IdempotencyStatus
  responseSnapshot : Option J
  completedAt : Option Int
  deriving DecidableEq, Repr

/-- `WithIdempotencyParams`, of one workspace and key, without the callbacks. -/
structure IdempotencyParams (P : Type) where
  marketplaceAccountId : String
  operationType : String
  requestPayload : P
  deriving DecidableEq, Repr

/-- What `withIdempotency` throws: its own errors, or what a statement or a callback has thrown. -/
inductive IdempotencyError where
  | accountNotFound
  | boundElsewhere
  | otherPayload
  | inFlight
  | thrown
  deriving DecidableEq, Repr

/-- `WithIdempotencyResult.result`: that of `execute`, or the response of the row. -/
inductive IdempotencyResult (R J : Type) where
  | executed (result : R)
  | replayed (response : Option J)
  deriving DecidableEq, Repr

variable {P R J : Type}

/-! ## Calls -/

/-- Where a call is: the statement or the callback that it waits for, or its end. -/
inductive IdempotencyPoint (R J : Type) where
  /-- `prisma.marketplaceAccount.findFirst`. -/
  | findingAccount
  /-- `prisma.idempotencyKey.findUnique`. -/
  | findingRow
  /-- `params.beforeReplay`. -/
  | replaying (existing : IdempotencyRow J)
  /-- `prisma.idempotencyKey.updateMany`. -/
  | reclaiming (existing : IdempotencyRow J)
  /-- `prisma.idempotencyKey.create`. -/
  | creating
  /-- `params.beforeExecute`. -/
  | preparing
  /-- `params.execute`. -/
  | executing
  /-- The update to `SUCCEEDED`. -/
  | caching (result : R)
  /-- The update to `FAILED`. -/
  | failing
  | returned (result : IdempotencyResult R J)
  | thrown (error : IdempotencyError)
  deriving DecidableEq, Repr

/-- A call of `withIdempotency`. -/
structure IdempotencyCall (P R J : Type) where
  params : IdempotencyParams P
  /-- How often it has called itself. -/
  level : Nat
  point : IdempotencyPoint R J
  /-- `row.id`, once it has claimed the row. -/
  claimed : Option String
  /-- `execute` was called. -/
  started : Bool
  /-- What `execute` has returned, once `executionCompleted`. -/
  completed : Option R
  deriving DecidableEq, Repr

/-- What comes of a statement or of a callback. -/
inductive IdempotencyReply (R : Type) where
  | throws
  /-- It completes; with what an account was found, the id of a row that is created and the time. -/
  | completes (found : Bool) (id : String) (now : Int)
  /-- `execute` returns, and `onExecutionSuccess` returns or throws. -/
  | executes (result : R) (accepted : Bool)
  deriving DecidableEq, Repr

variable {call : IdempotencyCall P R J}
  {p : Pool (Option (IdempotencyRow J)) (IdempotencyCall P R J)}
  {row row' : Option (IdempotencyRow J)}

variable {call' : IdempotencyCall P R J} {i : Nat}

section Calls

variable (hashObject : P → String) (jsonImage : R → Option J)

/-- A call is at this point. -/
def IdempotencyCall.goTo (call : IdempotencyCall P R J) (point : IdempotencyPoint R J) : IdempotencyCall P R J :=
  { call with point }

/-- What a call does with the row that it has found. -/
def afterFinding (params : IdempotencyParams P) : Option (IdempotencyRow J) → IdempotencyPoint R J
  | none => .creating
  | some existing =>
    if existing.marketplaceAccountId ≠ params.marketplaceAccountId
        ∨ existing.operationType ≠ params.operationType then .thrown .boundElsewhere
    else if existing.requestHash ≠ hashObject params.requestPayload then .thrown .otherPayload
    else match existing.status with
      | .SUCCEEDED => .replaying existing
      | .PENDING => .thrown .inFlight
      | .FAILED => .reclaiming existing

/-- The row that a call creates. -/
def createdRow (params : IdempotencyParams P) (id : String) : IdempotencyRow J where
  id := id
  marketplaceAccountId := params.marketplaceAccountId
  operationType := params.operationType
  requestHash := hashObject params.requestPayload
  status := .PENDING
  responseSnapshot := none
  completedAt := none

/-- The update of the row with this id, which throws when there is none. -/
def updateRow (id : Option String) (change : IdempotencyRow J → IdempotencyRow J) (row : Option (IdempotencyRow J)) :
    Option (Option (IdempotencyRow J)) :=
  match row with
  | some r => if some r.id = id then some (some (change r)) else none
  | none => none

/-- What a call does next, when what it waits for has come about. -/
def resumeIdempotency (reply : IdempotencyReply R) (call : IdempotencyCall P R J) (row : Option (IdempotencyRow J)) :
    Option (IdempotencyRow J) × IdempotencyCall P R J :=
  match call.point, reply with
  | .findingAccount, .completes found _ _ =>
    (row, call.goTo (if found then .findingRow else .thrown .accountNotFound))
  | .findingAccount, .throws => (row, call.goTo (.thrown .thrown))
  | .findingRow, .completes _ _ _ => (row, call.goTo (afterFinding hashObject call.params row))
  | .findingRow, .throws => (row, call.goTo (.thrown .thrown))
  | .replaying existing, .completes _ _ _ => (row, call.goTo (.returned (.replayed existing.responseSnapshot)))
  | .replaying _, .throws => (row, call.goTo (.thrown .thrown))
  | .reclaiming existing, .completes _ _ _ =>
    match row with
    | some r =>
      if r.id = existing.id ∧ r.status = .FAILED then
        (some { r with status := .PENDING, completedAt := none },
          { call with point := .preparing, claimed := some existing.id })
      else (row, call.goTo (.thrown .inFlight))
    | none => (row, call.goTo (.thrown .inFlight))
  | .reclaiming _, .throws => (row, call.goTo (.thrown .thrown))
  | .creating, .completes _ id _ =>
    match row with
    | none =>
      (some (createdRow hashObject call.params id), { call with point := .preparing, claimed := some id })
    -- The unique constraint fails, and the call calls itself.
    | some _ => (row, { call with point := .findingAccount, level := call.level + 1 })
  | .creating, .throws => (row, call.goTo (.thrown .thrown))
  | .preparing, .completes _ _ _ => (row, { call with point := .executing, started := true })
  | .preparing, .throws => (row, call.goTo .failing)
  | .executing, .executes result accepted =>
    -- When `onExecutionSuccess` throws, or the result has no JSON, the row stays pending.
    (row, { call with
      point := if accepted ∧ (jsonImage result).isSome then .caching result else .thrown .thrown
      completed := some result })
  | .executing, .throws => (row, call.goTo .failing)
  | .caching result, .completes _ _ now =>
    match updateRow call.claimed (fun r =>
      { r with status := .SUCCEEDED, responseSnapshot := jsonImage result, completedAt := some now }) row with
    | some row' => (row', call.goTo (.returned (.executed result)))
    | none => (row, call.goTo (.thrown .thrown))
  | .caching _, .throws => (row, call.goTo (.thrown .thrown))
  | .failing, .completes _ _ now =>
    match updateRow call.claimed (fun r => { r with status := .FAILED, completedAt := some now }) row with
    | some row' => (row', call.goTo (.thrown .thrown))
    | none => (row, call.goTo (.thrown .thrown))
  | .failing, .throws => (row, call.goTo (.thrown .thrown))
  | _, _ => (row, call)

/-- A call begins. -/
def beginIdempotency (params : IdempotencyParams P) : IdempotencyCall P R J where
  params := params
  level := 0
  point := .findingAccount
  claimed := none
  started := false
  completed := none

/-- The calls of `withIdempotency` for one workspace and key, in any interleaving. -/
def idempotency : CallSystem (Option (IdempotencyRow J)) (IdempotencyCall P R J) (IdempotencyParams P)
    (IdempotencyReply R) Unit where
  start params row := ((), row, beginIdempotency params)
  resume reply call row := ((), resumeIdempotency hashObject jsonImage reply call row)

/-! ## Rows over time -/

/-- A row is for this account, this type of operation and this payload. -/
def IdempotencyRow.Carries (row : IdempotencyRow J) (params : IdempotencyParams P) : Prop :=
  row.marketplaceAccountId = params.marketplaceAccountId ∧ row.operationType = params.operationType
    ∧ row.requestHash = hashObject params.requestPayload

/-- What a row is later: it stays, with what it is for, and a success stays as it is. -/
def Extends (row row' : Option (IdempotencyRow J)) : Prop :=
  ∀ r ∈ row, ∃ r' ∈ row', r'.id = r.id
    ∧ (r'.marketplaceAccountId = r.marketplaceAccountId ∧ r'.operationType = r.operationType
      ∧ r'.requestHash = r.requestHash)
    ∧ (r.status = .SUCCEEDED → r' = r)

theorem Extends.refl (row : Option (IdempotencyRow J)) : Extends row row :=
  fun r hr => ⟨r, hr, rfl, ⟨rfl, rfl, rfl⟩, fun _ => rfl⟩

theorem Extends.of_none (row : Option (IdempotencyRow J)) : Extends none row := fun _ hr => by cases hr

/-- A row that is no success may get another status. -/
theorem Extends.of_update {r : IdempotencyRow J} (h : r.status ≠ .SUCCEEDED) (status : IdempotencyStatus)
    (response : Option J) (completedAt : Option Int) :
    Extends (some r) (some { r with status, responseSnapshot := response, completedAt }) := by
  intro r' hr'
  cases hr'
  exact ⟨_, rfl, rfl, ⟨rfl, rfl, rfl⟩, fun hsucceeded => absurd hsucceeded h⟩

variable {hashObject jsonImage}

/-! ## What one resumption does -/

/-- The call has claimed the row, and not let go of it. -/
def IdempotencyPoint.holding : IdempotencyPoint R J → Bool
  | .preparing => true
  | .executing => true
  | .caching _ => true
  | .failing => true
  | _ => false

/-- How a call changes the row. -/
inductive Change (hashObject : P → String) (jsonImage : R → Option J) (call : IdempotencyCall P R J) :
    Option (IdempotencyRow J) → Option (IdempotencyRow J) → IdempotencyCall P R J → Prop
  | created (id : String) (h : call.point = .creating) :
      Change hashObject jsonImage call none (some (createdRow hashObject call.params id))
        { call with point := .preparing, claimed := some id }
  | reclaimed (r existing : IdempotencyRow J) (h : call.point = .reclaiming existing) (hid : r.id = existing.id)
      (hstatus : r.status = .FAILED) :
      Change hashObject jsonImage call (some r) (some { r with status := .PENDING, completedAt := none })
        { call with point := .preparing, claimed := some existing.id }
  | cached (r : IdempotencyRow J) (result : R) (now : Int) (h : call.point = .caching result)
      (hid : some r.id = call.claimed) :
      Change hashObject jsonImage call (some r)
        (some { r with status := .SUCCEEDED, responseSnapshot := jsonImage result, completedAt := some now })
        (call.goTo (.returned (.executed result)))
  | failed (r : IdempotencyRow J) (now : Int) (h : call.point = .failing) (hid : some r.id = call.claimed) :
      Change hashObject jsonImage call (some r) (some { r with status := .FAILED, completedAt := some now })
        (call.goTo (.thrown .thrown))

theorem updateRow_eq_some {id : Option String} {change : IdempotencyRow J → IdempotencyRow J}
    :
    updateRow id change row = some row' ↔ ∃ r, row = some r ∧ some r.id = id ∧ row' = some (change r) := by
  unfold updateRow
  split
  · rename_i r
    split
    · rename_i hid
      simp [hid, eq_comm]
    · rename_i hid
      simp [hid]
  · simp

variable (hashObject jsonImage) in
/-- **A resumption leaves the row, or changes it in one of four ways.** -/
theorem change_of_resume (reply : IdempotencyReply R) (call : IdempotencyCall P R J)
    (row : Option (IdempotencyRow J)) :
    (resumeIdempotency hashObject jsonImage reply call row).1 = row
      ∨ Change hashObject jsonImage call row (resumeIdempotency hashObject jsonImage reply call row).1
          (resumeIdempotency hashObject jsonImage reply call row).2 := by
  fun_cases resumeIdempotency hashObject jsonImage reply call row
  case case7 hpoint r hclaim => exact Or.inr (.reclaimed r _ hpoint hclaim.1 hclaim.2)
  case case11 hpoint => exact Or.inr (.created _ hpoint)
  case case18 hpoint row' hupdated =>
    obtain ⟨r, rfl, hid, rfl⟩ := updateRow_eq_some.mp hupdated
    exact Or.inr (.cached r _ _ hpoint hid)
  case case21 hpoint row' hupdated =>
    obtain ⟨r, rfl, hid, rfl⟩ := updateRow_eq_some.mp hupdated
    exact Or.inr (.failed r _ hpoint hid)
  all_goals exact Or.inl rfl

/-! ## Holding the row -/

/-- A call that holds the row, or has executed. -/
def IdempotencyCall.weight (call : IdempotencyCall P R J) : Nat :=
  if call.point.holding = true ∨ call.completed.isSome = true then 1 else 0

/-- A row that cannot be claimed. -/
def taken : Option (IdempotencyRow J) → Nat
  | some row => if row.status = .FAILED then 0 else 1
  | none => 0

theorem taken_le_one (row : Option (IdempotencyRow J)) : taken row ≤ 1 := by
  unfold taken
  split
  · split <;> decide
  · decide

theorem IdempotencyCall.weight_le_one (call : IdempotencyCall P R J) : call.weight ≤ 1 := by
  unfold weight
  split <;> decide

theorem weight_goTo_of_not_holding {point : IdempotencyPoint R J}
    (h : point.holding = false) : (call.goTo point).weight ≤ call.weight := by
  unfold IdempotencyCall.weight IdempotencyCall.goTo
  rw [h]
  split <;> split <;> simp_all

theorem holding_afterFinding (params : IdempotencyParams P) (row : Option (IdempotencyRow J)) :
    (afterFinding (R := R) hashObject params row).holding = false := by
  unfold afterFinding
  repeat' split
  all_goals rfl

variable (hashObject jsonImage) in
/-- **What is taken is held**: the row is taken when a call comes to hold it, and not left before the call lets go. -/
theorem weight_resume (reply : IdempotencyReply R) (row : Option (IdempotencyRow J))
    (hfailing : call.point = .failing → call.completed = none) :
    (resumeIdempotency hashObject jsonImage reply call row).2.weight + taken row
      ≤ taken (resumeIdempotency hashObject jsonImage reply call row).1 + call.weight := by
  have htaken := taken_le_one row
  have stays : ∀ call' : IdempotencyCall P R J, call'.weight ≤ call.weight →
      call'.weight + taken row ≤ taken row + call.weight := fun _ h => by omega
  have holds : ∀ call' : IdempotencyCall P R J, call.point.holding = true →
      call'.weight + taken row ≤ taken row + call.weight := by
    intro call' h
    have hone : call.weight = 1 := if_pos (Or.inl h)
    have hle := call'.weight_le_one
    omega
  have leaves : ∀ point : IdempotencyPoint R J, point.holding = false →
      (call.goTo point).weight + taken row ≤ taken row + call.weight :=
    fun point h => stays _ (weight_goTo_of_not_holding h)
  have claims : ∀ call' : IdempotencyCall P R J, call'.weight + 0 ≤ 1 + call.weight := fun call' =>
    Nat.le_trans call'.weight_le_one (Nat.le_add_right 1 _)
  fun_cases resumeIdempotency hashObject jsonImage reply call row
  case case1 found id now hpoint => exact leaves _ (by cases found <;> rfl)
  case case3 => exact leaves _ (holding_afterFinding _ _)
  case case7 hpoint r hclaim =>
    rw [show taken (some r) = 0 from if_pos hclaim.2]
    exact claims _
  case case11 => exact claims _
  case case12 hpoint r =>
    refine stays _ ?_
    unfold IdempotencyCall.weight
    rw [hpoint]
    exact Nat.le_refl _
  case case14 hpoint => exact holds _ (by rw [hpoint]; rfl)
  case case15 hpoint => exact holds _ (by rw [hpoint]; rfl)
  case case16 hpoint => exact holds _ (by rw [hpoint]; rfl)
  case case17 hpoint => exact holds _ (by rw [hpoint]; rfl)
  case case18 result _ _ _ hpoint row' hupdated =>
    obtain ⟨r, rfl, -, rfl⟩ := updateRow_eq_some.mp hupdated
    have hone : call.weight = 1 := if_pos (Or.inl (by rw [hpoint]; rfl))
    rw [hone]
    exact Nat.add_le_add (call.goTo (.returned (.executed result))).weight_le_one htaken
  case case21 hpoint row' hupdated =>
    obtain ⟨r, rfl, -, rfl⟩ := updateRow_eq_some.mp hupdated
    have hone : call.weight = 1 := if_pos (Or.inl (by rw [hpoint]; rfl))
    have hzero : (call.goTo (.thrown .thrown)).weight = 0 := by
      unfold IdempotencyCall.weight IdempotencyCall.goTo
      rw [hfailing hpoint]
      rfl
    rw [hone, hzero]
    omega
  case case19 hpoint _ => exact leaves _ rfl
  all_goals first
    | exact leaves _ rfl
    | exact Nat.le_of_eq (Nat.add_comm _ _)

/-! ## What is kept -/

section Kept

variable (hashObject jsonImage)

/-- The row is pending, and the call has claimed it. -/
def Owned (row : Option (IdempotencyRow J)) (call : IdempotencyCall P R J) : Prop :=
  ∃ r ∈ row, r.status = .PENDING ∧ call.claimed = some r.id

/-- The row has this id, and is for what the call is for. -/
def Found (row : Option (IdempotencyRow J)) (params : IdempotencyParams P) (id : String) : Prop :=
  ∃ r ∈ row, r.id = id ∧ r.Carries hashObject params

/-- What is known of the row where a call waits. -/
def AtPoint (row : Option (IdempotencyRow J)) (call : IdempotencyCall P R J) : Prop :=
  match call.point with
  | .findingAccount => call.completed = none
  | .findingRow => call.completed = none
  | .replaying existing => existing ∈ row ∧ existing.status = .SUCCEEDED
  | .reclaiming existing => call.completed = none ∧ Found hashObject row call.params existing.id
  | .creating => call.completed = none ∧ call.level = 0
  | .preparing => call.completed = none ∧ Owned row call
  | .executing => call.completed = none ∧ Owned row call
  | .caching result => call.completed = some result ∧ (jsonImage result).isSome = true ∧ Owned row call
  | .failing => call.completed = none ∧ Owned row call
  | .returned (.executed result) => call.completed = some result
  | .returned (.replayed response) => ∃ r ∈ row, r.status = .SUCCEEDED ∧ r.responseSnapshot = response
  | .thrown _ => True

/-- What is known of the row and a call. -/
structure Kept (row : Option (IdempotencyRow J)) (call : IdempotencyCall P R J) : Prop where
  level : call.level ≤ 1
  again : call.level = 1 → row.isSome = true
  claimed : ∀ id ∈ call.claimed, Found hashObject row call.params id
  started : call.started = true → call.claimed.isSome = true
  point : AtPoint hashObject jsonImage row call

end Kept

theorem Found.extends (h : Extends row row') {params : IdempotencyParams P}
    {id : String} (hfound : Found hashObject row params id) : Found hashObject row' params id := by
  obtain ⟨r, hr, hid, haccount, htype, hhash⟩ := hfound
  obtain ⟨r', hr', hid', ⟨haccount', htype', hhash'⟩, -⟩ := h r hr
  exact ⟨r', hr', hid'.trans hid, haccount'.trans haccount, htype'.trans htype, hhash'.trans hhash⟩

/-- What is known of the row and of a call that does not hold it stays, when the row is extended. -/
theorem Kept.extends (h : Extends row row')
    (hkept : Kept hashObject jsonImage row call) (hholding : call.point.holding = false) :
    Kept hashObject jsonImage row' call where
  level := hkept.level
  again hlevel := by
    obtain ⟨r, hr⟩ := Option.isSome_iff_exists.mp (hkept.again hlevel)
    obtain ⟨r', hr', -⟩ := h r hr
    exact Option.isSome_iff_exists.mpr ⟨r', hr'⟩
  claimed id hid := (hkept.claimed id hid).extends h
  started := hkept.started
  point := by
    have hpoint := hkept.point
    unfold AtPoint at hpoint ⊢
    split at hpoint
    case h_3 existing heq =>
      obtain ⟨r', hr', -, -, hsame⟩ := h existing hpoint.1
      exact ⟨hsame hpoint.2 ▸ hr', hpoint.2⟩
    case h_4 existing heq => exact ⟨hpoint.1, hpoint.2.extends h⟩
    case h_6 heq =>
      rw [heq] at hholding
      cases hholding
    case h_7 heq =>
      rw [heq] at hholding
      cases hholding
    case h_8 heq =>
      rw [heq] at hholding
      cases hholding
    case h_9 heq =>
      rw [heq] at hholding
      cases hholding
    case h_11 response heq =>
      obtain ⟨r, hr, hsucceeded, hresponse⟩ := hpoint
      obtain ⟨r', hr', -, -, hsame⟩ := h r hr
      exact ⟨r, hsame hsucceeded ▸ hr', hsucceeded, hresponse⟩
    all_goals exact hpoint

/-- A change extends the row. -/
theorem Change.extends
    (h : Change hashObject jsonImage call row row' call') (hkept : Kept hashObject jsonImage row call) :
    Extends row row' := by
  have hpoint := hkept.point
  cases h with
  | created id h => exact Extends.of_none _
  | reclaimed r existing h hid hstatus =>
    refine Extends.of_update ?_ .PENDING r.responseSnapshot none
    rw [hstatus]
    exact fun h => by cases h
  | cached r result now h hid =>
    unfold AtPoint at hpoint
    rw [h] at hpoint
    obtain ⟨-, -, r', hr', hpending, -⟩ := hpoint
    cases hr'
    refine Extends.of_update ?_ .SUCCEEDED (jsonImage result) (some now)
    rw [hpending]
    exact fun h => by cases h
  | failed r now h hid =>
    unfold AtPoint at hpoint
    rw [h] at hpoint
    obtain ⟨-, r', hr', hpending, -⟩ := hpoint
    cases hr'
    refine Extends.of_update ?_ .FAILED r.responseSnapshot (some now)
    rw [hpending]
    exact fun h => by cases h

/-- A call that finds a row of a success, or a failed one, has found it for what it is for. -/
theorem atPoint_afterFinding
    (hcompleted : call.completed = none) (hlevel : call.level ≤ 1) (hagain : call.level = 1 → row.isSome = true) :
    AtPoint hashObject jsonImage row (call.goTo (afterFinding hashObject call.params row)) := by
  cases row with
  | none =>
    have hzero : call.level = 0 := by
      by_contra hne
      cases hagain (by omega)
    exact ⟨hcompleted, hzero⟩
  | some existing =>
    by_cases hbound : existing.marketplaceAccountId ≠ call.params.marketplaceAccountId
        ∨ existing.operationType ≠ call.params.operationType
    · rw [afterFinding, if_pos hbound]
      trivial
    · by_cases hhash : existing.requestHash ≠ hashObject call.params.requestPayload
      · rw [afterFinding, if_neg hbound, if_pos hhash]
        trivial
      · rw [afterFinding, if_neg hbound, if_neg hhash]
        rw [not_or, not_ne_iff, not_ne_iff] at hbound
        cases hstatus : existing.status with
        | SUCCEEDED => exact ⟨rfl, hstatus⟩
        | PENDING => trivial
        | FAILED => exact ⟨hcompleted, existing, rfl, rfl, hbound.1, hbound.2, not_ne_iff.mp hhash⟩

/-- **A resumption keeps what is known of its own call.** -/
theorem Kept.resume {row : Option (IdempotencyRow J)} {call : IdempotencyCall P R J}
    (h : Kept hashObject jsonImage row call) (reply : IdempotencyReply R) :
    Kept hashObject jsonImage (resumeIdempotency hashObject jsonImage reply call row).1
      (resumeIdempotency hashObject jsonImage reply call row).2 := by
  -- Where the row stays, only what is known of the new point is to be shown.
  have goes : ∀ point : IdempotencyPoint R J, AtPoint hashObject jsonImage row (call.goTo point) →
      Kept hashObject jsonImage row (call.goTo point) :=
    fun point hpoint => ⟨h.level, h.again, h.claimed, h.started, hpoint⟩
  have hpoint := h.point
  unfold AtPoint at hpoint
  fun_cases resumeIdempotency hashObject jsonImage reply call row
  case case1 found id now heq =>
    rw [heq] at hpoint
    refine goes _ ?_
    cases found
    · trivial
    · exact hpoint
  case case3 heq =>
    rw [heq] at hpoint
    exact goes _ (atPoint_afterFinding hpoint h.level h.again)
  case case5 existing _ _ _ heq =>
    rw [heq] at hpoint
    exact goes _ ⟨existing, hpoint.1, hpoint.2, rfl⟩
  case case7 existing _ _ _ heq r hclaim =>
    rw [heq] at hpoint
    obtain ⟨hcompleted, r', hr', hid, hcarries⟩ := hpoint
    cases hr'
    refine ⟨h.level, fun _ => rfl, fun id hid' => ?_, fun _ => rfl, hcompleted, _, rfl, rfl, ?_⟩
    · cases hid'
      exact ⟨_, rfl, hid, hcarries⟩
    · exact congrArg some hid.symm
  case case11 id _ heq =>
    rw [heq] at hpoint
    refine ⟨h.level, fun _ => rfl, fun id' hid' => ?_, fun _ => rfl, hpoint.1, _, rfl, rfl, rfl⟩
    cases hid'
    exact ⟨_, rfl, rfl, rfl, rfl, rfl⟩
  case case12 heq r =>
    rw [heq] at hpoint
    refine ⟨?_, fun _ => rfl, h.claimed, h.started, hpoint.1⟩
    exact Nat.le_of_eq (congrArg (· + 1) hpoint.2)
  case case14 heq =>
    rw [heq] at hpoint
    obtain ⟨hcompleted, r, hr, hpending, hclaimed⟩ := hpoint
    exact ⟨h.level, h.again, h.claimed, fun _ => by rw [hclaimed]; rfl, hcompleted, r, hr, hpending, hclaimed⟩
  case case15 heq =>
    rw [heq] at hpoint
    exact goes _ hpoint
  case case16 result accepted heq =>
    rw [heq] at hpoint
    refine ⟨h.level, h.again, h.claimed, h.started, ?_⟩
    by_cases hcached : accepted = true ∧ (jsonImage result).isSome = true
    · rw [if_pos hcached]
      exact ⟨rfl, hcached.2, hpoint.2⟩
    · rw [if_neg hcached]
      trivial
  case case17 heq =>
    rw [heq] at hpoint
    exact goes _ hpoint
  case case18 result _ _ _ heq row' hupdated =>
    obtain ⟨r, rfl, hid, rfl⟩ := updateRow_eq_some.mp hupdated
    rw [heq] at hpoint
    refine ⟨h.level, fun _ => rfl, fun id hid' => ?_, h.started, hpoint.1⟩
    obtain ⟨r', hr', hid'', hcarries⟩ := h.claimed id hid'
    cases hr'
    exact ⟨_, rfl, hid'', hcarries⟩
  case case21 heq row' hupdated =>
    obtain ⟨r, rfl, hid, rfl⟩ := updateRow_eq_some.mp hupdated
    refine ⟨h.level, fun _ => rfl, fun id hid' => ?_, h.started, trivial⟩
    obtain ⟨r', hr', hid'', hcarries⟩ := h.claimed id hid'
    cases hr'
    exact ⟨_, rfl, hid'', hcarries⟩
  all_goals first
    | exact h
    | exact goes _ trivial

/-- A call has nothing to be known of when it begins. -/
theorem kept_begin (row : Option (IdempotencyRow J)) (params : IdempotencyParams P) :
    Kept hashObject jsonImage row (beginIdempotency (R := R) params) where
  level := Nat.zero_le _
  again h := nomatch h
  claimed _ hid := nomatch hid
  started h := nomatch h
  point := rfl

/-! ## How a call comes to a point -/

theorem afterFinding_ne (hash : P → String) (params : IdempotencyParams P)
    (row : Option (IdempotencyRow J)) :
    (∀ result, afterFinding (R := R) hash params row ≠ .returned result)
      ∧ afterFinding (R := R) hash params row ≠ .executing := by
  unfold afterFinding
  repeat' split
  all_goals exact ⟨fun _ h => (nomatch h), fun h => (nomatch h)⟩

/-- Only a replay returns what it has found. -/
theorem replayed_resume {hash : P → String} {jsonImage : R → Option J} (reply : IdempotencyReply R)
    (call : IdempotencyCall P R J) (row : Option (IdempotencyRow J)) {response : Option J}
    (h : (resumeIdempotency hash jsonImage reply call row).2.point = .returned (.replayed response)) :
    (∃ existing, call.point = .replaying existing) ∨ call.point = .returned (.replayed response) := by
  revert h
  fun_cases resumeIdempotency hash jsonImage reply call row
  case case1 found _ _ _ => cases found <;> exact fun h => by cases h
  case case3 => exact fun h => absurd h ((afterFinding_ne hash call.params row).1 _)
  case case5 existing _ _ _ hpoint => exact fun _ => .inl ⟨existing, hpoint⟩
  case case16 result accepted _ =>
    intro h
    dsimp only at h
    split at h <;> cases h
  all_goals first
    | exact fun h => .inr h
    | exact fun h => by cases h

/-- Only what is prepared is executed. -/
theorem executing_resume {hash : P → String} {jsonImage : R → Option J} (reply : IdempotencyReply R)
    (call : IdempotencyCall P R J) (row : Option (IdempotencyRow J))
    (h : (resumeIdempotency hash jsonImage reply call row).2.point = .executing) :
    (call.point = .preparing ∧ ∃ found id now, reply = .completes found id now) ∨ call.point = .executing := by
  revert h
  fun_cases resumeIdempotency hash jsonImage reply call row
  case case1 found _ _ _ => cases found <;> exact fun h => by cases h
  case case3 => exact fun h => absurd h (afterFinding_ne hash call.params row).2
  case case14 found id now hpoint => exact fun _ => .inl ⟨hpoint, found, id, now, rfl⟩
  case case16 result accepted _ =>
    intro h
    dsimp only at h
    split at h <;> cases h
  all_goals first
    | exact fun h => .inr h
    | exact fun h => by cases h

/-- What a call returns that has executed is in the row. -/
theorem executed_resume {hash : P → String} {jsonImage : R → Option J} (reply : IdempotencyReply R)
    (call : IdempotencyCall P R J) (row : Option (IdempotencyRow J)) {result : R}
    (h : (resumeIdempotency hash jsonImage reply call row).2.point = .returned (.executed result)) :
    (∃ r, (resumeIdempotency hash jsonImage reply call row).1 = some r ∧ r.status = .SUCCEEDED
        ∧ r.responseSnapshot = jsonImage result) ∨ call.point = .returned (.executed result) := by
  revert h
  fun_cases resumeIdempotency hash jsonImage reply call row
  case case1 found _ _ _ => cases found <;> exact fun h => by cases h
  case case3 => exact fun h => absurd h ((afterFinding_ne hash call.params row).1 _)
  case case16 result accepted _ =>
    intro h
    dsimp only at h
    split at h <;> cases h
  case case18 hpoint row' hupdated =>
    intro h
    cases h
    obtain ⟨r, rfl, -, rfl⟩ := updateRow_eq_some.mp hupdated
    exact .inl ⟨_, rfl, rfl, rfl⟩
  all_goals first
    | exact fun h => .inr h
    | exact fun h => by cases h

/-- What a call has completed with is what `execute` has returned. -/
theorem completed_of_resume {hash : P → String} {jsonImage : R → Option J} (reply : IdempotencyReply R)
    (call : IdempotencyCall P R J) (row : Option (IdempotencyRow J)) {result : R}
    (h : (resumeIdempotency hash jsonImage reply call row).2.completed = some result) :
    call.completed = some result ∨ ∃ accepted, reply = .executes result accepted := by
  revert h
  fun_cases resumeIdempotency hash jsonImage reply call row
  case case16 result' accepted _ =>
    intro h
    cases h
    exact .inr ⟨accepted, rfl⟩
  all_goals exact fun h => .inl h

/-! ## Pools -/

section Pools

variable (hashObject jsonImage)

/-- What is known of the row and all calls: the row is taken by one call at most, and a success has its response from a
call that has executed. -/
structure PoolKept (p : Pool (Option (IdempotencyRow J)) (IdempotencyCall P R J)) : Prop where
  covered : CallSystem.weigh IdempotencyCall.weight p.calls ≤ taken p.shared
  calls : ∀ call ∈ p.calls, Kept hashObject jsonImage p.shared call
  cached : ∀ r ∈ p.shared, r.status = .SUCCEEDED → ∃ call ∈ p.calls, ∃ result, call.completed = some result
    ∧ r.responseSnapshot = jsonImage result ∧ (jsonImage result).isSome = true

end Pools

/-- Two calls that hold the row, or have executed, are the same. -/
theorem PoolKept.unique
    (h : PoolKept hashObject jsonImage p) {j : Nat}
    (hcall : p.calls[i]? = some call) (hcall' : p.calls[j]? = some call') (hweight : call.weight = 1)
    (hweight' : call'.weight = 1) : i = j := by
  by_contra hne
  have hle := CallSystem.add_le_weigh IdempotencyCall.weight hne hcall hcall'
  have hcovered := h.covered
  have htaken := taken_le_one p.shared
  omega

/-- What has completed stays so. -/
theorem completed_resume
    (h : Kept hashObject jsonImage row call) (reply : IdempotencyReply R) {result : R}
    (hcompleted : call.completed = some result) :
    (resumeIdempotency hashObject jsonImage reply call row).2.completed = some result := by
  have hpoint := h.point
  unfold AtPoint at hpoint
  fun_cases resumeIdempotency hashObject jsonImage reply call row
  case case16 heq =>
    rw [heq, hcompleted] at hpoint
    cases hpoint.1
  all_goals exact hcompleted

theorem PoolKept.start
    (h : PoolKept hashObject jsonImage p) (params : IdempotencyParams P) :
    PoolKept hashObject jsonImage ⟨p.shared, p.calls ++ [beginIdempotency params]⟩ where
  covered := by
    have hcovered := h.covered
    simp only [CallSystem.weigh, List.map_append, List.sum_append, List.map_singleton,
      List.sum_singleton] at hcovered ⊢
    exact hcovered
  calls call hcall := by
    rcases List.mem_append.mp hcall with hcall | hcall
    · exact h.calls call hcall
    · rw [List.mem_singleton.mp hcall]
      exact kept_begin _ _
  cached r hr hsucceeded := by
    obtain ⟨call, hcall, hcompleted⟩ := h.cached r hr hsucceeded
    exact ⟨call, List.mem_append_left _ hcall, hcompleted⟩

theorem not_holding_of_weight (h : call.weight = 0) : call.point.holding = false := by
  by_contra hholding
  rw [Bool.not_eq_false] at hholding
  rw [IdempotencyCall.weight, if_pos (Or.inl hholding)] at h
  cases h

/-- While a call changes the row, no other call holds it. -/
theorem PoolKept.others
    (h : PoolKept hashObject jsonImage p)
    (hcall : p.calls[i]? = some call)
    (hchange : Change hashObject jsonImage call p.shared row' call') {j : Nat} (hne : j ≠ i)
    {other : IdempotencyCall P R J} (hother : p.calls[j]? = some other) : other.point.holding = false := by
  apply not_holding_of_weight
  have hcovered := h.covered
  have hpair := CallSystem.add_le_weigh IdempotencyCall.weight hne hother hcall
  have hholds : ∀ {point : IdempotencyPoint R J}, call.point = point → point.holding = true → call.weight = 1 :=
    fun heq hholding => if_pos (Or.inl (by rw [heq]; exact hholding))
  have htaken := taken_le_one p.shared
  generalize hrow : p.shared = row at hchange hcovered htaken
  cases hchange with
  | created id heq =>
    rw [show taken (none : Option (IdempotencyRow J)) = 0 from rfl] at hcovered
    omega
  | reclaimed r existing heq hid hstatus =>
    rw [show taken (some r) = 0 from if_pos hstatus] at hcovered
    omega
  | cached r result now heq hid =>
    rw [hholds heq rfl] at hpair
    omega
  | failed r now heq hid =>
    rw [hholds heq rfl] at hpair
    omega

theorem PoolKept.resume {p : Pool (Option (IdempotencyRow J)) (IdempotencyCall P R J)}
    (h : PoolKept hashObject jsonImage p) {call : IdempotencyCall P R J} (hcall : p.calls[i]? = some call)
    (reply : IdempotencyReply R) :
    PoolKept hashObject jsonImage ⟨(resumeIdempotency hashObject jsonImage reply call p.shared).1,
      p.calls.set i (resumeIdempotency hashObject jsonImage reply call p.shared).2⟩ := by
  have hkept := h.calls call (List.mem_of_getElem? hcall)
  have hbound := (List.getElem?_eq_some_iff.mp hcall).1
  have hself : ∀ call' : IdempotencyCall P R J, (p.calls.set i call')[i]? = some call' :=
    fun call' => List.getElem?_set_self hbound
  constructor
  · have hset := CallSystem.weigh_set IdempotencyCall.weight
      (resumeIdempotency hashObject jsonImage reply call p.shared).2 hcall
    have hcovered := h.covered
    have hfailing : call.point = .failing → call.completed = none := by
      intro heq
      have hpoint := hkept.point
      unfold AtPoint at hpoint
      rw [heq] at hpoint
      exact hpoint.1
    have hweight := weight_resume hashObject jsonImage reply p.shared hfailing
    dsimp only
    omega
  · intro other hother
    obtain ⟨j, hj⟩ := List.mem_iff_getElem?.mp hother
    by_cases hne : j = i
    · subst hne
      rw [hself, Option.some.injEq] at hj
      rw [← hj]
      exact hkept.resume reply
    · rw [List.getElem?_set_ne (Ne.symm hne)] at hj
      have hold := h.calls other (List.mem_of_getElem? hj)
      rcases change_of_resume hashObject jsonImage reply call p.shared with hsame | hchange
      · rw [hsame]
        exact hold
      · exact hold.extends (hchange.extends hkept) (h.others hcall hchange hne hj)
  · intro r hr hsucceeded
    rcases change_of_resume hashObject jsonImage reply call p.shared with hsame | hchange
    · rw [hsame] at hr
      obtain ⟨other, hother, result, hcompleted, hresponse⟩ := h.cached r hr hsucceeded
      obtain ⟨j, hj⟩ := List.mem_iff_getElem?.mp hother
      by_cases hne : j = i
      · subst hne
        rw [hcall, Option.some.injEq] at hj
        subst hj
        exact ⟨_, List.mem_of_getElem? (hself _), result, completed_resume hkept reply hcompleted, hresponse⟩
      · rw [← List.getElem?_set_ne (Ne.symm hne)] at hj
        exact ⟨other, List.mem_of_getElem? hj, result, hcompleted, hresponse⟩
    · have hpoint := hkept.point
      unfold AtPoint at hpoint
      generalize resumeIdempotency hashObject jsonImage reply call p.shared = piece at hchange hr ⊢
      obtain ⟨row', call'⟩ := piece
      generalize p.shared = row at hchange hpoint
      cases hchange with
      | cached r' result now heq hid =>
        rw [heq] at hpoint
        cases hr
        exact ⟨_, List.mem_of_getElem? (hself _), result, hpoint.1, rfl, hpoint.2.1⟩
      | _ =>
        cases hr
        cases hsucceeded

variable (hashObject jsonImage) in
/-- **What is kept in every interleaving.** -/
theorem pool_kept (moves : List (Move (IdempotencyParams P) (IdempotencyReply R))) :
    PoolKept hashObject jsonImage ((idempotency hashObject jsonImage).pool none moves) := by
  apply CallSystem.pool_induction
  · exact ⟨Nat.le_refl 0, fun call hcall => absurd hcall List.not_mem_nil, fun r hr => by cases hr⟩
  · exact fun params p h => h.start params
  · exact fun i reply call p h hcall => h.resume hcall reply

/-! ## Executions -/

theorem weight_of_completed (h : call.completed.isSome = true) : call.weight = 1 :=
  if_pos (Or.inr h)

theorem weight_of_executing (h : call.point = .executing) : call.weight = 1 :=
  if_pos (Or.inl (by rw [h]; rfl))

/-- Some call has executed. -/
def Executed (p : Pool (Option (IdempotencyRow J)) (IdempotencyCall P R J)) : Prop :=
  ∃ (i : Nat) (call : IdempotencyCall P R J), p.calls[i]? = some call ∧ call.completed.isSome = true

/-- Once some call has executed, a resumption starts no execution. -/
theorem PoolKept.not_started
    (h : PoolKept hashObject jsonImage p) (hexecuted : Executed p)
    (hcall : p.calls[i]? = some call) (reply : IdempotencyReply R)
    (hstarted : (resumeIdempotency hashObject jsonImage reply call p.shared).2.started = true) :
    call.started = true := by
  have hpoint := (h.calls call (List.mem_of_getElem? hcall)).point
  unfold AtPoint at hpoint
  generalize p.shared = row at hpoint hstarted
  revert hstarted
  fun_cases resumeIdempotency hashObject jsonImage reply call row
  case case14 heq =>
    intro _
    obtain ⟨j, other, hother, hcompleted⟩ := hexecuted
    have hweight : call.weight = 1 := if_pos (Or.inl (by rw [heq]; rfl))
    have hsame := h.unique hcall hother hweight (weight_of_completed hcompleted)
    subst hsame
    rw [hcall, Option.some.injEq] at hother
    subst hother
    rw [heq] at hpoint
    rw [hpoint.1] at hcompleted
    cases hcompleted
  all_goals exact id

theorem PoolKept.executed_resume
    (h : PoolKept hashObject jsonImage p) (hexecuted : Executed p)
    (hcall : p.calls[i]? = some call) (reply : IdempotencyReply R) :
    Executed ⟨(resumeIdempotency hashObject jsonImage reply call p.shared).1,
      p.calls.set i (resumeIdempotency hashObject jsonImage reply call p.shared).2⟩ := by
  obtain ⟨j, other, hother, hcompleted⟩ := hexecuted
  by_cases hne : j = i
  · subst hne
    rw [hcall, Option.some.injEq] at hother
    subst hother
    obtain ⟨result, hresult⟩ := Option.isSome_iff_exists.mp hcompleted
    have hkept := h.calls call (List.mem_of_getElem? hcall)
    refine ⟨j, _, List.getElem?_set_self (List.getElem?_eq_some_iff.mp hcall).1, ?_⟩
    rw [completed_resume hkept reply hresult]
    rfl
  · exact ⟨j, other, by rwa [List.getElem?_set_ne (Ne.symm hne)], hcompleted⟩

/-- Once some call has executed, no execution starts. -/
theorem not_started_after {moves moves' : List (Move (IdempotencyParams P) (IdempotencyReply R))}
    (hexecuted : Executed ((idempotency hashObject jsonImage).pool none moves)) :
    Executed ((idempotency hashObject jsonImage).pool none (moves ++ moves'))
      ∧ ∀ (i : Nat) (call : IdempotencyCall P R J),
        ((idempotency hashObject jsonImage).pool none (moves ++ moves')).calls[i]? = some call →
        call.started = true →
        ∃ call', ((idempotency hashObject jsonImage).pool none moves).calls[i]? = some call' ∧ call'.started = true := by
  induction moves' using List.reverseRecOn with
  | nil =>
    rw [List.append_nil]
    exact ⟨hexecuted, fun i call hcall hstarted => ⟨call, hcall, hstarted⟩⟩
  | append_singleton moves' move ih =>
    obtain ⟨hexecuted', hbefore⟩ := ih
    have hkept := pool_kept hashObject jsonImage (moves ++ moves')
    rw [← List.append_assoc, CallSystem.pool_concat]
    generalize (idempotency hashObject jsonImage).pool none (moves ++ moves') = p at hexecuted' hbefore hkept ⊢
    cases move with
    | start params =>
      obtain ⟨j, other, hother, hcompleted⟩ := hexecuted'
      have hbound := (List.getElem?_eq_some_iff.mp hother).1
      refine ⟨⟨j, other, (List.getElem?_append_left hbound).trans hother, hcompleted⟩, ?_⟩
      intro i call hcall hstarted
      have hcall' : (p.calls ++ [beginIdempotency params])[i]? = some call := hcall
      by_cases hi : i < p.calls.length
      · exact hbefore i call ((List.getElem?_append_left hi).symm.trans hcall') hstarted
      · rw [List.getElem?_append_right (Nat.le_of_not_lt hi)] at hcall'
        rw [List.mem_singleton.mp (List.mem_of_getElem? hcall')] at hstarted
        cases hstarted
    | resume i reply =>
      cases hcall : p.calls[i]? with
      | none =>
        rw [CallSystem.step_resume_of_none _ hcall]
        exact ⟨hexecuted', hbefore⟩
      | some call =>
        rw [CallSystem.step_resume_of_some _ hcall]
        refine ⟨hkept.executed_resume hexecuted' hcall reply, fun j call' hcall' hstarted => ?_⟩
        by_cases hne : j = i
        · subst hne
          rw [List.getElem?_set_self (List.getElem?_eq_some_iff.mp hcall).1, Option.some.injEq] at hcall'
          subst hcall'
          exact hbefore j call hcall (hkept.not_started hexecuted' hcall reply hstarted)
        · rw [List.getElem?_set_ne (Ne.symm hne)] at hcall'
          exact hbefore j call' hcall' hstarted

/-- A call that has not claimed the row leaves it. -/
theorem unchanged_of_not_claimed (reply : IdempotencyReply R) (call : IdempotencyCall P R J)
    (row : Option (IdempotencyRow J))
    (h : (resumeIdempotency hashObject jsonImage reply call row).2.claimed = none) :
    (resumeIdempotency hashObject jsonImage reply call row).1 = row := by
  rcases change_of_resume hashObject jsonImage reply call row with hsame | hchange
  · exact hsame
  · generalize resumeIdempotency hashObject jsonImage reply call row = piece at hchange h ⊢
    obtain ⟨row', call'⟩ := piece
    cases hchange with
    | cached r result now heq hid => exact absurd (hid.trans h) (fun h => by cases h)
    | failed r now heq hid => exact absurd (hid.trans h) (fun h => by cases h)
    | _ => cases h

/-- A call that lets go of the row leaves it failed. -/
theorem failed_of_failing
    (h : Kept hashObject jsonImage row call) (heq : call.point = .failing) (found : Bool) (id : String) (now : Int) :
    ∃ r ∈ row, (resumeIdempotency hashObject jsonImage (.completes found id now) call row).1
      = some { r with status := .FAILED, completedAt := some now } := by
  have hpoint := h.point
  unfold AtPoint at hpoint
  rw [heq] at hpoint
  obtain ⟨-, r, hr, -, hclaimed⟩ := hpoint
  refine ⟨r, hr, ?_⟩
  have hupdated : updateRow call.claimed (fun r => { r with status := .FAILED, completedAt := some now }) row
      = some (some { r with status := .FAILED, completedAt := some now }) :=
    updateRow_eq_some.mpr ⟨r, hr, hclaimed.symm, rfl⟩
  unfold resumeIdempotency
  rw [heq]
  dsimp only
  rw [hupdated]

/-- **The idempotency protocol**, in every interleaving of calls with one key. One execution is in progress at most,
and one at most has returned; after it none is started. What a call returns is the result of that execution, or its
JSON. A call that executes is for what the row is for. A call that has not claimed the row leaves it, and one that has,
and throws before it has executed, leaves it failed. A call calls itself once at most. -/
theorem idempotency_protocol (hashObject : P → String) (jsonImage : R → Option J)
    (moves : List (Move (IdempotencyParams P) (IdempotencyReply R))) :
    (∀ (i j : Nat) (call call' : IdempotencyCall P R J),
      ((idempotency hashObject jsonImage).pool none moves).calls[i]? = some call →
      ((idempotency hashObject jsonImage).pool none moves).calls[j]? = some call' →
      call.point = .executing → call'.point = .executing → i = j)
    ∧ (∀ (i j : Nat) (call call' : IdempotencyCall P R J),
      ((idempotency hashObject jsonImage).pool none moves).calls[i]? = some call →
      ((idempotency hashObject jsonImage).pool none moves).calls[j]? = some call' →
      call.completed.isSome = true → call'.completed.isSome = true → i = j)
    ∧ (Executed ((idempotency hashObject jsonImage).pool none moves) → ∀ (moves' : List _) (i : Nat)
      (call : IdempotencyCall P R J),
      ((idempotency hashObject jsonImage).pool none (moves ++ moves')).calls[i]? = some call → call.started = true →
      ∃ call', ((idempotency hashObject jsonImage).pool none moves).calls[i]? = some call' ∧ call'.started = true)
    ∧ (∀ call ∈ ((idempotency hashObject jsonImage).pool none moves).calls, ∀ returned,
      call.point = .returned returned →
      ∃ other ∈ ((idempotency hashObject jsonImage).pool none moves).calls, ∃ result, other.completed = some result
        ∧ (returned = .executed result ∨ returned = .replayed (jsonImage result) ∧ (jsonImage result).isSome = true))
    ∧ (∀ call ∈ ((idempotency hashObject jsonImage).pool none moves).calls, call.started = true →
      ∃ row ∈ ((idempotency hashObject jsonImage).pool none moves).shared, row.Carries hashObject call.params)
    ∧ (∀ e ∈ history (idempotency hashObject jsonImage).step ⟨none, []⟩ moves, ∀ i reply call',
      e.label = .resume i reply → e.after.calls[i]? = some call' → call'.claimed = none →
      e.after.shared = e.before.shared)
    ∧ (∀ e ∈ history (idempotency hashObject jsonImage).step ⟨none, []⟩ moves, ∀ i found id now call,
      e.label = .resume i (.completes found id now) → e.before.calls[i]? = some call → call.point = .failing →
      ∃ row ∈ e.before.shared, e.after.shared = some { row with status := .FAILED, completedAt := some now })
    ∧ ∀ call ∈ ((idempotency hashObject jsonImage).pool none moves).calls, call.level ≤ 1 := by
  have hkept := pool_kept hashObject jsonImage moves
  refine ⟨?_, ?_, ?_, ?_, ?_, ?_, ?_, ?_⟩
  · intro i j call call' hcall hcall' hexecuting hexecuting'
    exact hkept.unique hcall hcall' (weight_of_executing hexecuting) (weight_of_executing hexecuting')
  · intro i j call call' hcall hcall' hcompleted hcompleted'
    exact hkept.unique hcall hcall' (weight_of_completed hcompleted) (weight_of_completed hcompleted')
  · intro hexecuted moves' i call hcall hstarted
    exact (not_started_after hexecuted).2 i call hcall hstarted
  · intro call hcall returned heq
    have hpoint := (hkept.calls call hcall).point
    unfold AtPoint at hpoint
    rw [heq] at hpoint
    cases returned with
    | executed result => exact ⟨call, hcall, result, hpoint, Or.inl rfl⟩
    | replayed response =>
      obtain ⟨r, hr, hsucceeded, hresponse⟩ := hpoint
      obtain ⟨other, hother, result, hcompleted, hcached, himage⟩ := hkept.cached r hr hsucceeded
      refine ⟨other, hother, result, hcompleted, Or.inr ⟨?_, himage⟩⟩
      rw [← hresponse, hcached]
  · intro call hcall hstarted
    have hcall' := hkept.calls call hcall
    obtain ⟨id, hid⟩ := Option.isSome_iff_exists.mp (hcall'.started hstarted)
    obtain ⟨r, hr, -, hcarries⟩ := hcall'.claimed id hid
    exact ⟨r, hr, hcarries⟩
  · intro e he i reply call' hlabel hcall' hclaimed
    obtain ⟨before, move, after, -, rfl⟩ := eq_entryAt_of_mem_history _ he
    cases hlabel
    dsimp only [entryAt] at hcall' ⊢
    generalize run (idempotency hashObject jsonImage).step ⟨none, []⟩ before = p at hcall' ⊢
    cases hcall : p.calls[i]? with
    | none => rw [CallSystem.step_resume_of_none _ hcall]
    | some call =>
      rw [CallSystem.step_resume_of_some _ hcall] at hcall' ⊢
      rw [List.getElem?_set_self (List.getElem?_eq_some_iff.mp hcall).1, Option.some.injEq] at hcall'
      subst hcall'
      exact unchanged_of_not_claimed reply call p.shared hclaimed
  · intro e he i found id now call hlabel hcall heq
    obtain ⟨before, move, after, -, rfl⟩ := eq_entryAt_of_mem_history _ he
    cases hlabel
    have hbefore := pool_kept hashObject jsonImage before
    dsimp only [entryAt] at hcall ⊢
    rw [CallSystem.step_resume_of_some _ hcall]
    exact failed_of_failing (hbefore.calls call (List.mem_of_getElem? hcall)) heq found id now
  · exact fun call hcall => (hkept.calls call hcall).level

end Calls

/-- A call creates the row, and then `beforeExecute` throws: the row, which was not there, is failed. -/
theorem row_created_before_executing :
    ¬ ∀ (moves : List (Move (IdempotencyParams Unit) (IdempotencyReply Unit))) (i : Nat)
      (call : IdempotencyCall Unit Unit Unit) (error : IdempotencyError),
      ((idempotency (fun _ => "") some).pool none moves).calls[i]? = some call → call.point = .thrown error →
      call.started = false →
      ∀ e ∈ history (idempotency (fun _ : Unit => "") (some : Unit → Option Unit)).step ⟨none, []⟩ moves, ∀ reply,
        e.label = .resume i reply → e.after.shared = e.before.shared := by
  intro h
  let completes : Move (IdempotencyParams Unit) (IdempotencyReply Unit) := .resume 0 (.completes true "i" 0)
  have hthrown := h [.start ⟨"a", "o", ()⟩, completes, completes, completes, .resume 0 .throws, completes] 0 _ _
    rfl rfl rfl
  have hsame := hthrown _ (List.mem_cons_of_mem _ (List.mem_cons_of_mem _ (List.mem_cons_of_mem _ List.mem_cons_self)))
    _ rfl
  cases hsame

end VentureOS.Marketplace
