import VentureOS.Marketplace.Idempotency

/-! # Publications

`publishListing` of `publication-runner.ts`, for the calls on one listing version: what they do to the attempts of the
version and to the row of the key `publish:` with the id of the version.

A call publishes inside `withIdempotency`, and then promotes the attempt that it has reserved. A call that is a replay
promotes an attempt that is still reserved, when none is published: any one of the key. That is the attempt of the
call that has published, unless a call before it has failed and left its own attempt reserved. -/

namespace VentureOS.Marketplace

/-! ## Attempts -/

/-- `PublicationAttempt.status`, as far as `publishListing` has it. -/
inductive AttemptStatus where
  | READY_FOR_PUBLISH
  | BLOCKED_DISABLED
  | BLOCKED_RATE_LIMIT
  | BLOCKED_POLICY
  | RESERVED
  | PUBLISHED
  | IDEMPOTENT_REPLAY
  | FAILED
  deriving DecidableEq, Repr

/-- `PublicationAttempt` of the listing version, without its times. Its id is its place. -/
structure PublicationAttempt where
  marketplace : String
  marketplaceAccountId : Option String
  idempotencyKeyId : Option String
  status : AttemptStatus
  blockedReason : Option String
  errorMessage : Option String
  externalListingId : Option String
  externalListingUrl : Option String
  deriving DecidableEq, Repr

/-- What the provider returns. -/
structure PublishedListing where
  externalListingId : String
  externalListingUrl : String
  deriving DecidableEq, Repr

/-- `PublicationRunResult`. -/
structure PublicationRunResult where
  publicationAttemptId : Nat
  status : AttemptStatus
  blockedReason : Option String
  externalListingId : Option String
  externalListingUrl : Option String
  replayed : Bool
  deriving DecidableEq, Repr

/-- What a call returns of an attempt. -/
def PublicationAttempt.result (attempt : PublicationAttempt) (id : Nat) (replayed : Bool) : PublicationRunResult where
  publicationAttemptId := id
  status := attempt.status
  blockedReason := attempt.blockedReason
  externalListingId := attempt.externalListingId
  externalListingUrl := attempt.externalListingUrl
  replayed := replayed

/-- The row of the key, and the attempts of the listing version. -/
structure PublicationState where
  row : Option (IdempotencyRow PublishedListing)
  attempts : List PublicationAttempt

/-! ## Calls -/

/-- The attempt that is ready, and its account, as a call has read them. -/
structure Prepared where
  marketplace : String
  marketplaceAccountId : String
  externalListingId : String
  deriving DecidableEq, Repr

/-- What the checks of a call come to. They write nothing but the attempt of an account that is disabled. -/
inductive PublishStart where
  | refused
  | disabled (prepared : Prepared) (reason : String)
  | admitted (prepared : Prepared)

/-- What `withIdempotency` has thrown. -/
inductive PublishFailure where
  /-- `MarketplaceReservationBlockedError`. -/
  | reservation (result : PublicationRunResult)
  /-- A denial by the policy of capabilities. -/
  | policy
  | other
  deriving DecidableEq, Repr

/-- Where a call is: what it waits for, or its end. -/
inductive PublishPoint where
  /-- `withIdempotency`. -/
  | inside
  /-- `findFirst` of a published attempt, on a replay. -/
  | findingPublished (response : Option PublishedListing) (keyId : Option String)
  /-- `findFirst` of a reserved attempt. -/
  | findingReserved (response : Option PublishedListing) (keyId : Option String)
  /-- The update of that attempt to `PUBLISHED`. -/
  | promoting (attempt : Nat) (response : Option PublishedListing) (keyId : Option String)
  /-- `create` of the attempt that records a replay. -/
  | recording (original : PublicationRunResult) (keyId : Option String)
  /-- The update of the own attempt to `PUBLISHED`. -/
  | publishing (attempt : Nat) (listing : PublishedListing) (keyId : Option String)
  /-- The update of the own attempt to `BLOCKED_POLICY`. -/
  | blocking (attempt : Nat)
  /-- The update of the own attempt to `FAILED`. -/
  | failing (attempt : Nat)
  /-- The updates of the approval request and the health record after a failure. -/
  | reporting (result : PublicationRunResult)
  | returned (result : PublicationRunResult)
  | thrown
  deriving DecidableEq, Repr

/-- A call of `publishListing`. -/
structure PublishCall where
  marketplace : String
  marketplaceAccountId : String
  idempotency : IdempotencyCall String PublishedListing PublishedListing
  /-- `executionState.reservedAttempt`. -/
  reserved : Option Nat
  failure : PublishFailure
  point : PublishPoint

/-- What comes of what a call waits for. -/
inductive PublishReply where
  | throws
  /-- It throws a denial by the policy. -/
  | denied
  /-- It completes; with what an account was found, the id of a row that is created, the time, and the attempt that is
  found where several match. -/
  | completes (found : Bool) (id : String) (now : Int) (pick : Nat)
  /-- An attempt is reserved, or it is blocked: the account is disabled or not, for this reason. -/
  | reserves (blocked : Option (Bool × String))
  /-- The provider publishes the listing. -/
  | executes (listing : PublishedListing)

/-- `idempotencyKeyId` of what a call of `withIdempotency` returns when it goes on from here. -/
def IdempotencyCall.keyId {P R J : Type} (call : IdempotencyCall P R J) : Option String :=
  match call.point with
  | .replaying existing => some existing.id
  | _ => call.claimed

/-- What a call does when `withIdempotency` has come to this. -/
def afterIdempotency (keyId : Option String) (failure : PublishFailure) (reserved : Option Nat)
    (idempotency : IdempotencyCall String PublishedListing PublishedListing) : PublishPoint :=
  match idempotency.point with
  | .returned (.executed listing) =>
    match reserved with
    | some attempt => .publishing attempt listing keyId
    | none => .thrown
  | .returned (.replayed response) => .findingPublished response keyId
  | .thrown _ =>
    -- `onExecutionSuccess` has set `providerSucceeded`.
    if idempotency.completed.isSome then .thrown
    else match failure, reserved with
      | .reservation result, _ => .returned result
      | .policy, some attempt => .blocking attempt
      | .other, some attempt => .failing attempt
      | _, none => .thrown
  | _ => .inside

variable {p p' : Pool PublicationState PublishCall} {listing : PublishedListing}

variable {s : PublicationState} {reply : PublishReply} {id : Nat}

section Calls

variable (hashObject : String → String)

/-- A call goes on inside `withIdempotency`. -/
def goInside (reply : IdempotencyReply PublishedListing) (failure : PublishFailure) (call : PublishCall)
    (s : PublicationState) : PublicationState × PublishCall :=
  let (row, idempotency) := resumeIdempotency hashObject some reply call.idempotency s.row
  ({ s with row }, { call with
    idempotency
    failure
    point := afterIdempotency call.idempotency.keyId failure call.reserved idempotency })

/-- An attempt of this call, with this status. -/
def PublishCall.attempt (call : PublishCall) (keyId : Option String) (status : AttemptStatus)
    (blockedReason : Option String) : PublicationAttempt where
  marketplace := call.marketplace
  marketplaceAccountId := some call.marketplaceAccountId
  idempotencyKeyId := keyId
  status := status
  blockedReason := blockedReason
  errorMessage := none
  externalListingId := none
  externalListingUrl := none

/-- The attempt that records a replay. -/
def PublishCall.replayAttempt (call : PublishCall) (keyId : Option String) (original : PublicationRunResult) :
    PublicationAttempt :=
  { call.attempt keyId .IDEMPOTENT_REPLAY none with
    externalListingId := original.externalListingId
    externalListingUrl := original.externalListingUrl }

/-- A call inside `withIdempotency` goes on. `beforeExecute` is `reservePublicationAttempt`. -/
def resumeInside (reply : PublishReply) (call : PublishCall) (s : PublicationState) : PublicationState × PublishCall :=
  match call.idempotency.point, reply with
  | .preparing, .reserves none =>
    let attempt := call.attempt call.idempotency.claimed .RESERVED none
    goInside hashObject (.completes true "" 0) call.failure { call with reserved := some s.attempts.length }
      { s with attempts := s.attempts ++ [attempt] }
  | .preparing, .reserves (some (disabled, reason)) =>
    let attempt := call.attempt call.idempotency.claimed (if disabled then .BLOCKED_DISABLED else .BLOCKED_RATE_LIMIT)
      (some reason)
    goInside hashObject .throws (.reservation (attempt.result s.attempts.length false)) call
      { s with attempts := s.attempts ++ [attempt] }
  | .preparing, .completes _ _ _ _ => (s, call)
  | .executing, .executes listing => goInside hashObject (.executes listing true) call.failure call s
  | .executing, .denied => goInside hashObject .throws .policy call s
  | .replaying _, .denied => goInside hashObject .throws .policy call s
  | _, .completes found id now _ => goInside hashObject (.completes found id now) call.failure call s
  | _, .throws => goInside hashObject .throws .other call s
  | _, _ => (s, call)

/-- An attempt that a replay looks for. -/
def PublicationAttempt.replays (attempt : PublicationAttempt) (call : PublishCall) (keyId : Option String)
    (status : AttemptStatus) : Bool :=
  decide (attempt.idempotencyKeyId = keyId ∧ attempt.status = status
    ∧ attempt.marketplaceAccountId = some call.marketplaceAccountId ∧ attempt.marketplace = call.marketplace)

/-- `findFirst`: the attempt that is picked, when it matches, or else the first one that does. -/
def findAttempt (attempts : List PublicationAttempt) (wanted : PublicationAttempt → Bool) (pick : Nat) :
    Option Nat :=
  if (attempts[pick]?).any wanted then some pick else attempts.findIdx? wanted

/-- The update of a reserved attempt to `PUBLISHED`, which throws when the attempt is not reserved under the key. -/
def publishAttempt (id : Nat) (keyId : Option String) (listing : PublishedListing)
    (attempts : List PublicationAttempt) : Option PublicationAttempt :=
  match attempts[id]? with
  | some attempt =>
    if attempt.status = .RESERVED ∧ attempt.idempotencyKeyId = keyId then
      some { attempt with
        status := .PUBLISHED
        blockedReason := none
        externalListingId := some listing.externalListingId
        externalListingUrl := some listing.externalListingUrl }
    else none
  | none => none

/-- The text of a failure. -/
def publicationFailed : String := "Marketplace publication operation failed"

/-- What a call returns after a failure. -/
def failedResult (id : Nat) : PublicationRunResult where
  publicationAttemptId := id
  status := .FAILED
  blockedReason := none
  externalListingId := none
  externalListingUrl := none
  replayed := false

/-- A call is at this point. -/
def PublishCall.goTo (call : PublishCall) (point : PublishPoint) : PublishCall := { call with point }

/-- What a call does next, when what it waits for has come about. The updates of the approval request and of the health
record after a publication are left out: what they throw is caught. -/
def resumePublish (reply : PublishReply) (call : PublishCall) (s : PublicationState) : PublicationState × PublishCall :=
  match call.point, reply with
  | .inside, reply => resumeInside hashObject reply call s
  | .findingPublished response keyId, .completes _ _ _ pick =>
    match findAttempt s.attempts (fun attempt => attempt.replays call keyId .PUBLISHED) pick with
    | some id =>
      match s.attempts[id]? with
      | some attempt => (s, call.goTo (.recording (attempt.result id true) keyId))
      | none => (s, call.goTo .thrown)
    | none => (s, call.goTo (.findingReserved response keyId))
  | .findingReserved response keyId, .completes _ _ _ pick =>
    match findAttempt s.attempts (fun attempt => attempt.replays call keyId .RESERVED) pick with
    | some id => (s, call.goTo (.promoting id response keyId))
    -- `MarketplaceReplayUnavailableError`.
    | none => (s, call.goTo .thrown)
  | .promoting id response keyId, .completes _ _ _ _ =>
    match response.bind fun listing => publishAttempt id keyId listing s.attempts with
    | some attempt =>
      ({ s with attempts := s.attempts.set id attempt }, call.goTo (.recording (attempt.result id true) keyId))
    | none => (s, call.goTo .thrown)
  | .recording original keyId, .completes _ _ _ _ =>
    ({ s with attempts := s.attempts ++ [call.replayAttempt keyId original] }, call.goTo (.returned original))
  | .publishing id listing keyId, .completes _ _ _ _ =>
    match publishAttempt id keyId listing s.attempts with
    | some attempt =>
      ({ s with attempts := s.attempts.set id attempt }, call.goTo (.returned (attempt.result id false)))
    | none => (s, call.goTo .thrown)
  | .blocking id, .completes _ _ _ _ =>
    match s.attempts[id]? with
    | some attempt =>
      let blocked : PublicationAttempt :=
        { attempt with status := .BLOCKED_POLICY, blockedReason := some "Operation is not available" }
      ({ s with attempts := s.attempts.set id blocked }, call.goTo .thrown)
    | none => (s, call.goTo .thrown)
  | .failing id, .completes _ _ _ _ =>
    match s.attempts[id]? with
    | some attempt =>
      let failed : PublicationAttempt := { attempt with status := .FAILED, errorMessage := some publicationFailed }
      ({ s with attempts := s.attempts.set id failed }, call.goTo (.reporting (failedResult id)))
    | none => (s, call.goTo .thrown)
  | .reporting result, .completes _ _ _ _ => (s, call.goTo (.returned result))
  | .returned _, _ => (s, call)
  | .thrown, _ => (s, call)
  | _, .throws => (s, call.goTo .thrown)
  | _, _ => (s, call)

/-- A call of an account and a listing. -/
def PublishCall.begin (prepared : Prepared) (point : PublishPoint) : PublishCall where
  marketplace := prepared.marketplace
  marketplaceAccountId := prepared.marketplaceAccountId
  idempotency := beginIdempotency ⟨prepared.marketplaceAccountId, "PUBLISH_LISTING", prepared.externalListingId⟩
  reserved := none
  failure := .other
  point := point

/-- `publishListing`, up to `withIdempotency`. -/
def startPublish (start : PublishStart) (s : PublicationState) : PublicationState × PublishCall :=
  match start with
  | .refused => (s, .begin ⟨"", "", ""⟩ .thrown)
  | .disabled prepared reason =>
    let attempt := (PublishCall.begin prepared .thrown).attempt none .BLOCKED_DISABLED (some reason)
    ({ s with attempts := s.attempts ++ [attempt] },
      .begin prepared (.returned (attempt.result s.attempts.length false)))
  | .admitted prepared => (s, .begin prepared .inside)

/-- The calls of `publishListing` on one listing version, in any interleaving. -/
def publications : CallSystem PublicationState PublishCall PublishStart PublishReply Unit where
  start a s := ((), startPublish a s)
  resume reply call s := ((), resumePublish hashObject reply call s)

/-! ## The calls of `withIdempotency` -/

/-- The row, with the calls of `withIdempotency`. -/
def idempotencyPool (p : Pool PublicationState PublishCall) :
    Pool (Option (IdempotencyRow PublishedListing)) (IdempotencyCall String PublishedListing PublishedListing) :=
  ⟨p.shared.row, p.calls.map PublishCall.idempotency⟩

/-- A resumption of a call leaves its call of `withIdempotency`, or resumes it. -/
theorem idempotency_resume (reply : PublishReply) (call : PublishCall) (s : PublicationState) :
    ((resumePublish hashObject reply call s).1.row = s.row
        ∧ (resumePublish hashObject reply call s).2.idempotency = call.idempotency)
      ∨ ∃ reply', (resumePublish hashObject reply call s).1.row
          = (resumeIdempotency hashObject some reply' call.idempotency s.row).1
        ∧ (resumePublish hashObject reply call s).2.idempotency
          = (resumeIdempotency hashObject some reply' call.idempotency s.row).2 := by
  fun_cases resumePublish hashObject reply call s
  case case1 =>
    fun_cases resumeInside hashObject reply call s
    all_goals first
      | exact Or.inl ⟨rfl, rfl⟩
      | exact Or.inr ⟨_, rfl, rfl⟩
  all_goals exact Or.inl ⟨rfl, rfl⟩

/-! ## What the provider has returned -/

variable {hashObject}

/-- The provider has returned this listing to a call. -/
def Provided (p : Pool PublicationState PublishCall) (listing : PublishedListing) : Prop :=
  ∃ call ∈ p.calls, call.idempotency.completed = some listing

/-- The provider has returned this listing to the call that has reserved this attempt. -/
def ProvidedFor (p : Pool PublicationState PublishCall) (id : Nat) (listing : PublishedListing) : Prop :=
  ∃ call ∈ p.calls, call.idempotency.completed = some listing ∧ call.reserved = some id

theorem ProvidedFor.provided (h : ProvidedFor p id listing) : Provided p listing := by
  obtain ⟨call, hcall, hcompleted, -⟩ := h
  exact ⟨call, hcall, hcompleted⟩

theorem idempotencyPool_call {i : Nat} {call : PublishCall}
    (h : p.calls[i]? = some call) : (idempotencyPool p).calls[i]? = some call.idempotency := by
  rw [idempotencyPool, List.getElem?_map, h]
  rfl

/-- The provider has returned to one call at most. -/
theorem same_provided (h : PoolKept hashObject some (idempotencyPool p))
    {call call' : PublishCall} (hcall : call ∈ p.calls) (hcall' : call' ∈ p.calls)
    (hcompleted : call.idempotency.completed.isSome = true)
    (hcompleted' : call'.idempotency.completed.isSome = true) : call = call' := by
  obtain ⟨i, hi⟩ := List.mem_iff_getElem?.mp hcall
  obtain ⟨j, hj⟩ := List.mem_iff_getElem?.mp hcall'
  have hsame := h.unique (idempotencyPool_call hi) (idempotencyPool_call hj) (weight_of_completed hcompleted)
    (weight_of_completed hcompleted')
  rw [hsame, hj, Option.some.injEq] at hi
  exact hi.symm

theorem Provided.unique (h : PoolKept hashObject some (idempotencyPool p))
    {listing' : PublishedListing} (hlisting : Provided p listing) (hlisting' : Provided p listing') :
    listing = listing' := by
  obtain ⟨call, hcall, hcompleted⟩ := hlisting
  obtain ⟨call', hcall', hcompleted'⟩ := hlisting'
  have hsame := same_provided h hcall hcall' (by rw [hcompleted]; rfl) (by rw [hcompleted']; rfl)
  rw [hsame, hcompleted', Option.some.injEq] at hcompleted
  exact hcompleted.symm

theorem ProvidedFor.unique (h : PoolKept hashObject some (idempotencyPool p))
    {id' : Nat} {listing' : PublishedListing} (hlisting : ProvidedFor p id listing)
    (hlisting' : ProvidedFor p id' listing') : id = id' := by
  obtain ⟨call, hcall, hcompleted, hreserved⟩ := hlisting
  obtain ⟨call', hcall', hcompleted', hreserved'⟩ := hlisting'
  have hsame := same_provided h hcall hcall' (by rw [hcompleted]; rfl) (by rw [hcompleted']; rfl)
  rw [hsame, hreserved', Option.some.injEq] at hreserved
  exact hreserved.symm

/-- What the provider has returned by one time it has returned at another. -/
def Later (p p' : Pool PublicationState PublishCall) : Prop :=
  ∀ call ∈ p.calls, call.idempotency.completed.isSome = true →
    ∃ call' ∈ p'.calls, call'.idempotency.completed = call.idempotency.completed ∧ call'.reserved = call.reserved

theorem Later.provided (h : Later p p')
    (hlisting : Provided p listing) : Provided p' listing := by
  obtain ⟨call, hcall, hcompleted⟩ := hlisting
  obtain ⟨call', hcall', hsame, -⟩ := h call hcall (by rw [hcompleted]; rfl)
  exact ⟨call', hcall', hsame.trans hcompleted⟩

theorem Later.providedFor (h : Later p p')
    (hlisting : ProvidedFor p id listing) : ProvidedFor p' id listing := by
  obtain ⟨call, hcall, hcompleted, hreserved⟩ := hlisting
  obtain ⟨call', hcall', hsame, hsame'⟩ := h call hcall (by rw [hcompleted]; rfl)
  exact ⟨call', hcall', hsame.trans hcompleted, hsame'.trans hreserved⟩

/-- A call to which the provider has returned keeps what it was returned, and its attempt. -/
theorem provided_resume {call : PublishCall}
    (h : Kept hashObject some s.row call.idempotency) (reply : PublishReply)
    (hcompleted : call.idempotency.completed.isSome = true) :
    (resumePublish hashObject reply call s).2.idempotency.completed = call.idempotency.completed
      ∧ (resumePublish hashObject reply call s).2.reserved = call.reserved := by
  constructor
  · obtain ⟨listing, hlisting⟩ := Option.isSome_iff_exists.mp hcompleted
    rcases idempotency_resume hashObject reply call s with hsame | ⟨reply', -, hresumed⟩
    · rw [hsame.2]
    · rw [hresumed, hlisting]
      exact completed_resume h reply' hlisting
  · fun_cases resumePublish hashObject reply call s
    case case1 =>
      fun_cases resumeInside hashObject reply call s
      case case1 heq _ =>
        have hpoint := h.point
        unfold AtPoint at hpoint
        rw [heq] at hpoint
        rw [hpoint.1] at hcompleted
        cases hcompleted
      all_goals rfl
    all_goals rfl

/-! ## What is kept -/

/-- When it says that the listing is published, a result has the values that the provider has returned. -/
def Honest (p : Pool PublicationState PublishCall) (result : PublicationRunResult) : Prop :=
  result.status = .PUBLISHED → ∃ listing, Provided p listing
    ∧ result.externalListingId = some listing.externalListingId
    ∧ result.externalListingUrl = some listing.externalListingUrl

/-- A published attempt is that of the call to which the provider has returned, and has the values. -/
def AttemptsKept (p : Pool PublicationState PublishCall) (attempts : List PublicationAttempt) : Prop :=
  ∀ id attempt, attempts[id]? = some attempt → attempt.status = .PUBLISHED → ∃ listing, ProvidedFor p id listing
    ∧ attempt.externalListingId = some listing.externalListingId
    ∧ attempt.externalListingUrl = some listing.externalListingUrl

/-- What is known where a call waits. -/
def AtPublishPoint (p : Pool PublicationState PublishCall) (call : PublishCall) : Prop :=
  match call.point with
  | .findingPublished response _ => ∃ listing, response = some listing ∧ Provided p listing
  | .findingReserved response _ => ∃ listing, response = some listing ∧ Provided p listing
  | .promoting id response _ => ∃ listing, response = some listing ∧ ProvidedFor p id listing
  | .publishing id listing _ => ProvidedFor p id listing
  | .recording original _ => Honest p original
  | .reporting result => Honest p result
  | .returned result => Honest p result
  | _ => True

/-- What is known of a call. -/
structure CallKept (p : Pool PublicationState PublishCall) (call : PublishCall) : Prop where
  failure : ∀ result, call.failure = .reservation result → result.status ≠ .PUBLISHED
  point : AtPublishPoint p call

theorem Honest.of_ne (p : Pool PublicationState PublishCall) {result : PublicationRunResult}
    (h : result.status ≠ .PUBLISHED) : Honest p result :=
  fun hpublished => absurd hpublished h

theorem Later.honest (h : Later p p') {result : PublicationRunResult}
    (hresult : Honest p result) : Honest p' result := by
  intro hpublished
  obtain ⟨listing, hlisting, hvalues⟩ := hresult hpublished
  exact ⟨listing, h.provided hlisting, hvalues⟩

theorem Later.attempts {p p' : Pool PublicationState PublishCall} (h : Later p p')
    {attempts : List PublicationAttempt} (hattempts : AttemptsKept p attempts) : AttemptsKept p' attempts := by
  intro id attempt hattempt hpublished
  obtain ⟨listing, hlisting, hvalues⟩ := hattempts id attempt hattempt hpublished
  exact ⟨listing, h.providedFor hlisting, hvalues⟩

theorem Later.call {p p' : Pool PublicationState PublishCall} (h : Later p p') {call : PublishCall}
    (hcall : CallKept p call) : CallKept p' call := by
  refine ⟨hcall.failure, ?_⟩
  have hpoint := hcall.point
  unfold AtPublishPoint at hpoint ⊢
  split at hpoint
  · obtain ⟨listing, hresponse, hlisting⟩ := hpoint
    exact ⟨listing, hresponse, h.provided hlisting⟩
  · obtain ⟨listing, hresponse, hlisting⟩ := hpoint
    exact ⟨listing, hresponse, h.provided hlisting⟩
  · obtain ⟨listing, hresponse, hlisting⟩ := hpoint
    exact ⟨listing, hresponse, h.providedFor hlisting⟩
  · exact h.providedFor hpoint
  · exact h.honest hpoint
  · exact h.honest hpoint
  · exact h.honest hpoint
  · trivial

/-- An attempt that is not published may be added. -/
theorem AttemptsKept.append {attempts : List PublicationAttempt}
    (h : AttemptsKept p attempts) {new : PublicationAttempt} (hnew : new.status ≠ .PUBLISHED) :
    AttemptsKept p (attempts ++ [new]) := by
  intro id attempt hattempt hpublished
  by_cases hid : id < attempts.length
  · rw [List.getElem?_append_left hid] at hattempt
    exact h id attempt hattempt hpublished
  · rw [List.getElem?_append_right (Nat.le_of_not_lt hid)] at hattempt
    rw [List.mem_singleton.mp (List.mem_of_getElem? hattempt)] at hpublished
    exact absurd hpublished hnew

/-- An attempt may be changed, to one that is kept. -/
theorem AttemptsKept.set {attempts : List PublicationAttempt}
    (h : AttemptsKept p attempts) {new : PublicationAttempt}
    (hnew : new.status = .PUBLISHED → ∃ listing, ProvidedFor p id listing
      ∧ new.externalListingId = some listing.externalListingId
      ∧ new.externalListingUrl = some listing.externalListingUrl) :
    AttemptsKept p (attempts.set id new) := by
  intro id' attempt hattempt hpublished
  by_cases hid : id' = id
  · subst hid
    have hbound : id' < attempts.length := by
      have hlength := (List.getElem?_eq_some_iff.mp hattempt).1
      rwa [List.length_set] at hlength
    rw [List.getElem?_set_self hbound, Option.some.injEq] at hattempt
    subst hattempt
    exact hnew hpublished
  · rw [List.getElem?_set_ne (Ne.symm hid)] at hattempt
    exact h id' attempt hattempt hpublished

/-- An attempt that is promoted has the values of the listing. -/
theorem publishAttempt_eq_some {keyId : Option String}
    {attempts : List PublicationAttempt} {attempt : PublicationAttempt}
    (h : publishAttempt id keyId listing attempts = some attempt) :
    attempt.externalListingId = some listing.externalListingId
      ∧ attempt.externalListingUrl = some listing.externalListingUrl := by
  unfold publishAttempt at h
  split at h
  · split at h
    · cases h
      exact ⟨rfl, rfl⟩
    · cases h
  · cases h

/-- **What a call is after its call of `withIdempotency`.** -/
theorem callKept_inside
    (hidempotency : PoolKept hashObject some (idempotencyPool p)) {call : PublishCall} (hcall : call ∈ p.calls)
    (keyId : Option String)
    (hpoint : call.point = afterIdempotency keyId call.failure call.reserved call.idempotency)
    (hfailure : ∀ result, call.failure = .reservation result → result.status ≠ .PUBLISHED) : CallKept p call := by
  refine ⟨hfailure, ?_⟩
  have hkept := (hidempotency.calls call.idempotency (List.mem_map_of_mem hcall)).point
  unfold AtPoint at hkept
  unfold AtPublishPoint
  rw [hpoint]
  unfold afterIdempotency
  cases heq : call.idempotency.point with
  | returned result =>
    rw [heq] at hkept
    cases result with
    | executed listing =>
      cases hreserved : call.reserved with
      | none => trivial
      | some id => exact ⟨call, hcall, hkept, hreserved⟩
    | replayed response =>
      obtain ⟨r, hr, hsucceeded, hresponse⟩ := hkept
      obtain ⟨other, hother, listing, hcompleted, hcached, -⟩ := hidempotency.cached r hr hsucceeded
      obtain ⟨call', hcall', rfl⟩ := List.mem_map.mp hother
      exact ⟨listing, hresponse.symm.trans hcached, call', hcall', hcompleted⟩
  | thrown error =>
    dsimp only
    by_cases hcompleted : call.idempotency.completed.isSome = true
    · rw [if_pos hcompleted]
      trivial
    · rw [if_neg hcompleted]
      cases hcause : call.failure with
      | reservation result => exact Honest.of_ne p (hfailure result hcause)
      | _ => cases call.reserved <;> trivial
  | _ => trivial

/-- The reserved attempt that a replay finds is that of the call to which the provider has returned. -/
def FindsProvided (reply : PublishReply) (call : PublishCall) (p : Pool PublicationState PublishCall) : Prop :=
  match call.point, reply with
  | .findingReserved _ keyId, .completes _ _ _ pick =>
    ∀ id ∈ findAttempt p.shared.attempts (fun attempt => attempt.replays call keyId .RESERVED) pick,
      ∃ other ∈ p.calls, other.idempotency.completed.isSome = true ∧ other.reserved = some id
  | _, _ => True

instance (reply : PublishReply) (call : PublishCall) (p : Pool PublicationState PublishCall) :
    Decidable (FindsProvided reply call p) := by
  unfold FindsProvided
  split <;> infer_instance

/-- What a call inside `withIdempotency` makes of the attempts and of itself. -/
theorem kept_inside
    (hidempotency : PoolKept hashObject some (idempotencyPool p)) {call : PublishCall}
    (hattempts : AttemptsKept p s.attempts) (hkept : CallKept p call)
    (hself : (resumeInside hashObject reply call s).2 ∈ p.calls) :
    AttemptsKept p (resumeInside hashObject reply call s).1.attempts
      ∧ CallKept p (resumeInside hashObject reply call s).2 := by
  have inside : ∀ (reply : IdempotencyReply PublishedListing) (failure : PublishFailure) (call : PublishCall)
      (s : PublicationState), AttemptsKept p s.attempts →
      (∀ result, failure = .reservation result → result.status ≠ .PUBLISHED) →
      (goInside hashObject reply failure call s).2 ∈ p.calls →
      AttemptsKept p (goInside hashObject reply failure call s).1.attempts
        ∧ CallKept p (goInside hashObject reply failure call s).2 :=
    fun reply failure call s hattempts hfailure hself =>
      ⟨hattempts, callKept_inside hidempotency hself call.idempotency.keyId rfl hfailure⟩
  have hreserved : ∀ keyId, (call.attempt keyId .RESERVED none).status ≠ .PUBLISHED := by
    intro keyId hstatus
    cases hstatus
  revert hself
  fun_cases resumeInside hashObject reply call s
  case case1 => exact inside _ _ _ _ (hattempts.append (hreserved _)) hkept.failure
  case case2 disabled reason _ attempt =>
    have hstatus : attempt.status ≠ .PUBLISHED := by
      cases disabled <;> intro hstatus <;> cases hstatus
    refine inside _ _ _ _ (hattempts.append hstatus) fun result hresult => ?_
    cases hresult
    exact hstatus
  case case3 => exact fun _ => ⟨hattempts, hkept⟩
  case case4 => exact inside _ _ _ _ hattempts hkept.failure
  case case5 => exact inside _ _ _ _ hattempts fun _ hcause => by cases hcause
  case case6 => exact inside _ _ _ _ hattempts fun _ hcause => by cases hcause
  case case7 => exact inside _ _ _ _ hattempts hkept.failure
  case case8 => exact inside _ _ _ _ hattempts fun _ hcause => by cases hcause
  case case9 => exact fun _ => ⟨hattempts, hkept⟩

/-- **What a resumption makes of the attempts and of its own call.** -/
theorem kept_resume (hidempotency : PoolKept hashObject some (idempotencyPool p))
    {call : PublishCall}
    (hself : (resumePublish hashObject reply call s).2 ∈ p.calls) (hattempts : AttemptsKept p s.attempts)
    (hkept : CallKept p call)
    (hfinds : ∀ response keyId found id now pick, call.point = .findingReserved response keyId →
      reply = .completes found id now pick →
      ∀ k ∈ findAttempt s.attempts (fun attempt => attempt.replays call keyId .RESERVED) pick,
        ∃ listing, ProvidedFor p k listing) :
    AttemptsKept p (resumePublish hashObject reply call s).1.attempts
      ∧ CallKept p (resumePublish hashObject reply call s).2 := by
  have hpoint := hkept.point
  unfold AtPublishPoint at hpoint
  have goes : ∀ point, AtPublishPoint p (call.goTo point) → CallKept p (call.goTo point) :=
    fun point hpoint => ⟨hkept.failure, hpoint⟩
  have throws : CallKept p (call.goTo .thrown) := goes _ trivial
  revert hself
  fun_cases resumePublish hashObject reply call s
  case case1 =>
    exact kept_inside hidempotency hattempts hkept
  case case2 response keyId _ _ _ pick heq id hfound attempt hat =>
    refine fun _ => ⟨hattempts, goes _ fun hpublished => ?_⟩
    obtain ⟨listing, hlisting, hvalues⟩ := hattempts id attempt hat hpublished
    exact ⟨listing, hlisting.provided, hvalues⟩
  case case4 heq _ =>
    rw [heq] at hpoint
    exact fun _ => ⟨hattempts, goes _ hpoint⟩
  case case5 found id now pick heq k hfound =>
    rw [heq] at hpoint
    obtain ⟨listing, hresponse, hlisting⟩ := hpoint
    obtain ⟨listing', hlisting'⟩ := hfinds _ _ found id now pick heq rfl k hfound
    have hsame := hlisting.unique hidempotency hlisting'.provided
    subst hsame
    exact fun _ => ⟨hattempts, goes _ ⟨listing, hresponse, hlisting'⟩⟩
  case case7 heq attempt hpublished =>
    rw [heq] at hpoint
    obtain ⟨listing, rfl, hlisting⟩ := hpoint
    have hvalues := publishAttempt_eq_some hpublished
    exact fun _ => ⟨hattempts.set fun _ => ⟨listing, hlisting, hvalues⟩,
      goes _ fun _ => ⟨listing, hlisting.provided, hvalues⟩⟩
  case case9 heq =>
    rw [heq] at hpoint
    exact fun _ => ⟨hattempts.append (fun hstatus => by cases hstatus), goes _ hpoint⟩
  case case10 heq attempt hpublished =>
    rw [heq] at hpoint
    have hvalues := publishAttempt_eq_some hpublished
    exact fun _ => ⟨hattempts.set fun _ => ⟨_, hpoint, hvalues⟩, goes _ fun _ => ⟨_, hpoint.provided, hvalues⟩⟩
  case case12 => exact fun _ => ⟨hattempts.set (fun hstatus => by cases hstatus), throws⟩
  case case14 =>
    refine fun _ => ⟨hattempts.set (fun hstatus => by cases hstatus), goes _ ?_⟩
    exact Honest.of_ne p (fun hstatus => by cases hstatus)
  case case16 heq =>
    rw [heq] at hpoint
    exact fun _ => ⟨hattempts, goes _ hpoint⟩
  case case17 => exact fun _ => ⟨hattempts, hkept⟩
  case case18 => exact fun _ => ⟨hattempts, hkept⟩
  case case20 => exact fun _ => ⟨hattempts, hkept⟩
  all_goals exact fun _ => ⟨hattempts, throws⟩

/-! ## Runs -/

/-- What is kept in every interleaving in which a replay finds no attempt but that of the call to which the provider has
returned. -/
structure PublicationKept (hashObject : String → String) (p : Pool PublicationState PublishCall) : Prop where
  idempotency : PoolKept hashObject some (idempotencyPool p)
  attempts : AttemptsKept p p.shared.attempts
  calls : ∀ call ∈ p.calls, CallKept p call

theorem later_append (p : Pool PublicationState PublishCall) (s : PublicationState) (call : PublishCall) :
    Later p ⟨s, p.calls ++ [call]⟩ :=
  fun call hcall _ => ⟨call, List.mem_append_left _ hcall, rfl, rfl⟩

/-- A call may be started. -/
theorem PublicationKept.start {p : Pool PublicationState PublishCall} (h : PublicationKept hashObject p)
    (start : PublishStart) :
    PublicationKept hashObject ⟨(startPublish start p.shared).1, p.calls ++ [(startPublish start p.shared).2]⟩ := by
  have later := fun s call => later_append p s call
  refine ⟨?_, ?_, ?_⟩
  · have hrow : (startPublish start p.shared).1.row = p.shared.row := by cases start <;> rfl
    have hbegins : ∃ params, (startPublish start p.shared).2.idempotency = beginIdempotency params := by
      cases start <;> exact ⟨_, rfl⟩
    obtain ⟨params, hparams⟩ := hbegins
    unfold idempotencyPool
    rw [List.map_append, List.map_singleton, hrow, hparams]
    exact h.idempotency.start params
  · cases start with
    | disabled prepared reason =>
      refine (later _ _).attempts (h.attempts.append fun hstatus => ?_)
      cases hstatus
    | _ => exact (later _ _).attempts h.attempts
  · intro call hcall
    rcases List.mem_append.mp hcall with hold | hnew
    · exact (later _ _).call (h.calls call hold)
    · rw [List.mem_singleton.mp hnew]
      refine ⟨?_, ?_⟩
      · cases start <;> exact fun _ hcause => by cases hcause
      · cases start with
        | refused => trivial
        | disabled prepared reason => exact Honest.of_ne _ (fun hstatus => by cases hstatus)
        | admitted prepared => trivial

/-- A call may be resumed. -/
theorem PublicationKept.resume {p : Pool PublicationState PublishCall} (h : PublicationKept hashObject p) {i : Nat}
    {call : PublishCall} (hcall : p.calls[i]? = some call) (hfinds : FindsProvided reply call p) :
    PublicationKept hashObject ⟨(resumePublish hashObject reply call p.shared).1,
      p.calls.set i (resumePublish hashObject reply call p.shared).2⟩ := by
  have hidempotency : PoolKept hashObject some (idempotencyPool ⟨(resumePublish hashObject reply call p.shared).1,
      p.calls.set i (resumePublish hashObject reply call p.shared).2⟩) := by
    unfold idempotencyPool
    rw [List.map_set]
    rcases idempotency_resume hashObject reply call p.shared with ⟨hrow, hsame⟩ | ⟨reply', hrow, hresumed⟩
    · obtain ⟨hbound, hat⟩ := List.getElem?_eq_some_iff.mp (idempotencyPool_call hcall)
      have hset : (p.calls.map PublishCall.idempotency).set i call.idempotency
          = p.calls.map PublishCall.idempotency := by
        rw [← hat]
        exact List.set_getElem_self hbound
      rw [hrow, hsame, hset]
      exact h.idempotency
    · rw [hrow, hresumed]
      exact h.idempotency.resume (idempotencyPool_call hcall) reply'
  have hmem := List.mem_of_getElem? hcall
  have hbound := (List.getElem?_eq_some_iff.mp hcall).1
  have hself : (p.calls.set i (resumePublish hashObject reply call p.shared).2)[i]?
      = some (resumePublish hashObject reply call p.shared).2 := List.getElem?_set_self hbound
  have hlater : Later p ⟨(resumePublish hashObject reply call p.shared).1,
      p.calls.set i (resumePublish hashObject reply call p.shared).2⟩ := by
    intro other hother hcompleted
    obtain ⟨j, hj⟩ := List.mem_iff_getElem?.mp hother
    by_cases hne : j = i
    · subst hne
      rw [hcall, Option.some.injEq] at hj
      subst hj
      have hkept := h.idempotency.calls call.idempotency (List.mem_map_of_mem hmem)
      exact ⟨_, List.mem_of_getElem? hself, provided_resume hkept reply hcompleted⟩
    · rw [← List.getElem?_set_ne (Ne.symm hne)] at hj
      exact ⟨other, List.mem_of_getElem? hj, rfl, rfl⟩
  have hresumed := kept_resume hidempotency (List.mem_of_getElem? hself) (hlater.attempts h.attempts)
    (hlater.call (h.calls call hmem)) (by
      intro response keyId found id now pick hpoint hreply k hfound
      subst hreply
      unfold FindsProvided at hfinds
      rw [hpoint] at hfinds
      obtain ⟨other, hother, hcompleted, hreserved⟩ := hfinds k hfound
      obtain ⟨listing, hlisting⟩ := Option.isSome_iff_exists.mp hcompleted
      exact ⟨listing, hlater.providedFor ⟨other, hother, hlisting, hreserved⟩⟩)
  refine ⟨hidempotency, hresumed.1, fun other hother => ?_⟩
  rcases List.mem_or_eq_of_mem_set hother with hold | rfl
  · exact hlater.call (h.calls other hold)
  · exact hresumed.2

/-- **One publication**: when every reserved attempt that a replay finds is that of the call to which the provider has
returned. One attempt at most is published, the provider has returned to one call at most, and what it has returned is
what a published attempt has, and what a call returns that says that the listing is published. -/
theorem one_publication (hashObject : String → String) (attempts : List PublicationAttempt)
    (hnone : ∀ attempt ∈ attempts, attempt.status ≠ .PUBLISHED) (moves : List (Move PublishStart PublishReply))
    (hmoves : (publications hashObject).EachResumeIn FindsProvided ⟨none, attempts⟩ moves) :
    (∀ (i j : Nat) (attempt attempt' : PublicationAttempt),
      ((publications hashObject).pool ⟨none, attempts⟩ moves).shared.attempts[i]? = some attempt →
      ((publications hashObject).pool ⟨none, attempts⟩ moves).shared.attempts[j]? = some attempt' →
      attempt.status = .PUBLISHED → attempt'.status = .PUBLISHED → i = j)
    ∧ (∀ (i j : Nat) (call call' : PublishCall),
      ((publications hashObject).pool ⟨none, attempts⟩ moves).calls[i]? = some call →
      ((publications hashObject).pool ⟨none, attempts⟩ moves).calls[j]? = some call' →
      call.idempotency.completed.isSome = true → call'.idempotency.completed.isSome = true → i = j)
    ∧ (∀ attempt ∈ ((publications hashObject).pool ⟨none, attempts⟩ moves).shared.attempts,
      attempt.status = .PUBLISHED →
      ∃ call ∈ ((publications hashObject).pool ⟨none, attempts⟩ moves).calls, ∃ listing,
        call.idempotency.completed = some listing
        ∧ attempt.externalListingId = some listing.externalListingId
        ∧ attempt.externalListingUrl = some listing.externalListingUrl)
    ∧ ∀ call ∈ ((publications hashObject).pool ⟨none, attempts⟩ moves).calls, ∀ result,
      call.point = .returned result → result.status = .PUBLISHED →
      ∃ other ∈ ((publications hashObject).pool ⟨none, attempts⟩ moves).calls, ∃ listing,
        other.idempotency.completed = some listing
        ∧ result.externalListingId = some listing.externalListingId
        ∧ result.externalListingUrl = some listing.externalListingUrl := by
  have hkept : PublicationKept hashObject ((publications hashObject).pool ⟨none, attempts⟩ moves) := by
    refine CallSystem.pool_induction_where _ ?_ ?_ ?_ hmoves
    · refine ⟨?_, ?_, fun call hcall => absurd hcall List.not_mem_nil⟩
      · exact ⟨Nat.le_refl 0, fun call hcall => absurd hcall List.not_mem_nil, fun r hr => by cases hr⟩
      · exact fun id attempt hat hpublished => absurd hpublished (hnone attempt (List.mem_of_getElem? hat))
    · exact fun start p h => h.start start
    · exact fun i reply call p hfinds h hcall => h.resume hcall hfinds
  generalize (publications hashObject).pool ⟨none, attempts⟩ moves = p at hkept
  refine ⟨?_, ?_, ?_, ?_⟩
  · intro i j attempt attempt' hat hat' hpublished hpublished'
    obtain ⟨listing, hlisting, -⟩ := hkept.attempts i attempt hat hpublished
    obtain ⟨listing', hlisting', -⟩ := hkept.attempts j attempt' hat' hpublished'
    exact hlisting.unique hkept.idempotency hlisting'
  · intro i j call call' hcall hcall' hcompleted hcompleted'
    have hat := idempotencyPool_call hcall
    have hat' := idempotencyPool_call hcall'
    exact hkept.idempotency.unique hat hat' (weight_of_completed hcompleted) (weight_of_completed hcompleted')
  · intro attempt hattempt hpublished
    obtain ⟨id, hat⟩ := List.mem_iff_getElem?.mp hattempt
    obtain ⟨listing, ⟨call, hcall, hcompleted, -⟩, hvalues⟩ := hkept.attempts id attempt hat hpublished
    exact ⟨call, hcall, listing, hcompleted, hvalues⟩
  · intro call hcall result hpoint hpublished
    have hkeptPoint := (hkept.calls call hcall).point
    unfold AtPublishPoint at hkeptPoint
    rw [hpoint] at hkeptPoint
    obtain ⟨listing, ⟨other, hother, hcompleted⟩, hvalues⟩ := hkeptPoint hpublished
    exact ⟨other, hother, listing, hcompleted, hvalues⟩

end Calls

/-- A call is resumed, and what it waits for completes. -/
def completes (call : Nat) (pick : Nat) : Move PublishStart PublishReply := .resume call (.completes true "key" 0 pick)

/-- A call that goes on up to the provider: it claims the key, and reserves an attempt. -/
def reservingMoves (call : Nat) : List (Move PublishStart PublishReply) :=
  [.start (.admitted ⟨"m", "a", "e"⟩), completes call 0, completes call 0, completes call 0,
    .resume call (.reserves none)]

/-- A replay promotes the attempt of the call to which the provider has returned. -/
def replayingMoves : List (Move PublishStart PublishReply) :=
  reservingMoves 0 ++ [.resume 0 (.executes ⟨"e", "u"⟩), completes 0 0, .resume 0 .throws]
    ++ [.start (.admitted ⟨"m", "a", "e"⟩), completes 1 0, completes 1 0, completes 1 0, completes 1 0, completes 1 0,
      completes 1 0, completes 1 0]

/-- A replay returns what the provider has returned to another call. -/
theorem one_publication_replayed :
    (publications fun _ => "").EachResumeIn FindsProvided ⟨none, []⟩ replayingMoves
      ∧ ((publications fun _ => "").pool ⟨none, []⟩ replayingMoves).calls[1]?.map PublishCall.point
        = some (.returned ⟨0, .PUBLISHED, none, some "e", some "u", true⟩)
      ∧ ∀ (i j : Nat) (attempt attempt' : PublicationAttempt),
        ((publications fun _ => "").pool ⟨none, []⟩ replayingMoves).shared.attempts[i]? = some attempt →
        ((publications fun _ => "").pool ⟨none, []⟩ replayingMoves).shared.attempts[j]? = some attempt' →
        attempt.status = .PUBLISHED → attempt'.status = .PUBLISHED → i = j := by
  have hfinds : (publications fun _ => "").EachResumeIn FindsProvided ⟨none, []⟩ replayingMoves := by
    decide
  refine ⟨hfinds, rfl, ?_⟩
  exact (one_publication (fun _ => "") [] (fun _ hattempt => absurd hattempt List.not_mem_nil) replayingMoves hfinds).1

/-- A run in which a replay promotes an attempt that a failed call has left reserved. The provider fails the first
call, which then stops before it has updated its attempt; the second publishes and stops before it has updated its own;
the third is a replay, and finds the attempt of the first; and then the second goes on. -/
def promotingMoves : List (Move PublishStart PublishReply) :=
  reservingMoves 0 ++ [.resume 0 .throws, completes 0 0, .resume 0 .throws]
    ++ reservingMoves 1 ++ [.resume 1 (.executes ⟨"e", "u"⟩), completes 1 0]
    ++ [.start (.admitted ⟨"m", "a", "e"⟩), completes 2 0, completes 2 0, completes 2 0, completes 2 0, completes 2 0,
      completes 2 0, completes 1 0]

/-- Two attempts are published. -/
theorem two_published :
    ¬ ∀ (moves : List (Move PublishStart PublishReply)) (i j : Nat) (attempt attempt' : PublicationAttempt),
      ((publications fun _ => "").pool ⟨none, []⟩ moves).shared.attempts[i]? = some attempt →
      ((publications fun _ => "").pool ⟨none, []⟩ moves).shared.attempts[j]? = some attempt' →
      attempt.status = .PUBLISHED → attempt'.status = .PUBLISHED → i = j := by
  intro h
  have hsame := h promotingMoves 0 1 _ _ rfl rfl rfl rfl
  cases hsame

end VentureOS.Marketplace
