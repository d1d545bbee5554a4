import VentureOS.Marketplace.Account

/-! # The limit of a day

The attempts of one day that count are no more than the limit, in every interleaving of the calls on an account. A
reservation is the only step that adds to them: every other step leaves an attempt as it is, or takes it from a status
that counts (`Settles`). For `READY_FOR_PUBLISH`, which a preparation writes without a guard, this needs that its
attempt is still reserved: no other call has it, and a replay promotes attempts with a key only. -/

namespace VentureOS.Marketplace

/-! ## Writing back -/

/-- An attempt stays with its account, and does not come to count. -/
def PublicationAttempt.Settles (a a' : PublicationAttempt) : Prop :=
  a'.marketplaceAccountId = a.marketplaceAccountId ∧ (a'.status.counts = true → a.status.counts = true)

/-- A row stays with its listing version and its time, and does not come to count. -/
def AccountAttempt.Settles (a a' : AccountAttempt) : Prop :=
  a'.listingVersionId = a.listingVersionId ∧ a'.attemptedAt = a.attemptedAt ∧ a.attempt.Settles a'.attempt

theorem PublicationAttempt.Settles.refl (a : PublicationAttempt) : a.Settles a := ⟨rfl, id⟩

theorem AccountAttempt.Settles.refl (a : AccountAttempt) : a.Settles a := ⟨rfl, rfl, .refl _⟩

variable {a : AccountAttempt} {listingVersionId : String}

theorem writeBack_cons_ne {attemptedAt : Int}
    (h : a.listingVersionId ≠ listingVersionId) (rest : List AccountAttempt) (new : List PublicationAttempt) :
    writeBack listingVersionId attemptedAt (a :: rest) new = a :: writeBack listingVersionId attemptedAt rest new := by
  cases new with
  | nil => rfl
  | cons attempt new => rw [writeBack, if_neg h]

theorem writeBack_cons_self {attemptedAt : Int}
    (h : a.listingVersionId = listingVersionId) (rest : List AccountAttempt) (attempt : PublicationAttempt)
    (new : List PublicationAttempt) :
    writeBack listingVersionId attemptedAt (a :: rest) (attempt :: new)
      = { a with attempt } :: writeBack listingVersionId attemptedAt rest new := by
  rw [writeBack, if_pos h]

theorem attemptsOf_cons_self
    (h : a.listingVersionId = listingVersionId) (rest : List AccountAttempt) :
    attemptsOf listingVersionId (a :: rest) = a.attempt :: attemptsOf listingVersionId rest := by
  unfold attemptsOf
  rw [List.filter_cons_of_pos (by simpa using h), List.map_cons]

theorem attemptsOf_cons_ne
    (h : a.listingVersionId ≠ listingVersionId) (rest : List AccountAttempt) :
    attemptsOf listingVersionId (a :: rest) = attemptsOf listingVersionId rest := by
  unfold attemptsOf
  rw [List.filter_cons_of_neg (by simpa using h)]

/-- What is written back is read again. -/
theorem attemptsOf_writeBack_self (listingVersionId : String) (attemptedAt : Int) {attempts : List AccountAttempt}
    {new : List PublicationAttempt} (h : (attemptsOf listingVersionId attempts).length ≤ new.length) :
    attemptsOf listingVersionId (writeBack listingVersionId attemptedAt attempts new) = new := by
  induction attempts generalizing new with
  | nil =>
    unfold writeBack attemptsOf
    rw [List.filter_map, List.map_map]
    simp [Function.comp_def]
  | cons a rest ih =>
    by_cases ha : a.listingVersionId = listingVersionId
    · rw [attemptsOf_cons_self ha] at h
      cases new with
      | nil => exact absurd h (Nat.not_succ_le_zero _)
      | cons attempt new =>
        rw [writeBack_cons_self ha, attemptsOf_cons_self (a := { a with attempt }) ha, ih (Nat.le_of_succ_le_succ h)]
    · rw [attemptsOf_cons_ne ha] at h
      rw [writeBack_cons_ne ha, attemptsOf_cons_ne ha, ih h]

/-- The attempts of another listing version stay. -/
theorem attemptsOf_writeBack_ne {other : String} (h : other ≠ listingVersionId) (attemptedAt : Int)
    (attempts : List AccountAttempt) (new : List PublicationAttempt) :
    attemptsOf other (writeBack listingVersionId attemptedAt attempts new) = attemptsOf other attempts := by
  induction attempts generalizing new with
  | nil =>
    unfold writeBack attemptsOf
    rw [List.filter_map]
    simp [Function.comp_def, Ne.symm h]
  | cons a rest ih =>
    by_cases ha : a.listingVersionId = listingVersionId
    · have hother : a.listingVersionId ≠ other := fun hsame => h (hsame.symm.trans ha)
      cases new with
      | nil => rw [writeBack, attemptsOf_cons_ne hother, attemptsOf_cons_ne hother, ih]
      | cons attempt new =>
        rw [writeBack_cons_self ha, attemptsOf_cons_ne (a := { a with attempt }) hother, attemptsOf_cons_ne hother, ih]
    · rw [writeBack_cons_ne ha]
      by_cases hother : a.listingVersionId = other
      · rw [attemptsOf_cons_self hother, attemptsOf_cons_self hother, ih]
      · rw [attemptsOf_cons_ne hother, attemptsOf_cons_ne hother, ih]

/-- When the attempts of a listing version settle, so do the rows that are written back. -/
theorem writeBack_settles (listingVersionId : String) (attemptedAt : Int) {attempts : List AccountAttempt}
    {kept : List PublicationAttempt} (added : List PublicationAttempt)
    (h : List.Forall₂ PublicationAttempt.Settles (attemptsOf listingVersionId attempts) kept) :
    ∃ rows, writeBack listingVersionId attemptedAt attempts (kept ++ added)
        = rows ++ added.map (fun attempt => ⟨listingVersionId, attemptedAt, attempt⟩)
      ∧ List.Forall₂ AccountAttempt.Settles attempts rows := by
  induction attempts generalizing kept with
  | nil =>
    cases h
    exact ⟨[], rfl, .nil⟩
  | cons a rest ih =>
    by_cases ha : a.listingVersionId = listingVersionId
    · rw [attemptsOf_cons_self ha] at h
      cases h with
      | cons hsettles hrest =>
        obtain ⟨rows, hrows, hall⟩ := ih hrest
        rw [List.cons_append, writeBack_cons_self ha, hrows]
        exact ⟨_ :: rows, rfl, .cons ⟨rfl, rfl, hsettles⟩ hall⟩
    · rw [attemptsOf_cons_ne ha] at h
      obtain ⟨rows, hrows, hall⟩ := ih h
      rw [writeBack_cons_ne ha, hrows]
      exact ⟨a :: rows, rfl, .cons (.refl a) hall⟩

theorem settles_refl (attempts : List PublicationAttempt) :
    List.Forall₂ PublicationAttempt.Settles attempts attempts := by
  induction attempts with
  | nil => exact .nil
  | cons a rest ih => exact .cons (.refl a) ih

variable {a' : PublicationAttempt}

theorem settles_set {attempts : List PublicationAttempt} {id : Nat} {a : PublicationAttempt}
    (hat : attempts[id]? = some a) (hsettles : a.Settles a') :
    List.Forall₂ PublicationAttempt.Settles attempts (attempts.set id a') := by
  induction attempts generalizing id with
  | nil => exact .nil
  | cons b rest ih =>
    cases id with
    | zero =>
      rw [List.getElem?_cons_zero, Option.some.injEq] at hat
      subst hat
      exact .cons hsettles (settles_refl rest)
    | succ id =>
      rw [List.getElem?_cons_succ] at hat
      exact .cons (.refl b) (ih hat)

/-! ## What a call of `publishListing` does to the attempts -/

variable {s s' : AccountState} {reply : AccountReply} {call call' : AccountCall}

section Calls

variable {hashPayload : DraftPayload → String} {hashObject : String → String}

/-- What a resumption of a call does to the attempts, and to the attempt that the call has reserved. -/
inductive AttemptsChange (reply : PublishReply) (call : PublishCall) (attempts : List PublicationAttempt) :
    List PublicationAttempt → PublishCall → Prop
  | same (call' : PublishCall) (hreserved : call'.reserved = call.reserved) :
      AttemptsChange reply call attempts attempts call'
  | updated (call' : PublishCall) (id : Nat) (a a' : PublicationAttempt) (hreserved : call'.reserved = call.reserved)
      (hat : attempts[id]? = some a) (hsettles : a.Settles a')
      (hown : call.reserved = some id ∨ a.idempotencyKeyId ≠ none) :
      AttemptsChange reply call attempts (attempts.set id a') call'
  | added (call' : PublishCall) (a : PublicationAttempt) (hreserved : call'.reserved = call.reserved)
      (huncounted : a.status.counts = false) : AttemptsChange reply call attempts (attempts ++ [a]) call'
  | reserved (call' : PublishCall) (a : PublicationAttempt) (hpoint : call.point = .inside)
      (hidempotency : call.idempotency.point = .preparing) (hreply : reply = .reserves none)
      (hreserved : call'.reserved = some attempts.length)
      (hstatus : a.status = .RESERVED) : AttemptsChange reply call attempts (attempts ++ [a]) call'

/-- What is known of a call of `publishListing` where it waits. -/
def PublishKnown (call : PublishCall) : Prop :=
  match call.point with
  | .inside => (∀ result, call.idempotency.point ≠ .returned result)
      ∧ (call.idempotency.point = .executing → call.reserved.isSome = true)
  | .findingPublished _ keyId => keyId ≠ none
  | .findingReserved _ keyId => keyId ≠ none
  | .promoting _ _ keyId => keyId ≠ none
  | .publishing id _ _ => call.reserved = some id
  | .blocking id => call.reserved = some id
  | .failing id => call.reserved = some id
  | _ => True

/-- An attempt that is promoted was reserved, under the key. -/
theorem publishAttempt_settles {id : Nat} {keyId : Option String} {listing : PublishedListing}
    {attempts : List PublicationAttempt}
    (h : publishAttempt id keyId listing attempts = some a') :
    ∃ a, attempts[id]? = some a ∧ a.Settles a' ∧ a.idempotencyKeyId = keyId := by
  unfold publishAttempt at h
  split at h
  next a hat =>
    split at h
    next hguard =>
      rw [Option.some.injEq] at h
      refine ⟨a, hat, ⟨?_, fun _ => ?_⟩, hguard.2⟩
      · rw [← h]
      · rw [hguard.1]
        rfl
    next => cases h
  next => cases h

theorem resumePublish_attempts (reply : PublishReply) {call : PublishCall} {s : PublicationState}
    (hknown : PublishKnown call) :
    AttemptsChange reply call s.attempts (resumePublish hashObject reply call s).1.attempts
      (resumePublish hashObject reply call s).2 := by
  unfold PublishKnown at hknown
  fun_cases resumePublish hashObject reply call s
  case case1 hpoint =>
    fun_cases resumeInside hashObject reply call s
    case case1 hidempotency attempt => exact .reserved _ _ hpoint hidempotency rfl rfl rfl
    case case2 disabled reason hidempotency attempt => exact .added _ _ rfl (by cases disabled <;> rfl)
    all_goals exact .same _ rfl
  case case7 id response keyId _ _ _ _ hpoint a' hpublished =>
    rw [hpoint] at hknown
    obtain ⟨listing, -, hpublished⟩ := Option.bind_eq_some_iff.mp hpublished
    obtain ⟨a, hat, hsettles, hkey⟩ := publishAttempt_settles hpublished
    exact .updated _ id a a' rfl hat hsettles (.inr (hkey ▸ hknown))
  case case9 hpoint => exact .added _ _ rfl rfl
  case case10 hpoint a' hpublished =>
    rw [hpoint] at hknown
    obtain ⟨a, hat, hsettles, -⟩ := publishAttempt_settles hpublished
    exact .updated _ _ a a' rfl hat hsettles (.inl hknown)
  case case12 hpoint a hat blocked =>
    rw [hpoint] at hknown
    exact .updated _ _ a blocked rfl hat ⟨rfl, fun hcounts => by cases hcounts⟩ (.inl hknown)
  case case14 hpoint a hat failed =>
    rw [hpoint] at hknown
    exact .updated _ _ a failed rfl hat ⟨rfl, fun hcounts => by cases hcounts⟩ (.inl hknown)
  all_goals exact .same _ rfl

theorem publishKnown_goInside (reply : IdempotencyReply PublishedListing) (failure : PublishFailure)
    {call : PublishCall} {s : PublicationState} (hreturned : ∀ result, call.idempotency.point ≠ .returned result)
    (hexecuting : (call.idempotency.point = .executing ∨ call.idempotency.point = .preparing
      ∧ ∃ found id now, reply = .completes found id now) → call.reserved.isSome = true) :
    PublishKnown (goInside hashObject reply failure call s).2 := by
  have hreplayed := fun response => @replayed_resume _ _ _ hashObject some reply call.idempotency s.row response
  have hexecutes := @executing_resume _ _ _ hashObject some reply call.idempotency s.row
  unfold goInside PublishKnown
  dsimp only
  generalize resumeIdempotency hashObject some reply call.idempotency s.row = resumed at hreplayed hexecutes ⊢
  unfold afterIdempotency
  cases hpoint : resumed.2.point with
  | returned result =>
    cases result with
    | executed listing =>
      cases hreserved : call.reserved with
      | none => trivial
      | some id => exact rfl
    | replayed response =>
      rcases hreplayed response hpoint with ⟨existing, hreplaying⟩ | hbefore
      · unfold IdempotencyCall.keyId
        rw [hreplaying]
        exact Option.some_ne_none _
      · exact absurd hbefore (hreturned _)
  | thrown error =>
    by_cases hcompleted : resumed.2.completed.isSome = true
    · dsimp only
      rw [if_pos hcompleted]
      trivial
    · dsimp only
      rw [if_neg hcompleted]
      cases failure <;> cases hreserved : call.reserved <;> trivial
  | executing =>
    exact ⟨fun result h => (nomatch h), fun _ => hexecuting (hexecutes hpoint).symm⟩
  | _ => exact ⟨fun result h => (nomatch h), fun h => (nomatch h)⟩

/-- **What is known of a call stays known.** -/
theorem PublishKnown.resume (reply : PublishReply) {call : PublishCall} {s : PublicationState}
    (hknown : PublishKnown call) : PublishKnown (resumePublish hashObject reply call s).2 := by
  have hbefore := hknown
  unfold PublishKnown at hknown
  fun_cases resumePublish hashObject reply call s
  case case1 hpoint =>
    rw [hpoint] at hknown
    obtain ⟨hreturned, hexecuting⟩ := hknown
    fun_cases resumeInside hashObject reply call s
    case case1 => exact publishKnown_goInside _ _ hreturned fun _ => rfl
    case case3 => exact hbefore
    case case9 => exact hbefore
    case case7 hnot =>
      refine publishKnown_goInside _ _ hreturned ?_
      rintro (h | ⟨h, -⟩)
      · exact hexecuting h
      · exact absurd h hnot
    all_goals
      refine publishKnown_goInside _ _ hreturned ?_
      rintro (h | ⟨-, _, _, _, h⟩)
      · exact hexecuting h
      · cases h
  case case4 response keyId _ _ _ _ hpoint _ =>
    rw [hpoint] at hknown
    exact hknown
  case case5 id response keyId _ _ _ hpoint _ _ =>
    rw [hpoint] at hknown
    exact hknown
  case case17 => exact hbefore
  case case18 => exact hbefore
  case case20 => exact hbefore
  all_goals trivial

/-! ## What a call on the account does -/

/-- The attempt that a call has reserved: its listing version, and its place among the attempts of that version. -/
def AccountCall.owned : AccountCall → Option (String × Nat)
  | .prepare call => call.reserved.map fun id => (call.version.id, id)
  | .publish listingVersionId call => call.reserved.map fun id => (listingVersionId, id)
  | .changed => none

theorem owned_prepare (call : PrepareCall) :
    (AccountCall.prepare call).owned = call.reserved.map fun id => (call.version.id, id) := rfl

theorem owned_publish (listingVersionId : String) (call : PublishCall) :
    (AccountCall.publish listingVersionId call).owned = call.reserved.map fun id => (listingVersionId, id) := rfl

/-- A call is about to reserve an attempt. -/
def AccountCall.reserves : AccountCall → Bool
  | .prepare call => match call.point with
      | .reserving => true
      | _ => false
  | .publish _ call => match call.point, call.idempotency.point with
      | .inside, .preparing => true
      | _, _ => false
  | .changed => false

/-- What a resumption does to the attempts, and to the attempt that the call has reserved. -/
inductive AccountChange (reply : AccountReply) (call : AccountCall) (s s' : AccountState) (call' : AccountCall) : Prop
  | same (howned : call'.owned = call.owned) (hattempts : s'.attempts = s.attempts)
  | updated (listingVersionId : String) (attemptedAt : Int) (id : Nat) (a a' : PublicationAttempt)
      (howned : call'.owned = call.owned) (hat : (s.attemptsOf listingVersionId)[id]? = some a)
      (hsettles : a.Settles a') (hown : call.owned = some (listingVersionId, id) ∨ a.idempotencyKeyId ≠ none)
      (hattempts : s'.attempts
        = writeBack listingVersionId attemptedAt s.attempts ((s.attemptsOf listingVersionId).set id a'))
  | added (listingVersionId : String) (attemptedAt : Int) (a : PublicationAttempt) (howned : call'.owned = call.owned)
      (huncounted : a.status.counts = false)
      (hattempts : s'.attempts
        = writeBack listingVersionId attemptedAt s.attempts (s.attemptsOf listingVersionId ++ [a]))
  | reserved (listingVersionId : String) (id : String) (now attemptedAt : Int) (pick : Nat) (a : PublicationAttempt)
      (hreserves : call.reserves = true) (hreply : reply = .completes true id now attemptedAt pick)
      (howned : call'.owned = some (listingVersionId, (s.attemptsOf listingVersionId).length))
      (hfailClosed : s.checkFailClosed now = none) (hstatus : a.status = .RESERVED)
      (hattempts : s'.attempts
        = writeBack listingVersionId attemptedAt s.attempts (s.attemptsOf listingVersionId ++ [a]))

/-- Writing back what is there changes nothing. -/
theorem writeBack_same (listingVersionId : String) (attemptedAt : Int) (attempts : List AccountAttempt) :
    writeBack listingVersionId attemptedAt attempts (attemptsOf listingVersionId attempts) = attempts := by
  induction attempts with
  | nil => rfl
  | cons a rest ih =>
    by_cases ha : a.listingVersionId = listingVersionId
    · rw [attemptsOf_cons_self ha, writeBack_cons_self ha, ih]
    · rw [attemptsOf_cons_ne ha, writeBack_cons_ne ha, ih]

/-- A reservation that is not blocked. -/
theorem toPublish_reserves {call : PublishCall}
    (h : reply.toPublish call s = .reserves none) :
    ∃ id now attemptedAt pick, reply = .completes true id now attemptedAt pick ∧ s.checkFailClosed now = none := by
  unfold AccountReply.toPublish at h
  split at h
  · cases h
  · cases h
  · cases h
  next found id now attemptedAt pick =>
    split at h
    · cases found with
      | false => cases h
      | true =>
        rw [if_pos rfl, PublishReply.reserves.injEq, Option.map_eq_none_iff] at h
        exact ⟨id, now, attemptedAt, pick, rfl, h⟩
    · cases h

theorem resumePublication_change (reply : AccountReply) (listingVersionId : String) {call : PublishCall}
    (hknown : PublishKnown call) :
    AccountChange reply (.publish listingVersionId call) s (resumePublication hashObject reply listingVersionId call s).1
      (.publish listingVersionId (resumePublication hashObject reply listingVersionId call s).2) := by
  have hchange := @resumePublish_attempts hashObject (reply.toPublish call s) call
    ⟨s.publications listingVersionId, s.attemptsOf listingVersionId⟩ hknown
  unfold resumePublication
  generalize resumePublish hashObject (reply.toPublish call s) call
    ⟨s.publications listingVersionId, s.attemptsOf listingVersionId⟩ = resumed at hchange ⊢
  obtain ⟨⟨row, attempts⟩, call'⟩ := resumed
  have hsame : call'.reserved = call.reserved →
      (AccountCall.publish listingVersionId call').owned = (AccountCall.publish listingVersionId call).owned := by
    intro h
    rw [owned_publish, owned_publish, h]
  cases hchange with
  | same _ hreserved => exact .same (hsame hreserved) (writeBack_same _ _ _)
  | updated _ id a a' hreserved hat hsettles hown =>
    refine .updated listingVersionId _ id a a' (hsame hreserved) hat hsettles (hown.imp_left fun h => ?_) rfl
    rw [owned_publish, h]
    rfl
  | added _ a hreserved huncounted => exact .added listingVersionId _ a (hsame hreserved) huncounted rfl
  | reserved _ a hpoint hidempotency hreply hreserved hstatus =>
    obtain ⟨id, now, attemptedAt, pick, rfl, hfailClosed⟩ := toPublish_reserves hreply
    refine .reserved listingVersionId id now attemptedAt pick a ?_ rfl ?_ hfailClosed hstatus rfl
    · show (match call.point, call.idempotency.point with
        | .inside, .preparing => true
        | _, _ => false) = true
      rw [hpoint, hidempotency]
    · rw [owned_publish, hreserved]
      rfl

/-- A preparation works on its attempt, which is still reserved. -/
def PreparePoint.working : PreparePoint → Bool
  | .drafting _ => true
  | .uploading _ _ _ _ => true
  | .preparing _ => true
  | _ => false

/-- The attempt of a preparation that works on it is reserved, and has no key. A preparation is refused with a status
that does not count. -/
structure PrepareKnown (call : PrepareCall) (s : AccountState) : Prop where
  working : call.point.working = true → ∃ id a, call.reserved = some id ∧ (s.attemptsOf call.version.id)[id]? = some a
    ∧ a.status = .RESERVED ∧ a.idempotencyKeyId = none
  refusing : ∀ status reason, call.point = .refusing status reason → status.counts = false

theorem update_eq_some {id : Option Nat}
    {change : PublicationAttempt → PublicationAttempt}
    (h : s.update listingVersionId id change = some (s', a')) :
    ∃ place a, id = some place ∧ (s.attemptsOf listingVersionId)[place]? = some a ∧ a' = change a
      ∧ s' = s.withAttempts listingVersionId 0 ((s.attemptsOf listingVersionId).set place (change a)) := by
  unfold AccountState.update at h
  split at h
  next place =>
    split at h
    next a hat =>
      rw [Option.some.injEq, Prod.mk.injEq] at h
      exact ⟨place, a, rfl, hat, h.2.symm, h.1.symm⟩
    next => cases h
  next => cases h

/-- A preparation updates its own attempt. -/
theorem AccountChange.of_update {call call' : PrepareCall}
    {change : PublicationAttempt → PublicationAttempt}
    (h : s.update call.version.id call.reserved change = some (s', a'))
    (hversion : call'.version = call.version) (hreserved : call'.reserved = call.reserved)
    (hsettles : ∀ id a, call.reserved = some id → (s.attemptsOf call.version.id)[id]? = some a → a.Settles (change a)) :
    AccountChange reply (.prepare call) s s' (.prepare call') := by
  obtain ⟨id, a, hid, hat, -, rfl⟩ := update_eq_some h
  have hown : (AccountCall.prepare call).owned = some (call.version.id, id) := by
    rw [owned_prepare, hid]
    rfl
  refine .updated call.version.id 0 id a (change a) ?_ hat (hsettles id a hid hat) (.inl hown) rfl
  rw [owned_prepare, owned_prepare, hversion, hreserved]

/-- `resumeDraft` leaves the attempts. -/
theorem resumeDraft_attempts (reply : AccountReply) (key : String) (denied : Bool) (idempotency : DraftIdempotency)
    (s : AccountState) :
    (resumeDraft hashPayload reply key denied idempotency s).1.attempts = s.attempts
      ∧ (resumeDraft hashPayload reply key denied idempotency s).1.account = s.account := by
  fun_cases resumeDraft hashPayload reply key denied idempotency s
  all_goals exact ⟨rfl, rfl⟩

theorem reservation_eq {now : Int} (h : (s.reservation now).status = .RESERVED) :
    s.checkFailClosed now = none := by
  unfold AccountState.reservation at h
  split at h
  next reason hblocked =>
    cases hdisabled : s.account.disabled <;> rw [hdisabled] at h <;> cases h
  next hnone => exact hnone

theorem reservation_counts {now : Int} (h : (s.reservation now).status ≠ .RESERVED) :
    (s.reservation now).status.counts = false := by
  unfold AccountState.reservation at h ⊢
  split
  next reason hblocked => cases s.account.disabled <;> rfl
  next hnone =>
    rw [hnone] at h
    exact absurd rfl h

theorem reservation_key (s : AccountState) (now : Int) : (s.reservation now).idempotencyKeyId = none := by
  unfold AccountState.reservation
  split <;> rfl

theorem resumePrepare_change (reply : AccountReply) {call : PrepareCall}
    (hknown : PrepareKnown call s) :
    AccountChange reply (.prepare call) s (resumePrepare hashPayload reply call s).1
      (.prepare (resumePrepare hashPayload reply call s).2) := by
  fun_cases resumePrepare hashPayload reply call s
  case case6 status reason _ _ _ _ _ hpoint attempt =>
    exact .added call.version.id _ attempt rfl (hknown.refusing status reason hpoint) rfl
  case case7 id now attemptedAt pick hpoint attempt place s' hstatus =>
    refine .reserved call.version.id id now attemptedAt pick attempt ?_ rfl rfl (reservation_eq hstatus) hstatus rfl
    show (match call.point with
      | .reserving => true
      | _ => false) = true
    rw [hpoint]
  case case8 id now attemptedAt pick hpoint attempt place s' hstatus =>
    exact .added call.version.id attemptedAt attempt rfl (reservation_counts hstatus) rfl
  case case10 idempotency hpoint s' idempotency' denied hresumed =>
    refine .same rfl ?_
    rw [← (resumeDraft_attempts reply _ call.denied idempotency s).1, hresumed]
  case case11 externalListingId key idempotency rest hpoint s' idempotency' denied hresumed =>
    refine .same rfl ?_
    rw [← (resumeDraft_attempts reply key call.denied idempotency s).1, hresumed]
  case case12 externalListingId _ _ _ _ _ hpoint s' attempt hupdated =>
    refine .of_update hupdated rfl rfl fun id a hid hat => ⟨rfl, fun _ => ?_⟩
    obtain ⟨id', a', hid', hat', hreserved, -⟩ := hknown.working (by rw [hpoint]; rfl)
    rw [hid, Option.some.injEq] at hid'
    rw [← hid', hat, Option.some.injEq] at hat'
    rw [hat', hreserved]
    rfl
  case case17 hupdated => exact .of_update hupdated rfl rfl fun id a _ _ => ⟨rfl, fun hcounts => by cases hcounts⟩
  case case19 hupdated => exact .of_update hupdated rfl rfl fun id a _ _ => ⟨rfl, fun hcounts => by cases hcounts⟩
  all_goals exact .same rfl rfl

/-- What is known of a call. -/
def AccountKnown (call : AccountCall) (s : AccountState) : Prop :=
  match call with
  | .prepare call => PrepareKnown call s
  | .publish _ call => PublishKnown call
  | .changed => True

/-- **What a resumption does.** -/
theorem resumeAccount_change (reply : AccountReply) {call : AccountCall} {s : AccountState}
    (hknown : AccountKnown call s) :
    AccountChange reply call s (resumeAccount hashPayload hashObject reply call s).1
      (resumeAccount hashPayload hashObject reply call s).2 := by
  cases call with
  | prepare call => exact resumePrepare_change reply hknown
  | publish listingVersionId call => exact resumePublication_change reply listingVersionId hknown
  | changed => exact .same rfl rfl

theorem resumePrepare_account (reply : AccountReply) (call : PrepareCall) (s : AccountState) :
    (resumePrepare hashPayload reply call s).1.account = s.account := by
  fun_cases resumePrepare hashPayload reply call s
  case case10 idempotency hpoint s' idempotency' denied hresumed =>
    rw [← (resumeDraft_attempts reply _ call.denied idempotency s).2, hresumed]
  case case11 externalListingId key idempotency rest hpoint s' idempotency' denied hresumed =>
    rw [← (resumeDraft_attempts reply key call.denied idempotency s).2, hresumed]
  case case12 hupdated =>
    obtain ⟨_, _, _, _, _, rfl⟩ := update_eq_some hupdated
    rfl
  case case17 hupdated =>
    obtain ⟨_, _, _, _, _, rfl⟩ := update_eq_some hupdated
    rfl
  case case19 hupdated =>
    obtain ⟨_, _, _, _, _, rfl⟩ := update_eq_some hupdated
    rfl
  all_goals rfl

/-- No call changes the account. -/
theorem resumeAccount_account (reply : AccountReply) (call : AccountCall) (s : AccountState) :
    (resumeAccount hashPayload hashObject reply call s).1.account = s.account := by
  cases call with
  | prepare call => exact resumePrepare_account reply call s
  | publish listingVersionId call => rfl
  | changed => rfl

theorem attemptsOf_of_writeBack {s s' : AccountState} {listingVersionId : String} {attemptedAt : Int}
    {new : List PublicationAttempt} (h : s'.attempts = writeBack listingVersionId attemptedAt s.attempts new)
    (hlength : (s.attemptsOf listingVersionId).length ≤ new.length) (other : String) :
    s'.attemptsOf other = if other = listingVersionId then new else s.attemptsOf other := by
  unfold AccountState.attemptsOf at *
  rw [h]
  split
  next hsame =>
    subst hsame
    exact attemptsOf_writeBack_self other attemptedAt hlength
  next hother => exact attemptsOf_writeBack_ne hother attemptedAt s.attempts new

/-- No attempt goes away. -/
theorem AccountChange.length_le
    (h : AccountChange reply call s s' call') (listingVersionId : String) :
    (s.attemptsOf listingVersionId).length ≤ (s'.attemptsOf listingVersionId).length := by
  cases h with
  | same _ hattempts =>
    unfold AccountState.attemptsOf
    exact Nat.le_of_eq (by rw [hattempts])
  | updated own attemptedAt id a a' _ _ _ _ hattempts =>
    rw [attemptsOf_of_writeBack hattempts (by simp)]
    split
    next hsame => simp [hsame]
    next => exact Nat.le_refl _
  | added own attemptedAt a _ _ hattempts =>
    rw [attemptsOf_of_writeBack hattempts (by simp)]
    split
    next hsame => simp [hsame]
    next => exact Nat.le_refl _
  | reserved own id now attemptedAt pick a _ _ _ _ _ hattempts =>
    rw [attemptsOf_of_writeBack hattempts (by simp)]
    split
    next hsame => simp [hsame]
    next => exact Nat.le_refl _

/-- An attempt without a key that a call has not reserved stays. -/
theorem AccountChange.frame
    (h : AccountChange reply call s s' call') {id : Nat} {a : PublicationAttempt}
    (hat : (s.attemptsOf listingVersionId)[id]? = some a) (hkey : a.idempotencyKeyId = none)
    (hown : call.owned ≠ some (listingVersionId, id)) : (s'.attemptsOf listingVersionId)[id]? = some a := by
  have hbound := (List.getElem?_eq_some_iff.mp hat).1
  cases h with
  | same _ hattempts =>
    unfold AccountState.attemptsOf at hat ⊢
    rw [hattempts]
    exact hat
  | updated own attemptedAt id' b b' _ hb _ howner hattempts =>
    rw [attemptsOf_of_writeBack hattempts (by simp)]
    split
    next hsame =>
      subst hsame
      have hne : id' ≠ id := by
        rintro rfl
        rw [hat, Option.some.injEq] at hb
        rcases howner with howned | hkeyed
        · exact hown howned
        · exact hkeyed (hb ▸ hkey)
      rw [List.getElem?_set_ne hne]
      exact hat
    next => exact hat
  | added own attemptedAt b _ _ hattempts =>
    rw [attemptsOf_of_writeBack hattempts (by simp)]
    split
    next hsame =>
      subst hsame
      rw [List.getElem?_append_left hbound]
      exact hat
    next => exact hat
  | reserved own id' now attemptedAt pick b _ _ _ _ _ hattempts =>
    rw [attemptsOf_of_writeBack hattempts (by simp)]
    split
    next hsame =>
      subst hsame
      rw [List.getElem?_append_left hbound]
      exact hat
    next => exact hat

/-- A call keeps the attempt that it has reserved, or reserves a new one. -/
theorem AccountChange.owned
    (h : AccountChange reply call s s' call') :
    call'.owned = call.owned ∨ ∃ listingVersionId, call'.owned
        = some (listingVersionId, (s.attemptsOf listingVersionId).length)
      ∧ (s.attemptsOf listingVersionId).length < (s'.attemptsOf listingVersionId).length := by
  cases h with
  | same howned => exact .inl howned
  | updated _ _ _ _ _ howned => exact .inl howned
  | added _ _ _ howned => exact .inl howned
  | reserved own id now attemptedAt pick a _ _ howned _ _ hattempts =>
    refine .inr ⟨own, howned, ?_⟩
    rw [attemptsOf_of_writeBack hattempts (by simp), if_pos rfl]
    simp

theorem PrepareKnown.of_not_working {call : PrepareCall} (hworking : call.point.working = false)
    (hrefusing : ∀ status reason, call.point ≠ .refusing status reason) : PrepareKnown call s where
  working h := by
    rw [hworking] at h
    cases h
  refusing status reason h := absurd h (hrefusing status reason)

theorem uploadNext_ne (accountId externalListingId : String) (uploads : List Upload) (status : AttemptStatus)
    (reason : String) : uploadNext accountId externalListingId uploads ≠ .refusing status reason := by
  cases uploads <;> exact fun h => (nomatch h)

theorem afterDraft_ne {idempotency : DraftIdempotency} {denied : Bool} {waiting : PreparePoint}
    {next : String → PreparePoint} {point : PreparePoint} (h : afterDraft idempotency denied waiting next = point) :
    point = waiting ∨ (∃ id, point = next id) ∨ point = .failing ∨ point = .blocking := by
  unfold afterDraft at h
  split at h
  · exact .inr (.inl ⟨_, h.symm⟩)
  · exact .inr (.inl ⟨_, h.symm⟩)
  · exact .inr (.inr (.inl h.symm))
  · cases denied
    · exact .inr (.inr (.inl h.symm))
    · exact .inr (.inr (.inr h.symm))
  · exact .inl h.symm

/-- A preparation that goes on inside `withIdempotency` works on the same attempt. -/
theorem PrepareKnown.inside {call : PrepareCall} (hknown : PrepareKnown call s)
    (hworking : call.point.working = true) (hattempts : s'.attempts = s.attempts) (denied : Bool) {point : PreparePoint}
    (hpoint : ∀ status reason, point ≠ .refusing status reason) : PrepareKnown { call with denied, point } s' where
  working _ := by
    obtain ⟨id, a, hid, hat, hstatus, hkey⟩ := hknown.working hworking
    refine ⟨id, a, hid, ?_, hstatus, hkey⟩
    unfold AccountState.attemptsOf at hat ⊢
    rw [hattempts]
    exact hat
  refusing status reason h := absurd h (hpoint status reason)

/-- **What is known of a preparation stays known.** -/
theorem PrepareKnown.resume (reply : AccountReply) {call : PrepareCall} {s : AccountState}
    (hknown : PrepareKnown call s) :
    PrepareKnown (resumePrepare hashPayload reply call s).2 (resumePrepare hashPayload reply call s).1 := by
  have goes : ∀ point s', point.working = false → (∀ status reason, point ≠ .refusing status reason) →
      PrepareKnown (call.goTo point) s' :=
    fun point s' hworking hrefusing => .of_not_working hworking hrefusing
  fun_cases resumePrepare hashPayload reply call s
  case case1 => exact ⟨fun h => (nomatch h), fun _ _ h => by cases h; rfl⟩
  case case4 => exact ⟨fun h => (nomatch h), fun _ _ h => by cases h; rfl⟩
  case case7 id now attemptedAt pick hpoint attempt place s' hstatus =>
    refine ⟨fun _ => ⟨place, attempt, rfl, ?_, hstatus, ?_⟩, fun _ _ h => (nomatch h)⟩
    · rw [@attemptsOf_of_writeBack s s' _ _ _ rfl (by simp), if_pos rfl]
      exact List.getElem?_concat_length
    · exact reservation_key s now
  case case10 idempotency hpoint s' idempotency' denied hresumed =>
    refine hknown.inside (by rw [hpoint]; rfl) ?_ denied ?_
    · rw [← (resumeDraft_attempts reply _ call.denied idempotency s).1, hresumed]
    · intro status reason hrefusing
      rcases afterDraft_ne hrefusing with h | ⟨_, h⟩ | h | h
      · cases h
      · exact uploadNext_ne _ _ _ _ _ h.symm
      · cases h
      · cases h
  case case11 externalListingId key idempotency rest hpoint s' idempotency' denied hresumed =>
    refine hknown.inside (by rw [hpoint]; rfl) ?_ denied ?_
    · rw [← (resumeDraft_attempts reply key call.denied idempotency s).1, hresumed]
    · intro status reason hrefusing
      rcases afterDraft_ne hrefusing with h | ⟨_, h⟩ | h | h
      · cases h
      · exact uploadNext_ne _ _ _ _ _ h.symm
      · cases h
      · cases h
  case case22 => exact hknown
  case case23 => exact hknown
  case case25 => exact hknown
  all_goals exact goes _ _ rfl (fun _ _ h => (nomatch h))

/-- What is known of its own call stays known. -/
theorem AccountKnown.resume (reply : AccountReply) {call : AccountCall} {s : AccountState}
    (hknown : AccountKnown call s) :
    AccountKnown (resumeAccount hashPayload hashObject reply call s).2
      (resumeAccount hashPayload hashObject reply call s).1 := by
  cases call with
  | prepare call => exact PrepareKnown.resume reply hknown
  | publish listingVersionId call => exact PublishKnown.resume _ hknown
  | changed => trivial

/-- What is known of another call stays known. -/
theorem AccountKnown.frame {other : AccountCall}
    (h : AccountChange reply call s s' call') (hother : AccountKnown other s)
    (hown : ∀ attempt, other.owned = some attempt → call.owned ≠ some attempt) : AccountKnown other s' := by
  cases other with
  | prepare other =>
    refine ⟨fun hworking => ?_, hother.refusing⟩
    obtain ⟨id, a, hid, hat, hstatus, hkey⟩ := hother.working hworking
    have howned : (AccountCall.prepare other).owned = some (other.version.id, id) := by
      rw [owned_prepare, hid]
      rfl
    exact ⟨id, a, hid, h.frame hat hkey (hown _ howned), hstatus, hkey⟩
  | publish listingVersionId other => exact hother
  | changed => trivial

/-! ## What a start does -/

/-- A start adds an attempt that does not count, or none: it does no more than a resumption. -/
theorem startAccount_change (start : AccountStart) (s : AccountState) :
    AccountChange .throws .changed s (startAccount start s).1 .changed := by
  cases start with
  | prepare version => cases version <;> exact .same rfl rfl
  | setDisabled disabled disabledReason => exact .same rfl rfl
  | publish listingVersionId externalListingId attemptedAt =>
    unfold startAccount startPublication
    cases externalListingId with
    | none => exact .same rfl (writeBack_same listingVersionId attemptedAt s.attempts)
    | some externalListingId =>
      dsimp only
      by_cases hdisabled : s.account.disabled = true
      · rw [if_pos hdisabled]
        exact .added listingVersionId attemptedAt _ rfl rfl rfl
      · rw [if_neg hdisabled]
        exact .same rfl (writeBack_same listingVersionId attemptedAt s.attempts)

theorem startAccount_owned (start : AccountStart) (s : AccountState) : (startAccount start s).2.owned = none := by
  cases start with
  | prepare version => cases version <;> rfl
  | setDisabled disabled disabledReason => rfl
  | publish listingVersionId externalListingId attemptedAt =>
    unfold startAccount startPublication
    cases externalListingId with
    | none => rfl
    | some externalListingId =>
      dsimp only
      split <;> rfl

theorem startAccount_known (start : AccountStart) (s : AccountState) :
    AccountKnown (startAccount start s).2 (startAccount start s).1 := by
  cases start with
  | prepare version =>
    cases version <;> exact .of_not_working rfl (fun _ _ h => (nomatch h))
  | setDisabled disabled disabledReason => trivial
  | publish listingVersionId externalListingId attemptedAt =>
    unfold startAccount startPublication
    cases externalListingId with
    | none => trivial
    | some externalListingId =>
      dsimp only
      split
      · trivial
      · exact ⟨fun _ h => (nomatch h), fun h => (nomatch h)⟩

/-! ## Runs -/

/-- What is kept in every interleaving: what is known of the calls, and an attempt is reserved by one call. -/
structure AccountKept (p : Pool AccountState AccountCall) : Prop where
  known : ∀ call ∈ p.calls, AccountKnown call p.shared
  bounded : ∀ call ∈ p.calls, ∀ listingVersionId id, call.owned = some (listingVersionId, id) →
    id < (p.shared.attemptsOf listingVersionId).length
  unique : ∀ (i j : Nat) (call other : AccountCall) attempt, p.calls[i]? = some call → p.calls[j]? = some other →
    call.owned = some attempt → other.owned = some attempt → i = j

/-- The attempt of a call is one of the account. -/
def AccountCall.Bounded (call : AccountCall) (s : AccountState) : Prop :=
  ∀ attempt, call.owned = some attempt → attempt.2 < (s.attemptsOf attempt.1).length

theorem AccountCall.Bounded.change {other : AccountCall} (h : other.Bounded s)
    (hchange : AccountChange reply call s s' call') : other.Bounded s' :=
  fun attempt howned => Nat.lt_of_lt_of_le (h attempt howned) (hchange.length_le attempt.1)

/-- What is kept in every interleaving. -/
theorem accountKept_pool (s : AccountState) (moves : List (Move AccountStart AccountReply)) :
    AccountKept ((accountCalls hashPayload hashObject).pool s moves) := by
  have h := @CallSystem.invariant_owned _ _ _ _ _ (accountCalls hashPayload hashObject) (String × Nat) AccountCall.owned
    (fun s attempt => attempt.2 < (s.attemptsOf attempt.1).length) (fun _ => True)
    (fun s call => AccountKnown call s ∧ call.Bounded s) s trivial (fun s call attempt h => h.2 attempt) ?_ ?_ moves
  · obtain ⟨-, hcalls, hapart⟩ := h
    exact ⟨fun call hcall => (hcalls call hcall).1,
      fun call hcall listingVersionId id howned => (hcalls call hcall).2 (listingVersionId, id) howned, hapart⟩
  · intro start s _
    have hchange := startAccount_change start s
    have hnone := startAccount_owned start s
    refine ⟨trivial, ⟨startAccount_known start s, fun attempt howned => ?_⟩, hnone, fun other hother => ?_⟩
    · exact absurd (hnone.symm.trans howned) (fun h => (nomatch h))
    · exact ⟨hother.1.frame hchange (fun _ _ howned => (nomatch howned)), hother.2.change hchange⟩
  · intro reply call s _ hcall
    have hchange := @resumeAccount_change hashPayload hashObject reply call s hcall.1
    refine ⟨trivial, ⟨hcall.1.resume reply, fun attempt howned => ?_⟩, fun attempt howned => ?_, fun other hother hown => ?_⟩
    · rcases hchange.owned with hsame | ⟨own, hnew, hlt⟩
      · exact hcall.2.change hchange attempt (hsame.symm.trans howned)
      · rw [Option.some.inj (howned.symm.trans hnew)]
        exact hlt
    · rcases hchange.owned with hsame | ⟨own, hnew, -⟩
      · exact .inl (hsame.symm.trans howned)
      · rw [Option.some.inj (howned.symm.trans hnew)]
        exact .inr (Nat.lt_irrefl _)
    · exact ⟨hother.1.frame hchange hown, hother.2.change hchange⟩

/-! ## Counting -/

/-- The attempts of a day that count. -/
def AccountState.attemptsOn (s : AccountState) (day : Int) : Nat :=
  s.attempts.countP fun a => a.counts s.account && decide (utcDay a.attemptedAt = day)

/-- A row that settles does not come to count. -/
theorem AccountAttempt.Settles.counts {a' : AccountAttempt} (h : a.Settles a') {account : MarketplaceAccount}
    (hcounts : a'.counts account = true) : a.counts account = true := by
  unfold AccountAttempt.counts at hcounts ⊢
  rw [Bool.and_eq_true, decide_eq_true_eq] at hcounts ⊢
  exact ⟨h.2.2.1.symm.trans hcounts.1, h.2.2.2 hcounts.2⟩

/-- Rows that settle are counted less often. -/
theorem countP_settles {attempts rows : List AccountAttempt} (h : List.Forall₂ AccountAttempt.Settles attempts rows)
    (account : MarketplaceAccount) (day : Int) :
    (rows.countP fun a => a.counts account && decide (utcDay a.attemptedAt = day))
      ≤ attempts.countP fun a => a.counts account && decide (utcDay a.attemptedAt = day) := by
  induction h with
  | nil => exact Nat.le_refl _
  | @cons a a' rest rows hsettles _ ih =>
    have hhead : (a'.counts account && decide (utcDay a'.attemptedAt = day)) = true →
        (a.counts account && decide (utcDay a.attemptedAt = day)) = true := by
      intro hcounted
      rw [Bool.and_eq_true, decide_eq_true_eq] at hcounted ⊢
      exact ⟨hsettles.counts hcounted.1, hsettles.2.1 ▸ hcounted.2⟩
    rw [List.countP_cons, List.countP_cons]
    by_cases hcounted : (a'.counts account && decide (utcDay a'.attemptedAt = day)) = true
    · rw [if_pos hcounted, if_pos (hhead hcounted)]
      exact Nat.add_le_add_right ih 1
    · rw [if_neg hcounted]
      exact Nat.le_add_right_of_le ih

/-- **The attempts settle**, and one is added that does not count, or that is reserved, or none. -/
theorem AccountChange.settles
    (h : AccountChange reply call s s' call') :
    ∃ rows added, s'.attempts = rows ++ added ∧ List.Forall₂ AccountAttempt.Settles s.attempts rows
      ∧ ((∀ a ∈ added, a.attempt.status.counts = false)
        ∨ ∃ listingVersionId id now attemptedAt pick a, call.reserves = true
          ∧ reply = .completes true id now attemptedAt pick ∧ s.checkFailClosed now = none
          ∧ added = [⟨listingVersionId, attemptedAt, a⟩]) := by
  have hrefl : ∀ attempts : List AccountAttempt, List.Forall₂ AccountAttempt.Settles attempts attempts := by
    intro attempts
    induction attempts with
    | nil => exact .nil
    | cons a rest ih => exact .cons (.refl a) ih
  cases h with
  | same _ hattempts =>
    refine ⟨s.attempts, [], ?_, hrefl _, .inl fun a ha => absurd ha List.not_mem_nil⟩
    rw [hattempts, List.append_nil]
  | updated listingVersionId attemptedAt id a a' _ hat hsettles _ hattempts =>
    obtain ⟨rows, hrows, hall⟩ := writeBack_settles listingVersionId attemptedAt [] (settles_set hat hsettles)
    rw [List.append_nil, List.map_nil, List.append_nil] at hrows
    refine ⟨rows, [], ?_, hall, .inl fun a ha => absurd ha List.not_mem_nil⟩
    rw [hattempts, List.append_nil]
    exact hrows
  | added listingVersionId attemptedAt a _ huncounted hattempts =>
    obtain ⟨rows, hrows, hall⟩ := writeBack_settles listingVersionId attemptedAt [a] (settles_refl _)
    refine ⟨rows, _, hattempts.trans hrows, hall, .inl fun b hb => ?_⟩
    rw [List.mem_singleton.mp hb]
    exact huncounted
  | reserved listingVersionId id now attemptedAt pick a hreserves hreply _ hfailClosed _ hattempts =>
    obtain ⟨rows, hrows, hall⟩ := writeBack_settles listingVersionId attemptedAt [a] (settles_refl _)
    exact ⟨rows, _, hattempts.trans hrows, hall,
      .inr ⟨listingVersionId, id, now, attemptedAt, pick, a, hreserves, hreply, hfailClosed, rfl⟩⟩

/-- An attempt is dated on the day on which the limit was checked. -/
def SameDay (reply : AccountReply) (call : AccountCall) (_ : AccountState) : Prop :=
  match reply with
  | .completes _ _ now attemptedAt _ => call.reserves = true → utcDay attemptedAt = utcDay now
  | _ => True

instance (reply : AccountReply) (call : AccountCall) (s : AccountState) : Decidable (SameDay reply call s) := by
  unfold SameDay
  split <;> infer_instance

/-- The attempts of one day are among those since the start of that day. -/
theorem attemptsOn_le_todaysAttempts (s : AccountState) (now : Int) :
    s.attemptsOn (utcDay now) ≤ s.todaysAttempts now := by
  refine List.countP_mono_left fun a _ hcounted => ?_
  rw [Bool.and_eq_true, decide_eq_true_eq] at hcounted ⊢
  refine ⟨hcounted.1, ?_⟩
  unfold startOfDay
  rw [← hcounted.2]
  exact Int.ediv_mul_le _ (by decide)

theorem checkFailClosed_eq_none {now : Int} :
    s.checkFailClosed now = none
      ↔ s.account.disabled = false ∧ ∀ limit, s.account.rateLimitPerDay = some limit → s.todaysAttempts now < limit := by
  unfold AccountState.checkFailClosed
  cases hdisabled : s.account.disabled with
  | true => simp
  | false =>
    cases hlimit : s.account.rateLimitPerDay with
    | none => simp
    | some limit =>
      by_cases hreached : limit ≤ s.todaysAttempts now
      · simp [hreached, Nat.not_lt.mpr hreached]
      · simp [hreached, Nat.lt_of_not_le hreached]

/-- **A step keeps the limit of every day.** -/
theorem AccountChange.attemptsOn_le
    (h : AccountChange reply call s s' call') (haccount : s'.account.id = s.account.id) {limit : Nat}
    (hlimit : s.account.rateLimitPerDay = some limit) (hday : SameDay reply call s)
    (hbefore : ∀ day, s.attemptsOn day ≤ limit) (day : Int) : s'.attemptsOn day ≤ limit := by
  obtain ⟨rows, added, hattempts, hall, hadded⟩ := h.settles
  have hcounts : ∀ a : AccountAttempt, a.counts s'.account = a.counts s.account := by
    intro a
    unfold AccountAttempt.counts
    rw [haccount]
  have hrows := Nat.le_trans (countP_settles hall s.account day) (hbefore day)
  unfold AccountState.attemptsOn
  rw [hattempts, List.countP_append]
  simp only [hcounts]
  rcases hadded with huncounted | ⟨listingVersionId, id, now, attemptedAt, pick, a, hreserves, rfl, hfailClosed, rfl⟩
  · have hnone : (added.countP fun a => a.counts s.account && decide (utcDay a.attemptedAt = day)) = 0 := by
      rw [List.countP_eq_zero]
      intro a ha hcounted
      unfold AccountAttempt.counts at hcounted
      rw [huncounted a ha, Bool.and_false, Bool.false_and] at hcounted
      cases hcounted
    rw [hnone]
    exact hrows
  · rw [List.countP_singleton]
    by_cases hcounted : (AccountAttempt.counts ⟨listingVersionId, attemptedAt, a⟩ s.account
        && decide (utcDay attemptedAt = day)) = true
    · -- the day of the reservation, on which the limit was not reached
      rw [if_pos hcounted]
      rw [Bool.and_eq_true, decide_eq_true_eq] at hcounted
      have hsame : day = utcDay now := hcounted.2.symm.trans (hday hreserves)
      have hfree := (checkFailClosed_eq_none.mp hfailClosed).2 limit hlimit
      have hle := attemptsOn_le_todaysAttempts s now
      have hkept := countP_settles hall s.account day
      unfold AccountState.attemptsOn at hle
      rw [hsame] at hkept ⊢
      omega
    · rw [if_neg hcounted]
      exact hrows

/-! ## Provider writes -/

/-- `execute` is called. -/
def IdempotencyPoint.isExecuting {R J : Type} (point : IdempotencyPoint R J) : Bool :=
  match point with
  | .executing => true
  | _ => false

/-- A preparation executes. -/
def PreparePoint.isExecuting (point : PreparePoint) : Bool :=
  match point with
  | .drafting idempotency => idempotency.point.isExecuting
  | .uploading _ _ idempotency _ => idempotency.point.isExecuting
  | _ => false

/-- A call of `publishListing` executes. -/
def PublishCall.isExecuting (call : PublishCall) : Bool :=
  match call.point with
  | .inside => call.idempotency.point.isExecuting
  | _ => false

/-- A call executes. -/
def AccountCall.isExecuting (call : AccountCall) : Bool :=
  match call with
  | .prepare call => call.point.isExecuting
  | .publish _ call => call.isExecuting
  | .changed => false

/-- A call writes: it executes, and the policy does not deny it. The provider may throw, after it has written or not. -/
def AccountCall.writes (call : AccountCall) (reply : AccountReply) : Bool :=
  match reply with
  | .throws => call.isExecuting
  | .executes _ _ => call.isExecuting
  | _ => false

/-- A step of a run. -/
abbrev AccountEntry := Entry (Move AccountStart AccountReply) (Option Unit) (Pool AccountState AccountCall)

/-- In this step an attempt is created that is `RESERVED`, while the account is enabled. -/
def ReservesAttempt (e : AccountEntry) (attempt : String × Nat) : Prop :=
  e.before.shared.account.disabled = false
    ∧ attempt.2 = (e.before.shared.attemptsOf attempt.1).length
    ∧ ∃ a, (e.after.shared.attemptsOf attempt.1)[attempt.2]? = some a ∧ a.status = .RESERVED

theorem isExecuting_eq {R J : Type} {point : IdempotencyPoint R J} (h : point.isExecuting = true) :
    point = .executing := by
  cases point <;> first | rfl | cases h

/-- A call that executes has reserved an attempt. -/
theorem owned_of_isExecuting (hknown : AccountKnown call s)
    (h : call.isExecuting = true) : ∃ attempt, call.owned = some attempt := by
  cases call with
  | prepare call =>
    have hworking : call.point.working = true := by
      unfold AccountCall.isExecuting PreparePoint.isExecuting at h
      dsimp only at h
      split at h
      next hpoint => rw [hpoint]; rfl
      next hpoint => rw [hpoint]; rfl
      next => cases h
    obtain ⟨id, -, hid, -⟩ := hknown.working hworking
    exact ⟨(call.version.id, id), by rw [owned_prepare, hid]; rfl⟩
  | publish listingVersionId call =>
    have hreserved : call.reserved.isSome = true := by
      unfold AccountCall.isExecuting PublishCall.isExecuting at h
      unfold AccountKnown PublishKnown at hknown
      dsimp only at h
      split at h
      next hpoint =>
        dsimp only at hknown
        rw [hpoint] at hknown
        exact hknown.2 (isExecuting_eq h)
      next => cases h
    obtain ⟨id, hid⟩ := Option.isSome_iff_exists.mp hreserved
    exact ⟨(listingVersionId, id), by rw [owned_publish, hid]; rfl⟩
  | changed => cases h

theorem isExecuting_of_writes (h : call.writes reply = true) :
    call.isExecuting = true := by
  unfold AccountCall.writes at h
  split at h
  · exact h
  · exact h
  · cases h

/-- A call has an attempt that it has reserved while the account was enabled. -/
theorem reserves_of_owned (s : AccountState) (moves : List (Move AccountStart AccountReply)) :
    ∀ call ∈ ((accountCalls hashPayload hashObject).pool s moves).calls, ∀ attempt, call.owned = some attempt →
      ∃ e ∈ history (accountCalls hashPayload hashObject).step ⟨s, []⟩ moves, ReservesAttempt e attempt := by
  induction moves using List.reverseRecOn with
  | nil => exact fun call hcall => absurd hcall List.not_mem_nil
  | append_singleton moves move ih =>
    have hkept := @accountKept_pool hashPayload hashObject s moves
    have hlater : ∀ attempt, (∃ e ∈ history (accountCalls hashPayload hashObject).step ⟨s, []⟩ moves,
          ReservesAttempt e attempt) →
        ∃ e ∈ history (accountCalls hashPayload hashObject).step ⟨s, []⟩ (moves ++ [move]),
          ReservesAttempt e attempt := by
      rintro attempt ⟨e, he, hreserves⟩
      rw [history_concat]
      exact ⟨e, List.mem_append_left _ he, hreserves⟩
    intro call hcall attempt howned
    rw [CallSystem.pool_concat] at hcall
    cases move with
    | start start =>
      rcases List.mem_append.mp hcall with hold | hnew
      · exact hlater attempt (ih call hold attempt howned)
      · rw [List.mem_singleton.mp hnew] at howned
        have hnone := startAccount_owned start ((accountCalls hashPayload hashObject).pool s moves).shared
        exact absurd (hnone.symm.trans howned) (fun h => (nomatch h))
    | resume i reply =>
      cases hat : ((accountCalls hashPayload hashObject).pool s moves).calls[i]? with
      | none =>
        rw [CallSystem.step_resume_of_none _ hat] at hcall
        exact hlater attempt (ih call hcall attempt howned)
      | some t =>
        have hmem := List.mem_of_getElem? hat
        have hchange := @resumeAccount_change hashPayload hashObject reply t _ (hkept.known t hmem)
        rw [CallSystem.step_resume_of_some _ hat] at hcall
        rcases List.mem_or_eq_of_mem_set hcall with hold | rfl
        · exact hlater attempt (ih call hold attempt howned)
        · cases hchange with
          | same hsame => exact hlater attempt (ih t hmem attempt (hsame.symm.trans howned))
          | updated _ _ _ _ _ hsame => exact hlater attempt (ih t hmem attempt (hsame.symm.trans howned))
          | added _ _ _ hsame => exact hlater attempt (ih t hmem attempt (hsame.symm.trans howned))
          | reserved own id now attemptedAt pick a _ _ hnew hfailClosed hstatus hattempts =>
            have hattempt : attempt = (own, _) := Option.some.inj (howned.symm.trans hnew)
            have hentry : entryAt (accountCalls hashPayload hashObject).step
                ((accountCalls hashPayload hashObject).pool s moves) (.resume i reply)
                ∈ history (accountCalls hashPayload hashObject).step ⟨s, []⟩ (moves ++ [.resume i reply]) := by
              rw [history_concat]
              exact List.mem_append_right _ (List.mem_singleton_self _)
            have hplace := attemptsOf_of_writeBack hattempts (by simp) own
            rw [if_pos rfl] at hplace
            subst hattempt
            refine ⟨_, hentry, (checkFailClosed_eq_none.mp hfailClosed).1, rfl, a, ?_, hstatus⟩
            unfold entryAt
            rw [CallSystem.step_resume_of_some _ hat]
            show (AccountState.attemptsOf (resumeAccount hashPayload hashObject reply t _).1 own)[_]? = some a
            rw [hplace]
            exact List.getElem?_concat_length

/-- The rows of a step settle: each stays with its listing version and its time, and does not come to count. -/
def StepSettles (e : AccountEntry) : Prop :=
  ∀ (k : Nat) (a : AccountAttempt), e.before.shared.attempts[k]? = some a →
    ∃ a', e.after.shared.attempts[k]? = some a' ∧ a.Settles a'

theorem AccountChange.stepSettles
    (h : AccountChange reply call s s' call') {k : Nat} (hat : s.attempts[k]? = some a) :
    ∃ a', s'.attempts[k]? = some a' ∧ a.Settles a' := by
  obtain ⟨rows, added, hattempts, hall, -⟩ := h.settles
  have hbound := (List.getElem?_eq_some_iff.mp hat).1
  rw [hall.length_eq] at hbound
  refine ⟨rows[k], ?_, ?_⟩
  · rw [hattempts, List.getElem?_append_left hbound, List.getElem?_eq_getElem hbound]
  · obtain ⟨hbefore, hget⟩ := List.getElem?_eq_some_iff.mp hat
    rw [← hget]
    exact hall.get hbefore hbound

variable (hashPayload hashObject)

/-- The steps of some moves. -/
def accountSteps (s : AccountState) (moves : List (Move AccountStart AccountReply)) : List AccountEntry :=
  history (accountCalls hashPayload hashObject).step ⟨s, []⟩ moves

/-- In a step at which the provider is called, the call has an attempt that was reserved in an earlier step, while the
account was enabled. -/
def WritesReserved (past : List AccountEntry) (e : AccountEntry) : Prop :=
  ∀ i reply call, e.label = .resume i reply → e.before.calls[i]? = some call → call.writes reply = true →
    ∃ attempt, call.owned = some attempt ∧ ∃ earlier ∈ past, ReservesAttempt earlier attempt

variable {hashPayload hashObject}

theorem startAccount_account (start : AccountStart) (s : AccountState) :
    (startAccount start s).1.account.id = s.account.id
      ∧ (startAccount start s).1.account.rateLimitPerDay = s.account.rateLimitPerDay := by
  cases start with
  | prepare version => cases version <;> exact ⟨rfl, rfl⟩
  | publish => exact ⟨rfl, rfl⟩
  | setDisabled => exact ⟨rfl, rfl⟩

/-- On no day more attempts count than the limit. -/
theorem attemptsOn_pool_le {limit : Nat} (hlimit : s.account.rateLimitPerDay = some limit)
    (hbefore : ∀ day, s.attemptsOn day ≤ limit) {moves : List (Move AccountStart AccountReply)}
    (hday : (accountCalls hashPayload hashObject).EachResume SameDay s moves) :
    ((accountCalls hashPayload hashObject).pool s moves).shared.account.rateLimitPerDay = some limit
      ∧ ∀ day, ((accountCalls hashPayload hashObject).pool s moves).shared.attemptsOn day ≤ limit := by
  induction moves using List.reverseRecOn with
  | nil => exact ⟨hlimit, hbefore⟩
  | append_singleton moves move ih =>
    obtain ⟨hearlier, hlast⟩ := (CallSystem.eachResume_concat _).mp hday
    obtain ⟨hsame, hle⟩ := ih hearlier
    have hkept := @accountKept_pool hashPayload hashObject s moves
    rw [CallSystem.pool_concat]
    generalize (accountCalls hashPayload hashObject).pool s moves = p at hlast hsame hle hkept ⊢
    cases move with
    | start start =>
      obtain ⟨hid, hlimit'⟩ := startAccount_account start p.shared
      exact ⟨hlimit'.trans hsame, (startAccount_change start p.shared).attemptsOn_le hid hsame trivial hle⟩
    | resume i reply =>
      cases hat : p.calls[i]? with
      | none =>
        rw [CallSystem.step_resume_of_none _ hat]
        exact ⟨hsame, hle⟩
      | some call =>
        rw [CallSystem.step_resume_of_some _ hat]
        have haccount := @resumeAccount_account hashPayload hashObject reply call p.shared
        have hchange := @resumeAccount_change hashPayload hashObject reply call p.shared
          (hkept.known call (List.mem_of_getElem? hat))
        refine ⟨(congrArg _ haccount).trans hsame, ?_⟩
        exact hchange.attemptsOn_le (congrArg _ haccount) hsame (hlast i reply call rfl hat) hle

/-- The rows of every step settle. -/
theorem stepSettles_of_mem {moves : List (Move AccountStart AccountReply)} {e : AccountEntry}
    (he : e ∈ accountSteps hashPayload hashObject s moves) : StepSettles e := by
  obtain ⟨before, move, after, -, rfl⟩ := eq_entryAt_of_mem_history _ he
  have hkept := @accountKept_pool hashPayload hashObject s before
  intro k a hat
  unfold CallSystem.pool at hkept
  unfold entryAt at hat ⊢
  generalize run (accountCalls hashPayload hashObject).step ⟨s, []⟩ before = p at hkept hat ⊢
  cases move with
  | start start => exact (startAccount_change start p.shared).stepSettles hat
  | resume i reply =>
    cases hcall : p.calls[i]? with
    | none =>
      rw [CallSystem.step_resume_of_none _ hcall]
      exact ⟨a, hat, .refl a⟩
    | some call =>
      rw [CallSystem.step_resume_of_some _ hcall]
      exact (@resumeAccount_change hashPayload hashObject reply call p.shared
        (hkept.known call (List.mem_of_getElem? hcall))).stepSettles hat

variable (hashPayload hashObject)

end Calls

/-- An account with a limit of one attempt a day, and without attempts. -/
def limitedAccount : AccountState where
  account := ⟨"account", "etsy", false, none, some 1⟩
  drafts _ := none
  publications _ := none
  attempts := []

/-- Two preparations and a publication. The second preparation has counted before the first reserves its attempt; the
first publishes its draft, and another publication on the same day is blocked. -/
def limitedMoves : List (Move AccountStart AccountReply) :=
  let version (id : String) : ListingVersion := ⟨id, "title", "description", [], "9.99", [], []⟩
  let goes (call : Nat) : Move AccountStart AccountReply := .resume call (.completes true "row" 5 6 0)
  [.start (.prepare (some (version "first"))), .start (.prepare (some (version "second"))), goes 0, goes 1, goes 0, goes 1,
    goes 0, goes 1, goes 0, goes 0, goes 0, goes 0, .resume 0 (.executes "draft" ""), goes 0, goes 0, goes 0,
    .start (.publish "first" (some "draft") 7), goes 2, goes 2, goes 2, goes 2]

end VentureOS.Marketplace
