import Mathlib.Data.List.MinMax
import VentureOS.Agents.ApprovalRunner
import VentureOS.Marketplace.DailyLimit

/-! # Publications that are approved

Whole calls on one listing, one after the other: preparations, `requestPublicationApproval`, `decideApprovalRequest` and
`publishListing`, while the account is enabled and has no limit, and the latest version of the listing stays.

A request names the attempt that was ready last when it was raised, and `publishListing` takes the one that is ready
last when it runs. The dispatch wants them to be the same. So a preparation in between makes an approved request
unusable, and that is the only way in which it is: a request that names the attempt is carried out
(`publishes_iff`). -/

namespace VentureOS.Marketplace

open Agents Approvals

/-! ## The listing -/

/-- The latest version of the listing, and the hash of its content. -/
structure ListingContent where
  version : ListingVersion
  packageHash : String
  deriving DecidableEq, Repr

/-- An approval request of kind `PUBLICATION`, with its decisions, and the attempt in its `affectedResources`. -/
structure PublicationRequest where
  tables : ApprovalTables
  attempt : Nat
  deriving DecidableEq, Repr

/-- The account, and the approval requests of the listing version in the order of their creation. -/
structure ListingState where
  account : AccountState
  requests : List PublicationRequest

/-! ## The attempt that is ready -/

/-- The rows of a listing version. -/
def AccountState.rowsOf (s : AccountState) (listingVersionId : String) : List AccountAttempt :=
  s.attempts.filter fun a => a.listingVersionId = listingVersionId

/-- The attempt is ready, and no later one is. -/
def AccountState.isLatestReady (s : AccountState) (listingVersionId : String) (id : Nat) : Bool :=
  match (s.rowsOf listingVersionId)[id]? with
  | some a => decide (a.attempt.status = .READY_FOR_PUBLISH) && (s.rowsOf listingVersionId).all fun b =>
    decide (b.attempt.status = .READY_FOR_PUBLISH → b.attemptedAt ≤ a.attemptedAt)
  | none => false

/-- `findFirst` of the attempt that is ready last: the attempt that is picked, when it is, or else the first one that
is. -/
def AccountState.latestReady (s : AccountState) (listingVersionId : String) (pick : Nat) : Option Nat :=
  if s.isLatestReady listingVersionId pick then some pick
  else (List.range (s.rowsOf listingVersionId).length).find? fun id => s.isLatestReady listingVersionId id

/-! ## Calls -/

/-- What `requestPublicationApproval` is given, and what the row has otherwise. -/
structure RequestInput where
  id : String
  ventureProposalVersionId : String
  expiresAt : Int
  pick : Nat
  deriving DecidableEq, Repr

/-- What `publishListing` reads of its surroundings: the clock at the check of the approval and at the dispatch, the time
and the id of rows that are created, and what is picked where several match. -/
structure PublishInput where
  checkedAt : Int
  dispatchedAt : Int
  attemptedAt : Int
  rowId : String
  pickReady : Nat
  pickAttempt : Nat
  deriving DecidableEq, Repr

section Calls

variable (auditSignature : String → Decision → Int → String → String) (hashPayload : DraftPayload → String)
  (hashObject : String → String) (content : ListingContent)

/-- The provider returns an id of its own for a draft: `fetchMockCreateDraftListing`. -/
def draftReply (reply : AccountReply) (call : PrepareCall) : AccountReply :=
  match call.point, reply with
  | .drafting _, .executes uuid url => .executes s!"mock-etsy-listing-{uuid}" url
  | _, reply => reply

/-- `prepareListingForPublication`, which is told what comes of what it waits for. -/
def prepareListing (replies : List AccountReply) (s : AccountState) : AccountState × PrepareCall :=
  replies.foldl (fun p reply => resumePrepare hashPayload (draftReply reply p.2) p.2 p.1)
    (s, ⟨content.version, none, false, .resolving⟩)

/-- The approval request of kind `PUBLICATION` that is created. -/
def newPublicationRequest (input : RequestInput) : ApprovalTables :=
  raised {
    id := input.id
    kind := .PUBLICATION
    ventureProposalVersionId := input.ventureProposalVersionId
    productPackageId := none
    listingVersionId := some content.version.id
    experimentId := none
    packageHash := content.packageHash
    expiresAt := input.expiresAt
    state := .PENDING
    revokedAt := none
    revokedBy := none
    revocationReason := none }

/-- `requestPublicationApproval`: the place of the request, or it throws. -/
def requestPublicationApproval (input : RequestInput) (s : ListingState) : ListingState × Option Nat :=
  match s.account.latestReady content.version.id input.pick with
  | none => (s, none)
  | some attempt =>
    match s.requests.findIdx? fun request => request.tables.request.state = .PENDING with
    | some existingPending => (s, some existingPending)
    | none =>
      ({ s with requests := s.requests ++ [⟨newPublicationRequest content input, attempt⟩] }, some s.requests.length)

/-- The current artefact of a publication. -/
def ListingContent.current (content : ListingContent) : CurrentArtifact := ⟨content.version.id, content.packageHash⟩

/-- `decideApprovalRequest`, as one call. -/
def decideAlone (params : DecideApprovalParams) (now decidedAt : Int) (tables : ApprovalTables) :
    ApprovalTables × DecideCall :=
  let replies : List ApprovalReply :=
    [.completes, .reads (.ok content.current) now decidedAt, .completes, .completes]
  replies.foldl (fun p reply => resumeDecide auditSignature reply p.2 p.1) (tables, ⟨params, .finding⟩)

/-- The check of the approval in `publishListing`, as one call. -/
def checkAlone (now : Int) (tables : ApprovalTables) : ApprovalTables × PublishCheck :=
  let replies : List ApprovalReply := [.completes, .completes, .reads (.ok content.current) now 0, .completes]
  replies.foldl (fun p reply => resumePublishCheck reply p.2 p.1) (tables, ⟨content.version.id, .finding⟩)

/-- `assertPublishDispatchState` does not throw. -/
def dispatchAllowed (account : MarketplaceAccount) (request : PublicationRequest) (preparedAttempt : Nat) (now : Int)
    (attempts : List PublicationAttempt) : Bool :=
  match attempts[preparedAttempt]?, latestApproval request.tables.decisions with
  | some attempt, some decision =>
    decide (attempt.status = .READY_FOR_PUBLISH ∧ attempt.marketplace = account.marketplace
        ∧ attempt.marketplaceAccountId = some account.id)
      && decide (request.tables.request.kind = .PUBLICATION
        ∧ request.tables.request.listingVersionId = some content.version.id)
      && request.tables.request.state.isApproved
      && !account.disabled && attempt.externalListingId.any (fun id => decide (id ≠ ""))
      && decide (request.attempt = preparedAttempt)
      && (isApprovalValidForExecution decision.approvedArtifactVersionId decision.approvedPackageHash
        decision.expiresAt content.version.id content.packageHash now).isNone
  | _, _ => false

/-- `fetchMockPublishListing`. -/
def fetchMockPublishListing (externalListingId : String) : PublishedListing :=
  ⟨externalListingId, s!"https://mock.etsy.example/listing/{externalListingId}"⟩

/-- What comes of what a call of `publishListing` waits for: statements complete, an attempt is reserved, and the
provider publishes the listing, when the dispatch is allowed. -/
def publishReply (input : PublishInput) (blocked : Option (Bool × String)) (externalListingId : String) (allowed : Bool)
    (call : PublishCall) : PublishReply :=
  let completes : PublishReply := .completes true input.rowId input.dispatchedAt input.pickAttempt
  match call.point, call.idempotency.point with
  | .inside, .preparing => .reserves blocked
  | .inside, .executing => if allowed then .executes (fetchMockPublishListing externalListingId) else .throws
  | .inside, .replaying _ => if allowed then completes else .throws
  | _, _ => completes

/-- A call of `publishListing` goes on, for so many steps. -/
def publishAlone (reply : List PublicationAttempt → PublishCall → PublishReply) :
    Nat → PublicationState → PublishCall → PublicationState × PublishCall
  | 0, s, call => (s, call)
  | n + 1, s, call =>
    let (s', call') := resumePublish hashObject (reply s.attempts call) call s
    publishAlone reply n s' call'

/-- `publishListing`, as one call: the state, and where the call ends. -/
def publishListing (requestIndex : Nat) (input : PublishInput) (s : ListingState) : ListingState × PublishPoint :=
  match s.account.latestReady content.version.id input.pickReady, s.requests[requestIndex]? with
  | some preparedAttempt, some request =>
    match (s.account.attemptsOf content.version.id)[preparedAttempt]? with
    | some ⟨marketplace, some marketplaceAccountId, _, _, _, _, some externalListingId, _⟩ =>
      let (tables, check) := checkAlone content input.checkedAt request.tables
      let s := { s with requests := s.requests.set requestIndex { request with tables } }
      match check.point with
      | .valid =>
        if marketplaceAccountId = s.account.account.id ∧ marketplace = s.account.account.marketplace
            ∧ externalListingId ≠ "" then
          let prepared : Prepared := ⟨marketplace, marketplaceAccountId, externalListingId⟩
          let start : PublishStart :=
            if s.account.account.disabled then .disabled prepared s.account.account.reason else .admitted prepared
          let blocked := (s.account.checkFailClosed input.dispatchedAt).map fun reason =>
            (s.account.account.disabled, reason)
          let own := startPublish start
            ⟨s.account.publications content.version.id, s.account.attemptsOf content.version.id⟩
          -- no call takes more than eight steps
          let own := publishAlone hashObject (fun attempts => publishReply input blocked externalListingId
            (dispatchAllowed content s.account.account ⟨tables, request.attempt⟩ preparedAttempt input.dispatchedAt attempts))
            8 own.1 own.2
          ({ s with account := { s.account.withAttempts content.version.id input.attemptedAt own.1.attempts with
              publications := Function.update s.account.publications content.version.id own.1.row } },
            own.2.point)
        else (s, .thrown)
      | _ => (s, .thrown)
    | _ => (s, .thrown)
  | _, _ => (s, .thrown)

/-- A call on the listing. -/
inductive ListingCall where
  | prepare (replies : List AccountReply)
  | request (input : RequestInput)
  | decide (requestIndex : Nat) (params : DecideApprovalParams) (now decidedAt : Int)
  | publish (requestIndex : Nat) (input : PublishInput)

/-- Where a call ends. -/
inductive ListingOutcome where
  | prepared (point : PreparePoint)
  | requested (requestIndex : Option Nat)
  | decided (point : Option DecidePoint)
  | published (point : PublishPoint)
  deriving DecidableEq, Repr

/-- A call, as a whole. -/
def callListing (call : ListingCall) (s : ListingState) : ListingOutcome × ListingState :=
  match call with
  | .prepare replies =>
    let (account, prepared) := prepareListing hashPayload content replies s.account
    (.prepared prepared.point, { s with account })
  | .request input =>
    let (s', requestIndex) := requestPublicationApproval content input s
    (.requested requestIndex, s')
  | .decide requestIndex params now decidedAt =>
    match s.requests[requestIndex]? with
    | some request =>
      let (tables, decided) := decideAlone auditSignature content params now decidedAt request.tables
      (.decided (some decided.point), { s with requests := s.requests.set requestIndex { request with tables } })
    | none => (.decided none, s)
  | .publish requestIndex input =>
    let (s', point) := publishListing hashObject content requestIndex input s
    (.published point, s')

/-- The listing after some calls, when nothing was done before. -/
def afterCalls (account : MarketplaceAccount) (calls : List ListingCall) : ListingState :=
  run (callListing auditSignature hashPayload hashObject content) ⟨⟨account, fun _ => none, fun _ => none, []⟩, []⟩ calls

end Calls

/-! ## One call of `publishListing` -/

variable {account : MarketplaceAccount} {s s₀ : AccountState} {attempts : List PublicationAttempt}
  {call : PrepareCall} {idempotency : DraftIdempotency} {a : PublicationAttempt}
  {tables : ApprovalTables} {drafted : String → Prop}

variable {point : PreparePoint} {reply : AccountReply} {externalListingId : String}
  {preparedAttempt : Nat}

section Calls

variable {auditSignature : String → Decision → Int → String → String} {hashPayload : DraftPayload → String}
  {hashObject : String → String} {content : ListingContent}

/-- A ready attempt is one of the account, and has the id of the draft. -/
def ReadyKept (account : MarketplaceAccount) (drafted : String → Prop) (attempts : List PublicationAttempt) : Prop :=
  ∀ a ∈ attempts, a.status = .READY_FOR_PUBLISH → a.marketplace = account.marketplace
    ∧ a.marketplaceAccountId = some account.id ∧ ∃ id, a.externalListingId = some id ∧ drafted id

/-- An attempt is published under the key. -/
def PublishedUnder (account : MarketplaceAccount) (keyId : String) (attempts : List PublicationAttempt) : Prop :=
  ∃ a ∈ attempts, a.idempotencyKeyId = some keyId ∧ a.status = .PUBLISHED
    ∧ a.marketplaceAccountId = some account.id ∧ a.marketplace = account.marketplace

/-- The row of the key is none, or for the draft; it has failed, or its attempt is published. -/
def RowKept (hashObject : String → String) (account : MarketplaceAccount) (drafted : String → Prop)
    (s : PublicationState) : Prop :=
  ∀ r, s.row = some r → r.marketplaceAccountId = account.id ∧ r.operationType = "PUBLISH_LISTING"
    ∧ (∃ id, drafted id ∧ r.requestHash = hashObject id)
    ∧ (r.status = .FAILED ∨ r.status = .SUCCEEDED ∧ PublishedUnder account r.id s.attempts)

/-- What one call of `publishListing` comes to, when its dispatch is allowed or not. -/
structure PublishesAlone (hashObject : String → String) (account : MarketplaceAccount) (drafted : String → Prop)
    (allowed : Bool) (s s' : PublicationState) (call' : PublishCall) : Prop where
  row : RowKept hashObject account drafted s'
  attempts : ∃ added, s'.attempts = s.attempts ++ added ∧ ∀ a ∈ added, a.status ≠ .READY_FOR_PUBLISH
  published : (∃ result, call'.point = .returned result ∧ result.status = .PUBLISHED) ↔ allowed = true

section Alone

-- A call that runs alone is evaluated, step by step.
attribute [local simp] publishAlone resumePublish resumeInside goInside resumeIdempotency PublishCall.begin
  beginIdempotency publishReply afterIdempotency afterFinding IdempotencyCall.goTo createdRow updateRow
  IdempotencyCall.keyId PublishCall.attempt publishAttempt PublishCall.goTo PublicationAttempt.result
  fetchMockPublishListing PublishCall.replayAttempt

variable (input : PublishInput) (prepared : Prepared) (attempts : List PublicationAttempt)
  {allowed : List PublicationAttempt → Bool}

/-- The attempt that a call reserves under a key, once it has another status. -/
def endedAttempt (prepared : Prepared) (keyId : String) (status : AttemptStatus) (listing : Option PublishedListing)
    (errorMessage : Option String) : PublicationAttempt where
  marketplace := prepared.marketplace
  marketplaceAccountId := some prepared.marketplaceAccountId
  idempotencyKeyId := some keyId
  status := status
  blockedReason := none
  errorMessage := errorMessage
  externalListingId := listing.map (·.externalListingId)
  externalListingUrl := listing.map (·.externalListingUrl)

/-- The call alone, when the dispatch is allowed at the end of these attempts or not. -/
def aloneFrom (hashObject : String → String) (input : PublishInput) (prepared : Prepared)
    (allowed : List PublicationAttempt → Bool) (s : PublicationState) : PublicationState × PublishCall :=
  publishAlone hashObject
    (fun attempts => publishReply input none prepared.externalListingId (allowed attempts)) 8 s (.begin prepared .inside)

/-- The row of the key when it has another status. -/
def endedRow (hashObject : String → String) (prepared : Prepared) (id : String) (status : IdempotencyStatus)
    (response : Option PublishedListing) (now : Int) : IdempotencyRow PublishedListing where
  id := id
  marketplaceAccountId := prepared.marketplaceAccountId
  operationType := "PUBLISH_LISTING"
  requestHash := hashObject prepared.externalListingId
  status := status
  responseSnapshot := response
  completedAt := some now

variable {r : IdempotencyRow PublishedListing} {row : Option (IdempotencyRow PublishedListing)}

/-- The row is for the call. -/
def IdempotencyRow.IsFor (r : IdempotencyRow PublishedListing) (hashObject : String → String) (prepared : Prepared) :
    Prop :=
  r.marketplaceAccountId = prepared.marketplaceAccountId ∧ r.operationType = "PUBLISH_LISTING"
    ∧ r.requestHash = hashObject prepared.externalListingId

/-- When the key has no row, or one that has failed, the call executes. -/
theorem executed_allowed (hrow : ∀ r, row = some r → r.IsFor hashObject prepared ∧ r.status = .FAILED)
    (hallowed : ∀ added, allowed (attempts ++ added) = true) :
    (∃ id, (aloneFrom hashObject input prepared allowed ⟨row, attempts⟩).1
        = ⟨some (endedRow hashObject prepared id .SUCCEEDED
            (some (fetchMockPublishListing prepared.externalListingId)) input.dispatchedAt),
          attempts ++ [endedAttempt prepared id .PUBLISHED
            (some (fetchMockPublishListing prepared.externalListingId)) none]⟩)
      ∧ ∃ result, (aloneFrom hashObject input prepared allowed ⟨row, attempts⟩).2.point = .returned result
        ∧ result.status = .PUBLISHED := by
  cases row with
  | none =>
    refine ⟨⟨input.rowId, ?_⟩, ?_⟩
    · simp [aloneFrom, hallowed, endedRow, endedAttempt]
    · simp [aloneFrom, hallowed]
  | some r =>
    obtain ⟨⟨haccount, htype, hhash⟩, hstatus⟩ := hrow r rfl
    refine ⟨⟨r.id, ?_⟩, ?_⟩
    · simp [aloneFrom, hallowed, endedRow, endedAttempt, haccount, htype, hhash, hstatus]
    · simp [aloneFrom, hallowed, haccount, htype, hhash, hstatus]

theorem executed_refused (hrow : ∀ r, row = some r → r.IsFor hashObject prepared ∧ r.status = .FAILED)
    (hallowed : ∀ added, allowed (attempts ++ added) = false) :
    (∃ id response, (aloneFrom hashObject input prepared allowed ⟨row, attempts⟩).1
        = ⟨some (endedRow hashObject prepared id .FAILED response input.dispatchedAt),
          attempts ++ [endedAttempt prepared id .FAILED none (some publicationFailed)]⟩)
      ∧ (aloneFrom hashObject input prepared allowed ⟨row, attempts⟩).2.point
        = .returned (failedResult attempts.length) := by
  cases row with
  | none =>
    refine ⟨⟨input.rowId, none, ?_⟩, ?_⟩
    · simp [aloneFrom, hallowed, endedRow, endedAttempt]
    · simp [aloneFrom, hallowed]
  | some r =>
    obtain ⟨⟨haccount, htype, hhash⟩, hstatus⟩ := hrow r rfl
    refine ⟨⟨r.id, r.responseSnapshot, ?_⟩, ?_⟩
    · simp [aloneFrom, hallowed, endedRow, endedAttempt, haccount, htype, hhash, hstatus]
    · simp [aloneFrom, hallowed, haccount, htype, hhash, hstatus]

theorem replayed_refused (hfor : r.IsFor hashObject prepared) (hstatus : r.status = .SUCCEEDED)
    (hallowed : allowed attempts = false) :
    (aloneFrom hashObject input prepared allowed ⟨some r, attempts⟩).1 = ⟨some r, attempts⟩
      ∧ (aloneFrom hashObject input prepared allowed ⟨some r, attempts⟩).2.point = .thrown := by
  obtain ⟨haccount, htype, hhash⟩ := hfor
  constructor
  · simp [aloneFrom, hallowed, haccount, htype, hhash, hstatus]
  · simp [aloneFrom, hallowed, haccount, htype, hhash, hstatus]

/-- A replay finds an attempt that is published under the key, when there is one. -/
theorem findAttempt_of_mem (wanted : PublicationAttempt → Bool) (pick : Nat)
    (ha : a ∈ attempts) (hwanted : wanted a = true) :
    ∃ id b, findAttempt attempts wanted pick = some id ∧ attempts[id]? = some b ∧ wanted b = true := by
  unfold findAttempt
  by_cases hpick : (attempts[pick]?).any wanted = true
  · rw [if_pos hpick]
    cases hb : attempts[pick]? with
    | none =>
      rw [hb] at hpick
      cases hpick
    | some b =>
      rw [hb] at hpick
      exact ⟨pick, b, rfl, hb, hpick⟩
  · rw [if_neg hpick]
    cases hfind : attempts.findIdx? wanted with
    | none =>
      rw [List.findIdx?_eq_none_iff] at hfind
      rw [hfind a ha] at hwanted
      cases hwanted
    | some id =>
      obtain ⟨hbound, hwanted, -⟩ := List.findIdx?_eq_some_iff_getElem.mp hfind
      exact ⟨id, attempts[id], rfl, List.getElem?_eq_getElem hbound, hwanted⟩

theorem replayed_allowed (hfor : r.IsFor hashObject prepared) (hstatus : r.status = .SUCCEEDED)
    (hallowed : allowed attempts = true)
    (hpublished : ∃ a ∈ attempts, a.idempotencyKeyId = some r.id ∧ a.status = .PUBLISHED
      ∧ a.marketplaceAccountId = some prepared.marketplaceAccountId ∧ a.marketplace = prepared.marketplace) :
    (∃ added, (aloneFrom hashObject input prepared allowed ⟨some r, attempts⟩).1 = ⟨some r, attempts ++ [added]⟩
        ∧ added.status = .IDEMPOTENT_REPLAY)
      ∧ ∃ result, (aloneFrom hashObject input prepared allowed ⟨some r, attempts⟩).2.point = .returned result
        ∧ result.status = .PUBLISHED := by
  obtain ⟨haccount, htype, hhash⟩ := hfor
  obtain ⟨a, ha, hwanted⟩ := hpublished
  obtain ⟨id, b, hfound, hat, hb⟩ := findAttempt_of_mem attempts (fun a =>
    decide (a.idempotencyKeyId = some r.id ∧ a.status = .PUBLISHED
      ∧ a.marketplaceAccountId = some prepared.marketplaceAccountId ∧ a.marketplace = prepared.marketplace))
    input.pickAttempt ha (by rw [decide_eq_true_eq]; exact hwanted)
  rw [decide_eq_true_eq] at hb
  simp only [Bool.decide_and] at hfound
  constructor
  · simp [aloneFrom, hallowed, haccount, htype, hhash, hstatus, PublicationAttempt.replays, hfound, hat]
  · simp [aloneFrom, hallowed, haccount, htype, hhash, hstatus, PublicationAttempt.replays, hfound, hat, hb.2.1]

end Alone

theorem PublishedUnder.append {keyId : String}
    (h : PublishedUnder account keyId attempts) (added : List PublicationAttempt) :
    PublishedUnder account keyId (attempts ++ added) := by
  obtain ⟨a, ha, hpublished⟩ := h
  exact ⟨a, List.mem_append_left _ ha, hpublished⟩

/-- What a call on an account has read of the attempt that is ready. -/
def MarketplaceAccount.prepared (account : MarketplaceAccount) (externalListingId : String) : Prepared :=
  ⟨account.marketplace, account.id, externalListingId⟩

section Ended

variable (hdrafted : drafted externalListingId) (id : String) (response : Option PublishedListing) (now : Int)
  (attempts : List PublicationAttempt)

include hdrafted

theorem rowKept_failed : RowKept hashObject account drafted
    ⟨some (endedRow hashObject (account.prepared externalListingId) id .FAILED response now), attempts⟩ := by
  intro r hr
  cases hr
  exact ⟨rfl, rfl, ⟨externalListingId, hdrafted, rfl⟩, .inl rfl⟩

theorem rowKept_succeeded (listing : Option PublishedListing) (errorMessage : Option String) :
    RowKept hashObject account drafted
      ⟨some (endedRow hashObject (account.prepared externalListingId) id .SUCCEEDED response now),
        attempts ++ [endedAttempt (account.prepared externalListingId) id .PUBLISHED listing errorMessage]⟩ := by
  intro r hr
  cases hr
  refine ⟨rfl, rfl, ⟨externalListingId, hdrafted, rfl⟩, .inr ⟨rfl, ?_⟩⟩
  exact ⟨_, List.mem_append_right _ (List.mem_singleton_self _), rfl, rfl, rfl, rfl⟩

end Ended

theorem added_one {added : PublicationAttempt}
    (h : added.status ≠ .READY_FOR_PUBLISH) :
    ∃ more, attempts ++ [added] = attempts ++ more ∧ ∀ a ∈ more, a.status ≠ .READY_FOR_PUBLISH := by
  refine ⟨[added], rfl, fun a ha => ?_⟩
  rw [List.mem_singleton.mp ha]
  exact h

theorem failed_ne (id : Nat) :
    ¬∃ result, PublishPoint.returned (failedResult id) = .returned result ∧ result.status = .PUBLISHED := by
  rintro ⟨result, hresult, hpublished⟩
  cases hresult
  cases hpublished

/-- **One call of `publishListing`** publishes exactly when its dispatch is allowed. -/
theorem publishesAlone (input : PublishInput)
    {s : PublicationState} {allowed : List PublicationAttempt → Bool} {b : Bool}
    (hallowed : ∀ added, allowed (s.attempts ++ added) = b) (hdrafted : drafted externalListingId)
    (hsame : ∀ id, drafted id → id = externalListingId) (hrow : RowKept hashObject account drafted s) :
    PublishesAlone hashObject account drafted b s
      (aloneFrom hashObject input (account.prepared externalListingId) allowed s).1
      (aloneFrom hashObject input (account.prepared externalListingId) allowed s).2 := by
  obtain ⟨row, attempts⟩ := s
  have hcases : (∀ r, row = some r → r.IsFor hashObject (account.prepared externalListingId) ∧ r.status = .FAILED)
      ∨ ∃ r, row = some r ∧ r.IsFor hashObject (account.prepared externalListingId) ∧ r.status = .SUCCEEDED
        ∧ PublishedUnder account r.id attempts := by
    cases row with
    | none => exact .inl fun r hr => (nomatch hr)
    | some r =>
      obtain ⟨haccount, htype, ⟨id, hid, hhash⟩, hstatus⟩ := hrow r rfl
      rw [hsame id hid] at hhash
      rcases hstatus with hfailed | hpublished
      · refine .inl fun r' hr' => ?_
        cases hr'
        exact ⟨⟨haccount, htype, hhash⟩, hfailed⟩
      · exact .inr ⟨r, rfl, ⟨haccount, htype, hhash⟩, hpublished⟩
  rcases hcases with hfailed | ⟨r, rfl, hfor, hsucceeded, hpublished⟩
  · cases b with
    | true =>
      obtain ⟨⟨id, hstate⟩, hresult⟩ := executed_allowed input _ attempts hfailed hallowed
      refine ⟨?_, ?_, fun _ => rfl, fun _ => hresult⟩
      · rw [hstate]
        exact rowKept_succeeded hdrafted _ _ _ _ _ _
      · rw [hstate]
        exact added_one fun h => (nomatch h)
    | false =>
      obtain ⟨⟨id, response, hstate⟩, hpoint⟩ := executed_refused input _ attempts hfailed hallowed
      refine ⟨?_, ?_, fun h => ?_, fun h => (nomatch h)⟩
      · rw [hstate]
        exact rowKept_failed hdrafted _ _ _ _
      · rw [hstate]
        exact added_one fun h => (nomatch h)
      · rw [hpoint] at h
        exact absurd h (failed_ne _)
  · have hnow := hallowed []
    rw [List.append_nil] at hnow
    cases b with
    | true =>
      obtain ⟨⟨added, hstate, hreplay⟩, hresult⟩ :=
        replayed_allowed input _ attempts hfor hsucceeded hnow hpublished
      refine ⟨?_, ?_, fun _ => rfl, fun _ => hresult⟩
      · rw [hstate]
        intro r' hr'
        cases hr'
        obtain ⟨haccount, htype, hdraft, -⟩ := hrow r rfl
        exact ⟨haccount, htype, hdraft, .inr ⟨hsucceeded, hpublished.append _⟩⟩
      · rw [hstate]
        exact added_one fun h => by rw [hreplay] at h; cases h
    | false =>
      obtain ⟨hstate, hpoint⟩ := replayed_refused input _ attempts hfor hsucceeded hnow
      refine ⟨?_, ?_, fun h => ?_, fun h => (nomatch h)⟩
      · rw [hstate]
        exact hrow
      · rw [hstate]
        exact ⟨[], (List.append_nil _).symm, fun a ha => absurd ha List.not_mem_nil⟩
      · obtain ⟨result, hresult, -⟩ := h
        rw [hpoint] at hresult
        cases hresult

/-! ## The approval requests -/

/-- A decision approves. -/
def Approves (decision : ApprovalDecision) : Prop := (decisionToState decision.decision).isApproved = true

/-- A request is for the content, and so is every decision; an approved request has a decision that approves. -/
structure RequestKept (content : ListingContent) (tables : ApprovalTables) : Prop where
  kind : tables.request.kind = .PUBLICATION
  version : tables.request.listingVersionId = some content.version.id
  hash : tables.request.packageHash = content.packageHash
  decisions : ∀ d ∈ tables.decisions, d.approvedArtifactVersionId = content.version.id
    ∧ d.approvedPackageHash = content.packageHash ∧ d.expiresAt = tables.request.expiresAt
  approved : tables.request.state.isApproved = true → ∃ d ∈ tables.decisions, Approves d

theorem RequestKept.expire (h : RequestKept content tables) :
    RequestKept content tables.expire :=
  ⟨h.kind, h.version, h.hash, h.decisions, fun happroved => (nomatch happroved)⟩

theorem requestKept_new (input : RequestInput) : RequestKept content (newPublicationRequest content input) :=
  ⟨rfl, rfl, rfl, fun _ hd => absurd hd List.not_mem_nil, fun h => (nomatch h)⟩

/-- Among some decisions there is a latest one. -/
theorem exists_latest (decisions : List ApprovalDecision) (h : decisions ≠ []) :
    ∃ d ∈ decisions, ∀ other ∈ decisions, other.decidedAt ≤ d.decidedAt := by
  cases hlatest : decisions.argmax ApprovalDecision.decidedAt with
  | none => exact absurd (List.argmax_eq_none.mp hlatest) h
  | some d => exact ⟨d, List.argmax_mem hlatest, fun other hother => List.le_of_mem_argmax hother hlatest⟩

/-- A request with a decision that approves has a latest one, which is valid for the content until it expires. -/
theorem RequestKept.latestApproval {tables : ApprovalTables} (h : RequestKept content tables)
    (happroved : tables.request.state.isApproved = true) {now : Int} (hnow : now < tables.request.expiresAt) :
    ∃ d, latestApproval tables.decisions = some d ∧ isApprovalValidForExecution d.approvedArtifactVersionId
      d.approvedPackageHash d.expiresAt content.version.id content.packageHash now = none := by
  obtain ⟨first, hfirst, happroves⟩ := h.approved happroved
  have hmem : first ∈ tables.decisions.filter fun d => (decisionToState d.decision).isApproved :=
    List.mem_filter.mpr ⟨hfirst, happroves⟩
  obtain ⟨latest, hlatest, hall⟩ := exists_latest _ (List.ne_nil_of_mem hmem)
  have hall' : ((tables.decisions.filter fun d => (decisionToState d.decision).isApproved).all fun other =>
      decide (other.decidedAt ≤ latest.decidedAt)) = true := by
    rw [List.all_eq_true]
    exact fun other hother => decide_eq_true (hall other hother)
  cases hfind : Agents.latestApproval tables.decisions with
  | none =>
    have hnone := List.find?_eq_none.mp hfind latest hlatest
    exact absurd hall' hnone
  | some d =>
    obtain ⟨hversion, hhash, hexpires⟩ := h.decisions d (List.mem_filter.mp (List.mem_of_find?_eq_some hfind)).1
    refine ⟨d, rfl, ?_⟩
    unfold isApprovalValidForExecution
    rw [hversion, hhash, hexpires, if_neg (fun h => h rfl), if_neg (fun h => h rfl), if_neg (by omega)]

/-- What is known of a call of `decideApprovalRequest` that has read the request. -/
def DecideKnown (content : ListingContent) (call : DecideCall) (tables : ApprovalTables) : Prop :=
  match call.point with
  | .reading request => request.expiresAt = tables.request.expiresAt
  | .deciding request current _ => request.expiresAt = tables.request.expiresAt ∧ current = content.current
  | _ => True

/-- A decision that is taken on the content keeps what is known of the request. -/
theorem RequestKept.takeDecision {params : DecideApprovalParams} {decision : ApprovalDecision}
    {tables' : ApprovalTables} (h : RequestKept content tables) (hparams : decision.decision = params.decision)
    (hversion : decision.approvedArtifactVersionId = content.version.id)
    (hhash : decision.approvedPackageHash = content.packageHash)
    (hexpires : decision.expiresAt = tables.request.expiresAt)
    (htaken : takeDecision params decision tables = some tables') : RequestKept content tables' := by
  unfold Agents.takeDecision at htaken
  split at htaken
  next =>
    rw [Option.some.injEq] at htaken
    subst htaken
    have hrequest : ∀ {request : ApprovalRequest}, request.kind = tables.request.kind →
        request.listingVersionId = tables.request.listingVersionId → request.packageHash = tables.request.packageHash →
        request.expiresAt = tables.request.expiresAt → request.state = decisionToState params.decision →
        ∀ revisions, RequestKept content ⟨request, tables.decisions ++ [decision], revisions⟩ := by
      intro request hkind hlisting hpackage hexpiry hstate revisions
      refine ⟨hkind.trans h.kind, hlisting.trans h.version, hpackage.trans h.hash, fun d hd => ?_, fun happroved => ?_⟩
      · rcases List.mem_append.mp hd with hold | hnew
        · rw [hexpiry]
          exact h.decisions d hold
        · rw [List.mem_singleton.mp hnew, hexpiry]
          exact ⟨hversion, hhash, hexpires⟩
      · refine ⟨decision, List.mem_append_right _ (List.mem_singleton_self _), ?_⟩
        unfold Approves
        rw [hparams, ← hstate]
        exact happroved
    by_cases hrevoke : params.decision = .REVOKE
    · simp only [hrevoke, if_true]
      refine hrequest ?_ ?_ ?_ ?_ ?_ _
      any_goals rfl
      rw [hrevoke]
    · simp only [hrevoke, if_false]
      refine hrequest ?_ ?_ ?_ ?_ ?_ _
      all_goals rfl
  next => cases htaken

/-- A decision on the current content. -/
theorem RequestKept.decide {reply : ApprovalReply} {call : DecideCall} {tables : ApprovalTables}
    (h : RequestKept content tables) (hknown : DecideKnown content call tables)
    (hreply : ∀ current now decidedAt, reply = .reads current now decidedAt → current = .ok content.current) :
    RequestKept content (resumeDecide auditSignature reply call tables).1
      ∧ DecideKnown content (resumeDecide auditSignature reply call tables).2
        (resumeDecide auditSignature reply call tables).1 := by
  have hbefore := hknown
  unfold DecideKnown at hknown
  fun_cases resumeDecide auditSignature reply call tables
  case case1 => exact ⟨h, rfl⟩
  case case4 hpoint _ _ _ _ _ _ =>
    rw [hpoint] at hknown
    exact ⟨h, hknown, Except.ok.inj (hreply _ _ _ rfl)⟩
  case case6 hpoint _ _ _ _ =>
    rw [hpoint] at hknown
    exact ⟨h, hknown, Except.ok.inj (hreply _ _ _ rfl)⟩
  case case9 => exact ⟨h.expire, trivial⟩
  case case10 request current decidedAt hpoint decision tables' htaken =>
    rw [hpoint] at hknown
    obtain ⟨hexpires, rfl⟩ := hknown
    exact ⟨h.takeDecision rfl rfl rfl hexpires htaken, trivial⟩
  case case13 => exact ⟨h, hbefore⟩
  case case14 => exact ⟨h, hbefore⟩
  case case16 => exact ⟨h, hbefore⟩
  all_goals exact ⟨h, trivial⟩

theorem RequestKept.decideAlone {params : DecideApprovalParams} {now decidedAt : Int} {tables : ApprovalTables}
    (h : RequestKept content tables) :
    RequestKept content (decideAlone auditSignature content params now decidedAt tables).1 := by
  have hstart : DecideKnown content ⟨params, .finding⟩ tables := trivial
  have step := fun reply call tables h hknown hreply =>
    @RequestKept.decide auditSignature content reply call tables h hknown hreply
  unfold Marketplace.decideAlone
  simp only [List.foldl_cons, List.foldl_nil]
  obtain ⟨h, hknown⟩ := step .completes _ _ h hstart (fun _ _ _ hreply => (nomatch hreply))
  obtain ⟨h, hknown⟩ := step (.reads (.ok content.current) now decidedAt) _ _ h hknown
    (fun _ _ _ hreply => by cases hreply; rfl)
  obtain ⟨h, hknown⟩ := step .completes _ _ h hknown (fun _ _ _ hreply => (nomatch hreply))
  exact (step .completes _ _ h hknown (fun _ _ _ hreply => (nomatch hreply))).1

/-- The check of an approval that is approved, and has not expired. -/
theorem checkAlone_valid (h : RequestKept content tables)
    (happroved : tables.request.state.isApproved = true) {now : Int} (hnow : now < tables.request.expiresAt) :
    checkAlone content now tables = (tables, ⟨content.version.id, .valid⟩) := by
  obtain ⟨d, hlatest, hvalid⟩ := h.latestApproval happroved hnow
  unfold checkAlone
  simp [resumePublishCheck, PublishCheck.goTo, ListingContent.current, h.kind, h.version, happroved, hlatest, hvalid]

/-- The check of an approval may expire it, and does nothing else. -/
theorem RequestKept.checkAlone {tables : ApprovalTables} (h : RequestKept content tables) (now : Int) :
    RequestKept content (checkAlone content now tables).1 := by
  have step : ∀ reply call tables, RequestKept content tables →
      RequestKept content (resumePublishCheck reply call tables).1 := by
    intro reply call tables h
    fun_cases resumePublishCheck reply call tables
    case case9 => exact h.expire
    all_goals exact h
  unfold Marketplace.checkAlone
  simp only [List.foldl_cons, List.foldl_nil]
  exact step _ _ _ (step _ _ _ (step _ _ _ (step _ _ _ h)))

/-! ## Preparations -/

/-- The key of the draft. -/
def ListingContent.draftKey (content : ListingContent) : String := s!"draft:{content.version.id}"

/-- The draft has this id. -/
def Drafted (content : ListingContent) (s : AccountState) (id : String) : Prop :=
  ∃ r, s.drafts content.draftKey = some r ∧ r.status = .SUCCEEDED ∧ r.responseSnapshot = some id ∧ id ≠ ""

theorem Drafted.unique {id id' : String} (h : Drafted content s id) (h' : Drafted content s id') :
    id = id' := by
  obtain ⟨r, hr, -, hid, -⟩ := h
  obtain ⟨r', hr', -, hid', -⟩ := h'
  rw [hr, Option.some.injEq] at hr'
  rw [← hr', hid, Option.some.injEq] at hid'
  exact hid'

/-- What is known of a preparation, by itself, where it waits. -/
def AloneAt (hashPayload : DraftPayload → String) (content : ListingContent) (s : AccountState) (point : PreparePoint) :
    Prop :=
  match point with
  | .drafting idempotency => Kept hashPayload some (s.drafts content.draftKey) idempotency
      ∧ (∀ id, idempotency.completed = some id → id ≠ "") ∧ ∀ result, idempotency.point ≠ .returned result
  | .uploading id key _ rest => Drafted content s id ∧ key ≠ content.draftKey ∧ ∀ u ∈ rest, u.key ≠ content.draftKey
  | .preparing id => Drafted content s id
  | .refusing status _ => status ≠ .READY_FOR_PUBLISH
  | _ => True

/-- What is known of a preparation that runs alone since the state `s₀`. -/
structure PrepareAlone (hashPayload : DraftPayload → String) (content : ListingContent) (s₀ s : AccountState)
    (call : PrepareCall) : Prop where
  account : s.account = s₀.account
  publications : s.publications = s₀.publications
  version : call.version = content.version
  draft : ∀ r, s.drafts content.draftKey = some r → r.status = .SUCCEEDED →
    ∃ id, r.responseSnapshot = some id ∧ id ≠ ""
  drafted : ∀ id, Drafted content s₀ id → Drafted content s id
  published : ∀ keyId, PublishedUnder s₀.account keyId (s₀.attemptsOf content.version.id) →
    PublishedUnder s₀.account keyId (s.attemptsOf content.version.id)
  ready : ReadyKept s₀.account (Drafted content s) (s.attemptsOf content.version.id)
  own : ∀ id, call.reserved = some id → ∃ a, (s.attemptsOf content.version.id)[id]? = some a
    ∧ a.idempotencyKeyId = none ∧ a.marketplaceAccountId = some s₀.account.id ∧ a.marketplace = s₀.account.marketplace
  point : AloneAt hashPayload content s call.point

theorem ReadyKept.mono {account : MarketplaceAccount} {drafted drafted' : String → Prop}
    {attempts : List PublicationAttempt} (h : ReadyKept account drafted attempts)
    (himp : ∀ id, drafted id → drafted' id) : ReadyKept account drafted' attempts := by
  intro a ha hready
  obtain ⟨hmarketplace, haccount, id, hid, hdrafted⟩ := h a ha hready
  exact ⟨hmarketplace, haccount, id, hid, himp id hdrafted⟩

theorem ReadyKept.append
    {added : List PublicationAttempt} (h : ReadyKept account drafted attempts)
    (hadded : ∀ a ∈ added, a.status ≠ .READY_FOR_PUBLISH) : ReadyKept account drafted (attempts ++ added) := by
  intro a ha hready
  rcases List.mem_append.mp ha with hold | hnew
  · exact h a hold hready
  · exact absurd hready (hadded a hnew)

theorem ReadyKept.set
    (h : ReadyKept account drafted attempts) (id : Nat) {a' : PublicationAttempt}
    (ha' : a'.status = .READY_FOR_PUBLISH → a'.marketplace = account.marketplace
      ∧ a'.marketplaceAccountId = some account.id ∧ ∃ id, a'.externalListingId = some id ∧ drafted id) :
    ReadyKept account drafted (attempts.set id a') := by
  intro a ha hready
  rcases List.mem_or_eq_of_mem_set ha with hold | rfl
  · exact h a hold hready
  · exact ha' hready

/-- An attempt without a key may be changed. -/
theorem PublishedUnder.set {keyId : String}
    (h : PublishedUnder account keyId attempts) {id : Nat} (hat : attempts[id]? = some a)
    (hkey : a.idempotencyKeyId = none) (a' : PublicationAttempt) :
    PublishedUnder account keyId (attempts.set id a') := by
  obtain ⟨b, hb, hbkey, hpublished⟩ := h
  obtain ⟨k, hk⟩ := List.mem_iff_getElem?.mp hb
  have hne : id ≠ k := by
    rintro rfl
    rw [hat, Option.some.injEq] at hk
    rw [← hk, hkey] at hbkey
    cases hbkey
  refine ⟨b, List.mem_of_getElem? (i := k) ?_, hbkey, hpublished⟩
  rw [List.getElem?_set_ne hne]
  exact hk

/-- A preparation goes on to a point of which nothing is to be known. -/
theorem PrepareAlone.goTo (h : PrepareAlone hashPayload content s₀ s call)
    (hpoint : AloneAt hashPayload content s point) :
    PrepareAlone hashPayload content s₀ s (call.goTo point) :=
  { h with point := hpoint }

/-- A preparation creates an attempt that is not ready. -/
theorem PrepareAlone.create {call' : PrepareCall}
    (h : PrepareAlone hashPayload content s₀ s call) (attemptedAt : Int)
    (hstatus : a.status ≠ .READY_FOR_PUBLISH) (hversion : call'.version = content.version)
    (hown : ∀ id, call'.reserved = some id → ∃ b, (s.attemptsOf content.version.id ++ [a])[id]? = some b
      ∧ b.idempotencyKeyId = none ∧ b.marketplaceAccountId = some s₀.account.id
      ∧ b.marketplace = s₀.account.marketplace)
    (hpoint : AloneAt hashPayload content s call'.point) :
    PrepareAlone hashPayload content s₀ (s.create content.version.id attemptedAt a) call' := by
  have hattempts : (s.create content.version.id attemptedAt a).attemptsOf content.version.id
      = s.attemptsOf content.version.id ++ [a] := by
    rw [@attemptsOf_of_writeBack s (s.create content.version.id attemptedAt a) _ _ _ rfl (by simp), if_pos rfl]
  refine ⟨h.account, h.publications, hversion, h.draft, h.drafted, fun keyId hpublished => ?_, ?_, ?_, hpoint⟩
  · rw [hattempts]
    exact (h.published keyId hpublished).append [a]
  · rw [hattempts]
    refine h.ready.append fun b hb => ?_
    rw [List.mem_singleton.mp hb]
    exact hstatus
  · rw [hattempts]
    exact hown

/-- A preparation updates its attempt. -/
theorem PrepareAlone.update {s' : AccountState}
    (h : PrepareAlone hashPayload content s₀ s call) {change : PublicationAttempt → PublicationAttempt}
    {a' : PublicationAttempt} (hupdated : s.update call.version.id call.reserved change = some (s', a'))
    (hchange : ∀ a, (change a).idempotencyKeyId = a.idempotencyKeyId
      ∧ (change a).marketplaceAccountId = a.marketplaceAccountId ∧ (change a).marketplace = a.marketplace)
    (hready : ∀ a, (change a).status = .READY_FOR_PUBLISH →
      ∃ id, (change a).externalListingId = some id ∧ Drafted content s id)
    (hpoint : AloneAt hashPayload content s point) :
    PrepareAlone hashPayload content s₀ s' (call.goTo point) := by
  obtain ⟨id, a, hid, hat, -, rfl⟩ := update_eq_some hupdated
  rw [h.version] at hat ⊢
  obtain ⟨b, hb, hkey, haccount, hmarketplace⟩ := h.own id hid
  rw [hat, Option.some.injEq] at hb
  subst hb
  obtain ⟨hkey', haccount', hmarketplace'⟩ := hchange a
  have hattempts : (s.withAttempts content.version.id 0
        ((s.attemptsOf content.version.id).set id (change a))).attemptsOf content.version.id
      = (s.attemptsOf content.version.id).set id (change a) := by
    rw [@attemptsOf_of_writeBack s (s.withAttempts content.version.id 0 _) _ _ _ rfl (by simp), if_pos rfl]
  refine ⟨h.account, h.publications, h.version, h.draft, h.drafted, fun keyId hpublished => ?_, ?_, ?_, hpoint⟩
  · rw [hattempts]
    exact (h.published keyId hpublished).set hat hkey _
  · rw [hattempts]
    refine h.ready.set id fun hstatus => ⟨hmarketplace'.trans hmarketplace, haccount'.trans haccount, hready a hstatus⟩
  · intro id' hid'
    rw [show call.reserved = some id' from hid', Option.some.injEq] at hid
    subst hid
    rw [hattempts, List.getElem?_set_self (List.getElem?_eq_some_iff.mp hat).1]
    exact ⟨change a, rfl, hkey'.trans hkey, haccount'.trans haccount, hmarketplace'.trans hmarketplace⟩

/-- `resumeDraft` resumes the call of `withIdempotency`, or leaves everything. -/
theorem resumeDraft_eq (reply : AccountReply) (key : String) (denied : Bool) (idempotency : DraftIdempotency)
    (s : AccountState) :
    resumeDraft hashPayload reply key denied idempotency s = (s, idempotency, denied)
      ∨ ∃ reply' denied' resumed, resumed = resumeIdempotency hashPayload some reply' idempotency (s.drafts key)
        ∧ resumeDraft hashPayload reply key denied idempotency s
          = ({ s with drafts := Function.update s.drafts key resumed.1 }, resumed.2, denied')
        ∧ ∀ id accepted, reply' = .executes id accepted → ∃ url, reply = .executes id url := by
  fun_cases resumeDraft hashPayload reply key denied idempotency s
  case case1 id url _ =>
    refine .inr ⟨.executes id true, denied, _, rfl, rfl, fun id' accepted h => ?_⟩
    cases h
    exact ⟨url, rfl⟩
  case case3 => exact .inl rfl
  case case7 => exact .inl rfl
  all_goals exact .inr ⟨_, _, _, rfl, rfl, fun _ _ h => by cases h⟩

/-- A preparation that goes on inside `withIdempotency` of another key. -/
theorem PrepareAlone.upload (h : PrepareAlone hashPayload content s₀ s call)
    {key : String} (hkey : key ≠ content.draftKey) (row : Option (IdempotencyRow String)) (denied : Bool)
    (hpoint : AloneAt hashPayload content { s with drafts := Function.update s.drafts key row } point) :
    PrepareAlone hashPayload content s₀ { s with drafts := Function.update s.drafts key row }
      { call with denied, point } := by
  have hsame : Function.update s.drafts key row content.draftKey = s.drafts content.draftKey :=
    Function.update_of_ne (Ne.symm hkey) row s.drafts
  have hdrafted : ∀ id, Drafted content s id → Drafted content { s with drafts := Function.update s.drafts key row } id := by
    rintro id ⟨r, hr, hdraft⟩
    exact ⟨r, hsame.trans hr, hdraft⟩
  refine ⟨h.account, h.publications, h.version, fun r hr => h.draft r (hsame.symm.trans hr),
    fun id hid => hdrafted id (h.drafted id hid), h.published, h.ready.mono hdrafted, h.own, hpoint⟩

theorem head_toList {first : Char} {rest : List Char} (prefixed : String) (text : String)
    (h : prefixed.toList = first :: rest) : (prefixed ++ text).toList.head? = some first := by
  rw [String.toList_append, h]
  rfl

/-- The keys of the uploads are not the key of the draft. -/
theorem uploads_ne (content : ListingContent) (externalListingId : String) :
    ∀ u ∈ content.version.uploads externalListingId, u.key ≠ content.draftKey := by
  intro u hu hkey
  have hdraft : content.draftKey.toList.head? = some 'd' :=
    head_toList "draft:" content.version.id (rfl : "draft:".toList = 'd' :: "raft:".toList)
  rw [← hkey] at hdraft
  rcases List.mem_append.mp hu with himage | hfile
  · obtain ⟨⟨id, index⟩, -, rfl⟩ := List.mem_map.mp himage
    have himage : some 'i' = some 'd' :=
      (head_toList "image:" id (rfl : "image:".toList = 'i' :: "mage:".toList)).symm.trans hdraft
    cases himage
  · obtain ⟨⟨id, displayName⟩, -, rfl⟩ := List.mem_map.mp hfile
    have hfile : some 'f' = some 'd' :=
      (head_toList "file:" id (rfl : "file:".toList = 'f' :: "ile:".toList)).symm.trans hdraft
    cases hfile

theorem aloneAt_uploadNext {accountId : String} {uploads : List Upload}
    (hdrafted : Drafted content s externalListingId) (huploads : ∀ u ∈ uploads, u.key ≠ content.draftKey) :
    AloneAt hashPayload content s (uploadNext accountId externalListingId uploads) := by
  cases uploads with
  | nil => exact hdrafted
  | cons u rest =>
    exact ⟨hdrafted, huploads u List.mem_cons_self, fun v hv => huploads v (List.mem_cons_of_mem u hv)⟩

/-- A change of the row of the draft keeps that a success has an id. -/
theorem draft_of_resume {row : Option (IdempotencyRow String)}
    (hkept : Kept hashPayload some row idempotency) (hcompleted : ∀ id, idempotency.completed = some id → id ≠ "")
    (hdraft : ∀ r, row = some r → r.status = .SUCCEEDED → ∃ id, r.responseSnapshot = some id ∧ id ≠ "")
    (reply : IdempotencyReply String) :
    ∀ r, (resumeIdempotency hashPayload some reply idempotency row).1 = some r → r.status = .SUCCEEDED →
      ∃ id, r.responseSnapshot = some id ∧ id ≠ "" := by
  rcases change_of_resume hashPayload some reply idempotency row with hsame | hchange
  · rw [hsame]
    exact hdraft
  · generalize resumeIdempotency hashPayload some reply idempotency row = resumed at hchange ⊢
    obtain ⟨row', idempotency'⟩ := resumed
    intro r hr hsucceeded
    have hpoint := hkept.point
    unfold AtPoint at hpoint
    cases hchange with
    | cached r' result now hcaching hid =>
      cases hr
      rw [hcaching] at hpoint
      exact ⟨result, rfl, hcompleted result hpoint.1⟩
    | _ =>
      cases hr
      cases hsucceeded

/-- A change of the row of the draft keeps a success. -/
theorem extends_of_resume {row : Option (IdempotencyRow String)}
    (hkept : Kept hashPayload some row idempotency) (reply : IdempotencyReply String) :
    Extends row (resumeIdempotency hashPayload some reply idempotency row).1 := by
  rcases change_of_resume hashPayload some reply idempotency row with hsame | hchange
  · rw [hsame]
    exact .refl row
  · exact hchange.extends hkept

/-- What the call of `withIdempotency` for the draft comes to. -/
theorem PrepareAlone.draftStep
    (h : PrepareAlone hashPayload content s₀ s call)
    (hpoint : call.point = .drafting idempotency) {reply : IdempotencyReply String}
    (hreply : ∀ id accepted, reply = .executes id accepted → id ≠ "") (denied : Bool) (accountId : String)
    {resumed : Option (IdempotencyRow String) × DraftIdempotency}
    (hresumed : resumed = resumeIdempotency hashPayload some reply idempotency (s.drafts content.draftKey)) :
    PrepareAlone hashPayload content s₀ { s with drafts := Function.update s.drafts content.draftKey resumed.1 }
      { call with
        denied
        point := afterDraft resumed.2 denied (.drafting resumed.2) fun externalListingId =>
          uploadNext accountId externalListingId (content.version.uploads externalListingId) } := by
  have hat := h.point
  rw [hpoint] at hat
  obtain ⟨hkept, hcompleted, hreturned⟩ := hat
  have hkept' : Kept hashPayload some resumed.1 resumed.2 := hresumed ▸ hkept.resume reply
  have hdraft : ∀ r, resumed.1 = some r → r.status = .SUCCEEDED → ∃ id, r.responseSnapshot = some id ∧ id ≠ "" :=
    hresumed ▸ draft_of_resume hkept hcompleted h.draft reply
  have hextends : Extends (s.drafts content.draftKey) resumed.1 := hresumed ▸ extends_of_resume hkept reply
  have hcompleted' : ∀ id, resumed.2.completed = some id → id ≠ "" := by
    intro id hid
    rw [hresumed] at hid
    rcases completed_of_resume reply idempotency _ hid with hbefore | ⟨accepted, hexecutes⟩
    · exact hcompleted id hbefore
    · exact hreply id accepted hexecutes
  have hrow : Function.update s.drafts content.draftKey resumed.1 content.draftKey = resumed.1 :=
    Function.update_self content.draftKey resumed.1 s.drafts
  have hdrafted : ∀ id, Drafted content s id →
      Drafted content { s with drafts := Function.update s.drafts content.draftKey resumed.1 } id := by
    rintro id ⟨r, hr, hsucceeded, hresponse, hne⟩
    obtain ⟨r', hr', -, -, hsame⟩ := hextends r hr
    exact ⟨r', hrow.trans hr', by rw [hsame hsucceeded]; exact hsucceeded, by rw [hsame hsucceeded]; exact hresponse, hne⟩
  -- the row of a draft that is returned
  have hnext : ∀ id r, resumed.1 = some r → r.status = .SUCCEEDED → r.responseSnapshot = some id →
      Drafted content { s with drafts := Function.update s.drafts content.draftKey resumed.1 } id := by
    intro id r hr hsucceeded hresponse
    obtain ⟨id', hid', hne⟩ := hdraft r hr hsucceeded
    rw [hresponse, Option.some.injEq] at hid'
    exact ⟨r, hrow.trans hr, hsucceeded, hresponse, hid' ▸ hne⟩
  refine ⟨h.account, h.publications, h.version, fun r hr => hdraft r (hrow.symm.trans hr),
    fun id hid => hdrafted id (h.drafted id hid), h.published, h.ready.mono hdrafted, h.own, ?_⟩
  have hpointKept := hkept'.point
  unfold AtPoint at hpointKept
  unfold afterDraft
  cases hended : resumed.2.point with
  | returned result =>
    rw [hended] at hpointKept
    cases result with
    | executed id =>
      rw [hresumed] at hended
      rcases executed_resume reply idempotency _ hended with ⟨r, hr, hsucceeded, hresponse⟩ | hbefore
      · exact aloneAt_uploadNext (hnext id r (hresumed ▸ hr) hsucceeded hresponse) (uploads_ne content id)
      · exact absurd hbefore (hreturned _)
    | replayed response =>
      obtain ⟨r, hr, hsucceeded, hresponse⟩ := hpointKept
      cases response with
      | none => trivial
      | some id => exact aloneAt_uploadNext (hnext id r hr hsucceeded hresponse) (uploads_ne content id)
  | thrown error => cases denied <;> trivial
  | _ =>
    refine ⟨?_, hcompleted', fun result h => ?_⟩
    · change Kept hashPayload some (Function.update s.drafts content.draftKey resumed.1 content.draftKey) resumed.2
      rw [hrow]
      exact hkept'
    · rw [hended] at h
      cases h

theorem aloneAt_afterDraft (denied : Bool)
    {waiting : PreparePoint} {next : String → PreparePoint} (hwaiting : AloneAt hashPayload content s waiting)
    (hnext : ∀ id, AloneAt hashPayload content s (next id)) :
    AloneAt hashPayload content s (afterDraft idempotency denied waiting next) := by
  unfold afterDraft
  split
  · exact hnext _
  · exact hnext _
  · trivial
  · cases denied <;> trivial
  · exact hwaiting

theorem reservation_status (s : AccountState) (now : Int) : (s.reservation now).status ≠ .READY_FOR_PUBLISH := by
  intro h
  unfold AccountState.reservation at h
  cases hcheck : s.checkFailClosed now with
  | none =>
    rw [hcheck] at h
    cases h
  | some reason =>
    rw [hcheck] at h
    cases hdisabled : s.account.disabled <;> simp [newAttempt, hdisabled] at h

/-- The attempt that is reserved is one of the account, without a key. -/
theorem reservation_own (s : AccountState) (now : Int) : (s.reservation now).idempotencyKeyId = none
    ∧ (s.reservation now).marketplaceAccountId = some s.account.id
    ∧ (s.reservation now).marketplace = s.account.marketplace := by
  unfold AccountState.reservation
  cases s.checkFailClosed now <;> exact ⟨rfl, rfl, rfl⟩

/-- The draft of a preparation that goes on. -/
theorem PrepareAlone.drafting {s' : AccountState}
    (h : PrepareAlone hashPayload content s₀ s call)
    {idempotency' : DraftIdempotency} (hpoint : call.point = .drafting idempotency)
    (hreply : ∀ id url, reply = .executes id url → id ≠ "") (accountId : String) {denied' : Bool}
    (hresumed : resumeDraft hashPayload reply content.draftKey call.denied idempotency s = (s', idempotency', denied')) :
    PrepareAlone hashPayload content s₀ s'
      { call with
        denied := denied'
        point := afterDraft idempotency' denied' (.drafting idempotency') fun externalListingId =>
          uploadNext accountId externalListingId (content.version.uploads externalListingId) } := by
  rcases resumeDraft_eq reply content.draftKey call.denied idempotency s with
    hsame | ⟨reply', denied, resumed, hstep, hgo, hexecutes⟩
  · rw [hsame] at hresumed
    cases hresumed
    have hat := h.point
    rw [hpoint] at hat
    refine ⟨h.account, h.publications, h.version, h.draft, h.drafted, h.published, h.ready, h.own, ?_⟩
    unfold afterDraft
    cases hended : idempotency.point with
    | returned result => exact absurd hended (hat.2.2 result)
    | thrown error => cases call.denied <;> trivial
    | _ => exact hat
  · rw [hgo] at hresumed
    cases hresumed
    refine h.draftStep hpoint ?_ denied' accountId hstep
    intro id accepted heq
    obtain ⟨url, hurl⟩ := hexecutes id accepted heq
    exact hreply id url hurl

/-- One step of a preparation that runs alone. -/
theorem PrepareAlone.step (h : PrepareAlone hashPayload content s₀ s call)
    (hreply : ∀ idempotency id url, call.point = .drafting idempotency → reply = .executes id url → id ≠ "") :
    PrepareAlone hashPayload content s₀ (resumePrepare hashPayload reply call s).1
      (resumePrepare hashPayload reply call s).2 := by
  have hat := h.point
  fun_cases resumePrepare hashPayload reply call s
  case case1 => exact h.goTo (by intro hready; cases hready)
  case case4 => exact h.goTo (by intro hready; cases hready)
  case case6 status reason _ _ _ attemptedAt _ hpoint attempt =>
    rw [hpoint] at hat
    rw [h.version]
    refine h.create attemptedAt hat h.version (fun id hid => ?_) trivial
    obtain ⟨a, ha, hown⟩ := h.own id hid
    exact ⟨a, by rw [List.getElem?_append_left (List.getElem?_eq_some_iff.mp ha).1, ha], hown⟩
  case case7 now attemptedAt _ _ attempt id s' _ =>
    have hown := reservation_own s now
    rw [h.account] at hown
    have hs' : s' = s.create content.version.id attemptedAt attempt := by rw [← h.version]
    rw [hs']
    refine h.create attemptedAt (reservation_status s now) h.version (fun id' hid => ⟨attempt, ?_, hown⟩) ?_
    · cases hid
      rw [← h.version]
      exact List.getElem?_concat_length
    · exact ⟨kept_begin _ _, fun id hid => (by cases hid), fun result hreturned => (by cases hreturned)⟩
  case case8 now attemptedAt _ _ attempt id s' _ =>
    have hs' : s' = s.create content.version.id attemptedAt attempt := by rw [← h.version]
    rw [hs']
    refine h.create attemptedAt (reservation_status s now) h.version (fun id' hid => ?_) trivial
    obtain ⟨a, ha, hown⟩ := h.own id' hid
    exact ⟨a, by rw [List.getElem?_append_left (List.getElem?_eq_some_iff.mp ha).1, ha], hown⟩
  case case10 idempotency hpoint s' idempotency' denied' hresumed =>
    rw [h.version] at hresumed ⊢
    have hdrafting := h.drafting hpoint (fun id url heq => hreply idempotency id url hpoint heq) s.account.id hresumed
    rw [h.version] at hdrafting
    exact hdrafting
  case case11 externalListingId key idempotency rest hpoint s' idempotency' denied' hresumed =>
    rw [hpoint] at hat
    obtain ⟨hdrafted, hkey, hrest⟩ := hat
    rcases resumeDraft_eq reply key call.denied idempotency s with
      hsame | ⟨reply', denied, resumed, hstep, hgo, hexecutes⟩
    · rw [hsame] at hresumed
      cases hresumed
      refine ⟨h.account, h.publications, h.version, h.draft, h.drafted, h.published, h.ready, h.own, ?_⟩
      exact aloneAt_afterDraft _ ⟨hdrafted, hkey, hrest⟩ fun _ => aloneAt_uploadNext hdrafted hrest
    · rw [hgo] at hresumed
      cases hresumed
      have hdrafted' : Drafted content { s with drafts := Function.update s.drafts key resumed.1 } externalListingId := by
        obtain ⟨r, hr, hrdrafted⟩ := hdrafted
        exact ⟨r, (Function.update_of_ne (Ne.symm hkey) resumed.1 s.drafts).trans hr, hrdrafted⟩
      refine h.upload hkey resumed.1 denied' ?_
      exact aloneAt_afterDraft _ ⟨hdrafted', hkey, hrest⟩ fun _ => aloneAt_uploadNext hdrafted' hrest
  case case12 externalListingId _ _ _ _ _ hpoint s' attempt hupdated =>
    rw [hpoint] at hat
    exact h.update hupdated (fun a => ⟨rfl, rfl, rfl⟩) (fun a _ => ⟨externalListingId, rfl, hat⟩) trivial
  case case17 hupdated =>
    exact h.update hupdated (fun a => ⟨rfl, rfl, rfl⟩) (fun a hready => by cases hready) trivial
  case case19 hupdated =>
    exact h.update hupdated (fun a => ⟨rfl, rfl, rfl⟩) (fun a hready => by cases hready) trivial
  all_goals first | exact h | exact h.goTo trivial

theorem draftReply_ne {id url : String}
    (hpoint : call.point = .drafting idempotency) (h : draftReply reply call = .executes id url) : id ≠ "" := by
  rintro rfl
  unfold draftReply at h
  rw [hpoint] at h
  cases reply with
  | executes uuid url' =>
    rw [AccountReply.executes.injEq] at h
    have hhead := congrArg (fun text => text.toList.head?) h.1
    have hmock := head_toList "mock-etsy-listing-" uuid
      (rfl : "mock-etsy-listing-".toList = 'm' :: "ock-etsy-listing-".toList)
    cases hmock.symm.trans hhead
  | _ => cases h

/-- A preparation that runs alone. -/
theorem PrepareAlone.run (replies : List AccountReply)
    (h : PrepareAlone hashPayload content s₀ s call) :
    ∃ s' call', replies.foldl (fun p reply => resumePrepare hashPayload (draftReply reply p.2) p.2 p.1) (s, call)
        = (s', call') ∧ PrepareAlone hashPayload content s₀ s' call' := by
  induction replies generalizing s call with
  | nil => exact ⟨s, call, rfl, h⟩
  | cons reply replies ih =>
    refine ih (h.step fun idempotency id url hpoint heq => ?_)
    exact draftReply_ne hpoint heq

/-! ## Whole calls -/

/-- What holds of the listing between calls. -/
structure ListingKept (hashObject : String → String) (content : ListingContent) (account : MarketplaceAccount)
    (s : ListingState) : Prop where
  sameAccount : s.account.account = account
  draft : ∀ r, s.account.drafts content.draftKey = some r → r.status = .SUCCEEDED →
    ∃ id, r.responseSnapshot = some id ∧ id ≠ ""
  ready : ReadyKept account (Drafted content s.account) (s.account.attemptsOf content.version.id)
  row : RowKept hashObject account (Drafted content s.account)
    ⟨s.account.publications content.version.id, s.account.attemptsOf content.version.id⟩
  requests : ∀ q ∈ s.requests, RequestKept content q.tables

theorem listingKept_start (account : MarketplaceAccount) :
    ListingKept hashObject content account ⟨⟨account, fun _ => none, fun _ => none, []⟩, []⟩ where
  sameAccount := rfl
  draft _ hr := (nomatch hr)
  ready _ ha := absurd ha List.not_mem_nil
  row _ hr := (nomatch hr)
  requests _ hq := absurd hq List.not_mem_nil

theorem ListingKept.prepare {s : ListingState}
    (h : ListingKept hashObject content account s) (replies : List AccountReply) :
    ListingKept hashObject content account
      { s with account := (prepareListing hashPayload content replies s.account).1 } := by
  have hstart : PrepareAlone hashPayload content s.account s.account ⟨content.version, none, false, .resolving⟩ :=
    ⟨rfl, rfl, rfl, h.draft, fun _ hdrafted => hdrafted, fun _ hpublished => hpublished, h.sameAccount ▸ h.ready,
      fun id hid => (nomatch hid), trivial⟩
  obtain ⟨s', call', hrun, halone⟩ := hstart.run replies
  unfold prepareListing
  rw [hrun]
  refine ⟨halone.account.trans h.sameAccount, halone.draft, h.sameAccount ▸ halone.ready, fun r hr => ?_, h.requests⟩
  obtain ⟨haccount, htype, ⟨id, hdrafted, hhash⟩, hstatus⟩ :=
    h.row r ((congrFun halone.publications content.version.id).symm.trans hr)
  refine ⟨haccount, htype, ⟨id, halone.drafted id hdrafted, hhash⟩, hstatus.imp_right fun hpublished => ?_⟩
  exact ⟨hpublished.1, h.sameAccount ▸ halone.published r.id (h.sameAccount.symm ▸ hpublished.2)⟩

/-- The tables of a request change. -/
theorem ListingKept.setRequest {s : ListingState}
    (h : ListingKept hashObject content account s) (requestIndex : Nat) (request : PublicationRequest)
    (hrequest : RequestKept content request.tables) :
    ListingKept hashObject content account { s with requests := s.requests.set requestIndex request } := by
  refine { h with requests := fun q hq => ?_ }
  rcases List.mem_or_eq_of_mem_set hq with hold | rfl
  · exact h.requests q hold
  · exact hrequest

theorem ListingKept.request {s : ListingState}
    (h : ListingKept hashObject content account s) (input : RequestInput) :
    ListingKept hashObject content account (requestPublicationApproval content input s).1 := by
  unfold requestPublicationApproval
  split
  · exact h
  · split
    · exact h
    · refine { h with requests := fun q hq => ?_ }
      rcases List.mem_append.mp hq with hold | hnew
      · exact h.requests q hold
      · rw [List.mem_singleton.mp hnew]
        exact requestKept_new input

/-! ## Publications of a listing -/

/-- The attempt that is ready last is ready. -/
theorem ready_of_isLatestReady {listingVersionId : String} {id : Nat}
    (h : s.isLatestReady listingVersionId id = true) :
    ∃ a, (s.attemptsOf listingVersionId)[id]? = some a ∧ a.status = .READY_FOR_PUBLISH := by
  unfold AccountState.isLatestReady at h
  cases hat : (s.rowsOf listingVersionId)[id]? with
  | none =>
    rw [hat] at h
    cases h
  | some a =>
    rw [hat] at h
    refine ⟨a.attempt, ?_, of_decide_eq_true (Bool.and_eq_true_iff.mp h).1⟩
    unfold AccountState.attemptsOf Marketplace.attemptsOf
    rw [List.getElem?_map]
    exact congrArg (Option.map (·.attempt)) hat

theorem ready_of_latestReady {listingVersionId : String} {pick id : Nat}
    (h : s.latestReady listingVersionId pick = some id) :
    ∃ a, (s.attemptsOf listingVersionId)[id]? = some a ∧ a.status = .READY_FOR_PUBLISH := by
  unfold AccountState.latestReady at h
  split at h
  next hpick =>
    cases h
    exact ready_of_isLatestReady hpick
  next => exact ready_of_isLatestReady (List.find?_some h)

/-- Whether a dispatch is allowed does not depend on the attempts that come after. -/
theorem dispatchAllowed_append {request : PublicationRequest}
    {now : Int} (hbound : preparedAttempt < attempts.length)
    (added : List PublicationAttempt) :
    dispatchAllowed content account request preparedAttempt now (attempts ++ added)
      = dispatchAllowed content account request preparedAttempt now attempts := by
  unfold dispatchAllowed
  rw [List.getElem?_append_left hbound]

/-- The dispatch of an approved request is allowed when it names the attempt. -/
theorem dispatchAllowed_iff (henabled : account.disabled = false)
    (request : PublicationRequest) (hrequest : RequestKept content request.tables)
    (happroved : request.tables.request.state.isApproved = true) {now : Int}
    (hnow : now < request.tables.request.expiresAt)
    (hready : ReadyKept account drafted attempts) (hdrafted : ∀ id, drafted id → id ≠ "")
    (hat : attempts[preparedAttempt]? = some a) (hstatus : a.status = .READY_FOR_PUBLISH) :
    dispatchAllowed content account request preparedAttempt now attempts = decide (request.attempt = preparedAttempt) := by
  obtain ⟨hmarketplace, haccount, id, hid, hiddrafted⟩ := hready a (List.mem_of_getElem? hat) hstatus
  obtain ⟨d, hlatest, hvalid⟩ := hrequest.latestApproval happroved hnow
  unfold dispatchAllowed
  rw [hat, hlatest]
  simp [hstatus, hmarketplace, haccount, hrequest.kind, hrequest.version, happroved, henabled, hid, hdrafted id hiddrafted,
    hvalid]

/-- The listing after a publication that has come to this. -/
def ListingState.afterPublication (s : ListingState) (content : ListingContent) (attemptedAt : Int)
    (own : PublicationState) : ListingState :=
  { s with account := { s.account.withAttempts content.version.id attemptedAt own.attempts with
      publications := Function.update s.account.publications content.version.id own.row } }

theorem attemptsOf_afterPublication {s : ListingState} {attemptedAt : Int} {own : PublicationState}
    (hlength : (s.account.attemptsOf content.version.id).length ≤ own.attempts.length) :
    (s.afterPublication content attemptedAt own).account.attemptsOf content.version.id = own.attempts := by
  rw [@attemptsOf_of_writeBack s.account (s.afterPublication content attemptedAt own).account _ _ _ rfl hlength, if_pos rfl]

/-- A publication keeps what holds of the listing. -/
theorem ListingKept.afterPublication {s : ListingState}
    (h : ListingKept hashObject content account s) (attemptedAt : Int) {allowed : Bool} {own : PublicationState}
    {call : PublishCall}
    (halone : PublishesAlone hashObject account (Drafted content s.account) allowed
      ⟨s.account.publications content.version.id, s.account.attemptsOf content.version.id⟩ own call) :
    ListingKept hashObject content account (s.afterPublication content attemptedAt own) := by
  obtain ⟨added, hadded, hstatus⟩ := halone.attempts
  have hlength : (s.account.attemptsOf content.version.id).length ≤ own.attempts.length := by
    rw [hadded, List.length_append]
    exact Nat.le_add_right _ _
  refine ⟨h.sameAccount, h.draft, ?_, fun r hr => ?_, h.requests⟩
  · rw [attemptsOf_afterPublication hlength, hadded]
    exact h.ready.append hstatus
  · change Function.update s.account.publications content.version.id own.row content.version.id = some r at hr
    rw [Function.update_self] at hr
    rw [attemptsOf_afterPublication hlength]
    exact halone.row r hr

/-- `publishListing`, when the approval is valid, comes to one call that is admitted. -/
theorem publishListing_eq (henabled : account.disabled = false)
    (hlimit : account.rateLimitPerDay = none) {s : ListingState} (h : ListingKept hashObject content account s)
    {requestIndex : Nat} {input : PublishInput}
    (hlatest : s.account.latestReady content.version.id input.pickReady = some preparedAttempt)
    {request : PublicationRequest} (hrequest : s.requests[requestIndex]? = some request)
    {check : PublishCheck} (hcheck : checkAlone content input.checkedAt request.tables = (tables, check))
    (hvalid : check.point = .valid) :
    ∃ externalListingId own, Drafted content s.account externalListingId
      ∧ own = aloneFrom hashObject input (account.prepared externalListingId)
        (dispatchAllowed content account ⟨tables, request.attempt⟩ preparedAttempt input.dispatchedAt)
        ⟨s.account.publications content.version.id, s.account.attemptsOf content.version.id⟩
      ∧ publishListing hashObject content requestIndex input s
        = (ListingState.afterPublication { s with requests := s.requests.set requestIndex { request with tables } } content
            input.attemptedAt own.1, own.2.point) := by
  obtain ⟨a, hat, hstatus⟩ := ready_of_latestReady hlatest
  obtain ⟨hmarketplace, haccount, id, hid, hdrafted⟩ := h.ready a (List.mem_of_getElem? hat) hstatus
  obtain ⟨marketplace, marketplaceAccountId, idempotencyKeyId, status, blockedReason, errorMessage, externalListingId,
    externalListingUrl⟩ := a
  simp only at hmarketplace haccount hid
  subst hmarketplace haccount hid
  obtain ⟨r, hr, hsucceeded, hresponse, hne⟩ := hdrafted
  refine ⟨id, _, ⟨r, hr, hsucceeded, hresponse, hne⟩, rfl, ?_⟩
  have hsame := h.sameAccount
  have hopen : s.account.checkFailClosed input.dispatchedAt = none := by
    unfold AccountState.checkFailClosed
    rw [hsame, henabled, hlimit]
    rfl
  unfold publishListing
  rw [hlatest, hrequest]
  simp only [hat, hcheck, hvalid, hsame, henabled, hopen, hne, Option.map_none, and_self, if_true, if_false, ne_eq,
    not_false_eq_true, Bool.false_eq_true]
  rfl

theorem drafted_ne (id : String) (h : Drafted content s id) : id ≠ "" := by
  obtain ⟨_, _, _, _, hne⟩ := h
  exact hne

/-- The call that is admitted publishes exactly when its dispatch is allowed. -/
theorem ListingKept.alone {s : ListingState} (h : ListingKept hashObject content account s) {input : PublishInput}
    (hlatest : s.account.latestReady content.version.id input.pickReady = some preparedAttempt)
    (request : PublicationRequest) (hdrafted : Drafted content s.account externalListingId)
    {own : PublicationState × PublishCall}
    (hown : own = aloneFrom hashObject input (account.prepared externalListingId)
      (dispatchAllowed content account request preparedAttempt input.dispatchedAt)
      ⟨s.account.publications content.version.id, s.account.attemptsOf content.version.id⟩) :
    PublishesAlone hashObject account (Drafted content s.account)
      (dispatchAllowed content account request preparedAttempt input.dispatchedAt (s.account.attemptsOf content.version.id))
      ⟨s.account.publications content.version.id, s.account.attemptsOf content.version.id⟩ own.1 own.2 := by
  obtain ⟨a, hat, -⟩ := ready_of_latestReady hlatest
  rw [hown]
  refine publishesAlone input (fun added => ?_) hdrafted (fun id hid => hid.unique hdrafted) h.row
  exact dispatchAllowed_append (List.getElem?_eq_some_iff.mp hat).1 added

theorem ListingKept.publish (henabled : account.disabled = false)
    (hlimit : account.rateLimitPerDay = none) {s : ListingState} (h : ListingKept hashObject content account s)
    (requestIndex : Nat) (input : PublishInput) :
    ListingKept hashObject content account (publishListing hashObject content requestIndex input s).1 := by
  cases hlatest : s.account.latestReady content.version.id input.pickReady with
  | none =>
    unfold publishListing
    rw [hlatest]
    exact h
  | some preparedAttempt =>
    cases hrequest : s.requests[requestIndex]? with
    | none =>
      unfold publishListing
      rw [hlatest, hrequest]
      exact h
    | some request =>
      have hkept := h.requests request (List.mem_of_getElem? hrequest)
      have htables := hkept.checkAlone input.checkedAt
      cases hcheck : checkAlone content input.checkedAt request.tables with
      | mk tables check =>
        rw [hcheck] at htables
        have hset := h.setRequest requestIndex { request with tables } htables
        by_cases hvalid : check.point = .valid
        · obtain ⟨externalListingId, own, hdrafted, hown, heq⟩ :=
            publishListing_eq henabled hlimit h hlatest hrequest hcheck hvalid
          rw [heq]
          exact hset.afterPublication input.attemptedAt (h.alone hlatest _ hdrafted hown)
        · unfold publishListing
          rw [hlatest, hrequest]
          simp only [hcheck]
          split
          · exact hset
          · exact h

/-- **Whole calls** keep what holds of the listing. -/
theorem listingKept_afterCalls {account : MarketplaceAccount} (henabled : account.disabled = false)
    (hlimit : account.rateLimitPerDay = none) (calls : List ListingCall) :
    ListingKept hashObject content account (afterCalls auditSignature hashPayload hashObject content account calls) := by
  unfold afterCalls
  refine run_induction _ (listingKept_start account) (fun pre call h => ?_) calls
  generalize run (callListing auditSignature hashPayload hashObject content) _ pre = s at h ⊢
  cases call with
  | prepare replies => exact h.prepare replies
  | request input => exact h.request input
  | decide requestIndex params now decidedAt =>
    cases hrequest : s.requests[requestIndex]? with
    | some request =>
      simp only [callListing, hrequest]
      exact h.setRequest requestIndex _ (h.requests request (List.mem_of_getElem? hrequest)).decideAlone
    | none =>
      simp only [callListing, hrequest]
      exact h
  | publish requestIndex input => exact h.publish henabled hlimit requestIndex input

/-- **A request that is approved, and has not expired, is carried out exactly when it names the attempt that is ready
last.** -/
theorem publishes_iff (auditSignature : String → Decision → Int → String → String)
    (hashPayload : DraftPayload → String) (hashObject : String → String) (content : ListingContent)
    (account : MarketplaceAccount) (henabled : account.disabled = false) (hlimit : account.rateLimitPerDay = none)
    (calls : List ListingCall) (requestIndex : Nat) (request : PublicationRequest)
    (hrequest : (afterCalls auditSignature hashPayload hashObject content account calls).requests[requestIndex]?
      = some request)
    (happroved : request.tables.request.state.isApproved = true) (input : PublishInput)
    (hchecked : input.checkedAt < request.tables.request.expiresAt)
    (hdispatched : input.dispatchedAt < request.tables.request.expiresAt) :
    (∃ result, (callListing auditSignature hashPayload hashObject content (.publish requestIndex input)
          (afterCalls auditSignature hashPayload hashObject content account calls)).1 = .published (.returned result)
        ∧ result.status = .PUBLISHED)
      ↔ (afterCalls auditSignature hashPayload hashObject content account calls).account.latestReady content.version.id
        input.pickReady = some request.attempt := by
  have h := @listingKept_afterCalls auditSignature hashPayload hashObject content account henabled hlimit calls
  generalize afterCalls auditSignature hashPayload hashObject content account calls = s at hrequest h ⊢
  have hkept := h.requests request (List.mem_of_getElem? hrequest)
  change (∃ result, ListingOutcome.published (publishListing hashObject content requestIndex input s).2
    = .published (.returned result) ∧ result.status = .PUBLISHED) ↔ _
  cases hlatest : s.account.latestReady content.version.id input.pickReady with
  | none =>
    unfold publishListing
    rw [hlatest]
    constructor
    · rintro ⟨result, hresult, -⟩
      cases hresult
    · intro hnone
      cases hnone
  | some preparedAttempt =>
    have hcheck := checkAlone_valid hkept happroved hchecked
    obtain ⟨externalListingId, own, hdrafted, hown, heq⟩ :=
      publishListing_eq henabled hlimit h hlatest hrequest hcheck rfl
    have halone := h.alone hlatest _ hdrafted hown
    obtain ⟨a, hat, hstatus⟩ := ready_of_latestReady hlatest
    have hallowed := dispatchAllowed_iff henabled ⟨request.tables, request.attempt⟩
      hkept happroved hdispatched h.ready (fun id hid => drafted_ne id hid) hat hstatus
    rw [hallowed] at halone
    rw [heq, Option.some.injEq]
    simp only [ListingOutcome.published.injEq]
    refine halone.published.trans ?_
    rw [decide_eq_true_eq]
    exact eq_comm

end Calls

/-! ## A preparation in between -/

/-- A listing version without images and files. -/
def plainContent : ListingContent := ⟨⟨"version", "Title", "Text", [], "5.00", [], []⟩, "hash"⟩

def openAccount : MarketplaceAccount := ⟨"account", "ETSY", false, none, none⟩

/-- A preparation in which everything completes. -/
def prepares (attemptedAt : Int) : ListingCall :=
  let completes : AccountReply := .completes true "row" attemptedAt attemptedAt 0
  .prepare (List.replicate 6 completes ++ [.executes "1" ""] ++ List.replicate 3 completes)

/-- The listing is prepared, and its publication is requested and approved. -/
def approvedCalls : List ListingCall :=
  [prepares 1, .request ⟨"request", "proposal", 100, 0⟩, .decide 0 ⟨"founder", .APPROVE, none, none, none⟩ 2 2]

/-- The listing after calls, where hashes and signatures are fixed. -/
def afterPlain (calls : List ListingCall) : ListingState :=
  afterCalls (fun _ _ _ _ => "signature") (fun _ => "payload") (fun id => id) plainContent openAccount calls

def publishesAtFour : PublishInput := ⟨4, 4, 4, "key", 0, 0⟩

/-- Where `publishListing` ends after calls. -/
def plainOutcome (calls : List ListingCall) : ListingOutcome :=
  (callListing (fun _ _ _ _ => "signature") (fun _ => "payload") (fun id => id) plainContent (.publish 0 publishesAtFour)
    (afterPlain calls)).1

/-- The request after it is approved. -/
def approvedRequest : PublicationRequest :=
  ((afterPlain approvedCalls).requests[0]?).getD ⟨newPublicationRequest plainContent ⟨"", "", 0, 0⟩, 0⟩

/-- The request that is approved is carried out. -/
theorem publishes_approved :
    ∃ result, plainOutcome approvedCalls = .published (.returned result) ∧ result.status = .PUBLISHED :=
  (publishes_iff (fun _ _ _ _ => "signature") (fun _ => "payload") (fun id => id) plainContent openAccount rfl rfl
    approvedCalls 0 approvedRequest (by decide) (by decide) publishesAtFour (by decide)
    (by decide)).mpr (by decide)

/-- A preparation after the approval: the request is approved, and has not expired, and the publication fails. -/
theorem preparedAgain_refused :
    ((afterPlain (approvedCalls ++ [prepares 3])).requests[0]?).any (fun request =>
        decide (request.tables.request.state = .APPROVED ∧ publishesAtFour.checkedAt < request.tables.request.expiresAt
          ∧ publishesAtFour.dispatchedAt < request.tables.request.expiresAt)) = true
      ∧ plainOutcome (approvedCalls ++ [prepares 3]) = .published (.returned (failedResult 2)) := by
  decide

end VentureOS.Marketplace
