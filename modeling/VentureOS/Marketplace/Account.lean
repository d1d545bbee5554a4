import VentureOS.Marketplace.Publication

/-! # The account of a marketplace

`prepareListingForPublication` and `publishListing` of `publication-runner.ts`, for the calls on all listings of one
account. They share the account, the rows of their keys and the attempts.

An attempt is reserved in a transaction that holds the row of the account. There the kill switch and the limit of a day
are checked again, which a preparation has checked before without the lock. -/

namespace VentureOS.Marketplace

/-! ## Rows -/

/-- `MarketplaceAccount`. -/
structure MarketplaceAccount where
  id : String
  marketplace : String
  disabled : Bool
  disabledReason : Option String
  rateLimitPerDay : Option Nat
  deriving DecidableEq, Repr

/-- `PublicationAttempt`, with its listing version and the time at which the row was created. -/
structure AccountAttempt where
  listingVersionId : String
  attemptedAt : Int
  attempt : PublicationAttempt
  deriving DecidableEq, Repr

/-- `ListingVersion`, as far as a preparation reads it. -/
structure ListingVersion where
  id : String
  title : String
  description : String
  tags : List String
  priceEur : String
  /-- The ids of the images. -/
  images : List String
  /-- The ids of the files, with their `displayName`. -/
  files : List (String × String)
  deriving DecidableEq, Repr

/-- `requestPayload` of what a preparation writes. -/
inductive DraftPayload where
  | draft (title description : String) (tags : List String) (priceEur : String)
  | image (externalListingId : String) (position : Nat)
  | file (externalListingId displayName : String)
  deriving DecidableEq, Repr

/-- A call of `withIdempotency` of a preparation. Its result is `externalListingId` or `externalAssetId`. -/
abbrev DraftIdempotency := IdempotencyCall DraftPayload String String

/-- The account, the rows of the keys `draft:`, `image:` and `file:`, the row of the key `publish:` of each listing
version, and the attempts on the account. -/
structure AccountState where
  account : MarketplaceAccount
  drafts : String → Option (IdempotencyRow String)
  publications : String → Option (IdempotencyRow PublishedListing)
  attempts : List AccountAttempt

/-! ## The limit of a day -/

/-- The day of a time, in UTC. -/
def utcDay (time : Int) : Int := time / 86400000

/-- `setUTCHours(0, 0, 0, 0)`. -/
def startOfDay (now : Int) : Int := utcDay now * 86400000

/-- A status that counts for the limit of a day. -/
def AttemptStatus.counts (status : AttemptStatus) : Bool :=
  match status with
  | .RESERVED => true
  | .READY_FOR_PUBLISH => true
  | .PUBLISHED => true
  | _ => false

/-- The attempt is one of the account and has a status that counts. -/
def AccountAttempt.counts (a : AccountAttempt) (account : MarketplaceAccount) : Bool :=
  decide (a.attempt.marketplaceAccountId = some account.id) && a.attempt.status.counts

/-- `todaysAttempts`. -/
def AccountState.todaysAttempts (s : AccountState) (now : Int) : Nat :=
  s.attempts.countP fun a => a.counts s.account && decide (startOfDay now ≤ a.attemptedAt)

/-- The reason of a disabled account. -/
def MarketplaceAccount.reason (account : MarketplaceAccount) : String :=
  account.disabledReason.getD "Marketplace account is disabled (kill switch active)."

/-- The reason of a limit that is reached. -/
def limitReached (limit : Nat) : String := s!"Rate limit of {limit} publication action(s)/day reached."

/-- `checkFailClosed`. -/
def AccountState.checkFailClosed (s : AccountState) (now : Int) : Option String :=
  if s.account.disabled then some s.account.reason
  else match s.account.rateLimitPerDay with
    | some limit => if limit ≤ s.todaysAttempts now then some (limitReached limit) else none
    | none => none

/-! ## The attempts of a listing version -/

/-- The attempts of a listing version, in the order of their creation. -/
def attemptsOf (listingVersionId : String) (attempts : List AccountAttempt) : List PublicationAttempt :=
  (attempts.filter fun a => a.listingVersionId = listingVersionId).map (·.attempt)

/-- The attempts of a listing version are written back: those that there are in their places, and new ones with the
time of their creation. -/
def writeBack (listingVersionId : String) (attemptedAt : Int) :
    List AccountAttempt → List PublicationAttempt → List AccountAttempt
  | [], new => new.map fun attempt => ⟨listingVersionId, attemptedAt, attempt⟩
  | a :: rest, [] => a :: writeBack listingVersionId attemptedAt rest []
  | a :: rest, attempt :: new =>
    if a.listingVersionId = listingVersionId then
      { a with attempt } :: writeBack listingVersionId attemptedAt rest new
    else a :: writeBack listingVersionId attemptedAt rest (attempt :: new)

/-- The attempts of a listing version become these. -/
def AccountState.withAttempts (s : AccountState) (listingVersionId : String) (attemptedAt : Int)
    (attempts : List PublicationAttempt) : AccountState :=
  { s with attempts := writeBack listingVersionId attemptedAt s.attempts attempts }

/-- The attempts of a listing version. -/
def AccountState.attemptsOf (s : AccountState) (listingVersionId : String) : List PublicationAttempt :=
  Marketplace.attemptsOf listingVersionId s.attempts

/-! ## Preparations -/

/-- What is uploaded to a draft: the key, the type of the operation and the payload. -/
structure Upload where
  key : String
  operationType : String
  requestPayload : DraftPayload
  deriving DecidableEq, Repr

/-- The uploads of the images and then of the files. -/
def ListingVersion.uploads (version : ListingVersion) (externalListingId : String) : List Upload :=
  (version.images.zipIdx.map fun (id, index) =>
      ⟨s!"image:{id}", "UPLOAD_LISTING_IMAGE", .image externalListingId index⟩)
    ++ version.files.map fun (id, displayName) =>
      ⟨s!"file:{id}", "UPLOAD_LISTING_FILE", .file externalListingId displayName⟩

/-- Where a preparation is: what it waits for, or its end. -/
inductive PreparePoint where
  /-- `resolveMarketplaceAccount`. -/
  | resolving
  /-- The count of the attempts of the day, for this limit. -/
  | counting (limit : Nat)
  /-- `create` of the attempt that is blocked. -/
  | refusing (status : AttemptStatus) (reason : String)
  /-- `reservePublicationAttempt`. -/
  | reserving
  /-- `withIdempotency`, of the draft. -/
  | drafting (idempotency : DraftIdempotency)
  /-- `withIdempotency`, of an upload, with those that are left. -/
  | uploading (externalListingId : String) (key : String) (idempotency : DraftIdempotency) (rest : List Upload)
  /-- The update of the attempt to `READY_FOR_PUBLISH`. -/
  | preparing (externalListingId : String)
  /-- `writeMarketplaceHealth`, when the draft is prepared. -/
  | reportingReady (result : PublicationRunResult)
  /-- The update of the attempt to `BLOCKED_POLICY`. -/
  | blocking
  /-- The update of the attempt to `FAILED`. -/
  | failing
  /-- `writeMarketplaceHealth`, when the preparation is blocked or has failed. -/
  | reporting (result : PublicationRunResult)
  | returned (result : PublicationRunResult)
  | thrown
  deriving DecidableEq, Repr

/-- A call of `prepareListingForPublication`. -/
structure PrepareCall where
  version : ListingVersion
  reserved : Option Nat
  /-- What was thrown is a denial by the policy of capabilities. -/
  denied : Bool
  point : PreparePoint
  deriving DecidableEq, Repr

/-- What comes of what a call waits for. -/
inductive AccountReply where
  | throws
  /-- It throws a denial by the policy. -/
  | denied
  /-- It completes; with what an account was found, the id and the time of a row that is created, the time of the clock,
  and the attempt that is found where several match. -/
  | completes (found : Bool) (id : String) (now : Int) (attemptedAt : Int) (pick : Nat)
  /-- The provider returns the id of a listing or an asset, and the URL of a listing. -/
  | executes (id url : String)

/-- The time at which a row is created. -/
def AccountReply.attemptedAt : AccountReply → Int
  | .completes _ _ _ attemptedAt _ => attemptedAt
  | _ => 0

section Calls

variable (hashPayload : DraftPayload → String) (hashObject : String → String)

/-- A preparation is at this point. -/
def PrepareCall.goTo (call : PrepareCall) (point : PreparePoint) : PrepareCall := { call with point }

/-- An attempt of a preparation. -/
def newAttempt (account : MarketplaceAccount) (status : AttemptStatus) (blockedReason : Option String) :
    PublicationAttempt where
  marketplace := account.marketplace
  marketplaceAccountId := some account.id
  idempotencyKeyId := none
  status := status
  blockedReason := blockedReason
  errorMessage := none
  externalListingId := none
  externalListingUrl := none

/-- An attempt of a listing version is created. -/
def AccountState.create (s : AccountState) (listingVersionId : String) (attemptedAt : Int)
    (attempt : PublicationAttempt) : AccountState :=
  s.withAttempts listingVersionId attemptedAt (s.attemptsOf listingVersionId ++ [attempt])

/-- An attempt of a listing version is updated: `none` when there is no such attempt. -/
def AccountState.update (s : AccountState) (listingVersionId : String) (id : Option Nat)
    (change : PublicationAttempt → PublicationAttempt) : Option (AccountState × PublicationAttempt) :=
  match id with
  | some id =>
    match (s.attemptsOf listingVersionId)[id]? with
    | some attempt =>
      some (s.withAttempts listingVersionId 0 ((s.attemptsOf listingVersionId).set id (change attempt)), change attempt)
    | none => none
  | none => none

/-- The attempt that `reservePublicationAttempt` creates. -/
def AccountState.reservation (s : AccountState) (now : Int) : PublicationAttempt :=
  match s.checkFailClosed now with
  | some reason => newAttempt s.account (if s.account.disabled then .BLOCKED_DISABLED else .BLOCKED_RATE_LIMIT) (some reason)
  | none => newAttempt s.account .RESERVED none

/-- A call of `withIdempotency` of a preparation goes on, with whether it has thrown a denial. -/
def resumeDraft (reply : AccountReply) (key : String) (denied : Bool) (idempotency : DraftIdempotency)
    (s : AccountState) : AccountState × DraftIdempotency × Bool :=
  let go (reply : IdempotencyReply String) (denied : Bool) :=
    let (row, idempotency) := resumeIdempotency hashPayload some reply idempotency (s.drafts key)
    ({ s with drafts := Function.update s.drafts key row }, idempotency, denied)
  match idempotency.point, reply with
  | .executing, .executes id _ => go (.executes id true) denied
  | .executing, .denied => go .throws true
  | .executing, .completes _ _ _ _ _ => (s, idempotency, denied)
  | .replaying _, .denied => go .throws true
  | _, .completes found id now _ _ => go (.completes found id now) denied
  | _, .throws => go .throws false
  | _, _ => (s, idempotency, denied)

/-- A preparation uploads what is left, or makes its attempt ready. -/
def uploadNext (accountId externalListingId : String) : List Upload → PreparePoint
  | [] => .preparing externalListingId
  | upload :: rest =>
    .uploading externalListingId upload.key
      (beginIdempotency ⟨accountId, upload.operationType, upload.requestPayload⟩) rest

/-- What a preparation does when `withIdempotency` has come to this: `next` with the result. -/
def afterDraft (idempotency : DraftIdempotency) (denied : Bool) (waiting : PreparePoint) (next : String → PreparePoint) :
    PreparePoint :=
  match idempotency.point with
  | .returned (.executed id) => next id
  | .returned (.replayed (some id)) => next id
  | .returned (.replayed none) => .failing
  | .thrown _ => if denied then .blocking else .failing
  | _ => waiting

/-- What a preparation does next, when what it waits for has come about. -/
def resumePrepare (reply : AccountReply) (call : PrepareCall) (s : AccountState) : AccountState × PrepareCall :=
  match call.point, reply with
  | .resolving, .completes _ _ _ _ _ =>
    if s.account.disabled then (s, call.goTo (.refusing .BLOCKED_DISABLED s.account.reason))
    else match s.account.rateLimitPerDay with
      | some limit => (s, call.goTo (.counting limit))
      | none => (s, call.goTo .reserving)
  | .counting limit, .completes _ _ now _ _ =>
    if limit ≤ s.todaysAttempts now then (s, call.goTo (.refusing .BLOCKED_RATE_LIMIT (limitReached limit)))
    else (s, call.goTo .reserving)
  | .refusing status reason, .completes _ _ _ attemptedAt _ =>
    let attempt := newAttempt s.account status (some reason)
    (s.create call.version.id attemptedAt attempt,
      call.goTo (.reporting (attempt.result (s.attemptsOf call.version.id).length false)))
  | .reserving, .completes found _ now attemptedAt _ =>
    if found then
      let attempt := s.reservation now
      let id := (s.attemptsOf call.version.id).length
      let s' := s.create call.version.id attemptedAt attempt
      if attempt.status = .RESERVED then
        (s', { call with
          reserved := some id
          point := .drafting (beginIdempotency ⟨s.account.id, "CREATE_DRAFT_LISTING", .draft call.version.title
            call.version.description call.version.tags call.version.priceEur⟩) })
      else (s', call.goTo (.returned (attempt.result id false)))
    else (s, call.goTo .thrown)
  | .drafting idempotency, reply =>
    let (s', idempotency, denied) :=
      resumeDraft hashPayload reply s!"draft:{call.version.id}" call.denied idempotency s
    (s', { call with
      denied
      point := afterDraft idempotency denied (.drafting idempotency) fun externalListingId =>
        uploadNext s.account.id externalListingId (call.version.uploads externalListingId) })
  | .uploading externalListingId key idempotency rest, reply =>
    let (s', idempotency, denied) := resumeDraft hashPayload reply key call.denied idempotency s
    (s', { call with
      denied
      point := afterDraft idempotency denied (.uploading externalListingId key idempotency rest) fun _ =>
        uploadNext s.account.id externalListingId rest })
  | .preparing externalListingId, .completes _ _ _ _ _ =>
    match s.update call.version.id call.reserved fun attempt =>
        { attempt with
          status := .READY_FOR_PUBLISH
          blockedReason := none
          externalListingId := some externalListingId } with
    | some (s', attempt) => (s', call.goTo (.reportingReady (attempt.result (call.reserved.getD 0) false)))
    | none => (s, call.goTo .failing)
  | .preparing _, .throws => (s, call.goTo .failing)
  | .reportingReady result, .completes _ _ _ _ _ => (s, call.goTo (.returned result))
  | .reportingReady _, .throws => (s, call.goTo .failing)
  | .blocking, .completes _ _ _ _ _ =>
    match s.update call.version.id call.reserved fun attempt =>
        { attempt with status := .BLOCKED_POLICY, blockedReason := some "Operation is not available" } with
    | some (s', _) => (s', call.goTo .thrown)
    | none => (s, call.goTo .thrown)
  | .failing, .completes _ _ _ _ _ =>
    match s.update call.version.id call.reserved fun attempt =>
        { attempt with status := .FAILED, errorMessage := some "Marketplace draft operation failed" } with
    | some (s', _) => (s', call.goTo (.reporting (failedResult (call.reserved.getD 0))))
    | none => (s, call.goTo .thrown)
  | .reporting result, .completes _ _ _ _ _ => (s, call.goTo (.returned result))
  | .returned _, _ => (s, call)
  | .thrown, _ => (s, call)
  | _, .throws => (s, call.goTo .thrown)
  | _, _ => (s, call)

/-! ## Publications -/

/-- What a call of `publishListing` is told: where it reserves an attempt, what the transaction comes to. -/
def AccountReply.toPublish (reply : AccountReply) (call : PublishCall) (s : AccountState) : PublishReply :=
  match reply with
  | .throws => .throws
  | .denied => .denied
  | .executes id url => .executes ⟨id, url⟩
  | .completes found id now _ pick =>
    match call.point, call.idempotency.point with
    | .inside, .preparing =>
      if found then .reserves ((s.checkFailClosed now).map fun reason => (s.account.disabled, reason)) else .throws
    | _, _ => .completes found id now pick

/-- What a call of `publishListing` on a listing version does next. -/
def resumePublication (reply : AccountReply) (listingVersionId : String) (call : PublishCall) (s : AccountState) :
    AccountState × PublishCall :=
  let (own, call') := resumePublish hashObject (reply.toPublish call s) call
    ⟨s.publications listingVersionId, s.attemptsOf listingVersionId⟩
  ({ s.withAttempts listingVersionId reply.attemptedAt own.attempts with
    publications := Function.update s.publications listingVersionId own.row }, call')

/-! ## The calls on an account -/

/-- A call on the account. -/
inductive AccountCall where
  | prepare (call : PrepareCall)
  | publish (listingVersionId : String) (call : PublishCall)
  /-- The founder has changed the kill switch. -/
  | changed

/-- How a call begins. -/
inductive AccountStart where
  /-- `prepareListingForPublication`, up to the account: it has thrown or found no approval, or it goes on. The attempt
  of a version without approval has no account. -/
  | prepare (version : Option ListingVersion)
  /-- `publishListing`, up to the account: it has thrown, or goes on with `externalListingId` of the attempt that is
  ready. -/
  | publish (listingVersionId : String) (externalListingId : Option String) (attemptedAt : Int)
  | setDisabled (disabled : Bool) (disabledReason : Option String)

/-- `publishListing`, up to `withIdempotency`. -/
def startPublication (listingVersionId : String) (externalListingId : Option String) (attemptedAt : Int)
    (s : AccountState) : AccountState × PublishCall :=
  let start : PublishStart :=
    match externalListingId with
    | none => .refused
    | some externalListingId =>
      let prepared : Prepared := ⟨s.account.marketplace, s.account.id, externalListingId⟩
      if s.account.disabled then .disabled prepared s.account.reason else .admitted prepared
  let (own, call) := startPublish start ⟨s.publications listingVersionId, s.attemptsOf listingVersionId⟩
  (s.withAttempts listingVersionId attemptedAt own.attempts, call)

/-- How a call begins. -/
def startAccount (start : AccountStart) (s : AccountState) : AccountState × AccountCall :=
  match start with
  | .prepare (some version) => (s, .prepare ⟨version, none, false, .resolving⟩)
  | .prepare none => (s, .prepare ⟨⟨"", "", "", [], "", [], []⟩, none, false, .thrown⟩)
  | .publish listingVersionId externalListingId attemptedAt =>
    let (s', call) := startPublication listingVersionId externalListingId attemptedAt s
    (s', .publish listingVersionId call)
  | .setDisabled disabled disabledReason =>
    ({ s with account := { s.account with disabled, disabledReason } }, .changed)

/-- What a call does next. -/
def resumeAccount (reply : AccountReply) (call : AccountCall) (s : AccountState) : AccountState × AccountCall :=
  match call with
  | .prepare call =>
    let (s', call') := resumePrepare hashPayload reply call s
    (s', .prepare call')
  | .publish listingVersionId call =>
    let (s', call') := resumePublication hashObject reply listingVersionId call s
    (s', .publish listingVersionId call')
  | .changed => (s, call)

/-- The calls on an account, in any interleaving. -/
def accountCalls : CallSystem AccountState AccountCall AccountStart AccountReply Unit where
  start a s := ((), startAccount a s)
  resume reply call s := ((), resumeAccount hashPayload hashObject reply call s)

end Calls

end VentureOS.Marketplace
