import VentureOS.Foundations.Interleaving

/-! # Decisions of the founder

`decideApprovalRequest` of `approval-runner.ts`, and the part of `publishListing` that may invalidate an approval, for
the calls on one approval request.

A decision is a guarded update in a transaction of its own. The write of `EXPIRED` has no guard: it goes by the state
that its call has read before. So a request that was decided or revoked in between becomes `EXPIRED`, unless every
such write meets a request that is still as its writer has read it (`Unmoved`). -/

namespace VentureOS.Approvals

/-- `isApprovalValidForExecution`: the reason why an approval is not valid. -/
def isApprovalValidForExecution (approvedArtifactVersionId approvedPackageHash : String) (expiresAt : Int)
    (artifactVersionId packageHash : String) (now : Int) : Option String :=
  if approvedArtifactVersionId ≠ artifactVersionId then some "ARTIFACT_VERSION_MISMATCH"
  else if approvedPackageHash ≠ packageHash then some "PACKAGE_HASH_MISMATCH"
  else if expiresAt ≤ now then some "APPROVAL_EXPIRED"
  else none

end VentureOS.Approvals

namespace VentureOS.Agents

open Approvals (isApprovalValidForExecution)

/-! ## Rows -/

/-- `ApprovalRequest.kind`. -/
inductive ApprovalKind where
  | VENTURE_PROPOSAL
  | PRODUCT_LISTING
  | PUBLICATION
  | SCALE_DECISION
  deriving DecidableEq, Repr

/-- `ApprovalRequest.state`, as far as it is written. -/
inductive ApprovalState where
  | PENDING
  | APPROVED
  | APPROVED_WITH_CONDITIONS
  | REJECTED
  | REVISION_REQUESTED
  | EXPIRED
  | REVOKED
  deriving DecidableEq, Repr

/-- The state as a string. -/
def ApprovalState.code : ApprovalState → String
  | .PENDING => "PENDING"
  | .APPROVED => "APPROVED"
  | .APPROVED_WITH_CONDITIONS => "APPROVED_WITH_CONDITIONS"
  | .REJECTED => "REJECTED"
  | .REVISION_REQUESTED => "REVISION_REQUESTED"
  | .EXPIRED => "EXPIRED"
  | .REVOKED => "REVOKED"

/-- `DecideApprovalParams.decision`. -/
inductive Decision where
  | APPROVE
  | REJECT
  | REQUEST_REVISION
  | APPROVE_WITH_CONDITIONS
  | REVOKE
  deriving DecidableEq, Repr

/-- The decision as a string. -/
def Decision.code : Decision → String
  | .APPROVE => "APPROVE"
  | .REJECT => "REJECT"
  | .REQUEST_REVISION => "REQUEST_REVISION"
  | .APPROVE_WITH_CONDITIONS => "APPROVE_WITH_CONDITIONS"
  | .REVOKE => "REVOKE"

/-- `DECISION_TO_STATE`. -/
def decisionToState : Decision → ApprovalState
  | .APPROVE => .APPROVED
  | .APPROVE_WITH_CONDITIONS => .APPROVED_WITH_CONDITIONS
  | .REJECT => .REJECTED
  | .REQUEST_REVISION => .REVISION_REQUESTED
  | .REVOKE => .REVOKED

/-- `APPROVED` or `APPROVED_WITH_CONDITIONS`. -/
def ApprovalState.isApproved (state : ApprovalState) : Bool :=
  match state with
  | .APPROVED => true
  | .APPROVED_WITH_CONDITIONS => true
  | _ => false

/-- `ApprovalRequest`, as far as its decision reads or writes it. -/
structure ApprovalRequest where
  id : String
  kind : ApprovalKind
  ventureProposalVersionId : String
  productPackageId : Option String
  listingVersionId : Option String
  experimentId : Option String
  packageHash : String
  expiresAt : Int
  state : ApprovalState
  revokedAt : Option Int
  revokedBy : Option String
  revocationReason : Option String
  deriving DecidableEq, Repr

/-- `ApprovalDecision`. -/
structure ApprovalDecision where
  founderIdentity : String
  decidedAt : Int
  decision : Decision
  conditions : List String
  comment : Option String
  approvedAmountEur : Option Rat
  approvedArtifactVersionId : String
  approvedPackageHash : String
  expiresAt : Int
  auditSignature : String
  deriving DecidableEq, Repr

/-- `RevisionRequest`, which is open. -/
structure RevisionRequest where
  requestedChanges : List String
  reason : String
  deriving DecidableEq, Repr

/-- The request, and its decisions and revisions in the order of their creation. -/
structure ApprovalTables where
  request : ApprovalRequest
  decisions : List ApprovalDecision
  revisions : List RevisionRequest
  deriving DecidableEq, Repr

/-! ## Calls -/

/-- `DecideApprovalParams`, of one request. -/
structure DecideApprovalParams where
  founderIdentity : String
  decision : Decision
  conditions : Option (List String)
  comment : Option String
  approvedAmountEur : Option Rat
  deriving DecidableEq, Repr

/-- What a call throws. -/
inductive ApprovalError where
  /-- `ApprovalNotFoundError`. -/
  | notFound (message : String)
  /-- `ApprovalAlreadyDecidedError`. -/
  | alreadyDecided (message : String)
  /-- `ApprovalNotApprovedError`. -/
  | notApproved (message : String)
  /-- `ApprovalInvalidForExecutionError`. -/
  | invalidForExecution (reason : String)
  /-- `MarketplaceBlockedError`. -/
  | blocked (message : String)
  /-- What a statement has thrown. -/
  | thrown
  deriving DecidableEq, Repr

/-- The current artefact of a request: its id and its hash. -/
structure CurrentArtifact where
  artifactVersionId : String
  packageHash : String
  deriving DecidableEq, Repr

/-- Where a call of `decideApprovalRequest` is: the statement that it waits for, or its end. -/
inductive DecidePoint where
  /-- `prisma.approvalRequest.findFirst`. -/
  | finding
  /-- The current artefact of the request. -/
  | reading (request : ApprovalRequest)
  /-- The update to `EXPIRED`. -/
  | expiring (reason : String)
  /-- The transaction. -/
  | deciding (request : ApprovalRequest) (current : CurrentArtifact) (decidedAt : Int)
  /-- `captureApprovalDecisionMemory`. -/
  | capturing (decision : ApprovalDecision)
  | returned (decision : ApprovalDecision)
  | thrown (error : ApprovalError)
  deriving DecidableEq, Repr

/-- A call of `decideApprovalRequest`. -/
structure DecideCall where
  params : DecideApprovalParams
  point : DecidePoint
  deriving DecidableEq, Repr

/-- Where a call of `publishListing` is, up to the check of the approval. -/
inductive PublishCheckPoint where
  /-- `prisma.approvalRequest.findFirst`. -/
  | finding
  /-- `prisma.approvalDecision.findFirst`. -/
  | findingDecision
  /-- The latest version of the listing. -/
  | reading (decision : ApprovalDecision)
  /-- The update to `EXPIRED`. -/
  | expiring (reason : String)
  /-- The approval is valid, and the call goes on. -/
  | valid
  | thrown (error : ApprovalError)
  deriving DecidableEq, Repr

/-- A call of `publishListing`, up to the check of the approval. -/
structure PublishCheck where
  listingVersionId : String
  point : PublishCheckPoint
  deriving DecidableEq, Repr

/-- A call on the request. -/
inductive ApprovalCall where
  | decide (call : DecideCall)
  | publish (call : PublishCheck)
  deriving DecidableEq, Repr

/-- How a call begins. -/
inductive ApprovalStart where
  | decide (params : DecideApprovalParams)
  | publish (listingVersionId : String)

/-- What comes of what a call waits for. -/
inductive ApprovalReply where
  | throws
  | completes
  /-- The artefact is read, or something is not found, with the times at which the validity and the decision are
  dated. -/
  | reads (current : Except String CurrentArtifact) (now decidedAt : Int)

/-! ## What a call does -/

/-- `approvedArtifactVersionId`, and the error of a request that lacks it. -/
def approvedArtifact (request : ApprovalRequest) : Except ApprovalError String :=
  match request.kind with
  | .PRODUCT_LISTING =>
    match request.productPackageId with
    | some id => .ok id
    | none => .error (.notFound "Product-listing approval request is missing its product package reference")
  | .PUBLICATION =>
    match request.listingVersionId with
    | some id => .ok id
    | none => .error (.notFound "Publication approval request is missing its listing version reference")
  | .SCALE_DECISION =>
    if request.experimentId.isSome then .ok request.ventureProposalVersionId
    else .error (.notFound "Scale-decision approval request is missing its experiment reference")
  | .VENTURE_PROPOSAL => .ok request.ventureProposalVersionId

/-- The states of a request in which a decision may be taken. -/
def expectedStates (decision : Decision) : List ApprovalState :=
  match decision with
  | .REVOKE => [.APPROVED, .APPROVED_WITH_CONDITIONS]
  | _ => [.PENDING]

/-- What is thrown when a request is in another state. -/
def unexpectedState (decision : Decision) (already : String) : ApprovalError :=
  match decision with
  | .REVOKE => .notApproved "Only an approved request may be revoked"
  | _ => .alreadyDecided already

section Calls

variable (auditSignature : String → Decision → Int → String → String)

/-- A call is at this point. -/
def DecideCall.goTo (call : DecideCall) (point : DecidePoint) : DecideCall := { call with point }

/-- A call is at this point. -/
def PublishCheck.goTo (call : PublishCheck) (point : PublishCheckPoint) : PublishCheck := { call with point }

/-- The row of a decision. -/
def newDecision (params : DecideApprovalParams) (request : ApprovalRequest) (current : CurrentArtifact)
    (decidedAt : Int) : ApprovalDecision where
  founderIdentity := params.founderIdentity
  decidedAt := decidedAt
  decision := params.decision
  conditions := params.conditions.getD []
  comment := params.comment
  approvedAmountEur := params.approvedAmountEur
  approvedArtifactVersionId := current.artifactVersionId
  approvedPackageHash := current.packageHash
  expiresAt := request.expiresAt
  auditSignature := auditSignature request.id params.decision decidedAt params.founderIdentity

/-- The transaction of a decision: `none` when the request is in another state. -/
def takeDecision (params : DecideApprovalParams) (decision : ApprovalDecision) (s : ApprovalTables) :
    Option ApprovalTables :=
  if (expectedStates params.decision).contains s.request.state then
    let request := { s.request with state := decisionToState params.decision }
    some {
      request := if params.decision = .REVOKE then
          { request with
            revokedAt := some decision.decidedAt
            revokedBy := some params.founderIdentity
            revocationReason := params.comment }
        else request
      decisions := s.decisions ++ [decision]
      revisions := if params.decision = .REQUEST_REVISION then
          s.revisions ++ [⟨params.conditions.getD [], params.comment.getD "Revision requested by founder."⟩]
        else s.revisions }
  else none

/-- The update to `EXPIRED`. -/
def ApprovalTables.expire (s : ApprovalTables) : ApprovalTables :=
  { s with request := { s.request with state := .EXPIRED } }

/-- What a call of `decideApprovalRequest` does next, when what it waits for has come about. -/
def resumeDecide (reply : ApprovalReply) (call : DecideCall) (s : ApprovalTables) : ApprovalTables × DecideCall :=
  match call.point, reply with
  | .finding, .completes =>
    if (expectedStates call.params.decision).contains s.request.state then
      match approvedArtifact s.request with
      | .ok _ => (s, call.goTo (.reading s.request))
      | .error e => (s, call.goTo (.thrown e))
    else (s, call.goTo (.thrown (unexpectedState call.params.decision
      s!"Approval request has already been decided (state: {s.request.state.code})")))
  | .reading request, .reads current now decidedAt =>
    match approvedArtifact request, current with
    | .ok approved, .ok current =>
      match isApprovalValidForExecution approved request.packageHash request.expiresAt
          current.artifactVersionId current.packageHash now with
      | some reason =>
        if call.params.decision = .REVOKE then (s, call.goTo (.deciding request current decidedAt))
        else (s, call.goTo (.expiring reason))
      | none => (s, call.goTo (.deciding request current decidedAt))
    | .error e, _ => (s, call.goTo (.thrown e))
    | .ok _, .error message => (s, call.goTo (.thrown (.notFound message)))
  | .expiring reason, .completes => (s.expire, call.goTo (.thrown (.invalidForExecution reason)))
  | .deciding request current decidedAt, .completes =>
    let decision := newDecision auditSignature call.params request current decidedAt
    match takeDecision call.params decision s with
    | some s' => (s', call.goTo (.capturing decision))
    | none => (s, call.goTo (.thrown (unexpectedState call.params.decision
        "Approval request has already been decided")))
  | .capturing decision, .completes => (s, call.goTo (.returned decision))
  | .returned _, _ => (s, call)
  | .thrown _, _ => (s, call)
  | _, .throws => (s, call.goTo (.thrown .thrown))
  | _, _ => (s, call)

/-- The latest approval among the decisions. -/
def latestApproval (decisions : List ApprovalDecision) : Option ApprovalDecision :=
  let approvals := decisions.filter fun d => (decisionToState d.decision).isApproved
  approvals.find? fun d => approvals.all fun other => decide (other.decidedAt ≤ d.decidedAt)

/-- What a call of `publishListing` does next. -/
def resumePublishCheck (reply : ApprovalReply) (call : PublishCheck) (s : ApprovalTables) :
    ApprovalTables × PublishCheck :=
  match call.point, reply with
  | .finding, .completes =>
    if s.request.kind ≠ .PUBLICATION ∨ s.request.listingVersionId ≠ some call.listingVersionId then
      (s, call.goTo (.thrown (.blocked "Publication approval request not found")))
    else if s.request.state.isApproved = false then
      (s, call.goTo (.thrown (.blocked
        s!"Publication approval request is not approved (state: {s.request.state.code}).")))
    else (s, call.goTo .findingDecision)
  | .findingDecision, .completes =>
    match latestApproval s.decisions with
    | some decision => (s, call.goTo (.reading decision))
    | none => (s, call.goTo (.thrown (.blocked "Publication approval has no recorded decision")))
  | .reading decision, .reads current now _ =>
    match current with
    | .ok current =>
      match isApprovalValidForExecution decision.approvedArtifactVersionId decision.approvedPackageHash
          decision.expiresAt current.artifactVersionId current.packageHash now with
      | some reason => (s, call.goTo (.expiring reason))
      | none => (s, call.goTo .valid)
    | .error message => (s, call.goTo (.thrown (.blocked message)))
  | .expiring reason, .completes => (s.expire, call.goTo (.thrown (.blocked
      s!"Publication approval is no longer valid ({reason}); a fresh PUBLICATION approval is required.")))
  | .valid, _ => (s, call)
  | .thrown _, _ => (s, call)
  | _, .throws => (s, call.goTo (.thrown .thrown))
  | _, _ => (s, call)

/-- What a call does next. -/
def resumeApproval (reply : ApprovalReply) (call : ApprovalCall) (s : ApprovalTables) :
    ApprovalTables × ApprovalCall :=
  match call with
  | .decide call =>
    let (s', call') := resumeDecide auditSignature reply call s
    (s', .decide call')
  | .publish call =>
    let (s', call') := resumePublishCheck reply call s
    (s', .publish call')

/-- How a call begins. -/
def ApprovalStart.call : ApprovalStart → ApprovalCall
  | .decide params => .decide ⟨params, .finding⟩
  | .publish listingVersionId => .publish ⟨listingVersionId, .finding⟩

/-- The calls on one approval request, in any interleaving. -/
def approvals : CallSystem ApprovalTables ApprovalCall ApprovalStart ApprovalReply Unit where
  start a s := ((), s, a.call)
  resume reply call s := ((), resumeApproval auditSignature reply call s)

/-! ## What a resumption does -/

/-- What a resumption of a call does to the tables. -/
inductive ApprovalEffect (reply : ApprovalReply) (call : ApprovalCall) (s : ApprovalTables) : ApprovalTables → Prop
  | unchanged : ApprovalEffect reply call s s
  | decided (s' : ApprovalTables) (decision : ApprovalDecision) (hkind : decision.decision ≠ .REVOKE)
      (hstate : s.request.state = .PENDING) (hstate' : s'.request.state = decisionToState decision.decision)
      (hdecisions : s'.decisions = s.decisions ++ [decision]) : ApprovalEffect reply call s s'
  | revoked (s' : ApprovalTables) (decision : ApprovalDecision) (hkind : decision.decision = .REVOKE)
      (hstate : s.request.state.isApproved = true) (hstate' : s'.request.state = .REVOKED)
      (hdecisions : s'.decisions = s.decisions ++ [decision]) : ApprovalEffect reply call s s'
  | expired (params : DecideApprovalParams) (reason : String) (hcall : call = .decide ⟨params, .expiring reason⟩)
      (hreply : reply = .completes) : ApprovalEffect reply call s s.expire
  | invalidated (listingVersionId reason : String) (hcall : call = .publish ⟨listingVersionId, .expiring reason⟩)
      (hreply : reply = .completes) : ApprovalEffect reply call s s.expire

variable {auditSignature}

variable {state : ApprovalState}

theorem contains_expectedStates {decision : Decision} :
    (expectedStates decision).contains state = true
      ↔ (decision ≠ .REVOKE ∧ state = .PENDING) ∨ (decision = .REVOKE ∧ state.isApproved = true) := by
  cases decision <;> cases state <;> decide

variable {s s' : ApprovalTables} {reply : ApprovalReply} {call : ApprovalCall}

theorem takeDecision_effect {params : DecideApprovalParams} {decision : ApprovalDecision}
    (hparams : decision.decision = params.decision)
    (h : takeDecision params decision s = some s') : ApprovalEffect reply call s s' := by
  unfold takeDecision at h
  rw [← hparams] at h
  split at h
  next hexpected =>
    rw [Option.some.injEq] at h
    rcases contains_expectedStates.mp hexpected with ⟨hkind, hstate⟩ | ⟨hkind, hstate⟩
    · apply ApprovalEffect.decided s' decision hkind hstate
      · simp only [← h, hkind, if_false]
      · rw [← h]
    · apply ApprovalEffect.revoked s' decision hkind hstate
      · simp only [← h, hkind, if_true, decisionToState]
      · rw [← h]
  next hother => cases h

theorem resumeDecide_effect (reply : ApprovalReply) (call : DecideCall) (s : ApprovalTables) :
    ApprovalEffect reply (.decide call) s (resumeDecide auditSignature reply call s).1 := by
  fun_cases resumeDecide auditSignature reply call s
  case case9 reason hpoint =>
    obtain ⟨params, point⟩ := call
    subst hpoint
    exact .expired params reason rfl rfl
  case case10 request current decidedAt hpoint decision s' htaken =>
    exact takeDecision_effect rfl htaken
  all_goals exact .unchanged

theorem resumePublishCheck_effect (reply : ApprovalReply) (call : PublishCheck) (s : ApprovalTables) :
    ApprovalEffect reply (.publish call) s (resumePublishCheck reply call s).1 := by
  fun_cases resumePublishCheck reply call s
  case case9 reason hpoint =>
    obtain ⟨listingVersionId, point⟩ := call
    subst hpoint
    exact .invalidated listingVersionId reason rfl rfl
  all_goals exact .unchanged

theorem resumeApproval_effect (reply : ApprovalReply) (call : ApprovalCall) (s : ApprovalTables) :
    ApprovalEffect reply call s (resumeApproval auditSignature reply call s).1 := by
  cases call with
  | decide call => exact resumeDecide_effect reply call s
  | publish call => exact resumePublishCheck_effect reply call s

/-! ## The life cycle -/

/-- A request has left every state in which something may be decided. -/
def ApprovalState.isFinal (state : ApprovalState) : Bool :=
  match state with
  | .PENDING => false
  | .APPROVED => false
  | .APPROVED_WITH_CONDITIONS => false
  | _ => true

/-- A step of the life cycle of a request. Only `publishListing` may invalidate an approval. -/
inductive LifeCycle (byPublishListing : Prop) : ApprovalState → ApprovalState → Prop
  | stays (state : ApprovalState) : LifeCycle byPublishListing state state
  | decided (decision : Decision) (h : decision ≠ .REVOKE) :
      LifeCycle byPublishListing .PENDING (decisionToState decision)
  | expired : LifeCycle byPublishListing .PENDING .EXPIRED
  | revoked (state : ApprovalState) (h : state.isApproved = true) : LifeCycle byPublishListing state .REVOKED
  | invalidated (state : ApprovalState) (h : state.isApproved = true) (hby : byPublishListing) :
      LifeCycle byPublishListing state .EXPIRED

/-- A final state stays. -/
theorem LifeCycle.of_isFinal {byPublishListing : Prop} {state' : ApprovalState}
    (h : LifeCycle byPublishListing state state') (hfinal : state.isFinal = true) : state' = state := by
  cases h with
  | stays => rfl
  | decided => cases hfinal
  | expired => cases hfinal
  | revoked _ happroved => cases state <;> cases hfinal <;> cases happroved
  | invalidated _ happroved => cases state <;> cases hfinal <;> cases happroved

/-- The call is one of `publishListing`. -/
def ApprovalCall.IsPublish (call : ApprovalCall) : Prop := ∃ check, call = .publish check

/-- A write of `EXPIRED` meets the request as its writer has read it: a decision writes on a pending request, and
`publishListing` on an approved one, or the request is `EXPIRED` already. -/
def Unmoved (reply : ApprovalReply) (call : ApprovalCall) (s : ApprovalTables) : Prop :=
  match call, reply with
  | .decide ⟨_, .expiring _⟩, .completes => s.request.state = .PENDING ∨ s.request.state = .EXPIRED
  | .publish ⟨_, .expiring _⟩, .completes => s.request.state.isApproved = true ∨ s.request.state = .EXPIRED
  | _, _ => True

/-- The last approval or refusal is what the state says. -/
inductive Consistent : ApprovalState → List Decision → Prop
  | pending : Consistent .PENDING []
  | expired : Consistent .EXPIRED []
  | decided (decision : Decision) (h : decision ≠ .REVOKE) : Consistent (decisionToState decision) [decision]
  | revoked (decision : Decision) (h : (decisionToState decision).isApproved = true) :
      Consistent .REVOKED [decision, .REVOKE]
  | invalidated (decision : Decision) (h : (decisionToState decision).isApproved = true) :
      Consistent .EXPIRED [decision]

/-- What was decided, in the order of the decisions. -/
def ApprovalTables.decided (s : ApprovalTables) : List Decision := s.decisions.map (·.decision)

theorem decided_concat {decision : ApprovalDecision}
    (h : s'.decisions = s.decisions ++ [decision]) : s'.decided = s.decided ++ [decision.decision] := by
  unfold ApprovalTables.decided
  rw [h, List.map_append, List.map_singleton]

variable {decisions : List Decision}

theorem Consistent.of_pending (h : Consistent .PENDING decisions) : decisions = [] := by
  generalize hstate : ApprovalState.PENDING = state at h
  cases h with
  | pending => rfl
  | expired => rfl
  | decided decision => cases decision <;> cases hstate
  | revoked => cases hstate
  | invalidated => cases hstate

theorem Consistent.of_isApproved (h : Consistent state decisions)
    (happroved : state.isApproved = true) :
    ∃ decision, decisions = [decision] ∧ state = decisionToState decision := by
  cases h with
  | decided decision => exact ⟨decision, rfl, rfl⟩
  | _ => cases happroved

/-- A call of `publishListing` that has seen an approved request. -/
def PublishCheckPoint.hasRead (point : PublishCheckPoint) : Bool :=
  match point with
  | .findingDecision => true
  | .reading _ => true
  | .expiring _ => true
  | _ => false

/-- A request that `publishListing` has seen approved is not pending. -/
def HasRead (s : ApprovalTables) (call : ApprovalCall) : Prop :=
  ∀ check, call = .publish check → check.point.hasRead = true → s.request.state ≠ .PENDING

theorem ApprovalEffect.ne_pending
    (h : ApprovalEffect reply call s s') (hstate : s.request.state ≠ .PENDING) : s'.request.state ≠ .PENDING := by
  cases h with
  | unchanged => exact hstate
  | decided _ decision _ _ hstate' =>
    rw [hstate']
    cases decision.decision <;> decide
  | revoked _ _ _ _ hstate' =>
    rw [hstate']
    decide
  | _ => exact fun hexpired => by cases hexpired

/-- A step follows the life cycle when an unguarded write meets what its writer has read. -/
theorem ApprovalEffect.lifeCycle
    (h : ApprovalEffect reply call s s') (hunmoved : Unmoved reply call s) :
    LifeCycle call.IsPublish s.request.state s'.request.state := by
  cases h with
  | unchanged => exact .stays _
  | decided _ decision hkind hstate hstate' =>
    rw [hstate, hstate']
    exact .decided _ hkind
  | revoked _ _ _ hstate hstate' =>
    rw [hstate']
    exact .revoked _ hstate
  | expired params reason hcall hreply =>
    rw [hcall, hreply] at hunmoved
    rcases hunmoved with hpending | hexpired
    · rw [hpending]
      exact .expired
    · rw [hexpired]
      exact .stays _
  | invalidated listingVersionId reason hcall hreply =>
    have hby : call.IsPublish := ⟨_, hcall⟩
    rw [hcall, hreply] at hunmoved
    rcases hunmoved with happroved | hexpired
    · exact .invalidated _ happroved hby
    · rw [hexpired]
      exact .stays _

/-- What a step of the life cycle to `EXPIRED` has left. -/
theorem LifeCycle.of_expired {byPublishListing : Prop}
    (h : LifeCycle byPublishListing state .EXPIRED) :
    state = .EXPIRED ∨ state = .PENDING ∨ (state.isApproved = true ∧ byPublishListing) := by
  generalize hexpired : ApprovalState.EXPIRED = state' at h
  cases h with
  | stays => exact .inl rfl
  | decided decision => cases decision <;> cases hexpired
  | expired => exact .inr (.inl rfl)
  | revoked => cases hexpired
  | invalidated _ happroved hby => exact .inr (.inr ⟨happroved, hby⟩)

/-- A step that follows the life cycle is no unguarded write, or meets what its writer has read. -/
theorem unmoved_of_lifeCycle {reply : ApprovalReply} {call : ApprovalCall} {s : ApprovalTables}
    (hread : HasRead s call)
    (h : LifeCycle call.IsPublish s.request.state (resumeApproval auditSignature reply call s).1.request.state) :
    Unmoved reply call s := by
  unfold Unmoved
  split
  next params reason =>
    rcases LifeCycle.of_expired h with hexpired | hpending | ⟨-, check, hpublish⟩
    · exact .inr hexpired
    · exact .inl hpending
    · cases hpublish
  next listingVersionId reason =>
    rcases LifeCycle.of_expired h with hexpired | hpending | ⟨happroved, -⟩
    · exact .inr hexpired
    · exact absurd hpending (hread _ rfl rfl)
    · exact .inl happroved
  next => trivial

/-- What is consistent stays so under a step that follows the life cycle. -/
theorem ApprovalEffect.consistent
    (h : ApprovalEffect reply call s s') (hunmoved : Unmoved reply call s)
    (hconsistent : Consistent s.request.state s.decided) : Consistent s'.request.state s'.decided := by
  cases h with
  | unchanged => exact hconsistent
  | decided _ decision hkind hstate hstate' hdecisions =>
    rw [hstate] at hconsistent
    rw [hstate', decided_concat hdecisions, hconsistent.of_pending]
    exact .decided _ hkind
  | revoked _ decision hkind hstate hstate' hdecisions =>
    obtain ⟨first, hfirst, hsame⟩ := hconsistent.of_isApproved hstate
    rw [hstate', decided_concat hdecisions, hfirst, hkind]
    apply Consistent.revoked
    rw [← hsame]
    exact hstate
  | expired params reason hcall hreply =>
    rw [hcall, hreply] at hunmoved
    show Consistent .EXPIRED s.decided
    rcases hunmoved with hpending | hexpired
    · rw [hpending] at hconsistent
      rw [hconsistent.of_pending]
      exact .expired
    · rw [← hexpired]
      exact hconsistent
  | invalidated listingVersionId reason hcall hreply =>
    rw [hcall, hreply] at hunmoved
    show Consistent .EXPIRED s.decided
    rcases hunmoved with happroved | hexpired
    · obtain ⟨first, hfirst, hsame⟩ := hconsistent.of_isApproved happroved
      rw [hfirst]
      apply Consistent.invalidated
      rw [← hsame]
      exact happroved
    · rw [← hexpired]
      exact hconsistent

/-- A step after which a request has expired with a decision is one of `publishListing` on an approved request. -/
theorem ApprovalEffect.invalidates
    (h : ApprovalEffect reply call s s') (hunmoved : Unmoved reply call s)
    (hconsistent : Consistent s.request.state s.decided)
    (hnot : ¬(s.request.state = .EXPIRED ∧ s.decided ≠ [])) (hexpired : s'.request.state = .EXPIRED)
    (hsome : s'.decided ≠ []) : call.IsPublish ∧ s.request.state.isApproved = true := by
  cases h with
  | unchanged => exact absurd ⟨hexpired, hsome⟩ hnot
  | decided _ decision _ _ hstate' =>
    rw [hstate'] at hexpired
    cases hdecision : decision.decision <;> rw [hdecision] at hexpired <;> cases hexpired
  | revoked _ _ _ _ hstate' =>
    rw [hstate'] at hexpired
    cases hexpired
  | expired params reason hcall hreply =>
    rw [hcall, hreply] at hunmoved
    rcases hunmoved with hpending | hbefore
    · rw [hpending] at hconsistent
      exact absurd hconsistent.of_pending hsome
    · exact absurd ⟨hbefore, hsome⟩ hnot
  | invalidated listingVersionId reason hcall hreply =>
    have hpublish : call.IsPublish := ⟨_, hcall⟩
    rw [hcall, hreply] at hunmoved
    rcases hunmoved with happroved | hbefore
    · exact ⟨hpublish, happroved⟩
    · exact absurd ⟨hbefore, hsome⟩ hnot

theorem resumePublishCheck_hasRead {call : PublishCheck}
    (hread : HasRead s (.publish call)) :
    (resumePublishCheck reply call s).2.point.hasRead = true → s.request.state ≠ .PENDING := by
  have hbefore := hread call rfl
  fun_cases resumePublishCheck reply call s
  case case3 hpoint _ hstate =>
    intro _ hpending
    rw [hpending] at hstate
    exact hstate rfl
  all_goals simp_all [PublishCheck.goTo, PublishCheckPoint.hasRead]

/-! ## Runs -/

/-- A request that has just been raised. -/
def raised (request : ApprovalRequest) : ApprovalTables where
  request := { request with state := .PENDING, revokedAt := none, revokedBy := none, revocationReason := none }
  decisions := []
  revisions := []

/-- A step of a run. -/
abbrev ApprovalEntry :=
  Entry (Move ApprovalStart ApprovalReply) (Option Unit) (Pool ApprovalTables ApprovalCall)

/-- The step is one of a call of `publishListing`. -/
def ByPublishListing (e : ApprovalEntry) : Prop :=
  ∃ i reply check, e.label = .resume i reply ∧ e.before.calls[i]? = some (.publish check)

/-- The step follows the life cycle. -/
def FollowsLifeCycle (e : ApprovalEntry) : Prop :=
  LifeCycle (ByPublishListing e) e.before.shared.request.state e.after.shared.request.state

theorem LifeCycle.mono {p q : Prop} {state state' : ApprovalState} (himp : p → q) (h : LifeCycle p state state') :
    LifeCycle q state state' := by
  cases h with
  | stays => exact .stays _
  | decided decision hkind => exact .decided decision hkind
  | expired => exact .expired
  | revoked _ happroved => exact .revoked _ happroved
  | invalidated _ happroved hby => exact .invalidated _ happroved (himp hby)

variable (auditSignature) (request : ApprovalRequest)

/-- The request after some moves. -/
def afterMoves (moves : List (Move ApprovalStart ApprovalReply)) : ApprovalTables :=
  ((approvals auditSignature).pool (raised request) moves).shared

/-- The steps of some moves. -/
def stepsOf (moves : List (Move ApprovalStart ApprovalReply)) : List ApprovalEntry :=
  history (approvals auditSignature).step ⟨raised request, []⟩ moves

variable {auditSignature request}

theorem hasRead_pool (moves : List (Move ApprovalStart ApprovalReply)) :
    ∀ call ∈ ((approvals auditSignature).pool (raised request) moves).calls,
      HasRead (afterMoves auditSignature request moves) call := by
  refine ((approvals auditSignature).invariant (I := fun _ => True) trivial ?_ ?_ moves).2
  · intro start s _
    refine ⟨trivial, fun check hcheck hread => ?_, fun call hcall => hcall⟩
    cases start with
    | decide params => cases hcheck
    | publish listingVersionId =>
      cases hcheck
      cases hread
  · intro reply call s _ hread
    have heffect := @resumeApproval_effect auditSignature reply call s
    refine ⟨trivial, fun check hcheck hpoint => ?_, fun other hother check hcheck hpoint => ?_⟩
    · cases call with
      | decide call => cases hcheck
      | publish call =>
        cases hcheck
        exact heffect.ne_pending (resumePublishCheck_hasRead hread hpoint)
    · exact heffect.ne_pending (hother check hcheck hpoint)

variable {moves : List (Move ApprovalStart ApprovalReply)}

/-- A step of a run follows the life cycle exactly when an unguarded write meets what its writer has read. -/
theorem followsLifeCycle_iff {e : ApprovalEntry}
    (he : e ∈ stepsOf auditSignature request moves) :
    FollowsLifeCycle e ↔ ∀ i reply call, e.label = .resume i reply → e.before.calls[i]? = some call →
      Unmoved reply call e.before.shared := by
  obtain ⟨before, move, after, -, rfl⟩ := eq_entryAt_of_mem_history _ he
  have hread := @hasRead_pool auditSignature request before
  unfold FollowsLifeCycle ByPublishListing
  unfold afterMoves CallSystem.pool at hread
  simp only [entryAt]
  generalize run (approvals auditSignature).step ⟨raised request, []⟩ before = p at hread ⊢
  cases move with
  | start start =>
    refine ⟨fun _ i reply call hmove => (by cases hmove), fun _ => ?_⟩
    exact .stays _
  | resume i reply =>
    cases hcall : p.calls[i]? with
    | none =>
      rw [(approvals auditSignature).step_resume_of_none hcall]
      refine ⟨fun _ i' reply' call' hmove hcall' => ?_, fun _ => .stays _⟩
      cases hmove
      rw [hcall] at hcall'
      cases hcall'
    | some call =>
      rw [(approvals auditSignature).step_resume_of_some hcall]
      have hreadCall := hread call (List.mem_of_getElem? hcall)
      constructor
      · intro hlife i' reply' call' hmove hcall'
        cases hmove
        rw [hcall, Option.some.injEq] at hcall'
        rw [← hcall']
        refine @unmoved_of_lifeCycle auditSignature reply call p.shared hreadCall (hlife.mono ?_)
        rintro ⟨i', reply', check, hmove, hcheck⟩
        cases hmove
        rw [hcall, Option.some.injEq] at hcheck
        exact ⟨check, hcheck⟩
      · intro hunmoved
        refine ((resumeApproval_effect reply call p.shared).lifeCycle (hunmoved i reply call rfl hcall)).mono ?_
        rintro ⟨check, rfl⟩
        exact ⟨i, reply, check, rfl, hcall⟩

/-- The first moves of a run. -/
theorem unmoved_of_append {before after : List (Move ApprovalStart ApprovalReply)}
    (h : (approvals auditSignature).EachResume Unmoved (raised request) (before ++ after)) :
    (approvals auditSignature).EachResume Unmoved (raised request) before := by
  intro e he
  refine h e ?_
  rw [history_append]
  exact List.mem_append_left _ he

theorem consistent_afterMoves
    (h : (approvals auditSignature).EachResume Unmoved (raised request) moves) :
    Consistent (afterMoves auditSignature request moves).request.state
      (afterMoves auditSignature request moves).decided := by
  refine ((approvals auditSignature).invariant_where
    (I := fun s => Consistent s.request.state s.decided) (L := fun _ _ => True) .pending ?_ ?_ h).1
  · exact fun start s hconsistent => ⟨hconsistent, trivial, fun _ _ => trivial⟩
  · intro reply call s hunmoved hconsistent _
    exact ⟨(resumeApproval_effect reply call s).consistent hunmoved hconsistent, trivial, fun _ _ => trivial⟩

/-- A final state stays. -/
theorem state_of_isFinal {before after : List (Move ApprovalStart ApprovalReply)}
    (hsteps : ∀ e ∈ stepsOf auditSignature request (before ++ after), FollowsLifeCycle e)
    (hfinal : (afterMoves auditSignature request before).request.state.isFinal = true) :
    (afterMoves auditSignature request (before ++ after)).request.state
      = (afterMoves auditSignature request before).request.state := by
  induction after using List.reverseRecOn with
  | nil => rw [List.append_nil]
  | append_singleton after move ih =>
    unfold stepsOf at hsteps ih
    rw [← List.append_assoc, history_concat, List.forall_mem_append] at hsteps
    have hlast := hsteps.2 _ (List.mem_singleton_self _)
    have hbefore := ih hsteps.1
    rw [← hbefore, ← List.append_assoc]
    unfold afterMoves
    rw [CallSystem.pool_concat]
    apply LifeCycle.of_isFinal hlast
    rw [← hbefore] at hfinal
    exact hfinal

/-- At most one decision is no revocation. -/
theorem Consistent.decisions_le
    (h : Consistent state decisions) : (decisions.filter fun d => d ≠ .REVOKE).length ≤ 1 := by
  cases h with
  | pending => decide
  | expired => decide
  | decided decision => cases decision <;> decide
  | revoked decision => cases decision <;> decide
  | invalidated decision => cases decision <;> decide

/-- The state is what the last decision says, or the request has expired after an approval. -/
theorem Consistent.latest (h : Consistent state decisions) :
    (∀ d, state = decisionToState d ↔ decisions.getLast? = some d) ∨ (state = .EXPIRED ∧ decisions ≠ []) := by
  cases h with
  | decided decision => exact .inl (fun d => by cases decision <;> cases d <;> decide)
  | revoked decision => exact .inl (fun d => by cases d <;> simp [decisionToState])
  | invalidated => exact .inr ⟨rfl, List.cons_ne_nil _ _⟩
  | _ => exact .inl (fun d => by cases d <;> decide)

/-- A request that has expired with a decision was invalidated by `publishListing`. -/
theorem exists_invalidated
    (h : (approvals auditSignature).EachResume Unmoved (raised request) moves)
    (hstate : (afterMoves auditSignature request moves).request.state = .EXPIRED)
    (hdecided : (afterMoves auditSignature request moves).decided ≠ []) :
    ∃ e ∈ stepsOf auditSignature request moves, ByPublishListing e ∧ e.before.shared.request.state.isApproved = true
      ∧ e.after.shared.request.state = .EXPIRED := by
  -- the step at which the request comes to be expired with a decision
  obtain ⟨before, move, after, rfl, hnot, hexpired, hsome⟩ := exists_step_of_run
    (approvals auditSignature).step (P := fun p => p.shared.request.state = .EXPIRED ∧ p.shared.decided ≠ [])
    (fun hinit => hinit.2 rfl) ⟨hstate, hdecided⟩
  have hmem : entryAt (approvals auditSignature).step ((approvals auditSignature).pool (raised request) before) move
      ∈ stepsOf auditSignature request (before ++ move :: after) := by
    unfold stepsOf
    rw [history_append]
    exact List.mem_append_right _ List.mem_cons_self
  have hconsistent := consistent_afterMoves (unmoved_of_append h)
  have hunmoved := h _ hmem
  refine ⟨_, hmem, ?_⟩
  unfold ByPublishListing
  unfold afterMoves at hconsistent
  simp only [entryAt] at hunmoved ⊢
  have hpool : run (approvals auditSignature).step ⟨raised request, []⟩ before
      = (approvals auditSignature).pool (raised request) before := rfl
  rw [hpool] at hnot hexpired hsome
  generalize (approvals auditSignature).pool (raised request) before = p at *
  cases move with
  | start start => exact absurd ⟨hexpired, hsome⟩ hnot
  | resume i reply =>
    cases hcall : p.calls[i]? with
    | none =>
      rw [(approvals auditSignature).step_resume_of_none hcall] at hexpired hsome
      exact absurd ⟨hexpired, hsome⟩ hnot
    | some call =>
      rw [(approvals auditSignature).step_resume_of_some hcall] at hexpired hsome ⊢
      obtain ⟨⟨check, rfl⟩, happroved⟩ := (resumeApproval_effect reply call p.shared).invalidates
        (hunmoved i reply call rfl hcall) hconsistent hnot hexpired hsome
      exact ⟨⟨i, reply, check, rfl, hcall⟩, happroved, hexpired⟩

variable (auditSignature request)

/-- The decisions that are no revocation are at most one, and the state is what the last decision says, unless
`publishListing` has invalidated an approval. -/
structure DecisionStands (moves : List (Move ApprovalStart ApprovalReply)) : Prop where
  oneDecision : ((afterMoves auditSignature request moves).decided.filter fun d => d ≠ .REVOKE).length ≤ 1
  latest : (∀ d, (afterMoves auditSignature request moves).request.state = decisionToState d
        ↔ (afterMoves auditSignature request moves).decided.getLast? = some d)
    ∨ ((afterMoves auditSignature request moves).request.state = .EXPIRED
      ∧ ∃ e ∈ stepsOf auditSignature request moves, ByPublishListing e
        ∧ e.before.shared.request.state.isApproved = true ∧ e.after.shared.request.state = .EXPIRED)

/-- No decision is overwritten in a run: every step follows the life cycle, a final state stays, and the decision
stands in every state that is reached. -/
structure DecisionsKept (moves : List (Move ApprovalStart ApprovalReply)) : Prop where
  lifeCycle : ∀ e ∈ stepsOf auditSignature request moves, FollowsLifeCycle e
  final : ∀ before between after, moves = before ++ between ++ after →
    (afterMoves auditSignature request before).request.state.isFinal = true →
    (afterMoves auditSignature request (before ++ between)).request.state
      = (afterMoves auditSignature request before).request.state
  stands : ∀ before after, moves = before ++ after → DecisionStands auditSignature request before

/-- **No decision is overwritten in a run exactly when every unguarded write of the run meets the request as its
writer has read it.** -/
theorem decisionsKept_iff (moves : List (Move ApprovalStart ApprovalReply)) :
    DecisionsKept auditSignature request moves
      ↔ (approvals auditSignature).EachResume Unmoved (raised request) moves := by
  have hiff : (∀ e ∈ stepsOf auditSignature request moves, FollowsLifeCycle e)
      ↔ (approvals auditSignature).EachResume Unmoved (raised request) moves :=
    forall₂_congr fun e he => followsLifeCycle_iff he
  refine ⟨fun h => hiff.mp h.lifeCycle, fun h => ⟨hiff.mpr h, ?_, ?_⟩⟩
  · rintro before between after rfl hfinal
    have hbefore : (approvals auditSignature).EachResume Unmoved (raised request) (before ++ between) :=
      unmoved_of_append h
    exact state_of_isFinal (fun e he => (followsLifeCycle_iff he).mpr (hbefore e he)) hfinal
  · rintro before after rfl
    have hbefore := unmoved_of_append h
    have hconsistent := consistent_afterMoves hbefore
    refine ⟨hconsistent.decisions_le, hconsistent.latest.imp_right ?_⟩
    rintro ⟨hstate, hdecided⟩
    exact ⟨hstate, exists_invalidated hbefore hstate hdecided⟩

/-! ### A decision that is overwritten -/

/-- A request to approve a venture proposal. -/
def proposalRequest : ApprovalRequest where
  id := "request"
  kind := .VENTURE_PROPOSAL
  ventureProposalVersionId := "version-1"
  productPackageId := none
  listingVersionId := none
  experimentId := none
  packageHash := "hash-1"
  expiresAt := 1000
  state := .PENDING
  revokedAt := none
  revokedBy := none
  revocationReason := none

/-- A decision of the founder without comment. -/
def plainDecision (decision : Decision) : DecideApprovalParams := ⟨"founder", decision, none, none, none⟩

/-- The founder rejects the request. A second decision has begun before, and reads a newer version of the proposal. -/
def overtakenDecision : List (Move ApprovalStart ApprovalReply) :=
  [.start (.decide (plainDecision .REJECT)), .start (.decide (plainDecision .APPROVE)),
    .resume 0 .completes, .resume 1 .completes,
    .resume 0 (.reads (.ok ⟨"version-1", "hash-1"⟩) 10 10), .resume 1 (.reads (.ok ⟨"version-2", "hash-2"⟩) 20 20),
    .resume 0 .completes]

/-- **A rejected request becomes `EXPIRED`.** -/
theorem rejected_expires : ¬DecisionsKept (fun id _ _ founder => id ++ founder) proposalRequest
    (overtakenDecision ++ [.resume 1 .completes]) := by
  intro h
  have hstays := h.final overtakenDecision [.resume 1 .completes] [] rfl rfl
  have hchanged : (afterMoves (fun id _ _ founder => id ++ founder) proposalRequest
      (overtakenDecision ++ [.resume 1 .completes])).request.state ≠ (afterMoves (fun id _ _ founder => id ++ founder)
        proposalRequest overtakenDecision).request.state := by
    decide
  exact hchanged hstays

end Calls

end VentureOS.Agents
