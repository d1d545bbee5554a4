import VentureOS.Foundations.Interleaving
import VentureOS.Membership.Effects

/-! # Calls on members

The methods of `WorkspacesService` that write members, invitations or sessions, `AuthService.login` after its throttle,
and registrations, in any order. A transaction is a first read and then, from where it holds its locks, one piece; a
login has every statement to itself. -/

namespace VentureOS.Membership

/-- How a call begins. -/
inductive Request where
  | createInvitation (workspaceId actorId : String) (role : CollaborationRole) (expiresInHours : Nat)
      (rawToken : String) (startedAt : Int)
  | acceptInvitation (token email displayName : String)
  | acceptInvitationForAuthenticatedUser (token sessionId userId : String)
  | changeMemberRole (workspaceId actorId memberId : String) (role : CollaborationRole)
  | removeMember (workspaceId actorId memberId : String)
  | switchWorkspace (sessionId userId workspaceId : String)
  | login (email : String)
  /-- A registration, as far as it makes an account. -/
  | register (user : User)
  deriving DecidableEq, Repr

/-- Where a call is: what it waits for, or its end. -/
inductive Point where
  /-- The read of the invitation before the transaction. -/
  | preflight
  /-- `hashPasswordAsync`. -/
  | hashing
  /-- The first read of the transaction, which says what to lock. -/
  | referring (retried : Bool)
  /-- The rest of the transaction, from where it holds its locks. -/
  | locked (retried : Bool)
  /-- `user.findUnique` of `login`. -/
  | finding
  /-- `verifyPasswordAsync`. -/
  | verifying (user : Option User)
  /-- `clearLoginAccount`. -/
  | clearing (user : User)
  /-- `workspaceMember.findFirst` of `login`. -/
  | choosing (user : User)
  /-- `session.create`. -/
  | inserting (user : User) (workspaceId : String)
  /-- The event of a login. -/
  | recording
  | done
  | thrown (error : MembershipError)
  deriving DecidableEq, Repr

/-- A call. -/
structure Call where
  request : Request
  point : Point
  deriving DecidableEq, Repr

/-- A call is at this point. -/
def Call.goTo (call : Call) (point : Point) : Call := { call with point }

/-- Where a call begins. -/
def Request.begins : Request → Point
  | .createInvitation _ _ _ _ _ _ => .locked false
  | .acceptInvitation _ _ _ => .preflight
  | .acceptInvitationForAuthenticatedUser _ _ _ => .preflight
  | .changeMemberRole _ _ _ _ => .referring false
  | .removeMember _ _ _ => .referring false
  | .switchWorkspace _ _ _ => .locked false
  | .login _ => .finding
  | .register _ => .locked false

section Calls

variable (sha256 normalize : String → String) (maxWorkspaceMembers : String → Option Int)

/-- `digestInvitationToken`. -/
def digestInvitationToken (token : String) : String := sha256 ("ventureos-workspace-invite:" ++ token)

/-- What a call checks before its transaction, and what it does next. -/
def checkPreflight (request : Request) (now : Int) (tables : Tables) : Except MembershipError Point :=
  match request with
  | .acceptInvitation token _ _ => do
    let _ ← assertInvitationActive (tables.invitationFor (digestInvitationToken sha256 token)) now
    pure .hashing
  | .acceptInvitationForAuthenticatedUser token _ userId => do
    let _ ← assertInvitationClaimableByActor (tables.invitationFor (digestInvitationToken sha256 token)) userId now
    pure (.referring false)
  | _ => .error .statement

/-- The first read of a transaction. -/
def checkReference (request : Request) (tables : Tables) : Except MembershipError Unit :=
  match request with
  | .acceptInvitation token _ _ =>
    throwIf ((tables.invitationFor (digestInvitationToken sha256 token)).isNone = true)
      (.notFound "Invitation is invalid or unavailable")
  | .acceptInvitationForAuthenticatedUser token _ _ =>
    throwIf ((tables.invitationFor (digestInvitationToken sha256 token)).isNone = true)
      (.notFound "Invitation is invalid or unavailable")
  | .changeMemberRole workspaceId _ memberId _ =>
    throwIf ((tables.memberWithId workspaceId memberId).isNone = true) (.notFound "Workspace member not found")
  | .removeMember workspaceId _ memberId =>
    throwIf ((tables.memberWithId workspaceId memberId).isNone = true) (.notFound "Workspace member not found")
  | _ => .error .statement

/-- The transaction of a call, from where it holds its locks. -/
def transact (request : Request) (supply : Supply) (tables : Tables) : Except MembershipError (Event × Tables) :=
  match request with
  | .createInvitation workspaceId actorId role expiresInHours rawToken startedAt =>
    createInvitation maxWorkspaceMembers workspaceId actorId role (digestInvitationToken sha256 rawToken)
      (startedAt + expiresInHours * 60 * 60 * 1000) supply tables
  | .acceptInvitation token email displayName =>
    acceptInvitation maxWorkspaceMembers (digestInvitationToken sha256 token) (normalize email) displayName supply
      tables
  | .acceptInvitationForAuthenticatedUser token sessionId userId =>
    acceptInvitationForAuthenticatedUser maxWorkspaceMembers (digestInvitationToken sha256 token) sessionId userId
      supply tables
  | .changeMemberRole workspaceId actorId memberId role =>
    changeMemberRole workspaceId actorId memberId role supply tables
  | .removeMember workspaceId actorId memberId => removeMember workspaceId actorId memberId supply tables
  | .switchWorkspace sessionId userId workspaceId => switchWorkspace sessionId userId workspaceId supply tables
  | .register user => registerUser user tables
  | .login _ => .error .statement

/-- What is tried once more: an acceptance whose user was registered meanwhile. -/
def retries (request : Request) (error : MembershipError) (retried : Bool) : Bool :=
  match request with
  | .acceptInvitation _ _ _ => decide (error = .emailConstraint) && !retried
  | _ => false

/-- `initialMembership` of `login`: the first membership of a user. -/
def initialMembership (tables : Tables) (userId : String) : Option WorkspaceMember :=
  ((tables.members.filter fun member => member.userId = userId).insertionSort fun left right =>
    left.createdAt < right.createdAt ∨ left.createdAt = right.createdAt ∧ left.id ≤ right.id).head?

/-- The session of a login. -/
def newSession (user : User) (workspaceId : String) (supply : Supply) : Session where
  id := supply.sessionId
  userId := user.id
  activeWorkspaceId := some workspaceId
  tokenDigest := supply.sessionTokenDigest
  expiresAt := supply.sessionExpiresAt
  revokedAt := none

/-- A call goes on: what is committed, the rows, and the call. -/
def resumeCall (supply : Supply) (call : Call) (tables : Tables) : Option Event × Tables × Call :=
  match call.point with
  | .preflight =>
    match checkPreflight sha256 call.request supply.now tables with
    | .error error => (none, tables, call.goTo (.thrown error))
    | .ok point => (none, tables, call.goTo point)
  | .hashing => (none, tables, call.goTo (.referring false))
  | .referring retried =>
    match checkReference sha256 call.request tables with
    | .error error => (none, tables, call.goTo (.thrown error))
    | .ok () => (none, tables, call.goTo (.locked retried))
  | .locked retried =>
    match transact sha256 normalize maxWorkspaceMembers call.request supply tables with
    | .error error =>
      (none, tables, call.goTo (if retries call.request error retried then .referring true else .thrown error))
    | .ok (event, tables') => (some event, tables', call.goTo .done)
  | .finding =>
    match call.request with
    | .login email => (none, tables, call.goTo (.verifying (tables.userWithEmail (normalize email))))
    | _ => (none, tables, call.goTo (.thrown .statement))
  | .verifying user =>
    match user.filter fun user => user.passwordHash.getD "" ≠ "" ∧ supply.passwordOk = true with
    | none => (none, tables, call.goTo (.thrown (.unauthorized "Invalid email or password")))
    | some user => (none, tables, call.goTo (.clearing user))
  | .clearing user => (none, tables, call.goTo (.choosing user))
  | .choosing user =>
    match initialMembership tables user.id with
    | none => (none, tables, call.goTo (.thrown (.unauthorized "Account has no workspace access")))
    | some member => (none, tables, call.goTo (.inserting user member.workspaceId))
  | .inserting user workspaceId =>
    match createSession (newSession user workspaceId supply) tables with
    | .error error => (none, tables, call.goTo (.thrown error))
    | .ok (event, tables') => (some event, tables', call.goTo .recording)
  | .recording => (none, tables, call.goTo .done)
  | .done => (none, tables, call)
  | .thrown _ => (none, tables, call)

/-- A call goes on, or ends because a statement has thrown. -/
def resumeOrThrow (reply : Option Supply) (call : Call) (tables : Tables) : Option Event × Tables × Call :=
  match reply with
  | some supply => resumeCall sha256 normalize maxWorkspaceMembers supply call tables
  | none =>
    match call.point with
    | .done => (none, tables, call)
    | .thrown _ => (none, tables, call)
    | _ => (none, tables, call.goTo (.thrown .statement))

/-- The calls. What is shown is what is committed. -/
def service : CallSystem Tables Call Request (Option Supply) (Option Event) where
  start request tables := (none, tables, ⟨request, request.begins⟩)
  resume := resumeOrThrow sha256 normalize maxWorkspaceMembers

end Calls

/-! ## What a piece does -/

variable {sha256 normalize : String → String} {maxWorkspaceMembers : String → Option Int}

variable {request : Request}

theorem transact_effect {supply : Supply} {tables tables' : Tables} {event : Event} (stored : Stored tables)
    (h : transact sha256 normalize maxWorkspaceMembers request supply tables = .ok (event, tables')) :
    Effect maxWorkspaceMembers event tables tables' := by
  cases request with
  | createInvitation workspaceId actorId role expiresInHours rawToken startedAt => exact createInvitation_effect h
  | acceptInvitation token email displayName => exact acceptInvitation_effect stored h
  | acceptInvitationForAuthenticatedUser token sessionId userId =>
    exact acceptInvitationForAuthenticatedUser_effect stored h
  | changeMemberRole workspaceId actorId memberId role => exact changeMemberRole_effect h
  | removeMember workspaceId actorId memberId => exact removeMember_effect h
  | switchWorkspace sessionId userId workspaceId => exact switchWorkspace_effect h
  | register user => exact registerUser_effect h
  | login email => cases h

/-- What a request may commit. -/
def Request.Commits : Request → Event → Prop
  | .createInvitation workspaceId _ role _ _ _, .invited invitation =>
    invitation.workspaceId = workspaceId ∧ invitation.role = role
  | .acceptInvitation _ _ _, .used _ => True
  | .acceptInvitationForAuthenticatedUser _ _ userId, .used use => use.userId = userId
  | .changeMemberRole _ _ memberId role, .roleChanged memberId' role' => memberId' = memberId ∧ role' = role
  | .removeMember workspaceId _ memberId, .removed member => member.id = memberId ∧ member.workspaceId = workspaceId
  | .switchWorkspace sessionId _ workspaceId, .switched sessionId' workspaceId' =>
    sessionId' = sessionId ∧ workspaceId' = workspaceId
  | .register user, .registered user' => user' = user
  | _, _ => False

/-- **A transaction commits what its request may commit.** -/
theorem transact_commits {supply : Supply} {tables tables' : Tables} {event : Event}
    (h : transact sha256 normalize maxWorkspaceMembers request supply tables = .ok (event, tables')) :
    request.Commits event := by
  cases request with
  | createInvitation workspaceId actorId role expiresInHours rawToken startedAt =>
    simp only [transact, createInvitation, check_bind_eq_ok, except_pure_eq_ok, Prod.mk.injEq] at h
    obtain ⟨-, -, -, -, rfl, -⟩ := h
    exact ⟨rfl, rfl⟩
  | acceptInvitation token email displayName =>
    obtain ⟨invitation, -, h⟩ := except_bind_eq_ok.mp h
    rw [check_bind_eq_ok] at h
    replace h := h.2
    split at h
    · obtain ⟨invitations, -, h⟩ := except_bind_eq_ok.mp h
      cases h
      trivial
    · obtain ⟨users, -, h⟩ := except_bind_eq_ok.mp h
      obtain ⟨members, -, h⟩ := except_bind_eq_ok.mp h
      obtain ⟨invitations, -, h⟩ := except_bind_eq_ok.mp h
      cases h
      trivial
  | acceptInvitationForAuthenticatedUser token sessionId userId =>
    simp only [transact, acceptInvitationForAuthenticatedUser, check_bind_eq_ok] at h
    obtain ⟨invitation, -, h⟩ := except_bind_eq_ok.mp h.2
    obtain ⟨⟨member, members⟩, -, h⟩ := except_bind_eq_ok.mp h
    obtain ⟨invitations, -, h⟩ := except_bind_eq_ok.mp h
    obtain ⟨sessions, -, h⟩ := except_bind_eq_ok.mp h
    cases h
    exact rfl
  | changeMemberRole workspaceId actorId memberId role =>
    simp only [transact, changeMemberRole, check_bind_eq_ok] at h
    obtain ⟨-, h⟩ := h
    split at h
    · cases h
    · rename_i member hmember
      simp only [check_bind_eq_ok, except_pure_eq_ok, Prod.mk.injEq] at h
      obtain ⟨-, -, rfl, -⟩ := h
      exact ⟨(memberWithId_mem hmember).2.1, rfl⟩
  | removeMember workspaceId actorId memberId =>
    simp only [transact, removeMember, check_bind_eq_ok] at h
    obtain ⟨-, h⟩ := h
    split at h
    · cases h
    · rename_i member hmember
      simp only [check_bind_eq_ok, except_pure_eq_ok, Prod.mk.injEq] at h
      obtain ⟨-, rfl, -⟩ := h
      exact (memberWithId_mem hmember).2
  | switchWorkspace sessionId userId workspaceId =>
    simp only [transact, switchWorkspace, check_bind_eq_ok] at h
    obtain ⟨sessions, -, h⟩ := except_bind_eq_ok.mp h.2.2
    cases h
    exact ⟨rfl, rfl⟩
  | register user =>
    obtain ⟨users, -, h⟩ := except_bind_eq_ok.mp h
    cases h
    exact rfl
  | login email => cases h

theorem checkPreflight_ne_done {now : Int} {tables : Tables} {point : Point}
    (h : checkPreflight sha256 request now tables = .ok point) : point ≠ .done := by
  rintro rfl
  cases request with
  | acceptInvitation token email displayName =>
    obtain ⟨invitation, -, hdone⟩ := except_bind_eq_ok.mp h
    cases hdone
  | acceptInvitationForAuthenticatedUser token sessionId userId =>
    obtain ⟨invitation, -, hdone⟩ := except_bind_eq_ok.mp h
    cases hdone
  | _ => cases h

/-- What a piece has done: nothing, or it has committed a transaction or a session. -/
inductive Piece (sha256 normalize : String → String) (maxWorkspaceMembers : String → Option Int) (call : Call)
    (tables : Tables) : Option Event × Tables × Call → Prop where
  | quiet {next : Call} (same : next.request = call.request)
      (end_ : next.point = .done → call.point = .done ∨ call.point = .recording) :
      Piece sha256 normalize maxWorkspaceMembers call tables (none, tables, next)
  | commits {retried : Bool} {supply : Supply} {event : Event} {tables' : Tables} (point : call.point = .locked retried)
      (transacts : transact sha256 normalize maxWorkspaceMembers call.request supply tables = .ok (event, tables')) :
      Piece sha256 normalize maxWorkspaceMembers call tables (some event, tables', call.goTo .done)
  | signsIn {user : User} {workspaceId : String} {supply : Supply} {event : Event} {tables' : Tables}
      (point : call.point = .inserting user workspaceId)
      (creates : createSession (newSession user workspaceId supply) tables = .ok (event, tables')) :
      Piece sha256 normalize maxWorkspaceMembers call tables (some event, tables', call.goTo .recording)

/-- **Every piece is one of these.** -/
theorem piece (reply : Option Supply) (call : Call) (tables : Tables) :
    Piece sha256 normalize maxWorkspaceMembers call tables
      (resumeOrThrow sha256 normalize maxWorkspaceMembers reply call tables) := by
  rcases call with ⟨request, point⟩
  cases reply with
  | none => cases point <;> exact .quiet rfl (fun h => (by first | exact .inl h | cases h))
  | some supply =>
    show Piece _ _ _ _ _ (resumeCall _ _ _ supply _ tables)
    cases point with
    | preflight =>
      simp only [resumeCall]
      split
      · exact .quiet rfl fun h => (by cases h)
      · rename_i point hchecked
        exact .quiet rfl fun h => absurd h (checkPreflight_ne_done hchecked)
    | hashing => exact .quiet rfl fun h => (by cases h)
    | locked retried =>
      simp only [resumeCall]
      split
      · refine .quiet rfl fun h => ?_
        simp only [Call.goTo] at h
        split at h
        · cases h
        · cases h
      · rename_i htransacts
        exact .commits rfl htransacts
    | clearing user => exact .quiet rfl fun h => (by cases h)
    | inserting user workspaceId =>
      simp only [resumeCall]
      split
      · exact .quiet rfl fun h => (by cases h)
      · rename_i hcreates
        exact .signsIn rfl hcreates
    | recording => exact .quiet rfl fun _ => .inr rfl
    | done => exact .quiet rfl fun _ => .inl rfl
    | thrown error => exact .quiet rfl fun h => (by cases h)
    | _ =>
      simp only [resumeCall]
      split
      · exact .quiet rfl fun h => (by cases h)
      · exact .quiet rfl fun h => (by cases h)

end VentureOS.Membership
