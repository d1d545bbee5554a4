import Mathlib.Data.List.Sort
import VentureOS.Foundations.Program

/-! # Rows of members

The users, members, invitations and sessions that `workspaces.service.ts`, `auth.service.ts` and
`session-auth.guard.ts` read and write, and the checks that they share. -/

namespace VentureOS.Membership

/-- `CollaborationRole`: the roles that a founder gives. -/
inductive CollaborationRole where
  | OPERATOR
  | VIEWER
  deriving DecidableEq, Repr

/-- `Role.key`. -/
inductive RoleKey where
  | FOUNDER
  | OPERATOR
  | VIEWER
  deriving DecidableEq, Repr

/-- The key of a role that a founder gives. -/
def CollaborationRole.key : CollaborationRole → RoleKey
  | .OPERATOR => .OPERATOR
  | .VIEWER => .VIEWER

theorem CollaborationRole.key_ne_founder (role : CollaborationRole) : role.key ≠ .FOUNDER := by
  cases role <;> decide

/-- `User`. -/
structure User where
  id : String
  email : String
  displayName : String
  isFounder : Bool
  passwordHash : Option String
  deletedAt : Option Int
  deriving DecidableEq, Repr

/-- `WorkspaceMember`, with its role. -/
structure WorkspaceMember where
  id : String
  workspaceId : String
  userId : String
  role : RoleKey
  createdAt : Int
  deriving DecidableEq, Repr

/-- `WorkspaceInvitation`, with its role. -/
structure WorkspaceInvitation where
  id : String
  workspaceId : String
  role : CollaborationRole
  createdById : String
  acceptedById : Option String
  tokenDigest : String
  expiresAt : Int
  acceptedAt : Option Int
  claimPending : Bool
  revokedAt : Option Int
  deriving DecidableEq, Repr

/-- `Session`. -/
structure Session where
  id : String
  userId : String
  activeWorkspaceId : Option String
  tokenDigest : String
  expiresAt : Int
  revokedAt : Option Int
  deriving DecidableEq, Repr

/-- The rows. -/
structure Tables where
  users : List User
  members : List WorkspaceMember
  invitations : List WorkspaceInvitation
  sessions : List Session
  deriving DecidableEq, Repr

/-- What a call throws. -/
inductive MembershipError where
  /-- `NotFoundException`. -/
  | notFound (message : String)
  /-- `ConflictException`. -/
  | conflict (message : String)
  /-- `ForbiddenException`. -/
  | forbidden (message : String)
  /-- `UnauthorizedException`. -/
  | unauthorized (message : String)
  /-- The unique constraint of `users.email`. -/
  | emailConstraint
  /-- What a statement has thrown. -/
  | statement
  deriving DecidableEq, Repr

/-! ## Lookups -/

/-- `workspaceMember.findUnique`, by workspace and user. -/
def Tables.membership (tables : Tables) (workspaceId userId : String) : Option WorkspaceMember :=
  tables.members.find? fun member => member.workspaceId = workspaceId ∧ member.userId = userId

/-- `workspaceMember.findFirst`, by id in a workspace. -/
def Tables.memberWithId (tables : Tables) (workspaceId memberId : String) : Option WorkspaceMember :=
  tables.members.find? fun member => member.id = memberId ∧ member.workspaceId = workspaceId

/-- `workspaceInvitation.findUnique`. -/
def Tables.invitationFor (tables : Tables) (tokenDigest : String) : Option WorkspaceInvitation :=
  tables.invitations.find? fun invitation => invitation.tokenDigest = tokenDigest

/-- `user.findUnique`. -/
def Tables.userWithEmail (tables : Tables) (email : String) : Option User :=
  tables.users.find? fun user => user.email = email

/-- `workspaceMember.count`. -/
def Tables.memberCount (tables : Tables) (workspaceId : String) : Nat :=
  tables.members.countP fun member => member.workspaceId = workspaceId

/-- The founder memberships. -/
def Tables.founders (tables : Tables) : List WorkspaceMember :=
  tables.members.filter fun member => member.role = .FOUNDER

/-- A session that is usable: not revoked, and not expired. -/
def Session.usable (session : Session) (now : Int) : Bool :=
  session.revokedAt.isNone && decide (now < session.expiresAt)

/-- `session.findFirst`: a usable session of a user. -/
def Tables.usableSession (tables : Tables) (sessionId userId : String) (now : Int) : Option Session :=
  tables.sessions.find? fun session => session.id = sessionId ∧ session.userId = userId ∧ session.usable now = true

theorem membership_mem {tables : Tables} {workspaceId userId : String} {member : WorkspaceMember}
    (h : tables.membership workspaceId userId = some member) :
    member ∈ tables.members ∧ member.workspaceId = workspaceId ∧ member.userId = userId := by
  have hfound := List.find?_some h
  rw [decide_eq_true_eq] at hfound
  exact ⟨List.mem_of_find?_eq_some h, hfound⟩

theorem memberWithId_mem {tables : Tables} {workspaceId memberId : String} {member : WorkspaceMember}
    (h : tables.memberWithId workspaceId memberId = some member) :
    member ∈ tables.members ∧ member.id = memberId ∧ member.workspaceId = workspaceId := by
  have hfound := List.find?_some h
  rw [decide_eq_true_eq] at hfound
  exact ⟨List.mem_of_find?_eq_some h, hfound⟩

/-! ## Checks -/

/-- `assertInvitationActive`. -/
def assertInvitationActive (invitation : Option WorkspaceInvitation) (now : Int) :
    Except MembershipError WorkspaceInvitation :=
  match invitation with
  | none => .error (.notFound "Invitation is invalid or unavailable")
  | some invitation => do
    throwIf (invitation.revokedAt.isSome = true) (.conflict "Invitation is no longer available")
    throwIf (invitation.acceptedAt.isSome = true) (.conflict "Invitation has already been used")
    throwIf (invitation.expiresAt ≤ now) (.conflict "Invitation has expired")
    pure invitation

/-- `assertInvitationClaimableByActor`. -/
def assertInvitationClaimableByActor (invitation : Option WorkspaceInvitation) (actorId : String) (now : Int) :
    Except MembershipError WorkspaceInvitation :=
  match invitation with
  | none => .error (.notFound "Invitation is invalid or unavailable")
  | some invitation => do
    throwIf (invitation.revokedAt.isSome = true) (.conflict "Invitation is no longer available")
    throwIf (invitation.expiresAt ≤ now) (.conflict "Invitation has expired")
    throwIf (invitation.acceptedAt.isSome = true
      ∧ (invitation.claimPending = false ∨ invitation.acceptedById ≠ some actorId))
      (.conflict "Invitation has already been used")
    pure invitation

/-- `assertFounderMembership`. -/
def assertFounderMembership (tables : Tables) (workspaceId actorId : String) : Except MembershipError Unit :=
  throwIf (¬∃ member ∈ tables.members,
    member.workspaceId = workspaceId ∧ member.userId = actorId ∧ member.role = .FOUNDER)
    (.forbidden "Founder authority is required")

/-- `assertMemberCapacity`. The plan of a workspace with a subscription says how many members it may have. -/
def assertMemberCapacity (maxWorkspaceMembers : String → Option Int) (tables : Tables) (workspaceId : String) :
    Except MembershipError Unit :=
  match maxWorkspaceMembers workspaceId with
  | none => .error (.forbidden "Workspace subscription is unavailable")
  | some maximum =>
    throwIf (maximum ≤ tables.memberCount workspaceId)
      (.forbidden s!"Workspace member limit reached ({tables.memberCount workspaceId}/{maximum})")

theorem assertInvitationActive_ok {invitation : Option WorkspaceInvitation} {now : Int} {row : WorkspaceInvitation}
    (h : assertInvitationActive invitation now = .ok row) :
    invitation = some row ∧ row.revokedAt = none ∧ row.acceptedAt = none ∧ now < row.expiresAt := by
  cases invitation with
  | none => cases h
  | some invitation =>
    simp only [assertInvitationActive, check_bind_eq_ok, throwIf_eq_ok, except_pure_eq_ok, Bool.not_eq_true,
      Option.isSome_eq_false_iff, Option.isNone_iff_eq_none] at h
    obtain ⟨hrevoked, haccepted, hexpires, rfl⟩ := h
    exact ⟨rfl, hrevoked, haccepted, Int.not_le.mp hexpires⟩

theorem assertInvitationClaimableByActor_ok {invitation : Option WorkspaceInvitation} {actorId : String} {now : Int}
    {row : WorkspaceInvitation} (h : assertInvitationClaimableByActor invitation actorId now = .ok row) :
    invitation = some row ∧ row.revokedAt = none ∧ now < row.expiresAt
      ∧ (row.acceptedAt.isSome = true → row.claimPending = true ∧ row.acceptedById = some actorId) := by
  cases invitation with
  | none => cases h
  | some invitation =>
    simp only [assertInvitationClaimableByActor, check_bind_eq_ok, throwIf_eq_ok, except_pure_eq_ok,
      Bool.not_eq_true, Option.isSome_eq_false_iff, Option.isNone_iff_eq_none, not_and, not_or,
      Bool.not_eq_false, not_not] at h
    obtain ⟨hrevoked, hexpires, hclaim, rfl⟩ := h
    exact ⟨rfl, hrevoked, Int.not_le.mp hexpires, hclaim⟩

theorem assertMemberCapacity_ok {maxWorkspaceMembers : String → Option Int} {tables : Tables} {workspaceId : String}
    (h : assertMemberCapacity maxWorkspaceMembers tables workspaceId = .ok ()) {maximum : Int}
    (hmaximum : maxWorkspaceMembers workspaceId = some maximum) : (tables.memberCount workspaceId : Int) < maximum := by
  rw [assertMemberCapacity, hmaximum, throwIf_eq_ok] at h
  exact Int.not_le.mp h

/-! ## The guard -/

/-- What the guard grants: `AuthenticatedUser`, as far as it is about the membership. -/
structure AuthenticatedUser where
  sessionId : String
  userId : String
  workspaceId : String
  role : RoleKey
  deriving DecidableEq, Repr

/-- `SessionAuthGuard.canActivate`, for the digest of a session token: the session is usable, and joined with its user
and with the membership of the user in its active workspace. -/
def canActivate (tables : Tables) (tokenDigest : String) (now : Int) : Except MembershipError AuthenticatedUser :=
  match tables.sessions.find? fun session => session.tokenDigest = tokenDigest ∧ session.usable now = true with
  | none => .error (.unauthorized "Session invalid or expired")
  | some session =>
    match session.activeWorkspaceId,
      tables.users.find? fun user => user.id = session.userId ∧ user.deletedAt = none with
    | some workspaceId, some user =>
      match tables.membership workspaceId user.id with
      | none => .error (.unauthorized "Session invalid or expired")
      | some member => .ok ⟨session.id, user.id, workspaceId, member.role⟩
    | _, _ => .error (.unauthorized "Session invalid or expired")

end VentureOS.Membership
