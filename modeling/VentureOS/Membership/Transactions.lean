import VentureOS.Membership.Rows

/-! # Transactions on members

The transactions of `workspaces.service.ts`, each from where it holds its locks: every one locks the workspace whose
members and invitations it writes, and the account whose membership or sessions it writes. What a transaction commits is
told by its `Event`, and `Effect` says what an event does to the rows. -/

namespace VentureOS.Membership

/-! ## Events -/

/-- An invitation is used: by whom, for which new membership, and whether a claim is left pending or completed. -/
structure InvitationUse where
  invitationId : String
  userId : String
  pending : Bool
  completes : Bool
  member : Option WorkspaceMember
  deriving DecidableEq, Repr

/-- What is committed. -/
inductive Event where
  | invited (invitation : WorkspaceInvitation)
  | used (use : InvitationUse)
  | roleChanged (memberId : String) (role : CollaborationRole)
  | removed (member : WorkspaceMember)
  | switched (sessionId workspaceId : String)
  | registered (user : User)
  | signedIn (session : Session)
  deriving DecidableEq, Repr

/-- What a transaction reads from elsewhere: the time, new ids, whether a role is there, whether the insert of a user
meets one that was committed after it was looked for, whether a password is right, and what is made of secrets. -/
structure Supply where
  now : Int
  userId : String
  memberId : String
  invitationId : String
  sessionId : String
  passwordHash : String
  sessionTokenDigest : String
  sessionExpiresAt : Int
  roleAvailable : Bool
  emailConflict : Bool
  passwordOk : Bool
  deriving DecidableEq, Repr

/-! ## Statements -/

/-- `workspaceMember.create`. -/
def createMember (member : WorkspaceMember) (members : List WorkspaceMember) :
    Except MembershipError (List WorkspaceMember) := do
  throwIf (∃ other ∈ members, other.id = member.id
    ∨ other.workspaceId = member.workspaceId ∧ other.userId = member.userId) .statement
  pure (members ++ [member])

/-- `user.create`. -/
def createUser (user : User) (emailConflict : Bool) (users : List User) : Except MembershipError (List User) := do
  throwIf (emailConflict = true) .emailConstraint
  throwIf (∃ other ∈ users, other.email = user.email) .emailConstraint
  throwIf (∃ other ∈ users, other.id = user.id) .statement
  pure (users ++ [user])

/-- `workspaceInvitation.updateMany` of one invitation, when it is as expected. -/
def consumeInvitation (invitationId : String) (expected : WorkspaceInvitation → Bool)
    (update : WorkspaceInvitation → WorkspaceInvitation) (invitations : List WorkspaceInvitation) :
    Except MembershipError (List WorkspaceInvitation) := do
  throwIf ((invitations.countP fun row => decide (row.id = invitationId) && expected row) ≠ 1)
    (.conflict "Invitation has already been used")
  pure (invitations.map fun row => if row.id = invitationId ∧ expected row = true then update row else row)

/-- An invitation that nobody has used. -/
def WorkspaceInvitation.unused (invitation : WorkspaceInvitation) : Bool :=
  invitation.acceptedAt.isNone && invitation.revokedAt.isNone

/-- An invitation whose claim a user may complete. -/
def WorkspaceInvitation.claimableBy (userId : String) (invitation : WorkspaceInvitation) : Bool :=
  decide (invitation.acceptedById = some userId) && invitation.claimPending && invitation.revokedAt.isNone

/-- An invitation is accepted. -/
def WorkspaceInvitation.accept (now : Int) (userId : String) (pending : Bool) (invitation : WorkspaceInvitation) :
    WorkspaceInvitation :=
  { invitation with acceptedAt := some now, acceptedById := some userId, claimPending := pending }

/-- `session.updateMany` of one usable session to a workspace. -/
def switchSession (sessionId userId workspaceId : String) (now : Int) (sessions : List Session) :
    Except MembershipError (List Session) := do
  throwIf ((sessions.countP fun session => decide (session.id = sessionId ∧ session.userId = userId)
    && session.usable now) ≠ 1) (.unauthorized "Session invalid or expired")
  pure (sessions.map fun session =>
    if (session.id = sessionId ∧ session.userId = userId) ∧ session.usable now = true then
      { session with activeWorkspaceId := some workspaceId }
    else session)

/-! ## Transactions -/

section Transactions

variable (maxWorkspaceMembers : String → Option Int)

/-- The transaction of `createInvitation`. -/
def createInvitation (workspaceId actorId : String) (role : CollaborationRole) (tokenDigest : String)
    (expiresAt : Int) (supply : Supply) (tables : Tables) : Except MembershipError (Event × Tables) := do
  assertFounderMembership tables workspaceId actorId
  assertMemberCapacity maxWorkspaceMembers tables workspaceId
  throwIf (supply.roleAvailable = false) (.notFound "Collaboration role is unavailable")
  let invitation : WorkspaceInvitation :=
    { id := supply.invitationId
      workspaceId
      role
      createdById := actorId
      acceptedById := none
      tokenDigest
      expiresAt
      acceptedAt := none
      claimPending := false
      revokedAt := none }
  throwIf (∃ other ∈ tables.invitations, other.id = invitation.id ∨ other.tokenDigest = tokenDigest) .statement
  pure (.invited invitation, { tables with invitations := tables.invitations ++ [invitation] })

/-- The transaction of `acceptInvitation`, for a user who has no account or is not signed in. -/
def acceptInvitation (tokenDigest email displayName : String) (supply : Supply) (tables : Tables) :
    Except MembershipError (Event × Tables) := do
  let invitation ← assertInvitationActive (tables.invitationFor tokenDigest) supply.now
  assertMemberCapacity maxWorkspaceMembers tables invitation.workspaceId
  match tables.userWithEmail email with
  | some existingUser => do
    -- The account is known: the claim is left to its user.
    let invitations ← consumeInvitation invitation.id WorkspaceInvitation.unused
      (WorkspaceInvitation.accept supply.now existingUser.id true) tables.invitations
    pure (.used ⟨invitation.id, existingUser.id, true, false, none⟩, { tables with invitations })
  | none => do
    let user : User :=
      { id := supply.userId
        email
        displayName
        isFounder := false
        passwordHash := some supply.passwordHash
        deletedAt := none }
    let users ← createUser user supply.emailConflict tables.users
    let member : WorkspaceMember :=
      { id := supply.memberId
        workspaceId := invitation.workspaceId
        userId := user.id
        role := invitation.role.key
        createdAt := supply.now }
    let members ← createMember member tables.members
    let invitations ← consumeInvitation invitation.id WorkspaceInvitation.unused
      (fun row => row.accept supply.now user.id row.claimPending) tables.invitations
    pure (.used ⟨invitation.id, user.id, false, false, some member⟩, { tables with users, members, invitations })

/-- The membership that `acceptInvitationForAuthenticatedUser` finds or makes. -/
def findOrCreateMember (invitation : WorkspaceInvitation) (userId : String) (supply : Supply) (tables : Tables) :
    Except MembershipError (Option WorkspaceMember × List WorkspaceMember) :=
  match tables.membership invitation.workspaceId userId with
  | some _ => .ok (none, tables.members)
  | none => do
    assertMemberCapacity maxWorkspaceMembers tables invitation.workspaceId
    let member : WorkspaceMember :=
      { id := supply.memberId
        workspaceId := invitation.workspaceId
        userId
        role := invitation.role.key
        createdAt := supply.now }
    let members ← createMember member tables.members
    pure (some member, members)

/-- The update by which a user accepts an invitation, or completes its claim. -/
def claimInvitation (invitation : WorkspaceInvitation) (userId : String) (now : Int)
    (invitations : List WorkspaceInvitation) : Except MembershipError (List WorkspaceInvitation) :=
  if invitation.claimPending then
    consumeInvitation invitation.id (WorkspaceInvitation.claimableBy userId)
      (fun row => { row with claimPending := false }) invitations
  else
    consumeInvitation invitation.id WorkspaceInvitation.unused (fun row => row.accept now userId row.claimPending)
      invitations

/-- The transaction of `acceptInvitationForAuthenticatedUser`. -/
def acceptInvitationForAuthenticatedUser (tokenDigest sessionId userId : String) (supply : Supply) (tables : Tables) :
    Except MembershipError (Event × Tables) := do
  throwIf ((tables.usableSession sessionId userId supply.now).isNone = true)
    (.unauthorized "Session invalid or expired")
  let invitation ← assertInvitationClaimableByActor (tables.invitationFor tokenDigest) userId supply.now
  let (member, members) ← findOrCreateMember maxWorkspaceMembers invitation userId supply tables
  let invitations ← claimInvitation invitation userId supply.now tables.invitations
  let sessions ← switchSession sessionId userId invitation.workspaceId supply.now tables.sessions
  pure (.used ⟨invitation.id, userId, false, invitation.claimPending, member⟩,
    { tables with members, invitations, sessions })

/-- The transaction of `changeMemberRole`. -/
def changeMemberRole (workspaceId actorId memberId : String) (role : CollaborationRole) (supply : Supply)
    (tables : Tables) : Except MembershipError (Event × Tables) := do
  assertFounderMembership tables workspaceId actorId
  match tables.memberWithId workspaceId memberId with
  | none => .error (.notFound "Workspace member not found")
  | some member => do
    throwIf (member.role = .FOUNDER) (.forbidden "Founder role cannot be changed")
    throwIf (supply.roleAvailable = false) (.notFound "Collaboration role is unavailable")
    pure (.roleChanged member.id role,
      { tables with
        members := tables.members.map fun row => if row.id = member.id then { row with role := role.key } else row })

/-- The transaction of `removeMember`. -/
def removeMember (workspaceId actorId memberId : String) (supply : Supply) (tables : Tables) :
    Except MembershipError (Event × Tables) := do
  assertFounderMembership tables workspaceId actorId
  match tables.memberWithId workspaceId memberId with
  | none => .error (.notFound "Workspace member not found")
  | some member => do
    throwIf (member.userId = actorId ∨ member.role = .FOUNDER) (.forbidden "Founder membership cannot be removed")
    pure (.removed member,
      { tables with
        members := tables.members.filter fun row => row.id ≠ member.id
        sessions := tables.sessions.map fun session =>
          if (session.userId = member.userId ∧ session.activeWorkspaceId = some workspaceId)
              ∧ session.revokedAt = none then
            { session with revokedAt := some supply.now }
          else session })

/-- The transaction of `switchWorkspace`. -/
def switchWorkspace (sessionId userId workspaceId : String) (supply : Supply) (tables : Tables) :
    Except MembershipError (Event × Tables) := do
  throwIf ((tables.usableSession sessionId userId supply.now).isNone = true)
    (.unauthorized "Session invalid or expired")
  throwIf ((tables.membership workspaceId userId).isNone = true) (.forbidden "Workspace membership is required")
  let sessions ← switchSession sessionId userId workspaceId supply.now tables.sessions
  pure (.switched sessionId workspaceId, { tables with sessions })

/-- An account that is registered elsewhere. -/
def registerUser (user : User) (tables : Tables) : Except MembershipError (Event × Tables) := do
  let users ← createUser user false tables.users
  pure (.registered user, { tables with users })

/-- `session.create` of `login`. -/
def createSession (session : Session) (tables : Tables) : Except MembershipError (Event × Tables) := do
  throwIf (∃ other ∈ tables.sessions, other.id = session.id ∨ other.tokenDigest = session.tokenDigest) .statement
  pure (.signedIn session, { tables with sessions := tables.sessions ++ [session] })

end Transactions

end VentureOS.Membership
