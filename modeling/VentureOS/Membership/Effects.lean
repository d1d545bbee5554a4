import VentureOS.Membership.Transactions

/-! # Effects of transactions

What each transaction on members commits, as one relation (`Effect`) from which all invariants follow. -/

namespace VentureOS.Membership

/-- The keys of the rows, and what an invitation with a pending claim is. -/
structure Stored (tables : Tables) : Prop where
  invitationIds : (tables.invitations.map WorkspaceInvitation.id).Nodup
  memberIds : (tables.members.map WorkspaceMember.id).Nodup
  sessionDigests : (tables.sessions.map Session.tokenDigest).Nodup
  claims : ∀ invitation ∈ tables.invitations, invitation.claimPending = true → invitation.acceptedAt.isSome = true

/-- Sessions go to a workspace of which their user is a member. -/
def Moved (members : List WorkspaceMember) (sessions sessions' : List Session) : Prop :=
  ∃ move : Session → Session, sessions' = sessions.map move ∧ ∀ session ∈ sessions,
    (move session).userId = session.userId ∧ (move session).tokenDigest = session.tokenDigest
      ∧ (move session).revokedAt = session.revokedAt
      ∧ ((move session).activeWorkspaceId = session.activeWorkspaceId
        ∨ ∃ member ∈ members, member.userId = session.userId
          ∧ (move session).activeWorkspaceId = some member.workspaceId)

theorem Moved.refl (members : List WorkspaceMember) (sessions : List Session) : Moved members sessions sessions :=
  ⟨id, (List.map_id sessions).symm, fun _ _ => ⟨rfl, rfl, rfl, .inl rfl⟩⟩

/-- A new membership: of the user and with the role of the invitation, where there is room. -/
structure Joins (maxWorkspaceMembers : String → Option Int) (use : InvitationUse) (invitation : WorkspaceInvitation)
    (tables : Tables) (member : WorkspaceMember) : Prop where
  user : member.userId = use.userId
  role : member.role = invitation.role.key
  workspace : member.workspaceId = invitation.workspaceId
  fresh : ∀ other ∈ tables.members, other.id ≠ member.id
  room : ∀ maximum, maxWorkspaceMembers invitation.workspaceId = some maximum →
    (tables.memberCount invitation.workspaceId : Int) < maximum

/-- An invitation is used. -/
structure Uses (maxWorkspaceMembers : String → Option Int) (use : InvitationUse)
    (invitation invitation' : WorkspaceInvitation) (tables tables' : Tables) : Prop where
  found : invitation ∈ tables.invitations
  id : invitation.id = use.invitationId
  unused : use.completes = false → invitation.acceptedAt = none
  claimed : use.completes = true → invitation.claimPending = true ∧ invitation.acceptedById = some use.userId
  leaves : use.pending = true → use.completes = false ∧ use.member = none
  same : invitation'.id = invitation.id ∧ invitation'.role = invitation.role
    ∧ invitation'.workspaceId = invitation.workspaceId
  accepted : invitation'.acceptedAt.isSome = true ∧ invitation'.acceptedById = some use.userId
    ∧ invitation'.claimPending = use.pending
  invitations : tables'.invitations
    = tables.invitations.map fun row => if row.id = invitation.id then invitation' else row
  members : tables'.members = tables.members ++ use.member.toList
  joins : ∀ member ∈ use.member, Joins maxWorkspaceMembers use invitation tables member
  sessions : Moved tables'.members tables.sessions tables'.sessions

/-- What an event does to the rows. -/
inductive Effect (maxWorkspaceMembers : String → Option Int) : Event → Tables → Tables → Prop where
  | invited {invitation : WorkspaceInvitation} {tables : Tables}
      (fresh : ∀ other ∈ tables.invitations, other.id ≠ invitation.id) (unused : invitation.acceptedAt = none)
      (unclaimed : invitation.claimPending = false) :
      Effect maxWorkspaceMembers (.invited invitation) tables
        { tables with invitations := tables.invitations ++ [invitation] }
  | used {use : InvitationUse} {tables tables' : Tables} (invitation invitation' : WorkspaceInvitation)
      (uses : Uses maxWorkspaceMembers use invitation invitation' tables tables') :
      Effect maxWorkspaceMembers (.used use) tables tables'
  | roleChanged {member : WorkspaceMember} {role : CollaborationRole} {tables : Tables}
      (found : member ∈ tables.members) (collaborates : member.role ≠ .FOUNDER) :
      Effect maxWorkspaceMembers (.roleChanged member.id role) tables
        { tables with
          members := tables.members.map fun row => if row.id = member.id then { row with role := role.key } else row }
  | removed {member : WorkspaceMember} {now : Int} {tables : Tables} (found : member ∈ tables.members)
      (collaborates : member.role ≠ .FOUNDER) :
      Effect maxWorkspaceMembers (.removed member) tables
        { tables with
          members := tables.members.filter fun row => row.id ≠ member.id
          sessions := tables.sessions.map fun session =>
            if (session.userId = member.userId ∧ session.activeWorkspaceId = some member.workspaceId)
                ∧ session.revokedAt = none then
              { session with revokedAt := some now }
            else session }
  | switched {sessionId workspaceId : String} {tables : Tables} {sessions : List Session}
      (moved : Moved tables.members tables.sessions sessions) :
      Effect maxWorkspaceMembers (.switched sessionId workspaceId) tables { tables with sessions }
  | registered {user : User} {tables : Tables} {users : List User} :
      Effect maxWorkspaceMembers (.registered user) tables { tables with users }
  | signedIn {session : Session} {tables : Tables}
      (fresh : ∀ other ∈ tables.sessions, other.tokenDigest ≠ session.tokenDigest) :
      Effect maxWorkspaceMembers (.signedIn session) tables { tables with sessions := tables.sessions ++ [session] }

/-! ## Statements -/

variable {members : List WorkspaceMember}

theorem createMember_ok {member : WorkspaceMember} {members' : List WorkspaceMember}
    (h : createMember member members = .ok members') :
    members' = members ++ [member] ∧ ∀ other ∈ members, other.id ≠ member.id := by
  simp only [createMember, check_bind_eq_ok, throwIf_eq_ok, except_pure_eq_ok] at h
  exact ⟨h.2.symm, fun other hother hid => h.1 ⟨other, hother, .inl hid⟩⟩

variable {invitation : WorkspaceInvitation}

theorem consumeInvitation_ok {tables : Tables} (stored : Stored tables)
    (hfound : invitation ∈ tables.invitations) {expected : WorkspaceInvitation → Bool}
    {update : WorkspaceInvitation → WorkspaceInvitation} {invitations : List WorkspaceInvitation}
    (h : consumeInvitation invitation.id expected update tables.invitations = .ok invitations) :
    expected invitation = true
      ∧ invitations = tables.invitations.map fun row => if row.id = invitation.id then update invitation else row := by
  simp only [consumeInvitation, check_bind_eq_ok, throwIf_eq_ok, except_pure_eq_ok, not_not] at h
  obtain ⟨hcount, rfl⟩ := h
  -- The only row with the id is the invitation.
  have honly : ∀ row ∈ tables.invitations, row.id = invitation.id → row = invitation :=
    fun row hrow hid => List.inj_on_of_nodup_map stored.invitationIds hrow hfound hid
  obtain ⟨row, hrow, hmatch⟩ := List.countP_pos_iff.mp (hcount ▸ Nat.one_pos)
  rw [Bool.and_eq_true, decide_eq_true_eq] at hmatch
  have hexpected : expected invitation = true := honly row hrow hmatch.1 ▸ hmatch.2
  refine ⟨hexpected, List.map_congr_left fun row hrow => ?_⟩
  by_cases hid : row.id = invitation.id
  · rw [honly row hrow hid, if_pos ⟨rfl, hexpected⟩, if_pos rfl]
  · rw [if_neg fun hboth => hid hboth.1, if_neg hid]

variable {workspaceId : String}

variable {userId sessionId : String}

theorem switchSession_ok {now : Int} {sessions sessions' : List Session}
    (hmember : ∃ member ∈ members, member.workspaceId = workspaceId ∧ member.userId = userId)
    (h : switchSession sessionId userId workspaceId now sessions = .ok sessions') :
    Moved members sessions sessions' := by
  simp only [switchSession, check_bind_eq_ok, except_pure_eq_ok] at h
  obtain ⟨-, rfl⟩ := h
  obtain ⟨member, hmem, hworkspace, huser⟩ := hmember
  refine ⟨_, rfl, fun session _ => ?_⟩
  split
  · rename_i hsession
    exact ⟨rfl, rfl, rfl, .inr ⟨member, hmem, huser.trans hsession.1.2.symm, congrArg some hworkspace.symm⟩⟩
  · exact ⟨rfl, rfl, rfl, .inl rfl⟩

theorem unused_iff :
    invitation.unused = true ↔ invitation.acceptedAt = none ∧ invitation.revokedAt = none := by
  simp [WorkspaceInvitation.unused]

theorem claimableBy_iff : invitation.claimableBy userId = true ↔ invitation.acceptedById = some userId
      ∧ invitation.claimPending = true ∧ invitation.revokedAt = none := by
  simp [WorkspaceInvitation.claimableBy, and_assoc]

/-- An invitation without an acceptance has no pending claim. -/
theorem Stored.unclaimed {tables : Tables} (stored : Stored tables)
    (hfound : invitation ∈ tables.invitations) (hunused : invitation.acceptedAt = none) :
    invitation.claimPending = false := by
  by_contra hclaim
  rw [Bool.not_eq_false] at hclaim
  have hsome := stored.claims invitation hfound hclaim
  rw [hunused] at hsome
  cases hsome

variable {tokenDigest : String}

theorem invitationFor_mem {tables : Tables}
    (h : tables.invitationFor tokenDigest = some invitation) : invitation ∈ tables.invitations :=
  List.mem_of_find?_eq_some h

/-! ## Transactions -/

section Transactions

variable {maxWorkspaceMembers : String → Option Int} {supply : Supply} {tables tables' : Tables} {event : Event}

theorem createInvitation_effect {actorId : String} {role : CollaborationRole}
    {expiresAt : Int} (h : createInvitation maxWorkspaceMembers workspaceId actorId role tokenDigest expiresAt supply
      tables = .ok (event, tables')) : Effect maxWorkspaceMembers event tables tables' := by
  simp only [createInvitation, check_bind_eq_ok, throwIf_eq_ok, except_pure_eq_ok, Prod.mk.injEq] at h
  obtain ⟨-, -, -, hfresh, rfl, rfl⟩ := h
  exact .invited (fun other hother hid => hfresh ⟨other, hother, .inl hid⟩) rfl rfl

theorem acceptInvitation_effect {email displayName : String} (stored : Stored tables)
    (h : acceptInvitation maxWorkspaceMembers tokenDigest email displayName supply tables = .ok (event, tables')) :
    Effect maxWorkspaceMembers event tables tables' := by
  obtain ⟨invitation, hactive, h⟩ := except_bind_eq_ok.mp h
  rw [check_bind_eq_ok] at h
  obtain ⟨hcapacity, h⟩ := h
  obtain ⟨hfor, hrevoked, hunused, -⟩ := assertInvitationActive_ok hactive
  have hfound := invitationFor_mem hfor
  split at h
  · rename_i existingUser hexisting
    obtain ⟨invitations, hconsumed, h⟩ := except_bind_eq_ok.mp h
    cases h
    obtain ⟨-, hinvitations⟩ := consumeInvitation_ok stored hfound hconsumed
    refine .used invitation (invitation.accept supply.now existingUser.id true) ?_
    exact ⟨hfound, rfl, fun _ => hunused, fun hcompletes => (by cases hcompletes), fun _ => ⟨rfl, rfl⟩,
      ⟨rfl, rfl, rfl⟩, ⟨rfl, rfl, rfl⟩, hinvitations, (List.append_nil _).symm, fun _ hmember => (by cases hmember),
      .refl _ _⟩
  · obtain ⟨users, -, h⟩ := except_bind_eq_ok.mp h
    obtain ⟨members, hmembers, h⟩ := except_bind_eq_ok.mp h
    obtain ⟨invitations, hconsumed, h⟩ := except_bind_eq_ok.mp h
    cases h
    obtain ⟨-, hinvitations⟩ := consumeInvitation_ok stored hfound hconsumed
    obtain ⟨rfl, hfresh⟩ := createMember_ok hmembers
    have hunclaimed : invitation.claimPending = false := stored.unclaimed hfound hunused
    refine .used invitation (invitation.accept supply.now supply.userId invitation.claimPending) ?_
    refine ⟨hfound, rfl, fun _ => hunused, fun hcompletes => (by cases hcompletes),
      fun hpending => (by cases hpending), ⟨rfl, rfl, rfl⟩, ⟨rfl, rfl, hunclaimed⟩, hinvitations, rfl, ?_, .refl _ _⟩
    intro member hmember
    rw [Option.mem_some_iff] at hmember
    subst hmember
    exact ⟨rfl, rfl, rfl, hfresh, fun maximum hmaximum => assertMemberCapacity_ok hcapacity hmaximum⟩

theorem findOrCreateMember_ok {member : Option WorkspaceMember} (use : InvitationUse)
    (h : findOrCreateMember maxWorkspaceMembers invitation userId supply tables = .ok (member, members))
    (huser : use.userId = userId) :
    members = tables.members ++ member.toList
      ∧ (∀ new ∈ member, Joins maxWorkspaceMembers use invitation tables new)
      ∧ ∃ other ∈ members, other.workspaceId = invitation.workspaceId ∧ other.userId = userId := by
  unfold findOrCreateMember at h
  split at h
  · rename_i existing hexisting
    cases h
    obtain ⟨hmem, hworkspace, hsame⟩ := membership_mem hexisting
    exact ⟨(List.append_nil _).symm, fun _ hnew => (by cases hnew), existing, hmem, hworkspace, hsame⟩
  · simp only [check_bind_eq_ok] at h
    obtain ⟨hcapacity, h⟩ := h
    obtain ⟨members', hmembers, h⟩ := except_bind_eq_ok.mp h
    cases h
    obtain ⟨rfl, hfresh⟩ := createMember_ok hmembers
    refine ⟨rfl, ?_, _, List.mem_append_right _ (List.mem_singleton_self _), rfl, rfl⟩
    intro new hnew
    rw [Option.mem_some_iff] at hnew
    subst hnew
    exact ⟨huser.symm, rfl, rfl, hfresh, fun maximum hmaximum => assertMemberCapacity_ok hcapacity hmaximum⟩

theorem acceptInvitationForAuthenticatedUser_effect (stored : Stored tables)
    (h : acceptInvitationForAuthenticatedUser maxWorkspaceMembers tokenDigest sessionId userId supply tables
      = .ok (event, tables')) : Effect maxWorkspaceMembers event tables tables' := by
  simp only [acceptInvitationForAuthenticatedUser, check_bind_eq_ok] at h
  obtain ⟨-, h⟩ := h
  obtain ⟨invitation, hclaimable, h⟩ := except_bind_eq_ok.mp h
  obtain ⟨⟨member, members⟩, hmember, h⟩ := except_bind_eq_ok.mp h
  obtain ⟨invitations, hconsumed, h⟩ := except_bind_eq_ok.mp h
  obtain ⟨sessions, hsessions, h⟩ := except_bind_eq_ok.mp h
  cases h
  obtain ⟨hfor, -, -, hclaim⟩ := assertInvitationClaimableByActor_ok hclaimable
  have hfound := invitationFor_mem hfor
  obtain ⟨hmembers, hjoins, hwith⟩ := findOrCreateMember_ok
    ⟨invitation.id, userId, false, invitation.claimPending, member⟩ hmember rfl
  have hmoved := switchSession_ok hwith hsessions
  unfold claimInvitation at hconsumed
  split at hconsumed
  · rename_i hpending
    obtain ⟨hclaimed, hinvitations⟩ := consumeInvitation_ok stored hfound hconsumed
    rw [claimableBy_iff] at hclaimed
    refine .used invitation { invitation with claimPending := false } ?_
    refine ⟨hfound, rfl, fun hnot => ?_, fun _ => ⟨hpending, hclaimed.1⟩, fun hleft => (by cases hleft),
      ⟨rfl, rfl, rfl⟩, ⟨stored.claims invitation hfound hpending, hclaimed.1, rfl⟩, hinvitations, hmembers, hjoins,
      hmoved⟩
    exact absurd (hpending.symm.trans hnot) (by decide)
  · rename_i hpending
    obtain ⟨hunused, hinvitations⟩ := consumeInvitation_ok stored hfound hconsumed
    rw [unused_iff] at hunused
    refine .used invitation (invitation.accept supply.now userId invitation.claimPending) ?_
    exact ⟨hfound, rfl, fun _ => hunused.1, fun hcompletes => absurd hcompletes hpending,
      fun hleft => (by cases hleft), ⟨rfl, rfl, rfl⟩, ⟨rfl, rfl, Bool.not_eq_true _ ▸ hpending⟩, hinvitations, hmembers,
      hjoins, hmoved⟩

theorem changeMemberRole_effect {actorId memberId : String} {role : CollaborationRole}
    (h : changeMemberRole workspaceId actorId memberId role supply tables = .ok (event, tables')) :
    Effect maxWorkspaceMembers event tables tables' := by
  simp only [changeMemberRole, check_bind_eq_ok] at h
  obtain ⟨-, h⟩ := h
  split at h
  · cases h
  · rename_i member hmember
    simp only [check_bind_eq_ok, throwIf_eq_ok, except_pure_eq_ok, Prod.mk.injEq] at h
    obtain ⟨hfounder, -, rfl, rfl⟩ := h
    exact .roleChanged (memberWithId_mem hmember).1 hfounder

theorem removeMember_effect {actorId memberId : String}
    (h : removeMember workspaceId actorId memberId supply tables = .ok (event, tables')) :
    Effect maxWorkspaceMembers event tables tables' := by
  simp only [removeMember, check_bind_eq_ok] at h
  obtain ⟨-, h⟩ := h
  split at h
  · cases h
  · rename_i member hmember
    simp only [check_bind_eq_ok, throwIf_eq_ok, except_pure_eq_ok, Prod.mk.injEq, not_or] at h
    obtain ⟨⟨-, hfounder⟩, rfl, rfl⟩ := h
    obtain ⟨hmem, -, hworkspace⟩ := memberWithId_mem hmember
    rw [← hworkspace]
    exact .removed hmem hfounder

theorem switchWorkspace_effect
    (h : switchWorkspace sessionId userId workspaceId supply tables = .ok (event, tables')) :
    Effect maxWorkspaceMembers event tables tables' := by
  simp only [switchWorkspace, check_bind_eq_ok, throwIf_eq_ok, Bool.not_eq_true, Option.isNone_eq_false_iff,
    Option.isSome_iff_exists] at h
  obtain ⟨-, ⟨member, hmember⟩, h⟩ := h
  obtain ⟨sessions, hsessions, h⟩ := except_bind_eq_ok.mp h
  cases h
  exact .switched (switchSession_ok ⟨member, membership_mem hmember⟩ hsessions)

theorem registerUser_effect {user : User} (h : registerUser user tables = .ok (event, tables')) :
    Effect maxWorkspaceMembers event tables tables' := by
  obtain ⟨users, -, h⟩ := except_bind_eq_ok.mp h
  cases h
  exact .registered

theorem createSession_effect {session : Session} (h : createSession session tables = .ok (event, tables')) :
    Effect maxWorkspaceMembers event tables tables' ∧ event = .signedIn session := by
  simp only [createSession, check_bind_eq_ok, throwIf_eq_ok, except_pure_eq_ok, Prod.mk.injEq] at h
  obtain ⟨hfresh, rfl, rfl⟩ := h
  exact ⟨.signedIn fun other hother hsame => hfresh ⟨other, hother, .inr hsame⟩, rfl⟩

end Transactions

end VentureOS.Membership
