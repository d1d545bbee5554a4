import VentureOS.Membership.Service

/-! # Members and invitations in every run

However the calls run, a workspace has no more members than its plan allows, its founders stay, and an invitation goes
from unused to used once and makes at most one member: the user it records, with the role it was made for. -/

namespace VentureOS.Membership

variable {maxWorkspaceMembers : String → Option Int}

/-! ## Keys -/

theorem map_id_replace {invitation invitation' : WorkspaceInvitation} (hid : invitation'.id = invitation.id)
    (rows : List WorkspaceInvitation) :
    (rows.map fun row => if row.id = invitation.id then invitation' else row).map WorkspaceInvitation.id
      = rows.map WorkspaceInvitation.id := by
  rw [List.map_map]
  refine List.map_congr_left fun row _ => ?_
  simp only [Function.comp_apply]
  split
  · rename_i hrow
    rw [hid, hrow]
  · rfl

theorem nodup_concat {α : Type} {l : List α} {a : α} (h : l.Nodup) (ha : ∀ b ∈ l, b ≠ a) : (l ++ [a]).Nodup := by
  rw [List.nodup_append]
  refine ⟨h, List.nodup_singleton a, ?_⟩
  rintro b hb c hc rfl
  exact ha b hb (List.mem_singleton.mp hc)

theorem Moved.digests {members : List WorkspaceMember} {sessions sessions' : List Session}
    (h : Moved members sessions sessions') :
    sessions'.map Session.tokenDigest = sessions.map Session.tokenDigest := by
  obtain ⟨move, rfl, hmove⟩ := h
  rw [List.map_map]
  exact List.map_congr_left fun session hsession => (hmove session hsession).2.1

/-- **Every event keeps the keys.** -/
theorem Effect.stored {event : Event} {tables tables' : Tables} (h : Effect maxWorkspaceMembers event tables tables')
    (stored : Stored tables) : Stored tables' := by
  obtain ⟨hinvitations, hmembers, hdigests, hclaims⟩ := stored
  cases h with
  | @invited invitation _ fresh unused unclaimed =>
    refine ⟨?_, hmembers, hdigests, ?_⟩
    · rw [List.map_append]
      refine nodup_concat hinvitations fun id hid => ?_
      obtain ⟨other, hother, rfl⟩ := List.mem_map.mp hid
      exact fresh other hother
    · intro row hrow hpending
      rcases List.mem_append.mp hrow with hrow | hrow
      · exact hclaims row hrow hpending
      · rw [List.mem_singleton.mp hrow, unclaimed] at hpending
        cases hpending
  | @used use _ _ invitation invitation' uses =>
    refine ⟨?_, ?_, ?_, ?_⟩
    · rw [uses.invitations, map_id_replace uses.same.1]
      exact hinvitations
    · rw [uses.members, List.map_append]
      cases hmember : use.member with
      | none => simpa using hmembers
      | some member =>
        refine nodup_concat hmembers fun id hid => ?_
        obtain ⟨other, hother, rfl⟩ := List.mem_map.mp hid
        exact (uses.joins member hmember).fresh other hother
    · rw [uses.sessions.digests]
      exact hdigests
    · intro row hrow hpending
      rw [uses.invitations] at hrow
      obtain ⟨old, hold, rfl⟩ := List.mem_map.mp hrow
      by_cases hid : old.id = invitation.id
      · rw [if_pos hid]
        exact uses.accepted.1
      · rw [if_neg hid] at hpending ⊢
        exact hclaims old hold hpending
  | roleChanged found collaborates =>
    refine ⟨hinvitations, ?_, hdigests, hclaims⟩
    rw [List.map_map]
    refine Eq.mpr (congrArg List.Nodup (List.map_congr_left fun row _ => ?_)) hmembers
    simp only [Function.comp_apply]
    split
    · rfl
    · rfl
  | removed found collaborates =>
    refine ⟨hinvitations, (List.filter_sublist.map WorkspaceMember.id).nodup hmembers, ?_, hclaims⟩
    rw [List.map_map]
    refine Eq.mpr (congrArg List.Nodup (List.map_congr_left fun session _ => ?_)) hdigests
    simp only [Function.comp_apply]
    split
    · rfl
    · rfl
  | switched moved => exact ⟨hinvitations, hmembers, by rw [moved.digests]; exact hdigests, hclaims⟩
  | registered => exact ⟨hinvitations, hmembers, hdigests, hclaims⟩
  | signedIn fresh =>
    refine ⟨hinvitations, hmembers, ?_, hclaims⟩
    rw [List.map_append]
    refine nodup_concat hdigests fun digest hdigest => ?_
    obtain ⟨other, hother, rfl⟩ := List.mem_map.mp hdigest
    exact fresh other hother

/-! ## Members -/

variable {tables' : Tables}

variable {event : Event}

/-- **No event changes the founders.** -/
theorem Effect.founders {tables : Tables}
    (h : Effect maxWorkspaceMembers event tables tables') (stored : Stored tables) :
    tables'.founders = tables.founders := by
  cases h with
  | @used use _ _ invitation invitation' uses =>
    rw [Tables.founders, uses.members, List.filter_append]
    cases hmember : use.member with
    | none => simp [Tables.founders]
    | some member =>
      have hrole := (uses.joins member hmember).role
      have hfounder : member.role ≠ .FOUNDER := by
        rw [hrole]
        exact invitation.role.key_ne_founder
      simp [Tables.founders, hfounder]
  | @roleChanged member role _ found collaborates =>
    have honly : ∀ row ∈ tables.members, row.id = member.id → row.role ≠ .FOUNDER := fun row hrow hid =>
      List.inj_on_of_nodup_map stored.memberIds hrow found hid ▸ collaborates
    have hkept : ∀ row ∈ tables.founders,
        (if row.id = member.id then { row with role := role.key } else row) = row := by
      intro row hrow
      rw [Tables.founders, List.mem_filter, decide_eq_true_eq] at hrow
      exact if_neg fun hid => honly row hrow.1 hid hrow.2
    have hsame : tables.members.filter ((fun row => decide (row.role = .FOUNDER)) ∘
        fun row => if row.id = member.id then { row with role := role.key } else row) = tables.founders := by
      refine List.filter_congr fun row hrow => ?_
      simp only [Function.comp_apply]
      by_cases hid : row.id = member.id
      · rw [if_pos hid]
        simp [role.key_ne_founder, honly row hrow hid]
      · rw [if_neg hid]
    rw [Tables.founders, List.filter_map, hsame, List.map_congr_left hkept, List.map_id']
  | @removed member now _ found collaborates =>
    rw [Tables.founders, List.filter_filter]
    refine List.filter_congr fun row hrow => ?_
    by_cases hid : row.id = member.id
    · have hrole : row.role ≠ .FOUNDER := List.inj_on_of_nodup_map stored.memberIds hrow found hid ▸ collaborates
      simp [hrole]
    · simp [hid]
  | _ => rfl

/-- **No event makes more members than the plan allows.** -/
theorem Effect.memberCount_le {tables : Tables}
    (h : Effect maxWorkspaceMembers event tables tables') {workspaceId : String} {maximum : Int}
    (hmaximum : maxWorkspaceMembers workspaceId = some maximum) (hle : (tables.memberCount workspaceId : Int) ≤ maximum) :
    (tables'.memberCount workspaceId : Int) ≤ maximum := by
  cases h with
  | @used use _ _ invitation invitation' uses =>
    have hcount : tables'.memberCount workspaceId = tables.memberCount workspaceId
        + (use.member.toList.countP fun member => member.workspaceId = workspaceId) := by
      rw [Tables.memberCount, uses.members, List.countP_append]
      rfl
    cases hmember : use.member with
    | none =>
      rw [hcount, hmember]
      simpa using hle
    | some member =>
      have hjoins := uses.joins member hmember
      by_cases hworkspace : member.workspaceId = workspaceId
      · have hroom := hjoins.room maximum (by rw [← hjoins.workspace, hworkspace]; exact hmaximum)
        rw [← hjoins.workspace, hworkspace] at hroom
        rw [hcount, hmember]
        simp only [Option.toList_some, List.countP_singleton, hworkspace, decide_true, if_true]
        omega
      · rw [hcount, hmember]
        simpa [hworkspace] using hle
  | @roleChanged member role _ found collaborates =>
    have hsame : (tables.members.map fun row =>
        if row.id = member.id then { row with role := role.key } else row).countP
          (fun member => member.workspaceId = workspaceId) = tables.memberCount workspaceId := by
      rw [List.countP_map]
      refine List.countP_congr fun row _ => ?_
      simp only [Function.comp_apply]
      split
      · rfl
      · rfl
    exact le_trans (le_of_eq (congrArg Int.ofNat hsame)) hle
  | @removed member now _ found collaborates =>
    have hless : (tables.members.filter fun row => row.id ≠ member.id).countP
        (fun member => member.workspaceId = workspaceId) ≤ tables.memberCount workspaceId :=
      List.Sublist.countP_le List.filter_sublist
    exact le_trans (Int.ofNat_le.mpr hless) hle
  | _ => exact hle

/-- **Only a change of a member's role changes it.** -/
theorem Effect.role_eq {tables : Tables} (h : Effect maxWorkspaceMembers event tables tables')
    (stored : Stored tables) {member member' : WorkspaceMember} (hmember : member ∈ tables.members)
    (hmember' : member' ∈ tables'.members) (hid : member'.id = member.id)
    (hevent : ∀ role, event ≠ .roleChanged member.id role) : member'.role = member.role := by
  have honly : ∀ row ∈ tables.members, row.id = member.id → row.role = member.role := fun row hrow hsame =>
    List.inj_on_of_nodup_map stored.memberIds hrow hmember hsame ▸ rfl
  cases h with
  | used invitation invitation' uses =>
    rw [uses.members, List.mem_append, Option.mem_toList] at hmember'
    rcases hmember' with hold | hnew
    · exact honly member' hold hid
    · exact absurd hid.symm ((uses.joins member' hnew).fresh member hmember)
  | @roleChanged changed role _ found collaborates =>
    obtain ⟨old, hold, rfl⟩ := List.mem_map.mp hmember'
    by_cases hchanged : old.id = changed.id
    · rw [if_pos hchanged] at hid
      have hsame : changed.id = member.id := hchanged.symm.trans hid
      exact absurd (by rw [hsame]) (hevent role)
    · rw [if_neg hchanged] at hid ⊢
      exact honly old hold hid
  | removed found collaborates => exact honly member' (List.mem_of_mem_filter hmember') hid
  | _ => exact honly member' hmember' hid

/-! ## Uses of an invitation -/

/-- The use that an event is, of an invitation. -/
def Event.useOf (invitationId : String) : Event → Option InvitationUse
  | .used use => if use.invitationId = invitationId then some use else none
  | _ => none

/-- The uses of an invitation among what was committed. -/
def usesOf (invitationId : String) (shown : List (Option Event)) : List InvitationUse :=
  shown.filterMap fun event => event.bind (Event.useOf invitationId)

/-- An invitation that can still make a member. -/
def WorkspaceInvitation.open (invitation : WorkspaceInvitation) : Bool :=
  invitation.acceptedAt.isNone || invitation.claimPending

/-- How the uses of an invitation go with its row: it is consumed once, a pending claim is completed once, it makes one
member, and all of this is for the user that it records. -/
structure Told (uses : List InvitationUse) (invitation : WorkspaceInvitation) : Prop where
  consumed : (uses.countP fun use => !use.completes) + (if invitation.acceptedAt = none then 1 else 0) ≤ 1
  completed : (uses.countP fun use => use.completes) + (if invitation.open then 1 else 0) ≤ 1
  joined : (uses.countP fun use => use.member.isSome) + (if invitation.open then 1 else 0) ≤ 1
  user : ∀ use ∈ uses, invitation.acceptedById = some use.userId
  members : ∀ use ∈ uses, ∀ member ∈ use.member, member.userId = use.userId ∧ member.role = invitation.role.key
    ∧ member.workspaceId = invitation.workspaceId

/-- **A use is the next thing told of its invitation.** -/
theorem Told.uses {uses : List InvitationUse} {use : InvitationUse} {invitation invitation' : WorkspaceInvitation}
    {tables tables' : Tables} (h : Told uses invitation)
    (huses : Uses maxWorkspaceMembers use invitation invitation' tables tables') (stored : Stored tables) :
    Told (uses ++ [use]) invitation' := by
  obtain ⟨hsome, huser, hpending⟩ := huses.accepted
  have hne : invitation'.acceptedAt ≠ none := Option.isSome_iff_ne_none.mp hsome
  have hopen' : invitation'.open = use.pending := by
    simp [WorkspaceInvitation.open, hpending, hne]
  have hmembers : ∀ member ∈ use.member, member.userId = use.userId ∧ member.role = invitation'.role.key
      ∧ member.workspaceId = invitation'.workspaceId := by
    intro member hmember
    have hjoins := huses.joins member hmember
    rw [huses.same.2.1, huses.same.2.2]
    exact ⟨hjoins.user, hjoins.role, hjoins.workspace⟩
  have hopen : invitation.open = true := by
    cases hcompletes : use.completes with
    | false => simp [WorkspaceInvitation.open, huses.unused hcompletes]
    | true => simp [WorkspaceInvitation.open, (huses.claimed hcompletes).1]
  have hcompleted := h.completed
  have hjoined := h.joined
  rw [if_pos hopen] at hcompleted hjoined
  have hconsumed := h.consumed
  refine ⟨?_, ?_, ?_, ?_, ?_⟩
  · rw [List.countP_append, List.countP_singleton, if_neg hne]
    cases hcompletes : use.completes with
    | false =>
      rw [if_pos (huses.unused hcompletes)] at hconsumed
      simp only [Bool.not_false, if_true]
      omega
    | true =>
      simp only [Bool.not_true, Bool.false_eq_true, if_false]
      omega
  · rw [List.countP_append, List.countP_singleton, hopen']
    cases hleft : use.pending with
    | true =>
      rw [(huses.leaves hleft).1]
      simp only [Bool.false_eq_true, if_false, if_true]
      omega
    | false =>
      simp only [Bool.false_eq_true, if_false]
      split <;> omega
  · rw [List.countP_append, List.countP_singleton, hopen']
    cases hleft : use.pending with
    | true =>
      rw [(huses.leaves hleft).2]
      simp only [Option.isSome_none, Bool.false_eq_true, if_false, if_true]
      omega
    | false =>
      simp only [Bool.false_eq_true, if_false]
      split <;> omega
  · intro other hother
    rcases List.mem_append.mp hother with hold | hlast
    · -- A use before this one left its claim to the same user.
      have hcompletes : use.completes = true := by
        by_contra hnot
        rw [Bool.not_eq_true] at hnot
        rw [if_pos (huses.unused hnot)] at hconsumed
        have hnone : uses.countP (fun use => !use.completes) = 0 ∧ uses.countP (fun use => use.completes) = 0 := by
          omega
        cases hold' : other.completes with
        | false => exact absurd (List.countP_eq_zero.mp hnone.1 other hold) (by simp [hold'])
        | true => exact absurd (List.countP_eq_zero.mp hnone.2 other hold) (by simp [hold'])
      have hbefore := h.user other hold
      rw [(huses.claimed hcompletes).2] at hbefore
      rw [huser, hbefore]
    · rw [List.mem_singleton.mp hlast]
      exact huser
  · intro other hother member hmember
    rcases List.mem_append.mp hother with hold | hlast
    · rw [huses.same.2.1, huses.same.2.2]
      exact h.members other hold member hmember
    · rw [List.mem_singleton.mp hlast] at hmember ⊢
      exact hmembers member hmember

/-! ## Runs -/

/-- What holds of the rows, and of what was committed, in every run. -/
structure Kept (maxWorkspaceMembers : String → Option Int) (initial : Tables) (shown : List (Option Event))
    (tables : Tables) : Prop where
  stored : Stored tables
  founders : tables.founders = initial.founders
  capacity : ∀ workspaceId maximum, maxWorkspaceMembers workspaceId = some maximum →
    (initial.memberCount workspaceId : Int) ≤ maximum → (tables.memberCount workspaceId : Int) ≤ maximum
  told : ∀ invitation ∈ tables.invitations, Told (usesOf invitation.id shown) invitation
  unknown : ∀ id, (∀ invitation ∈ tables.invitations, invitation.id ≠ id) → usesOf id shown = []

theorem usesOf_concat (id : String) (shown : List (Option Event)) (event : Option Event) :
    usesOf id (shown ++ [event]) = usesOf id shown ++ (event.bind (Event.useOf id)).toList := by
  rw [usesOf, List.filterMap_append]
  cases hevent : event.bind (Event.useOf id) with
  | none => simp [usesOf, hevent]
  | some use => simp [usesOf, hevent]

theorem Kept.quiet {initial tables : Tables} {shown : List (Option Event)}
    (h : Kept maxWorkspaceMembers initial shown tables) :
    Kept maxWorkspaceMembers initial (shown ++ [none]) tables := by
  refine ⟨h.stored, h.founders, h.capacity, fun invitation hinvitation => ?_, fun id hid => ?_⟩
  · rw [usesOf_concat, Option.bind_none, Option.toList_none, List.append_nil]
    exact h.told invitation hinvitation
  · rw [usesOf_concat, Option.bind_none, Option.toList_none, List.append_nil]
    exact h.unknown id hid

theorem Told.nil {invitation : WorkspaceInvitation} : Told [] invitation := by
  refine ⟨?_, ?_, ?_, fun _ huse => (by cases huse), fun _ huse => (by cases huse)⟩
  · rw [List.countP_nil, Nat.zero_add]
    split <;> decide
  · rw [List.countP_nil, Nat.zero_add]
    split <;> decide
  · rw [List.countP_nil, Nat.zero_add]
    split <;> decide

/-- What is committed, other than a use, is not told of any invitation. -/
theorem usesOf_of_ne (h : ∀ use, event ≠ .used use) (id : String) (shown : List (Option Event)) :
    usesOf id (shown ++ [some event]) = usesOf id shown := by
  have hnone : event.useOf id = none := by
    cases event with
    | used use => exact absurd rfl (h use)
    | _ => rfl
  rw [usesOf_concat, Option.bind_some, hnone, Option.toList_none, List.append_nil]

/-- A use is told of its invitation, and of no other one. -/
theorem usesOf_use (use : InvitationUse) (id : String) (shown : List (Option Event)) :
    usesOf id (shown ++ [some (.used use)]) = usesOf id shown ++ if use.invitationId = id then [use] else [] := by
  rw [usesOf_concat, Option.bind_some, Event.useOf]
  split
  · rfl
  · rfl

theorem Kept.effect {initial tables : Tables} {shown : List (Option Event)}
    (h : Kept maxWorkspaceMembers initial shown tables) (heffect : Effect maxWorkspaceMembers event tables tables') :
    Kept maxWorkspaceMembers initial (shown ++ [some event]) tables' := by
  refine ⟨heffect.stored h.stored, (heffect.founders h.stored).trans h.founders,
    fun workspaceId maximum hmaximum hle => heffect.memberCount_le hmaximum (h.capacity workspaceId maximum hmaximum hle),
    ?_, ?_⟩
  · intro row hrow
    cases heffect with
    | @invited invitation _ fresh unused unclaimed =>
      rw [usesOf_of_ne fun _ => Event.noConfusion]
      rcases List.mem_append.mp hrow with hold | hnew
      · exact h.told row hold
      · rw [List.mem_singleton.mp hnew, h.unknown invitation.id fresh]
        exact .nil
    | @used use _ _ invitation invitation' uses =>
      rw [uses.invitations] at hrow
      obtain ⟨old, hold, rfl⟩ := List.mem_map.mp hrow
      rw [usesOf_use]
      by_cases hid : old.id = invitation.id
      · rw [if_pos hid, uses.same.1, if_pos uses.id.symm]
        exact (h.told invitation uses.found).uses uses h.stored
      · rw [if_neg hid, if_neg fun heq => hid (heq.symm.trans uses.id.symm), List.append_nil]
        exact h.told old hold
    | _ =>
      rw [usesOf_of_ne fun _ => Event.noConfusion]
      exact h.told row hrow
  · intro id hid
    cases heffect with
    | invited fresh unused unclaimed =>
      rw [usesOf_of_ne fun _ => Event.noConfusion]
      exact h.unknown id fun row hrow => hid row (List.mem_append_left _ hrow)
    | @used use _ _ invitation invitation' uses =>
      have hids : ∀ row ∈ tables.invitations, row.id ≠ id := by
        intro row hrow heq
        rw [← heq] at hid
        have hmem : row.id ∈ tables'.invitations.map WorkspaceInvitation.id := by
          rw [uses.invitations, map_id_replace uses.same.1]
          exact List.mem_map_of_mem hrow
        obtain ⟨row', hrow', hsame⟩ := List.mem_map.mp hmem
        exact hid row' hrow' hsame
      rw [usesOf_use, if_neg (uses.id ▸ hids invitation uses.found), List.append_nil]
      exact h.unknown id hids
    | _ =>
      rw [usesOf_of_ne fun _ => Event.noConfusion]
      exact h.unknown id hid

section Calls

variable {sha256 normalize : String → String}

/-- **What a piece shows is what it does to the rows.** -/
theorem Piece.effect {call : Call} {tables : Tables} {shown : Option Event} {next : Call}
    (h : Piece sha256 normalize maxWorkspaceMembers call tables (shown, tables', next)) (stored : Stored tables) :
    shown = none ∧ tables' = tables ∨ ∃ event, shown = some event ∧ Effect maxWorkspaceMembers event tables tables' := by
  cases h with
  | quiet same hdone => exact .inl ⟨rfl, rfl⟩
  | commits point transacts => exact .inr ⟨_, rfl, transact_effect stored transacts⟩
  | signsIn point creates => exact .inr ⟨_, rfl, (createSession_effect creates).1⟩

theorem kept_of_run {initial : Tables} (stored : Stored initial) (moves : List (Move Request (Option Supply))) :
    Kept maxWorkspaceMembers initial ((service sha256 normalize maxWorkspaceMembers).shown initial moves)
      ((service sha256 normalize maxWorkspaceMembers).pool initial moves).shared := by
  refine (service sha256 normalize maxWorkspaceMembers).shown_invariant
    (P := Kept maxWorkspaceMembers initial) ?_ ?_ ?_ moves
  · exact ⟨stored, rfl, fun _ _ _ hle => hle, fun _ _ => .nil, fun _ _ => rfl⟩
  · exact fun shown request tables h => h.quiet
  · intro shown reply call tables h
    have hpiece := @piece sha256 normalize maxWorkspaceMembers reply call tables
    show Kept _ _ (shown ++ [(resumeOrThrow sha256 normalize maxWorkspaceMembers reply call tables).1])
      (resumeOrThrow sha256 normalize maxWorkspaceMembers reply call tables).2.1
    generalize resumeOrThrow sha256 normalize maxWorkspaceMembers reply call tables = result at hpiece ⊢
    obtain ⟨event, tables', next⟩ := result
    rcases hpiece.effect h.stored with ⟨rfl, rfl⟩ | ⟨event, rfl, heffect⟩
    · exact h.quiet
    · exact h.effect heffect

/-! ## Moves -/

/-- One move of a run. -/
abbrev MembershipEntry : Type := Entry (Move Request (Option Supply)) (Option (Option Event)) (Pool Tables Call)

/-- A move has done to the rows what it shows: its event, or nothing. -/
def DoesAsShown (maxWorkspaceMembers : String → Option Int) (e : MembershipEntry) : Prop :=
  match e.outcome.join with
  | none => e.after.shared = e.before.shared
  | some event => Effect maxWorkspaceMembers event e.before.shared e.after.shared

/-- A move resumes a call by which a founder gives this member a role. -/
def GivesRole (member : WorkspaceMember) (e : MembershipEntry) : Prop :=
  ∃ i reply call workspaceId actorId role, e.label = .resume i reply ∧ e.before.calls[i]? = some call
    ∧ call.request = .changeMemberRole workspaceId actorId member.id role

/-- The request of a call that commits a change of a role. -/
theorem request_of_roleChanged {request : Request} {memberId : String} {role : CollaborationRole}
    (h : request.Commits (.roleChanged memberId role)) :
    ∃ workspaceId actorId, request = .changeMemberRole workspaceId actorId memberId role := by
  cases request with
  | changeMemberRole workspaceId actorId requested role' =>
    obtain ⟨rfl, rfl⟩ := h
    exact ⟨workspaceId, actorId, rfl⟩
  | _ => exact h.elim

/-- **Every move does what it shows, and gives a role only in a call that asks for it.** -/
theorem entryAt_kept {p : Pool Tables Call} (stored : Stored p.shared) (move : Move Request (Option Supply)) :
    DoesAsShown maxWorkspaceMembers (entryAt (service sha256 normalize maxWorkspaceMembers).step p move)
      ∧ ∀ memberId role,
        ((service sha256 normalize maxWorkspaceMembers).step move p).1 = some (some (.roleChanged memberId role)) →
        ∃ i reply call workspaceId actorId, move = .resume i reply ∧ p.calls[i]? = some call
          ∧ call.request = .changeMemberRole workspaceId actorId memberId role := by
  cases move with
  | start request => exact ⟨rfl, fun _ _ hshown => (by cases hshown)⟩
  | resume i reply =>
    cases hcall : p.calls[i]? with
    | none =>
      unfold DoesAsShown entryAt
      rw [CallSystem.step_resume_of_none _ hcall]
      exact ⟨rfl, fun _ _ hshown => (by cases hshown)⟩
    | some call =>
      have hpiece := @piece sha256 normalize maxWorkspaceMembers reply call p.shared
      unfold DoesAsShown entryAt
      rw [CallSystem.step_resume_of_some _ hcall]
      change (match some (resumeOrThrow sha256 normalize maxWorkspaceMembers reply call p.shared).1 |>.join with
        | none => (resumeOrThrow sha256 normalize maxWorkspaceMembers reply call p.shared).2.1 = p.shared
        | some event => Effect maxWorkspaceMembers event p.shared
            (resumeOrThrow sha256 normalize maxWorkspaceMembers reply call p.shared).2.1)
        ∧ ∀ memberId role, some (resumeOrThrow sha256 normalize maxWorkspaceMembers reply call p.shared).1
            = some (some (.roleChanged memberId role)) → _
      generalize resumeOrThrow sha256 normalize maxWorkspaceMembers reply call p.shared = result at hpiece ⊢
      obtain ⟨event, tables', next⟩ := result
      refine ⟨?_, fun memberId role hshown => ?_⟩
      · rcases hpiece.effect stored with ⟨rfl, rfl⟩ | ⟨event, rfl, heffect⟩
        · rfl
        · exact heffect
      · rw [Option.some.injEq] at hshown
        subst hshown
        cases hpiece with
        | commits point transacts =>
          obtain ⟨workspaceId, actorId, hrequest⟩ := request_of_roleChanged (transact_commits transacts)
          exact ⟨i, reply, call, workspaceId, actorId, rfl, hcall, hrequest⟩
        | signsIn point creates =>
          cases (@createSession_effect maxWorkspaceMembers _ _ _ _ creates).2

/-- A call has committed what it does to members, invitations and users. -/
def Call.committed (call : Call) : Prop := call.point = .done

/-- Members, invitations and users. -/
def membershipView (tables : Tables) : List WorkspaceMember × List WorkspaceInvitation × List User :=
  (tables.members, tables.invitations, tables.users)

/-- **A piece that has not committed has left members, invitations and users as they were.** -/
theorem untouched_of_not_committed {reply : Option Supply} {call : Call} {tables : Tables}
    (hnot : ¬(resumeOrThrow sha256 normalize maxWorkspaceMembers reply call tables).2.2.committed) :
    ¬call.committed ∧ membershipView (resumeOrThrow sha256 normalize maxWorkspaceMembers reply call tables).2.1
      = membershipView tables := by
  have hbefore : ¬call.committed := by
    intro hdone
    refine hnot ?_
    unfold Call.committed at hdone
    cases reply with
    | none => simp only [resumeOrThrow, hdone, Call.committed]
    | some supply => simp only [resumeOrThrow, resumeCall, hdone, Call.committed]
  refine ⟨hbefore, ?_⟩
  have hpiece := @piece sha256 normalize maxWorkspaceMembers reply call tables
  generalize resumeOrThrow sha256 normalize maxWorkspaceMembers reply call tables = result at hnot hpiece ⊢
  cases hpiece with
  | quiet same hdone => rfl
  | commits point transacts => exact absurd rfl hnot
  | signsIn point creates =>
    simp only [createSession, check_bind_eq_ok, except_pure_eq_ok, Prod.mk.injEq] at creates
    rw [← creates.2.2]
    rfl

/-- **Members and invitations, in every run.** There are no more members than the plan allows when there were not at
first, and the founders stay. The uses of an invitation go with its row: one consumes it, at most one completes a pending
claim, at most one makes a member, and all are by the user that the row records. Every move does what it shows; the role
of a member changes only in a call that asks for it; and a call that throws has left members, invitations and users as
they were. -/
theorem memberships_kept {initial : Tables} (stored : Stored initial) (moves : List (Move Request (Option Supply))) :
    (∀ workspaceId maximum, maxWorkspaceMembers workspaceId = some maximum →
      (initial.memberCount workspaceId : Int) ≤ maximum →
      (((service sha256 normalize maxWorkspaceMembers).pool initial moves).shared.memberCount workspaceId : Int)
        ≤ maximum)
      ∧ ((service sha256 normalize maxWorkspaceMembers).pool initial moves).shared.founders = initial.founders
      ∧ (∀ invitation ∈ ((service sha256 normalize maxWorkspaceMembers).pool initial moves).shared.invitations,
        Told (usesOf invitation.id ((service sha256 normalize maxWorkspaceMembers).shown initial moves)) invitation)
      ∧ (∀ e ∈ history (service sha256 normalize maxWorkspaceMembers).step ⟨initial, []⟩ moves,
        DoesAsShown maxWorkspaceMembers e
          ∧ ∀ member ∈ e.before.shared.members, ∀ member' ∈ e.after.shared.members, member'.id = member.id →
            member'.role ≠ member.role → GivesRole member e)
      ∧ (∀ i call error, ((service sha256 normalize maxWorkspaceMembers).pool initial moves).calls[i]? = some call →
        call.point = .thrown error →
        (service sha256 normalize maxWorkspaceMembers).Untouched membershipView initial moves i) := by
  have hkept := @kept_of_run maxWorkspaceMembers sha256 normalize initial stored
  refine ⟨(hkept moves).capacity, (hkept moves).founders, (hkept moves).told, fun e he => ?_, ?_⟩
  · obtain ⟨pre, move, post, -, rfl⟩ := eq_entryAt_of_mem_history _ he
    have hstored : Stored (run (service sha256 normalize maxWorkspaceMembers).step ⟨initial, []⟩ pre).shared :=
      (hkept pre).stored
    obtain ⟨hdoes, hgives⟩ := @entryAt_kept maxWorkspaceMembers sha256 normalize _ hstored move
    refine ⟨hdoes, fun member hmember member' hmember' hid hne => ?_⟩
    by_contra hnot
    refine hne ?_
    unfold DoesAsShown at hdoes
    split at hdoes
    · -- Nothing was committed: the rows are the same.
      have hsame : member' = member := by
        rw [hdoes] at hmember'
        exact List.inj_on_of_nodup_map hstored.memberIds hmember' hmember hid
      rw [hsame]
    · rename_i event hevent
      refine hdoes.role_eq hstored hmember hmember' hid ?_
      rintro role rfl
      obtain ⟨i, reply, call, workspaceId, actorId, hmove, hcall, hrequest⟩ :=
        hgives member.id role (Option.join_eq_some_iff.mp hevent)
      exact hnot ⟨i, reply, call, workspaceId, actorId, role, hmove, hcall, hrequest⟩
  · intro i call error hcall hthrown
    refine CallSystem.untouched _ Call.committed (fun _ _ _ => rfl) ?_ initial moves i ?_
    · exact fun reply call tables hnot => untouched_of_not_committed hnot
    · intro other hother
      rw [hcall, Option.mem_some_iff] at hother
      rw [← hother, Call.committed, hthrown]
      exact Point.noConfusion

end Calls

/-! ## An invitation that is accepted -/

namespace Sample

/-- A workspace with its founder. -/
def tables : Tables where
  users := [⟨"f", "f@example.com", "Founder", true, some "hash", none⟩]
  members := [⟨"m1", "w", "f", .FOUNDER, 0⟩]
  invitations := []
  sessions := []

theorem stored : Stored tables := ⟨by decide, by decide, by decide, by decide⟩

/-- The plan has two members. -/
def plan (_ : String) : Option Int := some 2

def supply (now : Int) : Option Supply :=
  some ⟨now, "u", "m2", "i", "s", "hash", "digest", now + 1000, true, false, true⟩

/-- The founder invites an operator, who accepts. -/
def acceptance : List (Move Request (Option Supply)) :=
  [.start (.createInvitation "w" "f" .OPERATOR 24 "token" 0), .resume 0 (supply 1),
    .start (.acceptInvitation "token" "u@example.com" "Operator"), .resume 1 (supply 2), .resume 1 (supply 3),
    .resume 1 (supply 4), .resume 1 (supply 5)]

end Sample

theorem memberships_kept_acceptance :
    (((service id id Sample.plan).pool Sample.tables Sample.acceptance).shared.memberCount "w" : Int) ≤ 2 :=
  (memberships_kept Sample.stored Sample.acceptance).1 "w" 2 rfl (by decide)

example : ((service id id Sample.plan).pool Sample.tables Sample.acceptance).shared.memberCount "w" = 2 := by
  decide +kernel

end VentureOS.Membership
