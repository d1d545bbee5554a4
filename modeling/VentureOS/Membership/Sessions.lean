import VentureOS.Membership.Invitations

/-! # Sessions of members

A removal revokes the sessions that are active in the workspace, and a revoked session is never accepted again. All
other transactions leave every session in a workspace of which its user is a member. A login reads the membership and
inserts its session in two statements, without the lock of the account: when a removal comes in between, the session is
one of a user who is no member any more, and it is accepted as soon as the user joins again. -/

namespace VentureOS.Membership

variable {maxWorkspaceMembers : String → Option Int}

/-! ## Sessions in a workspace of their user -/

/-- A user is a member of a workspace. -/
def Tables.HasMember (tables : Tables) (workspaceId userId : String) : Prop :=
  ∃ member ∈ tables.members, member.workspaceId = workspaceId ∧ member.userId = userId

instance (tables : Tables) (workspaceId userId : String) : Decidable (tables.HasMember workspaceId userId) :=
  inferInstanceAs (Decidable (∃ member ∈ tables.members, _))

/-- A session that is not revoked is active in a workspace of its user, if in any. -/
def Session.OfMember (session : Session) (tables : Tables) : Prop :=
  session.revokedAt = none → ∀ workspaceId ∈ session.activeWorkspaceId, tables.HasMember workspaceId session.userId

instance (session : Session) (tables : Tables) : Decidable (session.OfMember tables) :=
  inferInstanceAs (Decidable (_ → ∀ workspaceId ∈ session.activeWorkspaceId, _))

/-- All sessions that are not revoked are in workspaces of their users. -/
def SessionsOfMembers (tables : Tables) : Prop := ∀ session ∈ tables.sessions, session.OfMember tables

instance (tables : Tables) : Decidable (SessionsOfMembers tables) :=
  inferInstanceAs (Decidable (∀ session ∈ tables.sessions, _))

/-- What is left of the members is enough for the sessions that stay. -/
theorem SessionsOfMembers.mono {tables tables' : Tables} (h : SessionsOfMembers tables)
    (hsessions : tables'.sessions = tables.sessions)
    (hmembers : ∀ workspaceId userId, tables.HasMember workspaceId userId → tables'.HasMember workspaceId userId) :
    SessionsOfMembers tables' := by
  intro session hsession hrevoked workspaceId hactive
  rw [hsessions] at hsession
  exact hmembers workspaceId session.userId (h session hsession hrevoked workspaceId hactive)

/-- Sessions that are moved are moved to workspaces of their users. -/
theorem SessionsOfMembers.moved {tables tables' : Tables} (h : SessionsOfMembers tables)
    (hmoved : Moved tables'.members tables.sessions tables'.sessions)
    (hmembers : ∀ workspaceId userId, tables.HasMember workspaceId userId → tables'.HasMember workspaceId userId) :
    SessionsOfMembers tables' := by
  obtain ⟨move, hsessions, hmove⟩ := hmoved
  intro session hsession hrevoked workspaceId hactive
  rw [hsessions] at hsession
  obtain ⟨old, hold, rfl⟩ := List.mem_map.mp hsession
  obtain ⟨huser, -, hrevokedAt, hplace⟩ := hmove old hold
  rw [huser]
  rcases hplace with hsame | ⟨member, hmember, hmemberUser, hplaced⟩
  · rw [hrevokedAt] at hrevoked
    rw [hsame] at hactive
    exact hmembers workspaceId old.userId (h old hold hrevoked workspaceId hactive)
  · rw [hplaced, Option.mem_some_iff] at hactive
    exact ⟨member, hmember, hactive, hmemberUser⟩

variable {tables tables' : Tables}

/-- **Every event but a login leaves the sessions with members**, and a login does when its session is one of a
member. -/
theorem Effect.sessionsOfMembers {event : Event}
    (h : Effect maxWorkspaceMembers event tables tables') (stored : Stored tables) (hkept : SessionsOfMembers tables)
    (hlogin : ∀ session, event = .signedIn session → session.OfMember tables) : SessionsOfMembers tables' := by
  cases h with
  | @used use _ _ invitation invitation' uses =>
    refine hkept.moved uses.sessions ?_
    rintro workspaceId userId ⟨member, hmember, hplace⟩
    refine ⟨member, ?_, hplace⟩
    rw [uses.members]
    exact List.mem_append_left _ hmember
  | @roleChanged changed role _ found collaborates =>
    refine hkept.mono rfl ?_
    rintro workspaceId userId ⟨member, hmember, hplace⟩
    refine ⟨_, List.mem_map_of_mem hmember, ?_⟩
    split
    · exact hplace
    · exact hplace
  | @removed member now _ found collaborates =>
    intro session hsession hrevoked workspaceId hactive
    obtain ⟨old, hold, rfl⟩ := List.mem_map.mp hsession
    by_cases hends : (old.userId = member.userId ∧ old.activeWorkspaceId = some member.workspaceId)
        ∧ old.revokedAt = none
    · rw [if_pos hends] at hrevoked
      cases hrevoked
    · rw [if_neg hends] at hrevoked hactive ⊢
      obtain ⟨other, hother, hworkspace, huser⟩ := hkept old hold hrevoked workspaceId hactive
      refine ⟨other, List.mem_filter.mpr ⟨hother, ?_⟩, hworkspace, huser⟩
      rw [decide_eq_true_eq]
      intro hid
      -- The membership of the session is not the one that is removed, for its sessions are revoked.
      have hsame : other = member := List.inj_on_of_nodup_map stored.memberIds hother found hid
      subst hsame
      rw [Option.mem_def] at hactive
      exact hends ⟨⟨huser.symm, hworkspace ▸ hactive⟩, hrevoked⟩
  | switched moved => exact hkept.moved moved fun _ _ h => h
  | @signedIn new _ fresh =>
    intro session hsession
    rcases List.mem_append.mp hsession with hold | hnew
    · exact hkept session hold
    · rw [List.mem_singleton.mp hnew]
      exact hlogin new rfl
  | _ => exact hkept.mono rfl fun _ _ h => h

/-! ## Revoked sessions -/

/-- The session with this digest is revoked. -/
def Tables.Revoked (tables : Tables) (tokenDigest : String) : Prop :=
  ∃ session ∈ tables.sessions, session.tokenDigest = tokenDigest ∧ session.revokedAt ≠ none

variable {tokenDigest : String}

/-- **What is revoked stays revoked.** -/
theorem Effect.revoked {event : Event} (h : Effect maxWorkspaceMembers event tables tables')
    (hrevoked : tables.Revoked tokenDigest) : tables'.Revoked tokenDigest := by
  obtain ⟨session, hsession, hdigest, hnone⟩ := hrevoked
  have hmoved : ∀ {members sessions'}, Moved members tables.sessions sessions' →
      ∃ session ∈ sessions', session.tokenDigest = tokenDigest ∧ session.revokedAt ≠ none := by
    rintro members _ ⟨move, rfl, hmove⟩
    obtain ⟨-, hsame, hrevokedAt, -⟩ := hmove session hsession
    exact ⟨move session, List.mem_map_of_mem hsession, hsame.trans hdigest, hrevokedAt ▸ hnone⟩
  cases h with
  | used invitation invitation' uses => exact hmoved uses.sessions
  | switched moved => exact hmoved moved
  | removed found collaborates =>
    refine ⟨_, List.mem_map_of_mem hsession, ?_⟩
    rw [if_neg fun hends => hnone hends.2]
    exact ⟨hdigest, hnone⟩
  | signedIn fresh => exact ⟨session, List.mem_append_left _ hsession, hdigest, hnone⟩
  | _ => exact ⟨session, hsession, hdigest, hnone⟩

/-- A removal revokes the sessions of the member in the workspace. -/
theorem Effect.removed_revoked {member : WorkspaceMember}
    (h : Effect maxWorkspaceMembers (.removed member) tables tables') {session : Session}
    (hsession : session ∈ tables.sessions) (huser : session.userId = member.userId)
    (hactive : session.activeWorkspaceId = some member.workspaceId) : tables'.Revoked session.tokenDigest := by
  cases h with
  | @removed _ now _ found collaborates =>
    refine ⟨_, List.mem_map_of_mem hsession, ?_⟩
    split
    · exact ⟨rfl, Option.some_ne_none now⟩
    · rename_i hends
      exact ⟨rfl, fun hnone => hends ⟨⟨huser, hactive⟩, hnone⟩⟩

/-- **The guard refuses a revoked session.** -/
theorem canActivate_of_revoked (stored : Stored tables) (hrevoked : tables.Revoked tokenDigest) (now : Int) :
    canActivate tables tokenDigest now = .error (.unauthorized "Session invalid or expired") := by
  obtain ⟨session, hsession, hdigest, hnone⟩ := hrevoked
  have hfind : (tables.sessions.find? fun session =>
      session.tokenDigest = tokenDigest ∧ session.usable now = true) = none := by
    rw [List.find?_eq_none]
    intro other hother hmatch
    rw [decide_eq_true_eq] at hmatch
    have hsame : other = session :=
      List.inj_on_of_nodup_map stored.sessionDigests hother hsession (hmatch.1.trans hdigest.symm)
    rw [hsame, Session.usable, Bool.and_eq_true, Option.isNone_iff_eq_none] at hmatch
    exact hnone hmatch.2.1
  rw [canActivate, hfind]

/-! ## Runs -/

section Calls

variable {sha256 normalize : String → String}

/-- Who signs in where, when a call is about to insert a session. -/
def Call.signsIn (call : Call) : Option (String × String) :=
  match call.point with
  | .inserting user workspaceId => some (workspaceId, user.id)
  | _ => none

/-- A login that inserts its session finds its user still a member of the workspace. -/
def StillMember (_ : Option Supply) (call : Call) (tables : Tables) : Prop :=
  ∀ place ∈ call.signsIn, tables.HasMember place.1 place.2

instance (reply : Option Supply) (call : Call) (tables : Tables) : Decidable (StillMember reply call tables) :=
  inferInstanceAs (Decidable (∀ place ∈ call.signsIn, _))

/-- **A piece leaves the sessions with members**, when a login finds its user still a member. -/
theorem Piece.sessionsOfMembers {reply : Option Supply} {call : Call} {shown : Option Event}
    {next : Call} (h : Piece sha256 normalize maxWorkspaceMembers call tables (shown, tables', next))
    (stored : Stored tables) (hkept : SessionsOfMembers tables) (hstill : StillMember reply call tables) :
    SessionsOfMembers tables' := by
  cases h with
  | quiet same hdone => exact hkept
  | commits point transacts =>
    refine (transact_effect stored transacts).sessionsOfMembers stored hkept ?_
    rintro session rfl
    have hcommits := transact_commits transacts
    cases hrequest : call.request <;> rw [hrequest] at hcommits <;> exact hcommits.elim
  | @signsIn user workspaceId supply _ _ point creates =>
    obtain ⟨heffect, rfl⟩ := @createSession_effect maxWorkspaceMembers _ _ _ _ creates
    refine heffect.sessionsOfMembers stored hkept fun session hsession => ?_
    cases hsession
    intro _ place hplace
    rw [newSession, Option.mem_some_iff] at hplace
    subst hplace
    exact hstill (workspaceId, user.id) (by simp [Call.signsIn, point])

theorem sessionsOfMembers_of_run {initial : Tables} (stored : Stored initial) (hinitial : SessionsOfMembers initial)
    {moves : List (Move Request (Option Supply))}
    (hmoves : (service sha256 normalize maxWorkspaceMembers).EachResume StillMember initial moves) :
    SessionsOfMembers ((service sha256 normalize maxWorkspaceMembers).pool initial moves).shared := by
  let I : Tables → Prop := fun tables => Stored tables ∧ SessionsOfMembers tables
  refine ((service sha256 normalize maxWorkspaceMembers).invariant_where (I := I) (L := fun _ _ => True)
    ⟨stored, hinitial⟩ ?_ ?_ hmoves).1.2
  · exact fun request tables h => ⟨h, trivial, fun _ _ => trivial⟩
  · intro reply call tables hstill h _
    refine ⟨?_, trivial, fun _ _ => trivial⟩
    have hpiece := @piece sha256 normalize maxWorkspaceMembers reply call tables
    change I (resumeOrThrow sha256 normalize maxWorkspaceMembers reply call tables).2.1
    generalize resumeOrThrow sha256 normalize maxWorkspaceMembers reply call tables = result at hpiece ⊢
    obtain ⟨event, tables', next⟩ := result
    refine ⟨?_, hpiece.sessionsOfMembers h.1 h.2 hstill⟩
    rcases hpiece.effect h.1 with ⟨-, rfl⟩ | ⟨event, -, heffect⟩
    · exact h.1
    · exact heffect.stored h.1

/-- What is revoked stays revoked in every run. -/
theorem revoked_of_run {p : Pool Tables Call} (stored : Stored p.shared)
    (hrevoked : p.shared.Revoked tokenDigest) (moves : List (Move Request (Option Supply))) :
    Stored (run (service sha256 normalize maxWorkspaceMembers).step p moves).shared
      ∧ (run (service sha256 normalize maxWorkspaceMembers).step p moves).shared.Revoked tokenDigest := by
  refine run_induction _ (P := fun p : Pool Tables Call => Stored p.shared ∧ p.shared.Revoked tokenDigest) ⟨stored, hrevoked⟩ ?_ moves
  rintro before move ⟨hstored, hbefore⟩
  have hdoes := (@entryAt_kept maxWorkspaceMembers sha256 normalize _ hstored move).1
  unfold DoesAsShown at hdoes
  split at hdoes
  · exact (congrArg (fun tables => Stored tables ∧ tables.Revoked tokenDigest) hdoes).mpr ⟨hstored, hbefore⟩
  · exact ⟨hdoes.stored hstored, hdoes.revoked hbefore⟩

/-- **Sessions belong to members when every login finds its user still a member.** In every run in which each login that
inserts its session finds its user still a member of the workspace, every session that is not revoked is active in a
workspace of its user. In every run, a session that was active in the workspace of a member who was removed is refused
by the guard from then on. -/
theorem sessions_of_members {initial : Tables} (stored : Stored initial) (hinitial : SessionsOfMembers initial)
    (moves : List (Move Request (Option Supply))) :
    ((service sha256 normalize maxWorkspaceMembers).EachResume StillMember initial moves →
      SessionsOfMembers ((service sha256 normalize maxWorkspaceMembers).pool initial moves).shared)
      ∧ ∀ e ∈ history (service sha256 normalize maxWorkspaceMembers).step ⟨initial, []⟩ moves,
        ∀ member, e.outcome = some (some (.removed member)) → ∀ session ∈ e.before.shared.sessions,
          session.userId = member.userId → session.activeWorkspaceId = some member.workspaceId → ∀ now,
          canActivate ((service sha256 normalize maxWorkspaceMembers).pool initial moves).shared session.tokenDigest now
            = .error (.unauthorized "Session invalid or expired") := by
  refine ⟨sessionsOfMembers_of_run stored hinitial, ?_⟩
  intro e he member hremoved session hsession huser hactive now
  obtain ⟨before, move, after, rfl, rfl⟩ := eq_entryAt_of_mem_history _ he
  have hstored : Stored (run (service sha256 normalize maxWorkspaceMembers).step ⟨initial, []⟩ before).shared :=
    (@kept_of_run maxWorkspaceMembers sha256 normalize initial stored before).stored
  have hdoes := (@entryAt_kept maxWorkspaceMembers sha256 normalize _ hstored move).1
  unfold DoesAsShown at hdoes
  rw [hremoved] at hdoes
  have hrevoked := hdoes.removed_revoked hsession huser hactive
  unfold CallSystem.pool
  rw [run_append, run_cons]
  obtain ⟨hstored', hrevoked'⟩ := revoked_of_run (hdoes.stored hstored) hrevoked after
  exact canActivate_of_revoked hstored' hrevoked' now

end Calls

/-! ## A login beside a removal -/

namespace Sample

/-- A workspace with its founder and an operator, who is also in a workspace of their own. -/
def crew : Tables where
  users := [⟨"f", "f@example.com", "Founder", true, some "hash", none⟩,
    ⟨"u", "u@example.com", "Operator", false, some "hash", none⟩]
  members := [⟨"m1", "w", "f", .FOUNDER, 0⟩, ⟨"m2", "w", "u", .OPERATOR, 1⟩, ⟨"m3", "own", "u", .FOUNDER, 2⟩]
  invitations := []
  sessions := []

theorem stored_crew : Stored crew := ⟨by decide, by decide, by decide, by decide⟩

/-- What a step of a call reads: the password is right, and the ids are new. -/
def reads (id : String) (now : Int) : Option Supply :=
  some ⟨now, id, id, id, id, "hash", id, now + 1000, true, false, true⟩

/-- The operator signs in, as far as the membership is read. -/
def signingIn : List (Move Request (Option Supply)) :=
  [.start (.login "u@example.com"), .resume 0 (reads "s1" 10), .resume 0 (reads "s1" 11), .resume 0 (reads "s1" 12),
    .resume 0 (reads "s1" 13)]

/-- The founder removes the operator. -/
def removing : List (Move Request (Option Supply)) :=
  [.start (.removeMember "w" "f" "m2"), .resume 1 (reads "r" 14), .resume 1 (reads "r" 15)]

/-- The session is inserted, and the login returns. -/
def signedIn : List (Move Request (Option Supply)) := [.resume 0 (reads "s1" 16), .resume 0 (reads "s1" 17)]

/-- The founder invites the user again, who signs in to the other workspace and accepts. -/
def rejoining : List (Move Request (Option Supply)) :=
  [.start (.createInvitation "w" "f" .VIEWER 24 "token" 20), .resume 2 (reads "i" 20),
    .start (.login "u@example.com"), .resume 3 (reads "s2" 21), .resume 3 (reads "s2" 22), .resume 3 (reads "s2" 23),
    .resume 3 (reads "s2" 24), .resume 3 (reads "s2" 25), .resume 3 (reads "s2" 26),
    .start (.acceptInvitationForAuthenticatedUser "token" "s2" "u"), .resume 4 (reads "m4" 27),
    .resume 4 (reads "m4" 28), .resume 4 (reads "m4" 29)]

end Sample

theorem sessions_of_members_in_turn :
    SessionsOfMembers ((service id id Sample.plan).pool Sample.crew
      (Sample.signingIn ++ Sample.signedIn ++ Sample.removing)).shared :=
  (sessions_of_members Sample.stored_crew (by decide) _).1 (by decide +kernel)

/-- **A login beside a removal leaves a session of a user who is no member**, with all calls returned, and the guard
accepts it for the workspace when the user has joined again. -/
theorem session_of_removed_member :
    ¬SessionsOfMembers ((service id id Sample.plan).pool Sample.crew
        (Sample.signingIn ++ Sample.removing ++ Sample.signedIn)).shared
      ∧ (((service id id Sample.plan).pool Sample.crew
        (Sample.signingIn ++ Sample.removing ++ Sample.signedIn)).calls.map Call.point) = [.done, .done]
      ∧ canActivate ((service id id Sample.plan).pool Sample.crew
        (Sample.signingIn ++ Sample.removing ++ Sample.signedIn ++ Sample.rejoining)).shared "s1" 30
        = .ok ⟨"s1", "u", "w", .VIEWER⟩ := by
  decide +kernel

end VentureOS.Membership
