import Mathlib.Data.List.Nodup
import VentureOS.Foundations.Interleaving
import VentureOS.Opportunities.CapabilityPolicy

/-! # Promotions

`OpportunitiesService.promote`: the calls on all opportunities of one workspace.

A call looks at the status of its opportunity before its transaction, and the transaction, which holds the row of the
subscription, checks the quota only. So the number of ventures stays within the plan, but two calls that overlap add two
versions to the proposal of one opportunity, unless every transaction finds its opportunity not yet promoted
(`Unpromoted`). -/

namespace VentureOS.Opportunities

/-! ## Rows -/

/-- `Opportunity.status`. -/
inductive OpportunityStatus where
  | NEW
  | UNDER_REVIEW
  | PROMOTED
  | REJECTED
  | ARCHIVED
  deriving DecidableEq, Repr

/-- `Opportunity`, with the columns that are only copied as its details. -/
structure Opportunity (δ : Type) where
  id : String
  workspaceId : String
  status : OpportunityStatus
  promotedAt : Option Int
  details : δ
  deriving DecidableEq, Repr

/-- `VentureProposal`. -/
structure VentureProposal where
  id : String
  workspaceId : String
  opportunityId : String
  status : String
  deriving DecidableEq, Repr

/-- `VentureProposalVersion`. Its snapshot is the row of the opportunity, as JSON. -/
structure VentureProposalVersion (δ : Type) where
  ventureProposalId : String
  opportunityId : String
  versionNumber : Nat
  snapshot : Opportunity δ
  deriving DecidableEq, Repr

/-- The rows that a promotion reads and writes. -/
structure PromotionTables (δ : Type) where
  opportunities : List (Opportunity δ)
  proposals : List VentureProposal
  versions : List (VentureProposalVersion δ)
  deriving DecidableEq, Repr

variable {δ : Type}

/-- `ventureProposal.count`, of a workspace. -/
def PromotionTables.ventureCount (tables : PromotionTables δ) (workspaceId : String) : Nat :=
  tables.proposals.countP fun proposal => proposal.workspaceId = workspaceId

/-- `ventureProposalVersion.count`, of a proposal. -/
def PromotionTables.versionCount (tables : PromotionTables δ) (ventureProposalId : String) : Nat :=
  tables.versions.countP fun version => version.ventureProposalId = ventureProposalId

/-! ## Calls -/

/-- What a call throws. -/
inductive PromoteError where
  /-- `ForbiddenException`. -/
  | forbidden (message : String)
  /-- `NotFoundException`. -/
  | notFound (message : String)
  /-- `ConflictException`. -/
  | conflict (message : String)
  /-- What a statement has thrown. -/
  | statement
  deriving DecidableEq, Repr

/-- The assessment of Gate 1, as far as a promotion looks at it. -/
structure ComplianceAssessment where
  stateCurrent : Bool
  currentResult : String
  deriving DecidableEq, Repr

/-- What a call reads from elsewhere: the subscription but for its plan, whether there is a score of the evidence, the
assessment, the times of a decision and of a promotion, and the id of a new proposal. -/
structure Reading where
  subscriptionStatus : String
  trialEndsAt : Option Int
  hasStage6EvidenceQuality : Bool
  assessment : Option ComplianceAssessment
  now : Int
  promotedAt : Int
  proposalId : String
  deriving DecidableEq, Repr

/-- Where a call of `promote` is: what it waits for, or its end. -/
inductive PromotePoint (δ : Type) where
  /-- `subscription.findUnique`. -/
  | evaluating
  /-- `ventureProposal.count`. -/
  | counting (subscription : Subscription)
  /-- `loadForMutation`. -/
  | loading
  /-- `assertCurrentOpportunityComplianceForPromotion`. -/
  | assessing (before : Opportunity δ)
  /-- The transaction. -/
  | promoting (before : Opportunity δ)
  /-- `auditService.record`. -/
  | auditing (before after : Opportunity δ) (proposal : VentureProposal)
  | returned (opportunity : Opportunity δ) (proposal : VentureProposal)
  | thrown (error : PromoteError)
  /-- The audit has thrown. -/
  | unaudited
  deriving DecidableEq, Repr

/-- A call of `promote`. -/
structure PromoteCall (δ : Type) where
  opportunityId : String
  point : PromotePoint δ
  deriving DecidableEq, Repr

/-- A call is at this point. -/
def PromoteCall.goTo (call : PromoteCall δ) (point : PromotePoint δ) : PromoteCall δ := { call with point }

/-- The transaction of a call has committed. -/
def PromoteCall.committed (call : PromoteCall δ) : Prop :=
  match call.point with
  | .auditing _ _ _ => True
  | .returned _ _ => True
  | .unaudited => True
  | _ => False

section Calls

variable (plan : SubscriptionPlan) (workspaceId : String)

/-- `enforceWorkspaceCapability` for `VENTURE_CREATE`, and how its denial is thrown on. -/
def enforceVentureCreate (subscription : Subscription) (ventureCount : Nat) (now : Int) : Except PromoteError Unit :=
  throwIf ((decideCapabilityPolicy ventureCreate (some "internal") now
    { subscription := some subscription
      providerMode := some "internal"
      configuredProviderMode := none
      marketplaceAccountCount := 0
      ventureCount
      globalSwitchValue := none }).allowed = false) (.forbidden "Operation is not available")

/-- The row of the subscription. -/
def Reading.subscription (reading : Reading) : Subscription :=
  ⟨reading.subscriptionStatus, reading.trialEndsAt, some plan⟩

/-- `loadForMutation`. -/
def loadForMutation (opportunityId : String) (tables : PromotionTables δ) : Except PromoteError (Opportunity δ) :=
  match tables.opportunities.find? fun row => row.id = opportunityId ∧ row.workspaceId = workspaceId with
  | some opportunity => .ok opportunity
  | none => .error (.notFound "Opportunity not found")

/-- `assertCurrentOpportunityComplianceForPromotion`. -/
def assertCompliance (hasStage6EvidenceQuality : Bool) (assessment : Option ComplianceAssessment) :
    Except PromoteError Unit :=
  if hasStage6EvidenceQuality = false then .ok ()
  else
    match assessment with
    | none => .error (.conflict "A current passing Gate 1 compliance assessment is required")
    | some assessment =>
      throwIf (assessment.stateCurrent = false ∨ assessment.currentResult ≠ "PASS")
        (.conflict "Gate 1 compliance assessment is stale or blocked")

/-- `tx.opportunity.update`. -/
def updateOpportunity (opportunityId : String) (promotedAt : Int) (opportunities : List (Opportunity δ)) :
    Except PromoteError (Opportunity δ × List (Opportunity δ)) :=
  let update := fun row : Opportunity δ => { row with status := .PROMOTED, promotedAt := some promotedAt }
  match opportunities.find? fun row => row.id = opportunityId with
  | none => .error .statement
  | some row => .ok (update row, opportunities.map fun row => if row.id = opportunityId then update row else row)

/-- The proposal of an opportunity, which is created when there is none. -/
def proposalOf (opportunityId proposalId : String) (proposals : List VentureProposal) :
    Except PromoteError (VentureProposal × List VentureProposal) :=
  match proposals.find? fun proposal => proposal.opportunityId = opportunityId with
  | some existingProposal => .ok (existingProposal, proposals)
  | none => do
    throwIf (proposalId ∈ proposals.map VentureProposal.id) .statement
    pure (⟨proposalId, workspaceId, opportunityId, "DRAFT"⟩,
      proposals ++ [⟨proposalId, workspaceId, opportunityId, "DRAFT"⟩])

/-- `tx.ventureProposalVersion.create`. -/
def createVersion (version : VentureProposalVersion δ) (versions : List (VentureProposalVersion δ)) :
    Except PromoteError (List (VentureProposalVersion δ)) := do
  throwIf (∃ other ∈ versions, other.ventureProposalId = version.ventureProposalId
    ∧ other.versionNumber = version.versionNumber) .statement
  pure (versions ++ [version])

/-- The transaction of `promote`. -/
def promotion (opportunityId : String) (reading : Reading) (tables : PromotionTables δ) :
    Except PromoteError ((Opportunity δ × VentureProposal) × PromotionTables δ) := do
  enforceVentureCreate (reading.subscription plan) (tables.ventureCount workspaceId) reading.now
  let (updated, opportunities) ← updateOpportunity opportunityId reading.promotedAt tables.opportunities
  let (proposalRecord, proposals) ← proposalOf workspaceId opportunityId reading.proposalId tables.proposals
  let versions ← createVersion
    { ventureProposalId := proposalRecord.id
      opportunityId
      versionNumber := tables.versionCount proposalRecord.id + 1
      snapshot := updated } tables.versions
  pure ((updated, proposalRecord), { opportunities, proposals, versions })

/-- A call goes on, with what it has read or after a statement has thrown. -/
def resumePromote (reply : Option Reading) (call : PromoteCall δ) (tables : PromotionTables δ) :
    PromotionTables δ × PromoteCall δ :=
  match call.point with
  | .evaluating =>
    match reply with
    -- The policy denies what it cannot read.
    | none => (tables, call.goTo (.thrown (.forbidden "Operation is not available")))
    | some reading => (tables, call.goTo (.counting (reading.subscription plan)))
  | .counting subscription =>
    match reply with
    | none => (tables, call.goTo (.thrown (.forbidden "Operation is not available")))
    | some reading =>
      match enforceVentureCreate subscription (tables.ventureCount workspaceId) reading.now with
      | .error error => (tables, call.goTo (.thrown error))
      | .ok () => (tables, call.goTo .loading)
  | .loading =>
    match reply with
    | none => (tables, call.goTo (.thrown .statement))
    | some _ =>
      match loadForMutation workspaceId call.opportunityId tables with
      | .error error => (tables, call.goTo (.thrown error))
      | .ok before =>
        if before.status = .PROMOTED then
          (tables, call.goTo (.thrown (.forbidden "Opportunity is already promoted")))
        else (tables, call.goTo (.assessing before))
  | .assessing before =>
    match reply with
    | none => (tables, call.goTo (.thrown .statement))
    | some reading =>
      match assertCompliance reading.hasStage6EvidenceQuality reading.assessment with
      | .error error => (tables, call.goTo (.thrown error))
      | .ok () => (tables, call.goTo (.promoting before))
  | .promoting before =>
    match reply with
    | none => (tables, call.goTo (.thrown .statement))
    | some reading =>
      match promotion plan workspaceId call.opportunityId reading tables with
      | .error error => (tables, call.goTo (.thrown error))
      | .ok ((after, proposal), tables') => (tables', call.goTo (.auditing before after proposal))
  | .auditing _ after proposal =>
    match reply with
    | none => (tables, call.goTo .unaudited)
    | some _ => (tables, call.goTo (.returned after proposal))
  | .returned _ _ => (tables, call)
  | .thrown _ => (tables, call)
  | .unaudited => (tables, call)

/-- The calls of `promote` in a workspace. A call is started with the id of its opportunity. -/
def promotions : CallSystem (PromotionTables δ) (PromoteCall δ) String (Option Reading) Unit where
  start opportunityId tables := ((), tables, ⟨opportunityId, .evaluating⟩)
  resume reply call tables :=
    ((), (resumePromote plan workspaceId reply call tables).1, (resumePromote plan workspaceId reply call tables).2)

end Calls

/-! ## Transactions -/

/-- The keys of the rows. -/
structure Stored (tables : PromotionTables δ) : Prop where
  opportunityIds : (tables.opportunities.map Opportunity.id).Nodup
  proposalIds : (tables.proposals.map VentureProposal.id).Nodup
  proposalOpportunities : (tables.proposals.map VentureProposal.opportunityId).Nodup

variable {plan : SubscriptionPlan} {workspaceId : String}

theorem enforceVentureCreate_ok {reading : Reading} {ventureCount : Nat} {now : Int}
    (h : enforceVentureCreate (reading.subscription plan) ventureCount now = .ok ()) :
    (ventureCount : Int) < plan.maxVentures := by
  simp only [enforceVentureCreate, throwIf_eq_ok, Bool.not_eq_false] at h
  obtain ⟨subscription, plan', hsubscription, hplan, hchecked⟩ := allowed_iff.mp h
  cases hsubscription
  cases hplan
  exact below_of_checkPolicy hchecked rfl

variable {opportunityId : String}

theorem updateOpportunity_ok {promotedAt : Int} {rows rows' : List (Opportunity δ)}
    {updated : Opportunity δ} (h : updateOpportunity opportunityId promotedAt rows = .ok (updated, rows')) :
    rows'.map Opportunity.id = rows.map Opportunity.id
      ∧ (∀ row' ∈ rows', row'.id = opportunityId ∨ row' ∈ rows)
      ∧ (∀ row ∈ rows, row.status = .PROMOTED → ∃ row' ∈ rows', row'.id = row.id ∧ row'.status = .PROMOTED)
      ∧ ∃ row' ∈ rows', row'.id = opportunityId ∧ row'.status = .PROMOTED := by
  unfold updateOpportunity at h
  split at h
  · cases h
  · rename_i found hfound
    simp only [Except.ok.injEq, Prod.mk.injEq] at h
    obtain ⟨-, rfl⟩ := h
    have hid := List.find?_some hfound
    rw [decide_eq_true_eq] at hid
    refine ⟨?_, ?_, ?_, ?_⟩
    · rw [List.map_map]
      refine List.map_congr_left fun row _ => ?_
      simp only [Function.comp_apply]
      split
      · rfl
      · rfl
    · intro row' hrow'
      obtain ⟨row, hrow, rfl⟩ := List.mem_map.mp hrow'
      by_cases hsame : row.id = opportunityId
      · rw [if_pos hsame]
        exact .inl hsame
      · rw [if_neg hsame]
        exact .inr hrow
    · intro row hrow hstatus
      refine ⟨_, List.mem_map_of_mem hrow, ?_⟩
      split
      · exact ⟨rfl, rfl⟩
      · exact ⟨rfl, hstatus⟩
    · refine ⟨_, List.mem_map_of_mem (List.mem_of_find?_eq_some hfound), ?_⟩
      rw [if_pos hid]
      exact ⟨hid, rfl⟩

variable {proposal : VentureProposal}

theorem proposalOf_ok {proposalId : String} {proposals proposals' : List VentureProposal}
    (h : proposalOf workspaceId opportunityId proposalId proposals = .ok (proposal, proposals')) :
    proposal.opportunityId = opportunityId
      ∧ (proposal ∈ proposals ∧ proposals' = proposals
        ∨ opportunityId ∉ proposals.map VentureProposal.opportunityId
          ∧ proposal.id ∉ proposals.map VentureProposal.id ∧ proposals' = proposals ++ [proposal]) := by
  unfold proposalOf at h
  split at h
  · rename_i existing hfound
    cases h
    have hid := List.find?_some hfound
    rw [decide_eq_true_eq] at hid
    exact ⟨hid, .inl ⟨List.mem_of_find?_eq_some hfound, rfl⟩⟩
  · rename_i hnone
    simp only [check_bind_eq_ok, throwIf_eq_ok, except_pure_eq_ok, Prod.mk.injEq] at h
    obtain ⟨hfresh, rfl, rfl⟩ := h
    refine ⟨rfl, .inr ⟨fun hmem => ?_, hfresh, rfl⟩⟩
    obtain ⟨other, hother, heq⟩ := List.mem_map.mp hmem
    exact List.find?_eq_none.mp hnone other hother (decide_eq_true heq)

/-- What a promotion does to the tables. -/
structure Promotes (plan : SubscriptionPlan) (workspaceId opportunityId : String) (proposal : VentureProposal)
    (tables tables' : PromotionTables δ) : Prop where
  below : (tables.ventureCount workspaceId : Int) < plan.maxVentures
  ids : tables'.opportunities.map Opportunity.id = tables.opportunities.map Opportunity.id
  keeps : ∀ row ∈ tables.opportunities, row.status = .PROMOTED →
    ∃ row' ∈ tables'.opportunities, row'.id = row.id ∧ row'.status = .PROMOTED
  promotes : ∃ row' ∈ tables'.opportunities, row'.id = opportunityId ∧ row'.status = .PROMOTED
  opportunity : proposal.opportunityId = opportunityId
  proposes : proposal ∈ tables.proposals ∧ tables'.proposals = tables.proposals
    ∨ opportunityId ∉ tables.proposals.map VentureProposal.opportunityId
      ∧ proposal.id ∉ tables.proposals.map VentureProposal.id ∧ tables'.proposals = tables.proposals ++ [proposal]
  versions : ∃ version, version.ventureProposalId = proposal.id ∧ tables'.versions = tables.versions ++ [version]

theorem promotion_ok {reading : Reading} {tables tables' : PromotionTables δ}
    {updated : Opportunity δ}
    (h : promotion plan workspaceId opportunityId reading tables = .ok ((updated, proposal), tables')) :
    Promotes plan workspaceId opportunityId proposal tables tables' := by
  simp only [promotion, check_bind_eq_ok] at h
  obtain ⟨hallowed, h⟩ := h
  obtain ⟨⟨updated', opportunities⟩, hupdated, h⟩ := except_bind_eq_ok.mp h
  obtain ⟨⟨proposal', proposals⟩, hproposal, h⟩ := except_bind_eq_ok.mp h
  obtain ⟨versions, hversions, h⟩ := except_bind_eq_ok.mp h
  simp only [except_pure_eq_ok, Prod.mk.injEq] at h
  obtain ⟨⟨rfl, rfl⟩, rfl⟩ := h
  simp only [createVersion, check_bind_eq_ok, except_pure_eq_ok] at hversions
  obtain ⟨hids, -, hkeeps, hpromotes⟩ := updateOpportunity_ok hupdated
  obtain ⟨hopportunity, hproposes⟩ := proposalOf_ok hproposal
  exact ⟨enforceVentureCreate_ok hallowed, hids, hkeeps, hpromotes, hopportunity, hproposes,
    ⟨_, rfl, hversions.2.symm⟩⟩

section Promotes

variable {tables tables' : PromotionTables δ}

theorem Promotes.stored (h : Promotes plan workspaceId opportunityId proposal tables tables') (hs : Stored tables) :
    Stored tables' := by
  refine ⟨h.ids ▸ hs.opportunityIds, ?_, ?_⟩
  · rcases h.proposes with ⟨-, hsame⟩ | ⟨-, hfresh, hmore⟩
    · rw [hsame]
      exact hs.proposalIds
    · rw [hmore, List.map_append, List.map_singleton, List.nodup_append]
      refine ⟨hs.proposalIds, List.nodup_singleton _, ?_⟩
      rintro a ha b hb rfl
      exact hfresh (List.mem_singleton.mp hb ▸ ha)
  · rcases h.proposes with ⟨-, hsame⟩ | ⟨hfirst, -, hmore⟩
    · rw [hsame]
      exact hs.proposalOpportunities
    · rw [hmore, List.map_append, List.map_singleton, List.nodup_append, h.opportunity]
      refine ⟨hs.proposalOpportunities, List.nodup_singleton _, ?_⟩
      rintro a ha b hb rfl
      exact hfirst (List.mem_singleton.mp hb ▸ ha)

/-- A venture more is a venture of the plan. -/
theorem Promotes.ventureCount_le (h : Promotes plan workspaceId opportunityId proposal tables tables') {bound : Int}
    (hbound : (tables.ventureCount workspaceId : Int) ≤ bound) (hplan : plan.maxVentures ≤ bound) :
    (tables'.ventureCount workspaceId : Int) ≤ bound := by
  have hbelow := h.below
  rcases h.proposes with ⟨-, hsame⟩ | ⟨-, -, hmore⟩
  · rw [PromotionTables.ventureCount, hsame]
    exact hbound
  · have hcount : tables'.ventureCount workspaceId ≤ tables.ventureCount workspaceId + 1 := by
      rw [PromotionTables.ventureCount, hmore, List.countP_append]
      exact Nat.add_le_add_left List.countP_le_length _
    omega

theorem Promotes.versionCount (h : Promotes plan workspaceId opportunityId proposal tables tables') (id : String) :
    tables'.versionCount id = tables.versionCount id + if proposal.id = id then 1 else 0 := by
  obtain ⟨version, hversion, hversions⟩ := h.versions
  rw [PromotionTables.versionCount, hversions, List.countP_append, List.countP_singleton, hversion]
  simp only [PromotionTables.versionCount, decide_eq_true_eq]

theorem Promotes.proposals_subset (h : Promotes plan workspaceId opportunityId proposal tables tables') :
    tables.proposals ⊆ tables'.proposals := by
  rcases h.proposes with ⟨-, hsame⟩ | ⟨-, -, hmore⟩
  · rw [hsame]
    exact List.Subset.refl _
  · rw [hmore]
    exact List.subset_append_left _ _

theorem Promotes.mem_proposals (h : Promotes plan workspaceId opportunityId proposal tables tables') :
    proposal ∈ tables'.proposals := by
  rcases h.proposes with ⟨hmem, hsame⟩ | ⟨-, -, hmore⟩
  · exact hsame ▸ hmem
  · rw [hmore]
    simp

end Promotes

/-! ## Runs -/

/-- **What a piece of a call does**: it leaves the tables as they are, or it is the transaction. -/
theorem resumePromote_cases (reply : Option Reading) (call : PromoteCall δ) (tables : PromotionTables δ) :
    (resumePromote plan workspaceId reply call tables).1 = tables
        ∧ ((resumePromote plan workspaceId reply call tables).2.committed ↔ call.committed)
      ∨ (resumePromote plan workspaceId reply call tables).2.committed
        ∧ ∃ before proposal, call.point = .promoting before
          ∧ Promotes plan workspaceId call.opportunityId proposal tables
            (resumePromote plan workspaceId reply call tables).1 := by
  rcases call with ⟨opportunityId, point⟩
  cases point with
  | evaluating => cases reply <;> exact .inl ⟨rfl, Iff.rfl⟩
  | loading =>
    cases reply with
    | none => exact .inl ⟨rfl, Iff.rfl⟩
    | some reading =>
      left
      simp only [resumePromote]
      split
      · exact ⟨rfl, Iff.rfl⟩
      · split
        · exact ⟨rfl, Iff.rfl⟩
        · exact ⟨rfl, Iff.rfl⟩
  | promoting before =>
    cases reply with
    | none => exact .inl ⟨rfl, Iff.rfl⟩
    | some reading =>
      simp only [resumePromote]
      split
      · exact .inl ⟨rfl, Iff.rfl⟩
      · rename_i hpromotion
        exact .inr ⟨trivial, before, _, rfl, promotion_ok hpromotion⟩
  | auditing before after proposal => cases reply <;> exact .inl ⟨rfl, Iff.rfl⟩
  | returned opportunity proposal => exact .inl ⟨rfl, Iff.rfl⟩
  | thrown error => exact .inl ⟨rfl, Iff.rfl⟩
  | unaudited => exact .inl ⟨rfl, Iff.rfl⟩
  | _ =>
    cases reply with
    | none => exact .inl ⟨rfl, Iff.rfl⟩
    | some reading =>
      left
      simp only [resumePromote]
      split
      · exact ⟨rfl, Iff.rfl⟩
      · exact ⟨rfl, Iff.rfl⟩

/-- What holds in every run: the keys, and the number of ventures. -/
structure Bounded (plan : SubscriptionPlan) (workspaceId : String) (initial tables : PromotionTables δ) : Prop where
  stored : Stored tables
  ventures : (tables.ventureCount workspaceId : Int) ≤ max (initial.ventureCount workspaceId : Int) plan.maxVentures

variable {initial : PromotionTables δ}

theorem bounded_of_run (stored : Stored initial) (moves : List (Move String (Option Reading))) :
    Bounded plan workspaceId initial ((promotions plan workspaceId).pool initial moves).shared := by
  refine ((promotions plan workspaceId).invariant (L := fun _ _ => True) ⟨stored, le_max_left _ _⟩ ?_ ?_ moves).1
  · exact fun opportunityId tables h => ⟨h, trivial, fun _ _ => trivial⟩
  · intro reply call tables h _
    refine ⟨?_, trivial, fun _ _ => trivial⟩
    rcases resumePromote_cases reply call tables with ⟨hsame, -⟩ | ⟨-, before, proposal, -, hpromotes⟩
    · exact hsame.symm ▸ h
    · exact ⟨hpromotes.stored h.stored, hpromotes.ventureCount_le h.ventures (le_max_right _ _)⟩

/-- A call is at its transaction. -/
def PromoteCall.isPromoting (call : PromoteCall δ) : Bool := call.point matches .promoting _

/-- The transaction of a call finds its opportunity not promoted. -/
def Unpromoted (_ : Option Reading) (call : PromoteCall δ) (tables : PromotionTables δ) : Prop :=
  call.isPromoting = true → ∀ row ∈ tables.opportunities, row.id = call.opportunityId → row.status ≠ .PROMOTED

instance (reply : Option Reading) (call : PromoteCall δ) (tables : PromotionTables δ) :
    Decidable (Unpromoted reply call tables) :=
  inferInstanceAs (Decidable (_ → _))

/-- Only the proposal of a promoted opportunity has a new version, and it has one. -/
def Versioned (initial tables : PromotionTables δ) : Prop :=
  ∀ id, tables.versionCount id ≤ initial.versionCount id
    ∨ tables.versionCount id = initial.versionCount id + 1 ∧ ∃ proposal ∈ tables.proposals, proposal.id = id
      ∧ ∃ row ∈ tables.opportunities, row.id = proposal.opportunityId ∧ row.status = .PROMOTED

/-- **A promotion of an opportunity that is not promoted adds a first version.** -/
theorem Versioned.promotes
    {tables tables' : PromotionTables δ} (h : Versioned initial tables) (stored : Stored tables)
    (hpromotes : Promotes plan workspaceId opportunityId proposal tables tables')
    (hunpromoted : ∀ row ∈ tables.opportunities, row.id = opportunityId → row.status ≠ .PROMOTED) :
    Versioned initial tables' := by
  intro id
  rw [hpromotes.versionCount]
  by_cases hid : proposal.id = id
  · -- The proposal of the opportunity had no new version.
    have hold : tables.versionCount id ≤ initial.versionCount id := by
      rcases h id with hle | ⟨-, other, hother, hsame, row, hrow, hrowId, hstatus⟩
      · exact hle
      · exfalso
        rcases hpromotes.proposes with ⟨hmem, -⟩ | ⟨-, hfresh, -⟩
        · have heq : other = proposal :=
            List.inj_on_of_nodup_map stored.proposalIds hother hmem (hsame.trans hid.symm)
          subst heq
          exact hunpromoted row hrow (hrowId.trans hpromotes.opportunity) hstatus
        · exact hfresh (hid ▸ hsame ▸ List.mem_map_of_mem hother)
    rw [if_pos hid]
    rcases hold.lt_or_eq with hlt | heq
    · left
      omega
    · right
      refine ⟨by omega, proposal, hpromotes.mem_proposals, hid, ?_⟩
      obtain ⟨row, hrow, hrowId, hstatus⟩ := hpromotes.promotes
      exact ⟨row, hrow, hrowId.trans hpromotes.opportunity.symm, hstatus⟩
  · rw [if_neg hid, Nat.add_zero]
    rcases h id with hle | ⟨hone, other, hother, hsame, row, hrow, hrowId, hstatus⟩
    · exact .inl hle
    · obtain ⟨row', hrow', hid', hstatus'⟩ := hpromotes.keeps row hrow hstatus
      exact .inr ⟨hone, other, hpromotes.proposals_subset hother, hsame, row', hrow', hid'.trans hrowId, hstatus'⟩

theorem versioned_of_run (stored : Stored initial) {moves : List (Move String (Option Reading))}
    (hmoves : (promotions plan workspaceId).EachResume Unpromoted initial moves) :
    Versioned initial ((promotions plan workspaceId).pool initial moves).shared := by
  let I : PromotionTables δ → Prop := fun tables => Stored tables ∧ Versioned initial tables
  refine ((promotions plan workspaceId).invariant_where (I := I) (L := fun _ _ => True)
    ⟨stored, fun id => .inl (Nat.le_refl _)⟩ ?_ ?_ hmoves).1.2
  · exact fun opportunityId tables h => ⟨h, trivial, fun _ _ => trivial⟩
  · intro reply call tables hunpromoted h _
    refine ⟨?_, trivial, fun _ _ => trivial⟩
    rcases resumePromote_cases reply call tables with ⟨hsame, -⟩ | ⟨-, before, proposal, hpoint, hpromotes⟩
    · exact hsame.symm ▸ h
    · exact ⟨hpromotes.stored h.1, h.2.promotes h.1 hpromotes (hunpromoted (by simp [PromoteCall.isPromoting, hpoint]))⟩

/-- **An opportunity is promoted once when no transaction finds it promoted.** In every run the number of ventures stays
within the plan or where it was, each opportunity has at most one proposal, and a call that throws, but for its audit,
has changed nothing. When the transaction of every call finds its opportunity not promoted, the promotions add at most
one version to each proposal. -/
theorem promoted_once (plan : SubscriptionPlan) (workspaceId : String) {initial : PromotionTables δ}
    (stored : Stored initial) (moves : List (Move String (Option Reading))) :
    (((promotions plan workspaceId).pool initial moves).shared.ventureCount workspaceId : Int)
        ≤ max (initial.ventureCount workspaceId : Int) plan.maxVentures
      ∧ (((promotions plan workspaceId).pool initial moves).shared.proposals.map VentureProposal.opportunityId).Nodup
      ∧ (∀ i call error, ((promotions plan workspaceId).pool initial moves).calls[i]? = some call →
        call.point = .thrown error → (promotions plan workspaceId).Untouched id initial moves i)
      ∧ ((promotions plan workspaceId).EachResume Unpromoted initial moves →
        ∀ id, ((promotions plan workspaceId).pool initial moves).shared.versionCount id
          ≤ initial.versionCount id + 1) := by
  have hbounded : Bounded plan workspaceId initial _ := bounded_of_run stored moves
  refine ⟨hbounded.ventures, hbounded.stored.proposalOpportunities, ?_, ?_⟩
  · intro i call error hcall hthrown
    refine CallSystem.untouched _ PromoteCall.committed (fun _ _ _ => rfl) ?_ initial moves i ?_
    · intro reply call tables hnot
      rcases resumePromote_cases reply call tables with ⟨hsame, hiff⟩ | ⟨hcommitted, -⟩
      · exact ⟨fun h => hnot (hiff.mpr h), hsame⟩
      · exact absurd hcommitted hnot
    · intro other hother
      rw [hcall, Option.mem_some_iff] at hother
      rw [← hother, PromoteCall.committed, hthrown]
      exact not_false
  · intro hmoves id
    rcases versioned_of_run stored hmoves id with hle | ⟨heq, -⟩
    · omega
    · omega

/-! ## Two calls on one opportunity -/

namespace Sample

/-- A plan with two ventures. -/
def starter : SubscriptionPlan := ⟨"starter", true, ["opportunities"], 0, 2⟩

/-- An opportunity that nobody has promoted. -/
def tables : PromotionTables Unit := ⟨[⟨"o", "w", .NEW, none, ()⟩], [], []⟩

theorem stored : Stored tables := ⟨by decide, by decide, by decide⟩

/-- The subscription is active, and the evidence has no score. -/
def reading (proposalId : String) : Option Reading := some ⟨"ACTIVE", none, false, none, 0, 1, proposalId⟩

/-- A call is resumed so often. -/
def resumes (call : Nat) (proposalId : String) (times : Nat) : List (Move String (Option Reading)) :=
  List.replicate times (.resume call (reading proposalId))

/-- One call after the other: the second one is refused. -/
def inTurn : List (Move String (Option Reading)) :=
  .start "o" :: resumes 0 "p" 6 ++ .start "o" :: resumes 1 "q" 6

/-- The second call looks at the opportunity before the transaction of the first one. -/
def overlapping : List (Move String (Option Reading)) :=
  [.start "o", .start "o"] ++ resumes 0 "p" 4 ++ resumes 1 "q" 4 ++ resumes 0 "p" 2 ++ resumes 1 "q" 2

end Sample

/-- Calls in turn add one version. -/
theorem promoted_once_in_turn :
    ((promotions Sample.starter "w").pool Sample.tables Sample.inTurn).shared.versionCount "p" ≤ 1 :=
  (promoted_once Sample.starter "w" Sample.stored Sample.inTurn).2.2.2 (by decide +kernel) "p"

/-- **Calls that overlap add two versions**, and both return. -/
theorem overlapping_promotions :
    ((promotions Sample.starter "w").pool Sample.tables Sample.overlapping).shared.versionCount "p" = 2
      ∧ (((promotions Sample.starter "w").pool Sample.tables Sample.overlapping).calls.map fun call =>
        call.point matches .returned _ _) = [true, true] := by
  decide +kernel

end VentureOS.Opportunities
