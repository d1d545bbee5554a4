import VentureOS.Coo.Factory

/-! # What the agent factory has checked

For the check functions of `instantiate` and `complete`, the facts their success establishes. `Within`
compares the grants and ceilings of two requests; a child is within its parent where it is admitted,
and the comparison is transitive, so what is checked against the direct parent reaches every ancestor.
-/

namespace VentureOS.Factory

open ControlPlane

variable {σ : Type} {options : AgentFactoryOptions σ} {factory : AgentFactory}
  {context : WorkspaceContext} {request : AgentInstantiationRequest}

/-! ## Grants -/

/-- Every grant is covered by the first grant of its tool among the allowed ones. -/
def ToolsWithin (grants allowed : List ScopedTool) : Prop :=
  ∀ grant ∈ grants, ∃ granted, allowed.find? (fun item => item.toolId == grant.toolId)
    = some granted ∧ grant.scopes ⊆ granted.scopes

/-- The scopes, grants and ceilings of one request are within those of another. -/
structure Within (child parent : AgentInstantiationRequest) : Prop where
  repositoryScopes : child.repositoryScopes ⊆ parent.repositoryScopes
  environmentScopes : child.environmentScopes ⊆ parent.environmentScopes
  dataScopes : child.dataScopes ⊆ parent.dataScopes
  capabilityIds : child.capabilityIds ⊆ parent.capabilityIds
  toolGrants : ToolsWithin child.toolGrants parent.toolGrants
  authorityLevel : child.authorityLevel ≤ parent.authorityLevel
  budgetMinorUnits : child.budgetMinorUnits ≤ parent.budgetMinorUnits
  computeUnits : child.computeUnits ≤ parent.computeUnits
  maxRuntimeMs : child.maxRuntimeMs ≤ parent.maxRuntimeMs
  retryLimit : child.retryLimit ≤ parent.retryLimit
  childLimit : child.childLimit ≤ parent.childLimit

/-- Covered grants of covered grants are covered: the grant found for a tool is a grant of that tool.
-/
theorem ToolsWithin.trans {a b c : List ScopedTool} (hab : ToolsWithin a b)
    (hbc : ToolsWithin b c) : ToolsWithin a c := by
  intro grant hgrant
  obtain ⟨middle, hfind, hscopes⟩ := hab grant hgrant
  obtain ⟨top, htop, hscopes'⟩ := hbc middle (List.mem_of_find?_eq_some hfind)
  have htool := List.find?_some (p := fun item : ScopedTool => item.toolId == grant.toolId) hfind
  rw [beq_iff_eq.mp htool] at htop
  exact ⟨top, htop, List.Subset.trans hscopes hscopes'⟩

theorem Within.trans {a b c : AgentInstantiationRequest} (hab : Within a b) (hbc : Within b c) :
    Within a c where
  repositoryScopes := List.Subset.trans hab.repositoryScopes hbc.repositoryScopes
  environmentScopes := List.Subset.trans hab.environmentScopes hbc.environmentScopes
  dataScopes := List.Subset.trans hab.dataScopes hbc.dataScopes
  capabilityIds := List.Subset.trans hab.capabilityIds hbc.capabilityIds
  toolGrants := hab.toolGrants.trans hbc.toolGrants
  authorityLevel := hab.authorityLevel.trans hbc.authorityLevel
  budgetMinorUnits := hab.budgetMinorUnits.trans hbc.budgetMinorUnits
  computeUnits := hab.computeUnits.trans hbc.computeUnits
  maxRuntimeMs := hab.maxRuntimeMs.trans hbc.maxRuntimeMs
  retryLimit := hab.retryLimit.trans hbc.retryLimit
  childLimit := hab.childLimit.trans hbc.childLimit

@[simp] theorem assertSubset_eq_ok {values allowed : List String} {label : String} {u : Unit} :
    assertSubset values allowed label = .ok u ↔ values ⊆ allowed := by
  simp only [assertSubset, forM_eq_ok, throwIf_eq_ok, not_not]
  exact Iff.rfl

@[simp] theorem assertToolSubset_eq_ok {grants allowed : List ScopedTool} {missing label : String}
    {u : Unit} :
    assertToolSubset grants allowed missing label = .ok u ↔ ToolsWithin grants allowed := by
  rw [assertToolSubset, forM_eq_ok]
  refine forall₂_congr fun grant _ => ?_
  cases allowed.find? (fun item => item.toolId == grant.toolId) with
  | none => simp
  | some granted => simp

/-! ## Instantiation -/

/-- What `instantiate` has checked against the parent agent. -/
structure AdmittedUnder (options : AgentFactoryOptions σ) (factory : AgentFactory)
    (request : AgentInstantiationRequest) (parent : FactoryAgent) : Prop where
  active : parent.lifecycle = .ACTIVE
  room : ((activeChildren factory request.workspaceId parent.agentId).length : Int)
    < min parent.childLimit options.limits.maxChildrenPerAgent
  objective : parent.objectiveId = request.objectiveId
  task : parent.taskId = request.taskId
  within : Within request parent.toAgentInstantiationRequest

theorem AdmittedUnder.of_ok {parentAgentId : EntityId} {depth : Int}
    (h : admitChild options factory request parentAgentId = .ok depth) :
    ∃ parent, factory.agents.get? (key request.workspaceId parentAgentId) = some parent
      ∧ AdmittedUnder options factory request parent ∧ depth = parent.nestingDepth + 1 := by
  unfold admitChild at h
  split at h
  · cases h
  · rename_i parent hparent
    simp only [check_bind_eq_ok, throwIf_eq_ok, assertSubset_eq_ok, assertToolSubset_eq_ok,
      except_pure_eq_ok, ne_eq, not_not, not_or, not_le, not_lt] at h
    obtain ⟨hactive, -, hroom, ⟨hobjective, htask⟩, hrepo, henv, hdata, hcap, htools,
      ⟨hauthority, hbudget, hcompute, hruntime, hretry, hchild⟩, hdepth⟩ := h
    exact ⟨parent, hparent, ⟨hactive, hroom, hobjective, htask, ⟨hrepo, henv, hdata, hcap, htools,
      hauthority, hbudget, hcompute, hruntime, hretry, hchild⟩⟩, hdepth.symm⟩

/-- What `instantiate` has checked, apart from the grants of the template. -/
structure Admitted (options : AgentFactoryOptions σ) (factory : AgentFactory)
    (context : WorkspaceContext) (request : AgentInstantiationRequest) (depth : Int) : Prop where
  requester : assertRequester options context = .ok ()
  workspace : context.workspaceId = request.workspaceId
  validated : validateRequest request = .ok ()
  globalRoom : ((activeAgents factory).length : Int)
    < min options.limits.maxAgents options.limits.maxConcurrentAgents
  workspaceRoom : (((activeAgents factory).filter
      (fun agent => decide (agent.workspaceId = request.workspaceId))).length : Int)
    < options.limits.maxAgentsPerWorkspace
  parent : ∀ parentAgentId, request.parentAgentId = some parentAgentId →
    ∃ parent, factory.agents.get? (key request.workspaceId parentAgentId) = some parent
      ∧ AdmittedUnder options factory request parent ∧ depth = parent.nestingDepth + 1
  root : request.parentAgentId = none → depth = 0
  nesting : depth ≤ options.limits.maxNestingDepth
  authority : request.authorityLevel.val ≤ 3
  childLimit : request.childLimit ≤ options.limits.maxChildrenPerAgent
  unconsumed : key request.workspaceId request.id ∉ factory.consumedRequests

theorem Admitted.of_ok {template : AgentTemplate} {depth : Int}
    (h : admitInstantiation options factory context request = .ok (template, depth)) :
    Admitted options factory context request depth := by
  unfold admitInstantiation at h
  rw [check_bind_eq_ok, check_bind_eq_ok, check_bind_eq_ok] at h
  obtain ⟨hrequester, hworkspace, hvalidated, h⟩ := h
  split at h
  · cases h
  rw [check_bind_eq_ok, check_bind_eq_ok, check_bind_eq_ok] at h
  obtain ⟨-, hglobal, hroom, h⟩ := h
  rw [throwIf_eq_ok, not_or, not_le, not_le] at hglobal
  rw [throwIf_eq_ok, not_le] at hroom
  rw [assertWorkspace, throwIf_eq_ok, not_not] at hworkspace
  -- The depth is that of a root, or comes from the checks against the parent.
  cases hparent : request.parentAgentId with
  | none =>
    rw [hparent] at h
    simp only [check_bind_eq_ok, throwIf_eq_ok, assertCeiling, except_pure_eq_ok, Prod.mk.injEq,
      not_or, not_lt, pure_bind] at h
    obtain ⟨hnesting, -, -, -, -, -, ⟨-, hauthority⟩, -, -, -, -, ⟨-, hchild⟩, -, hconsumed, -,
      rfl⟩ := h
    exact ⟨hrequester, hworkspace, hvalidated, lt_min hglobal.1 hglobal.2, hroom,
      fun _ h => (by rw [hparent] at h; cases h), fun _ => rfl, hnesting, hauthority, hchild,
      hconsumed⟩
  | some parentAgentId =>
    rw [hparent] at h
    dsimp only at h
    rw [except_bind_eq_ok] at h
    obtain ⟨depth', hdepth, h⟩ := h
    simp only [check_bind_eq_ok, throwIf_eq_ok, assertCeiling, except_pure_eq_ok, Prod.mk.injEq, not_or, not_lt] at h
    obtain ⟨hnesting, -, -, -, -, -, ⟨-, hauthority⟩, -, -, -, -, ⟨-, hchild⟩, -,
      hconsumed, -, rfl⟩ := h
    refine ⟨hrequester, hworkspace, hvalidated, lt_min hglobal.1 hglobal.2, hroom, ?_,
      fun h => (by rw [hparent] at h; cases h), hnesting, hauthority, hchild, hconsumed⟩
    intro id hid
    rw [hparent, Option.some.injEq] at hid
    exact hid ▸ AdmittedUnder.of_ok hdepth

/-! ## Completion -/

/-- What `complete` has checked. -/
structure Completable (options : AgentFactoryOptions σ) (factory : AgentFactory)
    (context : WorkspaceContext) (agentId : EntityId) (reason : String) (stored : FactoryAgent) :
    Prop where
  authorizer : context.principalId ∈ options.authorityPrincipals
  found : factory.agents.get? (key context.workspaceId agentId) = some stored
  active : stored.lifecycle = .ACTIVE
  childless : activeChildren factory context.workspaceId agentId = []
  printable : PrintableText reason

/-- The checks of `complete` pass exactly on the agents that may be completed. -/
theorem admitCompletion_eq_ok {agentId : EntityId} {reason : String} {stored : FactoryAgent} :
    admitCompletion options factory context agentId reason = .ok stored ↔
      Completable options factory context agentId reason stored := by
  unfold admitCompletion
  rw [check_bind_eq_ok, assertAuthorizer, throwIf_eq_ok, not_not]
  constructor
  · rintro ⟨hauthorizer, h⟩
    split at h
    · cases h
    rename_i found hfound
    simp only [check_bind_eq_ok, throwIf_eq_ok, text_eq_ok, except_pure_eq_ok, ne_eq, not_not] at h
    obtain ⟨hactive, hchildless, hprintable, rfl⟩ := h
    exact ⟨hauthorizer, hfound, hactive, hchildless, hprintable⟩
  · intro h
    refine ⟨h.authorizer, ?_⟩
    rw [h.found]
    simp only [check_bind_eq_ok, throwIf_eq_ok, text_eq_ok, except_pure_eq_ok, ne_eq, not_not]
    exact ⟨h.active, h.childless, h.printable, trivial⟩

end VentureOS.Factory
