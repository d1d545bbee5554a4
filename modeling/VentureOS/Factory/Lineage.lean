import VentureOS.Foundations.Forest
import VentureOS.Factory.Admission
import VentureOS.Factory.System

/-! # The lineage of agents

The bounds of a child are checked against its direct parent when it is created, and against nobody
later. `Lineage` is the invariant from which the statements about all ancestors follow: every request
behind an agent, and behind the parent an agent names, is consumed, so an identifier is never given
out again; the depth of a stored child is one more than that of its stored parent, so the parent
relation is a forest; and an active child has an active parent, because an agent with active children
is not finalized. -/

namespace VentureOS.Factory

open ControlPlane Relation

variable {σ : Type} {options : AgentFactoryOptions σ}

/-- The identifier of the agent made for a request. -/
def agentIdOf (requestId : EntityId) : EntityId := s!"agent:{requestId}"

theorem agentIdOf_inj {a b : EntityId} (h : agentIdOf a = agentIdOf b) : a = b := by
  have h := congrArg String.toList h
  simp only [agentIdOf, toString, String.toList_append, List.append_cancel_left_eq] at h
  exact String.toList_inj.mp (by simpa using h)

/-- The parent relation on the stored agents: the parent an agent names, in its workspace. -/
def ParentOf (factory : AgentFactory) (child parent : FactoryAgent) : Prop :=
  child ∈ factory.agents ∧ parent ∈ factory.agents ∧ child.parentAgentId = some parent.agentId
    ∧ child.workspaceId = parent.workspaceId

/-- What an active agent has of the parent it names. -/
structure KeptBy (child parent : FactoryAgent) : Prop where
  active : parent.lifecycle = .ACTIVE
  workspace : parent.workspaceId = child.workspaceId
  objective : parent.objectiveId = child.objectiveId
  task : parent.taskId = child.taskId
  depth : child.nestingDepth = parent.nestingDepth + 1
  within : Within child.toAgentInstantiationRequest parent.toAgentInstantiationRequest

/-- **The lineage invariant.** -/
structure Lineage (options : AgentFactoryOptions σ) (factory : AgentFactory) : Prop where
  named : ∀ agent ∈ factory.agents, agent.agentId = agentIdOf agent.id
  consumed : ∀ agent ∈ factory.agents, key agent.workspaceId agent.id ∈ factory.consumedRequests
  parentConsumed : ∀ agent ∈ factory.agents, ∀ parentAgentId,
    agent.parentAgentId = some parentAgentId → ∃ requestId, parentAgentId = agentIdOf requestId
      ∧ key agent.workspaceId requestId ∈ factory.consumedRequests
  depths : ∀ child parent, ParentOf factory child parent →
    child.nestingDepth = parent.nestingDepth + 1
  bounded : ∀ agent ∈ factory.agents, agent.nestingDepth ≤ options.limits.maxNestingDepth
    ∧ agent.authorityLevel.val ≤ 3
  kept : ∀ child ∈ factory.agents, child.lifecycle = .ACTIVE → ∀ parentAgentId,
    child.parentAgentId = some parentAgentId →
      ∃ parent ∈ factory.agents, parent.agentId = parentAgentId ∧ KeptBy child parent

theorem lineage_empty : Lineage options .empty := by
  refine ⟨?_, ?_, ?_, ?_, ?_, ?_⟩
  · exact fun agent h => absurd h (Store.not_mem_empty agent)
  · exact fun agent h => absurd h (Store.not_mem_empty agent)
  · exact fun agent h => absurd h (Store.not_mem_empty agent)
  · exact fun child _ h => absurd h.1 (Store.not_mem_empty child)
  · exact fun agent h => absurd h (Store.not_mem_empty agent)
  · exact fun agent h => absurd h (Store.not_mem_empty agent)

/-! ## Enlisting -/

variable {agent : FactoryAgent}

section Enlist

variable {factory : AgentFactory} {context : WorkspaceContext} {request : AgentInstantiationRequest}
  {depth : Int}

/-- No agent is stored under the identifier of a request that is not consumed. -/
theorem Lineage.get?_agentIdOf_of_unconsumed (lineage : Lineage options factory)
    (h : key request.workspaceId request.id ∉ factory.consumedRequests) :
    factory.agents.get? (key request.workspaceId (agentIdOf request.id)) = none := by
  cases hget : factory.agents.get? (key request.workspaceId (agentIdOf request.id)) with
  | none => rfl
  | some agent =>
    have hmem := Store.mem_of_get? hget
    have hkey := Store.keyOf_of_get? hget
    rw [keyOf_factoryAgent, key, key, Prod.mk.injEq, lineage.named agent hmem] at hkey
    have hconsumed := lineage.consumed agent hmem
    rw [hkey.1, agentIdOf_inj hkey.2] at hconsumed
    exact absurd hconsumed h

/-- No stored agent names as its parent the identifier of a request that is not consumed. -/
theorem Lineage.parent_ne_of_unconsumed (lineage : Lineage options factory)
    (h : key request.workspaceId request.id ∉ factory.consumedRequests)
    (hagent : agent ∈ factory.agents) (hworkspace : agent.workspaceId = request.workspaceId) :
    agent.parentAgentId ≠ some (agentIdOf request.id) := by
  intro hparent
  obtain ⟨requestId, hid, hconsumed⟩ := lineage.parentConsumed agent hagent _ hparent
  rw [hworkspace, ← agentIdOf_inj hid] at hconsumed
  exact h hconsumed

/-- Enlisting an admitted agent keeps the lineage. -/
theorem Lineage.enlist (lineage : Lineage options factory)
    (admitted : Admitted options factory context request depth) (template : AgentTemplate)
    (createdAt : String) (decision : AgentFactoryDecision) (event : AgentFactoryEvent) :
    Lineage options (factory.enlist (createdAgent request template depth createdAt) decision event)
    := by
  have hfresh : factory.agents.get? (keyOf (createdAgent request template depth createdAt)) = none :=
    lineage.get?_agentIdOf_of_unconsumed admitted.unconsumed
  have hmem : ∀ agent, agent ∈ (factory.enlist (createdAgent request template depth createdAt)
      decision event).agents ↔ agent = createdAgent request template depth createdAt
        ∨ agent ∈ factory.agents := fun agent => Store.mem_put_of_fresh hfresh
  -- The parent a new child was admitted under.
  have hparent : ∀ parentAgentId, request.parentAgentId = some parentAgentId →
      ∃ parent ∈ factory.agents, parent.agentId = parentAgentId
        ∧ KeptBy (createdAgent request template depth createdAt) parent := by
    intro parentAgentId h
    obtain ⟨parent, hget, under, hdepth⟩ := admitted.parent parentAgentId h
    have hkey := Store.keyOf_of_get? hget
    rw [keyOf_factoryAgent, key, key, Prod.mk.injEq] at hkey
    exact ⟨parent, Store.mem_of_get? hget, hkey.2, under.active, hkey.1, under.objective,
      under.task, hdepth, under.within⟩
  refine ⟨?_, ?_, ?_, ?_, ?_, ?_⟩
  · intro agent hagent
    rcases (hmem agent).mp hagent with rfl | hagent
    · rfl
    · exact lineage.named agent hagent
  · intro agent hagent
    rcases (hmem agent).mp hagent with rfl | hagent
    · exact Finset.mem_insert_self _ _
    · exact Finset.mem_insert_of_mem (lineage.consumed agent hagent)
  · intro agent hagent parentAgentId h
    rcases (hmem agent).mp hagent with rfl | hagent
    · obtain ⟨parent, hmemParent, rfl, keptBy⟩ := hparent parentAgentId h
      refine ⟨parent.id, lineage.named parent hmemParent, Finset.mem_insert_of_mem ?_⟩
      rw [← keptBy.workspace]
      exact lineage.consumed parent hmemParent
    · obtain ⟨requestId, hid, hconsumed⟩ := lineage.parentConsumed agent hagent parentAgentId h
      exact ⟨requestId, hid, Finset.mem_insert_of_mem hconsumed⟩
  · rintro child parent ⟨hchild, hparentMem, hnames, hworkspace⟩
    rcases (hmem parent).mp hparentMem with rfl | hparentMem
    · -- Nobody can name the new agent: not the old ones, and not itself.
      rcases (hmem child).mp hchild with rfl | hchild
      · obtain ⟨parent, hmemParent, hid, keptBy⟩ := hparent _ hnames
        have hget := Store.mem_iff_get?.mp hmemParent
        rw [keyOf_factoryAgent, hid, keptBy.workspace] at hget
        rw [keyOf_factoryAgent, hget] at hfresh
        cases hfresh
      · exact absurd hnames (lineage.parent_ne_of_unconsumed admitted.unconsumed hchild hworkspace)
    · rcases (hmem child).mp hchild with rfl | hchild
      · obtain ⟨found, hfound, hid, keptBy⟩ := hparent _ hnames
        have heq : found = parent := by
          refine Store.eq_of_keyOf_eq hfound hparentMem ?_
          rw [keyOf_factoryAgent, keyOf_factoryAgent, hid, keptBy.workspace, hworkspace]
        exact heq ▸ keptBy.depth
      · exact lineage.depths child parent ⟨hchild, hparentMem, hnames, hworkspace⟩
  · intro agent hagent
    rcases (hmem agent).mp hagent with rfl | hagent
    · exact ⟨admitted.nesting, admitted.authority⟩
    · exact lineage.bounded agent hagent
  · intro child hchild hactive parentAgentId h
    rcases (hmem child).mp hchild with rfl | hchild
    · obtain ⟨parent, hmemParent, hid, keptBy⟩ := hparent parentAgentId h
      exact ⟨parent, (hmem parent).mpr (Or.inr hmemParent), hid, keptBy⟩
    · obtain ⟨parent, hmemParent, hid, keptBy⟩ := lineage.kept child hchild hactive parentAgentId h
      exact ⟨parent, (hmem parent).mpr (Or.inr hmemParent), hid, keptBy⟩

end Enlist

/-! ## Finalizing -/

section Finalize

variable {factory : AgentFactory} {context : WorkspaceContext} {agentId : EntityId}
  {stored : FactoryAgent} {reason : String}

/-- What is stored after an agent is finalized: the others as they were, and possibly the agent
itself, no longer active. -/
theorem mem_finalize {outcome : AgentOutcome} {at' : String} {events : List AgentFactoryEvent}
    (h : agent ∈ (factory.finalize stored outcome reason at' events).agents) :
    (agent ∈ factory.agents ∧ keyOf agent ≠ keyOf stored)
      ∨ (agent.toAgentInstantiationRequest = stored.toAgentInstantiationRequest
        ∧ agent.agentId = stored.agentId ∧ agent.nestingDepth = stored.nestingDepth
        ∧ agent.lifecycle = .ARCHIVED) := by
  simp only [AgentFactory.finalize] at h
  split at h
  · rcases Store.mem_put.mp h with rfl | ⟨hmem, hne⟩
    · exact Or.inr ⟨rfl, rfl, rfl, rfl⟩
    · exact Or.inl ⟨hmem, hne⟩
  · exact Or.inl (Store.mem_delete.mp h)

/-- The other agents stay. -/
theorem mem_finalize_of_ne {outcome : AgentOutcome} {at' : String} {events : List AgentFactoryEvent}
    (h : agent ∈ factory.agents) (hne : keyOf agent ≠ keyOf stored) :
    agent ∈ (factory.finalize stored outcome reason at' events).agents := by
  simp only [AgentFactory.finalize]
  split
  · exact Store.mem_put.mpr (Or.inr ⟨h, hne⟩)
  · exact Store.mem_delete.mpr ⟨h, hne⟩

/-- Finalizing an agent without active children keeps the lineage. -/
theorem Lineage.finalize (lineage : Lineage options factory)
    (completable : Completable options factory context agentId reason stored)
    (outcome : AgentOutcome) (at' : String) (events : List AgentFactoryEvent) :
    Lineage options (factory.finalize stored outcome reason at' events) := by
  have hstored : stored ∈ factory.agents := Store.mem_of_get? completable.found
  have hstoredKey := Store.keyOf_of_get? completable.found
  rw [keyOf_factoryAgent, key, key, Prod.mk.injEq] at hstoredKey
  -- Every agent now stored was stored with the same request, identifier and depth.
  have origin : ∀ agent ∈ (factory.finalize stored outcome reason at' events).agents,
      ∃ old ∈ factory.agents, agent.toAgentInstantiationRequest = old.toAgentInstantiationRequest
        ∧ agent.agentId = old.agentId ∧ agent.nestingDepth = old.nestingDepth := by
    intro agent hagent
    rcases mem_finalize hagent with ⟨hmem, -⟩ | ⟨hrequest, hid, hdepth, -⟩
    · exact ⟨agent, hmem, rfl, rfl, rfl⟩
    · exact ⟨stored, hstored, hrequest, hid, hdepth⟩
  refine ⟨?_, ?_, ?_, ?_, ?_, ?_⟩
  · intro agent hagent
    obtain ⟨old, hold, hrequest, hid, -⟩ := origin agent hagent
    rw [hid, hrequest]
    exact lineage.named old hold
  · intro agent hagent
    obtain ⟨old, hold, hrequest, -, -⟩ := origin agent hagent
    rw [hrequest]
    exact lineage.consumed old hold
  · intro agent hagent parentAgentId h
    obtain ⟨old, hold, hrequest, -, -⟩ := origin agent hagent
    rw [hrequest] at h ⊢
    exact lineage.parentConsumed old hold parentAgentId h
  · rintro child parent ⟨hchild, hparent, hnames, hworkspace⟩
    obtain ⟨oldChild, holdChild, hrequest, -, hdepth⟩ := origin child hchild
    obtain ⟨oldParent, holdParent, hrequest', hid', hdepth'⟩ := origin parent hparent
    rw [hrequest, hid'] at hnames
    rw [hrequest, hrequest'] at hworkspace
    rw [hdepth, hdepth']
    exact lineage.depths oldChild oldParent ⟨holdChild, holdParent, hnames, hworkspace⟩
  · intro agent hagent
    obtain ⟨old, hold, hrequest, -, hdepth⟩ := origin agent hagent
    rw [hrequest, hdepth]
    exact lineage.bounded old hold
  · intro child hchild hactive parentAgentId h
    rcases mem_finalize hchild with ⟨hmem, -⟩ | ⟨-, -, -, harchived⟩
    · obtain ⟨parent, hparent, hid, keptBy⟩ := lineage.kept child hmem hactive parentAgentId h
      refine ⟨parent, mem_finalize_of_ne hparent ?_, hid, keptBy⟩
      -- The parent of an active child is not the agent that ends: that one has no active children.
      intro hkey
      rw [keyOf_factoryAgent, keyOf_factoryAgent, key, key, Prod.mk.injEq] at hkey
      have hlisted : child ∈ activeChildren factory context.workspaceId agentId := by
        rw [activeChildren, List.mem_filter, Store.mem_values, decide_eq_true_eq]
        refine ⟨hmem, ?_, ?_, hactive⟩
        · rw [h, ← hid, hkey.2, hstoredKey.2]
        · rw [← keptBy.workspace, hkey.1, hstoredKey.1]
      rw [completable.childless] at hlisted
      cases hlisted
    · rw [harchived] at hactive
      cases hactive

end Finalize

/-! ## Reachable states -/

variable {factory : AgentFactory}

/-- A change of other fields keeps the lineage. -/
theorem Lineage.of_agents_eq {factory' : AgentFactory} (lineage : Lineage options factory)
    (agents : factory'.agents = factory.agents)
    (consumed : factory'.consumedRequests = factory.consumedRequests) :
    Lineage options factory' := by
  obtain ⟨templates, agents', consumed', objectives, tasks, decisions, events⟩ := factory'
  subst agents consumed
  exact ⟨lineage.named, lineage.consumed, lineage.parentConsumed, lineage.depths, lineage.bounded, lineage.kept⟩

/-- What a call does keeps the lineage. -/
theorem Lineage.effect {call : Call σ} {answer : Answer} {factory factory' : AgentFactory}
    (lineage : Lineage options factory) (effect : Effect options call answer factory factory') :
    Lineage options factory' := by
  cases effect with
  | linked agents consumed => exact lineage.of_agents_eq agents consumed
  | enlisted createdAt admitted => exact lineage.enlist (.of_ok admitted) _ _ _ _
  | finalized at' admitted => exact lineage.finalize (admitCompletion_eq_ok.mp admitted) _ _ _

/-- Every reachable factory has the lineage invariant. -/
theorem lineage_reach (sink : σ) (calls : List (Call σ)) :
    Lineage options (reach options sink calls).factory :=
  reach_invariant lineage_empty (fun _ _ _ _ lineage effect => lineage.effect effect) sink calls

/-- The parent relation is a forest: parents are found by their key, and depths decrease. -/
theorem Lineage.isForest (lineage : Lineage options factory) :
    IsForest (ParentOf factory) := by
  refine IsForest.of_rank FactoryAgent.nestingDepth ?_ ?_
  · rintro child parent parent' ⟨-, hparent, hnames, hworkspace⟩ ⟨-, hparent', hnames', hworkspace'⟩
    refine Store.eq_of_keyOf_eq hparent hparent' ?_
    rw [hnames, Option.some.injEq] at hnames'
    rw [keyOf_factoryAgent, keyOf_factoryAgent, hnames', ← hworkspace, hworkspace']
  · intro child parent h
    rw [lineage.depths child parent h]
    exact lt_add_one _

/-- The stored parent of an active agent is the one that keeps it. -/
theorem Lineage.keptBy_of_parentOf (lineage : Lineage options factory)
    {child parent : FactoryAgent} (hactive : child.lifecycle = .ACTIVE)
    (h : ParentOf factory child parent) : KeptBy child parent := by
  obtain ⟨hchild, hparent, hnames, hworkspace⟩ := h
  obtain ⟨found, hfound, hid, keptBy⟩ := lineage.kept child hchild hactive _ hnames
  have heq : found = parent := by
    refine Store.eq_of_keyOf_eq hfound hparent ?_
    rw [keyOf_factoryAgent, keyOf_factoryAgent, hid, keptBy.workspace, hworkspace]
  exact heq ▸ keptBy

/-- The ancestors of an active agent are active, and the agent is within each of them. -/
theorem Lineage.within_ancestor (lineage : Lineage options factory)
    {ancestor : FactoryAgent} (hactive : agent.lifecycle = .ACTIVE)
    (h : TransGen (ParentOf factory) agent ancestor) :
    ancestor.lifecycle = .ACTIVE
      ∧ Within agent.toAgentInstantiationRequest ancestor.toAgentInstantiationRequest := by
  refine ancestor_of_step (P := fun agent : FactoryAgent => agent.lifecycle = .ACTIVE)
    (Q := fun agent ancestor : FactoryAgent =>
      Within agent.toAgentInstantiationRequest ancestor.toAgentInstantiationRequest)
    (fun _ _ _ => Within.trans) ?_ hactive h
  intro child parent hchild hparent
  have keptBy := lineage.keptBy_of_parentOf hchild hparent
  exact ⟨keptBy.active, keptBy.within⟩

/-! ## Identifiers are given out once -/

/-- The key of the agent a step created, if it created one. -/
def Step.created (step : Step σ) : Option Key :=
  match step.outcome with
  | .ok (.agent agent _) => some (keyOf agent)
  | _ => none

/-- No agent is created twice: the key of every created one belongs to a consumed request. -/
theorem created_nodup (sink : σ) (calls : List (Call σ)) :
    ((trace options sink calls).filterMap Step.created).Nodup := by
  have h : ((trace options sink calls).filterMap Step.created).Nodup
      ∧ ∀ k ∈ (trace options sink calls).filterMap Step.created, ∃ workspaceId requestId,
        k = key workspaceId (agentIdOf requestId)
          ∧ key workspaceId requestId ∈ (reach options sink calls).factory.consumedRequests := by
    refine history_induction (P := fun (steps : List (Step σ)) (w : FactoryWorld σ) =>
      (steps.filterMap Step.created).Nodup ∧ ∀ k ∈ steps.filterMap Step.created,
        ∃ workspaceId requestId, k = key workspaceId (agentIdOf requestId)
          ∧ key workspaceId requestId ∈ w.factory.consumedRequests) (perform options)
      ⟨List.nodup_nil, fun k h => absurd h List.not_mem_nil⟩ (fun pre call ih => ?_) calls
    obtain ⟨ihNodup, ihConsumed⟩ := ih
    rw [List.filterMap_append, List.filterMap_cons, List.filterMap_nil]
    simp only [Step.created, entryAt]
    rcases perform_effect options call (run (perform options) (.initial sink) pre) with
      ⟨error, hout, hfactory⟩ | ⟨answer, hout, effect⟩
    · rw [hout, hfactory, List.append_nil]
      exact ⟨ihNodup, ihConsumed⟩
    · rw [hout]
      generalize (perform options call (run (perform options) (.initial sink) pre)).2.factory
        = factory' at effect ⊢
      cases effect with
      | linked _ consumed =>
        rw [consumed, List.append_nil]
        exact ⟨ihNodup, ihConsumed⟩
      | finalized at' _ =>
        rw [List.append_nil]
        exact ⟨ihNodup, ihConsumed⟩
      | @enlisted context request _ template depth createdAt admitted =>
        have hunconsumed := (Admitted.of_ok admitted).unconsumed
        constructor
        · refine List.nodup_append.mpr ⟨ihNodup, List.nodup_singleton _, ?_⟩
          intro k hk k' hk' heq
          obtain ⟨workspaceId, requestId, rfl, hconsumed⟩ := ihConsumed k hk
          rw [List.mem_singleton] at hk'
          rw [hk', keyOf_factoryAgent, key, key, Prod.mk.injEq] at heq
          have hid : requestId = request.id := agentIdOf_inj heq.2
          rw [heq.1, hid] at hconsumed
          exact hunconsumed hconsumed
        · intro k hk
          rcases List.mem_append.mp hk with hk | hk
          · obtain ⟨workspaceId, requestId, hkey, hconsumed⟩ := ihConsumed k hk
            exact ⟨workspaceId, requestId, hkey, Finset.mem_insert_of_mem hconsumed⟩
          · rw [List.mem_singleton] at hk
            exact ⟨request.workspaceId, request.id, hk, Finset.mem_insert_self _ _⟩
  exact h.1

/-- **The lineage of agents.** In every reachable state the parent relation is a forest; an active
agent that names a parent has it stored and active, in its workspace, for its objective and task and
one level above it; no active agent is nested deeper than allowed or has an authority above 3; an
active agent is within every ancestor; and no identifier was given out twice in a workspace. -/
theorem agent_lineage_holds (options : AgentFactoryOptions σ) (sink : σ) (calls : List (Call σ)) :
    let factory := (reach options sink calls).factory
    IsForest (ParentOf factory)
      ∧ (∀ agent ∈ factory.agents, agent.lifecycle = .ACTIVE → ∀ parentAgentId,
          agent.parentAgentId = some parentAgentId →
          ∃ parent, factory.agents.get? (key agent.workspaceId parentAgentId) = some parent
            ∧ parent.lifecycle = .ACTIVE ∧ parent.workspaceId = agent.workspaceId
            ∧ parent.objectiveId = agent.objectiveId ∧ parent.taskId = agent.taskId
            ∧ agent.nestingDepth = parent.nestingDepth + 1
            ∧ agent.nestingDepth ≤ options.limits.maxNestingDepth)
      ∧ (∀ agent ∈ factory.agents, agent.lifecycle = .ACTIVE → agent.authorityLevel.val ≤ 3
          ∧ ∀ ancestor, TransGen (ParentOf factory) agent ancestor →
            Within agent.toAgentInstantiationRequest ancestor.toAgentInstantiationRequest)
      ∧ ((trace options sink calls).filterMap Step.created).Nodup := by
  intro factory
  have lineage : Lineage options factory := lineage_reach sink calls
  refine ⟨lineage.isForest, ?_, ?_, created_nodup sink calls⟩
  · intro agent hagent hactive parentAgentId h
    obtain ⟨parent, hparent, rfl, keptBy⟩ := lineage.kept agent hagent hactive parentAgentId h
    refine ⟨parent, ?_, keptBy.active, keptBy.workspace, keptBy.objective, keptBy.task,
      keptBy.depth, (lineage.bounded agent hagent).1⟩
    rw [← keptBy.workspace]
    exact Store.mem_iff_get?.mp hparent
  · intro agent hagent hactive
    exact ⟨(lineage.bounded agent hagent).2, fun ancestor h => (lineage.within_ancestor hactive h).2⟩

end VentureOS.Factory
