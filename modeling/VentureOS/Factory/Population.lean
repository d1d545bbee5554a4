import VentureOS.Factory.Lineage
import VentureOS.Factory.Logged

/-! # The population of agents

The limits on active agents are checked by counting them whenever one is created. Enlisting adds one
agent to each of the counts it was admitted under, and finalizing only takes agents away, so the limits
hold in every reachable state (`withinLimits_reach`). -/

namespace VentureOS.Factory

open ControlPlane

variable {σ : Type} {options : AgentFactoryOptions σ} {factory : AgentFactory}

/-- The active agents of a workspace. -/
def workspaceAgents (factory : AgentFactory) (workspaceId : EntityId) : List FactoryAgent :=
  (activeAgents factory).filter fun agent => decide (agent.workspaceId = workspaceId)

/-- **The limits on active agents**: over all, in each workspace, and below each active agent. -/
structure WithinLimits (options : AgentFactoryOptions σ) (factory : AgentFactory) : Prop where
  overall : ((activeAgents factory).length : Int)
    ≤ min options.limits.maxAgents options.limits.maxConcurrentAgents
  workspace : ∀ workspaceId,
    ((workspaceAgents factory workspaceId).length : Int) ≤ options.limits.maxAgentsPerWorkspace
  children : ∀ agent ∈ factory.agents, agent.lifecycle = .ACTIVE →
    ((activeChildren factory agent.workspaceId agent.agentId).length : Int)
      ≤ min agent.childLimit options.limits.maxChildrenPerAgent

/-! ## Creation -/

variable {agent : FactoryAgent}

section Enlist

variable {context : WorkspaceContext} {request : AgentInstantiationRequest} {depth : Int}
  {template : AgentTemplate} {createdAt : String} {decision : AgentFactoryDecision}
  {event : AgentFactoryEvent}

/-- An agent under a fresh key is listed last. -/
theorem values_enlist (hfresh : factory.agents.get? (keyOf agent) = none) :
    (factory.enlist agent decision event).agents.values = factory.agents.values ++ [agent] :=
  Store.values_put_of_fresh hfresh

/-- It is one more active agent. -/
theorem activeAgents_enlist
    (hfresh : factory.agents.get? (keyOf agent) = none) (hactive : agent.lifecycle = .ACTIVE) :
    activeAgents (factory.enlist agent decision event) = activeAgents factory ++ [agent] := by
  rw [activeAgents, values_enlist hfresh, List.filter_append]
  simp [activeAgents, hactive]

/-- Below the agent it names in its workspace it is one more child, elsewhere none. -/
theorem activeChildren_enlist (workspaceId agentId : EntityId)
    (hfresh : factory.agents.get? (keyOf agent) = none) (hactive : agent.lifecycle = .ACTIVE) :
    activeChildren (factory.enlist agent decision event) workspaceId agentId
      = activeChildren factory workspaceId agentId
        ++ if agent.parentAgentId = some agentId ∧ agent.workspaceId = workspaceId then [agent]
          else [] := by
  rw [activeChildren, values_enlist hfresh, List.filter_append]
  by_cases h : agent.parentAgentId = some agentId ∧ agent.workspaceId = workspaceId
  · simp [activeChildren, hactive, h]
  · rw [if_neg h, List.filter_cons_of_neg]
    · simp [activeChildren]
    · rw [decide_eq_true_eq]
      exact fun hchild => h ⟨hchild.1, hchild.2.1⟩

/-- A limit the constructor accepted is not negative. -/
theorem maxChildrenPerAgent_nonneg (options : AgentFactoryOptions σ) :
    0 ≤ options.limits.maxChildrenPerAgent := by
  have h := options.governed
  simp only [checkLimits, check_bind_eq_ok, integer_eq_ok] at h
  exact h.2.2.1.2.1

/-- A request that was accepted has no negative child limit. -/
theorem childLimit_nonneg (h : validateRequest request = .ok ()) : 0 ≤ request.childLimit := by
  simp only [validateRequest, check_bind_eq_ok, integer_eq_ok] at h
  obtain ⟨-, -, -, -, -, -, -, -, -, -, -, -, -, -, -, -, -, -, -, -, -, -, -, -, -, hnonneg, -⟩ := h
  exact hnonneg

/-- Enlisting an admitted agent keeps the limits. -/
theorem WithinLimits.enlist (limits : WithinLimits options factory)
    (lineage : Lineage options factory) (admitted : Admitted options factory context request depth) :
    WithinLimits options
      (factory.enlist (createdAgent request template depth createdAt) decision event) := by
  have hfresh : factory.agents.get? (keyOf (createdAgent request template depth createdAt)) = none :=
    lineage.get?_agentIdOf_of_unconsumed admitted.unconsumed
  refine ⟨?_, ?_, ?_⟩
  · rw [activeAgents_enlist hfresh rfl, List.length_append, List.length_singleton]
    have hroom := admitted.globalRoom
    push_cast
    omega
  · intro workspaceId
    rw [workspaceAgents, activeAgents_enlist hfresh rfl, List.filter_append, List.length_append]
    have hold := limits.workspace workspaceId
    rw [workspaceAgents] at hold
    by_cases hworkspace : request.workspaceId = workspaceId
    · subst hworkspace
      have hroom := admitted.workspaceRoom
      have hnew := List.length_filter_le
        (fun agent : FactoryAgent => decide (agent.workspaceId = request.workspaceId))
        [createdAgent request template depth createdAt]
      rw [List.length_singleton] at hnew
      push_cast
      omega
    · have hnone : [createdAgent request template depth createdAt].filter
          (fun agent => decide (agent.workspaceId = workspaceId)) = [] := by
        rw [List.filter_eq_nil_iff]
        intro agent hagent h
        rw [List.mem_singleton.mp hagent, decide_eq_true_eq] at h
        exact hworkspace h
      rw [hnone, List.length_nil, Nat.add_zero]
      exact hold
  · intro agent hagent hactive
    rw [activeChildren_enlist _ _ hfresh rfl, List.length_append]
    have hcases := (Store.mem_put_of_fresh hfresh).mp hagent
    split
    · next hchild =>
      -- The new agent is a child: it was admitted under this very agent.
      rcases hcases with rfl | hold
      · obtain ⟨parent, hget, -, -⟩ := admitted.parent _ hchild.1
        rw [keyOf_factoryAgent] at hfresh
        have hnone : factory.agents.get? (key request.workspaceId
            (createdAgent request template depth createdAt).agentId) = none := hfresh
        rw [hnone] at hget
        cases hget
      · obtain ⟨parent, hget, under, -⟩ := admitted.parent _ hchild.1
        have hsame : parent = agent := by
          refine Store.eq_of_keyOf_eq (Store.mem_of_get? hget) hold ?_
          rw [Store.keyOf_of_get? hget, keyOf_factoryAgent, ← hchild.2]
          rfl
        subst hsame
        have hroom := under.room
        have hworkspace : request.workspaceId = parent.workspaceId := hchild.2
        rw [hworkspace] at hroom
        rw [List.length_singleton]
        push_cast
        omega
    · rw [List.length_nil, Nat.add_zero]
      rcases hcases with rfl | hold
      · -- Nobody names the new agent yet.
        have hnone : activeChildren factory request.workspaceId (agentIdOf request.id) = [] := by
          rw [activeChildren, List.filter_eq_nil_iff]
          intro child hchild h
          rw [Store.mem_values] at hchild
          rw [decide_eq_true_eq] at h
          exact lineage.parent_ne_of_unconsumed admitted.unconsumed hchild h.2.1 h.1
        have hlength : (activeChildren factory (createdAgent request template depth
            createdAt).workspaceId (createdAgent request template depth createdAt).agentId).length = 0 :=
          congrArg List.length hnone
        rw [hlength]
        exact le_min (childLimit_nonneg admitted.validated) (maxChildrenPerAgent_nonneg options)
      · exact limits.children agent hold hactive

end Enlist

/-! ## Completion -/

section Finalize

variable {stored : FactoryAgent} {outcome : AgentOutcome} {reason at' : String}
  {events : List AgentFactoryEvent}

/-- A selection of active agents only loses agents when one is finalized. -/
theorem filter_finalize_sublist {p : FactoryAgent → Bool}
    (hp : ∀ agent, p agent = true → agent.lifecycle = .ACTIVE) :
    ((factory.finalize stored outcome reason at' events).agents.values.filter p).Sublist
      (factory.agents.values.filter p) := by
  simp only [AgentFactory.finalize]
  split
  · refine Store.filter_values_put_sublist ?_ _
    rw [Bool.eq_false_iff]
    intro h
    cases hp _ h
  · exact (Store.values_delete_sublist _ _).filter p

/-- Finalizing an agent keeps the limits. -/
theorem WithinLimits.finalize (limits : WithinLimits options factory) :
    WithinLimits options (factory.finalize stored outcome reason at' events) := by
  have hactive : (activeAgents (factory.finalize stored outcome reason at' events)).Sublist
      (activeAgents factory) := filter_finalize_sublist fun agent h => of_decide_eq_true h
  refine ⟨?_, ?_, ?_⟩
  · have hle := hactive.length_le
    have hold := limits.overall
    omega
  · intro workspaceId
    have hle := (hactive.filter fun agent => decide (agent.workspaceId = workspaceId)).length_le
    have hold := limits.workspace workspaceId
    rw [workspaceAgents] at hold ⊢
    omega
  · intro agent hagent h
    rcases mem_finalize hagent with ⟨hmem, -⟩ | ⟨-, -, -, harchived⟩
    · have hsublist : (activeChildren (factory.finalize stored outcome reason at' events)
          agent.workspaceId agent.agentId).Sublist
            (activeChildren factory agent.workspaceId agent.agentId) :=
        filter_finalize_sublist fun child hchild => (of_decide_eq_true hchild).2.2
      have hle := hsublist.length_le
      have hold := limits.children agent hmem h
      omega
    · rw [harchived] at h
      cases h

end Finalize

/-! ## Reachable states -/

/-- The empty factory is within limits that the constructor accepts. -/
theorem withinLimits_empty : WithinLimits options .empty := by
  have h := options.governed
  simp only [checkLimits, check_bind_eq_ok, integer_eq_ok] at h
  obtain ⟨hagents, hworkspace, -, -, hconcurrent, -⟩ := h
  refine ⟨le_min hagents.2.1 hconcurrent.2.1, fun _ => hworkspace.2.1, fun agent hagent => ?_⟩
  exact absurd hagent (Store.not_mem_empty agent)

/-- Every reachable factory is within the limits. -/
theorem withinLimits_reach (sink : σ) (calls : List (Call σ)) :
    WithinLimits options (reach options sink calls).factory := by
  have h : Lineage options (reach options sink calls).factory
      ∧ WithinLimits options (reach options sink calls).factory := by
    refine reach_invariant (P := fun factory =>
      Lineage options factory ∧ WithinLimits options factory)
      ⟨lineage_empty, withinLimits_empty⟩ ?_ sink calls
    rintro call answer factory factory' ⟨lineage, limits⟩ effect
    refine ⟨lineage.effect effect, ?_⟩
    cases effect with
    | linked agents consumed =>
      obtain ⟨templates, agents', consumed', objectives, tasks, decisions, events⟩ := factory'
      subst agents
      exact ⟨limits.overall, limits.workspace, limits.children⟩
    | enlisted createdAt admitted => exact limits.enlist lineage (.of_ok admitted)
    | finalized at' admitted => exact limits.finalize
  exact h.2

/-- **The population is limited.** In every reachable state the active agents are within the limits,
overall, in each workspace and below each active agent. A call that throws leaves the agents, the
consumed requests, the decisions and the events as they were, whatever the event sink does; with an
event log it also leaves the log as it was. -/
theorem population_is_limited (options : AgentFactoryOptions σ) (sink : σ) (calls : List (Call σ))
    (dateParse : String → Option Int) (capability : OperationalEventCapability) (log : EventLog)
    (logCalls : List (Call EventLog)) :
    WithinLimits options (reach options sink calls).factory
      ∧ (∀ step ∈ trace options sink calls, ∀ error, step.outcome = .error error →
          step.after.factory = step.before.factory)
      ∧ ∀ step ∈ trace (options.withLog dateParse capability) log logCalls, ∀ error,
          step.outcome = .error error →
            step.after.factory = step.before.factory ∧ step.after.sink = step.before.sink := by
  refine ⟨withinLimits_reach sink calls, ?_, ?_⟩
  · intro step hstep error herror
    obtain ⟨pre, call, post, -, rfl⟩ := eq_entryAt_of_mem_history _ hstep
    rcases perform_effect options call (run (perform options) (.initial sink) pre) with
      ⟨_, -, hfactory⟩ | ⟨answer, hok, -⟩
    · exact hfactory
    · rw [entryAt, hok] at herror
      cases herror
  · intro step hstep error herror
    obtain ⟨pre, call, post, -, rfl⟩ := eq_entryAt_of_mem_history _ hstep
    rcases perform_logged options dateParse capability
        call (run (perform (options.withLog dateParse capability)) (.initial log) pre) with
      ⟨_, -, hsame⟩ | ⟨answer, hok, -⟩
    · exact hsame
    · rw [entryAt, hok] at herror
      cases herror

end VentureOS.Factory
