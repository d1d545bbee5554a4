import VentureOS.Foundations.Machine
import VentureOS.Coo.Factory

/-! # The agent factory as a machine

A label is one public call of the factory, or a write that another component makes to the shared event
sink. `perform` gives the outcome of a label and the world it leaves. What a call makes of the factory
is said once, by `Effect`: it adds linkages or templates, enlists one admitted agent, or finalizes one
active agent without active children; a call that throws changes nothing (`perform_effect`). -/

namespace VentureOS.Factory

open ControlPlane Program

/-- A public call of the factory, or a change made by others. -/
inductive Call (σ : Type) where
  | registerObjective (context : WorkspaceContext) (id : EntityId)
  | registerTask (context : WorkspaceContext) (id objectiveId : EntityId)
  | registerPlan (context : WorkspaceContext) (objectiveId : EntityId)
      (tasks : List (EntityId × EntityId))
  | putTemplate (context : WorkspaceContext) (template : AgentTemplate)
  | instantiate (context : WorkspaceContext) (request : AgentInstantiationRequest)
  | complete (context : WorkspaceContext) (agentId : EntityId) (outcome : AgentOutcome)
      (reason : Option String)
  /-- Another component writes to the event sink. -/
  | sinkChanged (sink : σ)

/-- What a label returns. -/
inductive Answer where
  /-- The method returns nothing. -/
  | done
  | agent (agent : FactoryAgent) (decision : AgentFactoryDecision)

variable {σ : Type} (options : AgentFactoryOptions σ)

/-- Answer a label. -/
def answer : Call σ → Op σ Answer
  | .registerObjective context id => do registerObjective options context id; return .done
  | .registerTask context id objectiveId => do
    registerTask options context id objectiveId; return .done
  | .registerPlan context objectiveId tasks => do
    registerPlan options context objectiveId tasks; return .done
  | .putTemplate context template => do putTemplate options context template; return .done
  | .instantiate context request => do
    let (agent, decision) ← instantiate options context request
    return .agent agent decision
  | .complete context agentId outcome reason => do
    complete options context agentId outcome reason; return .done
  | .sinkChanged sink => do
    modify fun w => { w with sink := sink }
    return .done

/-- One step of the machine. -/
def perform (call : Call σ) (w : FactoryWorld σ) : Except Failure Answer × FactoryWorld σ :=
  (answer options call).exec w

/-- A step of a run of the factory. -/
abbrev Step (σ : Type) := Entry (Call σ) (Except Failure Answer) (FactoryWorld σ)

/-- A factory on which nothing was done. -/
def FactoryWorld.initial (sink : σ) : FactoryWorld σ := ⟨.empty, sink, 0⟩

/-- The state reached by a list of labels. -/
def reach (sink : σ) (calls : List (Call σ)) : FactoryWorld σ :=
  run (perform options) (.initial sink) calls

/-- The steps taken along a list of labels. -/
def trace (sink : σ) (calls : List (Call σ)) : List (Step σ) :=
  history (perform options) (.initial sink) calls

/-! ## What a call does to the factory -/

/-- What an accepted call makes of the factory, and what it answers. -/
inductive Effect : Call σ → Answer → AgentFactory → AgentFactory → Prop
  /-- Linkages and templates are added, or nothing is done. -/
  | linked {call : Call σ} {factory factory' : AgentFactory}
      (agents : factory'.agents = factory.agents)
      (consumed : factory'.consumedRequests = factory.consumedRequests) :
      Effect call .done factory factory'
  /-- An admitted agent is enlisted. -/
  | enlisted {context : WorkspaceContext} {request : AgentInstantiationRequest}
      {factory : AgentFactory} {template : AgentTemplate} {depth : Int} (createdAt : String)
      (admitted : admitInstantiation options factory context request = .ok (template, depth)) :
      Effect (.instantiate context request)
        (.agent (createdAgent request template depth createdAt)
          (creationDecision options context request template createdAt))
        factory
        (factory.enlist (createdAgent request template depth createdAt)
          (creationDecision options context request template createdAt)
          (createdEvent request createdAt))
  /-- An active agent without active children is finalized. -/
  | finalized {context : WorkspaceContext} {agentId : EntityId} {outcome : AgentOutcome}
      {reason : Option String} {factory : AgentFactory} {stored : FactoryAgent} (at' : String)
      (admitted : admitCompletion options factory context agentId (reason.getD (outcomeCode outcome)) = .ok stored) :
      Effect (.complete context agentId outcome reason) .done factory
        (factory.finalize stored outcome (reason.getD (outcomeCode outcome)) at'
          [outcomeEvent context agentId outcome (reason.getD (outcomeCode outcome)) at',
            retentionEvent context agentId stored.retention at'])

section Effects

variable {options}

/-- A linkage or a template was added, or the call was refused. -/
def Registers (w : FactoryWorld σ) (r : Except Failure Unit) (w' : FactoryWorld σ) : Prop :=
  match r with
  | .ok _ => w'.factory.agents = w.factory.agents
      ∧ w'.factory.consumedRequests = w.factory.consumedRequests ∧ w'.sink = w.sink
  | .error _ => w' = w

theorem registers_lift_bind {α : Type} {x : Except Failure α} {f : α → Op σ Unit} {w : FactoryWorld σ}
    (h : ∀ a, Ensures (f a) w (Registers w)) : Ensures (liftM x >>= f) w (Registers w) := by
  rw [ensures_lift_bind]
  exact ⟨fun _ _ => rfl, fun a _ => h a⟩

theorem registerObjective_spec (context : WorkspaceContext) (id : EntityId) (w : FactoryWorld σ) :
    Ensures (registerObjective options context id) w (Registers w) := by
  unfold registerObjective
  refine registers_lift_bind fun _ => registers_lift_bind fun _ => ?_
  rw [ensures_readFactory_bind]
  exact registers_lift_bind fun _ => ⟨rfl, rfl, rfl⟩

theorem registerTask_spec (context : WorkspaceContext) (id objectiveId : EntityId)
    (w : FactoryWorld σ) : Ensures (registerTask options context id objectiveId) w (Registers w) := by
  unfold registerTask
  refine registers_lift_bind fun _ => registers_lift_bind fun _ => registers_lift_bind fun _ => ?_
  rw [ensures_readFactory_bind]
  exact registers_lift_bind fun _ => registers_lift_bind fun _ => ⟨rfl, rfl, rfl⟩

theorem putTemplate_spec (context : WorkspaceContext) (template : AgentTemplate)
    (w : FactoryWorld σ) : Ensures (putTemplate options context template) w (Registers w) := by
  unfold putTemplate
  refine registers_lift_bind fun _ => registers_lift_bind fun _ => registers_lift_bind fun _ => ?_
  rw [ensures_readFactory_bind]
  exact registers_lift_bind fun _ => registers_lift_bind fun _ => ⟨rfl, rfl, rfl⟩

/-- **Finalizing an agent.** A call that is refused at any point leaves the factory as it was; an
accepted one was admitted and ends the agent. -/
theorem complete_spec (context : WorkspaceContext) (agentId : EntityId) (outcome : AgentOutcome)
    (reason : Option String) (w : FactoryWorld σ) :
    Ensures (complete options context agentId outcome reason) w (fun r w' => match r with
      | .ok _ => ∃ stored at',
          admitCompletion options w.factory context agentId (reason.getD (outcomeCode outcome))
            = .ok stored
          ∧ w'.factory = w.factory.finalize stored outcome (reason.getD (outcomeCode outcome)) at'
            [outcomeEvent context agentId outcome (reason.getD (outcomeCode outcome)) at',
              retentionEvent context agentId stored.retention at']
      | .error _ => w'.factory = w.factory) := by
  unfold complete
  simp only
  rw [ensures_readFactory_bind, ensures_lift_bind]
  refine ⟨fun _ _ => rfl, fun stored hstored => ?_⟩
  rw [ensures_readClock_bind, ensures_lift_bind]
  refine ⟨fun _ _ => rfl, fun at' _ => ?_⟩
  -- With or without a sink, the factory is written last.
  split
  · exact ⟨stored, at', hstored, rfl⟩
  · rw [ensures_bind, onSink, ensures_focus]
    refine (ensures_true _ _).mono fun r _ _ => ?_
    cases r with
    | error e => rfl
    | ok u => exact ⟨stored, at', hstored, rfl⟩

variable (options) in
/-- **One call.** A call that throws leaves the factory alone, and of the accepted ones there are
three kinds. -/
theorem perform_effect (call : Call σ) (w : FactoryWorld σ) :
    (∃ error, (perform options call w).1 = .error error
        ∧ (perform options call w).2.factory = w.factory)
      ∨ ∃ answer, (perform options call w).1 = .ok answer
        ∧ Effect options call answer w.factory (perform options call w).2.factory := by
  have step : Ensures (answer options call) w (fun r w' =>
      (∃ error, r = .error error ∧ w'.factory = w.factory)
        ∨ ∃ answer, r = .ok answer ∧ Effect options call answer w.factory w'.factory) := by
    cases call with
    | registerObjective context id =>
      refine ensures_bind_pure.mpr ((registerObjective_spec context id w).mono fun r w' h => ?_)
      cases r with
      | error e => exact Or.inl ⟨e, rfl, congrArg FactoryWorld.factory h⟩
      | ok u => exact Or.inr ⟨.done, rfl, .linked h.1 h.2.1⟩
    | registerTask context id objectiveId =>
      refine ensures_bind_pure.mpr
        ((registerTask_spec context id objectiveId w).mono fun r w' h => ?_)
      cases r with
      | error e => exact Or.inl ⟨e, rfl, congrArg FactoryWorld.factory h⟩
      | ok u => exact Or.inr ⟨.done, rfl, .linked h.1 h.2.1⟩
    | registerPlan context objectiveId tasks =>
      refine ensures_bind_pure.mpr
        ((registerPlan_spec context objectiveId tasks w).mono fun r w' h => ?_)
      cases r with
      | error e => exact Or.inl ⟨e, rfl, congrArg FactoryWorld.factory h.2⟩
      | ok u =>
        refine Or.inr ⟨.done, rfl, .linked ?_ ?_⟩
        · rw [h.2]; rfl
        · rw [h.2]; rfl
    | putTemplate context template =>
      refine ensures_bind_pure.mpr ((putTemplate_spec context template w).mono fun r w' h => ?_)
      cases r with
      | error e => exact Or.inl ⟨e, rfl, congrArg FactoryWorld.factory h⟩
      | ok u => exact Or.inr ⟨.done, rfl, .linked h.1 h.2.1⟩
    | instantiate context request =>
      refine ensures_bind_pure.mpr ((instantiate_spec context request w).mono fun r w' h => ?_)
      cases r with
      | error e => exact Or.inl ⟨e, rfl, h⟩
      | ok p =>
        obtain ⟨agent, decision⟩ := p
        obtain ⟨template, depth, createdAt, admitted, rfl, rfl, hfactory⟩ := h
        exact Or.inr ⟨_, rfl, hfactory ▸ .enlisted createdAt admitted⟩
    | complete context agentId outcome reason =>
      refine ensures_bind_pure.mpr
        ((complete_spec context agentId outcome reason w).mono fun r w' h => ?_)
      cases r with
      | error e => exact Or.inl ⟨e, rfl, h⟩
      | ok u =>
        obtain ⟨stored, at', admitted, hfactory⟩ := h
        exact Or.inr ⟨.done, rfl, hfactory ▸ .finalized at' admitted⟩
    | sinkChanged sink => exact Or.inr ⟨.done, rfl, .linked rfl rfl⟩
  exact step

/-- **Invariant rule.** What holds of the empty factory and is kept by the three effects holds in
every reachable state. -/
theorem reach_invariant {P : AgentFactory → Prop} (init : P .empty)
    (next : ∀ call answer factory factory', P factory → Effect options call answer factory factory' → P factory')
    (sink : σ) (calls : List (Call σ)) : P (reach options sink calls).factory := by
  refine run_induction (P := fun w : FactoryWorld σ => P w.factory) (perform options) init
    (fun pre call ih => ?_) calls
  rcases perform_effect options call (run (perform options) (.initial sink) pre) with
    ⟨_, -, hfactory⟩ | ⟨answer, -, effect⟩
  · rw [hfactory]
    exact ih
  · exact next call answer _ _ ih effect

end Effects

end VentureOS.Factory
