import VentureOS.Coo.System

/-! # What the calls of the AI COO write

`Write call coo coo'` says that `coo'` is `coo` after one write that the given call makes, with the
checks that guard the write. A call makes finitely many writes and may throw between any two of them;
`perform_moves` says that the state after a label, whatever its outcome, is reached by writes of
that label. What every write keeps therefore holds in every reachable state, those after calls that
threw included (`reach_invariant`). -/

namespace VentureOS.Coo

open ControlPlane Program Factory Relation

variable {ω σ : Type} (governance : Governance ω σ)

/-- One write of a call, under the checks that guard it. -/
inductive Write : Call ω σ → GovernedAiCoo → GovernedAiCoo → Prop
  /-- An accepted emission is kept. -/
  | record {call : Call ω σ} {coo : GovernedAiCoo} (event : CooEvent) :
      Write call coo (coo.record event)
  /-- A decision card is filed. -/
  | card {call : Call ω σ} {coo : GovernedAiCoo} (card : FounderDecisionCard) :
      Write call coo { coo with approvals := coo.approvals.put card }
  /-- An accepted plan is stored. -/
  | plan {coo : GovernedAiCoo} {context : WorkspaceContext} {plan : ObjectivePlan}
      (checked : checkPlan governance coo context plan = .ok ()) :
      Write (.createPlan context plan) coo (coo.addPlan context.workspaceId plan)
  /-- The readiness of a waiting task is derived from its dependencies. -/
  | refresh {call : Call ω σ} {coo : GovernedAiCoo} {context : WorkspaceContext}
      {task : CooTaskState} {taskId : EntityId} {dependencies : List CooTaskState}
      (found : coo.tasks.get? (key context.workspaceId taskId) = some task)
      (waiting : task.status = .BLOCKED ∨ task.status = .READY)
      (resolved : requireDependencies coo context task.toCooTask = .ok dependencies) :
      Write call coo (coo.putTask { task with status := readiness dependencies })
  /-- A task is assigned. -/
  | assign {coo : GovernedAiCoo} {context : WorkspaceContext} {request : AssignmentRequest}
      {task : CooTaskState}
      (unconsumed : key context.workspaceId request.factoryRequest.id ∉ coo.consumedAssignmentRequests)
      (found : coo.tasks.get? (key context.workspaceId request.taskId) = some task)
      (checked : checkAssignment task request = .ok ()) (agentId : EntityId)
      (runtime : RuntimeRoutingDecision) :
      Write (.requestAssignment context request) coo
        (coo.assign (assignedTask task request agentId runtime) (key context.workspaceId request.factoryRequest.id))
  /-- Usage is charged. -/
  | charge {coo : GovernedAiCoo} {context : WorkspaceContext} {taskId : EntityId}
      {costMinorUnits computeUnits : Int} {task : CooTaskState}
      (checked : checkUsage governance coo context taskId costMinorUnits computeUnits = .ok task) :
      Write (.recordUsage context taskId costMinorUnits computeUnits) coo
        (coo.putTask (chargedTask task costMinorUnits computeUnits))
  /-- A task completes. -/
  | complete {coo : GovernedAiCoo} {context : WorkspaceContext} {taskId : EntityId}
      {evidence : List VerificationEvidence} {task : CooTaskState}
      (checked : checkCompletable governance coo context taskId = .ok task) :
      Write (.completeTask context taskId evidence) coo
        (coo.putTask { task with status := .COMPLETED })
  /-- A task fails, for good or to be tried again. -/
  | fail {coo : GovernedAiCoo} {context : WorkspaceContext} {taskId : EntityId}
      {failureCode : String} {task : CooTaskState}
      (checked : checkFailure governance coo context taskId failureCode = .ok task) :
      Write (.recordFailure context taskId failureCode) coo
        (coo.putTask (failedTask task failureCode))

/-- Finitely many writes of a call. -/
abbrev Writes (call : Call ω σ) : GovernedAiCoo → GovernedAiCoo → Prop :=
  ReflTransGen (Write governance call)

/-! ## Reading, writing and calling -/

section Rules

variable {α : Type} {governance}

theorem ensures_readCoo_bind (f : GovernedAiCoo → Op ω σ α) (w : World ω σ)
    (Q : Except Failure α → World ω σ → Prop) :
    Ensures (readCoo >>= f) w Q ↔ Ensures (f w.coo) w Q := by
  simp only [readCoo, bind_assoc, ensures_get_bind, pure_bind]

@[simp] theorem ensures_writeCoo (f : GovernedAiCoo → GovernedAiCoo) (w : World ω σ)
    (Q : Except Failure Unit → World ω σ → Prop) :
    Ensures (writeCoo f) w Q ↔ Q (.ok ()) { w with coo := f w.coo } := Iff.rfl

theorem ensures_writeCoo_bind (f : GovernedAiCoo → GovernedAiCoo) (g : Unit → Op ω σ α)
    (w : World ω σ) (Q : Except Failure α → World ω σ → Prop) :
    Ensures (writeCoo f >>= g) w Q ↔ Ensures (g ()) { w with coo := f w.coo } Q := by
  rw [ensures_bind, ensures_writeCoo]

theorem ensures_readClock_bind (f : Int → Op ω σ α) (w : World ω σ)
    (Q : Except Failure α → World ω σ → Prop) :
    Ensures (readClock governance >>= f) w Q ↔
      Ensures (f (governance.clock w.clockReads)) { w with clockReads := w.clockReads + 1 } Q := by
  simp only [readClock, bind_assoc, ensures_get_bind, pure_bind]
  rw [ensures_bind, ensures_set]

theorem ensures_readId_bind (f : EntityId → Op ω σ α) (w : World ω σ)
    (Q : Except Failure α → World ω σ → Prop) :
    Ensures (readId governance >>= f) w Q ↔
      Ensures (f (governance.idFactory w.idReads)) { w with idReads := w.idReads + 1 } Q := by
  simp only [readId, bind_assoc, ensures_get_bind, pure_bind]
  rw [ensures_bind, ensures_set]

/-- A call of the factory, of the sink or of the broker leaves the fields of the COO alone. -/
theorem onFactory_coo (x : Factory.Op σ α) (w : World ω σ) :
    Ensures (onFactory x) w (fun _ w' => w'.coo = w.coo ∧ w'.refusals = w.refusals) := by
  rw [onFactory, ensures_focus]
  exact ⟨rfl, rfl⟩

theorem onOutside_coo (x : Program Failure ω α) (w : World ω σ) :
    Ensures (onOutside x) w (fun _ w' => w'.coo = w.coo ∧ w'.refusals = w.refusals) := by
  rw [onOutside, ensures_focus]
  exact ⟨rfl, rfl⟩

theorem onSink_coo (x : Program Failure σ α) (w : World ω σ) :
    Ensures (onSink x) w (fun _ w' => w'.coo = w.coo ∧ w'.refusals = w.refusals
      ∧ w'.factory = w.factory) := by
  rw [onSink, ensures_focus]
  exact ⟨rfl, rfl, rfl⟩

end Rules

/-! ## Emissions -/

/-- The body of an emission keeps the event or changes no field. -/
theorem publish_spec (context : WorkspaceContext) (announcement : Announcement)
    (w : World ω σ) :
    Ensures (publish governance context announcement) w (fun r w' =>
      w'.refusals = w.refusals ∧ w'.factory = w.factory ∧ match r with
      | .ok _ => ∃ id occurredAt, w'.coo = w.coo.record (cooEvent context id occurredAt announcement)
      | .error _ => w'.coo = w.coo) := by
  unfold publish
  rw [ensures_readId_bind, ensures_lift_bind]
  refine ⟨fun _ _ => ⟨rfl, rfl, rfl⟩, fun _ _ => ?_⟩
  rw [ensures_readCoo_bind, ensures_lift_bind]
  refine ⟨fun _ _ => ⟨rfl, rfl, rfl⟩, fun _ _ => ?_⟩
  rw [ensures_readClock_bind, ensures_lift_bind]
  refine ⟨fun _ _ => ⟨rfl, rfl, rfl⟩, fun occurredAt _ => ?_⟩
  -- With or without a sink, the fields are written last.
  split
  · exact ⟨rfl, rfl, _, _, rfl⟩
  · rw [ensures_bind]
    refine (onSink_coo _ _).mono fun r w' hw => ?_
    obtain ⟨hcoo, hrefusals, hfactory⟩ := hw
    cases r with
    | error e => exact ⟨hrefusals, hfactory, hcoo⟩
    | ok u =>
      refine ⟨hrefusals, hfactory, governance.idFactory w.idReads, occurredAt, ?_⟩
      show w'.coo.record _ = w.coo.record _
      rw [hcoo]

/-- **Emissions.** An accepted emission adds its event, a refused one changes no field and is
counted. -/
theorem emit_spec (context : WorkspaceContext) (announcement : Announcement) (w : World ω σ) :
    Ensures (emit governance context announcement) w (fun r w' =>
      w'.factory = w.factory ∧ match r with
      | .ok _ => w'.refusals = w.refusals
          ∧ ∃ id occurredAt, w'.coo = w.coo.record (cooEvent context id occurredAt announcement)
      | .error _ => w'.refusals = w.refusals + 1 ∧ w'.coo = w.coo) := by
  unfold emit
  rw [ensures_tryCatch]
  refine (publish_spec governance context announcement w).mono fun r w' hw => ?_
  obtain ⟨hrefusals, hfactory, hr⟩ := hw
  cases r with
  | ok u => exact ⟨hfactory, hrefusals, hr⟩
  | error e =>
    show w'.factory = w.factory ∧ w'.refusals + 1 = w.refusals + 1 ∧ w'.coo = w.coo
    rw [hrefusals]
    exact ⟨hfactory, rfl, hr⟩

/-! ## Calls within their writes -/

variable {w : World ω σ} {coo : GovernedAiCoo}

section Within

variable (c : Call ω σ) {α β : Type}

/-- From one world to a later one in the course of a call: the fields of the COO change by writes of
the call, and the refused emissions counted do not become fewer. -/
structure Moves (w w' : World ω σ) : Prop where
  writes : Writes governance c w.coo w'.coo
  refusals : w.refusals ≤ w'.refusals

/-- Whatever its outcome, the program leaves a world that the call moves to. -/
abbrev Within (x : Op ω σ α) : Prop := Along (Moves governance c) x

variable {governance c}

theorem Moves.refl (w : World ω σ) : Moves governance c w w := ⟨ReflTransGen.refl, le_rfl⟩

theorem Moves.trans {w' w'' : World ω σ} (h : Moves governance c w w')
    (h' : Moves governance c w' w'') : Moves governance c w w'' :=
  ⟨h.writes.trans h'.writes, h.refusals.trans h'.refusals⟩

/-- Nothing the call writes was touched. -/
theorem Moves.of_coo {w' : World ω σ} (h : w'.coo = w.coo ∧ w'.refusals = w.refusals) :
    Moves governance c w w' :=
  ⟨h.1 ▸ ReflTransGen.refl, h.2 ▸ le_rfl⟩

/-- One write. -/
theorem Moves.write (h : Write governance c w.coo coo) : Moves governance c w { w with coo := coo } :=
  ⟨ReflTransGen.single h, le_rfl⟩

theorem Within.pure (a : α) : Within governance c (pure a : Op ω σ α) := Moves.refl

/-- One program after another. -/
theorem Within.bind {x : Op ω σ α} {f : α → Op ω σ β} (hx : Within governance c x)
    (hf : ∀ a, Within governance c (f a)) : Within governance c (x >>= f) :=
  Along.bind (fun _ _ _ => Moves.trans) hx hf

/-- A program that leaves the fields of the COO alone, and what follows it. -/
theorem Within.coo_bind {x : Op ω σ α} {f : α → Op ω σ β}
    (hx : Ensures x w (fun _ w' => w'.coo = w.coo ∧ w'.refusals = w.refusals))
    (hf : ∀ a w', w'.coo = w.coo → Ensures (f a) w' (fun _ w'' => Moves governance c w' w'')) :
    Ensures (x >>= f) w (fun _ w' => Moves governance c w w') := by
  rw [ensures_bind]
  refine hx.mono fun r w' hw => ?_
  cases r with
  | error e => exact Moves.of_coo hw
  | ok a => exact (hf a w' hw.1).mono fun _ w'' hw' => (Moves.of_coo hw).trans hw'

/-- A write, and what follows it. -/
theorem Within.write_bind {f : GovernedAiCoo → GovernedAiCoo} {g : Unit → Op ω σ β}
    (hwrite : Write governance c w.coo (f w.coo))
    (hg : Within governance c (g ())) :
    Ensures (writeCoo f >>= g) w (fun _ w' => Moves governance c w w') := by
  rw [ensures_writeCoo_bind]
  exact (hg _).mono fun _ w' hw => (Moves.write hwrite).trans hw

/-- A loop of programs. -/
theorem Within.forM {f : α → Op ω σ PUnit} (hf : ∀ a, Within governance c (f a)) (l : List α) :
    Within governance c (forM l f) :=
  Along.forM Moves.refl (fun _ _ _ => Moves.trans) hf l

/-- Emissions write at most their event. -/
theorem within_emit (context : WorkspaceContext) (announcement : Announcement) :
    Within governance c (emit governance context announcement) := by
  intro w
  refine (emit_spec governance context announcement w).mono fun r w' hw => ?_
  obtain ⟨-, hr⟩ := hw
  cases r with
  | error e =>
    refine ⟨hr.2 ▸ ReflTransGen.refl, ?_⟩
    rw [hr.1]
    exact Nat.le_succ _
  | ok u =>
    obtain ⟨hrefusals, id, occurredAt, hcoo⟩ := hr
    refine ⟨?_, hrefusals ▸ le_rfl⟩
    rw [hcoo]
    exact ReflTransGen.single (Write.record _)

/-- The decision card writes at most itself. -/
theorem within_createLevelFourCard (context : WorkspaceContext) (task : CooTask) :
    Within governance c (createLevelFourCard governance context task) := by
  intro w
  unfold createLevelFourCard
  rw [ensures_readClock_bind, ensures_lift_bind]
  refine ⟨fun _ _ => Moves.of_coo ⟨rfl, rfl⟩, fun expiresAt _ => ?_⟩
  exact ⟨ReflTransGen.single (Write.card _), le_rfl⟩

/-- Refreshing a task writes its readiness. -/
theorem within_refreshTaskReadiness (context : WorkspaceContext) (taskId : EntityId) :
    Within governance c (refreshTaskReadiness governance context taskId) := by
  intro w
  unfold refreshTaskReadiness
  rw [ensures_readCoo_bind, ensures_lift_bind]
  refine ⟨fun _ _ => Moves.refl w, fun task htask => ?_⟩
  rw [requireTask_eq_ok] at htask
  split
  next hwaiting =>
    rw [ensures_lift_bind]
    refine ⟨fun _ _ => Moves.refl w, fun dependencies hdeps => ?_⟩
    refine Within.write_bind (Write.refresh htask hwaiting hdeps) ?_
    split
    · exact within_emit context _
    · exact Within.pure _
  next => exact Moves.refl w

/-- The announcements of a plan write events and decision cards. -/
theorem within_announcePlan (context : WorkspaceContext) (plan : ObjectivePlan) :
    Within governance c (announcePlan governance context plan) := by
  unfold announcePlan
  refine Within.bind (within_emit context _) fun _ => ?_
  refine Within.bind (Within.forM (fun _ => within_emit context _) _) fun _ => ?_
  refine Within.forM (fun task => ?_) _
  refine Within.bind (within_emit context _) fun _ => ?_
  refine Within.bind (within_emit context _) fun _ => ?_
  split
  · exact within_createLevelFourCard context task
  · exact Within.pure _

end Within

/-- Refreshing a task consumes no request. -/
theorem refreshTaskReadiness_consumed (context : WorkspaceContext) (taskId : EntityId)
    (w : World ω σ) :
    Ensures (refreshTaskReadiness governance context taskId) w (fun _ w' =>
      w'.coo.consumedAssignmentRequests = w.coo.consumedAssignmentRequests) := by
  unfold refreshTaskReadiness
  rw [ensures_readCoo_bind, ensures_lift_bind]
  refine ⟨fun _ _ => rfl, fun task _ => ?_⟩
  split
  · rw [ensures_lift_bind]
    refine ⟨fun _ _ => rfl, fun dependencies _ => ?_⟩
    rw [ensures_writeCoo_bind]
    split
    · refine (emit_spec governance context _ _).mono fun r w' hw => ?_
      obtain ⟨-, hr⟩ := hw
      cases r with
      | error e => rw [hr.2]; rfl
      | ok u =>
        obtain ⟨-, id, occurredAt, hcoo⟩ := hr
        rw [hcoo]
        rfl
    · rfl
  · rfl

/-! ## Announcements leave the graph alone -/

/-- Two states that differ in events and decision cards at most. -/
structure SameGraph (coo coo' : GovernedAiCoo) : Prop where
  objectives : coo'.objectives = coo.objectives
  projects : coo'.projects = coo.projects
  tasks : coo'.tasks = coo.tasks
  consumed : coo'.consumedAssignmentRequests = coo.consumedAssignmentRequests
  entityIds : coo'.entityIds = coo.entityIds

theorem SameGraph.refl (coo : GovernedAiCoo) : SameGraph coo coo := ⟨rfl, rfl, rfl, rfl, rfl⟩

theorem SameGraph.trans {coo' coo'' : GovernedAiCoo} (h : SameGraph coo coo')
    (h' : SameGraph coo' coo'') : SameGraph coo coo'' :=
  ⟨h'.objectives.trans h.objectives, h'.projects.trans h.projects, h'.tasks.trans h.tasks,
    h'.consumed.trans h.consumed, h'.entityIds.trans h.entityIds⟩

/-- Only events and decision cards are written. -/
abbrev Announces {α : Type} (x : Op ω σ α) : Prop :=
  Along (fun w w' : World ω σ => SameGraph w.coo w'.coo) x

theorem announces_emit (context : WorkspaceContext) (announcement : Announcement) :
    Announces (emit governance context announcement) := by
  intro w
  refine (emit_spec governance context announcement w).mono fun r w' hw => ?_
  obtain ⟨-, hr⟩ := hw
  cases r with
  | error e =>
    rw [hr.2]
    exact SameGraph.refl _
  | ok u =>
    obtain ⟨-, id, occurredAt, hcoo⟩ := hr
    rw [hcoo]
    exact ⟨rfl, rfl, rfl, rfl, rfl⟩

theorem announces_createLevelFourCard (context : WorkspaceContext) (task : CooTask) :
    Announces (createLevelFourCard governance context task : Op ω σ Unit) := by
  intro w
  unfold createLevelFourCard
  rw [ensures_readClock_bind, ensures_lift_bind]
  exact ⟨fun _ _ => SameGraph.refl _, fun _ _ => ⟨rfl, rfl, rfl, rfl, rfl⟩⟩

theorem announces_announcePlan (context : WorkspaceContext) (plan : ObjectivePlan) :
    Announces (announcePlan governance context plan) := by
  have htrans : ∀ w w' w'' : World ω σ, SameGraph w.coo w'.coo → SameGraph w'.coo w''.coo →
      SameGraph w.coo w''.coo := fun _ _ _ => SameGraph.trans
  have hrefl : ∀ w : World ω σ, SameGraph w.coo w.coo := fun w => SameGraph.refl w.coo
  unfold announcePlan
  refine Along.bind htrans (announces_emit governance context _) fun _ => ?_
  refine Along.bind htrans (Along.forM hrefl htrans (fun _ => announces_emit governance context _) _) fun _ => ?_
  refine Along.forM hrefl htrans (fun task => ?_) _
  refine Along.bind htrans (announces_emit governance context _) fun _ => ?_
  refine Along.bind htrans (announces_emit governance context _) fun _ => ?_
  split
  · exact announces_createLevelFourCard governance context task
  · exact Along.pure hrefl _

/-! ## The calls -/

theorem within_createPlan (context : WorkspaceContext) (plan : ObjectivePlan) :
    Within governance (.createPlan context plan) (createPlan governance context plan) := by
  intro w
  unfold createPlan
  rw [ensures_readCoo_bind, ensures_lift_bind]
  refine ⟨fun _ _ => Moves.refl w, fun _ hchecked => ?_⟩
  refine Within.coo_bind (onFactory_coo _ w) fun _ w' hcoo => ?_
  -- The plan is stored first; what follows only adds events and cards.
  refine Within.write_bind (hcoo ▸ Write.plan hchecked) ?_
  refine Within.bind (within_announcePlan context plan) fun _ w'' => ?_
  rw [ensures_readCoo_bind, ensures_lift]
  exact Moves.refl w''

theorem within_requestAssignment (context : WorkspaceContext) (request : AssignmentRequest) :
    Within governance (.requestAssignment context request)
      (requestAssignment governance context request) := by
  intro w
  unfold requestAssignment
  rw [ensures_readCoo_bind, ensures_lift_bind]
  refine ⟨fun _ _ => Moves.refl w, fun _ hfound => ?_⟩
  have hunconsumed : key context.workspaceId request.factoryRequest.id
      ∉ w.coo.consumedAssignmentRequests := by
    simp only [findAssignable, except_bind_eq_ok, throwIf_eq_ok] at hfound
    obtain ⟨-, -, -, -, -, h, -⟩ := hfound
    exact h
  rw [ensures_bind]
  refine ((within_refreshTaskReadiness (c := .requestAssignment context request) context
    request.taskId w).and (refreshTaskReadiness_consumed governance context request.taskId w)).mono
      fun r w₁ hw₁ => ?_
  obtain ⟨hmoves, hconsumed⟩ := hw₁
  cases r with
  | error e => exact hmoves
  | ok u =>
    refine Ensures.mono ?_ fun _ w₂ hw₂ => hmoves.trans hw₂
    show Ensures (readCoo >>= _) w₁ _
    rw [ensures_readCoo_bind, ensures_lift_bind]
    refine ⟨fun _ _ => Moves.refl w₁, fun task htask => ?_⟩
    rw [requireTask_eq_ok] at htask
    rw [ensures_lift_bind]
    refine ⟨fun _ _ => Moves.refl w₁, fun _ hchecked => ?_⟩
    -- Neither the broker nor the factory touches the fields of the COO.
    unfold assignTask
    refine Within.coo_bind (onOutside_coo _ w₁) fun runtime w₂ hcoo₂ => ?_
    refine Within.coo_bind (onFactory_coo _ w₂) fun p w₃ hcoo₃ => ?_
    have hcoo : w₃.coo = w₁.coo := hcoo₃.trans hcoo₂
    rw [← hconsumed] at hunconsumed
    refine Within.write_bind ?_ (Within.bind (within_emit context _) fun _ => Within.pure _)
    rw [hcoo]
    exact Write.assign hunconsumed htask hchecked p.1.agentId runtime

theorem within_recordUsage (context : WorkspaceContext) (taskId : EntityId)
    (costMinorUnits computeUnits : Int) :
    Within governance (.recordUsage context taskId costMinorUnits computeUnits)
      (recordUsage governance context taskId costMinorUnits computeUnits) := by
  intro w
  unfold recordUsage
  rw [ensures_readCoo_bind, ensures_lift_bind]
  refine ⟨fun _ _ => Moves.refl w, fun task hchecked => ?_⟩
  exact Within.write_bind (Write.charge hchecked) (within_emit context _)

theorem within_completeTask (context : WorkspaceContext) (taskId : EntityId)
    (evidence : List VerificationEvidence) :
    Within governance (.completeTask context taskId evidence)
      (completeTask governance context taskId evidence) := by
  intro w
  unfold completeTask
  rw [ensures_readCoo_bind, ensures_lift_bind]
  refine ⟨fun _ _ => Moves.refl w, fun task hchecked => ?_⟩
  refine Within.coo_bind (onOutside_coo _ w) fun _ w' hcoo => ?_
  rw [ensures_lift_bind]
  refine ⟨fun _ _ => Moves.refl w', fun _ _ => ?_⟩
  refine Within.write_bind (hcoo ▸ Write.complete hchecked) ?_
  refine Within.bind (within_emit context _) fun _ w'' => ?_
  rw [ensures_readCoo_bind]
  exact Within.forM (fun _ => within_refreshTaskReadiness context _) _ w''

theorem within_recordFailure (context : WorkspaceContext) (taskId : EntityId)
    (failureCode : String) :
    Within governance (.recordFailure context taskId failureCode)
      (recordFailure governance context taskId failureCode) := by
  intro w
  unfold recordFailure
  rw [ensures_readCoo_bind, ensures_lift_bind]
  refine ⟨fun _ _ => Moves.refl w, fun task hchecked => ?_⟩
  exact Within.write_bind (Write.fail hchecked)
    (Within.bind (within_emit context _) fun _ => Within.pure _)

/-- **The writes of a label.** Whatever a label returns or throws, the world it leaves is one it
moves to. -/
theorem perform_moves (call : Call ω σ) (w : World ω σ) :
    Moves governance call w (perform governance call w).2 := by
  have hfactory : ∀ {α : Type} (x : Factory.Op σ α) (f : α → Answer),
      Within governance call (do return f (← onFactory x)) := fun x f =>
    Within.bind (fun w => (onFactory_coo x w).mono fun _ _ hw => Moves.of_coo hw)
      fun _ => Within.pure _
  show Ensures (answer governance call) w (fun _ w' => Moves governance call w w')
  cases call with
  | createPlan context plan =>
    exact Within.bind (within_createPlan governance context plan) (fun _ => Within.pure _) w
  | requestAssignment context request =>
    exact Within.bind (within_requestAssignment governance context request)
      (fun _ => Within.pure _) w
  | recordUsage context taskId costMinorUnits computeUnits =>
    exact Within.bind (within_recordUsage governance context taskId costMinorUnits computeUnits)
      (fun _ => Within.pure _) w
  | completeTask context taskId evidence =>
    exact Within.bind (within_completeTask governance context taskId evidence)
      (fun _ => Within.pure _) w
  | recordFailure context taskId failureCode =>
    exact Within.bind (within_recordFailure governance context taskId failureCode)
      (fun _ => Within.pure _) w
  | instantiate context request =>
    exact hfactory _ (fun p : FactoryAgent × AgentFactoryDecision => .agent p.1 p.2) w
  | outsideChanged outside => exact Moves.of_coo ⟨rfl, rfl⟩
  | sinkChanged sink => exact Moves.of_coo ⟨rfl, rfl⟩
  | _ => exact hfactory _ (fun _ => .done) w

/-- What every write of a call keeps, the call keeps. -/
theorem Writes.preserves {call : Call ω σ} {I : GovernedAiCoo → Prop}
    (keep : ∀ coo coo', Write governance call coo coo' → I coo → I coo')
    {coo' : GovernedAiCoo} (h : Writes governance call coo coo') (init : I coo) : I coo' := by
  induction h with
  | refl => exact init
  | tail _ hwrite ih => exact keep _ _ hwrite ih

/-- **Invariants of the COO.** What holds of the empty COO and is kept by every write holds in every
reachable state. -/
theorem reach_invariant {I : GovernedAiCoo → Prop} (init : I .empty)
    (keep : ∀ call coo coo', Write governance call coo coo' → I coo → I coo')
    (outside : ω) (sink : σ) (calls : List (Call ω σ)) :
    I (reach governance outside sink calls).coo := by
  refine run_induction (P := fun w : World ω σ => I w.coo) _ init (fun pre call hI => ?_) calls
  exact Writes.preserves governance (keep call) (perform_moves governance call _).writes hI

end VentureOS.Coo
