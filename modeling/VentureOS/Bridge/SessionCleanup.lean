import VentureOS.Bridge.ProcessSession

/-! # The cleanup of process sessions

What the coordinator keeps of an execution is its id, and the session that was opened for it. Both go with the
cleanup: the id is released, the close port of the session is invoked once, and its streams are destroyed.

The cleanup is a piece of its own, and reads the clock itself. When a session is not closed in time, or not with an
exit that is accepted, or when a stream cannot be destroyed, the error leaves `finally` before the id is released;
when no time is left, the close port is not even invoked. In the runs in which every cleanup goes well, nothing is
left behind. -/

namespace VentureOS.Bridge

open ReplayMemory

/-- An execution that has settled. -/
def SessionPoint.isSettled : SessionPoint → Bool
  | .denied _ | .returned => true
  | _ => false

/-- Nothing is left of the executions that have settled. -/
structure BookkeepingReleased (pool : Pool SessionMemory SessionCall) : Prop where
  /-- When no call is pending, no id is in use. -/
  active : (∀ call ∈ pool.calls, call.point.isSettled = true) → pool.shared.active = []
  /-- A session that was validated has been asked to close once, and its streams are destroyed. -/
  sessions : ∀ call ∈ pool.calls, call.point.isSettled = true → .validated ∈ call.events →
    call.events.count .closeInvoked = 1 ∧ .stdinDestroyed ∈ call.events ∧ .stdoutDestroyed ∈ call.events

/-! ## Ids -/

/-- One for an execution that holds this id. -/
def holdWeight (id : String) (call : SessionCall) : Nat :=
  if call.point.holds = true then [sessionKey call.input.triple].count id else 0

variable {point : SessionPoint}

theorem holdWeight_of_not (id : String) (input : OwnedProcessInput)
    (events : List SessionEvent) (h : point.holds = false) : holdWeight id ⟨input, point, events⟩ = 0 := by
  rw [holdWeight, h]
  rfl

theorem holdWeight_eq (id : String) (input : OwnedProcessInput) {point' : SessionPoint}
    (events events' : List SessionEvent) (h : point.holds = point'.holds) :
    holdWeight id ⟨input, point, events⟩ = holdWeight id ⟨input, point', events'⟩ := by
  rw [holdWeight, holdWeight, h]

theorem count_release_self (memory : SessionMemory) (id : String) : (memory.release id).active.count id = 0 := by
  rw [List.count_eq_zero, release, List.mem_filter]
  simp

theorem count_release_le (memory : SessionMemory) (id id' : String) :
    (memory.release id').active.count id ≤ memory.active.count id :=
  List.filter_sublist.count_le id

/-- A piece takes an id for its execution only, and an execution that goes on without its id has released it, or
its cleanup has failed. -/
theorem SessionPiece.held {reply : SessionReply} {input : OwnedProcessInput} {memory : SessionMemory}
    {piece : SessionShown × SessionMemory × SessionPoint} (id : String)
    (events events' : List SessionEvent) (h : SessionPiece reply input memory point piece)
    (hcleanup : CleanupHolds reply input point) :
    piece.2.1.active.count id = 0 ∨ piece.2.1.active.count id + holdWeight id ⟨input, point, events⟩
      ≤ memory.active.count id + holdWeight id ⟨input, piece.2.2, events'⟩ := by
  have released : ∀ point', (memory.release (sessionKey input.triple)).active.count id = 0
      ∨ (memory.release (sessionKey input.triple)).active.count id + holdWeight id ⟨input, point, events⟩
        ≤ memory.active.count id + holdWeight id ⟨input, point', events'⟩ := by
    intro point'
    by_cases hid : sessionKey input.triple = id
    · rw [hid]
      exact Or.inl (count_release_self memory id)
    · have hnone : holdWeight id ⟨input, point, events⟩ = 0 := by
        rw [holdWeight, List.count_singleton, beq_false_of_ne hid]
        simp
      have hle := count_release_le memory id (sessionKey input.triple)
      exact Or.inr (by omega)
  have kept : ∀ point', point.holds = point'.holds →
      memory.active.count id + holdWeight id ⟨input, point, events⟩
        ≤ memory.active.count id + holdWeight id ⟨input, point', events'⟩ := by
    intro point' hsame
    rw [holdWeight_eq id input events events' hsame]
  cases h with
  | idle => exact Or.inr (kept point rfl)
  | passed hbefore hafter =>
    rw [holdWeight_of_not id input events hbefore]
    exact Or.inr (Nat.le_add_right _ _)
  | refused e hcheck =>
    rename_i x refusal purged
    have hpurged := check_of_refused (congrArg Prod.fst hcheck)
    rw [hcheck] at hpurged
    refine Or.inr ?_
    rw [holdWeight_of_not id input events rfl]
    show purged.active.count id + 0 ≤ _
    rw [show purged = memory.purge x.now from hpurged, active_purge]
    exact Nat.le_add_right _ _
  | admitted htag hcheck =>
    rename_i x remembered
    have hremembered := check_of_admitted (congrArg Prod.fst hcheck)
    rw [hcheck] at hremembered
    have hactive : remembered.active = sessionKey input.triple :: memory.active := by
      rw [show remembered = _ from hremembered, htag]
    refine Or.inr ?_
    rw [holdWeight_of_not id input events rfl]
    show remembered.active.count id + 0 ≤ memory.active.count id + [sessionKey input.triple].count id
    rw [hactive, List.count_cons, List.count_singleton]
    omega
  | opened => exact Or.inr (kept .opening rfl)
  | validated => exact Or.inr (kept .running rfl)
  | closing terminal => exact Or.inr (kept (.closing terminal) rfl)
  | abandoned e hpoint => exact released _
  | exited hafter => exact released _
  | left e events'' hpoint hfailed => exact absurd hcleanup hfailed

/-! ## Sessions -/

/-- What has happened to the session of an execution, as far as it has come. -/
def EventsAt : SessionPoint → List SessionEvent → Prop
  | .authenticating, events | .claiming, events | .opening, events => events = []
  | .running, events => events = [.validated]
  | .closing _, events => events = [.validated, .closeInvoked]
  | _, events => events = [] ∨ events = [.validated, .closeInvoked, .stdinDestroyed, .stdoutDestroyed]

theorem eventsAt_of_past {events : List SessionEvent} (h : point.isPast = true) :
    EventsAt point events
      ↔ events = [] ∨ events = [.validated, .closeInvoked, .stdinDestroyed, .stdoutDestroyed] := by
  cases point <;> first | exact Iff.rfl | cases h

theorem eventsAt_of_begin (sha256 : String → String) (start : SessionStart) :
    EventsAt (beginSession sha256 start) [] := by
  have hbegin := beginSession_holds sha256 start
  generalize beginSession sha256 start = point at hbegin
  cases point with
  | authenticating => exact rfl
  | completing | reporting | denied e | returned => exact Or.inl rfl
  | claiming | opening | running | closing terminal => cases hbegin

/-- A piece goes on with the session where the last one has left it. -/
theorem SessionPiece.eventsAt {reply : SessionReply} {input : OwnedProcessInput} {memory : SessionMemory}
    {piece : SessionShown × SessionMemory × SessionPoint} {events : List SessionEvent}
    (h : SessionPiece reply input memory point piece) (hcleanup : CleanupHolds reply input point)
    (hevents : EventsAt point events) : EventsAt piece.2.2 (events ++ piece.1.events) := by
  cases h with
  | idle =>
    rw [show SessionShown.nothing.events = [] from rfl, List.append_nil]
    exact hevents
  | @passed _ point' hbefore hafter =>
    rw [show SessionShown.nothing.events = [] from rfl, List.append_nil, eventsAt_of_past hafter]
    cases point with
    | authenticating => exact Or.inl hevents
    | completing | reporting | denied e | returned => exact hevents
    | claiming | opening | running | closing terminal => cases hbefore
  | refused e hcheck =>
    rw [show events = [] from hevents]
    exact Or.inl rfl
  | admitted htag hcheck | opened | validated | closing terminal =>
    rw [show events = _ from hevents]
    exact rfl
  | abandoned e hpoint =>
    rcases hpoint with rfl | rfl
    · rw [show events = [] from hevents]
      exact Or.inl rfl
    · rw [show events = [] from hevents]
      exact Or.inl rfl
  | @exited terminal point' hafter =>
    rw [show events = [.validated, .closeInvoked] from hevents]
    exact (eventsAt_of_past hafter).mpr (Or.inr rfl)
  | left e events'' hpoint hfailed => exact absurd hcleanup hfailed

/-! ## Runs -/

/-- **Nothing is left behind** in a run in which every cleanup goes well. -/
theorem bookkeeping_released (sha256 : String → String) (moves : List (Move SessionStart SessionReply))
    (hcleanup : (processSessionCoordinator sha256).EachResume
      (fun reply call _ => CleanupHolds reply call.input call.point) empty moves) :
    BookkeepingReleased ((processSessionCoordinator sha256).pool empty moves) := by
  constructor
  · intro hsettled
    rw [List.eq_nil_iff_forall_not_mem]
    intro id hid
    have hheld := (processSessionCoordinator sha256).held (holdWeight id) (fun memory => memory.active.count id)
      rfl
      (fun start memory => Nat.le_add_right _ _)
      (fun reply call memory hholds =>
        (sessionPiece_resume reply call.input call.point memory).held id _ _ hholds) hcleanup
    have hnothing : CallSystem.weigh (holdWeight id) ((processSessionCoordinator sha256).pool empty moves).calls
        = 0 := by
      refine CallSystem.weigh_eq_zero fun call hcall => ?_
      have hpast : call.point.isPast = true := by
        have h := hsettled call hcall
        cases hpoint : call.point <;> rw [hpoint] at h <;> first | rfl | cases h
      exact holdWeight_of_not id call.input call.events (SessionPoint.not_holds hpast)
    exact absurd (List.count_pos_iff.mpr hid) (by omega)
  · intro call hcall hsettled hvalidated
    have hinvariant := (processSessionCoordinator sha256).invariant_where
      (I := fun _ => True) (L := fun _ call => EventsAt call.point call.events) trivial
      (fun start memory _ => ⟨trivial, eventsAt_of_begin sha256 start, fun _ h => h⟩)
      (fun reply call memory hholds _ hevents => ⟨trivial,
        (sessionPiece_resume reply call.input call.point memory).eventsAt hholds hevents, fun _ h => h⟩) hcleanup
    have hevents := hinvariant.2 call hcall
    have hpast : call.point.isPast = true := by
      cases hpoint : call.point <;> rw [hpoint] at hsettled <;> first | rfl | cases hsettled
    rcases (eventsAt_of_past hpast).mp hevents with hnone | hall
    · rw [hnone] at hvalidated
      cases hvalidated
    · rw [hall]
      decide

namespace Sample

variable (sha256 : String → String)

/-- An execution whose session has been asked to close, and the answer. -/
def closedWith (closed : Except SessionError CloseResult) : List (Move SessionStart SessionReply) :=
  let reply := fun answer => Move.resume 0 (SessionReply.mk answer (fun _ => some 0) ⟨true, true⟩)
  [.start ⟨ownedInput sha256, none, some 0, false⟩, reply (.done (.ok ())), reply (.done (.ok ())),
    reply (.opened (.ok ⟨binding sha256, true⟩)), reply (.terminal (.error .other)), reply (.closed closed)]

variable {sha256} (hdigest : ∀ s, Durable.sha256Pattern (sha256 s) = true)
include hdigest

/-- The execution while its session is asked to close. -/
theorem pool_closing (closed : Except SessionError CloseResult) :
    (processSessionCoordinator sha256).pool empty (closedWith sha256 closed).dropLast
        = ⟨claimed, [⟨ownedInput sha256, .closing (.error .other), [.validated, .closeInvoked]⟩]⟩
      ∧ (processSessionCoordinator sha256).EachResume
          (fun reply call _ => CleanupHolds reply call.input call.point) empty (closedWith sha256 closed).dropLast := by
  let coordinator := processSessionCoordinator sha256
  have hfirst : (empty : SessionMemory).check sessionKey maxTrackedDispatches (claimAt 0) = (.ok (), claimed) := rfl
  have hempty : coordinator.pool empty [] = ⟨empty, []⟩ := rfl
  have hlive : CleanupHolds ⟨.terminal (.error .other), fun _ => some 0, ⟨true, true⟩⟩ (ownedInput sha256)
      .running := fun _ _ => ⟨0, rfl, show (0 : Int) < 60000 by decide⟩
  have hall := coordinator.eachResume_nil (fun reply call _ => CleanupHolds reply call.input call.point) empty
  obtain ⟨-, hpool⟩ := coordinator.start_last hempty (start_owned hdigest empty)
  replace hall := hall.start ⟨ownedInput sha256, none, some 0, false⟩
  replace hall := hall.resume (i := 0) (t := ⟨ownedInput sha256, .authenticating, []⟩)
    (r := ⟨.done (.ok ()), fun _ => some 0, ⟨true, true⟩⟩) hpool rfl trivial
  obtain ⟨-, hpool⟩ := coordinator.resume_at (i := 0)
    (r := ⟨.done (.ok ()), fun _ => some 0, ⟨true, true⟩⟩) hpool rfl
    (resume_owned [] (claimSession_admitted sha256 hfirst))
  replace hall := hall.resume (i := 0) (t := ⟨ownedInput sha256, .claiming, []⟩)
    (r := ⟨.done (.ok ()), fun _ => some 0, ⟨true, true⟩⟩) hpool rfl trivial
  obtain ⟨-, hpool⟩ := coordinator.resume_at (i := 0) hpool rfl
    (resume_owned _ (resumeSession_claimed sha256 (fun _ => some 0) ⟨true, true⟩ claimed))
  replace hall := hall.resume (i := 0) (t := ⟨ownedInput sha256, .opening, []⟩)
    (r := ⟨.opened (.ok ⟨binding sha256, true⟩), fun _ => some 0, ⟨true, true⟩⟩) hpool rfl trivial
  obtain ⟨-, hpool⟩ := coordinator.resume_at (i := 0) hpool rfl
    (resume_owned _ (resumeSession_opened ⟨true, true⟩ claimed (fun _ => some 0) (opened_ok hdigest)))
  replace hall := hall.resume (i := 0) (t := ⟨ownedInput sha256, .running, [.validated]⟩)
    (r := ⟨.terminal (.error .other), fun _ => some 0, ⟨true, true⟩⟩) hpool rfl hlive
  obtain ⟨-, hpool⟩ := coordinator.resume_at (i := 0) hpool rfl
    (resume_owned _ (resumeSession_terminal sha256 ⟨true, true⟩ (.error .other) claimed))
  exact ⟨hpool, hall⟩

/-- A session that is closed in time. -/
theorem closed_holds : (processSessionCoordinator sha256).EachResume
    (fun reply call _ => CleanupHolds reply call.input call.point) empty
    (closedWith sha256 (.ok (exit sha256))) := by
  obtain ⟨hpool, hall⟩ := pool_closing hdigest (.ok (exit sha256))
  refine hall.resume hpool (i := 0) rfl fun closed hanswer => ?_
  cases hanswer
  exact ⟨rfl, exit sha256, rfl, 0, rfl, exit_ok hdigest⟩

omit hdigest in
theorem resumeSession_rejected (input : OwnedProcessInput) (clock : Nat → Option Int) (memory : SessionMemory) :
    resumeSession ⟨.closed (.error .other), clock, ⟨true, true⟩⟩ input (.closing (.error .other)) memory
      = (⟨[], [], [], [.stdinDestroyed, .stdoutDestroyed]⟩, memory, .denied (.session .CLEANUP_FAILED)) := rfl

/-- A session whose close port rejects. -/
theorem pool_rejected :
    (processSessionCoordinator sha256).pool empty (closedWith sha256 (.error .other))
      = ⟨claimed, [⟨ownedInput sha256, .denied (.session .CLEANUP_FAILED),
          [.validated, .closeInvoked, .stdinDestroyed, .stdoutDestroyed]⟩]⟩ := by
  obtain ⟨hpool, -⟩ := pool_closing hdigest (.error .other)
  exact ((processSessionCoordinator sha256).resume_at (i := 0) hpool rfl
    (resume_owned _ (resumeSession_rejected (ownedInput sha256) (fun _ => some 0) claimed))).2

end Sample

open Sample in
/-- An execution that has closed its session. -/
theorem bookkeeping_released_closed :
    BookkeepingReleased ((processSessionCoordinator textDigest).pool empty
      (closedWith textDigest (.ok (exit textDigest)))) :=
  bookkeeping_released textDigest _ (closed_holds textDigest_digest)

open Sample in
/-- The close port rejects, and the id stays in use for ever. -/
theorem bookkeeping_not_released :
    ¬ BookkeepingReleased ((processSessionCoordinator textDigest).pool empty
      (closedWith textDigest (.error .other))) := by
  intro hreleased
  have hactive := hreleased.active
  rw [pool_rejected textDigest_digest] at hactive
  cases hactive fun call hcall => by
    rw [List.mem_singleton.mp hcall]
    rfl

end VentureOS.Bridge
