import VentureOS.Coo.Wakeups

/-! # Emissions of the AI COO into an event log

What the COO announces is fixed by what it has just stored: `Publication` is one announcement or one
decision card, and each call has its list of them. `Publication.accept` decides, from the clock and
identifier readings and the event log alone, whether a publication is accepted and what it leaves
behind; running the publications of a list one after the other is accepted exactly if
`acceptAll` is (`emitAll_accept`). -/

namespace VentureOS.Coo

open ControlPlane Program Factory

/-- A COO that reports to an in-memory event log, with a factory that reports to the same log if it
reports at all. -/
structure LoggedGovernance (ω : Type) extends Governance ω EventLog where
  dateParse : String → Option Int
  capability : OperationalEventCapability
  logged : toGovernance.eventSink = some (EventLog.sink dateParse, capability)
  factoryLogged : ∀ sink factoryCapability,
    toGovernance.factory.eventSink = some (sink, factoryCapability) →
      sink = EventLog.batchSink dateParse

variable {ω : Type} (governance : LoggedGovernance ω) (context : WorkspaceContext)

/-! ## Publications -/

/-- What an emission reads: the readings taken so far, the identifiers used and the log. -/
structure Outlet where
  clockReads : Nat
  idReads : Nat
  eventIds : Finset EntityId
  log : EventLog

/-- The part of a world that emissions read. -/
def World.outlet (w : World ω EventLog) : Outlet :=
  ⟨w.clockReads, w.idReads, w.coo.eventIds, w.sink⟩

/-- What a call makes known: an announcement or the decision card of a level-4 task. -/
inductive Publication where
  | event (announcement : Announcement)
  | card (task : CooTask)

/-- Make a publication known. -/
def Publication.emit : Publication → Op ω EventLog Unit
  | .event announcement => Coo.emit governance.toGovernance context announcement
  | .card task => createLevelFourCard governance.toGovernance context task

/-- What a publication leaves behind, if it is accepted: its identifier is a text not used before, its
time is within the calendar, and the log accepts the event. -/
def Publication.accept : Publication → Outlet → Option Outlet
  | .event announcement, outlet => do
    let id := governance.idFactory outlet.idReads
    guard (PrintableText id ∧ id ∉ outlet.eventIds)
    let occurredAt ← toISOString (governance.clock outlet.clockReads)
    let event := operationalEvent context id occurredAt announcement
    (EventLog.checkBatch governance.dateParse outlet.log governance.capability context [] [] [event]).toOption
    return {
      clockReads := outlet.clockReads + 1
      idReads := outlet.idReads + 1
      eventIds := insert id outlet.eventIds
      log := outlet.log.write event }
  | .card _, outlet => do
    let _ ← toISOString (governance.clock outlet.clockReads + 24 * 60 * 60 * 1000)
    return { outlet with clockReads := outlet.clockReads + 1 }

/-- What a list of publications leaves behind, if all are accepted. -/
def acceptAll : List Publication → Outlet → Option Outlet
  | [], outlet => some outlet
  | publication :: rest, outlet => (publication.accept governance context outlet).bind (acceptAll rest)

/-- The publications of a new plan. -/
def planPublications (plan : ObjectivePlan) : List Publication :=
  .event (objectiveAnnouncement plan.objective) ::
    (plan.projects.map (fun project =>
        Publication.event (projectAnnouncement plan.objective project))
      ++ plan.tasks.flatMap fun task =>
        .event (aboutTask task .taskCreated (titleLength task.title)) ::
          .event (standingAnnouncement task) ::
            if task.requiredAuthority.val = 4 then [.card task] else [])

variable {governance context}

theorem isoTime_eq_ok {now : Int} {text : String} :
    isoTime now = .ok text ↔ toISOString now = some text := by
  unfold isoTime
  split
  next h => simp [h]
  next h => simp [h]

/-- A time that cannot be written. -/
theorem toISOString_of_isoTime_error {now : Int} {e : Failure} (h : isoTime now = .error e) :
    toISOString now = none := by
  unfold isoTime at h
  split at h
  · cases h
  · assumption

/-- The body of an emission succeeds exactly if the event is accepted. -/
theorem publish_accept (announcement : Announcement) (w : World ω EventLog) :
    Ensures (publish governance.toGovernance context announcement) w (fun r w' =>
      match (Publication.event announcement).accept governance context w.outlet with
      | some outlet => r = .ok () ∧ w'.outlet = outlet
      | none => (∃ e, r = .error e) ∧ w'.sink = w.sink) := by
  unfold publish
  rw [ensures_readId_bind, ensures_lift_bind]
  refine ⟨fun e he => ?_, fun _ hid => ?_⟩
  · have hnot : ¬ PrintableText (governance.idFactory w.idReads) := by
      simp only [boundedText, throwIf_eq_error] at he
      exact he.1
    simp [Publication.accept, World.outlet, guard, hnot]
  rw [boundedText_eq_ok] at hid
  rw [ensures_readCoo_bind, ensures_lift_bind]
  refine ⟨fun e he => ?_, fun _ hnew => ?_⟩
  · rw [throwIf_eq_error] at he
    simp [Publication.accept, World.outlet, guard, he.1]
  rw [throwIf_eq_ok] at hnew
  have hguard : PrintableText (governance.idFactory w.idReads)
      ∧ governance.idFactory w.idReads ∉ w.coo.eventIds := ⟨hid, hnew⟩
  rw [ensures_readClock_bind, ensures_lift_bind]
  refine ⟨fun e he => ?_, fun occurredAt htime => ?_⟩
  · have hnone := toISOString_of_isoTime_error he
    simp only at hnone
    simp [Publication.accept, World.outlet, guard, hguard, hnone]
  rw [isoTime_eq_ok] at htime
  simp only at htime
  rw [governance.logged]
  show Ensures (onSink _ >>= _) _ _
  rw [ensures_bind, onSink, ensures_focus]
  refine ((EventLog.append_decided governance.dateParse governance.capability context
    (operationalEvent context (governance.idFactory w.idReads) occurredAt announcement)
    w.sink).and (EventLog.append_spec governance.dateParse governance.capability context _ _)).mono
      fun r log hlog => ?_
  obtain ⟨hdecided, hwritten⟩ := hlog
  cases r with
  | error e =>
    simp [Publication.accept, World.outlet, guard, hguard, htime, ← hdecided, hwritten, Except.toOption]
  | ok u =>
    obtain ⟨-, -, hwritten⟩ := hwritten
    show Ensures (writeCoo _) _ _
    rw [ensures_writeCoo]
    simp [Publication.accept, World.outlet, guard, hguard, htime, ← hdecided, hwritten,
      Except.toOption, GovernedAiCoo.record, cooEvent]

/-- **One publication.** It is made known exactly if it is accepted; a refused one leaves the fields of
the COO, the factory and the log as they were. -/
theorem emit_accept (publication : Publication) (w : World ω EventLog) :
    Ensures (publication.emit governance context) w (fun r w' =>
      SameGraph w.coo w'.coo ∧ w'.factory = w.factory ∧
      match publication.accept governance context w.outlet with
      | some outlet => r = .ok () ∧ w'.outlet = outlet ∧ w'.refusals = w.refusals
      | none => (∃ e, r = .error e) ∧ w'.coo = w.coo ∧ w'.sink = w.sink) := by
  cases publication with
  | event announcement =>
    show Ensures (Coo.emit governance.toGovernance context announcement) w _
    have hgraph := announces_emit governance.toGovernance context announcement w
    have hkept := emit_spec governance.toGovernance context announcement w
    have haccept : Ensures (Coo.emit governance.toGovernance context announcement) w (fun r w' =>
        match (Publication.event announcement).accept governance context w.outlet with
        | some outlet => r = .ok () ∧ w'.outlet = outlet
        | none => (∃ e, r = .error e) ∧ w'.sink = w.sink) := by
      unfold Coo.emit
      rw [ensures_tryCatch]
      refine (publish_accept announcement w).mono fun r w' hw => ?_
      cases hacc : (Publication.event announcement).accept governance context w.outlet with
      | some outlet =>
        rw [hacc] at hw
        obtain ⟨rfl, hw⟩ := hw
        exact ⟨rfl, hw⟩
      | none =>
        rw [hacc] at hw
        obtain ⟨⟨e, rfl⟩, hw⟩ := hw
        exact ⟨⟨e, rfl⟩, hw⟩
    refine (hgraph.and (hkept.and haccept)).mono fun r w' hw => ?_
    obtain ⟨hsame, ⟨hfactory, hr⟩, hacc⟩ := hw
    refine ⟨hsame, hfactory, ?_⟩
    cases hnone : (Publication.event announcement).accept governance context w.outlet with
    | some outlet =>
      rw [hnone] at hacc
      obtain ⟨rfl, hout⟩ := hacc
      exact ⟨rfl, hout, hr.1⟩
    | none =>
      rw [hnone] at hacc
      obtain ⟨⟨e, rfl⟩, hsink⟩ := hacc
      exact ⟨⟨e, rfl⟩, hr.2, hsink⟩
  | card task =>
    show Ensures (createLevelFourCard governance.toGovernance context task) w _
    unfold createLevelFourCard
    rw [ensures_readClock_bind, ensures_lift_bind]
    refine ⟨fun e he => ?_, fun expiresAt htime => ?_⟩
    · have hnone := toISOString_of_isoTime_error he
      simp only [Int.reduceMul] at hnone
      simp [Publication.accept, World.outlet, hnone, SameGraph.refl]
    · rw [isoTime_eq_ok] at htime
      simp only [Int.reduceMul] at htime
      rw [ensures_writeCoo]
      refine ⟨⟨rfl, rfl, rfl, rfl, rfl⟩, rfl, ?_⟩
      simp [Publication.accept, World.outlet, htime]

/-- **A list of publications** is made known exactly if all of them are accepted. -/
theorem emitAll_accept (publications : List Publication) (w : World ω EventLog) :
    Ensures (forM publications (Publication.emit governance context)) w (fun r w' =>
      SameGraph w.coo w'.coo ∧ w'.factory = w.factory ∧
      match acceptAll governance context publications w.outlet with
      | some outlet => r = .ok () ∧ w'.outlet = outlet ∧ w'.refusals = w.refusals
      | none => ∃ e, r = .error e) := by
  induction publications generalizing w with
  | nil => exact ⟨SameGraph.refl _, rfl, rfl, rfl, rfl⟩
  | cons publication rest ih =>
    rw [List.forM_cons, ensures_bind]
    refine (emit_accept publication w).mono fun r w₁ hw₁ => ?_
    obtain ⟨hsame, hfactory, hr⟩ := hw₁
    simp only [acceptAll]
    cases hacc : publication.accept governance context w.outlet with
    | none =>
      rw [hacc] at hr
      obtain ⟨⟨e, rfl⟩, -⟩ := hr
      exact ⟨hsame, hfactory, e, rfl⟩
    | some outlet =>
      rw [hacc] at hr
      obtain ⟨rfl, hout, hrefusals⟩ := hr
      refine (ih w₁).mono fun r w₂ hw₂ => ?_
      obtain ⟨hsame', hfactory', hr'⟩ := hw₂
      rw [hout] at hr'
      refine ⟨hsame.trans hsame', hfactory'.trans hfactory, ?_⟩
      rw [Option.bind_some]
      cases hrest : acceptAll governance context rest outlet with
      | none =>
        rw [hrest] at hr'
        exact hr'
      | some outlet' =>
        rw [hrest] at hr'
        exact ⟨hr'.1, hr'.2.1, hr'.2.2.trans hrefusals⟩

/-- The announcements of a plan are its publications. -/
theorem announcePlan_eq (plan : ObjectivePlan) :
    announcePlan governance.toGovernance context plan
      = forM (planPublications plan) (Publication.emit governance context) := by
  unfold announcePlan planPublications
  rw [List.forM_cons, List.forM_append, List.forM_map, forM_flatMap]
  refine congrArg _ (funext fun _ => congrArg _ (funext fun _ => ?_))
  refine congrArg _ (funext fun task => ?_)
  rw [List.forM_cons, List.forM_cons]
  refine congrArg _ (funext fun _ => congrArg _ (funext fun _ => ?_))
  split
  · rw [List.forM_cons, List.forM_nil, bind_pure_unit]
    rfl
  · rfl

end VentureOS.Coo
