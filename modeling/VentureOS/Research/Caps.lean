import VentureOS.Research.Acquisition

/-! # The caps of a workspace

What bounds the runs of `acquisition-runner.ts`, over every interleaving of its calls.

A run is created under the lock, when the limits allow it. Afterwards its status changes once, by the call that has
created it. So what counts for the costs only loses runs, when they fail; and what counts for the rate only loses those
whose operation was not started.

A failed run does not count for the costs, whether its operation was started or not. So the caps bound the costs of the
runs that are reserved or have succeeded (`researchCaps`), and not those of all operations (`started_exceeds`). -/

namespace VentureOS.Research

open CallSystem

/-! ## What is known of a call -/

/-- The operation of the provider for this run was started. -/
def AcquisitionState.Started (s : AcquisitionState) (id : Nat) : Prop :=
  ∃ operation ∈ s.operations, operation.runId = id

/-- A run has ended, with an artifact exactly when it has succeeded. -/
def DataAcquisitionRun.Ended (run : DataAcquisitionRun) (evidenceArtifacts : List EvidenceArtifact) : Prop :=
  (run.status = .SUCCEEDED ∧ ∃ id, run.evidenceArtifactId = some id ∧ id < evidenceArtifacts.length)
    ∨ ((run.status = .FAILED ∨ run.status = .BLOCKED_POLICY) ∧ run.evidenceArtifactId = none)

/-- A call has a run, which is reserved for its contract. -/
def Holds (call : AcquisitionCall) (s : AcquisitionState) (p : Nat → DataAcquisitionRun → Prop) : Prop :=
  ∃ id run, call.reservedRunId = some id ∧ s.runs[id]? = some run ∧ run.status = .RESERVED
    ∧ run.contractId = call.contractId ∧ run.evidenceArtifactId = none ∧ p id run

/-- What is known of a call where it waits. -/
def Known (s : AcquisitionState) (call : AcquisitionCall) : Prop :=
  match call.point with
  | .recording status _ => call.reservedRunId = none ∧ status.runs = false
  | .enforcingLast contract => Holds call s fun id run => run.costEur = contract.costPerRunEurEstimate ∧ ¬s.Started id
  | .dispatching contract => Holds call s fun _ run => run.costEur = contract.costPerRunEurEstimate
  | .persisting contract _ => Holds call s fun _ run => run.costEur = contract.costPerRunEurEstimate
  | .releasing policyDenied => Holds call s fun id _ => policyDenied = true → ¬s.Started id
  | .failing => Holds call s fun _ _ => True
  | .reporting _ => ∀ id, call.reservedRunId = some id → ∃ run, s.runs[id]? = some run ∧ run.Ended s.evidenceArtifacts
  | .returned _ => ∀ id, call.reservedRunId = some id → ∃ run, s.runs[id]? = some run ∧ run.Ended s.evidenceArtifacts
  | .thrown => ∀ id, call.reservedRunId = some id → ∃ run, s.runs[id]? = some run ∧ run.Ended s.evidenceArtifacts
  | _ => call.reservedRunId = none

/-! ## What a step does -/

variable {s s' : AcquisitionState} {call call' : AcquisitionCall} {run : DataAcquisitionRun}

variable {status : RunStatus}

section Calls

variable {toFixed : ℚ → String} {numberText : ℚ → String} {sanitizeUntrustedContent : String → SanitizeResult}
  {config : ResearchCostCapConfig} {rateLimitPerMinute : String → Option Int}

/-- What a step of a call does to the rows. -/
inductive AcquisitionChange (config : ResearchCostCapConfig) (rateLimitPerMinute : String → Option Int)
    (call : AcquisitionCall) (s s' : AcquisitionState) (call' : AcquisitionCall) : Prop where
  | same (hruns : s'.runs = s.runs) (hoperations : s'.operations = s.operations)
      (hartifacts : s'.evidenceArtifacts = s.evidenceArtifacts) (howned : call'.reservedRunId = call.reservedRunId)
  | blocked (status : RunStatus) (blockedReason : String) (createdAt : Int) (hstatus : status.runs = false)
      (hruns : s'.runs = s.runs ++ [blockedRun call.contractId status blockedReason createdAt])
      (hoperations : s'.operations = s.operations) (hartifacts : s'.evidenceArtifacts = s.evidenceArtifacts)
      (howned : call'.reservedRunId = call.reservedRunId)
  | reserved (clock : Clock) (contract : DataAcquisitionContract)
      (hreserve : reserve config rateLimitPerMinute call.contractId clock s = .reserved contract)
      (hruns : s'.runs = s.runs ++ [reservedRun call.contractId contract.costPerRunEurEstimate clock.createdAt])
      (hoperations : s'.operations = s.operations) (hartifacts : s'.evidenceArtifacts = s.evidenceArtifacts)
      (howned : call'.reservedRunId = some s.runs.length)
  | started (id : Nat) (run : DataAcquisitionRun) (startedAt : Int) (hown : call.reservedRunId = some id) (hat : s.runs[id]? = some run)
      (hstatus : run.status = .RESERVED) (hcontract : run.contractId = call.contractId) (hnew : ¬s.Started id)
      (hruns : s'.runs = s.runs) (hoperations : s'.operations = s.operations ++ [⟨id, call.contractId, startedAt⟩])
      (hartifacts : s'.evidenceArtifacts = s.evidenceArtifacts) (howned : call'.reservedRunId = call.reservedRunId)
  | ended (id : Nat) (run run' : DataAcquisitionRun) (hown : call.reservedRunId = some id)
      (hat : s.runs[id]? = some run) (hstatus : run.status = .RESERVED) (hruns : s'.runs = s.runs.set id run')
      (hcontract : run'.contractId = run.contractId) (hcreated : run'.createdAt = run.createdAt)
      (hcost : run'.costEur = run.costEur) (hended : run'.Ended s'.evidenceArtifacts)
      (hstarted : run'.status = .BLOCKED_POLICY → ¬s.Started id) (hoperations : s'.operations = s.operations)
      (hartifacts : s.evidenceArtifacts.length ≤ s'.evidenceArtifacts.length)
      (howned : call'.reservedRunId = call.reservedRunId)

theorem reserve_blocked {contractId : String} {clock : Clock} {blockedReason : String}
    (h : reserve config rateLimitPerMinute contractId clock s = .blocked status blockedReason) :
    status.runs = false := by
  unfold reserve at h
  split at h
  · cases h
  · split at h
    · split at h
      · cases h
        rfl
      · split at h
        · cases h
          rfl
        · cases h
    · cases h

/-- A run is reserved only when the limits allow it. -/
theorem reserve_reserved {contractId : String} {clock : Clock}
    {contract : DataAcquisitionContract}
    (h : reserve config rateLimitPerMinute contractId clock s = .reserved contract) :
    (∀ limit, rateLimitPerMinute contractId = some limit → (recentCount contractId clock.countedAt s.runs : Int) < limit)
      ∧ contract.costPerRunEurEstimate.eur ≤ config.perRunLimitEur
      ∧ spentToday clock.addedAt s.runs + contract.costPerRunEurEstimate.eur ≤ config.perWorkspaceDayLimitEur := by
  unfold reserve at h
  split at h
  · cases h
  next currentContract hcontract =>
    split at h
    · split at h
      · cases h
      next hrate =>
        split at h
        · cases h
        next hcaps =>
          cases h
          refine ⟨fun limit hlimit => ?_, ?_⟩
          · rw [hlimit, Option.filter_eq_none_iff] at hrate
            have hnot := hrate limit rfl
            rw [decide_eq_true_eq] at hnot
            exact Int.not_le.mp hnot
          · unfold assertWithinResearchCostCaps at hcaps
            split at hcaps
            · cases hcaps
            next hrun =>
              split at hcaps
              · cases hcaps
              next hday => exact ⟨not_lt.mp hrun, not_lt.mp hday⟩
    · cases h

/-- What `updateMany` does to a reserved run. -/
theorem endRun_of_reserved {id : Nat}
    (hown : call.reservedRunId = some id) (hat : s.runs[id]? = some run) (hstatus : run.status = .RESERVED)
    (status : RunStatus) (blockedReason : String) :
    s.endRun call.reservedRunId status blockedReason
      = { s with runs := s.runs.set id { run with status, blockedReason := some blockedReason } } := by
  unfold AcquisitionState.endRun
  rw [hown]
  simp only [hat, hstatus, if_true]

/-- The run of a call that holds it becomes this, by `updateMany`. -/
theorem AcquisitionChange.of_endRun
    {p : Nat → DataAcquisitionRun → Prop} (hholds : Holds call s p) (blockedReason : String)
    (hstatus : status = .FAILED ∨ status = .BLOCKED_POLICY)
    (hstarted : ∀ id run, p id run → status = .BLOCKED_POLICY → ¬s.Started id)
    (howned : call'.reservedRunId = call.reservedRunId) :
    AcquisitionChange config rateLimitPerMinute call s (s.endRun call.reservedRunId status blockedReason) call' := by
  obtain ⟨id, run, hown, hat, hreserved, -, hartifact, hp⟩ := hholds
  rw [endRun_of_reserved hown hat hreserved]
  exact .ended id run _ hown hat hreserved rfl rfl rfl rfl (.inr ⟨hstatus, hartifact⟩) (hstarted id run hp) rfl
    (Nat.le_refl _) howned

/-- A step of a call does one of these. -/
theorem resumeAcquisition_change (reply : AcquisitionReply) {call : AcquisitionCall} {s : AcquisitionState}
    (hknown : Known s call) :
    AcquisitionChange config rateLimitPerMinute call s
      (resumeAcquisition toFixed numberText sanitizeUntrustedContent config rateLimitPerMinute reply call s).1
      (resumeAcquisition toFixed numberText sanitizeUntrustedContent config rateLimitPerMinute reply call s).2 := by
  unfold Known at hknown
  fun_cases resumeAcquisition toFixed numberText sanitizeUntrustedContent config rateLimitPerMinute reply call s
  case case6 status blockedReason clock hpoint result =>
    rw [hpoint] at hknown
    exact .blocked status blockedReason clock.createdAt hknown.2 rfl rfl rfl rfl
  case case13 clock hpoint status blockedReason hreserve =>
    exact .blocked status blockedReason clock.createdAt (reserve_blocked hreserve) rfl rfl rfl rfl
  case case14 clock hpoint contract hreserve => exact .reserved clock contract hreserve rfl rfl rfl rfl
  case case18 contract clock hpoint id hid =>
    rw [hpoint] at hknown
    obtain ⟨id', run, hown, hat, hreserved, hcontract, -, -, hnew⟩ := hknown
    rw [hid, Option.some.injEq] at hown
    subst hown
    exact .started id run clock.createdAt hid hat hreserved hcontract hnew rfl rfl rfl rfl
  case case24 policyDenied _ hpoint =>
    rw [hpoint] at hknown
    cases policyDenied with
    | true => exact .of_endRun hknown _ (.inr rfl) (fun _ _ hnew _ => hnew rfl) rfl
    | false => exact .of_endRun hknown _ (.inl rfl) (fun _ _ _ h => (nomatch h)) rfl
  case case25 contract raw _ hpoint id hid run hat s' result hpersist =>
    rw [hpoint] at hknown
    obtain ⟨id', run', hown, hat', hreserved, hcontract, -, hcost⟩ := hknown
    rw [hid, Option.some.injEq] at hown
    subst hown
    rw [hat, Option.some.injEq] at hat'
    subst hat'
    unfold persist at hpersist
    cases hpersist
    refine .ended id run _ hid hat hreserved rfl rfl rfl hcost.symm (.inl ⟨rfl, _, rfl, ?_⟩) (fun h => (nomatch h)) rfl ?_
      rfl
    · simp
    · simp
  case case29 hpoint =>
    rw [hpoint] at hknown
    exact .of_endRun hknown _ (.inl rfl) (fun _ _ _ h => (nomatch h)) rfl
  all_goals exact .same rfl rfl rfl rfl

/-- What is known of its own call stays known. -/
theorem Known.resume (reply : AcquisitionReply) {call : AcquisitionCall} {s : AcquisitionState}
    (hknown : Known s call) (hbound : ∀ id, s.Started id → id < s.runs.length) :
    Known (resumeAcquisition toFixed numberText sanitizeUntrustedContent config rateLimitPerMinute reply call s).1
      (resumeAcquisition toFixed numberText sanitizeUntrustedContent config rateLimitPerMinute reply call s).2 := by
  have hbefore := hknown
  unfold Known at hknown
  have none_ended : ∀ {evidenceArtifacts : List EvidenceArtifact} {runs : List DataAcquisitionRun},
      call.reservedRunId = none → ∀ id, call.reservedRunId = some id →
        ∃ run, runs[id]? = some run ∧ run.Ended evidenceArtifacts := by
    intro _ _ hnone id hid
    rw [hnone] at hid
    cases hid
  -- where the call has ended its run
  have ended : ∀ {p : Nat → DataAcquisitionRun → Prop} (status : RunStatus) (blockedReason : String),
      Holds call s p → (status = .FAILED ∨ status = .BLOCKED_POLICY) →
      Known (s.endRun call.reservedRunId status blockedReason) (call.goTo .thrown) := by
    rintro p status blockedReason ⟨id, run, hown, hat, hreserved, -, hartifact, -⟩ hstatus
    rw [endRun_of_reserved hown hat hreserved]
    intro id' hid'
    rw [show call.reservedRunId = some id' from hid', Option.some.injEq] at hown
    subst hown
    exact ⟨_, List.getElem?_set_self (List.getElem?_eq_some_iff.mp hat).1, .inr ⟨hstatus, hartifact⟩⟩
  fun_cases resumeAcquisition toFixed numberText sanitizeUntrustedContent config rateLimitPerMinute reply call s
  case case6 status blockedReason clock hpoint result =>
    rw [hpoint] at hknown
    cases status <;> exact none_ended hknown.1
  case case13 hpoint _ _ _ =>
    rw [hpoint] at hknown
    exact none_ended hknown
  case case14 clock hpoint contract hreserve =>
    exact ⟨s.runs.length, _, rfl, List.getElem?_concat_length, rfl, rfl, rfl, rfl,
      fun hstarted => Nat.lt_irrefl _ (hbound _ hstarted)⟩
  case case18 contract _ hpoint id hid =>
    rw [hpoint] at hknown
    obtain ⟨id', run, hown, hat, hreserved, hcontract, hartifact, hcost, -⟩ := hknown
    exact ⟨id', run, hown, hat, hreserved, hcontract, hartifact, hcost⟩
  case case19 hpoint hnone =>
    exact none_ended hnone
  case case20 hpoint =>
    rw [hpoint] at hknown
    obtain ⟨id, run, hown, hat, hreserved, hcontract, hartifact, -, hnew⟩ := hknown
    exact ⟨id, run, hown, hat, hreserved, hcontract, hartifact, fun _ => hnew⟩
  case case21 hpoint =>
    rw [hpoint] at hknown
    obtain ⟨id, run, hown, hat, hreserved, hcontract, hartifact, -, hnew⟩ := hknown
    exact ⟨id, run, hown, hat, hreserved, hcontract, hartifact, fun _ => hnew⟩
  case case22 hpoint =>
    rw [hpoint] at hknown
    exact hknown
  case case23 hpoint =>
    rw [hpoint] at hknown
    obtain ⟨id, run, hown, hat, hreserved, hcontract, hartifact, -⟩ := hknown
    exact ⟨id, run, hown, hat, hreserved, hcontract, hartifact, fun h => (nomatch h)⟩
  case case24 policyDenied _ hpoint =>
    rw [hpoint] at hknown
    cases policyDenied with
    | true => exact ended _ _ hknown (.inr rfl)
    | false => exact ended _ _ hknown (.inl rfl)
  case case25 contract raw _ hpoint id hid run hat s' result hpersist =>
    unfold persist at hpersist
    cases hpersist
    intro id' hid'
    rw [show call.reservedRunId = some id' from hid', Option.some.injEq] at hid
    subst hid
    refine ⟨_, List.getElem?_set_self (List.getElem?_eq_some_iff.mp hat).1, .inl ⟨rfl, _, rfl, ?_⟩⟩
    simp
  case case26 hpoint id hid hat =>
    rw [hpoint] at hknown
    obtain ⟨id', run, hown, hat', -⟩ := hknown
    rw [hid, Option.some.injEq] at hown
    subst hown
    rw [hat] at hat'
    cases hat'
  case case27 hpoint hnone => exact none_ended hnone
  case case28 hpoint =>
    rw [hpoint] at hknown
    obtain ⟨id, run, hown, hat, hreserved, hcontract, hartifact, -⟩ := hknown
    exact ⟨id, run, hown, hat, hreserved, hcontract, hartifact, trivial⟩
  case case29 hpoint =>
    rw [hpoint] at hknown
    exact ended _ _ hknown (.inl rfl)
  case case30 hpoint =>
    rw [hpoint] at hknown
    exact hknown
  case case37 =>
    cases hpoint : call.point with
    | recording status blockedReason =>
      rw [hpoint] at hknown
      exact none_ended hknown.1
    | _ =>
      rw [hpoint] at hknown
      -- a call that holds its run does not end here
      first
      | exact none_ended hknown
      | exact hknown
      | cases reply <;> simp_all
  case case31 => exact hbefore
  case case32 => exact hbefore
  case case33 => exact hbefore
  case case34 => exact hbefore
  case case35 => exact hbefore
  case case36 => exact hbefore
  all_goals rw [‹call.point = _›] at hknown
  all_goals first
    | exact hknown
    | exact none_ended hknown
    | exact ⟨hknown, rfl⟩

/-- A run that a call does not hold stays. -/
theorem AcquisitionChange.frame
    (h : AcquisitionChange config rateLimitPerMinute call s s' call') {id : Nat}
    (hat : s.runs[id]? = some run) (hown : call.reservedRunId ≠ some id) : s'.runs[id]? = some run := by
  have hbound := (List.getElem?_eq_some_iff.mp hat).1
  cases h with
  | same hruns => rw [hruns, hat]
  | blocked status blockedReason createdAt _ hruns => rw [hruns, List.getElem?_append_left hbound, hat]
  | reserved clock contract _ hruns => rw [hruns, List.getElem?_append_left hbound, hat]
  | started id' run' _ _ _ _ _ _ hruns => rw [hruns, hat]
  | ended id' run' run'' hown' _ _ hruns =>
    have hne : id' ≠ id := by
      rintro rfl
      exact hown hown'
    rw [hruns, List.getElem?_set_ne hne, hat]

/-- The operation of a run that a call does not hold is not started. -/
theorem AcquisitionChange.not_started
    (h : AcquisitionChange config rateLimitPerMinute call s s' call') {id : Nat} (hnot : ¬s.Started id)
    (hown : call.reservedRunId ≠ some id) : ¬s'.Started id := by
  unfold AcquisitionState.Started at hnot ⊢
  cases h with
  | same _ hoperations => rwa [hoperations]
  | blocked _ _ _ _ _ hoperations => rwa [hoperations]
  | reserved _ _ _ _ hoperations => rwa [hoperations]
  | ended _ _ _ _ _ _ _ _ _ _ _ _ hoperations => rwa [hoperations]
  | started id' run startedAt hown' _ _ _ _ _ hoperations =>
    rw [hoperations]
    rintro ⟨operation, hmem, hid⟩
    rcases List.mem_append.mp hmem with hold | hnew
    · exact hnot ⟨operation, hold, hid⟩
    · rw [List.mem_singleton.mp hnew] at hid
      exact hown (hid ▸ hown')

theorem AcquisitionChange.artifacts_le
    (h : AcquisitionChange config rateLimitPerMinute call s s' call') :
    s.evidenceArtifacts.length ≤ s'.evidenceArtifacts.length := by
  cases h with
  | same _ _ hartifacts => exact Nat.le_of_eq (by rw [hartifacts])
  | blocked _ _ _ _ _ _ hartifacts => exact Nat.le_of_eq (by rw [hartifacts])
  | reserved _ _ _ _ _ hartifacts => exact Nat.le_of_eq (by rw [hartifacts])
  | started _ _ _ _ _ _ _ _ _ _ hartifacts => exact Nat.le_of_eq (by rw [hartifacts])
  | ended _ _ _ _ _ _ _ _ _ _ _ _ _ hartifacts => exact hartifacts

theorem DataAcquisitionRun.Ended.mono {run : DataAcquisitionRun} {artifacts artifacts' : List EvidenceArtifact}
    (h : run.Ended artifacts) (hle : artifacts.length ≤ artifacts'.length) : run.Ended artifacts' := by
  rcases h with ⟨hstatus, id, hid, hbound⟩ | hended
  · exact .inl ⟨hstatus, id, hid, Nat.lt_of_lt_of_le hbound hle⟩
  · exact .inr hended

/-- What is known of another call stays known. -/
theorem Known.frame {other : AcquisitionCall}
    (h : AcquisitionChange config rateLimitPerMinute call s s' call') (hother : Known s other)
    (hown : ∀ id, other.reservedRunId = some id → call.reservedRunId ≠ some id) : Known s' other := by
  have holds : ∀ {p p' : Nat → DataAcquisitionRun → Prop}, Holds other s p →
      (∀ id run, other.reservedRunId = some id → p id run → p' id run) → Holds other s' p' := by
    rintro p p' ⟨id, run, hid, hat, hreserved, hcontract, hartifact, hp⟩ himp
    exact ⟨id, run, hid, h.frame hat (hown id hid), hreserved, hcontract, hartifact, himp id run hid hp⟩
  have ended : (∀ id, other.reservedRunId = some id → ∃ run, s.runs[id]? = some run ∧ run.Ended s.evidenceArtifacts) →
      ∀ id, other.reservedRunId = some id → ∃ run, s'.runs[id]? = some run ∧ run.Ended s'.evidenceArtifacts := by
    intro hbefore id hid
    obtain ⟨run, hat, hended⟩ := hbefore id hid
    exact ⟨run, h.frame hat (hown id hid), hended.mono h.artifacts_le⟩
  unfold Known at hother ⊢
  cases hpoint : other.point with
  | enforcingLast contract =>
    rw [hpoint] at hother
    exact holds hother fun id run hid hp => ⟨hp.1, h.not_started hp.2 (hown id hid)⟩
  | dispatching contract =>
    rw [hpoint] at hother
    exact holds hother fun _ _ _ hp => hp
  | persisting contract raw =>
    rw [hpoint] at hother
    exact holds hother fun _ _ _ hp => hp
  | releasing policyDenied =>
    rw [hpoint] at hother
    exact holds hother fun id run hid hp hdenied => h.not_started (hp hdenied) (hown id hid)
  | failing =>
    rw [hpoint] at hother
    exact holds hother fun _ _ _ hp => hp
  | reporting result =>
    rw [hpoint] at hother
    exact ended hother
  | returned result =>
    rw [hpoint] at hother
    exact ended hother
  | thrown =>
    rw [hpoint] at hother
    exact ended hother
  | _ =>
    rw [hpoint] at hother
    exact hother

/-! ## What holds of the rows -/

/-- A run of a day that counts for the costs. -/
def DataAcquisitionRun.spendsOn (run : DataAcquisitionRun) (day : Int) : Bool :=
  decide (utcDay run.createdAt = day) && run.status.spends

/-- A run for the contract in the minute from a time that counts for the rate. -/
def DataAcquisitionRun.inMinute (run : DataAcquisitionRun) (contractId : String) (time : Int) : Bool :=
  decide (run.contractId = contractId) && run.status.runs
    && decide (time ≤ run.createdAt ∧ run.createdAt < time + 60000)

/-- What holds of the rows. -/
structure RowsKept (config : ResearchCostCapConfig) (rateLimitPerMinute : String → Option Int) (s : AcquisitionState) :
    Prop where
  day : ∀ day, totalCost (·.spendsOn day) s.runs ≤ max 0 config.perWorkspaceDayLimitEur
  perRun : ∀ run ∈ s.runs, run.status.runs = true → run.costEur.eur ≤ config.perRunLimitEur
  rate : ∀ contractId limit, rateLimitPerMinute contractId = some limit →
    ∀ time, s.runs.countP (·.inMinute contractId time) ≤ limit.toNat
  started : ∀ operation ∈ s.operations, ∃ run, s.runs[operation.runId]? = some run
    ∧ run.contractId = operation.contractId ∧ run.status.runs = true
  once : (s.operations.map (·.runId)).Nodup

theorem startOfDay_le {now createdAt day : Int} (hnow : now ≤ createdAt) (hday : utcDay createdAt = day)
    {before : Int} (hbefore : utcDay before = day) : startOfDay now ≤ before := by
  unfold startOfDay utcDay at *
  omega

/-- What is spent on a day in which a run is created has been counted. -/
theorem spendsOn_le_spentToday {clock : Clock} {day : Int} (hday : utcDay clock.createdAt = day)
    (runs : List DataAcquisitionRun) : totalCost (·.spendsOn day) runs ≤ spentToday clock.addedAt runs := by
  refine Rows.sumWhere_mono (fun run _ => run.costEur.nonneg) fun run _ hspends => ?_
  obtain ⟨hcreated, hspends⟩ := Bool.and_eq_true_iff.mp hspends
  rw [Bool.and_eq_true]
  exact ⟨decide_eq_true (startOfDay_le clock.added_le hday (of_decide_eq_true hcreated)), hspends⟩

/-- The runs of a minute in which a run is created have been counted. -/
theorem inMinute_le_recentCount {clock : Clock} {contractId : String} {time : Int}
    (htime : time ≤ clock.createdAt ∧ clock.createdAt < time + 60000) (runs : List DataAcquisitionRun) :
    runs.countP (·.inMinute contractId time) ≤ recentCount contractId clock.countedAt runs := by
  refine List.countP_mono_left fun run _ hrun => ?_
  unfold DataAcquisitionRun.inMinute at hrun
  rw [Bool.and_eq_true] at hrun ⊢
  refine ⟨hrun.1, decide_eq_true ?_⟩
  have hbefore := of_decide_eq_true hrun.2
  have hcounted := clock.counted_le
  omega

theorem spends_of_runs_false (h : status.runs = false) : status.spends = false := by
  cases status <;> first | rfl | cases h

/-- A run that has ended counts only if it has succeeded or failed. -/
theorem DataAcquisitionRun.Ended.runs {artifacts : List EvidenceArtifact}
    (h : run.Ended artifacts) (hpolicy : run.status ≠ .BLOCKED_POLICY) : run.status.runs = true := by
  rcases h with ⟨hstatus, -⟩ | ⟨hfailed | hblocked, -⟩
  · rw [hstatus]
    rfl
  · rw [hfailed]
    rfl
  · exact absurd hblocked hpolicy

theorem RowsKept.blocked (h : RowsKept config rateLimitPerMinute s)
    (hstatus : run.status.runs = false) (hruns : s'.runs = s.runs ++ [run]) (hoperations : s'.operations = s.operations) :
    RowsKept config rateLimitPerMinute s' := by
  refine ⟨fun day => ?_, fun r hr hruns' => ?_, fun contractId limit hlimit time => ?_, fun operation hmem => ?_, ?_⟩
  · have hnot : ¬run.spendsOn day = true := by
      unfold DataAcquisitionRun.spendsOn
      rw [spends_of_runs_false hstatus, Bool.and_false]
      exact Bool.false_ne_true
    unfold totalCost
    rw [hruns, Rows.sumWhere_concat, if_neg hnot, add_zero]
    exact h.day day
  · rw [hruns] at hr
    rcases List.mem_append.mp hr with hold | hnew
    · exact h.perRun r hold hruns'
    · rw [List.mem_singleton.mp hnew, hstatus] at hruns'
      cases hruns'
  · have hnot : ¬run.inMinute contractId time = true := by
      unfold DataAcquisitionRun.inMinute
      rw [hstatus, Bool.and_false, Bool.false_and]
      exact Bool.false_ne_true
    rw [hruns, List.countP_append, List.countP_singleton, if_neg hnot]
    exact h.rate contractId limit hlimit time
  · rw [hoperations] at hmem
    obtain ⟨r, hat, hr⟩ := h.started operation hmem
    exact ⟨r, by rw [hruns, List.getElem?_append_left (List.getElem?_eq_some_iff.mp hat).1, hat], hr⟩
  · rw [hoperations]
    exact h.once

/-- A run is reserved within the limits. -/
theorem RowsKept.reserved {s s' : AcquisitionState} (h : RowsKept config rateLimitPerMinute s) {contractId : String}
    {clock : Clock} {contract : DataAcquisitionContract}
    (hreserve : reserve config rateLimitPerMinute contractId clock s = .reserved contract)
    (hruns : s'.runs = s.runs ++ [reservedRun contractId contract.costPerRunEurEstimate clock.createdAt])
    (hoperations : s'.operations = s.operations) : RowsKept config rateLimitPerMinute s' := by
  obtain ⟨hrate, hperRun, hday⟩ := reserve_reserved hreserve
  refine ⟨fun day => ?_, fun r hr hruns' => ?_, fun contractId' limit hlimit time => ?_, fun operation hmem => ?_, ?_⟩
  · unfold totalCost
    rw [hruns, Rows.sumWhere_concat]
    split
    next hspends =>
      have hcreated := of_decide_eq_true (Bool.and_eq_true_iff.mp hspends).1
      have hcounted := spendsOn_le_spentToday hcreated s.runs
      exact le_max_of_le_right ((add_le_add_left hcounted _).trans hday)
    next =>
      rw [add_zero]
      exact h.day day
  · rw [hruns] at hr
    rcases List.mem_append.mp hr with hold | hnew
    · exact h.perRun r hold hruns'
    · rw [List.mem_singleton.mp hnew]
      exact hperRun
  · rw [hruns, List.countP_append, List.countP_singleton]
    split
    next hminute =>
      unfold DataAcquisitionRun.inMinute at hminute
      rw [Bool.and_eq_true, Bool.and_eq_true] at hminute
      obtain ⟨⟨hcontract, -⟩, htime⟩ := hminute
      have hsame : contractId = contractId' := of_decide_eq_true hcontract
      subst hsame
      have hcounted := @inMinute_le_recentCount clock contractId time (of_decide_eq_true htime) s.runs
      have hlt := hrate limit hlimit
      omega
    next => exact h.rate contractId' limit hlimit time
  · rw [hoperations] at hmem
    obtain ⟨r, hat, hr⟩ := h.started operation hmem
    exact ⟨r, by rw [hruns, List.getElem?_append_left (List.getElem?_eq_some_iff.mp hat).1, hat], hr⟩
  · rw [hoperations]
    exact h.once

/-- A run ends. -/
theorem RowsKept.ended {s s' : AcquisitionState} (h : RowsKept config rateLimitPerMinute s) {id : Nat}
    {run run' : DataAcquisitionRun} (hat : s.runs[id]? = some run) (hstatus : run.status = .RESERVED)
    (hruns : s'.runs = s.runs.set id run') (hcontract : run'.contractId = run.contractId)
    (hcreated : run'.createdAt = run.createdAt) (hcost : run'.costEur = run.costEur)
    (hended : run'.Ended s'.evidenceArtifacts) (hstarted : run'.status = .BLOCKED_POLICY → ¬s.Started id)
    (hoperations : s'.operations = s.operations) : RowsKept config rateLimitPerMinute s' := by
  have hcounts : run.status.runs = true := by
    rw [hstatus]
    rfl
  have hspends : run.status.spends = true := by
    rw [hstatus]
    rfl
  refine ⟨fun day => ?_, fun r hr hruns' => ?_, fun contractId limit hlimit time => ?_, fun operation hmem => ?_, ?_⟩
  · unfold totalCost
    rw [hruns]
    refine (Rows.sumWhere_set_le hat run.costEur.nonneg fun hspends' => ⟨?_, by rw [hcost]⟩).trans (h.day day)
    unfold DataAcquisitionRun.spendsOn at hspends' ⊢
    rw [Bool.and_eq_true] at hspends' ⊢
    exact ⟨hcreated ▸ hspends'.1, hspends⟩
  · rw [hruns] at hr
    rcases List.mem_or_eq_of_mem_set hr with hold | rfl
    · exact h.perRun r hold hruns'
    · rw [hcost]
      exact h.perRun run (List.mem_of_getElem? hat) hcounts
  · rw [hruns]
    refine (Rows.countP_set_le hat fun hminute => ?_).trans (h.rate contractId limit hlimit time)
    unfold DataAcquisitionRun.inMinute at hminute ⊢
    rw [Bool.and_eq_true, Bool.and_eq_true] at hminute ⊢
    exact ⟨⟨hcontract ▸ hminute.1.1, hcounts⟩, hcreated ▸ hminute.2⟩
  · rw [hoperations] at hmem
    obtain ⟨r, hat', hsame, hr⟩ := h.started operation hmem
    by_cases hne : id = operation.runId
    · subst hne
      rw [hat, Option.some.injEq] at hat'
      subst hat'
      refine ⟨run', by rw [hruns, List.getElem?_set_self (List.getElem?_eq_some_iff.mp hat).1], hcontract.trans hsame, ?_⟩
      exact hended.runs fun hpolicy => hstarted hpolicy ⟨operation, hmem, rfl⟩
    · exact ⟨r, by rw [hruns, List.getElem?_set_ne hne, hat'], hsame, hr⟩
  · rw [hoperations]
    exact h.once

/-- **A step keeps what holds of the rows.** -/
theorem RowsKept.change
    (h : RowsKept config rateLimitPerMinute s) (hchange : AcquisitionChange config rateLimitPerMinute call s s' call') :
    RowsKept config rateLimitPerMinute s' := by
  cases hchange with
  | same hruns hoperations =>
    refine ⟨?_, ?_, ?_, ?_, ?_⟩
    · rw [hruns]
      exact h.day
    · rw [hruns]
      exact h.perRun
    · rw [hruns]
      exact h.rate
    · rw [hruns, hoperations]
      exact h.started
    · rw [hoperations]
      exact h.once
  | blocked status blockedReason createdAt hstatus hruns hoperations => exact h.blocked hstatus hruns hoperations
  | reserved clock contract hreserve hruns hoperations => exact h.reserved hreserve hruns hoperations
  | ended id run run' hown hat hstatus hruns hcontract hcreated hcost hended hstarted hoperations =>
    exact h.ended hat hstatus hruns hcontract hcreated hcost hended hstarted hoperations
  | started id run startedAt hown hat hstatus hcontract hnew hruns hoperations =>
    refine ⟨?_, ?_, ?_, fun operation hmem => ?_, ?_⟩
    · rw [hruns]
      exact h.day
    · rw [hruns]
      exact h.perRun
    · rw [hruns]
      exact h.rate
    · rw [hoperations] at hmem
      rw [hruns]
      rcases List.mem_append.mp hmem with hold | hlast
      · exact h.started operation hold
      · rw [List.mem_singleton.mp hlast]
        exact ⟨run, hat, hcontract, by rw [hstatus]; rfl⟩
    · rw [hoperations, List.map_append, List.map_singleton, List.nodup_append]
      refine ⟨h.once, List.pairwise_singleton _ _, fun id' hid other hother => ?_⟩
      rw [List.mem_singleton.mp hother]
      rintro rfl
      obtain ⟨operation, hmem, rfl⟩ := List.mem_map.mp hid
      exact hnew ⟨operation, hmem, rfl⟩

/-! ## All calls -/

theorem started_lt (h : RowsKept config rateLimitPerMinute s) (id : Nat) (hid : s.Started id) :
    id < s.runs.length := by
  obtain ⟨operation, hmem, rfl⟩ := hid
  obtain ⟨run, hat, -⟩ := h.started operation hmem
  exact (List.getElem?_eq_some_iff.mp hat).1

/-- A call has a run that was created. -/
theorem Known.reserved_lt (h : Known s call) {id : Nat}
    (hid : call.reservedRunId = some id) : id < s.runs.length := by
  have holds : ∀ {p : Nat → DataAcquisitionRun → Prop}, Holds call s p → id < s.runs.length := by
    rintro p ⟨id', run, hid', hat, -⟩
    rw [hid, Option.some.injEq] at hid'
    subst hid'
    exact (List.getElem?_eq_some_iff.mp hat).1
  have ended : (∀ id, call.reservedRunId = some id → ∃ run, s.runs[id]? = some run ∧ run.Ended s.evidenceArtifacts) →
      id < s.runs.length := by
    intro hended
    obtain ⟨run, hat, -⟩ := hended id hid
    exact (List.getElem?_eq_some_iff.mp hat).1
  unfold Known at h
  split at h
  · rw [hid] at h
    cases h.1
  · exact holds h
  · exact holds h
  · exact holds h
  · exact holds h
  · exact holds h
  · exact ended h
  · exact ended h
  · exact ended h
  · rw [hid] at h
    cases h

/-- A step of a call leaves it with its run, or with a new one. -/
theorem AcquisitionChange.owned
    (h : AcquisitionChange config rateLimitPerMinute call s s' call') (id : Nat) (hid : call'.reservedRunId = some id) :
    call.reservedRunId = some id ∨ ¬id < s.runs.length := by
  cases h with
  | same _ _ _ howned => exact .inl (howned ▸ hid)
  | blocked _ _ _ _ _ _ _ howned => exact .inl (howned ▸ hid)
  | started _ _ _ _ _ _ _ _ _ _ _ howned => exact .inl (howned ▸ hid)
  | ended _ _ _ _ _ _ _ _ _ _ _ _ _ _ howned => exact .inl (howned ▸ hid)
  | reserved clock contract _ _ _ _ howned =>
    rw [howned, Option.some.injEq] at hid
    exact .inr (hid ▸ Nat.lt_irrefl _)

/-- A workspace with these contracts, and nothing else. -/
def emptyWorkspace (contracts : String → Option DataAcquisitionContract) : AcquisitionState := ⟨contracts, [], [], [], []⟩

theorem rowsKept_empty (contracts : String → Option DataAcquisitionContract) :
    RowsKept config rateLimitPerMinute (emptyWorkspace contracts) where
  day _ := le_max_left _ _
  perRun _ hr := absurd hr List.not_mem_nil
  rate _ _ _ _ := Nat.zero_le _
  started _ hmem := absurd hmem List.not_mem_nil
  once := List.nodup_nil

variable (toFixed numberText sanitizeUntrustedContent config rateLimitPerMinute) in
/-- The workspace, and the calls, after any moves. -/
def afterMoves (contracts : String → Option DataAcquisitionContract)
    (moves : List (Move AcquisitionStart AcquisitionReply)) : Pool AcquisitionState AcquisitionCall :=
  (acquisitions toFixed numberText sanitizeUntrustedContent config rateLimitPerMinute).pool (emptyWorkspace contracts) moves

/-- **The rows and the calls, after any moves.** -/
theorem kept_after (contracts : String → Option DataAcquisitionContract)
    (moves : List (Move AcquisitionStart AcquisitionReply)) {p : Pool AcquisitionState AcquisitionCall}
    (hp : p = afterMoves toFixed numberText sanitizeUntrustedContent config rateLimitPerMinute contracts moves) :
    RowsKept config rateLimitPerMinute p.shared ∧ ∀ call ∈ p.calls, Known p.shared call := by
  subst hp
  have h := @invariant_owned _ _ _ _ _
    (acquisitions toFixed numberText sanitizeUntrustedContent config rateLimitPerMinute) Nat
    AcquisitionCall.reservedRunId (fun s id => id < s.runs.length) (RowsKept config rateLimitPerMinute) Known
    (emptyWorkspace contracts) (rowsKept_empty contracts) (fun s call id hknown hid => hknown.reserved_lt hid) ?_ ?_ moves
  · exact ⟨h.1, h.2.1⟩
  · intro start s hrows
    cases start with
    | run contractId simulateInjectionAttempt => exact ⟨hrows, rfl, rfl, fun _ hother => hother⟩
    | changeContract contractId contract =>
      have hchange : AcquisitionChange config rateLimitPerMinute ⟨contractId, false, none, .thrown⟩ s
          { s with contracts := Function.update s.contracts contractId contract } ⟨contractId, false, none, .thrown⟩ :=
        .same rfl rfl rfl rfl
      exact ⟨hrows.change hchange, fun id hid => (nomatch hid), rfl,
        fun other hother => hother.frame hchange fun id _ hid => (nomatch hid)⟩
  · intro reply call s hrows hknown
    have hchange := @resumeAcquisition_change toFixed numberText sanitizeUntrustedContent config rateLimitPerMinute reply
      call s hknown
    exact ⟨hrows.change hchange, hknown.resume reply (started_lt hrows), hchange.owned,
      fun other hother hown => hother.frame hchange hown⟩

/-- A call has ended. -/
def AcquisitionCall.ended (call : AcquisitionCall) : Bool :=
  match call.point with
  | .returned _ => true
  | .thrown => true
  | _ => false

theorem Known.ended {s : AcquisitionState} {call : AcquisitionCall} (h : Known s call) (hended : call.ended = true)
    (id : Nat) (hid : call.reservedRunId = some id) : ∃ run, s.runs[id]? = some run ∧ run.Ended s.evidenceArtifacts := by
  unfold Known at h
  unfold AcquisitionCall.ended at hended
  cases hpoint : call.point with
  | returned result =>
    rw [hpoint] at h
    exact h id hid
  | thrown =>
    rw [hpoint] at h
    exact h id hid
  | _ =>
    rw [hpoint] at hended
    cases hended

/-- How many operations were started for runs of the contract that were created in the minute from a time. -/
def AcquisitionState.startedIn (s : AcquisitionState) (contractId : String) (time : Int) : Nat :=
  s.operations.countP fun operation => decide (operation.contractId = contractId) && (s.runs[operation.runId]?).any fun run =>
    decide (time ≤ run.createdAt ∧ run.createdAt < time + 60000)

/-- The operations of a minute are for different runs that count for the rate. -/
theorem startedIn_le (h : RowsKept config rateLimitPerMinute s) (contractId : String)
    (time : Int) : s.startedIn contractId time ≤ s.runs.countP (·.inMinute contractId time) := by
  refine le_trans ?_ (Rows.countP_places_le h.once)
  rw [List.countP_map]
  refine List.countP_mono_left fun operation hoperation hstarted => ?_
  obtain ⟨run, hat, hcontract, hruns⟩ := h.started operation hoperation
  rw [Bool.and_eq_true] at hstarted
  simp only [hat, Option.any_some, Function.comp_apply] at hstarted ⊢
  unfold DataAcquisitionRun.inMinute
  rw [Bool.and_eq_true, Bool.and_eq_true]
  exact ⟨⟨decide_eq_true (hcontract.trans (of_decide_eq_true hstarted.1)), hruns⟩, hstarted.2⟩

/-- **The caps of a workspace.** The runs of a day that are reserved or have succeeded cost no more than the cap of a
day, and a run whose operation was started is one of these or has failed, and costs no more than the cap of a run. No
more operations than the limit of a contract are started for runs of one minute. A run of a call that has ended has a
final status, and an artifact exactly when it has succeeded. -/
theorem researchCaps (toFixed : ℚ → String) (numberText : ℚ → String)
    (sanitizeUntrustedContent : String → SanitizeResult) (config : ResearchCostCapConfig)
    (rateLimitPerMinute : String → Option Int) (contracts : String → Option DataAcquisitionContract)
    (moves : List (Move AcquisitionStart AcquisitionReply)) :
    let p := afterMoves toFixed numberText sanitizeUntrustedContent config rateLimitPerMinute contracts moves
    (∀ day, totalCost (·.spendsOn day) p.shared.runs ≤ max 0 config.perWorkspaceDayLimitEur)
      ∧ (∀ operation ∈ p.shared.operations, ∃ run, p.shared.runs[operation.runId]? = some run
        ∧ run.contractId = operation.contractId ∧ run.costEur.eur ≤ config.perRunLimitEur
        ∧ (run.status.spends = true ∨ run.status = .FAILED))
      ∧ (∀ contractId limit, rateLimitPerMinute contractId = some limit →
        ∀ time, p.shared.startedIn contractId time ≤ limit.toNat)
      ∧ ∀ call ∈ p.calls, call.ended = true → ∀ id, call.reservedRunId = some id →
        ∃ run, p.shared.runs[id]? = some run ∧ run.Ended p.shared.evidenceArtifacts := by
  intro p
  obtain ⟨hrows, hknown⟩ :=
    @kept_after toFixed numberText sanitizeUntrustedContent config rateLimitPerMinute contracts moves p rfl
  refine ⟨hrows.day, fun operation hmem => ?_, fun contractId limit hlimit time => ?_, fun call hcall hended id hid => ?_⟩
  · obtain ⟨run, hat, hcontract, hruns⟩ := hrows.started operation hmem
    refine ⟨run, hat, hcontract, hrows.perRun run (List.mem_of_getElem? hat) hruns, ?_⟩
    generalize run.status = status at hruns
    cases status
    all_goals first | exact .inl rfl | exact .inr rfl | cases hruns
  · exact (startedIn_le hrows contractId time).trans (hrows.rate contractId limit hlimit time)
  · exact (hknown call hcall).ended hended id hid

end Calls

/-! ## Operations that fail, and operations that wait -/

/-- The costs of all runs of a day whose operation was started. -/
def AcquisitionState.startedCost (s : AcquisitionState) (day : Int) : ℚ :=
  totalCost (fun run => decide (utcDay run.createdAt = day))
    (s.operations.filterMap fun operation => s.runs[operation.runId]?)

/-- A contract whose runs cost one. -/
def paidContract : DataAcquisitionContract :=
  ⟨"Prices", "OFFICIAL_API", "OFFICIAL_API", ["read"], "FAIL_CLOSED", false, none, ⟨1, by decide⟩⟩

/-- Something completes at a time. -/
def completesAt (time : Int) : AcquisitionReply := .completes ⟨time, time, time, Int.le_refl time, Int.le_refl time⟩

/-- A call that is started, and goes on so many times. -/
def goesOn (call times : Nat) (time : Int) : List (Move AcquisitionStart AcquisitionReply) :=
  .start (.run "contract" false) :: List.replicate times (.resume call (completesAt time))

def oneADay : ResearchCostCapConfig := ⟨1, 1⟩

/-- A workspace that may spend one a day, after two calls: the first operation has failed. -/
def failedFirst : Pool AcquisitionState AcquisitionCall :=
  afterMoves (fun _ => "") (fun _ => "") (fun text => ⟨text, false, []⟩) oneADay (fun _ => none)
    (fun _ => some paidContract)
    (goesOn 0 6 0 ++ [.resume 0 .throws, .resume 0 (completesAt 0)] ++ goesOn 1 6 0)

/-- A contract with one run a minute: the first call waits for a minute when its run is created. -/
def waitedFirst : Pool AcquisitionState AcquisitionCall :=
  afterMoves (fun _ => "") (fun _ => "") (fun text => ⟨text, false, []⟩) defaultResearchCostCaps (fun _ => some 1)
    (fun _ => some paidContract)
    (goesOn 0 6 0 ++ goesOn 1 7 60001 ++ [.resume 0 (completesAt 60001)])

/-- The operations of a day cost more than the cap, and two operations start at once where one is allowed in a minute. -/
theorem started_exceeds : oneADay.perWorkspaceDayLimitEur < failedFirst.shared.startedCost 0
    ∧ waitedFirst.shared.operations = [⟨1, "contract", 60001⟩, ⟨0, "contract", 60001⟩] := by
  decide +kernel

end VentureOS.Research
