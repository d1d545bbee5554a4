import VentureOS.Finance.Spending

/-! # What a spending operation does

One inversion for each operation: a committed call changed nothing, or it found what it needed, passed its
checks and left exactly the tables described. `SpendingEffect` collects them. -/

namespace VentureOS.Finance

open ControlPlane Transaction

variable {α : Type} {s s' : Session} {b : α} {calendar : Calendar} {elapsed : Nat → Nat}
  {gate : Except Failure Unit}

/-! ## Statements -/

theorem commits_read_bind {f : Ledger → Tx α} :
    Commits (read >>= f) s b s' ↔ Commits (f s.ledger) s b s' := by
  rw [commits_bind]
  constructor
  · rintro ⟨ledger, t, hledger, h⟩
    rw [read, commits_get_bind, commits_pure] at hledger
    obtain ⟨rfl, rfl⟩ := hledger
    exact h
  · intro h
    refine ⟨_, _, ?_, h⟩
    rw [read, commits_get_bind, commits_pure]
    exact ⟨rfl, rfl⟩

variable {u : Unit}

@[simp] theorem commits_write {f : Ledger → Ledger} :
    Commits (write f) s u s' ↔ s' = { s with ledger := f s.ledger } :=
  commits_modify

theorem commits_write_bind {g : Ledger → Ledger} {f : Unit → Tx α} :
    Commits (write g >>= f) s b s' ↔ Commits (f ()) { s with ledger := g s.ledger } b s' :=
  commits_modify_bind

variable {workspaceId : EntityId}

variable {id : String}

/-- A commitment is found under its workspace and its id. -/
theorem Ledger.key_of_get? {ledger : Ledger} {c : Commitment}
    (h : ledger.commitments.get? (key workspaceId id) = some c) : c.workspaceId = workspaceId ∧ c.id = id :=
  key_inj.mp (Store.keyOf_of_get? h)

/-- A reading of the clock is no earlier than the last one. -/
theorem commits_clockTimestamp_bind {f : Int → Tx α} :
    Commits (clockTimestamp elapsed >>= f) s b s' ↔
      Commits (f (s.now + elapsed s.ticks))
        { s with now := s.now + elapsed s.ticks, ticks := s.ticks + 1 } b s' := by
  rw [commits_bind]
  constructor
  · rintro ⟨now, t, hnow, h⟩
    rw [clockTimestamp, commits_get_bind, commits_set_bind, commits_pure] at hnow
    obtain ⟨rfl, rfl⟩ := hnow
    exact h
  · intro h
    refine ⟨_, _, ?_, h⟩
    rw [clockTimestamp, commits_get_bind, commits_set_bind, commits_pure]
    exact ⟨rfl, rfl⟩

/-- Only the clock went on. -/
structure Ticked (s s' : Session) : Prop where
  ledger : s'.ledger = s.ledger
  now : s.now ≤ s'.now

theorem Ticked.refl (s : Session) : Ticked s s := ⟨rfl, le_refl _⟩

theorem Ticked.trans {s s' s'' : Session} (h : Ticked s s') (h' : Ticked s' s'') : Ticked s s'' :=
  ⟨h'.ledger.trans h.ledger, h.now.trans h'.now⟩

theorem ticked_reading (s : Session) (elapsed : Nat → Nat) :
    Ticked s { s with now := s.now + elapsed s.ticks, ticks := s.ticks + 1 } :=
  ⟨rfl, Int.le_add_of_nonneg_right (Int.natCast_nonneg _)⟩

theorem commits_lockAccount {found : Account × Bool}
    (h : Commits (lockAccount elapsed workspaceId) s found s') :
    Ticked s s' ∧ s.ledger.accounts.get? workspaceId = some found.1
      ∧ (found.2 = true → found.1.funding ≠ none) := by
  unfold lockAccount at h
  rw [commits_clockTimestamp_bind, commits_read_bind] at h
  cases haccount : s.ledger.accounts.get? workspaceId with
  | none =>
    simp only [haccount] at h
    exact absurd h (by simp)
  | some account =>
    simp only [haccount, commits_pure] at h
    obtain ⟨rfl, rfl⟩ := h
    refine ⟨ticked_reading s elapsed, rfl, fun hfresh hnone => ?_⟩
    rw [hnone] at hfresh
    cases hfresh

theorem commits_assertCostValid {costValidUntil : Int}
    (h : Commits (assertCostValid elapsed costValidUntil) s u s') : Ticked s s' := by
  unfold assertCostValid at h
  rw [commits_clockTimestamp_bind, commits_lift] at h
  rw [h.2]
  exact ticked_reading s elapsed

/-- The cents of a commitment that count for the month of an instant. -/
def Commitment.monthCents (calendar : Calendar) (now : Int) (c : Commitment) : Int :=
  if c.InMonth calendar now then c.cents else 0

theorem Commitment.cents_nonneg (c : Commitment) : 0 ≤ c.cents := by
  have hbounded := c.bounded
  unfold Commitment.cents
  split
  · exact Int.natCast_nonneg _
  · omega

/-- No commitment was settled after the instant. -/
def Settled (now : Int) (c : Commitment) : Prop :=
  ∀ actual settledAt evidence, c.state = .SETTLED actual settledAt evidence → settledAt ≤ now

/-- What counts for the month of a later instant counted before. -/
theorem Commitment.monthCents_anti {c : Commitment} {now later : Int} (hsettled : Settled now c)
    (hlater : now ≤ later) : c.monthCents calendar later ≤ c.monthCents calendar now := by
  unfold Commitment.monthCents
  by_cases hmonth : c.InMonth calendar later
  · have hnow : c.InMonth calendar now := by
      unfold Commitment.InMonth at hmonth ⊢
      cases hstate : c.state with
      | RESERVED => trivial
      | CANCELLED evidence =>
        rw [hstate] at hmonth
        exact hmonth
      | SETTLED actual settledAt evidence =>
        rw [hstate] at hmonth
        -- The month of the settlement has not ended later, so it has not ended now.
        have hbefore := calendar.monotone (hsettled actual settledAt evidence hstate)
        exact le_antisymm hbefore (hmonth ▸ calendar.monotone hlater)
    rw [if_pos hmonth, if_pos hnow]
  · rw [if_neg hmonth]
    split
    · exact c.cents_nonneg
    · exact le_refl 0

/-- The monthly total covers every later instant. -/
theorem commits_monthlyTotal {rows : List Commitment} {sum : Int}
    (h : Commits (monthlyTotal calendar elapsed rows) s sum s')
    (hsettled : ∀ c ∈ rows, Settled s.now c) :
    Ticked s s' ∧ ∀ later, s'.now ≤ later → (rows.map (Commitment.monthCents calendar later)).sum ≤ sum := by
  induction rows generalizing s sum with
  | nil =>
    obtain ⟨rfl, rfl⟩ := commits_pure.mp h
    exact ⟨Ticked.refl _, fun _ _ => le_refl _⟩
  | cons c rest ih =>
    rw [monthlyTotal, commits_clockTimestamp_bind, commits_bind] at h
    obtain ⟨sum', t, hrest, h⟩ := h
    obtain ⟨rfl, rfl⟩ := commits_pure.mp h
    have hread := ticked_reading s elapsed
    obtain ⟨hticked, hsum⟩ := ih hrest fun c' hc' actual settledAt evidence hstate =>
      (hsettled c' (List.mem_cons_of_mem _ hc') actual settledAt evidence hstate).trans hread.now
    refine ⟨hread.trans hticked, fun later hlater => ?_⟩
    rw [List.map_cons, List.sum_cons]
    have hhead : c.monthCents calendar later ≤ c.monthCents calendar (s.now + elapsed s.ticks) :=
      Commitment.monthCents_anti
        (fun actual settledAt evidence hstate =>
          (hsettled c List.mem_cons_self actual settledAt evidence hstate).trans hread.now)
        (hticked.now.trans hlater)
    exact add_le_add hhead (hsum later hlater)

theorem commits_totals {group : String} {used : Totals}
    (h : Commits (totals calendar elapsed workspaceId group) s used s')
    (hsettled : ∀ c ∈ s.ledger.commitments, Settled s.now c) :
    Ticked s s'
      ∧ used.lifetime = ((s.ledger.outstanding workspaceId).map Commitment.cents).sum
      ∧ used.related = (((s.ledger.outstanding workspaceId).filter fun c =>
          c.purchaseGroup = group).map Commitment.cents).sum
      ∧ ∀ later, s'.now ≤ later →
        ((s.ledger.outstanding workspaceId).map (Commitment.monthCents calendar later)).sum
          ≤ used.monthly := by
  unfold totals at h
  rw [commits_read_bind, commits_bind] at h
  obtain ⟨monthly, t, hmonthly, h⟩ := h
  rw [commits_check_bind] at h
  obtain ⟨_, -, h⟩ := h
  obtain ⟨rfl, rfl⟩ := commits_pure.mp h
  obtain ⟨hticked, hsum⟩ := commits_monthlyTotal hmonthly fun c hc =>
    hsettled c (Store.mem_values.mp (List.mem_of_mem_filter hc))
  exact ⟨hticked, rfl, rfl, hsum⟩

/-! ## Amounts -/

/-- What a workspace has paid and committed. -/
def Ledger.lifetimeTotal (ledger : Ledger) (workspaceId : EntityId) : Int :=
  ledger.commitments.total fun c =>
    if c.workspaceId = workspaceId ∧ ¬ c.state.Cancelled then c.cents else 0

/-- What a workspace has paid and committed for a purchase group. -/
def Ledger.groupTotal (ledger : Ledger) (workspaceId : EntityId) (group : String) : Int :=
  ledger.commitments.total fun c =>
    if (c.workspaceId = workspaceId ∧ ¬ c.state.Cancelled) ∧ c.purchaseGroup = group then c.cents
    else 0

/-- What a workspace has committed, and paid in the month of an instant. -/
def Ledger.monthTotal (ledger : Ledger) (calendar : Calendar) (now : Int) (workspaceId : EntityId) :
    Int :=
  ledger.commitments.total fun c =>
    if c.workspaceId = workspaceId then c.monthCents calendar now else 0

theorem Commitment.monthCents_of_cancelled {now : Int} {c : Commitment} (h : c.state.Cancelled) :
    c.monthCents calendar now = 0 := by
  refine if_neg fun hmonth => ?_
  unfold Commitment.InMonth at hmonth
  cases hstate : c.state with
  | CANCELLED evidence =>
    rw [hstate] at hmonth
    exact hmonth
  | _ =>
    rw [hstate] at h
    exact h

theorem Ledger.sum_outstanding (ledger : Ledger) (workspaceId : EntityId) :
    ((ledger.outstanding workspaceId).map Commitment.cents).sum = ledger.lifetimeTotal workspaceId := by
  unfold Ledger.outstanding Ledger.lifetimeTotal
  rw [Store.sum_map_filter_values]
  simp only [decide_eq_true_eq]

theorem Ledger.sum_outstanding_group (ledger : Ledger) (workspaceId : EntityId) (group : String) :
    (((ledger.outstanding workspaceId).filter fun c => c.purchaseGroup = group).map
      Commitment.cents).sum = ledger.groupTotal workspaceId group := by
  unfold Ledger.outstanding Ledger.groupTotal
  rw [List.filter_filter, Store.sum_map_filter_values]
  simp only [Bool.and_eq_true, decide_eq_true_eq]
  exact Store.total_congr fun c _ => if_congr and_comm rfl rfl

theorem Ledger.sum_outstanding_month (ledger : Ledger) (now : Int) (workspaceId : EntityId) :
    ((ledger.outstanding workspaceId).map (Commitment.monthCents calendar now)).sum
      = ledger.monthTotal calendar now workspaceId := by
  unfold Ledger.outstanding Ledger.monthTotal
  rw [Store.sum_map_filter_values]
  refine Store.total_congr fun c _ => ?_
  simp only [decide_eq_true_eq]
  by_cases hcancelled : c.state.Cancelled
  · simp [hcancelled, Commitment.monthCents_of_cancelled]
  · simp [hcancelled]

/-! ## Operations -/

/-- `reserveBusinessExpense` inserted a commitment. -/
structure Reserved (calendar : Calendar) (input : ReserveBusinessExpenseInput) (now' : Int)
    (ledger ledger' : Ledger) (c : Commitment) : Prop where
  fields : c.workspaceId = input.workspaceId ∧ c.id = input.id ∧ c.purchaseGroup = input.purchaseGroup
    ∧ c.reservedCents = input.maximumCents ∧ c.costEvidence = input.costEvidence
    ∧ some c.costValidUntil = input.costValidUntil ∧ c.state = .RESERVED
  fresh : ledger.commitments.get? (keyOf c) = none
  account : ∃ account, ledger.accounts.get? c.workspaceId = some account ∧ account.state = .RUNNING
    ∧ account.funding ≠ none
    ∧ ledger.lifetimeTotal c.workspaceId + c.reservedCents ≤ account.fundingCents - account.protectedCents
  group : ledger.groupTotal c.workspaceId c.purchaseGroup + c.reservedCents ≤ singleCommitmentCents
  month : ∀ later, now' ≤ later →
    ledger.monthTotal calendar later c.workspaceId + c.reservedCents ≤ monthlyCents
  ledger : ledger' = { ledger with
    commitments := ledger.commitments.put c
    events := ledger.events ++ [⟨c.workspaceId, some c.id, .RESERVED, some c.reservedCents, c.costEvidence⟩] }

theorem assertBusinessSpend_eq_ok {capacity : SpendCapacity} {cents : Int} :
    assertBusinessSpend capacity cents = .ok u ↔ 0 < cents ∧ capacity.state = .RUNNING
      ∧ capacity.fundingFresh = true ∧ cents + capacity.relatedUsedCents ≤ singleCommitmentCents
      ∧ cents + capacity.monthlyUsedCents ≤ monthlyCents ∧ cents ≤ capacity.availableCents := by
  unfold assertBusinessSpend
  simp only [check_bind_eq_ok, throwIf_eq_ok, not_le, not_lt, not_not, ne_eq, Bool.not_eq_false]

theorem commits_insertCommitment {input : ReserveBusinessExpenseInput} {costValidUntil : Int}
    (h : Commits (insertCommitment input costValidUntil) s u s') :
    ∃ c : Commitment, (c.workspaceId = input.workspaceId ∧ c.id = input.id
      ∧ c.purchaseGroup = input.purchaseGroup ∧ c.reservedCents = input.maximumCents
      ∧ c.costEvidence = input.costEvidence ∧ c.costValidUntil = costValidUntil ∧ c.state = .RESERVED)
      ∧ s' = { s with ledger := { s.ledger with commitments := s.ledger.commitments.put c } } := by
  unfold insertCommitment at h
  split at h
  · rename_i bounded
    rw [commits_write] at h
    exact ⟨_, ⟨rfl, rfl, rfl, rfl, rfl, rfl, rfl⟩, h⟩
  · exact absurd h (by simp)

theorem reserveBusinessExpense_spec {input : ReserveBusinessExpenseInput}
    (h : Commits (reserveBusinessExpense calendar elapsed gate input) s u s')
    (hsettled : ∀ c ∈ s.ledger.commitments, Settled s.now c) :
    s.now ≤ s'.now ∧ ((s'.ledger = s.ledger ∧ ∃ existing,
        s.ledger.commitments.get? (key input.workspaceId input.id) = some existing)
      ∨ ∃ c, Reserved calendar input s'.now s.ledger s'.ledger c) := by
  unfold reserveBusinessExpense at h
  simp only [commits_check_bind] at h
  obtain ⟨_, -, _, -, _, -, h⟩ := h
  cases hvalid : input.costValidUntil with
  | none =>
    rw [hvalid] at h
    exact absurd h (by simp)
  | some costValidUntil =>
    simp only [hvalid, commits_check_bind] at h
    obtain ⟨_, -, h⟩ := h
    rw [commits_bind] at h
    obtain ⟨⟨account, fundingFresh⟩, t, hlock, h⟩ := h
    obtain ⟨hlocked, haccount, hfresh⟩ := commits_lockAccount hlock
    rw [commits_read_bind, hlocked.ledger] at h
    cases hexisting : s.ledger.commitments.get? (key input.workspaceId input.id) with
    | some existing =>
      simp only [hexisting, commits_check_bind] at h
      obtain ⟨_, -, _, -, h⟩ := h
      have hticked := hlocked.trans (commits_assertCostValid h)
      exact ⟨hticked.now, Or.inl ⟨hticked.ledger, existing, rfl⟩⟩
    | none =>
      simp only [hexisting] at h
      rw [commits_bind] at h
      obtain ⟨_, t₁, hcost, h⟩ := h
      have hticked := hlocked.trans (commits_assertCostValid hcost)
      rw [commits_bind] at h
      obtain ⟨used, t₂, htotals, h⟩ := h
      obtain ⟨hticked', hlifetime, hrelated, hmonthly⟩ := commits_totals htotals (by
        rw [hticked.ledger]
        exact fun c hc actual settledAt evidence hstate =>
          (hsettled c hc actual settledAt evidence hstate).trans hticked.now)
      rw [hticked.ledger] at hlifetime hrelated hmonthly
      rw [Ledger.sum_outstanding] at hlifetime
      rw [Ledger.sum_outstanding_group] at hrelated
      rw [commits_check_bind] at h
      obtain ⟨_, hspend, h⟩ := h
      obtain ⟨-, hrunning, hfunded, hgroup, hmonth, havailable⟩ :=
        assertBusinessSpend_eq_ok.mp hspend
      rw [commits_bind] at h
      obtain ⟨_, t₃, hinsert, hevent⟩ := h
      obtain ⟨c, ⟨hws, hid, hpurchase, hcents, hevidence, hvaliduntil, hstate⟩, rfl⟩ :=
        commits_insertCommitment hinsert
      rw [insertEvent, commits_write] at hevent
      have hall := hticked.trans hticked'
      subst hevent
      refine ⟨hall.now, Or.inr ⟨c, ⟨hws, hid, hpurchase, hcents, hevidence, ?_, hstate⟩, ?_,
        ⟨account, hws ▸ haccount, hrunning, hfresh hfunded, ?_⟩, ?_, fun later hlater => ?_, ?_⟩⟩
      · rw [hvaliduntil, hvalid]
      · rw [keyOf_commitment, hws, hid, hexisting]
      · rw [hws, hcents, ← hlifetime]
        exact add_comm used.lifetime _ ▸ le_sub_iff_add_le.mp havailable
      · rw [hws, hpurchase, hcents, ← hrelated, add_comm]
        exact hgroup
      · have hsum := hmonthly later hlater
        rw [Ledger.sum_outstanding_month] at hsum
        rw [hws, hcents]
        exact (add_le_add_left hsum _).trans (add_comm used.monthly _ ▸ hmonth)
      · rw [hall.ledger, hws, hid, hcents, hevidence]

/-- A commitment left `RESERVED`. -/
structure Closed (ledger ledger' : Ledger) (item : Commitment) (state : CommitmentState) (cents : Option Int)
    (kind : SpendingEventKind) (evidence : String) : Prop where
  found : item ∈ ledger.commitments
  reserved : item.state = .RESERVED
  ledger : ledger' = { ledger with
    commitments := ledger.commitments.put { item with state := state }
    events := ledger.events ++ [⟨item.workspaceId, some item.id, kind, cents, evidence⟩] }

theorem commits_updateCommitment {item : Commitment} {state : CommitmentState} :
    Commits (updateCommitment item state) s u s' ↔ item.state = .RESERVED
      ∧ s' = { s with ledger := { s.ledger with
          commitments := s.ledger.commitments.put { item with state := state } } } := by
  unfold updateCommitment
  rw [commits_check_bind]
  simp only [throwIf_eq_ok, commits_write, exists_const, not_not, ne_eq]

variable {evidence : String}

theorem cancelBusinessExpense_spec
    (h : Commits (cancelBusinessExpense elapsed gate workspaceId id evidence) s u s') :
    s.now ≤ s'.now ∧ ∃ item, s.ledger.commitments.get? (key workspaceId id) = some item
      ∧ ((s'.ledger = s.ledger ∧ item.state = .CANCELLED evidence)
        ∨ Closed s.ledger s'.ledger item (.CANCELLED evidence) none .CANCELLED evidence) := by
  unfold cancelBusinessExpense at h
  simp only [commits_check_bind] at h
  obtain ⟨_, -, _, -, _, -, h⟩ := h
  rw [commits_bind] at h
  obtain ⟨_, t, hlock, h⟩ := h
  obtain ⟨hlocked, -⟩ := commits_lockAccount hlock
  rw [commits_read_bind, hlocked.ledger] at h
  cases hitem : s.ledger.commitments.get? (key workspaceId id) with
  | none =>
    simp only [hitem] at h
    exact absurd h (by simp)
  | some item =>
    simp only [hitem] at h
    obtain ⟨hws, hid⟩ := Ledger.key_of_get? hitem
    by_cases hreplay : item.state = .CANCELLED evidence
    · rw [if_pos hreplay] at h
      obtain ⟨-, rfl⟩ := commits_pure.mp h
      exact ⟨hlocked.now, item, rfl, Or.inl ⟨hlocked.ledger, hreplay⟩⟩
    · rw [if_neg hreplay, commits_check_bind] at h
      obtain ⟨_, -, h⟩ := h
      rw [commits_bind] at h
      obtain ⟨_, t', hupdate, hevent⟩ := h
      obtain ⟨hreserved, rfl⟩ := commits_updateCommitment.mp hupdate
      rw [insertEvent, commits_write] at hevent
      subst hevent
      refine ⟨hlocked.now, item, rfl, Or.inr ⟨Store.mem_of_get? hitem, hreserved, ?_⟩⟩
      rw [hlocked.ledger, ← hws, ← hid]

/-- What an overrun does to the account of its workspace. -/
def Ledger.paused (ledger : Ledger) (workspaceId : EntityId) (evidence : String) : Ledger :=
  { ledger with
    accounts := match ledger.accounts.get? workspaceId with
      | none => ledger.accounts
      | some account => ledger.accounts.put { account with state := .PAUSED, funding := none }
    events := ledger.events ++ [⟨workspaceId, none, .PAUSED, none, evidence⟩] }

/-- `reconcileBusinessExpense` settled a commitment. -/
structure Reconciled (now now' : Int) (ledger ledger' : Ledger) (item : Commitment) (actualCents : Int)
    (evidence : String) : Prop where
  nonneg : 0 ≤ actualCents
  account : ∃ account, ledger.accounts.get? item.workspaceId = some account
  settled : ∃ settledAt ledger₁, now ≤ settledAt ∧ settledAt ≤ now'
    ∧ Closed ledger ledger₁ item (.SETTLED actualCents.toNat settledAt evidence) (some actualCents)
      .SETTLED evidence
    ∧ ledger' = if item.reservedCents < actualCents then ledger₁.paused item.workspaceId evidence
      else ledger₁

theorem commits_pauseOverrun : Commits (pauseOverrun workspaceId evidence) s u s' ↔
      s' = { s with ledger := s.ledger.paused workspaceId evidence } := by
  unfold pauseOverrun insertEvent
  rw [commits_write_bind, commits_write]
  unfold Ledger.paused
  cases s.ledger.accounts.get? workspaceId with
  | none => exact Iff.rfl
  | some account => exact Iff.rfl

theorem reconcileBusinessExpense_spec {actualCents : Int}
    (h : Commits (reconcileBusinessExpense elapsed gate workspaceId id actualCents evidence) s u s') :
    s.now ≤ s'.now ∧ ∃ item, s.ledger.commitments.get? (key workspaceId id) = some item
      ∧ ((s'.ledger = s.ledger ∧ item.SettledAs actualCents evidence)
        ∨ Reconciled s.now s'.now s.ledger s'.ledger item actualCents evidence) := by
  unfold reconcileBusinessExpense at h
  simp only [commits_check_bind, throwIf_eq_ok, not_lt] at h
  obtain ⟨_, -, _, -, _, hnonneg, _, -, h⟩ := h
  rw [commits_bind] at h
  obtain ⟨_, t, hlock, h⟩ := h
  obtain ⟨hlocked, haccount, -⟩ := commits_lockAccount hlock
  rw [commits_read_bind, hlocked.ledger] at h
  cases hitem : s.ledger.commitments.get? (key workspaceId id) with
  | none =>
    simp only [hitem] at h
    exact absurd h (by simp)
  | some item =>
    simp only [hitem] at h
    obtain ⟨hws, hid⟩ := Ledger.key_of_get? hitem
    by_cases hreplay : item.SettledAs actualCents evidence
    · rw [if_pos hreplay] at h
      obtain ⟨-, rfl⟩ := commits_pure.mp h
      exact ⟨hlocked.now, item, rfl, Or.inl ⟨hlocked.ledger, hreplay⟩⟩
    · rw [if_neg hreplay] at h
      simp only [commits_check_bind] at h
      obtain ⟨_, -, _, -, h⟩ := h
      have hread := hlocked.trans (ticked_reading t elapsed)
      have hnow := (ticked_reading t elapsed).now
      rw [commits_clockTimestamp_bind, commits_bind] at h
      obtain ⟨_, t₁, hupdate, h⟩ := h
      obtain ⟨hreserved, rfl⟩ := commits_updateCommitment.mp hupdate
      rw [insertEvent, commits_write_bind] at h
      have hclosed : Closed s.ledger { t.ledger with
          commitments := t.ledger.commitments.put
            { item with state := .SETTLED actualCents.toNat (t.now + elapsed t.ticks) evidence }
          events := t.ledger.events ++ [⟨workspaceId, some id, .SETTLED, some actualCents, evidence⟩] }
          item (.SETTLED actualCents.toNat (t.now + elapsed t.ticks) evidence) (some actualCents)
          .SETTLED evidence := by
        refine ⟨Store.mem_of_get? hitem, hreserved, ?_⟩
        rw [hlocked.ledger, ← hws, ← hid]
      by_cases hover : item.reservedCents < actualCents
      · rw [if_pos hover, commits_pauseOverrun] at h
        subst h
        refine ⟨hread.now, item, rfl, Or.inr ⟨hnonneg, ⟨_, hws ▸ haccount⟩, _, _, hread.now, le_refl _, hclosed, ?_⟩⟩
        rw [if_pos hover, hws]
      · rw [if_neg hover, commits_pure] at h
        obtain ⟨-, rfl⟩ := h
        refine ⟨hread.now, item, rfl, Or.inr ⟨hnonneg, ⟨_, hws ▸ haccount⟩, _, _, hread.now, le_refl _, hclosed, ?_⟩⟩
        rw [if_neg hover]

/-- `setBusinessExecutionState` set the state of an account, which it created if there was none. -/
structure StateSet (ledger ledger' : Ledger) (workspaceId : EntityId) (state : ExecutionState)
    (evidence : String) : Prop where
  accounts : ∀ k, ledger'.accounts.get? k = if k = workspaceId then
    some { ledger.accountOr workspaceId with state := state } else ledger.accounts.get? k
  commitments : ledger'.commitments = ledger.commitments
  events : ledger'.events = ledger.events ++ [⟨workspaceId, none, state.event, none, evidence⟩]

theorem Ledger.accountOr_workspaceId (ledger : Ledger) (workspaceId : EntityId) :
    (ledger.accountOr workspaceId).workspaceId = workspaceId := by
  unfold Ledger.accountOr
  cases h : ledger.accounts.get? workspaceId with
  | none => rfl
  | some account => exact Store.keyOf_of_get? h

theorem setBusinessExecutionState_spec {founder : Bool} {state : ExecutionState}
    (h : Commits (setBusinessExecutionState elapsed gate founder workspaceId state evidence) s u s') :
    s.now ≤ s'.now ∧ StateSet s.ledger s'.ledger workspaceId state evidence := by
  have hws := s.ledger.accountOr_workspaceId workspaceId
  unfold setBusinessExecutionState at h
  simp only [commits_check_bind] at h
  obtain ⟨_, -, _, -, _, -, h⟩ := h
  rw [commits_write_bind, commits_bind] at h
  obtain ⟨_, t, hlock, h⟩ := h
  obtain ⟨hlocked, -⟩ := commits_lockAccount hlock
  rw [commits_write_bind, insertEvent, commits_write] at h
  subst h
  -- The account that was created, if it was, is the one that is written again.
  have hcreated : Ledger.accountOr { s.ledger with
      accounts := s.ledger.accounts.put (s.ledger.accountOr workspaceId) } workspaceId
        = s.ledger.accountOr workspaceId := by
    unfold Ledger.accountOr
    rw [Store.get?_put, if_pos, Option.getD_some]
    exact hws.symm
  have hledger := hlocked.ledger
  refine ⟨hlocked.now, fun k => ?_, ?_, ?_⟩
  · simp only [hledger, hcreated, Store.get?_put, keyOf_account, hws]
    by_cases hk : k = workspaceId
    · rw [if_pos hk, if_pos hk]
    · rw [if_neg hk, if_neg hk, if_neg hk]
  · simp only [hledger]
  · simp only [hledger]

theorem isBusinessReservationExecutable_spec {requiresFunds : Bool} {allowed : Bool}
    (h : Commits (isBusinessReservationExecutable elapsed gate workspaceId id requiresFunds) s allowed s') :
    Ticked s s' ∧ (requiresFunds = true → allowed = true →
      ∃ account, s.ledger.accounts.get? workspaceId = some account ∧ account.funding ≠ none) := by
  unfold isBusinessReservationExecutable at h
  rw [commits_check_bind] at h
  obtain ⟨_, -, h⟩ := h
  rw [commits_read_bind] at h
  cases haccount : s.ledger.accounts.get? workspaceId with
  | none =>
    simp only [haccount, commits_pure] at h
    obtain ⟨rfl, rfl⟩ := h
    exact ⟨Ticked.refl _, fun _ hallowed => absurd hallowed (by simp)⟩
  | some account =>
    simp only [haccount] at h
    rw [commits_clockTimestamp_bind, commits_clockTimestamp_bind] at h
    obtain ⟨rfl, rfl⟩ := commits_pure.mp h
    refine ⟨(ticked_reading s elapsed).trans (ticked_reading _ elapsed), fun hfunds hallowed => ?_⟩
    subst hfunds
    rw [decide_eq_true_eq] at hallowed
    rcases hallowed.2 with ⟨hfalse, -⟩ | ⟨hfunded, -⟩
    · cases hfalse
    · refine ⟨account, rfl, fun hnone => ?_⟩
      rw [hnone] at hfunded
      cases hfunded

/-- `verifyFunding` gave an account another funding window, if there is the account. -/
structure Funded (ledger ledger' : Ledger) (workspaceId : EntityId) (funding : Option (Int × String)) :
    Prop where
  accounts : ∀ k, ledger'.accounts.get? k = if k = workspaceId then
    (ledger.accounts.get? workspaceId).map fun account => { account with funding := funding }
    else ledger.accounts.get? k
  commitments : ledger'.commitments = ledger.commitments
  events : ledger'.events = ledger.events

theorem verifyFunding_spec {funding : Option (Int × String)}
    (h : Commits (verifyFunding workspaceId funding) s u s') :
    s'.now = s.now ∧ Funded s.ledger s'.ledger workspaceId funding := by
  rw [verifyFunding, commits_write] at h
  subst h
  refine ⟨rfl, ?_⟩
  cases haccount : s.ledger.accounts.get? workspaceId with
  | none =>
    refine ⟨fun k => ?_, rfl, rfl⟩
    rw [haccount]
    by_cases hk : k = workspaceId
    · rw [if_pos hk, hk, haccount, Option.map_none]
    · rw [if_neg hk]
  | some account =>
    refine ⟨fun k => ?_, rfl, rfl⟩
    have hws : account.workspaceId = workspaceId := Store.keyOf_of_get? haccount
    rw [haccount]
    simp only [Store.get?_put, keyOf_account, hws, Option.map_some]

/-! ## Calls -/

/-- What a call did. -/
inductive SpendingEffect (calendar : Calendar) (s s' : SpendingState) : SpendingCall → Prop where
  | unchanged {call : SpendingCall} (ledger : s'.ledger = s.ledger) : SpendingEffect calendar s s' call
  | reserved {input : ReserveBusinessExpenseInput} {c : Commitment}
      (reserved : Reserved calendar input s'.now s.ledger s'.ledger c) :
      SpendingEffect calendar s s' (.reserve input)
  | cancelled {item : Commitment} {evidence : String}
      (closed : Closed s.ledger s'.ledger item (.CANCELLED evidence) none .CANCELLED evidence) :
      SpendingEffect calendar s s' (.cancel item.workspaceId item.id evidence)
  | reconciled {item : Commitment} {actualCents : Int} {evidence : String}
      (reconciled : Reconciled s.now s'.now s.ledger s'.ledger item actualCents evidence) :
      SpendingEffect calendar s s' (.reconcile item.workspaceId item.id actualCents evidence)
  | stateSet {workspaceId : EntityId} {state : ExecutionState} {evidence : String}
      (set : StateSet s.ledger s'.ledger workspaceId state evidence) :
      SpendingEffect calendar s s' (.setState workspaceId state evidence)
  | funded {workspaceId : EntityId} {funding : Option (Int × String)}
      (funded : Funded s.ledger s'.ledger workspaceId funding) :
      SpendingEffect calendar s s' (.verifyFunding workspaceId funding)

/-- A call that was refused changed nothing; another is its committed transaction. -/
theorem spend_cases (calendar : Calendar) (l : SpendingLabel) (s : SpendingState) :
    ((spend calendar l s).1.isOk = false ∧ (spend calendar l s).2 = s)
      ∨ ∃ a t, Commits (performSpending calendar l) ⟨s.ledger, s.now, 0⟩ a t
        ∧ spend calendar l s = (.ok a, ⟨t.ledger, t.now⟩) := by
  have hspend : spend calendar l s = (((performSpending calendar l).commit ⟨s.ledger, s.now, 0⟩).1,
    ⟨((performSpending calendar l).commit ⟨s.ledger, s.now, 0⟩).2.ledger,
      ((performSpending calendar l).commit ⟨s.ledger, s.now, 0⟩).2.now⟩) := rfl
  cases hresult : ((performSpending calendar l).commit ⟨s.ledger, s.now, 0⟩).1 with
  | error e =>
    rw [hspend, hresult, commit_of_error hresult]
    exact Or.inl ⟨rfl, rfl⟩
  | ok a =>
    rw [hspend, hresult]
    exact Or.inr ⟨a, _, commits_of_commit hresult, rfl⟩

/-- What a committed transaction did. -/
theorem performSpending_effect {l : SpendingLabel} {s : SpendingState} {a : Option Bool} {t : Session}
    (hsettled : ∀ c ∈ s.ledger.commitments, Settled s.now c)
    (h : Commits (performSpending calendar l) ⟨s.ledger, s.now, 0⟩ a t) :
    s.now ≤ t.now ∧ SpendingEffect calendar s ⟨t.ledger, t.now⟩ l.call := by
  unfold performSpending at h
  cases hcall : l.call
  all_goals
    simp only [hcall, commits_bind] at h
    obtain ⟨_, t, hperformed, h⟩ := h
    obtain ⟨-, rfl⟩ := commits_pure.mp h
  case reserve =>
    obtain ⟨hnow, ⟨hledger, -⟩ | ⟨c, hreserved⟩⟩ := reserveBusinessExpense_spec hperformed hsettled
    · exact ⟨hnow, .unchanged hledger⟩
    · exact ⟨hnow, .reserved hreserved⟩
  case isExecutable =>
    obtain ⟨hticked, -⟩ := isBusinessReservationExecutable_spec hperformed
    exact ⟨hticked.now, .unchanged hticked.ledger⟩
  case cancel =>
    obtain ⟨hnow, item, hitem, ⟨hledger, -⟩ | hclosed⟩ := cancelBusinessExpense_spec hperformed
    · exact ⟨hnow, .unchanged hledger⟩
    · obtain ⟨rfl, rfl⟩ := Ledger.key_of_get? hitem
      exact ⟨hnow, .cancelled hclosed⟩
  case reconcile =>
    obtain ⟨hnow, item, hitem, ⟨hledger, -⟩ | hreconciled⟩ := reconcileBusinessExpense_spec hperformed
    · exact ⟨hnow, .unchanged hledger⟩
    · obtain ⟨rfl, rfl⟩ := Ledger.key_of_get? hitem
      exact ⟨hnow, .reconciled hreconciled⟩
  case setState =>
    obtain ⟨hnow, hset⟩ := setBusinessExecutionState_spec hperformed
    exact ⟨hnow, .stateSet hset⟩
  case verifyFunding =>
    obtain ⟨hnow, hfunded⟩ := verifyFunding_spec hperformed
    exact ⟨hnow.ge, .funded hfunded⟩

/-- **Every call has an effect**, and the clock does not go back. -/
theorem spend_effect {s : SpendingState} (hsettled : ∀ c ∈ s.ledger.commitments, Settled s.now c)
    (l : SpendingLabel) :
    s.now ≤ (spend calendar l s).2.now ∧ SpendingEffect calendar s (spend calendar l s).2 l.call := by
  rcases spend_cases calendar l s with ⟨-, hrefused⟩ | ⟨a, t, hcommits, hspend⟩
  · rw [hrefused]
    exact ⟨le_refl _, .unchanged rfl⟩
  · rw [hspend]
    exact performSpending_effect hsettled hcommits

end VentureOS.Finance
