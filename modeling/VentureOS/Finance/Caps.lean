import VentureOS.Finance.SpendingEffects

/-! # Spending caps

Every operation checks only the amount that it adds. The caps hold over whole runs all the same, as long as
no settlement exceeds its reservation: a reservation counts for every month until it is settled, and then at
most as much counts for the month of the settlement and for no other. -/

namespace VentureOS.Finance

open ControlPlane Transaction

variable {calendar : Calendar}

/-- One call of a run. -/
abbrev SpendingEntry := Entry SpendingLabel (Except Failure (Option Bool)) SpendingState

/-- Accounts of any kind, before the first commitment. -/
def opened (accounts : Store EntityId Account) (now : Int) : SpendingState :=
  ⟨⟨accounts, .empty, []⟩, now⟩

/-- The call recorded an actual cost above what was reserved. -/
def Overrun (e : SpendingEntry) : Prop :=
  match e.label.call with
  | .reconcile workspaceId id actualCents _ =>
    e.outcome.isOk = true
      ∧ (e.before.ledger.commitments.get? (key workspaceId id)).any (fun item =>
          decide (item.state = .RESERVED ∧ item.reservedCents < actualCents)) = true
  | _ => False

instance (e : SpendingEntry) : Decidable (Overrun e) := by
  unfold Overrun
  cases e.label.call <;> infer_instance

/-! ## The invariant -/

/-- What holds of the ledger while no cost exceeded its reservation. -/
structure Capped (calendar : Calendar) (s : SpendingState) : Prop where
  settled : ∀ c ∈ s.ledger.commitments, Settled s.now c
  group : ∀ workspaceId group, s.ledger.groupTotal workspaceId group ≤ singleCommitmentCents
  month : ∀ workspaceId later, s.now ≤ later →
    s.ledger.monthTotal calendar later workspaceId ≤ monthlyCents
  lifetime : ∀ c ∈ s.ledger.commitments, ∃ account,
    s.ledger.accounts.get? c.workspaceId = some account
      ∧ s.ledger.lifetimeTotal c.workspaceId ≤ account.fundingCents - account.protectedCents

theorem capped_opened (accounts : Store EntityId Account) (now : Int) :
    Capped calendar (opened accounts now) where
  settled := fun c hc => absurd hc (Store.not_mem_empty c)
  group := fun _ _ => show (0 : Int) ≤ 2500 by decide
  month := fun _ _ _ => show (0 : Int) ≤ 15000 by decide
  lifetime := fun c hc => absurd hc (Store.not_mem_empty c)

/-! ## A commitment is made -/

section Made

variable {ledger ledger' : Ledger} {c : Commitment} {input : ReserveBusinessExpenseInput} {now' : Int}

theorem Reserved.lifetimeTotal (h : Reserved calendar input now' ledger ledger' c) (w : EntityId) :
    ledger'.lifetimeTotal w
      = ledger.lifetimeTotal w + if c.workspaceId = w then c.reservedCents else 0 := by
  unfold Ledger.lifetimeTotal
  rw [h.ledger, Store.total_put_of_fresh h.fresh]
  simp [h.fields, CommitmentState.Cancelled, Commitment.cents]

theorem Reserved.groupTotal (h : Reserved calendar input now' ledger ledger' c) (w : EntityId)
    (group : String) :
    ledger'.groupTotal w group = ledger.groupTotal w group
      + if c.workspaceId = w ∧ c.purchaseGroup = group then c.reservedCents else 0 := by
  unfold Ledger.groupTotal
  rw [h.ledger, Store.total_put_of_fresh h.fresh]
  simp [h.fields, CommitmentState.Cancelled, Commitment.cents]

theorem Reserved.monthTotal (h : Reserved calendar input now' ledger ledger' c) (later : Int)
    (w : EntityId) :
    ledger'.monthTotal calendar later w = ledger.monthTotal calendar later w
      + if c.workspaceId = w then c.reservedCents else 0 := by
  unfold Ledger.monthTotal
  rw [h.ledger, Store.total_put_of_fresh h.fresh]
  simp [h.fields, Commitment.monthCents, Commitment.InMonth, Commitment.cents]

end Made

/-! ## A commitment is closed -/

/-- Not more was paid than this. -/
def CommitmentState.Within (cents : Int) : CommitmentState → Prop
  | .SETTLED actualCents _ _ => actualCents ≤ cents
  | _ => True

section Closes

variable {ledger ledger' : Ledger} {item : Commitment} {state : CommitmentState} {cents : Option Int}
  {kind : SpendingEventKind} {evidence : String}

theorem Commitment.cents_le (hreserved : item.state = .RESERVED) (hwithin : state.Within item.reservedCents) :
    Commitment.cents { item with state := state } ≤ item.cents := by
  have hitem : item.cents = item.reservedCents := by rw [Commitment.cents, hreserved]
  rw [hitem]
  cases state with
  | RESERVED => exact le_refl _
  | CANCELLED evidence => exact le_refl _
  | SETTLED actualCents settledAt evidence => exact hwithin

theorem Commitment.monthCents_le (later : Int) (hreserved : item.state = .RESERVED)
    (hwithin : state.Within item.reservedCents) :
    Commitment.monthCents calendar later { item with state := state }
      ≤ item.monthCents calendar later := by
  have hitem : item.monthCents calendar later = item.cents := by
    apply if_pos
    rw [Commitment.InMonth, hreserved]
    trivial
  rw [hitem, Commitment.monthCents]
  split
  · exact Commitment.cents_le hreserved hwithin
  · exact item.cents_nonneg

/-- An amount that does not grow when the commitment is closed has no larger total. -/
theorem Closed.total_le (h : Closed ledger ledger' item state cents kind evidence) {f : Commitment → Int}
    (hle : f { item with state := state } ≤ f item) :
    ledger'.commitments.total f ≤ ledger.commitments.total f := by
  have hfound : ledger.commitments.get? (keyOf item) = some item := Store.mem_iff_get?.mp h.found
  rw [h.ledger]
  exact Store.total_put_le hfound hle

theorem ite_cents_le {p q : Prop} [Decidable p] [Decidable q] (hreserved : item.state = .RESERVED)
    (hwithin : state.Within item.reservedCents) (hp : p → q) :
    (if p then Commitment.cents { item with state := state } else 0) ≤ if q then item.cents else 0 := by
  by_cases h : p
  · rw [if_pos h, if_pos (hp h)]
    exact Commitment.cents_le hreserved hwithin
  · rw [if_neg h]
    split
    · exact item.cents_nonneg
    · exact le_refl 0

theorem not_cancelled_of_reserved (hreserved : item.state = .RESERVED) : ¬ item.state.Cancelled := by
  rw [hreserved]
  exact id

variable (h : Closed ledger ledger' item state cents kind evidence)
  (hwithin : state.Within item.reservedCents)

include h hwithin

theorem Closed.lifetimeTotal_le (w : EntityId) : ledger'.lifetimeTotal w ≤ ledger.lifetimeTotal w :=
  h.total_le (ite_cents_le h.reserved hwithin fun hw => ⟨hw.1, not_cancelled_of_reserved h.reserved⟩)

theorem Closed.groupTotal_le (w : EntityId) (group : String) :
    ledger'.groupTotal w group ≤ ledger.groupTotal w group :=
  h.total_le (ite_cents_le h.reserved hwithin fun hw =>
    ⟨⟨hw.1.1, not_cancelled_of_reserved h.reserved⟩, hw.2⟩)

theorem Closed.monthTotal_le (later : Int) (w : EntityId) :
    ledger'.monthTotal calendar later w ≤ ledger.monthTotal calendar later w := by
  apply h.total_le
  show (if item.workspaceId = w then _ else (0 : Int)) ≤ if item.workspaceId = w then _ else 0
  by_cases hw : item.workspaceId = w
  · rw [if_pos hw, if_pos hw]
    exact Commitment.monthCents_le later h.reserved hwithin
  · rw [if_neg hw, if_neg hw]

end Closes

/-! ## Steps -/

section Steps

variable {s s' : SpendingState}

/-- A reserved commitment keeps the caps. -/
theorem Capped.reserved {input : ReserveBusinessExpenseInput} {c : Commitment} (hcapped : Capped calendar s)
    (hnow : s.now ≤ s'.now) (h : Reserved calendar input s'.now s.ledger s'.ledger c) :
    Capped calendar s' where
  settled := by
    intro c' hc' actual settledAt evidence hstate
    rw [h.ledger, Store.mem_put_of_fresh h.fresh] at hc'
    rcases hc' with rfl | hc'
    · rw [h.fields.2.2.2.2.2.2] at hstate
      cases hstate
    · exact (hcapped.settled c' hc' actual settledAt evidence hstate).trans hnow
  group := by
    intro w group
    rw [h.groupTotal]
    by_cases hsame : c.workspaceId = w ∧ c.purchaseGroup = group
    · rw [if_pos hsame, ← hsame.1, ← hsame.2]
      exact h.group
    · rw [if_neg hsame, add_zero]
      exact hcapped.group w group
  month := by
    intro w later hlater
    rw [h.monthTotal]
    by_cases hsame : c.workspaceId = w
    · rw [if_pos hsame, ← hsame]
      exact h.month later hlater
    · rw [if_neg hsame, add_zero]
      exact hcapped.month w later (hnow.trans hlater)
  lifetime := by
    intro c' hc'
    rw [h.lifetimeTotal, h.ledger]
    by_cases hsame : c.workspaceId = c'.workspaceId
    · obtain ⟨account, haccount, -, -, hroom⟩ := h.account
      rw [if_pos hsame, ← hsame]
      exact ⟨account, haccount, hroom⟩
    · rw [h.ledger, Store.mem_put_of_fresh h.fresh] at hc'
      rw [if_neg hsame, add_zero]
      rcases hc' with rfl | hc'
      · exact absurd rfl hsame
      · exact hcapped.lifetime c' hc'

/-- An account that another has replaced, with the same funds. -/
def SameFunds (ledger ledger' : Ledger) : Prop :=
  ∀ k account, ledger.accounts.get? k = some account → ∃ account',
    ledger'.accounts.get? k = some account'
      ∧ account'.fundingCents - account'.protectedCents = account.fundingCents - account.protectedCents

/-- Accounts may change all but their funds. -/
theorem Capped.sameFunds (hcapped : Capped calendar s) (hnow : s.now ≤ s'.now)
    (haccounts : SameFunds s.ledger s'.ledger) (hcommitments : s'.ledger.commitments = s.ledger.commitments) :
    Capped calendar s' where
  settled := by
    intro c hc actual settledAt evidence hstate
    rw [hcommitments] at hc
    exact (hcapped.settled c hc actual settledAt evidence hstate).trans hnow
  group := by
    intro w group
    rw [Ledger.groupTotal, hcommitments]
    exact hcapped.group w group
  month := by
    intro w later hlater
    rw [Ledger.monthTotal, hcommitments]
    exact hcapped.month w later (hnow.trans hlater)
  lifetime := by
    intro c hc
    rw [hcommitments] at hc
    obtain ⟨account, haccount, hroom⟩ := hcapped.lifetime c hc
    obtain ⟨account', haccount', hfunds⟩ := haccounts _ account haccount
    refine ⟨account', haccount', ?_⟩
    rw [hfunds, Ledger.lifetimeTotal, hcommitments]
    exact hroom

/-- A commitment closed within its reservation keeps the caps. -/
theorem Capped.closed {item : Commitment} {state : CommitmentState} {cents : Option Int}
    {kind : SpendingEventKind} {evidence : String} (hcapped : Capped calendar s) (hnow : s.now ≤ s'.now)
    (h : Closed s.ledger s'.ledger item state cents kind evidence)
    (hwithin : state.Within item.reservedCents) (hsettled : Settled s'.now { item with state := state }) :
    Capped calendar s' where
  settled := by
    intro c hc actual settledAt evidence hstate
    rw [h.ledger] at hc
    rcases Store.mem_put.mp hc with rfl | ⟨hc, -⟩
    · exact hsettled actual settledAt evidence hstate
    · exact (hcapped.settled c hc actual settledAt evidence hstate).trans hnow
  group := fun w group => (h.groupTotal_le hwithin w group).trans (hcapped.group w group)
  month := fun w later hlater =>
    (h.monthTotal_le hwithin later w).trans (hcapped.month w later (hnow.trans hlater))
  lifetime := by
    intro c hc
    have hbefore : ∃ c' ∈ s.ledger.commitments, c'.workspaceId = c.workspaceId := by
      rw [h.ledger] at hc
      rcases Store.mem_put.mp hc with rfl | ⟨hc, -⟩
      · exact ⟨item, h.found, rfl⟩
      · exact ⟨c, hc, rfl⟩
    obtain ⟨c', hc', hws⟩ := hbefore
    obtain ⟨account, haccount, hroom⟩ := hcapped.lifetime c' hc'
    rw [hws] at haccount hroom
    refine ⟨account, ?_, (h.lifetimeTotal_le hwithin _).trans hroom⟩
    rw [h.ledger]
    exact haccount

/-- **The step lemma.** -/
theorem capped_spend (hcapped : Capped calendar s) (l : SpendingLabel)
    (h : ¬ Overrun (entryAt (spend calendar) s l)) : Capped calendar (spend calendar l s).2 := by
  rcases spend_cases calendar l s with ⟨-, hrefused⟩ | ⟨a, t, hcommits, hspend⟩
  · rw [hrefused]
    exact hcapped
  obtain ⟨hnow, heffect⟩ := performSpending_effect hcapped.settled hcommits
  unfold Overrun entryAt at h
  rw [hspend] at h ⊢
  generalize l.call = call at heffect h
  cases heffect with
  | unchanged hledger =>
    exact hcapped.sameFunds hnow (fun k account hk => ⟨account, hledger ▸ hk, rfl⟩)
      (congrArg Ledger.commitments hledger)
  | reserved hreserved => exact hcapped.reserved hnow hreserved
  | cancelled hclosed =>
    refine hcapped.closed hnow hclosed trivial fun actual settledAt evidence hstate => ?_
    cases hstate
  | @reconciled item actualCents evidence hreconciled =>
    obtain ⟨settledAt, ledger₁, -, hlast, hclosed, hledger⟩ := hreconciled.settled
    have hget : s.ledger.commitments.get? (key item.workspaceId item.id) = some item :=
      Store.mem_iff_get?.mp hclosed.found
    have hle : actualCents ≤ item.reservedCents := by
      apply not_lt.mp
      intro hover
      exact h ⟨rfl, by rw [hget]; exact decide_eq_true ⟨hclosed.reserved, hover⟩⟩
    rw [if_neg (not_lt.mpr hle)] at hledger
    subst hledger
    refine hcapped.closed hnow hclosed ?_ fun actual settledAt' evidence' hstate => ?_
    · show (actualCents.toNat : Int) ≤ _
      rw [Int.toNat_of_nonneg hreconciled.nonneg]
      exact hle
    · cases hstate
      exact hlast
  | @stateSet workspaceId state evidence hset =>
    refine hcapped.sameFunds hnow (fun k account hk => ?_) hset.commitments
    have haccounts := hset.accounts k
    by_cases hws : k = workspaceId
    · subst hws
      rw [if_pos rfl, Ledger.accountOr, hk, Option.getD_some] at haccounts
      exact ⟨_, haccounts, rfl⟩
    · rw [if_neg hws, hk] at haccounts
      exact ⟨account, haccounts, rfl⟩
  | @funded workspaceId funding hfunded =>
    refine hcapped.sameFunds hnow (fun k account hk => ?_) hfunded.commitments
    have haccounts := hfunded.accounts k
    by_cases hws : k = workspaceId
    · subst hws
      rw [if_pos rfl, hk, Option.map_some] at haccounts
      exact ⟨_, haccounts, rfl⟩
    · rw [if_neg hws, hk] at haccounts
      exact ⟨account, haccounts, rfl⟩

end Steps

/-! ## Runs -/

/-- **The run lemma.** -/
theorem capped_run (accounts : Store EntityId Account) (now : Int) (labels : List SpendingLabel)
    (h : ∀ e ∈ history (spend calendar) (opened accounts now) labels, ¬ Overrun e) :
    Capped calendar (run (spend calendar) (opened accounts now) labels) := by
  refine history_induction (spend calendar)
    (P := fun steps s => (∀ e ∈ steps, ¬ Overrun e) → Capped calendar s)
    (fun _ => capped_opened accounts now) (fun pre l ih hall => ?_) labels h
  refine capped_spend (ih fun e he => hall e (List.mem_append_left _ he)) l ?_
  exact hall _ (List.mem_append_right _ List.mem_cons_self)

/-- **The spending caps hold at every point of every run** in which no cost exceeded its reservation. -/
theorem spending_caps (calendar : Calendar) (accounts : Store EntityId Account) (now : Int)
    (labels : List SpendingLabel)
    (h : ∀ e ∈ history (spend calendar) (opened accounts now) labels, ¬ Overrun e)
    (workspaceId : EntityId) :
    let s := run (spend calendar) (opened accounts now) labels
    (∀ group, s.ledger.groupTotal workspaceId group ≤ 2500)
      ∧ (∀ later, s.now ≤ later → s.ledger.monthTotal calendar later workspaceId ≤ 15000)
      ∧ (∀ c ∈ s.ledger.commitments, c.workspaceId = workspaceId →
        ∃ account, s.ledger.accounts.get? workspaceId = some account
          ∧ s.ledger.lifetimeTotal workspaceId ≤ account.fundingCents - account.protectedCents) := by
  intro s
  have hcapped := capped_run accounts now labels h
  refine ⟨hcapped.group workspaceId, hcapped.month workspaceId, fun c hc hws => ?_⟩
  subst hws
  exact hcapped.lifetime c hc

namespace Sample

/-- Months of 30 days. -/
def thirtyDays : Calendar where
  month := fun t => t / 2592000000000
  monotone := fun _ _ h => Int.ediv_le_ediv (by decide) h

def accounts : Store EntityId Account :=
  Store.empty.put ⟨"w", .RUNNING, 10000, 0, some (1000000, "statement")⟩

def label (call : SpendingCall) : SpendingLabel := ⟨fun _ => 1, .ok (), true, call⟩

/-- A purchase of 2500 cents is invoiced at 2000, and another is made. -/
def purchases : List SpendingLabel :=
  [label (.reserve ⟨"w", "a", "g", 2500, "quote", some 900⟩), label (.reconcile "w" "a" 2000 "invoice"),
    label (.reserve ⟨"w", "b", "g", 500, "quote", some 900⟩)]

end Sample

theorem spending_caps_purchases :
    (run (spend Sample.thirtyDays) (opened Sample.accounts 0) Sample.purchases).ledger.groupTotal "w" "g" ≤ 2500 :=
  (spending_caps Sample.thirtyDays Sample.accounts 0 Sample.purchases (by decide) "w").1 "g"

end VentureOS.Finance
