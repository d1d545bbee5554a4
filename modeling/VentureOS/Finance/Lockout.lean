import VentureOS.Finance.Caps

/-! # After an overrun, and after a replay

A cost above its reservation takes the funding of its workspace away. Nothing but a new verification gives it
back, whatever the founder sets, so no commitment is made and none is executable until then. Commitments are
never lost and leave `RESERVED` once, so an operation that is repeated finds what it did before and changes
nothing. -/

namespace VentureOS.Finance

open ControlPlane Transaction

variable {calendar : Calendar} {s s' : SpendingState}

/-! ## Commitments are kept -/

/-- A commitment stayed as it was, or left `RESERVED`. -/
def Commitment.Became (c c' : Commitment) : Prop :=
  c' = c ∨ (c.state = .RESERVED ∧ c'.state ≠ .RESERVED ∧ c' = { c with state := c'.state })

variable {c : Commitment}

theorem Commitment.Became.trans {c' c'' : Commitment} (h : c.Became c') (h' : c'.Became c'') :
    c.Became c'' := by
  rcases h' with rfl | ⟨hreserved', hclosed', heq'⟩
  · exact h
  · rcases h with rfl | ⟨-, hclosed, -⟩
    · exact Or.inr ⟨hreserved', hclosed', heq'⟩
    · exact absurd hreserved' hclosed

/-- Every commitment of the first tables is in the second, as it was or closed. -/
def Kept (ledger ledger' : Ledger) : Prop :=
  ∀ k c, ledger.commitments.get? k = some c → ∃ c', ledger'.commitments.get? k = some c' ∧ c.Became c'

theorem Kept.refl (ledger : Ledger) : Kept ledger ledger := fun _ c h => ⟨c, h, Or.inl rfl⟩

variable {ledger ledger' : Ledger}

theorem Kept.trans {ledger'' : Ledger} (h : Kept ledger ledger') (h' : Kept ledger' ledger'') :
    Kept ledger ledger'' := by
  intro k c hc
  obtain ⟨c', hc', hbecame⟩ := h k c hc
  obtain ⟨c'', hc'', hbecame'⟩ := h' k c' hc'
  exact ⟨c'', hc'', hbecame.trans hbecame'⟩

theorem kept_of_eq (h : ledger'.commitments = ledger.commitments) :
    Kept ledger ledger' := by
  intro k c hc
  rw [h]
  exact ⟨c, hc, Or.inl rfl⟩

variable {evidence : String}

variable {item : Commitment}

theorem Closed.kept {state : CommitmentState} {cents : Option Int} {kind : SpendingEventKind}
    (h : Closed ledger ledger' item state cents kind evidence) (hstate : state ≠ .RESERVED) :
    Kept ledger ledger' := by
  intro k c hc
  rw [h.ledger]
  show ∃ c', (ledger.commitments.put { item with state := state }).get? k = some c' ∧ _
  rw [Store.get?_put]
  by_cases hk : k = keyOf item
  · have hitem : c = item := by
      rw [hk, Store.mem_iff_get?.mp h.found] at hc
      exact (Option.some.inj hc).symm
    subst hitem
    exact ⟨_, if_pos hk, Or.inr ⟨h.reserved, hstate, rfl⟩⟩
  · exact ⟨c, (if_neg hk).trans hc, Or.inl rfl⟩

theorem Ledger.paused_commitments (ledger : Ledger) (workspaceId : EntityId) (evidence : String) :
    (ledger.paused workspaceId evidence).commitments = ledger.commitments := rfl

/-- A settlement leaves the commitments of the closed item, whether or not it was an overrun. -/
theorem Reconciled.commitments {now now' : Int}
    {actualCents : Int} (h : Reconciled now now' ledger ledger' item actualCents evidence) :
    ∃ settledAt ledger₁, ledger'.commitments = ledger₁.commitments
      ∧ Closed ledger ledger₁ item (.SETTLED actualCents.toNat settledAt evidence) (some actualCents)
        .SETTLED evidence := by
  obtain ⟨settledAt, ledger₁, -, -, hclosed, hledger⟩ := h.settled
  refine ⟨settledAt, ledger₁, ?_, hclosed⟩
  rw [hledger]
  split
  · exact Ledger.paused_commitments ledger₁ _ _
  · rfl

variable {call : SpendingCall}

/-- **Step lemma**: no call loses a commitment. -/
theorem SpendingEffect.kept (h : SpendingEffect calendar s s' call) :
    Kept s.ledger s'.ledger := by
  cases h with
  | unchanged hledger => exact kept_of_eq (congrArg Ledger.commitments hledger)
  | reserved hreserved =>
    intro k c hc
    rw [hreserved.ledger]
    exact ⟨c, Store.get?_put_of_fresh hreserved.fresh hc, Or.inl rfl⟩
  | cancelled hclosed =>
    refine hclosed.kept fun hstate => ?_
    cases hstate
  | reconciled hreconciled =>
    obtain ⟨settledAt, ledger₁, hledger, hclosed⟩ := hreconciled.commitments
    refine (hclosed.kept fun hstate => ?_).trans (kept_of_eq hledger)
    cases hstate
  | stateSet hset => exact kept_of_eq hset.commitments
  | funded hfunded => exact kept_of_eq hfunded.commitments

/-- Where a commitment comes from: it was there, it was made, or another was closed. -/
theorem SpendingEffect.mem (h : SpendingEffect calendar s s' call) (hc : c ∈ s'.ledger.commitments) :
    c ∈ s.ledger.commitments
      ∨ (∃ input, Reserved calendar input s'.now s.ledger s'.ledger c)
      ∨ ∃ item ∈ s.ledger.commitments, keyOf item = keyOf c ∧ Settled s'.now c := by
  cases h with
  | unchanged hledger =>
    rw [hledger] at hc
    exact Or.inl hc
  | @reserved input c' hreserved =>
    rw [hreserved.ledger, Store.mem_put_of_fresh hreserved.fresh] at hc
    rcases hc with rfl | hc
    · exact Or.inr (Or.inl ⟨input, hreserved⟩)
    · exact Or.inl hc
  | cancelled hclosed =>
    rw [hclosed.ledger] at hc
    rcases Store.mem_put.mp hc with rfl | ⟨hc, -⟩
    · refine Or.inr (Or.inr ⟨_, hclosed.found, rfl, fun actual settledAt evidence hstate => ?_⟩)
      cases hstate
    · exact Or.inl hc
  | reconciled hreconciled =>
    obtain ⟨settledAt, ledger₁, -, hlast, hclosed, hledger⟩ := hreconciled.settled
    have hcommitments : s'.ledger.commitments = ledger₁.commitments := by
      rw [hledger]
      split <;> rfl
    rw [hcommitments, hclosed.ledger] at hc
    rcases Store.mem_put.mp hc with rfl | ⟨hc, -⟩
    · refine Or.inr (Or.inr ⟨_, hclosed.found, rfl, fun actual settledAt' evidence hstate => ?_⟩)
      cases hstate
      exact hlast
    · exact Or.inl hc
  | stateSet hset =>
    rw [hset.commitments] at hc
    exact Or.inl hc
  | funded hfunded =>
    rw [hfunded.commitments] at hc
    exact Or.inl hc

/-- Commitments are settled in the past. -/
theorem SpendingEffect.settled (h : SpendingEffect calendar s s' call)
    (hnow : s.now ≤ s'.now) (hsettled : ∀ c ∈ s.ledger.commitments, Settled s.now c) :
    ∀ c ∈ s'.ledger.commitments, Settled s'.now c := by
  intro c hc actual settledAt evidence hstate
  rcases h.mem hc with hc | ⟨input, hreserved⟩ | ⟨item, -, -, hsettled'⟩
  · exact (hsettled c hc actual settledAt evidence hstate).trans hnow
  · rw [hreserved.fields.2.2.2.2.2.2] at hstate
    cases hstate
  · exact hsettled' actual settledAt evidence hstate

/-- A commitment that a call inserted is reserved. -/
theorem SpendingEffect.inserted (h : SpendingEffect calendar s s' call)
    (hc : c ∈ s'.ledger.commitments) (hnew : s.ledger.commitments.get? (keyOf c) = none) :
    c.state = .RESERVED := by
  rcases h.mem hc with hc | ⟨input, hreserved⟩ | ⟨item, hitem, hsame, -⟩
  · rw [Store.mem_iff_get?.mp hc] at hnew
    cases hnew
  · exact hreserved.fields.2.2.2.2.2.2
  · rw [← hsame, Store.mem_iff_get?.mp hitem] at hnew
    cases hnew

/-! ## Lock-out -/

/-- The account of the workspace has no funding. -/
def Locked (workspaceId : EntityId) (ledger : Ledger) : Prop :=
  ∃ account, ledger.accounts.get? workspaceId = some account ∧ account.funding = none

/-- No call verifies the funding of the workspace. -/
def Unverified (workspaceId : EntityId) (labels : List SpendingLabel) : Prop :=
  ∀ l ∈ labels, ∀ funding, l.call ≠ .verifyFunding workspaceId (some funding)

variable {workspaceId : EntityId}

/-- Without funding no commitment of the workspace is inserted. -/
theorem SpendingEffect.not_inserted
    (h : SpendingEffect calendar s s' call) (hlocked : Locked workspaceId s.ledger)
    (hc : c ∈ s'.ledger.commitments) (hws : c.workspaceId = workspaceId) :
    (s.ledger.commitments.get? (keyOf c)).isSome = true := by
  rcases h.mem hc with hc | ⟨input, hreserved⟩ | ⟨item, hitem, hsame, -⟩
  · rw [Store.mem_iff_get?.mp hc]
    rfl
  · -- The reservation found fresh funding, which a locked account does not have.
    obtain ⟨account, haccount, hnone⟩ := hlocked
    obtain ⟨account', haccount', -, hfunding, -⟩ := hreserved.account
    rw [hws, haccount] at haccount'
    cases haccount'
    exact absurd hnone hfunding
  · rw [← hsame, Store.mem_iff_get?.mp hitem]
    rfl

/-- A workspace that got a commitment was not locked then. -/
theorem Reserved.not_locked {input : ReserveBusinessExpenseInput} {now' : Int}
    (h : Reserved calendar input now' ledger ledger' c) (hws : c.workspaceId = workspaceId) :
    ¬ Locked workspaceId ledger' := by
  rintro ⟨account, haccount, hnone⟩
  obtain ⟨account', haccount', -, hfunding, -⟩ := h.account
  rw [h.ledger] at haccount
  rw [hws] at haccount'
  obtain rfl := Option.some.inj (haccount.symm.trans haccount')
  exact hfunding hnone

theorem Locked.paused {w : EntityId}
    (h : Locked workspaceId ledger) : Locked workspaceId (ledger.paused w evidence) := by
  obtain ⟨account, haccount, hnone⟩ := h
  unfold Locked Ledger.paused
  cases hw : ledger.accounts.get? w with
  | none => exact ⟨account, haccount, hnone⟩
  | some account' =>
    have hkey : account'.workspaceId = w := Store.keyOf_of_get? hw
    simp only [Store.get?_put, keyOf_account, hkey]
    by_cases hsame : workspaceId = w
    · exact ⟨_, if_pos hsame, rfl⟩
    · exact ⟨account, (if_neg hsame).trans haccount, hnone⟩

/-- An account that exists has no funding after it was paused for an overrun. -/
theorem locked_paused {account : Account}
    (h : ledger.accounts.get? workspaceId = some account) : Locked workspaceId (ledger.paused workspaceId evidence) := by
  have hkey : account.workspaceId = workspaceId := Store.keyOf_of_get? h
  unfold Locked Ledger.paused
  rw [h]
  refine ⟨{ account with state := .PAUSED, funding := none }, ?_, rfl⟩
  rw [Store.get?_put, if_pos]
  exact hkey.symm

/-- **Step lemma**: only a verification gives an account funding. -/
theorem SpendingEffect.locked
    (h : SpendingEffect calendar s s' call)
    (hcall : ∀ funding, call ≠ .verifyFunding workspaceId (some funding))
    (hlocked : Locked workspaceId s.ledger) : Locked workspaceId s'.ledger := by
  cases h with
  | unchanged hledger =>
    rw [hledger]
    exact hlocked
  | reserved hreserved =>
    rw [hreserved.ledger]
    exact hlocked
  | cancelled hclosed =>
    rw [hclosed.ledger]
    exact hlocked
  | reconciled hreconciled =>
    obtain ⟨settledAt, ledger₁, -, -, hclosed, hledger⟩ := hreconciled.settled
    have hlocked₁ : Locked workspaceId ledger₁ := by
      rw [hclosed.ledger]
      exact hlocked
    rw [hledger]
    split
    · exact hlocked₁.paused
    · exact hlocked₁
  | @stateSet w state evidence hset =>
    obtain ⟨account, haccount, hnone⟩ := hlocked
    have haccounts := hset.accounts workspaceId
    by_cases hw : workspaceId = w
    · subst hw
      rw [if_pos rfl, Ledger.accountOr, haccount, Option.getD_some] at haccounts
      exact ⟨_, haccounts, hnone⟩
    · rw [if_neg hw] at haccounts
      exact ⟨account, haccounts.trans haccount, hnone⟩
  | @funded w funding hfunded =>
    obtain ⟨account, haccount, hnone⟩ := hlocked
    have haccounts := hfunded.accounts workspaceId
    by_cases hw : workspaceId = w
    · subst hw
      rw [if_pos rfl, haccount, Option.map_some] at haccounts
      cases funding with
      | none => exact ⟨_, haccounts, rfl⟩
      | some funding => exact absurd rfl (hcall funding)
    · rw [if_neg hw] at haccounts
      exact ⟨account, haccounts.trans haccount, hnone⟩

variable {l : SpendingLabel}

/-- An overrun takes the funding of its workspace away. -/
theorem locked_of_overrun {id : String} {actualCents : Int}
    (hcall : l.call = .reconcile workspaceId id actualCents evidence)
    (h : Overrun (entryAt (spend calendar) s l)) :
    Locked workspaceId (spend calendar l s).2.ledger := by
  unfold Overrun entryAt at h
  simp only [hcall] at h
  obtain ⟨hok, hitem⟩ := h
  cases hget : s.ledger.commitments.get? (key workspaceId id) with
  | none =>
    rw [hget] at hitem
    cases hitem
  | some item =>
    rw [hget, Option.any_some, decide_eq_true_eq] at hitem
    obtain ⟨hreserved, hover⟩ := hitem
    rcases spend_cases calendar l s with ⟨hrefused, -⟩ | ⟨a, t, hcommits, hspend⟩
    · rw [hrefused] at hok
      cases hok
    · rw [hspend]
      unfold performSpending at hcommits
      simp only [hcall, commits_bind] at hcommits
      obtain ⟨_, t', hperformed, hpure⟩ := hcommits
      obtain ⟨-, rfl⟩ := commits_pure.mp hpure
      obtain ⟨-, item', hitem', ⟨-, hsettled⟩ | hreconciled⟩ := reconcileBusinessExpense_spec hperformed
      · -- A replay does not find the commitment reserved.
        obtain rfl : item = item' := Option.some.inj (hget.symm.trans hitem')
        rw [Commitment.SettledAs, hreserved] at hsettled
        exact hsettled.elim
      · obtain rfl : item = item' := Option.some.inj (hget.symm.trans hitem')
        obtain ⟨settledAt, ledger₁, -, -, hclosed, hledger⟩ := hreconciled.settled
        obtain ⟨account, haccount⟩ := hreconciled.account
        rw [if_pos hover] at hledger
        rw [hledger, ← (Ledger.key_of_get? hget).1]
        have hstored : ledger₁.accounts.get? item.workspaceId = some account := by
          rw [hclosed.ledger]
          exact haccount
        exact locked_paused hstored

/-! ## Replays -/

/-- The calls that answer a replay. -/
def SpendingCall.Replayable : SpendingCall → Prop
  | .reserve _ | .cancel _ _ _ | .reconcile _ _ _ _ => True
  | _ => False

/-- The tables hold what the call was to bring about. -/
def SpendingCall.Done (ledger : Ledger) : SpendingCall → Prop
  | .reserve input => ∃ c, ledger.commitments.get? (key input.workspaceId input.id) = some c
  | .cancel workspaceId id _ | .reconcile workspaceId id _ _ =>
    ∃ c, ledger.commitments.get? (key workspaceId id) = some c ∧ c.state ≠ .RESERVED
  | _ => False

/-- What was done stays done. -/
theorem SpendingCall.Done.mono {ledger ledger' : Ledger} {call : SpendingCall} (h : call.Done ledger)
    (hkept : Kept ledger ledger') : call.Done ledger' := by
  have hclosed : ∀ k, (∃ c, ledger.commitments.get? k = some c ∧ c.state ≠ .RESERVED) →
      ∃ c, ledger'.commitments.get? k = some c ∧ c.state ≠ .RESERVED := by
    rintro k ⟨c, hc, hstate⟩
    obtain ⟨c', hc', rfl | ⟨hreserved, -, -⟩⟩ := hkept k c hc
    · exact ⟨_, hc', hstate⟩
    · exact absurd hreserved hstate
  cases call with
  | reserve input =>
    obtain ⟨c, hc⟩ := h
    obtain ⟨c', hc', -⟩ := hkept _ c hc
    exact ⟨c', hc'⟩
  | cancel workspaceId id evidence => exact hclosed _ h
  | reconcile workspaceId id actualCents evidence => exact hclosed _ h
  | _ => exact h

theorem Closed.get? {state : CommitmentState} {cents : Option Int} {kind : SpendingEventKind}
    (h : Closed ledger ledger' item state cents kind evidence) :
    ledger'.commitments.get? (keyOf item) = some { item with state := state } := by
  rw [h.ledger]
  exact (Store.get?_put _ _ _).trans (if_pos rfl)

/-- A call that was answered is done. -/
theorem done_of_isOk (hsettled : ∀ c ∈ s.ledger.commitments, Settled s.now c)
    (hreplayable : l.call.Replayable) (hok : (spend calendar l s).1.isOk = true) :
    l.call.Done (spend calendar l s).2.ledger := by
  rcases spend_cases calendar l s with ⟨hrefused, -⟩ | ⟨a, t, hcommits, hspend⟩
  · rw [hrefused] at hok
    cases hok
  rw [hspend]
  unfold performSpending at hcommits
  cases hcall : l.call with
  | reserve input =>
    simp only [hcall, commits_bind] at hcommits
    obtain ⟨_, t', hperformed, hpure⟩ := hcommits
    obtain ⟨-, rfl⟩ := commits_pure.mp hpure
    obtain ⟨-, ⟨hledger, c, hc⟩ | ⟨c, hreserved⟩⟩ := reserveBusinessExpense_spec hperformed hsettled
    · exact ⟨c, hledger ▸ hc⟩
    · refine ⟨c, ?_⟩
      rw [hreserved.ledger, ← hreserved.fields.1, ← hreserved.fields.2.1]
      exact (Store.get?_put _ _ _).trans (if_pos rfl)
  | cancel workspaceId id evidence =>
    simp only [hcall, commits_bind] at hcommits
    obtain ⟨_, t', hperformed, hpure⟩ := hcommits
    obtain ⟨-, rfl⟩ := commits_pure.mp hpure
    obtain ⟨-, item, hitem, ⟨hledger, hstate⟩ | hclosed⟩ := cancelBusinessExpense_spec hperformed
    · refine ⟨item, hledger ▸ hitem, fun hreserved => ?_⟩
      rw [hstate] at hreserved
      cases hreserved
    · obtain ⟨rfl, rfl⟩ := Ledger.key_of_get? hitem
      refine ⟨_, hclosed.get?, fun hreserved => ?_⟩
      cases hreserved
  | reconcile workspaceId id actualCents evidence =>
    simp only [hcall, commits_bind] at hcommits
    obtain ⟨_, t', hperformed, hpure⟩ := hcommits
    obtain ⟨-, rfl⟩ := commits_pure.mp hpure
    obtain ⟨-, item, hitem, ⟨hledger, hstate⟩ | hreconciled⟩ := reconcileBusinessExpense_spec hperformed
    · refine ⟨item, hledger ▸ hitem, fun hreserved => ?_⟩
      rw [Commitment.SettledAs, hreserved] at hstate
      exact hstate
    · obtain ⟨rfl, rfl⟩ := Ledger.key_of_get? hitem
      obtain ⟨settledAt, ledger₁, hledger, hclosed⟩ := hreconciled.commitments
      refine ⟨_, (congrArg (Store.get? · _) hledger).trans hclosed.get?, fun hreserved => ?_⟩
      cases hreserved
  | _ =>
    rw [hcall] at hreplayable
    exact hreplayable.elim

/-- A call that is done changes nothing. -/
theorem SpendingEffect.of_done (h : SpendingEffect calendar s s' call)
    (hdone : call.Done s.ledger) : s'.ledger = s.ledger := by
  cases h with
  | unchanged hledger => exact hledger
  | reserved hreserved =>
    obtain ⟨c, hc⟩ := hdone
    have hfresh := hreserved.fresh
    rw [keyOf_commitment, hreserved.fields.1, hreserved.fields.2.1, hc] at hfresh
    cases hfresh
  | cancelled hclosed =>
    obtain ⟨c, hc, hstate⟩ := hdone
    obtain rfl := Option.some.inj ((Store.mem_iff_get?.mp hclosed.found).symm.trans hc)
    exact absurd hclosed.reserved hstate
  | reconciled hreconciled =>
    obtain ⟨c, hc, hstate⟩ := hdone
    obtain ⟨settledAt, ledger₁, -, hclosed⟩ := hreconciled.commitments
    obtain rfl := Option.some.inj ((Store.mem_iff_get?.mp hclosed.found).symm.trans hc)
    exact absurd hclosed.reserved hstate
  | stateSet hset => exact hdone.elim
  | funded hfunded => exact hdone.elim

/-! ## Runs -/

section Runs

variable (accounts : Store EntityId Account) (now : Int)

/-- The state after some calls, before which there was no commitment. -/
def spent (calendar : Calendar) (accounts : Store EntityId Account) (now : Int) (labels : List SpendingLabel) :
    SpendingState :=
  run (spend calendar) (opened accounts now) labels

theorem settled_spent (labels : List SpendingLabel) :
    ∀ c ∈ (spent calendar accounts now labels).ledger.commitments,
      Settled (spent calendar accounts now labels).now c := by
  refine run_induction (spend calendar) (P := fun s => ∀ c ∈ s.ledger.commitments, Settled s.now c) ?_ ?_ labels
  · exact fun c hc => absurd hc (Store.not_mem_empty c)
  · intro pre l ih
    obtain ⟨hnow, heffect⟩ := spend_effect ih l
    exact heffect.settled hnow ih

variable (calendar) in
theorem effect_spent (labels : List SpendingLabel) (l : SpendingLabel) :
    SpendingEffect calendar (spent calendar accounts now labels)
      (spent calendar accounts now (labels ++ [l])) l.call := by
  unfold spent
  rw [run_concat]
  exact (spend_effect (settled_spent accounts now labels) l).2

/-- **Run lemma**: no run loses a commitment. -/
theorem kept_spent (pre post : List SpendingLabel) :
    Kept (spent calendar accounts now pre).ledger (spent calendar accounts now (pre ++ post)).ledger := by
  induction post using List.reverseRecOn with
  | nil =>
    rw [List.append_nil]
    exact Kept.refl _
  | append_singleton post l ih =>
    rw [← List.append_assoc]
    exact ih.trans (effect_spent calendar accounts now (pre ++ post) l).kept

/-- **Run lemma**: what is locked stays locked, and gets no new commitment. -/
theorem locked_spent {pre : List SpendingLabel}
    (hlocked : Locked workspaceId (spent calendar accounts now pre).ledger) (post : List SpendingLabel)
    (hunverified : Unverified workspaceId post) :
    Locked workspaceId (spent calendar accounts now (pre ++ post)).ledger
      ∧ ∀ c ∈ (spent calendar accounts now (pre ++ post)).ledger.commitments, c.workspaceId = workspaceId →
        ((spent calendar accounts now pre).ledger.commitments.get? (keyOf c)).isSome = true := by
  induction post using List.reverseRecOn with
  | nil =>
    rw [List.append_nil]
    refine ⟨hlocked, fun c hc _ => ?_⟩
    rw [Store.mem_iff_get?.mp hc]
    rfl
  | append_singleton post l ih =>
    obtain ⟨hlocked', hold⟩ := ih fun l' hl' => hunverified l' (List.mem_append_left _ hl')
    have heffect := effect_spent calendar accounts now (pre ++ post) l
    rw [← List.append_assoc]
    refine ⟨heffect.locked (hunverified l (List.mem_append_right _ List.mem_cons_self)) hlocked', ?_⟩
    intro c hc hws
    -- The commitment was under its key before the last call, so it was there from the start.
    obtain ⟨c', hc'⟩ := Option.isSome_iff_exists.mp (heffect.not_inserted hlocked' hc hws)
    have hkey : keyOf c' = keyOf c := Store.keyOf_of_get? hc'
    have hws' : c'.workspaceId = workspaceId := (key_inj.mp hkey).1.trans hws
    rw [← hkey]
    exact hold c' (Store.mem_of_get? hc') hws'

/-- No call after the lock finds a reservation executable. -/
theorem not_executable_of_locked {id : String}
    (hcall : l.call = .isExecutable workspaceId id true) (hlocked : Locked workspaceId s.ledger) :
    (spend calendar l s).1 ≠ .ok (some true) := by
  intro hanswer
  rcases spend_cases calendar l s with ⟨hrefused, -⟩ | ⟨a, t, hcommits, hspend⟩
  · rw [hanswer] at hrefused
    cases hrefused
  · rw [hspend] at hanswer
    cases hanswer
    unfold performSpending at hcommits
    simp only [hcall, commits_bind] at hcommits
    obtain ⟨allowed, t', hperformed, hpure⟩ := hcommits
    obtain ⟨hallowed, rfl⟩ := commits_pure.mp hpure
    obtain ⟨-, hfunded⟩ := isBusinessReservationExecutable_spec hperformed
    obtain ⟨account, haccount, hnone⟩ := hlocked
    obtain ⟨account', haccount', hsome⟩ := hfunded rfl (Option.some.inj hallowed).symm
    obtain rfl := Option.some.inj (haccount.symm.trans haccount')
    exact hsome hnone

end Runs

/-- **Lock-out and replay safety.** After a recorded overrun, and while the funding of its workspace is not
verified again, no commitment of the workspace is inserted and none is executable with funds. A call that is
repeated after it was answered changes nothing. A commitment is inserted `RESERVED`, and is changed once at
most, when it leaves `RESERVED`. -/
theorem overrun_locks_out (calendar : Calendar) (accounts : Store EntityId Account) (now : Int) :
    (∀ pre l post workspaceId id actualCents evidence,
      l.call = .reconcile workspaceId id actualCents evidence →
      Overrun (entryAt (spend calendar) (spent calendar accounts now pre) l) →
      Unverified workspaceId post →
      (∀ c ∈ (spent calendar accounts now (pre ++ l :: post)).ledger.commitments,
        c.workspaceId = workspaceId →
        ((spent calendar accounts now pre).ledger.commitments.get? (keyOf c)).isSome = true)
      ∧ ∀ l' id', l'.call = .isExecutable workspaceId id' true →
        (spend calendar l' (spent calendar accounts now (pre ++ l :: post))).1 ≠ .ok (some true))
    ∧ (∀ pre l mid l', l.call.Replayable → l'.call = l.call →
      (spend calendar l (spent calendar accounts now pre)).1.isOk = true →
      (spent calendar accounts now (pre ++ l :: mid ++ [l'])).ledger
        = (spent calendar accounts now (pre ++ l :: mid)).ledger)
    ∧ (∀ pre post, Kept (spent calendar accounts now pre).ledger (spent calendar accounts now (pre ++ post)).ledger)
    ∧ ∀ pre l, ∀ c ∈ (spent calendar accounts now (pre ++ [l])).ledger.commitments,
      (spent calendar accounts now pre).ledger.commitments.get? (keyOf c) = none → c.state = .RESERVED := by
  have hstep : ∀ pre l, spent calendar accounts now (pre ++ [l])
      = (spend calendar l (spent calendar accounts now pre)).2 := fun pre l => run_concat _ _ _ _
  refine ⟨?_, ?_, kept_spent accounts now, ?_⟩
  · intro pre l post workspaceId id actualCents evidence hcall hover hunverified
    have hlocked : Locked workspaceId (spent calendar accounts now (pre ++ [l])).ledger := by
      rw [hstep]
      exact locked_of_overrun hcall hover
    have hsplit : pre ++ l :: post = pre ++ [l] ++ post := by simp
    rw [hsplit]
    obtain ⟨hlocked', hold⟩ := locked_spent accounts now hlocked post hunverified
    refine ⟨fun c hc hws => ?_, fun l' id' hcall' => not_executable_of_locked hcall' hlocked'⟩
    -- The overrun itself inserts nothing.
    obtain ⟨c', hc'⟩ := Option.isSome_iff_exists.mp (hold c hc hws)
    have hkey : keyOf c' = keyOf c := Store.keyOf_of_get? hc'
    rcases (effect_spent calendar accounts now pre l).mem (Store.mem_of_get? hc') with
      hbefore | ⟨input, hreserved⟩ | ⟨item, hitem, hsame, -⟩
    · rw [← hkey, Store.mem_iff_get?.mp hbefore]
      rfl
    · exact absurd hlocked (hreserved.not_locked ((key_inj.mp hkey).1.trans hws))
    · rw [← hkey, ← hsame, Store.mem_iff_get?.mp hitem]
      rfl
  · intro pre l mid l' hreplayable hsame hok
    have hdone : l.call.Done (spent calendar accounts now (pre ++ [l])).ledger := by
      rw [hstep]
      exact done_of_isOk (settled_spent accounts now pre) hreplayable hok
    have hsplit : pre ++ l :: mid = pre ++ [l] ++ mid := by simp
    rw [hsplit]
    have hdone' := hdone.mono (kept_spent accounts now (pre ++ [l]) mid)
    have heffect := effect_spent calendar accounts now (pre ++ [l] ++ mid) l'
    rw [hsame] at heffect
    exact heffect.of_done hdone'
  · exact fun pre l c hc hnew => (effect_spent calendar accounts now pre l).inserted hc hnew

namespace Sample

/-- A purchase of 2500 cents. -/
def purchase : SpendingLabel := label (.reserve ⟨"w", "a", "g", 2500, "quote", some 900⟩)

/-- It is invoiced at 2600. -/
def overrun : SpendingLabel := label (.reconcile "w" "a" 2600 "invoice")

/-- The founder resumes execution, and another purchase is tried. -/
def resumed : List SpendingLabel :=
  [label (.setState "w" .RUNNING "founder"), label (.reserve ⟨"w", "b", "h", 500, "quote", some 900⟩)]

theorem unverified_resumed : Unverified "w" resumed := by
  intro l hl funding hcall
  rcases List.mem_cons.mp hl with rfl | hl
  · cases hcall
  · obtain rfl := List.mem_singleton.mp hl
    cases hcall

end Sample

theorem overrun_locks_out_purchase :
    (spend Sample.thirtyDays (Sample.label (.isExecutable "w" "a" true))
      (spent Sample.thirtyDays Sample.accounts 0 ([Sample.purchase] ++ Sample.overrun :: Sample.resumed))).1
      ≠ .ok (some true) :=
  ((overrun_locks_out Sample.thirtyDays Sample.accounts 0).1 [Sample.purchase] Sample.overrun Sample.resumed
    "w" "a" 2600 "invoice" rfl (by decide) Sample.unverified_resumed).2 _ "a" rfl

end VentureOS.Finance
