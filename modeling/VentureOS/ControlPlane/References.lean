import VentureOS.Foundations.Regex
import VentureOS.ControlPlane.Events

/-! # Safe references

`safeReference` as a property of the text (`SafeReference`): it starts with a letter or digit, has at
most 256 characters out of a small alphabet, and looks neither like a secret nor like private text. The
colon is in the alphabet, no word character, and in none of the classes of the two expressions, so what
they look for never reaches across one; a text joined of parts by colons may be part of a reference iff
each part may (`referenceText_of_separated`). Identifiers derived from others are references by this rule
as long as they are short enough. -/

namespace VentureOS.ControlPlane

/-- A letter, a digit, or one of the five other characters of the alphabet of references. -/
def isReferenceChar (c : Char) : Bool :=
  isAlnum c || [':', '.', '_', '/', '-'].contains c

/-- A text that may be part of a safe reference. -/
structure ReferenceText (s : String) : Prop where
  chars : s.toList.all isReferenceChar = true
  notSecret : privateFactValue.test s = false
  notPrivate : privateFactText.test s = false

instance (s : String) : Decidable (ReferenceText s) :=
  decidable_of_iff (s.toList.all isReferenceChar = true ∧ privateFactValue.test s = false
      ∧ privateFactText.test s = false)
    ⟨fun h => ⟨h.1, h.2.1, h.2.2⟩, fun h => ⟨h.chars, h.notSecret, h.notPrivate⟩⟩

/-- A safe, non-sensitive reference. -/
structure SafeReference (s : String) : Prop extends ReferenceText s where
  first : s.toList.head?.any isAlnum = true
  bounded : s.toList.length ≤ 256

/-! ## The check -/

theorem toNat_lt_of_isAlnum {c : Char} (h : isAlnum c = true) :
    48 ≤ c.toNat ∧ c.toNat < 128 := by
  have hle : ∀ a b : Char, a ≤ b → a.toNat ≤ b.toNat := fun a b h => UInt32.le_iff_toNat_le.mp h
  simp only [isAlnum, Bool.or_eq_true, Bool.and_eq_true, decide_eq_true_eq] at h
  rcases h with (⟨hlow, hhigh⟩ | ⟨hlow, hhigh⟩) | ⟨hlow, hhigh⟩
  · have h1 := hle _ _ hlow
    have h2 := hle _ _ hhigh
    simp only [Char.reduceToNat] at h1 h2
    omega
  · have h1 := hle _ _ hlow
    have h2 := hle _ _ hhigh
    simp only [Char.reduceToNat] at h1 h2
    omega
  · have h1 := hle _ _ hlow
    have h2 := hle _ _ hhigh
    simp only [Char.reduceToNat] at h1 h2
    omega

/-- Letters and digits are no white space. -/
theorem isJsSpace_of_isAlnum {c : Char} (h : isAlnum c = true) : isJsSpace c = false := by
  obtain ⟨hlow, hhigh⟩ := toNat_lt_of_isAlnum h
  simp only [isJsSpace, Bool.or_eq_false_iff, Bool.and_eq_false_iff, decide_eq_false_iff_not, beq_eq_false_iff_ne]
  omega

/-- The alphabet of references is within the basic plane. -/
theorem toNat_lt_of_isReferenceChar {c : Char} (h : isReferenceChar c = true) :
    c.toNat < 0x10000 := by
  rw [isReferenceChar, Bool.or_eq_true] at h
  rcases h with h | h
  · exact (toNat_lt_of_isAlnum h).2.trans (by decide)
  · simp only [List.contains_iff_mem, List.mem_cons, List.not_mem_nil, or_false] at h
    rcases h with rfl | rfl | rfl | rfl | rfl <;> decide

/-- The length of a text in the alphabet of references is its number of characters. -/
theorem utf16Length_of_chars {s : String} (h : s.toList.all isReferenceChar = true) :
    utf16Length s = s.toList.length := by
  rw [List.all_eq_true] at h
  have hone : ∀ c ∈ s.toList, (if c.toNat < 0x10000 then 1 else 2) = 1 := fun c hc =>
    if_pos (toNat_lt_of_isReferenceChar (h c hc))
  rw [utf16Length, List.map_congr_left hone, List.map_const', List.sum_replicate_nat, Nat.mul_one]

/-- The pattern of the source: the first character, the alphabet and the length. -/
theorem safeReferencePattern_eq_true {s : String} :
    safeReferencePattern s = true ↔ s.toList.head?.any isAlnum = true
      ∧ s.toList.all isReferenceChar = true ∧ s.toList.length ≤ 256 := by
  unfold safeReferencePattern
  cases s.toList with
  | nil => simp
  | cons c rest =>
    simp only [Bool.and_eq_true, decide_eq_true_eq, List.head?_cons, Option.any_some,
      List.all_cons, List.length_cons, List.all_eq_true, isReferenceChar]
    constructor
    · rintro ⟨⟨hc, hlength⟩, hrest⟩
      exact ⟨hc, ⟨by rw [hc, Bool.true_or], hrest⟩, by omega⟩
    · rintro ⟨hc, ⟨-, hrest⟩, hlength⟩
      exact ⟨⟨hc, by omega⟩, hrest⟩

/-- **What `safeReference` accepts.** -/
theorem safeReference_eq_ok {value field : String} {u : Unit} :
    safeReference value field = .ok u ↔ SafeReference value := by
  simp only [safeReference, boundedText, check_bind_eq_ok, throwIf_eq_ok, not_or, not_lt,
    Bool.not_eq_true, Bool.not_eq_false, safeReferencePattern_eq_true]
  constructor
  · rintro ⟨-, ⟨hfirst, hchars, hlength⟩, hsecret, hprivate⟩
    exact ⟨⟨hchars, hsecret, hprivate⟩, hfirst, hlength⟩
  · intro h
    refine ⟨⟨?_, ?_⟩, ⟨h.first, h.chars, h.bounded⟩, h.notSecret, h.notPrivate⟩
    · have hfirst := h.first
      rw [isBlank]
      cases htext : value.toList with
      | nil => simp [htext] at hfirst
      | cons c rest =>
        rw [htext, List.head?_cons, Option.any_some] at hfirst
        rw [List.all_cons, isJsSpace_of_isAlnum hfirst, Bool.false_and]
    · rw [utf16Length_of_chars h.chars]
      exact h.bounded

/-! ## Joined references -/

theorem avoids_privateFactValue : privateFactValue.avoids ':' = true := by decide

theorem avoids_privateFactText : privateFactText.avoids ':' = true := by decide

/-- **Joined references.** A text with a colon may be part of a reference iff the texts on either side of
the colon may. -/
theorem referenceText_of_separated {s a b : String}
    (hs : s.toList = a.toList ++ ':' :: b.toList) :
    ReferenceText s ↔ ReferenceText a ∧ ReferenceText b := by
  have hword : Regex.isWord ':' = false := by decide
  have hchars : s.toList.all isReferenceChar
      = (a.toList.all isReferenceChar && b.toList.all isReferenceChar) := by
    rw [hs, List.all_append, List.all_cons]
    rfl
  have hsecret := Regex.test_separated hword avoids_privateFactValue hs
  have hprivate := Regex.test_separated hword avoids_privateFactText hs
  constructor
  · rintro ⟨h1, h2, h3⟩
    rw [hchars, Bool.and_eq_true] at h1
    rw [hsecret, Bool.or_eq_false_iff] at h2
    rw [hprivate, Bool.or_eq_false_iff] at h3
    exact ⟨⟨h1.1, h2.1, h3.1⟩, h1.2, h2.2, h3.2⟩
  · rintro ⟨ha, hb⟩
    refine ⟨?_, ?_, ?_⟩
    · rw [hchars, ha.chars, hb.chars, Bool.and_self]
    · rw [hsecret, ha.notSecret, hb.notSecret, Bool.or_self]
    · rw [hprivate, ha.notPrivate, hb.notPrivate, Bool.or_self]

/-- A text is split in one way at its last separator. -/
theorem separated_inj {α : Type} {c : α} {a b x y : List α} (hx : c ∉ x) (hy : c ∉ y)
    (h : a ++ c :: x = b ++ c :: y) : a = b ∧ x = y := by
  -- Seen from the end, the separator is the first one.
  have first : ∀ x y a b : List α, c ∉ x → c ∉ y → x ++ c :: a = y ++ c :: b → x = y ∧ a = b := by
    intro x
    induction x with
    | nil =>
      intro y a b _ hy h
      cases y with
      | nil => exact ⟨rfl, (List.cons.inj h).2⟩
      | cons d y => exact absurd ((List.cons.inj h).1 ▸ List.mem_cons_self) hy
    | cons d x ih =>
      intro y a b hx hy h
      cases y with
      | nil => exact absurd ((List.cons.inj h).1 ▸ List.mem_cons_self) hx
      | cons e y =>
        obtain ⟨rfl, hrest⟩ := List.cons.inj h
        rw [List.mem_cons, not_or] at hx hy
        obtain ⟨rfl, rfl⟩ := ih y a b hx.2 hy.2 hrest
        exact ⟨rfl, rfl⟩
  have hrev := congrArg List.reverse h
  simp only [List.reverse_append, List.reverse_cons, List.append_assoc, List.singleton_append] at hrev
  obtain ⟨hxy, hab⟩ := first _ _ _ _ (by simpa using hx) (by simpa using hy) hrev
  exact ⟨List.reverse_inj.mp hab, List.reverse_inj.mp hxy⟩

/-! ## Valid events -/

/-- What `validateOperationalEvent` has checked. -/
structure ValidEvent (dateParse : String → Option Int) (capability : OperationalEventCapability)
    (context : WorkspaceContext) (event : OperationalEvent) : Prop where
  source : event.source = capability.source
  actorKind : capability.actorKindFor context = .ok event.actorKind
  workspace : context.workspaceId = event.workspaceId
  actor : context.principalId = event.actorId
  id : SafeReference event.id
  workspaceId : SafeReference event.workspaceId
  actorId : SafeReference event.actorId
  subjectType : subjectTypeCode event.subjectType = .ok ()
  subjectId : SafeReference event.subjectId
  idempotencyKey : SafeReference event.idempotencyKey
  correlationId : ∀ correlationId, event.correlationId = some correlationId →
    SafeReference correlationId
  occurredAt : (dateParse event.occurredAt).bind toISOString = some event.occurredAt
  facts : validateFacts event.type event.facts = .ok ()

/-- **Valid events.** -/
theorem validateOperationalEvent_eq_ok {dateParse : String → Option Int}
    {capability : OperationalEventCapability} {context : WorkspaceContext} {event : OperationalEvent}
    {u : Unit} :
    validateOperationalEvent dateParse capability context event = .ok u ↔
      ValidEvent dateParse capability context event := by
  have hbinding : capability.assertBinding context event = .ok () ↔
      event.source = capability.source ∧ capability.actorKindFor context = .ok event.actorKind := by
    rw [OperationalEventCapability.assertBinding, check_bind_eq_ok,
      OperationalEventCapability.assertSource, throwIf_eq_ok, not_not, except_bind_eq_ok]
    refine and_congr_right fun _ => ?_
    constructor
    · rintro ⟨actorKind, hkind, h⟩
      rw [throwIf_eq_ok, not_not] at h
      rw [hkind, h]
    · intro h
      exact ⟨_, h, by simp⟩
  unfold validateOperationalEvent
  rw [check_bind_eq_ok, hbinding, check_bind_eq_ok, check_bind_eq_ok, check_bind_eq_ok,
    check_bind_eq_ok, check_bind_eq_ok, check_bind_eq_ok, check_bind_eq_ok, check_bind_eq_ok,
    safeReference_eq_ok, safeReference_eq_ok, safeReference_eq_ok, safeReference_eq_ok,
    safeReference_eq_ok, throwIf_eq_ok, throwIf_eq_ok, not_not, not_not]
  constructor
  · rintro ⟨⟨hsource, hkind⟩, hworkspace, hactor, hid, hws, hactorId, htype, hsubject, hkey, h⟩
    cases hc : event.correlationId with
    | none =>
      rw [hc] at h
      simp only [check_bind_eq_ok, throwIf_eq_ok, not_not, ne_eq] at h
      exact ⟨hsource, hkind, hworkspace, hactor, hid, hws, hactorId, htype, hsubject, hkey,
        fun _ h => (by rw [hc] at h; cases h), h.1, h.2⟩
    | some correlationId =>
      rw [hc] at h
      simp only [check_bind_eq_ok, safeReference_eq_ok, throwIf_eq_ok, not_not, ne_eq] at h
      refine ⟨hsource, hkind, hworkspace, hactor, hid, hws, hactorId, htype, hsubject, hkey,
        fun other h' => ?_, h.2.1, h.2.2⟩
      rw [hc, Option.some.injEq] at h'
      exact h' ▸ h.1
  · intro h
    refine ⟨⟨h.source, h.actorKind⟩, h.workspace, h.actor, h.id, h.workspaceId, h.actorId,
      h.subjectType, h.subjectId, h.idempotencyKey, ?_⟩
    cases hc : event.correlationId with
    | none =>
      simp only [check_bind_eq_ok, throwIf_eq_ok, not_not, ne_eq]
      exact ⟨h.occurredAt, h.facts⟩
    | some correlationId =>
      simp only [check_bind_eq_ok, safeReference_eq_ok, throwIf_eq_ok, not_not, ne_eq]
      exact ⟨h.correlationId _ hc, h.occurredAt, h.facts⟩

/-! ## Issued capabilities -/

namespace OperationalEventCapability

variable {source : EventSource} {bindings : List OperationalEventPrincipalBinding}
  {capability : OperationalEventCapability}

/-- The principals of accepted bindings are references, and so are their workspaces. -/
theorem references_of_checkBindings {keys : List Key} (h : checkBindings keys bindings = .ok ()) :
    ∀ binding ∈ bindings, SafeReference binding.workspaceId ∧ SafeReference binding.principalId := by
  induction bindings generalizing keys with
  | nil => exact fun _ h => absurd h List.not_mem_nil
  | cons binding rest ih =>
    simp only [checkBindings, check_bind_eq_ok, safeReference_eq_ok] at h
    obtain ⟨hworkspace, hprincipal, -, hrest⟩ := h
    exact List.forall_mem_cons.mpr ⟨⟨hworkspace, hprincipal⟩, ih hrest⟩

/-- **Issued capabilities** speak for their source, and for principals that are references in workspaces
that are references. -/
theorem issue_eq_ok (h : issue source bindings = .ok capability) :
    capability.source = source ∧ ∀ context actorKind, capability.actorKindFor context = .ok actorKind →
      SafeReference context.workspaceId ∧ SafeReference context.principalId := by
  simp only [issue, check_bind_eq_ok, except_pure_eq_ok] at h
  obtain ⟨-, hbindings, rfl⟩ := h
  refine ⟨rfl, fun context actorKind hkind => ?_⟩
  unfold actorKindFor at hkind
  split at hkind
  · rename_i binding hfind
    have hmem := List.mem_reverse.mp (List.mem_of_find?_eq_some hfind)
    have hmatch := List.find?_some (p := fun binding : OperationalEventPrincipalBinding =>
      binding.workspaceId == context.workspaceId && binding.principalId == context.principalId) hfind
    rw [Bool.and_eq_true, beq_iff_eq, beq_iff_eq] at hmatch
    rw [← hmatch.1, ← hmatch.2]
    exact references_of_checkBindings hbindings binding hmem
  · cases hkind

end OperationalEventCapability

end VentureOS.ControlPlane
