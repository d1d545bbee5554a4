import VentureOS.Bridge.RecoveryPeer

/-! # The texts of recovery observations

Which texts of a response the codec accepts. Identifiers with a UUID, digests and timestamps are of characters that
block every forbidden text; for references and signals it is the codec that decides. -/

namespace VentureOS.Bridge

open JsonText Codec

/-! ## Alphabets -/

/-- A text in an alphabet that blocks the expression does not match it, in either case. -/
theorem testIgnoreCase_of_blocked {alphabet : List Char} {r : Regex}
    (hblocked : r.blocked (alphabet.map Regex.foldCase) = true) {s : String} (hs : ∀ c ∈ s.toList, c ∈ alphabet) :
    Durable.testIgnoreCase r s = false := by
  refine Regex.test_of_blocked hblocked fun c hc => ?_
  rw [String.toList_ofList] at hc
  obtain ⟨c', hc', rfl⟩ := List.mem_map.mp hc
  exact List.mem_map_of_mem (hs c' hc')

variable {text : Text}

/-- For a short text it is the expression that decides. -/
theorem acceptsText_iff (hlength : (toWellFormed text).toList.length ≤ 1024) :
    acceptsText text = true ↔ isSensitive (toWellFormed text) = false := by
  have hunits := length_le_toWellFormed text
  have hshort : text.length ≤ 2048 := by omega
  rw [acceptsText, decide_eq_true hshort, Bool.true_and, Bool.not_eq_true']

/-- A short text in an alphabet that blocks the forbidden texts is accepted. -/
theorem acceptsText_of_alphabet {alphabet : List Char}
    (hblocked : sensitive.blocked (alphabet.map Regex.foldCase) = true)
    (hchars : ∀ c ∈ (toWellFormed text).toList, c ∈ alphabet)
    (hlength : (toWellFormed text).toList.length ≤ 1024) : acceptsText text = true :=
  (acceptsText_iff hlength).mpr (testIgnoreCase_of_blocked hblocked hchars)

/-! ## Identifiers -/

theorem uuidPattern_spec {text : List Char} (h : uuidPattern text = true) :
    text.length = 36 ∧ ∀ c ∈ text, c ∈ '-' :: hexDigits := by
  obtain ⟨hlength, hall⟩ := Bool.and_eq_true_iff.mp h
  refine ⟨of_decide_eq_true hlength, fun c hc => ?_⟩
  obtain ⟨i, hi, rfl⟩ := List.getElem_of_mem hc
  have hplace := List.all_eq_true.mp hall (text[i], i) (List.mem_zipIdx_iff_getElem?.mpr (List.getElem?_eq_getElem hi))
  simp only [uuidChar] at hplace
  split at hplace
  · rw [beq_iff_eq.mp hplace]
    exact List.mem_cons_self
  · split at hplace
    · rw [beq_iff_eq.mp hplace]
      decide
    · split at hplace
      · have hvariant : ∀ c ∈ ['8', '9', 'a', 'b'], c ∈ '-' :: hexDigits := forall_mem_of_all (by decide)
        exact hvariant _ (List.contains_iff_mem.mp hplace)
      · exact List.mem_cons_of_mem _ (List.contains_iff_mem.mp hplace)

/-- The characters of the identifiers. -/
def identifierAlphabet : List Char := "native-recovery-observation-".toList ++ '-' :: hexDigits

theorem identifier_blocked : sensitive.blocked (identifierAlphabet.map Regex.foldCase) = true := by decide

/-- The id of a response is accepted. -/
theorem acceptsText_responseId {uuid : String} (h : uuidPattern uuid.toList = true) :
    acceptsText (ofString ("native-recovery-observation-" ++ uuid)) = true := by
  obtain ⟨hlength, hchars⟩ := uuidPattern_spec h
  apply acceptsText_of_alphabet identifier_blocked
  · rw [toWellFormed_ofString, String.toList_append, List.forall_mem_append]
    exact ⟨fun c hc => List.mem_append_left _ hc, fun c hc => List.mem_append_right _ (hchars c hc)⟩
  · rw [toWellFormed_ofString, String.toList_append, List.length_append, hlength]
    decide

/-- The id of a request is accepted. -/
theorem acceptsText_requestId (h : requestIdPattern (toWellFormed text).toList = true) :
    acceptsText text = true := by
  obtain ⟨hinit, huuid⟩ := Bool.and_eq_true_iff.mp h
  obtain ⟨rest, hrest⟩ := List.isPrefixOf_iff_prefix.mp hinit
  rw [← hrest] at huuid
  have hdrop : ("recovery-observation-".toList ++ rest).drop 21 = rest := List.drop_left' rfl
  rw [hdrop] at huuid
  obtain ⟨hlength, hchars⟩ := uuidPattern_spec huuid
  have hfirst : ∀ c ∈ "recovery-observation-".toList, c ∈ identifierAlphabet := forall_mem_of_all (by decide)
  apply acceptsText_of_alphabet identifier_blocked
  · rw [← hrest, List.forall_mem_append]
    exact ⟨hfirst, fun c hc => List.mem_append_right _ (hchars c hc)⟩
  · rw [← hrest, List.length_append, hlength]
    decide

/-- A digest is accepted. -/
theorem acceptsText_hash (h : Observation.isHash text = true) : acceptsText text = true := by
  obtain ⟨hlength, hdigits⟩ := Bool.and_eq_true_iff.mp h
  have hlength := of_decide_eq_true hlength
  apply acceptsText_of_alphabet identifier_blocked
  · intro c hc
    exact List.mem_append_right _ (List.mem_cons_of_mem _ (mem_hexDigits (List.all_eq_true.mp hdigits c hc)))
  · omega

/-- A canonical timestamp is accepted. -/
theorem IsStamp.accepts {dateParse : Text → Option Int} {time : Int} (h : IsStamp dateParse text time) :
    acceptsText text = true := by
  obtain ⟨iso, hiso, rfl⟩ := Option.map_eq_some_iff.mp h.canonical
  obtain ⟨hchars, hlength⟩ := toISOString_spec hiso
  apply acceptsText_of_alphabet (by decide : sensitive.blocked (timeAlphabet.map Regex.foldCase) = true)
  · rw [toWellFormed_ofString]
    exact hchars
  · rw [toWellFormed_ofString]
    omega

/-! ## References -/

theorem length_of_isReference (h : isReference text = true) : (toWellFormed text).toList.length ≤ 256 := by
  have hpattern := (Bool.and_eq_true_iff.mp h).1
  unfold referencePattern at hpattern
  cases hchars : (toWellFormed text).toList with
  | nil => exact Nat.zero_le _
  | cons c rest =>
    rw [hchars] at hpattern
    simp only [Bool.and_eq_true, decide_eq_true_eq] at hpattern
    rw [List.length_cons]
    omega

/-- What stands before the UUID in the id of a response. -/
def responsePrefix : String := "native-recovery-observation"

/-- The id of a response is no private text. Its characters block every private text but `secret`, which has no dash
and would stand in one of the two parts. -/
theorem not_private_responseId {uuid : String} (h : ∀ c ∈ uuid.toList, c ∈ '-' :: hexDigits) {text : String}
    (htext : text.toList = responsePrefix.toList ++ '-' :: uuid.toList) :
    Durable.testIgnoreCase privateText text = false := by
  have hfold : ∀ c ∈ identifierAlphabet, Regex.foldCase c = c := forall_mem_of_all (by decide)
  have hinit : ∀ c ∈ responsePrefix.toList, c ∈ identifierAlphabet := forall_mem_of_all (by decide)
  have hchars : ∀ c ∈ text.toList, c ∈ identifierAlphabet := by
    rw [htext, List.forall_mem_append, List.forall_mem_cons]
    exact ⟨hinit, by decide, fun c hc => List.mem_append_right _ (h c hc)⟩
  have hsame : String.ofList (text.toList.map Regex.foldCase) = text := by
    rw [List.map_congr_left fun c hc => hfold c (hchars c hc), List.map_id', String.ofList_toList]
  have hblocked : ∀ r : Regex, r.blocked identifierAlphabet = true → ¬ r.test text = true :=
    fun r hr => Bool.not_eq_true _ ▸ Regex.test_of_blocked hr hchars
  have huuid : (Regex.literal "secret").blocked ('-' :: hexDigits) = true := by decide
  have hsecret : ¬ (Regex.literal "secret").test text = true := by
    rw [Regex.test_separated (c := '-') (by decide) (by decide) htext, Bool.or_eq_true, not_or]
    exact ⟨by decide, Bool.not_eq_true _ ▸ Regex.test_of_blocked huuid h⟩
  rw [Durable.testIgnoreCase, hsame, privateText, Regex.test_altAll, List.any_eq_false]
  simp only [List.forall_mem_cons]
  exact ⟨hblocked _ (by decide), hblocked _ (by decide), hblocked _ (by decide),
    hblocked _ (by decide), hblocked _ (by decide), hblocked _ (by decide),
    hblocked _ (by decide), hblocked _ (by decide), hsecret, hblocked _ (by decide),
    hblocked _ (by decide), fun _ hr => absurd hr List.not_mem_nil⟩

/-- The id of a response is a reference. -/
theorem isReference_responseId {uuid : String} (h : uuidPattern uuid.toList = true) :
    isReference (ofString ("native-recovery-observation-" ++ uuid)) = true := by
  obtain ⟨hlength, hchars⟩ := uuidPattern_spec h
  have hprefix : "native-recovery-observation-".toList = responsePrefix.toList ++ ['-'] := by decide
  have htext : ("native-recovery-observation-" ++ uuid).toList = responsePrefix.toList ++ '-' :: uuid.toList := by
    rw [String.toList_append, hprefix, List.append_assoc, List.singleton_append]
  have hreference : ∀ c ∈ responsePrefix.toList.tail ++ '-' :: '-' :: hexDigits,
      (isAlnum c || [':', '.', '_', '/', '-'].contains c) = true :=
    List.all_eq_true.mp (by decide)
  rw [isReference, toWellFormed_ofString, not_private_responseId hchars htext, Bool.not_false, Bool.and_true,
    referencePattern, htext]
  show (isAlnum 'n' && decide ((responsePrefix.toList.tail ++ '-' :: uuid.toList).length ≤ 255)
    && (responsePrefix.toList.tail ++ '-' :: uuid.toList).all _) = true
  rw [Bool.and_eq_true, Bool.and_eq_true, decide_eq_true_eq, List.length_append, List.length_cons, hlength,
    List.all_eq_true]
  refine ⟨⟨by decide, by decide⟩, fun c hc => hreference c ?_⟩
  rcases List.mem_append.mp hc with hc | hc
  · exact List.mem_append_left _ hc
  · rcases List.mem_cons.mp hc with rfl | hc
    · exact List.mem_append_right _ List.mem_cons_self
    · exact List.mem_append_right _ (List.mem_cons_of_mem _ (hchars c hc))

theorem length_of_signalPattern {text : List Char} (h : signalPattern text = true) : text.length ≤ 34 := by
  simp only [signalPattern, Bool.and_eq_true, decide_eq_true_eq] at h
  exact h.1.2.2

end VentureOS.Bridge
