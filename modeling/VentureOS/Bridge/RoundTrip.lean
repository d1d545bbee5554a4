import VentureOS.Bridge.LineBuffer

/-! # Round trips of the bridge

What one side encodes the other side decodes, with the fields in the order of their keys, unless a text has a
replacement character: `encodeBridgeLine` writes it, and `decodeBridgeLine` takes it for bytes that are not UTF-8. -/

namespace VentureOS.Bridge.Line

open JsonText TextDecoder BoundedBridgeLineBuffer

variable {dateParse : String → Option Int}

section Sorted

variable {fields sorted : List (Text × Value)} (hsorted : (Value.obj fields).sorted = .obj sorted)
  (hkeys : (fields.map Prod.fst).Nodup)
include hsorted

theorem perm_sorted : sorted.Perm (Value.sortedFields fields) := by
  cases hsorted
  exact sortBy_perm _ _

theorem perm_keys_sorted : (sorted.map Prod.fst).Perm (fields.map Prod.fst) :=
  Value.map_fst_sortedFields fields ▸ (perm_sorted hsorted).map Prod.fst

include hkeys

/-- Sorting a record sorts the values of its fields. -/
theorem lookupEntry_sorted (key : Text) : lookupEntry key sorted = (lookupEntry key fields).map Value.sorted := by
  ext value
  rw [lookupEntry_eq_some ((perm_keys_sorted hsorted).nodup_iff.mpr hkeys), (perm_sorted hsorted).mem_iff,
    Value.sortedFields_eq_map, List.mem_map, Option.map_eq_some_iff]
  constructor
  · rintro ⟨⟨k, v⟩, hmem, h⟩
    cases h
    exact ⟨v, (lookupEntry_eq_some hkeys).mpr hmem, rfl⟩
  · rintro ⟨v, hlookup, rfl⟩
    exact ⟨(key, v), (lookupEntry_eq_some hkeys).mp hlookup, rfl⟩

/-- The checks of an envelope do not see the order of its fields. -/
theorem validateFields_sorted : validateFields dateParse sorted = validateFields dateParse fields := by
  have hlookup := lookupEntry_sorted hsorted hkeys
  have hnames := perm_keys_sorted hsorted
  -- A sorted value is of the same kind, and a text or a number is sorted.
  have htext : ∀ field, textField sorted field = textField fields field := by
    intro field
    unfold textField
    rw [hlookup]
    cases lookupEntry (ofString field) fields with
    | none => rfl
    | some value => cases value <;> rfl
  have hversion : ∀ field text, fieldIsText sorted field text = fieldIsText fields field text := by
    intro field text
    unfold fieldIsText
    rw [hlookup]
    cases lookupEntry (ofString field) fields with
    | none => rfl
    | some value => cases value <;> rfl
  have hsequence : sequenceIsValid sorted = sequenceIsValid fields := by
    unfold sequenceIsValid
    rw [hlookup]
    cases lookupEntry (ofString "sequence") fields with
    | none => rfl
    | some value => cases value <;> rfl
  have hpayload : (lookupEntry (ofString "payload") sorted).any Codec.accepts
      = (lookupEntry (ofString "payload") fields).any Codec.accepts := by
    rw [hlookup]
    cases lookupEntry (ofString "payload") fields with
    | none => rfl
    | some value => exact Codec.accepts_sorted value
  have hkeysSorted : (sorted.map Prod.fst).isPerm envelopeKeys = (fields.map Prod.fst).isPerm envelopeKeys := by
    rw [Bool.eq_iff_iff, List.isPerm_iff, List.isPerm_iff]
    exact ⟨hnames.symm.trans, hnames.trans⟩
  simp only [validateFields, List.forM, safeReference, timestampField, htext, hversion, hsequence, hpayload,
    hkeysSorted]

end Sorted

theorem validateBridgeEnvelope_sorted {envelope : Value} (hkeyed : envelope.Keyed) :
    validateBridgeEnvelope dateParse envelope.sorted = validateBridgeEnvelope dateParse envelope := by
  cases envelope with
  | obj fields => exact validateFields_sorted rfl hkeyed.1
  | _ => rfl

/-- What is received for an envelope that was sent. -/
def received (envelope : Value) : Except LineError Value :=
  if '\uFFFD' ∈ envelope.sorted.print then .error (.protocol "Frame is not valid UTF-8") else .ok envelope.sorted

theorem decode_of_encode (envelope : Value.Js) {line : List UInt8}
    (h : encodeBridgeLine dateParse envelope.1 = .ok line) : decodeBridgeLine dateParse line = received envelope.1 := by
  obtain ⟨hvalidated, canonical, hcanonical, hlength, rfl⟩ := encodeBridgeLine_eq_ok.mp h
  have hprinted := Codec.printed_of_canonicalJson envelope.2 hcanonical
  rw [received, (Codec.canonicalJson_eq_some.mp hcanonical).2]
  split
  · rename_i hmem
    have hraw : toUtf8 (octets (canonical ++ ['\n'])).toByteArray = canonical ++ ['\n'] := by
      rw [← encode_eq_octets, toUtf8_encode]
    have hpos : (octets (canonical ++ ['\n'])).length ≠ 0 := by
      rw [octets_append, List.length_append]
      exact Nat.ne_of_gt (Nat.add_pos_right _ (by decide))
    simp only [decodeBridgeLine, throwIf, if_neg (not_or.mpr ⟨hpos, Nat.not_lt.mpr hlength⟩), hraw,
      if_pos (List.mem_append_left _ hmem)]
    rfl
  · rename_i hplain
    have hline : '\n' ∉ canonical := fun hmem => absurd (hprinted _ hmem) (by decide)
    exact decodeBridgeLine_eq_ok.mpr ⟨canonical, rfl, hlength, hplain, hline,
      Codec.parse_of_canonicalJson envelope.2 hcanonical, (validateBridgeEnvelope_sorted envelope.2).trans hvalidated,
      Codec.canonicalJson_sorted envelope.2 hcanonical⟩

theorem mapM_decode_of_encode {envelopes : List Value.Js} {lines : List (List UInt8)}
    (h : envelopes.mapM (fun envelope => encodeBridgeLine dateParse envelope.1) = .ok lines) :
    lines.mapM (decodeBridgeLine dateParse) = envelopes.mapM fun envelope => received envelope.1 := by
  induction envelopes generalizing lines with
  | nil =>
    cases h
    rfl
  | cons envelope envelopes ih =>
    simp only [List.mapM_cons, except_bind_eq_ok, except_pure_eq_ok] at h
    obtain ⟨line, hline, rest, hrest, rfl⟩ := h
    rw [List.mapM_cons, List.mapM_cons, decode_of_encode envelope hline, ih hrest]

/-- **What one side sends the other side receives.** A line that is encoded is decoded to its envelope, with the fields
sorted, unless a text has a replacement character; and whatever the chunks are in which the lines come in, the envelopes
are returned in their order, and nothing is left behind. -/
theorem stream_round_trip (dateParse : String → Option Int) :
    (∀ (envelope : Value.Js) (line : List UInt8), encodeBridgeLine dateParse envelope.1 = .ok line →
      decodeBridgeLine dateParse line = received envelope.1)
    ∧ ∀ (envelopes : List Value.Js) (lines chunks : List (List UInt8)) (messages : List Value),
      envelopes.mapM (fun envelope => encodeBridgeLine dateParse envelope.1) = .ok lines →
      envelopes.mapM (fun envelope => received envelope.1) = .ok messages → chunks.flatten = lines.flatten →
      (∀ chunk ∈ chunks, chunk.length ≤ maxBridgeBufferBytes - maxBridgeLineBytes + 1) →
      ∃ returned : List (List Value), pushes dateParse [] chunks = ([], returned.map .ok)
        ∧ returned.flatten = messages := by
  refine ⟨fun envelope line => decode_of_encode envelope, ?_⟩
  intro envelopes lines chunks messages h hreceived hstream hchunks
  exact pushes_flatten ((mapM_decode_of_encode h).trans hreceived) hstream (by simp) (by decide) hchunks

/-- A heartbeat is received. -/
theorem stream_round_trip_heartbeat : ∃ returned : List (List Value),
    pushes Sample.dateParse [] [Sample.line] = ([], returned.map .ok)
      ∧ returned.flatten = [(Value.obj Sample.heartbeat).sorted] := by
  obtain ⟨canonical, hline, hlength, -, -, -, hvalidated, hcanonical⟩ := decodeBridgeLine_eq_ok.mp Sample.decode_line
  have hencoded : encodeBridgeLine Sample.dateParse (.obj Sample.heartbeat) = .ok Sample.line :=
    encodeBridgeLine_eq_ok.mpr ⟨hvalidated, canonical, hcanonical, hlength, hline⟩
  have hreceived : received (.obj Sample.heartbeat) = .ok (Value.obj Sample.heartbeat).sorted :=
    if_neg (Sample.sorted_heartbeat ▸ Sample.print_heartbeat_checked.2)
  exact (stream_round_trip Sample.dateParse).2 [⟨_, Sample.keyed_heartbeat⟩] [Sample.line] [Sample.line] _
    (by rw [List.mapM_cons, hencoded]; rfl) (by rw [List.mapM_cons, hreceived]; rfl) rfl
    (List.forall_mem_singleton.mpr (hlength.trans (by decide)))

end VentureOS.Bridge.Line
