import VentureOS.Bridge.Codec

/-! # Frames of the local channels

`encode` and `decode` of `retained-native-supervisor-local-ipc.ts` and of
`retained-native-supervisor-topology-observation-local-ipc.ts`.

A frame that was encoded is decoded to the same message, and to nothing in any other way. What a decoder accepts is
the encoding of its message after a byte order mark or without one: the decoders compare texts, and a text does not
show a byte order mark. -/

namespace VentureOS.Bridge

open JsonText Codec TextDecoder

/-- `RetainedNativeSupervisorLocalIpcErrorCode`. -/
inductive LocalIpcErrorCode where
  | NOT_CONFIGURED
  | INVALID_AUTHORIZATION
  | INVALID_ATTESTATION
  | INVALID_FRAME
  | LIMIT_EXCEEDED
  | CONCURRENT_EXCHANGE
  | EXCHANGE_DENIED
  deriving DecidableEq, Repr

/-- `MAX_RETAINED_NATIVE_SUPERVISOR_IPC_FRAME_BYTES`. -/
def maxIpcFrameBytes : Nat := 32768

/-- A missing result is an error. -/
def orThrow {ε α : Type} (e : ε) : Option α → Except ε α
  | some a => .ok a
  | none => .error e

variable {α : Type}

theorem orThrow_eq_ok {ε : Type} {e : ε} {x : Option α} {a : α} : orThrow e x = .ok a ↔ x = some a := by
  cases x with
  | none => simp [orThrow]
  | some b => simp [orThrow]

theorem orThrow_bind_eq_ok {ε β : Type} {e : ε} {x : Option α} {f : α → Except ε β} {b : β} :
    (orThrow e x >>= f) = .ok b ↔ ∃ a, x = some a ∧ f a = .ok b := by
  simp only [except_bind_eq_ok, orThrow_eq_ok]

/-- A frame is denied when it cannot be read. -/
def orInvalidFrame {α : Type} (x : Option α) : Except LocalIpcErrorCode α := orThrow .INVALID_FRAME x

theorem orInvalidFrame_eq_ok {x : Option α} {a : α} : orInvalidFrame x = .ok a ↔ x = some a := orThrow_eq_ok

theorem orInvalidFrame_bind_eq_ok {β : Type} {x : Option α} {f : α → Except LocalIpcErrorCode β} {b : β} :
    (orInvalidFrame x >>= f) = .ok b ↔ ∃ a, x = some a ∧ f a = .ok b := orThrow_bind_eq_ok

/-! ## Records -/

/-- `plainRecord`: the fields of a record with these keys. -/
def plainRecord (expected : List Text) : Value → Option (List (Text × Value))
  | .obj fields => if (fields.map Prod.fst).isPerm expected = true then some fields else none
  | _ => none

/-- A field is this number. -/
def fieldIsInt (fields : List (Text × Value)) (name : String) (n : Int) : Bool :=
  match lookupEntry (ofString name) fields with
  | some (.int m) => m == n
  | _ => false

/-- A field is this text. -/
def fieldIsText (fields : List (Text × Value)) (name : String) (text : Text) : Bool :=
  match lookupEntry (ofString name) fields with
  | some (.str t) => t == text
  | _ => false

variable {fields : List (Text × Value)}

theorem plainRecord_eq_some {expected : List Text} {value : Value} :
    plainRecord expected value = some fields ↔ value = .obj fields ∧ (fields.map Prod.fst).Perm expected := by
  unfold plainRecord
  split
  · rename_i fields'
    split
    · rename_i hperm
      rw [List.isPerm_iff] at hperm
      constructor
      · intro h
        cases h
        exact ⟨rfl, hperm⟩
      · rintro ⟨h, -⟩
        cases h
        rfl
    · rename_i hperm
      rw [List.isPerm_iff] at hperm
      refine ⟨fun h => (nomatch h), ?_⟩
      rintro ⟨h, hkeys⟩
      cases h
      exact absurd hkeys hperm
  · rename_i hother
    refine ⟨fun h => (nomatch h), ?_⟩
    rintro ⟨rfl, -⟩
    exact absurd rfl (hother fields)

theorem fieldIsInt_iff {name : String} {n : Int} :
    fieldIsInt fields name n = true ↔ lookupEntry (ofString name) fields = some (.int n) := by
  unfold fieldIsInt
  split
  · rename_i m hlookup
    rw [hlookup, beq_iff_eq, Option.some.injEq, Value.int.injEq]
  · rename_i hother
    exact ⟨fun h => (nomatch h), fun h => absurd h (hother n)⟩

theorem fieldIsText_iff {name : String} {text : Text} :
    fieldIsText fields name text = true ↔ lookupEntry (ofString name) fields = some (.str text) := by
  unfold fieldIsText
  split
  · rename_i t hlookup
    rw [hlookup, beq_iff_eq, Option.some.injEq, Value.str.injEq]
  · rename_i hother
    exact ⟨fun h => (nomatch h), fun h => absurd h (hother text)⟩

/-- A record is determined by its keys and what is found under them. -/
theorem perm_of_lookup {expected : List (Text × Value)}
    (hkeys : (fields.map Prod.fst).Perm (expected.map Prod.fst)) (hnodup : (expected.map Prod.fst).Nodup)
    (hvalues : ∀ entry ∈ expected, lookupEntry entry.1 fields = some entry.2) : fields.Perm expected := by
  have hfields : (fields.map Prod.fst).Nodup := hkeys.nodup_iff.mpr hnodup
  rw [List.perm_ext_iff_of_nodup (List.Nodup.of_map _ hfields) (List.Nodup.of_map _ hnodup)]
  intro entry
  constructor
  · intro hmem
    have hkey : entry.1 ∈ expected.map Prod.fst := hkeys.mem_iff.mp (List.mem_map_of_mem hmem)
    obtain ⟨entry', hmem', hkey'⟩ := List.mem_map.mp hkey
    have hlookup := hvalues entry' hmem'
    rw [hkey', (lookupEntry_eq_some hfields).mpr hmem, Option.some.injEq] at hlookup
    rwa [show entry = entry' from Prod.ext hkey'.symm hlookup]
  · exact fun hmem => (lookupEntry_eq_some hfields).mp (hvalues entry hmem)

/-- Two records with the same keys in the same order are the same when one is the other in some order. -/
theorem eq_of_perm {fields' : List (Text × Value)} (hkeys : fields.map Prod.fst = fields'.map Prod.fst)
    (hnodup : (fields.map Prod.fst).Nodup) (h : fields.Perm fields') : fields = fields' := by
  induction fields generalizing fields' with
  | nil => rw [List.nil_perm.mp h]
  | cons field rest ih =>
    cases fields' with
    | nil => cases hkeys
    | cons field' rest' =>
      simp only [List.map_cons, List.cons.injEq, List.nodup_cons] at hkeys hnodup
      have hfield : field = field' := by
        rcases List.mem_cons.mp (h.subset List.mem_cons_self) with heq | hmem
        · exact heq
        · -- The key of the first field is not found again.
          exact absurd (hkeys.2 ▸ List.mem_map_of_mem hmem) hnodup.1
      subst hfield
      rw [ih hkeys.2 hnodup.2 h.cons_inv]

/-- Every error of a computation is one of these. -/
def ErrorsIn {α : Type} (codes : List LocalIpcErrorCode) (x : Except LocalIpcErrorCode α) : Prop :=
  ∀ code, x = .error code → code ∈ codes

section Errors

variable {β : Type} {codes : List LocalIpcErrorCode} {code : LocalIpcErrorCode}

theorem errorsIn_ok (a : α) : ErrorsIn codes (.ok a) := by
  intro code h
  cases h

theorem errorsIn_orThrow (hcode : code ∈ codes) (x : Option α) : ErrorsIn codes (orThrow code x) := by
  intro code' h
  cases x with
  | none =>
    cases h
    exact hcode
  | some a => cases h

theorem errorsIn_throwIf {p : Prop} [Decidable p] (hcode : code ∈ codes) : ErrorsIn codes (throwIf p code) := by
  intro code' h
  rw [← (throwIf_eq_error.mp h).2]
  exact hcode

theorem ErrorsIn.bind {x : Except LocalIpcErrorCode α} {f : α → Except LocalIpcErrorCode β} (hx : ErrorsIn codes x)
    (hf : ∀ a, ErrorsIn codes (f a)) : ErrorsIn codes (x >>= f) := by
  intro code h
  cases x with
  | error e =>
    cases h
    exact hx code rfl
  | ok a => exact hf a code h

theorem ErrorsIn.mono {codes' : List LocalIpcErrorCode} {x : Except LocalIpcErrorCode α} (hx : ErrorsIn codes x)
    (h : ∀ code ∈ codes, code ∈ codes') : ErrorsIn codes' x :=
  fun code hcode => h code (hx code hcode)

/-- What is not accepted is denied with the only error there is. -/
theorem ErrorsIn.eq_error {x : Except LocalIpcErrorCode α} (hx : ErrorsIn [code] x) (h : ∀ a, x ≠ .ok a) :
    x = .error code := by
  cases x with
  | error e => rw [List.mem_singleton.mp (hx e rfl)]
  | ok a => exact absurd rfl (h a)

end Errors

/-! ## Lines -/

/-- The text of a record, and its line. -/
structure RecordLine (fields : List (Text × Value)) (text : List Char) (frame : ByteArray) : Prop where
  keyed : (Value.obj fields).Keyed
  canonical : Codec.canonicalJson (.obj fields) = some text
  encoded : frame = TextDecoder.encode (text ++ ['\n'])
  bounded : frame.size ≤ maxIpcFrameBytes

namespace RecordLine

variable {text : List Char} {frame : ByteArray} (h : RecordLine fields text frame)
include h

/-- The text is parsed to the record, with its fields sorted. -/
theorem parsed : ∃ fields', parse text = some (.obj fields')
    ∧ fields'.Perm (fields.map fun field => (field.1, field.2.sorted))
    ∧ Codec.canonicalJson (.obj fields') = some text := by
  refine ⟨_, parse_of_canonicalJson h.keyed h.canonical, ?_, canonicalJson_sorted h.keyed h.canonical⟩
  rw [← Value.sortedFields_eq_map]
  exact sortBy_perm _ _

theorem plain : '\r' ∉ text ∧ '\n' ∉ text := by
  have hprinted := printed_of_canonicalJson h.keyed h.canonical
  exact ⟨fun hmem => absurd (hprinted _ hmem) (by decide), fun hmem => absurd (hprinted _ hmem) (by decide)⟩

theorem braces : ∃ c tail, text = '{' :: c :: tail := by
  have hprint := (canonicalJson_eq_some.mp h.canonical).2
  rw [Value.sorted] at hprint
  rw [← hprint]
  exact Value.print_obj _

theorem noBom : hasBom frame = false ∧ hasBom (TextDecoder.encode text) = false := by
  obtain ⟨c, tail, rfl⟩ := h.braces
  rw [h.encoded]
  exact ⟨hasBom_encode_brace _, hasBom_encode_brace _⟩

theorem size_ge : 3 ≤ frame.size := by
  obtain ⟨c, tail, rfl⟩ := h.braces
  have hlength := length_le_size_encode ('{' :: c :: tail ++ ['\n'])
  rw [← h.encoded, List.length_append, List.length_cons, List.length_cons, List.length_singleton] at hlength
  omega

theorem ends : endsLine frame = true ∧ line frame = TextDecoder.encode text := by
  rw [h.encoded, encode_newline]
  exact ⟨endsLine_append _, line_append_newline _⟩

/-- Every decoder reads the text. -/
theorem decoded : decodeFatal (line frame) = some text ∧ decodeFatal frame = some (text ++ ['\n'])
    ∧ decodeLossy frame = text ++ ['\n'] := by
  obtain ⟨hframe, htext⟩ := h.noBom
  have hdrop : dropBom frame = TextDecoder.encode (text ++ ['\n']) := by
    rw [dropBom_of_not hframe]
    exact h.encoded
  refine ⟨?_, decodeFatal_eq_some.mpr hdrop, decodeLossy_eq hdrop⟩
  rw [decodeFatal_eq_some, h.ends.2]
  exact dropBom_of_not htext

/-- The size and the end of a line are checked by both decoders. -/
theorem checked : throwIf (frame.size < 3) LocalIpcErrorCode.INVALID_FRAME = .ok ()
    ∧ throwIf (maxIpcFrameBytes < frame.size) LocalIpcErrorCode.LIMIT_EXCEEDED = .ok ()
    ∧ throwIf (endsLine frame = false) LocalIpcErrorCode.INVALID_FRAME = .ok () := by
  have hsize := h.size_ge
  have hbounded := h.bounded
  rw [throwIf_eq_ok, throwIf_eq_ok, throwIf_eq_ok, h.ends.1]
  exact ⟨by omega, by omega, Bool.noConfusion⟩

/-- What the text is parsed to has the fields of the record. -/
theorem perm_of_parse {fields' : List (Text × Value)} (hparse : parse text = some (.obj fields')) :
    fields'.Perm (fields.map fun field => (field.1, field.2.sorted)) := by
  obtain ⟨fields'', hparse'', hperm, -⟩ := h.parsed
  rw [hparse, Option.some.injEq, Value.obj.injEq] at hparse''
  exact hparse'' ▸ hperm

end RecordLine

/-- The line of a record is written. -/
theorem writeLine_eq_ok {frame : ByteArray} :
    (do
        let text ← orInvalidFrame (Codec.canonicalJson (.obj fields))
        let encoded := TextDecoder.encode (text ++ ['\n'])
        throwIf (maxIpcFrameBytes < encoded.size) .LIMIT_EXCEEDED
        return encoded) = Except.ok frame
      ↔ ∃ text, Codec.canonicalJson (.obj fields) = some text ∧ TextDecoder.encode (text ++ ['\n']) = frame
        ∧ frame.size ≤ maxIpcFrameBytes := by
  simp only [orInvalidFrame_bind_eq_ok, check_bind_eq_ok, throwIf_eq_ok, except_pure_eq_ok, Nat.not_lt]
  refine exists_congr fun text => and_congr_right fun _ => ?_
  constructor
  · rintro ⟨hsize, rfl⟩
    exact ⟨rfl, hsize⟩
  · rintro ⟨rfl, hsize⟩
    exact ⟨hsize, rfl⟩

/-! ## The recovery channel -/

/-- The direction of a frame of the recovery channel. -/
inductive RecoveryDirection where
  | WORKER_TO_SUPERVISOR
  | SUPERVISOR_TO_WORKER
  deriving DecidableEq, Repr

def RecoveryDirection.text : RecoveryDirection → Text
  | .WORKER_TO_SUPERVISOR => ofString "WORKER_TO_SUPERVISOR"
  | .SUPERVISOR_TO_WORKER => ofString "SUPERVISOR_TO_WORKER"

theorem RecoveryDirection.text_injective {d d' : RecoveryDirection} (h : d.text = d'.text) : d = d' := by
  cases d <;> cases d' <;> revert h <;> decide

variable {direction : RecoveryDirection} {frame : ByteArray} {message : Value}

variable {input : ByteArray}

namespace Recovery

/-- The protocol of the frames. -/
def protocol : Text := ofString "VENTUREOS_RETAINED_NATIVE_RECOVERY_IPC"

/-- `FRAME_KEYS`. -/
def frameKeys : List Text :=
  [ofString "direction", ofString "message", ofString "protocol", ofString "schemaVersion"]

/-- The fields of a frame. -/
def frameOf (direction : RecoveryDirection) (message : Value) : List (Text × Value) := [
  (ofString "schemaVersion", .int 1),
  (ofString "protocol", .str protocol),
  (ofString "direction", .str direction.text),
  (ofString "message", message)]

/-- `encode`. -/
def encode (direction : RecoveryDirection) (message : Value) : Except LocalIpcErrorCode ByteArray := do
  let text ← orInvalidFrame (Codec.canonicalJson (.obj (frameOf direction message)))
  let encoded := TextDecoder.encode (text ++ ['\n'])
  throwIf (maxIpcFrameBytes < encoded.size) .LIMIT_EXCEEDED
  return encoded

/-- `decode`, on the text of the line, and on that of all bytes by another decoder. -/
def readFrame (text full : List Char) (direction : RecoveryDirection) : Except LocalIpcErrorCode Value := do
  throwIf ('\r' ∈ text ∨ '\n' ∈ text) .INVALID_FRAME
  let value ← orInvalidFrame (parse text)
  let frame ← orInvalidFrame (plainRecord frameKeys value)
  throwIf (fieldIsInt frame "schemaVersion" 1 = false ∨ fieldIsText frame "protocol" protocol = false
      ∨ fieldIsText frame "direction" direction.text = false
      ∨ (Codec.canonicalJson (.obj frame)).map (· ++ ['\n']) ≠ some full)
    .INVALID_FRAME
  orInvalidFrame (lookupEntry (ofString "message") frame)

/-- `decode`. -/
def decode (input : ByteArray) (direction : RecoveryDirection) : Except LocalIpcErrorCode Value := do
  throwIf (input.size < 3) .INVALID_FRAME
  throwIf (maxIpcFrameBytes < input.size) .LIMIT_EXCEEDED
  throwIf (endsLine input = false) .INVALID_FRAME
  let text ← orInvalidFrame (decodeFatal (line input))
  readFrame text (decodeLossy input) direction

/-! ### Frames -/

theorem keys_frameOf (direction : RecoveryDirection) (message : Value) :
    ((frameOf direction message).map Prod.fst).Perm frameKeys ∧ ((frameOf direction message).map Prod.fst).Nodup := by
  have hkeys : (frameOf direction message).map Prod.fst
      = [ofString "schemaVersion", ofString "protocol", ofString "direction", ofString "message"] := rfl
  rw [hkeys]
  decide

theorem keyed_frameOf (direction : RecoveryDirection) (h : message.Keyed) :
    (Value.obj (frameOf direction message)).Keyed := by
  refine ⟨(keys_frameOf direction message).2, ?_⟩
  rw [Value.keyedFields_iff]
  simp only [frameOf, List.forall_mem_cons]
  exact ⟨trivial, trivial, trivial, h, fun _ hfield => absurd hfield List.not_mem_nil⟩

/-- What a frame that is read contains. -/
theorem readFrame_eq_ok {text full : List Char} :
    readFrame text full direction = .ok message ↔ ('\r' ∉ text ∧ '\n' ∉ text)
      ∧ ∃ fields, parse text = some (.obj fields) ∧ fields.Perm (frameOf direction message)
        ∧ (Codec.canonicalJson (.obj fields)).map (· ++ ['\n']) = some full := by
  have hkeys := keys_frameOf direction message
  simp only [readFrame, check_bind_eq_ok, throwIf_eq_ok, orInvalidFrame_bind_eq_ok, orInvalidFrame_eq_ok, not_or,
    Bool.not_eq_false, not_not, plainRecord_eq_some, fieldIsInt_iff, fieldIsText_iff]
  refine and_congr_right fun _ => ?_
  constructor
  · rintro ⟨_, hparse, fields, ⟨rfl, hperm⟩, ⟨hversion, hprotocol, hdirection, hfull⟩, hmessage⟩
    refine ⟨fields, hparse, perm_of_lookup (hperm.trans hkeys.1.symm) hkeys.2 ?_, hfull⟩
    simp only [frameOf, List.forall_mem_cons]
    exact ⟨hversion, hprotocol, hdirection, hmessage, fun _ hentry => absurd hentry List.not_mem_nil⟩
  · rintro ⟨fields, hparse, hperm, hfull⟩
    have hnodup : (fields.map Prod.fst).Nodup := (hperm.map Prod.fst).nodup_iff.mpr hkeys.2
    have hlookup : ∀ entry ∈ frameOf direction message, lookupEntry entry.1 fields = some entry.2 :=
      fun entry hentry => (lookupEntry_eq_some hnodup).mpr (hperm.mem_iff.mpr hentry)
    simp only [frameOf, List.forall_mem_cons] at hlookup
    exact ⟨_, hparse, fields, ⟨rfl, (hperm.map Prod.fst).trans hkeys.1⟩,
      ⟨hlookup.1, hlookup.2.1, hlookup.2.2.1, hfull⟩, hlookup.2.2.2.1⟩

theorem errorsIn_readFrame {codes : List LocalIpcErrorCode} (h : .INVALID_FRAME ∈ codes) (text full : List Char)
    (direction : RecoveryDirection) : ErrorsIn codes (readFrame text full direction) :=
  (errorsIn_throwIf h).bind fun _ => (errorsIn_orThrow h _).bind fun _ => (errorsIn_orThrow h _).bind fun _ =>
    (errorsIn_throwIf h).bind fun _ => errorsIn_orThrow h _

theorem encode_eq_ok :
    encode direction message = .ok frame ↔ ∃ text, Codec.canonicalJson (.obj (frameOf direction message)) = some text
      ∧ TextDecoder.encode (text ++ ['\n']) = frame ∧ frame.size ≤ maxIpcFrameBytes :=
  writeLine_eq_ok

/-- A line is decoded by its text. -/
theorem decode_line {text : List Char}
    (h : RecordLine fields text frame) (direction : RecoveryDirection) :
    decode frame direction = readFrame text (text ++ ['\n']) direction := by
  obtain ⟨hline, -, hlossy⟩ := h.decoded
  obtain ⟨hshort, hlong, hends⟩ := h.checked
  rw [decode, hshort, hlong, hends, hline, hlossy]
  rfl

/-- The line of a frame that was encoded. -/
theorem recordLine_of_encode
    (hkeyed : message.Keyed) (h : encode direction message = .ok frame) :
    ∃ text, RecordLine (frameOf direction message) text frame := by
  obtain ⟨text, hcanonical, hencoded, hbounded⟩ := encode_eq_ok.mp h
  exact ⟨text, keyed_frameOf direction hkeyed, hcanonical, hencoded.symm, hbounded⟩

/-- **A frame that was encoded is decoded to its message.** -/
theorem decode_encode (hkeyed : message.Keyed)
    (h : encode direction message = .ok frame) : decode frame direction = .ok message.sorted := by
  obtain ⟨text, hline⟩ := recordLine_of_encode hkeyed h
  obtain ⟨fields, hparse, hperm, hfields⟩ := hline.parsed
  rw [decode_line hline, readFrame_eq_ok]
  refine ⟨hline.plain, fields, hparse, hperm, ?_⟩
  rw [hfields, Option.map_some]

/-- **A frame is rejected in any other direction.** -/
theorem decode_other {direction' : RecoveryDirection}
    (hkeyed : message.Keyed) (h : encode direction message = .ok frame) (hne : direction' ≠ direction) :
    decode frame direction' = .error .INVALID_FRAME := by
  obtain ⟨text, hline⟩ := recordLine_of_encode hkeyed h
  rw [decode_line hline]
  refine (errorsIn_readFrame (List.mem_singleton_self _) _ _ _).eq_error fun message' hread => ?_
  obtain ⟨-, fields', hparse', hperm', -⟩ := readFrame_eq_ok.mp hread
  have hperm := hline.perm_of_parse hparse'
  have hlookup : lookupEntry (ofString "direction") (frameOf direction' message') = some (.str direction.text) := by
    rw [lookupEntry_eq_some (keys_frameOf direction' message').2, ← hperm'.mem_iff, hperm.mem_iff]
    simp [frameOf, Value.sorted]
  have hfound : lookupEntry (ofString "direction") (frameOf direction' message') = some (.str direction'.text) := rfl
  rw [hfound, Option.some.injEq, Value.str.injEq] at hlookup
  exact hne (RecoveryDirection.text_injective hlookup)

/-- A request that is not encoded is invalid, or too long. -/
theorem errorsIn_encode (direction : RecoveryDirection) (message : Value) :
    ErrorsIn [.INVALID_FRAME, .LIMIT_EXCEEDED] (encode direction message) :=
  (errorsIn_orThrow (by decide) _).bind fun _ => (errorsIn_throwIf (by decide)).bind fun _ => errorsIn_ok _

theorem errorsIn_decode (input : ByteArray) (direction : RecoveryDirection) :
    ErrorsIn [.INVALID_FRAME, .LIMIT_EXCEEDED] (decode input direction) :=
  (errorsIn_throwIf (by decide)).bind fun _ => (errorsIn_throwIf (by decide)).bind fun _ =>
    (errorsIn_throwIf (by decide)).bind fun _ => (errorsIn_orThrow (by decide) _).bind fun _ =>
      errorsIn_readFrame (by decide) _ _ _

/-- What is decoded. -/
theorem decode_eq_ok :
    decode input direction = .ok message ↔ 3 ≤ input.size ∧ input.size ≤ maxIpcFrameBytes ∧ endsLine input = true
      ∧ ∃ text, decodeFatal (line input) = some text ∧ readFrame text (decodeLossy input) direction = .ok message := by
  simp only [decode, check_bind_eq_ok, throwIf_eq_ok, orInvalidFrame_bind_eq_ok, Nat.not_lt, Bool.not_eq_false]

/-- **What is decoded is the encoding of its message**, without a byte order mark. -/
theorem encode_of_decode
    (h : decode input direction = .ok message) : encode direction message = .ok (dropBom input) := by
  obtain ⟨-, hbounded, hends, text, hdecoded, hread⟩ := decode_eq_ok.mp h
  obtain ⟨-, fields, -, hperm, hfull⟩ := readFrame_eq_ok.mp hread
  have hdrop := dropBom_of_line hends hdecoded
  rw [decodeLossy_eq hdrop, Option.map_eq_some_iff] at hfull
  obtain ⟨text', hcanonical, htext⟩ := hfull
  rw [List.append_cancel_right htext] at hcanonical
  refine encode_eq_ok.mpr ⟨text, ?_, hdrop.symm, (size_dropBom_le input).trans hbounded⟩
  rw [← canonicalJson_of_perm ((hperm.map Prod.fst).nodup_iff.mpr (keys_frameOf direction message).2) hperm]
  exact hcanonical

/-- **A byte order mark is not seen.** -/
theorem decode_bom (h : decode input direction = .ok message) (hbom : hasBom input = false)
    (hsize : input.size + 3 ≤ maxIpcFrameBytes) : decode (bom ++ input) direction = .ok message := by
  obtain ⟨hshort, -, hends, text, hdecoded, hread⟩ := decode_eq_ok.mp h
  have hsplit : bom ++ input = bom ++ line input ++ [10].toByteArray := by
    rw [ByteArray.append_assoc, line_append hends]
  have hline : line (bom ++ input) = bom ++ line input := by rw [hsplit, line_append_newline]
  have hplain : hasBom (line input) = false := by
    rw [← hasBom_append_newline, line_append hends]
    exact hbom
  -- The mark is all that the lines differ in, and the decoders drop it.
  have htext : dropBom (bom ++ line input) = TextDecoder.encode text := by
    rw [(dropBom_bom _).2, ← decodeFatal_eq_some.mp hdecoded, dropBom_of_not hplain]
  have hfull := dropBom_of_line hends hdecoded
  have hlossy : decodeLossy (bom ++ input) = decodeLossy input := by
    rw [decodeLossy_eq hfull]
    apply decodeLossy_eq
    rw [(dropBom_bom _).2, ← hfull, dropBom_of_not hbom]
  have hbytes : (bom ++ input).size = 3 + input.size := ByteArray.size_append
  refine decode_eq_ok.mpr ⟨by omega, by omega, ?_, text, ?_, ?_⟩
  · rw [hsplit, endsLine_append]
  · rw [hline, decodeFatal_eq_some]
    exact htext
  · rw [hlossy]
    exact hread

end Recovery

/-! ## The channel of topology observations -/

/-- The direction of a frame of a topology observation. -/
inductive ObservationDirection where
  | COORDINATOR_TO_OBSERVER
  | OBSERVER_TO_COORDINATOR
  deriving DecidableEq, Repr

def ObservationDirection.text : ObservationDirection → Text
  | .COORDINATOR_TO_OBSERVER => ofString "COORDINATOR_TO_OBSERVER"
  | .OBSERVER_TO_COORDINATOR => ofString "OBSERVER_TO_COORDINATOR"

/-- `LinuxRetainedNativeSupervisorTopologyObserverRole`. -/
inductive ObserverRole where
  | API_LISTENER
  | WORKER_CLIENT
  deriving DecidableEq, Repr

def ObserverRole.text : ObserverRole → Text
  | .API_LISTENER => ofString "API_LISTENER"
  | .WORKER_CLIENT => ofString "WORKER_CLIENT"

theorem ObservationDirection.text_injective {d d' : ObservationDirection} (h : d.text = d'.text) : d = d' := by
  cases d <;> cases d' <;> revert h <;> decide

theorem ObserverRole.text_injective {r r' : ObserverRole} (h : r.text = r'.text) : r = r' := by
  cases r <;> cases r' <;> revert h <;> decide

namespace Observation

/-- The protocol of the frames. -/
def protocol : Text := ofString "VENTUREOS_RETAINED_NATIVE_TOPOLOGY_OBSERVATION_IPC"

/-- `FRAME_KEYS`. -/
def frameKeys : List Text := [
  ofString "direction", ofString "message", ofString "observerRole", ofString "protocol", ofString "requestHash",
  ofString "runtimeConnection", ofString "schemaVersion"]

/-- `/^[a-f0-9]{64}$/u`. -/
def isHash (text : Text) : Bool := Durable.sha256Pattern (toWellFormed text)

/-- The fields of a frame. -/
def frameOf (direction : ObservationDirection) (observerRole : ObserverRole) (requestHash : Text) (message : Value) :
    List (Text × Value) := [
  (ofString "schemaVersion", .int 1),
  (ofString "protocol", .str protocol),
  (ofString "direction", .str direction.text),
  (ofString "observerRole", .str observerRole.text),
  (ofString "requestHash", .str requestHash),
  (ofString "message", message),
  (ofString "runtimeConnection", .str (ofString "NOT_CONFIGURED"))]

/-- `encode`. -/
def encode (direction : ObservationDirection) (observerRole : ObserverRole) (requestHash : Text) (message : Value) :
    Except LocalIpcErrorCode ByteArray := do
  let text ← orInvalidFrame (Codec.canonicalJson (.obj (frameOf direction observerRole requestHash message)))
  let result := TextDecoder.encode (text ++ ['\n'])
  throwIf (maxIpcFrameBytes < result.size) .LIMIT_EXCEEDED
  return result

/-- The hash in a field. -/
def hashField (fields : List (Text × Value)) (name : String) : Option Text :=
  match lookupEntry (ofString name) fields with
  | some (.str text) => if isHash text = true then some text else none
  | _ => none

/-- `decode`, on the text of all bytes. -/
def readFrame (full : List Char) (direction : ObservationDirection) (expectedRole : ObserverRole)
    (expectedRequestHash : Option Text) : Except LocalIpcErrorCode (Value × Text) := do
  let text := full.dropLast
  throwIf ('\r' ∈ text ∨ '\n' ∈ text) .INVALID_FRAME
  let value ← orInvalidFrame (parse text)
  let frame ← orInvalidFrame (plainRecord frameKeys value)
  let requestHash ← orInvalidFrame (hashField frame "requestHash")
  throwIf (fieldIsInt frame "schemaVersion" 1 = false ∨ fieldIsText frame "protocol" protocol = false
      ∨ fieldIsText frame "direction" direction.text = false
      ∨ fieldIsText frame "observerRole" expectedRole.text = false
      ∨ (∃ expected ∈ expectedRequestHash, requestHash ≠ expected)
      ∨ fieldIsText frame "runtimeConnection" (ofString "NOT_CONFIGURED") = false
      ∨ (Codec.canonicalJson (.obj frame)).map (· ++ ['\n']) ≠ some full)
    .INVALID_FRAME
  let message ← orInvalidFrame (lookupEntry (ofString "message") frame)
  return (message, requestHash)

/-- `decode`. -/
def decode (input : ByteArray) (direction : ObservationDirection) (expectedRole : ObserverRole)
    (expectedRequestHash : Option Text) : Except LocalIpcErrorCode (Value × Text) := do
  throwIf (input.size < 3) .INVALID_FRAME
  throwIf (maxIpcFrameBytes < input.size) .LIMIT_EXCEEDED
  throwIf (endsLine input = false) .INVALID_FRAME
  let full ← orInvalidFrame (decodeFatal input)
  readFrame full direction expectedRole expectedRequestHash

/-! ### Frames -/

section Frames

variable {direction direction' : ObservationDirection} {role role' : ObserverRole} {requestHash : Text}
  {expected : Option Text} {text full : List Char}

theorem keys_frameOf (direction : ObservationDirection) (role : ObserverRole) (requestHash : Text) (message : Value) :
    ((frameOf direction role requestHash message).map Prod.fst).Perm frameKeys
      ∧ ((frameOf direction role requestHash message).map Prod.fst).Nodup := by
  have hkeys : (frameOf direction role requestHash message).map Prod.fst = [
      ofString "schemaVersion", ofString "protocol", ofString "direction", ofString "observerRole",
      ofString "requestHash", ofString "message", ofString "runtimeConnection"] := rfl
  rw [hkeys]
  decide

theorem keyed_frameOf (direction : ObservationDirection) (role : ObserverRole) (requestHash : Text)
    (h : message.Keyed) : (Value.obj (frameOf direction role requestHash message)).Keyed := by
  refine ⟨(keys_frameOf direction role requestHash message).2, ?_⟩
  rw [Value.keyedFields_iff]
  simp only [frameOf, List.forall_mem_cons]
  exact ⟨trivial, trivial, trivial, trivial, trivial, h, trivial, fun _ hfield => absurd hfield List.not_mem_nil⟩

theorem hashField_eq_some {name : String} {hash : Text} :
    hashField fields name = some hash
      ↔ lookupEntry (ofString name) fields = some (.str hash) ∧ isHash hash = true := by
  unfold hashField
  split
  · rename_i t hlookup
    rw [hlookup, Option.some.injEq, Value.str.injEq]
    split
    · rename_i hhash
      rw [Option.some.injEq]
      constructor
      · rintro rfl
        exact ⟨rfl, hhash⟩
      · exact fun h => h.1
    · rename_i hhash
      refine ⟨fun h => (nomatch h), ?_⟩
      rintro ⟨rfl, hhash'⟩
      exact absurd hhash' hhash
  · rename_i hother
    exact ⟨fun h => (nomatch h), fun h => absurd h.1 (hother hash)⟩

/-- What a frame that is read contains. -/
theorem readFrame_eq_ok : readFrame full direction role expected = .ok (message, requestHash)
    ↔ ('\r' ∉ full.dropLast ∧ '\n' ∉ full.dropLast) ∧ isHash requestHash = true
      ∧ (∀ hash ∈ expected, requestHash = hash)
      ∧ ∃ fields, parse full.dropLast = some (.obj fields)
        ∧ fields.Perm (frameOf direction role requestHash message)
        ∧ (Codec.canonicalJson (.obj fields)).map (· ++ ['\n']) = some full := by
  have hkeys := keys_frameOf direction role requestHash message
  simp only [readFrame, check_bind_eq_ok, throwIf_eq_ok, orInvalidFrame_bind_eq_ok, not_or, Bool.not_eq_false, not_not,
    plainRecord_eq_some, fieldIsInt_iff, fieldIsText_iff, hashField_eq_some, except_pure_eq_ok, Prod.mk.injEq,
    not_exists, not_and]
  refine and_congr_right fun _ => ?_
  constructor
  · rintro ⟨_, hparse, fields, ⟨rfl, hperm⟩, _, ⟨hlookup, hhash⟩,
      ⟨hversion, hprotocol, hdirection, hrole, hexpected, hconnection, hfull⟩, _, hmessage, rfl, rfl⟩
    refine ⟨hhash, hexpected, fields, hparse, perm_of_lookup (hperm.trans hkeys.1.symm) hkeys.2 ?_, hfull⟩
    simp only [frameOf, List.forall_mem_cons]
    exact ⟨hversion, hprotocol, hdirection, hrole, hlookup, hmessage, hconnection,
      fun _ hentry => absurd hentry List.not_mem_nil⟩
  · rintro ⟨hhash, hexpected, fields, hparse, hperm, hfull⟩
    have hnodup : (fields.map Prod.fst).Nodup := (hperm.map Prod.fst).nodup_iff.mpr hkeys.2
    have hlookup : ∀ entry ∈ frameOf direction role requestHash message, lookupEntry entry.1 fields = some entry.2 :=
      fun entry hentry => (lookupEntry_eq_some hnodup).mpr (hperm.mem_iff.mpr hentry)
    simp only [frameOf, List.forall_mem_cons] at hlookup
    obtain ⟨hversion, hprotocol, hdirection, hrole, hrequest, hmessage, hconnection, -⟩ := hlookup
    exact ⟨_, hparse, fields, ⟨rfl, (hperm.map Prod.fst).trans hkeys.1⟩, requestHash, ⟨hrequest, hhash⟩,
      ⟨hversion, hprotocol, hdirection, hrole, hexpected, hconnection, hfull⟩, message, hmessage, rfl, rfl⟩

theorem errorsIn_readFrame {codes : List LocalIpcErrorCode} (h : .INVALID_FRAME ∈ codes) (full : List Char)
    (direction : ObservationDirection) (role : ObserverRole) (expected : Option Text) :
    ErrorsIn codes (readFrame full direction role expected) :=
  (errorsIn_throwIf h).bind fun _ => (errorsIn_orThrow h _).bind fun _ => (errorsIn_orThrow h _).bind fun _ =>
    (errorsIn_orThrow h _).bind fun _ => (errorsIn_throwIf h).bind fun _ => (errorsIn_orThrow h _).bind fun _ =>
      errorsIn_ok _

theorem encode_eq_ok : encode direction role requestHash message = .ok frame
    ↔ ∃ text, Codec.canonicalJson (.obj (frameOf direction role requestHash message)) = some text
      ∧ TextDecoder.encode (text ++ ['\n']) = frame ∧ frame.size ≤ maxIpcFrameBytes :=
  writeLine_eq_ok

/-- The line of a frame that was encoded. -/
theorem recordLine_of_encode (hkeyed : message.Keyed) (h : encode direction role requestHash message = .ok frame) :
    ∃ text, RecordLine (frameOf direction role requestHash message) text frame := by
  obtain ⟨text, hcanonical, hencoded, hbounded⟩ := encode_eq_ok.mp h
  exact ⟨text, keyed_frameOf direction role requestHash hkeyed, hcanonical, hencoded.symm, hbounded⟩

/-- A line is decoded by its text. -/
theorem decode_line (h : RecordLine fields text frame)
    (direction : ObservationDirection) (role : ObserverRole) (expected : Option Text) :
    decode frame direction role expected = readFrame (text ++ ['\n']) direction role expected := by
  obtain ⟨hshort, hlong, hends⟩ := h.checked
  rw [decode, hshort, hlong, hends, h.decoded.2.1]
  rfl

/-- **A frame that was encoded is decoded to its message.** -/
theorem decode_encode (hkeyed : message.Keyed) (hhash : isHash requestHash = true)
    (hexpected : ∀ hash ∈ expected, requestHash = hash)
    (h : encode direction role requestHash message = .ok frame) :
    decode frame direction role expected = .ok (message.sorted, requestHash) := by
  obtain ⟨text, hline⟩ := recordLine_of_encode hkeyed h
  obtain ⟨fields, hparse, hperm, hfields⟩ := hline.parsed
  rw [decode_line hline, readFrame_eq_ok, List.dropLast_concat]
  refine ⟨hline.plain, hhash, hexpected, fields, hparse, hperm, ?_⟩
  rw [hfields, Option.map_some]

/-- **A frame is rejected with any other parameters.** -/
theorem decode_other (hkeyed : message.Keyed) (h : encode direction role requestHash message = .ok frame)
    (hne : direction' ≠ direction ∨ role' ≠ role ∨ ∃ hash ∈ expected, requestHash ≠ hash) :
    decode frame direction' role' expected = .error .INVALID_FRAME := by
  obtain ⟨text, hline⟩ := recordLine_of_encode hkeyed h
  rw [decode_line hline]
  refine (errorsIn_readFrame (List.mem_singleton_self _) _ _ _ _).eq_error fun result hread => ?_
  obtain ⟨message', requestHash'⟩ := result
  obtain ⟨-, -, hexpected, fields', hparse', hperm', -⟩ := readFrame_eq_ok.mp hread
  rw [List.dropLast_concat] at hparse'
  have hperm := hline.perm_of_parse hparse'
  -- What is found in the frame is what was encoded.
  have hlookup : ∀ entry ∈ frameOf direction role requestHash message,
      lookupEntry entry.1 (frameOf direction' role' requestHash' message') = some entry.2.sorted := by
    intro entry hentry
    rw [lookupEntry_eq_some (keys_frameOf direction' role' requestHash' message').2, ← hperm'.mem_iff, hperm.mem_iff]
    exact List.mem_map_of_mem hentry
  simp only [frameOf, List.forall_mem_cons] at hlookup
  obtain ⟨-, -, hdirection, hrole, hhash, -⟩ := hlookup
  have hdirection : some (Value.str direction'.text) = some (.str direction.text) := hdirection
  have hrole : some (Value.str role'.text) = some (.str role.text) := hrole
  have hhash : some (Value.str requestHash') = some (.str requestHash) := hhash
  rw [Option.some.injEq, Value.str.injEq] at hdirection hrole hhash
  rcases hne with hne | hne | ⟨hash, hmem, hne⟩
  · exact hne (ObservationDirection.text_injective hdirection)
  · exact hne (ObserverRole.text_injective hrole)
  · exact hne (hhash ▸ hexpected hash hmem)

/-- **What is decoded is the encoding of its message**, without a byte order mark. -/
theorem encode_of_decode (h : decode input direction role expected = .ok (message, requestHash)) :
    encode direction role requestHash message = .ok (dropBom input) := by
  simp only [decode, check_bind_eq_ok, throwIf_eq_ok, orInvalidFrame_bind_eq_ok, Nat.not_lt, Bool.not_eq_false] at h
  obtain ⟨-, hbounded, -, full, hdecoded, hread⟩ := h
  obtain ⟨-, -, -, fields, -, hperm, hfull⟩ := readFrame_eq_ok.mp hread
  have hdrop := decodeFatal_eq_some.mp hdecoded
  obtain ⟨text, hcanonical, rfl⟩ := Option.map_eq_some_iff.mp hfull
  refine encode_eq_ok.mpr ⟨text, ?_, hdrop.symm, (size_dropBom_le input).trans hbounded⟩
  rw [← canonicalJson_of_perm
    ((hperm.map Prod.fst).nodup_iff.mpr (keys_frameOf direction role requestHash message).2) hperm]
  exact hcanonical

end Frames

end Observation

/-! ## Both channels -/

/-- A frame of the recovery channel is no frame of a topology observation. -/
theorem Observation.decode_recovery
    (hkeyed : message.Keyed) (h : Recovery.encode direction message = .ok frame) (direction' : ObservationDirection)
    (role : ObserverRole) (expected : Option Text) :
    Observation.decode frame direction' role expected = .error .INVALID_FRAME := by
  obtain ⟨text, hline⟩ := Recovery.recordLine_of_encode hkeyed h
  rw [Observation.decode_line hline]
  refine (Observation.errorsIn_readFrame (List.mem_singleton_self _) _ _ _ _).eq_error fun result hread => ?_
  obtain ⟨-, -, -, fields', hparse', hperm', -⟩ := Observation.readFrame_eq_ok.mp hread
  rw [List.dropLast_concat] at hparse'
  have hperm := hline.perm_of_parse hparse'
  -- Four fields are not seven.
  exact absurd (hperm.symm.trans hperm').length_eq (by simp [Recovery.frameOf, Observation.frameOf])

/-- A frame of a topology observation is no frame of the recovery channel. -/
theorem Recovery.decode_observation {direction : ObservationDirection} {role : ObserverRole} {requestHash : Text}
    (hkeyed : message.Keyed)
    (h : Observation.encode direction role requestHash message = .ok frame) (direction' : RecoveryDirection) :
    Recovery.decode frame direction' = .error .INVALID_FRAME := by
  obtain ⟨text, hline⟩ := Observation.recordLine_of_encode hkeyed h
  rw [Recovery.decode_line hline]
  refine (Recovery.errorsIn_readFrame (List.mem_singleton_self _) _ _ _).eq_error fun result hread => ?_
  obtain ⟨-, fields', hparse', hperm', -⟩ := Recovery.readFrame_eq_ok.mp hread
  have hperm := hline.perm_of_parse hparse'
  exact absurd (hperm.symm.trans hperm').length_eq (by simp [Recovery.frameOf, Observation.frameOf])

/-- The sorted message is the message. -/
theorem same_sorted {text : List Char}
    (h : RecordLine fields text frame) {key : Text} (hmem : (key, message) ∈ fields) :
    message.sorted.Same message := by
  have hprintable := printable_of_canonicalJson h.keyed h.canonical
  rw [Value.Printable, Value.printableFields_iff] at hprintable
  exact (hprintable.2 _ hmem).sorted_sorted

/-- **Frames of both channels are decoded to their messages, and to nothing in any other way.** -/
theorem frames_round_trip :
    (∀ (direction : RecoveryDirection) (message : Value.Js) (frame : ByteArray),
        Recovery.encode direction message.val = .ok frame →
      (∃ decoded, Recovery.decode frame direction = .ok decoded ∧ decoded.Same message.val)
        ∧ (∀ other, other ≠ direction → Recovery.decode frame other = .error .INVALID_FRAME)
        ∧ ∀ other role expected, Observation.decode frame other role expected = .error .INVALID_FRAME)
    ∧ ∀ (direction : ObservationDirection) (role : ObserverRole) (requestHash : Text) (message : Value.Js)
        (frame : ByteArray), Observation.isHash requestHash = true →
        Observation.encode direction role requestHash message.val = .ok frame →
      (∀ expected, (∀ hash ∈ expected, requestHash = hash) →
          ∃ decoded, Observation.decode frame direction role expected = .ok (decoded, requestHash)
            ∧ decoded.Same message.val)
        ∧ (∀ direction' role' expected,
            (direction' ≠ direction ∨ role' ≠ role ∨ ∃ hash ∈ expected, requestHash ≠ hash) →
            Observation.decode frame direction' role' expected = .error .INVALID_FRAME)
        ∧ ∀ other, Recovery.decode frame other = .error .INVALID_FRAME := by
  constructor
  · intro direction message frame h
    obtain ⟨text, hline⟩ := Recovery.recordLine_of_encode message.property h
    have hmem : (ofString "message", message.val) ∈ Recovery.frameOf direction message.val := by
      simp [Recovery.frameOf]
    have hsame := same_sorted hline hmem
    exact ⟨⟨_, Recovery.decode_encode message.property h, hsame⟩,
      fun other hne => Recovery.decode_other message.property h hne, Observation.decode_recovery message.property h⟩
  · intro direction role requestHash message frame hhash h
    obtain ⟨text, hline⟩ := Observation.recordLine_of_encode message.property h
    have hmem : (ofString "message", message.val) ∈ Observation.frameOf direction role requestHash message.val := by
      simp [Observation.frameOf]
    have hsame := same_sorted hline hmem
    exact ⟨fun expected hexpected =>
        ⟨_, Observation.decode_encode message.property hhash hexpected h, hsame⟩,
      fun direction' role' expected hne => Observation.decode_other message.property h hne,
      Recovery.decode_observation message.property h⟩

namespace Sample

/-- A message with a surrogate that stands alone. -/
def surrogate : Value.Js :=
  ⟨.obj [(ofString "note", .str [0xD800])], by simp [Value.Keyed, Value.KeyedFields]⟩

def requestHash : Text := ofString (String.ofList (List.replicate 64 'a'))

theorem surrogate_checked : Observation.isHash requestHash = true
    ∧ (Recovery.encode .WORKER_TO_SUPERVISOR surrogate.val).isOk = true
    ∧ (Observation.encode .COORDINATOR_TO_OBSERVER .API_LISTENER requestHash surrogate.val).isOk = true := by
  decide +kernel

theorem isHash_requestHash : Observation.isHash requestHash = true := surrogate_checked.1

theorem isOk_encode : (Recovery.encode .WORKER_TO_SUPERVISOR surrogate.val).isOk = true
    ∧ (Observation.encode .COORDINATOR_TO_OBSERVER .API_LISTENER requestHash surrogate.val).isOk = true :=
  surrogate_checked.2

end Sample

theorem exists_of_isOk {ε : Type} {x : Except ε α} (h : x.isOk = true) : ∃ a, x = .ok a := by
  cases x with
  | error code => cases h
  | ok a => exact ⟨a, rfl⟩

theorem frames_round_trip_surrogate :
    (∃ frame decoded, Recovery.encode .WORKER_TO_SUPERVISOR Sample.surrogate.val = .ok frame
      ∧ Recovery.decode frame .WORKER_TO_SUPERVISOR = .ok decoded ∧ decoded.Same Sample.surrogate.val
      ∧ Recovery.decode frame .SUPERVISOR_TO_WORKER = .error .INVALID_FRAME)
    ∧ ∃ frame decoded,
      Observation.encode .COORDINATOR_TO_OBSERVER .API_LISTENER Sample.requestHash Sample.surrogate.val = .ok frame
      ∧ Observation.decode frame .COORDINATOR_TO_OBSERVER .API_LISTENER (some Sample.requestHash)
        = .ok (decoded, Sample.requestHash)
      ∧ decoded.Same Sample.surrogate.val
      ∧ Observation.decode frame .COORDINATOR_TO_OBSERVER .WORKER_CLIENT none = .error .INVALID_FRAME := by
  constructor
  · obtain ⟨frame, hframe⟩ := exists_of_isOk Sample.isOk_encode.1
    obtain ⟨⟨decoded, hdecode, hsame⟩, hother, -⟩ := frames_round_trip.1 _ _ _ hframe
    exact ⟨frame, decoded, hframe, hdecode, hsame, hother _ (by decide)⟩
  · obtain ⟨frame, hframe⟩ := exists_of_isOk Sample.isOk_encode.2
    obtain ⟨hdecodes, hother, -⟩ := frames_round_trip.2 _ _ _ _ _ Sample.isHash_requestHash hframe
    obtain ⟨decoded, hdecode, hsame⟩ := hdecodes (some Sample.requestHash) (by simp)
    exact ⟨frame, decoded, hframe, hdecode, hsame, hother _ _ _ (.inr (.inl (by decide)))⟩

end VentureOS.Bridge
