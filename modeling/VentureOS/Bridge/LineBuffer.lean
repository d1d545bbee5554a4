import VentureOS.Bridge.LocalIpc
import VentureOS.Foundations.Framing

/-! # Lines of the bridge

`validateBridgeEnvelope`, `encodeBridgeLine`, `decodeBridgeLine`, `decodeBridgeBatch` and `BoundedBridgeLineBuffer` of
`codec.ts`. A buffer has the bytes of its contents.

A line that is accepted is what its envelope is encoded to (`canonical_wire_form`). It is a frame of the stream, and is
bounded (`frame_of_decode`), so the buffer takes the lines of a stream as they come in, whatever the chunks are. -/

namespace VentureOS.Bridge.Line

open JsonText TextDecoder Framing

/-- What the codec throws: an error of its own, or one of `canonicalize`. -/
inductive LineError where
  | protocol (message : String)
  | codec
  deriving DecidableEq, Repr

/-- `MAX_BRIDGE_LINE_BYTES`. -/
def maxBridgeLineBytes : Nat := 65536

/-- `MAX_BRIDGE_BUFFER_BYTES`. -/
def maxBridgeBufferBytes : Nat := 131072

/-- `MAX_BRIDGE_BATCH_FRAMES`. -/
def maxBridgeBatchFrames : Nat := 32

/-- A newline. -/
def newline : UInt8 := 10

/-! ## Envelopes -/

/-- `TYPES`. -/
def messageTypes : List String := ["CHALLENGE", "AUTHENTICATE", "CAPABILITIES", "HEARTBEAT", "DISPATCH",
  "DISPATCH_ACCEPTED", "PROGRESS", "ARTIFACT", "USAGE", "CANCELLED", "RESULT", "FAILED"]

/-- `ENVELOPE_KEYS`. -/
def envelopeKeys : List Text := [
  ofString "connectionId", ofString "expiresAt", ofString "issuedAt", ofString "mac", ofString "messageId",
  ofString "payload", ofString "payloadDigest", ofString "principalReference", ofString "protocolVersion",
  ofString "runtimeId", ofString "sequence", ofString "sessionId", ofString "type", ofString "workspaceId"]

/-- A field that is a text. -/
def textField (fields : List (Text × Value)) (field : String) : Option Text :=
  match lookupEntry (ofString field) fields with
  | some (.str text) => some text
  | _ => none

/-- `safeReference`. -/
def safeReference (fields : List (Text × Value)) (field : String) : Except LineError Unit := do
  let value ← orThrow (.protocol s!"{field} is not a safe reference") (textField fields field)
  throwIf (referencePattern (toWellFormed value) = false ∨ isSensitive (toWellFormed value) = true)
    (.protocol s!"{field} is not a safe reference")

/-- The time of a field. -/
def timestampField (dateParse : String → Option Int) (fields : List (Text × Value)) (field : String) :
    Except LineError Int := do
  let timestamp ← orThrow (.protocol s!"{field} must be a canonical UTC timestamp") (textField fields field)
  let parsed ← orThrow (.protocol s!"{field} must be a canonical UTC timestamp") (dateParse (toWellFormed timestamp))
  throwIf ((toISOString parsed).map ofString ≠ some timestamp)
    (.protocol s!"{field} must be a canonical UTC timestamp")
  return parsed

/-- The sequence of an envelope. -/
def sequenceIsValid (fields : List (Text × Value)) : Bool :=
  match lookupEntry (ofString "sequence") fields with
  | some (.int n) => isSafeInteger n && decide (1 ≤ n)
  | _ => false

/-- `validateBridgeEnvelope` on a record. -/
def validateFields (dateParse : String → Option Int) (fields : List (Text × Value)) : Except LineError Unit := do
  throwIf ((fields.map Prod.fst).isPerm envelopeKeys = false)
    (.protocol "Envelope fields must match the protocol exactly")
  throwIf (fieldIsText fields "protocolVersion" (ofString bridgeProtocolVersion) = false)
    (.protocol "Unsupported protocol version")
  ["workspaceId", "runtimeId", "connectionId", "sessionId", "principalReference", "messageId"].forM
    (safeReference fields)
  throwIf (sequenceIsValid fields = false) (.protocol "Sequence must be a positive safe integer")
  throwIf (messageTypes.any (fun type => textField fields "type" == some (ofString type)) = false)
    (.protocol "Unknown message type")
  let issuedAt ← timestampField dateParse fields "issuedAt"
  let expiresAt ← timestampField dateParse fields "expiresAt"
  throwIf (expiresAt ≤ issuedAt ∨ 5 * 60000 < expiresAt - issuedAt)
    (.protocol "Frame expiry must follow issuance by at most five minutes")
  throwIf ((textField fields "payloadDigest").any (fun digest => Durable.sha256Pattern (toWellFormed digest)) = false)
    (.protocol "Invalid payload digest")
  throwIf ((textField fields "mac").any (fun mac => macPattern (toWellFormed mac)) = false)
    (.protocol "Invalid message authenticator")
  throwIf ((lookupEntry (ofString "payload") fields).any Codec.accepts = false) .codec

/-- `validateBridgeEnvelope`. -/
def validateBridgeEnvelope (dateParse : String → Option Int) : Value → Except LineError Unit
  | .obj fields => validateFields dateParse fields
  | _ => .error (.protocol "Envelope must be a plain record")

/-! ## Lines -/

/-- `encodeBridgeLine`. -/
def encodeBridgeLine (dateParse : String → Option Int) (envelope : Value) : Except LineError (List UInt8) := do
  validateBridgeEnvelope dateParse envelope
  let canonical ← orThrow .codec (Codec.canonicalJson envelope)
  throwIf (maxBridgeLineBytes < (octets (canonical ++ ['\n'])).length) (.protocol "Frame is too large")
  return octets (canonical ++ ['\n'])

/-- `decodeBridgeLine`. -/
def decodeBridgeLine (dateParse : String → Option Int) (input : List UInt8) : Except LineError Value := do
  throwIf (input.length = 0 ∨ maxBridgeLineBytes < input.length) (.protocol "Frame length is invalid")
  let raw := toUtf8 input.toByteArray
  throwIf ('\uFFFD' ∈ raw) (.protocol "Frame is not valid UTF-8")
  throwIf (raw.getLast? ≠ some '\n' ∨ '\n' ∈ raw.dropLast) (.protocol "Frame must contain exactly one JSON line")
  let parsed ← orThrow (.protocol "Frame is not valid JSON") (parse raw.dropLast)
  validateBridgeEnvelope dateParse parsed
  let canonical ← orThrow .codec (Codec.canonicalJson parsed)
  throwIf (canonical ≠ raw.dropLast) (.protocol "Frame must use canonical JSON without duplicate fields")
  return parsed

/-- The loop of `decodeBridgeBatch`, on the bytes from the offset on. -/
def decodeLines (dateParse : String → Option Int) (bytes : List UInt8) (messages : List Value) :
    Except LineError (List Value) :=
  if bytes = [] then .ok messages
  else
    match _hsplit : splitFrame newline bytes with
    | none => .error (.protocol "Bridge batch contains a partial line")
    | some (line, rest) => do
      let message ← decodeBridgeLine dateParse line
      throwIf (maxBridgeBatchFrames < (messages ++ [message]).length)
        (.protocol "Bridge batch contains too many frames")
      decodeLines dateParse rest (messages ++ [message])
termination_by bytes.length
decreasing_by exact length_rest_lt (by assumption)

/-- `decodeBridgeBatch`. -/
def decodeBridgeBatch (dateParse : String → Option Int) (input : List UInt8) : Except LineError (List Value) := do
  throwIf (input.length = 0) (.protocol "Bridge batch is empty")
  throwIf (maxBridgeBufferBytes < input.length) (.protocol "Bridge batch exceeded its bound")
  throwIf (input.getLast? ≠ some newline) (.protocol "Bridge batch must end with a complete JSON line")
  decodeLines dateParse input []

namespace BoundedBridgeLineBuffer

/-- The loop of `push`: what is buffered then, and the messages. A line that is not accepted is no longer
buffered. -/
def takeLines (dateParse : String → Option Int) (buffered : List UInt8) (messages : List Value) :
    List UInt8 × Except LineError (List Value) :=
  match _hsplit : splitFrame newline buffered with
  | none => (buffered, .ok messages)
  | some (line, rest) =>
    match decodeBridgeLine dateParse line with
    | .error e => (rest, .error e)
    | .ok message => takeLines dateParse rest (messages ++ [message])
termination_by buffered.length
decreasing_by exact length_rest_lt (by assumption)

/-- `push`: what is buffered then, and what is returned. -/
def push (dateParse : String → Option Int) (buffered chunk : List UInt8) :
    List UInt8 × Except LineError (List Value) :=
  if maxBridgeBufferBytes - buffered.length < chunk.length then
    ([], .error (.protocol "Bridge buffer exceeded its bound"))
  else
    match takeLines dateParse (buffered ++ chunk) [] with
    | (rest, .error e) => (rest, .error e)
    | (rest, .ok messages) =>
      if maxBridgeLineBytes ≤ rest.length then ([], .error (.protocol "Bridge line exceeded its bound"))
      else (rest, .ok messages)

/-- The pushes of these chunks, one after the other, from what is buffered: what is buffered then, and what each
returned. -/
def pushes (dateParse : String → Option Int) :
    List UInt8 → List (List UInt8) → List UInt8 × List (Except LineError (List Value))
  | buffered, [] => (buffered, [])
  | buffered, chunk :: chunks =>
    let pushed := push dateParse buffered chunk
    let rest := pushes dateParse pushed.1 chunks
    (rest.1, pushed.2 :: rest.2)

end BoundedBridgeLineBuffer

/-! ## The wire form -/

section Wire

variable {dateParse : String → Option Int} {input : List UInt8} {envelope : Value}

theorem decodeBridgeLine_eq_ok : decodeBridgeLine dateParse input = .ok envelope ↔
    ∃ canonical, input = octets (canonical ++ ['\n']) ∧ input.length ≤ maxBridgeLineBytes ∧ '\uFFFD' ∉ canonical
      ∧ '\n' ∉ canonical ∧ parse canonical = some envelope ∧ validateBridgeEnvelope dateParse envelope = .ok ()
      ∧ Codec.canonicalJson envelope = some canonical := by
  simp only [decodeBridgeLine, check_bind_eq_ok, throwIf_eq_ok, orThrow_bind_eq_ok, except_pure_eq_ok, not_or, not_not]
  constructor
  · rintro ⟨⟨-, hlength⟩, hvalid, ⟨hlast, hbody⟩, _, hparse, hvalidated, canonical, hcanonical, heq, rfl⟩
    have hraw : toUtf8 input.toByteArray = canonical ++ ['\n'] := by
      rw [heq]
      exact (List.dropLast_append_getLast? _ hlast).symm
    have hbytes := octets_of_toUtf8 hvalid
    rw [hraw] at hbytes hvalid
    rw [← heq] at hparse hbody
    exact ⟨canonical, hbytes, Nat.not_lt.mp hlength, fun hmem => hvalid (List.mem_append_left _ hmem), hbody, hparse,
      hvalidated, hcanonical⟩
  · rintro ⟨canonical, rfl, hlength, hvalid, hbody, hparse, hvalidated, hcanonical⟩
    have hraw : toUtf8 (octets (canonical ++ ['\n'])).toByteArray = canonical ++ ['\n'] := by
      rw [← encode_eq_octets, toUtf8_encode]
    have hpos : (octets (canonical ++ ['\n'])).length ≠ 0 := by
      rw [octets_append, List.length_append]
      exact Nat.ne_of_gt (Nat.add_pos_right _ (by decide))
    rw [hraw, List.dropLast_concat, List.getLast?_concat]
    exact ⟨⟨hpos, Nat.not_lt.mpr hlength⟩, by simpa using hvalid, ⟨rfl, hbody⟩, _, hparse, hvalidated, canonical,
      hcanonical, rfl, rfl⟩

theorem encodeBridgeLine_eq_ok : encodeBridgeLine dateParse envelope = .ok input ↔
    validateBridgeEnvelope dateParse envelope = .ok () ∧ ∃ canonical, Codec.canonicalJson envelope = some canonical
      ∧ input.length ≤ maxBridgeLineBytes ∧ input = octets (canonical ++ ['\n']) := by
  simp only [encodeBridgeLine, check_bind_eq_ok, throwIf_eq_ok, orThrow_bind_eq_ok, except_pure_eq_ok, not_lt]
  refine and_congr_right fun _ => exists_congr fun canonical => and_congr_right fun _ => ?_
  constructor
  · rintro ⟨hlength, rfl⟩
    exact ⟨hlength, rfl⟩
  · rintro ⟨hlength, rfl⟩
    exact ⟨hlength, rfl⟩

end Wire

/-- **The wire form is canonical.** A line that is decoded is what its envelope is encoded to, so no other line is
decoded to the same envelope, however its fields are ordered. -/
theorem canonical_wire_form (dateParse : String → Option Int) (input : List UInt8) (envelope : Value)
    (h : decodeBridgeLine dateParse input = .ok envelope) :
    encodeBridgeLine dateParse envelope = .ok input
      ∧ ∀ (input' : List UInt8) (envelope' : Value), decodeBridgeLine dateParse input' = .ok envelope' →
        envelope.Same envelope' → input = input' := by
  obtain ⟨canonical, rfl, hlength, -, -, -, hvalidated, hcanonical⟩ := decodeBridgeLine_eq_ok.mp h
  refine ⟨encodeBridgeLine_eq_ok.mpr ⟨hvalidated, canonical, hcanonical, hlength, rfl⟩, ?_⟩
  intro input' envelope' h' hsame
  obtain ⟨canonical', rfl, -, -, -, -, -, hcanonical'⟩ := decodeBridgeLine_eq_ok.mp h'
  rw [Codec.canonicalJson_of_same hsame, hcanonical', Option.some.injEq] at hcanonical
  rw [hcanonical]

/-! ## Frames -/

variable {lines : List (List UInt8)} {messages : List Value}

section Frames

variable {dateParse : String → Option Int}

/-- **A line that is accepted is one frame, and is bounded.** -/
theorem frame_of_decode {line : List UInt8} {message : Value} (h : decodeBridgeLine dateParse line = .ok message) :
    IsFrame newline line ∧ line.length ≤ maxBridgeLineBytes := by
  obtain ⟨canonical, rfl, hlength, -, hbody, -⟩ := decodeBridgeLine_eq_ok.mp h
  refine ⟨⟨octets canonical, ?_, fun hmem => hbody (newline_mem_octets.mp hmem)⟩, hlength⟩
  rw [octets_append]
  rfl

theorem frames_of_decode
    (h : lines.mapM (decodeBridgeLine dateParse) = .ok messages) :
    (∀ line ∈ lines, IsFrame newline line) ∧ ∀ line ∈ lines, line.length ≤ maxBridgeLineBytes := by
  induction lines generalizing messages with
  | nil => simp
  | cons line lines ih =>
    simp only [List.mapM_cons, except_bind_eq_ok] at h
    obtain ⟨message, hmessage, rest, hrest, -⟩ := h
    obtain ⟨hframe, hlength⟩ := frame_of_decode hmessage
    obtain ⟨hframes, hlengths⟩ := ih hrest
    rw [List.forall_mem_cons, List.forall_mem_cons]
    exact ⟨⟨hframe, hframes⟩, hlength, hlengths⟩

/-- The loop of a batch decodes the lines that it is made of. -/
theorem decodeLines_flatten {lines : List (List UInt8)} {messages before : List Value}
    (h : lines.mapM (decodeBridgeLine dateParse) = .ok messages)
    (hcount : before.length + lines.length ≤ maxBridgeBatchFrames) :
    decodeLines dateParse lines.flatten before = .ok (before ++ messages) := by
  induction lines generalizing messages before with
  | nil =>
    cases h
    rw [decodeLines, List.flatten_nil, if_pos rfl]
    simp
  | cons line lines ih =>
    simp only [List.mapM_cons, except_bind_eq_ok, except_pure_eq_ok] at h
    obtain ⟨message, hmessage, rest, hrest, rfl⟩ := h
    have hframe := (frame_of_decode hmessage).1
    have hne : line ++ lines.flatten ≠ [] := List.append_ne_nil_of_left_ne_nil hframe.ne_nil _
    rw [List.length_cons] at hcount
    have hmore : decodeLines dateParse lines.flatten (before ++ [message]) = .ok (before ++ [message] ++ rest) := by
      refine ih hrest ?_
      rw [List.length_append, List.length_singleton]
      omega
    rw [List.append_assoc, List.singleton_append] at hmore
    rw [List.flatten_cons, decodeLines, if_neg hne]
    split
    · rename_i hnone
      rw [splitFrame_append hframe] at hnone
      cases hnone
    · rename_i line' rest' hsome
      rw [splitFrame_append hframe, Option.some.injEq, Prod.mk.injEq] at hsome
      obtain ⟨rfl, rfl⟩ := hsome
      refine except_bind_eq_ok.mpr ⟨message, hmessage, check_bind_eq_ok.mpr ⟨throwIf_eq_ok.mpr ?_, hmore⟩⟩
      rw [List.length_append, List.length_singleton]
      omega

/-- **A batch of lines is decoded line by line.** -/
theorem decodeBridgeBatch_flatten
    (h : lines.mapM (decodeBridgeLine dateParse) = .ok messages) (hne : lines ≠ [])
    (hcount : lines.length ≤ maxBridgeBatchFrames) (hlength : lines.flatten.length ≤ maxBridgeBufferBytes) :
    decodeBridgeBatch dateParse lines.flatten = .ok messages := by
  obtain ⟨before, line, rfl⟩ : ∃ before line, lines = before ++ [line] :=
    ⟨_, _, (List.dropLast_append_getLast hne).symm⟩
  obtain ⟨body, hbody, -⟩ := (frames_of_decode h).1 line (by simp)
  have hbatch := @decodeLines_flatten dateParse _ _ [] h (by simpa using hcount)
  have hlast : (before ++ [line]).flatten.getLast? = some newline := by simp [hbody]
  have hpos : (before ++ [line]).flatten.length ≠ 0 := by simp [hbody]
  simp only [decodeBridgeBatch, check_bind_eq_ok, throwIf_eq_ok, not_not]
  exact ⟨hpos, Nat.not_lt.mpr hlength, hlast, hbatch⟩

end Frames

/-! ## Chunks -/

variable {buffered rest : List UInt8}

namespace BoundedBridgeLineBuffer

variable {dateParse : String → Option Int}

theorem takeLines_of_none (h : splitFrame newline buffered = none) (before : List Value) :
    takeLines dateParse buffered before = (buffered, .ok before) := by
  rw [takeLines]
  split <;> simp_all

theorem takeLines_of_some {line : List UInt8} (h : splitFrame newline buffered = some (line, rest))
    (before : List Value) : takeLines dateParse buffered before = match decodeBridgeLine dateParse line with
      | .error e => (rest, .error e)
      | .ok message => takeLines dateParse rest (before ++ [message]) := by
  rw [takeLines]
  split
  · simp_all
  · rename_i hsome
    cases h.symm.trans hsome
    rfl

/-- The loop of a push takes the lines that are buffered, and leaves the remainder. -/
theorem takeLines_flatten {lines : List (List UInt8)} {remainder : List UInt8} {messages before : List Value}
    (h : lines.mapM (decodeBridgeLine dateParse) = .ok messages) (hremainder : newline ∉ remainder) :
    takeLines dateParse (lines.flatten ++ remainder) before = (remainder, .ok (before ++ messages)) := by
  induction lines generalizing messages before with
  | nil =>
    cases h
    rw [List.flatten_nil, List.nil_append, takeLines_of_none (splitFrame_eq_none.mpr hremainder)]
    simp
  | cons line lines ih =>
    simp only [List.mapM_cons, except_bind_eq_ok, except_pure_eq_ok] at h
    obtain ⟨message, hmessage, rest, hrest, rfl⟩ := h
    have hframe := (frame_of_decode hmessage).1
    have hmore : takeLines dateParse (lines.flatten ++ remainder) (before ++ [message])
        = (remainder, .ok (before ++ [message] ++ rest)) := ih hrest
    rw [List.append_assoc, List.singleton_append] at hmore
    rw [List.flatten_cons, List.append_assoc, takeLines_of_some (splitFrame_append hframe _), hmessage]
    exact hmore

/-- When the loop ends no newline is left. -/
theorem newline_not_mem_of_takeLines {before : List Value}
    (h : takeLines dateParse buffered before = (rest, .ok messages)) : newline ∉ rest := by
  induction buffered, before using takeLines.induct dateParse with
  | case1 buffered before hnone =>
    rw [takeLines_of_none hnone] at h
    cases h
    exact splitFrame_eq_none.mp hnone
  | case2 buffered before line rest hsome e herror =>
    rw [takeLines_of_some hsome, herror] at h
    cases h
  | case3 buffered before line rest hsome message hmessage ih =>
    rw [takeLines_of_some hsome, hmessage] at h
    exact ih h

/-- **After a push that returns, what is left is no line**, and is shorter than a line may be. -/
theorem remainder_of_push {chunk : List UInt8}
    (h : push dateParse buffered chunk = (rest, .ok messages)) : rest.length < maxBridgeLineBytes ∧ newline ∉ rest := by
  unfold push at h
  split at h
  · cases h
  · split at h
    · cases h
    · rename_i rest' messages' htaken
      split at h
      · cases h
      · rename_i hshort
        cases h
        exact ⟨Nat.not_le.mp hshort, newline_not_mem_of_takeLines htaken⟩

/-- A push of a chunk that ends lines takes them. -/
theorem push_flatten {chunk remainder : List UInt8}
    (h : lines.mapM (decodeBridgeLine dateParse) = .ok messages) (hremainder : newline ∉ remainder)
    (hstream : lines.flatten ++ remainder = buffered ++ chunk) (hbuffered : buffered.length < maxBridgeLineBytes)
    (hchunk : chunk.length ≤ maxBridgeBufferBytes - maxBridgeLineBytes + 1)
    (hshort : remainder.length < maxBridgeLineBytes) :
    push dateParse buffered chunk = (remainder, .ok messages) := by
  have hbound : ¬ maxBridgeBufferBytes - buffered.length < chunk.length := by
    unfold maxBridgeBufferBytes maxBridgeLineBytes at *
    omega
  have htaken := @takeLines_flatten dateParse _ _ _ [] h hremainder
  rw [List.nil_append, hstream] at htaken
  unfold push
  rw [if_neg hbound, htaken]
  exact if_neg (Nat.not_le.mpr hshort)

/-- **The lines of a stream are taken whatever its chunks are.** What is buffered goes on with the first of them. -/
theorem pushes_flatten {chunks : List (List UInt8)}
    (h : lines.mapM (decodeBridgeLine dateParse) = .ok messages)
    (hstream : buffered ++ chunks.flatten = lines.flatten) (hbuffered : newline ∉ buffered)
    (hshort : buffered.length < maxBridgeLineBytes)
    (hchunks : ∀ chunk ∈ chunks, chunk.length ≤ maxBridgeBufferBytes - maxBridgeLineBytes + 1) :
    ∃ returned : List (List Value), pushes dateParse buffered chunks = ([], returned.map .ok)
      ∧ returned.flatten = messages := by
  obtain ⟨hframes, hlengths⟩ := frames_of_decode h
  induction chunks generalizing buffered lines messages with
  | nil =>
    rw [List.flatten_nil] at hstream
    have hall : frames newline ([].flatten ++ buffered) = ([], buffered) := frames_unique (by simp) hbuffered rfl
    rw [List.flatten_nil, List.nil_append, ← List.append_nil buffered, hstream, frames_flatten hframes,
      Prod.mk.injEq] at hall
    rw [hall.1, List.flatten_nil, List.append_nil] at hstream
    rw [hall.1] at h
    subst hstream
    cases h
    exact ⟨[], rfl, rfl⟩
  | cons chunk chunks ih =>
    rw [List.forall_mem_cons] at hchunks
    rw [List.flatten_cons, ← List.append_assoc] at hstream
    -- The lines that end in the chunk, and those that are still to come.
    obtain ⟨htaken, -, hremainder⟩ := @frames_spec _ _ newline (buffered ++ chunk)
    have hall := frames_flatten hframes
    rw [← hstream, frames_append, Prod.mk.injEq] at hall
    obtain ⟨hlines, hnil⟩ := hall
    obtain ⟨hrest, hrestFrames, -⟩ :=
      @frames_spec _ _ newline ((frames newline (buffered ++ chunk)).2 ++ chunks.flatten)
    rw [hnil, List.append_nil] at hrest
    generalize (frames newline ((frames newline (buffered ++ chunk)).2 ++ chunks.flatten)).1 = next at *
    generalize (frames newline (buffered ++ chunk)).1 = taken at *
    generalize (frames newline (buffered ++ chunk)).2 = remainder at *
    subst hlines
    rw [List.forall_mem_append] at hframes hlengths
    simp only [List.mapM_append, except_bind_eq_ok, except_pure_eq_ok] at h
    obtain ⟨first, hfirst, rest, hnext, rfl⟩ := h
    have hbehind : remainder.length < maxBridgeLineBytes :=
      length_remainder_lt hframes.2 hlengths.2 (by decide) hremainder hrest.symm
    obtain ⟨returned, hpushes, hreturned⟩ :=
      ih hnext hrest.symm hremainder hbehind hchunks.2 hframes.2 hlengths.2
    refine ⟨first :: returned, ?_, by rw [List.flatten_cons, hreturned]⟩
    rw [pushes, push_flatten hfirst hremainder htaken hshort hchunks.1 hbehind]
    simp only [hpushes, List.map_cons]

end BoundedBridgeLineBuffer

open BoundedBridgeLineBuffer

/-- **Framing does not depend on the chunks.** Pushing any bounded chunks of a stream of accepted lines returns the
messages of the lines in their order and leaves nothing behind, as `decodeBridgeBatch` does for a batch of at least one
and not too many of them; and after every push that returns, whatever was pushed and thrown before, less than a line is
left and no newline. -/
theorem chunks_framed (dateParse : String → Option Int) :
    (∀ (lines : List (List UInt8)) (messages : List Value), lines.mapM (decodeBridgeLine dateParse) = .ok messages →
      (∀ chunks : List (List UInt8), chunks.flatten = lines.flatten →
        (∀ chunk ∈ chunks, chunk.length ≤ maxBridgeBufferBytes - maxBridgeLineBytes + 1) →
        ∃ returned : List (List Value), pushes dateParse [] chunks = ([], returned.map .ok)
          ∧ returned.flatten = messages)
      ∧ (lines ≠ [] → lines.length ≤ maxBridgeBatchFrames → lines.flatten.length ≤ maxBridgeBufferBytes →
        decodeBridgeBatch dateParse lines.flatten = .ok messages))
    ∧ ∀ (chunks : List (List UInt8)) (chunk rest : List UInt8) (messages : List Value),
      push dateParse (pushes dateParse [] chunks).1 chunk = (rest, .ok messages) →
      rest.length < maxBridgeLineBytes ∧ newline ∉ rest := by
  constructor
  · intro lines messages h
    refine ⟨?_, decodeBridgeBatch_flatten h⟩
    intro chunks hstream hchunks
    exact pushes_flatten h hstream (by simp) (by decide) hchunks
  · intro chunks chunk rest messages h
    exact remainder_of_push h

/-- No lines are no batch. -/
theorem empty_batch : ¬ ∀ (dateParse : String → Option Int) (lines : List (List UInt8)) (messages : List Value),
    lines.mapM (decodeBridgeLine dateParse) = .ok messages → lines.length ≤ maxBridgeBatchFrames →
      lines.flatten.length ≤ maxBridgeBufferBytes → decodeBridgeBatch dateParse lines.flatten = .ok messages := by
  intro h
  have hempty := h (fun _ => none) [] [] rfl (by decide) (by decide)
  cases hempty

namespace Sample

def issued : String := "1970-01-01T00:00:00.000Z"

def expires : String := "1970-01-01T00:00:01.000Z"

/-- The times of the envelope. -/
def dateParse (text : String) : Option Int :=
  if text = issued then some 0 else if text = expires then some 1000 else none

/-- The fields of a heartbeat. -/
def heartbeat : List (Text × Value) := [
  (ofString "connectionId", .str (ofString "c")), (ofString "expiresAt", .str (ofString expires)),
  (ofString "issuedAt", .str (ofString issued)),
  (ofString "mac", .str (ofString (String.ofList (List.replicate 43 'A')))),
  (ofString "messageId", .str (ofString "m")), (ofString "payload", .obj []),
  (ofString "payloadDigest", .str (ofString (String.ofList (List.replicate 64 'a')))),
  (ofString "principalReference", .str (ofString "p")),
  (ofString "protocolVersion", .str (ofString bridgeProtocolVersion)), (ofString "runtimeId", .str (ofString "r")),
  (ofString "sequence", .int 1), (ofString "sessionId", .str (ofString "s")),
  (ofString "type", .str (ofString "HEARTBEAT")), (ofString "workspaceId", .str (ofString "w"))]

theorem sorted_heartbeat : (Value.obj heartbeat).sorted = .obj heartbeat := by
  rw [Value.sorted, Value.sortedFields_eq_map]
  rfl

theorem keyed_heartbeat : (Value.obj heartbeat).Keyed := by
  refine ⟨by decide, ?_⟩
  simp [heartbeat, Value.KeyedFields, Value.Keyed]

theorem heartbeat_checked : (validateFields dateParse heartbeat).isOk = true := by decide +kernel

theorem print_heartbeat_checked : (Value.obj heartbeat).print.length ≤ 8192 ∧ '\uFFFD' ∉ (Value.obj heartbeat).print := by
  decide +kernel

/-- The digest and the authenticator are plain, as is what else is accepted. -/
theorem accepts_heartbeat : Codec.accepts (.obj heartbeat) = true := by
  have hkeys : (heartbeat.all fun field => Codec.acceptsKey field.1) = true := by decide +kernel
  have hshort : ((heartbeat.filter fun field => field.1 != ofString "payloadDigest").all fun field =>
      Codec.accepts field.2) = true := by decide +kernel
  have hdigest := isPlainText_of_digest (s := String.ofList (List.replicate 64 'a')) (by decide)
  rw [isPlainText, Bool.and_eq_true] at hdigest
  rw [Codec.accepts, Bool.and_eq_true, Codec.acceptsFields_iff]
  refine ⟨by decide, fun field hfield => ⟨List.all_eq_true.mp hkeys field hfield, ?_⟩⟩
  by_cases hname : field.1 = ofString "payloadDigest"
  · have hvalue : field.2 = .str (ofString (String.ofList (List.replicate 64 'a'))) := by
      have hlookup := (lookupEntry_eq_some keyed_heartbeat.1).mpr hfield
      rw [hname] at hlookup
      have hfound : lookupEntry (ofString "payloadDigest") heartbeat
          = some (.str (ofString (String.ofList (List.replicate 64 'a')))) := rfl
      rw [hfound, Option.some.injEq] at hlookup
      exact hlookup.symm
    rw [hvalue, Codec.accepts, Codec.acceptsText, toWellFormed_ofString, hdigest.2]
    decide
  · exact List.all_eq_true.mp hshort field (List.mem_filter.mpr ⟨hfield, by simpa using hname⟩)

/-- The line of the heartbeat. -/
def line : List UInt8 := octets ((Value.obj heartbeat).print ++ ['\n'])

theorem decode_line : decodeBridgeLine dateParse line = .ok (.obj heartbeat) := by
  have hcanonical : Codec.canonicalJson (.obj heartbeat) = some (Value.obj heartbeat).print := by
    rw [Codec.canonicalJson_eq_some, sorted_heartbeat]
    exact ⟨accepts_heartbeat, rfl⟩
  have hparse := Codec.parse_of_canonicalJson keyed_heartbeat hcanonical
  rw [sorted_heartbeat] at hparse
  have hupper := size_encode_le ((Value.obj heartbeat).print ++ ['\n'])
  rw [encode_eq_octets, List.size_toByteArray, List.length_append, List.length_singleton] at hupper
  have hprinted := Codec.printed_of_canonicalJson keyed_heartbeat hcanonical
  have hplain : '\n' ∉ (Value.obj heartbeat).print := fun hmem => absurd (hprinted _ hmem) (by decide)
  obtain ⟨hlength, hvalid⟩ := print_heartbeat_checked
  obtain ⟨_, hfields⟩ := exists_of_isOk heartbeat_checked
  refine decodeBridgeLine_eq_ok.mpr ⟨_, rfl, ?_, hvalid, hplain, hparse, hfields, hcanonical⟩
  unfold maxBridgeLineBytes line
  omega

end Sample

/-- The line of a heartbeat is the only one. -/
theorem canonical_wire_form_heartbeat : encodeBridgeLine Sample.dateParse (.obj Sample.heartbeat) = .ok Sample.line :=
  (canonical_wire_form _ _ _ Sample.decode_line).1

/-- The line of a heartbeat that comes in byte by byte. -/
theorem chunks_framed_heartbeat : ∃ returned : List (List Value),
    pushes Sample.dateParse [] (Sample.line.map fun byte => [byte]) = ([], returned.map .ok)
      ∧ returned.flatten = [.obj Sample.heartbeat]
      ∧ decodeBridgeBatch Sample.dateParse Sample.line = .ok [.obj Sample.heartbeat] := by
  have hdecoded : [Sample.line].mapM (decodeBridgeLine Sample.dateParse) = .ok [.obj Sample.heartbeat] := by
    simp only [List.mapM_cons, List.mapM_nil, Sample.decode_line]
    rfl
  obtain ⟨hchunks, hbatch⟩ := (chunks_framed Sample.dateParse).1 _ _ hdecoded
  have hlength := (frame_of_decode Sample.decode_line).2
  have hflatten : [Sample.line].flatten = Sample.line := by simp
  rw [hflatten] at hchunks hbatch
  obtain ⟨returned, hpushes, hreturned⟩ := hchunks (Sample.line.map fun byte => [byte])
    (by simp [List.flatten_eq_flatMap, List.flatMap_map]) (by
      intro chunk hchunk
      obtain ⟨byte, -, rfl⟩ := List.mem_map.mp hchunk
      simp [maxBridgeBufferBytes, maxBridgeLineBytes])
  exact ⟨returned, hpushes, hreturned, hbatch (by simp) (by decide) (by
    unfold maxBridgeLineBytes at hlength
    unfold maxBridgeBufferBytes
    omega)⟩

end VentureOS.Bridge.Line
