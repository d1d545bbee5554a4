import VentureOS.Bridge.LocalIpc

/-! # Canonical frames

`decode` of `retained-native-supervisor-topology-observation-carrier-channel.ts` and `parseRequest` of
`retained-native-supervisor-module-authorization-signing-handler.ts`, beside the decoders of the local channels.

All four compare the canonical text of what they read with the text of a decoder, so they accept the bytes of that
text after a byte order mark as well: the bytes are canonical exactly when they start with none. -/

namespace VentureOS.Bridge

open JsonText Codec TextDecoder

/-! ## Inert values -/

section Inert

variable (maxNodes maxDepth : Nat)

/-- The next node of a walk, at this depth after so many others. -/
def nextNode (depth nodes : Nat) : Option Nat :=
  if maxNodes < nodes + 1 ∨ maxDepth < depth then none else some (nodes + 1)

mutual

/-- `assertInertJson`: the nodes that were counted after this value, `none` when it is denied. -/
def assertInertJson : Value → Nat → Nat → Option Nat
  | .null, depth, nodes => nextNode maxNodes maxDepth depth nodes
  | .bool _, depth, nodes => nextNode maxNodes maxDepth depth nodes
  | .str _, depth, nodes => nextNode maxNodes maxDepth depth nodes
  | .int n, depth, nodes => if isSafeInteger n then nextNode maxNodes maxDepth depth nodes else none
  | .num _, _, _ => none
  | .arr items, depth, nodes =>
    if 256 < items.length then none
    else (nextNode maxNodes maxDepth depth nodes).bind (assertInertItems items (depth + 1))
  | .obj fields, depth, nodes =>
    if 64 < fields.length then none
    else (nextNode maxNodes maxDepth depth nodes).bind (assertInertFields fields (depth + 1))
  | .other, _, _ => none

/-- `for (const item of input) assertInertJson(item, …)`. -/
def assertInertItems : List Value → Nat → Nat → Option Nat
  | [], _, nodes => some nodes
  | item :: rest, depth, nodes => (assertInertJson item depth nodes).bind (assertInertItems rest depth)

/-- `for (const key of keys) assertInertJson(record[key], …)`. -/
def assertInertFields : List (Text × Value) → Nat → Nat → Option Nat
  | [], _, nodes => some nodes
  | (_, nested) :: rest, depth, nodes => (assertInertJson nested depth nodes).bind (assertInertFields rest depth)

end

end Inert

/-! ## The carrier channel -/

namespace Carrier

/-- `MAX_RETAINED_NATIVE_TOPOLOGY_CARRIER_CHANNEL_FRAME_BYTES`. -/
def maxFrameBytes : Nat := 65536

/-- `decode`. -/
def decode (input : ByteArray) (code : LocalIpcErrorCode) : Except LocalIpcErrorCode Value := do
  throwIf (input.size < 2 ∨ maxFrameBytes < input.size) code
  let text ← orThrow code (decodeFatal input)
  let value ← orThrow code (parse text)
  let _ ← orThrow code (assertInertJson 4096 16 value 0 0)
  throwIf (Codec.canonicalJson value ≠ some text) code
  return value

/-- What is decoded has the text of the input for its canonical text. -/
theorem canonical_of_decode {input : ByteArray} {code : LocalIpcErrorCode} {value : Value}
    (h : decode input code = .ok value) :
    ∃ text, Codec.canonicalJson value = some text ∧ dropBom input = TextDecoder.encode text := by
  simp only [decode, check_bind_eq_ok, throwIf_eq_ok, orThrow_bind_eq_ok, except_pure_eq_ok, not_not] at h
  obtain ⟨-, text, hdecoded, value', -, -, -, hcanonical, rfl⟩ := h
  exact ⟨text, hcanonical, decodeFatal_eq_some.mp hdecoded⟩

end Carrier

/-! ## Signing requests -/

/-- `AuthenticatedSigningRequest`. -/
structure AuthenticatedSigningRequest where
  signerKeyId : Text
  snapshotPayloadHash : Text
  signingRequestHash : Text
  payloadBytes : ByteArray
  deriving DecidableEq

/-- What `parseRequest` throws: the errors of the channel, or that of the codec. -/
inductive SigningRequestError where
  | denied (code : LocalIpcErrorCode)
  | codec
  deriving DecidableEq, Repr

namespace SigningRequest

/-- `MAX_RETAINED_NATIVE_MODULE_SIGNING_REQUEST_BYTES`. -/
def maxRequestBytes : Nat := 32768

/-- `REQUEST_KEYS`. -/
def requestKeys : List Text := [
  ofString "payload", ofString "protocolVersion", ofString "purpose", ofString "runtimeConnection",
  ofString "signerKeyId", ofString "signingRequestHash", ofString "snapshotPayloadHash"]

/-- `SNAPSHOT_PAYLOAD_KEYS`. -/
def snapshotPayloadKeys : List Text := [
  ofString "algorithm", ofString "authorizations", ofString "issuedAt", ofString "previousSnapshotHash",
  ofString "purpose", ofString "schemaVersion", ofString "signerKeyId", ofString "snapshotId",
  ofString "snapshotVersion", ofString "supervisorInstanceId", ofString "validUntil"]

/-- The purpose of a signing request. -/
def purpose : Text := ofString "RETAINED_NATIVE_SUPERVISOR_MODULE_AUTHORIZATION_SNAPSHOT_SIGNING_REQUEST"

/-- The fields of a request. -/
def requestOf (signerKeyId snapshotPayloadHash signingRequestHash : Text) (payload : Value) : List (Text × Value) := [
  (ofString "protocolVersion", .int 1),
  (ofString "purpose", .str purpose),
  (ofString "signerKeyId", .str signerKeyId),
  (ofString "snapshotPayloadHash", .str snapshotPayloadHash),
  (ofString "signingRequestHash", .str signingRequestHash),
  (ofString "payload", payload),
  (ofString "runtimeConnection", .str (ofString "NOT_CONFIGURED"))]

/-- `requestBinding`. -/
def requestBinding (signerKeyId snapshotPayloadHash : Text) (payload : Value) : Value := .obj [
  (ofString "protocolVersion", .int 1),
  (ofString "purpose", .str purpose),
  (ofString "signerKeyId", .str signerKeyId),
  (ofString "snapshotPayloadHash", .str snapshotPayloadHash),
  (ofString "payload", payload),
  (ofString "runtimeConnection", .str (ofString "NOT_CONFIGURED"))]

/-- `createHash('sha256').update(text).digest('hex')`. -/
def hexDigest (sha256 : String → String) (text : List Char) : Text := ofString (sha256 (String.ofList text))

variable (sha256 : String → String)

/-- The check of the payload: its canonical text, when it has the digest. -/
def checkPayload (payload : Value) (expectedSignerKeyId snapshotPayloadHash : Text) :
    Except SigningRequestError (List Char) := do
  let fields ← orThrow (.denied .INVALID_FRAME) (plainRecord snapshotPayloadKeys payload)
  throwIf (fieldIsInt fields "schemaVersion" 1 = false
      ∨ fieldIsText fields "purpose" (ofString "RETAINED_NATIVE_SUPERVISOR_MODULE_AUTHORIZATION") = false
      ∨ fieldIsText fields "algorithm" (ofString "ED25519") = false
      ∨ fieldIsText fields "signerKeyId" expectedSignerKeyId = false)
    (.denied .INVALID_FRAME)
  let payloadText ← orThrow .codec (Codec.canonicalJson payload)
  throwIf (hexDigest sha256 payloadText ≠ snapshotPayloadHash) (.denied .INVALID_FRAME)
  return payloadText

/-- The checks of a request that was parsed from this text. -/
def checkRequest (text : List Char) (value : Value) (expectedSignerKeyId : Text) :
    Except SigningRequestError AuthenticatedSigningRequest := do
  let _ ← orThrow (.denied .INVALID_FRAME) (assertInertJson 2048 16 value 0 0)
  let request ← orThrow (.denied .INVALID_FRAME) (plainRecord requestKeys value)
  let canonical ← orThrow .codec (Codec.canonicalJson value)
  throwIf (canonical ≠ text ∨ fieldIsInt request "protocolVersion" 1 = false
      ∨ fieldIsText request "purpose" purpose = false
      ∨ fieldIsText request "runtimeConnection" (ofString "NOT_CONFIGURED") = false
      ∨ fieldIsText request "signerKeyId" expectedSignerKeyId = false)
    (.denied .INVALID_FRAME)
  let snapshotPayloadHash ← orThrow (.denied .INVALID_FRAME) (Observation.hashField request "snapshotPayloadHash")
  let signingRequestHash ← orThrow (.denied .INVALID_FRAME) (Observation.hashField request "signingRequestHash")
  let payload ← orThrow (.denied .INVALID_FRAME) (lookupEntry (ofString "payload") request)
  let payloadText ← checkPayload sha256 payload expectedSignerKeyId snapshotPayloadHash
  let binding ← orThrow .codec (Codec.canonicalJson (requestBinding expectedSignerKeyId snapshotPayloadHash payload))
  throwIf (hexDigest sha256 binding ≠ signingRequestHash) (.denied .INVALID_FRAME)
  return {
    signerKeyId := expectedSignerKeyId
    snapshotPayloadHash
    signingRequestHash
    payloadBytes := TextDecoder.encode payloadText }

/-- `parseRequest`. -/
def parseRequest (input : ByteArray) (expectedSignerKeyId : Text) :
    Except SigningRequestError AuthenticatedSigningRequest := do
  throwIf (input.size < 2) (.denied .INVALID_FRAME)
  throwIf (maxRequestBytes < input.size) (.denied .LIMIT_EXCEEDED)
  let text ← orThrow (.denied .INVALID_FRAME) (decodeFatal input)
  let value ← orThrow (.denied .INVALID_FRAME) (parse text)
  checkRequest sha256 text value expectedSignerKeyId

section Requests

variable {sha256 : String → String} {text : List Char} {value : Value} {key key' : Text}
  {request : AuthenticatedSigningRequest} {input input' : ByteArray}

theorem keys_requestOf (key hash hash' : Text) (payload : Value) :
    ((requestOf key hash hash' payload).map Prod.fst).Perm requestKeys
      ∧ ((requestOf key hash hash' payload).map Prod.fst).Nodup := by
  have hkeys : (requestOf key hash hash' payload).map Prod.fst = [
      ofString "protocolVersion", ofString "purpose", ofString "signerKeyId", ofString "snapshotPayloadHash",
      ofString "signingRequestHash", ofString "payload", ofString "runtimeConnection"] := rfl
  rw [hkeys]
  decide

/-- Payloads that are sorted alike make requests that are. -/
theorem sorted_requestOf (key hash hash' : Text) {payload payload' : Value} (h : payload.sorted = payload'.sorted) :
    (Value.obj (requestOf key hash hash' payload)).sorted = (Value.obj (requestOf key hash hash' payload')).sorted := by
  simp only [Value.sorted, requestOf, Value.sortedFields, h]

theorem checkPayload_eq_ok {payload : Value} {hash : Text} {payloadText : List Char}
    (h : checkPayload sha256 payload key hash = .ok payloadText) : Codec.canonicalJson payload = some payloadText := by
  simp only [checkPayload, check_bind_eq_ok, orThrow_bind_eq_ok, except_pure_eq_ok] at h
  obtain ⟨_, -, -, payloadText', hcanonical, -, rfl⟩ := h
  exact hcanonical

/-- What a request that is accepted contains. -/
theorem checkRequest_eq_ok (h : checkRequest sha256 text value key = .ok request) :
    Codec.canonicalJson value = some text ∧ ∃ fields payload payloadText, value = .obj fields
      ∧ fields.Perm (requestOf request.signerKeyId request.snapshotPayloadHash request.signingRequestHash payload)
      ∧ Codec.canonicalJson payload = some payloadText
      ∧ request.payloadBytes = TextDecoder.encode payloadText := by
  simp only [checkRequest, except_bind_eq_ok, throwIf_eq_ok, orThrow_eq_ok, except_pure_eq_ok, plainRecord_eq_some,
    Observation.hashField_eq_some, not_or, not_not, Bool.not_eq_false, fieldIsInt_iff, fieldIsText_iff] at h
  obtain ⟨_, -, fields, ⟨rfl, hkeys⟩, canonical, hcanonical, _,
    ⟨rfl, hversion, hpurpose, hconnection, hkey⟩, hash, ⟨hhash, -⟩, hash', ⟨hhash', -⟩, payload, hpayload,
    payloadText, hchecked, _, -, _, -, rfl⟩ := h
  have hrequest := keys_requestOf key hash hash' payload
  refine ⟨hcanonical, fields, payload, payloadText, rfl, ?_, checkPayload_eq_ok hchecked, rfl⟩
  refine perm_of_lookup (hkeys.trans hrequest.1.symm) hrequest.2 ?_
  simp only [requestOf, List.forall_mem_cons]
  exact ⟨hversion, hpurpose, hkey, hhash, hhash', hpayload, hconnection,
    fun _ hentry => absurd hentry List.not_mem_nil⟩

/-- What is parsed has the text of the input for its canonical text. -/
theorem parseRequest_eq_ok (h : parseRequest sha256 input key = .ok request) :
    ∃ text value, parse text = some value ∧ checkRequest sha256 text value key = .ok request
      ∧ dropBom input = TextDecoder.encode text := by
  simp only [parseRequest, check_bind_eq_ok, orThrow_bind_eq_ok] at h
  obtain ⟨-, -, text, hdecoded, value, hparsed, hchecked⟩ := h
  exact ⟨text, value, hparsed, hchecked, decodeFatal_eq_some.mp hdecoded⟩

/-- Two inputs that are parsed to the same request have the same text: its payload is part of it. -/
theorem dropBom_of_parseRequest (h : parseRequest sha256 input key = .ok request)
    (h' : parseRequest sha256 input' key' = .ok request) : dropBom input = dropBom input' := by
  obtain ⟨text, value, hparsed, hchecked, hdrop⟩ := parseRequest_eq_ok h
  obtain ⟨text', value', hparsed', hchecked', hdrop'⟩ := parseRequest_eq_ok h'
  obtain ⟨hcanonical, fields, payload, payloadText, rfl, hperm, hpayload, hbytes⟩ := checkRequest_eq_ok hchecked
  obtain ⟨hcanonical', fields', payload', payloadText', rfl, hperm', hpayload', hbytes'⟩ := checkRequest_eq_ok hchecked'
  have hkeyed := keyed_of_parse hparsed
  have hkeyed' := keyed_of_parse hparsed'
  rw [Value.Keyed, Value.keyedFields_iff] at hkeyed hkeyed'
  have hpayloads : payload.sorted = payload'.sorted := by
    have hmem : (ofString "payload", payload) ∈ fields := by
      rw [hperm.mem_iff]
      simp [requestOf]
    have hmem' : (ofString "payload", payload') ∈ fields' := by
      rw [hperm'.mem_iff]
      simp [requestOf]
    have htexts : payloadText = payloadText' := encode_injective (hbytes.symm.trans hbytes')
    have hparse := parse_of_canonicalJson (hkeyed.2 _ hmem) hpayload
    rw [htexts, parse_of_canonicalJson (hkeyed'.2 _ hmem') hpayload', Option.some.injEq] at hparse
    exact hparse.symm
  rw [canonicalJson_of_perm hkeyed.1 hperm, canonicalJson_eq_some, sorted_requestOf _ _ _ hpayloads] at hcanonical
  rw [canonicalJson_of_perm hkeyed'.1 hperm', canonicalJson_eq_some] at hcanonical'
  rw [hdrop, hdrop', ← hcanonical.2, ← hcanonical'.2]

end Requests

end SigningRequest

/-! ## All frames -/

/-- The bytes of a canonical text are the input when it starts with no byte order mark. -/
theorem canonical_iff {value : Value} {text : List Char} {input : ByteArray}
    (hcanonical : Codec.canonicalJson value = some text) (hdrop : dropBom input = TextDecoder.encode text) :
    (Codec.canonicalJson value).map TextDecoder.encode = some input ↔ hasBom input = false := by
  rw [hcanonical, Option.map_some, Option.some.injEq]
  exact encode_eq_iff hdrop

/-- **What is accepted is canonical exactly when it starts with no byte order mark**, and it is the only input of its
message that starts as it does. -/
theorem frames_canonical (sha256 : String → String) :
    (∀ (input : ByteArray) (direction : RecoveryDirection) (message : Value),
        Recovery.decode input direction = .ok message →
      (Recovery.encode direction message = .ok input ↔ hasBom input = false)
        ∧ ∀ input', Recovery.decode input' direction = .ok message → (input = input' ↔ hasBom input = hasBom input'))
    ∧ (∀ (input : ByteArray) (direction : ObservationDirection) (role : ObserverRole) (expected : Option Text)
        (message : Value) (requestHash : Text),
        Observation.decode input direction role expected = .ok (message, requestHash) →
      (Observation.encode direction role requestHash message = .ok input ↔ hasBom input = false)
        ∧ ∀ input' expected', Observation.decode input' direction role expected' = .ok (message, requestHash) →
          (input = input' ↔ hasBom input = hasBom input'))
    ∧ (∀ (input : ByteArray) (code : LocalIpcErrorCode) (value : Value), Carrier.decode input code = .ok value →
      ((Codec.canonicalJson value).map TextDecoder.encode = some input ↔ hasBom input = false)
        ∧ ∀ input' code', Carrier.decode input' code' = .ok value → (input = input' ↔ hasBom input = hasBom input'))
    ∧ ∀ (input : ByteArray) (key : Text) (request : AuthenticatedSigningRequest),
        SigningRequest.parseRequest sha256 input key = .ok request →
      (∃ text value, decodeFatal input = some text ∧ parse text = some value
          ∧ ((Codec.canonicalJson value).map TextDecoder.encode = some input ↔ hasBom input = false))
        ∧ ∀ input' key', SigningRequest.parseRequest sha256 input' key' = .ok request →
          (input = input' ↔ hasBom input = hasBom input') := by
  refine ⟨fun input direction message h => ?_, fun input direction role expected message requestHash h => ?_,
    fun input code value h => ?_, fun input key request h => ?_⟩
  · have hencode := Recovery.encode_of_decode h
    refine ⟨?_, fun input' h' => eq_iff_hasBom ?_⟩
    · rw [hencode, Except.ok.injEq]
      exact dropBom_eq_iff input
    · exact Except.ok.inj (hencode.symm.trans (Recovery.encode_of_decode h'))
  · have hencode := Observation.encode_of_decode h
    refine ⟨?_, fun input' expected' h' => eq_iff_hasBom ?_⟩
    · rw [hencode, Except.ok.injEq]
      exact dropBom_eq_iff input
    · exact Except.ok.inj (hencode.symm.trans (Observation.encode_of_decode h'))
  · obtain ⟨text, hcanonical, hdrop⟩ := Carrier.canonical_of_decode h
    refine ⟨canonical_iff hcanonical hdrop, fun input' code' h' => eq_iff_hasBom ?_⟩
    obtain ⟨text', hcanonical', hdrop'⟩ := Carrier.canonical_of_decode h'
    rw [hcanonical, Option.some.injEq] at hcanonical'
    rw [hdrop, hdrop', hcanonical']
  · obtain ⟨text, value, hparsed, hchecked, hdrop⟩ := SigningRequest.parseRequest_eq_ok h
    have hcanonical := (SigningRequest.checkRequest_eq_ok hchecked).1
    exact ⟨⟨text, value, decodeFatal_eq_some.mpr hdrop, hparsed, canonical_iff hcanonical hdrop⟩,
      fun input' key' h' => eq_iff_hasBom (SigningRequest.dropBom_of_parseRequest h h')⟩

/-- A frame after a byte order mark is another input of the same message. -/
theorem frame_not_canonical : ∃ input input' message,
    Recovery.decode input .WORKER_TO_SUPERVISOR = .ok message
      ∧ Recovery.decode input' .WORKER_TO_SUPERVISOR = .ok message
      ∧ Recovery.encode .WORKER_TO_SUPERVISOR message ≠ .ok input' ∧ input ≠ input' := by
  have hencoded : (Recovery.encode .WORKER_TO_SUPERVISOR (.obj [])).toOption.any
      (fun frame => decide (frame.size + 3 ≤ maxIpcFrameBytes)) = true := by decide +kernel
  cases hframe : Recovery.encode .WORKER_TO_SUPERVISOR (.obj []) with
  | error code =>
    rw [hframe] at hencoded
    cases hencoded
  | ok frame =>
    rw [hframe] at hencoded
    have hsize := of_decide_eq_true hencoded
    have hkeyed : (Value.obj []).Keyed := ⟨List.nodup_nil, trivial⟩
    obtain ⟨text, hline⟩ := Recovery.recordLine_of_encode hkeyed hframe
    have hdecode := Recovery.decode_encode hkeyed hframe
    have hmarked := Recovery.decode_bom hdecode hline.noBom.1 hsize
    have hbom := (dropBom_bom frame).1
    refine ⟨frame, bom ++ frame, _, hdecode, hmarked, ?_, ?_⟩
    · rw [Recovery.encode_of_decode hmarked, (dropBom_bom frame).2, Ne, Except.ok.injEq]
      intro heq
      rw [← heq, hline.noBom.1] at hbom
      cases hbom
    · intro heq
      rw [← heq, hline.noBom.1] at hbom
      cases hbom

namespace Sample

/-- A digest for which every text has the same hash. -/
def hex (_ : String) : String := String.ofList (List.replicate 64 'a')

def snapshotPayload : Value := .obj [
  (ofString "algorithm", .str (ofString "ED25519")), (ofString "authorizations", .arr []),
  (ofString "issuedAt", .null), (ofString "previousSnapshotHash", .null),
  (ofString "purpose", .str (ofString "RETAINED_NATIVE_SUPERVISOR_MODULE_AUTHORIZATION")),
  (ofString "schemaVersion", .int 1), (ofString "signerKeyId", .str (ofString "key")),
  (ofString "snapshotId", .null), (ofString "snapshotVersion", .null), (ofString "supervisorInstanceId", .null),
  (ofString "validUntil", .null)]

def signingRequest : Value :=
  .obj (SigningRequest.requestOf (ofString "key") requestHash requestHash snapshotPayload)

theorem keyed_signingRequest : signingRequest.Keyed := by
  refine ⟨(SigningRequest.keys_requestOf _ _ _ _).2, ?_⟩
  rw [Value.keyedFields_iff]
  simp only [SigningRequest.requestOf, List.forall_mem_cons]
  have hnodup : ([ofString "algorithm", ofString "authorizations", ofString "issuedAt",
      ofString "previousSnapshotHash", ofString "purpose", ofString "schemaVersion", ofString "signerKeyId",
      ofString "snapshotId", ofString "snapshotVersion", ofString "supervisorInstanceId",
      ofString "validUntil"] : List Text).Nodup := by decide
  have hpayload : snapshotPayload.Keyed := ⟨hnodup, by simp [Value.KeyedFields, Value.Keyed, Value.KeyedItems]⟩
  exact ⟨trivial, trivial, trivial, trivial, trivial, hpayload, trivial, fun _ hfield => absurd hfield List.not_mem_nil⟩

theorem signingRequest_checked :
    (SigningRequest.checkRequest hex signingRequest.sorted.print signingRequest.sorted (ofString "key")).isOk = true
    ∧ signingRequest.sorted.print.length ≤ 8192 := by
  decide +kernel

theorem braces_signingRequest : ∃ c tail, signingRequest.sorted.print = '{' :: c :: tail := by
  rw [signingRequest, Value.sorted]
  exact Value.print_obj _

theorem hasBom_signingRequest : hasBom (TextDecoder.encode signingRequest.sorted.print) = false := by
  obtain ⟨c, tail, hprint⟩ := braces_signingRequest
  rw [hprint]
  exact hasBom_encode_brace _

theorem two_le_length_signingRequest : 2 ≤ signingRequest.sorted.print.length := by
  obtain ⟨c, tail, hprint⟩ := braces_signingRequest
  rw [hprint, List.length_cons, List.length_cons]
  omega

theorem exists_parseRequest : ∃ request,
    SigningRequest.parseRequest hex (TextDecoder.encode signingRequest.sorted.print) (ofString "key") = .ok request := by
  cases hchecked : SigningRequest.checkRequest hex signingRequest.sorted.print signingRequest.sorted
      (ofString "key") with
  | error e =>
    have hok := signingRequest_checked.1
    rw [hchecked] at hok
    cases hok
  | ok request =>
    have hcanonical := canonicalJson_eq_some.mp (SigningRequest.checkRequest_eq_ok hchecked).1
    have hprintable := printable_of_accepts keyed_signingRequest (accepts_sorted signingRequest ▸ hcanonical.1)
    have hparsed := parse_print hprintable.sorted
    have hdecoded : decodeFatal (TextDecoder.encode signingRequest.sorted.print)
        = some signingRequest.sorted.print := by
      rw [decodeFatal_eq_some]
      exact dropBom_of_not hasBom_signingRequest
    have hlong := size_encode_le signingRequest.sorted.print
    have hshort := length_le_size_encode signingRequest.sorted.print
    have hlength := signingRequest_checked.2
    have hbraces := two_le_length_signingRequest
    refine ⟨request, ?_⟩
    simp only [SigningRequest.parseRequest, check_bind_eq_ok, throwIf_eq_ok, orThrow_bind_eq_ok]
    exact ⟨by omega, by rw [SigningRequest.maxRequestBytes]; omega, _, hdecoded, _, hparsed, hchecked⟩

end Sample

/-- Each decoder accepts some input, and it is canonical or it is not. -/
theorem frames_canonical_sample :
    (∃ input message, Recovery.decode input .WORKER_TO_SUPERVISOR = .ok message
      ∧ Recovery.encode .WORKER_TO_SUPERVISOR message = .ok input)
    ∧ (∃ input message, Observation.decode input .COORDINATOR_TO_OBSERVER .API_LISTENER none
        = .ok (message, Sample.requestHash)
      ∧ Observation.encode .COORDINATOR_TO_OBSERVER .API_LISTENER Sample.requestHash message = .ok input)
    ∧ (∃ value, Carrier.decode (bom ++ TextDecoder.encode ['{', '}']) .INVALID_ATTESTATION = .ok value
      ∧ (Codec.canonicalJson value).map TextDecoder.encode ≠ some (bom ++ TextDecoder.encode ['{', '}']))
    ∧ ∃ request value, SigningRequest.parseRequest Sample.hex (TextDecoder.encode Sample.signingRequest.sorted.print)
        (ofString "key") = .ok request
      ∧ (Codec.canonicalJson value).map TextDecoder.encode
        = some (TextDecoder.encode Sample.signingRequest.sorted.print) := by
  obtain ⟨hrecovery, hobservation, hcarrier, hsigning⟩ := frames_canonical Sample.hex
  refine ⟨?_, ?_, ?_, ?_⟩
  · obtain ⟨frame, hframe⟩ := exists_of_isOk Sample.isOk_encode.1
    obtain ⟨text, hline⟩ := Recovery.recordLine_of_encode Sample.surrogate.property hframe
    have hdecode := Recovery.decode_encode Sample.surrogate.property hframe
    exact ⟨frame, _, hdecode, (hrecovery _ _ _ hdecode).1.mpr hline.noBom.1⟩
  · obtain ⟨frame, hframe⟩ := exists_of_isOk Sample.isOk_encode.2
    obtain ⟨text, hline⟩ := Observation.recordLine_of_encode Sample.surrogate.property hframe
    have hexpected : ∀ hash ∈ (none : Option Text), Sample.requestHash = hash := fun _ hhash => by cases hhash
    have hdecode := Observation.decode_encode Sample.surrogate.property Sample.isHash_requestHash hexpected hframe
    exact ⟨frame, _, hdecode, (hobservation _ _ _ _ _ _ hdecode).1.mpr hline.noBom.1⟩
  · have hok : (Carrier.decode (bom ++ TextDecoder.encode ['{', '}']) .INVALID_ATTESTATION).isOk = true := by
      decide
    obtain ⟨value, hvalue⟩ := exists_of_isOk hok
    refine ⟨value, hvalue, fun hcanonical => ?_⟩
    have hplain := (hcarrier _ _ _ hvalue).1.mp hcanonical
    rw [(dropBom_bom _).1] at hplain
    cases hplain
  · obtain ⟨request, hrequest⟩ := Sample.exists_parseRequest
    obtain ⟨⟨text, value, -, -, hcanonical⟩, -⟩ := hsigning _ _ _ hrequest
    exact ⟨request, value, hrequest, hcanonical.mpr Sample.hasBom_signingRequest⟩

end VentureOS.Bridge
