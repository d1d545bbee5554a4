import VentureOS.Bridge.LocalIpc
import VentureOS.Foundations.Interleaving

/-! # The transport of recovery requests

`AuthenticatedLinuxLocalRetainedNativeSupervisorRecoveryTransport` of `retained-native-supervisor-local-ipc.ts`, with
its calls of `exchange` in any interleaving.

The transport is in flight from the start of an exchange on, and the exchange lets go of it in `finally`. A request
that cannot be encoded fails in between: no exchange is left to let go, and every later one is denied as concurrent. -/

namespace VentureOS.Bridge

open JsonText TextDecoder

/-! ## Attestations -/

/-- `RetainedNativeSupervisorLocalIpcAuthorization`, without its constant fields. -/
structure LocalIpcAuthorization where
  socketPath : Text
  socketDevice : Int
  socketInode : Int
  socketOwnerUid : Int
  socketOwnerGid : Int
  socketMode : Int
  expectedPeerPid : Int
  expectedPeerUid : Int
  expectedPeerGid : Int

/-- `RetainedNativeSupervisorLocalIpcClientExchangeResult`; a response that is no `Uint8Array` is `none`. -/
structure ClientExchangeResult where
  endpointBefore : Value
  peerCredentials : Value
  endpointAfter : Value
  responseFrame : Option ByteArray

/-- `ENDPOINT_KEYS`. -/
def endpointKeys : List Text := [
  ofString "authority", ofString "fileType", ofString "platform", ofString "schemaVersion", ofString "socketDevice",
  ofString "socketInode", ofString "socketMode", ofString "socketOwnerGid", ofString "socketOwnerUid",
  ofString "socketPath"]

/-- `PEER_KEYS`. -/
def peerKeys : List Text := [
  ofString "authority", ofString "peerGid", ofString "peerPid", ofString "peerUid", ofString "platform",
  ofString "schemaVersion"]

/-- `assertEndpoint`. A field that equals that of an authorization passes its checks, as the authorization does. -/
def assertEndpoint (input : Value) (authorization : LocalIpcAuthorization) : Except LocalIpcErrorCode Unit := do
  let value ← orThrow .INVALID_ATTESTATION (plainRecord endpointKeys input)
  throwIf (fieldIsInt value "schemaVersion" 1 = false ∨ fieldIsText value "platform" (ofString "LINUX") = false
      ∨ fieldIsText value "authority" (ofString "LINUX_LSTAT_UNIX_SOCKET") = false
      ∨ fieldIsText value "fileType" (ofString "SOCKET") = false
      ∨ fieldIsText value "socketPath" authorization.socketPath = false
      ∨ fieldIsInt value "socketDevice" authorization.socketDevice = false
      ∨ fieldIsInt value "socketInode" authorization.socketInode = false
      ∨ fieldIsInt value "socketOwnerUid" authorization.socketOwnerUid = false
      ∨ fieldIsInt value "socketOwnerGid" authorization.socketOwnerGid = false
      ∨ fieldIsInt value "socketMode" authorization.socketMode = false)
    .INVALID_ATTESTATION

/-- `assertPeer`. -/
def assertPeer (input : Value) (authorization : LocalIpcAuthorization) : Except LocalIpcErrorCode Unit := do
  let value ← orThrow .INVALID_ATTESTATION (plainRecord peerKeys input)
  throwIf (fieldIsInt value "schemaVersion" 1 = false ∨ fieldIsText value "platform" (ofString "LINUX") = false
      ∨ fieldIsText value "authority" (ofString "LINUX_SO_PEERCRED") = false
      ∨ fieldIsInt value "peerPid" authorization.expectedPeerPid = false
      ∨ fieldIsInt value "peerUid" authorization.expectedPeerUid = false
      ∨ fieldIsInt value "peerGid" authorization.expectedPeerGid = false)
    .INVALID_ATTESTATION

/-- `authenticateRetainedNativeSupervisorLocalIpcClientExchange`, of a candidate that may be no such record. -/
def authenticateClientExchange (candidate : Option ClientExchangeResult) (authorization : LocalIpcAuthorization) :
    Except LocalIpcErrorCode (Option ByteArray) := do
  let result ← orThrow .INVALID_ATTESTATION candidate
  assertEndpoint result.endpointBefore authorization
  assertPeer result.peerCredentials authorization
  assertEndpoint result.endpointAfter authorization
  return result.responseFrame

/-! ## Exchanges -/

/-- An error of a client, which may be one of the channel. -/
inductive ClientError where
  | ipc (code : LocalIpcErrorCode)
  | other
  deriving DecidableEq, Repr

/-- How an exchange is denied for an error of its client. -/
def ClientError.denial : ClientError → LocalIpcErrorCode
  | .ipc code => code
  | .other => .EXCHANGE_DENIED

/-- The arguments of `exchange`; `live` when the signal is one, and is not aborted. -/
structure ExchangeStart where
  request : Value
  live : Bool

/-- What `client.exchange` has come to, and whether the signal is aborted by then. -/
structure ClientReply where
  answer : Except ClientError (Option ClientExchangeResult)
  aborted : Bool

/-- A call of `exchange`. -/
inductive Exchange where
  /-- It waits for `client.exchange`. -/
  | pending
  | denied (code : LocalIpcErrorCode)
  | returned (message : Value)

/-- What a piece of `exchange` shows: nothing, or that `client.exchange` is invoked. -/
inductive ExchangeShown where
  | nothing
  | invoked (requestFrame : ByteArray)

/-- The end of an exchange. -/
def Exchange.settle : Except LocalIpcErrorCode Value → Exchange
  | .ok message => .returned message
  | .error code => .denied code

/-- What is made of the answer of a client. -/
def receive (authorization : LocalIpcAuthorization) (reply : ClientReply) : Except LocalIpcErrorCode Value :=
  match reply.answer with
  | .error e => .error e.denial
  | .ok candidate => do
    throwIf (reply.aborted = true) .EXCHANGE_DENIED
    let responseFrame ← authenticateClientExchange candidate authorization
    let input ← orInvalidFrame responseFrame
    Recovery.decode input .SUPERVISOR_TO_WORKER

/-- `exchange` up to `client.exchange`. The shared state is `#inFlight`. -/
def startExchange (a : ExchangeStart) (inFlight : Bool) : ExchangeShown × Bool × Exchange :=
  if a.live = false then (.nothing, inFlight, .denied .EXCHANGE_DENIED)
  else if inFlight then (.nothing, inFlight, .denied .CONCURRENT_EXCHANGE)
  else
    -- The transport is in flight from here on, and the request is not encoded inside `try`.
    match Recovery.encode .WORKER_TO_SUPERVISOR a.request with
    | .error code => (.nothing, true, .denied code)
    | .ok requestFrame => (.invoked requestFrame, true, .pending)

/-- `exchange` from there to its end. -/
def resumeExchange (authorization : LocalIpcAuthorization) (reply : ClientReply) (call : Exchange) (inFlight : Bool) :
    ExchangeShown × Bool × Exchange :=
  match call with
  | .pending => (.nothing, false, .settle (receive authorization reply))
  | call => (.nothing, inFlight, call)

/-- The calls of one transport. -/
def recoveryTransport (authorization : LocalIpcAuthorization) :
    CallSystem Bool Exchange ExchangeStart ClientReply ExchangeShown where
  start := startExchange
  resume := resumeExchange authorization

/-! ## Pending exchanges -/

def Exchange.isPending : Exchange → Bool
  | .pending => true
  | _ => false

/-- No exchange is pending. -/
def Idle (pool : Pool Bool Exchange) : Prop := ∀ call ∈ pool.calls, call.isPending = false

/-- One for a pending exchange. -/
def pendingWeight (call : Exchange) : Nat := if call.isPending = true then 1 else 0

/-- One for a transport that is in flight. -/
def flightAmount (inFlight : Bool) : Nat := if inFlight = true then 1 else 0

theorem pendingWeight_settle (outcome : Except LocalIpcErrorCode Value) :
    pendingWeight (.settle outcome) = 0 := by
  cases outcome <;> rfl

theorem idle_iff {pool : Pool Bool Exchange} : Idle pool ↔ CallSystem.weigh pendingWeight pool.calls = 0 := by
  rw [CallSystem.weigh_eq_zero_iff]
  refine forall₂_congr fun call _ => ?_
  cases call with
  | pending => exact iff_of_false (by decide) (by decide)
  | denied code | returned message => exact iff_of_true rfl rfl

section Pieces

variable {a : ExchangeStart} {inFlight : Bool}

theorem startExchange_dead (h : a.live = false) :
    startExchange a inFlight = (.nothing, inFlight, .denied .EXCHANGE_DENIED) := by
  rw [startExchange, if_pos h]

theorem startExchange_concurrent (h : a.live = true) :
    startExchange a true = (.nothing, true, .denied .CONCURRENT_EXCHANGE) := by
  rw [startExchange, if_neg (by rw [h]; decide), if_pos rfl]

theorem startExchange_invalid (h : a.live = true) {code : LocalIpcErrorCode}
    (hencode : Recovery.encode .WORKER_TO_SUPERVISOR a.request = .error code) :
    startExchange a false = (.nothing, true, .denied code) := by
  rw [startExchange, if_neg (by rw [h]; decide), if_neg (by decide), hencode]

theorem startExchange_valid (h : a.live = true) {frame : ByteArray}
    (hencode : Recovery.encode .WORKER_TO_SUPERVISOR a.request = .ok frame) :
    startExchange a false = (.invoked frame, true, .pending) := by
  rw [startExchange, if_neg (by rw [h]; decide), if_neg (by decide), hencode]

/-- A start is denied as concurrent when the transport is in flight. -/
theorem inFlight_of_concurrent (h : (startExchange a inFlight).2.2 = .denied .CONCURRENT_EXCHANGE) :
    inFlight = true := by
  cases hlive : a.live with
  | false =>
    rw [startExchange_dead hlive] at h
    cases h
  | true =>
    cases inFlight with
    | true => rfl
    | false =>
      cases hencode : Recovery.encode .WORKER_TO_SUPERVISOR a.request with
      | error code =>
        have hcode := Recovery.errorsIn_encode _ _ code hencode
        rw [startExchange_invalid hlive hencode] at h
        cases h
        exact absurd hcode (by decide)
      | ok frame =>
        rw [startExchange_valid hlive hencode] at h
        cases h

/-- A start takes hold of the transport, or leaves it as it is. -/
theorem startExchange_covered (a : ExchangeStart) (inFlight : Bool) :
    pendingWeight (startExchange a inFlight).2.2 + flightAmount inFlight
      ≤ flightAmount (startExchange a inFlight).2.1 := by
  cases hlive : a.live with
  | false =>
    rw [startExchange_dead hlive]
    exact Nat.le_of_eq (Nat.zero_add _)
  | true =>
    cases inFlight with
    | true =>
      rw [startExchange_concurrent hlive]
      exact Nat.le_refl _
    | false =>
      cases hencode : Recovery.encode .WORKER_TO_SUPERVISOR a.request with
      | error code =>
        rw [startExchange_invalid hlive hencode]
        exact Nat.zero_le _
      | ok frame =>
        rw [startExchange_valid hlive hencode]
        exact Nat.le_refl _

variable (authorization : LocalIpcAuthorization) (reply : ClientReply)

theorem resumeExchange_settled {call : Exchange} (h : call.isPending = false) :
    resumeExchange authorization reply call inFlight = (.nothing, inFlight, call) := by
  cases call with
  | pending => cases h
  | denied code | returned message => rfl

theorem errorsIn_authenticate (candidate : Option ClientExchangeResult) :
    ErrorsIn [.INVALID_ATTESTATION] (authenticateClientExchange candidate authorization) := by
  have hendpoint : ∀ input, ErrorsIn [.INVALID_ATTESTATION] (assertEndpoint input authorization) := fun input =>
    (errorsIn_orThrow (by decide) _).bind fun _ => errorsIn_throwIf (by decide)
  have hpeer : ∀ input, ErrorsIn [.INVALID_ATTESTATION] (assertPeer input authorization) := fun input =>
    (errorsIn_orThrow (by decide) _).bind fun _ => errorsIn_throwIf (by decide)
  exact (errorsIn_orThrow (by decide) _).bind fun _ => (hendpoint _).bind fun _ => (hpeer _).bind fun _ =>
    (hendpoint _).bind fun _ => errorsIn_ok _

/-- An answer is received as a concurrent exchange when the client says that it is one. -/
theorem receive_concurrent : receive authorization reply = .error .CONCURRENT_EXCHANGE
    ↔ reply.answer = .error (.ipc .CONCURRENT_EXCHANGE) := by
  obtain ⟨answer, aborted⟩ := reply
  cases answer with
  | error e =>
    cases e with
    | _ => simp [receive, ClientError.denial]
  | ok candidate =>
    have hreceive : ErrorsIn [.EXCHANGE_DENIED, .INVALID_ATTESTATION, .INVALID_FRAME, .LIMIT_EXCEEDED]
        (receive authorization ⟨.ok candidate, aborted⟩) :=
      (errorsIn_throwIf (by decide)).bind fun _ =>
        ((errorsIn_authenticate authorization candidate).mono (by decide)).bind fun _ =>
          (errorsIn_orThrow (by decide) _).bind fun _ => (Recovery.errorsIn_decode _ _).mono (by decide)
    constructor
    · intro h
      exact absurd (hreceive _ h) (by decide)
    · intro h
      cases h

end Pieces

/-! ## Runs -/

section Runs

variable (authorization : LocalIpcAuthorization)

/-- **The transport does not wedge** in a run. -/
structure NeverWedges (moves : List (Move ExchangeStart ClientReply)) : Prop where
  /-- A start is denied as concurrent beside a pending exchange only, -/
  start : ∀ before a, before ++ [.start a] <+: moves →
    (startExchange a ((recoveryTransport authorization).pool false before).shared).2.2
      = .denied .CONCURRENT_EXCHANGE →
    ∃ call ∈ ((recoveryTransport authorization).pool false before).calls, call.isPending = true
  /-- and so is what comes of a client. -/
  reply : ∀ before i reply, before ++ [.resume i reply] <+: moves →
    ((recoveryTransport authorization).pool false before).calls[i]? = some .pending →
    receive authorization reply = .error .CONCURRENT_EXCHANGE →
    ∃ j ≠ i, ((recoveryTransport authorization).pool false before).calls[j]? = some .pending
  /-- When no exchange is pending, the next one with a valid request reaches `client.exchange`. -/
  reaches : ∀ before, before <+: moves → Idle ((recoveryTransport authorization).pool false before) →
    ∀ a frame, a.live = true → Recovery.encode .WORKER_TO_SUPERVISOR a.request = .ok frame →
    (startExchange a ((recoveryTransport authorization).pool false before).shared).1 = .invoked frame

/-- Every live exchange that is started while none is pending has a request that can be encoded. -/
def EachEncodes (moves : List (Move ExchangeStart ClientReply)) : Prop :=
  ∀ before a, before ++ [.start a] <+: moves → a.live = true →
    Idle ((recoveryTransport authorization).pool false before) →
    ∃ frame, Recovery.encode .WORKER_TO_SUPERVISOR a.request = .ok frame

/-- No client of a pending exchange says that it is concurrent. -/
def NoneConcurrent (moves : List (Move ExchangeStart ClientReply)) : Prop :=
  ∀ before i reply, before ++ [.resume i reply] <+: moves →
    ((recoveryTransport authorization).pool false before).calls[i]? = some .pending →
    reply.answer ≠ .error (.ipc .CONCURRENT_EXCHANGE)

/-- A pending exchange is in flight. -/
theorem pending_le (moves : List (Move ExchangeStart ClientReply)) :
    CallSystem.weigh pendingWeight ((recoveryTransport authorization).pool false moves).calls
      ≤ flightAmount ((recoveryTransport authorization).pool false moves).shared := by
  refine (recoveryTransport authorization).covered pendingWeight flightAmount startExchange_covered ?_ false moves
  intro reply call inFlight
  cases hcall : call.isPending with
  | true =>
    cases call with
    | pending =>
      show pendingWeight (.settle _) + flightAmount inFlight ≤ flightAmount false + pendingWeight .pending
      rw [pendingWeight_settle]
      cases inFlight <;> decide
    | denied code | returned message => cases hcall
  | false =>
    show pendingWeight (resumeExchange authorization reply call inFlight).2.2 + _
      ≤ flightAmount (resumeExchange authorization reply call inFlight).2.1 + _
    rw [resumeExchange_settled authorization reply hcall, Nat.add_comm]

variable {authorization} {moves before : List (Move ExchangeStart ClientReply)}

/-- The transport is in flight for a pending exchange, when the requests can be encoded. -/
theorem EachEncodes.le_pending (h : EachEncodes authorization moves) :
    flightAmount ((recoveryTransport authorization).pool false moves).shared
      ≤ CallSystem.weigh pendingWeight ((recoveryTransport authorization).pool false moves).calls := by
  induction moves using List.reverseRecOn with
  | nil => exact Nat.le_refl 0
  | append_singleton moves move ih =>
    have hbefore := ih fun before a hinit => h before a (hinit.trans (List.prefix_append _ _))
    have hcovered := pending_le authorization moves
    have hlast := h moves
    rw [CallSystem.pool_concat]
    generalize hpool : (recoveryTransport authorization).pool false moves = pool at hbefore hcovered hlast ⊢
    obtain ⟨inFlight, calls⟩ := pool
    cases move with
    | start a =>
      show flightAmount (startExchange a inFlight).2.1
        ≤ CallSystem.weigh pendingWeight (calls ++ [(startExchange a inFlight).2.2])
      have hadd : CallSystem.weigh pendingWeight (calls ++ [(startExchange a inFlight).2.2])
          = CallSystem.weigh pendingWeight calls + pendingWeight (startExchange a inFlight).2.2 := by
        simp [CallSystem.weigh]
      rw [hadd]
      cases hlive : a.live with
      | false =>
        rw [startExchange_dead hlive]
        exact hbefore
      | true =>
        cases inFlight with
        | true =>
          rw [startExchange_concurrent hlive]
          exact hbefore
        | false =>
          -- Nothing is pending, so the request can be encoded.
          have hidle : Idle ⟨false, calls⟩ := idle_iff.mpr (Nat.le_zero.mp hcovered)
          obtain ⟨frame, hencode⟩ := hlast a List.prefix_rfl hlive hidle
          rw [startExchange_valid hlive hencode]
          exact Nat.le_add_left _ _
    | resume i reply =>
      cases hcall : calls[i]? with
      | none =>
        rw [CallSystem.step_resume_of_none _ hcall]
        exact hbefore
      | some call =>
        rw [CallSystem.step_resume_of_some _ hcall]
        show flightAmount (resumeExchange authorization reply call inFlight).2.1
          ≤ CallSystem.weigh pendingWeight (calls.set i (resumeExchange authorization reply call inFlight).2.2)
        cases hpending : call.isPending with
        | true =>
          cases call with
          | pending => exact Nat.zero_le _
          | denied code | returned message => cases hpending
        | false =>
          have hset := CallSystem.weigh_set pendingWeight call hcall
          rw [resumeExchange_settled authorization reply hpending]
          show flightAmount inFlight ≤ CallSystem.weigh pendingWeight (calls.set i call)
          have hbefore : flightAmount inFlight ≤ CallSystem.weigh pendingWeight calls := hbefore
          omega

/-- Two exchanges are never pending at once. -/
theorem pending_unique {i j : Nat} (hi : ((recoveryTransport authorization).pool false moves).calls[i]? = some .pending)
    (hj : ((recoveryTransport authorization).pool false moves).calls[j]? = some .pending) : i = j := by
  have hcovered := pending_le authorization moves
  generalize (recoveryTransport authorization).pool false moves = pool at hi hj hcovered
  by_contra hne
  -- The call at `j` is pending still when that at `i` has settled.
  have hset := CallSystem.weigh_set pendingWeight (.denied .EXCHANGE_DENIED) hi
  have hmem : Exchange.pending ∈ pool.calls.set i (.denied .EXCHANGE_DENIED) := by
    apply List.mem_of_getElem? (i := j)
    rw [List.getElem?_set_ne hne]
    exact hj
  have hpositive : CallSystem.weigh pendingWeight (pool.calls.set i (.denied .EXCHANGE_DENIED)) ≠ 0 :=
    fun hzero => absurd (CallSystem.weigh_eq_zero_iff.mp hzero _ hmem) (by decide)
  have hflight : flightAmount pool.shared ≤ 1 := by cases pool.shared <;> decide
  have hpending : pendingWeight .pending = 1 := rfl
  have hdenied : pendingWeight (.denied .EXCHANGE_DENIED) = 0 := rfl
  omega

theorem EachEncodes.of_prefix (h : EachEncodes authorization moves) (hbefore : before <+: moves) :
    EachEncodes authorization before := fun pre a hinit => h pre a (hinit.trans hbefore)

/-- An idle transport is not in flight, when the requests can be encoded. -/
theorem EachEncodes.inFlight (h : EachEncodes authorization moves)
    (hidle : Idle ((recoveryTransport authorization).pool false moves)) :
    ((recoveryTransport authorization).pool false moves).shared = false := by
  have hle := h.le_pending
  rw [idle_iff.mp hidle] at hle
  cases hshared : ((recoveryTransport authorization).pool false moves).shared with
  | false => rfl
  | true =>
    rw [hshared] at hle
    exact absurd hle (by decide)

theorem not_idle {pool : Pool Bool Exchange} (h : ¬ Idle pool) : ∃ call ∈ pool.calls, call.isPending = true := by
  simp only [Idle, not_forall, Bool.not_eq_false] at h
  obtain ⟨call, hmem, hpending⟩ := h
  exact ⟨call, hmem, hpending⟩

/-- An exchange whose request cannot be encoded leaves an idle transport in flight. -/
theorem pool_invalid {a : ExchangeStart} (hlive : a.live = true) {code : LocalIpcErrorCode}
    (hencode : Recovery.encode .WORKER_TO_SUPERVISOR a.request = .error code)
    (hidle : Idle ((recoveryTransport authorization).pool false before))
    (hshared : ((recoveryTransport authorization).pool false before).shared = false) :
    Idle ((recoveryTransport authorization).pool false (before ++ [.start a]))
      ∧ ((recoveryTransport authorization).pool false (before ++ [.start a])).shared = true := by
  have hstart := startExchange_invalid hlive hencode
  rw [CallSystem.pool_concat]
  generalize (recoveryTransport authorization).pool false before = pool at hidle hshared
  have hstep : ((recoveryTransport authorization).step (.start a) pool).2 = ⟨true, pool.calls ++ [.denied code]⟩ := by
    show (⟨(startExchange a pool.shared).2.1, pool.calls ++ [(startExchange a pool.shared).2.2]⟩ : Pool Bool Exchange)
      = _
    rw [hshared, hstart]
  rw [hstep]
  refine ⟨fun call hcall => ?_, rfl⟩
  rcases List.mem_append.mp hcall with hmem | hmem
  · exact hidle call hmem
  · rw [List.mem_singleton.mp hmem]
    rfl

end Runs

/-- **The transport does not wedge exactly when the requests can be encoded** that are sent while none is pending,
and no client says itself that an exchange is concurrent. -/
theorem never_wedges_iff (authorization : LocalIpcAuthorization) (moves : List (Move ExchangeStart ClientReply)) :
    NeverWedges authorization moves ↔ EachEncodes authorization moves ∧ NoneConcurrent authorization moves := by
  constructor
  · intro h
    constructor
    · intro before a hinit hlive hidle
      cases hencode : Recovery.encode .WORKER_TO_SUPERVISOR a.request with
      | ok frame => exact ⟨frame, rfl⟩
      | error code =>
        exfalso
        cases hshared : ((recoveryTransport authorization).pool false before).shared with
        | true =>
          have hconcurrent := startExchange_concurrent hlive
          obtain ⟨call, hmem, hpending⟩ := h.start before a hinit (by rw [hshared, hconcurrent])
          rw [hidle call hmem] at hpending
          cases hpending
        | false =>
          -- The next exchange is denied, valid as it is.
          obtain ⟨hidle', hshared'⟩ := pool_invalid hlive hencode hidle hshared
          obtain ⟨frame, hframe⟩ := exists_of_isOk Sample.isOk_encode.1
          have hreaches := h.reaches _ hinit hidle' ⟨Sample.surrogate.val, true⟩ frame rfl hframe
          rw [hshared', startExchange_concurrent rfl] at hreaches
          cases hreaches
    · intro before i reply hinit hcall hanswer
      obtain ⟨j, hne, hother⟩ := h.reply before i reply hinit hcall
        ((receive_concurrent authorization reply).mpr hanswer)
      exact hne (pending_unique hother hcall)
  · rintro ⟨hencodes, hnone⟩
    constructor
    · intro before a hinit hconcurrent
      have hinFlight := inFlight_of_concurrent hconcurrent
      refine not_idle fun hidle => ?_
      have hbefore := hencodes.of_prefix ((List.prefix_append _ _).trans hinit)
      rw [hbefore.inFlight hidle] at hinFlight
      cases hinFlight
    · intro before i reply hinit hcall hreceive
      exact absurd ((receive_concurrent authorization reply).mp hreceive) (hnone before i reply hinit hcall)
    · intro before hinit hidle a frame hlive hencode
      rw [(hencodes.of_prefix hinit).inFlight hidle, startExchange_valid hlive hencode]

namespace Sample

def authorization : LocalIpcAuthorization where
  socketPath := ofString "/run/recovery.sock"
  socketDevice := 1
  socketInode := 2
  socketOwnerUid := 0
  socketOwnerGid := 0
  socketMode := 0o600
  expectedPeerPid := 3
  expectedPeerUid := 0
  expectedPeerGid := 0

/-- A request with a text that the codec takes for a token. -/
def tokenRequest : Value := .obj [(ofString "supervisorInstanceId", .str (ofString "sk-12345678"))]

theorem encode_tokenRequest : Recovery.encode .WORKER_TO_SUPERVISOR tokenRequest = .error .INVALID_FRAME := by
  have hcanonical : (Codec.canonicalJson (.obj (Recovery.frameOf .WORKER_TO_SUPERVISOR tokenRequest))).isNone = true := by
    decide
  rw [Option.isNone_iff_eq_none] at hcanonical
  rw [Recovery.encode, hcanonical]
  rfl

end Sample

/-- One request that is not encoded, and no exchange is pending ever after, nor allowed. -/
theorem transport_wedged : ¬ NeverWedges Sample.authorization [.start ⟨Sample.tokenRequest, true⟩] := by
  intro h
  have hidle : Idle ((recoveryTransport Sample.authorization).pool false []) :=
    fun call hcall => absurd hcall List.not_mem_nil
  have hlive : (ExchangeStart.mk Sample.tokenRequest true).live = true := rfl
  obtain ⟨hidle', hshared⟩ := pool_invalid hlive Sample.encode_tokenRequest hidle rfl
  obtain ⟨frame, hframe⟩ := exists_of_isOk Sample.isOk_encode.1
  have hreaches := h.reaches _ List.prefix_rfl hidle' ⟨Sample.surrogate.val, true⟩ frame rfl hframe
  rw [List.nil_append] at hshared
  rw [hshared, startExchange_concurrent rfl] at hreaches
  cases hreaches

end VentureOS.Bridge
