import VentureOS.Bridge.RecoveryVerifier

/-! # Roots of the module authorizations

The root records of `retained-native-supervisor-module-authorization-trust-source.ts`, their validation, and the roots
that the snapshot authenticator is constructed with.

A root record that was parsed is parsed again to the same root (`parseRootRecord_toValue`), so what is read back from
the registry is what was provisioned. -/

namespace VentureOS.Trust

open JsonText Bridge

variable {PrivateKey PublicKey : Type}

/-- `positiveInteger`. -/
def asPositiveInteger : Value → Option Nat
  | .int n => if 1 ≤ n ∧ n ≤ 1000000 then some n.toNat else none
  | _ => none

theorem asPositiveInteger_eq_some {value : Value} {n : Nat} :
    asPositiveInteger value = some n ↔ value = .int n ∧ 1 ≤ n ∧ n ≤ 1000000 := by
  unfold asPositiveInteger
  split
  · rename_i m
    rw [Value.int.injEq]
    split
    · rw [Option.some.injEq]
      omega
    · refine iff_of_false (fun h => by cases h) ?_
      omega
  · rename_i hother
    exact iff_of_false (fun h => by cases h) fun h => hother n h.1

/-- A timestamp, or none. -/
def asOptionalTimestamp (dateParse : Text → Option Int) : Value → Option (Option Stamp)
  | .null => some none
  | value => (asTimestamp dateParse value).map some

/-- The value of an optional timestamp. -/
def optionalStampValue : Option Stamp → Value
  | none => .null
  | some stamp => .str stamp.text

theorem asOptionalTimestamp_eq_some {dateParse : Text → Option Int} {value : Value} {stamp : Option Stamp} :
    asOptionalTimestamp dateParse value = some stamp
      ↔ value = optionalStampValue stamp ∧ ∀ s ∈ stamp, IsStamp dateParse s.text s.time := by
  unfold asOptionalTimestamp
  split
  · cases stamp with
    | none => simp [optionalStampValue]
    | some s =>
      refine iff_of_false (fun h => by cases h) fun h => by cases h.1
  · rename_i hnull
    rw [Option.map_eq_some_iff]
    constructor
    · rintro ⟨s, hs, rfl⟩
      obtain ⟨rfl, hparsed, hcanonical⟩ := asTimestamp_eq_some.mp hs
      refine ⟨rfl, fun s' hs' => ?_⟩
      cases hs'
      exact ⟨hparsed, hcanonical⟩
    · rintro ⟨rfl, hstamp⟩
      cases stamp with
      | none => exact absurd rfl hnull
      | some s => exact ⟨s, asTimestamp_eq_some.mpr ⟨rfl, (hstamp s rfl).parsed, (hstamp s rfl).canonical⟩, rfl⟩

/-! ## Root records -/

/-- `RetainedNativeSupervisorModuleAuthorizationRootRecord`, without its constant fields. -/
structure RootRecord where
  rootRecordId : Text
  rootRecordVersion : Nat
  signerKeyId : Text
  publicKeySpkiBase64 : Text
  publicKeySpkiSha256 : Text
  minimumSnapshotVersion : Nat
  validFrom : Stamp
  validUntil : Stamp
  revokedAt : Option Stamp
  deriving DecidableEq

namespace RootRecord

/-- The fields of a root record. -/
def fields (record : RootRecord) : List (Text × Value) := [
  (ofString "schemaVersion", .int 1),
  (ofString "rootRecordId", .str record.rootRecordId),
  (ofString "rootRecordVersion", .int record.rootRecordVersion),
  (ofString "signerKeyId", .str record.signerKeyId),
  (ofString "algorithm", .str (ofString "ED25519")),
  (ofString "purpose", .str (ofString "RETAINED_NATIVE_SUPERVISOR_MODULE_AUTHORIZATION_SNAPSHOT")),
  (ofString "publicKeySpkiBase64", .str record.publicKeySpkiBase64),
  (ofString "publicKeySpkiSha256", .str record.publicKeySpkiSha256),
  (ofString "minimumSnapshotVersion", .int record.minimumSnapshotVersion),
  (ofString "validFrom", .str record.validFrom.text),
  (ofString "validUntil", .str record.validUntil.text),
  (ofString "revokedAt", optionalStampValue record.revokedAt),
  (ofString "testOnly", .bool false)]

/-- The names of the fields. -/
def names : List Text := [
  "schemaVersion", "rootRecordId", "rootRecordVersion", "signerKeyId", "algorithm", "purpose", "publicKeySpkiBase64",
  "publicKeySpkiSha256", "minimumSnapshotVersion", "validFrom", "validUntil", "revokedAt", "testOnly"].map ofString

theorem map_fst_fields (record : RootRecord) : record.fields.map Prod.fst = names := rfl

theorem nodup_names : names.Nodup := by decide

def toValue (record : RootRecord) : Value := .obj record.fields

end RootRecord

/-- `ParsedRootRecord`. -/
structure ParsedRootRecord (PublicKey : Type) where
  record : RootRecord
  publicKey : PublicKey
  deriving DecidableEq

/-- The keys of a root record, in the order of `parseRootRecord`. -/
def rootRecordKeys : List Text := [
  "algorithm", "minimumSnapshotVersion", "publicKeySpkiBase64", "publicKeySpkiSha256", "purpose", "revokedAt",
  "rootRecordId", "rootRecordVersion", "schemaVersion", "signerKeyId", "testOnly", "validFrom",
  "validUntil"].map ofString

theorem rootRecordKeys_perm : RootRecord.names.Perm rootRecordKeys := List.isPerm_iff.mp (by decide)

/-- `MAX_ROOT_LIFETIME_MS`. -/
def maxRootLifetimeMs : Int := 5 * 366 * 24 * 60 * 60 * 1000

variable {roots : List (ParsedRootRecord PublicKey)}

section Parsing

variable (ed25519 : Ed25519 PrivateKey PublicKey) (sha256 : ByteArray → String) (dateParse : Text → Option Int)

/-- `parsePublicKey`, of the texts of the key and of its fingerprint. -/
def parsePublicKey (publicKeySpkiBase64 publicKeySpkiSha256 : Text) : Option PublicKey :=
  let encoded := Base64.decode (toWellFormed publicKeySpkiBase64).toList
  if publicKeySpkiBase64.length ≤ 256 ∧ base64Pattern (toWellFormed publicKeySpkiBase64).toList = true
      ∧ Observation.isHash publicKeySpkiSha256 = true ∧ encoded.length ≠ 0
      ∧ ofString (String.ofList (Base64.encode encoded)) = publicKeySpkiBase64
      ∧ digestOf sha256 ⟨encoded.toArray⟩ = publicKeySpkiSha256
  then ed25519.importSpki ⟨encoded.toArray⟩
  else none

/-- The times of a root record. -/
def isRootWindow (validFrom validUntil : Int) (revokedAt : Option Int) : Bool :=
  decide (validFrom < validUntil) && decide (validUntil - validFrom ≤ maxRootLifetimeMs)
    && revokedAt.all fun revoked => decide (validFrom ≤ revoked) && decide (revoked ≤ validUntil)

/-- `parseRootRecord`. -/
def parseRootRecord (input : Value) : Except LocalIpcErrorCode (ParsedRootRecord PublicKey) := do
  let value ← orThrow .NOT_CONFIGURED (plainRecord rootRecordKeys input)
  throwIf (fieldIsInt value "schemaVersion" 1 = false
      ∨ fieldIsText value "algorithm" (ofString "ED25519") = false
      ∨ fieldIsText value "purpose" (ofString "RETAINED_NATIVE_SUPERVISOR_MODULE_AUTHORIZATION_SNAPSHOT") = false)
    .NOT_CONFIGURED
  let _ ← orThrow .NOT_CONFIGURED (field value "testOnly" asFalse)
  let validFrom ← orThrow .NOT_CONFIGURED (field value "validFrom" (asTimestamp dateParse))
  let validUntil ← orThrow .NOT_CONFIGURED (field value "validUntil" (asTimestamp dateParse))
  let revokedAt ← orThrow .NOT_CONFIGURED (field value "revokedAt" (asOptionalTimestamp dateParse))
  throwIf (isRootWindow validFrom.time validUntil.time (revokedAt.map Stamp.time) = false) .NOT_CONFIGURED
  let rootRecordId ← orThrow .NOT_CONFIGURED (field value "rootRecordId" asReference)
  let rootRecordVersion ← orThrow .NOT_CONFIGURED (field value "rootRecordVersion" asPositiveInteger)
  let signerKeyId ← orThrow .NOT_CONFIGURED (field value "signerKeyId" asReference)
  let minimumSnapshotVersion ← orThrow .NOT_CONFIGURED (field value "minimumSnapshotVersion" asPositiveInteger)
  let publicKeySpkiBase64 ← orThrow .NOT_CONFIGURED (field value "publicKeySpkiBase64" (asText fun _ => true))
  let publicKeySpkiSha256 ← orThrow .NOT_CONFIGURED (field value "publicKeySpkiSha256" (asText fun _ => true))
  let publicKey ← orThrow .NOT_CONFIGURED (parsePublicKey ed25519 sha256 publicKeySpkiBase64 publicKeySpkiSha256)
  return {
    record := {
      rootRecordId, rootRecordVersion, signerKeyId, publicKeySpkiBase64, publicKeySpkiSha256, minimumSnapshotVersion,
      validFrom, validUntil, revokedAt }
    publicKey }

/-- What a root is that was parsed. -/
structure ValidRoot (root : ParsedRootRecord PublicKey) : Prop where
  validFrom : IsStamp dateParse root.record.validFrom.text root.record.validFrom.time
  validUntil : IsStamp dateParse root.record.validUntil.text root.record.validUntil.time
  revokedAt : ∀ stamp ∈ root.record.revokedAt, IsStamp dateParse stamp.text stamp.time
  window : isRootWindow root.record.validFrom.time root.record.validUntil.time (root.record.revokedAt.map Stamp.time) = true
  rootRecordId : isReference root.record.rootRecordId = true
  signerKeyId : isReference root.record.signerKeyId = true
  rootRecordVersion : 1 ≤ root.record.rootRecordVersion ∧ root.record.rootRecordVersion ≤ 1000000
  minimumSnapshotVersion : 1 ≤ root.record.minimumSnapshotVersion ∧ root.record.minimumSnapshotVersion ≤ 1000000
  publicKey : parsePublicKey ed25519 sha256 root.record.publicKeySpkiBase64 root.record.publicKeySpkiSha256
    = some root.publicKey

variable {ed25519 sha256 dateParse}

theorem field_positiveInteger {fields : List (Text × Value)} {name : String} {n : Nat} :
    field fields name asPositiveInteger = some n
      ↔ lookupEntry (ofString name) fields = some (.int n) ∧ 1 ≤ n ∧ n ≤ 1000000 := by
  rw [field_eq_some]
  simp only [asPositiveInteger_eq_some]
  constructor
  · rintro ⟨_, hlookup, rfl, hbounds⟩
    exact ⟨hlookup, hbounds⟩
  · rintro ⟨hlookup, hbounds⟩
    exact ⟨_, hlookup, rfl, hbounds⟩

theorem field_optionalTimestamp {fields : List (Text × Value)} {name : String} {stamp : Option Stamp} :
    field fields name (asOptionalTimestamp dateParse) = some stamp
      ↔ lookupEntry (ofString name) fields = some (optionalStampValue stamp)
        ∧ ∀ s ∈ stamp, IsStamp dateParse s.text s.time := by
  rw [field_eq_some]
  simp only [asOptionalTimestamp_eq_some]
  constructor
  · rintro ⟨_, hlookup, rfl, hstamp⟩
    exact ⟨hlookup, hstamp⟩
  · rintro ⟨hlookup, hstamp⟩
    exact ⟨_, hlookup, rfl, hstamp⟩

/-- **What a root record is parsed to**: a valid root, of whose record it has the fields. -/
theorem parseRootRecord_eq_ok {input : Value} {root : ParsedRootRecord PublicKey} :
    parseRootRecord ed25519 sha256 dateParse input = .ok root
      ↔ (∃ fields, input = .obj fields ∧ fields.Perm root.record.fields) ∧ ValidRoot ed25519 sha256 dateParse root := by
  simp only [parseRootRecord, check_bind_eq_ok, throwIf_eq_ok, orThrow_bind_eq_ok, except_pure_eq_ok, plainRecord_eq_some,
    field_timestamp, field_optionalTimestamp, field_positiveInteger, asReference, field_text, field_false, not_or,
    Bool.not_eq_false, fieldIsInt_iff, fieldIsText_iff, and_true]
  constructor
  · rintro ⟨fields, ⟨rfl, hkeys⟩, ⟨hversion, halgorithm, hpurpose⟩, _, htest, validFrom, ⟨hfrom, hfromStamp⟩,
      validUntil, ⟨huntil, huntilStamp⟩, revokedAt, ⟨hrevoked, hrevokedStamp⟩, hwindow, id, ⟨hid, hidText⟩,
      version, ⟨hrecordVersion, hversionBounds⟩, signer, ⟨hsigner, hsignerText⟩, minimum, ⟨hminimum, hminimumBounds⟩,
      key, hkey, fingerprint, hfingerprint, publicKey, hpublicKey, rfl⟩
    refine ⟨⟨fields, rfl, perm_of_lookup (hkeys.trans rootRecordKeys_perm.symm) RootRecord.nodup_names ?_⟩,
      ⟨hfromStamp.1, hfromStamp.2⟩, ⟨huntilStamp.1, huntilStamp.2⟩, hrevokedStamp, hwindow, hidText, hsignerText,
      hversionBounds, hminimumBounds, hpublicKey⟩
    simp only [RootRecord.fields, List.forall_mem_cons]
    exact ⟨hversion, hid, hrecordVersion, hsigner, halgorithm, hpurpose, hkey, hfingerprint, hminimum, hfrom, huntil,
      hrevoked, htest, fun _ hentry => absurd hentry List.not_mem_nil⟩
  · rintro ⟨⟨fields, rfl, hperm⟩, hvalid⟩
    have hkeys := hperm.map Prod.fst
    rw [RootRecord.map_fst_fields] at hkeys
    have hnodup : (fields.map Prod.fst).Nodup := hkeys.nodup_iff.mpr RootRecord.nodup_names
    have hlookup : ∀ entry ∈ root.record.fields, lookupEntry entry.1 fields = some entry.2 :=
      fun entry hentry => (lookupEntry_eq_some hnodup).mpr (hperm.mem_iff.mpr hentry)
    simp only [RootRecord.fields, List.forall_mem_cons] at hlookup
    obtain ⟨hversion, hid, hrecordVersion, hsigner, halgorithm, hpurpose, hkey, hfingerprint, hlookup⟩ := hlookup
    obtain ⟨hminimum, hfrom, huntil, hrevoked, htest, -⟩ := hlookup
    exact ⟨fields, ⟨rfl, hkeys.trans rootRecordKeys_perm⟩, ⟨hversion, halgorithm, hpurpose⟩, (), htest,
      _, ⟨hfrom, hvalid.validFrom.parsed, hvalid.validFrom.canonical⟩,
      _, ⟨huntil, hvalid.validUntil.parsed, hvalid.validUntil.canonical⟩,
      _, ⟨hrevoked, hvalid.revokedAt⟩, hvalid.window, _, ⟨hid, hvalid.rootRecordId⟩,
      _, ⟨hrecordVersion, hvalid.rootRecordVersion⟩, _, ⟨hsigner, hvalid.signerKeyId⟩,
      _, ⟨hminimum, hvalid.minimumSnapshotVersion⟩, _, hkey, _, hfingerprint, _, hvalid.publicKey, rfl⟩

/-- **A root is parsed again** from its record. -/
theorem parseRootRecord_toValue {root : ParsedRootRecord PublicKey} (h : ValidRoot ed25519 sha256 dateParse root) :
    parseRootRecord ed25519 sha256 dateParse root.record.toValue = .ok root :=
  parseRootRecord_eq_ok.mpr ⟨⟨_, rfl, List.Perm.refl _⟩, h⟩

/-! ## The roots of an authenticator -/

/-- Another root of the signer, the record or the fingerprint is denied. -/
def addRoot (roots : List (ParsedRootRecord PublicKey)) (root : ParsedRootRecord PublicKey) :
    Except LocalIpcErrorCode (List (ParsedRootRecord PublicKey)) := do
  throwIf (∃ other ∈ roots, other.record.signerKeyId = root.record.signerKeyId
      ∨ other.record.rootRecordId = root.record.rootRecordId
      ∨ other.record.publicKeySpkiSha256 = root.record.publicKeySpkiSha256) .NOT_CONFIGURED
  return roots ++ [root]

variable (ed25519 sha256 dateParse)

/-- The constructor of the authenticator, but for its clock: the roots by their signers. -/
def authenticatorRoots (expectedSupervisorInstanceId : Text) (roots : List Value) :
    Except LocalIpcErrorCode (List (ParsedRootRecord PublicKey)) := do
  throwIf (isReference expectedSupervisorInstanceId = false) .NOT_CONFIGURED
  throwIf (8 < roots.length) .NOT_CONFIGURED
  let parsed ← roots.mapM (parseRootRecord ed25519 sha256 dateParse)
  throwIf (parsed.length = 0) .NOT_CONFIGURED
  parsed.foldlM addRoot []

/-- Two roots with nothing in common. -/
def Distinct (left right : RootRecord) : Prop :=
  left.signerKeyId ≠ right.signerKeyId ∧ left.rootRecordId ≠ right.rootRecordId
    ∧ left.publicKeySpkiSha256 ≠ right.publicKeySpkiSha256

variable {ed25519 sha256 dateParse}

/-- Roots with nothing in common are all added. -/
theorem foldlM_addRoot {added : List (ParsedRootRecord PublicKey)}
    (h : (added ++ roots).Pairwise fun left right => Distinct left.record right.record) :
    roots.foldlM addRoot added = .ok (added ++ roots) := by
  induction roots generalizing added with
  | nil => rw [List.append_nil]; rfl
  | cons root rest ih =>
    have hadd : addRoot added root = .ok (added ++ [root]) := by
      simp only [addRoot, check_bind_eq_ok, throwIf_eq_ok, except_pure_eq_ok, and_true]
      rintro ⟨other, hother, hsame⟩
      obtain ⟨hsigner, hid, hfingerprint⟩ :=
        (List.pairwise_append.mp h).2.2 other hother root List.mem_cons_self
      rcases hsame with hsame | hsame | hsame
      · exact hsigner hsame
      · exact hid hsame
      · exact hfingerprint hsame
    rw [List.foldlM_cons, hadd]
    have hrest := @ih (added ++ [root]) (by rwa [List.append_assoc, List.singleton_append])
    rw [List.append_assoc, List.singleton_append] at hrest
    exact hrest

/-- The records of valid roots are parsed. -/
theorem mapM_parseRootRecord
    (h : ∀ root ∈ roots, ValidRoot ed25519 sha256 dateParse root) :
    (roots.map fun root => root.record.toValue).mapM (parseRootRecord ed25519 sha256 dateParse) = .ok roots := by
  induction roots with
  | nil => rfl
  | cons root rest ih =>
    rw [List.forall_mem_cons] at h
    rw [List.map_cons, List.mapM_cons, parseRootRecord_toValue h.1, ih h.2]
    rfl

/-- **The roots are accepted**, when they are valid, have nothing in common and are eight at the most. -/
theorem authenticatorRoots_eq_ok {expectedSupervisorInstanceId : Text}
    (hreference : isReference expectedSupervisorInstanceId = true)
    (hvalid : ∀ root ∈ roots, ValidRoot ed25519 sha256 dateParse root) (hsome : roots ≠ [])
    (hlength : roots.length ≤ 8) (hdistinct : roots.Pairwise fun left right => Distinct left.record right.record) :
    authenticatorRoots ed25519 sha256 dateParse expectedSupervisorInstanceId
      (roots.map fun root => root.record.toValue) = .ok roots := by
  have hpositive : ¬roots.length = 0 := fun hzero => hsome (List.length_eq_zero_iff.mp hzero)
  rw [← List.nil_append roots] at hdistinct
  simp only [authenticatorRoots, except_bind_eq_ok, throwIf_eq_ok, mapM_parseRootRecord hvalid, List.length_map,
    hreference, Except.ok.injEq]
  exact ⟨(), Bool.noConfusion, (), Nat.not_lt.mpr hlength, roots, rfl, (), hpositive, foldlM_addRoot hdistinct⟩

end Parsing

end VentureOS.Trust
