import VentureOS.Trust.Roots

/-! # Snapshots of module authorizations

The records of `retained-native-supervisor-linux-module-loader.ts` and of
`retained-native-supervisor-module-authorization-trust-source.ts`: load requests, module authorizations and signed
snapshots of them, as JSON and with their hashes.

A snapshot is determined by its canonical text (`Snapshot.eq_of_canonicalJson`). -/

namespace VentureOS.Trust

open JsonText Bridge

/-! ## Canonical texts of records -/

/-- Values with the same canonical text differ by the order of their fields. -/
theorem sorted_eq_of_canonicalJson {value value' : Value} (hkeyed : value.Keyed) (hkeyed' : value'.Keyed)
    {text : List Char} (h : Codec.canonicalJson value = some text) (h' : Codec.canonicalJson value' = some text) :
    value.sorted = value'.sorted :=
  Option.some.inj ((Codec.parse_of_canonicalJson hkeyed h).symm.trans (Codec.parse_of_canonicalJson hkeyed' h'))

/-- Records with the same keys that are sorted alike have the same fields, sorted. -/
theorem fields_eq_of_sorted (fields fields' : List (Text × Value))
    (hkeys : fields.map Prod.fst = fields'.map Prod.fst) (hnodup : (fields.map Prod.fst).Nodup)
    (h : (Value.obj fields).sorted = (Value.obj fields').sorted) :
    fields.map (fun field => (field.1, field.2.sorted)) = fields'.map fun field => (field.1, field.2.sorted) := by
  rw [Value.sorted, Value.sorted, Value.obj.injEq] at h
  rw [← Value.sortedFields_eq_map, ← Value.sortedFields_eq_map]
  refine eq_of_perm ?_ ?_ ?_
  · rw [Value.map_fst_sortedFields, Value.map_fst_sortedFields, hkeys]
  · rwa [Value.map_fst_sortedFields]
  · refine (sortBy_perm (fun a b : Text × Value => compareKeys a.1 b.1) _).symm.trans ?_
    rw [h]
    exact sortBy_perm _ _

/-- The value of an optional text. -/
def optionalTextValue : Option Text → Value
  | none => .null
  | some text => .str text

theorem optionalTextValue_injective {text text' : Option Text}
    (h : (optionalTextValue text).sorted = (optionalTextValue text').sorted) : text = text' := by
  cases text with
  | none =>
    cases text' with
    | none => rfl
    | some text' => cases h
  | some text =>
    cases text' with
    | none => cases h
    | some text' =>
      cases h
      rfl

theorem keyed_optionalTextValue (text : Option Text) : (optionalTextValue text).Keyed := by
  cases text <;> trivial

/-! ## Module authorizations -/

/-- `LinuxRetainedNativeSupervisorModuleKind`. -/
inductive ModuleKind where
  | CLIENT
  | LISTENER
  deriving DecidableEq, Repr

def ModuleKind.text : ModuleKind → Text
  | .CLIENT => ofString "CLIENT"
  | .LISTENER => ofString "LISTENER"

theorem ModuleKind.text_injective {kind kind' : ModuleKind} (h : kind.text = kind'.text) : kind = kind' := by
  cases kind <;> cases kind' <;> first | rfl | exact absurd h (by decide)

/-- `LinuxRetainedNativeSupervisorModuleLoadRequest`, without its constant fields. -/
structure ModuleLoadRequest where
  moduleKind : ModuleKind
  canonicalModulePath : Text
  socketPath : Text
  deriving DecidableEq

/-- The fields of a request. -/
def ModuleLoadRequest.fields (request : ModuleLoadRequest) : List (Text × Value) := [
  (ofString "schemaVersion", .int 1),
  (ofString "platform", .str (ofString "LINUX")),
  (ofString "architecture", .str (ofString "X64")),
  (ofString "moduleKind", .str request.moduleKind.text),
  (ofString "canonicalModulePath", .str request.canonicalModulePath),
  (ofString "socketPath", .str request.socketPath),
  (ofString "runtimeConnection", .str (ofString "NOT_CONFIGURED"))]

/-- `LinuxRetainedNativeSupervisorModuleAuthorization`, without its constant fields. -/
structure ModuleAuthorization extends ModuleLoadRequest where
  authorizationId : Text
  authorizationVersion : Nat
  requestHash : Text
  validFrom : Text
  validUntil : Text
  moduleSha256 : Text
  moduleIdentityReference : Text
  moduleOwnerUid : Nat
  moduleOwnerGid : Nat
  moduleMode : Nat
  moduleSizeBytes : Nat
  socketDirectory : Text
  socketDirectoryIdentityReference : Text
  socketDirectoryOwnerUid : Nat
  socketDirectoryOwnerGid : Nat
  deriving DecidableEq

namespace ModuleAuthorization

/-- The fields of an authorization. -/
def fields (authorization : ModuleAuthorization) : List (Text × Value) :=
  authorization.toModuleLoadRequest.fields ++ [
    (ofString "authorizationId", .str authorization.authorizationId),
    (ofString "authorizationVersion", .int authorization.authorizationVersion),
    (ofString "requestHash", .str authorization.requestHash),
    (ofString "validFrom", .str authorization.validFrom),
    (ofString "validUntil", .str authorization.validUntil),
    (ofString "moduleSha256", .str authorization.moduleSha256),
    (ofString "moduleIdentityReference", .str authorization.moduleIdentityReference),
    (ofString "moduleOwnerUid", .int authorization.moduleOwnerUid),
    (ofString "moduleOwnerGid", .int authorization.moduleOwnerGid),
    (ofString "moduleMode", .int authorization.moduleMode),
    (ofString "moduleSizeBytes", .int authorization.moduleSizeBytes),
    (ofString "socketDirectory", .str authorization.socketDirectory),
    (ofString "socketDirectoryIdentityReference", .str authorization.socketDirectoryIdentityReference),
    (ofString "socketDirectoryOwnerUid", .int authorization.socketDirectoryOwnerUid),
    (ofString "socketDirectoryOwnerGid", .int authorization.socketDirectoryOwnerGid),
    (ofString "socketDirectoryMode", .int 448)]

/-- The names of the fields. -/
def names : List Text := [
  "schemaVersion", "platform", "architecture", "moduleKind", "canonicalModulePath", "socketPath", "runtimeConnection",
  "authorizationId", "authorizationVersion", "requestHash", "validFrom", "validUntil", "moduleSha256",
  "moduleIdentityReference", "moduleOwnerUid", "moduleOwnerGid", "moduleMode", "moduleSizeBytes", "socketDirectory",
  "socketDirectoryIdentityReference", "socketDirectoryOwnerUid", "socketDirectoryOwnerGid",
  "socketDirectoryMode"].map ofString

theorem map_fst_fields (authorization : ModuleAuthorization) : authorization.fields.map Prod.fst = names := rfl

theorem nodup_names : names.Nodup := by decide

def toValue (authorization : ModuleAuthorization) : Value := .obj authorization.fields

theorem keyed_toValue (authorization : ModuleAuthorization) : authorization.toValue.Keyed := by
  refine ⟨nodup_names, ?_⟩
  rw [Value.keyedFields_iff]
  simp only [fields, ModuleLoadRequest.fields, List.forall_mem_append, List.forall_mem_cons]
  simp [Value.Keyed]

theorem eq_of_sorted {authorization authorization' : ModuleAuthorization}
    (h : authorization.toValue.sorted = authorization'.toValue.sorted) : authorization = authorization' := by
  have hfields := fields_eq_of_sorted authorization.fields authorization'.fields rfl nodup_names h
  simp only [fields, ModuleLoadRequest.fields, List.map_cons, List.map_nil, List.cons_append,
    List.nil_append, List.cons.injEq, Prod.mk.injEq, Value.sorted, Value.str.injEq, Value.int.injEq, true_and, and_true,
    Int.natCast_inj] at hfields
  obtain ⟨hkind, hpath, hsocket, hid, hversion, hhash, hfrom, huntil, hsha, hidentity, huid, hgid, hmode, hsize,
    hdirectory, hdirectoryIdentity, hdirectoryUid, hdirectoryGid⟩ := hfields
  obtain ⟨⟨kind, path, socket⟩, id, version, hash, validFrom, validUntil, sha, identity, uid, gid, mode, size, directory,
    directoryIdentity, directoryUid, directoryGid⟩ := authorization
  have hkind' := ModuleKind.text_injective hkind
  dsimp only at *
  subst hkind' hpath hsocket hid hversion hhash hfrom huntil hsha hidentity huid hgid hmode hsize hdirectory
    hdirectoryIdentity hdirectoryUid hdirectoryGid
  rfl

end ModuleAuthorization

/-! ## Snapshots -/

/-- `RetainedNativeSupervisorModuleAuthorizationSnapshotPayload`, without its constant fields. -/
structure SnapshotPayload where
  snapshotId : Text
  snapshotVersion : Nat
  signerKeyId : Text
  supervisorInstanceId : Text
  issuedAt : Text
  validUntil : Text
  previousSnapshotHash : Option Text
  authorizations : List ModuleAuthorization
  deriving DecidableEq

/-- `RetainedNativeSupervisorModuleAuthorizationSnapshot`. -/
structure Snapshot extends SnapshotPayload where
  signature : Text
  deriving DecidableEq

namespace SnapshotPayload

/-- The fields of a payload. -/
def fields (payload : SnapshotPayload) : List (Text × Value) := [
  (ofString "schemaVersion", .int 1),
  (ofString "purpose", .str (ofString "RETAINED_NATIVE_SUPERVISOR_MODULE_AUTHORIZATION")),
  (ofString "snapshotId", .str payload.snapshotId),
  (ofString "snapshotVersion", .int payload.snapshotVersion),
  (ofString "signerKeyId", .str payload.signerKeyId),
  (ofString "algorithm", .str (ofString "ED25519")),
  (ofString "supervisorInstanceId", .str payload.supervisorInstanceId),
  (ofString "issuedAt", .str payload.issuedAt),
  (ofString "validUntil", .str payload.validUntil),
  (ofString "previousSnapshotHash", optionalTextValue payload.previousSnapshotHash),
  (ofString "authorizations", .arr (payload.authorizations.map ModuleAuthorization.toValue))]

/-- The names of the fields. -/
def names : List Text := [
  "schemaVersion", "purpose", "snapshotId", "snapshotVersion", "signerKeyId", "algorithm", "supervisorInstanceId",
  "issuedAt", "validUntil", "previousSnapshotHash", "authorizations"].map ofString

theorem map_fst_fields (payload : SnapshotPayload) : payload.fields.map Prod.fst = names := rfl

theorem nodup_names : names.Nodup := by decide

def toValue (payload : SnapshotPayload) : Value := .obj payload.fields

theorem keyed_toValue (payload : SnapshotPayload) : payload.toValue.Keyed := by
  refine ⟨nodup_names, ?_⟩
  rw [Value.keyedFields_iff]
  simp only [fields, List.forall_mem_cons]
  refine ⟨trivial, trivial, trivial, trivial, trivial, trivial, trivial, trivial, trivial, keyed_optionalTextValue _, ?_,
    fun _ hfield => absurd hfield List.not_mem_nil⟩
  rw [Value.Keyed, Value.keyedItems_iff, List.forall_mem_map]
  exact fun authorization _ => authorization.keyed_toValue

end SnapshotPayload

namespace Snapshot

/-- The fields of a snapshot. -/
def fields (snapshot : Snapshot) : List (Text × Value) :=
  snapshot.toSnapshotPayload.fields ++ [(ofString "signature", .str snapshot.signature)]

/-- The names of the fields. -/
def names : List Text := [
  "schemaVersion", "purpose", "snapshotId", "snapshotVersion", "signerKeyId", "algorithm", "supervisorInstanceId",
  "issuedAt", "validUntil", "previousSnapshotHash", "authorizations", "signature"].map ofString

theorem map_fst_fields (snapshot : Snapshot) : snapshot.fields.map Prod.fst = names := rfl

theorem nodup_names : names.Nodup := by decide

def toValue (snapshot : Snapshot) : Value := .obj snapshot.fields

theorem keyed_toValue (snapshot : Snapshot) : snapshot.toValue.Keyed := by
  refine ⟨nodup_names, ?_⟩
  rw [Value.keyedFields_iff, fields, List.forall_mem_append, List.forall_mem_singleton]
  exact ⟨Value.keyedFields_iff.mp snapshot.toSnapshotPayload.keyed_toValue.2, trivial⟩

/-- **A snapshot is determined by its canonical text.** -/
theorem eq_of_canonicalJson {snapshot snapshot' : Snapshot} {text : List Char}
    (h : Codec.canonicalJson snapshot.toValue = some text) (h' : Codec.canonicalJson snapshot'.toValue = some text) :
    snapshot = snapshot' := by
  have hsorted := sorted_eq_of_canonicalJson snapshot.keyed_toValue snapshot'.keyed_toValue h h'
  have hfields := fields_eq_of_sorted snapshot.fields snapshot'.fields rfl nodup_names hsorted
  simp only [fields, SnapshotPayload.fields, List.map_cons, List.map_nil, List.cons_append,
    List.nil_append, List.cons.injEq, Prod.mk.injEq, Value.sorted, Value.str.injEq, Value.int.injEq, true_and, and_true,
    Int.natCast_inj, Value.arr.injEq, Value.sortedItems_eq_map, List.map_map] at hfields
  obtain ⟨hid, hversion, hsigner, hsupervisor, hissued, huntil, hprevious, hauthorizations, hsignature⟩ := hfields
  have hauthorizations' := List.map_injective_iff.mpr (fun _ _ h => ModuleAuthorization.eq_of_sorted h) hauthorizations
  have hprevious' := optionalTextValue_injective hprevious
  obtain ⟨⟨id, version, signer, supervisor, issuedAt, validUntil, previous, authorizations⟩, signature⟩ := snapshot
  dsimp only at *
  subst hid hversion hsigner hsupervisor hissued huntil hprevious' hauthorizations' hsignature
  rfl

end Snapshot

section Hashes

variable (sha256 : ByteArray → String)

/-- The hash of a value, `none` when the codec refuses it. -/
def hashOf (value : Value) : Option Text := (Codec.canonicalJson value).map fun text => digestOf sha256 (TextDecoder.encode text)

/-- `retainedNativeSupervisorModuleAuthorizationSnapshotHash`. -/
def snapshotHash (snapshot : Snapshot) : Option Text := hashOf sha256 snapshot.toSnapshotPayload.toValue

/-- `linuxRetainedNativeSupervisorModuleAuthorizationHash`. -/
def authorizationHash (authorization : ModuleAuthorization) : Option Text := hashOf sha256 authorization.toValue

/-- `linuxRetainedNativeSupervisorModuleLoadRequestHash`. -/
def loadRequestHash (request : ModuleLoadRequest) : Option Text := hashOf sha256 (.obj request.fields)

end Hashes

end VentureOS.Trust
