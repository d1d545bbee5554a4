import VentureOS.Foundations.Publications
import VentureOS.Trust.RootRegistry
import VentureOS.Trust.Snapshots

/-! # The public ledgers

The append of `PostgresRetainedNativeModuleAuthorizationSnapshotPublicationStore`, its audited variant, and `provision` of
the root registry, over the tables of snapshots, of issuance evidence and of roots with their guards.

The tables are one ledger: its rows are snapshots, each with its evidence, and roots, each with its evidence. Snapshots
have the versions of their supervisor, and roots those of their record. -/

namespace VentureOS.Trust

open JsonText Bridge ControlPlane

variable {Uuid : Type}

/-! ## Rows -/

/-- A row of `acp_retained_native_module_authorization_issuance_evidence`, without the columns that are those of its
snapshot. -/
structure IssuanceRow (Uuid : Type) where
  workspaceId : Uuid
  issuanceRequestHash : Text
  issuanceAuthorizationId : Text
  authorityRequestHash : Text
  approvalId : Text
  approvalEvidenceHash : Text
  authorizedByReference : Text
  authorizedFrom : Int
  authorizedUntil : Int
  deriving DecidableEq

/-- A row of `acp_retained_native_module_authorization_snapshots`, with its evidence if it has some. -/
structure SnapshotRow (Uuid : Type) where
  snapshot : Snapshot
  snapshotHash : Text
  issuance : Option (IssuanceRow Uuid)
  deriving DecidableEq

/-- A row of `acp_retained_native_module_authorization_roots`, with its evidence. -/
structure ProvisionedRoot (Uuid : Type) where
  root : RootRow Uuid
  provisioningRequestHash : Text
  provisioningAuthorizationId : Text
  approvalId : Text
  approvalEvidenceHash : Text
  authorizedByReference : Text
  authorizedFrom : Int
  authorizedUntil : Int
  deriving DecidableEq

inductive LedgerRow (Uuid : Type) where
  | snapshot (row : SnapshotRow Uuid)
  | root (row : ProvisionedRoot Uuid)
  deriving DecidableEq

/-- What has versions: the snapshots of a supervisor, and a root record. -/
inductive LedgerKey (Uuid : Type) where
  | snapshots (supervisorInstanceId : Text)
  | root (workspaceId : Uuid) (supervisorInstanceId rootRecordId : Text)
  deriving DecidableEq

/-- The rows by their versions. -/
def ledgerVersioning : Versioning (LedgerRow Uuid) (LedgerKey Uuid) where
  key
    | .snapshot row => .snapshots row.snapshot.supervisorInstanceId
    | .root row => .root row.root.workspaceId row.root.supervisorInstanceId row.root.rootRecordId
  version
    | .snapshot row => row.snapshot.snapshotVersion
    | .root row => row.root.rootRecordVersion

/-- The rows of the table of snapshots. -/
def snapshotsOf (rows : List (LedgerRow Uuid)) : List (SnapshotRow Uuid) :=
  rows.filterMap fun | .snapshot row => some row | .root _ => none

/-- The rows of the table of roots. -/
def provisionedRootsOf (rows : List (LedgerRow Uuid)) : List (ProvisionedRoot Uuid) :=
  rows.filterMap fun | .snapshot _ => none | .root row => some row

/-! ## Requests and evidence -/

/-- `RetainedNativeSupervisorModuleAuthorizationSnapshotIssuanceEvidence`, without its constant fields. -/
structure IssuanceEvidence where
  workspaceId : Text
  supervisorInstanceId : Text
  snapshotId : Text
  snapshotVersion : Nat
  signerKeyId : Text
  snapshotHash : Text
  issuanceRequestHash : Text
  issuanceAuthorizationId : Text
  authorityRequestHash : Text
  approvalId : Text
  approvalEvidenceHash : Text
  authorizedByReference : Text
  authorizedFrom : Stamp
  authorizedUntil : Stamp
  deriving DecidableEq

/-- `RetainedNativeModuleAuthorizationRootProvisioningRequest`, without its constant fields. -/
structure ProvisioningRequest where
  workspaceId : Text
  supervisorInstanceId : Text
  root : RootRecord
  deriving DecidableEq

namespace ProvisioningRequest

/-- The fields of a request. -/
def toValue (request : ProvisioningRequest) : Value := .obj [
  (ofString "schemaVersion", .int 1),
  (ofString "purpose", .str (ofString "RETAINED_NATIVE_MODULE_AUTHORIZATION_PUBLIC_ROOT_PROVISIONING")),
  (ofString "workspaceId", .str request.workspaceId),
  (ofString "supervisorInstanceId", .str request.supervisorInstanceId),
  (ofString "root", request.root.toValue),
  (ofString "runtimeConnection", .str (ofString "NOT_CONFIGURED"))]

/-- The keys of a request, in the order of `exactRequest`. -/
def keys : List Text :=
  ["purpose", "root", "runtimeConnection", "schemaVersion", "supervisorInstanceId", "workspaceId"].map ofString

end ProvisioningRequest

/-- What a capability answers for a context. -/
structure CapabilityAnswer where
  source : EventSource
  /-- `actorKindFor`, `none` when it throws. -/
  actorKind : Option OperationalActorKind
  /-- `authorityLevelFor`, `none` when it throws. -/
  authorityLevel : Option Nat

/-- The arguments of `provision`. -/
structure ProvisionCall where
  input : Value
  capability : CapabilityAnswer
  /-- The workspace and the principal of the context. -/
  workspaceId : Text
  principalId : Text
  /-- The reading of the clock, `none` when it is no safe integer. -/
  clock : Option Int

/-- A call. A snapshot comes with its hash, as it was authenticated. -/
inductive PublicationCall where
  | append (snapshot : Snapshot)
  | appendAudited (snapshot : Snapshot) (evidence : IssuanceEvidence)
  | provision (call : ProvisionCall)

/-- What a call inserts, and what it compares with what is there. -/
inductive Insertion (Uuid : Type) where
  | snapshot (row : SnapshotRow Uuid) (evidence : Option IssuanceEvidence)
  | root (row : ProvisionedRoot Uuid) (request : ProvisioningRequest)
  deriving DecidableEq

def Insertion.row : Insertion Uuid → LedgerRow Uuid
  | .snapshot row _ => .snapshot row
  | .root row _ => .root row

section Preparation

variable {PrivateKey PublicKey : Type} (ed25519 : Ed25519 PrivateKey PublicKey) (sha256 : ByteArray → String)
  (dateParse : Text → Option Int) (castUuid : Text → Option Uuid)

/-- `exactRequest`. -/
def exactRequest (input : Value) : Except RootRegistryError ProvisioningRequest := do
  let value ← orThrow (.denied "Root provisioning request is invalid") (match input with
    | .obj fields => some fields
    | _ => none)
  throwIf (plainRecord ProvisioningRequest.keys input = none
      ∨ fieldIsInt value "schemaVersion" 1 = false
      ∨ fieldIsText value "purpose"
        (ofString "RETAINED_NATIVE_MODULE_AUTHORIZATION_PUBLIC_ROOT_PROVISIONING") = false
      ∨ fieldIsText value "runtimeConnection" (ofString "NOT_CONFIGURED") = false)
    (.denied "Root provisioning request shape is invalid")
  let workspaceId ← orThrow (.denied "workspaceId must be a safe non-sensitive reference")
    (field value "workspaceId" asReference)
  let supervisorInstanceId ← orThrow (.denied "supervisorInstanceId must be a safe non-sensitive reference")
    (field value "supervisorInstanceId" asReference)
  let input ← orThrow .database (lookupEntry (ofString "root") value)
  match parseRootRecord ed25519 sha256 dateParse input with
  | .ok root => return { workspaceId, supervisorInstanceId, root := root.record }
  | .error code => throw (.invalidRoot code)

/-- `AUTHORIZATION_LIFETIME_MS`. -/
def authorizationLifetimeMs : Int := 60000

/-- `MAX_DATE_MS`. -/
def maxDateMs : Int := 8640000000000000

def actorKindText : OperationalActorKind → Text
  | .HUMAN => ofString "HUMAN"
  | .AGENT => ofString "AGENT"
  | .RUNTIME => ofString "RUNTIME"
  | .SYSTEM => ofString "SYSTEM"

/-- `evidenceBinding`. -/
def evidenceBinding (request : ProvisioningRequest) (authorizedByReference : Text) (actorKind : OperationalActorKind)
    (authorizedFrom authorizedUntil : Text) : Value := .obj [
  (ofString "evidencePurpose", .str (ofString "RETAINED_NATIVE_MODULE_PUBLIC_ROOT_LEVEL3_AUTHORIZATION")),
  (ofString "policyVersion", .int 1),
  (ofString "request", request.toValue),
  (ofString "authorizedByReference", .str authorizedByReference),
  (ofString "actorKind", .str (actorKindText actorKind)),
  (ofString "authorityLevel", .int 3),
  (ofString "authorizedFrom", .str authorizedFrom),
  (ofString "authorizedUntil", .str authorizedUntil)]

/-- The insertion of `provision`. What the codec or the database refuses is `database`. -/
def provisionInsertion (call : ProvisionCall) :
    Except RootRegistryError (ProvisionedRoot Uuid × ProvisioningRequest) := do
  let denied := RootRegistryError.denied "Exact workspace-bound Level-3 control-plane authority is required"
  let request ← exactRequest ed25519 sha256 dateParse call.input
  throwIf (isReference call.workspaceId = false) (.denied "workspaceId must be a safe non-sensitive reference")
  throwIf (isReference call.principalId = false) (.denied "principalId must be a safe non-sensitive reference")
  throwIf (call.capability.source ≠ .CONTROL_PLANE) .database
  let actorKind ← orThrow .database call.capability.actorKind
  throwIf (request.workspaceId ≠ call.workspaceId ∨ actorKind = .RUNTIME) denied
  let authorityLevel ← orThrow .database call.capability.authorityLevel
  throwIf (authorityLevel ≠ 3) denied
  let now ← orThrow (.denied "Root provisioning clock is invalid") call.clock
  throwIf (now < 0 ∨ maxDateMs - authorizationLifetimeMs < now) (.denied "Root provisioning clock is invalid")
  let authorizedFrom ← orThrow .database (stampOf now)
  let authorizedUntil ← orThrow .database (stampOf (now + authorizationLifetimeMs))
  let provisioningRequestHash ← orThrow .database (hashOf sha256 request.toValue)
  let approvalEvidenceHash ← orThrow .database (hashOf sha256
    (evidenceBinding request call.principalId actorKind authorizedFrom.text authorizedUntil.text))
  let workspaceId ← orThrow .database (castUuid request.workspaceId)
  return ({
    root := RootRow.ofRecord workspaceId request.supervisorInstanceId request.root
    provisioningRequestHash
    provisioningAuthorizationId := ofString "native-module-root:" ++ approvalEvidenceHash
    approvalId := ofString "level3-control-plane:" ++ approvalEvidenceHash
    approvalEvidenceHash
    authorizedByReference := call.principalId
    authorizedFrom := now
    authorizedUntil := now + authorizationLifetimeMs }, request)

/-- The evidence is that of the snapshot, as `publish` of the audited publisher checks it. -/
def IssuanceEvidence.isOf (evidence : IssuanceEvidence) (snapshot : Snapshot) (snapshotHash : Text) : Bool :=
  decide (evidence.supervisorInstanceId = snapshot.supervisorInstanceId ∧ evidence.snapshotId = snapshot.snapshotId
    ∧ evidence.snapshotVersion = snapshot.snapshotVersion ∧ evidence.signerKeyId = snapshot.signerKeyId
    ∧ evidence.snapshotHash = snapshotHash)

/-- The row of the evidence. -/
def IssuanceEvidence.row (evidence : IssuanceEvidence) (workspaceId : Uuid) : IssuanceRow Uuid where
  workspaceId := workspaceId
  issuanceRequestHash := evidence.issuanceRequestHash
  issuanceAuthorizationId := evidence.issuanceAuthorizationId
  authorityRequestHash := evidence.authorityRequestHash
  approvalId := evidence.approvalId
  approvalEvidenceHash := evidence.approvalEvidenceHash
  authorizedByReference := evidence.authorizedByReference
  authorizedFrom := evidence.authorizedFrom.time
  authorizedUntil := evidence.authorizedUntil.time

/-- The insertion of a call. A snapshot without a hash was not authenticated. -/
def insertionOf : PublicationCall → Option (Insertion Uuid)
  | .append snapshot => do
    let hash ← snapshotHash sha256 snapshot
    return .snapshot { snapshot, snapshotHash := hash, issuance := none } none
  | .appendAudited snapshot evidence => do
    let hash ← snapshotHash sha256 snapshot
    guard (evidence.isOf snapshot hash)
    let workspaceId ← castUuid evidence.workspaceId
    return .snapshot { snapshot, snapshotHash := hash, issuance := some (evidence.row workspaceId) } (some evidence)
  | .provision call => do
    let (row, request) ← (provisionInsertion ed25519 sha256 dateParse castUuid call).toOption
    return .root row request

end Preparation

/-! ## Statements -/

section Statements

variable [DecidableEq Uuid] (constraints : LedgerRow Uuid → Bool)

/-- The rows of the table of roots, without their evidence. -/
def rootsOf (rows : List (LedgerRow Uuid)) : List (RootRow Uuid) := (provisionedRootsOf rows).map ProvisionedRoot.root

/-- The unique indexes of the snapshots, but for that of the version. -/
def isNewSnapshot (rows : List (LedgerRow Uuid)) (row : SnapshotRow Uuid) : Bool :=
  !(snapshotsOf rows).any fun existing => existing.snapshotHash = row.snapshotHash
    ∨ existing.snapshot.supervisorInstanceId = row.snapshot.supervisorInstanceId
      ∧ existing.snapshot.snapshotId = row.snapshot.snapshotId

/-- `ventureos_require_fresh_native_module_issuance_evidence`. -/
def isFreshIssuance (rows : List (LedgerRow Uuid)) (row : SnapshotRow Uuid) (issuance : IssuanceRow Uuid) (now : Int) :
    Bool :=
  decide (issuance.authorizedFrom ≤ now ∧ now < issuance.authorizedUntil)
    && !(snapshotsOf rows).any fun existing =>
      existing.snapshot.supervisorInstanceId = row.snapshot.supervisorInstanceId
        ∧ existing.issuance.any (fun other => other.workspaceId ≠ issuance.workspaceId)

/-- `ventureos_require_current_native_module_snapshot_root`. -/
def hasCurrentRoot (rows : List (LedgerRow Uuid)) (row : SnapshotRow Uuid) (issuance : IssuanceRow Uuid) (now : Int) :
    Bool :=
  (currentRoots (rootsOf rows) issuance.workspaceId row.snapshot.supervisorInstanceId).any fun root =>
    root.signerKeyId = row.snapshot.signerKeyId ∧ root.minimumSnapshotVersion ≤ row.snapshot.snapshotVersion
      ∧ root.validFrom ≤ now ∧ now < root.validUntil ∧ root.revokedAt.all (fun revoked => now < revoked)

/-- The unique indexes of the evidence of snapshots. -/
def isNewIssuance (rows : List (LedgerRow Uuid)) (issuance : IssuanceRow Uuid) : Bool :=
  !(snapshotsOf rows).any fun existing => existing.issuance.any fun other =>
    other.issuanceRequestHash = issuance.issuanceRequestHash
      ∨ other.workspaceId = issuance.workspaceId ∧ other.issuanceAuthorizationId = issuance.issuanceAuthorizationId

/-- A snapshot passes what is checked besides its place in the chain, in a statement with these readings of the clock. -/
def admitsSnapshot (rows : List (LedgerRow Uuid)) (row : SnapshotRow Uuid) (readings : Nat → Int) : Bool :=
  constraints (.snapshot row) && isNewSnapshot rows row && row.issuance.all fun issuance =>
    isFreshIssuance rows row issuance (readings 0) && hasCurrentRoot rows row issuance (readings 1)
      && isNewIssuance rows issuance

/-- A root passes what is checked besides its place among the versions. -/
def admitsRoot (rows : List (LedgerRow Uuid)) (row : ProvisionedRoot Uuid) (readings : Nat → Int) : Bool :=
  let now := readings (2 * (rootsOf rows).length + 2)
  !boundElsewhere (rootsOf rows) row.root && constraints (.root row)
    && decide (row.authorizedFrom ≤ now ∧ now < row.authorizedUntil)
    && !(provisionedRootsOf rows).any fun existing => existing.provisioningRequestHash = row.provisioningRequestHash
      ∨ existing.root.workspaceId = row.root.workspaceId
        ∧ existing.provisioningAuthorizationId = row.provisioningAuthorizationId

variable {PrivateKey PublicKey : Type} (ed25519 : Ed25519 PrivateKey PublicKey) (sha256 : ByteArray → String)
  (dateParse : Text → Option Int) (castUuid : Text → Option Uuid) (uuidText : Uuid → Text)

/-- `canonicalJson(left) === canonicalJson(right)`, of values that the codec accepts. -/
def sameCanonical (left right : Value) : Bool :=
  match Codec.canonicalJson left, Codec.canonicalJson right with
  | some text, some text' => decide (text = text')
  | _, _ => false

/-- The evidence that is read with a snapshot is the evidence of the call. -/
def IssuanceEvidence.isRead (evidence : IssuanceEvidence) (existing : SnapshotRow Uuid) : Bool :=
  existing.issuance.any fun issuance => decide (uuidText issuance.workspaceId = evidence.workspaceId
    ∧ existing.snapshot.supervisorInstanceId = evidence.supervisorInstanceId
    ∧ existing.snapshot.snapshotVersion = evidence.snapshotVersion ∧ existing.snapshot.snapshotId = evidence.snapshotId
    ∧ existing.snapshot.signerKeyId = evidence.signerKeyId
    ∧ issuance.issuanceRequestHash = evidence.issuanceRequestHash
    ∧ issuance.issuanceAuthorizationId = evidence.issuanceAuthorizationId
    ∧ issuance.authorityRequestHash = evidence.authorityRequestHash ∧ issuance.approvalId = evidence.approvalId
    ∧ issuance.approvalEvidenceHash = evidence.approvalEvidenceHash
    ∧ issuance.authorizedByReference = evidence.authorizedByReference
    ∧ (stampOf issuance.authorizedFrom).map Stamp.text = some evidence.authorizedFrom.text
    ∧ (stampOf issuance.authorizedUntil).map Stamp.text = some evidence.authorizedUntil.text)

/-- The root that is read is that of the request, with evidence of its form. -/
def ProvisioningRequest.isRead (request : ProvisioningRequest) (provisioningRequestHash : Text)
    (existing : ProvisionedRoot Uuid) : Bool :=
  match rootFromRow ed25519 sha256 dateParse existing.root with
  | .error _ => false
  | .ok record =>
    sameCanonical record.toValue request.root.toValue
      && decide (uuidText existing.root.workspaceId = request.workspaceId
        ∧ existing.root.supervisorInstanceId = request.supervisorInstanceId
        ∧ existing.provisioningRequestHash = provisioningRequestHash)
      && referencePattern (toWellFormed existing.provisioningAuthorizationId)
      && referencePattern (toWellFormed existing.approvalId)
      && referencePattern (toWellFormed existing.authorizedByReference)
      && Observation.isHash existing.approvalEvidenceHash
      && decide (existing.authorizedFrom < existing.authorizedUntil
        ∧ existing.authorizedUntil - existing.authorizedFrom ≤ 5 * 60000)

/-- The publications, with the guards, the unique indexes and the `CHECK` constraints of the tables. -/
def publicLedger : Publishing PublicationCall (Insertion Uuid) (Nat → Int) (LedgerRow Uuid) (LedgerKey Uuid) where
  toVersioning := ledgerVersioning
  prepare := insertionOf ed25519 sha256 dateParse castUuid
  row := Insertion.row
  opens rows
    | .snapshot row _, readings =>
      decide (row.snapshot.previousSnapshotHash = none) && admitsSnapshot constraints rows row readings
    | .root row _, readings =>
      (rootRule readings 0).opens (rootsOf rows) row.root && admitsRoot constraints rows row readings
  succeeds rows
    | .snapshot latest, .snapshot row _, readings =>
      decide (row.snapshot.previousSnapshotHash = some latest.snapshotHash)
        && admitsSnapshot constraints rows row readings
    | .root latest, .root row _, readings =>
      (rootRule readings 0).succeeds (rootsOf rows) latest.root row.root && admitsRoot constraints rows row readings
    | _, _, _ => false
  repeats rows
    | .snapshot latest, .snapshot row _ =>
      decide (row.snapshot = latest.snapshot ∧ row.snapshotHash = latest.snapshotHash)
    | .root latest, .root row _ =>
      !boundElsewhere (rootsOf rows) row.root && (rootRule (fun _ => 0) 0).repeats (rootsOf rows) latest.root row.root
    | _, _ => false
  confirms
    | .snapshot existing, .snapshot row evidence =>
      decide (existing.snapshotHash = row.snapshotHash)
        && sameCanonical existing.snapshot.toValue row.snapshot.toValue
        && evidence.all fun evidence => evidence.isRead uuidText existing
    | .root existing, .root row request =>
      request.isRead ed25519 sha256 dateParse uuidText row.provisioningRequestHash existing
    | _, _ => false

end Statements

end VentureOS.Trust
