import Mathlib
import VentureOS.Foundations.VersionedLedger
import VentureOS.Trust.Roots

/-! # The root registry

The table of public roots with its insert guard (`20260906140000_native_module_public_root_registry`), and `read` of
`PostgresRetainedNativeModuleAuthorizationRootRegistry`.

A row is judged by the newest row of its record, and a new record also by the roots that are active. A root that is not
active never is again, so the number of active roots grows only where it is checked. The clock of the database is a
sequence of readings, and the registry counts those that were taken. -/

namespace VentureOS.Trust

open JsonText Bridge

variable {PrivateKey PublicKey Uuid : Type}

/-- A row of `acp_retained_native_module_authorization_roots`, without the columns of which a check fixes the value. -/
structure RootRow (Uuid : Type) where
  workspaceId : Uuid
  supervisorInstanceId : Text
  rootRecordId : Text
  rootRecordVersion : Nat
  signerKeyId : Text
  publicKeySpkiBase64 : Text
  publicKeySpkiSha256 : Text
  minimumSnapshotVersion : Nat
  validFrom : Int
  validUntil : Int
  revokedAt : Option Int
  deriving DecidableEq

namespace RootRow

/-- The row of a root record. -/
def ofRecord (workspaceId : Uuid) (supervisorInstanceId : Text) (record : RootRecord) : RootRow Uuid where
  workspaceId := workspaceId
  supervisorInstanceId := supervisorInstanceId
  rootRecordId := record.rootRecordId
  rootRecordVersion := record.rootRecordVersion
  signerKeyId := record.signerKeyId
  publicKeySpkiBase64 := record.publicKeySpkiBase64
  publicKeySpkiSha256 := record.publicKeySpkiSha256
  minimumSnapshotVersion := record.minimumSnapshotVersion
  validFrom := record.validFrom.time
  validUntil := record.validUntil.time
  revokedAt := record.revokedAt.map Stamp.time

/-- `validUntil > clock_timestamp() AND (revokedAt IS NULL OR revokedAt > clock_timestamp())`, by two readings. -/
def isActive (row : RootRow Uuid) (first second : Int) : Bool :=
  decide (first < row.validUntil) && row.revokedAt.all fun revoked => decide (second < revoked)

/-- A root is active at a time. -/
def activeAt (row : RootRow Uuid) (t : Int) : Bool := row.isActive t t

/-- What was active by later readings was active before. -/
theorem activeAt_of_isActive {row : RootRow Uuid} {t first second : Int} (hfirst : t ≤ first) (hsecond : t ≤ second)
    (h : row.isActive first second = true) : row.activeAt t = true := by
  rw [isActive, Bool.and_eq_true, decide_eq_true_eq, Option.all_eq_true] at h
  rw [activeAt, isActive, Bool.and_eq_true, decide_eq_true_eq, Option.all_eq_true]
  exact ⟨Int.lt_of_le_of_lt hfirst h.1,
    fun revoked hrevoked => decide_eq_true (Int.lt_of_le_of_lt hsecond (of_decide_eq_true (h.2 revoked hrevoked)))⟩

/-- What is active was active by earlier readings. -/
theorem isActive_of_activeAt {row : RootRow Uuid} {t first second : Int} (hfirst : first ≤ t) (hsecond : second ≤ t)
    (h : row.activeAt t = true) : row.isActive first second = true := by
  rw [activeAt, isActive, Bool.and_eq_true, decide_eq_true_eq, Option.all_eq_true] at h
  rw [isActive, Bool.and_eq_true, decide_eq_true_eq, Option.all_eq_true]
  exact ⟨Int.lt_of_le_of_lt hfirst h.1,
    fun revoked hrevoked => decide_eq_true (Int.lt_of_le_of_lt hsecond (of_decide_eq_true (h.2 revoked hrevoked)))⟩

end RootRow

variable {reading : Nat}

section Active

variable (clock : Nat → Int)

/-- The rows that are active, each by two readings of the clock. -/
def activeRoots : Nat → List (RootRow Uuid) → List (RootRow Uuid)
  | _, [] => []
  | reading, row :: rest =>
    if row.isActive (clock reading) (clock (reading + 1)) then row :: activeRoots (reading + 2) rest
    else activeRoots (reading + 2) rest

variable {clock}

theorem activeRoots_sublist (clock : Nat → Int) (reading : Nat) (rows : List (RootRow Uuid)) :
    (activeRoots clock reading rows).Sublist rows := by
  induction rows generalizing reading with
  | nil => exact List.Sublist.refl _
  | cons row rest ih =>
    rw [activeRoots]
    split
    · exact (ih _).cons_cons row
    · exact (ih _).cons row

/-- What is counted as active was active before the count. -/
theorem length_activeRoots_le (hclock : Monotone clock) {t : Int} (h : t ≤ clock reading)
    (rows : List (RootRow Uuid)) :
    (activeRoots clock reading rows).length ≤ rows.countP fun row => row.activeAt t := by
  induction rows generalizing reading with
  | nil => exact Nat.le_refl _
  | cons row rest ih =>
    have hnext : t ≤ clock (reading + 1) := h.trans (hclock (Nat.le_succ _))
    have hrest := ih (h.trans (hclock (Nat.le_add_right reading 2)))
    rw [activeRoots, List.countP_cons]
    split
    · rename_i hactive
      rw [if_pos (RootRow.activeAt_of_isActive h hnext hactive)]
      exact Nat.succ_le_succ hrest
    · exact hrest.trans (Nat.le_add_right _ _)

/-- What is active after the count was counted as active. -/
theorem le_length_activeRoots (clock : Nat → Int) {t : Int} (reading : Nat) (rows : List (RootRow Uuid))
    (h : ∀ k < reading + 2 * rows.length, clock k ≤ t) :
    (rows.countP fun row => row.activeAt t) ≤ (activeRoots clock reading rows).length := by
  induction rows generalizing reading with
  | nil => exact Nat.le_refl _
  | cons row rest ih =>
    rw [List.length_cons] at h
    have hrest := @ih (reading + 2) fun k hk => h k (by omega)
    have hfirst := h reading (by omega)
    have hsecond := h (reading + 1) (by omega)
    rw [activeRoots, List.countP_cons]
    by_cases hactive : row.activeAt t = true
    · rw [if_pos hactive, if_pos (RootRow.isActive_of_activeAt hfirst hsecond hactive)]
      exact Nat.succ_le_succ hrest
    · rw [if_neg hactive]
      split
      · exact hrest.trans (Nat.le_succ _)
      · exact hrest

end Active

/-- One that is filtered out was counted. -/
theorem countP_filter_add_le {α : Type} {rows : List α} {row : α} (hrow : row ∈ rows) {p q : α → Bool}
    (hp : p row = true) (hq : q row = false) : (rows.filter q).countP p + 1 ≤ rows.countP p := by
  have hsplit := List.countP_eq_countP_filter_add rows p q
  have hone : 0 < (rows.filter fun row => !q row).countP p :=
    List.countP_pos_iff.mpr ⟨row, List.mem_filter.mpr ⟨hrow, by rw [hq]; rfl⟩, hp⟩
  omega

/-! ## Rows of a record -/

/-- A later row of a record. -/
structure RootRow.Succeeds (row row' : RootRow Uuid) : Prop where
  signerKeyId : row'.signerKeyId = row.signerKeyId
  publicKeySpkiBase64 : row'.publicKeySpkiBase64 = row.publicKeySpkiBase64
  publicKeySpkiSha256 : row'.publicKeySpkiSha256 = row.publicKeySpkiSha256
  validFrom : row'.validFrom = row.validFrom
  validUntil : row'.validUntil = row.validUntil
  minimumSnapshotVersion : row.minimumSnapshotVersion ≤ row'.minimumSnapshotVersion
  revokedAt : row.revokedAt ≠ none → row'.revokedAt = row.revokedAt

theorem RootRow.Succeeds.refl (row : RootRow Uuid) : row.Succeeds row :=
  ⟨rfl, rfl, rfl, rfl, rfl, Nat.le_refl _, fun _ => rfl⟩

theorem RootRow.Succeeds.trans {a b c : RootRow Uuid} (hab : a.Succeeds b) (hbc : b.Succeeds c) : a.Succeeds c where
  signerKeyId := hbc.signerKeyId.trans hab.signerKeyId
  publicKeySpkiBase64 := hbc.publicKeySpkiBase64.trans hab.publicKeySpkiBase64
  publicKeySpkiSha256 := hbc.publicKeySpkiSha256.trans hab.publicKeySpkiSha256
  validFrom := hbc.validFrom.trans hab.validFrom
  validUntil := hbc.validUntil.trans hab.validUntil
  minimumSnapshotVersion := hab.minimumSnapshotVersion.trans hbc.minimumSnapshotVersion
  revokedAt h := (hbc.revokedAt (hab.revokedAt h ▸ h)).trans (hab.revokedAt h)

/-- **A root that is not active never is again**, in any later row. -/
theorem RootRow.Succeeds.activeAt {row row' : RootRow Uuid} (h : row.Succeeds row') {t t' : Int} (ht : t ≤ t')
    (hactive : row'.activeAt t' = true) : row.activeAt t = true := by
  have hbefore := RootRow.activeAt_of_isActive ht ht hactive
  rw [RootRow.activeAt, RootRow.isActive, Bool.and_eq_true, h.validUntil] at hbefore
  rw [RootRow.activeAt, RootRow.isActive, Bool.and_eq_true]
  refine ⟨hbefore.1, ?_⟩
  by_cases hrevoked : row.revokedAt = none
  · rw [hrevoked]
    rfl
  · rw [← h.revokedAt hrevoked]
    exact hbefore.2

/-! ## Rows of records -/

variable {rows : List (RootRow Uuid)}

section Records

/-- What `read` throws. -/
inductive RootRegistryError where
  | denied (message : String)
  | invalidRoot (code : LocalIpcErrorCode)
  | database
  deriving DecidableEq, Repr

variable (ed25519 : Ed25519 PrivateKey PublicKey) (sha256 : ByteArray → String) (dateParse : Text → Option Int)

/-- The text of a date, `none` when it has none. -/
def stampOf (time : Int) : Option Stamp := (toISOString time).map fun text => ⟨ofString text, time⟩

/-- The text of an optional date. -/
def optionalStampOf : Option Int → Option (Option Stamp)
  | none => some none
  | some time => (stampOf time).map some

/-- The record of a row, before its validation. -/
def RootRow.record (row : RootRow Uuid) : Option RootRecord := do
  let validFrom ← stampOf row.validFrom
  let validUntil ← stampOf row.validUntil
  let revokedAt ← optionalStampOf row.revokedAt
  return {
    rootRecordId := row.rootRecordId
    rootRecordVersion := row.rootRecordVersion
    signerKeyId := row.signerKeyId
    publicKeySpkiBase64 := row.publicKeySpkiBase64
    publicKeySpkiSha256 := row.publicKeySpkiSha256
    minimumSnapshotVersion := row.minimumSnapshotVersion
    validFrom, validUntil, revokedAt }

/-- `rootFromRow`. -/
def rootFromRow (row : RootRow Uuid) : Except RootRegistryError RootRecord := do
  let record ← orThrow .database row.record
  match parseRootRecord ed25519 sha256 dateParse record.toValue with
  | .ok root => return root.record
  | .error code => throw (.invalidRoot code)

variable {ed25519 sha256 dateParse}

theorem stampOf_eq_some {stamp : Stamp} (h : IsStamp dateParse stamp.text stamp.time) :
    stampOf stamp.time = some stamp := by
  obtain ⟨text, htext, hstamp⟩ := Option.map_eq_some_iff.mp h.canonical
  rw [stampOf, htext, Option.map_some, hstamp]

/-- **What is read from a row** is the record that was inserted. -/
theorem rootFromRow_ofRecord {root : ParsedRootRecord PublicKey} (h : ValidRoot ed25519 sha256 dateParse root)
    (workspaceId : Uuid) (supervisorInstanceId : Text) :
    rootFromRow ed25519 sha256 dateParse (RootRow.ofRecord workspaceId supervisorInstanceId root.record)
      = .ok root.record := by
  have hrevoked : optionalStampOf (root.record.revokedAt.map Stamp.time) = some root.record.revokedAt := by
    cases hstamp : root.record.revokedAt with
    | none => rfl
    | some stamp => rw [Option.map_some, optionalStampOf, stampOf_eq_some (h.revokedAt stamp hstamp), Option.map_some]
  have hrecord : (RootRow.ofRecord workspaceId supervisorInstanceId root.record).record = some root.record := by
    rw [RootRow.record, RootRow.ofRecord]
    simp only [stampOf_eq_some h.validFrom, stampOf_eq_some h.validUntil, hrevoked]
    rfl
  rw [rootFromRow, hrecord]
  simp only [orThrow, bind, Except.bind, parseRootRecord_toValue h]
  rfl

theorem mapM_rootFromRow {roots : List (ParsedRootRecord PublicKey)}
    (h : ∀ root ∈ roots, ValidRoot ed25519 sha256 dateParse root) (workspaceId : Uuid) (supervisorInstanceId : Text) :
    (roots.map fun root => RootRow.ofRecord workspaceId supervisorInstanceId root.record).mapM
      (rootFromRow ed25519 sha256 dateParse) = .ok (roots.map ParsedRootRecord.record) := by
  induction roots with
  | nil => rfl
  | cons root rest ih =>
    rw [List.forall_mem_cons] at h
    rw [List.map_cons, List.mapM_cons, rootFromRow_ofRecord h.1, ih h.2]
    rfl

/-- Rows of valid roots. -/
theorem exists_roots (workspaceId : Uuid) (supervisorInstanceId : Text)
    (h : ∀ row ∈ rows, ∃ root, ValidRoot ed25519 sha256 dateParse root
      ∧ RootRow.ofRecord workspaceId supervisorInstanceId root.record = row) :
    ∃ roots : List (ParsedRootRecord PublicKey), (∀ root ∈ roots, ValidRoot ed25519 sha256 dateParse root)
      ∧ roots.map (fun root => RootRow.ofRecord workspaceId supervisorInstanceId root.record) = rows := by
  induction rows with
  | nil => exact ⟨[], fun _ hroot => absurd hroot List.not_mem_nil, rfl⟩
  | cons row rest ih =>
    rw [List.forall_mem_cons] at h
    obtain ⟨root, hvalid, hrow⟩ := h.1
    obtain ⟨roots, hroots, hrest⟩ := ih h.2
    exact ⟨root :: roots, List.forall_mem_cons.mpr ⟨hvalid, hroots⟩, by rw [List.map_cons, hrow, hrest]⟩

end Records

variable [DecidableEq Uuid]

/-! ## The guard -/

/-- The rows of a record, by their versions. -/
def rootVersioning : Versioning (RootRow Uuid) (Uuid × Text × Text) where
  key row := (row.workspaceId, row.supervisorInstanceId, row.rootRecordId)
  version := RootRow.rootRecordVersion

/-- `current_roots`: of each record of a supervisor the newest row. -/
def currentRoots (rows : List (RootRow Uuid)) (workspaceId : Uuid) (supervisorInstanceId : Text) :
    List (RootRow Uuid) :=
  rows.filter fun row => row.workspaceId = workspaceId ∧ row.supervisorInstanceId = supervisorInstanceId
    ∧ rootVersioning.newest rows (rootVersioning.key row) = some row

variable {new : RootRow Uuid}

section Clock

variable (clock : Nat → Int)

/-- `ventureos_guard_native_module_public_root_insert`, after the check of the workspace. -/
def rootRule (reading : Nat) : LedgerRule (RootRow Uuid) (RootRow Uuid) (Uuid × Text × Text) where
  toVersioning := rootVersioning
  row := id
  opens rows new :=
    let current := currentRoots rows new.workspaceId new.supervisorInstanceId
    let next := reading + 2 * current.length
    !(rows.any fun existing => existing.workspaceId = new.workspaceId
        ∧ existing.supervisorInstanceId = new.supervisorInstanceId
        ∧ (existing.signerKeyId = new.signerKeyId ∨ existing.publicKeySpkiSha256 = new.publicKeySpkiSha256))
      && !(decide (8 ≤ (activeRoots clock reading current).length) && new.isActive (clock next) (clock (next + 1)))
  succeeds _ latest new := decide (new.signerKeyId = latest.signerKeyId
    ∧ new.publicKeySpkiBase64 = latest.publicKeySpkiBase64 ∧ new.publicKeySpkiSha256 = latest.publicKeySpkiSha256
    ∧ new.validFrom = latest.validFrom ∧ new.validUntil = latest.validUntil
    ∧ latest.minimumSnapshotVersion ≤ new.minimumSnapshotVersion
    ∧ (latest.revokedAt ≠ none → new.revokedAt = latest.revokedAt))
  repeats _ latest new := decide (new.signerKeyId = latest.signerKeyId
    ∧ new.publicKeySpkiBase64 = latest.publicKeySpkiBase64 ∧ new.publicKeySpkiSha256 = latest.publicKeySpkiSha256
    ∧ new.minimumSnapshotVersion = latest.minimumSnapshotVersion
    ∧ new.validFrom = latest.validFrom ∧ new.validUntil = latest.validUntil ∧ new.revokedAt = latest.revokedAt)

/-- The rows, and how many readings of the clock were taken. -/
structure RootRegistry (Uuid : Type) where
  rows : List (RootRow Uuid)
  readings : Nat

/-- The supervisor of a row is bound to another workspace. -/
def boundElsewhere (rows : List (RootRow Uuid)) (new : RootRow Uuid) : Bool :=
  rows.any fun existing => existing.supervisorInstanceId = new.supervisorInstanceId
    ∧ existing.workspaceId ≠ new.workspaceId

/-- An insertion with `ON CONFLICT DO NOTHING`: whether a row is inserted, or that the guard refuses it. -/
def insertRoot (new : RootRow Uuid) (registry : RootRegistry Uuid) : Option Bool × RootRegistry Uuid :=
  let readings := registry.readings + 2 * (registry.rows.length + 1)
  if boundElsewhere registry.rows new then (none, { registry with readings })
  else
    match (rootRule clock registry.readings).insert registry.rows new with
    | none => (none, { registry with readings })
    | some (inserted, rows) => (some inserted, { rows, readings })

/-! ## Reading -/

variable (ed25519 : Ed25519 PrivateKey PublicKey) (sha256 : ByteArray → String) (dateParse : Text → Option Int)

/-- `read`, from this reading of the clock on. `castUuid` is the cast of a text to `UUID`. -/
def readRoots (castUuid : Text → Option Uuid) (registry : RootRegistry Uuid) (reading : Nat)
    (workspaceId supervisorInstanceId : Text) : Except RootRegistryError (List RootRecord) := do
  throwIf (isReference workspaceId = false) (.denied "workspaceId must be a safe non-sensitive reference")
  throwIf (isReference supervisorInstanceId = false)
    (.denied "supervisorInstanceId must be a safe non-sensitive reference")
  let workspace ← orThrow .database (castUuid workspaceId)
  let rows := (activeRoots clock reading (currentRoots registry.rows workspace supervisorInstanceId)).take 9
  throwIf (8 < rows.length) (.denied "Active root set exceeds bound")
  rows.mapM (rootFromRow ed25519 sha256 dateParse)

variable {clock}

/-! ## What the guard keeps -/

/-- A new record has a signer and a fingerprint of its own. -/
def OpensRoot (before : List (RootRow Uuid)) (row : RootRow Uuid) : Prop :=
  ∀ existing ∈ before, existing.workspaceId = row.workspaceId →
    existing.supervisorInstanceId = row.supervisorInstanceId →
    existing.signerKeyId ≠ row.signerKeyId ∧ existing.publicKeySpkiSha256 ≠ row.publicKeySpkiSha256

/-- The rows as the guard keeps them. -/
def RootsKept (rows : List (RootRow Uuid)) : Prop :=
  rootVersioning.Kept OpensRoot (fun _ => RootRow.Succeeds) rows

/-- Every later row of a record succeeds every earlier one. -/
theorem RootsKept.succeeds (h : RootsKept rows) {row row' : RootRow Uuid}
    (hrow : row ∈ rows) (hrow' : row' ∈ rows) (hkey : rootVersioning.key row = rootVersioning.key row')
    (hversion : row.rootRecordVersion ≤ row'.rootRecordVersion) : row.Succeeds row' := by
  rcases Nat.lt_or_eq_of_le hversion with hlt | heq
  · exact h.along (fun _ _ _ hsucceeds => hsucceeds) RootRow.Succeeds.trans hrow hrow' hkey hlt
  · rw [h.unique hrow hrow' hkey heq]
    exact .refl row'

/-- Different records of a supervisor have different signers and fingerprints. -/
theorem RootsKept.distinct (h : RootsKept rows) {row row' : RootRow Uuid}
    (hrow : row ∈ rows) (hrow' : row' ∈ rows) (hworkspace : row.workspaceId = row'.workspaceId)
    (hsupervisor : row.supervisorInstanceId = row'.supervisorInstanceId) (hid : row.rootRecordId ≠ row'.rootRecordId) :
    row.signerKeyId ≠ row'.signerKeyId ∧ row.publicKeySpkiSha256 ≠ row'.publicKeySpkiSha256 := by
  let P : List (RootRow Uuid) → Prop := fun rows => ∀ row ∈ rows, ∀ row' ∈ rows,
    row.workspaceId = row'.workspaceId → row.supervisorInstanceId = row'.supervisorInstanceId →
    row.rootRecordId ≠ row'.rootRecordId →
    row.signerKeyId ≠ row'.signerKeyId ∧ row.publicKeySpkiSha256 ≠ row'.publicKeySpkiSha256
  refine Journal.invariant (P := P) (fun _ hrow => absurd hrow List.not_mem_nil) (fun rows new ih hnew => ?_) h
    row hrow row' hrow' hworkspace hsupervisor hid
  -- a row that is there already, and the new one
  have hold : ∀ row ∈ rows, row.workspaceId = new.workspaceId →
      row.supervisorInstanceId = new.supervisorInstanceId → row.rootRecordId ≠ new.rootRecordId →
      row.signerKeyId ≠ new.signerKeyId ∧ row.publicKeySpkiSha256 ≠ new.publicKeySpkiSha256 := by
    intro row hrow hworkspace hsupervisor hid
    rcases hnew with ⟨-, -, hopens⟩ | ⟨latest, hlatest, -, hsucceeds⟩
    · exact hopens row hrow hworkspace hsupervisor
    · obtain ⟨hmem, hkey⟩ := rootVersioning.mem_of_newest hlatest
      simp only [rootVersioning, Prod.mk.injEq] at hkey
      rw [hsucceeds.signerKeyId, hsucceeds.publicKeySpkiSha256]
      exact ih row hrow latest hmem (hworkspace.trans hkey.1.symm) (hsupervisor.trans hkey.2.1.symm)
        fun h => hid (h.trans hkey.2.2)
  intro row hrow row' hrow' hworkspace hsupervisor hid
  rcases List.mem_append.mp hrow with hrow | hrow
  · rcases List.mem_append.mp hrow' with hrow' | hrow'
    · exact ih row hrow row' hrow' hworkspace hsupervisor hid
    · rw [List.mem_singleton.mp hrow'] at hworkspace hsupervisor hid ⊢
      exact hold row hrow hworkspace hsupervisor hid
  · rw [List.mem_singleton.mp hrow] at hworkspace hsupervisor hid ⊢
    rcases List.mem_append.mp hrow' with hrow' | hrow'
    · obtain ⟨hsigner, hfingerprint⟩ :=
        hold row' hrow' hworkspace.symm hsupervisor.symm (Ne.symm hid)
      exact ⟨Ne.symm hsigner, Ne.symm hfingerprint⟩
    · rw [List.mem_singleton.mp hrow'] at hid
      exact absurd rfl hid

/-! ## Current roots -/

/-- A newer row takes the place of the current row of its record. -/
theorem currentRoots_concat_self
    (hnewer : ∀ row ∈ rows, rootVersioning.key row = rootVersioning.key new →
      rootVersioning.version row < rootVersioning.version new) :
    currentRoots (rows ++ [new]) new.workspaceId new.supervisorInstanceId
      = (currentRoots rows new.workspaceId new.supervisorInstanceId).filter
          (fun row => rootVersioning.key row ≠ rootVersioning.key new) ++ [new] := by
  have hnew := rootVersioning.newest_concat_self hnewer
  rw [currentRoots, List.filter_append, List.filter_singleton, hnew, currentRoots, List.filter_filter]
  congr 1
  · refine List.filter_congr fun row hrow => ?_
    by_cases hkey : rootVersioning.key row = rootVersioning.key new
    · have hne : new ≠ row := fun h => absurd (hnewer row hrow hkey) (h ▸ Nat.lt_irrefl _)
      rw [hkey, hnew]
      simp [hne]
    · rw [rootVersioning.newest_concat_of_ne rows (Ne.symm hkey)]
      simp [hkey]
  · simp

/-- The current roots of the other supervisors are the same. -/
theorem currentRoots_concat_of_ne (rows : List (RootRow Uuid)) {workspaceId : Uuid}
    {supervisorInstanceId : Text}
    (hother : ¬(new.workspaceId = workspaceId ∧ new.supervisorInstanceId = supervisorInstanceId)) :
    currentRoots (rows ++ [new]) workspaceId supervisorInstanceId = currentRoots rows workspaceId supervisorInstanceId := by
  rw [currentRoots, List.filter_append, List.filter_singleton, currentRoots]
  have hnone : decide (new.workspaceId = workspaceId ∧ new.supervisorInstanceId = supervisorInstanceId
      ∧ rootVersioning.newest (rows ++ [new]) (rootVersioning.key new) = some new) = false :=
    decide_eq_false fun h => hother ⟨h.1, h.2.1⟩
  rw [hnone]
  refine (List.append_nil _).trans (List.filter_congr fun row _ => decide_eq_decide.mpr ?_)
  refine and_congr_right fun hworkspace => and_congr_right fun hsupervisor => ?_
  rw [rootVersioning.newest_concat_of_ne rows fun hkey => ?_]
  simp only [rootVersioning, Prod.mk.injEq] at hkey
  exact hother ⟨hkey.1.trans hworkspace, hkey.2.1.trans hsupervisor⟩

theorem mem_currentRoots {workspaceId : Uuid} {supervisorInstanceId : Text}
    {row : RootRow Uuid} : row ∈ currentRoots rows workspaceId supervisorInstanceId
      ↔ row ∈ rows ∧ row.workspaceId = workspaceId ∧ row.supervisorInstanceId = supervisorInstanceId
        ∧ rootVersioning.newest rows (rootVersioning.key row) = some row := by
  rw [currentRoots, List.mem_filter, decide_eq_true_eq]

/-! ## Insertions -/

variable (clock)

/-- What the registry keeps. -/
structure RegistryKept (registry : RootRegistry Uuid) : Prop where
  workspace : ∀ row ∈ registry.rows, ∀ row' ∈ registry.rows,
    row.supervisorInstanceId = row'.supervisorInstanceId → row.workspaceId = row'.workspaceId
  rows : RootsKept registry.rows
  bound : ∀ workspaceId supervisorInstanceId t, (∀ k < registry.readings, clock k ≤ t) →
    ((currentRoots registry.rows workspaceId supervisorInstanceId).countP fun row => row.activeAt t) ≤ 8

/-- **What an insertion does**: it adds nothing, or a row that the guard lets pass. -/
theorem insertRoot_spec (new : RootRow Uuid) (registry : RootRegistry Uuid) :
    (insertRoot clock new registry).2.readings = registry.readings + 2 * (registry.rows.length + 1)
      ∧ ((insertRoot clock new registry).2.rows = registry.rows
        ∨ (insertRoot clock new registry).2.rows = registry.rows ++ [new]
          ∧ boundElsewhere registry.rows new = false
          ∧ (rootRule clock registry.readings).insert registry.rows new = some (true, registry.rows ++ [new])) := by
  unfold insertRoot
  cases hbound : boundElsewhere registry.rows new with
  | true => exact ⟨rfl, .inl rfl⟩
  | false =>
    cases hinsert : (rootRule clock registry.readings).insert registry.rows new with
    | none => exact ⟨rfl, .inl rfl⟩
    | some result =>
      obtain ⟨inserted, rows⟩ := result
      refine ⟨rfl, ?_⟩
      cases inserted with
      | true =>
        obtain ⟨rfl, -⟩ := LedgerRule.insert_new hinsert
        exact .inr ⟨rfl, rfl, rfl⟩
      | false =>
        obtain ⟨rfl, -⟩ := LedgerRule.insert_old hinsert
        exact .inl rfl

variable {clock}

theorem succeeds_of_rule {latest : RootRow Uuid}
    (h : (rootRule clock reading).succeeds rows latest new = true) : latest.Succeeds new := by
  obtain ⟨hsigner, hkey, hfingerprint, hfrom, huntil, hminimum, hrevoked⟩ := of_decide_eq_true h
  exact ⟨hsigner, hkey, hfingerprint, hfrom, huntil, hminimum, hrevoked⟩

theorem opens_of_rule
    (h : (rootRule clock reading).opens rows new = true) :
    OpensRoot rows new ∧ ¬(8 ≤ (activeRoots clock reading
        (currentRoots rows new.workspaceId new.supervisorInstanceId)).length
      ∧ new.isActive (clock (reading + 2 * (currentRoots rows new.workspaceId new.supervisorInstanceId).length))
        (clock (reading + 2 * (currentRoots rows new.workspaceId new.supervisorInstanceId).length + 1)) = true) := by
  obtain ⟨hnone, hbound⟩ := Bool.and_eq_true_iff.mp h
  rw [Bool.not_eq_true', List.any_eq_false] at hnone
  rw [Bool.not_eq_true', Bool.and_eq_false_imp, decide_eq_true_eq] at hbound
  refine ⟨fun existing hexisting hworkspace hsupervisor => ?_, fun hfull => ?_⟩
  · have hdistinct := hnone existing hexisting
    rw [decide_eq_true_eq] at hdistinct
    exact ⟨fun h => hdistinct ⟨hworkspace, hsupervisor, .inl h⟩, fun h => hdistinct ⟨hworkspace, hsupervisor, .inr h⟩⟩
  · exact absurd hfull.2 (by rw [hbound hfull.1]; exact Bool.noConfusion)

/-- The rows of an insertion that the guard lets pass are kept. -/
theorem RootsKept.insert {rows' : List (RootRow Uuid)} {inserted : Bool}
    (h : RootsKept rows) (hinsert : (rootRule clock reading).insert rows new = some (inserted, rows')) :
    RootsKept rows' :=
  (rootRule clock reading).kept_insert h new (fun hopens => (opens_of_rule hopens).1)
    (fun _ _ hsucceeds => succeeds_of_rule hsucceeds) hinsert

/-- **The bound is kept**: a root that is new is counted, and any other one was active before. -/
theorem bound_concat {registry : RootRegistry Uuid} (h : RegistryKept clock registry)
    (hinsert : (rootRule clock registry.readings).insert registry.rows new = some (true, registry.rows ++ [new]))
    (workspaceId : Uuid) (supervisorInstanceId : Text) {t : Int}
    (ht : ∀ k < registry.readings + 2 * (registry.rows.length + 1), clock k ≤ t) :
    ((currentRoots (registry.rows ++ [new]) workspaceId supervisorInstanceId).countP fun row => row.activeAt t) ≤ 8 := by
  have hbefore := h.bound workspaceId supervisorInstanceId t fun k hk => ht k (by omega)
  by_cases hsame : new.workspaceId = workspaceId ∧ new.supervisorInstanceId = supervisorInstanceId
  · obtain ⟨rfl, rfl⟩ := hsame
    have hallowed : rootVersioning.Allowed OpensRoot (fun _ => RootRow.Succeeds) registry.rows new :=
      Journal.last (R := rootVersioning.Allowed OpensRoot fun _ => RootRow.Succeeds) (h.rows.insert hinsert)
    rw [currentRoots_concat_self hallowed.newer, List.countP_append, List.countP_singleton]
    have hfilter : ((currentRoots registry.rows new.workspaceId new.supervisorInstanceId).filter fun row =>
        decide (rootVersioning.key row ≠ rootVersioning.key new)).countP (fun row => row.activeAt t)
        ≤ (currentRoots registry.rows new.workspaceId new.supervisorInstanceId).countP fun row => row.activeAt t :=
      List.Sublist.countP_le List.filter_sublist
    by_cases hactive : new.activeAt t = true
    · rw [if_pos hactive]
      obtain ⟨-, ⟨hnone, -, hopens⟩ | ⟨latest, hlatest, -, hsucceeds⟩⟩ := LedgerRule.insert_new hinsert
      · -- a new record: those that are active now were counted, and there were less than eight
        obtain ⟨-, hbound⟩ := opens_of_rule hopens
        have hlength : (currentRoots registry.rows new.workspaceId new.supervisorInstanceId).length
            ≤ registry.rows.length := List.length_filter_le _ _
        have hcount := le_length_activeRoots clock (t := t) registry.readings
          (currentRoots registry.rows new.workspaceId new.supervisorInstanceId) fun k hk => ht k (by omega)
        have hnew := RootRow.isActive_of_activeAt
          (ht (registry.readings + 2 * (currentRoots registry.rows new.workspaceId new.supervisorInstanceId).length)
            (by omega))
          (ht (registry.readings
            + 2 * (currentRoots registry.rows new.workspaceId new.supervisorInstanceId).length + 1) (by omega)) hactive
        have hless := Nat.lt_of_not_le fun hfull => hbound ⟨hfull, hnew⟩
        omega
      · -- a next version: the row before it was active
        have hkey : rootVersioning.key latest = rootVersioning.key new := (rootVersioning.mem_of_newest hlatest).2
        have hrow : latest ∈ currentRoots registry.rows new.workspaceId new.supervisorInstanceId := by
          refine mem_currentRoots.mpr ⟨(rootVersioning.mem_of_newest hlatest).1, (Prod.mk.inj hkey).1,
            (Prod.mk.inj (Prod.mk.inj hkey).2).1, ?_⟩
          rw [hkey]
          exact hlatest
        have hone := countP_filter_add_le hrow (p := fun row => row.activeAt t)
          (q := fun row => decide (rootVersioning.key row ≠ rootVersioning.key new))
          ((succeeds_of_rule hsucceeds).activeAt (Int.le_refl t) hactive) (decide_eq_false fun hne => hne hkey)
        omega
    · rw [if_neg hactive]
      omega
  · rw [currentRoots_concat_of_ne _ hsame]
    exact hbefore

/-- **An insertion keeps the registry.** -/
theorem RegistryKept.insertRoot {registry : RootRegistry Uuid} (h : RegistryKept clock registry) (new : RootRow Uuid) :
    RegistryKept clock (insertRoot clock new registry).2 := by
  obtain ⟨hreadings, hrows | ⟨hrows, hbound, hinsert⟩⟩ := insertRoot_spec clock new registry
  · refine ⟨by rw [hrows]; exact h.workspace, by rw [hrows]; exact h.rows, fun workspaceId supervisorInstanceId t ht => ?_⟩
    rw [hrows]
    exact h.bound workspaceId supervisorInstanceId t fun k hk => ht k (by omega)
  · have hnew : ∀ row ∈ registry.rows, row.supervisorInstanceId = new.supervisorInstanceId →
        row.workspaceId = new.workspaceId := by
      intro row hrow hsupervisor
      have hnone := List.any_eq_false.mp hbound row hrow
      rw [decide_eq_true_eq, not_and, not_not] at hnone
      exact hnone hsupervisor
    refine ⟨?_, by rw [hrows]; exact h.rows.insert hinsert, fun workspaceId supervisorInstanceId t ht => ?_⟩
    · rw [hrows]
      intro row hrow row' hrow' hsupervisor
      rcases List.mem_append.mp hrow with hrow | hrow
      · rcases List.mem_append.mp hrow' with hrow' | hrow'
        · exact h.workspace row hrow row' hrow' hsupervisor
        · rw [List.mem_singleton.mp hrow'] at hsupervisor ⊢
          exact hnew row hrow hsupervisor
      · rw [List.mem_singleton.mp hrow] at hsupervisor ⊢
        rcases List.mem_append.mp hrow' with hrow' | hrow'
        · exact (hnew row' hrow' hsupervisor.symm).symm
        · rw [List.mem_singleton.mp hrow']
    · rw [hrows]
      rw [hreadings] at ht
      exact bound_concat h hinsert workspaceId supervisorInstanceId ht

/-- **Every run of insertions keeps the registry.** -/
theorem registryKept_run (clock : Nat → Int) (rows : List (RootRow Uuid)) :
    RegistryKept clock (run (insertRoot clock) ⟨[], 0⟩ rows) := by
  refine run_induction (P := RegistryKept clock) _ ?_ (fun _ new h => h.insertRoot new) rows
  exact ⟨fun _ hrow => absurd hrow List.not_mem_nil, Journal.nil, fun _ _ _ _ => Nat.zero_le _⟩

/-- Only rows that were to be inserted are in the registry. -/
theorem forall_rows_run {p : RootRow Uuid → Prop} (h : ∀ row ∈ rows, p row) :
    ∀ row ∈ (run (insertRoot clock) ⟨[], 0⟩ rows).rows, p row := by
  induction rows using List.reverseRecOn with
  | nil => exact fun _ hrow => absurd hrow List.not_mem_nil
  | append_singleton rows new ih =>
    rw [List.forall_mem_append, List.forall_mem_singleton] at h
    rw [run_concat]
    obtain ⟨-, hrows | ⟨hrows, -⟩⟩ := insertRoot_spec clock new (run (insertRoot clock) ⟨[], 0⟩ rows)
    · rw [hrows]
      exact ih h.1
    · rw [hrows, List.forall_mem_append, List.forall_mem_singleton]
      exact ⟨ih h.1, h.2⟩

/-! ## What is read -/

variable {ed25519 : Ed25519 PrivateKey PublicKey} {sha256 : ByteArray → String} {dateParse : Text → Option Int}

/-- The rows that are read are of different records. -/
theorem pairwise_currentRoots (h : RootsKept rows) (workspaceId : Uuid)
    (supervisorInstanceId : Text) :
    (currentRoots rows workspaceId supervisorInstanceId).Pairwise fun row row' =>
      row.rootRecordId ≠ row'.rootRecordId ∧ row.signerKeyId ≠ row'.signerKeyId
        ∧ row.publicKeySpkiSha256 ≠ row'.publicKeySpkiSha256 := by
  have hnodup : (currentRoots rows workspaceId supervisorInstanceId).Nodup := List.Nodup.filter _ h.nodup
  refine hnodup.imp_of_mem fun {row row'} hrow hrow' hne => ?_
  obtain ⟨hmem, hworkspace, hsupervisor, hnewest⟩ := mem_currentRoots.mp hrow
  obtain ⟨hmem', hworkspace', hsupervisor', hnewest'⟩ := mem_currentRoots.mp hrow'
  have hid : row.rootRecordId ≠ row'.rootRecordId := by
    intro hsame
    have hkey : rootVersioning.key row = rootVersioning.key row' := by
      simp only [rootVersioning, Prod.mk.injEq]
      exact ⟨hworkspace.trans hworkspace'.symm, hsupervisor.trans hsupervisor'.symm, hsame⟩
    rw [hkey, hnewest', Option.some.injEq] at hnewest
    exact hne hnewest.symm
  exact ⟨hid, h.distinct hmem hmem' (hworkspace.trans hworkspace'.symm) (hsupervisor.trans hsupervisor'.symm) hid⟩

variable (clock ed25519 sha256 dateParse)

/-- **A usable set of roots**: what holds of the rows of each supervisor, how many are active, and what is read. -/
structure UsableRoots (castUuid : Text → Option Uuid) (registry : RootRegistry Uuid) : Prop where
  workspace : ∀ row ∈ registry.rows, ∀ row' ∈ registry.rows,
    row.supervisorInstanceId = row'.supervisorInstanceId → row.workspaceId = row'.workspaceId
  succeeds : ∀ row ∈ registry.rows, ∀ row' ∈ registry.rows, row.supervisorInstanceId = row'.supervisorInstanceId →
    row.rootRecordId = row'.rootRecordId → row.rootRecordVersion ≤ row'.rootRecordVersion → row.Succeeds row'
  inactive : ∀ row ∈ registry.rows, ∀ row' ∈ registry.rows, row.supervisorInstanceId = row'.supervisorInstanceId →
    row.rootRecordId = row'.rootRecordId → row.rootRecordVersion ≤ row'.rootRecordVersion →
    ∀ t t', t ≤ t' → row.activeAt t = false → row'.activeAt t' = false
  distinct : ∀ row ∈ registry.rows, ∀ row' ∈ registry.rows, row.supervisorInstanceId = row'.supervisorInstanceId →
    row.rootRecordId ≠ row'.rootRecordId →
    row.signerKeyId ≠ row'.signerKeyId ∧ row.publicKeySpkiSha256 ≠ row'.publicKeySpkiSha256
  bound : ∀ supervisorInstanceId t, (∀ k < registry.readings, clock k ≤ t) →
    (registry.rows.countP fun row => row.supervisorInstanceId = supervisorInstanceId
      ∧ rootVersioning.newest registry.rows (rootVersioning.key row) = some row ∧ row.activeAt t = true) ≤ 8
  read : ∀ reading, registry.readings ≤ reading → ∀ workspaceId supervisorInstanceId,
    readRoots clock ed25519 sha256 dateParse castUuid registry reading workspaceId supervisorInstanceId
      ≠ .error (.denied "Active root set exceeds bound")
  authenticator : ∀ reading, registry.readings ≤ reading → ∀ workspaceId supervisorInstanceId roots,
    readRoots clock ed25519 sha256 dateParse castUuid registry reading workspaceId supervisorInstanceId = .ok roots →
    roots ≠ [] → ∀ expectedSupervisorInstanceId, isReference expectedSupervisorInstanceId = true →
    ∃ parsed, authenticatorRoots ed25519 sha256 dateParse expectedSupervisorInstanceId (roots.map RootRecord.toValue)
      = .ok parsed

variable {clock ed25519 sha256 dateParse}

/-- At most eight roots are active when they are read. -/
theorem length_activeRoots_le_eight {registry : RootRegistry Uuid} (hclock : Monotone clock)
    (h : RegistryKept clock registry) (hreading : registry.readings ≤ reading) (workspaceId : Uuid)
    (supervisorInstanceId : Text) :
    (activeRoots clock reading (currentRoots registry.rows workspaceId supervisorInstanceId)).length ≤ 8 :=
  (length_activeRoots_le hclock (Int.le_refl (clock reading)) _).trans
    (h.bound workspaceId supervisorInstanceId (clock reading) fun _ hk => hclock (hk.le.trans hreading))

/-- **What `read` returns**: the records of the active roots, at most eight, valid and with nothing in common. -/
theorem readRoots_eq_ok {registry : RootRegistry Uuid} (hclock : Monotone clock) (h : RegistryKept clock registry)
    (hvalid : ∀ row ∈ registry.rows, ∃ root, ValidRoot ed25519 sha256 dateParse root
      ∧ RootRow.ofRecord row.workspaceId row.supervisorInstanceId root.record = row)
    {castUuid : Text → Option Uuid} (hreading : registry.readings ≤ reading)
    {workspaceId supervisorInstanceId : Text} {result : Except RootRegistryError (List RootRecord)}
    (hread : readRoots clock ed25519 sha256 dateParse castUuid registry reading workspaceId supervisorInstanceId = result) :
    result = .error (.denied "workspaceId must be a safe non-sensitive reference")
      ∨ result = .error (.denied "supervisorInstanceId must be a safe non-sensitive reference")
      ∨ result = .error .database
      ∨ ∃ roots : List (ParsedRootRecord PublicKey), result = .ok (roots.map ParsedRootRecord.record)
        ∧ (∀ root ∈ roots, ValidRoot ed25519 sha256 dateParse root) ∧ roots.length ≤ 8
        ∧ roots.Pairwise fun left right => Distinct left.record right.record := by
  subst hread
  unfold readRoots
  by_cases hworkspace : isReference workspaceId = false
  · exact .inl (by simp only [throwIf, if_pos hworkspace]; rfl)
  by_cases hsupervisor : isReference supervisorInstanceId = false
  · exact .inr (.inl (by simp only [throwIf, if_neg hworkspace, if_pos hsupervisor]; rfl))
  cases hcast : castUuid workspaceId with
  | none => exact .inr (.inr (.inl (by simp only [throwIf, if_neg hworkspace, if_neg hsupervisor]; rfl)))
  | some workspace =>
    have hlength := length_activeRoots_le_eight hclock h hreading workspace supervisorInstanceId
    have hsublist := activeRoots_sublist clock reading
      (currentRoots registry.rows workspace supervisorInstanceId)
    have hinserted : ∀ row ∈ activeRoots clock reading (currentRoots registry.rows workspace supervisorInstanceId),
        ∃ root, ValidRoot ed25519 sha256 dateParse root
          ∧ RootRow.ofRecord workspace supervisorInstanceId root.record = row := by
      intro row hrow
      obtain ⟨hmem, hsame, hsame', -⟩ := mem_currentRoots.mp (hsublist.subset hrow)
      rw [← hsame, ← hsame']
      exact hvalid row hmem
    obtain ⟨roots, hroots, hrows⟩ := exists_roots workspace supervisorInstanceId hinserted
    have hpairwise := (pairwise_currentRoots h.rows workspace supervisorInstanceId).sublist hsublist
    rw [← hrows, List.pairwise_map] at hpairwise
    rw [← hrows, List.length_map] at hlength
    refine .inr (.inr (.inr ⟨roots, ?_, hroots, hlength, hpairwise.imp fun h => ⟨h.2.1, h.1, h.2.2⟩⟩))
    simp only [throwIf, if_neg hworkspace, if_neg hsupervisor, orThrow, bind, Except.bind]
    rw [← hrows, List.take_of_length_le (by rw [List.length_map]; omega), List.length_map,
      if_neg (Nat.not_lt.mpr hlength)]
    exact mapM_rootFromRow hroots workspace supervisorInstanceId

/-- **The root registry always yields a usable set of roots**, after every run of insertions of roots that were parsed,
by a clock that does not go back. -/
theorem usableRoots_run (hclock : Monotone clock) (castUuid : Text → Option Uuid) {rows : List (RootRow Uuid)}
    (hrows : ∀ row ∈ rows, ∃ input root, parseRootRecord ed25519 sha256 dateParse input = .ok root
      ∧ RootRow.ofRecord row.workspaceId row.supervisorInstanceId root.record = row) :
    UsableRoots clock ed25519 sha256 dateParse castUuid (run (insertRoot clock) ⟨[], 0⟩ rows) := by
  have hkept := registryKept_run clock rows
  have hvalid : ∀ row ∈ (run (insertRoot clock) ⟨[], 0⟩ rows).rows, ∃ root, ValidRoot ed25519 sha256 dateParse root
      ∧ RootRow.ofRecord row.workspaceId row.supervisorInstanceId root.record = row := by
    refine forall_rows_run fun row hrow => ?_
    obtain ⟨input, root, hparse, hrow⟩ := hrows row hrow
    exact ⟨root, (parseRootRecord_eq_ok.mp hparse).2, hrow⟩
  generalize run (insertRoot clock) ⟨[], 0⟩ rows = registry at hkept hvalid
  have hsucceeds : ∀ row ∈ registry.rows, ∀ row' ∈ registry.rows,
      row.supervisorInstanceId = row'.supervisorInstanceId → row.rootRecordId = row'.rootRecordId →
      row.rootRecordVersion ≤ row'.rootRecordVersion → row.Succeeds row' := by
    intro row hrow row' hrow' hsupervisor hid hversion
    have hworkspace := hkept.workspace row hrow row' hrow' hsupervisor
    exact hkept.rows.succeeds hrow hrow' (Prod.ext hworkspace (Prod.ext hsupervisor hid)) hversion
  refine ⟨hkept.workspace, hsucceeds, ?_, ?_, ?_, ?_, ?_⟩
  · intro row hrow row' hrow' hsupervisor hid hversion t t' ht hinactive
    rw [Bool.eq_false_iff] at hinactive ⊢
    exact fun hactive =>
      hinactive ((hsucceeds row hrow row' hrow' hsupervisor hid hversion).activeAt ht hactive)
  · intro row hrow row' hrow' hsupervisor hid
    exact hkept.rows.distinct hrow hrow' (hkept.workspace row hrow row' hrow' hsupervisor) hsupervisor hid
  · intro supervisorInstanceId t ht
    by_cases hnone : ∃ row ∈ registry.rows, row.supervisorInstanceId = supervisorInstanceId
    · obtain ⟨row, hrow, rfl⟩ := hnone
      refine Nat.le_trans ?_ (hkept.bound row.workspaceId row.supervisorInstanceId t ht)
      rw [currentRoots, List.countP_filter]
      refine List.countP_mono_left fun row' hrow' h => ?_
      obtain ⟨hsupervisor, hnewest, hactive⟩ := of_decide_eq_true h
      rw [Bool.and_eq_true, decide_eq_true_eq]
      exact ⟨hactive, hkept.workspace row' hrow' row hrow hsupervisor, hsupervisor, hnewest⟩
    · rw [List.countP_eq_zero.mpr fun row hrow h => hnone ⟨row, hrow, (of_decide_eq_true h).1⟩]
      exact Nat.zero_le _
  · intro reading hreading workspaceId supervisorInstanceId hdenied
    rcases readRoots_eq_ok hclock hkept hvalid hreading hdenied with h | h | h | ⟨roots, h, -⟩
    · exact absurd h (by decide)
    · exact absurd h (by decide)
    · cases h
    · cases h
  · intro reading hreading workspaceId supervisorInstanceId roots hread hsome expected hreference
    rcases readRoots_eq_ok hclock hkept hvalid hreading hread with h | h | h | ⟨parsed, h, hparsed, hlength, hdistinct⟩
    · cases h
    · cases h
    · cases h
    · rw [Except.ok.injEq] at h
      subst h
      refine ⟨parsed, ?_⟩
      rw [List.map_map]
      refine authenticatorRoots_eq_ok hreference hparsed (fun hnil => hsome ?_) hlength hdistinct
      rw [hnil, List.map_nil]

end Clock

/-! ## A root that is revoked -/

namespace Sample

open Bridge.Sample (signer digest parseStamp stamp hash isStamp)

/-- A root of the key. -/
def root (version : Nat) (revokedAt : Option Stamp) : ParsedRootRecord Unit where
  record := {
    rootRecordId := ofString "r"
    rootRecordVersion := version
    signerKeyId := ofString "k"
    publicKeySpkiBase64 := ofString "AA=="
    publicKeySpkiSha256 := hash
    minimumSnapshotVersion := 1
    validFrom := ⟨stamp 0, 0⟩
    validUntil := ⟨stamp 3000, 3000⟩
    revokedAt }
  publicKey := ()

/-- The time at which the root is revoked. -/
def revocation : Stamp := ⟨stamp 1000, 1000⟩

def row (version : Nat) (revokedAt : Option Stamp) : RootRow Unit :=
  RootRow.ofRecord () (ofString "s") (root version revokedAt).record

theorem validRoot {version : Nat} (hversion : 1 ≤ version ∧ version ≤ 1000000) {revokedAt : Option Stamp}
    (hrevoked : revokedAt = none ∨ revokedAt = some revocation) :
    ValidRoot signer digest parseStamp (root version revokedAt) where
  validFrom := isStamp 0 (.inr (.inr rfl))
  validUntil := isStamp 3000 (.inr (.inl rfl))
  revokedAt stamp hstamp := by
    rcases hrevoked with rfl | rfl
    · cases hstamp
    · cases hstamp
      exact isStamp 1000 (.inl rfl)
  window := by
    rcases hrevoked with rfl | rfl
    · exact (by decide : isRootWindow 0 3000 none = true)
    · exact (by decide : isRootWindow 0 3000 (some 1000) = true)
  rootRecordId := (by decide : isReference (ofString "r") = true)
  signerKeyId := (by decide : isReference (ofString "k") = true)
  rootRecordVersion := hversion
  minimumSnapshotVersion := ⟨Nat.le_refl 1, (by decide : 1 ≤ 1000000)⟩
  publicKey := (by decide : parsePublicKey signer digest (ofString "AA==") hash = some ())

end Sample

/-- A root is inserted, and revoked by its second version. -/
theorem usableRoots_run_sample :
    (run (insertRoot fun n => n) ⟨[], 0⟩ [Sample.row 1 none, Sample.row 2 (some Sample.revocation)]).rows
      = [Sample.row 1 none, Sample.row 2 (some Sample.revocation)]
    ∧ UsableRoots (fun n => n) Bridge.Sample.signer Bridge.Sample.digest Bridge.Sample.parseStamp (fun _ => some ())
      (run (insertRoot fun n => n) ⟨[], 0⟩ [Sample.row 1 none, Sample.row 2 (some Sample.revocation)]) := by
  refine ⟨by decide, usableRoots_run (fun _ _ h => Int.ofNat_le.mpr h) (fun _ => some ()) ?_⟩
  rw [List.forall_mem_cons, List.forall_mem_singleton]
  exact ⟨⟨_, _, parseRootRecord_toValue (Sample.validRoot (by decide) (.inl rfl)), rfl⟩,
    ⟨_, _, parseRootRecord_toValue (Sample.validRoot (by decide) (.inr rfl)), rfl⟩⟩

end VentureOS.Trust
