import VentureOS.Trust.PublicLedger

/-! # Publications of snapshots and roots

Any calls that publish snapshots and roots, interleaved in any way. The snapshots of a supervisor are the versions
`1, …, n`, each naming the hash of the one before, and the versions of a root record are `1, …, m`. A version is
appended by one call, and a call that returns has the content that is in the ledger.

The guard compares an insertion only with the newest row. So a call that is repeated answers that it was published
before as long as its version is the newest, and is denied afterwards (`publications_run`). -/

namespace VentureOS.Trust

open JsonText Bridge

variable {PrivateKey PublicKey Uuid : Type}

/-! ## Root records -/

section Records

variable {ed25519 : Ed25519 PrivateKey PublicKey} {sha256 : ByteArray → String} {dateParse : Text → Option Int}

/-- A stamp is determined by its text. -/
theorem stamp_eq {stamp stamp' : Stamp} (h : IsStamp dateParse stamp.text stamp.time)
    (h' : IsStamp dateParse stamp'.text stamp'.time) (htext : stamp.text = stamp'.text) : stamp = stamp' := by
  have htime := h.parsed
  rw [htext, h'.parsed, Option.some.injEq] at htime
  obtain ⟨text, time⟩ := stamp
  obtain ⟨text', time'⟩ := stamp'
  dsimp only at htext htime
  rw [htext, htime]

theorem optionalStamp_eq {stamp stamp' : Option Stamp} (h : ∀ s ∈ stamp, IsStamp dateParse s.text s.time)
    (h' : ∀ s ∈ stamp', IsStamp dateParse s.text s.time)
    (hvalue : (optionalStampValue stamp).sorted = (optionalStampValue stamp').sorted) : stamp = stamp' := by
  cases stamp with
  | none =>
    cases stamp' with
    | none => rfl
    | some s' => cases hvalue
  | some s =>
    cases stamp' with
    | none => cases hvalue
    | some s' =>
      have htext : Value.str s.text = Value.str s'.text := hvalue
      rw [stamp_eq (h s rfl) (h' s' rfl) (Value.str.inj htext)]

theorem RootRecord.keyed_toValue (record : RootRecord) : record.toValue.Keyed := by
  refine ⟨RootRecord.nodup_names, ?_⟩
  rw [Value.keyedFields_iff]
  simp only [RootRecord.fields, List.forall_mem_cons]
  refine ⟨trivial, trivial, trivial, trivial, trivial, trivial, trivial, trivial, trivial, trivial, trivial, ?_, trivial,
    fun _ hfield => absurd hfield List.not_mem_nil⟩
  cases record.revokedAt <;> trivial

/-- **A root that was parsed is determined by its canonical text.** -/
theorem ValidRoot.eq_of_canonicalJson {root root' : ParsedRootRecord PublicKey}
    (hvalid : ValidRoot ed25519 sha256 dateParse root) (hvalid' : ValidRoot ed25519 sha256 dateParse root')
    {text : List Char} (h : Codec.canonicalJson root.record.toValue = some text)
    (h' : Codec.canonicalJson root'.record.toValue = some text) : root.record = root'.record := by
  have hsorted := sorted_eq_of_canonicalJson root.record.keyed_toValue root'.record.keyed_toValue h h'
  have hfields := fields_eq_of_sorted root.record.fields root'.record.fields rfl RootRecord.nodup_names hsorted
  simp only [RootRecord.fields, List.map_cons, List.map_nil, List.cons.injEq, Prod.mk.injEq, Value.sorted,
    Value.str.injEq, Value.int.injEq, true_and, and_true, Int.natCast_inj] at hfields
  obtain ⟨hid, hversion, hsigner, hkey, hfingerprint, hminimum, hfrom, huntil, hrevoked⟩ := hfields
  have hfrom' := stamp_eq hvalid.validFrom hvalid'.validFrom hfrom
  have huntil' := stamp_eq hvalid.validUntil hvalid'.validUntil huntil
  have hrevoked' := optionalStamp_eq hvalid.revokedAt hvalid'.revokedAt hrevoked
  obtain ⟨⟨id, version, signer, key, fingerprint, minimum, validFrom, validUntil, revokedAt⟩, publicKey⟩ := root
  dsimp only at *
  rw [hid, hversion, hsigner, hkey, hfingerprint, hminimum, hfrom', huntil', hrevoked']

/-- What is read from a row is a valid root. -/
theorem rootFromRow_valid {row : RootRow Uuid} {record : RootRecord}
    (h : rootFromRow ed25519 sha256 dateParse row = .ok record) :
    ∃ root, ValidRoot ed25519 sha256 dateParse root ∧ root.record = record := by
  obtain ⟨input, hinput, hparse⟩ := (orThrow_bind_eq_ok).mp h
  split at hparse
  · rename_i root hroot
    rw [except_pure_eq_ok] at hparse
    exact ⟨root, (parseRootRecord_eq_ok.mp hroot).2, hparse⟩
  · cases hparse

end Records

/-! ## Insertions -/

variable {call : PublicationCall}

variable {row : ProvisionedRoot Uuid} {request : ProvisioningRequest}

section Insertions

variable {ed25519 : Ed25519 PrivateKey PublicKey} {sha256 : ByteArray → String} {dateParse : Text → Option Int}
  {castUuid : Text → Option Uuid}

/-- A request has a valid root. -/
theorem exactRequest_root {input : Value} (h : exactRequest ed25519 sha256 dateParse input = .ok request) :
    ∃ root, ValidRoot ed25519 sha256 dateParse root ∧ root.record = request.root := by
  simp only [exactRequest, check_bind_eq_ok, throwIf_eq_ok, orThrow_bind_eq_ok] at h
  obtain ⟨fields, -, -, workspaceId, -, supervisorInstanceId, -, rootInput, -, hparse⟩ := h
  split at hparse
  · rename_i root hroot
    rw [except_pure_eq_ok] at hparse
    exact ⟨root, (parseRootRecord_eq_ok.mp hroot).2, by rw [← hparse]⟩
  · cases hparse

/-- The insertion of a snapshot. -/
structure PreparedSnapshot (sha256 : ByteArray → String) (castUuid : Text → Option Uuid) (row : SnapshotRow Uuid)
    (evidence : Option IssuanceEvidence) : Prop where
  hashed : snapshotHash sha256 row.snapshot = some row.snapshotHash
  unaudited : evidence = none → row.issuance = none
  audited : ∀ e ∈ evidence, e.isOf row.snapshot row.snapshotHash = true
    ∧ ∃ workspaceId, castUuid e.workspaceId = some workspaceId ∧ row.issuance = some (e.row workspaceId)

/-- The insertion of a root. -/
structure PreparedRoot (ed25519 : Ed25519 PrivateKey PublicKey) (sha256 : ByteArray → String)
    (dateParse : Text → Option Int) (castUuid : Text → Option Uuid) (row : ProvisionedRoot Uuid)
    (request : ProvisioningRequest) : Prop where
  valid : ∃ root, ValidRoot ed25519 sha256 dateParse root ∧ root.record = request.root
  root : ∃ workspaceId, castUuid request.workspaceId = some workspaceId
    ∧ row.root = RootRow.ofRecord workspaceId request.supervisorInstanceId request.root
  requestHash : hashOf sha256 request.toValue = some row.provisioningRequestHash
  evidenceHash : ∃ bytes, row.approvalEvidenceHash = digestOf sha256 bytes
  authorizationId : row.provisioningAuthorizationId = ofString "native-module-root:" ++ row.approvalEvidenceHash
  approvalId : row.approvalId = ofString "level3-control-plane:" ++ row.approvalEvidenceHash
  authorizedBy : isReference row.authorizedByReference = true
  authorized : row.authorizedUntil = row.authorizedFrom + authorizationLifetimeMs

theorem hashOf_eq_digest {value : Value} {hash : Text} (h : hashOf sha256 value = some hash) :
    ∃ bytes, hash = digestOf sha256 bytes := by
  obtain ⟨text, -, rfl⟩ := Option.map_eq_some_iff.mp h
  exact ⟨_, rfl⟩

theorem insertionOf_snapshot {row : SnapshotRow Uuid} {evidence : Option IssuanceEvidence}
    (h : insertionOf ed25519 sha256 dateParse castUuid call = some (.snapshot row evidence)) :
    PreparedSnapshot sha256 castUuid row evidence := by
  cases call with
  | append snapshot =>
    simp only [insertionOf, Option.bind_eq_bind, Option.bind_eq_some_iff, Option.pure_def, Option.some.injEq,
      Insertion.snapshot.injEq] at h
    obtain ⟨hash, hhash, rfl, rfl⟩ := h
    exact ⟨hhash, fun _ => rfl, fun _ he => by cases he⟩
  | appendAudited snapshot e =>
    simp only [insertionOf, Option.bind_eq_bind, Option.bind_eq_some_iff, Option.pure_def, Option.some.injEq,
      Insertion.snapshot.injEq, Option.guard_eq_some', exists_const] at h
    obtain ⟨hash, hhash, hevidence, workspaceId, hcast, rfl, rfl⟩ := h
    refine ⟨hhash, fun hnone => (by cases hnone), fun e' he' => ?_⟩
    cases he'
    exact ⟨hevidence, workspaceId, hcast, rfl⟩
  | provision call =>
    simp only [insertionOf, Option.bind_eq_bind, Option.bind_eq_some_iff, Option.pure_def, Option.some.injEq,
      reduceCtorEq, and_false, exists_false] at h

theorem insertionOf_root (h : insertionOf ed25519 sha256 dateParse castUuid call = some (.root row request)) :
    PreparedRoot ed25519 sha256 dateParse castUuid row request := by
  cases call with
  | provision call =>
    simp only [insertionOf, Option.bind_eq_bind, Option.bind_eq_some_iff, Option.pure_def, Option.some.injEq,
      Insertion.root.injEq, except_toOption_eq_some, provisionInsertion, throwIf_eq_ok, orThrow_eq_ok,
      except_bind_eq_ok, except_pure_eq_ok, Prod.exists, Prod.mk.injEq] at h
    obtain ⟨_, _, ⟨request', hrequest, _, -, _, hprincipal, _, -, actorKind, -, _, -, level, -, _, -, now, -, _, -,
      validFrom, -, validUntil, -, requestHash, hrequestHash, evidenceHash, hevidenceHash, workspaceId, hcast, rfl,
      rfl⟩, rfl, rfl⟩ := h
    exact ⟨exactRequest_root hrequest, ⟨workspaceId, hcast, rfl⟩, hrequestHash, hashOf_eq_digest hevidenceHash, rfl, rfl,
      by simpa using hprincipal, rfl⟩
  | _ =>
    simp only [insertionOf, Option.bind_eq_bind, Option.bind_eq_some_iff, Option.pure_def, Option.some.injEq,
      reduceCtorEq, and_false, exists_false] at h

end Insertions

/-! ## Runs -/

variable {rows : List (LedgerRow Uuid)} {call' : PublicationCall} {b : Insertion Uuid}

variable {b' : Insertion Uuid}

section Runs

variable [DecidableEq Uuid] (constraints : LedgerRow Uuid → Bool) (ed25519 : Ed25519 PrivateKey PublicKey)
  (sha256 : ByteArray → String) (dateParse : Text → Option Int) (castUuid : Text → Option Uuid) (uuidText : Uuid → Text)

/-- What is known of a first row. -/
def OpensLedger (before : List (LedgerRow Uuid)) : LedgerRow Uuid → Prop
  | .snapshot row => row.snapshot.previousSnapshotHash = none ∧ snapshotHash sha256 row.snapshot = some row.snapshotHash
  | .root row => boundElsewhere (rootsOf before) row.root = false

/-- What is known of a row that comes after another. -/
def SucceedsLedger (before : List (LedgerRow Uuid)) : LedgerRow Uuid → LedgerRow Uuid → Prop
  | .snapshot latest, .snapshot row => row.snapshot.previousSnapshotHash = some latest.snapshotHash
      ∧ snapshotHash sha256 row.snapshot = some row.snapshotHash
  | .root _, .root row => boundElsewhere (rootsOf before) row.root = false
  | _, _ => False

/-- A row says what a call says. -/
def SaysSame : LedgerRow Uuid → Insertion Uuid → Prop
  | .snapshot existing, .snapshot row evidence => existing.snapshot = row.snapshot
      ∧ existing.snapshotHash = row.snapshotHash ∧ ∀ e ∈ evidence, e.isRead uuidText existing = true
  | .root existing, .root row request => rootFromRow ed25519 sha256 dateParse existing.root = .ok request.root
      ∧ uuidText existing.root.workspaceId = request.workspaceId
      ∧ existing.root.supervisorInstanceId = request.supervisorInstanceId
      ∧ existing.provisioningRequestHash = row.provisioningRequestHash
  | _, _ => False

/-- A call repeats another: it has the same snapshot and evidence, or the same request. -/
def Repeats : Insertion Uuid → Insertion Uuid → Prop
  | .snapshot row evidence, .snapshot row' evidence' => row'.snapshot = row.snapshot ∧ evidence' = evidence
  | .root _ request, .root _ request' => request' = request
  | _, _ => False

/-- What a call writes is read back as it was written: the codec accepts the snapshot with its signature, and the
workspace and the times have the texts that the database gives them. -/
def ReadsBack : Insertion Uuid → Prop
  | .snapshot row evidence => Codec.accepts row.snapshot.toValue = true
      ∧ ∀ e ∈ evidence, (∀ workspaceId, castUuid e.workspaceId = some workspaceId → uuidText workspaceId = e.workspaceId)
        ∧ (stampOf e.authorizedFrom.time).map Stamp.text = some e.authorizedFrom.text
        ∧ (stampOf e.authorizedUntil.time).map Stamp.text = some e.authorizedUntil.text
  | .root _ request =>
    ∀ workspaceId, castUuid request.workspaceId = some workspaceId → uuidText workspaceId = request.workspaceId

/-- What holds of the ledger and of the calls after some moves. -/
structure LedgerPublished (pub : Publishing PublicationCall (Insertion Uuid) (Nat → Int) (LedgerRow Uuid) (LedgerKey Uuid))
    (moves : List (Move PublicationCall (Nat → Int))) : Prop where
  /-- The versions of a key are `1, …, n`. -/
  versions (key : LedgerKey Uuid) : (pub.rowsOf (pub.calls.pool [] moves).shared key).map pub.version
    = List.range' 1 (pub.rowsOf (pub.calls.pool [] moves).shared key).length
  /-- A first snapshot names no hash, and every other one names the hash of the one before. -/
  linked (row : SnapshotRow Uuid) (hrow : .snapshot row ∈ (pub.calls.pool [] moves).shared) :
    snapshotHash sha256 row.snapshot = some row.snapshotHash
      ∧ ((row.snapshot.snapshotVersion = 1 ∧ row.snapshot.previousSnapshotHash = none)
        ∨ ∃ before, .snapshot before ∈ (pub.calls.pool [] moves).shared
          ∧ before.snapshot.supervisorInstanceId = row.snapshot.supervisorInstanceId
          ∧ row.snapshot.snapshotVersion = before.snapshot.snapshotVersion + 1
          ∧ row.snapshot.previousSnapshotHash = some before.snapshotHash)
  /-- The rows are those of the calls that have answered `APPENDED`. -/
  appended : (pub.calls.shown [] moves).filterMap pub.appendedRow = (pub.calls.pool [] moves).shared
  /-- One call has appended a version. -/
  appendedOnce (r : LedgerRow Uuid) (hr : r ∈ (pub.calls.pool [] moves).shared) :
    ((pub.calls.shown [] moves).filterMap pub.appendedRow).countP
      (fun r' => pub.key r' = pub.key r ∧ pub.version r' = pub.version r) = 1
  /-- A call that has returned has the content of the row of its version. -/
  returned (b : Insertion Uuid) (answer : Published) (hcall : .returned b answer ∈ (pub.calls.pool [] moves).calls) :
    ∃ r ∈ (pub.calls.pool [] moves).shared, pub.key r = pub.key b.row ∧ pub.version r = pub.version b.row
      ∧ (r = b.row ∨ SaysSame ed25519 sha256 dateParse uuidText r b)
  /-- A repetition answers `REPLAYED` if its version is the newest as it inserts, and is denied if it is not. -/
  repeated (i j : Nat) (b b' : Insertion Uuid)
    (happended : (pub.calls.pool [] moves).calls[j]? = some (.returned b .APPENDED))
    (hinserting : (pub.calls.pool [] moves).calls[i]? = some (.inserting b')) (hrepeats : Repeats b b')
    (hreads : ReadsBack castUuid uuidText b') (readings readings' : Nat → Int)
    (after : List (Move PublicationCall (Nat → Int))) :
    (pub.newest (pub.calls.pool [] moves).shared (pub.key b'.row) = some b.row →
        (pub.calls.pool [] (moves ++ [.resume i readings] ++ after ++ [.resume i readings'])).calls[i]?
          = some (.returned b' .REPLAYED))
      ∧ (pub.newest (pub.calls.pool [] moves).shared (pub.key b'.row) ≠ some b.row →
        (pub.calls.pool [] (moves ++ [.resume i readings] ++ after)).calls[i]? = some .denied)

variable {constraints ed25519 sha256 dateParse castUuid uuidText}

/-! ### What the guards keep -/

theorem boundElsewhere_eq_false {rows : List (RootRow Uuid)} {new : RootRow Uuid} :
    boundElsewhere rows new = false ↔ ∀ existing ∈ rows, existing.supervisorInstanceId = new.supervisorInstanceId →
      existing.workspaceId = new.workspaceId := by
  rw [boundElsewhere, List.any_eq_false]
  refine forall₂_congr fun existing _ => ?_
  rw [decide_eq_true_eq, not_and, not_not]

theorem not_boundElsewhere_of_admitsRoot
    {readings : Nat → Int} (h : admitsRoot constraints rows row readings = true) :
    boundElsewhere (rootsOf rows) row.root = false := by
  simp only [admitsRoot, Bool.and_eq_true, Bool.not_eq_true'] at h
  exact h.1.1.1

theorem opensLedger_of_opens (rows : List (LedgerRow Uuid)) (call : PublicationCall) (b : Insertion Uuid)
    (readings : Nat → Int) (hprepare : insertionOf ed25519 sha256 dateParse castUuid call = some b)
    (h : (publicLedger constraints ed25519 sha256 dateParse castUuid uuidText).opens rows b readings = true) :
    OpensLedger sha256 rows b.row := by
  cases b with
  | snapshot row evidence =>
    simp only [publicLedger, Bool.and_eq_true, decide_eq_true_eq] at h
    exact ⟨h.1, (insertionOf_snapshot hprepare).hashed⟩
  | root row request =>
    simp only [publicLedger, Bool.and_eq_true] at h
    exact not_boundElsewhere_of_admitsRoot h.2

theorem succeedsLedger_of_succeeds (rows : List (LedgerRow Uuid)) (old : LedgerRow Uuid) (call : PublicationCall)
    (b : Insertion Uuid) (readings : Nat → Int)
    (hprepare : insertionOf ed25519 sha256 dateParse castUuid call = some b)
    (h : (publicLedger constraints ed25519 sha256 dateParse castUuid uuidText).succeeds rows old b readings = true) :
    SucceedsLedger sha256 rows old b.row := by
  cases b with
  | snapshot row evidence =>
    cases old with
    | snapshot latest =>
      simp only [publicLedger, Bool.and_eq_true, decide_eq_true_eq] at h
      exact ⟨h.1, (insertionOf_snapshot hprepare).hashed⟩
    | root latest => cases h
  | root row request =>
    cases old with
    | snapshot latest => cases h
    | root latest =>
      simp only [publicLedger, Bool.and_eq_true] at h
      exact not_boundElsewhere_of_admitsRoot h.2

/-- **Every run** keeps the ledger, and what is known of its calls. -/
theorem ledger_kept (moves : List (Move PublicationCall (Nat → Int))) :
    let pub := publicLedger constraints ed25519 sha256 dateParse castUuid uuidText
    pub.Kept (OpensLedger sha256) (SucceedsLedger sha256) (pub.calls.pool [] moves).shared
      ∧ ∀ call ∈ (pub.calls.pool [] moves).calls, pub.CallKept (pub.calls.pool [] moves).shared call :=
  Publishing.published opensLedger_of_opens
    (fun rows old call b readings hprepare _ => succeedsLedger_of_succeeds rows old call b readings hprepare) moves

/-- The roots of a supervisor are of one workspace. -/
theorem rootsOf_bound
    (h : ledgerVersioning.Kept (OpensLedger sha256) (SucceedsLedger sha256) rows) :
    ∀ root ∈ rootsOf rows, boundElsewhere (rootsOf rows) root = false := by
  refine Journal.invariant (P := fun rows => ∀ root ∈ rootsOf rows, boundElsewhere (rootsOf rows) root = false)
    (fun _ hroot => absurd hroot List.not_mem_nil) (fun rows new ih hnew => ?_) h
  cases new with
  | snapshot row =>
    have hrows : rootsOf (rows ++ [.snapshot row]) = rootsOf rows := by
      simp [rootsOf, provisionedRootsOf]
    rw [hrows]
    exact ih
  | root row =>
    have hrows : rootsOf (rows ++ [.root row]) = rootsOf rows ++ [row.root] := by
      simp [rootsOf, provisionedRootsOf]
    have hbound : boundElsewhere (rootsOf rows) row.root = false := by
      rcases hnew with ⟨-, -, hopened⟩ | ⟨old, -, -, hsucceeded⟩
      · exact hopened
      · cases old with
        | snapshot latest => exact hsucceeded.elim
        | root latest => exact hsucceeded
    rw [boundElsewhere_eq_false] at hbound
    simp only [hrows, boundElsewhere_eq_false, List.forall_mem_append, List.forall_mem_singleton] at ih ⊢
    exact ⟨fun root hroot => ⟨ih root hroot, fun hsame => (hbound root hroot hsame.symm).symm⟩,
      hbound, fun _ => trivial⟩

/-! ### What is read again -/

theorem sameCanonical_eq_true {left right : Value} : sameCanonical left right = true
    ↔ ∃ text, Codec.canonicalJson left = some text ∧ Codec.canonicalJson right = some text := by
  unfold sameCanonical
  cases hleft : Codec.canonicalJson left with
  | none => simp
  | some text =>
    cases hright : Codec.canonicalJson right with
    | none => simp
    | some text' => simp [eq_comm]

/-- **What confirms a call** says what the call says. -/
theorem saysSame_of_confirms {r : LedgerRow Uuid}
    (hprepare : insertionOf ed25519 sha256 dateParse castUuid call = some b)
    (h : (publicLedger constraints ed25519 sha256 dateParse castUuid uuidText).confirms r b = true) :
    SaysSame ed25519 sha256 dateParse uuidText r b := by
  cases b with
  | snapshot row evidence =>
    cases r with
    | snapshot existing =>
      simp only [publicLedger, Bool.and_eq_true, decide_eq_true_eq, sameCanonical_eq_true, Option.all_eq_true] at h
      obtain ⟨⟨hhash, text, hexisting, hrow⟩, hevidence⟩ := h
      exact ⟨Snapshot.eq_of_canonicalJson hexisting hrow, hhash, hevidence⟩
    | root existing => cases h
  | root row request =>
    cases r with
    | snapshot existing => cases h
    | root existing =>
      simp only [publicLedger, ProvisioningRequest.isRead] at h
      cases hrecord : rootFromRow ed25519 sha256 dateParse existing.root with
      | error error => simp [hrecord] at h
      | ok record =>
        simp only [hrecord, Bool.and_eq_true, decide_eq_true_eq, sameCanonical_eq_true] at h
        obtain ⟨⟨⟨⟨⟨⟨⟨text, hread, hwritten⟩, hworkspace, hsupervisor, hrequest⟩, -⟩, -⟩, -⟩, -⟩, -⟩ := h
        obtain ⟨root, hvalid, rfl⟩ := rootFromRow_valid hrecord
        obtain ⟨root', hvalid', hroot'⟩ := (insertionOf_root hprepare).valid
        rw [← hroot'] at hwritten
        have hsame := hvalid.eq_of_canonicalJson hvalid' hread hwritten
        exact ⟨by rw [hrecord, hsame, hroot'], hworkspace, hsupervisor, hrequest⟩

/-! ### Repetitions -/

/-- A call that repeats another writes the same row, but for the evidence of a root. -/
theorem row_of_repeats {row row' : SnapshotRow Uuid}
    {evidence evidence' : Option IssuanceEvidence}
    (hprepare : insertionOf ed25519 sha256 dateParse castUuid call = some (.snapshot row evidence))
    (hprepare' : insertionOf ed25519 sha256 dateParse castUuid call' = some (.snapshot row' evidence'))
    (h : Repeats (.snapshot row evidence) (.snapshot row' evidence')) : row' = row := by
  have hrow := insertionOf_snapshot hprepare
  have hrow' := insertionOf_snapshot hprepare'
  obtain ⟨hsnapshot, rfl⟩ := h
  have hhash := hrow'.hashed
  rw [hsnapshot, hrow.hashed, Option.some.injEq] at hhash
  have hissuance : row'.issuance = row.issuance := by
    cases evidence' with
    | none => rw [hrow.unaudited rfl, hrow'.unaudited rfl]
    | some e =>
      obtain ⟨-, workspaceId, hcast, hissuance⟩ := hrow.audited e rfl
      obtain ⟨-, workspaceId', hcast', hissuance'⟩ := hrow'.audited e rfl
      rw [hcast, Option.some.injEq] at hcast'
      rw [hissuance, hissuance', hcast']
  obtain ⟨snapshot, hash, issuance⟩ := row
  obtain ⟨snapshot', hash', issuance'⟩ := row'
  dsimp only at hsnapshot hhash hissuance
  rw [hsnapshot, hhash, hissuance]

theorem root_of_repeats {row' : ProvisionedRoot Uuid} {request' : ProvisioningRequest}
    (hprepare : insertionOf ed25519 sha256 dateParse castUuid call = some (.root row request))
    (hprepare' : insertionOf ed25519 sha256 dateParse castUuid call' = some (.root row' request'))
    (h : Repeats (.root row request) (.root row' request')) :
    row'.root = row.root ∧ row'.provisioningRequestHash = row.provisioningRequestHash := by
  have hrow := insertionOf_root hprepare
  have hrow' := insertionOf_root hprepare'
  obtain rfl := h
  obtain ⟨workspaceId, hcast, hroot⟩ := hrow.root
  obtain ⟨workspaceId', hcast', hroot'⟩ := hrow'.root
  rw [hcast, Option.some.injEq] at hcast'
  have hhash := hrow'.requestHash
  rw [hrow.requestHash, Option.some.injEq] at hhash
  exact ⟨by rw [hroot, hroot', hcast'], hhash.symm⟩

/-- An identifier that ends with a digest is a reference. -/
theorem referencePattern_digest (hdigest : ∀ bytes, Observation.isHash (digestOf sha256 bytes) = true)
    {start : String} (hstart : referencePattern start = true) (hlength : start.toList.length ≤ 192) (bytes : ByteArray) :
    referencePattern (toWellFormed (ofString start ++ digestOf sha256 bytes)) = true := by
  have happend : ofString start ++ digestOf sha256 bytes = ofString (start ++ sha256 bytes) := by
    rw [digestOf, ofString, ofString, ofString, String.toList_append, List.flatMap_append]
  have hhash := hdigest bytes
  rw [Observation.isHash, digestOf, toWellFormed_ofString, Durable.sha256Pattern, Bool.and_eq_true,
    decide_eq_true_eq] at hhash
  have hdigits : (sha256 bytes).toList.all (fun d => isAlnum d || [':', '.', '_', '/', '-'].contains d) = true := by
    refine List.all_eq_true.mpr fun c hc => ?_
    have hdigit := List.all_eq_true.mp hhash.2 c hc
    simp only [Bool.or_eq_true, Bool.and_eq_true, decide_eq_true_eq] at hdigit
    rw [Bool.or_eq_true, isAlnum]
    refine .inl ?_
    simp only [Bool.or_eq_true, Bool.and_eq_true, decide_eq_true_eq]
    rcases hdigit with ⟨hlow, hhigh⟩ | hdigit
    · exact .inl (.inr ⟨hlow, hhigh.trans (by decide)⟩)
    · exact .inr hdigit
  rw [happend, toWellFormed_ofString, referencePattern, String.toList_append]
  rw [referencePattern] at hstart
  cases hchars : start.toList with
  | nil => simp [hchars] at hstart
  | cons c rest =>
    simp only [hchars, Bool.and_eq_true, decide_eq_true_eq] at hstart
    rw [hchars, List.length_cons] at hlength
    simp only [List.cons_append, List.length_append, List.all_append, Bool.and_eq_true, decide_eq_true_eq, hhash.1]
    exact ⟨⟨hstart.1.1, by omega⟩, hstart.2, hdigits⟩

/-- **What a call has written confirms its repetition.** -/
theorem confirms_of_repeats (hdigest : ∀ bytes, Observation.isHash (digestOf sha256 bytes) = true)
    (hprepare : insertionOf ed25519 sha256 dateParse castUuid call = some b)
    (hprepare' : insertionOf ed25519 sha256 dateParse castUuid call' = some b') (hrepeats : Repeats b b')
    (hreads : ReadsBack castUuid uuidText b') :
    (publicLedger constraints ed25519 sha256 dateParse castUuid uuidText).confirms b.row b' = true := by
  cases b with
  | snapshot row evidence =>
    cases b' with
    | root row' request' => exact hrepeats.elim
    | snapshot row' evidence' =>
      obtain rfl := row_of_repeats hprepare hprepare' hrepeats
      obtain ⟨haccepts, hevidence⟩ := hreads
      simp only [publicLedger, Insertion.row, Bool.and_eq_true, decide_eq_true_eq, sameCanonical_eq_true,
        Option.all_eq_true, true_and]
      refine ⟨⟨_, Codec.canonicalJson_eq_some.mpr ⟨haccepts, rfl⟩, Codec.canonicalJson_eq_some.mpr ⟨haccepts, rfl⟩⟩,
        fun e he => ?_⟩
      obtain ⟨hof, workspaceId, hcast, hissuance⟩ := (insertionOf_snapshot hprepare').audited e he
      obtain ⟨hworkspace, hfrom, huntil⟩ := hevidence e he
      obtain ⟨hsupervisor, hid, hversion, hsigner, -⟩ := of_decide_eq_true hof
      rw [IssuanceEvidence.isRead, hissuance, Option.any_some, decide_eq_true_eq]
      exact ⟨hworkspace workspaceId hcast, hsupervisor.symm, hversion.symm, hid.symm, hsigner.symm, rfl, rfl, rfl, rfl,
        rfl, rfl, hfrom, huntil⟩
  | root row request =>
    cases b' with
    | snapshot row' evidence' => exact hrepeats.elim
    | root row' request' =>
      obtain ⟨hroot, hhash⟩ := root_of_repeats hprepare hprepare' hrepeats
      have hrow := insertionOf_root hprepare
      have hrow' := insertionOf_root hprepare'
      obtain ⟨workspaceId, hcast, hroot'⟩ := hrow'.root
      obtain ⟨root, hvalid, hrecord⟩ := hrow'.valid
      obtain ⟨bytes, hevidence⟩ := hrow.evidenceHash
      have hread : rootFromRow ed25519 sha256 dateParse row.root = .ok request'.root := by
        rw [← hroot, hroot', ← hrecord]
        exact rootFromRow_ofRecord hvalid workspaceId request'.supervisorInstanceId
      obtain ⟨text, hcanonical, -⟩ := Option.map_eq_some_iff.mp hrow'.requestHash
      have haccepts := (Codec.canonicalJson_eq_some.mp hcanonical).1
      rw [ProvisioningRequest.toValue, Codec.accepts, Bool.and_eq_true, Codec.acceptsFields_iff] at haccepts
      have hrootAccepts : Codec.accepts request'.root.toValue = true :=
        (haccepts.2 (ofString "root", request'.root.toValue) (by simp)).2
      simp only [publicLedger, Insertion.row, ProvisioningRequest.isRead, hread, Bool.and_eq_true, decide_eq_true_eq,
        sameCanonical_eq_true]
      refine ⟨⟨⟨⟨⟨⟨⟨_, Codec.canonicalJson_eq_some.mpr ⟨hrootAccepts, rfl⟩,
        Codec.canonicalJson_eq_some.mpr ⟨hrootAccepts, rfl⟩⟩, ?_, ?_, hhash.symm⟩, ?_⟩, ?_⟩, ?_⟩, ?_⟩, ?_⟩
      · rw [← hroot, hroot']
        exact hreads workspaceId hcast
      · rw [← hroot, hroot']
        rfl
      · rw [hrow.authorizationId, hevidence]
        exact referencePattern_digest hdigest (by decide) (by decide) bytes
      · rw [hrow.approvalId, hevidence]
        exact referencePattern_digest hdigest (by decide) (by decide) bytes
      · exact (Bool.and_eq_true_iff.mp hrow.authorizedBy).1
      · rw [hevidence]
        exact hdigest bytes
      · rw [hrow.authorized, authorizationLifetimeMs]
        omega

/-- A repetition is no contradiction to what is there. -/
theorem repeats_of_repeats
    (hkept : ledgerVersioning.Kept (OpensLedger sha256) (SucceedsLedger sha256) rows)
    (hprepare : insertionOf ed25519 sha256 dateParse castUuid call = some b)
    (hprepare' : insertionOf ed25519 sha256 dateParse castUuid call' = some b') (hrepeats : Repeats b b')
    (hrow : b.row ∈ rows) :
    (publicLedger constraints ed25519 sha256 dateParse castUuid uuidText).repeats rows b.row b' = true := by
  cases b with
  | snapshot row evidence =>
    cases b' with
    | root row' request' => exact hrepeats.elim
    | snapshot row' evidence' =>
      obtain rfl := row_of_repeats hprepare hprepare' hrepeats
      exact decide_eq_true ⟨rfl, rfl⟩
  | root row request =>
    cases b' with
    | snapshot row' evidence' => exact hrepeats.elim
    | root row' request' =>
      obtain ⟨hroot, -⟩ := root_of_repeats hprepare hprepare' hrepeats
      have hmem : row.root ∈ rootsOf rows :=
        List.mem_map_of_mem (List.mem_filterMap.mpr ⟨_, hrow, rfl⟩)
      simp only [publicLedger, Insertion.row, hroot, rootsOf_bound hkept _ hmem, Bool.not_false, Bool.true_and,
        rootRule, decide_eq_true_eq, and_self]

/-- A repetition is of the same version. -/
theorem version_of_repeats (hprepare : insertionOf ed25519 sha256 dateParse castUuid call = some b)
    (hprepare' : insertionOf ed25519 sha256 dateParse castUuid call' = some b') (hrepeats : Repeats b b') :
    ledgerVersioning.key b'.row = ledgerVersioning.key b.row
      ∧ ledgerVersioning.version b'.row = ledgerVersioning.version b.row := by
  cases b with
  | snapshot row evidence =>
    cases b' with
    | root row' request' => exact hrepeats.elim
    | snapshot row' evidence' =>
      obtain rfl := row_of_repeats hprepare hprepare' hrepeats
      exact ⟨rfl, rfl⟩
  | root row request =>
    cases b' with
    | snapshot row' evidence' => exact hrepeats.elim
    | root row' request' =>
      obtain ⟨hroot, -⟩ := root_of_repeats hprepare hprepare' hrepeats
      simp only [ledgerVersioning, Insertion.row, hroot, and_self]

/-- A call that has returned, or inserts, was prepared. -/
theorem prepared_of_kept {pub : Publishing PublicationCall (Insertion Uuid) (Nat → Int) (LedgerRow Uuid) (LedgerKey Uuid)}
    {call : PublishCall (Insertion Uuid)}
    (h : pub.CallKept rows call) (hcall : call = .inserting b ∨ ∃ answer, call = .returned b answer) :
    ∃ a, pub.prepare a = some b := by
  rcases hcall with rfl | ⟨answer, rfl⟩
  · exact h
  · cases answer with
    | APPENDED => exact h.1
    | REPLAYED => exact h.1

variable (constraints ed25519 dateParse castUuid uuidText)

/-- **The public ledgers**, after any interleaving of calls. -/
theorem publications_run (hdigest : ∀ bytes, Observation.isHash (digestOf sha256 bytes) = true)
    (moves : List (Move PublicationCall (Nat → Int))) :
    LedgerPublished ed25519 sha256 dateParse castUuid uuidText
      (publicLedger constraints ed25519 sha256 dateParse castUuid uuidText) moves := by
  obtain ⟨hkept, hcalls⟩ :=
    @ledger_kept _ _ _ _ constraints ed25519 sha256 dateParse castUuid uuidText moves
  refine ⟨fun key => (hkept.versions key).1, fun row hrow => ?_, Publishing.appended_eq_rows moves,
    fun r hr => Publishing.appended_once hkept hr, fun b answer hcall => ?_, ?_⟩
  · rcases hkept.predecessor hrow with ⟨hversion, before, hprevious, hhashed⟩ | ⟨old, hold, hkey, hversion, before, hlink⟩
    · exact ⟨hhashed, .inl ⟨hversion, hprevious⟩⟩
    · cases old with
      | root latest => exact hlink.elim
      | snapshot latest => exact ⟨hlink.2, .inr ⟨latest, hold, LedgerKey.snapshots.inj hkey, hversion, hlink.1⟩⟩
  · have hcall := hcalls _ hcall
    cases answer with
    | APPENDED => exact ⟨b.row, hcall.2, rfl, rfl, .inl rfl⟩
    | REPLAYED =>
      obtain ⟨⟨a, hprepare⟩, r, hr, hkey, hversion, hconfirms⟩ := hcall
      exact ⟨r, hr, hkey, hversion, .inr (saysSame_of_confirms hprepare hconfirms)⟩
  · intro i j b b' happended hinserting hrepeats hreads readings readings' after
    have hkeptAppended := hcalls _ (List.mem_of_getElem? happended)
    obtain ⟨a, hprepare⟩ := prepared_of_kept hkeptAppended (.inr ⟨_, rfl⟩)
    obtain ⟨a', hprepare'⟩ := prepared_of_kept (hcalls _ (List.mem_of_getElem? hinserting)) (.inl rfl)
    obtain ⟨hkey, hversion⟩ := version_of_repeats hprepare hprepare' hrepeats
    refine ⟨fun hnewest => ?_, fun hnewest => ?_⟩
    · exact Publishing.repeated_newest (fun moves => (ledger_kept moves).1) hinserting hnewest hversion
        (repeats_of_repeats hkept hprepare hprepare' hrepeats hkeptAppended.2)
        (confirms_of_repeats hdigest hprepare hprepare' hrepeats hreads) readings readings' after
    · obtain ⟨r, hr⟩ := ledgerVersioning.exists_newest hkeptAppended.2 hkey.symm
      obtain ⟨hmem, hrkey⟩ := ledgerVersioning.mem_of_newest hr
      have hle := ledgerVersioning.version_le_newest hr hkeptAppended.2 hkey.symm
      have hne : ledgerVersioning.version b.row ≠ ledgerVersioning.version r := fun hsame =>
        hnewest (hr.trans (congrArg some (hkept.unique hmem hkeptAppended.2 (hrkey.trans hkey) hsame.symm)))
      exact Publishing.repeated_older hinserting hr (hversion ▸ Nat.lt_of_le_of_ne hle hne) readings after

end Runs

namespace Sample

open Bridge.Sample (signer parseStamp stamp isStamp isHash_hash)

/-- The first and the second snapshot of a supervisor. -/
def snapshot (version : Nat) (previousSnapshotHash : Option Text) : Snapshot where
  snapshotId := [UInt16.ofNat (48 + version)]
  snapshotVersion := version
  signerKeyId := ofString "k"
  supervisorInstanceId := ofString "s"
  issuedAt := stamp 1000
  validUntil := stamp 3000
  previousSnapshotHash
  authorizations := []
  signature := ofString (String.ofList (List.replicate 86 'A' ++ ['=', '=']))

/-- What is signed of the first snapshot. -/
def firstBytes : ByteArray := TextDecoder.encode (snapshot 1 none).toSnapshotPayload.toValue.sorted.print

/-- A digest that knows the first snapshot. -/
def firstDigest (bytes : ByteArray) : String :=
  String.ofList (List.replicate 64 (if bytes = firstBytes then 'a' else 'b'))

def firstHash : Text := Bridge.Sample.hash

def secondHash : Text := ofString (String.ofList (List.replicate 64 'b'))

theorem isHash_firstDigest (bytes : ByteArray) : Observation.isHash (digestOf firstDigest bytes) = true := by
  unfold digestOf firstDigest
  split
  · exact isHash_hash
  · exact (by decide : Observation.isHash secondHash = true)

theorem payload_checked :
    (SnapshotPayload.names.all fun name => Codec.acceptsKey name) = true
    ∧ Codec.acceptsText (ofString "RETAINED_NATIVE_SUPERVISOR_MODULE_AUTHORIZATION") = true
    ∧ Codec.acceptsText (ofString "ED25519") = true ∧ Codec.acceptsText (ofString "k") = true
    ∧ Codec.acceptsText (ofString "s") = true ∧ Codec.acceptsText (ofString "1") = true
    ∧ Codec.acceptsText (ofString "2") = true := by decide

/-- The codec accepts what is signed of both snapshots. -/
theorem accepts_payload {version : Nat} (hversion : version = 1 ∨ version = 2) {previousSnapshotHash : Option Text}
    (hprevious : ∀ text ∈ previousSnapshotHash, text = firstHash) :
    Codec.accepts (snapshot version previousSnapshotHash).toSnapshotPayload.toValue = true := by
  obtain ⟨hnames, hpurpose, halgorithm, hsigner, hsupervisor, hone, htwo⟩ := payload_checked
  have hid : Codec.acceptsText [UInt16.ofNat (48 + version)] = true := by
    rcases hversion with rfl | rfl
    · exact hone
    · exact htwo
  have hbefore : Codec.accepts (optionalTextValue previousSnapshotHash) = true := by
    cases previousSnapshotHash with
    | none => rfl
    | some text =>
      rw [hprevious text rfl]
      exact acceptsText_hash isHash_hash
  rw [SnapshotPayload.toValue, Codec.accepts, Bool.and_eq_true, Codec.acceptsFields_iff]
  refine ⟨rfl, fun field hfield => ⟨List.all_eq_true.mp hnames _ (List.mem_map_of_mem hfield), ?_⟩⟩
  have hversionAccepts : Codec.accepts (.int version) = true := by
    rcases hversion with rfl | rfl
    · rfl
    · rfl
  simp only [SnapshotPayload.fields, List.mem_cons, List.not_mem_nil, or_false] at hfield
  rcases hfield with rfl | rfl | rfl | rfl | rfl | rfl | rfl | rfl | rfl | rfl | rfl
  · rfl
  · exact hpurpose
  · exact hid
  · exact hversionAccepts
  · exact hsigner
  · exact halgorithm
  · exact hsupervisor
  · exact (isStamp 1000 (.inl rfl)).accepts
  · exact (isStamp 3000 (.inr (.inl rfl))).accepts
  · exact hbefore
  · rfl

theorem canonicalJson_payload {version : Nat} (hversion : version = 1 ∨ version = 2) (previousSnapshotHash : Option Text)
    (hprevious : ∀ text ∈ previousSnapshotHash, text = firstHash) :
    Codec.canonicalJson (snapshot version previousSnapshotHash).toSnapshotPayload.toValue
      = some (snapshot version previousSnapshotHash).toSnapshotPayload.toValue.sorted.print :=
  Codec.canonicalJson_eq_some.mpr ⟨accepts_payload hversion hprevious, rfl⟩

theorem snapshotHash_first : snapshotHash firstDigest (snapshot 1 none) = some firstHash := by
  have hsame : TextDecoder.encode (snapshot 1 none).toSnapshotPayload.toValue.sorted.print = firstBytes := rfl
  rw [snapshotHash, hashOf, canonicalJson_payload (.inl rfl) none fun _ h => (by cases h), Option.map_some, digestOf,
    firstDigest, if_pos hsame, firstHash, Bridge.Sample.hash]

theorem snapshotHash_second : snapshotHash firstDigest (snapshot 2 (some firstHash)) = some secondHash := by
  have hfirst := canonicalJson_payload (.inl rfl) none fun _ h => (by cases h)
  have hsecond := canonicalJson_payload (.inr rfl) (some firstHash) fun _ h => (Option.some.inj h).symm
  have hne : TextDecoder.encode (snapshot 2 (some firstHash)).toSnapshotPayload.toValue.sorted.print ≠ firstBytes := by
    intro hsame
    rw [TextDecoder.encode_injective hsame] at hsecond
    have hfields := fields_eq_of_sorted (snapshot 2 (some firstHash)).toSnapshotPayload.fields
      (snapshot 1 none).toSnapshotPayload.fields rfl SnapshotPayload.nodup_names (sorted_eq_of_canonicalJson
      (snapshot 2 (some firstHash)).toSnapshotPayload.keyed_toValue (snapshot 1 none).toSnapshotPayload.keyed_toValue
      hsecond hfirst)
    have hversion := congrArg (fun fields => fields[3]?.map Prod.snd) hfields
    simp [SnapshotPayload.fields, snapshot, Value.sorted] at hversion
  rw [snapshotHash, hashOf, hsecond, Option.map_some, digestOf, firstDigest, if_neg hne, secondHash]

/-- The insertions of the two snapshots. -/
def insertion (version : Nat) : Insertion Unit :=
  if version = 1 then .snapshot { snapshot := snapshot 1 none, snapshotHash := firstHash, issuance := none } none
  else .snapshot { snapshot := snapshot 2 (some firstHash), snapshotHash := secondHash, issuance := none } none

/-- The ledger with one workspace. -/
def ledger : Publishing PublicationCall (Insertion Unit) (Nat → Int) (LedgerRow Unit) (LedgerKey Unit) :=
  publicLedger (fun _ => true) signer firstDigest parseStamp (fun _ => some ()) fun _ => ofString "w"

/-- The first snapshot is published, then the second, and then the first again. -/
def publications : List (Move PublicationCall (Nat → Int)) := [
  .start (.append (snapshot 1 none)), .resume 0 fun _ => 1000,
  .start (.append (snapshot 2 (some firstHash))), .resume 1 fun _ => 1000,
  .start (.append (snapshot 1 none)), .resume 2 fun _ => 1000]

theorem prepare_first : ledger.prepare (.append (snapshot 1 none)) = some (insertion 1) := by
  change insertionOf signer firstDigest parseStamp (fun _ => some ()) (.append (snapshot 1 none)) = some (insertion 1)
  rw [insertionOf, snapshotHash_first]
  rfl

theorem prepare_second : ledger.prepare (.append (snapshot 2 (some firstHash))) = some (insertion 2) := by
  change insertionOf signer firstDigest parseStamp (fun _ => some ()) (.append (snapshot 2 (some firstHash)))
    = some (insertion 2)
  rw [insertionOf, snapshotHash_second]
  rfl

theorem insert_checked :
    ledger.rule.insert [] (insertion 1, fun _ => 1000) = some (true, [(insertion 1).row])
    ∧ ledger.rule.insert [(insertion 1).row] (insertion 2, fun _ => 1000)
      = some (true, [(insertion 1).row, (insertion 2).row])
    ∧ ledger.rule.insert [(insertion 1).row, (insertion 2).row] (insertion 1, fun _ => 1000) = none := by decide

end Sample

/-- A snapshot is published, then its successor, and then it again. -/
theorem repetition_denied : (Sample.ledger.calls.pool [] Sample.publications).calls
    = [.returned (Sample.insertion 1) .APPENDED, .returned (Sample.insertion 2) .APPENDED, .denied] := by
  obtain ⟨hfirst, hsecond, hagain⟩ := Sample.insert_checked
  have h := Sample.ledger.calls.start_last (rfl : Sample.ledger.calls.pool [] [] = ⟨[], []⟩)
    (Sample.ledger.start_of_prepared Sample.prepare_first [])
  have h := Sample.ledger.calls.resume_last h.2 (Sample.ledger.resume_of_inserted hfirst)
  have h := Sample.ledger.calls.start_last h.2 (Sample.ledger.start_of_prepared Sample.prepare_second _)
  have h := Sample.ledger.calls.resume_last h.2 (Sample.ledger.resume_of_inserted hsecond)
  have h := Sample.ledger.calls.start_last h.2 (Sample.ledger.start_of_prepared Sample.prepare_first _)
  have h := Sample.ledger.calls.resume_last h.2 (Sample.ledger.resume_of_refused hagain)
  exact congrArg Pool.calls h.2

theorem publications_run_sample :
    LedgerPublished Bridge.Sample.signer Sample.firstDigest Bridge.Sample.parseStamp (fun _ => some ())
      (fun _ => ofString "w") Sample.ledger Sample.publications :=
  publications_run (fun _ => true) Bridge.Sample.signer Bridge.Sample.parseStamp (fun _ => some ())
    (fun _ => ofString "w") Sample.isHash_firstDigest Sample.publications

end VentureOS.Trust
