import Librarian.Core.Primitives

/-!
# An unlocked session and its authenticated snapshot

`UnlockedVault` holds the root key, the header and the manifest. Every operation is handed the
stored bytes afresh and authenticates them against the session before it uses them:
`authenticate_snapshot_metadata` compares the header and the decrypted manifest, and
`visit_authenticated_records` walks all record rows in step with the manifest's entries.

The loop's callbacks are a predicate on call numbers for `should_cancel`, whose answers may change
from call to call, and a fold step for `visit`, whose effect is on the caller's accumulator.
-/

namespace Librarian.Core

open Librarian.Format

/-- A stable, random identifier with no embedded timestamp or semantic value. -/
abbrev RecordId : Type := Bytes 16

/-- One opaque `SQLite` record row presented to the cryptographic core. -/
structure EncryptedRecord where
  id : RecordId
  envelope : List UInt8
  deriving DecidableEq

/-- The stored bytes that an operation is handed: the header, the manifest envelope and the rows. -/
structure Snapshot where
  header : List UInt8
  manifest_envelope : List UInt8
  records : List EncryptedRecord
  deriving DecidableEq

/-- The only reusable plaintext root-key state for an unlocked vault. -/
structure UnlockedVault where
  vault_root_key : Bytes 32
  header : VaultHeader
  manifest : Manifest
  deriving DecidableEq

/-- Decrypted website-account result owned by the trusted agent. -/
@[ext]
structure WebsiteAccount where
  id : RecordId
  revision : UInt64
  created_at_ms : UInt64
  modified_at_ms : UInt64
  service_name : String
  permitted_origin : String
  username : String
  password : String
  deriving DecidableEq

/-- A decrypted passkey record. -/
@[ext]
structure PasskeyRecord where
  id : RecordId
  revision : UInt64
  created_at_ms : UInt64
  signature_counter : UInt32
  creation_state : PasskeyCreationState
  rp_id : String
  user_handle : List UInt8
  user_name : String
  user_display_name : String
  credential_id : Bytes 32
  private_key : Bytes 32
  deriving DecidableEq

/-- The record families, decrypted. -/
inductive DecryptedRecord
  | websiteAccount (account : WebsiteAccount)
  | passkey (passkey : PasskeyRecord)
  deriving DecidableEq

/-- The website account that a record is, if it is one. -/
def DecryptedRecord.account? : DecryptedRecord → Option WebsiteAccount
  | .websiteAccount record => some record
  | .passkey _ => none

/-- The passkey that a record is, if it is one. -/
def DecryptedRecord.passkey? : DecryptedRecord → Option PasskeyRecord
  | .websiteAccount _ => none
  | .passkey record => some record

/-- Deliberately small public result classes for record operations. -/
inductive RecordOperationError
  | notFound
  | conflict
  | cancelled
  | failed
  deriving DecidableEq, Repr

/-- Why the authentication of a snapshot stopped. -/
inductive SnapshotAuthenticationError
  | cancelled
  | failed
  deriving DecidableEq, Repr

/-- `map_snapshot_operation_error`. -/
def mapSnapshotOperationError : SnapshotAuthenticationError → RecordOperationError
  | .cancelled => .cancelled
  | .failed => .failed

section

variable (P : Primitives) (vault : UnlockedVault)

/-! ## Decryption -/

/-- `derive_record_key`. -/
def deriveRecordKey (record_id : RecordId) : Option (Bytes 32) :=
  deriveKey P vault.vault_root_key.val vault.header.vault_id
    (Utf8.encode "librarian/vault/v1/record/" ++ record_id.val ++
      BigEndian.encode 4 vault.header.key_epoch.toNat)

/-- `decrypt_manifest`. -/
def decryptManifest (envelope_bytes : List UInt8) : Except RecordOperationError Manifest := do
  let envelope ← (ManifestEnvelope.decode envelope_bytes).mapErr fun _ => .failed
  let manifest_key ←
    (deriveManifestKey P vault.vault_root_key vault.header.vault_id
      vault.header.key_epoch).okOr .failed
  let aad := encodeManifestAad vault.header envelope.nonce
  let plaintext ←
    (decryptBytes P manifest_key envelope.nonce envelope.ciphertext aad).okOr .failed
  (Manifest.decode plaintext).mapErr fun _ => .failed

/-- `decrypt_website_account_plaintext`. -/
def decryptWebsiteAccountPlaintext (id : RecordId) (plaintext : List UInt8) :
    Except SnapshotAuthenticationError DecryptedRecord := do
  let decoded ← (WebsiteAccountPlaintext.decode plaintext).mapErr fun _ => .failed
  let normalized ← (normalizeOrigin P decoded.permitted_origin).mapErr fun _ => .failed
  if normalized ≠ decoded.permitted_origin then throw .failed
  return .websiteAccount
    { id := id
      revision := decoded.revision
      created_at_ms := decoded.created_at_ms
      modified_at_ms := decoded.modified_at_ms
      service_name := decoded.service_name
      permitted_origin := decoded.permitted_origin
      username := decoded.username
      password := decoded.password }

/-- `decrypt_passkey_plaintext`. -/
def decryptPasskeyPlaintext (id : RecordId) (plaintext : List UInt8) :
    Except SnapshotAuthenticationError DecryptedRecord := do
  let decoded ← (PasskeyPlaintext.decode plaintext).mapErr fun _ => .failed
  let normalized ← (normalizeRpId P decoded.rp_id).mapErr fun _ => .failed
  if normalized ≠ decoded.rp_id then throw .failed
  if ¬P.signingKey decoded.private_key then throw .failed
  return .passkey
    { id := id
      revision := decoded.revision
      created_at_ms := decoded.created_at_ms
      signature_counter := decoded.signature_counter
      creation_state := decoded.creation_state
      rp_id := decoded.rp_id
      user_handle := decoded.user_handle
      user_name := decoded.user_name
      user_display_name := decoded.user_display_name
      credential_id := decoded.credential_id
      private_key := decoded.private_key }

/-- `decrypt_record`. -/
def decryptRecord (record : EncryptedRecord) :
    Except SnapshotAuthenticationError DecryptedRecord := do
  let envelope ← (RecordEnvelope.decode record.envelope).mapErr fun _ => .failed
  if envelope.key_epoch ≠ vault.header.key_epoch then throw .failed
  let record_key ← (deriveRecordKey P vault record.id).okOr .failed
  let aad := encodeRecordAad vault.header.vault_id record.id vault.header.key_epoch
  let plaintext ← (decryptBytes P record_key envelope.nonce envelope.ciphertext aad).okOr .failed
  match ← (recordType plaintext).mapErr fun _ => .failed with
  | .websiteAccount => decryptWebsiteAccountPlaintext P record.id plaintext
  | .passkey => decryptPasskeyPlaintext P record.id plaintext

/-! ## Authentication -/

/-- `authenticate_snapshot_metadata`. -/
def authenticateSnapshotMetadata (header_bytes manifest_envelope_bytes : List UInt8) :
    Except RecordOperationError Unit := do
  let header ← (VaultHeader.decode header_bytes).mapErr fun _ => .failed
  if header ≠ vault.header then throw .failed
  let manifest ← decryptManifest P vault manifest_envelope_bytes
  if manifest ≠ vault.manifest then throw .failed

/-- The loop of `visit_authenticated_records`, from its `i`-th call of `should_cancel` on. -/
def visitLoop {σ : Type} (should_cancel : ℕ → Bool) (visit : σ → DecryptedRecord → σ) :
    ℕ → List (EncryptedRecord × ManifestEntry) → σ → Except SnapshotAuthenticationError σ
  | _, [], s => .ok s
  | i, (record, commitment) :: rest, s => do
    if should_cancel i then throw .cancelled
    if record.id ≠ commitment.record_id ∨
        P.sha256 record.envelope ≠ commitment.envelope_digest then
      throw .failed
    let decrypted ← decryptRecord P vault record
    visitLoop should_cancel visit (i + 1) rest (visit s decrypted)

/-- `visit_authenticated_records`. -/
def visitAuthenticatedRecords {σ : Type} (records : List EncryptedRecord)
    (should_cancel : ℕ → Bool) (visit : σ → DecryptedRecord → σ) (s : σ) :
    Except SnapshotAuthenticationError σ := do
  if records.length ≠ vault.manifest.entries.length ∨ records.length > maxRecords then
    throw .failed
  if (Keyed.windows2 records).any (fun pair => pair.1.id ≥ pair.2.id) then throw .failed
  visitLoop P vault should_cancel visit 0 (records.zip vault.manifest.entries) s

/-- The two halves of an operation's authentication, with the error that operations report. -/
def visitSnapshot {σ : Type} (snapshot : Snapshot) (should_cancel : ℕ → Bool)
    (visit : σ → DecryptedRecord → σ) (s : σ) : Except RecordOperationError σ := do
  authenticateSnapshotMetadata P vault snapshot.header snapshot.manifest_envelope
  (visitAuthenticatedRecords P vault snapshot.records should_cancel visit s).mapErr
    mapSnapshotOperationError

/-! ## What authentication means -/

/-- The commitment to a row: its id and the digest of its envelope. -/
def commitment (record : EncryptedRecord) : ManifestEntry :=
  ⟨record.id, P.sha256 record.envelope⟩

/-- A snapshot is authentic for a session, with the given decrypted records: its header is the
session's, its manifest envelope decrypts to the session's manifest, and its rows are, in order, the
rows that the manifest commits to, each of which decrypts. -/
structure Authentic (snapshot : Snapshot) (decrypted : List DecryptedRecord) : Prop where
  header : VaultHeader.decode snapshot.header = .ok vault.header
  manifest : decryptManifest P vault snapshot.manifest_envelope = .ok vault.manifest
  rows : snapshot.records.map (commitment P) = vault.manifest.entries
  decrypts : List.Forall₂ (fun record result => decryptRecord P vault record = .ok result)
    snapshot.records decrypted

variable {P vault}

/-- A manifest that has been decrypted is valid. -/
theorem validateManifest_of_decryptManifest {bytes : List UInt8} {manifest : Manifest}
    (h : decryptManifest P vault bytes = .ok manifest) : validateManifest manifest = .ok () := by
  simp only [decryptManifest, Except.bind_eq_ok, Except.mapErr_eq_ok] at h
  obtain ⟨envelope, -, key, -, plaintext, -, hdecode⟩ := h
  exact (Manifest.encode_eq_ok.mp (Manifest.encode_of_decode hdecode)).1

theorem authenticateSnapshotMetadata_eq_ok {header manifest_envelope : List UInt8} :
    authenticateSnapshotMetadata P vault header manifest_envelope = .ok () ↔
      VaultHeader.decode header = .ok vault.header ∧
      decryptManifest P vault manifest_envelope = .ok vault.manifest := by
  simp only [authenticateSnapshotMetadata, Except.throw_eq, Except.error_bind, Except.pure_eq,
    Except.bind_eq_ok, Except.mapErr_eq_ok, Except.ite_error_eq_ok, not_not, and_true]
  constructor
  · rintro ⟨_, hheader, rfl, _, hmanifest, rfl⟩
    exact ⟨hheader, hmanifest⟩
  · rintro ⟨hheader, hmanifest⟩
    exact ⟨_, hheader, rfl, _, hmanifest, rfl⟩

/-- A manifest is rejected with `Failed` only. -/
theorem decryptManifest_error {bytes : List UInt8} {e : RecordOperationError}
    (h : decryptManifest P vault bytes = .error e) : e = .failed := by
  simp only [decryptManifest, Except.bind_eq_error, Except.mapErr_eq_error,
    Option.okOr_eq_error] at h
  obtain ⟨_, -, rfl⟩ | ⟨_, -, ⟨-, rfl⟩ | ⟨_, -, ⟨-, rfl⟩ | ⟨_, -, _, -, rfl⟩⟩⟩ := h <;> rfl

/-- The metadata is rejected with `Failed` only. -/
theorem authenticateSnapshotMetadata_error {header manifest_envelope : List UInt8}
    {e : RecordOperationError}
    (h : authenticateSnapshotMetadata P vault header manifest_envelope = .error e) :
    e = .failed := by
  simp only [authenticateSnapshotMetadata, Except.throw_eq, Except.error_bind, Except.pure_eq,
    Except.bind_eq_error, Except.mapErr_eq_error, Except.ite_error_eq_error, reduceCtorEq,
    and_false, or_false] at h
  obtain ⟨_, -, rfl⟩ | ⟨_, -, ⟨-, rfl⟩ | ⟨-, hmanifest | ⟨_, -, -, rfl⟩⟩⟩ := h
  · rfl
  · rfl
  · exact decryptManifest_error hmanifest
  · rfl

/-- The loop succeeds when it is not cancelled and every row matches its entry and decrypts; the
accumulator is then the fold of `visit` over the decrypted records. -/
theorem visitLoop_eq_ok {σ : Type} {should_cancel : ℕ → Bool} {visit : σ → DecryptedRecord → σ}
    {i : ℕ} {records : List EncryptedRecord} {entries : List ManifestEntry}
    (hlength : records.length = entries.length) {s s' : σ} :
    visitLoop P vault should_cancel visit i (records.zip entries) s = .ok s' ↔
      (∀ j < records.length, should_cancel (i + j) = false) ∧
      records.map (commitment P) = entries ∧
      ∃ decrypted, List.Forall₂ (fun record result => decryptRecord P vault record = .ok result)
        records decrypted ∧ decrypted.foldl visit s = s' := by
  induction records generalizing i entries s with
  | nil =>
    obtain rfl := List.length_eq_zero_iff.mp hlength.symm
    simp [visitLoop]
  | cons record records ih =>
    obtain ⟨entry, entries, rfl⟩ := List.exists_cons_of_length_eq_add_one hlength.symm
    simp only [List.length_cons, Nat.add_right_cancel_iff] at hlength
    simp only [List.zip_cons_cons, visitLoop, Except.throw_eq, Except.error_bind,
      Except.ite_error_eq_ok, Except.bind_eq_ok, ih hlength, not_or, not_not,
      Bool.not_eq_true, List.map_cons, List.cons.injEq, commitment]
    constructor
    · rintro ⟨hcancel, ⟨hid, hdigest⟩, result, hresult, hcancels, hentries, rest, hrest, hfold⟩
      refine ⟨?_, ⟨by rw [hid, hdigest], hentries⟩, result :: rest, .cons hresult hrest, hfold⟩
      intro j hj
      cases j with
      | zero => exact hcancel
      | succ j =>
        have := hcancels j (by simpa using hj)
        rwa [Nat.add_assoc, Nat.add_comm 1] at this
    · rintro ⟨hcancels, ⟨rfl, hentries⟩, decrypted, hdecrypts, hfold⟩
      cases hdecrypts with
      | cons hresult hrest =>
        refine ⟨hcancels 0 (by simp), ⟨rfl, rfl⟩, _, hresult, ?_, hentries, _, hrest, hfold⟩
        intro j hj
        have := hcancels (j + 1) (by simpa using hj)
        rwa [← Nat.add_assoc, Nat.add_right_comm] at this

/-- `visit_authenticated_records` succeeds, for a valid manifest, when it is not cancelled and the
rows are those that the manifest commits to and decrypt. The checks that come before the loop follow
from that. -/
theorem visitAuthenticatedRecords_eq_ok {σ : Type} {should_cancel : ℕ → Bool}
    {visit : σ → DecryptedRecord → σ} {records : List EncryptedRecord} {s s' : σ}
    (hvalid : validateManifest vault.manifest = .ok ()) :
    visitAuthenticatedRecords P vault records should_cancel visit s = .ok s' ↔
      (∀ j < records.length, should_cancel j = false) ∧
      records.map (commitment P) = vault.manifest.entries ∧
      ∃ decrypted, List.Forall₂ (fun record result => decryptRecord P vault record = .ok result)
        records decrypted ∧ decrypted.foldl visit s = s' := by
  obtain ⟨-, -, -, hmax, hascending⟩ := validateManifest_eq_ok.mp hvalid
  simp only [visitAuthenticatedRecords, Except.throw_eq, Except.error_bind,
    Except.ite_error_eq_ok, not_or, not_not, not_lt, gt_iff_lt, Bool.not_eq_true,
    Keyed.windows2_any_eq_false]
  constructor
  · rintro ⟨⟨hlength, -⟩, -, hloop⟩
    simpa using (visitLoop_eq_ok hlength).mp hloop
  · intro h
    have hlength : records.length = vault.manifest.entries.length := by
      rw [← h.2.1, List.length_map]
    have hrows : Keyed.Ascending EncryptedRecord.id records := by
      rw [← h.2.1, Keyed.ascending_iff_map, List.map_map] at hascending
      rw [Keyed.ascending_iff_map]
      exact hascending
    exact ⟨⟨hlength, by rwa [hlength]⟩, hrows, (visitLoop_eq_ok hlength).mpr (by simpa using h)⟩

/-- An operation's authentication succeeds exactly on authentic snapshots, unless it is cancelled;
the accumulator is then the fold over the decrypted records. -/
theorem visitSnapshot_eq_ok {σ : Type} {snapshot : Snapshot} {should_cancel : ℕ → Bool}
    {visit : σ → DecryptedRecord → σ} {s s' : σ} :
    visitSnapshot P vault snapshot should_cancel visit s = .ok s' ↔
      (∀ j < snapshot.records.length, should_cancel j = false) ∧
      ∃ decrypted, Authentic P vault snapshot decrypted ∧ decrypted.foldl visit s = s' := by
  simp only [visitSnapshot, Except.bind_eq_ok, Except.exists_unit_eq,
    authenticateSnapshotMetadata_eq_ok, Except.mapErr_eq_ok]
  constructor
  · rintro ⟨⟨hheader, hmanifest⟩, hvisit⟩
    have hvalid := validateManifest_of_decryptManifest hmanifest
    obtain ⟨hcancel, hrows, decrypted, hdecrypts, hfold⟩ :=
      (visitAuthenticatedRecords_eq_ok hvalid).mp hvisit
    exact ⟨hcancel, decrypted, ⟨hheader, hmanifest, hrows, hdecrypts⟩, hfold⟩
  · rintro ⟨hcancel, decrypted, hauthentic, hfold⟩
    have hvalid := validateManifest_of_decryptManifest hauthentic.manifest
    exact ⟨⟨hauthentic.header, hauthentic.manifest⟩, (visitAuthenticatedRecords_eq_ok hvalid).mpr
      ⟨hcancel, hauthentic.rows, decrypted, hauthentic.decrypts, hfold⟩⟩

/-- An operation's authentication fails with `Failed` or `Cancelled` only. -/
theorem visitSnapshot_error {σ : Type} {snapshot : Snapshot} {should_cancel : ℕ → Bool}
    {visit : σ → DecryptedRecord → σ} {s : σ} {e : RecordOperationError}
    (h : visitSnapshot P vault snapshot should_cancel visit s = .error e) :
    e = .failed ∨ e = .cancelled := by
  simp only [visitSnapshot, Except.bind_eq_error, Except.mapErr_eq_error] at h
  obtain hmetadata | ⟨-, -, e', -, rfl⟩ := h
  · exact .inl (authenticateSnapshotMetadata_error hmetadata)
  · cases e' with
    | cancelled => exact .inr rfl
    | failed => exact .inl rfl

end

end Librarian.Core
