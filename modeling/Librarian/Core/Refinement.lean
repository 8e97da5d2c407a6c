import Librarian.Core.Sealing

/-!
# The stored vault refines the map

`Represents` relates a stored vault to the abstract map: the header and the manifest authenticate
against the session, the manifest commits to the rows, and each row opens to the record that the map
has under its id. Two lemmas carry it through a commit, one for a mutation that stores a record and
one for a mutation that removes one; the seven mutations are cases of these two.
-/

namespace Librarian.Core

open Librarian.Format

section

variable (P : Primitives) (password : MasterPassword)

/-- The password unwraps the session's root key from its header. -/
def Unwraps (vault : UnlockedVault) : Prop :=
  ∃ password_key master_kek,
    derivePasswordKey P password.bytes vault.header.master_wrapper.password_salt =
      some password_key ∧
    deriveMasterKek P password_key vault.header.vault_id = some master_kek ∧
    decryptFixedKey P master_kek vault.header.master_wrapper.nonce
      vault.header.master_wrapper.wrapped_vrk
      (encodeMasterWrapperAad vault.header.vault_id vault.header.key_epoch
        vault.header.master_wrapper.password_salt) = some vault.vault_root_key

/-- The rows hold the records of the map. -/
structure Holds (vault : UnlockedVault) (rows : List EncryptedRecord) (V : VaultMap) : Prop where
  /-- Each row opens to the record under its id. -/
  row : ∀ row ∈ rows, ∃ record plaintext, V.records row.id = some record ∧
    Stored P record plaintext ∧ Opens P vault row plaintext
  /-- Each record has a row. -/
  complete : ∀ id record, V.records id = some record → ∃ row ∈ rows, row.id = id

/-- What holds of every reachable map: its times are in order, no two passkeys have the same
credential id, and there is room for the passkeys of a listing. -/
structure VaultMap.WellFormed (V : VaultMap) (ids : List RecordId) : Prop where
  times : ∀ id record, V.records id = some record →
    record.created_at_ms ≤ record.modified_at_ms ∧ record.modified_at_ms ≤ V.committed_at_ms
  credentials : ∀ id id' record record' passkey passkey', V.HasPasskey id record passkey →
    V.HasPasskey id' record' passkey' → passkey.credential_id = passkey'.credential_id → id = id'
  capacity : ids.countP V.isPasskey ≤ maxPasskeyCredentials

/-- The stored vault represents the map. -/
structure Represents (vault : StoredVault) (V : VaultMap) : Prop where
  header : vault.session.header.encode = .ok vault.snapshot.header
  unwraps : Unwraps P password vault.session
  epoch : vault.session.manifest.key_epoch = vault.session.header.key_epoch
  manifest : decryptManifest P vault.session vault.snapshot.manifest_envelope =
    .ok vault.session.manifest
  rows : vault.snapshot.records.map (commitment P) = vault.session.manifest.entries
  holds : Holds P vault.session vault.snapshot.records V
  committed : vault.session.manifest.committed_at_ms = V.committed_at_ms
  wellFormed : V.WellFormed (vault.snapshot.records.map EncryptedRecord.id)

variable {P password}

/-! ## What a represented vault gives -/

namespace Represents

variable {vault : StoredVault} {V : VaultMap} (h : Represents P password vault V)
include h

theorem valid : validateManifest vault.session.manifest = .ok () :=
  validateManifest_of_decryptManifest h.manifest

theorem ascending : Keyed.Ascending EncryptedRecord.id vault.snapshot.records := by
  obtain ⟨-, -, -, -, hascending⟩ := validateManifest_eq_ok.mp h.valid
  rw [← h.rows, Keyed.ascending_iff_map, List.map_map] at hascending
  rw [Keyed.ascending_iff_map]
  exact hascending

/-- The rows decrypt, each to what the reader returns for its record. -/
theorem exists_decrypted : ∃ decrypted, Authentic P vault.session vault.snapshot decrypted ∧
    List.Forall₂ (fun row result => ∃ record, V.records row.id = some record ∧
      Decrypted row.id record result) vault.snapshot.records decrypted := by
  have hrow : ∀ row ∈ vault.snapshot.records, ∃ result,
      decryptRecord P vault.session row = .ok result ∧
      ∃ record, V.records row.id = some record ∧ Decrypted row.id record result := by
    intro row hmem
    obtain ⟨record, plaintext, hrecord, hstored, hopens⟩ := h.holds.row row hmem
    obtain ⟨result, hdecrypt, hresult⟩ := decryptRecord_of_stored hopens hstored
    exact ⟨result, hdecrypt, record, hrecord, hresult⟩
  have hlist : ∀ rows : List EncryptedRecord, (∀ row ∈ rows, row ∈ vault.snapshot.records) →
      ∃ decrypted, List.Forall₂ (fun row result => decryptRecord P vault.session row = .ok result ∧
        ∃ record, V.records row.id = some record ∧ Decrypted row.id record result) rows
          decrypted := by
    intro rows hrows
    induction rows with
    | nil => exact ⟨[], .nil⟩
    | cons row rows ih =>
      obtain ⟨result, hresult⟩ := hrow row (hrows row List.mem_cons_self)
      obtain ⟨rest, hrest⟩ := ih fun row hmem => hrows row (List.mem_cons_of_mem _ hmem)
      exact ⟨result :: rest, .cons hresult hrest⟩
  obtain ⟨decrypted, hboth⟩ := hlist vault.snapshot.records fun _ hmem => hmem
  exact ⟨decrypted, ⟨VaultHeader.decode_encode h.header, h.manifest, h.rows,
    hboth.imp fun _ _ hresult => hresult.1⟩, hboth.imp fun _ _ hresult => hresult.2⟩

/-- A record's row. -/
theorem exists_row {id : RecordId} {record : Record} (hrecord : V.records id = some record) :
    ∃ row ∈ vault.snapshot.records, row.id = id := h.holds.complete id record hrecord

/-- The ids without a row are those that the map does not have. -/
theorem records_eq_none {id : RecordId}
    (hid : ∀ row ∈ vault.snapshot.records, row.id ≠ id) : V.records id = none := by
  cases hrecord : V.records id with
  | none => rfl
  | some record =>
    obtain ⟨row, hmem, rfl⟩ := h.exists_row hrecord
    exact absurd rfl (hid row hmem)

end Represents

/-! ## Committing a mutation -/

/-- A mutation that the session has prepared can be committed to it. -/
theorem commitRecordMutation_of_spec {vault : UnlockedVault} {kind : RecordMutationKind}
    {id : RecordId} {envelope : Option (List UInt8)} {entries : List ManifestEntry}
    {now : UInt64} {mutation : PreparedRecordMutation}
    (hspec : ManifestMutationSpec P vault kind id envelope entries now mutation) :
    commitRecordMutation vault mutation =
      .ok ({ vault with manifest := mutation.next_manifest }, mutation.id) := by
  obtain ⟨-, generation, hgeneration, hnext, -⟩ := Manifest.nextGeneration_eq_ok.mp hspec.next
  have hfinal : mutation.next_manifest.generation = generation := by rw [hnext]
  simp [commitRecordMutation, hspec.generation, hgeneration, hfinal]

/-- The rows after a mutation that stores a record are the new row and those with other ids. -/
structure UpsertRows (kind : RecordMutationKind) (row : EncryptedRecord)
    (rows rows' : List EncryptedRecord) : Prop where
  mem : ∀ a, a ∈ rows' ↔ a = row ∨ a ∈ rows ∧ a.id ≠ row.id
  ids : (rows'.map EncryptedRecord.id).Perm
    (if kind = .insert then rows.map EncryptedRecord.id ++ [row.id] else
      rows.map EncryptedRecord.id)

/-- The rows and the manifest's entries are updated in step when a record is stored. -/
theorem applyToExpectedRecords_upsert {rows : List EncryptedRecord} {kind : RecordMutationKind}
    {mutation : PreparedRecordMutation} {envelope : List UInt8} {entries : List ManifestEntry}
    (hascending : Keyed.Ascending EncryptedRecord.id rows) (hkind : mutation.kind = kind)
    (henvelope : mutation.envelope = some envelope)
    (hfresh : kind = .insert → ∀ row ∈ rows, row.id ≠ mutation.id)
    (hentries : upsertEntries kind (commitment P ⟨mutation.id, envelope⟩)
      (rows.map (commitment P)) = .ok entries) :
    ∃ rows', applyToExpectedRecords rows mutation = .ok rows' ∧
      rows'.map (commitment P) = Keyed.sortByKey ManifestEntry.record_id entries ∧
      UpsertRows kind ⟨mutation.id, envelope⟩ rows rows' := by
  have hkey : ∀ row, (commitment P row).record_id = row.id := fun _ => rfl
  cases kind with
  | insert =>
    simp only [upsertEntries, Except.ok.injEq] at hentries
    subst hentries
    refine ⟨Keyed.sortByKey EncryptedRecord.id (rows ++ [⟨mutation.id, envelope⟩]), ?_, ?_, ?_, ?_⟩
    · simp [applyToExpectedRecords, hkind, henvelope]
    · rw [← Keyed.map_sortByKey hkey, List.map_append]
      rfl
    · intro a
      simp only [Keyed.mem_sortByKey, List.mem_append, List.mem_singleton]
      constructor
      · rintro (ha | rfl)
        · exact .inr ⟨ha, hfresh rfl a ha⟩
        · exact .inl rfl
      · rintro (rfl | ⟨ha, -⟩)
        · exact .inr rfl
        · exact .inl ha
    · rw [if_pos rfl, ← List.map_singleton (f := EncryptedRecord.id), ← List.map_append]
      exact (List.perm_insertionSort _ _).map _
  | update =>
    simp only [upsertEntries, Option.okOr_eq_ok, Keyed.map_replaceFirst hkey,
      Option.map_eq_some_iff] at hentries
    obtain ⟨rows', hrows', rfl⟩ := hentries
    have hascending' := hascending.replaceFirst hrows'
    refine ⟨rows', ?_, ?_, ?_, ?_⟩
    · simp [applyToExpectedRecords, hkind, henvelope, hrows', hascending'.sortByKey_eq]
    · rw [Keyed.map_sortByKey hkey, hascending'.sortByKey_eq]
    · exact fun a => hascending.mem_replaceFirst hrows'
    · rw [if_neg (by simp), Keyed.map_key_replaceFirst hrows']
  | delete => simp [upsertEntries] at hentries

/-- Storing a record stores it in the map. -/
theorem Holds.upsert {vault : UnlockedVault} {rows rows' : List EncryptedRecord} {V : VaultMap}
    (h : Holds P vault rows V) {kind : RecordMutationKind} {row : EncryptedRecord}
    (hrows : UpsertRows kind row rows rows') {record : Record} {plaintext : List UInt8}
    (hstored : Stored P record plaintext) (hopens : Opens P vault row plaintext) (now : UInt64) :
    Holds P vault rows' (V.set row.id (some record) now) where
  row := by
    intro a ha
    rcases (hrows.mem a).mp ha with rfl | ⟨ha, hne⟩
    · exact ⟨record, plaintext, V.set_records_self _ _ _, hstored, hopens⟩
    · rw [V.set_records_of_ne hne]
      exact h.row a ha
  complete := by
    intro id record' hrecord
    by_cases hid : id = row.id
    · exact ⟨row, (hrows.mem row).mpr (.inl rfl), hid.symm⟩
    · rw [V.set_records_of_ne hid] at hrecord
      obtain ⟨a, ha, rfl⟩ := h.complete id record' hrecord
      exact ⟨a, (hrows.mem a).mpr (.inr ⟨ha, hid⟩), rfl⟩

/-- A session that differs in its manifest only opens the same rows. -/
theorem Holds.of_manifest {vault : UnlockedVault} {rows : List EncryptedRecord} {V : VaultMap}
    (h : Holds P vault rows V) (manifest : Manifest) :
    Holds P { vault with manifest := manifest } rows V :=
  ⟨h.row, h.complete⟩

/-- A manifest mutation keeps what the rows are not part of: the header, the wrapper, and the
manifest that authenticates. -/
theorem Represents.of_spec (hP : Lawful P) {vault : StoredVault} {V V' : VaultMap}
    (h : Represents P password vault V) {kind : RecordMutationKind} {id : RecordId}
    {envelope : Option (List UInt8)} {entries : List ManifestEntry} {now : UInt64}
    {mutation : PreparedRecordMutation}
    (hspec : ManifestMutationSpec P vault.session kind id envelope entries now mutation)
    {rows' : List EncryptedRecord} (hrows : rows'.map (commitment P) = entries)
    (happly : applyToExpectedRecords vault.snapshot.records mutation = .ok rows')
    (hholds : Holds P vault.session rows' V') (hcommitted : V'.committed_at_ms = now)
    (hwellFormed : V'.WellFormed (rows'.map EncryptedRecord.id)) :
    ∃ vault', vault.commit mutation = some vault' ∧ Represents P password vault' V' := by
  obtain ⟨-, generation, -, hnext, -⟩ := Manifest.nextGeneration_eq_ok.mp hspec.next
  refine ⟨⟨{ vault.session with manifest := mutation.next_manifest },
    ⟨vault.snapshot.header, mutation.manifest_envelope, rows'⟩⟩, ?_, ?_⟩
  · simp only [StoredVault.commit, happly, commitRecordMutation_of_spec hspec]
  · exact {
      header := h.header
      unwraps := h.unwraps
      epoch := by rw [hnext]; exact h.epoch
      manifest := hspec.sealed.decryptManifest hP rfl rfl
      rows := by rw [hnext]; exact hrows
      holds := hholds.of_manifest _
      committed := by rw [hcommitted, hnext]
      wellFormed := hwellFormed }

/-- The commit time of a prepared mutation is not earlier than the vault's. -/
theorem Represents.committed_le {vault : StoredVault} {V : VaultMap}
    (h : Represents P password vault V) {kind : RecordMutationKind} {id : RecordId}
    {envelope : Option (List UInt8)} {entries : List ManifestEntry} {now : UInt64}
    {mutation : PreparedRecordMutation}
    (hspec : ManifestMutationSpec P vault.session kind id envelope entries now mutation) :
    V.committed_at_ms ≤ now := by
  rw [← h.committed]
  exact (Manifest.nextGeneration_eq_ok.mp hspec.next).1

/-- A mutation that stores a record. -/
theorem Represents.upsert (hP : Lawful P) {vault : StoredVault} {V : VaultMap}
    (h : Represents P password vault V) {kind : RecordMutationKind} {id : RecordId}
    {plaintext : List UInt8} {now : UInt64} {mutation : PreparedRecordMutation}
    (hspec : UpsertSpec P vault.session kind id plaintext now mutation)
    (hfresh : kind = .insert → ∀ row ∈ vault.snapshot.records, row.id ≠ id) {record : Record}
    (hstored : Stored P record plaintext)
    (hwellFormed : V.committed_at_ms ≤ now → ∀ ids,
      ids.Perm (if kind = .insert then vault.snapshot.records.map EncryptedRecord.id ++ [id] else
        vault.snapshot.records.map EncryptedRecord.id) →
      (V.set id (some record) now).WellFormed ids) :
    ∃ vault', vault.commit mutation = some vault' ∧
      Represents P password vault' (V.set id (some record) now) := by
  obtain ⟨envelope, entries, hseals, hentries, hmutation⟩ := hspec
  obtain rfl := hmutation.id
  rw [← h.rows] at hentries
  obtain ⟨rows', happly, hrows', hupsert⟩ := applyToExpectedRecords_upsert h.ascending
    hmutation.kind hmutation.envelope hfresh hentries
  exact h.of_spec hP hmutation hrows' happly
    (h.holds.upsert hupsert hstored (hseals.opens hP) now) rfl
    (hwellFormed (h.committed_le hmutation) _ hupsert.ids)

/-- A mutation that removes a record. -/
theorem Represents.delete (hP : Lawful P) {vault : StoredVault} {V : VaultMap}
    (h : Represents P password vault V) {id : RecordId} {now : UInt64}
    {mutation : PreparedRecordMutation}
    (hspec : ManifestMutationSpec P vault.session .delete id none
      (Keyed.eraseKey ManifestEntry.record_id id vault.session.manifest.entries) now mutation)
    (hpresent : ∃ record, V.records id = some record)
    (hwellFormed : V.committed_at_ms ≤ now → ∀ ids,
      ids.Sublist (vault.snapshot.records.map EncryptedRecord.id) → id ∉ ids →
      (V.set id none now).WellFormed ids) :
    ∃ vault', vault.commit mutation = some vault' ∧
      Represents P password vault' (V.set id none now) := by
  obtain ⟨record, hrecord⟩ := hpresent
  obtain ⟨row, hmem, hrow⟩ := h.exists_row hrecord
  have hkey : ∀ row, (commitment P row).record_id = row.id := fun _ => rfl
  rw [← h.rows, Keyed.map_eraseKey hkey] at hspec
  have hascending := h.ascending.eraseKey id
  have hshorter : (Keyed.eraseKey EncryptedRecord.id id vault.snapshot.records).length ≠
      vault.snapshot.records.length := (Keyed.eraseKey_length_lt ⟨row, hmem, hrow⟩).ne
  have happly : applyToExpectedRecords vault.snapshot.records mutation =
      .ok (Keyed.eraseKey EncryptedRecord.id id vault.snapshot.records) := by
    simp [applyToExpectedRecords, hspec.kind, hspec.id, hshorter, hascending.sortByKey_eq]
  refine h.of_spec hP hspec rfl happly ?_ rfl
    (hwellFormed (h.committed_le hspec) _ (List.filter_sublist.map _) (by simp))
  constructor
  · intro a ha
    obtain ⟨ha, hne⟩ := Keyed.mem_eraseKey.mp ha
    rw [V.set_records_of_ne hne]
    exact h.holds.row a ha
  · intro id' record' hrecord'
    by_cases hid : id' = id
    · simp [hid] at hrecord'
    · rw [V.set_records_of_ne hid] at hrecord'
      obtain ⟨a, ha, rfl⟩ := h.exists_row hrecord'
      exact ⟨a, Keyed.mem_eraseKey.mpr ⟨ha, hid⟩, rfl⟩

end

end Librarian.Core
