import Librarian.Core.VaultMap

/-!
# What the writers seal and the readers open

The specifications of the two functions that every mutation ends in, `prepare_manifest_mutation` and
`prepare_plaintext_upsert`, and the fact that carries the refinement: under a cipher whose
decryption undoes encryption, the readers open what the writers have sealed. A record's plaintext
passes the reader's checks when it is `Stored`, which is what a mutation has to establish.
-/

namespace Librarian.Core

open Librarian.Format

/-- What the development assumes of the primitives: decryption undoes encryption under the same
key, nonce and associated data, and normalising a normalised origin changes nothing. -/
structure Lawful (P : Primitives) : Prop where
  decrypt_encrypt : ∀ key nonce plaintext aad ciphertext,
    P.encrypt key nonce plaintext aad = some ciphertext →
      P.decrypt key nonce ciphertext aad = some plaintext
  normalizeOrigin_idem : ∀ value origin,
    normalizeOrigin P value = .ok origin → normalizeOrigin P origin = .ok origin

section

variable (P : Primitives) (vault : UnlockedVault)

/-- The bytes are a manifest envelope that seals the manifest. -/
def SealsManifest (bytes : List UInt8) (manifest : Manifest) : Prop :=
  ∃ key nonce plaintext ciphertext,
    manifest.encode = .ok plaintext ∧
    deriveManifestKey P vault.vault_root_key vault.header.vault_id vault.header.key_epoch =
      some key ∧
    P.encrypt key nonce plaintext (encodeManifestAad vault.header nonce) = some ciphertext ∧
    (⟨nonce, ciphertext⟩ : ManifestEnvelope).encode = .ok bytes

/-- The bytes are a record envelope that seals the plaintext for the record id. -/
def SealsRecord (id : RecordId) (bytes plaintext : List UInt8) : Prop :=
  ∃ key nonce ciphertext,
    deriveRecordKey P vault id = some key ∧
    P.encrypt key nonce plaintext
      (encodeRecordAad vault.header.vault_id id vault.header.key_epoch) = some ciphertext ∧
    (⟨vault.header.key_epoch, nonce, ciphertext⟩ : RecordEnvelope).encode = .ok bytes

/-- The row's envelope opens to the plaintext. It depends on the session's root key and header
only. -/
def Opens (row : EncryptedRecord) (plaintext : List UInt8) : Prop :=
  ∃ envelope key,
    RecordEnvelope.decode row.envelope = .ok envelope ∧
    envelope.key_epoch = vault.header.key_epoch ∧
    deriveRecordKey P vault row.id = some key ∧
    P.decrypt key envelope.nonce envelope.ciphertext
      (encodeRecordAad vault.header.vault_id row.id vault.header.key_epoch) = some plaintext

variable {P vault}

/-- A sealed manifest is decrypted, by any session with the same root key and header. -/
theorem SealsManifest.decryptManifest (hP : Lawful P) {bytes : List UInt8} {manifest : Manifest}
    (h : SealsManifest P vault bytes manifest) {vault' : UnlockedVault}
    (hkey : vault'.vault_root_key = vault.vault_root_key) (hheader : vault'.header = vault.header) :
    decryptManifest P vault' bytes = .ok manifest := by
  obtain ⟨key, nonce, plaintext, ciphertext, hplaintext, hderive, hencrypt, henvelope⟩ := h
  have hdecode := ManifestEnvelope.decode_encode henvelope
  have hdecrypt := hP.decrypt_encrypt _ _ _ _ _ hencrypt
  simp only [Core.decryptManifest, hdecode, hkey, hheader, hderive, decryptBytes, hdecrypt,
    Except.mapErr_ok, Except.ok_bind, Option.okOr_some, Manifest.decode_encode hplaintext]

/-- A sealed record opens. -/
theorem SealsRecord.opens (hP : Lawful P) {id : RecordId} {bytes plaintext : List UInt8}
    (h : SealsRecord P vault id bytes plaintext) : Opens P vault ⟨id, bytes⟩ plaintext := by
  obtain ⟨key, nonce, ciphertext, hderive, hencrypt, henvelope⟩ := h
  exact ⟨_, key, RecordEnvelope.decode_encode henvelope, rfl, hderive,
    hP.decrypt_encrypt _ _ _ _ _ hencrypt⟩

/-! ## Specifications of the writers -/

/-- What `prepare_manifest_mutation` returns. -/
structure ManifestMutationSpec (P : Primitives) (vault : UnlockedVault)
    (kind : RecordMutationKind) (id : RecordId) (envelope : Option (List UInt8))
    (entries : List ManifestEntry) (committed_at_ms : UInt64)
    (mutation : PreparedRecordMutation) : Prop where
  kind : mutation.kind = kind
  id : mutation.id = id
  envelope : mutation.envelope = envelope
  generation : mutation.expected_generation = vault.manifest.generation
  next : vault.manifest.nextGeneration committed_at_ms entries = .ok mutation.next_manifest
  sealed : SealsManifest P vault mutation.manifest_envelope mutation.next_manifest

theorem prepareManifestMutation_spec {kind : RecordMutationKind} {id : RecordId}
    {envelope : Option (List UInt8)} {entries : List ManifestEntry} {committed_at_ms : UInt64}
    {entropy rest : Entropy} {mutation : PreparedRecordMutation}
    (h : prepareManifestMutation P vault kind id envelope entries committed_at_ms entropy =
      .ok (mutation, rest)) :
    ManifestMutationSpec P vault kind id envelope entries committed_at_ms mutation := by
  simp only [prepareManifestMutation, Draw.lift_bind_apply, Draw.bind_eq_ok, Except.bind_eq_ok,
    Except.mapErr_eq_ok, Option.okOr_eq_ok, Draw.pure_apply, Except.ok.injEq, Prod.mk.injEq,
    encryptBytes] at h
  obtain ⟨next, hnext, plaintext, hplaintext, nonce, _, -, key, hkey, ciphertext, hencrypt,
    bytes, ⟨value, hnew, hbytes⟩, rfl, -⟩ := h
  obtain ⟨rfl, -⟩ := ManifestEnvelope.new_eq_ok.mp hnew
  exact ⟨rfl, rfl, rfl, rfl, hnext, key, nonce, plaintext, ciphertext, hplaintext, hkey, hencrypt,
    hbytes⟩

/-- What `prepare_plaintext_upsert` returns: a manifest mutation whose envelope seals the plaintext
and whose entries commit to the envelope. -/
def UpsertSpec (P : Primitives) (vault : UnlockedVault) (kind : RecordMutationKind)
    (id : RecordId) (plaintext : List UInt8) (committed_at_ms : UInt64)
    (mutation : PreparedRecordMutation) : Prop :=
  ∃ envelope entries, SealsRecord P vault id envelope plaintext ∧
    upsertEntries kind (commitment P ⟨id, envelope⟩) vault.manifest.entries = .ok entries ∧
    ManifestMutationSpec P vault kind id (some envelope)
      (Keyed.sortByKey ManifestEntry.record_id entries) committed_at_ms mutation

theorem preparePlaintextUpsert_spec {kind : RecordMutationKind} {id : RecordId}
    {plaintext : List UInt8} {committed_at_ms : UInt64} {entropy rest : Entropy}
    {mutation : PreparedRecordMutation}
    (h : preparePlaintextUpsert P vault kind id plaintext committed_at_ms entropy =
      .ok (mutation, rest)) : UpsertSpec P vault kind id plaintext committed_at_ms mutation := by
  simp only [preparePlaintextUpsert, Draw.lift_bind_apply, Draw.bind_eq_ok, Except.bind_eq_ok,
    Except.mapErr_eq_ok, Option.okOr_eq_ok, encryptBytes] at h
  obtain ⟨nonce, _, -, key, hkey, ciphertext, hencrypt, envelope, ⟨value, hnew, hbytes⟩, entries,
    hentries, hmutation⟩ := h
  obtain ⟨rfl, -⟩ := RecordEnvelope.new_eq_ok.mp hnew
  exact ⟨envelope, entries, ⟨key, nonce, ciphertext, hkey, hencrypt, hbytes⟩, hentries,
    prepareManifestMutation_spec hmutation⟩

/-! ## Stored plaintexts -/

end

/-- The record that a website-account plaintext stands for. -/
def WebsiteAccountPlaintext.record (value : WebsiteAccountPlaintext) : Record where
  updates := value.revision.toNat - 1
  created_at_ms := value.created_at_ms
  modified_at_ms := value.modified_at_ms
  contents := .websiteAccount
    ⟨value.service_name, value.permitted_origin, value.username, value.password⟩

/-- The account that the reader returns for a website-account plaintext. -/
def WebsiteAccountPlaintext.account (value : WebsiteAccountPlaintext) (id : RecordId) :
    WebsiteAccount where
  id := id
  revision := value.revision
  created_at_ms := value.created_at_ms
  modified_at_ms := value.modified_at_ms
  service_name := value.service_name
  permitted_origin := value.permitted_origin
  username := value.username
  password := value.password

/-- The record that a passkey plaintext stands for. -/
def PasskeyPlaintext.record (value : PasskeyPlaintext) : Record where
  updates := value.revision.toNat - 1
  created_at_ms := value.created_at_ms
  modified_at_ms := value.modified_at_ms
  contents := .passkey
    ⟨value.signature_counter, value.creation_state, value.rp_id, value.user_handle,
      value.user_name, value.user_display_name, value.credential_id, value.private_key⟩

/-- The passkey that the reader returns for a passkey plaintext. -/
def PasskeyPlaintext.passkeyRecord (value : PasskeyPlaintext) (id : RecordId) :
    PasskeyRecord where
  id := id
  revision := value.revision
  created_at_ms := value.created_at_ms
  signature_counter := value.signature_counter
  creation_state := value.creation_state
  rp_id := value.rp_id
  user_handle := value.user_handle
  user_name := value.user_name
  user_display_name := value.user_display_name
  credential_id := value.credential_id
  private_key := value.private_key

/-- A plaintext stores a record and passes the reader's checks, which go beyond what the plaintext
types guarantee: the origin or relying-party identifier is normalised, and the private key is a
scalar. -/
inductive Stored (P : Primitives) : Record → List UInt8 → Prop
  | websiteAccount (value : WebsiteAccountPlaintext)
      (normalized : normalizeOrigin P value.permitted_origin = .ok value.permitted_origin) :
      Stored P (WebsiteAccountPlaintext.record value)
        (encodeWebsiteInto value.toWebsiteAccountFields)
  | passkey (value : PasskeyPlaintext)
      (normalized : normalizeRpId P value.rp_id = .ok value.rp_id)
      (signingKey : P.signingKey value.private_key) :
      Stored P (PasskeyPlaintext.record value) (encodePasskeyInto value.toPasskeyFields)

/-- What the reader returns for a record under an id. -/
inductive Decrypted (id : RecordId) : Record → DecryptedRecord → Prop
  | websiteAccount (value : WebsiteAccountPlaintext) :
      Decrypted id (WebsiteAccountPlaintext.record value)
        (.websiteAccount (WebsiteAccountPlaintext.account value id))
  | passkey (value : PasskeyPlaintext) :
      Decrypted id (PasskeyPlaintext.record value)
        (.passkey (PasskeyPlaintext.passkeyRecord value id))

section

variable {P : Primitives} {vault : UnlockedVault}

/-- The reader returns a stored record from a row that opens to it. -/
theorem decryptRecord_of_stored {row : EncryptedRecord} {plaintext : List UInt8} {record : Record}
    (hopens : Opens P vault row plaintext) (hstored : Stored P record plaintext) :
    ∃ decrypted, decryptRecord P vault row = .ok decrypted ∧
      Decrypted row.id record decrypted := by
  obtain ⟨envelope, key, hdecode, hepoch, hkey, hdecrypt⟩ := hopens
  cases hstored with
  | websiteAccount value hnormal =>
    refine ⟨_, ?_, .websiteAccount value⟩
    simp [decryptRecord, hdecode, hepoch, hkey, decryptBytes, hdecrypt,
      recordType_encodeWebsiteInto value.valid, decryptWebsiteAccountPlaintext,
      value.decode_encode, hnormal, WebsiteAccountPlaintext.account]
  | passkey value hnormal hsigning =>
    refine ⟨_, ?_, .passkey value⟩
    simp [decryptRecord, hdecode, hepoch, hkey, decryptBytes, hdecrypt,
      recordType_encodePasskeyInto value.valid, decryptPasskeyPlaintext, value.decode_encode,
      hnormal, hsigning, PasskeyPlaintext.passkeyRecord]

end

end Librarian.Core
