import Librarian.Core.Mutations

/-!
# Snapshot authentication is all or nothing

Every operation of a session that reads records or prepares a mutation is one `SnapshotOperation`.
None of them returns a result, or says that a record does not exist, unless the whole snapshot it was
handed is authentic. The argument is the same for all: each operation's own work comes after the
visit of all rows, and that visit fails with `Failed` or `Cancelled` only. What is left are the two
operations that check a relying-party identifier before they visit the rows.
-/

namespace Librarian.Core

open Librarian.Format

/-- The operations of `UnlockedVault` that are handed a snapshot, with their other arguments. -/
inductive SnapshotOperation (P : Primitives)
  | listWebsiteAccounts
  | listWebsiteAccountPage (offset limit : ℕ)
  | getWebsiteAccount (id : RecordId)
  | uniqueBrowserAccount (origin : BrowserOrigin P)
  | listPendingPasskeyCredentialIds
  | listPasskeysForAssertion (rp_id : String) (allowed : Option (List (Bytes 32)))
  | listPasskeys
  | prepareAddWebsiteAccount (input : WebsiteAccountInput P) (committed_at_ms : UInt64)
  | prepareUpdateWebsiteAccount (id : RecordId) (input : WebsiteAccountInput P)
      (committed_at_ms : UInt64)
  | prepareDeleteWebsiteAccount (id : RecordId) (committed_at_ms : UInt64)
  | prepareAddPasskey (input : PasskeyInput P) (excluded : List (Bytes 32))
      (creation_state : PasskeyCreationState) (committed_at_ms : UInt64)
  | prepareConfirmPasskeyCreation (credential_id : Bytes 32) (committed_at_ms : UInt64)
  | preparePasskeyAssertion (rp_id : String) (credential_id client_data_hash : Bytes 32)
      (committed_at_ms : UInt64)
  | prepareDeletePasskey (credential_id : Bytes 32) (committed_at_ms : UInt64)

namespace SnapshotOperation

variable {P : Primitives}

/-- What an operation returns. -/
def Result : SnapshotOperation P → Type
  | listWebsiteAccounts => List WebsiteAccount
  | listWebsiteAccountPage .. => List WebsiteAccount × Bool
  | getWebsiteAccount .. => WebsiteAccount
  | uniqueBrowserAccount .. => Option WebsiteAccount
  | listPendingPasskeyCredentialIds => List (Bytes 32)
  | listPasskeysForAssertion .. => List PasskeySummary
  | listPasskeys => List PasskeySummary
  | prepareAddWebsiteAccount .. => PreparedRecordMutation
  | prepareUpdateWebsiteAccount .. => PreparedRecordMutation
  | prepareDeleteWebsiteAccount .. => PreparedRecordMutation
  | prepareAddPasskey .. => PreparedRecordMutation × PasskeyCredential
  | prepareConfirmPasskeyCreation .. => PreparedRecordMutation
  | preparePasskeyAssertion .. => PreparedRecordMutation × PasskeyAssertion
  | prepareDeletePasskey .. => PreparedRecordMutation

/-- Runs an operation of a session on a snapshot, with the answers of `should_cancel` and the bytes
of the random generator. -/
def perform (vault : UnlockedVault) (snapshot : Snapshot) (should_cancel : ℕ → Bool)
    (entropy : Entropy) : (operation : SnapshotOperation P) →
      Except RecordOperationError operation.Result
  | listWebsiteAccounts => Core.listWebsiteAccounts P vault snapshot
  | listWebsiteAccountPage offset limit =>
    Core.listWebsiteAccountPage P vault snapshot offset limit should_cancel
  | getWebsiteAccount id => Core.getWebsiteAccount P vault snapshot id should_cancel
  | uniqueBrowserAccount origin => Core.uniqueBrowserAccount P vault snapshot origin should_cancel
  | listPendingPasskeyCredentialIds =>
    Core.listPendingPasskeyCredentialIds P vault snapshot should_cancel
  | listPasskeysForAssertion rp_id allowed =>
    Core.listPasskeysForAssertion P vault snapshot rp_id allowed should_cancel
  | listPasskeys => Core.listPasskeys P vault snapshot should_cancel
  | prepareAddWebsiteAccount input committed_at_ms => Prod.fst <$>
    Core.prepareAddWebsiteAccount P vault snapshot input committed_at_ms should_cancel entropy
  | prepareUpdateWebsiteAccount id input committed_at_ms => Prod.fst <$>
    Core.prepareUpdateWebsiteAccount P vault snapshot id input committed_at_ms should_cancel entropy
  | prepareDeleteWebsiteAccount id committed_at_ms => Prod.fst <$>
    Core.prepareDeleteWebsiteAccount P vault snapshot id committed_at_ms should_cancel entropy
  | prepareAddPasskey input excluded creation_state committed_at_ms => Prod.fst <$>
    Core.prepareAddPasskey P vault snapshot input excluded creation_state committed_at_ms
      should_cancel entropy
  | prepareConfirmPasskeyCreation credential_id committed_at_ms => Prod.fst <$>
    Core.prepareConfirmPasskeyCreation P vault snapshot credential_id committed_at_ms should_cancel
      entropy
  | preparePasskeyAssertion rp_id credential_id client_data_hash committed_at_ms => Prod.fst <$>
    Core.preparePasskeyAssertion P vault snapshot rp_id credential_id client_data_hash
      committed_at_ms should_cancel entropy
  | prepareDeletePasskey credential_id committed_at_ms => Prod.fst <$>
    Core.prepareDeletePasskey P vault snapshot credential_id committed_at_ms should_cancel entropy

/-- The operation's own arguments are rejected before any row is looked at: the allow-list of a
listing is too long or its relying-party identifier is not canonical, or the identifier of an
assertion cannot be normalised. -/
def InputRejected : SnapshotOperation P → Prop
  | listPasskeysForAssertion rp_id allowed =>
    (allowed.getD []).length > maxPasskeyAssertionCandidates ∨ normalizeRpId P rp_id ≠ .ok rp_id
  | preparePasskeyAssertion rp_id _ _ _ => ∀ normalized, normalizeRpId P rp_id ≠ .ok normalized
  | _ => False

end SnapshotOperation

/-! ## One visit, many operations -/

section

variable {P : Primitives} {vault : UnlockedVault} {snapshot : Snapshot}

/-- Whatever an operation does after its visit, it fails with `Failed` or `Cancelled` unless the
snapshot is authentic. -/
theorem authentic_of_visitSnapshot_bind {σ β : Type} {should_cancel : ℕ → Bool}
    {visit : σ → DecryptedRecord → σ} {s : σ} {f : σ → Except RecordOperationError β}
    (hfailed : (visitSnapshot P vault snapshot should_cancel visit s >>= f) ≠ .error .failed)
    (hcancelled : (visitSnapshot P vault snapshot should_cancel visit s >>= f) ≠
      .error .cancelled) : ∃ decrypted, Authentic P vault snapshot decrypted := by
  cases hvisit : visitSnapshot P vault snapshot should_cancel visit s with
  | ok s' =>
    obtain ⟨-, decrypted, hauthentic, -⟩ := visitSnapshot_eq_ok.mp hvisit
    exact ⟨decrypted, hauthentic⟩
  | error e =>
    rw [hvisit, Except.error_bind] at hfailed hcancelled
    rcases visitSnapshot_error hvisit with rfl | rfl
    · exact absurd rfl hfailed
    · exact absurd rfl hcancelled

/-- The same for an operation that authenticates the metadata and visits the rows separately. -/
theorem authentic_of_visitAuthenticatedRecords_bind {σ β : Type} {should_cancel : ℕ → Bool}
    {visit : σ → DecryptedRecord → σ} {s : σ} {f : σ → Except RecordOperationError β}
    (hmetadata : authenticateSnapshotMetadata P vault snapshot.header
      snapshot.manifest_envelope = .ok ())
    (hfailed : ((visitAuthenticatedRecords P vault snapshot.records should_cancel visit s).mapErr
      mapSnapshotOperationError >>= f) ≠ .error .failed)
    (hcancelled : ((visitAuthenticatedRecords P vault snapshot.records should_cancel visit
      s).mapErr mapSnapshotOperationError >>= f) ≠ .error .cancelled) :
    ∃ decrypted, Authentic P vault snapshot decrypted := by
  have hvisit : visitSnapshot P vault snapshot should_cancel visit s =
      (visitAuthenticatedRecords P vault snapshot.records should_cancel visit s).mapErr
        mapSnapshotOperationError := by
    rw [visitSnapshot, hmetadata, Except.ok_bind]
  rw [← hvisit] at hfailed hcancelled
  exact authentic_of_visitSnapshot_bind hfailed hcancelled

/-- An operation that begins with the authentication of the metadata has authenticated it, unless
it fails. -/
theorem metadata_of_bind {β : Type} {f : Unit → Except RecordOperationError β}
    (hfailed : (authenticateSnapshotMetadata P vault snapshot.header snapshot.manifest_envelope >>=
      f) ≠ .error .failed) :
    authenticateSnapshotMetadata P vault snapshot.header snapshot.manifest_envelope = .ok () := by
  cases hmetadata : authenticateSnapshotMetadata P vault snapshot.header
      snapshot.manifest_envelope with
  | ok _ => rfl
  | error e =>
    rw [hmetadata, authenticateSnapshotMetadata_error hmetadata, Except.error_bind] at hfailed
    exact absurd rfl hfailed

theorem authentic_of_getWebsiteAccount_bind {β : Type} {id : RecordId} {should_cancel : ℕ → Bool}
    {f : WebsiteAccount → Except RecordOperationError β}
    (hfailed : (getWebsiteAccount P vault snapshot id should_cancel >>= f) ≠ .error .failed)
    (hcancelled : (getWebsiteAccount P vault snapshot id should_cancel >>= f) ≠
      .error .cancelled) : ∃ decrypted, Authentic P vault snapshot decrypted := by
  rw [getWebsiteAccount, bind_assoc] at hfailed hcancelled
  exact authentic_of_visitSnapshot_bind hfailed hcancelled

theorem authentic_of_listWebsiteAccountPage {offset limit : ℕ} {should_cancel : ℕ → Bool}
    (hfailed : listWebsiteAccountPage P vault snapshot offset limit should_cancel ≠
      .error .failed)
    (hcancelled : listWebsiteAccountPage P vault snapshot offset limit should_cancel ≠
      .error .cancelled) : ∃ decrypted, Authentic P vault snapshot decrypted := by
  simp only [listWebsiteAccountPage, Except.throw_eq, Except.error_bind] at hfailed hcancelled
  by_cases hlimit : limit = 0 ∨ limit > maxWebsiteAccountPageSize
  · exact absurd (if_pos hlimit) hfailed
  rw [if_neg hlimit] at hfailed hcancelled
  have hmetadata := metadata_of_bind hfailed
  rw [hmetadata, Except.ok_bind] at hfailed hcancelled
  by_cases hoverflow : offset + limit ≥ 2 ^ 64
  · exact absurd (if_pos hoverflow) hfailed
  rw [if_neg hoverflow] at hfailed hcancelled
  exact authentic_of_visitAuthenticatedRecords_bind hmetadata hfailed hcancelled

theorem authentic_of_listPasskeysForAssertion {rp_id : String}
    {allowed : Option (List (Bytes 32))} {should_cancel : ℕ → Bool}
    (hfailed : listPasskeysForAssertion P vault snapshot rp_id allowed should_cancel ≠
      .error .failed)
    (hcancelled : listPasskeysForAssertion P vault snapshot rp_id allowed should_cancel ≠
      .error .cancelled) :
    (∃ decrypted, Authentic P vault snapshot decrypted) ∨
      listPasskeysForAssertion P vault snapshot rp_id allowed should_cancel = .error .conflict ∧
        ((allowed.getD []).length > maxPasskeyAssertionCandidates ∨
          normalizeRpId P rp_id ≠ .ok rp_id) := by
  simp only [listPasskeysForAssertion, Except.throw_eq, Except.error_bind] at *
  by_cases hallowed : (allowed.getD []).length > maxPasskeyAssertionCandidates
  · exact .inr ⟨if_pos hallowed, .inl hallowed⟩
  rw [if_neg hallowed] at *
  cases hnormal : normalizeRpId P rp_id with
  | error e => exact .inr ⟨rfl, .inr (by simp)⟩
  | ok expected =>
    rw [hnormal, Except.mapErr_ok, Except.ok_bind] at hfailed hcancelled
    by_cases heq : expected = rp_id
    · rw [if_neg (not_not.mpr heq)] at hfailed hcancelled
      exact .inl (authentic_of_visitSnapshot_bind hfailed hcancelled)
    · refine .inr ⟨?_, .inr (by simpa using heq)⟩
      rw [Except.mapErr_ok, Except.ok_bind, if_pos heq]

theorem authentic_of_preparePasskeyAssertion {rp_id : String}
    {credential_id client_data_hash : Bytes 32} {wall_clock_ms : UInt64}
    {should_cancel : ℕ → Bool} {entropy : Entropy}
    (hfailed : preparePasskeyAssertion P vault snapshot rp_id credential_id client_data_hash
      wall_clock_ms should_cancel entropy ≠ .error .failed)
    (hcancelled : preparePasskeyAssertion P vault snapshot rp_id credential_id client_data_hash
      wall_clock_ms should_cancel entropy ≠ .error .cancelled) :
    (∃ decrypted, Authentic P vault snapshot decrypted) ∨
      preparePasskeyAssertion P vault snapshot rp_id credential_id client_data_hash wall_clock_ms
        should_cancel entropy = .error .conflict ∧
        ∀ normalized, normalizeRpId P rp_id ≠ .ok normalized := by
  simp only [preparePasskeyAssertion, Draw.lift_bind_apply] at *
  have hmetadata := metadata_of_bind hfailed
  rw [hmetadata, Except.ok_bind] at hfailed hcancelled ⊢
  cases hnormal : normalizeRpId P rp_id with
  | error e => exact .inr ⟨rfl, by simp⟩
  | ok expected =>
    rw [hnormal, Except.mapErr_ok, Except.ok_bind] at hfailed hcancelled
    exact .inl (authentic_of_visitAuthenticatedRecords_bind hmetadata hfailed hcancelled)

/-- Dropping the random bytes that are left over does not change how a preparation fails. -/
theorem ne_error_of_map_fst {β : Type} {x : Except RecordOperationError (β × Entropy)}
    {e : RecordOperationError} (h : Prod.fst <$> x ≠ .error e) : x ≠ .error e := by
  rintro rfl
  exact h rfl

/-- An operation that neither fails nor is cancelled has authenticated the whole snapshot, or it has
rejected its own arguments. -/
theorem authentic_or_inputRejected (operation : SnapshotOperation P) {should_cancel : ℕ → Bool}
    {entropy : Entropy}
    (hfailed : operation.perform vault snapshot should_cancel entropy ≠ .error .failed)
    (hcancelled : operation.perform vault snapshot should_cancel entropy ≠ .error .cancelled) :
    (∃ decrypted, Authentic P vault snapshot decrypted) ∨
      operation.perform vault snapshot should_cancel entropy = .error .conflict ∧
        operation.InputRejected := by
  cases operation with
  | listWebsiteAccounts =>
    have hbind : listWebsiteAccounts P vault snapshot =
        visitSnapshot P vault snapshot (fun _ => false) pushAccount [] >>= pure := by
      rw [bind_pure, listWebsiteAccounts]
    simp only [SnapshotOperation.perform, hbind] at hfailed hcancelled
    exact .inl (authentic_of_visitSnapshot_bind hfailed hcancelled)
  | listWebsiteAccountPage offset limit =>
    exact .inl (authentic_of_listWebsiteAccountPage hfailed hcancelled)
  | getWebsiteAccount id => exact .inl (authentic_of_visitSnapshot_bind hfailed hcancelled)
  | uniqueBrowserAccount origin =>
    exact .inl (authentic_of_visitSnapshot_bind hfailed hcancelled)
  | listPendingPasskeyCredentialIds =>
    exact .inl (authentic_of_visitSnapshot_bind hfailed hcancelled)
  | listPasskeysForAssertion rp_id allowed =>
    exact authentic_of_listPasskeysForAssertion hfailed hcancelled
  | listPasskeys => exact .inl (authentic_of_visitSnapshot_bind hfailed hcancelled)
  | prepareAddWebsiteAccount input committed_at_ms =>
    have hfailed' := ne_error_of_map_fst (x := prepareAddWebsiteAccount P vault snapshot input committed_at_ms should_cancel
      entropy) hfailed
    have hcancelled' := ne_error_of_map_fst (x := prepareAddWebsiteAccount P vault snapshot input committed_at_ms should_cancel
      entropy) hcancelled
    simp only [prepareAddWebsiteAccount, Draw.lift_bind_apply] at hfailed' hcancelled'
    exact .inl (authentic_of_visitSnapshot_bind hfailed' hcancelled')
  | prepareUpdateWebsiteAccount id input committed_at_ms =>
    have hfailed' := ne_error_of_map_fst (x := prepareUpdateWebsiteAccount P vault snapshot id input committed_at_ms
      should_cancel entropy) hfailed
    have hcancelled' := ne_error_of_map_fst (x := prepareUpdateWebsiteAccount P vault snapshot id input committed_at_ms
      should_cancel entropy) hcancelled
    simp only [prepareUpdateWebsiteAccount, Draw.lift_bind_apply] at hfailed' hcancelled'
    exact .inl (authentic_of_getWebsiteAccount_bind hfailed' hcancelled')
  | prepareDeleteWebsiteAccount id committed_at_ms =>
    have hfailed' := ne_error_of_map_fst (x := prepareDeleteWebsiteAccount P vault snapshot id committed_at_ms
      should_cancel entropy) hfailed
    have hcancelled' := ne_error_of_map_fst (x := prepareDeleteWebsiteAccount P vault snapshot id committed_at_ms
      should_cancel entropy) hcancelled
    simp only [prepareDeleteWebsiteAccount, Draw.lift_bind_apply] at hfailed' hcancelled'
    exact .inl (authentic_of_getWebsiteAccount_bind hfailed' hcancelled')
  | prepareAddPasskey input excluded creation_state committed_at_ms =>
    have hfailed' := ne_error_of_map_fst (x := prepareAddPasskey P vault snapshot input excluded creation_state
      committed_at_ms should_cancel entropy) hfailed
    have hcancelled' := ne_error_of_map_fst (x := prepareAddPasskey P vault snapshot input excluded creation_state
      committed_at_ms should_cancel entropy) hcancelled
    simp only [prepareAddPasskey, Draw.lift_bind_apply] at hfailed' hcancelled'
    exact .inl (authentic_of_visitSnapshot_bind hfailed' hcancelled')
  | prepareConfirmPasskeyCreation credential_id committed_at_ms =>
    have hfailed' := ne_error_of_map_fst (x := prepareConfirmPasskeyCreation P vault snapshot credential_id
      committed_at_ms should_cancel entropy) hfailed
    have hcancelled' := ne_error_of_map_fst (x := prepareConfirmPasskeyCreation P vault snapshot credential_id
      committed_at_ms should_cancel entropy) hcancelled
    simp only [prepareConfirmPasskeyCreation, Draw.lift_bind_apply] at hfailed' hcancelled'
    exact .inl (authentic_of_visitSnapshot_bind hfailed' hcancelled')
  | preparePasskeyAssertion rp_id credential_id client_data_hash committed_at_ms =>
    rcases authentic_of_preparePasskeyAssertion (ne_error_of_map_fst hfailed)
      (ne_error_of_map_fst hcancelled) with hauthentic | ⟨hconflict, hrejected⟩
    · exact .inl hauthentic
    · exact .inr ⟨congrArg (Prod.fst <$> ·) hconflict, hrejected⟩
  | prepareDeletePasskey credential_id committed_at_ms =>
    have hfailed' := ne_error_of_map_fst (x := prepareDeletePasskey P vault snapshot credential_id committed_at_ms
      should_cancel entropy) hfailed
    have hcancelled' := ne_error_of_map_fst (x := prepareDeletePasskey P vault snapshot credential_id committed_at_ms
      should_cancel entropy) hcancelled
    simp only [prepareDeletePasskey, Draw.lift_bind_apply] at hfailed' hcancelled'
    exact .inl (authentic_of_visitSnapshot_bind hfailed' hcancelled')

/-! ## The result -/

variable (P vault)

/-- A row's envelope and plaintext are canonical: each is the encoding of what it decodes to. -/
def CanonicalRow (record : EncryptedRecord) : Prop :=
  ∃ (envelope : RecordEnvelope) (record_key : Bytes 32) (plaintext : List UInt8),
    envelope.encode = .ok record.envelope ∧ envelope.key_epoch = vault.header.key_epoch ∧
    deriveRecordKey P vault record.id = some record_key ∧
    P.decrypt record_key envelope.nonce envelope.ciphertext
      (encodeRecordAad vault.header.vault_id record.id vault.header.key_epoch) = some plaintext ∧
    ((∃ account : WebsiteAccountPlaintext, account.encode = .ok plaintext) ∨
      ∃ passkey : PasskeyPlaintext, passkey.encode = .ok plaintext)

variable {P vault}

/-- A row that decrypts is canonical. -/
theorem canonicalRow_of_decryptRecord {record : EncryptedRecord} {decrypted : DecryptedRecord}
    (h : decryptRecord P vault record = .ok decrypted) : CanonicalRow P vault record := by
  simp only [decryptRecord, Except.throw_eq, Except.error_bind, Except.bind_eq_ok,
    Except.mapErr_eq_ok, Option.okOr_eq_ok, Except.ite_error_eq_ok, not_not] at h
  obtain ⟨envelope, henvelope, hepoch, key, hkey, plaintext, hplaintext, kind, -, hdecode⟩ := h
  refine ⟨envelope, key, plaintext, RecordEnvelope.encode_of_decode henvelope, hepoch, hkey,
    hplaintext, ?_⟩
  cases kind with
  | websiteAccount =>
    simp only [decryptWebsiteAccountPlaintext, Except.bind_eq_ok, Except.mapErr_eq_ok] at hdecode
    obtain ⟨account, haccount, -⟩ := hdecode
    exact .inl ⟨account, WebsiteAccountPlaintext.encode_of_decode haccount⟩
  | passkey =>
    simp only [decryptPasskeyPlaintext, Except.bind_eq_ok, Except.mapErr_eq_ok] at hdecode
    obtain ⟨passkey, hpasskey, -⟩ := hdecode
    exact .inr ⟨passkey, PasskeyPlaintext.encode_of_decode hpasskey⟩

theorem Authentic.canonicalRow {decrypted : List DecryptedRecord}
    (h : Authentic P vault snapshot decrypted) :
    ∀ record ∈ snapshot.records, CanonicalRow P vault record := by
  intro record hrecord
  obtain ⟨result, -, hresult⟩ := Keyed.exists_of_forall₂ h.decrypts hrecord
  exact canonicalRow_of_decryptRecord hresult

/-- Snapshot authentication is all or nothing. An operation returns a result, or the answer that
the record does not exist, only on an authentic snapshot, whose header is the canonical encoding of
the session's and whose rows are all canonical. On any other snapshot it fails or is cancelled; the
exception are the arguments that are rejected before any row is looked at, with `Conflict`. -/
theorem perform_authenticates (vault : UnlockedVault) (snapshot : Snapshot)
    (should_cancel : ℕ → Bool) (entropy : Entropy) (operation : SnapshotOperation P) :
    ((∃ result, operation.perform vault snapshot should_cancel entropy = .ok result) ∨
        operation.perform vault snapshot should_cancel entropy = .error .notFound →
      vault.header.encode = .ok snapshot.header ∧
      (∃ decrypted, Authentic P vault snapshot decrypted) ∧
      ∀ record ∈ snapshot.records, CanonicalRow P vault record) ∧
    ((¬∃ decrypted, Authentic P vault snapshot decrypted) →
      operation.perform vault snapshot should_cancel entropy = .error .failed ∨
      operation.perform vault snapshot should_cancel entropy = .error .cancelled ∨
      operation.perform vault snapshot should_cancel entropy = .error .conflict ∧
        operation.InputRejected) := by
  constructor
  · intro h
    have hfailed : operation.perform vault snapshot should_cancel entropy ≠ .error .failed := by
      rintro heq
      simp [heq] at h
    have hcancelled :
        operation.perform vault snapshot should_cancel entropy ≠ .error .cancelled := by
      rintro heq
      simp [heq] at h
    rcases authentic_or_inputRejected operation hfailed hcancelled with
      ⟨decrypted, hauthentic⟩ | ⟨hconflict, -⟩
    · exact ⟨VaultHeader.encode_of_decode hauthentic.header, ⟨decrypted, hauthentic⟩,
        hauthentic.canonicalRow⟩
    · simp [hconflict] at h
  · intro hnot
    by_cases hfailed : operation.perform vault snapshot should_cancel entropy = .error .failed
    · exact .inl hfailed
    by_cases hcancelled :
        operation.perform vault snapshot should_cancel entropy = .error .cancelled
    · exact .inr (.inl hcancelled)
    rcases authentic_or_inputRejected operation hfailed hcancelled with hauthentic | hrejected
    · exact absurd hauthentic hnot
    · exact .inr (.inr hrejected)

end

/-! ## A sample session

An empty vault under primitives that do nothing: the cipher appends and strips an empty tag. -/

/-- Primitives whose cipher appends a tag of zeros, with every key zero and no URL. -/
def samplePrimitives : Primitives where
  argon2id := fun _ _ => some (Bytes.replicate 32 0)
  hkdf := fun _ _ _ => some (Bytes.replicate 32 0)
  sha256 := fun _ => Bytes.replicate 32 0
  encrypt := fun _ _ plaintext _ => some (plaintext ++ List.replicate 16 0)
  decrypt := fun _ _ ciphertext _ => some (ciphertext.take (ciphertext.length - 16))
  signingKey := fun _ => true
  publicKey := fun _ => List.replicate 65 0
  sign := fun _ _ => []
  parseUrl := fun _ => none

/-- The session of an empty vault. -/
def sampleVault : UnlockedVault where
  vault_root_key := Bytes.replicate 32 0
  header :=
    { vault_id := Bytes.replicate 16 0
      key_epoch := 1
      master_wrapper := ⟨Bytes.replicate 16 0, Bytes.replicate 24 0, Bytes.replicate 48 0⟩
      recovery_wrapper := ⟨Bytes.replicate 24 0, Bytes.replicate 48 0⟩ }
  manifest := Manifest.empty 0 1

/-- The stored bytes of the sample session's vault, with the given rows. -/
def sampleSnapshot (records : List EncryptedRecord) : Snapshot where
  header := encodeHeaderInto sampleVault.header
  manifest_envelope := encodeManifestEnvelopeInto
    ⟨Bytes.replicate 24 0, encodeManifestInto sampleVault.manifest ++ List.replicate 16 0⟩
  records := records

theorem sampleSnapshot_authentic :
    Authentic samplePrimitives sampleVault (sampleSnapshot []) [] where
  header := VaultHeader.decode_encode (VaultHeader.encode_eq_ok.mpr ⟨by decide, by decide +kernel, rfl⟩)
  manifest := by
    have henvelope : ManifestEnvelope.decode (sampleSnapshot []).manifest_envelope = .ok
        ⟨Bytes.replicate 24 0, encodeManifestInto sampleVault.manifest ++ List.replicate 16 0⟩ :=
      ManifestEnvelope.decode_encode
        (ManifestEnvelope.encode_eq_ok.mpr ⟨by decide, by decide +kernel, rfl⟩)
    have hmanifest : Manifest.decode (encodeManifestInto sampleVault.manifest) =
        .ok sampleVault.manifest :=
      Manifest.decode_encode (Manifest.encode_eq_ok.mpr ⟨by decide, by decide +kernel, rfl⟩)
    simp only [decryptManifest, henvelope, Except.mapErr_ok, Except.ok_bind, deriveManifestKey,
      deriveKey, decryptBytes, samplePrimitives, Option.okOr_some, List.length_append,
      List.length_replicate, Nat.add_sub_cancel, List.take_left, hmanifest]
  rows := rfl
  decrypts := .nil

/-- A row that the sample session's manifest does not commit to. -/
def strayRow : EncryptedRecord := ⟨Bytes.replicate 16 0, []⟩

theorem strayRow_not_authentic :
    ¬∃ decrypted, Authentic samplePrimitives sampleVault (sampleSnapshot [strayRow]) decrypted := by
  rintro ⟨decrypted, h⟩
  exact absurd h.rows (List.cons_ne_nil _ _)

/-- Listing the empty sample vault succeeds, and with a stray row it fails. -/
theorem perform_authenticates_sample :
    ((∃ result, (SnapshotOperation.listWebsiteAccounts (P := samplePrimitives)).perform sampleVault
        (sampleSnapshot []) (fun _ => false) [] = .ok result) ∧
      sampleVault.header.encode = .ok (sampleSnapshot []).header) ∧
    ((SnapshotOperation.listWebsiteAccounts (P := samplePrimitives)).perform sampleVault
        (sampleSnapshot [strayRow]) (fun _ => false) [] = .error .failed ∨
      (SnapshotOperation.listWebsiteAccounts (P := samplePrimitives)).perform sampleVault
        (sampleSnapshot [strayRow]) (fun _ => false) [] = .error .cancelled ∨
      (SnapshotOperation.listWebsiteAccounts (P := samplePrimitives)).perform sampleVault
        (sampleSnapshot [strayRow]) (fun _ => false) [] = .error .conflict ∧ False) := by
  have hlist : ∃ result, (SnapshotOperation.listWebsiteAccounts (P := samplePrimitives)).perform
      sampleVault (sampleSnapshot []) (fun _ => false) [] = .ok result :=
    ⟨[], visitSnapshot_eq_ok.mpr ⟨by simp, [], sampleSnapshot_authentic, rfl⟩⟩
  exact ⟨⟨hlist, ((perform_authenticates sampleVault (sampleSnapshot []) (fun _ => false) []
    SnapshotOperation.listWebsiteAccounts).1 (.inl hlist)).1⟩,
    (perform_authenticates sampleVault (sampleSnapshot [strayRow]) (fun _ => false) []
      SnapshotOperation.listWebsiteAccounts).2 strayRow_not_authentic⟩

/-- An unauthentic snapshot does not always make an operation fail or be cancelled: with a stray row
in the snapshot, the listing for an empty relying-party identifier answers `Conflict`. -/
theorem conflict_on_unauthentic_snapshot :
    ¬∀ (P : Primitives) (vault : UnlockedVault) (snapshot : Snapshot) (should_cancel : ℕ → Bool)
      (entropy : Entropy) (operation : SnapshotOperation P),
      (¬∃ decrypted, Authentic P vault snapshot decrypted) →
        operation.perform vault snapshot should_cancel entropy = .error .failed ∨
        operation.perform vault snapshot should_cancel entropy = .error .cancelled := by
  intro h
  have hconflict : (SnapshotOperation.listPasskeysForAssertion (P := samplePrimitives) "" none).perform
      sampleVault (sampleSnapshot [strayRow]) (fun _ => false) [] = .error .conflict := rfl
  rcases h samplePrimitives sampleVault (sampleSnapshot [strayRow]) (fun _ => false) []
    (.listPasskeysForAssertion "" none) strayRow_not_authentic with hfailed | hcancelled
  · rw [hconflict] at hfailed
    cases hfailed
  · rw [hconflict] at hcancelled
    cases hcancelled

end Librarian.Core
