import Librarian.Core.Steps
import Librarian.Core.Snapshot

/-!
# Every run refines the map

A vault that `create_vault` has made represents the empty map, and each mutation that succeeds is a
step of the map, so a vault at the end of any run represents the map at the end of the same run. A
represented vault authenticates, unlocks with its password, and reads out the map.
-/

namespace Librarian.Core

open Librarian.Format

section

variable {P : Primitives} {password : MasterPassword}

/-! ## Runs -/

theorem ofList?_eq_some {n : ℕ} {bytes : List UInt8} {value : Bytes n}
    (h : Bytes.ofList? n bytes = some value) : bytes = value.val := by
  unfold Bytes.ofList? at h
  split_ifs at h
  cases h
  rfl

/-- A wrapped key unwraps under the same key, nonce and associated data. -/
theorem decryptFixedKey_encryptFixedKey (hP : Lawful P) {key : Bytes 32} {nonce : Bytes 24}
    {plaintext : Bytes 32} {aad : List UInt8} {ciphertext : Bytes 48}
    (h : encryptFixedKey P key nonce plaintext aad = .ok ciphertext) :
    decryptFixedKey P key nonce ciphertext aad = some plaintext := by
  simp only [encryptFixedKey, encryptBytes, Except.bind_eq_ok, Option.okOr_eq_ok] at h
  obtain ⟨bytes, hencrypt, hbytes⟩ := h
  rw [ofList?_eq_some hbytes] at hencrypt
  simp [decryptFixedKey, decryptBytes, hP.decrypt_encrypt _ _ _ _ _ hencrypt]

/-- A new vault represents the empty map. -/
theorem createVault_represents (hP : Lawful P) {created_at_ms : UInt64} {entropy rest : Entropy}
    {created : CreatedVault}
    (h : createVault P password created_at_ms entropy = .ok (created, rest)) :
    Represents P password ⟨created.session, ⟨created.header, created.manifest_envelope, []⟩⟩
      (VaultMap.empty created_at_ms) := by
  simp only [createVault, Draw.bind_eq_ok, Draw.lift_bind_apply, Except.bind_eq_ok,
    Except.mapErr_eq_ok, Option.okOr_eq_ok, Draw.pure_apply, Except.ok.injEq, Prod.mk.injEq,
    encryptBytes] at h
  obtain ⟨vault_id, _, -, vault_root_key, _, -, recovery_key, _, -, salt, _, -, master_nonce, _, -,
    recovery_nonce, _, -, manifest_nonce, _, -, password_key, hpassword, master_kek, hmaster,
    wrapped, hwrapped, recovery_kek, -, recovery_wrapped, -, header_bytes, hheader, plaintext,
    hplaintext, manifest_key, hkey, ciphertext, hencrypt, envelope, ⟨value, hnew, henvelope⟩, -, -,
    -, -, rfl, -⟩ := h
  obtain ⟨rfl, -⟩ := ManifestEnvelope.new_eq_ok.mp hnew
  generalize hH : VaultHeader.mk vault_id initialKeyEpoch ⟨salt, master_nonce, wrapped⟩
    ⟨recovery_nonce, recovery_wrapped⟩ = header at hheader hencrypt ⊢
  have hseals : SealsManifest P ⟨vault_root_key, header, Manifest.empty created_at_ms
      initialKeyEpoch⟩ envelope (Manifest.empty created_at_ms initialKeyEpoch) := by
    refine ⟨manifest_key, manifest_nonce, plaintext, ciphertext, hplaintext, ?_, hencrypt,
      henvelope⟩
    rw [← hH]
    exact hkey
  refine {
    header := hheader
    unwraps := ?_
    epoch := by rw [← hH]; rfl
    manifest := hseals.decryptManifest hP rfl rfl
    rows := rfl
    holds := ⟨by simp, by simp [VaultMap.empty]⟩
    committed := rfl
    wellFormed := ⟨by simp [VaultMap.empty], ?_, by simp⟩ }
  · rw [← hH]
    exact ⟨password_key, master_kek, hpassword, hmaster,
      decryptFixedKey_encryptFixedKey hP hwrapped⟩
  · rintro id id' record record' passkey passkey' ⟨hrecord, -⟩
    simp [VaultMap.empty] at hrecord

/-- Each mutation is a step of the map. -/
theorem Represents.step (hP : Lawful P) {vault : StoredVault} {V : VaultMap}
    (h : Represents P password vault V) {mutation : Mutation P} {should_cancel : ℕ → Bool}
    {entropy : Entropy} {prepared : PreparedRecordMutation}
    (hprepare : mutation.prepare vault should_cancel entropy = .ok prepared) :
    Simulates P password vault V mutation prepared := by
  cases mutation with
  | addWebsiteAccount input now =>
    obtain ⟨⟨_, rest⟩, hok, rfl⟩ := Except.map_eq_ok.mp hprepare
    exact h.addWebsiteAccount hP hok
  | updateWebsiteAccount id input now =>
    obtain ⟨⟨_, rest⟩, hok, rfl⟩ := Except.map_eq_ok.mp hprepare
    exact h.updateWebsiteAccount hP hok
  | deleteWebsiteAccount id now =>
    obtain ⟨⟨_, rest⟩, hok, rfl⟩ := Except.map_eq_ok.mp hprepare
    exact h.deleteWebsiteAccount hP hok
  | addPasskey input excluded creation_state now =>
    obtain ⟨⟨⟨_, credential⟩, rest⟩, hok, rfl⟩ := Except.map_eq_ok.mp hprepare
    exact h.addPasskey hP hok
  | confirmPasskeyCreation credential_id now =>
    obtain ⟨⟨_, rest⟩, hok, rfl⟩ := Except.map_eq_ok.mp hprepare
    exact h.confirmPasskeyCreation hP hok
  | passkeyAssertion rp_id credential_id client_data_hash now =>
    obtain ⟨⟨⟨_, assertion⟩, rest⟩, hok, rfl⟩ := Except.map_eq_ok.mp hprepare
    exact h.passkeyAssertion hP hok
  | deletePasskey credential_id now =>
    obtain ⟨⟨_, rest⟩, hok, rfl⟩ := Except.map_eq_ok.mp hprepare
    exact h.deletePasskey hP hok

/-- The vault at the end of a run represents the map at the end of a run of the same mutations. -/
theorem StoredVault.Run.represents (hP : Lawful P) {created_at_ms : UInt64}
    {mutations : List (Mutation P)} {vault : StoredVault}
    (h : StoredVault.Run P password created_at_ms mutations vault) :
    ∃ V, VaultMap.Run created_at_ms mutations V ∧ Represents P password vault V := by
  induction h with
  | create hcreate => exact ⟨_, .create, createVault_represents hP hcreate⟩
  | step run hprepare hcommit ih =>
    obtain ⟨V, hrun, hrepresents⟩ := ih
    obtain ⟨V', hstep, vault', hcommit', hrepresents'⟩ := hrepresents.step hP hprepare
    rw [hcommit, Option.some.injEq] at hcommit'
    exact ⟨V', .step hrun hstep, hcommit' ▸ hrepresents'⟩

/-! ## Reading the map back -/

/-- The accounts are those of the map, in the order of their ids. -/
structure ListsAccounts (V : VaultMap) (accounts : List WebsiteAccount) : Prop where
  ascending : Keyed.Ascending WebsiteAccount.id accounts
  sound : ∀ account ∈ accounts, ∃ record,
    V.records account.id = some record ∧ AccountOf record account
  complete : ∀ id record contents, V.records id = some record →
    record.contents = .websiteAccount contents →
      ∃ account ∈ accounts, account.id = id ∧ AccountOf record account

/-- The passkeys are those of the map, in the order of their record ids. -/
structure ListsPasskeys (V : VaultMap) (passkeys : List PasskeyRecord) : Prop where
  ascending : Keyed.Ascending PasskeyRecord.id passkeys
  sound : ∀ passkey ∈ passkeys, ∃ record,
    V.records passkey.id = some record ∧ PasskeyOf record passkey
  complete : ∀ id record contents, V.HasPasskey id record contents →
    ∃ passkey ∈ passkeys, passkey.id = id ∧ PasskeyOf record passkey

/-- What the read operations return, when nobody cancels them, for a vault with these accounts and
passkeys. -/
structure ReadsBack (P : Primitives) (vault : StoredVault) (accounts : List WebsiteAccount)
    (passkeys : List PasskeyRecord) : Prop where
  list : listWebsiteAccounts P vault.session vault.snapshot = .ok accounts
  page : ∀ offset limit, 0 < limit → limit ≤ maxWebsiteAccountPageSize →
    offset + limit < 2 ^ 64 →
      listWebsiteAccountPage P vault.session vault.snapshot offset limit (fun _ => false) =
        .ok ((accounts.drop offset).take limit, decide (offset + limit < accounts.length))
  get : ∀ account ∈ accounts,
    getWebsiteAccount P vault.session vault.snapshot account.id (fun _ => false) = .ok account
  get_absent : ∀ id, (∀ account ∈ accounts, account.id ≠ id) →
    getWebsiteAccount P vault.session vault.snapshot id (fun _ => false) = .error .notFound
  unique : ∀ origin : BrowserOrigin P, ∃ found,
    uniqueBrowserAccount P vault.session vault.snapshot origin (fun _ => false) = .ok found ∧
      ∀ account, found = some account ↔
        accounts.filter (fun account => account.permitted_origin = origin.value) = [account]
  pending : listPendingPasskeyCredentialIds P vault.session vault.snapshot (fun _ => false) =
    .ok (((passkeys.filter fun passkey => passkey.creation_state = .pending).map
      PasskeyRecord.credential_id).insertionSort (· ≤ ·))
  assertion : ∀ rp_id allowed, (allowed.getD []).length ≤ maxPasskeyAssertionCandidates →
    normalizeRpId P rp_id = .ok rp_id →
      listPasskeysForAssertion P vault.session vault.snapshot rp_id allowed (fun _ => false) =
        .ok ((passkeys.filter (matchesAssertion rp_id allowed)).map PasskeyRecord.summary)
  passkeys : listPasskeys P vault.session vault.snapshot (fun _ => false) =
    .ok (Keyed.sortByKey PasskeySummary.sortKey
      ((passkeys.filter fun passkey => passkey.creation_state ≠ .pending).map
        PasskeyRecord.summary))

namespace Readout

variable {vault : StoredVault} {V : VaultMap} {decrypted : List DecryptedRecord}
  (h : Readout P vault V decrypted)
include h

theorem listsAccounts : ListsAccounts V (accountsOf decrypted) where
  ascending := h.authentic.ascending_accounts
  sound := fun account hmem => (h.accounts account).mp (mem_accountsOf.mp hmem)
  complete := by
    intro id record contents hrecord hcontents
    obtain ⟨result, hmem, hdecrypted⟩ := h.complete id record hrecord
    cases hdecrypted with
    | websiteAccount value =>
      obtain ⟨hid, hof⟩ := (@Decrypted.websiteAccount id value).account_iff.mp rfl
      exact ⟨_, mem_accountsOf.mpr hmem, hid, hof⟩
    | passkey value => simp [PasskeyPlaintext.record] at hcontents

theorem listsPasskeys : ListsPasskeys V (passkeysOf decrypted) where
  ascending := h.authentic.ascending_passkeys
  sound := fun passkey hmem => (h.passkeys passkey).mp (mem_passkeysOf.mp hmem)
  complete := by
    intro id record contents hpasskey
    obtain ⟨result, hmem, hid, hof, -⟩ := h.exists_passkey hpasskey
    exact ⟨result, mem_passkeysOf.mpr hmem, hid, hof⟩

end Readout

namespace Represents

variable {vault : StoredVault} {V : VaultMap} (h : Represents P password vault V)
include h

variable {decrypted : List DecryptedRecord} (hreadout : Readout P vault V decrypted)
include hreadout

/-- No two passkeys have the same credential id. -/
theorem nodup_credential_ids :
    ((passkeysOf decrypted).map PasskeyRecord.credential_id).Nodup := by
  have hlists := hreadout.listsPasskeys
  rw [List.Nodup, List.pairwise_map]
  refine hlists.ascending.imp_of_mem ?_
  intro p q hp hq hlt heq
  obtain ⟨record, hrecord, hof⟩ := hlists.sound p hp
  obtain ⟨record', hrecord', hof'⟩ := hlists.sound q hq
  have hid := h.wellFormed.credentials _ _ _ _ _ _ ⟨hrecord, hof.contents⟩
    ⟨hrecord', hof'.contents⟩ heq
  exact absurd hid hlt.ne

/-- The operations that collect passkeys return all that they select. -/
theorem collectPasskey {α : Type} (selected : PasskeyRecord → Bool)
    (project : PasskeyRecord → α) :
    (decrypted.foldl (Core.collectPasskey selected maxPasskeyCredentials project)
        ⟨[], [], false⟩).invalid = false ∧
      (decrypted.foldl (Core.collectPasskey selected maxPasskeyCredentials project)
        ⟨[], [], false⟩).collected = ((passkeysOf decrypted).filter selected).map project := by
  have hcapacity := h.wellFormed.capacity
  rw [hreadout.countP_isPasskey] at hcapacity
  have hselected : (passkeysOf decrypted).countP selected ≤ maxPasskeyCredentials :=
    List.countP_le_length.trans hcapacity
  obtain ⟨hinvalid, hcollected⟩ := foldl_collectPasskey project ⟨[], [], false⟩
    (h.nodup_credential_ids hreadout) (by simp) (by simpa using hselected)
  exact ⟨hinvalid, by simpa using hcollected⟩

/-- A listing of passkeys returns all that it selects, unless it is cancelled. -/
theorem collect_or_cancelled {α β : Type} (should_cancel : ℕ → Bool)
    (selected : PasskeyRecord → Bool) (project : PasskeyRecord → α) (finish : List α → β) :
    (do
      let state ← Core.visitSnapshot P vault.session vault.snapshot should_cancel
        (Core.collectPasskey selected maxPasskeyCredentials project) ⟨[], [], false⟩
      if state.invalid then throw .failed
      return finish state.collected : Except RecordOperationError β) =
        .ok (finish (((passkeysOf decrypted).filter selected).map project)) ∨
    (do
      let state ← Core.visitSnapshot P vault.session vault.snapshot should_cancel
        (Core.collectPasskey selected maxPasskeyCredentials project) ⟨[], [], false⟩
      if state.invalid then throw .failed
      return finish state.collected : Except RecordOperationError β) = .error .cancelled := by
  obtain ⟨hinvalid, hcollected⟩ := h.collectPasskey hreadout selected project
  rcases hreadout.authentic.visitSnapshot_or_cancelled should_cancel
    (Core.collectPasskey selected maxPasskeyCredentials project) ⟨[], [], false⟩ with
      hvisit | hvisit
  · refine .inl ?_
    rw [hvisit, Except.ok_bind, hinvalid, hcollected]
    rfl
  · refine .inr ?_
    rw [hvisit, Except.error_bind]

omit h hreadout in
/-- A listing has room for as many passkeys as a vault. -/
theorem maxPasskeyAssertionCandidates_eq :
    maxPasskeyAssertionCandidates = maxPasskeyCredentials := rfl

/-- The read operations return the map's records. -/
theorem readsBack : ReadsBack P vault (accountsOf decrypted) (passkeysOf decrypted) where
  list := hreadout.authentic.listWebsiteAccounts_eq
  page := by
    intro offset limit hpos hmax hbound
    exact hreadout.authentic.listWebsiteAccountPage_eq offset limit hpos hmax hbound
  get := by
    intro account hmem
    have hsome := foldl_findAccount_isSome none
      (.inr ⟨account, mem_accountsOf.mp hmem, rfl⟩)
    obtain ⟨found, hfound⟩ := Option.isSome_iff_exists.mp hsome
    rcases foldl_findAccount_eq_some hfound with hnone | ⟨hfound_mem, hid⟩
    · cases hnone
    · have heq : found = account := hreadout.listsAccounts.ascending.eq_of_key_eq
        (mem_accountsOf.mpr hfound_mem) hmem hid
      simp [Core.getWebsiteAccount, hreadout.authentic.visitSnapshot_eq, hfound, heq]
  get_absent := by
    intro id habsent
    have hnone : decrypted.foldl (findAccount id) none = none := by
      rw [Option.eq_none_iff_forall_ne_some]
      intro account hfound
      rcases foldl_findAccount_eq_some hfound with hnone | ⟨hmem, hid⟩
      · cases hnone
      · exact habsent account (mem_accountsOf.mpr hmem) hid
    rw [Core.getWebsiteAccount, hreadout.authentic.visitSnapshot_eq, Except.ok_bind, hnone]
    rfl
  unique := by
    intro origin
    have hfold := foldl_findUnique origin.value decrypted []
    rw [List.nil_append] at hfold
    refine ⟨_, ?_, fun account => uniqueState_eq_some⟩
    rw [uniqueBrowserAccount, hreadout.authentic.visitSnapshot_eq, Except.ok_bind]
    exact congrArg (fun state => Except.ok state.1) hfold
  pending := by
    obtain ⟨hinvalid, hcollected⟩ := h.collectPasskey hreadout
      (fun passkey => passkey.creation_state = .pending) PasskeyRecord.credential_id
    simp [listPendingPasskeyCredentialIds, hreadout.authentic.visitSnapshot_eq, hinvalid, hcollected]
  assertion := by
    intro rp_id allowed hallowed hnormal
    obtain ⟨hinvalid, hcollected⟩ := h.collectPasskey hreadout (matchesAssertion rp_id allowed)
      PasskeyRecord.summary
    rw [maxPasskeyAssertionCandidates_eq] at hallowed
    simpa [listPasskeysForAssertion, hnormal, hreadout.authentic.visitSnapshot_eq,
      maxPasskeyAssertionCandidates_eq, hinvalid, hcollected] using hallowed
  passkeys := by
    obtain ⟨hinvalid, hcollected⟩ := h.collectPasskey hreadout
      (fun passkey => passkey.creation_state ≠ .pending) PasskeyRecord.summary
    simp only [listPasskeys, hreadout.authentic.visitSnapshot_eq, Except.ok_bind,
      maxPasskeyAssertionCandidates_eq, hinvalid, hcollected, Bool.false_eq_true, if_false]
    rfl

omit hreadout in
/-- The session's root key authenticates the stored bytes, whichever way it was unwrapped. -/
theorem authenticateVaultRootKey (i : ℕ) : ∃ envelope,
    ManifestEnvelope.decode vault.snapshot.manifest_envelope = .ok envelope ∧
      Core.authenticateVaultRootKey P vault.session.vault_root_key vault.session.header envelope
        vault.snapshot.records (fun _ => false) i = .ok vault.session := by
  obtain ⟨decrypted, hreadout⟩ := h.readout
  have hmanifest := h.manifest
  simp only [decryptManifest, Except.bind_eq_ok, Except.mapErr_eq_ok, Option.okOr_eq_ok]
    at hmanifest
  obtain ⟨envelope, henvelope, key, hkey, plaintext, hplaintext, hdecode⟩ := hmanifest
  obtain ⟨-, hschema, -⟩ := validateManifest_eq_ok.mp h.valid
  have hvisit : visitAuthenticatedRecords P vault.session vault.snapshot.records
      (fun _ => false) (fun _ _ => ()) () = .ok () :=
    (visitAuthenticatedRecords_eq_ok h.valid).mpr
      ⟨fun _ _ => rfl, h.rows, decrypted, hreadout.authentic.decrypts, by simp⟩
  refine ⟨envelope, henvelope, ?_⟩
  simp [Core.authenticateVaultRootKey, hkey, hplaintext, hdecode, h.epoch, hschema,
    authenticateRecords, hvisit]

omit hreadout in
/-- The stored bytes unlock with the password of the vault, to the session. -/
theorem unlockVault :
    Core.unlockVault P password vault.snapshot (fun _ => false) = .ok vault.session := by
  obtain ⟨password_key, master_kek, hpassword, hmaster, hroot⟩ := h.unwraps
  obtain ⟨envelope, henvelope, hauthentic⟩ := h.authenticateVaultRootKey 2
  simp [Core.unlockVault, VaultHeader.decode_encode h.header, henvelope, hpassword, hmaster, hroot,
    hauthentic]

end Represents

/-! ## The refinement -/

/-- The encrypted vault refines the map. At the end of every run of successful mutations of a new
vault there is a map, at the end of a run of the same mutations, such that: the stored header,
manifest and rows authenticate against the session, and a visit of the rows succeeds; the read
operations return the map's records; the map's times are in order; the stored bytes unlock with the
password of the vault; and what a session prepares next commits. -/
theorem vault_refines_map (hP : Lawful P) {created_at_ms : UInt64} {mutations : List (Mutation P)}
    {vault : StoredVault} (h : StoredVault.Run P password created_at_ms mutations vault) :
    ∃ V, VaultMap.Run created_at_ms mutations V ∧
      authenticateSnapshotMetadata P vault.session vault.snapshot.header
        vault.snapshot.manifest_envelope = .ok () ∧
      Keyed.Ascending EncryptedRecord.id vault.snapshot.records ∧
      (∀ {σ : Type} (visit : σ → DecryptedRecord → σ) (s : σ), ∃ s',
        visitAuthenticatedRecords P vault.session vault.snapshot.records (fun _ => false) visit s =
          .ok s') ∧
      (∃ accounts passkeys, ListsAccounts V accounts ∧ ListsPasskeys V passkeys ∧
        ReadsBack P vault accounts passkeys) ∧
      (∀ id record, V.records id = some record → record.created_at_ms ≤ record.modified_at_ms ∧
        record.modified_at_ms ≤ V.committed_at_ms) ∧
      vault.session.manifest.committed_at_ms = V.committed_at_ms ∧
      unlockVault P password vault.snapshot (fun _ => false) = .ok vault.session ∧
      ∀ (mutation : Mutation P) (should_cancel : ℕ → Bool) (entropy : Entropy)
        (prepared : PreparedRecordMutation),
        mutation.prepare vault should_cancel entropy = .ok prepared →
          ∃ vault', vault.commit prepared = some vault' := by
  obtain ⟨V, hrun, hrepresents⟩ := h.represents hP
  obtain ⟨decrypted, hreadout⟩ := hrepresents.readout
  have hascending := hrepresents.ascending
  refine ⟨V, hrun, ?_, hascending, ?_, ⟨_, _, hreadout.listsAccounts,
    hreadout.listsPasskeys, hrepresents.readsBack hreadout⟩,
    hrepresents.wellFormed.times, hrepresents.committed, hrepresents.unlockVault, ?_⟩
  · exact authenticateSnapshotMetadata_eq_ok.mpr
      ⟨hreadout.authentic.header, hreadout.authentic.manifest⟩
  · intro σ visit s
    exact ⟨_, (visitAuthenticatedRecords_eq_ok hrepresents.valid).mpr
      ⟨fun _ _ => rfl, hrepresents.rows, decrypted, hreadout.authentic.decrypts, rfl⟩⟩
  · intro mutation should_cancel entropy prepared hprepare
    obtain ⟨-, -, vault', hcommit, -⟩ := hrepresents.step hP hprepare
    exact ⟨vault', hcommit⟩

end

/-! ### A sample run -/

/-- The sample primitives with a parser that knows one origin. -/
def exampleComPrimitives : Primitives :=
  { samplePrimitives with
    parseUrl := fun value =>
      if value = "https://example.com" then
        some ⟨"https", some "example.com", "", none, none, none, none, "/", "https://example.com"⟩
      else none }

theorem exampleComPrimitives_lawful : Lawful exampleComPrimitives where
  decrypt_encrypt := by
    intro key nonce plaintext aad ciphertext h
    simp only [exampleComPrimitives, samplePrimitives, Option.some.injEq] at h
    subst h
    simp [exampleComPrimitives, samplePrimitives]
  normalizeOrigin_idem := by
    intro value origin h
    by_cases hvalue : value = "https://example.com"
    · subst hvalue
      obtain rfl : "https://example.com" = origin := Except.ok.inj h
      exact h
    · simp [normalizeOrigin, exampleComPrimitives, hvalue] at h

/-- An account at the one origin. -/
def exampleComInput : WebsiteAccountInput exampleComPrimitives where
  service_name := "Example"
  permitted_origin := "https://example.com"
  username := "user"
  password := "password"
  normalized := ⟨"https://example.com", rfl⟩

/-- Creates the sample vault and adds the sample account to it. -/
def sampleRun : Option StoredVault := do
  let password ← MasterPassword.new "master"
  let (created, _) ← (createVault exampleComPrimitives password 0 [List.replicate 16 0,
    List.replicate 32 0, List.replicate 32 0, List.replicate 16 0, List.replicate 24 0,
    List.replicate 24 0, List.replicate 24 0]).toOption
  let vault : StoredVault :=
    ⟨created.session, ⟨created.header, created.manifest_envelope, []⟩⟩
  let prepared ← ((Mutation.addWebsiteAccount exampleComInput 1).prepare vault (fun _ => false)
    [List.replicate 16 1, List.replicate 24 0, List.replicate 24 0]).toOption
  vault.commit prepared

theorem sampleRun_run {vault : StoredVault} (h : sampleRun = some vault) :
    ∃ password, StoredVault.Run exampleComPrimitives password 0
      [.addWebsiteAccount exampleComInput 1] vault := by
  simp only [sampleRun, Option.bind_eq_bind, Option.bind_eq_some_iff, Except.toOption_eq_some]
    at h
  obtain ⟨password, -, ⟨created, rest⟩, hcreate, prepared, hprepare, hcommit⟩ := h
  exact ⟨password, .step (.create hcreate) hprepare hcommit⟩

/-- The sample run ends in a vault that refines the map with one account. -/
theorem vault_refines_map_sample :
    ∃ password vault V, StoredVault.Run exampleComPrimitives password 0
        [.addWebsiteAccount exampleComInput 1] vault ∧
      VaultMap.Run 0 [.addWebsiteAccount exampleComInput 1] V ∧
      unlockVault exampleComPrimitives password vault.snapshot (fun _ => false) =
        .ok vault.session := by
  have hsome : sampleRun.isSome := by decide +kernel
  obtain ⟨vault, hvault⟩ := Option.isSome_iff_exists.mp hsome
  obtain ⟨password, hrun⟩ := sampleRun_run hvault
  obtain ⟨V, hV, -, -, -, -, -, -, hunlock, -⟩ :=
    vault_refines_map exampleComPrimitives_lawful hrun
  exact ⟨password, vault, V, hrun, hV, hunlock⟩

end Librarian.Core
