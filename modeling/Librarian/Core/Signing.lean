import Librarian.Core.Assertions

/-!
# When a passkey signs

A confirmed passkey of an authentic snapshot signs for its relying party, unless one of its two
counters is exhausted: its record is valid with the next values of both, so the next version can be
sealed. What the surroundings contribute is that the request is not cancelled, that the cipher
encrypts, that two nonces can be drawn, and that the manifest has a next generation.
-/

namespace Librarian.Core

open Librarian.Format

/-- One of the two counters of the passkey has no next value. -/
def PasskeyRecord.Exhausted (passkey : PasskeyRecord) : Prop :=
  checkedSucc passkey.revision = none ∨ checkedSucc32 passkey.signature_counter = none

/-- Two nonces can be drawn. -/
def DrawsNonces (entropy : Entropy) : Prop :=
  ∃ nonce drawn nonce' rest, randomArrayOrFailed 24 entropy = .ok (nonce, drawn) ∧
    randomArrayOrFailed 24 drawn = .ok (nonce', rest)

/-- A next value is not zero. -/
theorem checkedSucc_ne_zero {a b : UInt64} (h : checkedSucc a = some b) : b ≠ 0 := by
  rintro rfl
  have hnext := checkedSucc_eq_some h
  have hzero : (0 : UInt64).toNat = 0 := rfl
  omega

variable {P : Primitives} {vault : UnlockedVault} {snapshot : Snapshot}
  {decrypted : List DecryptedRecord}

/-- What reading a passkey says: it has the fields of a valid plaintext, and there is a key for its
record. -/
theorem of_decryptRecord_passkey {row : EncryptedRecord} {passkey : PasskeyRecord}
    (h : decryptRecord P vault row = .ok (.passkey passkey)) :
    (∃ value : PasskeyPlaintext, passkey = PasskeyPlaintext.passkeyRecord value row.id) ∧
      P.signingKey passkey.private_key ∧ ∃ key, deriveRecordKey P vault row.id = some key := by
  simp only [decryptRecord, Except.throw_eq, Except.error_bind, Except.bind_eq_ok,
    Except.mapErr_eq_ok, Option.okOr_eq_ok, Except.ite_error_eq_ok] at h
  obtain ⟨-, -, -, key, hkey, plaintext, -, kind, -, hresult⟩ := h
  cases kind with
  | websiteAccount =>
    simp only [decryptWebsiteAccountPlaintext, Except.throw_eq, Except.error_bind,
      Except.bind_eq_ok, Except.ite_error_eq_ok, Except.pure_eq, Except.ok.injEq, reduceCtorEq,
      and_false, exists_false] at hresult
  | passkey =>
    simp only [decryptPasskeyPlaintext, Except.throw_eq, Except.error_bind, Except.bind_eq_ok,
      Except.mapErr_eq_ok, Except.ite_error_eq_ok, Except.pure_eq, Except.ok.injEq,
      DecryptedRecord.passkey.injEq, not_not] at hresult
    obtain ⟨value, -, -, -, -, hsigning, rfl⟩ := hresult
    exact ⟨⟨value, rfl⟩, hsigning, key, hkey⟩

/-- The rows of an authentic snapshot are entered in the manifest. -/
theorem Authentic.entered (h : Authentic P vault snapshot decrypted) {row : EncryptedRecord}
    (hmem : row ∈ snapshot.records) :
    ∃ entry ∈ vault.manifest.entries, entry.record_id = row.id := by
  rw [← h.rows]
  exact ⟨_, List.mem_map_of_mem hmem, rfl⟩

/-- An authentic snapshot has a header with an epoch. -/
theorem Authentic.epoch (h : Authentic P vault snapshot decrypted) :
    vault.header.key_epoch ≠ 0 :=
  (VaultHeader.encode_eq_ok.mp (VaultHeader.encode_of_decode h.header)).1

/-- There is a key for the manifest of an authentic snapshot. -/
theorem Authentic.manifestKey (h : Authentic P vault snapshot decrypted) :
    ∃ key, deriveManifestKey P vault.vault_root_key vault.header.vault_id
      vault.header.key_epoch = some key := by
  have hmanifest := h.manifest
  simp only [decryptManifest, Except.bind_eq_ok, Except.mapErr_eq_ok, Option.okOr_eq_ok]
    at hmanifest
  obtain ⟨-, -, key, hkey, -⟩ := hmanifest
  exact ⟨key, hkey⟩

section

variable {entropy : Entropy} (hP : Encrypts P) (h : Authentic P vault snapshot decrypted)
  (hdraws : DrawsNonces entropy) {generation : UInt64}
  (hgeneration : checkedSucc vault.manifest.generation = some generation)
include hP h hdraws hgeneration

/-- A row of the snapshot can be sealed again, with any plaintext that fits. -/
theorem Authentic.reseals {row : EncryptedRecord} (hmem : row ∈ snapshot.records) {key : Bytes 32}
    (hkey : deriveRecordKey P vault row.id = some key) {plaintext : List UInt8}
    (hroom : plaintext.length + 85 ≤ maxRecordEnvelopeBytes) {now : UInt64}
    (htime : vault.manifest.committed_at_ms ≤ now) :
    ∃ result, preparePlaintextUpsert P vault .update row.id plaintext now entropy =
      .ok result := by
  obtain ⟨nonce, drawn, nonce', rest, hnonce, hnonce'⟩ := hdraws
  obtain ⟨manifestKey, hmanifestKey⟩ := h.manifestKey
  obtain ⟨-, -, -, hlength, hascending⟩ := validateManifest_eq_ok.mp h.valid
  have hmutation : ∀ envelope, ∃ entries,
      upsertEntries .update ⟨row.id, P.sha256 envelope⟩ vault.manifest.entries = .ok entries ∧
      ∃ prepared, prepareManifestMutation P vault .update row.id (some envelope)
        (Keyed.sortByKey ManifestEntry.record_id entries) now drawn = .ok (prepared, rest) := by
    intro envelope
    have hsome : (Keyed.replaceFirst ManifestEntry.record_id ⟨row.id, P.sha256 envelope⟩
        vault.manifest.entries).isSome := Keyed.replaceFirst_isSome.mpr (h.entered hmem)
    obtain ⟨entries, hreplaced⟩ := Option.isSome_iff_exists.mp hsome
    have hascending' := hascending.replaceFirst hreplaced
    have hlength' : entries.length = vault.manifest.entries.length := by
      have hkeys := congrArg List.length (Keyed.map_key_replaceFirst hreplaced)
      rwa [List.length_map, List.length_map] at hkeys
    obtain ⟨next, hnext⟩ := nextGeneration_of_ascending h.valid hgeneration
      (hlength'.trans_le hlength) hascending' htime
    refine ⟨entries, Option.okOr_eq_ok.mpr hreplaced, ?_⟩
    rw [hascending'.sortByKey_eq]
    exact prepareManifestMutation_of_next hP hnext hnonce' hmanifestKey
  obtain ⟨prepared, hprepared⟩ :=
    preparePlaintextUpsert_of_parts hP hroom hnonce hkey h.epoch hmutation
  exact ⟨_, hprepared⟩

/-- A passkey of the snapshot can be rewritten, with any other counters. -/
theorem Authentic.rewrites {passkey : PasskeyRecord} (hmem : passkey ∈ passkeysOf decrypted)
    {revision : UInt64} (hrevision : revision ≠ 0) (counter : UInt32) (now : UInt64) :
    ∃ result, rewritePasskey P vault passkey revision counter now entropy = .ok result := by
  obtain ⟨row, hrow, hdecrypt⟩ := Keyed.exists_of_forall₂ h.decrypts.flip (mem_passkeysOf.mp hmem)
  obtain ⟨⟨value, rfl⟩, -, key, hkey⟩ := of_decryptRecord_passkey hdecrypt
  have hvalid : (rewrittenFields (PasskeyPlaintext.passkeyRecord value row.id) revision counter
      (passkeyUpdateTime value.created_at_ms vault.manifest.committed_at_ms now)).Valid :=
    { value.valid with
      revision := hrevision
      times := le_max_time _ _ }
  have htime : vault.manifest.committed_at_ms ≤
      passkeyUpdateTime value.created_at_ms vault.manifest.committed_at_ms now :=
    UInt64.le_trans (le_max_time now _) (left_le_max_time _ _)
  obtain ⟨result, hresult⟩ := h.reseals hP hdraws hgeneration hrow hkey
    (encodePasskeyInto_room hvalid) htime
  rw [rewritePasskey_eq]
  simp only [preparePasskeyUpsert, Draw.lift_bind_apply, Except.bind_eq_ok, Except.mapErr_eq_ok,
    PasskeyPlaintext.encode_eq, Except.ok.injEq]
  exact ⟨result, ⟨_, validatePasskeyPlaintext_eq_ok.mpr hvalid⟩,
    PasskeyPlaintext.new_eq_ok.mpr rfl, _, rfl, hresult⟩

/-- A confirmed passkey of the snapshot signs for its relying party, if its credential id is the
only one of its kind and neither counter is exhausted. -/
theorem Authentic.signs {rp_id : String} {passkey : PasskeyRecord}
    (hmem : passkey ∈ passkeysOf decrypted)
    (hnodup : ((passkeysOf decrypted).map PasskeyRecord.credential_id).Nodup)
    (hstate : passkey.creation_state = .confirmed)
    (hrp : Core.normalizeRpId P rp_id = .ok passkey.rp_id) (hcounters : ¬passkey.Exhausted)
    {should_cancel : ℕ → Bool}
    (huncancelled : ∀ j < snapshot.records.length, should_cancel j = false)
    (client_data_hash : Bytes 32) (now : UInt64) :
    ∃ result, preparePasskeyAssertion P vault snapshot rp_id passkey.credential_id client_data_hash
      now should_cancel entropy = .ok result := by
  obtain ⟨row, -, hdecrypt⟩ := Keyed.exists_of_forall₂ h.decrypts.flip (mem_passkeysOf.mp hmem)
  obtain ⟨-, hsigning, -⟩ := of_decryptRecord_passkey hdecrypt
  obtain ⟨hrevision, hcounter⟩ := not_or.mp hcounters
  obtain ⟨revision, hrevision⟩ := Option.ne_none_iff_exists'.mp hrevision
  obtain ⟨counter, hcounter⟩ := Option.ne_none_iff_exists'.mp hcounter
  obtain ⟨⟨mutation, rest⟩, hrewrite⟩ :=
    h.rewrites hP hdraws hgeneration hmem (checkedSucc_ne_zero hrevision) counter now
  have hvisit : visitSnapshot P vault snapshot should_cancel (findPasskey passkey.credential_id)
      (none, false) = .ok (some passkey, false) :=
    visitSnapshot_eq_ok.mpr
      ⟨huncancelled, decrypted, h, foldl_findPasskey_unique hnodup hmem⟩
  rw [visitSnapshot] at hvisit
  obtain ⟨u, hmetadata, hrecords⟩ := Except.bind_eq_ok.mp hvisit
  rw [preparePasskeyAssertion, Draw.lift_bind_apply, hmetadata, Except.ok_bind,
    Draw.lift_bind_apply, hrp, Except.mapErr_ok, Except.ok_bind, Draw.lift_bind_apply, hrecords,
    Except.ok_bind]
  simp only [Bool.false_eq_true, if_false, Draw.lift_bind_apply, Option.okOr_some,
    Except.ok_bind, hstate, hrevision, hcounter, hsigning, ne_eq, not_true_eq_false]
  rw [map_pure_apply, hrewrite]
  exact ⟨_, rfl⟩

end

end Librarian.Core
