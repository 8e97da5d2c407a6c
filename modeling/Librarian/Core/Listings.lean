import Librarian.Core.Folds
import Librarian.Core.Sealing

/-!
# What an authentic snapshot lists

The decrypted records of an authentic snapshot come from valid plaintexts, in the order of the
rows' ids. The listings of accounts are folds over them.
-/

namespace Librarian.Core

open Librarian.Format

/-- The id of a decrypted record. -/
def DecryptedRecord.id : DecryptedRecord → RecordId
  | websiteAccount a => a.id
  | passkey p => p.id

variable {P : Primitives} {vault : UnlockedVault}

/-- A row decrypts to what the reader returns for a record under the row's id. -/
theorem decrypted_of_decryptRecord {row : EncryptedRecord} {result : DecryptedRecord}
    (h : decryptRecord P vault row = .ok result) : ∃ record, Decrypted row.id record result := by
  simp only [decryptRecord, Except.throw_eq, Except.error_bind, Except.bind_eq_ok,
    Except.mapErr_eq_ok, Option.okOr_eq_ok, Except.ite_error_eq_ok, not_not] at h
  obtain ⟨-, -, -, -, -, plaintext, -, kind, -, hresult⟩ := h
  cases kind with
  | websiteAccount =>
    simp only [decryptWebsiteAccountPlaintext, Except.throw_eq, Except.error_bind,
      Except.bind_eq_ok, Except.mapErr_eq_ok, Except.ite_error_eq_ok, Except.pure_eq,
      Except.ok.injEq] at hresult
    obtain ⟨value, -, -, -, -, rfl⟩ := hresult
    exact ⟨_, .websiteAccount value⟩
  | passkey =>
    simp only [decryptPasskeyPlaintext, Except.throw_eq, Except.error_bind, Except.bind_eq_ok,
      Except.mapErr_eq_ok, Except.ite_error_eq_ok, Except.pure_eq, Except.ok.injEq] at hresult
    obtain ⟨value, -, -, -, -, -, rfl⟩ := hresult
    exact ⟨_, .passkey value⟩

theorem Decrypted.id_eq {id : RecordId} {record : Record} {result : DecryptedRecord}
    (h : Decrypted id record result) : result.id = id := by
  cases h with
  | websiteAccount value => rfl
  | passkey value => rfl

namespace Authentic

variable {snapshot : Snapshot} {decrypted : List DecryptedRecord}
  (h : Authentic P vault snapshot decrypted)
include h

theorem valid : validateManifest vault.manifest = .ok () :=
  validateManifest_of_decryptManifest h.manifest

theorem map_id : decrypted.map DecryptedRecord.id = snapshot.records.map EncryptedRecord.id := by
  have hdecrypts := h.decrypts
  generalize snapshot.records = rows at hdecrypts
  clear h
  induction hdecrypts with
  | nil => rfl
  | cons hrow _ ih =>
    obtain ⟨record, hdecrypted⟩ := decrypted_of_decryptRecord hrow
    rw [List.map_cons, List.map_cons, ih, hdecrypted.id_eq]

theorem ascending_rows : Keyed.Ascending EncryptedRecord.id snapshot.records := by
  obtain ⟨-, -, -, -, hascending⟩ := validateManifest_eq_ok.mp h.valid
  rw [← h.rows, Keyed.ascending_iff_map, List.map_map] at hascending
  rw [Keyed.ascending_iff_map]
  exact hascending

theorem ascending : Keyed.Ascending DecryptedRecord.id decrypted := by
  rw [Keyed.ascending_iff_map, h.map_id, ← Keyed.ascending_iff_map]
  exact h.ascending_rows

theorem ascending_accounts : Keyed.Ascending WebsiteAccount.id (accountsOf decrypted) := by
  refine List.pairwise_filterMap.mpr (h.ascending.imp ?_)
  rintro (a | p) (a' | p') hlt b hb b' hb'
  all_goals cases hb
  all_goals cases hb'
  exact hlt

theorem ascending_passkeys : Keyed.Ascending PasskeyRecord.id (passkeysOf decrypted) := by
  refine List.pairwise_filterMap.mpr (h.ascending.imp ?_)
  rintro (a | p) (a' | p') hlt b hb b' hb'
  all_goals cases hb
  all_goals cases hb'
  exact hlt

theorem length_le : decrypted.length ≤ maxRecords := by
  obtain ⟨-, -, -, hmax, -⟩ := validateManifest_eq_ok.mp h.valid
  rw [← h.rows, List.length_map] at hmax
  have hlength := congrArg List.length h.map_id
  rw [List.length_map, List.length_map] at hlength
  omega

theorem accounts_length_le : (accountsOf decrypted).length ≤ maxRecords :=
  (List.length_filterMap_le _ _).trans h.length_le

/-- A decrypted record is what the reader returns for some record. -/
theorem exists_decrypted {result : DecryptedRecord} (hmem : result ∈ decrypted) :
    ∃ id record, Decrypted id record result := by
  obtain ⟨row, -, hrow⟩ := Keyed.exists_of_forall₂ h.decrypts.flip hmem
  obtain ⟨record, hdecrypted⟩ := decrypted_of_decryptRecord hrow
  exact ⟨row.id, record, hdecrypted⟩

/-- A listed account has the fields of a valid plaintext. -/
theorem exists_account {account : WebsiteAccount} (hmem : account ∈ accountsOf decrypted) :
    ∃ value : WebsiteAccountPlaintext, account = WebsiteAccountPlaintext.account value account.id := by
  obtain ⟨id, record, hdecrypted⟩ := h.exists_decrypted (mem_accountsOf.mp hmem)
  cases hdecrypted with
  | websiteAccount value => exact ⟨value, rfl⟩

/-- A listed passkey has the fields of a valid plaintext. -/
theorem exists_passkey {passkey : PasskeyRecord} (hmem : passkey ∈ passkeysOf decrypted) :
    ∃ value : PasskeyPlaintext, passkey = PasskeyPlaintext.passkeyRecord value passkey.id := by
  obtain ⟨id, record, hdecrypted⟩ := h.exists_decrypted (mem_passkeysOf.mp hmem)
  cases hdecrypted with
  | passkey value => exact ⟨value, rfl⟩

/-- A visit that nobody cancels folds over the decrypted records. -/
theorem visitSnapshot_eq {σ : Type} (visit : σ → DecryptedRecord → σ) (s : σ) :
    visitSnapshot P vault snapshot (fun _ => false) visit s = .ok (decrypted.foldl visit s) :=
  visitSnapshot_eq_ok.mpr ⟨fun _ _ => rfl, decrypted, h, rfl⟩

omit h in
/-- The loop over rows that match their entries and decrypt stops only when it is cancelled. -/
theorem visitLoop_or_cancelled {σ : Type} (should_cancel : ℕ → Bool)
    (visit : σ → DecryptedRecord → σ) (i : ℕ) {records : List EncryptedRecord}
    {decrypted : List DecryptedRecord}
    (hdecrypts : List.Forall₂ (fun record result => decryptRecord P vault record = .ok result)
      records decrypted) (s : σ) :
    visitLoop P vault should_cancel visit i (records.zip (records.map (commitment P))) s =
        .ok (decrypted.foldl visit s) ∨
      visitLoop P vault should_cancel visit i (records.zip (records.map (commitment P))) s =
        .error .cancelled := by
  induction hdecrypts generalizing i s with
  | nil => exact .inl rfl
  | @cons record result records decrypted hresult _ ih =>
    rw [List.map_cons, List.zip_cons_cons, visitLoop]
    by_cases hcancel : should_cancel i
    · rw [if_pos hcancel]
      exact .inr rfl
    · have hmatches : ¬(record.id ≠ (commitment P record).record_id ∨
          P.sha256 record.envelope ≠ (commitment P record).envelope_digest) := by
        simp [commitment]
      rw [if_neg hcancel, if_neg hmatches, hresult]
      exact ih (i + 1) (visit s result)

/-- A visit folds over the decrypted records, unless it is cancelled. -/
theorem visitSnapshot_or_cancelled {σ : Type} (should_cancel : ℕ → Bool)
    (visit : σ → DecryptedRecord → σ) (s : σ) :
    visitSnapshot P vault snapshot should_cancel visit s = .ok (decrypted.foldl visit s) ∨
      visitSnapshot P vault snapshot should_cancel visit s = .error .cancelled := by
  have hlength : snapshot.records.length = vault.manifest.entries.length := by
    rw [← h.rows, List.length_map]
  have hmetadata := authenticateSnapshotMetadata_eq_ok.mpr ⟨h.header, h.manifest⟩
  obtain ⟨-, -, -, hmax, -⟩ := validateManifest_eq_ok.mp h.valid
  have hcount : ¬(snapshot.records.length ≠ (snapshot.records.map (commitment P)).length ∨
      snapshot.records.length > maxRecords) := by
    rw [h.rows]
    omega
  have hordered : (Keyed.windows2 snapshot.records).any (fun pair => pair.1.id ≥ pair.2.id) =
      false := (Keyed.windows2_any_eq_false EncryptedRecord.id).mpr h.ascending_rows
  simp only [visitSnapshot, visitAuthenticatedRecords, hmetadata, Except.ok_bind, hordered,
    Bool.false_eq_true, if_false, ← h.rows, if_neg hcount]
  rcases visitLoop_or_cancelled should_cancel visit 0 h.decrypts s with hloop | hloop
  · rw [hloop]
    exact .inl rfl
  · rw [hloop]
    exact .inr rfl

theorem listWebsiteAccounts_eq :
    listWebsiteAccounts P vault snapshot = .ok (accountsOf decrypted) := by
  rw [listWebsiteAccounts, h.visitSnapshot_eq, foldl_pushAccount, List.nil_append]

/-- A page is a window of the accounts, with whether there are any after it. -/
theorem listWebsiteAccountPage_eq (offset limit : ℕ) (hpos : 0 < limit)
    (hmax : limit ≤ maxWebsiteAccountPageSize) (hbound : offset + limit < 2 ^ 64) :
    listWebsiteAccountPage P vault snapshot offset limit (fun _ => false) =
      .ok (((accountsOf decrypted).drop offset).take limit,
        decide (offset + limit < (accountsOf decrypted).length)) := by
  have hlength := h.accounts_length_le
  unfold maxRecords at hlength
  have hvisit := h.visitSnapshot_eq (pushPage offset (offset + limit)) ⟨0, [], false⟩
  simp only [visitSnapshot, Except.bind_eq_ok, Except.exists_unit_eq, Except.mapErr_eq_ok]
    at hvisit
  obtain ⟨hmetadata, hrecords⟩ := hvisit
  obtain ⟨haccounts, hmore⟩ := foldl_pushPage (Nat.le_add_right offset limit) decrypted
    ⟨0, [], false⟩ (by simp only [Nat.zero_add]; omega)
  have hlimit : ¬(limit = 0 ∨ limit > maxWebsiteAccountPageSize) := by omega
  simpa [listWebsiteAccountPage, hlimit, hmetadata, hrecords, haccounts, hmore] using hbound

end Authentic

/-! ## The listing for an assertion -/

/-- A request for candidates that is rejected before the snapshot is looked at. -/
def AssertionRejected (P : Primitives) (rp_id : String) (allowed : Option (List (Bytes 32))) : Prop :=
  (allowed.getD []).length > maxPasskeyAssertionCandidates ∨ normalizeRpId P rp_id ≠ .ok rp_id

section

variable {snapshot : Snapshot} {rp_id : String} {allowed : Option (List (Bytes 32))}
  {should_cancel : ℕ → Bool}

theorem listPasskeysForAssertion_rejected (h : AssertionRejected P rp_id allowed) :
    listPasskeysForAssertion P vault snapshot rp_id allowed should_cancel = .error .conflict := by
  unfold listPasskeysForAssertion
  by_cases hallowed : (allowed.getD []).length > maxPasskeyAssertionCandidates
  · rw [if_pos hallowed]
    rfl
  · rw [if_neg hallowed]
    cases hnormal : normalizeRpId P rp_id with
    | error e => rfl
    | ok normalized =>
      have hne : normalized ≠ rp_id := by
        rintro rfl
        exact h.elim hallowed fun hne => hne hnormal
      simp [hne]

/-- A request that is accepted collects the passkeys that match it. -/
theorem listPasskeysForAssertion_accepted (h : ¬AssertionRejected P rp_id allowed) :
    listPasskeysForAssertion P vault snapshot rp_id allowed should_cancel = (do
      let state ← visitSnapshot P vault snapshot should_cancel
        (collectPasskey (matchesAssertion rp_id allowed) maxPasskeyCredentials
          PasskeyRecord.summary) ⟨[], [], false⟩
      if state.invalid then throw .failed
      return id state.collected) := by
  unfold AssertionRejected at h
  rw [not_or, not_not] at h
  obtain ⟨hallowed, hnormal⟩ := h
  have hlimit : maxPasskeyAssertionCandidates = maxPasskeyCredentials := rfl
  rw [hlimit] at hallowed
  simp only [listPasskeysForAssertion, hallowed, if_false, hnormal, Except.mapErr_ok,
    Except.ok_bind, ne_eq, not_true_eq_false, hlimit, id_eq]

end

end Librarian.Core
