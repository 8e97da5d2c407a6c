import Librarian.Core.Listings
import Librarian.Core.Refinement

/-!
# What a represented vault reads out

The reader's results and the records of the map determine each other, so a visit of a represented
vault folds over the map. The second half keeps the map well formed when a record is stored or
removed.
-/

namespace Librarian.Core

open Librarian.Format

/-! ## Records and what the reader returns -/

/-- The account is the record: the revision is one more than the number of updates, and the times
and the contents agree. -/
structure AccountOf (record : Record) (account : WebsiteAccount) : Prop where
  revision : account.revision.toNat = 1 + record.updates
  created_at_ms : account.created_at_ms = record.created_at_ms
  modified_at_ms : account.modified_at_ms = record.modified_at_ms
  contents : record.contents = .websiteAccount
    ⟨account.service_name, account.permitted_origin, account.username, account.password⟩

/-- The contents of a decrypted passkey. -/
def PasskeyRecord.contents (passkey : PasskeyRecord) : PasskeyContents :=
  ⟨passkey.signature_counter, passkey.creation_state, passkey.rp_id, passkey.user_handle,
    passkey.user_name, passkey.user_display_name, passkey.credential_id, passkey.private_key⟩

/-- The passkey is the record. -/
structure PasskeyOf (record : Record) (passkey : PasskeyRecord) : Prop where
  revision : passkey.revision.toNat = 1 + record.updates
  created_at_ms : passkey.created_at_ms = record.created_at_ms
  contents : record.contents = .passkey passkey.contents

/-- A revision is not zero, so the number of updates determines it. -/
theorem toNat_eq_of_pred_eq {a : UInt64} (ha : a ≠ 0) : a.toNat = 1 + (a.toNat - 1) := by
  have hpos : a.toNat ≠ 0 := fun h => ha (UInt64.toNat_inj.mp h)
  omega

theorem Decrypted.account_iff {id : RecordId} {record : Record} {decrypted : DecryptedRecord}
    (h : Decrypted id record decrypted) {account : WebsiteAccount} :
    decrypted = .websiteAccount account ↔ account.id = id ∧ AccountOf record account := by
  cases h with
  | websiteAccount value =>
    have hrevision := toNat_eq_of_pred_eq value.valid.revision
    rw [DecryptedRecord.websiteAccount.injEq]
    constructor
    · rintro rfl
      exact ⟨rfl, hrevision, rfl, rfl, rfl⟩
    · rintro ⟨hid, haccount⟩
      have hcontents := haccount.contents
      simp only [WebsiteAccountPlaintext.record, Contents.websiteAccount.injEq,
        AccountContents.mk.injEq] at hcontents
      obtain ⟨h1, h2, h3, h4⟩ := hcontents
      refine WebsiteAccount.ext hid.symm ?_ haccount.created_at_ms.symm haccount.modified_at_ms.symm
        h1 h2 h3 h4
      exact UInt64.toNat_inj.mp (hrevision.trans haccount.revision.symm)
  | passkey value =>
    constructor
    · intro h
      cases h
    · rintro ⟨-, haccount⟩
      have := haccount.contents
      simp [PasskeyPlaintext.record] at this

theorem Decrypted.passkey_iff {id : RecordId} {record : Record} {decrypted : DecryptedRecord}
    (h : Decrypted id record decrypted) {passkey : PasskeyRecord} :
    decrypted = .passkey passkey ↔ passkey.id = id ∧ PasskeyOf record passkey := by
  cases h with
  | websiteAccount value =>
    constructor
    · intro h
      cases h
    · rintro ⟨-, hpasskey⟩
      have := hpasskey.contents
      simp [WebsiteAccountPlaintext.record] at this
  | passkey value =>
    have hrevision := toNat_eq_of_pred_eq value.valid.revision
    rw [DecryptedRecord.passkey.injEq]
    constructor
    · rintro rfl
      exact ⟨rfl, hrevision, rfl, rfl⟩
    · rintro ⟨hid, hpasskey⟩
      have hcontents := hpasskey.contents
      simp only [PasskeyPlaintext.record, Contents.passkey.injEq, PasskeyRecord.contents,
        PasskeyContents.mk.injEq] at hcontents
      obtain ⟨h1, h2, h3, h4, h5, h6, h7, h8⟩ := hcontents
      refine PasskeyRecord.ext hid.symm ?_ hpasskey.created_at_ms.symm h1 h2 h3 h4 h5 h6 h7 h8
      exact UInt64.toNat_inj.mp (hrevision.trans hpasskey.revision.symm)

section

variable {P : Primitives} {password : MasterPassword}

/-- The decrypted records of a represented vault, with the records of the map that they are. -/
structure Readout (P : Primitives) (vault : StoredVault) (V : VaultMap)
    (decrypted : List DecryptedRecord) : Prop where
  authentic : Authentic P vault.session vault.snapshot decrypted
  accounts : ∀ account, .websiteAccount account ∈ decrypted ↔
    ∃ record, V.records account.id = some record ∧ AccountOf record account
  passkeys : ∀ passkey, .passkey passkey ∈ decrypted ↔
    ∃ record, V.records passkey.id = some record ∧ PasskeyOf record passkey
  complete : ∀ id record, V.records id = some record →
    ∃ result ∈ decrypted, Decrypted id record result
  ids : List.Forall₂ (fun row result => ∃ record, V.records row.id = some record ∧
    Decrypted row.id record result) vault.snapshot.records decrypted

/-- A decrypted record belongs to a row, and each row has one. -/
theorem Represents.readout {vault : StoredVault} {V : VaultMap}
    (h : Represents P password vault V) : ∃ decrypted, Readout P vault V decrypted := by
  obtain ⟨decrypted, hauthentic, hids⟩ := h.exists_decrypted
  have hof : ∀ result ∈ decrypted, ∃ id record, V.records id = some record ∧
      Decrypted id record result := by
    intro result hmem
    obtain ⟨row, -, record, hrecord, hresult⟩ := Keyed.exists_of_forall₂ hids.flip hmem
    exact ⟨row.id, record, hrecord, hresult⟩
  have hto : ∀ id record, V.records id = some record →
      ∃ result ∈ decrypted, Decrypted id record result := by
    intro id record hrecord
    obtain ⟨row, hmem, rfl⟩ := h.exists_row hrecord
    obtain ⟨result, hresult, record', hrecord', hdecrypted⟩ := Keyed.exists_of_forall₂ hids hmem
    rw [hrecord, Option.some.injEq] at hrecord'
    exact ⟨result, hresult, hrecord' ▸ hdecrypted⟩
  refine ⟨decrypted, hauthentic, ?_, ?_, hto, hids⟩
  · intro account
    constructor
    · intro hmem
      obtain ⟨id, record, hrecord, hdecrypted⟩ := hof _ hmem
      obtain ⟨rfl, haccount⟩ := hdecrypted.account_iff.mp rfl
      exact ⟨record, hrecord, haccount⟩
    · rintro ⟨record, hrecord, haccount⟩
      obtain ⟨result, hmem, hdecrypted⟩ := hto _ _ hrecord
      exact (hdecrypted.account_iff.mpr ⟨rfl, haccount⟩) ▸ hmem
  · intro passkey
    constructor
    · intro hmem
      obtain ⟨id, record, hrecord, hdecrypted⟩ := hof _ hmem
      obtain ⟨rfl, hpasskey⟩ := hdecrypted.passkey_iff.mp rfl
      exact ⟨record, hrecord, hpasskey⟩
    · rintro ⟨record, hrecord, hpasskey⟩
      obtain ⟨result, hmem, hdecrypted⟩ := hto _ _ hrecord
      exact (hdecrypted.passkey_iff.mpr ⟨rfl, hpasskey⟩) ▸ hmem

/-- A snapshot decrypts in one way. -/
theorem Authentic.unique {vault : UnlockedVault} {snapshot : Snapshot}
    {decrypted decrypted' : List DecryptedRecord} (h : Authentic P vault snapshot decrypted)
    (h' : Authentic P vault snapshot decrypted') : decrypted = decrypted' := by
  have hunique : Relator.RightUnique fun (record : EncryptedRecord) result =>
      decryptRecord P vault record = .ok result := by
    intro record a b ha hb
    rw [ha, Except.ok.injEq] at hb
    exact hb
  exact hunique.forall₂ h.decrypts h'.decrypts

/-- A visit that has succeeded has folded over the decrypted records of the readout. -/
theorem Readout.visitSnapshot {vault : StoredVault} {V : VaultMap}
    {decrypted : List DecryptedRecord} (h : Readout P vault V decrypted) {σ : Type}
    {should_cancel : ℕ → Bool} {visit : σ → DecryptedRecord → σ} {s s' : σ}
    (hvisit : Core.visitSnapshot P vault.session vault.snapshot should_cancel visit s = .ok s') :
    decrypted.foldl visit s = s' := by
  obtain ⟨-, decrypted', hauthentic, hfold⟩ := visitSnapshot_eq_ok.mp hvisit
  rwa [h.authentic.unique hauthentic]

/-- A passkey of the map is among the decrypted records. -/
theorem Readout.exists_passkey {vault : StoredVault} {V : VaultMap}
    {decrypted : List DecryptedRecord} (h : Readout P vault V decrypted) {id : RecordId}
    {record : Record} {passkey : PasskeyContents} (hpasskey : V.HasPasskey id record passkey) :
    ∃ result, .passkey result ∈ decrypted ∧ result.id = id ∧ PasskeyOf record result ∧
      result.contents = passkey := by
  obtain ⟨result, hmem, hdecrypted⟩ := h.complete id record hpasskey.1
  have hcontents := hpasskey.2
  cases hdecrypted with
  | websiteAccount value => simp [WebsiteAccountPlaintext.record] at hcontents
  | passkey value =>
    obtain ⟨hid, hof⟩ := (@Decrypted.passkey id value).passkey_iff.mp rfl
    refine ⟨_, hmem, hid, hof, ?_⟩
    rw [hof.contents, Contents.passkey.injEq] at hcontents
    exact hcontents

/-! ## Keeping the map well formed -/

/-- Whether a record is a passkey. -/
def Record.isPasskey (record : Record) : Bool :=
  match record.contents with
  | .websiteAccount _ => false
  | .passkey _ => true

/-- The rows of passkeys are as many as the decrypted passkeys. -/
theorem Readout.countP_isPasskey {vault : StoredVault} {V : VaultMap}
    {decrypted : List DecryptedRecord} (h : Readout P vault V decrypted) :
    (vault.snapshot.records.map EncryptedRecord.id).countP V.isPasskey =
      (passkeysOf decrypted).length := by
  have hids := h.ids
  generalize vault.snapshot.records = rows at hids
  clear h
  induction hids with
  | nil => rfl
  | @cons row result rows decrypted hrow _ ih =>
    obtain ⟨record, hrecord, hdecrypted⟩ := hrow
    rw [List.map_cons]
    cases hdecrypted with
    | websiteAccount value =>
      rw [List.countP_cons_of_neg (by
        simp [VaultMap.isPasskey, hrecord, WebsiteAccountPlaintext.record])]
      exact ih
    | passkey value =>
      rw [List.countP_cons_of_pos (by
        simp [VaultMap.isPasskey, hrecord, PasskeyPlaintext.record]), ih]
      rfl

theorem VaultMap.isPasskey_of_some {V : VaultMap} {id : RecordId} {record : Record}
    (h : V.records id = some record) : V.isPasskey id = record.isPasskey := by
  obtain ⟨updates, created, modified, contents⟩ := record
  cases contents <;> simp [VaultMap.isPasskey, h, Record.isPasskey]

theorem VaultMap.isPasskey_set_of_ne {V : VaultMap} {id id' : RecordId} (h : id' ≠ id)
    (record : Option Record) (now : UInt64) :
    (V.set id record now).isPasskey id' = V.isPasskey id' := by
  simp only [VaultMap.isPasskey, V.set_records_of_ne h]

namespace VaultMap.WellFormed

variable {V : VaultMap} {ids : List RecordId} (h : V.WellFormed ids) {id : RecordId}
include h

/-- Storing a record with times in order and a credential id that no other passkey has. -/
theorem set_some {record : Record} {now : UInt64}
    (htimes : record.created_at_ms ≤ record.modified_at_ms ∧ record.modified_at_ms ≤ now)
    (hnow : V.committed_at_ms ≤ now)
    (hcredential : ∀ passkey, record.contents = .passkey passkey → ∀ id' record' passkey',
      V.HasPasskey id' record' passkey' → passkey'.credential_id = passkey.credential_id → id' = id)
    {ids' : List RecordId}
    (hcapacity : ids'.countP (V.set id (some record) now).isPasskey ≤ maxPasskeyCredentials) :
    (V.set id (some record) now).WellFormed ids' where
  times := by
    intro id' record' hrecord'
    by_cases hid : id' = id
    · subst hid
      rw [set_records_self, Option.some.injEq] at hrecord'
      exact hrecord' ▸ htimes
    · rw [V.set_records_of_ne hid] at hrecord'
      obtain ⟨h1, h2⟩ := h.times id' record' hrecord'
      exact ⟨h1, UInt64.le_trans h2 hnow⟩
  credentials := by
    have hother : ∀ id₁ record₁ passkey₁, (V.set id (some record) now).HasPasskey id₁ record₁
        passkey₁ → id₁ = id ∧ record.contents = .passkey passkey₁ ∨
          V.HasPasskey id₁ record₁ passkey₁ := by
      rintro id₁ record₁ passkey₁ ⟨hrecord, hcontents⟩
      by_cases hid : id₁ = id
      · subst hid
        rw [set_records_self, Option.some.injEq] at hrecord
        exact .inl ⟨rfl, hrecord ▸ hcontents⟩
      · rw [V.set_records_of_ne hid] at hrecord
        exact .inr ⟨hrecord, hcontents⟩
    intro id₁ id₂ record₁ record₂ passkey₁ passkey₂ h₁ h₂ heq
    rcases hother _ _ _ h₁ with ⟨hid₁, hc₁⟩ | h₁'
    · rcases hother _ _ _ h₂ with ⟨hid₂, -⟩ | h₂'
      · rw [hid₁, hid₂]
      · rw [hid₁, hcredential _ hc₁ _ _ _ h₂' heq.symm]
    · rcases hother _ _ _ h₂ with ⟨hid₂, hc₂⟩ | h₂'
      · rw [hid₂, hcredential _ hc₂ _ _ _ h₁' heq]
      · exact h.credentials _ _ _ _ _ _ h₁' h₂' heq
  capacity := hcapacity

/-- A new record counts towards the capacity when it is a passkey. -/
theorem capacity_insert {record : Record} {now : UInt64} {ids' : List RecordId} (hid : id ∉ ids)
    (hids : ids'.Perm (ids ++ [id]))
    (hroom : record.isPasskey → ids.countP V.isPasskey < maxPasskeyCredentials) :
    ids'.countP (V.set id (some record) now).isPasskey ≤ maxPasskeyCredentials := by
  have hsame : ids.countP (V.set id (some record) now).isPasskey = ids.countP V.isPasskey := by
    apply List.countP_congr
    intro id' hmem
    rw [VaultMap.isPasskey_set_of_ne (ne_of_mem_of_not_mem hmem hid)]
  have hnew : (V.set id (some record) now).isPasskey id = record.isPasskey :=
    VaultMap.isPasskey_of_some (V.set_records_self _ _ _)
  rw [hids.countP_eq, List.countP_append, hsame, List.countP_singleton, hnew]
  have := h.capacity
  split_ifs with hpasskey
  · have := hroom hpasskey
    omega
  · omega

/-- A new version of a record of the same family leaves the capacity as it is. -/
theorem capacity_update {record record' : Record} {now : UInt64} {ids' : List RecordId}
    (hrecord : V.records id = some record) (hfamily : record'.isPasskey = record.isPasskey)
    (hids : ids'.Perm ids) :
    ids'.countP (V.set id (some record') now).isPasskey ≤ maxPasskeyCredentials := by
  rw [hids.countP_eq]
  refine le_of_eq_of_le (List.countP_congr ?_) h.capacity
  intro id' _
  by_cases hid : id' = id
  · subst hid
    rw [VaultMap.isPasskey_of_some (V.set_records_self _ _ _), hfamily,
      VaultMap.isPasskey_of_some hrecord]
  · rw [VaultMap.isPasskey_set_of_ne hid]

/-- Removing a record. -/
theorem set_none {now : UInt64} (hnow : V.committed_at_ms ≤ now) {ids' : List RecordId}
    (hids : ids'.Sublist ids) (hid : id ∉ ids') : (V.set id none now).WellFormed ids' where
  times := by
    intro id' record' hrecord'
    by_cases hid : id' = id
    · simp [hid] at hrecord'
    · rw [V.set_records_of_ne hid] at hrecord'
      obtain ⟨h1, h2⟩ := h.times id' record' hrecord'
      exact ⟨h1, UInt64.le_trans h2 hnow⟩
  credentials := by
    have hother : ∀ id₁ record₁ passkey₁, (V.set id none now).HasPasskey id₁ record₁ passkey₁ →
        V.HasPasskey id₁ record₁ passkey₁ := by
      rintro id₁ record₁ passkey₁ ⟨hrecord, hcontents⟩
      by_cases hid : id₁ = id
      · simp [hid] at hrecord
      · rw [V.set_records_of_ne hid] at hrecord
        exact ⟨hrecord, hcontents⟩
    intro id₁ id₂ record₁ record₂ passkey₁ passkey₂ h₁ h₂ heq
    exact h.credentials _ _ _ _ _ _ (hother _ _ _ h₁) (hother _ _ _ h₂) heq
  capacity := by
    have hsame : ids'.countP (V.set id none now).isPasskey = ids'.countP V.isPasskey := by
      apply List.countP_congr
      intro id' hmem
      rw [VaultMap.isPasskey_set_of_ne (ne_of_mem_of_not_mem hmem hid)]
    rw [hsame]
    exact (hids.countP_le).trans h.capacity

end VaultMap.WellFormed

end

end Librarian.Core
