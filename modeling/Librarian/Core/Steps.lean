import Librarian.Core.Readout

/-!
# Every mutation is a step of the map

One lemma for each of the seven operations: when it has prepared a mutation against a represented
vault, the mutation commits, and the new vault represents the map after the abstract step. What an
operation reads on the way (the account to update, the passkey to confirm) is what the map has,
because a visit folds over the readout.
-/

namespace Librarian.Core

open Librarian.Format

/-! ## The parts of a preparation -/

/-- An identifier that has been allocated was accepted. -/
theorem allocate_accept {n : ℕ} {accept : Bytes n → Bool} {attempts : ℕ} {entropy rest : Entropy}
    {value : Bytes n} (h : allocate accept attempts entropy = .ok (value, rest)) :
    accept value := by
  induction attempts generalizing entropy with
  | zero => simp [allocate] at h
  | succ attempts ih =>
    simp only [allocate, randomArray?] at h
    split at h
    · split_ifs at h with haccept
      · simp only [Except.ok.injEq, Prod.mk.injEq] at h
        exact h.1 ▸ haccept
      · exact ih h
    · exact ih h

/-- A successor that exists is one more. -/
theorem checkedSucc_eq_some {a b : UInt64} (h : checkedSucc a = some b) :
    b.toNat = a.toNat + 1 := by
  unfold checkedSucc at h
  split_ifs at h with hlt
  cases h
  rw [UInt64.toNat_add]
  exact Nat.mod_eq_of_lt hlt

theorem checkedSucc32_eq_some {a b : UInt32} (h : checkedSucc32 a = some b) :
    a.toNat + 1 < 2 ^ 32 ∧ b = a + 1 := by
  unfold checkedSucc32 at h
  split_ifs at h with hlt
  cases h
  exact ⟨hlt, rfl⟩

/-- The later of two times is not earlier than the second. -/
theorem le_max_time (a b : UInt64) : b ≤ max a b := by
  rw [UInt64.le_iff_toNat_le]
  change b.toNat ≤ (if a ≤ b then b else a).toNat
  split_ifs with hle
  · exact le_rfl
  · rw [UInt64.le_iff_toNat_le] at hle
    omega

/-- The later of two times is the first when the second is not later. -/
theorem max_time_eq_left {a b : UInt64} (h : b ≤ a) : max a b = a := by
  change (if a ≤ b then b else a) = a
  split_ifs with hle
  · exact UInt64.le_antisymm h hle
  · rfl

section

variable {P : Primitives}

/-- A signing key that has been generated is one. -/
theorem generateSigningKeyLoop_signingKey {attempts : ℕ} {entropy rest : Entropy}
    {key : Bytes 32} (h : generateSigningKeyLoop P attempts entropy = .ok (key, rest)) :
    P.signingKey key := by
  induction attempts generalizing entropy with
  | zero => simp [generateSigningKeyLoop] at h
  | succ attempts ih =>
    rw [generateSigningKeyLoop, Draw.bind_eq_ok] at h
    obtain ⟨candidate, rest', -, h⟩ := h
    split_ifs at h with hkey
    · simp only [Draw.pure_apply, Except.ok.injEq, Prod.mk.injEq] at h
      exact h.1 ▸ hkey
    · exact ih h

/-- What `prepare_upsert` stores. -/
theorem prepareUpsert_spec (hP : Lawful P) {vault : UnlockedVault} {kind : RecordMutationKind}
    {id : RecordId} {revision created_at_ms now : UInt64} {input : WebsiteAccountInput P}
    {entropy rest : Entropy} {mutation : PreparedRecordMutation}
    (h : prepareUpsert P vault kind id revision created_at_ms input now entropy =
      .ok (mutation, rest)) :
    ∃ plaintext, Stored P ⟨revision.toNat - 1, created_at_ms, now, .websiteAccount input.contents⟩
        plaintext ∧ created_at_ms ≤ now ∧
      UpsertSpec P vault kind id plaintext now mutation := by
  simp only [prepareUpsert, Draw.lift_bind_apply, Except.bind_eq_ok, Except.mapErr_eq_ok,
    WebsiteAccountPlaintext.encode_eq, Except.ok.injEq] at h
  obtain ⟨value, hnew, plaintext, rfl, hupsert⟩ := h
  have hfields := WebsiteAccountPlaintext.new_eq_ok.mp hnew
  obtain ⟨origin, horigin⟩ := input.normalized
  have hnormal : normalizeOrigin P value.permitted_origin = .ok value.permitted_origin := by
    rw [hfields]
    exact hP.normalizeOrigin_idem _ _ horigin
  have hrecord : WebsiteAccountPlaintext.record value =
      ⟨revision.toNat - 1, created_at_ms, now, .websiteAccount input.contents⟩ := by
    simp only [WebsiteAccountPlaintext.record, hfields]
    rfl
  have htimes := value.valid.times
  simp only [hfields] at htimes
  exact ⟨_, hrecord ▸ .websiteAccount value hnormal, htimes, preparePlaintextUpsert_spec hupsert⟩

/-- What the passkey operations store: the plaintext of given fields with a normalised relying
party and a signing key. -/
theorem preparePasskeyUpsert_spec {vault : UnlockedVault} {kind : RecordMutationKind}
    {id : RecordId} {fields : PasskeyFields} {now : UInt64} {value : PasskeyPlaintext}
    (hnew : PasskeyPlaintext.new fields = .ok value) {plaintext : List UInt8}
    (hencode : value.encode = .ok plaintext)
    (hnormal : normalizeRpId P fields.rp_id = .ok fields.rp_id)
    (hkey : P.signingKey fields.private_key) {entropy rest : Entropy}
    {mutation : PreparedRecordMutation}
    (h : preparePlaintextUpsert P vault kind id plaintext now entropy = .ok (mutation, rest)) :
    Stored P ⟨fields.revision.toNat - 1, fields.created_at_ms, fields.modified_at_ms,
      .passkey ⟨fields.signature_counter, fields.creation_state, fields.rp_id, fields.user_handle,
        fields.user_name, fields.user_display_name, fields.credential_id, fields.private_key⟩⟩
        plaintext ∧
      UpsertSpec P vault kind id plaintext now mutation := by
  obtain rfl := PasskeyPlaintext.new_eq_ok.mp hnew
  rw [PasskeyPlaintext.encode_eq, Except.ok.injEq] at hencode
  subst hencode
  exact ⟨.passkey value hnormal hkey, preparePlaintextUpsert_spec h⟩

/-! ## The steps -/

variable {password : MasterPassword} {vault : StoredVault} {V : VaultMap}

/-- What a step lemma says: the prepared mutation commits, to a vault that represents the map after
the abstract step. -/
def Simulates (P : Primitives) (password : MasterPassword) (vault : StoredVault) (V : VaultMap)
    (mutation : Mutation P) (prepared : PreparedRecordMutation) : Prop :=
  ∃ V', VaultMap.Step mutation V V' ∧
    ∃ vault', vault.commit prepared = some vault' ∧ Represents P password vault' V'

namespace Represents

/-- A record id that has been allocated is not in use. -/
theorem fresh (h : Represents P password vault V) {entropy rest : Entropy} {id : RecordId}
    (hid : allocateRecordId vault.session entropy = .ok (id, rest)) :
    ∀ row ∈ vault.snapshot.records, row.id ≠ id := by
  have haccept := allocate_accept hid
  rw [← h.rows] at haccept
  simp only [List.any_map, Bool.not_eq_eq_eq_not, Bool.not_true, List.any_eq_false,
    Function.comp_apply, decide_eq_true_eq] at haccept
  exact haccept

/-- The time of a mutation that stores a record is not earlier than the vault's. -/
theorem upsert_le (h : Represents P password vault V) {kind : RecordMutationKind} {id : RecordId}
    {plaintext : List UInt8} {now : UInt64} {prepared : PreparedRecordMutation}
    (hspec : UpsertSpec P vault.session kind id plaintext now prepared) :
    V.committed_at_ms ≤ now := by
  obtain ⟨_, _, -, -, hmutation⟩ := hspec
  exact h.committed_le hmutation

variable (hP : Lawful P) (h : Represents P password vault V) {should_cancel : ℕ → Bool}
  {entropy rest : Entropy} {prepared : PreparedRecordMutation}

include hP h

theorem addWebsiteAccount {input : WebsiteAccountInput P} {now : UInt64}
    (hprepare : prepareAddWebsiteAccount P vault.session vault.snapshot input now should_cancel
      entropy = .ok (prepared, rest)) :
    Simulates P password vault V (.addWebsiteAccount input now) prepared := by
  simp only [prepareAddWebsiteAccount, prepareAddWithEntropy, Draw.lift_bind_apply,
    Except.bind_eq_ok] at hprepare
  obtain ⟨-, -, hprepare⟩ := hprepare
  split_ifs at hprepare
  · simp at hprepare
  simp only [Draw.bind_eq_ok] at hprepare
  obtain ⟨id, rest', hid, hupsert⟩ := hprepare
  have hfresh := h.fresh hid
  obtain ⟨plaintext, hstored, -, hspec⟩ := prepareUpsert_spec hP hupsert
  obtain ⟨vault', hcommit, hrepresents⟩ := h.upsert hP hspec (fun _ => hfresh) hstored (by
    intro hnow ids hids
    rw [if_pos rfl] at hids
    refine h.wellFormed.set_some ⟨UInt64.le_refl _, UInt64.le_refl _⟩ hnow (by simp) ?_
    refine h.wellFormed.capacity_insert ?_ hids (by simp [Record.isPasskey])
    simpa using hfresh)
  exact ⟨_, .addWebsiteAccount id (h.records_eq_none hfresh) (h.upsert_le hspec), vault', hcommit,
    hrepresents⟩

omit hP in
/-- An account that an operation has read is the record of the map. -/
theorem getWebsiteAccount {id : RecordId} {account : WebsiteAccount}
    (haccount : Core.getWebsiteAccount P vault.session vault.snapshot id should_cancel =
      .ok account) :
    ∃ record, V.records id = some record ∧ AccountOf record account := by
  simp only [Core.getWebsiteAccount, Except.bind_eq_ok, Option.okOr_eq_ok] at haccount
  obtain ⟨-, hvisit, rfl⟩ := haccount
  obtain ⟨decrypted, hreadout⟩ := h.readout
  rcases foldl_findAccount_eq_some (hreadout.visitSnapshot hvisit) with hnone | ⟨hmem, rfl⟩
  · simp at hnone
  · exact (hreadout.accounts account).mp hmem

theorem updateWebsiteAccount {id : RecordId} {input : WebsiteAccountInput P} {now : UInt64}
    (hprepare : prepareUpdateWebsiteAccount P vault.session vault.snapshot id input now
      should_cancel entropy = .ok (prepared, rest)) :
    Simulates P password vault V (.updateWebsiteAccount id input now) prepared := by
  simp only [prepareUpdateWebsiteAccount, Draw.lift_bind_apply, Except.bind_eq_ok,
    Option.okOr_eq_ok] at hprepare
  obtain ⟨account, haccount, revision, hrevision, hupsert⟩ := hprepare
  obtain ⟨record, hrecord, hof⟩ := h.getWebsiteAccount haccount
  obtain ⟨plaintext, hstored, hcreated, hspec⟩ := prepareUpsert_spec hP hupsert
  -- The account's revision counts the updates, and the new one counts this update.
  have hupdates : revision.toNat - 1 = record.updates + 1 := by
    rw [checkedSucc_eq_some hrevision, hof.revision]
    omega
  rw [hupdates, hof.created_at_ms] at hstored
  rw [hof.created_at_ms] at hcreated
  obtain ⟨vault', hcommit, hrepresents⟩ := h.upsert hP hspec (by simp) hstored (by
    intro hnow ids hids
    rw [if_neg (by simp)] at hids
    refine h.wellFormed.set_some ⟨hcreated, UInt64.le_refl _⟩ hnow (by simp) ?_
    exact h.wellFormed.capacity_update hrecord (by simp [Record.isPasskey, hof.contents]) hids)
  exact ⟨_, .updateWebsiteAccount record _ hrecord hof.contents (h.upsert_le hspec), vault',
    hcommit, hrepresents⟩

theorem deleteWebsiteAccount {id : RecordId} {now : UInt64}
    (hprepare : prepareDeleteWebsiteAccount P vault.session vault.snapshot id now should_cancel
      entropy = .ok (prepared, rest)) :
    Simulates P password vault V (.deleteWebsiteAccount id now) prepared := by
  simp only [prepareDeleteWebsiteAccount, Draw.lift_bind_apply, Except.bind_eq_ok] at hprepare
  obtain ⟨account, haccount, hprepare⟩ := hprepare
  split_ifs at hprepare
  · simp at hprepare
  obtain ⟨record, hrecord, hof⟩ := h.getWebsiteAccount haccount
  have hspec := prepareManifestMutation_spec hprepare
  obtain ⟨vault', hcommit, hrepresents⟩ := h.delete hP hspec ⟨record, hrecord⟩
    fun hnow ids hids hid => h.wellFormed.set_none hnow hids hid
  exact ⟨_, .deleteWebsiteAccount record _ hrecord hof.contents (h.committed_le hspec), vault',
    hcommit, hrepresents⟩

/-- What the creation of a passkey stores. -/
theorem addPasskey_spec {input : PasskeyInput P} {excluded : List (Bytes 32)}
    {creation_state : PasskeyCreationState} {now : UInt64} {credential : PasskeyCredential}
    (hprepare : prepareAddPasskey P vault.session vault.snapshot input excluded creation_state now
      should_cancel entropy = .ok ((prepared, credential), rest)) :
    ∃ id private_key vault', V.records id = none ∧
      (∀ id' record passkey, V.HasPasskey id' record passkey →
        passkey.credential_id ≠ credential.credential_id) ∧
      vault.commit prepared = some vault' ∧
      Represents P password vault' (V.set id (some ⟨0, max now V.committed_at_ms,
        max now V.committed_at_ms, .passkey ⟨0, creation_state, input.rp_id, input.user_handle,
          input.user_name, input.user_display_name, credential.credential_id, private_key⟩⟩)
        (max now V.committed_at_ms)) := by
  simp only [prepareAddPasskey, Draw.lift_bind_apply, Except.bind_eq_ok] at hprepare
  obtain ⟨state, hvisit, hprepare⟩ := hprepare
  split_ifs at hprepare with hroom hconflict hfull
  all_goals try simp only [Draw.throw_bind_apply, reduceCtorEq] at hprepare
  simp only [Draw.bind_eq_ok] at hprepare
  obtain ⟨id, _, hid, credential_id, _, hcredential, private_key, _, hkey, hprepare⟩ := hprepare
  have hsigning := generateSigningKeyLoop_signingKey hkey
  simp only [hsigning, not_true_eq_false, if_false, Draw.lift_bind_apply, Except.bind_eq_ok,
    Draw.bind_eq_ok, Except.mapErr_eq_ok, Draw.pure_apply, Except.ok.injEq, Prod.mk.injEq]
    at hprepare
  obtain ⟨public_key, -, value, hnew, plaintext, hencode, mutation, _, hupsert, ⟨rfl, rfl⟩, -⟩ :=
    hprepare
  obtain ⟨hstored, hspec⟩ := preparePasskeyUpsert_spec hnew hencode input.normalized hsigning
    hupsert
  -- What the visit has collected are the credential ids of all passkeys.
  obtain ⟨decrypted, hreadout⟩ := h.readout
  have hfold := hreadout.visitSnapshot hvisit
  simp only [not_or, Bool.not_eq_true, hasPasskeyCapacity, decide_eq_true_eq, not_not] at hroom
  obtain ⟨-, hexisting⟩ := foldl_noteExisting (hfold ▸ hroom.1)
  rw [hfold, List.append_nil] at hexisting
  have hcapacity : (vault.snapshot.records.map EncryptedRecord.id).countP V.isPasskey <
      maxPasskeyCredentials := by
    have := hroom.2
    rwa [hexisting, List.length_reverse, List.length_map, ← hreadout.countP_isPasskey] at this
  have hunused : ∀ id' record passkey, V.HasPasskey id' record passkey →
      passkey.credential_id ≠ credential_id := by
    rintro id' record passkey hpasskey rfl
    obtain ⟨result, hmem, -, -, hcontents⟩ := hreadout.exists_passkey hpasskey
    have haccept := allocate_accept hcredential
    simp only [hexisting, Bool.and_eq_true, decide_eq_true_eq, List.mem_reverse, List.mem_map,
      not_exists, not_and] at haccept
    exact haccept.2 result (mem_passkeysOf.mpr hmem) (by rw [← hcontents]; rfl)
  have hfresh := h.fresh hid
  obtain ⟨vault', hcommit, hrepresents⟩ := h.upsert hP hspec (fun _ => hfresh) hstored (by
    intro hnow ids hids
    rw [if_pos rfl] at hids
    refine h.wellFormed.set_some ⟨UInt64.le_refl _, UInt64.le_refl _⟩ hnow ?_ ?_
    · rintro passkey hpasskey id' record' passkey' hhas heq
      rw [Contents.passkey.injEq] at hpasskey
      exact absurd (heq.trans (by rw [← hpasskey])) (hunused _ _ _ hhas)
    · exact h.wellFormed.capacity_insert (by simpa using hfresh) hids fun _ => hcapacity)
  rw [passkeyManifestTime, h.committed] at hrepresents
  exact ⟨id, private_key, vault', h.records_eq_none hfresh, hunused, hcommit, hrepresents⟩

theorem addPasskey {input : PasskeyInput P} {excluded : List (Bytes 32)}
    {creation_state : PasskeyCreationState} {now : UInt64} {credential : PasskeyCredential}
    (hprepare : prepareAddPasskey P vault.session vault.snapshot input excluded creation_state now
      should_cancel entropy = .ok ((prepared, credential), rest)) :
    Simulates P password vault V (.addPasskey input excluded creation_state now) prepared := by
  obtain ⟨id, private_key, vault', hfresh, hunused, hcommit, hrepresents⟩ :=
    h.addPasskey_spec hP hprepare
  exact ⟨_, .addPasskey id credential.credential_id private_key hfresh hunused, vault', hcommit,
    hrepresents⟩

omit hP in
/-- A passkey that an operation has found is the record of the map with the credential id. -/
theorem findPasskey {credential_id : Bytes 32} {passkey : PasskeyRecord} {duplicate : Bool}
    (hvisit : visitSnapshot P vault.session vault.snapshot should_cancel
      (Core.findPasskey credential_id) (none, false) = .ok (some passkey, duplicate)) :
    passkey.credential_id = credential_id ∧
      ∃ record, V.records passkey.id = some record ∧ PasskeyOf record passkey := by
  obtain ⟨decrypted, hreadout⟩ := h.readout
  have hfold := congrArg Prod.fst (hreadout.visitSnapshot hvisit)
  rcases foldl_findPasskey_eq_some hfold with hnone | ⟨hmem, hid⟩
  · simp at hnone
  · exact ⟨hid, (hreadout.passkeys passkey).mp hmem⟩

omit hP in
/-- The reader's further checks hold of a stored passkey. -/
theorem passkey_stored {id : RecordId} {record : Record} {passkey : PasskeyContents}
    (hpasskey : V.HasPasskey id record passkey) :
    normalizeRpId P passkey.rp_id = .ok passkey.rp_id ∧ P.signingKey passkey.private_key := by
  obtain ⟨hrecord, hcontents⟩ := hpasskey
  obtain ⟨row, hmem, rfl⟩ := h.exists_row hrecord
  obtain ⟨record', plaintext, hrecord', hstored, -⟩ := h.holds.row row hmem
  rw [hrecord, Option.some.injEq] at hrecord'
  subst hrecord'
  cases hstored with
  | websiteAccount value hnormal => simp [WebsiteAccountPlaintext.record] at hcontents
  | passkey value hnormal hkey =>
    simp only [PasskeyPlaintext.record, Contents.passkey.injEq] at hcontents
    subst hcontents
    exact ⟨hnormal, hkey⟩

omit hP in
/-- A record is not created after the last commit, so the update time is the manifest's. -/
theorem passkeyUpdateTime_eq {id : RecordId} {record : Record} (hrecord : V.records id = some record)
    (now : UInt64) : passkeyUpdateTime record.created_at_ms vault.session.manifest.committed_at_ms
      now = max now V.committed_at_ms := by
  obtain ⟨hcreated, hmodified⟩ := h.wellFormed.times _ _ hrecord
  rw [passkeyUpdateTime, passkeyManifestTime, h.committed]
  have hle := UInt64.le_trans (UInt64.le_trans hcreated hmodified) (le_max_time now _)
  exact max_time_eq_left hle

/-- The new version of a passkey, as a mutation of the map. -/
theorem rewritePasskey {passkey : PasskeyRecord} {record : Record}
    (hrecord : V.records passkey.id = some record) (hof : PasskeyOf record passkey)
    {revision : UInt64} (hrevision : checkedSucc passkey.revision = some revision)
    {counter : UInt32} {now : UInt64}
    (hrewrite : Core.rewritePasskey P vault.session passkey revision counter now entropy =
      .ok (prepared, rest)) :
    ∃ vault', vault.commit prepared = some vault' ∧ Represents P password vault'
      (V.set passkey.id (some ⟨record.updates + 1, record.created_at_ms, max now V.committed_at_ms,
        .passkey { passkey.contents with
          signature_counter := counter, creation_state := .confirmed }⟩)
        (max now V.committed_at_ms)) := by
  simp only [Core.rewritePasskey, Draw.lift_bind_apply, Except.bind_eq_ok, Except.mapErr_eq_ok]
    at hrewrite
  obtain ⟨value, hnew, plaintext, hencode, hupsert⟩ := hrewrite
  obtain ⟨hnormal, hkey⟩ := h.passkey_stored ⟨hrecord, hof.contents⟩
  obtain ⟨hstored, hspec⟩ := preparePasskeyUpsert_spec hnew hencode hnormal hkey hupsert
  have hupdates : revision.toNat - 1 = record.updates + 1 := by
    rw [checkedSucc_eq_some hrevision, hof.revision]
    omega
  simp only [hupdates, hof.created_at_ms, h.passkeyUpdateTime_eq hrecord] at hstored hspec
  refine h.upsert hP hspec (by simp) hstored ?_
  intro hnow ids hids
  rw [if_neg (by simp)] at hids
  obtain ⟨hcreated, hmodified⟩ := h.wellFormed.times _ _ hrecord
  have hle := UInt64.le_trans hcreated (UInt64.le_trans hmodified hnow)
  refine h.wellFormed.set_some ⟨hle, UInt64.le_refl _⟩ hnow ?_ ?_
  · -- The credential id is the old one, which no other passkey has.
    rintro passkey' hpasskey' id' record' other hother heq
    rw [Contents.passkey.injEq] at hpasskey'
    exact h.wellFormed.credentials _ _ _ _ _ _ hother ⟨hrecord, hof.contents⟩
      (heq.trans (by rw [← hpasskey']))
  · exact h.wellFormed.capacity_update hrecord (by simp [Record.isPasskey, hof.contents]) hids

theorem confirmPasskeyCreation {credential_id : Bytes 32} {now : UInt64}
    (hprepare : prepareConfirmPasskeyCreation P vault.session vault.snapshot credential_id now
      should_cancel entropy = .ok (prepared, rest)) :
    Simulates P password vault V (.confirmPasskeyCreation credential_id now) prepared := by
  simp only [prepareConfirmPasskeyCreation, Draw.lift_bind_apply, Except.bind_eq_ok] at hprepare
  obtain ⟨⟨found, duplicate⟩, hvisit, hprepare⟩ := hprepare
  split_ifs at hprepare
  · simp at hprepare
  simp only [Draw.lift_bind_apply, Except.bind_eq_ok, Option.okOr_eq_ok] at hprepare
  obtain ⟨passkey, rfl, hprepare⟩ := hprepare
  split_ifs at hprepare with hpending
  · simp at hprepare
  simp only [Draw.lift_bind_apply, Except.bind_eq_ok, Option.okOr_eq_ok] at hprepare
  obtain ⟨revision, hrevision, hrewrite⟩ := hprepare
  obtain ⟨rfl, record, hrecord, hof⟩ := h.findPasskey hvisit
  obtain ⟨vault', hcommit, hrepresents⟩ := h.rewritePasskey hP hrecord hof hrevision hrewrite
  exact ⟨_, .confirmPasskeyCreation passkey.id record passkey.contents ⟨hrecord, hof.contents⟩
    (not_not.mp hpending), vault', hcommit, hrepresents⟩

/-- What an assertion stores, and the counter that it carries. -/
theorem passkeyAssertion_spec {rp_id : String} {credential_id client_data_hash : Bytes 32}
    {now : UInt64} {assertion : PasskeyAssertion}
    (hprepare : preparePasskeyAssertion P vault.session vault.snapshot rp_id credential_id
      client_data_hash now should_cancel entropy = .ok ((prepared, assertion), rest)) :
    ∃ id record passkey vault', V.HasPasskey id record passkey ∧
      passkey.credential_id = credential_id ∧ passkey.creation_state = .confirmed ∧
      normalizeRpId P rp_id = .ok passkey.rp_id ∧ passkey.signature_counter.toNat + 1 < 2 ^ 32 ∧
      assertion.credential_id = credential_id ∧
      assertion.authenticator_data =
        authenticatorData P passkey.rp_id (passkey.signature_counter + 1) ∧
      vault.commit prepared = some vault' ∧
      Represents P password vault' (V.set id (some ⟨record.updates + 1, record.created_at_ms,
        max now V.committed_at_ms,
        .passkey { passkey with signature_counter := passkey.signature_counter + 1 }⟩)
        (max now V.committed_at_ms)) := by
  simp only [preparePasskeyAssertion, Draw.lift_bind_apply, Except.bind_eq_ok,
    Except.exists_unit_eq, Except.mapErr_eq_ok] at hprepare
  obtain ⟨hmetadata, expected, hexpected, ⟨found, duplicate⟩, hrecords, hprepare⟩ := hprepare
  have hvisit : visitSnapshot P vault.session vault.snapshot should_cancel
      (Core.findPasskey credential_id) (none, false) = .ok (found, duplicate) := by
    simp [visitSnapshot, hmetadata, hrecords]
  split_ifs at hprepare
  · simp at hprepare
  simp only [Draw.lift_bind_apply, Except.bind_eq_ok, Option.okOr_eq_ok] at hprepare
  obtain ⟨passkey, rfl, hprepare⟩ := hprepare
  have hstate : passkey.creation_state = .confirmed := by
    by_contra hne
    simp [hne] at hprepare
  have hrp : passkey.rp_id = expected := by
    by_contra hne
    simp [hstate, hne] at hprepare
  subst hrp
  simp only [hstate, ne_eq, not_true_eq_false, if_false, Draw.lift_bind_apply, Except.bind_eq_ok,
    Option.okOr_eq_ok] at hprepare
  obtain ⟨revision, hrevision, counter, hcounter, hprepare⟩ := hprepare
  obtain ⟨rfl, record, hrecord, hof⟩ := h.findPasskey hvisit
  have hkey : P.signingKey passkey.private_key :=
    (h.passkey_stored ⟨hrecord, hof.contents⟩).2
  simp only [hkey, not_true_eq_false, if_false, Draw.bind_eq_ok, Draw.pure_apply, Except.ok.injEq,
    Prod.mk.injEq] at hprepare
  obtain ⟨mutation, _, hrewrite, ⟨rfl, rfl⟩, -⟩ := hprepare
  obtain ⟨vault', hcommit, hrepresents⟩ := h.rewritePasskey hP hrecord hof hrevision hrewrite
  obtain ⟨hbound, rfl⟩ := checkedSucc32_eq_some hcounter
  have hcontents : ({ passkey.contents with
      signature_counter := passkey.signature_counter + 1
      creation_state := .confirmed } : PasskeyContents) =
      { passkey.contents with
        signature_counter := passkey.contents.signature_counter + 1 } := by
    simp [PasskeyRecord.contents, hstate]
  rw [hcontents] at hrepresents
  exact ⟨passkey.id, record, passkey.contents, vault', ⟨hrecord, hof.contents⟩, rfl, hstate,
    hexpected, hbound, rfl, rfl, hcommit, hrepresents⟩

theorem passkeyAssertion {rp_id : String} {credential_id client_data_hash : Bytes 32}
    {now : UInt64} {assertion : PasskeyAssertion}
    (hprepare : preparePasskeyAssertion P vault.session vault.snapshot rp_id credential_id
      client_data_hash now should_cancel entropy = .ok ((prepared, assertion), rest)) :
    Simulates P password vault V (.passkeyAssertion rp_id credential_id client_data_hash now)
      prepared := by
  obtain ⟨id, record, passkey, vault', hpasskey, rfl, hstate, hexpected, hbound, -, -, hcommit,
    hrepresents⟩ := h.passkeyAssertion_spec hP hprepare
  exact ⟨_, .passkeyAssertion id record passkey hpasskey hstate hexpected hbound, vault', hcommit,
    hrepresents⟩

theorem deletePasskey {credential_id : Bytes 32} {now : UInt64}
    (hprepare : prepareDeletePasskey P vault.session vault.snapshot credential_id now should_cancel
      entropy = .ok (prepared, rest)) :
    Simulates P password vault V (.deletePasskey credential_id now) prepared := by
  simp only [prepareDeletePasskey, Draw.lift_bind_apply, Except.bind_eq_ok] at hprepare
  obtain ⟨⟨found, duplicate⟩, hvisit, hprepare⟩ := hprepare
  split_ifs at hprepare
  · simp at hprepare
  simp only [Draw.lift_bind_apply, Except.bind_eq_ok, Option.okOr_eq_ok] at hprepare
  obtain ⟨passkey, rfl, hmutation⟩ := hprepare
  obtain ⟨rfl, record, hrecord, hof⟩ := h.findPasskey hvisit
  obtain ⟨vault', hcommit, hrepresents⟩ := h.delete hP (prepareManifestMutation_spec hmutation)
    ⟨record, hrecord⟩ fun hnow ids hids hid => h.wellFormed.set_none hnow hids hid
  rw [passkeyManifestTime, h.committed] at hrepresents
  exact ⟨_, .deletePasskey passkey.id record passkey.contents ⟨hrecord, hof.contents⟩, vault',
    hcommit, hrepresents⟩

end Represents

end

end Librarian.Core
