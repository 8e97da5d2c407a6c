import Librarian.Core.Clock
import Librarian.Core.Listings

/-!
# Selecting and signing for a relying party

An assertion is made in two steps: the passkeys of a relying party are listed, and one of them
signs. The listing takes only canonical identifiers, refuses a snapshot in which a credential id is
repeated, and has room for a limited number of passkeys; signing normalises the identifier and looks
at one credential id. So an assertion can be prepared that was never listed
(`prepares_unlisted`). What agrees is stated in `assertion_agrees`.
-/

namespace Librarian.Core

open Librarian.Format

variable {P : Primitives} {vault : UnlockedVault} {snapshot : Snapshot}
  {should_cancel : ℕ → Bool} {decrypted : List DecryptedRecord}

/-! ## The listing -/

/-- What a visit has found invalid stays so. -/
theorem foldl_collectPasskey_invalid {α : Type} {selected : PasskeyRecord → Bool} {limit : ℕ}
    {project : PasskeyRecord → α} {state : CollectState α} (hstate : state.invalid = true) :
    (decrypted.foldl (collectPasskey selected limit project) state).invalid = true := by
  induction decrypted generalizing state with
  | nil => exact hstate
  | cons record decrypted ih =>
    refine ih ?_
    unfold collectPasskey
    split
    · exact hstate
    · split_ifs
      · rfl
      · rfl
      · exact hstate
      · exact hstate

/-- When the visit has found nothing invalid, no credential id is repeated and there was room. -/
theorem foldl_collectPasskey_valid {α : Type} {selected : PasskeyRecord → Bool} {limit : ℕ}
    {project : PasskeyRecord → α} {state : CollectState α}
    (h : (decrypted.foldl (collectPasskey selected limit project) state).invalid = false)
    (hstate : state.collected.length ≤ limit) :
    ((passkeysOf decrypted).map PasskeyRecord.credential_id).Nodup ∧
      (∀ passkey ∈ passkeysOf decrypted, passkey.credential_id ∉ state.credential_ids) ∧
      state.collected.length + (passkeysOf decrypted).countP selected ≤ limit := by
  induction decrypted generalizing state with
  | nil => exact ⟨List.nodup_nil, fun _ hmem => absurd hmem List.not_mem_nil, hstate⟩
  | cons record decrypted ih =>
    cases record with
    | websiteAccount a => exact ih h hstate
    | passkey p =>
      rw [List.foldl_cons] at h
      have hvalid {state' : CollectState α}
          (h : (decrypted.foldl (collectPasskey selected limit project) state').invalid = false) :
          state'.invalid ≠ true := by
        intro hinvalid
        rw [foldl_collectPasskey_invalid hinvalid] at h
        cases h
      have hp : p.credential_id ∉ state.credential_ids := by
        intro hmem
        rw [collectPasskey, if_pos hmem] at h
        exact hvalid h rfl
      rw [collectPasskey, if_neg hp] at h
      -- The later passkeys are new after this one, and so is this one.
      have hextend (hnew : ∀ passkey ∈ passkeysOf decrypted,
          passkey.credential_id ∉ p.credential_id :: state.credential_ids)
          (hnodup : ((passkeysOf decrypted).map PasskeyRecord.credential_id).Nodup) :
          ((p :: passkeysOf decrypted).map PasskeyRecord.credential_id).Nodup ∧
            ∀ passkey ∈ p :: passkeysOf decrypted,
              passkey.credential_id ∉ state.credential_ids := by
        rw [List.map_cons, List.nodup_cons, List.forall_mem_cons]
        refine ⟨⟨?_, hnodup⟩, hp, fun q hq hmem => hnew q hq (List.mem_cons_of_mem _ hmem)⟩
        intro hmem
        obtain ⟨q, hq, heq⟩ := List.mem_map.mp hmem
        exact hnew q hq (heq ▸ List.mem_cons_self)
      rw [passkeysOf_cons_passkey, List.countP_cons]
      split_ifs at h with hselected hfull
      · exact absurd rfl (hvalid h)
      · have hlength : (state.collected ++ [project p]).length ≤ limit := by
          rw [List.length_append, List.length_singleton]
          omega
        obtain ⟨hnodup, hnew, hroom⟩ := ih h hlength
        obtain ⟨hnodup', hnew'⟩ := hextend hnew hnodup
        rw [List.length_append, List.length_singleton] at hroom
        refine ⟨hnodup', hnew', ?_⟩
        rw [if_pos hselected]
        omega
      · obtain ⟨hnodup, hnew, hroom⟩ := ih h hstate
        obtain ⟨hnodup', hnew'⟩ := hextend hnew hnodup
        refine ⟨hnodup', hnew', ?_⟩
        rw [if_neg hselected]
        exact hroom

/-- A listing succeeds exactly when nothing is wrong with the request and the snapshot, and then it
has the matching passkeys in the order of the records. -/
theorem listPasskeysForAssertion_eq_ok {rp_id : String} {allowed : Option (List (Bytes 32))}
    {listed : List PasskeySummary} :
    listPasskeysForAssertion P vault snapshot rp_id allowed should_cancel = .ok listed ↔
      ¬AssertionRejected P rp_id allowed ∧
      (∀ j < snapshot.records.length, should_cancel j = false) ∧
      ∃ decrypted, Authentic P vault snapshot decrypted ∧
        ((passkeysOf decrypted).map PasskeyRecord.credential_id).Nodup ∧
        (passkeysOf decrypted).countP (matchesAssertion rp_id allowed) ≤
          maxPasskeyAssertionCandidates ∧
        ((passkeysOf decrypted).filter (matchesAssertion rp_id allowed)).map
          PasskeyRecord.summary = listed := by
  have hcollect (decrypted : List DecryptedRecord)
      (hnodup : ((passkeysOf decrypted).map PasskeyRecord.credential_id).Nodup)
      (hroom : (passkeysOf decrypted).countP (matchesAssertion rp_id allowed) ≤
        maxPasskeyAssertionCandidates) :
      (decrypted.foldl (collectPasskey (matchesAssertion rp_id allowed)
          maxPasskeyAssertionCandidates PasskeyRecord.summary) ⟨[], [], false⟩).invalid = false ∧
        (decrypted.foldl (collectPasskey (matchesAssertion rp_id allowed)
          maxPasskeyAssertionCandidates PasskeyRecord.summary) ⟨[], [], false⟩).collected =
          [] ++ ((passkeysOf decrypted).filter (matchesAssertion rp_id allowed)).map
            PasskeyRecord.summary := by
    refine foldl_collectPasskey PasskeyRecord.summary ⟨[], [], false⟩ hnodup
      (fun _ _ => List.not_mem_nil) ?_
    rw [List.length_nil, Nat.zero_add]
    exact hroom
  by_cases hrejected : AssertionRejected P rp_id allowed
  · rw [listPasskeysForAssertion_rejected hrejected]
    simp [hrejected]
  · rw [listPasskeysForAssertion_accepted hrejected]
    simp only [Except.throw_eq, Except.error_bind, Except.pure_eq, Except.bind_eq_ok,
      visitSnapshot_eq_ok, Except.ite_error_eq_ok, Except.ok.injEq, id_eq, Bool.not_eq_true]
    constructor
    · rintro ⟨state, ⟨huncancelled, decrypted, hauthentic, rfl⟩, hvalid, rfl⟩
      obtain ⟨hnodup, -, hroom⟩ := foldl_collectPasskey_valid hvalid (Nat.zero_le _)
      have hroom' : (passkeysOf decrypted).countP (matchesAssertion rp_id allowed) ≤
          maxPasskeyAssertionCandidates := by
        rw [List.length_nil, Nat.zero_add] at hroom
        exact hroom
      refine ⟨hrejected, huncancelled, decrypted, hauthentic, hnodup, hroom', ?_⟩
      exact ((hcollect decrypted hnodup hroom').2).symm
    · rintro ⟨-, huncancelled, decrypted, hauthentic, hnodup, hroom, rfl⟩
      obtain ⟨hvalid, hcollected⟩ := hcollect decrypted hnodup hroom
      exact ⟨_, ⟨huncancelled, decrypted, hauthentic, rfl⟩, hvalid, hcollected⟩

/-- An allow-list takes passkeys from the listing. -/
theorem matchesAssertion_some (rp_id : String) (ids : List (Bytes 32)) (passkey : PasskeyRecord) :
    matchesAssertion rp_id (some ids) passkey =
      (decide (passkey.credential_id ∈ ids) && matchesAssertion rp_id none passkey) := by
  rw [Bool.eq_iff_iff]
  simp [matchesAssertion]
  tauto

/-- A listing with an allow-list is the part of the whole listing that the allow-list names. -/
theorem listPasskeysForAssertion_some {rp_id : String} {listed : List PasskeySummary}
    (h : listPasskeysForAssertion P vault snapshot rp_id none should_cancel = .ok listed)
    {ids : List (Bytes 32)} (hids : ids.length ≤ maxPasskeyAssertionCandidates) :
    listPasskeysForAssertion P vault snapshot rp_id (some ids) should_cancel =
      .ok (listed.filter fun summary => summary.credential_id ∈ ids) := by
  obtain ⟨haccepted, huncancelled, decrypted, hauthentic, hnodup, hroom, rfl⟩ :=
    listPasskeysForAssertion_eq_ok.mp h
  have haccepted' : ¬AssertionRejected P rp_id (some ids) := by
    rintro (hlong | hnormal)
    · exact absurd hids (not_le.mpr hlong)
    · exact haccepted (.inr hnormal)
  have hfewer : (passkeysOf decrypted).countP (matchesAssertion rp_id (some ids)) ≤
      (passkeysOf decrypted).countP (matchesAssertion rp_id none) := by
    refine List.countP_mono_left fun passkey _ hmatches => ?_
    rw [matchesAssertion_some, Bool.and_eq_true] at hmatches
    exact hmatches.2
  refine listPasskeysForAssertion_eq_ok.mpr
    ⟨haccepted', huncancelled, decrypted, hauthentic, hnodup, hfewer.trans hroom, ?_⟩
  rw [List.filter_map, List.filter_filter]
  congr 2
  funext passkey
  exact matchesAssertion_some rp_id ids passkey

/-! ## The assertion -/

/-- A passkey that is read back has a canonical relying-party identifier. -/
theorem normalizeRpId_of_decryptRecord {record : EncryptedRecord} {passkey : PasskeyRecord}
    (h : decryptRecord P vault record = .ok (.passkey passkey)) :
    normalizeRpId P passkey.rp_id = .ok passkey.rp_id := by
  simp only [decryptRecord, Except.throw_eq, Except.error_bind, Except.bind_eq_ok,
    Except.mapErr_eq_ok, Option.okOr_eq_ok, Except.ite_error_eq_ok] at h
  obtain ⟨-, -, -, -, -, plaintext, -, kind, -, hresult⟩ := h
  cases kind with
  | websiteAccount =>
    simp only [decryptWebsiteAccountPlaintext, Except.throw_eq, Except.error_bind,
      Except.bind_eq_ok, Except.ite_error_eq_ok, Except.pure_eq, Except.ok.injEq, reduceCtorEq,
      and_false, exists_false] at hresult
  | passkey =>
    simp only [decryptPasskeyPlaintext, Except.throw_eq, Except.error_bind, Except.bind_eq_ok,
      Except.mapErr_eq_ok, Except.ite_error_eq_ok, Except.pure_eq, Except.ok.injEq,
      DecryptedRecord.passkey.injEq, not_not, ne_eq] at hresult
    obtain ⟨decoded, -, normalized, hnormal, rfl, -, rfl⟩ := hresult
    exact hnormal

theorem Authentic.normalizeRpId (h : Authentic P vault snapshot decrypted) {passkey : PasskeyRecord}
    (hmem : passkey ∈ passkeysOf decrypted) :
    Core.normalizeRpId P passkey.rp_id = .ok passkey.rp_id := by
  obtain ⟨row, -, hrow⟩ := Keyed.exists_of_forall₂ h.decrypts.flip (mem_passkeysOf.mp hmem)
  exact normalizeRpId_of_decryptRecord hrow

/-- What a prepared assertion says of the record that it was made with. -/
theorem preparePasskeyAssertion_spec {rp_id : String} {credential_id client_data_hash : Bytes 32}
    {now : UInt64} {entropy rest : Entropy} {prepared : PreparedRecordMutation}
    {assertion : PasskeyAssertion}
    (h : preparePasskeyAssertion P vault snapshot rp_id credential_id client_data_hash now
      should_cancel entropy = .ok ((prepared, assertion), rest)) :
    (∀ j < snapshot.records.length, should_cancel j = false) ∧
      ∃ decrypted passkey counter, Authentic P vault snapshot decrypted ∧
        passkey ∈ passkeysOf decrypted ∧ passkey.credential_id = credential_id ∧
        passkey.creation_state = .confirmed ∧ normalizeRpId P rp_id = .ok passkey.rp_id ∧
        assertion.credential_id = credential_id ∧
        assertion.authenticator_data = authenticatorData P passkey.rp_id counter := by
  simp only [preparePasskeyAssertion, Draw.lift_bind_apply, Except.bind_eq_ok,
    Except.exists_unit_eq, Except.mapErr_eq_ok] at h
  obtain ⟨hmetadata, expected, hexpected, ⟨found, duplicate⟩, hrecords, h⟩ := h
  have hvisit : visitSnapshot P vault snapshot should_cancel (findPasskey credential_id)
      (none, false) = .ok (found, duplicate) := by
    simp [visitSnapshot, hmetadata, hrecords]
  obtain ⟨huncancelled, decrypted, hauthentic, hfold⟩ := visitSnapshot_eq_ok.mp hvisit
  split_ifs at h
  · simp at h
  simp only [Draw.lift_bind_apply, Except.bind_eq_ok, Option.okOr_eq_ok] at h
  obtain ⟨passkey, rfl, h⟩ := h
  split_ifs at h with hconfirmed
  all_goals try simp only [Draw.throw_bind_apply, Draw.lift_bind_apply, Except.bind_eq_ok,
    reduceCtorEq, and_false, exists_false] at h
  rename_i hrp hkey
  simp only [Option.okOr_eq_ok] at h
  obtain ⟨revision, -, counter, -, h⟩ := h
  rw [map_pure_apply, Except.map_eq_ok] at h
  obtain ⟨result, -, hresult⟩ := h
  simp only [Prod.mk.injEq] at hresult
  obtain ⟨⟨-, rfl⟩, -⟩ := hresult
  have hfound : (decrypted.foldl (findPasskey credential_id) (none, false)).1 = some passkey := by
    rw [hfold]
  rcases foldl_findPasskey_eq_some hfound with hnone | ⟨hmem, hid⟩
  · cases hnone
  have hrp' : passkey.rp_id = expected := not_not.mp hrp
  refine ⟨huncancelled, decrypted, passkey, counter, hauthentic, mem_passkeysOf.mpr hmem, hid,
    not_not.mp hconfirmed, hrp' ▸ hexpected, rfl, ?_⟩
  rw [hrp']

/-- Selection and signing agree. A prepared assertion is of a confirmed passkey whose stored
relying-party identifier is the normalised one, and its authenticator data begin with the digest of
this identifier; the passkey is listed for it exactly when no credential id is repeated in the
snapshot and not too many passkeys match. And a listing with an allow-list is the part of the whole
listing that the allow-list names. -/
theorem assertion_agrees (P : Primitives) (vault : UnlockedVault) (snapshot : Snapshot) :
    (∀ rp_id credential_id client_data_hash now should_cancel entropy prepared assertion rest,
      preparePasskeyAssertion P vault snapshot rp_id credential_id client_data_hash now should_cancel
        entropy = .ok ((prepared, assertion), rest) →
      ∃ decrypted passkey, Authentic P vault snapshot decrypted ∧
        passkey ∈ passkeysOf decrypted ∧ passkey.credential_id = credential_id ∧
        normalizeRpId P rp_id = .ok passkey.rp_id ∧
        (P.sha256 (Utf8.encode passkey.rp_id)).val <+: assertion.authenticator_data ∧
        ((∃ listed, listPasskeysForAssertion P vault snapshot passkey.rp_id none should_cancel =
            .ok listed ∧ passkey.summary ∈ listed) ↔
          ((passkeysOf decrypted).map PasskeyRecord.credential_id).Nodup ∧
          (passkeysOf decrypted).countP (matchesAssertion passkey.rp_id none) ≤
            maxPasskeyAssertionCandidates)) ∧
    ∀ rp_id should_cancel listed,
      listPasskeysForAssertion P vault snapshot rp_id none should_cancel = .ok listed →
      ∀ ids : List (Bytes 32), ids.length ≤ maxPasskeyAssertionCandidates →
        listPasskeysForAssertion P vault snapshot rp_id (some ids) should_cancel =
          .ok (listed.filter fun summary => summary.credential_id ∈ ids) := by
  refine ⟨?_, fun rp_id should_cancel listed h ids hids => listPasskeysForAssertion_some h hids⟩
  intro rp_id credential_id client_data_hash now should_cancel entropy prepared assertion rest h
  obtain ⟨huncancelled, decrypted, passkey, counter, hauthentic, hmem, hid, hstate, hnormal, -,
    hdata⟩ := preparePasskeyAssertion_spec h
  refine ⟨decrypted, passkey, hauthentic, hmem, hid, hnormal, ?_, ?_⟩
  · rw [hdata, authenticatorData, List.append_assoc]
    exact List.prefix_append _ _
  constructor
  · rintro ⟨listed, hlisted, -⟩
    obtain ⟨-, -, decrypted', hauthentic', hnodup, hroom, -⟩ :=
      listPasskeysForAssertion_eq_ok.mp hlisted
    rw [hauthentic'.unique hauthentic] at hnodup hroom
    exact ⟨hnodup, hroom⟩
  · rintro ⟨hnodup, hroom⟩
    have haccepted : ¬AssertionRejected P passkey.rp_id none := by
      rintro (hlong | hother)
      · exact absurd hlong (Nat.not_lt_zero _)
      · exact hother (hauthentic.normalizeRpId hmem)
    have hmatches : matchesAssertion passkey.rp_id none passkey := by
      simp [matchesAssertion, hstate]
    exact ⟨_, listPasskeysForAssertion_eq_ok.mpr
      ⟨haccepted, huncancelled, decrypted, hauthentic, hnodup, hroom, rfl⟩,
      List.mem_map_of_mem (List.mem_filter.mpr ⟨hmem, hmatches⟩)⟩

/-! ### Sample vaults -/

/-- The sample primitives with a parser that knows one host, in small letters and in capitals. -/
def caselessPrimitives : Primitives :=
  { samplePrimitives with
    parseUrl := fun value =>
      if value = "https://example.com" ∨ value = "https://EXAMPLE.COM" then
        some ⟨"https", some "example.com", "", none, none, none, none, "/", "https://example.com"⟩
      else none }

/-- A confirmed passkey of the one host. -/
def examplePasskey (credential_id : Bytes 32) : PasskeyFields where
  revision := 1
  created_at_ms := 1
  modified_at_ms := 1
  signature_counter := 0
  creation_state := .confirmed
  rp_id := "example.com"
  user_handle := [1]
  user_name := "user"
  user_display_name := "User"
  credential_id := credential_id
  private_key := Bytes.replicate 32 1

/-- Stores a passkey under a record id. -/
def insertPasskey (vault : StoredVault) (id : RecordId) (credential_id : Bytes 32) :
    Option StoredVault := do
  let plaintext ← (PasskeyPlaintext.new (examplePasskey credential_id)).toOption
  let plaintext_bytes ← plaintext.encode.toOption
  let (mutation, _) ← (preparePlaintextUpsert caselessPrimitives vault.session .insert id
    plaintext_bytes 1 [List.replicate 24 0, List.replicate 24 0]).toOption
  vault.commit mutation

/-- An empty vault. -/
def emptyVault : StoredVault := ⟨sampleVault, sampleSnapshot []⟩

/-- A vault with one passkey. -/
def soleVault : Option StoredVault :=
  insertPasskey emptyVault (Bytes.replicate 16 1) (Bytes.replicate 32 1)

/-- The same with two more, of one credential id. -/
def twinsVault : Option StoredVault := do
  let vault ← soleVault
  let vault ← insertPasskey vault (Bytes.replicate 16 2) (Bytes.replicate 32 2)
  insertPasskey vault (Bytes.replicate 16 3) (Bytes.replicate 32 2)

/-- The first passkey's assertion for a relying party. -/
def firstAssertion (vault : StoredVault) (rp_id : String) :
    Except RecordOperationError ((PreparedRecordMutation × PasskeyAssertion) × Entropy) :=
  preparePasskeyAssertion caselessPrimitives vault.session vault.snapshot rp_id
    (Bytes.replicate 32 1) (Bytes.replicate 32 0) 2 (fun _ => false)
    [List.replicate 24 0, List.replicate 24 0]

/-- The whole listing for a relying party. -/
def wholeListing (vault : StoredVault) (rp_id : String) :
    Except RecordOperationError (List PasskeySummary) :=
  listPasskeysForAssertion caselessPrimitives vault.session vault.snapshot rp_id none
    (fun _ => false)

/-- An assertion is prepared for an identifier that the listing refuses as noncanonical, and one for
a canonical identifier in a snapshot in which another credential id is repeated. -/
theorem prepares_unlisted :
    (∃ vault, soleVault = some vault ∧ (∃ r, firstAssertion vault "EXAMPLE.COM" = .ok r) ∧
      wholeListing vault "EXAMPLE.COM" = .error .conflict) ∧
    ∃ vault, twinsVault = some vault ∧ (∃ r, firstAssertion vault "example.com" = .ok r) ∧
      wholeListing vault "example.com" = .error .failed := by
  have hsole : soleVault.any (fun vault =>
      (firstAssertion vault "EXAMPLE.COM").toOption.isSome &&
      decide (wholeListing vault "EXAMPLE.COM" = .error .conflict)) = true := by
    decide +kernel
  have htwins : twinsVault.any (fun vault =>
      (firstAssertion vault "example.com").toOption.isSome &&
      decide (wholeListing vault "example.com" = .error .failed)) = true := by
    decide +kernel
  obtain ⟨vault, hvault, hresults⟩ := (Option.any_eq_true _ _).mp hsole
  obtain ⟨vault', hvault', hresults'⟩ := (Option.any_eq_true _ _).mp htwins
  rw [Bool.and_eq_true, Option.isSome_iff_exists, decide_eq_true_eq] at hresults hresults'
  obtain ⟨⟨r, hr⟩, hlisting⟩ := hresults
  obtain ⟨⟨r', hr'⟩, hlisting'⟩ := hresults'
  exact ⟨⟨vault, hvault, ⟨r, Except.toOption_eq_some.mp hr⟩, hlisting⟩,
    vault', hvault', ⟨r', Except.toOption_eq_some.mp hr'⟩, hlisting'⟩

end Librarian.Core
