import Librarian.Core.Prepared
import Librarian.Core.VaultRun
import Librarian.Format.Secret

/-!
# Preparing against a clock that went back

The manifest carries the time of its last commit, and `Manifest::next_generation` refuses an earlier
one. The passkey mutations therefore commit at the later of the wall clock and the manifest's time
(`passkey_manifest_time`); the website mutations commit at the wall clock as it is. So when the
clock has been turned back behind the manifest, which one passkey mutation at a wrong time is enough
for, passkeys can still be added, used and deleted, and website accounts cannot be changed.
`clock_fits_iff` says for each mutation at which readings of the clock it can be prepared.

A mutation at another reading of the clock draws the same random bytes and passes the same checks of
the rest of its input, so what each lemma here says of a preparation at one reading, and of another
at a second, is that only the order of the times decides between them.
-/

namespace Librarian.Core

open Librarian.Format

variable {P : Primitives}

/-- What the core relies on when it encrypts: every plaintext that fits in an envelope has a
ciphertext, which is longer than it by the tag. -/
structure Encrypts (P : Primitives) : Prop where
  encrypt : ∀ key nonce plaintext aad, plaintext.length ≤ maxManifestEnvelopeBytes →
    ∃ ciphertext, P.encrypt key nonce plaintext aad = some ciphertext ∧
      ciphertext.length = plaintext.length + tagBytes

theorem left_le_max_time (a b : UInt64) : a ≤ max a b := by
  change a ≤ if a ≤ b then b else a
  split_ifs with hle
  · exact hle
  · exact UInt64.le_refl a

theorem max_time_eq_left_iff {a b : UInt64} : max a b = a ↔ b ≤ a := by
  constructor
  · intro h
    have hle := le_max_time a b
    rwa [h] at hle
  · exact max_time_eq_left

/-! ## The writers -/

section

variable {vault : UnlockedVault} {kind : RecordMutationKind} {id : RecordId} {now now' : UInt64}
  {entropy rest : Entropy} {prepared : PreparedRecordMutation}

/-- A manifest mutation commits at its time, which is not before that of the session's manifest. -/
theorem ManifestMutationSpec.time {envelope : Option (List UInt8)} {entries : List ManifestEntry}
    (h : ManifestMutationSpec P vault kind id envelope entries now prepared) :
    vault.manifest.committed_at_ms ≤ now ∧ prepared.next_manifest.committed_at_ms = now := by
  obtain ⟨htime, generation, -, hnext, -⟩ := Manifest.nextGeneration_eq_ok.mp h.next
  rw [hnext]
  exact ⟨htime, rfl⟩

/-- The next manifest is valid with any entries that are in order and not too many, at every time
that is not before the manifest's. -/
theorem nextGeneration_of_ascending {manifest : Manifest}
    (hmanifest : validateManifest manifest = .ok ()) {generation : UInt64}
    (hgeneration : checkedSucc manifest.generation = some generation)
    {entries : List ManifestEntry} (hlength : entries.length ≤ maxRecords)
    (hascending : Keyed.Ascending ManifestEntry.record_id entries)
    (htime : manifest.committed_at_ms ≤ now) :
    ∃ next, manifest.nextGeneration now entries = .ok next := by
  obtain ⟨hepoch, hschema, hcreated, -⟩ := validateManifest_eq_ok.mp hmanifest
  have hvalid : validateManifest { manifest with
      generation := generation, committed_at_ms := now, entries := entries } = .ok () :=
    validateManifest_eq_ok.mpr
      ⟨hepoch, hschema, UInt64.le_trans hcreated htime, hlength, hascending⟩
  exact ⟨_, Manifest.nextGeneration_eq_ok.mpr ⟨htime, generation, hgeneration, rfl, hvalid⟩⟩

/-- The next manifest is sealed when there is a nonce and a key. -/
theorem prepareManifestMutation_of_next (hP : Encrypts P) {envelope : Option (List UInt8)}
    {entries : List ManifestEntry} {next : Manifest}
    (hnext : vault.manifest.nextGeneration now entries = .ok next) {nonce : Bytes 24}
    (hnonce : randomArrayOrFailed 24 entropy = .ok (nonce, rest)) {key : Bytes 32}
    (hkey : deriveManifestKey P vault.vault_root_key vault.header.vault_id
      vault.header.key_epoch = some key) :
    ∃ prepared, prepareManifestMutation P vault kind id envelope entries now entropy =
      .ok (prepared, rest) := by
  simp only [prepareManifestMutation, Draw.lift_bind_apply, Draw.bind_eq_ok, Except.bind_eq_ok,
    Except.mapErr_eq_ok, Option.okOr_eq_ok, Draw.pure_apply, Except.ok.injEq, Prod.mk.injEq,
    encryptBytes]
  obtain ⟨-, -, -, -, hvalid⟩ := Manifest.nextGeneration_eq_ok.mp hnext
  have hroom := encodeManifestInto_room (validateManifest_eq_ok.mp hvalid).2.2.2.1
  obtain ⟨ciphertext, hencrypt, hlength⟩ := hP.encrypt key nonce (encodeManifestInto next)
    (encodeManifestAad vault.header nonce) (by omega)
  have hnew := ManifestEnvelope.new_of_plaintext hvalid nonce hlength
  obtain ⟨bytes, hbytes⟩ := (ManifestEnvelope.new_eq_ok.mp hnew).2
  exact ⟨_, next, hnext, _, Manifest.encode_of_valid hvalid, nonce, rest, hnonce, key, hkey,
    ciphertext, hencrypt, bytes, ⟨_, hnew, hbytes⟩, rfl, rfl⟩

/-- Entries of the same records are sealed at every time that is not before the manifest's. -/
theorem prepareManifestMutation_again (hP : Encrypts P)
    (hmanifest : validateManifest vault.manifest = .ok ())
    {envelope envelope' : Option (List UInt8)} {entries entries' : List ManifestEntry}
    (h : prepareManifestMutation P vault kind id envelope entries now entropy =
      .ok (prepared, rest))
    (hkeys : entries'.map ManifestEntry.record_id = entries.map ManifestEntry.record_id)
    (htime : vault.manifest.committed_at_ms ≤ now') :
    ∃ prepared', prepareManifestMutation P vault kind id envelope' entries' now' entropy =
      .ok (prepared', rest) := by
  simp only [prepareManifestMutation, Draw.lift_bind_apply, Draw.bind_eq_ok, Except.bind_eq_ok,
    Except.mapErr_eq_ok, Option.okOr_eq_ok, Draw.pure_apply, Except.ok.injEq, Prod.mk.injEq,
    encryptBytes] at h
  obtain ⟨next, hnext, _, -, nonce, rest', hnonce, key, hkey, _, -, _, -, -, rfl⟩ := h
  obtain ⟨-, generation, hgeneration, rfl, hvalid⟩ := Manifest.nextGeneration_eq_ok.mp hnext
  obtain ⟨-, -, -, hlength, hascending⟩ := validateManifest_eq_ok.mp hvalid
  have hsize : entries'.length = entries.length := by
    rw [← List.length_map ManifestEntry.record_id, hkeys, List.length_map]
  rw [Keyed.ascending_iff_map, ← hkeys, ← Keyed.ascending_iff_map] at hascending
  obtain ⟨next', hnext'⟩ := nextGeneration_of_ascending hmanifest hgeneration
    (hsize.trans_le hlength) hascending htime
  exact prepareManifestMutation_of_next hP hnext' hnonce hkey

/-- Whether the entries can be changed does not depend on the digest that is entered. -/
theorem upsertEntries_again {entry entry' : ManifestEntry} {entries entries' : List ManifestEntry}
    (hid : entry'.record_id = entry.record_id)
    (h : upsertEntries kind entry entries = .ok entries') :
    ∃ entries'', upsertEntries kind entry' entries = .ok entries'' ∧
      entries''.map ManifestEntry.record_id = entries'.map ManifestEntry.record_id := by
  cases kind with
  | insert =>
    obtain rfl := Except.ok.inj h
    exact ⟨_, rfl, by simp [hid]⟩
  | update =>
    have hreplaced := Option.okOr_eq_ok.mp h
    have hsome := Keyed.replaceFirst_isSome.mp (Option.isSome_of_eq_some hreplaced)
    rw [← hid] at hsome
    obtain ⟨entries'', hentries⟩ :=
      Option.isSome_iff_exists.mp (Keyed.replaceFirst_isSome.mpr hsome)
    refine ⟨entries'', Option.okOr_eq_ok.mpr hentries, ?_⟩
    rw [Keyed.map_key_replaceFirst hentries, Keyed.map_key_replaceFirst hreplaced]
  | delete => cases h

/-- Sorting rows with the same keys gives rows with the same keys. -/
theorem map_key_sortByKey {entries entries' : List ManifestEntry}
    (h : entries'.map ManifestEntry.record_id = entries.map ManifestEntry.record_id) :
    (Keyed.sortByKey ManifestEntry.record_id entries').map ManifestEntry.record_id =
      (Keyed.sortByKey ManifestEntry.record_id entries).map ManifestEntry.record_id := by
  have hsort : ∀ rows : List ManifestEntry,
      (Keyed.sortByKey ManifestEntry.record_id rows).map ManifestEntry.record_id =
        Keyed.sortByKey (fun id : RecordId => id) (rows.map ManifestEntry.record_id) := by
    intro rows
    refine (Keyed.map_sortByKey ?_ rows).symm
    exact fun _ => rfl
  rw [hsort, hsort, h]

/-- A record of a plaintext that fits in an envelope is sealed when there is a nonce and a key, and
the manifest can be sealed after it. -/
theorem preparePlaintextUpsert_of_parts (hP : Encrypts P) {plaintext : List UInt8}
    (hroom : plaintext.length + 85 ≤ maxRecordEnvelopeBytes) {nonce : Bytes 24} {drawn : Entropy}
    (hnonce : randomArrayOrFailed 24 entropy = .ok (nonce, drawn)) {key : Bytes 32}
    (hkey : deriveRecordKey P vault id = some key) (hepoch : vault.header.key_epoch ≠ 0)
    (hmutation : ∀ envelope, ∃ entries,
      upsertEntries kind ⟨id, P.sha256 envelope⟩ vault.manifest.entries = .ok entries ∧
      ∃ prepared, prepareManifestMutation P vault kind id (some envelope)
        (Keyed.sortByKey ManifestEntry.record_id entries) now drawn = .ok (prepared, rest)) :
    ∃ prepared, preparePlaintextUpsert P vault kind id plaintext now entropy =
      .ok (prepared, rest) := by
  simp only [preparePlaintextUpsert, Draw.lift_bind_apply, Draw.bind_eq_ok, Except.bind_eq_ok,
    Except.mapErr_eq_ok, Option.okOr_eq_ok, encryptBytes]
  have hlimit : maxRecordEnvelopeBytes ≤ maxManifestEnvelopeBytes := by decide
  obtain ⟨ciphertext, hencrypt, hlength⟩ := hP.encrypt key nonce plaintext
    (encodeRecordAad vault.header.vault_id id vault.header.key_epoch) (by omega)
  obtain ⟨value, hnew⟩ := RecordEnvelope.new_of_plaintext hepoch nonce hlength hroom
  obtain ⟨bytes, hbytes⟩ := (RecordEnvelope.new_eq_ok.mp hnew).2
  obtain ⟨entries, hentries, prepared, hprepared⟩ := hmutation bytes
  exact ⟨prepared, nonce, drawn, hnonce, key, hkey, ciphertext, hencrypt, bytes,
    ⟨value, hnew, hbytes⟩, entries, hentries, hprepared⟩

/-- A record of any plaintext that fits in an envelope is sealed at every time that is not before
the manifest's. -/
theorem preparePlaintextUpsert_again (hP : Encrypts P)
    (hmanifest : validateManifest vault.manifest = .ok ()) {plaintext plaintext' : List UInt8}
    (h : preparePlaintextUpsert P vault kind id plaintext now entropy = .ok (prepared, rest))
    (hroom : plaintext'.length + 85 ≤ maxRecordEnvelopeBytes)
    (htime : vault.manifest.committed_at_ms ≤ now') :
    ∃ prepared', preparePlaintextUpsert P vault kind id plaintext' now' entropy =
      .ok (prepared', rest) := by
  simp only [preparePlaintextUpsert, Draw.lift_bind_apply, Draw.bind_eq_ok, Except.bind_eq_ok,
    Except.mapErr_eq_ok, Option.okOr_eq_ok, encryptBytes] at h
  obtain ⟨nonce, drawn, hnonce, key, hkey, _, -, envelope, ⟨value, hnew, hbytes⟩, entries, hentries,
    hmutation⟩ := h
  have hepoch : vault.header.key_epoch ≠ 0 := by
    obtain ⟨rfl, -⟩ := RecordEnvelope.new_eq_ok.mp hnew
    exact (RecordEnvelope.encode_eq_ok.mp hbytes).1.1
  refine preparePlaintextUpsert_of_parts hP hroom hnonce hkey hepoch fun bytes => ?_
  have hid : (⟨id, P.sha256 bytes⟩ : ManifestEntry).record_id =
      (⟨id, P.sha256 envelope⟩ : ManifestEntry).record_id := rfl
  obtain ⟨entries', hentries', hkeys⟩ := upsertEntries_again hid hentries
  exact ⟨entries', hentries',
    prepareManifestMutation_again hP hmanifest hmutation (map_key_sortByKey hkeys) htime⟩

/-! ## Records -/

/-- A plaintext of a record that has not been modified before it was created. -/
inductive InOrder : List UInt8 → Prop
  | websiteAccount (value : WebsiteAccountPlaintext)
      (times : value.created_at_ms ≤ value.modified_at_ms) :
      InOrder (encodeWebsiteInto value.toWebsiteAccountFields)
  | passkey (value : PasskeyPlaintext) (times : value.created_at_ms ≤ value.modified_at_ms) :
      InOrder (encodePasskeyInto value.toPasskeyFields)

/-- If the mutation has a record, it seals one in order. -/
def SealsInOrder (P : Primitives) (vault : UnlockedVault) (prepared : PreparedRecordMutation) :
    Prop :=
  ∀ envelope, prepared.envelope = some envelope →
    ∃ plaintext, SealsRecord P vault prepared.id envelope plaintext ∧ InOrder plaintext

/-- The mutation commits at the later of the clock and the manifest's time, and its record, if it
has one, is in order. -/
def Timely (P : Primitives) (vault : UnlockedVault) (now : UInt64)
    (prepared : PreparedRecordMutation) : Prop :=
  prepared.next_manifest.committed_at_ms = max now vault.manifest.committed_at_ms ∧
    SealsInOrder P vault prepared

theorem UpsertSpec.sealsInOrder {plaintext : List UInt8}
    (h : UpsertSpec P vault kind id plaintext now prepared) (horder : InOrder plaintext) :
    SealsInOrder P vault prepared := by
  obtain ⟨envelope, entries, hsealed, -, hspec⟩ := h
  intro envelope' henvelope
  rw [hspec.envelope, Option.some.injEq] at henvelope
  subst henvelope
  rw [hspec.id]
  exact ⟨plaintext, hsealed, horder⟩

theorem UpsertSpec.time {plaintext : List UInt8}
    (h : UpsertSpec P vault kind id plaintext now prepared) :
    vault.manifest.committed_at_ms ≤ now ∧ prepared.next_manifest.committed_at_ms = now := by
  obtain ⟨envelope, entries, -, -, hspec⟩ := h
  exact hspec.time

section

variable {revision created_at_ms created_at_ms' : UInt64} {input : WebsiteAccountInput P}

/-- A website account commits at its time, which is neither before the manifest's nor before its
own creation. -/
theorem prepareUpsert_time
    (h : prepareUpsert P vault kind id revision created_at_ms input now entropy =
      .ok (prepared, rest)) :
    (vault.manifest.committed_at_ms ≤ now ∧ created_at_ms ≤ now) ∧
      prepared.next_manifest.committed_at_ms = now ∧ SealsInOrder P vault prepared := by
  simp only [prepareUpsert, Draw.lift_bind_apply, Except.bind_eq_ok, Except.mapErr_eq_ok,
    WebsiteAccountPlaintext.encode_eq, Except.ok.injEq] at h
  obtain ⟨value, hnew, plaintext, rfl, hupsert⟩ := h
  have hfields := WebsiteAccountPlaintext.new_eq_ok.mp hnew
  have htimes := value.valid.times
  have horder := InOrder.websiteAccount value htimes
  rw [hfields] at htimes
  have hspec := preparePlaintextUpsert_spec hupsert
  exact ⟨⟨hspec.time.1, htimes⟩, hspec.time.2, hspec.sealsInOrder horder⟩

/-- A website account is prepared at every such time, if it is at one. -/
theorem prepareUpsert_again (hP : Encrypts P)
    (hmanifest : validateManifest vault.manifest = .ok ())
    (h : prepareUpsert P vault kind id revision created_at_ms input now entropy =
      .ok (prepared, rest))
    (htime : vault.manifest.committed_at_ms ≤ now') (hcreated : created_at_ms' ≤ now') :
    ∃ prepared', prepareUpsert P vault kind id revision created_at_ms' input now' entropy =
      .ok (prepared', rest) := by
  simp only [prepareUpsert, Draw.lift_bind_apply, Except.bind_eq_ok, Except.mapErr_eq_ok,
    WebsiteAccountPlaintext.encode_eq, Except.ok.injEq] at h ⊢
  obtain ⟨value, hnew, _, -, hupsert⟩ := h
  have hvalid := value.valid
  rw [WebsiteAccountPlaintext.new_eq_ok.mp hnew] at hvalid
  let fields : WebsiteAccountFields :=
    { revision := revision
      created_at_ms := created_at_ms'
      modified_at_ms := now'
      service_name := input.service_name
      permitted_origin := input.permitted_origin
      username := input.username
      password := input.password }
  have hvalid' : fields.Valid := { hvalid with times := hcreated }
  let value' : WebsiteAccountPlaintext := ⟨fields, validatePlaintext_eq_ok.mpr hvalid'⟩
  obtain ⟨prepared', hupsert'⟩ := preparePlaintextUpsert_again hP hmanifest hupsert
    (encodeWebsiteInto_room hvalid') htime
  exact ⟨prepared', value', WebsiteAccountPlaintext.new_eq_ok.mpr rfl, _, rfl, hupsert'⟩

theorem prepareUpsert_iff (hP : Encrypts P) (now' created_at_ms' : UInt64)
    (hmanifest : validateManifest vault.manifest = .ok ())
    (h : prepareUpsert P vault kind id revision created_at_ms input now entropy =
      .ok (prepared, rest)) :
    (∃ result, prepareUpsert P vault kind id revision created_at_ms' input now' entropy =
      .ok result ∧ Timely P vault now' result.1) ↔
      vault.manifest.committed_at_ms ≤ now' ∧ created_at_ms' ≤ now' := by
  constructor
  · rintro ⟨⟨prepared', rest'⟩, hprepare, -⟩
    exact (prepareUpsert_time hprepare).1
  · rintro ⟨htime, hcreated⟩
    obtain ⟨prepared', hprepare⟩ := prepareUpsert_again hP hmanifest h htime hcreated
    obtain ⟨-, hcommitted, horder⟩ := prepareUpsert_time hprepare
    exact ⟨_, hprepare, hcommitted.trans (max_time_eq_left htime).symm, horder⟩

end

/-- How both passkey writers end: a plaintext of the fields is sealed at a time. -/
def preparePasskeyUpsert (P : Primitives) (vault : UnlockedVault) (kind : RecordMutationKind)
    (id : RecordId) (fields : PasskeyFields) (committed_at_ms : UInt64) :
    Prepare PreparedRecordMutation := do
  let plaintext ← Draw.lift <| (PasskeyPlaintext.new fields).mapErr fun _ => .failed
  let plaintext_bytes ← Draw.lift <| plaintext.encode.mapErr fun _ => .failed
  preparePlaintextUpsert P vault kind id plaintext_bytes committed_at_ms

section

variable {fields : PasskeyFields}

/-- A passkey commits at its time, which is not before the manifest's. -/
theorem preparePasskeyUpsert_time
    (h : preparePasskeyUpsert P vault kind id fields now entropy = .ok (prepared, rest)) :
    prepared.next_manifest.committed_at_ms = now ∧ SealsInOrder P vault prepared := by
  simp only [preparePasskeyUpsert, Draw.lift_bind_apply, Except.bind_eq_ok, Except.mapErr_eq_ok,
    PasskeyPlaintext.encode_eq, Except.ok.injEq] at h
  obtain ⟨value, -, plaintext, rfl, hupsert⟩ := h
  have hspec := preparePlaintextUpsert_spec hupsert
  exact ⟨hspec.time.2, hspec.sealsInOrder (.passkey value value.valid.times)⟩

/-- A passkey is sealed with other times that are in order, if it is with some. -/
theorem preparePasskeyUpsert_again (hP : Encrypts P)
    (hmanifest : validateManifest vault.manifest = .ok ()) {created_at_ms : UInt64}
    (h : preparePasskeyUpsert P vault kind id fields now entropy = .ok (prepared, rest))
    (htime : vault.manifest.committed_at_ms ≤ now') (hcreated : created_at_ms ≤ now') :
    ∃ prepared', preparePasskeyUpsert P vault kind id
      { fields with created_at_ms := created_at_ms, modified_at_ms := now' } now' entropy =
        .ok (prepared', rest) := by
  simp only [preparePasskeyUpsert, Draw.lift_bind_apply, Except.bind_eq_ok, Except.mapErr_eq_ok,
    PasskeyPlaintext.encode_eq, Except.ok.injEq] at h ⊢
  obtain ⟨value, hnew, _, -, hupsert⟩ := h
  have hvalid := value.valid
  rw [PasskeyPlaintext.new_eq_ok.mp hnew] at hvalid
  let fields' : PasskeyFields :=
    { fields with created_at_ms := created_at_ms, modified_at_ms := now' }
  have hvalid' : fields'.Valid := { hvalid with times := hcreated }
  let value' : PasskeyPlaintext := ⟨fields', validatePasskeyPlaintext_eq_ok.mpr hvalid'⟩
  obtain ⟨prepared', hupsert'⟩ := preparePlaintextUpsert_again hP hmanifest hupsert
    (encodePasskeyInto_room hvalid') htime
  exact ⟨prepared', value', PasskeyPlaintext.new_eq_ok.mpr rfl, _, rfl, hupsert'⟩

end

section

variable {passkey : PasskeyRecord} {revision : UInt64} {counter : UInt32}

/-- The fields of a passkey's next version. -/
def rewrittenFields (passkey : PasskeyRecord) (revision : UInt64) (counter : UInt32)
    (committed_at_ms : UInt64) : PasskeyFields where
  revision := revision
  created_at_ms := passkey.created_at_ms
  modified_at_ms := committed_at_ms
  signature_counter := counter
  creation_state := .confirmed
  rp_id := passkey.rp_id
  user_handle := passkey.user_handle
  user_name := passkey.user_name
  user_display_name := passkey.user_display_name
  credential_id := passkey.credential_id
  private_key := passkey.private_key

theorem rewritePasskey_eq :
    rewritePasskey P vault passkey revision counter now =
      preparePasskeyUpsert P vault .update passkey.id
        (rewrittenFields passkey revision counter
          (passkeyUpdateTime passkey.created_at_ms vault.manifest.committed_at_ms now))
        (passkeyUpdateTime passkey.created_at_ms vault.manifest.committed_at_ms now) := rfl

/-- A passkey is rewritten at every time, if it is at one; it commits at the update time, which is
the manifest time unless the passkey is dated later. -/
theorem rewritePasskey_iff (hP : Encrypts P) (now' : UInt64)
    (hmanifest : validateManifest vault.manifest = .ok ())
    (h : rewritePasskey P vault passkey revision counter now entropy = .ok (prepared, rest)) :
    (∃ result, rewritePasskey P vault passkey revision counter now' entropy = .ok result ∧
      Timely P vault now' result.1) ↔
      passkey.created_at_ms ≤ max now' vault.manifest.committed_at_ms := by
  rw [← max_time_eq_left_iff]
  constructor
  · rintro ⟨⟨prepared', rest'⟩, hprepare, hcommitted, -⟩
    rw [rewritePasskey_eq] at hprepare
    exact (preparePasskeyUpsert_time hprepare).1.symm.trans hcommitted
  · intro hmax
    rw [rewritePasskey_eq] at h
    have hcreated : passkey.created_at_ms ≤
        passkeyUpdateTime passkey.created_at_ms vault.manifest.committed_at_ms now' :=
      le_max_time _ _
    have htime : vault.manifest.committed_at_ms ≤
        passkeyUpdateTime passkey.created_at_ms vault.manifest.committed_at_ms now' :=
      UInt64.le_trans (le_max_time now' _) (left_le_max_time _ _)
    obtain ⟨prepared', hprepare⟩ := preparePasskeyUpsert_again hP hmanifest h htime hcreated
    obtain ⟨hcommitted, horder⟩ := preparePasskeyUpsert_time hprepare
    exact ⟨_, hprepare, hcommitted.trans hmax, horder⟩

end

end

/-! ## The mutations -/

section

variable {vault : UnlockedVault} {snapshot : Snapshot} {should_cancel : ℕ → Bool} {now : UInt64}
  {entropy rest : Entropy} {prepared : PreparedRecordMutation}

/-- A successful visit has authenticated the session's manifest. -/
theorem validateManifest_of_visit {σ : Type} {visit : σ → DecryptedRecord → σ} {s s' : σ}
    (h : visitSnapshot P vault snapshot should_cancel visit s = .ok s') :
    validateManifest vault.manifest = .ok () := by
  obtain ⟨-, decrypted, hauthentic, -⟩ := visitSnapshot_eq_ok.mp h
  exact hauthentic.valid

/-- A record is removed at every time that is not before the manifest's, if it is at one. -/
theorem prepareRemoval_iff (hP : Encrypts P) {id : RecordId} {entries : List ManifestEntry}
    (hmanifest : validateManifest vault.manifest = .ok ())
    (h : prepareManifestMutation P vault .delete id none entries now entropy =
      .ok (prepared, rest)) (now' time : UInt64) :
    (∃ result, prepareManifestMutation P vault .delete id none entries time entropy = .ok result ∧
      Timely P vault now' result.1) ↔
      vault.manifest.committed_at_ms ≤ time ∧ time = max now' vault.manifest.committed_at_ms := by
  constructor
  · rintro ⟨⟨prepared', rest'⟩, hprepare, hcommitted, -⟩
    have hspec := prepareManifestMutation_spec hprepare
    exact ⟨hspec.time.1, hspec.time.2.symm.trans hcommitted⟩
  · rintro ⟨htime, hmax⟩
    obtain ⟨prepared', hprepare⟩ := prepareManifestMutation_again hP hmanifest h rfl htime
    have hspec := prepareManifestMutation_spec hprepare
    refine ⟨_, hprepare, hspec.time.2.trans hmax, fun envelope henvelope => ?_⟩
    rw [hspec.envelope] at henvelope
    cases henvelope

/-! ### What a mutation comes down to

Once a mutation has been prepared, its visit, its checks and its draws are known, and at every other
time it comes down to the same call of a writer. -/

theorem prepareAddWebsiteAccount_eq {input : WebsiteAccountInput P}
    (h : prepareAddWebsiteAccount P vault snapshot input now should_cancel entropy =
      .ok (prepared, rest)) :
    validateManifest vault.manifest = .ok () ∧
    ∃ id drawn, ∀ now', prepareAddWebsiteAccount P vault snapshot input now' should_cancel entropy =
      prepareUpsert P vault .insert id 1 now' input now' drawn := by
  simp only [prepareAddWebsiteAccount, prepareAddWithEntropy, Draw.lift_bind_apply,
    Except.bind_eq_ok, Except.exists_unit_eq] at h ⊢
  obtain ⟨hvisit, h⟩ := h
  refine ⟨validateManifest_of_visit hvisit, ?_⟩
  split_ifs at h with hfull
  · simp at h
  obtain ⟨id, drawn, hid, -⟩ := Draw.bind_eq_ok.mp h
  refine ⟨id, drawn, fun now' => ?_⟩
  rw [hvisit, Except.ok_bind, if_neg hfull, Draw.bind_of_ok hid]

theorem prepareUpdateWebsiteAccount_eq {id : RecordId} {input : WebsiteAccountInput P}
    (h : prepareUpdateWebsiteAccount P vault snapshot id input now should_cancel entropy =
      .ok (prepared, rest)) :
    ∃ decrypted account revision, Authentic P vault snapshot decrypted ∧
      decrypted.foldl (findAccount id) none = some account ∧
      ∀ now', prepareUpdateWebsiteAccount P vault snapshot id input now' should_cancel entropy =
        prepareUpsert P vault .update id revision account.created_at_ms input now' entropy := by
  simp only [prepareUpdateWebsiteAccount, Draw.lift_bind_apply, Except.bind_eq_ok,
    Option.okOr_eq_ok] at h ⊢
  obtain ⟨account, haccount, revision, hrevision, -⟩ := h
  have hvisit := haccount
  simp only [getWebsiteAccount, Except.bind_eq_ok, Option.okOr_eq_ok] at hvisit
  obtain ⟨found, hvisit, rfl⟩ := hvisit
  obtain ⟨-, decrypted, hauthentic, hfold⟩ := visitSnapshot_eq_ok.mp hvisit
  refine ⟨decrypted, account, revision, hauthentic, hfold, fun now' => ?_⟩
  rw [haccount, Except.ok_bind, hrevision, Option.okOr_some, Except.ok_bind]

theorem prepareDeleteWebsiteAccount_eq {id : RecordId}
    (h : prepareDeleteWebsiteAccount P vault snapshot id now should_cancel entropy =
      .ok (prepared, rest)) :
    validateManifest vault.manifest = .ok () ∧
    ∀ now', prepareDeleteWebsiteAccount P vault snapshot id now' should_cancel entropy =
      prepareManifestMutation P vault .delete id none
        (Keyed.eraseKey ManifestEntry.record_id id vault.manifest.entries) now' entropy := by
  simp only [prepareDeleteWebsiteAccount, Draw.lift_bind_apply, Except.bind_eq_ok] at h ⊢
  obtain ⟨account, haccount, h⟩ := h
  have hvisit := haccount
  simp only [getWebsiteAccount, Except.bind_eq_ok] at hvisit
  obtain ⟨found, hvisit, -⟩ := hvisit
  refine ⟨validateManifest_of_visit hvisit, fun now' => ?_⟩
  split_ifs at h with hmissing
  · simp at h
  rw [haccount, Except.ok_bind, if_neg hmissing]

/-- The passkey that the three operations on one passkey find. -/
theorem found_passkey {credential_id : Bytes 32} {passkey : PasskeyRecord} {duplicate : Bool}
    (h : visitSnapshot P vault snapshot should_cancel (findPasskey credential_id) (none, false) =
      .ok (some passkey, duplicate)) :
    ∃ decrypted, Authentic P vault snapshot decrypted ∧
      (decrypted.foldl (findPasskey credential_id) (none, false)).1 = some passkey := by
  obtain ⟨-, decrypted, hauthentic, hfold⟩ := visitSnapshot_eq_ok.mp h
  exact ⟨decrypted, hauthentic, by rw [hfold]⟩

theorem prepareConfirmPasskeyCreation_eq {credential_id : Bytes 32}
    (h : prepareConfirmPasskeyCreation P vault snapshot credential_id now should_cancel entropy =
      .ok (prepared, rest)) :
    ∃ decrypted passkey revision, Authentic P vault snapshot decrypted ∧
      (decrypted.foldl (findPasskey credential_id) (none, false)).1 = some passkey ∧
      ∀ now', prepareConfirmPasskeyCreation P vault snapshot credential_id now' should_cancel
          entropy =
        rewritePasskey P vault passkey revision passkey.signature_counter now' entropy := by
  simp only [prepareConfirmPasskeyCreation, Draw.lift_bind_apply, Except.bind_eq_ok] at h ⊢
  obtain ⟨⟨found, duplicate⟩, hvisit, h⟩ := h
  split_ifs at h with hduplicate
  · simp at h
  simp only [Draw.lift_bind_apply, Except.bind_eq_ok, Option.okOr_eq_ok] at h
  obtain ⟨passkey, rfl, h⟩ := h
  split_ifs at h with hpending
  · simp at h
  simp only [Draw.lift_bind_apply, Except.bind_eq_ok, Option.okOr_eq_ok] at h
  obtain ⟨revision, hrevision, -⟩ := h
  obtain ⟨decrypted, hauthentic, hfound⟩ := found_passkey hvisit
  refine ⟨decrypted, passkey, revision, hauthentic, hfound, fun now' => ?_⟩
  rw [hvisit, Except.ok_bind, if_neg hduplicate, Draw.lift_bind_apply, Option.okOr_some,
    Except.ok_bind, if_neg hpending, Draw.lift_bind_apply, hrevision, Option.okOr_some,
    Except.ok_bind]

theorem prepareDeletePasskey_eq {credential_id : Bytes 32}
    (h : prepareDeletePasskey P vault snapshot credential_id now should_cancel entropy =
      .ok (prepared, rest)) :
    validateManifest vault.manifest = .ok () ∧ ∃ id, ∀ now',
      prepareDeletePasskey P vault snapshot credential_id now' should_cancel entropy =
        prepareManifestMutation P vault .delete id none
          (Keyed.eraseKey ManifestEntry.record_id id vault.manifest.entries)
          (passkeyManifestTime vault.manifest.committed_at_ms now') entropy := by
  simp only [prepareDeletePasskey, Draw.lift_bind_apply, Except.bind_eq_ok] at h ⊢
  obtain ⟨⟨found, duplicate⟩, hvisit, h⟩ := h
  split_ifs at h with hduplicate
  · simp at h
  simp only [Draw.lift_bind_apply, Except.bind_eq_ok, Option.okOr_eq_ok] at h
  obtain ⟨passkey, rfl, -⟩ := h
  refine ⟨validateManifest_of_visit hvisit, passkey.id, fun now' => ?_⟩
  rw [hvisit, Except.ok_bind, if_neg hduplicate, Draw.lift_bind_apply, Option.okOr_some,
    Except.ok_bind]

/-- What a preparation returns beside its mutation does not bear on whether it succeeds. -/
theorem map_pure_apply {α β : Type} (x : Prepare α) (f : α → β) (entropy : Entropy) :
    (x >>= fun a => pure (f a)) entropy = (fun r => (f r.1, r.2)) <$> x entropy := by
  change (x entropy >>= fun p => .ok (f p.1, p.2)) = _
  cases x entropy <;> rfl

theorem preparePasskeyAssertion_eq {rp_id : String} {credential_id client_data_hash : Bytes 32}
    {assertion : PasskeyAssertion}
    (h : preparePasskeyAssertion P vault snapshot rp_id credential_id client_data_hash now
      should_cancel entropy = .ok ((prepared, assertion), rest)) :
    ∃ decrypted passkey revision counter, Authentic P vault snapshot decrypted ∧
      (decrypted.foldl (findPasskey credential_id) (none, false)).1 = some passkey ∧
      ∀ now', preparePasskeyAssertion P vault snapshot rp_id credential_id client_data_hash now'
        should_cancel entropy = (fun result => ((result.1, assertion), result.2)) <$>
          rewritePasskey P vault passkey revision counter now' entropy := by
  simp only [preparePasskeyAssertion, Draw.lift_bind_apply, Except.bind_eq_ok,
    Except.exists_unit_eq, Except.mapErr_eq_ok] at h ⊢
  obtain ⟨hmetadata, expected, hexpected, ⟨found, duplicate⟩, hrecords, h⟩ := h
  have hvisit : visitSnapshot P vault snapshot should_cancel (findPasskey credential_id)
      (none, false) = .ok (found, duplicate) := by
    simp [visitSnapshot, hmetadata, hrecords]
  split_ifs at h with hduplicate
  · simp at h
  simp only [Draw.lift_bind_apply, Except.bind_eq_ok, Option.okOr_eq_ok] at h
  obtain ⟨passkey, rfl, h⟩ := h
  split_ifs at h with hconfirmed
  all_goals try simp only [Draw.throw_bind_apply, Draw.lift_bind_apply, Except.bind_eq_ok,
    reduceCtorEq, and_false, exists_false] at h
  rename_i hrp hsigning
  simp only [Option.okOr_eq_ok] at h
  obtain ⟨revision, hrevision, counter, hcounter, h⟩ := h
  rw [map_pure_apply, Except.map_eq_ok] at h
  obtain ⟨result, -, hresult⟩ := h
  simp only [Prod.mk.injEq] at hresult
  obtain ⟨⟨-, rfl⟩, -⟩ := hresult
  obtain ⟨decrypted, hauthentic, hfound⟩ := found_passkey hvisit
  refine ⟨decrypted, passkey, revision, counter, hauthentic, hfound, fun now' => ?_⟩
  rw [hmetadata, Except.ok_bind, hexpected, Except.mapErr_ok, Except.ok_bind, hrecords,
    Except.mapErr_ok, Except.ok_bind, if_neg hduplicate, Draw.lift_bind_apply, Option.okOr_some,
    Except.ok_bind, if_neg hconfirmed, if_neg hrp, Draw.lift_bind_apply, hrevision,
    Option.okOr_some, Except.ok_bind, Draw.lift_bind_apply, hcounter, Option.okOr_some,
    Except.ok_bind,
    if_neg (not_not.mpr hsigning), map_pure_apply]

theorem prepareAddPasskey_eq {input : PasskeyInput P} {excluded : List (Bytes 32)}
    {creation_state : PasskeyCreationState} {credential : PasskeyCredential}
    (h : prepareAddPasskey P vault snapshot input excluded creation_state now should_cancel
      entropy = .ok ((prepared, credential), rest)) :
    validateManifest vault.manifest = .ok () ∧
      ∃ (id : RecordId) (fields : PasskeyFields) (drawn : Entropy), ∀ now',
      prepareAddPasskey P vault snapshot input excluded creation_state now' should_cancel entropy =
        (fun result => ((result.1, credential), result.2)) <$>
          preparePasskeyUpsert P vault .insert id
            { fields with
              created_at_ms := passkeyManifestTime vault.manifest.committed_at_ms now'
              modified_at_ms := passkeyManifestTime vault.manifest.committed_at_ms now' }
            (passkeyManifestTime vault.manifest.committed_at_ms now') drawn := by
  simp only [prepareAddPasskey, Draw.lift_bind_apply, Except.bind_eq_ok] at h ⊢
  obtain ⟨state, hvisit, h⟩ := h
  refine ⟨validateManifest_of_visit hvisit, ?_⟩
  split_ifs at h with hroom
  all_goals try simp only [Draw.throw_bind_apply, reduceCtorEq] at h
  rename_i hconflict hfull
  simp only [Draw.bind_eq_ok] at h
  obtain ⟨id, rest₁, hid, credential_id, rest₂, hcredential, private_key, drawn, hkey, h⟩ := h
  have hsigning := generateSigningKeyLoop_signingKey hkey
  rw [if_neg (not_not.mpr hsigning)] at h
  simp only [Draw.lift_bind_apply, Except.bind_eq_ok, Option.okOr_eq_ok] at h
  obtain ⟨public_key, hpublic, plaintext, -, bytes, -, h⟩ := h
  rw [map_pure_apply, Except.map_eq_ok] at h
  obtain ⟨result, -, hresult⟩ := h
  simp only [Prod.mk.injEq] at hresult
  obtain ⟨⟨-, rfl⟩, -⟩ := hresult
  let fields : PasskeyFields :=
    { revision := 1
      created_at_ms := 0
      modified_at_ms := 0
      signature_counter := 0
      creation_state := creation_state
      rp_id := input.rp_id
      user_handle := input.user_handle
      user_name := input.user_name
      user_display_name := input.user_display_name
      credential_id := credential_id
      private_key := private_key }
  refine ⟨id, fields, drawn, fun now' => ?_⟩
  rw [hvisit, Except.ok_bind, if_neg hroom, if_neg hconflict, if_neg hfull, Draw.bind_of_ok hid,
    Draw.bind_of_ok hcredential, Draw.bind_of_ok hkey, if_neg (not_not.mpr hsigning),
    Draw.lift_bind_apply, hpublic, Option.okOr_some, Except.ok_bind]
  simp only [preparePasskeyUpsert, Draw.lift_bind_apply, map_pure_apply, map_bind]
  rfl

end

/-! ### At another reading of the clock -/

section

/-- The reading of the wall clock that the mutation is prepared with. -/
def Mutation.clock : Mutation P → UInt64
  | addWebsiteAccount _ now => now
  | updateWebsiteAccount _ _ now => now
  | deleteWebsiteAccount _ now => now
  | addPasskey _ _ _ now => now
  | confirmPasskeyCreation _ now => now
  | passkeyAssertion _ _ _ now => now
  | deletePasskey _ now => now

/-- The same mutation at another reading of the clock. -/
def Mutation.withClock (now : UInt64) : Mutation P → Mutation P
  | addWebsiteAccount input _ => addWebsiteAccount input now
  | updateWebsiteAccount id input _ => updateWebsiteAccount id input now
  | deleteWebsiteAccount id _ => deleteWebsiteAccount id now
  | addPasskey input excluded creation_state _ => addPasskey input excluded creation_state now
  | confirmPasskeyCreation credential_id _ => confirmPasskeyCreation credential_id now
  | passkeyAssertion rp_id credential_id client_data_hash _ =>
    passkeyAssertion rp_id credential_id client_data_hash now
  | deletePasskey credential_id _ => deletePasskey credential_id now

/-- The clock is not behind what the mutation compares it with: the time of the manifest, for a
website account that is updated also its creation, and for a passkey that is rewritten only its
creation, and that only if it is later than the manifest. -/
def Mutation.ClockFits (vault : StoredVault) : Mutation P → Prop
  | addWebsiteAccount _ now => vault.session.manifest.committed_at_ms ≤ now
  | updateWebsiteAccount id _ now => vault.session.manifest.committed_at_ms ≤ now ∧
    ∀ decrypted, Authentic P vault.session vault.snapshot decrypted →
      ∀ account, decrypted.foldl (findAccount id) none = some account → account.created_at_ms ≤ now
  | deleteWebsiteAccount _ now => vault.session.manifest.committed_at_ms ≤ now
  | addPasskey _ _ _ _ => True
  | confirmPasskeyCreation credential_id now | passkeyAssertion _ credential_id _ now =>
    ∀ decrypted, Authentic P vault.session vault.snapshot decrypted →
      ∀ passkey, (decrypted.foldl (findPasskey credential_id) (none, false)).1 = some passkey →
        passkey.created_at_ms ≤ max now vault.session.manifest.committed_at_ms
  | deletePasskey _ _ => True

theorem exists_map_ok {ε α β : Type} {x : Except ε α} {f : α → β} {p : β → Prop} :
    (∃ b, f <$> x = .ok b ∧ p b) ↔ ∃ a, x = .ok a ∧ p (f a) := by
  constructor
  · rintro ⟨b, hb, hp⟩
    obtain ⟨a, ha, rfl⟩ := Except.map_eq_ok.mp hb
    exact ⟨a, ha, hp⟩
  · rintro ⟨a, ha, hp⟩
    exact ⟨f a, Except.map_eq_ok.mpr ⟨a, ha, rfl⟩, hp⟩

/-- What an operation finds in an authentic snapshot has a property when it is found in one way of
decrypting the snapshot, as there is only one. -/
theorem forall_found_iff {α : Type} {vault : UnlockedVault} {snapshot : Snapshot}
    {decrypted : List DecryptedRecord} (hauthentic : Authentic P vault snapshot decrypted)
    (find : List DecryptedRecord → Option α) {a : α} (hfound : find decrypted = some a)
    (p : α → Prop) :
    (∀ decrypted, Authentic P vault snapshot decrypted → ∀ a, find decrypted = some a → p a) ↔
      p a := by
  constructor
  · intro h
    exact h decrypted hauthentic a hfound
  · intro hp decrypted' hauthentic' a' ha'
    rw [hauthentic'.unique hauthentic, hfound, Option.some.injEq] at ha'
    exact ha' ▸ hp

/-- A mutation whose other preconditions hold, so that it can be prepared at some reading of the
clock, is prepared at its own reading, in order and at the later of the clock and the manifest, if
and only if the clock fits. -/
theorem clock_fits_iff (hP : Encrypts P) {vault : StoredVault} {should_cancel : ℕ → Bool}
    {entropy : Entropy} {mutation : Mutation P}
    (hready : ∃ now prepared,
      (mutation.withClock now).prepare vault should_cancel entropy = .ok prepared) :
    (∃ prepared, mutation.prepare vault should_cancel entropy = .ok prepared ∧
      Timely P vault.session mutation.clock prepared) ↔ mutation.ClockFits vault := by
  obtain ⟨now, prepared, hready⟩ := hready
  cases mutation with
  | addWebsiteAccount input clock =>
    obtain ⟨⟨_, rest⟩, hok, rfl⟩ := Except.map_eq_ok.mp hready
    obtain ⟨hmanifest, id, drawn, heq⟩ := prepareAddWebsiteAccount_eq hok
    have hiff := prepareUpsert_iff hP clock clock hmanifest ((heq now).symm.trans hok)
    rw [and_iff_left (UInt64.le_refl clock), ← heq] at hiff
    exact exists_map_ok.trans hiff
  | updateWebsiteAccount id input clock =>
    obtain ⟨⟨_, rest⟩, hok, rfl⟩ := Except.map_eq_ok.mp hready
    obtain ⟨decrypted, account, revision, hauthentic, hfound, heq⟩ :=
      prepareUpdateWebsiteAccount_eq hok
    have hiff := prepareUpsert_iff hP clock account.created_at_ms hauthentic.valid
      ((heq now).symm.trans hok)
    rw [← heq] at hiff
    have hcreated := forall_found_iff hauthentic
      (fun decrypted => decrypted.foldl (findAccount id) none) hfound
      (fun account => account.created_at_ms ≤ clock)
    exact exists_map_ok.trans (hiff.trans (and_congr_right' hcreated.symm))
  | deleteWebsiteAccount id clock =>
    obtain ⟨⟨_, rest⟩, hok, rfl⟩ := Except.map_eq_ok.mp hready
    obtain ⟨hmanifest, heq⟩ := prepareDeleteWebsiteAccount_eq hok
    have hiff := prepareRemoval_iff hP hmanifest ((heq now).symm.trans hok) clock clock
    rw [← heq, eq_comm, max_time_eq_left_iff, and_self] at hiff
    exact exists_map_ok.trans hiff
  | addPasskey input excluded creation_state clock =>
    obtain ⟨⟨⟨_, credential⟩, rest⟩, hok, rfl⟩ := Except.map_eq_ok.mp hready
    obtain ⟨hmanifest, id, fields, drawn, heq⟩ := prepareAddPasskey_eq hok
    obtain ⟨⟨_, rest'⟩, hupsert, -⟩ := Except.map_eq_ok.mp ((heq now).symm.trans hok)
    refine iff_of_true (exists_map_ok.mpr ?_) trivial
    obtain ⟨prepared', hupsert'⟩ := preparePasskeyUpsert_again hP hmanifest hupsert
      (le_max_time clock vault.session.manifest.committed_at_ms) (UInt64.le_refl _)
    have htime := preparePasskeyUpsert_time hupsert'
    exact ⟨_, (heq clock).trans (Except.map_eq_ok.mpr ⟨_, hupsert', rfl⟩), htime⟩
  | confirmPasskeyCreation credential_id clock =>
    obtain ⟨⟨_, rest⟩, hok, rfl⟩ := Except.map_eq_ok.mp hready
    obtain ⟨decrypted, passkey, revision, hauthentic, hfound, heq⟩ :=
      prepareConfirmPasskeyCreation_eq hok
    have hiff := rewritePasskey_iff hP clock hauthentic.valid ((heq now).symm.trans hok)
    rw [← heq] at hiff
    have hcreated := forall_found_iff hauthentic
      (fun decrypted => (decrypted.foldl (findPasskey credential_id) (none, false)).1) hfound
      (fun passkey => passkey.created_at_ms ≤ max clock vault.session.manifest.committed_at_ms)
    exact exists_map_ok.trans (hiff.trans hcreated.symm)
  | passkeyAssertion rp_id credential_id client_data_hash clock =>
    obtain ⟨⟨⟨_, assertion⟩, rest⟩, hok, rfl⟩ := Except.map_eq_ok.mp hready
    obtain ⟨decrypted, passkey, revision, counter, hauthentic, hfound, heq⟩ :=
      preparePasskeyAssertion_eq hok
    obtain ⟨⟨_, rest'⟩, hrewrite, -⟩ := Except.map_eq_ok.mp ((heq now).symm.trans hok)
    have hiff := rewritePasskey_iff hP clock hauthentic.valid hrewrite
    have hcreated := forall_found_iff hauthentic
      (fun decrypted => (decrypted.foldl (findPasskey credential_id) (none, false)).1) hfound
      (fun passkey => passkey.created_at_ms ≤ max clock vault.session.manifest.committed_at_ms)
    refine exists_map_ok.trans (Iff.trans ?_ (hiff.trans hcreated.symm))
    rw [heq]
    exact exists_map_ok
  | deletePasskey credential_id clock =>
    obtain ⟨⟨_, rest⟩, hok, rfl⟩ := Except.map_eq_ok.mp hready
    obtain ⟨hmanifest, id, heq⟩ := prepareDeletePasskey_eq hok
    refine iff_of_true (exists_map_ok.mpr ?_) trivial
    have hiff := prepareRemoval_iff hP hmanifest ((heq now).symm.trans hok) clock
      (passkeyManifestTime vault.session.manifest.committed_at_ms clock)
    rw [← heq] at hiff
    exact hiff.mpr ⟨le_max_time _ _, rfl⟩

end

/-! ### A sample vault behind its manifest -/

theorem exampleComPrimitives_encrypts : Encrypts exampleComPrimitives where
  encrypt := by
    intro key nonce plaintext aad _
    exact ⟨plaintext ++ List.replicate 16 0, rfl, by simp [tagBytes]⟩

/-- A second account for the sample vault, which has been committed to at 1. -/
def secondAccount (now : UInt64) : Mutation exampleComPrimitives :=
  .addWebsiteAccount exampleComInput now

/-- What its preparation draws: an id and two nonces. -/
def secondDraws : Entropy := [List.replicate 16 2, List.replicate 24 0, List.replicate 24 0]

/-- The second account can be added at 1, and not at 0. -/
theorem secondAccount_prepare : ∃ vault, sampleRun = some vault ∧
    (∃ prepared, (secondAccount 1).prepare vault (fun _ => false) secondDraws = .ok prepared) ∧
    ¬∃ prepared, (secondAccount 0).prepare vault (fun _ => false) secondDraws = .ok prepared := by
  have hrun : sampleRun.any (fun vault =>
      ((secondAccount 1).prepare vault (fun _ => false) secondDraws).toOption.isSome &&
      ((secondAccount 0).prepare vault (fun _ => false) secondDraws).toOption.isNone) = true := by
    decide +kernel
  obtain ⟨vault, hvault, hprepare⟩ := (Option.any_eq_true _ _).mp hrun
  rw [Bool.and_eq_true, Option.isSome_iff_exists, Option.isNone_iff_eq_none] at hprepare
  obtain ⟨⟨prepared, hready⟩, hnone⟩ := hprepare
  refine ⟨vault, hvault, ⟨prepared, Except.toOption_eq_some.mp hready⟩, ?_⟩
  rintro ⟨prepared', hprepared'⟩
  rw [Except.toOption_eq_some.mpr hprepared'] at hnone
  cases hnone

/-- The second account at 1. -/
theorem clock_fits_sample : ∃ vault, sampleRun = some vault ∧
    ((∃ prepared, (secondAccount 1).prepare vault (fun _ => false) secondDraws = .ok prepared ∧
      Timely exampleComPrimitives vault.session (secondAccount 1).clock prepared) ↔
      (secondAccount 1).ClockFits vault) := by
  obtain ⟨vault, hvault, ⟨prepared, hready⟩, -⟩ := secondAccount_prepare
  exact ⟨vault, hvault, clock_fits_iff exampleComPrimitives_encrypts ⟨1, prepared, hready⟩⟩

/-- A website account cannot be added when the clock has gone back behind the manifest, even though
nothing but the clock stands in the way. -/
theorem backward_clock_refused :
    ¬∀ (P : Primitives), Encrypts P → ∀ (vault : StoredVault) (should_cancel : ℕ → Bool)
      (entropy : Entropy) (mutation : Mutation P),
      (∃ now prepared,
        (mutation.withClock now).prepare vault should_cancel entropy = .ok prepared) →
      ∃ prepared, mutation.prepare vault should_cancel entropy = .ok prepared ∧
        Timely P vault.session mutation.clock prepared := by
  intro h
  obtain ⟨vault, -, ⟨prepared, hready⟩, hrefused⟩ := secondAccount_prepare
  obtain ⟨prepared', hprepared', -⟩ := h exampleComPrimitives exampleComPrimitives_encrypts vault
    (fun _ => false) secondDraws (secondAccount 0) ⟨1, prepared, hready⟩
  exact hrefused ⟨prepared', hprepared'⟩

end Librarian.Core
