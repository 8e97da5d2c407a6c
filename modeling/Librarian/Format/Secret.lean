import Librarian.Format.Records
import Librarian.Lib.Buffer

/-!
# The secret buffers of the record encoders

`WebsiteAccountPlaintext::encode` and `PasskeyPlaintext::encode` write into a `SecretWriter` of a
capacity that is computed beforehand; a write that does not fit is a panic. Here the two encoders are
given with that buffer. It is never exceeded, so that they are the encoders of `Records`; and what
they return, as well as every valid manifest, fits into its envelope once it is encrypted.
-/

namespace Librarian.Format

/-- A chain of `checked_add` on `usize`. -/
def checkedSum (sum : ℕ) : List ℕ → Option ℕ
  | [] => some sum
  | n :: ns => if sum + n < 2 ^ 64 then checkedSum (sum + n) ns else none

/-- A sum that fits into a `usize` is computed. -/
theorem checkedSum_eq_some {sum : ℕ} {ns : List ℕ} (h : sum + ns.sum < 2 ^ 64) :
    checkedSum sum ns = some (sum + ns.sum) := by
  induction ns generalizing sum with
  | nil => rfl
  | cons n ns ih =>
    rw [List.sum_cons] at h ⊢
    rw [checkedSum, if_pos (by omega), ih (by omega), Nat.add_assoc]

/-- The end of both encoders, from the computation of the capacity on. `Vec::with_capacity` may
allocate more than it was asked for; the outer `none` is the panic of a full buffer. -/
def encodeSecret (sizes : List ℕ) (spare : ℕ) (pieces : List (List UInt8)) :
    Option (Except FormatError (List UInt8)) :=
  match checkedSum 0 sizes with
  | none => some (.error .tooLarge)
  | some capacity =>
    (Buffer.writeAll (capacity + spare) [] pieces).map fun bytes =>
      if bytes.length + tagBytes > maxRecordEnvelopeBytes then .error .tooLarge else .ok bytes

/-- Pieces within the capacity are returned, unless they exceed the limit of an envelope. -/
theorem encodeSecret_eq {sizes : List ℕ} {spare : ℕ} {pieces : List (List UInt8)}
    (hsum : sizes.sum < 2 ^ 64) (hfits : pieces.flatten.length ≤ sizes.sum)
    (hlimit : pieces.flatten.length + tagBytes ≤ maxRecordEnvelopeBytes) :
    encodeSecret sizes spare pieces = some (.ok pieces.flatten) := by
  have hwritten : Buffer.writeAll (sizes.sum + spare) [] pieces = some ([] ++ pieces.flatten) :=
    Buffer.writeAll_eq_some (by rw [List.length_nil]; omega)
  rw [encodeSecret, checkedSum_eq_some (by omega), Nat.zero_add]
  dsimp only
  rw [hwritten, Option.map_some, List.nil_append, if_neg (by omega)]

/-! ## The two encoders -/

namespace WebsiteAccountPlaintext

/-- The items that `WebsiteAccountPlaintext::encode` writes. -/
def items (value : WebsiteAccountFields) : List (List UInt8) :=
  [Cbor.array 6, encodeU32 recordSchema, encodeU32 websiteAccountRecordType,
    encodeU64 value.revision, encodeU64 value.created_at_ms, encodeU64 value.modified_at_ms,
    Cbor.array 4, Cbor.text value.service_name, Cbor.text value.permitted_origin,
    Cbor.text value.username, Cbor.text value.password]

/-- `WebsiteAccountPlaintext::encode`, with its buffer. The encoder may cut an item into several
writes. -/
def encodeWith (spare : ℕ) (pieces : List (List UInt8)) (value : WebsiteAccountPlaintext) :
    Option (Except FormatError (List UInt8)) :=
  match validatePlaintext value.toWebsiteAccountFields with
  | .error e => some (.error e)
  | .ok () =>
    encodeSecret [value.service_name.utf8ByteSize, value.permitted_origin.utf8ByteSize,
      value.username.utf8ByteSize, value.password.utf8ByteSize,
      websiteAccountEncodingOverheadBytes] spare pieces

theorem items_flatten (value : WebsiteAccountFields) :
    (items value).flatten = encodeWebsiteInto value := by
  simp [items, encodeWebsiteInto]

/-- The buffer is never exceeded, however the items are cut into writes. -/
theorem encodeWith_eq (value : WebsiteAccountPlaintext) (spare : ℕ) {pieces : List (List UInt8)}
    (hpieces : pieces.flatten = (items value.toWebsiteAccountFields).flatten) :
    encodeWith spare pieces value = some value.encode := by
  have hvalid := value.valid
  have hservice := hvalid.service_name_size
  have horigin := hvalid.permitted_origin_size
  have husername := hvalid.username_size
  have hpassword := hvalid.password_size
  have hlength := encodeWebsiteInto_length_le value.toWebsiteAccountFields
  have hlimit := encodeWebsiteInto_fits hvalid
  rw [items_flatten] at hpieces
  simp only [maxServiceNameBytes, maxOriginBytes, maxUsernameBytes, maxPasswordBytes,
    websiteAccountEncodingOverheadBytes] at hservice horigin husername hpassword hlength
  rw [encodeWith, value.validated, value.encode_eq, ← hpieces]
  rw [← hpieces] at hlength hlimit
  apply encodeSecret_eq
  · simp only [List.sum_cons, List.sum_nil, websiteAccountEncodingOverheadBytes]
    omega
  · simp only [List.sum_cons, List.sum_nil, websiteAccountEncodingOverheadBytes]
    omega
  · exact hlimit

end WebsiteAccountPlaintext

namespace PasskeyPlaintext

/-- The items that `PasskeyPlaintext::encode` writes. -/
def items (value : PasskeyFields) : List (List UInt8) :=
  [Cbor.array 6, encodeU32 recordSchema, encodeU32 passkeyRecordType, encodeU64 value.revision,
    encodeU64 value.created_at_ms, encodeU64 value.modified_at_ms, Cbor.array 8,
    encodeU32 value.signature_counter, encodeU32 value.creation_state.code,
    Cbor.text value.rp_id, Cbor.bytes value.user_handle, Cbor.text value.user_name,
    Cbor.text value.user_display_name, Cbor.bytes value.credential_id.val,
    Cbor.bytes value.private_key.val]

/-- `PasskeyPlaintext::encode`, with its buffer. -/
def encodeWith (spare : ℕ) (pieces : List (List UInt8)) (value : PasskeyPlaintext) :
    Option (Except FormatError (List UInt8)) :=
  match validatePasskeyPlaintext value.toPasskeyFields with
  | .error e => some (.error e)
  | .ok () =>
    encodeSecret [value.rp_id.utf8ByteSize, value.user_handle.length,
      value.user_name.utf8ByteSize, value.user_display_name.utf8ByteSize,
      passkeyEncodingOverheadBytes] spare pieces

theorem items_flatten (value : PasskeyFields) :
    (items value).flatten = encodePasskeyInto value := by
  simp [items, encodePasskeyInto]

/-- The buffer is never exceeded, however the items are cut into writes. -/
theorem encodeWith_eq (value : PasskeyPlaintext) (spare : ℕ) {pieces : List (List UInt8)}
    (hpieces : pieces.flatten = (items value.toPasskeyFields).flatten) :
    encodeWith spare pieces value = some value.encode := by
  have hvalid := value.valid
  have hrp := hvalid.rp_id_size
  have hhandle := hvalid.user_handle_size
  have hname := hvalid.user_name_size
  have hdisplay := hvalid.user_display_name_size
  have hlength := encodePasskeyInto_length_le value.toPasskeyFields
  have hlimit := encodePasskeyInto_fits hvalid
  rw [items_flatten] at hpieces
  simp only [maxPasskeyRpIdBytes, maxPasskeyUserHandleBytes, maxPasskeyUserNameBytes,
    maxPasskeyUserDisplayNameBytes] at hrp hhandle hname hdisplay
  simp only [passkeyEncodingOverheadBytes] at hlength
  rw [encodeWith, value.validated, value.encode_eq, ← hpieces]
  rw [← hpieces] at hlength hlimit
  apply encodeSecret_eq
  · simp only [List.sum_cons, List.sum_nil, passkeyEncodingOverheadBytes]
    omega
  · simp only [List.sum_cons, List.sum_nil, passkeyEncodingOverheadBytes]
    omega
  · exact hlimit

end PasskeyPlaintext

/-! ## Encrypted plaintexts -/

/-- What a record envelope adds to its ciphertext. -/
theorem encodeRecordEnvelopeInto_length_le (envelope : RecordEnvelope) :
    (encodeRecordEnvelopeInto envelope).length ≤ envelope.ciphertext.length + 69 := by
  have harray : (Cbor.array 4).length ≤ 9 := Cbor.head_length_le 4 _
  have hversion := encodeU32_length_le recordEnvelopeVersion
  have hepoch := encodeU32_length_le envelope.key_epoch
  have hnonce := Cbor.head_length_le 2 envelope.nonce.val.length
  have hciphertext := Cbor.head_length_le 2 envelope.ciphertext.length
  have hsize := envelope.nonce.property
  simp only [encodeRecordEnvelopeInto, List.length_append, Cbor.bytes_length]
  omega

/-- A ciphertext that leaves room for the rest of the envelope is accepted. -/
theorem RecordEnvelope.new_of_room {key_epoch : UInt32} (hepoch : key_epoch ≠ 0) (nonce : Bytes 24)
    {ciphertext : List UInt8} (htag : tagBytes ≤ ciphertext.length)
    (hroom : ciphertext.length + 69 ≤ maxRecordEnvelopeBytes) :
    RecordEnvelope.new key_epoch nonce ciphertext = .ok ⟨key_epoch, nonce, ciphertext⟩ := by
  have hlength := encodeRecordEnvelopeInto_length_le ⟨key_epoch, nonce, ciphertext⟩
  exact RecordEnvelope.new_eq_ok.mpr ⟨rfl, _, RecordEnvelope.encode_eq_ok.mpr
    ⟨⟨hepoch, htag⟩, hlength.trans hroom, rfl⟩⟩

/-- A plaintext that leaves room for the tag and the envelope is accepted once it is encrypted. -/
theorem RecordEnvelope.new_of_plaintext {key_epoch : UInt32} (hepoch : key_epoch ≠ 0)
    (nonce : Bytes 24) {plaintext ciphertext : List UInt8}
    (hlength : ciphertext.length = plaintext.length + tagBytes)
    (hroom : plaintext.length + 85 ≤ maxRecordEnvelopeBytes) :
    ∃ envelope, RecordEnvelope.new key_epoch nonce ciphertext = .ok envelope := by
  unfold tagBytes at hlength
  exact ⟨_, RecordEnvelope.new_of_room hepoch nonce (by unfold tagBytes; omega) (by omega)⟩

theorem encodeWebsiteInto_room {value : WebsiteAccountFields} (h : value.Valid) :
    (encodeWebsiteInto value).length + 85 ≤ maxRecordEnvelopeBytes := by
  have hcapacity := encodeWebsiteInto_length_le value
  have hservice := h.service_name_size
  have horigin := h.permitted_origin_size
  have husername := h.username_size
  have hpassword := h.password_size
  simp only [maxServiceNameBytes, maxOriginBytes, maxUsernameBytes, maxPasswordBytes,
    websiteAccountEncodingOverheadBytes, maxRecordEnvelopeBytes] at *
  omega

theorem encodePasskeyInto_room {value : PasskeyFields} (h : value.Valid) :
    (encodePasskeyInto value).length + 85 ≤ maxRecordEnvelopeBytes := by
  have hcapacity := encodePasskeyInto_length_le value
  have hrp := h.rp_id_size
  have hhandle := h.user_handle_size
  have hname := h.user_name_size
  have hdisplay := h.user_display_name_size
  simp only [maxPasskeyRpIdBytes, maxPasskeyUserHandleBytes, maxPasskeyUserNameBytes,
    maxPasskeyUserDisplayNameBytes, passkeyEncodingOverheadBytes, maxRecordEnvelopeBytes] at *
  omega

/-! ## Manifests -/

/-- An entry of a manifest takes 52 bytes. -/
theorem encodeEntry_length (entry : ManifestEntry) : (encodeEntry entry).length = 52 := by
  have harray : (Cbor.array 2).length = 1 := Cbor.head_length_eq_one (by norm_num)
  have hid : (Cbor.bytes entry.record_id.val).length = 17 := by
    rw [Cbor.bytes_length, entry.record_id.property]
    rfl
  have hdigest : (Cbor.bytes entry.envelope_digest.val).length = 34 := by
    rw [Cbor.bytes_length, entry.envelope_digest.property]
    rfl
  simp only [encodeEntry, List.length_append, harray, hid, hdigest]

theorem encodeEntries_length (entries : List ManifestEntry) :
    (encodeEntries entries).length = 52 * entries.length := by
  induction entries with
  | nil => rfl
  | cons entry entries ih =>
    rw [encodeEntries, List.length_append, encodeEntry_length, ih, List.length_cons]
    omega

/-- The largest manifest leaves room for the tag and the envelope. -/
theorem encodeManifestInto_room {manifest : Manifest}
    (hentries : manifest.entries.length ≤ maxRecords) :
    (encodeManifestInto manifest).length + 76 ≤ maxManifestEnvelopeBytes := by
  have harray : (Cbor.array 7).length ≤ 9 := Cbor.head_length_le 4 _
  have hschema := encodeU32_length_le manifestSchema
  have hgeneration := encodeU64_length_le manifest.generation
  have hepoch := encodeU32_length_le manifest.key_epoch
  have hvault := encodeU32_length_le manifest.vault_schema
  have hcreated := encodeU64_length_le manifest.created_at_ms
  have hcommitted := encodeU64_length_le manifest.committed_at_ms
  have hcount : (Cbor.array manifest.entries.length).length ≤ 9 := Cbor.head_length_le 4 _
  unfold maxRecords at hentries
  simp only [encodeManifestInto, List.length_append, encodeEntries_length,
    maxManifestEnvelopeBytes]
  omega

theorem encodeManifestEnvelopeInto_length_le (envelope : ManifestEnvelope) :
    (encodeManifestEnvelopeInto envelope).length ≤ envelope.ciphertext.length + 60 := by
  have harray : (Cbor.array 3).length ≤ 9 := Cbor.head_length_le 4 _
  have hversion := encodeU32_length_le manifestEnvelopeVersion
  have hnonce := Cbor.head_length_le 2 envelope.nonce.val.length
  have hciphertext := Cbor.head_length_le 2 envelope.ciphertext.length
  have hsize := envelope.nonce.property
  simp only [encodeManifestEnvelopeInto, List.length_append, Cbor.bytes_length]
  omega

/-- Every valid manifest is encoded. -/
theorem Manifest.encode_of_valid {manifest : Manifest}
    (h : validateManifest manifest = .ok ()) :
    manifest.encode = .ok (encodeManifestInto manifest) := by
  have hentries := (validateManifest_eq_ok.mp h).2.2.2.1
  have hroom := encodeManifestInto_room hentries
  exact Manifest.encode_eq_ok.mpr ⟨h, by unfold tagBytes; omega, rfl⟩

/-- A manifest that is encrypted is accepted by its envelope. -/
theorem ManifestEnvelope.new_of_plaintext {manifest : Manifest}
    (h : validateManifest manifest = .ok ()) (nonce : Bytes 24) {ciphertext : List UInt8}
    (hlength : ciphertext.length = (encodeManifestInto manifest).length + tagBytes) :
    ManifestEnvelope.new nonce ciphertext = .ok ⟨nonce, ciphertext⟩ := by
  have hroom := encodeManifestInto_room (validateManifest_eq_ok.mp h).2.2.2.1
  have henvelope := encodeManifestEnvelopeInto_length_le ⟨nonce, ciphertext⟩
  unfold tagBytes at hlength
  refine ManifestEnvelope.new_eq_ok.mpr ⟨rfl, _, ManifestEnvelope.encode_eq_ok.mpr
    ⟨?_, ?_, rfl⟩⟩
  · show tagBytes ≤ ciphertext.length
    unfold tagBytes
    omega
  · have hsize : ciphertext.length + 60 ≤ maxManifestEnvelopeBytes := by omega
    exact henvelope.trans hsize

/-! ## All of it -/

/-- The encoders of records and manifests succeed on valid values: the secret buffer is never
exceeded, however the encoder cuts its items into writes and however much more than the capacity is
allocated, and what they return is accepted by the envelope after encryption. -/
theorem encoders_succeed :
    (∀ value : WebsiteAccountPlaintext, ∃ bytes, value.encode = .ok bytes ∧
      (∀ (spare : ℕ) (pieces : List (List UInt8)),
        pieces.flatten = (WebsiteAccountPlaintext.items value.toWebsiteAccountFields).flatten →
        value.encodeWith spare pieces = some (.ok bytes)) ∧
      ∀ (key_epoch : UInt32) (nonce : Bytes 24) (ciphertext : List UInt8), key_epoch ≠ 0 →
        ciphertext.length = bytes.length + tagBytes →
        ∃ envelope, RecordEnvelope.new key_epoch nonce ciphertext = .ok envelope) ∧
    (∀ value : PasskeyPlaintext, ∃ bytes, value.encode = .ok bytes ∧
      (∀ (spare : ℕ) (pieces : List (List UInt8)),
        pieces.flatten = (PasskeyPlaintext.items value.toPasskeyFields).flatten →
        value.encodeWith spare pieces = some (.ok bytes)) ∧
      ∀ (key_epoch : UInt32) (nonce : Bytes 24) (ciphertext : List UInt8), key_epoch ≠ 0 →
        ciphertext.length = bytes.length + tagBytes →
        ∃ envelope, RecordEnvelope.new key_epoch nonce ciphertext = .ok envelope) ∧
    ∀ manifest : Manifest, validateManifest manifest = .ok () →
      ∃ bytes, manifest.encode = .ok bytes ∧
        ∀ (nonce : Bytes 24) (ciphertext : List UInt8),
          ciphertext.length = bytes.length + tagBytes →
          ∃ envelope, ManifestEnvelope.new nonce ciphertext = .ok envelope := by
  refine ⟨fun value => ⟨_, value.encode_eq, ?_, ?_⟩, fun value => ⟨_, value.encode_eq, ?_, ?_⟩,
    fun manifest h => ⟨_, Manifest.encode_of_valid h, ?_⟩⟩
  · intro spare pieces hpieces
    rw [value.encodeWith_eq spare hpieces, value.encode_eq]
  · intro key_epoch nonce ciphertext hepoch hlength
    exact RecordEnvelope.new_of_plaintext hepoch nonce hlength (encodeWebsiteInto_room value.valid)
  · intro spare pieces hpieces
    rw [value.encodeWith_eq spare hpieces, value.encode_eq]
  · intro key_epoch nonce ciphertext hepoch hlength
    exact RecordEnvelope.new_of_plaintext hepoch nonce hlength (encodePasskeyInto_room value.valid)
  · intro nonce ciphertext hlength
    exact ⟨_, ManifestEnvelope.new_of_plaintext h nonce hlength⟩

end Librarian.Format
