import Librarian.Format.Header
import Librarian.Lib.Keyed

/-!
# The encrypted manifest

`Manifest` commits to the active records: one entry for each record, with the digest of its
envelope, in ascending order of record ids. `ManifestEnvelope` is the form in which it is stored.
-/

namespace Librarian.Format

open Cursor (Reads)

/-- `MANIFEST_SCHEMA`. -/
def manifestSchema : UInt32 := 1

/-- `VAULT_SCHEMA`. -/
def vaultSchema : UInt32 := 1

/-- One active-record commitment in the encrypted manifest. -/
structure ManifestEntry where
  record_id : Bytes 16
  envelope_digest : Bytes 32
  deriving DecidableEq

/-- The authenticated active-record manifest plaintext. -/
structure Manifest where
  generation : UInt64
  key_epoch : UInt32
  vault_schema : UInt32
  created_at_ms : UInt64
  committed_at_ms : UInt64
  entries : List ManifestEntry
  deriving DecidableEq

/-- `Manifest::empty`. -/
def Manifest.empty (created_at_ms : UInt64) (key_epoch : UInt32) : Manifest where
  generation := 0
  key_epoch := key_epoch
  vault_schema := vaultSchema
  created_at_ms := created_at_ms
  committed_at_ms := created_at_ms
  entries := []

/-- `validate_manifest`. -/
def validateManifest (manifest : Manifest) : Except FormatError Unit := do
  if manifest.key_epoch = 0 ∨ manifest.vault_schema ≠ vaultSchema then throw .unsupported
  if manifest.committed_at_ms < manifest.created_at_ms then throw .invariantViolation
  if manifest.entries.length > maxRecords then throw .tooLarge
  if (Keyed.windows2 manifest.entries).any (fun pair => pair.1.record_id ≥ pair.2.record_id) then
    throw .invariantViolation

/-- `checked_add(1)` on a `u64`. -/
def checkedSucc (value : UInt64) : Option UInt64 :=
  if value.toNat + 1 < 2 ^ 64 then some (value + 1) else none

/-- `Manifest::next_generation`. -/
def Manifest.nextGeneration (manifest : Manifest) (committed_at_ms : UInt64)
    (entries : List ManifestEntry) : Except FormatError Manifest := do
  if committed_at_ms < manifest.committed_at_ms then throw .invariantViolation
  let generation ← (checkedSucc manifest.generation).okOr .invariantViolation
  let next : Manifest :=
    { manifest with
      generation := generation
      committed_at_ms := committed_at_ms
      entries := entries }
  validateManifest next
  return next

/-! ## Encoding and decoding -/

/-- One iteration of the entry loop of `Manifest::encode`. -/
def encodeEntry (entry : ManifestEntry) : List UInt8 :=
  Cbor.array 2 ++ (Cbor.bytes entry.record_id.val ++ Cbor.bytes entry.envelope_digest.val)

/-- The entry loop of `Manifest::encode`. -/
def encodeEntries : List ManifestEntry → List UInt8
  | [] => []
  | entry :: entries => encodeEntry entry ++ encodeEntries entries

/-- The bytes that `Manifest::encode` writes. -/
def encodeManifestInto (manifest : Manifest) : List UInt8 :=
  Cbor.array 7 ++ (encodeU32 manifestSchema ++ (encodeU64 manifest.generation ++
    (encodeU32 manifest.key_epoch ++ (encodeU32 manifest.vault_schema ++
      (encodeU64 manifest.created_at_ms ++ (encodeU64 manifest.committed_at_ms ++
        (Cbor.array manifest.entries.length ++ encodeEntries manifest.entries)))))))

/-- `Manifest::encode`. -/
def Manifest.encode (manifest : Manifest) : Except FormatError (List UInt8) := do
  validateManifest manifest
  let bytes := encodeManifestInto manifest
  if bytes.length + tagBytes > maxManifestEnvelopeBytes then throw .tooLarge
  return bytes

/-- One iteration of the entry loop of `Manifest::decode`. -/
def decodeEntry : Decoder ManifestEntry := do
  expectArray 2
  let record_id ← decodeFixedBytes 16
  let envelope_digest ← decodeFixedBytes 32
  return ⟨record_id, envelope_digest⟩

/-- The entry loop of `Manifest::decode`, for the number of entries that are left. -/
def decodeEntries : ℕ → Decoder (List ManifestEntry)
  | 0 => pure []
  | n + 1 => do
    let entry ← decodeEntry
    let entries ← decodeEntries n
    return entry :: entries

/-- The reads of `Manifest::decode`. -/
def decodeManifestFrom : Decoder Manifest := do
  expectArray 7
  expectU32 manifestSchema
  let generation ← decodeU64
  let key_epoch ← decodeU32
  let vault_schema ← decodeU32
  let created_at_ms ← decodeU64
  let committed_at_ms ← decodeU64
  let entry_count ← decodeArrayLen
  if entry_count > maxRecords then throw .tooLarge
  let entries ← decodeEntries entry_count
  return ⟨generation, key_epoch, vault_schema, created_at_ms, committed_at_ms, entries⟩

/-- `Manifest::decode`. -/
def Manifest.decode (bytes : List UInt8) : Except FormatError Manifest := do
  if bytes.length + tagBytes > maxManifestEnvelopeBytes then throw .tooLarge
  let manifest ← decodeAll decodeManifestFrom bytes
  validateManifest manifest
  if (← manifest.encode) ≠ bytes then throw .nonCanonical
  return manifest

/-- The separately stored encrypted manifest envelope. -/
structure ManifestEnvelope where
  nonce : Bytes 24
  ciphertext : List UInt8
  deriving DecidableEq

/-- The bytes that `ManifestEnvelope::encode` writes. -/
def encodeManifestEnvelopeInto (envelope : ManifestEnvelope) : List UInt8 :=
  Cbor.array 3 ++ (encodeU32 manifestEnvelopeVersion ++ (Cbor.bytes envelope.nonce.val ++
    Cbor.bytes envelope.ciphertext))

/-- `ManifestEnvelope::encode`. -/
def ManifestEnvelope.encode (envelope : ManifestEnvelope) : Except FormatError (List UInt8) := do
  if envelope.ciphertext.length < tagBytes then throw .malformed
  let bytes := encodeManifestEnvelopeInto envelope
  if bytes.length > maxManifestEnvelopeBytes then throw .tooLarge
  return bytes

/-- `ManifestEnvelope::new`. -/
def ManifestEnvelope.new (nonce : Bytes 24) (ciphertext : List UInt8) :
    Except FormatError ManifestEnvelope := do
  if ciphertext.length < tagBytes then throw .malformed
  let envelope : ManifestEnvelope := ⟨nonce, ciphertext⟩
  if (← envelope.encode).length > maxManifestEnvelopeBytes then throw .tooLarge
  return envelope

/-- The reads of `ManifestEnvelope::decode`. -/
def decodeManifestEnvelopeFrom : Decoder (Bytes 24 × List UInt8) := do
  expectArray 3
  expectU32 manifestEnvelopeVersion
  let nonce ← decodeFixedBytes 24
  let ciphertext ← decodeBoundedBytes maxManifestEnvelopeBytes
  return (nonce, ciphertext)

/-- `ManifestEnvelope::decode`. -/
def ManifestEnvelope.decode (bytes : List UInt8) : Except FormatError ManifestEnvelope := do
  if bytes.length > maxManifestEnvelopeBytes then throw .tooLarge
  let (nonce, ciphertext) ← decodeAll decodeManifestEnvelopeFrom bytes
  let envelope ← ManifestEnvelope.new nonce ciphertext
  if (← envelope.encode) ≠ bytes then throw .nonCanonical
  return envelope

/-! ## What validation means -/

/-- `validate_manifest` accepts exactly the manifests with these properties. -/
theorem validateManifest_eq_ok {manifest : Manifest} :
    validateManifest manifest = .ok () ↔ manifest.key_epoch ≠ 0 ∧
      manifest.vault_schema = vaultSchema ∧
      manifest.created_at_ms ≤ manifest.committed_at_ms ∧
      manifest.entries.length ≤ maxRecords ∧
      Keyed.Ascending ManifestEntry.record_id manifest.entries := by
  rw [← Keyed.windows2_any_eq_false]
  simp [validateManifest, and_assoc]

/-- What a successful `Manifest::next_generation` says about the next manifest. -/
theorem Manifest.nextGeneration_eq_ok {manifest next : Manifest} {committed_at_ms : UInt64}
    {entries : List ManifestEntry} :
    manifest.nextGeneration committed_at_ms entries = .ok next ↔
      manifest.committed_at_ms ≤ committed_at_ms ∧
      ∃ generation, checkedSucc manifest.generation = some generation ∧
        next = { manifest with
          generation := generation, committed_at_ms := committed_at_ms, entries := entries } ∧
        validateManifest next = .ok () := by
  simp only [Manifest.nextGeneration, Except.throw_eq, Except.error_bind, Except.ite_error_eq_ok,
    Except.bind_eq_ok, Option.okOr_eq_ok, Except.exists_unit_eq, Except.pure_eq, Except.ok.injEq,
    UInt64.not_lt]
  constructor
  · rintro ⟨htime, generation, hgeneration, hvalid, rfl⟩
    exact ⟨htime, generation, hgeneration, rfl, hvalid⟩
  · rintro ⟨htime, generation, hgeneration, rfl, hvalid⟩
    exact ⟨htime, generation, hgeneration, hvalid, rfl⟩

/-! ## Round trips -/

theorem decodeEntry_reads (entry : ManifestEntry) :
    Reads decodeEntry (encodeEntry entry) entry := by
  refine (expectArray_reads (by norm_num)).bind ?_
  refine (decodeFixedBytes_reads (by norm_num) _).bind ?_
  exact (decodeFixedBytes_reads (by norm_num) _).bind_last (Reads.pure entry)

theorem decodeEntries_reads (entries : List ManifestEntry) :
    Reads (decodeEntries entries.length) (encodeEntries entries) entries := by
  induction entries with
  | nil => exact Reads.pure []
  | cons entry entries ih =>
    exact (decodeEntry_reads entry).bind (ih.bind_last (Reads.pure (entry :: entries)))

theorem decodeManifestFrom_reads {manifest : Manifest}
    (hlength : manifest.entries.length ≤ maxRecords) :
    Reads decodeManifestFrom (encodeManifestInto manifest) manifest := by
  have hbound : manifest.entries.length < 2 ^ 64 := by
    unfold maxRecords at hlength
    omega
  refine (expectArray_reads (by norm_num)).bind ?_
  refine (expectU32_reads _).bind ?_
  refine (decodeU64_reads _).bind ?_
  refine (decodeU32_reads _).bind ?_
  refine (decodeU32_reads _).bind ?_
  refine (decodeU64_reads _).bind ?_
  refine (decodeU64_reads _).bind ?_
  refine (decodeArrayLen_reads hbound).bind ?_
  rw [if_neg (not_lt.mpr hlength)]
  exact (decodeEntries_reads _).bind_last (Reads.pure manifest)

/-- What a successful `Manifest::encode` says about the manifest and its bytes. -/
theorem Manifest.encode_eq_ok {manifest : Manifest} {bytes : List UInt8} :
    manifest.encode = .ok bytes ↔ validateManifest manifest = .ok () ∧
      (encodeManifestInto manifest).length + tagBytes ≤ maxManifestEnvelopeBytes ∧
      encodeManifestInto manifest = bytes := by
  simp [Manifest.encode]

/-- An encoded manifest is decoded. -/
theorem Manifest.decode_encode {manifest : Manifest} {bytes : List UInt8}
    (h : manifest.encode = .ok bytes) : Manifest.decode bytes = .ok manifest := by
  obtain ⟨hvalid, hsize, rfl⟩ := encode_eq_ok.mp h
  have hlength := (validateManifest_eq_ok.mp hvalid).2.2.2.1
  have hread := decodeAll_eq (decodeManifestFrom_reads hlength)
  simp [Manifest.decode, hread, hvalid, h, hsize]

/-- A decoded manifest re-encodes to the bytes that it was decoded from. -/
theorem Manifest.encode_of_decode {manifest : Manifest} {bytes : List UInt8}
    (h : Manifest.decode bytes = .ok manifest) : manifest.encode = .ok bytes := by
  simp only [Manifest.decode, Except.throw_eq, Except.error_bind, Except.ite_error_eq_ok, Except.bind_eq_ok,
    Except.pure_eq, Except.ok.injEq, not_not] at h
  obtain ⟨-, _, -, _, -, bytes', hbytes, rfl, rfl⟩ := h
  exact hbytes

theorem decodeManifestEnvelopeFrom_reads {envelope : ManifestEnvelope}
    (hlength : envelope.ciphertext.length ≤ maxManifestEnvelopeBytes) :
    Reads decodeManifestEnvelopeFrom (encodeManifestEnvelopeInto envelope)
      (envelope.nonce, envelope.ciphertext) := by
  refine (expectArray_reads (by norm_num)).bind ?_
  refine (expectU32_reads _).bind ?_
  refine (decodeFixedBytes_reads (by norm_num) _).bind ?_
  exact (decodeBoundedBytes_reads (by norm_num [maxManifestEnvelopeBytes]) hlength).bind_last
    (Reads.pure _)

/-- What a successful `ManifestEnvelope::encode` says about the envelope and its bytes. -/
theorem ManifestEnvelope.encode_eq_ok {envelope : ManifestEnvelope} {bytes : List UInt8} :
    envelope.encode = .ok bytes ↔ tagBytes ≤ envelope.ciphertext.length ∧
      (encodeManifestEnvelopeInto envelope).length ≤ maxManifestEnvelopeBytes ∧
      encodeManifestEnvelopeInto envelope = bytes := by
  simp [ManifestEnvelope.encode]

/-- `ManifestEnvelope::new` checks exactly that the envelope can be encoded. -/
theorem ManifestEnvelope.new_eq_ok {nonce : Bytes 24} {ciphertext : List UInt8}
    {envelope : ManifestEnvelope} :
    ManifestEnvelope.new nonce ciphertext = .ok envelope ↔
      envelope = ⟨nonce, ciphertext⟩ ∧ ∃ bytes, envelope.encode = .ok bytes := by
  simp only [ManifestEnvelope.new, Except.throw_eq, Except.error_bind, Except.ite_error_eq_ok, Except.bind_eq_ok,
    Except.pure_eq, Except.ok.injEq, encode_eq_ok]
  constructor
  · rintro ⟨hshort, bytes, ⟨htag, hsize, hbytes⟩, -, rfl⟩
    exact ⟨rfl, bytes, htag, hsize, hbytes⟩
  · rintro ⟨rfl, bytes, htag, hsize, rfl⟩
    exact ⟨not_lt.mpr htag, _, ⟨htag, hsize, rfl⟩, not_lt.mpr hsize, rfl⟩

/-- A ciphertext is no longer than the envelope around it. -/
theorem ManifestEnvelope.ciphertext_length_le (envelope : ManifestEnvelope) :
    envelope.ciphertext.length ≤ (encodeManifestEnvelopeInto envelope).length := by
  simp only [encodeManifestEnvelopeInto, Cbor.bytes, List.length_append]
  omega

/-- An encoded manifest envelope is decoded. -/
theorem ManifestEnvelope.decode_encode {envelope : ManifestEnvelope} {bytes : List UInt8}
    (h : envelope.encode = .ok bytes) : ManifestEnvelope.decode bytes = .ok envelope := by
  obtain ⟨htag, hsize, rfl⟩ := encode_eq_ok.mp h
  have hread := decodeAll_eq (decodeManifestEnvelopeFrom_reads
    (envelope.ciphertext_length_le.trans hsize))
  have hnew : ManifestEnvelope.new envelope.nonce envelope.ciphertext = .ok envelope :=
    new_eq_ok.mpr ⟨rfl, _, h⟩
  simp [ManifestEnvelope.decode, hread, hnew, h, hsize]

/-- A decoded manifest envelope re-encodes to the bytes that it was decoded from. -/
theorem ManifestEnvelope.encode_of_decode {envelope : ManifestEnvelope} {bytes : List UInt8}
    (h : ManifestEnvelope.decode bytes = .ok envelope) : envelope.encode = .ok bytes := by
  simp only [ManifestEnvelope.decode, Except.throw_eq, Except.error_bind, Except.ite_error_eq_ok,
    Except.bind_eq_ok, Except.pure_eq, Except.ok.injEq, not_not] at h
  obtain ⟨-, _, -, _, -, bytes', hbytes, rfl, rfl⟩ := h
  exact hbytes

end Librarian.Format
