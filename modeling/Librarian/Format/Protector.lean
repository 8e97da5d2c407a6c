import Librarian.Format.Records
import Librarian.Lib.Codec

/-!
# The Windows Hello protector, and all formats together

`WindowsHelloProtector` is the device-local record that holds the vault root key wrapped under a key
that only Windows Hello can derive. With it, every structure of `vault-format` has been modelled, and
`vault_codecs_canonical` says of all of them that encoding and decoding are inverse.
-/

namespace Librarian.Format

open Cursor (Reads)

/-- `WINDOWS_HELLO_PROTECTOR_VERSION`. -/
def windowsHelloProtectorVersion : UInt32 := 1

/-- `MAX_WINDOWS_HELLO_CREDENTIAL_ID_BYTES`. -/
def maxWindowsHelloCredentialIdBytes : ℕ := 1024

/-- `MAX_WINDOWS_HELLO_PROTECTOR_BYTES`. -/
def maxWindowsHelloProtectorBytes : ℕ := 2 * 1024

/-- `WINDOWS_HELLO_MAGIC`. -/
def windowsHelloMagic : String := "LBR-HLO"

/-- Canonical device-local metadata for a Windows Hello protected root key. -/
structure WindowsHelloProtector where
  vault_id : Bytes 16
  key_epoch : UInt32
  installation_id : Bytes 32
  credential_id : List UInt8
  prf_salt : Bytes 32
  nonce : Bytes 24
  wrapped_vrk : Bytes 48
  deriving DecidableEq

/-- `WindowsHelloProtector::new`, on the fields of a protector. -/
def WindowsHelloProtector.new (value : WindowsHelloProtector) :
    Except FormatError WindowsHelloProtector := do
  if value.key_epoch = 0 ∨ value.installation_id.isZero ∨ value.credential_id = [] then
    throw .invariantViolation
  if value.credential_id.length > maxWindowsHelloCredentialIdBytes then throw .tooLarge
  return value

/-- The suite identifiers of `encode_windows_hello_binding_into`. -/
def encodeHelloSuite : List UInt8 :=
  Cbor.text windowsHelloMagic ++ (encodeU32 windowsHelloProtectorVersion ++
    (encodeU32 containerVersion ++ (encodeU32 minimumReaderVersion ++ (encodeU32 keySchedule ++
      (encodeU32 aeadSuite ++ (encodeU32 encoding ++ encodeU32 digestSuite))))))

/-- `encode_windows_hello_binding_into`, followed by further bytes. -/
def encodeWindowsHelloBindingInto (value : WindowsHelloProtector) (rest : List UInt8) :
    List UInt8 :=
  encodeHelloSuite ++ (Cbor.bytes value.vault_id.val ++ (encodeU32 value.key_epoch ++
    (Cbor.bytes value.installation_id.val ++ (Cbor.bytes value.credential_id ++
      (Cbor.bytes value.prf_salt.val ++ rest)))))

/-- `encode_windows_hello_protector_into`. -/
def encodeWindowsHelloProtectorInto (value : WindowsHelloProtector) : List UInt8 :=
  Cbor.array 15 ++ encodeWindowsHelloBindingInto value
    (Cbor.bytes value.nonce.val ++ Cbor.bytes value.wrapped_vrk.val)

/-- `encode_windows_hello_wrapper_aad`. -/
def encodeWindowsHelloWrapperAad (value : WindowsHelloProtector) : List UInt8 :=
  Cbor.array 14 ++ encodeWindowsHelloBindingInto value (Cbor.bytes value.nonce.val)

/-- `WindowsHelloProtector::encode`. -/
def WindowsHelloProtector.encode (value : WindowsHelloProtector) :
    Except FormatError (List UInt8) := do
  let _ ← WindowsHelloProtector.new value
  let bytes := encodeWindowsHelloProtectorInto value
  if bytes.length > maxWindowsHelloProtectorBytes then throw .tooLarge
  return bytes

/-- The reads of the suite identifiers in `WindowsHelloProtector::decode`. -/
def decodeHelloSuite : Decoder Unit := do
  let magic ← decodeStr
  if magic ≠ windowsHelloMagic then throw .malformed
  expectU32 windowsHelloProtectorVersion
  expectU32 containerVersion
  expectU32 minimumReaderVersion
  expectU32 keySchedule
  expectU32 aeadSuite
  expectU32 encoding
  expectU32 digestSuite

/-- The reads of `WindowsHelloProtector::decode`. -/
def decodeProtectorFrom : Decoder WindowsHelloProtector := do
  expectArray 15
  decodeHelloSuite
  let vault_id ← decodeFixedBytes 16
  let key_epoch ← decodeU32
  let installation_id ← decodeFixedBytes 32
  let credential_id ← decodeBoundedBytes maxWindowsHelloCredentialIdBytes
  let prf_salt ← decodeFixedBytes 32
  let nonce ← decodeFixedBytes 24
  let wrapped_vrk ← decodeFixedBytes 48
  return ⟨vault_id, key_epoch, installation_id, credential_id, prf_salt, nonce, wrapped_vrk⟩

/-- `WindowsHelloProtector::decode`. -/
def WindowsHelloProtector.decode (bytes : List UInt8) :
    Except FormatError WindowsHelloProtector := do
  if bytes.length > maxWindowsHelloProtectorBytes then throw .tooLarge
  let fields ← decodeAll decodeProtectorFrom bytes
  let value ← WindowsHelloProtector.new fields
  if (← value.encode) ≠ bytes then throw .nonCanonical
  return value

/-! ## Round trip -/

theorem decodeHelloSuite_reads : Reads decodeHelloSuite encodeHelloSuite () := by
  refine (decodeStr_reads (by decide)).bind ?_
  rw [if_neg (by simp)]
  refine (expectU32_reads _).bind ?_
  refine (expectU32_reads _).bind ?_
  refine (expectU32_reads _).bind ?_
  refine (expectU32_reads _).bind ?_
  refine (expectU32_reads _).bind ?_
  refine (expectU32_reads _).bind ?_
  exact expectU32_reads _

theorem decodeProtectorFrom_reads {value : WindowsHelloProtector}
    (hlength : value.credential_id.length ≤ maxWindowsHelloCredentialIdBytes) :
    Reads decodeProtectorFrom (encodeWindowsHelloProtectorInto value) value := by
  refine (expectArray_reads (by norm_num)).bind ?_
  refine decodeHelloSuite_reads.bind ?_
  refine (decodeFixedBytes_reads (by norm_num) _).bind ?_
  refine (decodeU32_reads _).bind ?_
  refine (decodeFixedBytes_reads (by norm_num) _).bind ?_
  refine (decodeBoundedBytes_reads (by norm_num [maxWindowsHelloCredentialIdBytes]) hlength).bind ?_
  refine (decodeFixedBytes_reads (by norm_num) _).bind ?_
  refine (decodeFixedBytes_reads (by norm_num) _).bind ?_
  exact (decodeFixedBytes_reads (by norm_num) _).bind_last (Reads.pure value)

/-- `WindowsHelloProtector::new` returns its argument or fails. -/
theorem WindowsHelloProtector.new_eq_ok {value value' : WindowsHelloProtector} :
    WindowsHelloProtector.new value = .ok value' ↔
      (value.key_epoch ≠ 0 ∧ value.installation_id.isZero = false ∧ value.credential_id ≠ []) ∧
      value.credential_id.length ≤ maxWindowsHelloCredentialIdBytes ∧ value = value' := by
  simp [WindowsHelloProtector.new, and_assoc]

/-- What a successful `WindowsHelloProtector::encode` says about the protector and its bytes. -/
theorem WindowsHelloProtector.encode_eq_ok {value : WindowsHelloProtector} {bytes : List UInt8} :
    value.encode = .ok bytes ↔ WindowsHelloProtector.new value = .ok value ∧
      (encodeWindowsHelloProtectorInto value).length ≤ maxWindowsHelloProtectorBytes ∧
      encodeWindowsHelloProtectorInto value = bytes := by
  simp only [WindowsHelloProtector.encode, Except.throw_eq, Except.error_bind, Except.pure_eq,
    Except.bind_eq_ok, Except.ite_error_eq_ok, Except.ok.injEq, not_lt, new_eq_ok]
  constructor
  · rintro ⟨_, ⟨hvalid, hlength, rfl⟩, hsize, hbytes⟩
    exact ⟨⟨hvalid, hlength, trivial⟩, hsize, hbytes⟩
  · rintro ⟨⟨hvalid, hlength, -⟩, hsize, hbytes⟩
    exact ⟨value, ⟨hvalid, hlength, rfl⟩, hsize, hbytes⟩

theorem WindowsHelloProtector.canonical :
    Codec.Canonical WindowsHelloProtector.encode WindowsHelloProtector.decode where
  decode_encode {value bytes} h := by
    obtain ⟨hnew, hsize, rfl⟩ := encode_eq_ok.mp h
    have hread := decodeAll_eq (decodeProtectorFrom_reads (new_eq_ok.mp hnew).2.1)
    simp [WindowsHelloProtector.decode, hread, hnew, h, hsize]
  encode_decode {value bytes} h := by
    simp only [WindowsHelloProtector.decode, Except.throw_eq, Except.error_bind,
      Except.ite_error_eq_ok, Except.bind_eq_ok, Except.pure_eq, Except.ok.injEq, not_not] at h
    obtain ⟨-, _, -, _, -, bytes', hbytes, rfl, rfl⟩ := h
    exact hbytes

/-! ## All formats -/

/-- Each codec of `vault-format` is a bijection between the values that it encodes and the byte
strings that it accepts. -/
theorem vault_codecs_canonical :
    Codec.Canonical VaultHeader.encode VaultHeader.decode ∧
    Codec.Canonical Manifest.encode Manifest.decode ∧
    Codec.Canonical ManifestEnvelope.encode ManifestEnvelope.decode ∧
    Codec.Canonical RecordEnvelope.encode RecordEnvelope.decode ∧
    Codec.Canonical WebsiteAccountPlaintext.encode WebsiteAccountPlaintext.decode ∧
    Codec.Canonical PasskeyPlaintext.encode PasskeyPlaintext.decode ∧
    Codec.Canonical WindowsHelloProtector.encode WindowsHelloProtector.decode := by
  refine ⟨⟨VaultHeader.decode_encode, VaultHeader.encode_of_decode⟩,
    ⟨Manifest.decode_encode, Manifest.encode_of_decode⟩,
    ⟨ManifestEnvelope.decode_encode, ManifestEnvelope.encode_of_decode⟩,
    ⟨RecordEnvelope.decode_encode, RecordEnvelope.encode_of_decode⟩, ⟨?_, ?_⟩, ⟨?_, ?_⟩,
    WindowsHelloProtector.canonical⟩
  · intro value bytes h
    rw [WebsiteAccountPlaintext.encode_eq, Except.ok.injEq] at h
    exact h ▸ value.decode_encode
  · exact WebsiteAccountPlaintext.encode_of_decode
  · intro value bytes h
    rw [PasskeyPlaintext.encode_eq, Except.ok.injEq] at h
    exact h ▸ value.decode_encode
  · exact PasskeyPlaintext.encode_of_decode

end Librarian.Format
