import Librarian.Format.Wire
import Librarian.Lib.Fallible

/-!
# The clear vault header

`VaultHeader`, its canonical encoding, and the associated data that binds the two key wrappers and
the manifest to it. Decoding re-encodes what it read and compares, so an accepted header has exactly
one encoding; the round trip shows that the header's own encoding is that one.
-/

namespace Librarian.Format

open Cursor (Reads)

/-! ## Version numbers -/

def containerVersion : UInt32 := 1
def minimumReaderVersion : UInt32 := 1
def keySchedule : UInt32 := 1
def aeadSuite : UInt32 := 1
def encoding : UInt32 := 1
def digestSuite : UInt32 := 1
def kdfSuite : UInt32 := 1
def argon2Version : UInt32 := 0x13
def argon2MemoryKib : UInt32 := 65536
def argon2TimeCost : UInt32 := 3
def argon2Parallelism : UInt32 := 4
def recoveryWrapperVersion : UInt32 := 1
def manifestEnvelopeVersion : UInt32 := 1
def masterWrapperType : UInt32 := 1
def recoveryWrapperType : UInt32 := 2

/-- `VAULT_MAGIC`. -/
def vaultMagic : String := "LBR-VLT"

/-! ## Structures -/

/-- The password-derived wrapper stored in the clear vault header. -/
structure MasterWrapper where
  password_salt : Bytes 16
  nonce : Bytes 24
  wrapped_vrk : Bytes 48
  deriving DecidableEq

/-- The recovery-key wrapper stored in the clear vault header. -/
structure RecoveryWrapper where
  nonce : Bytes 24
  wrapped_vrk : Bytes 48
  deriving DecidableEq

/-- The complete clear singleton header. -/
structure VaultHeader where
  vault_id : Bytes 16
  key_epoch : UInt32
  master_wrapper : MasterWrapper
  recovery_wrapper : RecoveryWrapper
  deriving DecidableEq

/-! ## Encoding and decoding -/

/-- The suite identifiers that open the header and the associated data of both key wrappers. -/
def encodeSuite : List UInt8 :=
  Cbor.text vaultMagic ++ (encodeU32 containerVersion ++ (encodeU32 minimumReaderVersion ++
    (encodeU32 keySchedule ++ (encodeU32 aeadSuite ++ (encodeU32 encoding ++
      encodeU32 digestSuite)))))

/-- The `master_wrapper` part of `encode_header_into`. -/
def encodeMasterWrapper (wrapper : MasterWrapper) : List UInt8 :=
  Cbor.array 8 ++ (encodeU32 kdfSuite ++ (encodeU32 argon2Version ++
    (encodeU32 argon2MemoryKib ++ (encodeU32 argon2TimeCost ++ (encodeU32 argon2Parallelism ++
      (Cbor.bytes wrapper.password_salt.val ++ (Cbor.bytes wrapper.nonce.val ++
        Cbor.bytes wrapper.wrapped_vrk.val)))))))

/-- The `recovery_wrapper` part of `encode_header_into`. -/
def encodeRecoveryWrapper (wrapper : RecoveryWrapper) : List UInt8 :=
  Cbor.array 3 ++ (encodeU32 recoveryWrapperVersion ++ (Cbor.bytes wrapper.nonce.val ++
    Cbor.bytes wrapper.wrapped_vrk.val))

/-- `encode_header_into`. -/
def encodeHeaderInto (header : VaultHeader) : List UInt8 :=
  Cbor.array 11 ++ (encodeSuite ++ (Cbor.bytes header.vault_id.val ++
    (encodeU32 header.key_epoch ++ (encodeMasterWrapper header.master_wrapper ++
      encodeRecoveryWrapper header.recovery_wrapper))))

/-- The reader of the suite identifiers in `decode_header_from`. -/
def decodeSuite : Decoder Unit := do
  let magic ← decodeStr
  if magic ≠ vaultMagic then throw .malformed
  expectU32 containerVersion
  expectU32 minimumReaderVersion
  expectU32 keySchedule
  expectU32 aeadSuite
  expectU32 encoding
  expectU32 digestSuite

/-- The reader of the `master_wrapper` part in `decode_header_from`. -/
def decodeMasterWrapper : Decoder MasterWrapper := do
  expectArray 8
  expectU32 kdfSuite
  expectU32 argon2Version
  expectU32 argon2MemoryKib
  expectU32 argon2TimeCost
  expectU32 argon2Parallelism
  let password_salt ← decodeFixedBytes 16
  let nonce ← decodeFixedBytes 24
  let wrapped_vrk ← decodeFixedBytes 48
  return ⟨password_salt, nonce, wrapped_vrk⟩

/-- The reader of the `recovery_wrapper` part in `decode_header_from`. -/
def decodeRecoveryWrapper : Decoder RecoveryWrapper := do
  expectArray 3
  expectU32 recoveryWrapperVersion
  let nonce ← decodeFixedBytes 24
  let wrapped_vrk ← decodeFixedBytes 48
  return ⟨nonce, wrapped_vrk⟩

/-- `decode_header_from`. -/
def decodeHeaderFrom : Decoder VaultHeader := do
  expectArray 11
  decodeSuite
  let vault_id ← decodeFixedBytes 16
  let key_epoch ← decodeU32
  if key_epoch = 0 then throw .malformed
  let master_wrapper ← decodeMasterWrapper
  let recovery_wrapper ← decodeRecoveryWrapper
  return ⟨vault_id, key_epoch, master_wrapper, recovery_wrapper⟩

/-- `VaultHeader::encode`. -/
def VaultHeader.encode (header : VaultHeader) : Except FormatError (List UInt8) := do
  if header.key_epoch = 0 then throw .invariantViolation
  let bytes := encodeHeaderInto header
  if bytes.length > maxHeaderBytes then throw .tooLarge
  return bytes

/-- `VaultHeader::decode`. -/
def VaultHeader.decode (bytes : List UInt8) : Except FormatError VaultHeader := do
  if bytes.length > maxHeaderBytes then throw .tooLarge
  let header ← decodeAll decodeHeaderFrom bytes
  if (← header.encode) ≠ bytes then throw .nonCanonical
  return header

/-! ## Associated data -/

/-- `encode_master_wrapper_aad`. -/
def encodeMasterWrapperAad (vault_id : Bytes 16) (key_epoch : UInt32) (salt : Bytes 16) :
    List UInt8 :=
  Cbor.array 17 ++ encodeSuite ++ Cbor.bytes vault_id.val ++ encodeU32 key_epoch ++
    encodeU32 masterWrapperType ++ encodeU32 1 ++ encodeU32 kdfSuite ++ encodeU32 argon2Version ++
    encodeU32 argon2MemoryKib ++ encodeU32 argon2TimeCost ++ encodeU32 argon2Parallelism ++
    Cbor.bytes salt.val

/-- `encode_recovery_wrapper_aad`. -/
def encodeRecoveryWrapperAad (vault_id : Bytes 16) (key_epoch : UInt32) : List UInt8 :=
  Cbor.array 11 ++ encodeSuite ++ Cbor.bytes vault_id.val ++ encodeU32 key_epoch ++
    encodeU32 recoveryWrapperType ++ encodeU32 recoveryWrapperVersion

/-- `encode_manifest_aad`. -/
def encodeManifestAad (header : VaultHeader) (nonce : Bytes 24) : List UInt8 :=
  Cbor.array 3 ++ encodeHeaderInto header ++ encodeU32 manifestEnvelopeVersion ++
    Cbor.bytes nonce.val

/-! ## Round trip -/

theorem decodeSuite_reads : Reads decodeSuite encodeSuite () := by
  refine (decodeStr_reads (by decide)).bind ?_
  rw [if_neg (by simp)]
  refine (expectU32_reads _).bind ?_
  refine (expectU32_reads _).bind ?_
  refine (expectU32_reads _).bind ?_
  refine (expectU32_reads _).bind ?_
  refine (expectU32_reads _).bind ?_
  exact expectU32_reads _

theorem decodeMasterWrapper_reads (wrapper : MasterWrapper) :
    Reads decodeMasterWrapper (encodeMasterWrapper wrapper) wrapper := by
  refine (expectArray_reads (by norm_num)).bind ?_
  refine (expectU32_reads _).bind ?_
  refine (expectU32_reads _).bind ?_
  refine (expectU32_reads _).bind ?_
  refine (expectU32_reads _).bind ?_
  refine (expectU32_reads _).bind ?_
  refine (decodeFixedBytes_reads (by norm_num) _).bind ?_
  refine (decodeFixedBytes_reads (by norm_num) _).bind ?_
  exact (decodeFixedBytes_reads (by norm_num) _).bind_last (Reads.pure wrapper)

theorem decodeRecoveryWrapper_reads (wrapper : RecoveryWrapper) :
    Reads decodeRecoveryWrapper (encodeRecoveryWrapper wrapper) wrapper := by
  refine (expectArray_reads (by norm_num)).bind ?_
  refine (expectU32_reads _).bind ?_
  refine (decodeFixedBytes_reads (by norm_num) _).bind ?_
  exact (decodeFixedBytes_reads (by norm_num) _).bind_last (Reads.pure wrapper)

theorem decodeHeaderFrom_reads {header : VaultHeader} (hepoch : header.key_epoch ≠ 0) :
    Reads decodeHeaderFrom (encodeHeaderInto header) header := by
  refine (expectArray_reads (by norm_num)).bind ?_
  refine decodeSuite_reads.bind ?_
  refine (decodeFixedBytes_reads (by norm_num) _).bind ?_
  refine (decodeU32_reads _).bind ?_
  rw [if_neg hepoch]
  refine (decodeMasterWrapper_reads _).bind ?_
  exact (decodeRecoveryWrapper_reads _).bind_last (Reads.pure header)

/-- What a successful `VaultHeader::encode` says about the header and its bytes. -/
theorem VaultHeader.encode_eq_ok {header : VaultHeader} {bytes : List UInt8} :
    header.encode = .ok bytes ↔ header.key_epoch ≠ 0 ∧
      (encodeHeaderInto header).length ≤ maxHeaderBytes ∧ encodeHeaderInto header = bytes := by
  simp [VaultHeader.encode]

/-- An encoded header is decoded. -/
theorem VaultHeader.decode_encode {header : VaultHeader} {bytes : List UInt8}
    (h : header.encode = .ok bytes) : VaultHeader.decode bytes = .ok header := by
  obtain ⟨hepoch, hsize, rfl⟩ := encode_eq_ok.mp h
  have hread := decodeAll_eq (decodeHeaderFrom_reads hepoch)
  simp [VaultHeader.decode, hread, h, hsize]

/-- A decoded header re-encodes to the bytes that it was decoded from. -/
theorem VaultHeader.encode_of_decode {header : VaultHeader} {bytes : List UInt8}
    (h : VaultHeader.decode bytes = .ok header) : header.encode = .ok bytes := by
  simp only [VaultHeader.decode, Except.throw_eq, Except.error_bind, Except.ite_error_eq_ok, Except.bind_eq_ok,
    Except.pure_eq, Except.ok.injEq, not_not] at h
  obtain ⟨-, _, -, bytes', hbytes, rfl, rfl⟩ := h
  exact hbytes

end Librarian.Format
