import Librarian.Lib.Cursor

/-!
# The wire layer of `vault-format`

The format's errors, its size limits, and the bounded readers that every structure is decoded
with. The CBOR decoder reports one kind of failure, which the readers here map to `Malformed`; what
a structure adds on top (a wrong version, a length over its limit) has an error of its own.
-/

namespace Librarian.Format

open Cursor hiding expectArray expectArray_reads

/-- A non-secret failure while parsing or encoding the wire format. -/
inductive FormatError
  | tooLarge
  | malformed
  | unsupported
  | nonCanonical
  | invariantViolation
  deriving DecidableEq, Repr

/-! ## Limits -/

/-- `MAX_HEADER_BYTES`. -/
def maxHeaderBytes : ℕ := 64 * 1024

/-- `MAX_MANIFEST_ENVELOPE_BYTES`. -/
def maxManifestEnvelopeBytes : ℕ := 8 * 1024 * 1024

/-- `MAX_RECORDS`. -/
def maxRecords : ℕ := 100000

/-- `MAX_RECORD_ENVELOPE_BYTES`. -/
def maxRecordEnvelopeBytes : ℕ := 1024 * 1024

/-- `TAG_BYTES`: the authentication tag that every ciphertext ends in. -/
def tagBytes : ℕ := 16

/-! ## Encoding

The encoder appends to a byte vector, so a sequence of its calls is a concatenation. -/

/-- `encode_u32`. -/
def encodeU32 (value : UInt32) : List UInt8 := Cbor.unsigned value.toNat

/-- `encode_u64`. -/
def encodeU64 (value : UInt64) : List UInt8 := Cbor.unsigned value.toNat

/-! ## Decoding -/

/-- A cursor over a structure's bytes that fails with a format error. -/
abbrev Decoder (α : Type) : Type := Cursor FormatError α

/-- `map_err(|_| FormatError::Malformed)` on a read of the CBOR decoder. -/
def orMalformed {α : Type} (reader : Cbor.Reader α) : Decoder α := Cursor.ofReader .malformed reader

/-- `decode_array_len`. A length of 64 bits is a `usize` on every target that the agent runs on. -/
def decodeArrayLen : Decoder ℕ := Cursor.arrayLen .malformed

/-- `expect_array`. -/
def expectArray (expected : ℕ) : Decoder Unit := Cursor.expectArray .malformed expected

/-- `decode_u32`. -/
def decodeU32 : Decoder UInt32 :=
  UInt32.ofNat <$> orMalformed (Cbor.readUnsigned (2 ^ 32))

/-- `decode_u64`. -/
def decodeU64 : Decoder UInt64 :=
  UInt64.ofNat <$> orMalformed (Cbor.readUnsigned (2 ^ 64))

/-- `expect_u32`. -/
def expectU32 (expected : UInt32) : Decoder Unit := do
  let actual ← decodeU32
  if actual ≠ expected then throw .unsupported

/-- `decode_str`. -/
def decodeStr : Decoder String := orMalformed Cbor.readText

/-- `decode_fixed_bytes`. -/
def decodeFixedBytes (n : ℕ) : Decoder (Bytes n) := Cursor.fixedBytes .malformed n

/-- `decode_bounded_bytes`. -/
def decodeBoundedBytes (maximum : ℕ) : Decoder (List UInt8) :=
  Cursor.boundedBytes .malformed .tooLarge maximum

/-- `decode_bounded_text`. -/
def decodeBoundedText (maximum : ℕ) : Decoder String :=
  Cursor.boundedText .malformed .tooLarge maximum

/-- Runs a decoder over all of `bytes`: `require_end` rejects what it leaves unread. -/
def decodeAll {α : Type} (decoder : Decoder α) (bytes : List UInt8) : Except FormatError α :=
  Cursor.all .malformed decoder bytes

/-! ## Round trips -/

/-- A decoder that reads a value off exactly `bytes` decodes all of them. -/
theorem decodeAll_eq {α : Type} {decoder : Decoder α} {bytes : List UInt8} {value : α}
    (h : Reads decoder bytes value) : decodeAll decoder bytes = .ok value :=
  h.all_eq

theorem decodeArrayLen_reads {n : ℕ} (hn : n < 2 ^ 64) :
    Reads decodeArrayLen (Cbor.array n) n :=
  arrayLen_reads hn

theorem expectArray_reads {n : ℕ} (hn : n < 2 ^ 64) : Reads (expectArray n) (Cbor.array n) () :=
  Cursor.expectArray_reads hn

theorem decodeU32_reads (value : UInt32) : Reads decodeU32 (encodeU32 value) value := by
  have h : Reads decodeU32 _ _ := (unsigned_reads value.toNat_lt (by norm_num)).map UInt32.ofNat
  rwa [UInt32.ofNat_toNat] at h

theorem decodeU64_reads (value : UInt64) : Reads decodeU64 (encodeU64 value) value := by
  have h : Reads decodeU64 _ _ := (unsigned_reads value.toNat_lt (by norm_num)).map UInt64.ofNat
  rwa [UInt64.ofNat_toNat] at h

theorem expectU32_reads (value : UInt32) : Reads (expectU32 value) (encodeU32 value) () := by
  refine (decodeU32_reads value).bind_last ?_
  simpa using Reads.pure ()

theorem decodeStr_reads {s : String} (hs : s.utf8ByteSize < 2 ^ 64) :
    Reads decodeStr (Cbor.text s) s :=
  Reads.ofReader (Cbor.readText_text hs)

theorem decodeFixedBytes_reads {n : ℕ} (hn : n < 2 ^ 64) (value : Bytes n) :
    Reads (decodeFixedBytes n) (Cbor.bytes value.val) value :=
  fixedBytes_reads hn value

theorem decodeBoundedBytes_reads {maximum : ℕ} {value : List UInt8} (hmax : maximum < 2 ^ 64)
    (hv : value.length ≤ maximum) :
    Reads (decodeBoundedBytes maximum) (Cbor.bytes value) value :=
  boundedBytes_reads hmax hv

theorem decodeBoundedText_reads {maximum : ℕ} {value : String} (hmax : maximum < 2 ^ 64)
    (hv : value.utf8ByteSize ≤ maximum) :
    Reads (decodeBoundedText maximum) (Cbor.text value) value :=
  boundedText_reads hmax hv

end Librarian.Format
