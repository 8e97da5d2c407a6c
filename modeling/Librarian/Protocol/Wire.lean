import Librarian.Lib.Codec
import Librarian.Lib.Cursor
import Librarian.Protocol.Types

/-!
# The wire layer of the agent protocol

The helpers of `cbor.rs`: writers into a `SecretWriter` of fixed capacity, whose overflow is a panic,
and bounded readers with the protocol's errors.
-/

namespace Librarian.Protocol

open Cursor hiding expectArray expectArray_reads

/-! ## Writing -/

/-- How an encoder ends early: with an error that it returns, or with the panic of a helper's
`expect` on a full writer. -/
inductive EncodeFault
  | returned (error : ProtocolError)
  | panicked
  deriving DecidableEq, Repr

/-- `SecretWriter::write_all` behind a helper's `expect`. -/
def writeAll (capacity : ℕ) (written item : List UInt8) : Except EncodeFault (List UInt8) :=
  if written.length + item.length > capacity then .error .panicked
  else .ok (written ++ item)

/-- A sequence of helpers. -/
def writeItems (capacity : ℕ) (written : List UInt8) (items : List (List UInt8)) :
    Except EncodeFault (List UInt8) :=
  items.foldlM (writeAll capacity) written

/-- Items that fit are written. -/
theorem writeItems_eq_ok {capacity : ℕ} {written : List UInt8} {items : List (List UInt8)}
    (h : written.length + items.flatten.length ≤ capacity) :
    writeItems capacity written items = .ok (written ++ items.flatten) := by
  induction items generalizing written with
  | nil => simp [writeItems]
  | cons item items ih =>
    rw [List.flatten_cons, List.length_append] at h
    have hfits : ¬written.length + item.length > capacity := by omega
    have hrest := @ih (written ++ item) (by rw [List.length_append]; omega)
    rw [writeItems, List.foldlM_cons, writeAll, if_neg hfits, Except.ok_bind]
    rw [writeItems] at hrest
    rw [hrest, List.append_assoc, List.flatten_cons]

/-- What a sequence of helpers has written, when none of them panics. -/
theorem eq_of_writeItems {capacity : ℕ} {written bytes : List UInt8} {items : List (List UInt8)}
    (h : writeItems capacity written items = .ok bytes) : bytes = written ++ items.flatten := by
  induction items generalizing written with
  | nil =>
    obtain rfl : written = bytes := by simpa [writeItems] using h
    simp
  | cons item items ih =>
    rw [writeItems, List.foldlM_cons, writeAll, Except.bind_eq_ok] at h
    obtain ⟨written', hwritten, hrest⟩ := h
    obtain ⟨-, hwritten⟩ := Except.ite_error_eq_ok.mp hwritten
    cases hwritten
    rw [ih hrest, List.append_assoc, List.flatten_cons]

/-- An encoder into a growing vector, which does not fail. -/
def infallible {α : Type} (encode : α → List UInt8) (value : α) :
    Except ProtocolError (List UInt8) :=
  .ok (encode value)

/-- `encode_u8`. -/
def encodeU8 (value : UInt8) : List UInt8 := Cbor.unsigned value.toNat

/-- `encode_u16`. -/
def encodeU16 (value : UInt16) : List UInt8 := Cbor.unsigned value.toNat

/-- `encode_u32`. -/
def encodeU32 (value : UInt32) : List UInt8 := Cbor.unsigned value.toNat

/-- `encode_u64`. -/
def encodeU64 (value : UInt64) : List UInt8 := Cbor.unsigned value.toNat

/-! ## Reading -/

/-- A cursor over a message's bytes that fails with a protocol error. -/
abbrev Decoder (α : Type) : Type := Cursor ProtocolError α

/-- `expect_array`. -/
def expectArray (expected : ℕ) : Decoder Unit := Cursor.expectArray .malformed expected

/-- `decode_array_length`. A length of 64 bits is a `usize` on every target that the agent runs
on. -/
def decodeArrayLength (maximum : ℕ) : Decoder ℕ := do
  let length ← arrayLen .malformed
  if length > maximum then throw .tooLarge
  return length

/-- `decode_u8`. -/
def decodeU8 : Decoder UInt8 :=
  UInt8.ofNat <$> ofReader .malformed (Cbor.readUnsigned (2 ^ 8))

/-- `decode_u16`. -/
def decodeU16 : Decoder UInt16 :=
  UInt16.ofNat <$> ofReader .malformed (Cbor.readUnsigned (2 ^ 16))

/-- `decode_u32`. -/
def decodeU32 : Decoder UInt32 :=
  UInt32.ofNat <$> ofReader .malformed (Cbor.readUnsigned (2 ^ 32))

/-- `decode_u64`. -/
def decodeU64 : Decoder UInt64 :=
  UInt64.ofNat <$> ofReader .malformed (Cbor.readUnsigned (2 ^ 64))

/-- `decode_fixed_bytes`. -/
def decodeFixedBytes (n : ℕ) : Decoder (Bytes n) := fixedBytes .malformed n

/-- `decode_bounded_bytes`. -/
def decodeBoundedBytes (maximum : ℕ) : Decoder (List UInt8) :=
  boundedBytes .malformed .tooLarge maximum

/-- `decode_bounded_text`. -/
def decodeBoundedText (maximum : ℕ) : Decoder String := boundedText .malformed .tooLarge maximum

/-- `decode_optional_fixed_bytes`. The type of the next item is null when its first byte is that of
null. Where the type cannot be told, the bytes are not a byte string either, and both errors are
`Malformed`. -/
def decodeOptionalFixedBytes (n : ℕ) : Decoder (Option (Bytes n)) := fun input =>
  match input with
  | 0xf6 :: rest => .ok (none, rest)
  | _ => (some <$> decodeFixedBytes n) input

/-- `from_u64` on a code that was read, where an unknown code is an error. -/
def decodeCode {α : Type} (from_u64 : ℕ → Option α) (code : ℕ) : Decoder α :=
  liftM ((from_u64 code).okOr ProtocolError.unsupported)

/-- How a decoder begins and ends: the payload is bounded, it is read as a whole, and what was read
is validated. -/
def parseWithin {α β : Type} (maximum : ℕ) (decoder : Decoder α)
    (validate : α → Except ProtocolError β) (bytes : List UInt8) : Except ProtocolError β := do
  if bytes.length > maximum then throw .tooLarge
  validate (← Cursor.all .malformed decoder bytes)

/-! ## Round trips -/

theorem expectArray_reads {n : ℕ} (hn : n < 2 ^ 64) : Reads (expectArray n) (Cbor.array n) () :=
  Cursor.expectArray_reads hn

theorem decodeArrayLength_reads {n maximum : ℕ} (hn : n ≤ maximum) (hmax : maximum < 2 ^ 64) :
    Reads (decodeArrayLength maximum) (Cbor.array n) n := by
  refine (arrayLen_reads (hn.trans_lt hmax)).bind_last ?_
  rw [if_neg (not_lt.mpr hn)]
  exact Reads.pure n

theorem decodeU8_reads (value : UInt8) : Reads decodeU8 (encodeU8 value) value := by
  have h : Reads decodeU8 _ _ := (unsigned_reads value.toNat_lt (by norm_num)).map UInt8.ofNat
  rwa [UInt8.ofNat_toNat] at h

theorem decodeU16_reads (value : UInt16) : Reads decodeU16 (encodeU16 value) value := by
  have h : Reads decodeU16 _ _ := (unsigned_reads value.toNat_lt (by norm_num)).map UInt16.ofNat
  rwa [UInt16.ofNat_toNat] at h

theorem decodeU32_reads (value : UInt32) : Reads decodeU32 (encodeU32 value) value := by
  have h : Reads decodeU32 _ _ := (unsigned_reads value.toNat_lt (by norm_num)).map UInt32.ofNat
  rwa [UInt32.ofNat_toNat] at h

theorem decodeU64_reads (value : UInt64) : Reads decodeU64 (encodeU64 value) value := by
  have h : Reads decodeU64 _ _ := (unsigned_reads value.toNat_lt (by norm_num)).map UInt64.ofNat
  rwa [UInt64.ofNat_toNat] at h

theorem decodeFixedBytes_reads {n : ℕ} (hn : n < 2 ^ 64) (value : Bytes n) :
    Reads (decodeFixedBytes n) (Cbor.bytes value.val) value :=
  fixedBytes_reads hn value

theorem decodeBoundedBytes_reads {maximum : ℕ} {value : List UInt8} (hmax : maximum < 2 ^ 64)
    (hv : value.length ≤ maximum) :
    Reads (decodeBoundedBytes maximum) (Cbor.bytes value) value :=
  boundedBytes_reads hmax hv

theorem decodeBoundedText_reads {maximum : ℕ} {value : String} (hmax : maximum < 2 ^ 64)
    (hv : value.utf8ByteSize ≤ maximum) :
    Reads (decodeBoundedText maximum) (Cbor.text value) value :=
  boundedText_reads hmax hv

theorem decodeCode_reads {α : Type} {from_u64 : ℕ → Option α} {code : ℕ} {value : α}
    (h : from_u64 code = some value) : Reads (decodeCode from_u64 code) [] value :=
  Reads.lift (Option.okOr_eq_ok.mpr h)

/-- A message within its limit, read as a whole, whose fields are valid. -/
theorem parseWithin_eq_ok {α β : Type} {maximum : ℕ} {decoder : Decoder α}
    {validate : α → Except ProtocolError β} {bytes : List UInt8} {fields : α} {value : β}
    (hlength : bytes.length ≤ maximum) (hread : Reads decoder bytes fields)
    (hvalid : validate fields = .ok value) :
    parseWithin maximum decoder validate bytes = .ok value := by
  unfold parseWithin
  rw [if_neg (not_lt.mpr hlength), hread.all_eq]
  exact hvalid

end Librarian.Protocol
