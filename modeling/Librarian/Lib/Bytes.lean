import Mathlib.Data.List.Induction
import Mathlib.Data.List.Lex
import Mathlib.Data.Nat.Log
import Mathlib.Tactic.Linarith
import Mathlib.Tactic.Ring

/-!
# Byte strings

Byte lists, byte arrays of a fixed length, their lexicographic order, and the two encodings that
wire formats build on: big-endian numbers and UTF-8 text.
-/

/-- Bytes are ordered as numbers. -/
instance Bytes.instLinearOrderUInt8 : LinearOrder UInt8 where
  le_refl := UInt8.le_refl
  le_trans := fun _ _ _ => UInt8.le_trans
  le_antisymm := fun _ _ => UInt8.le_antisymm
  le_total := UInt8.le_total
  lt_iff_le_not_ge := by
    intro a b
    rw [UInt8.lt_iff_toNat_lt, UInt8.le_iff_toNat_le, UInt8.le_iff_toNat_le]
    omega
  toDecidableLE := inferInstance

/-- A byte array `[u8; n]`: a byte list of length `n`, ordered lexicographically. -/
abbrev Bytes (n : ℕ) : Type := { bytes : List UInt8 // bytes.length = n }

namespace Bytes

/-- The array of `n` copies of one byte, `[b; n]`. -/
def replicate (n : ℕ) (b : UInt8) : Bytes n := ⟨List.replicate n b, List.length_replicate⟩

/-- `try_into`: a byte list is an array of length `n` when it has that length. -/
def ofList? (n : ℕ) (bytes : List UInt8) : Option (Bytes n) :=
  if h : bytes.length = n then some ⟨bytes, h⟩ else none

@[simp]
theorem ofList?_val {n : ℕ} (b : Bytes n) : ofList? n b.val = some b := by
  simp [ofList?, b.property]

instance decidableMem {n : ℕ} (b : Bytes n) (bs : List (Bytes n)) : Decidable (b ∈ bs) :=
  decidable_of_iff (∃ b' ∈ bs, b' = b) (by simp)

/-- Whether every byte is zero. -/
def isZero {n : ℕ} (b : Bytes n) : Bool := b.val.all (· == 0)

end Bytes

namespace BigEndian

/-- The number `n` as `w` bytes, the most significant byte first. -/
def encode : ℕ → ℕ → List UInt8
  | 0, _ => []
  | w + 1, n => UInt8.ofNat (n / 256 ^ w) :: encode w n

/-- The number that a byte list reads as, the most significant byte first. -/
def decode (bytes : List UInt8) : ℕ := bytes.foldl (fun acc b => acc * 256 + b.toNat) 0

@[simp]
theorem encode_length (w n : ℕ) : (encode w n).length = w := by
  induction w with
  | zero => rfl
  | succ w ih => simp [encode, ih]

/-- Reading from an accumulator shifts it past the bytes that are read. -/
theorem foldl_encode (w n acc : ℕ) :
    (encode w n).foldl (fun acc b => acc * 256 + b.toNat) acc = acc * 256 ^ w + n % 256 ^ w := by
  induction w generalizing acc with
  | zero => simp [encode, Nat.mod_one]
  | succ w ih =>
    simp only [encode, List.foldl_cons, ih, UInt8.toNat_ofNat']
    have hsplit : n % 256 ^ (w + 1) = n / 256 ^ w % 256 * 256 ^ w + n % 256 ^ w := by
      rw [Nat.pow_succ, Nat.mod_mul]
      ring
    rw [hsplit]
    ring

/-- A number that fits in `w` bytes is read back. -/
theorem decode_encode {w n : ℕ} (h : n < 256 ^ w) : decode (encode w n) = n := by
  rw [decode, foldl_encode, Nat.mod_eq_of_lt h]
  simp

/-- Numbers that fit in `w` bytes are told apart by them. -/
theorem encode_inj {w n m : ℕ} (hn : n < 256 ^ w) (hm : m < 256 ^ w)
    (h : encode w n = encode w m) : n = m :=
  calc n = decode (encode w n) := (decode_encode hn).symm
    _ = decode (encode w m) := by rw [h]
    _ = m := decode_encode hm

/-- The number that a byte list reads as fits in its bytes. -/
theorem decode_lt (bytes : List UInt8) : decode bytes < 256 ^ bytes.length := by
  induction bytes using List.reverseRecOn with
  | nil => simp [decode]
  | append_singleton bytes b ih =>
    have hb := b.toNat_lt
    have hdecode : decode (bytes ++ [b]) = decode bytes * 256 + b.toNat := by simp [decode]
    rw [hdecode, List.length_append, List.length_singleton, Nat.pow_succ]
    omega

/-- The leading bytes of a number are those of its quotient. -/
theorem encode_succ (w n : ℕ) :
    encode (w + 1) n = encode w (n / 256) ++ [UInt8.ofNat n] := by
  induction w with
  | zero => simp [encode]
  | succ w ih =>
    rw [encode, ih, encode, List.cons_append, Nat.pow_succ, Nat.mul_comm, Nat.div_div_eq_div_mul]

/-- A byte list is the number that it reads as, in as many bytes. -/
theorem encode_decode (bytes : List UInt8) : encode bytes.length (decode bytes) = bytes := by
  induction bytes using List.reverseRecOn with
  | nil => rfl
  | append_singleton bytes b ih =>
    have hdecode : decode (bytes ++ [b]) = decode bytes * 256 + b.toNat := by simp [decode]
    have hb := b.toNat_lt
    have hquotient : (decode bytes * 256 + b.toNat) / 256 = decode bytes := by omega
    have hlast : UInt8.ofNat (decode bytes * 256 + b.toNat) = b := by
      apply UInt8.toNat_inj.mp
      rw [UInt8.toNat_ofNat']
      omega
    rw [List.length_append, List.length_singleton, encode_succ, hdecode, hquotient, hlast, ih]

end BigEndian

namespace Utf8

/-- The UTF-8 bytes of a text. -/
def encode (text : String) : List UInt8 := text.toByteArray.data.toList

/-- The text that a byte list encodes, when it is valid UTF-8. -/
def decode (bytes : List UInt8) : Option String := String.fromUTF8? ⟨bytes.toArray⟩

/-- Encoded text is read back. -/
@[simp]
theorem decode_encode (text : String) : decode (encode text) = some text := by
  have hbytes : (⟨(encode text).toArray⟩ : ByteArray) = text.toByteArray := by
    simp [encode]
  rw [decode, hbytes, String.fromUTF8?, dif_pos text.isValidUTF8]
  rfl

/-- A text's length in bytes is that of its encoding. -/
@[simp]
theorem encode_length (text : String) : (encode text).length = text.utf8ByteSize := by
  simp [encode]

end Utf8
