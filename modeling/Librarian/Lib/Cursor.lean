import Librarian.Lib.Cbor
import Librarian.Lib.Fallible

/-!
# Fallible cursors

The decoder of a message is a cursor over its bytes that fails with an error of the format. Formats
differ in their errors only, so the readers here take the errors as arguments.

`Reads decoder bytes value` is the shape of every round trip: in front of any further input, the
decoder consumes exactly `bytes` and returns `value`. A message's decoder is a sequence of readers,
and the rules `Reads.bind` and `Reads.bind_last` follow that sequence.
-/

/-- A cursor over the bytes that are still to be read, which fails with an `ε`. -/
abbrev Cursor (ε α : Type) : Type := StateT (List UInt8) (Except ε) α

namespace Cursor

variable {ε α β : Type}

/-- `map_err(|_| error)` on a read of the CBOR decoder. -/
def ofReader (error : ε) (reader : Cbor.Reader α) : Cursor ε α := fun input =>
  match reader input with
  | some result => .ok result
  | none => .error error

/-- The length of an array, which has to be definite. -/
def arrayLen (error : ε) : Cursor ε ℕ := do
  match ← ofReader error Cbor.readArray with
  | some length => pure length
  | none => throw error

/-- The head of an array of a given length. -/
def expectArray (error : ε) (expected : ℕ) : Cursor ε Unit := do
  let actual ← arrayLen error
  if actual ≠ expected then throw error

/-- A byte string of a given length. -/
def fixedBytes (error : ε) (n : ℕ) : Cursor ε (Bytes n) := do
  match Bytes.ofList? n (← ofReader error Cbor.readBytes) with
  | some value => pure value
  | none => throw error

/-- A byte string of a bounded length. -/
def boundedBytes (error tooLarge : ε) (maximum : ℕ) : Cursor ε (List UInt8) := do
  let value ← ofReader error Cbor.readBytes
  if value.length > maximum then throw tooLarge
  return value

/-- A text of a bounded length in bytes. -/
def boundedText (error tooLarge : ε) (maximum : ℕ) : Cursor ε String := do
  let value ← ofReader error Cbor.readText
  if value.utf8ByteSize > maximum then throw tooLarge
  return value

/-- A value, as many times as the head of an array says. -/
def many (read : Cursor ε α) : ℕ → Cursor ε (List α)
  | 0 => pure []
  | count + 1 => do
    let value ← read
    let values ← many read count
    return value :: values

/-- Runs a decoder over all of `bytes`; bytes that it leaves unread are an error. -/
def all (error : ε) (decoder : Cursor ε α) (bytes : List UInt8) : Except ε α := do
  let (value, rest) ← decoder bytes
  if rest ≠ [] then throw error
  return value

/-! ## Round trips -/

/-- The decoder reads `value` off `bytes`, whatever follows them. -/
def Reads (decoder : Cursor ε α) (bytes : List UInt8) (value : α) : Prop :=
  ∀ rest, decoder (bytes ++ rest) = .ok (value, rest)

namespace Reads

/-- Returning a value reads nothing. -/
theorem pure (a : α) : Reads (Pure.pure a : Cursor ε α) [] a := fun _ => rfl

/-- Two reads in sequence. -/
theorem bind {x : Cursor ε α} {f : α → Cursor ε β} {bytes bytes' : List UInt8} {a : α} {b : β}
    (hx : Reads x bytes a) (hf : Reads (f a) bytes' b) : Reads (x >>= f) (bytes ++ bytes') b := by
  intro rest
  change Except.bind (x _) _ = _
  rw [List.append_assoc, hx]
  exact hf rest

/-- A read followed by a function of its value. -/
theorem map {x : Cursor ε α} {bytes : List UInt8} {a : α} (f : α → β) (hx : Reads x bytes a) :
    Reads (f <$> x) bytes (f a) := by
  intro rest
  change Except.map _ (x _) = _
  rw [hx]
  rfl

/-- The last read of a sequence, which only returns. -/
theorem bind_last {x : Cursor ε α} {f : α → Cursor ε β} {bytes : List UInt8} {a : α} {b : β}
    (hx : Reads x bytes a) (hf : Reads (f a) [] b) : Reads (x >>= f) bytes b := by
  simpa using hx.bind hf

/-- A step of a sequence that reads nothing. -/
theorem bind_first {x : Cursor ε α} {f : α → Cursor ε β} {bytes : List UInt8} {a : α} {b : β}
    (hx : Reads x [] a) (hf : Reads (f a) bytes b) : Reads (x >>= f) bytes b :=
  hx.bind hf

/-- A check that reads nothing, and succeeds. -/
theorem lift {x : Except ε α} {a : α} (h : x = .ok a) :
    Reads (liftM x : Cursor ε α) [] a := by
  subst h
  intro rest
  rfl

/-- A read of the CBOR decoder that succeeds. -/
theorem ofReader {error : ε} {reader : Cbor.Reader α} {bytes : List UInt8} {a : α}
    (h : ∀ rest, reader (bytes ++ rest) = some (a, rest)) :
    Reads (ofReader error reader) bytes a := by
  intro rest
  simp only [Cursor.ofReader, h rest]

/-- Values that have been written one after another. -/
theorem many {read : Cursor ε α} {encode : β → List UInt8} {value : β → α} {values : List β}
    (h : ∀ b ∈ values, Reads read (encode b) (value b)) :
    Reads (many read values.length) (values.flatMap encode) (values.map value) := by
  induction values with
  | nil => exact Reads.pure []
  | cons b values ih =>
    refine (h b List.mem_cons_self).bind ?_
    refine (ih fun b hmem => h b (List.mem_cons_of_mem _ hmem)).bind_last ?_
    exact Reads.pure _

/-- Encodings that one decoder reads, each followed by anything, are equal only as wholes: where the
first encoding ends, and what it encodes, is decided by its own bytes. -/
theorem unambiguous {x : Cursor ε α} {bytes bytes' rest rest' : List UInt8} {a a' : α}
    (hx : Reads x bytes a) (hx' : Reads x bytes' a') (h : bytes ++ rest = bytes' ++ rest') :
    a = a' ∧ rest = rest' := by
  have hread : (Except.ok (a, rest) : Except ε (α × List UInt8)) = .ok (a', rest') := by
    rw [← hx rest, ← hx' rest', h]
  exact Prod.mk.inj (Except.ok.inj hread)

/-- What one decoder reads back is a field that can be told from the bytes after it. -/
theorem append_inj {x : Cursor ε α} (encode : α → List UInt8) {rest rest' : List UInt8} {a a' : α}
    (ha : Reads x (encode a) a) (ha' : Reads x (encode a') a') :
    encode a ++ rest = encode a' ++ rest' ↔ a = a' ∧ rest = rest' := by
  constructor
  · exact ha.unambiguous ha'
  · rintro ⟨rfl, rfl⟩
    rfl

/-- A decoder that reads a value off exactly `bytes` decodes all of them. -/
theorem all_eq {error : ε} {x : Cursor ε α} {bytes : List UInt8} {a : α} (hx : Reads x bytes a) :
    all error x bytes = .ok a := by
  have h := hx []
  rw [List.append_nil] at h
  rw [all, h]
  rfl

end Reads

/-! ## What a decoder may return -/

/-- Every value that the decoder returns satisfies `P`. -/
def Yields (decoder : Cursor ε α) (P : α → Prop) : Prop :=
  ∀ input a rest, decoder input = .ok (a, rest) → P a

namespace Yields

variable {P : α → Prop} {Q : β → Prop}

theorem pure {a : α} (h : P a) : Yields (Pure.pure a : Cursor ε α) P := by
  intro input a' rest heq
  cases heq
  exact h

theorem throw (error : ε) : Yields (MonadExcept.throw error : Cursor ε α) P := by
  intro input a rest heq
  cases heq

/-- The end of a sequence decides what it returns. -/
theorem bind {x : Cursor ε α} {f : α → Cursor ε β} (h : ∀ a, Yields (f a) Q) :
    Yields (x >>= f) Q := by
  intro input b rest heq
  obtain ⟨⟨a, rest'⟩, -, hf⟩ := Except.bind_eq_ok.mp heq
  exact h a rest' b rest hf

theorem ite {c : Prop} [Decidable c] {x y : Cursor ε α} (hx : Yields x P) (hy : Yields y P) :
    Yields (if c then x else y) P := by
  by_cases hc : c
  · rwa [if_pos hc]
  · rwa [if_neg hc]

/-- A check of what has been read. -/
theorem lift {x : Except ε α} (h : ∀ a, x = .ok a → P a) :
    Yields (liftM x : Cursor ε α) P := by
  intro input a rest hread
  cases hx : x with
  | error e =>
    rw [hx] at hread
    cases hread
  | ok a' =>
    rw [hx] at hread
    cases hread
    exact h a hx

/-- A check whose result goes on. -/
theorem lift_bind {x : Except ε α} {f : α → Cursor ε β} (h : ∀ a, x = .ok a → Yields (f a) Q) :
    Yields (liftM x >>= f) Q := by
  intro input b rest hread
  cases hx : x with
  | error e =>
    rw [hx] at hread
    cases hread
  | ok a =>
    rw [hx] at hread
    exact h a hx input b rest hread

end Yields

/-- What all of the bytes are decoded to. -/
theorem Yields.all {error : ε} {x : Cursor ε α} {P : α → Prop} (h : Yields x P)
    {bytes : List UInt8} {a : α} (hall : Cursor.all error x bytes = .ok a) : P a := by
  obtain ⟨⟨value, rest⟩, hread, hvalue⟩ := Except.bind_eq_ok.mp hall
  obtain ⟨-, hvalue⟩ := Except.ite_error_eq_ok.mp hvalue
  obtain rfl := Except.ok.inj hvalue
  exact h bytes _ rest hread

variable {error tooLarge : ε}

theorem arrayLen_reads {n : ℕ} (hn : n < 2 ^ 64) : Reads (arrayLen error) (Cbor.array n) n :=
  (Reads.ofReader (Cbor.readArray_array hn)).bind_last (Reads.pure n)

theorem expectArray_reads {n : ℕ} (hn : n < 2 ^ 64) :
    Reads (expectArray error n) (Cbor.array n) () := by
  refine (arrayLen_reads hn).bind_last ?_
  simpa using Reads.pure ()

theorem unsigned_reads {n limit : ℕ} (hn : n < limit) (hlimit : limit ≤ 2 ^ 64) :
    Reads (ofReader error (Cbor.readUnsigned limit)) (Cbor.unsigned n) n :=
  Reads.ofReader (Cbor.readUnsigned_unsigned hn hlimit)

theorem fixedBytes_reads {n : ℕ} (hn : n < 2 ^ 64) (value : Bytes n) :
    Reads (fixedBytes error n) (Cbor.bytes value.val) value := by
  have hlength : value.val.length < 2 ^ 64 := by rwa [value.property]
  refine (Reads.ofReader (Cbor.readBytes_bytes hlength)).bind_last ?_
  rw [Bytes.ofList?_val]
  exact Reads.pure value

theorem boundedBytes_reads {maximum : ℕ} {value : List UInt8} (hmax : maximum < 2 ^ 64)
    (hv : value.length ≤ maximum) :
    Reads (boundedBytes error tooLarge maximum) (Cbor.bytes value) value := by
  refine (Reads.ofReader (Cbor.readBytes_bytes (hv.trans_lt hmax))).bind_last ?_
  rw [if_neg (not_lt.mpr hv)]
  exact Reads.pure value

theorem boundedText_reads {maximum : ℕ} {value : String} (hmax : maximum < 2 ^ 64)
    (hv : value.utf8ByteSize ≤ maximum) :
    Reads (boundedText error tooLarge maximum) (Cbor.text value) value := by
  refine (Reads.ofReader (Cbor.readText_text (hv.trans_lt hmax))).bind_last ?_
  rw [if_neg (not_lt.mpr hv)]
  exact Reads.pure value

end Cursor
