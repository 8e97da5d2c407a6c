import Librarian.Lib.Bytes

/-!
# Deterministic CBOR

The fragment of CBOR that a format of nested arrays of unsigned integers, byte strings and text
needs. The encoder always writes the shortest head. The decoder is a cursor over the bytes that
remain; as usual for a CBOR library it also accepts heads that are longer than necessary, so a
format that wants one encoding per value has to compare with the encoder's output itself.

Each reader comes with its round trip: on the bytes of the matching writer, followed by anything,
it returns what was written and leaves the rest.
-/

namespace Cbor

/-- The head of a data item: the major type and the shortest encoding of its argument. -/
def head (major n : ℕ) : List UInt8 :=
  if n ≤ 0x17 then [UInt8.ofNat (major * 32 + n)]
  else if n ≤ 0xff then UInt8.ofNat (major * 32 + 24) :: BigEndian.encode 1 n
  else if n ≤ 0xffff then UInt8.ofNat (major * 32 + 25) :: BigEndian.encode 2 n
  else if n ≤ 0xffffffff then UInt8.ofNat (major * 32 + 26) :: BigEndian.encode 4 n
  else UInt8.ofNat (major * 32 + 27) :: BigEndian.encode 8 n

/-- An unsigned integer. -/
def unsigned (n : ℕ) : List UInt8 := head 0 n

/-- A byte string of definite length. -/
def bytes (b : List UInt8) : List UInt8 := head 2 b.length ++ b

/-- A text of definite length. -/
def text (s : String) : List UInt8 := head 3 s.utf8ByteSize ++ Utf8.encode s

/-- The head of an array of `n` items. -/
def array (n : ℕ) : List UInt8 := head 4 n

/-- The simple value null. -/
def null : List UInt8 := [0xf6]

/-- A head takes at most nine bytes. -/
theorem head_length_le (major n : ℕ) : (head major n).length ≤ 9 := by
  unfold head
  split_ifs <;> simp

/-- A head whose argument is at most `0xffff` takes at most three bytes. -/
theorem head_length_le_three {major n : ℕ} (h : n ≤ 0xffff) : (head major n).length ≤ 3 := by
  unfold head
  split_ifs <;> simp

/-- A head whose argument is at most `0xff` takes at most two bytes. -/
theorem head_length_le_two {major n : ℕ} (h : n ≤ 0xff) : (head major n).length ≤ 2 := by
  unfold head
  split_ifs <;> simp

/-- A head whose argument is at most `0xffffffff` takes at most five bytes. -/
theorem head_length_le_five {major n : ℕ} (h : n ≤ 0xffffffff) : (head major n).length ≤ 5 := by
  unfold head
  split_ifs <;> simp

/-- A head whose argument is at most `0x17` takes one byte. -/
theorem head_length_eq_one {major n : ℕ} (h : n ≤ 0x17) : (head major n).length = 1 := by
  rw [head, if_pos h]
  rfl

/-- A byte string takes its head and its bytes. -/
theorem bytes_length (b : List UInt8) : (bytes b).length = (head 2 b.length).length + b.length := by
  simp [bytes]

/-- A text takes its head and its bytes. -/
theorem text_length (s : String) :
    (text s).length = (head 3 s.utf8ByteSize).length + s.utf8ByteSize := by
  simp [text]

/-! ## Reading -/

/-- A cursor over the bytes that are still to be read. -/
abbrev Reader (α : Type) : Type := StateT (List UInt8) Option α

/-- The next `n` bytes. -/
def take (n : ℕ) : Reader (List UInt8) := fun input =>
  if n ≤ input.length then some (input.take n, input.drop n) else none

/-- The argument of a head, after the additional information `info` of its first byte. -/
def argument (info : ℕ) : Reader ℕ :=
  if info ≤ 0x17 then pure info
  else if info = 0x18 then BigEndian.decode <$> take 1
  else if info = 0x19 then BigEndian.decode <$> take 2
  else if info = 0x1a then BigEndian.decode <$> take 4
  else if info = 0x1b then BigEndian.decode <$> take 8
  else failure

/-- The next byte, split into a major type and additional information. -/
def initial : Reader (ℕ × ℕ) := fun input =>
  match input with
  | [] => none
  | b :: rest => some ((b.toNat / 32, b.toNat % 32), rest)

/-- A head of the given major type and definite length. -/
def readHead (major : ℕ) : Reader ℕ := do
  let (actual, info) ← initial
  if actual = major then argument info else failure

/-- An unsigned integer below `limit`. -/
def readUnsigned (limit : ℕ) : Reader ℕ := do
  let n ← readHead 0
  if n < limit then pure n else failure

/-- A byte string of definite length. -/
def readBytes : Reader (List UInt8) := do
  let n ← readHead 2
  take n

/-- A text of definite length. -/
def readText : Reader String := do
  let n ← readHead 3
  let b ← take n
  match Utf8.decode b with
  | some s => pure s
  | none => failure

/-- The head of an array: its length, or `none` when the array has indefinite length. -/
def readArray : Reader (Option ℕ) := do
  let (actual, info) ← initial
  if actual ≠ 4 then failure
  else if info = 31 then pure none
  else some <$> argument info

/-! ## Round trips -/

/-- Reading on from where a reader stopped. -/
theorem bind_eq {α β : Type} {x : Reader α} {f : α → Reader β} {input rest : List UInt8} {a : α}
    (h : x input = some (a, rest)) : (x >>= f) input = f a rest := by
  change (x input).bind _ = _
  rw [h]
  rfl

/-- Reading a value and applying a function to it. -/
theorem map_eq {α β : Type} {x : Reader α} {f : α → β} {input rest : List UInt8} {a : α}
    (h : x input = some (a, rest)) : (f <$> x) input = some (f a, rest) := by
  change (x input).bind _ = _
  rw [h]
  rfl

@[simp]
theorem take_append (b rest : List UInt8) : take b.length (b ++ rest) = some (b, rest) := by
  simp [take]

/-- Reading a big-endian argument of `w` bytes. -/
theorem decode_take_append {w n : ℕ} (h : n < 256 ^ w) (rest : List UInt8) :
    (BigEndian.decode <$> take w : Reader ℕ) (BigEndian.encode w n ++ rest) = some (n, rest) := by
  have htake := take_append (BigEndian.encode w n) rest
  rw [BigEndian.encode_length] at htake
  rw [map_eq htake, BigEndian.decode_encode h]

/-- The first byte of a head splits back into the major type and the additional information. -/
theorem initial_cons {major info : ℕ} (hmajor : major < 8) (hinfo : info < 32)
    (rest : List UInt8) :
    initial (UInt8.ofNat (major * 32 + info) :: rest) = some ((major, info), rest) := by
  have hbyte : (UInt8.ofNat (major * 32 + info)).toNat = major * 32 + info := by
    rw [UInt8.toNat_ofNat']
    omega
  simp only [initial, hbyte]
  congr 3 <;> omega

/-- Every head is one initial byte and the argument that it announces. -/
theorem head_eq (major : ℕ) {n : ℕ} (hn : n < 2 ^ 64) :
    ∃ info tail, info < 28 ∧ head major n = UInt8.ofNat (major * 32 + info) :: tail ∧
      ∀ rest, argument info (tail ++ rest) = some (n, rest) := by
  unfold head
  split_ifs with h1 h2 h3 h4
  · exact ⟨n, [], by omega, rfl, fun rest => by rw [argument, if_pos h1]; rfl⟩
  · exact ⟨24, _, by omega, rfl, fun rest => decode_take_append (by omega) rest⟩
  · exact ⟨25, _, by omega, rfl, fun rest => decode_take_append (by omega) rest⟩
  · exact ⟨26, _, by omega, rfl, fun rest => decode_take_append (by omega) rest⟩
  · exact ⟨27, _, by omega, rfl, fun rest => decode_take_append (by omega) rest⟩

/-- A head is read back. -/
theorem readHead_head {major n : ℕ} (hmajor : major < 8) (hn : n < 2 ^ 64) (rest : List UInt8) :
    readHead major (head major n ++ rest) = some (n, rest) := by
  obtain ⟨info, tail, hinfo, heq, harg⟩ := head_eq major hn
  rw [heq, List.cons_append, readHead, bind_eq (initial_cons hmajor (by omega) _)]
  simpa using harg rest

/-- An unsigned integer below the reader's limit is read back. -/
theorem readUnsigned_unsigned {n limit : ℕ} (hn : n < limit) (hlimit : limit ≤ 2 ^ 64)
    (rest : List UInt8) : readUnsigned limit (unsigned n ++ rest) = some (n, rest) := by
  rw [readUnsigned, unsigned, bind_eq (readHead_head (by omega) (by omega) _), if_pos hn]
  rfl

/-- A byte string is read back. -/
theorem readBytes_bytes {b : List UInt8} (hb : b.length < 2 ^ 64) (rest : List UInt8) :
    readBytes (bytes b ++ rest) = some (b, rest) := by
  rw [readBytes, bytes, List.append_assoc, bind_eq (readHead_head (by omega) hb _)]
  exact take_append b rest

/-- A text is read back. -/
theorem readText_text {s : String} (hs : s.utf8ByteSize < 2 ^ 64) (rest : List UInt8) :
    readText (text s ++ rest) = some (s, rest) := by
  have htake := take_append (Utf8.encode s) rest
  rw [Utf8.encode_length] at htake
  rw [readText, text, List.append_assoc, bind_eq (readHead_head (by omega) hs _), bind_eq htake,
    Utf8.decode_encode]
  rfl

/-- The head of an array is read back. -/
theorem readArray_array {n : ℕ} (hn : n < 2 ^ 64) (rest : List UInt8) :
    readArray (array n ++ rest) = some (some n, rest) := by
  obtain ⟨info, tail, hinfo, heq, harg⟩ := head_eq 4 hn
  have hdefinite : info ≠ 31 := by omega
  rw [array, heq, List.cons_append, readArray, bind_eq (initial_cons (by omega) (by omega) _)]
  simp only [ne_eq, not_true_eq_false, if_false, hdefinite]
  exact map_eq (harg rest)

end Cbor
