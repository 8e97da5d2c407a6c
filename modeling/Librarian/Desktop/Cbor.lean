import Librarian.Lib.Cursor

/-!
# CBOR in the desktop client

`cbor_writer` and `cbor_reader` of `DesktopTransport.cpp`. The reader refuses a head that is longer
than necessary, so that it accepts exactly what the writer of the agent's library writes: every
reader here comes with the set of inputs on which it succeeds.
-/

/-- A sequence of two reads that succeeds. -/
theorem Cursor.bind_eq_ok {ε α β : Type} {x : Cursor ε α} {f : α → Cursor ε β}
    {input rest : List UInt8} {b : β} :
    (x >>= f) input = .ok (b, rest) ↔ ∃ a mid, x input = .ok (a, mid) ∧ f a mid = .ok (b, rest) := by
  change (x input >>= fun result => f result.1 result.2) = _ ↔ _
  rw [Except.bind_eq_ok]
  constructor
  · rintro ⟨⟨a, mid⟩, hx, hf⟩
    exact ⟨a, mid, hx, hf⟩
  · rintro ⟨a, mid, hx, hf⟩
    exact ⟨⟨a, mid⟩, hx, hf⟩

/-- A check within a sequence of reads. -/
theorem Cursor.check_eq_ok {ε α β : Type} {c : Prop} [Decidable c] {e : ε} {f : α → Cursor ε β}
    {g : Cursor ε β} {input rest : List UInt8} {b : β} :
    (if c then throw e >>= f else g : Cursor ε β) input = .ok (b, rest) ↔
      ¬c ∧ g input = .ok (b, rest) := by
  by_cases hc : c
  · simp only [hc, if_true, not_true_eq_false, false_and, iff_false]
    intro h
    cases h
  · simp only [hc, if_false, not_false_eq_true, true_and]

/-- A sequence of reads that ends. -/
theorem Cursor.pure_eq_ok {ε α : Type} {a b : α} {input rest : List UInt8} :
    (pure a : Cursor ε α) input = .ok (b, rest) ↔ a = b ∧ input = rest := by
  change Except.ok (a, input) = _ ↔ _
  rw [Except.ok.injEq, Prod.mk.injEq]

namespace Librarian.Desktop

/-- `transport_error`. -/
inductive TransportError
  | unavailable
  | cancelled
  | invalid
  deriving DecidableEq, Repr

/-! ## Writing -/

/-- `cbor_writer::type_value`. -/
def typeValue (major : UInt8) (value : UInt64) : List UInt8 :=
  if value < 24 then [major <<< 5 ||| value.toUInt8]
  else if value ≤ 0xff then [major <<< 5 ||| 24, value.toUInt8]
  else if value ≤ 0xffff then [major <<< 5 ||| 25, (value >>> 8).toUInt8, value.toUInt8]
  else if value ≤ 0xffffffff then
    (major <<< 5 ||| 26) :: [24, 16, 8, 0].map fun shift : UInt64 => (value >>> shift).toUInt8
  else
    (major <<< 5 ||| 27) ::
      [56, 48, 40, 32, 24, 16, 8, 0].map fun shift : UInt64 => (value >>> shift).toUInt8

/-- The first byte of a head, as the two libraries compute it. -/
theorem shift_or_eq {major info : UInt8} (hmajor : major.toNat < 8) (hinfo : info.toNat < 32) :
    major <<< 5 ||| info = UInt8.ofNat (major.toNat * 32 + info.toNat) := by
  have hall : ∀ m : Fin 8, ∀ i : Fin 32, UInt8.ofNat m.val <<< 5 ||| UInt8.ofNat i.val =
      UInt8.ofNat (m.val * 32 + i.val) := by decide
  have h := hall ⟨major.toNat, hmajor⟩ ⟨info.toNat, hinfo⟩
  simpa using h

/-- A byte of a number. -/
theorem shift_byte_eq (value shift : UInt64) {k : ℕ} (hshift : shift.toNat = 8 * k) (hk : k < 8) :
    (value >>> shift).toUInt8 = UInt8.ofNat (value.toNat / 256 ^ k) := by
  apply UInt8.toNat_inj.mp
  have hmod : shift.toNat % 64 = 8 * k := by omega
  have hpow : (2 : ℕ) ^ (8 * k) = 256 ^ k := Nat.pow_mul 2 8 k
  rw [UInt64.toNat_toUInt8, UInt64.toNat_shiftRight, hmod, Nat.shiftRight_eq_div_pow, hpow,
    UInt8.toNat_ofNat']

/-- The lowest byte of a number. -/
theorem low_byte_eq (value : UInt64) : value.toUInt8 = UInt8.ofNat value.toNat := by
  apply UInt8.toNat_inj.mp
  rw [UInt64.toNat_toUInt8, UInt8.toNat_ofNat']

/-- The client writes the heads that the agent writes. -/
theorem typeValue_eq {major : UInt8} (hmajor : major.toNat < 8) (value : UInt64) :
    typeValue major value = Cbor.head major.toNat value.toNat := by
  have h24 : value < 24 ↔ value.toNat ≤ 0x17 := by
    rw [UInt64.lt_iff_toNat_lt]
    exact Nat.lt_succ_iff
  have h8 : value ≤ 0xff ↔ value.toNat ≤ 0xff := UInt64.le_iff_toNat_le
  have h16 : value ≤ 0xffff ↔ value.toNat ≤ 0xffff := UInt64.le_iff_toNat_le
  have h32 : value ≤ 0xffffffff ↔ value.toNat ≤ 0xffffffff := UInt64.le_iff_toNat_le
  have hinfo {info : UInt8} (h : info.toNat < 32) := shift_or_eq hmajor h
  have hbyte (shift : UInt64) {k : ℕ} := shift_byte_eq value shift (k := k)
  unfold typeValue Cbor.head
  simp only [h24, h8, h16, h32]
  split_ifs with hsmall
  · rw [low_byte_eq]
    have hvalue : (UInt8.ofNat value.toNat).toNat = value.toNat := by
      rw [UInt8.toNat_ofNat']
      omega
    rw [hinfo (by rw [hvalue]; omega), hvalue]
  · rw [hinfo (by decide), low_byte_eq]
    simp [BigEndian.encode]
  · rw [hinfo (by decide), hbyte 8 (k := 1) rfl (by norm_num), low_byte_eq]
    simp [BigEndian.encode]
  · rw [hinfo (by decide)]
    simp only [List.map_cons, List.map_nil, BigEndian.encode]
    rw [hbyte 24 (k := 3) rfl (by norm_num), hbyte 16 (k := 2) rfl (by norm_num),
      hbyte 8 (k := 1) rfl (by norm_num), hbyte 0 (k := 0) rfl (by norm_num)]
    rfl
  · rw [hinfo (by decide)]
    simp only [List.map_cons, List.map_nil, BigEndian.encode]
    rw [hbyte 56 (k := 7) rfl (by norm_num), hbyte 48 (k := 6) rfl (by norm_num),
      hbyte 40 (k := 5) rfl (by norm_num), hbyte 32 (k := 4) rfl (by norm_num),
      hbyte 24 (k := 3) rfl (by norm_num), hbyte 16 (k := 2) rfl (by norm_num),
      hbyte 8 (k := 1) rfl (by norm_num), hbyte 0 (k := 0) rfl (by norm_num)]
    rfl

/-- `unsigned_value`. -/
def unsignedValue (value : UInt64) : List UInt8 := typeValue 0 value

/-- `array`. -/
def array (length : UInt64) : List UInt8 := typeValue 4 length

/-- `bytes`. -/
def bytes (value : List UInt8) : List UInt8 := typeValue 2 (UInt64.ofNat value.length) ++ value

/-- `text`, of bytes in UTF-8. -/
def text (value : List UInt8) : List UInt8 := typeValue 3 (UInt64.ofNat value.length) ++ value

/-- `null_value`. -/
def nullValue : List UInt8 := [0xf6]

theorem unsignedValue_eq (value : UInt64) : unsignedValue value = Cbor.unsigned value.toNat :=
  typeValue_eq (by decide) value

theorem array_eq (length : UInt64) : array length = Cbor.array length.toNat :=
  typeValue_eq (by decide) length

theorem bytes_eq {value : List UInt8} (h : value.length < 2 ^ 64) :
    bytes value = Cbor.bytes value := by
  rw [bytes, typeValue_eq (by decide), UInt64.toNat_ofNat', Nat.mod_eq_of_lt h]
  rfl

theorem text_eq {value : String} (h : value.utf8ByteSize < 2 ^ 64) :
    text (Utf8.encode value) = Cbor.text value := by
  rw [text, typeValue_eq (by decide), UInt64.toNat_ofNat', Utf8.encode_length, Nat.mod_eq_of_lt h]
  rfl

/-! ## Reading -/

/-- A cursor over the bytes behind the reader's offset. -/
abbrev Reader (α : Type) : Type := Cursor TransportError α

/-- `read_byte`. -/
def readByte : Reader UInt8 := fun input =>
  match input with
  | [] => .error .invalid
  | byte :: rest => .ok (byte, rest)

/-- The loop of `read_integer`. -/
def readIntegerLoop : ℕ → UInt64 → Reader UInt64
  | 0, value => pure value
  | count + 1, value => do
    let byte ← readByte
    readIntegerLoop count (value <<< 8 ||| byte.toUInt64)

/-- `read_integer`. -/
def readInteger (count : ℕ) : Reader UInt64 := fun input =>
  if count > 8 ∨ count > input.length then .error .invalid
  else readIntegerLoop count 0 input

/-- The number of bytes that follow a first byte, or zero. -/
def argumentLength (additional : UInt8) : ℕ :=
  if additional = 24 then 1
  else if additional = 25 then 2
  else if additional = 26 then 4
  else if additional = 27 then 8
  else 0

/-- The least value that needs so many bytes. -/
def argumentMinimum (length : ℕ) : UInt64 :=
  if length = 1 then 24
  else if length = 2 then 256
  else if length = 4 then 65536
  else 4294967296

/-- `cbor_reader::type_value`. -/
def readTypeValue (expected_major : UInt8) : Reader UInt64 := do
  let initial ← readByte
  if initial >>> 5 ≠ expected_major then throw .invalid
  let additional := initial &&& 0x1f
  if additional < 24 then return additional.toUInt64
  let length := argumentLength additional
  if length = 0 then throw .invalid
  let value ← readInteger length
  if value < argumentMinimum length then throw .invalid
  return value

/-- `unsigned_value`. -/
def readUnsigned : Reader UInt64 := readTypeValue 0

/-- `array`. -/
def readArray : Reader UInt64 := readTypeValue 4

/-- The span behind a head. -/
def readSpan (length : UInt64) (maximum : ℕ) : Reader (List UInt8) := fun input =>
  if length.toNat > maximum ∨ length.toNat > input.length then .error .invalid
  else .ok (input.take length.toNat, input.drop length.toNat)

/-- `bytes`. -/
def readBytes (maximum : ℕ) : Reader (List UInt8) := do
  let length ← readTypeValue 2
  readSpan length maximum

/-- `text`. The bytes are not yet known to be UTF-8. -/
def readText (maximum : ℕ) : Reader (List UInt8) := do
  let length ← readTypeValue 3
  readSpan length maximum

/-- `finish`. -/
def finish : Reader Unit := fun input =>
  if input ≠ [] then .error .invalid else .ok ((), input)

/-- What a decoder returns, after it has checked for itself that nothing is left. -/
def run {α : Type} (decoder : Reader α) (input : List UInt8) : Except TransportError α :=
  Prod.fst <$> decoder input

/-! ## What is accepted -/

theorem run_eq_ok {α : Type} {decoder : Reader α} {input : List UInt8} {value : α} :
    run decoder input = .ok value ↔ ∃ rest, decoder input = .ok (value, rest) := by
  rw [run, Except.map_eq_ok]
  constructor
  · rintro ⟨⟨value', rest⟩, hread, rfl⟩
    exact ⟨rest, hread⟩
  · rintro ⟨rest, hread⟩
    exact ⟨(value, rest), hread, rfl⟩

theorem readIntegerLoop_append (span rest : List UInt8) (value : UInt64) :
    readIntegerLoop span.length value (span ++ rest) =
      .ok (span.foldl (fun value byte => value <<< 8 ||| byte.toUInt64) value, rest) := by
  induction span generalizing value with
  | nil => rfl
  | cons byte span ih => exact ih (value <<< 8 ||| byte.toUInt64)

/-- The loop computes the big-endian number, as long as it fits. -/
theorem foldl_shift_toNat (span : List UInt8) (value : UInt64)
    (h : value.toNat * 256 ^ span.length + 256 ^ span.length ≤ 2 ^ 64) :
    (span.foldl (fun value byte => value <<< 8 ||| byte.toUInt64 : UInt64 → UInt8 → UInt64)
      value).toNat =
      span.foldl (fun acc byte => acc * 256 + byte.toNat) value.toNat := by
  induction span generalizing value with
  | nil => rfl
  | cons byte span ih =>
    have hbyte := byte.toNat_lt
    rw [List.length_cons, Nat.pow_succ] at h
    have hpos : 0 < 256 ^ span.length := Nat.pow_pos (by norm_num)
    have hvalue : value.toNat * 256 + 256 ≤ 2 ^ 64 := by nlinarith
    have hstep : (value <<< 8 ||| byte.toUInt64).toNat = value.toNat * 256 + byte.toNat := by
      rw [UInt64.toNat_or, UInt64.toNat_shiftLeft, UInt8.toNat_toUInt64]
      have hshift : (8 : UInt64).toNat % 64 = 8 := rfl
      rw [hshift, Nat.shiftLeft_eq, Nat.mod_eq_of_lt (by omega)]
      have hor := Nat.shiftLeft_add_eq_or_of_lt (b := byte.toNat) (i := 8) hbyte value.toNat
      rw [Nat.shiftLeft_eq] at hor
      rw [← hor]
    have hnext : (value <<< 8 ||| byte.toUInt64).toNat * 256 ^ span.length + 256 ^ span.length ≤
        2 ^ 64 := by
      rw [hstep]
      nlinarith
    rw [List.foldl_cons, List.foldl_cons, ih _ hnext, hstep]

/-- An integer of `count` bytes is read off its big-endian encoding, and off nothing else. -/
theorem readInteger_eq_ok {count : ℕ} (hcount : count ≤ 8) {input rest : List UInt8}
    {value : UInt64} :
    readInteger count input = .ok (value, rest) ↔
      value.toNat < 256 ^ count ∧ input = BigEndian.encode count value.toNat ++ rest := by
  have hpow : (256 : ℕ) ^ count ≤ 2 ^ 64 := by
    calc (256 : ℕ) ^ count ≤ 256 ^ 8 := Nat.pow_le_pow_right (by norm_num) hcount
      _ = 2 ^ 64 := by norm_num
  -- What the loop makes of the first bytes of an input that is long enough.
  have hloop (span tail : List UInt8) (hlength : span.length = count) :
      ∃ result : UInt64, readIntegerLoop count 0 (span ++ tail) = .ok (result, tail) ∧
        result.toNat = BigEndian.decode span := by
    refine ⟨_, by rw [← hlength]; exact readIntegerLoop_append span tail 0, ?_⟩
    exact foldl_shift_toNat span 0 (by rw [hlength]; simpa using hpow)
  unfold readInteger
  by_cases hshort : count > 8 ∨ count > input.length
  · rw [if_pos hshort]
    constructor
    · intro h
      cases h
    · rintro ⟨-, rfl⟩
      simp only [List.length_append, BigEndian.encode_length] at hshort
      omega
  rw [if_neg hshort]
  have hlength : (input.take count).length = count := by
    rw [List.length_take]
    omega
  obtain ⟨result, hresult, hnat⟩ := hloop (input.take count) (input.drop count) hlength
  rw [List.take_append_drop] at hresult
  rw [hresult, Except.ok.injEq, Prod.mk.injEq]
  constructor
  · rintro ⟨rfl, rfl⟩
    have hlt := BigEndian.decode_lt (input.take count)
    rw [hlength] at hlt
    have hencode := BigEndian.encode_decode (input.take count)
    rw [hlength] at hencode
    rw [hnat, hencode, List.take_append_drop]
    exact ⟨hlt, rfl⟩
  · rintro ⟨hlt, rfl⟩
    have htake : (BigEndian.encode count value.toNat ++ rest).take count =
        BigEndian.encode count value.toNat :=
      List.take_left' (BigEndian.encode_length _ _)
    have hdrop : (BigEndian.encode count value.toNat ++ rest).drop count = rest :=
      List.drop_left' (BigEndian.encode_length _ _)
    rw [htake, BigEndian.decode_encode hlt] at hnat
    exact ⟨UInt64.toNat_inj.mp hnat, hdrop⟩

/-- The first byte of a head names its major type and the length of its argument. -/
theorem initial_eq {major initial : UInt8} (h : initial >>> 5 = major) :
    initial = UInt8.ofNat (major.toNat * 32 + (initial &&& 0x1f).toNat) := by
  have hmask : (initial &&& 0x1f).toNat = initial.toNat % 32 := by
    rw [UInt8.toNat_and]
    exact Nat.and_two_pow_sub_one_eq_mod initial.toNat 5
  have hmajor : major.toNat = initial.toNat / 32 := by
    rw [← h, UInt8.toNat_shiftRight]
    exact Nat.shiftRight_eq_div_pow _ _
  apply UInt8.toNat_inj.mp
  have hlt := initial.toNat_lt
  rw [UInt8.toNat_ofNat', hmask, hmajor]
  omega

/-- The two halves of the first byte of a head. -/
theorem initial_parts {major info : ℕ} (hmajor : major < 8) (hinfo : info < 32) :
    UInt8.ofNat (major * 32 + info) >>> 5 = UInt8.ofNat major ∧
      UInt8.ofNat (major * 32 + info) &&& 0x1f = UInt8.ofNat info := by
  have hall : ∀ m : Fin 8, ∀ i : Fin 32, UInt8.ofNat (m.val * 32 + i.val) >>> 5 = UInt8.ofNat m.val ∧
      UInt8.ofNat (m.val * 32 + i.val) &&& 0x1f = UInt8.ofNat i.val := by decide
  exact hall ⟨major, hmajor⟩ ⟨info, hinfo⟩

/-- `type_value` on a first byte. -/
theorem readTypeValue_cons (major initial : UInt8) (tail : List UInt8) :
    readTypeValue major (initial :: tail) =
      if initial >>> 5 ≠ major then .error .invalid
      else if initial &&& 0x1f < 24 then .ok ((initial &&& 0x1f).toUInt64, tail)
      else if argumentLength (initial &&& 0x1f) = 0 then .error .invalid
      else readInteger (argumentLength (initial &&& 0x1f)) tail >>= fun result =>
        if result.1 < argumentMinimum (argumentLength (initial &&& 0x1f)) then .error .invalid
        else .ok result := by
  unfold readTypeValue
  by_cases hmajor : initial >>> 5 = major
  · rw [if_neg (not_not.mpr hmajor)]
    change (if initial >>> 5 ≠ major then _ else _ : Reader UInt64) tail = _
    rw [if_neg (not_not.mpr hmajor)]
    by_cases hsmall : initial &&& 0x1f < 24
    · rw [if_pos hsmall, if_pos hsmall]
      rfl
    rw [if_neg hsmall, if_neg hsmall]
    by_cases hlength : argumentLength (initial &&& 0x1f) = 0
    · rw [if_pos hlength, if_pos hlength]
      rfl
    rw [if_neg hlength, if_neg hlength]
    change (readInteger (argumentLength (initial &&& 0x1f)) tail >>= fun result => _) = _
    congr 1
    funext result
    dsimp only
    split_ifs <;> rfl
  · rw [if_pos hmajor]
    change (if initial >>> 5 ≠ major then _ else _ : Reader UInt64) tail = _
    rw [if_pos hmajor]
    rfl

/-- A head with an argument behind its first byte is read off the shortest encoding only. -/
theorem readTypeValue_argument {major : UInt8} (hmajor : major.toNat < 8) {info : UInt8}
    {count : ℕ} (hinfo : argumentLength info = count) (hcount : count ≠ 0) (hle : count ≤ 8)
    (hlarge : ¬info < 24) (hlt : info.toNat < 32) {tail rest : List UInt8} {value : UInt64} :
    readTypeValue major (UInt8.ofNat (major.toNat * 32 + info.toNat) :: tail) = .ok (value, rest) ↔
      (argumentMinimum count).toNat ≤ value.toNat ∧ value.toNat < 256 ^ count ∧
        tail = BigEndian.encode count value.toNat ++ rest := by
  obtain ⟨hshift, hmask⟩ := initial_parts hmajor hlt
  rw [UInt8.ofNat_toNat] at hshift hmask
  rw [readTypeValue_cons, hshift, hmask, if_neg (not_not.mpr rfl), if_neg hlarge, hinfo,
    if_neg hcount, Except.bind_eq_ok]
  simp only [Except.ite_error_eq_ok, Except.ok.injEq, UInt64.not_lt, UInt64.le_iff_toNat_le]
  constructor
  · rintro ⟨result, hread, hminimum, rfl⟩
    exact ⟨hminimum, (readInteger_eq_ok hle).mp hread⟩
  · rintro ⟨hminimum, hread⟩
    exact ⟨(value, rest), (readInteger_eq_ok hle).mpr hread, hminimum, rfl⟩

/-- A head is read off the bytes that the writer of a head writes, and off nothing else. -/
theorem readTypeValue_eq_ok {major : UInt8} (hmajor : major.toNat < 8) {input rest : List UInt8}
    {value : UInt64} :
    readTypeValue major input = .ok (value, rest) ↔
      input = Cbor.head major.toNat value.toNat ++ rest := by
  have hvalue := value.toNat_lt
  have hone (tail : List UInt8) :
      readTypeValue major (UInt8.ofNat (major.toNat * 32 + 24) :: tail) = .ok (value, rest) ↔
        24 ≤ value.toNat ∧ value.toNat < 256 ^ 1 ∧
          tail = BigEndian.encode 1 value.toNat ++ rest :=
    readTypeValue_argument hmajor (rfl : argumentLength 24 = 1) (by decide) (by decide)
      (by decide) (by decide)
  have htwo (tail : List UInt8) :
      readTypeValue major (UInt8.ofNat (major.toNat * 32 + 25) :: tail) = .ok (value, rest) ↔
        256 ≤ value.toNat ∧ value.toNat < 256 ^ 2 ∧
          tail = BigEndian.encode 2 value.toNat ++ rest :=
    readTypeValue_argument hmajor (rfl : argumentLength 25 = 2) (by decide) (by decide)
      (by decide) (by decide)
  have hfour (tail : List UInt8) :
      readTypeValue major (UInt8.ofNat (major.toNat * 32 + 26) :: tail) = .ok (value, rest) ↔
        65536 ≤ value.toNat ∧ value.toNat < 256 ^ 4 ∧
          tail = BigEndian.encode 4 value.toNat ++ rest :=
    readTypeValue_argument hmajor (rfl : argumentLength 26 = 4) (by decide) (by decide)
      (by decide) (by decide)
  have height (tail : List UInt8) :
      readTypeValue major (UInt8.ofNat (major.toNat * 32 + 27) :: tail) = .ok (value, rest) ↔
        4294967296 ≤ value.toNat ∧ value.toNat < 256 ^ 8 ∧
          tail = BigEndian.encode 8 value.toNat ++ rest :=
    readTypeValue_argument hmajor (rfl : argumentLength 27 = 8) (by decide) (by decide)
      (by decide) (by decide)
  constructor
  · intro h
    cases input with
    | nil => cases h
    | cons initial tail =>
      have hcons := h
      rw [readTypeValue_cons] at hcons
      obtain ⟨hinitial, hcons⟩ := Except.ite_error_eq_ok.mp hcons
      have hbyte := initial_eq (not_not.mp hinitial)
      by_cases hsmall : initial &&& 0x1f < 24
      · rw [if_pos hsmall, Except.ok.injEq, Prod.mk.injEq] at hcons
        obtain ⟨rfl, rfl⟩ := hcons
        have hle : (initial &&& 0x1f).toNat ≤ 0x17 :=
          Nat.lt_succ_iff.mp (UInt8.lt_iff_toNat_lt.mp hsmall)
        rw [UInt8.toNat_toUInt64, Cbor.head, if_pos hle, ← hbyte]
        rfl
      rw [if_neg hsmall] at hcons
      obtain ⟨hlength, -⟩ := Except.ite_error_eq_ok.mp hcons
      -- The first byte announces an argument, in one of four widths.
      unfold argumentLength at hlength
      split_ifs at hlength with h24 h25 h26 h27
      · rw [h24] at hbyte
        rw [hbyte] at h
        obtain ⟨hminimum, hlt, rfl⟩ := (hone tail).mp h
        rw [Cbor.head, if_neg (not_le.mpr hminimum), if_pos (by omega), hbyte]
        rfl
      · rw [h25] at hbyte
        rw [hbyte] at h
        obtain ⟨hminimum, hlt, rfl⟩ := (htwo tail).mp h
        have hlarge : (256 : ℕ) ≤ value.toNat := hminimum
        rw [Cbor.head, if_neg (by omega), if_neg (by omega), if_pos (by omega), hbyte]
        rfl
      · rw [h26] at hbyte
        rw [hbyte] at h
        obtain ⟨hminimum, hlt, rfl⟩ := (hfour tail).mp h
        have hlarge : (65536 : ℕ) ≤ value.toNat := hminimum
        rw [Cbor.head, if_neg (by omega), if_neg (by omega), if_neg (by omega), if_pos (by omega),
          hbyte]
        rfl
      · rw [h27] at hbyte
        rw [hbyte] at h
        obtain ⟨hminimum, hlt, rfl⟩ := (height tail).mp h
        have hlarge : (4294967296 : ℕ) ≤ value.toNat := hminimum
        rw [Cbor.head, if_neg (by omega), if_neg (by omega), if_neg (by omega), if_neg (by omega),
          hbyte]
        rfl
      · exact absurd rfl hlength
  · rintro rfl
    unfold Cbor.head
    split_ifs with h1 h2 h3 h4
    · obtain ⟨hshift, hmask⟩ := initial_parts hmajor (by omega : value.toNat < 32)
      have hsmall : UInt8.ofNat value.toNat < 24 := by
        rw [UInt8.lt_iff_toNat_lt, UInt8.toNat_ofNat']
        exact (Nat.mod_le _ _).trans_lt (Nat.lt_succ_of_le h1)
      rw [List.cons_append, readTypeValue_cons, hshift, hmask, UInt8.ofNat_toNat,
        if_neg (not_not.mpr rfl), if_pos hsmall, List.nil_append]
      congr 2
      apply UInt64.toNat_inj.mp
      rw [UInt8.toNat_toUInt64, UInt8.toNat_ofNat']
      omega
    · exact (hone _).mpr ⟨not_le.mp h1, by omega, rfl⟩
    · exact (htwo _).mpr ⟨not_le.mp h2, by omega, rfl⟩
    · exact (hfour _).mpr ⟨not_le.mp h3, by omega, rfl⟩
    · exact (height _).mpr ⟨not_le.mp h4, by omega, rfl⟩

theorem readUnsigned_eq_ok {input rest : List UInt8} {value : UInt64} :
    readUnsigned input = .ok (value, rest) ↔ input = Cbor.unsigned value.toNat ++ rest :=
  readTypeValue_eq_ok (by decide)

theorem readArray_eq_ok {input rest : List UInt8} {length : UInt64} :
    readArray input = .ok (length, rest) ↔ input = Cbor.array length.toNat ++ rest :=
  readTypeValue_eq_ok (by decide)

/-- A span is read off a head with its length and the span itself. -/
theorem readSpan_eq_ok {major : UInt8} (hmajor : major.toNat < 8) {maximum : ℕ}
    (hmaximum : maximum < 2 ^ 64) {input rest span : List UInt8} :
    (readTypeValue major >>= fun length => readSpan length maximum : Reader _) input =
        .ok (span, rest) ↔
      span.length ≤ maximum ∧ input = Cbor.head major.toNat span.length ++ span ++ rest := by
  rw [Cursor.bind_eq_ok]
  simp only [readTypeValue_eq_ok hmajor, readSpan, Except.ite_error_eq_ok, not_or, not_lt,
    Except.ok.injEq, Prod.mk.injEq]
  constructor
  · rintro ⟨length, mid, rfl, ⟨hle, hlong⟩, rfl, rfl⟩
    have hspan : (mid.take length.toNat).length = length.toNat := by
      rw [List.length_take]
      omega
    rw [hspan, List.append_assoc, List.take_append_drop]
    exact ⟨hle, rfl⟩
  · rintro ⟨hle, rfl⟩
    have hlength : (UInt64.ofNat span.length).toNat = span.length := by
      rw [UInt64.toNat_ofNat', Nat.mod_eq_of_lt (hle.trans_lt hmaximum)]
    refine ⟨UInt64.ofNat span.length, span ++ rest, ?_, ⟨?_, ?_⟩, ?_, ?_⟩
    · rw [hlength, List.append_assoc]
    · rw [hlength]
      exact hle
    · rw [hlength, List.length_append]
      omega
    · rw [hlength, List.take_left]
    · rw [hlength, List.drop_left]

theorem readBytes_eq_ok {maximum : ℕ} (hmaximum : maximum < 2 ^ 64) {input rest span : List UInt8} :
    readBytes maximum input = .ok (span, rest) ↔
      span.length ≤ maximum ∧ input = Cbor.bytes span ++ rest :=
  readSpan_eq_ok (by decide) hmaximum

theorem readText_eq_ok {maximum : ℕ} (hmaximum : maximum < 2 ^ 64) {input rest span : List UInt8} :
    readText maximum input = .ok (span, rest) ↔
      span.length ≤ maximum ∧ input = Cbor.head 3 span.length ++ span ++ rest :=
  readSpan_eq_ok (by decide) hmaximum

theorem finish_eq_ok {input rest : List UInt8} {u : Unit} :
    finish input = .ok (u, rest) ↔ input = [] ∧ rest = [] := by
  unfold finish
  rw [Except.ite_error_eq_ok, not_not, Except.ok.injEq, Prod.mk.injEq]
  constructor
  · rintro ⟨rfl, -, rfl⟩
    exact ⟨rfl, rfl⟩
  · rintro ⟨rfl, rfl⟩
    exact ⟨rfl, rfl, rfl⟩

end Librarian.Desktop
