import Librarian.Browser.FillNative
import Librarian.NativeHost.Protocol

/-!
# Requests of the extension, as the host reads them

The extension spells the sixteen bytes of a request in hexadecimal and the identifier of a document
in lower case with hyphens. The host reads back the bytes that were spelled, and the 128 bits of the
document (`parseDocumentId_protocolDocumentId`), so that it accepts every message that the extension
posts (`validateRequest_fillRequest`).
-/

namespace Librarian.NativeHost

open Librarian.Browser

/-! ## Digits -/

/-- The ASCII characters are 128. -/
theorem exists_ofNat {c : Char} (hc : c.toNat < 0x80) : ∃ n : Fin 128, Char.ofNat n = c :=
  ⟨⟨c.toNat, hc⟩, Char.ofNat_toNat c⟩

theorem toNat_lt_of_le {c d : Char} (h : c ≤ d) (hd : d.toNat < 0x80) : c.toNat < 0x80 :=
  Nat.lt_of_le_of_lt (UInt32.le_iff_toNat_le.mp h) hd

/-- A lower-case digit is an ASCII character, and no hyphen. -/
theorem isLowerHex_ascii {c : Char} (h : isLowerHex c) : c.toNat < 0x80 ∧ c ≠ '-' := by
  have hc : c.toNat < 0x80 := by
    simp only [isLowerHex, decide_eq_true_eq] at h
    obtain ⟨-, h⟩ | ⟨-, h⟩ := h
    · exact toNat_lt_of_le h (by decide)
    · exact toNat_lt_of_le h (by decide)
  refine ⟨hc, ?_⟩
  rintro rfl
  exact absurd h (by decide)

/-- The value of a digit in either case. -/
def digitValue (c : Char) : ℕ :=
  if c ≤ '9' then c.toNat - 48 else if c ≤ 'F' then c.toNat - 55 else c.toNat - 87

/-- A lower-case digit is read as its value. -/
theorem hexValue_of_isLowerHex {c : Char} (h : isLowerHex c) :
    hexValue c = digitValue c ∧ hexValue c < 16 := by
  have hall : ∀ n : Fin 128, isLowerHex (Char.ofNat n) →
      hexValue (Char.ofNat n) = digitValue (Char.ofNat n) ∧ hexValue (Char.ofNat n) < 16 := by
    decide
  obtain ⟨n, rfl⟩ := exists_ofNat (isLowerHex_ascii h).1
  exact hall n h

/-- An upper-case digit in lower case is a digit, with the same value. -/
theorem toLower_of_isUpperHex {c : Char} (h : isUpperHex c) :
    isLowerHex c.toLower ∧ digitValue c.toLower = digitValue c ∧ (c.toLower = '0' → c = '0') := by
  have hc : c.toNat < 0x80 := by
    simp only [isUpperHex, decide_eq_true_eq] at h
    obtain ⟨-, h⟩ | ⟨-, h⟩ := h
    · exact toNat_lt_of_le h (by decide)
    · exact toNat_lt_of_le h (by decide)
  have hall : ∀ n : Fin 128, isUpperHex (Char.ofNat n) →
      isLowerHex (Char.ofNat n).toLower ∧
        digitValue (Char.ofNat n).toLower = digitValue (Char.ofNat n) ∧
        ((Char.ofNat n).toLower = '0' → Char.ofNat n = '0') := by decide
  obtain ⟨n, rfl⟩ := exists_ofNat hc
  exact hall n h

/-- The digit of a number is one that is read as the number. -/
theorem hexDigit_spec {n : ℕ} (h : n < 16) :
    isLowerHex (hexDigit n) ∧ hexValue (hexDigit n) = n ∧ (hexDigit n = '0' → n = 0) := by
  have hall : ∀ n : Fin 16, isLowerHex (hexDigit n) ∧ hexValue (hexDigit n) = n ∧
      (hexDigit n = '0' → n.val = 0) := by decide
  exact hall ⟨n, h⟩

/-! ## Identifiers -/

/-- The number that digits spell. -/
def spelled (digits : List Char) : ℕ := digits.foldl (fun n c => 16 * n + digitValue c) 0

/-- The host accepts an identifier of 32 lower-case digits that are not all zero. -/
theorem validRequestId_ofList {digits : List Char} (hlength : digits.length = 32)
    (hhex : ∀ c ∈ digits, isLowerHex c) (hzero : ∃ c ∈ digits, c ≠ '0') :
    validRequestId (String.ofList digits) := by
  have hsize : (String.ofList digits).utf8ByteSize = 32 := by
    rw [String.utf8ByteSize_of_ascii fun c hc => (isLowerHex_ascii (hhex c hc)).1, hlength]
  simp only [validRequestId, String.toList_ofList, List.all_eq_true, List.any_eq_true,
    decide_eq_true_eq]
  exact ⟨hsize, hhex, hzero⟩

theorem hexPairs_length : ∀ digits : List Char, (hexPairs digits).length = digits.length / 2
  | [] => rfl
  | [_] => by simp [hexPairs]
  | _ :: _ :: rest => by
    have hrest := hexPairs_length rest
    simp only [hexPairs, List.length_cons]
    omega

/-- The bytes of pairs of digits are the number that the digits spell, from any accumulator. -/
theorem foldl_hexPairs : ∀ (digits : List Char) (acc : ℕ), digits.length % 2 = 0 →
    (∀ c ∈ digits, isLowerHex c) →
    (hexPairs digits).foldl (fun acc b => acc * 256 + b.toNat) acc =
      digits.foldl (fun n c => 16 * n + digitValue c) acc
  | [], _, _, _ => rfl
  | [_], _, hlength, _ => by simp at hlength
  | high :: low :: rest, acc, hlength, hhex => by
    obtain ⟨hhigh, hhigh'⟩ := hexValue_of_isLowerHex (hhex high (by simp))
    obtain ⟨hlow, hlow'⟩ := hexValue_of_isLowerHex (hhex low (by simp))
    have hbyte : (UInt8.ofNat (16 * hexValue high + hexValue low)).toNat =
        16 * digitValue high + digitValue low := by
      rw [UInt8.toNat_ofNat', ← hhigh, ← hlow]
      omega
    have hstep : acc * 256 + (16 * digitValue high + digitValue low) =
        16 * (16 * acc + digitValue high) + digitValue low := by omega
    simp only [hexPairs, List.foldl_cons]
    rw [hbyte, hstep]
    apply foldl_hexPairs rest
    · simp only [List.length_cons] at hlength
      omega
    · intro c hc
      exact hhex c (List.mem_cons_of_mem _ (List.mem_cons_of_mem _ hc))

/-- Digits that are not all zero spell a number that is not, from any accumulator. -/
theorem foldl_digitValue_pos {digits : List Char} {acc : ℕ} (hhex : ∀ c ∈ digits, isLowerHex c)
    (h : 0 < acc ∨ ∃ c ∈ digits, c ≠ '0') :
    0 < digits.foldl (fun n c => 16 * n + digitValue c) acc := by
  induction digits generalizing acc with
  | nil => simpa using h
  | cons c digits ih =>
    refine ih (fun d hd => hhex d (List.mem_cons_of_mem _ hd)) ?_
    show 0 < 16 * acc + digitValue c ∨ ∃ d ∈ digits, d ≠ '0'
    obtain hacc | ⟨d, hd, hne⟩ := h
    · exact .inl (by omega)
    obtain rfl | hd := List.mem_cons.mp hd
    · have hall : ∀ n : Fin 128, isLowerHex (Char.ofNat n) → Char.ofNat n ≠ '0' →
          0 < digitValue (Char.ofNat n) := by decide
      have hd' := hhex d (List.mem_cons_self ..)
      obtain ⟨n, rfl⟩ := exists_ofNat (isLowerHex_ascii hd').1
      have hpos := hall n hd' hne
      exact .inl (by omega)
    · exact .inr ⟨d, hd, hne⟩

/-- An array of zeros is read as zero. -/
theorem decode_of_isZero {n : ℕ} {bytes : Bytes n} (h : bytes.isZero) :
    BigEndian.decode bytes.val = 0 := by
  have hfold : ∀ bytes : List UInt8, (∀ b ∈ bytes, b = 0) →
      bytes.foldl (fun acc b => acc * 256 + b.toNat) 0 = 0 := by
    intro bytes hbytes
    induction bytes with
    | nil => rfl
    | cons b bytes ih =>
      have hb := hbytes b (List.mem_cons_self ..)
      rw [List.foldl_cons, hb]
      exact ih fun b' hb' => hbytes b' (List.mem_cons_of_mem _ hb')
  refine hfold bytes.val fun b hb => ?_
  rw [Bytes.isZero, List.all_eq_true] at h
  exact beq_iff_eq.mp (h b hb)

/-- An accepted identifier is read as the sixteen bytes of the number that it spells, which is not
zero. -/
theorem parseHexId_ofList {digits : List Char} (hlength : digits.length = 32)
    (hhex : ∀ c ∈ digits, isLowerHex c) (hzero : ∃ c ∈ digits, c ≠ '0') :
    ∃ id : Bytes 16, parseHexId (String.ofList digits) = some id ∧
      id.val = hexPairs digits ∧ BigEndian.decode id.val = spelled digits ∧ ¬id.isZero := by
  have hbytes : (hexPairs digits).length = 16 := by rw [hexPairs_length, hlength]
  have hspelled : BigEndian.decode (hexPairs digits) = spelled digits :=
    foldl_hexPairs digits 0 (by omega) hhex
  refine ⟨⟨hexPairs digits, hbytes⟩, ?_, rfl, hspelled, ?_⟩
  · unfold parseHexId
    rw [if_pos (validRequestId_ofList hlength hhex hzero), String.toList_ofList]
    exact Bytes.ofList?_val ⟨hexPairs digits, hbytes⟩
  · intro hall
    have hpos : 0 < spelled digits := foldl_digitValue_pos hhex (.inr hzero)
    have hdecode : BigEndian.decode (hexPairs digits) = 0 := decode_of_isZero hall
    omega

/-! ## Requests -/

/-- The digits of the bytes of a request, two for each, are read as the bytes. -/
theorem hexPairs_digits (bytes : List UInt8) :
    hexPairs (bytes.flatMap fun byte =>
      [hexDigit (byte.toNat / 16), hexDigit (byte.toNat % 16)]) = bytes ∧
    (bytes.flatMap fun byte =>
      [hexDigit (byte.toNat / 16), hexDigit (byte.toNat % 16)]).length = 2 * bytes.length := by
  induction bytes with
  | nil => exact ⟨rfl, rfl⟩
  | cons byte bytes ih =>
    have hbyte := byte.toNat_lt
    have hhigh := (hexDigit_spec (n := byte.toNat / 16) (by omega)).2.1
    have hlow := (hexDigit_spec (n := byte.toNat % 16) (by omega)).2.1
    have hvalue : 16 * (byte.toNat / 16) + byte.toNat % 16 = byte.toNat := Nat.div_add_mod _ _
    obtain ⟨hread, hlength⟩ := ih
    simp only [List.flatMap_cons, List.cons_append, List.nil_append, hexPairs, List.length_cons]
    rw [hhigh, hlow, hvalue, UInt8.ofNat_toNat, hread, hlength]
    exact ⟨rfl, by omega⟩

/-- The identifier of a request is valid, and is read as the bytes it was made of. -/
theorem createRequestId_parseHexId {id : Bytes 16} (hid : ¬id.isZero) :
    ∃ requestId, createRequestId id = some requestId ∧ validRequestId requestId ∧
      parseHexId requestId = some id := by
  have hdigits : ∀ c ∈ id.val.flatMap fun byte : UInt8 =>
      [hexDigit (byte.toNat / 16), hexDigit (byte.toNat % 16)], isLowerHex c := by
    intro c hc
    obtain ⟨byte, -, hc⟩ := List.mem_flatMap.mp hc
    have hbyte := byte.toNat_lt
    simp only [List.mem_cons, List.not_mem_nil, or_false] at hc
    obtain rfl | rfl := hc
    · exact (hexDigit_spec (by omega)).1
    · exact (hexDigit_spec (by omega)).1
  have hzero : ∃ c ∈ id.val.flatMap fun byte : UInt8 =>
      [hexDigit (byte.toNat / 16), hexDigit (byte.toNat % 16)], c ≠ '0' := by
    by_contra hall
    simp only [not_exists, not_and, not_not] at hall
    apply hid
    rw [Bytes.isZero, List.all_eq_true]
    intro byte hmem
    have hbyte := byte.toNat_lt
    have hhigh := hall _ (List.mem_flatMap.mpr ⟨byte, hmem, List.mem_cons_self ..⟩)
    have hlow := hall _ (List.mem_flatMap.mpr
      ⟨byte, hmem, List.mem_cons_of_mem _ (List.mem_cons_self ..)⟩)
    have hhigh' := (hexDigit_spec (by omega)).2.2 hhigh
    have hlow' := (hexDigit_spec (by omega)).2.2 hlow
    rw [beq_iff_eq]
    apply UInt8.toNat_inj.mp
    show byte.toNat = 0
    omega
  obtain ⟨hpairs, hlength⟩ := hexPairs_digits id.val
  rw [id.property] at hlength
  obtain ⟨read, hread, hval, -, -⟩ := parseHexId_ofList hlength hdigits hzero
  refine ⟨_, if_neg hid, validRequestId_ofList hlength hdigits hzero, ?_⟩
  rw [hread, Subtype.ext (hval.trans hpairs)]

/-! ## Documents -/

/-- The characters of a hyphenated identifier, by their places. -/
theorem mem_zipIdx_of_isHyphenated {chars : List Char} (h : isHyphenated chars) {c : Char} {i : ℕ}
    (hmem : (c, i) ∈ chars.zipIdx) :
    i ∈ hyphens ∧ c = '-' ∨ i ∉ hyphens ∧ isLowerHex c ∧ c ≠ '-' := by
  simp only [isHyphenated, decide_eq_true_eq, List.all_eq_true] at h
  have hc := h.2 (c, i) hmem
  by_cases hi : i ∈ hyphens
  · simp only [if_pos hi, decide_eq_true_eq] at hc
    exact .inl ⟨hi, hc⟩
  · simp only [if_neg hi] at hc
    exact .inr ⟨hi, hc, (isLowerHex_ascii hc).2⟩

/-- Every character of a hyphenated identifier is a hyphen or a digit. -/
theorem mem_of_isHyphenated {chars : List Char} (h : isHyphenated chars) {c : Char}
    (hmem : c ∈ chars) : c = '-' ∨ isLowerHex c := by
  obtain ⟨i, hi, rfl⟩ := List.mem_iff_getElem.mp hmem
  have hplace : (chars[i], i) ∈ chars.zipIdx :=
    List.mem_zipIdx_iff_getElem?.mpr (List.getElem?_eq_getElem hi)
  obtain ⟨-, h'⟩ | ⟨-, h', -⟩ := mem_zipIdx_of_isHyphenated h hplace
  · exact .inl h'
  · exact .inr h'

/-- A hyphenated identifier has 32 digits. -/
theorem filter_length_of_isHyphenated {chars : List Char} (h : isHyphenated chars) :
    (chars.filter (· ≠ '-')).length = 32 := by
  have hlength : chars.length = 36 := by
    simp only [isHyphenated, decide_eq_true_eq] at h
    exact h.1
  have hfirst : (chars.zipIdx.map Prod.fst) = chars := List.zipIdx_map_fst 0 chars
  have hsecond : (chars.zipIdx.map Prod.snd) = List.range' 0 36 := by
    rw [List.zipIdx_map_snd, hlength]
  calc (chars.filter (· ≠ '-')).length
      = ((chars.zipIdx.map Prod.fst).filter (· ≠ '-')).length := by rw [hfirst]
    _ = (chars.zipIdx.filter fun place => place.1 ≠ '-').length := by
      rw [List.filter_map, List.length_map]
      rfl
    _ = (chars.zipIdx.filter fun place => place.2 ∉ hyphens).length := by
      congr 1
      apply List.filter_congr
      rintro ⟨c, i⟩ hmem
      obtain ⟨hi, hc⟩ | ⟨hi, -, hc⟩ := mem_zipIdx_of_isHyphenated h hmem
      · simp [hi, hc]
      · simp [hi, hc]
    _ = ((chars.zipIdx.map Prod.snd).filter (· ∉ hyphens)).length := by
      rw [List.filter_map, List.length_map]
      rfl
    _ = 32 := by rw [hsecond]; decide

/-- The host reads a hyphenated identifier that is not all zero as the number it spells. -/
theorem parseDocumentId_of_isHyphenated {chars : List Char} (h : isHyphenated chars)
    (hzero : ∃ c ∈ chars.filter (· ≠ '-'), c ≠ '0') :
    ∃ id : Bytes 16, parseDocumentId (String.ofList chars) = some id ∧
      BigEndian.decode id.val = spelled (chars.filter (· ≠ '-')) ∧ ¬id.isZero := by
  have hascii : ∀ c ∈ chars, c.toNat < 0x80 := by
    intro c hmem
    obtain rfl | hc := mem_of_isHyphenated h hmem
    · decide
    · exact (isLowerHex_ascii hc).1
  have hlength : chars.length = 36 := by
    simp only [isHyphenated, decide_eq_true_eq] at h
    exact h.1
  have hplaces : ∀ i ∈ hyphens, chars[i]? = some '-' := by
    intro i hi
    have hi' : i < chars.length := by
      rw [hlength]
      revert i
      decide
    have hplace : (chars[i], i) ∈ chars.zipIdx :=
      List.mem_zipIdx_iff_getElem?.mpr (List.getElem?_eq_getElem hi')
    obtain ⟨-, hc⟩ | ⟨hnot, -⟩ := mem_zipIdx_of_isHyphenated h hplace
    · rw [List.getElem?_eq_getElem hi', hc]
    · exact absurd hi hnot
  have hdigits : ∀ c ∈ chars.filter (· ≠ '-'), isLowerHex c := by
    intro c hmem
    obtain ⟨hmem, hc⟩ := List.mem_filter.mp hmem
    exact (mem_of_isHyphenated h hmem).resolve_left (of_decide_eq_true hc)
  obtain ⟨id, hid, -, hspelled⟩ :=
    parseHexId_ofList (filter_length_of_isHyphenated h) hdigits hzero
  refine ⟨id, ?_, hspelled⟩
  unfold parseDocumentId
  rw [if_neg, String.toList_ofList, hid]
  rw [String.utf8ByteSize_of_ascii hascii, String.toList_ofList, hlength]
  simp only [ne_eq, not_true_eq_false, false_or, not_or, not_not, List.all_eq_true,
    decide_eq_true_eq, List.any_eq_true, not_exists, not_and]
  exact ⟨hascii, hplaces⟩

/-- Hyphens between digits are where they belong, and the digits are the same. -/
theorem hyphenate_spec {hex : List Char} (hlength : hex.length = 32)
    (hhex : ∀ c ∈ hex, isLowerHex c) :
    isHyphenated (hyphenate hex) ∧ (hyphenate hex).filter (· ≠ '-') = hex := by
  obtain ⟨f, rfl⟩ : ∃ f : Fin 32 → Char, hex = List.ofFn f :=
    ⟨fun i => hex[i], List.ext_getElem (by simp [hlength]) fun i _ h =>
      (List.getElem_ofFn h).symm⟩
  have hf : ∀ i, isLowerHex (f i) := fun i => hhex _ (List.mem_ofFn.mpr ⟨i, rfl⟩)
  have hf' : ∀ i, f i ≠ '-' := fun i => (isLowerHex_ascii (hf i)).2
  constructor
  · simp [isHyphenated, hyphenate, hyphens, List.ofFn_succ, hf]
  · simp [hyphenate, List.ofFn_succ, hf']

/-- The 128 bits of a document, in either spelling of its identifier. -/
def documentBits (documentId : String) : ℕ := spelled (documentId.toList.filter (· ≠ '-'))

/-- Digits in lower case spell the same number, from any accumulator. -/
theorem foldl_toLower (digits : List Char) (acc : ℕ) (h : ∀ c ∈ digits, isUpperHex c) :
    (digits.map Char.toLower).foldl (fun n c => 16 * n + digitValue c) acc =
      digits.foldl (fun n c => 16 * n + digitValue c) acc := by
  induction digits generalizing acc with
  | nil => rfl
  | cons c digits ih =>
    have hvalue := (toLower_of_isUpperHex (h c (List.mem_cons_self ..))).2.1
    rw [List.map_cons, List.foldl_cons, List.foldl_cons, hvalue]
    exact ih _ fun d hd => h d (List.mem_cons_of_mem _ hd)

/-- The host reads what the extension writes for a document as the 128 bits of the document. -/
theorem parseDocumentId_protocolDocumentId {documentId text : String}
    (h : protocolDocumentId documentId = some text) :
    ∃ id : Bytes 16, parseDocumentId text = some id ∧
      BigEndian.decode id.val = documentBits documentId ∧ ¬id.isZero := by
  unfold protocolDocumentId at h
  split at h
  · rename_i hdigits
    obtain ⟨hlength, hupper, hzero⟩ := hdigits
    obtain rfl := Option.some.inj h
    rw [List.all_eq_true] at hupper
    have hlower : ∀ c ∈ documentId.toList.map Char.toLower, isLowerHex c := by
      intro c hmem
      obtain ⟨d, hd, rfl⟩ := List.mem_map.mp hmem
      exact (toLower_of_isUpperHex (hupper d hd)).1
    have hnonzero : ∃ c ∈ documentId.toList.map Char.toLower, c ≠ '0' := by
      by_contra hall
      simp only [not_exists, not_and, not_not] at hall
      refine hzero (List.eq_replicate_iff.mpr ⟨hlength, fun c hc => ?_⟩)
      exact (toLower_of_isUpperHex (hupper c hc)).2.2 (hall _ (List.mem_map_of_mem hc))
    have hplain : documentId.toList.filter (· ≠ '-') = documentId.toList := by
      refine List.filter_eq_self.mpr fun c hc => ?_
      have hupper' := hupper c hc
      refine decide_eq_true ?_
      rintro rfl
      exact absurd hupper' (by decide)
    obtain ⟨hplaces, hsame⟩ := hyphenate_spec (by rw [List.length_map, hlength]) hlower
    rw [← hsame] at hnonzero
    obtain ⟨id, hid, hbits, hne⟩ := parseDocumentId_of_isHyphenated hplaces hnonzero
    refine ⟨id, hid, ?_, hne⟩
    rw [hbits, hsame, documentBits, hplain]
    exact foldl_toLower _ 0 hupper
  · split at h
    · rename_i hspelled
      obtain ⟨hplaces, hzero⟩ := hspelled
      obtain rfl := Option.some.inj h
      have hnonzero : ∃ c ∈ documentId.toList.filter (· ≠ '-'), c ≠ '0' := by
        by_contra hall
        simp only [not_exists, not_and, not_not] at hall
        apply hzero
        have hlength : documentId.toList.length = 36 := by
          simp only [isHyphenated, decide_eq_true_eq] at hplaces
          exact hplaces.1
        rw [← String.toList_inj]
        refine List.ext_getElem hlength fun i hi hi' => ?_
        have hzeros : ∀ i : Fin 36,
            "00000000-0000-0000-0000-000000000000".toList[i.val]? =
              some (if i.val ∈ hyphens then '-' else '0') := by decide
        have hplace : (documentId.toList[i], i) ∈ documentId.toList.zipIdx :=
          List.mem_zipIdx_iff_getElem?.mpr (List.getElem?_eq_getElem hi)
        have hzero' := hzeros ⟨i, hlength ▸ hi⟩
        rw [List.getElem?_eq_getElem hi', Option.some_inj] at hzero'
        obtain ⟨hmem, hc⟩ | ⟨hmem, -, hc⟩ := mem_zipIdx_of_isHyphenated hplaces hplace
        · rw [hc, hzero', if_pos hmem]
        · rw [hzero', if_neg hmem]
          exact hall _ (List.mem_filter.mpr ⟨List.getElem_mem hi, decide_eq_true hc⟩)
      obtain ⟨id, hid, hbits, hne⟩ := parseDocumentId_of_isHyphenated hplaces hnonzero
      rw [String.ofList_toList] at hid
      exact ⟨id, hid, hbits, hne⟩
    · cases h

/-! ## Messages -/

/-- What the derived structures make of a message of the extension. -/
theorem ofJson_fillRequest {requestId documentId : String} {context : BrowserDocumentContext}
    (hlow : 0 ≤ context.tabId) (hhigh : context.tabId ≤ 0x7fffffff) (hframe : context.frameId = 0) :
    BrowserRequest.ofJson (fillRequest requestId documentId context) = some
      { protocol_version := 2
        request_id := requestId
        operation := .fillSingle
        context := .exactHttps (UInt32.ofNat context.tabId.toNat) 0 documentId
          context.topLevelOrigin context.frameOrigin
        timeout_ms := 2000 } := by
  have htab : u32? (.number context.tabId) = some (UInt32.ofNat context.tabId.toNat) :=
    if_pos ⟨hlow, by omega⟩
  have hcontext : BrowserContext.ofJson (.object
      [("kind", .string "exactHttps"), ("tabId", .number context.tabId), ("frameId", .number 0),
        ("documentId", .string documentId), ("topLevelOrigin", .string context.topLevelOrigin),
        ("frameOrigin", .string context.frameOrigin)]) =
      some (.exactHttps (UInt32.ofNat context.tabId.toNat) 0 documentId context.topLevelOrigin
        context.frameOrigin) := by
    show (u32? (.number context.tabId)).bind _ = _
    rw [htab]
    rfl
  rw [fillRequest, hframe]
  show (BrowserContext.ofJson _).bind _ = _
  rw [hcontext]
  rfl

/-- What the two URL parsers have in common: the host parses an `https` URL of the browser, and
serialises its origin identically. The host's serialisation is ASCII, and an empty text is no URL. -/
structure SameOrigins (parse : String → Option Browser.Url)
    (parseUrl : String → Option Core.Url) : Prop where
  agree : ∀ value url, parse value = some url → url.protocol = "https:" →
    ∃ parsed, parseUrl value = some parsed ∧ parsed.scheme = "https" ∧ parsed.origin = url.origin
  ascii : ∀ value url, parseUrl value = some url → ∀ c ∈ url.origin.toList, c.toNat < 0x80
  empty : parseUrl "" = none

variable {parse : String → Option Browser.Url} {parseUrl : String → Option Core.Url}

/-- A character has at most as many UTF-16 units as it has bytes. -/
theorem units_le_utf8Size (c : Char) : (if c.toNat < 0x10000 then 1 else 2) ≤ c.utf8Size := by
  have hvalue : c.toNat = c.val.toNat := rfl
  have hpos := c.utf8Size_pos
  split
  · exact hpos
  · unfold Char.utf8Size
    rw [if_neg]
    · split_ifs <;> omega
    · intro hle
      have hle' : c.val.toNat ≤ 0x7f := UInt32.le_iff_toNat_le.mp hle
      omega

/-- JavaScript counts at least a unit for each character of a text, and at most one for each byte. -/
theorem length_bounds (text : String) :
    text.toList.length ≤ Browser.length text ∧ Browser.length text ≤ text.utf8ByteSize := by
  have hfold : ∀ (cs : List Char) (n : ℕ),
      n + cs.length ≤ cs.foldl (fun n c => n + if c.toNat < 0x10000 then 1 else 2) n ∧
        cs.foldl (fun n c => n + if c.toNat < 0x10000 then 1 else 2) n ≤
          n + (String.ofList cs).utf8ByteSize := by
    intro cs
    induction cs with
    | nil => exact fun n => ⟨Nat.le_refl _, Nat.le_refl _⟩
    | cons c cs ih =>
      intro n
      have hrest := ih (n + if c.toNat < 0x10000 then 1 else 2)
      have hunits := units_le_utf8Size c
      have hunit : 1 ≤ if c.toNat < 0x10000 then 1 else 2 := by split <;> omega
      rw [String.utf8ByteSize_ofList_cons]
      simp only [List.foldl_cons, List.length_cons]
      omega
  have htext := hfold text.toList 0
  rwa [Nat.zero_add, Nat.zero_add, String.ofList_toList] at htext

/-- An origin that the extension takes is canonical for the host, and not empty. -/
theorem SameOrigins.canonicalOrigin (h : SameOrigins parse parseUrl) {value : Option Json}
    {origin : String} (horigin : parseHttpsOrigin parse value = some origin) :
    canonicalOrigin parseUrl origin ∧ origin ≠ "" := by
  unfold parseHttpsOrigin at horigin
  split at horigin
  · cases horigin
  split_ifs at horigin with hlength
  split at horigin
  · cases horigin
  rename_i text _ _ parsed hparsed
  split_ifs at horigin with hchecks
  obtain ⟨hprotocol, hsame⟩ := not_or.mp hchecks
  rw [not_not] at hprotocol hsame
  obtain rfl := Option.some.inj horigin
  obtain ⟨url, hurl, hhttps, hsame'⟩ := h.agree text parsed hparsed hprotocol
  have hascii : ∀ c ∈ text.toList, c.toNat < 0x80 := by
    rw [← hsame, ← hsame']
    exact h.ascii text url hurl
  have hsize : text.utf8ByteSize ≤ 2048 := by
    have hbytes := String.utf8ByteSize_of_ascii hascii
    have hunits := (length_bounds text).1
    rw [String.ofList_toList] at hbytes
    have hmax : maxOriginBytes = 2048 := rfl
    omega
  constructor
  · simp only [NativeHost.canonicalOrigin, hurl, Option.any_some, decide_eq_true_eq]
    exact ⟨hsize, hhttps, hsame'.trans hsame⟩
  · rintro rfl
    rw [h.empty] at hurl
    cases hurl
/-- What the host makes of a document of the extension and the bytes of a request: the same bytes,
tab, identifier and origins. -/
structure SameDocument (id : Bytes 16) (context : BrowserDocumentContext)
    (read : Protocol.BrowserContext) : Prop where
  request_id : read.request_id = id
  tab_id : (read.tab_id.toNat : ℤ) = context.tabId
  document_id : BigEndian.decode read.document_id.val = documentBits context.documentId
  top_origin : read.top_origin = context.topLevelOrigin
  frame_origin : read.frame_origin = context.frameOrigin

/-- The host accepts what the extension posts for a document that it has validated. -/
theorem validateRequest_requestCredential (hurls : SameOrigins parse parseUrl)
    {sender currentFrame : Option Json} {extensionId : String} {context : BrowserDocumentContext}
    (h : validateBrowserDocument parse sender currentFrame extensionId = some context)
    {id : Bytes 16} (hid : ¬id.isZero) :
    ∃ message requestId read, requestCredential id context = some message ∧
      createRequestId id = some requestId ∧ SameDocument id context read ∧
      ∀ readJson bytes, readJson bytes = some message →
        validateRequest readJson parseUrl bytes = .ok ⟨requestId, 2000, some read⟩ := by
  obtain ⟨hidentity, horigin, hframe, hsame⟩ := validateBrowserDocument_eq_some h
  obtain ⟨-, ⟨hlow, hhigh⟩, hsome⟩ := validateIdentity_eq_some hidentity
  obtain ⟨documentId, hdocument⟩ := Option.isSome_iff_exists.mp hsome
  obtain ⟨requestId, hrequest, hvalid, hread⟩ := createRequestId_parseHexId hid
  obtain ⟨document, hparsed, hbits, hnonzero⟩ := parseDocumentId_protocolDocumentId hdocument
  obtain ⟨hcanonical, hnonempty⟩ := hurls.canonicalOrigin horigin
  have htab : (UInt32.ofNat context.tabId.toNat).toNat = context.tabId.toNat :=
    UInt32.toNat_ofNat_of_lt (by simp [UInt32.size]; omega)
  have hbound : ¬UInt32.ofNat context.tabId.toNat > 0x7fffffff := by
    intro hlt
    have hlt' := UInt32.lt_iff_toNat_lt.mp hlt
    have hmax : (0x7fffffff : UInt32).toNat = 0x7fffffff := rfl
    omega
  have hsize : ¬context.topLevelOrigin.utf8ByteSize > 2048 := by
    simp only [canonicalOrigin, decide_eq_true_eq] at hcanonical
    exact not_lt.mpr hcanonical.1
  have haccepted : ¬(id.isZero ∨ document.isZero ∨ UInt32.ofNat context.tabId.toNat > 0x7fffffff ∨
      context.topLevelOrigin = "" ∨ context.topLevelOrigin ≠ context.topLevelOrigin) := by
    simp only [not_or]
    exact ⟨hid, hnonzero, hbound, hnonempty, not_not.mpr rfl⟩
  have hbounded : ¬(context.topLevelOrigin.utf8ByteSize > 2048 ∨
      context.topLevelOrigin.utf8ByteSize > 2048) := by
    rw [or_self]
    exact hsize
  have hnew : Protocol.BrowserContext.new id (UInt32.ofNat context.tabId.toNat) 0 document
      context.topLevelOrigin context.topLevelOrigin =
        .ok ⟨id, UInt32.ofNat context.tabId.toNat, document, context.topLevelOrigin,
          context.topLevelOrigin, haccepted, hbounded⟩ := by
    unfold Protocol.BrowserContext.new
    rw [dif_neg haccepted, if_neg (by decide), dif_neg hbounded]
  refine ⟨fillRequest requestId documentId context, requestId,
    ⟨id, UInt32.ofNat context.tabId.toNat, document, context.topLevelOrigin,
      context.topLevelOrigin, haccepted, hbounded⟩, ?_, hrequest,
    ⟨rfl, ?_, hbits, rfl, hsame.symm⟩, ?_⟩
  · rw [requestCredential, hdocument, hrequest]
  · show ((UInt32.ofNat context.tabId.toNat).toNat : ℤ) = context.tabId
    omega
  intro readJson bytes hmessage
  have hcontext : fillContext parseUrl requestId .fillSingle (.exactHttps
      (UInt32.ofNat context.tabId.toNat) 0 documentId context.topLevelOrigin
      context.frameOrigin) = some (some ⟨id, UInt32.ofNat context.tabId.toNat, document,
        context.topLevelOrigin, context.topLevelOrigin, haccepted, hbounded⟩) := by
    simp only [fillContext, hread, hparsed, hsame, hcanonical, and_self, if_true, hnew]
    rfl
  unfold validateRequest
  rw [hmessage, Option.bind_some, ofJson_fillRequest hlow hhigh hframe]
  simp only [Option.okOr, Except.ok_bind, hcontext, BrowserRequest.validId, hvalid, if_true]
  rfl

end Librarian.NativeHost
