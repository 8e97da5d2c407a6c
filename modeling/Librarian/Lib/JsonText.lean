import Librarian.Lib.Json
import Mathlib.Tactic.Common

/-!
# The text of a JSON object

The compact text of an object whose members are scalars, with the escapes that a serialiser makes,
and how long it can be: a text of `n` bytes takes at most `6 * n + 2` of them.
-/

namespace String

/-- A text of one more character is longer by its encoding. -/
theorem utf8ByteSize_ofList_cons (c : Char) (cs : List Char) :
    (ofList (c :: cs)).utf8ByteSize = c.utf8Size + (ofList cs).utf8ByteSize := by
  rw [ofList_cons, utf8ByteSize_append, utf8ByteSize_singleton]

/-- An ASCII text has a byte for each character. -/
theorem utf8ByteSize_of_ascii {cs : List Char} (h : ∀ c ∈ cs, c.toNat < 0x80) :
    (ofList cs).utf8ByteSize = cs.length := by
  induction cs with
  | nil => rfl
  | cons c cs ih =>
    have hc : c.val.toNat < 0x80 := h c (List.mem_cons_self ..)
    have hsize : c.utf8Size = 1 := by
      unfold Char.utf8Size
      rw [if_pos (UInt32.le_iff_toNat_le.mpr (Nat.le_of_lt_succ hc))]
    have hrest := ih fun d hd => h d (List.mem_cons_of_mem _ hd)
    rw [utf8ByteSize_ofList_cons, List.length_cons]
    omega

end String

namespace Json

/-- A value that is not made of others. -/
inductive Scalar
  | null
  | number (value : ℕ)
  | string (value : String)
  deriving DecidableEq, Repr

/-- The value that a scalar is. -/
def Scalar.toJson : Scalar → Json
  | null => .null
  | number value => .number value
  | string value => .string value

/-! ## Texts -/

/-- A hexadecimal digit. -/
def digit (value : ℕ) : Char :=
  if value < 10 then Char.ofNat (48 + value) else Char.ofNat (87 + value)

/-- A character of a text, or its escape. -/
def escape (c : Char) : List Char :=
  if c = '"' then ['\\', '"']
  else if c = '\\' then ['\\', '\\']
  else if c.toNat = 0x08 then ['\\', 'b']
  else if c.toNat = 0x0c then ['\\', 'f']
  else if c.toNat = 0x0a then ['\\', 'n']
  else if c.toNat = 0x0d then ['\\', 'r']
  else if c.toNat = 0x09 then ['\\', 't']
  else if c.toNat < 0x20 then ['\\', 'u', '0', '0', digit (c.toNat / 16), digit (c.toNat % 16)]
  else [c]

/-- A text between its quotation marks. -/
def quote (text : String) : String :=
  "\"" ++ String.ofList (text.toList.flatMap escape) ++ "\""

/-- The text of a scalar. -/
def Scalar.write : Scalar → String
  | null => "null"
  | number value => toString value
  | string value => quote value

/-- A member of an object. -/
def writeMember (key : String) (value : Scalar) : String := quote key ++ ":" ++ value.write

/-- The members of an object, with commas between them. -/
def writeMembers : List (String × Scalar) → String
  | [] => ""
  | [(key, value)] => writeMember key value
  | (key, value) :: members => writeMember key value ++ "," ++ writeMembers members

/-- The compact text of an object. -/
def writeObject (members : List (String × Scalar)) : String :=
  "\x7b" ++ writeMembers members ++ "\x7d"

/-- The object with these members. -/
def ofMembers (members : List (String × Scalar)) : Json :=
  .object (members.map fun (key, value) => (key, value.toJson))

/-! ## Their lengths -/

/-- A digit is an ASCII character. -/
theorem digit_toNat_lt {value : ℕ} (h : value < 16) : (digit value).toNat < 0x80 := by
  have hall : ∀ n : Fin 16, (digit n).toNat < 0x80 := by decide
  exact hall ⟨value, h⟩

/-- An escape takes at most six bytes for each byte of its character. -/
theorem escape_size (c : Char) : (String.ofList (escape c)).utf8ByteSize ≤ 6 * c.utf8Size := by
  have hc : 0 < c.utf8Size := c.utf8Size_pos
  unfold escape
  split_ifs with hquote hslash hb hf hn hr ht hcontrol
  all_goals first
    | exact (show (2 : ℕ) ≤ 6 * c.utf8Size by omega)
    | skip
  · have hsize : (String.ofList ['\\', 'u', '0', '0', digit (c.toNat / 16),
        digit (c.toNat % 16)]).utf8ByteSize = 6 := by
      apply String.utf8ByteSize_of_ascii
      intro d hd
      have hhigh : (digit (c.toNat / 16)).toNat < 0x80 := digit_toNat_lt (by omega)
      have hlow : (digit (c.toNat % 16)).toNat < 0x80 := digit_toNat_lt (by omega)
      simp only [List.mem_cons, List.not_mem_nil, or_false] at hd
      rcases hd with rfl | rfl | rfl | rfl | rfl | rfl <;> first | decide | assumption
    omega
  · rw [String.utf8ByteSize_ofList_cons]
    have hnil : (String.ofList []).utf8ByteSize = 0 := rfl
    omega

/-- A quoted text takes at most six bytes for each of its own, and two for the marks. -/
theorem quote_size (text : String) : (quote text).utf8ByteSize ≤ 6 * text.utf8ByteSize + 2 := by
  have hchars : ∀ cs : List Char, (String.ofList (cs.flatMap escape)).utf8ByteSize ≤
      6 * (String.ofList cs).utf8ByteSize := by
    intro cs
    induction cs with
    | nil => exact Nat.le_refl _
    | cons c cs ih =>
      have hc := escape_size c
      rw [List.flatMap_cons, String.ofList_append, String.utf8ByteSize_append,
        String.utf8ByteSize_ofList_cons]
      omega
  have htext := hchars text.toList
  rw [String.ofList_toList] at htext
  have hmark : ("\"" : String).utf8ByteSize = 1 := rfl
  unfold quote
  rw [String.utf8ByteSize_append, String.utf8ByteSize_append]
  omega

end Json
