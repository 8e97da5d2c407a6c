import Mathlib.Data.Int.Notation
import Mathlib.Data.Nat.Notation

/-!
# JSON values

What a JSON text stands for, and how a program looks into it.
-/

/-- A JSON value. The members of an object stand in its order. -/
inductive Json
  | null
  | bool (value : Bool)
  | number (value : ℤ)
  /-- A number that is not an integer. -/
  | fraction
  | string (value : String)
  | array (items : List Json)
  | object (members : List (String × Json))

namespace Json

/-- The members of an object; other values have none. -/
def members : Json → List (String × Json)
  | object members => members
  | _ => []

/-- A member of an object. -/
def get? (value : Json) (key : String) : Option Json := value.members.lookup key

def isObject : Json → Bool
  | object _ => true
  | _ => false

@[simp] theorem members_object (members : List (String × Json)) :
    (object members).members = members := rfl

@[simp] theorem isObject_object (members : List (String × Json)) :
    (object members).isObject = true := rfl

/-- The text of a string. -/
def string? : Option Json → Option String
  | some (string value) => some value
  | _ => none

/-- The value of an integer. -/
def number? : Option Json → Option ℤ
  | some (number value) => some value
  | _ => none

/-- The value of a Boolean. -/
def bool? : Option Json → Option Bool
  | some (bool value) => some value
  | _ => none

@[simp] theorem string?_string (value : String) : string? (some (string value)) = some value := rfl

@[simp] theorem number?_number (value : ℤ) : number? (some (number value)) = some value := rfl

@[simp] theorem bool?_bool (value : Bool) : bool? (some (bool value)) = some value := rfl

end Json
