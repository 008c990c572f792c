import Manifest.Number.Binary64

/-!
# JSON values

The values that a JSON document denotes. An integer and a binary number are different values even
when they are numerically equal. The members of an object stand in the order of their names, each
name once.
-/

namespace Manifest.Json

/-- A number: an integer of at most 64 bits, or anything else rounded to binary64. -/
inductive Number where
  /-- An integer, written without point and exponent. -/
  | integer (value : Int)
  /-- A binary number. -/
  | binary (value : Binary64)
  deriving DecidableEq, Repr

/-- Numeric equality within one kind of number. The two binary zeros are equal. -/
def Number.equal : Number → Number → Bool
  | integer x, integer y => x == y
  | binary x, binary y => x.equal y
  | _, _ => false

/-- A JSON value. -/
inductive Value where
  /-- The null value. -/
  | null
  /-- A truth value. -/
  | bool (value : Bool)
  /-- A number. -/
  | number (value : Number)
  /-- A text. -/
  | string (value : String)
  /-- A sequence. -/
  | array (items : List Value)
  /-- An object, as its members by rising name. -/
  | object (members : List (String × Value))
  deriving Inhabited, Repr

namespace Value

/-- The text of a string. -/
def text? : Value → Option String
  | string s => some s
  | _ => none

/-- Whether a value is null. -/
def isNull : Value → Bool
  | null => true
  | _ => false

/-- The sequence of texts as a value. -/
def strings (items : List String) : Value :=
  array (items.map string)

mutual

/-- Equality of values, with numbers compared numerically. -/
def equal : Value → Value → Bool
  | null, null => true
  | bool x, bool y => x == y
  | number x, number y => x.equal y
  | string x, string y => x == y
  | array xs, array ys => equalItems xs ys
  | object xs, object ys => equalMembers xs ys
  | _, _ => false

/-- Equality of sequences, item by item. -/
def equalItems : List Value → List Value → Bool
  | [], [] => true
  | x :: xs, y :: ys => equal x y && equalItems xs ys
  | _, _ => false

/-- Equality of objects, member by member. -/
def equalMembers : List (String × Value) → List (String × Value) → Bool
  | [], [] => true
  | (k, x) :: xs, (l, y) :: ys => k == l && equal x y && equalMembers xs ys
  | _, _ => false

end

end Value

end Manifest.Json
