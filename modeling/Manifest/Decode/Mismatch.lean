import Manifest.Json.Written
import Manifest.Text.Quoted

/-!
# Mismatches

Why a JSON value does not have the shape that a part of a record needs.
-/

namespace Manifest

open Json (Value)

/-- Why a value does not have the expected shape. -/
inductive Mismatch where
  /-- A value of the wrong type. -/
  | wrongType (found : Value) (expected : String)
  /-- An object that does not hold exactly one member where one names a variant. -/
  | notOneMember
  /-- A sequence that ends before a field that has no default. -/
  | tooShort (length : Nat) (expected : String)
  /-- A sequence with more items than there are fields. -/
  | tooLong (length : Nat)
  /-- An object without a member that has no default. -/
  | missingMember (name : String)
  /-- A name that is none of the known ones. -/
  | unknownVariant (name : String) (known : List String)

namespace Mismatch

/-- How a message names a value. -/
def described : Value → String
  | .null => "null"
  | .bool true => "boolean `true`"
  | .bool false => "boolean `false`"
  | .number (.integer n) => "integer `" ++ toString n ++ "`"
  | .number (.binary x) => "floating point `" ++ String.ofList x.text ++ "`"
  | .string s => "string " ++ Text.quoted s
  | .array _ => "sequence"
  | .object _ => "map"

/-- The known names as alternatives. -/
def alternatives : List String → String
  | [x] => "`" ++ x ++ "`"
  | [x, y] => "`" ++ x ++ "` or `" ++ y ++ "`"
  | names => "one of " ++ ", ".intercalate (names.map fun x => "`" ++ x ++ "`")

/-- What a mismatch says. -/
def message : Mismatch → String
  | wrongType found expected => "invalid type: " ++ described found ++ ", expected " ++ expected
  | notOneMember => "invalid value: map, expected map with a single key"
  | tooShort length expected => "invalid length " ++ toString length ++ ", expected " ++ expected
  | tooLong length =>
    "invalid length " ++ toString length ++ ", expected fewer elements in array"
  | missingMember name => "missing field `" ++ name ++ "`"
  | unknownVariant name known =>
    "unknown variant `" ++ name ++ "`, expected " ++ alternatives known

end Mismatch

end Manifest
