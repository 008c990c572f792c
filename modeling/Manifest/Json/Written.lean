import Manifest.Json.Value
import Manifest.Number.Shortest

/-!
# Written JSON

The text of a value: compact on one line, or indented by two blanks a level. Only quotes,
backslashes and control characters are escaped in strings.
-/

namespace Manifest.Json

/-- Two hexadecimal digits of a number below 256. -/
def hexPair (n : Nat) : List Char :=
  [Nat.digitChar (n / 16), Nat.digitChar (n % 16)]

/-- One character inside a JSON string. -/
def escapedChar (c : Char) : List Char :=
  if c = '"' then ['\\', '"']
  else if c = '\\' then ['\\', '\\']
  else if c = '\n' then ['\\', 'n']
  else if c = '\r' then ['\\', 'r']
  else if c = '\t' then ['\\', 't']
  else if c = '\x08' then ['\\', 'b']
  else if c = '\x0c' then ['\\', 'f']
  else if c.toNat < 0x20 then ['\\', 'u', '0', '0'] ++ hexPair c.toNat
  else [c]

/-- A text as a JSON string. -/
def writtenString (s : String) : List Char :=
  '"' :: s.toList.flatMap escapedChar ++ ['"']

/-- The text of a number. -/
def Number.written : Number → List Char
  | integer n => (toString n).toList
  | binary x => x.text

namespace Value

mutual

/-- The compact text of a value. -/
def written : Value → List Char
  | null => "null".toList
  | bool true => "true".toList
  | bool false => "false".toList
  | number n => n.written
  | string s => writtenString s
  | array items => '[' :: writtenItems items ++ [']']
  | object members => '\x7b' :: writtenMembers members ++ ['\x7d']

/-- The compact texts of items, with commas between them. -/
def writtenItems : List Value → List Char
  | [] => []
  | [x] => written x
  | x :: xs => written x ++ ',' :: writtenItems xs

/-- The compact texts of members, with commas between them. -/
def writtenMembers : List (String × Value) → List Char
  | [] => []
  | [(k, x)] => writtenString k ++ ':' :: written x
  | (k, x) :: xs => writtenString k ++ ':' :: written x ++ ',' :: writtenMembers xs

end

/-- The compact text of a value. -/
def compact (v : Value) : String :=
  String.ofList v.written

/-- A line break and the indentation of a level. -/
def lineBreak (level : Nat) : List Char :=
  '\n' :: List.replicate (2 * level) ' '

mutual

/-- The indented text of a value that stands at a level. -/
def indented (level : Nat) : Value → List Char
  | null => "null".toList
  | bool true => "true".toList
  | bool false => "false".toList
  | number n => n.written
  | string s => writtenString s
  | array [] => ['[', ']']
  | array (x :: xs) => '[' :: indentedItems (level + 1) (x :: xs) ++ lineBreak level ++ [']']
  | object [] => ['\x7b', '\x7d']
  | object (x :: xs) =>
    '\x7b' :: indentedMembers (level + 1) (x :: xs) ++ lineBreak level ++ ['\x7d']

/-- Items on lines of their own. -/
def indentedItems (level : Nat) : List Value → List Char
  | [] => []
  | [x] => lineBreak level ++ indented level x
  | x :: xs => lineBreak level ++ indented level x ++ ',' :: indentedItems level xs

/-- Members on lines of their own. -/
def indentedMembers (level : Nat) : List (String × Value) → List Char
  | [] => []
  | [(k, x)] => lineBreak level ++ writtenString k ++ ':' :: ' ' :: indented level x
  | (k, x) :: xs =>
    lineBreak level ++ writtenString k ++ ':' :: ' ' :: indented level x ++
      ',' :: indentedMembers level xs

end

/-- The indented text of a value. -/
def pretty (v : Value) : String :=
  String.ofList (v.indented 0)

end Value

end Manifest.Json
