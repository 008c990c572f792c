import Manifest.Text.Basic

/-!
# Percent encoding

Bytes written as a percent sign and two hexadecimal digits, in paths and in hosts.
-/

namespace Manifest.Url

/-- A byte as a percent sign and two digits. -/
def encodedByte (b : UInt8) : List Char :=
  ['%', (Nat.digitChar (b.toNat / 16)).toUpper, (Nat.digitChar (b.toNat % 16)).toUpper]

/-- The text with the bytes of every character that `picked` holds of encoded. -/
def encoded (picked : Char → Bool) (cs : List Char) : List Char :=
  cs.flatMap fun c => if picked c then (String.utf8EncodeChar c).flatMap encodedByte else [c]

/-- Whether a character is a control character or not in ASCII. -/
def isControl (c : Char) : Bool :=
  c.toNat < 0x20 || 0x7F ≤ c.toNat

/-- Whether a character is encoded in a path. -/
def isEncodedInPath (c : Char) : Bool :=
  isControl c || [' ', '"', '#', '<', '>', '?', '`', '\x7b', '\x7d'].contains c

/-- The bytes of a text, with every encoded byte replaced by the byte itself. A percent sign without
two digits behind it stands for itself. -/
def decodedBytes : List Char → List UInt8
  | [] => []
  | '%' :: a :: b :: rest =>
    match Text.hexDigit? a, Text.hexDigit? b with
    | some x, some y => UInt8.ofNat (16 * x + y) :: decodedBytes rest
    | _, _ => String.utf8EncodeChar '%' ++ decodedBytes (a :: b :: rest)
  | c :: rest => String.utf8EncodeChar c ++ decodedBytes rest

/-- The text with every encoded byte replaced by the byte itself, if the bytes form a text. -/
def decoded? (cs : List Char) : Option (List Char) :=
  if cs.contains '%' then
    (String.fromUTF8? ⟨(decodedBytes cs).toArray⟩).map String.toList
  else some cs

end Manifest.Url
