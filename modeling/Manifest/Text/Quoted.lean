import Manifest.Text.MarkData
import Manifest.Text.PrintData

/-!
# Quoted text

A text between double quotes on one line, as messages show it. Quotes, backslashes and control
characters are escaped, and so is every character that has no printed form of its own.
-/

namespace Manifest.Text

/-- The digits of a number in lower-case hexadecimal. -/
def hexDigits (n : Nat) : List Char :=
  Nat.toDigits 16 n

/-- One character inside quotes. -/
def quotedChar (c : Char) : List Char :=
  if c = '"' then ['\\', '"']
  else if c = '\\' then ['\\', '\\']
  else if c = '\n' then ['\\', 'n']
  else if c = '\r' then ['\\', 'r']
  else if c = '\t' then ['\\', 't']
  else if c = '\x00' then ['\\', '0']
  else if inSpans c.toNat graphemeExtendSpans || inSpans c.toNat unprintableSpans then
    ['\\', 'u', '\x7b'] ++ hexDigits c.toNat ++ ['\x7d']
  else [c]

/-- A text between double quotes. -/
def quoted (s : String) : String :=
  String.ofList (['"'] ++ s.toList.flatMap quotedChar ++ ['"'])

end Manifest.Text
