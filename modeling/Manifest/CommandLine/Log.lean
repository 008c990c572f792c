/-!
# Log lines

How much a run reports besides its output, and the lines in which it does.
-/

namespace Manifest.CommandLine

/-- How much is reported. -/
inductive Level where
  /-- Nothing. -/
  | off
  /-- Errors. -/
  | error
  /-- Warnings too. -/
  | warn
  /-- Information too. -/
  | info
  /-- Notes on what is done, too. -/
  | debug
  /-- Everything. -/
  | trace
  deriving DecidableEq, Repr

namespace Level

/-- The rank of a level: more is reported at a higher one. -/
def rank : Level → Nat
  | off => 0
  | error => 1
  | warn => 2
  | info => 3
  | debug => 4
  | trace => 5

/-- Whether what has the level `message` is reported at this level. -/
def reports (level message : Level) : Bool :=
  message.rank ≤ level.rank

/-- The level that a text names, in any letter case or by its rank. The empty text names the level
of errors. Any other text counts as off: that is right for the name of a part that does not exist, while
filters that set levels for parts, and texts that are no filter at all, are not told apart from it. -/
def ofText (text : String) : Level :=
  let name := text.toList.map Char.toLower
  let named := [("off", off), ("error", error), ("warn", warn), ("info", info), ("debug", debug),
    ("trace", trace), ("0", off), ("1", error), ("2", warn), ("3", info), ("4", debug),
    ("5", trace), ("", error)].find? fun (key, _) => key.toList == name
  (named.map (·.2)).getD off

end Level

/-- One character of a log line. Characters that steer a terminal are written as escapes. -/
def logChar (c : Char) : List Char :=
  if c = '\x1b' then "\\x1b".toList
  else if c = '\x07' then "\\x07".toList
  else if c = '\x08' then "\\x08".toList
  else if c = '\x0c' then "\\x0c".toList
  else if c = '\x7f' then "\\x7f".toList
  else if 0x80 ≤ c.toNat ∧ c.toNat ≤ 0x9F then
    ['\\', 'u', '\x7b'] ++ Nat.toDigits 16 c.toNat ++ ['\x7d']
  else [c]

/-- A log line with a label in front. -/
def logLine (label message : String) : String :=
  label ++ " " ++ String.ofList (message.toList.flatMap logChar)

end Manifest.CommandLine
