import Manifest.Json.Value
import Manifest.Text.Blank
import Manifest.Text.Case
import Manifest.Text.Distinct
import Manifest.Text.Split

/-!
# Token lists

Keywords, platforms, frameworks and host systems are lists of tokens, written as one text with
commas or as a sequence of texts. Each of them has its normal form here. A value of any other shape
is left as it is, for validation to report. A normal form of `none` leaves the field out.
-/

namespace Manifest.Normal

open Json (Value)

/-- The token for every platform, framework or system. -/
def wildcard : String :=
  "*"

/-- The former names of platforms, each with the platform's name of today. -/
def platformAliases : List (String × String) :=
  [("avr", "atmelavr"),
   ("sam", "atmelsam"),
   ("samd", "atmelsam"),
   ("esp8266", "espressif8266"),
   ("esp32", "espressif32"),
   ("arc32", "intel_arc32"),
   ("stm32", "ststm32"),
   ("espressif", "espressif8266")]

/-- The platform that a token names. A token without an alias names itself. -/
def platform (token : String) : String :=
  (platformAliases.lookup token).getD token

/-- The texts without blanks at their ends, less those that are blank. -/
def nonBlank (texts : List String) : List String :=
  (texts.map Text.trim).filter fun t => t ≠ ""

/-- The tokens of a comma-separated text or of a sequence of texts. -/
def tokens? : Value → Option (List String)
  | .string s => some (nonBlank (Text.split ',' s))
  | .array items => (items.mapM Value.text?).map nonBlank
  | _ => none

/-- A list of tokens as a value, unless it is empty. -/
def present? (tokens : List String) : Option Value :=
  if tokens.isEmpty then none else some (Value.strings tokens)

/-- The normal form of keywords: lower-case and distinct. -/
def keywords (v : Value) : Option Value :=
  match tokens? v with
  | none => some v
  | some tokens => present? (Text.firstSeen (tokens.map Text.lower))

/-- The normal form of target names, which `resolve` maps in lower case. The wildcard makes all
others superfluous. -/
def targets (resolve : String → String) (v : Value) : Option Value :=
  match tokens? v with
  | none => some v
  | some tokens =>
    let names := tokens.map fun t => resolve (Text.lower t)
    if names.contains wildcard then some (Value.strings [wildcard])
    else present? (Text.firstSeen names)

/-- The normal form of platforms. -/
def platforms : Value → Option Value :=
  targets platform

/-- The normal form of frameworks. -/
def frameworks : Value → Option Value :=
  targets id

/-- The normal form of host systems. The wildcard alone stands for no restriction. -/
def system (v : Value) : Option Value :=
  match tokens? v with
  | none => some v
  | some tokens =>
    let names := tokens.map Text.lower
    if names = [wildcard] then none else some (Value.strings (Text.firstSeen names))

end Manifest.Normal
