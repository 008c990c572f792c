import Manifest.Json.Members
import Manifest.Text.Basic
import Manifest.Text.Blank
import Manifest.Text.Split

/-!
# Property lists

Lines of the form `key=value`. Blank lines, lines without an equals sign and comments are skipped. A
backslash at the end of a line joins the next line to it.
-/

namespace Manifest.Format.Properties

open Json (Pairs)

/-- The text before a backslash at the end. -/
def continued? (line : List Char) : Option (List Char) :=
  match line.getLast? with
  | some '\\' => some line.dropLast
  | _ => none

/-- Joins continued lines, where `pending` is what the lines before have left open. The last line
cannot be continued. -/
def joinLines (pending : List Char) : List (List Char) → List (List Char)
  | [] => []
  | line :: rest =>
    let text := Text.trimmed line
    -- Within a continued line, blank lines and comments are text like any other.
    if pending.isEmpty && (text.isEmpty || text.head? == some '#') then joinLines pending rest
    else
      match continued? text with
      | some front =>
        if rest.isEmpty then [pending ++ front] else joinLines (pending ++ front) rest
      | none => (pending ++ text) :: joinLines [] rest

/-- The key and the value in a line, unless one of them is blank. -/
def entry? (line : List Char) : Option (String × String) :=
  match Text.cut '=' line with
  | none => none
  | some (key, value) =>
    let key := Text.trimmed key
    let value := Text.trimmed value
    if key.isEmpty || value.isEmpty then none
    else some (String.ofList key, String.ofList value)

/-- The entries of a text in the order of their lines. -/
def entries (contents : String) : List (String × String) :=
  (joinLines [] (Text.lines (Text.dropByteOrderMark contents.toList))).filterMap entry?

/-- The properties that a text gives, by rising key. A later entry replaces an earlier one of its
key. -/
def read (contents : String) : Pairs String :=
  (entries contents).foldl (fun properties (key, value) => properties.insert key value) []

end Manifest.Format.Properties
