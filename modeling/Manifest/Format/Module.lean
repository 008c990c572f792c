import Manifest.Format.Document
import Manifest.Normal.Fields

/-!
# Modules

JSON documents of the mbed world. Some fields are taken over, the licence may be the first of a
list, and the authors may be one text. What is not said has a default.
-/

namespace Manifest.Format.Module

open Json (Members Pairs Value)

/-- The fields that are taken over. -/
def takenOver : List String :=
  ["name", "version", "description", "keywords", "homepage", "repository", "license", "platforms",
    "frameworks", "export", "examples"]

/-- The files that are not published unless something else is said. -/
def defaultExclude : List String :=
  ["tests", "test", "*.doxyfile", "*.pdf"]

/-- The licence named by an item of a list of licences. -/
def licenseOfItem? : Value → Option String
  | .object entry => (Pairs.find? "type" entry).bind Value.text?
  | .string name => some name
  | _ => none

/-- The licence named by a list of licences: that of its first item, unless it is blank. -/
def firstLicense? : Value → Option String
  | .array (item :: _) => ((licenseOfItem? item).map Text.trim).filter (· ≠ "")
  | _ => none

/-- The authors in the form in which they are normalized. -/
def authors? : Value → Option Value
  | .string s =>
    let found := Normal.authorsOfText s false
    if found.isEmpty then none else some (.array found)
  | .null => none
  | other => some other

/-- The member that names the authors. -/
def authorMember? (document : Members) : Option Value :=
  (document.get? "author").or (document.get? "authors")

/-- The fields that are taken over, less those that are null. -/
def taken (document : Members) : Members :=
  takenOver.foldl (fun fields name =>
    fields.insertSome name ((document.get? name).filter fun v => !v.isNull)) Members.empty

/-- Adds the licence of a list, unless there is a licence. -/
def withLicense (document fields : Members) : Members :=
  if (fields.get? "license").isSome then fields
  else
    fields.insertSome "license" (((document.get? "licenses").bind firstLicense?).map Value.string)

/-- Adds what is not said. -/
def withDefaults (fields : Members) : Members :=
  ((fields.insertNew "platforms" (Value.strings ["*"])).insertNew "frameworks"
    (Value.strings ["mbed"])).insertNew "export"
      (.object [("exclude", Value.strings defaultExclude)])

/-- The fields of a document, before they are normalized. -/
def ofDocument (document : Members) : Members :=
  withDefaults ((withLicense document (taken document)).insertSome "authors"
    ((authorMember? document).bind authors?))

/-- Reads a module manifest. -/
def parse (contents : String) : Except Failure Members :=
  (members .moduleJson contents).map fun document => Normal.fields (ofDocument document)

end Manifest.Format.Module
