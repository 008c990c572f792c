import Manifest.Format.Document
import Manifest.Normal.Fields

/-!
# The native library format

A JSON document with the fields of a record. Former versions of it kept the page under `url` and the
publishing rules at the top level.
-/

namespace Manifest.Format.Library

open Json (Members Pairs Value)

/-- The address of the repository, given as a text or as a member. -/
def repositoryAddress? (fields : Members) : Option String :=
  match fields.get? "repository" with
  | some (.string url) => some (Text.trim url)
  | some (.object repository) => ((Pairs.find? "url" repository).bind Value.text?).map Text.trim
  | _ => none

/-- Whether a page is the repository. -/
def isRepository (fields : Members) (url : Value) : Bool :=
  match url.text? with
  | some s => repositoryAddress? fields == some (Text.trim s)
  | none => false

/-- Moves a former `url` to the page, unless a page is set or the url is the repository. -/
def foldUrl (fields : Members) : Members :=
  match fields.get? "url" with
  | none => fields
  | some url =>
    let others := fields.erase "url"
    if isRepository others url then others
    else if isUnset others "homepage" then others.insert "homepage" url
    else others

/-- Moves a top-level rule into the publishing rules, unless they have that rule. If there are
publishing rules that are not an object, the top-level rule is dropped. -/
def foldRule (fields : Members) (name : String) : Members :=
  match fields.get? name with
  | none => fields
  | some rule =>
    let others := fields.erase name
    match others.get? "export" with
    | none => others.insert "export" (.object [(name, rule)])
    | some (.object rules) =>
      others.insert "export" (.object (Pairs.insertNew name rule rules))
    | some _ => others

/-- The fields in terms of today's names. -/
def folded (fields : Members) : Members :=
  ["include", "exclude"].foldl foldRule (foldUrl fields)

/-- Reads a native library manifest. -/
def parse (contents : String) : Except Failure Members :=
  (members .libraryJson contents).map fun fields => Normal.fields (folded fields)

end Manifest.Format.Library
