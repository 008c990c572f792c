import Manifest.Load

/-!
# Notes

What loading a manifest remarks on as it goes, without any effect on the outcome.
-/

namespace Manifest

open Json (Members)

/-- A remark. -/
inductive Note where
  /-- A document of so many bytes is read as a manifest of a kind. -/
  | reading (kind : Kind) (bytes : Nat)
  /-- A former `url` that is the repository is dropped. -/
  | droppedUrl
  /-- A top-level rule is dropped because the publishing rules are not an object. -/
  | droppedRule (name : String)
  /-- A former field is moved. -/
  | renamed (former name : String)
  /-- The list of licences is not a sequence. -/
  | licensesNotList
  /-- A maintainer is no author and becomes one. -/
  | addedMaintainer (name : String)
  /-- A field has an error. -/
  | rejected (cause : FieldError)
  /-- The page is the repository and is dropped. -/
  | droppedHomepage

namespace Note

/-- What a note says. -/
def message : Note → String
  | reading kind bytes => "parsing " ++ kind.name ++ " manifest (" ++ toString bytes ++ " bytes)"
  | droppedUrl => "dropping legacy `url` equal to the repository url"
  | droppedRule name => "ignoring top-level `" ++ name ++ "`: `export` is not an object"
  | renamed former name => "renaming legacy field `" ++ former ++ "` to `" ++ name ++ "`"
  | licensesNotList => "ignoring `licenses`: not a sequence"
  | addedMaintainer name => "adding maintainer '" ++ name ++ "' missing from author list"
  | rejected cause => "field `" ++ cause.field.label ++ "` rejected: " ++ cause.message
  | droppedHomepage => "dropping homepage that duplicates the repository url"

/-! ## Reading a document -/

/-- The notes on moving a former `url` to the page. -/
def onUrl (fields : Members) : List Note :=
  match fields.get? "url" with
  | some url =>
    if Format.Library.isRepository (fields.erase "url") url then [droppedUrl] else []
  | none => []

/-- The notes on moving a top-level rule. -/
def onRule (fields : Members) (name : String) : List Note :=
  match fields.get? name, fields.get? "export" with
  | some _, some (.object _) => []
  | some _, some _ => [droppedRule name]
  | _, _ => []

/-- The notes on the former field names of a native library manifest. -/
def onLibrary (fields : Members) : List Note :=
  let moved := Format.Library.foldUrl fields
  onUrl fields ++ onRule moved "include" ++
    onRule (Format.Library.foldRule moved "include") "exclude"

/-- The notes on moving a former field. -/
def onRename (former name : String) (fields : Members) : List Note :=
  if (fields.get? former).isSome ∧ Format.isUnset (fields.erase former) name then
    [renamed former name]
  else []

/-- The notes on a module manifest. -/
def onModule (document : Members) : List Note :=
  if ((Format.Module.taken document).get? "license").isSome then []
  else
    match document.get? "licenses" with
    | none | some (.array _) => []
    | some _ => [licensesNotList]

/-- The notes on adding maintainers to authors. -/
def onMaintainers (authors : List Author) : List Normal.Contact → List Note
  | [] => []
  | contact :: rest =>
    (if authors.any fun a => Format.Properties.sameName a.name contact.1 then []
      else [addedMaintainer contact.1]) ++
      onMaintainers (Format.Properties.addMaintainer authors contact) rest

/-- The notes on the properties of an Arduino library. -/
def onProperties (contents : String) : List Note :=
  let properties := Format.Properties.read contents
  match Format.Properties.platforms properties with
  | .error _ => []
  | .ok _ =>
    onMaintainers (Format.Properties.writers properties)
      (Format.Properties.contacts properties "maintainer")

/-- The notes on a document of a JSON format, if it is an object. -/
def onDocument (kind : Kind) (contents : String) (notes : Members → List Note) : List Note :=
  match Format.members kind contents with
  | .ok fields => notes fields
  | .error _ => []

/-- The notes on reading a document as a manifest of a kind. -/
def onReading (kind : Kind) (contents : String) : List Note :=
  reading kind contents.utf8ByteSize ::
    match kind with
    | .libraryJson => onDocument kind contents onLibrary
    | .moduleJson => onDocument kind contents onModule
    | .libraryProperties => onProperties contents
    | .platformJson | .packageJson => onDocument kind contents (onRename "url" "homepage")

/-! ## Validation -/

/-- The notes on field errors, up to one that the mode stops at. -/
def onErrors (mode : Mode) : List FieldError → List Note
  | [] => []
  | e :: rest => rejected e :: if mode.stopsAt e then [] else onErrors mode rest

/-- The notes on validating fields. -/
def onValidation (fields : Members) (mode : Mode) : List Note :=
  match Validation.survey .lenient fields ⟨{}, []⟩ Field.checkOrder with
  | .error _ => []
  | .ok found =>
    onErrors mode found.errors ++
      if !found.errors.any mode.stopsAt && Validation.repeatsRepository found.record then
        [droppedHomepage]
      else []

/-- The notes on loading a document as a manifest of a kind. -/
def onLoading (kind : Kind) (contents : String) (address : Option String) (mode : Mode) :
    List Note :=
  onReading kind contents ++
    match parseAs kind contents address with
    | .ok fields => onValidation fields mode
    | .error _ => []

end Note

end Manifest
