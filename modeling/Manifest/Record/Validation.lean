import Manifest.Record.Check

/-!
# Validation

Building a record from the members of a document. Lenient validation collects every field error and
leaves the field out. Strict validation ends at the first error about a mandatory field or the
version.
-/

namespace Manifest

open Json (Members Value)

/-- What happens at a field error. -/
inductive Mode where
  /-- It is collected. -/
  | lenient
  /-- It ends validation if the field has to be right. -/
  | strict
  deriving DecidableEq, Repr

namespace Mode

/-- The name of a mode. -/
def name : Mode → String
  | lenient => "lenient"
  | strict => "strict"

/-- Reads the name of a mode. -/
def decode : Value → Decoded Mode :=
  Decode.variant [("lenient", lenient), ("strict", strict)]

/-- Whether an error ends validation in this mode. -/
def stopsAt : Mode → FieldError → Bool
  | lenient, _ => false
  | strict, .notSemantic _ => true
  | strict, e => e.field.isMandatory

end Mode

/-- A record, and the field errors that were collected while it was built. -/
structure Validated where
  /-- The record. -/
  record : Record
  /-- The errors in the order of the fields. -/
  errors : List FieldError

/-- Equality of results: equal records, and errors that say the same. -/
def Validated.equal (x y : Validated) : Bool :=
  x.record.equal y.record && x.errors.map FieldError.message == y.errors.map FieldError.message

namespace Validation

/-- The content of a field among `members`. A null counts as an absent value. -/
def outcome (members : Members) (f : Field) : Except FieldError (Option f.Content) :=
  match members.get? f.label with
  | none | some .null => if f.isMandatory then .error (.missing f) else .ok none
  | some v => (f.read v).map some

/-- Reads the fields one after the other into a record, up to an error that the mode stops at. -/
def survey (mode : Mode) (members : Members) :
    Validated → List Field → Except FieldError Validated
  | found, [] => .ok found
  | found, f :: rest =>
    match outcome members f with
    | .ok content => survey mode members { found with record := found.record.set f content } rest
    | .error e =>
      if mode.stopsAt e then .error e
      else survey mode members { found with errors := found.errors ++ [e] } rest

/-- Whether the page of a record is its repository. -/
def repeatsRepository (r : Record) : Bool :=
  match r.homepage, r.repository with
  | some homepage, some repository => homepage == repository.url
  | _, _ => false

/-- Without a page that is the repository. -/
def dropRepeatedHomepage (r : Record) : Record :=
  if repeatsRepository r then { r with homepage := none } else r

end Validation

/-- Builds a record from the members of a document. -/
def validate (members : Members) (mode : Mode) : Except FieldError Validated :=
  (Validation.survey mode members ⟨{}, []⟩ Field.checkOrder).map fun found =>
    { found with record := Validation.dropRepeatedHomepage found.record }

/-- Builds a record and collects every field error. -/
def validateLeniently (members : Members) : Validated :=
  match validate members .lenient with
  | .ok found => found
  | .error _ => ⟨{}, []⟩

end Manifest
