import Manifest.Decode.Mismatch

/-!
# Fields and what can be wrong with them

The sixteen fields of a package record, and the errors that checking one of them can end in.
-/

namespace Manifest

open Json (Value)

/-- A field of a package record. -/
inductive Field where
  /-- What the package is called. -/
  | name
  /-- Its semantic version. -/
  | version
  /-- What it is for. -/
  | description
  /-- Words to find it by. -/
  | keywords
  /-- Who made it. -/
  | authors
  /-- A title for people to read. -/
  | title
  /-- Its page. -/
  | homepage
  /-- Where its sources are. -/
  | repository
  /-- Its licence. -/
  | license
  /-- The platforms it runs on. -/
  | platforms
  /-- The frameworks it works with. -/
  | frameworks
  /-- Which of its files are published. -/
  | exportRules
  /-- Its examples. -/
  | examples
  /-- The host systems it runs on. -/
  | system
  /-- The tools it needs, with version requirements. -/
  | engines
  /-- The tools and toolchains it brings. -/
  | packages
  deriving DecidableEq, Repr

namespace Field

/-- The name of a field in a document. -/
def label : Field → String
  | name => "name"
  | version => "version"
  | description => "description"
  | keywords => "keywords"
  | authors => "authors"
  | title => "title"
  | homepage => "homepage"
  | repository => "repository"
  | license => "license"
  | platforms => "platforms"
  | frameworks => "frameworks"
  | exportRules => "export"
  | examples => "examples"
  | system => "system"
  | engines => "engines"
  | packages => "packages"

/-- Whether a package has to have this field. -/
def isMandatory : Field → Bool
  | name | version | description | keywords | authors => true
  | _ => false

/-- The fields in the order in which they are checked, the mandatory ones first. -/
def checkOrder : List Field :=
  [name, version, description, keywords, authors, title, homepage, repository, license, platforms,
    frameworks, exportRules, examples, system, engines, packages]

/-- The fields in the order in which a record is written. -/
def writeOrder : List Field :=
  [name, version, title, description, homepage, repository, license, keywords, platforms,
    frameworks, authors, exportRules, examples, system, engines, packages]

end Field

/-- Why the value of a field is invalid. -/
inductive Reason where
  /-- It is not a text. -/
  | notText (found : Value)
  /-- It is not a sequence of texts. -/
  | notTexts
  /-- An item of the sequence is not a text. -/
  | itemNotText (found : Value)
  /-- An author has a blank name. -/
  | blankAuthor
  /-- A repository has a blank address. -/
  | blankAddress
  /-- It is not an object. -/
  | notObject
  /-- It does not have the shape of the field's content. -/
  | mismatch (cause : Mismatch)

/-- What a reason says. -/
def Reason.message : Reason → String
  | notText found => "expected a string, got " ++ found.compact
  | notTexts => "expected a sequence of strings"
  | itemNotText found => "non-string entry " ++ found.compact
  | blankAuthor => "author name must not be empty"
  | blankAddress => "url must not be empty"
  | notObject => "expected an object"
  | mismatch cause => cause.message

/-- What is wrong with a field. -/
inductive FieldError where
  /-- The field is absent or blank. -/
  | missing (field : Field)
  /-- The field has a value that it cannot have. -/
  | invalid (field : Field) (reason : Reason)
  /-- The version is not a semantic version. -/
  | notSemantic (version : String)

namespace FieldError

/-- The field that an error is about. -/
def field : FieldError → Field
  | missing f => f
  | invalid f _ => f
  | notSemantic _ => .version

/-- What an error says. -/
def message : FieldError → String
  | missing f => "missing value for `" ++ f.label ++ "` field"
  | invalid f reason => "invalid value for `" ++ f.label ++ "` field: " ++ reason.message
  | notSemantic version =>
    "invalid semantic versioning format for `version` field: '" ++ version ++ "'"

end FieldError

end Manifest
