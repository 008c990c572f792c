import Manifest.Kind
import Manifest.Record.Validation

/-!
# Reports

A record as lines for people to read, and the same as JSON.
-/

namespace Manifest.CommandLine

open Json (Value)

/-- What is written for an absent field. -/
def absent : String :=
  "(none)"

/-- Items with commas between them. -/
def listed (items : Option (List String)) : String :=
  (items.map fun xs => ", ".intercalate xs).getD absent

/-- The line of an author. -/
def authorLine (author : Author) : String :=
  "  " ++ author.name ++ ((author.email.map fun e => " <" ++ e ++ ">").getD "") ++
    (if author.maintainer then " (maintainer)" else "")

/-- The lines of the authors. -/
def authorLines : Option (List Author) → List String
  | some authors => "authors:" :: authors.map authorLine
  | none => ["authors:      " ++ absent]

/-- A repository on a line. -/
def repositoryText : Option Repository → String
  | none => absent
  | some repository =>
    match repository.branch with
    | some branch => repository.url ++ " (" ++ branch ++ ")"
    | none => repository.url

/-- The lines of a record. -/
def recordLines (r : Record) : List String :=
  ["name:         " ++ r.name.getD absent, "version:      " ++ r.version.getD absent] ++
    (r.title.map fun t => "title:        " ++ t).toList ++
    ["description:  " ++ r.description.getD absent, "homepage:     " ++ r.homepage.getD absent,
      "repository:   " ++ repositoryText r.repository, "license:      " ++ r.license.getD absent,
      "keywords:     " ++ listed (r.keywords.map Keywords.words),
      "platforms:    " ++ listed r.platforms, "frameworks:   " ++ listed r.frameworks] ++
    (r.system.map fun s => "system:       " ++ listed (some s)).toList ++
    authorLines r.authors ++
    (match r.exportRules with
      | some rules =>
        ["export:", "  include:    " ++ listed rules.included,
          "  exclude:    " ++ listed rules.excluded]
      | none => []) ++
    (r.examples.map fun e => "examples:     " ++ toString e.length).toList

/-- The lines of field errors. -/
def errorLines (errors : List FieldError) : List String :=
  if errors.isEmpty then []
  else "errors:" :: errors.map fun e => "  " ++ e.message

/-- The lines of a report on a manifest. -/
def reportLines (path : String) (kind : Kind) (found : Validated) : List String :=
  ("file:         " ++ path ++ " (" ++ kind.name ++ ")") ::
    (recordLines found.record ++ errorLines found.errors)

/-- A report on a manifest as a value. -/
def reportValue (path : String) (kind : Kind) (mode : Mode) (found : Validated) : Value :=
  .object [("path", .string path), ("kind", .string kind.name), ("mode", .string mode.name),
    ("record", found.record.toValue),
    ("errors", Value.strings (found.errors.map FieldError.message))]

end Manifest.CommandLine
