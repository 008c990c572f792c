import Manifest.Record.Basic

/-!
# Checking fields

Reading the content of each field from its value. The readers accept any value and say what is wrong
with those that they refuse.
-/

namespace Manifest.Field

open Json (Value Pairs)

/-- Reads a text that is not blank. -/
def text (f : Field) : Value → Except FieldError String
  | .string s => if Text.trim s = "" then .error (.missing f) else .ok (Text.trim s)
  | found => .error (.invalid f (.notText found))

/-- The text that a version is read from: that of a string without blanks at its ends, or the
compact text of any other value. -/
def versionText : Value → String
  | .string s => Text.trim s
  | found => found.compact

/-- Reads a semantic version, which is kept as it is written. -/
def semanticVersion (v : Value) : Except FieldError String :=
  let text := versionText v
  if text = "" then .error (.missing .version)
  else if (Version.parse? text).isSome then .ok text
  else .error (.notSemantic text)

/-- Reads the items of a sequence of texts, without blanks at their ends. -/
def textItems (f : Field) : List Value → Except FieldError (List String)
  | [] => .ok []
  | .string s :: rest => (textItems f rest).map (Text.trim s :: ·)
  | found :: _ => .error (.invalid f (.itemNotText found))

/-- Reads a sequence of texts. -/
def texts (f : Field) : Value → Except FieldError (List String)
  | .array items => textItems f items
  | _ => .error (.invalid f .notTexts)

/-- Reads keywords, of which there has to be one. -/
def keywordList (v : Value) : Except FieldError Keywords :=
  match texts .keywords v with
  | .error e => .error e
  | .ok items =>
    let found := Keywords.collect items
    if found.words.isEmpty then .error (.missing .keywords) else .ok found

/-- Reads a part of a certain shape. -/
def shaped {α : Type} (f : Field) (part : Value → Decoded α) (v : Value) : Except FieldError α :=
  (part v).mapError fun cause => .invalid f (.mismatch cause)

/-- Reads authors, of whom there has to be one and none may have a blank name. -/
def authorList (v : Value) : Except FieldError (List Author) :=
  match shaped .authors (Decode.sequence Author.decode) v with
  | .error e => .error e
  | .ok people =>
    if people.isEmpty then .error (.missing .authors)
    else if people.any fun a => Text.isBlankText a.name then
      .error (.invalid .authors .blankAuthor)
    else .ok people

/-- Reads a repository, whose address may not be blank. -/
def sourceRepository (v : Value) : Except FieldError Repository :=
  match shaped .repository Repository.decode v with
  | .error e => .error e
  | .ok source =>
    if Text.isBlankText source.url then .error (.invalid .repository .blankAddress)
    else .ok source

/-- Reads an object and keeps it as it is. -/
def verbatim (f : Field) : Value → Except FieldError (Pairs Value)
  | .object members => .ok members
  | _ => .error (.invalid f .notObject)

/-- Reads the content of a field. -/
def read : (f : Field) → Value → Except FieldError f.Content
  | .name => text .name
  | .version => semanticVersion
  | .description => text .description
  | .keywords => keywordList
  | .authors => authorList
  | .title => text .title
  | .homepage => text .homepage
  | .repository => sourceRepository
  | .license => text .license
  | .platforms => texts .platforms
  | .frameworks => texts .frameworks
  | .exportRules => shaped .exportRules Export.decode
  | .examples => shaped .examples (Decode.mapping Example.decode)
  | .system => texts .system
  | .engines => shaped .engines (Decode.mapping Decode.text)
  | .packages => verbatim .packages

end Manifest.Field
