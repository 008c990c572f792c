import Manifest.Field
import Manifest.Version
import Manifest.Record.Author
import Manifest.Record.Example
import Manifest.Record.Export
import Manifest.Record.Keywords
import Manifest.Record.Repository

/-!
# Package records

The canonical description of one package. Each field has a content of its own type, and every field
may be absent. `Record.get` and `Record.set` treat all fields alike.
-/

namespace Manifest

open Json (Value Pairs)

/-- What a field holds when it is present. -/
abbrev Field.Content : Field → Type
  | .name | .version | .description | .title | .homepage | .license => String
  | .keywords => Keywords
  | .authors => List Author
  | .repository => Repository
  | .platforms | .frameworks | .system => List String
  | .exportRules => Export
  | .examples => Pairs Example
  | .engines => Pairs String
  | .packages => Pairs Value

/-- The description of one package. -/
structure Record where
  /-- What the package is called. -/
  name : Option String := none
  /-- Its semantic version. -/
  version : Option String := none
  /-- A title for people to read. -/
  title : Option String := none
  /-- What it is for. -/
  description : Option String := none
  /-- Its page. -/
  homepage : Option String := none
  /-- Where its sources are. -/
  repository : Option Repository := none
  /-- Its licence. -/
  license : Option String := none
  /-- Words to find it by. -/
  keywords : Option Keywords := none
  /-- The platforms it runs on. -/
  platforms : Option (List String) := none
  /-- The frameworks it works with. -/
  frameworks : Option (List String) := none
  /-- Who made it. -/
  authors : Option (List Author) := none
  /-- Which of its files are published. -/
  exportRules : Option Export := none
  /-- Its examples, by rising name. -/
  examples : Option (Pairs Example) := none
  /-- The host systems it runs on, any if absent. -/
  system : Option (List String) := none
  /-- The tools it needs, by rising name. -/
  engines : Option (Pairs String) := none
  /-- The tools and toolchains it brings, as they were written. -/
  packages : Option (Pairs Value) := none

namespace Record

/-- The content of a field. -/
def get (r : Record) : (f : Field) → Option f.Content
  | .name => r.name
  | .version => r.version
  | .description => r.description
  | .keywords => r.keywords
  | .authors => r.authors
  | .title => r.title
  | .homepage => r.homepage
  | .repository => r.repository
  | .license => r.license
  | .platforms => r.platforms
  | .frameworks => r.frameworks
  | .exportRules => r.exportRules
  | .examples => r.examples
  | .system => r.system
  | .engines => r.engines
  | .packages => r.packages

/-- The record with another content of one field. -/
def set (r : Record) : (f : Field) → Option f.Content → Record
  | .name, c => { r with name := c }
  | .version, c => { r with version := c }
  | .description, c => { r with description := c }
  | .keywords, c => { r with keywords := c }
  | .authors, c => { r with authors := c }
  | .title, c => { r with title := c }
  | .homepage, c => { r with homepage := c }
  | .repository, c => { r with repository := c }
  | .license, c => { r with license := c }
  | .platforms, c => { r with platforms := c }
  | .frameworks, c => { r with frameworks := c }
  | .exportRules, c => { r with exportRules := c }
  | .examples, c => { r with examples := c }
  | .system, c => { r with system := c }
  | .engines, c => { r with engines := c }
  | .packages, c => { r with packages := c }

@[simp] theorem get_set_self (r : Record) (f : Field) (c : Option f.Content) :
    (r.set f c).get f = c := by
  cases f <;> rfl

theorem get_set_of_ne (r : Record) {f g : Field} (c : Option f.Content) (h : g ≠ f) :
    (r.set f c).get g = r.get g := by
  cases f <;> cases g <;> simp_all [get, set]

/-- Two records with the same fields are equal. -/
theorem ext_get {r s : Record} (h : ∀ f, r.get f = s.get f) : r = s := by
  cases r
  cases s
  simp only [Record.mk.injEq]
  exact ⟨h .name, h .version, h .title, h .description, h .homepage, h .repository, h .license,
    h .keywords, h .platforms, h .frameworks, h .authors, h .exportRules, h .examples, h .system,
    h .engines, h .packages⟩

/-- The version in its parts. -/
def semver (r : Record) : Option Version :=
  r.version.bind Version.parse?

/-- The authors who look after the package. -/
def maintainers (r : Record) : List Author :=
  (r.authors.getD []).filter fun a => a.maintainer

/-- The content of a field as a value. -/
def encode : (f : Field) → f.Content → Value
  | .name, s | .version, s | .description, s | .title, s | .homepage, s | .license, s => .string s
  | .keywords, k => k.toValue
  | .authors, authors => .array (authors.map Author.toValue)
  | .repository, repository => repository.toValue
  | .platforms, xs | .frameworks, xs | .system, xs => Value.strings xs
  | .exportRules, rules => rules.toValue
  | .examples, samples => .object (samples.map fun (name, sample) => (name, sample.toValue))
  | .engines, engines => .object (engines.map fun (name, range) => (name, .string range))
  | .packages, packages => .object packages

/-- The content of a field as a value, if the field is present. -/
def value? (r : Record) (f : Field) : Option Value :=
  (r.get f).map (encode f)

/-- The fields that are present, as pairs in the order in which a record is written. -/
def toPairs (r : Record) : Pairs Value :=
  Field.writeOrder.filterMap fun f => (r.value? f).map fun v => (f.label, v)

/-- The record as an object. -/
def toValue (r : Record) : Value :=
  .object r.toPairs

/-- Equality of contents: keywords compare as sets, and numbers within packages numerically. -/
def sameContent : (f : Field) → f.Content → f.Content → Bool
  | .name, x, y | .version, x, y | .description, x, y | .title, x, y | .homepage, x, y
  | .license, x, y => x == y
  | .keywords, x, y => x.equal y
  | .authors, x, y => x == y
  | .repository, x, y => x == y
  | .platforms, x, y | .frameworks, x, y | .system, x, y => x == y
  | .exportRules, x, y => x == y
  | .examples, x, y => x == y
  | .engines, x, y => x == y
  | .packages, x, y => Value.equalMembers x y

/-- Equality of records, field by field. -/
def equal (r s : Record) : Bool :=
  Field.checkOrder.all fun f =>
    match r.get f, s.get f with
    | none, none => true
    | some x, some y => sameContent f x y
    | _, _ => false

end Record

end Manifest
