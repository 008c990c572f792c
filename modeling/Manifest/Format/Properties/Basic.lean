import Manifest.Failure
import Manifest.Format.Properties.Entries
import Manifest.Format.Properties.Remote
import Manifest.Normal.Fields
import Manifest.Record.Author

/-!
# Arduino libraries

Property lists that describe Arduino libraries. What is not said has a default, and the address that
the document was downloaded from tells the repository and the directory of the library.
-/

namespace Manifest.Format.Properties

open Json (Members Pairs Value)

/-- The files that are not published. -/
def defaultExclude : List String :=
  ["extras", "docs", "tests", "test", "*.doxyfile", "*.pdf"]

/-- The keyword of a library without a category. -/
def defaultCategory : String :=
  "uncategorized"

/-- A text with a full stop at its end. -/
def sentence (s : String) : String :=
  if s.toList.getLast? = some '.' then s else s ++ "."

/-- The description: the sentence and the paragraph, unless they are the same. -/
def description? (properties : Pairs String) : Option String :=
  match properties.find? "sentence", properties.find? "paragraph" with
  | none, none => none
  | some s, none => some s
  | none, some p => some p
  | some s, some p => if s = p then some s else some (sentence s ++ " " ++ p)

/-- The architecture among comma-separated ones that is not supported. -/
def unsupported? (architectures : String) : Option String :=
  ((Text.split ',' architectures).map Text.trim).find? fun name =>
    "particle-".toList.isPrefixOf name.toList

/-- The platforms that the architectures name, all if none is named. -/
def platforms (properties : Pairs String) : Except Failure Value :=
  match properties.find? "architectures" with
  | none => .ok (Value.strings ["*"])
  | some architectures =>
    match unsupported? architectures with
    | some name => .error (.unsupportedPlatform name)
    | none => .ok ((Normal.platforms (.string architectures)).getD (Value.strings ["*"]))

/-- Whether two names are the same up to letter case. -/
def sameName (x y : String) : Bool :=
  Text.lower x == Text.lower y

/-- Makes every author of the same name a maintainer and fills in the address of those who have
none. A name that no author has becomes an author. -/
def addMaintainer (authors : List Author) (contact : Normal.Contact) : List Author :=
  if authors.any fun a => sameName a.name contact.1 then
    authors.map fun a =>
      if sameName a.name contact.1 then
        { a with maintainer := true, email := a.email.or contact.2 }
      else a
  else authors ++ [⟨contact.1, contact.2, none, true⟩]

/-- The contacts that a property names. -/
def contacts (properties : Pairs String) (key : String) : List Normal.Contact :=
  ((properties.find? key).map Normal.contacts).getD []

/-- The authors who are not known to be maintainers. -/
def writers (properties : Pairs String) : List Author :=
  (contacts properties "author").map fun (name, address) => ⟨name, address, none, false⟩

/-- The authors and maintainers. -/
def authors (properties : Pairs String) : List Author :=
  (contacts properties "maintainer").foldl addMaintainer (writers properties)

/-- The authors and maintainers as a value. -/
def authorsValue? (properties : Pairs String) : Option Value :=
  if (authors properties).isEmpty then none
  else some (.array ((authors properties).map fun a =>
    Normal.authorValue a.name a.email a.maintainer))

/-- The repository: the one that the document was found in, else the address of the library if that
is a git remote. -/
def repository? (properties : Pairs String) (remote : Option Remote) : Option Value :=
  match remote with
  | some place => some (Normal.gitRepository place.repository)
  | none => ((properties.find? "url").filter Normal.isGitRemote).map Normal.gitRepository

/-- The page: the address of the library, unless that is a git remote. -/
def homepage? (properties : Pairs String) : Option String :=
  (properties.find? "url").filter fun url => !Normal.isGitRemote url

/-- The publishing rules. -/
def exportRules (remote : Option Remote) : Value :=
  .object (("exclude", Value.strings defaultExclude) ::
    ((remote.bind Remote.directory).map fun d => ("include", Value.string d)).toList)

/-- The fields that properties give, before they are normalized. -/
def ofProperties (properties : Pairs String) (remote : Option Remote) (platforms : Value) :
    Members :=
  let category := (properties.find? "category").getD defaultCategory
  Members.empty
    |>.insertSome "name" ((properties.find? "name").map Value.string)
    |>.insertSome "version" ((properties.find? "version").map Value.string)
    |>.insertSome "description" ((description? properties).map Value.string)
    |>.insert "keywords" (Value.strings [category])
    |>.insert "platforms" platforms
    |>.insert "frameworks" (Value.strings ["arduino"])
    |>.insertSome "authors" (authorsValue? properties)
    |>.insertSome "homepage" ((homepage? properties).map Value.string)
    |>.insertSome "repository" (repository? properties remote)
    |>.insert "export" (exportRules remote)

/-- Reads the manifest of an Arduino library that was downloaded from `address`. -/
def parse (contents : String) (address : Option String) : Except Failure Members :=
  let properties := read contents
  (platforms properties).map fun found =>
    Normal.fields (ofProperties properties (address.bind Remote.ofAddress?) found)

end Manifest.Format.Properties
