import Manifest.Decode.Shape
import Manifest.Text.Blank

/-!
# Manifest kinds

The five manifest formats, their names, and the ways in which a kind is found: from a declared
name, from a path, or by probing a directory.
-/

namespace Manifest

/-- A manifest format. -/
inductive Kind where
  /-- The native library format. -/
  | libraryJson
  /-- Modules of the mbed world. -/
  | moduleJson
  /-- Arduino libraries, as key-value lines. -/
  | libraryProperties
  /-- Development platforms. -/
  | platformJson
  /-- Tools and toolchains. -/
  | packageJson
  deriving DecidableEq, Repr

namespace Kind

/-- Every kind, in the order in which kinds are listed. -/
def all : List Kind :=
  [libraryJson, moduleJson, libraryProperties, platformJson, packageJson]

/-- Every kind, in the order in which a directory is probed. -/
def discoveryOrder : List Kind :=
  [platformJson, libraryJson, libraryProperties, moduleJson, packageJson]

/-- The dashed name of a kind. -/
def name : Kind → String
  | libraryJson => "library-json"
  | moduleJson => "module-json"
  | libraryProperties => "library-properties"
  | platformJson => "platform-json"
  | packageJson => "package-json"

/-- The file name that a manifest of this kind has by convention. -/
def fileName : Kind → String
  | libraryJson => "library.json"
  | moduleJson => "module.json"
  | libraryProperties => "library.properties"
  | platformJson => "platform.json"
  | packageJson => "package.json"

/-- The kind that a declaration names, by its dashed name or by its file name. Blanks around the
declaration do not count. -/
def ofDeclared? (declared : String) : Option Kind :=
  let wanted := Text.trim declared
  all.find? fun kind => kind.name == wanted || kind.fileName == wanted

/-- Whether the characters of `text` end in those of `ending`. -/
def endsWith (text ending : String) : Bool :=
  ending.toList.isSuffixOf text.toList

/-- The kind that the end of a path or address suggests. All else is taken for the native format. -/
def ofPath (path : String) : Kind :=
  if endsWith path ".properties" then libraryProperties
  else if endsWith path "platform.json" then platformJson
  else if endsWith path "module.json" then moduleJson
  else if endsWith path "package.json" then packageJson
  else libraryJson

/-- Reads the name of a kind. -/
def decode : Json.Value → Decoded Kind :=
  Decode.variant (all.map fun kind => (kind.name, kind))

end Kind

end Manifest
