import Manifest.Json.Members
import Manifest.Normal.Author

/-!
# Repositories and publishing rules

A repository may be written as a bare address. Only an address that can be told to be a git remote
makes a repository. The publishing rules may be written as bare texts.
-/

namespace Manifest.Normal

open Json (Value Pairs)

/-- Whether a character may stand before the at sign of a remote that is reached by shell. -/
def isUserChar (c : Char) : Bool :=
  c.isAlphanum || c == '.' || c == '_' || c == '-'

/-- Whether a character may stand in the host of a remote that is reached by shell. -/
def isHostChar (c : Char) : Bool :=
  c.isAlphanum || c == '.' || c == '-'

/-- Whether a text is a path on a host that is reached by shell: a user, an at sign, a host, a colon
and a relative path without blanks. -/
def isShellRemote (cs : List Char) : Bool :=
  match Text.cut '@' cs with
  | none => false
  | some (user, behind) =>
    match Text.cut ':' behind with
    | none => false
    | some (host, path) =>
      !user.isEmpty && user.all isUserChar && !host.isEmpty && host.all isHostChar &&
        !path.isEmpty && path.head? != some '/' && path.all fun c => !Text.isBlank c

/-- Whether a text ends in `.git`, slashes behind it aside. -/
def endsInGit (cs : List Char) : Bool :=
  ".git".toList.reverse.isPrefixOf (cs.reverse.dropWhile (· == '/'))

/-- Whether an address is a git remote rather than a page. -/
def isGitRemote (url : String) : Bool :=
  let cs := Text.trimmed url.toList
  endsInGit cs || "git://".toList.isPrefixOf cs || "git+".toList.isPrefixOf cs ||
    "https://github.com/".toList.isPrefixOf cs || "http://github.com/".toList.isPrefixOf cs ||
    (!Text.occurs "://".toList cs && isShellRemote cs)

/-- The git repository at an address. -/
def gitRepository (url : String) : Value :=
  .object [("type", .string "git"), ("url", .string url)]

/-- The normal form of a member of a repository. -/
def repositoryMember (name : String) (v : Value) : Value :=
  match v with
  | .string s => if name = "url" then .string (Text.trim s) else v
  | _ => v

/-- Whether the members of a repository have the address of a git remote and no type. -/
def lacksGitType (members : Pairs Value) : Bool :=
  (((members.find? "url").bind Value.text?).map isGitRemote).getD false &&
    ((members.find? "type").map Value.isNull).getD true

/-- The normal form of a repository. -/
def repository : Value → Option Value
  | .null => none
  | .string s => if isGitRemote s then some (gitRepository (Text.trim s)) else none
  | .object members =>
    let trimmed := members.map fun (name, v) => (name, repositoryMember name v)
    some (.object
      (if lacksGitType trimmed then Pairs.insert "type" (.string "git") trimmed else trimmed))
  | other => some other

/-- The normal form of a publishing rule. -/
def exportRule : Value → Value
  | .string s => .array [.string (Text.trim s)]
  | other => other

/-- The normal form of publishing rules. -/
def exportRules : Value → Option Value
  | .null => none
  | .object members =>
    some (.object ((members.filter fun (_, v) => !v.isNull).map fun (name, v) =>
      (name, exportRule v)))
  | other => some other

end Manifest.Normal
