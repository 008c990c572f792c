import Manifest.Url.Address
import Manifest.Url.Domain

/-!
# Hosts

The host of an address in its normal form. Under the schemes of the web a host is a domain name in
ASCII and lower case or a numeric address. Under other schemes it is kept as it is.
-/

namespace Manifest.Url

/-- Whether a character separates the parts of an address, so that no host holds it. -/
def isForbiddenInHost (c : Char) : Bool :=
  ['\x00', '\t', '\n', '\r', ' ', '#', '/', ':', '<', '>', '?', '@', '[', '\\', ']', '^',
    '|'].contains c

/-- Whether no domain name holds a character. -/
def isForbiddenInDomain (c : Char) : Bool :=
  isForbiddenInHost c || c.toNat < 0x20 || c == '%' || c.toNat == 0x7F

/-- The normal form of a domain name that no character is forbidden in. -/
def domain? (cs : List Char) : Option (List Char) :=
  (asciiDomain? cs).filter fun name => !name.isEmpty && !name.any isForbiddenInDomain

/-- A numeric address in brackets, behind the opening one. -/
def bracketed? (cs : List Char) : Option (List Char) :=
  match cs.getLast? with
  | some ']' => (eightPart? cs.dropLast).map fun groups => '[' :: eightPartText groups ++ [']']
  | _ => none

/-- A host under a scheme of the web. -/
def webHost? (cs : List Char) : Option (List Char) :=
  match cs with
  | '[' :: rest => bracketed? rest
  | _ =>
    match (decoded? cs).bind domain? with
    | none => none
    | some name => if endsInNumber name then (fourPart? name).map fourPartText else some name

/-- A host under any other scheme. An empty one is none. -/
def otherHost? (cs : List Char) : Option (List Char) :=
  match cs with
  | [] => none
  | '[' :: rest => bracketed? rest
  | _ => if cs.any isForbiddenInHost then none else some (encoded isControl cs)

end Manifest.Url
