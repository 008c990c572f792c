import Manifest.Url.Host

/-!
# Web addresses

Reading an address that names a host: its scheme, its host, its port if that is not the scheme's
own, and the segments of its path. Addresses without a host are refused, as are those that are not
well formed.
-/

namespace Manifest

/-- An address that names a host. -/
structure Url where
  /-- The scheme, in lower case. -/
  scheme : String
  /-- The host in its normal form. -/
  host : String
  /-- The port, unless it is the one that the scheme implies. -/
  port : Option Nat
  /-- The segments of the path, without the empty ones. -/
  segments : List String
  deriving DecidableEq, Repr

namespace Url

/-- The port that a scheme implies. The schemes that have one, and files, are the schemes of the
web. -/
def impliedPort? (scheme : List Char) : Option Nat :=
  [("http".toList, 80), ("https".toList, 443), ("ws".toList, 80), ("wss".toList, 443),
    ("ftp".toList, 21)].lookup scheme

/-- Whether a scheme is that of files. -/
def isFile (scheme : List Char) : Bool :=
  scheme == "file".toList

/-- Whether a backslash counts as a slash under a scheme. -/
def isWeb (scheme : List Char) : Bool :=
  (impliedPort? scheme).isSome || isFile scheme

/-- The text of an address without control characters and spaces at its ends, and without tabs and
line breaks anywhere. -/
def significant (cs : List Char) : List Char :=
  let isEdge := fun (c : Char) => c.toNat ≤ 0x20
  (((cs.dropWhile isEdge).reverse.dropWhile isEdge).reverse).filter fun c =>
    c ≠ '\t' ∧ c ≠ '\n' ∧ c ≠ '\r'

/-- The scheme in lower case, and what follows its colon. -/
def scheme? (cs : List Char) : Option (List Char × List Char) :=
  match Text.cut ':' cs with
  | some (c :: name, rest) =>
    if c.isAlpha && name.all fun d => d.isAlphanum || d == '+' || d == '-' || d == '.' then
      some ((c :: name).map Char.toLower, rest)
    else none
  | _ => none

/-- Whether a character ends the part of an address that names the host. -/
def endsAuthority (web : Bool) (c : Char) : Bool :=
  c == '/' || c == '?' || c == '#' || (web && c == '\\')

/-- What follows the slashes that announce a host. Under the schemes of the web any number of them
will do, but files and all other schemes take two. -/
def afterSlashes? (scheme rest : List Char) : Option (List Char) :=
  if isFile scheme then
    match rest with
    | a :: b :: behind => if (a = '/' ∨ a = '\\') ∧ (b = '/' ∨ b = '\\') then some behind else none
    | _ => none
  else if isWeb scheme then some (rest.dropWhile fun c => c = '/' || c = '\\')
  else
    match rest with
    | '/' :: '/' :: behind => some behind
    | _ => none

/-- The text behind the last `mark`, or all of it. -/
def behindLast (mark : Char) (cs : List Char) : List Char :=
  (cs.reverse.takeWhile (· != mark)).reverse

/-- Splits host and port at the first colon outside brackets. -/
def splitPort (inBrackets : Bool) : List Char → List Char × Option (List Char)
  | [] => ([], none)
  | c :: cs =>
    if c = ':' ∧ !inBrackets then ([], some cs)
    else
      let (host, port) := splitPort (c = '[' || (inBrackets && c != ']')) cs
      (c :: host, port)

/-- Reads a port. An empty one counts as absent. -/
def port? (cs : List Char) : Option (Option Nat) :=
  if cs.isEmpty then some none
  else if cs.all Char.isDigit then
    (Text.numeral? 10 cs).bind fun n => if n < 65536 then some (some n) else none
  else none

/-- Whether a segment names a drive: a letter and a colon or a bar. -/
def isDrive : List Char → Bool
  | [a, b] => a.isAlpha && (b == ':' || b == '|')
  | _ => false

/-- The segments as far as a step to the parent leaves them. Drives are not left. -/
def parent : List (List Char) → List (List Char)
  | [] => []
  | last :: before => if isDrive last then last :: before else before

/-- The text of a segment with encoded dots as dots. -/
def plainDots : List Char → List Char
  | '%' :: '2' :: 'e' :: rest | '%' :: '2' :: 'E' :: rest => '.' :: plainDots rest
  | c :: rest => c :: plainDots rest
  | [] => []

/-- Walks along the segments of a path, with the last segment reached first in `reached`. -/
def walk (reached : List (List Char)) : List (List Char) → List (List Char)
  | [] => reached
  | segment :: rest =>
    let step := plainDots segment
    if step = ['.'] then walk reached rest
    else if step = ['.', '.'] then walk (parent reached) rest
    else walk (segment :: reached) rest

/-- The segments of a path that are not empty, with dots resolved and what needs it encoded. -/
def resolved (segments : List (List Char)) : List String :=
  (((walk [] segments).reverse).filter fun s => !s.isEmpty).map fun s =>
    String.ofList (encoded isEncodedInPath s)

/-- The segments of a path that starts with a slash, if it is there. -/
def segments? (web : Bool) (cs : List Char) : Option (List (List Char)) :=
  let path := cs.takeWhile fun c => c ≠ '?' && c ≠ '#'
  let path := if web then path.map fun c => if c = '\\' then '/' else c else path
  match path with
  | [] => if web then some [] else none
  | '/' :: rest => some (Text.pieces '/' rest)
  | _ => some (Text.pieces '/' path)

/-- The host that a file is on. None is named by an empty text, by a drive in place of the host or
in front of the path, or by this host's own name. -/
def fileHost? (cs : List Char) (segments : List (List Char)) : Option (List Char) :=
  if cs.isEmpty ∨ isDrive cs ∨ (segments.head?.map isDrive).getD false then none
  else (webHost? cs).filter fun name => name ≠ "localhost".toList

/-- Reads an address that names a host. -/
def parse? (s : String) : Option Url := do
  let (scheme, rest) ← scheme? (significant s.toList)
  let web := isWeb scheme
  let behind ← afterSlashes? scheme rest
  let authority := behind.takeWhile fun c => !endsAuthority web c
  let tail := behind.dropWhile fun c => !endsAuthority web c
  if isFile scheme then
    let segments ← segments? web tail
    let host ← fileHost? authority segments
    return ⟨String.ofList scheme, String.ofList host, none, resolved segments⟩
  else
    let (hostText, portText) := splitPort false (behindLast '@' authority)
    -- A backslash ends a port under every scheme.
    let portDigits := (portText.getD []).takeWhile (· != '\\')
    let stray := (portText.getD []).dropWhile (· != '\\')
    let port ← port? portDigits
    let host ← if web then webHost? hostText else otherHost? hostText
    let segments ← segments? web (stray ++ tail)
    return {
      scheme := String.ofList scheme
      host := String.ofList host
      port := if port = impliedPort? scheme then none else port
      segments := resolved segments }

end Url

end Manifest
