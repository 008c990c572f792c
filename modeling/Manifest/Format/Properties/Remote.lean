import Manifest.Url.Basic

/-!
# Where a document was found

The address that a document was downloaded from tells which repository it is from and in which
directory of it the package lies.
-/

namespace Manifest.Format.Properties

/-- A place in a repository. -/
structure Remote where
  /-- The address of the repository. -/
  repository : String
  /-- The directory of the package, unless it is that of the repository. -/
  directory : Option String
  deriving DecidableEq, Repr

namespace Remote

/-- Segments with slashes between them. -/
def path (segments : List String) : String :=
  "/".intercalate segments

/-- The directory that segments lead to. -/
def directory? (segments : List String) : Option String :=
  if segments.isEmpty then none else some (path segments)

/-- Whether a host is one of the well-known site or its mirrors. -/
def isHub (host : String) : Bool :=
  Text.occurs "github".toList host.toList

/-- The place that an address of the well-known site leads to. Its segments are those in front of
the file name: user, repository, on the main host the view, then branch and directory. -/
def onHub? (url : Url) (segments : List String) : Option Remote :=
  match segments with
  | user :: repository :: rest =>
    let hasView :=
      (rest.head? == some "blob" || rest.head? == some "raw") && url.host == "github.com"
    some {
      repository := url.scheme ++ "://github.com/" ++ user ++ "/" ++ repository
      directory := directory? (rest.drop (if hasView then 2 else 1)) }
  | _ => none

/-- The host of an address, with its port. -/
def authority (url : Url) : String :=
  match url.port with
  | some port => url.host ++ ":" ++ toString port
  | none => url.host

/-- The place that an address of any other site leads to: the project, a segment `raw`, then branch
and directory. A minus may separate the project from what follows. -/
def onSite? (url : Url) (segments : List String) : Option Remote :=
  let project := segments.takeWhile (· != "raw")
  match segments.drop project.length with
  | [] => none
  | _ :: rest =>
    let project := if project.getLast? = some "-" then project.dropLast else project
    some {
      repository := url.scheme ++ "://" ++ authority url ++ "/" ++ path project
      directory := directory? (rest.drop 1) }

/-- The place that an address leads to. -/
def ofAddress? (address : String) : Option Remote :=
  match Url.parse? address with
  | none => none
  | some url =>
    let segments := url.segments.dropLast
    if isHub url.host then onHub? url segments else onSite? url segments

end Remote

end Manifest.Format.Properties
