import Manifest.CommandLine.Surroundings
import Manifest.Text.Split

/-!
# File trees

A tree of files in memory, in which a path is followed part by part from the tree's own directory.
-/

namespace Manifest.CommandLine

/-- A tree of files: what stands at each path, as the list of its parts. -/
structure FileTree where
  /-- The directories other than the tree's own. -/
  directories : List (List String)
  /-- The files and their contents. -/
  files : List (List String × Option String)

namespace FileTree

/-- A tree without files. -/
def empty : FileTree :=
  ⟨[], []⟩

/-- The parts of a path that name something. -/
def parts (path : String) : List String :=
  (Text.split '/' path).filter fun part => part ≠ "" ∧ part ≠ "."

/-- The lists of parts that lead to a place, the shortest first. -/
def ways (place : List String) : List (List String) :=
  (List.range place.length).map fun n => place.take (n + 1)

/-- Adds a directory and those above it. -/
def addDirectory (tree : FileTree) (path : String) : FileTree :=
  { tree with directories := tree.directories ++ ways (parts path) }

/-- Adds a file and the directories above it. -/
def addFile (tree : FileTree) (path : String) (contents : Option String) : FileTree :=
  let place := parts path
  { tree with
    directories := tree.directories ++ ways place.dropLast
    files := (place, contents) :: tree.files }

/-- What stands at a place. -/
def standing (tree : FileTree) (place : List String) : Entry :=
  match place with
  | [] => .directory
  | _ =>
    match tree.files.lookup place with
    | some contents => .file contents
    | none => if tree.directories.contains place then .directory else .missing

/-- Follows the parts of a path from a directory. Above the tree there are directories, but nothing
that the tree knows. -/
def follow (tree : FileTree) : Option (List String) → List String → Entry
  | none, rest =>
    if rest.all fun part => ["", ".", ".."].contains part then .directory else .missing
  | some place, [] => tree.standing place
  | some place, part :: rest =>
    match tree.standing place with
    | .directory =>
      if part = "" ∨ part = "." then follow tree (some place) rest
      else if part = ".." then
        follow tree (if place.isEmpty then none else some place.dropLast) rest
      else follow tree (some (place ++ [part])) rest
    | _ => .missing

/-- What is found at a path. Paths that start with a slash lead out of the tree. -/
def entry (tree : FileTree) (path : String) : Entry :=
  match Text.split '/' path with
  | [] | [""] => .missing
  | "" :: rest => tree.follow none rest
  | found => tree.follow (some []) found

end FileTree

end Manifest.CommandLine
