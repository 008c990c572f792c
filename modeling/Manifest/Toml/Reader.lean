import Manifest.Toml.Scalar

/-!
# Reading TOML

A document is read into its statements: assignments and headers of tables. Of values only truth
values are kept.
-/

namespace Manifest.Toml

/-- A part of a key, with the number of characters left in the document at its start. -/
structure Key where
  /-- The name. -/
  name : String
  /-- The number of characters left. -/
  left : Nat
  deriving DecidableEq, Repr

/-- A key of one or more parts: those in front of the last one, and the last one. -/
structure Path where
  /-- The parts in front. -/
  front : List Key
  /-- The last part. -/
  last : Key
  deriving DecidableEq, Repr

/-- What is kept of a value. -/
inductive Content where
  /-- A truth value. -/
  | flag (value : Bool)
  /-- Any other value. -/
  | other
  deriving DecidableEq, Repr

/-- A statement, with the number of characters left at its start. -/
inductive Statement where
  /-- An assignment, with the number of characters left at the value. -/
  | assign (left : Nat) (key : Path) (content : Content) (valueLeft : Nat)
  /-- The header of a table. -/
  | table (left : Nat) (key : Path)
  /-- The header of an item of a sequence of tables. -/
  | tableItem (left : Nat) (key : Path)
  deriving Repr

/-- Without the spaces at the start. -/
def skipSpaces (cs : List Char) : List Char :=
  cs.dropWhile isSpace

/-! ## Keys -/

/-- Whether a character may stand in a key without quotes. -/
def isBare (c : Char) : Bool :=
  c.isAlphanum || c == '-' || c == '_'

/-- Reads one part of a key. -/
def keyPart (cs : List Char) : Outcome Key :=
  match cs with
  | '"' :: rest =>
    (basicBody (rest.length + 1) [] rest).map fun (name, behind) => (⟨name, cs.length⟩, behind)
  | '\'' :: rest => (literalBody [] rest).map fun (name, behind) => (⟨name, cs.length⟩, behind)
  | _ =>
    let name := cs.takeWhile isBare
    if name.isEmpty then refuse cs
    else .ok (⟨String.ofList name, cs.length⟩, cs.dropWhile isBare)

/-- Reads the parts of a key behind `part`, each behind a dot. No more than `fuel` parts are read.
-/
def keyParts : Nat → List Key → Key → List Char → Outcome Path
  | 0, front, part, cs => .ok (⟨front, part⟩, cs)
  | fuel + 1, front, part, cs =>
    match cs with
    | '.' :: rest =>
      match keyPart (skipSpaces rest) with
      | .ok (next, behind) => keyParts fuel (front ++ [part]) next (skipSpaces behind)
      -- A dot that no part follows is left to the caller.
      | .error e => if e.final then .error e else .ok (⟨front, part⟩, cs)
    | _ => .ok (⟨front, part⟩, cs)

/-- Reads a key and the spaces around it. -/
def key (cs : List Char) : Outcome Path :=
  match keyPart (skipSpaces cs) with
  | .error e => .error e
  | .ok (part, behind) => keyParts cs.length [] part (skipSpaces behind)

/-! ## Values -/

/-- Skips a comment, if there is one. -/
def skipComment : List Char → List Char
  | '#' :: rest => rest.dropWhile isPlain
  | cs => cs

/-- Skips spaces, line breaks and comments. No more than `fuel` of them are skipped. -/
def skipFiller : Nat → List Char → List Char
  | 0, cs => cs
  | fuel + 1, cs =>
    match skipSpaces cs with
    | '#' :: rest =>
      match afterBreak? (rest.dropWhile isPlain) with
      | some behind => skipFiller fuel behind
      | none => '#' :: rest
    | behind =>
      match afterBreak? behind with
      | some next => skipFiller fuel next
      | none => behind

/-- Makes a refusal stand. -/
def stand {α : Type} (found : Except Refusal α) : Except Refusal α :=
  found.mapError fun e => { e with final := true }

/-- Skips the items of a sequence behind its opening bracket, by means of a reader for one item. -/
def skipItems (item : List Char → Outcome Content) : Nat → List Char → Skipped
  | 0, cs => reject cs
  | fuel + 1, cs =>
    let start := skipFiller cs.length cs
    match item start with
    | .error e => if e.final then .error e else skipMark ']' start
    | .ok (_, rest) =>
      match skipFiller rest.length rest with
      | ',' :: behind => skipItems item fuel behind
      | behind => skipMark ']' behind

/-- Whether a key repeats an earlier one, or one of the two leads into the other. -/
def clashes (earlier new : List String) : Bool :=
  earlier.isPrefixOf new || new.isPrefixOf earlier

/-- Skips the assignments of a table on one line behind its opening brace, by means of a reader for
one value. The keys before are in `keys`, and the assignments start at `start`. -/
def skipAssignments (item : List Char → Outcome Content) (start : List Char) :
    Nat → List (List String) → List Char → Skipped
  | 0, _, cs => reject cs
  | fuel + 1, keys, cs =>
    match key cs with
    | .error e =>
      if e.final then .error e
      else if keys.isEmpty then skipMark '\x7d' (skipSpaces cs)
      -- No key follows the comma, which is therefore one too many.
      else reject (',' :: cs)
    | .ok (path, rest) => do
      let rest ← skipMark '=' rest
      let (_, rest) ← stand (item (skipSpaces rest))
      let names := (path.front ++ [path.last]).map Key.name
      if keys.any fun earlier => clashes earlier names then reject start
      else
        match skipSpaces rest with
        | ',' :: behind => skipAssignments item start fuel (names :: keys) behind
        | behind => skipMark '\x7d' behind

/-- Reads a value with at most `depth` containers in each other. -/
def value : Nat → List Char → Outcome Content
  | 0, cs => reject cs
  | depth + 1, cs =>
    let other (found : Skipped) : Outcome Content := found.map fun rest => (.other, rest)
    match cs with
    | [] => refuse []
    | c :: rest =>
      if c = '"' ∨ c = '\'' then other (skipString cs)
      else if c = '[' then other (skipItems (value depth) (rest.length + 1) rest)
      else if c = '\x7b' then other (skipAssignments (value depth) rest (rest.length + 1) [] rest)
      else if c = '+' ∨ c = '-' ∨ c.isDigit then other (skipNumeric cs)
      else if c = 't' then
        match rest with
        | 'r' :: 'u' :: 'e' :: behind => .ok (.flag true, behind)
        | _ => reject cs
      else if c = 'f' then
        match rest with
        | 'a' :: 'l' :: 's' :: 'e' :: behind => .ok (.flag false, behind)
        | _ => reject cs
      else if c = 'i' ∨ c = 'n' then other (skipFloat cs)
      else refuse cs

/-! ## Statements -/

/-- Skips what may stand at the end of a line, and the line's end. -/
def skipLineEnd (cs : List Char) : Skipped :=
  let rest := skipComment (skipSpaces cs)
  match afterBreak? rest with
  | some behind => .ok behind
  | none => if rest.isEmpty then .ok [] else reject rest

/-- Reads an assignment. -/
def assignment (cs : List Char) : Except Refusal (Statement × List Char) := do
  let (path, rest) ← stand (key cs)
  let rest ← skipMark '=' rest
  let start := skipSpaces rest
  let (content, rest) ← stand (value start.length.succ start)
  let rest ← skipLineEnd rest
  return (.assign cs.length path content start.length, rest)

/-- Reads the header of a table. -/
def header (cs : List Char) : Except Refusal (Statement × List Char) :=
  match cs with
  | '[' :: '[' :: rest => do
    let (path, rest) ← stand (key rest)
    match rest with
    | ']' :: ']' :: behind =>
      let rest ← skipLineEnd behind
      return (.tableItem cs.length path, rest)
    | _ => reject rest
  | _ => do
    let (path, rest) ← stand (key (cs.drop 1))
    let rest ← skipMark ']' rest
    let rest ← skipLineEnd rest
    return (.table cs.length path, rest)

/-- Reads statements up to the end of the document. No more than `fuel` lines are read. -/
def statements : Nat → List Char → Except Refusal (List Statement)
  | 0, cs => reject cs
  | fuel + 1, cs =>
    match skipSpaces cs with
    | [] => .ok []
    | '#' :: rest => (skipLineEnd ('#' :: rest)).bind (statements fuel)
    | '[' :: rest => (header ('[' :: rest)).bind fun (found, behind) =>
      (statements fuel behind).map (found :: ·)
    | start =>
      match afterBreak? start with
      | some behind => statements fuel behind
      | none =>
        -- A carriage return alone neither ends a line nor starts a key.
        if start.head? = some '\r' then reject start
        else (assignment start).bind fun (found, behind) =>
          (statements fuel behind).map (found :: ·)

end Manifest.Toml
