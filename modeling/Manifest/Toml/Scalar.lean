import Manifest.Text.Basic
import Manifest.Toml.Fault

/-!
# Scalars of TOML

Reading strings, numbers, dates and times. Of these only the text of a string is ever looked at, as
a key, so the other readers just find the end.
-/

namespace Manifest.Toml

/-- What a reader finds: an `α` and the rest of the document. -/
abbrev Outcome (α : Type) := Except Refusal (α × List Char)

/-- The rest of the document behind something that is not looked at. -/
abbrev Skipped := Except Refusal (List Char)

/-- Refuses what stands at the start of `rest`, where something else may be tried. -/
def refuse {α : Type} (rest : List Char) : Except Refusal α :=
  .error ⟨rest.length, false⟩

/-- Refuses what stands at the start of `rest` for good. -/
def reject {α : Type} (rest : List Char) : Except Refusal α :=
  .error ⟨rest.length, true⟩

/-- Whether a character separates within a line. -/
def isSpace (c : Char) : Bool :=
  c == ' ' || c == '\t'

/-- Whether a character may stand in a comment or a literal string. -/
def isPlain (c : Char) : Bool :=
  c == '\t' || (0x20 ≤ c.toNat && c.toNat != 0x7F)

/-- What follows a line break, if one stands at the start. -/
def afterBreak? : List Char → Option (List Char)
  | '\n' :: rest => some rest
  | '\r' :: '\n' :: rest => some rest
  | _ => none

/-! ## Strings -/

/-- Reads the digits of an escaped code point. -/
def codePoint (count : Nat) (cs : List Char) : Outcome Char :=
  match Text.numeral? 16 (cs.take count) with
  | some n =>
    if count ≤ cs.length ∧ n.isValidChar then .ok (Char.ofNat n, cs.drop count) else reject cs
  | none => reject cs

/-- Reads an escape behind its backslash. -/
def escape : List Char → Outcome Char
  | [] => refuse []
  | 'b' :: rest => .ok ('\x08', rest)
  | 't' :: rest => .ok ('\t', rest)
  | 'n' :: rest => .ok ('\n', rest)
  | 'f' :: rest => .ok ('\x0c', rest)
  | 'r' :: rest => .ok ('\r', rest)
  | '"' :: rest => .ok ('"', rest)
  | '\\' :: rest => .ok ('\\', rest)
  | 'u' :: rest => codePoint 4 rest
  | 'U' :: rest => codePoint 8 rest
  | _ :: rest => reject rest

/-- Reads a basic string behind its opening quote, with the characters before in reverse. No more
than `fuel` characters are read. -/
def basicBody : Nat → List Char → List Char → Outcome String
  | 0, _, cs => reject cs
  | _ + 1, _, [] => reject []
  | fuel + 1, before, c :: rest =>
    if c = '"' then .ok (String.ofList before.reverse, rest)
    else if c = '\\' then
      match escape rest with
      | .ok (escaped, behind) => basicBody fuel (escaped :: before) behind
      | .error e => if e.final then .error e else reject (c :: rest)
    else if isPlain c then basicBody fuel (c :: before) rest
    else reject (c :: rest)

/-- Reads a literal string behind its opening quote. -/
def literalBody (before : List Char) : List Char → Outcome String
  | [] => reject []
  | c :: rest =>
    if c = '\'' then .ok (String.ofList before.reverse, rest)
    else if isPlain c then literalBody (c :: before) rest
    else reject (c :: rest)

/-- Skips spaces and line breaks. -/
def skipBreaks : List Char → List Char
  | '\r' :: '\n' :: rest => skipBreaks rest
  | c :: rest => if isSpace c || c == '\n' then skipBreaks rest else c :: rest
  | [] => []

/-- What follows a backslash that ends a line, less the blanks behind it. -/
def afterLineEnd? (cs : List Char) : Option (List Char) :=
  (afterBreak? (cs.dropWhile isSpace)).map skipBreaks

/-- Skips a string over several lines, behind its opening quotes. Up to two quotes may stand in
front of the closing ones. No more than `fuel` characters are read. -/
def skipLong (quote : Char) (escapes : Bool) : Nat → List Char → Skipped
  | 0, cs => reject cs
  | _ + 1, [] => reject []
  | fuel + 1, c :: rest =>
    if c = quote then
      -- Of five or more quotes the third to the fifth close the string.
      let run := (c :: rest).takeWhile (· == quote)
      if run.length < 3 then skipLong quote escapes fuel rest
      else .ok ((c :: rest).drop (min run.length 5))
    else if c = '\\' ∧ escapes then
      match afterLineEnd? rest with
      | some behind => skipLong quote escapes fuel behind
      | none =>
        match escape rest with
        | .ok (_, behind) => skipLong quote escapes fuel behind
        | .error e => if e.final then .error e else reject (c :: rest)
    else
      match afterBreak? (c :: rest) with
      | some behind => skipLong quote escapes fuel behind
      | none => if isPlain c then skipLong quote escapes fuel rest else reject (c :: rest)

/-- Skips a string of any form. -/
def skipString (cs : List Char) : Skipped :=
  match cs with
  | '"' :: '"' :: '"' :: rest => skipLong '"' true (rest.length + 1) rest
  | '\'' :: '\'' :: '\'' :: rest => skipLong '\'' false (rest.length + 1) rest
  | '"' :: rest => (basicBody (rest.length + 1) [] rest).map (·.2)
  | '\'' :: rest => (literalBody [] rest).map (·.2)
  | _ => refuse cs

/-! ## Numbers -/

/-- Skips digits, single underscores between them allowed. -/
def skipDigits (isDigit : Char → Bool) : List Char → Skipped
  | [] => .ok []
  | c :: rest =>
    if isDigit c then skipDigits isDigit rest
    else if c = '_' then
      match rest with
      | d :: behind => if isDigit d then skipDigits isDigit behind else reject rest
      | [] => reject []
    else .ok (c :: rest)

/-- Skips one or more digits. -/
def skipDigits1 (isDigit : Char → Bool) (cs : List Char) : Skipped :=
  match cs with
  | c :: rest => if isDigit c then skipDigits isDigit rest else reject cs
  | [] => reject []

/-- Without a sign at the start. -/
def skipSign : List Char → List Char
  | '+' :: rest => rest
  | '-' :: rest => rest
  | cs => cs

/-- Skips a decimal integer with an optional sign. Behind a leading zero it ends. -/
def skipDecimal (cs : List Char) : Skipped :=
  match skipSign cs with
  | '0' :: rest => .ok rest
  | c :: rest => if c.isDigit then skipDigits Char.isDigit rest else refuse (c :: rest)
  | [] => refuse []

/-- Skips an exponent behind its letter. -/
def skipExponent (cs : List Char) : Skipped :=
  skipDigits1 Char.isDigit (skipSign cs)

/-- Skips a number with a fraction or an exponent, or one that is infinite or none. -/
def skipFloat (cs : List Char) : Skipped :=
  match skipSign cs with
  | 'i' :: 'n' :: 'f' :: rest => .ok rest
  | 'n' :: 'a' :: 'n' :: rest => .ok rest
  | _ =>
    match skipDecimal cs with
    | .error e => .error e
    | .ok ('.' :: rest) =>
      match skipDigits1 Char.isDigit rest with
      | .ok ('e' :: behind) => skipExponent behind
      | .ok ('E' :: behind) => skipExponent behind
      | other => other
    | .ok ('e' :: rest) => skipExponent rest
    | .ok ('E' :: rest) => skipExponent rest
    -- Neither a fraction nor an exponent follows: an integer, which is not read here.
    | .ok rest => refuse rest

/-- The value of the digits of an integer in a base. -/
def integerValue (base : Nat) (digits : List Char) : Nat :=
  (Text.numeral? base (digits.filter Char.isAlphanum)).getD 0

/-- Skips an integer, which has to fit into 64 bits. -/
def skipInteger (cs : List Char) : Skipped :=
  match cs with
  | '0' :: 'x' :: rest => fits 16 rest (skipDigits1 (fun c => (Text.hexDigit? c).isSome) rest)
  | '0' :: 'o' :: rest => fits 8 rest (skipDigits1 (fun c => '0' ≤ c && c ≤ '7') rest)
  | '0' :: 'b' :: rest => fits 2 rest (skipDigits1 (fun c => c == '0' || c == '1') rest)
  | _ => fits 10 cs (skipDecimal cs)
where
  /-- Rejects the number from `start` if it is too large. -/
  fits (base : Nat) (start : List Char) (found : Skipped) : Skipped :=
    match found with
    | .error e => .error e
    | .ok rest =>
      let magnitude := integerValue base (start.take (start.length - rest.length))
      let limit := if start.head? = some '-' then UInt64.size / 2 else UInt64.size / 2 - 1
      if magnitude ≤ limit then .ok rest else reject cs

/-! ## Dates and times -/

/-- Reads a number of so many digits. -/
def fixedDigits? (count : Nat) (cs : List Char) : Option (Nat × List Char) :=
  let digits := cs.take count
  if digits.length = count ∧ digits.all Char.isDigit then
    some (integerValue 10 digits, cs.drop count)
  else none

/-- Reads two digits in a range, or rejects what stands there. -/
def component (low high : Nat) (cs : List Char) : Outcome Nat :=
  match fixedDigits? 2 cs with
  | some (n, rest) => if low ≤ n ∧ n ≤ high then .ok (n, rest) else reject cs
  | none => reject cs

/-- Skips a mark that has to stand there. -/
def skipMark (mark : Char) (cs : List Char) : Skipped :=
  match cs with
  | c :: rest => if c = mark then .ok rest else reject cs
  | [] => reject []

/-- The number of days in a month. -/
def daysIn (year month : Nat) : Nat :=
  let leap := (year % 4 == 0 && year % 100 != 0) || year % 400 == 0
  if month == 2 then (if leap then 29 else 28)
  else if month == 4 || month == 6 || month == 9 || month == 11 then 30
  else 31

/-- Skips a date. -/
def skipDate (cs : List Char) : Skipped :=
  match fixedDigits? 4 cs with
  | some (year, '-' :: rest) => do
    let (month, rest) ← component 1 12 rest
    let dayStart ← skipMark '-' rest
    let (_, rest) ← component 1 (daysIn year month) dayStart
    return rest
  | _ => refuse cs

/-- Skips a time of day. -/
def skipTime (cs : List Char) : Skipped :=
  match fixedDigits? 2 cs with
  | some (hour, ':' :: rest) =>
    if 23 < hour then refuse cs
    else do
      let (_, rest) ← component 0 59 rest
      let rest ← skipMark ':' rest
      let (_, rest) ← component 0 60 rest
      match rest with
      | '.' :: fraction =>
        if (fraction.head?.map Char.isDigit).getD false then
          return fraction.dropWhile Char.isDigit
        else return rest
      | _ => return rest
  | _ => refuse cs

/-- Skips an offset from universal time, if there is one. -/
def skipOffset (cs : List Char) : Skipped :=
  match cs with
  | 'Z' :: rest => .ok rest
  | 'z' :: rest => .ok rest
  | c :: rest =>
    if c = '+' ∨ c = '-' then do
      let (_, rest) ← component 0 23 rest
      let rest ← skipMark ':' rest
      let (_, rest) ← component 0 59 rest
      return rest
    else .ok cs
  | [] => .ok []

/-- Skips a date, a time of day, or both. -/
def skipDateTime (cs : List Char) : Skipped :=
  match skipDate cs with
  | .error e => if e.final then .error e else skipTime cs
  | .ok rest =>
    match rest with
    | c :: behind =>
      if c = 'T' ∨ c = 't' ∨ c = ' ' then
        match skipTime behind with
        | .ok afterTime => skipOffset afterTime
        | .error e => if e.final then .error e else .ok rest
      else .ok rest
    | [] => .ok []

/-- Tries one reader after the other until one does not leave the matter to the next. -/
def firstOf (cs : List Char) : List (List Char → Skipped) → Skipped
  | [] => refuse cs
  | [reader] => reader cs
  | reader :: others =>
    match reader cs with
    | .error e => if e.final then .error e else firstOf cs others
    | found => found

/-- Skips a date, a time or a number. -/
def skipNumeric (cs : List Char) : Skipped :=
  firstOf cs [skipDateTime, skipFloat, skipInteger]

end Manifest.Toml
