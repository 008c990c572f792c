import Manifest.Json.Members
import Manifest.Json.Refusal
import Manifest.Text.Basic

/-!
# Reading JSON

A reader takes a document from the front and leaves the rest. A refusal points either at the place
that reading has reached or one byte past it, where the character that was looked at or taken ends.
-/

namespace Manifest.Json.Reader

open Text (byteCount decimalDigit?)

/-- The outcome of reading an `α`: it and the rest of the document. -/
abbrev Outcome (α : Type) := Except Refusal (α × List Char)

/-- Refuses at the start of `rest`. -/
def refuseAt {α : Type} (cause : Cause) (rest : List Char) : Except Refusal α :=
  .error ⟨cause, byteCount rest⟩

/-- Refuses one byte behind the start of `rest`, or at the end of the document. -/
def refusePast {α : Type} (cause : Cause) (rest : List Char) : Except Refusal α :=
  .error ⟨cause, byteCount rest - 1⟩

/-- Without the blanks at the start. -/
def skipBlanks (cs : List Char) : List Char :=
  cs.dropWhile fun c => c = ' ' || c = '\n' || c = '\t' || c = '\r'

/-! ## Literals -/

/-- Reads the letters of a literal. -/
def literal (value : Value) : List Char → List Char → Outcome Value
  | [], rest => .ok (value, rest)
  | _ :: _, [] => refuseAt .endInValue []
  | letter :: letters, c :: rest =>
    if c = letter then literal value letters rest else refusePast .expectedLiteral (c :: rest)

/-! ## Numbers -/

/-- The largest significand that is kept exactly. -/
def maxSignificand : Nat :=
  UInt64.size - 1

/-- The largest exponent that is kept exactly. -/
def maxExponent : Nat :=
  UInt32.size / 2 - 1

/-- Extends `value` by digits as long as it stays within `limit`. The rest starts with a digit only
if that digit would take the value past the limit. The third part counts the digits taken. -/
def digits (limit : Nat) : Nat → Nat → List Char → Nat × List Char × Nat
  | value, taken, [] => (value, [], taken)
  | value, taken, c :: rest =>
    match decimalDigit? c with
    | some d =>
      if value * 10 + d ≤ limit then digits limit (value * 10 + d) (taken + 1) rest
      else (value, c :: rest, taken)
    | none => (value, c :: rest, taken)

/-- Without the decimal digits at the start. -/
def skipDigits (cs : List Char) : List Char :=
  cs.dropWhile fun c => (decimalDigit? c).isSome

/-- The number `significand * 10^exponent` with a sign, if it is in range. -/
def decimal (negative : Bool) (significand : Nat) (exponent : Int) (rest : List Char) :
    Outcome Number :=
  match Binary64.ofDecimal? significand exponent with
  | some x => .ok (.binary { x with negative := negative }, rest)
  | none => refuseAt .numberOutOfRange rest

/-- Reads an exponent behind its letter. An exponent too large to keep leaves zero or nothing. -/
def exponent (negative : Bool) (significand : Nat) (scale : Int) (cs : List Char) :
    Outcome Number :=
  let (minus, afterSign) :=
    match cs with
    | '+' :: rest => (false, rest)
    | '-' :: rest => (true, rest)
    | _ => (false, cs)
  match afterSign with
  | [] => refuseAt .endInValue []
  | c :: rest =>
    match decimalDigit? c with
    | none => refusePast .badNumber (c :: rest)
    | some d =>
      match digits maxExponent d 0 rest with
      | (value, rest, _) =>
        match rest.head?.bind decimalDigit? with
        | some _ =>
          -- The exponent does not fit, so the number is out of range unless it is zero.
          if significand ≠ 0 ∧ !minus then refuseAt .numberOutOfRange rest.tail
          else .ok (.binary { Binary64.zero with negative := negative }, skipDigits rest)
        | none => decimal negative significand (if minus then scale - value else scale + value) rest

/-- Reads what may follow the integer or the fraction part of a number that is not an integer. -/
def scaled (negative : Bool) (significand : Nat) (scale : Int) (cs : List Char) : Outcome Number :=
  match cs with
  | 'e' :: rest | 'E' :: rest => exponent negative significand scale rest
  | _ => decimal negative significand scale cs

/-- Reads a fraction behind its point. Digits that do not fit into the significand are dropped. -/
def fraction (negative : Bool) (significand : Nat) (scale : Int) (cs : List Char) :
    Outcome Number :=
  match digits maxSignificand significand 0 cs with
  | (value, rest, taken) =>
    match rest.head?.bind decimalDigit? with
    -- The significand is full, and no later digit counts.
    | some _ => scaled negative value (scale - taken) (skipDigits rest)
    | none =>
      if taken = 0 then
        if rest.isEmpty then refuseAt .endInValue [] else refusePast .badNumber rest
      else scaled negative value (scale - taken) rest

/-- The integer with this sign and magnitude, as long as it fits into 64 bits. Minus zero does not.
-/
def signedInteger? (negative : Bool) (magnitude : Nat) : Option Int :=
  if !negative then some magnitude
  else if magnitude ≠ 0 ∧ magnitude ≤ UInt64.size / 2 then some (-magnitude)
  else none

/-- Reads a number behind its sign. -/
def number (negative : Bool) (cs : List Char) : Outcome Number :=
  match cs with
  | [] => refuseAt .endInValue []
  | c :: rest =>
    match decimalDigit? c with
    | none => refusePast .badNumber cs
    | some first =>
      -- No digit may follow a leading zero.
      if first = 0 ∧ (rest.head?.bind decimalDigit?).isSome then refusePast .badNumber rest
      else
        match digits maxSignificand first 0 rest with
        | (value, rest, _) =>
          -- Every digit dropped from the integer part is a factor of ten.
          let afterDigits := skipDigits rest
          let dropped : Int := (rest.length - afterDigits.length : Nat)
          match afterDigits with
          | '.' :: behind => fraction negative value dropped behind
          | 'e' :: behind | 'E' :: behind => exponent negative value dropped behind
          | _ =>
            if dropped = 0 then
              match signedInteger? negative value with
              | some n => .ok (.integer n, afterDigits)
              | none => decimal negative value 0 afterDigits
            else decimal negative value dropped afterDigits

/-! ## Strings -/

/-- The value of four hexadecimal digits. -/
def hexUnit? (a b c d : Char) : Option Nat :=
  Text.numeral? 16 [a, b, c, d]

/-- Reads the four digits of an escaped code unit. The four bytes are taken before they are looked
at. -/
def codeUnit (cs : List Char) : Outcome Nat :=
  match cs with
  | a :: b :: c :: d :: rest =>
    match hexUnit? a b c d with
    | some n => .ok (n, rest)
    | none => .error ⟨.badEscape, byteCount cs - 4⟩
  | _ =>
    if 4 ≤ byteCount cs then .error ⟨.badEscape, byteCount cs - 4⟩ else refuseAt .endInString []

/-- Reads the escape that has to follow a leading surrogate. -/
def trailingUnit (cs : List Char) : Outcome Nat :=
  match cs with
  | '\\' :: 'u' :: rest => codeUnit rest
  | ['\\'] | [] => refuseAt .endInString []
  | '\\' :: rest => refusePast .unfinishedSurrogate rest
  | _ => refusePast .unfinishedSurrogate cs

/-- Reads an escaped character behind the letter that announces a code unit. Two code units form a
character outside the basic plane. -/
def unicodeEscape (cs : List Char) : Outcome Char :=
  match codeUnit cs with
  | .error e => .error e
  | .ok (n, rest) =>
    if 0xDC00 ≤ n ∧ n ≤ 0xDFFF then refuseAt .loneSurrogate rest
    else if 0xD800 ≤ n ∧ n ≤ 0xDBFF then
      match trailingUnit rest with
      | .error e => .error e
      | .ok (m, rest) =>
        if 0xDC00 ≤ m ∧ m ≤ 0xDFFF then
          .ok (Char.ofNat ((n - 0xD800) * 0x400 + (m - 0xDC00) + 0x10000), rest)
        else refuseAt .loneSurrogate rest
    else .ok (Char.ofNat n, rest)

/-- Reads an escape behind its backslash. -/
def escape (cs : List Char) : Outcome Char :=
  match cs with
  | [] => refuseAt .endInString []
  | c :: rest =>
    if c = '"' ∨ c = '\\' ∨ c = '/' then .ok (c, rest)
    else if c = 'b' then .ok ('\x08', rest)
    else if c = 'f' then .ok ('\x0c', rest)
    else if c = 'n' then .ok ('\n', rest)
    else if c = 'r' then .ok ('\r', rest)
    else if c = 't' then .ok ('\t', rest)
    else if c = 'u' then unicodeEscape rest
    else refusePast .badEscape cs

theorem length_of_codeUnit {cs rest : List Char} {n : Nat} (h : codeUnit cs = .ok (n, rest)) :
    rest.length ≤ cs.length := by
  unfold codeUnit at h
  split at h
  · split at h
    · simp only [Except.ok.injEq, Prod.mk.injEq] at h
      simp only [List.length_cons, ← h.2]
      omega
    · simp at h
  · split at h <;> simp [refuseAt] at h

theorem length_of_trailingUnit {cs rest : List Char} {n : Nat}
    (h : trailingUnit cs = .ok (n, rest)) : rest.length ≤ cs.length := by
  unfold trailingUnit at h
  split at h
  · have := length_of_codeUnit h
    simp only [List.length_cons]
    omega
  all_goals simp [refuseAt, refusePast] at h

theorem length_of_unicodeEscape {cs rest : List Char} {c : Char}
    (h : unicodeEscape cs = .ok (c, rest)) : rest.length ≤ cs.length := by
  unfold unicodeEscape at h
  split at h
  · simp at h
  case h_2 n middle hn =>
    have h₁ := length_of_codeUnit hn
    split at h
    · simp [refuseAt] at h
    · split at h
      · split at h
        · simp at h
        case h_2 m last hm =>
          have h₂ := length_of_trailingUnit hm
          split at h
          · simp only [Except.ok.injEq, Prod.mk.injEq] at h
            rw [← h.2]
            omega
          · simp [refuseAt] at h
      · simp only [Except.ok.injEq, Prod.mk.injEq] at h
        rw [← h.2]
        exact h₁

theorem length_of_escape {cs rest : List Char} {c : Char} (h : escape cs = .ok (c, rest)) :
    rest.length ≤ cs.length := by
  unfold escape at h
  split at h
  · simp [refuseAt] at h
  · repeat' split at h
    all_goals
      first
      | (simp only [Except.ok.injEq, Prod.mk.injEq] at h
         simp [← h.2])
      | (have shorter := length_of_unicodeEscape h
         simp only [List.length_cons]
         omega)
      | simp [refusePast] at h

/-- Reads a string behind its opening quote, with the characters before in reverse. -/
def stringBody (before : List Char) (cs : List Char) : Outcome String :=
  match cs with
  | [] => refuseAt .endInString []
  | c :: rest =>
    if c = '"' then .ok (String.ofList before.reverse, rest)
    else if c.toNat < 0x20 then refusePast .controlCharacter cs
    else if c = '\\' then
      match h : escape rest with
      | .error e => .error e
      | .ok (escaped, behind) =>
        have := length_of_escape h
        stringBody (escaped :: before) behind
    else stringBody (c :: before) rest
termination_by cs.length

/-! ## Values -/

/-- Reads the items behind an opening bracket, the first one if `first` says so, by means of a
reader for one item. No more than `fuel` items are read. -/
def items (item : List Char → Outcome Value) :
    Nat → Bool → List Value → List Char → Outcome Value
  | 0, _, _, cs => refuseAt .endInList cs
  | fuel + 1, first, before, cs =>
    match skipBlanks cs with
    | [] => refuseAt .endInList []
    | ']' :: rest => .ok (.array before.reverse, rest)
    | c :: rest =>
      if first then next fuel before (c :: rest)
      else if c = ',' then
        match skipBlanks rest with
        | [] => refuseAt .endInValue []
        | ']' :: rest => refusePast .trailingComma (']' :: rest)
        | behind => next fuel before behind
      else refusePast .expectedListEnd (c :: rest)
where
  /-- Reads one item and goes on. -/
  next (fuel : Nat) (before : List Value) (cs : List Char) : Outcome Value :=
    match item cs with
    | .error e => .error e
    | .ok (value, rest) => items item fuel false (value :: before) rest

/-- Reads the colon and the value of a member. -/
def memberValue (item : List Char → Outcome Value) (cs : List Char) : Outcome Value :=
  match skipBlanks cs with
  | [] => refuseAt .endInObject []
  | ':' :: rest => item rest
  | rest => refusePast .expectedColon rest

/-- Reads the members behind an opening brace, like `items`. -/
def members (item : List Char → Outcome Value) :
    Nat → Bool → Pairs Value → List Char → Outcome Value
  | 0, _, _, cs => refuseAt .endInObject cs
  | fuel + 1, first, before, cs =>
    match skipBlanks cs with
    | [] => refuseAt .endInObject []
    | '\x7d' :: rest => .ok (.object before, rest)
    | c :: rest =>
      if first then named fuel before (c :: rest)
      else if c = ',' then
        match skipBlanks rest with
        | [] => refuseAt .endInValue []
        | '\x7d' :: rest => refusePast .trailingComma ('\x7d' :: rest)
        | behind => named fuel before behind
      else refusePast .expectedObjectEnd (c :: rest)
where
  /-- Reads one member and goes on. A later member replaces an earlier one of its name. -/
  named (fuel : Nat) (before : Pairs Value) (cs : List Char) : Outcome Value :=
    match cs with
    | '"' :: rest =>
      match stringBody [] rest with
      | .error e => .error e
      | .ok (name, rest) =>
        match memberValue item rest with
        | .error e => .error e
        | .ok (value, rest) => members item fuel false (before.insert name value) rest
    | _ => refusePast .nameNotString cs

/-- Reads a value after blanks, with at most `depth - 1` containers open at a time. -/
def value : Nat → List Char → Outcome Value
  | 0, cs => refusePast .tooDeep cs
  | depth + 1, cs =>
    match skipBlanks cs with
    | [] => refuseAt .endInValue []
    | c :: rest =>
      if c = 'n' then literal .null ['u', 'l', 'l'] rest
      else if c = 't' then literal (.bool true) ['r', 'u', 'e'] rest
      else if c = 'f' then literal (.bool false) ['a', 'l', 's', 'e'] rest
      else if c = '-' then (number true rest).map fun (n, rest) => (.number n, rest)
      else if (decimalDigit? c).isSome then
        (number false (c :: rest)).map fun (n, rest) => (.number n, rest)
      else if c = '"' then (stringBody [] rest).map fun (s, rest) => (.string s, rest)
      else if c = '[' then
        if depth = 0 then refusePast .tooDeep (c :: rest)
        else items (value depth) (rest.length + 1) true [] rest
      else if c = '\x7b' then
        if depth = 0 then refusePast .tooDeep (c :: rest)
        else members (value depth) (rest.length + 1) true [] rest
      else refusePast .expectedValue (c :: rest)

/-- The number of open containers that is refused. -/
def depthLimit : Nat :=
  128

/-- Reads a whole document: one value between blanks. -/
def document (text : List Char) : Except Refusal Value :=
  match value depthLimit text with
  | .error e => .error e
  | .ok (v, rest) =>
    match skipBlanks rest with
    | [] => .ok v
    | behind => refusePast .trailingCharacters behind

end Reader

/-- The value that a document denotes. -/
def read (text : String) : Except Fault Value :=
  (Reader.document text.toList).mapError fun refusal => refusal.fault text.toList

end Manifest.Json
