import Mathlib.Data.List.TakeWhile
import Manifest.Json.Reader
import Manifest.Json.Written
import Manifest.Proofs.ArrangedValues
import Manifest.Proofs.Numerals

/-!
# Reading written values back

A value that is written on indented lines is read back with the members of its objects in order
(`read_pretty`), unless it is nested too deeply or has a number that is not read back itself
(`Value.Readable`). Whole numbers of 64 bits are (`Number.readsBack_integer`).

Each reader is shown what it makes of what was written and what it leaves, for everything that may
follow there (`Ends`). A sequence is read as its first item and the items behind a comma
(`items_behindItem`), and so are members (`members_behindMember`), which are put in order on the way.
-/

namespace Manifest.Json

open Text (decimalDigit?)

namespace Reader

/-- What may follow a value that is written: nothing, a comma, or a line break. -/
def Ends (rest : List Char) : Prop :=
  ∀ c ∈ rest.head?, c = ',' ∨ c = '\n'

theorem ends_nil : Ends [] :=
  nofun

theorem ends_comma (rest : List Char) : Ends (',' :: rest) := by
  simp [Ends]

theorem ends_lineBreak (level : Nat) (rest : List Char) : Ends (Value.lineBreak level ++ rest) := by
  simp [Ends, Value.lineBreak]

/-- No digit goes on where a value ends. -/
theorem Ends.noDigit {rest : List Char} (h : Ends rest) :
    ∀ c ∈ rest.head?, decimalDigit? c = none := by
  intro c hc
  rcases h c hc with rfl | rfl <;> decide

theorem Ends.bind_noDigit {rest : List Char} (h : Ends rest) :
    rest.head?.bind decimalDigit? = none := by
  cases hhead : rest.head? with
  | none => rfl
  | some c => exact h.noDigit c hhead

theorem Ends.skipDigits_eq {rest : List Char} (h : Ends rest) : skipDigits rest = rest := by
  cases rest with
  | nil => rfl
  | cons c rest => exact List.dropWhile_cons_of_neg (by simp [h.noDigit c rfl])

theorem Ends.cases {rest : List Char} (h : Ends rest) :
    rest = [] ∨ (∃ behind, rest = ',' :: behind) ∨ ∃ behind, rest = '\n' :: behind := by
  cases rest with
  | nil => exact .inl rfl
  | cons c rest =>
    rcases h c rfl with rfl | rfl
    · exact .inr (.inl ⟨rest, rfl⟩)
    · exact .inr (.inr ⟨rest, rfl⟩)

/-! ## Blanks -/

/-- The blanks of a line break are skipped. -/
theorem skipBlanks_lineBreak (level : Nat) (cs : List Char) :
    skipBlanks (Value.lineBreak level ++ cs) = skipBlanks cs := by
  refine List.dropWhile_append_of_pos fun c hc => ?_
  rcases List.mem_cons.1 hc with rfl | hspace
  · rfl
  · rw [List.eq_of_mem_replicate hspace]
    rfl

/-! ## Strings -/

/-- An escape inside a string adds the character that it stands for. -/
theorem stringBody_escape {behind rest : List Char} {c : Char} (before : List Char)
    (h : escape behind = .ok (c, rest)) :
    stringBody before ('\\' :: behind) = stringBody (c :: before) rest := by
  rw [stringBody, if_neg (by decide), if_neg (by decide), if_pos rfl]
  split
  · next e he => exact absurd (he.symm.trans h) (by simp)
  · next d more hd =>
    obtain ⟨rfl, rfl⟩ := Prod.mk.inj (Except.ok.inj (hd.symm.trans h))
    rfl

/-- A control character that is written by its number is read from it. -/
theorem escape_hexPair {c : Char} (h : c.toNat < 0x20) (rest : List Char) :
    escape ('u' :: '0' :: '0' :: hexPair c.toNat ++ rest) = .ok (c, rest) := by
  -- There are 32 control characters below the blank, so that their digits are checked one by one.
  have hunits : ∀ n < 0x20, hexUnit? '0' '0' (Nat.digitChar (n / 16)) (Nat.digitChar (n % 16)) =
      some n := by decide
  have hunit : codeUnit ('0' :: '0' :: hexPair c.toNat ++ rest) = .ok (c.toNat, rest) := by
    have hdigits := hunits c.toNat h
    unfold hexPair codeUnit
    dsimp only [List.cons_append, List.nil_append]
    rw [hdigits]
  show unicodeEscape ('0' :: '0' :: hexPair c.toNat ++ rest) = _
  rw [unicodeEscape, hunit]
  dsimp only
  rw [if_neg (by omega), if_neg (by omega), Char.ofNat_toNat]

/-- A character is read back from what it is written as in a string. -/
theorem stringBody_escapedChar (c : Char) (before rest : List Char) :
    stringBody before (escapedChar c ++ rest) = stringBody (c :: before) rest := by
  unfold escapedChar
  split_ifs with hquote hbackslash hfeed hreturn htab hback hform hcontrol
  case pos => subst hquote; exact stringBody_escape before rfl
  case pos => subst hbackslash; exact stringBody_escape before rfl
  case pos => subst hfeed; exact stringBody_escape before rfl
  case pos => subst hreturn; exact stringBody_escape before rfl
  case pos => subst htab; exact stringBody_escape before rfl
  case pos => subst hback; exact stringBody_escape before rfl
  case pos => subst hform; exact stringBody_escape before rfl
  case pos => exact stringBody_escape before (escape_hexPair hcontrol rest)
  case neg =>
    rw [List.singleton_append, stringBody, if_neg hquote, if_neg hcontrol, if_neg hbackslash]

/-- The characters of a string are read back up to the quote. -/
theorem stringBody_escaped (cs before rest : List Char) :
    stringBody before (cs.flatMap escapedChar ++ '"' :: rest) =
      .ok (String.ofList (before.reverse ++ cs), rest) := by
  -- Each character that is read joins those that were read before it.
  induction cs generalizing before with
  | nil =>
    rw [List.flatMap_nil, List.nil_append, stringBody, if_pos rfl, List.append_nil]
  | cons c cs ih =>
    rw [List.flatMap_cons, List.append_assoc, stringBody_escapedChar, ih, List.reverse_cons,
      List.append_assoc, List.singleton_append]

/-- A string that is written starts and ends with a quote. -/
theorem writtenString_append (s : String) (rest : List Char) :
    writtenString s ++ rest = '"' :: (s.toList.flatMap escapedChar ++ '"' :: rest) := by
  rw [writtenString, List.cons_append, List.cons_append, List.append_assoc, List.singleton_append]

/-- A string is read back behind its opening quote. -/
theorem stringBody_written (s : String) (rest : List Char) :
    stringBody [] (s.toList.flatMap escapedChar ++ '"' :: rest) = .ok (s, rest) := by
  rw [stringBody_escaped, List.reverse_nil, List.nil_append, String.ofList_toList]

/-! ## Numbers -/

end Reader

/-- What is written of a number is read as this number, whatever follows it. -/
inductive Number.ReadsBack (n : Number) : Prop where
  /-- It starts with a digit. -/
  | unsigned {c : Char} {cs : List Char} (hwritten : n.written = c :: cs) (hdigit : c.isDigit)
    (hread : ∀ rest, Reader.Ends rest → Reader.number false (c :: (cs ++ rest)) = .ok (n, rest))
  /-- It starts with a sign. -/
  | signed {cs : List Char} (hwritten : n.written = '-' :: cs)
    (hread : ∀ rest, Reader.Ends rest → Reader.number true (cs ++ rest) = .ok (n, rest))

namespace Reader

/-- Digits are read as the number that they are the digits of, behind the one in front, as long as
this is within the limit. -/
theorem digits_append {cs : List Char} (hcs : ∀ c ∈ cs, c.isDigit) {limit value : Nat}
    (hlimit : Nat.ofDigitChars 10 cs value ≤ limit) (taken : Nat) {rest : List Char}
    (hrest : Ends rest) :
    digits limit value taken (cs ++ rest) =
      (Nat.ofDigitChars 10 cs value, rest, taken + cs.length) := by
  induction cs generalizing value taken with
  | nil =>
    rw [List.nil_append]
    cases rest with
    | nil => rfl
    | cons c rest =>
      rw [digits, hrest.noDigit c rfl]
      rfl
  | cons c cs ih =>
    obtain ⟨hc, hcs⟩ := List.forall_mem_cons.1 hcs
    have hvalue : value * 10 + (c.toNat - 48) = 10 * value + (c.toNat - '0'.toNat) := by
      rw [Nat.mul_comm]
      rfl
    rw [Nat.ofDigitChars_cons] at hlimit ⊢
    have hstep := (Text.le_ofDigitChars cs _).trans hlimit
    rw [List.cons_append, digits, Text.decimalDigit?_of_isDigit hc]
    dsimp only
    rw [hvalue, if_pos hstep, ih hcs hlimit, List.length_cons, Nat.add_assoc, Nat.add_comm 1]

/-- The digits of a number that fits are read as it, with either sign. -/
theorem number_toDigits {n : Nat} (hn : n ≤ maxSignificand) (negative : Bool) {rest : List Char}
    (hrest : Ends rest) :
    number negative (Nat.toDigits 10 n ++ rest) =
      match signedInteger? negative n with
      | some m => .ok (.integer m, rest)
      | none => decimal negative n 0 rest := by
  obtain ⟨c, cs, hdigits, hzero⟩ := Text.exists_toDigits n
  have hdigit : ∀ d ∈ c :: cs, d.isDigit := fun d hd =>
    Text.isDigit_of_mem_toDigits (hdigits ▸ hd)
  obtain ⟨hc, hcs⟩ := List.forall_mem_cons.1 hdigit
  have hvalue : Nat.ofDigitChars 10 cs (c.toNat - 48) = n := by
    have hself : Nat.ofDigitChars 10 (c :: cs) 0 = n := by
      rw [← hdigits, Nat.ofDigitChars_ten_toDigits]
    rwa [Nat.ofDigitChars_cons, Nat.mul_zero, Nat.zero_add] at hself
  have hread : digits maxSignificand (c.toNat - 48) 0 (cs ++ rest) = (n, rest, 0 + cs.length) := by
    rw [digits_append hcs (hvalue ▸ hn) 0 hrest, hvalue]
  -- Zero is written as one digit, so that no digit follows it.
  have hleading : ¬ (c.toNat - 48 = 0 ∧ ((cs ++ rest).head?.bind decimalDigit?).isSome) := by
    rintro ⟨hfirst, hsecond⟩
    have hrange := Text.toNat_of_isDigit hc
    have hn : n = 0 := hzero (Char.toNat_inj.1 (show c.toNat = 48 by omega))
    rw [hn, Nat.toDigits_zero] at hdigits
    rw [← (List.cons.inj hdigits).2, List.nil_append, hrest.bind_noDigit] at hsecond
    exact absurd hsecond (by simp)
  rw [hdigits, List.cons_append, number]
  dsimp only
  rw [Text.decimalDigit?_of_isDigit hc]
  dsimp only
  rw [if_neg hleading, hread]
  dsimp only
  rw [hrest.skipDigits_eq, Nat.sub_self]
  rcases hrest.cases with rfl | ⟨behind, rfl⟩ | ⟨behind, rfl⟩ <;> rfl

end Reader

/-- Integers of 64 bits are read back, with a sign or without. -/
theorem Number.readsBack_integer {n : Int} (hlow : -((UInt64.size / 2 : Nat) : Int) ≤ n)
    (hhigh : n < UInt64.size) : (integer n).ReadsBack := by
  cases n with
  | ofNat m =>
    obtain ⟨c, cs, hdigits, -⟩ := Text.exists_toDigits m
    have hwritten : (integer (.ofNat m)).written = c :: cs := Nat.toList_repr.trans hdigits
    have hdigit : c.isDigit := Text.isDigit_of_mem_toDigits (hdigits ▸ List.mem_cons_self)
    have hfits : m ≤ Reader.maxSignificand := by
      exact Nat.le_of_lt_succ (Int.ofNat_lt.1 hhigh)
    refine .unsigned hwritten hdigit fun rest hrest => ?_
    rw [← List.cons_append, ← hdigits, Reader.number_toDigits hfits false hrest]
    rfl
  | negSucc m =>
    have hwritten : (integer (.negSucc m)).written = '-' :: Nat.toDigits 10 (m + 1) := by
      show ("-" ++ (m + 1).repr).toList = _
      rw [String.toList_append, Nat.toList_repr]
      rfl
    have hhalf : m + 1 ≤ UInt64.size / 2 := by omega
    have hfits : m + 1 ≤ Reader.maxSignificand := hhalf.trans (by decide)
    have hsigned : Reader.signedInteger? true (m + 1) = some (.negSucc m) := by
      rw [Reader.signedInteger?, if_neg (by decide), if_pos ⟨Nat.succ_ne_zero m, hhalf⟩]
      rfl
    refine .signed hwritten fun rest hrest => ?_
    rw [Reader.number_toDigits hfits true hrest, hsigned]

/-! ## Values -/

namespace Value

/-- The value can be read back with so many containers open. -/
inductive Readable : Nat → Value → Prop where
  | null {depth : Nat} : Readable depth .null
  | bool {depth : Nat} (b : Bool) : Readable depth (.bool b)
  | number {depth : Nat} {n : Number} (h : n.ReadsBack) : Readable depth (.number n)
  | string {depth : Nat} (s : String) : Readable depth (.string s)
  | array {depth : Nat} {items : List Value} (h : ∀ v ∈ items, Readable depth v) :
    Readable (depth + 1) (.array items)
  | object {depth : Nat} {pairs : Pairs Value} (h : ∀ pair ∈ pairs, Readable depth pair.2) :
    Readable (depth + 1) (.object pairs)

/-- Texts can be read back. -/
theorem readable_strings {depth : Nat} (texts : List String) :
    (strings texts).Readable (depth + 1) := by
  refine .array fun v hv => ?_
  obtain ⟨s, -, rfl⟩ := List.mem_map.1 hv
  exact .string s

/-- What is written behind the first of some items. -/
def behindItem (level : Nat) : List Value → List Char
  | [] => []
  | v :: rest => ',' :: indentedItems level (v :: rest)

theorem indentedItems_cons (level : Nat) (v : Value) (rest : List Value) :
    indentedItems level (v :: rest) =
      lineBreak level ++ (indented level v ++ behindItem level rest) := by
  cases rest with
  | nil => simp [indentedItems, behindItem]
  | cons w rest => simp [indentedItems, behindItem]

/-- What is written behind the first of some members. -/
def behindMember (level : Nat) : Pairs Value → List Char
  | [] => []
  | pair :: rest => ',' :: indentedMembers level (pair :: rest)

theorem indentedMembers_cons (level : Nat) (name : String) (v : Value) (rest : Pairs Value) :
    indentedMembers level ((name, v) :: rest) = lineBreak level ++
      (writtenString name ++ ':' :: ' ' :: (indented level v ++ behindMember level rest)) := by
  cases rest with
  | nil => simp [indentedMembers, behindMember]
  | cons w rest => simp [indentedMembers, behindMember]

end Value

namespace Reader

open Value (behindItem behindMember lineBreak)

/-- A text starts with a character that is no blank and closes nothing. -/
def Opens (text : List Char) : Prop :=
  ∃ c cs, text = c :: cs ∧ c ∉ [' ', '\n', '\t', '\r', ']', '\x7d']

/-- No blanks are skipped in front of such a text. -/
theorem Opens.skipBlanks {text : List Char} (h : Opens text) (rest : List Char) :
    ∃ c cs, skipBlanks (text ++ rest) = c :: cs ∧ text ++ rest = c :: cs ∧ c ≠ ']' ∧ c ≠ '\x7d' := by
  obtain ⟨c, cs, rfl, hc⟩ := h
  simp only [List.mem_cons, List.not_mem_nil, or_false, not_or] at hc
  obtain ⟨hspace, hfeed, htab, hreturn, hbracket, hbrace⟩ := hc
  refine ⟨c, cs ++ rest, List.dropWhile_cons_of_neg ?_, rfl, hbracket, hbrace⟩
  simp [hspace, hfeed, htab, hreturn]

/-! ## Items -/

section

variable {item : List Char → Outcome Value} {level : Nat}

/-- The reader for one item reads a value that is written at a level. -/
def ReadsItem (item : List Char → Outcome Value) (level : Nat) (v : Value) : Prop :=
  Opens (v.indented level) ∧
    ∀ rest, Ends rest → item (v.indented level ++ rest) = .ok (v.arranged, rest)

/-- An item is read behind the bracket or the comma in front of it. -/
theorem next_indented {v : Value} (hv : ReadsItem item level v) (fuel : Nat) (before : List Value)
    {rest : List Char} (hrest : Ends rest) :
    items.next item fuel before (v.indented level ++ rest) =
      items item fuel false (v.arranged :: before) rest := by
  rw [items.next, hv.2 rest hrest]

/-- The first item is read behind the line break in front of it. -/
theorem items_first {v : Value} (hv : ReadsItem item level v) (fuel : Nat) {rest : List Char}
    (hrest : Ends rest) :
    items item (fuel + 1) true [] (lineBreak level ++ (v.indented level ++ rest)) =
      items item fuel false [v.arranged] rest := by
  obtain ⟨c, cs, hskip, htext, hbracket, -⟩ := hv.1.skipBlanks rest
  rw [items, skipBlanks_lineBreak, hskip]
  split
  · next h => exact absurd h (by simp)
  · next h => exact absurd (List.cons.inj h).1 hbracket
  · next h =>
    rw [if_pos rfl, ← h, ← htext]
    exact next_indented hv fuel [] hrest

/-- Any other item is read behind its comma. -/
theorem items_comma {v : Value} (hv : ReadsItem item level v) (fuel : Nat) (before : List Value)
    {rest : List Char} (hrest : Ends rest) :
    items item (fuel + 1) false before (',' :: (lineBreak level ++ (v.indented level ++ rest))) =
      items item fuel false (v.arranged :: before) rest := by
  obtain ⟨c, cs, hskip, htext, hbracket, -⟩ := hv.1.skipBlanks rest
  have hcomma : ∀ text, skipBlanks (',' :: text) = ',' :: text := fun _ => rfl
  rw [items, hcomma]
  split
  · next h => exact absurd h (by simp)
  · next h => exact absurd (List.cons.inj h).1 (by decide)
  · next h =>
    obtain ⟨rfl, rfl⟩ := List.cons.inj h
    rw [if_neg (by decide), if_pos rfl, skipBlanks_lineBreak, hskip]
    split
    · next h => exact absurd h (by simp)
    · next h => exact absurd (List.cons.inj h).1 hbracket
    · rw [← htext]
      exact next_indented hv fuel before hrest

/-- Something ends where the rest of a sequence begins. -/
theorem ends_behindItem (items : List Value) (outer : Nat) (rest : List Char) :
    Ends (behindItem level items ++ (lineBreak outer ++ rest)) := by
  cases items with
  | nil => exact ends_lineBreak outer rest
  | cons v more => exact ends_comma _

/-- The rest of a sequence is read item by item. -/
theorem items_behindItem {vs : List Value} (hvs : ∀ v ∈ vs, ReadsItem item level v) (outer : Nat)
    (rest : List Char) {fuel : Nat} (hfuel : vs.length < fuel) (before : List Value) :
    items item fuel false before (behindItem level vs ++ (lineBreak outer ++ ']' :: rest)) =
      .ok (.array (before.reverse ++ vs.map Value.arranged), rest) := by
  -- Each item joins those that were read before it, and takes one unit of fuel.
  induction vs generalizing fuel before with
  | nil =>
    obtain ⟨fuel, rfl⟩ := Nat.exists_eq_add_of_lt hfuel
    rw [List.length_nil, Nat.zero_add, behindItem, List.nil_append, items, skipBlanks_lineBreak,
      List.map_nil, List.append_nil]
    rfl
  | cons v more ih =>
    obtain ⟨hv, hmore⟩ := List.forall_mem_cons.1 hvs
    rw [List.length_cons] at hfuel
    obtain ⟨fuel, rfl⟩ : ∃ n, fuel = n + 1 := ⟨fuel - 1, by omega⟩
    have hrest : Ends (behindItem level more ++ (lineBreak outer ++ ']' :: rest)) :=
      ends_behindItem more outer _
    rw [behindItem, Value.indentedItems_cons, List.cons_append, List.append_assoc, List.append_assoc,
      items_comma hv fuel before hrest, ih hmore (by omega), List.reverse_cons, List.append_assoc,
      List.map_cons, List.singleton_append]

/-- A sequence is read behind its bracket. -/
theorem items_indented {v : Value} {vs : List Value} (hv : ReadsItem item level v)
    (hvs : ∀ w ∈ vs, ReadsItem item level w) (outer : Nat) (rest : List Char) {fuel : Nat}
    (hfuel : vs.length < fuel) :
    items item (fuel + 1) true []
        (Value.indentedItems level (v :: vs) ++ (lineBreak outer ++ ']' :: rest)) =
      .ok ((Value.array (v :: vs)).arranged, rest) := by
  rw [Value.indentedItems_cons, List.append_assoc, List.append_assoc,
    items_first hv fuel (ends_behindItem vs outer _), items_behindItem hvs outer rest hfuel,
    Value.arranged, Value.arrangedItems_eq_map]
  rfl

end

/-! ## Members -/

section

variable {item : List Char → Outcome Value} {level : Nat}

/-- The reader for one value reads the value of a member behind the blank that is in front of it. -/
def ReadsMember (item : List Char → Outcome Value) (level : Nat) (v : Value) : Prop :=
  ∀ rest, Ends rest → item (' ' :: (v.indented level ++ rest)) = .ok (v.arranged, rest)

/-- A member is read behind the brace or the comma in front of it. -/
theorem named_indented {v : Value} (hv : ReadsMember item level v) (fuel : Nat)
    (before : Pairs Value) (name : String) {rest : List Char} (hrest : Ends rest) :
    members.named item fuel before
        (writtenString name ++ ':' :: ' ' :: (v.indented level ++ rest)) =
      members item fuel false (before.insert name v.arranged) rest := by
  have hvalue : memberValue item (':' :: ' ' :: (v.indented level ++ rest)) =
      .ok (v.arranged, rest) := hv rest hrest
  rw [writtenString_append, members.named, stringBody_written]
  dsimp only
  rw [hvalue]

/-- The first member is read behind the line break in front of it. -/
theorem members_first {v : Value} (hv : ReadsMember item level v) (fuel : Nat) (name : String)
    {rest : List Char} (hrest : Ends rest) :
    members item (fuel + 1) true []
        (lineBreak level ++ (writtenString name ++ ':' :: ' ' :: (v.indented level ++ rest))) =
      members item fuel false [(name, v.arranged)] rest := by
  rw [members, skipBlanks_lineBreak]
  exact named_indented hv fuel [] name hrest

/-- Any other member is read behind its comma. -/
theorem members_comma {v : Value} (hv : ReadsMember item level v) (fuel : Nat)
    (before : Pairs Value) (name : String) {rest : List Char} (hrest : Ends rest) :
    members item (fuel + 1) false before (',' ::
        (lineBreak level ++ (writtenString name ++ ':' :: ' ' :: (v.indented level ++ rest)))) =
      members item fuel false (before.insert name v.arranged) rest := by
  have hcomma : ∀ text, skipBlanks (',' :: text) = ',' :: text := fun _ => rfl
  rw [members, hcomma]
  split
  · next h => exact absurd h (by simp)
  · next h => exact absurd (List.cons.inj h).1 (by decide)
  · next h =>
    obtain ⟨rfl, rfl⟩ := List.cons.inj h
    rw [if_neg (by decide), if_pos rfl, skipBlanks_lineBreak]
    exact named_indented hv fuel before name hrest

/-- Something ends where the rest of the members begins. -/
theorem ends_behindMember (pairs : Pairs Value) (outer : Nat) (rest : List Char) :
    Ends (behindMember level pairs ++ (lineBreak outer ++ rest)) := by
  cases pairs with
  | nil => exact ends_lineBreak outer rest
  | cons pair more => exact ends_comma _

/-- The rest of the members is read member by member. -/
theorem members_behindMember {pairs : Pairs Value}
    (hpairs : ∀ pair ∈ pairs, ReadsMember item level pair.2) (outer : Nat) (rest : List Char)
    {fuel : Nat} (hfuel : pairs.length < fuel) (before : Members) :
    members item fuel false before.pairs
        (behindMember level pairs ++ (lineBreak outer ++ '\x7d' :: rest)) =
      .ok (((Value.arrangedPairs pairs).foldl
        (fun members (name, value) => members.insert name value) before).toValue, rest) := by
  -- Each member is put in its place among those that were read before it.
  induction pairs generalizing fuel before with
  | nil =>
    obtain ⟨fuel, rfl⟩ := Nat.exists_eq_add_of_lt hfuel
    rw [List.length_nil, Nat.zero_add, behindMember, List.nil_append, members,
      skipBlanks_lineBreak]
    rfl
  | cons pair more ih =>
    obtain ⟨name, v⟩ := pair
    obtain ⟨hv, hmore⟩ := List.forall_mem_cons.1 hpairs
    rw [List.length_cons] at hfuel
    obtain ⟨fuel, rfl⟩ : ∃ n, fuel = n + 1 := ⟨fuel - 1, by omega⟩
    have hrest : Ends (behindMember level more ++ (lineBreak outer ++ '\x7d' :: rest)) :=
      ends_behindMember more outer _
    have hih := @ih hmore fuel (by omega) (before.insert name v.arranged)
    rw [behindMember, Value.indentedMembers_cons, List.cons_append, List.append_assoc,
      List.append_assoc, List.cons_append, List.cons_append, List.append_assoc,
      members_comma hv fuel before.pairs name hrest]
    exact hih

/-- The members of an object are read behind its brace. -/
theorem members_indented {pair : String × Value} {pairs : Pairs Value}
    (hpair : ReadsMember item level pair.2) (hpairs : ∀ other ∈ pairs, ReadsMember item level other.2)
    (outer : Nat) (rest : List Char) {fuel : Nat} (hfuel : pairs.length < fuel) :
    members item (fuel + 1) true []
        (Value.indentedMembers level (pair :: pairs) ++ (lineBreak outer ++ '\x7d' :: rest)) =
      .ok ((Value.object (pair :: pairs)).arranged, rest) := by
  obtain ⟨name, v⟩ := pair
  rw [Value.indentedMembers_cons, List.append_assoc, List.append_assoc, List.cons_append,
    List.cons_append, List.append_assoc,
    members_first hpair fuel name (ends_behindMember pairs outer _)]
  exact members_behindMember hpairs outer rest hfuel (Members.empty.insert name v.arranged)

end

/-! ## Values -/

/-- Blanks in front of a value are skipped. -/
theorem value_space (depth : Nat) (cs : List Char) :
    value (depth + 1) (' ' :: cs) = value (depth + 1) cs :=
  rfl

/-- The rest of a sequence is at least as long as the number of its items. -/
theorem length_le_length_behindItem (level : Nat) (vs : List Value) :
    vs.length ≤ (behindItem level vs).length := by
  induction vs with
  | nil => exact Nat.zero_le _
  | cons v rest ih =>
    rw [behindItem, Value.indentedItems_cons]
    simp only [List.length_cons, List.length_append]
    omega

/-- The rest of some members is at least as long as their number. -/
theorem length_le_length_behindMember (level : Nat) (pairs : Pairs Value) :
    pairs.length ≤ (behindMember level pairs).length := by
  induction pairs with
  | nil => exact Nat.zero_le _
  | cons pair rest ih =>
    rw [behindMember, Value.indentedMembers_cons]
    simp only [List.length_cons, List.length_append]
    omega

/-- A digit is no other character. -/
theorem ne_of_isDigit {c d : Char} (hc : c.isDigit) (hd : d.isDigit = false) : c ≠ d := by
  rintro rfl
  exact absurd hc (by simp [hd])

/-- What is written of a value that can be read back starts with it, not with a blank. -/
theorem opens_indented {depth : Nat} {v : Value} (h : v.Readable depth) (level : Nat) :
    Opens (v.indented level) := by
  cases h with
  | null => exact ⟨_, _, rfl, by decide⟩
  | bool b => cases b <;> exact ⟨_, _, rfl, by decide⟩
  | number hnumber =>
    cases hnumber with
    | unsigned hwritten hdigit =>
      refine ⟨_, _, hwritten, ?_⟩
      simp only [List.mem_cons, List.not_mem_nil, or_false, not_or]
      refine ⟨?_, ?_, ?_, ?_, ?_, ?_⟩ <;> exact ne_of_isDigit hdigit rfl
    | signed hwritten => exact ⟨_, _, hwritten, by decide⟩
  | string s => exact ⟨_, _, rfl, by decide⟩
  | @array depth items _ => cases items <;> exact ⟨_, _, rfl, by decide⟩
  | @object depth pairs _ => cases pairs <;> exact ⟨_, _, rfl, by decide⟩

/-- A number is read back. -/
theorem value_number {n : Number} (h : n.ReadsBack) (depth : Nat) {rest : List Char}
    (hrest : Ends rest) : value (depth + 1) (n.written ++ rest) = .ok (.number n, rest) := by
  cases h with
  | @unsigned c cs hwritten hdigit hread =>
    have hskip : skipBlanks (c :: (cs ++ rest)) = c :: (cs ++ rest) := by
      refine List.dropWhile_cons_of_neg ?_
      simp [ne_of_isDigit hdigit (d := ' ') rfl, ne_of_isDigit hdigit (d := '\n') rfl,
        ne_of_isDigit hdigit (d := '\t') rfl, ne_of_isDigit hdigit (d := '\r') rfl]
    rw [hwritten, List.cons_append, value, hskip]
    dsimp only
    rw [if_neg (ne_of_isDigit hdigit rfl), if_neg (ne_of_isDigit hdigit rfl),
      if_neg (ne_of_isDigit hdigit rfl), if_neg (ne_of_isDigit hdigit rfl),
      if_pos (by rw [Text.decimalDigit?_of_isDigit hdigit]; rfl), hread rest hrest]
    rfl
  | @signed cs hwritten hread =>
    have hminus : value (depth + 1) ('-' :: (cs ++ rest)) =
        (number true (cs ++ rest)).map fun read => (.number read.1, read.2) := rfl
    rw [hwritten, List.cons_append, hminus, hread rest hrest]
    rfl

/-- A value that can be read back is read from what is written of it, with its objects in order. -/
theorem value_indented {depth : Nat} {v : Value} (h : v.Readable depth) (level : Nat)
    {rest : List Char} (hrest : Ends rest) :
    value (depth + 1) (v.indented level ++ rest) = .ok (v.arranged, rest) := by
  induction h generalizing level rest with
  | null => rfl
  | bool b => cases b <;> rfl
  | number hnumber => exact value_number hnumber _ hrest
  | @string depth s =>
    have hquote : ∀ cs, value (depth + 1) ('"' :: cs) =
        (stringBody [] cs).map fun read => (.string read.1, read.2) := fun _ => rfl
    rw [Value.indented, writtenString_append, hquote, stringBody_written]
    rfl
  | @array depth items hitems ih =>
    have hbracket : ∀ cs, value (depth + 2) ('[' :: cs) =
        Reader.items (value (depth + 1)) (cs.length + 1) true [] cs := fun _ => rfl
    cases items with
    | nil =>
      refine (hbracket (']' :: rest)).trans ?_
      rw [items]
      rfl
    | cons v vs =>
      have hreads : ∀ w ∈ v :: vs, ReadsItem (value (depth + 1)) (level + 1) w := fun w hw =>
        ⟨opens_indented (hitems w hw) _, fun _ => ih w hw (level + 1)⟩
      obtain ⟨hv, hvs⟩ := List.forall_mem_cons.1 hreads
      rw [Value.indented, List.append_assoc, List.cons_append, List.cons_append, List.append_assoc,
        List.singleton_append, hbracket]
      refine items_indented hv hvs level rest ?_
      -- The fuel is as long as the text, and every item but the first has a comma there.
      have hlength := length_le_length_behindItem (level + 1) vs
      rw [Value.indentedItems_cons]
      simp only [List.length_append, List.length_cons]
      omega
  | @object depth pairs hpairs ih =>
    have hbrace : ∀ cs, value (depth + 2) ('\x7b' :: cs) =
        Reader.members (value (depth + 1)) (cs.length + 1) true [] cs := fun _ => rfl
    cases pairs with
    | nil =>
      refine (hbrace ('\x7d' :: rest)).trans ?_
      rw [members]
      rfl
    | cons pair more =>
      -- The value of a member stands behind a blank, which is skipped.
      have hreads : ∀ other ∈ pair :: more,
          ReadsMember (value (depth + 1)) (level + 1) other.2 := fun other hother behind hbehind =>
        (value_space depth _).trans (ih other hother (level + 1) hbehind)
      obtain ⟨hpair, hmore⟩ := List.forall_mem_cons.1 hreads
      rw [Value.indented, List.append_assoc, List.cons_append, List.cons_append, List.append_assoc,
        List.singleton_append, hbrace]
      refine members_indented hpair hmore level rest ?_
      have hlength := length_le_length_behindMember (level + 1) more
      obtain ⟨name, v⟩ := pair
      rw [Value.indentedMembers_cons]
      simp only [List.length_append, List.length_cons]
      omega

/-- A document of one value that can be read back, with blanks behind it, is read as this value. -/
theorem document_indented {v : Value} (h : v.Readable (depthLimit - 1)) {rest : List Char}
    (hrest : Ends rest) (hblank : skipBlanks rest = []) :
    document (v.indented 0 ++ rest) = .ok v.arranged := by
  have hvalue : value depthLimit (v.indented 0 ++ rest) = .ok (v.arranged, rest) :=
    value_indented h 0 hrest
  rw [document, hvalue]
  dsimp only
  rw [hblank]

end Reader

/-- What is written of a value that can be read back is read as the value with its objects in order.
-/
theorem read_pretty {v : Value} (h : v.Readable (Reader.depthLimit - 1)) :
    read v.pretty = .ok v.arranged := by
  have hdocument := Reader.document_indented h Reader.ends_nil rfl
  rw [List.append_nil] at hdocument
  unfold read Value.pretty
  rw [String.toList_ofList, hdocument]
  rfl

/-- So is a line break behind it. -/
theorem read_pretty_line {v : Value} (h : v.Readable (Reader.depthLimit - 1)) :
    read (v.pretty ++ "\n") = .ok v.arranged := by
  have hdocument := Reader.document_indented h (Reader.ends_lineBreak 0 []) rfl
  unfold read Value.pretty
  rw [String.toList_append, String.toList_ofList]
  exact congrArg (Except.mapError _) hdocument

end Manifest.Json
