import Manifest.Proofs.Cutting
import Manifest.Proofs.ObjectForms

/-!
# Authors in writing

An author can be written as a name, with the address behind it in angle brackets or parentheses, and
several authors with commas between them. `Written` says which texts these are: blanks may stand
around the name and the address, and the word "at" between blanks for the at sign. What is read from
such a text are the authors that were written (`contacts_of_written`), and a sequence of such texts
has the normal form of the objects of these authors (`written_authors`).

Neither the brackets nor the comma can be taken for a part of what is written, since names and
addresses have none of these marks (`noComma_of_written`).
-/

namespace Manifest.Normal

open Json (Pairs Value)
open Text (IsTrimmed Solid isBlank occurs trimmed)

/-! ## What can be written -/

/-- The characters that set off authors and addresses. -/
def marks : List Char :=
  [',', '<', '>', '(', ')']

/-- The text has none of these characters. -/
def Free (cs : List Char) : Prop :=
  ∀ c ∈ cs, c ∉ marks

instance (cs : List Char) : Decidable (Free cs) :=
  List.decidableBAll _ cs

/-- Every character is blank. -/
def Blanks (cs : List Char) : Prop :=
  ∀ c ∈ cs, isBlank c

instance (cs : List Char) : Decidable (Blanks cs) :=
  List.decidableBAll _ cs

/-- What starts the path of a web address behind its scheme. -/
def webMark : List Char :=
  "://".toList

/-- A name that can be written. -/
structure IsName (name : List Char) : Prop where
  /-- It is not empty. -/
  nonempty : name ≠ []
  /-- No blank stands at either end. -/
  ends : IsTrimmed name
  /-- It has no marks. -/
  free : Free name
  /-- It is no web address. -/
  noWeb : occurs webMark name = false

instance (name : List Char) : Decidable (IsName name) :=
  decidable_of_iff (name ≠ [] ∧ IsTrimmed name ∧ Free name ∧ occurs webMark name = false)
    ⟨fun ⟨hne, hends, hfree, hweb⟩ => ⟨hne, hends, hfree, hweb⟩,
      fun h => ⟨h.nonempty, h.ends, h.free, h.noWeb⟩⟩

/-- The two sides of an address that can be written. -/
structure IsAddress (user host : List Char) : Prop where
  /-- The at sign is not the first character. -/
  userNe : user ≠ []
  /-- Nor is it the last one. -/
  hostNe : host ≠ []
  /-- There is no other one. -/
  noSign : '@' ∉ user ++ host
  /-- The address has no blanks. -/
  solid : Solid (user ++ '@' :: host)
  /-- It has no marks. -/
  free : Free (user ++ '@' :: host)
  /-- It is no web address. -/
  noWeb : occurs webMark (user ++ '@' :: host) = false

instance (user host : List Char) : Decidable (IsAddress user host) :=
  decidable_of_iff (user ≠ [] ∧ host ≠ [] ∧ '@' ∉ user ++ host ∧
      Solid (user ++ '@' :: host) ∧ Free (user ++ '@' :: host) ∧
      occurs webMark (user ++ '@' :: host) = false)
    ⟨fun ⟨huser, hhost, hsign, hsolid, hfree, hweb⟩ => ⟨huser, hhost, hsign, hsolid, hfree, hweb⟩,
      fun h => ⟨h.userNe, h.hostNe, h.noSign, h.solid, h.free, h.noWeb⟩⟩

/-- What an at sign can be written as. -/
inductive Sign : List Char → Prop where
  /-- It is written as such. -/
  | sign : Sign ['@']
  /-- The word "at" stands for it between blanks. -/
  | word {left right : List Char} {a t : Char} (hleft : Blanks left) (hleftNe : left ≠ [])
    (hright : Blanks right) (hrightNe : right ≠ []) (ha : a = 'a' ∨ a = 'A')
    (ht : t = 't' ∨ t = 'T') : Sign (left ++ a :: t :: right)

/-- The brackets that an address can stand in. -/
def brackets : List (Char × Char) :=
  [('<', '>'), ('(', ')')]

/-- What an author can be written as. -/
inductive Written : Contact → List Char → Prop where
  /-- An author without an address is written as the name, which must not be the word for nobody. -/
  | name {left name right : List Char} (hname : IsName name) (hnobody : name ≠ "None".toList)
    (hleft : Blanks left) (hright : Blanks right) :
    Written (String.ofList name, none) (left ++ name ++ right)
  /-- The address of an author stands in brackets behind the name. -/
  | address {left name right inner user sign host outer behind : List Char} {opening closing : Char}
    (hname : IsName name) (haddress : IsAddress user host) (hsign : Sign sign)
    (hbrackets : (opening, closing) ∈ brackets) (hleft : Blanks left) (hright : Blanks right)
    (hinner : Blanks inner) (houter : Blanks outer) (hbehind : Blanks behind) :
    Written (String.ofList name, some (String.ofList (user ++ '@' :: host)))
      (left ++ (name ++ right ++ opening :: (inner ++ (user ++ sign ++ host) ++ outer) ++ [closing]) ++
        behind)

/-! ## Characters of what is written -/

theorem Free.append {front behind : List Char} (hfront : Free front) (hbehind : Free behind) :
    Free (front ++ behind) :=
  List.forall_mem_append.2 ⟨hfront, hbehind⟩

/-- Blanks are no marks. -/
theorem Blanks.free {cs : List Char} (h : Blanks cs) : Free cs := by
  intro c hc hmark
  have hink : Solid marks := by decide
  exact absurd (h c hc) (by simp [hink c hmark])

/-- Nothing that stands for an at sign has a mark. -/
theorem Sign.free {sign : List Char} (h : Sign sign) : Free sign := by
  cases h with
  | sign => decide
  | @word left right a t hleft _ hright _ ha ht =>
    have hletters : Free [a, t] := by
      rcases ha with rfl | rfl <;> rcases ht with rfl | rfl <;> decide
    exact hleft.free.append (hletters.append hright.free)

/-- Something has to be written for an at sign. -/
theorem Sign.ne_nil {sign : List Char} (h : Sign sign) : sign ≠ [] := by
  cases h <;> simp

/-- Blanks are no part of what starts a web address. -/
theorem Blanks.noWebMark {cs : List Char} (h : Blanks cs) : ∀ c ∈ cs, c ∉ webMark := by
  intro c hc hmark
  have hink : Solid webMark := by decide
  exact absurd (h c hc) (by simp [hink c hmark])

/-- Nothing that stands for an at sign is. -/
theorem Sign.noWebMark {sign : List Char} (h : Sign sign) : ∀ c ∈ sign, c ∉ webMark := by
  cases h with
  | sign => exact List.forall_mem_singleton.2 (by decide)
  | @word left right a t hleft _ hright _ ha ht =>
    have hletters : ∀ c ∈ [a, t], c ∉ webMark := by
      refine List.forall_mem_cons.2 ⟨?_, List.forall_mem_singleton.2 ?_⟩
      · rcases ha with rfl | rfl <;> decide
      · rcases ht with rfl | rfl <;> decide
    exact List.forall_mem_append.2 ⟨hleft.noWebMark,
      List.forall_mem_append.2 ⟨hletters, hright.noWebMark⟩⟩

/-! ## Addresses -/

/-- An address without blanks is read from any way in which its at sign can be written. -/
theorem atSigns_of_sign {user sign host : List Char} (hsign : Sign sign)
    (huser : Solid user) (hhost : Solid host) :
    atSigns (user ++ sign ++ host) = user ++ '@' :: host := by
  have hkept : atSigns host = host := by
    simpa using atSigns_append hhost []
  rw [List.append_assoc, atSigns_append huser]
  congr 1
  cases hsign with
  | sign =>
    have hsolid : Solid ['@'] := by decide
    rw [atSigns_append hsolid, hkept, List.singleton_append]
  | @word left right a t hleft hleftNe hright hrightNe ha ht =>
    obtain ⟨b, more, rfl⟩ := List.exists_cons_of_ne_nil hrightNe
    obtain ⟨hb, hmore⟩ := List.forall_mem_cons.1 hright
    have hbehind : Text.trimStart (more ++ host) = host := by
      rw [Text.trimStart_append_of_blank hmore]
      exact Text.trimStart_of_head fun c hc => hhost c (List.mem_of_mem_head? hc)
    have hword : afterAtWord? (left ++ a :: t :: b :: (more ++ host)) = some host :=
      (afterAtWord?_eq_some hleftNe hleft ha ht hb).trans (congrArg some hbehind)
    rw [List.append_assoc, List.cons_append, List.cons_append, List.cons_append,
      atSigns_of_some hword, hkept]

section

variable {user sign host : List Char} (h : IsAddress user host)

include h

/-- The user of an address has no blanks. -/
theorem IsAddress.solidUser : Solid user :=
  fun c hc => h.solid c (List.mem_append_left _ hc)

/-- The host of an address has no blanks. -/
theorem IsAddress.solidHost : Solid host :=
  fun c hc => h.solid c (List.mem_append_right _ (List.mem_cons_of_mem _ hc))

/-- However its at sign is written, an address has no blanks at its ends. -/
theorem IsAddress.ends (sign : List Char) : IsTrimmed (user ++ sign ++ host) :=
  Text.isTrimmed_append h.userNe h.hostNe (fun c hc => h.solidUser c (List.mem_of_mem_head? hc))
    (fun c hc => h.solidHost c (List.mem_of_mem_getLast? hc)) sign

/-- However its at sign is written, an address has no marks. -/
theorem IsAddress.free_of_sign (hsign : Sign sign) : Free (user ++ sign ++ host) := by
  obtain ⟨huser, hhost⟩ := List.forall_mem_append.1 h.free
  exact (Free.append huser hsign.free).append fun c hc => hhost c (List.mem_cons_of_mem _ hc)

/-- However its at sign is written, an address is no web address. -/
theorem IsAddress.noWeb_of_sign (hsign : Sign sign) :
    occurs webMark (user ++ sign ++ host) = false := by
  have hsides : occurs webMark user = false ∧ occurs webMark host = false := by
    have hnone := h.noWeb
    rwa [Text.occurs_append_cons (by decide) (by decide), Bool.or_eq_false_iff] at hnone
  rw [Text.occurs_append_append (by decide) hsign.ne_nil hsign.noWebMark, hsides.1, hsides.2]
  rfl

end

/-! ## Brackets -/

/-- Brackets are marks, and no part of the word for nobody nor of what starts a web address. -/
theorem mem_brackets {opening closing : Char} (h : (opening, closing) ∈ brackets) :
    (opening ∈ marks ∧ opening ∉ "None".toList ∧ opening ∉ webMark ∧ isBlank opening = false) ∧
      closing ∈ marks ∧ closing ∉ webMark ∧ isBlank closing = false := by
  have hall : ∀ pair ∈ brackets,
      (pair.1 ∈ marks ∧ pair.1 ∉ "None".toList ∧ pair.1 ∉ webMark ∧ isBlank pair.1 = false) ∧
        pair.2 ∈ marks ∧ pair.2 ∉ webMark ∧ isBlank pair.2 = false := by
    decide
  exact hall _ h

/-- A text without the opening bracket has nothing in brackets. -/
theorem bracketed?_of_notMem {opening closing : Char} {cs : List Char} (h : opening ∉ cs) :
    bracketed? opening closing cs = none := by
  rw [bracketed?, Text.cut_of_notMem h]

/-- What stands in brackets is found, if neither bracket stands in front and the closing one not in
between. -/
theorem bracketed?_append {opening closing : Char} {front inside : List Char}
    (hopening : opening ∉ front) (hclosing : closing ∉ front) (hinside : closing ∉ inside) :
    bracketed? opening closing (front ++ opening :: inside ++ [closing]) = some (front, inside) := by
  rw [List.append_assoc, List.cons_append, bracketed?, Text.cut_append hopening]
  dsimp only
  rw [if_neg hclosing, Text.cut_append hinside]
  rfl

/-- A text without marks is all name. -/
theorem nameAndAddress_of_free {cs : List Char} (h : Free cs) : nameAndAddress cs = (cs, none) := by
  have hangle : '<' ∉ cs := fun hc => h _ hc (by decide)
  have hround : '(' ∉ cs := fun hc => h _ hc (by decide)
  rw [nameAndAddress, bracketed?_of_notMem hangle, bracketed?_of_notMem hround]

/-- In either sort of brackets, texts without marks are told apart. -/
theorem nameAndAddress_of_brackets {opening closing : Char} {front inside : List Char}
    (hbrackets : (opening, closing) ∈ brackets) (hfront : Free front) (hinside : Free inside) :
    nameAndAddress (front ++ opening :: inside ++ [closing]) = (front, some inside) := by
  obtain ⟨⟨hopening, -⟩, hclosing, -⟩ := mem_brackets hbrackets
  have hfound := bracketed?_append (fun hc => hfront _ hc hopening) (fun hc => hfront _ hc hclosing)
    (fun hc => hinside _ hc hclosing)
  simp only [brackets, List.mem_cons, Prod.mk.injEq, List.not_mem_nil, or_false] at hbrackets
  rcases hbrackets with ⟨rfl, rfl⟩ | ⟨rfl, rfl⟩
  · rw [nameAndAddress, hfound]
  · -- Angle brackets are looked for first, but there are none.
    have hangle : '<' ∉ front ++ '(' :: inside ++ [')'] := by
      have hnone : ∀ cs, Free cs → '<' ∉ cs := fun cs hcs hc => hcs _ hc (by decide)
      simp [hnone front hfront, hnone inside hinside]
    rw [nameAndAddress, bracketed?_of_notMem hangle, hfound]

/-! ## Reading what is written -/

/-- The author that a text names, by the parts of its trimmed form, unless this stands for nobody.
-/
theorem contact?_of_trimmed {cs body name : List Char} {address : Option (List Char)}
    (htrim : trimmed cs = body) (hne : body ≠ []) (hnobody : body ≠ "None".toList)
    (hweb : occurs webMark body = false) (hparts : nameAndAddress body = (name, address))
    (hname : trimmed name ≠ []) :
    contact? (String.ofList cs) = some (String.ofList (trimmed name),
      ((address.map trimmed).filter fun a => !a.isEmpty).map fun a => email (String.ofList a)) := by
  have hsomebody : ¬ (body.isEmpty ∨ body = "None".toList ∨ occurs webMark body) := by
    rw [hweb, List.isEmpty_iff]
    exact fun h => h.elim hne fun h => h.elim hnobody (by decide)
  unfold contact?
  rw [String.toList_ofList, htrim]
  dsimp only
  rw [← webMark, if_neg hsomebody, hparts]
  dsimp only
  rw [if_neg (by simpa using hname)]

section

variable {name right inner user sign host outer : List Char} {opening closing : Char}
  (hname : IsName name) (haddress : IsAddress user host) (hsign : Sign sign)
  (hbrackets : (opening, closing) ∈ brackets) (hright : Blanks right) (hinner : Blanks inner)
  (houter : Blanks outer)

include hname haddress hsign hbrackets hright hinner houter

/-- A name and an address in brackets are no web address. -/
theorem noWeb_of_brackets :
    occurs webMark
      (name ++ right ++ opening :: (inner ++ (user ++ sign ++ host) ++ outer) ++ [closing]) =
        false := by
  obtain ⟨⟨-, -, hopening, -⟩, -, hclosing, -⟩ := mem_brackets hbrackets
  -- What stands between and behind the name and the address cannot be a part of a web address.
  have hbetween : ∀ c ∈ right ++ opening :: inner, c ∉ webMark :=
    List.forall_mem_append.2 ⟨hright.noWebMark, List.forall_mem_cons.2 ⟨hopening, hinner.noWebMark⟩⟩
  have hbehind : ∀ c ∈ outer ++ [closing], c ∉ webMark :=
    List.forall_mem_append.2 ⟨houter.noWebMark, List.forall_mem_singleton.2 hclosing⟩
  have hsplit : name ++ right ++ opening :: (inner ++ (user ++ sign ++ host) ++ outer) ++ [closing] =
      name ++ (right ++ opening :: inner) ++
        ((user ++ sign ++ host) ++ (outer ++ [closing]) ++ []) := by
    simp
  rw [hsplit, Text.occurs_append_append (by decide) (by simp) hbetween,
    Text.occurs_append_append (by decide) (by simp) hbehind, hname.noWeb,
    haddress.noWeb_of_sign hsign]
  decide

/-- The name and the address are read from a text with the address in brackets. -/
theorem contact?_of_brackets {cs : List Char}
    (htrim : trimmed cs =
      name ++ right ++ opening :: (inner ++ (user ++ sign ++ host) ++ outer) ++ [closing]) :
    contact? (String.ofList cs) =
      some (String.ofList name, some (String.ofList (user ++ '@' :: host))) := by
  obtain ⟨⟨-, hopening, -⟩, -⟩ := mem_brackets hbrackets
  have hfront : Free (name ++ right) := hname.free.append hright.free
  have hinside : Free (inner ++ (user ++ sign ++ host) ++ outer) :=
    (hinner.free.append (haddress.free_of_sign hsign)).append houter.free
  have hnobody : name ++ right ++ opening :: (inner ++ (user ++ sign ++ host) ++ outer) ++ [closing] ≠
      "None".toList := by
    intro heq
    rw [← heq] at hopening
    simp at hopening
  have honly : trimmed (name ++ right) = name :=
    Text.trimmed_append_of_blank (List.forall_mem_nil _) hright hname.ends
  have hends := haddress.ends sign
  have hbare : trimmed (inner ++ (user ++ sign ++ host) ++ outer) = user ++ sign ++ host :=
    Text.trimmed_append_of_blank hinner houter hends
  have hsome : (user ++ sign ++ host).isEmpty = false := by
    simp [haddress.userNe]
  have hmail : email (String.ofList (user ++ sign ++ host)) =
      String.ofList (user ++ '@' :: host) := by
    rw [email, String.toList_ofList, hends.trimmed_eq,
      atSigns_of_sign hsign haddress.solidUser haddress.solidHost]
  have hread := contact?_of_trimmed htrim (by simp) hnobody
    (noWeb_of_brackets hname haddress hsign hbrackets hright hinner houter)
    (nameAndAddress_of_brackets hbrackets hfront hinside) (by rw [honly]; exact hname.nonempty)
  rw [hread, honly, Option.map_some, hbare, Option.filter_some, hsome, if_pos Bool.not_false,
    Option.map_some, hmail]

end

/-- An author is read from any text that the author can be written as. -/
theorem contact?_of_written {person : Contact} {cs : List Char} (h : Written person cs) :
    contact? (String.ofList cs) = some person := by
  cases h with
  | name hname hnobody hleft hright =>
    have htrim := Text.trimmed_append_of_blank hleft hright hname.ends
    have hread := contact?_of_trimmed htrim hname.nonempty hnobody hname.noWeb
      (nameAndAddress_of_free hname.free) (by rw [hname.ends.trimmed_eq]; exact hname.nonempty)
    rw [hread, hname.ends.trimmed_eq]
    rfl
  | @address left name right inner user sign host outer behind opening closing hname haddress hsign
      hbrackets hleft hright hinner houter hbehind =>
    obtain ⟨-, -, -, hclosing⟩ := mem_brackets hbrackets
    have hends : IsTrimmed
        (name ++ right ++ opening :: (inner ++ (user ++ sign ++ host) ++ outer) ++ [closing]) := by
      rw [List.append_assoc name]
      exact Text.isTrimmed_append hname.nonempty (List.cons_ne_nil _ _) hname.ends.head
        (by simpa using hclosing) _
    exact contact?_of_brackets hname haddress hsign hbrackets hright hinner houter
      (Text.trimmed_append_of_blank hleft hbehind hends)

/-- Nothing that an author is written as has a comma. -/
theorem noComma_of_written {person : Contact} {cs : List Char} (h : Written person cs) :
    ',' ∉ cs := by
  have hnone : ∀ text, Free text → ',' ∉ text := fun text htext hc => htext _ hc (by decide)
  cases h with
  | name hname _ hleft hright =>
    exact hnone _ ((hleft.free.append hname.free).append hright.free)
  | @address left name right inner user sign host outer behind opening closing hname haddress hsign
      hbrackets hleft hright hinner houter hbehind =>
    have hcomma : ',' ≠ opening ∧ ',' ≠ closing := by
      have hall : ∀ pair ∈ brackets, ',' ≠ pair.1 ∧ ',' ≠ pair.2 := by decide
      exact hall _ hbrackets
    have hfront := hnone _ (hleft.free.append (hname.free.append hright.free))
    have hinside := hnone _ ((hinner.free.append (haddress.free_of_sign hsign)).append houter.free)
    have hlast := hnone _ hbehind.free
    simp only [List.mem_append, List.mem_cons, List.not_mem_nil, or_false, not_or] at *
    tauto

/-! ## Lists of authors -/

section

variable {people : List Contact} {texts : List (List Char)} (h : List.Forall₂ Written people texts)

include h

/-- Each author is read from the text that the author is written as. -/
theorem filterMap_contact?_of_written : (texts.map String.ofList).filterMap contact? = people := by
  induction h with
  | nil => rfl
  | cons hfirst _ ih =>
    rw [List.map_cons, List.filterMap_cons_some (contact?_of_written hfirst), ih]

/-- None of the authors is written with a comma. -/
theorem noComma_of_mem {cs : List Char} (hmem : cs ∈ texts) : ',' ∉ cs := by
  induction h with
  | nil => exact absurd hmem List.not_mem_nil
  | cons hfirst _ ih =>
    rcases List.mem_cons.1 hmem with rfl | hlater
    · exact noComma_of_written hfirst
    · exact ih hlater

/-- The authors that are written with commas between them are read in order. -/
theorem contacts_of_written :
    contacts (String.ofList ([','].intercalate texts)) = people := by
  have hread := filterMap_contact?_of_written h
  unfold contacts Text.split
  rw [String.toList_ofList]
  by_cases hnone : texts = []
  · subst hnone
    rw [← hread]
    decide
  · rw [Text.pieces_intercalate hnone fun _ => noComma_of_mem h, hread]

end

/-- The object of an author, without what is absent. -/
def contactObject (person : Contact) : Value :=
  .object ((person.2.map fun a => ("email", Value.string a)).toList ++ [("name", .string person.1)])

/-- An author has the same normal form as an object and as a text. -/
theorem author_of_written {person : Contact} {cs : List Char} (h : Written person cs) :
    author (.string (String.ofList cs)) = author (contactObject person) := by
  have hread := contact?_of_written h
  obtain ⟨name, address⟩ := person
  obtain ⟨hname, haddress⟩ := contact?_spec hread
  have htext : author (.string (String.ofList cs)) = some (authorValue name address false) := by
    rw [author, hread, Option.map_some]
  rw [htext]
  cases address with
  | none =>
    have hobject : author (contactObject (name, none)) =
        some (.object [("maintainer", .bool false), ("name", .string (Text.trim name))]) := rfl
    rw [hobject, hname.2]
    rfl
  | some a =>
    have hobject : author (contactObject (name, some a)) =
        some (.object [("email", .string (email a)), ("maintainer", .bool false),
          ("name", .string (Text.trim name))]) := rfl
    have ha : email a = a := Option.some.inj haddress
    rw [hobject, hname.2, ha]
    rfl

/-- Authors that are written with commas between them are read as the objects of these authors in
order, whether they are maintainers or not. As a sequence of texts they have the normal form of the
sequence of the objects. -/
theorem written_authors {people : List Contact} {texts : List (List Char)}
    (h : List.Forall₂ Written people texts) :
    (∀ maintainer, authorsOfText (String.ofList ([','].intercalate texts)) maintainer =
        people.map fun person => authorValue person.1 person.2 maintainer) ∧
      authors (.array (texts.map fun cs => .string (String.ofList cs))) =
        authors (.array (people.map contactObject)) := by
  refine ⟨fun maintainer => ?_, ?_⟩
  · rw [authorsOfText, contacts_of_written h]
  · have hsame : (texts.map fun cs => Value.string (String.ofList cs)).filterMap author =
        (people.map contactObject).filterMap author := by
      induction h with
      | nil => rfl
      | cons hfirst _ ih =>
        rw [List.map_cons, List.map_cons, List.filterMap_cons, List.filterMap_cons,
          author_of_written hfirst, ih]
    rw [authors, authors, authors.listed, authors.listed, hsame]

/-- Three authors. The last one can be called as nobody is, having an address. -/
def writtenPeople : List Contact :=
  [("Ada Lovelace", none), ("Bob", some "bob@home.org"), ("None", some "c@d")]

/-- The texts that they are written as, the second with the word "At" for the at sign. -/
def writtenTexts : List (List Char) :=
  [" Ada Lovelace".toList, "Bob <bob \t At home.org >".toList, "None(c@d)  ".toList]

/-- They are read from these texts. -/
theorem written_authors_writtenTexts :
    List.Forall₂ Written writtenPeople writtenTexts ∧
      authorsOfText " Ada Lovelace,Bob <bob \t At home.org >,None(c@d)  " true =
        [authorValue "Ada Lovelace" none true, authorValue "Bob" (some "bob@home.org") true,
         authorValue "None" (some "c@d") true] := by
  have hwritten : List.Forall₂ Written writtenPeople writtenTexts := by
    refine .cons ?_ (.cons ?_ (.cons ?_ .nil))
    · exact @Written.name [' '] "Ada Lovelace".toList [] (by decide) (by decide) (by decide)
        (by decide)
    · have hsign : Sign ([' ', '\t', ' '] ++ 'A' :: 't' :: [' ']) :=
        .word (by decide) (by decide) (by decide) (by decide) (.inr rfl) (.inl rfl)
      exact @Written.address [] "Bob".toList [' '] [] "bob".toList _ "home.org".toList [' '] []
        '<' '>' (by decide) (by decide) hsign (by decide) (by decide) (by decide) (by decide)
        (by decide) (by decide)
    · exact @Written.address [] "None".toList [] [] ['c'] ['@'] ['d'] [] [' ', ' '] '(' ')'
        (by decide) (by decide) .sign (by decide) (by decide) (by decide) (by decide) (by decide)
        (by decide)
  exact ⟨hwritten, (written_authors hwritten).1 true⟩

end Manifest.Normal
