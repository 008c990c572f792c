import Mathlib.Data.List.DropRight
import Manifest.Proofs.DomainNames
import Manifest.Proofs.Numerals
import Manifest.Url.Basic

/-!
# Addresses as they are written

An address of the web whose host is a domain name can be spelled in many ways: credentials may stand
in front of the host, the host may stand in any letter case, and a query or a fragment behind the
path. Whatever the spelling, the same address is read (`parse?_written`).

Each function that reads a part of an address is told what it gives on that part and what it leaves
behind, in the order in which the parts are read.
-/

namespace Manifest.Url

open Text (pieces)

/-! ## What is written -/

/-- A segment that stands for itself in a path. -/
structure IsSegment (s : String) : Prop where
  /-- It is not empty. -/
  nonempty : s ≠ ""
  /-- It consists of plain characters. -/
  plain : Plain s.toList
  /-- It is not a step, to the directory itself or to its parent. -/
  noStep : s ≠ "." ∧ s ≠ ".."

/-- An address of the web with a domain name for a host and a path of segments that stand for
themselves. -/
structure IsPage (url : Url) : Prop where
  /-- The scheme is one of the two for pages. -/
  scheme : url.scheme = "http" ∨ url.scheme = "https"
  /-- The host is a domain name. -/
  host : IsDomain url.host.toList
  /-- The port is one, and not the one that the scheme implies. -/
  port : ∀ n ∈ url.port, n < 65536 ∧ impliedPort? url.scheme.toList ≠ some n
  /-- There is a path. -/
  rooted : url.segments ≠ []
  /-- Its segments stand for themselves. -/
  segments : ∀ s ∈ url.segments, IsSegment s

/-- The text is empty, or it starts as a query or a fragment does. -/
def IsTail (cs : List Char) : Prop :=
  ∀ c ∈ cs.head?, c = '?' ∨ c = '#'

instance : (cs : List Char) → Decidable (IsTail cs)
  | [] => isTrue nofun
  | c :: _ => decidable_of_iff (c = '?' ∨ c = '#') (by simp [IsTail])

/-- No character ends the part of an address that names the host. -/
def IsInside (cs : List Char) : Prop :=
  ∀ c ∈ cs, endsAuthority true c = false

instance (cs : List Char) : Decidable (IsInside cs) :=
  List.decidableBAll _ cs

/-- A way to write an address with a host of this name, as far as it does not matter. -/
structure Spelling (name : String) where
  /-- What stands in front of the host, the at sign behind it aside. -/
  credentials : Option String
  /-- The host as it is written. -/
  host : String
  /-- What stands behind the path. -/
  tail : String
  /-- The credentials stand in the part that names the host. -/
  inside : ∀ s ∈ credentials, IsInside s.toList
  /-- The host is the name, letter case aside. -/
  named : host.toLower = name
  /-- A query or a fragment is all that stands behind the path. -/
  outside : IsTail tail.toList

/-- The text of a port, with the colon in front. -/
def portText (port : Option Nat) : String :=
  (port.map fun n => ":" ++ toString n).getD ""

/-- The text of the credentials, with the at sign behind. -/
def Spelling.front {name : String} (spelling : Spelling name) : String :=
  (spelling.credentials.map fun s => s ++ "@").getD ""

/-- The text of an address in a spelling. -/
def written (url : Url) (spelling : Spelling url.host) : String :=
  url.scheme ++ "://" ++ spelling.front ++ spelling.host ++ portText url.port ++ "/" ++
    "/".intercalate url.segments ++ spelling.tail

/-- The characters of the host in a spelling, with the port. -/
def site (url : Url) (spelling : Spelling url.host) : List Char :=
  spelling.host.toList ++ (portText url.port).toList

/-- The characters of the path behind its first slash. -/
def path (url : Url) : List Char :=
  ['/'].intercalate (url.segments.map String.toList)

/-! ## Characters that count -/

/-- Whether a character is left out at the ends of an address. -/
def isEdge (c : Char) : Bool :=
  c.toNat ≤ 0x20

/-- The text without tabs and line breaks. -/
def unbroken (cs : List Char) : List Char :=
  cs.filter fun c => c ≠ '\t' ∧ c ≠ '\n' ∧ c ≠ '\r'

/-- Texts are without tabs and line breaks if each of them is. -/
theorem unbroken_append (xs ys : List Char) : unbroken (xs ++ ys) = unbroken xs ++ unbroken ys :=
  List.filter_append _ _

/-- If no edge stands at either end of the front of an address, only tabs and line breaks are left
out there. -/
theorem significant_append {front : List Char} (hne : front ≠ [])
    (hhead : isEdge (front.head hne) = false) (hlast : isEdge (front.getLast hne) = false)
    (tail : List Char) :
    significant (front ++ tail) = unbroken front ++ unbroken (tail.rdropWhile isEdge) := by
  have hstart : (front ++ tail).dropWhile isEdge = front ++ tail := by
    cases front with
    | nil => exact absurd rfl hne
    | cons c rest => exact List.dropWhile_cons_of_neg (by simpa using hhead)
  have hend : (front ++ tail).rdropWhile isEdge = front ++ tail.rdropWhile isEdge := by
    have hfront : front.rdropWhile isEdge = front :=
      List.rdropWhile_eq_self_iff.2 fun _ => by simp [hlast]
    unfold List.rdropWhile at hfront ⊢
    rw [List.reverse_append, List.dropWhile_append]
    -- Either all of the tail is left out, or nothing in front of it is reached.
    split
    case isTrue hnone => rw [hfront, List.isEmpty_iff.1 hnone, List.reverse_nil, List.append_nil]
    case isFalse => rw [List.reverse_append, List.reverse_reverse]
  calc significant (front ++ tail)
      = unbroken (((front ++ tail).dropWhile isEdge).rdropWhile isEdge) := rfl
    _ = unbroken (front ++ tail.rdropWhile isEdge) := by rw [hstart, hend]
    _ = unbroken front ++ unbroken (tail.rdropWhile isEdge) := unbroken_append _ _

/-- Plain characters, colons and slashes are no edges, tabs or line breaks. -/
theorem counts_of_isPlain {c : Char} (h : c = ':' ∨ c = '/' ∨ isPlain c) :
    isEdge c = false ∧ c ≠ '\t' ∧ c ≠ '\n' ∧ c ≠ '\r' := by
  have hplain : isPlain c → isEdge c = false ∧ c ≠ '\t' ∧ c ≠ '\n' ∧ c ≠ '\r' := fun hc =>
    of_isPlain (P := fun c => isEdge c = false ∧ c ≠ '\t' ∧ c ≠ '\n' ∧ c ≠ '\r') hc
      (by decide +kernel)
  rcases h with rfl | rfl | hc
  · decide
  · decide
  · exact hplain hc

/-- Nothing is left out of plain characters, colons and slashes. -/
theorem unbroken_of_isPlain {cs : List Char} (h : ∀ c ∈ cs, c = ':' ∨ c = '/' ∨ isPlain c) :
    unbroken cs = cs :=
  List.filter_eq_self.2 fun c hc => by simpa using (counts_of_isPlain (h c hc)).2

/-- What counts of a query or a fragment is one, or nothing. -/
theorem isTail_unbroken {tail : List Char} (h : IsTail tail) :
    IsTail (unbroken (tail.rdropWhile isEdge)) := by
  obtain ⟨behind, hbehind⟩ := List.rdropWhile_prefix isEdge tail
  cases hkept : tail.rdropWhile isEdge with
  | nil => exact nofun
  | cons c rest =>
    rw [hkept] at hbehind
    have hc : c = '?' ∨ c = '#' := h c (by rw [← hbehind]; rfl)
    have hfirst : unbroken (c :: rest) = c :: unbroken rest :=
      List.filter_cons_of_pos (by rcases hc with rfl | rfl <;> decide)
    rw [hfirst]
    rintro d hd
    obtain rfl : c = d := by simpa using hd
    exact hc

/-! ## Scheme and slashes -/

section

variable {scheme : List Char} (h : scheme = "http".toList ∨ scheme = "https".toList)

include h

/-- The scheme stands in front of the first colon. -/
theorem scheme?_append (rest : List Char) :
    scheme? (scheme ++ ':' :: rest) = some (scheme, rest) := by
  have hcolon : ':' ∉ scheme := by rcases h with rfl | rfl <;> decide
  unfold scheme?
  rw [Text.cut_append hcolon]
  rcases h with rfl | rfl <;> rfl

/-- The slashes end where the part that names the host starts. -/
theorem afterSlashes?_append {authority : List Char} (hne : authority ≠ [])
    (hinside : IsInside authority) (tail : List Char) :
    afterSlashes? scheme ('/' :: '/' :: (authority ++ tail)) = some (authority ++ tail) := by
  have hstop : (authority ++ tail).dropWhile (fun c => c = '/' || c = '\\') =
      authority ++ tail := by
    cases authority with
    | nil => exact absurd rfl hne
    | cons c rest =>
      have hc := hinside c List.mem_cons_self
      simp only [endsAuthority, Bool.true_and, Bool.or_eq_false_iff, beq_eq_false_iff_ne] at hc
      exact List.dropWhile_cons_of_neg (by simp [hc.1.1.1, hc.2])
  have hskip : afterSlashes? scheme ('/' :: '/' :: (authority ++ tail)) =
      some ((authority ++ tail).dropWhile fun c => c = '/' || c = '\\') := by
    rcases h with rfl | rfl <;> rfl
  rw [hskip, hstop]

end

/-! ## Host and port -/

/-- What stands in front of a host: nothing, or a text that an at sign ends. -/
structure IsFront (cs : List Char) : Prop where
  /-- It stands in the part that names the host. -/
  inside : IsInside cs
  /-- An at sign stands at the end. -/
  closed : cs = [] ∨ ∃ s, cs = s ++ ['@']

/-- The credentials in a spelling stand in front of the host. -/
theorem Spelling.isFront {name : String} (spelling : Spelling name) :
    IsFront spelling.front.toList := by
  cases hsome : spelling.credentials with
  | none =>
    have hnil : spelling.front = "" := by rw [front, hsome]; rfl
    rw [hnil]
    exact ⟨nofun, .inl rfl⟩
  | some s =>
    have htext : spelling.front.toList = s.toList ++ ['@'] := by
      rw [front, hsome, Option.map_some, Option.getD_some, String.toList_append]
      rfl
    rw [htext]
    refine ⟨fun c hc => ?_, .inr ⟨_, rfl⟩⟩
    rcases List.mem_append.1 hc with hc | hc
    · exact spelling.inside s hsome c hc
    · rw [List.mem_singleton.1 hc]
      decide

/-- The host as it is written is the name in lower case. -/
theorem Spelling.map_toLower_host {name : String} (spelling : Spelling name) :
    spelling.host.toList.map Char.toLower = name.toList := by
  rw [← String.toList_map]
  exact congrArg String.toList spelling.named

/-- What counts of a text in front of a host stands in front of it, too. -/
theorem IsFront.unbroken {cs : List Char} (h : IsFront cs) : IsFront (unbroken cs) where
  inside c hc := h.inside c (List.mem_of_mem_filter hc)
  closed := by
    rcases h.closed with rfl | ⟨s, rfl⟩
    · exact .inl rfl
    · exact .inr ⟨Url.unbroken s, unbroken_append _ _⟩

/-- The host stands behind the last at sign. -/
theorem behindLast_append {front site : List Char} (h : IsFront front) (hsite : '@' ∉ site) :
    behindLast '@' (front ++ site) = site := by
  have hall : ∀ c ∈ site.reverse, (c != '@') = true := fun c hc =>
    bne_iff_ne.2 fun heq => hsite (heq ▸ List.mem_reverse.1 hc)
  have hstop : front.reverse.takeWhile (· != '@') = [] := by
    rcases h.closed with rfl | ⟨s, rfl⟩
    · rfl
    · rw [List.reverse_append]
      rfl
  rw [behindLast, List.reverse_append, List.takeWhile_append_of_pos hall, hstop, List.append_nil,
    List.reverse_reverse]

/-- A host without colons and brackets is passed over in search of the port. -/
theorem splitPort_append {host : List Char} (hcolon : ':' ∉ host) (hbracket : '[' ∉ host)
    (rest : List Char) : splitPort false (host ++ rest) =
      (host ++ (splitPort false rest).1, (splitPort false rest).2) := by
  induction host with
  | nil => rfl
  | cons c host ih =>
    obtain ⟨hc, hcolon⟩ := List.ne_and_not_mem_of_not_mem_cons hcolon
    obtain ⟨hd, hbracket⟩ := List.ne_and_not_mem_of_not_mem_cons hbracket
    have hopen : (decide (c = '[') || (false && c != ']')) = false := by simp [Ne.symm hd]
    rw [List.cons_append, splitPort, if_neg (fun hmark => hc hmark.1.symm), hopen,
      ih hcolon hbracket]
    rfl

/-- A port is read from its digits. -/
theorem port?_toDigits {n : Nat} (h : n < 65536) : port? (Nat.toDigits 10 n) = some (some n) := by
  have hdigits : (Nat.toDigits 10 n).all Char.isDigit :=
    List.all_eq_true.2 fun _ => Text.isDigit_of_mem_toDigits
  have hempty : ¬ (Nat.toDigits 10 n).isEmpty := by simp [Nat.toDigits_ne_nil]
  unfold port?
  rw [if_neg hempty, if_pos hdigits, Text.numeral?_toDigits, Option.bind_some, if_pos h]

/-! ## Path -/

/-- A path of plain characters ends where a query or a fragment starts. -/
theorem segments?_append {path tail : List Char} (hpath : ∀ c ∈ path, c = '/' ∨ isPlain c)
    (htail : IsTail tail) : segments? true ('/' :: path ++ tail) = some (pieces '/' path) := by
  have hinside : ∀ c ∈ '/' :: path, (c ≠ '?' && c ≠ '#') = true ∧ c ≠ '\\' := by
    have hplain : ∀ c, isPlain c → (c ≠ '?' && c ≠ '#') = true ∧ c ≠ '\\' := fun c hc =>
      of_isPlain (P := fun c => (c ≠ '?' && c ≠ '#') = true ∧ c ≠ '\\') hc (by decide +kernel)
    intro c hc
    rcases List.mem_cons.1 hc with rfl | hc
    · decide
    · rcases hpath c hc with rfl | hc
      · decide
      · exact hplain c hc
  have hfront : ('/' :: path ++ tail).takeWhile (fun c => c ≠ '?' && c ≠ '#') = '/' :: path := by
    have hstop : tail.takeWhile (fun c => c ≠ '?' && c ≠ '#') = [] := by
      cases tail with
      | nil => rfl
      | cons c rest => rcases htail c rfl with rfl | rfl <;> rfl
    rw [List.takeWhile_append_of_pos fun c hc => (hinside c hc).1, hstop, List.append_nil]
  have hslashes : ('/' :: path).map (fun c => if c = '\\' then '/' else c) = '/' :: path :=
    (List.map_congr_left fun c hc => if_neg (hinside c hc).2).trans (List.map_id _)
  unfold segments?
  dsimp only
  rw [hfront, if_pos rfl, hslashes]
  rfl

/-- A text without percent signs has no encoded dots. -/
theorem plainDots_of_notMem {cs : List Char} (h : '%' ∉ cs) : plainDots cs = cs := by
  induction cs with
  | nil => rfl
  | cons c cs ih =>
    obtain ⟨hc, hcs⟩ := List.ne_and_not_mem_of_not_mem_cons h
    unfold plainDots
    split
    · next heq => exact absurd (List.cons.inj heq).1.symm hc
    · next heq => exact absurd (List.cons.inj heq).1.symm hc
    · next heq =>
      obtain ⟨rfl, rfl⟩ := List.cons.inj heq
      rw [ih hcs]
    · next heq => exact absurd heq (List.cons_ne_nil _ _)

/-- Segments that are no steps are reached one after the other. -/
theorem walk_of_isSegment {segments : List String} (h : ∀ s ∈ segments, IsSegment s)
    (reached : List (List Char)) :
    walk reached (segments.map String.toList) =
      (segments.map String.toList).reverse ++ reached := by
  induction segments generalizing reached with
  | nil => rfl
  | cons s rest ih =>
    obtain ⟨hs, hrest⟩ := List.forall_mem_cons.1 h
    have hself : plainDots s.toList = s.toList :=
      plainDots_of_notMem (notMem_of_isPlain hs.plain (by decide))
    have hdot : s.toList ≠ ['.'] := fun heq => hs.noStep.1 (String.toList_inj.1 heq)
    have hdots : s.toList ≠ ['.', '.'] := fun heq => hs.noStep.2 (String.toList_inj.1 heq)
    rw [List.map_cons, walk, hself, if_neg hdot, if_neg hdots, ih hrest, List.reverse_cons,
      List.append_assoc, List.singleton_append]

/-- Nothing is encoded in a segment of plain characters. -/
theorem encoded_of_isPlain {cs : List Char} (h : Plain cs) :
    encoded isEncodedInPath cs = cs := by
  have hkept : ∀ c ∈ cs, (if isEncodedInPath c then
      (String.utf8EncodeChar c).flatMap encodedByte else [c]) = [c] := fun c hc =>
    if_neg (of_isPlain (P := fun c => ¬ isEncodedInPath c) (h c hc) (by decide +kernel))
  rw [encoded, List.flatMap_congr hkept, List.flatMap_singleton']

/-- Segments that stand for themselves are what is left of them. -/
theorem resolved_of_isSegment {segments : List String} (h : ∀ s ∈ segments, IsSegment s) :
    resolved (segments.map String.toList) = segments := by
  have hfull : (segments.map String.toList).filter (fun s => !s.isEmpty) =
      segments.map String.toList := by
    refine List.filter_eq_self.2 fun cs hcs => ?_
    obtain ⟨s, hs, rfl⟩ := List.mem_map.1 hcs
    simpa using (h s hs).nonempty
  have hself : ∀ s ∈ segments, String.ofList (encoded isEncodedInPath s.toList) = id s :=
    fun s hs => by rw [encoded_of_isPlain (h s hs).plain, String.ofList_toList]; rfl
  unfold resolved
  rw [walk_of_isSegment h, List.append_nil, List.reverse_reverse, hfull, List.map_map]
  exact (List.map_congr_left hself).trans (List.map_id _)

/-- The path of segments that stand for themselves has no characters but plain ones and slashes. -/
theorem mem_intercalate_of_isSegment {segments : List String} (h : ∀ s ∈ segments, IsSegment s)
    {c : Char} (hc : c ∈ ['/'].intercalate (segments.map String.toList)) : c = '/' ∨ isPlain c := by
  refine (Text.mem_of_mem_intercalate hc).imp_right fun ⟨cs, hcs, hc⟩ => ?_
  obtain ⟨s, hs, rfl⟩ := List.mem_map.1 hcs
  exact (h s hs).plain c hc

/-- Segments that stand for themselves are what stands between the slashes of their path. -/
theorem pieces_of_isSegment {segments : List String} (hne : segments ≠ [])
    (h : ∀ s ∈ segments, IsSegment s) :
    pieces '/' (['/'].intercalate (segments.map String.toList)) = segments.map String.toList := by
  refine Text.pieces_intercalate (by simpa using hne) fun cs hcs => ?_
  obtain ⟨s, hs, rfl⟩ := List.mem_map.1 hcs
  exact notMem_of_isPlain (h s hs).plain (by decide)

/-! ## Whole addresses -/

/-- The text of a port is a colon and its digits. -/
theorem toList_portText (port : Option Nat) :
    (portText port).toList = (port.map fun n => ':' :: Nat.toDigits 10 n).getD [] := by
  cases port <;> simp [portText]

/-- No backslash is among the digits of a port. -/
theorem notMem_digits (port : Option Nat) : '\\' ∉ (port.map (Nat.toDigits 10)).getD [] := by
  cases port with
  | none => exact List.not_mem_nil
  | some n =>
    intro hmem
    exact absurd (Text.isDigit_of_mem_toDigits hmem) (by decide)

/-- Plain characters and the colon may stand behind the at sign in the part that names the host. -/
theorem named_of_isPlain {c : Char} (h : c = ':' ∨ isPlain c) :
    endsAuthority true c = false ∧ c ≠ '@' := by
  rcases h with rfl | hc
  · decide
  · exact of_isPlain (P := fun c => endsAuthority true c = false ∧ c ≠ '@') hc (by decide +kernel)

/-- The text of a port has no characters but plain ones and the colon. -/
theorem mem_portText {port : Option Nat} {c : Char} (hc : c ∈ (portText port).toList) :
    c = ':' ∨ isPlain c := by
  rw [toList_portText] at hc
  cases port with
  | none => exact absurd hc List.not_mem_nil
  | some n =>
    refine (List.mem_cons.1 hc).imp_right fun hc => ?_
    exact isPlain_of_isDigit (Text.isDigit_of_mem_toDigits hc)

section

variable {url : Url} (h : IsPage url)

include h

/-- The segments are what stands between the slashes of the path. -/
theorem IsPage.pieces_path : pieces '/' url.path = url.segments.map String.toList :=
  pieces_of_isSegment h.rooted h.segments

/-- The port is read from its digits, if it has any. -/
theorem IsPage.port?_digits :
    port? ((url.port.map (Nat.toDigits 10)).getD []) = some url.port := by
  cases hsome : url.port with
  | none => rfl
  | some n => exact port?_toDigits (h.port n hsome).1

/-- The port is not the one that the scheme implies. -/
theorem IsPage.port_ne : url.port ≠ impliedPort? url.scheme.toList := by
  cases hsome : url.port with
  | none => rcases h.scheme with hscheme | hscheme <;> rw [hscheme] <;> decide
  | some n => exact (h.port n hsome).2.symm

variable (spelling : Spelling url.host)

/-- The host as it is written consists of plain characters. -/
theorem IsPage.plain_host : Plain spelling.host.toList :=
  h.host.plain_of_lower spelling.map_toLower_host

/-- A host is written. -/
theorem IsPage.site_ne_nil : url.site spelling ≠ [] := by
  intro hempty
  have hlower := spelling.map_toLower_host
  rw [(List.append_eq_nil_iff.1 hempty).1] at hlower
  exact h.host.nonempty hlower.symm

/-- Host and port have no characters but plain ones and the colon. -/
theorem IsPage.mem_site {c : Char} (hc : c ∈ url.site spelling) : c = ':' ∨ isPlain c := by
  rcases List.mem_append.1 hc with hc | hc
  · exact .inr (h.plain_host spelling c hc)
  · exact mem_portText hc

/-- The host and the digits of the port are found. -/
theorem IsPage.splitPort_site :
    splitPort false (url.site spelling) =
      (spelling.host.toList, url.port.map (Nat.toDigits 10)) := by
  have hplain := h.plain_host spelling
  rw [site, splitPort_append (notMem_of_isPlain hplain (by decide))
    (notMem_of_isPlain hplain (by decide)), toList_portText]
  cases url.port <;> simp [splitPort]

/-- What counts of an address in a spelling. -/
theorem IsPage.significant_written :
    ∃ front tail, IsFront front ∧ IsTail tail ∧ significant (url.written spelling).toList =
      url.scheme.toList ++ ':' :: '/' :: '/' ::
        (front ++ url.site spelling ++ ('/' :: url.path ++ tail)) := by
  refine ⟨unbroken spelling.front.toList, unbroken (spelling.tail.toList.rdropWhile isEdge),
    spelling.isFront.unbroken, isTail_unbroken spelling.outside, ?_⟩
  have htext : (url.written spelling).toList = url.scheme.toList ++ "://".toList ++
      spelling.front.toList ++ url.site spelling ++ '/' :: url.path ++ spelling.tail.toList := by
    simp [written, site, path, String.toList_intercalate]
  -- Only credentials and what stands behind the path may have characters that do not count.
  have hscheme : unbroken (url.scheme.toList ++ "://".toList) =
      url.scheme.toList ++ "://".toList := by
    rcases h.scheme with hscheme | hscheme <;> rw [hscheme] <;> decide
  have hsite : unbroken (url.site spelling) = url.site spelling :=
    unbroken_of_isPlain fun c hc => (h.mem_site spelling hc).imp_right .inr
  have hmem : ∀ c ∈ '/' :: url.path, c = ':' ∨ c = '/' ∨ isPlain c :=
    List.forall_mem_cons.2 ⟨.inr (.inl rfl), fun c hc =>
      .inr (mem_intercalate_of_isSegment h.segments hc)⟩
  rw [htext, significant_append]
  · rw [unbroken_append, unbroken_append, unbroken_append, hscheme, hsite, unbroken_of_isPlain hmem]
    simp
  · simp
  · rcases h.scheme with heq | heq <;> simp [heq] <;> decide
  · rw [List.getLast_append_of_ne_nil _ (List.cons_ne_nil _ _)]
    exact (counts_of_isPlain (hmem _ (List.getLast_mem _))).1

end

/-- An address of the web is read by reading its parts. -/
theorem parse?_of_parts {s : String} {scheme rest authority tail hostText : List Char}
    {portDigits : Option (List Char)} {port : Option Nat} {host : List Char}
    {segments : List (List Char)} (hscheme : scheme? (significant s.toList) = some (scheme, rest))
    (hweb : isWeb scheme) (hfile : isFile scheme = false)
    (hslashes : afterSlashes? scheme rest = some (authority ++ tail))
    (hauthority : IsInside authority)
    (htail : ∀ c ∈ tail.head?, endsAuthority true c)
    (hsplit : splitPort false (behindLast '@' authority) = (hostText, portDigits))
    (hdigits : '\\' ∉ portDigits.getD []) (hport : port? (portDigits.getD []) = some port)
    (hhost : webHost? hostText = some host) (hsegments : segments? true tail = some segments) :
    parse? s = some {
      scheme := String.ofList scheme
      host := String.ofList host
      port := if port = impliedPort? scheme then none else port
      segments := resolved segments } := by
  have hinside : ∀ c ∈ authority, (!endsAuthority true c) = true := fun c hc => by
    simp [hauthority c hc]
  have hstop : tail.takeWhile (fun c => !endsAuthority true c) = [] ∧
      tail.dropWhile (fun c => !endsAuthority true c) = tail := by
    cases tail with
    | nil => exact ⟨rfl, rfl⟩
    | cons c rest => simp [htail c rfl]
  -- No backslash ends the port, so that the path is all of the tail.
  have hclean : ∀ c ∈ portDigits.getD [], (c != '\\') = true := fun c hc =>
    bne_iff_ne.2 fun heq => hdigits (heq ▸ hc)
  have hfront : (portDigits.getD []).takeWhile (· != '\\') = portDigits.getD [] :=
    List.takeWhile_eq_self_iff.2 hclean
  have hstray : (portDigits.getD []).dropWhile (· != '\\') = [] :=
    List.dropWhile_eq_nil_iff.2 hclean
  unfold parse?
  simp only [hscheme, hweb, hfile, hslashes, Option.bind_eq_bind, Option.bind_some,
    List.takeWhile_append_of_pos hinside, List.dropWhile_append_of_pos hinside, hstop,
    List.append_nil, hsplit, hfront, hstray, hport, hhost, hsegments, List.nil_append, if_true,
    Bool.false_eq_true, if_false]
  rfl

/-- Whatever the spelling of an address, that address is read. -/
theorem parse?_written {url : Url} (h : IsPage url) (spelling : Spelling url.host) :
    parse? (url.written spelling) = some url := by
  obtain ⟨front, tail, hfront, htail, hsignificant⟩ := h.significant_written spelling
  have hscheme : url.scheme.toList = "http".toList ∨ url.scheme.toList = "https".toList :=
    h.scheme.imp (congrArg _) (congrArg _)
  have hweb : isWeb url.scheme.toList ∧ isFile url.scheme.toList = false := by
    rcases hscheme with heq | heq <;> rw [heq] <;> decide
  have hsite : ∀ c ∈ url.site spelling, endsAuthority true c = false ∧ c ≠ '@' :=
    fun c hc => named_of_isPlain (h.mem_site spelling hc)
  have hauthority : IsInside (front ++ url.site spelling) := by
    intro c hc
    rcases List.mem_append.1 hc with hc | hc
    · exact hfront.inside c hc
    · exact (hsite c hc).1
  have hne : front ++ url.site spelling ≠ [] :=
    List.append_ne_nil_of_right_ne_nil _ (h.site_ne_nil spelling)
  have hslashes := afterSlashes?_append hscheme hne hauthority
  -- There may be at signs in the credentials, but none behind them.
  have hsplit := h.splitPort_site spelling
  rw [← behindLast_append hfront fun hat => (hsite _ hat).2 rfl] at hsplit
  have hhost := webHost?_of_isDomain spelling.map_toLower_host h.host
  have hsegments : segments? true ('/' :: url.path ++ tail) = some (pieces '/' url.path) :=
    segments?_append (fun _ hc => mem_intercalate_of_isSegment h.segments hc) htail
  rw [parse?_of_parts (hsignificant ▸ scheme?_append hscheme _) hweb.1 hweb.2 (hslashes _)
    hauthority (by simp [endsAuthority]) hsplit (notMem_digits _) h.port?_digits hhost hsegments,
    h.pieces_path, resolved_of_isSegment h.segments, if_neg h.port_ne, String.ofList_toList,
    String.ofList_toList]

example : parse? "https://ada:x@GitLab.com:8443/a/b?c#d" =
    some ⟨"https", "gitlab.com", some 8443, ["a", "b"]⟩ := by
  decide +kernel

end Manifest.Url
