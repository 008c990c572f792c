import Manifest.Proofs.Cutting
import Manifest.Url.Host

/-!
# Domain names as hosts

`IsDomain` says which names are in the normal form of a host: they consist of plain characters,
their labels mean something, and the last one is not a number. A name that has this form in lower
case is read as the host of that name, in whatever letter case it is written
(`webHost?_of_isDomain`). A name means something if none of its labels has the mark of those that
stand for others (`Means.of_unmarked`).
-/

namespace Manifest.Url

open Text (pieces)

/-! ## Plain characters -/

/-- Whether a character stands for itself, letter case aside, in a host and in the path of an
address. -/
def isPlain (c : Char) : Bool :=
  c.isAlphanum || c == '-' || c == '_' || c == '.'

/-- Plain characters are in ASCII. -/
theorem toNat_lt_of_isPlain {c : Char} (h : isPlain c) : c.toNat < 0x80 := by
  have hbound : ∀ {last : Char}, c.val ≤ last.val → last.toNat < 0x80 → c.toNat < 0x80 :=
    fun hle hlast => Nat.lt_of_le_of_lt (UInt32.le_iff_toNat_le.1 hle) hlast
  simp only [isPlain, Bool.or_eq_true, beq_iff_eq] at h
  rcases h with ((hletter | rfl) | rfl) | rfl
  · rcases Bool.or_eq_true_iff.1 hletter with halpha | hdigit
    · rcases Bool.or_eq_true_iff.1 halpha with hupper | hlower
      · exact hbound (of_decide_eq_true hupper).2 (by decide)
      · exact hbound (of_decide_eq_true (Bool.and_eq_true_iff.1 hlower).2) (by decide)
    · exact hbound (of_decide_eq_true (Bool.and_eq_true_iff.1 hdigit).2) (by decide)
  all_goals decide

/-- Every character is plain. -/
def Plain (cs : List Char) : Prop :=
  ∀ c ∈ cs, isPlain c

instance (cs : List Char) : Decidable (Plain cs) :=
  List.decidableBAll _ cs

/-- What holds of every plain character in ASCII holds of every plain character. -/
theorem of_isPlain {P : Char → Prop} {c : Char} (h : isPlain c)
    (hall : ∀ n < 0x80, isPlain (Char.ofNat n) → P (Char.ofNat n)) : P c := by
  have hself : Char.ofNat c.toNat = c := Char.ofNat_toNat c
  have hc := hall c.toNat (toNat_lt_of_isPlain h)
  rw [hself] at hc
  exact hc h

/-- The characters that set off the parts of an address from each other. -/
def separators : List Char :=
  [':', '/', '\\', '?', '#', '@', '[', '%', '\t', '\n', '\r']

/-- No plain character sets off a part of an address. -/
theorem not_separator_of_isPlain {c : Char} (h : isPlain c) : c ∉ separators :=
  @of_isPlain (· ∉ separators) c h (by decide +kernel)

/-- A text of plain characters has no separator. -/
theorem notMem_of_isPlain {cs : List Char} (h : Plain cs) {mark : Char}
    (hmark : mark ∈ separators) : mark ∉ cs :=
  fun hmem => not_separator_of_isPlain (h mark hmem) hmark

/-- A letter or digit is plain. -/
theorem isPlain_of_isAlphanum {c : Char} (h : c.isAlphanum) : isPlain c := by
  simp [isPlain, h]

/-- A character is plain if its lower-case form is. -/
theorem isPlain_of_toLower {c : Char} (h : isPlain c.toLower) : isPlain c := by
  by_cases hupper : c.isUpper
  · have halpha : c.isAlpha := Bool.or_eq_true_iff.2 (.inl hupper)
    exact isPlain_of_isAlphanum (Bool.or_eq_true_iff.2 (.inl halpha))
  · have hself : c.toLower = c := dif_neg fun hrange => hupper (decide_eq_true hrange)
    rwa [hself] at h

/-- A digit is plain. -/
theorem isPlain_of_isDigit {c : Char} (h : c.isDigit) : isPlain c :=
  isPlain_of_isAlphanum (Bool.or_eq_true_iff.2 (.inr h))

/-! ## Domain names -/

/-- The labels of a name mean something, and what they mean keeps to its directions. -/
def Means (name : List Char) : Prop :=
  ∃ meant, (pieces '.' name).mapM meantLabel? = some meant ∧ keepDirections meant

/-- A name in the normal form of a host. -/
structure IsDomain (name : List Char) : Prop where
  /-- It is not empty. -/
  nonempty : name ≠ []
  /-- It consists of plain characters. -/
  plain : Plain name
  /-- Its labels mean something. -/
  means : Means name
  /-- It does not end as a numeric address does. -/
  unnumbered : endsInNumber name = false

/-- A text that is such a name in lower case consists of plain characters. -/
theorem IsDomain.plain_of_lower {written name : List Char} (h : IsDomain name)
    (hlower : written.map Char.toLower = name) : Plain written :=
  fun _ hc => isPlain_of_toLower (h.plain _ (hlower ▸ List.mem_map_of_mem hc))

/-- A text in ASCII is composed. -/
theorem composed_of_isAscii {cs : List Char} (h : isAscii cs) : Text.composed cs = cs := by
  refine if_pos (List.all_eq_true.2 fun c hc => ?_)
  have hlt : c.toNat < 0x80 := by simpa using List.all_eq_true.1 h c hc
  exact decide_eq_true (by omega)

/-- A text of plain characters is in ASCII. -/
theorem isAscii_of_isPlain {cs : List Char} (h : Plain cs) : isAscii cs :=
  List.all_eq_true.2 fun c hc => decide_eq_true (toNat_lt_of_isPlain (h c hc))

/-- Plain characters are folded to lower case. -/
theorem flatMap_folded {cs : List Char} (h : Plain cs) :
    cs.flatMap folded = cs.map Char.toLower := by
  rw [List.map_eq_flatMap]
  refine List.flatMap_congr fun c hc => ?_
  exact if_pos (toNat_lt_of_isPlain (h c hc))

/-- The labels of a name of plain characters are in ASCII. -/
theorem isAscii_of_mem_pieces {name : List Char} (hplain : Plain name)
    {label : List Char} (h : label ∈ pieces '.' name) : isAscii label :=
  isAscii_of_isPlain fun c hc => hplain c (Text.mem_of_mem_pieces h hc)

/-- Labels that mean themselves mean themselves one after the other. -/
theorem mapM_meantLabel? {labels : List (List Char)}
    (h : ∀ label ∈ labels, meantLabel? label = some label) :
    labels.mapM meantLabel? = some labels := by
  induction labels with
  | nil => rfl
  | cons label rest ih =>
    obtain ⟨hlabel, hrest⟩ := List.forall_mem_cons.1 h
    rw [List.mapM_cons, hlabel, ih hrest]
    rfl

/-- A name without marked labels means what it is. -/
theorem Means.of_unmarked {name : List Char} (hplain : Plain name)
    (h : ∀ label ∈ pieces '.' name, encodedMark.isPrefixOf label = false) : Means name := by
  have hascii : ∀ label ∈ pieces '.' name, isAscii label :=
    fun label hlabel => isAscii_of_mem_pieces hplain hlabel
  refine ⟨pieces '.' name, mapM_meantLabel? fun label hlabel => ?_,
    keepDirections_of_isAscii hascii⟩
  -- A label in ASCII without the mark stands for itself.
  unfold meantLabel?
  rw [h label hlabel, hascii label hlabel]
  rfl

/-- A name in normal form is its own normal form, in whatever letter case it is written. -/
theorem asciiDomain?_of_isDomain {written name : List Char}
    (hlower : written.map Char.toLower = name) (h : IsDomain name) :
    asciiDomain? written = some name := by
  obtain ⟨meant, hmeant, hkeep⟩ := h.means
  have hplain := h.plain_of_lower hlower
  have hlabels : (pieces '.' name).map asciiLabel = pieces '.' name := by
    have hsame : ∀ label ∈ pieces '.' name, asciiLabel label = id label :=
      fun label hlabel => if_pos (isAscii_of_mem_pieces h.plain hlabel)
    rw [List.map_congr_left hsame, List.map_id]
  unfold asciiDomain?
  dsimp only
  rw [flatMap_folded hplain, hlower, composed_of_isAscii (isAscii_of_isPlain h.plain), hmeant,
    Option.filter_some, if_pos hkeep, hlabels, Text.intercalate_pieces]
  rfl

/-- A domain name is read as the host of that name in lower case. -/
theorem webHost?_of_isDomain {written name : List Char}
    (hlower : written.map Char.toLower = name) (h : IsDomain name) :
    webHost? written = some name := by
  have hplain := h.plain_of_lower hlower
  have hdecoded : decoded? written = some written := by
    have hpercent : '%' ∉ written := notMem_of_isPlain hplain (by decide)
    exact if_neg (by simpa using hpercent)
  -- The characters that are forbidden in a domain are not plain.
  have hallowed : name.any isForbiddenInDomain = false :=
    List.any_eq_false.2 fun c hc =>
      @of_isPlain (fun c => ¬ isForbiddenInDomain c) c (h.plain c hc) (by decide +kernel)
  have hdomain : domain? written = some name := by
    unfold domain?
    rw [asciiDomain?_of_isDomain hlower h, Option.filter_some]
    refine if_pos ?_
    rw [hallowed]
    simpa using h.nonempty
  unfold webHost?
  split
  · exact absurd (List.mem_cons_self) (notMem_of_isPlain hplain (by decide))
  · rw [hdecoded, Option.bind_some, hdomain]
    exact if_neg (by simp [h.unnumbered])

end Manifest.Url
