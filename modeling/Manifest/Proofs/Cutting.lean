import Mathlib.Data.List.Infix
import Manifest.Text.Split

/-!
# Cutting and joining text

What the pieces of a text and its two sides at a mark are, told by what the text was put together
from: a mark in the text parts its pieces (`pieces_append_mark`), so texts without the mark are the
pieces of what they are joined to (`pieces_intercalate`), and no part that has no such mark in it
occurs across one (`occurs_append_cons`).
-/

namespace Manifest.Text

/-! ## Pieces -/

/-- The pieces of a text with a mark in it are those in front of the mark and those behind it. -/
theorem pieces_append_mark (mark : Char) (front behind : List Char) :
    pieces mark (front ++ mark :: behind) = pieces mark front ++ pieces mark behind := by
  induction front with
  | nil => simp [pieces]
  | cons c front ih =>
    by_cases hc : c = mark
    · simp [pieces, hc, ih]
    · cases hp : pieces mark front with
      | nil => exact absurd hp (pieces_ne_nil mark front)
      | cons piece rest => simp [pieces, hc, ih, hp]

/-- A text without the mark is one piece. -/
theorem pieces_of_notMem {mark : Char} {cs : List Char} (h : mark ∉ cs) :
    pieces mark cs = [cs] := by
  induction cs with
  | nil => rfl
  | cons c cs ih =>
    obtain ⟨hc, hcs⟩ := List.ne_and_not_mem_of_not_mem_cons h
    simp [pieces, Ne.symm hc, ih hcs]

/-- Texts without the mark are the pieces of the text that joins them with it. -/
theorem pieces_intercalate {mark : Char} {texts : List (List Char)} (hne : texts ≠ [])
    (h : ∀ text ∈ texts, mark ∉ text) : pieces mark ([mark].intercalate texts) = texts := by
  induction texts with
  | nil => exact absurd rfl hne
  | cons first rest ih =>
    obtain ⟨hfirst, hrest⟩ := List.forall_mem_cons.1 h
    cases rest with
    | nil => simpa using pieces_of_notMem hfirst
    | cons second more =>
      rw [List.intercalate_cons_cons, List.append_assoc, List.singleton_append,
        pieces_append_mark, pieces_of_notMem hfirst, ih (List.cons_ne_nil _ _) hrest,
        List.singleton_append]

/-- The pieces of a text are those texts without the mark that it joins with the mark. -/
theorem pieces_eq_iff {mark : Char} {cs : List Char} {texts : List (List Char)} :
    pieces mark cs = texts ↔
      texts ≠ [] ∧ (∀ text ∈ texts, mark ∉ text) ∧ cs = [mark].intercalate texts := by
  constructor
  · rintro rfl
    exact ⟨pieces_ne_nil mark cs, fun _ => not_mem_of_mem_pieces,
      (intercalate_pieces mark cs).symm⟩
  · rintro ⟨hne, hfree, rfl⟩
    exact pieces_intercalate hne hfree

/-- A text is split into those texts without the mark that it joins with the mark. -/
theorem split_eq_iff {mark : Char} {s : String} {texts : List String} :
    split mark s = texts ↔
      texts ≠ [] ∧ (∀ t ∈ texts, mark ∉ t.toList) ∧
        s.toList = [mark].intercalate (texts.map String.toList) := by
  have hsplit : split mark s = texts ↔ pieces mark s.toList = texts.map String.toList := by
    constructor
    · rintro rfl
      rw [split, List.map_map]
      exact ((List.map_congr_left fun _ _ => String.toList_ofList).trans (List.map_id _)).symm
    · intro h
      rw [split, h, List.map_map]
      exact (List.map_congr_left fun _ _ => String.ofList_toList).trans (List.map_id _)
  rw [hsplit, pieces_eq_iff, Ne, List.map_eq_nil_iff, List.forall_mem_map]

/-- The characters of a piece are characters of the text. -/
theorem mem_of_mem_pieces {mark : Char} {cs piece : List Char} (h : piece ∈ pieces mark cs)
    {c : Char} (hc : c ∈ piece) : c ∈ cs := by
  induction cs generalizing piece with
  | nil => rwa [List.mem_singleton.1 h] at hc
  | cons d cs ih =>
    unfold pieces at h
    split at h
    case isTrue =>
      rcases List.mem_cons.1 h with rfl | h
      · exact absurd hc List.not_mem_nil
      · exact List.mem_cons_of_mem d (ih h hc)
    case isFalse =>
      cases hp : pieces mark cs with
      | nil => exact absurd hp (pieces_ne_nil mark cs)
      | cons first rest =>
        rw [hp] at h ih
        rcases List.mem_cons.1 h with rfl | h
        · rcases List.mem_cons.1 hc with rfl | hc
          · exact List.mem_cons_self
          · exact List.mem_cons_of_mem d (ih List.mem_cons_self hc)
        · exact List.mem_cons_of_mem d (ih (List.mem_cons_of_mem first h) hc)

/-- A text that joins others has no characters but theirs and the mark. -/
theorem mem_of_mem_intercalate {mark : Char} {texts : List (List Char)} {c : Char}
    (h : c ∈ [mark].intercalate texts) : c = mark ∨ ∃ text ∈ texts, c ∈ text := by
  induction texts with
  | nil => exact absurd h List.not_mem_nil
  | cons first rest ih =>
    cases rest with
    | nil => exact .inr ⟨first, List.mem_cons_self, by simpa using h⟩
    | cons second more =>
      rw [List.intercalate_cons_cons, List.append_assoc, List.singleton_append] at h
      rcases List.mem_append.1 h with h | h
      · exact .inr ⟨first, List.mem_cons_self, h⟩
      · rcases List.mem_cons.1 h with rfl | h
        · exact .inl rfl
        · rcases ih h with hmark | ⟨text, htext, hc⟩
          · exact .inl hmark
          · exact .inr ⟨text, List.mem_cons_of_mem first htext, hc⟩

/-! ## The sides of a mark -/

/-- A text is cut at a mark that does not stand in front. -/
theorem cut_append {mark : Char} {front : List Char} (h : mark ∉ front) (behind : List Char) :
    cut mark (front ++ mark :: behind) = some (front, behind) := by
  induction front with
  | nil => simp [cut]
  | cons c front ih =>
    obtain ⟨hc, hfront⟩ := List.ne_and_not_mem_of_not_mem_cons h
    rw [List.cons_append, cut, if_neg (Ne.symm hc), ih hfront]
    rfl

/-- A text with a mark is what stands before and behind the first one. -/
theorem eq_append_of_cut {mark : Char} {cs before after : List Char}
    (h : cut mark cs = some (before, after)) : cs = before ++ mark :: after := by
  induction cs generalizing before with
  | nil => exact absurd h (by simp [cut])
  | cons c cs ih =>
    rw [cut] at h
    split at h
    case isTrue hc =>
      simp only [Option.some.injEq, Prod.mk.injEq] at h
      obtain ⟨rfl, rfl⟩ := h
      rw [hc, List.nil_append]
    case isFalse =>
      obtain ⟨⟨front, behind⟩, hcut, heq⟩ := Option.map_eq_some_iff.1 h
      simp only [Prod.mk.injEq] at heq
      obtain ⟨rfl, rfl⟩ := heq
      rw [ih hcut, List.cons_append]

/-- A text without the mark is not cut. -/
theorem cut_of_notMem {mark : Char} {cs : List Char} (h : mark ∉ cs) : cut mark cs = none := by
  cases hcut : cut mark cs with
  | none => rfl
  | some sides =>
    obtain ⟨before, after⟩ := sides
    rw [eq_append_of_cut hcut] at h
    exact absurd (List.mem_append_right _ List.mem_cons_self) h

/-- A text that is not cut does not have the mark. -/
theorem notMem_of_cut_eq_none {mark : Char} {cs : List Char} (h : cut mark cs = none) :
    mark ∉ cs := by
  intro hmem
  obtain ⟨front, behind, rfl, hfront⟩ := List.eq_append_cons_of_mem hmem
  exact absurd ((cut_append hfront behind).symm.trans h) (by simp)

/-- A text is cut at the first mark, so none stands before it. -/
theorem notMem_of_cut {mark : Char} {cs before after : List Char}
    (h : cut mark cs = some (before, after)) : mark ∉ before := by
  have hmem : mark ∈ cs := by
    rw [eq_append_of_cut h]
    exact List.mem_append_right _ List.mem_cons_self
  obtain ⟨front, behind, rfl, hfront⟩ := List.eq_append_cons_of_mem hmem
  have hsides := (cut_append hfront behind).symm.trans h
  rwa [← (Prod.mk.inj (Option.some.inj hsides)).1]

/-! ## Parts -/

/-- What does not have a character in it starts a text with this character if it starts what stands
before the character. -/
theorem prefix_append_cons_iff {part front behind : List Char} {c : Char} (h : c ∉ part) :
    part <+: front ++ c :: behind ↔ part <+: front := by
  refine ⟨fun hpart => ?_, fun hpart => hpart.trans (List.prefix_append _ _)⟩
  rcases Nat.lt_or_ge front.length part.length with hlong | hshort
  · -- A longer part would reach as far as the character.
    have hreach : front ++ [c] <+: part := by
      refine List.prefix_of_prefix_length_le ⟨behind, by simp⟩ hpart ?_
      simpa [Nat.succ_le_iff] using hlong
    exact absurd (hreach.subset (List.mem_append_right _ (List.mem_singleton_self c))) h
  · exact List.prefix_of_prefix_length_le hpart (List.prefix_append _ _) hshort

/-- A part that does not have a character in it occurs on one side of this character. -/
theorem occurs_append_cons {part : List Char} {c : Char} (hne : part ≠ []) (h : c ∉ part)
    (front behind : List Char) :
    occurs part (front ++ c :: behind) = (occurs part front || occurs part behind) := by
  have hstart : ∀ front, part.isPrefixOf (front ++ c :: behind) = part.isPrefixOf front :=
    fun front => by
      rw [Bool.eq_iff_iff, List.isPrefixOf_iff_prefix, List.isPrefixOf_iff_prefix,
        prefix_append_cons_iff h]
  induction front with
  | nil =>
    have hnil : part.isPrefixOf [] = false := by
      cases part with
      | nil => exact absurd rfl hne
      | cons => rfl
    have hempty : occurs part [] = false := by simpa [occurs] using hne
    have hstep : occurs part (c :: behind) =
        (part.isPrefixOf (c :: behind) || occurs part behind) := rfl
    rw [List.nil_append, hstep, hempty, ← List.nil_append (c :: behind), hstart, hnil]
  | cons d front ih =>
    rw [List.cons_append, occurs, ih, ← List.cons_append, hstart, occurs, Bool.or_assoc]

/-- A part that has no character of a separator occurs on one side of the separator. -/
theorem occurs_append_append {part separator : List Char} (hne : part ≠ []) (hsome : separator ≠ [])
    (h : ∀ c ∈ separator, c ∉ part) (front behind : List Char) :
    occurs part (front ++ separator ++ behind) = (occurs part front || occurs part behind) := by
  have hnil : occurs part [] = false := by simpa [occurs] using hne
  induction separator generalizing front with
  | nil => exact absurd rfl hsome
  | cons c rest ih =>
    obtain ⟨hc, hrest⟩ := List.forall_mem_cons.1 h
    rw [List.append_assoc, List.cons_append, occurs_append_cons hne hc]
    by_cases hmore : rest = []
    · rw [hmore, List.nil_append]
    · have hblank := ih hmore hrest []
      rw [List.nil_append, hnil, Bool.false_or] at hblank
      rw [hblank]

end Manifest.Text
