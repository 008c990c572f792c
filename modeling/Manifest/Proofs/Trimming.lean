import Mathlib.Data.List.DropRight
import Manifest.Text.Blank

/-!
# Trimming

A text is blanks, its trimmed form, and blanks again. `IsTrimmed` is the property of having no blank
at either end, and the trimmed form of a text is the one part between blanks that has it
(`trimmed_append_of_blank`). That trimming changes nothing the second time follows.
-/

namespace Manifest.Text

/-- No blank stands at either end of the text. -/
structure IsTrimmed (cs : List Char) : Prop where
  /-- The first character is not blank. -/
  head : ∀ c ∈ cs.head?, isBlank c = false
  /-- The last character is not blank. -/
  last : ∀ c ∈ cs.getLast?, isBlank c = false

/-- Trimming the start does nothing to a text that starts with no blank. -/
theorem trimStart_of_head {cs : List Char} (h : ∀ c ∈ cs.head?, isBlank c = false) :
    trimStart cs = cs := by
  cases cs with
  | nil => rfl
  | cons c rest =>
    have hc : isBlank c = false := h c (by simp)
    simp [trimStart, hc]

/-- Trimming the end does nothing to a text that ends with no blank. -/
theorem trimEnd_of_last {cs : List Char} (h : ∀ c ∈ cs.getLast?, isBlank c = false) :
    trimEnd cs = cs := by
  rw [← List.head?_reverse] at h
  have hrev : cs.reverse.dropWhile isBlank = cs.reverse := trimStart_of_head h
  rw [trimEnd, hrev, List.reverse_reverse]

/-- A text without blanks at its ends is its own trimmed form. -/
theorem IsTrimmed.trimmed_eq {cs : List Char} (h : IsTrimmed cs) : trimmed cs = cs := by
  rw [trimmed, trimStart_of_head h.head, trimEnd_of_last h.last]

/-- Blanks in front do not count. -/
theorem trimStart_append_of_blank {ws : List Char} (h : ∀ c ∈ ws, isBlank c) (cs : List Char) :
    trimStart (ws ++ cs) = trimStart cs :=
  List.dropWhile_append_of_pos h

/-- Blanks behind do not count. -/
theorem trimEnd_append_of_blank {ws : List Char} (h : ∀ c ∈ ws, isBlank c) (cs : List Char) :
    trimEnd (cs ++ ws) = trimEnd cs := by
  rw [trimEnd, trimEnd, List.reverse_append,
    List.dropWhile_append_of_pos fun c hc => h c (List.mem_reverse.1 hc)]

/-- A trimmed start is a part of the text behind blanks. -/
theorem exists_trimStart (cs : List Char) :
    ∃ ws, (∀ c ∈ ws, isBlank c) ∧ cs = ws ++ trimStart cs :=
  ⟨cs.takeWhile isBlank, fun _ hc => List.mem_takeWhile_imp hc,
    List.takeWhile_append_dropWhile.symm⟩

/-- A trimmed end is a part of the text before blanks. -/
theorem exists_trimEnd (cs : List Char) :
    ∃ ws, (∀ c ∈ ws, isBlank c) ∧ cs = trimEnd cs ++ ws :=
  ⟨cs.rtakeWhile isBlank, fun _ hc => List.mem_rtakeWhile_imp hc,
    (List.rdropWhile_append_rtakeWhile (l := cs) (p := isBlank)).symm⟩

/-- Every text is its trimmed form between blanks. -/
theorem exists_trimmed (cs : List Char) :
    ∃ ws vs, (∀ c ∈ ws, isBlank c) ∧ (∀ c ∈ vs, isBlank c) ∧ cs = ws ++ trimmed cs ++ vs := by
  obtain ⟨ws, hws, hcs⟩ := exists_trimStart cs
  obtain ⟨vs, hvs, hmid⟩ := exists_trimEnd (trimStart cs)
  refine ⟨ws, vs, hws, hvs, ?_⟩
  calc cs = ws ++ trimStart cs := hcs
    _ = ws ++ (trimmed cs ++ vs) := by rw [trimmed, ← hmid]
    _ = ws ++ trimmed cs ++ vs := (List.append_assoc _ _ _).symm

/-- The trimmed form of a text has no blanks at its ends. -/
theorem isTrimmed_trimmed (cs : List Char) : IsTrimmed (trimmed cs) := by
  constructor
  · intro c hc
    -- The trimmed form starts as the trimmed start does, of which it is the front.
    obtain ⟨ws, -, hmid⟩ := exists_trimEnd (trimStart cs)
    have hhead : (trimStart cs).head? = some c := by
      rw [hmid, ← trimmed, List.head?_append, Option.mem_def.1 hc]
      rfl
    have hnot := List.head?_dropWhile_not isBlank cs
    rw [show cs.dropWhile isBlank = trimStart cs from rfl, hhead] at hnot
    exact hnot
  · intro c hc
    rw [trimmed, trimEnd, List.getLast?_reverse] at hc
    have hnot := List.head?_dropWhile_not isBlank (trimStart cs).reverse
    rw [Option.mem_def.1 hc] at hnot
    exact hnot

instance (cs : List Char) : Decidable (IsTrimmed cs) :=
  decidable_of_iff (trimmed cs = cs) ⟨fun h => h ▸ isTrimmed_trimmed cs, IsTrimmed.trimmed_eq⟩

/-- Trimming a trimmed text changes nothing. -/
@[simp] theorem trimmed_trimmed (cs : List Char) : trimmed (trimmed cs) = trimmed cs :=
  (isTrimmed_trimmed cs).trimmed_eq

/-- Trimming a trimmed text changes nothing. -/
@[simp] theorem trim_trim (s : String) : trim (trim s) = trim s := by
  simp [trim]

/-- A part without blanks at its ends that stands between blanks is the trimmed form. -/
theorem trimmed_append_of_blank {ws cs vs : List Char} (hws : ∀ c ∈ ws, isBlank c)
    (hvs : ∀ c ∈ vs, isBlank c) (h : IsTrimmed cs) : trimmed (ws ++ cs ++ vs) = cs := by
  rw [trimmed, List.append_assoc, trimStart_append_of_blank hws]
  cases cs with
  | nil =>
    rw [List.nil_append, trimStart_eq_nil_iff.2 (List.all_eq_true.2 hvs)]
    rfl
  | cons c rest =>
    have hstart : trimStart (c :: rest ++ vs) = c :: rest ++ vs :=
      trimStart_of_head fun d hd => h.head d hd
    rw [hstart, trimEnd_append_of_blank hvs, trimEnd_of_last h.last]

/-- Blanks around a text do not count. -/
theorem trim_surround {ws vs : List Char} (hws : ∀ c ∈ ws, isBlank c) (hvs : ∀ c ∈ vs, isBlank c)
    (s : String) : trim (String.ofList (ws ++ s.toList ++ vs)) = trim s := by
  -- The text is its trimmed form between blanks, and these join the ones around it.
  obtain ⟨front, behind, hfront, hbehind, hs⟩ := exists_trimmed s.toList
  have hjoined : ws ++ s.toList ++ vs =
      (ws ++ front) ++ trimmed s.toList ++ (behind ++ vs) := by
    calc ws ++ s.toList ++ vs = ws ++ (front ++ trimmed s.toList ++ behind) ++ vs := by rw [← hs]
      _ = (ws ++ front) ++ trimmed s.toList ++ (behind ++ vs) := by
        simp only [List.append_assoc]
  rw [trim, trim, String.toList_ofList, hjoined]
  refine congrArg String.ofList (trimmed_append_of_blank ?_ ?_ (isTrimmed_trimmed _))
  · exact List.forall_mem_append.2 ⟨hws, hfront⟩
  · exact List.forall_mem_append.2 ⟨hbehind, hvs⟩

/-- No character of the text is blank. -/
def Solid (cs : List Char) : Prop :=
  ∀ c ∈ cs, isBlank c = false

-- Without this, deciding it would run through all characters there are.
instance (cs : List Char) : Decidable (Solid cs) :=
  List.decidableBAll _ cs

/-- A text without blanks has none at its ends. -/
theorem Solid.isTrimmed {cs : List Char} (h : Solid cs) : IsTrimmed cs :=
  ⟨fun c hc => h c (List.mem_of_mem_head? hc), fun c hc => h c (List.mem_of_mem_getLast? hc)⟩

/-- A text without blanks is its own trimmed form. -/
theorem Solid.trim_eq {s : String} (h : Solid s.toList) : trim s = s := by
  rw [trim, h.isTrimmed.trimmed_eq, String.ofList_toList]

/-- Whatever stands between them, two texts have no blanks at their ends if none stands at the start
of the first and none at the end of the second. -/
theorem isTrimmed_append {front behind : List Char} (hfront : front ≠ []) (hbehind : behind ≠ [])
    (hhead : ∀ c ∈ front.head?, isBlank c = false)
    (hlast : ∀ c ∈ behind.getLast?, isBlank c = false) (middle : List Char) :
    IsTrimmed (front ++ middle ++ behind) where
  head := by
    rwa [List.append_assoc, List.head?_append_of_ne_nil _ hfront]
  last := by
    rwa [List.getLast?_append_of_ne_nil _ hbehind]

/-- Only a blank text has an empty trimmed form. -/
theorem trimmed_eq_nil_iff {cs : List Char} : trimmed cs = [] ↔ cs.all isBlank := by
  constructor
  · intro h
    obtain ⟨ws, vs, hws, hvs, hcs⟩ := exists_trimmed cs
    rw [h, List.append_nil] at hcs
    rw [hcs, List.all_append, List.all_eq_true.2 hws, List.all_eq_true.2 hvs]
    rfl
  · intro h
    rw [trimmed, trimStart_eq_nil_iff.2 h]
    rfl

/-- Only a blank text has an empty trimmed form. -/
theorem trim_eq_empty_iff {s : String} : trim s = "" ↔ isBlankText s := by
  rw [isBlankText, ← trimmed_eq_nil_iff, trim, String.ofList_eq_empty_iff]

/-- A text is blank after trimming exactly if it was before. -/
theorem isBlankText_trim_iff {s : String} : isBlankText (trim s) ↔ isBlankText s := by
  rw [← trim_eq_empty_iff, trim_trim, trim_eq_empty_iff]

/-- The text is not empty and has no blanks at its ends. -/
def IsProper (s : String) : Prop :=
  s ≠ "" ∧ trim s = s

instance (s : String) : Decidable (IsProper s) :=
  inferInstanceAs (Decidable (_ ∧ _))

/-- What trimming leaves of a text that is not blank is proper. -/
theorem isProper_trim {s : String} (h : trim s ≠ "") : IsProper (trim s) :=
  ⟨h, trim_trim s⟩

/-- A proper text is not blank. -/
theorem not_isBlankText_of_isProper {s : String} (h : IsProper s) : ¬ isBlankText s := by
  obtain ⟨hne, htrim⟩ := h
  rwa [← trim_eq_empty_iff, htrim]

end Manifest.Text
