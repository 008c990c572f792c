import Manifest.Proofs.Email

/-!
# Addresses with words for at signs

What the usual form of an address is, said without the pass that makes it (`email_iff_replaces`).
The first word "at" between blanks becomes an at sign together with all blanks around it, what
stands before it stays, and what stands behind it is treated in the same way. So nothing else is
lost or moved.

Blanks between two words belong to the first of them. In `a at at b` the second word has no blank
left in front of it, and stays.
-/

namespace Manifest.Normal

open Text (isBlank trim trimStart)

/-- The text is the word "at" in any letter case, with blanks on both sides of it. -/
def IsAtWord (cs : List Char) : Prop :=
  ∃ before a t behind, cs = before ++ a :: t :: behind ∧ before ≠ [] ∧ behind ≠ [] ∧
    (∀ c ∈ before, isBlank c) ∧ (∀ c ∈ behind, isBlank c) ∧
    (a = 'a' ∨ a = 'A') ∧ (t = 't' ∨ t = 'T')

/-- The second text is the first one with words between blanks replaced by at signs, from left to
right. -/
inductive Replaces : List Char → List Char → Prop where
  /-- A text without such a word stays as it is. -/
  | stays {cs : List Char} (h : ¬ HasAtWord cs) : Replaces cs cs
  /-- The first word becomes an at sign, with all blanks around it. What stands before it stays, and
  what stands behind it is replaced in. -/
  | word {front word behind outcome : List Char} (hword : IsAtWord word)
    (hfirst : ∀ place, place ≠ [] → place <:+ front → ¬ StartsAtWord (place ++ (word ++ behind)))
    (hblanks : ∀ c ∈ behind.head?, isBlank c = false) (hbehind : Replaces behind outcome) :
    Replaces (front ++ (word ++ behind)) (front ++ '@' :: outcome)

/-- Where something is found behind the word, the text starts with the word and all its blanks. -/
theorem exists_word_of_afterAtWord? {cs behind : List Char} (h : afterAtWord? cs = some behind) :
    ∃ word, IsAtWord word ∧ cs = word ++ behind ∧ ∀ c ∈ behind.head?, isBlank c = false := by
  obtain ⟨blanks, a, t, b, rest, rfl, hne, hblanks, ha, ht, hb⟩ := (exists_of_afterAtWord? h).1
  rw [afterAtWord?_eq_some hne hblanks ha ht hb] at h
  obtain rfl := Option.some.inj h
  -- One blank behind the letters makes it a word, and all that follow belong to it too.
  obtain ⟨more, hmore, hrest⟩ := Text.exists_trimStart rest
  have hword : IsAtWord (blanks ++ a :: t :: (b :: more)) :=
    ⟨blanks, a, t, b :: more, rfl, hne, List.cons_ne_nil b more, hblanks,
      List.forall_mem_cons.2 ⟨hb, hmore⟩, ha, ht⟩
  refine ⟨_, hword, ?_, fun c hc => ?_⟩
  · rw [List.append_assoc, List.cons_append, List.cons_append, List.cons_append, ← hrest]
  · have hhead := List.head?_dropWhile_not isBlank rest
    rw [show rest.dropWhile isBlank = trimStart rest from rfl, Option.mem_def.1 hc] at hhead
    exact hhead

/-- Behind the word and all its blanks, the text that follows is found. -/
theorem afterAtWord?_append {word behind : List Char} (hword : IsAtWord word)
    (hblanks : ∀ c ∈ behind.head?, isBlank c = false) :
    afterAtWord? (word ++ behind) = some behind := by
  obtain ⟨before, a, t, after, rfl, hne, hafterne, hbefore, hafter, ha, ht⟩ := hword
  obtain ⟨b, more, rfl⟩ := List.exists_cons_of_ne_nil hafterne
  obtain ⟨hb, hmore⟩ := List.forall_mem_cons.1 hafter
  have hstart : trimStart (more ++ behind) = behind := by
    rw [Text.trimStart_append_of_blank hmore, Text.trimStart_of_head hblanks]
  have hfound : afterAtWord? (before ++ a :: t :: b :: (more ++ behind)) =
      some (trimStart (more ++ behind)) := afterAtWord?_eq_some hne hbefore ha ht hb
  rw [hstart] at hfound
  simpa using hfound

/-- A character at which no word starts stays in front of what is replaced behind it. -/
theorem Replaces.cons {c : Char} {tail outcome : List Char} (hhere : ¬ StartsAtWord (c :: tail))
    (h : Replaces tail outcome) : Replaces (c :: tail) (c :: outcome) := by
  cases h with
  | stays hnone =>
    refine .stays fun ⟨place, hplace, hword⟩ => ?_
    -- A word in the longer text starts at its first character or stands behind it.
    rcases List.suffix_cons_iff.1 hplace with rfl | hlater
    · exact hhere hword
    · exact hnone ⟨place, hlater, hword⟩
  | @word front word behind rest hword hfirst hblanks hbehind =>
    have hfirst' : ∀ place, place ≠ [] → place <:+ c :: front →
        ¬ StartsAtWord (place ++ (word ++ behind)) := by
      intro place hne hplace
      rcases List.suffix_cons_iff.1 hplace with rfl | hlater
      · exact hhere
      · exact hfirst place hne hlater
    exact .word hword hfirst' hblanks hbehind

/-- The pass from left to right replaces the words. -/
theorem replaces_atSigns (cs : List Char) : Replaces cs (atSigns cs) := by
  -- The induction follows the pass: behind a word that is replaced, else behind a character.
  induction hlen : cs.length using Nat.strongRecOn generalizing cs with
  | ind n ih =>
    cases hafter : afterAtWord? cs with
    | some behind =>
      have hshorter := length_of_afterAtWord? hafter
      have hbehind : Replaces behind (atSigns behind) := ih _ (by omega) behind rfl
      obtain ⟨word, hword, rfl, hblanks⟩ := exists_word_of_afterAtWord? hafter
      have hfirst : ∀ place, place ≠ [] → place <:+ ([] : List Char) →
          ¬ StartsAtWord (place ++ (word ++ behind)) :=
        fun place hne hplace => absurd (List.suffix_nil.1 hplace) hne
      rw [atSigns_of_some hafter]
      exact .word hword hfirst hblanks hbehind
    | none =>
      have hhere : ¬ StartsAtWord cs := afterAtWord?_eq_none_iff.1 hafter
      cases cs with
      | nil =>
        rw [atSigns_nil]
        exact .stays fun ⟨place, hplace, hword⟩ => hhere (List.suffix_nil.1 hplace ▸ hword)
      | cons c tail =>
        -- No word starts here, so the first one of the tail is the first one of the text.
        rw [atSigns_of_none hafter]
        exact (ih _ (by simp [← hlen]) tail rfl).cons hhere

/-- Words can be replaced in one way only. -/
theorem Replaces.eq_atSigns {cs outcome : List Char} (h : Replaces cs outcome) :
    outcome = atSigns cs := by
  induction h with
  | stays hnone => exact (atSigns_of_not_hasAtWord hnone).symm
  | word hword hfirst hblanks _ ih =>
    rw [atSigns_append_of_first hfirst, atSigns_of_some (afterAtWord?_append hword hblanks), ih]

/-- The usual form of an address is the address without blanks at its ends in which words "at"
between blanks are replaced by at signs, and nothing else is changed. No such word is left and no
blank stands at its ends, so that bringing it into this form again changes nothing. It is the address
without blanks at its ends exactly if that has no such word. -/
theorem email_iff_replaces (s : String) :
    (∀ outcome, Replaces (trim s).toList outcome ↔ outcome = (email s).toList) ∧
    trim (email s) = email s ∧ ¬ HasAtWord (email s).toList ∧ email (email s) = email s ∧
    (email s = trim s ↔ ¬ HasAtWord (trim s).toList) := by
  refine ⟨fun outcome => ?replaces, trim_email s, not_hasAtWord_email s, email_email s, ?same⟩
  case replaces =>
    have hlist : (email s).toList = atSigns (trim s).toList := by
      rw [email, String.toList_ofList, Text.toList_trim]
    rw [hlist]
    constructor
    · exact Replaces.eq_atSigns
    · rintro rfl
      exact replaces_atSigns _
  case same =>
    constructor
    · intro h
      rw [← h]
      exact not_hasAtWord_email s
    · intro h
      rw [Text.toList_trim] at h
      rw [email, atSigns_of_not_hasAtWord h, trim]

/-- The second word has no blank left in front of it. -/
example : email " a at\tAT b " = "a@AT b" := by cbv

end Manifest.Normal
