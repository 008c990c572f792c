import Manifest.Normal.Email
import Manifest.Proofs.Trimming

/-!
# The usual form of e-mail addresses

An address in its usual form has no word "at" between blanks left (`not_hasAtWord_atSigns`) and no
blanks at its ends (`isTrimmed_atSigns`), so that bringing it into this form again changes nothing
(`email_email`).

The first fact is not obvious from the replacement going on behind each word that it replaces: an
occurrence in the outcome holds no at sign, and the outcome up to the next at sign is also what the
text itself starts with (`exists_of_atSigns_eq_append`). So the text would have the occurrence at
the same place, where it would have been replaced.
-/

namespace Manifest.Normal

open Text (IsTrimmed isBlank trim trimmed trimStart)

/-- The text starts with blanks, the word "at" in any letter case, and a blank behind it. -/
def StartsAtWord (cs : List Char) : Prop :=
  ∃ blanks a t b rest, cs = blanks ++ a :: t :: b :: rest ∧ blanks ≠ [] ∧
    (∀ c ∈ blanks, isBlank c) ∧ (a = 'a' ∨ a = 'A') ∧ (t = 't' ∨ t = 'T') ∧ isBlank b

/-- The word "at" between blanks occurs in the text. -/
def HasAtWord (cs : List Char) : Prop :=
  ∃ place, place <:+ cs ∧ StartsAtWord place

/-- Neither letter case of the word "at" starts with a blank. -/
theorem isBlank_of_letterA {a : Char} (h : a = 'a' ∨ a = 'A') : isBlank a = false := by
  rcases h with rfl | rfl <;> decide

/-- Where the word stands, what follows it is found behind all blanks. -/
theorem afterAtWord?_eq_some {blanks rest : List Char} {a t b : Char} (hne : blanks ≠ [])
    (hblanks : ∀ c ∈ blanks, isBlank c) (ha : a = 'a' ∨ a = 'A') (ht : t = 't' ∨ t = 'T')
    (hb : isBlank b) :
    afterAtWord? (blanks ++ a :: t :: b :: rest) = some (trimStart rest) := by
  obtain ⟨c, more, rfl⟩ := List.exists_cons_of_ne_nil hne
  have hstart : trimStart (c :: more ++ a :: t :: b :: rest) = a :: t :: b :: rest := by
    rw [Text.trimStart_append_of_blank hblanks]
    exact Text.trimStart_of_head (by simpa using isBlank_of_letterA ha)
  have hc : isBlank c := hblanks c List.mem_cons_self
  unfold afterAtWord?
  rw [hstart]
  exact if_pos ⟨hc, ha, ht, hb⟩

/-- What follows the word is found only where the word stands. -/
theorem exists_of_afterAtWord? {cs behind : List Char} (h : afterAtWord? cs = some behind) :
    StartsAtWord cs ∧ ∃ front, cs = front ++ behind := by
  unfold afterAtWord? at h
  split at h
  case h_2 => exact absurd h (by simp)
  case h_1 c tail a t b rest hstart =>
    split at h
    case isFalse => exact absurd h (by simp)
    case isTrue hword =>
      obtain ⟨hc, ha, ht, hb⟩ := hword
      obtain ⟨blanks, hblanks, hcs⟩ := Text.exists_trimStart (c :: tail)
      rw [hstart] at hcs
      have hne : blanks ≠ [] := by
        rintro rfl
        simp only [List.nil_append, List.cons.injEq] at hcs
        rw [hcs.1, isBlank_of_letterA ha] at hc
        exact absurd hc (by decide)
      obtain ⟨more, -, hrest⟩ := Text.exists_trimStart rest
      rw [Option.some.inj h] at hrest
      refine ⟨⟨blanks, a, t, b, rest, hcs, hne, hblanks, ha, ht, hb⟩,
        blanks ++ a :: t :: b :: more, ?_⟩
      rw [hcs, hrest]
      simp

/-- The word does not stand where nothing is found behind it. -/
theorem afterAtWord?_eq_none_iff {cs : List Char} : afterAtWord? cs = none ↔ ¬ StartsAtWord cs := by
  constructor
  · rintro h ⟨blanks, a, t, b, rest, rfl, hne, hblanks, ha, ht, hb⟩
    rw [afterAtWord?_eq_some hne hblanks ha ht hb] at h
    exact absurd h (by simp)
  · intro h
    cases hafter : afterAtWord? cs with
    | none => rfl
    | some behind => exact absurd (exists_of_afterAtWord? hafter).1 h

/-- Nothing is replaced in the empty text. -/
@[simp] theorem atSigns_nil : atSigns [] = [] := by
  rw [atSigns]
  rfl

/-- A word between blanks becomes an at sign. -/
theorem atSigns_of_some {cs behind : List Char} (h : afterAtWord? cs = some behind) :
    atSigns cs = '@' :: atSigns behind := by
  rw [atSigns]
  split
  case h_1 other hother => rw [Option.some.inj (h.symm.trans hother)]
  case h_2 hnone => exact absurd (h.symm.trans hnone) (by simp)

/-- Any other character stays. -/
theorem atSigns_of_none {c : Char} {tail : List Char} (h : afterAtWord? (c :: tail) = none) :
    atSigns (c :: tail) = c :: atSigns tail := by
  rw [atSigns]
  split
  case h_1 other hother => exact absurd (h.symm.trans hother) (by simp)
  case h_2 => rfl

/-- Without an at sign in between, the outcome starts as the text does. -/
theorem exists_of_atSigns_eq_append {cs front rest : List Char} (h : atSigns cs = front ++ rest)
    (hsign : '@' ∉ front) : ∃ behind, cs = front ++ behind := by
  induction front generalizing cs with
  | nil => exact ⟨cs, rfl⟩
  | cons x front ih =>
    simp only [List.mem_cons, not_or] at hsign
    cases hafter : afterAtWord? cs with
    | some behind =>
      rw [atSigns_of_some hafter, List.cons_append] at h
      exact absurd (List.cons.inj h).1 hsign.1
    | none =>
      cases cs with
      | nil => simp at h
      | cons c tail =>
        rw [atSigns_of_none hafter, List.cons_append] at h
        obtain ⟨rfl, htail⟩ := List.cons.inj h
        obtain ⟨behind, rfl⟩ := ih htail hsign.2
        exact ⟨behind, rfl⟩

/-- The outcome does not start with the word unless the text does. -/
theorem startsAtWord_of_atSigns {cs : List Char} (h : StartsAtWord (atSigns cs)) :
    StartsAtWord cs := by
  obtain ⟨blanks, a, t, b, rest, heq, hne, hblanks, ha, ht, hb⟩ := h
  have hsign : '@' ∉ blanks ++ [a, t, b] := by
    have hblank : isBlank '@' = false := by decide
    simp only [List.mem_append, List.mem_cons, List.not_mem_nil, or_false, not_or]
    refine ⟨fun hm => ?_, ?_, ?_, ?_⟩
    · rw [hblanks _ hm] at hblank
      exact absurd hblank (by decide)
    · rcases ha with rfl | rfl <;> decide
    · rcases ht with rfl | rfl <;> decide
    · rintro rfl
      rw [hb] at hblank
      exact absurd hblank (by decide)
  have hfront : atSigns cs = (blanks ++ [a, t, b]) ++ rest := by simpa using heq
  obtain ⟨behind, rfl⟩ := exists_of_atSigns_eq_append hfront hsign
  exact ⟨blanks, a, t, b, behind, by simp, hne, hblanks, ha, ht, hb⟩

/-- No word "at" between blanks is left. -/
theorem not_hasAtWord_atSigns (cs : List Char) : ¬ HasAtWord (atSigns cs) := by
  -- The induction follows the replacement: behind a word that is replaced, else behind a character.
  induction hlen : cs.length using Nat.strongRecOn generalizing cs with
  | ind n ih =>
    rintro ⟨place, hplace, hword⟩
    cases hafter : afterAtWord? cs with
    | some behind =>
      have hshorter := length_of_afterAtWord? hafter
      rw [atSigns_of_some hafter] at hplace
      rcases List.suffix_cons_iff.1 hplace with rfl | hlater
      · -- An at sign is no blank.
        obtain ⟨blanks, a, t, b, rest, heq, hne, hblanks, -⟩ := hword
        obtain ⟨c, more, rfl⟩ := List.exists_cons_of_ne_nil hne
        have hblank := hblanks c List.mem_cons_self
        rw [← (List.cons.inj heq).1] at hblank
        exact absurd hblank (by decide)
      · exact ih _ (by omega) behind rfl ⟨place, hlater, hword⟩
    | none =>
      cases cs with
      | nil =>
        rw [atSigns_nil, List.suffix_nil] at hplace
        obtain ⟨blanks, a, t, b, rest, heq, -⟩ := hword
        simp [hplace] at heq
      | cons c tail =>
        rw [atSigns_of_none hafter] at hplace
        rcases List.suffix_cons_iff.1 hplace with rfl | hlater
        · rw [← atSigns_of_none hafter] at hword
          exact afterAtWord?_eq_none_iff.1 hafter (startsAtWord_of_atSigns hword)
        · simp only [List.length_cons] at hlen
          exact ih _ (by omega) tail rfl ⟨place, hlater, hword⟩

/-- A text without the word "at" between blanks stays as it is. -/
theorem atSigns_of_not_hasAtWord {cs : List Char} (h : ¬ HasAtWord cs) : atSigns cs = cs := by
  induction cs with
  | nil => exact atSigns_nil
  | cons c tail ih =>
    have hafter : afterAtWord? (c :: tail) = none :=
      afterAtWord?_eq_none_iff.2 fun hword => h ⟨c :: tail, List.suffix_refl _, hword⟩
    rw [atSigns_of_none hafter]
    rw [ih fun ⟨place, hplace, hword⟩ => h ⟨place, hplace.trans (List.suffix_cons c tail), hword⟩]

/-- Nothing is replaced in front of the place where the first word between blanks stands. -/
theorem atSigns_append_of_first {front cs : List Char}
    (h : ∀ place, place ≠ [] → place <:+ front → ¬ StartsAtWord (place ++ cs)) :
    atSigns (front ++ cs) = front ++ atSigns cs := by
  induction front with
  | nil => rfl
  | cons c front ih =>
    have hhere : ¬ StartsAtWord (c :: (front ++ cs)) :=
      h (c :: front) (List.cons_ne_nil c front) List.suffix_rfl
    have hlater : ∀ place, place ≠ [] → place <:+ front → ¬ StartsAtWord (place ++ cs) :=
      fun place hne hplace => h place hne (hplace.trans (List.suffix_cons c front))
    rw [List.cons_append, atSigns_of_none (afterAtWord?_eq_none_iff.2 hhere), ih hlater,
      List.cons_append]

/-- Nothing is replaced in front of the first blank. -/
theorem atSigns_append {front : List Char} (h : Text.Solid front) (cs : List Char) :
    atSigns (front ++ cs) = front ++ atSigns cs := by
  refine atSigns_append_of_first fun place hne hplace hword => ?_
  obtain ⟨c, more, rfl⟩ := List.exists_cons_of_ne_nil hne
  obtain ⟨blanks, a, t, b, rest, heq, hblanksne, hblanks, -⟩ := hword
  obtain ⟨d, others, rfl⟩ := List.exists_cons_of_ne_nil hblanksne
  have hsolid : isBlank c = false := h c (hplace.subset List.mem_cons_self)
  have hblank : isBlank c := (List.cons.inj heq).1 ▸ hblanks d List.mem_cons_self
  exact absurd hblank (by simp [hsolid])

/-- Only the empty text becomes empty. -/
theorem atSigns_eq_nil_iff {cs : List Char} : atSigns cs = [] ↔ cs = [] := by
  cases hafter : afterAtWord? cs with
  | some behind =>
    have hshorter := length_of_afterAtWord? hafter
    rw [atSigns_of_some hafter]
    cases cs with
    | nil => exact absurd hshorter (by simp)
    | cons c tail => simp
  | none =>
    cases cs with
    | nil => simp
    | cons c tail => simp [atSigns_of_none hafter]

/-- A text ends with no blank if what is behind its first character does not, or nothing is there
and the first character is not blank. -/
theorem last_cons {c : Char} {cs : List Char} (hnil : cs = [] → isBlank c = false)
    (hlast : ∀ d ∈ cs.getLast?, isBlank d = false) :
    ∀ d ∈ (c :: cs).getLast?, isBlank d = false := by
  cases cs with
  | nil => simpa using hnil
  | cons e more => simpa using hlast

/-- The outcome ends with no blank if the text ends with none. -/
theorem last_atSigns {cs : List Char} (h : ∀ c ∈ cs.getLast?, isBlank c = false) :
    ∀ c ∈ (atSigns cs).getLast?, isBlank c = false := by
  induction hlen : cs.length using Nat.strongRecOn generalizing cs with
  | ind n ih =>
    cases hafter : afterAtWord? cs with
    | some behind =>
      have hshorter := length_of_afterAtWord? hafter
      obtain ⟨-, front, rfl⟩ := exists_of_afterAtWord? hafter
      have hbehind : ∀ c ∈ behind.getLast?, isBlank c = false := fun c hc =>
        h c (by rw [List.getLast?_append, Option.mem_def.1 hc]; rfl)
      rw [atSigns_of_some hafter]
      exact last_cons (fun _ => by decide) (ih _ (by omega) hbehind rfl)
    | none =>
      cases cs with
      | nil => simp
      | cons c tail =>
        have htail : ∀ d ∈ tail.getLast?, isBlank d = false := fun d hd =>
          h d (by rw [List.getLast?_cons, Option.mem_def.1 hd]; rfl)
        simp only [List.length_cons] at hlen
        rw [atSigns_of_none hafter]
        refine last_cons (fun hnil => ?_) (ih _ (by omega) htail rfl)
        rw [atSigns_eq_nil_iff.1 hnil] at h
        exact h c rfl

/-- The outcome has no blanks at its ends if the text has none there. -/
theorem isTrimmed_atSigns {cs : List Char} (h : IsTrimmed cs) : IsTrimmed (atSigns cs) := by
  refine ⟨?_, last_atSigns h.last⟩
  cases hafter : afterAtWord? cs with
  | some behind =>
    rw [atSigns_of_some hafter]
    simp only [List.head?_cons, Option.mem_def, Option.some.injEq, forall_eq']
    decide
  | none =>
    cases cs with
    | nil => simp
    | cons c tail =>
      rw [atSigns_of_none hafter]
      simpa using h.head

/-- The usual form of an address has no blanks at its ends. -/
theorem trim_email (s : String) : trim (email s) = email s := by
  have htrimmed := (isTrimmed_atSigns (Text.isTrimmed_trimmed s.toList)).trimmed_eq
  rw [email, trim, String.toList_ofList, htrimmed]

/-- The usual form of an address has no word "at" between blanks. -/
theorem not_hasAtWord_email (s : String) : ¬ HasAtWord (email s).toList := by
  rw [email, String.toList_ofList]
  exact not_hasAtWord_atSigns (trimmed s.toList)

/-- An address in its usual form stays as it is. -/
theorem email_of_usual {s : String} (htrim : trim s = s) (hat : ¬ HasAtWord s.toList) :
    email s = s := by
  have htrimmed : trimmed s.toList = s.toList := by
    rw [← Text.toList_trim, htrim]
  rw [email, htrimmed, atSigns_of_not_hasAtWord hat, String.ofList_toList]

/-- Bringing an address into its usual form twice is doing so once. -/
@[simp] theorem email_email (s : String) : email (email s) = email s :=
  email_of_usual (trim_email s) (not_hasAtWord_email s)

end Manifest.Normal
