import Manifest.Format.Properties.Entries
import Manifest.Proofs.Cutting
import Manifest.Proofs.Trimming

/-!
# Lines of property lists

A property list is read line by line, and what a line that ends in a backslash has left open is
carried to the next one (`joinLines`). Behind a line that leaves nothing open, reading starts afresh
(`joinLines_append`), so the entries of two texts in a row are those of the one and then those of
the other, and a property of the whole is that of the second text if it has one, else that of the
first (`read_append`).
-/

namespace Manifest

/-! ## Lines of a text -/

namespace Text

/-- A line feed ends the lines in front of it. -/
theorem lines_append (front behind : List Char) :
    lines (front ++ '\n' :: behind) = pieces '\n' front ++ lines behind := by
  have hne : pieces '\n' behind ≠ [] := pieces_ne_nil '\n' behind
  have hlast : (pieces '\n' front ++ pieces '\n' behind).getLast? = (pieces '\n' behind).getLast? :=
    List.getLast?_append_of_ne_nil _ hne
  unfold lines
  dsimp only
  rw [pieces_append_mark, hlast, List.dropLast_append_of_ne_nil hne]
  split <;> rfl

/-- Blanks behind a text do not count when it is trimmed. -/
theorem trimmed_append_blanks (cs : List Char) {vs : List Char} (h : ∀ c ∈ vs, isBlank c) :
    trimmed (cs ++ vs) = trimmed cs := by
  obtain ⟨ws, us, hws, hus, hcs⟩ := exists_trimmed cs
  have hblanks : ∀ c ∈ us ++ vs, isBlank c := fun c hc =>
    (List.mem_append.1 hc).elim (hus c) (h c)
  calc trimmed (cs ++ vs) = trimmed (ws ++ trimmed cs ++ us ++ vs) := by rw [← hcs]
    _ = trimmed (ws ++ trimmed cs ++ (us ++ vs)) := by rw [List.append_assoc]
    _ = trimmed cs := trimmed_append_of_blank hws hblanks (isTrimmed_trimmed cs)

/-- The first character that is not blank is the first one of the trimmed text. -/
theorem head?_trimmed {ws : List Char} (hws : ∀ c ∈ ws, isBlank c) {c : Char}
    (hc : isBlank c = false) (cs : List Char) : (trimmed (ws ++ c :: cs)).head? = some c := by
  have hstart : trimStart (ws ++ c :: cs) = c :: cs := by
    rw [trimStart_append_of_blank hws]
    exact trimStart_of_head fun d hd => Option.some.inj hd ▸ hc
  rw [trimmed, hstart]
  obtain ⟨vs, hvs, hcs⟩ := exists_trimEnd (c :: cs)
  cases htrim : trimEnd (c :: cs) with
  | nil =>
    -- Then all that is there is blank, and so is the character.
    rw [htrim, List.nil_append] at hcs
    have hblank : isBlank c = true := hvs c (hcs ▸ List.mem_cons_self)
    rw [hc] at hblank
    exact absurd hblank (by decide)
  | cons d ds =>
    rw [htrim, List.cons_append] at hcs
    rw [(List.cons.inj hcs).1]
    rfl

end Text

/-! ## Properties as a map -/

namespace Json.Pairs

variable {α : Type}

/-- Putting pairs in place one after the other keeps the names rising. -/
theorem rising_foldl_insert (pairs : Pairs α) {start : Pairs α} (h : start.Rising) :
    (pairs.foldl (fun found (name, value) => found.insert name value) start).Rising := by
  induction pairs generalizing start with
  | nil => exact h
  | cons pair rest ih => exact ih h.insert

/-- In pairs in a row, the first pair of a name is found. -/
theorem find?_append (pairs rest : Pairs α) (name : String) :
    find? name (pairs ++ rest) = (find? name pairs).or (find? name rest) := by
  induction pairs with
  | nil => rfl
  | cons pair pairs ih =>
    rw [List.cons_append, find?, find?]
    split
    · rfl
    · exact ih

/-- Pairs that are put in place one after the other replace what was there: the last pair of a name
is found, and for names without one what was there. -/
theorem find?_foldl_insert (pairs start : Pairs α) (name : String) :
    (pairs.foldl (fun found (name, value) => found.insert name value) start).find? name =
      (find? name pairs.reverse).or (start.find? name) := by
  -- The last pair is put in place last, so the induction takes pairs off the end.
  induction pairs using List.reverseRecOn with
  | nil => rfl
  | append_singleton rest pair ih =>
    obtain ⟨k, v⟩ := pair
    rw [List.foldl_concat, List.reverse_concat, find?]
    by_cases hk : k = name
    · subst hk
      rw [find?_insert_self, if_pos rfl]
      rfl
    · rw [find?_insert_of_ne _ _ hk, if_neg hk, ih]

end Json.Pairs

namespace Format.Properties

open Json (Pairs)
open Text (trimmed)

/-- The names of properties rise. -/
theorem rising_read (contents : String) : (read contents).Rising :=
  Pairs.rising_foldl_insert _ List.Pairwise.nil

/-- A property is what the last entry of its key says. -/
theorem find?_read (contents key : String) :
    (read contents).find? key = Pairs.find? key (entries contents).reverse := by
  unfold read
  rw [Pairs.find?_foldl_insert]
  exact Option.or_none

/-! ## Joining lines -/

/-- A text is continued exactly if it ends in a backslash. -/
theorem continued?_eq_none_iff {line : List Char} :
    continued? line = none ↔ line.getLast? ≠ some '\\' := by
  unfold continued?
  split <;> simp_all

/-- The text before a backslash is what is continued. -/
theorem continued?_append_backslash (front : List Char) :
    continued? (front ++ ['\\']) = some front := by
  simp [continued?]

/-- A line is passed over: nothing is open, and the line is blank or a comment. -/
structure Skips (pending line : List Char) : Prop where
  /-- No line before is continued. -/
  fresh : pending = []
  /-- The line has no text of its own. -/
  textless : trimmed line = [] ∨ (trimmed line).head? = some '#'

section

variable {pending line front : List Char} {rest : List (List Char)}

/-- Whether a line is passed over is what reading tests. -/
theorem skips_iff : Skips pending line ↔
    (pending.isEmpty && ((trimmed line).isEmpty || (trimmed line).head? == some '#')) = true := by
  rw [Bool.and_eq_true, Bool.or_eq_true, List.isEmpty_iff, List.isEmpty_iff, beq_iff_eq]
  exact ⟨fun h => ⟨h.fresh, h.textless⟩, fun h => ⟨h.1, h.2⟩⟩

/-- A line that is passed over leaves nothing. -/
theorem joinLines_of_skips (h : Skips pending line) :
    joinLines pending (line :: rest) = joinLines [] rest := by
  have hpending : pending = [] := h.fresh
  rw [joinLines, if_pos (skips_iff.1 h), hpending]

/-- A line that leaves nothing open ends what was open. -/
theorem joinLines_of_complete (h : ¬ Skips pending line)
    (hline : continued? (trimmed line) = none) :
    joinLines pending (line :: rest) = (pending ++ trimmed line) :: joinLines [] rest := by
  rw [joinLines, if_neg (mt skips_iff.2 h), hline]

/-- A continued line is joined to what is open, and the next line to both. -/
theorem joinLines_of_continued (h : ¬ Skips pending line)
    (hline : continued? (trimmed line) = some front) (hrest : rest ≠ []) :
    joinLines pending (line :: rest) = joinLines (pending ++ front) rest := by
  have hmore : ¬ rest.isEmpty = true := mt List.isEmpty_iff.1 hrest
  rw [joinLines, if_neg (mt skips_iff.2 h), hline]
  exact if_neg hmore

/-- A continued line without a next one ends what was open. -/
theorem joinLines_of_last (h : ¬ Skips pending line)
    (hline : continued? (trimmed line) = some front) :
    joinLines pending [line] = [pending ++ front] := by
  rw [joinLines, if_neg (mt skips_iff.2 h), hline]
  rfl

end

/-- Nothing is left open behind the lines: the last one does not end in a backslash. -/
def Complete (lines : List (List Char)) : Prop :=
  ∀ line ∈ lines.getLast?, (trimmed line).getLast? ≠ some '\\'

/-- What comes behind the first of several lines leaves nothing open either. -/
theorem Complete.tail {line : List Char} {more : List (List Char)} (h : Complete (line :: more)) :
    Complete more := by
  intro last hlast
  refine h last ?_
  rw [List.getLast?_cons, Option.mem_def.1 hlast]
  rfl

/-- Behind a line that leaves nothing open, lines are joined afresh. -/
theorem joinLines_append {first : List (List Char)} (hfirst : Complete first)
    (rest : List (List Char)) {pending : List Char} (hpending : first = [] → pending = []) :
    joinLines pending (first ++ rest) = joinLines pending first ++ joinLines [] rest := by
  induction first generalizing pending with
  | nil =>
    rw [hpending rfl]
    rfl
  | cons line more ih =>
    have hmore : Complete more := hfirst.tail
    rw [List.cons_append]
    by_cases hskip : Skips pending line
    · rw [joinLines_of_skips hskip, joinLines_of_skips hskip]
      exact ih hmore fun _ => rfl
    cases hline : continued? (trimmed line) with
    | none =>
      rw [joinLines_of_complete hskip hline, joinLines_of_complete hskip hline,
        ih hmore fun _ => rfl, List.cons_append]
    | some front =>
      -- A continued line is not the last of the first lines, so looking for a next one finds one of
      -- them, whatever comes behind them.
      have hne : more ≠ [] := by
        rintro rfl
        have hnone : continued? (trimmed line) = none := continued?_eq_none_iff.2 (hfirst line rfl)
        rw [hline] at hnone
        exact absurd hnone (by simp)
      rw [joinLines_of_continued hskip hline hne,
        joinLines_of_continued hskip hline (List.append_ne_nil_of_left_ne_nil hne rest)]
      exact ih hmore fun h => absurd h hne

/-! ## Texts in a row -/

/-- A character that is not blank does not change how the text behind it ends. -/
theorem getLast?_trimmed_cons {c d : Char} (hc : Text.isBlank c = false) {cs : List Char}
    (hlast : (trimmed cs).getLast? = some d) : (trimmed (c :: cs)).getLast? = some d := by
  obtain ⟨ws, vs, hws, hvs, hcs⟩ := Text.exists_trimmed cs
  have hends : Text.IsTrimmed (c :: (ws ++ trimmed cs)) := by
    constructor
    · intro e he
      rw [← Option.some.inj he]
      exact hc
    · intro e he
      rw [List.getLast?_cons, List.getLast?_append, hlast] at he
      rw [← Option.some.inj he]
      exact (Text.isTrimmed_trimmed cs).last d hlast
  have htrimmed : trimmed (c :: cs) = c :: (ws ++ trimmed cs) := by
    have hwhole : c :: cs = [] ++ (c :: (ws ++ trimmed cs)) ++ vs := by
      rw [List.nil_append, List.cons_append, ← hcs]
    rw [hwhole, Text.trimmed_append_of_blank (fun _ h => absurd h List.not_mem_nil) hvs hends]
  rw [htrimmed, List.getLast?_cons, List.getLast?_append, hlast]
  rfl

/-- A byte-order mark in front of lines is dropped whatever stands behind these, and the lines still
leave nothing open. -/
theorem exists_dropByteOrderMark {front : List Char} (h : Complete (Text.pieces '\n' front)) :
    ∃ inner, Complete (Text.pieces '\n' inner) ∧
      ∀ behind, Text.dropByteOrderMark (front ++ '\n' :: behind) = inner ++ '\n' :: behind := by
  by_cases hmark : ∃ inner, front = '\uFEFF' :: inner
  · obtain ⟨inner, rfl⟩ := hmark
    refine ⟨inner, ?_, fun behind => rfl⟩
    obtain ⟨line, more, hpieces⟩ := List.exists_cons_of_ne_nil (Text.pieces_ne_nil '\n' inner)
    have hwith : Text.pieces '\n' ('\uFEFF' :: inner) = ('\uFEFF' :: line) :: more := by
      rw [Text.pieces, if_neg (by decide), hpieces]
    rw [hwith] at h
    rw [hpieces]
    cases more with
    | nil =>
      rintro last ⟨⟩ hlast
      exact h _ rfl (getLast?_trimmed_cons (by decide) hlast)
    | cons next rest => exact fun last hlast => h last hlast
  · refine ⟨front, h, fun behind => ?_⟩
    unfold Text.dropByteOrderMark
    split
    · next rest heq =>
      cases front with
      | nil => exact absurd heq (by simp)
      | cons c front => exact absurd ⟨front, by rw [(List.cons.inj heq).1]⟩ hmark
    · rfl

/-- The entries of two texts in a row are those of the one and those of the other, if the first text
ends its last line and leaves nothing open. -/
theorem entries_append {a b : String} (hend : a = "" ∨ a.toList.getLast? = some '\n')
    (hcomplete : Complete (Text.lines a.toList)) (hmark : b.toList.head? ≠ some '\uFEFF') :
    entries (a ++ b) = entries a ++ entries b := by
  rcases hend with rfl | hend
  · rw [String.empty_append]
    rfl
  obtain ⟨front, ha⟩ : ∃ front, a.toList = front ++ ['\n'] := List.getLast?_eq_some_iff.1 hend
  have hlines : ∀ inner, Text.lines (inner ++ ['\n']) = Text.pieces '\n' inner := fun inner => by
    rw [Text.lines_append]
    exact List.append_nil _
  rw [ha, hlines] at hcomplete
  obtain ⟨inner, hinner, hdrop⟩ := exists_dropByteOrderMark hcomplete
  have hb : Text.dropByteOrderMark b.toList = b.toList := by
    unfold Text.dropByteOrderMark
    split
    · next rest heq => exact absurd (by rw [heq]; rfl) hmark
    · rfl
  unfold entries
  rw [String.toList_append, ha, List.append_assoc, List.singleton_append, hdrop, hdrop, hb, hlines,
    Text.lines_append, joinLines_append hinner _ fun _ => rfl, List.filterMap_append]

/-- Properties of two texts in a row, of which the first ends its last line and leaves nothing open
and the second starts with no byte-order mark, are those of the second text and, for keys that it
has no property of, those of the first. -/
theorem read_append {a b : String} (hend : a = "" ∨ a.toList.getLast? = some '\n')
    (hcomplete : Complete (Text.lines a.toList)) (hmark : b.toList.head? ≠ some '\uFEFF') :
    (read (a ++ b)).Rising ∧
      ∀ key, (read (a ++ b)).find? key = ((read b).find? key).or ((read a).find? key) := by
  refine ⟨rising_read _, fun key => ?_⟩
  rw [find?_read, find?_read, find?_read, entries_append hend hcomplete hmark, List.reverse_append,
    Pairs.find?_append]

/-- A property list with a mark in front, a continued line and a line that is no entry. -/
def openedList : String :=
  "\uFEFFname=A\\\nB\r\nname\nurl=x \n"

/-- A property list that starts with a comment and ends in a continued line. -/
def closingList : String :=
  "# url=z\\\nname=C\\"

/-- The later list has the name, and the earlier one the address. -/
theorem read_append_closingList :
    (read (openedList ++ closingList)).find? "name" = some "C" ∧
      (read (openedList ++ closingList)).find? "url" = some "x" := by
  have hcomplete : Complete (Text.lines openedList.toList) := by
    rintro line ⟨⟩
    decide
  obtain ⟨-, hfind⟩ :=
    read_append (a := openedList) (b := closingList) (.inr (by decide)) hcomplete (by decide)
  rw [hfind, hfind]
  constructor <;> decide +kernel

end Format.Properties

end Manifest
