import Manifest.Proofs.PropertyLines

/-!
# Laying out property lists

The ways in which entries are written as a property list (`Layout`): blanks around keys and values,
values that are broken over several lines, blank lines and comments, either kind of line end, and a
byte-order mark. Reading such a text gives the entries back, and so the last value of every key
(`read_layout`).

What is written of an entry is joined to one line again (`joinLines_broken`). The induction over the
lines carries what is open so far: that and the rest of the text are the whole text, which starts
with neither a blank nor a comment mark, so that no line of it is passed over.
-/

namespace Manifest.Format.Properties

open Json (Pairs)
open Text (isBlank trimmed IsTrimmed)

/-! ## Layouts -/

/-- Blanks within a line. -/
def IsMargin (ws : List Char) : Prop :=
  ∀ c ∈ ws, isBlank c ∧ c ≠ '\n'

instance (ws : List Char) : Decidable (IsMargin ws) :=
  List.decidableBAll _ ws

/-- No blank stands in front. -/
def StartsInk (text : List Char) : Prop :=
  ∀ c ∈ text.head?, isBlank c = false

instance (text : List Char) : Decidable (StartsInk text) :=
  Option.decidableForallMem text.head?

/-- What can be a key. -/
structure IsKey (key : List Char) : Prop where
  /-- It is not empty. -/
  nonempty : key ≠ []
  /-- No blank stands at either end. -/
  ends : IsTrimmed key
  /-- An equals sign would end it. -/
  noEquals : '=' ∉ key
  /-- It stands on a line. -/
  noLineFeed : '\n' ∉ key
  /-- It does not look like a comment, and not like a byte-order mark. -/
  start : key.head? ≠ some '#' ∧ key.head? ≠ some '\uFEFF'

/-- What can be a value. -/
structure IsValue (value : List Char) : Prop where
  /-- It is not empty. -/
  nonempty : value ≠ []
  /-- No blank stands at either end. -/
  ends : IsTrimmed value
  /-- It stands on a line, unless it is broken. -/
  noLineFeed : '\n' ∉ value
  /-- It does not look continued. -/
  complete : value.getLast? ≠ some '\\'

/-- A text on one line, or broken over several lines. -/
inductive Broken : List Char → List (List Char) → Prop where
  /-- The text stands on one line. -/
  | line {left right text : List Char} (hleft : IsMargin left) (hright : IsMargin right)
    (hstart : StartsInk text) : Broken text [left ++ text ++ right]
  /-- A backslash ends a line before the text ends. -/
  | more {left right piece rest : List Char} {lines : List (List Char)} (hleft : IsMargin left)
    (hright : IsMargin right) (hstart : StartsInk piece) (hrest : Broken rest lines) :
    Broken (piece ++ rest) ((left ++ piece ++ '\\' :: right) :: lines)

/-- A line between entries. -/
inductive Between : List Char → Prop where
  /-- It is blank. -/
  | blank {ws : List Char} (h : IsMargin ws) : Between ws
  /-- It is a comment. -/
  | comment {left text : List Char} (hleft : IsMargin left) (htext : '\n' ∉ text) :
    Between (left ++ '#' :: text)

/-- The lines that entries are written on. -/
inductive Written : List (String × String) → List (List Char) → Prop where
  /-- Nothing is written. -/
  | nil : Written [] []
  /-- A line stands between entries. -/
  | between {entries : List (String × String)} {line : List Char} {lines : List (List Char)}
    (hline : Between line) (hlines : Written entries lines) : Written entries (line :: lines)
  /-- An entry is written. -/
  | entry {entries : List (String × String)} {key value left right : List Char}
    {own lines : List (List Char)} (hkey : IsKey key) (hvalue : IsValue value)
    (hleft : IsMargin left) (hright : IsMargin right)
    (hown : Broken (key ++ left ++ '=' :: (right ++ value)) own) (hlines : Written entries lines) :
    Written ((String.ofList key, String.ofList value) :: entries) (own ++ lines)

/-- The texts that lines make up. -/
inductive Terminated : List (List Char) → List Char → Prop where
  /-- There are no lines. -/
  | nil : Terminated [] []
  /-- The last line may have no end. -/
  | last (line : List Char) : Terminated [line] line
  /-- A line feed ends a line. -/
  | lineFeed {line text : List Char} {lines : List (List Char)} (h : Terminated lines text) :
    Terminated (line :: lines) (line ++ '\n' :: text)
  /-- A carriage return may stand in front of it. -/
  | carriageReturn {line text : List Char} {lines : List (List Char)} (h : Terminated lines text) :
    Terminated (line :: lines) (line ++ '\r' :: '\n' :: text)

/-- A text that entries are written as. -/
inductive Layout (entries : List (String × String)) : List Char → Prop where
  /-- It consists of lines. -/
  | plain {lines : List (List Char)} {text : List Char} (hlines : Written entries lines)
    (htext : Terminated lines text) : Layout entries text
  /-- A byte-order mark stands in front of the lines. -/
  | marked {lines : List (List Char)} {text : List Char} (hlines : Written entries lines)
    (htext : Terminated lines text) : Layout entries ('\uFEFF' :: text)

/-! ## Joining what is broken -/

/-- Blanks of a line are blanks. -/
theorem IsMargin.isBlank {ws : List Char} (h : IsMargin ws) : ∀ c ∈ ws, isBlank c :=
  fun c hc => (h c hc).1

/-- Blanks of a line do not end it. -/
theorem IsMargin.noLineFeed {ws : List Char} (h : IsMargin ws) : '\n' ∉ ws :=
  fun hc => (h '\n' hc).2 rfl

/-- Between blanks of a line, a text that has none at its ends is the trimmed line. -/
theorem trimmed_of_margins {left right text : List Char} (hleft : IsMargin left)
    (hright : IsMargin right) (hends : IsTrimmed text) : trimmed (left ++ text ++ right) = text :=
  Text.trimmed_append_of_blank hleft.isBlank hright.isBlank hends

/-- A piece that is broken off leaves the backslash behind when its line is trimmed. -/
theorem trimmed_of_piece {left right piece : List Char} (hleft : IsMargin left)
    (hright : IsMargin right) (hstart : StartsInk piece) :
    trimmed (left ++ piece ++ '\\' :: right) = piece ++ ['\\'] := by
  have hends : IsTrimmed (piece ++ ['\\']) := by
    constructor
    · intro c hc
      cases piece with
      | nil =>
        rw [← Option.some.inj hc]
        decide
      | cons d piece => exact hstart c hc
    · intro c hc
      rw [List.getLast?_concat] at hc
      rw [← Option.some.inj hc]
      decide
  have hwhole : left ++ piece ++ '\\' :: right = left ++ (piece ++ ['\\']) ++ right := by simp
  rw [hwhole, trimmed_of_margins hleft hright hends]

/-- A text can be broken: it ends neither in a blank nor in a backslash. -/
def EndsInk (text : List Char) : Prop :=
  ∀ c ∈ text.getLast?, isBlank c = false ∧ c ≠ '\\'

/-- What is behind a break ends like the whole text. -/
theorem EndsInk.rest {piece rest : List Char} (h : EndsInk (piece ++ rest)) : EndsInk rest := by
  intro c hc
  refine h c ?_
  rw [List.getLast?_append, Option.mem_def.1 hc]
  rfl

/-- A text with its ends in ink is trimmed. -/
theorem EndsInk.isTrimmed {text : List Char} (h : EndsInk text) (hstart : StartsInk text) :
    IsTrimmed text :=
  ⟨hstart, fun c hc => (h c hc).1⟩

section

variable {text : List Char} {own : List (List Char)}

/-- A text is broken over one line at least. -/
theorem Broken.ne_nil (h : Broken text own) : own ≠ [] := by
  cases h <;> exact List.cons_ne_nil _ _

/-- The last line of a broken text leaves nothing open. -/
theorem Broken.complete (h : Broken text own) (hends : EndsInk text) : Complete own := by
  induction h with
  | @line left right text hleft hright hstart =>
    intro last hline hlast
    obtain rfl : left ++ text ++ right = last := Option.some.inj hline
    rw [trimmed_of_margins hleft hright (hends.isTrimmed hstart)] at hlast
    exact (hends _ hlast).2 rfl
  | more _ _ _ hrest ih =>
    intro last hlast
    rw [List.getLast?_cons_of_ne_nil hrest.ne_nil] at hlast
    exact ih hends.rest last hlast

/-- A broken text is joined again behind what is open, if the whole starts with no comment mark. -/
theorem joinLines_broken (h : Broken text own) (hends : EndsInk text) {pending : List Char}
    (hstart : ∃ c, (pending ++ text).head? = some c ∧ c ≠ '#') :
    joinLines pending own = [pending ++ text] := by
  induction h generalizing pending with
  | @line left right text hleft hright hink =>
    have htrimmed : trimmed (left ++ text ++ right) = text :=
      trimmed_of_margins hleft hright (hends.isTrimmed hink)
    have hskip : ¬ Skips pending (left ++ text ++ right) := by
      rintro ⟨rfl, htextless⟩
      obtain ⟨c, hc, hne⟩ := hstart
      rw [List.nil_append] at hc
      rw [htrimmed, ← List.head?_eq_none_iff, hc] at htextless
      simp [hne] at htextless
    have hline : continued? (trimmed (left ++ text ++ right)) = none := by
      rw [htrimmed, continued?_eq_none_iff]
      exact fun hlast => (hends _ hlast).2 rfl
    rw [joinLines_of_complete hskip hline, htrimmed]
    rfl
  | @more left right piece rest lines hleft hright hink hrest ih =>
    have htrimmed : trimmed (left ++ piece ++ '\\' :: right) = piece ++ ['\\'] :=
      trimmed_of_piece hleft hright hink
    have hskip : ¬ Skips pending (left ++ piece ++ '\\' :: right) := by
      rintro ⟨rfl, htextless⟩
      obtain ⟨c, hc, hne⟩ := hstart
      rw [htrimmed] at htextless
      cases piece with
      | nil => simp at htextless
      | cons d piece =>
        obtain rfl : d = c := Option.some.inj hc
        simp [hne] at htextless
    have hline : continued? (trimmed (left ++ piece ++ '\\' :: right)) = some piece := by
      rw [htrimmed, continued?_append_backslash]
    -- What is open and what is left are the whole text still.
    rw [joinLines_of_continued hskip hline hrest.ne_nil, ← List.append_assoc]
    rw [← List.append_assoc] at hstart
    exact ih hends.rest hstart

end

/-! ## Reading entries -/

section

variable {key value left right : List Char}

/-- An entry on one line is read. -/
theorem entry?_of_line (hkey : IsKey key) (hvalue : IsValue value) (hleft : IsMargin left)
    (hright : IsMargin right) : entry? (key ++ left ++ '=' :: (right ++ value)) =
      some (String.ofList key, String.ofList value) := by
  have hfront : '=' ∉ key ++ left := by
    intro h
    rcases List.mem_append.1 h with h | h
    · exact hkey.noEquals h
    · exact absurd (hleft.isBlank _ h) (by decide)
  have hkeyTrimmed : trimmed (key ++ left) = key := by
    rw [Text.trimmed_append_blanks key hleft.isBlank, hkey.ends.trimmed_eq]
  have hvalueTrimmed : trimmed (right ++ value) = value := by
    have h := trimmed_of_margins hright (by decide : IsMargin []) hvalue.ends
    rwa [List.append_nil] at h
  unfold entry?
  rw [Text.cut_append hfront]
  dsimp only
  rw [hkeyTrimmed, hvalueTrimmed, if_neg]
  simp [hkey.nonempty, hvalue.nonempty]

/-- What is written of an entry ends in ink. -/
theorem IsValue.endsInk (hvalue : IsValue value) (front : List Char) :
    EndsInk (front ++ value) := by
  intro c hc
  rw [List.getLast?_append_of_ne_nil front hvalue.nonempty] at hc
  refine ⟨hvalue.ends.last c hc, ?_⟩
  rintro rfl
  exact hvalue.complete hc

/-- The lines of an entry are joined to one. -/
theorem joinLines_entry (hkey : IsKey key) (hvalue : IsValue value) {own : List (List Char)}
    (hown : Broken (key ++ left ++ '=' :: (right ++ value)) own) (rest : List (List Char)) :
    joinLines [] (own ++ rest) =
      (key ++ left ++ '=' :: (right ++ value)) :: joinLines [] rest := by
  have hends : EndsInk (key ++ left ++ '=' :: (right ++ value)) := by
    have hwhole : key ++ left ++ '=' :: (right ++ value) =
        (key ++ left ++ '=' :: right) ++ value := by
      simp
    rw [hwhole]
    exact hvalue.endsInk _
  have hstart : ∃ c, ([] ++ (key ++ left ++ '=' :: (right ++ value))).head? = some c ∧ c ≠ '#' := by
    obtain ⟨c, more, rfl⟩ := List.exists_cons_of_ne_nil hkey.nonempty
    exact ⟨c, rfl, fun h => hkey.start.1 (congrArg some h)⟩
  rw [joinLines_append (hown.complete hends) rest fun _ => rfl, joinLines_broken hown hends hstart]
  rfl

/-- A line between entries is passed over. -/
theorem Between.skips {line : List Char} (h : Between line) : Skips [] line := by
  refine ⟨rfl, ?_⟩
  cases h with
  | blank hws => exact .inl (Text.trimmed_eq_nil_iff.2 (List.all_eq_true.2 hws.isBlank))
  | comment hleft => exact .inr (Text.head?_trimmed hleft.isBlank (by decide) _)

/-- Reading the lines that entries are written on gives the entries. -/
theorem filterMap_joinLines_written {entries : List (String × String)} {lines : List (List Char)}
    (h : Written entries lines) : (joinLines [] lines).filterMap entry? = entries := by
  induction h with
  | nil => rfl
  | between hline _ ih => rw [joinLines_of_skips hline.skips, ih]
  | entry hkey hvalue hleft hright hown _ ih =>
    rw [joinLines_entry hkey hvalue hown, List.filterMap_cons,
      entry?_of_line hkey hvalue hleft hright, ih]

end

/-! ## Texts of lines -/

/-- Lines with the same trimmed forms are joined to the same lines. -/
theorem joinLines_congr {xs ys : List (List Char)} (h : xs.map trimmed = ys.map trimmed)
    (pending : List Char) : joinLines pending xs = joinLines pending ys := by
  induction xs generalizing ys pending with
  | nil =>
    have hys : ys = [] := by simpa using h.symm
    rw [hys]
  | cons x xs ih =>
    cases ys with
    | nil => exact absurd h (by simp)
    | cons y ys =>
      obtain ⟨hline, hrest⟩ := List.cons.inj h
      have hempty : xs.isEmpty = ys.isEmpty := by
        simpa using congrArg List.isEmpty hrest
      unfold joinLines
      simp only [hline, hempty, ih hrest]

/-- An empty line behind lines makes no difference: it can only end what the backslash of a last
line has left open, and the end of the text does that too. -/
theorem filterMap_joinLines_concat_nil (lines : List (List Char)) {pending : List Char}
    (h : lines = [] → pending = []) : (joinLines pending (lines ++ [[]])).filterMap entry? =
      (joinLines pending lines).filterMap entry? := by
  have hnil : Skips [] [] := ⟨rfl, .inl rfl⟩
  induction lines generalizing pending with
  | nil =>
    rw [h rfl, List.nil_append, joinLines_of_skips hnil]
  | cons line rest ih =>
    rw [List.cons_append]
    by_cases hskip : Skips pending line
    · rw [joinLines_of_skips hskip, joinLines_of_skips hskip]
      exact ih fun _ => rfl
    cases hline : continued? (trimmed line) with
    | none =>
      rw [joinLines_of_complete hskip hline, joinLines_of_complete hskip hline,
        List.filterMap_cons, List.filterMap_cons, ih fun _ => rfl]
    | some front =>
      rw [joinLines_of_continued hskip hline (List.concat_ne_nil _ _)]
      by_cases hrest : rest = []
      · subst hrest
        rw [joinLines_of_last hskip hline, List.nil_append]
        by_cases hopen : pending ++ front = []
        · rw [hopen, joinLines_of_skips hnil]
          rfl
        · have hopens : ¬ Skips (pending ++ front) [] := fun hs => hopen hs.fresh
          rw [joinLines_of_complete hopens rfl]
          exact congrArg (fun line => List.filterMap entry? [line]) (List.append_nil _)
      · rw [joinLines_of_continued hskip hline hrest]
        exact ih fun h => absurd h hrest

/-- The lines of a text are those that it is made up of, up to carriage returns at their ends and an
empty line without a line end. -/
theorem exists_lines_of_terminated {lines : List (List Char)} {text : List Char}
    (h : Terminated lines text) (hlines : ∀ line ∈ lines, '\n' ∉ line) :
    ∃ ended, (lines = ended ∨ lines = ended ++ [[]]) ∧
      (Text.lines text).map trimmed = ended.map trimmed := by
  -- A line that is read from the text may have a carriage return at its end, which is a blank.
  have hstep : ∀ {line read text : List Char} {lines : List (List Char)}, '\n' ∉ read →
      trimmed read = trimmed line →
      (∃ ended, (lines = ended ∨ lines = ended ++ [[]]) ∧
        (Text.lines text).map trimmed = ended.map trimmed) →
      ∃ ended, (line :: lines = ended ∨ line :: lines = ended ++ [[]]) ∧
        (Text.lines (read ++ '\n' :: text)).map trimmed = ended.map trimmed := by
    rintro line read text lines hread htrimmed ⟨ended, hended, hmap⟩
    refine ⟨line :: ended, hended.imp (congrArg _) (congrArg _), ?_⟩
    rw [Text.lines_append, Text.pieces_of_notMem hread, List.map_append, hmap, List.map_singleton,
      htrimmed]
    rfl
  induction h with
  | nil => exact ⟨[], .inl rfl, rfl⟩
  | last line =>
    have hline : '\n' ∉ line := hlines line List.mem_cons_self
    by_cases hempty : line = []
    · subst hempty
      exact ⟨[], .inr rfl, rfl⟩
    · refine ⟨[line], .inl rfl, ?_⟩
      have hread : Text.lines line = [line] := by
        unfold Text.lines
        rw [Text.pieces_of_notMem hline]
        exact if_neg fun h => hempty (Option.some.inj h)
      rw [hread]
  | lineFeed _ ih =>
    have hread := hlines _ List.mem_cons_self
    exact hstep hread rfl (ih fun other hother => hlines other (List.mem_cons_of_mem _ hother))
  | @carriageReturn line text lines _ ih =>
    have hline : '\n' ∉ line := hlines _ List.mem_cons_self
    have hread : '\n' ∉ line ++ ['\r'] := by simp [hline]
    have htrimmed : trimmed (line ++ ['\r']) = trimmed line :=
      Text.trimmed_append_blanks line (List.forall_mem_singleton.2 (by decide))
    have hwhole : line ++ '\r' :: '\n' :: text = (line ++ ['\r']) ++ '\n' :: text := by simp
    rw [hwhole]
    exact hstep hread htrimmed
      (ih fun other hother => hlines other (List.mem_cons_of_mem _ hother))

/-! ## Reading layouts -/

/-- A broken text without a line feed is broken at the ends of lines only. -/
theorem Broken.noLineFeed {text : List Char} {own : List (List Char)} (h : Broken text own)
    (htext : '\n' ∉ text) : ∀ line ∈ own, '\n' ∉ line := by
  induction h with
  | line hleft hright =>
    rw [List.forall_mem_singleton]
    simp [htext, hleft.noLineFeed, hright.noLineFeed]
  | more hleft hright _ _ ih =>
    rw [List.mem_append, not_or] at htext
    refine List.forall_mem_cons.2 ⟨?_, ih htext.2⟩
    simp [htext.1, hleft.noLineFeed, hright.noLineFeed]

/-- Lines have no line feeds in them. -/
theorem Written.noLineFeed {entries : List (String × String)} {lines : List (List Char)}
    (h : Written entries lines) : ∀ line ∈ lines, '\n' ∉ line := by
  induction h with
  | nil => exact fun _ h => absurd h List.not_mem_nil
  | between hline _ ih =>
    refine List.forall_mem_cons.2 ⟨?_, ih⟩
    cases hline with
    | blank hws => exact hws.noLineFeed
    | comment hleft htext => simp [hleft.noLineFeed, htext]
  | entry hkey hvalue hleft hright hown _ ih =>
    refine List.forall_mem_append.2 ⟨hown.noLineFeed ?_, ih⟩
    simp [hkey.noLineFeed, hvalue.noLineFeed, hleft.noLineFeed, hright.noLineFeed]

/-- A text behind blanks of a line does not start with a byte-order mark if it does not itself. -/
theorem head?_append_ne_mark {ws cs : List Char} (hws : IsMargin ws)
    (h : cs.head? ≠ some '\uFEFF') : (ws ++ cs).head? ≠ some '\uFEFF' := by
  cases ws with
  | nil => exact h
  | cons c ws =>
    intro hc
    have hblank := hws.isBlank c List.mem_cons_self
    rw [Option.some.inj hc] at hblank
    exact absurd hblank (by decide)

/-- The first line of a broken text starts with no byte-order mark if the text does not. -/
theorem Broken.head_ne_mark {text : List Char} {own : List (List Char)} (h : Broken text own)
    (htext : text.head? ≠ some '\uFEFF') : ∀ line ∈ own.head?, line.head? ≠ some '\uFEFF' := by
  intro line hline
  cases h with
  | @line left right text hleft hright =>
    rw [← Option.some.inj hline, List.append_assoc]
    refine head?_append_ne_mark hleft ?_
    cases text with
    | nil =>
      rw [List.nil_append, ← List.append_nil right]
      exact head?_append_ne_mark hright (by simp)
    | cons c text => exact htext
  | @more left right piece rest lines hleft =>
    rw [← Option.some.inj hline, List.append_assoc]
    refine head?_append_ne_mark hleft ?_
    cases piece with
    | nil => simp
    | cons c piece => exact htext

/-- The first of the lines that entries are written on starts with no byte-order mark. -/
theorem Written.head_ne_mark {entries : List (String × String)} {lines : List (List Char)}
    (h : Written entries lines) : ∀ line ∈ lines.head?, line.head? ≠ some '\uFEFF' := by
  cases h with
  | nil => exact fun _ h => absurd h (by simp)
  | @between entries line lines hline =>
    rintro first ⟨⟩
    cases hline with
    | blank hws => exact List.append_nil line ▸ head?_append_ne_mark hws (by simp)
    | comment hleft => exact head?_append_ne_mark hleft (by simp)
  | entry hkey _ _ _ hown =>
    intro line hline
    rw [List.head?_append_of_ne_nil _ hown.ne_nil] at hline
    refine hown.head_ne_mark ?_ line hline
    obtain ⟨c, more, rfl⟩ := List.exists_cons_of_ne_nil hkey.nonempty
    exact hkey.start.2

/-- What a text starts with is not changed by what ends its first line. -/
theorem head?_line_ne_mark {line : List Char} (h : line.head? ≠ some '\uFEFF') {c : Char}
    (hc : c ≠ '\uFEFF') (rest : List Char) : (line ++ c :: rest).head? ≠ some '\uFEFF' := by
  cases line with
  | nil => simpa using hc
  | cons d line => exact h

/-- A text starts with no byte-order mark if its first line does not. -/
theorem Terminated.dropByteOrderMark {lines : List (List Char)} {text : List Char}
    (h : Terminated lines text) (hlines : ∀ line ∈ lines.head?, line.head? ≠ some '\uFEFF') :
    Text.dropByteOrderMark text = text := by
  have htext : text.head? ≠ some '\uFEFF' := by
    cases h with
    | nil => simp
    | last line => exact hlines _ rfl
    | lineFeed => exact head?_line_ne_mark (hlines _ rfl) (by decide) _
    | carriageReturn => exact head?_line_ne_mark (hlines _ rfl) (by decide) _
  unfold Text.dropByteOrderMark
  split
  · next rest => exact absurd rfl htext
  · rfl

/-- The entries of a text that entries are written as are these. -/
theorem entries_of_layout {written : List (String × String)} {contents : String}
    (h : Layout written contents.toList) : entries contents = written := by
  -- With the mark or without it, what is read is the text of the lines.
  obtain ⟨lines, text, hlines, htext, hdrop⟩ : ∃ lines text, Written written lines ∧
      Terminated lines text ∧ Text.dropByteOrderMark contents.toList = text := by
    generalize contents.toList = cs at h
    cases h with
    | plain hlines htext =>
      exact ⟨_, _, hlines, htext, htext.dropByteOrderMark hlines.head_ne_mark⟩
    | marked hlines htext => exact ⟨_, _, hlines, htext, rfl⟩
  obtain ⟨ended, hended, hmap⟩ := exists_lines_of_terminated htext hlines.noLineFeed
  have hjoined : (joinLines [] ended).filterMap entry? = (joinLines [] lines).filterMap entry? := by
    rcases hended with rfl | rfl
    · rfl
    · exact (filterMap_joinLines_concat_nil ended fun _ => rfl).symm
  calc entries contents
      = (joinLines [] (Text.lines text)).filterMap entry? := by rw [entries, hdrop]
    _ = (joinLines [] ended).filterMap entry? := by rw [joinLines_congr hmap]
    _ = written := by rw [hjoined, filterMap_joinLines_written hlines]

/-- Reading a text that entries are written as, in whatever layout, gives exactly the properties
that have for each key the value of its last entry. -/
theorem read_layout {written : List (String × String)} {contents : String}
    (h : Layout written contents.toList) :
    (read contents).Rising ∧
      ∀ key, (read contents).find? key = Pairs.find? key written.reverse := by
  refine ⟨rising_read contents, fun key => ?_⟩
  rw [find?_read, entries_of_layout h]

/-- A property list with a comment that ends in a backslash, a value on three lines, and a value
that is broken at the end of the text. -/
def brokenList : String :=
  "\uFEFF# names\\\r\n name = A \\\r\n\t\\\n#b\n\nname=B\\\n"

/-- The list is a layout of two entries of a key. The later one counts. -/
theorem read_layout_brokenList :
    Layout [("name", "A #b"), ("name", "B")] brokenList.toList ∧
      (read brokenList).find? "name" = some "B" ∧ (read brokenList).find? "#b" = none := by
  have hkey : IsKey "name".toList :=
    ⟨by decide, by decide, by decide, by decide, by decide⟩
  have hlast : Written [("name", "B")] ["name=B\\".toList, []] :=
    @Written.entry [] "name".toList "B".toList [] [] ["name=B\\".toList, []] [] hkey
      ⟨by decide, by decide, by decide, by decide⟩ (by decide) (by decide)
      (@Broken.more [] [] "name=B".toList [] [[]] (by decide) (by decide) (by decide)
        (@Broken.line [] [] [] (by decide) (by decide) (by decide))) .nil
  have hfirst : Written [("name", "A #b"), ("name", "B")]
      [" name = A \\".toList, "\t\\".toList, "#b".toList, [], "name=B\\".toList, []] :=
    @Written.entry [("name", "B")] "name".toList "A #b".toList [' '] [' ']
      [" name = A \\".toList, "\t\\".toList, "#b".toList] [[], "name=B\\".toList, []] hkey
      ⟨by decide, by decide, by decide, by decide⟩ (by decide) (by decide)
      (@Broken.more [' '] [] "name = A ".toList "#b".toList ["\t\\".toList, "#b".toList]
        (by decide) (by decide) (by decide)
        (@Broken.more ['\t'] [] [] "#b".toList ["#b".toList] (by decide) (by decide) (by decide)
          (@Broken.line [] [] "#b".toList (by decide) (by decide) (by decide))))
      (.between (.blank (by decide)) hlast)
  have hlayout : Layout [("name", "A #b"), ("name", "B")] brokenList.toList :=
    .marked (.between (@Between.comment [] " names\\".toList (by decide) (by decide)) hfirst)
      (.carriageReturn (.carriageReturn (.lineFeed (.lineFeed (.lineFeed (.lineFeed (.last [])))))))
  obtain ⟨-, hfind⟩ := read_layout hlayout
  exact ⟨hlayout, hfind "name", hfind "#b"⟩

end Manifest.Format.Properties
