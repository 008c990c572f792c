/-!
# Cutting text

Pieces between separators, the lines of a text, the two sides of the first mark, and whether a part
occurs at all.
-/

namespace Manifest.Text

/-- The pieces of `cs` between the characters equal to `mark`. There is always at least one. -/
def pieces (mark : Char) : List Char → List (List Char)
  | [] => [[]]
  | c :: cs =>
    if c = mark then [] :: pieces mark cs
    else
      match pieces mark cs with
      | [] => [[c]]
      | piece :: rest => (c :: piece) :: rest

theorem pieces_ne_nil (mark : Char) (cs : List Char) : pieces mark cs ≠ [] := by
  induction cs with
  | nil => simp [pieces]
  | cons c cs ih =>
    unfold pieces
    split
    · simp
    · split <;> simp

/-- Joining the pieces with the mark gives the text back. -/
theorem intercalate_pieces (mark : Char) (cs : List Char) :
    [mark].intercalate (pieces mark cs) = cs := by
  induction cs with
  | nil => simp [pieces]
  | cons c cs ih =>
    unfold pieces
    split
    case isTrue h =>
      cases hp : pieces mark cs with
      | nil => exact absurd hp (pieces_ne_nil mark cs)
      | cons piece rest =>
        rw [hp] at ih
        simp [List.intercalate_cons_cons, ih, h]
    case isFalse h =>
      cases hp : pieces mark cs with
      | nil => exact absurd hp (pieces_ne_nil mark cs)
      | cons piece rest =>
        rw [hp] at ih
        cases rest with
        | nil => simpa using ih
        | cons next more => simpa [List.intercalate_cons_cons] using ih

theorem not_mem_of_mem_pieces {mark : Char} {cs piece : List Char} (h : piece ∈ pieces mark cs) :
    mark ∉ piece := by
  induction cs generalizing piece with
  | nil => simp_all [pieces]
  | cons c cs ih =>
    unfold pieces at h
    split at h
    case isTrue =>
      rcases List.mem_cons.1 h with rfl | h
      · simp
      · exact ih h
    case isFalse hc =>
      split at h
      case h_1 =>
        rw [List.mem_singleton.1 h]
        exact fun hm => hc (List.mem_singleton.1 hm).symm
      case h_2 first rest hp =>
        rcases List.mem_cons.1 h with rfl | h
        · have hfirst := ih (hp ▸ List.mem_cons_self)
          exact fun hm => (List.mem_cons.1 hm).elim (fun e => hc e.symm) hfirst
        · exact ih (hp ▸ List.mem_cons_of_mem _ h)

/-- The pieces of a text between the characters equal to `mark`. -/
def split (mark : Char) (s : String) : List String :=
  (pieces mark s.toList).map String.ofList

/-- The text before and after the first `mark`, if there is one. -/
def cut (mark : Char) : List Char → Option (List Char × List Char)
  | [] => none
  | c :: cs =>
    if c = mark then some ([], cs)
    else (cut mark cs).map fun (before, after) => (c :: before, after)

/-- Whether `part` occurs in a text. -/
def occurs (part : List Char) : List Char → Bool
  | [] => part.isEmpty
  | c :: cs => part.isPrefixOf (c :: cs) || occurs part cs

/-- The lines of a text. A line feed ends a line, so none follows the last line feed. -/
def lines (cs : List Char) : List (List Char) :=
  let parts := pieces '\n' cs
  if parts.getLast? = some [] then parts.dropLast else parts

end Manifest.Text
