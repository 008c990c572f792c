/-!
# Distinct texts

The first occurrence of every item of a list. Nothing is lost, nothing occurs twice, and a list
without repetition stays as it is.
-/

namespace Manifest.Text

/-- Appends the items that are not in the list yet. -/
def appendNew (seen items : List String) : List String :=
  items.foldl (fun seen item => if seen.contains item then seen else seen ++ [item]) seen

@[simp] theorem mem_appendNew {seen items : List String} {item : String} :
    item ∈ appendNew seen items ↔ item ∈ seen ∨ item ∈ items := by
  induction items generalizing seen with
  | nil => simp [appendNew]
  | cons head rest ih =>
    by_cases h : head ∈ seen
    · have step : appendNew seen (head :: rest) = appendNew seen rest := by simp [appendNew, h]
      rw [step, ih, List.mem_cons]
      constructor
      · exact fun hm => hm.imp_right .inr
      · rintro (hm | rfl | hm)
        · exact .inl hm
        · exact .inl h
        · exact .inr hm
    · have step : appendNew seen (head :: rest) = appendNew (seen ++ [head]) rest := by
        simp [appendNew, h]
      rw [step, ih]
      simp [or_assoc]

theorem nodup_appendNew {seen : List String} (h : seen.Nodup) (items : List String) :
    (appendNew seen items).Nodup := by
  induction items generalizing seen with
  | nil => exact h
  | cons head rest ih =>
    by_cases hm : head ∈ seen
    · have step : appendNew seen (head :: rest) = appendNew seen rest := by simp [appendNew, hm]
      exact step ▸ ih h
    · have step : appendNew seen (head :: rest) = appendNew (seen ++ [head]) rest := by
        simp [appendNew, hm]
      refine step ▸ ih (List.nodup_append.2 ⟨h, by simp, ?_⟩)
      intro x hx y hy hxy
      exact hm (List.mem_singleton.1 hy ▸ hxy ▸ hx)

theorem appendNew_of_nodup {seen items : List String} (h : (seen ++ items).Nodup) :
    appendNew seen items = seen ++ items := by
  induction items generalizing seen with
  | nil => simp [appendNew]
  | cons head rest ih =>
    have hm : head ∉ seen := fun hx =>
      (List.nodup_append.1 h).2.2 head hx head List.mem_cons_self rfl
    have step : appendNew seen (head :: rest) = appendNew (seen ++ [head]) rest := by
      simp [appendNew, hm]
    rw [step, ih (by simpa using h), List.append_assoc, List.singleton_append]

/-- The first occurrence of every item, in order. -/
def firstSeen (items : List String) : List String :=
  appendNew [] items

@[simp] theorem mem_firstSeen {items : List String} {item : String} :
    item ∈ firstSeen items ↔ item ∈ items := by
  simp [firstSeen]

theorem nodup_firstSeen (items : List String) : (firstSeen items).Nodup :=
  nodup_appendNew List.nodup_nil items

theorem firstSeen_of_nodup {items : List String} (h : items.Nodup) : firstSeen items = items :=
  appendNew_of_nodup h

end Manifest.Text
