import Manifest.Proofs.NormalForm

/-!
# The order of normalizing

Fields are brought into their normal form in place, one after the other. What this ends in depends
on how often each field that has a normal form is met, and on nothing else (`foldl_field_congr`): what
stands under a name goes by what stood there, so steps of different names do not meet, and a name
without a normal form does nothing. Any order in which each field that has a normal form is met once
will do (`foldl_field_eq_fields`).
-/

namespace Manifest.Normal

open Json (Members Value)

/-- Where a name has no normal form, what stands there is left as it is. -/
theorem bind_normalForm_of_not_mem {name : String} (h : name ∉ normalNames) :
    (Option.bind · (normalForm name)) = id := by
  funext v?
  rw [normalForm_eq_some h, Option.bind_fun_some, id]

/-- Two orders in which every field that has a normal form is met equally often end in the same. -/
theorem foldl_field_congr {xs ys : List String}
    (h : ∀ name ∈ normalNames, xs.count name = ys.count name) (members : Members) :
    xs.foldl field members = ys.foldl field members := by
  refine Members.ext_get? fun name => ?_
  rw [get?_foldl_field, get?_foldl_field]
  -- What stands under a name is iterated as often as the name is met.
  by_cases hmem : name ∈ normalNames
  · rw [h name hmem]
  · rw [bind_normalForm_of_not_mem hmem, Function.iterate_id, Function.iterate_id]

/-- Normalizing fields one after the other is normalizing all of them, in whatever order, if each
field that has a normal form is met exactly once. Other fields may be met as often as one likes. Each
step leaves the members of other names as they are. -/
theorem foldl_field_eq_fields (members : Members) :
    (∀ names : List String, (∀ name ∈ normalNames, names.count name = 1) →
      names.foldl field members = fields members) ∧
    ∀ name other, other ≠ name → (field members name).get? other = members.get? other := by
  constructor
  · intro names honce
    have hall : ∀ name ∈ normalNames, normalNames.count name = 1 := by decide
    have hcount : ∀ name ∈ normalNames, names.count name = normalNames.count name :=
      fun name hmem => (honce name hmem).trans (hall name hmem).symm
    rw [foldl_field_congr hcount, fields, map_fst_transforms]
  · intro name other hne
    exact get?_field_of_ne members (Ne.symm hne)

/-- An order from the last field to the first one, with other names in between. -/
def backwards : List String :=
  ["name", "system", "repository", "export", "url", "authors", "name", "frameworks", "platforms",
    "keywords", "url"]

/-- Members of which normalizing removes one and changes two. -/
def manyTargets : Members :=
  Members.ofPairs
    [("name", .string " n "), ("platforms", .string "AVR, atmelavr"), ("system", .string "*"),
      ("url", .null), ("keywords", Value.strings ["B", "a", "b"])]

/-- It ends in the normal form of all fields. -/
theorem foldl_field_eq_fields_backwards :
    (∀ name ∈ normalNames, backwards.count name = 1) ∧
      backwards.foldl field manyTargets = fields manyTargets ∧
      fields manyTargets = Members.ofPairs
        [("name", .string " n "), ("platforms", Value.strings ["atmelavr"]), ("url", .null),
          ("keywords", Value.strings ["b", "a"])] := by
  have honce : ∀ name ∈ normalNames, backwards.count name = 1 := by decide
  exact ⟨honce, (foldl_field_eq_fields manyTargets).1 backwards honce, rfl⟩

end Manifest.Normal
