import Mathlib.Data.List.Nodup
import Mathlib.Logic.Function.Iterate
import Manifest.Normal.Fields
import Manifest.Proofs.ObjectForms
import Manifest.Proofs.TokenLists

/-!
# The normal form of the fields

Bringing fields into their normal form works on each member by itself (`get?_fields`), so what a
second pass does follows from what each normal form does to its own outcome. Six of the seven leave
it alone. The seventh, that of the host systems, brings repeated wildcards together only after it
has looked for a lone one, which the second pass then finds (`fields_fields`).
-/

namespace Manifest

open Json (Members Value)

namespace Json.Members

/-- The member that was set, if there was a value for it. -/
theorem get?_insertSome_self (members : Members) (name : String) (value : Option Value)
    (h : members.get? name = none) : (members.insertSome name value).get? name = value := by
  cases value with
  | none => exact h
  | some v => exact get?_insert_self members name v

/-- Members of other names stay. -/
theorem get?_insertSome_of_ne (members : Members) {name other : String} (value : Option Value)
    (h : name ≠ other) : (members.insertSome name value).get? other = members.get? other := by
  cases value with
  | none => rfl
  | some v => exact get?_insert_of_ne members v h

/-- A member that is set has its value, and no other one changes. -/
theorem get?_insert (members : Members) (name other : String) (v : Value) :
    (members.insert name v).get? other = if other = name then some v else members.get? other := by
  split_ifs with hname
  · rw [hname, get?_insert_self]
  · exact get?_insert_of_ne members v (Ne.symm hname)

/-- A member that is set if there is a value has this or else what it had, and no other one
changes. -/
theorem get?_insertSome (members : Members) (name other : String) (value : Option Value) :
    (members.insertSome name value).get? other =
      if other = name then value.or (members.get? name) else members.get? other := by
  cases value with
  | none => simp +contextual [insertSome, eq_comm]
  | some v => exact get?_insert members name other v

/-- A member that is put in its place unless it was there. -/
theorem get?_insertNew (members : Members) (name other : String) (v : Value) :
    (members.insertNew name v).get? other =
      if other = name then some ((members.get? name).getD v) else members.get? other := by
  unfold insertNew
  cases hget : members.get? name with
  | some w =>
    rw [Option.isSome_some, if_pos rfl, Option.getD_some]
    split_ifs with hother
    · rw [hother, hget]
    · rfl
  | none =>
    rw [Option.isSome_none, if_neg Bool.false_ne_true, Option.getD_none]
    split_ifs with hother
    · rw [hother, get?_insert_self]
    · exact get?_insert_of_ne members v (Ne.symm hother)

end Json.Members

namespace Normal

/-- The names of the fields that have a normal form. -/
def normalNames : List String :=
  ["keywords", "platforms", "frameworks", "authors", "export", "repository", "system"]

/-- These are the names under which a transform is found. -/
theorem map_fst_transforms : transforms.map (·.1) = normalNames :=
  rfl

/-- What becomes of a value of this name: its normal form, or the value itself where the name has
none. -/
def normalForm (name : String) (v : Value) : Option Value :=
  match transforms.lookup name with
  | some transform => transform v
  | none => some v

/-- The normal form of a field stands in its place. -/
theorem get?_field_self (members : Members) (name : String) :
    (field members name).get? name = (members.get? name).bind (normalForm name) := by
  unfold field normalForm
  cases transforms.lookup name with
  | none => simp
  | some transform =>
    cases hget : members.get? name with
    | none => simp [hget]
    | some v =>
      rw [Members.get?_insertSome_self _ _ _ (Members.get?_erase_self members name),
        Option.bind_some]

/-- Fields of other names stay. -/
theorem get?_field_of_ne (members : Members) {name other : String} (h : name ≠ other) :
    (field members name).get? other = members.get? other := by
  unfold field
  split
  · rw [Members.get?_insertSome_of_ne _ _ h, Members.get?_erase_of_ne members h]
  · rfl

/-- Normalizing fields one after the other brings each of them into its normal form as often as its
name occurs. -/
theorem get?_foldl_field (names : List String) (members : Members) (name : String) :
    (names.foldl field members).get? name =
      (Option.bind · (normalForm name))^[names.count name] (members.get? name) := by
  induction names generalizing members with
  | nil => rfl
  | cons first rest ih =>
    rw [List.foldl_cons, ih]
    by_cases hname : first = name
    · subst hname
      rw [List.count_cons_self, Function.iterate_succ_apply, get?_field_self]
    · rw [List.count_cons_of_ne hname, get?_field_of_ne members hname]

/-- A name without a normal form keeps its value. -/
theorem normalForm_of_not_mem {name : String} (h : name ∉ transforms.map (·.1)) (v : Value) :
    normalForm name v = some v := by
  have hlookup : transforms.lookup name = none := by
    refine List.lookup_eq_none_iff.2 fun entry hentry => ?_
    simp only [bne_iff_ne, ne_eq]
    rintro rfl
    exact h (List.mem_map_of_mem hentry)
  rw [normalForm, hlookup]

/-- Bringing values of such a name into their normal form does nothing. -/
theorem normalForm_eq_some {name : String} (h : name ∉ normalNames) : normalForm name = some :=
  funext (normalForm_of_not_mem (map_fst_transforms ▸ h))

/-- Every field is brought into its normal form by itself. -/
theorem get?_fields (members : Members) (name : String) :
    (fields members).get? name = (members.get? name).bind (normalForm name) := by
  have hnodup : normalNames.Nodup := by decide
  rw [fields, map_fst_transforms, get?_foldl_field]
  by_cases hmem : name ∈ normalNames
  · rw [List.count_eq_one_of_mem hnodup hmem, Function.iterate_one]
  · rw [List.count_eq_zero_of_not_mem hmem, Function.iterate_zero, id, normalForm_eq_some hmem,
      Option.bind_fun_some]

/-- A field without a normal form stays as it is. -/
theorem get?_fields_of_not_mem {name : String} (h : name ∉ normalNames) (members : Members) :
    (fields members).get? name = members.get? name := by
  rw [get?_fields, normalForm_eq_some h, Option.bind_fun_some]

/-- The normal form of a value is its own normal form, repeated wildcards among the host systems
aside. -/
theorem normalForm_bind_normalForm {name : String} {v : Value}
    (h : name = "system" → ¬ RepeatsWildcard v) :
    (normalForm name v).bind (normalForm name) = normalForm name v := by
  by_cases hmem : name ∈ transforms.map (·.1)
  · simp only [transforms, List.map_cons, List.map_nil, List.mem_cons, List.not_mem_nil,
      or_false] at hmem
    rcases hmem with rfl | rfl | rfl | rfl | rfl | rfl | rfl
    · exact keywords_bind_keywords v
    · exact targets_bind_targets resolves_platform v
    · exact targets_bind_targets resolves_id v
    · exact authors_bind_authors v
    · exact exportRules_bind_exportRules v
    · exact repository_bind_repository v
    · exact system_bind_system (h rfl)
  · rw [normalForm_of_not_mem hmem, Option.bind_some, normalForm_of_not_mem hmem]

/-- What is found in fields in their normal form is the normal form of what was there before. -/
theorem exists_of_get?_fields {raw : Members} {name : String} {w : Value}
    (h : (fields raw).get? name = some w) :
    ∃ v, raw.get? name = some v ∧ normalForm name v = some w := by
  rw [get?_fields] at h
  exact Option.bind_eq_some_iff.1 h

/-- What is found in fields in their normal form is in normal form, host systems aside. -/
theorem normalForm_of_get?_fields {raw : Members} {name : String} {w : Value}
    (h : (fields raw).get? name = some w) (hname : name ≠ "system") :
    normalForm name w = some w := by
  obtain ⟨v, -, hv⟩ := exists_of_get?_fields h
  have htwice := normalForm_bind_normalForm (v := v) fun hsystem => absurd hsystem hname
  rwa [hv, Option.bind_some] at htwice

/-- The host systems among the members are the wildcard, listed more than once. -/
def WildcardRepeated (members : Members) : Prop :=
  ∃ v, members.get? "system" = some v ∧ RepeatsWildcard v

/-- Fields in their normal form stay as they are, unless a wildcard was repeated before. -/
theorem fields_fields_of_not_repeated {members : Members} (h : ¬ WildcardRepeated members) :
    fields (fields members) = fields members := by
  refine Members.ext_get? fun name => ?_
  rw [get?_fields, get?_fields]
  cases hget : members.get? name with
  | none => rfl
  | some v =>
    rw [Option.bind_some]
    refine normalForm_bind_normalForm fun hname hrepeats => h ⟨v, ?_, hrepeats⟩
    rw [← hname, hget]

/-- Fields in their normal form have no repeated wildcard. -/
theorem not_wildcardRepeated_fields (members : Members) : ¬ WildcardRepeated (fields members) := by
  rintro ⟨w, hget, hrepeats⟩
  obtain ⟨v, -, hv⟩ := exists_of_get?_fields hget
  exact not_repeatsWildcard_of_system hv hrepeats

/-- The second pass leaves out a wildcard that was repeated before. -/
theorem get?_fields_of_repeated {members : Members} (h : WildcardRepeated members) :
    (fields members).get? "system" = some (Value.strings [wildcard]) ∧
      (fields (fields members)).get? "system" = none := by
  obtain ⟨v, hget, hrepeats⟩ := h
  have honce : (fields members).get? "system" = some (Value.strings [wildcard]) := by
    rw [get?_fields, hget, Option.bind_some]
    exact system_of_repeats hrepeats
  refine ⟨honce, ?_⟩
  rw [get?_fields, honce, Option.bind_some]
  exact system_wildcard

/-- Normalizing fields again changes nothing, exactly if the host systems were not the wildcard
listed more than once. If they were, the second pass leaves them out and keeps all else. A third
pass never changes anything. -/
theorem fields_fields (members : Members) :
    (fields (fields members) = fields members ↔ ¬ WildcardRepeated members) ∧
      (WildcardRepeated members →
        fields (fields members) = (fields members).erase "system") ∧
      fields (fields (fields members)) = fields (fields members) := by
  refine ⟨⟨fun heq h => ?_, fields_fields_of_not_repeated⟩, fun h => ?_,
    fields_fields_of_not_repeated (not_wildcardRepeated_fields members)⟩
  · obtain ⟨honce, htwice⟩ := get?_fields_of_repeated h
    rw [heq, honce] at htwice
    exact absurd htwice (by simp)
  · obtain ⟨-, htwice⟩ := get?_fields_of_repeated h
    refine Members.ext_get? fun name => ?_
    by_cases hname : name = "system"
    · rw [hname, htwice, Members.get?_erase_self]
    · rw [Members.get?_erase_of_ne _ (Ne.symm hname), get?_fields, get?_fields]
      cases members.get? name with
      | none => rfl
      | some v => exact normalForm_bind_normalForm fun h => absurd h hname

/-- Two wildcards as the host systems take two passes. -/
theorem fields_fields_two_wildcards :
    let members := Members.empty.insert "system" (Value.strings ["*", "*"])
    fields (fields members) ≠ fields members := by
  intro members heq
  have htokens : tokens? (Value.strings ["*", "*"]) = some ["*", "*"] :=
    tokens?_strings (by decide +kernel)
  have hrepeated : WildcardRepeated members :=
    ⟨_, Members.get?_insert_self _ _ _, _, htokens, by decide, by decide⟩
  obtain ⟨honce, htwice⟩ := get?_fields_of_repeated hrepeated
  rw [heq, honce] at htwice
  exact absurd htwice (by simp)

end Normal

end Manifest
