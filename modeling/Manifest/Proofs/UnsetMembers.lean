import Manifest.Proofs.FieldAccount
import Manifest.Proofs.Loading
import Manifest.Proofs.NormalParts

/-!
# Members that are not set

Validation takes a null for an absent value, and so does normalizing. What both of them make of
members therefore depends only on the values that are given, where null is none (`Members.given?`).
Members that give the same values are alike, and validate alike (`validate_congr`).
-/

namespace Manifest

open Json (Members Value)

/-- A value that is not null is kept by leaving out nulls. -/
theorem Json.Value.filter_some_of_ne_null {v : Value} (h : v ≠ .null) :
    (some v).filter (fun v => !v.isNull) = some v := by
  rw [ne_eq, ← Value.isNull_iff, Bool.not_eq_true] at h
  rw [Option.filter_some, h, Bool.not_false, if_pos rfl]

namespace Json.Members

/-- The value of a member, unless it is null. -/
def given? (members : Members) (name : String) : Option Value :=
  (members.get? name).filter fun v => !v.isNull

/-- The members give the same values. -/
def Alike (x y : Members) : Prop :=
  ∀ name, x.given? name = y.given? name

variable {members : Members} {name other : String}

/-- Nothing is given where a member is absent or null. -/
theorem given?_eq_none_iff :
    members.given? name = none ↔ members.get? name = none ∨ members.get? name = some .null := by
  unfold given?
  cases hget : members.get? name with
  | none => simp
  | some v => simp [Value.isNull_iff]

/-- A value that is given is one that is not null. -/
theorem given?_eq_some_iff {v : Value} :
    members.given? name = some v ↔ members.get? name = some v ∧ v ≠ .null := by
  unfold given?
  rw [Option.filter_eq_some_iff]
  simp [← Value.isNull_iff]

/-- What is given follows from what is there. -/
theorem given?_congr {x y : Members} (h : x.get? name = y.get? name) :
    x.given? name = y.given? name := by
  unfold given?
  rw [h]

/-- A value that is set is given, unless it is null. -/
theorem given?_insert_self (members : Members) (name : String) (v : Value) :
    (members.insert name v).given? name = (some v).filter fun v => !v.isNull := by
  unfold given?
  rw [get?_insert_self]

/-- Setting a member changes no other one. -/
theorem given?_insert_of_ne (members : Members) (v : Value) (h : name ≠ other) :
    (members.insert name v).given? other = members.given? other :=
  given?_congr (get?_insert_of_ne members v h)

/-- A member that was removed is not given. -/
@[simp] theorem given?_erase_self (members : Members) (name : String) :
    (members.erase name).given? name = none := by
  unfold given?
  rw [get?_erase_self]
  rfl

/-- Removing a member changes no other one. -/
theorem given?_erase_of_ne (members : Members) (h : name ≠ other) :
    (members.erase name).given? other = members.given? other :=
  given?_congr (get?_erase_of_ne members h)

/-- Without a member that is null, the members give the same values. -/
theorem alike_erase (h : members.get? name = some .null) :
    members.Alike (members.erase name) := by
  intro other
  by_cases hname : name = other
  · subst hname
    rw [given?_erase_self, given?_eq_none_iff]
    exact .inr h
  · rw [given?_erase_of_ne members hname]

end Json.Members

/-! ## Validating -/

namespace Validation

variable {x y : Members}

/-- What a field gets depends only on the value that is given for it. -/
theorem outcome_congr {f : Field} (h : x.given? f.label = y.given? f.label) :
    outcome x f = outcome y f := by
  cases hx : x.given? f.label with
  | none =>
    rw [outcome_of_unset (Members.given?_eq_none_iff.1 hx),
      outcome_of_unset (Members.given?_eq_none_iff.1 (h.symm.trans hx))]
  | some v =>
    obtain ⟨hget, hnull⟩ := Members.given?_eq_some_iff.1 hx
    obtain ⟨hget', -⟩ := Members.given?_eq_some_iff.1 (h.symm.trans hx)
    rw [outcome_of_some hget hnull, outcome_of_some hget' hnull]

/-- A survey goes by what the fields get. -/
theorem survey_congr {mode : Mode} {fs : List Field} (h : ∀ f ∈ fs, outcome x f = outcome y f)
    (found : Validated) : survey mode x found fs = survey mode y found fs := by
  induction fs generalizing found with
  | nil => rfl
  | cons f rest ih =>
    obtain ⟨hf, hrest⟩ := List.forall_mem_cons.1 h
    rw [survey, survey, hf]
    cases outcome y f with
    | ok content => exact ih hrest _
    | error e =>
      dsimp only
      rw [ih hrest]

end Validation

/-- Members that give the same values validate alike. -/
theorem validate_congr {x y : Members} (h : x.Alike y) (mode : Mode) :
    validate x mode = validate y mode := by
  unfold validate
  rw [Validation.survey_congr fun f _ => Validation.outcome_congr (h f.label)]

/-- If validation ends in the same, then every field but the page got the same. -/
theorem outcome_eq_of_validateLeniently {x y : Members}
    (h : validateLeniently x = validateLeniently y) {f : Field} (hf : f ≠ .homepage) :
    Validation.outcome x f = Validation.outcome y f := by
  have hcontent : Validation.content? x f = Validation.content? y f := by
    rw [← get_validateLeniently_of_ne x hf, ← get_validateLeniently_of_ne y hf, h]
  have herror : (Validation.error? x f).toList = (Validation.error? y f).toList := by
    rw [← errorsAbout_validateLeniently x f, ← errorsAbout_validateLeniently y f, h]
  unfold Validation.content? at hcontent
  unfold Validation.error? at herror
  cases hx : Validation.outcome x f <;> cases hy : Validation.outcome y f <;>
    simp_all

/-! ## Normalizing -/

namespace Normal

/-- The normal form of null is null or nothing. -/
theorem filter_normalForm_null (name : String) :
    (normalForm name .null).filter (fun v => !v.isNull) = none := by
  by_cases hmem : name ∈ transforms.map (·.1)
  · simp only [transforms, List.map_cons, List.map_nil, List.mem_cons, List.not_mem_nil,
      or_false] at hmem
    rcases hmem with rfl | rfl | rfl | rfl | rfl | rfl | rfl <;> rfl
  · rw [normalForm_of_not_mem hmem]
    rfl

/-- What fields in their normal form give is the normal form of what was given. -/
theorem given?_fields (members : Members) (name : String) :
    (fields members).given? name =
      ((members.given? name).bind (normalForm name)).filter fun v => !v.isNull := by
  unfold Members.given?
  rw [get?_fields]
  cases hget : members.get? name with
  | none => rfl
  | some v =>
    by_cases hnull : v = .null
    · subst hnull
      exact filter_normalForm_null name
    · rw [Value.filter_some_of_ne_null hnull]

/-- A member in its normal form gives what it gave if the values were the same. -/
theorem given?_fields_congr {x y : Members} {name : String} (h : x.given? name = y.given? name) :
    (fields x).given? name = (fields y).given? name := by
  rw [given?_fields, given?_fields, h]

end Normal

end Manifest
