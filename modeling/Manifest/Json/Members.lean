import Manifest.Json.Value

/-!
# Members of an object

Name-value pairs in rising order of their names. The operations work on plain lists of pairs, and
`Members` packs a list together with the proof that its names rise, so that two of them with the
same members are equal.
-/

namespace Manifest.Json

/-- Name-value pairs, in whatever order. -/
abbrev Pairs (α : Type) := List (String × α)

namespace Pairs

variable {α : Type}

/-- The value of the first pair with this name. -/
def find? (name : String) : Pairs α → Option α
  | [] => none
  | (k, v) :: rest => if k = name then some v else find? name rest

/-- Puts a pair in its place, replacing the value of a pair with the same name. -/
def insert (name : String) (value : α) : Pairs α → Pairs α
  | [] => [(name, value)]
  | (k, v) :: rest =>
    if name < k then (name, value) :: (k, v) :: rest
    else if k = name then (name, value) :: rest
    else (k, v) :: insert name value rest

/-- Without the pairs of this name. -/
def erase (name : String) (pairs : Pairs α) : Pairs α :=
  pairs.filter fun pair => pair.1 ≠ name

/-- Puts a pair in its place unless there is one with its name. -/
def insertNew (name : String) (value : α) (pairs : Pairs α) : Pairs α :=
  if (find? name pairs).isSome then pairs else insert name value pairs

/-- The names rise strictly. -/
def Rising (pairs : Pairs α) : Prop :=
  pairs.Pairwise fun x y => x.1 < y.1

theorem mem_insert {name : String} {value : α} {pairs : Pairs α} {pair : String × α}
    (h : pair ∈ insert name value pairs) : pair = (name, value) ∨ pair ∈ pairs := by
  induction pairs with
  | nil => simpa [insert] using h
  | cons head rest ih =>
    obtain ⟨k, v⟩ := head
    unfold insert at h
    split at h
    · simpa using h
    · split at h
      · simp only [List.mem_cons] at h ⊢
        rcases h with h | h
        · exact .inl h
        · exact .inr (.inr h)
      · simp only [List.mem_cons] at h ⊢
        rcases h with h | h
        · exact .inr (.inl h)
        · exact (ih h).imp_right .inr

theorem Rising.insert {name : String} {value : α} {pairs : Pairs α} (h : pairs.Rising) :
    (pairs.insert name value).Rising := by
  induction pairs with
  | nil => simp [Pairs.insert, Rising]
  | cons head rest ih =>
    obtain ⟨k, v⟩ := head
    obtain ⟨hk, hr⟩ := List.pairwise_cons.1 h
    unfold Pairs.insert
    split
    case isTrue hlt =>
      refine List.pairwise_cons.2 ⟨fun pair hp => ?_, h⟩
      rcases List.mem_cons.1 hp with rfl | hp
      · exact hlt
      · exact String.lt_trans hlt (hk pair hp)
    case isFalse hge =>
      split
      case isTrue heq =>
        subst heq
        exact List.pairwise_cons.2 ⟨fun pair hp => hk pair hp, hr⟩
      case isFalse hne =>
        refine List.pairwise_cons.2 ⟨fun pair hp => ?_, ih hr⟩
        rcases mem_insert hp with rfl | hp
        · exact Std.lt_of_le_of_ne (String.not_lt.1 hge) hne
        · exact hk pair hp

theorem Rising.erase {name : String} {pairs : Pairs α} (h : pairs.Rising) :
    (pairs.erase name).Rising :=
  List.Pairwise.filter _ h

@[simp] theorem find?_insert_self (name : String) (value : α) (pairs : Pairs α) :
    (pairs.insert name value).find? name = some value := by
  induction pairs with
  | nil => simp [insert, find?]
  | cons head rest ih =>
    obtain ⟨k, v⟩ := head
    by_cases hlt : name < k
    · simp [insert, find?, hlt]
    · by_cases heq : k = name <;> simp [insert, find?, hlt, heq, ih]

theorem find?_insert_of_ne {name other : String} (value : α) (pairs : Pairs α)
    (h : name ≠ other) : (pairs.insert name value).find? other = pairs.find? other := by
  induction pairs with
  | nil => simp [insert, find?, h]
  | cons head rest ih =>
    obtain ⟨k, v⟩ := head
    by_cases hlt : name < k
    · simp [insert, find?, hlt, h]
    · by_cases heq : k = name
      · subst heq
        simp [insert, find?, h]
      · simp [insert, find?, hlt, heq, ih]

@[simp] theorem find?_erase_self (name : String) (pairs : Pairs α) :
    (pairs.erase name).find? name = none := by
  induction pairs with
  | nil => rfl
  | cons head rest ih =>
    obtain ⟨k, v⟩ := head
    by_cases heq : k = name
    · simpa [erase, heq] using ih
    · simpa [erase, find?, heq] using ih

theorem find?_erase_of_ne {name other : String} (pairs : Pairs α) (h : name ≠ other) :
    (pairs.erase name).find? other = pairs.find? other := by
  induction pairs with
  | nil => rfl
  | cons head rest ih =>
    obtain ⟨k, v⟩ := head
    by_cases heq : k = name
    · subst heq
      simpa [erase, find?, h] using ih
    · by_cases hk : k = other
      · simp [erase, find?, hk, Ne.symm h]
      · simpa [erase, find?, heq, hk] using ih

/-- In a rising list every pair is found under its name. -/
theorem Rising.find?_eq_some_iff {pairs : Pairs α} (h : pairs.Rising) {name : String} {value : α} :
    pairs.find? name = some value ↔ (name, value) ∈ pairs := by
  induction pairs with
  | nil => simp [find?]
  | cons head rest ih =>
    obtain ⟨k, v⟩ := head
    obtain ⟨hk, hr⟩ := List.pairwise_cons.1 h
    by_cases heq : k = name
    · subst heq
      have hnot : (k, value) ∉ rest := fun hm => String.lt_irrefl k (hk _ hm)
      simp [find?, hnot, eq_comm]
    · simp [find?, heq, ih hr, Ne.symm heq]

theorem Rising.nodup {pairs : Pairs α} (h : pairs.Rising) : pairs.Nodup := by
  refine List.Pairwise.imp ?_ h
  intro x y hlt heq
  exact String.lt_irrefl y.1 (heq ▸ hlt)

/-- Two rising lists that find the same values are the same list. -/
theorem Rising.ext {x y : Pairs α} (hx : x.Rising) (hy : y.Rising)
    (h : ∀ name, x.find? name = y.find? name) : x = y := by
  have hmem : ∀ pair, pair ∈ x ↔ pair ∈ y := fun (name, value) => by
    rw [← hx.find?_eq_some_iff, ← hy.find?_eq_some_iff, h]
  have hperm : x.Perm y := (List.perm_ext_iff_of_nodup hx.nodup hy.nodup).2 hmem
  unfold Rising at hx hy
  exact hperm.eq_of_pairwise
    (fun a b _ _ hab hba => absurd (String.lt_trans hab hba) (String.lt_irrefl _)) hx hy

end Pairs

/-- The members of one object: pairs whose names rise strictly. -/
structure Members where
  /-- The pairs. -/
  pairs : Pairs Value
  /-- Their names rise. -/
  rising : pairs.Rising

namespace Members

/-- No members. -/
def empty : Members :=
  ⟨[], List.Pairwise.nil⟩

/-- The value of a member. -/
def get? (members : Members) (name : String) : Option Value :=
  members.pairs.find? name

/-- Sets a member. -/
def insert (members : Members) (name : String) (value : Value) : Members :=
  ⟨members.pairs.insert name value, members.rising.insert⟩

/-- Removes a member. -/
def erase (members : Members) (name : String) : Members :=
  ⟨members.pairs.erase name, members.rising.erase⟩

/-- Sets a member unless there is one of this name. -/
def insertNew (members : Members) (name : String) (value : Value) : Members :=
  if (members.get? name).isSome then members else members.insert name value

/-- Sets a member if there is a value for it. -/
def insertSome (members : Members) (name : String) (value : Option Value) : Members :=
  match value with
  | some v => members.insert name v
  | none => members

/-- The members of a list of pairs, where a later pair replaces an earlier one of its name. -/
def ofPairs (pairs : Pairs Value) : Members :=
  pairs.foldl (fun members (name, value) => members.insert name value) empty

@[simp] theorem get?_empty (name : String) : empty.get? name = none :=
  rfl

@[simp] theorem get?_insert_self (members : Members) (name : String) (value : Value) :
    (members.insert name value).get? name = some value :=
  Pairs.find?_insert_self name value members.pairs

theorem get?_insert_of_ne (members : Members) {name other : String} (value : Value)
    (h : name ≠ other) : (members.insert name value).get? other = members.get? other :=
  Pairs.find?_insert_of_ne value members.pairs h

@[simp] theorem get?_erase_self (members : Members) (name : String) :
    (members.erase name).get? name = none :=
  Pairs.find?_erase_self name members.pairs

theorem get?_erase_of_ne (members : Members) {name other : String} (h : name ≠ other) :
    (members.erase name).get? other = members.get? other :=
  Pairs.find?_erase_of_ne members.pairs h

/-- Members are determined by the values of their names. -/
theorem ext_get? {x y : Members} (h : ∀ name, x.get? name = y.get? name) : x = y := by
  obtain ⟨xs, hx⟩ := x
  obtain ⟨ys, hy⟩ := y
  obtain rfl : xs = ys := hx.ext hy h
  rfl

/-- The object that has these members. -/
def toValue (members : Members) : Value :=
  .object members.pairs

/-- Equality of members, with numbers compared numerically. -/
def equal (x y : Members) : Bool :=
  Value.equalMembers x.pairs y.pairs

end Members

end Manifest.Json
