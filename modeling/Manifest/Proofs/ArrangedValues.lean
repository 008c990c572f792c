import Mathlib.Data.List.Nodup
import Manifest.Json.Members

/-!
# Values with their objects in order

An object holds its members by rising name, each name once. The type of values does not say so
(`Value.Ordered` does), and what is written may have its members in any order. Reading puts them in
order, at any depth (`Value.arranged`). This makes every value ordered, and leaves the ordered ones as
they are (`Value.ordered_iff_arranged_eq`).
-/

namespace Manifest.Json

/-! ## Members of different names -/

namespace Pairs

variable {α : Type}

/-- A name that no pair has is not found. -/
theorem find?_of_notMem {name : String} {pairs : Pairs α} (h : name ∉ pairs.map (·.1)) :
    pairs.find? name = none := by
  induction pairs with
  | nil => rfl
  | cons head rest ih =>
    rw [List.map_cons] at h
    obtain ⟨hne, hrest⟩ := List.ne_and_not_mem_of_not_mem_cons h
    rw [Pairs.find?, if_neg (Ne.symm hne), ih hrest]

/-- Pairs rise if their names do. -/
theorem rising_iff {pairs : Pairs α} : pairs.Rising ↔ (pairs.map (·.1)).Pairwise (· < ·) :=
  List.pairwise_map.symm

/-- Names that rise are different. -/
theorem Rising.nodup_names {pairs : Pairs α} (h : pairs.Rising) : (pairs.map (·.1)).Nodup := by
  refine (rising_iff.1 h).imp fun hlt heq => ?_
  rw [heq] at hlt
  exact String.lt_irrefl _ hlt

end Pairs

namespace Members

/-- Members to which pairs of different names are added have what these pairs say, and for other
names what they had before. -/
theorem get?_foldl_insert {pairs : Pairs Value} (h : (pairs.map (·.1)).Nodup)
    (members : Members) (name : String) :
    (pairs.foldl (fun members (name, value) => members.insert name value) members).get? name =
      (pairs.find? name).or (members.get? name) := by
  induction pairs generalizing members with
  | nil => rfl
  | cons head rest ih =>
    obtain ⟨k, v⟩ := head
    rw [List.map_cons, List.nodup_cons] at h
    obtain ⟨hnot, hrest⟩ := h
    rw [List.foldl_cons, ih hrest, Pairs.find?]
    by_cases hk : k = name
    · subst hk
      rw [if_pos rfl, Pairs.find?_of_notMem hnot, Members.get?_insert_self]
      rfl
    · rw [if_neg hk, Members.get?_insert_of_ne _ _ hk]

/-- Members of different names are found as they are in the pairs. -/
theorem get?_ofPairs {pairs : Pairs Value} (h : (pairs.map (·.1)).Nodup) (name : String) :
    (Members.ofPairs pairs).get? name = pairs.find? name := by
  unfold Members.ofPairs
  rw [Members.get?_foldl_insert h, Members.get?_empty, Option.or_none]

/-- Pairs whose names rise are the members that they make up. -/
theorem ofPairs_of_rising {pairs : Pairs Value} (h : pairs.Rising) :
    Members.ofPairs pairs = ⟨pairs, h⟩ :=
  Members.ext_get? fun name => get?_ofPairs h.nodup_names name

/-- Each member is one of the pairs. -/
theorem mem_of_mem_ofPairs {pairs : Pairs Value} {pair : String × Value}
    (h : pair ∈ (Members.ofPairs pairs).pairs) : pair ∈ pairs := by
  have hfold : ∀ (rest : Pairs Value) (members : Members),
      pair ∈ (rest.foldl (fun members (name, value) => members.insert name value) members).pairs →
        pair ∈ rest ∨ pair ∈ members.pairs := by
    intro rest
    induction rest with
    | nil => exact fun members hmem => .inr hmem
    | cons head rest ih =>
      intro members hmem
      rcases ih _ hmem with hrest | hinsert
      · exact .inl (List.mem_cons_of_mem _ hrest)
      · rcases Pairs.mem_insert hinsert with rfl | hold
        · exact .inl List.mem_cons_self
        · exact .inr hold
  exact (hfold pairs Members.empty h).resolve_right List.not_mem_nil

end Members

namespace Value

/-! ## Ordered values -/

/-- The names of every object in the value rise, at any depth. -/
inductive Ordered : Value → Prop where
  /-- A null has no objects. -/
  | null : Ordered .null
  /-- A truth value has no objects. -/
  | bool (b : Bool) : Ordered (.bool b)
  /-- A number has no objects. -/
  | number (n : Number) : Ordered (.number n)
  /-- A text has no objects. -/
  | string (s : String) : Ordered (.string s)
  /-- The objects of a sequence are those of its items. -/
  | array {items : List Value} (hitems : ∀ v ∈ items, Ordered v) : Ordered (.array items)
  /-- The objects of an object are itself and those of its members. -/
  | object {pairs : Pairs Value} (hrising : pairs.Rising) (hpairs : ∀ pair ∈ pairs, Ordered pair.2) :
    Ordered (.object pairs)

/-! ## Arranged values -/

mutual

/-- The value with the members of every object by rising name. Of members of one name the last one
counts. -/
def arranged : Value → Value
  | array items => array (arrangedItems items)
  | object pairs => (Members.ofPairs (arrangedPairs pairs)).toValue
  | other => other

/-- Every item with its objects in order. -/
def arrangedItems : List Value → List Value
  | [] => []
  | v :: rest => v.arranged :: arrangedItems rest

/-- Every value with its objects in order. -/
def arrangedPairs : Pairs Value → Pairs Value
  | [] => []
  | (name, v) :: rest => (name, v.arranged) :: arrangedPairs rest

end

theorem arrangedItems_eq_map (items : List Value) : arrangedItems items = items.map arranged := by
  induction items with
  | nil => rfl
  | cons v rest ih => rw [arrangedItems, ih, List.map_cons]

theorem arrangedPairs_eq_map (pairs : Pairs Value) :
    arrangedPairs pairs = pairs.map fun pair => (pair.1, pair.2.arranged) := by
  induction pairs with
  | nil => rfl
  | cons pair rest ih => rw [arrangedPairs, ih, List.map_cons]

/-- Texts have no objects. -/
theorem arranged_strings (texts : List String) : (strings texts).arranged = strings texts := by
  rw [strings, arranged, arrangedItems_eq_map, List.map_map]
  rfl

/-- An object whose names rise is arranged in its values. -/
theorem arranged_object_of_rising {pairs : Pairs Value} (h : pairs.Rising) :
    (object pairs).arranged = .object (pairs.map fun pair => (pair.1, pair.2.arranged)) := by
  have hrising : Pairs.Rising (pairs.map fun pair => (pair.1, pair.2.arranged)) :=
    List.pairwise_map.2 h
  rw [arranged, arrangedPairs_eq_map, Members.ofPairs_of_rising hrising, Members.toValue]

/-- An object that parts are written into by rising name is arranged part by part. -/
theorem arranged_object_map {α : Type} (encode : α → Value) {parts : Pairs α} (h : parts.Rising) :
    (object (parts.map fun part => (part.1, encode part.2))).arranged =
      .object (parts.map fun part => (part.1, (encode part.2).arranged)) := by
  have hrising : Pairs.Rising (parts.map fun part => (part.1, encode part.2)) :=
    List.pairwise_map.2 h
  rw [arranged_object_of_rising hrising, List.map_map]
  rfl

/-- Ordered values are arranged already. -/
theorem Ordered.arranged_eq {v : Value} (h : v.Ordered) : v.arranged = v := by
  induction h with
  | null | bool | number | string => rfl
  | @array items _ ih =>
    rw [arranged, arrangedItems_eq_map, List.map_congr_left ih, List.map_id']
  | @object pairs hrising _ ih =>
    have hsame : ∀ pair ∈ pairs, (pair.1, pair.2.arranged) = pair := fun pair hpair =>
      Prod.ext rfl (ih pair hpair)
    rw [arranged_object_of_rising hrising, List.map_congr_left hsame, List.map_id']

mutual

/-- An arranged value is ordered. -/
theorem ordered_arranged : ∀ v : Value, v.arranged.Ordered
  | null => .null
  | bool b => .bool b
  | number n => .number n
  | string s => .string s
  | array items => .array (ordered_of_mem_arrangedItems items)
  | object pairs =>
    .object (Members.ofPairs (arrangedPairs pairs)).rising fun pair hpair =>
      ordered_of_mem_arrangedPairs pairs pair (Members.mem_of_mem_ofPairs hpair)

/-- Its items are. -/
theorem ordered_of_mem_arrangedItems : ∀ items : List Value, ∀ v ∈ arrangedItems items, v.Ordered
  | [] => nofun
  | v :: rest =>
    List.forall_mem_cons.2 ⟨ordered_arranged v, ordered_of_mem_arrangedItems rest⟩

/-- The values of its members are. -/
theorem ordered_of_mem_arrangedPairs : ∀ pairs : Pairs Value, ∀ pair ∈ arrangedPairs pairs,
    pair.2.Ordered
  | [] => nofun
  | (_, v) :: rest =>
    List.forall_mem_cons.2 ⟨ordered_arranged v, ordered_of_mem_arrangedPairs rest⟩

end

/-- The ordered values are those that arranging leaves as they are. -/
theorem ordered_iff_arranged_eq {v : Value} : v.Ordered ↔ v.arranged = v :=
  ⟨Ordered.arranged_eq, fun h => h ▸ v.ordered_arranged⟩

end Value

end Manifest.Json
