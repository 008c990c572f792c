import Mathlib.Data.List.Forall2
import Manifest.Record.Author
import Manifest.Record.Export
import Manifest.Record.Repository

/-!
# What decoding establishes

Reading a part succeeds exactly if each of its steps does. Here this is said step by step: of texts
and of parts that null leaves out, of lists, and of the members of an object. From it follows what
the members of an author, of publishing rules and of a repository are (`Author.ofMembers_eq_ok_iff`
and its like), so that later proofs need not take the readers apart.
-/

namespace Manifest

open Json (Pairs Value)

namespace Decode

section

variable {ε α β : Type}

/-- A sequence of steps succeeds if each of them does in turn. -/
theorem bind_eq_ok_iff {x : Except ε α} {f : α → Except ε β} {b : β} :
    (x >>= f) = .ok b ↔ ∃ a, x = .ok a ∧ f a = .ok b := by
  cases x <;> simp [bind, Except.bind]

/-- Mapping a result succeeds if there is one. -/
theorem map_eq_ok_iff {x : Except ε α} {f : α → β} {b : β} :
    x.map f = .ok b ↔ ∃ a, x = .ok a ∧ f a = b := by
  cases x <;> simp [Except.map]

/-- Mapping an error changes no result. -/
theorem mapError_eq_ok_iff {δ : Type} {x : Except ε α} {f : ε → δ} {a : α} :
    x.mapError f = .ok a ↔ x = .ok a := by
  cases x <;> simp [Except.mapError]

/-- A result that is returned is that one. -/
theorem pure_eq_ok_iff {a b : α} : (pure a : Except ε α) = .ok b ↔ a = b := by
  simp [pure, Except.pure]

end

variable {α : Type} {part : Value → Decoded α}

/-! ## Values and lists of them -/

/-- Only strings are read as texts. -/
theorem text_eq_ok_iff {v : Value} {s : String} : text v = .ok s ↔ v = .string s := by
  cases v <;> simp [text]

/-- A text that may be left out is read from a string, and none from null. -/
theorem optional_text_eq_ok_iff {v : Value} {o : Option String} :
    optional text v = .ok o ↔ v = (o.map Value.string).getD .null := by
  cases v <;> cases o <;> simp [optional, text, Except.map]

/-- A list is read if each of its items is, and gives what these give. -/
theorem each_eq_ok_iff {vs : List Value} {xs : List α} :
    each part vs = .ok xs ↔ List.Forall₂ (fun v x => part v = .ok x) vs xs := by
  induction vs generalizing xs with
  | nil => simp [each, eq_comm]
  | cons v rest ih =>
    rw [each]
    cases hv : part v with
    | error e =>
      simp only [List.forall₂_cons_left_iff, hv]
      simp
    | ok x =>
      simp only [List.forall₂_cons_left_iff, map_eq_ok_iff, ih, hv, Except.ok.injEq]
      constructor
      · rintro ⟨ys, hys, rfl⟩
        exact ⟨x, ys, rfl, hys, rfl⟩
      · rintro ⟨y, ys, rfl, hys, rfl⟩
        exact ⟨ys, hys, rfl⟩

/-- What a list gives is what some item of it gives. -/
theorem mem_each_iff {vs : List Value} {xs : List α}
    (h : List.Forall₂ (fun v x => part v = .ok x) vs xs) {x : α} :
    x ∈ xs ↔ ∃ v ∈ vs, part v = .ok x := by
  induction h with
  | nil => simp
  | cons hv _ ih => simp [ih, hv, eq_comm]

/-- Only a list is read as a sequence. -/
theorem sequence_eq_ok_iff {v : Value} {xs : List α} :
    sequence part v = .ok xs ↔ ∃ items, v = .array items ∧ each part items = .ok xs := by
  cases v <;> simp [sequence]

/-! ## Members of objects -/

section

variable {check : String → Value → Option Mismatch} {members : Pairs Value} {name : String}
  {absent x : α}

/-- Nothing is reported if no member is found fault with. -/
theorem checked_eq_ok_iff {u : Unit} :
    checked check members = .ok u ↔ ∀ pair ∈ members, check pair.1 pair.2 = none := by
  unfold checked
  split
  case h_1 e he =>
    refine iff_of_false (by simp) fun hall => ?_
    rw [List.findSome?_eq_none_iff.2 hall] at he
    exact absurd he (by simp)
  case h_2 hnone => exact iff_of_true rfl (List.findSome?_eq_none_iff.1 hnone)

/-- A member without a default has to be there. -/
theorem required_eq_ok_iff :
    required name part members = .ok x ↔ ∃ v, members.find? name = some v ∧ part v = .ok x := by
  unfold required
  cases members.find? name <;> simp

/-- A member with a default may be absent. -/
theorem defaulted_eq_ok_iff :
    defaulted name absent part members = .ok x ↔
      (members.find? name = none ∧ x = absent) ∨
        ∃ v, members.find? name = some v ∧ part v = .ok x := by
  unfold defaulted
  cases members.find? name <;> simp [eq_comm]

/-- A value fits if it can be read. -/
theorem mismatch?_eq_none_iff {outcome : Decoded α} :
    mismatch? outcome = none ↔ ∃ y, outcome = .ok y := by
  cases outcome <;> simp [mismatch?]

end

end Decode

/-! ## Parts of a record -/

/-- An author is read from members of the right types, among which there is a name. -/
theorem Author.ofMembers_eq_ok_iff {members : Pairs Value} {author : Author} :
    ofMembers members = .ok author ↔
      (∀ pair ∈ members, check pair.1 pair.2 = none) ∧
        Decode.required "name" Decode.text members = .ok author.name ∧
        Decode.defaulted "email" none (Decode.optional Decode.text) members = .ok author.email ∧
        Decode.defaulted "url" none (Decode.optional Decode.text) members = .ok author.url ∧
        Decode.defaulted "maintainer" false Decode.flag members = .ok author.maintainer := by
  obtain ⟨name, email, url, maintainer⟩ := author
  simp only [ofMembers, Decode.bind_eq_ok_iff, Decode.pure_eq_ok_iff, Decode.checked_eq_ok_iff,
    Author.mk.injEq]
  constructor
  · rintro ⟨-, hcheck, n, hname, e, hemail, u, hurl, m, hmaintainer, rfl, rfl, rfl, rfl⟩
    exact ⟨hcheck, hname, hemail, hurl, hmaintainer⟩
  · rintro ⟨hcheck, hname, hemail, hurl, hmaintainer⟩
    exact ⟨(), hcheck, name, hname, email, hemail, url, hurl, maintainer, hmaintainer, rfl, rfl,
      rfl, rfl⟩

/-- A repository is read from members of the right types, among which there is an address. -/
theorem Repository.ofMembers_eq_ok_iff {members : Pairs Value} {source : Repository} :
    ofMembers members = .ok source ↔
      (∀ pair ∈ members, check pair.1 pair.2 = none) ∧
        Decode.required "url" Decode.text members = .ok source.url ∧
        Decode.defaulted "type" none (Decode.optional Decode.text) members = .ok source.type ∧
        Decode.defaulted "branch" none (Decode.optional Decode.text) members =
          .ok source.branch := by
  obtain ⟨url, type, branch⟩ := source
  simp only [ofMembers, Decode.bind_eq_ok_iff, Decode.pure_eq_ok_iff, Decode.checked_eq_ok_iff,
    Repository.mk.injEq]
  constructor
  · rintro ⟨-, hcheck, u, hurl, t, htype, b, hbranch, rfl, rfl, rfl⟩
    exact ⟨hcheck, hurl, htype, hbranch⟩
  · rintro ⟨hcheck, hurl, htype, hbranch⟩
    exact ⟨(), hcheck, url, hurl, type, htype, branch, hbranch, rfl, rfl, rfl⟩

/-- Publishing rules are read from members of the right types. -/
theorem Export.ofMembers_eq_ok_iff {members : Pairs Value} {rules : Export} :
    ofMembers members = .ok rules ↔
      (∀ pair ∈ members, check pair.1 pair.2 = none) ∧
        Decode.defaulted "include" none rule members = .ok rules.included ∧
        Decode.defaulted "exclude" none rule members = .ok rules.excluded := by
  obtain ⟨included, excluded⟩ := rules
  simp only [ofMembers, Decode.bind_eq_ok_iff, Decode.pure_eq_ok_iff, Decode.checked_eq_ok_iff,
    Export.mk.injEq]
  constructor
  · rintro ⟨-, hcheck, i, hincluded, e, hexcluded, rfl, rfl⟩
    exact ⟨hcheck, hincluded, hexcluded⟩
  · rintro ⟨hcheck, hincluded, hexcluded⟩
    exact ⟨(), hcheck, included, hincluded, excluded, hexcluded, rfl, rfl⟩

end Manifest
