import Manifest.Load
import Manifest.Proofs.FormerNames
import Manifest.Proofs.OrderedValues

/-!
# Documents of the JSON formats

What a module and a platform make of a document, name by name. Almost all of it goes by the values
that are given (`Format.Module.get?_ofDocument_congr`, `Format.Platform.alike_nameFrameworks`). The
authors of a module are looked at more closely, where a null is not an absent member
(`Format.Module.get?_ofDocument_authors`).

A text that denotes an object is loaded by validating what its format makes of the members
(`load_of_read`).
-/

namespace Manifest

open Json (Members Pairs Value)

namespace Json.Members

/-- What is made of a member is made of the value that is given, if nothing is made of null. -/
theorem get?_bind {α : Type} {f : Value → Option α} (h : f .null = none) (members : Members)
    (name : String) : (members.get? name).bind f = (members.given? name).bind f := by
  unfold given?
  cases members.get? name with
  | none => rfl
  | some v =>
    by_cases hnull : v = .null
    · subst hnull
      exact h
    · rw [Value.filter_some_of_ne_null hnull]

/-- Members that are set one after the other have their values, and no other ones change. -/
theorem get?_foldl_insertSome (names : List String) (value : String → Option Value)
    (members : Members) (name : String) :
    (names.foldl (fun members name => members.insertSome name (value name)) members).get? name =
      if name ∈ names then (value name).or (members.get? name) else members.get? name := by
  induction names generalizing members with
  | nil => rfl
  | cons first rest ih =>
    rw [List.foldl_cons, ih, get?_insertSome]
    by_cases hfirst : name = first
    · subst hfirst
      rw [if_pos rfl, if_pos List.mem_cons_self]
      split_ifs
      · cases value name <;> rfl
      · rfl
    · rw [if_neg hfirst]
      simp [hfirst]

/-- Members that an object was written from are its members. -/
theorem ofPairs_pairs (members : Members) : ofPairs members.pairs = members := by
  refine ext_get? fun name => ?_
  rw [get?_ofPairs members.rising.nodup_names]
  rfl

end Json.Members

/-! ## Modules -/

namespace Format.Module

/-- What is taken over is given in the document. -/
theorem get?_taken (document : Members) (name : String) :
    (taken document).get? name = if name ∈ takenOver then document.given? name else none := by
  have hempty : Members.empty.get? name = none := rfl
  have hfold := Members.get?_foldl_insertSome takenOver document.given? Members.empty name
  rw [hempty, Option.or_none] at hfold
  exact hfold

/-- The fields that are taken over are those that are given. -/
theorem taken_congr {x y : Members} (h : x.Alike y) : taken x = taken y := by
  refine Members.ext_get? fun name => ?_
  rw [get?_taken, get?_taken, h name]

/-- The licence goes by what is given. -/
theorem withLicense_congr {x y : Members} (h : x.Alike y) (fields : Members) :
    withLicense x fields = withLicense y fields := by
  unfold withLicense
  rw [Members.get?_bind rfl x, Members.get?_bind rfl y, h]

/-- The licence of a list changes no other fields. -/
theorem get?_withLicense_of_ne {name : String} (h : name ≠ "license") (document fields : Members) :
    (withLicense document fields).get? name = fields.get? name := by
  unfold withLicense
  split
  · rfl
  · exact Members.get?_insertSome_of_ne _ _ (Ne.symm h)

/-- The authors are those that the document names. -/
theorem get?_ofDocument_authors (document : Members) :
    (ofDocument document).get? "authors" = (authorMember? document).bind authors? := by
  have hnone : (withLicense document (taken document)).get? "authors" = none := by
    rw [get?_withLicense_of_ne (by decide), get?_taken, if_neg (by decide)]
  -- The members that are set behind the authors have other names.
  unfold ofDocument withDefaults
  rw [Members.get?_insertNew, if_neg (by decide), Members.get?_insertNew, if_neg (by decide),
    Members.get?_insertNew, if_neg (by decide), Members.get?_insertSome_self _ _ _ hnone]

/-- Fields other than the authors do not go by the authors of the document. -/
theorem get?_ofDocument_of_ne {name : String} (h : name ≠ "authors") (document : Members) :
    (ofDocument document).get? name =
      (withDefaults (withLicense document (taken document))).get? name := by
  unfold ofDocument withDefaults
  simp only [Members.get?_insertNew, Members.get?_insertSome_of_ne _ _ (Ne.symm h),
    Members.get?_insertSome_of_ne _ _ (show "authors" ≠ "platforms" by decide),
    Members.get?_insertSome_of_ne _ _ (show "authors" ≠ "frameworks" by decide),
    Members.get?_insertSome_of_ne _ _ (show "authors" ≠ "export" by decide)]

/-- Fields other than the authors go by what is given. -/
theorem get?_ofDocument_congr {x y : Members} (h : x.Alike y) {name : String}
    (hname : name ≠ "authors") : (ofDocument x).get? name = (ofDocument y).get? name := by
  rw [get?_ofDocument_of_ne hname, get?_ofDocument_of_ne hname, taken_congr h, withLicense_congr h]

end Format.Module

/-! ## Platforms -/

namespace Format.Platform

/-- Frameworks as a list of names, where they are an object. -/
def named : Value → Value
  | .object frameworks => Value.strings (frameworks.map fun (name, _) => Text.lower name)
  | v => v

/-- Naming the frameworks changes no other members. -/
theorem get?_nameFrameworks (document : Members) (name : String) :
    (nameFrameworks document).get? name =
      if name = "frameworks" then (document.get? "frameworks").map named
      else document.get? name := by
  unfold nameFrameworks
  split
  case h_1 frameworks hget =>
    split_ifs with hname
    · rw [hname, Members.get?_insert_self, hget]
      rfl
    · rw [Members.get?_insert_of_ne _ _ (Ne.symm hname)]
  case h_2 hother =>
    split_ifs with hname
    · subst hname
      cases hget : document.get? "frameworks" with
      | none => rfl
      | some v =>
        cases v with
        | object frameworks => exact absurd hget (hother frameworks)
        | _ => rfl
    · rfl

/-- Naming the frameworks makes no difference between members that give the same values. -/
theorem alike_nameFrameworks {x y : Members} (h : x.Alike y) :
    (nameFrameworks x).Alike (nameFrameworks y) := by
  -- A null stays null, and nothing else becomes null.
  have hgiven : ∀ document : Members, (nameFrameworks document).given? "frameworks" =
      (document.given? "frameworks").map named := by
    intro document
    unfold Members.given?
    rw [get?_nameFrameworks, if_pos rfl]
    cases document.get? "frameworks" with
    | none => rfl
    | some v => cases v <;> rfl
  intro name
  by_cases hname : name = "frameworks"
  · rw [hname, hgiven, hgiven, h]
  · have hsame : ∀ document : Members,
        (nameFrameworks document).given? name = document.given? name :=
      fun document => Members.given?_congr (by rw [get?_nameFrameworks, if_neg hname])
    rw [hsame, hsame, h]

end Format.Platform

/-! ## Parsing -/

namespace Format

/-- The fields of a JSON document of a kind, before they are brought into their normal form. -/
def fieldsOf (document : Members) : Kind → Members
  | .libraryJson => Library.folded document
  | .moduleJson => Module.ofDocument document
  | .libraryProperties => document
  | .platformJson => Platform.nameFrameworks (rename "url" "homepage" document)
  | .packageJson => rename "url" "homepage" document

/-- The members of a text that denotes an object. -/
theorem members_of_read {contents : String} {document : Members}
    (h : Json.read contents = .ok document.toValue) (kind : Kind) :
    members kind contents = .ok document := by
  unfold members
  rw [h]
  exact congrArg Except.ok (Members.ofPairs_pairs document)

end Format

/-- A document of a JSON format is parsed by bringing its fields into their normal form. -/
theorem parseAs_of_read {kind : Kind} (hkind : kind ≠ .libraryProperties) {contents : String}
    {document : Members} (h : Json.read contents = .ok document.toValue)
    (address : Option String) :
    parseAs kind contents address = .ok (Normal.fields (Format.fieldsOf document kind)) := by
  have hmembers := Format.members_of_read h
  cases kind with
  | libraryProperties => exact absurd rfl hkind
  | libraryJson =>
    exact congrArg (Except.map fun d => Normal.fields (Format.Library.folded d)) (hmembers _)
  | moduleJson =>
    exact congrArg (Except.map fun d => Normal.fields (Format.Module.ofDocument d)) (hmembers _)
  | platformJson =>
    exact congrArg (Except.map fun d =>
      Normal.fields (Format.Platform.nameFrameworks (Format.rename "url" "homepage" d))) (hmembers _)
  | packageJson =>
    exact congrArg (Except.map fun d => Normal.fields (Format.rename "url" "homepage" d)) (hmembers _)

/-- So it is if its kind is declared. -/
theorem parse_of_read {declared : String} {kind : Kind}
    (hdeclared : Kind.ofDeclared? declared = some kind) (hkind : kind ≠ .libraryProperties)
    {contents : String} {document : Members} (h : Json.read contents = .ok document.toValue)
    (address : Option String) :
    parse contents declared address = .ok (Normal.fields (Format.fieldsOf document kind)) := by
  unfold parse
  rw [hdeclared]
  exact parseAs_of_read hkind h address

/-- A document of a JSON format is loaded by validating its fields. -/
theorem load_of_read {declared : String} {kind : Kind}
    (hdeclared : Kind.ofDeclared? declared = some kind) (hkind : kind ≠ .libraryProperties)
    {contents : String} {document : Members} (h : Json.read contents = .ok document.toValue)
    (address : Option String) (mode : Mode) :
    load contents declared address mode =
      (validate (Normal.fields (Format.fieldsOf document kind)) mode).mapError Failure.field :=
  load_of_parse_ok mode (parse_of_read hdeclared hkind h address)

end Manifest
