import Manifest.Proofs.NullMembers

/-!
# Top-level publishing rules

In former libraries the publishing rules stand at the top level. A rule there is the same as one
among the publishing rules: moving what is given there, unless a rule of its name is given already,
makes no difference to what a document is parsed to, as long as no null hides a rule
(`parse_moveRules`). A null in place of all publishing rules takes no rule from the top level, and a
null among them takes none of its name.

Moving (`moveRule`) and parsing (`foldRule`) go through the names of rules one after the other. For
both, a lemma says which rules are there after one step, and `foldl_or` takes it to all steps.
-/

namespace Manifest

open Json (Members Pairs Value)

namespace Format.Library

/-- The rules that stand at the top level in former documents. -/
def ruleNames : List String :=
  ["include", "exclude"]

/-- The publishing rules, none if they are not an object. -/
def rulesOf (members : Members) : Pairs Value :=
  match members.get? "export" with
  | some (.object rules) => rules
  | _ => []

/-- The rule that is given among the publishing rules. -/
def rule? (members : Members) (name : String) : Option Value :=
  ((rulesOf members).find? name).filter fun v => !v.isNull

/-- Moves a rule that is given at the top level to the publishing rules, or removes it if a rule of
this name is given there. -/
def moveRule (document : Members) (name : String) : Members :=
  match document.given? name with
  | none => document
  | some rule =>
    let others := document.erase name
    if (rule? document name).isSome then others
    else others.insert "export" (.object (Pairs.insert name rule (rulesOf document)))

/-- Moves the rules that are given at the top level. -/
def moveRules (document : Members) : Members :=
  ruleNames.foldl moveRule document

/-- A null hides a rule that is given at the top level: it stands in place of the publishing rules, or
of their rule of this name. -/
def Hidden (document : Members) (name : String) : Prop :=
  document.given? name ≠ none ∧
    (document.get? "export" = some .null ∨ (rulesOf document).find? name = some .null)

variable {fields document : Members} {name other : String} {names : List String}

/-- No rule is called as the publishing rules are. -/
theorem ne_export_of_mem (h : name ∈ ruleNames) : name ≠ "export" := by
  rintro rfl
  exact absurd h (by decide)

/-! ## Rules among the publishing rules -/

/-- The publishing rules go by one member. -/
theorem rulesOf_congr {x y : Members} (h : x.get? "export" = y.get? "export") :
    rulesOf x = rulesOf y := by
  unfold rulesOf
  rw [h]

/-- An object has the publishing rules that are written in it. -/
theorem rulesOf_of_object {rules : Pairs Value} (h : fields.get? "export" = some (.object rules)) :
    rulesOf fields = rules := by
  rw [rulesOf, h]

/-- Where a publishing rule is found, the publishing rules are an object. -/
theorem get?_export_of_find? (h : (rulesOf fields).find? name ≠ none) :
    fields.get? "export" = some (.object (rulesOf fields)) := by
  unfold rulesOf at h ⊢
  split at h
  case h_1 rules hget => rw [hget]
  case h_2 => exact absurd rfl h

/-- So they are where a publishing rule is given. -/
theorem get?_export_of_rule? (h : rule? fields name ≠ none) :
    fields.get? "export" = some (.object (rulesOf fields)) := by
  have hfound : (rulesOf fields).find? name ≠ none := by
    intro hnone
    rw [rule?, hnone] at h
    exact h rfl
  exact get?_export_of_find? hfound

/-- The publishing rules of a document are in order. -/
theorem rising_rulesOf {contents : String} (h : Json.read contents = .ok document.toValue) :
    (rulesOf document).Rising := by
  unfold rulesOf
  split
  case h_1 rules hget =>
    cases Format.ordered_of_members (Format.members_of_read h .libraryJson) hget with
    | object hrising _ => exact hrising
  case h_2 => exact List.Pairwise.nil

/-- The normal form of the publishing rules has those that are given, in their normal form. -/
theorem find?_rulesOf_fields (h : (rulesOf fields).Rising) (name : String) :
    (rulesOf (Normal.fields fields)).find? name = (rule? fields name).map Normal.exportRule := by
  have hget : (Normal.fields fields).get? "export" =
      (fields.get? "export").bind Normal.exportRules :=
    Normal.get?_fields fields "export"
  unfold rule? rulesOf at *
  rw [hget]
  -- What is not an object has no rules, and its normal form is none either.
  cases hrules : fields.get? "export" with
  | none => rfl
  | some v =>
    rw [hrules] at h
    cases v with
    | object rules =>
      rw [Option.bind_some, Normal.exportRules_object]
      dsimp only at h ⊢
      rw [Normal.exportMembers, Pairs.find?_mapValues, h.find?_filter]
    | _ => rfl

/-- If each step adds what is given under its name, unless something was found before, then all steps
together add what is given under any of their names. -/
theorem foldl_or {step : Members → String → Members} (found : Members → Option Value)
    {given : Members → String → Option Value} (Inv : Members → Prop) (hnodup : names.Nodup)
    (hinv : ∀ x, Inv x → ∀ name ∈ names, Inv (step x name))
    (hfound : ∀ x, Inv x → ∀ name ∈ names,
      found (step x name) = (found x).or (if other = name then given x name else none))
    (hgiven : ∀ x, ∀ name ∈ names, other ∈ names → other ≠ name →
      given (step x name) other = given x other)
    (h : Inv fields) :
    found (names.foldl step fields) =
      (found fields).or (if other ∈ names then given fields other else none) := by
  induction names generalizing fields with
  | nil => exact (Option.or_none).symm
  | cons first rest ih =>
    obtain ⟨hfirst, hnodup⟩ := List.nodup_cons.1 hnodup
    have hmem : ∀ {name}, name ∈ rest → name ∈ first :: rest := List.mem_cons_of_mem first
    rw [List.foldl_cons, ih hnodup (fun x hx name hname => hinv x hx name (hmem hname))
      (fun x hx name hname => hfound x hx name (hmem hname))
      (fun x name hname hother => hgiven x name (hmem hname) (hmem hother))
      (hinv fields h first List.mem_cons_self), hfound fields h first List.mem_cons_self]
    -- What is added under a name is added by one step only, and before it, it is not touched.
    by_cases heq : other = first
    · subst heq
      rw [if_neg hfirst, if_pos rfl, if_pos List.mem_cons_self, Option.or_none]
    · rw [if_neg heq, Option.or_none]
      by_cases hrest : other ∈ rest
      · rw [if_pos hrest, if_pos (hmem hrest),
          hgiven fields first List.mem_cons_self (hmem hrest) heq]
      · rw [if_neg hrest, if_neg (by simp [heq, hrest])]

/-! ## Moving rules -/

/-- Moving a rule changes nothing but the rule and the publishing rules. -/
theorem get?_moveRule_of_ne (document : Members) (hname : other ≠ name) (hrules : other ≠ "export") :
    (moveRule document name).get? other = document.get? other := by
  have hothers := Members.get?_erase_of_ne document (Ne.symm hname)
  unfold moveRule
  split
  · rfl
  · dsimp only
    split
    · exact hothers
    · rw [Members.get?_insert_of_ne _ _ (Ne.symm hrules), hothers]

/-- A rule that was moved is not given at the top level. -/
theorem given?_moveRule_self (document : Members) (hname : name ≠ "export") :
    (moveRule document name).given? name = none := by
  unfold moveRule
  split
  · assumption
  · dsimp only
    split
    · exact Members.given?_erase_self document name
    · rw [Members.given?_insert_of_ne _ _ (Ne.symm hname), Members.given?_erase_self]

/-- The publishing rules take the rule if none of its name is given. -/
theorem rulesOf_moveRule (document : Members) (hname : name ≠ "export") :
    rulesOf (moveRule document name) =
      match document.given? name with
      | none => rulesOf document
      | some rule =>
        if (rule? document name).isSome then rulesOf document
        else Pairs.insert name rule (rulesOf document) := by
  unfold moveRule
  cases document.given? name with
  | none => rfl
  | some rule =>
    dsimp only
    split
    · exact rulesOf_congr (Members.get?_erase_of_ne document hname)
    · exact rulesOf_of_object (Members.get?_insert_self _ _ _)

/-- Moving a rule keeps the publishing rules in order. -/
theorem rising_rulesOf_moveRule (hname : name ≠ "export") (h : (rulesOf document).Rising) :
    (rulesOf (moveRule document name)).Rising := by
  rw [rulesOf_moveRule document hname]
  split
  · exact h
  · split
    · exact h
    · exact h.insert

/-- After moving a rule it is given among the publishing rules, unless one of its name is. -/
theorem rule?_moveRule (document : Members) (hname : name ≠ "export") (other : String) :
    rule? (moveRule document name) other =
      (rule? document other).or (if other = name then document.given? name else none) := by
  have hmoved := rulesOf_moveRule document hname
  cases hgiven : document.given? name with
  | none =>
    rw [hgiven] at hmoved
    unfold rule?
    rw [hmoved, ite_self, Option.or_none]
  | some rule =>
    rw [hgiven] at hmoved
    dsimp only at hmoved
    -- A rule that is given stays, and what is replaced is at most a null.
    by_cases hown : (rule? document name).isSome
    · rw [if_pos hown] at hmoved
      have hsame : rule? (moveRule document name) other = rule? document other := by
        unfold rule?
        rw [hmoved]
      rw [hsame]
      split_ifs with heq
      · obtain ⟨own, hsome⟩ := Option.isSome_iff_exists.1 hown
        rw [heq, hsome, Option.some_or]
      · rw [Option.or_none]
    · rw [if_neg hown] at hmoved
      split_ifs with heq
      · have hnull : rule ≠ .null := (Members.given?_eq_some_iff.1 hgiven).2
        rw [heq, Option.not_isSome_iff_eq_none.1 hown, Option.none_or, rule?, hmoved,
          Pairs.find?_insert_self, Value.filter_some_of_ne_null hnull]
      · rw [rule?, hmoved, Pairs.find?_insert_of_ne _ _ (Ne.symm heq), Option.or_none]
        rfl

/-- Moving rules changes nothing but these and the publishing rules. -/
theorem get?_foldl_moveRule_of_notMem (h : other ∉ names) (hrules : other ≠ "export")
    (document : Members) : (names.foldl moveRule document).get? other = document.get? other := by
  induction names generalizing document with
  | nil => rfl
  | cons first rest ih =>
    obtain ⟨hfirst, hrest⟩ := List.ne_and_not_mem_of_not_mem_cons h
    rw [List.foldl_cons, ih hrest, get?_moveRule_of_ne _ hfirst hrules]

/-- Moving rules keeps the publishing rules in order. -/
theorem rising_rulesOf_moveRules (h : (rulesOf document).Rising) :
    (rulesOf (moveRules document)).Rising :=
  List.foldlRecOn (motive := fun x => (rulesOf x).Rising) ruleNames moveRule h
    fun _ hrising _ hmem => rising_rulesOf_moveRule (ne_export_of_mem hmem) hrising

/-- Rules that were moved are given among the publishing rules, unless rules of their names are. -/
theorem rule?_moveRules (document : Members) (name : String) :
    rule? (moveRules document) name =
      (rule? document name).or (if name ∈ ruleNames then document.given? name else none) :=
  foldl_or (rule? · name) (fun _ => True) (by decide)
    (fun _ _ _ _ => trivial)
    (fun x _ first hmem => rule?_moveRule x (ne_export_of_mem hmem) name)
    (fun x first _ hmem hne =>
      Members.given?_congr (get?_moveRule_of_ne x hne (ne_export_of_mem hmem))) trivial

/-- After a rule was moved, a rule of its name is given among the publishing rules. -/
theorem rule?_moveRules_ne_none (hmem : name ∈ ruleNames) (h : document.given? name ≠ none) :
    rule? (moveRules document) name ≠ none := by
  rw [rule?_moveRules, if_pos hmem]
  exact fun hnone => h (Option.or_eq_none_iff.1 hnone).2

/-- Where no rules are given at the top level, none are moved. -/
theorem foldl_moveRule_of_none (h : ∀ name ∈ names, document.given? name = none) :
    names.foldl moveRule document = document := by
  induction names with
  | nil => rfl
  | cons first rest ih =>
    obtain ⟨hfirst, hrest⟩ := List.forall_mem_cons.1 h
    have hkept : moveRule document first = document := by rw [moveRule, hfirst]
    rw [List.foldl_cons, hkept, ih hrest]

/-- Rules that were moved are not given at the top level. -/
theorem given?_foldl_moveRule_of_mem (hnodup : names.Nodup) (hrules : "export" ∉ names)
    (hmem : name ∈ names) (document : Members) :
    (names.foldl moveRule document).given? name = none := by
  induction names generalizing document with
  | nil => exact absurd hmem List.not_mem_nil
  | cons first rest ih =>
    obtain ⟨hfirst, hnodup⟩ := List.nodup_cons.1 hnodup
    obtain ⟨hname, hrest⟩ := List.ne_and_not_mem_of_not_mem_cons hrules
    rcases List.mem_cons.1 hmem with rfl | hmem
    · rw [List.foldl_cons, Members.given?_congr (get?_foldl_moveRule_of_notMem hfirst
        (Ne.symm hname) _), given?_moveRule_self _ (Ne.symm hname)]
    · exact ih hnodup hrest hmem _

/-! ## Parsing rules -/

/-- The publishing rules are an object, if there are any. -/
def PlainRules (fields : Members) : Prop :=
  fields.get? "export" = none ∨ ∃ rules, fields.get? "export" = some (.object rules)

/-- Parsing a rule leaves the publishing rules an object. -/
theorem PlainRules.foldRule (h : PlainRules fields) (hname : name ≠ "export") :
    PlainRules (foldRule fields name) := by
  unfold PlainRules
  rw [get?_foldRule_export fields hname]
  cases fields.get? name with
  | none => exact h
  | some rule =>
    right
    rcases h with hnone | ⟨rules, hobject⟩
    · exact ⟨_, congrArg (addRule name (some rule)) hnone⟩
    · exact ⟨_, congrArg (addRule name (some rule)) hobject⟩

/-- Parsing a rule adds it to the publishing rules, unless they have one of its name, if only a
null. -/
theorem find?_rulesOf_foldRule (h : PlainRules fields) (hname : name ≠ "export") (other : String) :
    (rulesOf (foldRule fields name)).find? other =
      ((rulesOf fields).find? other).or (if other = name then fields.get? name else none) := by
  have hget := get?_foldRule_export fields hname
  cases hrule : fields.get? name with
  | none =>
    rw [hrule] at hget
    rw [rulesOf_congr hget, ite_self, Option.or_none]
  | some rule =>
    rw [hrule] at hget
    rcases h with hnone | ⟨rules, hobject⟩
    · rw [hnone] at hget
      have hadded : rulesOf (foldRule fields name) = [(name, rule)] := rulesOf_of_object hget
      have hempty : rulesOf fields = [] := by rw [rulesOf, hnone]
      rw [hadded, hempty]
      by_cases heq : other = name
      · simp [Pairs.find?, heq]
      · simp [Pairs.find?, heq, Ne.symm heq]
    · rw [hobject] at hget
      have hadded : rulesOf (foldRule fields name) = Pairs.insertNew name rule rules :=
        rulesOf_of_object hget
      rw [hadded, rulesOf_of_object hobject]
      split_ifs with heq
      · rw [heq, Pairs.find?_insertNew_self]
        cases Pairs.find? name rules <;> rfl
      · rw [Pairs.find?_insertNew_of_ne _ _ (Ne.symm heq), Option.or_none]

/-- Parsing a rule keeps the publishing rules in order. -/
theorem rising_rulesOf_foldRule (h : (rulesOf fields).Rising) (hname : name ≠ "export") :
    (rulesOf (foldRule fields name)).Rising := by
  have hget := get?_foldRule_export fields hname
  have hrising : ∀ pairs, fields.get? "export" = some (.object pairs) → Pairs.Rising pairs := by
    intro pairs hpairs
    rwa [rulesOf, hpairs] at h
  unfold rulesOf
  split
  case h_1 rules hrules => exact rising_of_addRule hrising (hget.symm.trans hrules)
  case h_2 => exact List.Pairwise.nil

/-! ## The rules of a document -/

/-- Moving the page leaves the publishing rules alone. -/
theorem rulesOf_foldUrl (document : Members) : rulesOf (foldUrl document) = rulesOf document :=
  rulesOf_congr (get?_foldUrl_of_ne (by decide) (by decide) document)

/-- Parsing keeps the publishing rules of a document in order. -/
theorem rising_rulesOf_folded (h : (rulesOf document).Rising) :
    (rulesOf (folded document)).Rising := by
  rw [← rulesOf_foldUrl] at h
  exact List.foldlRecOn (motive := fun x => (rulesOf x).Rising) ruleNames foldRule h
    fun _ hrising _ hmem => rising_rulesOf_foldRule hrising (ne_export_of_mem hmem)

/-- Parsing adds the top-level rules of a document to its publishing rules, unless these have rules of
their names, if only nulls. -/
theorem find?_rulesOf_folded (h : PlainRules document) (name : String) :
    (rulesOf (folded document)).find? name =
      ((rulesOf document).find? name).or
        (if name ∈ ruleNames then document.get? name else none) := by
  have hplain : PlainRules (foldUrl document) := by
    unfold PlainRules
    rwa [get?_foldUrl_of_ne (by decide) (by decide)]
  have hfolded : (rulesOf (folded document)).find? name =
      ((rulesOf (foldUrl document)).find? name).or
        (if name ∈ ruleNames then (foldUrl document).get? name else none) :=
    foldl_or (fun x => (rulesOf x).find? name) PlainRules (by decide)
      (fun x hx first hmem => hx.foldRule (ne_export_of_mem hmem))
      (fun x hx first hmem => find?_rulesOf_foldRule hx (ne_export_of_mem hmem) name)
      (fun x first _ hmem hne => get?_foldRule_of_ne x hne (ne_export_of_mem hmem)) hplain
  rw [hfolded, rulesOf_foldUrl]
  split_ifs with hmem
  · have hne : name ≠ "url" ∧ name ≠ "homepage" := by
      constructor <;> rintro rfl <;> exact absurd hmem (by decide)
    rw [get?_foldUrl_of_ne hne.1 hne.2]
  · rfl

/-- A rule is given to a library if it is given among the publishing rules or at the top level, as long
as it is not hidden. -/
theorem rule?_folded (h : PlainRules document) (hopen : name ∈ ruleNames → ¬ Hidden document name) :
    rule? (folded document) name =
      (rule? document name).or (if name ∈ ruleNames then document.given? name else none) := by
  unfold rule?
  rw [find?_rulesOf_folded h]
  cases hfind : (rulesOf document).find? name with
  | none => split_ifs <;> rfl
  | some v =>
    by_cases hnull : v = .null
    · -- The null keeps a top-level rule away, so there must be none.
      subst hnull
      have hnone : (if name ∈ ruleNames then document.given? name else none) = none := by
        split_ifs with hmem
        · by_contra hgiven
          exact hopen hmem ⟨hgiven, .inr hfind⟩
        · rfl
      rw [hnone]
      rfl
    · rw [Option.some_or, Value.filter_some_of_ne_null hnull, Option.some_or]

/-- A hidden rule is not given to a library. -/
theorem Hidden.rule?_folded (h : Hidden document name) : rule? (folded document) name = none := by
  obtain ⟨-, hnull | hnull⟩ := h
  · have hexport : (folded document).get? "export" = some .null := by
      rw [get?_folded_export, hnull, addRule_of_null, addRule_of_null]
    rw [rule?, rulesOf, hexport]
    rfl
  · have hplain : PlainRules document :=
      .inr ⟨_, get?_export_of_find? (hnull.trans_ne (Option.some_ne_none _))⟩
    rw [rule?, find?_rulesOf_folded hplain, hnull]
    rfl

/-- After rules were moved, those that are given to a library are those among the publishing rules. -/
theorem rule?_folded_moveRules (h : PlainRules (moveRules document)) (name : String) :
    rule? (folded (moveRules document)) name = rule? (moveRules document) name := by
  have hgone : ∀ {other}, other ∈ ruleNames → (moveRules document).given? other = none :=
    fun hmem => given?_foldl_moveRule_of_mem (by decide) (by decide) hmem document
  rw [rule?_folded h fun hmem hidden => hidden.1 (hgone hmem)]
  split_ifs with hmem
  · rw [hgone hmem, Option.or_none]
  · rw [Option.or_none]

/-- Moving rules changes no fields but the publishing rules. -/
theorem get?_folded_moveRules (hname : name ≠ "export") (document : Members) :
    (folded document).get? name = (folded (moveRules document)).get? name := by
  by_cases hformer : name = "include" ∨ name = "exclude"
  · exact (get?_folded_of_former (.inr hformer) _).trans
      (get?_folded_of_former (.inr hformer) _).symm
  obtain ⟨hinclude, hexclude⟩ := not_or.1 hformer
  have hmoved : ∀ key, key ∉ ruleNames → key ≠ "export" →
      document.get? key = (moveRules document).get? key := fun key hkey hrules =>
    (get?_foldl_moveRule_of_notMem hkey hrules document).symm
  rw [get?_folded_of_ne hname hinclude hexclude, get?_folded_of_ne hname hinclude hexclude]
  refine get?_foldUrl_congr ?_ (hmoved name (by simp [ruleNames, hinclude, hexclude]) hname)
  exact List.forall_iff_forall_mem.1 ⟨hmoved _ (by decide) (by decide),
    hmoved _ (by decide) (by decide), hmoved _ (by decide) (by decide)⟩

/-- Moving the rules of a document makes no difference to its fields exactly if none of them is
hidden. -/
theorem fields_folded_moveRules_iff (hrising : (rulesOf document).Rising)
    (hrules : PlainRules document ∨ document.get? "export" = some .null) :
    Normal.fields (folded document) = Normal.fields (folded (moveRules document)) ↔
      ∀ name ∈ ruleNames, ¬ Hidden document name := by
  have hrising' := rising_rulesOf_moveRules hrising
  have hfound := find?_rulesOf_fields (rising_rulesOf_folded hrising)
  have hfound' := find?_rulesOf_fields (rising_rulesOf_folded hrising')
  constructor
  · intro hsame name hmem hhidden
    -- Among the moved rules the hidden one is given, and it is there after parsing.
    have hgiven := rule?_moveRules_ne_none hmem hhidden.1
    have hplain : PlainRules (moveRules document) := .inr ⟨_, get?_export_of_rule? hgiven⟩
    have hlost := hfound name
    rw [hsame, hfound' name, hhidden.rule?_folded, rule?_folded_moveRules hplain] at hlost
    exact hgiven (Option.map_eq_none_iff.1 hlost)
  · intro hopen
    by_cases hnone : ∀ name ∈ ruleNames, document.given? name = none
    · rw [show moveRules document = document from foldl_moveRule_of_none hnone]
    · -- Some rule is moved, so that both have publishing rules that are an object.
      push Not at hnone
      obtain ⟨first, hmem, hgiven⟩ := hnone
      have hplain : PlainRules document :=
        hrules.resolve_right fun hnull => hopen first hmem ⟨hgiven, .inl hnull⟩
      have hgiven' := rule?_moveRules_ne_none hmem hgiven
      have hplain' : PlainRules (moveRules document) := .inr ⟨_, get?_export_of_rule? hgiven'⟩
      have hsame : ∀ name, rule? (folded document) name =
          rule? (folded (moveRules document)) name := fun name => by
        rw [rule?_folded hplain (hopen name), rule?_folded_moveRules hplain', rule?_moveRules]
      refine Members.ext_get? fun name => ?_
      rw [Normal.get?_fields, Normal.get?_fields]
      by_cases hname : name = "export"
      · subst hname
        have hfirst : rule? (folded (moveRules document)) first ≠ none := by
          rwa [rule?_folded_moveRules hplain']
        rw [get?_export_of_rule? hfirst, get?_export_of_rule? ((hsame first).trans_ne hfirst)]
        exact congrArg (fun rules => some (Value.object rules))
          (Normal.exportMembers_congr (rising_rulesOf_folded hrising) (rising_rulesOf_folded hrising')
            hsame)
      · rw [get?_folded_moveRules hname]

/-- A rule that is given at the top level only is among the publishing rules after parsing, in its
normal form, exactly if it is not hidden. -/
theorem find?_rulesOf_fields_folded_iff (hrising : (rulesOf document).Rising)
    (hrules : PlainRules document ∨ document.get? "export" = some .null) (hmem : name ∈ ruleNames)
    {rule : Value} (hgiven : document.given? name = some rule) (hown : rule? document name = none) :
    (rulesOf (Normal.fields (folded document))).find? name = some (Normal.exportRule rule) ↔
      ¬ Hidden document name := by
  rw [find?_rulesOf_fields (rising_rulesOf_folded hrising)]
  constructor
  · intro hfound hhidden
    rw [hhidden.rule?_folded] at hfound
    exact absurd hfound (by simp)
  · intro hopen
    have hsome : document.given? name ≠ none := by simp [hgiven]
    have hplain : PlainRules document :=
      hrules.resolve_right fun hnull => hopen ⟨hsome, .inl hnull⟩
    rw [rule?_folded hplain fun _ => hopen, hown, if_pos hmem, hgiven]
    rfl

end Format.Library

open Format.Library (Hidden moveRules rule? ruleNames rulesOf)

/-- A library without publishing rules, or with publishing rules that are null or an object, is parsed
to the same fields after its top-level rules were moved to the publishing rules, exactly if no null
hides one of them. A rule that is given at the top level only is among the publishing rules after
parsing, exactly if it is not hidden. -/
theorem parse_moveRules {declared : String}
    (hdeclared : Kind.ofDeclared? declared = some .libraryJson) {document : Members}
    (hrules : document.get? "export" = none ∨ document.get? "export" = some .null ∨
      ∃ rules, document.get? "export" = some (.object rules))
    {contents moved : String} (hcontents : Json.read contents = .ok document.toValue)
    (hmoved : Json.read moved = .ok (moveRules document).toValue) (address : Option String) :
    (parse contents declared address = parse moved declared address ↔
        ∀ name ∈ ruleNames, ¬ Hidden document name) ∧
      ∃ fields, parse contents declared address = .ok fields ∧
        ∀ name ∈ ruleNames, ∀ rule, document.given? name = some rule →
          rule? document name = none →
          ((rulesOf fields).find? name = some (Normal.exportRule rule) ↔ ¬ Hidden document name) := by
  have hparse := parse_of_read hdeclared (by decide) hcontents address
  have hparse' := parse_of_read hdeclared (by decide) hmoved address
  have hrising := Format.Library.rising_rulesOf hcontents
  have hshape : Format.Library.PlainRules document ∨ document.get? "export" = some .null := by
    rcases hrules with hnone | hnull | hobject
    · exact .inl (.inl hnone)
    · exact .inr hnull
    · exact .inl (.inr hobject)
  refine ⟨?_, _, hparse, fun name hmem rule hgiven hown => ?_⟩
  · rw [hparse, hparse', Except.ok.injEq]
    exact Format.Library.fields_folded_moveRules_iff hrising hshape
  · exact Format.Library.find?_rulesOf_fields_folded_iff hrising hshape hmem hgiven hown

/-- A library with a rule among the publishing rules, and with both rules at the top level. -/
def ruleAtBothLevels : String :=
  "\x7b\"exclude\": \"a\", \"export\": \x7b\"exclude\": [\"b\"]\x7d, \"include\": \"src\"\x7d"

/-- The same library with publishing rules only. -/
def ruleAtOneLevel : String :=
  "\x7b\"export\": \x7b\"exclude\": [\"b\"], \"include\": \"src\"\x7d\x7d"

set_option maxRecDepth 8000 in
/-- Both are parsed to the same fields, with the rule that stands at the top level only. -/
theorem parse_moveRules_ruleAtBothLevels :
    let document := Members.ofPairs [("exclude", .string "a"),
      ("export", .object [("exclude", Value.strings ["b"])]), ("include", .string "src")]
    (∀ name ∈ ruleNames, ¬ Hidden document name) ∧
      parse ruleAtBothLevels "library-json" none = parse ruleAtOneLevel "library-json" none ∧
      ∃ fields, parse ruleAtBothLevels "library-json" none = .ok fields ∧
        (rulesOf fields).find? "include" = some (Value.strings ["src"]) := by
  intro document
  have hopen : ∀ name ∈ ruleNames, ¬ Hidden document name := by
    have hexport : document.get? "export" ≠ some .null := by
      change some (Value.object _) ≠ some .null
      simp
    have hrules : rulesOf document = [("exclude", Value.strings ["b"])] := rfl
    simp [ruleNames, Hidden, hexport, hrules, Pairs.find?, Value.strings]
  have hcontents : Json.read ruleAtBothLevels = .ok document.toValue := by
    cbv
  have hshort : moveRules document = Members.ofPairs [("export",
      .object [("exclude", Value.strings ["b"]), ("include", .string "src")])] := rfl
  have hmoved : Json.read ruleAtOneLevel = .ok (moveRules document).toValue := by
    rw [hshort]
    cbv
  have hdeclared : Kind.ofDeclared? "library-json" = some .libraryJson := rfl
  have hobject : ∃ rules, document.get? "export" = some (.object rules) := ⟨_, rfl⟩
  obtain ⟨hsame, fields, hparse, hfound⟩ :=
    parse_moveRules hdeclared (.inr (.inr hobject)) hcontents hmoved none
  have hinclude : "include" ∈ ruleNames := by decide
  exact ⟨hopen, hsame.2 hopen, fields, hparse,
    (hfound _ hinclude (.string "src") rfl rfl).2 (hopen _ hinclude)⟩

/-- A library with publishing rules that are null and a rule at the top level. -/
def hiddenRule : String :=
  "\x7b\"export\": null, \"include\": \"src\"\x7d"

/-- The same library with the rule among the publishing rules. -/
def shownRule : String :=
  "\x7b\"export\": \x7b\"include\": \"src\"\x7d\x7d"

set_option maxRecDepth 8000 in
/-- The rule is lost where the publishing rules are null. -/
theorem parse_hiddenRule_ne :
    ∃ document : Members, document.get? "export" = some .null ∧
      document.get? "include" = some (.string "src") ∧
      Json.read hiddenRule = .ok document.toValue ∧
      Json.read shownRule = .ok (moveRules document).toValue ∧
      parse hiddenRule "library-json" none ≠ parse shownRule "library-json" none := by
  let document := Members.ofPairs [("export", .null), ("include", .string "src")]
  have hcontents : Json.read hiddenRule = .ok document.toValue := by
    cbv
  have hshown : moveRules document =
      Members.ofPairs [("export", .object [("include", .string "src")])] := rfl
  have hmoved : Json.read shownRule = .ok (moveRules document).toValue := by
    rw [hshown]
    cbv
  refine ⟨document, rfl, rfl, hcontents, hmoved, fun hsame => ?_⟩
  have hdeclared : Kind.ofDeclared? "library-json" = some .libraryJson := rfl
  rw [parse_of_read hdeclared (by decide) hcontents, parse_of_read hdeclared (by decide) hmoved,
    Except.ok.injEq] at hsame
  have hhidden : Hidden document "include" :=
    ⟨Option.some_ne_none (Value.string "src"), .inl rfl⟩
  have hrising := Format.Library.rising_rulesOf hcontents
  exact (Format.Library.fields_folded_moveRules_iff hrising (.inr rfl)).1 hsame "include" (by decide)
    hhidden

end Manifest
