import Manifest.Format.Document
import Manifest.Proofs.KeptContent

/-!
# Values whose objects are in order

An object holds its members by rising name, each name once. The type of values does not say so, but
it is true of every value that is read (`ordered_of_read`), and so of every value among the members
of a document (`Format.ordered_of_members`). Normalizing therefore changes no publishing rules of a
document (`exportRules_fields_of_members`).
-/

namespace Manifest

open Json (Pairs Value)

namespace Json

namespace Reader

/-- The value that is read, if there is one, is ordered. -/
def ReadsOrdered (outcome : Outcome Value) : Prop :=
  ∀ v rest, outcome = .ok (v, rest) → v.Ordered

/-- Nothing is read by a refusal. -/
theorem readsOrdered_error (refusal : Refusal) : ReadsOrdered (.error refusal) :=
  nofun

/-- What is read with a certain value is ordered if the value is. -/
theorem readsOrdered_ok {v : Value} (h : v.Ordered) (rest : List Char) :
    ReadsOrdered (.ok (v, rest)) := by
  intro w behind hw
  obtain ⟨rfl, -⟩ := Prod.mk.inj (Except.ok.inj hw)
  exact h

/-- What is read by way of something else is ordered if all that this may become is. -/
theorem readsOrdered_map {α : Type} {f : α → Value} (h : ∀ x, (f x).Ordered) (outcome : Outcome α) :
    ReadsOrdered (outcome.map fun (x, rest) => (f x, rest)) := by
  cases outcome with
  | error refusal => exact readsOrdered_error refusal
  | ok found => exact readsOrdered_ok (h found.1) found.2

/-- A literal denotes the value that it stands for. -/
theorem readsOrdered_literal {v : Value} (h : v.Ordered) (letters cs : List Char) :
    ReadsOrdered (literal v letters cs) := by
  induction letters generalizing cs with
  | nil => exact readsOrdered_ok h cs
  | cons letter rest ih =>
    cases cs with
    | nil => exact readsOrdered_error _
    | cons c behind =>
      rw [literal]
      split
      · exact ih behind
      · exact readsOrdered_error _

section

variable {item : List Char → Outcome Value} (hitem : ∀ cs, ReadsOrdered (item cs))

include hitem

/-- A sequence is ordered if its items are. -/
theorem readsOrdered_items (fuel : Nat) (first : Bool) {before : List Value}
    (hbefore : ∀ v ∈ before, v.Ordered) (cs : List Char) :
    ReadsOrdered (items item fuel first before cs) := by
  -- Each item adds to those before, which stay ordered.
  induction fuel generalizing first before cs with
  | zero =>
    rw [items]
    exact readsOrdered_error _
  | succ fuel ih =>
    have hnext : ∀ behind, ReadsOrdered (items.next item fuel before behind) := by
      intro behind
      unfold items.next
      split
      case h_1 refusal _ => exact readsOrdered_error refusal
      case h_2 v rest hv => exact ih false (List.forall_mem_cons.2 ⟨hitem _ _ _ hv, hbefore⟩) rest
    unfold items
    split
    · exact readsOrdered_error _
    · exact readsOrdered_ok (.array fun v hv => hbefore v (List.mem_reverse.1 hv)) _
    · split
      · exact hnext _
      · split
        · split
          · exact readsOrdered_error _
          · exact readsOrdered_error _
          · exact hnext _
        · exact readsOrdered_error _

/-- The value of a member is what is read behind the colon. -/
theorem readsOrdered_memberValue (cs : List Char) : ReadsOrdered (memberValue item cs) := by
  unfold memberValue
  split
  · exact readsOrdered_error _
  · exact hitem _
  · exact readsOrdered_error _

/-- An object is ordered if its values are, for each member is put in its place. -/
theorem readsOrdered_members (fuel : Nat) (first : Bool) {before : Pairs Value}
    (hrising : before.Rising) (hbefore : ∀ pair ∈ before, pair.2.Ordered) (cs : List Char) :
    ReadsOrdered (members item fuel first before cs) := by
  induction fuel generalizing first before cs with
  | zero =>
    rw [members]
    exact readsOrdered_error _
  | succ fuel ih =>
    have hnamed : ∀ behind, ReadsOrdered (members.named item fuel before behind) := by
      intro behind
      unfold members.named
      split
      case h_2 => exact readsOrdered_error _
      case h_1 body =>
        split
        case h_1 refusal _ => exact readsOrdered_error refusal
        case h_2 name middle _ =>
          split
          case h_1 refusal _ => exact readsOrdered_error refusal
          case h_2 v rest hv =>
            refine ih false hrising.insert (fun pair hpair => ?_) rest
            rcases Pairs.mem_insert hpair with rfl | hold
            · exact readsOrdered_memberValue hitem middle v rest hv
            · exact hbefore pair hold
    unfold members
    split
    · exact readsOrdered_error _
    · exact readsOrdered_ok (.object hrising hbefore) _
    · split
      · exact hnamed _
      · split
        · split
          · exact readsOrdered_error _
          · exact readsOrdered_error _
          · exact hnamed _
        · exact readsOrdered_error _

end

/-- A value is read as an ordered one. -/
theorem readsOrdered_value (depth : Nat) (cs : List Char) : ReadsOrdered (value depth cs) := by
  -- The induction is on how many containers may be opened, which the items of one have less of.
  induction depth generalizing cs with
  | zero => exact readsOrdered_error _
  | succ depth ih =>
    unfold value
    split
    case h_1 => exact readsOrdered_error _
    case h_2 c rest _ =>
      split
      · exact readsOrdered_literal .null _ rest
      split
      · exact readsOrdered_literal (.bool true) _ rest
      split
      · exact readsOrdered_literal (.bool false) _ rest
      split
      · exact readsOrdered_map .number _
      split
      · exact readsOrdered_map .number _
      split
      · exact readsOrdered_map .string _
      split
      · split
        · exact readsOrdered_error _
        · exact readsOrdered_items ih _ true (List.forall_mem_nil _) rest
      split
      · split
        · exact readsOrdered_error _
        · exact readsOrdered_members ih _ true List.Pairwise.nil (List.forall_mem_nil _) rest
      · exact readsOrdered_error _

end Reader

/-- The value that a document denotes is ordered. -/
theorem ordered_of_read {text : String} {v : Value} (h : read text = .ok v) : v.Ordered := by
  unfold read Reader.document at h
  cases hvalue : Reader.value Reader.depthLimit text.toList with
  | error refusal =>
    rw [hvalue] at h
    exact absurd h (by simp [Except.mapError])
  | ok found =>
    obtain ⟨w, rest⟩ := found
    rw [hvalue] at h
    dsimp only at h
    split at h
    · obtain rfl := Except.ok.inj h
      exact Reader.readsOrdered_value _ _ _ _ hvalue
    · exact absurd h (by simp [Except.mapError, Reader.refusePast])

end Json

section

variable {kind : Kind} {contents : String} {fields : Json.Members}

/-- Every value among the members of a document is ordered. -/
theorem Format.ordered_of_members (h : Format.members kind contents = .ok fields) {name : String}
    {v : Value} (hget : fields.get? name = some v) : v.Ordered := by
  unfold Format.members at h
  split at h
  case h_1 => exact absurd h (by simp)
  case h_3 => exact absurd h (by simp)
  case h_2 pairs hread =>
    obtain rfl := Except.ok.inj h
    cases Json.ordered_of_read hread with
    | object hrising hpairs =>
      rw [Json.Members.get?_ofPairs hrising.nodup_names] at hget
      exact hpairs _ (Json.Pairs.mem_of_find? hget)

/-- Publishing rules of a document that validate stay the same when its members are normalized. -/
theorem exportRules_fields_of_members (h : Format.members kind contents = .ok fields)
    {rules : Export} (hrules : (validateLeniently fields).record.exportRules = some rules) :
    (validateLeniently (Normal.fields fields)).record.exportRules = some rules := by
  refine exportRules_fields (fun pairs hpairs => ?_) hrules
  cases Format.ordered_of_members h hpairs with
  | object hrising _ => exact hrising

end

end Manifest
