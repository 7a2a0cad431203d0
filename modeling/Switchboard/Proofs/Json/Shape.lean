import Mathlib.Data.List.Induction
import Switchboard.Json.Reader
/-!
The shape of JSON values: which numbers occur in them, how deeply they nest, and that the members of
their objects stand in the order of their keys. Members that are put into an object one after the
other come to stand in that order, and of those under one key the last one stays.
-/

set_option autoImplicit false
set_option relaxedAutoImplicit false

namespace Switchboard

def Number.IsInteger : Number → Prop
  | .integer _ => True
  | .float _ => False

/-- Whether a number, if it is an integer, has a place in 64 bits, signed or unsigned. -/
def Number.IsHeld : Number → Prop
  | .integer n => -(Json.signedReach : Int) ≤ n ∧ n ≤ Json.greatestUnsigned
  | .float _ => True

namespace Json

mutual

def numbers : Json → List Number
  | .null | .bool _ | .string _ => []
  | .number n => [n]
  | .array items => itemsNumbers items
  | .object members => membersNumbers members

def itemsNumbers : List Json → List Number
  | [] => []
  | item :: rest => numbers item ++ itemsNumbers rest

def membersNumbers : List (String × Json) → List Number
  | [] => []
  | (_, value) :: rest => numbers value ++ membersNumbers rest

end

/-- Members in increasing order of their keys, each key once. -/
def KeysIncrease (members : List (String × Json)) : Prop := members.Pairwise fun a b => a.1 < b.1

instance (members : List (String × Json)) : Decidable (KeysIncrease members) :=
  inferInstanceAs (Decidable (members.Pairwise fun a b => a.1 < b.1))

mutual

/-- Whether the members of every object in a value stand in the order of their keys. -/
def IsOrdered : Json → Prop
  | .null | .bool _ | .number _ | .string _ => True
  | .array items => ItemsOrdered items
  | .object members => KeysIncrease members ∧ MembersOrdered members

def ItemsOrdered : List Json → Prop
  | [] => True
  | item :: rest => IsOrdered item ∧ ItemsOrdered rest

def MembersOrdered : List (String × Json) → Prop
  | [] => True
  | (_, value) :: rest => IsOrdered value ∧ MembersOrdered rest

end

section Parts

variable {items : List Json} {members : List (String × Json)} {n : Number} {levels : Nat}

theorem mem_itemsNumbers : n ∈ itemsNumbers items ↔ ∃ item ∈ items, n ∈ item.numbers := by
  induction items with
  | nil => simp [itemsNumbers]
  | cons item rest ih => simp [itemsNumbers, ih]

theorem mem_membersNumbers :
    n ∈ membersNumbers members ↔ ∃ member ∈ members, n ∈ member.2.numbers := by
  induction members with
  | nil => simp [membersNumbers]
  | cons member rest ih => simp [membersNumbers, ih]

theorem itemsOrdered_iff : ItemsOrdered items ↔ ∀ item ∈ items, item.IsOrdered := by
  induction items with
  | nil => simp [ItemsOrdered]
  | cons item rest ih => simp [ItemsOrdered, ih]

theorem membersOrdered_iff : MembersOrdered members ↔ ∀ member ∈ members, member.2.IsOrdered := by
  induction members with
  | nil => simp [MembersOrdered]
  | cons member rest ih => simp [MembersOrdered, ih]

theorem itemsDepth_le : itemsDepth items ≤ levels ↔ ∀ item ∈ items, item.depth ≤ levels := by
  induction items with
  | nil => simp [itemsDepth]
  | cons item rest ih => simp only [itemsDepth, Nat.max_le, ih, List.forall_mem_cons]

theorem membersDepth_le :
    membersDepth members ≤ levels ↔ ∀ member ∈ members, member.2.depth ≤ levels := by
  induction members with
  | nil => simp [membersDepth]
  | cons member rest ih => simp only [membersDepth, Nat.max_le, ih, List.forall_mem_cons]

end Parts

section Members

variable {key other : String} {value : Json} {members written : List (String × Json)}
  {member : String × Json}

theorem mem_put (isMember : member ∈ put key value members) :
    member = (key, value) ∨ member ∈ members := by
  induction members with
  | nil => simpa [put] using isMember
  | cons first rest ih =>
    unfold put at isMember
    split at isMember
    · rcases List.mem_cons.mp isMember with new | old
      · exact .inl new
      · exact .inr (List.mem_cons_of_mem _ old)
    · split at isMember
      · rcases List.mem_cons.mp isMember with new | old
        · exact .inl new
        · exact .inr old
      · rcases List.mem_cons.mp isMember with isFirst | later
        · exact .inr (List.mem_cons.mpr (.inl isFirst))
        · rcases ih later with new | old
          · exact .inl new
          · exact .inr (List.mem_cons_of_mem _ old)

theorem KeysIncrease.put (h : KeysIncrease members) (key : String) (value : Json) :
    KeysIncrease (put key value members) := by
  induction members with
  | nil => exact List.pairwise_singleton _ _
  | cons first rest ih =>
    obtain ⟨before, later⟩ := List.pairwise_cons.mp h
    unfold Json.put
    split
    · rename_i same
      subst same
      exact List.pairwise_cons.mpr ⟨before, later⟩
    · rename_i isOther
      split
      · rename_i less
        refine List.pairwise_cons.mpr ⟨fun member isMember => ?_, h⟩
        rcases List.mem_cons.mp isMember with rfl | isLater
        · exact less
        · exact String.lt_trans less (before member isLater)
      · rename_i notLess
        have greater : first.1 < key := String.not_le.mp fun above =>
          isOther (String.le_antisymm above (String.not_lt.mp notLess))
        refine List.pairwise_cons.mpr ⟨fun member isMember => ?_, ih later⟩
        rcases mem_put isMember with rfl | isLater
        · exact greater
        · exact before member isLater

theorem member?_put (key other : String) (value : Json) (members : List (String × Json)) :
    member? other (put key value members) =
      if other = key then some value else member? other members := by
  induction members with
  | nil => rfl
  | cons first rest ih =>
    unfold put
    split
    · rename_i same
      subst same
      simp only [member?]
      split <;> rfl
    · split
      · rfl
      · rename_i isOther _
        simp only [member?, ih]
        by_cases isFirst : other = first.1
        · subst isFirst
          simp [Ne.symm isOther]
        · simp [isFirst]

theorem mem_of_member? (found : member? key members = some value) : (key, value) ∈ members := by
  induction members with
  | nil => cases found
  | cons first rest ih =>
    rw [member?] at found
    split at found
    · rename_i same
      cases found
      rw [same]
      exact List.mem_cons_self
    · exact List.mem_cons_of_mem _ (ih found)

theorem ofMembers_append_single (written : List (String × Json)) (member : String × Json) :
    ofMembers (written ++ [member]) = put member.1 member.2 (ofMembers written) := by
  simp only [ofMembers, List.foldl_append, List.foldl_cons, List.foldl_nil]

/-- The members of an object stand in the order of their keys, however they were written. -/
theorem keysIncrease_ofMembers (written : List (String × Json)) :
    KeysIncrease (ofMembers written) := by
  induction written using List.reverseRecOn with
  | nil => exact .nil
  | append_singleton before last ih =>
    rw [ofMembers_append_single]
    exact ih.put last.1 last.2

theorem mem_of_mem_ofMembers (isMember : member ∈ ofMembers written) : member ∈ written := by
  induction written using List.reverseRecOn with
  | nil => exact isMember
  | append_singleton before last ih =>
    rw [ofMembers_append_single] at isMember
    rcases mem_put isMember with isLast | old
    · exact List.mem_append_right _ (List.mem_singleton.mpr isLast)
    · exact List.mem_append_left _ (ih old)

/-- Of the members that are written under one key the last one stays. -/
theorem member?_ofMembers (key : String) (written : List (String × Json)) :
    member? key (ofMembers written) =
      (written.filter fun member => member.1 = key).getLast?.map Prod.snd := by
  induction written using List.reverseRecOn with
  | nil => rfl
  | append_singleton before last ih =>
    rw [ofMembers_append_single, member?_put, ih, List.filter_append]
    by_cases isLast : key = last.1
    · simp [isLast]
    · simp [isLast, Ne.symm isLast]

private theorem put_last (greatest : ∀ member ∈ members, member.1 < key) (value : Json) :
    put key value members = members ++ [(key, value)] := by
  induction members with
  | nil => rfl
  | cons first rest ih =>
    have less : first.1 < key := greatest first List.mem_cons_self
    have isOther : key ≠ first.1 := (String.ne_of_lt less).symm
    rw [put, if_neg isOther, if_neg (String.lt_asymm less),
      ih fun member later => greatest member (List.mem_cons_of_mem _ later)]
    rfl

theorem KeysIncrease.ofMembers (h : KeysIncrease members) : ofMembers members = members := by
  induction members using List.reverseRecOn with
  | nil => rfl
  | append_singleton before last ih =>
    obtain ⟨increase, -, less⟩ := List.pairwise_append.mp h
    rw [ofMembers_append_single, ih increase,
      put_last fun member isMember => less member isMember last (List.mem_singleton.mpr rfl)]

end Members

end Json

end Switchboard
