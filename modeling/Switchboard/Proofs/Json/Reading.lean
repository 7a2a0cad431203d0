import Mathlib.Data.List.Forall2
import Switchboard.Proofs.Json.Shape
import Switchboard.Json.Record
/-!
What reading yields. Every value that is read has its members in order, nests no deeper than it may
and holds only integers of 64 bits; a reading that fails names a fault of its own, never a malformed
text. The members of an object, read with their values and read with their keys alone, agree.
-/

set_option autoImplicit false
set_option relaxedAutoImplicit false

namespace Switchboard

section Outcomes

variable {ε α β : Type} {read : Except ε α} {fault : ε}

theorem map_eq_ok_iff {f : α → β} {b : β} : f <$> read = .ok b ↔ ∃ a, read = .ok a ∧ f a = b := by
  cases read <;> simp

theorem map_eq_error_iff {f : α → β} : f <$> read = .error fault ↔ read = .error fault := by
  cases read <;> simp

theorem toOption_eq_some_iff {a : α} : read.toOption = some a ↔ read = .ok a := by
  cases read <;> simp [Except.toOption]

theorem bind_eq_ok_iff {next : α → Except ε β} {b : β} :
    read >>= next = .ok b ↔ ∃ a, read = .ok a ∧ next a = .ok b := by
  constructor
  · intro h
    cases read with
    | error cause => cases h
    | ok a => exact ⟨a, rfl, h⟩
  · rintro ⟨a, isOk, h⟩
    rw [isOk]
    exact h

theorem bind_eq_error_iff {next : α → Except ε β} :
    read >>= next = .error fault ↔
      read = .error fault ∨ ∃ a, read = .ok a ∧ next a = .error fault := by
  constructor
  · intro h
    cases read with
    | error cause =>
      cases h
      exact .inl rfl
    | ok a => exact .inr ⟨a, rfl, h⟩
  · rintro (isError | ⟨a, isOk, h⟩)
    · rw [isError]
      rfl
    · rw [isOk]
      exact h

end Outcomes

namespace Json

section Numbers

variable {n : Numeral} {number : Number} {fault : Fault}

theorem absorb_le (ds : List Nat) {significand : Nat} (fits : significand ≤ greatestUnsigned) :
    (absorb significand ds).1 ≤ greatestUnsigned := by
  induction ds generalizing significand with
  | nil => exact fits
  | cons d rest ih =>
    unfold absorb
    split
    · rename_i next
      exact ih next
    · exact fits

/-- An integer that is read has a place in 64 bits. -/
theorem isHeld_ofNumeral (read : ofNumeral n = .ok number) : number.IsHeld := by
  have fits : (absorb 0 n.whole).1 ≤ greatestUnsigned := absorb_le n.whole (Nat.zero_le _)
  have scaled : ∀ {significand : Nat} {exponent : Int},
      signedFloat n.negative <$> scaledFloat significand exponent = .ok number →
      number.IsHeld := by
    intro significand exponent read
    obtain ⟨f, -, rfl⟩ := map_eq_ok_iff.mp read
    exact trivial
  unfold ofNumeral at read
  simp only at read
  split at read
  · split at read
    · split at read
      · rename_i small
        cases read
        have wide : signedReach ≤ greatestUnsigned := by decide
        exact ⟨by omega, by omega⟩
      · cases read
        exact trivial
    · cases read
      exact ⟨by omega, Int.ofNat_le.mpr fits⟩
  · split at read
    · exact scaled read
    · split at read
      · split at read
        · cases read
        · cases read
          exact trivial
      · exact scaled read

private theorem scaledFloat_fault {significand : Nat} {exponent : Int}
    (failed : scaledFloat significand exponent = .error fault) : fault = .numberOutOfRange := by
  unfold scaledFloat at failed
  simp only at failed
  split at failed
  · split at failed <;> cases failed
  · split at failed
    · split at failed
      · cases failed
      · cases failed
        rfl
    · split at failed
      · cases failed
        rfl
      · cases failed

theorem ofNumeral_fault (failed : ofNumeral n = .error fault) : fault = .numberOutOfRange := by
  have scaled : ∀ {significand : Nat} {exponent : Int},
      signedFloat n.negative <$> scaledFloat significand exponent = .error fault →
      fault = .numberOutOfRange :=
    fun failed => scaledFloat_fault (map_eq_error_iff.mp failed)
  unfold ofNumeral at failed
  simp only at failed
  split at failed
  · split at failed
    · split at failed <;> cases failed
    · cases failed
  · split at failed
    · exact scaled failed
    · split at failed
      · split at failed
        · cases failed
          rfl
        · cases failed
      · exact scaled failed

end Numbers

theorem ofGlyphs_fault {glyphs : List Glyph} {fault : Fault}
    (failed : ofGlyphs glyphs = .error fault) : fault = .loneSurrogate := by
  induction glyphs using ofGlyphs.induct with
  | case1 => cases failed
  | case2 c rest ih =>
    rw [ofGlyphs] at failed
    exact ih (map_eq_error_iff.mp failed)
  | case3 a b rest single ih =>
    rw [ofGlyphs, if_pos single] at failed
    exact ih (map_eq_error_iff.mp failed)
  | case4 a b rest leading paired ih =>
    rw [ofGlyphs, if_neg leading, if_pos paired] at failed
    exact ih (map_eq_error_iff.mp failed)
  | case5 a b rest leading unpaired =>
    rw [ofGlyphs, if_neg leading, if_neg unpaired] at failed
    cases failed
    rfl
  | case6 a rest notUnit single ih =>
    rw [ofGlyphs, if_pos single] at failed
    · exact ih (map_eq_error_iff.mp failed)
    · exact notUnit
  | case7 a rest notUnit leading =>
    rw [ofGlyphs, if_neg leading] at failed
    · cases failed
      rfl
    · exact notUnit

theorem textOfGlyphs_fault {glyphs : List Glyph} {fault : Fault}
    (failed : textOfGlyphs glyphs = .error fault) : fault = .loneSurrogate :=
  ofGlyphs_fault (map_eq_error_iff.mp failed)

section Values

variable {levels : Nat}

/-- What holds of every value that is read where `levels` more containers may be opened. -/
structure IsRead (levels : Nat) (v : Json) : Prop where
  ordered : v.IsOrdered
  shallow : v.depth ≤ levels
  held : ∀ n ∈ v.numbers, n.IsHeld

private theorem IsRead.leaf {v : Json} (ordered : v.IsOrdered) (flat : v.depth = 0)
    (held : ∀ n ∈ v.numbers, n.IsHeld) : v.IsRead levels :=
  ⟨ordered, by rw [flat]; exact Nat.zero_le _, held⟩

theorem IsRead.null (levels : Nat) : Json.null.IsRead levels :=
  .leaf trivial rfl fun _ occurs => absurd occurs List.not_mem_nil

theorem IsRead.array {items : List Json} (h : ∀ item ∈ items, item.IsRead levels) :
    (Json.array items).IsRead (levels + 1) where
  ordered := itemsOrdered_iff.mpr fun item isItem => (h item isItem).ordered
  shallow := Nat.succ_le_succ (itemsDepth_le.mpr fun item isItem => (h item isItem).shallow)
  held n occurs := by
    obtain ⟨item, isItem, occurs⟩ := mem_itemsNumbers.mp occurs
    exact (h item isItem).held n occurs

theorem IsRead.object {written : List (String × Json)}
    (h : ∀ member ∈ written, member.2.IsRead levels) :
    (Json.object (ofMembers written)).IsRead (levels + 1) where
  ordered := ⟨keysIncrease_ofMembers written,
    membersOrdered_iff.mpr fun member kept => (h member (mem_of_mem_ofMembers kept)).ordered⟩
  shallow := Nat.succ_le_succ
    (membersDepth_le.mpr fun member kept => (h member (mem_of_mem_ofMembers kept)).shallow)
  held n occurs := by
    obtain ⟨member, kept, occurs⟩ := mem_membersNumbers.mp occurs
    exact (h member (mem_of_mem_ofMembers kept)).held n occurs

theorem IsRead.member {members : List (String × Json)} {key : String} {v : Json}
    (h : (Json.object members).IsRead (levels + 1)) (found : member? key members = some v) :
    v.IsRead levels := by
  have isMember := mem_of_member? found
  exact ⟨membersOrdered_iff.mp h.ordered.2 _ isMember,
    membersDepth_le.mp (Nat.le_of_succ_le_succ h.shallow) _ isMember,
    fun n occurs => h.held n (mem_membersNumbers.mpr ⟨_, isMember, occurs⟩)⟩

end Values

end Json

namespace Written

mutual

theorem isRead_of_value : (w : Written) → (levels : Nat) → (v : Json) →
    w.value levels = .ok v → v.IsRead levels
  | .null, levels, _, read => by
    cases read
    exact .null levels
  | .bool _, _, _, read => by
    cases read
    exact .leaf trivial rfl fun _ occurs => absurd occurs List.not_mem_nil
  | .number n, _, _, read => by
    obtain ⟨number, found, rfl⟩ := map_eq_ok_iff.mp read
    refine .leaf trivial rfl fun other occurs => ?_
    rw [List.mem_singleton.mp occurs]
    exact Json.isHeld_ofNumeral found
  | .string glyphs, _, _, read => by
    obtain ⟨text, -, rfl⟩ := map_eq_ok_iff.mp read
    exact .leaf trivial rfl fun _ occurs => absurd occurs List.not_mem_nil
  | .array items, 0, _, read => by cases read
  | .array items, levels + 1, _, read => by
    obtain ⟨values, found, rfl⟩ := map_eq_ok_iff.mp read
    exact .array (isRead_of_itemValues items levels values found)
  | .object members, 0, _, read => by cases read
  | .object members, levels + 1, _, read => by
    obtain ⟨values, found, rfl⟩ := map_eq_ok_iff.mp read
    exact .object (isRead_of_memberValues members levels values found)

theorem isRead_of_itemValues : (ws : List Written) → (levels : Nat) → (items : List Json) →
    itemValues levels ws = .ok items → ∀ item ∈ items, item.IsRead levels
  | [], _, _, read => by
    cases read
    exact fun _ isItem => nomatch isItem
  | w :: ws, levels, _, read => by
    obtain ⟨v, first, read⟩ := bind_eq_ok_iff.mp read
    obtain ⟨vs, others, read⟩ := bind_eq_ok_iff.mp read
    cases read
    exact List.forall_mem_cons.mpr
      ⟨isRead_of_value w levels v first, isRead_of_itemValues ws levels vs others⟩

theorem isRead_of_memberValues : (ws : List (List Glyph × Written)) → (levels : Nat) →
    (members : List (String × Json)) → memberValues levels ws = .ok members →
    ∀ member ∈ members, member.2.IsRead levels
  | [], _, _, read => by
    cases read
    exact fun _ isMember => nomatch isMember
  | (glyphs, w) :: ws, levels, _, read => by
    obtain ⟨key, -, read⟩ := bind_eq_ok_iff.mp read
    obtain ⟨v, first, read⟩ := bind_eq_ok_iff.mp read
    obtain ⟨vs, others, read⟩ := bind_eq_ok_iff.mp read
    cases read
    exact List.forall_mem_cons.mpr
      ⟨isRead_of_value w levels v first, isRead_of_memberValues ws levels vs others⟩

end

mutual

theorem value_ne_malformed : (w : Written) → (levels : Nat) →
    w.value levels ≠ .error .malformed
  | .null, _, failed => nomatch failed
  | .bool _, _, failed => nomatch failed
  | .number _, _, failed => nomatch Json.ofNumeral_fault (map_eq_error_iff.mp failed)
  | .string _, _, failed => nomatch Json.textOfGlyphs_fault (map_eq_error_iff.mp failed)
  | .array _, 0, failed => nomatch failed
  | .array items, levels + 1, failed =>
    itemValues_ne_malformed items levels (map_eq_error_iff.mp failed)
  | .object _, 0, failed => nomatch failed
  | .object members, levels + 1, failed =>
    memberValues_ne_malformed members levels (map_eq_error_iff.mp failed)

theorem itemValues_ne_malformed : (ws : List Written) → (levels : Nat) →
    itemValues levels ws ≠ .error .malformed
  | [], _, failed => nomatch failed
  | w :: ws, levels, failed => by
    rcases bind_eq_error_iff.mp failed with first | ⟨v, -, failed⟩
    · exact value_ne_malformed w levels first
    · rcases bind_eq_error_iff.mp failed with others | ⟨vs, -, failed⟩
      · exact itemValues_ne_malformed ws levels others
      · cases failed

theorem memberValues_ne_malformed : (ws : List (List Glyph × Written)) → (levels : Nat) →
    memberValues levels ws ≠ .error .malformed
  | [], _, failed => nomatch failed
  | (glyphs, w) :: ws, levels, failed => by
    rcases bind_eq_error_iff.mp failed with lone | ⟨key, -, failed⟩
    · cases Json.textOfGlyphs_fault lone
    rcases bind_eq_error_iff.mp failed with first | ⟨v, -, failed⟩
    · exact value_ne_malformed w levels first
    rcases bind_eq_error_iff.mp failed with others | ⟨vs, -, failed⟩
    · exact memberValues_ne_malformed ws levels others
    · cases failed

end

section Members

variable {levels : Nat} {ws : List (List Glyph × Written)} {keyed : List (String × Written)}
  {members : List (String × Json)} {key : String} {w : Written} {v : Json}

/-- A member whose key alone was read is the same with its value read. -/
def ReadsAs (levels : Nat) (written : String × Written) (member : String × Json) : Prop :=
  written.1 = member.1 ∧ written.2.value levels = .ok member.2

/-- Members that were read with their values can be read with their keys alone. -/
theorem keyedMembers_of_memberValues (read : memberValues levels ws = .ok members) :
    ∃ keyed, keyedMembers ws = some keyed ∧ List.Forall₂ (ReadsAs levels) keyed members := by
  induction ws generalizing members with
  | nil =>
    cases read
    exact ⟨[], rfl, .nil⟩
  | cons first ws ih =>
    obtain ⟨glyphs, w⟩ := first
    obtain ⟨key, isKey, read⟩ := bind_eq_ok_iff.mp read
    obtain ⟨v, value, read⟩ := bind_eq_ok_iff.mp read
    obtain ⟨vs, others, read⟩ := bind_eq_ok_iff.mp read
    cases read
    obtain ⟨keyed, found, reads⟩ := ih others
    exact ⟨(key, w) :: keyed, by simp [keyedMembers, isKey, found, Except.toOption],
      .cons ⟨rfl, value⟩ reads⟩

theorem exists_of_memberValues_error {fault : Json.Fault}
    (keys : keyedMembers ws = some keyed) (failed : memberValues levels ws = .error fault) :
    ∃ member ∈ keyed, member.2.value levels = .error fault := by
  induction ws generalizing keyed with
  | nil => cases failed
  | cons first ws ih =>
    obtain ⟨glyphs, w⟩ := first
    cases isKey : Json.textOfGlyphs glyphs with
    | error lone => simp [keyedMembers, isKey, Except.toOption] at keys
    | ok key =>
      obtain ⟨others, found, rfl⟩ : ∃ others, keyedMembers ws = some others ∧
          (key, w) :: others = keyed := by
        simpa [keyedMembers, isKey, Except.toOption, Option.bind_eq_some_iff] using keys
      rcases bind_eq_error_iff.mp failed with lone | ⟨_, -, failed⟩
      · rw [isKey] at lone
        cases lone
      rcases bind_eq_error_iff.mp failed with first | ⟨_, -, failed⟩
      · exact ⟨(key, w), List.mem_cons_self, first⟩
      rcases bind_eq_error_iff.mp failed with later | ⟨_, -, failed⟩
      · obtain ⟨member, isMember, fails⟩ := ih found later
        exact ⟨member, List.mem_cons_of_mem _ isMember, fails⟩
      · cases failed

theorem occurrence_eq (key : String) (keyed : List (String × Written)) :
    occurrence key keyed =
      match keyed.filter fun member => member.1 = key with
      | [] => .absent
      | [member] => .once member.2
      | _ => .repeated := by
  induction keyed with
  | nil => rfl
  | cons first rest ih =>
    rw [occurrence, List.filter_cons, ih]
    generalize rest.filter (fun member => member.1 = key) = others
    by_cases same : first.1 = key
    · simp only [same, if_true, decide_true]
      match others with
      | [] => rfl
      | [_] => rfl
      | _ :: _ :: _ => rfl
    · simp only [same, if_false, decide_false]
      rfl

theorem occurrence_once_iff :
    occurrence key keyed = .once w ↔ (keyed.filter fun member => member.1 = key) = [(key, w)] := by
  rw [occurrence_eq]
  constructor
  · intro once
    split at once
    · cases once
    · rename_i member found
      cases once
      have same : member.1 = key := by
        have isMember : member ∈ keyed.filter fun member => member.1 = key := by simp [found]
        simpa using (List.mem_filter.mp isMember).2
      rw [found, ← same]
    · cases once
  · intro found
    rw [found]

/-- A field that stands once in a record has one value there. -/
theorem eq_of_occurrence_once (once : occurrence key keyed = .once w) {other : Written}
    (isMember : (key, other) ∈ keyed) : other = w := by
  have found : (key, other) ∈ keyed.filter fun member => member.1 = key :=
    List.mem_filter.mpr ⟨isMember, by simp⟩
  rw [occurrence_once_iff.mp once, List.mem_singleton] at found
  exact congrArg Prod.snd found

private theorem filter_readsAs (reads : List.Forall₂ (ReadsAs levels) keyed members)
    (key : String) :
    List.Forall₂ (ReadsAs levels) (keyed.filter fun member => member.1 = key)
      (members.filter fun member => member.1 = key) :=
  List.rel_filter (fun _ _ same => by simp [same.1]) reads

theorem member?_of_occurrence_once (reads : List.Forall₂ (ReadsAs levels) keyed members)
    (once : occurrence key keyed = .once w) :
    ∃ v, w.value levels = .ok v ∧ Json.member? key (Json.ofMembers members) = some v := by
  have among := filter_readsAs reads key
  rw [occurrence_once_iff.mp once] at among
  obtain ⟨member, rest, same, others, found⟩ := List.forall₂_cons_left_iff.mp among
  cases List.forall₂_nil_left_iff.mp others
  exact ⟨member.2, same.2, by rw [Json.member?_ofMembers, found]; rfl⟩

theorem occurrence_once_of_member? (reads : List.Forall₂ (ReadsAs levels) keyed members)
    (single : (keyed.map Prod.fst).count key ≤ 1)
    (found : Json.member? key (Json.ofMembers members) = some v) :
    ∃ w, occurrence key keyed = .once w ∧ w.value levels = .ok v := by
  have among := filter_readsAs reads key
  rw [Json.member?_ofMembers, Option.map_eq_some_iff] at found
  obtain ⟨last, isLast, rfl⟩ := found
  have atMost : (keyed.filter fun member => member.1 = key).length ≤ 1 := by
    rw [List.count_eq_countP, List.countP_map, List.countP_eq_length_filter] at single
    simpa only [Function.comp_def, beq_eq_decide] using single
  match these : keyed.filter fun member => member.1 = key with
  | [] =>
    rw [these] at among
    rw [List.forall₂_nil_left_iff.mp among] at isLast
    cases isLast
  | [member] =>
    rw [these] at among
    obtain ⟨_, rest, reads, others, all⟩ := List.forall₂_cons_left_iff.mp among
    rw [all, List.forall₂_nil_left_iff.mp others] at isLast
    cases isLast
    refine ⟨member.2, ?_, reads.2⟩
    rw [occurrence_eq, these]
  | _ :: _ :: _ =>
    rw [these] at atMost
    simp at atMost

end Members

end Written

end Switchboard
