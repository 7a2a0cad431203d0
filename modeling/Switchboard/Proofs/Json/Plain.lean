import Switchboard.Json.Writer
import Switchboard.Proofs.Decimal.Digits
/-!
The text of a value stays on one line: whatever strings and keys the value holds, no control
character is written.
-/

set_option autoImplicit false
set_option relaxedAutoImplicit false

namespace Switchboard

namespace Text

def IsPlain (chars : List Char) : Prop := ∀ c ∈ chars, 0x20 ≤ c.toNat

instance (chars : List Char) : Decidable (IsPlain chars) :=
  List.decidableBAll (fun c : Char => 0x20 ≤ c.toNat) chars

section Lists

variable {chars more : List Char} {c : Char}

theorem isPlain_cons : IsPlain (c :: chars) ↔ 0x20 ≤ c.toNat ∧ IsPlain chars :=
  List.forall_mem_cons

theorem isPlain_append : IsPlain (chars ++ more) ↔ IsPlain chars ∧ IsPlain more :=
  List.forall_mem_append

theorem IsPlain.subset (plain : IsPlain chars) (sub : more ⊆ chars) : IsPlain more :=
  fun c member => plain c (sub member)

theorem isPlain_replicate (n : Nat) (visible : 0x20 ≤ c.toNat) :
    IsPlain (List.replicate n c) := by
  intro d member
  rw [List.eq_of_mem_replicate member]
  exact visible

end Lists

end Text

open Text

namespace Decimal

theorem isPlain_natChars (n : Nat) : IsPlain (natChars n) := by
  intro c member
  have digit := isDigit_of_mem_natChars member
  simp only [Char.isDigit, Bool.and_eq_true, decide_eq_true_eq, ge_iff_le,
    UInt32.le_iff_toNat_le] at digit
  exact Nat.le_trans (by decide) digit.1

theorem isPlain_intChars (n : Int) : IsPlain (intChars n) := by
  cases n with
  | ofNat n => exact isPlain_natChars n
  | negSucc n => exact isPlain_cons.mpr ⟨by decide, isPlain_natChars (n + 1)⟩

theorem isPlain_pointAfter (whole : Nat) {digits : List Char} (plain : IsPlain digits) :
    IsPlain (pointAfter whole digits) := by
  refine isPlain_append.mpr ⟨?_, isPlain_cons.mpr ⟨by decide, ?_⟩⟩
  · exact plain.subset (List.take_subset _ _)
  · exact plain.subset (List.drop_subset _ _)

theorem isPlain_scientific (layout : Layout) (s : Scientific) : IsPlain (s.chars layout) := by
  have significand := isPlain_natChars s.significand
  unfold Scientific.chars
  generalize natChars s.significand = ds at significand ⊢
  simp only
  split
  · split
    · refine isPlain_cons.mpr ⟨by decide, isPlain_cons.mpr ⟨by decide, ?_⟩⟩
      exact isPlain_append.mpr ⟨isPlain_replicate _ (by decide), significand⟩
    · split
      · refine isPlain_append.mpr ⟨isPlain_append.mpr ⟨significand, ?_⟩, by decide⟩
        exact isPlain_replicate _ (by decide)
      · exact isPlain_pointAfter _ significand
  · refine isPlain_append.mpr ⟨?_, isPlain_cons.mpr ⟨by decide, isPlain_cons.mpr ⟨?_, ?_⟩⟩⟩
    · split
      · exact significand
      · exact isPlain_pointAfter 1 significand
    · split <;> decide
    · exact isPlain_natChars _

end Decimal

namespace Json

theorem isPlain_floatChars (bits : UInt64) : IsPlain (floatChars bits) := by
  have magnitude : IsPlain (if bits.toNat % signWeight = 0 then ['0', '.', '0']
      else (Decimal.Binary.ofBits (bits.toNat % signWeight)).shortest.chars floatLayout) := by
    split
    · decide
    · exact Decimal.isPlain_scientific _ _
  unfold floatChars
  simp only
  split
  · exact isPlain_cons.mpr ⟨by decide, magnitude⟩
  · exact magnitude

theorem isPlain_numberChars (n : Number) : IsPlain (numberChars n) := by
  cases n with
  | integer n => exact Decimal.isPlain_intChars n
  | float bits => exact isPlain_floatChars bits

private theorem visible_hexChar {d : Nat} (small : d < 16) : 0x20 ≤ (hexChar d).toNat := by
  have all : ∀ d : Fin 16, 0x20 ≤ (hexChar d.val).toNat := by decide
  exact all ⟨d, small⟩

theorem isPlain_stringChar (c : Char) : IsPlain (stringChar c) := by
  unfold stringChar
  -- The characters that have a letter: what is written is always the same.
  iterate 7
    split
    · decide
  split
  · rename_i control
    have high := visible_hexChar (show c.toNat / 16 < 16 by omega)
    have low := visible_hexChar (show c.toNat % 16 < 16 by omega)
    intro d member
    simp only [List.mem_cons, List.not_mem_nil, or_false] at member
    rcases member with rfl | rfl | rfl | rfl | rfl | rfl
    · decide
    · decide
    · decide
    · decide
    · exact high
    · exact low
  · rename_i visible
    intro d member
    rw [List.mem_singleton.mp member]
    omega

theorem isPlain_stringChars (text : String) : IsPlain (stringChars text) := by
  refine isPlain_cons.mpr ⟨by decide, isPlain_append.mpr ⟨?_, by decide⟩⟩
  intro c member
  obtain ⟨d, -, written⟩ := List.mem_flatMap.mp member
  exact isPlain_stringChar d c written

mutual

theorem isPlain_chars : (value : Json) → IsPlain value.chars
  | .null => by decide
  | .bool true => by decide
  | .bool false => by decide
  | .number n => isPlain_numberChars n
  | .string text => isPlain_stringChars text
  | .array items => isPlain_cons.mpr ⟨by decide, isPlain_itemsChars items⟩
  | .object members => isPlain_cons.mpr ⟨by decide, isPlain_membersChars members⟩

theorem isPlain_itemsChars : (items : List Json) → IsPlain (itemsChars items)
  | [] => by decide
  | [item] => isPlain_append.mpr ⟨isPlain_chars item, by decide⟩
  | item :: next :: rest => by
    have later := isPlain_itemsChars (next :: rest)
    exact isPlain_append.mpr ⟨isPlain_chars item, isPlain_cons.mpr ⟨by decide, later⟩⟩

theorem isPlain_membersChars : (members : List (String × Json)) → IsPlain (membersChars members)
  | [] => by decide
  | [(key, value)] => by
    have named : IsPlain (':' :: chars value) := isPlain_cons.mpr ⟨by decide, isPlain_chars value⟩
    exact isPlain_append.mpr ⟨isPlain_append.mpr ⟨isPlain_stringChars key, named⟩, by decide⟩
  | (key, value) :: next :: rest => by
    have named : IsPlain (':' :: chars value) := isPlain_cons.mpr ⟨by decide, isPlain_chars value⟩
    have later := isPlain_membersChars (next :: rest)
    refine isPlain_append.mpr ⟨?_, isPlain_cons.mpr ⟨by decide, later⟩⟩
    exact isPlain_append.mpr ⟨isPlain_stringChars key, named⟩

end

end Json

end Switchboard
