import Switchboard.Text.Utf8
/-!
Texts survive their octets: the reader finds in the octets of a text the characters of the text,
each whole and none besides.
-/

set_option autoImplicit false
set_option relaxedAutoImplicit false

namespace Switchboard.Text

section Sequences

variable {bits owed low high d t : Nat}

private theorem toNat_octet {n : Nat} (small : n < 256) : (UInt8.ofNat n).toNat = n :=
  UInt8.toNat_ofNat_of_lt' small

private theorem scanOctets_last (within : low ≤ t + 128 ∧ t + 128 ≤ high) (small : t < 64)
    (rest : List UInt8) :
    scanOctets (some ⟨bits, 1, low, high⟩) (UInt8.ofNat (t + 128) :: rest) =
      some (Char.ofNat (bits * 64 + t)) :: scanOctets none rest := by
  have taken : Pending.next ⟨bits, 1, low, high⟩ (t + 128) =
      .complete (Char.ofNat (bits * 64 + t)) := by
    simp [Pending.next, within]
  rw [scanOctets, toNat_octet (by omega), taken]

private theorem scanOctets_more (within : low ≤ t + 128 ∧ t + 128 ≤ high) (small : t < 64)
    (rest : List UInt8) :
    scanOctets (some ⟨bits, owed + 2, low, high⟩) (UInt8.ofNat (t + 128) :: rest) =
      scanOctets (some ⟨bits * 64 + t, owed + 1, 0x80, 0xBF⟩) rest := by
  have taken : Pending.next ⟨bits, owed + 2, low, high⟩ (t + 128) =
      .more ⟨bits * 64 + t, owed + 1, 0x80, 0xBF⟩ := by
    simp [Pending.next, within]
  rw [scanOctets, toNat_octet (by omega), taken]

private theorem scanOctets_first (small : d < 256) (rest : List UInt8) :
    scanOctets none (UInt8.ofNat d :: rest) =
      continueFrom (firstOctet d) fun state => scanOctets state rest := by
  rw [scanOctets, toNat_octet small]

/-! The first octet of a sequence bounds its second one, so that nothing is written in more octets
than it needs and no surrogate is written at all. -/

private theorem firstOctet_of_two (least : 2 ≤ d) (small : d < 32) :
    firstOctet (d + 192) = .more ⟨d, 1, 0x80, 0xBF⟩ := by
  have all : ∀ d : Fin 32, 2 ≤ d.val →
      firstOctet (d.val + 192) = .more ⟨d.val, 1, 0x80, 0xBF⟩ := by decide
  exact all ⟨d, small⟩ least

private theorem firstOctet_of_three (small : d < 16) : firstOctet (d + 224) =
    .more ⟨d, 2, if d = 0 then 0xA0 else 0x80, if d = 13 then 0x9F else 0xBF⟩ := by
  have all : ∀ d : Fin 16, firstOctet (d.val + 224) =
      .more ⟨d.val, 2, if d.val = 0 then 0xA0 else 0x80,
        if d.val = 13 then 0x9F else 0xBF⟩ := by decide
  exact all ⟨d, small⟩

private theorem firstOctet_of_four (small : d < 5) : firstOctet (d + 240) =
    .more ⟨d, 3, if d = 0 then 0x90 else 0x80, if d = 4 then 0x8F else 0xBF⟩ := by
  have all : ∀ d : Fin 5, firstOctet (d.val + 240) =
      .more ⟨d.val, 3, if d.val = 0 then 0x90 else 0x80,
        if d.val = 4 then 0x8F else 0xBF⟩ := by decide
  exact all ⟨d, small⟩

end Sequences

theorem scanOctets_encodeChar (c : Char) (rest : List UInt8) :
    scanOctets none (String.utf8EncodeChar c ++ rest) = some c :: scanOctets none rest := by
  have valid : c.val.toNat < 0xD800 ∨ 0xDFFF < c.val.toNat ∧ c.val.toNat < 0x110000 := c.valid
  have same : Char.ofNat c.val.toNat = c := Char.ofNat_toNat c
  unfold String.utf8EncodeChar
  generalize c.val.toNat = v at valid same
  simp only
  split
  · rename_i one
    rw [List.singleton_append, scanOctets_first (by omega), firstOctet, if_pos one, continueFrom,
      same]
  split
  · rename_i notOne two
    have whole : v / 64 % 32 * 64 + v % 64 = v := by omega
    simp only [List.cons_append, List.nil_append]
    rw [scanOctets_first (by omega), firstOctet_of_two (by omega) (by omega), continueFrom,
      scanOctets_last (by omega) (by omega), whole, same]
  split
  · rename_i notTwo three
    have whole : (v / 4096 % 16 * 64 + v / 64 % 64) * 64 + v % 64 = v := by omega
    simp only [List.cons_append, List.nil_append]
    rw [scanOctets_first (by omega), firstOctet_of_three (by omega), continueFrom,
      scanOctets_more (by split <;> split <;> omega) (by omega),
      scanOctets_last (by omega) (by omega), whole, same]
  · rename_i notThree
    have whole :
        ((v / 262144 % 8 * 64 + v / 4096 % 64) * 64 + v / 64 % 64) * 64 + v % 64 = v := by omega
    simp only [List.cons_append, List.nil_append]
    rw [scanOctets_first (by omega), firstOctet_of_four (by omega), continueFrom,
      scanOctets_more (by split <;> split <;> omega) (by omega),
      scanOctets_more (by omega) (by omega), scanOctets_last (by omega) (by omega), whole, same]

theorem scanOctets_encode (text : String) :
    scanOctets none (encode text) = text.toList.map some := by
  unfold encode
  induction text.toList with
  | nil => rfl
  | cons c rest ih => rw [List.flatMap_cons, scanOctets_encodeChar, ih, List.map_cons]

theorem decode?_encode (text : String) : decode? (encode text) = some text := by
  have all : (text.toList.map some).mapM id = some text.toList := by
    induction text.toList with
    | nil => rfl
    | cons c rest ih => simp [ih]
  rw [decode?, scanOctets_encode, all, Option.map_some, String.ofList_toList]

end Switchboard.Text
