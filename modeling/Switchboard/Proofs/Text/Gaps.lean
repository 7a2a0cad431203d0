import Switchboard.Proofs.Text.Utf8
/-!
What the reader makes of octets that are no text. Their pieces are told without it: a character
wherever the octets of one stand, and elsewhere a gap for the longest run of octets with which those
of some character begin, or for a single octet. Any octets are read in one way only, and it is the
reader's.
-/

set_option autoImplicit false
set_option relaxedAutoImplicit false

namespace Switchboard.Text

def Begins (octets : List UInt8) : Prop := ∃ c, octets <+: String.utf8EncodeChar c

/-- What makes one gap in front of further octets. -/
structure IsGap (gap rest : List UInt8) : Prop where
  nonempty : gap ≠ []
  unreadable : ∀ c, ¬ String.utf8EncodeChar c <+: gap ++ rest
  begun : Begins gap ∨ gap.length = 1
  longest : ∀ octets, octets <+: gap ++ rest → Begins octets → octets.length ≤ gap.length

/-- The pieces of octets: characters, and gaps between them. -/
inductive Reads : List UInt8 → List (Option Char) → Prop
  | nil : Reads [] []
  | char (c : Char) {rest : List UInt8} {pieces : List (Option Char)} :
    Reads rest pieces → Reads (String.utf8EncodeChar c ++ rest) (some c :: pieces)
  | gap {gap rest : List UInt8} {pieces : List (Option Char)} :
    IsGap gap rest → Reads rest pieces → Reads (gap ++ rest) (none :: pieces)

section Unique

variable {octets gap gap' rest rest' : List UInt8} {pieces pieces' : List (Option Char)}

theorem encodeChar_inj {c c' : Char}
    (same : String.utf8EncodeChar c ++ rest = String.utf8EncodeChar c' ++ rest') : c = c' := by
  have read := scanOctets_encodeChar c rest
  rw [same, scanOctets_encodeChar] at read
  exact (Option.some.inj (List.cons.inj read).1).symm

/-- A gap ends where the longest run does, so that two gaps at one place are the same. -/
theorem IsGap.length_le (h : IsGap gap rest) (h' : IsGap gap' rest')
    (same : gap ++ rest = gap' ++ rest') : gap'.length ≤ gap.length := by
  rcases h'.begun with begun | single
  · apply h.longest
    · rw [same]
      exact List.prefix_append gap' rest'
    · exact begun
  · have positive := List.length_pos_iff.mpr h.nonempty
    omega

/-- Octets are read in one way only. -/
theorem Reads.unique (h : Reads octets pieces) (h' : Reads octets pieces') : pieces = pieces' := by
  induction h generalizing pieces' with
  | nil =>
    generalize same : ([] : List UInt8) = octets at h'
    cases h' with
    | nil => rfl
    | char c => exact absurd (List.append_eq_nil_iff.mp same.symm).1 String.utf8EncodeChar_ne_nil
    | gap isGap => exact absurd (List.append_eq_nil_iff.mp same.symm).1 isGap.nonempty
  | @char c rest pieces _ ih =>
    generalize same : String.utf8EncodeChar c ++ rest = octets at h'
    cases h' with
    | nil => exact absurd (List.append_eq_nil_iff.mp same).1 String.utf8EncodeChar_ne_nil
    | char c' read' =>
      obtain rfl := encodeChar_inj same
      rw [ih (List.append_cancel_left same ▸ read')]
    | gap isGap => exact absurd ⟨rest, same⟩ (isGap.unreadable c)
  | @gap gap rest pieces isGap _ ih =>
    generalize same : gap ++ rest = octets at h'
    cases h' with
    | nil => exact absurd (List.append_eq_nil_iff.mp same).1 isGap.nonempty
    | char c => exact absurd ⟨_, same.symm⟩ (isGap.unreadable c)
    | gap isGap' read' =>
      have lengths : gap.length = _ :=
        Nat.le_antisymm (isGap'.length_le isGap same.symm) (isGap.length_le isGap' same)
      rw [ih ((List.append_inj same lengths).2 ▸ read')]

end Unique

/-! ### Sequences

The octets of a character are told by its number: the first one holds its highest bits, and each of
the others six more. -/

theorem toNat_ofNat {v : Nat} (valid : v.isValidChar) : (Char.ofNat v).val.toNat = v := by
  rw [Char.ofNat, dif_pos valid]
  rfl

/-- The last groups of six bits of a number, each in an octet of its own. -/
def groups (v : Nat) : Nat → List UInt8
  | 0 => []
  | n + 1 => UInt8.ofNat ((v >>> (6 * n)) % 64 + 128) :: groups v n

section Widths

variable {d v : Nat}

theorem encodeChar_of_one (small : v < 128) :
    String.utf8EncodeChar (Char.ofNat v) = [UInt8.ofNat v] := by
  have valid : v.isValidChar := Or.inl (by omega)
  rw [String.utf8EncodeChar, toNat_ofNat valid, if_pos (by omega)]

theorem encodeChar_of_two (least : 2 ≤ d) (small : d < 32) (leading : v / 64 = d) :
    String.utf8EncodeChar (Char.ofNat v) = UInt8.ofNat (d + 192) :: groups v 1 := by
  have valid : v.isValidChar := Or.inl (by omega)
  rw [String.utf8EncodeChar, toNat_ofNat valid]
  rw [if_neg (by omega), if_pos (by omega), leading, Nat.mod_eq_of_lt small]
  simp only [groups, Nat.mul_zero, Nat.shiftRight_zero]

theorem encodeChar_of_three (leading : v / 4096 = d) (least : 0x800 ≤ v)
    (valid : v < 0xD800 ∨ 0xDFFF < v ∧ v < 0x10000) :
    String.utf8EncodeChar (Char.ofNat v) = UInt8.ofNat (d + 224) :: groups v 2 := by
  have isChar : v.isValidChar := by
    rcases valid with low | high
    · exact Or.inl low
    · exact Or.inr (by omega)
  have small : d < 16 := by omega
  rw [String.utf8EncodeChar, toNat_ofNat isChar]
  rw [if_neg (by omega), if_neg (by omega), if_pos (by omega), leading, Nat.mod_eq_of_lt small]
  simp only [groups, Nat.shiftRight_eq_div_pow, Nat.reduceMul, Nat.reducePow, Nat.div_one]

theorem encodeChar_of_four (leading : v / 262144 = d) (least : 0x10000 ≤ v) (small : v < 0x110000) :
    String.utf8EncodeChar (Char.ofNat v) = UInt8.ofNat (d + 240) :: groups v 3 := by
  have valid : v.isValidChar := Or.inr (by omega)
  have few : d < 8 := by omega
  rw [String.utf8EncodeChar, toNat_ofNat valid]
  rw [if_neg (by omega), if_neg (by omega), if_neg (by omega), leading, Nat.mod_eq_of_lt few]
  simp only [groups, Nat.shiftRight_eq_div_pow, Nat.reduceMul, Nat.reducePow, Nat.div_one]

end Widths

/-- What is known inside a sequence: each number with the bits so far and a next octet in the
bounds is that of a character, whose octets begin with those seen. -/
structure Leads (seen : List UInt8) (sequence : Pending) : Prop where
  owes : 0 < sequence.owed
  bounds : 128 ≤ sequence.low ∧ sequence.low ≤ sequence.high ∧ sequence.high < 192
  scan : ∀ more, scanOctets none (seen ++ more) = scanOctets (some sequence) more
  spells : ∀ v, v >>> (6 * sequence.owed) = sequence.bits →
    sequence.low ≤ (v >>> (6 * (sequence.owed - 1))) % 64 + 128 →
    (v >>> (6 * (sequence.owed - 1))) % 64 + 128 ≤ sequence.high →
    String.utf8EncodeChar (Char.ofNat v) = seen ++ groups v sequence.owed

/-- A sequence of two, three or four octets begins; the first octet bounds the second one. -/
theorem firstOctet_more {b : Nat} {sequence : Pending} (more : firstOctet b = .more sequence) :
    ∃ d, (2 ≤ d ∧ d < 32 ∧ b = d + 192 ∧ sequence = ⟨d, 1, 0x80, 0xBF⟩) ∨
      (d < 16 ∧ b = d + 224 ∧
        sequence = ⟨d, 2, if d = 0 then 0xA0 else 0x80, if d = 13 then 0x9F else 0xBF⟩) ∨
      (d < 5 ∧ b = d + 240 ∧
        sequence = ⟨d, 3, if d = 0 then 0x90 else 0x80, if d = 4 then 0x8F else 0xBF⟩) := by
  unfold firstOctet at more
  split at more
  · cases more
  split at more
  · obtain rfl := Octet.more.inj more
    exact ⟨b - 0xC0, .inl ⟨by omega, by omega, by omega, rfl⟩⟩
  split at more
  · obtain rfl := Octet.more.inj more
    exact ⟨0, .inr (.inl ⟨by omega, by omega, rfl⟩)⟩
  split at more
  · obtain rfl := Octet.more.inj more
    exact ⟨13, .inr (.inl ⟨by omega, by omega, rfl⟩)⟩
  split at more
  · obtain rfl := Octet.more.inj more
    refine ⟨b - 0xE0, .inr (.inl ⟨by omega, by omega, ?_⟩)⟩
    rw [if_neg (by omega), if_neg (by omega)]
  split at more
  · obtain rfl := Octet.more.inj more
    exact ⟨0, .inr (.inr ⟨by omega, by omega, rfl⟩)⟩
  split at more
  · obtain rfl := Octet.more.inj more
    refine ⟨b - 0xF0, .inr (.inr ⟨by omega, by omega, ?_⟩)⟩
    rw [if_neg (by omega), if_neg (by omega)]
  split at more
  · obtain rfl := Octet.more.inj more
    exact ⟨4, .inr (.inr ⟨by omega, by omega, rfl⟩)⟩
  · cases more

theorem Leads.first {octet : UInt8} {sequence : Pending}
    (more : firstOctet octet.toNat = .more sequence) : Leads [octet] sequence := by
  have scan : ∀ rest, scanOctets none ([octet] ++ rest) = scanOctets (some sequence) rest := by
    intro rest
    rw [List.singleton_append, scanOctets, more]
    rfl
  have same : UInt8.ofNat octet.toNat = octet := UInt8.ofNat_toNat
  obtain ⟨d, ⟨least, small, first, rfl⟩ | ⟨small, first, rfl⟩ | ⟨small, first, rfl⟩⟩ :=
    firstOctet_more more
  · refine ⟨Nat.one_pos, by simp, scan, ?_⟩
    intro v bits _ _
    simp only [Nat.mul_one] at bits
    rw [encodeChar_of_two least small (by omega), ← first, same]
    rfl
  · refine ⟨Nat.two_pos, ?_, scan, ?_⟩
    · simp only
      split <;> split <;> omega
    · intro v bits low high
      simp only [Nat.add_one_sub_one, Nat.reduceMul] at bits low high
      rw [encodeChar_of_three (d := d) (by omega) ?_ ?_, ← first, same]
      · rfl
      · split at low <;> omega
      · split at high <;> omega
  · refine ⟨Nat.succ_pos 2, ?_, scan, ?_⟩
    · simp only
      split <;> split <;> omega
    · intro v bits low high
      simp only [Nat.reduceSub, Nat.reduceMul] at bits low high
      rw [encodeChar_of_four (d := d) (by omega) ?_ ?_, ← first, same]
      · rfl
      · split at low <;> omega
      · split at high <;> omega

section Sequences

variable {seen : List UInt8} {sequence longer : Pending} {octet : UInt8} {c : Char}

theorem next_more {b : Nat} (more : sequence.next b = .more longer) :
    sequence.low ≤ b ∧ b ≤ sequence.high ∧ 1 < sequence.owed ∧
      longer = ⟨sequence.bits * 64 + (b - 0x80), sequence.owed - 1, 0x80, 0xBF⟩ := by
  unfold Pending.next at more
  split at more
  · rename_i within
    simp only at more
    split at more
    · cases more
    · exact ⟨within.1, within.2, by omega, (Octet.more.inj more).symm⟩
  · cases more

theorem next_complete {b : Nat} (complete : sequence.next b = .complete c) :
    sequence.low ≤ b ∧ b ≤ sequence.high ∧ sequence.owed ≤ 1 ∧
      c = Char.ofNat (sequence.bits * 64 + (b - 0x80)) := by
  unfold Pending.next at complete
  split at complete
  · rename_i within
    simp only at complete
    split at complete
    · rename_i last
      exact ⟨within.1, within.2, last, (Octet.complete.inj complete).symm⟩
    · cases complete
  · cases complete

theorem Leads.next (h : Leads seen sequence) (more : sequence.next octet.toNat = .more longer) :
    Leads (seen ++ [octet]) longer := by
  obtain ⟨atLeast, atMost, several, rfl⟩ := next_more more
  obtain ⟨n, owed⟩ : ∃ n, sequence.owed = n + 2 := ⟨sequence.owed - 2, by omega⟩
  have bounds := h.bounds
  refine ⟨?_, by simp, ?_, ?_⟩
  · simp only
    omega
  · intro rest
    rw [List.append_assoc, h.scan, List.singleton_append, scanOctets, more]
  · intro v bits low high
    have spelled := h.spells v
    simp only [owed, Nat.add_one_sub_one] at bits spelled ⊢
    have earlier : v >>> (6 * (n + 2)) = sequence.bits := by
      rw [Nat.mul_succ, Nat.shiftRight_add, bits]
      omega
    have group : (v >>> (6 * (n + 1))) % 64 + 128 = octet.toNat := by omega
    rw [spelled earlier (by omega) (by omega), groups, group, UInt8.ofNat_toNat,
      List.append_assoc, List.singleton_append]

theorem Leads.complete (h : Leads seen sequence)
    (complete : sequence.next octet.toNat = .complete c) :
    String.utf8EncodeChar c = seen ++ [octet] := by
  obtain ⟨atLeast, atMost, last, same⟩ := next_complete complete
  have owed : sequence.owed = 1 := by
    have owes := h.owes
    omega
  have bounds := h.bounds
  have spelled := h.spells (sequence.bits * 64 + (octet.toNat - 128))
  simp only [owed, Nat.sub_self, Nat.mul_zero, Nat.mul_one, Nat.shiftRight_zero] at spelled
  have group : (sequence.bits * 64 + (octet.toNat - 128)) % 64 + 128 = octet.toNat := by omega
  rw [same, spelled (by omega) (by omega) (by omega), groups, groups, Nat.mul_zero,
    Nat.shiftRight_zero, group, UInt8.ofNat_toNat]

theorem Leads.begins (h : Leads seen sequence) : Begins seen := by
  obtain ⟨n, owed⟩ : ∃ n, sequence.owed = n + 1 := ⟨sequence.owed - 1, by have := h.owes; omega⟩
  obtain ⟨x, lowest⟩ : ∃ x, x = sequence.bits * 64 + (sequence.low - 128) := ⟨_, rfl⟩
  have bounds := h.bounds
  have group : (x <<< (6 * n)) >>> (6 * n) = x := Nat.shiftLeft_shiftRight x (6 * n)
  have bits : (x <<< (6 * n)) >>> (6 * (n + 1)) = sequence.bits := by
    rw [Nat.mul_succ, Nat.shiftRight_add, group]
    omega
  have spelled := h.spells (x <<< (6 * n))
  rw [owed, Nat.add_one_sub_one, group] at spelled
  exact ⟨_, _, (spelled bits (by omega) (by omega)).symm⟩

theorem Leads.scan_seen (h : Leads seen sequence) : scanOctets none seen = [none] := by
  have scanned := h.scan []
  rw [List.append_nil] at scanned
  rw [scanned, scanOctets]

/-- An octet that a sequence refuses ends a gap, whatever comes next. -/
theorem Leads.scan_refused (h : Leads seen sequence)
    (refused : sequence.next octet.toNat = .refused) (more : List UInt8) :
    scanOctets none (seen ++ octet :: more) = none :: scanOctets none (octet :: more) := by
  rw [h.scan]
  simp only [scanOctets, refused]

end Sequences

section Reader

variable {gap rest : List UInt8}

theorem encodeChar_not_prefix {octets : List UInt8} {pieces : List (Option Char)}
    (scanned : scanOctets none octets = none :: pieces) (c : Char) :
    ¬ String.utf8EncodeChar c <+: octets := by
  rintro ⟨more, rfl⟩
  rw [scanOctets_encodeChar] at scanned
  cases scanned

/-- The reader yields gaps where there are some: at octets in which it finds no character, and none
with the next octet either, whatever may follow. -/
theorem IsGap.of_scan (nonempty : gap ≠ []) (begun : Begins gap ∨ gap.length = 1)
    (alone : ∃ pieces, scanOctets none gap = none :: pieces)
    (further : ∀ octet ∈ rest.head?, ∀ more, ∃ pieces,
      scanOctets none (gap ++ octet :: more) = none :: pieces) : IsGap gap rest := by
  have longest : ∀ octets, octets <+: gap ++ rest → Begins octets →
      octets.length ≤ gap.length := by
    rintro octets standing ⟨c, begins⟩
    apply Nat.le_of_not_lt
    intro longer
    cases rest with
    | nil =>
      have bound := standing.length_le
      rw [List.append_nil] at bound
      omega
    | cons octet tail =>
      have next : gap ++ [octet] <+: octets := by
        apply List.prefix_of_prefix_length_le _ standing
        · rw [List.length_append, List.length_singleton]
          omega
        · exact ⟨tail, List.append_assoc gap [octet] tail⟩
      obtain ⟨more, whole⟩ := next.trans begins
      obtain ⟨pieces, scanned⟩ := further octet rfl more
      rw [← List.singleton_append, ← List.append_assoc, whole] at scanned
      exact encodeChar_not_prefix scanned c (List.prefix_refl _)
  refine ⟨nonempty, ?_, begun, longest⟩
  intro c standing
  obtain ⟨pieces, scanned⟩ := alone
  apply encodeChar_not_prefix scanned c
  apply List.prefix_of_prefix_length_le standing (List.prefix_append gap rest)
  exact longest _ standing ⟨c, List.prefix_refl _⟩

theorem Leads.isGap {seen : List UInt8} {sequence : Pending} (h : Leads seen sequence)
    (refused : ∀ octet ∈ rest.head?, sequence.next octet.toNat = .refused) : IsGap seen rest := by
  apply IsGap.of_scan
  · rintro rfl
    have scanned := h.scan_seen
    cases scanned
  · exact .inl h.begins
  · exact ⟨_, h.scan_seen⟩
  · intro octet next more
    exact ⟨_, h.scan_refused (refused octet next) more⟩

theorem scanOctets_refused {octet : UInt8} (refused : firstOctet octet.toNat = .refused)
    (more : List UInt8) : scanOctets none (octet :: more) = none :: scanOctets none more := by
  rw [scanOctets, refused, continueFrom]

theorem isGap_of_refused {octet : UInt8} (refused : firstOctet octet.toNat = .refused) :
    IsGap [octet] rest := by
  apply IsGap.of_scan
  · exact List.cons_ne_nil octet []
  · exact .inr rfl
  · exact ⟨_, scanOctets_refused refused []⟩
  · intro next _ more
    exact ⟨_, scanOctets_refused refused (next :: more)⟩

theorem encodeChar_of_complete {octet : UInt8} {c : Char}
    (complete : firstOctet octet.toNat = .complete c) : String.utf8EncodeChar c = [octet] := by
  unfold firstOctet at complete
  split at complete
  · rename_i small
    rw [← Octet.complete.inj complete, encodeChar_of_one (by omega), UInt8.ofNat_toNat]
  -- every other first octet begins a sequence or is refused
  · repeat' split at complete
    all_goals cases complete

/-- The reader reads any octets, from outside and from inside a sequence. -/
theorem scanOctets_reads (octets : List UInt8) :
    Reads octets (scanOctets none octets) ∧ ∀ seen sequence, Leads seen sequence →
      Reads (seen ++ octets) (scanOctets (some sequence) octets) := by
  induction octets with
  | nil =>
    refine ⟨.nil, ?_⟩
    intro seen sequence leads
    exact .gap (leads.isGap nofun) .nil
  | cons octet rest ih =>
    have outside : Reads (octet :: rest) (scanOctets none (octet :: rest)) := by
      cases first : firstOctet octet.toNat with
      | complete c =>
        have read := Reads.char c ih.1
        rw [encodeChar_of_complete first, List.singleton_append] at read
        rwa [scanOctets, first, continueFrom]
      | more sequence =>
        have leads := Leads.first first
        rw [← List.singleton_append, leads.scan]
        exact ih.2 _ sequence leads
      | refused =>
        rw [scanOctets_refused first]
        exact .gap (isGap_of_refused first) ih.1
    refine ⟨outside, ?_⟩
    intro seen sequence leads
    cases next : sequence.next octet.toNat with
    | complete c =>
      have read := Reads.char c ih.1
      rw [leads.complete next, List.append_assoc, List.singleton_append] at read
      rwa [scanOctets, next]
    | more extended =>
      have longer := leads.next next
      have read := ih.2 _ extended longer
      rw [List.append_assoc, List.singleton_append] at read
      rwa [scanOctets, next]
    | refused =>
      -- the octet is read once more, as the first one behind the gap
      rw [← leads.scan, leads.scan_refused next]
      apply Reads.gap _ outside
      apply leads.isGap
      intro other same
      rwa [← Option.some.inj same]

theorem decodeLossy_of_reads {octets : List UInt8} {pieces : List (Option Char)}
    (reads : Reads octets pieces) :
    decodeLossy octets =
      String.ofList (pieces.map fun piece => piece.getD replacementCharacter) := by
  rw [decodeLossy, (scanOctets_reads octets).1.unique reads]

/-- A character broken off is one gap; a surrogate is one for each of its octets. -/
example : decodeLossy [0xE2, 0x82, 0x41, 0xED, 0xA0, 0x80] = "\uFFFDA\uFFFD\uFFFD\uFFFD" := by
  decide +kernel

theorem decodeLossy_encode (text : String) : decodeLossy (encode text) = text := by
  have whole : (text.toList.map some).map (fun piece => piece.getD replacementCharacter) =
      text.toList := by
    rw [List.map_map]
    exact List.map_id _
  rw [decodeLossy, scanOctets_encode, whole, String.ofList_toList]

end Reader

end Switchboard.Text
