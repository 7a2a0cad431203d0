import Switchboard.Json.Written
/-!
Decimal digits, written and read back. The digits of a number stand for that number, have no leading
zero, and are found again at the start of every text that goes on with no digit.
-/

set_option autoImplicit false
set_option relaxedAutoImplicit false

namespace Switchboard.Decimal

variable {n d : Nat}

theorem lt_of_mem_digits (member : d ∈ digits n) : d < 10 := by
  induction n using digits.induct with
  | case1 n small =>
    rw [digits, if_pos small, List.mem_singleton] at member
    rwa [member]
  | case2 n large ih =>
    rw [digits, if_neg large] at member
    rcases List.mem_append.mp member with front | last
    · exact ih front
    · rw [List.mem_singleton.mp last]
      exact Nat.mod_lt n (by decide)

theorem ofDigits_digits (n : Nat) : ofDigits (digits n) = n := by
  induction n using digits.induct with
  | case1 n small =>
    rw [digits, if_pos small]
    simp [ofDigits]
  | case2 n large ih =>
    rw [digits, if_neg large]
    simp only [ofDigits, List.foldl_append, List.foldl_cons, List.foldl_nil] at ih ⊢
    rw [ih]
    omega

theorem digits_ne_nil (n : Nat) : digits n ≠ [] := by
  rw [digits]
  split
  · exact List.cons_ne_nil _ _
  · exact List.append_ne_nil_of_right_ne_nil _ (List.cons_ne_nil _ _)

theorem digits_of_head (leads : (digits n).head? = some 0) : digits n = [0] := by
  induction n using digits.induct with
  | case1 n small =>
    rw [digits, if_pos small] at leads ⊢
    cases leads
    rfl
  | case2 n large ih =>
    have begins : (digits (n / 10)).head? = some 0 := by
      obtain ⟨first, others, front⟩ := List.exists_cons_of_ne_nil (digits_ne_nil (n / 10))
      rw [digits, if_neg large, front] at leads
      rw [front]
      exact leads
    have front := ofDigits_digits (n / 10)
    rw [ih begins] at front
    have zero : ofDigits [0] = 0 := rfl
    omega

theorem digitValue_digitChar (small : d < 10) : digitValue (digitChar d) = d := by
  have all : ∀ d : Fin 10, digitValue (digitChar d) = d := by decide
  exact all ⟨d, small⟩

theorem isDigit_digitChar (small : d < 10) : (digitChar d).isDigit = true := by
  have all : ∀ d : Fin 10, (digitChar d).isDigit = true := by decide
  exact all ⟨d, small⟩

theorem isDigit_of_mem_natChars {c : Char} (member : c ∈ natChars n) : c.isDigit = true := by
  obtain ⟨d, isDigit, rfl⟩ := List.mem_map.mp member
  exact isDigit_digitChar (lt_of_mem_digits isDigit)

theorem natChars_ne_nil (n : Nat) : natChars n ≠ [] := by
  simp [natChars, digits_ne_nil]

theorem takeDigits_natChars (n : Nat) {rest : List Char}
    (ends : ∀ c ∈ rest.head?, c.isDigit = false) :
    Written.takeDigits (natChars n ++ rest) = (digits n, rest) := by
  have whole : ∀ c ∈ natChars n, c.isDigit = true := fun c => isDigit_of_mem_natChars
  have stops : rest.takeWhile Char.isDigit = [] ∧ rest.dropWhile Char.isDigit = rest := by
    cases rest with
    | nil => exact ⟨rfl, rfl⟩
    | cons c rest => simp [ends c rfl]
  have values : (natChars n).map digitValue = digits n := by
    rw [natChars, List.map_map]
    refine (List.map_congr_left fun d member => ?_).trans (List.map_id _)
    exact digitValue_digitChar (lt_of_mem_digits member)
  rw [Written.takeDigits, List.takeWhile_append_of_pos whole, List.dropWhile_append_of_pos whole,
    stops.1, stops.2, List.append_nil, values]

theorem readUpTo_eq_some_iff {limit : Nat} {text : List Char} :
    readUpTo limit text = some n ↔
      ∃ ds, (text = ds ∨ text = '+' :: ds) ∧ ds ≠ [] ∧ (∀ c ∈ ds, c.isDigit) ∧
        ofDigits (ds.map digitValue) = n ∧ n ≤ limit := by
  have unsigned : ∀ ds : List Char,
      (if ds = [] ∨ (!ds.all Char.isDigit) = true then none
        else if ofDigits (ds.map digitValue) ≤ limit then some (ofDigits (ds.map digitValue))
        else none) = some n ↔
      ds ≠ [] ∧ (∀ c ∈ ds, c.isDigit) ∧ ofDigits (ds.map digitValue) = n ∧ n ≤ limit := by
    intro ds
    by_cases irregular : ds = [] ∨ (!ds.all Char.isDigit) = true
    · rw [if_pos irregular]
      refine ⟨fun isRead => (nomatch isRead), ?_⟩
      rintro ⟨notEmpty, all, -⟩
      rcases irregular with empty | some
      · exact absurd empty notEmpty
      · simp [List.all_eq_true.mpr all] at some
    · rw [if_neg irregular]
      simp only [not_or, Bool.not_eq_true', Bool.not_eq_false, List.all_eq_true] at irregular
      by_cases fits : ofDigits (ds.map digitValue) ≤ limit
      · rw [if_pos fits]
        constructor
        · intro isRead
          cases isRead
          exact ⟨irregular.1, irregular.2, rfl, fits⟩
        · rintro ⟨-, -, rfl, -⟩
          rfl
      · rw [if_neg fits]
        refine ⟨fun isRead => (nomatch isRead), ?_⟩
        rintro ⟨-, -, rfl, small⟩
        exact absurd small fits
  simp only [readUpTo]
  split
  · rename_i rest
    refine (unsigned rest).trans ⟨fun regular => ⟨rest, .inr rfl, regular⟩, ?_⟩
    rintro ⟨ds, bare | signed, regular⟩
    · -- a plus sign is no digit
      rw [← bare] at regular
      exact absurd (regular.2.1 '+' List.mem_cons_self) (by decide)
    · cases signed
      exact regular
  · rename_i notSigned
    refine (unsigned text).trans ⟨fun regular => ⟨text, .inl rfl, regular⟩, ?_⟩
    rintro ⟨ds, bare | signed, regular⟩
    · rw [bare]
      exact regular
    · exact absurd signed (notSigned ds)

end Switchboard.Decimal
