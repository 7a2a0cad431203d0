import Switchboard.Proofs.Decimal.Digits
import Switchboard.Proofs.Json.Shape
import Switchboard.Json.Writer
/-!
What is written is found again. The grammar finds in the characters of a string, of an integer and
of a whole value just one written value, whatever comes behind them, and this has the string, the
integer and the value for its meaning, as long as the levels suffice.
-/

set_option autoImplicit false
set_option relaxedAutoImplicit false

namespace Switchboard

def Number.IsExact (n : Number) : Prop := n.IsInteger ∧ n.IsHeld

namespace Written

/-- A text with which no number goes on. -/
def EndsNumber (rest : List Char) : Prop :=
  ∀ c ∈ rest.head?, c.isDigit = false ∧ c ≠ '.' ∧ c ≠ 'e' ∧ c ≠ 'E'

section Numbers

variable {rest : List Char}

theorem readFraction_endsNumber (ends : EndsNumber rest) : readFraction rest = some ([], rest) := by
  unfold readFraction
  split
  · exact absurd rfl (ends '.' rfl).2.1
  · rfl

theorem readExponent_endsNumber (ends : EndsNumber rest) :
    readExponent rest = some (none, rest) := by
  cases rest with
  | nil => rfl
  | cons c rest =>
    obtain ⟨-, -, notSmall, notCapital⟩ := ends c rfl
    simp [readExponent, notSmall, notCapital]

theorem readUnsigned_natChars (negative : Bool) (n : Nat) (ends : EndsNumber rest) :
    readUnsigned negative (Decimal.natChars n ++ rest) =
      some (⟨negative, Decimal.digits n, [], none⟩, rest) := by
  have regular : ¬(Decimal.digits n = [] ∨
      ((Decimal.digits n).head? = some 0 ∧ Decimal.digits n ≠ [0])) := by
    rintro (empty | ⟨leads, isOther⟩)
    · exact Decimal.digits_ne_nil n empty
    · exact isOther (Decimal.digits_of_head leads)
  rw [readUnsigned, Decimal.takeDigits_natChars n fun c first => (ends c first).1]
  simp only [if_neg regular, readFraction_endsNumber ends, readExponent_endsNumber ends,
    Option.bind_eq_bind, Option.bind_some]

def numeralOf : Int → Numeral
  | .ofNat n => ⟨false, Decimal.digits n, [], none⟩
  | .negSucc n => ⟨true, Decimal.digits (n + 1), [], none⟩

theorem readNumeral_intChars (n : Int) (ends : EndsNumber rest) :
    readNumeral (Decimal.intChars n ++ rest) = some (numeralOf n, rest) := by
  cases n with
  | negSucc n => exact readUnsigned_natChars true (n + 1) ends
  | ofNat n =>
    have unsigned := readUnsigned_natChars false n ends
    obtain ⟨first, others, chars⟩ := List.exists_cons_of_ne_nil (Decimal.natChars_ne_nil n)
    have isDigit : first.isDigit = true :=
      Decimal.isDigit_of_mem_natChars (n := n) (by rw [chars]; exact List.mem_cons_self)
    simp only [Decimal.intChars, chars, List.cons_append] at unsigned ⊢
    unfold readNumeral
    split
    · rename_i sign
      cases sign
      cases isDigit
    · exact unsigned

end Numbers

end Written

namespace Json

private theorem le_foldl_digits (ds : List Nat) (start : Nat) :
    start ≤ ds.foldl (fun value d => value * 10 + d) start := by
  induction ds generalizing start with
  | nil => exact Nat.le_refl start
  | cons d rest ih =>
    have later := ih (start * 10 + d)
    rw [List.foldl_cons]
    omega

private theorem absorb_all (start : Nat) (ds : List Nat)
    (fits : ds.foldl (fun value d => value * 10 + d) start ≤ greatestUnsigned) :
    absorb start ds = (ds.foldl (fun value d => value * 10 + d) start, ds.length, 0) := by
  induction ds generalizing start with
  | nil => rfl
  | cons d rest ih =>
    rw [List.foldl_cons] at fits
    have next : start * 10 + d ≤ greatestUnsigned := Nat.le_trans (le_foldl_digits rest _) fits
    simp only [absorb, if_pos next, ih _ fits, List.foldl_cons, List.length_cons]

private theorem absorb_digits {n : Nat} (fits : n ≤ greatestUnsigned) :
    absorb 0 (Decimal.digits n) = (n, (Decimal.digits n).length, 0) := by
  have value : (Decimal.digits n).foldl (fun value d => value * 10 + d) 0 = n :=
    Decimal.ofDigits_digits n
  rw [absorb_all 0 _ (by rw [value]; exact fits), value]

theorem ofNumeral_numeralOf {n : Int} (held : (Number.integer n).IsHeld) :
    ofNumeral (Written.numeralOf n) = .ok (.integer n) := by
  obtain ⟨least, greatest⟩ := held
  cases n with
  | ofNat n =>
    have fits : n ≤ greatestUnsigned := Int.ofNat_le.mp greatest
    simp [ofNumeral, Written.numeralOf, absorb_digits fits]
  | negSucc n =>
    -- the least signed integer has a significand of its own, one above the greatest signed one
    have reach : n + 1 ≤ signedReach := by omega
    have fits : n + 1 ≤ greatestUnsigned := Nat.le_trans reach (by decide)
    simp [ofNumeral, Written.numeralOf, absorb_digits fits, reach, Int.negSucc_eq]

/-- The glyph that a character of a string is written as: a control character without a letter of
its own is written by its number. -/
def glyphOf (c : Char) : Glyph :=
  if c.toNat < 0x20 ∧ c ≠ '\n' ∧ c ≠ '\r' ∧ c ≠ '\t' ∧ c.toNat ≠ 8 ∧ c.toNat ≠ 12 then
    .unit c.toNat
  else .char c

/-- How a character is spelled in a string, and the glyph that is read of it. -/
private inductive CharSpelling (c : Char) : List Char → Glyph → Prop
  | letter (letter : Char) : letter ≠ 'u' → Written.escaped? letter = some c →
    CharSpelling c ['\\', letter] (.char c)
  | unit : c.toNat < 0x20 →
    CharSpelling c ['\\', 'u', '0', '0', hexChar (c.toNat / 16), hexChar (c.toNat % 16)]
      (.unit c.toNat)
  | plain : c ≠ '"' → c ≠ '\\' → ¬c.toNat < 0x20 → CharSpelling c [c] (.char c)

private theorem stringChar_spelling (c : Char) : CharSpelling c (stringChar c) (glyphOf c) := by
  unfold stringChar
  split
  · rename_i same
    subst same
    exact .letter '"' (by decide) (by decide)
  split
  · rename_i same
    subst same
    exact .letter '\\' (by decide) (by decide)
  split
  · rename_i same
    subst same
    exact .letter 'n' (by decide) (by decide)
  split
  · rename_i same
    subst same
    exact .letter 'r' (by decide) (by decide)
  split
  · rename_i same
    subst same
    exact .letter 't' (by decide) (by decide)
  split
  · rename_i code
    obtain rfl : c = Char.ofNat 8 := by rw [← code, Char.ofNat_toNat]
    exact .letter 'b' (by decide) (by decide)
  split
  · rename_i code
    obtain rfl : c = Char.ofNat 12 := by rw [← code, Char.ofNat_toNat]
    exact .letter 'f' (by decide) (by decide)
  rename_i notQuote notEscape notN notR notT notB notF
  split
  · rename_i control
    rw [glyphOf, if_pos ⟨control, notN, notR, notT, notB, notF⟩]
    exact .unit control
  · rename_i printable
    rw [glyphOf, if_neg fun control => printable control.1]
    exact .plain notQuote notEscape printable

section Strings

private theorem hexValue?_hexChar {d : Nat} (small : d < 16) :
    Written.hexValue? (hexChar d) = some d := by
  have all : ∀ d : Fin 16, Written.hexValue? (hexChar d) = some d.val := by decide
  exact all ⟨d, small⟩

private theorem readGlyphs_spelling {c : Char} {chars : List Char} {glyph : Glyph}
    (spelling : CharSpelling c chars glyph) (rest : List Char) :
    Written.readGlyphs (chars ++ rest) =
      (Written.readGlyphs rest).bind fun read => some (glyph :: read.1, read.2) := by
  cases spelling with
  | letter letter notUnit escaped =>
    rw [List.cons_append, List.singleton_append, Written.readGlyphs]
    · simp [escaped]
    · simp [notUnit]
  | unit control =>
    have zero : Written.hexValue? '0' = some 0 := by decide
    have code : c.toNat / 16 * 16 + c.toNat % 16 = c.toNat := by omega
    simp only [List.cons_append, List.nil_append]
    rw [Written.readGlyphs, zero, hexValue?_hexChar (by omega), hexValue?_hexChar (by omega)]
    simp [code]
  | plain notQuote notEscape printable =>
    rw [List.singleton_append, Written.readGlyphs]
    · simp [notEscape, printable]
    · simpa using notQuote
    · simp [notEscape]
    · simp [notEscape]

theorem readGlyphs_string (cs rest : List Char) :
    Written.readGlyphs (cs.flatMap stringChar ++ '"' :: rest) = some (cs.map glyphOf, rest) := by
  induction cs with
  | nil => rfl
  | cons c cs ih =>
    rw [List.flatMap_cons, List.append_assoc, readGlyphs_spelling (stringChar_spelling c), ih]
    rfl

private theorem ofGlyphs_glyphOf (c : Char) (glyphs : List Glyph) :
    ofGlyphs (glyphOf c :: glyphs) = (c :: ·) <$> ofGlyphs glyphs := by
  unfold glyphOf
  split
  · rename_i control
    have low : c.toNat < 0xD800 := Nat.lt_trans control.1 (by decide)
    cases glyphs with
    | nil => simp [ofGlyphs, low]
    | cons next rest => cases next <;> simp [ofGlyphs, low]
  · rw [ofGlyphs]

theorem textOfGlyphs_glyphOf (text : String) :
    textOfGlyphs (text.toList.map glyphOf) = .ok text := by
  have all : ∀ cs : List Char, ofGlyphs (cs.map glyphOf) = .ok cs := by
    intro cs
    induction cs with
    | nil => rfl
    | cons c cs ih =>
      rw [List.map_cons, ofGlyphs_glyphOf, ih]
      rfl
  rw [textOfGlyphs, all]
  exact congrArg Except.ok String.ofList_toList

end Strings

end Json

namespace Written

open Json (itemsChars membersChars stringChars)

/-- The grammar finds a written value in some characters, whatever comes behind them. -/
def Spells (chars : List Char) (w : Written) : Prop :=
  ∀ fuel rest, 2 * chars.length ≤ fuel → EndsNumber rest →
    readValue fuel (chars ++ rest) = some (w, rest)

/-- A written value stands for a value, as far as the levels suffice. -/
def Means (w : Written) (v : Json) : Prop :=
  ∀ levels, w.value levels = if v.depth ≤ levels then .ok v else .error .tooDeep

/-- The grammar finds written items in some characters, and they stand for items. -/
structure ItemsRead (chars : List Char) (ws : List Written) (items : List Json) : Prop where
  spelled : ∀ fuel rest, 2 * chars.length ≤ fuel → readItems fuel (chars ++ rest) = some (ws, rest)
  meant : ∀ levels, itemValues levels ws =
    if Json.itemsDepth items ≤ levels then .ok items else .error .tooDeep

structure MembersRead (chars : List Char) (ws : List (List Glyph × Written))
    (members : List (String × Json)) : Prop where
  spelled : ∀ fuel rest, 2 * chars.length ≤ fuel →
    readMembers fuel (chars ++ rest) = some (ws, rest)
  meant : ∀ levels, memberValues levels ws =
    if Json.membersDepth members ≤ levels then .ok members else .error .tooDeep

section Grammar

variable {c : Char} {rest text chars : List Char} {fuel : Nat} {w : Written}

theorem skipSpace_cons (notSpace : isSpace c = false) (rest : List Char) :
    skipSpace (c :: rest) = c :: rest := by
  simp [skipSpace, notSpace]

theorem endsNumber_cons (notDigit : c.isDigit = false)
    (others : c ≠ '.' ∧ c ≠ 'e' ∧ c ≠ 'E') (rest : List Char) : EndsNumber (c :: rest) := by
  intro first isFirst
  cases isFirst
  exact ⟨notDigit, others⟩

private theorem Spells.intro (ne : chars ≠ [])
    (h : ∀ fuel rest, 2 * chars.length ≤ fuel + 1 → EndsNumber rest →
      readValue (fuel + 1) (chars ++ rest) = some (w, rest)) : Spells chars w := by
  intro fuel rest enough ends
  have positive := List.length_pos_iff.mpr ne
  obtain ⟨fuel, rfl⟩ : ∃ less, fuel = less + 1 := ⟨fuel - 1, by omega⟩
  exact h fuel rest enough ends

private theorem spells_null : Spells ['n', 'u', 'l', 'l'] .null :=
  .intro (by simp) fun fuel rest _ _ => rfl

theorem spells_true : Spells ['t', 'r', 'u', 'e'] (.bool true) :=
  .intro (by simp) fun fuel rest _ _ => rfl

theorem spells_false : Spells ['f', 'a', 'l', 's', 'e'] (.bool false) :=
  .intro (by simp) fun fuel rest _ _ => rfl

theorem spells_string (text : String) :
    Spells (stringChars text) (.string (text.toList.map Json.glyphOf)) := by
  refine .intro (by simp [stringChars]) fun fuel rest _ _ => ?_
  have read := Json.readGlyphs_string text.toList rest
  rw [stringChars, List.cons_append, List.append_assoc, readValue, skipSpace_cons (by decide)]
  simp [read]

private def StartsNumber (c : Char) : Prop := c.isDigit = true ∨ c = '-'

private theorem StartsNumber.ne (h : StartsNumber c) {other : Char}
    (notDigit : other.isDigit = false) (notSign : other ≠ '-') : c ≠ other := by
  rintro rfl
  rcases h with isDigit | isSign
  · rw [notDigit] at isDigit
    cases isDigit
  · exact notSign isSign

private theorem StartsNumber.notSpace (h : StartsNumber c) : isSpace c = false := by
  have blank : c ≠ ' ' := h.ne (by decide) (by decide)
  have tab : c ≠ '\t' := h.ne (by decide) (by decide)
  have newline : c ≠ '\n' := h.ne (by decide) (by decide)
  have carriage : c ≠ '\r' := h.ne (by decide) (by decide)
  simp [isSpace, blank, tab, newline, carriage]

private theorem readValue_number (first : StartsNumber c) (rest : List Char) :
    readValue (fuel + 1) (c :: rest) =
      (readNumeral (c :: rest)).map fun read => (.number read.1, read.2) := by
  have starts : ∀ other : Char, other.isDigit = false → other ≠ '-' → c ≠ other :=
    fun _ notDigit notSign => first.ne notDigit notSign
  have notSpace := first.notSpace
  rw [readValue, skipSpace_cons notSpace]
  split
  · rename_i same
    exact absurd (List.cons.inj same).1 (starts 'n' (by decide) (by decide))
  · rename_i same
    exact absurd (List.cons.inj same).1 (starts 't' (by decide) (by decide))
  · rename_i same
    exact absurd (List.cons.inj same).1 (starts 'f' (by decide) (by decide))
  · rename_i same
    exact absurd (List.cons.inj same).1 (starts '"' (by decide) (by decide))
  · rename_i same
    exact absurd (List.cons.inj same).1 (starts '[' (by decide) (by decide))
  · rename_i same
    exact absurd (List.cons.inj same).1 (starts '{' (by decide) (by decide))
  · rfl

private theorem intChars_begins (n : Int) :
    ∃ c others, Decimal.intChars n = c :: others ∧ StartsNumber c := by
  cases n with
  | negSucc n => exact ⟨'-', Decimal.natChars (n + 1), rfl, .inr rfl⟩
  | ofNat n =>
    obtain ⟨c, others, chars⟩ := List.exists_cons_of_ne_nil (Decimal.natChars_ne_nil n)
    have member : c ∈ Decimal.natChars n := by
      rw [chars]
      exact List.mem_cons_self
    exact ⟨c, others, chars, .inl (Decimal.isDigit_of_mem_natChars member)⟩

theorem spells_integer (n : Int) :
    Spells (Decimal.intChars n) (.number (numeralOf n)) := by
  obtain ⟨c, others, chars, first⟩ := intChars_begins n
  refine .intro (by rw [chars]; exact List.cons_ne_nil _ _) fun fuel rest _ ends => ?_
  have read := readNumeral_intChars n ends
  rw [chars, List.cons_append] at read ⊢
  rw [readValue_number first, read]
  rfl

private theorem readValue_array (notSpace : isSpace c = false) (notEnd : c ≠ ']')
    (rest : List Char) :
    readValue (fuel + 1) ('[' :: c :: rest) =
      (readItems fuel (c :: rest)).map fun read => (.array read.1, read.2) := by
  have bracket : isSpace '[' = false := by decide
  rw [readValue, skipSpace_cons bracket]
  simp only [skipSpace_cons notSpace]
  split
  · rename_i same
    exact absurd (List.cons.inj same).1 notEnd
  · rfl

private theorem readValue_object (rest : List Char) :
    readValue (fuel + 1) ('{' :: '"' :: rest) =
      (readMembers fuel ('"' :: rest)).map fun read => (.object read.1, read.2) := rfl

private theorem readItems_of_spells (spells : Spells chars w) (enough : 2 * chars.length ≤ fuel)
    (ends : EndsNumber rest) : readItems (fuel + 1) (chars ++ rest) =
      match skipSpace rest with
      | ',' :: rest => (readItems fuel rest).map fun read => (w :: read.1, read.2)
      | ']' :: rest => some ([w], rest)
      | _ => none := by
  rw [readItems, spells fuel rest enough ends]
  simp only [Option.bind_eq_bind, Option.bind_some, Option.map_eq_bind]
  rfl

theorem readMembers_of_spells (spells : Spells chars w) (enough : 2 * chars.length ≤ fuel)
    (ends : EndsNumber rest) (key : String) :
    readMembers (fuel + 1) (stringChars key ++ ':' :: (chars ++ rest)) =
      match skipSpace rest with
      | ',' :: rest => (readMembers fuel rest).map fun read =>
        ((key.toList.map Json.glyphOf, w) :: read.1, read.2)
      | '}' :: rest => some ([(key.toList.map Json.glyphOf, w)], rest)
      | _ => none := by
  have read := Json.readGlyphs_string key.toList (':' :: (chars ++ rest))
  have colon : skipSpace (':' :: (chars ++ rest)) = ':' :: (chars ++ rest) :=
    skipSpace_cons (by decide) _
  rw [stringChars, List.cons_append, List.append_assoc, readMembers, skipSpace_cons (by decide)]
  simp only [List.singleton_append, read, Option.bind_eq_bind, Option.bind_some, colon,
    spells fuel rest enough ends, Option.map_eq_bind]
  rfl

end Grammar

section Values

variable {chars : List Char} {w : Written} {v : Json}

private theorem deeper {α β γ : Type} (m n levels : Nat) (a : α) (b : β) (f : α → β → γ) :
    ((if m ≤ levels then .ok a else .error .tooDeep : Except Json.Fault α) >>= fun a =>
      (if n ≤ levels then .ok b else .error .tooDeep : Except Json.Fault β) >>= fun b =>
        .ok (f a b)) =
      if max m n ≤ levels then .ok (f a b) else .error .tooDeep := by
  by_cases first : m ≤ levels
  · by_cases later : n ≤ levels
    · simp only [Nat.max_le, first, later, and_self, if_true]
      rfl
    · simp only [Nat.max_le, first, later, and_false, if_true, if_false]
      rfl
  · simp only [Nat.max_le, first, false_and, if_false]
    rfl

private theorem ItemsRead.single (spells : Spells chars w) (means : Means w v) :
    ItemsRead (chars ++ [']']) [w] [v] where
  spelled fuel rest enough := by
    rw [List.length_append] at enough
    obtain ⟨fuel, rfl⟩ : ∃ less, fuel = less + 1 := ⟨fuel - 1, by simp at enough; omega⟩
    have enough' : 2 * chars.length ≤ fuel := by simp at enough; omega
    have ends : EndsNumber (']' :: rest) := endsNumber_cons (by decide) (by decide) rest
    rw [List.append_assoc, List.singleton_append, readItems_of_spells spells enough' ends,
      skipSpace_cons (by decide)]
    rfl
  meant levels := by
    simp only [itemValues, means levels, Json.itemsDepth, Nat.max_zero]
    split <;> rfl

private theorem ItemsRead.cons {others : List Char} {ws : List Written} {items : List Json}
    (spells : Spells chars w) (means : Means w v) (rest : ItemsRead others ws items) :
    ItemsRead (chars ++ ',' :: others) (w :: ws) (v :: items) where
  spelled fuel rest' enough := by
    rw [List.length_append, List.length_cons] at enough
    obtain ⟨fuel, rfl⟩ : ∃ less, fuel = less + 1 := ⟨fuel - 1, by omega⟩
    have enough' : 2 * chars.length ≤ fuel := by omega
    have ends : EndsNumber (',' :: (others ++ rest')) :=
      endsNumber_cons (by decide) (by decide) _
    rw [List.append_assoc, List.cons_append, readItems_of_spells spells enough' ends,
      skipSpace_cons (by decide)]
    simp only [rest.spelled fuel rest' (by omega), Option.map_some]
  meant levels := by
    simp only [itemValues, means levels, rest.meant levels, Json.itemsDepth]
    exact deeper _ _ levels v items List.cons

private theorem MembersRead.single (spells : Spells chars w) (means : Means w v) (key : String) :
    MembersRead (stringChars key ++ ':' :: chars ++ ['}']) [(key.toList.map Json.glyphOf, w)]
      [(key, v)] where
  spelled fuel rest enough := by
    simp only [List.length_append, List.length_cons, List.length_nil] at enough
    obtain ⟨fuel, rfl⟩ : ∃ less, fuel = less + 1 := ⟨fuel - 1, by omega⟩
    have enough' : 2 * chars.length ≤ fuel := by omega
    have ends : EndsNumber ('}' :: rest) := endsNumber_cons (by decide) (by decide) rest
    simp only [List.append_assoc, List.cons_append, List.nil_append]
    rw [readMembers_of_spells spells enough' ends, skipSpace_cons (by decide)]
    rfl
  meant levels := by
    simp only [memberValues, Json.textOfGlyphs_glyphOf, means levels, Json.membersDepth,
      Nat.max_zero]
    split <;> rfl

private theorem MembersRead.cons {others : List Char} {ws : List (List Glyph × Written)}
    {members : List (String × Json)} (spells : Spells chars w) (means : Means w v)
    (rest : MembersRead others ws members) (key : String) :
    MembersRead (stringChars key ++ ':' :: chars ++ ',' :: others)
      ((key.toList.map Json.glyphOf, w) :: ws) ((key, v) :: members) where
  spelled fuel rest' enough := by
    simp only [List.length_append, List.length_cons] at enough
    obtain ⟨fuel, rfl⟩ : ∃ less, fuel = less + 1 := ⟨fuel - 1, by omega⟩
    have enough' : 2 * chars.length ≤ fuel := by omega
    have ends : EndsNumber (',' :: (others ++ rest')) :=
      endsNumber_cons (by decide) (by decide) _
    simp only [List.append_assoc, List.cons_append]
    rw [readMembers_of_spells spells enough' ends, skipSpace_cons (by decide)]
    simp only [rest.spelled fuel rest' (by omega), Option.map_some]
  meant levels := by
    simp only [memberValues, Json.textOfGlyphs_glyphOf, means levels, rest.meant levels,
      Json.membersDepth]
    exact deeper _ _ levels v members fun v members => (key, v) :: members

private theorem chars_begins (v : Json) (exact : ∀ n ∈ v.numbers, n.IsExact) :
    ∃ c others, v.chars = c :: others ∧ isSpace c = false ∧ c ≠ ']' := by
  cases v with
  | null => exact ⟨_, _, rfl, by decide, by decide⟩
  | bool b => cases b <;> exact ⟨_, _, rfl, by decide, by decide⟩
  | string text => exact ⟨_, _, rfl, by decide, by decide⟩
  | array items => exact ⟨_, _, rfl, by decide, by decide⟩
  | object members => exact ⟨_, _, rfl, by decide, by decide⟩
  | number n =>
    cases n with
    | float bits => cases (exact (.float bits) List.mem_cons_self).1
    | integer n =>
      obtain ⟨c, others, chars, first⟩ := intChars_begins n
      exact ⟨c, others, chars, first.notSpace, first.ne (by decide) (by decide)⟩

private theorem ItemsRead.array {c : Char} {others : List Char} {ws : List Written}
    {items : List Json} (read : ItemsRead (c :: others) ws items) (notSpace : isSpace c = false)
    (notEnd : c ≠ ']') :
    Spells ('[' :: c :: others) (.array ws) ∧ Means (.array ws) (.array items) := by
  refine ⟨.intro (List.cons_ne_nil _ _) fun fuel rest enough _ => ?_, fun levels => ?_⟩
  · have found := read.spelled fuel rest (by rw [List.length_cons] at enough; omega)
    rw [List.cons_append] at found
    rw [List.cons_append, List.cons_append, readValue_array notSpace notEnd, found]
    rfl
  · cases levels with
    | zero => simp [value, Json.depth]
    | succ levels =>
      simp only [value, read.meant, Json.depth, Nat.succ_ne_zero, if_false, Nat.add_sub_cancel,
        Nat.add_le_add_iff_right]
      split <;> rfl

theorem MembersRead.object {chars : List Char} {ws : List (List Glyph × Written)}
    {members : List (String × Json)} (read : MembersRead ('"' :: chars) ws members) :
    Spells ('{' :: '"' :: chars) (.object ws) := by
  refine .intro (List.cons_ne_nil _ _) fun fuel rest enough _ => ?_
  have found := read.spelled fuel rest (by rw [List.length_cons] at enough; omega)
  rw [List.cons_append] at found
  rw [List.cons_append, List.cons_append, readValue_object, found]
  rfl

/-- An object stands for its members put together one after the other, whatever their order. -/
theorem MembersRead.value_object {chars : List Char} {ws : List (List Glyph × Written)}
    {members : List (String × Json)} (read : MembersRead chars ws members) (levels : Nat) :
    (Written.object ws).value levels =
      if Json.membersDepth members + 1 ≤ levels then .ok (.object (Json.ofMembers members))
      else .error .tooDeep := by
  cases levels with
  | zero => simp [value]
  | succ levels =>
    simp only [value, read.meant, Nat.succ_ne_zero, if_false, Nat.add_sub_cancel,
      Nat.add_le_add_iff_right]
    split <;> rfl

private theorem itemsChars_begins (item : Json) (rest : List Json)
    (exact : ∀ n ∈ item.numbers, n.IsExact) :
    ∃ c others, itemsChars (item :: rest) = c :: others ∧ isSpace c = false ∧ c ≠ ']' := by
  obtain ⟨c, others, chars, notSpace, notEnd⟩ := chars_begins item exact
  cases rest with
  | nil => exact ⟨c, _, by rw [itemsChars, chars]; rfl, notSpace, notEnd⟩
  | cons next rest => exact ⟨c, _, by rw [itemsChars, chars]; rfl; simp, notSpace, notEnd⟩

private theorem membersChars_begins (member : String × Json) (rest : List (String × Json)) :
    ∃ others, membersChars (member :: rest) = '"' :: others := by
  cases rest with
  | nil => exact ⟨_, rfl⟩
  | cons next rest => exact ⟨_, rfl⟩

-- Induction over the value. The text behind it is arbitrary, so that the brackets and commas that
-- the value stands between are the only thing that the cases of items and members have to look at.
mutual

/-- The characters of a value whose objects are ordered and whose numbers are integers of 64 bits
spell one written value, and this stands for the value. -/
theorem exists_written : (v : Json) → v.IsOrdered → (∀ n ∈ v.numbers, n.IsExact) →
    ∃ w, Spells v.chars w ∧ Means w v
  | .null, _, _ => ⟨.null, spells_null, fun _ => rfl⟩
  | .bool true, _, _ => ⟨.bool true, spells_true, fun _ => rfl⟩
  | .bool false, _, _ => ⟨.bool false, spells_false, fun _ => rfl⟩
  | .string text, _, _ => by
    refine ⟨.string (text.toList.map Json.glyphOf), spells_string text, fun levels => ?_⟩
    simp [value, Json.textOfGlyphs_glyphOf, Json.depth]
  | .number n, _, exact => by
    obtain ⟨isInteger, held⟩ := exact n List.mem_cons_self
    cases n with
    | float bits => cases isInteger
    | integer n =>
      refine ⟨.number (numeralOf n), spells_integer n, fun levels => ?_⟩
      simp [value, Json.ofNumeral_numeralOf held, Json.depth]
  | .array [], _, _ => by
    refine ⟨.array [], .intro (by simp [Json.chars]) fun fuel rest _ _ => rfl, fun levels => ?_⟩
    cases levels with
    | zero => simp [value, Json.depth]
    | succ levels => simp [value, itemValues, Json.depth, Json.itemsDepth]
  | .array (item :: rest), ordered, exact => by
    obtain ⟨ws, read⟩ := exists_items (item :: rest) (List.cons_ne_nil _ _) ordered exact
    obtain ⟨c, others, chars, notSpace, notEnd⟩ :=
      itemsChars_begins item rest fun n member => exact n (List.mem_append_left _ member)
    rw [chars] at read
    rw [Json.chars, chars]
    exact ⟨.array ws, read.array notSpace notEnd⟩
  | .object [], _, _ => by
    refine ⟨.object [], .intro (by simp [Json.chars]) fun fuel rest _ _ => rfl, fun levels => ?_⟩
    cases levels with
    | zero => simp [value, Json.depth]
    | succ levels => simp [value, memberValues, Json.ofMembers, Json.depth, Json.membersDepth]
  | .object (member :: rest), ordered, exact => by
    obtain ⟨ws, read⟩ := exists_members (member :: rest) (List.cons_ne_nil _ _) ordered.2 exact
    obtain ⟨others, chars⟩ := membersChars_begins member rest
    rw [Json.chars, chars]
    refine ⟨.object ws, (chars ▸ read).object, fun levels => ?_⟩
    rw [read.value_object, ordered.1.ofMembers, Json.depth]

theorem exists_items : (items : List Json) → items ≠ [] → Json.ItemsOrdered items →
    (∀ n ∈ Json.itemsNumbers items, n.IsExact) → ∃ ws, ItemsRead (itemsChars items) ws items
  | [], ne, _, _ => absurd rfl ne
  | [item], _, ordered, exact => by
    obtain ⟨w, spells, means⟩ := exists_written item ordered.1 fun n member =>
      exact n (List.mem_append_left _ member)
    exact ⟨[w], .single spells means⟩
  | item :: next :: rest, _, ordered, exact => by
    obtain ⟨w, spells, means⟩ := exists_written item ordered.1 fun n member =>
      exact n (List.mem_append_left _ member)
    obtain ⟨ws, read⟩ := exists_items (next :: rest) (List.cons_ne_nil _ _) ordered.2
      fun n member => exact n (List.mem_append_right _ member)
    exact ⟨w :: ws, .cons spells means read⟩

theorem exists_members : (members : List (String × Json)) → members ≠ [] →
    Json.MembersOrdered members → (∀ n ∈ Json.membersNumbers members, n.IsExact) →
    ∃ ws, MembersRead (membersChars members) ws members
  | [], ne, _, _ => absurd rfl ne
  | [(key, v)], _, ordered, exact => by
    obtain ⟨w, spells, means⟩ := exists_written v ordered.1 fun n member =>
      exact n (List.mem_append_left _ member)
    exact ⟨[(key.toList.map Json.glyphOf, w)], .single spells means key⟩
  | (key, v) :: next :: rest, _, ordered, exact => by
    obtain ⟨w, spells, means⟩ := exists_written v ordered.1 fun n member =>
      exact n (List.mem_append_left _ member)
    obtain ⟨ws, read⟩ := exists_members (next :: rest) (List.cons_ne_nil _ _) ordered.2
      fun n member => exact n (List.mem_append_right _ member)
    exact ⟨(key.toList.map Json.glyphOf, w) :: ws, .cons spells means read key⟩

end

end Values

/-- A text that spells nothing but one written value holds it. -/
theorem read?_of_spells {chars : List Char} {w : Written} (spells : Spells chars w) :
    read? (String.ofList chars) = some w := by
  have read := spells (2 * chars.length + 2) [] (by omega) fun c none => nomatch none
  rw [List.append_nil] at read
  simp [read?, read, skipSpace]

end Written

end Switchboard
