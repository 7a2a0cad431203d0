import Mathlib.Data.List.Infix
import Switchboard.Exchange.Dispatch
/-!
What the journal shows of a text that is no frame. The search from the limit downwards ends at the
greatest boundary that the limit allows, and a text can be cut at every boundary, so that the record
of a malformed text never fails and shows as many whole characters as fit.
-/

set_option autoImplicit false
set_option relaxedAutoImplicit false

namespace Switchboard

namespace Text

/-- An offset is a boundary of a text when some of its leading characters take so many octets. -/
def IsBoundary (text : String) (offset : Nat) : Prop :=
  ∃ front : String, front.toList <+: text.toList ∧ front.utf8ByteSize = offset

structure IsFloorBoundary (text : String) (limit offset : Nat) : Prop where
  within : offset ≤ limit
  inside : offset ≤ text.utf8ByteSize
  boundary : IsBoundary text offset
  greatest : ∀ other, IsBoundary text other → other ≤ limit → other ≤ offset
  /-- No character takes more than four octets, so that a search ends soon. -/
  near : limit < text.utf8ByteSize → limit - 3 ≤ offset
  whole : text.utf8ByteSize ≤ limit → offset = text.utf8ByteSize

/-- The longest run of whole characters at the start of a text that takes no more than `limit`
octets. -/
structure IsLongestStart (text : String) (limit : Nat) (start : String) : Prop where
  leads : start.toList <+: text.toList
  fits : start.utf8ByteSize ≤ limit
  longest : ∀ other : String, other.toList <+: text.toList → other.utf8ByteSize ≤ limit →
    other.toList <+: start.toList

section Cutting

variable {text front : String} {limit offset : Nat}

theorem prefix_iff_exists_append : front.toList <+: text.toList ↔ ∃ back, text = front ++ back := by
  constructor
  · rintro ⟨back, whole⟩
    refine ⟨String.ofList back, String.toList_inj.mp ?_⟩
    rw [String.toList_append, String.toList_ofList, whole]
  · rintro ⟨back, rfl⟩
    rw [String.toList_append]
    exact List.prefix_append _ _

theorem isValid_iff : String.Pos.Raw.IsValid text ⟨offset⟩ ↔ IsBoundary text offset := by
  rw [String.Pos.Raw.isValid_iff_exists_append]
  constructor
  · rintro ⟨front, back, whole, ends⟩
    exact ⟨front, prefix_iff_exists_append.mpr ⟨back, whole⟩,
      (congrArg String.Pos.Raw.byteIdx ends).symm⟩
  · rintro ⟨front, leads, rfl⟩
    obtain ⟨back, whole⟩ := prefix_iff_exists_append.mp leads
    exact ⟨front, back, whole, rfl⟩

theorem isBoundary_eq_true : isBoundary text offset = true ↔ IsBoundary text offset :=
  String.Pos.Raw.isValid_eq_true_iff.trans isValid_iff

theorem utf8ByteSize_le (leads : front.toList <+: text.toList) :
    front.utf8ByteSize ≤ text.utf8ByteSize := by
  obtain ⟨back, rfl⟩ := prefix_iff_exists_append.mp leads
  rw [String.utf8ByteSize_append]
  exact Nat.le_add_right _ _

theorem prefix_of_utf8ByteSize_le {other : String} (leads : front.toList <+: text.toList)
    (otherLeads : other.toList <+: text.toList)
    (small : other.utf8ByteSize ≤ front.utf8ByteSize) : other.toList <+: front.toList := by
  rcases List.prefix_or_prefix_of_prefix otherLeads leads with shorter | longer
  · exact shorter
  · obtain ⟨more, rfl⟩ := prefix_iff_exists_append.mp longer
    rw [String.utf8ByteSize_append] at small
    have empty : more.utf8ByteSize = 0 := by omega
    rw [String.utf8ByteSize_eq_zero_iff.mp empty, String.append_empty]

theorem front?_eq_some_iff : front? text offset = some front ↔
    front.toList <+: text.toList ∧ front.utf8ByteSize = offset := by
  unfold front?
  split
  · rename_i valid
    rw [Option.some_inj, String.copy_sliceTo_eq_iff_exists_splits, prefix_iff_exists_append]
    constructor
    · rintro ⟨back, splits⟩
      exact ⟨⟨back, splits.eq_append⟩,
        (congrArg String.Pos.Raw.byteIdx splits.offset_eq_rawEndPos).symm⟩
    · rintro ⟨⟨back, whole⟩, rfl⟩
      exact ⟨back, whole, rfl⟩
  · rename_i invalid
    constructor
    · intro found
      cases found
    · intro ⟨leads, size⟩
      exact absurd (isValid_iff.mpr ⟨front, leads, size⟩) invalid

theorem exists_find?_downwards {passes : Nat → Bool} (zero : passes 0 = true) (limit : Nat) :
    ∃ found, (List.range (limit + 1)).reverse.find? passes = some found ∧
      passes found = true ∧ found ≤ limit ∧
      ∀ other, passes other = true → other ≤ limit → other ≤ found := by
  induction limit with
  | zero =>
    refine ⟨0, ?_, zero, Nat.le_refl 0, fun other _ within => within⟩
    simp [zero]
  | succ limit ih =>
    have order : (List.range (limit + 1 + 1)).reverse =
        (limit + 1) :: (List.range (limit + 1)).reverse := by
      rw [List.range_succ, List.reverse_append, List.reverse_singleton, List.singleton_append]
    rw [order]
    cases top : passes (limit + 1) with
    | true =>
      refine ⟨limit + 1, ?_, top, Nat.le_refl _, fun other _ within => within⟩
      rw [List.find?_cons_of_pos top]
    | false =>
      obtain ⟨found, search, passed, within, greatest⟩ := ih
      refine ⟨found, ?_, passed, by omega, fun other otherPassed otherWithin => ?_⟩
      · rw [List.find?_cons_of_neg (by simp [top]), search]
      · rcases Nat.lt_or_eq_of_le otherWithin with below | rfl
        · exact greatest other otherPassed (by omega)
        · rw [top] at otherPassed
          cases otherPassed

private theorem isBoundary_zero (text : String) : IsBoundary text 0 :=
  ⟨"", List.nil_prefix, rfl⟩

private theorem isBoundary_end (text : String) : IsBoundary text text.utf8ByteSize :=
  ⟨text, List.prefix_rfl, rfl⟩

theorem IsBoundary.le_utf8ByteSize (boundary : IsBoundary text offset) :
    offset ≤ text.utf8ByteSize := by
  obtain ⟨front, leads, rfl⟩ := boundary
  exact utf8ByteSize_le leads

theorem IsBoundary.exists_next (boundary : IsBoundary text offset)
    (inner : offset < text.utf8ByteSize) :
    ∃ next, IsBoundary text next ∧ offset < next ∧ next ≤ offset + 4 := by
  obtain ⟨front, ⟨back, whole⟩, rfl⟩ := boundary
  cases back with
  | nil =>
    rw [List.append_nil, String.toList_inj] at whole
    rw [whole] at inner
    exact absurd inner (Nat.lt_irrefl _)
  | cons c rest =>
    have leads : (front.push c).toList <+: text.toList := by
      refine ⟨rest, ?_⟩
      rw [String.toList_push, List.append_assoc, List.singleton_append, whole]
    have positive := c.utf8Size_pos
    have small := c.utf8Size_le_four
    refine ⟨_, ⟨front.push c, leads, rfl⟩, ?_, ?_⟩
    · rw [String.utf8ByteSize_push]
      omega
    · rw [String.utf8ByteSize_push]
      omega

theorem floorBoundary_isFloorBoundary (text : String) (limit : Nat) :
    IsFloorBoundary text limit (floorBoundary text limit) := by
  unfold floorBoundary
  split
  · rename_i short
    exact ⟨short, Nat.le_refl _, isBoundary_end text,
      fun other boundary _ => boundary.le_utf8ByteSize, fun long => by omega, fun _ => rfl⟩
  · rename_i long
    obtain ⟨found, search, passed, within, greatest⟩ :=
      exists_find?_downwards (isBoundary_eq_true.mpr (isBoundary_zero text)) limit
    rw [search, Option.getD_some]
    have boundary := isBoundary_eq_true.mp passed
    refine ⟨within, by omega, boundary,
      fun other otherBoundary => greatest other (isBoundary_eq_true.mpr otherBoundary),
      fun _ => ?_, fun short => absurd short long⟩
    obtain ⟨next, nextBoundary, beyond, close⟩ := boundary.exists_next (by omega)
    -- The next boundary is beyond the limit, or the search would have ended there.
    have passedBy : limit < next := by
      apply Nat.lt_of_not_le
      intro inside
      have sooner := greatest next (isBoundary_eq_true.mpr nextBoundary) inside
      omega
    omega

theorem exists_excerpt? (text : String) (limit : Nat) :
    ∃ shown, excerpt? text limit = some shown ∧ IsLongestStart text limit shown := by
  have floor := floorBoundary_isFloorBoundary text limit
  obtain ⟨shown, leads, size⟩ := floor.boundary
  refine ⟨shown, front?_eq_some_iff.mpr ⟨leads, size⟩, leads, ?_, fun other otherLeads fits => ?_⟩
  · rw [size]
    exact floor.within
  · apply prefix_of_utf8ByteSize_le leads otherLeads
    rw [size]
    exact floor.greatest _ ⟨other, otherLeads, rfl⟩ fits

end Cutting

end Text

namespace Exchange

variable {ν σ : Type} [Outlet σ]

/-- For every text and limit the greatest boundary is found; and a text that is no frame is dropped
with a record that shows the longest run of whole characters at its start within a hundred octets. -/
theorem malformed_shown :
    (∀ text limit, Text.IsFloorBoundary text limit (Text.floorBoundary text limit)) ∧
    ∀ (x : Exchange ν σ) text error, Frame.parse x.policy text = .error error →
      x.route text = (x.enter [.malformed error text], .malformed) ∧
      ∃ shown, Text.front? text (Text.floorBoundary text 100) = some shown ∧
        Text.IsLongestStart text 100 shown ∧
        (Event.malformed error text).record? = some ⟨.warn,
          "[router] Dropping malformed frame (" ++ error.message ++ "): " ++ shown⟩ := by
  refine ⟨Text.floorBoundary_isFloorBoundary, fun x text error refused => ⟨?_, ?_⟩⟩
  · rw [route, routeWith, refused]
  · obtain ⟨shown, cut, longest⟩ := Text.exists_excerpt? text Event.excerptLimit
    refine ⟨shown, cut, longest, ?_⟩
    rw [Event.record?, cut, Option.map_some]

/-- A letter and fifty accented ones: the hundredth octet divides a character, and one less is
shown. -/
theorem malformed_shown_divided :
    let text := "a" ++ String.ofList (List.replicate 50 'é')
    let x : Exchange Unit Recorder := { policy := .strict, outlet := { echoes := false } }
    ∃ error, Frame.parse x.policy text = .error error ∧
      Text.floorBoundary text 100 = 99 ∧ Text.front? text 100 = none ∧
      ∃ record, (Event.malformed error text).record? = some record ∧
        (x.route text).1.journal = [.malformed error text] ∧
        record.text = "[router] Dropping malformed frame (" ++ error.message ++ "): " ++
          "a" ++ String.ofList (List.replicate 49 'é') := by
  intro text x
  have refused : ∃ error, Frame.parse x.policy text = .error error := by
    refine ⟨.invalidJson (Json.Fault.message .malformed), ?_⟩
    decide +kernel
  obtain ⟨error, refused⟩ := refused
  obtain ⟨routed, shown, cut, -, told⟩ := malformed_shown.2 x text error refused
  have start : Text.front? text (Text.floorBoundary text 100) =
      some ("a" ++ String.ofList (List.replicate 49 'é')) := by decide +kernel
  refine ⟨error, refused, by decide +kernel, by decide +kernel, _, told, by rw [routed]; rfl, ?_⟩
  rw [start] at cut
  cases cut
  simp only [String.append_assoc]

end Exchange

end Switchboard
