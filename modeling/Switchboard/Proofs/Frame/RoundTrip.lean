import Switchboard.Proofs.Json.Reading
import Switchboard.Proofs.Json.Spelling
import Switchboard.Frame.Codec
/-!
Frames through their text. A frame whose numbers are integers of 64 bits comes back from its text
unless its value is too deep for the object around it, and no policy tells the difference. What has
been read is never too deep, so that it can be sent on.
-/

set_option autoImplicit false
set_option relaxedAutoImplicit false

namespace Switchboard.Frame

def members (f : Frame) : List (String × Json) :=
  [(Field.topic.key, .string f.topic), (Field.code.key, .string f.code), (Field.value.key, f.value)]

theorem chars_eq (f : Frame) : f.chars = '{' :: Json.membersChars f.members := by
  simp [chars, keyChars, members, Json.membersChars, Json.chars]

theorem membersDepth_members (f : Frame) : Json.membersDepth f.members = f.value.depth := by
  simp [members, Json.membersDepth, Json.depth]

theorem ofMembers_members (policy : Policy) (f : Frame) :
    ofMembers policy (Json.ofMembers f.members) = .ok f := by
  have topic :
      Json.member? Field.topic.key (Json.ofMembers f.members) = some (.string f.topic) := by
    simp [Json.member?_ofMembers, members, Field.key]
  have code : Json.member? Field.code.key (Json.ofMembers f.members) = some (.string f.code) := by
    simp [Json.member?_ofMembers, members, Field.key]
  have value : Json.member? Field.value.key (Json.ofMembers f.members) = some f.value := by
    simp [Json.member?_ofMembers, members, Field.key]
  simp only [ofMembers, textField, valueField, topic, code, value]
  rfl

theorem parse_members {f : Frame} (ordered : f.value.IsOrdered)
    (exact : ∀ n ∈ f.value.numbers, n.IsExact) :
    Json.parse f.toText =
      if f.value.depth + 1 ≤ Json.nestingLimit then .ok (.object (Json.ofMembers f.members))
      else .error .tooDeep := by
  -- the members are written in the order of the fields, which is not the order of their keys
  have inside : Json.MembersOrdered f.members := ⟨trivial, trivial, ordered, trivial⟩
  have numbers : ∀ n ∈ Json.membersNumbers f.members, n.IsExact := by
    intro n occurs
    exact exact n (by simpa [members, Json.membersNumbers, Json.numbers] using occurs)
  obtain ⟨ws, read⟩ := Written.exists_members f.members (List.cons_ne_nil _ _) inside numbers
  have spells : Written.Spells f.chars (.object ws) := by
    rw [chars_eq]
    exact Written.MembersRead.object read
  rw [Json.parse, toText, Written.read?_of_spells spells]
  simp only [read.value_object, membersDepth_members]

theorem parse_of_shallow (policy : Policy) {f : Frame} (ordered : f.value.IsOrdered)
    (exact : ∀ n ∈ f.value.numbers, n.IsExact) (shallow : f.value.depth ≤ 126) :
    parse policy f.toText = .ok f := by
  have fits : f.value.depth + 1 ≤ Json.nestingLimit := Nat.succ_le_succ shallow
  have read := parse_members ordered exact
  rw [if_pos fits] at read
  simp only [parse, read, ofMembers_members]

/-- A frame comes back from its text under every policy as long as its value nests no deeper than
126 levels; the text of a deeper one is refused. -/
theorem parse_toText (policy : Policy) (f : Frame) (ordered : f.value.IsOrdered)
    (exact : ∀ n ∈ f.value.numbers, n.IsExact) :
    (f.value.depth ≤ 126 → parse policy f.toText = .ok f) ∧
      (127 ≤ f.value.depth → ∃ detail, parse policy f.toText = .error (.invalidJson detail)) := by
  refine ⟨parse_of_shallow policy ordered exact, fun deep => ?_⟩
  have exceeds : ¬f.value.depth + 1 ≤ Json.nestingLimit :=
    Nat.not_le.mpr (Nat.lt_succ_of_le deep)
  have read := parse_members ordered exact
  rw [if_neg exceeds] at read
  exact ⟨Json.Fault.message .tooDeep, by simp only [parse, read]⟩

private def nested : Nat → Json
  | 0 => .null
  | levels + 1 => .array [nested levels]

private theorem depth_nested (levels : Nat) : (nested levels).depth = levels := by
  induction levels with
  | zero => rfl
  | succ levels ih => simp [nested, Json.depth, Json.itemsDepth, ih]

private theorem isOrdered_nested (levels : Nat) : (nested levels).IsOrdered := by
  induction levels with
  | zero => trivial
  | succ levels ih => exact ⟨ih, trivial⟩

private theorem numbers_nested (levels : Nat) : (nested levels).numbers = [] := by
  induction levels with
  | zero => rfl
  | succ levels ih => simp [nested, Json.numbers, Json.itemsNumbers, ih]

/-- A frame with quotes, escapes, a character beyond sixteen bits and the ends of 64 bits. -/
private def varied : Frame :=
  ⟨"\"\\\n\x01😀", "", .object [("", .number (.integer (-9223372036854775808))),
    ("\t", .array [.number (.integer 18446744073709551615), .null])]⟩

/-- The 126th level comes through and the 127th does not. -/
theorem parse_toText_ends :
    parse .strict varied.toText = .ok varied ∧
    parse .lenient (toText ⟨"", "end", nested 126⟩) = .ok ⟨"", "end", nested 126⟩ ∧
    ∃ detail, parse .strict (toText ⟨"", "end", nested 127⟩) = .error (.invalidJson detail) := by
  have through : ∀ levels policy, (levels ≤ 126 → parse policy (toText ⟨"", "end", nested levels⟩) =
      .ok ⟨"", "end", nested levels⟩) ∧ (127 ≤ levels → ∃ detail,
        parse policy (toText ⟨"", "end", nested levels⟩) = .error (.invalidJson detail)) := by
    intro levels policy
    have law := parse_toText policy ⟨"", "end", nested levels⟩ (isOrdered_nested levels)
      fun n occurs => by simp [numbers_nested] at occurs
    rwa [depth_nested] at law
  refine ⟨(parse_toText .strict varied ?_ ?_).1 (by decide), (through 126 .lenient).1 (by decide),
    (through 127 .strict).2 (by decide)⟩
  · exact ⟨by decide, trivial, ⟨trivial, trivial, trivial⟩, trivial⟩
  · intro n occurs
    simp only [varied, Json.numbers, Json.itemsNumbers, Json.membersNumbers, List.append_nil,
      List.cons_append, List.nil_append, List.mem_cons, List.not_mem_nil, or_false] at occurs
    rcases occurs with rfl | rfl
    · exact ⟨trivial, by decide, by decide⟩
    · exact ⟨trivial, by decide, by decide⟩

section Received

variable {policy : Policy} {text : String} {f : Frame}

/-- A text that is read as a frame is read as an object whose members make the frame. -/
theorem parse_eq_ok (read : parse policy text = .ok f) :
    ∃ members, Json.parse text = .ok (.object members) ∧ ofMembers policy members = .ok f := by
  unfold parse at read
  split at read
  · cases read
  · rename_i members object
    exact ⟨members, object, read⟩
  · cases read

theorem ofMembers_eq_ok {members : List (String × Json)} (made : ofMembers policy members = .ok f) :
    Json.member? Field.topic.key members = some (.string f.topic) ∧
      Json.member? Field.code.key members = some (.string f.code) ∧
      (Json.member? Field.value.key members = some f.value ∨
        Json.member? Field.value.key members = none ∧ policy = .lenient ∧ f.value = .null) := by
  have text : ∀ {field : Field} {text : String}, textField members field = .ok text →
      Json.member? field.key members = some (.string text) := by
    intro field text found
    unfold textField at found
    split at found
    · rename_i same
      cases found
      exact same
    · cases found
    · cases found
  obtain ⟨topic, isTopic, others⟩ := bind_eq_ok_iff.mp made
  obtain ⟨code, isCode, last⟩ := bind_eq_ok_iff.mp others
  obtain ⟨value, isValue, whole⟩ := bind_eq_ok_iff.mp last
  cases whole
  clear made others last
  refine ⟨text isTopic, text isCode, ?_⟩
  unfold valueField at isValue
  split at isValue
  · rename_i found
    cases isValue
    exact .inl found
  · rename_i absent
    cases isValue
    exact .inr ⟨absent, rfl, rfl⟩
  · cases isValue

theorem isRead_of_parse (read : parse policy text = .ok f) :
    f.value.IsRead (Json.nestingLimit - 1) := by
  obtain ⟨members, object, made⟩ := parse_eq_ok read
  obtain ⟨-, -, value | ⟨-, -, null⟩⟩ := ofMembers_eq_ok made
  · unfold Json.parse at object
    split at object
    · rename_i w _
      exact (Written.isRead_of_value w Json.nestingLimit _ object).member value
    · cases object
  · rw [null]
    exact .null _

/-- What was received can be relayed. A value without floats comes through in a frame of its own on
any topic, the received frame comes back from its text, and its text stays the same from then on. -/
theorem parse_relayed (read : parse policy text = .ok f)
    (integers : ∀ n ∈ f.value.numbers, n.IsInteger) :
    (∀ topic, parse .strict (payload topic f.value).toText = .ok ⟨topic, payloadCode, f.value⟩) ∧
      parse .strict f.toText = .ok f ∧
      ∀ again, (parse again f.toText).map toText = .ok f.toText := by
  have bounds := isRead_of_parse read
  have exact : ∀ n ∈ f.value.numbers, n.IsExact :=
    fun n occurs => ⟨integers n occurs, bounds.held n occurs⟩
  have shallow : f.value.depth ≤ 126 := bounds.shallow
  refine ⟨fun topic => ?_, parse_of_shallow .strict bounds.ordered exact shallow, fun again => ?_⟩
  · exact parse_of_shallow (f := payload topic f.value) .strict bounds.ordered exact shallow
  · rw [parse_of_shallow again bounds.ordered exact shallow]
    rfl

end Received

private def untidy : String :=
  " \x7b\"x\":[[1]], \"topic\":7,\"value\" : [\x7b\"b\":1,\"a\":\"\\u00e9\\ud83d\\ude00\"," ++
    "\"b\":-2\x7d ],\t\"t\\u006fpic\":\"\\/\", \"code\":\"end\"\x7d\n"

private def tidied : Frame :=
  ⟨"/", "end", .array [.object [("a", .string "é😀"), ("b", .number (.integer (-2)))]]⟩

theorem parse_relayed_untidy :
    parse .lenient untidy = .ok tidied ∧
      (∀ topic, parse .strict (payload topic tidied.value).toText =
        .ok ⟨topic, payloadCode, tidied.value⟩) ∧
      parse .strict tidied.toText = .ok tidied ∧
      ∀ again, (parse again tidied.toText).map toText = .ok tidied.toText := by
  have read : parse .lenient untidy = .ok tidied := by decide +kernel
  refine ⟨read, parse_relayed read fun n occurs => ?_⟩
  simp only [tidied, Json.numbers, Json.itemsNumbers, Json.membersNumbers, List.append_nil,
    List.nil_append, List.mem_singleton] at occurs
  rw [occurs]
  exact trivial

end Switchboard.Frame
