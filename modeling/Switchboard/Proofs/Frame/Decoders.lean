import Switchboard.Proofs.Json.Reading
import Switchboard.Proofs.Frame.RoundTrip
/-!
The two decoders of a frame. One gives the whole text a value before it looks at the fields, the
other reads the fields alone and skips everything else; they differ only over fields that repeat and
over unknown members that have no value.
-/

set_option autoImplicit false
set_option relaxedAutoImplicit false

namespace Switchboard

namespace Written

variable {w : Written} {levels : Nat} {text : String}

theorem text?_eq_some_iff : w.text? = some text ↔ w.value levels = .ok (.string text) := by
  cases w with
  | string glyphs =>
    simp only [text?, value]
    cases Json.textOfGlyphs glyphs <;> simp [Except.toOption]
  | array items =>
    cases levels with
    | zero => simp [text?, value]
    | succ levels => simp [text?, value, map_eq_ok_iff]
  | object members =>
    cases levels with
    | zero => simp [text?, value]
    | succ levels => simp [text?, value, map_eq_ok_iff]
  | number n => simp [text?, value, map_eq_ok_iff]
  | null => simp [text?, value]
  | bool b => simp [text?, value]

end Written

namespace Frame

def writtenKeys (text : String) : Option (List String) :=
  match Written.read? text with
  | some (.object ws) => (Written.keyedMembers ws).map fun keyed => keyed.map Prod.fst
  | _ => none

/-- None of the fields of a frame is the key of two members. -/
def FieldsOnce (text : String) : Prop :=
  ∀ keys, writtenKeys text = some keys → ∀ field : Field, keys.count field.key ≤ 1

/-- A member that is none of the fields of a frame has no value. -/
def StrangerFails (keyed : List (String × Written)) (fault : Json.Fault) : Prop :=
  ∃ member ∈ keyed, (∀ field : Field, member.1 ≠ field.key) ∧
    member.2.value (Json.nestingLimit - 1) = .error fault

section Objects

variable {text : String} {f : Frame} {ws : List (List Glyph × Written)}
  {keyed : List (String × Written)}

theorem parse_object (written : Written.read? text = some (.object ws)) :
    Json.parse text = (fun found => .object (Json.ofMembers found)) <$>
      Written.memberValues (Json.nestingLimit - 1) ws := by
  rw [Json.parse, written]
  rfl

theorem parse_eq_object {members : List (String × Json)}
    (read : Json.parse text = .ok (.object members)) :
    ∃ ws found, Written.read? text = some (.object ws) ∧
      Written.memberValues (Json.nestingLimit - 1) ws = .ok found ∧
      members = Json.ofMembers found := by
  unfold Json.parse at read
  split at read
  · rename_i w written
    cases w with
    | object ws =>
      obtain ⟨found, values, same⟩ := map_eq_ok_iff.mp read
      cases same
      exact ⟨ws, found, written, values, rfl⟩
    | array items =>
      obtain ⟨_, -, same⟩ := map_eq_ok_iff.mp read
      cases same
    | string glyphs =>
      obtain ⟨_, -, same⟩ := map_eq_ok_iff.mp read
      cases same
    | number n =>
      obtain ⟨_, -, same⟩ := map_eq_ok_iff.mp read
      cases same
    | null => cases read
    | bool b => cases read
  · cases read

structure Decoded (keyed : List (String × Written)) (f : Frame) (topic code value : Written) :
    Prop where
  topic_once : Written.occurrence Field.topic.key keyed = .once topic
  code_once : Written.occurrence Field.code.key keyed = .once code
  value_once : Written.occurrence Field.value.key keyed = .once value
  topic_read : topic.value (Json.nestingLimit - 1) = .ok (.string f.topic)
  code_read : code.value (Json.nestingLimit - 1) = .ok (.string f.code)
  value_read : value.value (Json.nestingLimit - 1) = .ok f.value

theorem ofParts_eq_some_iff {topic code value : Written} :
    ofParts topic code value = some f ↔
      topic.value (Json.nestingLimit - 1) = .ok (.string f.topic) ∧
      code.value (Json.nestingLimit - 1) = .ok (.string f.code) ∧
      value.value (Json.nestingLimit - 1) = .ok f.value := by
  rw [← Written.text?_eq_some_iff, ← Written.text?_eq_some_iff]
  obtain ⟨t, c, v⟩ := f
  simp [ofParts, Option.bind_eq_some_iff, toOption_eq_some_iff]

/-- The plain decoder accepts an object just when each field stands in it once and can be read. -/
theorem decode?_object_iff (written : Written.read? text = some (.object ws)) :
    decode? text = some f ↔ ∃ keyed topic code value,
      Written.keyedMembers ws = some keyed ∧ Decoded keyed f topic code value := by
  simp only [decode?, written, Option.bind_eq_bind, Option.bind_eq_some_iff]
  constructor
  · rintro ⟨keyed, keys, decoded⟩
    split at decoded
    · rename_i topic code value topicOnce codeOnce valueOnce
      obtain ⟨topicRead, codeRead, valueRead⟩ := ofParts_eq_some_iff.mp decoded
      exact ⟨keyed, topic, code, value, keys, topicOnce, codeOnce, valueOnce, topicRead, codeRead,
        valueRead⟩
    · cases decoded
  · rintro ⟨keyed, topic, code, value, keys, parts⟩
    refine ⟨keyed, keys, ?_⟩
    simp only [parts.topic_once, parts.code_once, parts.value_once]
    exact ofParts_eq_some_iff.mpr ⟨parts.topic_read, parts.code_read, parts.value_read⟩

section Members

variable {members : List (String × Json)} {topic code value : Written}

/-- With all members read, the members of an object make the frame that the plain decoder takes. -/
theorem Decoded.ofMembers
    (reads : List.Forall₂ (Written.ReadsAs (Json.nestingLimit - 1)) keyed members)
    (parts : Decoded keyed f topic code value) (policy : Policy) :
    Frame.ofMembers policy (Json.ofMembers members) = .ok f := by
  obtain ⟨t, isTopic, topicFound⟩ := Written.member?_of_occurrence_once reads parts.topic_once
  obtain ⟨c, isCode, codeFound⟩ := Written.member?_of_occurrence_once reads parts.code_once
  obtain ⟨v, isValue, valueFound⟩ := Written.member?_of_occurrence_once reads parts.value_once
  cases parts.topic_read.symm.trans isTopic
  cases parts.code_read.symm.trans isCode
  cases parts.value_read.symm.trans isValue
  simp only [Frame.ofMembers, textField, valueField, topicFound, codeFound, valueFound]
  rfl

theorem exists_decoded
    (reads : List.Forall₂ (Written.ReadsAs (Json.nestingLimit - 1)) keyed members)
    (once : ∀ field : Field, (keyed.map Prod.fst).count field.key ≤ 1)
    (made : Frame.ofMembers .strict (Json.ofMembers members) = .ok f) :
    ∃ topic code value, Decoded keyed f topic code value := by
  obtain ⟨topicFound, codeFound, valueFound | ⟨-, lenient, -⟩⟩ := ofMembers_eq_ok made
  · obtain ⟨topic, topicOnce, topicRead⟩ :=
      Written.occurrence_once_of_member? reads (once .topic) topicFound
    obtain ⟨code, codeOnce, codeRead⟩ :=
      Written.occurrence_once_of_member? reads (once .code) codeFound
    obtain ⟨value, valueOnce, valueRead⟩ :=
      Written.occurrence_once_of_member? reads (once .value) valueFound
    exact ⟨topic, code, value, topicOnce, codeOnce, valueOnce, topicRead, codeRead, valueRead⟩
  · cases lenient

theorem Decoded.stranger (parts : Decoded keyed f topic code value) {member : String × Written}
    (isMember : member ∈ keyed) {fault : Json.Fault}
    (failed : member.2.value (Json.nestingLimit - 1) = .error fault) (field : Field) :
    member.1 ≠ field.key := by
  obtain ⟨key, w⟩ := member
  rintro rfl
  cases field with
  | topic =>
    rw [Written.eq_of_occurrence_once parts.topic_once isMember, parts.topic_read] at failed
    cases failed
  | code =>
    rw [Written.eq_of_occurrence_once parts.code_once isMember, parts.code_read] at failed
    cases failed
  | value =>
    rw [Written.eq_of_occurrence_once parts.value_once isMember, parts.value_read] at failed
    cases failed

end Members

/-- The decoders agree. A frame that is parsed strictly from an object in which no field repeats is
decoded, and a frame that is decoded from an object is parsed under every policy, unless some
member that is none of its fields nests too deep, holds a number out of range or a lone surrogate:
then no policy reads the text. -/
theorem decoders_agree (text : String) (f : Frame) :
    (parse .strict text = .ok f → FieldsOnce text → decode? text = some f) ∧
    (∀ ws, Written.read? text = some (.object ws) → decode? text = some f →
      (∀ policy, parse policy text = .ok f) ∨
      ∃ keyed fault, Written.keyedMembers ws = some keyed ∧ StrangerFails keyed fault ∧
        fault ≠ .malformed ∧
        ∀ policy, parse policy text = .error (.invalidJson fault.message)) := by
  refine ⟨fun read once => ?_, fun ws written decoded => ?_⟩
  · obtain ⟨members, object, made⟩ := parse_eq_ok read
    obtain ⟨ws, found, written, values, rfl⟩ := parse_eq_object object
    obtain ⟨keyed, keys, reads⟩ := Written.keyedMembers_of_memberValues values
    have names : writtenKeys text = some (keyed.map Prod.fst) := by
      simp [writtenKeys, written, keys]
    obtain ⟨topic, code, value, parts⟩ := exists_decoded reads (once _ names) made
    exact (decode?_object_iff written).mpr ⟨keyed, topic, code, value, keys, parts⟩
  · obtain ⟨keyed, topic, code, value, keys, parts⟩ := (decode?_object_iff written).mp decoded
    cases values : Written.memberValues (Json.nestingLimit - 1) ws with
    | ok found =>
      obtain ⟨keyed', keys', reads⟩ := Written.keyedMembers_of_memberValues values
      cases keys.symm.trans keys'
      have object : Json.parse text = .ok (.object (Json.ofMembers found)) := by
        rw [parse_object written, values]
        rfl
      refine .inl fun policy => ?_
      simp only [parse, object, parts.ofMembers reads policy]
    | error fault =>
      obtain ⟨member, isMember, failed⟩ := Written.exists_of_memberValues_error keys values
      have object : Json.parse text = .error fault := by
        rw [parse_object written, values]
        rfl
      have stranger : StrangerFails keyed fault :=
        ⟨member, isMember, parts.stranger isMember failed, failed⟩
      refine .inr ⟨keyed, fault, keys, stranger, ?_, fun policy => ?_⟩
      · rintro rfl
        exact Written.value_ne_malformed _ _ failed
      · simp only [parse, object]

end Objects

private def escapedKey : String :=
  "\x7b\"t\\u006fpic\":\"t\",\"x\":[\x7b\x7d],\"value\":[1],\"code\":\"\\n\"\x7d"

private def strangerBeside : String :=
  "\x7b\"x\":[\"\\ud800\"],\"topic\":\"t\",\"code\":\"c\",\"value\":null\x7d"

theorem decoders_agree_odd :
    decode? escapedKey = some ⟨"t", "\n", .array [.number (.integer 1)]⟩ ∧
    decode? strangerBeside = some ⟨"t", "c", .null⟩ ∧
      ∃ ws keyed fault, Written.read? strangerBeside = some (.object ws) ∧
        Written.keyedMembers ws = some keyed ∧ StrangerFails keyed fault ∧ fault ≠ .malformed ∧
        ∀ policy, parse policy strangerBeside = .error (.invalidJson fault.message) := by
  have read : parse .strict escapedKey = .ok ⟨"t", "\n", .array [.number (.integer 1)]⟩ := by
    decide +kernel
  have escapedKeys : writtenKeys escapedKey = some ["topic", "x", "value", "code"] := by
    decide +kernel
  have decoded : decode? strangerBeside = some ⟨"t", "c", .null⟩ := by decide +kernel
  have strayKeys : writtenKeys strangerBeside = some ["x", "topic", "code", "value"] := by
    decide +kernel
  have refused : parse .strict strangerBeside ≠ .ok ⟨"t", "c", .null⟩ := by decide +kernel
  refine ⟨(decoders_agree escapedKey _).1 read fun keys names field => ?_, decoded, ?_⟩
  · cases escapedKeys.symm.trans names
    cases field <;> decide
  · obtain ⟨ws, written⟩ : ∃ ws, Written.read? strangerBeside = some (.object ws) := by
      unfold writtenKeys at strayKeys
      split at strayKeys
      · rename_i ws written
        exact ⟨ws, written⟩
      · cases strayKeys
    rcases (decoders_agree strangerBeside _).2 ws written decoded with same | ⟨keyed, fault, failed⟩
    · exact absurd (same .strict) refused
    · exact ⟨ws, keyed, fault, written, failed⟩

end Frame

end Switchboard
