import Switchboard.Proofs.Frame.Decoders
/-!
The envelope that a text holds. Only the last member under each of the three keys counts; the checks
on them are made in one order, and the policies differ in a single one of these checks.
-/

set_option autoImplicit false
set_option relaxedAutoImplicit false

namespace Switchboard.Frame

/-- A check on the fields of an object: that one is there, or that one is a text. -/
inductive Check
  | present (field : Field)
  | isText (field : Field)
  deriving DecidableEq, Repr

namespace Check

/-- All checks, in the order they are made. -/
def order : List Check :=
  [.present .topic, .isText .topic, .present .code, .isText .code, .present .value]

/-- Whether a check fails on what is found of the fields; a lenient policy does without a value. -/
def fails (policy : Policy) (found : Field → Option Json) : Check → Bool
  | .present field => (found field).isNone && !(field = .value && policy = .lenient)
  | .isText field =>
    match found field with
    | none | some (.string _) => false
    | some _ => true

def error : Check → FrameError
  | .present field => .missingField field
  | .isText field => .invalidField field

end Check

def firstError (policy : Policy) (found : Field → Option Json) : Option FrameError :=
  (Check.order.find? (Check.fails policy found)).map Check.error

structure IsEnvelope (policy : Policy) (found : Field → Option Json) (f : Frame) : Prop where
  topic : found .topic = some (.string f.topic)
  code : found .code = some (.string f.code)
  value : found .value = some f.value ∨ policy = .lenient ∧ found .value = none ∧ f.value = .null

def held (members : List (String × Json)) (field : Field) : Option Json :=
  Json.member? field.key members

/-- The members of the object in a text as they stand in it, repeated ones too. -/
def writtenMembers (text : String) : Option (List (String × Json)) :=
  match Written.read? text with
  | some (.object ws) => (Written.memberValues (Json.nestingLimit - 1) ws).toOption
  | _ => none

def lastOf (written : List (String × Json)) (field : Field) : Option Json :=
  (written.filter fun member => member.1 = field.key).getLast?.map Prod.snd

section Fields

variable {policy : Policy} {members : List (String × Json)} {f : Frame} {e : FrameError}

theorem ofMembers_eq_ok_iff :
    ofMembers policy members = .ok f ↔ IsEnvelope policy (held members) f := by
  constructor
  · intro made
    obtain ⟨topic, code, found | ⟨absent, lenient, null⟩⟩ := ofMembers_eq_ok made
    · exact ⟨topic, code, .inl found⟩
    · exact ⟨topic, code, .inr ⟨lenient, absent, null⟩⟩
  · rintro ⟨topic, code, value⟩
    obtain ⟨t, c, v⟩ := f
    simp only [held] at topic code value
    simp only [ofMembers, textField, topic, code]
    rcases value with found | ⟨rfl, absent, rfl⟩
    · simp only [valueField, found]
      rfl
    · simp only [valueField, absent]
      rfl

theorem textField_bind_eq_error_iff {field : Field} (isTyped : field ≠ .value) (later : List Check)
    {next : String → Except FrameError Frame}
    (agrees : ∀ text, next text = .error e ↔
      (later.find? (Check.fails policy (held members))).map Check.error = some e) :
    textField members field >>= next = .error e ↔
      ((.present field :: .isText field :: later).find?
        (Check.fails policy (held members))).map Check.error = some e := by
  cases found : Json.member? field.key members with
  | none =>
    have absent : Check.fails policy (held members) (.present field) = true := by
      simp [Check.fails, held, found, isTyped]
    rw [List.find?_cons_of_pos absent]
    simp [textField, found, Check.error, bind, Except.bind]
  | some v =>
    have present : ¬Check.fails policy (held members) (.present field) = true := by
      simp [Check.fails, held, found]
    rw [List.find?_cons_of_neg present]
    by_cases isText : ∃ text, v = .string text
    · obtain ⟨text, rfl⟩ := isText
      have passes : ¬Check.fails policy (held members) (.isText field) = true := by
        simp [Check.fails, held, found]
      rw [List.find?_cons_of_neg passes, ← agrees text]
      simp [textField, found, bind, Except.bind]
    · have other : Check.fails policy (held members) (.isText field) = true := by
        cases v <;> simp_all [Check.fails, held]
      have wrong : textField members field = .error (.invalidField field) := by
        cases v <;> simp_all [textField]
      rw [List.find?_cons_of_pos other, wrong]
      simp [Check.error, bind, Except.bind]

theorem valueField_bind_eq_error_iff (topic code : String) :
    (valueField policy members >>= fun value => Except.ok (Frame.mk topic code value)) = .error e ↔
      (([.present .value] : List Check).find?
        (Check.fails policy (held members))).map Check.error = some e := by
  cases found : Json.member? Field.value.key members with
  | none =>
    cases policy <;> simp [valueField, Check.fails, held, found, Check.error, bind, Except.bind]
  | some v => simp [valueField, Check.fails, held, found, bind, Except.bind]

theorem ofMembers_eq_error_iff :
    ofMembers policy members = .error e ↔ firstError policy (held members) = some e := by
  refine textField_bind_eq_error_iff (by decide) _ fun topic => ?_
  refine textField_bind_eq_error_iff (by decide) _ fun code => ?_
  exact valueField_bind_eq_error_iff topic code

end Fields

section Texts

variable {policy : Policy} {text : String} {written : List (String × Json)}

/-- An object is read from its written members, the last of which stays under each key. -/
theorem parse_of_writtenMembers (stands : writtenMembers text = some written) :
    Json.parse text = .ok (.object (Json.ofMembers written)) := by
  unfold writtenMembers at stands
  split at stands
  · rename_i ws isObject
    have values := toOption_eq_some_iff.mp stands
    rw [parse_object isObject, values]
    rfl
  · cases stands

theorem exists_writtenMembers {members : List (String × Json)}
    (read : Json.parse text = .ok (.object members)) :
    ∃ written, writtenMembers text = some written ∧ members = Json.ofMembers written := by
  obtain ⟨ws, written, isObject, values, same⟩ := parse_eq_object read
  refine ⟨written, ?_, same⟩
  simp only [writtenMembers, isObject, values]
  rfl

theorem held_ofMembers : held (Json.ofMembers written) = lastOf written :=
  funext fun field => Json.member?_ofMembers field.key written

theorem ofMembers_congr {others : List (String × Json)} (same : lastOf others = lastOf written) :
    ofMembers policy (Json.ofMembers others) = ofMembers policy (Json.ofMembers written) := by
  have alike : ∀ field : Field, Json.member? field.key (Json.ofMembers others) =
      Json.member? field.key (Json.ofMembers written) := by
    intro field
    rw [Json.member?_ofMembers, Json.member?_ofMembers]
    exact congrFun same field
  simp only [ofMembers, textField, valueField, alike]

/-- The policies part only over an object that fails nothing but the presence of its value. -/
theorem ofMembers_policies (members : List (String × Json)) :
    (∃ f, ofMembers .strict members = .ok f ∧ ofMembers .lenient members = .ok f) ∨
    (∃ f, ofMembers .strict members = .error (.missingField .value) ∧
      ofMembers .lenient members = .ok f ∧ f.value = .null) ∨
    ∃ e, ofMembers .strict members = .error e ∧ ofMembers .lenient members = .error e := by
  cases topic : textField members .topic with
  | error e => exact .inr (.inr ⟨e, by simp only [ofMembers, topic]; exact ⟨rfl, rfl⟩⟩)
  | ok t =>
    cases code : textField members .code with
    | error e => exact .inr (.inr ⟨e, by simp only [ofMembers, topic, code]; exact ⟨rfl, rfl⟩⟩)
    | ok c =>
      simp only [ofMembers, topic, code, valueField]
      cases Json.member? Field.value.key members with
      | some v => exact .inl ⟨⟨t, c, v⟩, rfl, rfl⟩
      | none => exact .inr (.inl ⟨⟨t, c, .null⟩, rfl, rfl, rfl⟩)

/-- The envelope that a text holds. Every text that is read as an object is written with members,
and of these only the last under each key of a field counts: these make the frame, or their first
check that fails makes the error. For every text at all the two policies agree, but that a lenient
one reads a null where only the value is missing. -/
theorem parse_envelope (text : String) :
    (∀ members, Json.parse text = .ok (.object members) →
      ∃ written, writtenMembers text = some written ∧
        (∀ policy f, parse policy text = .ok f ↔ IsEnvelope policy (lastOf written) f) ∧
        (∀ policy e, parse policy text = .error e ↔
          firstError policy (lastOf written) = some e) ∧
        ∀ other others, writtenMembers other = some others → lastOf others = lastOf written →
          ∀ policy, parse policy other = parse policy text) ∧
    ((∃ f, parse .strict text = .ok f ∧ parse .lenient text = .ok f) ∨
      (∃ f, parse .strict text = .error (.missingField .value) ∧ parse .lenient text = .ok f ∧
        f.value = .null) ∨
      ∃ e, parse .strict text = .error e ∧ parse .lenient text = .error e) := by
  constructor
  · intro members object
    obtain ⟨written, stands, rfl⟩ := exists_writtenMembers object
    have made : ∀ policy, parse policy text = ofMembers policy (Json.ofMembers written) := by
      intro policy
      simp only [parse, object]
    refine ⟨written, stands, fun policy f => ?_, fun policy e => ?_, ?_⟩
    · rw [made, ofMembers_eq_ok_iff, held_ofMembers]
    · rw [made, ofMembers_eq_error_iff, held_ofMembers]
    · intro other others isOther same policy
      rw [made, ← ofMembers_congr same]
      simp only [parse, parse_of_writtenMembers isOther]
  · cases read : Json.parse text with
    | error fault =>
      refine .inr (.inr ⟨.invalidJson fault.message, ?_, ?_⟩) <;> simp only [parse, read]
    | ok v =>
      cases v with
      | object members => simpa only [parse, read] using ofMembers_policies members
      | _ => exact .inr (.inr ⟨.notAnObject, by simp only [parse, read], by simp only [parse, read]⟩)

end Texts

/-- An object without a value of its own: its keys repeat, one is escaped, and a stranger among its
members has fields inside. -/
private def repeated : String :=
  " \x7b\"topic\":7,\"x\":[\x7b\"value\":1\x7d],\"code\":null,\t\"topic\":\"t\"," ++
    "\"c\\u006fde\" : \"end\"\x7d"

private def untopical : String := "\x7b\"code\":[],\"topics\":\"t\"\x7d"

theorem parse_envelope_repeated :
    (∃ written, writtenMembers repeated = some written ∧ written.length = 5 ∧
      IsEnvelope .lenient (lastOf written) ⟨"t", "end", .null⟩ ∧
      firstError .strict (lastOf written) = some (.missingField .value)) ∧
    ∃ written, writtenMembers untopical = some written ∧
      ∀ policy, firstError policy (lastOf written) = some (.missingField .topic) := by
  constructor
  · have object : Json.parse repeated = .ok (.object [("code", .string "end"),
        ("topic", .string "t"), ("x", .array [.object [("value", .number (.integer 1))]])]) := by
      decide +kernel
    obtain ⟨written, stands, accepts, refuses, -⟩ := (parse_envelope repeated).1 _ object
    have five : (writtenMembers repeated).map List.length = some 5 := by decide +kernel
    rw [stands] at five
    refine ⟨written, stands, Option.some.inj five, ?_, ?_⟩
    · exact (accepts .lenient _).mp (by decide +kernel)
    · exact (refuses .strict _).mp (by decide +kernel)
  · have object : Json.parse untopical = .ok (.object [("code", .array []),
        ("topics", .string "t")]) := by
      decide +kernel
    obtain ⟨written, stands, -, refuses, -⟩ := (parse_envelope untopical).1 _ object
    refine ⟨written, stands, fun policy => (refuses policy _).mp ?_⟩
    cases policy <;> decide +kernel

end Switchboard.Frame
