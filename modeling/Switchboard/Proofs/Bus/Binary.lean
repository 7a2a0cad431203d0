import Mathlib.Data.List.Forall2
import Switchboard.Proofs.Bus.Panics
import Switchboard.Proofs.Text.Gaps
import Switchboard.Session.Step
/-!
Binary messages are texts in another form. It makes no difference to a run, at a station or in a
session, whether a text arrives as such or as its octets; and any octets do what the text does that
is read in them, which leaves the line as it was.
-/

set_option autoImplicit false
set_option relaxedAutoImplicit false

namespace Switchboard

variable {ν : Type}

open Exchange Bus

/-- A message, or in place of it the octets of its text, or the text that is read in its octets. -/
inductive Message.Recoded : Message → Message → Prop
  | kept (message : Message) : Recoded message message
  | encoded (text : String) : Recoded (.text text) (.binary (Text.encode text))
  | decoded (octets : List UInt8) : Recoded (.binary octets) (.text (Text.decodeLossy octets))

inductive Occurrence.Recoded : Occurrence ν → Occurrence ν → Prop
  | kept (occurrence : Occurrence ν) : Recoded occurrence occurrence
  | received {message other : Message} : message.Recoded other →
    Recoded (.signal (.received message)) (.signal (.received other))

inductive Step.Recoded : Step ν → Step ν → Prop
  | kept (step : Step ν) : Recoded step step
  | transmit {message other : Message} : message.Recoded other →
    Recoded (.transmit message) (.transmit other)

/-- What treats octets as the text that is read in them makes the same of a recoded message. -/
theorem Message.Recoded.same {α : Type} {f : Message → α} {message other : Message}
    (recoded : message.Recoded other)
    (lossy : ∀ octets, f (.binary octets) = f (.text (Text.decodeLossy octets))) :
    f other = f message := by
  cases recoded with
  | kept => rfl
  | encoded text => rw [lossy, Text.decodeLossy_encode]
  | decoded octets => exact (lossy octets).symm

namespace Bus

theorem signal_text_line (b : Bus ν) (text : String) :
    (b.signal (.received (.text text))).line = b.line := by
  change (b.line.step (.received (.text text))).1 = b.line
  simp only [Line.step]
  split
  · rfl
  · rfl

theorem ask_route_line (b : Bus ν) (depth : Nat) (waiting : List (Waiting ν)) (text : String)
    (next : RouteOutcome → Program ν) :
    Bus.line (Machine.ask b depth waiting (.route text next)).exchange = b.line := by
  simp only [Machine.ask]
  split
  · rfl
  · unfold Machine.beginPass
    split
    · rfl
    · rfl

theorem runs_phase {m m' : Machine ν Trunk} (runs : Machine.Runs m m') :
    (Bus.line m'.exchange).phase = (Bus.line m.exchange).phase := by
  induction runs with
  | refl => rfl
  | tail _ stepped ih =>
    subst stepped
    rw [advance_phase, ih]

theorem receive_text_phase (b : Bus ν) (text : String) :
    (b.receive (.text text)).line.phase = b.line.phase := by
  have line := b.signal_text_line text
  have routed := runs_phase (.execute b.nesting
    (.route text fun outcome => .done (.outcome outcome)) (b.signal (.received (.text text))) [])
  rw [line] at routed
  unfold receive
  split
  · rename_i carried
    obtain rfl := Option.some.inj carried
    split
    · exact routed
    · rw [line]
  · rw [line]

end Bus

namespace Station

theorem step_recoded (s : Station ν) {occurrence other : Occurrence ν}
    (recoded : occurrence.Recoded other) :
    s.step other = s.step occurrence ∧ s.stretch other = s.stretch occurrence := by
  cases recoded with
  | kept => exact ⟨rfl, rfl⟩
  | received recoded =>
    have same := recoded.same (f := fun message => s.step (.signal (.received message)))
      fun _ => rfl
    refine ⟨same, ?_⟩
    simp only [stretch]
    rw [same]

theorem after_recoded (s : Station ν) {occurrences others : List (Occurrence ν)}
    (recoded : List.Forall₂ Occurrence.Recoded occurrences others) :
    s.after others = s.after occurrences ∧ s.course others = s.course occurrences := by
  induction recoded generalizing s with
  | nil => exact ⟨rfl, rfl⟩
  | cons first _ ih =>
    obtain ⟨step, stretch⟩ := s.step_recoded first
    simp only [after, course]
    rw [step, stretch, (ih _).1, (ih _).2]
    exact ⟨rfl, rfl⟩

/-- What octets do at a station, whether they are those of a text or not. -/
structure TakesOctets (s : Station ν) (octets : List UInt8) : Prop where
  same : s.step (.signal (.received (.binary octets))) =
    s.step (.signal (.received (.text (Text.decodeLossy octets))))
  line : (s.step (.signal (.received (.binary octets)))).bus.line = s.bus.line
  /-- The callbacks that are invoked do not end the line either, as long as nothing else comes. -/
  phase : ∀ n, ((s.step (.signal (.received (.binary octets)))).after
    (List.replicate n .proceed)).bus.line.phase = s.bus.line.phase

theorem step_text_line (s : Station ν) (text : String) :
    (s.step (.signal (.received (.text text)))).bus.line = s.bus.line := by
  have signalled := s.step_signalled (.received (.text text))
  generalize s.step (.signal (.received (.text text))) = after at signalled ⊢
  cases signalled with
  | ignored => rfl
  | taken => exact s.bus.signal_text_line text
  | reads other => exact (ask_route_line _ _ _ other _).trans (s.bus.signal_text_line text)

theorem proceed_phase (s : Station ν) (n : Nat) :
    (s.after (List.replicate n .proceed)).bus.line.phase = s.bus.line.phase := by
  induction n generalizing s with
  | zero => rfl
  | succ n ih =>
    rw [List.replicate_succ, after, ih]
    exact advance_phase (s.task.on s.bus)

theorem takesOctets (s : Station ν) (octets : List UInt8) : s.TakesOctets octets := by
  have line := s.step_text_line (Text.decodeLossy octets)
  refine ⟨rfl, line, ?_⟩
  intro n
  rw [proceed_phase]
  exact congrArg Line.phase line

end Station

namespace Session

def run (s : Session ν) : List (Step ν) → Session ν × List StepAnswer
  | [] => (s, [])
  | step :: rest =>
    let (next, answer) := s.step step
    let (last, answers) := next.run rest
    (last, answer :: answers)

theorem step_recoded (s : Session ν) {step other : Step ν} (recoded : step.Recoded other) :
    s.step other = s.step step := by
  cases recoded with
  | kept => rfl
  | transmit recoded =>
    exact recoded.same (f := fun message => s.step (.transmit message)) fun _ => rfl

theorem run_recoded (s : Session ν) {steps others : List (Step ν)}
    (recoded : List.Forall₂ Step.Recoded steps others) : s.run others = s.run steps := by
  induction recoded generalizing s with
  | nil => rfl
  | cons first _ ih =>
    simp only [run]
    rw [s.step_recoded first, ih]

theorem transmit_text_phase (s : Session ν) (text : String) :
    (s.transmit (.text text)).1.bus.line.phase = s.bus.line.phase := by
  unfold transmit
  split
  · rfl
  · exact s.bus.receive_text_phase text

end Session

/-- A run does not depend on which texts arrive in binary messages: a station comes to the same with
the same course, and a session with the same answers. Any octets do what the text does in which a
replacement stands for each gap between characters, and by themselves never end the line. -/
theorem binary_interchangeable :
    (∀ (s : Station ν) occurrences others, List.Forall₂ Occurrence.Recoded occurrences others →
      s.after others = s.after occurrences ∧ s.course others = s.course occurrences) ∧
    (∀ (s : Session ν) steps others, List.Forall₂ Step.Recoded steps others →
      s.run others = s.run steps) ∧
    ∀ octets, (∀ s : Station ν, s.TakesOctets octets) ∧
      (∀ s : Session ν, s.step (.transmit (.binary octets)) =
          s.step (.transmit (.text (Text.decodeLossy octets))) ∧
        (s.transmit (.binary octets)).1.bus.line.phase = s.bus.line.phase) ∧
      ∃ pieces, Text.Reads octets pieces ∧ (∀ others, Text.Reads octets others → others = pieces) ∧
        Text.decodeLossy octets = String.ofList (pieces.map fun piece =>
          piece.getD Text.replacementCharacter) := by
  refine ⟨fun s _ _ => s.after_recoded, fun s _ _ => s.run_recoded, fun octets => ⟨?_, ?_, ?_⟩⟩
  · exact fun s => s.takesOctets octets
  · intro s
    exact ⟨rfl, s.transmit_text_phase (Text.decodeLossy octets)⟩
  · have reads := (Text.scanOctets_reads octets).1
    exact ⟨_, reads, fun others read => read.unique reads, Text.decodeLossy_of_reads reads⟩

/-- The reply to a call comes as octets, and the call ends with it; then octets come that break off
in a character and hold another one. -/
theorem binary_interchangeable_reply :
    let start : Station Unit := .ofBus (Bus.create (.withEndpoint "ws://host") false)
    let reply := (Frame.payload "état" (.string "€😀")).toText
    let before : List (Occurrence Unit) := [.signal .connect, .errand (.call "early" "état" .null),
      .errand (.poll "early"), .signal .established]
    let occurrences := before ++ [.signal (.received (.text reply))] ++ .replicate 5 .proceed
    let others := before ++ [.signal (.received (.binary (Text.encode reply)))] ++
      .replicate 5 .proceed
    let s := start.after others
    List.Forall₂ Occurrence.Recoded occurrences others ∧ s = start.after occurrences ∧
      (s.desk.poll "early").2 = .reply ⟨payloadCode, .string "€😀"⟩ ∧
      s.step (.signal (.received (.binary [0xF0, 0x9F, 0x41, 0xC3, 0xA9]))) =
        s.step (.signal (.received (.text "�Aé"))) ∧
      (s.step (.signal (.received (.binary [0xF0, 0x9F, 0x41, 0xC3, 0xA9])))).bus.line.phase =
        .open := by
  intro start reply before occurrences others s
  have kept : ∀ run : List (Occurrence Unit), List.Forall₂ Occurrence.Recoded run run :=
    fun run => List.forall₂_same.mpr fun occurrence _ => .kept occurrence
  have recoded : List.Forall₂ Occurrence.Recoded occurrences others :=
    List.rel_append (List.rel_append (kept before) (.cons (.received (.encoded reply)) .nil))
      (kept (.replicate 5 .proceed))
  obtain ⟨runs, _, octets⟩ := binary_interchangeable (ν := Unit)
  have same : s = start.after occurrences := (runs start occurrences others recoded).1
  have read : Text.decodeLossy [0xF0, 0x9F, 0x41, 0xC3, 0xA9] = "�Aé" := by decide +kernel
  have taken := (octets [0xF0, 0x9F, 0x41, 0xC3, 0xA9]).1 s
  refine ⟨recoded, same, ?_, ?_, ?_⟩
  · rw [same]
    decide +kernel
  · rw [taken.same, read]
  · rw [taken.line, same]
    decide +kernel

end Switchboard
