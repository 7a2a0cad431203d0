import Switchboard.Proofs.Connection.Outbound
import Switchboard.Proofs.Connection.Stride
/-!
Waiters in front of a line, any number of them, and callers that send past them. A signal concerns
one waiter at most, and what it does to that one is a `Waiter.Turn`: a text is given to it, a flush
of it goes on, or its handles are counted anew. Whatever the signals are, a waiter stays in order,
and as long as the line has not closed a turn loses no text.
-/

set_option autoImplicit false
set_option relaxedAutoImplicit false

namespace Switchboard

namespace Waiter

/-- A waiter of a line in a phase is in order: it is flushing exactly while it has a flush, which is
the only one; nothing queues in it otherwise; and the flush waits until the line has opened. -/
structure IsOrderly (phase : Phase) (w : Waiter) : Prop where
  flushing : w.flushing = true → ∃ flush, w.flushes = [flush]
  resting : w.flushing = false → w.flushes = [] ∧ w.queue = []
  waiting : phase = .connecting → ∀ flush ∈ w.flushes, flush = .awaiting
  hopeful : phase = .open → ∀ flush ∈ w.flushes, flush.isHopeful = true

/-- What a signal does to a waiter of a line in a phase: the texts given to the waiter, those that
it passes on to the line, and what becomes of it. -/
inductive Turn (phase : Phase) (w : Waiter) : List String → List String → Waiter → Prop
  | counts (handles : Nat) (lost : w.handles = 0 → handles = 0) :
    Turn phase w [] [] { w with handles }
  | direct (idle : w.flushing = false) (isOpen : phase = .open) (text : String) :
    Turn phase w [text] [text] w
  | queues (text : String) : Turn phase w [text] []
      { w with
        queue := w.queue ++ [text]
        flushing := true
        flushes := if w.flushing then w.flushes else w.flushes ++ [.awaiting] }
  | wakes {place : Nat} (stage : w.flushes[place]? = some .awaiting) (late : phase ≠ .connecting) :
    Turn phase w [] [] { w with flushes := w.flushes.set place (.draining (phase = .open)) }
  | takes {place : Nat} {opened : Bool} {text : String} {queue : List String}
    (stage : w.flushes[place]? = some (.draining opened)) (oldest : w.queue = text :: queue) :
    Turn phase w [] [] { w with queue, flushes := w.flushes.set place (.holding opened text) }
  | ends {place : Nat} {opened : Bool} (stage : w.flushes[place]? = some (.draining opened))
    (empty : w.queue = []) :
    Turn phase w [] [] { w with flushing := false, flushes := w.flushes.eraseIdx place }
  | passes {place : Nat} {opened : Bool} {text : String}
    (stage : w.flushes[place]? = some (.holding opened text)) :
    Turn phase w [] (if opened = true ∧ phase = .open then [text] else [])
      { w with flushes := w.flushes.set place (.draining opened) }

variable {phase : Phase} {w v : Waiter} {given passed : List String}

theorem IsOrderly.alone (h : w.IsOrderly phase) {place : Nat} {flush : Flush}
    (stage : w.flushes[place]? = some flush) :
    place = 0 ∧ w.flushes = [flush] ∧ w.flushing = true := by
  have busy : w.flushing = true := by
    by_contra idle
    simp [h.resting (by simpa using idle)] at stage
  obtain ⟨only, alone⟩ := h.flushing busy
  rw [alone] at stage ⊢
  cases place with
  | zero => exact ⟨rfl, by simpa using stage, busy⟩
  | succ place => simp at stage

theorem IsOrderly.opened (h : w.IsOrderly phase) (alive : phase ≠ .closed) {place : Nat}
    {flush : Flush} (stage : w.flushes[place]? = some flush) (awake : flush ≠ .awaiting) :
    phase = .open ∧ flush.isHopeful = true := by
  have member : flush ∈ w.flushes := List.mem_of_getElem? stage
  cases phase with
  | connecting => exact absurd (h.waiting rfl flush member) awake
  | «open» => exact ⟨rfl, h.hopeful rfl flush member⟩
  | closed => exact absurd rfl alive

/-- A waiter stays in order while its line opens and while it closes. -/
theorem IsOrderly.advance (h : w.IsOrderly phase) {later : Phase}
    (onward : later = phase ∨ phase = .connecting ∧ later = .open ∨ later = .closed) :
    w.IsOrderly later := by
  rcases onward with rfl | ⟨rfl, rfl⟩ | rfl
  · exact h
  · exact ⟨h.flushing, h.resting, by simp, fun _ flush member => by
      rw [h.waiting rfl flush member]
      rfl⟩
  · exact ⟨h.flushing, h.resting, by simp, by simp⟩

private theorem IsOrderly.flushOn (h : w.IsOrderly phase) {place : Nat} {flush : Flush}
    (stage : w.flushes[place]? = some flush) (next : Flush) (queue : List String)
    (waiting : phase = .connecting → next = .awaiting)
    (hopeful : phase = .open → next.isHopeful = true) :
    IsOrderly phase { w with queue, flushes := w.flushes.set place next } := by
  obtain ⟨rfl, alone, busy⟩ := h.alone stage
  have only : w.flushes.set 0 next = [next] := by simp [alone]
  exact {
    flushing := fun _ => ⟨next, only⟩
    resting := fun idle => by simp [busy] at idle
    waiting := fun early => by
      rw [only]
      simpa using waiting early
    hopeful := fun isOpen => by
      rw [only]
      simpa using hopeful isOpen }

theorem Turn.orderly (turn : Turn phase w given passed v) (h : w.IsOrderly phase) :
    v.IsOrderly phase := by
  cases turn with
  | counts handles lost => exact ⟨h.flushing, h.resting, h.waiting, h.hopeful⟩
  | direct => exact h
  | queues text =>
    -- the flush that is there goes on, or the only one begins
    have flushes : (if w.flushing then w.flushes else w.flushes ++ [.awaiting]) = w.flushes ∧
          (∃ flush, w.flushes = [flush]) ∨
        (if w.flushing then w.flushes else w.flushes ++ [.awaiting]) = [.awaiting] := by
      cases flushing : w.flushing with
      | true => exact .inl ⟨rfl, h.flushing flushing⟩
      | false => exact .inr (by simp [(h.resting flushing).1])
    rcases flushes with ⟨same, one⟩ | fresh
    · exact ⟨fun _ => by simpa only [same] using one, fun idle => by simp at idle,
        by simpa only [same] using h.waiting, by simpa only [same] using h.hopeful⟩
    · exact ⟨fun _ => ⟨.awaiting, fresh⟩, fun idle => by simp at idle, by simp [fresh],
        by simp [fresh, Flush.isHopeful]⟩
  | wakes stage late =>
    exact h.flushOn stage _ w.queue (fun early => absurd early late)
      fun isOpen => by simp [Flush.isHopeful, isOpen]
  | takes stage oldest =>
    refine h.flushOn stage _ _ (fun early => ?_) fun isOpen => ?_
    · exact absurd (h.waiting early _ (List.mem_of_getElem? stage)) (by simp)
    · have before := h.hopeful isOpen _ (List.mem_of_getElem? stage)
      simpa only [Flush.isHopeful] using before
  | ends stage empty =>
    obtain ⟨rfl, alone, -⟩ := h.alone stage
    have none : w.flushes.eraseIdx 0 = [] := by simp [alone]
    exact ⟨by simp, fun _ => ⟨none, empty⟩, by simp [none], by simp [none]⟩
  | passes stage =>
    refine h.flushOn stage _ w.queue (fun early => ?_) fun isOpen => ?_
    · exact absurd (h.waiting early _ (List.mem_of_getElem? stage)) (by simp)
    · have before := h.hopeful isOpen _ (List.mem_of_getElem? stage)
      simpa only [Flush.isHopeful] using before

theorem Turn.unused (turn : Turn phase w given passed v) (none : w.handles = 0) :
    v.handles = 0 := by
  cases turn with
  | counts handles lost => exact lost none
  | _ => exact none

private theorem inHand_set {place : Nat} {flush : Flush} (h : w.IsOrderly phase)
    (stage : w.flushes[place]? = some flush) (next : Flush) :
    w.inHand = flush.text?.toList ∧
      (w.flushes.set place next).filterMap Flush.text? = next.text?.toList := by
  obtain ⟨rfl, alone, -⟩ := h.alone stage
  rw [inHand, alone]
  refine ⟨?_, ?_⟩
  · cases flush <;> rfl
  · cases next <;> rfl

/-- As long as the line has not closed, a turn loses no text and keeps their order. -/
theorem Turn.conserves (turn : Turn phase w given passed v) (h : w.IsOrderly phase)
    (alive : phase ≠ .closed) :
    passed ++ v.inHand ++ v.queue = w.inHand ++ w.queue ++ given := by
  cases turn with
  | counts handles lost => simp [inHand]
  | direct idle isOpen text => simp [inHand, h.resting idle]
  | queues text =>
    have same : (if w.flushing then w.flushes else w.flushes ++ [.awaiting]).filterMap
        Flush.text? = w.inHand := by
      split
      · rfl
      · rw [List.filterMap_append]
        exact List.append_nil _
    simp [inHand, same]
  | wakes stage late =>
    obtain ⟨before, after⟩ := inHand_set h stage (.draining (phase = .open))
    simp only [inHand] at before ⊢
    simp [before, after, Flush.text?]
  | @takes place opened text queue stage oldest =>
    -- the text goes from the queue into the hand of the flush
    obtain ⟨before, after⟩ := inHand_set h stage (.holding opened text)
    simp only [inHand] at before ⊢
    simp [before, after, Flush.text?, oldest]
  | ends stage empty =>
    obtain ⟨rfl, alone, -⟩ := h.alone stage
    simp [inHand, alone, Flush.text?]
  | @passes place opened text stage =>
    obtain ⟨isOpen, hopeful⟩ := h.opened alive stage (by simp)
    obtain ⟨before, after⟩ := inHand_set h stage (.draining opened)
    simp only [inHand] at before ⊢
    rw [if_pos ⟨hopeful, isOpen⟩, after, before]
    simp [Flush.text?]

end Waiter

namespace Line

/-- The texts that a signal gives to one waiter, or past all of them to the line itself. -/
def givenTo (line : Line) (source : Option Nat) : Signal → List String
  | .send text => if source = none ∧ line.handles ≠ 0 ∧ line.phase = .open then [text] else []
  | .defer i text => if source = some i then line.given (.defer i text) else []
  | _ => []

def givenToIn (line : Line) (source : Option Nat) : List Signal → List String
  | [] => []
  | signal :: rest => line.givenTo source signal ++ givenToIn (line.step signal).1 source rest

/-- What a signal leaves as it is beside the waiters and what is accepted. -/
structure Keeps (line : Line) (signal : Signal) (after : Line) : Prop where
  closing : signal ≠ .close → after.closing = line.closing
  fault : (∀ fault, signal ≠ .setFault fault) → after.fault = line.fault
  unused : line.handles = 0 → after.handles = 0
  handles : signal ≠ .retain → signal ≠ .release → after.handles = line.handles

inductive Transit (line : Line) (signal : Signal) (after : Line) (events : List Event) : Prop
  | apart (keeps : line.Keeps signal after) (waiters : after.waiters = line.waiters)
    (nothing : ∀ i, line.givenTo (some i) signal = [])
    (kept : after.phase ≠ .closed →
      handedTexts events ++ after.accepted = line.accepted ++ line.givenTo none signal)
  | turns (i : Nat) {w v : Waiter} {given passed : List String}
    (found : line.waiters[i]? = some w) (turn : w.Turn line.phase given passed v)
    (same : after =
      { line with waiters := line.waiters.set i v, accepted := line.accepted ++ passed })
    (silent : handedTexts events = [])
    (whose : ∀ source, line.givenTo source signal = if source = some i then given else [])

variable {line : Line} {w : Waiter}

private theorem Keeps.ofSame {signal : Signal} {after : Line}
    (closing : after.closing = line.closing) (fault : after.fault = line.fault)
    (handles : after.handles = line.handles) : line.Keeps signal after :=
  ⟨fun _ => closing, fun _ => fault, fun none => handles.trans none, fun _ _ => handles⟩

private theorem set_self {i : Nat} (found : line.waiters[i]? = some w) :
    line.waiters.set i w = line.waiters := by
  obtain ⟨inRange, rfl⟩ := List.getElem?_eq_some_iff.mp found
  exact List.set_getElem_self inRange

private theorem deferText_turn {i : Nat} (found : line.waiters[i]? = some w) (text : String) :
    ∃ v passed, w.Turn line.phase [text] passed v ∧ (line.deferText i w text).1 =
        { line with waiters := line.waiters.set i v, accepted := line.accepted ++ passed } ∧
      handedTexts (line.deferText i w text).2 = [] := by
  unfold deferText
  split
  · rename_i direct
    have idle : w.flushing = false := by simpa using direct.1
    refine ⟨w, [text], .direct idle direct.2 text, ?_, ?_⟩
    · simp only [accept, if_pos direct.2, set_self found]
    · simp only [accept, if_pos direct.2]
      rfl
  · refine ⟨_, [], .queues text, ?_, rfl⟩
    simp only [setWaiter, List.append_nil]

private theorem flushStep_turn {i : Nat} (found : line.waiters[i]? = some w) (place : Nat) :
    ∃ v passed, w.Turn line.phase [] passed v ∧ (line.flushStep i w place).1 =
        { line with waiters := line.waiters.set i v, accepted := line.accepted ++ passed } ∧
      handedTexts (line.flushStep i w place).2 = [] := by
  have still : ∃ v passed, w.Turn line.phase [] passed v ∧ line =
      { line with waiters := line.waiters.set i v, accepted := line.accepted ++ passed } := by
    refine ⟨w, [], .counts w.handles id, ?_⟩
    rw [set_self found, List.append_nil]
  unfold flushStep
  cases stage : w.flushes[place]? with
  | none =>
    obtain ⟨v, passed, turn, same⟩ := still
    exact ⟨v, passed, turn, same, rfl⟩
  | some flush =>
    cases flush with
    | awaiting =>
      dsimp only
      split
      · obtain ⟨v, passed, turn, same⟩ := still
        exact ⟨v, passed, turn, same, rfl⟩
      · rename_i late
        exact ⟨_, [], .wakes stage late, by simp only [setWaiter, List.append_nil], rfl⟩
    | draining opened =>
      dsimp only
      split
      · rename_i empty
        exact ⟨_, [], .ends stage empty, by simp only [setWaiter, List.append_nil], rfl⟩
      · rename_i text queue oldest
        exact ⟨_, [], .takes stage oldest, by simp only [setWaiter, List.append_nil], rfl⟩
    | holding opened text =>
      refine ⟨_, _, .passes stage, ?_⟩
      dsimp only
      cases opened with
      | false => exact ⟨by simp [setWaiter], rfl⟩
      | true =>
        by_cases isOpen : line.phase = .open
        · simp [accept, setWaiter, isOpen, handedTexts]
        · simp [accept, setWaiter, isOpen, handedTexts, Event.handed?]

private theorem transit_still {signal : Signal} (h : ∀ source, line.givenTo source signal = []) :
    line.Transit signal line [] :=
  .apart (.ofSame rfl rfl rfl) rfl (fun i => h (some i)) fun _ => by
    rw [h none, List.append_nil]
    rfl

private theorem transit_finish {signal : Signal} (ending : Ending) {events : List Event}
    (h : ∀ i, line.givenTo (some i) signal = []) :
    line.Transit signal (line.finish ending).1 events :=
  .apart (.ofSame rfl rfl rfl) rfl h fun alive => absurd rfl alive

private theorem transit_withWaiter {signal : Signal} {i : Nat} {change : Waiter → Line × List Event}
    (absent : line.waiters[i]? = none → ∀ source, line.givenTo source signal = [])
    (present : ∀ w, line.waiters[i]? = some w →
      line.Transit signal (change w).1 (change w).2) :
    line.Transit signal (line.withWaiter i change).1 (line.withWaiter i change).2 := by
  unfold withWaiter
  cases found : line.waiters[i]? with
  | none => exact transit_still (absent found)
  | some w => exact present w found

private theorem handedTexts_receive_alive (message : Message)
    (alive : (line.receive message).1.phase ≠ .closed) :
    handedTexts (line.receive message).2 = [] ∧
      (line.receive message).1.accepted = line.accepted := by
  cases message with
  | close code reason => exact absurd rfl alive
  | broken detail => exact absurd rfl alive
  | ended => exact absurd rfl alive
  | pong octets => exact ⟨rfl, rfl⟩
  | text content => exact ⟨by simp only [receive]; split <;> rfl, rfl⟩
  | binary octets => exact ⟨by simp only [receive]; split <;> rfl, rfl⟩
  | ping octets => exact ⟨by simp only [receive]; split <;> rfl, rfl⟩

/-- Every signal concerns one waiter at most, and gives that one a turn. -/
theorem step_transit (line : Line) (signal : Signal) :
    line.Transit signal (line.step signal).1 (line.step signal).2 := by
  have quiet {signal : Signal} {after : Line} {events : List Event}
      (keeps : line.Keeps signal after) (h : ∀ source, line.givenTo source signal = [])
      (waiters : after.waiters = line.waiters) (accepted : after.accepted = line.accepted)
      (silent : handedTexts events = []) : line.Transit signal after events :=
    .apart keeps waiters (fun i => h (some i)) fun _ => by rw [silent, accepted, h none]; simp
  have same {signal : Signal} : line.Keeps signal line := .ofSame rfl rfl rfl
  cases signal with
  | connect => exact quiet same (fun _ => rfl) rfl rfl rfl
  | established =>
    simp only [step]
    split
    · exact quiet (.ofSame rfl rfl rfl) (fun _ => rfl) rfl rfl rfl
    · exact transit_still fun _ => rfl
  | refused detail =>
    simp only [step]
    split
    · exact transit_finish _ fun _ => rfl
    · exact transit_still fun _ => rfl
  | timedOut seconds =>
    simp only [step]
    split
    · exact transit_finish _ fun _ => rfl
    · exact transit_still fun _ => rfl
  | received message =>
    simp only [step]
    split
    · refine .apart ?_ ?_ (fun _ => rfl) fun alive => ?_
      · cases message <;> exact .ofSame rfl rfl rfl
      · cases message <;> rfl
      · obtain ⟨silent, accepted⟩ := handedTexts_receive_alive message alive
        rw [silent, accepted]
        exact (List.append_nil _).symm
    · exact transit_still fun _ => rfl
  | write =>
    simp only [step]
    split
    · rename_i text rest isOpen oldest
      split
      · refine .apart (.ofSame rfl rfl rfl) rfl (fun _ => rfl) fun _ => ?_
        rw [oldest]
        exact (List.append_nil _).symm
      · exact transit_finish _ fun _ => rfl
    · exact transit_still fun _ => rfl
  | notice =>
    simp only [step]
    split
    · split
      · exact transit_finish _ fun _ => rfl
      · exact transit_finish .requested fun _ => rfl
      · exact transit_still fun _ => rfl
    · exact transit_still fun _ => rfl
  | abandon =>
    simp only [step]
    split
    · exact transit_finish .abandoned fun _ => rfl
    · exact transit_still fun _ => rfl
  | close =>
    simp only [step]
    split
    · exact transit_still fun _ => rfl
    · exact quiet ⟨fun other => absurd rfl other, fun _ => rfl, id, fun _ _ => rfl⟩ (fun _ => rfl)
        rfl rfl rfl
  | send text =>
    have elsewhere : ∀ i, line.givenTo (some i) (.send text) = [] := fun i => by simp [givenTo]
    simp only [step]
    split
    · rename_i unused
      exact transit_still fun source => by simp [givenTo, unused]
    · rename_i used
      simp only [accept]
      split
      · rename_i isOpen
        refine .apart (.ofSame rfl rfl rfl) rfl elsewhere fun _ => ?_
        simp [givenTo, used, isOpen, handedTexts]
      · rename_i shut
        refine .apart same rfl elsewhere fun _ => ?_
        simp [givenTo, shut, handedTexts, Event.handed?]
  | defer i text =>
    refine transit_withWaiter (fun absent source => by simp [givenTo, given, absent])
      fun w found => ?_
    split
    · rename_i unused
      exact transit_still fun source => by simp [givenTo, given, found, unused]
    · rename_i used
      obtain ⟨v, passed, turn, same, silent⟩ := deferText_turn found text
      exact .turns i found turn same silent fun source => by simp [givenTo, given, found, used]
  | flush i place =>
    refine transit_withWaiter (fun _ _ => rfl) fun w found => ?_
    obtain ⟨v, passed, turn, same, silent⟩ := flushStep_turn found place
    exact .turns i found turn same silent fun source => (ite_self _).symm
  | retain =>
    simp only [step]
    split
    · exact transit_still fun _ => rfl
    · rename_i used
      exact quiet ⟨fun _ => rfl, fun _ => rfl, fun none => absurd none used,
        fun other _ => absurd rfl other⟩ (fun _ => rfl) rfl rfl rfl
  | release =>
    refine quiet ⟨fun _ => rfl, fun _ => rfl, fun none => ?_, fun _ other => absurd rfl other⟩
      (fun _ => rfl) rfl rfl rfl
    simp [step, none]
  | retainWaiter i =>
    refine transit_withWaiter (fun _ _ => rfl) fun w found => ?_
    split
    · exact transit_still fun _ => rfl
    · rename_i used
      refine .turns i found (.counts (w.handles + 1) fun none => absurd none used) ?_ rfl
        fun source => (ite_self _).symm
      simp only [setWaiter, List.append_nil]
  | releaseWaiter i =>
    refine transit_withWaiter (fun _ _ => rfl) fun w found => ?_
    refine .turns i found (.counts (w.handles - 1) fun none => by omega) ?_ rfl
      fun source => (ite_self _).symm
    simp only [setWaiter, List.append_nil]
  | setFault fault =>
    exact quiet ⟨fun _ => rfl, fun other => absurd rfl (other fault), id, fun _ _ => rfl⟩
      (fun _ => rfl) rfl rfl rfl

theorem step_keeps (line : Line) (signal : Signal) : line.Keeps signal (line.step signal).1 := by
  cases line.step_transit signal with
  | apart keeps => exact keeps
  | turns i found turn same =>
    rw [same]
    exact .ofSame rfl rfl rfl

def IsOrderly (line : Line) : Prop := ∀ w ∈ line.waiters, w.IsOrderly line.phase

theorem IsOrderly.step (h : line.IsOrderly) (signal : Signal) : (line.step signal).1.IsOrderly := by
  cases line.step_transit signal with
  | apart keeps waiters =>
    intro w member
    rw [waiters] at member
    refine (h w member).advance ?_
    cases line.step_stride signal with
    | stays setup phase => exact .inl phase
    | opens setup begun early isOpen => exact .inr (.inl ⟨early, isOpen⟩)
    | ends setup reason last cause closed => exact .inr (.inr closed)
  | turns i found turn same =>
    intro u member
    rw [same] at member ⊢
    rcases List.mem_or_eq_of_mem_set member with old | rfl
    · exact h u old
    · exact turn.orderly (h _ (List.mem_of_getElem? found))

theorem IsOrderly.run (h : line.IsOrderly) (signals : List Signal) :
    (line.run signals).1.IsOrderly := by
  induction signals generalizing line with
  | nil => exact h
  | cons signal rest ih => exact ih (h.step signal)

end Line

end Switchboard
