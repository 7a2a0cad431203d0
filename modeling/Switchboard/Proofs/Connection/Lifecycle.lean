import Mathlib.Data.List.Infix
import Switchboard.Proofs.Connection.Stride
/-!
The life of a line. It connects, then perhaps opens, and once it has closed it stays so. All its
traffic lies between the opening and the closing, and the close handler is told behind the closing,
with the reason that belongs to what ended the line.

The entries of a run follow one another as `Phase.follow` has it, which the strides of a line bear
out one by one; where an entry may stand among the others is read off from there.
-/

set_option autoImplicit false
set_option relaxedAutoImplicit false

namespace Switchboard

def Event.phase? : Event → Option Phase
  | .opened => some .open
  | .closed _ => some .closed
  | _ => none

def Event.isTraffic : Event → Bool
  | .handled _ | .wrote _ | .wrotePong _ | .wroteClose | .writeFailed _ => true
  | _ => false

def Event.closed? : Event → Option CloseReason
  | .closed reason => some reason
  | _ => none

def Event.notified? : Event → Option CloseReason
  | .notified reason => some reason
  | _ => none

def phasesTold (events : List Event) : List Phase := .connecting :: events.filterMap Event.phase?

def endsTold (events : List Event) : List CloseReason := events.filterMap Event.closed?

def noticesTold (events : List Event) : List CloseReason := events.filterMap Event.notified?

/-- The phase in which an entry leaves a line, where the entry may be told at all. -/
def Phase.follow (phase : Phase) : Event → Option Phase
  | .opened => if phase = .connecting then some .open else none
  | .closed _ => if phase = .closed then none else some .closed
  | .notified _ => if phase = .closed then some phase else none
  | .wroteClose | .writeFailed _ => if phase = .open then some phase else none
  | e => if phase.admits e then some phase else none

def Phase.through (phase : Phase) : List Event → Option Phase
  | [] => some phase
  | e :: rest => (phase.follow e).bind fun next => next.through rest

/-- The phases through which a line comes from one phase to another. -/
inductive Phase.Road : Phase → List Phase → Phase → Prop
  | stays (phase : Phase) : Road phase [] phase
  | opens {later : List Phase} {last : Phase} (rest : Road .open later last) :
    Road .connecting (.open :: later) last
  | closes {phase : Phase} {later : List Phase} {last : Phase} (alive : phase ≠ .closed)
    (rest : Road .closed later last) : Road phase (.closed :: later) last

namespace Phase

variable {phase last : Phase} {e : Event} {events : List Event}

theorem through_append (phase : Phase) (events later : List Event) :
    phase.through (events ++ later) =
      (phase.through events).bind fun next => next.through later := by
  induction events generalizing phase with
  | nil => rfl
  | cons e rest ih => simp only [List.cons_append, through, ih, Option.bind_assoc]

theorem follow_of_admits (h : phase.admits e = true) : phase.follow e = some phase := by
  cases e with
  | opened | closed _ | notified _ | wroteClose | writeFailed _ => cases h
  | _ => simp only [follow, h, if_true]

theorem follow_of_isParting (isOpen : phase = .open) (h : e.isParting = true) :
    phase.follow e = some phase := by
  cases e with
  | wroteClose | writeFailed _ => exact if_pos isOpen
  | _ => cases h

theorem through_of_follow (h : ∀ e ∈ events, phase.follow e = some phase) :
    phase.through events = some phase := by
  induction events with
  | nil => rfl
  | cons e rest ih =>
    rw [through, h e List.mem_cons_self]
    exact ih fun f member => h f (List.mem_cons_of_mem _ member)

theorem isOpen_of_follow (traffic : e.isTraffic = true) (h : phase.follow e = some last) :
    phase = .open := by
  cases e with
  | handled _ | wrote _ | wrotePong _ | wroteClose | writeFailed _ =>
    by_contra shut
    simp [follow, admits, shut] at h
  | _ => cases traffic

theorem Road.of_closed {phases : List Phase} (h : Road .closed phases last) :
    phases = [] ∧ last = .closed := by
  cases h with
  | stays => exact ⟨rfl, rfl⟩
  | closes alive rest => exact absurd rfl alive

theorem Road.of_open {phases : List Phase} (h : Road .open phases last) :
    phases = [] ∧ last = .open ∨ phases = [.closed] ∧ last = .closed := by
  cases h with
  | stays => exact .inl ⟨rfl, rfl⟩
  | closes alive rest =>
    obtain ⟨rfl, rfl⟩ := rest.of_closed
    exact .inr ⟨rfl, rfl⟩

theorem Road.of_connecting {phases : List Phase} (h : Road .connecting phases last) :
    phases = [] ∧ last = .connecting ∨ phases = [.open] ∧ last = .open ∨
      phases = [.closed] ∧ last = .closed ∨ phases = [.open, .closed] ∧ last = .closed := by
  cases h with
  | stays => exact .inl ⟨rfl, rfl⟩
  | opens rest =>
    rcases rest.of_open with ⟨rfl, rfl⟩ | ⟨rfl, rfl⟩
    · exact .inr (.inl ⟨rfl, rfl⟩)
    · exact .inr (.inr (.inr ⟨rfl, rfl⟩))
  | closes alive rest =>
    obtain ⟨rfl, rfl⟩ := rest.of_closed
    exact .inr (.inr (.inl ⟨rfl, rfl⟩))

theorem road_of_through (h : phase.through events = some last) :
    Road phase (events.filterMap Event.phase?) last := by
  induction events generalizing phase with
  | nil =>
    obtain rfl := Option.some.inj h
    exact .stays phase
  | cons e rest ih =>
    obtain ⟨next, followed, later⟩ := Option.bind_eq_some_iff.mp h
    have road := ih later
    cases e with
    | opened =>
      obtain ⟨early, rfl⟩ : phase = .connecting ∧ .open = next := by
        simpa [follow] using followed
      subst early
      exact .opens road
    | closed reason =>
      obtain ⟨alive, rfl⟩ : phase ≠ .closed ∧ .closed = next := by
        simpa [follow] using followed
      exact .closes alive road
    | _ =>
      obtain rfl : phase = next := by
        simp only [follow] at followed
        split at followed
        · exact Option.some.inj followed
        · cases followed
      exact road

end Phase

namespace Line

variable {line : Line} {signal : Signal}

/-! The entries of a run follow one another. -/

theorem step_through (line : Line) (signal : Signal) :
    line.phase.through (line.step signal).2 = some (line.step signal).1.phase := by
  cases line.step_stride signal with
  | stays setup phase mild =>
    rw [phase]
    exact Phase.through_of_follow fun e member => Phase.follow_of_admits (mild e member)
  | opens setup begun early isOpen told =>
    rw [told, isOpen, early]
    rfl
  | ends setup reason last cause closed told parting =>
    have before : line.phase.through last = some line.phase :=
      Phase.through_of_follow fun e member => (parting e member).elim Phase.follow_of_admits
        fun h => Phase.follow_of_isParting h.1 h.2
    rw [told, closed, Phase.through_append, before]
    simp only [Option.bind_some, Phase.through, Phase.follow, if_neg cause.alive]
    split <;> rfl

theorem run_through (line : Line) (signals : List Signal) :
    line.phase.through (line.run signals).2 = some (line.run signals).1.phase := by
  induction signals generalizing line with
  | nil => rfl
  | cons signal rest ih =>
    rw [run, Phase.through_append, line.step_through signal]
    exact ih _

/-! What the entries of a life say of its opening and its closing. -/

private theorem opened_mem {events : List Event} :
    .opened ∈ events ↔ .open ∈ events.filterMap Event.phase? := by
  rw [List.mem_filterMap]
  constructor
  · exact fun member => ⟨_, member, rfl⟩
  · rintro ⟨e, member, told⟩
    cases e with
    | opened => exact member
    | _ => simp [Event.phase?] at told

private theorem closed_mem {events : List Event} :
    (∃ reason, .closed reason ∈ events) ↔ .closed ∈ events.filterMap Event.phase? := by
  rw [List.mem_filterMap]
  constructor
  · rintro ⟨reason, member⟩
    exact ⟨_, member, rfl⟩
  · rintro ⟨e, member, told⟩
    cases e with
    | closed reason => exact ⟨reason, member⟩
    | _ => simp [Event.phase?] at told

private theorem mem_of_isOpen {events : List Event}
    (h : Phase.connecting.through events = some .open) :
    .opened ∈ events ∧ ∀ reason, .closed reason ∉ events := by
  have told : events.filterMap Event.phase? = [.open] := by
    simpa using (Phase.road_of_through h).of_connecting
  refine ⟨opened_mem.mpr (by simp [told]), fun reason member => ?_⟩
  simpa [told] using closed_mem.mp ⟨reason, member⟩

private theorem mem_of_closed {events : List Event}
    (h : Phase.connecting.through events = some .closed) : ∃ reason, .closed reason ∈ events := by
  have told : events.filterMap Event.phase? = [.closed] ∨
      events.filterMap Event.phase? = [.open, .closed] := by
    simpa using (Phase.road_of_through h).of_connecting
  refine closed_mem.mpr ?_
  rcases told with told | told
  · simp [told]
  · simp [told]

/-- Where entries follow one another, so do those before and behind any one of them. -/
private theorem through_split {phase last : Phase} {before after : List Event} {e : Event}
    (h : phase.through (before ++ e :: after) = some last) :
    ∃ now next, phase.through before = some now ∧ now.follow e = some next ∧
      next.through after = some last := by
  rw [Phase.through_append] at h
  obtain ⟨now, first, rest⟩ := Option.bind_eq_some_iff.mp h
  obtain ⟨next, followed, later⟩ := Option.bind_eq_some_iff.mp rest
  exact ⟨now, next, first, followed, later⟩

private theorem nothing_of_isFinal {events : List Event}
    (h : ∀ e ∈ events, e.isFinal = false) :
    endsTold events = [] ∧ noticesTold events = [] ∧ events.count .wroteClose = 0 := by
  refine ⟨?_, ?_, List.count_eq_zero_of_not_mem fun member => Bool.noConfusion (h _ member)⟩
  · refine List.filterMap_eq_nil_iff.mpr fun e member => ?_
    have mild := h e member
    cases e with
    | closed reason => cases mild
    | _ => rfl
  · refine List.filterMap_eq_nil_iff.mpr fun e member => ?_
    have mild := h e member
    cases e with
    | notified reason => cases mild
    | _ => rfl

/-- What the entries told of a new line say of its life. -/
structure Biography (line : Line) (events : List Event) : Prop where
  /-- It connected, then perhaps opened, and then perhaps closed. -/
  history : phasesTold events ∈ [[.connecting], [.connecting, .open], [.connecting, .closed],
    [.connecting, .open, .closed]]
  latest : (phasesTold events).getLast? = some line.phase
  /-- All that was read and written lies behind the opening and before the closing. -/
  traffic : ∀ before e after, events = before ++ e :: after → e.isTraffic = true →
    .opened ∈ before ∧ ∀ reason, .closed reason ∉ before
  ends : (endsTold events).length = if line.phase = .closed then 1 else 0
  /-- The close handler, if there is one, was told of just that end. -/
  notices : noticesTold events = if line.setup.onClose then endsTold events else []
  noticesLate : ∀ before reason after, events = before ++ .notified reason :: after →
    .closed reason ∈ before
  closeFrames : events.count .wroteClose ≤ 1

private theorem step_ends (alive : line.phase ≠ .closed)
    (closed : (line.step signal).1.phase = .closed) :
    ∃ reason, line.EndsBy signal reason ∧ .opened ∉ (line.step signal).2 ∧
      endsTold (line.step signal).2 = [reason] ∧
      noticesTold (line.step signal).2 = (if line.setup.onClose then [reason] else []) ∧
      (line.step signal).2.count .wroteClose ≤ 1 := by
  cases line.step_stride signal with
  | stays setup phase => exact absurd (phase.symm.trans closed) alive
  | opens setup begun early isOpen => simp [closed] at isOpen
  | ends setup reason last cause closed told parting silent once =>
    -- what is told ahead of the end was admitted before, or is the last that is written
    have before : endsTold last = [] ∧ noticesTold last = [] ∧ .opened ∉ last := by
      have each : ∀ e ∈ last, e.closed? = none ∧ e.notified? = none ∧ e ≠ .opened := by
        intro e member
        have allowed := parting e member
        cases e with
        | opened | closed _ | notified _ => simp [Phase.admits, Event.isParting] at allowed
        | _ => exact ⟨rfl, rfl, by simp⟩
      exact ⟨List.filterMap_eq_nil_iff.mpr fun e member => (each e member).1,
        List.filterMap_eq_nil_iff.mpr fun e member => (each e member).2.1,
        fun member => (each _ member).2.2 rfl⟩
    refine ⟨reason, cause, ?_, ?_, ?_, ?_⟩
    · rw [told, List.mem_append]
      rintro (member | member)
      · exact before.2.2 member
      · split at member <;> simp at member
    · rw [told, endsTold, List.filterMap_append]
      refine (congrArg (· ++ _) before.1).trans ?_
      split <;> rfl
    · rw [told, noticesTold, List.filterMap_append]
      refine (congrArg (· ++ _) before.2.1).trans ?_
      split <;> rfl
    · rw [told, List.count_append]
      refine le_trans (Nat.add_le_add_right once _) ?_
      split <;> simp

private theorem EndsBy.code_eq_none_iff {reason : CloseReason} (h : line.EndsBy signal reason) :
    reason.code = none ↔ line.phase = .connecting := by
  cases h <;> simp [*]

private theorem run_ends {signals : List Signal} (alive : line.phase ≠ .closed)
    (closed : (line.run signals).1.phase = .closed) :
    ∃ before signal after reason, signals = before ++ signal :: after ∧
      (line.run before).1.EndsBy signal reason ∧
      (.opened ∈ (line.run signals).2 ↔ .opened ∈ (line.run before).2) ∧
      endsTold (line.run signals).2 = [reason] ∧
      noticesTold (line.run signals).2 = (if line.setup.onClose then [reason] else []) ∧
      (line.run signals).2.count .wroteClose ≤ 1 := by
  -- nothing final is told before the signal that ends the line, nor behind it
  obtain ⟨before, signal, after, split, still, ended⟩ := exists_end alive closed
  obtain ⟨reason, cause, unopened, told, noticed, once⟩ := step_ends still ended
  obtain ⟨noEnd, noNotice, noFrame⟩ := nothing_of_isFinal (run_alive still).2
  have late := (run_closed ended after).2
  obtain ⟨noEnd', noNotice', noFrame'⟩ :=
    nothing_of_isFinal fun e member => Phase.isFinal_of_admits (late e member)
  have entries : (line.run signals).2 = (line.run before).2 ++
      (((line.run before).1.step signal).2 ++
        (((line.run before).1.step signal).1.run after).2) := by
    rw [split, run_append]
    rfl
  have setup : (line.run before).1.setup = line.setup := line.run_setup before
  refine ⟨before, signal, after, reason, split, cause, ?_, ?_, ?_, ?_⟩
  · have never : .opened ∉ (((line.run before).1.step signal).1.run after).2 :=
      fun member => Bool.noConfusion (late _ member)
    simp only [entries, List.mem_append, unopened, never, or_false]
  · rw [entries]
    simp only [endsTold, List.filterMap_append] at noEnd noEnd' told ⊢
    rw [noEnd, noEnd', told]
    rfl
  · rw [entries]
    simp only [noticesTold, List.filterMap_append] at noNotice noNotice' noticed ⊢
    rw [noNotice, noNotice', noticed, setup, List.nil_append, List.append_nil]
  · rw [entries, List.count_append, List.count_append, noFrame, noFrame']
    simpa using once

private theorem biography_new (signals : List Signal) (new : line.phase = .connecting) :
    Biography (line.run signals).1 (line.run signals).2 := by
  have through := line.run_through signals
  rw [new] at through
  have split {before after : List Event} {e : Event}
      (whole : (line.run signals).2 = before ++ e :: after) :
      ∃ now next, Phase.connecting.through before = some now ∧ now.follow e = some next := by
    rw [whole] at through
    obtain ⟨now, next, first, followed, -⟩ := through_split through
    exact ⟨now, next, first, followed⟩
  have told : endsTold (line.run signals).2 = [] ∧ noticesTold (line.run signals).2 = [] ∧
        (line.run signals).2.count .wroteClose = 0 ∧ (line.run signals).1.phase ≠ .closed ∨
      (∃ reason, endsTold (line.run signals).2 = [reason] ∧
        noticesTold (line.run signals).2 = if line.setup.onClose then [reason] else []) ∧
        (line.run signals).2.count .wroteClose ≤ 1 ∧ (line.run signals).1.phase = .closed := by
    by_cases closed : (line.run signals).1.phase = .closed
    · obtain ⟨-, -, -, reason, -, -, -, one, noticed, frames⟩ := run_ends (by simp [new]) closed
      exact .inr ⟨⟨reason, one, noticed⟩, frames, closed⟩
    · obtain ⟨none, unnoticed, frames⟩ := nothing_of_isFinal (run_alive closed).2
      exact .inl ⟨none, unnoticed, frames, closed⟩
  have noticed : noticesTold (line.run signals).2 =
      if line.setup.onClose then endsTold (line.run signals).2 else [] := by
    rcases told with ⟨none, unnoticed, -⟩ | ⟨⟨reason, one, noticed⟩, -⟩
    · rw [none, unnoticed, ite_self]
    · rw [one, noticed]
  exact {
    history := by
      rcases (Phase.road_of_through through).of_connecting with h | h | h | h
      all_goals simp [phasesTold, h.1]
    latest := by
      rcases (Phase.road_of_through through).of_connecting with h | h | h | h
      all_goals simp [phasesTold, h.1, h.2]
    traffic := by
      intro before e after whole traffic
      obtain ⟨now, next, first, followed⟩ := split whole
      rw [Phase.isOpen_of_follow traffic followed] at first
      exact mem_of_isOpen first
    ends := by
      rcases told with ⟨none, -, -, alive⟩ | ⟨⟨reason, one, -⟩, -, closed⟩
      · rw [none, if_neg alive, List.length_nil]
      · rw [one, if_pos closed, List.length_singleton]
    notices := by
      rw [noticed, line.run_setup signals]
    noticesLate := by
      intro before reason after whole
      obtain ⟨now, next, first, followed⟩ := split whole
      obtain rfl : now = .closed := by
        by_contra other
        simp [Phase.follow, other] at followed
      obtain ⟨known, member⟩ := mem_of_closed first
      have inEnds : reason ∈ endsTold (line.run signals).2 := by
        have inNotices : reason ∈ noticesTold (line.run signals).2 :=
          List.mem_filterMap.mpr ⟨.notified reason, by simp [whole], rfl⟩
        rw [noticed] at inNotices
        split at inNotices
        · exact inNotices
        · cases inNotices
      have knownInEnds : known ∈ endsTold (line.run signals).2 :=
        List.mem_filterMap.mpr ⟨.closed known, by simp [whole, member], rfl⟩
      rcases told with ⟨none, -⟩ | ⟨⟨only, one, -⟩, -⟩
      · simp [none] at inEnds
      · simp only [one, List.mem_singleton] at inEnds knownInEnds
        rw [inEnds, ← knownInEnds]
        exact member
    closeFrames := by
      rcases told with ⟨-, -, none, -⟩ | ⟨-, frames, -⟩
      · omega
      · exact frames }

/-- However the steps of a line, of its waiters, of its callers and of the world outside interleave:
what is told of a line is one life from its beginning on. Its handler is given the texts that came
in while it was open, in this order. The reason of its end belongs to the signal that ended it, and
has no code just if it had never opened; and once it has closed it stays closed. -/
theorem lifecycle (setup : LineSetup) (handles : Nat) (waiters : List Waiter)
    (signals : List Signal) :
    let start : Line := { setup, handles, waiters }
    let line := (start.run signals).1
    let events := (start.run signals).2
    Biography line events ∧ handledTexts events = start.arrivals signals ∧
      (∀ reason, .closed reason ∈ events →
        (reason.code = none ↔ .opened ∉ events) ∧
        ∃ before signal after, signals = before ++ signal :: after ∧
          (start.run before).1.EndsBy signal reason) ∧
      (line.phase = .closed → ∀ more, (line.run more).1.phase = .closed) := by
  intro start line events
  refine ⟨biography_new signals rfl, start.run_arrivals signals, fun reason member => ?_,
    fun closed more => (run_closed closed more).1⟩
  have closed : line.phase = .closed := by
    by_contra alive
    exact Bool.noConfusion ((run_alive alive).2 _ member)
  have connecting : start.phase ≠ .closed := by simp [start]
  obtain ⟨before, signal, after, only, split, cause, opened, told, -⟩ := run_ends connecting closed
  obtain rfl : reason = only := by
    have inEnds : reason ∈ endsTold events := List.mem_filterMap.mpr ⟨_, member, rfl⟩
    rw [told] at inEnds
    exact List.mem_singleton.mp inEnds
  refine ⟨?_, before, signal, after, split, cause⟩
  rw [cause.code_eq_none_iff, opened]
  have through : Phase.connecting.through (start.run before).2 = some (start.run before).1.phase :=
    start.run_through before
  cases phase : (start.run before).1.phase with
  | connecting =>
    rw [phase] at through
    simp only [true_iff]
    have none : (start.run before).2.filterMap Event.phase? = [] := by
      simpa using (Phase.road_of_through through).of_connecting
    simp [opened_mem, none]
  | «open» =>
    rw [phase] at through
    simp [(mem_of_isOpen through).1]
  | closed => exact absurd phase cause.alive

/-- A line opens, hears a text, writes one and is closed twice; a text that comes later is lost. -/
theorem lifecycle_requested :
    let start : Line := { setup := ⟨"ws://host", none, true, true⟩ }
    let signals : List Signal := [.connect, .established, .received (.text "in"), .send "out",
      .write, .close, .close, .send "late", .notice, .received (.text "unheard"), .notice]
    (start.run signals).2 = [.connecting "ws://host", .opened, .handled "in", .wrote "out",
      .wroteClose, .closed ⟨some 1000, "client requested close"⟩,
      .notified ⟨some 1000, "client requested close"⟩] ∧
      Biography (start.run signals).1 (start.run signals).2 :=
  ⟨by decide +kernel, (lifecycle _ 1 [{}] _).1⟩

end Line

end Switchboard
