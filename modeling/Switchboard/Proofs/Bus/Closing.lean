import Switchboard.Proofs.Bus.Station
import Switchboard.Proofs.Connection.Abandonment
/-!
A bus whose line has closed. Nothing starts there any more and nothing is written: every call and
every stream comes to its end with the polls that are left to it, what queues is given up, and when
no conversation goes on only the subscriptions of programs and callbacks are left.
-/

set_option autoImplicit false
set_option relaxedAutoImplicit false

namespace Switchboard

variable {ν : Type}

open Exchange Bus

def Occurrence.IsTame : Occurrence ν → Prop
  | .errand (.run program) => program.IsTame
  | _ => True

theorem Occurrence.IsTame.isLimited {occurrence : Occurrence ν} (tame : occurrence.IsTame) :
    occurrence.IsLimited False True := by
  cases occurrence with
  | errand errand =>
    cases errand with
    | run program => exact Program.IsTame.isLimited tame
    | _ => trivial
  | _ => trivial

namespace Station

/-- What everything comes to at a station whose line has closed, after such a course. -/
structure IsOver (past : List Stretch) (s : Station ν) : Prop where
  waiting : ∀ name id box, s.desk.find? name = some (.call (.waiting id box)) →
    (s.desk.poll name).2 = Desk.callEnding id s.bus.journal (callersIn past) ∧
      (s.desk.poll name).1.find? name = some (.call .finished)
  fresh : ∀ name topic message, s.desk.find? name = some (.call (.fresh topic message)) →
    (s.desk.poll name).2 = .failed .closed ∧
      (s.desk.poll name).1.find? name = some (.call .finished)
  streams : ∀ name stream, s.desk.find? name = some (.stream stream) →
    ∃ rest, readIn stream.id past ++ rest = spoken (repliesTo stream.id s.bus.journal) ∧
      ∀ n, s.desk.polls (rest.length + n) name = rest.map .reply ++ List.replicate n .ended
  collections : ∀ name c, s.desk.find? name = some (.collecting c) →
    ∃ all, (s.desk.poll name).2 = .replies all ∧
      readIn c.stream.id past ++ all = spoken (repliesTo c.stream.id s.bus.journal) ∧
      (s.desk.poll name).1.find? name = some .collected
  registry : (∀ id delivery, ¬s.desk.Stakes id (some delivery)) → ∀ id delivery,
    s.bus.registry.delivery? id = some delivery ↔
      IsEntitled (callersIn past) (fun _ _ => False) s.bus id delivery
  queue : (∃ steps, s.bus.line.Works steps ∧ (s.bus.line.run steps).1.IsSettled) ∧
    ∀ steps, s.bus.line.Works steps → steps.length ≤ s.bus.line.labor ∧
      ((s.bus.line.run steps).1.IsSettled → (s.bus.line.run steps).1.queued 0 = 0)

/-- What a station comes to once its line has closed: it stays closed, no subscription is served and
nothing is written any more, and a stream that is opened by then ends at once. -/
structure Outlives (s t : Station ν) : Prop where
  closed : t.bus.line.phase = .closed
  replies : ∀ id, repliesTo id t.bus.journal = repliesTo id s.bus.journal
  silent : ∀ e ∈ s.bus.entriesSince t.bus, Phase.closed.admits e = true
  late : ∀ name stream, t.desk.find? name = some (.stream stream) →
    s.bus.registry.lastNumber < stream.id.number → (t.desk.poll name).2 = .ended

variable {past : List Stretch} {s t : Station ν}

private theorem Sound.step_closed (h : s.Sound False True False past)
    (closed : s.bus.line.phase = .closed) {occurrence : Occurrence ν}
    (limited : occurrence.IsLimited False True) :
    Undergoes False True False s.bus (s.step occurrence).bus := by
  cases inner : occurrence.isInner with
  | true =>
    -- the task has nothing to do on a closed line, so that no callback starts
    have idle : s.task.isIdle = true := h.resting (by simp [closed])
    refine (h.within id limited inner).sustains.toUndergoes.mono ?_
    simp [idle]
  | false =>
    cases occurrence with
    | signal signal =>
      have signalled := s.step_signalled signal
      generalize s.step (.signal signal) = after at signalled ⊢
      cases signalled with
      | ignored => exact .refl s.bus
      | taken =>
        exact s.bus.signal_undergoes ((Line.step_closed closed signal).1.trans closed.symm)
      | reads text isOpen => simp [closed] at isOpen
    | clone => exact s.bus.retain_undergoes
    | upgrade => exact s.bus.retain_undergoes
    | drop => exact s.bus.release_undergoes
    | _ => cases inner

private theorem Sound.after_closed (h : s.Sound False True False past)
    (closed : s.bus.line.phase = .closed) {occurrences : List (Occurrence ν)}
    (limited : ∀ occurrence ∈ occurrences, occurrence.IsLimited False True) :
    Undergoes False True False s.bus (s.after occurrences).bus := by
  induction occurrences generalizing past s with
  | nil => exact .refl s.bus
  | cons occurrence rest ih =>
    have first := limited occurrence List.mem_cons_self
    have stepped := h.step_closed closed first
    exact stepped.trans (ih (h.step id first) (stepped.phase.trans closed)
      fun next member => limited next (List.mem_cons_of_mem _ member))

private theorem called_closed (h : s.Sound False True False past)
    (closed : s.bus.line.phase = .closed) (topic : String) (message : Json) :
    (Exchange.called topic message s.bus).isClosed = true ∧
      (Exchange.called topic message s.bus).registry.contains s.bus.registry.nextId = true ∧
      repliesTo s.bus.registry.nextId (Exchange.called topic message s.bus).journal = [] := by
  have undergoes : Undergoes False True False s.bus (Exchange.called topic message s.bus) :=
    (sustains_conversing.converse s.bus topic .once (.payload topic message)).toUndergoes
  refine ⟨decide_eq_true (undergoes.phase.trans closed), ?_, ?_⟩
  · change (s.bus.registry.insert _).contains s.bus.registry.nextId = true
    rw [Registry.contains, Registry.get?_insert, if_pos rfl]
    rfl
  · obtain ⟨events, journal, -, silent⟩ := undergoes.told
    have accounted : s.bus.IsAccounted := h.books.sound.accounted
    rw [journal, repliesTo_append, silent id, accounted.repliesTo_nextId]
    rfl

private theorem Sound.isOver (h : s.Sound False True False past)
    (closed : s.bus.line.phase = .closed) : s.IsOver past where
  waiting _ _ _ held := h.books.poll_waiting (decide_eq_true closed) held
  fresh name topic message held := by
    obtain ⟨closed, live, unanswered⟩ := called_closed h closed topic message
    exact h.books.poll_fresh held closed live unanswered
  streams _ _ held := h.books.polls_stream (decide_eq_true closed) held
  collections _ _ held := h.books.poll_collecting (decide_eq_true closed) held
  registry := h.books.live_of_idle
  queue := by
    refine ⟨s.bus.line.exists_settled, fun steps works => ⟨works.length_le, fun settled => ?_⟩⟩
    refine (h.orderly.run steps).queued_settled settled ?_ 0
    simp [(Line.run_closed closed steps).1]

private theorem Sound.outlives (h : s.Sound False True False past)
    (closed : s.bus.line.phase = .closed) {more : List (Occurrence ν)}
    (limited : ∀ occurrence ∈ more, occurrence.IsLimited False True) :
    s.Outlives (s.after more) := by
  have later := h.after id limited
  have undergoes := h.after_closed closed limited
  generalize s.after more = t at later undergoes ⊢
  have stays := undergoes.phase.trans closed
  obtain ⟨events, journal, admits, silent⟩ := undergoes.told
  have replies (id : SubscriptionId) : repliesTo id t.bus.journal = repliesTo id s.bus.journal := by
    rw [journal, repliesTo_append, silent not_false, List.append_nil]
  refine ⟨stays, replies, ?_, fun name stream held late => ?_⟩
  · rw [entriesSince, journal, List.drop_left]
    exact admits closed
  · obtain ⟨rest, said, polls⟩ := later.books.polls_stream (decide_eq_true stays) held
    have nothing : repliesTo stream.id t.desk.exchange.journal = [] :=
      (replies stream.id).trans (h.books.sound.accounted.repliesTo_unissued late)
    rw [nothing] at said
    obtain rfl := (List.append_eq_nil_iff.mp said).2
    exact (List.cons_eq_cons.mp (polls 1)).1

/-- However programs, callbacks, conversations, handles and the line itself interleave on a bus on
which nobody but the line dispatches: once the line has closed, everything comes to its end with the
polls that are left to it, and so it is at every later point of the run, at which nothing new has
come of it. -/
theorem closed_for_everybody (settings : Settings) (onClose : Bool)
    {occurrences : List (Occurrence ν)} (tame : ∀ occurrence ∈ occurrences, occurrence.IsTame) :
    let start : Station ν := .ofBus (Bus.create settings onClose)
    let s := start.after occurrences
    s.bus.line.phase = .closed →
      s.IsOver (start.course occurrences) ∧
      ∀ more, (∀ occurrence ∈ more, occurrence.IsTame) →
        (s.after more).IsOver (start.course (occurrences ++ more)) ∧ s.Outlives (s.after more) := by
  intro start s closed
  have limited : ∀ occurrence ∈ occurrences, occurrence.IsLimited False True :=
    fun occurrence member => (tame occurrence member).isLimited
  have sound : s.Sound False True False (start.course occurrences) :=
    (Sound.ofCreated settings onClose).after id limited
  refine ⟨sound.isOver closed, fun more tame' => ?_⟩
  have limited' : ∀ occurrence ∈ more, occurrence.IsLimited False True :=
    fun occurrence member => (tame' occurrence member).isLimited
  have outlives := sound.outlives closed limited'
  refine ⟨?_, outlives⟩
  have later := sound.after id limited'
  rw [← start.course_append] at later
  exact later.isOver outlives.closed

/-- The line closes while three texts queue: a call that waits fails, one whose subscription a
program removed is cancelled, one that has not been polled yet fails at its first poll, and a stream
still yields the reply that came in time. -/
theorem closed_for_everybody_early :
    let start : Station Unit := .ofBus (Bus.create (.withEndpoint "ws://host") false)
    let occurrences : List (Occurrence Unit) := [.signal .connect,
      .errand (.call "early" "a" .null), .errand (.poll "early"),
      .errand (.openStream "feed" "news" .null), .errand (.call "removed" "b" .null),
      .errand (.poll "removed"), .errand (.run (.unsubscribe ⟨3⟩ fun _ => .done .nothing)),
      .signal .established, .signal (.received (.text (Frame.payload "news" .null).toText)),
      .advance 0, .proceed, .proceed, .proceed, .proceed, .proceed,
      .errand (.call "late" "c" .null), .signal .close, .signal .notice]
    let s := start.after occurrences
    (∀ occurrence ∈ occurrences, occurrence.IsTame) ∧ s.bus.line.phase = .closed ∧
      s.bus.line.queued 0 = 3 ∧
      (s.desk.poll "early").2 = .failed .closed ∧
      (s.desk.poll "removed").2 = .failed .cancelled ∧
      (s.desk.poll "late").2 = .failed .closed ∧
      s.desk.polls 3 "feed" = [.reply ⟨payloadCode, .null⟩, .ended, .ended] ∧
      s.Outlives (s.after [.errand (.openStream "new" "news" .null)]) := by
  intro start occurrences s
  have closed : s.bus.line.phase = .closed := by decide +kernel
  have tame : ∀ occurrence ∈ occurrences, occurrence.IsTame := by
    simp [occurrences, Occurrence.IsTame, Program.IsTame]
  obtain ⟨ended, later⟩ : s.IsOver (start.course occurrences) ∧ _ :=
    closed_for_everybody (.withEndpoint "ws://host") false tame closed
  refine ⟨tame, closed, by decide +kernel, ?_, ?_, ?_, ?_, ?_⟩
  · exact (ended.waiting "early" ⟨1⟩ 0 (by decide +kernel)).1.trans (by decide +kernel)
  · exact (ended.waiting "removed" ⟨3⟩ 2 (by decide +kernel)).1.trans (by decide +kernel)
  · exact (ended.fresh "late" "c" .null (by decide +kernel)).1
  · obtain ⟨rest, said, polls⟩ := ended.streams "feed" ⟨⟨2⟩, 1, false⟩ (by decide +kernel)
    have unread : readIn ⟨2⟩ (start.course occurrences) = [] := by decide +kernel
    have heard : spoken (repliesTo ⟨2⟩ s.bus.journal) = [⟨payloadCode, .null⟩] := by
      decide +kernel
    rw [unread, heard] at said
    obtain rfl : rest = [⟨payloadCode, .null⟩] := said
    exact polls 2
  · exact (later [.errand (.openStream "new" "news" .null)] (by simp [Occurrence.IsTame])).2

end Station

end Switchboard
