import Switchboard.Proofs.Bus.Station
import Switchboard.Proofs.Conversation.Calm
import Switchboard.Proofs.Exchange.Fate
/-!
Failures of callbacks are nobody else's business. A dispatch in which callbacks fail, at whatever
point and in whatever dispatch within it, is the dispatch in which they return there, but for the
word of their failures; and a station at which callbacks fail goes through everything that happens
to it as one at which they return.
-/

set_option autoImplicit false
set_option relaxedAutoImplicit false

namespace Switchboard

variable {ν σ : Type}

open Exchange Bus

namespace Exchange

variable [Outlet σ]

/-- What a dispatch that added these entries to the journal has to do with the one in which failing
callbacks return instead. -/
structure HidesPanics (depth : Nat) (frame : Frame) (x : Exchange ν σ) (events : List Event) :
    Prop where
  journal : (dispatchWithin (depth + 1) frame x).1.journal = x.journal ++ events
  calmly : dispatchWithin (depth + 1) frame x.calm =
    ((dispatchWithin (depth + 1) frame x).1.calm, (dispatchWithin (depth + 1) frame x).2)
  entries : (dispatchWithin (depth + 1) frame x.calm).1.journal =
    x.calm.journal ++ withoutPanics events
  /-- It starts the same callbacks with the same replies, those that fail included. -/
  started : outermostStarts (withoutPanics events) = outermostStarts events
  counted : (dispatchWithin (depth + 1) frame x).2 = (outermostStarts events).length
  /-- Which callbacks fail, and where, makes no difference. -/
  agrees : ∀ y : Exchange ν σ, y.calm = x.calm →
    (dispatchWithin (depth + 1) frame y).1.calm = (dispatchWithin (depth + 1) frame x).1.calm ∧
      (dispatchWithin (depth + 1) frame y).2 = (dispatchWithin (depth + 1) frame x).2
  single : ∀ id s, x.registry.get? id = some s → s.topic = frame.topic → s.delivery = .once →
    (dispatchWithin (depth + 1) frame x).1.registry.contains id = false
  persistent : ∀ id s, x.registry.get? id = some s → s.delivery = .persistent →
    ((dispatchWithin (depth + 1) frame x).1.registry.get? id = some s ↔
      .unsubscribed id ∉ events)

theorem exists_hidesPanics (depth : Nat) (frame : Frame) (x : Exchange ν σ) :
    ∃ events, HidesPanics depth frame x events := by
  obtain ⟨events, serves⟩ := exists_servesLive depth frame x
  have whole := serves.journal
  have calmly := dispatchWithin_calm (x := x) (depth + 1) frame
  refine ⟨events, whole, calmly, ?_, outermostStarts_withoutPanics events, ?_, ?_, ?_, ?_⟩
  · rw [calmly]
    change withoutPanics _ = withoutPanics x.journal ++ withoutPanics events
    rw [whole, withoutPanics_append]
  · exact serves.length_starts.symm
  · intro y same
    have other := dispatchWithin_calm (x := y) (depth + 1) frame
    rw [same, calmly] at other
    exact ⟨(congrArg Prod.fst other).symm, (congrArg Prod.snd other).symm⟩
  · intro id s live onTopic single
    exact dispatch_single depth frame live onTopic single
  · intro id s live persistent
    exact dispatch_persistent (depth + 1) frame live persistent whole

end Exchange

/-- A callback that has failed counts, the pass that invoked it goes on with all others, and then
the callback goes on that called for that pass. -/
theorem Machine.Runs.after_panic [Outlet σ] (x : Exchange ν σ) (depth : Nat) (id : SubscriptionId)
    (callback : Callback ν) (frame : Frame) (rest : List SubscriptionId) (invoked : Nat)
    (next : Nat → Program ν) (waiting : List (Waiting ν)) :
    Runs ⟨x, depth, .ended none, .callback id callback frame rest invoked :: .dispatched next ::
        waiting⟩
      ⟨(Exchange.passWith (Exchange.dispatchWithin depth) frame rest
          (x.dismiss callback id frame.topic true)).1, depth + 1,
        .running (next (invoked + 1 + (Exchange.passWith (Exchange.dispatchWithin depth) frame rest
          (x.dismiss callback id frame.topic true)).2.length)), waiting⟩ := by
  have passed := Runs.pass depth frame rest (invoked + 1)
    (x.dismiss callback id frame.topic true) (.dispatched next :: waiting)
  exact Relation.ReflTransGen.head rfl (passed.tail rfl)

namespace Thread

def calm (t : Thread ν) : Thread ν := ⟨t.depth, t.activity.calm, t.waiting.map Waiting.calm⟩

theorem isIdle_calm (t : Thread ν) : t.calm.isIdle = t.isIdle := by
  obtain ⟨depth, activity, waiting⟩ := t
  cases activity with
  | ended answer => cases waiting <;> rfl
  | _ => rfl

theorem advance_calm (t : Thread ν) (b : Bus ν) :
    (t.calm.on b.calm).advance = (t.on b).advance.calm :=
  (Machine.calm_advance (t.on b)).symm

end Thread

namespace Bus

theorem signal_calm (b : Bus ν) (signal : Signal) :
    Bus.signal b.calm signal = (b.signal signal).calm := by
  have outward := b.line.step_outward signal
  let moved : Bus ν := { b with outlet := (b.outlet.signal signal).1 }
  exact (Exchange.calm_enter (x := moved) (withoutPanics_of_outward outward)).symm

theorem retain_calm (b : Bus ν) : Bus.retain b.calm = b.retain.calm := by
  unfold retain
  rw [show b.calm.outlet = b.outlet from rfl]
  split
  · rfl
  · rfl

theorem release_calm (b : Bus ν) : Bus.release b.calm = b.release.calm := by
  let dropped : Bus ν := { b with outlet := { b.outlet with handles := b.outlet.handles - 1 } }
  exact (Exchange.calm_disownFree (x := dropped)).symm

theorem advance_phase (m : Machine ν Trunk) :
    (Bus.line m.advance.exchange).phase = (Bus.line m.exchange).phase := by
  refine Machine.advance_keeps (f := fun t : Trunk => t.line.phase) ?_ ?_ ?_ m
  · intro frame t
    exact (used_keeps (.publish frame t)).2
  · intro t
    exact (used_keeps (.close t)).2
  · intro t
    exact (used_keeps (.disown t)).2

end Bus

def Occurrence.calm : Occurrence ν → Occurrence ν
  | .errand asked => .errand asked.calm
  | occurrence => occurrence

namespace Station

def calm (s : Station ν) : Station ν :=
  ⟨s.bus.calm, s.task.calm, s.threads.map Thread.calm, s.held⟩

theorem admits_calm (s : Station ν) (signal : Signal) : s.calm.admits signal = s.admits signal := by
  cases signal with
  | connect | established | refused | timedOut | received | write | notice | abandon =>
    exact s.task.isIdle_calm
  | _ => rfl

theorem receive_calm (s : Station ν) (message : Message) :
    s.calm.receive message = (s.receive message).calm := by
  unfold receive
  rw [show Bus.line s.calm.bus = s.bus.line from rfl,
    show Bus.signal s.calm.bus (.received message) = (s.bus.signal (.received message)).calm from
      s.bus.signal_calm _]
  generalize s.bus.signal (.received message) = read
  split
  · rename_i text _ _
    split
    · have asked : (Machine.ask read read.nesting []
          (.route text fun outcome => .done (.outcome outcome))).calm =
        Machine.ask read.calm read.nesting []
          (.route text fun outcome => .done (.outcome outcome)) := Machine.calm_ask _
      exact congrArg s.calm.occupy asked.symm
    · rfl
  · rfl

theorem step_calm (s : Station ν) (occurrence : Occurrence ν) :
    s.calm.step occurrence.calm = (s.step occurrence).calm := by
  cases occurrence with
  | errand errand =>
    by_cases isRun : ∃ program, errand = .run program
    · obtain ⟨program, rfl⟩ := isRun
      simp only [Occurrence.calm, Errand.calm, step, calm, List.map_append]
      rfl
    · have noProgram := fun program same => isRun ⟨program, same⟩
      have same : errand.calm = errand := by
        cases errand with
        | run program => exact absurd rfl (noProgram program)
        | _ => rfl
      have performed := s.desk.perform_calm errand
      rw [same] at performed
      rw [(s.step_errand noProgram).1, Occurrence.calm, same,
        (s.calm.step_errand noProgram).1, show s.calm.desk = s.desk.calm from rfl, performed]
      rfl
  | proceed => exact congrArg s.calm.occupy (s.task.advance_calm s.bus)
  | advance place =>
    have found : s.calm.threads[place]? = s.threads[place]?.map Thread.calm := List.getElem?_map
    simp only [Occurrence.calm, step, found]
    cases s.threads[place]? with
    | none => rfl
    | some t =>
      have advanced := t.advance_calm s.bus
      simp only [Option.map_some]
      rw [show s.calm.bus = s.bus.calm from rfl, advanced]
      simp only [calm, List.map_set]
      rfl
  | signal signal =>
    simp only [Occurrence.calm, step, admits_calm]
    split
    · cases signal with
      | received message => exact s.receive_calm message
      | _ => exact congrArg (Station.mk · s.calm.task s.calm.threads s.held) (s.bus.signal_calm _)
    · rfl
  | clone | upgrade =>
    exact congrArg (Station.mk · s.calm.task s.calm.threads s.held) s.bus.retain_calm
  | downgrade => rfl
  | drop => exact congrArg (Station.mk · s.calm.task s.calm.threads s.held) s.bus.release_calm

theorem after_calm (s : Station ν) (occurrences : List (Occurrence ν)) :
    s.calm.after (occurrences.map Occurrence.calm) = (s.after occurrences).calm := by
  induction occurrences generalizing s with
  | nil => rfl
  | cons occurrence rest ih =>
    rw [List.map_cons, after, step_calm]
    exact ih _

/-- What a run of a station has to do with the one in which failing callbacks return instead. -/
structure HidesPanics (s : Station ν) (occurrences : List (Occurrence ν)) : Prop where
  calmly : s.calm.after (occurrences.map Occurrence.calm) = (s.after occurrences).calm
  line : (s.calm.after (occurrences.map Occurrence.calm)).bus.line = (s.after occurrences).bus.line
  agrees : ∀ (t : Station ν) others, t.calm = s.calm →
    others.map Occurrence.calm = occurrences.map Occurrence.calm →
    (t.after others).calm = (s.after occurrences).calm ∧
      (t.after others).bus.line = (s.after occurrences).bus.line
  /-- What callbacks and programs do, the end of a failed one included, leaves the line's phase. -/
  task : ((s.after occurrences).step .proceed).bus.line.phase = (s.after occurrences).bus.line.phase
  threads : ∀ place, ((s.after occurrences).step (.advance place)).bus.line.phase =
    (s.after occurrences).bus.line.phase

theorem hidesPanics (s : Station ν) (occurrences : List (Occurrence ν)) :
    s.HidesPanics occurrences := by
  have calmly := s.after_calm occurrences
  have sameLine : ∀ {s t : Station ν}, t.calm = s.calm → t.bus.line = s.bus.line := by
    intro s t same
    have lines : t.calm.bus.line = s.calm.bus.line := by rw [same]
    exact lines
  refine ⟨calmly, by rw [calmly]; rfl, ?_, ?_, ?_⟩
  · intro t others same sameRun
    have other := t.after_calm others
    rw [same, sameRun, calmly] at other
    exact ⟨other.symm, sameLine other.symm⟩
  · exact advance_phase ((s.after occurrences).task.on (s.after occurrences).bus)
  · intro place
    simp only [step]
    split
    · rfl
    · exact advance_phase _

end Station

/-- Failures of callbacks are invisible to everybody else: in dispatches on any exchange, to the
callbacks and passes around them, and at a station with all that goes on there. -/
theorem panics_invisible [Outlet σ] :
    (∀ depth frame (x : Exchange ν σ), ∃ events, x.HidesPanics depth frame events) ∧
    (∀ (x : Exchange ν σ) depth id callback frame rest invoked next waiting,
      Machine.Runs ⟨x, depth, .ended none, .callback id callback frame rest invoked ::
          .dispatched next :: waiting⟩
        ⟨(passWith (dispatchWithin depth) frame rest
            (x.dismiss callback id frame.topic true)).1, depth + 1,
          .running (next (invoked + 1 + (passWith (dispatchWithin depth) frame rest
            (x.dismiss callback id frame.topic true)).2.length)), waiting⟩) ∧
    ∀ (s : Station ν) occurrences, s.HidesPanics occurrences :=
  ⟨exists_hidesPanics, Machine.Runs.after_panic, Station.hidesPanics⟩

/-- Three subscriptions on one topic and one on another. The first of them dispatches on the other
topic, where a callback fails, and then fails itself, and so does the second. -/
private def failing : Exchange Unit Recorder :=
  let first : Program Unit := .subscribe "late" .once false (fun _ _ => .panic) fun _ =>
    .dispatch ⟨"inner", "payload", .null⟩ fun _ => .panic
  let empty : Exchange Unit Recorder := { policy := .strict, outlet := { echoes := false } }
  (((empty.subscribe ⟨"news", .once, .program false fun _ _ => first⟩).subscribe
    ⟨"inner", .persistent, .program false fun _ _ => .panic⟩).subscribe
      ⟨"news", .persistent, .program false fun _ _ => .panic⟩).subscribe
        ⟨"news", .persistent, .program false fun _ _ => .done .nothing⟩

theorem panics_invisible_nested :
    ∃ events, failing.HidesPanics 2 ⟨"news", "end", .null⟩ events ∧
      (outermostStarts events).map Prod.fst = [⟨1⟩, ⟨3⟩, ⟨4⟩] ∧
      (dispatchWithin 3 ⟨"news", "end", .null⟩ failing).1.registry.contains ⟨1⟩ = false ∧
      (dispatchWithin 3 ⟨"news", "end", .null⟩ failing).1.registry.topicCount "late" = 1 := by
  obtain ⟨events, hidden⟩ := panics_invisible.1 2 ⟨"news", "end", .null⟩ failing
  have kept : failing.journal.length = 4 := by decide +kernel
  have starts : (outermostStarts ((dispatchWithin 3 ⟨"news", "end", .null⟩
      failing).1.journal.drop 4)).map Prod.fst = [⟨1⟩, ⟨3⟩, ⟨4⟩] := by decide +kernel
  rw [hidden.journal, List.drop_left' kept] at starts
  refine ⟨events, hidden, starts, ?_, by decide +kernel⟩
  obtain ⟨s, live, onTopic, once⟩ : ∃ s, failing.registry.get? ⟨1⟩ = some s ∧ s.topic = "news" ∧
      s.delivery = .once := ⟨_, rfl, rfl, rfl⟩
  exact hidden.single ⟨1⟩ s live onTopic once

end Switchboard
