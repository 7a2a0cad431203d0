import Switchboard.Proofs.Bus.Acts
import Switchboard.Proofs.Bus.Limits
import Switchboard.Proofs.Conversation.Books
/-!
A station: a bus with all that goes on at it at once. The line's own task runs the callbacks of the
texts that it reads, programs run on threads of their own, conversations are held under names, and
handles are taken and dropped; whatever comes next comes between any two steps of the others.
-/

set_option autoImplicit false
set_option relaxedAutoImplicit false

namespace Switchboard

variable {ν : Type}

open Exchange Bus

/-- A bus with what its line's task is at, the programs that run on it, and the conversations that
are held. -/
structure Station (ν : Type) where
  bus : Bus ν
  task : Thread ν := {}
  threads : List (Thread ν) := []
  held : List (String × Conversation) := []

inductive Occurrence (ν : Type)
  /-- A program begins, or something is done to a conversation. -/
  | errand (errand : Errand ν)
  /-- The line's task takes a step of the callbacks that it runs. -/
  | proceed
  /-- A program, told by its place among the threads, takes a step. -/
  | advance (place : Nat)
  /-- The line takes a step of its own, or one that a peer, a flush or a caller wants. -/
  | signal (signal : Signal)
  /-- Another strong handle is taken from one that is there. -/
  | clone
  /-- A strong handle is taken from a weak one, if there is still one to take it from. A callback may
  do so and drop it at its end. -/
  | upgrade
  | downgrade
  | drop

theorem Thread.advance_of_isIdle {t : Thread ν} (idle : t.isIdle = true) (b : Bus ν) :
    (t.on b).advance = t.on b := by
  obtain ⟨depth, activity, waiting⟩ := t
  cases activity with
  | ended answer =>
    cases waiting with
    | nil => rfl
    | cons w rest => cases idle
  | _ => cases idle

theorem Thread.advance_moves (t : Thread ν) (b : Bus ν) :
    Moves (fun _ => False) b (t.on b).advance.exchange :=
  .runs (m := t.on b) (.single rfl)

namespace Occurrence

/-- Whether it is something that conversations, programs or callbacks do. -/
def isInner : Occurrence ν → Bool
  | .errand _ | .proceed | .advance _ | .downgrade => true
  | .signal _ | .clone | .upgrade | .drop => false

def IsLimited (dispatches owns : Prop) : Occurrence ν → Prop
  | .errand (.run program) => program.IsLimited dispatches owns
  | _ => True

end Occurrence

namespace Station

def ofBus (bus : Bus ν) : Station ν := { bus }

def desk (s : Station ν) : Desk ν Trunk := ⟨s.bus, s.held⟩

/-- The line's task goes on with a machine. -/
def occupy (s : Station ν) (m : Machine ν Trunk) : Station ν :=
  { s with bus := m.exchange, task := .ofMachine m }

/-- Whether a signal can come. The task takes no other step while it runs callbacks; nobody else
drops the handle of the bus on its line, or has one on its waiter. -/
def admits (s : Station ν) : Signal → Bool
  | .connect | .established | .refused _ | .timedOut _ | .received _
  | .write | .notice | .abandon => s.task.isIdle
  | .release => (if s.bus.outlet.alive then 1 else 0) < s.bus.line.handles
  | .retainWaiter _ | .releaseWaiter _ => false
  | _ => true

/-- The line's task reads a message, and begins to route its text. -/
def receive (s : Station ν) (message : Message) : Station ν :=
  let read := s.bus.signal (.received message)
  match s.bus.line.phase, message.text? with
  | .open, some text =>
    if s.bus.line.setup.onMessage then
      s.occupy (.ask read read.nesting [] (.route text fun outcome => .done (.outcome outcome)))
    else { s with bus := read }
  | _, _ => { s with bus := read }

def step (s : Station ν) : Occurrence ν → Station ν
  | .errand (.run program) =>
    { s with threads := s.threads ++ [⟨s.bus.nesting, .running program, []⟩] }
  | .errand errand =>
    let (desk, _) := s.desk.perform errand
    { s with bus := desk.exchange, held := desk.held }
  | .proceed => s.occupy (s.task.on s.bus).advance
  | .advance place =>
    match s.threads[place]? with
    | none => s
    | some t =>
      let m := (t.on s.bus).advance
      { s with bus := m.exchange, threads := s.threads.set place (.ofMachine m) }
  | .signal signal =>
    if s.admits signal then
      match signal with
      | .received message => s.receive message
      | _ => { s with bus := s.bus.signal signal }
    else s
  | .clone | .upgrade => { s with bus := Bus.retain s.bus }
  | .downgrade => s
  | .drop => { s with bus := Bus.release s.bus }

def stretch (s : Station ν) : Occurrence ν → Stretch
  | .errand (.run _) => {}
  | .errand errand => s.desk.stretch errand
  | occurrence => { callers := s.bus.entriesSince (s.step occurrence).bus }

def after (s : Station ν) : List (Occurrence ν) → Station ν
  | [] => s
  | occurrence :: rest => (s.step occurrence).after rest

def course (s : Station ν) : List (Occurrence ν) → List Stretch
  | [] => []
  | occurrence :: rest => s.stretch occurrence :: (s.step occurrence).course rest

/-! ### Alone

What nothing else interferes with comes to what the exchange and the bus make of it. -/

theorem program_alone (s : Station ν) (program : Program ν) :
    Machine.Runs (Thread.on ⟨s.bus.nesting, .running program, []⟩ s.bus)
      (Thread.on ⟨s.bus.nesting, .ended (s.bus.execute program).2, []⟩ (s.bus.execute program).1) :=
  .execute s.bus.nesting program s.bus []

theorem receive_alone (s : Station ν) (idle : s.task.isIdle = true) (message : Message) :
    ∃ t : Thread ν, t.isIdle = true ∧
      Machine.Runs ((s.receive message).task.on (s.receive message).bus)
        (t.on (s.bus.receive message)) := by
  have rests (b : Bus ν) : ∃ t : Thread ν, t.isIdle = true ∧ Machine.Runs (s.task.on b) (t.on b) :=
    ⟨s.task, idle, Relation.ReflTransGen.refl⟩
  cases phase : s.bus.line.phase with
  | connecting =>
    simp only [receive, Bus.receive, phase]
    exact rests _
  | closed =>
    simp only [receive, Bus.receive, phase]
    exact rests _
  | «open» =>
    cases carries : message.text? with
    | none =>
      simp only [receive, Bus.receive, phase, carries]
      exact rests _
    | some text =>
      simp only [receive, Bus.receive, phase, carries]
      by_cases handler : s.bus.outlet.line.setup.onMessage = true
      · rw [if_pos (show s.bus.line.setup.onMessage = true from handler), if_pos handler]
        let read := s.bus.signal (.received message)
        let k : RouteOutcome → Program ν := fun outcome => .done (.outcome outcome)
        have runs : Machine.Runs ⟨read, read.nesting, .running (.route text k), []⟩
            ⟨(read.route text).1, read.nesting, .ended (some (.outcome (read.route text).2)), []⟩ :=
          .execute read.nesting (.route text k) read []
        rcases runs.cases_head with same | ⟨first, stepped, rest⟩
        · cases congrArg Machine.activity same
        · subst stepped
          exact ⟨⟨read.nesting, .ended _, []⟩, rfl, rest⟩
      · rw [if_neg (show ¬s.bus.line.setup.onMessage = true from handler), if_neg handler]
        exact rests _

/-! ### Every point of a run -/

def closes (s : Station ν) : Occurrence ν → Prop
  | .signal signal => signal = .close
  | .proceed => ∃ next, s.task.activity = .running (.close next)
  | .advance place => ∃ t next, s.threads[place]? = some t ∧ t.activity = .running (.close next)
  | _ => False

structure Sound (dispatches owns serves : Prop) (past : List Stretch) (s : Station ν) : Prop where
  limited : s.bus.IsLimited dispatches owns
  task : s.task.IsLimited dispatches owns True
  threads : ∀ t ∈ s.threads, t.IsLimited dispatches owns serves
  orderly : s.bus.line.IsOrderly
  resting : s.bus.line.phase ≠ .open → s.task.isIdle = true
  books : s.desk.Books past

variable {dispatches owns serves : Prop} {past : List Stretch} {s : Station ν}

theorem step_errand (s : Station ν) {errand : Errand ν}
    (noProgram : ∀ program, errand ≠ .run program) :
    s.step (.errand errand) = { s with
      bus := (s.desk.perform errand).1.exchange, held := (s.desk.perform errand).1.held } ∧
    s.stretch (.errand errand) = s.desk.stretch errand := by
  cases errand with
  | run program => exact absurd rfl (noProgram program)
  | _ => exact ⟨rfl, rfl⟩

structure Within (dispatches owns serves : Prop) (occurrence : Occurrence ν) (s after : Station ν) :
    Prop where
  sustains : Sustains dispatches owns (serves ∨ s.task.isIdle = false) (s.closes occurrence)
    s.bus after.bus
  task : after.task.IsLimited dispatches owns True
  idle : s.task.isIdle = true → after.task = s.task
  threads : ∀ t ∈ after.threads, t.IsLimited dispatches owns serves

theorem Sound.within (h : s.Sound dispatches owns serves past) (reaches : dispatches → serves)
    {occurrence : Occurrence ν} (limited : occurrence.IsLimited dispatches owns)
    (inner : occurrence.isInner = true) :
    Within dispatches owns serves occurrence s (s.step occurrence) := by
  have rests {occurrence : Occurrence ν} (never : ¬s.closes occurrence) :
      Within dispatches owns serves occurrence s s :=
    ⟨(Sustains.refl s.bus).congr (iff_of_false id never), h.task, fun _ => rfl, h.threads⟩
  cases occurrence with
  | errand errand =>
    by_cases isRun : ∃ program, errand = .run program
    · obtain ⟨program, rfl⟩ := isRun
      refine ⟨.refl s.bus, h.task, fun _ => rfl, fun t member => ?_⟩
      rcases List.mem_append.mp member with member | member
      · exact h.threads t member
      · rw [List.mem_singleton.mp member]
        exact ⟨limited, nofun⟩
    · have noProgram := fun program same => isRun ⟨program, same⟩
      rw [(s.step_errand noProgram).1]
      exact ⟨sustains_conversing.perform s.desk noProgram, h.task, fun _ => rfl, h.threads⟩
  | proceed =>
    -- callbacks start only while the task is at a text, whatever programs may do
    cases idle : s.task.isIdle with
    | true =>
      have same : s.step .proceed = s := by
        simp only [step, occupy, Thread.advance_of_isIdle idle]
        rfl
      rw [same]
      refine rests fun ⟨next, busy⟩ => ?_
      simp [Thread.isIdle, busy] at idle
    | false =>
      obtain ⟨sustains, limited⟩ := h.task.advance h.limited fun _ => trivial
      exact ⟨sustains.mono fun _ => .inr idle, limited, fun isIdle => by simp [idle] at isIdle,
        h.threads⟩
  | advance place =>
    cases found : s.threads[place]? with
    | none =>
      simp only [step, found]
      refine rests fun ⟨t, next, found', _⟩ => ?_
      rw [found] at found'
      cases found'
    | some t =>
      simp only [step, found]
      obtain ⟨sustains, limited⟩ :=
        (h.threads t (List.mem_of_getElem? found)).advance h.limited reaches
      have closing : (∃ next, t.activity = .running (.close next)) ↔ s.closes (.advance place) := by
        simp [closes, found]
      refine ⟨(sustains.mono .inl).congr closing, h.task, fun _ => rfl, fun u member => ?_⟩
      rcases List.mem_or_eq_of_mem_set member with old | rfl
      · exact h.threads u old
      · exact limited
  | downgrade => exact rests id
  | signal | clone | upgrade | drop => cases inner

inductive Signalled (s : Station ν) (signal : Signal) : Station ν → Prop
  /-- It cannot come now. -/
  | ignored : s.admits signal = false → Signalled s signal s
  /-- It concerns the line alone. -/
  | taken : s.admits signal = true → Signalled s signal { s with bus := s.bus.signal signal }
  /-- It occupies the line's task with a text. -/
  | reads (text : String) : s.bus.line.phase = .open → signal.isSteady = true →
    signal ≠ .retain → signal ≠ .release → signal ≠ .close →
    Signalled s signal (s.occupy (.ask (s.bus.signal signal) s.bus.nesting []
      (.route text fun outcome => .done (.outcome outcome))))

theorem step_signalled (s : Station ν) (signal : Signal) :
    s.Signalled signal (s.step (.signal signal)) := by
  simp only [step]
  split
  · rename_i admitted
    cases signal with
    | received message =>
      simp only [receive]
      split
      · rename_i text isOpen carries
        split
        · exact .reads text isOpen (Signal.steady_of_text carries) nofun nofun nofun
        · exact .taken admitted
      · exact .taken admitted
    | _ => exact .taken admitted
  · rename_i refused
    exact .ignored (Bool.eq_false_iff.mpr refused)

theorem steady_or_isIdle {signal : Signal} (admitted : s.admits signal = true) :
    signal.isSteady = true ∨ s.task.isIdle = true := by
  cases signal with
  | received message => exact .inr admitted
  | established => exact .inr admitted
  | refused detail => exact .inr admitted
  | timedOut seconds => exact .inr admitted
  | write => exact .inr admitted
  | notice => exact .inr admitted
  | abandon => exact .inr admitted
  | _ => exact .inl rfl

private theorem step_beside (s : Station ν) {occurrence : Occurrence ν}
    (other : ∀ errand, occurrence ≠ .errand errand) :
    Moves (fun _ => False) s.bus (s.step occurrence).bus ∧
      (s.step occurrence).held = s.held := by
  cases occurrence with
  | errand errand => exact absurd rfl (other errand)
  | proceed => exact ⟨s.task.advance_moves s.bus, rfl⟩
  | advance place =>
    simp only [step]
    split
    · exact ⟨.refl s.bus, rfl⟩
    · exact ⟨Thread.advance_moves _ s.bus, rfl⟩
  | signal signal =>
    have signalled := s.step_signalled signal
    generalize s.step (.signal signal) = after at signalled ⊢
    cases signalled with
    | ignored => exact ⟨.refl s.bus, rfl⟩
    | taken => exact ⟨s.bus.signal_moves signal, rfl⟩
    | reads text =>
      refine ⟨(s.bus.signal_moves signal).trans ?_, rfl⟩
      exact Thread.advance_moves ⟨s.bus.nesting, .running (.route text _), []⟩ _
  | clone => exact ⟨s.bus.retain_moves, rfl⟩
  | upgrade => exact ⟨s.bus.retain_moves, rfl⟩
  | downgrade => exact ⟨.refl s.bus, rfl⟩
  | drop => exact ⟨s.bus.release_moves, rfl⟩

private theorem Sound.books_step (h : s.Sound dispatches owns serves past)
    (occurrence : Occurrence ν) :
    (s.step occurrence).desk.Books (past ++ [s.stretch occurrence]) := by
  by_cases isErrand : ∃ errand, occurrence = .errand errand
  · obtain ⟨errand, rfl⟩ := isErrand
    by_cases isRun : ∃ program, errand = .run program
    · obtain ⟨program, rfl⟩ := isRun
      exact h.books.idle
    · have noProgram := fun program same => isRun ⟨program, same⟩
      rw [(s.step_errand noProgram).1, (s.step_errand noProgram).2]
      exact h.books.perform errand
  · have other := fun errand same => isErrand ⟨errand, same⟩
    obtain ⟨moves, held⟩ := s.step_beside other
    have stretch : s.stretch occurrence =
        { callers := s.bus.entriesSince (s.step occurrence).bus } := by
      cases occurrence with
      | errand errand => exact absurd rfl (other errand)
      | _ => rfl
    rw [stretch, desk, held]
    exact h.books.act moves

/-- Whatever happens at a station, what is known of it stays true. -/
theorem Sound.step (h : s.Sound dispatches owns serves past) (reaches : dispatches → serves)
    {occurrence : Occurrence ν} (limited : occurrence.IsLimited dispatches owns) :
    (s.step occurrence).Sound dispatches owns serves (past ++ [s.stretch occurrence]) := by
  have books := h.books_step occurrence
  -- what leaves the task alone and the line in its phase
  have counted {b : Bus ν} (undergoes : Undergoes dispatches owns serves s.bus b)
      (books : (⟨b, s.held⟩ : Desk ν Trunk).Books (past ++ [s.stretch occurrence])) :
      ({ s with bus := b } : Station ν).Sound dispatches owns serves
        (past ++ [s.stretch occurrence]) :=
    ⟨undergoes.limited h.limited, h.task, h.threads, undergoes.orderly h.orderly,
      fun notOpen => h.resting (undergoes.phase ▸ notOpen), books⟩
  cases inner : occurrence.isInner with
  | true =>
    have within := h.within reaches limited inner
    refine ⟨within.sustains.limited h.limited, within.task, within.threads,
      within.sustains.orderly h.orderly, fun notOpen => ?_, books⟩
    have idle := h.resting (within.sustains.phase ▸ notOpen)
    rw [within.idle idle]
    exact idle
  | false =>
    cases occurrence with
    | signal signal =>
      have orderly : (s.bus.signal signal).line.IsOrderly := h.orderly.step signal
      have signalled := s.step_signalled signal
      generalize s.step (.signal signal) = after at signalled books ⊢
      cases signalled with
      | ignored => exact ⟨h.limited, h.task, h.threads, h.orderly, h.resting, books⟩
      | taken admitted =>
        refine ⟨h.limited, h.task, h.threads, orderly, fun notOpen => ?_, books⟩
        -- the phase is what it was, or the signal came to an idle task
        rcases s.steady_or_isIdle admitted with steady | idle
        · refine h.resting ?_
          rwa [← s.bus.line.step_phase steady]
        · exact idle
      | reads text isOpen steady =>
        have proceeds : Machine.Proceeds dispatches owns True (s.bus.signal signal) _ :=
          .route (s.bus.signal signal) text
        refine ⟨proceeds.sustains.limited h.limited, proceeds.limited, h.threads,
          proceeds.sustains.orderly orderly, fun notOpen => absurd ?_ notOpen, books⟩
        exact proceeds.sustains.phase.trans ((s.bus.line.step_phase steady).trans isOpen)
    | clone => exact counted s.bus.retain_undergoes books
    | upgrade => exact counted s.bus.retain_undergoes books
    | drop => exact counted s.bus.release_undergoes books
    | _ => cases inner

theorem Sound.after (h : s.Sound dispatches owns serves past) (reaches : dispatches → serves)
    {occurrences : List (Occurrence ν)}
    (limited : ∀ occurrence ∈ occurrences, occurrence.IsLimited dispatches owns) :
    (s.after occurrences).Sound dispatches owns serves (past ++ s.course occurrences) := by
  induction occurrences generalizing past s with
  | nil => rwa [course, List.append_nil]
  | cons occurrence rest ih =>
    have first := h.step reaches (limited occurrence List.mem_cons_self)
    have later := ih first fun next member => limited next (List.mem_cons_of_mem _ member)
    rwa [List.append_assoc] at later

theorem Sound.ofCreated (settings : Settings) (onClose : Bool) :
    (ofBus (Bus.create settings onClose) : Station ν).Sound dispatches owns serves [] where
  limited _ _ found := by cases found
  task := ⟨trivial, nofun⟩
  threads := nofun
  orderly w member := by
    rw [List.mem_singleton.mp member]
    exact ⟨nofun, fun _ => ⟨rfl, rfl⟩, fun _ => nofun, fun _ => nofun⟩
  resting _ := rfl
  books := .ofFresh ⟨⟨rfl, by simp [ofBus, desk, Bus.create, Event.isQuiet]⟩, rfl⟩

theorem course_append (s : Station ν) (occurrences more : List (Occurrence ν)) :
    s.course (occurrences ++ more) = s.course occurrences ++ (s.after occurrences).course more := by
  induction occurrences generalizing s with
  | nil => rfl
  | cons occurrence rest ih => exact congrArg (s.stretch occurrence :: ·) (ih _)

end Station

end Switchboard
