import Switchboard.Connection.Message
import Switchboard.Journal.Event
/-!
A line: one connection with the waiters in front of it. A text given to a waiter goes straight to
the line when it is open and nothing is waiting; otherwise it queues, and one flush passes the queue
on in order once the line has opened, or gives it up if the line closes instead.

The line changes only by signals, each of which is one indivisible step of the line's own task, of a
flush, of a caller or of the world outside. A caller acts through a handle, so that nothing comes of
its signals when there is none left; no signal that does not apply changes anything.
-/

set_option autoImplicit false
set_option relaxedAutoImplicit false

namespace Switchboard

inductive Flush
  /-- It waits for the line to open or to close. -/
  | awaiting
  /-- It is about to take the next text; the line had opened, or had not. -/
  | draining (opened : Bool)
  /-- It has taken a text and not passed it on yet. -/
  | holding (opened : Bool) (text : String)
  deriving DecidableEq, Repr

/-- A waiter: how many handles to it exist, the texts that queue in it, whether a flush is under
way, and the flushes that have been started and have not come to their end. -/
structure Waiter where
  handles : Nat := 1
  queue : List String := []
  flushing : Bool := false
  flushes : List Flush := []
  deriving DecidableEq, Repr

structure Line where
  setup : LineSetup
  phase : Phase := .connecting
  closing : Bool := false
  /-- How many handles to the line exist, besides those of waiters and flushes. -/
  handles : Nat := 1
  waiters : List Waiter := [{}]
  accepted : List String := []
  /-- Why the socket takes nothing that is written to it, if it does not. -/
  fault : Option String := none
  deriving DecidableEq, Repr

inductive Signal
  /-- The line's task begins to connect. -/
  | connect
  | established
  | refused (detail : String)
  | timedOut (seconds : Nat)
  | received (message : Message)
  /-- The line's task writes the next accepted text. -/
  | write
  /-- The line's task learns that it is to close. -/
  | notice
  /-- The line's task learns that nobody is left to use it. -/
  | abandon
  | close
  | send (text : String)
  | defer (waiter : Nat) (text : String)
  /-- A flush of a waiter, told by its place among them, takes a step. -/
  | flush (waiter place : Nat)
  | retain
  | release
  | retainWaiter (waiter : Nat)
  | releaseWaiter (waiter : Nat)
  | setFault (fault : Option String)
  deriving DecidableEq, Repr

/-- How many handles a waiter holds on its line: one for each handle to it and each flush of it. -/
def Waiter.holds (w : Waiter) : Nat := w.handles + w.flushes.length

namespace Line

def writable (line : Line) : Bool := line.fault.isNone

/-- Whether no handle is left through which the line could be used. -/
def isAbandoned (line : Line) : Bool :=
  line.handles = 0 ∧ line.waiters.all fun w => w.holds = 0

/-- The reason why a line closes, and what is told about it first. -/
def endingEvents (line : Line) : Ending → List Event
  | .peerClosed .. => [.peerClosed]
  | .readFailed detail => [.readFailed (Ending.readFailed detail).closeReason]
  | .streamEnded => [.streamEnded]
  | .writeFailed _ => (line.accepted.take 1).map .writeFailed
  | ending =>
    if line.phase = .connecting then [.refused line.setup.endpoint ending.closeReason] else []

/-- Ends a line: it is closed for good, and what it had accepted is lost. -/
def finish (line : Line) (ending : Ending) : Line × List Event :=
  let reason := ending.closeReason
  ({ line with phase := .closed, accepted := [] },
    line.endingEvents ending ++ .closed reason ::
      if line.setup.onClose then [.notified reason] else [])

/-- Ends an open line with a close frame of its own, as far as the socket takes one. -/
def finishPolitely (line : Line) (ending : Ending) : Line × List Event :=
  let (closed, events) := line.finish ending
  (closed, (if line.writable then [.wroteClose] else []) ++ events)

def accept (line : Line) (text : String) : Line × List Event :=
  if line.phase = .open then ({ line with accepted := line.accepted ++ [text] }, [])
  else (line, [.discarded line.phase text])

def receive (line : Line) : Message → Line × List Event
  | .text text => (line, if line.setup.onMessage then [.handled text] else [])
  | .binary octets =>
    (line, if line.setup.onMessage then [.handled (Text.decodeLossy octets)] else [])
  | .ping octets => (line, if line.writable then [.wrotePong octets] else [])
  | .pong _ => (line, [])
  | .close code reason => line.finish (.peerClosed code reason)
  | .broken detail => line.finish (.readFailed detail)
  | .ended => line.finish .streamEnded

def setWaiter (line : Line) (i : Nat) (w : Waiter) : Line :=
  { line with waiters := line.waiters.set i w }

def deferText (line : Line) (i : Nat) (w : Waiter) (text : String) : Line × List Event :=
  if !w.flushing ∧ line.phase = .open then line.accept text
  else
    let queue := w.queue ++ [text]
    let flushes := if w.flushing then w.flushes else w.flushes ++ [.awaiting]
    (line.setWaiter i { w with queue, flushing := true, flushes }, [.queued queue.length])

def flushStep (line : Line) (i : Nat) (w : Waiter) (place : Nat) : Line × List Event :=
  match w.flushes[place]? with
  | none => (line, [])
  | some .awaiting =>
    if line.phase = .connecting then (line, [])
    else
      let flushes := w.flushes.set place (.draining (line.phase = .open))
      (line.setWaiter i { w with flushes }, [])
  | some (.draining opened) =>
    match w.queue with
    | [] =>
      (line.setWaiter i { w with flushing := false, flushes := w.flushes.eraseIdx place }, [])
    | text :: queue =>
      (line.setWaiter i { w with queue, flushes := w.flushes.set place (.holding opened text) }, [])
  | some (.holding opened text) =>
    let line := line.setWaiter i { w with flushes := w.flushes.set place (.draining opened) }
    if opened then line.accept text else (line, [.forgone text])

def withWaiter (line : Line) (i : Nat) (change : Waiter → Line × List Event) :
    Line × List Event :=
  match line.waiters[i]? with
  | some w => change w
  | none => (line, [])

def step (line : Line) : Signal → Line × List Event
  | .connect => (line, [.connecting line.setup.endpoint])
  | .established =>
    if line.phase = .connecting then ({ line with phase := .open }, [.opened]) else (line, [])
  | .refused detail =>
    if line.phase = .connecting then line.finish (.refused detail) else (line, [])
  | .timedOut seconds =>
    if line.phase = .connecting then line.finish (.timedOut seconds) else (line, [])
  | .received message => if line.phase = .open then line.receive message else (line, [])
  | .write =>
    match line.phase, line.accepted with
    | .open, text :: rest =>
      match line.fault with
      | none => ({ line with accepted := rest }, [.wrote text])
      | some detail => line.finish (.writeFailed detail)
    | _, _ => (line, [])
  | .notice =>
    if line.closing then
      match line.phase with
      | .connecting => line.finish .cancelled
      | .open => line.finishPolitely .requested
      | .closed => (line, [])
    else (line, [])
  | .abandon =>
    if line.phase = .open ∧ line.accepted = [] ∧ line.isAbandoned then
      line.finishPolitely .abandoned
    else (line, [])
  | .close => if line.handles = 0 then (line, []) else ({ line with closing := true }, [])
  | .send text => if line.handles = 0 then (line, []) else line.accept text
  | .defer i text =>
    line.withWaiter i fun w => if w.handles = 0 then (line, []) else line.deferText i w text
  | .flush i place => line.withWaiter i fun w => line.flushStep i w place
  | .retain =>
    if line.handles = 0 then (line, []) else ({ line with handles := line.handles + 1 }, [])
  | .release => ({ line with handles := line.handles - 1 }, [])
  | .retainWaiter i =>
    line.withWaiter i fun w =>
      if w.handles = 0 then (line, [])
      else (line.setWaiter i { w with handles := w.handles + 1 }, [])
  | .releaseWaiter i =>
    line.withWaiter i fun w => (line.setWaiter i { w with handles := w.handles - 1 }, [])
  | .setFault fault => ({ line with fault }, [])

def run (line : Line) : List Signal → Line × List Event
  | [] => (line, [])
  | signal :: rest =>
    let (line, events) := line.step signal
    let (line, later) := run line rest
    (line, events ++ later)

def queued (line : Line) (i : Nat) : Nat :=
  match line.waiters[i]? with
  | some w => w.queue.length
  | none => 0

/-- The next step that the line's task can take without anything coming in. -/
def pendingSignal (line : Line) : Option Signal :=
  match line.phase with
  | .connecting => if line.closing then some .notice else none
  | .open =>
    if line.closing then some .notice
    else if line.accepted ≠ [] then some .write
    else if line.isAbandoned then some .abandon
    else none
  | .closed => none

/-- Lets the line's task run until it has to wait, at most so many steps. -/
def settleTask : Nat → Line → Line × List Event
  | 0, line => (line, [])
  | n + 1, line =>
    match line.pendingSignal with
    | none => (line, [])
    | some signal =>
      let (line, events) := line.step signal
      let (line, later) := settleTask n line
      (line, events ++ later)

/-! Whatever happens in a step is told of the line alone. -/

private theorem finish_outward (line : Line) (ending : Ending) :
    ∀ e ∈ (line.finish ending).2, e.isOutward = true := by
  intro e he
  simp only [finish, List.mem_append, List.mem_cons] at he
  rcases he with he | rfl | he
  · unfold endingEvents at he
    split at he
    · simp_all [Event.isOutward]
    · simp_all [Event.isOutward]
    · simp_all [Event.isOutward]
    · obtain ⟨text, -, rfl⟩ := List.mem_map.mp he
      rfl
    · split at he <;> simp_all [Event.isOutward]
  · rfl
  · split at he <;> simp_all [Event.isOutward]

private theorem finishPolitely_outward (line : Line) (ending : Ending) :
    ∀ e ∈ (line.finishPolitely ending).2, e.isOutward = true := by
  intro e he
  simp only [finishPolitely, List.mem_append] at he
  rcases he with he | he
  · split at he <;> simp_all [Event.isOutward]
  · exact line.finish_outward ending e he

private theorem accept_outward (line : Line) (text : String) :
    ∀ e ∈ (line.accept text).2, e.isOutward = true := by
  unfold accept
  split <;> simp [Event.isOutward]

private theorem receive_outward (line : Line) (message : Message) :
    ∀ e ∈ (line.receive message).2, e.isOutward = true := by
  cases message with
  | close code reason => exact line.finish_outward _
  | broken detail => exact line.finish_outward _
  | ended => exact line.finish_outward _
  | pong octets => simp [receive]
  | text text => simp only [receive]; split <;> simp [Event.isOutward]
  | binary octets => simp only [receive]; split <;> simp [Event.isOutward]
  | ping octets => simp only [receive]; split <;> simp [Event.isOutward]

private theorem deferText_outward (line : Line) (i : Nat) (w : Waiter) (text : String) :
    ∀ e ∈ (line.deferText i w text).2, e.isOutward = true := by
  unfold deferText
  split
  · exact line.accept_outward text
  · simp [Event.isOutward]

private theorem flushStep_outward (line : Line) (i : Nat) (w : Waiter) (place : Nat) :
    ∀ e ∈ (line.flushStep i w place).2, e.isOutward = true := by
  unfold flushStep
  split
  · simp
  · split <;> simp
  · split <;> simp
  · rename_i opened text _
    cases opened
    · simp [Event.isOutward]
    · exact accept_outward _ text

private theorem withWaiter_outward (line : Line) (i : Nat) (change : Waiter → Line × List Event)
    (h : ∀ w, ∀ e ∈ (change w).2, e.isOutward = true) :
    ∀ e ∈ (line.withWaiter i change).2, e.isOutward = true := by
  unfold withWaiter
  split
  · exact h _
  · simp

theorem step_outward (line : Line) (signal : Signal) :
    ∀ e ∈ (line.step signal).2, e.isOutward = true := by
  cases signal with
  | connect => simp [step, Event.isOutward]
  | established => simp only [step]; split <;> simp [Event.isOutward]
  | refused detail =>
    simp only [step]
    split
    · exact line.finish_outward _
    · simp
  | timedOut seconds =>
    simp only [step]
    split
    · exact line.finish_outward _
    · simp
  | received message =>
    simp only [step]
    split
    · exact line.receive_outward _
    · simp
  | write =>
    simp only [step]
    split
    · split
      · simp [Event.isOutward]
      · exact line.finish_outward _
    · simp
  | notice =>
    simp only [step]
    split
    · split
      · exact line.finish_outward _
      · exact line.finishPolitely_outward _
      · simp
    · simp
  | abandon =>
    simp only [step]
    split
    · exact line.finishPolitely_outward _
    · simp
  | close => simp only [step]; split <;> simp
  | send text =>
    simp only [step]
    split
    · simp
    · exact line.accept_outward text
  | defer i text =>
    refine line.withWaiter_outward i _ fun w => ?_
    split
    · simp
    · exact line.deferText_outward i w text
  | flush i place => exact line.withWaiter_outward i _ fun w => line.flushStep_outward i w place
  | retain => simp only [step]; split <;> simp
  | release => simp [step]
  | retainWaiter i =>
    refine line.withWaiter_outward i _ fun w => ?_
    split <;> simp
  | releaseWaiter i => exact line.withWaiter_outward i _ fun w => by simp
  | setFault fault => simp [step]

/-- Lets the first flush of a waiter run for so many steps; a step that does not apply changes
nothing. -/
def settleFlush (i : Nat) : Nat → Line → Line × List Event
  | 0, line => (line, [])
  | n + 1, line =>
    let (line, events) := line.step (.flush i 0)
    let (line, later) := settleFlush i n line
    (line, events ++ later)

end Line

end Switchboard
