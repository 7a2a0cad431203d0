import Switchboard.Connection.Destination
import Switchboard.Session.Task
/-!
A session: a bus, or a bare line with a waiter, together with the peer at the other end, a clock
that moves only when it is told to, and the tasks that run in the background. Between two steps from
outside everything runs until it has to wait.
-/

set_option autoImplicit false
set_option relaxedAutoImplicit false

namespace Switchboard

/-- The other end of the line: whether it has yet to answer the handshake, whether it holds a
socket, and whether it has stopped taking what is written to it. -/
structure Peer where
  waiting : Bool := true
  attached : Bool := false
  deaf : Bool := false
  deriving DecidableEq, Repr

structure Session (ν : Type) where
  bus : Bus ν
  peer : Peer := {}
  destination : Destination
  /-- Milliseconds since the beginning. -/
  now : Nat := 0
  tasks : List Task := []
  nextSerial : Nat := 0
  streams : List (String × ReplyStream) := []
  results : List (String × Result) := []
  ownsBus : Bool
  /-- How many further strong handles the owner has taken. -/
  clones : Nat := 0
  ownsLine : Bool := true
  /-- Whether the owner still has a handle on the waiter itself. -/
  ownsWaiter : Bool
  hasWatched : Bool := false

namespace Session

variable {ν : Type}

/-- A session of a bus; the owner also looks at its line. -/
def ofSettings (settings : Settings) (onClose : Bool) (destination : Destination) : Session ν :=
  { bus := (Bus.create settings onClose).signal .retain
    destination, ownsBus := true, ownsWaiter := false }

def ofLine (line : Line) (destination : Destination) : Session ν :=
  { bus := { policy := .strict, outlet := ⟨line, 0, false⟩ }
    destination, ownsBus := false, ownsWaiter := true }

def onBus (s : Session ν) (change : Bus ν → Bus ν) : Session ν := { s with bus := change s.bus }

def signal (s : Session ν) (signal : Signal) : Session ν := s.onBus fun b => b.signal signal

def yield (s : Session ν) (name : String) (result : Result) : Session ν :=
  { s with results := s.results ++ [(name, result)] }

/-- Polls tasks in order; those that yield are gone. -/
def pollEach (now : Nat) : List Task → Bus ν →
    Bus ν × List Task × List (String × Result)
  | [], b => (b, [], [])
  | task :: rest, b =>
    match task.poll now b with
    | (b, task, .pending) =>
      let (b, rest, results) := pollEach now rest b
      (b, task :: rest, results)
    | (b, task, .ready result) =>
      let (b, rest, results) := pollEach now rest b
      (b, rest, (task.name, result) :: results)

def pollTasks (s : Session ν) : Session ν :=
  let (bus, tasks, results) := pollEach s.now s.tasks s.bus
  { s with bus, tasks, results := s.results ++ results }

def pollTask (s : Session ν) (serial : Nat) : Session ν :=
  match s.tasks.find? fun task => task.serial = serial with
  | none => s
  | some task =>
    match task.poll s.now s.bus with
    | (bus, task, .pending) =>
      let tasks := s.tasks.map fun other => if other.serial = serial then task else other
      { s with bus, tasks }
    | (bus, task, .ready result) =>
      let tasks := s.tasks.filter fun other => other.serial ≠ serial
      { s with bus, tasks }.yield task.name result

/-- One round: the line's task, the flush and every task get their turn. -/
def round (s : Session ν) : Session ν :=
  ((s.onBus Bus.settleTask).onBus Bus.settleFlush).pollTasks

def rounds : Nat → Session ν → Session ν
  | 0, s => s
  | n + 1, s => rounds n s.round

/-- The peer lets go of its socket once the line has closed, unless it cannot hear of that. -/
def detach (s : Session ν) : Session ν :=
  if s.bus.line.phase = .closed ∧ !s.peer.deaf then
    { s with peer := { s.peer with attached := false } }
  else s

/-- Lets everything run until it has to wait. A round in which nothing happens is followed by no
other; in each one before, a task goes on to the next of at most three waits or the line changes its
phase, so that these rounds are enough. -/
def settle (s : Session ν) : Session ν :=
  ((rounds (3 * s.tasks.length + 4) s).onBus Bus.settleTask).detach

def begin (s : Session ν) : Session ν :=
  let s := s.signal .connect
  match s.destination with
  | .listening => s
  | .failing failure => s.signal (.refused (failure.text s.bus.line.setup.endpoint))

def spawn (s : Session ν) (name : String) (work : Work) (hold : Hold) (deadline : Option Nat) :
    Session ν :=
  let s := match hold with
    | .bus => s.onBus Bus.retain
    | .line => s.signal .retain
    | .nothing => s
  { s with
    tasks := s.tasks ++ [⟨s.nextSerial, name, work, hold, deadline⟩]
    nextSerial := s.nextSerial + 1 }

inductive Alarm
  | handshake (seconds : Nat)
  | task (serial : Nat)
  deriving DecidableEq, Repr

/-- All alarms with their times, the handshake first and the tasks in the order of their start. -/
def alarms (s : Session ν) : List (Nat × Alarm) :=
  let line := s.bus.line
  let handshake := match line.phase, line.setup.timeoutSeconds with
    | .connecting, some seconds => [(1000 * seconds, Alarm.handshake seconds)]
    | _, _ => []
  handshake ++ s.tasks.filterMap fun task =>
    task.firstDeadline.map fun deadline => (deadline, .task task.serial)

def ring (s : Session ν) : Alarm → Session ν
  | .handshake seconds => s.signal (.timedOut seconds)
  | .task serial => s.pollTask serial

/-- Moves the clock. Whatever is due goes off in the order of its time. -/
def advance (s : Session ν) (milliseconds : Nat) : Session ν :=
  let now := s.now + milliseconds
  let due := (s.alarms.filter fun alarm => alarm.1 ≤ now).mergeSort fun a b => a.1 ≤ b.1
  due.foldl (fun s alarm => s.ring alarm.2) { s with now }

def interrupt (s : Session ν) : Session ν :=
  s.tasks.foldl (fun s task =>
    match task.interrupt s.bus with
    | (bus, .ready result) =>
      { s with bus, tasks := s.tasks.filter fun other => other.serial ≠ task.serial }.yield
        task.name result
    | (_, .pending) => s) s

/-- Cancels the last task of a name that is still running; tells whether there was one. -/
def abort (s : Session ν) (name : String) : Session ν × Bool :=
  match (s.tasks.filter fun task => task.name = name).getLast? with
  | none => (s, false)
  | some task =>
    ({ s with
      bus := task.drop s.bus
      tasks := s.tasks.filter fun other => other.serial ≠ task.serial }, true)

end Session

end Switchboard
