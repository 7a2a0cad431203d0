import Switchboard.Session.Basic
/-!
The steps of a session: what its owner, the peer and the clock can do, and what each of them is
answered before everything runs on.
-/

set_option autoImplicit false
set_option relaxedAutoImplicit false

namespace Switchboard

inductive Step (ν : Type)
  /-- The peer completes the handshake. -/
  | accept
  /-- The peer answers the handshake with an HTTP status. -/
  | reject (status : String)
  /-- The peer drops the connection during the handshake. -/
  | hangUp
  | transmit (message : Message)
  /-- The peer drops the connection without a close frame. -/
  | disconnect
  /-- From now on the peer takes nothing that is written to it. -/
  | deafen
  | advance (milliseconds : Nat)
  | interrupt
  | sendRaw (text : String)
  | defer (text : String)
  | publish (frame : Frame)
  | countQueued
  | closeLine
  | dropLine
  | dropWaiter
  | cloneBus
  | dropClone
  | dropBus
  /-- Asks whether a weak handle still leads to the bus. -/
  | probeBus
  | awaitOpen (name : String) (timeout : Option Nat)
  | awaitClosed (name : String) (timeout : Option Nat)
  | abort (name : String)
  | pollStream (name : String)
  | dropStream (name : String)
  | collect (name : String) (timeout : Option Nat)
  | sendExit
  | inspect
  | unsubscribe (id : SubscriptionId)
  | call (name topic : String) (message : Json) (timeout : Option Nat)
  | openStream (name topic : String) (message : Json)
  | queryServices (name : String) (wait : Nat)
  | command (name : String) (command : Command) (wait : Nat)
  | run (program : Program ν)

inductive StepAnswer
  | nothing
  | flag (value : Bool)
  | count (value : Nat)
  | issued (id : SubscriptionId)
  | phase (phase : Phase)
  | pending
  | reply (reply : Reply)
  | ended
  | program (answer : Answer)
  | gone
  | noBus
  | noSocket
  | noListener
  | notConnecting
  | unknown
  deriving DecidableEq

namespace Session

variable {ν : Type}

def answerHandshake (s : Session ν) (attached : Bool) : Session ν :=
  { s with peer := { s.peer with waiting := false, attached } }

def refuse (s : Session ν) (failure : ConnectFailure) : Session ν × StepAnswer :=
  if s.destination ≠ .listening then (s, .noSocket)
  else if s.peer.waiting then
    ((s.answerHandshake false).signal (.refused (failure.text s.bus.line.setup.endpoint)), .nothing)
  else (s, .noListener)

/-- Completes the handshake. An owner who still sees the line is told by its phase, and any other by
the socket, when it is too late for that. -/
def accept (s : Session ν) : Session ν × StepAnswer :=
  let late := if s.ownsLine then s.bus.line.phase ≠ .connecting else s.peer.attached
  if late ∨ s.destination ≠ .listening then (s, .notConnecting)
  else if !s.peer.waiting then (s, .noListener)
  else
    ((s.answerHandshake (s.bus.line.phase = .connecting)).signal .established,
      if s.ownsLine then .flag true else .nothing)

/-- Sends something from the peer; it arrives when the line is open. After a close frame the peer
holds its socket no longer. -/
def transmit (s : Session ν) (message : Message) : Session ν × StepAnswer :=
  if !s.peer.attached then (s, .noSocket)
  else
    let peer := match message with
      | .close .. => { s.peer with attached := false }
      | _ => s.peer
    ({ s with peer }.onBus fun b => b.receive message.admitted, .flag (s.bus.line.phase = .open))

/-- How reading fails when the peer is gone without a word. -/
def resetDetail : String := "WebSocket protocol error: Connection reset without closing handshake"

def disconnect (s : Session ν) : Session ν × StepAnswer :=
  if !s.peer.attached then (s, .flag false)
  else
    ({ s with peer := { s.peer with attached := false } }.onBus fun b =>
      b.receive (.broken resetDetail), .flag true)

/-- How writing fails when the peer takes nothing any more. -/
def brokenPipe : String := "IO error: Broken pipe (os error 32): Broken pipe (os error 32)"

def deafen (s : Session ν) : Session ν × StepAnswer :=
  if !s.peer.attached then (s, .noSocket)
  else
    ({ s with peer := { s.peer with deaf := true } }.signal (.setFault (some brokenPipe)),
      .flag true)

/-- Does something through a handle that may have been dropped. -/
def through (s : Session ν) (held : Bool) (change : Session ν → Session ν) :
    Session ν × StepAnswer :=
  if held then (change s, .nothing) else (s, .gone)

/-- Drops a handle on the line or on its waiter; tells whether it was there. -/
def dropHandle (s : Session ν) (held : Bool) (change : Session ν → Session ν) :
    Session ν × StepAnswer :=
  if held then (change s, .flag true) else (s, .flag false)

def timeAfter (s : Session ν) (milliseconds : Nat) : Nat := s.now + milliseconds

/-- Starts a wait, on the bus as long as it lives and on the line otherwise. -/
def startWait (s : Session ν) (name : String) (work : Work) (timeout : Option Nat) :
    Session ν × StepAnswer :=
  let deadline := timeout.map s.timeAfter
  if s.bus.outlet.alive then (s.spawn name work .bus deadline, .nothing)
  else if s.ownsLine then (s.spawn name work .line deadline, .nothing)
  else (s, .gone)

def withoutStream (s : Session ν) (name : String) : Session ν :=
  { s with streams := s.streams.filter fun entry => entry.1 ≠ name }

def holdStream (s : Session ν) (name : String) (stream : ReplyStream) : Session ν :=
  let others := s.withoutStream name
  { others with streams := (name, stream) :: others.streams }

def dropStream (s : Session ν) (name : String) : Session ν × Bool :=
  match s.streams.lookup name with
  | none => (s, false)
  | some stream => ((s.withoutStream name).onBus stream.drop, true)

def pollStream (s : Session ν) (name : String) : Session ν × StepAnswer :=
  match s.streams.lookup name with
  | none => (s, .unknown)
  | some stream =>
    match stream.next s.bus with
    | (bus, stream, .pending) => ({ s with bus }.holdStream name stream, .pending)
    | (bus, stream, .ready none) => ({ s with bus }.holdStream name stream, .ended)
    | (bus, stream, .ready (some reply)) => ({ s with bus }.holdStream name stream, .reply reply)

def collect (s : Session ν) (name : String) (timeout : Option Nat) : Session ν × StepAnswer :=
  match s.streams.lookup name with
  | none => (s, .unknown)
  | some stream =>
    ((s.withoutStream name).spawn name (.collect ⟨stream, []⟩) .nothing (timeout.map s.timeAfter),
      .nothing)

/-- The steps that need a living bus. -/
def performOnBus (s : Session ν) : Step ν → Session ν × StepAnswer
  | .sendExit => (s.onBus Bus.sendExit, .nothing)
  | .inspect => (s, .phase s.bus.line.phase)
  | .unsubscribe id => (s.onBus fun b => b.unsubscribe id, .nothing)
  | .call name topic message timeout =>
    (s.spawn name (.call (.fresh topic message)) .bus (timeout.map s.timeAfter), .nothing)
  | .openStream name topic message =>
    let (bus, stream) := ReplyStream.openOn topic message s.bus
    (({ s with bus }.dropStream name).1.holdStream name stream, .issued stream.id)
  | .queryServices name wait =>
    (s.spawn name (.query (ServiceQuery.all (s.timeAfter wait))) .bus none, .nothing)
  | .command name command wait =>
    let isWatch := match command with
      | .watch _ => true
      | _ => false
    ({ s with hasWatched := s.hasWatched || isWatch }.spawn name
      (.command command wait (.opening (s.timeAfter wait))) .bus none, .nothing)
  | .run program =>
    let (bus, answer) := s.bus.execute program
    ({ s with bus }, .program (answer.getD .nothing))
  | _ => (s, .nothing)

/-- Does a step, without letting anything run on. -/
def perform (s : Session ν) : Step ν → Session ν × StepAnswer
  | .accept => s.accept
  | .reject status => s.refuse (.answered (.ofStatus status))
  | .hangUp => s.refuse .hungUp
  | .transmit message => s.transmit message
  | .disconnect => s.disconnect
  | .deafen => s.deafen
  | .advance milliseconds => (s.advance milliseconds, .nothing)
  | .interrupt => if s.hasWatched then (s.interrupt, .flag true) else (s, .flag false)
  | .sendRaw text => s.through s.ownsLine fun s => s.signal (.send text)
  | .defer text => s.through s.ownsWaiter fun s => s.signal (.defer 0 text)
  | .publish frame => s.through s.ownsWaiter fun s => s.onBus fun b => b.publish frame
  | .countQueued => (s, if s.ownsWaiter then .count (s.bus.line.queued 0) else .nothing)
  | .closeLine => s.through s.ownsLine fun s => s.signal .close
  | .dropLine =>
    s.dropHandle s.ownsLine fun s => { s with ownsLine := false }.signal .release
  | .dropWaiter =>
    s.dropHandle s.ownsWaiter fun s => { s with ownsWaiter := false }.signal (.releaseWaiter 0)
  | .cloneBus =>
    if s.bus.outlet.alive then
      ({ s with clones := s.clones + 1 }.onBus Bus.retain, .flag true)
    else (s, .flag false)
  | .dropClone =>
    if 0 < s.clones then ({ s with clones := s.clones - 1 }.onBus Bus.release, .flag true)
    else (s, .flag false)
  | .dropBus =>
    if s.ownsBus then ({ s with ownsBus := false }.onBus Bus.release, .flag true)
    else (s, .flag false)
  | .probeBus => (s, .flag s.bus.outlet.alive)
  | .awaitOpen name timeout => s.startWait name .awaitOpen timeout
  | .awaitClosed name timeout => s.startWait name .awaitClosed timeout
  | .abort name =>
    let (s, running) := s.abort name
    (s, .flag running)
  | .pollStream name => s.pollStream name
  | .dropStream name =>
    let (s, there) := s.dropStream name
    (s, .flag there)
  | .collect name timeout => s.collect name timeout
  | step => if s.bus.outlet.alive then s.performOnBus step else (s, .noBus)

/-- Does a step and lets everything run until it has to wait. -/
def step (s : Session ν) (step : Step ν) : Session ν × StepAnswer :=
  let (s, answer) := s.perform step
  (s.settle, answer)

/-- Does the steps that come before anything has run, lets the line begin to connect, and lets
everything run until it has to wait. -/
def start (s : Session ν) (before : List (Step ν)) : Session ν :=
  (before.foldl (fun s step => (s.perform step).1) s).begin.settle

end Session

end Switchboard
