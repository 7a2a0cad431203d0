import Switchboard.Connection.Address
import Switchboard.Connection.Line
import Switchboard.Conversation.Stream
import Switchboard.Settings
/-!
The bus: an exchange whose outlet is a line. Frames are published through the line's waiter, inbound
texts are routed into the registry, and the line is closed when the bus is closed or when the last
strong handle to it is gone.
-/

set_option autoImplicit false
set_option relaxedAutoImplicit false

namespace Switchboard

/-- The outlet of a bus: its line, how many strong handles exist outside of callbacks, and whether
the bus is still there. -/
structure Trunk where
  line : Line
  handles : Nat
  alive : Bool
  deriving DecidableEq, Repr

namespace Trunk

def signal (t : Trunk) (s : Signal) : Trunk × List Event :=
  let (line, events) := t.line.step s
  ({ t with line }, events)

/-- Gives the bus up when neither a handle nor a callback keeps it: the line is asked to close and
loses the handles that the bus had on it and on its waiter. -/
def expire (t : Trunk) : Trunk × List Event :=
  if t.alive ∧ t.handles = 0 then
    let (line, _) := t.line.run [.close, .release, .releaseWaiter 0]
    ({ t with line, alive := false }, [.lastHandleDropped t.line.setup.endpoint])
  else (t, [])

theorem expire_outward (t : Trunk) : ∀ e ∈ t.expire.2, e.isOutward = true := by
  unfold expire
  split
  · simp [Event.isOutward]
  · simp

end Trunk

instance : Outlet Trunk where
  publish frame t :=
    let (t, events) := t.signal (.defer 0 frame.toText)
    (t, events, [])
  close t := (t.signal .close).1
  isClosed t := t.line.phase = .closed
  isReachable t := t.alive
  disown t := t.expire
  publish_outward frame t := t.line.step_outward (.defer 0 frame.toText)
  disown_outward t := t.expire_outward

abbrev Bus (ν : Type) := Exchange ν Trunk

/-- The topic that asks the other side to shut down. -/
def exitTopic : String := "exit"

namespace Bus

variable {ν : Type}

def line (b : Bus ν) : Line := b.outlet.line

def signal (b : Bus ν) (s : Signal) : Bus ν :=
  let (outlet, events) := b.outlet.signal s
  { b with outlet }.enter events

def newLine (endpoint : String) (timeoutSeconds : Option Nat) (onMessage onClose : Bool) : Line :=
  { setup := ⟨normalizeEndpoint endpoint, timeoutSeconds, onMessage, onClose⟩ }

def create (settings : Settings) (onClose : Bool) : Bus ν :=
  let line := newLine settings.endpoint settings.handshakeSeconds true onClose
  { policy := settings.policy, outlet := ⟨line, 1, true⟩
    journal := [.created line.setup.endpoint] }

def retain (b : Bus ν) : Bus ν :=
  if b.outlet.alive then { b with outlet := { b.outlet with handles := b.outlet.handles + 1 } }
  else b

def release (b : Bus ν) : Bus ν :=
  { b with outlet := { b.outlet with handles := b.outlet.handles - 1 } }.disownFree

/-- Lets the line read from its socket, and routes the text of a message that it handles. -/
def receive (b : Bus ν) (message : Message) : Bus ν :=
  let read := b.signal (.received message)
  match b.line.phase, message.text? with
  | .open, some text => if b.outlet.line.setup.onMessage then (read.route text).1 else read
  | _, _ => read

def send (b : Bus ν) (topic : String) (message : Json) : Bus ν :=
  b.publish (.payload topic message)

def sendExit (b : Bus ν) : Bus ν := b.send exitTopic .null

def readiness (b : Bus ν) : Poll (Except BusError Unit) :=
  match b.line.phase with
  | .connecting => .pending
  | .open => .ready (.ok ())
  | .closed => .ready (.error .closed)

/-- Lets the line's task run until it has to wait. Every step of it writes a text or is its last. -/
def settleTask (b : Bus ν) : Bus ν :=
  let (line, events) := b.line.settleTask (b.line.accepted.length + 2)
  { b with outlet := { b.outlet with line } }.enter events

/-- Lets the flush run until it has to wait: two steps for each text, one to begin and one to end,
and one more for a text that it had taken already. -/
def settleFlush (b : Bus ν) : Bus ν :=
  let (line, events) := b.line.settleFlush 0 (2 * b.line.queued 0 + 3)
  { b with outlet := { b.outlet with line } }.enter events

end Bus

end Switchboard
