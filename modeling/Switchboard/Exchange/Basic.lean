import Switchboard.Callback
import Switchboard.Journal.Event
/-!
The exchange: a registry whose callbacks are programs, the boxes in which conversations find their
replies, the notes that callbacks keep, and the outlet through which frames are published.
-/

set_option autoImplicit false
set_option relaxedAutoImplicit false

namespace Switchboard

/-- An outlet takes published frames. It may hand frames back at once, which are then dispatched
before publishing returns. What it tells of concerns itself alone. -/
class Outlet (σ : Type) where
  /-- Takes a frame; yields what happened and what comes back at once. -/
  publish : Frame → σ → σ × List Event × List Frame
  close : σ → σ
  /-- Whether the outlet has closed, so that no reply can come any more. -/
  isClosed : σ → Bool
  /-- Whether callbacks can still reach the outlet. -/
  isReachable : σ → Bool
  /-- Learns that no callback keeps it in use. -/
  disown : σ → σ × List Event
  publish_outward : ∀ frame s, ∀ e ∈ (publish frame s).2.1, e.isOutward = true
  disown_outward : ∀ s, ∀ e ∈ (disown s).2, e.isOutward = true

/-- An exchange with notes of type `ν` and an outlet of type `σ`. -/
structure Exchange (ν σ : Type) where
  registry : Registry (Callback ν) := .empty
  policy : Policy
  outlet : σ
  notes : List ν := []
  boxes : List (List Reply) := []
  output : List String := []
  journal : List Event := []
  /-- How many callbacks that keep the outlet in use are running. -/
  ownersRunning : Nat := 0
  /-- How deeply dispatches may nest. -/
  nesting : Nat := 10000
  /-- Set when a dispatch was asked for beyond that depth; such a dispatch serves nobody. -/
  overrun : Bool := false

namespace Exchange

variable {ν σ : Type}

def enter (x : Exchange ν σ) (events : List Event) : Exchange ν σ :=
  { x with journal := x.journal ++ events }

def note (x : Exchange ν σ) (entry : ν) : Exchange ν σ := { x with notes := x.notes ++ [entry] }

def print (x : Exchange ν σ) (text : String) : Exchange ν σ :=
  { x with output := x.output ++ [text] }

def box (x : Exchange ν σ) (box : Nat) : List Reply := x.boxes[box]?.getD []

def nextBox (x : Exchange ν σ) : Nat := x.boxes.length

def addBox (x : Exchange ν σ) : Exchange ν σ := { x with boxes := x.boxes ++ [[]] }

def post (x : Exchange ν σ) (box : Nat) (reply : Reply) : Exchange ν σ :=
  { x with boxes := x.boxes.modify box fun replies => replies ++ [reply] }

def unpost (x : Exchange ν σ) (box : Nat) : Exchange ν σ :=
  { x with boxes := x.boxes.modify box List.tail }

/-- Makes a subscription; its identifier is the next one of the registry before. -/
def subscribe (x : Exchange ν σ) (subscription : Subscription (Callback ν)) : Exchange ν σ :=
  { x with registry := x.registry.insert subscription }.enter
    [.subscribed x.registry.nextId subscription.topic subscription.delivery]

/-- How many callbacks, live or running, keep the outlet in use. -/
def owners (x : Exchange ν σ) : Nat :=
  x.ownersRunning + x.registry.entries.countP fun entry => entry.2.callback.isOwner

/-- Tells the outlet when no callback keeps it in use. -/
def disownFree [Outlet σ] (x : Exchange ν σ) : Exchange ν σ :=
  if x.owners = 0 then
    let (outlet, events) := Outlet.disown x.outlet
    { x with outlet }.enter events
  else x

def unsubscribe [Outlet σ] (x : Exchange ν σ) (id : SubscriptionId) : Exchange ν σ :=
  if x.registry.contains id then
    ({ x with registry := x.registry.erase id }.enter [.unsubscribed id]).disownFree
  else x

def commence (x : Exchange ν σ) (callback : Callback ν) (id : SubscriptionId) (reply : Reply) :
    Exchange ν σ :=
  { x with ownersRunning := x.ownersRunning + callback.weight }.enter [.started id reply]

def dismiss [Outlet σ] (x : Exchange ν σ) (callback : Callback ν) (id : SubscriptionId)
    (topic : String) (failed : Bool) : Exchange ν σ :=
  let x := x.enter [.finished id]
  let x := if failed then x.enter [.panicked id topic] else x
  { x with ownersRunning := x.ownersRunning - callback.weight }.disownFree

/-- Hands a frame to the outlet; yields what comes back at once. -/
def emit [Outlet σ] (x : Exchange ν σ) (frame : Frame) : Exchange ν σ × List Frame :=
  let (outlet, events, returned) := Outlet.publish frame x.outlet
  ({ x with outlet }.enter (.published frame :: events), returned)

def close [Outlet σ] (x : Exchange ν σ) : Exchange ν σ :=
  { x with outlet := Outlet.close x.outlet }

def isClosed [Outlet σ] (x : Exchange ν σ) : Bool := Outlet.isClosed x.outlet

end Exchange

/-- An outlet without a line: it records what is published and, when it echoes, hands every frame
back at once. -/
structure Recorder where
  echoes : Bool
  sent : List Frame := []
  closed : Bool := false

instance : Outlet Recorder where
  publish frame r := ({ r with sent := r.sent ++ [frame] }, [], if r.echoes then [frame] else [])
  close r := { r with closed := true }
  isClosed r := r.closed
  isReachable _ := true
  disown r := (r, [])
  publish_outward := by simp
  disown_outward := by simp

end Switchboard
