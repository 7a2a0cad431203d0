import Switchboard.Conversation.Reply
import Switchboard.Registry.Basic
/-!
Callbacks as programs. A program asks for one thing after another, learns what came of it before
it asks for the next, and may fail at any point. Callbacks of subscriptions that it makes are
programs again, so a program can do all that a callback can, nested to any depth.

Whatever memory callbacks keep or share, they keep in notes: anything can be noted, and all notes so
far can be read again. The callbacks of conversations are no programs, and no program can do what
they do.
-/

set_option autoImplicit false
set_option relaxedAutoImplicit false

namespace Switchboard

/-- What became of one inbound text: it reached some subscribers, it reached none, or it was no
frame. -/
inductive RouteOutcome
  | delivered (count : Nat)
  | unmatched
  | malformed
  deriving DecidableEq, Repr

def RouteOutcome.ofCount (invoked : Nat) : RouteOutcome :=
  if invoked = 0 then .unmatched else .delivered invoked

/-- What came of one request of a program, for whoever keeps account of it. -/
inductive Answer
  | nothing
  | flag (value : Bool)
  | count (value : Nat)
  | issued (id : SubscriptionId)
  | unreachable
  | delivery (value : Option Delivery)
  | census (size lastNumber : Nat)
  | outcome (value : RouteOutcome)
  deriving DecidableEq, Repr

/-- The behaviour of a callback in one run, over notes of type `ν`. -/
inductive Program (ν : Type)
  /-- Returns, with an answer for whoever ran the program. -/
  | done (answer : Answer)
  /-- Fails; whatever was still to come is lost. -/
  | panic
  | note (entry : ν) (next : Program ν)
  | reread (next : List ν → Program ν)
  | print (text : String) (next : Program ν)
  /-- Subscribes. An `owner` keeps the outlet of the exchange in use for as long as it is live. -/
  | subscribe (topic : String) (delivery : Delivery) (owner : Bool)
      (run : SubscriptionId → Reply → Program ν) (next : SubscriptionId → Program ν)
  | unsubscribe (id : SubscriptionId) (next : Bool → Program ν)
  | contains (id : SubscriptionId) (next : Bool → Program ν)
  | delivery (id : SubscriptionId) (next : Option Delivery → Program ν)
  | census (next : Nat → Nat → Program ν)
  | topicCount (topic : String) (next : Nat → Program ν)
  | dispatch (frame : Frame) (next : Nat → Program ν)
  | route (text : String) (next : RouteOutcome → Program ν)
  | send (topic : String) (message : Json) (next : Program ν)
  /-- Subscribes once and then publishes; nothing happens when the outlet is out of reach. -/
  | request (topic : String) (message : Json) (run : SubscriptionId → Reply → Program ν)
      (next : Option SubscriptionId → Program ν)
  | close (next : Program ν)

inductive Callback (ν : Type)
  /-- Runs a program for a subscription and a reply. An owner keeps the outlet of the exchange in
  use. -/
  | program (owner : Bool) (run : SubscriptionId → Reply → Program ν)
  /-- Puts every reply into a box, where a conversation waits for it. -/
  | box (number : Nat)

def Callback.isOwner {ν : Type} : Callback ν → Bool
  | .program owner _ => owner
  | .box _ => false

/-- What a running callback adds to the number of those that keep the outlet in use. -/
def Callback.weight {ν : Type} (callback : Callback ν) : Nat := if callback.isOwner then 1 else 0

end Switchboard
