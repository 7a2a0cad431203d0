import Switchboard.Callback
/-!
Scripts: callbacks written down as lists of deeds. A scripted callback notes that it was invoked,
does its deeds one after another, and notes what came of each.
-/

set_option autoImplicit false
set_option relaxedAutoImplicit false

namespace Switchboard

inductive Deed
  /-- Subscribes a scripted callback; with a bound its script runs in so many invocations only. -/
  | subscribe (topic : String) (delivery : Delivery) (owner : Bool) (script : List Deed)
      (bound : Option Nat)
  | unsubscribe (id : SubscriptionId)
  | unsubscribeSelf
  | contains (id : SubscriptionId)
  | deliveryOf (id : SubscriptionId)
  | census
  | topicCount (topic : String)
  | dispatch (frame : Frame)
  | route (text : String)
  | send (topic : String) (message : Json)
  /-- Sends on the value that was received. -/
  | forward (topic : String)
  | request (topic : String) (message : Json) (label : Option String) (script : List Deed)
  | close
  | panic

inductive Note
  | invoked (id : SubscriptionId) (reply : Reply)
  | replied (label : Option String) (reply : Reply)
  | did (deed : Deed) (answer : Answer)

def Note.isInvocation (id : SubscriptionId) : Note → Bool
  | .invoked other _ => other = id
  | _ => false

mutual

/-- The program of one deed, done for a subscription and the reply it received. -/
def Deed.program : Deed → SubscriptionId → Reply → (Answer → Program Note) → Program Note
  | .subscribe topic delivery owner script bound, _, _, next =>
    .subscribe topic delivery owner
      (fun id reply => .note (.invoked id reply) (.reread fun notes =>
        if bound.all fun most => notes.countP (Note.isInvocation id) ≤ most then
          Deed.sequence script id reply
        else .done .nothing))
      fun id => next (.issued id)
  | .unsubscribe id, _, _, next => .unsubscribe id fun removed => next (.flag removed)
  | .unsubscribeSelf, id, _, next => .unsubscribe id fun removed => next (.flag removed)
  | .contains id, _, _, next => .contains id fun live => next (.flag live)
  | .deliveryOf id, _, _, next => .delivery id fun found => next (.delivery found)
  | .census, _, _, next => .census fun size lastNumber => next (.census size lastNumber)
  | .topicCount topic, _, _, next => .topicCount topic fun count => next (.count count)
  | .dispatch frame, _, _, next => .dispatch frame fun invoked => next (.count invoked)
  | .route text, _, _, next => .route text fun outcome => next (.outcome outcome)
  | .send topic message, _, _, next => .send topic message (next .nothing)
  | .forward topic, _, reply, next => .send topic reply.value (next .nothing)
  | .request topic message label script, _, _, next =>
    .request topic message
      (fun id reply => .note (.replied label reply) (Deed.sequence script id reply))
      fun
        | some id => next (.issued id)
        | none => next .unreachable
  | .close, _, _, next => .close (next .nothing)
  | .panic, _, _, _ => .panic

/-- The program of a script: each deed is noted once it has been done. -/
def Deed.sequence : List Deed → SubscriptionId → Reply → Program Note
  | [], _, _ => .done .nothing
  | deed :: rest, id, reply =>
    deed.program id reply fun answer =>
      .note (.did deed answer) (Deed.sequence rest id reply)

end

def Deed.alone (deed : Deed) : Program Note := deed.program ⟨0⟩ ⟨"", .null⟩ .done

end Switchboard
