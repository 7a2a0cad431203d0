import Switchboard.Exchange.Dispatch
/-!
Calls: a message and the wait for the first reply on its topic. A call does nothing before it is
polled for the first time; then it subscribes once, publishes, and waits at its box. Whatever it
ends with, and also when it is given up, it leaves no subscription behind.
-/

set_option autoImplicit false
set_option relaxedAutoImplicit false

namespace Switchboard

inductive Poll (α : Type)
  | pending
  | ready (value : α)
  deriving DecidableEq

inductive Call
  | fresh (topic : String) (message : Json)
  | waiting (id : SubscriptionId) (box : Nat)
  | finished
  deriving DecidableEq

namespace Call

variable {ν σ : Type} [Outlet σ]

def conclude (id : SubscriptionId) (result : Except BusError Reply) (x : Exchange ν σ) :
    Exchange ν σ × Call × Poll (Except BusError Reply) :=
  (x.unsubscribe id, .finished, .ready result)

/-- Looks after a call that has been published. A reply in the box wins; without one the call is
over when its subscription was removed or when no reply can come any more, in this order. -/
def await (id : SubscriptionId) (box : Nat) (x : Exchange ν σ) :
    Exchange ν σ × Call × Poll (Except BusError Reply) :=
  match x.box box with
  | reply :: _ => conclude id (.ok reply) x
  | [] =>
    if !x.registry.contains id then conclude id (.error .cancelled) x
    else if x.isClosed then conclude id (.error .closed) x
    else (x, .waiting id box, .pending)

def poll : Call → Exchange ν σ → Exchange ν σ × Call × Poll (Except BusError Reply)
  | .fresh topic message, x =>
    let (y, id) := x.addBox.request topic message (.box x.nextBox)
    await id x.nextBox y
  | .waiting id box, x => await id box x
  | .finished, x => (x, .finished, .pending)

def drop : Call → Exchange ν σ → Exchange ν σ
  | .waiting id _, x => x.unsubscribe id
  | _, x => x

end Call

end Switchboard
