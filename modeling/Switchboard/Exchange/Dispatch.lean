import Switchboard.Exchange.Basic
/-!
Dispatch: serving a frame to the subscriptions on its topic. The pass goes through those that were
live when it began, in the order in which they were made, and leaves out the ones that are gone
when their turn comes. Callbacks run with the exchange at their disposal; a dispatch that one of
them starts is a pass of its own, nested in this one.
-/

set_option autoImplicit false
set_option relaxedAutoImplicit false

namespace Switchboard.Exchange

variable {ν σ : Type}

/-- A way to dispatch a frame; it yields how many callbacks were invoked. -/
abbrev Dispatcher (ν σ : Type) := Frame → Exchange ν σ → Exchange ν σ × Nat

/-- Publishes a frame and dispatches what comes back at once. -/
def publishWith [Outlet σ] (dispatcher : Dispatcher ν σ) (frame : Frame) (x : Exchange ν σ) :
    Exchange ν σ :=
  let (x, returned) := x.emit frame
  returned.foldl (fun x back => (dispatcher back x).1) x

/-- Subscribes once and then publishes, so that no reply can be missed. -/
def requestWith [Outlet σ] (dispatcher : Dispatcher ν σ) (topic : String) (message : Json)
    (callback : Callback ν) (x : Exchange ν σ) : Exchange ν σ × SubscriptionId :=
  (publishWith dispatcher (.payload topic message) (x.subscribe ⟨topic, .once, callback⟩),
    x.registry.nextId)

/-- Parses an inbound text and dispatches it; a text that is no frame goes no further. -/
def routeWith (dispatcher : Dispatcher ν σ) (text : String) (x : Exchange ν σ) :
    Exchange ν σ × RouteOutcome :=
  match Frame.parse x.policy text with
  | .error e => (x.enter [.malformed e text], .malformed)
  | .ok frame =>
    let (x, invoked) := dispatcher frame x
    (x.enter [.routed frame invoked], .ofCount invoked)

/-- Runs a program; it has no answer when it failed. -/
def executeWith [Outlet σ] (dispatcher : Dispatcher ν σ) :
    Program ν → Exchange ν σ → Exchange ν σ × Option Answer
  | .done answer, x => (x, some answer)
  | .panic, x => (x, none)
  | .note entry next, x => executeWith dispatcher next (x.note entry)
  | .reread next, x => executeWith dispatcher (next x.notes) x
  | .print text next, x => executeWith dispatcher next (x.print text)
  | .subscribe topic delivery owner run next, x =>
    executeWith dispatcher (next x.registry.nextId)
      (x.subscribe ⟨topic, delivery, .program owner run⟩)
  | .unsubscribe id next, x =>
    executeWith dispatcher (next (x.registry.contains id)) (x.unsubscribe id)
  | .contains id next, x => executeWith dispatcher (next (x.registry.contains id)) x
  | .delivery id next, x => executeWith dispatcher (next (x.registry.delivery? id)) x
  | .census next, x => executeWith dispatcher (next x.registry.size x.registry.lastNumber) x
  | .topicCount topic next, x => executeWith dispatcher (next (x.registry.topicCount topic)) x
  | .dispatch frame next, x =>
    let (x, invoked) := dispatcher frame x
    executeWith dispatcher (next invoked) x
  | .route text next, x =>
    let (x, outcome) := routeWith dispatcher text x
    executeWith dispatcher (next outcome) x
  | .send topic message next, x =>
    executeWith dispatcher next
      (if Outlet.isReachable x.outlet then publishWith dispatcher (.payload topic message) x else x)
  | .request topic message run next, x =>
    if Outlet.isReachable x.outlet then
      let (x, id) := requestWith dispatcher topic message (.program false run) x
      executeWith dispatcher (next (some id)) x
    else executeWith dispatcher (next none) x
  | .close next, x => executeWith dispatcher next x.close

def invokeWith [Outlet σ] (dispatcher : Dispatcher ν σ) (callback : Callback ν)
    (id : SubscriptionId) (reply : Reply) (x : Exchange ν σ) : Exchange ν σ × Option Answer :=
  match callback with
  | .program _ run => executeWith dispatcher (run id reply) x
  | .box number => (x.post number reply, some .nothing)

def serveWith [Outlet σ] (dispatcher : Dispatcher ν σ) (frame : Frame) (id : SubscriptionId)
    (callback : Callback ν) (x : Exchange ν σ) : Exchange ν σ :=
  let (x, answer) :=
    invokeWith dispatcher callback id frame.reply (x.commence callback id frame.reply)
  x.dismiss callback id frame.topic answer.isNone

/-- Serves the subscriptions of a list in turn, as far as they are still live; yields those that
were invoked. -/
def passWith [Outlet σ] (dispatcher : Dispatcher ν σ) (frame : Frame) :
    List SubscriptionId → Exchange ν σ → Exchange ν σ × List SubscriptionId
  | [], x => (x, [])
  | id :: rest, x =>
    match x.registry.take id with
    | none => passWith dispatcher frame rest x
    | some (subscription, registry) =>
      let x := serveWith dispatcher frame id subscription.callback { x with registry }
      let (x, invoked) := passWith dispatcher frame rest x
      (x, id :: invoked)

/-- Dispatches a frame with a bound on the depth of nested dispatches. -/
def dispatchWithin [Outlet σ] : Nat → Dispatcher ν σ
  | 0, _, x => ({ x with overrun := true }, 0)
  | depth + 1, frame, x =>
    let (x, invoked) := passWith (dispatchWithin depth) frame (x.registry.onTopic frame.topic) x
    (x, invoked.length)

def dispatch [Outlet σ] (frame : Frame) (x : Exchange ν σ) : Exchange ν σ × Nat :=
  dispatchWithin x.nesting frame x

def publish [Outlet σ] (frame : Frame) (x : Exchange ν σ) : Exchange ν σ :=
  publishWith (dispatchWithin x.nesting) frame x

def request [Outlet σ] (topic : String) (message : Json) (callback : Callback ν)
    (x : Exchange ν σ) : Exchange ν σ × SubscriptionId :=
  requestWith (dispatchWithin x.nesting) topic message callback x

def route [Outlet σ] (text : String) (x : Exchange ν σ) : Exchange ν σ × RouteOutcome :=
  routeWith (dispatchWithin x.nesting) text x

/-- Runs a program from outside any callback. -/
def execute [Outlet σ] (program : Program ν) (x : Exchange ν σ) : Exchange ν σ × Option Answer :=
  executeWith (dispatchWithin x.nesting) program x

end Switchboard.Exchange
