import Switchboard.Conversation.Call
/-!
Streams: a message and every reply on its topic, up to the first one that ends the command. A stream
subscribes and publishes when it is opened, and buffers replies in its box until they are read.
-/

set_option autoImplicit false
set_option relaxedAutoImplicit false

namespace Switchboard

/-- An open stream: its subscription, its box, and whether it has come to its end. -/
structure ReplyStream where
  id : SubscriptionId
  box : Nat
  finished : Bool
  deriving DecidableEq, Repr

namespace ReplyStream

variable {ν σ : Type} [Outlet σ]

def openOn (topic : String) (message : Json) (x : Exchange ν σ) : Exchange ν σ × ReplyStream :=
  let ready := x.addBox.subscribe ⟨topic, .persistent, .box x.nextBox⟩
  (ready.publish (.payload topic message), ⟨x.registry.nextId, x.nextBox, false⟩)

def finish (s : ReplyStream) (x : Exchange ν σ) : Exchange ν σ × ReplyStream :=
  (x.unsubscribe s.id, { s with finished := true })

/-- Polls for the next reply. A buffered reply wins, and one that ends the command ends the stream;
without one the stream is over when its subscription was removed or no reply can come any more. -/
def next (s : ReplyStream) (x : Exchange ν σ) : Exchange ν σ × ReplyStream × Poll (Option Reply) :=
  if s.finished then (x, s, .ready none)
  else
    match x.box s.box with
    | reply :: _ =>
      let x := x.unpost s.box
      if reply.isEnd then
        let (x, s) := s.finish x
        (x, s, .ready none)
      else (x, s, .ready (some reply))
    | [] =>
      if !x.registry.contains s.id || x.isClosed then
        let (x, s) := s.finish x
        (x, s, .ready none)
      else (x, s, .pending)

def drop (s : ReplyStream) (x : Exchange ν σ) : Exchange ν σ := x.unsubscribe s.id

def describe (s : ReplyStream) : String :=
  "ReplyStream \x7b id: SubscriptionId(" ++ Decimal.natText s.id.number ++ "), finished: " ++
    boolText s.finished ++ ", .. \x7d"

/-- Reads on for as long as replies are there, at most so many times; yields what was read and
whether the stream came to its end. -/
def drain : Nat → ReplyStream → Exchange ν σ → Exchange ν σ × ReplyStream × List Reply × Bool
  | 0, s, x => (x, s, [], false)
  | n + 1, s, x =>
    match s.next x with
    | (x, s, .pending) => (x, s, [], false)
    | (x, s, .ready none) => (x, s, [], true)
    | (x, s, .ready (some reply)) =>
      let (x, s, replies, ended) := drain n s x
      (x, s, reply :: replies, ended)

end ReplyStream

structure Collecting where
  stream : ReplyStream
  replies : List Reply
  deriving DecidableEq

namespace Collecting

variable {ν σ : Type} [Outlet σ]

/-- Polls a collection once: it reads what is buffered, and is ready when the stream has ended. One
read more than there are replies finds the end. -/
def poll (c : Collecting) (x : Exchange ν σ) : Exchange ν σ × Collecting × Poll (List Reply) :=
  let (x, stream, replies, ended) := c.stream.drain ((x.box c.stream.box).length + 1) x
  let all := c.replies ++ replies
  (x, ⟨stream, all⟩, if ended then .ready all else .pending)

end Collecting

end Switchboard
