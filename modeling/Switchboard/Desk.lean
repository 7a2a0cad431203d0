import Switchboard.Conversation.Stream
/-!
The desk: an exchange and the conversations that are held on it under names. Everything that can be
asked of it is an errand.
-/

set_option autoImplicit false
set_option relaxedAutoImplicit false

namespace Switchboard

inductive Conversation
  | call (call : Call)
  | stream (stream : ReplyStream)
  | collecting (collecting : Collecting)
  /-- A collection that has yielded its replies. -/
  | collected
  deriving DecidableEq

structure Desk (ν σ : Type) where
  exchange : Exchange ν σ
  held : List (String × Conversation) := []

inductive Errand (ν : Type)
  | run (program : Program ν)
  | call (name topic : String) (message : Json)
  | openStream (name topic : String) (message : Json)
  | poll (name : String)
  | collect (name : String)
  | describe (name : String)
  | drop (name : String)

inductive Report
  | answer (answer : Answer)
  | pending
  | reply (reply : Reply)
  | failed (error : BusError)
  | ended
  | replies (replies : List Reply)
  | done
  | unknown
  | text (text : String)
  deriving DecidableEq

def Report.ofCall : Poll (Except BusError Reply) → Report
  | .pending => .pending
  | .ready (.ok first) => .reply first
  | .ready (.error e) => .failed e

namespace Desk

variable {ν σ : Type} [Outlet σ]

def release (conversation : Conversation) (x : Exchange ν σ) : Exchange ν σ :=
  match conversation with
  | .call call => call.drop x
  | .stream stream => stream.drop x
  | .collecting collecting => collecting.stream.drop x
  | .collected => x

def find? (desk : Desk ν σ) (name : String) : Option Conversation := desk.held.lookup name

def without (name : String) (held : List (String × Conversation)) :
    List (String × Conversation) :=
  held.filter fun entry => entry.1 ≠ name

/-- Holds a conversation under a name, without a word about what was there. -/
def hold (desk : Desk ν σ) (name : String) (conversation : Conversation) : Desk ν σ :=
  { desk with held := (name, conversation) :: without name desk.held }

def drop (desk : Desk ν σ) (name : String) : Desk ν σ :=
  match desk.find? name with
  | none => desk
  | some conversation =>
    ⟨release conversation desk.exchange, without name desk.held⟩

/-- Holds a new conversation under a name and then drops the one that was there. -/
def replace (desk : Desk ν σ) (name : String) (conversation : Conversation)
    (x : Exchange ν σ) : Desk ν σ :=
  ({ desk with exchange := x }.drop name).hold name conversation

def poll (desk : Desk ν σ) (name : String) : Desk ν σ × Report :=
  match desk.find? name with
  | none | some .collected =>
    (desk, if (desk.find? name).isSome then .done else .unknown)
  | some (.call .finished) => (desk, .done)
  | some (.call call) =>
    let (exchange, call, result) := call.poll desk.exchange
    ({ desk with exchange }.hold name (.call call), .ofCall result)
  | some (.stream stream) =>
    let (exchange, stream, result) := stream.next desk.exchange
    ({ desk with exchange }.hold name (.stream stream),
      match result with
      | .pending => .pending
      | .ready (some reply) => .reply reply
      | .ready none => .ended)
  | some (.collecting collecting) =>
    match collecting.poll desk.exchange with
    | (exchange, collecting, .pending) =>
      ({ desk with exchange }.hold name (.collecting collecting), .pending)
    | (exchange, collecting, .ready replies) =>
      ({ desk with exchange := collecting.stream.drop exchange }.hold name .collected,
        .replies replies)

def perform (desk : Desk ν σ) : Errand ν → Desk ν σ × Report
  | .run program =>
    let (exchange, answer) := desk.exchange.execute program
    ({ desk with exchange }, .answer (answer.getD .nothing))
  | .call name topic message =>
    (desk.replace name (.call (.fresh topic message)) desk.exchange, .answer .nothing)
  | .openStream name topic message =>
    let (x, stream) := ReplyStream.openOn topic message desk.exchange
    (desk.replace name (.stream stream) x, .answer (.issued stream.id))
  | .poll name => desk.poll name
  | .collect name =>
    match desk.find? name with
    | some (.stream stream) => (desk.hold name (.collecting ⟨stream, []⟩), .answer .nothing)
    | _ => (desk, .unknown)
  | .describe name =>
    match desk.find? name with
    | some (.stream stream) => (desk, .text stream.describe)
    | _ => (desk, .unknown)
  | .drop name => (desk.drop name, .answer (.flag (desk.find? name).isSome))

end Desk

end Switchboard
