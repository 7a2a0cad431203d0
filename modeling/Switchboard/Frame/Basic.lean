import Switchboard.Json.Reader
/-!
Frames: the envelopes exchanged over a line. A frame has a topic that routes it, a code that says
what kind of delivery it is, and a JSON value.
-/

set_option autoImplicit false
set_option relaxedAutoImplicit false

namespace Switchboard

structure Frame where
  topic : String
  code : String
  value : Json
  deriving DecidableEq

def payloadCode : String := "payload"

/-- The code of a failure; the value carries its message. -/
def errorCode : String := "error"

/-- The code that ends the replies to a command. -/
def endCode : String := "end"

inductive Field
  | topic
  | code
  | value
  deriving DecidableEq, Repr

def Field.key : Field → String
  | .topic => "topic"
  | .code => "code"
  | .value => "value"

/-- Whether an inbound frame may leave out its value. -/
inductive Policy
  | strict
  | lenient
  deriving DecidableEq, Repr

inductive FrameError
  | invalidJson (detail : String)
  | notAnObject
  | missingField (field : Field)
  | invalidField (field : Field)
  | encode (detail : String)
  deriving DecidableEq, Repr

/-- The wording of an error. Only topic and code have a type of their own, and it is text. -/
def FrameError.message : FrameError → String
  | .invalidJson detail => "Invalid JSON: " ++ detail
  | .notAnObject => "Frame is not a JSON object"
  | .missingField field => "Frame is missing field `" ++ field.key ++ "`"
  | .invalidField field => "Frame field `" ++ field.key ++ "` must be a string"
  | .encode detail => "Failed to encode frame: " ++ detail

namespace Frame

def payload (topic : String) (value : Json) : Frame := ⟨topic, payloadCode, value⟩

def isPayload (frame : Frame) : Bool := frame.code = payloadCode

def isEnd (frame : Frame) : Bool := frame.code = endCode

def textField (members : List (String × Json)) (field : Field) : Except FrameError String :=
  match Json.member? field.key members with
  | some (.string text) => .ok text
  | some _ => .error (.invalidField field)
  | none => .error (.missingField field)

/-- The value of a frame; only a lenient policy reads its absence, as null. -/
def valueField (policy : Policy) (members : List (String × Json)) : Except FrameError Json :=
  match Json.member? Field.value.key members, policy with
  | some value, _ => .ok value
  | none, .lenient => .ok .null
  | none, .strict => .error (.missingField .value)

/-- The frame in the members of an object: topic, code and value are checked in this order. -/
def ofMembers (policy : Policy) (members : List (String × Json)) : Except FrameError Frame := do
  let topic ← textField members .topic
  let code ← textField members .code
  let value ← valueField policy members
  .ok ⟨topic, code, value⟩

def parse (policy : Policy) (text : String) : Except FrameError Frame :=
  match Json.parse text with
  | .error fault => .error (.invalidJson fault.message)
  | .ok (.object members) => ofMembers policy members
  | .ok _ => .error .notAnObject

end Frame

end Switchboard
