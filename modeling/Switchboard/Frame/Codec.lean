import Switchboard.Frame.Basic
import Switchboard.Json.Record
import Switchboard.Json.Writer
/-!
The text of a frame, with its three fields in order, and the plain record decoder, which takes a
frame as an object or as an array of its three fields and knows no policy.
-/

set_option autoImplicit false
set_option relaxedAutoImplicit false

namespace Switchboard.Frame

/-- The characters of a field's key and the colon behind it. -/
def keyChars (field : Field) : List Char := Json.stringChars field.key ++ [':']

def chars (frame : Frame) : List Char :=
  '{' :: (keyChars .topic ++ Json.stringChars frame.topic ++
    ',' :: (keyChars .code ++ Json.stringChars frame.code ++
      ',' :: (keyChars .value ++ frame.value.chars ++ ['}'])))

/-- The text sent over the wire. -/
def toText (frame : Frame) : String := String.ofList frame.chars

/-- A frame from its three written fields; the container around them counts as one level. -/
def ofParts (topic code value : Written) : Option Frame := do
  let topic ← topic.text?
  let code ← code.text?
  let value ← (value.value (Json.nestingLimit - 1)).toOption
  some ⟨topic, code, value⟩

/-- Decodes a frame from an object, each of whose three fields stands exactly once, or from an
array of exactly these three. -/
def decode? (text : String) : Option Frame :=
  match Written.read? text with
  | some (.array [topic, code, value]) => ofParts topic code value
  | some (.object members) => do
    let keyed ← Written.keyedMembers members
    match Written.occurrence Field.topic.key keyed, Written.occurrence Field.code.key keyed,
        Written.occurrence Field.value.key keyed with
    | .once topic, .once code, .once value => ofParts topic code value
    | _, _, _ => none
  | _ => none

end Switchboard.Frame
