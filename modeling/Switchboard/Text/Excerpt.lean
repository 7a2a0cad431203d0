/-!
Cutting a text to a number of UTF-8 octets without cutting a character. A cut that would divide a
character fails, so that the offset of a cut has to be found first.
-/

set_option autoImplicit false
set_option relaxedAutoImplicit false

namespace Switchboard.Text

/-- How many octets the characters take in UTF-8. -/
def octetCount : List Char → Nat
  | [] => 0
  | c :: rest => c.utf8Size + octetCount rest

/-- Whether a character of the text begins at an octet offset, or the text ends there. -/
def isBoundary (text : String) (offset : Nat) : Bool := String.Pos.Raw.isValid text ⟨offset⟩

/-- The greatest octet offset up to `limit` that is a boundary, searched for from the limit
downwards. -/
def floorBoundary (text : String) (limit : Nat) : Nat :=
  if text.utf8ByteSize ≤ limit then text.utf8ByteSize
  else ((List.range (limit + 1)).reverse.find? (isBoundary text)).getD 0

/-- The part of a text in front of an octet offset. It fails where the offset divides a character or
lies behind the end. -/
def front? (text : String) (offset : Nat) : Option String :=
  if valid : String.Pos.Raw.IsValid text ⟨offset⟩ then
    some (text.sliceTo (text.pos ⟨offset⟩ valid)).copy
  else none

/-- The start of a text that is shown where no more than `limit` octets are. -/
def excerpt? (text : String) (limit : Nat) : Option String :=
  front? text (floorBoundary text limit)

end Switchboard.Text
