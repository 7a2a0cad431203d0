import Switchboard.Decimal.Shortest
import Switchboard.Json.Basic
/-!
The compact text of a JSON value: no space anywhere, members in the order of their keys, and one
spelling for every string and number.
-/

set_option autoImplicit false
set_option relaxedAutoImplicit false

namespace Switchboard.Json

def hexChar (d : Nat) : Char :=
  if d < 10 then Char.ofNat ('0'.toNat + d) else Char.ofNat ('a'.toNat + (d - 10))

/-- A character inside a string: the quote, the backslash and control characters are escaped, with
a letter where there is one. -/
def stringChar (c : Char) : List Char :=
  if c = '"' then ['\\', '"']
  else if c = '\\' then ['\\', '\\']
  else if c = '\n' then ['\\', 'n']
  else if c = '\r' then ['\\', 'r']
  else if c = '\t' then ['\\', 't']
  else if c.toNat = 8 then ['\\', 'b']
  else if c.toNat = 12 then ['\\', 'f']
  else if c.toNat < 0x20 then ['\\', 'u', '0', '0', hexChar (c.toNat / 16), hexChar (c.toNat % 16)]
  else [c]

def stringChars (text : String) : List Char := '"' :: (text.toList.flatMap stringChar ++ ['"'])

/-- Floats are written out when their leading digit stands between the fifth decimal and the
sixteenth integer place, and with an exponent beyond. -/
def floatLayout : Decimal.Layout := ⟨-5, 15⟩

def signWeight : Nat := 0x8000000000000000

/-- A float: a sign when its sign bit is set, then zero or its shortest digits. -/
def floatChars (bits : UInt64) : List Char :=
  let negative := signWeight ≤ bits.toNat
  let magnitude := bits.toNat % signWeight
  let chars :=
    if magnitude = 0 then ['0', '.', '0']
    else (Decimal.Binary.ofBits magnitude).shortest.chars floatLayout
  if negative then '-' :: chars else chars

def numberChars : Number → List Char
  | .integer n => Decimal.intChars n
  | .float bits => floatChars bits

mutual

def chars : Json → List Char
  | .null => ['n', 'u', 'l', 'l']
  | .bool true => ['t', 'r', 'u', 'e']
  | .bool false => ['f', 'a', 'l', 's', 'e']
  | .number n => numberChars n
  | .string text => stringChars text
  | .array items => '[' :: itemsChars items
  | .object members => '{' :: membersChars members

def itemsChars : List Json → List Char
  | [] => [']']
  | [item] => chars item ++ [']']
  | item :: rest => chars item ++ ',' :: itemsChars rest

def membersChars : List (String × Json) → List Char
  | [] => ['}']
  | [(key, value)] => stringChars key ++ ':' :: chars value ++ ['}']
  | (key, value) :: rest => stringChars key ++ ':' :: chars value ++ ',' :: membersChars rest

end

def write (value : Json) : String := String.ofList value.chars

end Switchboard.Json
