/-! Natural numbers in decimal positional notation, most significant digit first. -/

set_option autoImplicit false
set_option relaxedAutoImplicit false

namespace Switchboard.Decimal

/-- The digits of a number, without leading zeros; zero has the one digit 0. -/
def digits (n : Nat) : List Nat :=
  if n < 10 then [n] else digits (n / 10) ++ [n % 10]
termination_by n
decreasing_by omega

def ofDigits (ds : List Nat) : Nat := ds.foldl (fun value d => value * 10 + d) 0

def digitChar (d : Nat) : Char := Char.ofNat ('0'.toNat + d)

def digitValue (c : Char) : Nat := c.toNat - '0'.toNat

def natChars (n : Nat) : List Char := (digits n).map digitChar

/-- Reads a number that is no greater than a limit: digits, perhaps behind a plus sign. -/
def readUpTo (limit : Nat) (text : List Char) : Option Nat :=
  let ds := match text with
    | '+' :: rest => rest
    | _ => text
  if ds = [] ∨ !ds.all Char.isDigit then none
  else
    let value := ofDigits (ds.map digitValue)
    if value ≤ limit then some value else none

def intChars : Int → List Char
  | .ofNat n => natChars n
  | .negSucc n => '-' :: natChars (n + 1)

def natText (n : Nat) : String := String.ofList (natChars n)

end Switchboard.Decimal
