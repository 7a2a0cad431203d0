import Switchboard.Json.Basic
import Switchboard.Json.Written
/-!
The value of written JSON. Strings must pair their surrogates, numbers must stay in range and
containers may nest to a bounded depth; each of these is a fault of its own, beside a text that the
grammar does not admit.
-/

set_option autoImplicit false
set_option relaxedAutoImplicit false

namespace Switchboard

namespace Json

inductive Fault
  | malformed
  | tooDeep
  | numberOutOfRange
  | loneSurrogate
  deriving DecidableEq, Repr

def Fault.message : Fault → String
  | .malformed => "the text is not a JSON value"
  | .tooDeep => "recursion limit exceeded"
  | .numberOutOfRange => "number out of range"
  | .loneSurrogate => "lone surrogate in an escape"

def nestingLimit : Nat := 127

def greatestUnsigned : Nat := 0xFFFFFFFFFFFFFFFF

/-- How far below zero a signed 64-bit integer reaches. -/
def signedReach : Nat := 0x8000000000000000

def pairedChar (leading trailing : Nat) : Char :=
  Char.ofNat (0x10000 + (leading - 0xD800) * 0x400 + (trailing - 0xDC00))

/-- The characters of written glyphs. A leading surrogate takes the trailing one right behind it;
any other surrogate has no character. -/
def ofGlyphs : List Glyph → Except Fault (List Char)
  | [] => .ok []
  | .char c :: rest => (c :: ·) <$> ofGlyphs rest
  | .unit a :: .unit b :: rest =>
    if a < 0xD800 ∨ 0xDFFF < a then (Char.ofNat a :: ·) <$> ofGlyphs (.unit b :: rest)
    else if a ≤ 0xDBFF ∧ 0xDC00 ≤ b ∧ b ≤ 0xDFFF then (pairedChar a b :: ·) <$> ofGlyphs rest
    else .error .loneSurrogate
  | .unit a :: rest =>
    if a < 0xD800 ∨ 0xDFFF < a then (Char.ofNat a :: ·) <$> ofGlyphs rest
    else .error .loneSurrogate

def textOfGlyphs (glyphs : List Glyph) : Except Fault String :=
  String.ofList <$> ofGlyphs glyphs

/-- Takes digits into a 64-bit significand for as long as it holds them; yields the significand,
how many digits it took and how many were left. -/
def absorb : Nat → List Nat → Nat × Nat × Nat
  | significand, [] => (significand, 0, 0)
  | significand, d :: rest =>
    if significand * 10 + d ≤ greatestUnsigned then
      let (total, taken, left) := absorb (significand * 10 + d) rest
      (total, taken + 1, left)
    else (significand, 0, rest.length + 1)

def greatestExponent : Int := 0x7FFFFFFF

/-- The exponent of 32 bits that is nearest to a number. -/
def clampExponent (e : Int) : Int := max (-greatestExponent - 1) (min greatestExponent e)

def floatPower (n : Nat) : Float := Float.ofScientific 1 false n

/-- Divides by 1e308 until the rest of a negative exponent is a single power, or nothing is left of
the number. Two divisions exhaust every 64-bit significand. -/
def lowerToRange : Nat → Float → Nat → Float × Nat
  | 0, f, e => (f, e)
  | n + 1, f, e =>
    if e ≤ 308 ∨ f == 0 then (f, e) else lowerToRange n (f / floatPower 308) (e - 308)

/-- The float `significand * 10^exponent`, by one multiplication or division with a power of ten;
further divisions by 1e308 come first when the exponent is below the powers at hand. -/
def scaledFloat (significand : Nat) (exponent : Int) : Except Fault Float :=
  let f := (UInt64.ofNat significand).toFloat
  if exponent < 0 then
    let (f, e) := lowerToRange 3 f exponent.natAbs
    if f == 0 then .ok f else .ok (f / floatPower e)
  else if 308 < exponent then
    if f == 0 then .ok f else .error .numberOutOfRange
  else
    let f := f * floatPower exponent.toNat
    if f.isInf then .error .numberOutOfRange else .ok f

def signedFloat (negative : Bool) (f : Float) : Number :=
  .float (if negative then -f else f).toBits

/-- The value of a written number. Without fraction and exponent it is an integer when 64 bits hold
it, unsigned or, behind a minus sign, signed; the negative zero and everything else is a float. -/
def ofNumeral (n : Numeral) : Except Fault Number := do
  let (significand, _, left) := absorb 0 n.whole
  if n.fraction = [] ∧ n.exponent = none ∧ left = 0 then
    if n.negative then
      if 0 < significand ∧ significand ≤ signedReach then .ok (.integer (-significand))
      else .ok (signedFloat true (UInt64.ofNat significand).toFloat)
    else .ok (.integer significand)
  else
    let (significand, taken, _) := absorb significand n.fraction
    let start : Int := (left : Int) - taken
    match n.exponent with
    | none => signedFloat n.negative <$> scaledFloat significand start
    | some (down, ds) =>
      let e : Int := Decimal.ofDigits ds
      if greatestExponent < e then
        if significand ≠ 0 ∧ ¬down then .error .numberOutOfRange
        else .ok (signedFloat n.negative 0)
      else
        let e := clampExponent (if down then start - e else start + e)
        signedFloat n.negative <$> scaledFloat significand e

end Json

namespace Written

mutual

/-- The value of a written value inside containers of which `levels` more may be opened. -/
def value (levels : Nat) : Written → Except Json.Fault Json
  | .null => .ok .null
  | .bool b => .ok (.bool b)
  | .number n => Json.number <$> Json.ofNumeral n
  | .string glyphs => Json.string <$> Json.textOfGlyphs glyphs
  | .array items =>
    if levels = 0 then .error .tooDeep
    else Json.array <$> itemValues (levels - 1) items
  | .object members =>
    if levels = 0 then .error .tooDeep
    else (fun read => Json.object (Json.ofMembers read)) <$> memberValues (levels - 1) members

def itemValues (levels : Nat) : List Written → Except Json.Fault (List Json)
  | [] => .ok []
  | item :: rest => do
    let v ← value levels item
    let vs ← itemValues levels rest
    .ok (v :: vs)

def memberValues (levels : Nat) :
    List (List Glyph × Written) → Except Json.Fault (List (String × Json))
  | [] => .ok []
  | (key, item) :: rest => do
    let k ← Json.textOfGlyphs key
    let v ← value levels item
    let vs ← memberValues levels rest
    .ok ((k, v) :: vs)

end

end Written

namespace Json

def parse (text : String) : Except Fault Json :=
  match Written.read? text with
  | some written => written.value nestingLimit
  | none => .error .malformed

end Json

end Switchboard
