import Switchboard.Decimal.Digits
/-!
The shortest decimal that reads back to a binary floating-point number. Every value that rounds to
`mantissa * 2^exponent` lies in an interval around it; of the powers of ten, the greatest whose
multiples meet the interval gives the fewest digits, and of two multiples that meet it the nearer
one is taken.
-/

set_option autoImplicit false
set_option relaxedAutoImplicit false

namespace Switchboard.Decimal

/-- A positive binary floating-point number `mantissa * 2^exponent`. `narrow` says that its lower
neighbour is half as far away as its upper one. -/
structure Binary where
  mantissa : Nat
  exponent : Int
  narrow : Bool
  deriving DecidableEq, Repr

/-- The positive decimal `digits * 10^exponent`. -/
structure Scientific where
  significand : Nat
  exponent : Int
  deriving DecidableEq, Repr

/-- The weight of the leading bit of a mantissa, which the bits of a number leave out. -/
def leadingWeight : Nat := 0x10000000000000

def exponentCount : Nat := 0x800

/-- Decodes the bits of a nonzero finite binary64 number, without its sign. -/
def Binary.ofBits (bits : Nat) : Binary :=
  let fraction := bits % leadingWeight
  let biased := bits / leadingWeight % exponentCount
  if biased = 0 then ⟨fraction, -1074, false⟩
  else ⟨leadingWeight + fraction, (biased : Int) - 1075, fraction = 0 ∧ 1 < biased⟩

/-- Both sides of `value = numerator / denominator * 10^e`, where the value is counted in quarters
of the last binary place. -/
def quartersOver (b : Binary) (e : Int) (quarters : Nat) : Nat × Nat :=
  let scale := b.exponent - 2
  let numerator := quarters * Nat.pow 2 scale.toNat * Nat.pow 10 (-e).toNat
  let denominator := Nat.pow 2 (-scale).toNat * Nat.pow 10 e.toNat
  (numerator, denominator)

/-- Whether `k * 10^e` rounds to the number; the ends of the interval do exactly when the mantissa
is even. -/
def Binary.admits (b : Binary) (k : Nat) (e : Int) : Bool :=
  let low := quartersOver b e (4 * b.mantissa - if b.narrow then 1 else 2)
  let high := quartersOver b e (4 * b.mantissa + 2)
  if b.mantissa % 2 = 0 then low.1 ≤ k * low.2 && k * high.2 ≤ high.1
  else low.1 < k * low.2 && k * high.2 < high.1

/-- The multiple of `10^e` that rounds to the number, if there is one: the nearer of its two
neighbours, and of two equally near the even one. -/
def Binary.nearestOn (b : Binary) (e : Int) : Option Scientific :=
  let value := quartersOver b e (4 * b.mantissa)
  let below := value.1 / value.2
  let twiceRest := 2 * (value.1 % value.2)
  let lower := 0 < below && b.admits below e
  let upper := b.admits (below + 1) e
  if lower && upper then
    if twiceRest < value.2 ∨ (twiceRest = value.2 ∧ below % 2 = 0) then some ⟨below, e⟩
    else some ⟨below + 1, e⟩
  else if lower then some ⟨below, e⟩
  else if upper then some ⟨below + 1, e⟩
  else none

def firstGrid (b : Binary) : Nat → Int → Scientific
  | 0, e => ⟨b.mantissa, e⟩
  | n + 1, e =>
    match b.nearestOn e with
    | some found => found
    | none => firstGrid b n (e - 1)

/-- A power of ten above the number, at most a few places above its leading digit. -/
def gridCeiling (b : Binary) : Int :=
  ((Nat.log2 b.mantissa : Int) + b.exponent) * 30103 / 100000 + 2

/-- The shortest decimal that reads back to the number. Seventeen digits always suffice, so the
search ends well within its thirty steps. -/
def Binary.shortest (b : Binary) : Scientific := firstGrid b 30 (gridCeiling b)

/-- How the text of a floating-point number is laid out: between two exponents of the leading digit
in positional notation, always with a fraction, and beyond them with an exponent. -/
structure Layout where
  leastPositional : Int
  greatestPositional : Int

/-- Digits with a point after the first `whole` of them. -/
def pointAfter (whole : Nat) (ds : List Char) : List Char :=
  ds.take whole ++ '.' :: ds.drop whole

def Scientific.chars (layout : Layout) (s : Scientific) : List Char :=
  let ds := natChars s.significand
  let lead := s.exponent + ds.length - 1
  if layout.leastPositional ≤ lead ∧ lead ≤ layout.greatestPositional then
    if lead < 0 then '0' :: '.' :: (List.replicate ((-lead).toNat - 1) '0' ++ ds)
    else
      let whole := lead.toNat + 1
      if ds.length ≤ whole then ds ++ List.replicate (whole - ds.length) '0' ++ ['.', '0']
      else pointAfter whole ds
  else
    let significand := if ds.length = 1 then ds else pointAfter 1 ds
    let sign := if lead < 0 then '-' else '+'
    significand ++ 'e' :: sign :: natChars lead.natAbs

end Switchboard.Decimal
