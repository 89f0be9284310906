import QueryScribe.Decimal.Binary

/-!
# Shortest decimal text

A binary fraction is written with the fewest decimal digits that still read back as the same number;
among those, with the ones nearest to it.
-/

namespace QueryScribe.Decimal

open Binary

/-- The ends of the interval of numbers that round to `x`, and a number to divide all three by. -/
structure Neighbourhood where
  low : Nat
  value : Nat
  high : Nat
  den : Nat
  closed : Bool

/-- The neighbourhood of a number. It reaches half way to the numbers on either side, which are
closer below a power of two; its ends belong to it when the last digit is even. -/
def neighbourhood (x : Binary) : Neighbourhood :=
  let narrow := x.digits = Nat.pow 2 52 && x.exponent > minExponent
  let (num, den) := ratio ⟨1, x.exponent - 2⟩
  { low := (4 * x.digits - if narrow then 1 else 2) * num
    value := 4 * x.digits * num
    high := (4 * x.digits + 2) * num
    den := den
    closed := x.digits % 2 = 0 }

/-- Whether the decimal `digits * 10 ^ exponent` lies in the neighbourhood. -/
def Neighbourhood.holds (hood : Neighbourhood) (digits : Nat) (exponent : Int) : Bool :=
  let point := digits * Nat.pow 10 exponent.toNat * hood.den
  let unit := Nat.pow 10 (-exponent).toNat
  let low := hood.low * unit
  let high := hood.high * unit
  if hood.closed then low ≤ point && point ≤ high else low < point && point < high

/-- The digits in the neighbourhood at a decimal exponent: of the whole numbers on either side of
the value the nearer one, and the upper one in a tie. -/
def Neighbourhood.digitsAt? (hood : Neighbourhood) (exponent : Int) : Option Nat :=
  let num := hood.value * Nat.pow 10 (-exponent).toNat
  let den := hood.den * Nat.pow 10 exponent.toNat
  let below := num / den
  let upperNearer := 2 * (num % den) ≥ den
  match hood.holds below exponent, hood.holds (below + 1) exponent with
  | true, true => some (if upperNearer then below + 1 else below)
  | true, false => some below
  | false, true => some (below + 1)
  | false, false => none

/-- The first hit among `count` exponents that descend from `exponent`. -/
def Neighbourhood.search (hood : Neighbourhood) (exponent : Int) : Nat → Nat × Int
  | 0 => (0, 0)
  | count + 1 =>
    match hood.digitsAt? exponent with
    | some digits => (digits, exponent)
    | none => hood.search (exponent - 1) count

/-- The digits and the decimal exponent of the shortest text of a number. No binary fraction reaches
`10 ^ 309`, and none is finer than `10 ^ -1074`. -/
def shortest (x : Binary) : Nat × Int :=
  if x.digits = 0 then (0, 0) else (neighbourhood x).search 309 1400

/-- `digits * 10 ^ exponent` with all its places written out, and at least one after the point. -/
def positional (digits : Nat) (exponent : Int) : String :=
  match exponent with
  | .ofNat n => toString (digits * Nat.pow 10 n) ++ ".0"
  | .negSucc n =>
    let places := n + 1
    let fraction := toString (digits % Nat.pow 10 places)
    toString (digits / Nat.pow 10 places) ++ "." ++ "".pushn '0' (places - fraction.length) ++ fraction

/-- The shortest text of a number. -/
def Binary.text (x : Binary) : String :=
  let (digits, exponent) := shortest x
  positional digits exponent

end QueryScribe.Decimal
