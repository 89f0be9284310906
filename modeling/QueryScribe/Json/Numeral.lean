import QueryScribe.Decimal.Shortest

/-!
# Numerals

A number as it stands in a text. Whole numbers that fit into 64 bits are kept exactly; every other
number is kept as a binary fraction. To find it, the leading digits that fit into 64 bits are scaled
by a power of ten, with a rounding at each of the two steps.
-/

namespace QueryScribe.Json

open Decimal

/-- A number by its sign and its digits before and after the point. -/
structure Numeral where
  negative : Bool
  whole : List Nat
  fraction : Option (List Nat)
  exponent : Option Int
  deriving Repr, DecidableEq

/-- What a number is kept as. -/
inductive Number
  | integer (value : Int)
  | floating (negative : Bool) (magnitude : Binary)
  deriving Repr, DecidableEq

namespace Numeral

/-- Appends digits to a number as long as it fits into 64 bits. Also gives how many are left. -/
def absorb (number : Nat) : List Nat → Nat × Nat
  | [] => (number, 0)
  | digit :: digits =>
    let longer := number * 10 + digit
    if longer < Nat.pow 2 64 then absorb longer digits else (number, digits.length + 1)

/-- The leading digits of a numeral as one number, and the power of ten that belongs to it. -/
def leading (numeral : Numeral) : Nat × Int :=
  let (number, wholeLeft) := absorb 0 numeral.whole
  let fraction := numeral.fraction.getD []
  let (number, fractionLeft) := absorb number fraction
  (number, Int.ofNat wholeLeft - Int.ofNat (fraction.length - fractionLeft)
    + numeral.exponent.getD 0)

/-- Divides by powers of ten of at most 308 places each, at most `steps` times. -/
def scaleDown? : Nat → Binary → Nat → Option Binary
  | 0, x, _ => some x
  | steps + 1, x, places =>
    if x.digits = 0 then some x
    else if places ≤ 308 then do x.div? (← Binary.powerOfTen? places)
    else do scaleDown? steps (← x.div? (← Binary.powerOfTen? 308)) (places - 308)

/-- A number times a power of ten, unless that is too large. After three divisions by `10 ^ 308`
nothing is left of any number. -/
def scale? (x : Binary) : Int → Option Binary
  | .ofNat places =>
    if x.digits = 0 then some x
    else if places ≤ 308 then do x.mul? (← Binary.powerOfTen? places)
    else none
  | .negSucc n => scaleDown? 4 x (n + 1)

/-- The numeral as a binary fraction. -/
def floating? (numeral : Numeral) : Option Number := do
  let (number, exponent) := numeral.leading
  let magnitude ← scale? (← Binary.ofRatio? number 1) exponent
  return .floating numeral.negative magnitude

/-- The numeral's value as a whole number, if it is written as one and fits into 64 bits. There is
no negative zero among whole numbers. -/
def integer? (numeral : Numeral) : Option Int :=
  match numeral.fraction, numeral.exponent, absorb 0 numeral.whole with
  | none, none, (number, 0) =>
    if !numeral.negative then some number
    else if 0 < number && number ≤ Nat.pow 2 63 then some (-number)
    else none
  | _, _, _ => none

/-- What the numeral is kept as, unless it is out of range. -/
def number? (numeral : Numeral) : Option Number :=
  match numeral.integer? with
  | some value => some (.integer value)
  | none => numeral.floating?

end Numeral

/-- The number with its kind, as messages name it. -/
def Number.description : Number → String
  | integer value => "integer `" ++ toString value ++ "`"
  | floating negative magnitude =>
    "floating point `" ++ (if negative then "-" else "") ++ magnitude.text ++ "`"

end QueryScribe.Json
