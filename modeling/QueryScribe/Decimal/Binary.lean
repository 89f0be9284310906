/-!
# Binary fractions of 53 digits

A number as a machine keeps it: a whole number of at most 53 binary digits times a power of two.
Results that do not fit are rounded to the nearest such number, a tie going to the even one. Numbers
are not negative here; signs are kept by whoever needs them.
-/

namespace QueryScribe.Decimal

/-- The number `digits * 2 ^ exponent`. -/
structure Binary where
  digits : Nat
  exponent : Int
  deriving Repr, DecidableEq

namespace Binary

/-- The smallest exponent. Below it, digits are lost. -/
def minExponent : Int := -1074

/-- The largest exponent. Above it, numbers have no binary fraction. -/
def maxExponent : Int := 971

/-- The ratio that a number stands for. -/
def ratio (x : Binary) : Nat × Nat :=
  (x.digits * Nat.pow 2 x.exponent.toNat, Nat.pow 2 (-x.exponent).toNat)

/-- The whole number nearest to a ratio; a tie goes to the even one. -/
def roundRatio (num den : Nat) : Nat :=
  let quotient := num / den
  let twice := 2 * (num % den)
  if twice > den || twice = den && quotient % 2 = 1 then quotient + 1 else quotient

/-- A ratio divided by a power of two, as a ratio. -/
def scaleDown (num den : Nat) (exponent : Int) : Nat × Nat :=
  (num * Nat.pow 2 (-exponent).toNat, den * Nat.pow 2 exponent.toNat)

/-- The exponent that leaves 53 digits before the point of a ratio. -/
def exponentOf (num den : Nat) : Int :=
  let guess : Int := Int.ofNat num.log2 - Int.ofNat den.log2 - 53
  let (n, d) := scaleDown num den guess
  max minExponent (if n / d < Nat.pow 2 53 then guess else guess + 1)

/-- The binary fraction nearest to a ratio, unless it is too large for one. -/
def ofRatio? (num den : Nat) : Option Binary :=
  if num = 0 then some ⟨0, minExponent⟩
  else
    let exponent := exponentOf num den
    let (n, d) := scaleDown num den exponent
    let digits := roundRatio n d
    let rounded : Binary :=
      if digits < Nat.pow 2 53 then ⟨digits, exponent⟩ else ⟨Nat.pow 2 52, exponent + 1⟩
    if rounded.exponent > maxExponent then none else some rounded

/-- The rounded product of two numbers. -/
def mul? (x y : Binary) : Option Binary :=
  ofRatio? (x.ratio.1 * y.ratio.1) (x.ratio.2 * y.ratio.2)

/-- The rounded quotient of two numbers, the second of which is not zero. -/
def div? (x y : Binary) : Option Binary :=
  ofRatio? (x.ratio.1 * y.ratio.2) (x.ratio.2 * y.ratio.1)

/-- The number nearest to a power of ten. -/
def powerOfTen? (n : Nat) : Option Binary :=
  ofRatio? (Nat.pow 10 n) 1

end Binary

end QueryScribe.Decimal
