import EventLoop.Decimal.Numeral

/-! # Fixed-point text of binary numbers

    A finite binary number is a sign, a whole number and a power of two. It is written with
    one decimal place, from its exact value; a value half way between two texts goes to the
    even one. -/

namespace EventLoop.Decimal

/-- The nearest whole number to a quotient; a half goes to the even neighbour. -/
def roundDiv (numerator denominator : Nat) : Nat :=
  let quotient := numerator / denominator
  let twice := 2 * (numerator % denominator)
  if twice < denominator then quotient
  else if twice > denominator then quotient + 1
  else if quotient % 2 = 0 then quotient else quotient + 1

/-- A finite binary number: the sign, and `significand * 2 ^ exponent`. -/
structure Binary where
  negative : Bool
  significand : Nat
  exponent : Int
  deriving DecidableEq, Repr

namespace Binary

/-- The number whose double-precision form has the given bits: one sign bit, eleven of the exponent,
    fifty-two of the fraction. -/
def ofBits (bits : UInt64) : Binary :=
  let n := bits.toNat
  let fraction : Nat := n % 1 <<< 52
  let biased : Nat := n >>> 52 % 1 <<< 11
  let negative := n >>> 63 == 1
  if biased = 0 then ⟨negative, fraction, -1074⟩
  else ⟨negative, fraction + 1 <<< 52, biased - 1075⟩

/-- The magnitude in tenths, to the nearest. -/
def tenths (x : Binary) : Nat :=
  if 0 ≤ x.exponent then 10 * x.significand <<< x.exponent.toNat
  else roundDiv (10 * x.significand) (1 <<< (-x.exponent).toNat)

/-- The text with one decimal place; the sign stays also in front of zero. -/
def text (x : Binary) : String :=
  let t := x.tenths
  (if x.negative then "-" else "") ++ toString (t / 10) ++ "." ++ toString (t % 10)

end Binary

end EventLoop.Decimal
