import EventLoop.Bytes

/-! # Decimal numerals

    The digits of a number and the readers of numerals. A plain numeral is a non-empty
    string of ASCII digits; leading zeros are allowed. A numeral of an integer type may
    carry a sign, and a value out of the type's range is refused, never wrapped. -/

namespace EventLoop.Decimal

/-- The digits of a number, most significant first, without leading zeros. -/
def digits (n : Nat) : List Char := Nat.toDigits 10 n

/-- The value of a string of digits. -/
def value (cs : List Char) : Nat := cs.foldl (fun n c => 10 * n + (c.toNat - '0'.toNat)) 0

/-- Read a plain numeral: ASCII digits only, and at least one. -/
def readNat? (cs : List Char) : Option Nat :=
  if cs ≠ [] ∧ cs.all Char.isDigit then some (value cs) else none

/-- Read a plain numeral whose value is at most `limit`. -/
def readUpTo? (limit : Nat) (cs : List Char) : Option Nat :=
  (readNat? cs).filter (· ≤ limit)

/-- The values of an integer type: all from `lowest` to `highest`. -/
structure IntRange where
  lowest : Int
  highest : Int
  deriving DecidableEq, Repr

namespace IntRange

/-- Unsigned words of 64 bits. -/
def word : IntRange := ⟨0, maxWord⟩

/-- Unsigned bytes. -/
def byte : IntRange := ⟨0, 255⟩

/-- Signed integers of 32 bits. -/
def int32 : IntRange := ⟨Int32.minValue.toInt, Int32.maxValue.toInt⟩

/-- Signed integers of 64 bits. -/
def int64 : IntRange := ⟨Int64.minValue.toInt, Int64.maxValue.toInt⟩

/-- The type has negative values, so that a minus sign may stand in front. -/
def isSigned (r : IntRange) : Bool := decide (r.lowest < 0)

/-- The number lies in the range. -/
def holds (r : IntRange) (n : Int) : Bool := decide (r.lowest ≤ n ∧ n ≤ r.highest)

end IntRange

/-- Read a numeral with an optional plus sign, or a minus sign where the type has one. -/
def readInt? (r : IntRange) (cs : List Char) : Option Int :=
  let number : Option Int :=
    match cs with
    | '+' :: rest => (readNat? rest).map Int.ofNat
    | '-' :: rest => if r.isSigned then (readNat? rest).map (fun n => -Int.ofNat n) else none
    | _ => (readNat? cs).map Int.ofNat
  number.filter r.holds

end EventLoop.Decimal
