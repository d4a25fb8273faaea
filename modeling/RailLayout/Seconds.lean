/-!
Seconds in single precision, and the rate at which a route throws its switches. A number of seconds is a sign
and a multiple of the least positive single-precision number, so that it can be compared, halved and written
exactly.
-/

namespace RailLayout

/-- The quotient rounded to the nearest number, a half to the even neighbour. -/
def roundHalfEven (numerator denominator : Nat) : Nat :=
  let quotient := numerator / denominator
  let twice := 2 * (numerator % denominator)
  if twice < denominator ∨ (twice = denominator ∧ quotient % 2 = 0) then quotient else quotient + 1

/-- The quotient rounded to at most `digits` binary digits, with no digit below the unit. -/
def roundBinary (digits numerator denominator : Nat) : Nat :=
  let scale := Nat.pow 2 ((numerator / denominator).log2 + 1 - digits)
  roundHalfEven numerator (denominator * scale) * scale

/-- A single-precision number of seconds. -/
structure Seconds where
  negative : Bool
  /-- The magnitude in multiples of `2^-149`. -/
  units : Nat
  deriving DecidableEq

namespace Seconds

def one : Nat := Nat.pow 2 149

/-- The units from which on a magnitude counts as infinite. -/
def infinite : Nat := Nat.pow 2 277

/-- The number `±numerator / denominator`, read in double precision and then brought to single precision. -/
def ofRatio (negative : Bool) (numerator denominator : Nat) : Seconds :=
  let double := roundBinary 53 (numerator * Nat.pow 2 1074) denominator
  ⟨negative, min infinite (roundBinary 24 double (Nat.pow 2 925))⟩

def ofQuarters (n : Nat) : Seconds := ⟨false, n * (one / 4)⟩

/-- The number with two decimals; an exact half goes to the even neighbour. -/
def text (s : Seconds) : String :=
  let sign := if s.negative then "-" else ""
  if infinite ≤ s.units then sign ++ "inf"
  else
    let hundredths := roundHalfEven (s.units * 100) one
    let cents := hundredths % 100
    sign ++ toString (hundredths / 100) ++ "." ++ (if cents < 10 then "0" else "") ++ toString cents

/-- The greatest throw rate byte, which stands for two seconds. -/
def slowest : UInt8 := 9

/-- The throw rate that a byte means, in steps of a quarter of a second from zero. -/
def ofThrowRate? (byte : UInt8) : Option Seconds :=
  if 1 ≤ byte ∧ byte ≤ slowest then some (ofQuarters (byte.toNat - 1)) else none

/-- The byte of a throw rate; a time that is negative or not below two seconds counts as two. -/
def throwRate (s : Seconds) : UInt8 :=
  if (s.negative = false ∨ s.units = 0) ∧ s.units < 2 * one then (4 * s.units / one + 1).toUInt8
  else slowest

end Seconds
end RailLayout
