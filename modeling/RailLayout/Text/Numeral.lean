/-!
Numerals as the wire and the messages write them: upper-case hexadecimal bytes, decimals padded with
zeros, and the reading of a decimal that has to fit sixteen bits.
-/

namespace RailLayout
namespace Numeral

/-- The upper-case hexadecimal digit of a value below sixteen. -/
def hexDigit (n : Nat) : Char :=
  if n < 10 then Char.ofNat ('0'.toNat + n) else Char.ofNat ('A'.toNat + (n - 10))

def hexByte (b : UInt8) : String :=
  String.ofList [hexDigit (b.toNat / 16), hexDigit (b.toNat % 16)]

/-- Bytes between brackets, separated by a comma and a blank. -/
def hexList (bytes : List UInt8) : String :=
  "[" ++ ", ".intercalate (bytes.map hexByte) ++ "]"

/-- The least significant `width` decimal digits of `n`, most significant first. -/
def fixedDigits : Nat → Nat → List Char
  | 0, _ => []
  | width + 1, n => fixedDigits width (n / 10) ++ [Char.ofNat ('0'.toNat + n % 10)]

/-- Decimal digits of `n`, with leading zeros up to `width`; a longer number keeps all its digits. -/
def padded (width n : Nat) : List Char :=
  if n < Nat.pow 10 width then fixedDigits width n else Nat.toDigits 10 n

def digit? (c : Char) : Option Nat :=
  if '0' ≤ c ∧ c ≤ '9' then some (c.toNat - '0'.toNat) else none

/-- The value of a run of decimal digits, read after a number already worth `value`. -/
def digitsFrom? (value : Nat) : List Char → Option Nat
  | [] => some value
  | c :: rest =>
    match digit? c with
    | some d => digitsFrom? (value * 10 + d) rest
    | none => none

/-- The value of a non-empty run of decimal digits. -/
def digits? : List Char → Option Nat
  | [] => none
  | cs => digitsFrom? 0 cs

/-- A sixteen-bit number in decimal, with an optional leading plus sign. -/
def word? (cs : List Char) : Option UInt16 :=
  let value := match cs with
    | '+' :: rest => digits? rest
    | _ => digits? cs
  match value with
  | some n => if n < 65536 then some n.toUInt16 else none
  | none => none

end Numeral
end RailLayout
