/-!
Between the scale of a command and the scale of the Base's records: labor is biased by twelve, and train brake
and momentum run from zero to seven in commands and over a wider range in records.
-/

namespace RailLayout
namespace Scale

/-- The quotient rounded to the nearest number, a half up. -/
def roundHalfUp (numerator denominator : Nat) : Nat :=
  (2 * numerator + denominator) / (2 * denominator)

/-- The labor of a command, from a record; labor wraps at thirty-two. -/
def laborFromRecord (raw : UInt8) : UInt8 :=
  if raw ≤ 19 then raw + 12 else raw - 20

/-- The labor of a record, from a command; a command's labor is at most thirty-one. -/
def laborToRecord (labor : UInt8) : UInt8 :=
  let bounded := min labor 31
  if 12 ≤ bounded then bounded - 12 else bounded + 20

/-- The train brake of a command, from a record. -/
def brakeFromRecord (raw : UInt8) : UInt8 :=
  (min 7 (roundHalfUp (4667 * raw.toNat) 10000)).toUInt8

/-- The train brake of a record, from a command. -/
def brakeToRecord (brake : UInt8) : UInt8 :=
  (min 15 (roundHalfUp (2143 * brake.toNat) 1000)).toUInt8

/-- The momentum of a command, from a record. -/
def momentumFromRecord (raw : UInt8) : UInt8 :=
  (min 7 (roundHalfUp (5512 * raw.toNat) 100000)).toUInt8

/-- The momentum of a record, from a command. -/
def momentumToRecord (momentum : UInt8) : UInt8 :=
  (min 127 (roundHalfUp (1814 * momentum.toNat) 100)).toUInt8

end Scale
end RailLayout
