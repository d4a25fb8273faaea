import RailLayout.Record.Motive
import RailLayout.Seconds

/-!
The Base's record of itself.
-/

namespace RailLayout

/-- What the Base says of itself. -/
structure BaseRecord where
  firmwareHigh : Option UInt8
  firmwareLow : Option UInt8
  /-- How fast a route throws its switches. -/
  throwRate : Option Seconds
  name : Option String
  deriving DecidableEq

namespace BaseRecord

/-- The throw rate written where none is known. -/
def defaultThrowRate : Seconds := Seconds.ofQuarters 8

/-- Read a record; the name takes all that is left. -/
def read : Read BaseRecord := do
  let firmwareHigh ← Read.byte?
  let firmwareLow ← Read.byte?
  let rate ← Read.byte?
  let rest ← Read.rest
  let name := if rest.isEmpty then none else some (TextField.read rest)
  return ⟨firmwareHigh, firmwareLow, rate.bind Seconds.ofThrowRate?, name⟩

def encode (r : BaseRecord) : List UInt8 :=
  [r.firmwareHigh.getD 0, r.firmwareLow.getD 0, (r.throwRate.getD defaultThrowRate).throwRate] ++
    TextField.write RecordLayout.nameWidth (r.name.getD "")

/-- The firmware version, with a point between its parts. -/
def firmware? (r : BaseRecord) : Option String :=
  match r.firmwareHigh, r.firmwareLow with
  | some high, some low => some (toString high.toNat ++ "." ++ toString low.toNat)
  | _, _ => none

end BaseRecord
end RailLayout
