import RailLayout.Record.Motive

/-!
The Base's records of accessories, switches and routes. A route's record lists the switches that it throws.
-/

namespace RailLayout

/-- One switch of a route, with the way it is thrown. -/
structure RouteStep where
  word : UInt16
  deriving DecidableEq

namespace RouteStep

def ofSwitch (switch : UInt8) (thrown : Bool) : RouteStep :=
  ⟨(switch &&& 0x7F).toUInt16 ||| (if thrown then 0x0100 else 0)⟩

def switch (s : RouteStep) : UInt8 := (s.word &&& 0x7F).toUInt8

def isThrown (s : RouteStep) : Bool := s.word &&& 0x0300 != 0

end RouteStep

/-- What a record says of an accessory, a switch or a route. -/
structure FixtureRecord where
  reverseLink : Option UInt8
  forwardLink : Option UInt8
  name : Option String
  number : Option String
  /-- Routes only. -/
  route : List RouteStep
  deriving DecidableEq

namespace FixtureRecord

/-- The greatest number of steps in a record. -/
def maxSteps : Nat := 16

def isUsed (r : FixtureRecord) : Bool :=
  RecordLayout.isUsed r.reverseLink r.forwardLink r.name r.number

/-- The first `n` steps among words; a word of zeros or ones only is no step. -/
def stepsOf : Nat → List UInt8 → List RouteStep
  | n + 1, b0 :: b1 :: rest =>
    let word := Payload.word b1 b0
    if word = 0xFFFF ∨ word = 0 then stepsOf (n + 1) rest else ⟨word⟩ :: stepsOf n rest
  | _, _ => []

/-- Read a record; only the record of a route in use lists steps. -/
def read (kind : FixtureKind) : Read FixtureRecord := do
  let reverseLink ← Read.byte?
  let forwardLink ← Read.byte?
  let name ← Read.textUpTo? RecordLayout.nameWidth
  let number ← Read.textUpTo? RecordLayout.numberWidth
  let rest ← Read.rest
  let steps :=
    if kind = .route ∧ RecordLayout.isUsed reverseLink forwardLink name number = true then
      stepsOf maxSteps rest
    else []
  return ⟨reverseLink, forwardLink, name, number, steps⟩

def encode (r : FixtureRecord) : List UInt8 :=
  RecordLayout.encodeHead r.reverseLink r.forwardLink r.name r.number ++
    (r.route.take maxSteps).flatMap fun step => Payload.be16 step.word

end FixtureRecord
end RailLayout
