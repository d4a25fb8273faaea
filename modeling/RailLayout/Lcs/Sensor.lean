import RailLayout.Lcs.Report

/-!
The sensor track. It reads the beacon of a passing engine and reports it, with a block on the product where
the board knows one, and may fire a sequence at the engine.
-/

namespace RailLayout

/-- The loco filter that lets any engine through. -/
def anyLoco : UInt8 := 255

/-- What a sensor track fires at a passing engine; the first part is for one direction, the second for the
other. -/
inductive Sequence where
  | none
  | crossingGateNone
  | noneCrossingGate
  | bellNone
  | noneBell
  | journeyBeginJourneyEnd
  | journeyEndJourneyBegin
  | slowSpeedNormalSpeed
  | normalSpeedSlowSpeed
  | recording
  deriving DecidableEq

namespace Sequence

/-- Every sequence, in the order of their bytes. -/
def all : List Sequence :=
  [none, crossingGateNone, noneCrossingGate, bellNone, noneBell, journeyBeginJourneyEnd,
   journeyEndJourneyBegin, slowSpeedNormalSpeed, normalSpeedSlowSpeed, recording]

def byte : Sequence → UInt8
  | none => 0
  | crossingGateNone => 1
  | noneCrossingGate => 2
  | bellNone => 3
  | noneBell => 4
  | journeyBeginJourneyEnd => 5
  | journeyEndJourneyBegin => 6
  | slowSpeedNormalSpeed => 7
  | normalSpeedSlowSpeed => 8
  | recording => 9

def name : Sequence → String
  | none => "None"
  | crossingGateNone => "CrossingGateNone"
  | noneCrossingGate => "NoneCrossingGate"
  | bellNone => "BellNone"
  | noneBell => "NoneBell"
  | journeyBeginJourneyEnd => "JourneyBeginJourneyEnd"
  | journeyEndJourneyBegin => "JourneyEndJourneyBegin"
  | slowSpeedNormalSpeed => "SlowSpeedNormalSpeed"
  | normalSpeedSlowSpeed => "NormalSpeedSlowSpeed"
  | recording => "Recording"

def ofByte (byte : UInt8) : Except Error Sequence :=
  match all.find? fun s => s.byte == byte with
  | some s => .ok s
  | Option.none => .error (.protocol (.unknownSequence byte))

end Sequence

/-- What the sequence recorder is doing, by its byte. -/
def recorderLabel (byte : UInt8) : String :=
  if byte = 0 then "No Recording"
  else if byte = 1 then "Idle"
  else if byte = 2 then "Playback..."
  else if byte = 3 then "Armed..."
  else if byte = 4 then "Recording..."
  else "NA"

def productLabel (byte : UInt8) : String :=
  ["NA", "NA", "Diesel", "Diesel Switcher", "Steam", "Steam Switcher", "Subway", "Electric", "Acela",
   "Pullmor Diesel", "Pullmor Steam", "Breakdown", "Track Crane", "Accessory", "Stock Car",
   "Passenger Car"].getD byte.toNat "NA"

/-- The configuration of a sensor track. -/
structure SensorConfig where
  tmccId : UInt8
  debug : UInt8
  sequence : Sequence
  /-- The engine to fire at when it goes right to left. -/
  locoRightLeft : UInt8
  /-- The engine to fire at when it goes left to right. -/
  locoLeftRight : UInt8
  deriving DecidableEq

namespace SensorConfig

/-- Read a configuration; a filter that is missing lets any engine through. -/
def read : Read SensorConfig := do
  let header ← ConfigHeader.read
  let sequence ← Read.check (Sequence.ofByte header.mode)
  let locoRightLeft ← Read.byte?
  let locoLeftRight ← Read.byte?
  return ⟨header.tmccId, header.debug, sequence, locoRightLeft.getD anyLoco, locoLeftRight.getD anyLoco⟩

def encode (c : SensorConfig) : List UInt8 :=
  (⟨c.tmccId, c.debug, c.sequence.byte⟩ : ConfigHeader).encode ++ [c.locoRightLeft, c.locoLeftRight]

end SensorConfig

/-- What a sensor track knows of a passing product. -/
structure Product where
  runtime : UInt16
  prodRev : UInt8
  prodId : UInt8
  btId : UInt16
  /-- The year of manufacture in full, zero if it is not known. -/
  year : UInt16
  name : String
  number : String
  tsdbLeft : UInt8
  tsdbRight : UInt8
  maxSpeed : UInt8
  odometer : UInt32
  deriving DecidableEq

namespace Product

def size : Nat := 53

def nameWidth : Nat := 33

def numberWidth : Nat := 5

/-- The year that two characters mean, from 2000 on; characters that are no number mean none. -/
def readYear (digits : List UInt8) : UInt16 :=
  match Numeral.word? (Text.trim (Utf8.decode digits)) with
  | some y => 2000 + y
  | none => 0

/-- A year as two digits; a year before 2000 is sent as none. -/
def encodeYear (year : UInt16) : List UInt8 :=
  if 2000 ≤ year then
    Utf8.encode (String.ofList (Numeral.fixedDigits 2 ((year.toNat - 2000) % 100)))
  else [0, 0]

def read : Read Product := do
  let runtime ← Read.le16
  let prodRev ← Read.byte
  let prodId ← Read.byte
  let btId ← Read.le16
  let digits ← Read.bytes 2
  Read.skip 1
  let name ← Read.text nameWidth
  let number ← Read.text numberWidth
  let tsdbLeft ← Read.byte
  let tsdbRight ← Read.byte
  let maxSpeed ← Read.byte
  let odometer ← Read.le24
  return ⟨runtime, prodRev, prodId, btId, readYear digits, name, number, tsdbLeft, tsdbRight, maxSpeed,
    odometer⟩

def encode (p : Product) : List UInt8 :=
  Payload.le16 p.runtime ++ [p.prodRev, p.prodId] ++ Payload.le16 p.btId ++ encodeYear p.year ++ [0] ++
    TextField.write nameWidth p.name ++ TextField.write numberWidth p.number ++
    [p.tsdbLeft, p.tsdbRight, p.maxSpeed] ++ Payload.le24 p.odometer

end Product

/-- An engine passing a sensor track. -/
structure Sighting where
  valid1 : UInt16
  valid2 : UInt16
  /-- Zero from right to left, one from left to right. -/
  dir : UInt8
  engineId : UInt8
  trainId : UInt8
  status : UInt8
  fuel : UInt8
  water : UInt8
  burn : UInt8
  fwbMask : UInt8
  product : Option Product
  deriving DecidableEq

namespace Sighting

def direction (s : Sighting) : Direction :=
  if s.dir = 0 then .rightToLeft else if s.dir = 1 then .leftToRight else .unknown

/-- Read a sighting; the product block is there if there is room for it. -/
def read : Read Sighting := do
  let valid1 ← Read.le16
  let valid2 ← Read.le16
  let dir ← Read.byte
  let engineId ← Read.byte
  let trainId ← Read.byte
  let status ← Read.byte
  let fuel ← Read.byte
  let water ← Read.byte
  let burn ← Read.byte
  let fwbMask ← Read.byte
  let left ← Read.remaining
  let product ← if Product.size ≤ left then some <$> Product.read else pure none
  return ⟨valid1, valid2, dir, engineId, trainId, status, fuel, water, burn, fwbMask, product⟩

def encode (s : Sighting) : List UInt8 :=
  Payload.le16 s.valid1 ++ Payload.le16 s.valid2 ++
    [s.dir, s.engineId, s.trainId, s.status, s.fuel, s.water, s.burn, s.fwbMask] ++
    match s.product with
    | some p => p.encode
    | none => []

end Sighting

/-- What a sensor track is told or reports, apart from what is common to all boards. -/
inductive SensorReport where
  | data (sighting : Sighting)
  | sequence (sequence : Sequence)
  /-- What the sequence recorder is doing, by its byte. -/
  | record (status : UInt8)
  /-- A diagnostic dump, taken as it is. -/
  | diagData (bytes : List UInt8)
  deriving DecidableEq

namespace SensorReport

def read : SensorAction → Read SensorReport
  | .data => do return .data (← Sighting.read)
  | .sequence => do return .sequence (← Read.check (Sequence.ofByte (← Read.byte)))
  | .record => do return .record (← Read.byte)
  | .diagData => do return .diagData (← Read.rest)

def encode : SensorReport → List UInt8
  | data s => s.encode
  | sequence s => [s.byte]
  | record status => [status]
  | diagData bytes => bytes

end SensorReport
end RailLayout
