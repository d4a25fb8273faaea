import RailLayout.Consist
import RailLayout.Payload.Reader
import RailLayout.Scale

/-!
The Base's record of an engine or a train. A field is known where the record holds it; a validity mask with one
bit for each of twenty-four fields says which of them mean anything.
-/

namespace RailLayout

/-- The fields of a motive record that have a validity bit. -/
inductive RecordField where
  | reverseLink
  | forwardLink
  | roadName
  | roadNumber
  | locoType
  | controlType
  | soundType
  | classType
  | tsdbLeft
  | tsdbRight
  | spare
  | speed
  | runLevel
  | laborBias
  | speedLimit
  | maxSpeed
  | fuelLevel
  | waterLevel
  | trainAddress
  | trainPosition
  | smokeLevel
  | ditchLight
  | trainBrake
  | momentum
  deriving DecidableEq

namespace RecordField

def all : List RecordField :=
  [reverseLink, forwardLink, roadName, roadNumber, locoType, controlType, soundType, classType, tsdbLeft,
   tsdbRight, spare, speed, runLevel, laborBias, speedLimit, maxSpeed, fuelLevel, waterLevel, trainAddress,
   trainPosition, smokeLevel, ditchLight, trainBrake, momentum]

def bit : RecordField → UInt8
  | reverseLink => 0
  | forwardLink => 1
  | roadName => 2
  | roadNumber => 3
  | locoType => 4
  | controlType => 5
  | soundType => 6
  | classType => 7
  | tsdbLeft => 8
  | tsdbRight => 9
  | spare => 10
  | speed => 11
  | runLevel => 12
  | laborBias => 13
  | speedLimit => 14
  | maxSpeed => 15
  | fuelLevel => 16
  | waterLevel => 17
  | trainAddress => 18
  | trainPosition => 19
  | smokeLevel => 20
  | ditchLight => 21
  | trainBrake => 22
  | momentum => 23

def name : RecordField → String
  | reverseLink => "ReverseLink"
  | forwardLink => "ForwardLink"
  | roadName => "RoadName"
  | roadNumber => "RoadNumber"
  | locoType => "LocoType"
  | controlType => "ControlType"
  | soundType => "SoundType"
  | classType => "ClassType"
  | tsdbLeft => "TsdbLeft"
  | tsdbRight => "TsdbRight"
  | spare => "Spare"
  | speed => "Speed"
  | runLevel => "RunLevel"
  | laborBias => "LaborBias"
  | speedLimit => "SpeedLimit"
  | maxSpeed => "MaxSpeed"
  | fuelLevel => "FuelLevel"
  | waterLevel => "WaterLevel"
  | trainAddress => "TrainAddress"
  | trainPosition => "TrainPosition"
  | smokeLevel => "SmokeLevel"
  | ditchLight => "DitchLight"
  | trainBrake => "TrainBrake"
  | momentum => "Momentum"

/-- The validity mask with the field's bit alone. -/
def mask (field : RecordField) : UInt32 := 1 <<< field.bit.toUInt32

end RecordField

/-! ## What the records of all components share -/

namespace RecordLayout

def nameWidth : Nat := 33

def numberWidth : Nat := 5

/-- The link of a record that is not in use. -/
def noLink : UInt8 := 0xFF

def newLink : UInt8 := 101

/-- A record without links, name and number is not in use. -/
def isUsed (reverseLink forwardLink : Option UInt8) (name number : Option String) : Bool :=
  !(reverseLink == some noLink && forwardLink == some noLink && name.getD "" == "" && number.getD "" == "")

def encodeHead (reverseLink forwardLink : Option UInt8) (name number : Option String) : List UInt8 :=
  [reverseLink.getD newLink, forwardLink.getD newLink] ++
    TextField.write nameWidth (name.getD "") ++ TextField.write numberWidth (number.getD "")

end RecordLayout

/-- What a record says of an engine or a train, on the scale of the Base. -/
structure MotiveRecord where
  reverseLink : Option UInt8
  forwardLink : Option UInt8
  name : Option String
  number : Option String
  locoType : Option UInt8
  controlType : Option UInt8
  soundType : Option UInt8
  classType : Option UInt8
  tsdbLeft : Option UInt8
  tsdbRight : Option UInt8
  spare : Option UInt8
  speed : Option UInt8
  runLevel : Option UInt8
  laborBias : Option UInt8
  speedLimit : Option UInt8
  maxSpeed : Option UInt8
  fuel : Option UInt8
  water : Option UInt8
  trainAddress : Option UInt8
  trainPosition : Option UInt8
  smoke : Option UInt8
  ditch : Option UInt8
  trainBrake : Option UInt8
  momentum : Option UInt8
  /-- Trains only. -/
  consistFlags : Option UInt8
  /-- Trains only. -/
  consist : List ConsistMember
  deriving DecidableEq

namespace MotiveRecord

def unknown : MotiveRecord where
  reverseLink := none
  forwardLink := none
  name := none
  number := none
  locoType := none
  controlType := none
  soundType := none
  classType := none
  tsdbLeft := none
  tsdbRight := none
  spare := none
  speed := none
  runLevel := none
  laborBias := none
  speedLimit := none
  maxSpeed := none
  fuel := none
  water := none
  trainAddress := none
  trainPosition := none
  smoke := none
  ditch := none
  trainBrake := none
  momentum := none
  consistFlags := none
  consist := []

/-- Read a record; a field after the end of the payload is not known. -/
def read (kind : MotiveKind) : Read MotiveRecord := do
  let reverseLink ← Read.byte?
  let forwardLink ← Read.byte?
  let name ← Read.textUpTo? RecordLayout.nameWidth
  let number ← Read.textUpTo? RecordLayout.numberWidth
  let locoType ← Read.byte?
  let controlType ← Read.byte?
  let soundType ← Read.byte?
  let classType ← Read.byte?
  let tsdbLeft ← Read.byte?
  let tsdbRight ← Read.byte?
  let spare ← Read.byte?
  let speed ← Read.byte?
  let runLevel ← Read.byte?
  let laborBias ← Read.byte?
  let speedLimit ← Read.byte?
  let maxSpeed ← Read.byte?
  let fuel ← Read.byte?
  let water ← Read.byte?
  let trainAddress ← Read.byte?
  let trainPosition ← Read.byte?
  let smoke ← Read.byte?
  let ditch ← Read.byte?
  let trainBrake ← Read.byte?
  let momentum ← Read.byte?
  let (consistFlags, consist) ← readConsist kind
  return {
    reverseLink, forwardLink, name, number, locoType, controlType, soundType, classType, tsdbLeft, tsdbRight
    spare, speed, runLevel, laborBias, speedLimit, maxSpeed, fuel, water, trainAddress, trainPosition, smoke
    ditch, trainBrake, momentum, consistFlags, consist }
where
  /-- The members at the end of a train's record. -/
  readConsist : MotiveKind → Read (Option UInt8 × List ConsistMember)
    | .engine => return (none, [])
    | .train => do
      let flags ← Read.byte?
      return (flags, Consist.read (← Read.rest))

/-- The fields of one byte after the number, in the order in which they travel. -/
def byteFields (r : MotiveRecord) : List (Option UInt8) :=
  [r.locoType, r.controlType, r.soundType, r.classType, r.tsdbLeft, r.tsdbRight, r.spare, r.speed, r.runLevel,
   r.laborBias, r.speedLimit, r.maxSpeed, r.fuel, r.water, r.trainAddress, r.trainPosition, r.smoke, r.ditch,
   r.trainBrake, r.momentum]

/-- The members at the end of a train's record, if anything is known of them. -/
def encodeConsist (r : MotiveRecord) : MotiveKind → List UInt8
  | .engine => []
  | .train =>
    if r.consistFlags = none ∧ r.consist = [] then []
    else r.consistFlags.getD 0 :: Consist.write Consist.slots r.consist

/-- The bytes of a record; a field that is not known is zero. -/
def encode (kind : MotiveKind) (r : MotiveRecord) : List UInt8 :=
  RecordLayout.encodeHead r.reverseLink r.forwardLink r.name r.number ++
    r.byteFields.map (·.getD 0) ++ r.encodeConsist kind

def has (r : MotiveRecord) : RecordField → Bool
  | .reverseLink => r.reverseLink.isSome
  | .forwardLink => r.forwardLink.isSome
  | .roadName => r.name.isSome
  | .roadNumber => r.number.isSome
  | .locoType => r.locoType.isSome
  | .controlType => r.controlType.isSome
  | .soundType => r.soundType.isSome
  | .classType => r.classType.isSome
  | .tsdbLeft => r.tsdbLeft.isSome
  | .tsdbRight => r.tsdbRight.isSome
  | .spare => r.spare.isSome
  | .speed => r.speed.isSome
  | .runLevel => r.runLevel.isSome
  | .laborBias => r.laborBias.isSome
  | .speedLimit => r.speedLimit.isSome
  | .maxSpeed => r.maxSpeed.isSome
  | .fuelLevel => r.fuel.isSome
  | .waterLevel => r.water.isSome
  | .trainAddress => r.trainAddress.isSome
  | .trainPosition => r.trainPosition.isSome
  | .smokeLevel => r.smoke.isSome
  | .ditchLight => r.ditch.isSome
  | .trainBrake => r.trainBrake.isSome
  | .momentum => r.momentum.isSome

/-- The validity mask with a bit for every known field. -/
def validMask (r : MotiveRecord) : UInt32 :=
  (RecordField.all.filter r.has).foldl (fun mask field => mask ||| field.mask) 0

def labor? (r : MotiveRecord) : Option UInt8 := r.laborBias.map Scale.laborFromRecord

def commandMomentum? (r : MotiveRecord) : Option UInt8 := r.momentum.map Scale.momentumFromRecord

/-- The train brake, on the scale of commands. -/
def commandTrainBrake? (r : MotiveRecord) : Option UInt8 := r.trainBrake.map Scale.brakeFromRecord

def isUsed (r : MotiveRecord) : Bool :=
  RecordLayout.isUsed r.reverseLink r.forwardLink r.name r.number

end MotiveRecord
end RailLayout
