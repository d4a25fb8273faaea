import RailLayout.Consist
import RailLayout.Scope
import RailLayout.Text.Quoted

/-!
The named fields of an engine's or train's memory record, and the values they hold. Values are on the scale of
the Base.
-/

namespace RailLayout

/-- The named fields of a motive memory record. -/
inductive MemoryField where
  | prevLink
  | nextLink
  | btId
  | speed
  | targetSpeed
  | trainBrake
  /-- Engine speed in the three lowest bits, labor above. -/
  | rpmLabor
  | momentum
  | roadName
  | roadNumberLen
  | roadNumber
  | engineType
  | controlType
  | soundType
  | engineClass
  | tsdbLeft
  | tsdbRight
  | smoke
  | speedLimit
  | maxSpeed
  | consistFlags
  | consistComps
  | tmccId
  | timestamp
  deriving DecidableEq

namespace MemoryField

/-- The fields of engines and trains alike, by offset. -/
def motive : List MemoryField :=
  [prevLink, nextLink, btId, speed, targetSpeed, trainBrake, rpmLabor, momentum, roadName, roadNumberLen,
   roadNumber, engineType, controlType, soundType, engineClass, tsdbLeft, tsdbRight, smoke, speedLimit,
   maxSpeed, tmccId, timestamp]

def all : List MemoryField := motive ++ [consistFlags, consistComps]

def offset : MemoryField → UInt32
  | prevLink => 0x00
  | nextLink => 0x01
  | btId => 0x04
  | speed => 0x07
  | targetSpeed => 0x08
  | trainBrake => 0x09
  | rpmLabor => 0x0C
  | momentum => 0x18
  | roadName => 0x1F
  | roadNumberLen => 0x3E
  | roadNumber => 0x3F
  | engineType => 0x43
  | controlType => 0x44
  | soundType => 0x45
  | engineClass => 0x46
  | tsdbLeft => 0x59
  | tsdbRight => 0x5B
  | smoke => 0x69
  | speedLimit => 0x6A
  | maxSpeed => 0x6B
  | consistFlags => 0x6F
  | consistComps => 0x70
  | tmccId => 0xB8
  | timestamp => 0xBC

def size : MemoryField → Nat
  | btId => 2
  | roadName => 31
  | roadNumber => 4
  | tmccId => 4
  | timestamp => 4
  | consistComps => 32
  | _ => 1

def name : MemoryField → String
  | prevLink => "PrevLink"
  | nextLink => "NextLink"
  | btId => "BtId"
  | speed => "Speed"
  | targetSpeed => "TargetSpeed"
  | trainBrake => "TrainBrake"
  | rpmLabor => "RpmLabor"
  | momentum => "Momentum"
  | roadName => "RoadName"
  | roadNumberLen => "RoadNumberLen"
  | roadNumber => "RoadNumber"
  | engineType => "EngineType"
  | controlType => "ControlType"
  | soundType => "SoundType"
  | engineClass => "EngineClass"
  | tsdbLeft => "TsdbLeft"
  | tsdbRight => "TsdbRight"
  | smoke => "Smoke"
  | speedLimit => "SpeedLimit"
  | maxSpeed => "MaxSpeed"
  | consistFlags => "ConsistFlags"
  | consistComps => "ConsistComps"
  | tmccId => "TmccId"
  | timestamp => "Timestamp"

/-- Whether only records of the four-digit databases have the field. -/
def isFourDigitOnly : MemoryField → Bool
  | tmccId => true
  | timestamp => true
  | _ => false

/-- The fields of a kind's record; only trains have a consist, and only engines and trains have fields. -/
def ofScope (scope : Scope) : List MemoryField :=
  (if scope.isMotive then motive else []) ++
    (if scope = .train then [consistFlags, consistComps] else [])

/-- The field of a kind's record that starts at an offset. -/
def at? (scope : Scope) (offset : UInt32) : Option MemoryField :=
  (ofScope scope).find? fun field => field.offset == offset

end MemoryField

/-- What a memory field holds. -/
inductive MemoryValue where
  | byte (value : UInt8)
  | word (value : UInt16)
  | long (value : UInt32)
  | text (value : String)
  | consist (members : List ConsistMember)
  deriving DecidableEq

namespace MemoryValue

def byte? : MemoryValue → Option UInt8
  | byte value => some value
  | _ => none

def text? : MemoryValue → Option String
  | text value => some value
  | _ => none

def describe : MemoryValue → String
  | byte value => "Byte(" ++ toString value.toNat ++ ")"
  | word value => "Word(" ++ toString value.toNat ++ ")"
  | long value => "Long(" ++ toString value.toNat ++ ")"
  | text value => "Text(" ++ Text.quoted value ++ ")"
  | consist members => "Consist([" ++ ", ".intercalate (members.map ConsistMember.text) ++ "])"

end MemoryValue
end RailLayout
