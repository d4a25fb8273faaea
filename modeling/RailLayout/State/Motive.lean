import RailLayout.State.Profile

/-!
The state of an engine or a train. Both behave alike; a train takes Legacy commands only and may have members.
-/

namespace RailLayout

/-- The smoke levels of a Legacy engine; a TMCC engine knows the lowest and the highest. -/
inductive SmokeLevel where
  | off
  | low
  | medium
  | high
  deriving DecidableEq

namespace SmokeLevel

def name : SmokeLevel → String
  | off => "Off"
  | low => "Low"
  | medium => "Medium"
  | high => "High"

/-- The level that the byte of a record means. -/
def ofByte? (byte : UInt8) : Option SmokeLevel :=
  if byte = 0 then some off
  else if byte = 1 then some low
  else if byte = 2 then some medium
  else if byte = 3 then some high
  else none

/-- The byte of a level in a record. -/
def byte : SmokeLevel → UInt8
  | off => 0
  | low => 1
  | medium => 2
  | high => 3

def op : Generation → SmokeLevel → EngineOp
  | _, off => .smokeOff
  | .legacy, low => .smokeLow
  | .legacy, medium => .smokeMedium
  | .legacy, high => .smokeHigh
  | .tmcc, _ => .smokeOn

/-- The level that a trigger in canonical form sets. -/
def ofTrigger? (t : Trigger) : Option SmokeLevel :=
  match t.operation, t.data with
  | .engine .legacy .smokeOff, none => some off
  | .engine .legacy .smokeLow, none => some low
  | .engine .legacy .smokeMedium, none => some medium
  | .engine .legacy .smokeHigh, none => some high
  | .engine .tmcc .numeric, some d => if d = 9 then some high else if d = 8 then some off else none
  | _, _ => none

end SmokeLevel

/-- The state of an engine or a train, as far as it is known. -/
structure MotiveState where
  kind : MotiveKind
  profile : Profile
  /-- Whether it takes Legacy commands. -/
  legacy : Option Bool
  started : Option Bool
  speed : Option UInt16
  speedLimit : Option UInt8
  maxSpeed : Option UInt8
  direction : Option EngineOp
  /-- The generation of the command that set the direction. -/
  directionFrom : Option Generation
  momentum : Option UInt8
  trainBrake : Option UInt8
  rpm : Option UInt8
  labor : Option UInt8
  numeric : Option UInt16
  smoke : Option SmokeLevel
  /-- The option-one key pressed last. -/
  aux : Option EngineOp
  aux1 : Option EngineOp
  aux2 : Option EngineOp
  /-- When the first option-one key was pressed last. -/
  aux1Pressed : Option Nat
  /-- When the second option-one key was pressed last. -/
  aux2Pressed : Option Nat
  locoType : Option UInt8
  controlType : Option UInt8
  soundType : Option UInt8
  classType : Option UInt8
  fuelLevel : Option UInt8
  waterLevel : Option UInt8
  /-- The year of manufacture. -/
  year : Option UInt16
  consistFlags : Option UInt8
  consist : List ConsistMember
  /-- The number of its record in the four-digit database. -/
  fourDigitRecord : Option UInt16
  deriving DecidableEq

namespace MotiveState

def restingLabor : UInt8 := 12

def tmccControl : UInt8 := 1

def legacyControl : UInt8 := 2

/-- Nothing known but the profile; a train takes Legacy commands. -/
def fresh (kind : MotiveKind) (profile : Profile) : MotiveState where
  kind
  profile
  legacy := if kind = .train then some true else none
  started := none
  speed := none
  speedLimit := none
  maxSpeed := none
  direction := none
  directionFrom := none
  momentum := none
  trainBrake := none
  rpm := none
  labor := none
  numeric := none
  smoke := none
  aux := none
  aux1 := none
  aux2 := none
  aux1Pressed := none
  aux2Pressed := none
  locoType := none
  controlType := none
  soundType := none
  classType := none
  fuelLevel := none
  waterLevel := none
  year := none
  consistFlags := none
  consist := []
  fourDigitRecord := none

def generation (s : MotiveState) : Generation :=
  if s.legacy = some true then .legacy else .tmcc

def isForward (s : MotiveState) : Bool := s.direction == some .forwardDirection

def isReverse (s : MotiveState) : Bool := s.direction == some .reverseDirection

def isAux1On (s : MotiveState) : Bool := s.aux1 == some .aux1On

def isAux2On (s : MotiveState) : Bool := s.aux2 == some .aux2On

/-- Whether a field that a record can hold is known. -/
def hasRecordFields (s : MotiveState) : Bool :=
  s.profile.hasNames || s.speed.isSome || s.rpm.isSome || s.labor.isSome || s.momentum.isSome ||
    s.trainBrake.isSome || s.speedLimit.isSome || s.maxSpeed.isSome || s.locoType.isSome ||
    s.controlType.isSome || s.soundType.isSome || s.classType.isSome

def isKnown (s : MotiveState) : Bool :=
  s.hasRecordFields || s.started.isSome || s.direction.isSome || s.smoke.isSome || s.aux.isSome ||
    s.aux1.isSome || s.aux2.isSome || s.numeric.isSome

def record (s : MotiveState) (u : Update) (now : Nat) : MotiveState :=
  { s with profile := s.profile.record u now }

end MotiveState
end RailLayout
