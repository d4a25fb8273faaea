import RailLayout.Lcs.Report

/-!
The motor and lamp controller: two motor outputs and four lamps. A configuration describes all of them; other
messages change one output, and folding them into a configuration keeps it current.
-/

namespace RailLayout

/-- How the outputs are addressed. -/
inductive AccessType where
  | engine
  | train
  | accessory
  deriving DecidableEq

namespace AccessType

def all : List AccessType := [engine, train, accessory]

def name : AccessType → String
  | engine => "Engine"
  | train => "Train"
  | accessory => "Acc"

/-- The way of addressing that a byte means. -/
def ofByte (byte : UInt8) : Except Error AccessType :=
  if byte = 0 then .ok engine
  else if byte = 1 then .ok train
  else if byte = 2 then .ok accessory
  else .error (.protocol (.unknownAccessType byte))

def byte : AccessType → UInt8
  | engine => 0
  | train => 1
  | accessory => 2

end AccessType

/-- How a motor output is driven. -/
inductive OutputType where
  | normal
  | delta
  | ac
  deriving DecidableEq

namespace OutputType

def all : List OutputType := [normal, delta, ac]

def name : OutputType → String
  | normal => "Normal"
  | delta => "Delta"
  | ac => "Ac"

def ofByte (byte : UInt8) : Except Error OutputType :=
  if byte = 0 then .ok normal
  else if byte = 1 then .ok delta
  else if byte = 2 then .ok ac
  else .error (.protocol (.unknownOutputType byte))

def byte : OutputType → UInt8
  | normal => 0
  | delta => 1
  | ac => 2

/-- Whether the output is driven with direct current. -/
def isDc : OutputType → Bool
  | normal => true
  | delta => true
  | ac => false

end OutputType

/-- Which way a motor turns. -/
inductive Rotation where
  | forward
  | reverse
  /-- Alternating current has no way. -/
  | ac
  deriving DecidableEq

namespace Rotation

def all : List Rotation := [forward, reverse, ac]

def name : Rotation → String
  | forward => "Forward"
  | reverse => "Reverse"
  | ac => "Ac"

def ofByte (byte : UInt8) : Except Error Rotation :=
  if byte = 1 then .ok forward
  else if byte = 2 then .ok reverse
  else if byte = 3 then .ok ac
  else .error (.protocol (.unknownRotation byte))

def byte : Rotation → UInt8
  | forward => 1
  | reverse => 2
  | ac => 3

end Rotation

/-- One motor output. -/
structure Motor where
  outputType : OutputType
  rotation : Rotation
  /-- Bring `restoreState` back after a restart. -/
  restore : Bool
  restoreState : Bool
  speed : UInt8
  deriving DecidableEq

def Motor.initial : Motor := ⟨.ac, .ac, false, false, 0⟩

/-- The configuration of a motor and lamp controller. -/
structure OutputConfig where
  tmccId : UInt8
  debug : UInt8
  option : UInt16
  accessType : AccessType
  motor1 : Motor
  motor2 : Motor
  lamp1 : UInt8
  lamp2 : UInt8
  lamp3 : UInt8
  lamp4 : UInt8
  deriving DecidableEq

namespace OutputConfig

def initial : OutputConfig := ⟨0, 0, 0, .accessory, .initial, .initial, 0, 0, 0, 0⟩

def motors (c : OutputConfig) : List Motor := [c.motor1, c.motor2]

def lamps (c : OutputConfig) : List UInt8 := [c.lamp1, c.lamp2, c.lamp3, c.lamp4]

/-- Read a configuration; lamps that are missing are off. The first motor's drive and rotation are looked at
before the second motor's. -/
def read : Read OutputConfig := do
  let tmccId ← Read.byte
  let debug ← Read.byte
  let option ← Read.be16
  let accessType ← Read.check (AccessType.ofByte (← Read.byte))
  let raw ← Read.bytes 10
  let at_ (i : Nat) : UInt8 := raw.getD i 0
  let outputType1 ← Read.check (OutputType.ofByte (at_ 0))
  let rotation1 ← Read.check (Rotation.ofByte (at_ 2))
  let outputType2 ← Read.check (OutputType.ofByte (at_ 1))
  let rotation2 ← Read.check (Rotation.ofByte (at_ 3))
  let lamp1 ← Read.byteOrZero
  let lamp2 ← Read.byteOrZero
  let lamp3 ← Read.byteOrZero
  let lamp4 ← Read.byteOrZero
  return {
    tmccId, debug, option, accessType, lamp1, lamp2, lamp3, lamp4
    motor1 := ⟨outputType1, rotation1, at_ 4 != 0, at_ 6 != 0, at_ 8⟩
    motor2 := ⟨outputType2, rotation2, at_ 5 != 0, at_ 7 != 0, at_ 9⟩ }

def encode (c : OutputConfig) : List UInt8 :=
  [c.tmccId, c.debug] ++ Payload.be16 c.option ++
    [c.accessType.byte,
     c.motor1.outputType.byte, c.motor2.outputType.byte,
     c.motor1.rotation.byte, c.motor2.rotation.byte,
     Payload.flag c.motor1.restore, Payload.flag c.motor2.restore,
     Payload.flag c.motor1.restoreState, Payload.flag c.motor2.restoreState,
     c.motor1.speed, c.motor2.speed,
     c.lamp1, c.lamp2, c.lamp3, c.lamp4]

/-- Change one motor; an index past the outputs changes nothing. -/
def modifyMotor (c : OutputConfig) (index : UInt8) (f : Motor → Motor) : OutputConfig :=
  if index = 0 then { c with motor1 := f c.motor1 }
  else if index = 1 then { c with motor2 := f c.motor2 }
  else c

/-- Set one lamp; an index past the outputs changes nothing. -/
def setLamp (c : OutputConfig) (index level : UInt8) : OutputConfig :=
  if index = 0 then { c with lamp1 := level }
  else if index = 1 then { c with lamp2 := level }
  else if index = 2 then { c with lamp3 := level }
  else if index = 3 then { c with lamp4 := level }
  else c

end OutputConfig

/-- What a motor and lamp controller is told or reports, apart from what is common to all boards. -/
inductive OutputReport where
  /-- The output that a query asks about. -/
  | select (index : UInt8)
  | motor (index speed : UInt8) (rotation : Rotation)
  | lamp (index level : UInt8)
  | motorConfig (index : UInt8) (outputType : OutputType) (restoreState : Bool)
  deriving DecidableEq

namespace OutputReport

def greatestLevel : UInt8 := 100

/-- The value, if it is at most `greatest`. -/
def inRange (what : String) (value greatest : UInt8) : Except Error UInt8 :=
  if value ≤ greatest then .ok value
  else .error (.invalidParameter (.outOfRange what value greatest))

def setMotor (motor speed : UInt8) (rotation : Rotation) : Except Error OutputReport := do
  let motor ← inRange "motor" motor 1
  let speed ← inRange "speed" speed greatestLevel
  return .motor motor speed rotation

def setLamp (lamp level : UInt8) : Except Error OutputReport := do
  let lamp ← inRange "lamp" lamp 3
  let level ← inRange "level" level greatestLevel
  return .lamp lamp level

def configureMotor (motor : UInt8) (outputType : OutputType) (restoreState : Bool) :
    Except Error OutputReport := do
  let motor ← inRange "motor" motor 1
  return .motorConfig motor outputType restoreState

/-- Pass over the byte without meaning that a board sends before the index of an output. -/
def skipReserved (code : FrameCode) : Read Unit :=
  if code.isRx then Read.skip 1 else pure ()

/-- Read the data of an action; a query only selects an output. -/
def read (code : FrameCode) (action : OutputAction) : Read OutputReport := do
  if code.isGet then return .select (← Read.byte)
  skipReserved code
  match action with
  | .motor =>
    let motor ← Read.byte
    let speed ← Read.byte
    let rotation ← Read.check (Rotation.ofByte (← Read.byte))
    return .motor motor speed rotation
  | .lamp =>
    let lamp ← Read.byte
    let level ← Read.byte
    return .lamp lamp level
  | .motorConfig =>
    let motor ← Read.byte
    let outputType ← Read.check (OutputType.ofByte (← Read.byte))
    let restoreState ← Read.byte
    return .motorConfig motor outputType (restoreState != 0)

/-- The byte without meaning that a board sends before the index of an output. -/
def reserved (code : FrameCode) : List UInt8 := if code.isRx then [0] else []

/-- The bytes of a report in a frame with the given code. -/
def encode (code : FrameCode) : OutputReport → List UInt8
  | select index => [index]
  | motor index speed rotation => reserved code ++ [index, speed, rotation.byte]
  | lamp index level => reserved code ++ [index, level]
  | motorConfig index outputType restoreState =>
    reserved code ++ [index, outputType.byte, Payload.flag restoreState]

/-- A configuration after a report on one output. -/
def applyTo (report : OutputReport) (c : OutputConfig) : OutputConfig :=
  match report with
  | select _ => c
  | motor index speed rotation =>
    c.modifyMotor index fun m => { m with speed := speed, rotation := rotation }
  | lamp index level => c.setLamp index level
  | motorConfig index outputType restoreState =>
    c.modifyMotor index fun m => { m with outputType := outputType, restoreState := restoreState }

end OutputReport
end RailLayout
