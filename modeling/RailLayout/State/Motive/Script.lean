import RailLayout.State.Motive.Command
import RailLayout.State.Motive.Report

/-!
Updates of an engine or a train, and the updates that bring a fresh state to the same place: its record, then
the commands that it is held by. An address of four digits has no record of that kind, but may have one in the
four-digit database.
-/

namespace RailLayout

namespace MotiveState

/-- Take an update, if it is for this engine or train. -/
def update (rules : Rules) (now : Nat) (u : Update) (s : MotiveState) : Outcome MotiveState :=
  match s.profile.accept s.kind.scope u with
  | .error e => ⟨s, .error e⟩
  | .ok profile =>
    let s := { s with profile := profile }
    let (s, changed) := match u with
      | .command c => s.applyCommand rules now c
      | .message m => s.applyMessage now m
    ⟨s, .ok changed⟩

/-- The control type, or the one that goes with the generation. -/
def controlType? (s : MotiveState) : Option UInt8 :=
  s.controlType.or (s.legacy.map fun legacy => if legacy then legacyControl else tmccControl)

def toRecord (s : MotiveState) : MotiveRecord :=
  { MotiveRecord.unknown with
    name := s.profile.roadName
    number := s.profile.roadNumber
    locoType := s.locoType
    controlType := s.controlType?
    soundType := s.soundType
    classType := s.classType
    speed := s.speed.map clampByte
    runLevel := s.rpm
    laborBias := s.labor.map Scale.laborToRecord
    speedLimit := s.speedLimit
    maxSpeed := s.maxSpeed
    fuel := s.fuelLevel
    water := s.waterLevel
    smoke := s.smoke.map SmokeLevel.byte
    trainBrake := s.trainBrake.map Scale.brakeToRecord
    momentum := s.momentum.map Scale.momentumToRecord
    consistFlags := if s.kind = .train then s.consistFlags else none
    consist := if s.kind = .train then s.consist else [] }

/-- The record message, if there is a record and anything to say in it. -/
def recordUpdates (s : MotiveState) (address : UInt16) : List Update :=
  if s.hasRecordFields = true ∧ address ≤ 99 then
    let r := s.toRecord
    [.message (.record ⟨address.toUInt8, RecordMessage.writeFlags, 0, 0, .motive s.kind r.validMask r⟩)]
  else []

/-- The message that tells where a four-digit address has its record. -/
def fourDigitUpdates (s : MotiveState) (address : UInt16) : List Update :=
  match s.fourDigitRecord with
  | some recordNo =>
    if 99 < address then [.message (.fourDigit (.about s.kind recordNo (.map 0 (some address))))] else []
  | none => []

/-- The operations that the state is held by, in the order in which they are sent. -/
def heldOps (s : MotiveState) : List EngineOp :=
  (s.started.map fun started => if started then EngineOp.startUpImmediate else .shutdownImmediate).toList ++
    (s.smoke.map (SmokeLevel.op s.generation)).toList ++ s.direction.toList ++ s.aux.toList ++
    s.aux1.toList ++ s.aux2.toList

/-- The updates that bring a fresh state to this one. -/
def script (s : MotiveState) : List Update :=
  match s.profile.address with
  | none => []
  | some address =>
    s.recordUpdates address ++ s.fourDigitUpdates address ++
      s.heldOps.map fun op => .command ⟨.engine s.generation op, address, none, s.kind.scope⟩

end MotiveState
end RailLayout
