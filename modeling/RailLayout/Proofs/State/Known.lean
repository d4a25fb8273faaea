import RailLayout.Proofs.State.Resynthesis

/-!
What is known of a component, field by field: the fields that can be asked for and that answer nothing as long as
nothing has said what they are (`Component.knows`). Of a component that was just built nothing is known, except that a
train takes Legacy commands (`Component.eq_legacy_of_knows_fresh`).
-/

namespace RailLayout

/-- What can be asked of components and need not be known. -/
inductive StateField where
  | roadName
  | roadNumber
  | lastUpdate
  /-- Whether an engine or a train takes Legacy commands. -/
  | legacy
  | started
  | speed
  | speedLimit
  | maxSpeed
  | direction
  | momentum
  | trainBrake
  | rpm
  | labor
  | numeric
  | smoke
  | aux
  | aux1
  | aux2
  | locoType
  | controlType
  | soundType
  | classType
  | fuelLevel
  | waterLevel
  | year
  | consistFlags
  | consist
  | fourDigitRecord
  /-- How a switch stands. -/
  | position
  /-- What a route is made of. -/
  | steps
  /-- The number key of an accessory. -/
  | number
  /-- The configuration of a motor and lamp controller. -/
  | outputConfig
  | sequence
  | rightLeft
  | leftRight
  | lastEngine
  | lastTrain
  | lastDirection
  | lastSeen
  | blockDirection
  | prevBlock
  | nextBlock
  | sensorTrack
  | switch
  | occupant
  | occupantDirection
  | firmware
  | throwRate
  /-- How many records a four-digit database has. -/
  | count (database : MotiveKind)
  | firstRecord (database : MotiveKind)
  | synchronization
  deriving DecidableEq

namespace StateField

def all : List StateField :=
  [roadName, roadNumber, lastUpdate, legacy, started, speed, speedLimit, maxSpeed, direction, momentum, trainBrake, rpm,
   labor, numeric, smoke, aux, aux1, aux2, locoType, controlType, soundType, classType, fuelLevel, waterLevel, year,
   consistFlags, consist, fourDigitRecord, position, steps, number, outputConfig, sequence, rightLeft, leftRight,
   lastEngine, lastTrain, lastDirection, lastSeen, blockDirection, prevBlock, nextBlock, sensorTrack, switch, occupant,
   occupantDirection, firmware, throwRate, count .engine, count .train, firstRecord .engine, firstRecord .train,
   synchronization]

theorem mem_all (field : StateField) : field ∈ all := by
  cases field
  case count database | firstRecord database => cases database <;> decide
  all_goals decide

end StateField

def Profile.knows (p : Profile) : StateField → Bool
  | .roadName => p.roadName.isSome
  | .roadNumber => p.roadNumber.isSome
  | .lastUpdate => p.last.isSome
  | _ => false

def MotiveState.knows (s : MotiveState) : StateField → Bool
  | .legacy => s.legacy.isSome
  | .started => s.started.isSome
  | .speed => s.speed.isSome
  | .speedLimit => s.speedLimit.isSome
  | .maxSpeed => s.maxSpeed.isSome
  | .direction => s.direction.isSome
  | .momentum => s.momentum.isSome
  | .trainBrake => s.trainBrake.isSome
  | .rpm => s.rpm.isSome
  | .labor => s.labor.isSome
  | .numeric => s.numeric.isSome
  | .smoke => s.smoke.isSome
  | .aux => s.aux.isSome
  | .aux1 => s.aux1.isSome
  | .aux2 => s.aux2.isSome
  | .locoType => s.locoType.isSome
  | .controlType => s.controlType.isSome
  | .soundType => s.soundType.isSome
  | .classType => s.classType.isSome
  | .fuelLevel => s.fuelLevel.isSome
  | .waterLevel => s.waterLevel.isSome
  | .year => s.year.isSome
  | .consistFlags => s.consistFlags.isSome
  | .consist => !s.consist.isEmpty
  | .fourDigitRecord => s.fourDigitRecord.isSome
  | field => s.profile.knows field

def SwitchState.knows (s : SwitchState) : StateField → Bool
  | .position => s.through.isSome
  | field => s.profile.knows field

def RouteState.knows (s : RouteState) : StateField → Bool
  | .steps => !s.steps.isEmpty
  | field => s.profile.knows field

def AccessoryState.knows (s : AccessoryState) : StateField → Bool
  | .aux => s.aux.isSome
  | .aux1 => s.aux1.isSome
  | .aux2 => s.aux2.isSome
  | .number => s.number.isSome
  | .outputConfig => s.output.isSome
  | field => s.profile.knows field

def SensorTrackState.knows (s : SensorTrackState) : StateField → Bool
  | .sequence => s.sequence.isSome
  | .rightLeft => s.rightLeft?.isSome
  | .leftRight => s.leftRight?.isSome
  | .lastEngine => s.lastEngineId.isSome
  | .lastTrain => s.lastTrainId.isSome
  | .lastDirection => s.lastDirection != .unknown
  | .lastSeen => s.lastSeen.isSome
  | field => s.profile.knows field

def BlockState.knows (s : BlockState) : StateField → Bool
  | .blockDirection => s.direction != .unknown
  | .prevBlock => s.prev?.isSome
  | .nextBlock => s.next?.isSome
  | .sensorTrack => s.sensorTrack?.isSome
  | .switch => s.switch?.isSome
  | .occupant => s.occupant?.isSome
  | .occupantDirection => s.occupantDirection != .unknown
  | field => s.profile.knows field

def BaseState.knows (s : BaseState) : StateField → Bool
  | .firmware => s.firmware?.isSome
  | .throwRate => s.throwRate.isSome
  | .count database => (s.figures database).count.isSome
  | .firstRecord database => (s.figures database).firstRecord.isSome
  | field => s.profile.knows field

def SyncState.knows (s : SyncState) : StateField → Bool
  | .synchronization => s.isKnown
  | field => s.profile.knows field

namespace Component

/-- Whether a field of a component is known; a field that components of its kind do not have never is. -/
def knows : Component → StateField → Bool
  | motive s => s.knows
  | switch s => s.knows
  | route s => s.knows
  | accessory s => s.knows
  | sensorTrack s => s.knows
  | block s => s.knows
  | base s => s.knows
  | sync s => s.knows

theorem eq_legacy_of_knows_fresh {scope : Scope} {address : Option UInt16} {field : StateField}
    (h : (fresh scope address).knows field = true) : scope = .train ∧ field = .legacy := by
  cases field
  case count database | firstRecord database => cases scope <;> cases database <;> cases h
  all_goals cases scope <;> first | exact ⟨rfl, rfl⟩ | cases h

end Component
end RailLayout
