import RailLayout.State.Profile

/-!
The state of a sensor track: its configuration, and what it saw last. What it knows of the engine itself goes to
the engine's own state.
-/

namespace RailLayout

/-- The state of a sensor track, as far as it is known. -/
structure SensorTrackState where
  profile : Profile
  tmccId : Option UInt8
  sequence : Option Sequence
  locoRightLeft : Option UInt8
  locoLeftRight : Option UInt8
  lastEngineId : Option UInt16
  lastTrainId : Option UInt16
  lastDirection : Direction
  /-- When something passed last. -/
  lastSeen : Option Nat
  deriving DecidableEq

namespace SensorTrackState

def fresh (profile : Profile) : SensorTrackState :=
  ⟨profile, none, none, none, none, none, none, .unknown, none⟩

def idOf? (byte : UInt8) : Option UInt16 :=
  if byte = 0 then none else some byte.toUInt16

/-- The state after a report, if the report says anything. -/
def applyReport? (now : Nat) (m : BoardMessage .irda) (s : SensorTrackState) : Option SensorTrackState :=
  match m.fault, m.body with
  | none, .config c =>
    some { s with
      tmccId := some c.tmccId
      sequence := some c.sequence
      locoRightLeft := some c.locoRightLeft
      locoLeftRight := some c.locoLeftRight }
  | none, .report (.sequence sequence) => some { s with sequence := some sequence }
  | none, .report (.data sighting) =>
    some { s with
      lastEngineId := idOf? sighting.engineId
      lastTrainId := idOf? sighting.trainId
      lastDirection := sighting.direction
      lastSeen := some now }
  | _, _ => none

def apply (now : Nat) (u : Update) (s : SensorTrackState) : SensorTrackState × Bool :=
  match u with
  | .message (.board .irda m) =>
    match applyReport? now m s with
    | some s => ({ s with profile := s.profile.record u now }, true)
    | none => (s, false)
  | _ => (s, false)

/-- Take an update, if it is for this sensor track. -/
def update (now : Nat) (u : Update) (s : SensorTrackState) : Outcome SensorTrackState :=
  match s.profile.accept .sensorTrack u with
  | .error e => ⟨s, .error e⟩
  | .ok profile =>
    let (s, changed) := apply now u { s with profile := profile }
    ⟨s, .ok changed⟩

/-- The updates that bring a fresh state to this one: its configuration. -/
def script (s : SensorTrackState) : List Update :=
  match s.profile.recordNo?, s.sequence with
  | some address, some sequence =>
    let config : SensorConfig :=
      ⟨s.tmccId.getD address, 0, sequence, s.locoRightLeft.getD anyLoco, s.locoLeftRight.getD anyLoco⟩
    [.message (.board .irda ⟨.irdaRx, address, .common .config, none, .config config⟩)]
  | _, _ => []

def isKnown (s : SensorTrackState) : Bool := s.sequence.isSome || s.lastSeen.isSome

/-- The engine that a filter lets through; none if it lets any through. -/
def filterOf? (filter : Option UInt8) : Option UInt8 :=
  match filter with
  | some loco => if loco = anyLoco then none else some loco
  | none => none

/-- The engine let through from right to left; none for any. -/
def rightLeft? (s : SensorTrackState) : Option UInt8 := filterOf? s.locoRightLeft

/-- The engine let through from left to right; none for any. -/
def leftRight? (s : SensorTrackState) : Option UInt8 := filterOf? s.locoLeftRight

end SensorTrackState
end RailLayout
