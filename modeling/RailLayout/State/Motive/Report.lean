import RailLayout.State.Motive

/-!
What reports do to an engine or a train: records of the Base, parts of its memory, speed reports, numbers of
four-digit records, and sightings by a sensor track.
-/

namespace RailLayout

namespace MotiveState

/-- Take over a control type; it decides the generation of an engine. -/
def setControlType (s : MotiveState) (controlType : UInt8) : MotiveState :=
  { s with
    controlType := some controlType
    legacy := if s.kind = .engine then some (controlType == legacyControl) else s.legacy }

/-- Take over what the valid fields of a record say. -/
def applyRecordFields (m : RecordMessage) (r : MotiveRecord) (s : MotiveState) : MotiveState :=
  let valid (field : RecordField) (value : Option UInt8) : Option UInt8 :=
    if m.has field then value else none
  let s := { s with profile := s.profile.bindNames m.name? m.number? }
  let s := { s with locoType := (valid .locoType r.locoType).or s.locoType }
  let s := match valid .controlType r.controlType with
    | some v => s.setControlType v
    | none => s
  { s with
    soundType := (valid .soundType r.soundType).or s.soundType
    classType := (valid .classType r.classType).or s.classType
    speed := ((valid .speed r.speed).map UInt8.toUInt16).or s.speed
    rpm := (valid .runLevel r.runLevel).or s.rpm
    labor := ((valid .laborBias r.laborBias).map Scale.laborFromRecord).or s.labor
    speedLimit := (valid .speedLimit r.speedLimit).or s.speedLimit
    maxSpeed := (valid .maxSpeed r.maxSpeed).or s.maxSpeed
    fuelLevel := (valid .fuelLevel r.fuel).or s.fuelLevel
    waterLevel := (valid .waterLevel r.water).or s.waterLevel
    smoke := ((valid .smokeLevel r.smoke).bind SmokeLevel.ofByte?).or s.smoke
    trainBrake := ((valid .trainBrake r.trainBrake).map Scale.brakeFromRecord).or s.trainBrake
    momentum := ((valid .momentum r.momentum).map Scale.momentumFromRecord).or s.momentum }

/-- Take over the members that a train's record lists. -/
def applyConsist (kind : MotiveKind) (r : MotiveRecord) (s : MotiveState) : MotiveState :=
  match kind with
  | .engine => s
  | .train =>
    { s with
      consistFlags := r.consistFlags.or s.consistFlags
      consist := if r.consist.isEmpty then s.consist else r.consist }

/-- Apply a record. An acknowledgement, a failed read and a record that is not in use say nothing. -/
def applyRecord (m : RecordMessage) (s : MotiveState) : MotiveState × Bool :=
  if m.status ≠ 0 ∨ m.isActive = false then (s, false)
  else match m.contents with
    | .motive kind _ r => (applyConsist kind r (applyRecordFields m r s), true)
    | _ => (s, false)

def applyMemoryField (s : MotiveState) (entry : MemoryField × MemoryValue) : MotiveState :=
  match entry with
  | (.speed, .byte v) => { s with speed := some v.toUInt16 }
  | (.trainBrake, .byte v) => { s with trainBrake := some (Scale.brakeFromRecord v) }
  | (.rpmLabor, .byte v) =>
    { s with rpm := some (v &&& 0x07), labor := some (Scale.laborFromRecord (v >>> 3)) }
  | (.momentum, .byte v) => { s with momentum := some (Scale.momentumFromRecord v) }
  | (.roadName, .text t) => { s with profile := s.profile.bindNames (some t) none }
  | (.roadNumber, .text t) => { s with profile := s.profile.bindNames none (some t) }
  | (.engineType, .byte v) => { s with locoType := some v }
  | (.controlType, .byte v) => s.setControlType v
  | (.soundType, .byte v) => { s with soundType := some v }
  | (.engineClass, .byte v) => { s with classType := some v }
  | (.smoke, .byte v) => { s with smoke := (SmokeLevel.ofByte? v).or s.smoke }
  | (.speedLimit, .byte v) => { s with speedLimit := some v }
  | (.maxSpeed, .byte v) => { s with maxSpeed := some v }
  | (.consistFlags, .byte v) => { s with consistFlags := some v }
  | (.consistComps, .consist members) => { s with consist := members }
  | _ => s

/-- Apply part of the memory record, if a field lies in it whole. -/
def applyMemory (m : MemoryMessage) (s : MotiveState) : MotiveState × Bool :=
  let fields := m.fields
  (fields.foldl applyMemoryField s, !fields.isEmpty)

/-- Apply a message, and whether it changed anything. -/
def applyReport (m : Message) (s : MotiveState) : MotiveState × Bool :=
  match m with
  | .record r => applyRecord r s
  | .speed r => ({ s with speed := some r.speed.toUInt16 }, true)
  | .memory r => applyMemory r s
  | .fourDigit r =>
    match r.lookup with
    | .map _ _ => ({ s with fourDigitRecord := some r.recordNo }, true)
    | _ => (s, false)
  | _ => (s, false)

/-- Apply a message that was accepted; one that changes something is remembered. -/
def applyMessage (now : Nat) (m : Message) (s : MotiveState) : MotiveState × Bool :=
  match applyReport m s with
  | (s, true) => (s.record (.message m) now, true)
  | (s, false) => (s, false)

/-- Take over what a sensor track knows of the engine. -/
def applySighting (sighting : Sighting) (s : MotiveState) : MotiveState × Bool :=
  match sighting.product with
  | none => (s, false)
  | some p =>
    ({ s with
      profile := s.profile.bindNames (some p.name) (some p.number)
      year := if p.year = 0 then s.year else some p.year
      maxSpeed := if p.maxSpeed = 0 then s.maxSpeed else some p.maxSpeed }, true)

end MotiveState
end RailLayout
