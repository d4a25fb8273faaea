import RailLayout.State.Profile

/-!
The state of the Base itself, and whether its records are being or have been read.
-/

namespace RailLayout

/-- What the Base says of one four-digit database. -/
structure DatabaseFigures where
  count : Option UInt16
  firstRecord : Option UInt16
  deriving DecidableEq

def DatabaseFigures.unknown : DatabaseFigures := ⟨none, none⟩

/-- The state of the Base, as far as it is known. -/
structure BaseState where
  profile : Profile
  firmwareHigh : Option UInt8
  firmwareLow : Option UInt8
  throwRate : Option Seconds
  engines : DatabaseFigures
  trains : DatabaseFigures
  deriving DecidableEq

namespace BaseState

def address : UInt16 := 0

def fresh : BaseState := ⟨.fresh (some address), none, none, none, .unknown, .unknown⟩

def figures (s : BaseState) : MotiveKind → DatabaseFigures
  | .engine => s.engines
  | .train => s.trains

def setFigures (s : BaseState) (database : MotiveKind) (figures : DatabaseFigures) : BaseState :=
  match database with
  | .engine => { s with engines := figures }
  | .train => { s with trains := figures }

/-- Take over the parts of the Base's own record that are there. -/
def applyInfo (r : BaseRecord) (s : BaseState) : BaseState :=
  { s with
    profile := s.profile.bindNames r.name none
    firmwareHigh := r.firmwareHigh.or s.firmwareHigh
    firmwareLow := r.firmwareLow.or s.firmwareLow
    throwRate := r.throwRate.or s.throwRate }

/-- The state after a message, if the message says anything. -/
def applyMessage? (m : Message) (s : BaseState) : Option BaseState :=
  match m with
  | .record r =>
    match r.contents with
    | .base _ info => if r.status = 0 then some (applyInfo info s) else none
    | _ => none
  | .fourDigit m =>
    match m.lookup with
    | .count _ (some n) => some (s.setFigures m.database { s.figures m.database with count := some n })
    | .firstRecord =>
      some (s.setFigures m.database { s.figures m.database with firstRecord := some m.recordNo })
    | _ => none
  | _ => none

def apply (now : Nat) (u : Update) (s : BaseState) : BaseState × Bool :=
  match u with
  | .command _ => (s, false)
  | .message m =>
    match applyMessage? m s with
    | some s => ({ s with profile := s.profile.record u now }, true)
    | none => (s, false)

/-- Take an update, if it is for the Base. -/
def update (now : Nat) (u : Update) (s : BaseState) : Outcome BaseState :=
  match s.profile.accept .base u with
  | .error e => ⟨s, .error e⟩
  | .ok profile =>
    let (s, changed) := apply now u { s with profile := profile }
    ⟨s, .ok changed⟩

/-- Whether a part of the Base's own record is known. -/
def hasInfo (s : BaseState) : Bool :=
  s.profile.roadName.isSome || s.firmwareHigh.isSome || s.firmwareLow.isSome || s.throwRate.isSome

def isKnown (s : BaseState) : Bool := s.hasInfo || s.engines != .unknown || s.trains != .unknown

/-- What is known, as the Base's own record. -/
def toRecord (s : BaseState) : BaseRecord :=
  ⟨s.firmwareHigh, s.firmwareLow, s.throwRate, s.profile.roadName⟩

/-- The validity mask of the Base's own record when it is written. -/
def recordMask : UInt32 := 0b1111

/-- The updates that bring the figures of a database to where they are. -/
def figureUpdates (s : BaseState) (database : MotiveKind) : List Update :=
  let figures := s.figures database
  (figures.count.map fun n => Update.message (.fourDigit (.about database 0 (.count 0 (some n))))).toList ++
    (figures.firstRecord.map fun n => Update.message (.fourDigit (.about database n .firstRecord))).toList

/-- The updates that bring a fresh state to this one. -/
def script (s : BaseState) : List Update :=
  (if s.hasInfo then
      [.message (.record ⟨0, RecordMessage.writeFlags, 0, 0, .base recordMask s.toRecord⟩)]
    else []) ++ s.figureUpdates .engine ++ s.figureUpdates .train

/-- The firmware version, with a point between its parts. -/
def firmware? (s : BaseState) : Option String := s.toRecord.firmware?

end BaseState

/-- Whether the Base's records are being or have been read. -/
structure SyncState where
  profile : Profile
  synchronizing : Option Bool
  synchronized : Option Bool
  deriving DecidableEq

namespace SyncState

def fresh : SyncState := ⟨.fresh (some broadcastAddress), none, none⟩

def apply (now : Nat) (u : Update) (s : SyncState) : SyncState × Bool :=
  match u with
  | .command c =>
    match c.operation with
    | .sync .synchronizing => (⟨s.profile.record u now, some true, some false⟩, true)
    | .sync .synchronized => (⟨s.profile.record u now, some false, some true⟩, true)
    | _ => (s, false)
  | .message _ => (s, false)

/-- Take an update, if it is about the reading of records. -/
def update (now : Nat) (u : Update) (s : SyncState) : Outcome SyncState :=
  match s.profile.accept .sync u with
  | .error e => ⟨s, .error e⟩
  | .ok profile =>
    let (s, changed) := apply now u { s with profile := profile }
    ⟨s, .ok changed⟩

def isKnown (s : SyncState) : Bool := s.synchronizing.isSome || s.synchronized.isSome

def isSynchronizing (s : SyncState) : Bool := s.synchronizing == some true

def isSynchronized (s : SyncState) : Bool := s.synchronized == some true

end SyncState
end RailLayout
