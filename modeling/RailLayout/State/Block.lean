import RailLayout.State.Profile

/-!
The state of a block of track, as the last report described it. Other components are known by kind and address.
-/

namespace RailLayout

/-- The state of a block, as far as it is known. -/
structure BlockState where
  profile : Profile
  /-- The flags of the last report. -/
  flags : Option UInt8
  prevBlock : Option UInt8
  nextBlock : Option UInt8
  sensorTrack : Option UInt8
  switch : Option UInt8
  occupant : Option Occupant
  deriving DecidableEq

namespace BlockState

def fresh (profile : Profile) : BlockState := ⟨profile, none, none, none, none, none, none⟩

/-- What is known, as a report; flags that are not known are zero. -/
def toReport? (s : BlockState) : Option BlockReport :=
  s.profile.recordNo?.map fun blockId =>
    ⟨blockId, s.prevBlock, s.nextBlock, s.flags.getD 0, s.sensorTrack, s.switch, s.occupant,
      s.profile.roadName⟩

def applyReport (r : BlockReport) (s : BlockState) : BlockState where
  profile := s.profile.bindNames r.name none
  flags := some r.flags
  prevBlock := r.prevBlock
  nextBlock := r.nextBlock
  sensorTrack := r.sensorTrack
  switch := r.switch
  occupant := r.occupant

/-- Apply an update that was accepted. A report that says the same as the state changes nothing. -/
def apply (now : Nat) (u : Update) (s : BlockState) : BlockState × Bool :=
  match u with
  | .message (.block r) =>
    let next := applyReport r s
    ({ next with profile := next.profile.record u now }, s.toReport? != next.toReport?)
  | _ => (s, false)

/-- Take an update, if it is for this block. -/
def update (now : Nat) (u : Update) (s : BlockState) : Outcome BlockState :=
  match s.profile.accept .block u with
  | .error e => ⟨s, .error e⟩
  | .ok profile =>
    let (s, changed) := apply now u { s with profile := profile }
    ⟨s, .ok changed⟩

/-- The updates that bring a fresh state to this one: the last report. -/
def script (s : BlockState) : List Update :=
  match s.flags, s.toReport? with
  | some _, some r => [.message (.block r)]
  | _, _ => []

def isKnown (s : BlockState) : Bool := s.flags.isSome

/-- What the last report says by one of its flags. -/
def reports (s : BlockState) (f : BlockReport → Bool) : Bool :=
  match s.flags with
  | some flags => f ⟨0, none, none, flags, none, none, none, none⟩
  | none => false

def isOccupied (s : BlockState) : Bool := s.reports BlockReport.isOccupied

def isEntered (s : BlockState) : Bool := s.reports BlockReport.isEntered

/-- Whether the block slows what is in it. -/
def isSlowed (s : BlockState) : Bool := s.reports BlockReport.isSlowed

/-- Whether the block stops what is in it. -/
def isStopped (s : BlockState) : Bool := s.reports BlockReport.isStopped

/-- Which way trains run through the block, once reported. -/
def direction (s : BlockState) : Direction :=
  match s.flags with
  | some flags => BlockReport.direction ⟨0, none, none, flags, none, none, none, none⟩
  | none => .unknown

def prev? (s : BlockState) : Option (Scope × UInt16) :=
  s.prevBlock.map fun b => (.block, b.toUInt16)

def next? (s : BlockState) : Option (Scope × UInt16) :=
  s.nextBlock.map fun b => (.block, b.toUInt16)

def sensorTrack? (s : BlockState) : Option (Scope × UInt16) :=
  s.sensorTrack.map fun b => (.sensorTrack, b.toUInt16)

def switch? (s : BlockState) : Option (Scope × UInt16) :=
  s.switch.map fun b => (.switch, b.toUInt16)

def occupant? (s : BlockState) : Option (Scope × UInt16) :=
  s.occupant.map fun o => (o.scope, o.address)

/-- Which way the engine or train in the block runs. -/
def occupantDirection (s : BlockState) : Direction :=
  match s.occupant with
  | some o => o.direction
  | none => .unknown

end BlockState
end RailLayout
