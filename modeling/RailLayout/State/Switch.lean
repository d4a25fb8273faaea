import RailLayout.State.Profile

/-!
The states of switches and routes. A switch is thrown by commands and reported by the boards that drive it; a
route is a list of switches, and firing it changes nothing that it is made of.
-/

namespace RailLayout

/-- The record of a switch or a route that is in use and was read without fault. -/
def liveRecord? (m : RecordMessage) : Option FixtureRecord :=
  if m.status ≠ 0 ∨ m.isActive = false then none
  else match m.contents with
    | .fixture .switch _ r => some r
    | .fixture .route _ r => some r
    | _ => none

/-- The state of a switch, as far as it is known. -/
structure SwitchState where
  profile : Profile
  /-- Whether it stands through. -/
  through : Option Bool
  deriving DecidableEq

namespace SwitchState

def fresh (profile : Profile) : SwitchState := ⟨profile, none⟩

/-- The position that a command throws the switch to. -/
def commanded? (c : Command) : Option Bool :=
  match c.operation with
  | .switch .through => some true
  | .switch .out => some false
  | _ => none

def reported? : Message → Option Bool
  | .board .asc2 m =>
    match m.fault, m.body with
    | none, .report r => r.isThrough?
    | _, _ => none
  | .board .stm2 m =>
    match m.fault, m.body with
    | none, .report r => some !r.isOut
    | _, _ => none
  | _ => none

/-- Take over a position, if there is one. -/
def applyPosition (now : Nat) (u : Update) (position : Option Bool) (s : SwitchState) : SwitchState × Bool :=
  match position with
  | some through => ({ s with through := some through, profile := s.profile.record u now }, true)
  | none => (s, false)

/-- Take over the names in a record, valid or not. -/
def applyRecord (now : Nat) (m : RecordMessage) (s : SwitchState) : SwitchState × Bool :=
  match liveRecord? m with
  | some r =>
    ({ s with profile := (s.profile.bindNames r.name r.number).record (.message (.record m)) now }, true)
  | none => (s, false)

def apply (now : Nat) (u : Update) (s : SwitchState) : SwitchState × Bool :=
  match u with
  | .command c => applyPosition now u (commanded? c) s
  | .message (.record m) => applyRecord now m s
  | .message m => applyPosition now u (reported? m) s

/-- Take an update, if it is for this switch. -/
def update (now : Nat) (u : Update) (s : SwitchState) : Outcome SwitchState :=
  match s.profile.accept .switch u with
  | .error e => ⟨s, .error e⟩
  | .ok profile =>
    let (s, changed) := apply now u { s with profile := profile }
    ⟨s, .ok changed⟩

/-- The updates that bring a fresh state to this one. -/
def script (s : SwitchState) : List Update :=
  match s.profile.address with
  | none => []
  | some address =>
    s.profile.recordUpdates .switch [] ++
      (s.through.map fun through =>
        Update.command ⟨.switch (if through then .through else .out), address, none, .switch⟩).toList

def isKnown (s : SwitchState) : Bool := s.through.isSome || s.profile.hasNames

def out? (s : SwitchState) : Option Bool := s.through.map (!·)

end SwitchState

/-- The state of a route, as far as it is known. -/
structure RouteState where
  profile : Profile
  /-- The switches that it throws. -/
  steps : List RouteStep
  deriving DecidableEq

namespace RouteState

def fresh (profile : Profile) : RouteState := ⟨profile, []⟩

def apply (now : Nat) (u : Update) (s : RouteState) : RouteState × Bool :=
  match u with
  | .command c =>
    if c.operation = .route .fire then ({ s with profile := s.profile.record u now }, true)
    else (s, false)
  | .message (.record m) =>
    match liveRecord? m with
    | some r => (⟨(s.profile.bindNames r.name r.number).record u now, r.route⟩, true)
    | none => (s, false)
  | .message _ => (s, false)

/-- Take an update, if it is for this route. -/
def update (now : Nat) (u : Update) (s : RouteState) : Outcome RouteState :=
  match s.profile.accept .route u with
  | .error e => ⟨s, .error e⟩
  | .ok profile =>
    let (s, changed) := apply now u { s with profile := profile }
    ⟨s, .ok changed⟩

def isKnown (s : RouteState) : Bool := !s.steps.isEmpty || s.profile.hasNames

/-- The updates that bring a fresh state to this one. -/
def script (s : RouteState) : List Update :=
  match s.profile.recordNo? with
  | some recordNo => if s.isKnown then [s.profile.recordUpdate .route recordNo s.steps] else []
  | none => []

/-- The switches that the route throws, each with whether it is thrown through. -/
def switches (s : RouteState) : List (UInt8 × Bool) :=
  s.steps.map fun step => (step.switch, !step.isThrown)

end RouteState
end RailLayout
