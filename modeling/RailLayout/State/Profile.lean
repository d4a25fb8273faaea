import RailLayout.State.Update

/-!
What components of every kind have in common: an address that the first update binds, a name and a number, and
the last update that they took. An update for another component is refused.
-/

namespace RailLayout

/-- What an update did: the state afterwards, and whether it changed or why the update was refused. -/
structure Outcome (σ : Type) where
  state : σ
  verdict : Except Error Bool

namespace Outcome

/-- The same outcome for a state that holds this one. -/
def map {σ τ : Type} (f : σ → τ) (o : Outcome σ) : Outcome τ := ⟨f o.state, o.verdict⟩

end Outcome

/-- What is known of a component, whatever its kind. -/
structure Profile where
  /-- The address, once bound. -/
  address : Option UInt16
  roadName : Option String
  roadNumber : Option String
  /-- The last update taken, and when, in milliseconds. -/
  last : Option (Update × Nat)
  deriving DecidableEq

namespace Profile

def fresh (address : Option UInt16) : Profile := ⟨address, none, none, none⟩

def build (scope : Scope) : Option UInt16 → Except Error Profile
  | none => .ok (fresh none)
  | some address => return fresh (some (← scope.validate address))

def spelledAddress? (p : Profile) : Option UInt16 :=
  p.roadNumber.bind fun number => Numeral.word? number.toList

/-- Whether an address is the four-digit number of an engine or a train. -/
def isAlias (p : Profile) (scope : Scope) (address : UInt16) : Bool :=
  scope.isMotive && decide (99 < address) && p.spelledAddress? == some address

/-- Take an update for a component of a kind: it has to be for the kind and the address, and binds an address
that is not bound. A broadcast reaches a bound component but binds none. -/
def accept (scope : Scope) (p : Profile) (u : Update) : Except Error Profile :=
  match u.target? with
  | none => .error (.protocol (.noTarget scope))
  | some (received, address) =>
    if received ≠ scope ∧ u.isHalt = false then .error (.scopeMismatch scope received)
    else if address = broadcastAddress ∧ scope ≠ .sync then
      match p.address with
      | some _ => .ok p
      | none => .error (.invalidAddress scope address)
    else match p.address with
      | some bound =>
        if bound = address ∨ p.isAlias scope address = true then .ok p
        else .error (.addressMismatch scope bound address)
      | none => return { p with address := some (← scope.validate address) }

/-- A text without blanks around it, unless nothing is left. -/
def trimmed? (text : Option String) : Option String :=
  match text with
  | none => none
  | some t =>
    let inner := Text.trim t.toList
    if inner.isEmpty then none else some (String.ofList inner)

/-- Take over a name and a number, blanks aside; an empty one changes nothing. -/
def bindNames (p : Profile) (name number : Option String) : Profile :=
  { p with
    roadName := (trimmed? name).or p.roadName
    roadNumber := (trimmed? number).or p.roadNumber }

def record (p : Profile) (u : Update) (now : Nat) : Profile :=
  { p with last := some (u, now) }

/-- Whether a command repeats the last update within a window. -/
def repeats (p : Profile) (c : Command) (window now : Nat) : Bool :=
  match p.last with
  | some (u, time) => u == .command c && decide (now - time < window)
  | none => false

/-- The address as the number of a record. -/
def recordNo? (p : Profile) : Option UInt8 :=
  match p.address with
  | some address => if address ≤ 255 then some address.toUInt8 else none
  | none => none

def hasNames (p : Profile) : Bool := p.roadName.isSome || p.roadNumber.isSome

/-- The validity mask of a written record of an accessory, a switch or a route: its name and its number. -/
def namesMask : UInt32 := 0b1100

/-- A written record with the name, the number and the steps of an accessory, a switch or a route. -/
def recordUpdate (p : Profile) (kind : FixtureKind) (recordNo : UInt8) (steps : List RouteStep) : Update :=
  .message (.record ⟨recordNo, RecordMessage.writeFlags, 0, 0,
    .fixture kind namesMask ⟨none, none, p.roadName, p.roadNumber, steps⟩⟩)

/-- The record of an accessory, a switch or a route, if a name or a number is known. -/
def recordUpdates (p : Profile) (kind : FixtureKind) (steps : List RouteStep) : List Update :=
  match p.recordNo? with
  | some recordNo => if p.hasNames then [p.recordUpdate kind recordNo steps] else []
  | none => []

end Profile

/-- What an output becomes when its option-one key is pressed: off if it is on, else on. -/
def pulse {α : Type} [DecidableEq α] (current : Option α) (on optionTwo off : α) : α :=
  match current with
  | some value => if value = on ∨ value = optionTwo then off else on
  | none => on

/-- Whether a press toggles: it does unless the one before was within the window. -/
def pulseDue (previous : Option Nat) (window now : Nat) : Bool :=
  match previous with
  | some time => decide (window < now - time)
  | none => true

end RailLayout
