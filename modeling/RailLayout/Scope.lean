/-!
The kinds of component on a layout, the addresses each kind admits, and the two properties of a command or a
report that do not depend on the component: the command generation and the direction of travel.
-/

namespace RailLayout

/-- The address that means every component of a kind at once. -/
def broadcastAddress : UInt16 := 99

/-- The kinds of component. -/
inductive Scope where
  | engine
  | train
  | switch
  | route
  | accessory
  | sensorTrack
  | block
  | base
  | sync
  deriving DecidableEq

namespace Scope

/-- Every kind, in the order in which a store lists them. -/
def all : List Scope :=
  [engine, train, switch, route, accessory, sensorTrack, block, base, sync]

def name : Scope → String
  | engine => "Engine"
  | train => "Train"
  | switch => "Switch"
  | route => "Route"
  | accessory => "Acc"
  | sensorTrack => "Irda"
  | block => "Block"
  | base => "Base"
  | sync => "Sync"

/-- The least and the greatest address of a kind. Engines go up to four digits; the Base and the
synchronization status have one address each. -/
def addressRange : Scope → UInt16 × UInt16
  | engine => (1, 9999)
  | base => (0, 0)
  | sync => (broadcastAddress, broadcastAddress)
  | _ => (1, 99)

/-- Whether a component of the kind can have the address. -/
def admits (scope : Scope) (address : UInt16) : Bool :=
  decide (scope.addressRange.1 ≤ address ∧ address ≤ scope.addressRange.2)

/-- Whether the kind runs on the track under its own power. -/
def isMotive : Scope → Bool
  | engine => true
  | train => true
  | _ => false

/-- The byte that names the kind in a block report. -/
def wire : Scope → UInt8
  | engine => 1
  | train => 2
  | switch => 3
  | route => 4
  | accessory => 5
  | sensorTrack => 10
  | base => 12
  | sync => 13
  | block => 14

/-- The kind that a byte of a block report names. -/
def ofWire? (byte : UInt8) : Option Scope :=
  all.find? fun scope => scope.wire == byte

def rank : Scope → Nat
  | engine => 0
  | train => 1
  | switch => 2
  | route => 3
  | accessory => 4
  | sensorTrack => 5
  | block => 6
  | base => 7
  | sync => 8

end Scope

/-- The kinds that run on the track under their own power. -/
inductive MotiveKind where
  | engine
  | train
  deriving DecidableEq

namespace MotiveKind

def scope : MotiveKind → Scope
  | engine => .engine
  | train => .train

/-- The motive kind that a kind of component is. -/
def ofScope? : Scope → Option MotiveKind
  | .engine => some engine
  | .train => some train
  | _ => none

end MotiveKind

/-- The kinds that stand along the track. -/
inductive FixtureKind where
  | accessory
  | switch
  | route
  deriving DecidableEq

def FixtureKind.scope : FixtureKind → Scope
  | .accessory => .accessory
  | .switch => .switch
  | .route => .route

/-- The two generations of the command set. -/
inductive Generation where
  | tmcc
  | legacy
  deriving DecidableEq

def Generation.name : Generation → String
  | .tmcc => "Tmcc"
  | .legacy => "Legacy"

/-- Which way something passed a sensor or runs through a block. -/
inductive Direction where
  | unknown
  | leftToRight
  | rightToLeft
  deriving DecidableEq

namespace Direction

def all : List Direction := [unknown, leftToRight, rightToLeft]

/-- The byte that names the direction in a block report. -/
def wire : Direction → UInt8
  | unknown => 0
  | leftToRight => 1
  | rightToLeft => 2

/-- The direction that a byte names; any other byte leaves it unknown. -/
def ofWire (byte : UInt8) : Direction :=
  if byte = 1 then leftToRight else if byte = 2 then rightToLeft else unknown

def name : Direction → String
  | unknown => "Unknown"
  | leftToRight => "LeftToRight"
  | rightToLeft => "RightToLeft"

/-- The direction as an arrow between left and right. -/
def text : Direction → String
  | unknown => "unknown"
  | leftToRight => "L -> R"
  | rightToLeft => "R -> L"

end Direction
end RailLayout
