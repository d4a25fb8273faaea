import RailLayout.Command.Graph
import RailLayout.Message

/-!
What components are told, and the rules by which they take it: commands and messages alike name the component
they are for, except for messages that are about no component.
-/

namespace RailLayout

/-- The two windows of time that matter to components, in milliseconds. -/
structure Settings where
  /-- An engine command that repeats the last one within this time is dropped. -/
  duplicateWindow : Nat
  /-- Two presses of an option-one key toggle an output twice only if more than this time apart. -/
  auxPulseWindow : Nat
  deriving DecidableEq

def Settings.standard : Settings := ⟨1000, 1000⟩

/-- What all components of a layout go by. -/
structure Rules where
  graph : EffectGraph
  settings : Settings
  deriving DecidableEq

/-- What a component is told. -/
inductive Update where
  | command (c : Command)
  | message (m : Message)
  deriving DecidableEq

namespace Update

/-- The component that a message about a four-digit database is for: the Base keeps counts and first records,
and a found address is the engine's or train's own. -/
def fourDigitTarget? (m : FourDigitMessage) : Option (Scope × UInt16) :=
  match m.lookup with
  | .count _ _ => some (.base, 0)
  | .firstRecord => some (.base, 0)
  | .map _ id => if m.isNotFound then none else id.map fun address => (m.database.scope, address)
  | _ => none

/-- The component that a message is for. A power district is always an accessory and a switch machine
controller always a switch, whatever their actions; wireless modules and serial bridges are no components. -/
def messageTarget? : Message → Option (Scope × UInt16)
  | .board .bpc2 m => some (.accessory, m.address.toUInt16)
  | .board .stm2 m => some (.switch, m.address.toUInt16)
  | .board .wifi _ => none
  | .board .ser2 _ => none
  | .fourDigit m => fourDigitTarget? m
  | m =>
    match m.scope?, m.address? with
    | some scope, some address => some (scope, address)
    | _, _ => none

def target? : Update → Option (Scope × UInt16)
  | command c => some (c.scope, c.address)
  | message m => messageTarget? m

/-- Whether the update is one of the two halts, which components of every kind take. -/
def isHalt : Update → Bool
  | command c => c.isHalt || c.isSystemHalt
  | message _ => false

end Update
end RailLayout
