import RailLayout.Command.Trigger
import RailLayout.Error

/-!
Symbolic commands: an operation for one component, or for all components of a kind, with an optional data
value. Two commands are the same when they agree in all four parts.
-/

namespace RailLayout

/-- A command to a component. -/
structure Command where
  operation : Operation
  address : UInt16
  data : Option UInt16
  scope : Scope
  deriving DecidableEq

namespace Command

/-- A command, if the kind of component takes the operation and can have the address. -/
def build (operation : Operation) (address : UInt16) (data : Option UInt16) (scope : Option Scope) :
    Except Error Command := do
  let scope := scope.getD operation.defaultScope
  if operation.accepts scope then
    let address ← scope.validate address
    return ⟨operation, address, data, scope⟩
  else .error (.invalidParameter (.scopeRefused operation scope))

def isHalt (c : Command) : Bool := c.operation.isHalt

/-- Whether the command halts engines and trains only. -/
def isSystemHalt (c : Command) : Bool := c.operation.isSystemHalt

/-- Whether the command is for every component of its kind. -/
def isBroadcast (c : Command) : Bool := c.address == broadcastAddress && c.scope != .sync

/-- Whether the command is of the Legacy generation. -/
def isLegacy (c : Command) : Bool := c.operation.generation? == some .legacy

def trigger (c : Command) : Trigger := c.operation.trigger

/-- The command's operation with its data as a trigger. -/
def dataTrigger? (c : Command) : Option Trigger :=
  c.data.map fun d => ⟨c.operation, some d⟩

end Command
end RailLayout
