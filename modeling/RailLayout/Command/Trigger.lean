import RailLayout.Command.Operation

/-!
Operations qualified by a data value, and the table of operations that are only a spelling of one. The order
of triggers is the order in which a command's effects are looked at.
-/

namespace RailLayout

/-- An operation, or one data value of it. -/
structure Trigger where
  operation : Operation
  data : Option UInt16
  deriving DecidableEq

/-- An operation that is another spelling of an operation with a data value. -/
def aliases : List (Operation × Trigger) :=
  [(.engine .legacy .speedStopHold, ⟨.engine .legacy .absoluteSpeed, some 0⟩),
   (.engine .tmcc .speedStopHold, ⟨.engine .tmcc .absoluteSpeed, some 0⟩),
   (.engine .legacy .reset, ⟨.engine .legacy .numeric, some 0⟩),
   (.engine .tmcc .reset, ⟨.engine .tmcc .numeric, some 0⟩),
   (.engine .legacy .engineLaborDefault, ⟨.engine .legacy .engineLabor, some 12⟩),
   (.engine .tmcc .startUpImmediate, ⟨.engine .tmcc .numeric, some 3⟩),
   (.engine .tmcc .shutdownImmediate, ⟨.engine .tmcc .numeric, some 5⟩),
   (.engine .legacy .shutdownDelayed, ⟨.engine .legacy .numeric, some 5⟩),
   (.engine .tmcc .smokeOff, ⟨.engine .tmcc .numeric, some 8⟩),
   (.engine .tmcc .smokeOn, ⟨.engine .tmcc .numeric, some 9⟩)]

namespace Operation

/-- The trigger that the operation is a spelling of. -/
def canonical? (operation : Operation) : Option Trigger :=
  (aliases.find? fun entry => entry.1 == operation).map Prod.snd

/-- Whether the operation is a spelling of another. -/
def isAlias (operation : Operation) : Bool :=
  operation.canonical?.isSome

def trigger (operation : Operation) : Trigger := ⟨operation, none⟩

end Operation

namespace Trigger

/-- The trigger that this one is a spelling of; a data value leaves no other spelling. -/
def canonical? (t : Trigger) : Option Trigger :=
  match t.data with
  | none => t.operation.canonical?
  | some _ => none

/-- The operation that spells this trigger without data. -/
def spelling? (t : Trigger) : Option Operation :=
  (aliases.find? fun entry => entry.2 == t).map Prod.fst

/-- The trigger itself, or what it is a spelling of. -/
def canonical (t : Trigger) : Trigger :=
  t.canonical?.getD t

/-- The trigger as a user spells it: the operation, and the data value after a colon. -/
def id (t : Trigger) : String :=
  match t.data with
  | none => t.operation.id
  | some d => t.operation.id ++ ":" ++ toString d.toNat

def ofId? (id : String) : Option Trigger :=
  match id.splitOn ":" with
  | [name] => (Operation.ofId? name).map Operation.trigger
  | [name, data] => do return ⟨← Operation.ofId? name, (← data.toNat?).toUInt16⟩
  | _ => none

/-- The place of a trigger in the order of triggers: by operation, then no data before data. -/
def rank (t : Trigger) : Nat :=
  t.operation.rank * 65537 + match t.data with
    | none => 0
    | some d => d.toNat + 1

end Trigger

/-- A set of triggers, held in increasing rank. -/
abbrev TriggerSet := List Trigger

namespace TriggerSet

def insert (t : Trigger) : TriggerSet → TriggerSet
  | [] => [t]
  | u :: rest =>
    if t.rank < u.rank then t :: u :: rest
    else if t.rank = u.rank then u :: rest
    else u :: insert t rest

def insertAll (set : TriggerSet) (triggers : List Trigger) : TriggerSet :=
  triggers.foldl (fun acc t => insert t acc) set

/-- The set of the triggers in a list. -/
def ofList (triggers : List Trigger) : TriggerSet :=
  insertAll [] triggers

end TriggerSet
end RailLayout
