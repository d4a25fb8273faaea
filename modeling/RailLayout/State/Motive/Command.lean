import RailLayout.State.Motive

/-!
What a command does to an engine or a train. A command has effects: itself and what the graph says it results
in, aliases in canonical form. The fields are gone through in a fixed order, and each looks at the command and
at its effects.
-/

namespace RailLayout

namespace Effects

def canonicalSet (triggers : TriggerSet) : TriggerSet :=
  TriggerSet.ofList (triggers.map Trigger.canonical)

/-- The effects of a command, with and without its data. -/
def ofCommand (graph : EffectGraph) (c : Command) : TriggerSet :=
  let bare := canonicalSet (graph.resultsIn c.trigger true false)
  match c.dataTrigger? with
  | some t => bare.insertAll (canonicalSet (graph.resultsIn t true false))
  | none => bare

/-- The data of the first trigger of an engine operation that has some. -/
def data? (effects : TriggerSet) (op : EngineOp) : Option UInt16 :=
  effects.findSome? fun t =>
    match t.operation, t.data with
    | .engine _ other, some d => if other = op then some d else none
    | _, _ => none

/-- Whether an engine operation without data is among the effects. -/
def has (effects : TriggerSet) (op : EngineOp) : Bool :=
  effects.any fun t =>
    match t.operation, t.data with
    | .engine _ other, none => other == op
    | _, _ => false

def isStart (t : Trigger) : Bool :=
  match t.operation, t.data with
  | .engine .tmcc .numeric, some d => d == 3
  | .engine _ .startUpImmediate, none => true
  | .engine _ .startUpDelayed, none => true
  | _, _ => false

def isShutdown (t : Trigger) : Bool :=
  match t.operation, t.data with
  | .engine _ .numeric, some d => d == 5
  | .engine _ .shutdownImmediate, none => true
  | .engine _ .shutdownDelayed, none => true
  | _, _ => false

/-- The engine operation of a trigger without data. -/
def bareOp? (t : Trigger) : Option EngineOp :=
  match t.operation, t.data with
  | .engine _ op, none => some op
  | _, _ => none

def setsAux1 : EngineOp → Bool
  | .aux1On => true
  | .aux1Off => true
  | .aux1OptionTwo => true
  | _ => false

def setsAux2 : EngineOp → Bool
  | .aux2On => true
  | .aux2Off => true
  | .aux2OptionTwo => true
  | _ => false

end Effects

/-- A word as a byte; one that does not fit is the greatest byte. -/
def clampByte (w : UInt16) : UInt8 := if w ≤ 255 then w.toUInt8 else 255

namespace MotiveState

/-- Decide the generation by the first command that is no halt. -/
def latchGeneration (s : MotiveState) (c : Command) : MotiveState :=
  if s.legacy = none ∧ (Update.command c).isHalt = false then
    { s with legacy := some (c.isLegacy || decide (99 < c.address)) }
  else s

def halt (s : MotiveState) : MotiveState :=
  { s with
    aux1 := some .aux1Off, aux2 := some .aux2Off, aux := some .aux2OptionOne, speed := some 0
    rpm := some 0, labor := some restingLabor, numeric := none }

def applyNumeric (op : EngineOp) (data : Option UInt16) (effects : TriggerSet) (s : MotiveState) :
    MotiveState :=
  if op = .numeric then { s with numeric := data }
  else match Effects.data? effects .numeric with
    | some n => { s with numeric := some n }
    | none => s

/-- The direction after a reversal. Only a direction that was set in the engine's own generation can be
reversed; any other is no longer known. -/
def reversed (s : MotiveState) : Option EngineOp :=
  match s.direction, s.directionFrom with
  | some dir, some latched =>
    if latched = s.generation then
      some (if dir = .forwardDirection then .reverseDirection else .forwardDirection)
    else none
  | _, _ => none

def applyDirection (generation : Generation) (op : EngineOp) (effects : TriggerSet) (s : MotiveState) :
    MotiveState :=
  if op = .forwardDirection ∨ op = .reverseDirection then
    { s with direction := some op, directionFrom := some generation }
  else if op = .toggleDirection then
    match s.reversed with
    | some dir => { s with direction := some dir }
    | none => { s with direction := none, directionFrom := none }
  else if Effects.has effects .forwardDirection then
    { s with direction := some .forwardDirection, directionFrom := some generation }
  else if Effects.has effects .reverseDirection then
    { s with direction := some .reverseDirection, directionFrom := some generation }
  else s

def applyTrainBrake (op : EngineOp) (data : Option UInt16) (effects : TriggerSet) (s : MotiveState) :
    MotiveState :=
  if op = .trainBrake then { s with trainBrake := data.map clampByte }
  else match Effects.data? effects .trainBrake with
    | some b => { s with trainBrake := some (clampByte b) }
    | none => s

def applySmoke (effects : TriggerSet) (s : MotiveState) : MotiveState :=
  match effects.findSome? SmokeLevel.ofTrigger? with
  | some level => { s with smoke := some level }
  | none => s

def applyPress (window now : Nat) (op : EngineOp) (s : MotiveState) : MotiveState :=
  if op = .aux1OptionOne then
    let aux1 := if pulseDue s.aux1Pressed window now then
        some (pulse s.aux1 .aux1On .aux1OptionTwo .aux1Off)
      else s.aux1
    { s with aux := some op, aux1 := aux1, aux1Pressed := some now }
  else if op = .aux2OptionOne then
    let aux2 := if pulseDue s.aux2Pressed window now then
        some (pulse s.aux2 .aux2On .aux2OptionTwo .aux2Off)
      else s.aux2
    { s with aux := some op, aux2 := aux2, aux2Pressed := some now }
  else s

def applyOutput (s : MotiveState) (t : Trigger) : MotiveState :=
  match Effects.bareOp? t with
  | some op =>
    if Effects.setsAux1 op then { s with aux1 := some op }
    else if Effects.setsAux2 op then { s with aux2 := some op }
    else s
  | none => s

/-- The outputs that the effects set, the last one of each counting. -/
def applyOutputs (effects : TriggerSet) (s : MotiveState) : MotiveState :=
  effects.foldl applyOutput s

def applyRpm (op : EngineOp) (data : Option UInt16) (effects : TriggerSet) (s : MotiveState) :
    MotiveState :=
  if op = .dieselRpm then { s with rpm := data.map clampByte }
  else if op = .rpmUp then
    { s with rpm := some (match s.rpm with
        | some r => if r < 7 then r + 1 else 7
        | none => 1) }
  else if Effects.has effects .rpmDown then
    { s with rpm := some (match s.rpm with
        | some r => if r = 0 then 0 else r - 1
        | none => 0) }
  else match Effects.data? effects .dieselRpm with
    | some r => { s with rpm := some (clampByte r) }
    | none => if Effects.has effects .dieselRpm then { s with rpm := some 0 } else s

def applyLabor (op : EngineOp) (data : Option UInt16) (effects : TriggerSet) (s : MotiveState) :
    MotiveState :=
  if op = .engineLabor then { s with labor := data.map clampByte }
  else match Effects.data? effects .engineLabor with
    | some l => { s with labor := some (clampByte l) }
    | none => s

def applySpeed (op : EngineOp) (data : Option UInt16) (effects : TriggerSet) (s : MotiveState) :
    MotiveState :=
  if op = .absoluteSpeed then { s with speed := data }
  else match Effects.data? effects .absoluteSpeed with
    | some v => { s with speed := some v }
    | none => if Effects.has effects .stopImmediate then { s with speed := some 0 } else s

def applyMomentum (op : EngineOp) (data : Option UInt16) (s : MotiveState) : MotiveState :=
  match op with
  | .momentumLow => { s with momentum := some 0 }
  | .momentumMedium => { s with momentum := some 3 }
  | .momentumHigh => { s with momentum := some 7 }
  | .momentum => { s with momentum := data.map clampByte }
  | _ => s

def applyStart (effects : TriggerSet) (s : MotiveState) : MotiveState :=
  if effects.any Effects.isStart then { s with started := some true }
  else if effects.any Effects.isShutdown then { s with started := some false }
  else s

/-- All fields after the number key, in order. -/
def applyFields (window now : Nat) (generation : Generation) (op : EngineOp) (data : Option UInt16)
    (effects : TriggerSet) (s : MotiveState) : MotiveState :=
  let s := applyDirection generation op effects s
  let s := applyTrainBrake op data effects s
  let s := applySmoke effects s
  let s := applyPress window now op s
  let s := applyOutputs effects s
  let s := applyRpm op data effects s
  let s := applyLabor op data effects s
  let s := applySpeed op data effects s
  let s := applyMomentum op data s
  applyStart effects s

/-- Whether an operation asks for the direction that is already set. -/
def keepsDirection (s : MotiveState) (op : EngineOp) : Bool :=
  (op == .forwardDirection || op == .reverseDirection) && s.direction == some op

/-- Apply an engine operation: one that asks for the direction already set goes no further than the number
key. -/
def applyOperation (rules : Rules) (now : Nat) (c : Command) (generation : Generation) (op : EngineOp)
    (s : MotiveState) : MotiveState × Bool :=
  let effects := Effects.ofCommand rules.graph c
  let s := applyNumeric op c.data effects s
  if s.keepsDirection op then (s.record (.command c) now, false)
  else
    ((applyFields rules.settings.auxPulseWindow now generation op c.data effects s).record
      (.command c) now, true)

/-- Apply a command that was accepted. A repetition within the window is dropped, a halt brings everything to
rest, and an operation that is no engine's does nothing. -/
def applyCommand (rules : Rules) (now : Nat) (c : Command) (s : MotiveState) : MotiveState × Bool :=
  let s := s.latchGeneration c
  if s.profile.repeats c rules.settings.duplicateWindow now then (s, false)
  else if (Update.command c).isHalt then (s.halt.record (.command c) now, true)
  else match c.operation with
    | .engine generation op => applyOperation rules now c generation op s
    | _ => (s, false)

end MotiveState
end RailLayout
