import RailLayout.State.AccessoryKind
import RailLayout.State.Profile

/-!
The state of an accessory. The first board that reports for the address decides what drives it, and boards of
another kind are refused from then on. Once a relay or a power district has reported whether it is on, commands
no longer change that.
-/

namespace RailLayout

/-- The state of an accessory, as far as it is known. -/
structure AccessoryState where
  profile : Profile
  kind : AccessoryKind
  /-- Whether a board has reported the output, so that commands no longer change it. -/
  claimed : Bool
  isPowerDistrict : Bool
  /-- The option-one key pressed last. -/
  aux : Option AccessoryOp
  aux1 : Option AccessoryOp
  aux2 : Option AccessoryOp
  /-- The number key pressed last. -/
  number : Option UInt16
  /-- When the first option-one key was pressed last. -/
  aux1Pressed : Option Nat
  /-- When the second option-one key was pressed last. -/
  aux2Pressed : Option Nat
  /-- The action under which a power district first reported. -/
  districtAction : Option DistrictAction
  /-- The configuration of a motor and lamp controller. -/
  output : Option OutputConfig
  /-- What a sensor track says it is. -/
  sensorInfo : Option BoardInfo
  deriving DecidableEq

namespace AccessoryState

def fresh (profile : Profile) : AccessoryState where
  profile
  kind := .plain
  claimed := false
  isPowerDistrict := false
  aux := none
  aux1 := none
  aux2 := none
  number := none
  aux1Pressed := none
  aux2Pressed := none
  districtAction := none
  output := none
  sensorInfo := none

def isAux1On (s : AccessoryState) : Bool := s.aux1 == some .aux1On

def isAux2On (s : AccessoryState) : Bool := s.aux2 == some .aux2On

def isSensorTrack (s : AccessoryState) : Bool := s.kind == .sensorTrack

def record (s : AccessoryState) (u : Update) (now : Nat) : AccessoryState :=
  { s with profile := s.profile.record u now }

def halt (s : AccessoryState) : AccessoryState :=
  { s with aux1 := some .aux1Off, aux2 := some .aux2Off, aux := some .aux2OptOne, number := none }

def applyPress (window now : Nat) (op : AccessoryOp) (s : AccessoryState) : AccessoryState :=
  if op = .aux1OptOne then
    let aux1 := if pulseDue s.aux1Pressed window now then
        some (pulse s.aux1 .aux1On .aux1OptTwo .aux1Off)
      else s.aux1
    { s with aux := some op, aux1 := aux1, aux1Pressed := some now }
  else if op = .aux2OptOne then
    let aux2 := if pulseDue s.aux2Pressed window now then
        some (pulse s.aux2 .aux2On .aux2OptTwo .aux2Off)
      else s.aux2
    { s with aux := some op, aux2 := aux2, aux2Pressed := some now }
  else s

/-- An output that one effect of a command sets. -/
def applyOutput (s : AccessoryState) (t : Trigger) : AccessoryState :=
  match t.operation with
  | .accessory .aux1On => { s with aux1 := some .aux1On }
  | .accessory .aux1Off => { s with aux1 := some .aux1Off }
  | .accessory .aux1OptTwo => { s with aux1 := some .aux1OptTwo }
  | .accessory .aux2On => { s with aux2 := some .aux2On }
  | .accessory .aux2Off => { s with aux2 := some .aux2Off }
  | .accessory .aux2OptTwo => { s with aux2 := some .aux2OptTwo }
  | _ => s

/-- Apply an accessory operation; of a claimed accessory only the number key changes. -/
def applyOperation (rules : Rules) (now : Nat) (c : Command) (op : AccessoryOp) (s : AccessoryState) :
    AccessoryState × Bool :=
  let s := s.record (.command c) now
  let s := if op = .numeric then { s with number := c.data } else s
  if s.claimed then (s, op == .numeric)
  else
    let s := applyPress rules.settings.auxPulseWindow now op s
    ((rules.graph.resultsIn c.trigger true false).foldl applyOutput s, true)

def applyCommand (rules : Rules) (now : Nat) (c : Command) (s : AccessoryState) : AccessoryState × Bool :=
  if (Update.command c).isHalt then ((s.record (.command c) now).halt, true)
  else match c.operation with
    | .accessory op => applyOperation rules now c op s
    | _ => (s, false)

/-- Take over that the output is on or off. -/
def setPower (s : AccessoryState) (on : Bool) : AccessoryState :=
  if on then { s with aux := some .aux1OptOne, aux1 := some .aux1On, aux2 := some .aux2On }
  else { s with aux := some .aux2OptOne, aux1 := some .aux1Off, aux2 := some .aux2Off }

/-- The kind of accessory that a message speaks for. -/
def kindOf? : Message → Option AccessoryKind
  | .board .asc2 _ => some .relay
  | .board .bpc2 _ => some .powerDistrict
  | .board .amc2 _ => some .motorLamp
  | .board .irda _ => some .sensorTrack
  | _ => none

/-- Apply a relay's report on its one output. -/
def applyRelay (m : BoardMessage .asc2) (s : AccessoryState) : AccessoryState × Bool :=
  match m.fault, m.action, m.body with
  | none, .own .control1, .report r =>
    match r.values? with
    | some values => (({ s with claimed := true } : AccessoryState).setPower (values != 0), true)
    | none => (s, false)
  | _, _, _ => (s, false)

/-- Take over the state of a power district, and the action of its first report. -/
def claimDistrict (action : DistrictAction) (state : UInt8) (s : AccessoryState) : AccessoryState :=
  ({ s with
    claimed := true
    isPowerDistrict := true
    districtAction := s.districtAction.or (some action) } : AccessoryState).setPower (state == 1)

def applyDistrict (m : BoardMessage .bpc2) (s : AccessoryState) : AccessoryState × Bool :=
  match m.fault, m.action, m.body with
  | none, .own .control1, .report (.state state) => (claimDistrict .control1 state s, true)
  | none, .own .control3, .report (.state state) => (claimDistrict .control3 state s, true)
  | _, _, _ => (s, false)

/-- Apply a motor and lamp controller's message; before its first configuration nothing is known of it. -/
def applyOutputMessage (m : BoardMessage .amc2) (s : AccessoryState) : AccessoryState × Bool :=
  match s.output with
  | some config =>
    let (next, changed) := config.update m
    ({ s with output := some next }, changed)
  | none =>
    match m.fault, m.body with
    | none, .config whole => ({ s with output := some whole }, true)
    | _, _ => (s, false)

/-- Apply what a sensor track says it is. -/
def applySensor (m : BoardMessage .irda) (s : AccessoryState) : AccessoryState × Bool :=
  match m.body with
  | .common (.info info) => ({ s with sensorInfo := some info }, true)
  | _ => (s, true)

/-- Apply a message of the board that drives the address. -/
def applyBoard (m : Message) (s : AccessoryState) : AccessoryState × Bool :=
  match m with
  | .board .asc2 b => applyRelay b s
  | .board .bpc2 b => applyDistrict b s
  | .board .amc2 b => applyOutputMessage b s
  | .board .irda b => applySensor b s
  | _ => (s, false)

/-- Apply a record. An acknowledgement and a failed read say nothing. -/
def applyRecord (now : Nat) (r : RecordMessage) (s : AccessoryState) : AccessoryState × Bool :=
  if r.isAcknowledgement = true ∨ r.status ≠ 0 then (s, false)
  else
    (({ s with profile := s.profile.bindNames r.name? r.number? } : AccessoryState).record
      (.message (.record r)) now, true)

/-- Apply a board's message, unless another kind of board holds the address. -/
def applyKind (now : Nat) (m : Message) (offered : AccessoryKind) (s : AccessoryState) :
    Outcome AccessoryState :=
  if s.kind = .plain ∨ s.kind = offered then
    match applyBoard m { s with kind := offered } with
    | (s, true) => ⟨s.record (.message m) now, .ok true⟩
    | (s, false) => ⟨s, .ok false⟩
  else ⟨s, .error (.protocol (.heldByOther (s.profile.address.getD 0) s.kind offered))⟩

def applyMessage (now : Nat) (m : Message) (s : AccessoryState) : Outcome AccessoryState :=
  match m with
  | .record r =>
    let (s, changed) := applyRecord now r s
    ⟨s, .ok changed⟩
  | m =>
    match kindOf? m with
    | some offered => applyKind now m offered s
    | none => ⟨s, .ok false⟩

/-- Take an update, if it is for this accessory. -/
def update (rules : Rules) (now : Nat) (u : Update) (s : AccessoryState) : Outcome AccessoryState :=
  match s.profile.accept .accessory u with
  | .error e => ⟨s, .error e⟩
  | .ok profile =>
    let s := { s with profile := profile }
    match u with
    | .command c =>
      let (s, changed) := s.applyCommand rules now c
      ⟨s, .ok changed⟩
    | .message m => s.applyMessage now m

/-- What a sensor track says it is, as long as it has not. -/
def defaultInfo (recordNo : UInt8) : BoardInfo := ⟨recordNo, 1, 0, 0⟩

/-- The updates that bring the part of the state that goes with the kind to where it is. -/
def kindUpdates (s : AccessoryState) (address : UInt16) (recordNo : UInt8) : List Update :=
  match s.kind with
  | .plain =>
    (s.aux.toList ++ s.aux1.toList ++ s.aux2.toList).map fun op =>
      .command ⟨.accessory op, address, none, .accessory⟩
  | .relay =>
    if s.claimed then
      [.message (.board .asc2
        ⟨.asc2Rx, recordNo, .own .control1, none, .report (.control1 (Payload.flag s.isAux1On) 0)⟩)]
    else []
  | .powerDistrict =>
    if s.claimed then
      [.message (.board .bpc2
        ⟨.bpc2Rx, recordNo, .own (s.districtAction.getD .control3), none,
          .report (.state (Payload.flag s.isAux1On))⟩)]
    else []
  | .motorLamp =>
    (s.output.map fun config =>
      Update.message (.board .amc2 ⟨.amc2Rx, recordNo, .common .config, none, .config config⟩)).toList
  | .sensorTrack =>
    [.message (.board .irda
      ⟨.irdaRx, recordNo, .common .info, none,
        .common (.info (s.sensorInfo.getD (defaultInfo recordNo)))⟩)]

/-- The updates that bring a fresh state to this one. -/
def script (s : AccessoryState) : List Update :=
  match s.profile.address, s.profile.recordNo? with
  | some address, some recordNo =>
    s.profile.recordUpdates .accessory [] ++ s.kindUpdates address recordNo
  | _, _ => []

def isKnown (s : AccessoryState) : Bool :=
  s.profile.hasNames || s.aux.isSome || s.aux1.isSome || s.aux2.isSome || s.number.isSome ||
    s.output.isSome || s.kind != .plain

end AccessoryState
end RailLayout
