import RailLayout.Frame.Code

/-!
The actions of the Layout Control System boards. Seven actions are common to all boards; the others are each
board's own. An action has a code of seven bits and says who may send it.
-/

namespace RailLayout

/-- Who may send an action. -/
structure Capabilities where
  /-- The host may ask for it. -/
  gettable : Bool
  /-- The host may command it. -/
  settable : Bool
  /-- The device answers it. -/
  responds : Bool
  deriving DecidableEq

/-- Whether a frame of the role may carry an action with these capabilities. -/
def Capabilities.allow (caps : Capabilities) : Role → Bool
  | .get => caps.gettable
  | .set => caps.settable
  | .rx => caps.responds
  | .other => false

/-- Actions of every board. -/
inductive CommonAction where
  | firmware
  | status
  | config
  | info
  | clearErrors
  | reset
  | identify
  deriving DecidableEq

namespace CommonAction

def all : List CommonAction := [firmware, status, config, info, clearErrors, reset, identify]

def bits : CommonAction → UInt8
  | firmware => 0x01
  | status => 0x02
  | config => 0x03
  | info => 0x04
  | clearErrors => 0x05
  | reset => 0x06
  | identify => 0x07

def name : CommonAction → String
  | firmware => "Firmware"
  | status => "Status"
  | config => "Config"
  | info => "Info"
  | clearErrors => "ClearErrors"
  | reset => "Reset"
  | identify => "Identify"

/-- Reports are asked for, configuration is also written, and the rest is only commanded. -/
def capabilities : CommonAction → Capabilities
  | firmware => ⟨true, false, true⟩
  | status => ⟨true, false, true⟩
  | info => ⟨true, false, true⟩
  | config => ⟨true, true, true⟩
  | clearErrors => ⟨false, true, false⟩
  | reset => ⟨false, true, false⟩
  | identify => ⟨false, true, false⟩

end CommonAction

/-- Actions of a sensor track. -/
inductive SensorAction where
  /-- An engine passed. -/
  | data
  | sequence
  | record
  | diagData
  deriving DecidableEq

/-- Actions of the wireless module. -/
inductive WirelessAction where
  | connect
  | ip
  | respBcasts
  | unlock
  | passcode
  deriving DecidableEq

/-- Actions of a relay controller. -/
inductive RelayAction where
  /-- One relay, with a hold time. -/
  | control1
  /-- A bank of relays, with a mask. -/
  | control2
  /-- A pulse on one relay, or the bank as the board reports it. -/
  | control3
  /-- A switch machine, with a hold time. -/
  | control4
  /-- A latched switch machine. -/
  | control5
  deriving DecidableEq

/-- Actions of a power district controller. The first two address the district as a train, the last two as
an accessory; odd ones are about one district, even ones about a bank. -/
inductive DistrictAction where
  | control1
  | control2
  | control3
  | control4
  deriving DecidableEq

/-- Actions of a motor and lamp controller. -/
inductive OutputAction where
  | motor
  | lamp
  | motorConfig
  deriving DecidableEq

/-- Actions of a switch machine controller. -/
inductive PositionAction where
  | control1
  deriving DecidableEq

namespace Board

/-- The actions that a board does not share with the others. -/
@[reducible] def Own : Board → Type
  | irda => SensorAction
  | wifi => WirelessAction
  | ser2 => Empty
  | asc2 => RelayAction
  | bpc2 => DistrictAction
  | amc2 => OutputAction
  | stm2 => PositionAction

instance decEqOwn : (b : Board) → DecidableEq b.Own
  | irda => inferInstanceAs (DecidableEq SensorAction)
  | wifi => inferInstanceAs (DecidableEq WirelessAction)
  | ser2 => inferInstanceAs (DecidableEq Empty)
  | asc2 => inferInstanceAs (DecidableEq RelayAction)
  | bpc2 => inferInstanceAs (DecidableEq DistrictAction)
  | amc2 => inferInstanceAs (DecidableEq OutputAction)
  | stm2 => inferInstanceAs (DecidableEq PositionAction)

/-- The board's own actions, each with its code, its name and its capabilities. -/
def ownActions : (b : Board) → List (b.Own × UInt8 × String × Capabilities)
  | irda =>
    [(.data, 0x10, "Data", ⟨false, false, true⟩),
     (.sequence, 0x11, "Sequence", ⟨true, true, true⟩),
     (.record, 0x12, "Record", ⟨true, true, true⟩),
     (.diagData, 0x13, "DiagData", ⟨true, true, true⟩)]
  | wifi =>
    [(.connect, 0x10, "Connect", ⟨true, false, true⟩),
     (.ip, 0x11, "Ip", ⟨true, false, true⟩),
     (.respBcasts, 0x12, "RespBcasts", ⟨true, true, true⟩),
     (.unlock, 0x13, "Unlock", ⟨false, true, true⟩),
     (.passcode, 0x14, "Passcode", ⟨true, true, true⟩)]
  | ser2 => []
  | asc2 =>
    [(.control1, 0x10, "Control1", ⟨true, true, true⟩),
     (.control2, 0x11, "Control2", ⟨true, true, true⟩),
     (.control3, 0x12, "Control3", ⟨true, true, true⟩),
     (.control4, 0x14, "Control4", ⟨true, true, true⟩),
     (.control5, 0x15, "Control5", ⟨true, true, true⟩)]
  | bpc2 =>
    [(.control1, 0x10, "Control1", ⟨true, true, true⟩),
     (.control2, 0x11, "Control2", ⟨true, true, true⟩),
     (.control3, 0x12, "Control3", ⟨true, true, true⟩),
     (.control4, 0x13, "Control4", ⟨true, true, true⟩)]
  | amc2 =>
    [(.motor, 0x10, "Motor", ⟨true, true, true⟩),
     (.lamp, 0x11, "Lamp", ⟨true, true, true⟩),
     (.motorConfig, 0x12, "MotorConfig", ⟨true, true, true⟩)]
  | stm2 => [(.control1, 0x10, "Control1", ⟨true, false, true⟩)]

end Board

/-- An action of a board: a common one or one of its own. -/
inductive BoardAction (board : Board) where
  | common (action : CommonAction)
  | own (action : board.Own)
  deriving DecidableEq

namespace BoardAction

variable {board : Board}

/-- The row of an own action in the board's table. -/
def row? (action : board.Own) : Option (board.Own × UInt8 × String × Capabilities) :=
  board.ownActions.find? fun row => row.1 == action

def bits : BoardAction board → UInt8
  | common action => action.bits
  | own action => match row? action with
    | some (_, bits, _) => bits
    | none => 0

def name : BoardAction board → String
  | common action => action.name
  | own action => match row? action with
    | some (_, _, name, _) => name
    | none => ""

/-- The action as messages show it; the serial bridge, with no actions of its own, shows the name alone. -/
def text : BoardAction board → String
  | common action => if board = .ser2 then action.name else "Common(" ++ action.name ++ ")"
  | own action => name (.own action)

def capabilities : BoardAction board → Capabilities
  | common action => action.capabilities
  | own action => match row? action with
    | some (_, _, _, caps) => caps
    | none => ⟨false, false, false⟩

def all (board : Board) : List (BoardAction board) :=
  board.ownActions.map (fun row => .own row.1) ++ CommonAction.all.map .common

/-- The action of the board that a code names. -/
def ofBits? (board : Board) (bits : UInt8) : Option (BoardAction board) :=
  (all board).find? fun action => action.bits == bits

def common? : BoardAction board → Option CommonAction
  | common action => some action
  | own _ => none

/-- Whether this is the configuration of the board. -/
def isConfig (action : BoardAction board) : Bool :=
  action.common? == some .config

end BoardAction
end RailLayout
