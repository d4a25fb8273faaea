import RailLayout.Lcs.District
import RailLayout.Lcs.Output
import RailLayout.Lcs.Position
import RailLayout.Lcs.Relay
import RailLayout.Lcs.Sensor
import RailLayout.Lcs.Wireless

/-!
The bodies of board messages: for each board, what its configuration holds and what it reports. A body is read
and written by the action it belongs to.
-/

namespace RailLayout

namespace Board

/-- What a board's configuration holds; the wireless module's is taken as it is and has no parts. -/
@[reducible] def Config : Board → Type
  | irda => SensorConfig
  | wifi => Empty
  | ser2 => ConfigHeader
  | asc2 => RelayConfig
  | bpc2 => DistrictConfig
  | amc2 => OutputConfig
  | stm2 => ConfigHeader

/-- What a board is told or reports under its own actions. -/
@[reducible] def Report : Board → Type
  | irda => SensorReport
  | wifi => WirelessReport
  | ser2 => Empty
  | asc2 => RelayReport
  | bpc2 => DistrictReport
  | amc2 => OutputReport
  | stm2 => PositionReport

instance decEqConfig : (b : Board) → DecidableEq b.Config
  | irda => inferInstanceAs (DecidableEq SensorConfig)
  | wifi => inferInstanceAs (DecidableEq Empty)
  | ser2 => inferInstanceAs (DecidableEq ConfigHeader)
  | asc2 => inferInstanceAs (DecidableEq RelayConfig)
  | bpc2 => inferInstanceAs (DecidableEq DistrictConfig)
  | amc2 => inferInstanceAs (DecidableEq OutputConfig)
  | stm2 => inferInstanceAs (DecidableEq ConfigHeader)

instance decEqReport : (b : Board) → DecidableEq b.Report
  | irda => inferInstanceAs (DecidableEq SensorReport)
  | wifi => inferInstanceAs (DecidableEq WirelessReport)
  | ser2 => inferInstanceAs (DecidableEq Empty)
  | asc2 => inferInstanceAs (DecidableEq RelayReport)
  | bpc2 => inferInstanceAs (DecidableEq DistrictReport)
  | amc2 => inferInstanceAs (DecidableEq OutputReport)
  | stm2 => inferInstanceAs (DecidableEq PositionReport)

end Board

/-- The body of a board message. -/
inductive BoardBody (board : Board) where
  | common (body : CommonBody)
  | config (config : board.Config)
  | report (report : board.Report)
  deriving DecidableEq

namespace BoardBody

/-- The body of a query or a refusal. -/
def empty {board : Board} : BoardBody board := .common .empty

def readConfig : (board : Board) → Read (BoardBody board)
  | .irda => do return .config (← SensorConfig.read)
  | .wifi => do return .report (.raw (← Read.rest))
  | .ser2 => do return .config (← ConfigHeader.read)
  | .asc2 => do return .config (← RelayConfig.read)
  | .bpc2 => do return .config (← DistrictConfig.read)
  | .amc2 => do return .config (← OutputConfig.read)
  | .stm2 => do return .config (← ConfigHeader.read)

/-- Read the data of a board's own action. -/
def readReport : (board : Board) → FrameCode → board.Own → Read board.Report
  | .irda, _, action => SensorReport.read action
  | .wifi, _, action => WirelessReport.read action
  | .ser2, _, action => nomatch action
  | .asc2, code, action => RelayReport.read code action
  | .bpc2, _, action => DistrictReport.read action
  | .amc2, code, action => OutputReport.read code action
  | .stm2, _, action => PositionReport.read action

def read (board : Board) (code : FrameCode) : BoardAction board → Read (BoardBody board)
  | .common .config => readConfig board
  | .common action => do return .common (← CommonBody.read code action)
  | .own action => do return .report (← readReport board code action)

def encodeConfig : (board : Board) → board.Config → List UInt8
  | .irda, c => SensorConfig.encode c
  | .wifi, c => nomatch c
  | .ser2, c => ConfigHeader.encode c
  | .asc2, c => RelayConfig.encode c
  | .bpc2, c => DistrictConfig.encode c
  | .amc2, c => OutputConfig.encode c
  | .stm2, c => ConfigHeader.encode c

/-- The bytes of a board's own data, in a frame with the given code. -/
def encodeReport : (board : Board) → FrameCode → board.Report → List UInt8
  | .irda, _, r => SensorReport.encode r
  | .wifi, _, r => WirelessReport.encode r
  | .ser2, _, r => nomatch r
  | .asc2, _, r => RelayReport.encode r
  | .bpc2, _, r => DistrictReport.encode r
  | .amc2, code, r => OutputReport.encode code r
  | .stm2, _, r => PositionReport.encode r

/-- The bytes of a body in a frame with the given code. -/
def encode {board : Board} (code : FrameCode) : BoardBody board → List UInt8
  | common body => body.encode
  | config c => encodeConfig board c
  | report r => encodeReport board code r

end BoardBody

namespace BoardAction

/-- The kind of component that an action is about. A sensor track is an accessory where it describes itself; a
relay that drives a switch machine is a switch; and the first two actions of a power district address it as a
train. -/
def scope : {board : Board} → BoardAction board → Scope
  | .irda, .common .info => .accessory
  | .irda, _ => .sensorTrack
  | .wifi, _ => .base
  | .ser2, _ => .accessory
  | .asc2, .own .control4 => .switch
  | .asc2, .own .control5 => .switch
  | .asc2, _ => .accessory
  | .bpc2, .own .control1 => .train
  | .bpc2, .own .control2 => .train
  | .bpc2, _ => .accessory
  | .amc2, _ => .accessory
  | .stm2, .own .control1 => .switch
  | .stm2, _ => .accessory

end BoardAction
end RailLayout
