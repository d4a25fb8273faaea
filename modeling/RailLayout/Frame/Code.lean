/-!
The codes that open a frame: the byte of each, the family of devices it belongs to, and its role between host
and device.
-/

namespace RailLayout

/-- The seven boards of the Layout Control System, by product. -/
inductive Board where
  /-- Sensor track. -/
  | irda
  /-- Wireless module. -/
  | wifi
  /-- Serial bridge. -/
  | ser2
  /-- Relay controller. -/
  | asc2
  /-- Power district controller. -/
  | bpc2
  /-- Motor and lamp controller. -/
  | amc2
  /-- Switch machine controller. -/
  | stm2
  deriving DecidableEq

namespace Board

def all : List Board := [irda, wifi, ser2, asc2, bpc2, amc2, stm2]

def name : Board → String
  | irda => "Irda"
  | wifi => "Wifi"
  | ser2 => "Ser2"
  | asc2 => "Asc2"
  | bpc2 => "Bpc2"
  | amc2 => "Amc2"
  | stm2 => "Stm2"

end Board

/-- The families of devices that share a group of codes. -/
inductive Family where
  | everyone
  | base
  | tmcc
  | ping
  | board (board : Board)
  | block
  | fourDigit
  | radio
  deriving DecidableEq

namespace Family

def name : Family → String
  | everyone => "All"
  | base => "Base"
  | tmcc => "Tmcc"
  | ping => "Ping"
  | board b => b.name
  | block => "Block"
  | fourDigit => "D4"
  | radio => "Radio"

/-- Whether the family is a board of the Layout Control System. -/
def isBoard : Family → Bool
  | board _ => true
  | _ => false

end Family

/-- What a frame does between host and device. -/
inductive Role where
  /-- The host asks. -/
  | get
  /-- The host commands. -/
  | set
  /-- The device answers or reports. -/
  | rx
  /-- None of these. -/
  | other
  deriving DecidableEq

def Role.all : List Role := [.get, .set, .rx, .other]

def Role.name : Role → String
  | .get => "Get"
  | .set => "Set"
  | .rx => "Rx"
  | .other => "Other"

/-- The codes that open a frame. -/
inductive FrameCode where
  | allGet
  | allSet
  | baseEngine
  | baseTrain
  | baseAccessory
  | base
  | baseRoute
  | baseSwitch
  | baseMemory
  | tmccTx
  | tmccRx
  | ping
  | updateEngineSpeed
  | updateTrainSpeed
  | tmcc4Tx
  | tmcc4Rx
  | irdaGet
  | irdaSet
  | irdaRx
  | wifiGet
  | wifiSet
  | wifiRx
  | wifiPing
  | ser2Get
  | ser2Set
  | ser2Rx
  | asc2Get
  | asc2Set
  | asc2Rx
  | bpc2Get
  | bpc2Set
  | bpc2Rx
  | amc2Get
  | amc2Set
  | amc2Rx
  | stm2Get
  | stm2Set
  | stm2Rx
  | blockRx
  | d4Engine
  | d4Train
  | rfRx
  | bleRx
  deriving DecidableEq

namespace FrameCode

/-- Every code, in the order of their bytes. -/
def all : List FrameCode :=
  [allGet, allSet, baseEngine, baseTrain, baseAccessory, base, baseRoute, baseSwitch, baseMemory,
   tmccTx, tmccRx, ping, updateEngineSpeed, updateTrainSpeed, tmcc4Tx, tmcc4Rx, irdaGet, irdaSet,
   irdaRx, wifiGet, wifiSet, wifiRx, wifiPing, ser2Get, ser2Set, ser2Rx, asc2Get, asc2Set, asc2Rx,
   bpc2Get, bpc2Set, bpc2Rx, amc2Get, amc2Set, amc2Rx, stm2Get, stm2Set, stm2Rx, blockRx, d4Engine,
   d4Train, rfRx, bleRx]

def byte : FrameCode → UInt8
  | allGet => 0x01
  | allSet => 0x02
  | baseEngine => 0x20
  | baseTrain => 0x21
  | baseAccessory => 0x22
  | base => 0x23
  | baseRoute => 0x24
  | baseSwitch => 0x25
  | baseMemory => 0x26
  | tmccTx => 0x27
  | tmccRx => 0x28
  | ping => 0x29
  | updateEngineSpeed => 0x2A
  | updateTrainSpeed => 0x2B
  | tmcc4Tx => 0x2C
  | tmcc4Rx => 0x2D
  | irdaGet => 0x30
  | irdaSet => 0x31
  | irdaRx => 0x32
  | wifiGet => 0x34
  | wifiSet => 0x35
  | wifiRx => 0x36
  | wifiPing => 0x37
  | ser2Get => 0x38
  | ser2Set => 0x39
  | ser2Rx => 0x3A
  | asc2Get => 0x3C
  | asc2Set => 0x3D
  | asc2Rx => 0x3E
  | bpc2Get => 0x40
  | bpc2Set => 0x41
  | bpc2Rx => 0x42
  | amc2Get => 0x44
  | amc2Set => 0x45
  | amc2Rx => 0x46
  | stm2Get => 0x4C
  | stm2Set => 0x4D
  | stm2Rx => 0x4E
  | blockRx => 0x50
  | d4Engine => 0x5A
  | d4Train => 0x5B
  | rfRx => 0x72
  | bleRx => 0x76

def name : FrameCode → String
  | allGet => "AllGet"
  | allSet => "AllSet"
  | baseEngine => "BaseEngine"
  | baseTrain => "BaseTrain"
  | baseAccessory => "BaseAcc"
  | base => "Base"
  | baseRoute => "BaseRoute"
  | baseSwitch => "BaseSwitch"
  | baseMemory => "BaseMemory"
  | tmccTx => "TmccTx"
  | tmccRx => "TmccRx"
  | ping => "Ping"
  | updateEngineSpeed => "UpdateEngineSpeed"
  | updateTrainSpeed => "UpdateTrainSpeed"
  | tmcc4Tx => "Tmcc4Tx"
  | tmcc4Rx => "Tmcc4Rx"
  | irdaGet => "IrdaGet"
  | irdaSet => "IrdaSet"
  | irdaRx => "IrdaRx"
  | wifiGet => "WifiGet"
  | wifiSet => "WifiSet"
  | wifiRx => "WifiRx"
  | wifiPing => "WifiPing"
  | ser2Get => "Ser2Get"
  | ser2Set => "Ser2Set"
  | ser2Rx => "Ser2Rx"
  | asc2Get => "Asc2Get"
  | asc2Set => "Asc2Set"
  | asc2Rx => "Asc2Rx"
  | bpc2Get => "Bpc2Get"
  | bpc2Set => "Bpc2Set"
  | bpc2Rx => "Bpc2Rx"
  | amc2Get => "Amc2Get"
  | amc2Set => "Amc2Set"
  | amc2Rx => "Amc2Rx"
  | stm2Get => "Stm2Get"
  | stm2Set => "Stm2Set"
  | stm2Rx => "Stm2Rx"
  | blockRx => "BlockRx"
  | d4Engine => "D4Engine"
  | d4Train => "D4Train"
  | rfRx => "RfRx"
  | bleRx => "BleRx"

def family : FrameCode → Family
  | allGet => .everyone
  | allSet => .everyone
  | baseEngine => .base
  | baseTrain => .base
  | baseAccessory => .base
  | base => .base
  | baseRoute => .base
  | baseSwitch => .base
  | baseMemory => .base
  | tmccTx => .tmcc
  | tmccRx => .tmcc
  | ping => .ping
  | updateEngineSpeed => .base
  | updateTrainSpeed => .base
  | tmcc4Tx => .tmcc
  | tmcc4Rx => .tmcc
  | irdaGet => .board .irda
  | irdaSet => .board .irda
  | irdaRx => .board .irda
  | wifiGet => .board .wifi
  | wifiSet => .board .wifi
  | wifiRx => .board .wifi
  | wifiPing => .board .wifi
  | ser2Get => .board .ser2
  | ser2Set => .board .ser2
  | ser2Rx => .board .ser2
  | asc2Get => .board .asc2
  | asc2Set => .board .asc2
  | asc2Rx => .board .asc2
  | bpc2Get => .board .bpc2
  | bpc2Set => .board .bpc2
  | bpc2Rx => .board .bpc2
  | amc2Get => .board .amc2
  | amc2Set => .board .amc2
  | amc2Rx => .board .amc2
  | stm2Get => .board .stm2
  | stm2Set => .board .stm2
  | stm2Rx => .board .stm2
  | blockRx => .block
  | d4Engine => .fourDigit
  | d4Train => .fourDigit
  | rfRx => .radio
  | bleRx => .radio

def role : FrameCode → Role
  | allGet => .get
  | allSet => .set
  | baseEngine => .other
  | baseTrain => .other
  | baseAccessory => .other
  | base => .other
  | baseRoute => .other
  | baseSwitch => .other
  | baseMemory => .other
  | tmccTx => .other
  | tmccRx => .rx
  | ping => .other
  | updateEngineSpeed => .other
  | updateTrainSpeed => .other
  | tmcc4Tx => .other
  | tmcc4Rx => .rx
  | irdaGet => .get
  | irdaSet => .set
  | irdaRx => .rx
  | wifiGet => .get
  | wifiSet => .set
  | wifiRx => .rx
  | wifiPing => .other
  | ser2Get => .get
  | ser2Set => .set
  | ser2Rx => .rx
  | asc2Get => .get
  | asc2Set => .set
  | asc2Rx => .rx
  | bpc2Get => .get
  | bpc2Set => .set
  | bpc2Rx => .rx
  | amc2Get => .get
  | amc2Set => .set
  | amc2Rx => .rx
  | stm2Get => .get
  | stm2Set => .set
  | stm2Rx => .rx
  | blockRx => .rx
  | d4Engine => .other
  | d4Train => .other
  | rfRx => .rx
  | bleRx => .rx

def ofByte? (b : UInt8) : Option FrameCode :=
  all.find? fun code => code.byte == b

/-- The code of a board's frames in a role. -/
def ofBoard? (board : Board) (role : Role) : Option FrameCode :=
  all.find? fun code => code.family == .board board && code.role == role

def isPing (code : FrameCode) : Bool := code == ping

/-- Whether frames with the code carry a command for the track. -/
def isTmcc (code : FrameCode) : Bool := code.family == .tmcc

/-- Whether the carried command has a four-digit address. -/
def isTmcc4 (code : FrameCode) : Bool := code == tmcc4Tx || code == tmcc4Rx

/-- Whether the code is one of the Base's records, memory or speed reports. -/
def isBase (code : FrameCode) : Bool := code.family == .base

/-- Whether the code is one of the four-digit databases. -/
def isFourDigit (code : FrameCode) : Bool := code.family == .fourDigit

/-- Whether frames with the code have the layout shared by the boards; the wireless keep-alive has not. -/
def isBoard (code : FrameCode) : Bool := code.family.isBoard && code != wifiPing

def isGet (code : FrameCode) : Bool := code.role == .get

def isSet (code : FrameCode) : Bool := code.role == .set

def isRx (code : FrameCode) : Bool := code.role == .rx

end FrameCode
end RailLayout
