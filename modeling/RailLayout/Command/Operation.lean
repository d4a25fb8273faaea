import RailLayout.Scope

/-!
The operations that a symbolic command can name. How a command is spelled in bytes is not known here: that is
the business of a codec.
-/

namespace RailLayout

/-- Operations of engines and trains. -/
inductive EngineOp where
  | absoluteSpeed
  | stopImmediate
  | speedStopHold
  | forwardDirection
  | reverseDirection
  | toggleDirection
  | numeric
  | reset
  | startUpImmediate
  | startUpDelayed
  | shutdownImmediate
  | shutdownDelayed
  | bellOn
  | bellOff
  | blowHorn
  | dieselRpm
  | rpmUp
  | rpmDown
  | engineLabor
  | engineLaborDefault
  | aux1On
  | aux1Off
  | aux1OptionOne
  | aux1OptionTwo
  | aux2On
  | aux2Off
  | aux2OptionOne
  | aux2OptionTwo
  | trainBrake
  | momentumLow
  | momentumMedium
  | momentumHigh
  | momentum
  | smokeOn
  | smokeOff
  | smokeLow
  | smokeMedium
  | smokeHigh
  | systemHalt
  | setAddress
  deriving DecidableEq

namespace EngineOp

/-- Every operation, in the order of their ranks. -/
def all : List EngineOp :=
  [absoluteSpeed, stopImmediate, speedStopHold, forwardDirection, reverseDirection, toggleDirection,
   numeric, reset, startUpImmediate, startUpDelayed, shutdownImmediate, shutdownDelayed, bellOn,
   bellOff, blowHorn, dieselRpm, rpmUp, rpmDown, engineLabor, engineLaborDefault, aux1On, aux1Off,
   aux1OptionOne, aux1OptionTwo, aux2On, aux2Off, aux2OptionOne, aux2OptionTwo, trainBrake,
   momentumLow, momentumMedium, momentumHigh, momentum, smokeOn, smokeOff, smokeLow, smokeMedium,
   smokeHigh, systemHalt, setAddress]

def name : EngineOp → String
  | absoluteSpeed => "AbsoluteSpeed"
  | stopImmediate => "StopImmediate"
  | speedStopHold => "SpeedStopHold"
  | forwardDirection => "ForwardDirection"
  | reverseDirection => "ReverseDirection"
  | toggleDirection => "ToggleDirection"
  | numeric => "Numeric"
  | reset => "Reset"
  | startUpImmediate => "StartUpImmediate"
  | startUpDelayed => "StartUpDelayed"
  | shutdownImmediate => "ShutdownImmediate"
  | shutdownDelayed => "ShutdownDelayed"
  | bellOn => "BellOn"
  | bellOff => "BellOff"
  | blowHorn => "BlowHorn"
  | dieselRpm => "DieselRpm"
  | rpmUp => "RpmUp"
  | rpmDown => "RpmDown"
  | engineLabor => "EngineLabor"
  | engineLaborDefault => "EngineLaborDefault"
  | aux1On => "Aux1On"
  | aux1Off => "Aux1Off"
  | aux1OptionOne => "Aux1OptionOne"
  | aux1OptionTwo => "Aux1OptionTwo"
  | aux2On => "Aux2On"
  | aux2Off => "Aux2Off"
  | aux2OptionOne => "Aux2OptionOne"
  | aux2OptionTwo => "Aux2OptionTwo"
  | trainBrake => "TrainBrake"
  | momentumLow => "MomentumLow"
  | momentumMedium => "MomentumMedium"
  | momentumHigh => "MomentumHigh"
  | momentum => "Momentum"
  | smokeOn => "SmokeOn"
  | smokeOff => "SmokeOff"
  | smokeLow => "SmokeLow"
  | smokeMedium => "SmokeMedium"
  | smokeHigh => "SmokeHigh"
  | systemHalt => "SystemHalt"
  | setAddress => "SetAddress"

def rank : EngineOp → Nat
  | absoluteSpeed => 0
  | stopImmediate => 1
  | speedStopHold => 2
  | forwardDirection => 3
  | reverseDirection => 4
  | toggleDirection => 5
  | numeric => 6
  | reset => 7
  | startUpImmediate => 8
  | startUpDelayed => 9
  | shutdownImmediate => 10
  | shutdownDelayed => 11
  | bellOn => 12
  | bellOff => 13
  | blowHorn => 14
  | dieselRpm => 15
  | rpmUp => 16
  | rpmDown => 17
  | engineLabor => 18
  | engineLaborDefault => 19
  | aux1On => 20
  | aux1Off => 21
  | aux1OptionOne => 22
  | aux1OptionTwo => 23
  | aux2On => 24
  | aux2Off => 25
  | aux2OptionOne => 26
  | aux2OptionTwo => 27
  | trainBrake => 28
  | momentumLow => 29
  | momentumMedium => 30
  | momentumHigh => 31
  | momentum => 32
  | smokeOn => 33
  | smokeOff => 34
  | smokeLow => 35
  | smokeMedium => 36
  | smokeHigh => 37
  | systemHalt => 38
  | setAddress => 39

end EngineOp

/-- Operations of track switches. -/
inductive SwitchOp where
  | through
  | out
  | setAddress
  deriving DecidableEq

namespace SwitchOp

/-- Every operation, in the order of their ranks. -/
def all : List SwitchOp :=
  [through, out, setAddress]

def name : SwitchOp → String
  | through => "Through"
  | out => "Out"
  | setAddress => "SetAddress"

def rank : SwitchOp → Nat
  | through => 0
  | out => 1
  | setAddress => 2

end SwitchOp

/-- Operations of accessories. -/
inductive AccessoryOp where
  | aux1OptOne
  | aux1On
  | aux1Off
  | aux1OptTwo
  | aux2OptOne
  | aux2On
  | aux2Off
  | aux2OptTwo
  | numeric
  | setAddress
  deriving DecidableEq

namespace AccessoryOp

/-- Every operation, in the order of their ranks. -/
def all : List AccessoryOp :=
  [aux1OptOne, aux1On, aux1Off, aux1OptTwo, aux2OptOne, aux2On, aux2Off, aux2OptTwo, numeric,
   setAddress]

def name : AccessoryOp → String
  | aux1OptOne => "Aux1OptOne"
  | aux1On => "Aux1On"
  | aux1Off => "Aux1Off"
  | aux1OptTwo => "Aux1OptTwo"
  | aux2OptOne => "Aux2OptOne"
  | aux2On => "Aux2On"
  | aux2Off => "Aux2Off"
  | aux2OptTwo => "Aux2OptTwo"
  | numeric => "Numeric"
  | setAddress => "SetAddress"

def rank : AccessoryOp → Nat
  | aux1OptOne => 0
  | aux1On => 1
  | aux1Off => 2
  | aux1OptTwo => 3
  | aux2OptOne => 4
  | aux2On => 5
  | aux2Off => 6
  | aux2OptTwo => 7
  | numeric => 8
  | setAddress => 9

end AccessoryOp

/-- Operations of routes. -/
inductive RouteOp where
  | fire
  | setAddress
  deriving DecidableEq

namespace RouteOp

/-- Every operation, in the order of their ranks. -/
def all : List RouteOp :=
  [fire, setAddress]

def name : RouteOp → String
  | fire => "Fire"
  | setAddress => "SetAddress"

def rank : RouteOp → Nat
  | fire => 0
  | setAddress => 1

end RouteOp

/-- Marks set while a layout is being read. -/
inductive SyncOp where
  | synchronizing
  | synchronized
  deriving DecidableEq

namespace SyncOp

/-- Every operation, in the order of their ranks. -/
def all : List SyncOp :=
  [synchronizing, synchronized]

def name : SyncOp → String
  | synchronizing => "Synchronizing"
  | synchronized => "Synchronized"

def rank : SyncOp → Nat
  | synchronizing => 0
  | synchronized => 1

end SyncOp

/-- What a command does, apart from where and with which data. -/
inductive Operation where
  | engine (generation : Generation) (op : EngineOp)
  | switch (op : SwitchOp)
  | accessory (op : AccessoryOp)
  | route (op : RouteOp)
  /-- The emergency halt of everything. -/
  | halt
  | sync (op : SyncOp)
  deriving DecidableEq

namespace Operation

/-- Every operation, in the order of their ranks. -/
def all : List Operation :=
  EngineOp.all.map (engine .tmcc) ++ EngineOp.all.map (engine .legacy) ++ SwitchOp.all.map switch ++
    AccessoryOp.all.map accessory ++ RouteOp.all.map route ++ [halt] ++ SyncOp.all.map sync

/-- The operation as a user spells it: the kind or the generation and the name, with a point between. -/
def id : Operation → String
  | engine generation op => generation.name ++ "." ++ op.name
  | switch op => "Switch." ++ op.name
  | accessory op => "Aux." ++ op.name
  | route op => "Route." ++ op.name
  | halt => "Halt"
  | sync op => "Sync." ++ op.name

def ofId? (id : String) : Option Operation :=
  all.find? fun operation => operation.id == id

def text : Operation → String
  | engine generation op => "Engine(" ++ generation.name ++ ", " ++ op.name ++ ")"
  | switch op => "Switch(" ++ op.name ++ ")"
  | accessory op => "Aux(" ++ op.name ++ ")"
  | route op => "Route(" ++ op.name ++ ")"
  | halt => "Halt"
  | sync op => "Sync(" ++ op.name ++ ")"

/-- The place of an operation in the order of operations: by kind, engine operations by generation first. -/
def rank : Operation → Nat
  | engine .tmcc op => op.rank
  | engine .legacy op => 64 + op.rank
  | switch op => 128 + op.rank
  | accessory op => 192 + op.rank
  | route op => 256 + op.rank
  | halt => 320
  | sync op => 384 + op.rank

def generation? : Operation → Option Generation
  | engine generation _ => some generation
  | _ => none

/-- The kind of component that the operation is for when a command does not say. -/
def defaultScope : Operation → Scope
  | engine _ _ => .engine
  | switch _ => .switch
  | accessory _ => .accessory
  | route _ => .route
  | halt => .engine
  | sync _ => .sync

/-- Whether a component of the kind can receive the operation. -/
def accepts (operation : Operation) (scope : Scope) : Bool :=
  match operation with
  | engine _ _ => scope.isMotive
  | halt => true
  | other => other.defaultScope == scope

def isHalt (operation : Operation) : Bool := operation == halt

/-- Whether the operation halts engines and trains only. -/
def isSystemHalt : Operation → Bool
  | engine _ .systemHalt => true
  | _ => false

end Operation
end RailLayout
