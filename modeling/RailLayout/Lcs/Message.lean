import RailLayout.Frame.Basic
import RailLayout.Lcs.Body
import RailLayout.Lcs.Fault

/-!
Messages to and from the boards of the Layout Control System: an address, an action and its body. A board that
refuses a request answers with the top bit of the action set and a fault in place of the body; that answer is
an ordinary message.
-/

namespace RailLayout

/-- A message to or from a board. -/
structure BoardMessage (board : Board) where
  code : FrameCode
  /-- The board's address. -/
  address : UInt8
  action : BoardAction board
  /-- Why the board refused, if it did. -/
  fault : Option Fault
  body : BoardBody board
  deriving DecidableEq

namespace BoardMessage

variable {board : Board}

/-- The bit of the action byte that marks a refusal. -/
def refusalBit : UInt8 := 0x80

/-- A message with the given body, if the action may be sent in the role. -/
def build (role : Role) (address : UInt8) (action : BoardAction board) (body : BoardBody board) :
    Except Error (BoardMessage board) :=
  match FrameCode.ofBoard? board role with
  | none => .error (.invalidParameter (.roleMissing board role))
  | some code =>
    if action.capabilities.allow role then .ok ⟨code, address, action, none, body⟩
    else .error (.invalidParameter (.roleRefused board action role))

def query (address : UInt8) (action : BoardAction board) : Except Error (BoardMessage board) :=
  build .get address action .empty

def command (address : UInt8) (action : BoardAction board) (body : BoardBody board) :
    Except Error (BoardMessage board) :=
  build .set address action body

def answer (address : UInt8) (action : BoardAction board) (body : BoardBody board) :
    Except Error (BoardMessage board) :=
  build .rx address action body

def refusal (address : UInt8) (action : BoardAction board) (fault : Fault) :
    Except Error (BoardMessage board) := do
  let message ← build .rx address action .empty
  return { message with fault := some fault }

def isRefusal (message : BoardMessage board) : Bool := message.fault.isSome

/-- The kind of component that the message is about. -/
def scope (message : BoardMessage board) : Scope := message.action.scope

/-- The same message as the board would send it. -/
def asAnswer (message : BoardMessage board) : BoardMessage board :=
  { message with code := (FrameCode.ofBoard? board .rx).getD message.code }

/-- Read a refusal or a body after the action byte. A query without data has nothing to read. -/
def readBody (code : FrameCode) (action : BoardAction board) (refused : Bool) :
    Read (Option Fault × BoardBody board) := do
  if refused then
    let fault ← Read.byte?
    return (some (Fault.ofCode (fault.getD Fault.undefined.code)), .empty)
  if code.isGet && (← Read.atEnd) then return (none, .empty)
  return (none, ← BoardBody.read board code action)

/-- Read a message from the payload of a frame of the board. -/
def read (board : Board) (code : FrameCode) : Read (BoardMessage board) := do
  let address ← Read.byte
  let raw ← Read.byte
  let bits := raw &&& 0x7F
  match BoardAction.ofBits? board bits with
  | none => throw (.protocol (.unknownAction board bits))
  | some action =>
    let (fault, body) ← readBody code action (raw &&& refusalBit != 0)
    return ⟨code, address, action, fault, body⟩

/-- The message that a frame holds, if it is one of the board's. -/
def ofFrame (board : Board) (frame : Frame) : Except Error (BoardMessage board) :=
  if frame.code.family = .board board ∧ frame.code.isBoard = true then
    Read.run (read board frame.code) frame.payload
  else .error (.protocol (.notOfBoard frame.code board))

def toFrame (message : BoardMessage board) : Frame :=
  ⟨message.code, message.address :: match message.fault with
    | some fault => [message.action.bits ||| refusalBit, fault.code]
    | none => message.action.bits :: message.body.encode message.code⟩

/-! ## Requests of single boards -/

/-- Switch a relay, and hold it for some microseconds if asked. -/
def relay (address : UInt8) (on : Bool) (hold : Option Nat) : Except Error (BoardMessage .asc2) :=
  command address (.own .control1) (.report (.control1 (Payload.flag on) ((hold.map ticks).getD 0)))

/-- Throw a switch machine, and hold its relay for some microseconds if asked. -/
def throwSwitch (address : UInt8) (through : Bool) (hold : Option Nat) :
    Except Error (BoardMessage .asc2) :=
  command address (.own .control4) (.report (.control4 (Payload.flag !through) ((hold.map ticks).getD 0)))

/-- Switch a power district by its accessory address. -/
def power (address : UInt8) (on : Bool) : Except Error (BoardMessage .bpc2) :=
  command address (.own .control3) (.report (.state (Payload.flag on)))

/-- Choose what a sensor track fires at passing engines. -/
def setSequence (address : UInt8) (sequence : Sequence) : Except Error (BoardMessage .irda) :=
  command address (.own .sequence) (.report (.sequence sequence))

end BoardMessage

namespace OutputConfig

/-- A configuration after a message of its board; a refusal tells nothing. -/
def fold (config : OutputConfig) (message : BoardMessage .amc2) : OutputConfig :=
  if message.isRefusal then config
  else match message.body with
    | .config whole => whole
    | .report report => report.applyTo config
    | .common _ => config

/-- A configuration after a message of its board, and whether it is another one. -/
def update (config : OutputConfig) (message : BoardMessage .amc2) : OutputConfig × Bool :=
  let next := config.fold message
  (next, next != config)

end OutputConfig
end RailLayout
