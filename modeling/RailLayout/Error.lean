import RailLayout.Command.Operation
import RailLayout.Lcs.Action
import RailLayout.Memory.Field
import RailLayout.State.AccessoryKind
import RailLayout.Text.Numeral

/-!
What can go wrong, by cause, and the wording of each cause. A report in which a device refuses a request is no
error here: it is an ordinary message.
-/

namespace RailLayout

/-- A fault of the framing of a byte stream. -/
inductive FrameError where
  /-- No end marker after so many bytes. -/
  | truncated (length : Nat)
  /-- The bytes between the markers do not sum to zero. -/
  | checksum (expected actual : UInt8)
  /-- The first byte is no frame code. -/
  | unknownCode (byte : UInt8)
  /-- An end marker right after a start marker. -/
  | empty
  deriving DecidableEq

def FrameError.name : FrameError → String
  | .truncated _ => "Truncated"
  | .checksum _ _ => "Checksum"
  | .unknownCode _ => "UnknownCommand"
  | .empty => "Empty"

def FrameError.message : FrameError → String
  | .truncated length => "truncated frame: no end marker after " ++ toString length ++ " bytes"
  | .checksum expected actual =>
    "checksum mismatch: expected 0x" ++ Numeral.hexByte expected ++ ", got 0x" ++ Numeral.hexByte actual
  | .unknownCode byte => "unknown PDI command 0x" ++ Numeral.hexByte byte
  | .empty => "empty frame"

def FrameCode.text (code : FrameCode) : String :=
  code.name ++ " (0x" ++ Numeral.hexByte code.byte ++ ")"

/-- A message or an update that cannot be understood or does not belong where it arrived. -/
inductive ProtocolError where
  | shortPayload (needed offset remaining : Nat)
  | notOfBoard (code : FrameCode) (board : Board)
  | unknownAction (board : Board) (bits : UInt8)
  | unknownAccessType (byte : UInt8)
  | unknownOutputType (byte : UInt8)
  | unknownRotation (byte : UInt8)
  | unknownSequence (byte : UInt8)
  | unknownWirelessMode (byte : UInt8)
  | notBlockReport (code : FrameCode)
  | notRecord (code : FrameCode)
  | notSpeedReport (code : FrameCode)
  | notMemory (code : FrameCode)
  | notFourDigit (code : FrameCode)
  | unknownFourDigitAction (byte : UInt8)
  | badFourDigitId (bytes : List UInt8)
  | notPassThrough (code : FrameCode)
  /-- A pass-through frame without bytes to pass. -/
  | emptyPassThrough (code : FrameCode)
  /-- A message that is no pass-through where a command was wanted. -/
  | carriesNoCommand (code : FrameCode)
  | fieldLength (field : MemoryField) (length : Nat)
  | badTmccId (text : String)
  | noTarget (scope : Scope)
  /-- A board reports for an accessory that another kind of board holds. -/
  | heldByOther (address : UInt16) (holder offered : AccessoryKind)
  | unexpectedSend (expected sent : List UInt8)
  deriving DecidableEq

def ProtocolError.message : ProtocolError → String
  | .shortPayload needed offset remaining =>
    "payload too short: need " ++ toString needed ++ " bytes at offset " ++ toString offset ++ ", have " ++
      toString remaining
  | .notOfBoard code board => code.text ++ " is not a " ++ board.name ++ " command"
  | .unknownAction board bits => "unknown " ++ board.name ++ " action 0x" ++ Numeral.hexByte bits
  | .unknownAccessType byte => "unknown AMC2 access type " ++ toString byte.toNat
  | .unknownOutputType byte => "unknown AMC2 output type " ++ toString byte.toNat
  | .unknownRotation byte => "unknown AMC2 direction " ++ toString byte.toNat
  | .unknownSequence byte => "unknown IRDA sequence " ++ toString byte.toNat
  | .unknownWirelessMode byte => "unknown Wi-Fi mode " ++ toString byte.toNat
  | .notBlockReport code => code.text ++ " is not a block report"
  | .notRecord code => code.text ++ " is not a Base record command"
  | .notSpeedReport code => code.text ++ " is not a speed update"
  | .notMemory code => code.text ++ " is not a memory frame"
  | .notFourDigit code => code.text ++ " is not a D4 command"
  | .unknownFourDigitAction byte => "unknown D4 action 0x" ++ Numeral.hexByte byte
  | .badFourDigitId bytes => "bad D4 TMCC id " ++ Numeral.hexList bytes
  | .notPassThrough code => code.text ++ " is not a TMCC pass-through frame"
  | .emptyPassThrough code => code.text ++ " carries no command"
  | .carriesNoCommand code => code.text ++ " does not carry a TMCC command"
  | .fieldLength field length =>
    field.name ++ " needs " ++ toString field.size ++ " bytes, got " ++ toString length
  | .badTmccId text => "bad TMCC id " ++ Text.quoted text
  | .noTarget scope => "update has no " ++ scope.name ++ " target"
  | .heldByOther address holder offered =>
    "accessory " ++ toString address.toNat ++ " is a " ++ holder.name ++ ", not a " ++ offered.name
  | .unexpectedSend expected sent =>
    "unexpected send data: expected " ++ Numeral.hexList expected ++ ", got " ++ Numeral.hexList sent

/-- An argument that makes no request. -/
inductive ParameterError where
  | scopeRefused (operation : Operation) (scope : Scope)
  | roleMissing (board : Board) (role : Role)
  | roleRefused (board : Board) (action : BoardAction board) (role : Role)
  | outOfRange (what : String) (value greatest : UInt8)
  | noRecord (scope : Scope)
  | emptyRecord
  | notMotive (scope : Scope)
  | noMemory (scope : Scope)
  | fieldAbsent (field : MemoryField) (scope : Scope)
  | valueMisfit (value : MemoryValue) (field : MemoryField)
  | noFourDigit (scope : Scope)
  | tooManyDigits (id : UInt16)
  deriving DecidableEq

def ParameterError.message : ParameterError → String
  | .scopeRefused operation scope => operation.text ++ " cannot target " ++ scope.name
  | .roleMissing board role => board.name ++ " has no " ++ role.name ++ " command"
  | .roleRefused _ action role => action.text ++ " cannot be sent as " ++ role.name
  | .outOfRange what value greatest =>
    what ++ " " ++ toString value.toNat ++ " out of range 0-" ++ toString greatest.toNat
  | .noRecord scope => scope.name ++ " has no Base record"
  | .emptyRecord => "an acknowledge carries no record"
  | .notMotive scope => "speed updates apply to engines and trains, not " ++ scope.name
  | .noMemory scope => scope.name ++ " has no memory record"
  | .fieldAbsent field scope => field.name ++ " is not part of a " ++ scope.name ++ " record"
  | .valueMisfit value field => value.describe ++ " does not fit memory field " ++ field.name
  | .noFourDigit scope => "D4 records hold engines and trains, not " ++ scope.name
  | .tooManyDigits id => "TMCC id " ++ toString id.toNat ++ " exceeds four digits"

/-- Bytes that no codec table can read, or a table with no room left. -/
inductive CodecError where
  | unreadable (bytes : List UInt8)
  | unknownSlot (high low : UInt8)
  | tableFull
  deriving DecidableEq

def CodecError.message : CodecError → String
  | .unreadable bytes => "not a mock command: " ++ Numeral.hexList bytes
  | .unknownSlot high low => "unknown mock command slot " ++ Numeral.hexByte high ++ Numeral.hexByte low
  | .tableFull => "mock codec table full"

/-- Everything that can go wrong. -/
inductive Error where
  | frame (cause : FrameError)
  | protocol (cause : ProtocolError)
  /-- A component bound to one address was sent something for another. -/
  | addressMismatch (scope : Scope) (bound received : UInt16)
  /-- A component of one kind was sent something for another. -/
  | scopeMismatch (expected received : Scope)
  /-- No component of the kind can have the address. -/
  | invalidAddress (scope : Scope) (address : UInt16)
  | invalidParameter (cause : ParameterError)
  | codec (cause : CodecError)
  | timeout
  | notConnected
  | connectionLost
  deriving DecidableEq

def Error.name : Error → String
  | .frame _ => "Frame"
  | .protocol _ => "Protocol"
  | .addressMismatch _ _ _ => "AddressMismatch"
  | .scopeMismatch _ _ => "ScopeMismatch"
  | .invalidAddress _ _ => "InvalidAddress"
  | .invalidParameter _ => "InvalidParameter"
  | .codec _ => "Codec"
  | .timeout => "Timeout"
  | .notConnected => "NotConnected"
  | .connectionLost => "ConnectionLost"

def Error.message : Error → String
  | .frame cause => "frame error: " ++ cause.message
  | .protocol cause => "protocol error: " ++ cause.message
  | .addressMismatch scope bound received =>
    "address mismatch on " ++ scope.name ++ ": bound to " ++ toString bound.toNat ++ ", received " ++
      toString received.toNat
  | .scopeMismatch expected received =>
    "scope mismatch: state is " ++ expected.name ++ ", command is " ++ received.name
  | .invalidAddress scope address => "invalid address " ++ toString address.toNat ++ " for " ++ scope.name
  | .invalidParameter cause => "invalid parameter: " ++ cause.message
  | .codec cause => "codec error: " ++ cause.message
  | .timeout => "timeout"
  | .notConnected => "not connected"
  | .connectionLost => "connection lost"

def Scope.validate (scope : Scope) (address : UInt16) : Except Error UInt16 :=
  if scope.admits address then .ok address else .error (.invalidAddress scope address)

end RailLayout
