import RailLayout.Frame.Basic
import RailLayout.Record.Base
import RailLayout.Record.Fixture

/-!
Messages that ask for, carry or acknowledge a record of the Base. A message that ends before the validity mask
is an acknowledgement and says nothing about the record.
-/

namespace RailLayout

/-- What a record describes. -/
inductive RecordKind where
  | motive (kind : MotiveKind)
  | fixture (kind : FixtureKind)
  | base
  deriving DecidableEq

namespace RecordKind

def scope : RecordKind → Scope
  | motive kind => kind.scope
  | fixture kind => kind.scope
  | base => .base

def code : RecordKind → FrameCode
  | motive .engine => .baseEngine
  | motive .train => .baseTrain
  | fixture .accessory => .baseAccessory
  | fixture .switch => .baseSwitch
  | fixture .route => .baseRoute
  | base => .base

/-- The record that frames with a code are about. -/
def ofCode? : FrameCode → Option RecordKind
  | .baseEngine => some (motive .engine)
  | .baseTrain => some (motive .train)
  | .baseAccessory => some (fixture .accessory)
  | .baseSwitch => some (fixture .switch)
  | .baseRoute => some (fixture .route)
  | .base => some base
  | _ => none

/-- The record that describes components of a kind. -/
def ofScope? : Scope → Option RecordKind
  | .engine => some (motive .engine)
  | .train => some (motive .train)
  | .accessory => some (fixture .accessory)
  | .switch => some (fixture .switch)
  | .route => some (fixture .route)
  | .base => some base
  | _ => none

end RecordKind

/-- What a record message carries. -/
inductive RecordContents where
  /-- Nothing: a question or an acknowledgement. -/
  | none (kind : RecordKind)
  | motive (kind : MotiveKind) (valid : UInt32) (record : MotiveRecord)
  | fixture (kind : FixtureKind) (valid : UInt32) (record : FixtureRecord)
  | base (valid : UInt32) (record : BaseRecord)
  deriving DecidableEq

namespace RecordContents

def kind : RecordContents → RecordKind
  | none kind => kind
  | motive kind _ _ => .motive kind
  | fixture kind _ _ => .fixture kind
  | base _ _ => .base

def valid? : RecordContents → Option UInt32
  | none _ => Option.none
  | motive _ valid _ => some valid
  | fixture _ valid _ => some valid
  | base valid _ => some valid

def lowWord (valid : UInt32) : UInt16 := valid.toUInt16

def highWord (valid : UInt32) : UInt16 := (valid >>> 16).toUInt16

/-- Read the contents of a record. Only engines and trains have a second word of the validity mask. -/
def read (kind : RecordKind) : Read RecordContents := do
  let left ← Read.remaining
  if left < 2 then return .none kind
  let low ← Read.le16
  match kind with
  | .motive kind =>
    let high ← Read.le16?
    let valid := low.toUInt32 ||| ((high.getD 0).toUInt32 <<< 16)
    return .motive kind valid (← MotiveRecord.read kind)
  | .fixture kind => return .fixture kind low.toUInt32 (← FixtureRecord.read kind)
  | .base => return .base low.toUInt32 (← BaseRecord.read)

def encode : RecordContents → List UInt8
  | none _ => []
  | motive kind valid record =>
    Payload.le16 (lowWord valid) ++ Payload.le16 (highWord valid) ++ record.encode kind
  | fixture _ valid record => Payload.le16 (lowWord valid) ++ record.encode
  | base valid record => Payload.le16 (lowWord valid) ++ record.encode

end RecordContents

/-- A message about a record of the Base. -/
structure RecordMessage where
  recordNo : UInt8
  flags : UInt8
  status : UInt8
  spare : UInt8
  contents : RecordContents
  deriving DecidableEq

namespace RecordMessage

def readFlags : UInt8 := 0x02

/-- The flags of a record that the host writes. -/
def writeFlags : UInt8 := 0xC2

def kind (m : RecordMessage) : RecordKind := m.contents.kind

def code (m : RecordMessage) : FrameCode := m.kind.code

def scope (m : RecordMessage) : Scope := m.kind.scope

/-- The address of the component described; the Base's is zero. -/
def address (m : RecordMessage) : UInt16 :=
  match m.kind with
  | .base => 0
  | _ => m.recordNo.toUInt16

def query (scope : Scope) (recordNo : UInt8) : Except Error RecordMessage :=
  match RecordKind.ofScope? scope with
  | some kind => .ok ⟨recordNo, readFlags, 0, 0, .none kind⟩
  | none => .error (.invalidParameter (.noRecord scope))

def write (recordNo : UInt8) (contents : RecordContents) : Except Error RecordMessage :=
  match contents with
  | .none _ => .error (.invalidParameter .emptyRecord)
  | _ => .ok ⟨recordNo, writeFlags, 0, 0, contents⟩

/-- Read a message from the payload of a frame about a record. -/
def read (kind : RecordKind) : Read RecordMessage := do
  let recordNo ← Read.byte
  let flags ← Read.byteOrZero
  let status ← Read.byteOrZero
  let spare ← Read.byteOrZero
  return ⟨recordNo, flags, status, spare, ← RecordContents.read kind⟩

def ofFrame (frame : Frame) : Except Error RecordMessage :=
  match RecordKind.ofCode? frame.code with
  | some kind => Read.run (read kind) frame.payload
  | none => .error (.protocol (.notRecord frame.code))

def toFrame (m : RecordMessage) : Frame :=
  ⟨m.code, [m.recordNo, m.flags, m.status, m.spare] ++ m.contents.encode⟩

def isAcknowledgement (m : RecordMessage) : Bool := m.contents.valid?.isNone

/-- Whether a bit of the validity mask is set. -/
def isValid (m : RecordMessage) (bit : UInt8) : Bool :=
  match m.contents.valid? with
  | some valid => decide (bit < 32) && valid >>> bit.toUInt32 &&& 1 != 0
  | none => false

def has (m : RecordMessage) (field : RecordField) : Bool := m.isValid field.bit

/-- The name in the record, if it is valid; the Base's name needs no validity bit. -/
def name? (m : RecordMessage) : Option String :=
  match m.contents with
  | .none _ => none
  | .motive _ _ record => if m.has .roadName then record.name else none
  | .fixture _ _ record => if m.has .roadName then record.name else none
  | .base _ record => record.name

/-- The road number in the record, if it is valid. -/
def number? (m : RecordMessage) : Option String :=
  match m.contents with
  | .motive _ _ record => if m.has .roadNumber then record.number else none
  | .fixture _ _ record => if m.has .roadNumber then record.number else none
  | _ => none

def isActive (m : RecordMessage) : Bool :=
  match m.contents with
  | .motive _ _ record => record.isUsed
  | .fixture _ _ record => record.isUsed
  | _ => true

end RecordMessage
end RailLayout
