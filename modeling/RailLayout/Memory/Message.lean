import RailLayout.Frame.Basic
import RailLayout.Payload.Reader

/-!
Messages that read or write part of the memory record of a component. A part may hold any of the record's named
fields; only a field that lies in it whole can be read.
-/

namespace RailLayout

namespace MemoryField

def decode (field : MemoryField) (raw : List UInt8) : Except Error MemoryValue :=
  if raw.length ≠ field.size then .error (.protocol (.fieldLength field raw.length))
  else
    let at_ (i : Nat) : UInt8 := raw.getD i 0
    match field with
    | .btId => .ok (.word (Payload.word (at_ 0) (at_ 1)))
    | .timestamp => .ok (.long (Payload.number (at_ 0) (at_ 1) (at_ 2) (at_ 3)))
    | .roadName => .ok (.text (TextField.read raw))
    | .roadNumber => .ok (.text (TextField.read raw))
    | .tmccId =>
      let text := TextField.read raw
      match Numeral.word? text.toList with
      | some id => .ok (.word id)
      | none => .error (.protocol (.badTmccId text))
    | .consistComps => .ok (.consist (Consist.read raw))
    | _ => .ok (.byte (at_ 0))

/-- A number in decimal, with zeros in front up to four digits. -/
def fourDigits (id : UInt16) : List UInt8 :=
  Utf8.encode (String.ofList (Numeral.padded 4 id.toNat))

/-- The bytes of a value of the field. -/
def encode (field : MemoryField) (value : MemoryValue) : Except Error (List UInt8) :=
  match field, value with
  | .tmccId, .word id => .ok (fourDigits id)
  | .btId, .word w => .ok (Payload.le16 w)
  | .timestamp, .long n => .ok (Payload.le32 n)
  | .roadName, .text t => .ok (TextField.write field.size t)
  | .roadNumber, .text t => .ok (TextField.write field.size t)
  | .consistComps, .consist members => .ok (Consist.write Consist.slots members)
  | _, .byte b =>
    if field.size = 1 then .ok [b] else .error (.invalidParameter (.valueMisfit value field))
  | _, _ => .error (.invalidParameter (.valueMisfit value field))

end MemoryField

/-- A message that reads or writes part of a memory record. -/
structure MemoryMessage where
  recordNo : UInt8
  flags : UInt8
  status : UInt8
  /-- What the record describes, where that is known. -/
  scope : Option Scope
  /-- Where in the record the part starts. -/
  start : UInt32
  port : UInt8
  dataLen : UInt8
  data : List UInt8
  deriving DecidableEq

namespace MemoryMessage

def readFlags : UInt8 := 0x02

/-- The flags of a part that the host writes. -/
def writeFlags : UInt8 := 0xC2

def permanentPort : UInt8 := 2

/-- The length of an engine's or a train's whole record. -/
def recordLength : Nat := 0xC0

/-- The byte that names the kind of a record. -/
def typeOf? : Scope → Option UInt8
  | .engine => some 1
  | .train => some 2
  | .accessory => some 3
  | .route => some 5
  | .switch => some 6
  | _ => none

/-- The kind of record that a byte names. -/
def scopeOf? (byte : UInt8) : Option Scope :=
  Scope.all.find? fun scope => typeOf? scope == some byte

/-- Stop unless components of the kind have memory records. -/
def checkScope (scope : Scope) : Except Error Unit :=
  match typeOf? scope with
  | some _ => .ok ()
  | none => .error (.invalidParameter (.noMemory scope))

def query (scope : Scope) (recordNo : UInt8) (start : UInt32) (length : UInt8) :
    Except Error MemoryMessage := do
  checkScope scope
  return ⟨recordNo, readFlags, 0, some scope, start, permanentPort, length, []⟩

def queryField (scope : Scope) (recordNo : UInt8) (field : MemoryField) : Except Error MemoryMessage :=
  query scope recordNo field.offset field.size.toUInt8

def writeField (scope : Scope) (recordNo : UInt8) (field : MemoryField) (value : MemoryValue) :
    Except Error MemoryMessage := do
  checkScope scope
  if MemoryField.at? scope field.offset ≠ some field then
    throw (.invalidParameter (.fieldAbsent field scope))
  let data ← field.encode value
  return ⟨recordNo, writeFlags, 0, some scope, field.offset, permanentPort, data.length.toUInt8, data⟩

def read : Read MemoryMessage := do
  let recordNo ← Read.byte
  let flags ← Read.byte
  let status ← Read.byte
  let kind ← Read.byte
  let start ← Read.le32
  let port ← Read.byte
  let dataLen ← Read.byte
  let data ← Read.rest
  return ⟨recordNo, flags, status, scopeOf? kind, start, port, dataLen, data⟩

def ofFrame (frame : Frame) : Except Error MemoryMessage :=
  if frame.code = .baseMemory then Read.run read frame.payload
  else .error (.protocol (.notMemory frame.code))

/-- The frame of a message; a record of an unknown kind is sent as an engine's. -/
def toFrame (m : MemoryMessage) : Frame :=
  ⟨.baseMemory, [m.recordNo, m.flags, m.status, (m.scope.bind typeOf?).getD 1] ++ Payload.le32 m.start ++
    [m.port, m.dataLen] ++ m.data⟩

def address (m : MemoryMessage) : UInt16 := m.recordNo.toUInt16

/-- Whether the part is the whole record of an engine or a train. -/
def isWhole (m : MemoryMessage) : Bool :=
  m.start == 0 && decide (recordLength ≤ m.data.length)

/-- The value of a field that lies in the part whole. -/
def value? (m : MemoryMessage) (field : MemoryField) : Option MemoryValue :=
  if m.start ≤ field.offset ∧ field.offset.toNat + field.size ≤ m.start.toNat + m.data.length then
    let raw := (m.data.drop (field.offset.toNat - m.start.toNat)).take field.size
    (field.decode raw).toOption
  else none

/-- Every field that lies in the part whole; those of the four-digit databases do not count. -/
def fields (m : MemoryMessage) : List (MemoryField × MemoryValue) :=
  match m.scope with
  | none => []
  | some scope =>
    ((MemoryField.ofScope scope).filter (!·.isFourDigitOnly)).filterMap fun field =>
      (m.value? field).map fun value => (field, value)

/-- The field that the part is, if it is exactly one. -/
def field? (m : MemoryMessage) : Option (MemoryField × MemoryValue) := do
  let field ← MemoryField.at? (← m.scope) m.start
  if m.data.length ≠ field.size then none
  else return (field, ← (field.decode m.data).toOption)

end MemoryMessage
end RailLayout
