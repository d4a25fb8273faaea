import RailLayout.Frame.Basic
import RailLayout.Memory.Message

/-!
The databases of engines and trains with addresses of four digits. Their records are found by a number of their
own, not by address.
-/

namespace RailLayout

/-- What is asked of a database, or answered. -/
inductive Lookup where
  | query
  | count (postAction : UInt16) (count : Option UInt16)
  | firstRecord
  | nextRecord (postAction : UInt16) (start dataLen : Option UInt8) (next : Option UInt16)
  /-- Find the record of an address. -/
  | map (postAction : UInt16) (id : Option UInt16)
  deriving DecidableEq

namespace Lookup

def byte : Lookup → UInt8
  | query => 1
  | count _ _ => 2
  | firstRecord => 3
  | nextRecord _ _ _ _ => 4
  | map _ _ => 5

def name : Lookup → String
  | query => "Query"
  | count _ _ => "Count"
  | firstRecord => "FirstRec"
  | nextRecord _ _ _ _ => "NextRec"
  | map _ _ => "Map"

/-- The number that four characters mean, zeros around it aside. -/
def readId (raw : List UInt8) : Except Error UInt16 :=
  let inner := ((raw.dropWhile (· == 0)).reverse.dropWhile (· == 0)).reverse
  match Numeral.word? (Utf8.decode inner) with
  | some id => .ok id
  | none => .error (.protocol (.badFourDigitId raw))

/-- Read the rest of a payload after the byte of the action. -/
def read (action : UInt8) : Read Lookup := do
  if action = 1 then return .query
  else if action = 2 then
    let postAction ← Read.le16?
    return .count (postAction.getD 0) (← Read.le16?)
  else if action = 3 then return .firstRecord
  else if action = 4 then
    let postAction ← Read.le16?
    let start ← Read.byte?
    let dataLen ← Read.byte?
    return .nextRecord (postAction.getD 0) start dataLen (← Read.le16?)
  else if action = 5 then
    let postAction ← Read.le16?
    if ← Read.atEnd then return .map (postAction.getD 0) none
    let id ← Read.check (readId (← Read.bytes 4))
    return .map (postAction.getD 0) (some id)
  else throw (.protocol (.unknownFourDigitAction action))

def encodeWord? (word : Option UInt16) : List UInt8 :=
  (word.map Payload.le16).getD []

/-- The bytes after the byte of the action; fields end at the first one that is missing. -/
def encode : Lookup → List UInt8
  | query => []
  | count postAction n => Payload.le16 postAction ++ encodeWord? n
  | firstRecord => [0]
  | nextRecord postAction start dataLen next =>
    Payload.le16 postAction ++ match start, dataLen with
      | none, _ => []
      | some s, none => [s]
      | some s, some l => [s, l] ++ encodeWord? next
  | map postAction id => Payload.le16 postAction ++ (id.map MemoryField.fourDigits).getD []

end Lookup

/-- A message to or from one of the databases. -/
structure FourDigitMessage where
  /-- The code of the message's frame, which says what database is meant. -/
  code : FrameCode
  recordNo : UInt16
  lookup : Lookup
  deriving DecidableEq

namespace FourDigitMessage

/-- The record number of an answer that found nothing. -/
def notFound : UInt16 := 0xFFFF

/-- The code of frames about the database of a kind. -/
def codeOf : MotiveKind → FrameCode
  | .engine => .d4Engine
  | .train => .d4Train

/-- The database that the message is about: the trains' if its code says so, otherwise the engines'. -/
def database (m : FourDigitMessage) : MotiveKind :=
  if m.code = .d4Train then .train else .engine

/-- A message about the database of a kind. -/
def about (kind : MotiveKind) (recordNo : UInt16) (lookup : Lookup) : FourDigitMessage :=
  ⟨codeOf kind, recordNo, lookup⟩

/-- A message to the database of a kind. -/
def build (scope : Scope) (recordNo : UInt16) (lookup : Lookup) : Except Error FourDigitMessage :=
  match MotiveKind.ofScope? scope with
  | some kind => .ok (about kind recordNo lookup)
  | none => .error (.invalidParameter (.noFourDigit scope))

def count (scope : Scope) : Except Error FourDigitMessage :=
  build scope 0 (.count 0 none)

def firstRecord (scope : Scope) : Except Error FourDigitMessage :=
  build scope 0 .firstRecord

def nextRecord (scope : Scope) (recordNo : UInt16) : Except Error FourDigitMessage :=
  build scope recordNo (.nextRecord 0 none none none)

def map (scope : Scope) (id : UInt16) : Except Error FourDigitMessage :=
  if 9999 < id then .error (.invalidParameter (.tooManyDigits id))
  else build scope 0 (.map 0 (some id))

def query (scope : Scope) (recordNo : UInt16) : Except Error FourDigitMessage :=
  build scope recordNo .query

/-- The message that a frame of one of the databases holds. -/
def ofFrame (frame : Frame) : Except Error FourDigitMessage :=
  if frame.code.isFourDigit then
    Read.run (do
      let recordNo ← Read.le16
      let action ← Read.byte
      return ⟨frame.code, recordNo, ← Lookup.read action⟩) frame.payload
  else .error (.protocol (.notFourDigit frame.code))

def toFrame (m : FourDigitMessage) : Frame :=
  ⟨m.code, Payload.le16 m.recordNo ++ [m.lookup.byte] ++ m.lookup.encode⟩

/-- The kind of component that the message is about; the number of records is the Base's. -/
def scope (m : FourDigitMessage) : Scope :=
  match m.lookup with
  | .count _ _ => .base
  | _ => m.database.scope

def id? (m : FourDigitMessage) : Option UInt16 :=
  match m.lookup with
  | .map _ id => id
  | _ => none

def count? (m : FourDigitMessage) : Option UInt16 :=
  match m.lookup with
  | .count _ n => n
  | _ => none

def next? (m : FourDigitMessage) : Option UInt16 :=
  match m.lookup with
  | .nextRecord _ _ _ next => next
  | _ => none

/-- Whether a search for an address found nothing. -/
def isNotFound (m : FourDigitMessage) : Bool :=
  match m.lookup with
  | .map _ _ => m.recordNo == notFound
  | _ => false

end FourDigitMessage
end RailLayout
