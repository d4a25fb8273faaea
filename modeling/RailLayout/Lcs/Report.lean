import RailLayout.Payload.Reader

/-!
What every board reports about itself: firmware, status, identity, and the head of a configuration.
-/

namespace RailLayout

/-- A firmware version. -/
structure Firmware where
  version : UInt8
  revision : UInt8
  subRevision : UInt8
  deriving DecidableEq

def Firmware.text (f : Firmware) : String :=
  toString f.version.toNat ++ "." ++ toString f.revision.toNat ++ "." ++ toString f.subRevision.toNat

/-- The kind of Base a board says it is attached to. -/
def baseTypeLabel (byte : UInt8) : String :=
  if byte = 0 then "Unknown"
  else if byte = 1 then "Legacy"
  else if byte = 2 then "Base1-L"
  else if byte = 3 then "No Base"
  else if byte = 4 then "No Support"
  else "NA"

/-- What a serial port of a board is connected to. -/
def portLabel (byte : UInt8) : String :=
  if byte = 0 then "Unknown"
  else if byte = 1 then ">Base<"
  else if byte = 2 then "->Base"
  else if byte = 3 then "Base->"
  else "NA"

/-- Tenths of a volt, written in volts with two decimals. -/
def voltsText (tenths : UInt8) : String :=
  toString (tenths.toNat / 10) ++ "." ++ toString (tenths.toNat % 10) ++ "0"

def errorCounters : Nat := 16

/-- Bytes brought to a length: cut, or filled with zeros. -/
def fit (length : Nat) (bytes : List UInt8) : List UInt8 :=
  let kept := bytes.take length
  kept ++ List.replicate (length - kept.length) 0

/-- A board's report on itself. -/
structure BoardStatus where
  boardId : UInt8
  numIds : UInt8
  model : UInt8
  /-- What the first serial port is connected to. -/
  port0 : UInt8
  /-- What the second serial port is connected to. -/
  port1 : UInt8
  /-- The kind of Base. -/
  baseType : UInt8
  /-- Supply voltage in tenths of a volt. -/
  tenths : UInt8
  /-- Error counters, `errorCounters` of them. -/
  errorCounts : List UInt8
  deriving DecidableEq

namespace BoardStatus

/-- Read a report; one with fewer counters has zeros in place of the others. -/
def read : Read BoardStatus := do
  let boardId ← Read.byte
  let numIds ← Read.byte
  let model ← Read.byte
  let port0 ← Read.byte
  let port1 ← Read.byte
  let baseType ← Read.byte
  let tenths ← Read.byte
  let counts ← Read.rest
  return ⟨boardId, numIds, model, port0, port1, baseType, tenths, fit errorCounters counts⟩

def encode (s : BoardStatus) : List UInt8 :=
  [s.boardId, s.numIds, s.model, s.port0, s.port1, s.baseType, s.tenths] ++ s.errorCounts

end BoardStatus

/-- What a board is. -/
structure BoardInfo where
  boardId : UInt8
  numIds : UInt8
  model : UInt8
  /-- Supply voltage in tenths of a volt. -/
  tenths : UInt8
  deriving DecidableEq

/-- The body of a common action other than configuration. -/
inductive CommonBody where
  /-- A query, a refusal, or an action without data. -/
  | empty
  | firmware (firmware : Firmware)
  | status (status : BoardStatus)
  | info (info : BoardInfo)
  /-- Which light to flash; zero for none. -/
  | identify (light : UInt8)
  deriving DecidableEq

namespace CommonBody

/-- Read the body of an action. Only a host's command says which light to flash. -/
def read (code : FrameCode) (action : CommonAction) : Read CommonBody := do
  if ← Read.atEnd then return .empty
  match action with
  | .firmware =>
    let version ← Read.byte
    let revision ← Read.byte
    let subRevision ← Read.byte
    return .firmware ⟨version, revision, subRevision⟩
  | .status => return .status (← BoardStatus.read)
  | .info =>
    let boardId ← Read.byte
    let numIds ← Read.byte
    let model ← Read.byte
    let tenths ← Read.byte
    return .info ⟨boardId, numIds, model, tenths⟩
  | .identify => if code.isSet then return .identify (← Read.byte) else return .empty
  | _ => return .empty

def encode : CommonBody → List UInt8
  | empty => []
  | firmware f => [f.version, f.revision, f.subRevision]
  | status s => s.encode
  | info i => [i.boardId, i.numIds, i.model, i.tenths]
  | identify light => [light]

end CommonBody

/-- The head of a board's configuration. -/
structure ConfigHeader where
  /-- The board's address. -/
  tmccId : UInt8
  debug : UInt8
  mode : UInt8
  deriving DecidableEq

namespace ConfigHeader

/-- Read a head; two bytes of it have no meaning. -/
def read : Read ConfigHeader := do
  let tmccId ← Read.byte
  let debug ← Read.byte
  Read.skip 2
  let mode ← Read.byte
  return ⟨tmccId, debug, mode⟩

def encode (h : ConfigHeader) : List UInt8 :=
  [h.tmccId, h.debug, 0, 0, h.mode]

end ConfigHeader
end RailLayout
