import RailLayout.Lcs.Report

/-!
The power district controller.
-/

namespace RailLayout

/-- The configuration of a power district controller. -/
structure DistrictConfig where
  header : ConfigHeader
  /-- Bring the last power state back after a restart; the top bit of the mode byte on the wire. -/
  restore : Bool
  deriving DecidableEq

namespace DistrictConfig

/-- The bit of the mode byte that asks for the last power state. -/
def restoreBit : UInt8 := 0x80

/-- Read a configuration, taking the top bit out of the mode. -/
def read : Read DistrictConfig := do
  let header ← ConfigHeader.read
  return ⟨{ header with mode := header.mode &&& 0x7F }, header.mode &&& restoreBit != 0⟩

def encode (c : DistrictConfig) : List UInt8 :=
  let mode := if c.restore then c.header.mode ||| restoreBit else c.header.mode
  ({ c.header with mode := mode } : ConfigHeader).encode

end DistrictConfig

/-- What a power district controller is told or reports, apart from what is common to all boards. -/
inductive DistrictReport where
  /-- One district; one is on. -/
  | state (state : UInt8)
  /-- A bank of districts, with a mask. -/
  | bank (values valids : UInt8)
  deriving DecidableEq

namespace DistrictReport

def state? : DistrictReport → Option UInt8
  | state s => some s
  | bank _ _ => none

def read : DistrictAction → Read DistrictReport
  | .control1 => do return .state (← Read.byte)
  | .control3 => do return .state (← Read.byte)
  | .control2 => readBank
  | .control4 => readBank
where
  /-- A bank, whose mask may be missing. -/
  readBank : Read DistrictReport := do
    let values ← Read.byte
    return .bank values (← Read.byteOrZero)

def encode : DistrictReport → List UInt8
  | state s => [s]
  | bank values valids => [values, valids]

end DistrictReport
end RailLayout
