import RailLayout.Lcs.Report

/-!
The relay controller. Its relays work as accessory outputs or drive switch machines; a relay may be held for a
number of ticks of ten milliseconds.
-/

namespace RailLayout

def tickMillis : Nat := 10

/--
Microseconds in ticks: the time in seconds, in double precision, times one hundred, rounded with halves away
from zero and kept within a byte.
-/
def ticks (micros : Nat) : UInt8 :=
  let seconds := Float.ofNat (micros / 1000000)
  let nanos := Float.ofNat (micros % 1000000 * 1000)
  ((seconds + nanos / 1000000000.0) * 100.0).round.toUInt8

def ticksToMillis (t : UInt8) : Nat := t.toNat * tickMillis

/-- The configuration of a relay controller. -/
structure RelayConfig where
  header : ConfigHeader
  /-- Debounce delay in ticks. -/
  delay : UInt8
  deriving DecidableEq

/-- What a relay controller is told or reports, apart from what is common to all boards. -/
inductive RelayReport where
  /-- One relay, with a hold time. -/
  | control1 (values time : UInt8)
  /-- A bank of relays, with a mask. -/
  | control2 (values valids : UInt8)
  /-- The bank as the board reports it. -/
  | control3 (values valids : UInt8)
  /-- A pulse on one relay. -/
  | pulse (relay time : UInt8)
  /-- A switch machine, with a hold time. -/
  | control4 (values time : UInt8)
  /-- A latched switch machine. -/
  | control5 (values : UInt8)
  deriving DecidableEq

namespace RelayReport

/-- The relay or switch value, where there is one. -/
def values? : RelayReport → Option UInt8
  | control1 values _ => some values
  | control2 values _ => some values
  | control3 values _ => some values
  | pulse _ _ => none
  | control4 values _ => some values
  | control5 values => some values

/-- The hold time in ticks, where there is one. -/
def time? : RelayReport → Option UInt8
  | control1 _ time => some time
  | pulse _ time => some time
  | control4 _ time => some time
  | _ => none

def isThrough? : RelayReport → Option Bool
  | control4 values _ => some (values == 0)
  | control5 values => some (values == 0)
  | _ => none

/-- Read the data of an action. A host's third action is a pulse; a board's is the state of its bank. -/
def read (code : FrameCode) (action : RelayAction) : Read RelayReport := do
  let first ← Read.byte
  match action with
  | .control1 => return .control1 first (← Read.byteOrZero)
  | .control2 => return .control2 first (← Read.byteOrZero)
  | .control3 =>
    let second ← Read.byteOrZero
    if code.isSet then return .pulse first second else return .control3 first second
  | .control4 => return .control4 first (← Read.byteOrZero)
  | .control5 => return .control5 first

/-- The board takes a single tick for no hold at all, so it is sent as none. -/
def holdByte (time : UInt8) : UInt8 := if time = 1 then 0 else time

def encode : RelayReport → List UInt8
  | control1 values time => [values, time]
  | control2 values valids => [values, valids]
  | control3 values valids => [values, valids]
  | pulse relay time => [relay, holdByte time]
  | control4 values time => [values, holdByte time]
  | control5 values => [values]

end RelayReport

namespace RelayConfig

def read : Read RelayConfig := do
  let header ← ConfigHeader.read
  let delay ← Read.byte
  return ⟨header, delay⟩

def encode (c : RelayConfig) : List UInt8 :=
  c.header.encode ++ [c.delay]

end RelayConfig
end RailLayout
