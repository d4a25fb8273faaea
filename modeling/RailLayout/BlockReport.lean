import RailLayout.Frame.Basic
import RailLayout.Payload.Reader

/-!
Reports of a block of track: what is in it, what is next to it, and which way trains run through it. A zero
stands for nothing.
-/

namespace RailLayout

/-- The engine or train in a block. -/
structure Occupant where
  scope : Scope
  address : UInt16
  direction : Direction
  deriving DecidableEq

/-- A report of a block. -/
structure BlockReport where
  blockId : UInt8
  prevBlock : Option UInt8
  nextBlock : Option UInt8
  flags : UInt8
  sensorTrack : Option UInt8
  switch : Option UInt8
  occupant : Option Occupant
  name : Option String
  deriving DecidableEq

namespace BlockReport

def nameWidth : Nat := 33

def nonzero? (byte : UInt8) : Option UInt8 :=
  if byte = 0 then none else some byte

/-- The occupant with an address and a scope byte, if they name one. -/
def occupant? (address : Option UInt16) (scopeByte directionByte : Option UInt8) : Option Occupant :=
  match address, scopeByte.bind Scope.ofWire? with
  | some address, some scope =>
    if address = 0 then none
    else some ⟨scope, address, (directionByte.map Direction.ofWire).getD .unknown⟩
  | _, _ => none

def read : Read BlockReport := do
  let blockId ← Read.byte
  let prevBlock ← Read.byte?
  let nextBlock ← Read.byte?
  let flags ← Read.byteOrZero
  let sensorTrack ← Read.byte?
  let switch ← Read.byte?
  let address ← Read.le16?
  let scopeByte ← Read.byte?
  let directionByte ← Read.byte?
  let name ← Read.textUpTo? nameWidth
  return {
    blockId, flags, name
    prevBlock := prevBlock.bind nonzero?
    nextBlock := nextBlock.bind nonzero?
    sensorTrack := sensorTrack.bind nonzero?
    switch := switch.bind nonzero?
    occupant := occupant? address scopeByte directionByte }

def ofFrame (frame : Frame) : Except Error BlockReport :=
  if frame.code = .blockRx then Read.run read frame.payload
  else .error (.protocol (.notBlockReport frame.code))

def encodeOccupant : Option Occupant → List UInt8
  | some o => Payload.le16 o.address ++ [o.scope.wire, o.direction.wire]
  | none => [0, 0, 0, 0]

def toFrame (r : BlockReport) : Frame :=
  ⟨.blockRx,
    [r.blockId, r.prevBlock.getD 0, r.nextBlock.getD 0, r.flags, r.sensorTrack.getD 0, r.switch.getD 0] ++
      encodeOccupant r.occupant ++ TextField.write nameWidth (r.name.getD "")⟩

def isOccupied (r : BlockReport) : Bool := r.flags &&& 0x01 != 0

def isEntered (r : BlockReport) : Bool := r.flags &&& 0x02 != 0

/-- Whether the block slows what is in it. -/
def isSlowed (r : BlockReport) : Bool := r.flags &&& 0x04 != 0

/-- Whether the block stops what is in it. -/
def isStopped (r : BlockReport) : Bool := r.flags &&& 0x08 != 0

def direction (r : BlockReport) : Direction :=
  if r.flags &&& 0x10 != 0 then .leftToRight else .rightToLeft

def address (r : BlockReport) : UInt16 := r.blockId.toUInt16

end BlockReport
end RailLayout
