/-!
The members of a train: which engines and cars are lashed up, in what place and with what is switched off.
A member takes two bytes on the wire; a pair with a byte `FF` is an empty slot.
-/

namespace RailLayout

/-- Where a unit stands in its train. -/
inductive UnitPlace where
  | single
  | head
  | middle
  | tail
  deriving DecidableEq

def UnitPlace.name : UnitPlace → String
  | .single => "Single"
  | .head => "Head"
  | .middle => "Middle"
  | .tail => "Tail"

/-- One engine or car of a train. -/
structure ConsistMember where
  address : UInt8
  flags : UInt8
  deriving DecidableEq

namespace ConsistMember

/-- Where the unit stands in the train, from the two lowest flag bits. -/
def place (m : ConsistMember) : UnitPlace :=
  if m.flags &&& 3 = 0 then .single
  else if m.flags &&& 3 = 1 then .head
  else if m.flags &&& 3 = 2 then .middle
  else .tail

def isHead (m : ConsistMember) : Bool := m.place == .head

def isTail (m : ConsistMember) : Bool := m.place == .tail

/-- Whether the unit faces the way the train goes. -/
def isForward (m : ConsistMember) : Bool := m.flags &&& 0x04 == 0

def isReverse (m : ConsistMember) : Bool := !m.isForward

/-- Whether the unit is linked as part of a train. -/
def isTrainLinked (m : ConsistMember) : Bool := m.flags &&& 0x08 != 0

def isHornMasked (m : ConsistMember) : Bool := m.flags &&& 0x10 != 0

def isDialogMasked (m : ConsistMember) : Bool := m.flags &&& 0x20 != 0

def isLegacy (m : ConsistMember) : Bool := m.flags &&& 0x40 != 0

def isAccessory (m : ConsistMember) : Bool := m.flags &&& 0x80 != 0

def text (m : ConsistMember) : String :=
  "ConsistComponent \x7b address: " ++ toString m.address.toNat ++ ", flags: " ++ toString m.flags.toNat ++ " \x7d"

end ConsistMember

namespace Consist

def slots : Nat := 16

/-- The members in at most `n` slots; a last single byte is no slot. -/
def readSlots : Nat → List UInt8 → List ConsistMember
  | n + 1, flags :: address :: rest =>
    if flags = 0xFF ∨ address = 0xFF then readSlots n rest
    else ⟨address, flags⟩ :: readSlots n rest
  | _, _ => []

/-- The members in the sixteen slots of a train record. -/
def read (bytes : List UInt8) : List ConsistMember := readSlots slots bytes

/-- Members in `n` slots; slots left over are empty, members left over are dropped. -/
def write (n : Nat) (members : List ConsistMember) : List UInt8 :=
  let used := members.take n
  used.flatMap (fun m => [m.flags, m.address]) ++ List.replicate ((n - used.length) * 2) 0xFF

end Consist
end RailLayout
