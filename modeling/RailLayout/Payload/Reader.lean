import RailLayout.Error
import RailLayout.Payload.Field
import RailLayout.Text.Field

/-!
Reading a payload from left to right. A reader knows how far it is and what is left; taking more than is left
is an error and leaves the reader where it was.
-/

namespace RailLayout

/-- A place in a payload. -/
structure Reader where
  /-- How many bytes have been read. -/
  position : Nat
  /-- The bytes not read yet. -/
  rest : List UInt8
  deriving DecidableEq

namespace Reader

def ofList (payload : List UInt8) : Reader := ⟨0, payload⟩

def remaining (r : Reader) : Nat := r.rest.length

def isEmpty (r : Reader) : Bool := r.rest.isEmpty

end Reader

/-- A step that reads a value from a payload. -/
abbrev Read := StateT Reader (Except Error)

namespace Read

def bytes (n : Nat) : Read (List UInt8) := fun r =>
  if r.remaining < n then .error (.protocol (.shortPayload n r.position r.remaining))
  else .ok (r.rest.take n, ⟨r.position + n, r.rest.drop n⟩)

def rest : Read (List UInt8) := fun r =>
  .ok (r.rest, ⟨r.position + r.remaining, []⟩)

def atEnd : Read Bool := fun r => .ok (r.isEmpty, r)

def remaining : Read Nat := fun r => .ok (r.remaining, r)

def skip (n : Nat) : Read Unit := do
  let _ ← bytes n

def byte : Read UInt8 := fun r =>
  match r.rest with
  | [] => .error (.protocol (.shortPayload 1 r.position 0))
  | b :: more => .ok (b, ⟨r.position + 1, more⟩)

/-- The value read by a step, or nothing where the step fails, which then reads nothing. -/
def optional {α : Type} (step : Read α) : Read (Option α) := fun r =>
  match step r with
  | .ok (a, r') => .ok (some a, r')
  | .error _ => .ok (none, r)

def byte? : Read (Option UInt8) := optional byte

/-- The next byte, or zero at the end. -/
def byteOrZero : Read UInt8 := do
  return (← byte?).getD 0

def le16 : Read UInt16 := fun r =>
  match r.rest with
  | b0 :: b1 :: more => .ok (Payload.word b0 b1, ⟨r.position + 2, more⟩)
  | _ => .error (.protocol (.shortPayload 2 r.position r.remaining))

/-- A word, low byte first, if two bytes are left. -/
def le16? : Read (Option UInt16) := optional le16

def be16 : Read UInt16 := fun r =>
  match r.rest with
  | b0 :: b1 :: more => .ok (Payload.word b1 b0, ⟨r.position + 2, more⟩)
  | _ => .error (.protocol (.shortPayload 2 r.position r.remaining))

def le24 : Read UInt32 := fun r =>
  match r.rest with
  | b0 :: b1 :: b2 :: more => .ok (Payload.number b0 b1 b2 0, ⟨r.position + 3, more⟩)
  | _ => .error (.protocol (.shortPayload 3 r.position r.remaining))

def le32 : Read UInt32 := fun r =>
  match r.rest with
  | b0 :: b1 :: b2 :: b3 :: more => .ok (Payload.number b0 b1 b2 b3, ⟨r.position + 4, more⟩)
  | _ => .error (.protocol (.shortPayload 4 r.position r.remaining))

def text (width : Nat) : Read String := do
  return TextField.read (← bytes width)

/-- A text field of `width` bytes, cut short by the end of the payload; nothing at the end. -/
def textUpTo? (width : Nat) : Read (Option String) := do
  let left ← remaining
  if left = 0 then return none
  else return some (← text (min width left))

def check {α : Type} (result : Except Error α) : Read α := fun r =>
  match result with
  | .ok a => .ok (a, r)
  | .error e => .error e

/-- Read a payload with a step and forget what is left. -/
def run {α : Type} (step : Read α) (payload : List UInt8) : Except Error α :=
  match step (Reader.ofList payload) with
  | .ok (a, _) => .ok a
  | .error e => .error e

end Read
end RailLayout
