import RailLayout.Error
import RailLayout.Frame.Basic

/-!
Finding the first frame in a byte stream. Bytes before the first start marker are skipped, and a bare start
marker inside a frame gives that frame up in favour of the one it opens.
-/

namespace RailLayout

/-- How the bytes after a start marker come to an end. -/
inductive Ending where
  /-- At an end marker. -/
  | closed
  /-- At another start marker. -/
  | restarted
  /-- At the end of the bytes. -/
  | unfinished
  deriving DecidableEq

/-- The bytes between a start marker and what ends them. -/
structure Enclosed where
  /-- The bytes without stuffing. -/
  content : List UInt8
  /-- The bytes as they travel. -/
  sent : List UInt8
  ending : Ending
  deriving DecidableEq

namespace Enclosed

/-- One more byte in front, with what travels for it. -/
def cons (byte : UInt8) (travels : List UInt8) (e : Enclosed) : Enclosed :=
  ⟨byte :: e.content, travels ++ e.sent, e.ending⟩

/-- Read the bytes after a start marker. The byte after a stuff byte is taken as it is. -/
def read : List UInt8 → Enclosed
  | [] => ⟨[], [], .unfinished⟩
  | b :: rest =>
    if b = stuffMarker then
      match rest with
      | [] => ⟨[], [b], .unfinished⟩
      | c :: more => (read more).cons c [b, c]
    else if b = endMarker then ⟨[], [], .closed⟩
    else if b = startMarker then ⟨[], [], .restarted⟩
    else (read rest).cons b [b]

/-- The frame that closed bytes hold, or what is wrong with them. -/
def toFrame (e : Enclosed) : Except FrameError Frame :=
  match e.content with
  | [] => .error .empty
  | [_] => .error (.truncated (e.sent.length + 2))
  | first :: second :: rest =>
    let sum := byteSum e.sent
    let check := (second :: rest).getLast (List.cons_ne_nil second rest)
    if sum = 0 then
      match FrameCode.ofByte? first with
      | some code => .ok ⟨code, (second :: rest).dropLast⟩
      | none => .error (.unknownCode first)
    else .error (.checksum (check - sum) check)

end Enclosed

/-- What the front of a byte stream holds, with the bytes to drop before looking on. -/
inductive Scan where
  | frame (frame : Frame) (consumed : Nat)
  /-- No frame has ended yet. -/
  | incomplete
  | invalid (cause : FrameError) (consumed : Nat)
  deriving DecidableEq

/-- Whether a byte does not open a frame. -/
def isNoise (b : UInt8) : Bool := b != startMarker

namespace Scan

def scan (bytes : List UInt8) : Scan :=
  let skipped := (bytes.takeWhile isNoise).length
  match bytes.dropWhile isNoise with
  | [] => .incomplete
  | _ :: rest =>
    let e := Enclosed.read rest
    match e.ending with
    | .unfinished => .incomplete
    | .restarted => .invalid (.truncated (e.sent.length + 1)) (skipped + e.sent.length + 1)
    | .closed =>
      match e.toFrame with
      | .ok found => .frame found (skipped + e.sent.length + 2)
      | .error cause => .invalid cause (skipped + e.sent.length + 2)

end Scan

/-- The first frame and the bytes after it. Bytes without a whole frame count as one cut short. -/
def Frame.take (bytes : List UInt8) : Except FrameError (Frame × List UInt8) :=
  match Scan.scan bytes with
  | .frame found consumed => .ok (found, bytes.drop consumed)
  | .incomplete => .error (.truncated bytes.length)
  | .invalid cause _ => .error cause

end RailLayout
