import RailLayout.Frame.Code

/-!
Frames as they travel: a start marker, the code and the payload, a checksum, and an end marker. A marker byte
inside a frame has a stuff byte before it, and the checksum makes everything between the two outer markers sum
to zero modulo 256, stuff bytes included.
-/

namespace RailLayout

def startMarker : UInt8 := 0xD1

/-- Stands before a byte that would otherwise be a marker. -/
def stuffMarker : UInt8 := 0xDE

def endMarker : UInt8 := 0xDF

/-- Whether a byte has to be stuffed inside a frame. -/
def isMarker (b : UInt8) : Bool :=
  b == startMarker || b == stuffMarker || b == endMarker

def byteSum : List UInt8 → UInt8
  | [] => 0
  | b :: rest => b + byteSum rest

/-- A frame without its markers, stuffing and checksum. -/
structure Frame where
  code : FrameCode
  payload : List UInt8
  deriving DecidableEq

namespace Frame

def isPing (frame : Frame) : Bool := frame.code.isPing

/-- One byte inside a frame, stuffed if it has to be. -/
def stuff (b : UInt8) : List UInt8 :=
  if isMarker b then [stuffMarker, b] else [b]

/-- The checksum that brings a body to zero. A checksum that has to be stuffed makes room for its stuff byte. -/
def closing (body : List UInt8) : List UInt8 :=
  let check := 0 - byteSum body
  if isMarker check then [stuffMarker, check - stuffMarker] else [check]

def encode (frame : Frame) : List UInt8 :=
  let body := (frame.code.byte :: frame.payload).flatMap stuff
  startMarker :: body ++ closing body ++ [endMarker]

end Frame
end RailLayout
