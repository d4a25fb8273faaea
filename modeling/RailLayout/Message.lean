import RailLayout.BlockReport
import RailLayout.FourDigit
import RailLayout.Frame.Scan
import RailLayout.Lcs.Message
import RailLayout.Memory.Message
import RailLayout.PassThrough
import RailLayout.Record.Message
import RailLayout.SpeedReport

/-!
Every message that a frame can hold. The code of a frame decides how it is read; frames of families without a
layout of their own are kept as they are.
-/

namespace RailLayout

/-- A message to or from the Base. -/
inductive Message where
  | ping
  | passThrough (m : PassThrough)
  | record (m : RecordMessage)
  | speed (m : SpeedReport)
  | memory (m : MemoryMessage)
  | fourDigit (m : FourDigitMessage)
  | block (m : BlockReport)
  | board (board : Board) (m : BoardMessage board)
  /-- Broadcasts to all boards, the wireless keep-alive and radio reports, kept as they are. -/
  | raw (frame : Frame)
  deriving DecidableEq

namespace Message

/-- The message of a frame of the Base. -/
def ofBaseFrame (frame : Frame) : Except Error Message :=
  match frame.code with
  | .baseMemory => return .memory (← MemoryMessage.ofFrame frame)
  | .updateEngineSpeed => return .speed (← SpeedReport.ofFrame frame)
  | .updateTrainSpeed => return .speed (← SpeedReport.ofFrame frame)
  | _ => return .record (← RecordMessage.ofFrame frame)

def ofFrame (frame : Frame) : Except Error Message :=
  match frame.code.family with
  | .ping => return .ping
  | .tmcc => return .passThrough (← PassThrough.ofFrame frame)
  | .base => ofBaseFrame frame
  | .fourDigit => return .fourDigit (← FourDigitMessage.ofFrame frame)
  | .block => return .block (← BlockReport.ofFrame frame)
  | .board b =>
    if frame.code.isBoard then return .board b (← BoardMessage.ofFrame b frame)
    else return .raw frame
  | .everyone => return .raw frame
  | .radio => return .raw frame

/-- The first message of a byte stream, and the bytes after its frame. -/
def take (bytes : List UInt8) : Except Error (Message × List UInt8) :=
  match Frame.take bytes with
  | .ok (frame, rest) => return (← ofFrame frame, rest)
  | .error cause => .error (.frame cause)

def toFrame : Message → Frame
  | ping => ⟨.ping, []⟩
  | passThrough m => m.toFrame
  | record m => m.toFrame
  | speed m => m.toFrame
  | memory m => m.toFrame
  | fourDigit m => m.toFrame
  | block m => m.toFrame
  | board _ m => m.toFrame
  | raw frame => frame

def encode (m : Message) : List UInt8 := m.toFrame.encode

def code (m : Message) : FrameCode := m.toFrame.code

def isPing : Message → Bool
  | ping => true
  | _ => false

/-- The kind of component that the message is about, if it is about one. -/
def scope? : Message → Option Scope
  | ping => none
  | passThrough _ => none
  | record m => some m.scope
  | speed m => some m.kind.scope
  | memory m => m.scope
  | fourDigit m => some m.scope
  | block _ => some .block
  | board _ m => some m.scope
  | raw _ => none

/-- The address of the component that the message is about, if it has one. The four-digit databases know their
records by number, so only their counts, which the Base keeps, have an address. -/
def address? : Message → Option UInt16
  | ping => none
  | passThrough _ => none
  | record m => some m.address
  | speed m => some m.address
  | memory m => some m.address
  | fourDigit m => if m.scope = .base then some 0 else none
  | block m => some m.address
  | board .wifi _ => some 0
  | board _ m => some m.address.toUInt16
  | raw _ => none

/-- The command that a pass-through carries, read by a codec. -/
def command {σ : Type} (codec : Codec σ) (memory : σ) : Message → Except Error Command
  | passThrough m => codec.decode memory m.bytes
  | other => .error (.protocol (.carriesNoCommand other.code))

end Message
end RailLayout
