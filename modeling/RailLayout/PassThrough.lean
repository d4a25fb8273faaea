import RailLayout.Command.Codec
import RailLayout.Frame.Basic

/-!
Frames that pass a command for the track through the Base, as bytes that only a codec understands.
-/

namespace RailLayout

/-- Bytes of a command for the track. -/
structure PassThrough where
  code : FrameCode
  bytes : List UInt8
  deriving DecidableEq

namespace PassThrough

def transmit (bytes : List UInt8) : PassThrough := ⟨.tmccTx, bytes⟩

/-- The code for a command to an address; four digits have their own. -/
def codeFor (address : UInt16) : FrameCode :=
  if 99 < address then .tmcc4Tx else .tmccTx

/-- The pass-through of a command, spelled by a codec. -/
def ofCommand {σ : Type} (codec : Codec σ) (c : Command) : ExceptT Error (StateM σ) PassThrough := do
  let bytes ← ExceptT.mk (codec.encode c)
  return ⟨codeFor c.address, bytes⟩

def ofFrame (frame : Frame) : Except Error PassThrough :=
  if frame.code.isTmcc then
    match frame.payload with
    | [] => .error (.protocol (.emptyPassThrough frame.code))
    | bytes => .ok ⟨frame.code, bytes⟩
  else .error (.protocol (.notPassThrough frame.code))

def toFrame (p : PassThrough) : Frame := ⟨p.code, p.bytes⟩

end PassThrough
end RailLayout
