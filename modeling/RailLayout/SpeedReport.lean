import RailLayout.Frame.Basic
import RailLayout.Payload.Reader

/-!
The compact report of a speed.
-/

namespace RailLayout

/-- The speed of an engine or a train. -/
structure SpeedReport where
  kind : MotiveKind
  recordNo : UInt8
  speed : UInt8
  deriving DecidableEq

namespace SpeedReport

/-- Report a speed; only engines and trains have one. -/
def build (scope : Scope) (recordNo speed : UInt8) : Except Error SpeedReport :=
  match MotiveKind.ofScope? scope with
  | some kind => .ok ⟨kind, recordNo, speed⟩
  | none => .error (.invalidParameter (.notMotive scope))

/-- The kind of component that frames with a code report on. -/
def kindOfCode? : FrameCode → Option MotiveKind
  | .updateEngineSpeed => some .engine
  | .updateTrainSpeed => some .train
  | _ => none

def code (r : SpeedReport) : FrameCode :=
  match r.kind with
  | .engine => .updateEngineSpeed
  | .train => .updateTrainSpeed

def ofFrame (frame : Frame) : Except Error SpeedReport :=
  match kindOfCode? frame.code with
  | some kind => Read.run (do return ⟨kind, ← Read.byte, ← Read.byte⟩) frame.payload
  | none => .error (.protocol (.notSpeedReport frame.code))

def toFrame (r : SpeedReport) : Frame := ⟨r.code, [r.recordNo, r.speed]⟩

def address (r : SpeedReport) : UInt16 := r.recordNo.toUInt16

end SpeedReport
end RailLayout
