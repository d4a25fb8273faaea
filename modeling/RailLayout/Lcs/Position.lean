import RailLayout.Lcs.Report

/-!
The switch machine controller, which reports where its switches stand.
-/

namespace RailLayout

/-- What a switch machine controller reports, apart from what is common to all boards. -/
inductive PositionReport where
  /-- One is out; anything else is through. -/
  | position (state : UInt8)
  deriving DecidableEq

namespace PositionReport

def isOut : PositionReport → Bool
  | position state => state == 1

def read : PositionAction → Read PositionReport
  | .control1 => do return .position (← Read.byte)

def encode : PositionReport → List UInt8
  | position state => [state]

end PositionReport
end RailLayout
