/-!
Why a board refuses a request. A refusal is an ordinary report, with the code as its body.
-/

namespace RailLayout

/-- Why a board refuses a request. -/
inductive Fault where
  | commandNotSupported
  | actionNotSupported
  | missingParameters
  | extraParameters
  | invalidContents
  | undefined
  /-- A code that has no meaning. -/
  | other (code : UInt8)
  deriving DecidableEq

namespace Fault

def ofCode (code : UInt8) : Fault :=
  if code = 1 then commandNotSupported
  else if code = 2 then actionNotSupported
  else if code = 3 then missingParameters
  else if code = 4 then extraParameters
  else if code = 5 then invalidContents
  else if code = 0xFF then undefined
  else other code

def code : Fault → UInt8
  | commandNotSupported => 1
  | actionNotSupported => 2
  | missingParameters => 3
  | extraParameters => 4
  | invalidContents => 5
  | undefined => 0xFF
  | other code => code

def cause : Fault → String
  | commandNotSupported => "PDI command not supported"
  | actionNotSupported => "Action not supported"
  | missingParameters => "Data field with missing parameter(s) - missing bytes before EOP"
  | extraParameters => "Data field with extra parameter(s) - extra bytes before EOP"
  | invalidContents => "Data field with invalid contents"
  | undefined => "Undefined error"
  | other _ => "Undefined error"

def text (fault : Fault) : String :=
  fault.cause ++ " (" ++ toString fault.code.toNat ++ ")"

end Fault
end RailLayout
