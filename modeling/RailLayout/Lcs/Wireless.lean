import RailLayout.Lcs.Report

/-!
The wireless module of the Base.
-/

namespace RailLayout

/-- How the module is on the network. -/
inductive WirelessMode where
  | accessPoint
  /-- Joined to a router. -/
  | infrastructure
  | pushButton
  deriving DecidableEq

namespace WirelessMode

def all : List WirelessMode := [accessPoint, infrastructure, pushButton]

def name : WirelessMode → String
  | accessPoint => "Ap"
  | infrastructure => "Infrastructure"
  | pushButton => "Wps"

def ofByte (byte : UInt8) : Except Error WirelessMode :=
  if byte = 0 then .ok accessPoint
  else if byte = 1 then .ok infrastructure
  else if byte = 2 then .ok pushButton
  else .error (.protocol (.unknownWirelessMode byte))

def byte : WirelessMode → UInt8
  | accessPoint => 0
  | infrastructure => 1
  | pushButton => 2

def label : WirelessMode → String
  | accessPoint => "AP"
  | infrastructure => "INF"
  | pushButton => "WPS"

end WirelessMode

/-- An address on the network, by its four bytes. -/
structure HostAddress where
  a : UInt8
  b : UInt8
  c : UInt8
  d : UInt8
  deriving DecidableEq

namespace HostAddress

def text (h : HostAddress) : String :=
  ".".intercalate ([h.a, h.b, h.c, h.d].map fun byte => toString byte.toNat)

/-- The address that four numbers with points between them spell. -/
def ofText? (text : String) : Option HostAddress :=
  match (text.splitOn ".").mapM String.toNat? with
  | some [a, b, c, d] => some ⟨a.toUInt8, b.toUInt8, c.toUInt8, d.toUInt8⟩
  | _ => none

end HostAddress

/-- A connected client. -/
structure WirelessClient where
  slot : UInt8
  address : HostAddress
  deriving DecidableEq

/-- What the wireless module is told or reports, apart from what is common to all boards. -/
inductive WirelessReport where
  | connect (maxClients connected : UInt8) (mode : WirelessMode)
  | ip (base : HostAddress) (clients : List WirelessClient)
  | respBcasts (enabled : Bool)
  /-- Configuration, unlocking and pass codes, taken as they are. -/
  | raw (bytes : List UInt8)
  deriving DecidableEq

namespace WirelessReport

/-- Clients from pairs of a slot and the last byte of an address; the rest of the address is the module's. -/
def clientsOf (base : HostAddress) : List UInt8 → List WirelessClient
  | slot :: last :: rest => ⟨slot, { base with d := last }⟩ :: clientsOf base rest
  | _ => []

def read : WirelessAction → Read WirelessReport
  | .connect => do
    let maxClients ← Read.byte
    let connected ← Read.byte
    let mode ← Read.check (WirelessMode.ofByte (← Read.byte))
    return .connect maxClients connected mode
  | .ip => do
    let octets ← Read.bytes 4
    let base : HostAddress := ⟨octets.getD 0 0, octets.getD 1 0, octets.getD 2 0, octets.getD 3 0⟩
    return .ip base (clientsOf base (← Read.rest))
  | .respBcasts => do
    let byte ← Read.byte
    return .respBcasts (byte == 1)
  | .unlock => do return .raw (← Read.rest)
  | .passcode => do return .raw (← Read.rest)

def encode : WirelessReport → List UInt8
  | connect maxClients connected mode => [maxClients, connected, mode.byte]
  | ip base clients => [base.a, base.b, base.c, base.d] ++ clients.flatMap fun c => [c.slot, c.address.d]
  | respBcasts enabled => [Payload.flag enabled]
  | raw bytes => bytes

end WirelessReport
end RailLayout
