/-!
What drives an accessory address.
-/

namespace RailLayout

/-- What drives an accessory address. -/
inductive AccessoryKind where
  /-- Accessory commands only. -/
  | plain
  /-- A sensor track that reports as an accessory. -/
  | sensorTrack
  /-- A power district. -/
  | powerDistrict
  /-- A relay. -/
  | relay
  /-- Motor and lamp outputs. -/
  | motorLamp
  deriving DecidableEq

def AccessoryKind.name : AccessoryKind → String
  | .plain => "Plain"
  | .sensorTrack => "SensorTrack"
  | .powerDistrict => "PowerDistrict"
  | .relay => "Relay"
  | .motorLamp => "MotorLamp"

end RailLayout
