import RailLayout.State.Accessory
import RailLayout.State.Base
import RailLayout.State.Block
import RailLayout.State.Motive.Script
import RailLayout.State.SensorTrack
import RailLayout.State.Switch

/-!
The state of a component of any kind: how it starts, what updates do to it, and the bytes that bring a fresh
state to the same place.
-/

namespace RailLayout

/-- The state of a component. -/
inductive Component where
  | motive (s : MotiveState)
  | switch (s : SwitchState)
  | route (s : RouteState)
  | accessory (s : AccessoryState)
  | sensorTrack (s : SensorTrackState)
  | block (s : BlockState)
  | base (s : BaseState)
  | sync (s : SyncState)
  deriving DecidableEq

namespace Component

/-- A component of which nothing is known but perhaps the address. The Base and the synchronization status
have an address of their own, whatever is given. -/
def build (scope : Scope) (address : Option UInt16) : Except Error Component :=
  match scope with
  | .engine => return motive (.fresh .engine (← Profile.build .engine address))
  | .train => return motive (.fresh .train (← Profile.build .train address))
  | .switch => return switch (.fresh (← Profile.build .switch address))
  | .route => return route (.fresh (← Profile.build .route address))
  | .accessory => return accessory (.fresh (← Profile.build .accessory address))
  | .sensorTrack => return sensorTrack (.fresh (← Profile.build .sensorTrack address))
  | .block => return block (.fresh (← Profile.build .block address))
  | .base => return base .fresh
  | .sync => return sync .fresh

def scope : Component → Scope
  | motive s => s.kind.scope
  | switch _ => .switch
  | route _ => .route
  | accessory _ => .accessory
  | sensorTrack _ => .sensorTrack
  | block _ => .block
  | base _ => .base
  | sync _ => .sync

def profile : Component → Profile
  | motive s => s.profile
  | switch s => s.profile
  | route s => s.profile
  | accessory s => s.profile
  | sensorTrack s => s.profile
  | block s => s.profile
  | base s => s.profile
  | sync s => s.profile

/-- Take an update, if it is for this component. -/
def update (rules : Rules) (now : Nat) (u : Update) : Component → Outcome Component
  | motive s => (s.update rules now u).map motive
  | switch s => (s.update now u).map switch
  | route s => (s.update now u).map route
  | accessory s => (s.update rules now u).map accessory
  | sensorTrack s => (s.update now u).map sensorTrack
  | block s => (s.update now u).map block
  | base s => (s.update now u).map base
  | sync s => (s.update now u).map sync

/-- Take over what a sensor track knows of an engine; only engines have a use for it. -/
def applySighting (sighting : Sighting) : Component → Component × Bool
  | motive s =>
    match s.kind with
    | .engine =>
      let (s, changed) := s.applySighting sighting
      (motive s, changed)
    | .train => (motive s, false)
  | other => (other, false)

/-- The updates that bring a fresh state to this one. -/
def script : Component → List Update
  | motive s => s.script
  | switch s => s.script
  | route s => s.script
  | accessory s => s.script
  | sensorTrack s => s.script
  | block s => s.script
  | base s => s.script
  | sync _ => []

def isKnown : Component → Bool
  | motive s => s.isKnown
  | switch s => s.isKnown
  | route s => s.isKnown
  | accessory s => s.isKnown
  | sensorTrack s => s.isKnown
  | block s => s.isKnown
  | base s => s.isKnown
  | sync s => s.isKnown

end Component

namespace Update

/-- The bytes of an update; a command is passed through the Base, spelled by a codec. -/
def encode {σ : Type} (codec : Codec σ) : Update → ExceptT Error (StateM σ) (List UInt8)
  | command c => return (← PassThrough.ofCommand codec c).toFrame.encode
  | message m => return m.encode

/-- The bytes of updates, one after the other. -/
def encodeAll {σ : Type} (codec : Codec σ) : List Update → ExceptT Error (StateM σ) (List UInt8)
  | [] => return []
  | u :: rest => return (← u.encode codec) ++ (← encodeAll codec rest)

end Update

/-- The bytes that bring a fresh state to this one. -/
def Component.encode {σ : Type} (codec : Codec σ) (component : Component) :
    ExceptT Error (StateM σ) (List UInt8) :=
  Update.encodeAll codec component.script

end RailLayout
