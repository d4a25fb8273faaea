import RailLayout.Listener
import RailLayout.Store.Feed

/-!
The choices that a layout is set up with, and the parts that they make.
-/

namespace RailLayout

/-- The choices that a layout is set up with. -/
structure LayoutOptions where
  settings : Settings
  graph : EffectGraph
  /-- How many events may wait for an observer. -/
  eventCapacity : Nat
  /-- How many bytes that are no frame yet a listener keeps. -/
  bufferLimit : Nat
  deriving DecidableEq

namespace LayoutOptions

/-- What a layout is set up with unless something else is chosen. -/
def standard : LayoutOptions := ⟨.standard, .stock, 256, FrameBuffer.defaultLimit⟩

def rules (options : LayoutOptions) : Rules := ⟨options.graph, options.settings⟩

def store (options : LayoutOptions) : Store := .empty options.rules

def feed (options : LayoutOptions) : EventFeed := .empty options.eventCapacity

def listener (options : LayoutOptions) (link : Link)
    (readCommand : Option (List UInt8 → Except Error Command)) : Listener :=
  .start link options.bufferLimit options.store readCommand

end LayoutOptions
end RailLayout
