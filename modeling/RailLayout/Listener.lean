import RailLayout.Frame.Buffer
import RailLayout.Link
import RailLayout.Store.Dispatch

/-!
Listening to the Base: the bytes of a link are made into frames, and what the frames hold is given to a store. Bad
frames, frames that hold no message and refused updates are counted and dropped; only a lost link ends the
listening.
-/

namespace RailLayout

/-- What a listener counts. Each count is kept in 64 bits, and 2^64 frames or changes are out of reach, so the counts are
plain numbers here. -/
structure ListenerStats where
  /-- The frames that came in whole. -/
  frames : Nat
  /-- The keep-alives among them. -/
  pings : Nat
  /-- The bytes that failed to make a frame, fault by fault. -/
  badFrames : Nat
  /-- The frames that held no message, or a command that could not be read. -/
  undecodable : Nat
  /-- The components that changed. -/
  applied : Nat
  deriving DecidableEq

namespace ListenerStats

def zero : ListenerStats := ⟨0, 0, 0, 0, 0⟩

def text (s : ListenerStats) : String :=
  "ListenerStats \x7b frames: " ++ toString s.frames ++ ", pings: " ++ toString s.pings ++
    ", bad_frames: " ++ toString s.badFrames ++ ", undecodable: " ++ toString s.undecodable ++
    ", applied: " ++ toString s.applied ++ " \x7d"

end ListenerStats

/-- A link, the bytes of it that are no frame yet, and the store that messages go to. -/
structure Listener where
  link : Link
  buffer : FrameBuffer
  store : Store
  /-- How commands are read that are passed through the Base; without it they are dropped. -/
  readCommand : Option (List UInt8 → Except Error Command)
  stats : ListenerStats

namespace Listener

/-- A listener that has heard nothing, with room for so many bytes that are no frame yet. -/
def start (link : Link) (limit : Nat) (store : Store)
    (readCommand : Option (List UInt8 → Except Error Command)) : Listener :=
  ⟨link, .empty limit, store, readCommand, .zero⟩

def count (update : ListenerStats → ListenerStats) (l : Listener) : Listener :=
  { l with stats := update l.stats }

def countUndecodable (l : Listener) : Listener :=
  l.count fun s => { s with undecodable := s.undecodable + 1 }

def dispatch (now : Nat) (u : Update) (l : Listener) : Reaction Listener :=
  (l.store.dispatch now u).map fun store => { l with store := store }

def takeMessage (now : Nat) (m : Message) (l : Listener) : Reaction Listener :=
  match m, l.readCommand with
  | .passThrough _, none => .none l
  | .passThrough p, some read =>
    match read p.bytes with
    | .ok c => l.dispatch now (.command c)
    | .error _ => .none l.countUndecodable
  | m, _ => l.dispatch now (.message m)

def takeFrame (now : Nat) (frame : Frame) (l : Listener) : Reaction Listener :=
  let l := l.count fun s => { s with frames := s.frames + 1 }
  if frame.isPing then .none (l.count fun s => { s with pings := s.pings + 1 })
  else match Message.ofFrame frame with
    | .ok m => l.takeMessage now m
    | .error _ => .none l.countUndecodable

def takeItem (now : Nat) (item : Except FrameError Frame) (l : Listener) : Reaction Listener :=
  match item with
  | .ok frame => l.takeFrame now frame
  | .error _ => .none (l.count fun s => { s with badFrames := s.badFrames + 1 })

def ingest (now : Nat) (chunk : List UInt8) (l : Listener) : Reaction Listener :=
  let (items, buffer) := (l.buffer.extend chunk).drain
  let r := Reaction.forEach (takeItem now) items { l with buffer := buffer }
  { r with state := r.state.count fun s => { s with applied := s.applied + r.changed } }

def pending (l : Listener) : List UInt8 := l.buffer.bytes

def send (m : Message) (l : Listener) : Except Error Unit × Listener :=
  let (verdict, link) := l.link.send m.encode
  (verdict, { l with link := link })

/-- How a stretch of listening ended. Waiting in vain is no failure. -/
def verdict : Error → Except Error Unit
  | .timeout => .ok ()
  | cause => .error cause

/-- Listen until cancelled: take what waits on the link, then idle. A listener that is cancelled beforehand reads
nothing. -/
def run (now : Nat) (cancelled : Bool) (l : Listener) : Reaction Listener × Except Error Unit :=
  if cancelled then (.none l, .ok ())
  else
    let (chunks, cause, link) := l.link.receiveAll
    (Reaction.forEach (ingest now) chunks { l with link := link }, verdict cause)

def shutdown (l : Listener) : Link := l.link.close

def text (l : Listener) : String :=
  "Listener \x7b connected: " ++ toString l.link.connected ++ ", pending: " ++ toString l.pending.length ++
    ", has_codec: " ++ toString l.readCommand.isSome ++ ", stats: " ++ l.stats.text ++ " \x7d"

end Listener
end RailLayout
