import RailLayout.Store.Dispatch

/-!
What an observer of a store gets to see. Events wait until the observer collects them, but only so many: the
oldest are lost first, and the observer is told how many were lost.
-/

namespace RailLayout

/-- What an observer finds when it collects. -/
inductive Notice where
  | event (e : StoreEvent)
  /-- So many events were lost before the next one. -/
  | lagged (lost : Nat)
  deriving DecidableEq

def Notice.key? : Notice → Option (Scope × UInt16)
  | event e => e.key?
  | lagged _ => none

/-- The events that wait for an observer. -/
structure EventFeed where
  /-- How many events can wait. -/
  capacity : Nat
  /-- The waiting events, oldest first. -/
  waiting : List StoreEvent
  /-- How many events were lost since the observer last collected. -/
  lost : Nat
  deriving DecidableEq

namespace EventFeed

/-- The least power of two that is no less than a number, tried upwards from a power of two. -/
def roundUp (wanted : Nat) : Nat → Nat → Nat
  | 0, power => power
  | fuel + 1, power => if wanted ≤ power then power else roundUp wanted fuel (2 * power)

/-- A feed for at least one event; room is made by powers of two. -/
def empty (wanted : Nat) : EventFeed := ⟨roundUp wanted wanted 1, [], 0⟩

/-- Let events wait, and drop the oldest if there are too many. -/
def publish (feed : EventFeed) (events : List StoreEvent) : EventFeed :=
  let all := feed.waiting ++ events
  let excess := all.length - feed.capacity
  { feed with waiting := all.drop excess, lost := feed.lost + excess }

def notices (feed : EventFeed) : List Notice :=
  (if feed.lost = 0 then [] else [.lagged feed.lost]) ++ feed.waiting.map .event

def collect (feed : EventFeed) : List Notice × EventFeed :=
  (feed.notices, { feed with waiting := [], lost := 0 })

end EventFeed
end RailLayout
