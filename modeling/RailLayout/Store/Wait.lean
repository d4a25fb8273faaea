import RailLayout.Store.Dispatch

/-!
Waiting for a component to change. An observer waits up to a limit while an update comes in after a delay of its
own; the limit and the delay are never the same.
-/

namespace RailLayout

/-- How a wait ended. -/
structure Awaited where
  reaction : Reaction Store
  /-- How often the component had changed when the observer woke, or that it gave up. -/
  woken : Except Error Nat
  /-- Whether the component changed at all, be it too late for the observer. -/
  changed : Bool
  /-- The time when both the wait was over and the update had come in. -/
  finish : Nat

namespace Store

/-- How often the component that an address finds has changed. -/
def version (store : Store) (scope : Scope) (address : UInt16) : Nat :=
  match store.query scope address with
  | some e => e.version
  | none => 0

/-- Wait up to a limit for the component that an address finds to change, with an update after a delay. -/
def await (now limit delay : Nat) (scope : Scope) (address : UInt16) (u : Update) (store : Store) :
    Awaited :=
  let reaction := store.dispatch (now + delay) u
  let version := reaction.state.version scope address
  let changed := version != store.version scope address
  if changed = true ∧ delay < limit then ⟨reaction, .ok version, changed, now + delay⟩
  else ⟨reaction, .error .timeout, changed, now + max limit delay⟩

end Store
end RailLayout
