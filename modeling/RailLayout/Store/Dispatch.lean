import RailLayout.Store.Basic

/-!
Routing updates to the components they concern. A halt reaches every component, a system halt every engine and
train, and a command to the broadcast address every component of its kind; anything else reaches the component
that its kind and address find, which is filed if it is new. Observers are told of every change and every
refusal.
-/

namespace RailLayout

/-- What observers of a store are told. -/
inductive StoreEvent where
  /-- A component changed; the address is the one that it is filed under. -/
  | updated (scope : Scope) (address : UInt16)
  /-- An update was refused and dropped. -/
  | rejected (scope : Scope) (address : UInt16) (cause : Error)
  /-- Every component was forgotten. -/
  | cleared
  deriving DecidableEq

def StoreEvent.key? : StoreEvent → Option (Scope × UInt16)
  | updated scope address => some (scope, address)
  | rejected scope address _ => some (scope, address)
  | cleared => none

/-- What something did to a state that holds components: the state afterwards, what observers were told, and
how many components changed. -/
structure Reaction (σ : Type) where
  state : σ
  events : List StoreEvent
  changed : Nat
  deriving DecidableEq

namespace Reaction

variable {σ τ : Type}

def none (state : σ) : Reaction σ := ⟨state, [], 0⟩

def andThen (r : Reaction σ) (next : σ → Reaction σ) : Reaction σ :=
  let later := next r.state
  ⟨later.state, r.events ++ later.events, r.changed + later.changed⟩

def forEach {α : Type} (react : α → σ → Reaction σ) : List α → σ → Reaction σ
  | [], state => none state
  | a :: rest, state => (react a state).andThen (forEach react rest)

/-- The same reaction for a state that holds this one. -/
def map (f : σ → τ) (r : Reaction σ) : Reaction τ := ⟨f r.state, r.events, r.changed⟩

end Reaction

/-- The engine that an update reports passing a sensor track, if it reports what the engine is. -/
def Update.sighting? : Update → Option Sighting
  | .message (.board .irda ⟨_, _, _, _, .report (.data sighting)⟩) =>
    if sighting.product.isSome = true ∧ sighting.engineId ≠ 0 then some sighting else none
  | _ => none

namespace Store

def reset (store : Store) : Reaction Store := ⟨empty store.rules, [.cleared], 0⟩

/-- Tell an engine what a sensor track knows of it. The change counts towards no update. -/
def applySighting (sighting : Sighting) (store : Store) : Reaction Store :=
  let address := sighting.engineId.toUInt16
  match store.getOrCreate .engine address with
  | .error cause => ⟨store, [.rejected .engine address cause], 0⟩
  | .ok (e, store) =>
    match e.state.applySighting sighting with
    | (state, true) =>
      let e := e.change state
      ⟨(store.put e).fileAlias e, [.updated .engine address], 0⟩
    | (_, false) => .none store

def passSighting (u : Update) (store : Store) : Reaction Store :=
  match u.sighting? with
  | some sighting => store.applySighting sighting
  | none => .none store

def applyTo (now : Nat) (u : Update) (e : Entry) (store : Store) : Reaction Store :=
  let outcome := e.state.update store.rules now u
  match outcome.verdict with
  | .ok true =>
    let e := e.change outcome.state
    (Reaction.mk ((store.put e).fileAlias e) [.updated e.scope e.address] 1).andThen (passSighting u)
  | .ok false => .none (store.put { e with state := outcome.state })
  | .error cause =>
    ⟨store.put { e with state := outcome.state }, [.rejected e.scope e.address cause], 0⟩

/-- Give an update to a component in its present state. -/
def applyToFiled (now : Nat) (u : Update) (e : Entry) (store : Store) : Reaction Store :=
  match store.filed? e.scope e.address with
  | some present => store.applyTo now u present
  | none => .none store

/-- Give an update to the components of some kinds, kind by kind and by address. -/
def applyToAll (now : Nat) (u : Update) (scopes : List Scope) (store : Store) : Reaction Store :=
  Reaction.forEach (applyToFiled now u) (scopes.flatMap store.ofScope) store

def applyAt (now : Nat) (u : Update) (scope : Scope) (address : UInt16) (store : Store) :
    Reaction Store :=
  match store.getOrCreate scope address with
  | .error cause => ⟨store, [.rejected scope address cause], 0⟩
  | .ok (e, store) => store.applyTo now u e

def route (now : Nat) (u : Update) (store : Store) : Reaction Store :=
  match u.target? with
  | some (scope, address) => store.applyAt now u scope address
  | none => .none store

def dispatch (now : Nat) (u : Update) (store : Store) : Reaction Store :=
  match u with
  | .message _ => store.route now u
  | .command c =>
    if c.isHalt then store.applyToAll now u Scope.all
    else if c.isSystemHalt then store.applyToAll now u [.engine, .train]
    else if c.isBroadcast then store.applyToAll now u [c.scope]
    else store.route now u

/-- Give updates in order, all at one time. -/
def dispatchAll (now : Nat) (us : List Update) (store : Store) : Reaction Store :=
  Reaction.forEach (dispatch now) us store

/-- How many components each of a list of updates changes, if they are given in order, all at one time. -/
def changeCounts (now : Nat) : List Update → Store → List Nat
  | [], _ => []
  | u :: rest, store =>
    let r := store.dispatch now u
    r.changed :: changeCounts now rest r.state

end Store
end RailLayout
