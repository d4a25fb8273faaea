import RailLayout.State.Component

/-!
The components of a layout, found by kind and address. A component is filed once, under its own address; an
engine or a train with a four-digit number can be found under that number as well.
-/

namespace RailLayout

/-- A component as it is kept: where it is filed, its state, and how often the state has changed. The count is kept in 64
bits and starts again at zero after 2^64 changes; no layout lives to see so many, so it is a plain number here. -/
structure Entry where
  scope : Scope
  address : UInt16
  state : Component
  version : Nat
  deriving DecidableEq

namespace Entry

/-- Whether the component is filed under an address. -/
def isAt (e : Entry) (scope : Scope) (address : UInt16) : Bool :=
  e.scope == scope && e.address == address

/-- Whether the component comes before another one: by kind, then by address. -/
def before (e other : Entry) : Bool :=
  decide (e.scope.rank < other.scope.rank ∨ (e.scope = other.scope ∧ e.address < other.address))

def change (e : Entry) (state : Component) : Entry :=
  { e with state := state, version := e.version + 1 }

/-- The four-digit number by which the component is to be found as well: the road number of an engine or a
train with an address of one or two digits. -/
def alias? (e : Entry) : Option UInt16 :=
  if e.scope.isMotive = true ∧ e.address ≤ 99 then
    e.state.profile.spelledAddress?.filter fun number => decide (100 ≤ number ∧ number ≤ 9999)
  else none

end Entry

/-- A second address, and the address that the component is filed under. -/
structure Alias where
  scope : Scope
  address : UInt16
  home : UInt16
  deriving DecidableEq

/-- The components of a layout, and the rules that they go by. -/
structure Store where
  rules : Rules
  /-- The components, by kind and address. -/
  entries : List Entry
  aliases : List Alias
  deriving DecidableEq

namespace Store

def empty (rules : Rules) : Store := ⟨rules, [], []⟩

def filed? (store : Store) (scope : Scope) (address : UInt16) : Option Entry :=
  store.entries.find? fun e => e.isAt scope address

/-- The address under which the component with a second address is filed. -/
def home? (store : Store) (scope : Scope) (address : UInt16) : Option UInt16 :=
  (store.aliases.find? fun a => a.scope == scope && a.address == address).map Alias.home

/-- The component that an address finds, be it the component's own or its second one. -/
def query (store : Store) (scope : Scope) (address : UInt16) : Option Entry :=
  match store.filed? scope address with
  | some e => some e
  | none => (store.home? scope address).bind fun home => store.filed? scope home

def ofScope (store : Store) (scope : Scope) : List Entry :=
  store.entries.filter fun e => e.scope == scope

/-- The components that addresses find, each once, in the order in which they are found first. -/
def named (store : Store) (keys : List (Scope × UInt16)) : List Entry :=
  (keys.filterMap fun key => store.query key.1 key.2).eraseDups

def size (store : Store) : Nat := store.entries.length

/-- Put a component where it belongs among others. -/
def insertEntry (e : Entry) : List Entry → List Entry
  | [] => [e]
  | first :: rest => if e.before first then e :: first :: rest else first :: insertEntry e rest

/-- File a component under an address that finds none. -/
def file (store : Store) (e : Entry) : Store :=
  { store with entries := insertEntry e store.entries }

/-- Put a component in the place of the one filed under the same address. -/
def put (store : Store) (e : Entry) : Store :=
  { store with entries := store.entries.map fun old => if old.isAt e.scope e.address then e else old }

/-- The component that an address finds; one of which nothing is known is filed if there is none. -/
def getOrCreate (store : Store) (scope : Scope) (address : UInt16) : Except Error (Entry × Store) :=
  match store.query scope address with
  | some e => .ok (e, store)
  | none => do
    let e : Entry := ⟨scope, address, ← Component.build scope (some address), 0⟩
    return (e, store.file e)

/-- Let a component be found by its four-digit number, unless the number finds another one already. -/
def fileAlias (store : Store) (e : Entry) : Store :=
  match e.alias? with
  | none => store
  | some number =>
    match store.query e.scope number with
    | some _ => store
    | none => { store with aliases := store.aliases ++ [⟨e.scope, number, e.address⟩] }

end Store
end RailLayout
