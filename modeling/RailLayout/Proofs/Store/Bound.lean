import RailLayout.Proofs.State.Addressed
import RailLayout.Proofs.Store.Inert
import RailLayout.Proofs.Store.Listed

/-!
What an address that is looked up comes to. It is meant to find the component that is there already, or to be refused if
its kind does not admit it, or else to file one new component that is bound to it (`Store.Resolves`). The Base and the
synchronization status take no address when they are built, so that nothing refuses one that they cannot have: such an
address files another Base, or another status, that is bound elsewhere. That is the one way in which looking an address
up goes wrong, in every store after any actions (`Store.resolves_iff`).
-/

namespace RailLayout

namespace Scope

/-- Whether there is one component of the kind, with an address of its own. -/
def isSingle : Scope → Bool
  | base => true
  | sync => true
  | _ => false

theorem bound_of_not_isSingle {scope : Scope} (h : scope.isSingle = false) (address : UInt16) :
    scope.bound address = address := by
  cases scope <;> first | rfl | cases h

end Scope

namespace Component

/-- The Base and the synchronization status are built without a look at the address. -/
theorem build_of_isSingle {scope : Scope} (h : scope.isSingle = true) (address : UInt16) :
    build scope (some address) = .ok (fresh scope (some address)) := by
  cases scope <;> first | rfl | cases h

theorem build_of_admits {scope : Scope} {address : UInt16} (h : scope.admits address = true) :
    build scope (some address) = .ok (fresh scope (some address)) := by
  refine build_eq_fresh fun a ha => ?_
  cases ha
  exact h

/-- A component of any other kind is not built with an address out of range. -/
theorem build_of_out {scope : Scope} {address : UInt16} (hmany : scope.isSingle = false)
    (hout : scope.admits address = false) : build scope (some address) = .error (.invalidAddress scope address) := by
  have hinvalid : scope.validate address = .error (.invalidAddress scope address) :=
    if_neg (Bool.eq_false_iff.mp hout)
  have hprofile : Profile.build scope (some address) = .error (.invalidAddress scope address) := by
    rw [Profile.build, hinvalid]
    rfl
  cases scope with
  | base | sync => cases hmany
  | _ =>
      rw [build, hprofile]
      rfl

end Component

/-- Whether a component is a Base, or a synchronization status, that is filed under an address which it cannot have. -/
def Entry.Misfiled (e : Entry) : Prop := e.scope.isSingle = true ∧ e.scope.admits e.address = false

namespace Store

variable {store later : Store} {e : Entry} {scope : Scope} {address : UInt16}

/-- A new component that looking an address up files: it is the only one that is new, it is filed under the address, and
nothing is known of it. -/
structure Files (store : Store) (scope : Scope) (address : UInt16) (e : Entry) (later : Store) : Prop where
  filed : store.getOrCreate scope address = .ok (e, later)
  only : later.entries.Perm (e :: store.entries)
  aliases : later.aliases = store.aliases
  key : e.key = (scope, address)
  free : e.key ∉ store.keys
  unknown : e.state.isKnown = false

/-- What looking an address up is meant to come to. -/
inductive Resolves (store : Store) (scope : Scope) (address : UInt16) : Prop
  | found {e : Entry} (hfound : store.query scope address = some e)
      (hkept : store.getOrCreate scope address = .ok (e, store))
  | refused (hfree : store.query scope address = none) (hout : scope.admits address = false)
      (hrefused : store.getOrCreate scope address = .error (.invalidAddress scope address))
  | filed {e : Entry} {later : Store} (hfree : store.query scope address = none) (hin : scope.admits address = true)
      (hfiles : store.Files scope address e later) (hbound : e.state.profile.address = some address)

/-- Whether an address finds nothing and is not the address of the Base, or of the synchronization status, that it is
looked up as. -/
def Misfiles (store : Store) (scope : Scope) (address : UInt16) : Prop :=
  store.query scope address = none ∧ scope.isSingle = true ∧ scope.admits address = false

instance (store : Store) (scope : Scope) (address : UInt16) : Decidable (store.Misfiles scope address) :=
  inferInstanceAs (Decidable (_ ∧ _))

theorem getOrCreate_of_query (h : store.query scope address = some e) :
    store.getOrCreate scope address = .ok (e, store) := by
  rw [getOrCreate, h]

theorem getOrCreate_of_free (hfree : store.query scope address = none) :
    store.getOrCreate scope address =
      (Component.build scope (some address)).map fun state =>
        (⟨scope, address, state, 0⟩, store.file ⟨scope, address, state, 0⟩) := by
  rw [getOrCreate, hfree]
  cases Component.build scope (some address) <;> rfl

theorem files_of_build (hhomes : Homes store) (hfree : store.query scope address = none) {state : Component}
    (hbuilt : Component.build scope (some address) = .ok state) :
    store.Files scope address ⟨scope, address, state, 0⟩ (store.file ⟨scope, address, state, 0⟩) where
  filed := by rw [getOrCreate_of_free hfree, hbuilt]; rfl
  only := insertEntry_perm _ _
  aliases := rfl
  key := rfl
  free := not_mem_keys_of_free hhomes hfree
  unknown := Component.isKnown_of_build hbuilt

/-- What is filed where it cannot be bound is bound to the address that its kind has. -/
theorem files_of_misfiles (hhomes : Homes store) (h : store.Misfiles scope address) :
    ∃ e later, store.Files scope address e later ∧ e.state.profile.address = some (scope.bound address) ∧
      scope.bound address ≠ address := by
  obtain ⟨hfree, hsingle, hout⟩ := h
  have hbuilt := Component.build_of_isSingle hsingle address
  have haddress := Scope.address_of_build hbuilt
  refine ⟨_, _, files_of_build hhomes hfree hbuilt, haddress, fun hsame => ?_⟩
  have hin := (Component.built_of_build hbuilt).admits _ haddress
  rw [hsame, hout] at hin
  cases hin

theorem resolves_of_not_misfiles (hhomes : Homes store) (h : ¬store.Misfiles scope address) :
    store.Resolves scope address := by
  cases hquery : store.query scope address with
  | some e => exact .found hquery (getOrCreate_of_query hquery)
  | none =>
      cases hadmits : scope.admits address with
      | true =>
          have hbuilt := Component.build_of_admits hadmits
          refine .filed hquery hadmits (files_of_build hhomes hquery hbuilt) ?_
          rw [Scope.address_of_build hbuilt, Scope.bound_of_admits hadmits]
      | false =>
          have hmany : scope.isSingle = false :=
            Bool.eq_false_iff.mpr fun hsingle => h ⟨hquery, hsingle, hadmits⟩
          refine .refused hquery hadmits ?_
          rw [getOrCreate_of_free hquery, Component.build_of_out hmany hadmits]
          rfl

theorem not_misfiles_of_resolves (hhomes : Homes store) (h : store.Resolves scope address) :
    ¬store.Misfiles scope address := by
  intro hmisfiles
  obtain ⟨_, _, hfiles, -, -⟩ := files_of_misfiles hhomes hmisfiles
  obtain ⟨hfree, -, hout⟩ := hmisfiles
  cases h with
  | found hfound _ =>
      rw [hfree] at hfound
      cases hfound
  | refused _ _ hrefused =>
      rw [hfiles.filed] at hrefused
      cases hrefused
  | filed _ hin _ _ =>
      rw [hout] at hin
      cases hin

/-- A component is bound to the address that it is filed under, and within range, unless it was misfiled. -/
theorem bound_iff (hplaced : Placed store) (hlisted : Listed store) (he : e ∈ store.entries) :
    (e.state.profile.address = some e.address ↔ ¬e.Misfiled) ∧ (e.scope.admits e.address = true ↔ ¬e.Misfiled) := by
  have hadmits : e.scope.admits (e.scope.bound e.address) = true := hlisted.admitted e.key (List.mem_map_of_mem he)
  have hrange : e.scope.bound e.address = e.address ↔ e.scope.admits e.address = true :=
    ⟨fun hsame => hsame ▸ hadmits, Scope.bound_of_admits⟩
  have hplace : e.scope.admits e.address = true ↔ ¬e.Misfiled := by
    refine ⟨fun hin hmisfiled => ?_, fun hplace => ?_⟩
    · rw [hmisfiled.2] at hin
      cases hin
    · cases hsingle : e.scope.isSingle with
      | true => exact Bool.eq_true_of_not_eq_false fun hout => hplace ⟨hsingle, hout⟩
      | false => exact hrange.mp (Scope.bound_of_not_isSingle hsingle e.address)
  rw [hplaced.bound e he, Option.some.injEq]
  exact ⟨hrange.trans hplace, hplace⟩

/-- Take any store after any dispatches, lookups and resets. Looking an address up leaves what it finds alone, refuses
an address out of range and files one new component that is bound to the address, just if it does not name the Base or
the synchronization status by an address that finds none and that they cannot have. Such an address files one new
component as well, but it is bound to the one address of its kind. So each component of the store is bound to the
address that it is filed under, within the range of its kind, unless it is the Base or the status and that address is
out of range. -/
theorem resolves_iff (rules : Rules) (actions : List Action) {store : Store}
    (hstore : (empty rules).after actions = store) :
    (∀ scope address, store.Resolves scope address ↔ ¬store.Misfiles scope address) ∧
      (∀ scope address, store.Misfiles scope address →
        ∃ e later, store.Files scope address e later ∧ e.state.profile.address = some (scope.bound address) ∧
          scope.bound address ≠ address) ∧
      ∀ e ∈ store.entries,
        (e.state.profile.address = some e.address ↔ ¬e.Misfiled) ∧
          (e.scope.admits e.address = true ↔ ¬e.Misfiled) := by
  subst hstore
  have hhomes : Homes ((empty rules).after actions) := (sound_after rules actions).homes
  refine ⟨fun scope address => ⟨not_misfiles_of_resolves hhomes, resolves_of_not_misfiles hhomes⟩, ?_, ?_⟩
  · exact fun scope address hmisfiles => files_of_misfiles hhomes hmisfiles
  · exact fun e he => bound_iff (placed_after rules actions) (listed_after rules actions) he

/-- After engine 12 got the number 1234, the Base is looked up as Base 5: this files a Base there that is bound to 0.
The number still finds the engine, and the status is misfiled under 5 in turn. -/
theorem resolves_iff_misfiled :
    let number : Update := .message (.memory
      ⟨12, MemoryMessage.writeFlags, 0, some .engine, 0x3F, 2, 4, [0x31, 0x32, 0x33, 0x34]⟩)
    let store := (empty ⟨.stock, .standard⟩).after [.tell 0 number, .find .base 5]
    (∃ e ∈ store.entries, e.key = (.base, 5) ∧ e.state.profile.address ≠ some 5) ∧
      store.Resolves .engine 1234 ∧ store.Resolves .switch 100 ∧ store.Misfiles .sync 5 ∧ ¬store.Resolves .sync 5 := by
  intro number store
  have hstore : (empty ⟨.stock, .standard⟩).after [.tell 0 number, .find .base 5] = store := rfl
  obtain ⟨hresolves, -, hbound⟩ := resolves_iff ⟨.stock, .standard⟩ _ hstore
  have hfound : (store.query .base 5).map Entry.key = some (.base, 5) := by decide +kernel
  obtain ⟨e, he, hkey⟩ := Option.map_eq_some_iff.mp hfound
  have hmem : e ∈ store.entries := (query_eq_some he).1
  have hmisfiled : store.Misfiles .sync 5 := by decide +kernel
  obtain ⟨hscope, haddress⟩ : e.scope = .base ∧ e.address = 5 := Prod.ext_iff.mp hkey
  have helsewhere : e.state.profile.address ≠ some 5 := by
    rw [← haddress]
    refine fun hown => (hbound e hmem).1.mp hown ⟨?_, ?_⟩ <;> rw [hscope]
    · rfl
    · rw [haddress]
      rfl
  exact ⟨⟨e, hmem, hkey, helsewhere⟩, (hresolves _ _).mpr (by decide +kernel), (hresolves _ _).mpr (by decide +kernel),
    hmisfiled, fun h => (hresolves _ _).mp h hmisfiled⟩

end Store
end RailLayout
