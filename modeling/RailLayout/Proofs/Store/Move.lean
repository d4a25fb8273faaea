import Mathlib.Logic.Relation
import RailLayout.Proofs.Message.NormalForm
import RailLayout.Proofs.Store.Filed
import RailLayout.Store.Dispatch

/-!
What a dispatch is made of. Whatever a store is told, it files new components and puts components that are filed back
after an update or a sighting, one after the other (`Store.moves_dispatch`).
-/

namespace RailLayout

namespace Entry

variable {e : Entry} {rules : Rules} {now : Nat} {u : Update}

/-- A component that is filed after an update. -/
def updated (rules : Rules) (now : Nat) (u : Update) (e : Entry) : Entry :=
  let outcome := e.state.update rules now u
  match outcome.verdict with
  | .ok true => e.change outcome.state
  | _ => { e with state := outcome.state }

theorem updated_of_changed (h : (e.state.update rules now u).verdict = .ok true) :
    e.updated rules now u = e.change (e.state.update rules now u).state := by
  simp only [updated, h]

theorem updated_of_unchanged (h : (e.state.update rules now u).verdict ≠ .ok true) :
    e.updated rules now u = { e with state := (e.state.update rules now u).state } := by
  unfold updated
  dsimp only
  split
  · contradiction
  · rfl

theorem updated_same (rules : Rules) (now : Nat) (u : Update) (e : Entry) :
    (e.updated rules now u).scope = e.scope ∧ (e.updated rules now u).address = e.address ∧
      (e.updated rules now u).state = (e.state.update rules now u).state := by
  by_cases h : (e.state.update rules now u).verdict = .ok true
  · rw [updated_of_changed h]
    exact ⟨rfl, rfl, rfl⟩
  · rw [updated_of_unchanged h]
    exact ⟨rfl, rfl, rfl⟩

@[simp] theorem key_updated (rules : Rules) (now : Nat) (u : Update) (e : Entry) :
    (e.updated rules now u).key = e.key :=
  Prod.ext (updated_same rules now u e).1 (updated_same rules now u e).2.1

end Entry

namespace Store

variable {store later : Store} {e : Entry} {scope : Scope} {address : UInt16}

/-- One move of a dispatch. -/
inductive Move (store : Store) : Store → Prop where
  /-- A new component is filed under an address that finds none. -/
  | file {scope : Scope} {address : UInt16} {state : Component} (hfree : store.query scope address = none)
      (hbuilt : Component.build scope (some address) = .ok state) : Move store (store.file ⟨scope, address, state, 0⟩)
  /-- An update changed a component, which can bring it a new number. -/
  | tell {e : Entry} (he : e ∈ store.entries) (now : Nat) (u : Update)
      (hchanged : (e.state.update store.rules now u).verdict = .ok true) :
      Move store ((store.put (e.updated store.rules now u)).fileAlias (e.updated store.rules now u))
  /-- An update did not count as a change, or it was refused. -/
  | leave {e : Entry} (he : e ∈ store.entries) (now : Nat) (u : Update)
      (hleft : (e.state.update store.rules now u).verdict ≠ .ok true) :
      Move store (store.put (e.updated store.rules now u))
  /-- A sighting changed an engine. -/
  | see {e : Entry} (he : e ∈ store.entries) (hengine : e.scope = .engine) (sighting : Sighting) :
      Move store ((store.put (e.change (e.state.applySighting sighting).1)).fileAlias
        (e.change (e.state.applySighting sighting).1))

/-- One move after the other. -/
def Moves : Store → Store → Prop := Relation.ReflTransGen Move

/-- What an address stands for is what it finds, or else a new component that is filed under it. -/
theorem getOrCreate_cases (h : store.getOrCreate scope address = .ok (e, later)) :
    (store.query scope address = some e ∧ later = store) ∨
      ∃ state, store.query scope address = none ∧ Component.build scope (some address) = .ok state ∧
        e = ⟨scope, address, state, 0⟩ ∧ later = store.file e := by
  unfold getOrCreate at h
  split at h
  · rename_i hquery
    cases h
    exact Or.inl ⟨hquery, rfl⟩
  · rename_i hfree
    obtain ⟨state, hbuilt, h⟩ := ok_of_bind h
    cases h
    exact Or.inr ⟨state, hfree, hbuilt, rfl, rfl⟩

theorem scope_of_getOrCreate (h : store.getOrCreate scope address = .ok (e, later)) : e.scope = scope := by
  rcases getOrCreate_cases h with ⟨hquery, -⟩ | ⟨state, -, -, rfl, -⟩
  · exact (query_eq_some hquery).2
  · rfl

theorem rules_of_getOrCreate (h : store.getOrCreate scope address = .ok (e, later)) : later.rules = store.rules := by
  rcases getOrCreate_cases h with ⟨-, rfl⟩ | ⟨state, -, -, -, rfl⟩ <;> rfl

theorem moves_getOrCreate (h : store.getOrCreate scope address = .ok (e, later)) :
    Moves store later ∧ e ∈ later.entries := by
  rcases getOrCreate_cases h with ⟨hquery, rfl⟩ | ⟨state, hfree, hbuilt, rfl, rfl⟩
  · exact ⟨.refl, (query_eq_some hquery).1⟩
  · exact ⟨.single (.file hfree hbuilt), mem_file.mpr (Or.inl rfl)⟩

theorem moves_applySighting (sighting : Sighting) (store : Store) : Moves store (store.applySighting sighting).state := by
  unfold applySighting
  dsimp only
  split
  · exact .refl
  · rename_i e later hfound
    obtain ⟨hmoves, hmem⟩ := moves_getOrCreate hfound
    split
    · rename_i state hstate
      have hsee := Move.see hmem (scope_of_getOrCreate hfound) sighting
      rw [hstate] at hsee
      exact hmoves.tail hsee
    · exact hmoves

theorem moves_passSighting (u : Update) (store : Store) : Moves store (store.passSighting u).state := by
  unfold passSighting
  split
  · exact moves_applySighting _ store
  · exact .refl

/-- What giving an update to a component that is filed does to the store. -/
theorem applyTo_cases (now : Nat) (u : Update) (e : Entry) (store : Store) :
    ((e.state.update store.rules now u).verdict = .ok true ∧
        (store.applyTo now u e).state =
          (((store.put (e.updated store.rules now u)).fileAlias (e.updated store.rules now u)).passSighting u).state) ∨
      ((e.state.update store.rules now u).verdict ≠ .ok true ∧
        (store.applyTo now u e).state = store.put (e.updated store.rules now u)) := by
  unfold applyTo
  dsimp only
  split
  · rename_i hverdict
    rw [Entry.updated_of_changed hverdict]
    exact Or.inl ⟨hverdict, rfl⟩
  · rename_i hverdict
    have hsame : (e.state.update store.rules now u).verdict ≠ .ok true := by rw [hverdict]; simp
    rw [Entry.updated_of_unchanged hsame]
    exact Or.inr ⟨hsame, rfl⟩
  · rename_i hverdict
    have hsame : (e.state.update store.rules now u).verdict ≠ .ok true := by rw [hverdict]; simp
    rw [Entry.updated_of_unchanged hsame]
    exact Or.inr ⟨hsame, rfl⟩

theorem moves_applyTo (he : e ∈ store.entries) (now : Nat) (u : Update) :
    Moves store (store.applyTo now u e).state := by
  rcases applyTo_cases now u e store with ⟨hchanged, hstate⟩ | ⟨hleft, hstate⟩
  · rw [hstate]
    exact .head (.tell he now u hchanged) (moves_passSighting u _)
  · rw [hstate]
    exact .single (.leave he now u hleft)

theorem moves_applyToFiled (now : Nat) (u : Update) (e : Entry) (store : Store) :
    Moves store (store.applyToFiled now u e).state := by
  unfold applyToFiled
  split
  · rename_i present hpresent
    exact moves_applyTo (filed?_eq_some hpresent).1 now u
  · exact .refl

theorem moves_forEach (now : Nat) (u : Update) (targets : List Entry) (store : Store) :
    Moves store (Reaction.forEach (applyToFiled now u) targets store).state := by
  induction targets generalizing store with
  | nil => exact .refl
  | cons e rest ih =>
      have hfirst : Moves store (store.applyToFiled now u e).state := moves_applyToFiled now u e store
      exact hfirst.trans (ih _)

theorem moves_route (now : Nat) (u : Update) (store : Store) : Moves store (store.route now u).state := by
  unfold route applyAt
  split
  · split
    · exact .refl
    · rename_i e later hfound
      obtain ⟨hmoves, hmem⟩ := moves_getOrCreate hfound
      exact hmoves.trans (moves_applyTo hmem now u)
  · exact .refl

theorem moves_dispatch (now : Nat) (u : Update) (store : Store) : Moves store (store.dispatch now u).state := by
  unfold dispatch
  split
  · exact moves_route now _ store
  · repeat' split
    · exact moves_forEach now _ _ store
    · exact moves_forEach now _ _ store
    · exact moves_forEach now _ _ store
    · exact moves_route now _ store

end Store
end RailLayout
