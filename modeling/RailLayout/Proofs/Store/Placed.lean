import RailLayout.Proofs.State.Binding
import RailLayout.Proofs.Store.Run

/-!
Where the components of a store are bound. A component goes by the address that it is filed under, the Base and the
synchronization status by the addresses that they have anyway; second addresses are numbers above 99 of engines and
trains (`Store.Placed`). So an address that finds a component which is filed elsewhere is such a number
(`Store.Placed.address_of_query`).
-/

namespace RailLayout

namespace Scope

/-- The address that a component of a kind is bound to if it is filed under an address. -/
def bound : Scope → UInt16 → UInt16
  | base, _ => 0
  | sync, _ => broadcastAddress
  | _, address => address

theorem bound_of_isMotive {scope : Scope} (h : scope.isMotive = true) (address : UInt16) :
    scope.bound address = address := by
  cases scope <;> first | rfl | contradiction

theorem address_of_build {scope : Scope} {address : UInt16} {state : Component}
    (h : Component.build scope (some address) = .ok state) :
    state.profile.address = some (scope.bound address) := by
  cases scope with
  | base | sync =>
      cases h
      rfl
  | _ =>
      obtain ⟨p, hp, h⟩ := ok_of_bind h
      obtain ⟨rfl, -⟩ := Profile.build_eq_ok hp
      cases h
      rfl

end Scope

namespace Store

variable {store later : Store} {e old : Entry} {scope : Scope} {n : UInt16}

/-- Where the components of every store are bound, and what second addresses there are. -/
structure Placed (store : Store) : Prop where
  bound : ∀ e ∈ store.entries, e.state.profile.address = some (e.scope.bound e.address)
  aliases : ∀ a ∈ store.aliases, a.scope.isMotive = true ∧ 99 < a.address

theorem placed_empty (rules : Rules) : Placed (empty rules) where
  bound _ he := absurd he List.not_mem_nil
  aliases _ ha := absurd ha List.not_mem_nil

theorem placed_put (h : Placed store) (hold : old ∈ store.entries) (hkey : e.key = old.key)
    (haddress : e.state.profile.address = old.state.profile.address) : Placed (store.put e) where
  bound x hx := by
    rcases mem_put hx with rfl | ⟨hx, -⟩
    · rw [haddress, show x.scope = old.scope from congrArg Prod.fst hkey,
        show x.address = old.address from congrArg Prod.snd hkey]
      exact h.bound old hold
    · exact h.bound x hx
  aliases := h.aliases

theorem number_of_alias? (h : e.alias? = some n) :
    e.scope.isMotive = true ∧ (100 ≤ n ∧ n ≤ 9999) ∧ e.address ≤ 99 := by
  unfold Entry.alias? at h
  split at h
  · rename_i hmotive
    exact ⟨hmotive.1, of_decide_eq_true (Option.filter_eq_some_iff.mp h).2, hmotive.2⟩
  · cases h

theorem placed_fileAlias (h : Placed store) (e : Entry) : Placed (store.fileAlias e) := by
  refine ⟨fun x hx => h.bound x (entries_fileAlias store e ▸ hx), fun a ha => ?_⟩
  rcases fileAlias_cases store e with ⟨-, hsame⟩ | ⟨number, hnumber, -, hnew⟩
  · exact h.aliases a (hsame ▸ ha)
  · rw [hnew] at ha
    rcases List.mem_append.mp ha with hin | hlast
    · exact h.aliases a hin
    · cases List.mem_singleton.mp hlast
      obtain ⟨hmotive, hnumber, -⟩ := number_of_alias? hnumber
      exact ⟨hmotive, UInt16.lt_of_lt_of_le (by decide) hnumber.1⟩

theorem address_updated (h : e.Sound) (rules : Rules) (now : Nat) (u : Update) :
    (e.updated rules now u).state.profile.address = e.state.profile.address := by
  obtain ⟨a, ha⟩ := Option.isSome_iff_exists.mp h.bound
  rw [(Entry.updated_same rules now u e).2.2, ha]
  exact Component.address_meet ha (.told rules now u)

theorem placed_move (hsound : Sound store) (h : Placed store) (hmove : Move store later) : Placed later := by
  cases hmove with
  | file hfree hbuilt =>
      refine ⟨fun x hx => ?_, h.aliases⟩
      rcases mem_file.mp hx with rfl | hx
      · exact Scope.address_of_build hbuilt
      · exact h.bound x hx
  | tell he now u hchanged =>
      exact placed_fileAlias (placed_put h he (Entry.key_updated _ _ _ _) (address_updated (hsound.sound _ he) _ _ _)) _
  | leave he now u hleft =>
      exact placed_put h he (Entry.key_updated _ _ _ _) (address_updated (hsound.sound _ he) _ _ _)
  | @see e he hengine sighting =>
      have hsame : (e.change (e.state.applySighting sighting).1).state.profile.address = e.state.profile.address :=
        (Component.applySighting_same sighting e.state).2
      have hkey : (e.change (e.state.applySighting sighting).1).key = e.key := rfl
      exact placed_fileAlias (placed_put h he hkey hsame) _

/-- In every store after every run, components are bound where they are filed. -/
theorem placed_run (rules : Rules) (told : List (Nat × Update)) : Placed ((empty rules).run told) :=
  run_invariant placed_move (sound_empty rules) (placed_empty rules) told

theorem placed_after (rules : Rules) (actions : List Action) : Placed ((empty rules).after actions) :=
  after_invariant placed_move (fun _ => placed_empty _) (sound_empty rules) (placed_empty rules) actions

/-- An address finds a component that is filed there, or it is a second address of an engine or a train. -/
theorem Placed.address_of_query (h : Placed store) (hquery : store.query scope n = some e) :
    e.address = n ∨ (scope.isMotive = true ∧ 99 < n) := by
  unfold query at hquery
  split at hquery
  · rename_i hfiled
    cases hquery
    exact Or.inl (congrArg Prod.snd (filed?_eq_some hfiled).2)
  · obtain ⟨home, hhome, -⟩ := Option.bind_eq_some_iff.mp hquery
    exact Or.inr (h.aliases _ (mem_of_home? hhome))

end Store
end RailLayout
