import RailLayout.Proofs.State.Rest
import RailLayout.Proofs.Store.Move

/-!
Stores that are told one thing after another. Every component of a store is filed once and is of the kind that it is
filed under; it is bound, and an engine or a train whose last command was a halt is at rest; every second address
belongs to a component that is filed, and the four-digit number of an engine or a train finds one (`Store.Sound`).
Each move of a dispatch keeps this, hence every run of dispatches (`Store.sound_run`), and so does every run keep what
each move keeps in stores of this kind (`Store.run_invariant`). The same holds if components are looked up and forgotten
in between (`Store.after_invariant`).
-/

namespace RailLayout

namespace Entry

variable {e : Entry} {rules : Rules} {now : Nat} {u : Update}

/-- Whether a component that is filed fits its place and is at rest if it was halted last. -/
structure Sound (e : Entry) : Prop where
  scope_eq : e.state.scope = e.scope
  bound : e.state.profile.address.isSome = true
  rested : e.state.Rested

theorem isSome_address_update {c : Component} (h : c.profile.address.isSome = true) (rules : Rules) (now : Nat)
    (u : Update) : (c.update rules now u).state.profile.address.isSome = true := by
  cases haccept : c.profile.accept c.scope u with
  | error e =>
      rw [Component.update_of_refused haccept]
      exact h
  | ok q =>
      rw [(Component.took_of_accepted haccept).told.address]
      exact Profile.isSome_address_of_accept haccept

theorem sound_updated (h : e.Sound) (rules : Rules) (now : Nat) (u : Update) : (e.updated rules now u).Sound := by
  obtain ⟨hscope, -, hstate⟩ := updated_same rules now u e
  refine ⟨?_, ?_, ?_⟩
  · rw [hstate, hscope, Component.scope_update]
    exact h.scope_eq
  · rw [hstate]
    exact isSome_address_update h.bound rules now u
  · rw [hstate]
    exact Component.rested_update h.rested rules now u

/-- An update that does not change a component, or that is a command, leaves its second address as it is. -/
theorem alias?_updated (h : e.Sound)
    (hkeeps : (∃ c, u = .command c) ∨ (e.state.update rules now u).verdict ≠ .ok true) :
    (e.updated rules now u).alias? = e.alias? := by
  obtain ⟨hscope, haddress, hstate⟩ := updated_same rules now u e
  unfold alias?
  rw [hscope, haddress, hstate]
  split
  · rename_i hmotive
    obtain ⟨s, hs⟩ : ∃ s, e.state = .motive s := Component.exists_motive (h.scope_eq ▸ hmotive.1)
    rw [hs] at hkeeps ⊢
    have hnumber : ((Component.motive s).update rules now u).state.profile.roadNumber = s.profile.roadNumber :=
      MotiveState.roadNumber_update hkeeps
    rw [Profile.spelledAddress?, Profile.spelledAddress?, hnumber]
    rfl
  · rfl

theorem sound_sighted (h : e.Sound) (sighting : Sighting) : (e.change (e.state.applySighting sighting).1).Sound := by
  obtain ⟨hscope, haddress⟩ := Component.applySighting_same sighting e.state
  exact ⟨hscope.trans h.scope_eq, (congrArg Option.isSome haddress).trans h.bound,
    Component.rested_applySighting h.rested sighting⟩

theorem sound_fresh {scope : Scope} {address : UInt16} {state : Component}
    (h : Component.build scope (some address) = .ok state) : Sound ⟨scope, address, state, 0⟩ :=
  ⟨(Component.built_of_build h).scope_eq, (Component.built_of_build h).bound rfl, Component.rested_of_build h⟩

theorem alias?_fresh {scope : Scope} {address : UInt16} {state : Component}
    (h : Component.build scope (some address) = .ok state) : alias? ⟨scope, address, state, 0⟩ = none := by
  unfold alias?
  split
  · rw [show state.profile.spelledAddress? = none by rw [(Component.built_of_build h).fresh]; rfl]
    rfl
  · rfl

end Entry

namespace Store

variable {store later : Store} {e : Entry}

/-- What every store keeps to. -/
structure Sound (store : Store) : Prop where
  distinct : store.keys.Nodup
  sound : ∀ e ∈ store.entries, e.Sound
  homes : store.Homes
  numbered : ∀ e ∈ store.entries, ∀ n, e.alias? = some n → store.Finds e.scope n

theorem sound_empty (rules : Rules) : Sound (empty rules) where
  distinct := List.nodup_nil
  sound _ he := absurd he List.not_mem_nil
  homes _ ha := absurd ha List.not_mem_nil
  numbered _ he := absurd he List.not_mem_nil

/-! ## Moves -/

theorem sound_put_fileAlias (h : Sound store) (he : e.Sound) (hfiled : e.key ∈ store.keys) :
    Sound ((store.put e).fileAlias e) := by
  have hhomes : Homes (store.put e) := homes_put h.homes e
  refine ⟨?_, ?_, homes_fileAlias hhomes (by rwa [keys_put]), ?_⟩
  · rw [keys_fileAlias, keys_put]
    exact h.distinct
  · intro x hx
    rw [entries_fileAlias] at hx
    rcases mem_put hx with rfl | ⟨hx, -⟩
    · exact he
    · exact h.sound x hx
  · intro x hx n hn
    rw [entries_fileAlias] at hx
    rcases mem_put hx with rfl | ⟨hx, -⟩
    · exact finds_alias hhomes hn
    · exact finds_fileAlias (finds_put.mpr (h.numbered x hx n hn)) e

theorem sound_put (h : Sound store) (he : e.Sound) {old : Entry} (hold : old ∈ store.entries)
    (hkey : e.key = old.key) (halias : e.alias? = old.alias?) : Sound (store.put e) := by
  refine ⟨?_, ?_, homes_put h.homes e, ?_⟩
  · rw [keys_put]
    exact h.distinct
  · intro x hx
    rcases mem_put hx with rfl | ⟨hx, -⟩
    · exact he
    · exact h.sound x hx
  · intro x hx n hn
    rw [finds_put]
    rcases mem_put hx with rfl | ⟨hx, -⟩
    · have hscope : x.scope = old.scope := congrArg Prod.fst hkey
      rw [hscope]
      exact h.numbered old hold n (halias ▸ hn)
    · exact h.numbered x hx n hn

theorem sound_file (h : Sound store) (he : e.Sound) (hfree : e.key ∉ store.keys) (halias : e.alias? = none) :
    Sound (store.file e) := by
  refine ⟨nodup_keys_file h.distinct hfree, ?_, homes_file h.homes e, ?_⟩
  · intro x hx
    rcases mem_file.mp hx with rfl | hx
    · exact he
    · exact h.sound x hx
  · intro x hx n hn
    rcases mem_file.mp hx with rfl | hx
    · rw [halias] at hn
      cases hn
    · exact finds_file (h.numbered x hx n hn) e

theorem sound_move (h : Sound store) (hmove : Move store later) : Sound later := by
  cases hmove with
  | file hfree hbuilt =>
      exact sound_file h (Entry.sound_fresh hbuilt) (not_mem_keys_of_free h.homes hfree) (Entry.alias?_fresh hbuilt)
  | tell he now u hchanged =>
      refine sound_put_fileAlias h (Entry.sound_updated (h.sound _ he) store.rules now u) ?_
      rw [Entry.key_updated]
      exact List.mem_map_of_mem he
  | leave he now u hleft =>
      exact sound_put h (Entry.sound_updated (h.sound _ he) store.rules now u) he (Entry.key_updated _ _ _ _)
        (Entry.alias?_updated (h.sound _ he) (Or.inr hleft))
  | @see e he hengine sighting =>
      have hfiled : e.key ∈ store.keys := List.mem_map_of_mem he
      exact sound_put_fileAlias h (Entry.sound_sighted (h.sound e he) sighting) hfiled

theorem sound_moves (h : Sound store) (hmoves : Moves store later) : Sound later := by
  induction hmoves with
  | refl => exact h
  | tail _ hlast ih => exact sound_move ih hlast

/-- What each move keeps, in stores that are sound, is kept by moves one after the other. -/
theorem moves_invariant {P : Store → Prop}
    (hmove : ∀ {store later}, Sound store → P store → Move store later → P later) (hsound : Sound store) (h : P store)
    (hmoves : Moves store later) : P later := by
  induction hmoves with
  | refl => exact h
  | tail hbefore hlast ih => exact hmove (sound_moves hsound hbefore) ih hlast

/-! ## Runs -/

/-- A store after one dispatch after another, each at its time. -/
def run (store : Store) (told : List (Nat × Update)) : Store :=
  told.foldl (fun store u => (store.dispatch u.1 u.2).state) store

theorem run_append (store : Store) (before after : List (Nat × Update)) :
    store.run (before ++ after) = (store.run before).run after :=
  List.foldl_append

/-- Every store is sound after every run. -/
theorem sound_run (h : Sound store) (told : List (Nat × Update)) : Sound (store.run told) := by
  induction told generalizing store with
  | nil => exact h
  | cons u rest ih => exact ih (sound_moves h (moves_dispatch u.1 u.2 store))

/-- What each move keeps, in stores that are sound, is kept by every run of dispatches. -/
theorem run_invariant {P : Store → Prop}
    (hmove : ∀ {store later}, Sound store → P store → Move store later → P later) (hsound : Sound store) (h : P store)
    (told : List (Nat × Update)) : P (store.run told) := by
  induction told generalizing store with
  | nil => exact h
  | cons u rest ih =>
      have hmoves := moves_dispatch u.1 u.2 store
      exact ih (sound_moves hsound hmoves) (moves_invariant hmove hsound h hmoves)

/-! ## Actions -/

/-- What happens to a store: it is told something at a time, a component is looked up and filed if it is new, or every
component is forgotten. -/
inductive Action where
  | tell (now : Nat) (u : Update)
  | find (scope : Scope) (address : UInt16)
  | clear

/-- A store after one action. -/
def act (store : Store) : Action → Store
  | .tell now u => (store.dispatch now u).state
  | .find scope address =>
    match store.getOrCreate scope address with
    | .ok (_, later) => later
    | .error _ => store
  | .clear => store.reset.state

/-- A store after one action after another. -/
def after (store : Store) (actions : List Action) : Store := actions.foldl act store

theorem act_cases (store : Store) (action : Action) :
    Moves store (store.act action) ∨ store.act action = empty store.rules := by
  cases action with
  | tell now u => exact Or.inl (moves_dispatch now u store)
  | find scope address =>
      refine Or.inl ?_
      unfold act
      dsimp only
      split
      · rename_i e later hfound
        exact (moves_getOrCreate hfound).1
      · exact .refl
  | clear => exact Or.inr rfl

theorem sound_act (h : Sound store) (action : Action) : Sound (store.act action) := by
  rcases act_cases store action with hmoves | hcleared
  · exact sound_moves h hmoves
  · rw [hcleared]
    exact sound_empty store.rules

/-- What each move keeps, in stores that are sound, and what holds of an empty store, is kept by all actions. -/
theorem after_invariant {P : Store → Prop}
    (hmove : ∀ {store later}, Sound store → P store → Move store later → P later)
    (hclear : ∀ {store : Store}, P store → P (empty store.rules)) (hsound : Sound store) (h : P store)
    (actions : List Action) : P (store.after actions) := by
  induction actions generalizing store with
  | nil => exact h
  | cons action rest ih =>
      refine ih (sound_act hsound action) ?_
      rcases act_cases store action with hmoves | hcleared
      · exact moves_invariant hmove hsound h hmoves
      · rw [hcleared]
        exact hclear h

/-- Every store is sound after any actions. -/
theorem sound_after (rules : Rules) (actions : List Action) : Sound ((empty rules).after actions) :=
  after_invariant (fun _ h hmove => sound_move h hmove) (fun _ => sound_empty _) (sound_empty rules)
    (sound_empty rules) actions

theorem rules_move (h : Move store later) : later.rules = store.rules := by
  have halias : ∀ (store : Store) (e : Entry), (store.fileAlias e).rules = store.rules := by
    intro store e
    rcases fileAlias_cases store e with ⟨-, hsame⟩ | ⟨number, -, -, hnew⟩
    · rw [hsame]
    · rw [hnew]
  cases h with
  | file => rfl
  | leave => rfl
  | tell | see => exact halias _ _

theorem rules_after (rules : Rules) (actions : List Action) : ((empty rules).after actions).rules = rules :=
  after_invariant (P := fun store => store.rules = rules) (fun _ h hmove => (rules_move hmove).trans h) id
    (sound_empty rules) rfl actions

end Store
end RailLayout
