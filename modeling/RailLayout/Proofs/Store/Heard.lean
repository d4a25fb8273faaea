import RailLayout.Proofs.State.Resynthesis
import RailLayout.Proofs.Store.Listed

/-!
What every component of a store keeps to. A dispatch builds components, gives them its own update and shows them what
sensor tracks see, and does nothing else to them. So what these keep holds of all components of a store after any
dispatches (`Store.states_dispatch`, `Store.states_after`), such as what components keep to that heard nothing but
commands and messages from frames (`Store.kept_after`).
-/

namespace RailLayout

theorem Update.spoken_of_sent {u : Update} (h : u.Sent) : u.Spoken := by
  cases h with
  | command => trivial
  | message h => exact Message.spoken_of_ofFrame h

namespace Store

variable {store later : Store} {scope : Scope} {n : UInt16} {f : Component → Component} {now : Nat} {u : Update}

section States

variable {P : Component → Prop}
  (hbuild : ∀ {scope : Scope} {n : UInt16} {c : Component}, Component.build scope (some n) = .ok c → P c)
include hbuild

theorem Makes.states (h : Makes store scope n f later) (hsound : Sound store) (hf : ∀ c, P c → P (f c))
    (hall : ∀ e ∈ store.entries, P e.state) : ∀ e ∈ later.entries, P e.state := by
  intro e he
  rcases h.mem hsound he with ⟨hold, -⟩ | ⟨-, c, hc, hstate⟩
  · exact hall e hold
  · rw [hstate]
    rcases standing?_cases hc with ⟨old, hold, -, rfl⟩ | ⟨-, -, hbuilt⟩
    · exact hf old.state (hall old hold)
    · exact hf c (hbuild hbuilt)

variable (hseen : ∀ c sighting, P c → P (c.applySighting sighting).1)
include hseen

theorem states_route (hsound : Sound store) (htold : ∀ c, P c → P (c.update store.rules now u).state)
    (hall : ∀ e ∈ store.entries, P e.state) : ∀ e ∈ (store.route now u).state.entries, P e.state := by
  cases htarget : u.target? with
  | none =>
      rw [route, htarget]
      exact hall
  | some target =>
      obtain ⟨told, hmakes, hlater⟩ := makes_route hsound now htarget
      have htoldAll := hmakes.states hbuild hsound htold hall
      rcases hlater with hsame | ⟨sighting, -, hsame⟩
      · rwa [hsame]
      · rw [hsame]
        have hsoundTold := sound_moves hsound hmakes.moves
        exact (makes_applySighting hsoundTold sighting).states hbuild hsoundTold (fun c => hseen c sighting) htoldAll

/-- What building a component, a dispatch's own update and sightings keep of a component is kept by the dispatch. -/
theorem states_dispatch (hsound : Sound store) (htold : ∀ c, P c → P (c.update store.rules now u).state)
    (hall : ∀ e ∈ store.entries, P e.state) : ∀ e ∈ (store.dispatch now u).state.entries, P e.state := by
  have hroute := states_route hbuild hseen hsound htold hall
  cases u with
  | message m => exact hroute
  | command c =>
      have heach : ∀ scopes : List Scope, scopes.Nodup →
          ∀ e ∈ (store.applyToAll now (.command c) scopes).state.entries, P e.state := by
        intro scopes hscopes e he
        rw [applyToAll_command hsound hscopes] at he
        obtain ⟨old, hold, rfl⟩ := List.mem_map.mp he
        split
        · rw [(Entry.updated_same store.rules now (.command c) old).2.2]
          exact htold old.state (hall old hold)
        · exact hall old hold
      unfold dispatch
      dsimp only
      repeat' split
      · exact heach _ (by decide)
      · exact heach _ (by decide)
      · exact heach _ (List.nodup_singleton _)
      · exact hroute

/-- What building a component, every update that can be sent and sightings keep of a component holds of all components
of a store. -/
theorem states_after (htold : ∀ c u, Update.Sent u → P c → ∀ rules now, P (c.update rules now u).state)
    (rules : Rules) (actions : List Action) (hsent : ∀ action ∈ actions, action.Sent) :
    ∀ e ∈ ((empty rules).after actions).entries, P e.state := by
  have hfrom : ∀ {store : Store}, Sound store → (∀ e ∈ store.entries, P e.state) →
      ∀ e ∈ (store.after actions).entries, P e.state := by
    induction actions with
    | nil => exact fun _ hall => hall
    | cons action rest ih =>
        intro store hsound hall
        refine ih (fun other hother => hsent other (List.mem_cons_of_mem action hother)) (sound_act hsound action) ?_
        cases hsent action List.mem_cons_self with
        | tell now hu => exact states_dispatch hbuild hseen hsound (fun c hc => htold c _ hu hc _ now) hall
        | clear => exact fun e he => absurd he List.not_mem_nil
  exact hfrom (sound_empty rules) fun e he => absurd he List.not_mem_nil

end States

theorem kept_after (rules : Rules) (actions : List Action) (hsent : ∀ action ∈ actions, action.Sent) :
    ∀ e ∈ ((empty rules).after actions).entries, e.state.Kept := by
  refine states_after Component.kept_build (fun c sighting hc => ?_) (fun c u hu hc rules now => ?_) rules actions hsent
  · exact Component.kept_meet hc (show (Incident.seen sighting).Heard from trivial)
  · exact Component.kept_update hc (Update.spoken_of_sent hu) rules now

/-- Told nothing but commands and messages from frames, a store keeps to it. -/
theorem kept_run (hsound : Sound store) (hkept : ∀ e ∈ store.entries, e.state.Kept) {told : List (Nat × Update)}
    (hspoken : ∀ u ∈ told.map Prod.snd, u.Spoken) : ∀ e ∈ (store.run told).entries, e.state.Kept := by
  induction told generalizing store with
  | nil => exact hkept
  | cons first rest ih =>
      obtain ⟨hfirst, hrest⟩ := List.forall_mem_cons.mp hspoken
      refine ih (sound_moves hsound (moves_dispatch first.1 first.2 store)) ?_ hrest
      exact states_dispatch Component.kept_build
        (fun c sighting hc => Component.kept_meet hc (show (Incident.seen sighting).Heard from trivial)) hsound
        (fun c hc => Component.kept_update hc hfirst _ _) hkept

end Store
end RailLayout
