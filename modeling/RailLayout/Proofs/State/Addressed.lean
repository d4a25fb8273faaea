import RailLayout.Proofs.State.Resynthesis
import RailLayout.Store.Dispatch

/-!
Where the updates of a script go. What brings back a component that is no engine and no train is for this component, it
halts nothing, and it reports no engine that passed (`Component.addressed_script`). A component that was just built has
an empty script (`Component.script_of_build`).
-/

namespace RailLayout

/-- Whether an update is for the component of a kind with an address and about no other one, unless it is a broadcast:
it is no halt, and it reports no engine. -/
structure Update.Addressed (scope : Scope) (n : UInt16) (u : Update) : Prop where
  target : u.target? = some (scope, n)
  halt : u.isHalt = false
  sighting : u.sighting? = none

variable {n : UInt16}

theorem Profile.addressed_recordUpdates {p : Profile} (hbound : p.address = some n) (kind : FixtureKind)
    (steps : List RouteStep) : ∀ u ∈ p.recordUpdates kind steps, u.resent.Addressed kind.scope n := by
  intro u hu
  rcases recordUpdates_cases p kind steps with ⟨recordNo, hno, hsent⟩ | ⟨hnone, -⟩
  · rw [hsent, List.mem_singleton] at hu
    rw [hu, resent_recordUpdate]
    exact ⟨target?_recordAgain hno kind steps hbound, rfl, rfl⟩
  · rw [hnone] at hu
    exact absurd hu List.not_mem_nil

theorem SwitchState.addressed_script {s : SwitchState} (hbound : s.profile.address = some n) :
    ∀ u ∈ s.script, u.resent.Addressed .switch n := by
  intro u hu
  rw [script_of_bound hbound] at hu
  rcases List.mem_append.mp hu with hrecord | hcommand
  · exact Profile.addressed_recordUpdates hbound .switch [] u hrecord
  · obtain ⟨through, -, rfl⟩ := Option.map_eq_some_iff.mp (Option.mem_toList.mp hcommand)
    exact ⟨rfl, rfl, rfl⟩

theorem RouteState.addressed_script {s : RouteState} (hbound : s.profile.address = some n) :
    ∀ u ∈ s.script, u.resent.Addressed .route n := by
  intro u hu
  unfold script at hu
  split at hu
  · rename_i recordNo hno
    split at hu
    · rw [List.mem_singleton.mp hu, Profile.resent_recordUpdate]
      exact ⟨Profile.target?_recordAgain hno .route s.steps hbound, rfl, rfl⟩
    · exact absurd hu List.not_mem_nil
  · exact absurd hu List.not_mem_nil

namespace AccessoryState

theorem addressed_kindUpdates (s : AccessoryState) (recordNo : UInt8) :
    ∀ u ∈ s.kindUpdates recordNo.toUInt16 recordNo, u.resent.Addressed .accessory recordNo.toUInt16 := by
  intro u hu
  unfold kindUpdates at hu
  split at hu
  · obtain ⟨op, -, rfl⟩ := List.mem_map.mp hu
    exact ⟨rfl, rfl, rfl⟩
  · split at hu
    · rw [List.mem_singleton.mp hu]
      exact ⟨rfl, rfl, rfl⟩
    · exact absurd hu List.not_mem_nil
  · split at hu
    · rw [List.mem_singleton.mp hu]
      exact ⟨rfl, rfl, rfl⟩
    · exact absurd hu List.not_mem_nil
  · obtain ⟨config, -, rfl⟩ := Option.map_eq_some_iff.mp (Option.mem_toList.mp hu)
    exact ⟨rfl, rfl, rfl⟩
  · rw [List.mem_singleton.mp hu]
    exact ⟨rfl, rfl, rfl⟩

theorem addressed_script {s : AccessoryState} (hbound : s.profile.address = some n) :
    ∀ u ∈ s.script, u.resent.Addressed .accessory n := by
  intro u hu
  cases hno : s.profile.recordNo? with
  | none =>
      rw [script, hbound, hno] at hu
      exact absurd hu List.not_mem_nil
  | some recordNo =>
      rw [script_of_recordNo? hno] at hu
      rcases List.mem_append.mp hu with hrecord | hkind
      · exact Profile.addressed_recordUpdates hbound .accessory [] u hrecord
      · obtain rfl : recordNo.toUInt16 = n := Option.some.inj ((Profile.address_of_recordNo? hno).symm.trans hbound)
        exact addressed_kindUpdates s recordNo u hkind

end AccessoryState

theorem SensorTrackState.addressed_script {s : SensorTrackState} (hbound : s.profile.address = some n) :
    ∀ u ∈ s.script, u.resent.Addressed .sensorTrack n := by
  intro u hu
  rcases script_cases s with ⟨recordNo, sequence, hno, hsequence⟩ | hscript
  · obtain rfl : recordNo.toUInt16 = n := Option.some.inj ((Profile.address_of_recordNo? hno).symm.trans hbound)
    rw [script_of_known hno hsequence, List.mem_singleton] at hu
    rw [hu]
    exact ⟨rfl, rfl, rfl⟩
  · rw [hscript] at hu
    exact absurd hu List.not_mem_nil

theorem BlockState.addressed_script {s : BlockState} (hbound : s.profile.address = some n) :
    ∀ u ∈ s.script, u.resent.Addressed .block n := by
  intro u hu
  rcases script_cases s with ⟨recordNo, flags, hno, hflags⟩ | hscript
  · obtain rfl : recordNo.toUInt16 = n := Option.some.inj ((Profile.address_of_recordNo? hno).symm.trans hbound)
    rw [script_of_known hno hflags, List.mem_singleton] at hu
    rw [hu]
    exact ⟨rfl, rfl, rfl⟩
  · rw [hscript] at hu
    exact absurd hu List.not_mem_nil

namespace BaseState

theorem addressed_figureUpdates (s : BaseState) (database : MotiveKind) :
    ∀ u ∈ s.figureUpdates database, u.resent.Addressed .base 0 := by
  intro u hu
  rcases List.mem_append.mp hu with hcount | hfirst
  · obtain ⟨n, -, rfl⟩ := Option.map_eq_some_iff.mp (Option.mem_toList.mp hcount)
    exact ⟨rfl, rfl, rfl⟩
  · obtain ⟨n, -, rfl⟩ := Option.map_eq_some_iff.mp (Option.mem_toList.mp hfirst)
    exact ⟨rfl, rfl, rfl⟩

theorem addressed_script (s : BaseState) : ∀ u ∈ s.script, u.resent.Addressed .base 0 := by
  intro u hu
  rw [script_eq] at hu
  rcases List.mem_append.mp hu with hu | htrains
  · rcases List.mem_append.mp hu with hinfo | hengines
    · unfold infoUpdates at hinfo
      split at hinfo
      · rw [List.mem_singleton.mp hinfo]
        exact ⟨rfl, rfl, rfl⟩
      · exact absurd hinfo List.not_mem_nil
    · exact addressed_figureUpdates s .engine u hengines
  · exact addressed_figureUpdates s .train u htrains

end BaseState

namespace Component

variable {c : Component}

/-- Every update that brings back a component is for this component, as it is read again. -/
theorem addressed_script (hmotive : c.scope.isMotive = false) (hbound : c.profile.address = some n)
    (hadmits : c.scope.admits n = true) : ∀ u ∈ c.script, u.resent.Addressed c.scope n := by
  cases c with
  | motive s => cases hkind : s.kind <;> rw [scope, hkind] at hmotive <;> cases hmotive
  | switch s => exact SwitchState.addressed_script hbound
  | route s => exact RouteState.addressed_script hbound
  | accessory s => exact AccessoryState.addressed_script hbound
  | sensorTrack s => exact SensorTrackState.addressed_script hbound
  | block s => exact BlockState.addressed_script hbound
  | base s =>
      have hrange := of_decide_eq_true hadmits
      obtain rfl : n = 0 := UInt16.le_antisymm hrange.2 hrange.1
      exact BaseState.addressed_script s
  | sync s => exact fun u hu => absurd hu List.not_mem_nil

/-- Nothing brings back a component that was just built. -/
theorem script_of_build {scope : Scope} (hmotive : scope.isMotive = false) (h : build scope (some n) = .ok c) :
    c.script = [] := by
  cases eq_fresh_of_build h
  by_cases hfree : (fresh scope none).profile.address = none
  · have hbare : Bare (fresh scope none) := bare_of_build (build_eq_fresh nofun) hfree
    have hother : ∀ s, fresh scope none ≠ motive s := by
      intro s hs
      cases scope <;> cases hs <;> cases hmotive
    have hsame : fresh scope (some n) = (fresh scope none).withProfile
        { (fresh scope none).profile with address := some n, last := none } := by
      cases scope <;> first | rfl | cases hfree
    rw [hsame]
    exact script_of_bare hbare hfree (fun s hs => absurd hs (hother s)) none
  · -- Only the Base and the synchronization status have an address from the start.
    cases scope <;> first | rfl | exact absurd rfl hfree

end Component
end RailLayout
