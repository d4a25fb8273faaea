import RailLayout.Proofs.State.Known
import RailLayout.Proofs.State.Resynthesis

/-!
What was sent for a component is remembered. The first update of a script says something to a fresh component of the
kind, whatever the component that it was sent for, and a component that has a last update has one ever after; so a
component that was fed anything knows a last update (`Component.last_feed_script`).
-/

namespace RailLayout

/-! ## The first update, kind by kind -/

theorem SwitchState.last_apply {s : SwitchState} {u : Update} (hu : u ∈ s.script) (now : Nat) (t : SwitchState) :
    (apply now u.resent t).1.profile.last.isSome = true := by
  unfold script at hu
  split at hu
  · cases hu
  · rcases List.mem_append.mp hu with hu | hu
    · unfold Profile.recordUpdates at hu
      split at hu
      · split at hu
        · rw [List.mem_singleton.mp hu]
          rfl
        · cases hu
      · cases hu
    · obtain ⟨through, -, rfl⟩ := Option.map_eq_some_iff.mp (Option.mem_toList.mp hu)
      cases through <;> rfl

theorem RouteState.last_apply {s : RouteState} {u : Update} (hu : u ∈ s.script) (now : Nat) (t : RouteState) :
    (apply now u.resent t).1.profile.last.isSome = true := by
  unfold script at hu
  split at hu
  · split at hu
    · rw [List.mem_singleton.mp hu]
      rfl
    · cases hu
  · cases hu

theorem SensorTrackState.last_apply {s : SensorTrackState} {u : Update} (hu : u ∈ s.script) (now : Nat)
    (t : SensorTrackState) : (apply now u.resent t).1.profile.last.isSome = true := by
  unfold script at hu
  split at hu
  · rw [List.mem_singleton.mp hu]
    rfl
  · cases hu

theorem BlockState.last_apply {s : BlockState} {u : Update} (hu : u ∈ s.script) (now : Nat) (t : BlockState) :
    (apply now u.resent t).1.profile.last.isSome = true := by
  unfold script at hu
  split at hu
  · rw [List.mem_singleton.mp hu]
    rfl
  · cases hu

theorem BaseState.last_apply {s : BaseState} {u : Update} (hu : u ∈ s.script) (now : Nat) (t : BaseState) :
    (apply now u.resent t).1.profile.last.isSome = true := by
  have hfigures : ∀ database, u ∈ s.figureUpdates database → (apply now u.resent t).1.profile.last.isSome = true := by
    intro database hu
    rcases List.mem_append.mp hu with hu | hu
    · obtain ⟨n, -, rfl⟩ := Option.map_eq_some_iff.mp (Option.mem_toList.mp hu)
      cases database <;> rfl
    · obtain ⟨n, -, rfl⟩ := Option.map_eq_some_iff.mp (Option.mem_toList.mp hu)
      cases database <;> rfl
  unfold script at hu
  rcases List.mem_append.mp hu with hu | hu
  · rcases List.mem_append.mp hu with hu | hu
    · split at hu
      · rw [List.mem_singleton.mp hu]
        rfl
      · cases hu
    · exact hfigures _ hu
  · exact hfigures _ hu

namespace AccessoryState

variable {s : AccessoryState} {rules : Rules} {now : Nat} {p q : Profile}

/-- What drives an accessory speaks to one that nothing drives yet. -/
theorem last_kindUpdates (hkept : Kept s) {u : Update} {address : UInt16} {recordNo : UInt8}
    (hu : u ∈ s.kindUpdates address recordNo) (h : p.accept .accessory u.resent = .ok q) :
    ((fresh p).update rules now u.resent).state.profile.last.isSome = true := by
  cases hkind : s.kind with
  | plain =>
      rw [kindUpdates_plain _ _ hkind] at hu
      obtain ⟨op, -, rfl⟩ := List.mem_map.mp hu
      have htold := profile_applyOperation rules now ⟨.accessory op, address, none, .accessory⟩ op (fresh q)
      rw [show (commanding address op).resent = .command ⟨.accessory op, address, none, .accessory⟩ from rfl] at h ⊢
      rw [update_command h]
      exact congrArg (·.last.isSome) htold
  | relay =>
      rw [kindUpdates_relay _ _ hkind] at hu
      split at hu
      · rw [List.mem_singleton.mp hu] at h ⊢
        rw [Update.resent, update_message h]
        cases s.isAux1On <;> rfl
      · cases hu
  | powerDistrict =>
      rw [kindUpdates_powerDistrict _ _ hkind] at hu
      split at hu
      · rw [List.mem_singleton.mp hu] at h ⊢
        rw [Update.resent, update_message h]
        rcases getD_districtAction hkept with haction | haction <;> rw [haction] <;> cases s.isAux1On <;> rfl
      · cases hu
  | motorLamp =>
      rw [kindUpdates_motorLamp _ _ hkind] at hu
      obtain ⟨config, -, rfl⟩ := Option.map_eq_some_iff.mp (Option.mem_toList.mp hu)
      rw [Update.resent, update_message h]
      rfl
  | sensorTrack =>
      rw [kindUpdates_sensorTrack _ _ hkind] at hu
      rw [List.mem_singleton.mp hu] at h ⊢
      rw [Update.resent, update_message h]
      rfl

theorem last_update (hkept : Kept s) {u : Update} (hu : u ∈ s.script) (h : p.accept .accessory u.resent = .ok q) :
    ((fresh p).update rules now u.resent).state.profile.last.isSome = true := by
  unfold script at hu
  split at hu
  · rcases List.mem_append.mp hu with hrecord | hkind
    · rcases Profile.recordUpdates_cases s.profile .accessory [] with ⟨recordNo, -, hsent⟩ | ⟨hnone, -⟩
      · rw [hsent] at hrecord
        rw [List.mem_singleton.mp hrecord] at h ⊢
        rw [Profile.recordUpdate, Update.resent, update_message h]
        rfl
      · rw [hnone] at hrecord
        cases hrecord
    · exact last_kindUpdates hkept hkind h
  · cases hu

end AccessoryState

/-! ## Every kind -/

namespace Component

variable {c d : Component} {rules : Rules} {now : Nat} {u : Update}

/-- A component that has a last update has one ever after. -/
theorem last_of_last (h : c.profile.last.isSome = true) : (c.update rules now u).state.profile.last.isSome = true := by
  cases haccept : c.profile.accept c.scope u with
  | error e =>
      rw [update_of_refused haccept]
      exact h
  | ok q =>
      have hlast : q.last = c.profile.last := by rw [Profile.accept_eq haccept]
      rcases (took_of_accepted haccept).told.last with hsame | hnew
      · rw [hsame, hlast]
        exact h
      · rw [hnew]
        rfl

/-- A fresh component takes an update that is sent for one of its kind as its last. -/
theorem last_update_fresh (hkept : Kept c) (hmotive : c.scope.isMotive = false) (hu : u ∈ c.script)
    {address : Option UInt16} {changed : Bool} (h : (fresh c.scope address).update rules now u.resent = ⟨d, .ok changed⟩) :
    d.profile.last.isSome = true := by
  cases haccept : (fresh c.scope address).profile.accept c.scope u.resent with
  | error e =>
      rw [update_of_refused ((congrArg (Profile.accept · _ _) (scope_fresh c.scope address)).trans haccept)] at h
      cases h
  | ok q =>
      have hstate := congrArg Outcome.state h
      subst hstate
      cases c with
      | motive s => cases hkind : s.kind <;> rw [scope, hkind] at hmotive <;> cases hmotive
      | switch s =>
          rw [scope, fresh, update, SwitchState.update_of_accept haccept]
          exact SwitchState.last_apply hu now _
      | route s =>
          rw [scope, fresh, update, RouteState.update_of_accept haccept]
          exact RouteState.last_apply hu now _
      | accessory s => exact AccessoryState.last_update hkept hu haccept
      | sensorTrack s =>
          rw [scope, fresh, update, SensorTrackState.update_of_accept haccept]
          exact SensorTrackState.last_apply hu now _
      | block s =>
          rw [scope, fresh, update, BlockState.update_of_accept haccept]
          exact BlockState.last_apply hu now _
      | base s =>
          rw [scope, fresh, update, BaseState.update_of_accept haccept]
          exact BaseState.last_apply hu now _
      | sync s => cases hu

theorem last_feed {timed : List (Nat × Update)} (h : c.profile.last.isSome = true) (hfed : feed rules timed c = .ok d) :
    d.profile.last.isSome = true := by
  induction timed generalizing c with
  | nil =>
      cases hfed
      exact h
  | cons first rest ih =>
      obtain ⟨now, u⟩ := first
      rw [feed] at hfed
      split at hfed
      · cases hfed
      · rename_i e changed hupdate
        refine ih ?_ hfed
        have hkept : (c.update rules now u).state.profile.last.isSome = true := last_of_last h
        rw [hupdate] at hkept
        exact hkept

/-- A fresh component that took what is sent for one of its kind, if anything is, knows a last update. -/
theorem last_feed_script (hkept : Kept c) (hmotive : c.scope.isMotive = false) (hscript : c.script ≠ [])
    {address : Option UInt16} {timed : List (Nat × Update)} (htimed : timed.map Prod.snd = c.script.map Update.resent)
    (hfed : feed rules timed (fresh c.scope address) = .ok d) : d.profile.last.isSome = true := by
  cases timed with
  | nil => exact absurd (List.map_eq_nil_iff.mp htimed.symm) hscript
  | cons first rest =>
      obtain ⟨now, v⟩ := first
      obtain ⟨u, us, hsent, rfl, -⟩ := List.map_eq_cons_iff.mp htimed.symm
      rw [feed] at hfed
      split at hfed
      · cases hfed
      · rename_i e changed hupdate
        exact last_feed (last_update_fresh hkept hmotive (hsent ▸ List.mem_cons_self) hupdate) hfed

theorem knows_lastUpdate (c : Component) : c.knows .lastUpdate = c.profile.last.isSome := by
  cases c <;> rfl

end Component
end RailLayout
