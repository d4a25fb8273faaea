import RailLayout.Proofs.State.Feed

/-!
Switches and routes that are rebuilt from what brings a fresh state to them. A switch comes back with its name, its
number and its position, a route with its name, its number and its steps; so what brings a fresh state to the one that
was rebuilt is the same again (`SwitchState.takes_script`, `RouteState.takes_script`).
-/

namespace RailLayout

variable {rules : Rules} {now : Nat} {u : Update}

theorem contents_of_liveRecord? {m : RecordMessage} {r : FixtureRecord} (h : liveRecord? m = some r) :
    ∃ kind valid, m.contents = .fixture kind valid r := by
  unfold liveRecord? at h
  split at h
  · cases h
  · split at h
    · rename_i valid record hcontents
      cases h
      exact ⟨_, _, hcontents⟩
    · rename_i valid record hcontents
      cases h
      exact ⟨_, _, hcontents⟩
    · cases h

theorem spoken_of_liveRecord? {m : RecordMessage} (hm : m.contents.Spoken) {r : FixtureRecord}
    (h : liveRecord? m = some r) :
    TextField.Readable (r.name.getD "") ∧ TextField.Readable (r.number.getD "") ∧ FixtureRecord.StepsKept r.route := by
  obtain ⟨kind, valid, hcontents⟩ := contents_of_liveRecord? h
  rw [hcontents] at hm
  exact hm

namespace SwitchState

variable {s : SwitchState}

theorem named_apply (h : s.profile.Named) (hu : u.Spoken) (now : Nat) : (apply now u s).1.profile.Named := by
  have hposition : ∀ position, (applyPosition now u position s).1.profile.Named := by
    intro position
    cases position with
    | none => exact h
    | some through => exact { h with }
  unfold apply
  split
  · exact hposition _
  · rename_i m
    unfold applyRecord
    split
    · rename_i r hlive
      obtain ⟨hname, hnumber, -⟩ := spoken_of_liveRecord? hu hlive
      exact { Profile.named_bindNames h hname hnumber with }
    · exact h
  · exact hposition _

theorem named_update (h : s.profile.Named) (hu : u.Spoken) (now : Nat) : (s.update now u).state.profile.Named := by
  cases haccept : s.profile.accept .switch u with
  | error e =>
      rw [update, haccept]
      exact h
  | ok q =>
      rw [update_of_accept haccept]
      exact named_apply (s := { s with profile := q }) (Profile.named_of_accept h haccept) hu now

theorem update_bound {address : UInt16} (hbound : s.profile.address = some address)
    (htarget : u.target? = some (.switch, address)) (rules : Rules) (now : Nat) :
    (Component.switch s).update rules now u = ⟨.switch (apply now u s).1, .ok (apply now u s).2⟩ := by
  rw [Component.update, update_of_accept (Profile.accept_bound hbound htarget)]
  rfl

/-- The command that throws a switch. -/
def throwing (address : UInt16) (through : Bool) : Update :=
  .command ⟨.switch (if through then .through else .out), address, none, .switch⟩

theorem script_of_bound {address : UInt16} (hbound : s.profile.address = some address) :
    s.script = s.profile.recordUpdates .switch [] ++ (s.through.map (throwing address)).toList := by
  rw [script, hbound]
  rfl

theorem update_throwing {address : UInt16} {through : Bool}
    (h : s.profile.accept .switch (throwing address through) = .ok s.profile) (rules : Rules) (now : Nat) :
    (Component.switch s).update rules now (throwing address through) =
      ⟨.switch { s with through := some through, profile := s.profile.record (throwing address through) now },
        .ok true⟩ := by
  have hcommanded :
      commanded? ⟨.switch (if through then .through else .out), address, none, .switch⟩ = some through := by
    cases through <;> rfl
  rw [Component.update, update_of_accept h, throwing, apply, hcommanded]
  rfl

theorem update_record (s : SwitchState) {recordNo : UInt8} (hno : s.profile.recordNo? = some recordNo) (rules : Rules)
    (now : Nat) :
    (Component.switch (.fresh (.fresh s.profile.address))).update rules now
        (s.profile.recordUpdate .switch recordNo []).resent =
      ⟨.switch ⟨s.profile.rebuilt .switch recordNo [] now, none⟩, .ok true⟩ := by
  have hbound := Profile.address_of_recordNo? hno
  rw [Profile.resent_recordUpdate, update_bound (s := .fresh (.fresh s.profile.address)) hbound
    (Profile.target?_recordAgain hno .switch [] hbound), apply, applyRecord,
    Profile.liveRecord?_recordAgain (by decide)]
  rfl

theorem sendable_script (s : SwitchState) : ∀ u ∈ s.script, u.Sendable := by
  intro u hu
  cases hbound : s.profile.address with
  | none =>
      rw [script, hbound] at hu
      exact absurd hu List.not_mem_nil
  | some address =>
      rw [script_of_bound hbound] at hu
      rcases List.mem_append.mp hu with hrecord | hcommand
      · exact Profile.sendable_recordUpdates s.profile .switch [] u hrecord
      · obtain ⟨through, -, rfl⟩ := Option.map_eq_some_iff.mp (Option.mem_toList.mp hcommand)
        trivial

/-- What is sent for a switch is taken if its position is taken, after the record of its names if this is sent. -/
theorem takes_names {P : Component → Prop} {address : UInt16} (hbound : s.profile.address = some address)
    (hnamed : ∀ recordNo now, Component.Takes rules P ((s.through.map (throwing address)).toList.map Update.resent)
      (.switch (fresh (s.profile.rebuilt .switch recordNo [] now))))
    (hnameless : s.profile.recordUpdates .switch [] = (Profile.fresh s.profile.address).recordUpdates .switch [] →
      Component.Takes rules P ((s.through.map (throwing address)).toList.map Update.resent)
        (.switch (fresh (.fresh s.profile.address)))) :
    Component.Takes rules P (s.script.map Update.resent) (.switch (fresh (.fresh s.profile.address))) := by
  rw [script_of_bound hbound, List.map_append]
  rcases Profile.recordUpdates_cases s.profile .switch [] with ⟨recordNo, hno, hsent⟩ | ⟨hnone, hfresh⟩
  · rw [hsent]
    exact fun now => ⟨_, _, update_record s hno rules now, hnamed recordNo now⟩
  · rw [hnone]
    exact hnameless (hnone.trans hfresh.symm)

/-- A fresh switch with the same names takes the position of another one, and the same is sent for it afterwards. -/
theorem takes_position {address : UInt16} (hbound : s.profile.address = some address) {q : Profile}
    (haddress : q.address = s.profile.address)
    (hrecord : q.recordUpdates .switch [] = s.profile.recordUpdates .switch []) :
    Component.Takes rules (fun d => d.script = s.script) ((s.through.map (throwing address)).toList.map Update.resent)
      (.switch (fresh q)) := by
  rw [script_of_bound hbound]
  rw [hbound] at haddress
  cases hposition : s.through with
  | none =>
      show (fresh q).script = _
      rw [script_of_bound (s := fresh q) haddress, ← hrecord]
      rfl
  | some through =>
      intro now
      refine ⟨_, _, update_throwing (s := fresh q) (Profile.accept_bound haddress rfl) rules now, ?_⟩
      show SwitchState.script _ = _
      rw [script_of_bound (s := ⟨(fresh q).profile.record (throwing address through) now, some through⟩) haddress, ← hrecord]
      rfl

/-- A fresh switch refuses nothing that is sent for another one, and the same is sent for it afterwards. -/
theorem takes_script (hnamed : s.profile.Named) (hfits : s.profile.NamesFit) :
    Component.Takes rules (fun d => d.script = s.script) (s.script.map Update.resent)
      (.switch (.fresh (.fresh s.profile.address))) := by
  cases hbound : s.profile.address with
  | none =>
      have hscript : s.script = [] := by rw [script, hbound]
      rw [hscript]
      rfl
  | some address =>
      rw [← hbound]
      refine takes_names hbound (fun recordNo now => ?_) fun hsame => takes_position hbound rfl hsame.symm
      have hagrees := Profile.agrees_rebuilt hnamed hfits .switch recordNo [] now
      exact takes_position hbound hagrees.address (Profile.recordUpdates_congr hagrees .switch [])

end SwitchState

namespace RouteState

variable {s : RouteState}

/-- What a route keeps to that heard nothing but commands and messages from frames. -/
structure Kept (s : RouteState) : Prop where
  named : s.profile.Named
  steps : FixtureRecord.StepsKept s.steps

theorem kept_apply (h : Kept s) (hu : u.Spoken) (now : Nat) : Kept (apply now u s).1 := by
  unfold apply
  split
  · split
    · exact { h with named := { h.named with } }
    · exact h
  · rename_i m
    split
    · rename_i r hlive
      obtain ⟨hname, hnumber, hsteps⟩ := spoken_of_liveRecord? hu hlive
      exact ⟨{ Profile.named_bindNames h.named hname hnumber with }, hsteps⟩
    · exact h
  · exact h

theorem kept_update (h : Kept s) (hu : u.Spoken) (now : Nat) : Kept (s.update now u).state := by
  cases haccept : s.profile.accept .route u with
  | error e =>
      rw [update, haccept]
      exact h
  | ok q =>
      rw [update_of_accept haccept]
      exact kept_apply (s := { s with profile := q }) { h with named := Profile.named_of_accept h.named haccept } hu now

theorem update_bound {address : UInt16} (hbound : s.profile.address = some address)
    (htarget : u.target? = some (.route, address)) (rules : Rules) (now : Nat) :
    (Component.route s).update rules now u = ⟨.route (apply now u s).1, .ok (apply now u s).2⟩ := by
  rw [Component.update, update_of_accept (Profile.accept_bound hbound htarget)]
  rfl

theorem update_record (h : Kept s) {recordNo : UInt8} (hno : s.profile.recordNo? = some recordNo) (rules : Rules)
    (now : Nat) :
    (Component.route (.fresh (.fresh s.profile.address))).update rules now
        (s.profile.recordUpdate .route recordNo s.steps).resent =
      ⟨.route ⟨s.profile.rebuilt .route recordNo s.steps now, s.steps⟩, .ok true⟩ := by
  have hbound := Profile.address_of_recordNo? hno
  have hsteps := FixtureRecord.route_resent
    (r := ⟨none, none, s.profile.roadName, s.profile.roadNumber, s.steps⟩) rfl h.steps
  rw [Profile.resent_recordUpdate, update_bound (s := .fresh (.fresh s.profile.address)) hbound
    (Profile.target?_recordAgain hno .route s.steps hbound), apply, Profile.liveRecord?_recordAgain (by decide)]
  dsimp only
  rw [hsteps]
  rfl

theorem isKnown_congr {t : RouteState} (h : t.profile.Agrees s.profile) (hsteps : t.steps = s.steps) :
    t.isKnown = s.isKnown := by
  rw [isKnown, isKnown, hsteps, Profile.hasNames_congr h]

theorem script_congr {t : RouteState} (h : t.profile.Agrees s.profile) (hsteps : t.steps = s.steps) :
    t.script = s.script := by
  simp only [script, isKnown_congr h hsteps, Profile.recordNo?_congr h.address, Profile.recordUpdate_congr h, hsteps]

theorem sendable_script (s : RouteState) : ∀ u ∈ s.script, u.Sendable := by
  intro u hu
  unfold script at hu
  split at hu
  · split at hu
    · rw [List.mem_singleton.mp hu]
      exact Update.sendable_record _
    · exact absurd hu List.not_mem_nil
  · exact absurd hu List.not_mem_nil

/-- A fresh route refuses nothing that is sent for another one, and the same is sent for it afterwards. -/
theorem takes_script (h : Kept s) (hfits : s.profile.NamesFit) :
    Component.Takes rules (fun d => d.script = s.script) (s.script.map Update.resent)
      (.route (.fresh (.fresh s.profile.address))) := by
  cases hno : s.profile.recordNo? with
  | none =>
      have hscript : ∀ t : RouteState, t.profile.recordNo? = none → t.script = [] := by
        intro t ht
        rw [script, ht]
      rw [hscript s hno]
      exact hscript _ hno
  | some recordNo =>
      have hscript : ∀ t : RouteState, t.profile.recordNo? = some recordNo →
          t.script = if t.isKnown then [t.profile.recordUpdate .route recordNo t.steps] else [] := by
        intro t ht
        rw [script, ht]
      by_cases hknown : s.isKnown = true
      · rw [hscript s hno, if_pos hknown]
        intro now
        refine ⟨_, _, update_record h hno rules now, ?_⟩
        have hagrees := Profile.agrees_rebuilt h.named hfits .route recordNo s.steps now
        show script _ = _
        rw [script_congr (t := ⟨s.profile.rebuilt .route recordNo s.steps now, s.steps⟩) hagrees rfl, hscript s hno,
          if_pos hknown]
      · rw [hscript s hno, if_neg hknown]
        exact hscript _ hno

end RouteState
end RailLayout
