import RailLayout.Proofs.State.Run

/-!
Components at rest. A halt brings an engine, a train or an accessory to rest (`Component.atRest_update_halt`) and leaves
a component of any other kind as it is. An engine or a train drops a halt that repeats the last one, but it is still at
rest then: nothing that a component goes through moves an engine or a train whose last command was a halt without
putting something else in its place (`Component.rested_update`).
-/

namespace RailLayout

namespace MotiveState

variable {s t : MotiveState}

/-- Whether an engine or a train is in the state that a halt brings it to. -/
structure AtRest (s : MotiveState) : Prop where
  speed : s.speed = some 0
  rpm : s.rpm = some 0
  labor : s.labor = some 12
  numeric : s.numeric = none
  aux1 : s.aux1 = some .aux1Off
  aux2 : s.aux2 = some .aux2Off
  aux : s.aux = some .aux2OptionOne

/-- Whether an engine or a train is at rest if the last thing it was told is a halt. -/
def Rested (s : MotiveState) : Prop :=
  ∀ c time, s.profile.last = some (.command c, time) → (Update.command c).isHalt = true → s.AtRest

theorem atRest_halt (s : MotiveState) : AtRest s.halt := ⟨rfl, rfl, rfl, rfl, rfl, rfl, rfl⟩

theorem atRest_latchGeneration (h : AtRest s) (c : Command) : AtRest (s.latchGeneration c) := by
  unfold latchGeneration
  split
  · exact { h with }
  · exact h

theorem rested_latchGeneration (h : Rested s) (c : Command) : Rested (s.latchGeneration c) := by
  intro other time hlast hhalt
  rw [show (s.latchGeneration c).profile = s.profile from congrArg Prod.snd (identity_latchGeneration s c)] at hlast
  exact atRest_latchGeneration (h other time hlast hhalt) c

theorem rested_of_last (h : Rested s) {p : Profile} (hlast : p.last = s.profile.last) :
    Rested { s with profile := p } := by
  intro c time hc hhalt
  exact { h c time (hlast.symm.trans hc) hhalt with }

theorem rested_of_last_command {c : Command} {time : Nat} (hlast : s.profile.last = some (.command c, time))
    (hmoves : ¬(Update.command c).isHalt = true) : Rested s := by
  intro other later hother hhalt
  rw [hlast] at hother
  cases hother
  exact absurd hhalt hmoves

theorem rested_of_last_message {m : Message} {time : Nat} (hlast : s.profile.last = some (.message m, time)) :
    Rested s := by
  intro c later hc
  rw [hlast] at hc
  cases hc

theorem rested_applyCommand (h : Rested s) (rules : Rules) (now : Nat) (c : Command) :
    Rested (s.applyCommand rules now c).1 := by
  have hlatched := rested_latchGeneration h c
  unfold applyCommand
  dsimp only
  split
  · exact hlatched
  · split
    · exact fun _ _ _ _ => { (atRest_halt (s.latchGeneration c)) with }
    · rename_i hmoves
      split
      · rename_i generation op _
        have hprofile := (applyOperation_same rules now c generation op (s.latchGeneration c)).2
        exact rested_of_last_command (congrArg Profile.last hprofile) hmoves
      · exact hlatched

theorem rested_applyMessage (h : Rested s) (now : Nat) (m : Message) : Rested (s.applyMessage now m).1 := by
  rcases applyMessage_cases now m s with hchanged | hsame
  · rw [hchanged]
    exact rested_of_last_message rfl
  · rw [hsame]
    exact h

theorem rested_update (h : Rested s) (rules : Rules) (now : Nat) (u : Update) :
    Rested (s.update rules now u).state := by
  cases haccept : s.profile.accept s.kind.scope u with
  | error e =>
      rw [update, haccept]
      exact h
  | ok q =>
      have hbound : Rested { s with profile := q } := by
        refine rested_of_last h ?_
        rw [Profile.accept_eq haccept]
      cases u with
      | command c =>
          rw [update_command haccept]
          exact rested_applyCommand hbound rules now c
      | message m =>
          rw [update_message haccept]
          exact rested_applyMessage hbound now m

theorem rested_applySighting (h : Rested s) (sighting : Sighting) : Rested (s.applySighting sighting).1 := by
  have hlast := (alike_applySighting sighting s).last
  intro c time hc hhalt
  have hrest := h c time (hlast.symm.trans hc) hhalt
  unfold applySighting
  split
  · exact hrest
  · exact { hrest with }

/-- A halt brings an engine or a train to rest, even if it repeats the last one and is dropped. -/
theorem atRest_applyCommand (h : Rested s) (rules : Rules) (now : Nat) {c : Command}
    (hc : (Update.command c).isHalt = true) : AtRest (s.applyCommand rules now c).1 := by
  have hlatched := rested_latchGeneration h c
  unfold applyCommand
  dsimp only
  split
  · rename_i hrepeats
    -- The halt is dropped, but then the last thing that was told is this halt.
    obtain ⟨time, hlast, -⟩ := Profile.repeats_eq_true_iff.mp hrepeats
    exact hlatched c time hlast hc
  · exact { (atRest_halt (s.latchGeneration c)) with }

end MotiveState

namespace AccessoryState

/-- Whether an accessory is in the state that a halt brings it to. -/
structure AtRest (s : AccessoryState) : Prop where
  aux1 : s.aux1 = some .aux1Off
  aux2 : s.aux2 = some .aux2Off
  aux : s.aux = some .aux2OptOne
  number : s.number = none

theorem atRest_applyCommand (rules : Rules) (now : Nat) {c : Command} (hc : (Update.command c).isHalt = true)
    (s : AccessoryState) : AtRest (s.applyCommand rules now c).1 := by
  unfold applyCommand
  rw [if_pos hc]
  exact ⟨rfl, rfl, rfl, rfl⟩

end AccessoryState

namespace Component

variable {c : Component} {halt : Command}

/-- Whether a component is in the state that a halt brings it to; other kinds than engines, trains and accessories
have no such state. -/
def AtRest : Component → Prop
  | motive s => s.AtRest
  | accessory s => s.AtRest
  | _ => False

/-- Whether an engine or a train is at rest if the last thing it was told is a halt. -/
def Rested : Component → Prop
  | motive s => s.Rested
  | _ => True

theorem rested_of_scope (h : c.scope.isMotive = false) : Rested c := by
  cases c with
  | motive s => cases hkind : s.kind <;> rw [scope, hkind] at h <;> cases h
  | _ => trivial

theorem rested_of_build {scope : Scope} {start : Option UInt16} (h : build scope start = .ok c) : Rested c := by
  cases c with
  | motive s =>
      have hlast : s.profile.last = none := congrArg Profile.last (built_of_build h).fresh
      intro other time hother
      rw [hlast] at hother
      cases hother
  | _ => trivial

theorem rested_update (h : Rested c) (rules : Rules) (now : Nat) (u : Update) :
    Rested (c.update rules now u).state := by
  cases c with
  | motive s => exact MotiveState.rested_update h rules now u
  | _ => exact rested_of_scope (congrArg Scope.isMotive (scope_update rules now u _))

theorem rested_applySighting (h : Rested c) (sighting : Sighting) : Rested (c.applySighting sighting).1 := by
  cases c with
  | motive s =>
      unfold applySighting
      dsimp only
      split
      · exact MotiveState.rested_applySighting h sighting
      · exact h
  | _ => trivial

theorem operation_of_isHalt (h : (Update.command halt).isHalt = true) :
    halt.operation = .halt ∨ ∃ generation, halt.operation = .engine generation .systemHalt := by
  simp only [Update.isHalt, Command.isHalt, Command.isSystemHalt, Operation.isHalt, Bool.or_eq_true, beq_iff_eq] at h
  rcases h with h | h
  · exact Or.inl h
  · unfold Operation.isSystemHalt at h
    split at h
    · rename_i generation hoperation
      exact Or.inr ⟨generation, hoperation⟩
    · cases h

theorem ignores_switch (h : (Update.command halt).isHalt = true) (now : Nat) (s : SwitchState) :
    SwitchState.apply now (.command halt) s = (s, false) := by
  rcases operation_of_isHalt h with hoperation | ⟨generation, hoperation⟩ <;>
    simp only [SwitchState.apply, SwitchState.commanded?, hoperation] <;> rfl

theorem ignores_route (h : (Update.command halt).isHalt = true) (now : Nat) (s : RouteState) :
    RouteState.apply now (.command halt) s = (s, false) := by
  rcases operation_of_isHalt h with hoperation | ⟨generation, hoperation⟩ <;>
    simp [RouteState.apply, hoperation]

theorem ignores_sync (h : (Update.command halt).isHalt = true) (now : Nat) (s : SyncState) :
    SyncState.apply now (.command halt) s = (s, false) := by
  rcases operation_of_isHalt h with hoperation | ⟨generation, hoperation⟩ <;>
    simp only [SyncState.apply, hoperation]

section Halts

variable (hhalt : (Update.command halt).isHalt = true) (hbound : c.profile.address.isSome = true)
include hhalt hbound

/-- A halt for all components brings those to rest that can be. -/
theorem atRest_update_halt (hall : halt.address = broadcastAddress) (hrested : Rested c)
    (hscope : c.scope ∈ [.engine, .train, .accessory]) (rules : Rules) (now : Nat) :
    AtRest (c.update rules now (.command halt)).state := by
  have haccept : ∀ scope, scope ≠ .sync → c.profile.accept scope (.command halt) = .ok c.profile := by
    intro scope hscope
    exact Profile.accept_halt hhalt hall hbound hscope
  cases c with
  | motive s =>
      have hmotive := haccept s.kind.scope (by cases s.kind <;> decide)
      rw [update, MotiveState.update_command hmotive]
      exact MotiveState.atRest_applyCommand hrested rules now hhalt
  | accessory s =>
      rw [update, AccessoryState.update_command (haccept .accessory (by decide))]
      exact AccessoryState.atRest_applyCommand rules now hhalt s
  | _ => simp [scope] at hscope

/-- A halt does nothing to a component that cannot be brought to rest. -/
theorem update_halt_of_still (hscope : c.scope ∉ [.engine, .train, .accessory]) (rules : Rules) (now : Nat) :
    ∃ verdict, verdict ≠ .ok true ∧ c.update rules now (.command halt) = ⟨c, verdict⟩ := by
  cases haccept : c.profile.accept c.scope (.command halt) with
  | error e => exact ⟨.error e, by simp, update_of_refused haccept⟩
  | ok q =>
      obtain rfl := Profile.accept_eq_of_bound haccept hbound
      refine ⟨.ok false, by simp, ?_⟩
      cases c with
      | motive s => cases hkind : s.kind <;> simp [scope, hkind, MotiveKind.scope] at hscope
      | accessory s => simp [scope] at hscope
      | switch s =>
          rw [update, SwitchState.update_of_accept haccept]
          exact congrArg (fun r => Outcome.mk (switch r.1) (.ok r.2)) (ignores_switch hhalt now s)
      | route s =>
          rw [update, RouteState.update_of_accept haccept]
          exact congrArg (fun r => Outcome.mk (route r.1) (.ok r.2)) (ignores_route hhalt now s)
      | sync s =>
          rw [update, SyncState.update_of_accept haccept]
          exact congrArg (fun r => Outcome.mk (sync r.1) (.ok r.2)) (ignores_sync hhalt now s)
      | sensorTrack s =>
          rw [update, SensorTrackState.update_of_accept haccept]
          rfl
      | block s =>
          rw [update, BlockState.update_of_accept haccept]
          rfl
      | base s =>
          rw [update, BaseState.update_of_accept haccept]
          rfl

end Halts

end Component
end RailLayout
