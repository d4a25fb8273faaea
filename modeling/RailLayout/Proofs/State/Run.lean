import RailLayout.Proofs.State.Motive.Profile
import RailLayout.State.Component

/-!
Components that go through one thing after another: updates, each at its time and by the rules of that time, and what
sensor tracks see of them. An update that is not accepted changes nothing (`Component.update_of_refused`); one that is
accepted leaves the address that accepting it left, whatever it does to the rest, and only an accessory that another
kind of board drives refuses it after that (`Component.took_of_accepted`). What each thing keeps is kept by all of them
(`Component.run_induction`).
-/

namespace RailLayout

/-- Whether a profile has the address of another one, and its last update or a new one. -/
structure Profile.Told (u : Update) (now : Nat) (p q : Profile) : Prop where
  address : q.address = p.address
  last : q.last = p.last ∨ q.last = some (u, now)

/-! ## Accepted updates, kind by kind -/

theorem SwitchState.update_of_accept {now : Nat} {u : Update} {s : SwitchState} {q : Profile}
    (h : s.profile.accept .switch u = .ok q) :
    s.update now u = ⟨(apply now u { s with profile := q }).1, .ok (apply now u { s with profile := q }).2⟩ := by
  rw [update, h]

theorem SwitchState.told_apply (now : Nat) (u : Update) (s : SwitchState) :
    s.profile.Told u now (apply now u s).1.profile := by
  unfold apply applyPosition applyRecord
  repeat' split
  all_goals first | exact ⟨rfl, Or.inl rfl⟩ | exact ⟨rfl, Or.inr rfl⟩

theorem RouteState.update_of_accept {now : Nat} {u : Update} {s : RouteState} {q : Profile}
    (h : s.profile.accept .route u = .ok q) :
    s.update now u = ⟨(apply now u { s with profile := q }).1, .ok (apply now u { s with profile := q }).2⟩ := by
  rw [update, h]

theorem RouteState.told_apply (now : Nat) (u : Update) (s : RouteState) :
    s.profile.Told u now (apply now u s).1.profile := by
  unfold apply
  repeat' split
  all_goals first | exact ⟨rfl, Or.inl rfl⟩ | exact ⟨rfl, Or.inr rfl⟩

theorem SensorTrackState.update_of_accept {now : Nat} {u : Update} {s : SensorTrackState} {q : Profile}
    (h : s.profile.accept .sensorTrack u = .ok q) :
    s.update now u = ⟨(apply now u { s with profile := q }).1, .ok (apply now u { s with profile := q }).2⟩ := by
  rw [update, h]

theorem SensorTrackState.profile_applyReport? {now : Nat} {m : BoardMessage .irda} {s t : SensorTrackState}
    (h : applyReport? now m s = some t) : t.profile = s.profile := by
  unfold applyReport? at h
  split at h <;> cases h <;> rfl

theorem SensorTrackState.told_apply (now : Nat) (u : Update) (s : SensorTrackState) :
    s.profile.Told u now (apply now u s).1.profile := by
  unfold apply
  split
  · split
    · rename_i hreport
      have hsame := congrArg Profile.address (profile_applyReport? hreport)
      exact ⟨hsame, Or.inr rfl⟩
    · exact ⟨rfl, Or.inl rfl⟩
  · exact ⟨rfl, Or.inl rfl⟩

theorem BlockState.update_of_accept {now : Nat} {u : Update} {s : BlockState} {q : Profile}
    (h : s.profile.accept .block u = .ok q) :
    s.update now u = ⟨(apply now u { s with profile := q }).1, .ok (apply now u { s with profile := q }).2⟩ := by
  rw [update, h]

theorem BlockState.told_apply (now : Nat) (u : Update) (s : BlockState) :
    s.profile.Told u now (apply now u s).1.profile := by
  unfold apply
  split
  · exact ⟨rfl, Or.inr rfl⟩
  · exact ⟨rfl, Or.inl rfl⟩

namespace BaseState

theorem update_of_accept {now : Nat} {u : Update} {s : BaseState} {q : Profile}
    (h : s.profile.accept .base u = .ok q) :
    s.update now u = ⟨(apply now u { s with profile := q }).1, .ok (apply now u { s with profile := q }).2⟩ := by
  rw [update, h]

theorem address_setFigures (s : BaseState) (database : MotiveKind) (figures : DatabaseFigures) :
    (s.setFigures database figures).profile.address = s.profile.address := by
  cases database <;> rfl

/-- A message that says something is the Base's own record, or it sets the figures of a database. -/
theorem applyMessage?_cases {m : Message} {s t : BaseState} (h : applyMessage? m s = some t) :
    (∃ r valid info, m = .record r ∧ r.contents = .base valid info ∧ t = applyInfo info s) ∨
      ∃ database figures, t = s.setFigures database figures := by
  cases m with
  | record r =>
      obtain ⟨recordNo, flags, status, spare, contents⟩ := r
      cases contents with
      | base valid info =>
          have hinfo : (if status = 0 then some (applyInfo info s) else none) = some t := h
          split at hinfo
          · exact Or.inl ⟨_, valid, info, rfl, rfl, (Option.some.inj hinfo).symm⟩
          · cases hinfo
      | none | motive | fixture => cases h
  | fourDigit q =>
      obtain ⟨code, recordNo, lookup⟩ := q
      cases lookup with
      | count postAction count =>
          cases count with
          | none => cases h
          | some n => exact Or.inr ⟨_, _, (Option.some.inj h).symm⟩
      | firstRecord => exact Or.inr ⟨_, _, (Option.some.inj h).symm⟩
      | query | nextRecord | map => cases h
  | _ => cases h

theorem address_applyMessage? {m : Message} {s t : BaseState} (h : applyMessage? m s = some t) :
    t.profile.address = s.profile.address := by
  rcases applyMessage?_cases h with ⟨r, valid, info, -, -, rfl⟩ | ⟨database, figures, rfl⟩
  · rfl
  · exact address_setFigures s database figures

theorem told_apply (now : Nat) (u : Update) (s : BaseState) : s.profile.Told u now (apply now u s).1.profile := by
  unfold apply
  split
  · exact ⟨rfl, Or.inl rfl⟩
  · split
    · rename_i hmessage
      have hsame := address_applyMessage? hmessage
      exact ⟨hsame, Or.inr rfl⟩
    · exact ⟨rfl, Or.inl rfl⟩

end BaseState

theorem SyncState.update_of_accept {now : Nat} {u : Update} {s : SyncState} {q : Profile}
    (h : s.profile.accept .sync u = .ok q) :
    s.update now u = ⟨(apply now u { s with profile := q }).1, .ok (apply now u { s with profile := q }).2⟩ := by
  rw [update, h]

theorem SyncState.told_apply (now : Nat) (u : Update) (s : SyncState) :
    s.profile.Told u now (apply now u s).1.profile := by
  unfold apply
  repeat' split
  all_goals first | exact ⟨rfl, Or.inl rfl⟩ | exact ⟨rfl, Or.inr rfl⟩

namespace AccessoryState

/-- Whether two states have the same profile and are driven alike. -/
structure Alike (s t : AccessoryState) : Prop where
  profile : t.profile = s.profile
  kind : t.kind = s.kind
  claimed : t.claimed = s.claimed
  districtAction : t.districtAction = s.districtAction

theorem alike_trans {r s t : AccessoryState} (h : Alike r s) (h' : Alike s t) : Alike r t where
  profile := h'.profile.trans h.profile
  kind := h'.kind.trans h.kind
  claimed := h'.claimed.trans h.claimed
  districtAction := h'.districtAction.trans h.districtAction

theorem alike_applyPress (window now : Nat) (op : AccessoryOp) (s : AccessoryState) :
    Alike s (s.applyPress window now op) := by
  unfold applyPress
  repeat' split
  all_goals exact ⟨rfl, rfl, rfl, rfl⟩

theorem alike_applyOutput (s : AccessoryState) (t : Trigger) : Alike s (s.applyOutput t) := by
  unfold applyOutput
  split <;> exact ⟨rfl, rfl, rfl, rfl⟩

theorem alike_applyOutputs (effects : TriggerSet) (s : AccessoryState) : Alike s (effects.foldl applyOutput s) := by
  induction effects generalizing s with
  | nil => exact ⟨rfl, rfl, rfl, rfl⟩
  | cons t rest ih => exact alike_trans (alike_applyOutput s t) (ih _)

theorem profile_applyOperation (rules : Rules) (now : Nat) (c : Command) (op : AccessoryOp) (s : AccessoryState) :
    (s.applyOperation rules now c op).1.profile = s.profile.record (.command c) now := by
  unfold applyOperation
  dsimp only
  have hnumbered : (if op = .numeric then { s.record (.command c) now with number := c.data }
      else s.record (.command c) now).profile = s.profile.record (.command c) now := by
    split <;> rfl
  generalize (if op = .numeric then { s.record (.command c) now with number := c.data }
    else s.record (.command c) now) = numbered at hnumbered ⊢
  split
  · exact hnumbered
  · rw [(alike_applyOutputs _ _).profile, (alike_applyPress _ now op numbered).profile]
    exact hnumbered

theorem told_applyCommand (rules : Rules) (now : Nat) (c : Command) (s : AccessoryState) :
    s.profile.Told (.command c) now (s.applyCommand rules now c).1.profile := by
  unfold applyCommand
  split
  · exact ⟨rfl, Or.inr rfl⟩
  · split
    · rw [profile_applyOperation]
      exact ⟨rfl, Or.inr rfl⟩
    · exact ⟨rfl, Or.inl rfl⟩

theorem profile_setPower (s : AccessoryState) (on : Bool) : (s.setPower on).profile = s.profile := by
  cases on <;> rfl

theorem profile_applyBoard (m : Message) (s : AccessoryState) : (s.applyBoard m).1.profile = s.profile := by
  unfold applyBoard
  split
  · unfold applyRelay
    repeat' split
    all_goals first | rfl | exact profile_setPower _ _
  · unfold applyDistrict claimDistrict
    repeat' split
    all_goals first | rfl | exact profile_setPower _ _
  · unfold applyOutputMessage
    repeat' split
    all_goals rfl
  · unfold applySensor
    split <;> rfl
  · rfl

theorem told_applyKind (now : Nat) (m : Message) (offered : AccessoryKind) (s : AccessoryState) :
    s.profile.Told (.message m) now (s.applyKind now m offered).state.profile := by
  have hboard := profile_applyBoard m { s with kind := offered }
  unfold applyKind
  split
  · split <;> rename_i heq <;> rw [heq] at hboard
    · have haddress := congrArg Profile.address hboard
      exact ⟨haddress, Or.inr rfl⟩
    · have hlast := congrArg Profile.last hboard
      have haddress := congrArg Profile.address hboard
      exact ⟨haddress, Or.inl hlast⟩
  · exact ⟨rfl, Or.inl rfl⟩

theorem told_applyMessage (now : Nat) (m : Message) (s : AccessoryState) :
    s.profile.Told (.message m) now (s.applyMessage now m).state.profile := by
  unfold applyMessage
  split
  · rename_i r
    show s.profile.Told (.message (.record r)) now (applyRecord now r s).1.profile
    unfold applyRecord
    split
    · exact ⟨rfl, Or.inl rfl⟩
    · exact ⟨rfl, Or.inr rfl⟩
  · split
    · exact told_applyKind now _ _ s
    · exact ⟨rfl, Or.inl rfl⟩

theorem update_command {q : Profile} {c : Command} {s : AccessoryState}
    (h : s.profile.accept .accessory (.command c) = .ok q) (rules : Rules) (now : Nat) :
    s.update rules now (.command c) =
      ⟨(({ s with profile := q } : AccessoryState).applyCommand rules now c).1,
        .ok (({ s with profile := q } : AccessoryState).applyCommand rules now c).2⟩ := by
  simp only [update, h]

theorem update_message {q : Profile} {m : Message} {s : AccessoryState}
    (h : s.profile.accept .accessory (.message m) = .ok q) (rules : Rules) (now : Nat) :
    s.update rules now (.message m) = ({ s with profile := q } : AccessoryState).applyMessage now m := by
  simp only [update, h]

/-- A message is taken unless another kind of board drives the accessory; then it changes nothing. -/
theorem applyMessage_cases (now : Nat) (m : Message) (s : AccessoryState) :
    (∃ changed, (s.applyMessage now m).verdict = .ok changed) ∨
      (s.kind ≠ .plain ∧ (s.applyMessage now m).state = s) := by
  unfold applyMessage
  split
  · exact Or.inl ⟨_, rfl⟩
  · split
    · unfold applyKind
      split
      · split <;> exact Or.inl ⟨_, rfl⟩
      · rename_i hheld
        exact Or.inr ⟨fun hplain => hheld (Or.inl hplain), rfl⟩
    · exact Or.inl ⟨_, rfl⟩

end AccessoryState

/-! ## One update -/

namespace Component

variable {c : Component} {rules : Rules} {now : Nat} {u : Update}

/-- An update that is not accepted changes nothing. -/
theorem update_of_refused {e : Error} (h : c.profile.accept c.scope u = .error e) :
    c.update rules now u = ⟨c, .error e⟩ := by
  cases c <;>
    (simp only [profile, scope] at h
     simp only [update, MotiveState.update, SwitchState.update, RouteState.update, AccessoryState.update,
      SensorTrackState.update, BlockState.update, BaseState.update, SyncState.update, h]
     rfl)

/-- What an accepted update does to a component, given the profile that accepting it left. -/
structure Took (c : Component) (q : Profile) (u : Update) (now : Nat) (o : Outcome Component) : Prop where
  scope : o.state.scope = c.scope
  told : q.Told u now o.state.profile
  /-- Only an accessory that a board drives can refuse what was accepted; it changes nothing else then. -/
  verdict : (∃ changed, o.verdict = .ok changed) ∨
    ∃ s : AccessoryState, c = accessory s ∧ s.kind ≠ .plain ∧ o.state = accessory { s with profile := q }

theorem took_motive {s : MotiveState} {q : Profile} (h : s.profile.accept s.kind.scope u = .ok q) :
    Took (motive s) q u now ((motive s).update rules now u) := by
  rw [update]
  cases u with
  | command c =>
      obtain ⟨hkind, hprofile⟩ := MotiveState.applyCommand_same rules now c { s with profile := q }
      have htold : q.Told (.command c) now (({ s with profile := q } : MotiveState).applyCommand rules now c).1.profile := by
        rcases hprofile with hsame | hsame <;> rw [hsame]
        · exact ⟨rfl, Or.inl rfl⟩
        · exact ⟨rfl, Or.inr rfl⟩
      rw [MotiveState.update_command h]
      exact ⟨congrArg MotiveKind.scope hkind, htold, Or.inl ⟨_, rfl⟩⟩
  | message m =>
      have halike := MotiveState.alike_applyReport m { s with profile := q }
      rw [MotiveState.update_message h]
      rcases MotiveState.applyMessage_cases now m { s with profile := q } with hchanged | hsame
      · rw [hchanged]
        exact ⟨congrArg MotiveKind.scope halike.kind, ⟨halike.address, Or.inr rfl⟩, Or.inl ⟨_, rfl⟩⟩
      · rw [hsame]
        exact ⟨rfl, ⟨rfl, Or.inl rfl⟩, Or.inl ⟨_, rfl⟩⟩

theorem took_accessory {s : AccessoryState} {q : Profile} (h : s.profile.accept .accessory u = .ok q) :
    Took (accessory s) q u now ((accessory s).update rules now u) := by
  rw [update]
  cases u with
  | command c =>
      rw [AccessoryState.update_command h]
      exact ⟨rfl, AccessoryState.told_applyCommand rules now c { s with profile := q }, Or.inl ⟨_, rfl⟩⟩
  | message m =>
      rw [AccessoryState.update_message h]
      refine ⟨rfl, AccessoryState.told_applyMessage now m { s with profile := q }, ?_⟩
      rcases AccessoryState.applyMessage_cases now m { s with profile := q } with htaken | ⟨hheld, hsame⟩
      · exact Or.inl htaken
      · exact Or.inr ⟨s, rfl, hheld, congrArg accessory hsame⟩

theorem took_of_accepted {q : Profile} (h : c.profile.accept c.scope u = .ok q) :
    Took c q u now (c.update rules now u) := by
  cases c with
  | motive s => exact took_motive h
  | accessory s => exact took_accessory h
  | switch s =>
      rw [update, SwitchState.update_of_accept h]
      exact ⟨rfl, SwitchState.told_apply now u { s with profile := q }, Or.inl ⟨_, rfl⟩⟩
  | route s =>
      rw [update, RouteState.update_of_accept h]
      exact ⟨rfl, RouteState.told_apply now u { s with profile := q }, Or.inl ⟨_, rfl⟩⟩
  | sensorTrack s =>
      rw [update, SensorTrackState.update_of_accept h]
      exact ⟨rfl, SensorTrackState.told_apply now u { s with profile := q }, Or.inl ⟨_, rfl⟩⟩
  | block s =>
      rw [update, BlockState.update_of_accept h]
      exact ⟨rfl, BlockState.told_apply now u { s with profile := q }, Or.inl ⟨_, rfl⟩⟩
  | base s =>
      rw [update, BaseState.update_of_accept h]
      exact ⟨rfl, BaseState.told_apply now u { s with profile := q }, Or.inl ⟨_, rfl⟩⟩
  | sync s =>
      rw [update, SyncState.update_of_accept h]
      exact ⟨rfl, SyncState.told_apply now u { s with profile := q }, Or.inl ⟨_, rfl⟩⟩

/-- A component stays of its kind. -/
theorem scope_update (rules : Rules) (now : Nat) (u : Update) (c : Component) :
    (c.update rules now u).state.scope = c.scope := by
  cases h : c.profile.accept c.scope u with
  | error e => rw [update_of_refused h]
  | ok q => exact (took_of_accepted h).scope

/-- Sightings change neither the kind nor the address. -/
theorem applySighting_same (sighting : Sighting) (c : Component) :
    (c.applySighting sighting).1.scope = c.scope ∧
      (c.applySighting sighting).1.profile.address = c.profile.address := by
  cases c with
  | motive s =>
      have halike := MotiveState.alike_applySighting sighting s
      unfold applySighting
      dsimp only
      split
      · exact ⟨congrArg MotiveKind.scope halike.kind, halike.address⟩
      · exact ⟨rfl, rfl⟩
  | _ => exact ⟨rfl, rfl⟩

end Component

/-! ## One thing after another -/

/-- What a component goes through: an update at a time, by the rules of that time, or a sighting of a sensor track. -/
inductive Incident where
  | told (rules : Rules) (now : Nat) (u : Update)
  | seen (sighting : Sighting)

namespace Component

def meet (c : Component) : Incident → Component
  | .told rules now u => (c.update rules now u).state
  | .seen sighting => (c.applySighting sighting).1

/-- A component after one thing after another. -/
def run (c : Component) (history : List Incident) : Component := history.foldl meet c

/-- What each thing that a component goes through keeps is kept by all of them. -/
theorem run_induction {P : Component → Prop} {c : Component} (h : P c) {history : List Incident}
    (hmeet : ∀ d, ∀ i ∈ history, P d → P (d.meet i)) : P (c.run history) := by
  induction history generalizing c with
  | nil => exact h
  | cons i rest ih => exact ih (hmeet c i List.mem_cons_self h) fun d j hj => hmeet d j (List.mem_cons_of_mem i hj)

theorem scope_meet (c : Component) (i : Incident) : (c.meet i).scope = c.scope := by
  cases i with
  | told rules now u => exact scope_update rules now u c
  | seen sighting => exact (applySighting_same sighting c).1

theorem scope_run (c : Component) (history : List Incident) : (c.run history).scope = c.scope :=
  run_induction (P := fun d => d.scope = c.scope) rfl fun d i _ h => (scope_meet d i).trans h

/-- What a component of a kind starts as, with an address or without. -/
structure Built (scope : Scope) (start : Option UInt16) (c : Component) : Prop where
  scope_eq : c.scope = scope
  fresh : c.profile = .fresh c.profile.address
  admits : ∀ a, c.profile.address = some a → scope.admits a = true
  bound : start.isSome = true → c.profile.address.isSome = true
  /-- The synchronization status has its address from the start. -/
  sync : scope = .sync → c.profile.address = some broadcastAddress
  plain : ∀ s, c = accessory s → s.kind = .plain

theorem built_of_build {scope : Scope} {start : Option UInt16} {c : Component} (h : build scope start = .ok c) :
    Built scope start c := by
  cases scope with
  | base | sync =>
      cases h
      refine ⟨rfl, rfl, fun a ha => ?_, fun _ => rfl, fun hsync => ?_, fun s hs => by cases hs⟩
      · cases ha
        decide
      · cases hsync <;> rfl
  | _ =>
      obtain ⟨p, hp, h⟩ := ok_of_bind h
      obtain ⟨rfl, hadmits⟩ := Profile.build_eq_ok hp
      cases h
      refine ⟨rfl, rfl, hadmits, fun hsome => hsome, (fun hsync => by cases hsync), fun s hs => ?_⟩
      cases hs <;> rfl

theorem isMotive_scope (s : MotiveState) : (motive s).scope.isMotive = true := by
  show s.kind.scope.isMotive = true
  cases s.kind <;> rfl

theorem exists_motive {c : Component} (h : c.scope.isMotive = true) : ∃ s, c = motive s := by
  cases c with
  | motive s => exact ⟨s, rfl⟩
  | _ => cases h

end Component
end RailLayout
