import RailLayout.Proofs.State.Binding
import RailLayout.Proofs.State.Motive.Latches
import RailLayout.State.Component

/-!
What can be asked of a component: whether anything is known of it, its bytes, and what else it shows. None of this
depends on what the component was told last, and an address makes no difference but to the bytes; as long as it has no
address, a component is as it was built except for what sensor tracks have seen of an engine (`Component.bare_run`). So
a component that takes an update and at most remembers it gives the same answers, unless its address was the one thing
missing to send what was seen (`Component.sameAnswers_withProfile`).
-/

namespace RailLayout

/-! ## What is shown -/

def Profile.shown (p : Profile) : Profile := { p with address := none, last := none }

/-- The state without what it keeps to itself: how old its direction is and when keys were pressed. -/
def MotiveState.shown (s : MotiveState) : MotiveState :=
  { s with profile := s.profile.shown, directionFrom := none, aux1Pressed := none, aux2Pressed := none }

def SwitchState.shown (s : SwitchState) : SwitchState := { s with profile := s.profile.shown }

def RouteState.shown (s : RouteState) : RouteState := { s with profile := s.profile.shown }

/-- The state without what it keeps to itself: when keys were pressed, and what its board said for the record. -/
def AccessoryState.shown (s : AccessoryState) : AccessoryState :=
  { s with
    profile := s.profile.shown, aux1Pressed := none, aux2Pressed := none, districtAction := none, sensorInfo := none }

/-- The state with its filters as they are told: one that lets any engine through is none. -/
def SensorTrackState.shown (s : SensorTrackState) : SensorTrackState :=
  { s with
    profile := s.profile.shown, tmccId := none, locoRightLeft := s.rightLeft?, locoLeftRight := s.leftRight? }

/-- The state with the flags that can be asked for: occupied, entered, slowed, stopped, and the direction. -/
def BlockState.shown (s : BlockState) : BlockState :=
  { s with profile := s.profile.shown, flags := s.flags.map (· &&& 0x1f) }

def BaseState.shown (s : BaseState) : BaseState := { s with profile := s.profile.shown }

def SyncState.shown (s : SyncState) : SyncState :=
  ⟨s.profile.shown, some s.isSynchronizing, some s.isSynchronized⟩

theorem Profile.recordUpdates_of_nameless {p : Profile} (h : p.hasNames = false) (kind : FixtureKind)
    (steps : List RouteStep) : p.recordUpdates kind steps = [] := by
  unfold recordUpdates
  rw [h]
  split <;> rfl

namespace Component

/-- What can be asked of a component, besides its address, what it was told last and when. -/
def shown : Component → Component
  | motive s => motive s.shown
  | switch s => switch s.shown
  | route s => route s.shown
  | accessory s => accessory s.shown
  | sensorTrack s => sensorTrack s.shown
  | block s => block s.shown
  | base s => base s.shown
  | sync s => sync s.shown

/-- Whether two components answer alike when they are asked what they know, what their bytes are, or for anything
else that they show. -/
structure SameAnswers (c d : Component) : Prop where
  isKnown : d.isKnown = c.isKnown
  encode {σ : Type} (codec : Codec σ) : d.encode codec = c.encode codec
  shown : d.shown = c.shown

/-- The component with another profile. -/
def withProfile (p : Profile) : Component → Component
  | motive s => motive { s with profile := p }
  | switch s => switch { s with profile := p }
  | route s => route { s with profile := p }
  | accessory s => accessory { s with profile := p }
  | sensorTrack s => sensorTrack { s with profile := p }
  | block s => block { s with profile := p }
  | base s => base { s with profile := p }
  | sync s => sync { s with profile := p }

variable {c : Component} {rules : Rules} {now : Nat} {u : Update}

theorem shown_withProfile (c : Component) (address : Option UInt16) (last : Option (Update × Nat)) :
    (c.withProfile { c.profile with address := address, last := last }).shown = c.shown := by
  cases c <;> rfl

theorem isKnown_withProfile (c : Component) (address : Option UInt16) (last : Option (Update × Nat)) :
    (c.withProfile { c.profile with address := address, last := last }).isKnown = c.isKnown := by
  cases c <;> rfl

theorem script_withProfile (c : Component) (last : Option (Update × Nat)) :
    (c.withProfile { c.profile with last := last }).script = c.script := by
  cases c <;> rfl

/-! ## Components without an address -/

/-- Whether nothing is known of a component but what sensor tracks may have seen. -/
def Bare : Component → Prop
  | motive s => s.latches = ⟨none, none, none, none, none, none⟩ ∧ s.smoke = none
  | other => build other.scope none = .ok other

theorem bare_of_build {scope : Scope} {start : Option UInt16} (h : build scope start = .ok c)
    (hfree : c.profile.address = none) : Bare c := by
  cases start with
  | some address =>
      have hbound := (built_of_build h).bound rfl
      rw [hfree] at hbound
      cases hbound
  | none => cases scope <;> cases h <;> first | exact ⟨rfl, rfl⟩ | rfl

theorem bare_meet (h : c.profile.address = none → Bare c) (i : Incident) :
    (c.meet i).profile.address = none → Bare (c.meet i) := by
  intro hfree
  cases i with
  | told rules now u =>
      cases haccept : c.profile.accept c.scope u with
      | error e =>
          rw [meet, update_of_refused haccept] at hfree ⊢
          exact h hfree
      | ok q =>
          have htook : Took c q u now (c.update rules now u) := took_of_accepted haccept
          have hbound := Profile.isSome_address_of_accept haccept
          rw [← htook.told.address, show (c.update rules now u).state.profile.address = none from hfree] at hbound
          cases hbound
  | seen sighting =>
      have hbefore := h ((applySighting_same sighting c).2.symm.trans hfree)
      cases c with
      | motive s =>
          have hlatches : (s.applySighting sighting).1.latches = s.latches := by
            unfold MotiveState.applySighting
            split <;> rfl
          have hsmoke : (s.applySighting sighting).1.smoke = s.smoke := by
            unfold MotiveState.applySighting
            split <;> rfl
          rw [meet, applySighting]
          dsimp only
          split
          · exact ⟨hlatches.trans hbefore.1, hsmoke.trans hbefore.2⟩
          · exact hbefore
      | _ => exact hbefore

/-- A component that has no address after all it went through is bare. -/
theorem bare_run {scope : Scope} {start : Option UInt16} (h : build scope start = .ok c) (history : List Incident) :
    (c.run history).profile.address = none → Bare (c.run history) :=
  run_induction (P := fun d => d.profile.address = none → Bare d) (bare_of_build h) fun _ i _ hd => bare_meet hd i

theorem script_of_unbound (hbare : Bare c) (hfree : c.profile.address = none) : c.script = [] := by
  have hrecord : c.profile.recordNo? = none := by rw [Profile.recordNo?, hfree]
  cases c with
  | motive s =>
      rw [script, MotiveState.script, show s.profile.address = none from hfree]
  | switch s =>
      rw [script, SwitchState.script, show s.profile.address = none from hfree]
  | route s =>
      rw [script, RouteState.script, show s.profile.recordNo? = none from hrecord]
  | accessory s =>
      rw [script, AccessoryState.script, show s.profile.address = none from hfree]
  | sensorTrack s =>
      rw [script, SensorTrackState.script, show s.profile.recordNo? = none from hrecord]
  | block s =>
      rw [script, BlockState.script, BlockState.toReport?, show s.profile.recordNo? = none from hrecord]
      split
      · rename_i hnone
        cases hnone
      · rfl
  | base s =>
      cases hbare
      cases hfree
  | sync s => rfl

/-- An address alone gives a bare component nothing to send, unless it has a record of what was seen of it. -/
theorem script_of_bare (hbare : Bare c) (hfree : c.profile.address = none) {address : UInt16}
    (hunseen : ∀ s, c = motive s → s.hasRecordFields = true → 99 < address) (last : Option (Update × Nat)) :
    (c.withProfile { c.profile with address := some address, last := last }).script = [] := by
  cases c with
  | motive s =>
      obtain ⟨hlatches, hsmoke⟩ := hbare
      have hstarted : s.started = none := congrArg MotiveState.Latches.started hlatches
      have hdirection : s.direction = none := congrArg MotiveState.Latches.direction hlatches
      have haux : s.aux = none := congrArg MotiveState.Latches.aux hlatches
      have haux1 : s.aux1 = none := congrArg MotiveState.Latches.aux1 hlatches
      have haux2 : s.aux2 = none := congrArg MotiveState.Latches.aux2 hlatches
      have hmap : s.fourDigitRecord = none := congrArg MotiveState.Latches.fourDigitRecord hlatches
      have hrecord : ¬(s.hasRecordFields = true ∧ address ≤ 99) := fun hsaid =>
        absurd hsaid.2 (UInt16.not_le.mpr (hunseen s rfl hsaid.1))
      simp only [withProfile, script, MotiveState.script, MotiveState.recordUpdates, MotiveState.fourDigitUpdates,
        MotiveState.heldOps, hstarted, hsmoke, hdirection, haux, haux1, haux2, hmap, Option.map_none,
        Option.toList_none, List.append_nil, List.map_nil]
      exact if_neg hrecord
  | base s =>
      cases hbare
      cases hfree
  | sync s => rfl
  | switch s =>
      cases hbare
      exact congrArg (· ++ []) (Profile.recordUpdates_of_nameless rfl .switch [])
  | accessory s =>
      cases hbare
      simp only [withProfile, script, AccessoryState.script]
      split
      · exact congrArg (· ++ []) (Profile.recordUpdates_of_nameless rfl .accessory [])
      · rfl
  | route s =>
      cases hbare
      simp only [withProfile, script, RouteState.script]
      split <;> rfl
  | sensorTrack s =>
      cases hbare
      simp only [withProfile, script, SensorTrackState.script]
      split
      · rename_i hsequence
        cases hsequence
      · rfl
  | block s =>
      cases hbare
      rfl

/-- Whether an update finds a component without an address, but with a record of what was seen of it, and an address
under which the record can be sent. -/
def Surfaces (u : Update) (c : Component) : Prop :=
  ∃ s scope address, c = motive s ∧ s.profile.address = none ∧ s.hasRecordFields = true ∧
    u.target? = some (scope, address) ∧ address ≤ 99

/-- A component that took an update, and at most remembers it, gives the same answers. -/
theorem sameAnswers_withProfile {q : Profile} (haccept : c.profile.accept c.scope u = .ok q)
    (hbare : c.profile.address = none → Bare c) (hunseen : ¬Surfaces u c) (last : Option (Update × Nat)) :
    SameAnswers c (c.withProfile { q with last := last }) := by
  have hq := Profile.accept_eq haccept
  have hscript : (c.withProfile { q with last := last }).script = c.script := by
    cases hfree : c.profile.address with
    | some bound =>
        rw [Profile.accept_eq_of_bound haccept (hfree ▸ rfl)]
        exact script_withProfile c last
    | none =>
        obtain ⟨received, address, htarget, -, ⟨bound, hbound, -⟩ | ⟨-, -, -, rfl⟩⟩ := Profile.of_accept haccept
        · rw [hfree] at hbound
          cases hbound
        · rw [script_of_unbound (hbare hfree) hfree]
          refine script_of_bare (hbare hfree) hfree (fun s hs hsaid => ?_) last
          refine UInt16.not_le.mp fun hlow => hunseen ⟨s, received, address, hs, ?_, hsaid, htarget, hlow⟩
          subst hs
          exact hfree
  rw [hq]
  rw [hq] at hscript
  refine ⟨isKnown_withProfile c _ _, fun codec => ?_, shown_withProfile c _ _⟩
  rw [encode, hscript]
  rfl

end Component

end RailLayout
