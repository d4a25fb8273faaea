import RailLayout.Proofs.State.Motive.Run
import RailLayout.Proofs.State.Run

/-!
What every engine and every train keeps to, whatever the graph and whatever it is told. A direction is forward or
reverse and was set by a command of a known generation; the option-one key pressed last is one of the two; an
output is in a state that operations of that output set, and is known once its key was pressed; a train takes
Legacy commands. Each step of a command, each kind of report and each sighting preserves this, hence every run
(`coherent_run`), and whatever a component that is built as an engine or a train goes through (`coherent_run_of_build`).
-/

namespace RailLayout

namespace MotiveState

/-- What the fields that commands latch keep to. -/
structure Coherent (kind : MotiveKind) (s : MotiveState) : Prop where
  kind_eq : s.kind = kind
  legacy : kind = .train → s.legacy = some true
  direction : ∀ {op}, s.direction = some op → op = .forwardDirection ∨ op = .reverseDirection
  directionFrom : s.directionFrom.isSome = s.direction.isSome
  aux : ∀ {op}, s.aux = some op → op = .aux1OptionOne ∨ op = .aux2OptionOne
  aux1 : ∀ {op}, s.aux1 = some op → Effects.setsAux1 op = true
  aux2 : ∀ {op}, s.aux2 = some op → Effects.setsAux2 op = true
  aux1_known : s.aux = some .aux1OptionOne ∨ s.aux1Pressed.isSome = true → s.aux1.isSome = true
  aux2_known : s.aux = some .aux2OptionOne ∨ s.aux2Pressed.isSome = true → s.aux2.isSome = true

theorem coherent_fresh (kind : MotiveKind) (profile : Profile) : Coherent kind (fresh kind profile) where
  kind_eq := rfl
  legacy h := if_pos h
  direction h := by cases h
  directionFrom := rfl
  aux h := by cases h
  aux1 h := by cases h
  aux2 h := by cases h
  aux1_known h := by rcases h with h | h <;> cases h
  aux2_known h := by rcases h with h | h <;> cases h

namespace Coherent

variable {kind : MotiveKind} {s : MotiveState}

/-! ## Commands -/

theorem latchGeneration (h : Coherent kind s) (c : Command) : Coherent kind (s.latchGeneration c) := by
  unfold MotiveState.latchGeneration
  split
  · rename_i hnone
    refine { h with legacy := fun htrain => ?_ }
    rw [h.legacy htrain] at hnone
    cases hnone.1
  · exact h

theorem halt (h : Coherent kind s) : Coherent kind s.halt := by
  refine { h with aux := ?_, aux1 := ?_, aux2 := ?_, aux1_known := fun _ => rfl, aux2_known := fun _ => rfl }
  · intro op hset
    cases hset
    exact Or.inr rfl
  · intro op hset
    cases hset
    rfl
  · intro op hset
    cases hset
    rfl

theorem applyNumeric (h : Coherent kind s) (op : EngineOp) (data : Option UInt16) (effects : TriggerSet) :
    Coherent kind (s.applyNumeric op data effects) := by
  unfold MotiveState.applyNumeric
  repeat' split
  all_goals exact { h with }

theorem reversed_eq_some {op : EngineOp} (h : s.reversed = some op) :
    (op = .forwardDirection ∨ op = .reverseDirection) ∧ s.directionFrom.isSome = true := by
  unfold reversed at h
  split at h
  · rename_i hfrom
    split at h
    · cases h
      refine ⟨?_, by rw [hfrom]; rfl⟩
      split
      · exact Or.inr rfl
      · exact Or.inl rfl
    · cases h
  · cases h

theorem applyDirection (h : Coherent kind s) (generation : Generation) (op : EngineOp) (effects : TriggerSet) :
    Coherent kind (s.applyDirection generation op effects) := by
  unfold MotiveState.applyDirection
  split
  · rename_i hturn
    refine { h with direction := ?_, directionFrom := rfl }
    intro op hset
    cases hset
    exact hturn
  · split
    · split
      · rename_i dir hdir
        refine { h with direction := ?_, directionFrom := (reversed_eq_some hdir).2 }
        intro op hset
        cases hset
        exact (reversed_eq_some hdir).1
      · refine { h with direction := ?_, directionFrom := rfl }
        intro op hset
        cases hset
    · split
      · refine { h with direction := ?_, directionFrom := rfl }
        intro op hset
        cases hset
        exact Or.inl rfl
      · split
        · refine { h with direction := ?_, directionFrom := rfl }
          intro op hset
          cases hset
          exact Or.inr rfl
        · exact h

theorem applyTrainBrake (h : Coherent kind s) (op : EngineOp) (data : Option UInt16) (effects : TriggerSet) :
    Coherent kind (s.applyTrainBrake op data effects) := by
  unfold MotiveState.applyTrainBrake
  repeat' split
  all_goals exact { h with }

theorem applySmoke (h : Coherent kind s) (effects : TriggerSet) : Coherent kind (s.applySmoke effects) := by
  unfold MotiveState.applySmoke
  split
  all_goals exact { h with }

theorem setsAux1_pulse (current : Option EngineOp) :
    Effects.setsAux1 (pulse current .aux1On .aux1OptionTwo .aux1Off) = true := by
  unfold pulse
  repeat' split
  all_goals rfl

theorem setsAux2_pulse (current : Option EngineOp) :
    Effects.setsAux2 (pulse current .aux2On .aux2OptionTwo .aux2Off) = true := by
  unfold pulse
  repeat' split
  all_goals rfl

theorem isSome_of_not_pulseDue {previous : Option Nat} {window now : Nat}
    (h : ¬pulseDue previous window now = true) : previous.isSome = true := by
  cases previous with
  | none => exact absurd rfl h
  | some _ => rfl

theorem pressAux1 (h : Coherent kind s) {set : Option EngineOp}
    (hset : ∀ {op}, set = some op → Effects.setsAux1 op = true) (hknown : set.isSome = true) (now : Nat) :
    Coherent kind { s with aux := some .aux1OptionOne, aux1 := set, aux1Pressed := some now } := by
  refine { h with aux := ?_, aux1 := hset, aux1_known := fun _ => hknown, aux2_known := ?_ }
  · intro op haux
    cases haux
    exact Or.inl rfl
  · exact fun hpressed => h.aux2_known (Or.inr (hpressed.resolve_left fun haux => by cases haux))

theorem pressAux2 (h : Coherent kind s) {set : Option EngineOp}
    (hset : ∀ {op}, set = some op → Effects.setsAux2 op = true) (hknown : set.isSome = true) (now : Nat) :
    Coherent kind { s with aux := some .aux2OptionOne, aux2 := set, aux2Pressed := some now } := by
  refine { h with aux := ?_, aux2 := hset, aux1_known := ?_, aux2_known := fun _ => hknown }
  · intro op haux
    cases haux
    exact Or.inr rfl
  · exact fun hpressed => h.aux1_known (Or.inr (hpressed.resolve_left fun haux => by cases haux))

theorem applyPress (h : Coherent kind s) (window now : Nat) (op : EngineOp) :
    Coherent kind (s.applyPress window now op) := by
  -- A press that comes too soon leaves the output alone, but the press before has made it known.
  unfold MotiveState.applyPress
  split
  · rename_i hop
    subst hop
    dsimp only
    split
    · refine h.pressAux1 (fun hset => ?_) rfl now
      cases hset
      exact setsAux1_pulse s.aux1
    · rename_i hdue
      exact h.pressAux1 h.aux1 (h.aux1_known (Or.inr (isSome_of_not_pulseDue hdue))) now
  · split
    · rename_i hop
      subst hop
      dsimp only
      split
      · refine h.pressAux2 (fun hset => ?_) rfl now
        cases hset
        exact setsAux2_pulse s.aux2
      · rename_i hdue
        exact h.pressAux2 h.aux2 (h.aux2_known (Or.inr (isSome_of_not_pulseDue hdue))) now
    · exact h

theorem applyOutput (h : Coherent kind s) (t : Trigger) : Coherent kind (s.applyOutput t) := by
  unfold MotiveState.applyOutput
  split
  · split
    · rename_i hsets
      refine { h with aux1 := ?_, aux1_known := fun _ => rfl }
      intro op hset
      cases hset
      exact hsets
    · split
      · rename_i hsets
        refine { h with aux2 := ?_, aux2_known := fun _ => rfl }
        intro op hset
        cases hset
        exact hsets
      · exact h
  · exact h

theorem applyOutputs (h : Coherent kind s) (effects : TriggerSet) : Coherent kind (s.applyOutputs effects) := by
  unfold MotiveState.applyOutputs
  induction effects generalizing s with
  | nil => exact h
  | cons t rest ih => exact ih (h.applyOutput t)

theorem applyRpm (h : Coherent kind s) (op : EngineOp) (data : Option UInt16) (effects : TriggerSet) :
    Coherent kind (s.applyRpm op data effects) := by
  unfold MotiveState.applyRpm
  repeat' split
  all_goals exact { h with }

theorem applyLabor (h : Coherent kind s) (op : EngineOp) (data : Option UInt16) (effects : TriggerSet) :
    Coherent kind (s.applyLabor op data effects) := by
  unfold MotiveState.applyLabor
  repeat' split
  all_goals exact { h with }

theorem applySpeed (h : Coherent kind s) (op : EngineOp) (data : Option UInt16) (effects : TriggerSet) :
    Coherent kind (s.applySpeed op data effects) := by
  unfold MotiveState.applySpeed
  repeat' split
  all_goals exact { h with }

theorem applyMomentum (h : Coherent kind s) (op : EngineOp) (data : Option UInt16) :
    Coherent kind (s.applyMomentum op data) := by
  unfold MotiveState.applyMomentum
  split
  all_goals exact { h with }

theorem applyStart (h : Coherent kind s) (effects : TriggerSet) : Coherent kind (s.applyStart effects) := by
  unfold MotiveState.applyStart
  repeat' split
  all_goals exact { h with }

theorem applyFields (h : Coherent kind s) (window now : Nat) (generation : Generation) (op : EngineOp)
    (data : Option UInt16) (effects : TriggerSet) :
    Coherent kind (s.applyFields window now generation op data effects) := by
  have hdirection := h.applyDirection generation op effects
  have hbrake := hdirection.applyTrainBrake op data effects
  have hpress := (hbrake.applySmoke effects).applyPress window now op
  have hrpm := (hpress.applyOutputs effects).applyRpm op data effects
  have hspeed := (hrpm.applyLabor op data effects).applySpeed op data effects
  exact (hspeed.applyMomentum op data).applyStart effects

/-! ## Messages -/

theorem setControlType (h : Coherent kind s) (controlType : UInt8) : Coherent kind (s.setControlType controlType) := by
  refine { h with legacy := fun htrain => ?_ }
  have hkind : s.kind ≠ .engine := by
    rw [h.kind_eq, htrain]
    decide
  exact (if_neg hkind).trans (h.legacy htrain)

theorem applyRecordFields (h : Coherent kind s) (m : RecordMessage) (r : MotiveRecord) :
    Coherent kind (s.applyRecordFields m r) := by
  unfold MotiveState.applyRecordFields
  dsimp only
  split
  · rename_i v _
    exact { h.setControlType v with }
  · exact { h with }

theorem applyConsist (h : Coherent kind s) (described : MotiveKind) (r : MotiveRecord) :
    Coherent kind (s.applyConsist described r) := by
  cases described with
  | engine => exact h
  | train => exact { h with }

theorem applyMemoryField (h : Coherent kind s) (entry : MemoryField × MemoryValue) :
    Coherent kind (s.applyMemoryField entry) := by
  unfold MotiveState.applyMemoryField
  split
  case h_8 v => exact h.setControlType v
  all_goals exact { h with }

theorem applySighting (h : Coherent kind s) (sighting : Sighting) : Coherent kind (s.applySighting sighting).1 := by
  unfold MotiveState.applySighting
  split
  · exact h
  · exact { h with }

end Coherent

theorem stable_coherent (rules : Rules) (kind : MotiveKind) : Stable rules (fun _ => True) (Coherent kind) where
  profile h _ := { h with }
  latchGeneration h := h.latchGeneration
  halt h := h.halt
  applyNumeric h := h.applyNumeric
  applyFields h c _ _ _ _ now := h.applyFields _ now _ _ c.data _
  applyRecordFields h := h.applyRecordFields
  applyConsist h := h.applyConsist
  applyMemoryField h := h.applyMemoryField
  speed h _ := { h with }
  fourDigitRecord h _ := { h with }

/-- Every engine and every train is coherent after every run. -/
theorem coherent_run (rules : Rules) (kind : MotiveKind) (profile : Profile) (updates : List (Nat × Update)) :
    Coherent kind ((fresh kind profile).run rules updates) :=
  (stable_coherent rules kind).run (coherent_fresh kind profile) fun _ _ _ _ => trivial

end MotiveState

/-! ## Components -/

namespace Component

/-- Whether a component is an engine or a train, as given, and coherent. -/
def Coherent (kind : MotiveKind) (c : Component) : Prop := ∃ s, c = motive s ∧ s.Coherent kind

variable {kind : MotiveKind} {c : Component}

theorem coherent_build {start : Option UInt16} (h : build kind.scope start = .ok c) : c.Coherent kind := by
  cases kind <;>
    (obtain ⟨p, -, h⟩ := ok_of_bind h
     cases h
     exact ⟨_, rfl, MotiveState.coherent_fresh _ p⟩)

theorem coherent_meet (h : c.Coherent kind) (i : Incident) : (c.meet i).Coherent kind := by
  obtain ⟨s, rfl, hs⟩ := h
  cases i with
  | told rules now u =>
      have hupdate := (MotiveState.stable_coherent rules kind).update hs now (u := u) fun _ _ => trivial
      exact ⟨_, rfl, hupdate⟩
  | seen sighting =>
      rw [meet, Component.applySighting]
      split
      · exact ⟨_, rfl, hs.applySighting sighting⟩
      · exact ⟨s, rfl, hs⟩

/-- What an engine or a train keeps to in the fields that commands latch, whatever it went through and whatever the
graphs were. A direction is forward or reverse, and it is known just if the generation that it was set in is; the
option-one key pressed last is one of the two, and its output is known; each output is in a state of its own; a train
takes Legacy commands. -/
theorem coherent_run_of_build {start : Option UInt16} (h : build kind.scope start = .ok c) (history : List Incident) :
    ∃ s, c.run history = motive s ∧ s.kind = kind ∧
      (s.direction.isSome = s.directionFrom.isSome ∧
        s.direction ∈ [none, some .forwardDirection, some .reverseDirection]) ∧
      s.aux ∈ [none, some .aux1OptionOne, some .aux2OptionOne] ∧
      s.aux1 ∈ [none, some .aux1On, some .aux1Off, some .aux1OptionTwo] ∧
      s.aux2 ∈ [none, some .aux2On, some .aux2Off, some .aux2OptionTwo] ∧
      (s.aux = some .aux1OptionOne → s.aux1.isSome = true) ∧
      (s.aux = some .aux2OptionOne → s.aux2.isSome = true) ∧
      (kind = .train → s.generation = .legacy) := by
  obtain ⟨s, hrun, hs⟩ : (c.run history).Coherent kind :=
    run_induction (coherent_build h) fun _ i _ hd => coherent_meet hd i
  refine ⟨s, hrun, hs.kind_eq, ⟨hs.directionFrom.symm, ?_⟩, ?_, ?_, ?_, fun haux => hs.aux1_known (Or.inl haux),
    fun haux => hs.aux2_known (Or.inl haux), fun htrain => if_pos (hs.legacy htrain)⟩
  · cases hdirection : s.direction with
    | none => exact List.mem_cons_self
    | some op => rcases hs.direction hdirection with rfl | rfl <;> decide
  · cases haux : s.aux with
    | none => exact List.mem_cons_self
    | some op => rcases hs.aux haux with rfl | rfl <;> decide
  · cases haux1 : s.aux1 with
    | none => exact List.mem_cons_self
    | some op =>
        have hsets := hs.aux1 haux1
        unfold Effects.setsAux1 at hsets
        split at hsets <;> first | decide | cases hsets
  · cases haux2 : s.aux2 with
    | none => exact List.mem_cons_self
    | some op =>
        have hsets := hs.aux2 haux2
        unfold Effects.setsAux2 at hsets
        split at hsets <;> first | decide | cases hsets

/-- A train is turned around, a record says that it takes TMCC commands, and its first key is pressed twice within the
window. -/
theorem coherent_run_of_build_pressed :
    let tell (now : Nat) (op : EngineOp) : Incident :=
      .told ⟨.stock, ⟨0, 1000⟩⟩ now (.command ⟨.engine .legacy op, 7, none, .train⟩)
    let history : List Incident :=
      [tell 0 .reverseDirection,
       .told ⟨.stock, .standard⟩ 5 (.message (.record ⟨7, RecordMessage.writeFlags, 0, 0,
        .motive .train RecordField.controlType.mask
          { MotiveRecord.unknown with controlType := some MotiveState.tmccControl }⟩)),
       tell 10 .aux1OptionOne, tell 20 .aux1OptionOne]
    ∃ c, build .train (some 7) = .ok c ∧ ∃ s, c.run history = motive s ∧ s.controlType = some MotiveState.tmccControl ∧
      s.generation = .legacy ∧ s.direction = some .reverseDirection ∧ s.directionFrom.isSome = true ∧
        s.aux = some .aux1OptionOne ∧ s.aux1.isSome = true := by
  intro tell history
  have hbuild : build MotiveKind.train.scope (some 7) = .ok (motive (.fresh .train (.fresh (some 7)))) := rfl
  obtain ⟨s, hrun, -, ⟨hfrom, -⟩, -, -, -, haux1, -, hlegacy⟩ := coherent_run_of_build hbuild history
  obtain ⟨t, ht, htold⟩ : ∃ t, (motive (.fresh .train (.fresh (some 7)))).run history = motive t ∧
      t.controlType = some MotiveState.tmccControl ∧ t.direction = some .reverseDirection ∧
        t.aux = some .aux1OptionOne := ⟨_, rfl, by decide +kernel⟩
  cases hrun.symm.trans ht
  obtain ⟨hcontrol, hdirection, haux⟩ := htold
  refine ⟨_, hbuild, s, hrun, hcontrol, hlegacy rfl, hdirection, ?_, haux, haux1 haux⟩
  rw [← hfrom, hdirection]
  rfl

end Component
end RailLayout
