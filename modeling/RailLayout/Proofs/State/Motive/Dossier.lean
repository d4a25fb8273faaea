import RailLayout.State.Motive.Command

/-!
What commands leave alone. The dossier of an engine or a train is what only messages and sightings change: its name and
number, what it is, its limits, its members and its records, and also its generation, which the first command decides
once (`MotiveState.dossier_applyCommand`).
-/

namespace RailLayout

namespace MotiveState

/-- The state without what commands change, and without what it was told last. -/
def dossier (s : MotiveState) : MotiveState :=
  { s with
    profile := { s.profile with last := none }
    started := none, speed := none, direction := none, directionFrom := none, momentum := none, trainBrake := none
    rpm := none, labor := none, numeric := none, smoke := none, aux := none, aux1 := none, aux2 := none
    aux1Pressed := none, aux2Pressed := none }

variable (s : MotiveState) (op : EngineOp) (data : Option UInt16) (effects : TriggerSet)

@[simp] theorem dossier_record (u : Update) (now : Nat) : (s.record u now).dossier = s.dossier := rfl

@[simp] theorem dossier_halt : s.halt.dossier = s.dossier := rfl

@[simp] theorem dossier_applyNumeric : (s.applyNumeric op data effects).dossier = s.dossier := by
  unfold applyNumeric
  repeat' split
  all_goals rfl

@[simp] theorem dossier_applyDirection (generation : Generation) :
    (s.applyDirection generation op effects).dossier = s.dossier := by
  unfold applyDirection
  repeat' split
  all_goals rfl

@[simp] theorem dossier_applyTrainBrake : (s.applyTrainBrake op data effects).dossier = s.dossier := by
  unfold applyTrainBrake
  repeat' split
  all_goals rfl

@[simp] theorem dossier_applySmoke : (s.applySmoke effects).dossier = s.dossier := by
  unfold applySmoke
  split <;> rfl

@[simp] theorem dossier_applyPress (window now : Nat) : (s.applyPress window now op).dossier = s.dossier := by
  unfold applyPress
  repeat' split
  all_goals rfl

@[simp] theorem dossier_applyOutput (t : Trigger) : (s.applyOutput t).dossier = s.dossier := by
  unfold applyOutput
  repeat' split
  all_goals rfl

@[simp] theorem dossier_applyOutputs : (s.applyOutputs effects).dossier = s.dossier := by
  unfold applyOutputs
  induction effects generalizing s with
  | nil => rfl
  | cons t rest ih => rw [List.foldl_cons, ih, dossier_applyOutput]

@[simp] theorem dossier_applyRpm : (s.applyRpm op data effects).dossier = s.dossier := by
  unfold applyRpm
  repeat' split
  all_goals rfl

@[simp] theorem dossier_applyLabor : (s.applyLabor op data effects).dossier = s.dossier := by
  unfold applyLabor
  repeat' split
  all_goals rfl

@[simp] theorem dossier_applySpeed : (s.applySpeed op data effects).dossier = s.dossier := by
  unfold applySpeed
  repeat' split
  all_goals rfl

@[simp] theorem dossier_applyMomentum : (s.applyMomentum op data).dossier = s.dossier := by
  unfold applyMomentum
  split <;> rfl

@[simp] theorem dossier_applyStart : (s.applyStart effects).dossier = s.dossier := by
  unfold applyStart
  repeat' split
  all_goals rfl

@[simp] theorem dossier_applyFields (window now : Nat) (generation : Generation) :
    (s.applyFields window now generation op data effects).dossier = s.dossier := by
  simp only [applyFields, dossier_applyDirection, dossier_applyTrainBrake, dossier_applySmoke, dossier_applyPress,
    dossier_applyOutputs, dossier_applyRpm, dossier_applyLabor, dossier_applySpeed, dossier_applyMomentum,
    dossier_applyStart]

theorem dossier_applyOperation (rules : Rules) (now : Nat) (c : Command) (generation : Generation) :
    (s.applyOperation rules now c generation op).1.dossier = s.dossier := by
  unfold applyOperation
  dsimp only
  split
  · rw [dossier_record, dossier_applyNumeric]
  · rw [dossier_record, dossier_applyFields, dossier_applyNumeric]

/-- A command changes nothing in the dossier but the generation, which it decides if none was known. -/
theorem dossier_applyCommand (rules : Rules) (now : Nat) (c : Command) :
    (s.applyCommand rules now c).1.dossier = (s.latchGeneration c).dossier := by
  unfold applyCommand
  dsimp only
  split
  · rfl
  · split
    · rfl
    · split
      · exact dossier_applyOperation _ _ _ _ _ _
      · rfl

end MotiveState
end RailLayout
