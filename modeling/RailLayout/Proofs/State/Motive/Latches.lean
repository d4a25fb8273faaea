import RailLayout.Proofs.State.Motive.Dossier
import RailLayout.Proofs.State.Motive.Held
import RailLayout.Proofs.State.Motive.Profile

/-!
What commands latch in an engine or a train: whether it is started, its direction and its auxiliary outputs. No report
changes any of it (`latches_applyReport`). An operation that a state can be held by sets what it stands for and leaves
the rest alone, except that an option-one key may switch its own output as well (`latches_update_held`).
-/

namespace RailLayout

namespace MotiveState

/-- What commands latch, and where the record is of a four-digit address, which no command changes. -/
structure Latches where
  started : Option Bool
  direction : Option EngineOp
  aux : Option EngineOp
  aux1 : Option EngineOp
  aux2 : Option EngineOp
  fourDigitRecord : Option UInt16
  deriving DecidableEq

def latches (s : MotiveState) : Latches :=
  ⟨s.started, s.direction, s.aux, s.aux1, s.aux2, s.fourDigitRecord⟩

/-! ## Parts of a command -/

section Parts

variable (s : MotiveState) (op : EngineOp) (data : Option UInt16) (effects : TriggerSet)

@[simp] theorem latches_record (u : Update) (now : Nat) : (s.record u now).latches = s.latches := rfl

@[simp] theorem latches_latchGeneration (c : Command) : (s.latchGeneration c).latches = s.latches := by
  unfold latchGeneration
  split <;> rfl

@[simp] theorem latches_applyNumeric : (s.applyNumeric op data effects).latches = s.latches := by
  unfold applyNumeric
  repeat' split
  all_goals rfl

@[simp] theorem latches_applyTrainBrake : (s.applyTrainBrake op data effects).latches = s.latches := by
  unfold applyTrainBrake
  repeat' split
  all_goals rfl

@[simp] theorem latches_applySmoke : (s.applySmoke effects).latches = s.latches := by
  unfold applySmoke
  split <;> rfl

@[simp] theorem latches_applyRpm : (s.applyRpm op data effects).latches = s.latches := by
  unfold applyRpm
  repeat' split
  all_goals rfl

@[simp] theorem latches_applyLabor : (s.applyLabor op data effects).latches = s.latches := by
  unfold applyLabor
  repeat' split
  all_goals rfl

@[simp] theorem latches_applySpeed : (s.applySpeed op data effects).latches = s.latches := by
  unfold applySpeed
  repeat' split
  all_goals rfl

@[simp] theorem latches_applyMomentum : (s.applyMomentum op data).latches = s.latches := by
  unfold applyMomentum
  split <;> rfl

/-- A press sets the key pressed last, and at most the output of this key. -/
theorem latches_applyPress (window now : Nat) :
    ∃ aux1 aux2, (s.applyPress window now op).latches =
        { s.latches with
          aux := if op.slot? = some 3 then some op else s.aux
          aux1 := aux1
          aux2 := aux2 } ∧
      (op ≠ .aux1OptionOne → aux1 = s.aux1) ∧ (op ≠ .aux2OptionOne → aux2 = s.aux2) := by
  unfold applyPress
  split
  · rename_i hop
    subst hop
    exact ⟨_, s.aux2, rfl, fun hne => absurd rfl hne, fun _ => rfl⟩
  · split
    · rename_i hop
      subst hop
      exact ⟨s.aux1, _, rfl, fun _ => rfl, fun hne => absurd rfl hne⟩
    · rename_i hfirst hsecond
      have hslot : op.slot? ≠ some 3 := by
        cases op
        case aux1OptionOne => exact absurd rfl hfirst
        case aux2OptionOne => exact absurd rfl hsecond
        all_goals decide
      rw [if_neg hslot]
      exact ⟨s.aux1, s.aux2, rfl, fun _ => rfl, fun _ => rfl⟩

end Parts

/-! ## Reports -/

theorem latches_applyRecord (m : RecordMessage) (s : MotiveState) : (s.applyRecord m).1.latches = s.latches := by
  have hfields (r : MotiveRecord) : (s.applyRecordFields m r).latches = s.latches := by
    unfold applyRecordFields
    dsimp only
    split <;> rfl
  unfold applyRecord
  split
  · rfl
  · split
    · rename_i kind _ r _
      cases kind <;> exact hfields r
    · rfl

theorem latches_applyMemory (m : MemoryMessage) (s : MotiveState) : (s.applyMemory m).1.latches = s.latches := by
  have hfield (t : MotiveState) (entry : MemoryField × MemoryValue) : (t.applyMemoryField entry).latches = t.latches := by
    unfold applyMemoryField
    split <;> rfl
  unfold applyMemory
  dsimp only
  generalize m.fields = fields
  induction fields generalizing s with
  | nil => rfl
  | cons entry rest ih => rw [List.foldl_cons, ih, hfield]

/-- A report latches nothing; at most it tells where the record of a four-digit address is. -/
theorem latches_applyReport (m : Message) (s : MotiveState) :
    (s.applyReport m).1.latches = s.latches ∨
      ∃ r postAction id, m = .fourDigit r ∧ r.lookup = .map postAction id ∧
        (s.applyReport m).1.latches = { s.latches with fourDigitRecord := some r.recordNo } := by
  unfold applyReport
  split
  · exact Or.inl (latches_applyRecord _ s)
  · exact Or.inl rfl
  · exact Or.inl (latches_applyMemory _ s)
  · rename_i r
    split
    · rename_i postAction id hmap
      exact Or.inr ⟨r, postAction, id, rfl, hmap, rfl⟩
    · exact Or.inl rfl
  · exact Or.inl rfl

theorem latches_applyMessage (now : Nat) (m : Message) (s : MotiveState) :
    (s.applyMessage now m).1.latches = s.latches ∨
      ∃ r postAction id, m = .fourDigit r ∧ r.lookup = .map postAction id ∧
        (s.applyMessage now m).1.latches = { s.latches with fourDigitRecord := some r.recordNo } := by
  rcases applyMessage_cases now m s with hchanged | hsame
  · rw [hchanged]
    exact latches_applyReport m s
  · rw [hsame]
    exact Or.inl rfl

/-! ## Where the record of a four-digit address is -/

theorem fourDigitRecord_applyCommand (rules : Rules) (now : Nat) (c : Command) (s : MotiveState) :
    (s.applyCommand rules now c).1.fourDigitRecord = s.fourDigitRecord :=
  (congrArg fourDigitRecord (dossier_applyCommand s rules now c)).trans
    (congrArg Latches.fourDigitRecord (latches_latchGeneration s c))

/-- Whether the record of a four-digit address is not said to be where nothing was found. -/
def Located (s : MotiveState) : Prop := s.fourDigitRecord ≠ some FourDigitMessage.notFound

theorem located_update {s : MotiveState} (h : Located s) (rules : Rules) (now : Nat) (u : Update) :
    Located (s.update rules now u).state := by
  cases haccept : s.profile.accept s.kind.scope u with
  | error cause =>
      simp only [update, haccept]
      exact h
  | ok q =>
      cases u with
      | command c =>
          rw [update_command haccept, Located, fourDigitRecord_applyCommand]
          exact h
      | message m =>
          rw [update_message haccept, Located]
          rcases latches_applyMessage now m { s with profile := q } with hsame | ⟨r, postAction, id, rfl, hmap, hset⟩
          · rw [show (applyMessage now m { s with profile := q }).1.fourDigitRecord = s.fourDigitRecord from
              congrArg Latches.fourDigitRecord hsame]
            exact h
          · -- The answer that nothing was found is for no engine or train, so it was not accepted.
            rw [show (applyMessage now (.fourDigit r) { s with profile := q }).1.fourDigitRecord = some r.recordNo from
              congrArg Latches.fourDigitRecord hset]
            obtain ⟨received, address, htarget, -⟩ := Profile.of_accept haccept
            have htarget : Update.fourDigitTarget? r = some (received, address) := htarget
            intro hlost
            rw [Update.fourDigitTarget?, hmap] at htarget
            simp only [FourDigitMessage.isNotFound, hmap, Option.some.inj hlost, beq_self_eq_true, if_true] at htarget
            cases htarget

theorem located_run (rules : Rules) (kind : MotiveKind) (p : Profile) (updates : List (Nat × Update)) :
    Located ((fresh kind p).run rules updates) := by
  have hfresh : Located (fresh kind p) := by
    intro h
    cases h
  generalize fresh kind p = s at hfresh
  induction updates generalizing s with
  | nil => exact hfresh
  | cons u rest ih => exact ih _ (located_update hfresh rules u.1 u.2)

/-! ## Operations that a state can be held by -/

theorem latches_applyOutputs_held (generation : Generation) (op : EngineOp) (s : MotiveState) :
    (s.applyOutputs (Effects.held generation op)).latches =
      { s.latches with
        aux1 := if op.slot? = some 4 then some op else s.latches.aux1
        aux2 := if op.slot? = some 5 then some op else s.latches.aux2 } := by
  cases generation <;> cases op <;> rfl

section Held

variable {op : EngineOp} (hop : op.slot?.isSome = true) (generation : Generation) (s : MotiveState)
include hop

theorem latches_applyDirection_held :
    (s.applyDirection generation op (Effects.held generation op)).latches =
      { s.latches with direction := if op.slot? = some 2 then some op else s.latches.direction } := by
  cases generation <;> cases op <;> first | rfl | cases hop

theorem latches_applyStart_held :
    (s.applyStart (Effects.held generation op)).latches =
      { s.latches with
        started := if op.slot? = some 0 then some (op == .startUpImmediate) else s.latches.started } := by
  cases generation <;> cases op <;> first | rfl | cases hop

end Held

/-- What the command for such an operation does: the operation is latched in its place, and nothing else is, except
that an option-one key can switch its output. -/
theorem latches_update_held {s : MotiveState} {generation : Generation} {address : UInt16} {op : EngineOp}
    (hop : op.slot?.isSome = true) (hbound : s.profile.address = some address)
    (hready : Ready s (holding generation s.kind address) op) (settings : Settings) (now : Nat) :
    ∃ aux1 aux2,
      (s.update ⟨.stock, settings⟩ now (.command (holding generation s.kind address op))).state.latches =
          { started := if op.slot? = some 0 then some (op == .startUpImmediate) else s.started
            direction := if op.slot? = some 2 then some op else s.direction
            aux := if op.slot? = some 3 then some op else s.aux
            aux1 := if op.slot? = some 4 then some op else aux1
            aux2 := if op.slot? = some 5 then some op else aux2
            fourDigitRecord := s.fourDigitRecord } ∧
        (op ≠ .aux1OptionOne → aux1 = s.aux1) ∧ (op ≠ .aux2OptionOne → aux2 = s.aux2) := by
  rw [update_held hop hbound hready settings now]
  dsimp only
  have hnumbered := (latches_applyNumeric (s.latchGeneration (holding generation s.kind address op)) op none
    (Effects.held generation op)).trans (latches_latchGeneration s _)
  generalize (s.latchGeneration (holding generation s.kind address op)).applyNumeric op none
    (Effects.held generation op) = numbered at hnumbered ⊢
  have hturned := latches_applyDirection_held hop generation numbered
  unfold applyFields
  dsimp only
  have hsmoked := (latches_applySmoke ((numbered.applyDirection generation op (Effects.held generation op)).applyTrainBrake
    op none (Effects.held generation op)) (Effects.held generation op)).trans (latches_applyTrainBrake _ op none _)
  rw [hturned, hnumbered] at hsmoked
  generalize ((numbered.applyDirection generation op (Effects.held generation op)).applyTrainBrake op none
    (Effects.held generation op)).applySmoke (Effects.held generation op) = smoked at hsmoked ⊢
  obtain ⟨aux1, aux2, hpressed, haux1, haux2⟩ := latches_applyPress smoked op settings.auxPulseWindow now
  refine ⟨aux1, aux2, ?_, fun hne => ?_, fun hne => ?_⟩
  · rw [latches_record, latches_applyStart_held hop, latches_applyMomentum, latches_applySpeed, latches_applyLabor,
      latches_applyRpm, latches_applyOutputs_held, hpressed, hsmoked,
      show smoked.aux = s.aux from congrArg Latches.aux hsmoked]
    rfl
  · rw [haux1 hne]
    exact congrArg Latches.aux1 hsmoked
  · rw [haux2 hne]
    exact congrArg Latches.aux2 hsmoked

end MotiveState
end RailLayout
