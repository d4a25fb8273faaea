import RailLayout.Proofs.State.Accept
import RailLayout.State.Motive.Script

/-!
What updates do to the profile of an engine or a train that took them. A command leaves the name and the number alone
and is at most remembered (`applyCommand_same`). A report may bring a name and a number, but leaves the address and
what is remembered as they are (`alike_applyReport`); one that changes nothing leaves the state as it is.
-/

namespace RailLayout

namespace MotiveState

variable {s t r : MotiveState}

/-- What no command changes of an engine or a train, except for what is remembered. -/
def identity (s : MotiveState) : MotiveKind × Profile := (s.kind, s.profile)

/-- Whether a state is of the same kind as another one, is bound to the same address and remembers the same update. -/
structure Alike (s t : MotiveState) : Prop where
  kind : t.kind = s.kind
  address : t.profile.address = s.profile.address
  last : t.profile.last = s.profile.last

namespace Alike

theorem refl (s : MotiveState) : Alike s s := ⟨rfl, rfl, rfl⟩

theorem trans (hst : Alike s t) (htr : Alike t r) : Alike s r :=
  ⟨htr.kind.trans hst.kind, htr.address.trans hst.address, htr.last.trans hst.last⟩

end Alike

/-! ## Commands -/

@[simp] theorem identity_latchGeneration (s : MotiveState) (c : Command) :
    (s.latchGeneration c).identity = s.identity := by
  unfold latchGeneration
  split <;> rfl

@[simp] theorem identity_applyNumeric (op : EngineOp) (data : Option UInt16) (effects : TriggerSet)
    (s : MotiveState) : (s.applyNumeric op data effects).identity = s.identity := by
  unfold applyNumeric
  repeat' split
  all_goals rfl

@[simp] theorem identity_applyDirection (generation : Generation) (op : EngineOp) (effects : TriggerSet)
    (s : MotiveState) : (s.applyDirection generation op effects).identity = s.identity := by
  unfold applyDirection
  repeat' split
  all_goals rfl

@[simp] theorem identity_applyTrainBrake (op : EngineOp) (data : Option UInt16) (effects : TriggerSet)
    (s : MotiveState) : (s.applyTrainBrake op data effects).identity = s.identity := by
  unfold applyTrainBrake
  repeat' split
  all_goals rfl

@[simp] theorem identity_applySmoke (effects : TriggerSet) (s : MotiveState) :
    (s.applySmoke effects).identity = s.identity := by
  unfold applySmoke
  split <;> rfl

@[simp] theorem identity_applyPress (window now : Nat) (op : EngineOp) (s : MotiveState) :
    (s.applyPress window now op).identity = s.identity := by
  unfold applyPress
  repeat' split
  all_goals rfl

theorem identity_applyOutput (s : MotiveState) (t : Trigger) : (s.applyOutput t).identity = s.identity := by
  unfold applyOutput
  repeat' split
  all_goals rfl

@[simp] theorem identity_applyOutputs (effects : TriggerSet) (s : MotiveState) :
    (s.applyOutputs effects).identity = s.identity := by
  unfold applyOutputs
  induction effects generalizing s with
  | nil => rfl
  | cons t rest ih => rw [List.foldl_cons, ih, identity_applyOutput]

@[simp] theorem identity_applyRpm (op : EngineOp) (data : Option UInt16) (effects : TriggerSet)
    (s : MotiveState) : (s.applyRpm op data effects).identity = s.identity := by
  unfold applyRpm
  repeat' split
  all_goals rfl

@[simp] theorem identity_applyLabor (op : EngineOp) (data : Option UInt16) (effects : TriggerSet)
    (s : MotiveState) : (s.applyLabor op data effects).identity = s.identity := by
  unfold applyLabor
  repeat' split
  all_goals rfl

@[simp] theorem identity_applySpeed (op : EngineOp) (data : Option UInt16) (effects : TriggerSet)
    (s : MotiveState) : (s.applySpeed op data effects).identity = s.identity := by
  unfold applySpeed
  repeat' split
  all_goals rfl

@[simp] theorem identity_applyMomentum (op : EngineOp) (data : Option UInt16) (s : MotiveState) :
    (s.applyMomentum op data).identity = s.identity := by
  unfold applyMomentum
  split <;> rfl

@[simp] theorem identity_applyStart (effects : TriggerSet) (s : MotiveState) :
    (s.applyStart effects).identity = s.identity := by
  unfold applyStart
  repeat' split
  all_goals rfl

@[simp] theorem identity_applyFields (window now : Nat) (generation : Generation) (op : EngineOp)
    (data : Option UInt16) (effects : TriggerSet) (s : MotiveState) :
    (s.applyFields window now generation op data effects).identity = s.identity := by
  simp only [applyFields, identity_applyDirection, identity_applyTrainBrake, identity_applySmoke, identity_applyPress,
    identity_applyOutputs, identity_applyRpm, identity_applyLabor, identity_applySpeed, identity_applyMomentum,
    identity_applyStart]

theorem applyOperation_same (rules : Rules) (now : Nat) (c : Command) (generation : Generation) (op : EngineOp)
    (s : MotiveState) :
    (s.applyOperation rules now c generation op).1.kind = s.kind ∧
      (s.applyOperation rules now c generation op).1.profile = s.profile.record (.command c) now := by
  have hnumeric := identity_applyNumeric op c.data (Effects.ofCommand rules.graph c) s
  unfold applyOperation
  dsimp only
  generalize s.applyNumeric op c.data (Effects.ofCommand rules.graph c) = numbered at hnumeric ⊢
  split
  · exact ⟨congrArg Prod.fst hnumeric, congrArg (·.2.record (.command c) now) hnumeric⟩
  · have hfields := (identity_applyFields rules.settings.auxPulseWindow now generation op c.data
      (Effects.ofCommand rules.graph c) numbered).trans hnumeric
    exact ⟨congrArg Prod.fst hfields, congrArg (·.2.record (.command c) now) hfields⟩

/-- A command is remembered or leaves the profile as it is. -/
theorem applyCommand_same (rules : Rules) (now : Nat) (c : Command) (s : MotiveState) :
    (s.applyCommand rules now c).1.kind = s.kind ∧
      ((s.applyCommand rules now c).1.profile = s.profile ∨
        (s.applyCommand rules now c).1.profile = s.profile.record (.command c) now) := by
  have hlatched := identity_latchGeneration s c
  unfold applyCommand
  dsimp only
  generalize s.latchGeneration c = latched at hlatched ⊢
  have hkind : latched.kind = s.kind := congrArg Prod.fst hlatched
  have hprofile : latched.profile = s.profile := congrArg Prod.snd hlatched
  split
  · exact ⟨hkind, Or.inl hprofile⟩
  · split
    · exact ⟨hkind, Or.inr (congrArg (·.record (.command c) now) hprofile)⟩
    · split
      · rename_i generation op _
        obtain ⟨hsame, hrecord⟩ := applyOperation_same rules now c generation op latched
        exact ⟨hsame.trans hkind, Or.inr (by rw [hrecord, hprofile])⟩
      · exact ⟨hkind, Or.inl hprofile⟩

/-! ## Reports -/

theorem alike_applyRecordFields (m : RecordMessage) (r : MotiveRecord) (s : MotiveState) :
    Alike s (s.applyRecordFields m r) := by
  unfold applyRecordFields
  dsimp only
  split <;> exact ⟨rfl, rfl, rfl⟩

theorem alike_applyConsist (kind : MotiveKind) (r : MotiveRecord) (s : MotiveState) :
    Alike s (s.applyConsist kind r) := by
  cases kind <;> exact ⟨rfl, rfl, rfl⟩

theorem alike_applyMemoryField (s : MotiveState) (entry : MemoryField × MemoryValue) :
    Alike s (s.applyMemoryField entry) := by
  unfold applyMemoryField
  split <;> exact ⟨rfl, rfl, rfl⟩

theorem alike_foldl_applyMemoryField (fields : List (MemoryField × MemoryValue)) (s : MotiveState) :
    Alike s (fields.foldl applyMemoryField s) := by
  induction fields generalizing s with
  | nil => exact .refl s
  | cons entry rest ih => exact (alike_applyMemoryField s entry).trans (ih _)

theorem alike_applyReport (m : Message) (s : MotiveState) : Alike s (s.applyReport m).1 := by
  unfold applyReport
  split
  · unfold applyRecord
    split
    · exact .refl s
    · split
      · exact (alike_applyRecordFields _ _ s).trans (alike_applyConsist _ _ _)
      · exact .refl s
  · exact ⟨rfl, rfl, rfl⟩
  · exact alike_foldl_applyMemoryField _ s
  · split <;> exact ⟨rfl, rfl, rfl⟩
  · exact .refl s

/-- A report that changes nothing leaves the state as it is. -/
theorem applyReport_eq_of_unchanged {m : Message} (h : (s.applyReport m).2 = false) : (s.applyReport m).1 = s := by
  revert h
  unfold applyReport
  split
  · unfold applyRecord
    split
    · exact fun _ => rfl
    · split
      · intro h
        cases h
      · exact fun _ => rfl
  · intro h
    cases h
  · rename_i r
    intro h
    simp only [applyMemory, Bool.not_eq_false', List.isEmpty_iff] at h ⊢
    rw [h]
    rfl
  · split
    · intro h
      cases h
    · exact fun _ => rfl
  · exact fun _ => rfl

/-- A message is remembered together with what it changed, or leaves the state as it is. -/
theorem applyMessage_cases (now : Nat) (m : Message) (s : MotiveState) :
    s.applyMessage now m = ((s.applyReport m).1.record (.message m) now, true) ∨ s.applyMessage now m = (s, false) := by
  unfold applyMessage
  split
  · rename_i heq
    rw [heq]
    exact Or.inl rfl
  · rename_i heq
    have hsame := applyReport_eq_of_unchanged (congrArg Prod.snd heq)
    rw [heq] at hsame
    exact Or.inr (congrArg (·, false) hsame)

theorem alike_applySighting (sighting : Sighting) (s : MotiveState) :
    Alike s (s.applySighting sighting).1 := by
  unfold applySighting
  split
  · exact .refl s
  · exact ⟨rfl, rfl, rfl⟩

/-! ## Updates that were accepted -/

theorem update_command {q : Profile} {c : Command} (h : s.profile.accept s.kind.scope (.command c) = .ok q)
    (rules : Rules) (now : Nat) :
    s.update rules now (.command c) =
      ⟨(({ s with profile := q } : MotiveState).applyCommand rules now c).1,
        .ok (({ s with profile := q } : MotiveState).applyCommand rules now c).2⟩ := by
  simp only [update, h]

theorem update_message {q : Profile} {m : Message} (h : s.profile.accept s.kind.scope (.message m) = .ok q)
    (rules : Rules) (now : Nat) :
    s.update rules now (.message m) =
      ⟨(({ s with profile := q } : MotiveState).applyMessage now m).1,
        .ok (({ s with profile := q } : MotiveState).applyMessage now m).2⟩ := by
  simp only [update, h]

/-- A road number changes only with a message that is taken and changes something. -/
theorem roadNumber_update {u : Update} {rules : Rules} {now : Nat}
    (h : (∃ c, u = .command c) ∨ (s.update rules now u).verdict ≠ .ok true) :
    (s.update rules now u).state.profile.roadNumber = s.profile.roadNumber := by
  cases haccept : s.profile.accept s.kind.scope u with
  | error e => rw [update, haccept]
  | ok q =>
      have hnumber : q.roadNumber = s.profile.roadNumber := by rw [Profile.accept_eq haccept]
      cases u with
      | command c =>
          rw [update_command haccept]
          rcases (applyCommand_same rules now c { s with profile := q }).2 with hsame | hsame <;>
            exact (congrArg Profile.roadNumber hsame).trans hnumber
      | message m =>
          rw [update_message haccept] at h ⊢
          rcases applyMessage_cases now m { s with profile := q } with hchanged | hsame
          · rw [hchanged] at h
            rcases h with ⟨c, hc⟩ | h
            · cases hc
            · exact absurd rfl h
          · rw [hsame]
            exact hnumber

end MotiveState
end RailLayout
