import RailLayout.Proofs.State.Motive.Coherent
import RailLayout.Proofs.State.Motive.Effects

/-!
How an engine or a train moves: its speed, engine speed, labor, momentum and train brake, as far as they are known.
Under the stock graph, and with commands whose data is in the documented ranges, the speed stays below 256 and
momentum and train brake stay at most seven, whatever else is reported (`steady_run`).
-/

namespace RailLayout

/-- The values of a motion, as far as they are known. -/
structure Motion where
  speed : Option UInt16
  rpm : Option UInt8
  labor : Option UInt8
  momentum : Option UInt8
  trainBrake : Option UInt8
  deriving DecidableEq

/-- Whether the data of an update, if it is a command, is in the documented range of its operation. -/
def Update.inRange : Update → Bool
  | command c => c.inRange
  | message _ => true

namespace Scale

theorem le_seven_of_min (n : Nat) : (min 7 n).toUInt8 ≤ 7 := by
  have hbyte : (min 7 n).toUInt8.toNat = min 7 n := by
    rw [Nat.toUInt8, UInt8.toNat_ofNat']
    omega
  rw [UInt8.le_iff_toNat_le, hbyte]
  exact Nat.min_le_left 7 n

theorem brakeFromRecord_le (raw : UInt8) : brakeFromRecord raw ≤ 7 := le_seven_of_min _

theorem momentumFromRecord_le (raw : UInt8) : momentumFromRecord raw ≤ 7 := le_seven_of_min _

end Scale

theorem toUInt16_le (b : UInt8) : b.toUInt16 ≤ 255 := by
  have hbyte : b.toNat < 256 := b.toNat_lt
  rw [UInt16.le_iff_toNat_le, UInt8.toNat_toUInt16]
  exact Nat.le_of_lt_succ hbyte

theorem clampByte_le {w : UInt16} {bound : UInt8} (h : w ≤ bound.toUInt16) : clampByte w ≤ bound := by
  have hw : w ≤ 255 := UInt16.le_trans h (toUInt16_le bound)
  rw [UInt16.le_iff_toNat_le, UInt8.toNat_toUInt16] at h
  rw [clampByte, if_pos hw, UInt8.le_iff_toNat_le, UInt16.toNat_toUInt8]
  exact Nat.le_trans (Nat.mod_le _ _) h

theorem toUInt16_clampByte {w : UInt16} (h : w ≤ 255) : (clampByte w).toUInt16 = w := by
  rw [clampByte, if_pos h]
  rw [UInt16.le_iff_toNat_le] at h
  rw [← UInt16.toNat_inj, UInt8.toNat_toUInt16, UInt16.toNat_toUInt8]
  exact Nat.mod_eq_of_lt (Nat.lt_succ_of_le h)

namespace MotiveState

def motion (s : MotiveState) : Motion := ⟨s.speed, s.rpm, s.labor, s.momentum, s.trainBrake⟩

/-- The known values that a record has room for at most. -/
structure Steady (s : MotiveState) : Prop where
  speed : ∀ {v}, s.speed = some v → v ≤ 255
  momentum : ∀ {v}, s.momentum = some v → v ≤ 7
  trainBrake : ∀ {v}, s.trainBrake = some v → v ≤ 7

theorem steady_fresh (kind : MotiveKind) (profile : Profile) : Steady (fresh kind profile) where
  speed h := by cases h
  momentum h := by cases h
  trainBrake h := by cases h

namespace Steady

variable {s : MotiveState}

/-! ## Commands -/

theorem latchGeneration (h : Steady s) (c : Command) : Steady (s.latchGeneration c) := by
  unfold MotiveState.latchGeneration
  split
  all_goals exact { h with }

theorem halt (h : Steady s) : Steady s.halt := by
  refine { h with speed := ?_ }
  intro v hset
  cases hset
  decide

theorem applyNumeric (h : Steady s) (op : EngineOp) (data : Option UInt16) (effects : TriggerSet) :
    Steady (s.applyNumeric op data effects) := by
  unfold MotiveState.applyNumeric
  repeat' split
  all_goals exact { h with }

theorem applyDirection (h : Steady s) (generation : Generation) (op : EngineOp) (effects : TriggerSet) :
    Steady (s.applyDirection generation op effects) := by
  unfold MotiveState.applyDirection
  repeat' split
  all_goals exact { h with }

theorem applySmoke (h : Steady s) (effects : TriggerSet) : Steady (s.applySmoke effects) := by
  unfold MotiveState.applySmoke
  split
  all_goals exact { h with }

theorem applyPress (h : Steady s) (window now : Nat) (op : EngineOp) : Steady (s.applyPress window now op) := by
  unfold MotiveState.applyPress
  repeat' split
  all_goals exact { h with }

theorem applyOutput (h : Steady s) (t : Trigger) : Steady (s.applyOutput t) := by
  unfold MotiveState.applyOutput
  repeat' split
  all_goals exact { h with }

theorem applyOutputs (h : Steady s) (effects : TriggerSet) : Steady (s.applyOutputs effects) := by
  unfold MotiveState.applyOutputs
  induction effects generalizing s with
  | nil => exact h
  | cons t rest ih => exact ih (h.applyOutput t)

theorem applyRpm (h : Steady s) (op : EngineOp) (data : Option UInt16) (effects : TriggerSet) :
    Steady (s.applyRpm op data effects) := by
  unfold MotiveState.applyRpm
  repeat' split
  all_goals exact { h with }

theorem applyLabor (h : Steady s) (op : EngineOp) (data : Option UInt16) (effects : TriggerSet) :
    Steady (s.applyLabor op data effects) := by
  unfold MotiveState.applyLabor
  repeat' split
  all_goals exact { h with }

theorem applyStart (h : Steady s) (effects : TriggerSet) : Steady (s.applyStart effects) := by
  unfold MotiveState.applyStart
  repeat' split
  all_goals exact { h with }

/-- Whether the data of an operation is in the documented range. -/
def InRange (op : EngineOp) (data : Option UInt16) : Prop :=
  ∀ greatest d, op.greatest? = some greatest → data = some d → d ≤ greatest

theorem inRange_of_command {c : Command} (hc : c.inRange = true) {generation : Generation} {op : EngineOp}
    (hoperation : c.operation = .engine generation op) : InRange op c.data := by
  intro greatest d hop hd
  simpa only [Command.inRange, Command.dataTrigger?, hd, hoperation, Option.map_some, Option.all_some,
    Trigger.inRange, hop, decide_eq_true_eq] using hc

section Ranges

variable {op : EngineOp} {data : Option UInt16} {effects : TriggerSet}

theorem applyTrainBrake (h : Steady s) (hdata : InRange op data)
    (heffects : ∀ t ∈ effects, t.inRange = true) : Steady (s.applyTrainBrake op data effects) := by
  unfold MotiveState.applyTrainBrake
  split
  · rename_i hop
    refine { h with trainBrake := fun hv => ?_ }
    obtain ⟨d, hd, rfl⟩ := Option.map_eq_some_iff.mp hv
    exact clampByte_le (hdata _ _ (by rw [hop]; rfl) hd)
  · split
    · rename_i b hb
      refine { h with trainBrake := ?_ }
      intro v hset
      cases hset
      exact clampByte_le (Effects.data?_le heffects rfl hb)
    · exact h

theorem applySpeed (h : Steady s) (hdata : InRange op data)
    (heffects : ∀ t ∈ effects, t.inRange = true) : Steady (s.applySpeed op data effects) := by
  unfold MotiveState.applySpeed
  split
  · rename_i hop
    exact { h with speed := fun hv => hdata _ _ (by rw [hop]; rfl) hv }
  · split
    · rename_i v hv
      refine { h with speed := ?_ }
      intro v hset
      cases hset
      exact Effects.data?_le heffects rfl hv
    · split
      · refine { h with speed := ?_ }
        intro v hset
        cases hset
        decide
      · exact h

theorem applyMomentum (h : Steady s) (hdata : InRange op data) :
    Steady (s.applyMomentum op data) := by
  cases op
  case momentum =>
    refine { h with momentum := fun hv => ?_ }
    obtain ⟨d, hd, rfl⟩ := Option.map_eq_some_iff.mp hv
    exact clampByte_le (hdata _ _ rfl hd)
  case momentumLow | momentumMedium | momentumHigh =>
    refine { h with momentum := ?_ }
    intro v hset
    cases hset
    decide
  all_goals exact h

end Ranges

theorem applyFields (h : Steady s) {c : Command} (hc : c.inRange = true) {generation : Generation} {op : EngineOp}
    (hoperation : c.operation = .engine generation op) (window now : Nat) :
    Steady (s.applyFields window now generation op c.data (Effects.ofCommand .stock c)) := by
  have hdata := inRange_of_command hc hoperation
  have heffects : ∀ t ∈ Effects.ofCommand .stock c, t.inRange = true := fun t ht => Effects.inRange_of_mem hc ht
  have hbrake := (h.applyDirection generation op (Effects.ofCommand .stock c)).applyTrainBrake
    hdata heffects
  have hpress := (hbrake.applySmoke (Effects.ofCommand .stock c)).applyPress window now op
  have hlabor := ((hpress.applyOutputs (Effects.ofCommand .stock c)).applyRpm op c.data
    (Effects.ofCommand .stock c)).applyLabor op c.data (Effects.ofCommand .stock c)
  have hspeed := hlabor.applySpeed hdata heffects
  have hmomentum := hspeed.applyMomentum hdata
  exact hmomentum.applyStart (Effects.ofCommand .stock c)

/-! ## Messages -/

theorem applyRecordFields (h : Steady s) (m : RecordMessage) (r : MotiveRecord) :
    Steady (s.applyRecordFields m r) := by
  have hspeed : ∀ {field : Option UInt8} {v}, (field.map UInt8.toUInt16).or s.speed = some v → v ≤ 255 := by
    intro field v hv
    rcases Option.or_eq_some_iff.mp hv with hv | ⟨-, hv⟩
    · obtain ⟨b, -, rfl⟩ := Option.map_eq_some_iff.mp hv
      exact toUInt16_le b
    · exact h.speed hv
  have hbrake : ∀ {field : Option UInt8} {v}, (field.map Scale.brakeFromRecord).or s.trainBrake = some v → v ≤ 7 := by
    intro field v hv
    rcases Option.or_eq_some_iff.mp hv with hv | ⟨-, hv⟩
    · obtain ⟨b, -, rfl⟩ := Option.map_eq_some_iff.mp hv
      exact Scale.brakeFromRecord_le b
    · exact h.trainBrake hv
  have hmomentum :
      ∀ {field : Option UInt8} {v}, (field.map Scale.momentumFromRecord).or s.momentum = some v → v ≤ 7 := by
    intro field v hv
    rcases Option.or_eq_some_iff.mp hv with hv | ⟨-, hv⟩
    · obtain ⟨b, -, rfl⟩ := Option.map_eq_some_iff.mp hv
      exact Scale.momentumFromRecord_le b
    · exact h.momentum hv
  unfold MotiveState.applyRecordFields
  dsimp only
  split
  all_goals exact ⟨hspeed, hmomentum, hbrake⟩

theorem applyConsist (h : Steady s) (described : MotiveKind) (r : MotiveRecord) :
    Steady (s.applyConsist described r) := by
  cases described with
  | engine => exact h
  | train => exact { h with }

theorem applyMemoryField (h : Steady s) (entry : MemoryField × MemoryValue) : Steady (s.applyMemoryField entry) := by
  unfold MotiveState.applyMemoryField
  split
  case h_1 v =>
    refine { h with speed := ?_ }
    intro v hset
    cases hset
    exact toUInt16_le v
  case h_2 v =>
    refine { h with trainBrake := ?_ }
    intro v hset
    cases hset
    exact Scale.brakeFromRecord_le v
  case h_4 v =>
    refine { h with momentum := ?_ }
    intro v hset
    cases hset
    exact Scale.momentumFromRecord_le v
  all_goals exact { h with }

end Steady

theorem stable_steady (settings : Settings) :
    Stable ⟨.stock, settings⟩ (fun c => c.inRange = true) Steady where
  profile h _ := { h with }
  latchGeneration h := h.latchGeneration
  halt h := h.halt
  applyNumeric h := h.applyNumeric
  applyFields h _ hc _ _ hoperation now := h.applyFields hc hoperation settings.auxPulseWindow now
  applyRecordFields h := h.applyRecordFields
  applyConsist h := h.applyConsist
  applyMemoryField h := h.applyMemoryField
  speed h v := by
    refine { h with speed := ?_ }
    intro w hset
    cases hset
    exact toUInt16_le v
  fourDigitRecord h _ := { h with }

/-- Under the stock graph every engine and every train is steady after every run with commands in range. -/
theorem steady_run (settings : Settings) (kind : MotiveKind) (profile : Profile) {updates : List (Nat × Update)}
    (hrange : ∀ u ∈ updates, u.2.inRange = true) :
    Steady ((fresh kind profile).run ⟨.stock, settings⟩ updates) := by
  refine (stable_steady settings).run (steady_fresh kind profile) fun u hu c hc => ?_
  have hin := hrange u hu
  rw [hc] at hin
  exact hin

end MotiveState
end RailLayout
