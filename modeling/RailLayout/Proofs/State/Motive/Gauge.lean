import Mathlib.Data.List.Induction
import RailLayout.Proofs.State.Motive.Held
import RailLayout.Proofs.State.Motive.Spelled
import RailLayout.Proofs.State.Run

/-!
The gauges of an engine or a train and their documented ranges. Memory, halts and steps up or down keep a gauge in its
range. A command's data and a record's run level and labor are taken as they come; so a gauge leaves its range exactly
with a command or a record that asks for a value out of it (`Component.gauge_in_range_iff`), and never if commands
and records keep to the documented ranges.
-/

namespace RailLayout

/-- What an engine or a train shows in a documented range. -/
inductive Gauge where
  | rpm
  | labor
  | momentum
  | trainBrake
  deriving DecidableEq

namespace Gauge

open MotiveState

/-- The greatest value that is documented. -/
def greatest : Gauge → UInt8
  | rpm => 7
  | labor => 31
  | momentum => 7
  | trainBrake => 7

def value : Gauge → MotiveState → Option UInt8
  | rpm, s => s.rpm
  | labor, s => s.labor
  | momentum, s => s.momentum
  | trainBrake, s => s.trainBrake

/-- Whether a gauge shows a value in its range, if any. -/
def InRange (g : Gauge) (s : MotiveState) : Prop := ∀ v, g.value s = some v → v ≤ g.greatest

/-! ## What is asked for -/

/-- The operation whose data a gauge takes. -/
def op : Gauge → EngineOp
  | rpm => .dieselRpm
  | labor => .engineLabor
  | momentum => .momentum
  | trainBrake => .trainBrake

/-- The data that an operation has for a gauge, its own or that of an effect. Effects do not move the momentum, and the
engine speed goes a step up or down if it is asked to. -/
def asked? (g : Gauge) (op : EngineOp) (data : Option UInt16) (effects : TriggerSet) : Option UInt16 :=
  match g with
  | rpm =>
    if op ≠ .dieselRpm ∧ (op = .rpmUp ∨ Effects.has effects .rpmDown = true) then none
    else (Effects.found? .dieselRpm op data effects).join
  | labor => (Effects.found? .engineLabor op data effects).join
  | momentum => if op = .momentum then data else none
  | trainBrake => (Effects.found? .trainBrake op data effects).join

/-- The field of a record that a gauge takes. -/
def field : Gauge → RecordField
  | rpm => .runLevel
  | labor => .laborBias
  | momentum => .momentum
  | trainBrake => .trainBrake

/-- The value of a record for a gauge, on the gauge's scale. -/
def scaled? (g : Gauge) (r : MotiveRecord) : Option UInt8 :=
  match g with
  | rpm => r.runLevel
  | labor => r.laborBias.map Scale.laborFromRecord
  | momentum => r.momentum.map Scale.momentumFromRecord
  | trainBrake => r.trainBrake.map Scale.brakeFromRecord

/-- The value that a record tells a gauge, if the record says anything and marks the field. -/
def recorded? (g : Gauge) (m : RecordMessage) : Option UInt8 :=
  if m.status ≠ 0 ∨ m.isActive = false then none
  else match m.contents with
    | .motive _ _ r => if m.has g.field then g.scaled? r else none
    | _ => none

end Gauge

namespace MotiveState

/-- The operation that an engine or a train goes by when it takes a command. It drops a repetition and an operation that
asks for the direction that is set, and a halt is no operation. -/
def obeyed? (rules : Rules) (now : Nat) (c : Command) (s : MotiveState) : Option EngineOp :=
  if s.profile.repeats c rules.settings.duplicateWindow now = true ∨ (Update.command c).isHalt = true then none
  else match c.operation with
    | .engine _ op => if s.keepsDirection op then none else some op
    | _ => none

end MotiveState

namespace Gauge

open MotiveState

/-- The value that an update asks a gauge to take, if it asks for one outright. -/
def asks? (g : Gauge) (rules : Rules) (now : Nat) (u : Update) (s : MotiveState) : Option Nat :=
  match u with
  | .command c =>
    (s.obeyed? rules now c).bind fun op =>
      (g.asked? op c.data (Effects.ofCommand rules.graph c)).map UInt16.toNat
  | .message (.record m) => (g.recorded? m).map UInt8.toNat
  | .message _ => none

/-- Whether an engine or a train takes an update that asks for a value out of the gauge's range. -/
def Overshoots (g : Gauge) (rules : Rules) (now : Nat) (u : Update) (s : MotiveState) : Prop :=
  (∃ q, s.profile.accept s.kind.scope u = .ok q) ∧ ∃ n, g.asks? rules now u s = some n ∧ g.greatest.toNat < n

variable {g h : Gauge} {s t : MotiveState} {op : EngineOp} {data : Option UInt16} {effects : TriggerSet}

/-! ## One operation -/

/-- What an operation does to a gauge. -/
def apply (g : Gauge) (op : EngineOp) (data : Option UInt16) (effects : TriggerSet) (s : MotiveState) : MotiveState :=
  match g with
  | rpm => s.applyRpm op data effects
  | labor => s.applyLabor op data effects
  | momentum => s.applyMomentum op data
  | trainBrake => s.applyTrainBrake op data effects

theorem value_of_core (hcore : t.core = s.core) : g.value t = g.value s := by
  cases g with
  | rpm => exact congrArg (·.motion.rpm) hcore
  | labor => exact congrArg (·.motion.labor) hcore
  | momentum => exact congrArg (·.motion.momentum) hcore
  | trainBrake => exact congrArg (·.motion.trainBrake) hcore

theorem value_applyDirection (generation : Generation) (op : EngineOp) (effects : TriggerSet) (s : MotiveState) :
    g.value (s.applyDirection generation op effects) = g.value s := by
  unfold applyDirection
  repeat' split
  all_goals cases g <;> rfl

theorem value_applySpeed (op : EngineOp) (data : Option UInt16) (effects : TriggerSet) (s : MotiveState) :
    g.value (s.applySpeed op data effects) = g.value s := by
  unfold applySpeed
  repeat' split
  all_goals cases g <;> rfl

/-- What is done to one gauge leaves the others alone. -/
theorem value_apply_of_ne (hne : g ≠ h) : g.value (h.apply op data effects s) = g.value s := by
  cases h with
  | rpm =>
      show g.value (s.applyRpm op data effects) = g.value s
      unfold applyRpm
      repeat' split
      all_goals cases g <;> first | exact absurd rfl hne | rfl
  | labor =>
      show g.value (s.applyLabor op data effects) = g.value s
      unfold applyLabor
      repeat' split
      all_goals cases g <;> first | exact absurd rfl hne | rfl
  | momentum =>
      show g.value (s.applyMomentum op data) = g.value s
      unfold applyMomentum
      repeat' split
      all_goals cases g <;> first | exact absurd rfl hne | rfl
  | trainBrake =>
      show g.value (s.applyTrainBrake op data effects) = g.value s
      unfold applyTrainBrake
      repeat' split
      all_goals cases g <;> first | exact absurd rfl hne | rfl

theorem inRange_congr (hvalue : g.value t = g.value s) : g.InRange t ↔ g.InRange s := by
  rw [InRange, InRange, hvalue]

/-- Among all that an operation does, a gauge meets only what is done to itself. -/
theorem exists_value_applyFields (g : Gauge) (window now : Nat) (generation : Generation) (op : EngineOp)
    (data : Option UInt16) (effects : TriggerSet) (s : MotiveState) :
    ∃ t, g.value t = g.value s ∧
      g.value (s.applyFields window now generation op data effects) = g.value (g.apply op data effects t) := by
  let turned := s.applyDirection generation op effects
  let braked := trainBrake.apply op data effects turned
  let switched := ((braked.applySmoke effects).applyPress window now op).applyOutputs effects
  let revved := rpm.apply op data effects switched
  let loaded := labor.apply op data effects revved
  let moved := loaded.applySpeed op data effects
  have hturned : g.value turned = g.value s := value_applyDirection generation op effects s
  have hswitched : g.value switched = g.value braked :=
    value_of_core ((core_applyOutputs _ _).trans ((core_applyPress _ _ _ _).trans (core_applySmoke _ _)))
  have hmoved : g.value moved = g.value loaded := value_applySpeed op data effects loaded
  have hlast : g.value (s.applyFields window now generation op data effects) =
      g.value (momentum.apply op data effects moved) := value_of_core (core_applyStart _ _)
  cases g with
  | trainBrake =>
      refine ⟨turned, hturned, ?_⟩
      rw [hlast, value_apply_of_ne (by decide), hmoved, value_apply_of_ne (by decide), value_apply_of_ne (by decide),
        hswitched]
  | rpm =>
      refine ⟨switched, ?_, ?_⟩
      · rw [hswitched, value_apply_of_ne (by decide), hturned]
      · rw [hlast, value_apply_of_ne (by decide), hmoved, value_apply_of_ne (by decide)]
  | labor =>
      refine ⟨revved, ?_, ?_⟩
      · rw [value_apply_of_ne (by decide), hswitched, value_apply_of_ne (by decide), hturned]
      · rw [hlast, value_apply_of_ne (by decide), hmoved]
  | momentum =>
      refine ⟨moved, ?_, hlast⟩
      rw [hmoved, value_apply_of_ne (by decide), value_apply_of_ne (by decide), hswitched,
        value_apply_of_ne (by decide), hturned]

theorem clampByte_le_greatest_iff (g : Gauge) (d : UInt16) : clampByte d ≤ g.greatest ↔ d.toNat ≤ g.greatest.toNat := by
  have hbound : g.greatest.toNat < 255 := by cases g <;> decide
  have hword : d ≤ 255 ↔ d.toNat ≤ 255 := UInt16.le_iff_toNat_le
  rw [clampByte, UInt8.le_iff_toNat_le]
  by_cases hd : d ≤ 255
  · have hsmall := hword.mp hd
    rw [if_pos hd, UInt16.toNat_toUInt8, Nat.mod_eq_of_lt (by omega)]
  · have hlarge := mt hword.mpr hd
    rw [if_neg hd]
    show 255 ≤ _ ↔ _
    omega

/-- A gauge that takes data as it comes is in its range exactly if the data is. -/
theorem inRange_taken_iff (found : Option (Option UInt16)) (hrange : g.InRange s)
    (hvalue : g.value t = (found.map (Option.map clampByte)).getD (g.value s)) :
    g.InRange t ↔ ∀ d, found.join = some d → d.toNat ≤ g.greatest.toNat := by
  rw [InRange, hvalue]
  cases found with
  | none => exact iff_of_true hrange nofun
  | some data =>
      cases data with
      | none => exact iff_of_true nofun nofun
      | some d =>
          constructor
          · rintro h e ⟨⟩
            exact (g.clampByte_le_greatest_iff d).mp (h _ rfl)
          · rintro h v ⟨⟩
            exact (g.clampByte_le_greatest_iff d).mpr (h d rfl)

theorem stepUp_le (r : UInt8) : (if r < 7 then r + 1 else 7) ≤ 7 := by
  split <;> grind

theorem stepDown_le {r : UInt8} (h : r ≤ 7) : (if r = 0 then 0 else r - 1) ≤ 7 := by
  split <;> grind

theorem inRange_applyRpm_iff (hrange : rpm.InRange s) :
    rpm.InRange (s.applyRpm op data effects) ↔
      ∀ d, rpm.asked? op data effects = some d → d.toNat ≤ rpm.greatest.toNat := by
  by_cases hown : op = .dieselRpm
  · have hasked : rpm.asked? op data effects = (some data).join := by
      simp only [asked?, Effects.found?, hown, ne_eq, not_true_eq_false, false_and, if_false, if_true]
    rw [hasked]
    refine inRange_taken_iff _ hrange ?_
    simp only [applyRpm, if_pos hown]
    rfl
  by_cases hup : op = .rpmUp
  · have hasked : rpm.asked? op data effects = none := if_pos ⟨hown, .inl hup⟩
    rw [hasked, applyRpm, if_neg hown, if_pos hup]
    refine iff_of_true ?_ nofun
    rintro v ⟨⟩
    cases s.rpm with
    | none => decide
    | some r => exact stepUp_le r
  by_cases hdown : Effects.has effects .rpmDown = true
  · have hasked : rpm.asked? op data effects = none := if_pos ⟨hown, .inr hdown⟩
    rw [hasked, applyRpm, if_neg hown, if_neg hup, if_pos hdown]
    refine iff_of_true ?_ nofun
    rintro v ⟨⟩
    cases hshown : s.rpm with
    | none => decide
    | some r => exact stepDown_le (hrange r hshown)
  · have hasked : rpm.asked? op data effects = ((Effects.data? effects .dieselRpm).map some).join := by
      rw [asked?, if_neg fun h => h.2.elim hup hdown, Effects.found?, if_neg hown]
    rw [hasked, applyRpm, if_neg hown, if_neg hup, if_neg hdown]
    cases hdata : Effects.data? effects .dieselRpm with
    | some r => exact inRange_taken_iff (some (some r)) hrange rfl
    | none =>
        refine iff_of_true ?_ nofun
        dsimp only
        split
        · rintro v ⟨⟩
          decide
        · exact hrange

theorem inRange_applyMomentum_iff (effects : TriggerSet) (hrange : momentum.InRange s) :
    momentum.InRange (s.applyMomentum op data) ↔
      ∀ d, momentum.asked? op data effects = some d → d.toNat ≤ momentum.greatest.toNat := by
  cases op with
  | momentum => exact inRange_taken_iff (t := s.applyMomentum .momentum data) (some data) hrange rfl
  | momentumLow | momentumMedium | momentumHigh =>
      refine iff_of_true ?_ nofun
      rintro v ⟨⟩
      decide
  | _ => exact iff_of_true hrange nofun

theorem inRange_apply_iff (hrange : g.InRange s) :
    g.InRange (g.apply op data effects s) ↔ ∀ d, g.asked? op data effects = some d → d.toNat ≤ g.greatest.toNat := by
  cases g with
  | rpm => exact inRange_applyRpm_iff hrange
  | momentum => exact inRange_applyMomentum_iff effects hrange
  | labor =>
      refine inRange_taken_iff _ hrange ?_
      show (s.applyLabor op data effects).labor =
        ((Effects.found? .engineLabor op data effects).map (Option.map clampByte)).getD s.labor
      rw [applyLabor_found]
      cases Effects.found? .engineLabor op data effects <;> rfl
  | trainBrake =>
      refine inRange_taken_iff _ hrange ?_
      show (s.applyTrainBrake op data effects).trainBrake =
        ((Effects.found? .trainBrake op data effects).map (Option.map clampByte)).getD s.trainBrake
      rw [applyTrainBrake_found]
      cases Effects.found? .trainBrake op data effects <;> rfl

/-! ## One update -/

theorem value_withProfile (g : Gauge) (p : Profile) (s : MotiveState) :
    g.value { s with profile := p } = g.value s := by
  cases g <;> rfl

theorem inRange_halt (hrange : g.InRange s) : g.InRange s.halt := by
  cases g with
  | rpm | labor =>
      rintro v ⟨⟩
      decide
  | momentum | trainBrake => exact hrange

theorem inRange_applyCommand_iff (hrange : g.InRange s) (rules : Rules) (now : Nat) (c : Command) :
    g.InRange (s.applyCommand rules now c).1 ↔
      ∀ op, s.obeyed? rules now c = some op →
        ∀ d, g.asked? op c.data (Effects.ofCommand rules.graph c) = some d → d.toNat ≤ g.greatest.toNat := by
  have hcore := core_latchGeneration s c
  have hlatched : g.InRange (s.latchGeneration c) := (inRange_congr (value_of_core hcore)).mpr hrange
  have hprofile : (s.latchGeneration c).profile = s.profile := congrArg Core.profile hcore
  unfold applyCommand obeyed?
  dsimp only
  rw [hprofile]
  by_cases hrepeats : s.profile.repeats c rules.settings.duplicateWindow now = true
  · rw [if_pos hrepeats, if_pos (.inl hrepeats)]
    exact iff_of_true hlatched fun op hop => by cases hop
  by_cases hhalt : (Update.command c).isHalt = true
  · rw [if_neg hrepeats, if_pos hhalt, if_pos (.inr hhalt)]
    exact iff_of_true ((inRange_congr (value_withProfile g _ _)).mpr (inRange_halt hlatched)) fun op hop => by cases hop
  rw [if_neg hrepeats, if_neg hhalt, if_neg (not_or.mpr ⟨hrepeats, hhalt⟩)]
  cases c.operation with
  | engine generation op =>
      have hnumbered := core_applyNumeric (s.latchGeneration c) op c.data (Effects.ofCommand rules.graph c)
      have hkeeps := (keepsDirection_congr hnumbered op).trans (keepsDirection_congr hcore op)
      have hmet := (inRange_congr (value_of_core hnumbered)).mpr hlatched
      simp only [applyOperation, hkeeps]
      by_cases hkept : s.keepsDirection op = true
      · rw [if_pos hkept, if_pos hkept]
        exact iff_of_true ((inRange_congr (value_withProfile g _ _)).mpr hmet) fun other hother => by cases hother
      · rw [if_neg hkept, if_neg hkept]
        refine (inRange_congr (value_withProfile g _ _)).trans ?_
        obtain ⟨t, ht, hfields⟩ := exists_value_applyFields g rules.settings.auxPulseWindow now generation op c.data
          (Effects.ofCommand rules.graph c)
          ((s.latchGeneration c).applyNumeric op c.data (Effects.ofCommand rules.graph c))
        rw [inRange_congr hfields, inRange_apply_iff ((inRange_congr ht).mpr hmet)]
        constructor
        · rintro h _ ⟨⟩
          exact h
        · exact fun h => h op rfl
  | _ => exact iff_of_true hlatched fun op hop => by cases hop

theorem value_applyRecordFields (g : Gauge) (m : RecordMessage) (r : MotiveRecord) (s : MotiveState) :
    g.value (s.applyRecordFields m r) = (if m.has g.field then g.scaled? r else none).or (g.value s) := by
  have hscaled : ∀ (b : Bool) (o : Option UInt8) (f : UInt8 → UInt8),
      (if b then o else none).map f = if b then o.map f else none := by
    intro b o f
    cases b <;> rfl
  unfold applyRecordFields
  dsimp only
  split
  all_goals
    cases g with
    | rpm => rfl
    | labor => exact congrArg (Option.or · _) (hscaled _ _ _)
    | momentum => exact congrArg (Option.or · _) (hscaled _ _ _)
    | trainBrake => exact congrArg (Option.or · _) (hscaled _ _ _)

theorem value_applyRecord (g : Gauge) (m : RecordMessage) (s : MotiveState) :
    g.value (s.applyRecord m).1 = (g.recorded? m).or (g.value s) := by
  unfold applyRecord recorded?
  split
  · rfl
  · cases m.contents with
    | motive kind valid r =>
        refine Eq.trans ?_ (value_applyRecordFields g m r s)
        cases kind <;> cases g <;> rfl
    | _ => rfl

theorem laborFromRecord_shift_le (v : UInt8) : Scale.laborFromRecord (v >>> 3) ≤ 31 := by
  have hraw : v >>> 3 ≤ 31 := by
    have hshift : (v >>> 3).toNat = v.toNat / 8 := Nat.shiftRight_eq_div_pow v.toNat 3
    have hbyte := v.toNat_lt
    rw [UInt8.le_iff_toNat_le, hshift]
    show _ ≤ 31
    omega
  unfold Scale.laborFromRecord
  split <;> grind

theorem inRange_applyMemoryField (hrange : g.InRange s) (entry : MemoryField × MemoryValue) :
    g.InRange (s.applyMemoryField entry) := by
  unfold applyMemoryField
  split
  case h_2 v =>
    cases g with
    | trainBrake =>
        rintro _ ⟨⟩
        exact Scale.brakeFromRecord_le v
    | _ => exact hrange
  case h_3 v =>
    cases g with
    | rpm =>
        rintro _ ⟨⟩
        exact UInt8.and_le_right
    | labor =>
        rintro _ ⟨⟩
        exact laborFromRecord_shift_le v
    | _ => exact hrange
  case h_4 v =>
    cases g with
    | momentum =>
        rintro _ ⟨⟩
        exact Scale.momentumFromRecord_le v
    | _ => exact hrange
  all_goals cases g <;> exact hrange

theorem inRange_applyReport_iff (hrange : g.InRange s) (m : Message) :
    g.InRange (s.applyReport m).1 ↔ ∀ r v, m = .record r → g.recorded? r = some v → v ≤ g.greatest := by
  cases m with
  | record r =>
      rw [InRange]
      show (∀ v, g.value (s.applyRecord r).1 = some v → v ≤ g.greatest) ↔ _
      rw [value_applyRecord]
      cases hrecorded : g.recorded? r with
      | none =>
          refine iff_of_true hrange ?_
          rintro _ v ⟨⟩ hv
          cases hrecorded.symm.trans hv
      | some v =>
          constructor
          · rintro h _ w ⟨⟩ hw
            cases hrecorded.symm.trans hw
            exact h v rfl
          · rintro h w ⟨⟩
            exact h r v rfl hrecorded
  | speed r =>
      refine iff_of_true ?_ fun _ _ h => by cases h
      cases g <;> exact hrange
  | memory r =>
      refine iff_of_true ?_ fun _ _ h => by cases h
      show g.InRange (r.fields.foldl applyMemoryField s)
      generalize r.fields = fields
      induction fields generalizing s with
      | nil => exact hrange
      | cons entry rest ih => exact ih (inRange_applyMemoryField hrange entry)
  | fourDigit r =>
      refine iff_of_true ?_ fun _ _ h => by cases h
      unfold applyReport
      dsimp only
      split
      · cases g <;> exact hrange
      · exact hrange
  | _ => exact iff_of_true hrange fun _ _ h => by cases h

theorem value_applyMessage (g : Gauge) (now : Nat) (m : Message) (s : MotiveState) :
    g.value (s.applyMessage now m).1 = g.value (s.applyReport m).1 := by
  unfold applyMessage
  split
  all_goals
    rename_i heq
    rw [heq]
  · exact value_withProfile g _ _

theorem asks?_command_le_iff (rules : Rules) (now : Nat) (c : Command) :
    (∀ n, g.asks? rules now (.command c) s = some n → n ≤ g.greatest.toNat) ↔
      ∀ op, s.obeyed? rules now c = some op →
        ∀ d, g.asked? op c.data (Effects.ofCommand rules.graph c) = some d → d.toNat ≤ g.greatest.toNat := by
  constructor
  · intro h op hop d hd
    refine h d.toNat ?_
    rw [asks?, hop, Option.bind_some, hd]
    rfl
  · intro h n hn
    obtain ⟨op, hop, hn⟩ := Option.bind_eq_some_iff.mp hn
    obtain ⟨d, hd, rfl⟩ := Option.map_eq_some_iff.mp hn
    exact h op hop d hd

theorem asks?_message_le_iff (rules : Rules) (now : Nat) (m : Message) :
    (∀ n, g.asks? rules now (.message m) s = some n → n ≤ g.greatest.toNat) ↔
      ∀ r v, m = .record r → g.recorded? r = some v → v ≤ g.greatest := by
  constructor
  · rintro h r v rfl hv
    refine UInt8.le_iff_toNat_le.mpr (h v.toNat ?_)
    rw [asks?, hv]
    rfl
  · intro h n hn
    cases m with
    | record r =>
        obtain ⟨v, hv, rfl⟩ := Option.map_eq_some_iff.mp hn
        exact UInt8.le_iff_toNat_le.mp (h r v rfl hv)
    | _ => cases hn

theorem obeyed?_withProfile {q : Profile} (hlast : q.last = s.profile.last) (rules : Rules) (now : Nat) (c : Command) :
    ({ s with profile := q } : MotiveState).obeyed? rules now c = s.obeyed? rules now c := by
  have hrepeats : q.repeats c rules.settings.duplicateWindow now =
      s.profile.repeats c rules.settings.duplicateWindow now := by
    rw [Profile.repeats, hlast, ← Profile.repeats]
  rw [obeyed?, hrepeats]
  rfl

/-- A gauge in its range leaves it exactly with an update that is taken and asks for a value out of the range. -/
theorem inRange_update_iff (hrange : g.InRange s) (rules : Rules) (now : Nat) (u : Update) :
    g.InRange (s.update rules now u).state ↔ ¬g.Overshoots rules now u s := by
  cases haccept : s.profile.accept s.kind.scope u with
  | error e =>
      rw [MotiveState.update, haccept]
      refine iff_of_true hrange ?_
      rintro ⟨⟨q, hq⟩, -⟩
      cases haccept.symm.trans hq
  | ok q =>
      have hlast : q.last = s.profile.last := by rw [Profile.accept_eq haccept]
      have hmet : g.InRange { s with profile := q } := (inRange_congr (value_withProfile g q s)).mpr hrange
      have hover : ¬g.Overshoots rules now u s ↔ ∀ n, g.asks? rules now u s = some n → n ≤ g.greatest.toNat := by
        constructor
        · exact fun h n hn => Nat.le_of_not_lt fun hlt => h ⟨⟨q, haccept⟩, n, hn, hlt⟩
        · rintro h ⟨-, n, hn, hlt⟩
          exact Nat.not_lt_of_le (h n hn) hlt
      rw [hover]
      cases u with
      | command c =>
          rw [update_command haccept, asks?_command_le_iff, ← obeyed?_withProfile hlast]
          exact inRange_applyCommand_iff hmet rules now c
      | message m =>
          rw [update_message haccept, asks?_message_le_iff, inRange_congr (value_applyMessage g now m _)]
          exact inRange_applyReport_iff hmet m

theorem inRange_applySighting (hrange : g.InRange s) (sighting : Sighting) :
    g.InRange (s.applySighting sighting).1 := by
  unfold applySighting
  split
  · exact hrange
  · cases g <;> exact hrange

theorem inRange_fresh (g : Gauge) (kind : MotiveKind) (profile : Profile) : g.InRange (fresh kind profile) := by
  cases g <;> exact nofun

/-! ## Documented ranges -/

/-- Whether an update keeps to the documented ranges: a command under the stock graph whose data is in range, or a
record that does not tell the gauge a value out of its range. -/
def Within (g : Gauge) (rules : Rules) : Update → Prop
  | .command c => rules.graph = .stock ∧ c.inRange = true
  | .message (.record m) => ∀ v, g.recorded? m = some v → v ≤ g.greatest
  | .message _ => True

theorem greatest?_op (g : Gauge) : g.op.greatest? = some g.greatest.toUInt16 := by
  cases g <;> rfl

theorem asked?_le (hdata : Steady.InRange op data) (heffects : ∀ t ∈ effects, t.inRange = true) {d : UInt16}
    (hasked : g.asked? op data effects = some d) : d.toNat ≤ g.greatest.toNat := by
  have hbound : ∀ {d : UInt16}, d ≤ g.greatest.toUInt16 → d.toNat ≤ g.greatest.toNat := fun h => by
    rwa [UInt16.le_iff_toNat_le, UInt8.toNat_toUInt16] at h
  have hfound : (Effects.found? g.op op data effects).join = some d → d.toNat ≤ g.greatest.toNat := by
    intro h
    refine hbound ?_
    unfold Effects.found? at h
    split at h
    · rename_i hop
      exact hdata _ d (hop ▸ g.greatest?_op) h
    · cases hd : Effects.data? effects g.op with
      | none =>
          rw [hd] at h
          cases h
      | some e =>
          rw [hd] at h
          cases h
          exact Effects.data?_le heffects g.greatest?_op hd
  cases g with
  | rpm =>
      simp only [asked?] at hasked
      split at hasked
      · cases hasked
      · exact hfound hasked
  | momentum =>
      simp only [asked?] at hasked
      split at hasked
      · rename_i hop
        exact hbound (hdata _ d (hop ▸ momentum.greatest?_op) hasked)
      · cases hasked
  | labor | trainBrake => exact hfound hasked

theorem not_overshoots_of_within {rules : Rules} {u : Update} (h : g.Within rules u) (now : Nat) (s : MotiveState) :
    ¬g.Overshoots rules now u s := by
  rintro ⟨-, n, hn, hlt⟩
  refine Nat.not_lt_of_le ?_ hlt
  cases u with
  | command c =>
      obtain ⟨hgraph, hc⟩ := h
      refine asks?_command_le_iff rules now c |>.mpr (fun op hop d hd => ?_) n hn
      have hoperation : ∃ generation, c.operation = .engine generation op := by
        unfold obeyed? at hop
        split at hop
        · cases hop
        · cases hoperation : c.operation with
          | engine generation other =>
              rw [hoperation] at hop
              dsimp only at hop
              split at hop
              · cases hop
              · cases hop
                exact ⟨generation, rfl⟩
          | _ =>
              rw [hoperation] at hop
              cases hop
      obtain ⟨generation, hoperation⟩ := hoperation
      rw [hgraph] at hd
      exact asked?_le (Steady.inRange_of_command hc hoperation) (fun t ht => Effects.inRange_of_mem hc ht) hd
  | message m =>
      refine asks?_message_le_iff rules now m |>.mpr (fun r v hr hv => ?_) n hn
      subst hr
      exact h v hv

end Gauge

/-! ## A run -/

/-- Whether a component is an engine or a train that takes an update which asks for a value out of a gauge's range. -/
def Incident.Overshoots (g : Gauge) (c : Component) : Incident → Prop
  | .told rules now u => ∃ s, c = .motive s ∧ g.Overshoots rules now u s
  | .seen _ => False

namespace Component

variable {c : Component} {g : Gauge}

/-- Whether a gauge is in its range, if the component is an engine or a train. -/
def InRange (g : Gauge) (c : Component) : Prop := ∀ s, c = motive s → g.InRange s

theorem inRange_meet_iff (hrange : c.InRange g) (i : Incident) : (c.meet i).InRange g ↔ ¬i.Overshoots g c := by
  by_cases hmotive : c.scope.isMotive = true
  · obtain ⟨s, rfl⟩ := exists_motive hmotive
    have hs := hrange s rfl
    cases i with
    | told rules now u =>
        have hstep := Gauge.inRange_update_iff hs rules now u
        constructor
        · rintro h ⟨_, ⟨⟩, hover⟩
          exact hstep.mp (h _ rfl) hover
        · rintro h _ ⟨⟩
          exact hstep.mpr fun hover => h ⟨s, rfl, hover⟩
    | seen sighting =>
        refine iff_of_true ?_ id
        unfold meet applySighting
        dsimp only
        split
        · rintro _ ⟨⟩
          exact Gauge.inRange_applySighting hs sighting
        · exact hrange
  · refine iff_of_true (fun s hs => ?_) ?_
    · exact absurd (scope_meet c i ▸ hs ▸ isMotive_scope s) hmotive
    · cases i with
      | told rules now u =>
          rintro ⟨s, rfl, -⟩
          exact hmotive (isMotive_scope s)
      | seen sighting => exact id

/-- A gauge stays in its range over a run exactly if nothing on the way overshoots it. -/
theorem inRange_run_iff (hrange : c.InRange g) (history : List Incident) :
    (∀ first, first <+: history → (c.run first).InRange g) ↔
      ∀ first i, first ++ [i] <+: history → ¬i.Overshoots g (c.run first) := by
  have hconcat : ∀ first i, c.run (first ++ [i]) = (c.run first).meet i := fun first i =>
    List.foldl_concat meet c i first
  constructor
  · intro h first i hprefix
    have hmet := h first ((List.prefix_append first [i]).trans hprefix)
    exact (inRange_meet_iff hmet i).mp (hconcat first i ▸ h _ hprefix)
  · intro h first
    induction first using List.reverseRecOn with
    | nil => exact fun _ => hrange
    | append_singleton first i ih =>
        intro hprefix
        rw [hconcat]
        exact (inRange_meet_iff (ih ((List.prefix_append first [i]).trans hprefix)) i).mpr (h first i hprefix)

theorem inRange_of_build {kind : MotiveKind} {start : Option UInt16} (hbuild : build kind.scope start = .ok c)
    (g : Gauge) : c.InRange g := by
  cases kind with
  | engine | train =>
      obtain ⟨profile, -, hbuild⟩ := ok_of_bind hbuild
      cases hbuild
      rintro s ⟨⟩
      exact Gauge.inRange_fresh g _ profile

/-- A gauge of an engine or a train that was just built stays in its documented range, whatever it goes through, exactly
if it takes no update which asks for a value out of the range: a command with such data, its own or an effect's, or a
record with such a run level or labor. None does if commands and records keep to the documented ranges. -/
theorem gauge_in_range_iff {kind : MotiveKind} {start : Option UInt16} (hbuild : build kind.scope start = .ok c)
    (g : Gauge) (history : List Incident) :
    ((∀ first, first <+: history → ∀ s, c.run first = motive s → ∀ v, g.value s = some v → v ≤ g.greatest) ↔
        ∀ first i, first ++ [i] <+: history → ¬i.Overshoots g (c.run first)) ∧
      ((∀ rules now u, .told rules now u ∈ history → g.Within rules u) →
        ∀ s, c.run history = motive s → ∀ v, g.value s = some v → v ≤ g.greatest) := by
  have hrun := inRange_run_iff (inRange_of_build hbuild g) history
  refine ⟨hrun, fun hwithin => hrun.mpr (fun first i hprefix => ?_) history (List.prefix_refl history)⟩
  have hmem : i ∈ history := hprefix.subset (List.mem_append_right first List.mem_cons_self)
  cases i with
  | told rules now u =>
      rintro ⟨s, -, hover⟩
      exact Gauge.not_overshoots_of_within (hwithin rules now u hmem) now s hover
  | seen sighting => exact id

/-- The command that sets the engine speed to eight can be built, and an engine that takes it shows eight. -/
theorem gauge_in_range_iff_rpm :
    ∃ (c : Component) (command : Command),
      build .engine (some 12) = .ok c ∧
        Command.build (.engine .legacy .dieselRpm) 12 (some 8) none = .ok command ∧
        ¬∀ first, first <+: [.told ⟨.stock, .standard⟩ 0 (.command command)] →
          ∀ s, c.run first = motive s → ∀ v, Gauge.rpm.value s = some v → v ≤ Gauge.rpm.greatest := by
  have hbuild : build MotiveKind.engine.scope (some 12) = .ok (.motive (.fresh .engine (.fresh (some 12)))) := rfl
  refine ⟨_, _, hbuild, rfl, fun hrange => ?_⟩
  refine (gauge_in_range_iff hbuild .rpm _).1.mp hrange [] _ (List.prefix_refl _) ⟨_, rfl, ⟨_, rfl⟩, 8, ?_, by decide⟩
  decide +kernel

end Component
end RailLayout
