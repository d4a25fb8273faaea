import RailLayout.Proofs.Command.TriggerSet
import RailLayout.Proofs.State.Motive.Profile

/-!
The two spellings of a command. An operation that is only a spelling of another one with a data value has, under the
stock graph, the same effects as the spelled command, except that this one's operation without data is not among them.
No field looks for that (`Effects.readAlike_insert`), and a field that looks at the command itself finds the data value
among the effects of the spelling. So each part of a command does the same in both spellings, and an engine or a train
ends up the same but for the command it remembers (`MotiveState.spelled_alike`).
-/

namespace RailLayout

namespace TriggerSet

variable {t : Trigger} {set : TriggerSet} {α : Type}

theorem insert_cases (t : Trigger) (set : TriggerSet) :
    (∃ first rest, set = first ++ rest ∧ insert t set = first ++ t :: rest) ∨ insert t set = set := by
  induction set with
  | nil => exact Or.inl ⟨[], [], rfl, rfl⟩
  | cons u rest ih =>
      unfold insert
      split
      · exact Or.inl ⟨[], u :: rest, rfl, rfl⟩
      · split
        · exact Or.inr rfl
        · rcases ih with ⟨first, last, hset, hinsert⟩ | hsame
          · exact Or.inl ⟨u :: first, last, congrArg (u :: ·) hset, congrArg (u :: ·) hinsert⟩
          · exact Or.inr (congrArg (u :: ·) hsame)

theorem findSome?_insert {f : Trigger → Option α} (h : f t = none) : (insert t set).findSome? f = set.findSome? f := by
  rcases insert_cases t set with ⟨first, rest, rfl, hinsert⟩ | hsame
  · rw [hinsert, List.findSome?_append, List.findSome?_append, List.findSome?_cons, h]
  · rw [hsame]

theorem any_insert {f : Trigger → Bool} (h : f t = false) : (insert t set).any f = set.any f := by
  rcases insert_cases t set with ⟨first, rest, rfl, hinsert⟩ | hsame
  · rw [hinsert, List.any_append, List.any_append, List.any_cons, h, Bool.false_or]
  · rw [hsame]

theorem foldl_insert {f : α → Trigger → α} (h : ∀ a, f a t = a) (a : α) :
    (insert t set).foldl f a = set.foldl f a := by
  rcases insert_cases t set with ⟨first, rest, rfl, hinsert⟩ | hsame
  · rw [hinsert, List.foldl_append, List.foldl_append, List.foldl_cons, h]
  · rw [hsame]

end TriggerSet

namespace EngineOp

/-- The operations that have a data value with a spelling of its own. -/
def valued : List EngineOp := [.numeric, .engineLabor, .absoluteSpeed]

/-- The operations that some field looks for in the command itself. -/
def watched : List EngineOp :=
  valued ++ [.forwardDirection, .reverseDirection, .toggleDirection, .trainBrake, .aux1OptionOne, .aux2OptionOne,
    .dieselRpm, .rpmUp, .momentumLow, .momentumMedium, .momentumHigh, .momentum]

end EngineOp

namespace Effects

open EngineOp

variable {effects other : TriggerSet} {spelling op : EngineOp} {d : UInt16}

/-! ## What fields read -/

/-- Whether all fields find the same among two sets of effects. -/
structure ReadAlike (effects other : TriggerSet) : Prop where
  data (op : EngineOp) : data? other op = data? effects op
  has {op : EngineOp} (h : op ∉ valued) : Effects.has other op = Effects.has effects op
  smoke : other.findSome? SmokeLevel.ofTrigger? = effects.findSome? SmokeLevel.ofTrigger?
  outputs (s : MotiveState) : s.applyOutputs other = s.applyOutputs effects
  isStart : other.any isStart = effects.any isStart
  isShutdown : other.any isShutdown = effects.any isShutdown

/-- A valued operation without data is not looked for. -/
theorem readAlike_insert (hop : op ∈ valued) (generation : Generation) (effects : TriggerSet) :
    ReadAlike effects (TriggerSet.insert ⟨.engine generation op, none⟩ effects) where
  data other := TriggerSet.findSome?_insert rfl
  has {other} hother := by
    refine TriggerSet.any_insert (beq_false_of_ne ?_)
    rintro rfl
    exact hother hop
  smoke := by
    refine TriggerSet.findSome?_insert ?_
    simp only [valued, List.mem_cons, List.not_mem_nil, or_false] at hop
    rcases hop with rfl | rfl | rfl <;> cases generation <;> rfl
  outputs s := by
    refine TriggerSet.foldl_insert (fun s => ?_) s
    simp only [valued, List.mem_cons, List.not_mem_nil, or_false] at hop
    rcases hop with rfl | rfl | rfl <;> rfl
  isStart := by
    refine TriggerSet.any_insert ?_
    simp only [valued, List.mem_cons, List.not_mem_nil, or_false] at hop
    rcases hop with rfl | rfl | rfl <;> cases generation <;> rfl
  isShutdown := by
    refine TriggerSet.any_insert ?_
    simp only [valued, List.mem_cons, List.not_mem_nil, or_false] at hop
    rcases hop with rfl | rfl | rfl <;> cases generation <;> rfl

/-- Whether an operation with some effects spells a valued operation, with its data value and other effects. -/
structure Spells (spelling : EngineOp) (effects : TriggerSet) (op : EngineOp) (d : UInt16) (other : TriggerSet) :
    Prop where
  unwatched : spelling ∉ watched
  valued : op ∈ valued
  data : data? effects op = some d
  alike : ReadAlike effects other

/-- What a field for the data of an operation finds: the data of the command itself, or of the first effect that has
some. -/
def found? (field op : EngineOp) (data : Option UInt16) (effects : TriggerSet) : Option (Option UInt16) :=
  if op = field then some data else (data? effects field).map some

namespace Spells

variable (h : Spells spelling effects op d other)
include h

theorem spelling_ne {op' : EngineOp} (hwatched : op' ∈ watched) : spelling ≠ op' := by
  rintro rfl
  exact h.unwatched hwatched

theorem op_ne {op' : EngineOp} (hother : op' ∉ EngineOp.valued) : op ≠ op' := by
  rintro rfl
  exact hother h.valued

theorem found?_eq {field : EngineOp} (hwatched : field ∈ watched) :
    found? field op (some d) other = found? field spelling none effects := by
  unfold found?
  rw [if_neg (h.spelling_ne hwatched)]
  split
  · rename_i hfield
    rw [← hfield, h.data, Option.map_some]
  · rw [h.alike.data]

end Spells
end Effects

namespace MotiveState

open EngineOp Effects

variable {spelling op : EngineOp} {d : UInt16} {effects other : TriggerSet} {data : Option UInt16}

/-! ## The parts of a command -/

theorem applyNumeric_found (op : EngineOp) (data : Option UInt16) (effects : TriggerSet) (s : MotiveState) :
    s.applyNumeric op data effects =
      ((found? .numeric op data effects).map fun found => { s with numeric := found }).getD s := by
  unfold applyNumeric found?
  split
  · rfl
  · cases data? effects .numeric <;> rfl

theorem applyTrainBrake_found (op : EngineOp) (data : Option UInt16) (effects : TriggerSet) (s : MotiveState) :
    s.applyTrainBrake op data effects =
      ((found? .trainBrake op data effects).map fun found => { s with trainBrake := found.map clampByte }).getD s := by
  unfold applyTrainBrake found?
  split
  · rfl
  · cases data? effects .trainBrake <;> rfl

theorem applyLabor_found (op : EngineOp) (data : Option UInt16) (effects : TriggerSet) (s : MotiveState) :
    s.applyLabor op data effects =
      ((found? .engineLabor op data effects).map fun found => { s with labor := found.map clampByte }).getD s := by
  unfold applyLabor found?
  split
  · rfl
  · cases data? effects .engineLabor <;> rfl

theorem applySpeed_found (op : EngineOp) (data : Option UInt16) (effects : TriggerSet) (s : MotiveState) :
    s.applySpeed op data effects =
      ((found? .absoluteSpeed op data effects).map fun found => { s with speed := found }).getD
        (if has effects .stopImmediate then { s with speed := some 0 } else s) := by
  unfold applySpeed found?
  split
  · rfl
  · cases data? effects .absoluteSpeed <;> rfl

theorem applyMomentum_of_ne (hlow : op ≠ .momentumLow) (hmedium : op ≠ .momentumMedium) (hhigh : op ≠ .momentumHigh)
    (hdata : op ≠ .momentum) (data : Option UInt16) (s : MotiveState) : s.applyMomentum op data = s := by
  unfold applyMomentum
  split <;> first | rfl | contradiction

section Spells

variable (h : Spells spelling effects op d other) (s : MotiveState)
include h

theorem applyNumeric_spelled : s.applyNumeric op (some d) other = s.applyNumeric spelling none effects := by
  rw [applyNumeric_found, applyNumeric_found, h.found?_eq (by decide)]

theorem applyDirection_spelled (generation : Generation) :
    s.applyDirection generation op other = s.applyDirection generation spelling effects := by
  have hturn : ¬(spelling = .forwardDirection ∨ spelling = .reverseDirection) :=
    not_or.mpr ⟨h.spelling_ne (by decide), h.spelling_ne (by decide)⟩
  have hturn' : ¬(op = .forwardDirection ∨ op = .reverseDirection) :=
    not_or.mpr ⟨h.op_ne (by decide), h.op_ne (by decide)⟩
  unfold applyDirection
  rw [if_neg hturn, if_neg hturn', if_neg (h.spelling_ne (by decide)), if_neg (h.op_ne (by decide)),
    h.alike.has (by decide), h.alike.has (by decide)]

theorem applyTrainBrake_spelled : s.applyTrainBrake op (some d) other = s.applyTrainBrake spelling none effects := by
  rw [applyTrainBrake_found, applyTrainBrake_found, h.found?_eq (by decide)]

theorem applySmoke_spelled : s.applySmoke other = s.applySmoke effects := by
  rw [applySmoke, h.alike.smoke, ← applySmoke]

theorem applyPress_spelled (window now : Nat) : s.applyPress window now op = s.applyPress window now spelling := by
  unfold applyPress
  rw [if_neg (h.spelling_ne (by decide)), if_neg (h.spelling_ne (by decide)), if_neg (h.op_ne (by decide)),
    if_neg (h.op_ne (by decide))]

theorem applyRpm_spelled : s.applyRpm op (some d) other = s.applyRpm spelling none effects := by
  unfold applyRpm
  rw [if_neg (h.spelling_ne (by decide)), if_neg (h.spelling_ne (by decide)), if_neg (h.op_ne (by decide)),
    if_neg (h.op_ne (by decide)), h.alike.has (by decide), h.alike.has (by decide), h.alike.data]

theorem applyLabor_spelled : s.applyLabor op (some d) other = s.applyLabor spelling none effects := by
  rw [applyLabor_found, applyLabor_found, h.found?_eq (by decide)]

theorem applySpeed_spelled : s.applySpeed op (some d) other = s.applySpeed spelling none effects := by
  rw [applySpeed_found, applySpeed_found, h.found?_eq (by decide), h.alike.has (by decide)]

theorem applyMomentum_spelled : s.applyMomentum op (some d) = s.applyMomentum spelling none := by
  rw [applyMomentum_of_ne (h.op_ne (by decide)) (h.op_ne (by decide)) (h.op_ne (by decide)) (h.op_ne (by decide)),
    applyMomentum_of_ne (h.spelling_ne (by decide)) (h.spelling_ne (by decide)) (h.spelling_ne (by decide))
      (h.spelling_ne (by decide))]

theorem applyStart_spelled : s.applyStart other = s.applyStart effects := by
  rw [applyStart, h.alike.isStart, h.alike.isShutdown, ← applyStart]

theorem applyFields_spelled (window now : Nat) (generation : Generation) :
    s.applyFields window now generation op (some d) other =
      s.applyFields window now generation spelling none effects := by
  unfold applyFields
  dsimp only
  rw [applyDirection_spelled h, applyTrainBrake_spelled h, applySmoke_spelled h, applyPress_spelled h, h.alike.outputs,
    applyRpm_spelled h, applyLabor_spelled h, applySpeed_spelled h, applyMomentum_spelled h, applyStart_spelled h]

theorem keepsDirection_spelled : s.keepsDirection op = s.keepsDirection spelling := by
  have hspelling : (spelling == .forwardDirection || spelling == .reverseDirection) = false :=
    Bool.or_eq_false_iff.mpr ⟨beq_false_of_ne (h.spelling_ne (by decide)), beq_false_of_ne (h.spelling_ne (by decide))⟩
  have hop : (op == .forwardDirection || op == .reverseDirection) = false :=
    Bool.or_eq_false_iff.mpr ⟨beq_false_of_ne (h.op_ne (by decide)), beq_false_of_ne (h.op_ne (by decide))⟩
  rw [keepsDirection, keepsDirection, hspelling, hop, Bool.false_and, Bool.false_and]

end Spells

/-! ## The stock graph -/

/-- Whether an entry of the table spells a valued operation of an engine in its own generation, and is no halt, and the
effects of the spelled command are those of the spelling and its operation without data. -/
def spellsValue (entry : Operation × Trigger) : Bool :=
  match entry with
  | (.engine generation spelling, ⟨.engine generation' op, some d⟩) =>
    let effects := ofCommand .stock ⟨.engine generation spelling, 0, none, .engine⟩
    generation' == generation && decide (spelling ∉ watched) && decide (op ∈ valued) &&
      !(Update.command ⟨.engine generation spelling, 0, none, .engine⟩).isHalt && data? effects op == some d &&
        ofCommand .stock ⟨.engine generation op, 0, some d, .engine⟩ ==
          TriggerSet.insert ⟨.engine generation op, none⟩ effects
  | _ => false

theorem spells_of_mem {entry : Operation × Trigger} (h : entry ∈ aliases) (address : UInt16) (scope : Scope) :
    ∃ generation spelling op d, entry = (.engine generation spelling, ⟨.engine generation op, some d⟩) ∧
      (Update.command ⟨.engine generation spelling, address, none, scope⟩).isHalt = false ∧
        Spells spelling (ofCommand .stock ⟨.engine generation spelling, address, none, scope⟩) op d
          (ofCommand .stock ⟨.engine generation op, address, some d, scope⟩) := by
  have hall : ∀ entry ∈ aliases, spellsValue entry = true := by decide +kernel
  have hentry := hall entry h
  unfold spellsValue at hentry
  split at hentry
  · rename_i generation spelling generation' op d
    simp only [Bool.and_eq_true, beq_iff_eq, decide_eq_true_eq, Bool.not_eq_true'] at hentry
    obtain ⟨⟨⟨⟨⟨rfl, hunwatched⟩, hvalued⟩, hhalt⟩, hdata⟩, heffects⟩ := hentry
    refine ⟨generation', spelling, op, d, rfl, hhalt, hunwatched, hvalued, hdata, ?_⟩
    have hinsert := readAlike_insert hvalued generation'
      (ofCommand .stock ⟨.engine generation' spelling, address, none, scope⟩)
    exact heffects ▸ hinsert
  · cases hentry

/-! ## The whole command -/

/-- Whether two states differ at most in the update that they remember, and remember it of the same time. -/
def AlikeButTold (s other : MotiveState) : Prop :=
  { s with profile := { s.profile with last := other.profile.last } } = other ∧
    s.profile.last.map Prod.snd = other.profile.last.map Prod.snd

theorem AlikeButTold.refl (s : MotiveState) : AlikeButTold s s := ⟨rfl, rfl⟩

theorem alikeButTold_record (s : MotiveState) (u v : Update) (now : Nat) :
    AlikeButTold (s.record u now) (s.record v now) := ⟨rfl, rfl⟩

theorem applyOperation_spelled (rules : Rules) (c c' : Command)
    (h : Spells spelling (ofCommand rules.graph c) op d (ofCommand rules.graph c')) (hdata : c.data = none)
    (hdata' : c'.data = some d) (now : Nat) (generation : Generation) (s : MotiveState) :
    AlikeButTold (s.applyOperation rules now c generation spelling).1 (s.applyOperation rules now c' generation op).1 ∧
      (s.applyOperation rules now c' generation op).2 = (s.applyOperation rules now c generation spelling).2 := by
  unfold applyOperation
  dsimp only
  rw [hdata, hdata', applyNumeric_spelled h, keepsDirection_spelled h]
  split
  · exact ⟨alikeButTold_record _ _ _ _, rfl⟩
  · rw [applyFields_spelled h]
    exact ⟨alikeButTold_record _ _ _ _, rfl⟩

/-- An operation of an engine that is no halt and repeats nothing is applied once the generation is decided. -/
theorem applyCommand_of_heard {rules : Rules} {now : Nat} {c : Command} {generation : Generation}
    (hhalt : (Update.command c).isHalt = false) (hoperation : c.operation = .engine generation op) {s : MotiveState}
    (hnew : s.profile.repeats c rules.settings.duplicateWindow now = false) :
    s.applyCommand rules now c = (s.latchGeneration c).applyOperation rules now c generation op := by
  have hlatched : (s.latchGeneration c).profile = s.profile := congrArg Prod.snd (identity_latchGeneration s c)
  simp only [applyCommand, hlatched, hnew, hhalt, hoperation, Bool.false_eq_true, if_false]

/-- Take any operation that is only a spelling, under the stock graph and any settings, any engine or train, any time
and address. If neither spelling repeats the last update within the window, the engine or train answers alike to the
operation and to what it spells, be it that it refuses both, and is the same afterwards but for the update that it
remembers. -/
theorem spelled_alike (settings : Settings) (now : Nat) (s : MotiveState) {entry : Operation × Trigger}
    (hentry : entry ∈ aliases) (address : UInt16) (scope : Scope) :
    let rules : Rules := ⟨.stock, settings⟩
    let spelling : Command := ⟨entry.1, address, none, scope⟩
    let spelled : Command := ⟨entry.2.operation, address, entry.2.data, scope⟩
    s.profile.repeats spelling settings.duplicateWindow now = false →
      s.profile.repeats spelled settings.duplicateWindow now = false →
        let after := s.update rules now (.command spelling)
        let after' := s.update rules now (.command spelled)
        after'.verdict = after.verdict ∧ AlikeButTold after.state after'.state := by
  intro rules spelling spelled hnew hnew'
  dsimp only
  obtain ⟨generation, op, op', d, rfl, hhalt, hspells⟩ := spells_of_mem hentry address scope
  have hhalt' : (Update.command spelled).isHalt = false := by
    have hvalued := hspells.valued
    simp only [valued, List.mem_cons, List.not_mem_nil, or_false] at hvalued
    rcases hvalued with rfl | rfl | rfl <;> rfl
  have hsame : s.profile.accept s.kind.scope (.command spelled) =
      s.profile.accept s.kind.scope (.command spelling) := Profile.accept_congr rfl (hhalt'.trans hhalt.symm)
  cases haccept : s.profile.accept s.kind.scope (.command spelling) with
  | error e =>
      rw [haccept] at hsame
      unfold update
      rw [haccept, hsame]
      exact ⟨rfl, .refl s⟩
  | ok q =>
      rw [haccept] at hsame
      have hlast : q.last = s.profile.last := by rw [Profile.accept_eq haccept]
      have hlatched : ∀ s : MotiveState, s.latchGeneration spelled = s.latchGeneration spelling := by
        intro s
        unfold latchGeneration
        rw [hhalt, hhalt']
        rfl
      have hrepeats : ∀ c, q.repeats c settings.duplicateWindow now =
          s.profile.repeats c settings.duplicateWindow now := fun c => by rw [Profile.repeats, hlast, ← Profile.repeats]
      rw [← hrepeats] at hnew hnew'
      rw [update_command haccept, update_command hsame, applyCommand_of_heard hhalt rfl hnew,
        applyCommand_of_heard hhalt' rfl hnew', hlatched]
      have happlied := applyOperation_spelled rules spelling spelled hspells rfl rfl now generation
        (({ s with profile := q } : MotiveState).latchGeneration spelling)
      exact ⟨congrArg Except.ok happlied.2, happlied.1⟩

/-- An engine is reset while it backs at speed 30, by its operation or by the number that this spells: it stops, faces
forward, has started, and shows the number, and one state is the other with another command remembered. -/
theorem spelled_alike_reset :
    let rules : Rules := ⟨.stock, .standard⟩
    let engine : MotiveState :=
      { fresh .engine (.fresh (some 12)) with
        speed := some 30, direction := some .reverseDirection, directionFrom := some .legacy }
    let reset : Command := ⟨.engine .legacy .reset, 12, none, .engine⟩
    let zero : Command := ⟨.engine .legacy .numeric, 12, some 0, .engine⟩
    let after := (engine.update rules 7 (.command reset)).state
    let after' := (engine.update rules 7 (.command zero)).state
    engine.profile.repeats reset 1000 7 = false ∧ engine.profile.repeats zero 1000 7 = false ∧
      AlikeButTold after after' ∧ (engine.update rules 7 (.command zero)).verdict = .ok true ∧
        (after'.speed, after'.isForward, after'.started, after'.numeric) = (some 0, true, some true, some 0) ∧
          (after.profile.last, after'.profile.last) = (some (.command reset, 7), some (.command zero, 7)) := by
  intro rules engine reset zero after after'
  obtain ⟨hverdict, halike⟩ := spelled_alike .standard 7 engine
    (show (.engine .legacy .reset, ⟨.engine .legacy .numeric, some 0⟩) ∈ aliases by decide) 12 .engine rfl rfl
  refine ⟨rfl, rfl, halike, hverdict.trans ?_, by decide +kernel, by decide +kernel⟩
  decide +kernel

end MotiveState
end RailLayout
