import RailLayout.Proofs.Command.Graph
import RailLayout.Proofs.State.Accessory.Kept

/-!
Outputs of accessories that no board drives, set by the commands that are sent for one: the last option-one key, which
toggles an output, then the first output's position, then the second one's. Each command is applied with all that it
results in, and leaves the outputs where the last effect puts them that it has (`EffectGraph.leaves?`). So every output
ends where the last command puts it that sets it, and stays where it was if none does
(`AccessoryState.takes_commands`). If the commands leave the outputs where they were sent from, they restore them
(`AccessoryState.Restores`); under the stock graph they always do (`AccessoryState.restores_stock`).
-/

namespace RailLayout

inductive AccessoryOutput where
  | aux1
  | aux2
  deriving DecidableEq

/-- The output that an operation sets. -/
def AccessoryOp.output? : AccessoryOp → Option AccessoryOutput
  | aux1On => some .aux1
  | aux1Off => some .aux1
  | aux1OptTwo => some .aux1
  | aux2On => some .aux2
  | aux2Off => some .aux2
  | aux2OptTwo => some .aux2
  | _ => none

/-- The output that an option-one key switches on if nothing is known of it. -/
def AccessoryOp.switchesOn? : AccessoryOp → AccessoryOutput → Option AccessoryOp
  | aux1OptOne, .aux1 => some .aux1On
  | aux2OptOne, .aux2 => some .aux2On
  | _, _ => none

/-- Where a trigger sets an output to. -/
def Trigger.position? (t : Trigger) (output : AccessoryOutput) : Option AccessoryOp :=
  match t.operation with
  | .accessory op => if op.output? = some output then some op else none
  | _ => none

theorem Trigger.output?_of_position? {t : Trigger} {output : AccessoryOutput} {op : AccessoryOp}
    (h : t.position? output = some op) : op.output? = some output := by
  unfold position? at h
  split at h
  · split at h
    · cases h
      assumption
    · cases h
  · cases h

namespace TriggerSet

variable {triggers : TriggerSet} {output : AccessoryOutput}

/-- Where the last of some triggers that sets an output sets it to. -/
def lastPosition? (output : AccessoryOutput) : TriggerSet → Option AccessoryOp
  | [] => none
  | t :: rest => (lastPosition? output rest).or (t.position? output)

theorem isSome_lastPosition? {t : Trigger} (ht : t ∈ triggers) (hset : (t.position? output).isSome = true) :
    (triggers.lastPosition? output).isSome = true := by
  induction triggers with
  | nil => exact absurd ht List.not_mem_nil
  | cons first rest ih =>
      rw [lastPosition?, Option.isSome_or, Bool.or_eq_true_iff]
      rcases List.mem_cons.mp ht with rfl | hlater
      · exact Or.inr hset
      · exact Or.inl (ih hlater)

theorem output?_of_lastPosition? {op : AccessoryOp} (h : triggers.lastPosition? output = some op) :
    op.output? = some output := by
  induction triggers with
  | nil => cases h
  | cons t rest ih =>
      rcases Option.or_eq_some_iff.mp h with hlater | ⟨-, hfirst⟩
      · exact ih hlater
      · exact Trigger.output?_of_position? hfirst

end TriggerSet

namespace EffectGraph

variable {graph : EffectGraph} {op : AccessoryOp} {output : AccessoryOutput}

/-- Where an operation on an accessory leaves an output, with all that it results in, if it sets it. -/
def leaves? (graph : EffectGraph) (op : AccessoryOp) (output : AccessoryOutput) : Option AccessoryOp :=
  (graph.resultsIn (Operation.accessory op).trigger true false).lastPosition? output

/-- An operation that sets an output leaves it somewhere. -/
theorem isSome_leaves? (h : op.output? = some output) : (graph.leaves? op output).isSome = true := by
  have hspelled : (Operation.accessory op).trigger.canonical? = none := by cases op <;> decide
  have hself : (Operation.accessory op).trigger.position? output = some op := if_pos h
  exact TriggerSet.isSome_lastPosition? (graph.self_mem_resultsIn hspelled) (Option.isSome_of_eq_some hself)

theorem resultsIn_stock (op : AccessoryOp) :
    stock.resultsIn (Operation.accessory op).trigger true false = [(Operation.accessory op).trigger] := by
  cases op <;> decide

theorem leaves?_stock (op : AccessoryOp) (output : AccessoryOutput) :
    stock.leaves? op output = if op.output? = some output then some op else none := by
  rw [leaves?, resultsIn_stock]
  exact Option.none_or

end EffectGraph

namespace AccessoryState

variable {s t : AccessoryState} {rules : Rules} {now : Nat} {op : AccessoryOp} {output : AccessoryOutput}
  {address : UInt16} {p : Profile}

def position (s : AccessoryState) : AccessoryOutput → Option AccessoryOp
  | .aux1 => s.aux1
  | .aux2 => s.aux2

theorem output?_of_position (output : AccessoryOutput) (h : Latched s) (hop : s.position output = some op) :
    op.output? = some output := by
  cases output with
  | aux1 => rcases h.aux1 op hop with rfl | rfl | rfl <;> rfl
  | aux2 => rcases h.aux2 op hop with rfl | rfl | rfl <;> rfl

/-! ## Where the commands leave the outputs -/

/-- Where an output is left by the commands that are sent for an accessory: where the last one puts it that sets it. -/
def left? (graph : EffectGraph) (s : AccessoryState) (output : AccessoryOutput) : Option AccessoryOp :=
  (s.aux2.bind (graph.leaves? · output)).or ((s.aux1.bind (graph.leaves? · output)).or
    (s.aux.bind fun key => (graph.leaves? key output).or (key.switchesOn? output)))

/-- Whether the commands that are sent for an accessory leave its outputs where they are. -/
def Restores (graph : EffectGraph) (s : AccessoryState) : Prop := ∀ output, s.left? graph output = s.position output

/-- The output that a key switches is known once the key was pressed, and is set by a command of its own. -/
theorem isSome_leaves?_of_switchesOn? (h : Latched s) {key on : AccessoryOp} (hkey : s.aux = some key)
    (hon : key.switchesOn? output = some on) (graph : EffectGraph) :
    ((s.aux2.bind (graph.leaves? · output)).or (s.aux1.bind (graph.leaves? · output))).isSome = true := by
  rw [Option.isSome_or, Bool.or_eq_true_iff]
  rcases h.aux key hkey with ⟨rfl, hset⟩ | ⟨rfl, hset⟩ <;> cases output
  · obtain ⟨op, hop⟩ := Option.isSome_iff_exists.mp hset
    refine Or.inr ?_
    rw [hop]
    exact EffectGraph.isSome_leaves? (output?_of_position .aux1 h hop)
  · cases hon
  · cases hon
  · obtain ⟨op, hop⟩ := Option.isSome_iff_exists.mp hset
    refine Or.inl ?_
    rw [hop]
    exact EffectGraph.isSome_leaves? (output?_of_position .aux2 h hop)

theorem output?_of_left? {graph : EffectGraph} (h : s.left? graph output = some op) : op.output? = some output := by
  have hset : ∀ {known : Option AccessoryOp}, known.bind (graph.leaves? · output) = some op → op.output? = some output := by
    intro known hleft
    obtain ⟨other, -, hleft⟩ := Option.bind_eq_some_iff.mp hleft
    exact TriggerSet.output?_of_lastPosition? hleft
  rcases Option.or_eq_some_iff.mp h with hsecond | ⟨-, h⟩
  · exact hset hsecond
  · rcases Option.or_eq_some_iff.mp h with hfirst | ⟨-, h⟩
    · exact hset hfirst
    · obtain ⟨key, -, h⟩ := Option.bind_eq_some_iff.mp h
      rcases Option.or_eq_some_iff.mp h with hleft | ⟨-, hon⟩
      · exact TriggerSet.output?_of_lastPosition? hleft
      · unfold AccessoryOp.switchesOn? at hon
        split at hon <;> cases hon <;> rfl

theorem bind_leaves?_stock {known : Option AccessoryOp} (hknown : ∀ op, known = some op → op.output? = some output)
    (other : AccessoryOutput) :
    known.bind (EffectGraph.stock.leaves? · other) = if output = other then known else none := by
  cases known with
  | none => rw [Option.bind_none, ite_self]
  | some op =>
      rw [Option.bind_some, EffectGraph.leaves?_stock, hknown op rfl]
      simp only [Option.some.injEq]

/-- Under the stock graph the commands for an accessory leave its outputs where they are. -/
theorem restores_stock (h : Latched s) : s.Restores .stock := by
  -- The key comes first; the output that it switches on is known, so that the command for it comes later.
  have hkey : ∀ output, s.position output = none →
      (s.aux.bind fun key => (EffectGraph.stock.leaves? key output).or (key.switchesOn? output)) = none := by
    intro output hnone
    cases haux : s.aux with
    | none => rfl
    | some key =>
        rw [Option.bind_some, EffectGraph.leaves?_stock]
        rcases h.aux key haux with ⟨rfl, hset⟩ | ⟨rfl, hset⟩ <;> cases output
        · rw [show s.aux1 = none from hnone] at hset
          cases hset
        · rfl
        · rfl
        · rw [show s.aux2 = none from hnone] at hset
          cases hset
  have hkept : ∀ output, (s.position output).or
      (s.aux.bind fun key => (EffectGraph.stock.leaves? key output).or (key.switchesOn? output)) = s.position output := by
    intro output
    cases hknown : s.position output with
    | none => rw [hkey output hknown, Option.none_or]
    | some op => exact Option.some_or
  have hfirst : ∀ output, s.aux1.bind (EffectGraph.stock.leaves? · output) =
      if AccessoryOutput.aux1 = output then s.aux1 else none :=
    bind_leaves?_stock fun _ => output?_of_position .aux1 h
  have hsecond : ∀ output, s.aux2.bind (EffectGraph.stock.leaves? · output) =
      if AccessoryOutput.aux2 = output then s.aux2 else none :=
    bind_leaves?_stock fun _ => output?_of_position .aux2 h
  intro output
  rw [left?, hfirst, hsecond]
  cases output with
  | aux1 => exact Option.none_or.trans (hkept .aux1)
  | aux2 => exact (congrArg s.aux2.or Option.none_or).trans (hkept .aux2)

/-! ## Effects -/

theorem position_applyOutput (s : AccessoryState) (t : Trigger) (output : AccessoryOutput) :
    (s.applyOutput t).position output = (t.position? output).or (s.position output) := by
  cases hop : t.operation with
  | accessory op =>
      simp only [applyOutput, Trigger.position?, hop]
      cases op <;> cases output <;> rfl
  | _ => simp only [applyOutput, Trigger.position?, hop, Option.none_or]

theorem aux_applyOutputs (effects : TriggerSet) (s : AccessoryState) : (effects.foldl applyOutput s).aux = s.aux := by
  induction effects generalizing s with
  | nil => rfl
  | cons t rest ih =>
      have hfirst : (s.applyOutput t).aux = s.aux := by
        unfold applyOutput
        split <;> rfl
      exact (ih _).trans hfirst

theorem position_applyOutputs (effects : TriggerSet) (s : AccessoryState) :
    (effects.foldl applyOutput s).position output = (effects.lastPosition? output).or (s.position output) := by
  induction effects generalizing s with
  | nil => rfl
  | cons t rest ih => rw [List.foldl_cons, ih, position_applyOutput, TriggerSet.lastPosition?, Option.or_assoc]

/-- The state of an accessory without its key and its outputs, and without what it was told last. -/
def unswitched (s : AccessoryState) : AccessoryState :=
  { s with
    profile := { s.profile with last := none }
    aux := none, aux1 := none, aux2 := none, aux1Pressed := none, aux2Pressed := none }

theorem unswitched_applyPress (window now : Nat) (op : AccessoryOp) (s : AccessoryState) :
    (s.applyPress window now op).unswitched = s.unswitched := by
  unfold applyPress
  repeat' split
  all_goals rfl

theorem unswitched_applyOutputs (effects : TriggerSet) (s : AccessoryState) :
    (effects.foldl applyOutput s).unswitched = s.unswitched := by
  induction effects generalizing s with
  | nil => rfl
  | cons t rest ih =>
      have hfirst : (s.applyOutput t).unswitched = s.unswitched := by
        unfold applyOutput
        split <;> rfl
      exact (ih _).trans hfirst

/-! ## One command -/

/-- The command for an operation on an accessory. -/
def commanding (address : UInt16) (op : AccessoryOp) : Update :=
  .command ⟨.accessory op, address, none, .accessory⟩

/-- An accessory that no board drives after a command that carries no number. -/
def commanded (rules : Rules) (now : Nat) (address : UInt16) (op : AccessoryOp) (s : AccessoryState) : AccessoryState :=
  (rules.graph.resultsIn (Operation.accessory op).trigger true false).foldl applyOutput
    ((s.record (commanding address op) now).applyPress rules.settings.auxPulseWindow now op)

theorem unswitched_commanded (rules : Rules) (now : Nat) (address : UInt16) (op : AccessoryOp) (s : AccessoryState) :
    (s.commanded rules now address op).unswitched = s.unswitched := by
  rw [commanded, unswitched_applyOutputs, unswitched_applyPress]
  rfl

theorem applyPress_of_output (h : op.output? = some output) (window now : Nat) (s : AccessoryState) :
    s.applyPress window now op = s := by
  cases op <;> first | rfl | cases h

/-- A command for an output leaves the option-one key. -/
theorem aux_commanded (h : op.output? = some output) (rules : Rules) (now : Nat) (address : UInt16)
    (s : AccessoryState) : (s.commanded rules now address op).aux = s.aux := by
  rw [commanded, aux_applyOutputs, applyPress_of_output h]
  rfl

/-- Whether commands for an address reach an accessory that no board drives. -/
structure Free (address : UInt16) (s : AccessoryState) : Prop where
  reached : ∃ bound, s.profile.address = some bound ∧ s.profile.Reaches .accessory bound address
  kind : s.kind = .plain
  claimed : s.claimed = false

theorem free_of_bound (hbound : s.profile.address = some address) (hkind : s.kind = .plain)
    (hclaimed : s.claimed = false) : Free address s := ⟨⟨address, hbound, Or.inl rfl⟩, hkind, hclaimed⟩

theorem free_congr (hsame : t.unswitched = s.unswitched) (h : Free address s) : Free address t := by
  have hs : Free address s.unswitched := ⟨h.reached, h.kind, h.claimed⟩
  rw [← hsame] at hs
  exact ⟨hs.reached, hs.kind, hs.claimed⟩

theorem update_commanding (h : Free address s) (hop : op ≠ .numeric) (rules : Rules) (now : Nat) :
    (Component.accessory s).update rules now (commanding address op) =
      ⟨.accessory (s.commanded rules now address op), .ok true⟩ := by
  obtain ⟨bound, hbound, hreaches⟩ := h.reached
  have haccept : s.profile.accept .accessory (commanding address op) = .ok s.profile :=
    Profile.accept_of_reaches hbound rfl hreaches
  have hrecorded : (s.record (commanding address op) now).claimed = false := h.claimed
  rw [Component.update, commanding, update_command haccept]
  simp only [applyCommand, applyOperation, if_neg hop]
  rw [← commanding, hrecorded]
  rfl

/-! ## One command after the other -/

/-- An accessory takes the command for an output, if one is known, and the command leaves each output that it sets. -/
theorem takes_position {known : Option AccessoryOp} (hknown : ∀ op, known = some op → op.output? = some output)
    (h : Free address t) :
    Component.Takes rules (fun d => ∃ t', d = .accessory t' ∧ t'.unswitched = t.unswitched ∧ t'.aux = t.aux ∧
        ∀ other, t'.position other = (known.bind (rules.graph.leaves? · other)).or (t.position other))
      (known.toList.map (commanding address)) (.accessory t) := by
  cases known with
  | none => exact ⟨t, rfl, rfl, rfl, fun _ => rfl⟩
  | some op =>
      intro now
      have houtput := hknown op rfl
      have hop : op ≠ .numeric := by
        rintro rfl
        cases houtput
      refine ⟨_, _, update_commanding h hop rules now, _, rfl, unswitched_commanded rules now address op t,
        aux_commanded houtput rules now address t, fun other => ?_⟩
      rw [commanded, position_applyOutputs, applyPress_of_output houtput]
      rfl

/-- An accessory takes the command for the option-one key, if one is known. The output that the key switches is on
afterwards if nothing was known of it. -/
theorem takes_key {key : Option AccessoryOp} (hkey : ∀ op, key = some op → op = .aux1OptOne ∨ op = .aux2OptOne)
    (h : Free address t) :
    Component.Takes rules (fun d => ∃ t', d = .accessory t' ∧ t'.unswitched = t.unswitched ∧ t'.aux = key.or t.aux ∧
        ∀ output, key.bind (·.switchesOn? output) = none →
          t'.position output = (key.bind (rules.graph.leaves? · output)).or (t.position output))
      (key.toList.map (commanding address)) (.accessory t) := by
  cases key with
  | none => exact ⟨t, rfl, rfl, rfl, fun _ _ => rfl⟩
  | some op =>
      intro now
      have hop : op ≠ .numeric := by rcases hkey op rfl with rfl | rfl <;> decide
      have hpressed : ∀ window, ((t.record (commanding address op) now).applyPress window now op).aux = some op ∧
          ∀ output, op.switchesOn? output = none →
            ((t.record (commanding address op) now).applyPress window now op).position output = t.position output := by
        intro window
        rcases hkey op rfl with rfl | rfl
        · refine ⟨rfl, fun output hother => ?_⟩
          cases output
          · cases hother
          · rfl
        · refine ⟨rfl, fun output hother => ?_⟩
          cases output
          · rfl
          · cases hother
      refine ⟨_, _, update_commanding h hop rules now, _, rfl, unswitched_commanded rules now address op t, ?_,
        fun output hother => ?_⟩
      · rw [commanded, aux_applyOutputs, (hpressed _).1]
        rfl
      · rw [commanded, position_applyOutputs, (hpressed _).2 output hother]
        rfl

/-- The commands for an accessory leave the outputs of one that no board drives where the last one puts them that sets
them. -/
theorem takes_commands (h : Latched s) (ht : Free address t) :
    Component.Takes rules (fun d => ∃ t', d = .accessory t' ∧ t'.unswitched = t.unswitched ∧ t'.aux = s.aux.or t.aux ∧
        ∀ output, t'.position output = (s.left? rules.graph output).or (t.position output))
      ((s.aux.toList ++ (s.aux1.toList ++ s.aux2.toList)).map (commanding address)) (.accessory t) := by
  have hkey : ∀ op, s.aux = some op → op = .aux1OptOne ∨ op = .aux2OptOne :=
    fun op hop => (h.aux op hop).imp And.left And.left
  rw [List.map_append, List.map_append]
  refine Component.takes_append (Component.takes_imp (takes_key hkey ht) ?_)
  rintro d ⟨pressed, rfl, hpressed, haux, hkeyed⟩
  refine Component.takes_append (Component.takes_imp
    (takes_position (fun _ => output?_of_position .aux1 h) (free_congr hpressed ht)) ?_)
  rintro d ⟨first, rfl, hfirst, haux1, hset1⟩
  refine Component.takes_imp
    (takes_position (fun _ => output?_of_position .aux2 h) (free_congr (hfirst.trans hpressed) ht)) ?_
  rintro d ⟨t', rfl, hsecond, haux2, hset2⟩
  refine ⟨t', rfl, hsecond.trans (hfirst.trans hpressed), haux2.trans (haux1.trans haux), fun output => ?_⟩
  rw [hset2, hset1, left?, ← Option.or_assoc, ← Option.or_assoc]
  cases hon : s.aux.bind (·.switchesOn? output) with
  | none =>
      have hsame : s.aux.bind (fun key => (rules.graph.leaves? key output).or (key.switchesOn? output)) =
          s.aux.bind (rules.graph.leaves? · output) := by
        cases haux : s.aux with
        | none => rfl
        | some key =>
            rw [haux] at hon
            rw [Option.bind_some, show key.switchesOn? output = none from hon, Option.or_none, Option.bind_some]
      rw [hkeyed output hon, hsame]
      simp only [Option.or_assoc]
  | some on =>
      -- Wherever the key left its output, the output's own command comes later.
      obtain ⟨key, haux, hon⟩ := Option.bind_eq_some_iff.mp hon
      obtain ⟨set, hset⟩ := Option.isSome_iff_exists.mp (isSome_leaves?_of_switchesOn? h haux hon rules.graph)
      rw [hset]
      rfl

/-- Of a fresh accessory nothing is known that the commands leave alone. -/
theorem takes_commands_fresh (h : Latched s) (hp : p.address = some address) :
    Component.Takes rules (fun d => ∃ t, d = .accessory t ∧ t.unswitched = (fresh p).unswitched ∧ t.aux = s.aux ∧
        ∀ output, t.position output = s.left? rules.graph output)
      ((s.aux.toList ++ (s.aux1.toList ++ s.aux2.toList)).map (commanding address)) (.accessory (fresh p)) := by
  refine Component.takes_imp (takes_commands h (free_of_bound hp rfl rfl)) ?_
  rintro d ⟨t, rfl, hsame, haux, hleft⟩
  refine ⟨t, rfl, hsame, haux.trans Option.or_none, fun output => ?_⟩
  rw [hleft, show (fresh p).position output = none by cases output <;> rfl, Option.or_none]

/-- Whether a profile stands for the one of an accessory: the same is sent for both. -/
structure Stands (p : Profile) (s : AccessoryState) : Prop where
  address : p.address = s.profile.address
  record : p.recordUpdates .accessory [] = s.profile.recordUpdates .accessory []

theorem stands_of_unswitched (h : t.unswitched = (fresh p).unswitched) (hp : Stands p s) : Stands t.profile s := by
  have hstands : Stands (fresh p).unswitched.profile s := ⟨hp.address, hp.record⟩
  rw [← h] at hstands
  exact ⟨hstands.address, hstands.record⟩

end AccessoryState
end RailLayout
