import RailLayout.Proofs.State.Accept
import RailLayout.Proofs.State.Motive.Motion

/-!
The commands that an engine or a train is held by, given to another one. Each of them has a slot of its own in the
script, so none is dropped as a repetition and at most one sets a direction. Under the stock graph a turn stops an
engine, a turn or a shutdown of the Legacy generation also brings engine speed and labor to rest, and the others
leave the motion alone (`EngineOp.pull`); so the motion after all of them is known (`motion_run_held`).
-/

namespace RailLayout

/-- What a command does to a motion. -/
inductive Pull where
  | none
  | stop
  | rest
  deriving DecidableEq

def Motion.pulled (m : Motion) : Pull → Motion
  | .none => m
  | .stop => { m with speed := some 0 }
  | .rest => { m with speed := some 0, rpm := some 0, labor := some MotiveState.restingLabor }

namespace EngineOp

/-- Where in a script an operation stands that a state can be held by. -/
def slot? : EngineOp → Option Nat
  | startUpImmediate | shutdownImmediate => some 0
  | smokeOff | smokeLow | smokeMedium | smokeHigh | smokeOn => some 1
  | forwardDirection | reverseDirection => some 2
  | aux1OptionOne | aux2OptionOne => some 3
  | aux1On | aux1Off | aux1OptionTwo => some 4
  | aux2On | aux2Off | aux2OptionTwo => some 5
  | _ => none

def isTurn (op : EngineOp) : Bool := op == forwardDirection || op == reverseDirection

/-- What an operation that a state can be held by does to the motion under the stock graph. -/
def pull : Generation → EngineOp → Pull
  | .legacy, forwardDirection | .legacy, reverseDirection | .legacy, shutdownImmediate => .rest
  | .tmcc, forwardDirection | .tmcc, reverseDirection => .stop
  | _, _ => .none

theorem mem_all (op : EngineOp) : op ∈ all := by
  cases op <;> decide

end EngineOp

namespace Effects

/-- The effects of an operation that a state can be held by, under the stock graph. -/
def held (generation : Generation) (op : EngineOp) : TriggerSet :=
  let own : Trigger := (Operation.engine generation op).trigger
  let still : Trigger := ⟨.engine generation .absoluteSpeed, some 0⟩
  match op.pull generation with
  | .none => [own.canonical]
  | .stop => [still, own]
  | .rest =>
    [still, EffectGraph.legacy .stopImmediate, own, EffectGraph.legacy .dieselRpm,
      ⟨.engine generation .engineLabor, some 12⟩]

theorem ofCommand_held {op : EngineOp} (h : op.slot?.isSome = true) (generation : Generation) (address : UInt16)
    (scope : Scope) :
    ofCommand .stock ⟨.engine generation op, address, none, scope⟩ = held generation op := by
  have htable : ∀ g ∈ [Generation.tmcc, Generation.legacy], ∀ op ∈ EngineOp.all, op.slot?.isSome = true →
      canonicalSet (EffectGraph.stock.resultsIn (Operation.engine g op).trigger true false) = held g op := by
    decide +kernel
  exact htable generation (by cases generation <;> decide) op op.mem_all h

end Effects

namespace MotiveState

/-! ## What each step leaves alone -/

/-- What the next command finds. -/
structure Core where
  kind : MotiveKind
  profile : Profile
  direction : Option EngineOp
  motion : Motion

/-- What the next command finds in a state. -/
def core (s : MotiveState) : Core := ⟨s.kind, s.profile, s.direction, s.motion⟩

theorem core_record (s : MotiveState) (u : Update) (now : Nat) :
    (s.record u now).core = { s.core with profile := s.core.profile.record u now } := rfl

theorem core_latchGeneration (s : MotiveState) (c : Command) : (s.latchGeneration c).core = s.core := by
  unfold latchGeneration
  split <;> rfl

theorem core_applyNumeric (s : MotiveState) (op : EngineOp) (data : Option UInt16) (effects : TriggerSet) :
    (s.applyNumeric op data effects).core = s.core := by
  unfold applyNumeric
  repeat' split
  all_goals rfl

theorem core_applySmoke (s : MotiveState) (effects : TriggerSet) : (s.applySmoke effects).core = s.core := by
  unfold applySmoke
  split <;> rfl

theorem core_applyPress (s : MotiveState) (window now : Nat) (op : EngineOp) :
    (s.applyPress window now op).core = s.core := by
  unfold applyPress
  repeat' split
  all_goals rfl

theorem core_applyOutput (s : MotiveState) (t : Trigger) : (s.applyOutput t).core = s.core := by
  unfold applyOutput
  repeat' split
  all_goals rfl

theorem core_applyOutputs (s : MotiveState) (effects : TriggerSet) : (s.applyOutputs effects).core = s.core := by
  unfold applyOutputs
  induction effects generalizing s with
  | nil => rfl
  | cons t rest ih => rw [List.foldl_cons, ih, core_applyOutput]

theorem core_applyStart (s : MotiveState) (effects : TriggerSet) : (s.applyStart effects).core = s.core := by
  unfold applyStart
  repeat' split
  all_goals rfl

/-! ## One command -/

/-- All that is looked up among the effects of an operation that a state can be held by. -/
@[reducible]
def HeldLookups (generation : Generation) (op : EngineOp) : Prop :=
  let effects := Effects.held generation op
  let pull := op.pull generation
  Effects.data? effects .trainBrake = none ∧ Effects.has effects .rpmDown = false ∧
    Effects.data? effects .dieselRpm = none ∧ Effects.has effects .dieselRpm = decide (pull = .rest) ∧
    Effects.data? effects .engineLabor = (if pull = .rest then some 12 else none) ∧
    Effects.data? effects .absoluteSpeed = (if pull = .none then none else some 0) ∧
    Effects.has effects .stopImmediate = decide (pull = .rest) ∧
    Effects.has effects .forwardDirection = decide (op = .forwardDirection) ∧
    Effects.has effects .reverseDirection = decide (op = .reverseDirection)

section Held

variable {op : EngineOp} (hop : op.slot?.isSome = true) (generation : Generation) (s : MotiveState)
include hop

theorem heldLookups : HeldLookups generation op := by
  have htable : ∀ g ∈ [Generation.tmcc, Generation.legacy], ∀ op ∈ EngineOp.all, op.slot?.isSome = true →
      HeldLookups g op := by
    decide +kernel
  exact htable generation (by cases generation <;> decide) op op.mem_all hop

theorem ne_of_slot?_eq_none {other : EngineOp} (hother : other.slot? = none) : op ≠ other := by
  intro hsame
  rw [hsame, hother] at hop
  cases hop

theorem core_applyDirection_held :
    (s.applyDirection generation op (Effects.held generation op)).core =
      { s.core with direction := if op.isTurn = true then some op else s.direction } := by
  obtain ⟨-, -, -, -, -, -, -, hforward, hreverse⟩ := heldLookups hop generation
  unfold applyDirection
  by_cases hturn : op = .forwardDirection ∨ op = .reverseDirection
  · have htrue : op.isTurn = true := by
      rcases hturn with rfl | rfl <;> rfl
    rw [if_pos hturn, if_pos htrue]
    rfl
  · obtain ⟨hnotForward, hnotReverse⟩ := not_or.mp hturn
    have hfalse : ¬op.isTurn = true := by
      simp only [EngineOp.isTurn, Bool.or_eq_true, beq_iff_eq, hturn, not_false_eq_true]
    rw [if_neg hturn, if_neg (ne_of_slot?_eq_none hop rfl), hforward, hreverse, decide_eq_false hnotForward,
      decide_eq_false hnotReverse, if_neg hfalse]
    rfl

theorem applyTrainBrake_held : s.applyTrainBrake op none (Effects.held generation op) = s := by
  obtain ⟨hbrake, -⟩ := heldLookups hop generation
  unfold applyTrainBrake
  rw [if_neg (ne_of_slot?_eq_none hop rfl), hbrake]

theorem applyRpm_held :
    s.applyRpm op none (Effects.held generation op) =
      if op.pull generation = .rest then { s with rpm := some 0 } else s := by
  obtain ⟨-, hdown, hrpm, hrest, -⟩ := heldLookups hop generation
  unfold applyRpm
  rw [if_neg (ne_of_slot?_eq_none hop rfl), if_neg (ne_of_slot?_eq_none hop rfl), hdown, hrpm, hrest]
  simp only [Bool.false_eq_true, if_false, decide_eq_true_eq]

theorem applyLabor_held :
    s.applyLabor op none (Effects.held generation op) =
      if op.pull generation = .rest then { s with labor := some restingLabor } else s := by
  obtain ⟨-, -, -, -, hlabor, -⟩ := heldLookups hop generation
  unfold applyLabor
  rw [if_neg (ne_of_slot?_eq_none hop rfl), hlabor]
  by_cases hrest : op.pull generation = .rest
  · rw [if_pos hrest, if_pos hrest]
    rfl
  · rw [if_neg hrest, if_neg hrest]

theorem applySpeed_held :
    s.applySpeed op none (Effects.held generation op) =
      if op.pull generation = .none then s else { s with speed := some 0 } := by
  obtain ⟨-, -, -, -, -, hspeed, hstop, -⟩ := heldLookups hop generation
  unfold applySpeed
  rw [if_neg (ne_of_slot?_eq_none hop rfl), hspeed, hstop]
  by_cases hnone : op.pull generation = .none
  · rw [if_pos hnone, if_pos hnone, hnone]
    rfl
  · rw [if_neg hnone, if_neg hnone]

theorem core_values_held :
    (((s.applyRpm op none (Effects.held generation op)).applyLabor op none
        (Effects.held generation op)).applySpeed op none (Effects.held generation op)).core =
      { s.core with motion := s.core.motion.pulled (op.pull generation) } := by
  rw [applyRpm_held hop, applyLabor_held hop, applySpeed_held hop]
  cases op.pull generation <;> rfl

theorem applyMomentum_held : s.applyMomentum op none = s := by
  cases op
  case momentum | momentumLow | momentumMedium | momentumHigh => cases hop
  all_goals rfl

theorem core_applyFields_held (window now : Nat) :
    (s.applyFields window now generation op none (Effects.held generation op)).core =
      { s.core with
        direction := if op.isTurn = true then some op else s.core.direction
        motion := s.core.motion.pulled (op.pull generation) } := by
  have hturned := core_applyDirection_held hop generation s
  unfold applyFields
  dsimp only
  generalize s.applyDirection generation op (Effects.held generation op) = turned at hturned
  have hset : (((turned.applySmoke (Effects.held generation op)).applyPress window now op).applyOutputs
      (Effects.held generation op)).core = turned.core := by
    rw [core_applyOutputs, core_applyPress, core_applySmoke]
  rw [core_applyStart, applyMomentum_held hop, applyTrainBrake_held hop, core_values_held hop, hset, hturned]
  rfl

end Held

/-- The command for one of the operations that a state is held by. -/
def holding (generation : Generation) (kind : MotiveKind) (address : UInt16) (op : EngineOp) : Command :=
  ⟨.engine generation op, address, none, kind.scope⟩

theorem isHalt_holding {op : EngineOp} (hop : op.slot?.isSome = true) (generation : Generation) (kind : MotiveKind)
    (address : UInt16) : (Update.command (holding generation kind address op)).isHalt = false := by
  cases op
  case systemHalt => cases hop
  all_goals rfl

/-- Whether the command for an operation would be taken in full: it repeats nothing and turns around what it sets. -/
def Ready (s : MotiveState) (command : EngineOp → Command) (op : EngineOp) : Prop :=
  (∀ now, s.profile.last ≠ some (.command (command op), now)) ∧ s.keepsDirection op = false

theorem repeats_eq_false {p : Profile} {c : Command} (h : ∀ now, p.last ≠ some (.command c, now))
    (window now : Nat) : p.repeats c window now = false := by
  refine Bool.eq_false_iff.mpr fun hrepeats => ?_
  obtain ⟨time, hlast, -⟩ := Profile.repeats_eq_true_iff.mp hrepeats
  exact h time hlast

theorem keepsDirection_congr {s t : MotiveState} (h : t.core = s.core) (op : EngineOp) :
    t.keepsDirection op = s.keepsDirection op := by
  have hdirection : t.direction = s.direction := congrArg Core.direction h
  rw [keepsDirection, keepsDirection, hdirection]

/-- The command for such an operation is taken, and goes through all fields. -/
theorem update_held {s : MotiveState} {generation : Generation} {address : UInt16} {op : EngineOp}
    (hop : op.slot?.isSome = true) (hbound : s.profile.address = some address)
    (hready : Ready s (holding generation s.kind address) op) (settings : Settings) (now : Nat) :
    s.update ⟨.stock, settings⟩ now (.command (holding generation s.kind address op)) =
      let latched := s.latchGeneration (holding generation s.kind address op)
      let numbered := latched.applyNumeric op none (Effects.held generation op)
      ⟨(numbered.applyFields settings.auxPulseWindow now generation op none (Effects.held generation op)).record
        (.command (holding generation s.kind address op)) now, .ok true⟩ := by
  generalize hc : holding generation s.kind address op = c
  have hoperation : c.operation = .engine generation op := hc ▸ rfl
  have hdata : c.data = none := hc ▸ rfl
  have heffects : Effects.ofCommand .stock c = Effects.held generation op :=
    hc ▸ Effects.ofCommand_held hop generation address s.kind.scope
  have haccept : s.profile.accept s.kind.scope (.command c) = .ok s.profile := Profile.accept_bound hbound (hc ▸ rfl)
  have hhalt : (Update.command c).isHalt = false := hc ▸ isHalt_holding hop generation s.kind address
  have hlatched := core_latchGeneration s c
  have hprofile : (s.latchGeneration c).profile = s.profile := congrArg Core.profile hlatched
  have hrepeats : (s.latchGeneration c).profile.repeats c settings.duplicateWindow now = false := by
    rw [hprofile]
    exact repeats_eq_false (hc ▸ hready.1) _ _
  have hnumeric : ((s.latchGeneration c).applyNumeric op none (Effects.held generation op)).core = s.core := by
    rw [core_applyNumeric, hlatched]
  have hkeeps : ¬((s.latchGeneration c).applyNumeric op none (Effects.held generation op)).keepsDirection op =
      true := by
    rw [keepsDirection_congr hnumeric, hready.2]
    decide
  simp only [update, haccept, applyCommand, hrepeats, hhalt, hoperation, applyOperation, hdata, heffects,
    if_neg hkeeps, Bool.false_eq_true, if_false]

theorem core_update_held {s : MotiveState} {generation : Generation} {address : UInt16} {op : EngineOp}
    (hop : op.slot?.isSome = true) (hbound : s.profile.address = some address)
    (hready : Ready s (holding generation s.kind address) op) (settings : Settings) (now : Nat) :
    (s.update ⟨.stock, settings⟩ now (.command (holding generation s.kind address op))).state.core =
      { kind := s.kind
        profile := s.profile.record (.command (holding generation s.kind address op)) now
        direction := if op.isTurn = true then some op else s.direction
        motion := s.motion.pulled (op.pull generation) } := by
  rw [update_held hop hbound hready settings now]
  dsimp only
  rw [core_record, core_applyFields_held hop, core_applyNumeric, core_latchGeneration]
  rfl

/-! ## All commands -/

theorem slot?_of_isTurn {op : EngineOp} (h : op.isTurn = true) : op.slot? = some 2 := by
  simp only [EngineOp.isTurn, Bool.or_eq_true, beq_iff_eq] at h
  rcases h with rfl | rfl <;> rfl

/-- A state without a direction that was told no command before is ready for every operation. -/
theorem ready_of_fresh {f : MotiveState} (hlast : ∀ c now, f.profile.last ≠ some (.command c, now))
    (hdirection : f.direction = none) (command : EngineOp → Command) (op : EngineOp) : Ready f command op := by
  refine ⟨fun now => hlast (command op) now, ?_⟩
  rw [keepsDirection, hdirection]
  exact Bool.and_false _

theorem ready_of_slot?_ne {s t : MotiveState} {generation : Generation} {kind : MotiveKind} {address : UInt16}
    {op other : EngineOp} {now : Nat} (hslots : op.slot? ≠ other.slot?)
    (hlast : t.profile.last = some (.command (holding generation kind address op), now))
    (hdirection : t.direction = if op.isTurn = true then some op else s.direction)
    (hready : Ready s (holding generation kind address) other) :
    Ready t (holding generation kind address) other := by
  constructor
  · intro later hsame
    rw [hlast] at hsame
    cases hsame
    exact hslots rfl
  · have hkeeps : other.isTurn = true → s.direction ≠ some other := by
      intro hturn hother
      have hfalse := hready.2
      rw [show s.keepsDirection other = (other.isTurn && s.direction == some other) from rfl, hturn, hother,
        beq_self_eq_true] at hfalse
      cases hfalse
    rw [show t.keepsDirection other = (other.isTurn && t.direction == some other) from rfl]
    -- Only a turn can find its direction set, and of two turns in different slots there is none.
    by_cases hturn : other.isTurn = true
    · have hstill : ¬op.isTurn = true := fun hop => hslots (by rw [slot?_of_isTurn hop, slot?_of_isTurn hturn])
      rw [hdirection, if_neg hstill, beq_eq_false_iff_ne.mpr (hkeeps hturn), Bool.and_false]
    · rw [Bool.eq_false_iff.mpr hturn, Bool.false_and]

/-- What holds of no command and is handed on from the rest of the commands to all of them holds of every run of commands
that each have a slot of their own. What a command leaves is ready for each command after it. -/
theorem run_held_induction (settings : Settings) {generation : Generation} {kind : MotiveKind} {address : UInt16}
    {P : MotiveState → List EngineOp → MotiveState → Prop} (nil : ∀ s, P s [] s)
    (cons : ∀ {s t : MotiveState} {op : EngineOp} {rest : List EngineOp} (now : Nat), op.slot?.isSome = true →
      s.profile.address = some address → Ready s (holding generation s.kind address) op →
        P (s.update ⟨.stock, settings⟩ now (.command (holding generation s.kind address op))).state rest t →
          P s (op :: rest) t)
    {ops : List EngineOp} {s : MotiveState} {timed : List (Nat × Update)}
    (htimed : timed.map Prod.snd = ops.map fun op => .command (holding generation kind address op))
    (hkind : s.kind = kind) (hbound : s.profile.address = some address)
    (hheld : ∀ op ∈ ops, op.slot?.isSome = true) (hslots : ops.Pairwise fun a b => a.slot? ≠ b.slot?)
    (hready : ∀ op ∈ ops, Ready s (holding generation kind address) op) :
    P s ops (s.run ⟨.stock, settings⟩ timed) := by
  induction ops generalizing s timed with
  | nil =>
      rw [List.map_nil, List.map_eq_nil_iff] at htimed
      rw [htimed]
      exact nil s
  | cons op rest ih =>
      obtain ⟨⟨now, u⟩, more, rfl, rfl, hmore⟩ := List.map_eq_cons_iff.mp htimed
      subst hkind
      have hcore := core_update_held (hheld op List.mem_cons_self) hbound (hready op List.mem_cons_self) settings now
      have hnext := ih hmore (congrArg Core.kind hcore) ((congrArg (·.profile.address) hcore).trans hbound)
        (fun other hother => hheld other (List.mem_cons_of_mem op hother)) (List.pairwise_cons.mp hslots).2
        fun other hother => ready_of_slot?_ne ((List.pairwise_cons.mp hslots).1 other hother)
          (congrArg (·.profile.last) hcore) (congrArg Core.direction hcore)
          (hready other (List.mem_cons_of_mem op hother))
      exact cons now (hheld op List.mem_cons_self) hbound (hready op List.mem_cons_self) hnext

/-- The motion after commands that each have a slot of their own. -/
theorem motion_run_held (settings : Settings) {generation : Generation} {kind : MotiveKind} {address : UInt16}
    {ops : List EngineOp} {s : MotiveState} {timed : List (Nat × Update)}
    (htimed : timed.map Prod.snd = ops.map fun op => .command (holding generation kind address op))
    (hkind : s.kind = kind) (hbound : s.profile.address = some address)
    (hheld : ∀ op ∈ ops, op.slot?.isSome = true) (hslots : ops.Pairwise fun a b => a.slot? ≠ b.slot?)
    (hready : ∀ op ∈ ops, Ready s (holding generation kind address) op) :
    (s.run ⟨.stock, settings⟩ timed).motion =
      ops.foldl (fun m op => m.pulled (op.pull generation)) s.motion := by
  refine run_held_induction settings (P := fun s ops t => t.motion = ops.foldl _ s.motion) (fun _ => rfl) ?_ htimed hkind
    hbound hheld hslots hready
  intro s t op rest now hop hbound hready hrest
  have hcore := core_update_held hop hbound hready settings now
  exact hrest.trans (congrArg (rest.foldl fun m op => m.pulled (op.pull generation)) (congrArg Core.motion hcore))

/-! ## The operations that a state is held by -/

theorem map_toList_sublist {held : Option EngineOp} {slot : Option Nat} (h : ∀ op, held = some op → op.slot? = slot) :
    (held.toList.map EngineOp.slot?).Sublist [slot] := by
  cases held with
  | none => exact List.nil_sublist _
  | some op =>
      cases h op rfl
      exact List.Sublist.refl _

theorem slot?_start (s : MotiveState) (op : EngineOp)
    (h : (s.started.map fun started => if started then EngineOp.startUpImmediate else .shutdownImmediate) = some op) :
    op.slot? = some 0 := by
  obtain ⟨started, -, rfl⟩ := Option.map_eq_some_iff.mp h
  cases started <;> rfl

theorem slot?_smoke (s : MotiveState) (op : EngineOp) (h : s.smoke.map (SmokeLevel.op s.generation) = some op) :
    op.slot? = some 1 := by
  obtain ⟨level, -, rfl⟩ := Option.map_eq_some_iff.mp h
  cases s.generation <;> cases level <;> rfl

theorem slot?_direction {kind : MotiveKind} {s : MotiveState} (h : Coherent kind s) (op : EngineOp)
    (hop : s.direction = some op) : op.slot? = some 2 := by
  rcases h.direction hop with rfl | rfl <;> rfl

theorem slot?_aux {kind : MotiveKind} {s : MotiveState} (h : Coherent kind s) (op : EngineOp)
    (hop : s.aux = some op) : op.slot? = some 3 := by
  rcases h.aux hop with rfl | rfl <;> rfl

theorem slot?_aux1 {kind : MotiveKind} {s : MotiveState} (h : Coherent kind s) (op : EngineOp)
    (hop : s.aux1 = some op) : op.slot? = some 4 := by
  have hsets := h.aux1 hop
  cases op
  case aux1On | aux1Off | aux1OptionTwo => rfl
  all_goals cases hsets

theorem slot?_aux2 {kind : MotiveKind} {s : MotiveState} (h : Coherent kind s) (op : EngineOp)
    (hop : s.aux2 = some op) : op.slot? = some 5 := by
  have hsets := h.aux2 hop
  cases op
  case aux2On | aux2Off | aux2OptionTwo => rfl
  all_goals cases hsets

theorem map_slot?_heldOps {kind : MotiveKind} {s : MotiveState} (h : Coherent kind s) :
    (s.heldOps.map EngineOp.slot?).Sublist [some 0, some 1, some 2, some 3, some 4, some 5] := by
  simp only [heldOps, List.map_append]
  have hstart := (map_toList_sublist s.slot?_start).append (map_toList_sublist s.slot?_smoke)
  have hturn := hstart.append (map_toList_sublist (slot?_direction h))
  have haux := hturn.append (map_toList_sublist (slot?_aux h))
  exact (haux.append (map_toList_sublist (slot?_aux1 h))).append (map_toList_sublist (slot?_aux2 h))

theorem isSome_slot?_of_mem_heldOps {kind : MotiveKind} {s : MotiveState} (h : Coherent kind s) {op : EngineOp}
    (hop : op ∈ s.heldOps) : op.slot?.isSome = true := by
  have hall : ∀ slot ∈ [some 0, some 1, some 2, some 3, some 4, some 5], slot.isSome = true := by decide
  exact hall _ ((map_slot?_heldOps h).subset (List.mem_map_of_mem hop))

theorem pairwise_heldOps {kind : MotiveKind} {s : MotiveState} (h : Coherent kind s) :
    s.heldOps.Pairwise fun a b => a.slot? ≠ b.slot? := by
  have hall : [some 0, some 1, some 2, some 3, some 4, some 5].Pairwise (fun a b : Option Nat => a ≠ b) := by decide
  exact List.pairwise_map.mp (hall.sublist (map_slot?_heldOps h))

/-- What the commands that a state is held by do to a motion, one after the other. -/
def heldPull (s : MotiveState) : Pull :=
  match s.generation with
  | .legacy => if s.direction.isSome = true ∨ s.started = some false then .rest else .none
  | .tmcc => if s.direction.isSome = true then .stop else .none

theorem pull_eq_none {op : EngineOp} (hstart : op.slot? ≠ some 0) (hturn : op.slot? ≠ some 2)
    (generation : Generation) : op.pull generation = .none := by
  cases generation <;> cases op
  all_goals first | rfl | exact absurd rfl hstart | exact absurd rfl hturn

theorem foldl_pull_none {generation : Generation} {held : Option EngineOp} {slot : Nat} (hstart : slot ≠ 0)
    (hturn : slot ≠ 2) (h : ∀ op, held = some op → op.slot? = some slot) (m : Motion) :
    held.toList.foldl (fun m op => m.pulled (op.pull generation)) m = m := by
  cases held with
  | none => rfl
  | some op =>
      have hslot := h op rfl
      have hpull : op.pull generation = .none := by
        refine pull_eq_none ?_ ?_ generation
        · rw [hslot]
          exact fun heq => hstart (Option.some.inj heq)
        · rw [hslot]
          exact fun heq => hturn (Option.some.inj heq)
      rw [Option.toList_some, List.foldl_cons, List.foldl_nil, hpull]
      rfl

theorem foldl_heldOps {kind : MotiveKind} {s : MotiveState} (h : Coherent kind s) (m : Motion) :
    s.heldOps.foldl (fun m op => m.pulled (op.pull s.generation)) m = m.pulled s.heldPull := by
  simp only [heldOps, List.foldl_append]
  rw [foldl_pull_none (by decide) (by decide) (slot?_aux2 h),
    foldl_pull_none (by decide) (by decide) (slot?_aux1 h),
    foldl_pull_none (by decide) (by decide) (slot?_aux h), foldl_pull_none (by decide) (by decide) s.slot?_smoke]
  -- What is left are the start and the direction, which is why `heldPull` looks at no other field.
  unfold heldPull
  cases hdirection : s.direction with
  | none =>
      cases s.generation <;> rcases s.started with _ | _ | _ <;> rfl
  | some dir =>
      rcases h.direction hdirection with rfl | rfl
      · cases s.generation <;> rcases s.started with _ | _ | _ <;> rfl
      · cases s.generation <;> rcases s.started with _ | _ | _ <;> rfl

end MotiveState
end RailLayout
