import RailLayout.Proofs.State.Motive.Parts
import RailLayout.Proofs.State.Motive.Spelled

/-!
Commands that set values outright. Under the stock graph a command that is not relative (`Command.isRelative`) overwrites
fields with values that it brings along itself (`MotiveState.applyCommand_imprint`). What it meets matters only in that
a direction which is already set keeps it from going further than the number key. So a state that it leaves is one in
which it changes nothing any more (`MotiveState.fulfils_applyCommand`).
-/

namespace RailLayout

/-- The operations that move a value on from what it is: the engine speed up or down, the direction or an output to
another one. -/
def EngineOp.relative : List EngineOp := [rpmUp, rpmDown, toggleDirection, aux1OptionOne, aux2OptionOne]

/-- Whether a command moves a value on from what it is. A reset of the TMCC generation, by its operation or its number,
takes the engine speed down. -/
def Command.isRelative (c : Command) : Bool :=
  match c.operation with
  | .engine generation op =>
    EngineOp.relative.contains op || generation == .tmcc && (op == .reset || op == .numeric && c.data == some 0)
  | _ => false

namespace Effects

theorem mem_of_has {effects : TriggerSet} {op : EngineOp} (h : has effects op = true) :
    ∃ g, ⟨.engine g op, none⟩ ∈ effects := by
  obtain ⟨⟨operation, data⟩, ht, hop⟩ := List.any_eq_true.mp h
  dsimp only at hop
  split at hop
  · rename_i g other
    exact ⟨g, eq_of_beq hop ▸ ht⟩
  · cases hop

/-- Under the stock graph only a relative command takes the engine speed down. -/
theorem has_rpmDown_stock {c : Command} (h : c.isRelative = false) : has (ofCommand .stock c) .rpmDown = false := by
  have hcauses : ∀ pair ∈ EffectGraph.stock.causes.pairs, ∀ g ∈ [Generation.tmcc, Generation.legacy],
      pair.2.canonical = ⟨.engine g .rpmDown, none⟩ →
        pair.1 = ⟨.engine .tmcc .reset, none⟩ ∨ pair.1 = ⟨.engine .tmcc .numeric, some 0⟩ := by decide +kernel
  have hspelled : ∀ entry ∈ aliases, entry.2.data ≠ none ∧
      (entry.2 = ⟨.engine .tmcc .numeric, some 0⟩ → entry.1 = .engine .tmcc .reset) := by decide
  refine Bool.eq_false_iff.mpr fun hdown => ?_
  obtain ⟨g, hmem⟩ := mem_of_has hdown
  obtain ⟨operation, address, data, scope⟩ := c
  have hself : operation ≠ .engine g .rpmDown := by
    rintro rfl
    cases g <;> cases h
  have hreset : operation ≠ .engine .tmcc .reset := by
    rintro rfl
    cases h
  have hzero : ¬(operation = .engine .tmcc .numeric ∧ data = some 0) := by
    rintro ⟨rfl, rfl⟩
    cases h
  rcases mem_ofCommand hmem with hsame | hdata | ⟨pair, hpair, hcause, hresult⟩
  · rcases Trigger.canonical_cases ⟨operation, none⟩ with hplain | ⟨entry, hentry, -, hplain⟩
    · exact hself (congrArg Trigger.operation (hsame.trans hplain)).symm
    · exact (hspelled entry hentry).1 (congrArg Trigger.data (hsame.trans hplain)).symm
  · obtain ⟨d, -, hd⟩ := Option.map_eq_some_iff.mp hdata
    cases hd
  · have hown := hcauses pair hpair g (by cases g <;> decide) hresult.symm
    have hbare : pair.1 ≠ ⟨operation, none⟩ := by
      intro hcause
      rcases hown with hown | hown
      · exact hreset (congrArg Trigger.operation (hcause.symm.trans hown))
      · cases hcause.symm.trans hown
    rcases hcause with hcause | hcause | hcause
    · exact hbare hcause
    · rcases Trigger.canonical_cases ⟨operation, none⟩ with hplain | ⟨entry, hentry, hkey, hplain⟩
      · exact hbare (hcause.trans hplain)
      · have hsame : entry.2 = pair.1 := hplain.symm.trans hcause.symm
        rcases hown with hown | hown
        · exact (hspelled entry hentry).1 (congrArg Trigger.data (hsame.trans hown))
        · exact hreset (hkey.symm.trans ((hspelled entry hentry).2 (hsame.trans hown)))
    · obtain ⟨d, hd, hcause⟩ := Option.map_eq_some_iff.mp hcause
      rcases hown with hown | hown
      · cases hcause.trans hown
      · cases hcause.trans hown
        exact hzero ⟨rfl, hd⟩

end Effects

/-! ## Overwriting fields -/

/-- What fields are overwritten with. A field without a value is kept. -/
structure Imprint where
  numeric : Option (Option UInt16) := none
  /-- The direction, and the generation that set it. -/
  course : Option (EngineOp × Generation) := none
  trainBrake : Option (Option UInt8) := none
  smoke : Option SmokeLevel := none
  aux : Option EngineOp := none
  aux1 : Option EngineOp := none
  aux2 : Option EngineOp := none
  rpm : Option (Option UInt8) := none
  labor : Option (Option UInt8) := none
  speed : Option (Option UInt16) := none
  momentum : Option (Option UInt8) := none
  started : Option Bool := none

namespace Imprint

open Effects

def on (i : Imprint) (s : MotiveState) : MotiveState :=
  { s with
    numeric := i.numeric.getD s.numeric
    direction := (i.course.map Prod.fst).or s.direction
    directionFrom := (i.course.map Prod.snd).or s.directionFrom
    trainBrake := i.trainBrake.getD s.trainBrake
    smoke := i.smoke.or s.smoke
    aux := i.aux.or s.aux
    aux1 := i.aux1.or s.aux1
    aux2 := i.aux2.or s.aux2
    rpm := i.rpm.getD s.rpm
    labor := i.labor.getD s.labor
    speed := i.speed.getD s.speed
    momentum := i.momentum.getD s.momentum
    started := i.started.or s.started }

/-- What a halt overwrites. -/
def halting : Imprint where
  numeric := some none
  aux := some .aux2OptionOne
  aux1 := some .aux1Off
  aux2 := some .aux2Off
  rpm := some (some 0)
  labor := some (some MotiveState.restingLabor)
  speed := some (some 0)

/-- The last operation among effects that sets an output. -/
def lastOutput? (sets : EngineOp → Bool) (effects : TriggerSet) : Option EngineOp :=
  effects.reverse.findSome? fun t => (bareOp? t).filter sets

/-- The momentum that an operation sets. -/
def momentumOf (op : EngineOp) (data : Option UInt16) : Option (Option UInt8) :=
  match op with
  | .momentumLow => some (some 0)
  | .momentumMedium => some (some 3)
  | .momentumHigh => some (some 7)
  | .momentum => some (data.map clampByte)
  | _ => none

/-- What an operation overwrites, with its data and its effects. -/
def ofOperation (generation : Generation) (op : EngineOp) (data : Option UInt16) (effects : TriggerSet) : Imprint where
  numeric := found? .numeric op data effects
  course :=
    if op = .forwardDirection ∨ op = .reverseDirection then some (op, generation)
    else if has effects .forwardDirection then some (.forwardDirection, generation)
    else if has effects .reverseDirection then some (.reverseDirection, generation)
    else none
  trainBrake := (found? .trainBrake op data effects).map (Option.map clampByte)
  smoke := effects.findSome? SmokeLevel.ofTrigger?
  aux1 := lastOutput? setsAux1 effects
  aux2 := lastOutput? setsAux2 effects
  rpm := ((found? .dieselRpm op data effects).map (Option.map clampByte)).or
    (if has effects .dieselRpm then some (some 0) else none)
  labor := (found? .engineLabor op data effects).map (Option.map clampByte)
  speed := (found? .absoluteSpeed op data effects).or (if has effects .stopImmediate then some (some 0) else none)
  momentum := momentumOf op data
  started :=
    if effects.any isStart then some true
    else if effects.any isShutdown then some false
    else none

/-- What a command overwrites under the stock graph, given the direction that it meets. -/
def ofCommand (c : Command) (direction : Option EngineOp) : Imprint :=
  if (Update.command c).isHalt then halting
  else match c.operation with
    | .engine generation op =>
      let whole := ofOperation generation op c.data (Effects.ofCommand .stock c)
      if (op = .forwardDirection ∨ op = .reverseDirection) ∧ direction = some op then { numeric := whole.numeric }
      else whole
    | _ => {}

theorem on_on (i : Imprint) (s : MotiveState) : i.on (i.on s) = i.on s := by
  have hgetD : ∀ {α : Type} (o : Option α) (a : α), o.getD (o.getD a) = o.getD a := by
    intro α o a
    cases o <;> rfl
  have hor : ∀ {α : Type} (o a : Option α), o.or (o.or a) = o.or a := by
    intro α o a
    cases o <;> rfl
  simp only [on, hgetD, hor]

/-- The number key of what was overwritten. -/
theorem on_numeric_on (i : Imprint) (s : MotiveState) : ({ numeric := i.numeric } : Imprint).on (i.on s) = i.on s := by
  have hgetD : i.numeric.getD (i.numeric.getD s.numeric) = i.numeric.getD s.numeric := by
    cases i.numeric <;> rfl
  show { i.on s with numeric := i.numeric.getD (i.numeric.getD s.numeric) } = i.on s
  rw [hgetD]
  rfl

/-- A command overwrites nothing more when it comes again. -/
theorem ofCommand_on (c : Command) (s : MotiveState) :
    let t := (ofCommand c s.direction).on s
    (ofCommand c t.direction).on t = t := by
  intro t
  have hconst : (∀ direction, ofCommand c direction = ofCommand c s.direction) → (ofCommand c t.direction).on t = t := by
    intro h
    rw [h t.direction]
    exact on_on _ s
  by_cases hhalt : (Update.command c).isHalt = true
  · have himprint : ∀ direction, ofCommand c direction = halting := fun _ => if_pos hhalt
    exact hconst fun direction => (himprint direction).trans (himprint s.direction).symm
  cases hoperation : c.operation with
  | engine generation op =>
      let whole := ofOperation generation op c.data (Effects.ofCommand .stock c)
      have himprint : ∀ direction, ofCommand c direction =
          if (op = .forwardDirection ∨ op = .reverseDirection) ∧ direction = some op then { numeric := whole.numeric }
          else whole := by
        intro direction
        rw [ofCommand, if_neg hhalt, hoperation]
      by_cases hturn : op = .forwardDirection ∨ op = .reverseDirection
      · -- After a turn the direction is the one that was asked for.
        by_cases hkept : s.direction = some op
        · have ht : t = ({ numeric := whole.numeric } : Imprint).on s := by
            simp only [t, himprint, if_pos (And.intro hturn hkept)]
          have hdirection : t.direction = some op := by
            rw [ht]
            exact hkept
          rw [himprint t.direction, if_pos ⟨hturn, hdirection⟩, ht, on_on]
        · have ht : t = whole.on s := by
            simp only [t, himprint, if_neg fun h : _ ∧ _ => hkept h.2]
          have hcourse : whole.course = some (op, generation) := if_pos hturn
          have hdirection : t.direction = some op := by
            rw [ht, on, hcourse]
            rfl
          rw [himprint t.direction, if_pos ⟨hturn, hdirection⟩, ht]
          exact on_numeric_on whole s
      · refine hconst fun direction => ?_
        rw [himprint, himprint, if_neg fun h => hturn h.1, if_neg fun h => hturn h.1]
  | _ =>
      refine hconst fun direction => ?_
      simp only [ofCommand, if_neg hhalt, hoperation]

end Imprint

namespace MotiveState

open EngineOp Effects

variable (generation : Generation) (op : EngineOp) (data : Option UInt16) (effects : TriggerSet) (s : MotiveState)

/-! ## The parts of a command -/

theorem applyNumeric_imprint : s.applyNumeric op data effects =
    ({ numeric := (Imprint.ofOperation generation op data effects).numeric } : Imprint).on s := by
  rw [applyNumeric_found, Imprint.ofOperation]
  cases found? .numeric op data effects <;> rfl

theorem applyDirection_imprint (h : op ≠ .toggleDirection) : s.applyDirection generation op effects =
    ({ course := (Imprint.ofOperation generation op data effects).course } : Imprint).on s := by
  unfold applyDirection Imprint.ofOperation
  dsimp only
  rw [if_neg h]
  repeat' split
  all_goals rfl

theorem applyTrainBrake_imprint : s.applyTrainBrake op data effects =
    ({ trainBrake := (Imprint.ofOperation generation op data effects).trainBrake } : Imprint).on s := by
  rw [applyTrainBrake_found, Imprint.ofOperation]
  cases found? .trainBrake op data effects <;> rfl

theorem applySmoke_imprint : s.applySmoke effects =
    ({ smoke := (Imprint.ofOperation generation op data effects).smoke } : Imprint).on s := by
  rw [applySmoke, Imprint.ofOperation]
  cases effects.findSome? SmokeLevel.ofTrigger? <;> rfl

theorem applyPress_of_ne (window now : Nat) (hfirst : op ≠ .aux1OptionOne) (hsecond : op ≠ .aux2OptionOne) :
    s.applyPress window now op = s := by
  unfold applyPress
  rw [if_neg hfirst, if_neg hsecond]

theorem applyOutput_imprint (t : Trigger) : s.applyOutput t =
    ({ aux1 := (bareOp? t).filter setsAux1, aux2 := (bareOp? t).filter setsAux2 } : Imprint).on s := by
  unfold applyOutput
  cases bareOp? t with
  | none => rfl
  | some op => cases op <;> rfl

theorem applyOutputs_imprint : s.applyOutputs effects =
    ({ aux1 := (Imprint.ofOperation generation op data effects).aux1,
       aux2 := (Imprint.ofOperation generation op data effects).aux2 } : Imprint).on s := by
  show s.applyOutputs effects =
    ({ aux1 := Imprint.lastOutput? setsAux1 effects, aux2 := Imprint.lastOutput? setsAux2 effects } : Imprint).on s
  unfold applyOutputs Imprint.lastOutput?
  induction effects using List.reverseRecOn with
  | nil => rfl
  | append_singleton first last ih =>
      rw [List.foldl_concat, ih, applyOutput_imprint, List.reverse_concat, List.findSome?_cons, List.findSome?_cons]
      cases bareOp? last with
      | none => rfl
      | some op => cases op <;> rfl

theorem applyRpm_imprint (hup : op ≠ .rpmUp) (hdown : has effects .rpmDown = false) : s.applyRpm op data effects =
    ({ rpm := (Imprint.ofOperation generation op data effects).rpm } : Imprint).on s := by
  unfold applyRpm Imprint.ofOperation found?
  rw [if_neg hup, hdown]
  split
  · rfl
  · cases data? effects .dieselRpm with
    | some r => rfl
    | none => cases has effects .dieselRpm <;> rfl

theorem applyLabor_imprint : s.applyLabor op data effects =
    ({ labor := (Imprint.ofOperation generation op data effects).labor } : Imprint).on s := by
  rw [applyLabor_found, Imprint.ofOperation]
  cases found? .engineLabor op data effects <;> rfl

theorem applySpeed_imprint : s.applySpeed op data effects =
    ({ speed := (Imprint.ofOperation generation op data effects).speed } : Imprint).on s := by
  rw [applySpeed_found, Imprint.ofOperation]
  cases found? .absoluteSpeed op data effects with
  | some v => rfl
  | none => cases has effects .stopImmediate <;> rfl

theorem applyMomentum_imprint : s.applyMomentum op data =
    ({ momentum := (Imprint.ofOperation generation op data effects).momentum } : Imprint).on s := by
  cases op <;> rfl

theorem applyStart_imprint : s.applyStart effects =
    ({ started := (Imprint.ofOperation generation op data effects).started } : Imprint).on s := by
  unfold applyStart Imprint.ofOperation
  dsimp only
  repeat' split
  all_goals rfl

/-! ## Whole commands -/

/-- All fields of an operation that is not relative, the number key included. -/
theorem applyFields_imprint (hop : op ∉ relative) (hdown : has effects .rpmDown = false) (window now : Nat) :
    (s.applyNumeric op data effects).applyFields window now generation op data effects =
      (Imprint.ofOperation generation op data effects).on s := by
  have hne : ∀ other ∈ relative, op ≠ other := by
    rintro other hother rfl
    exact hop hother
  unfold applyFields
  dsimp only
  rw [applyNumeric_imprint generation, applyDirection_imprint generation _ data _ _ (hne _ (by decide)),
    applyTrainBrake_imprint generation, applySmoke_imprint generation op data,
    applyPress_of_ne _ _ _ _ (hne _ (by decide)) (hne _ (by decide)), applyOutputs_imprint generation op data,
    applyRpm_imprint generation _ _ _ _ (hne _ (by decide)) hdown, applyLabor_imprint generation,
    applySpeed_imprint generation, applyMomentum_imprint generation _ _ effects, applyStart_imprint generation op data]
  simp only [Imprint.on, Option.getD_none, Option.map_none, Option.none_or]
  rfl

end MotiveState

/-- Whether engines and trains remember a command that they do not drop: a halt, or an operation of theirs. -/
def Command.isRemembered (c : Command) : Bool :=
  (Update.command c).isHalt || match c.operation with
    | .engine _ _ => true
    | _ => false

namespace MotiveState

variable {c : Command} {rules : Rules} {now : Nat} {s : MotiveState}

/-- What is known of the generation once a command has come. -/
def decided (c : Command) (legacy : Option Bool) : Option Bool :=
  if legacy = none ∧ (Update.command c).isHalt = false then some (c.isLegacy || decide (99 < c.address)) else legacy

theorem latchGeneration_decided (s : MotiveState) (c : Command) :
    s.latchGeneration c = { s with legacy := decided c s.legacy } := by
  unfold latchGeneration decided
  split <;> rfl

/-- What a command decides stays decided. -/
theorem decided_decided (c d : Command) {legacy : Option Bool} (h : decided c legacy = legacy) :
    decided c (decided d legacy) = decided d legacy := by
  cases legacy with
  | some generation => rfl
  | none =>
      have hhalt : (Update.command c).isHalt = true := by
        by_contra hmoves
        rw [decided, if_pos ⟨rfl, (Bool.not_eq_true _).mp hmoves⟩] at h
        cases h
      exact if_neg fun hfirst => Bool.false_ne_true (hfirst.2.symm.trans hhalt)

theorem decided_self (c : Command) (legacy : Option Bool) : decided c (decided c legacy) = decided c legacy := by
  by_cases h : legacy = none ∧ (Update.command c).isHalt = false
  · rw [decided, decided, if_pos h]
    rfl
  · have hsame : decided c legacy = legacy := if_neg h
    rw [hsame, hsame]

/-- A command that is not relative decides the generation and overwrites fields, and is remembered if it is for engines
and trains at all. -/
theorem applyCommand_imprint (hc : c.isRelative = false) (hgraph : rules.graph = .stock) (s : MotiveState)
    (hnew : s.profile.repeats c rules.settings.duplicateWindow now = false) :
    (s.applyCommand rules now c).1 = ((Imprint.ofCommand c s.direction).on (s.latchGeneration c)).lastTold
      (if c.isRemembered then some (.command c, now) else s.profile.last) := by
  have hprofile : (s.latchGeneration c).profile = s.profile := congrArg Prod.snd (identity_latchGeneration s c)
  have hdirection : (s.latchGeneration c).direction = s.direction := by
    rw [latchGeneration_decided]
  rw [← hprofile] at hnew
  unfold applyCommand Imprint.ofCommand Command.isRemembered
  dsimp only
  rw [hnew, ← hprofile, ← hdirection]
  generalize s.latchGeneration c = latched
  by_cases hhalt : (Update.command c).isHalt = true
  · rw [hhalt]
    rfl
  rw [(Bool.not_eq_true _).mp hhalt]
  cases hoperation : c.operation with
  | engine generation op =>
      have hop : op ∉ EngineOp.relative := by
        simp only [Command.isRelative, hoperation, Bool.or_eq_false_iff] at hc
        exact fun hmem => Bool.false_ne_true (hc.1.symm.trans (List.contains_iff_mem.mpr hmem))
      have hfields := applyFields_imprint generation op c.data _ latched hop (Effects.has_rpmDown_stock hc)
        rules.settings.auxPulseWindow now
      have hnumbered := applyNumeric_imprint generation op c.data (Effects.ofCommand .stock c) latched
      have hkeeps : (latched.applyNumeric op c.data (Effects.ofCommand .stock c)).keepsDirection op = true ↔
          (op = .forwardDirection ∨ op = .reverseDirection) ∧ latched.direction = some op := by
        rw [hnumbered, keepsDirection, Bool.and_eq_true, Bool.or_eq_true, beq_iff_eq, beq_iff_eq, beq_iff_eq]
        rfl
      simp only [applyOperation, hgraph, Bool.false_eq_true, if_false, Bool.false_or, if_true]
      by_cases hkept : (op = .forwardDirection ∨ op = .reverseDirection) ∧ latched.direction = some op
      · rw [if_pos (hkeeps.mpr hkept), if_pos hkept, hnumbered]
        rfl
      · rw [if_neg (mt hkeeps.mp hkept), if_neg hkept, hfields]
        rfl
  | _ => rfl

/-! ## Commands that change nothing any more -/

/-- Whether a command that is not relative would change nothing of a state. -/
def Fulfils (c : Command) (s : MotiveState) : Prop :=
  s.latchGeneration c = s ∧ (Imprint.ofCommand c s.direction).on s = s

theorem fulfils_map {f : MotiveState → MotiveState} (hlatch : (f s).latchGeneration c = f (s.latchGeneration c))
    (hdirection : (f s).direction = s.direction) (hon : ∀ i : Imprint, i.on (f s) = f (i.on s)) (h : Fulfils c s) :
    Fulfils c (f s) := by
  obtain ⟨hlatched, himprint⟩ := h
  refine ⟨hlatch.trans (congrArg f hlatched), ?_⟩
  rw [hdirection, hon, himprint]

theorem fulfils_withProfile (h : Fulfils c s) (p : Profile) : Fulfils c { s with profile := p } := by
  refine fulfils_map (f := fun s => { s with profile := p }) ?_ rfl (fun _ => rfl) h
  rw [latchGeneration_decided, latchGeneration_decided]

theorem fulfils_applySighting (h : Fulfils c s) (sighting : Sighting) : Fulfils c (s.applySighting sighting).1 := by
  unfold applySighting
  cases sighting.product with
  | none => exact h
  | some product =>
      exact fulfils_map (f := fun s => { s with
        profile := s.profile.bindNames (some product.name) (some product.number)
        year := if product.year = 0 then s.year else some product.year
        maxSpeed := if product.maxSpeed = 0 then s.maxSpeed else some product.maxSpeed })
        (by rw [latchGeneration_decided, latchGeneration_decided]) rfl (fun _ => rfl) h

/-- Another command decides the generation only if this one does not. -/
theorem fulfils_latchGeneration (h : Fulfils c s) (d : Command) : Fulfils c (s.latchGeneration d) := by
  have hdecided : decided c s.legacy = s.legacy := by
    have hlatched := congrArg MotiveState.legacy h.1
    rwa [latchGeneration_decided] at hlatched
  rw [latchGeneration_decided]
  refine fulfils_map (f := fun s => { s with legacy := decided d s.legacy }) ?_ rfl (fun _ => rfl) h
  rw [latchGeneration_decided, latchGeneration_decided]
  dsimp only
  rw [decided_decided c d hdecided, hdecided]

/-- A command leaves a state in which it changes nothing any more. -/
theorem fulfils_applyCommand (hc : c.isRelative = false) (hgraph : rules.graph = .stock) (s : MotiveState)
    (hnew : s.profile.repeats c rules.settings.duplicateWindow now = false) :
    Fulfils c (s.applyCommand rules now c).1 := by
  have himprint := Imprint.ofCommand_on c (s.latchGeneration c)
  rw [applyCommand_imprint hc hgraph s hnew]
  rw [latchGeneration_decided] at himprint ⊢
  refine fulfils_withProfile ⟨?_, himprint⟩ _
  rw [latchGeneration_decided]
  show { (Imprint.ofCommand c s.direction).on { s with legacy := decided c s.legacy } with
    legacy := decided c (decided c s.legacy) } = _
  rw [decided_self]
  rfl

end MotiveState
end RailLayout
