import RailLayout.Proofs.State.Known
import RailLayout.Proofs.State.Motive.Relatched

/-!
What an engine or a train comes to know. A command without data makes known what its operation sets and what its effects
set, and decides the generation (`MotiveState.learns_update_held`); a record makes known what it marks as valid
(`MotiveState.knows_applyRecordFields`).
-/

namespace RailLayout

/-- The fields that an operation without data sets itself, whatever it results in. -/
def EngineOp.sets (op : EngineOp) : StateField → Bool
  | .direction => op == .forwardDirection || op == .reverseDirection
  | .aux => op == .aux1OptionOne || op == .aux2OptionOne
  | .aux1 => op == .aux1OptionOne
  | .aux2 => op == .aux2OptionOne
  | .rpm => op == .rpmUp
  | .momentum => op == .momentumLow || op == .momentumMedium || op == .momentumHigh
  | _ => false

/-- The fields that effects set. -/
def Effects.sets (effects : TriggerSet) : StateField → Bool
  | .numeric => (data? effects .numeric).isSome
  | .direction => has effects .forwardDirection || has effects .reverseDirection
  | .trainBrake => (data? effects .trainBrake).isSome
  | .smoke => (effects.findSome? SmokeLevel.ofTrigger?).isSome
  | .aux1 => effects.any fun t => (bareOp? t).any setsAux1
  | .aux2 => effects.any fun t => (bareOp? t).any setsAux2
  | .rpm => has effects .rpmDown || (data? effects .dieselRpm).isSome || has effects .dieselRpm
  | .labor => (data? effects .engineLabor).isSome
  | .speed => (data? effects .absoluteSpeed).isSome || has effects .stopImmediate
  | .started => effects.any isStart || effects.any isShutdown
  | _ => false

/-- The effects of an operation without data. -/
def EffectGraph.effects (graph : EffectGraph) (generation : Generation) (op : EngineOp) : TriggerSet :=
  Effects.canonicalSet (graph.resultsIn (Operation.engine generation op).trigger true false)

namespace MotiveState

variable {P : StateField → Prop} {r s t : MotiveState} {rules : Rules}

/-- Whether everything that is known in a state was known in the one before, except for some fields. -/
def Learns (P : StateField → Prop) (s t : MotiveState) : Prop :=
  ∀ field, t.knows field = true → s.knows field = true ∨ P field

theorem learns_refl (s : MotiveState) : Learns P s s := fun _ => Or.inl

theorem learns_trans (h : Learns P r s) (h' : Learns P s t) : Learns P r t :=
  fun field hknows => (h' field hknows).elim (h field) Or.inr

/-- A step that touches one field only may make known this field only. -/
theorem learns_of_others (written : StateField) (hothers : ∀ field, field ≠ written → t.knows field = s.knows field)
    (hwritten : t.knows written = true → s.knows written = true ∨ P written) : Learns P s t := by
  intro field hknows
  by_cases hfield : field = written
  · subst hfield
    exact hwritten hknows
  · exact Or.inl (hothers field hfield ▸ hknows)

theorem learns_record (h : P .lastUpdate) (u : Update) (now : Nat) : Learns P s (s.record u now) := by
  refine learns_of_others .lastUpdate (fun field hfield => ?_) fun _ => Or.inr h
  cases field <;> first | rfl | exact absurd rfl hfield

theorem learns_latchGeneration (h : P .legacy) (c : Command) : Learns P s (s.latchGeneration c) := by
  refine learns_of_others .legacy (fun field hfield => ?_) fun _ => Or.inr h
  unfold latchGeneration
  split
  · cases field <;> first | rfl | exact absurd rfl hfield
  · rfl

/-! ## Commands without data -/

section Command

variable {op : EngineOp} {effects : TriggerSet}

/-- What is set by effects is set whatever the operation. -/
def EffectsSet (P : StateField → Prop) (effects : TriggerSet) : Prop := ∀ field, Effects.sets effects field = true → P field

variable (hset : EffectsSet P effects) (hop : ∀ field, op.sets field = true → P field)

section Effects
include hset

theorem learns_applyNumeric (op : EngineOp) : Learns P s (s.applyNumeric op none effects) := by
  refine learns_of_others .numeric (fun field hfield => ?_) ?_ <;> unfold applyNumeric
  · repeat' split
    all_goals cases field <;> first | rfl | exact absurd rfl hfield
  · split
    · nofun
    · split
      · rename_i n hn
        exact fun _ => Or.inr (hset .numeric (Option.isSome_of_eq_some hn))
      · exact Or.inl

theorem learns_applyTrainBrake (op : EngineOp) : Learns P s (s.applyTrainBrake op none effects) := by
  refine learns_of_others .trainBrake (fun field hfield => ?_) ?_ <;> unfold applyTrainBrake
  · repeat' split
    all_goals cases field <;> first | rfl | exact absurd rfl hfield
  · split
    · nofun
    · split
      · rename_i b hb
        exact fun _ => Or.inr (hset .trainBrake (Option.isSome_of_eq_some hb))
      · exact Or.inl

theorem learns_applySmoke : Learns P s (s.applySmoke effects) := by
  refine learns_of_others .smoke (fun field hfield => ?_) ?_ <;> unfold applySmoke
  · split
    all_goals cases field <;> first | rfl | exact absurd rfl hfield
  · split
    · rename_i level hlevel
      exact fun _ => Or.inr (hset .smoke (Option.isSome_of_eq_some hlevel))
    · exact Or.inl

theorem learns_applyLabor (op : EngineOp) : Learns P s (s.applyLabor op none effects) := by
  refine learns_of_others .labor (fun field hfield => ?_) ?_ <;> unfold applyLabor
  · repeat' split
    all_goals cases field <;> first | rfl | exact absurd rfl hfield
  · split
    · nofun
    · split
      · rename_i l hl
        exact fun _ => Or.inr (hset .labor (Option.isSome_of_eq_some hl))
      · exact Or.inl

theorem learns_applySpeed (op : EngineOp) : Learns P s (s.applySpeed op none effects) := by
  refine learns_of_others .speed (fun field hfield => ?_) ?_ <;> unfold applySpeed
  · repeat' split
    all_goals cases field <;> first | rfl | exact absurd rfl hfield
  · split
    · nofun
    · split
      · rename_i v hv
        exact fun _ => Or.inr (hset .speed (Bool.or_eq_true_iff.mpr (Or.inl (Option.isSome_of_eq_some hv))))
      · split
        · rename_i hstop
          exact fun _ => Or.inr (hset .speed (Bool.or_eq_true_iff.mpr (Or.inr hstop)))
        · exact Or.inl

theorem learns_applyStart : Learns P s (s.applyStart effects) := by
  refine learns_of_others .started (fun field hfield => ?_) ?_ <;> unfold applyStart
  · repeat' split
    all_goals cases field <;> first | rfl | exact absurd rfl hfield
  · split
    · rename_i hstart
      exact fun _ => Or.inr (hset .started (Bool.or_eq_true_iff.mpr (Or.inl hstart)))
    · split
      · rename_i hshutdown
        exact fun _ => Or.inr (hset .started (Bool.or_eq_true_iff.mpr (Or.inr hshutdown)))
      · exact Or.inl

/-- Effects set an output if one of them does. -/
theorem learns_applyOutput {t : Trigger} (ht : t ∈ effects) : Learns P s (s.applyOutput t) := by
  have hany : ∀ {output : EngineOp → Bool} {op}, Effects.bareOp? t = some op → output op = true →
      (effects.any fun t => (Effects.bareOp? t).any output) = true := by
    intro output op hbare hsets
    exact List.any_eq_true.mpr ⟨t, ht, by rw [hbare]; exact hsets⟩
  unfold applyOutput
  split
  · rename_i op hbare
    split
    · rename_i hsets
      refine learns_of_others .aux1 (fun field hfield => ?_) fun _ => Or.inr (hset .aux1 (hany hbare hsets))
      cases field <;> first | rfl | exact absurd rfl hfield
    · split
      · rename_i hsets
        refine learns_of_others .aux2 (fun field hfield => ?_) fun _ => Or.inr (hset .aux2 (hany hbare hsets))
        cases field <;> first | rfl | exact absurd rfl hfield
      · exact learns_refl s
  · exact learns_refl s

theorem learns_applyOutputs : Learns P s (s.applyOutputs effects) := by
  have hfold : ∀ triggers : TriggerSet, (∀ t ∈ triggers, t ∈ effects) → ∀ r, Learns P r (triggers.foldl applyOutput r) := by
    intro triggers
    induction triggers with
    | nil => exact fun _ r => learns_refl r
    | cons t rest ih =>
        intro hall r
        exact learns_trans (learns_applyOutput hset (hall t List.mem_cons_self))
          (ih (fun u hu => hall u (List.mem_cons_of_mem t hu)) _)
  exact hfold effects (fun _ ht => ht) s

end Effects

section Operation
include hset hop

theorem learns_applyDirection (generation : Generation) : Learns P s (s.applyDirection generation op effects) := by
  refine learns_of_others .direction (fun field hfield => ?_) ?_ <;> unfold applyDirection
  · repeat' split
    all_goals cases field <;> first | rfl | exact absurd rfl hfield
  · split
    · rename_i hturn
      refine fun _ => Or.inr (hop .direction (Bool.or_eq_true_iff.mpr ?_))
      exact hturn.imp beq_iff_eq.mpr beq_iff_eq.mpr
    · split
      · -- Only a direction that is known can be reversed.
        split
        · rename_i dir hdir
          refine fun _ => Or.inl ?_
          unfold reversed at hdir
          split at hdir
          · rename_i hknown _
            exact Option.isSome_of_eq_some hknown
          · cases hdir
        · nofun
      · split
        · rename_i hforward
          exact fun _ => Or.inr (hset .direction (Bool.or_eq_true_iff.mpr (Or.inl hforward)))
        · split
          · rename_i hreverse
            exact fun _ => Or.inr (hset .direction (Bool.or_eq_true_iff.mpr (Or.inr hreverse)))
          · exact Or.inl

theorem learns_applyRpm : Learns P s (s.applyRpm op none effects) := by
  refine learns_of_others .rpm (fun field hfield => ?_) ?_ <;> unfold applyRpm
  · repeat' split
    all_goals cases field <;> first | rfl | exact absurd rfl hfield
  · have heffects : ∀ {a b c : Bool}, a = true ∨ b = true ∨ c = true → (a || b || c) = true := by decide
    split
    · nofun
    · split
      · rename_i hup
        exact fun _ => Or.inr (hop .rpm (beq_iff_eq.mpr hup))
      · split
        · rename_i hdown
          exact fun _ => Or.inr (hset .rpm (heffects (Or.inl hdown)))
        · split
          · rename_i r hr
            exact fun _ => Or.inr (hset .rpm (heffects (Or.inr (Or.inl (Option.isSome_of_eq_some hr)))))
          · split
            · rename_i hrpm
              exact fun _ => Or.inr (hset .rpm (heffects (Or.inr (Or.inr hrpm))))
            · exact Or.inl

end Operation

section Operation
include hop

theorem learns_applyPress (window now : Nat) : Learns P s (s.applyPress window now op) := by
  unfold applyPress
  split
  · rename_i hkey
    subst hkey
    intro field hknows
    cases field
    case aux => exact Or.inr (hop .aux rfl)
    case aux1 => exact Or.inr (hop .aux1 rfl)
    all_goals exact Or.inl hknows
  · split
    · rename_i hkey
      subst hkey
      intro field hknows
      cases field
      case aux => exact Or.inr (hop .aux rfl)
      case aux2 => exact Or.inr (hop .aux2 rfl)
      all_goals exact Or.inl hknows
    · exact learns_refl s

theorem learns_applyMomentum : Learns P s (s.applyMomentum op none) := by
  refine learns_of_others .momentum (fun field hfield => ?_) ?_ <;> unfold applyMomentum
  · split
    all_goals cases field <;> first | rfl | exact absurd rfl hfield
  · split
    · exact fun _ => Or.inr (hop .momentum rfl)
    · exact fun _ => Or.inr (hop .momentum rfl)
    · exact fun _ => Or.inr (hop .momentum rfl)
    · nofun
    · exact Or.inl

end Operation

section Operation
include hset hop

theorem learns_applyFields (window now : Nat) (generation : Generation) :
    Learns P s (s.applyFields window now generation op none effects) := by
  have hturned := learns_trans (learns_applyDirection (s := s) hset hop generation) (learns_applyTrainBrake hset op)
  have hpressed := learns_trans (learns_trans hturned (learns_applySmoke hset)) (learns_applyPress hop window now)
  have hset' := learns_trans (learns_trans hpressed (learns_applyOutputs hset)) (learns_applyRpm hset hop)
  have hmoved := learns_trans (learns_trans hset' (learns_applyLabor hset op)) (learns_applySpeed hset op)
  exact learns_trans (learns_trans hmoved (learns_applyMomentum hop)) (learns_applyStart hset)

end Operation
end Command

/-! ## The commands that a state is held by -/

/-- A command for an operation that a state can be held by makes known what the operation sets and what its effects set,
besides the generation. -/
theorem learns_update_held {generation : Generation} {address : UInt16} {op : EngineOp} (hslot : op.slot?.isSome = true)
    (hbound : s.profile.address = some address) (hset : EffectsSet P (rules.graph.effects generation op))
    (hop : ∀ field, op.sets field = true → P field) (hlegacy : P .legacy) (hlast : P .lastUpdate) (now : Nat) :
    Learns P s (s.update rules now (.command (holding generation s.kind address op))).state := by
  have haccept : s.profile.accept s.kind.scope (.command (holding generation s.kind address op)) = .ok s.profile :=
    Profile.accept_bound hbound rfl
  have hlatched : Learns P s (s.latchGeneration (holding generation s.kind address op)) := learns_latchGeneration hlegacy _
  rw [update_command haccept, applyCommand, isHalt_holding hslot]
  dsimp only
  split
  · exact hlatched
  · have hnumbered := learns_trans hlatched (learns_applyNumeric hset op)
    rw [if_neg Bool.false_ne_true]
    show Learns P s (applyOperation rules now (holding generation s.kind address op) generation op _).1
    unfold applyOperation
    dsimp only
    split
    · exact learns_trans hnumbered (learns_record hlast _ now)
    · exact learns_trans (learns_trans hnumbered (learns_applyFields hset hop _ now generation)) (learns_record hlast _ now)

theorem kind_update (rules : Rules) (now : Nat) (u : Update) (s : MotiveState) :
    (s.update rules now u).state.kind = s.kind := by
  have hscope : (s.update rules now u).state.kind.scope = s.kind.scope := Component.scope_update rules now u (.motive s)
  revert hscope
  cases (s.update rules now u).state.kind <;> cases s.kind <;> first | exact fun _ => rfl | nofun

theorem learns_run_held {generation : Generation} {kind : MotiveKind} {address : UInt16} {ops : List EngineOp}
    (hslots : ∀ op ∈ ops, op.slot?.isSome = true) (hset : ∀ op ∈ ops, EffectsSet P (rules.graph.effects generation op))
    (hop : ∀ op ∈ ops, ∀ field, op.sets field = true → P field) (hlegacy : ops ≠ [] → P .legacy) (hlast : P .lastUpdate)
    {timed : List (Nat × Update)}
    (htimed : timed.map Prod.snd = ops.map fun op => .command (holding generation kind address op))
    (hkind : s.kind = kind) (hbound : s.profile.address = some address) : Learns P s (s.run rules timed) := by
  induction ops generalizing s timed with
  | nil =>
      rw [List.map_nil, List.map_eq_nil_iff] at htimed
      rw [htimed]
      exact learns_refl s
  | cons op rest ih =>
      obtain ⟨⟨now, u⟩, more, rfl, rfl, hmore⟩ := List.map_eq_cons_iff.mp htimed
      subst hkind
      let told : Update := .command (holding generation s.kind address op)
      have hfirst := learns_update_held (s := s) (hslots op List.mem_cons_self) hbound (hset op List.mem_cons_self)
        (hop op List.mem_cons_self) (hlegacy (List.cons_ne_nil op rest)) hlast now
      have hrest := ih (fun other hother => hslots other (List.mem_cons_of_mem op hother))
        (fun other hother => hset other (List.mem_cons_of_mem op hother))
        (fun other hother => hop other (List.mem_cons_of_mem op hother)) (fun _ => hlegacy (List.cons_ne_nil op rest)) hmore
        (kind_update rules now told s) (address_run hbound [(now, told)])
      exact learns_trans hfirst hrest

/-! ## The record -/

/-- The field of a record that says what a field of an engine or a train is. -/
def recordField? : StateField → Option RecordField
  | .roadName => some .roadName
  | .roadNumber => some .roadNumber
  | .legacy => some .controlType
  | .speed => some .speed
  | .speedLimit => some .speedLimit
  | .maxSpeed => some .maxSpeed
  | .momentum => some .momentum
  | .trainBrake => some .trainBrake
  | .rpm => some .runLevel
  | .labor => some .laborBias
  | .smoke => some .smokeLevel
  | .locoType => some .locoType
  | .controlType => some .controlType
  | .soundType => some .soundType
  | .classType => some .classType
  | .fuelLevel => some .fuelLevel
  | .waterLevel => some .waterLevel
  | _ => none

/-- A record makes known only what it marks as valid. -/
theorem knows_applyRecordFields {m : RecordMessage} {kind : MotiveKind} {mask : UInt32} {record : MotiveRecord}
    (hcontents : m.contents = .motive kind mask record) {field : StateField}
    (h : (s.applyRecordFields m record).knows field = true) :
    s.knows field = true ∨ ∃ valid, recordField? field = some valid ∧ m.has valid = true := by
  by_cases hmarked : ∃ valid, recordField? field = some valid ∧ m.has valid = true
  · exact Or.inr hmarked
  · have hunmarked : ∀ {valid}, recordField? field = some valid → ¬m.has valid = true :=
      fun hfield hvalid => hmarked ⟨_, hfield, hvalid⟩
    have hname : ¬m.has .roadName = true → m.name? = none := by
      intro hnone
      rw [RecordMessage.name?, hcontents]
      exact if_neg hnone
    have hnumber : ¬m.has .roadNumber = true → m.number? = none := by
      intro hnone
      rw [RecordMessage.number?, hcontents]
      exact if_neg hnone
    have hsame : (s.applyRecordFields m record).knows field = s.knows field := by
      unfold applyRecordFields
      dsimp only
      cases field
      case legacy | controlType =>
        rw [if_neg (hunmarked rfl)]
        rfl
      case roadName =>
        rw [hname (hunmarked rfl)]
        split <;> rfl
      case roadNumber =>
        rw [hnumber (hunmarked rfl)]
        split <;> rfl
      case speed | speedLimit | maxSpeed | momentum | trainBrake | rpm | labor | smoke | locoType | soundType |
          classType | fuelLevel | waterLevel =>
        simp only [if_neg (hunmarked rfl)]
        split <;> rfl
      all_goals split <;> rfl
    exact Or.inl (hsame ▸ h)

/-- What the record of a state marks as valid is known, but that a control type can go with the generation. -/
theorem knows_of_has_toRecord {field : StateField} {valid : RecordField} (hfield : recordField? field = some valid)
    (h : s.toRecord.has valid = true) :
    s.knows field = true ∨ ((field = .legacy ∨ field = .controlType) ∧ (s.controlType.isSome || s.legacy.isSome) = true) := by
  cases field <;> cases hfield
  case legacy | controlType =>
    refine Or.inr ⟨by decide, ?_⟩
    rw [← h]
    show _ = (s.controlType.or (s.legacy.map _)).isSome
    rw [Option.isSome_or, Option.isSome_map]
  case speed | labor | smoke | trainBrake | momentum => exact Or.inl (Option.isSome_map.symm.trans h)
  all_goals exact Or.inl h

end MotiveState
end RailLayout
