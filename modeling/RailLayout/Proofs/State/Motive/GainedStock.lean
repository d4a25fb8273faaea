import RailLayout.Proofs.State.Motive.Gained

/-!
What an engine or a train that is brought back gains under the stock graph. The effects of the commands that the original
one is held by are few there, so what can be gained is little (`MotiveState.knows_or_gains`), and all of it is gained
(`MotiveState.knows_run_script`).
-/

namespace RailLayout

namespace MotiveState

variable {kind : MotiveKind} {s : MotiveState} {rules : Rules}

/-- What an engine or a train gains under the stock graph if it did not know it. Anything that is sent is remembered as
the last update. A record spells the generation as a control type, and the flags of the members with the members. The
commands that it is held by decide the generation. A direction stops it, a direction or a shutdown of the Legacy
generation also brings engine speed and labor to rest, and a start, a shutdown and a level of smoke of the other
generation are number keys. -/
def GainsStock (s : MotiveState) : StateField → Prop
  | .lastUpdate => s.script ≠ []
  | .controlType => s.SendsRecord ∧ s.legacy.isSome = true
  | .consistFlags => s.SendsRecord ∧ s.kind = .train ∧ s.consist ≠ []
  | .legacy => s.heldOps ≠ []
  | .speed => s.heldPull ≠ .none
  | .rpm => s.heldPull = .rest
  | .labor => s.heldPull = .rest
  | .numeric => s.generation = .tmcc ∧ (s.started.isSome = true ∨ s.smoke.isSome = true)
  | _ => False

/-! ## What can be gained -/

/-- The effects of an operation that a state can be held by set, under the stock graph, the field that it stands for and
what it pulls or presses. -/
theorem sets_held (generation : Generation) {op : EngineOp} (hop : op.slot?.isSome = true) {field : StateField}
    (h : Effects.sets (Effects.held generation op) field = true) :
    op.slot?.map slotField = some field ∨ (field = .speed ∧ op.pull generation ≠ .none) ∨
      ((field = .rpm ∨ field = .labor) ∧ op.pull generation = .rest) ∨
        (field = .numeric ∧ generation = .tmcc ∧ (op.slot? = some 0 ∨ op.slot? = some 1)) := by
  have htable : ∀ g ∈ [Generation.tmcc, Generation.legacy], ∀ op ∈ EngineOp.all, op.slot?.isSome = true →
      ∀ field ∈ StateField.all, Effects.sets (Effects.held g op) field = true →
        op.slot?.map slotField = some field ∨ (field = .speed ∧ op.pull g ≠ .none) ∨
          ((field = .rpm ∨ field = .labor) ∧ op.pull g = .rest) ∨
            (field = .numeric ∧ g = .tmcc ∧ (op.slot? = some 0 ∨ op.slot? = some 1)) := by
    decide +kernel
  exact htable generation (by cases generation <;> decide) op op.mem_all hop field field.mem_all h

theorem heldPull_of_mem (h : Coherent kind s) {op : EngineOp} (hop : op ∈ s.heldOps)
    (hpull : op.pull s.generation ≠ .none) : s.heldPull = op.pull s.generation := by
  have hturn : op.slot? = some 2 → s.direction.isSome = true := fun hslot => knows_slotField h hop (congrArg _ hslot)
  unfold heldPull
  cases hgeneration : s.generation with
  | legacy =>
      rw [hgeneration] at hpull
      cases op
      case forwardDirection | reverseDirection => exact if_pos (Or.inl (hturn rfl))
      case shutdownImmediate =>
        have hheld : s.latches.held 0 = some .shutdownImmediate := held_of_mem h hop rfl (by decide)
        obtain ⟨started, hstarted, hop⟩ := Option.map_eq_some_iff.mp hheld
        cases started
        · exact if_pos (Or.inr hstarted)
        · cases hop
      all_goals exact absurd rfl hpull
  | tmcc =>
      rw [hgeneration] at hpull
      cases op
      case forwardDirection | reverseDirection => exact if_pos (hturn rfl)
      all_goals exact absurd rfl hpull

/-- Under the stock graph the commands that an engine or a train is held by set nothing by their effects that is neither
known nor gained. -/
theorem knows_or_gains (h : Coherent kind s) {op : EngineOp} (hop : op ∈ s.heldOps) {field : StateField}
    (hsets : Effects.sets (EffectGraph.stock.effects s.generation op) field = true) :
    s.knows field = true ∨ s.GainsStock field := by
  have hslot := isSome_slot?_of_mem_heldOps h hop
  have heffects : EffectGraph.stock.effects s.generation op = Effects.held s.generation op :=
    Effects.ofCommand_held hslot s.generation 0 .engine
  rw [heffects] at hsets
  rcases sets_held s.generation hslot hsets with hown | ⟨rfl, hpull⟩ | ⟨hfield, hpull⟩ | ⟨rfl, hgeneration, hkey⟩
  · exact Or.inl (knows_slotField h hop hown)
  · refine Or.inr ?_
    rw [GainsStock, heldPull_of_mem h hop hpull]
    exact hpull
  · have hrest : s.heldPull = .rest := by
      rw [heldPull_of_mem h hop (by rw [hpull]; decide), hpull]
    rcases hfield with rfl | rfl <;> exact Or.inr hrest
  · refine Or.inr ⟨hgeneration, hkey.imp (fun hstart => ?_) fun hlevel => ?_⟩
    · exact knows_slotField h hop (congrArg (Option.map slotField) hstart)
    · exact knows_slotField h hop (congrArg (Option.map slotField) hlevel)

/-! ## What is gained for sure -/

section Number

variable (s : MotiveState) (op : EngineOp) (data : Option UInt16) (effects : TriggerSet)

@[simp] theorem numeric_applyDirection (generation : Generation) :
    (s.applyDirection generation op effects).numeric = s.numeric := by
  unfold applyDirection
  repeat' split
  all_goals rfl

@[simp] theorem numeric_applyTrainBrake : (s.applyTrainBrake op data effects).numeric = s.numeric := by
  unfold applyTrainBrake
  repeat' split
  all_goals rfl

@[simp] theorem numeric_applySmoke : (s.applySmoke effects).numeric = s.numeric := by
  unfold applySmoke
  split <;> rfl

@[simp] theorem numeric_applyPress (window now : Nat) : (s.applyPress window now op).numeric = s.numeric := by
  unfold applyPress
  repeat' split
  all_goals rfl

@[simp] theorem numeric_applyOutputs : (s.applyOutputs effects).numeric = s.numeric := by
  unfold applyOutputs
  induction effects generalizing s with
  | nil => rfl
  | cons t rest ih =>
      rw [List.foldl_cons, ih]
      unfold applyOutput
      repeat' split
      all_goals rfl

@[simp] theorem numeric_applyRpm : (s.applyRpm op data effects).numeric = s.numeric := by
  unfold applyRpm
  repeat' split
  all_goals rfl

@[simp] theorem numeric_applyLabor : (s.applyLabor op data effects).numeric = s.numeric := by
  unfold applyLabor
  repeat' split
  all_goals rfl

@[simp] theorem numeric_applySpeed : (s.applySpeed op data effects).numeric = s.numeric := by
  unfold applySpeed
  repeat' split
  all_goals rfl

@[simp] theorem numeric_applyMomentum : (s.applyMomentum op data).numeric = s.numeric := by
  unfold applyMomentum
  split <;> rfl

@[simp] theorem numeric_applyStart : (s.applyStart effects).numeric = s.numeric := by
  unfold applyStart
  repeat' split
  all_goals rfl

/-- Only the number key itself changes the number. -/
@[simp] theorem numeric_applyFields (window now : Nat) (generation : Generation) :
    (s.applyFields window now generation op data effects).numeric = s.numeric := by
  simp only [applyFields, numeric_applyDirection, numeric_applyTrainBrake, numeric_applySmoke, numeric_applyPress,
    numeric_applyOutputs, numeric_applyRpm, numeric_applyLabor, numeric_applySpeed, numeric_applyMomentum,
    numeric_applyStart]

end Number

/-- The fields that no command makes unknown that a state can be held by, other than those that it stands for and those
that it moves. -/
def Lasts : StateField → Prop
  | .controlType | .consistFlags | .legacy | .numeric | .lastUpdate => True
  | _ => False

/-- What such a command makes known under the stock graph, whatever the state: the generation, the last update, and the
number if the command is a number key. -/
def Presses (generation : Generation) (op : EngineOp) : StateField → Prop
  | .legacy => True
  | .lastUpdate => True
  | .numeric => (Effects.data? (Effects.held generation op) .numeric).isSome = true
  | _ => False

/-- A start, a shutdown and a level of smoke of the older generation are number keys. -/
theorem exists_key (hgeneration : s.generation = .tmcc) (hknown : s.started.isSome = true ∨ s.smoke.isSome = true) :
    ∃ op ∈ s.heldOps, (Effects.data? (Effects.held .tmcc op) .numeric).isSome = true := by
  simp only [heldOps, List.mem_append, Option.mem_toList]
  rcases hknown with hstart | hsmoke
  · obtain ⟨started, hstarted⟩ := Option.isSome_iff_exists.mp hstart
    refine ⟨_, Or.inl (Or.inl (Or.inl (Or.inl (Or.inl (congrArg _ hstarted))))), ?_⟩
    cases started <;> decide +kernel
  · obtain ⟨level, hlevel⟩ := Option.isSome_iff_exists.mp hsmoke
    refine ⟨_, Or.inl (Or.inl (Or.inl (Or.inl (Or.inr (congrArg _ hlevel))))), ?_⟩
    rw [hgeneration]
    cases level <;> decide +kernel

theorem isSome_legacy_latchGeneration (s : MotiveState) {c : Command} (hhalt : (Update.command c).isHalt = false) :
    (s.latchGeneration c).legacy.isSome = true := by
  unfold latchGeneration
  split
  · rfl
  · rename_i hlatched
    exact Option.isSome_iff_ne_none.mpr fun hnone => hlatched ⟨hnone, hhalt⟩

theorem knows_latchGeneration (s : MotiveState) (c : Command) {field : StateField} (h : s.knows field = true) :
    (s.latchGeneration c).knows field = true := by
  unfold latchGeneration
  split
  · cases field
    case legacy => rfl
    all_goals exact h
  · exact h

theorem dossier_update_held {generation : Generation} {address : UInt16} (hbound : s.profile.address = some address)
    (rules : Rules) (now : Nat) (op : EngineOp) :
    (s.update rules now (.command (holding generation s.kind address op))).state.dossier =
      (s.latchGeneration (holding generation s.kind address op)).dossier := by
  rw [update_command (Profile.accept_bound hbound rfl)]
  exact dossier_applyCommand _ rules now _

/-- The number after such a command is that of the key that it is, if it is one. -/
theorem numeric_update_held {generation : Generation} {address : UInt16} {op : EngineOp} (hop : op.slot?.isSome = true)
    (hbound : s.profile.address = some address) (hready : Ready s (holding generation s.kind address) op)
    (settings : Settings) (now : Nat) :
    (s.update ⟨.stock, settings⟩ now (.command (holding generation s.kind address op))).state.numeric =
      (Effects.data? (Effects.held generation op) .numeric).or s.numeric := by
  have hkey : op ≠ .numeric := ne_of_slot?_eq_none hop rfl
  have hlatched : (s.latchGeneration (holding generation s.kind address op)).numeric = s.numeric := by
    unfold latchGeneration
    split <;> rfl
  rw [update_held hop hbound hready settings now]
  show (applyFields _ _ _ _ _ _ _).numeric = _
  rw [numeric_applyFields, applyNumeric, if_neg hkey]
  cases Effects.data? (Effects.held generation op) .numeric with
  | some n => rfl
  | none => exact hlatched

theorem knows_update_held {field : StateField} (hlasts : Lasts field) {generation : Generation} {address : UInt16}
    {op : EngineOp} (hop : op.slot?.isSome = true) (hbound : s.profile.address = some address)
    (hready : Ready s (holding generation s.kind address) op) (settings : Settings) (now : Nat)
    (h : s.knows field = true ∨ Presses generation op field) :
    (s.update ⟨.stock, settings⟩ now (.command (holding generation s.kind address op))).state.knows field = true := by
  have hdossier : (s.update ⟨.stock, settings⟩ now (.command (holding generation s.kind address op))).state.dossier =
      (s.latchGeneration (holding generation s.kind address op)).dossier := dossier_update_held hbound _ now op
  have hlatched : s.knows field = true → (s.latchGeneration (holding generation s.kind address op)).knows field = true :=
    knows_latchGeneration s _
  cases field
  case controlType =>
    exact (congrArg (·.controlType.isSome) hdossier).trans (hlatched (h.resolve_right id))
  case consistFlags =>
    exact (congrArg (·.consistFlags.isSome) hdossier).trans (hlatched (h.resolve_right id))
  case legacy =>
    exact (congrArg (·.legacy.isSome) hdossier).trans
      (isSome_legacy_latchGeneration s (isHalt_holding hop generation s.kind address))
  case numeric =>
    show (update _ _ _ _).state.numeric.isSome = true
    rw [numeric_update_held hop hbound hready, Option.isSome_or]
    exact Bool.or_eq_true_iff.mpr h.symm
  case lastUpdate => exact congrArg (·.profile.last.isSome) (core_update_held hop hbound hready settings now)
  all_goals exact absurd hlasts id

/-- What one of the commands makes known is known after all of them, and what was known before still is. -/
theorem knows_run_held {field : StateField} (hlasts : Lasts field) (settings : Settings) {generation : Generation}
    {kind : MotiveKind} {address : UInt16} {ops : List EngineOp} {s : MotiveState} {timed : List (Nat × Update)}
    (htimed : timed.map Prod.snd = ops.map fun op => .command (holding generation kind address op))
    (hkind : s.kind = kind) (hbound : s.profile.address = some address)
    (hheld : ∀ op ∈ ops, op.slot?.isSome = true) (hslots : ops.Pairwise fun a b => a.slot? ≠ b.slot?)
    (hready : ∀ op ∈ ops, Ready s (holding generation kind address) op)
    (h : s.knows field = true ∨ ∃ op ∈ ops, Presses generation op field) :
    (s.run ⟨.stock, settings⟩ timed).knows field = true := by
  revert h
  refine run_held_induction settings (P := fun s ops t =>
    (s.knows field = true ∨ ∃ op ∈ ops, Presses generation op field) → t.knows field = true) ?_ ?_ htimed hkind hbound
    hheld hslots hready
  · exact fun s h => h.resolve_right fun ⟨_, hop, _⟩ => absurd hop List.not_mem_nil
  · intro s t op rest now hop hbound hready hnext h
    have hfirst := knows_update_held hlasts hop hbound hready settings now
    refine hnext ?_
    rcases h with hbefore | ⟨other, hother, hpresses⟩
    · exact Or.inl (hfirst (Or.inl hbefore))
    · rcases List.mem_cons.mp hother with rfl | hother
      · exact Or.inl (hfirst (Or.inr hpresses))
      · exact Or.inr ⟨other, hother, hpresses⟩

/-! ## What the messages before the commands make known -/

/-- A record makes a control type known if it goes with a generation, and flags of members if it has members. -/
theorem knows_update_record {s f : MotiveState} {address : UInt16} (hlow : address ≤ 99) (hkind : f.kind = s.kind)
    (hbound : f.profile.address = some address) (rules : Rules) (now : Nat) {field : StateField}
    (h : field = .lastUpdate ∨ (field = .controlType ∧ s.legacy.isSome = true) ∨
      (field = .consistFlags ∧ s.kind = .train ∧ s.consist ≠ [])) :
    (f.update rules now (.message (.record (s.recordMessage address).resent))).state.knows field = true := by
  rw [update_recordMessage hlow hkind hbound]
  rcases h with rfl | ⟨rfl, hlegacy⟩ | ⟨rfl, htrain, hmembers⟩
  · rfl
  · have hmarked : (s.recordMessage address).resent.has .controlType = true := by
      rw [RecordMessage.has_validMask (r := s.toRecord) rfl]
      show (s.controlType.or (s.legacy.map _)).isSome = true
      rw [Option.isSome_or, Option.isSome_map, hlegacy, Bool.or_true]
    have hread : (f.applyRecordFields (s.recordMessage address).resent (s.toRecord.resent s.kind)).controlType.isSome =
        true := by
      unfold applyRecordFields
      simp only [hmarked, if_true, MotiveRecord.resent]
      rfl
    cases hkind : s.kind with
    | engine => rw [hkind] at hread; exact hread
    | train => rw [hkind] at hread; exact hread
  · rw [htrain]
    have hsent : s.toRecord.consist = s.consist := if_pos htrain
    have hflags : (s.toRecord.resent .train).consistFlags.isSome = true := by
      show (if s.toRecord.consistFlags = none ∧ s.toRecord.consist = [] then none else _).isSome = true
      rw [if_neg fun hnone => hmembers (hsent.symm.trans hnone.2)]
      rfl
    show ((s.toRecord.resent .train).consistFlags.or _).isSome = true
    rw [Option.isSome_or, hflags, Bool.true_or]

theorem run_of_sendsRecord (h : s.SendsRecord) {address : UInt16} (hbound : s.profile.address = some address)
    {timed : List (Nat × Update)}
    (htimed : timed.map Prod.snd = (s.recordUpdates address ++ s.fourDigitUpdates address).map Update.resent) :
    address ≤ 99 ∧ ∃ now, timed = [(now, .message (.record (s.recordMessage address).resent))] := by
  obtain ⟨hfields, other, hlow, hother⟩ := h
  obtain rfl := Option.some.inj (hother.symm.trans hbound)
  rw [fourDigitUpdates_eq_nil s hlow, List.append_nil, recordUpdates_eq s hlow, if_pos hfields] at htimed
  obtain ⟨⟨now, u⟩, rfl, rfl⟩ := List.map_eq_singleton_iff.mp htimed
  exact ⟨hlow, now, rfl⟩

theorem knows_lastUpdate_messages (hlocated : Located s) {address : UInt16} (hbound : s.profile.address = some address)
    (hrange : address ≤ 9999) {f : MotiveState} (hkind : f.kind = s.kind) (hsame : f.profile.address = some address)
    (rules : Rules) {timed : List (Nat × Update)}
    (htimed : timed.map Prod.snd = (s.recordUpdates address ++ s.fourDigitUpdates address).map Update.resent)
    (hsome : s.recordUpdates address ++ s.fourDigitUpdates address ≠ []) :
    (f.run rules timed).knows .lastUpdate = true := by
  by_cases hlow : address ≤ 99
  · have hrecord : s.SendsRecord := by
      rw [fourDigitUpdates_eq_nil s hlow, List.append_nil, recordUpdates_eq s hlow] at hsome
      exact ⟨by_contra fun hnone => hsome (if_neg hnone), address, hlow, hbound⟩
    obtain ⟨-, now, rfl⟩ := run_of_sendsRecord hrecord hbound htimed
    exact knows_update_record hlow hkind hsame rules now (Or.inl rfl)
  · have htarget := fun u => message_of_script (u := u) hlocated hrange
    rw [recordUpdates, if_neg fun h => hlow h.2, List.nil_append] at htimed hsome htarget
    cases hrecord : s.fourDigitRecord with
    | none =>
        rw [fourDigitUpdates, hrecord] at hsome
        exact absurd rfl hsome
    | some recordNo =>
        rw [fourDigitUpdates_of_found hrecord hlow] at htimed htarget
        obtain ⟨⟨now, u⟩, rfl, rfl⟩ := List.map_eq_singleton_iff.mp htimed
        have htold := (htarget _ List.mem_cons_self).2.2
        rw [← hkind] at htold
        have haccept : f.profile.accept f.kind.scope (.message (.fourDigit (s.foundMessage recordNo address))) =
            .ok f.profile := Profile.accept_bound hsame htold
        show (f.update rules now (.message (.fourDigit (s.foundMessage recordNo address)))).state.knows _ = _
        rw [update_message haccept]
        rfl

/-- One that has no address and is held by nothing gains nothing. -/
theorem not_gainsStock_of_unbound (hfree : s.profile.address = none)
    (hlatches : s.latches = ⟨none, none, none, none, none, none⟩) (hsmoke : s.smoke = none) (field : StateField) :
    ¬ s.GainsStock field := by
  have hstarted : s.started = none := congrArg Latches.started hlatches
  have hdirection : s.direction = none := congrArg Latches.direction hlatches
  have hheld : s.heldOps = [] := by
    rw [heldOps, hstarted, hsmoke, hdirection, show s.aux = none from congrArg Latches.aux hlatches,
      show s.aux1 = none from congrArg Latches.aux1 hlatches, show s.aux2 = none from congrArg Latches.aux2 hlatches]
    rfl
  have hpull : s.heldPull = .none := by
    unfold heldPull
    rw [hdirection, hstarted]
    cases s.generation <;> rfl
  have hsilent : s.script = [] := by rw [script, hfree]
  have hrecord : ¬ s.SendsRecord := by
    rintro ⟨-, address, -, hbound⟩
    cases hfree.symm.trans hbound
  intro h
  cases field
  case lastUpdate => exact h hsilent
  case controlType => exact hrecord h.1
  case consistFlags => exact hrecord h.1
  case legacy => exact h hheld
  case speed => exact h hpull
  case rpm | labor => cases hpull.symm.trans h
  case numeric =>
    obtain ⟨-, hstart | hlevel⟩ := h
    · rw [hstarted] at hstart
      cases hstart
    · rw [hsmoke] at hlevel
      cases hlevel
  all_goals exact h

/-- What a state is that was told the messages of a script, before its commands. -/
structure Informed (s : MotiveState) (kind : MotiveKind) (address : UInt16) (f : MotiveState) : Prop where
  kind_eq : f.kind = kind
  bound : f.profile.address = some address
  ready : ∀ op ∈ s.heldOps, Ready f (holding s.generation kind address) op
  controlType : s.SendsRecord → s.legacy.isSome = true → f.knows .controlType = true
  consistFlags : s.SendsRecord → s.kind = .train → s.consist ≠ [] → f.knows .consistFlags = true
  lastUpdate : s.recordUpdates address ++ s.fourDigitUpdates address ≠ [] → f.knows .lastUpdate = true

theorem informed_run (hcoherent : Coherent kind s) (hlocated : Located s) {address : UInt16}
    (hbound : s.profile.address = some address) (hrange : address ≤ 9999) (rules : Rules) {timed : List (Nat × Update)}
    (htimed : timed.map Prod.snd = (s.recordUpdates address ++ s.fourDigitUpdates address).map Update.resent) :
    Informed s kind address ((fresh kind (.fresh (some address))).run rules timed) := by
  have hread (hrecord : s.SendsRecord) {field : StateField}
      (hsent : field = .lastUpdate ∨ (field = .controlType ∧ s.legacy.isSome = true) ∨
        (field = .consistFlags ∧ s.kind = .train ∧ s.consist ≠ [])) :
      ((fresh kind (.fresh (some address))).run rules timed).knows field = true := by
    obtain ⟨hlow, now, rfl⟩ := run_of_sendsRecord hrecord hbound htimed
    exact knows_update_record hlow hcoherent.kind_eq.symm rfl rules now hsent
  obtain ⟨hnew, hlast⟩ := run_messages_of_script hlocated hrange rules htimed
  exact {
    kind_eq := (coherent_run _ kind (.fresh (some address)) timed).kind_eq
    bound := address_run rfl timed
    ready := fun op _ => ready_of_fresh hlast (hnew 2) _ op
    controlType := fun hrecord hlegacy => hread hrecord (Or.inr (Or.inl ⟨rfl, hlegacy⟩))
    consistFlags := fun hrecord htrain hmembers => hread hrecord (Or.inr (Or.inr ⟨rfl, htrain, hmembers⟩))
    lastUpdate := knows_lastUpdate_messages hlocated hbound hrange hcoherent.kind_eq.symm rfl rules htimed }

/-- A state that was told the messages of a script knows after the commands what the script is held by and what its
messages said. -/
theorem knows_run_commands (hcoherent : Coherent kind s) {address : UInt16} {f : MotiveState}
    (hf : Informed s kind address f) (settings : Settings) {timed : List (Nat × Update)}
    (hcommands : timed.map Prod.snd = s.heldOps.map fun op => .command (holding s.generation kind address op))
    (hscript : s.script ≠ [] → s.heldOps ≠ [] ∨ s.recordUpdates address ++ s.fourDigitUpdates address ≠ [])
    {field : StateField} (h : s.GainsStock field) : (f.run ⟨.stock, settings⟩ timed).knows field = true := by
  have hheld : ∀ op ∈ s.heldOps, op.slot?.isSome = true := fun op hop => isSome_slot?_of_mem_heldOps hcoherent hop
  have hmotion := motion_run_held settings hcommands hf.kind_eq hf.bound hheld (pairwise_heldOps hcoherent) hf.ready
  rw [foldl_heldOps hcoherent] at hmotion
  have hafter {field : StateField} (hlasts : Lasts field)
      (hmakes : f.knows field = true ∨ ∃ op ∈ s.heldOps, Presses s.generation op field) :
      (f.run ⟨.stock, settings⟩ timed).knows field = true :=
    knows_run_held hlasts settings hcommands hf.kind_eq hf.bound hheld (pairwise_heldOps hcoherent) hf.ready hmakes
  cases field
  case controlType => exact hafter trivial (Or.inl (hf.controlType h.1 h.2))
  case consistFlags => exact hafter trivial (Or.inl (hf.consistFlags h.1 h.2.1 h.2.2))
  case legacy =>
    obtain ⟨op, hop⟩ := List.exists_mem_of_ne_nil _ h
    exact hafter trivial (Or.inr ⟨op, hop, trivial⟩)
  case lastUpdate =>
    rcases hscript h with hcommanded | htold
    · obtain ⟨op, hop⟩ := List.exists_mem_of_ne_nil _ hcommanded
      exact hafter trivial (Or.inr ⟨op, hop, trivial⟩)
    · exact hafter trivial (Or.inl (hf.lastUpdate htold))
  case speed =>
    refine (congrArg (·.speed.isSome) hmotion).trans ?_
    cases hpull : s.heldPull with
    | none => exact absurd hpull h
    | stop => rfl
    | rest => rfl
  case rpm =>
    refine (congrArg (·.rpm.isSome) hmotion).trans ?_
    rw [show s.heldPull = .rest from h]
    rfl
  case labor =>
    refine (congrArg (·.labor.isSome) hmotion).trans ?_
    rw [show s.heldPull = .rest from h]
    rfl
  case numeric =>
    obtain ⟨hgeneration, hknown⟩ := h
    obtain ⟨op, hop, hkey⟩ := exists_key hgeneration hknown
    exact hafter trivial (Or.inr ⟨op, hop, hgeneration ▸ hkey⟩)
  all_goals exact absurd h id

/-- What goes with what is known comes back known, at whatever times. -/
theorem knows_run_script (hcoherent : Coherent kind s) (hlocated : Located s) {address : UInt16}
    (hbound : s.profile.address = some address) (hrange : address ≤ 9999) (settings : Settings)
    {timed : List (Nat × Update)} (htimed : timed.map Prod.snd = s.script.map Update.resent) {field : StateField}
    (h : s.GainsStock field) :
    ((fresh kind (.fresh (some address))).run ⟨.stock, settings⟩ timed).knows field = true := by
  have hscript := script_of_bound hbound
  rw [hscript, List.map_append, List.map_map] at htimed
  obtain ⟨first, rest, rfl, hfirst, hrest⟩ := List.map_eq_append_iff.mp htimed
  rw [run_append]
  refine knows_run_commands hcoherent (informed_run hcoherent hlocated hbound hrange ⟨.stock, settings⟩ hfirst) settings
    (hcoherent.kind_eq ▸ hrest) (fun hsome => ?_) h
  by_contra hnone
  obtain ⟨hheld, hmessages⟩ := not_or.mp hnone
  rw [hscript, not_not.mp hheld, not_not.mp hmessages] at hsome
  exact hsome rfl

end MotiveState
end RailLayout
