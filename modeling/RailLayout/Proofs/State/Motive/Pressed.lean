import Mathlib.Data.List.Chain
import RailLayout.Proofs.State.Motive.Effects
import RailLayout.Proofs.State.Motive.Run
import RailLayout.Proofs.State.Run

/-!
Option-one keys of engines and trains that are held down. The hand-held repeats the command of the key for as long as
it is held, and two windows of time look at the repetitions: the first drops a command that repeats the last one, the
second switches the output of the key only if the press before was long enough ago. A press that was dropped is not
seen by the second window (`Tracked`), so it counts from the last press that was heard, which the last one received
can be ahead of by nearly the first window (`OptionKey.toggled_iff`); and it can be ahead by that much
(`OptionKey.toggled_early`).
-/

namespace RailLayout

/-- The two option-one keys of an engine or a train. -/
inductive OptionKey where
  | first
  | second
  deriving DecidableEq

namespace OptionKey

/-- The operation that a press of the key is. -/
def op : OptionKey → EngineOp
  | first => .aux1OptionOne
  | second => .aux2OptionOne

/-- Whether an operation sets the output of the key outright. -/
def isSetBy : OptionKey → EngineOp → Bool
  | first => Effects.setsAux1
  | second => Effects.setsAux2

/-- What the output of the key becomes when a press switches it. -/
def toggled : OptionKey → Option EngineOp → EngineOp
  | first, output => pulse output .aux1On .aux1OptionTwo .aux1Off
  | second, output => pulse output .aux2On .aux2OptionTwo .aux2Off

def isPress (key : OptionKey) : Update → Bool
  | .command c =>
    match c.operation with
    | .engine _ op => op == key.op
    | _ => false
  | .message _ => false

/-- Whether the graph leaves the output of the key alone when a command is applied. -/
def Spared (key : OptionKey) (graph : EffectGraph) (c : Command) : Prop :=
  ∀ t ∈ Effects.ofCommand graph c, ∀ op, Effects.bareOp? t = some op → key.isSetBy op = false

theorem toggled_ne (key : OptionKey) (output : Option EngineOp) : some (key.toggled output) ≠ output := by
  cases output with
  | none => exact Option.some_ne_none _
  | some op => cases key <;> cases op <;> decide

theorem operation_of_isPress {key : OptionKey} {c : Command} (h : key.isPress (.command c) = true) :
    ∃ generation, c.operation = .engine generation key.op := by
  unfold isPress at h
  dsimp only at h
  split at h
  · rename_i generation op hop
    exact ⟨generation, by rw [hop, eq_of_beq h]⟩
  · cases h

theorem isHalt_of_isPress {key : OptionKey} {c : Command} (h : key.isPress (.command c) = true) :
    (Update.command c).isHalt = false := by
  obtain ⟨generation, hop⟩ := operation_of_isPress h
  rw [Update.isHalt, Command.isHalt, Command.isSystemHalt, hop]
  cases key <;> rfl

/-- Under the stock graph a press has no effect but itself. -/
theorem spared_stock {key : OptionKey} {c : Command} (h : key.isPress (.command c) = true) :
    key.Spared .stock c := by
  obtain ⟨generation, hop⟩ := operation_of_isPress h
  have hcause : ∀ data, ∀ entry ∈ EffectGraph.stock.causes.targets, entry.1 ≠ ⟨c.operation, data⟩ := by
    have htable : ∀ entry ∈ EffectGraph.stock.causes.targets, ∀ g ∈ [Generation.tmcc, Generation.legacy],
        ∀ key ∈ [first, second], entry.1.operation ≠ .engine g (op key) := by decide +kernel
    intro data entry hentry hsame
    refine htable entry hentry generation (by cases generation <;> decide) key (by cases key <;> decide) ?_
    rw [hsame, ← hop]
  have hplain : c.operation.canonical? = none := by
    rw [hop]
    cases generation <;> cases key <;> rfl
  have hself : ∀ data, ∀ t ∈ Effects.canonicalSet (EffectGraph.stock.resultsIn ⟨c.operation, data⟩ true false),
      t.operation = c.operation := by
    intro data t ht
    have hcanonical : Trigger.canonical? ⟨c.operation, data⟩ = none := by
      cases data with
      | none => exact hplain
      | some d => rfl
    obtain ⟨u, hu, rfl⟩ := Effects.mem_canonicalSet ht
    rw [EffectGraph.resultsIn_of_not_cause (hcause data) hcanonical, List.mem_singleton] at hu
    rw [hu, Trigger.canonical, hcanonical]
    rfl
  have hall : ∀ t ∈ Effects.ofCommand .stock c, t.operation = c.operation := by
    intro t ht
    unfold Effects.ofCommand at ht
    dsimp only at ht
    split at ht
    · rename_i own hown
      obtain ⟨d, -, rfl⟩ := Option.map_eq_some_iff.mp hown
      rcases TriggerSet.mem_insertAll.mp ht with ht | ht
      · exact hself _ t ht
      · exact hself none t ht
    · exact hself none t ht
  intro t ht op hbare
  have hown := (hall t ht).trans hop
  obtain ⟨operation, data⟩ := t
  cases hown
  cases data with
  | some d => cases hbare
  | none =>
      cases hbare
      cases key <;> rfl

end OptionKey

/-! ## Keys and their outputs -/

/-- The output that an option-one key switches, and when a press of the key was last heard. -/
structure Button where
  output : Option EngineOp
  pressed : Option Nat
  deriving DecidableEq

namespace MotiveState

def button (s : MotiveState) : OptionKey → Button
  | .first => ⟨s.aux1, s.aux1Pressed⟩
  | .second => ⟨s.aux2, s.aux2Pressed⟩

section Parts

variable (s : MotiveState) (key : OptionKey) (op : EngineOp) (data : Option UInt16) (effects : TriggerSet)

@[simp] theorem button_record (u : Update) (now : Nat) : (s.record u now).button = s.button := rfl

@[simp] theorem button_latchGeneration (c : Command) : (s.latchGeneration c).button = s.button := by
  unfold latchGeneration
  split <;> rfl

@[simp] theorem button_applyNumeric : (s.applyNumeric op data effects).button = s.button := by
  unfold applyNumeric
  repeat' split
  all_goals rfl

@[simp] theorem button_applyDirection (generation : Generation) :
    (s.applyDirection generation op effects).button = s.button := by
  unfold applyDirection
  repeat' split
  all_goals rfl

@[simp] theorem button_applyTrainBrake : (s.applyTrainBrake op data effects).button = s.button := by
  unfold applyTrainBrake
  repeat' split
  all_goals rfl

@[simp] theorem button_applySmoke : (s.applySmoke effects).button = s.button := by
  unfold applySmoke
  split <;> rfl

@[simp] theorem button_applyRpm : (s.applyRpm op data effects).button = s.button := by
  unfold applyRpm
  repeat' split
  all_goals rfl

@[simp] theorem button_applyLabor : (s.applyLabor op data effects).button = s.button := by
  unfold applyLabor
  repeat' split
  all_goals rfl

@[simp] theorem button_applySpeed : (s.applySpeed op data effects).button = s.button := by
  unfold applySpeed
  repeat' split
  all_goals rfl

@[simp] theorem button_applyMomentum : (s.applyMomentum op data).button = s.button := by
  unfold applyMomentum
  split <;> rfl

@[simp] theorem button_applyStart : (s.applyStart effects).button = s.button := by
  unfold applyStart
  repeat' split
  all_goals rfl

theorem button_applyPress (window now : Nat) :
    (s.applyPress window now op).button key =
      if op = key.op then
        ⟨if pulseDue (s.button key).pressed window now then some (key.toggled (s.button key).output)
          else (s.button key).output, some now⟩
      else s.button key := by
  unfold applyPress
  cases key <;> cases op <;> rfl

theorem pressed_applyOutputs : ((s.applyOutputs effects).button key).pressed = (s.button key).pressed := by
  unfold applyOutputs
  induction effects generalizing s with
  | nil => rfl
  | cons t rest ih =>
      rw [List.foldl_cons, ih]
      unfold applyOutput
      repeat' split
      all_goals cases key <;> rfl

theorem button_applyOutputs_of_spared {effects : TriggerSet}
    (h : ∀ t ∈ effects, ∀ op, Effects.bareOp? t = some op → key.isSetBy op = false) :
    (s.applyOutputs effects).button key = s.button key := by
  unfold applyOutputs
  induction effects generalizing s with
  | nil => rfl
  | cons t rest ih =>
      rw [List.foldl_cons, ih _ fun t ht => h t (List.mem_cons_of_mem _ ht)]
      have hspared := h t List.mem_cons_self
      unfold applyOutput
      split
      · rename_i op hop
        have hnot := hspared op hop
        cases key
        all_goals
          simp only [OptionKey.isSetBy] at hnot
          simp only [hnot, Bool.false_eq_true, if_false]
          repeat' split
          all_goals rfl
      · rfl

/-- What all fields do to a key, apart from what the graph does to its output. -/
theorem pressed_applyFields (window now : Nat) (generation : Generation) :
    ((s.applyFields window now generation op data effects).button key).pressed =
      if op = key.op then some now else (s.button key).pressed := by
  simp only [applyFields, button_applyStart, button_applyMomentum, button_applySpeed, button_applyLabor,
    button_applyRpm, pressed_applyOutputs, button_applyPress, button_applySmoke, button_applyTrainBrake,
    button_applyDirection]
  split <;> rfl

theorem button_applyFields_of_spared {effects : TriggerSet}
    (h : ∀ t ∈ effects, ∀ op, Effects.bareOp? t = some op → key.isSetBy op = false) (window now : Nat)
    (generation : Generation) :
    (s.applyFields window now generation key.op data effects).button key =
      ⟨if pulseDue (s.button key).pressed window now then some (key.toggled (s.button key).output)
        else (s.button key).output, some now⟩ := by
  simp only [applyFields, button_applyStart, button_applyMomentum, button_applySpeed, button_applyLabor,
    button_applyRpm, button_applyOutputs_of_spared _ key h, button_applyPress, button_applySmoke,
    button_applyTrainBrake, button_applyDirection, if_true]

end Parts

/-- Only a press of a key moves the time of its last press. -/
theorem stable_pressed (rules : Rules) (key : OptionKey) (pressed : Option Nat) :
    Stable rules (fun c => key.isPress (.command c) = false) fun s => (s.button key).pressed = pressed where
  profile h _ := by
    cases key <;> exact h
  latchGeneration h c := by
    rw [button_latchGeneration]
    exact h
  halt h := by
    cases key <;> exact h
  applyNumeric h op data effects := by
    rw [button_applyNumeric]
    exact h
  applyFields h c hc _ op hoperation now := by
    have hop : op ≠ key.op := by
      intro hsame
      rw [OptionKey.isPress, hoperation, hsame] at hc
      cases key <;> cases hc
    rw [pressed_applyFields, if_neg hop]
    exact h
  applyRecordFields h m r := by
    unfold applyRecordFields
    dsimp only
    split <;> cases key <;> exact h
  applyConsist h kind r := by
    cases kind <;> cases key <;> exact h
  applyMemoryField h entry := by
    unfold applyMemoryField
    split <;> cases key <;> exact h
  speed h _ := by
    cases key <;> exact h
  fourDigitRecord h _ := by
    cases key <;> exact h

/-! ## One press -/

section Press

variable {s : MotiveState} {key : OptionKey} {rules : Rules} {now : Nat} {c : Command} {q : Profile}

theorem update_dropped (haccept : s.profile.accept s.kind.scope (.command c) = .ok q)
    (hrepeats : s.profile.repeats c rules.settings.duplicateWindow now = true) :
    (s.update rules now (.command c)).verdict = .ok false ∧
      (s.update rules now (.command c)).state.button = s.button ∧
        (s.update rules now (.command c)).state.profile.last = s.profile.last := by
  have hlast : q.last = s.profile.last := by rw [Profile.accept_eq haccept]
  have hlatched : (({ s with profile := q } : MotiveState).latchGeneration c).profile = q :=
    congrArg Prod.snd (identity_latchGeneration _ c)
  have hdropped : (({ s with profile := q } : MotiveState).latchGeneration c).profile.repeats c
      rules.settings.duplicateWindow now = true := by
    rw [hlatched, Profile.repeats, hlast]
    exact hrepeats
  rw [update_command haccept, applyCommand]
  dsimp only
  rw [if_pos hdropped, hlatched, button_latchGeneration]
  exact ⟨rfl, rfl, hlast⟩

/-- A press that is not dropped is heard and remembered, and switches the output if the last one heard is long enough
ago. -/
theorem update_heard (haccept : s.profile.accept s.kind.scope (.command c) = .ok q)
    (hrepeats : s.profile.repeats c rules.settings.duplicateWindow now = false)
    (hpress : key.isPress (.command c) = true) :
    (s.update rules now (.command c)).verdict = .ok true ∧
      ((s.update rules now (.command c)).state.button key).pressed = some now ∧
        (s.update rules now (.command c)).state.profile.last = some (.command c, now) ∧
          (key.Spared rules.graph c →
            ((s.update rules now (.command c)).state.button key).output =
              if pulseDue (s.button key).pressed rules.settings.auxPulseWindow now then
                some (key.toggled (s.button key).output)
              else (s.button key).output) := by
  obtain ⟨generation, hop⟩ := OptionKey.operation_of_isPress hpress
  have hlast : q.last = s.profile.last := by rw [Profile.accept_eq haccept]
  have hbutton : (({ s with profile := q } : MotiveState).latchGeneration c).button = s.button :=
    (button_latchGeneration _ c).trans rfl
  have hlatched : (({ s with profile := q } : MotiveState).latchGeneration c).profile = q :=
    congrArg Prod.snd (identity_latchGeneration _ c)
  rw [update_command haccept, applyCommand]
  dsimp only
  generalize ({ s with profile := q } : MotiveState).latchGeneration c = latched at hbutton hlatched ⊢
  have hnew : latched.profile.repeats c rules.settings.duplicateWindow now = false := by
    rw [hlatched, Profile.repeats, hlast]
    exact hrepeats
  have hnumbered : (latched.applyNumeric key.op c.data (Effects.ofCommand rules.graph c)).button = s.button :=
    (button_applyNumeric latched key.op c.data _).trans hbutton
  have hturn : ∀ t : MotiveState, t.keepsDirection key.op = false := by
    cases key <;> exact fun _ => rfl
  simp only [hnew, OptionKey.isHalt_of_isPress hpress, Bool.false_eq_true, if_false, hop, applyOperation, hturn]
  refine ⟨trivial, ?_, rfl, fun hspared => ?_⟩
  · rw [button_record, pressed_applyFields, if_pos rfl]
  · rw [button_record, button_applyFields_of_spared _ key _ hspared, hnumbered]

end Press

/-- What is remembered after an update is the update, or what was remembered before. -/
theorem last_update (rules : Rules) (now : Nat) (u : Update) (s : MotiveState) :
    (s.update rules now u).state.profile.last = s.profile.last ∨
      (s.update rules now u).state.profile.last = some (u, now) := by
  cases haccept : s.profile.accept s.kind.scope u with
  | error e =>
      rw [update, haccept]
      exact Or.inl rfl
  | ok q =>
      have hlast : q.last = s.profile.last := by rw [Profile.accept_eq haccept]
      cases u with
      | command c =>
          rw [update_command haccept]
          refine (applyCommand_same rules now c { s with profile := q }).2.imp (fun hsame => ?_) fun hrecord => ?_
          · exact (congrArg Profile.last hsame).trans hlast
          · rw [hrecord]
            rfl
      | message m =>
          rw [update_message haccept]
          rcases applyMessage_cases now m { s with profile := q } with hchanged | hsame
          · rw [hchanged]
            exact Or.inr rfl
          · rw [hsame]
            exact Or.inl hlast

end MotiveState

/-! ## The presses of a run -/

/-- A press of a key that a component accepted: whether it was heard or dropped as a repetition, and whether it switched
the output of the key. -/
structure Press where
  time : Nat
  heard : Bool
  toggled : Bool
  deriving DecidableEq

/-- When a press was last heard. -/
def lastHeard (presses : List Press) : Option Nat := (presses.filter Press.heard).getLast?.map Press.time

theorem lastHeard_heard (presses : List Press) (time : Nat) (toggled : Bool) :
    lastHeard (presses ++ [⟨time, true, toggled⟩]) = some time := by
  simp only [lastHeard, List.filter_append, List.filter_cons_of_pos, List.filter_nil, List.getLast?_concat,
    Option.map_some]

theorem lastHeard_dropped (presses : List Press) (time : Nat) (toggled : Bool) :
    lastHeard (presses ++ [⟨time, false, toggled⟩]) = lastHeard presses := by
  simp only [lastHeard, List.filter_append, List.filter_cons_of_neg, Bool.false_eq_true, not_false_eq_true,
    List.filter_nil, List.append_nil]

namespace Component

/-- The output of a key, if the component is an engine or a train and the output is known. -/
def output? (key : OptionKey) : Component → Option EngineOp
  | motive s => (s.button key).output
  | _ => none

/-- The press of a key that a component accepts in what it goes through, if there is one. -/
def press? (key : OptionKey) (c : Component) : Incident → Option Press
  | .told rules now u =>
    match (c.update rules now u).verdict with
    | .ok heard =>
      if key.isPress u then some ⟨now, heard, (c.update rules now u).state.output? key != c.output? key⟩ else none
    | .error _ => none
  | .seen _ => none

/-- The presses of a key that a component accepts, in order. -/
def presses (key : OptionKey) : Component → List Incident → List Press
  | _, [] => []
  | c, i :: rest => (c.press? key i).toList ++ (c.meet i).presses key rest

/-- Where a press comes from: what was gone through before it has the presses before it. -/
theorem exists_of_presses_eq {key : OptionKey} {c : Component} {history : List Incident} {earlier later : List Press}
    {p : Press} (h : c.presses key history = earlier ++ p :: later) :
    ∃ before i after, history = before ++ i :: after ∧ c.presses key before = earlier ∧
      (c.run before).press? key i = some p := by
  induction history generalizing c earlier with
  | nil => cases earlier <;> cases h
  | cons i rest ih =>
      rw [presses] at h
      cases hpress : c.press? key i with
      | none =>
          rw [hpress] at h
          obtain ⟨before, j, after, rfl, hbefore, hj⟩ := ih h
          refine ⟨i :: before, j, after, rfl, ?_, hj⟩
          rw [presses, hpress]
          exact hbefore
      | some first =>
          rw [hpress] at h
          cases earlier with
          | nil =>
              cases h
              exact ⟨[], i, rest, rfl, rfl, hpress⟩
          | cons q earlier =>
              obtain ⟨rfl, hrest⟩ := List.cons.inj h
              obtain ⟨before, j, after, rfl, hbefore, hj⟩ := ih hrest
              refine ⟨i :: before, j, after, rfl, ?_, hj⟩
              rw [presses, hpress, hbefore]
              rfl

end Component

/-- Whether what a component is told goes by the settings, and the graph leaves the output of the key to its presses. -/
def Incident.Usual (key : OptionKey) (settings : Settings) : Incident → Prop
  | .told rules _ u =>
    rules.settings = settings ∧ ∀ c, u = .command c → key.isPress u = true → key.Spared rules.graph c
  | .seen _ => True

theorem OptionKey.usual_stock (key : OptionKey) (settings : Settings) (now : Nat) (u : Update) :
    (Incident.told ⟨.stock, settings⟩ now u).Usual key settings :=
  ⟨rfl, fun _ hu hpress => spared_stock (hu ▸ hpress)⟩

namespace MotiveState

/-- What an engine or a train keeps of the presses that it accepted: the time of the last one that it heard. The last
one of all is that one, or repeated it within the window and was dropped. -/
structure Tracked (key : OptionKey) (settings : Settings) (presses : List Press) (s : MotiveState) : Prop where
  pressed : (s.button key).pressed = lastHeard presses
  remembered : ∀ c time, s.profile.last = some (.command c, time) → key.isPress (.command c) = true →
    (s.button key).pressed = some time
  received : ∀ p, presses.getLast? = some p →
    ∃ time, lastHeard presses = some time ∧ (time = p.time ∨ p.time - time < settings.duplicateWindow)

variable {key : OptionKey} {settings : Settings} {presses : List Press} {s : MotiveState}

theorem tracked_fresh (kind : MotiveKind) (start : Option UInt16) :
    Tracked key settings [] (fresh kind (.fresh start)) where
  pressed := by
    cases key <;> rfl
  remembered _ _ h := by
    cases h
  received _ h := by
    cases h

/-- A press is of an accepted command. -/
theorem of_press? {i : Incident} {p : Press} (h : (Component.motive s).press? key i = some p) :
    ∃ rules c q, i = .told rules p.time (.command c) ∧ key.isPress (.command c) = true ∧
      s.profile.accept s.kind.scope (.command c) = .ok q ∧
        (s.update rules p.time (.command c)).verdict = .ok p.heard ∧
          p.toggled = (((s.update rules p.time (.command c)).state.button key).output != (s.button key).output) := by
  unfold Component.press? at h
  split at h
  · rename_i rules now u
    split at h
    · rename_i heard hheard
      split at h
      · rename_i hpress
        cases h
        have hverdict : (s.update rules now u).verdict = .ok heard := hheard
        cases haccept : s.profile.accept s.kind.scope u with
        | error e =>
            rw [update, haccept] at hverdict
            cases hverdict
        | ok q =>
            cases u with
            | command c => exact ⟨rules, c, q, rfl, hpress, haccept, hverdict, rfl⟩
            | message m => cases hpress
      · cases h
    · cases h
  · cases h

/-- What switches the output of a key: a press that is heard, unless the one before was heard within the window. -/
theorem toggled_of_press? (h : Tracked key settings presses s) {i : Incident} (hi : i.Usual key settings) {p : Press}
    (hp : (Component.motive s).press? key i = some p) :
    p.toggled = true ↔
      p.heard = true ∧ ∀ time, lastHeard presses = some time → settings.auxPulseWindow < p.time - time := by
  obtain ⟨rules, c, q, rfl, hpress, haccept, hverdict, htoggled⟩ := of_press? hp
  obtain ⟨rfl, hspared⟩ := hi
  cases hrepeats : s.profile.repeats c rules.settings.duplicateWindow p.time with
  | true =>
      obtain ⟨hdropped, hbutton, -⟩ := update_dropped haccept hrepeats
      rw [hdropped] at hverdict
      rw [htoggled, hbutton, bne_self_eq_false, ← Except.ok.inj hverdict]
      simp only [Bool.false_eq_true, false_and]
  | false =>
      obtain ⟨hheard, -, -, houtput⟩ := update_heard haccept hrepeats hpress
      rw [hheard] at hverdict
      rw [htoggled, houtput (hspared c rfl hpress), ← Except.ok.inj hverdict, h.pressed]
      -- The press counts from the last one that was heard.
      cases lastHeard presses with
      | none =>
          simp only [pulseDue, if_true, bne_iff_ne, key.toggled_ne, ne_eq, not_false_eq_true, true_and, true_iff]
          intro time htime
          cases htime
      | some time =>
          simp only [pulseDue, Option.some.injEq, forall_eq', true_and]
          by_cases hdue : rules.settings.auxPulseWindow < p.time - time
          · simp only [hdue, decide_true, if_true, bne_iff_ne, key.toggled_ne, ne_eq, not_false_eq_true]
          · simp only [hdue, decide_false, Bool.false_eq_true, if_false, bne_self_eq_false]

theorem tracked_press (h : Tracked key settings presses s) {rules : Rules} (hrules : rules.settings = settings)
    {c : Command} (hpress : key.isPress (.command c) = true) {p : Press} {q : Profile}
    (haccept : s.profile.accept s.kind.scope (.command c) = .ok q)
    (hverdict : (s.update rules p.time (.command c)).verdict = .ok p.heard) :
    Tracked key settings (presses ++ [p]) (s.update rules p.time (.command c)).state := by
  obtain ⟨now, heard, toggled⟩ := p
  dsimp only at hverdict ⊢
  cases hrepeats : s.profile.repeats c rules.settings.duplicateWindow now with
  | true =>
      obtain ⟨hdropped, hbutton, hlast⟩ := update_dropped haccept hrepeats
      cases hdropped.symm.trans hverdict
      refine ⟨?_, ?_, fun p hp => ?_⟩
      · rw [hbutton, lastHeard_dropped]
        exact h.pressed
      · rw [hbutton, hlast]
        exact h.remembered
      · -- What it repeats is the press that was heard last.
        rw [List.getLast?_concat, Option.some.injEq] at hp
        subst hp
        obtain ⟨time, hu, hnear⟩ := Profile.repeats_eq_true_iff.mp hrepeats
        have hheard := h.remembered c time hu hpress
        rw [lastHeard_dropped, ← h.pressed]
        exact ⟨time, hheard, Or.inr (hrules ▸ hnear)⟩
  | false =>
      obtain ⟨hheard, hpressed, hlast, -⟩ := update_heard haccept hrepeats hpress
      cases hheard.symm.trans hverdict
      refine ⟨?_, fun d time hd _ => ?_, fun p hp => ?_⟩
      · rw [hpressed, lastHeard_heard]
      · rw [hlast, Option.some.injEq, Prod.mk.injEq] at hd
        rw [hpressed, hd.2]
      · rw [List.getLast?_concat, Option.some.injEq] at hp
        subst hp
        exact ⟨now, lastHeard_heard presses now toggled, Or.inl rfl⟩

theorem tracked_update_other (h : Tracked key settings presses s) (rules : Rules) (now : Nat) {u : Update}
    (hother : key.isPress u = false) : Tracked key settings presses (s.update rules now u).state := by
  have hpressed : ((s.update rules now u).state.button key).pressed = (s.button key).pressed :=
    (stable_pressed rules key _).update rfl now fun c hc => hc ▸ hother
  refine ⟨hpressed.trans h.pressed, fun c time hlast hpress => ?_, h.received⟩
  rw [hpressed]
  rcases last_update rules now u s with hsame | hnew
  · exact h.remembered c time (hsame.symm.trans hlast) hpress
  · rw [hnew, Option.some.injEq, Prod.mk.injEq] at hlast
    rw [hlast.1, hpress] at hother
    cases hother

theorem tracked_applySighting (h : Tracked key settings presses s) (sighting : Sighting) :
    Tracked key settings presses (s.applySighting sighting).1 := by
  have hbutton : (s.applySighting sighting).1.button = s.button := by
    unfold applySighting
    split <;> rfl
  refine ⟨?_, ?_, h.received⟩
  · rw [hbutton]
    exact h.pressed
  · rw [hbutton, (alike_applySighting sighting s).last]
    exact h.remembered

theorem tracked_meet (h : Tracked key settings presses s) {i : Incident} (hi : i.Usual key settings) :
    ∃ t, (Component.motive s).meet i = .motive t ∧
      Tracked key settings (presses ++ ((Component.motive s).press? key i).toList) t := by
  cases hpress : (Component.motive s).press? key i with
  | some p =>
      obtain ⟨rules, c, q, rfl, hown, haccept, hverdict, -⟩ := of_press? hpress
      exact ⟨_, rfl, tracked_press h hi.1 hown haccept hverdict⟩
  | none =>
      rw [Option.toList_none, List.append_nil]
      cases i with
      | told rules now u =>
          refine ⟨_, rfl, ?_⟩
          cases hother : key.isPress u with
          | false => exact tracked_update_other h rules now hother
          | true =>
              -- A press that is not among the presses was refused.
              cases haccept : s.profile.accept s.kind.scope u with
              | error e =>
                  rw [update, haccept]
                  exact h
              | ok q =>
                  have hverdict : ∃ heard, (s.update rules now u).verdict = .ok heard := by
                    rw [update, haccept]
                    exact ⟨_, rfl⟩
                  obtain ⟨heard, hheard⟩ := hverdict
                  have hheard : ((Component.motive s).update rules now u).verdict = .ok heard := hheard
                  simp only [Component.press?, hheard, hother, if_true] at hpress
                  cases hpress
      | seen sighting =>
          cases hkind : s.kind with
          | engine =>
              exact ⟨_, by simp only [Component.meet, Component.applySighting, hkind],
                tracked_applySighting h sighting⟩
          | train => exact ⟨s, by simp only [Component.meet, Component.applySighting, hkind], h⟩

theorem tracked_run (h : Tracked key settings presses s) {history : List Incident}
    (hhistory : ∀ i ∈ history, i.Usual key settings) :
    ∃ t, (Component.motive s).run history = .motive t ∧
      Tracked key settings (presses ++ (Component.motive s).presses key history) t := by
  induction history generalizing presses s with
  | nil => exact ⟨s, rfl, (List.append_nil presses).symm ▸ h⟩
  | cons i rest ih =>
      obtain ⟨t, ht, htracked⟩ := tracked_meet h (hhistory i List.mem_cons_self)
      obtain ⟨r, hr, hrest⟩ := ih htracked fun j hj => hhistory j (List.mem_cons_of_mem i hj)
      rw [List.append_assoc] at hrest
      rw [Component.presses, ht]
      refine ⟨r, ?_, hrest⟩
      rw [Component.run, List.foldl_cons, ht]
      exact hr

end MotiveState

namespace OptionKey

/-- What switches the output of a key, in a history of an engine or a train: a press that is heard, unless the last one
that was heard before is within the pulse window. The last press of all before is that one or was dropped soon after. -/
theorem toggled_of_presses_eq {kind : MotiveKind} {start : Option UInt16} {c : Component}
    (hbuild : Component.build kind.scope start = .ok c) {key : OptionKey} {settings : Settings}
    {history : List Incident} (hhistory : ∀ i ∈ history, i.Usual key settings) {earlier later : List Press} {p : Press}
    (h : c.presses key history = earlier ++ p :: later) :
    (p.toggled = true ↔
      p.heard = true ∧ ∀ time, lastHeard earlier = some time → settings.auxPulseWindow < p.time - time) ∧
    (p.toggled = true → ∀ r, earlier.getLast? = some r →
      settings.auxPulseWindow < p.time - r.time + (settings.duplicateWindow - 1)) := by
  have hstart : c = .motive (.fresh kind (.fresh start)) := by
    cases kind <;>
      (obtain ⟨p, hp, h⟩ := ok_of_bind hbuild
       obtain ⟨rfl, -⟩ := Profile.build_eq_ok hp
       exact (Except.ok.inj h).symm)
  obtain ⟨before, i, after, rfl, rfl, hi⟩ := Component.exists_of_presses_eq h
  have hbefore : ∀ j ∈ before, j.Usual key settings := fun j hj => hhistory j (List.mem_append_left _ hj)
  obtain ⟨s, hs, htracked⟩ := MotiveState.tracked_run (MotiveState.tracked_fresh kind start) hbefore
  rw [← hstart] at hs htracked
  rw [hs] at hi
  have hiff := MotiveState.toggled_of_press? htracked (hhistory i (List.mem_append_right _ List.mem_cons_self)) hi
  refine ⟨hiff, fun htoggled r hr => ?_⟩
  obtain ⟨time, htime, hnear⟩ := htracked.received r hr
  have hfar := (hiff.mp htoggled).2 time htime
  omega

/-- Take an engine or a train after anything it went through, with its settings. A press of an option-one key switches
the output exactly if it is heard and the last press that was heard, if there is one, is more than the pulse window ago.
Presses that were dropped as repetitions are not looked at, so the last press of all is more than the pulse window ago,
less what is short of a whole duplicate window; and an output is switched once at most while presses follow on each
other by that much. -/
theorem toggled_iff {kind : MotiveKind} {start : Option UInt16} {c : Component}
    (hbuild : Component.build kind.scope start = .ok c) (key : OptionKey) {settings : Settings}
    {history : List Incident} (hhistory : ∀ i ∈ history, i.Usual key settings) :
    (∀ earlier p later, c.presses key history = earlier ++ p :: later →
      (p.toggled = true ↔
        p.heard = true ∧ ∀ time, lastHeard earlier = some time → settings.auxPulseWindow < p.time - time) ∧
      (p.toggled = true → ∀ r, earlier.getLast? = some r →
        settings.auxPulseWindow < p.time - r.time + (settings.duplicateWindow - 1))) ∧
    ((c.presses key history).IsChain
        (fun r p => p.time - r.time + (settings.duplicateWindow - 1) ≤ settings.auxPulseWindow) →
      (c.presses key history).countP Press.toggled ≤ 1) := by
  refine ⟨fun earlier p later h => toggled_of_presses_eq hbuild hhistory h, fun hchain => ?_⟩
  cases hall : c.presses key history with
  | nil => exact Nat.zero_le 1
  | cons first rest =>
      have hquiet : rest.countP Press.toggled = 0 := by
        refine List.countP_eq_zero.mpr fun p hp htoggled => ?_
        obtain ⟨before, later, rfl⟩ := List.append_of_mem hp
        obtain ⟨r, hr⟩ : ∃ r, (first :: before).getLast? = some r :=
          ⟨_, List.getLast?_eq_some_getLast (List.cons_ne_nil _ _)⟩
        have hsplit : c.presses key history = (first :: before) ++ p :: later := hall
        have hfar := (toggled_of_presses_eq hbuild hhistory hsplit).2 htoggled r hr
        obtain ⟨earlier, hearlier⟩ := List.getLast?_eq_some_iff.mp hr
        rw [hearlier, List.append_assoc] at hsplit
        have hnear := List.isChain_iff_forall_rel_of_append_cons_cons.mp hchain hsplit
        omega
      rw [List.countP_cons, hquiet]
      split <;> decide

/-- The first key is held, and its command comes every 600 ms: the second press is dropped, so the third one switches
the output off again. -/
theorem toggled_iff_held :
    let held : List Incident := [0, 600, 1200].map fun now =>
      .told ⟨.stock, .standard⟩ now (.command ⟨.engine .legacy .aux1OptionOne, 12, none, .engine⟩)
    ∃ c, Component.build .engine none = .ok c ∧ (∀ i ∈ held, i.Usual first .standard) ∧
      c.presses first held = [⟨0, true, true⟩, ⟨600, false, false⟩, ⟨1200, true, true⟩] ∧
        (∀ time, lastHeard [⟨0, true, true⟩, ⟨600, false, false⟩] = some time → 1000 < 1200 - time) ∧
          (c.run held).output? first = some .aux1Off := by
  intro held
  have hbuild : Component.build MotiveKind.engine.scope none = .ok (.motive (.fresh .engine (.fresh none))) := rfl
  have husual : ∀ i ∈ held, i.Usual first .standard := by
    intro i hi
    obtain ⟨now, -, rfl⟩ := List.mem_map.mp hi
    exact usual_stock first .standard now _
  have hpresses : (Component.motive (.fresh .engine (.fresh none))).presses first held =
      [⟨0, true, true⟩, ⟨600, false, false⟩] ++ [⟨1200, true, true⟩] := by decide +kernel
  obtain ⟨hall, -⟩ := toggled_iff hbuild first husual
  obtain ⟨hiff, -⟩ := hall _ ⟨1200, true, true⟩ [] hpresses
  exact ⟨_, hbuild, husual, hpresses, (hiff.mp rfl).2, by decide +kernel⟩

/-! ## The bound is attained -/

/-- A press of the key of engine 12. -/
def pressed (key : OptionKey) : Command := ⟨.engine .legacy key.op, 12, none, .engine⟩

theorem isPress_pressed (key other : OptionKey) : other.isPress (.command key.pressed) = (key == other) := by
  cases key <;> cases other <;> rfl

/-- What a press does to engine 12: it is heard and remembered, unless it repeats what was remembered before. -/
theorem meet_pressed {s : MotiveState} (hkind : s.kind = .engine) (hbound : s.profile.address = some 12)
    (key : OptionKey) (settings : Settings) (now : Nat) {repeated : Bool}
    (hrepeated : s.profile.repeats key.pressed settings.duplicateWindow now = repeated) :
    ∃ (t : MotiveState) (toggled : OptionKey → Bool),
      (Component.motive s).meet (.told ⟨.stock, settings⟩ now (.command key.pressed)) = .motive t ∧
      t.kind = .engine ∧ t.profile.address = some 12 ∧
        t.profile.last = (if repeated then s.profile.last else some (.command key.pressed, now)) ∧
          ∀ other, (Component.motive s).press? other (.told ⟨.stock, settings⟩ now (.command key.pressed)) =
            if key = other then some ⟨now, !repeated, toggled other⟩ else none := by
  have htarget : (Update.command key.pressed).target? = some (s.kind.scope, 12) := by
    rw [hkind]
    rfl
  have haccept := Profile.accept_bound hbound htarget
  have htook : Component.Took (.motive s) s.profile (.command key.pressed) now
      ((Component.motive s).update ⟨.stock, settings⟩ now (.command key.pressed)) := Component.took_motive haccept
  have hscope : (s.update ⟨.stock, settings⟩ now (.command key.pressed)).state.kind.scope = .engine :=
    htook.scope.trans (congrArg MotiveKind.scope hkind)
  have hstays : (s.update ⟨.stock, settings⟩ now (.command key.pressed)).state.kind = .engine := by
    cases hother : (s.update ⟨.stock, settings⟩ now (.command key.pressed)).state.kind with
    | engine => rfl
    | train =>
        rw [hother] at hscope
        cases hscope
  have hpress : key.isPress (.command key.pressed) = true := by rw [isPress_pressed, beq_self_eq_true]
  have houtcome : (s.update ⟨.stock, settings⟩ now (.command key.pressed)).verdict = .ok (!repeated) ∧
      (s.update ⟨.stock, settings⟩ now (.command key.pressed)).state.profile.last =
        (if repeated then s.profile.last else some (.command key.pressed, now)) := by
    cases repeated with
    | true =>
        have hdropped : s.profile.repeats key.pressed (Rules.mk .stock settings).settings.duplicateWindow now = true :=
          hrepeated
        obtain ⟨hverdict, -, hlast⟩ := MotiveState.update_dropped haccept hdropped
        exact ⟨hverdict, hlast⟩
    | false =>
        have hnew : s.profile.repeats key.pressed (Rules.mk .stock settings).settings.duplicateWindow now = false :=
          hrepeated
        obtain ⟨hverdict, -, hlast, -⟩ := MotiveState.update_heard haccept hnew hpress
        exact ⟨hverdict, hlast⟩
  let after := (s.update ⟨.stock, settings⟩ now (.command key.pressed)).state
  refine ⟨after, fun other => (after.button other).output != (s.button other).output, rfl, hstays,
    htook.told.address.trans hbound, houtcome.2, fun other => ?_⟩
  have hverdict : ((Component.motive s).update ⟨.stock, settings⟩ now (.command key.pressed)).verdict =
      .ok (!repeated) := houtcome.1
  simp only [Component.press?, hverdict, isPress_pressed, beq_iff_eq]
  rfl

def other : OptionKey → OptionKey
  | first => second
  | second => first

/-- Whatever the windows are, an output can be switched by a press that comes as soon after the one before as the bound
allows: the one before was dropped, and a press of the other key came in between. -/
theorem toggled_early (key : OptionKey) (settings : Settings) :
    ∃ c history earlier r p, Component.build .engine (some 12) = .ok c ∧ (∀ i ∈ history, i.Usual key settings) ∧
      c.presses key history = earlier ++ [r, p] ∧ p.toggled = true ∧
        p.time - r.time = settings.auxPulseWindow + 1 - (settings.duplicateWindow - 1) := by
  have hbuild : Component.build MotiveKind.engine.scope (some 12) =
    .ok (.motive (.fresh .engine (.fresh (some 12)))) := rfl
  let dropped := settings.duplicateWindow - 1
  let due := max (settings.auxPulseWindow + 1) dropped
  let tell (key : OptionKey) (now : Nat) : Incident := .told ⟨.stock, settings⟩ now (.command key.pressed)
  have hother : key ≠ key.other := by cases key <;> decide
  have hne : key.other.pressed ≠ key.pressed := by cases key <;> decide
  -- The second press is dropped, or comes with the first one if nothing is dropped.
  obtain ⟨s1, toggled1, hmeet1, hkind1, hbound1, hlast1, hpress1⟩ :=
    meet_pressed (s := .fresh .engine (.fresh (some 12))) rfl rfl key settings 0 rfl
  have hlast1 : s1.profile.last = some (.command key.pressed, 0) := hlast1
  have hsecond : s1.profile.repeats key.pressed settings.duplicateWindow dropped =
      decide (0 < settings.duplicateWindow) := by
    rw [Profile.repeats, hlast1]
    simp only [beq_self_eq_true, Bool.true_and, decide_eq_decide]
    omega
  obtain ⟨s2, toggled2, hmeet2, hkind2, hbound2, hlast2, hpress2⟩ :=
    meet_pressed hkind1 hbound1 key settings dropped hsecond
  have hlast2 : s2.profile.last = some (.command key.pressed, 0) := by
    rw [hlast2]
    split
    · exact hlast1
    · rename_i hnone
      rw [show dropped = 0 by simp only [decide_eq_true_eq] at hnone; omega]
  have hthird : s2.profile.repeats key.other.pressed settings.duplicateWindow dropped = false := by
    rw [Profile.repeats, hlast2]
    exact Bool.and_eq_false_iff.mpr (Or.inl (beq_eq_false_iff_ne.mpr fun h => hne (Update.command.inj h).symm))
  obtain ⟨s3, toggled3, hmeet3, hkind3, hbound3, hlast3, hpress3⟩ :=
    meet_pressed hkind2 hbound2 key.other settings dropped hthird
  have hfourth : s3.profile.repeats key.pressed settings.duplicateWindow due = false := by
    rw [Profile.repeats, hlast3]
    exact Bool.and_eq_false_iff.mpr (Or.inl (beq_eq_false_iff_ne.mpr fun h => hne (Update.command.inj h)))
  obtain ⟨s4, toggled4, -, -, -, -, hpress4⟩ := meet_pressed hkind3 hbound3 key settings due hfourth
  let p1 : Press := ⟨0, true, toggled1 key⟩
  let p2 : Press := ⟨dropped, !decide (0 < settings.duplicateWindow), toggled2 key⟩
  let p4 : Press := ⟨due, true, toggled4 key⟩
  have hpresses : (Component.motive (.fresh .engine (.fresh (some 12)))).presses key
      [tell key 0, tell key dropped, tell key.other dropped, tell key due] = [p1, p2, p4] := by
    simp only [tell, Component.presses, hpress1, hmeet1, hpress2, hmeet2, hpress3, hmeet3, hpress4, hother.symm, if_true,
      if_false, Option.toList_some, Option.toList_none, List.nil_append, List.append_nil, Bool.not_false]
    rfl
  have hheard : lastHeard [p1, p2] = some 0 := by
    by_cases hwindow : 0 < settings.duplicateWindow
    · have hp2 : p2 = ⟨dropped, false, toggled2 key⟩ := by simp only [p2, hwindow, decide_true, Bool.not_true]
      rw [hp2]
      exact lastHeard_dropped [p1] dropped (toggled2 key)
    · have hp2 : p2 = ⟨0, true, toggled2 key⟩ := by
        simp only [p2, hwindow, decide_false, Bool.not_false, show dropped = 0 by omega]
      rw [hp2]
      exact lastHeard_heard [p1] 0 (toggled2 key)
  have husual : ∀ i ∈ [tell key 0, tell key dropped, tell key.other dropped, tell key due], i.Usual key settings := by
    simp only [List.forall_mem_cons, tell]
    exact ⟨usual_stock .., usual_stock .., usual_stock .., usual_stock .., fun _ h => absurd h List.not_mem_nil⟩
  have hsplit : (Component.motive (.fresh .engine (.fresh (some 12)))).presses key
      [tell key 0, tell key dropped, tell key.other dropped, tell key due] = [p1, p2] ++ p4 :: [] := hpresses
  refine ⟨_, _, [p1], p2, p4, hbuild, husual, hpresses, ?_, ?_⟩
  · refine (toggled_of_presses_eq hbuild husual hsplit).1.mpr ⟨rfl, fun time htime => ?_⟩
    rw [hheard, Option.some.injEq] at htime
    subst htime
    show settings.auxPulseWindow < due - 0
    omega
  · show due - dropped = _
    omega

end OptionKey
end RailLayout
