import Mathlib.Logic.Function.Iterate
import RailLayout.Proofs.State.Accessory.Restored

/-!
Option-one keys of accessories. Each of the two outputs has its own key and its own timer, and a press restarts the
timer of its key whether or not it toggles the output. So an output ends up toggled once for each press of its key that
is the first one or comes more than a window after the one before (`countDue`), no matter which presses of the other key
lie in between. That is as long as the graph leaves the outputs to the keys, which the stock graph does; an output that
the graph has a press set is where that press sets it. One press is `AccessoryState.pressed_applyCommand`, and what
presses do one after the other follows by `AccessoryState.pressed_append`.
-/

namespace RailLayout

namespace AccessoryOutput

/-- The option-one key of an output. -/
def key : AccessoryOutput → AccessoryOp
  | aux1 => .aux1OptOne
  | aux2 => .aux2OptOne

/-- What a press toggles an output to: off if it is on or in its second position, otherwise on. -/
def toggle : AccessoryOutput → Option AccessoryOp → Option AccessoryOp
  | aux1, some .aux1On => some .aux1Off
  | aux1, some .aux1OptTwo => some .aux1Off
  | aux1, _ => some .aux1On
  | aux2, some .aux2On => some .aux2Off
  | aux2, some .aux2OptTwo => some .aux2Off
  | aux2, _ => some .aux2On

theorem toggle_eq_pulse (output : AccessoryOutput) (known : Option AccessoryOp) :
    output.toggle known =
      match output with
      | .aux1 => some (pulse known .aux1On .aux1OptTwo .aux1Off)
      | .aux2 => some (pulse known .aux2On .aux2OptTwo .aux2Off) := by
  cases known with
  | none => cases output <;> rfl
  | some op => cases output <;> cases op <;> rfl

end AccessoryOutput

/-- A press of the option-one key of an output. -/
structure KeyPress where
  output : AccessoryOutput
  time : Nat
  deriving DecidableEq

/-- When the key of an output is pressed. -/
def KeyPress.times (output : AccessoryOutput) (presses : List KeyPress) : List Nat :=
  (presses.filter (·.output = output)).map KeyPress.time

/-- How many presses of a key come first or more than a window after the one before, which the first of them has if the
key was pressed earlier. -/
def countDue (window : Nat) (earlier : Option Nat) (times : List Nat) : Nat :=
  (times.zip (earlier :: times.map some)).countP fun (now, before) => before.all (window < now - ·)

/-- The output whose option-one key a command presses. -/
def Command.pressed? (d : Command) : Option AccessoryOutput :=
  match d.operation with
  | .accessory .aux1OptOne => some .aux1
  | .accessory .aux2OptOne => some .aux2
  | _ => none

theorem Command.operation_of_pressed? {d : Command} {key : AccessoryOutput} (h : d.pressed? = some key) :
    d.operation = .accessory key.key := by
  unfold pressed? at h
  split at h
  case h_1 hop | h_2 hop =>
    cases h
    exact hop
  case h_3 => cases h

/-- Under the stock graph the keys set no outputs. -/
theorem EffectGraph.leaves?_stock_key (key output : AccessoryOutput) : stock.leaves? key.key output = none := by
  rw [leaves?_stock]
  cases key <;> rfl

theorem countDue_cons (window : Nat) (earlier : Option Nat) (now : Nat) (times : List Nat) :
    countDue window earlier (now :: times) =
      countDue window (some now) times + if pulseDue earlier window now then 1 else 0 := by
  have hdue : earlier.all (window < now - ·) = pulseDue earlier window now := by cases earlier <;> rfl
  rw [← hdue]
  exact List.countP_cons

theorem countDue_append (window : Nat) (earlier : Option Nat) (times later : List Nat) :
    countDue window earlier (times ++ later) =
      countDue window (times.getLast?.or earlier) later + countDue window earlier times := by
  induction times generalizing earlier with
  | nil => rfl
  | cons now rest ih =>
      have hlast : (now :: rest).getLast?.or earlier = rest.getLast?.or (some now) := by
        rw [List.getLast?_cons]
        cases rest.getLast? <;> rfl
      rw [List.cons_append, countDue_cons, countDue_cons, ih, hlast, Nat.add_assoc]

namespace KeyPress

theorem times_singleton (output : AccessoryOutput) (p : KeyPress) :
    times output [p] = if p.output = output then [p.time] else [] := by
  simp only [times, List.filter_cons, List.filter_nil, decide_eq_true_eq]
  split <;> rfl

theorem times_append (output : AccessoryOutput) (presses later : List KeyPress) :
    times output (presses ++ later) = times output presses ++ times output later := by
  rw [times, List.filter_append, List.map_append, times, times]

end KeyPress

namespace AccessoryState

variable {s t u : AccessoryState} {rules : Rules} {d : Command}

/-- When the option-one key of an output was pressed last. -/
def pressed (s : AccessoryState) : AccessoryOutput → Option Nat
  | .aux1 => s.aux1Pressed
  | .aux2 => s.aux2Pressed

/-! ## One press -/

theorem pressed_applyPress (window now : Nat) (key output : AccessoryOutput) (s : AccessoryState) :
    (s.applyPress window now key.key).pressed output = if key = output then some now else s.pressed output := by
  cases key <;> cases output <;> rfl

theorem position_applyPress (window now : Nat) (key output : AccessoryOutput) (s : AccessoryState) :
    (s.applyPress window now key.key).position output =
      if key = output ∧ pulseDue (s.pressed output) window now = true then output.toggle (s.position output)
      else s.position output := by
  by_cases hkey : key = output
  · subst hkey
    simp only [true_and, AccessoryOutput.toggle_eq_pulse]
    cases key <;> rfl
  · rw [if_neg fun h => hkey h.1]
    cases key <;> cases output <;> first | rfl | exact absurd rfl hkey

theorem pressed_applyOutputs (effects : TriggerSet) (s : AccessoryState) (output : AccessoryOutput) :
    (effects.foldl applyOutput s).pressed output = s.pressed output := by
  induction effects generalizing s with
  | nil => rfl
  | cons t rest ih =>
      have hfirst : (s.applyOutput t).pressed output = s.pressed output := by
        unfold applyOutput
        split <;> cases output <;> rfl
      exact (ih _).trans hfirst

/-- What became of an accessory under some rules after presses of its keys. An output is toggled once for each press
that is due unless the graph has a press set it; where the graph has the last press set it, there it is. -/
structure Pressed (rules : Rules) (s : AccessoryState) (presses : List KeyPress) (t : AccessoryState) : Prop where
  claimed : t.claimed = s.claimed
  pressed : ∀ output, t.pressed output = (KeyPress.times output presses).getLast?.or (s.pressed output)
  aux : t.aux = (presses.getLast?.map (·.output.key)).or s.aux
  toggled : ∀ output, (∀ p ∈ presses, rules.graph.leaves? p.output.key output = none) →
    t.position output = output.toggle^[countDue rules.settings.auxPulseWindow (s.pressed output)
      (KeyPress.times output presses)] (s.position output)
  left : ∀ p, presses.getLast? = some p → ∀ output position,
    rules.graph.leaves? p.output.key output = some position → t.position output = some position

theorem pressed_refl (rules : Rules) (s : AccessoryState) : Pressed rules s [] s where
  claimed := rfl
  pressed _ := rfl
  aux := rfl
  toggled _ _ := rfl
  left _ h := by cases h

theorem applyCommand_key {key : AccessoryOutput} (hkey : d.pressed? = some key) (hfree : s.claimed = false)
    (rules : Rules) (now : Nat) :
    (s.applyCommand rules now d).1 =
      (rules.graph.resultsIn (Operation.accessory key.key).trigger true false).foldl applyOutput
        ((s.record (.command d) now).applyPress rules.settings.auxPulseWindow now key.key) := by
  have hop := Command.operation_of_pressed? hkey
  have hmoves : (Update.command d).isHalt = false := by
    rw [Update.isHalt, Command.isHalt, Command.isSystemHalt, hop]
    rfl
  have hkeyed : key.key ≠ .numeric := by cases key <;> decide
  have hrecorded : (s.record (.command d) now).claimed = false := hfree
  simp only [applyCommand, hmoves, hop, applyOperation, hkeyed, hrecorded, Command.trigger, Bool.false_eq_true,
    if_false]

/-- An accessory that no board has claimed takes one press. -/
theorem pressed_applyCommand {key : AccessoryOutput} (hkey : d.pressed? = some key) (hfree : s.claimed = false)
    (rules : Rules) (now : Nat) : Pressed rules s [⟨key, now⟩] (s.applyCommand rules now d).1 := by
  rw [applyCommand_key hkey hfree]
  have halike := alike_trans (alike_applyPress rules.settings.auxPulseWindow now key.key (s.record (.command d) now))
    (alike_applyOutputs (rules.graph.resultsIn (Operation.accessory key.key).trigger true false) _)
  have hposition : ∀ output, _ = (rules.graph.leaves? key.key output).or _ := fun output =>
    position_applyOutputs _ ((s.record (.command d) now).applyPress rules.settings.auxPulseWindow now key.key)
  refine ⟨halike.claimed, fun output => ?_, ?_, fun output hspared => ?_, fun p hp output position hleft => ?_⟩
  · rw [pressed_applyOutputs, pressed_applyPress, KeyPress.times_singleton]
    split
    · rfl
    · cases output <;> rfl
  · rw [aux_applyOutputs]
    cases key <;> rfl
  · rw [hposition, hspared _ List.mem_cons_self, Option.none_or, position_applyPress, KeyPress.times_singleton]
    have htimed : (s.record (.command d) now).pressed output = s.pressed output := by cases output <;> rfl
    have hrecorded : (s.record (.command d) now).position output = s.position output := by cases output <;> rfl
    rw [htimed, hrecorded]
    by_cases hsame : key = output
    · rw [if_pos hsame, countDue_cons]
      by_cases hdue : pulseDue (s.pressed output) rules.settings.auxPulseWindow now = true
      · rw [if_pos ⟨hsame, hdue⟩, if_pos hdue]
        rfl
      · rw [if_neg fun h => hdue h.2, if_neg hdue]
        rfl
    · rw [if_neg fun h => hsame h.1, if_neg hsame]
      rfl
  · obtain rfl : ⟨key, now⟩ = p := Option.some.inj hp
    rw [hposition, hleft, Option.some_or]

theorem pressed_append {presses later : List KeyPress} (h : Pressed rules s presses t)
    (hlater : Pressed rules t later u) : Pressed rules s (presses ++ later) u where
  claimed := hlater.claimed.trans h.claimed
  pressed output := by
    rw [hlater.pressed, h.pressed, KeyPress.times_append, List.getLast?_append, Option.or_assoc]
  aux := by
    rw [hlater.aux, h.aux, List.getLast?_append, Option.map_or, Option.or_assoc]
  toggled output hspared := by
    obtain ⟨hspared, hspared'⟩ := List.forall_mem_append.mp hspared
    rw [hlater.toggled output hspared', h.toggled output hspared, h.pressed, KeyPress.times_append, countDue_append,
      Function.iterate_add_apply]
  left p hp output position hleft := by
    rw [List.getLast?_append] at hp
    cases hlast : later.getLast? with
    | some q =>
        rw [hlast, Option.some_or] at hp
        exact hlater.left p (hlast.trans hp) output position hleft
    | none =>
        rw [hlast, Option.none_or] at hp
        obtain rfl := List.getLast?_eq_none_iff.mp hlast
        exact (hlater.toggled output (List.forall_mem_nil _)).trans (h.left p hp output position hleft)

theorem pressed_rebound (s : AccessoryState) (q : Profile) (output : AccessoryOutput) :
    ({ s with profile := q } : AccessoryState).pressed output = s.pressed output := by
  cases output <;> rfl

/-- Presses do the same to an accessory that takes an address first. -/
theorem pressed_of_rebound {q : Profile} {presses : List KeyPress}
    (h : Pressed rules { s with profile := q } presses t) : Pressed rules s presses t where
  claimed := h.claimed
  pressed output := by rw [h.pressed, pressed_rebound]
  aux := h.aux
  toggled output hspared := by
    have hposition : ({ s with profile := q } : AccessoryState).position output = s.position output := by
      cases output <;> rfl
    rw [h.toggled output hspared, pressed_rebound, hposition]
  left := h.left

/-! ## Other things -/

theorem pressed_applyCommand_of_other (hother : d.pressed? = none) (rules : Rules) (now : Nat) (s : AccessoryState)
    (output : AccessoryOutput) : (s.applyCommand rules now d).1.pressed output = s.pressed output := by
  unfold applyCommand
  split
  · cases output <;> rfl
  · split
    · rename_i op hop
      have hunpressed : ∀ t : AccessoryState, t.applyPress rules.settings.auxPulseWindow now op = t := by
        intro t
        cases op with
        | aux1OptOne | aux2OptOne =>
            rw [Command.pressed?, hop] at hother
            cases hother
        | _ => rfl
      have hnumbered : (if op = .numeric then { s.record (.command d) now with number := d.data }
          else s.record (.command d) now).pressed output = s.pressed output := by
        split <;> cases output <;> rfl
      unfold applyOperation
      dsimp only
      generalize (if op = .numeric then { s.record (.command d) now with number := d.data }
        else s.record (.command d) now) = numbered at hnumbered ⊢
      rw [hunpressed]
      split
      · exact hnumbered
      · exact (pressed_applyOutputs _ numbered output).trans hnumbered
    · rfl

theorem pressed_applyBoard (m : Message) (s : AccessoryState) (output : AccessoryOutput) :
    (s.applyBoard m).1.pressed output = s.pressed output := by
  have hpower : ∀ (t : AccessoryState) on, (t.setPower on).pressed output = t.pressed output := by
    intro t on
    cases on <;> cases output <;> rfl
  have hclaimed : ({ s with claimed := true } : AccessoryState).pressed output = s.pressed output := by
    cases output <;> rfl
  unfold applyBoard
  split
  · rw [applyRelay_eq]
    split
    · exact (hpower _ _).trans hclaimed
    · rfl
  · rename_i m
    rcases applyDistrict_cases m s with ⟨-, hsame⟩ | ⟨action, state, -, hreported⟩
    · rw [hsame]
    · rw [hreported, claimDistrict, hpower]
      cases output <;> rfl
  · unfold applyOutputMessage
    repeat' split
    all_goals cases output <;> rfl
  · unfold applySensor
    split <;> cases output <;> rfl
  · rfl

theorem pressed_applyMessage (now : Nat) (m : Message) (s : AccessoryState) (output : AccessoryOutput) :
    (s.applyMessage now m).state.pressed output = s.pressed output := by
  unfold applyMessage
  split
  · show (applyRecord now _ s).1.pressed output = s.pressed output
    unfold applyRecord
    split <;> cases output <;> rfl
  · split
    · rename_i offered _
      have hboard := pressed_applyBoard m { s with kind := offered } output
      have hoffered : ({ s with kind := offered } : AccessoryState).pressed output = s.pressed output := by
        cases output <;> rfl
      unfold applyKind
      split
      · split
        · rename_i heq
          rw [heq] at hboard
          cases output <;> exact hboard.trans hoffered
        · rename_i heq
          rw [heq] at hboard
          exact hboard.trans hoffered
      · rfl
    · rfl

end AccessoryState

/-! ## Histories -/

namespace Component

/-- The press of an option-one key that a component is told of and takes. -/
def keyPress? (c : Component) : Incident → Option KeyPress
  | .told rules now (.command d) =>
    if (c.update rules now (.command d)).verdict.isOk then d.pressed?.map (⟨·, now⟩) else none
  | _ => none

/-- The presses of option-one keys that a component takes, in order. -/
def keyPresses : Component → List Incident → List KeyPress
  | _, [] => []
  | c, i :: rest => (c.keyPress? i).toList ++ (c.meet i).keyPresses rest

variable {s : AccessoryState}

/-- An accessory either refuses a command, and nothing becomes of it, or applies it to itself as it accepts it. -/
theorem keyPress?_cases (s : AccessoryState) (rules : Rules) (now : Nat) (d : Command) :
    ((accessory s).keyPress? (.told rules now (.command d)) = none ∧
        (accessory s).meet (.told rules now (.command d)) = accessory s) ∨
      ∃ q, ((accessory s).keyPress? (.told rules now (.command d)) = d.pressed?.map (⟨·, now⟩)) ∧
        (accessory s).meet (.told rules now (.command d)) =
          accessory (({ s with profile := q } : AccessoryState).applyCommand rules now d).1 := by
  cases haccept : s.profile.accept .accessory (.command d) with
  | error cause =>
      have hrefused : s.update rules now (.command d) = ⟨s, .error cause⟩ := by
        simp only [AccessoryState.update, haccept]
      left
      rw [keyPress?, meet, update, hrefused]
      exact ⟨rfl, rfl⟩
  | ok q =>
      right
      refine ⟨q, ?_⟩
      rw [keyPress?, meet, update, AccessoryState.update_command haccept]
      exact ⟨rfl, rfl⟩

/-- What an accessory goes through and is not claimed after moves the times of its presses as the presses tell. -/
theorem pressed_meet (s : AccessoryState) (i : Incident) :
    ∃ t, (accessory s).meet i = accessory t ∧ (t.claimed = false → s.claimed = false ∧
      ∀ output, t.pressed output =
        (KeyPress.times output ((accessory s).keyPress? i).toList).getLast?.or (s.pressed output)) := by
  obtain ⟨t, ht, hfollows⟩ := follows_meet s i
  refine ⟨t, ht, fun hafter => ?_⟩
  have hfree : s.claimed = false := by
    cases hclaimed : s.claimed with
    | false => rfl
    | true =>
        rw [hfollows.claimed hclaimed] at hafter
        cases hafter
  refine ⟨hfree, fun output => ?_⟩
  cases i with
  | seen sighting =>
      cases ht
      rfl
  | told rules now u =>
      cases u with
      | message m =>
          cases haccept : s.profile.accept .accessory (.message m) with
          | error cause =>
              have hrefused : s.update rules now (.message m) = ⟨s, .error cause⟩ := by
                simp only [AccessoryState.update, haccept]
              rw [meet, update, hrefused] at ht
              cases ht
              rfl
          | ok q =>
              rw [meet, update, AccessoryState.update_message haccept] at ht
              cases ht
              rw [AccessoryState.pressed_applyMessage, AccessoryState.pressed_rebound]
              rfl
      | command d =>
          rcases keyPress?_cases s rules now d with ⟨hnone, hsame⟩ | ⟨q, hpress, hmeet⟩
          · rw [hnone]
            rw [hsame] at ht
            cases ht
            rfl
          · rw [hpress]
            rw [hmeet] at ht
            cases ht
            cases hkey : d.pressed? with
            | none =>
                rw [AccessoryState.pressed_applyCommand_of_other hkey, AccessoryState.pressed_rebound]
                rfl
            | some key =>
                have hpressed := AccessoryState.pressed_applyCommand (s := { s with profile := q }) hkey hfree rules now
                exact (AccessoryState.pressed_of_rebound hpressed).pressed output

theorem pressed_run (s : AccessoryState) (history : List Incident) :
    ∃ t, (accessory s).run history = accessory t ∧ (t.claimed = false → s.claimed = false ∧
      ∀ output, t.pressed output =
        (KeyPress.times output ((accessory s).keyPresses history)).getLast?.or (s.pressed output)) := by
  induction history generalizing s with
  | nil => exact ⟨s, rfl, fun hfree => ⟨hfree, fun _ => rfl⟩⟩
  | cons i rest ih =>
      obtain ⟨next, hmeet, hnext⟩ := pressed_meet s i
      obtain ⟨t, hrun, ht⟩ := ih next
      refine ⟨t, ?_, fun hfree => ?_⟩
      · rw [run, List.foldl_cons, hmeet]
        exact hrun
      · obtain ⟨hbetween, hlater⟩ := ht hfree
        obtain ⟨hbefore, hfirst⟩ := hnext hbetween
        refine ⟨hbefore, fun output => ?_⟩
        rw [hlater, hfirst, keyPresses, hmeet, KeyPress.times_append, List.getLast?_append, Option.or_assoc]

/-- Presses told to an accessory that no board has claimed toggle its outputs, those apart that it refuses. -/
theorem run_presses (hfree : s.claimed = false) (rules : Rules) {presses : List (Nat × Command)}
    (hpresses : ∀ p ∈ presses, p.2.pressed?.isSome = true) :
    ∃ t, (accessory s).run (presses.map fun p => .told rules p.1 (.command p.2)) = accessory t ∧
      s.Pressed rules ((accessory s).keyPresses (presses.map fun p => .told rules p.1 (.command p.2))) t := by
  induction presses generalizing s with
  | nil => exact ⟨s, rfl, AccessoryState.pressed_refl rules s⟩
  | cons p rest ih =>
      obtain ⟨hkey, hrest⟩ := List.forall_mem_cons.mp hpresses
      obtain ⟨key, hkey⟩ := Option.isSome_iff_exists.mp hkey
      have hmeet : ∃ next, (accessory s).meet (.told rules p.1 (.command p.2)) = accessory next ∧
          s.Pressed rules ((accessory s).keyPress? (.told rules p.1 (.command p.2))).toList next := by
        rcases keyPress?_cases s rules p.1 p.2 with ⟨hnone, hsame⟩ | ⟨q, hpress, hmeet⟩
        · rw [hnone]
          exact ⟨s, hsame, AccessoryState.pressed_refl rules s⟩
        · rw [hpress, hkey]
          have hpressed := AccessoryState.pressed_applyCommand (s := { s with profile := q }) hkey hfree rules p.1
          exact ⟨_, hmeet, AccessoryState.pressed_of_rebound hpressed⟩
      obtain ⟨next, hmeet, hnext⟩ := hmeet
      obtain ⟨t, hrun, ht⟩ := ih (hnext.claimed.trans hfree) hrest
      refine ⟨t, ?_, ?_⟩
      · rw [run, List.map_cons, List.foldl_cons, hmeet]
        exact hrun
      · rw [List.map_cons, keyPresses, hmeet]
        exact AccessoryState.pressed_append hnext ht

/-- An accessory takes all presses of its keys that are for its address, or for all accessories. -/
theorem keyPresses_of_addressed {n : UInt16} (hbound : s.profile.address = some n) (rules : Rules)
    {presses : List (Nat × Command)}
    (haddressed : ∀ p ∈ presses, p.2.scope = .accessory ∧ (p.2.address = n ∨ p.2.address = broadcastAddress)) :
    (accessory s).keyPresses (presses.map fun p => .told rules p.1 (.command p.2)) =
      presses.filterMap fun p => p.2.pressed?.map (⟨·, p.1⟩) := by
  induction presses generalizing s with
  | nil => rfl
  | cons p rest ih =>
      obtain ⟨⟨hscope, haddress⟩, hrest⟩ := List.forall_mem_cons.mp haddressed
      have htarget : (Update.command p.2).target? = some (.accessory, p.2.address) := by rw [Update.target?, hscope]
      have haccept : s.profile.accept .accessory (.command p.2) = .ok s.profile :=
        Profile.accept_of_reaches hbound htarget (haddress.imp_right fun hall => Or.inl ⟨hall, by decide⟩)
      have htaken : (accessory s).keyPress? (.told rules p.1 (.command p.2)) = p.2.pressed?.map (⟨·, p.1⟩) := by
        rw [keyPress?, update, AccessoryState.update_command haccept]
        rfl
      obtain ⟨next, hnext, -⟩ := pressed_meet s (.told rules p.1 (.command p.2))
      have hstays : next.profile.address = some n := by
        have hmet := address_meet (c := accessory s) hbound (.told rules p.1 (.command p.2))
        rwa [hnext] at hmet
      rw [List.map_cons, keyPresses, htaken, hnext, ih hstays hrest, List.filterMap_cons]
      cases p.2.pressed? <;> rfl

/-- Take an accessory that no board has claimed, whatever it went through, and tell it any presses of its two option-one
keys at any times under any rules; it takes those that are for its address or for all accessories. Under every graph the
key is the one pressed last afterwards. An output that the graph has none of these presses set, as the stock graph has
none, is toggled once for each press of its own key that is the first one ever or comes more than the window after the
one before, whether or not that one toggled it. An output that the graph has the last press set is where it is set. -/
theorem toggled_by_presses {start : Option UInt16} {c : Component} (h : build .accessory start = .ok c)
    {history : List Incident} {s : AccessoryState} (hs : c.run history = accessory s) (hfree : s.claimed = false)
    (rules : Rules) {presses : List (Nat × Command)}
    (hpresses : ∀ p ∈ presses,
      p.2.operation = .accessory .aux1OptOne ∨ p.2.operation = .accessory .aux2OptOne) :
    let told : List Incident := presses.map fun p => .told rules p.1 (.command p.2)
    let taken := (accessory s).keyPresses told
    ∃ t, c.run (history ++ told) = accessory t ∧ t.claimed = false ∧
      (∀ n, s.profile.address = some n →
        (∀ p ∈ presses, p.2.scope = .accessory ∧ (p.2.address = n ∨ p.2.address = broadcastAddress)) →
          taken = presses.filterMap fun p => p.2.pressed?.map (⟨·, p.1⟩)) ∧
      t.aux = (taken.getLast?.map (·.output.key)).or s.aux ∧
      ∀ output,
        ((rules.graph = .stock ∨ ∀ p ∈ taken, rules.graph.leaves? p.output.key output = none) →
          t.position output =
            output.toggle^[countDue rules.settings.auxPulseWindow
              (KeyPress.times output (c.keyPresses history)).getLast? (KeyPress.times output taken)]
              (s.position output)) ∧
        ∀ last position, taken.getLast? = some last → rules.graph.leaves? last.output.key output = some position →
          t.position output = some position := by
  intro told taken
  have hkeys : ∀ p ∈ presses, p.2.pressed?.isSome = true := by
    intro p hp
    rw [Command.pressed?]
    rcases hpresses p hp with hop | hop <;> rw [hop] <;> rfl
  obtain ⟨t, hrun, hpressed⟩ := run_presses hfree rules hkeys
  -- An accessory that is not claimed has seen all presses that it took before.
  have hbefore : ∀ output, s.pressed output = (KeyPress.times output (c.keyPresses history)).getLast? := by
    have hstart : c = accessory (.fresh (.fresh start)) := eq_fresh_of_build h
    obtain ⟨s', hs', htimed⟩ := pressed_run (.fresh (.fresh start)) history
    rw [← hstart] at hs' htimed
    cases accessory.inj (hs.symm.trans hs')
    intro output
    rw [(htimed hfree).2]
    cases output <;> exact Option.or_none
  refine ⟨t, ?_, hpressed.claimed.trans hfree,
    fun n hbound haddressed => keyPresses_of_addressed hbound rules haddressed, hpressed.aux, fun output =>
      ⟨fun hspared => ?_, fun last position hlast => hpressed.left last hlast output position⟩⟩
  · rw [run, List.foldl_append]
    exact (congrArg (·.run told) hs).trans hrun
  · rw [← hbefore]
    refine hpressed.toggled output fun p hp => ?_
    rcases hspared with hstock | hnone
    · rw [hstock]
      exact EffectGraph.leaves?_stock_key p.output output
    · exact hnone p hp

/-- The first key was pressed at 0, which switched the first output on. Presses of it at 1000 and 2000 come just at the
window after the one before and toggle nothing; one at 3001 does. The second key is pressed in between. -/
theorem toggled_by_presses_held :
    let rules : Rules := ⟨.stock, .standard⟩
    let press (op : AccessoryOp) : Command := ⟨.accessory op, 5, none, .accessory⟩
    let history : List Incident := [.told rules 0 (.command (press .aux1OptOne))]
    let presses : List (Nat × Command) :=
      [(1000, press .aux1OptOne), (1500, press .aux2OptOne), (2000, press .aux1OptOne), (3001, press .aux1OptOne)]
    ∃ c s t, build .accessory none = .ok c ∧ c.run history = accessory s ∧ s.claimed = false ∧
      s.aux1 = some .aux1On ∧
      (∀ p ∈ presses, p.2.operation = .accessory .aux1OptOne ∨ p.2.operation = .accessory .aux2OptOne) ∧
        c.run (history ++ presses.map fun p => .told rules p.1 (.command p.2)) = accessory t ∧
          t.aux = some .aux1OptOne ∧ t.aux1 = some .aux1Off ∧ t.aux2 = some .aux2On := by
  intro rules press history presses
  have hbuild : build .accessory none = .ok (fresh .accessory none) := rfl
  obtain ⟨s, hs, hfree, hbound, hon⟩ : ∃ s, (fresh .accessory none).run history = accessory s ∧ s.claimed = false ∧
      s.profile.address = some 5 ∧ s.outputs = (some .aux1OptOne, some .aux1On, none) := ⟨_, rfl, rfl, rfl, rfl⟩
  have hpresses : ∀ p ∈ presses, p.2.operation = .accessory .aux1OptOne ∨ p.2.operation = .accessory .aux2OptOne := by
    decide
  obtain ⟨t, ht, -, htaken, haux, houtputs⟩ := toggled_by_presses hbuild hs hfree rules hpresses
  have htaken : (accessory s).keyPresses (presses.map fun p => .told rules p.1 (.command p.2)) =
      [⟨.aux1, 1000⟩, ⟨.aux2, 1500⟩, ⟨.aux1, 2000⟩, ⟨.aux1, 3001⟩] := htaken 5 hbound (by decide)
  have hearlier : (fresh .accessory none).keyPresses history = [⟨.aux1, 0⟩] := by decide +kernel
  have hfirst := (houtputs .aux1).1 (Or.inl rfl)
  have hsecond := (houtputs .aux2).1 (Or.inl rfl)
  have haux1 : s.position .aux1 = some .aux1On := congrArg (·.2.1) hon
  have haux2 : s.position .aux2 = none := congrArg (·.2.2) hon
  rw [htaken] at haux hfirst hsecond
  rw [hearlier, haux1] at hfirst
  rw [hearlier, haux2] at hsecond
  exact ⟨_, s, t, hbuild, hs, hfree, haux1, hpresses, ht, haux, hfirst, hsecond⟩

/-- Under a graph in which the first key results in switching the second output on, a press of the first key alone
switches the second output on. -/
theorem toggled_by_other :
    let rules : Rules := ⟨EffectGraph.empty.registerCauses (Operation.accessory .aux1OptOne).trigger
      [(Operation.accessory .aux2On).trigger], .standard⟩
    let told : List Incident := [.told rules 0 (.command ⟨.accessory .aux1OptOne, 5, none, .accessory⟩)]
    ∃ s t, build .accessory (some 5) = .ok (accessory s) ∧ s.claimed = false ∧
      (accessory s).run told = accessory t ∧ (accessory s).keyPresses told = [⟨.aux1, 0⟩] ∧
        t.aux2 = some .aux2On ∧
        t.position .aux2 ≠ AccessoryOutput.aux2.toggle^[countDue rules.settings.auxPulseWindow none
          (KeyPress.times .aux2 ((accessory s).keyPresses told))] (s.position .aux2) := by
  intro rules told
  refine ⟨.fresh (.fresh (some 5)), _, rfl, rfl, rfl, by decide +kernel, by decide +kernel, ?_⟩
  decide +kernel

end Component
end RailLayout
