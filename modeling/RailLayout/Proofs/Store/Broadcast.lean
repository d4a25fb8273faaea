import RailLayout.Proofs.State.Believed
import RailLayout.Proofs.State.Motive.Dossier
import RailLayout.Proofs.Store.Placed
import RailLayout.Proofs.Store.Routing

/-!
Broadcasts. A command to the broadcast address is for every component of its kind, so it should do what the same command
does that is sent to each of them. It does, with one exception: an engine whose generation is not decided yet decides it
by the address that the command carries. By its own address of four digits the engine would be of the Legacy generation,
but the broadcast address has two (`Store.broadcast_misjudges`).
-/

namespace RailLayout

/-- The same command for another address. -/
def Command.sentTo (c : Command) (address : UInt16) : Command := { c with address := address }

variable {c : Command} {own : UInt16} {rules : Rules} {now : Nat}

theorem Profile.accept_broadcast {scope : Scope} {p : Profile} (hscope : c.scope = scope) (hsync : scope ≠ .sync)
    (hbound : p.address.isSome = true) :
    p.accept scope (.command (c.sentTo broadcastAddress)) = .ok p := by
  obtain ⟨bound, hbound⟩ := Option.isSome_iff_exists.mp hbound
  simp [accept, Update.target?, Command.sentTo, hscope, hsync, hbound]

/-! ## What the address of a command is good for -/

namespace MotiveState

theorem believed_applyOperation (s : MotiveState) (generation : Generation) (op : EngineOp) (n : UInt16) :
    (Component.motive (s.applyOperation rules now (c.sentTo n) generation op).1).believed =
      (Component.motive (s.applyOperation rules now c generation op).1).believed := by
  have hdata : (c.sentTo n).data = c.data := rfl
  have heffects : Effects.ofCommand rules.graph (c.sentTo n) = Effects.ofCommand rules.graph c := rfl
  unfold applyOperation
  rw [hdata, heffects]
  dsimp only
  split <;> rfl

/-- What a command does once the generation is decided. -/
def obey (rules : Rules) (now : Nat) (c : Command) (s : MotiveState) : MotiveState :=
  match c.operation with
  | .engine generation op => (s.applyOperation rules now c generation op).1
  | _ => s

/-- An engine or a train looks at the address of a command only to decide its generation. -/
theorem believed_applyCommand (s : MotiveState) (hhalt : (Update.command c).isHalt = false)
    (hwindow : rules.settings.duplicateWindow = 0) (n : UInt16) :
    (Component.motive (s.applyCommand rules now (c.sentTo n)).1).believed =
      (Component.motive ((s.latchGeneration (c.sentTo n)).obey rules now c)).believed := by
  have hnew : ∀ p : Profile, p.repeats (c.sentTo n) rules.settings.duplicateWindow now = false := by
    intro p
    rw [hwindow, Profile.repeats_zero]
  have hmoves : (Update.command (c.sentTo n)).isHalt = false := hhalt
  have hoperation : (c.sentTo n).operation = c.operation := rfl
  simp only [applyCommand, obey, hnew, hmoves, hoperation, Bool.false_eq_true, if_false]
  generalize s.latchGeneration (c.sentTo n) = latched
  cases c.operation with
  | engine generation op => exact believed_applyOperation latched generation op n
  | _ => rfl

/-- Whether a broadcast makes an engine or a train of the other generation than the same command to its own address. -/
structure Misjudged (c : Command) (own : UInt16) (s : MotiveState) : Prop where
  undecided : s.legacy = none
  plain : c.isLegacy = false
  number : 99 < own

instance (c : Command) (own : UInt16) (s : MotiveState) : Decidable (s.Misjudged c own) :=
  decidable_of_iff (s.legacy = none ∧ c.isLegacy = false ∧ 99 < own)
    ⟨fun h => ⟨h.1, h.2.1, h.2.2⟩, fun h => ⟨h.undecided, h.plain, h.number⟩⟩

theorem latchGeneration_sentTo {s : MotiveState} (h : ¬s.Misjudged c own) :
    s.latchGeneration (c.sentTo broadcastAddress) = s.latchGeneration (c.sentTo own) := by
  by_cases hundecided : s.legacy = none ∧ (Update.command c).isHalt = false
  · have hdecides : (c.isLegacy || decide (99 < broadcastAddress)) = (c.isLegacy || decide (99 < own)) := by
      cases hplain : c.isLegacy with
      | true => rfl
      | false =>
          have hshort : ¬99 < own := fun hnumber => h ⟨hundecided.1, hplain, hnumber⟩
          rw [decide_eq_false hshort]
          rfl
    exact (if_pos hundecided).trans ((congrArg (fun legacy => { s with legacy := some legacy }) hdecides).trans
      (if_pos hundecided).symm)
  · exact (if_neg hundecided).trans (if_neg hundecided).symm

theorem legacy_applyCommand {s : MotiveState} (h : s.Misjudged c own) (hhalt : (Update.command c).isHalt = false)
    (n : UInt16) : (s.applyCommand rules now (c.sentTo n)).1.legacy = some (decide (99 < n)) := by
  have hdossier := congrArg MotiveState.legacy (dossier_applyCommand s rules now (c.sentTo n))
  have hdecided : (s.latchGeneration (c.sentTo n)).legacy = some (c.isLegacy || decide (99 < n)) :=
    congrArg MotiveState.legacy (if_pos ⟨h.undecided, hhalt⟩)
  rw [h.plain, Bool.false_or] at hdecided
  exact hdossier.trans hdecided

/-- A broadcast and the same command to an engine's or a train's own address come to the same, unless the broadcast
misjudges the generation. -/
theorem believed_broadcast_iff {s : MotiveState} (hhalt : (Update.command c).isHalt = false)
    (hwindow : rules.settings.duplicateWindow = 0) :
    (Component.motive (s.applyCommand rules now (c.sentTo broadcastAddress)).1).believed =
      (Component.motive (s.applyCommand rules now (c.sentTo own)).1).believed ↔ ¬s.Misjudged c own := by
  constructor
  · intro hsame hmisjudged
    have hlegacy := congrArg MotiveState.legacy (Component.motive.inj hsame)
    have hboth := (legacy_applyCommand hmisjudged hhalt broadcastAddress).symm.trans
      (hlegacy.trans (legacy_applyCommand hmisjudged hhalt own))
    rw [decide_eq_true hmisjudged.number] at hboth
    cases hboth
  · intro h
    rw [believed_applyCommand s hhalt hwindow, believed_applyCommand s hhalt hwindow, latchGeneration_sentTo h]

end MotiveState

namespace AccessoryState

theorem applyOutputs_withProfile (effects : TriggerSet) (s : AccessoryState) (p : Profile) :
    effects.foldl applyOutput { s with profile := p } = { effects.foldl applyOutput s with profile := p } := by
  induction effects generalizing s with
  | nil => rfl
  | cons t rest ih =>
      have hfirst : applyOutput { s with profile := p } t = { s.applyOutput t with profile := p } := by
        unfold applyOutput
        split <;> rfl
      rw [List.foldl_cons, List.foldl_cons, hfirst, ih]

theorem applyPress_withProfile (window now : Nat) (op : AccessoryOp) (s : AccessoryState) (p : Profile) :
    applyPress window now op { s with profile := p } = { s.applyPress window now op with profile := p } := by
  unfold applyPress
  repeat' split
  all_goals rfl

/-- What an operation does, but for remembering the command. -/
def operated (rules : Rules) (now : Nat) (data : Option UInt16) (trigger : Trigger) (op : AccessoryOp)
    (s : AccessoryState) : AccessoryState :=
  let s := if op = .numeric then { s with number := data } else s
  if s.claimed then s
  else (rules.graph.resultsIn trigger true false).foldl applyOutput (s.applyPress rules.settings.auxPulseWindow now op)

theorem applyOperation_eq (s : AccessoryState) (op : AccessoryOp) :
    (s.applyOperation rules now c op).1 =
      { s.operated rules now c.data c.trigger op with profile := s.profile.record (.command c) now } := by
  have hset : ∀ (t : AccessoryState) (p : Profile),
      (rules.graph.resultsIn c.trigger true false).foldl applyOutput
          (applyPress rules.settings.auxPulseWindow now op { t with profile := p }) =
        { (rules.graph.resultsIn c.trigger true false).foldl applyOutput
            (applyPress rules.settings.auxPulseWindow now op t) with profile := p } := by
    intro t p
    rw [applyPress_withProfile, applyOutputs_withProfile]
  have hnumbered :
      (if op = .numeric then { s.record (.command c) now with number := c.data } else s.record (.command c) now) =
        { (if op = .numeric then { s with number := c.data } else s : AccessoryState) with
          profile := s.profile.record (.command c) now } := by
    split <;> rfl
  unfold applyOperation operated
  dsimp only
  rw [hnumbered]
  generalize (if op = .numeric then { s with number := c.data } else s : AccessoryState) = t
  by_cases hclaimed : t.claimed = true
  · rw [if_pos hclaimed, if_pos hclaimed]
  · rw [if_neg hclaimed, if_neg hclaimed]
    exact hset t _

/-- What is believed of an accessory after a command does not depend on the address of the command. -/
theorem believed_applyCommand (s : AccessoryState) (hhalt : (Update.command c).isHalt = false) (n : UInt16) :
    (Component.accessory (s.applyCommand rules now (c.sentTo n)).1).believed =
      (Component.accessory (s.applyCommand rules now c).1).believed := by
  have hmoves : (Update.command (c.sentTo n)).isHalt = false := hhalt
  have hoperation : (c.sentTo n).operation = c.operation := rfl
  simp only [applyCommand, hmoves, hhalt, hoperation, Bool.false_eq_true, if_false]
  cases c.operation with
  | accessory op =>
      rw [applyOperation_eq, applyOperation_eq]
      rfl
  | _ => rfl

end AccessoryState

namespace Component

variable {d : Component}

/-- Whether a component is an engine or a train that a broadcast misjudges. -/
def Misjudged (c : Command) (own : UInt16) : Component → Prop
  | motive s => s.Misjudged c own
  | _ => False

instance (c : Command) (own : UInt16) : (d : Component) → Decidable (d.Misjudged c own)
  | motive s => inferInstanceAs (Decidable (s.Misjudged c own))
  | switch _ | route _ | accessory _ | sensorTrack _ | block _ | base _ | sync _ => .isFalse id

theorem believed_update_sentTo (hmotive : d.scope.isMotive = false) {a b : UInt16}
    (hhalt : (Update.command c).isHalt = false)
    (ha : d.profile.accept d.scope (.command (c.sentTo a)) = .ok d.profile)
    (hb : d.profile.accept d.scope (.command (c.sentTo b)) = .ok d.profile) :
    (d.update rules now (.command (c.sentTo a))).state.believed =
      (d.update rules now (.command (c.sentTo b))).state.believed := by
  have hoperation : ∀ n, (c.sentTo n).operation = c.operation := fun _ => rfl
  cases d with
  | motive s => cases hkind : s.kind <;> rw [scope, hkind] at hmotive <;> cases hmotive
  | switch s =>
      rw [update, SwitchState.update_of_accept ha, update, SwitchState.update_of_accept hb]
      simp only [SwitchState.apply, SwitchState.applyPosition, SwitchState.commanded?, hoperation]
      split <;> rfl
  | route s =>
      rw [update, RouteState.update_of_accept ha, update, RouteState.update_of_accept hb]
      simp only [RouteState.apply, hoperation]
      split <;> rfl
  | accessory s =>
      rw [update, AccessoryState.update_command ha, update, AccessoryState.update_command hb]
      exact (AccessoryState.believed_applyCommand s hhalt a).trans (AccessoryState.believed_applyCommand s hhalt b).symm
  | sensorTrack s =>
      rw [update, SensorTrackState.update_of_accept ha, update, SensorTrackState.update_of_accept hb]
      rfl
  | block s =>
      rw [update, BlockState.update_of_accept ha, update, BlockState.update_of_accept hb]
      rfl
  | base s =>
      rw [update, BaseState.update_of_accept ha, update, BaseState.update_of_accept hb]
      rfl
  | sync s =>
      rw [update, SyncState.update_of_accept ha, update, SyncState.update_of_accept hb]
      simp only [SyncState.apply, hoperation]
      split <;> rfl

/-- What a broadcast does to a component is what the same command to its own address does, unless it misjudges an engine
or a train. -/
theorem believed_broadcast_iff (hhalt : (Update.command c).isHalt = false)
    (hwindow : rules.settings.duplicateWindow = 0) (hscope : c.scope = d.scope) (hsync : d.scope ≠ .sync)
    (hbound : d.profile.address = some own) (now : Nat) :
    (d.update rules now (.command (c.sentTo broadcastAddress))).state.believed =
      (d.update rules now (.command (c.sentTo own))).state.believed ↔ ¬d.Misjudged c own := by
  have hall : d.profile.accept d.scope (.command (c.sentTo broadcastAddress)) = .ok d.profile :=
    Profile.accept_broadcast hscope hsync (hbound ▸ rfl)
  have hone : d.profile.accept d.scope (.command (c.sentTo own)) = .ok d.profile :=
    Profile.accept_bound hbound (congrArg (fun scope => some (scope, own)) hscope)
  cases hmotive : d.scope.isMotive with
  | true =>
      obtain ⟨s, rfl⟩ := exists_motive hmotive
      rw [update, update, MotiveState.update_command hall, MotiveState.update_command hone]
      exact MotiveState.believed_broadcast_iff hhalt hwindow
  | false =>
      refine iff_of_true (believed_update_sentTo hmotive hhalt hall hone) ?_
      cases d with
      | motive s => cases hkind : s.kind <;> rw [scope, hkind] at hmotive <;> cases hmotive
      | _ => exact not_false

end Component

namespace Store

variable {store : Store} {e : Entry}

/-- A command to the address of a component that is filed is given to this component. -/
theorem dispatch_filed (hhalt : (Update.command c).isHalt = false) (hdirect : c.address ≠ broadcastAddress)
    (hkey : e.key = (c.scope, c.address)) (hfiled : e.key ∈ store.keys) (now : Nat) :
    store.dispatch now (.command c) = store.applyToFiled now (.command c) e := by
  obtain ⟨hscope, haddress⟩ := Prod.mk.inj hkey
  obtain ⟨present, hpresent⟩ := Option.isSome_iff_exists.mp (isSome_filed?.mpr (hkey ▸ hfiled))
  have hquery : store.query c.scope c.address = some present := by rw [query, hpresent]
  rw [dispatch_eq_route hhalt rfl fun h => hdirect h.1, applyToFiled, hscope, haddress, hpresent]
  simp only [route, Update.target?, applyAt, getOrCreate, hquery]

theorem keys_applyToFiled (h : Sound store) (hfiled : e.key ∈ store.keys) (now : Nat) (c : Command) :
    (store.applyToFiled now (.command c) e).state.keys = store.keys := by
  obtain ⟨present, hpresent⟩ := Option.isSome_iff_exists.mp (isSome_filed?.mpr (show (e.scope, e.address) ∈ _ from hfiled))
  rw [applyToFiled, hpresent]
  dsimp only
  rw [applyTo_command h (filed?_eq_some hpresent).1, keys_put]

/-- The command to each of some components, at its own address. -/
def sentToEach (c : Command) (targets : List Entry) : List Update :=
  targets.map fun e => .command (c.sentTo e.address)

/-- Commands to components that are filed are given to one after the other. -/
theorem dispatchAll_sentToEach (hhalt : (Update.command c).isHalt = false) {targets : List Entry} (h : Sound store)
    (hfiled : ∀ e ∈ targets, e.key ∈ store.keys) (hscope : ∀ e ∈ targets, e.scope = c.scope)
    (hdirect : ∀ e ∈ targets, e.address ≠ broadcastAddress) (now : Nat) :
    store.dispatchAll now (sentToEach c targets) =
      Reaction.forEach (fun e => applyToFiled now (.command (c.sentTo e.address)) e) targets store := by
  induction targets generalizing store with
  | nil => rfl
  | cons e rest ih =>
      have hkey : e.key = ((c.sentTo e.address).scope, (c.sentTo e.address).address) :=
        congrArg (·, e.address) (hscope e List.mem_cons_self)
      have hmoves : (Update.command (c.sentTo e.address)).isHalt = false := hhalt
      have hfirst : store.dispatch now (.command (c.sentTo e.address)) =
          store.applyToFiled now (.command (c.sentTo e.address)) e :=
        dispatch_filed hmoves (hdirect e List.mem_cons_self) hkey (hfiled e List.mem_cons_self) now
      have hkeys := keys_applyToFiled h (hfiled e List.mem_cons_self) now (c.sentTo e.address)
      have hrest := ih (sound_moves h (moves_applyToFiled now (.command (c.sentTo e.address)) e store))
        (fun x hx => hkeys.symm ▸ hfiled x (List.mem_cons_of_mem e hx))
        (fun x hx => hscope x (List.mem_cons_of_mem e hx)) (fun x hx => hdirect x (List.mem_cons_of_mem e hx))
      show (store.dispatch now _).andThen (dispatchAll now (sentToEach c rest)) = _
      rw [hfirst, Reaction.forEach, Reaction.andThen, Reaction.andThen, hrest]

/-- A kind that takes a command which is no halt and does not say how far the reading of records is: its components are
bound where they are filed. -/
theorem bound_of_accepts {operation : Operation} {scope : Scope} (haccepts : operation.accepts scope = true)
    (hhalt : operation.isHalt = false) (n : UInt16) (hsync : scope ≠ .sync) : scope.bound n = n := by
  cases scope with
  | base =>
      cases operation with
      | halt => exact absurd hhalt (by decide)
      | _ => cases haccepts
  | sync => exact absurd rfl hsync
  | _ => rfl

end Store

/-- What becomes of a filed component when a broadcast is heard, and when the same command is sent to the own address of
each component of its kind. -/
structure Entry.Broadcast (c : Command) (before heard told : Entry) : Prop where
  heard_key : heard.key = before.key
  told_key : told.key = before.key
  other : before.scope ≠ c.scope → heard = before ∧ told = before
  same : before.scope = c.scope →
    (heard.state.believed = told.state.believed ↔ ¬before.state.Misjudged c before.address)

namespace Store

variable {store : Store} {e : Entry}

/-- A broadcast is given to each component of its kind. -/
theorem dispatch_broadcast (hall : c.isBroadcast = true) (hhalt : (Update.command c).isHalt = false) (now : Nat) :
    store.dispatch now (.command c) = store.applyToAll now (.command c) [c.scope] := by
  obtain ⟨hstop, hsystem⟩ := Bool.or_eq_false_iff.mp hhalt
  rw [dispatch, hstop, hsystem, hall]
  rfl

theorem broadcast_updated (hhalt : (Update.command c).isHalt = false) (hwindow : rules.settings.duplicateWindow = 0)
    (hall : c.address = broadcastAddress) (hsync : c.scope ≠ .sync) (h : e.Sound)
    (hown : e.scope = c.scope → e.state.profile.address = some e.address) (now : Nat) :
    e.Broadcast c (if e.scope = c.scope then e.updated rules now (.command c) else e)
      (if e.scope = c.scope then e.updated rules now (.command (c.sentTo e.address)) else e) := by
  by_cases hscope : e.scope = c.scope
  · rw [if_pos hscope, if_pos hscope]
    refine ⟨Entry.key_updated _ _ _ _, Entry.key_updated _ _ _ _, fun hother => absurd hscope hother, fun _ => ?_⟩
    rw [(Entry.updated_same rules now (.command c) e).2.2,
      (Entry.updated_same rules now (.command (c.sentTo e.address)) e).2.2]
    have hstate : c.scope = e.state.scope := hscope.symm.trans h.scope_eq.symm
    have hself : c.sentTo broadcastAddress = c := by rw [← hall]; rfl
    have hiff := Component.believed_broadcast_iff hhalt hwindow hstate (hstate ▸ hsync) (hown hscope) now
    rwa [hself] at hiff
  · rw [if_neg hscope, if_neg hscope]
    exact ⟨rfl, rfl, fun _ => ⟨rfl, rfl⟩, fun h => absurd h hscope⟩

/-- Take any store after any dispatches, lookups and resets, with no duplicate window. A command other than a halt for
the broadcast address, of a kind that no component at this address belongs to, files nothing and changes components of
its kind only, and so does the same command if it is sent to the own address of each. Both leave a component of the
kind with the same state, but for what the last command was and when it came, exactly if it is none that the broadcast
misjudges: an engine or a train with an address above 99 whose generation is not decided, while the command is not of
the Legacy generation. -/
theorem broadcast_misjudges (rules : Rules) (hwindow : rules.settings.duplicateWindow = 0) (actions : List Action)
    {store : Store} (hstore : (empty rules).after actions = store) (now : Nat) {operation : Operation}
    {data : Option UInt16} {scope : Option Scope} (hbuild : Command.build operation broadcastAddress data scope = .ok c)
    (hhalt : (Update.command c).isHalt = false) (hsync : c.scope ≠ .sync)
    (hfree : ∀ e ∈ store.ofScope c.scope, e.state.profile.address ≠ some broadcastAddress) :
    ∃ heard told : Entry → Entry,
      (store.dispatch now (.command c)).state = { store with entries := store.entries.map heard } ∧
        (store.dispatchAll now (sentToEach c (store.ofScope c.scope))).state =
          { store with entries := store.entries.map told } ∧
          ∀ e ∈ store.entries, e.Broadcast c (heard e) (told e) := by
  have hsound : Sound store := hstore ▸ sound_after rules actions
  have hrules : store.rules = rules := hstore ▸ rules_after rules actions
  have hplaced : Placed store :=
    hstore ▸ after_invariant placed_move (fun _ => placed_empty _) (sound_empty rules) (placed_empty rules) actions
  obtain ⟨haccepts, -, hall⟩ := Command.of_build hbuild
  have hbroadcast : c.isBroadcast = true := by
    rw [Command.isBroadcast, hall, Bool.and_eq_true, bne_iff_ne]
    exact ⟨beq_self_eq_true _, hsync⟩
  have hstays : c.operation.isHalt = false := (Bool.or_eq_false_iff.mp hhalt).1
  have hown : ∀ e ∈ store.entries, e.scope = c.scope → e.state.profile.address = some e.address := by
    intro e he hscope
    rw [hplaced.bound e he, hscope, bound_of_accepts haccepts hstays e.address hsync]
  have hkind : ∀ e, e ∈ store.ofScope c.scope ↔ e ∈ store.entries ∧ e.scope = c.scope := by
    intro e
    rw [ofScope, List.mem_filter, beq_iff_eq]
  have honce : (store.ofScope c.scope).Nodup := (List.Nodup.of_map Entry.key hsound.distinct).filter _
  have hdirect : ∀ e ∈ store.ofScope c.scope, e.address ≠ broadcastAddress := by
    intro e he hat
    obtain ⟨hfiled, hscope⟩ := (hkind e).mp he
    exact hfree e he (hat ▸ hown e hfiled hscope)
  refine ⟨_, _, ?_, ?_, fun e he => broadcast_updated hhalt hwindow hall hsync (hsound.sound e he)
    (hown e he) now⟩
  · rw [dispatch_broadcast hbroadcast hhalt, applyToAll_command hsound (List.nodup_singleton c.scope), hrules]
    simp only [List.mem_singleton]
  · rw [dispatchAll_sentToEach hhalt hsound (fun e he => List.mem_map_of_mem ((hkind e).mp he).1)
      (fun e he => ((hkind e).mp he).2) hdirect,
      forEach_command now (fun e => c.sentTo e.address) honce hsound (fun e he => ((hkind e).mp he).1), hrules]
    congr 1
    refine List.map_congr_left fun e he => ?_
    simp only [hkind, he, true_and]

/-- Engine 2056 has been located in its database and halted, and no command has decided its generation yet. A horn of the
TMCC generation for all engines does to engine 12 what a horn for engine 12 does, but engine 2056 is of the TMCC
generation by it, and of the Legacy generation by a horn for engine 2056. -/
theorem broadcast_misjudges_undecided :
    let settings : Settings := { Settings.standard with duplicateWindow := 0 }
    let located : Update := .message (.fourDigit ⟨.d4Engine, 3, .map 0 (some 2056)⟩)
    let speed : Update := .command ⟨.engine .tmcc .absoluteSpeed, 12, some 7, .engine⟩
    let halt : Update := .command ⟨.halt, broadcastAddress, none, .engine⟩
    let actions : List Action := [.tell 0 speed, .tell 1 located, .tell 2 halt]
    let horn : Command := ⟨.engine .tmcc .blowHorn, broadcastAddress, none, .engine⟩
    ∃ store heard told, (empty ⟨.stock, settings⟩).after actions = store ∧
      store.entries.map Entry.key = [(.engine, 12), (.engine, 2056)] ∧
        (store.dispatch 3 (.command horn)).state = { store with entries := store.entries.map heard } ∧
          (store.dispatchAll 3 (sentToEach horn (store.ofScope .engine))).state =
            { store with entries := store.entries.map told } ∧
            (∃ e ∈ store.entries, e.address = 12 ∧ (heard e).state.believed = (told e).state.believed) ∧
              ∃ e ∈ store.entries, e.address = 2056 ∧ e.state.isKnown = true ∧
                (heard e).state.believed ≠ (told e).state.believed := by
  intro settings located speed halt actions horn
  have hbuild : Command.build (.engine .tmcc .blowHorn) broadcastAddress none none = .ok horn := rfl
  have hfree : ∀ e ∈ ((empty ⟨.stock, settings⟩).after actions).ofScope .engine,
      e.state.profile.address ≠ some broadcastAddress := by decide +kernel
  have hfiled : ((empty ⟨.stock, settings⟩).after actions).entries.map Entry.key = [(.engine, 12), (.engine, 2056)] := by
    decide +kernel
  have hjudged : ∀ e ∈ ((empty ⟨.stock, settings⟩).after actions).entries,
      e.scope = .engine ∧ e.state.isKnown = true ∧ (e.state.Misjudged horn e.address ↔ e.address = 2056) := by
    decide +kernel
  generalize hstore : (empty ⟨.stock, settings⟩).after actions = store at hfree hfiled hjudged
  obtain ⟨heard, told, hheard, htold, hboth⟩ :=
    broadcast_misjudges ⟨.stock, settings⟩ rfl actions hstore 3 hbuild rfl (by decide) hfree
  have hentry : ∀ n, (Scope.engine, n) ∈ store.entries.map Entry.key → ∃ e ∈ store.entries, e.address = n ∧
      e.state.isKnown = true ∧ ((heard e).state.believed = (told e).state.believed ↔ n ≠ 2056) := by
    intro n hn
    obtain ⟨e, he, hkey⟩ := List.mem_map.mp hn
    cases congrArg Prod.snd hkey
    obtain ⟨hscope, hknown, hmisjudged⟩ := hjudged e he
    exact ⟨e, he, rfl, hknown, ((hboth e he).same hscope).trans (not_congr hmisjudged)⟩
  obtain ⟨e, he, haddress, -, hsame⟩ := hentry 12 (by rw [hfiled]; decide)
  obtain ⟨f, hf, hnumber, hknown, hother⟩ := hentry 2056 (by rw [hfiled]; decide)
  exact ⟨store, heard, told, rfl, hfiled, hheard, htold, ⟨e, he, haddress, hsame.mpr (by decide)⟩,
    f, hf, hnumber, hknown, fun h => hother.mp h rfl⟩

end Store
end RailLayout
