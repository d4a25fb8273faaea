import RailLayout.Proofs.State.Believed
import RailLayout.Proofs.Store.Halt

/-!
Halts with an address. A halt is given to every component, whatever address it has, but a component takes an update only
if its address reaches it. So a halt that has the address of one component brings only this one to rest, and it does the
same as a halt for all components if and only if it passes by none that still runs (`Store.halt_passes_by`).
-/

namespace RailLayout

namespace Command

/-- The same command for all components. -/
def forAll (c : Command) : Command := { c with address := broadcastAddress }

theorem isHalt_forAll {halt : Command} (h : (Update.command halt).isHalt = true) :
    (Update.command halt.forAll).isHalt = true := h

/-- The kinds of component that a halt is given to: all of them, or engines and trains if it is a system halt. -/
def haltScopes (halt : Command) : List Scope := if halt.isHalt then Scope.all else [.engine, .train]

theorem nodup_haltScopes (halt : Command) : halt.haltScopes.Nodup := by
  unfold haltScopes
  split <;> decide

/-- The kinds of component that have a state of rest. -/
def restScopes : List Scope := [.engine, .train, .accessory]

end Command

namespace Profile

/-- A halt is accepted by a bound component if its address reaches it. -/
theorem accept_halt_iff {scope : Scope} {p : Profile} {halt : Command} {bound : UInt16}
    (hhalt : (Update.command halt).isHalt = true) (hbound : p.address = some bound) :
    p.accept scope (.command halt) = .ok p ↔ p.Reaches scope bound halt.address := by
  constructor
  · intro h
    obtain ⟨received, address, htarget, -, ⟨bound', hbound', hreaches, -⟩ | ⟨hfree, -⟩⟩ := of_accept h
    · cases htarget
      cases hbound.symm.trans hbound'
      exact hreaches
    · rw [hbound] at hfree
      cases hfree
  · intro h
    have hkind : ¬(halt.scope ≠ scope ∧ (Update.command halt).isHalt = false) := fun hother => by
      rw [hhalt] at hother
      cases hother.2
    simp only [accept, Update.target?, if_neg hkind, hbound]
    split
    · rfl
    · rename_i hdirect
      rw [if_pos ?_]
      rcases h with hown | hall | halias
      · exact Or.inl hown.symm
      · exact absurd hall hdirect
      · exact Or.inr (isAlias_eq_true_iff.mpr halias)

end Profile

/-! ## What a halt does to a component -/

namespace MotiveState

variable {s : MotiveState}

theorem halt_eq_iff : s.halt = s ↔ s.AtRest := by
  constructor
  · intro h
    rw [← h]
    exact atRest_halt s
  · intro h
    cases s
    obtain ⟨hspeed, hrpm, hlabor, hnumeric, haux1, haux2, haux⟩ := h
    dsimp only at hspeed hrpm hlabor hnumeric haux1 haux2 haux
    subst hspeed hrpm hlabor hnumeric haux1 haux2 haux
    rfl

/-- A halt brings an engine or a train to rest and is remembered, or it repeats the last one and finds it at rest. -/
theorem applyCommand_halt (h : Rested s) (rules : Rules) (now : Nat) {c : Command}
    (hc : (Update.command c).isHalt = true) :
    ∃ last, (s.applyCommand rules now c).1 = { s.halt with profile := { s.profile with last := last } } := by
  have hlatch : s.latchGeneration c = s := by
    unfold latchGeneration
    rw [if_neg]
    rintro ⟨-, hmoves⟩
    rw [hc] at hmoves
    cases hmoves
  have hrest := atRest_applyCommand h rules now hc
  by_cases hrepeats : s.profile.repeats c rules.settings.duplicateWindow now = true
  · have hdropped : (s.applyCommand rules now c).1 = s := by
      rw [applyCommand, hlatch]
      exact congrArg Prod.fst (if_pos hrepeats)
    rw [hdropped] at hrest ⊢
    rw [halt_eq_iff.mpr hrest]
    exact ⟨s.profile.last, rfl⟩
  · have hheard : s.applyCommand rules now c = (s.halt.record (.command c) now, true) := by
      rw [applyCommand, hlatch]
      exact (if_neg hrepeats).trans (if_pos hc)
    rw [hheard]
    exact ⟨_, rfl⟩

end MotiveState

theorem AccessoryState.halt_eq_iff {s : AccessoryState} : s.halt = s ↔ s.AtRest := by
  constructor
  · intro h
    rw [← h]
    exact ⟨rfl, rfl, rfl, rfl⟩
  · intro h
    cases s
    obtain ⟨haux1, haux2, haux, hnumber⟩ := h
    dsimp only at haux1 haux2 haux hnumber
    subst haux1 haux2 haux hnumber
    rfl

namespace Component

variable {c : Component} {rules : Rules} {now : Nat} {halt : Command}

/-- The component after it was brought to rest, if it is of a kind that can be. -/
def halted : Component → Component
  | motive s => motive s.halt
  | accessory s => accessory s.halt
  | other => other

theorem believed_halted_eq_iff (hkind : c.scope ∈ [.engine, .train, .accessory]) :
    c.halted.believed = c.believed ↔ c.AtRest := by
  cases c with
  | motive s =>
      let forgetful : MotiveState := { s with profile := { s.profile with last := none } }
      have hrest : forgetful.AtRest ↔ s.AtRest := ⟨fun h => { h with }, fun h => { h with }⟩
      have hforget : (motive s).halted.believed = motive forgetful.halt := rfl
      rw [hforget, AtRest, ← hrest, ← MotiveState.halt_eq_iff]
      exact ⟨motive.inj, congrArg motive⟩
  | accessory s =>
      let forgetful : AccessoryState := { s with profile := { s.profile with last := none } }
      have hrest : forgetful.AtRest ↔ s.AtRest := ⟨fun h => { h with }, fun h => { h with }⟩
      have hforget : (accessory s).halted.believed = accessory forgetful.halt := rfl
      rw [hforget, AtRest, ← hrest, ← AccessoryState.halt_eq_iff]
      exact ⟨accessory.inj, congrArg accessory⟩
  | _ => simp [scope] at hkind

/-- A halt that reaches a component brings it to rest. -/
theorem believed_update_halt (hhalt : (Update.command halt).isHalt = true) (hbound : c.profile.address.isSome = true)
    (hrested : Rested c) {q : Profile} (haccept : c.profile.accept c.scope (.command halt) = .ok q) :
    (c.update rules now (.command halt)).state.believed = c.halted.believed := by
  obtain rfl := Profile.accept_eq_of_bound haccept hbound
  cases c with
  | motive s =>
      obtain ⟨last, hstate⟩ := MotiveState.applyCommand_halt hrested rules now hhalt
      rw [update, MotiveState.update_command haccept]
      have hsame := congrArg (fun t => (motive t).believed) hstate
      exact hsame
  | accessory s =>
      have hstate : (s.applyCommand rules now halt).1 = (s.record (.command halt) now).halt :=
        congrArg Prod.fst (if_pos hhalt)
      rw [update, AccessoryState.update_command haccept]
      have hsame := congrArg (fun t => (accessory t).believed) hstate
      exact hsame
  | _ =>
      obtain ⟨verdict, -, hsame⟩ := update_halt_of_still hhalt hbound (by simp [scope]) rules now
      rw [hsame]
      rfl

end Component

/-! ## Which components a halt passes by -/

/-- Whether a halt passes by a component that it should bring to rest: the component is of a kind that the halt is for
and that can be at rest, it is not at rest, and the address of the halt does not reach it. -/
structure Entry.PassedBy (halt : Command) (e : Entry) : Prop where
  given : e.scope ∈ halt.haltScopes
  kind : e.scope ∈ Command.restScopes
  moves : ¬e.state.AtRest
  missed : ∀ bound, e.state.profile.address = some bound →
    ¬e.state.profile.Reaches e.scope bound halt.address

namespace Store

variable {store : Store} {e : Entry} {halt : Command}

theorem dispatch_halt (hhalt : (Update.command halt).isHalt = true) (now : Nat) :
    store.dispatch now (.command halt) = store.applyToAll now (.command halt) halt.haltScopes := by
  by_cases hall : halt.isHalt = true
  · simp only [dispatch, Command.haltScopes, hall, if_true]
  · have hsystem : halt.isSystemHalt = true := by
      rw [Update.isHalt, Bool.or_eq_true] at hhalt
      exact hhalt.resolve_left hall
    simp only [dispatch, Command.haltScopes, hall, hsystem, Bool.false_eq_true, if_false, if_true]

theorem keys_dispatch_halt (hsound : Sound store) (hhalt : (Update.command halt).isHalt = true) (now : Nat) :
    (store.dispatch now (.command halt)).state.keys = store.keys := by
  rw [dispatch_halt hhalt, keys_applyToAll_command hsound halt.nodup_haltScopes]

theorem mem_dispatch_halt (hsound : Sound store) (hhalt : (Update.command halt).isHalt = true) (now : Nat)
    (he : e ∈ store.entries) :
    (if e.scope ∈ halt.haltScopes then e.updated store.rules now (.command halt) else e) ∈
      (store.dispatch now (.command halt)).state.entries := by
  rw [dispatch_halt hhalt, applyToAll_command hsound halt.nodup_haltScopes]
  exact List.mem_map_of_mem he

theorem updated_of_missed (hsound : e.Sound) (hhalt : (Update.command halt).isHalt = true)
    (hmissed : ∀ bound, e.state.profile.address = some bound → ¬e.state.profile.Reaches e.scope bound halt.address)
    (rules : Rules) (now : Nat) : e.updated rules now (.command halt) = e := by
  obtain ⟨bound, hbound⟩ := Option.isSome_iff_exists.mp hsound.bound
  cases haccept : e.state.profile.accept e.state.scope (.command halt) with
  | ok q =>
      obtain rfl := Profile.accept_eq_of_bound haccept hsound.bound
      rw [Profile.accept_halt_iff hhalt hbound, hsound.scope_eq] at haccept
      exact absurd haccept (hmissed bound hbound)
  | error cause =>
      have hrefused : e.state.update rules now (.command halt) = ⟨e.state, .error cause⟩ :=
        Component.update_of_refused haccept
      rw [Entry.updated_of_unchanged (by rw [hrefused]; simp), hrefused]

theorem believed_updated_of_reached (hsound : e.Sound) (hhalt : (Update.command halt).isHalt = true) {bound : UInt16}
    (hbound : e.state.profile.address = some bound) (hreached : e.state.profile.Reaches e.scope bound halt.address)
    (rules : Rules) (now : Nat) :
    (e.updated rules now (.command halt)).state.believed = e.state.halted.believed := by
  have haccept : e.state.profile.accept e.state.scope (.command halt) = .ok e.state.profile := by
    rw [Profile.accept_halt_iff hhalt hbound, hsound.scope_eq]
    exact hreached
  rw [(Entry.updated_same rules now (.command halt) e).2.2]
  exact Component.believed_update_halt hhalt hsound.bound hsound.rested haccept

/-- What a halt does to a component and what it does to it if it is for all components is the same, or the halt passes
by the component. -/
theorem believed_updated_iff (hsound : e.Sound) (hhalt : (Update.command halt).isHalt = true)
    (hgiven : e.scope ∈ halt.haltScopes) (rules : Rules) (now : Nat) :
    (e.updated rules now (.command halt)).state.believed = (e.updated rules now (.command halt.forAll)).state.believed ↔
      ¬e.PassedBy halt := by
  obtain ⟨bound, hbound⟩ := Option.isSome_iff_exists.mp hsound.bound
  have hscope : e.state.scope = e.scope := hsound.scope_eq
  by_cases hkind : e.scope ∈ Command.restScopes
  · have hsync : e.scope ≠ .sync := fun hsync => absurd (hsync ▸ hkind) (by decide)
    have hreached : e.state.profile.Reaches e.scope bound halt.forAll.address := Or.inr (Or.inl ⟨rfl, hsync⟩)
    rw [believed_updated_of_reached hsound (Command.isHalt_forAll hhalt) hbound hreached rules now]
    by_cases hnear : e.state.profile.Reaches e.scope bound halt.address
    · rw [believed_updated_of_reached hsound hhalt hbound hnear rules now]
      exact iff_of_true rfl fun hpassed => hpassed.missed bound hbound hnear
    · have hmissed : ∀ bound', e.state.profile.address = some bound' →
          ¬e.state.profile.Reaches e.scope bound' halt.address := by
        intro bound' hbound'
        cases hbound.symm.trans hbound'
        exact hnear
      rw [updated_of_missed hsound hhalt hmissed, eq_comm, Component.believed_halted_eq_iff (hscope ▸ hkind)]
      exact ⟨fun hrest hpassed => hpassed.moves hrest,
        fun hnot => Classical.byContradiction fun hmoves => hnot ⟨hgiven, hkind, hmoves, hmissed⟩⟩
  · have hstill : ∀ c : Command, (Update.command c).isHalt = true →
        (e.updated rules now (.command c)).state = e.state := by
      intro c hc
      obtain ⟨verdict, -, hsame⟩ :=
        Component.update_halt_of_still hc hsound.bound (hscope.symm ▸ hkind) rules now
      rw [(Entry.updated_same rules now (.command c) e).2.2, hsame]
    rw [hstill halt hhalt, hstill halt.forAll hhalt]
    exact iff_of_true rfl fun hpassed => hkind hpassed.kind

/-- Take any store after any actions, and a halt or a system halt with any address and of any kind. Whatever its address,
it files nothing. What is believed of a component after it is what would be believed if the halt were for all
components, if and only if the halt does not pass by the component; and one that it passes by stays as it was. -/
theorem halt_passes_by (rules : Rules) (actions : List Action) {store : Store}
    (hstore : (empty rules).after actions = store) (now : Nat) {halt : Command}
    (hhalt : (Update.command halt).isHalt = true) :
    let near := (store.dispatch now (.command halt)).state
    let far := (store.dispatch now (.command halt.forAll)).state
    near.keys = store.keys ∧ far.keys = store.keys ∧
      ∀ e ∈ store.entries, ∃ x ∈ near.entries, ∃ y ∈ far.entries, x.key = e.key ∧ y.key = e.key ∧
        (x.state.believed = y.state.believed ↔ ¬e.PassedBy halt) ∧ (e.PassedBy halt → x = e) := by
  intro near far
  have hsound : Sound store := hstore ▸ sound_after rules actions
  have hall : (Update.command halt.forAll).isHalt = true := Command.isHalt_forAll hhalt
  refine ⟨keys_dispatch_halt hsound hhalt now, keys_dispatch_halt hsound hall now, fun e he => ?_⟩
  have hx := mem_dispatch_halt hsound hhalt now he
  have hy := mem_dispatch_halt hsound hall now he
  by_cases hgiven : e.scope ∈ halt.haltScopes
  · rw [if_pos hgiven] at hx
    rw [if_pos (show e.scope ∈ halt.forAll.haltScopes from hgiven)] at hy
    refine ⟨_, hx, _, hy, Entry.key_updated _ _ _ _, Entry.key_updated _ _ _ _, ?_, fun hpassed => ?_⟩
    · exact believed_updated_iff (hsound.sound e he) hhalt hgiven store.rules now
    · exact updated_of_missed (hsound.sound e he) hhalt hpassed.missed store.rules now
  · rw [if_neg hgiven] at hx
    rw [if_neg (show e.scope ∉ halt.forAll.haltScopes from hgiven)] at hy
    exact ⟨e, hx, e, hy, rfl, rfl, iff_of_true rfl fun hpassed => hgiven hpassed.given, fun _ => rfl⟩

/-- Engines 5 and 12 run, and a halt for engine 5 comes: engine 12 runs on at its speed, and it would be at rest if the
halt were for all components. -/
theorem halt_passes_by_running :
    let speed (address : UInt16) : Update := .command ⟨.engine .legacy .absoluteSpeed, address, some 79, .engine⟩
    let actions : List Action := [.tell 0 (speed 5), .tell 0 (speed 12)]
    let store := (empty ⟨.stock, .standard⟩).after actions
    ∃ halt, Command.build .halt 5 none none = .ok halt ∧ ∃ e ∈ store.entries, e.key = (.engine, 12) ∧ e.PassedBy halt ∧
      ∃ x ∈ (store.dispatch 1 (.command halt)).state.entries,
        ∃ y ∈ (store.dispatch 1 (.command halt.forAll)).state.entries,
          x = e ∧ y.key = e.key ∧ x.state.believed ≠ y.state.believed := by
  intro speed actions store
  have hbuild : Command.build .halt 5 none none = .ok ⟨.halt, 5, none, .engine⟩ := rfl
  have hstore : (empty ⟨.stock, .standard⟩).after actions = store := rfl
  obtain ⟨-, -, hall⟩ := halt_passes_by ⟨.stock, .standard⟩ actions hstore 1
    (show (Update.command ⟨.halt, 5, none, .engine⟩).isHalt = true from rfl)
  have hfound : (store.filed? .engine 12).map (fun e =>
      (e.state.profile.address, e.state.scope, decide (e.state.halted.believed = e.state.believed))) =
        some (some 12, .engine, false) := by decide +kernel
  obtain ⟨e, he, hruns⟩ := Option.map_eq_some_iff.mp hfound
  obtain ⟨haddress, hruns⟩ := Prod.mk.inj hruns
  obtain ⟨hkind, hmoves⟩ := Prod.mk.inj hruns
  obtain ⟨hmem, hkey⟩ := filed?_eq_some he
  have hscope : e.scope = .engine := congrArg Prod.fst hkey
  have hpassed : e.PassedBy ⟨.halt, 5, none, .engine⟩ := by
    refine ⟨by rw [hscope]; decide, by rw [hscope]; decide, fun hrest => ?_, fun bound hbound => ?_⟩
    · have hstill := (Component.believed_halted_eq_iff (by rw [hkind]; decide)).mpr hrest
      exact of_decide_eq_false hmoves hstill
    · cases haddress.symm.trans hbound
      rintro (hown | ⟨hall, -⟩ | ⟨-, hnumber, -⟩)
      · exact absurd hown (by decide)
      · exact absurd hall (by decide)
      · exact absurd hnumber (by decide)
  obtain ⟨x, hx, y, hy, -, hsame, hbelieved, hleft⟩ := hall e hmem
  exact ⟨_, hbuild, e, hmem, hkey, hpassed, x, hx, y, hy, hleft hpassed, hsame,
    fun hequal => hbelieved.mp hequal hpassed⟩

end Store
end RailLayout
