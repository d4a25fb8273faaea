import RailLayout.Proofs.State.Believed
import RailLayout.Proofs.Store.Spared

/-!
What the host's questions do to a store. A question is a message without data, so no component learns anything from it,
and one that is filed for it is not known (`Store.asking_is_inert`). An accessory that no board drives yet is the
exception: a question to a board of its address decides what drives it. Two questions to a four-digit database bring the
number of a record that was not found yet, and are taken for answers (`Store.asking_changes`).
-/

namespace RailLayout

namespace Component

variable {c d : Component} {m : Message} {rules : Rules} {now : Nat}

theorem isKnown_of_build {scope : Scope} {start : Option UInt16} (h : build scope start = .ok c) :
    c.isKnown = false := by
  cases scope with
  | base | sync =>
      cases h
      rfl
  | _ =>
      obtain ⟨p, hp, h⟩ := ok_of_bind h
      obtain ⟨rfl, -⟩ := Profile.build_eq_ok hp
      cases h
      rfl

/-- An accessory is known if something drives it. -/
theorem isKnown_of_driver? {kind : AccessoryKind} (h : c.driver? = some kind) (hkind : kind ≠ .plain) :
    c.isKnown = true := by
  cases c with
  | accessory s =>
      cases h
      rw [isKnown, AccessoryState.isKnown, bne_iff_ne.mpr hkind, Bool.or_true]
  | _ => cases h

theorem driver?_of_shown (h : d.shown = c.shown) : d.driver? = c.driver? := by
  have hshown : ∀ x : Component, x.shown.driver? = x.driver? := fun x => by cases x <;> rfl
  rw [← hshown d, h, hshown c]

/-- A message without data leaves the answers of a bound component as they are, or it is the first from a board. -/
theorem sameAnswers_update_iff (hbare : m.IsBare) (hbound : c.profile.address.isSome = true) :
    SameAnswers c (c.update rules now (.message m)).state ↔ ¬c.LearnsDriver m := by
  have hnot : ¬c.Binds (.message m) := by
    rintro ⟨hfree, -⟩
    rw [hfree] at hbound
    cases hbound
  constructor
  · intro hsame
    exact (driver?_update_iff hbare).mp (driver?_of_shown hsame.shown)
  · exact fun hlearns => sameAnswers_of_believed ((believed_update_iff hbare).mpr ⟨hnot, hlearns⟩)

theorem exists_driver?_iff : (∃ kind, c.driver? = some kind) ↔ c.scope = .accessory := by
  cases c with
  | accessory s => exact iff_of_true ⟨s.kind, rfl⟩ rfl
  | motive s =>
      refine iff_of_false ?_ ?_
      · rintro ⟨kind, h⟩
        cases h
      · rw [scope]
        cases s.kind <;> decide
  | _ =>
      refine iff_of_false ?_ ?_
      · rintro ⟨kind, h⟩
        cases h
      · simp only [scope, reduceCtorEq, not_false_eq_true]

/-- A new component is known after a message without data only if it is an accessory and the message is from a board. -/
theorem isKnown_update_iff (hbare : m.IsBare) {scope : Scope} {n : UInt16} (h : build scope (some n) = .ok c) :
    (c.update rules now (.message m)).state.isKnown = true ↔ c.LearnsDriver m := by
  have hanswers : SameAnswers c (c.update rules now (.message m)).state ↔ ¬c.LearnsDriver m :=
    sameAnswers_update_iff hbare ((built_of_build h).bound rfl)
  constructor
  · intro hknown
    refine Classical.byContradiction fun hlearns => ?_
    rw [(hanswers.mpr hlearns).isKnown, isKnown_of_build h] at hknown
    cases hknown
  · intro hlearns
    have hchanged : ¬(c.update rules now (.message m)).state.driver? = c.driver? :=
      fun hsame => (driver?_update_iff hbare).mp hsame hlearns
    have hscope : c.scope = .accessory := exists_driver?_iff.mp ⟨_, hlearns.2.1⟩
    obtain ⟨kind, hkind⟩ := exists_driver?_iff.mpr ((scope_update rules now (.message m) c).trans hscope)
    refine isKnown_of_driver? hkind fun hplain => hchanged ?_
    rw [hkind, hplain, hlearns.2.1]

end Component

namespace Update

theorem sighting?_of_isBare {m : Message} (h : m.IsBare) : (message m).sighting? = none := by
  unfold sighting?
  split
  · rename_i hsame
    cases hsame
    cases h
  · rfl

end Update

namespace Store

variable {store : Store} {m : Message}

/-- What a message without data does to a store. -/
theorem makes_of_isBare (hsound : Sound store) (now : Nat) (hbare : m.IsBare) {scope : Scope} {n : UInt16}
    (htarget : (Update.message m).target? = some (scope, n)) :
    Makes store scope n (fun c => (c.update store.rules now (.message m)).state)
      (store.dispatch now (.message m)).state := by
  obtain ⟨told, hmakes, hlater⟩ := makes_route hsound now htarget
  rcases hlater with hsame | ⟨sighting, hsighting, -⟩
  · rwa [show store.dispatch now (.message m) = store.route now (.message m) from rfl, hsame]
  · rw [Update.sighting?_of_isBare hbare] at hsighting
    cases hsighting

theorem dispatch_of_target_none (now : Nat) (htarget : (Update.message m).target? = none) :
    (store.dispatch now (.message m)).state = store := by
  rw [dispatch, route, htarget]
  rfl

theorem concerns_iff (hbare : m.IsBare) {key : Scope × UInt16} : store.Concerns (.message m) key ↔
    ∃ scope n, (Update.message m).target? = some (scope, n) ∧ key = store.placeOf scope n := by
  refine or_iff_left ?_
  rintro ⟨sighting, hsighting, -⟩
  rw [Update.sighting?_of_isBare hbare] at hsighting
  cases hsighting

/-- A component that was filed takes a message without data, if it is for it, and learns nothing. -/
theorem inert_of_filed (hsound : Sound store) (now : Nat) (hbare : m.IsBare) {e : Entry} (he : e ∈ store.entries) :
    ∃ after ∈ (store.dispatch now (.message m)).state.entries, after.key = e.key ∧
      after.state.learned = e.state.learned ∧
        (Component.SameAnswers e.state after.state ↔
          ¬(store.Concerns (.message m) e.key ∧ e.state.LearnsDriver m)) := by
  rw [concerns_iff hbare]
  have hsame : Component.SameAnswers e.state e.state := ⟨rfl, fun _ => rfl, rfl⟩
  cases htarget : (Update.message m).target? with
  | none =>
      rw [dispatch_of_target_none now htarget]
      refine ⟨e, he, rfl, rfl, iff_of_true hsame ?_⟩
      rintro ⟨⟨scope, n, h, -⟩, -⟩
      cases h
  | some target =>
      obtain ⟨scope, n⟩ := target
      have hmakes := makes_of_isBare hsound now hbare htarget
      obtain ⟨after, hafter, hkey, hstate⟩ := hmakes.kept hsound he
      refine ⟨after, hafter, hkey, ?_⟩
      by_cases hplace : e.key = store.placeOf scope n
      · have hconcerned : ∃ scope' n', some (scope, n) = some (scope', n') ∧ e.key = store.placeOf scope' n' :=
          ⟨scope, n, rfl, hplace⟩
        rw [hstate, if_pos hplace, and_iff_right hconcerned]
        exact ⟨Component.learned_update hbare e.state,
          Component.sameAnswers_update_iff hbare (hsound.sound e he).bound⟩
      · rw [hstate, if_neg hplace]
        refine ⟨rfl, iff_of_true hsame ?_⟩
        rintro ⟨⟨scope', n', h, haway⟩, -⟩
        cases h
        exact hplace haway

/-- A component that is filed for a message without data is as it was built. -/
theorem inert_of_new (hsound : Sound store) (now : Nat) (hbare : m.IsBare) {e : Entry}
    (he : e ∈ (store.dispatch now (.message m)).state.entries) (hnew : e.key ∉ store.keys) :
    ∃ c, Component.build e.scope (some e.address) = .ok c ∧ e.state.learned = c.learned ∧
      (e.state.isKnown = true ↔ c.LearnsDriver m) := by
  cases htarget : (Update.message m).target? with
  | none =>
      rw [dispatch_of_target_none now htarget] at he
      exact absurd (List.mem_map_of_mem he) hnew
  | some target =>
      obtain ⟨scope, n⟩ := target
      rcases (makes_of_isBare hsound now hbare htarget).mem hsound he with ⟨hold, -⟩ | ⟨hplace, c, hc, hstate⟩
      · exact absurd (List.mem_map_of_mem hold) hnew
      · rcases standing?_cases hc with ⟨old, hold, hkey, -⟩ | ⟨-, hfree, hbuilt⟩
        · rw [hplace, ← hkey] at hnew
          exact absurd (List.mem_map_of_mem hold) hnew
        · obtain ⟨hscope, haddress⟩ := Prod.mk.inj (hplace.trans hfree)
          refine ⟨c, by rw [hscope, haddress, hbuilt], ?_, ?_⟩
          · rw [hstate]
            exact Component.learned_update hbare c
          · rw [hstate]
            exact Component.isKnown_update_iff hbare hbuilt

/-- Take any store after any actions, and a question that the host puts to a board, or about a record or a part of one,
or that it puts to a four-digit database without a number. A component that is filed is filed still and has learned
nothing. It gives the same answers as before, unless it is an accessory that no board drives, to which the question is
routed and whose address the question is for: that accessory is then driven by this kind of board. A component that is
filed for the question has learned nothing either, and is known in this case only. -/
theorem asking_is_inert (rules : Rules) (actions : List Action) {store : Store}
    (hstore : (empty rules).after actions = store) (now : Nat) {m : Message} (hasks : m.Asks) :
    let later := (store.dispatch now (.message m)).state
    (∀ e ∈ store.entries, ∃ after ∈ later.entries, after.key = e.key ∧ after.state.learned = e.state.learned ∧
        (Component.SameAnswers e.state after.state ↔
          ¬(store.Concerns (.message m) e.key ∧ e.state.LearnsDriver m))) ∧
      ∀ e ∈ later.entries, e.key ∉ store.keys → ∃ c, Component.build e.scope (some e.address) = .ok c ∧
        e.state.learned = c.learned ∧ (e.state.isKnown = true ↔ c.LearnsDriver m) := by
  intro later
  have hsound : Sound store := hstore ▸ sound_after rules actions
  have hbare := Message.isBare_of_asks hasks
  exact ⟨fun e he => inert_of_filed hsound now hbare he, fun e he hnew => inert_of_new hsound now hbare he hnew⟩

/-- Relay 5 is on and an engine runs; the relay is asked for its configuration and gives the same answers as before. -/
theorem asking_is_inert_relay :
    let report : Message := .board .asc2 ⟨.asc2Rx, 5, .own .control1, none, .report (.control1 1 0)⟩
    let actions : List Action :=
      [.tell 0 (.command ⟨.engine .legacy .absoluteSpeed, 12, some 79, .engine⟩), .tell 1 (.message report)]
    let store := (empty ⟨.stock, .standard⟩).after actions
    ∃ m : BoardMessage .asc2, BoardMessage.query 5 (.common .config) = .ok m ∧
      ∃ e ∈ store.entries, e.key = (.accessory, 5) ∧ e.state.isKnown = true ∧
        ∃ after ∈ (store.dispatch 2 (.message (.board .asc2 m))).state.entries, after.key = (.accessory, 5) ∧
          Component.SameAnswers e.state after.state := by
  intro report actions store
  have hquery : BoardMessage.query 5 (.common .config) =
      .ok (⟨.asc2Get, 5, .common .config, none, .empty⟩ : BoardMessage .asc2) := rfl
  have hstore : (empty ⟨.stock, .standard⟩).after actions = store := rfl
  obtain ⟨hfiled, -⟩ := asking_is_inert ⟨.stock, .standard⟩ actions hstore 2 (.board hquery)
  have hfound : (store.filed? .accessory 5).map (fun e => (e.state.isKnown, e.state.driver?)) =
      some (true, some .relay) := by decide +kernel
  obtain ⟨e, he, hrelay⟩ := Option.map_eq_some_iff.mp hfound
  obtain ⟨hknown, hdriver⟩ := Prod.mk.inj hrelay
  obtain ⟨hmem, hkey⟩ := filed?_eq_some he
  obtain ⟨after, hafter, hsame, -, hanswers⟩ := hfiled e hmem
  refine ⟨_, hquery, e, hmem, hkey, hknown, after, hafter, hsame.trans hkey, hanswers.mpr ?_⟩
  rintro ⟨-, -, hplain, -⟩
  rw [hdriver] at hplain
  cases hplain

/-- A relay at address 5 is asked for its configuration, and an accessory is filed of which is known that it is a relay.
The Base is asked for the first record of the engines, and takes the number in the question for it. An engine is looked
up by its address, and its bytes have the number in the question from then on. -/
theorem asking_changes :
    let rules : Rules := ⟨.stock, .standard⟩
    let store := (empty rules).after [.tell 0 (.command ⟨.engine .legacy .startUpImmediate, 1234, none, .engine⟩)]
    let known (m : Message) (scope : Scope) (n : UInt16) : Option Bool :=
      ((store.dispatch 1 (.message m)).state.query scope n).map fun e => e.state.isKnown
    let bytes (s : Store) : Option (Except Error (List UInt8)) :=
      (s.query .engine 1234).map fun e => ((e.state.encode CommandTable.codec).run []).1
    (∃ m : BoardMessage .asc2, BoardMessage.query 5 (.common .config) = .ok m ∧
        store.query .accessory 5 = none ∧ known (.board .asc2 m) .accessory 5 = some true) ∧
      (∃ m, FourDigitMessage.firstRecord .engine = .ok m ∧
        store.query .base 0 = none ∧ known (.fourDigit m) .base 0 = some true) ∧
        ∃ m, FourDigitMessage.map .engine 1234 = .ok m ∧
          bytes (store.dispatch 1 (.message (.fourDigit m))).state ≠ bytes store := by
  intro rules store known bytes
  have hquery : BoardMessage.query 5 (.common .config) =
      .ok (⟨.asc2Get, 5, .common .config, none, .empty⟩ : BoardMessage .asc2) := rfl
  have hfirst : FourDigitMessage.firstRecord .engine = .ok ⟨.d4Engine, 0, .firstRecord⟩ := rfl
  have hmap : FourDigitMessage.map .engine 1234 = .ok ⟨.d4Engine, 0, .map 0 (some 1234)⟩ := rfl
  exact ⟨⟨_, hquery, by decide +kernel, by decide +kernel⟩, ⟨_, hfirst, by decide +kernel, by decide +kernel⟩,
    ⟨_, hmap, by decide +kernel⟩⟩

end Store
end RailLayout
