import RailLayout.Proofs.Store.Run

/-!
Commands for many components. A command for all components of some kinds updates each of them once, in its place, and
nothing else (`Store.applyToAll_command`): a command brings no new four-digit number, so no second address is filed. So
a halt brings every engine, train and accessory of a store to rest, and a system halt every engine and train, whatever
the store has been told before; all other components stay as they were (`Store.halt_brings_to_rest`).
-/

namespace RailLayout

namespace Store

variable {store : Store} {e : Entry}

theorem fileAlias_of_found (h : ∀ n, e.alias? = some n → (store.query e.scope n).isSome = true) :
    store.fileAlias e = store := by
  rcases fileAlias_cases store e with ⟨-, hsame⟩ | ⟨number, hnumber, hfree, -⟩
  · exact hsame
  · have hfound := h number hnumber
    rw [hfree] at hfound
    cases hfound

/-- A command to a component that is filed changes this component only. -/
theorem applyTo_command (h : Sound store) (he : e ∈ store.entries) (now : Nat) (c : Command) :
    (store.applyTo now (.command c) e).state = store.put (e.updated store.rules now (.command c)) := by
  have hscope := (Entry.updated_same store.rules now (.command c) e).1
  rcases applyTo_cases now (.command c) e store with ⟨-, hstate⟩ | ⟨-, hstate⟩
  · rw [hstate]
    -- A command does not change the number, and the number that was there has been filed before.
    refine fileAlias_of_found fun n hn => ?_
    rw [Entry.alias?_updated (h.sound e he) (Or.inl ⟨c, rfl⟩)] at hn
    rw [hscope, isSome_query_iff (homes_put h.homes _), finds_put]
    exact h.numbered e he n hn
  · exact hstate

/-- Commands for some components, one for each, update each of them in its place. -/
theorem forEach_command (now : Nat) (told : Entry → Command) {targets : List Entry} (htargets : targets.Nodup)
    (h : Sound store) (hfiled : ∀ x ∈ targets, x ∈ store.entries) :
    (Reaction.forEach (fun x => applyToFiled now (.command (told x)) x) targets store).state =
      { store with entries := store.entries.map fun e =>
          if e ∈ targets then e.updated store.rules now (.command (told e)) else e } := by
  -- A component that was updated has its place still, so what is left of the targets is as it was before.
  induction targets generalizing store with
  | nil => simp [Reaction.forEach, Reaction.none]
  | cons x rest ih =>
      obtain ⟨hnew, hrest⟩ := List.nodup_cons.mp htargets
      have hx := hfiled x List.mem_cons_self
      have hkey : ∀ {y}, y ∈ store.entries → y.key = x.key → y = x := fun hy => eq_of_key_eq h.distinct hy hx
      have hfirst : (store.applyToFiled now (.command (told x)) x).state =
          store.put (x.updated store.rules now (.command (told x))) := by
        rw [applyToFiled, filed?_of_mem h.distinct hx]
        exact applyTo_command h hx now (told x)
      have hsound : Sound (store.put (x.updated store.rules now (.command (told x)))) :=
        hfirst ▸ sound_moves h (moves_applyToFiled now (.command (told x)) x store)
      have hleft : ∀ y ∈ rest, y ∈ (store.put (x.updated store.rules now (.command (told x)))).entries := by
        intro y hy
        refine mem_put_of_ne (hfiled y (List.mem_cons_of_mem x hy)) fun hsame => hnew ?_
        rw [Entry.key_updated] at hsame
        exact hkey (hfiled y (List.mem_cons_of_mem x hy)) hsame ▸ hy
      rw [Reaction.forEach]
      show (Reaction.forEach _ rest (store.applyToFiled now (.command (told x)) x).state).state = _
      rw [hfirst, ih hrest hsound hleft]
      simp only [put, List.map_map, mk.injEq, true_and, and_true]
      refine List.map_congr_left fun y hy => ?_
      simp only [Function.comp]
      by_cases hat : y = x
      · subst hat
        have hgone : y.updated store.rules now (.command (told y)) ∉ rest := by
          intro hmem
          have hsame := hkey (hfiled _ (List.mem_cons_of_mem y hmem)) (Entry.key_updated _ _ _ _)
          exact hnew (hsame ▸ hmem)
        rw [if_pos (Entry.isAt_iff.mpr (Entry.key_updated store.rules now (.command (told y)) y).symm), if_neg hgone,
          if_pos List.mem_cons_self]
      · have haway : ¬y.isAt (x.updated store.rules now (.command (told x))).scope
            (x.updated store.rules now (.command (told x))).address = true := by
          rw [Entry.isAt_iff]
          exact fun hsame => hat (hkey hy (hsame.trans (Entry.key_updated _ _ _ _)))
        rw [if_neg haway]
        simp only [List.mem_cons, hat, false_or]

theorem mem_flatMap_ofScope {scopes : List Scope} :
    e ∈ scopes.flatMap store.ofScope ↔ e ∈ store.entries ∧ e.scope ∈ scopes := by
  simp only [ofScope, List.mem_flatMap, List.mem_filter, beq_iff_eq]
  constructor
  · rintro ⟨scope, hscope, he, rfl⟩
    exact ⟨he, hscope⟩
  · rintro ⟨he, hscope⟩
    exact ⟨e.scope, hscope, he, rfl⟩

theorem nodup_flatMap_ofScope (h : Sound store) {scopes : List Scope} (hscopes : scopes.Nodup) :
    (scopes.flatMap store.ofScope).Nodup := by
  have hentries : store.entries.Nodup := List.Nodup.of_map Entry.key h.distinct
  refine List.nodup_flatMap.mpr ⟨fun scope _ => hentries.filter _, hscopes.imp fun {a b} hne => ?_⟩
  intro x hxa hxb
  simp only [ofScope, List.mem_filter, beq_iff_eq] at hxa hxb
  exact hne (hxa.2.symm.trans hxb.2)

/-- A command for all components of some kinds updates each of them and nothing else. -/
theorem applyToAll_command (h : Sound store) {scopes : List Scope} (hscopes : scopes.Nodup) (now : Nat)
    (c : Command) :
    (store.applyToAll now (.command c) scopes).state =
      { store with entries := store.entries.map fun e =>
          if e.scope ∈ scopes then e.updated store.rules now (.command c) else e } := by
  refine (forEach_command now (fun _ => c) (nodup_flatMap_ofScope h hscopes) h fun x hx =>
    (mem_flatMap_ofScope.mp hx).1).trans ?_
  congr 1
  refine List.map_congr_left fun e he => ?_
  simp only [mem_flatMap_ofScope, he, true_and]

/-- A command for all components of some kinds files nothing. -/
theorem keys_applyToAll_command (h : Sound store) {scopes : List Scope} (hscopes : scopes.Nodup) (now : Nat)
    (c : Command) : (store.applyToAll now (.command c) scopes).state.keys = store.keys := by
  simp only [applyToAll_command h hscopes, keys, List.map_map]
  refine List.map_congr_left fun e _ => ?_
  simp only [Function.comp]
  split
  · exact Entry.key_updated store.rules now (.command c) e
  · rfl

/-! ## Halts -/

end Store

/-- Whether one filed component is what another one became by a halt for some kinds: it is filed at the same place, and
it is at rest if it is of one of these kinds, and else the same as before. -/
structure Entry.HaltedTo (kinds : List Scope) (before after : Entry) : Prop where
  scope : after.scope = before.scope
  address : after.address = before.address
  atRest : before.scope ∈ kinds → after.state.AtRest
  same : before.scope ∉ kinds → after = before

namespace Store

variable {store : Store} {e : Entry} {halt : Command}

theorem haltedTo_updated (hhalt : (Update.command halt).isHalt = true) (hall : halt.address = broadcastAddress)
    (he : e.Sound) {kinds : List Scope} (hkinds : e.scope ∈ kinds ↔ e.scope ∈ [.engine, .train, .accessory])
    (rules : Rules) (now : Nat) : e.HaltedTo kinds (e.updated rules now (.command halt)) := by
  obtain ⟨hscope, haddress, hstate⟩ := Entry.updated_same rules now (.command halt) e
  refine ⟨hscope, haddress, fun hmem => ?_, fun hother => ?_⟩
  · rw [hstate]
    refine Component.atRest_update_halt hhalt he.bound hall he.rested ?_ rules now
    rw [he.scope_eq]
    exact hkinds.mp hmem
  · have hstill : e.state.scope ∉ [.engine, .train, .accessory] := by
      rw [he.scope_eq]
      exact fun hmem => hother (hkinds.mpr hmem)
    obtain ⟨verdict, hverdict, hupdate⟩ := Component.update_halt_of_still hhalt he.bound hstill rules now
    rw [Entry.updated_of_unchanged (by rw [hupdate]; exact hverdict), hupdate]

theorem haltedTo_of_not_mem {kinds : List Scope} (h : e.scope ∉ kinds) : e.HaltedTo kinds e :=
  ⟨rfl, rfl, fun hmem => absurd hmem h, fun _ => rfl⟩

/-- What a halt for components of some kinds does to a store, if it is for those at least that can be at rest. -/
theorem applyToAll_halt (h : Sound store) (hhalt : (Update.command halt).isHalt = true)
    (hall : halt.address = broadcastAddress) {scopes kinds : List Scope} (hscopes : scopes.Nodup)
    (hkinds : ∀ scope, scope ∈ kinds ↔ scope ∈ scopes ∧ scope ∈ [.engine, .train, .accessory]) (now : Nat) :
    ∃ after, (store.applyToAll now (.command halt) scopes).state = { store with entries := after } ∧
      store.entries.Forall₂ (Entry.HaltedTo kinds) after := by
  refine ⟨_, applyToAll_command h hscopes now halt, ?_⟩
  refine List.forall₂_map_right_iff.mpr (List.forall₂_same.mpr fun e he => ?_)
  split
  · rename_i hmem
    have hsame : e.scope ∈ kinds ↔ e.scope ∈ [.engine, .train, .accessory] :=
      (hkinds e.scope).trans (and_iff_right hmem)
    exact haltedTo_updated hhalt hall (h.sound e he) hsame store.rules now
  · rename_i hmem
    exact haltedTo_of_not_mem fun hkind => hmem ((hkinds e.scope).mp hkind).1

/-- Take any store after any run of dispatches. A halt for all components brings every engine, train and accessory that
is filed to rest, a system halt every engine and train; nothing else changes and nothing is filed, at whatever time the
halt comes and even if it repeats the last one. -/
theorem halt_brings_to_rest (rules : Rules) (told : List (Nat × Update)) {store : Store}
    (hstore : (empty rules).run told = store) (now : Nat) (halt : Command) (hall : halt.address = broadcastAddress) :
    (halt.isHalt = true →
      ∃ after, (store.dispatch now (.command halt)).state = { store with entries := after } ∧
        store.entries.Forall₂ (Entry.HaltedTo [.engine, .train, .accessory]) after) ∧
      (halt.isSystemHalt = true →
        ∃ after, (store.dispatch now (.command halt)).state = { store with entries := after } ∧
          store.entries.Forall₂ (Entry.HaltedTo [.engine, .train]) after) := by
  have hsound : Sound store := hstore ▸ sound_run (sound_empty rules) told
  constructor
  · intro hhalt
    have hevery : (Update.command halt).isHalt = true := by rw [Update.isHalt, hhalt, Bool.true_or]
    simp only [dispatch, hhalt, if_true]
    exact applyToAll_halt hsound hevery hall (by decide) (fun scope => by cases scope <;> decide) now
  · intro hhalt
    have hmotive : halt.isHalt = false := by
      unfold Command.isSystemHalt Operation.isSystemHalt at hhalt
      split at hhalt
      · rename_i hoperation
        rw [Command.isHalt, hoperation]
        rfl
      · cases hhalt
    have hevery : (Update.command halt).isHalt = true := by rw [Update.isHalt, hhalt, Bool.or_true]
    simp only [dispatch, hhalt, hmotive, Bool.false_eq_true, if_false, if_true]
    exact applyToAll_halt hsound hevery hall (by decide) (fun scope => by cases scope <;> decide) now

/-- An engine that runs and an accessory that a relay holds on are brought to rest by a halt that comes twice within the
duplicate window; a switch stays as it was thrown. -/
theorem halt_brings_to_rest_repeated :
    let halt : Command := ⟨.halt, broadcastAddress, none, .engine⟩
    let relay : Message := .board .asc2 ⟨.asc2Rx, 7, .own .control1, none, .report (.control1 1 0)⟩
    let told : List (Nat × Update) :=
      [(0, .command ⟨.engine .legacy .absoluteSpeed, 12, some 79, .engine⟩), (0, .message relay),
       (1, .command ⟨.switch .out, 3, none, .switch⟩), (2, .command halt)]
    ∃ store after, (empty ⟨.stock, .standard⟩).run told = store ∧
      store.entries.map Entry.key = [(.engine, 12), (.switch, 3), (.accessory, 7)] ∧
        (store.dispatch 3 (.command halt)).state = { store with entries := after } ∧
          store.entries.Forall₂ (Entry.HaltedTo [.engine, .train, .accessory]) after := by
  intro halt relay told
  have hfiled : ((empty ⟨.stock, .standard⟩).run told).entries.map Entry.key =
      [(.engine, 12), (.switch, 3), (.accessory, 7)] := by decide +kernel
  generalize hstore : (empty ⟨.stock, .standard⟩).run told = store at hfiled
  obtain ⟨hrest, -⟩ := halt_brings_to_rest ⟨.stock, .standard⟩ told hstore 3 halt rfl
  obtain ⟨after, hafter, hhalted⟩ := hrest rfl
  exact ⟨store, after, rfl, hfiled, hafter, hhalted⟩

end Store
end RailLayout
