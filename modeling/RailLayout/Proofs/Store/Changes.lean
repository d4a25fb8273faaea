import RailLayout.Proofs.Store.Halt
import RailLayout.Proofs.Store.Spared

/-!
What a dispatch changes. Every change raises the version of one component by one, and observers are told of it under an
address that finds this component (`Store.Announced`). A halt, or a command for all components of a kind, changes no
component twice; any other update changes the component that it is for, and an engine that it reports
(`Store.tallied_dispatch`). The change of this engine is not among those that a dispatch counts
(`Store.counted_iff`).
-/

namespace RailLayout

/-- The address that observers are told has changed. -/
def StoreEvent.updated? : StoreEvent → Option (Scope × UInt16)
  | updated scope address => some (scope, address)
  | _ => none

/-- A change of a component: where the component is filed, and the address under which observers are told of it. -/
structure Change where
  place : Scope × UInt16
  told : Scope × UInt16

/-- A change that observers are told of under the address that the component is filed under. -/
def Change.own (key : Scope × UInt16) : Change := ⟨key, key⟩

namespace Store

variable {store mid later : Store} {e x : Entry} {scope : Scope} {n : UInt16} {now : Nat} {u : Update}
  {key : Scope × UInt16} {touched : Scope × UInt16 → Prop}

/-! ## Versions -/

/-- How often the component has changed that is filed at a place. -/
def versionAt (store : Store) (key : Scope × UInt16) : Nat := (store.filed? key.1 key.2).elim 0 Entry.version

theorem versionAt_of_mem (hdistinct : store.keys.Nodup) (he : e ∈ store.entries) :
    store.versionAt e.key = e.version := by
  have hfiled : store.filed? e.key.1 e.key.2 = some e := filed?_of_mem hdistinct he
  rw [versionAt, hfiled, Option.elim_some]

theorem versionAt_of_not_mem (h : key ∉ store.keys) : store.versionAt key = 0 := by
  have hfree : store.filed? key.1 key.2 = none :=
    Option.not_isSome_iff_eq_none.mp fun hsome => h (isSome_filed?.mp hsome)
  rw [versionAt, hfree, Option.elim_none]

theorem Spares.versionAt_eq (h : Spares touched store later) (hbefore : store.keys.Nodup) (hafter : later.keys.Nodup)
    (haway : ¬touched key) : later.versionAt key = store.versionAt key := by
  by_cases hkey : key ∈ store.keys
  · obtain ⟨e, he, rfl⟩ := List.mem_map.mp hkey
    rw [versionAt_of_mem hbefore he, versionAt_of_mem hafter ((h.same haway).mpr he)]
  · have hfree : key ∉ later.keys := by
      intro hlater
      obtain ⟨e, he, rfl⟩ := List.mem_map.mp hlater
      exact hkey (List.mem_map_of_mem ((h.same haway).mp he))
    rw [versionAt_of_not_mem hkey, versionAt_of_not_mem hfree]

/-- A component that is new has not changed yet. -/
theorem versionAt_of_getOrCreate (h : Sound store) (hgot : store.getOrCreate scope n = .ok (e, mid)) :
    store.versionAt e.key = e.version := by
  rcases getOrCreate_cases hgot with ⟨hquery, -⟩ | ⟨state, hfree, -, rfl, -⟩
  · exact versionAt_of_mem h.distinct (query_eq_some hquery).1
  · exact versionAt_of_not_mem (not_mem_keys_of_free h.homes hfree)

theorem getOrCreate_own (hdistinct : store.keys.Nodup) (he : e ∈ store.entries) :
    store.getOrCreate e.scope e.address = .ok (e, store) := by
  rw [getOrCreate, query_own hdistinct he]

/-! ## Changes -/

/-- What changed, and what observers were told of it. -/
structure Announced (store : Store) (r : Reaction Store) (changes : List Change) : Prop where
  kept : ∀ {scope n a}, store.place? scope n = some a → r.state.place? scope n = some a
  versions : ∀ key, r.state.versionAt key = store.versionAt key + (changes.map Change.place).count key
  told : r.events.filterMap StoreEvent.updated? = changes.map Change.told
  found : ∀ c ∈ changes, c.told.1 = c.place.1 ∧ r.state.place? c.told.1 c.told.2 = some c.place.2

variable {changes more : List Change} {r : Reaction Store} {next : Store → Reaction Store} {events : List StoreEvent}
  {changed : Nat}

/-- Observers can be told of refusals if nothing changes. -/
theorem announced_nil (h : events.filterMap StoreEvent.updated? = []) :
    Announced store ⟨store, events, changed⟩ [] where
  kept hplace := hplace
  versions _ := rfl
  told := h
  found _ hc := absurd hc List.not_mem_nil

theorem announced_andThen (h : Announced store r changes) (hnext : Announced r.state (next r.state) more) :
    Announced store (r.andThen next) (changes ++ more) where
  kept hplace := hnext.kept (h.kept hplace)
  versions key := by
    rw [List.map_append, List.count_append, ← Nat.add_assoc, ← h.versions key]
    exact hnext.versions key
  told := by
    rw [List.map_append, ← h.told, ← hnext.told]
    exact List.filterMap_append
  found c hc := by
    rcases List.mem_append.mp hc with hfirst | hlast
    · obtain ⟨hscope, hplace⟩ := h.found c hfirst
      exact ⟨hscope, hnext.kept hplace⟩
    · exact hnext.found c hlast

section One

variable (hsound : Sound store) (hgot : store.getOrCreate scope n = .ok (e, mid)) (hkey : x.key = e.key)
include hsound hgot hkey

/-- The component that an address stands for is put back in its place, and it has changed so many times. -/
theorem announced_put (hmoves : Moves mid later) (hspares : Spares (· = e.key) mid later) (hmem : x ∈ later.entries)
    (hversion : x.version = e.version + changes.length)
    (htold : events.filterMap StoreEvent.updated? = changes.map Change.told)
    (hfound : ∀ c ∈ changes, c.place = e.key ∧ c.told.1 = scope ∧ mid.place? scope c.told.2 = some e.address) :
    Announced store ⟨later, events, changed⟩ changes := by
  have hall : Spares (· = e.key) store later := spares_trans (spares_getOrCreate hgot rfl) hspares
  have hafter : later.keys.Nodup := (sound_moves hsound ((moves_getOrCreate hgot).1.trans hmoves)).distinct
  have hplaces : changes.map Change.place = List.replicate changes.length e.key :=
    List.eq_replicate_iff.mpr ⟨List.length_map _, List.forall_mem_map.mpr fun c hc => (hfound c hc).1⟩
  refine ⟨hall.grows.kept, fun key => ?_, htold, fun c hc => ?_⟩
  · rw [hplaces, List.count_replicate]
    by_cases hsame : key = e.key
    · rw [hsame, if_pos BEq.rfl, versionAt_of_getOrCreate hsound hgot, ← hversion, ← hkey]
      exact versionAt_of_mem hafter hmem
    · rw [if_neg fun hbeq => hsame (beq_iff_eq.mp hbeq).symm]
      exact hall.versionAt_eq hsound.distinct hafter hsame
  · obtain ⟨hplace, hscope, hleads⟩ := hfound c hc
    rw [hplace, hscope]
    exact ⟨(scope_of_getOrCreate hgot).symm, hspares.grows.kept hleads⟩

theorem announced_change (hmoves : Moves mid ((mid.put x).fileAlias x)) (hversion : x.version = e.version + 1)
    {m : UInt16} (hfound : mid.place? scope m = some e.address) :
    Announced store ⟨(mid.put x).fileAlias x, [.updated scope m], changed⟩ [⟨e.key, (scope, m)⟩] := by
  have hspares : Spares (· = e.key) mid ((mid.put x).fileAlias x) :=
    spares_trans (spares_put hkey) (spares_fileAlias hkey)
  refine announced_put hsound hgot hkey hmoves hspares ?_ hversion rfl ?_
  · rw [entries_fileAlias]
    exact mem_put_self (moves_getOrCreate hgot).2 hkey
  · exact List.forall_mem_singleton.mpr ⟨rfl, rfl, hfound⟩

end One

/-! ## Dispatches -/

/-- Where the component is filed that an update is for, if it takes the update as a change. -/
def taken? (store : Store) (now : Nat) (u : Update) : Option (Scope × UInt16) := do
  let (scope, n) ← u.target?
  let receiver ← store.standing? scope n
  if (receiver.update store.rules now u).verdict = .ok true then some (store.placeOf scope n) else none

/-- The change of the engine that a sensor track reports, if it tells anything new of the engine. -/
def shown? (store : Store) (sighting : Sighting) : Option Change := do
  let n := sighting.engineId.toUInt16
  let engine ← store.standing? .engine n
  if (engine.applySighting sighting).2 = true then some ⟨store.placeOf .engine n, (.engine, n)⟩ else none

/-- The change of the engine that an update reports: an update that changes nothing itself reports nothing. -/
def sighted? (store : Store) (now : Nat) (u : Update) : Option Change := do
  let _ ← store.taken? now u
  let sighting ← u.sighting?
  store.shown? sighting

theorem Spares.shown?_eq (h : Spares touched store later) (hbefore : store.keys.Nodup) (hafter : later.keys.Nodup)
    (haway : ∀ a, ¬touched (.engine, a)) (sighting : Sighting) : later.shown? sighting = store.shown? sighting := by
  simp only [shown?, standing?, placeOf, place?, h.query_eq hbefore hafter haway]

theorem scope_of_shown? {sighting : Sighting} {c : Change} (h : store.shown? sighting = some c) :
    c.place.1 = .engine := by
  obtain ⟨engine, -, h⟩ := Option.bind_eq_some_iff.mp h
  obtain ⟨-, h⟩ := Option.ite_none_right_eq_some.mp h
  cases h
  rfl

theorem announced_applySighting (hsound : Sound store) (sighting : Sighting) :
    Announced store (store.applySighting sighting) (store.shown? sighting).toList := by
  unfold applySighting shown?
  dsimp only
  split
  · rename_i hrefused
    rw [(standing?_of_refused hrefused).2]
    exact announced_nil rfl
  · rename_i e mid hgot
    obtain ⟨hstanding, hplace⟩ := standing?_of_getOrCreate hgot
    have hmem := (moves_getOrCreate hgot).2
    rw [hstanding, hplace]
    split
    · rename_i state hstate
      have hsee := Move.see hmem (scope_of_getOrCreate hgot) sighting
      rw [hstate] at hsee
      rw [Option.bind_eq_bind, Option.bind_some, hstate]
      have hkey : (e.change state).key = e.key := rfl
      exact announced_change hsound hgot hkey (.single hsee) rfl (place?_of_query (query_of_getOrCreate hsound hgot))
    · rename_i state hstate
      rw [Option.bind_eq_bind, Option.bind_some, hstate]
      exact announced_put hsound hgot rfl .refl (spares_refl mid) hmem rfl rfl fun _ hc => absurd hc List.not_mem_nil

theorem announced_passSighting (hsound : Sound store) (u : Update) :
    Announced store (store.passSighting u) (u.sighting?.bind store.shown?).toList := by
  unfold passSighting
  split
  · rename_i sighting hsighting
    rw [hsighting, Option.bind_some]
    exact announced_applySighting hsound sighting
  · rename_i hnone
    rw [hnone]
    exact announced_nil rfl

theorem changed_passSighting (u : Update) (store : Store) : (store.passSighting u).changed = 0 := by
  unfold passSighting
  split
  · unfold applySighting
    dsimp only
    repeat' split
    all_goals rfl
  · rfl

/-- A component that takes an update as a change is told first, and then perhaps an engine that the update reports. -/
theorem announced_tell (hsound : Sound store) (hgot : store.getOrCreate scope n = .ok (e, mid))
    (hother : ∀ {sighting}, u.sighting? = some sighting → e.scope ≠ .engine)
    (hverdict : (e.state.update mid.rules now u).verdict = .ok true)
    (hx : e.change (e.state.update mid.rules now u).state = x) :
    Announced store ((Reaction.mk ((mid.put x).fileAlias x) [.updated e.scope e.address] 1).andThen (passSighting u))
      (.own e.key :: (u.sighting?.bind store.shown?).toList) := by
  obtain ⟨hmoves, hmem⟩ := moves_getOrCreate hgot
  obtain rfl := scope_of_getOrCreate hgot
  have hplace : mid.place? e.scope e.address = some e.address :=
    place?_of_query (query_own (sound_moves hsound hmoves).distinct hmem)
  have hkey : x.key = e.key := by
    rw [← hx]
    rfl
  have htell := Move.tell hmem now u hverdict
  rw [Entry.updated_of_changed hverdict, hx] at htell
  have htold : Sound ((mid.put x).fileAlias x) := sound_moves hsound (hmoves.tail htell)
  have hspares : Spares (· = e.key) store ((mid.put x).fileAlias x) :=
    spares_trans (spares_getOrCreate hgot rfl) (spares_trans (spares_put hkey) (spares_fileAlias hkey))
  -- The receiver is no engine, so an engine that it reports is as it was before.
  have hseen : u.sighting?.bind ((mid.put x).fileAlias x).shown? = u.sighting?.bind store.shown? := by
    refine Option.bind_congr fun sighting hsighting => ?_
    exact hspares.shown?_eq hsound.distinct htold.distinct
      (fun _ hsame => hother hsighting (congrArg Prod.fst hsame).symm) sighting
  refine announced_andThen (announced_change hsound hgot hkey (.single htell) (by rw [← hx]; rfl) hplace) ?_
  rw [← hseen]
  exact announced_passSighting htold u

/-- A component that does not take an update as a change is put back without a new version. -/
theorem announced_leave (hsound : Sound store) (hgot : store.getOrCreate scope n = .ok (e, mid))
    (hverdict : (e.state.update mid.rules now u).verdict ≠ .ok true)
    (hevents : events.filterMap StoreEvent.updated? = []) :
    Announced store ⟨mid.put { e with state := (e.state.update mid.rules now u).state }, events, changed⟩ [] := by
  have hmem := (moves_getOrCreate hgot).2
  have hleave := Move.leave hmem now u hverdict
  rw [Entry.updated_of_unchanged hverdict] at hleave
  have hkey : Entry.key { e with state := (e.state.update mid.rules now u).state } = e.key := rfl
  exact announced_put hsound hgot hkey (.single hleave) (spares_put hkey) (mem_put_self hmem hkey) rfl hevents
    fun _ hc => absurd hc List.not_mem_nil

/-- An update to what an address stands for counts one change or none. -/
theorem announced_applyTo (hsound : Sound store) (hgot : store.getOrCreate scope n = .ok (e, mid))
    (hother : ∀ {sighting}, u.sighting? = some sighting → e.scope ≠ .engine) :
    ((e.state.update store.rules now u).verdict = .ok true ∧ (mid.applyTo now u e).changed = 1 ∧
        Announced store (mid.applyTo now u e) (.own e.key :: (u.sighting?.bind store.shown?).toList)) ∨
      ((e.state.update store.rules now u).verdict ≠ .ok true ∧ (mid.applyTo now u e).changed = 0 ∧
        Announced store (mid.applyTo now u e) []) := by
  rw [← rules_of_getOrCreate hgot]
  unfold applyTo
  dsimp only
  split
  · rename_i hverdict
    refine Or.inl ⟨hverdict, ?_, announced_tell (e := e) hsound hgot hother hverdict rfl⟩
    exact congrArg (1 + ·) (changed_passSighting u _)
  · rename_i hverdict
    have hne : (e.state.update mid.rules now u).verdict ≠ .ok true := by rw [hverdict]; simp
    exact Or.inr ⟨hne, rfl, announced_leave hsound hgot hne rfl⟩
  · rename_i hverdict
    have hne : (e.state.update mid.rules now u).verdict ≠ .ok true := by rw [hverdict]; simp
    exact Or.inr ⟨hne, rfl, announced_leave hsound hgot hne rfl⟩

/-- What there is to tell of a dispatch: the components that it counts as changed, each once, and the engine that a
sensor track reports. -/
structure Tallied (store : Store) (now : Nat) (u : Update) (r : Reaction Store) (keys : List (Scope × UInt16)) :
    Prop where
  announced : Announced store r (keys.map .own ++ (store.sighted? now u).toList)
  distinct : keys.Nodup
  counted : r.changed = keys.length
  apart : ∀ c, store.sighted? now u = some c → c.place ∉ keys ∧ keys.length = 1

theorem tallied_nil (h : Announced store r []) (hcounted : r.changed = 0) (hnone : store.taken? now u = none) :
    Tallied store now u r [] := by
  have hunseen : store.sighted? now u = none := by
    rw [sighted?, hnone]
    rfl
  refine ⟨?_, .nil, hcounted, fun c hc => ?_⟩
  · rw [hunseen]
    exact h
  · rw [hunseen] at hc
    cases hc

theorem tallied_route (hsound : Sound store) (now : Nat) (u : Update) :
    ∃ keys, Tallied store now u (store.route now u) keys := by
  unfold route
  split
  · rename_i scope n htarget
    unfold applyAt
    split
    · rename_i hrefused
      refine ⟨[], tallied_nil (announced_nil rfl) rfl ?_⟩
      have hnothing := (standing?_of_refused hrefused).2
      simp only [taken?, htarget, Option.bind_eq_bind, Option.bind_some, hnothing, Option.bind_none]
    · rename_i e mid hgot
      obtain ⟨hstanding, hplace⟩ := standing?_of_getOrCreate hgot
      have htaken : store.taken? now u =
          if (e.state.update store.rules now u).verdict = .ok true then some e.key else none := by
        simp only [taken?, htarget, Option.bind_eq_bind, Option.bind_some, hstanding, hplace]
      have hother : ∀ {sighting}, u.sighting? = some sighting → e.scope ≠ .engine := by
        intro sighting hsighting hengine
        have hmotive := not_isMotive_of_sighting hsighting htarget
        rw [← scope_of_getOrCreate hgot, hengine] at hmotive
        cases hmotive
      rcases announced_applyTo hsound hgot hother with ⟨hverdict, hcounted, h⟩ | ⟨hverdict, hcounted, h⟩
      · rw [if_pos hverdict] at htaken
        have hsighted : store.sighted? now u = u.sighting?.bind store.shown? := by
          rw [sighted?, htaken]
          rfl
        refine ⟨[e.key], hsighted ▸ h, List.nodup_singleton _, hcounted, fun c hc => ⟨fun hsame => ?_, rfl⟩⟩
        rw [hsighted] at hc
        obtain ⟨sighting, hsighting, hshown⟩ := Option.bind_eq_some_iff.mp hc
        have hengine : c.place.1 = .engine := scope_of_shown? hshown
        exact hother hsighting ((congrArg Prod.fst (List.mem_singleton.mp hsame)).symm.trans hengine)
      · rw [if_neg hverdict] at htaken
        exact ⟨[], tallied_nil h hcounted htaken⟩
  · rename_i hnone
    refine ⟨[], tallied_nil (announced_nil rfl) rfl ?_⟩
    rw [taken?, hnone]
    rfl

/-- A command is no report. -/
theorem sighted?_command (store : Store) (now : Nat) (c : Command) : store.sighted? now (.command c) = none := by
  unfold sighted?
  cases store.taken? now (.command c) <;> rfl

/-- A command to a component that is filed changes it once or not at all. -/
theorem announced_applyToFiled (hsound : Sound store) (now : Nat) (c : Command) (x : Entry) :
    ∃ keys : List (Scope × UInt16), keys.Sublist [x.key] ∧
      (store.applyToFiled now (.command c) x).changed = keys.length ∧
        Announced store (store.applyToFiled now (.command c) x) (keys.map .own) := by
  unfold applyToFiled
  split
  · rename_i present hpresent
    obtain ⟨hmem, hkey⟩ := filed?_eq_some hpresent
    have hother : ∀ {sighting}, (Update.command c).sighting? = some sighting → present.scope ≠ .engine := by
      intro sighting hsighting
      cases hsighting
    have hown := getOrCreate_own hsound.distinct hmem
    rcases announced_applyTo hsound hown hother with ⟨-, hcounted, h⟩ | ⟨-, hcounted, h⟩
    · refine ⟨[present.key], ?_, hcounted, h⟩
      rw [hkey]
      exact .refl _
    · exact ⟨[], List.nil_sublist _, hcounted, h⟩
  · exact ⟨[], List.nil_sublist _, rfl, announced_nil rfl⟩

/-- A command to components, one after the other, changes each of them once or not at all. -/
theorem announced_forEach (hsound : Sound store) (now : Nat) (c : Command) (targets : List Entry) :
    ∃ keys : List (Scope × UInt16), keys.Sublist (targets.map Entry.key) ∧
      (Reaction.forEach (applyToFiled now (.command c)) targets store).changed = keys.length ∧
        Announced store (Reaction.forEach (applyToFiled now (.command c)) targets store) (keys.map .own) := by
  -- Each target is looked up again when its turn comes, so it does not matter what became of the others.
  induction targets generalizing store with
  | nil => exact ⟨[], .slnil, rfl, announced_nil rfl⟩
  | cons x rest ih =>
      obtain ⟨first, hfirst, hcounted, h⟩ := announced_applyToFiled hsound now c x
      obtain ⟨others, hothers, hmore, hrest⟩ := ih (sound_moves hsound (moves_applyToFiled now (.command c) x store))
      refine ⟨first ++ others, hfirst.append hothers, ?_, ?_⟩
      · rw [List.length_append, ← hcounted, ← hmore]
        rfl
      · rw [List.map_append]
        exact announced_andThen h hrest

theorem tallied_applyToAll (hsound : Sound store) {scopes : List Scope} (hscopes : scopes.Nodup) (now : Nat)
    (c : Command) : ∃ keys, Tallied store now (.command c) (store.applyToAll now (.command c) scopes) keys := by
  obtain ⟨keys, hkeys, hcounted, h⟩ := announced_forEach hsound now c (scopes.flatMap store.ofScope)
  have hdistinct : ((scopes.flatMap store.ofScope).map Entry.key).Nodup :=
    (nodup_flatMap_ofScope hsound hscopes).map_on fun _ he _ hother =>
      eq_of_key_eq hsound.distinct (mem_flatMap_ofScope.mp he).1 (mem_flatMap_ofScope.mp hother).1
  have hnone := sighted?_command store now c
  refine ⟨keys, ?_, hkeys.nodup hdistinct, hcounted, fun change hchange => ?_⟩
  · rw [hnone, Option.toList_none, List.append_nil]
    exact h
  · rw [hnone] at hchange
    cases hchange

theorem tallied_dispatch (hsound : Sound store) (now : Nat) (u : Update) :
    ∃ keys, Tallied store now u (store.dispatch now u) keys := by
  unfold dispatch
  split
  · exact tallied_route hsound now _
  · repeat' split
    · exact tallied_applyToAll hsound (by decide) now _
    · exact tallied_applyToAll hsound (by decide) now _
    · exact tallied_applyToAll hsound (List.nodup_singleton _) now _
    · exact tallied_route hsound now _

/-! ## Counting -/

/-- How many components have changed since a store was as it was. -/
def advanced (store later : Store) : Nat :=
  later.entries.countP fun e => decide (store.versionAt e.key < e.version)

/-- Changes of different components are as many as the components that have changed. -/
theorem Announced.advanced_eq (h : Announced store r changes) (hafter : r.state.keys.Nodup)
    (hdistinct : (changes.map Change.place).Nodup) : store.advanced r.state = changes.length := by
  have hadvanced : ∀ e ∈ r.state.entries, store.versionAt e.key < e.version ↔ e.key ∈ changes.map Change.place := by
    intro e he
    rw [← versionAt_of_mem hafter he, h.versions, ← List.count_pos_iff]
    omega
  have hplaces : (r.state.keys.filter fun key => decide (key ∈ changes.map Change.place)).Perm
      (changes.map Change.place) := by
    refine (List.perm_ext_iff_of_nodup (hafter.filter _) hdistinct).mpr fun key => ?_
    rw [List.mem_filter, decide_eq_true_iff]
    refine and_iff_right_of_imp fun hkey => ?_
    obtain ⟨c, hc, rfl⟩ := List.mem_map.mp hkey
    obtain ⟨hscope, hplace⟩ := h.found c hc
    rw [hscope] at hplace
    exact (place?_eq_some.mp hplace).1
  calc store.advanced r.state
      = r.state.entries.countP fun e => decide (e.key ∈ changes.map Change.place) :=
        List.countP_congr fun e he => by rw [decide_eq_true_iff, decide_eq_true_iff, hadvanced e he]
    _ = (r.state.keys.filter fun key => decide (key ∈ changes.map Change.place)).length := by
        rw [keys, ← List.countP_eq_length_filter, List.countP_map]
        rfl
    _ = changes.length := by rw [hplaces.length_eq, List.length_map]

/-- No component changes twice in a dispatch. -/
theorem Tallied.nodup_places {keys : List (Scope × UInt16)} (h : Tallied store now u r keys) :
    ((keys.map Change.own ++ (store.sighted? now u).toList).map Change.place).Nodup := by
  have hown : (keys.map Change.own).map Change.place = keys := by
    rw [List.map_map]
    exact List.map_id keys
  rw [List.map_append, hown]
  refine h.distinct.append ?_ fun key hkey hseen => ?_
  · cases store.sighted? now u with
    | none => exact List.nodup_nil
    | some c => exact List.nodup_singleton _
  · obtain ⟨c, hc, rfl⟩ := List.mem_map.mp hseen
    exact (h.apart c (Option.mem_toList.mp hc)).1 hkey

/-- Take any store after any actions, and any update: a halt, a command to one component or to all of a kind, or a
message. No component's version advances by more than one in a dispatch. The dispatch returns the number of components
whose version advances, unless a sensor track reports an engine and both of them change: two versions advance then, and
the dispatch returns one. -/
theorem counted_iff (rules : Rules) (actions : List Action) {store : Store}
    (hstore : (empty rules).after actions = store) (now : Nat) (u : Update) :
    let r := store.dispatch now u
    (∀ e ∈ r.state.entries, e.version = store.versionAt e.key ∨ e.version = store.versionAt e.key + 1) ∧
      (r.changed = store.advanced r.state ↔ store.sighted? now u = none) ∧
        ((store.sighted? now u).isSome = true → r.changed = 1 ∧ store.advanced r.state = 2) := by
  intro r
  have hsound : Sound store := hstore ▸ sound_after rules actions
  have hafter : r.state.keys.Nodup := (sound_moves hsound (moves_dispatch now u store)).distinct
  obtain ⟨keys, htallied⟩ := tallied_dispatch hsound now u
  have hdistinct := htallied.nodup_places
  have hadvanced : store.advanced r.state = r.changed + (store.sighted? now u).toList.length := by
    rw [htallied.announced.advanced_eq hafter hdistinct, List.length_append, List.length_map, ← htallied.counted]
  refine ⟨fun e he => ?_, ?_, fun hsome => ?_⟩
  · rw [← versionAt_of_mem hafter he, htallied.announced.versions]
    have honce := List.nodup_iff_count_le_one.mp hdistinct e.key
    omega
  · rw [hadvanced]
    cases store.sighted? now u <;> simp
  · obtain ⟨c, hc⟩ := Option.isSome_iff_exists.mp hsome
    rw [hadvanced, htallied.counted, (htallied.apart c hc).2, hc]
    exact ⟨rfl, rfl⟩

/-- A sensor track reports engine 18, which runs, and what it is called: the sensor track and the engine change, and the
dispatch returns one. -/
theorem counted_iff_reported :
    let speed : Update := .command ⟨.engine .legacy .absoluteSpeed, 18, some 30, .engine⟩
    let actions : List Action := [.tell 0 speed]
    let store := (empty ⟨.stock, .standard⟩).after actions
    let product : Product := ⟨0, 0, 0, 0, 2019, "Santa Fe", "3751", 0, 0, 180, 0⟩
    let report : Update := .message (.board .irda
      ⟨.irdaRx, 2, .own .data, none, .report (.data ⟨0, 0, 0, 18, 0, 0, 0, 0, 0, 0, some product⟩)⟩)
    let r := store.dispatch 1 report
    r.state.entries.map (fun e => (e.key, store.versionAt e.key, e.version)) =
        [((.engine, 18), 1, 2), ((.sensorTrack, 2), 0, 1)] ∧
      r.changed = 1 ∧ store.advanced r.state = 2 := by
  intro speed actions store product report r
  have hstore : (empty ⟨.stock, .standard⟩).after actions = store := rfl
  obtain ⟨-, -, hsighted⟩ := counted_iff ⟨.stock, .standard⟩ actions hstore 1 report
  exact ⟨by decide +kernel, hsighted (by decide +kernel)⟩

end Store
end RailLayout
