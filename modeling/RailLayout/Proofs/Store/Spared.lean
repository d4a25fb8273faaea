import RailLayout.Proofs.Store.Grows
import RailLayout.Proofs.Store.Routing

/-!
What a dispatch leaves alone. An update that is for one component changes this one, by what it was and by nothing else
that is filed (`Store.Makes`). A sensor track that reports an engine brings this engine a new nameplate; no other
component can tell afterwards that there was an update (`Store.components_independent`).
-/

namespace RailLayout

/-- The same component with another name, another number, another year and another greatest speed, if it is an engine
or a train. -/
def Component.withPlate (name number : Option String) (year : Option UInt16) (maxSpeed : Option UInt8) :
    Component → Component
  | .motive s =>
    .motive { s with
      profile := { s.profile with roadName := name, roadNumber := number }
      year := year
      maxSpeed := maxSpeed }
  | other => other

namespace Component

theorem exists_eq_withPlate (c : Component) :
    ∃ name number year maxSpeed, c = c.withPlate name number year maxSpeed := by
  cases c with
  | motive s => exact ⟨s.profile.roadName, s.profile.roadNumber, s.year, s.maxSpeed, rfl⟩
  | _ => exact ⟨none, none, none, none, rfl⟩

/-- What a sensor track knows of a component can change its nameplate only. -/
theorem applySighting_eq_withPlate (sighting : Sighting) (c : Component) :
    ∃ name number year maxSpeed, (c.applySighting sighting).1 = c.withPlate name number year maxSpeed := by
  cases c with
  | motive s =>
      unfold applySighting MotiveState.applySighting
      dsimp only
      split
      · split
        · exact exists_eq_withPlate (motive s)
        · rename_i p _
          exact ⟨_, _, if p.year = 0 then s.year else some p.year,
            if p.maxSpeed = 0 then s.maxSpeed else some p.maxSpeed, rfl⟩
      · exact exists_eq_withPlate (motive s)
  | _ => exact exists_eq_withPlate _

theorem applySighting_of_unchanged {sighting : Sighting} {c d : Component}
    (h : c.applySighting sighting = (d, false)) : (c.applySighting sighting).1 = c := by
  cases c with
  | motive s =>
      cases hkind : s.kind with
      | engine =>
          simp only [applySighting, hkind, MotiveState.applySighting] at h ⊢
          split at h
          · rfl
          · cases h
      | train => simp only [applySighting, hkind]
  | _ => rfl

end Component

namespace Store

variable {store mid later last : Store} {e x : Entry} {scope : Scope} {n : UInt16} {now : Nat} {u : Update}
  {touched : Scope × UInt16 → Prop}

/-! ## What an address stands for -/

/-- The state of the component that an address stands for: the one that it finds, or else a new one. -/
def standing? (store : Store) (scope : Scope) (n : UInt16) : Option Component :=
  ((store.query scope n).map Entry.state).or (Component.build scope (some n)).toOption

/-- Where the component is filed that an address stands for. -/
def placeOf (store : Store) (scope : Scope) (n : UInt16) : Scope × UInt16 :=
  (scope, (store.place? scope n).getD n)

theorem standing?_of_getOrCreate (h : store.getOrCreate scope n = .ok (e, later)) :
    store.standing? scope n = some e.state ∧ store.placeOf scope n = e.key := by
  have hscope := scope_of_getOrCreate h
  rcases getOrCreate_cases h with ⟨hquery, -⟩ | ⟨state, hfree, hbuilt, rfl, -⟩
  · rw [standing?, placeOf, place?, hquery, ← hscope]
    exact ⟨rfl, rfl⟩
  · rw [standing?, placeOf, place?, hfree, hbuilt]
    exact ⟨rfl, rfl⟩

/-- An address that stands for nothing finds nothing. -/
theorem standing?_of_refused {cause : Error} (h : store.getOrCreate scope n = .error cause) :
    store.query scope n = none ∧ store.standing? scope n = none := by
  unfold getOrCreate at h
  split at h
  · cases h
  · rename_i hfree
    cases hbuilt : Component.build scope (some n) with
    | error other => exact ⟨hfree, by rw [standing?, hfree, hbuilt]; rfl⟩
    | ok state =>
        rw [hbuilt] at h
        cases h

theorem standing?_of_query (h : store.query scope n = some e) : store.standing? scope n = some e.state := by
  rw [standing?, h]
  rfl

theorem query_of_getOrCreate (h : Sound store) (hgot : store.getOrCreate scope n = .ok (e, later)) :
    later.query scope n = some e := by
  obtain ⟨hmoves, hmem⟩ := moves_getOrCreate hgot
  rcases getOrCreate_cases hgot with ⟨hquery, rfl⟩ | ⟨state, -, -, rfl, rfl⟩
  · exact hquery
  · exact query_own (sound_moves h hmoves).distinct hmem

/-! ## What is left alone -/

/-- How one store came from another by what was done to components at some places: every address finds what it found,
and the components elsewhere are the same. -/
structure Spares (touched : Scope × UInt16 → Prop) (store later : Store) : Prop where
  grows : Grows touched store later
  same : ∀ {e : Entry}, ¬touched e.key → (e ∈ later.entries ↔ e ∈ store.entries)

theorem spares_refl (store : Store) : Spares touched store store := ⟨grows_refl store, fun _ => Iff.rfl⟩

theorem spares_trans (h : Spares touched store later) (h' : Spares touched later last) : Spares touched store last :=
  ⟨grows_trans h.grows h'.grows, fun haway => (h'.same haway).trans (h.same haway)⟩

theorem spares_mono {more : Scope × UInt16 → Prop} (h : Spares touched store later)
    (hmore : ∀ key, touched key → more key) : Spares more store later :=
  ⟨grows_mono h.grows hmore, fun haway => h.same fun htouched => haway (hmore _ htouched)⟩

theorem spares_put (htouched : touched x.key) : Spares touched store (store.put x) := by
  refine ⟨grows_put htouched, fun {y} haway => ⟨fun hy => ?_, fun hy => ?_⟩⟩
  · rcases mem_put hy with rfl | ⟨hin, -⟩
    · exact absurd htouched haway
    · exact hin
  · exact mem_put_of_ne hy fun hsame => haway (hsame ▸ htouched)

theorem spares_fileAlias (htouched : touched e.key) : Spares touched store (store.fileAlias e) :=
  ⟨grows_fileAlias htouched, fun _ => by rw [entries_fileAlias]⟩

theorem spares_getOrCreate (h : store.getOrCreate scope n = .ok (e, later)) (htouched : touched e.key) :
    Spares touched store later := by
  refine ⟨grows_getOrCreate h htouched, fun {y} haway => ?_⟩
  rcases getOrCreate_cases h with ⟨-, rfl⟩ | ⟨state, -, -, rfl, rfl⟩
  · exact Iff.rfl
  · exact mem_file.trans (or_iff_right fun hy => haway (hy ▸ htouched))

/-- A component elsewhere is found by the same addresses, and it is the same. -/
theorem Spares.query_iff (h : Spares touched store later) (hbefore : store.keys.Nodup) (hafter : later.keys.Nodup)
    (haway : ¬touched e.key) : later.query scope n = some e ↔ store.query scope n = some e := by
  rw [query_eq_some_iff hafter, query_eq_some_iff hbefore, h.same haway]
  refine and_congr_right fun _ => and_congr_right fun hscope => ⟨fun hplace => ?_, h.grows.kept⟩
  subst hscope
  exact (h.grows.found hplace).resolve_right haway

theorem Spares.query_eq (h : Spares touched store later) (hbefore : store.keys.Nodup) (hafter : later.keys.Nodup)
    (haway : ∀ a, ¬touched (scope, a)) : later.query scope n = store.query scope n := by
  refine Option.ext fun e => ?_
  by_cases hscope : e.scope = scope
  · subst hscope
    exact h.query_iff hbefore hafter (haway e.address)
  · exact iff_of_false (fun hquery => hscope (query_eq_some hquery).2) fun hquery => hscope (query_eq_some hquery).2

/-! ## One component -/

/-- How one store came from another by what was done to the one component that an address stands for. -/
structure Makes (store : Store) (scope : Scope) (n : UInt16) (f : Component → Component) (later : Store) : Prop where
  moves : Moves store later
  spares : Spares (· = store.placeOf scope n) store later
  state : (later.query scope n).map Entry.state = (store.standing? scope n).map f

variable {f : Component → Component}

theorem makes_of_refused {cause : Error} (h : store.getOrCreate scope n = .error cause) :
    Makes store scope n f store := by
  obtain ⟨hquery, hstanding⟩ := standing?_of_refused h
  exact ⟨.refl, spares_refl store, by rw [hquery, hstanding]; rfl⟩

/-- The component that an address stands for is put back in its place. -/
theorem makes_of_put (h : Sound store) (hgot : store.getOrCreate scope n = .ok (e, mid)) (hkey : x.key = e.key)
    (hstate : x.state = f e.state) (hmoves : Moves mid later) (hspares : Spares (· = e.key) mid later)
    (hmem : x ∈ later.entries) : Makes store scope n f later := by
  obtain ⟨hstanding, hplace⟩ := standing?_of_getOrCreate hgot
  have hall : Moves store later := (moves_getOrCreate hgot).1.trans hmoves
  refine ⟨hall, ?_, ?_⟩
  · rw [hplace]
    exact spares_trans (spares_getOrCreate hgot rfl) hspares
  · have hfound : later.place? scope n = some x.address := by
      rw [show x.address = e.address from congrArg Prod.snd hkey]
      exact hspares.grows.kept (place?_of_query (query_of_getOrCreate h hgot))
    have hscope : x.scope = scope := (congrArg Prod.fst hkey).trans (scope_of_getOrCreate hgot)
    rw [(query_eq_some_iff (sound_moves h hall).distinct).mpr ⟨hmem, hscope, hfound⟩, hstanding]
    exact congrArg some hstate

theorem mem_put_self (he : e ∈ store.entries) (hkey : x.key = e.key) : x ∈ (store.put x).entries :=
  List.mem_map.mpr ⟨e, he, if_pos (Entry.isAt_iff.mpr hkey.symm)⟩

theorem makes_applySighting (h : Sound store) (sighting : Sighting) :
    Makes store .engine sighting.engineId.toUInt16 (fun c => (c.applySighting sighting).1)
      (store.applySighting sighting).state := by
  unfold applySighting
  dsimp only
  split
  · rename_i hrefused
    exact makes_of_refused hrefused
  · rename_i e mid hgot
    have hmem := (moves_getOrCreate hgot).2
    split
    · rename_i state hstate
      have hsee := Move.see hmem (scope_of_getOrCreate hgot) sighting
      rw [hstate] at hsee
      have hkey : (e.change state).key = e.key := rfl
      refine makes_of_put h hgot hkey ?_ (.single hsee)
        (spares_trans (spares_put hkey) (spares_fileAlias hkey)) ?_
      · exact (congrArg Prod.fst hstate).symm
      · rw [entries_fileAlias]
        exact mem_put_self hmem rfl
    · rename_i state hstate
      exact makes_of_put h hgot rfl (Component.applySighting_of_unchanged hstate).symm .refl (spares_refl mid) hmem

/-- An update that is for a component changes this one, and then perhaps the engine that it reports. -/
theorem makes_route (h : Sound store) (now : Nat) (htarget : u.target? = some (scope, n)) :
    ∃ told, Makes store scope n (fun c => (c.update store.rules now u).state) told ∧
      ((store.route now u).state = told ∨
        ∃ sighting, u.sighting? = some sighting ∧ (store.route now u).state = (told.applySighting sighting).state) := by
  simp only [route, htarget, applyAt]
  split
  · rename_i hrefused
    exact ⟨store, makes_of_refused hrefused, Or.inl rfl⟩
  · rename_i e mid hgot
    have hmem := (moves_getOrCreate hgot).2
    have hrules := rules_of_getOrCreate hgot
    have hstate : (e.updated mid.rules now u).state = (e.state.update store.rules now u).state := by
      rw [(Entry.updated_same mid.rules now u e).2.2, hrules]
    have hkey := Entry.key_updated mid.rules now u e
    have hput : Spares (· = e.key) mid (mid.put (e.updated mid.rules now u)) := spares_put hkey
    have hin := mem_put_self hmem hkey
    rcases applyTo_cases now u e mid with ⟨hchanged, hlater⟩ | ⟨hleft, hlater⟩
    · rw [hlater]
      refine ⟨_, makes_of_put h hgot hkey hstate (.single (.tell hmem now u hchanged))
        (spares_trans hput (spares_fileAlias hkey)) (by rwa [entries_fileAlias]), ?_⟩
      unfold passSighting
      split
      · rename_i sighting hsighting
        exact Or.inr ⟨sighting, hsighting, rfl⟩
      · exact Or.inl rfl
    · rw [hlater]
      exact ⟨_, makes_of_put h hgot hkey hstate (.single (.leave hmem now u hleft)) hput hin, Or.inl rfl⟩

/-- Components of another kind are not concerned. -/
theorem Makes.query_eq (h : Makes store scope n f later) (hsound : Sound store) {other : Scope} (hne : other ≠ scope)
    (m : UInt16) : later.query other m = store.query other m :=
  h.spares.query_eq hsound.distinct (sound_moves hsound h.moves).distinct fun _ hkey => hne (congrArg Prod.fst hkey)

/-- What an address stands for is filed at the place that it leads to, or it is new. -/
theorem standing?_cases {c : Component} (h : store.standing? scope n = some c) :
    (∃ e ∈ store.entries, e.key = store.placeOf scope n ∧ c = e.state) ∨
      (store.query scope n = none ∧ store.placeOf scope n = (scope, n) ∧ Component.build scope (some n) = .ok c) := by
  unfold standing? at h
  unfold placeOf place?
  cases hquery : store.query scope n with
  | some e =>
      rw [hquery] at h
      cases h
      obtain ⟨hmem, rfl⟩ := query_eq_some hquery
      exact Or.inl ⟨e, hmem, rfl, rfl⟩
  | none =>
      rw [hquery, Option.map_none, Option.none_or] at h
      cases hbuilt : Component.build scope (some n) with
      | error cause =>
          rw [hbuilt] at h
          cases h
      | ok state =>
          rw [hbuilt] at h
          cases h
          exact Or.inr ⟨rfl, rfl, rfl⟩

/-- What is filed afterwards was filed before, or it is what became of what the address stands for. -/
theorem Makes.mem (h : Makes store scope n f later) (hsound : Sound store) (he : e ∈ later.entries) :
    (e ∈ store.entries ∧ e.key ≠ store.placeOf scope n) ∨
      (e.key = store.placeOf scope n ∧ ∃ c, store.standing? scope n = some c ∧ e.state = f c) := by
  by_cases hplace : e.key = store.placeOf scope n
  · refine Or.inr ⟨hplace, ?_⟩
    have hdistinct := (sound_moves hsound h.moves).distinct
    have hscope : e.scope = scope := congrArg Prod.fst hplace
    have hquery : later.query scope n = some e := by
      cases hfound : store.place? scope n with
      | none =>
          have haddress : e.address = n := by
            rw [placeOf, hfound] at hplace
            exact congrArg Prod.snd hplace
          rw [← hscope, ← haddress]
          exact query_own hdistinct he
      | some a =>
          have haddress : e.address = a := by
            rw [placeOf, hfound] at hplace
            exact congrArg Prod.snd hplace
          exact (query_eq_some_iff hdistinct).mpr ⟨he, hscope, haddress ▸ h.spares.grows.kept hfound⟩
    have hstate := h.state
    rw [hquery] at hstate
    obtain ⟨c, hc, hmade⟩ := Option.map_eq_some_iff.mp hstate.symm
    exact ⟨c, hc, hmade.symm⟩
  · exact Or.inl ⟨(h.spares.same hplace).mp he, hplace⟩

/-- What was filed is filed still, and it is the same or what became of it. -/
theorem Makes.kept (h : Makes store scope n f later) (hsound : Sound store) (he : e ∈ store.entries) :
    ∃ x ∈ later.entries, x.key = e.key ∧ x.state = if e.key = store.placeOf scope n then f e.state else e.state := by
  by_cases hplace : e.key = store.placeOf scope n
  · have hkey : e.key ∈ later.keys :=
      (place?_eq_some.mp (h.spares.grows.kept (place?_of_query (query_own hsound.distinct he)))).1
    obtain ⟨x, hx, hsame⟩ := List.mem_map.mp hkey
    refine ⟨x, hx, hsame, ?_⟩
    rw [if_pos hplace]
    rcases h.mem hsound hx with ⟨-, haway⟩ | ⟨-, c, hc, hstate⟩
    · exact absurd (hsame.trans hplace) haway
    · rcases standing?_cases hc with ⟨old, hold, holdKey, rfl⟩ | ⟨hfree, hnew, -⟩
      · rw [hstate, eq_of_key_eq hsound.distinct hold he (holdKey.trans hplace.symm)]
      · refine absurd (List.mem_map_of_mem he) (?_ : e.key ∉ store.keys)
        rw [hplace, hnew]
        exact not_mem_keys_of_free hsound.homes hfree
  · exact ⟨e, (h.spares.same hplace).mpr he, rfl, (if_neg hplace).symm⟩

/-! ## Dispatches -/

/-- Whether a place is the one of the component that an update is for, or the one of the engine that it reports. -/
def Concerns (store : Store) (u : Update) (key : Scope × UInt16) : Prop :=
  (∃ scope n, u.target? = some (scope, n) ∧ key = store.placeOf scope n) ∨
    ∃ sighting, u.sighting? = some sighting ∧ key = store.placeOf .engine sighting.engineId.toUInt16

/-- What an update that is for one component leaves of a store. -/
structure Independent (store : Store) (rules : Rules) (now : Nat) (u : Update) (later : Store) : Prop where
  spares : Spares (store.Concerns u) store later
  target : ∀ {scope n}, u.target? = some (scope, n) →
    (later.query scope n).map Entry.state = (store.standing? scope n).map fun c => (c.update rules now u).state
  sighted : ∀ {sighting}, u.sighting? = some sighting → ∀ {e}, later.query .engine sighting.engineId.toUInt16 = some e →
    ∃ c name number year maxSpeed, store.standing? .engine sighting.engineId.toUInt16 = some c ∧
      e.state = c.withPlate name number year maxSpeed

/-- A report of a passing engine is for a sensor track or for an accessory. -/
theorem not_isMotive_of_sighting {sighting : Sighting} (h : u.sighting? = some sighting) {received : Scope}
    {address : UInt16} (htarget : u.target? = some (received, address)) : received.isMotive = false := by
  unfold Update.sighting? at h
  split at h
  · rename_i action _ _
    have hscope : received = action.scope := by
      cases htarget
      rfl
    rw [hscope]
    unfold BoardAction.scope
    split <;> first | rfl | contradiction
  · cases h

theorem plate_of_query (h : store.query scope n = some e) :
    ∃ c name number year maxSpeed, store.standing? scope n = some c ∧
      e.state = c.withPlate name number year maxSpeed := by
  obtain ⟨name, number, year, maxSpeed, hplate⟩ := e.state.exists_eq_withPlate
  exact ⟨e.state, name, number, year, maxSpeed, standing?_of_query h, hplate⟩

theorem independent_route (h : Sound store) (now : Nat) (u : Update) :
    store.Independent store.rules now u (store.route now u).state := by
  cases htarget : u.target? with
  | none =>
      have hlater : (store.route now u).state = store := by
        rw [route, htarget]
        rfl
      rw [hlater]
      refine ⟨spares_refl store, fun hsome => ?_, fun _ => plate_of_query⟩
      rw [htarget] at hsome
      cases hsome
  | some target =>
      obtain ⟨scope, n⟩ := target
      obtain ⟨told, hmakes, hlater⟩ := makes_route h now htarget
      have htold : Sound told := sound_moves h hmakes.moves
      have hspares : Spares (store.Concerns u) store told :=
        spares_mono hmakes.spares fun key hkey => Or.inl ⟨scope, n, htarget, hkey⟩
      have hengine : ∀ {sighting}, u.sighting? = some sighting → ∀ m, told.query .engine m = store.query .engine m := by
        intro sighting hsighting m
        refine hmakes.query_eq h (fun hscope => ?_) m
        have hother := not_isMotive_of_sighting hsighting htarget
        rw [← hscope] at hother
        cases hother
      rcases hlater with hlater | ⟨sighting, hsighting, hlater⟩
      · rw [hlater]
        refine ⟨hspares, fun hsame => ?_, fun hsighting e he => ?_⟩
        · cases htarget.symm.trans hsame
          exact hmakes.state
        · exact plate_of_query (hengine hsighting _ ▸ he)
      · have hseen := makes_applySighting htold sighting
        have hplace : told.placeOf .engine sighting.engineId.toUInt16 =
            store.placeOf .engine sighting.engineId.toUInt16 := by
          rw [placeOf, placeOf, place?, place?, hengine hsighting]
        have hstanding : told.standing? .engine sighting.engineId.toUInt16 =
            store.standing? .engine sighting.engineId.toUInt16 := by
          rw [standing?, standing?, hengine hsighting]
        rw [hlater]
        refine ⟨spares_trans hspares (spares_mono hseen.spares fun key hkey => ?_), fun hsame => ?_, ?_⟩
        · exact Or.inr ⟨sighting, hsighting, hkey.trans hplace⟩
        · cases htarget.symm.trans hsame
          have hother : scope ≠ .engine := by
            rintro rfl
            cases not_isMotive_of_sighting hsighting htarget
          rw [hseen.query_eq htold hother]
          exact hmakes.state
        · intro other hsame e he
          cases hsighting.symm.trans hsame
          have hstate := hseen.state
          rw [he, hstanding] at hstate
          obtain ⟨c, hc, hplate⟩ := Option.map_eq_some_iff.mp hstate.symm
          obtain ⟨name, number, year, maxSpeed, hwith⟩ := c.applySighting_eq_withPlate sighting
          exact ⟨c, name, number, year, maxSpeed, hc, hplate.symm.trans hwith⟩

/-- Take any store after any actions, and an update that is neither a halt nor a command for all components of a kind.
What an address finds it finds still, in the same place. A component that the update is not about is found by the same
addresses as before, and it is the same; no other one is filed. The component that the update is for becomes what the
update makes of its own state, or of a new component's if there was none. An engine that the update reports keeps its
state but for the name, the number, the year and the greatest speed. -/
theorem components_independent (rules : Rules) (actions : List Action) {store : Store}
    (hstore : (empty rules).after actions = store) (now : Nat) {u : Update} (hhalt : u.isHalt = false)
    (hone : ∀ c, u = .command c → c.isBroadcast = false) :
    let later := (store.dispatch now u).state
    (∀ scope n a, store.place? scope n = some a → later.place? scope n = some a) ∧
      (∀ e, ¬store.Concerns u e.key → ∀ scope n, later.query scope n = some e ↔ store.query scope n = some e) ∧
        (∀ scope n, u.target? = some (scope, n) → (later.query scope n).map Entry.state =
          (store.standing? scope n).map fun c => (c.update rules now u).state) ∧
          ∀ sighting e, u.sighting? = some sighting → later.query .engine sighting.engineId.toUInt16 = some e →
            ∃ c name number year maxSpeed, store.standing? .engine sighting.engineId.toUInt16 = some c ∧
              e.state = c.withPlate name number year maxSpeed := by
  intro later
  have hsound : Sound store := hstore ▸ sound_after rules actions
  have hrules : store.rules = rules := hstore ▸ rules_after rules actions
  have hroute : store.dispatch now u = store.route now u := by
    cases u with
    | message m => rfl
    | command c =>
        have hdirect := hone c rfl
        refine dispatch_eq_route hhalt rfl fun hall => ?_
        simp [Command.isBroadcast, hall] at hdirect
  have hindependent : store.Independent rules now u later := by
    have hall := independent_route hsound now u
    rwa [hrules, ← hroute] at hall
  have hafter : Sound later := sound_moves hsound (moves_dispatch now u store)
  refine ⟨fun scope n a => hindependent.spares.grows.kept, fun e haway scope n => ?_, fun scope n => ?_, ?_⟩
  · exact hindependent.spares.query_iff hsound.distinct hafter.distinct haway
  · exact hindependent.target
  · exact fun sighting e hsighting he => hindependent.sighted hsighting he

/-- A sensor track reports engine 18 and what it is called: engine 12 is the same, and engine 18 has a name by now and
runs at the speed at which it ran. -/
theorem components_independent_sighted :
    let speed (address data : UInt16) : Update :=
      .command ⟨.engine .legacy .absoluteSpeed, address, some data, .engine⟩
    let actions : List Action := [.tell 0 (speed 5 60), .clear, .tell 1 (speed 12 79), .tell 2 (speed 18 30)]
    let store := (empty ⟨.stock, .standard⟩).after actions
    let product : Product := ⟨0, 0, 0, 0, 2019, "Santa Fe", "3751", 0, 0, 180, 0⟩
    let report : Update := .message (.board .irda
      ⟨.irdaRx, 2, .own .data, none, .report (.data ⟨0, 0, 0, 18, 0, 0, 0, 0, 0, 0, some product⟩)⟩)
    let later := (store.dispatch 3 report).state
    (∃ e, store.query .engine 12 = some e ∧ later.query .engine 12 = some e) ∧
      ∃ before after name number year maxSpeed, store.query .engine 18 = some before ∧
        later.query .engine 18 = some after ∧ before.state.profile.roadName = none ∧
          after.state.profile.roadName = some "Santa Fe" ∧
            after.state = before.state.withPlate name number year maxSpeed := by
  intro speed actions store product report later
  have hstore : (empty ⟨.stock, .standard⟩).after actions = store := rfl
  obtain ⟨-, hspared, -, hsighted⟩ := components_independent ⟨.stock, .standard⟩ actions hstore 3
    (show report.isHalt = false from rfl) fun _ h => nomatch h
  have hfound : (store.query .engine 12).map Entry.key = some (.engine, 12) := by decide +kernel
  have hnames : (store.query .engine 18).map (fun e => e.state.profile.roadName) = some none ∧
      (later.query .engine 18).map (fun e => e.state.profile.roadName) = some (some "Santa Fe") := by decide +kernel
  obtain ⟨e, he, hkey⟩ := Option.map_eq_some_iff.mp hfound
  obtain ⟨before, hbefore, hnameless⟩ := Option.map_eq_some_iff.mp hnames.1
  obtain ⟨after, hafter, hnamed⟩ := Option.map_eq_some_iff.mp hnames.2
  refine ⟨⟨e, he, (hspared e ?_ .engine 12).mpr he⟩, ?_⟩
  · rw [hkey]
    rintro (⟨scope, n, htarget, hplace⟩ | ⟨sighting, hsighting, hplace⟩)
    · cases htarget
      cases congrArg Prod.fst hplace
    · cases hsighting
      exact absurd hplace (by decide +kernel)
  · obtain ⟨c, name, number, year, maxSpeed, hstanding, hplate⟩ := hsighted _ after rfl hafter
    cases (standing?_of_query hbefore).symm.trans hstanding
    exact ⟨before, after, name, number, year, maxSpeed, hbefore, hafter, hnameless, hnamed, hplate⟩

end Store
end RailLayout
