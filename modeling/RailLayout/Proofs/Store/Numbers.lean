import Mathlib.Data.List.Induction
import Mathlib.Data.List.Infix
import RailLayout.Proofs.Store.Spared

/-!
Road numbers as second addresses. A dispatch makes numbers new and lets addresses find something new for one engine or
train at most (`Store.grows_dispatch`). So the first component that a number was filed for keeps it, and an engine or a
train is found by the number that its road number spells unless this number found another one at a time when it was not
its own (`Store.found_by_number`).
-/

namespace RailLayout

namespace Store

variable {store : Store} {touched : Scope × UInt16 → Prop} {scope : Scope} {n a : UInt16} {now : Nat} {u : Update}

/-! ## One dispatch -/

/-- The places at which a dispatch can bring something new: those of one engine or train, and of components of other
kinds. -/
def OneMotive (k : Scope × UInt16) (key : Scope × UInt16) : Prop := key.1.isMotive = true → key = k

/-- An update for one component brings something new for the engine that it reports, or else for its target. -/
theorem grows_route (h : Sound store) (now : Nat) (u : Update) :
    ∃ k, Grows (OneMotive k) store (store.route now u).state := by
  have hgrows := (independent_route h now u).spares.grows
  cases hseen : u.sighting? with
  | some sighting =>
      refine ⟨store.placeOf .engine sighting.engineId.toUInt16, grows_mono hgrows fun key hkey hmotive => ?_⟩
      rcases hkey with ⟨scope, n, htarget, rfl⟩ | ⟨other, hother, rfl⟩
      · have hother := not_isMotive_of_sighting hseen htarget
        rw [show scope.isMotive = true from hmotive] at hother
        cases hother
      · cases hseen.symm.trans hother
        rfl
  | none =>
      refine ⟨(u.target?.map fun target => store.placeOf target.1 target.2).getD (.engine, 0),
        grows_mono hgrows fun key hkey _ => ?_⟩
      rcases hkey with ⟨scope, n, htarget, rfl⟩ | ⟨other, hother, -⟩
      · rw [htarget]
        rfl
      · rw [hseen] at hother
        cases hother

/-- A command for all components of some kinds brings nothing new. -/
theorem grows_applyToAll_command (h : Sound store) {scopes : List Scope} (hscopes : scopes.Nodup) (now : Nat)
    (c : Command) : Grows touched store (store.applyToAll now (.command c) scopes).state := by
  have hkeys := keys_applyToAll_command h hscopes now c
  rw [applyToAll_command h hscopes] at hkeys ⊢
  refine grows_of_same_places hkeys rfl fun x hx => Or.inr ?_
  obtain ⟨e, he, rfl⟩ := List.mem_map.mp hx
  split
  · exact ⟨e, he, (Entry.key_updated store.rules now (.command c) e).symm,
      (Entry.alias?_updated (h.sound e he) (Or.inl ⟨c, rfl⟩)).symm⟩
  · exact ⟨e, he, rfl, rfl⟩

/-- One dispatch brings something new for one engine or train at most. -/
theorem grows_dispatch (h : Sound store) (now : Nat) (u : Update) :
    ∃ k, Grows (OneMotive k) store (store.dispatch now u).state := by
  unfold dispatch
  split
  · exact grows_route h now _
  · repeat' split
    · exact ⟨(.engine, 0), grows_applyToAll_command h (by decide) now _⟩
    · exact ⟨(.engine, 0), grows_applyToAll_command h (by decide) now _⟩
    · exact ⟨(.engine, 0), grows_applyToAll_command h (List.nodup_singleton _) now _⟩
    · exact grows_route h now _

/-! ## Runs -/

/-- The number that the road number of the component spells that is filed under an address. -/
def spelled? (store : Store) (scope : Scope) (a : UInt16) : Option UInt16 :=
  (store.filed? scope a).bind fun e => e.state.profile.spelledAddress?

/-- The second address of an engine or a train with an address of one or two digits is the number of four digits, or of
three, that its road number spells. -/
theorem spelled?_eq_some (hdistinct : store.keys.Nodup) (hmotive : scope.isMotive = true) (ha : a ≤ 99)
    (hn : 100 ≤ n ∧ n ≤ 9999) :
    store.spelled? scope a = some n ↔ ∃ e ∈ store.entries, e.key = (scope, a) ∧ e.alias? = some n := by
  have halias : ∀ e : Entry, e.key = (scope, a) →
      (e.alias? = some n ↔ e.state.profile.spelledAddress? = some n) := by
    intro e hkey
    cases hkey
    rw [Entry.alias?, if_pos ⟨hmotive, ha⟩, Option.filter_eq_some_iff]
    exact and_iff_left (decide_eq_true hn)
  rw [spelled?, Option.bind_eq_some_iff]
  constructor
  · rintro ⟨e, hfiled, hspelled⟩
    obtain ⟨hmem, hkey⟩ := filed?_eq_some hfiled
    exact ⟨e, hmem, hkey, (halias e hkey).mpr hspelled⟩
  · rintro ⟨e, hmem, hkey, hnumber⟩
    refine ⟨e, ?_, (halias e hkey).mp hnumber⟩
    cases hkey
    exact filed?_of_mem hdistinct hmem

/-- What an address finds it finds for good. -/
theorem place?_run (h : Sound store) (hplace : store.place? scope n = some a) (told : List (Nat × Update)) :
    (store.run told).place? scope n = some a := by
  induction told generalizing store with
  | nil => exact hplace
  | cons u rest ih =>
      obtain ⟨k, hgrows⟩ := grows_dispatch h u.1 u.2
      exact ih (sound_moves h (moves_dispatch u.1 u.2 store)) (hgrows.kept hplace)

/-- A number that an engine or a train gets by a dispatch finds it, unless the number found another one before. -/
theorem place?_dispatch (h : Sound store) (hmotive : scope.isMotive = true) (ha : a ≤ 99) (hn : 100 ≤ n ∧ n ≤ 9999)
    (hbefore : store.spelled? scope a ≠ some n) (hafter : (store.dispatch now u).state.spelled? scope a = some n) :
    (store.dispatch now u).state.place? scope n = some a ∨ ∃ b, store.place? scope n = some b ∧ b ≠ a := by
  have hsound := sound_moves h (moves_dispatch now u store)
  obtain ⟨k, hgrows⟩ := grows_dispatch h now u
  generalize (store.dispatch now u).state = later at hafter hsound hgrows ⊢
  cases hplace : store.place? scope n with
  | some b =>
      by_cases hown : b = a
      · exact Or.inl (hgrows.kept (hown ▸ hplace))
      · exact Or.inr ⟨b, rfl, hown⟩
  | none =>
      -- The component that has a new number and the one that the number finds now are both what the dispatch was about.
      obtain ⟨e, hmem, hkey, halias⟩ := (spelled?_eq_some hsound.distinct hmotive ha hn).mp hafter
      have hk : (scope, a) = k := by
        rcases hgrows.numbered e hmem with htouched | ⟨old, hold, hkey', halias'⟩
        · rw [hkey] at htouched
          exact htouched hmotive
        · exact absurd ((spelled?_eq_some h.distinct hmotive ha hn).mpr
            ⟨old, hold, hkey'.trans hkey, halias'.trans halias⟩) hbefore
      have hscope : e.scope = scope := congrArg Prod.fst hkey
      have hfinds := (isSome_query_iff hsound.homes).mpr (hsound.numbered e hmem n halias)
      obtain ⟨other, hother⟩ := Option.isSome_iff_exists.mp hfinds
      rw [hscope] at hother
      have hfound := place?_of_query hother
      rcases hgrows.found hfound with hold | htouched
      · rw [hplace] at hold
        cases hold
      · have hsame : other.address = a := congrArg Prod.snd ((htouched hmotive).trans hk.symm)
        exact Or.inl (hsame ▸ hfound)

/-- After a run, a number that an engine or a train has finds it, unless the number found another one at a time when it
was not its own. -/
theorem place?_number (rules : Rules) (told : List (Nat × Update)) (hmotive : scope.isMotive = true) (ha : a ≤ 99)
    (hn : 100 ≤ n ∧ n ≤ 9999) (h : ((empty rules).run told).spelled? scope a = some n) :
    ((empty rules).run told).place? scope n = some a ∨
      ∃ before after b, told = before ++ after ∧ ((empty rules).run before).place? scope n = some b ∧ b ≠ a ∧
        ((empty rules).run before).spelled? scope a ≠ some n := by
  induction told using List.reverseRecOn with
  | nil => cases h
  | append_singleton told u ih =>
      have hsound : Sound ((empty rules).run told) := sound_run (sound_empty rules) told
      rw [run_append] at h ⊢
      by_cases hbefore : ((empty rules).run told).spelled? scope a = some n
      · rcases ih hbefore with hplace | ⟨before, after, b, rfl, hother⟩
        · exact Or.inl (place?_run hsound hplace [u])
        · exact Or.inr ⟨before, after ++ [u], b, List.append_assoc before after [u], hother⟩
      · rcases place?_dispatch hsound hmotive ha hn hbefore h with hplace | ⟨b, hb, hne⟩
        · exact Or.inl hplace
        · exact Or.inr ⟨told, [u], b, rfl, hb, hne, hbefore⟩

/-- Take any store after any run of dispatches, and an engine or a train filed under an address of one or two digits
whose road number spells a number from 100 to 9999. The number finds a component. It finds the same one as the address,
unless there was a time in the run when the road number did not spell this number and the number found another one. -/
theorem found_by_number (rules : Rules) (told : List (Nat × Update)) {store : Store}
    (hstore : (empty rules).run told = store) {scope : Scope} (hmotive : scope.isMotive = true) {a n : UInt16}
    (ha : a ≤ 99) (hn : 100 ≤ n ∧ n ≤ 9999) (h : store.spelled? scope a = some n) :
    (store.query scope n).isSome = true ∧
      (store.query scope n ≠ store.query scope a ↔
        ∃ before after other, told = before ++ after ∧ ((empty rules).run before).query scope n = some other ∧
          other.address ≠ a ∧ ((empty rules).run before).spelled? scope a ≠ some n) := by
  have hsound : Sound store := hstore ▸ sound_run (sound_empty rules) told
  obtain ⟨e, hmem, hkey, halias⟩ := (spelled?_eq_some hsound.distinct hmotive ha hn).mp h
  have hown : store.place? scope a = some a :=
    place?_eq_some.mpr ⟨hkey ▸ List.mem_map_of_mem hmem, Or.inl rfl⟩
  have hsome : (store.query scope n).isSome = true := by
    have hfinds := (isSome_query_iff hsound.homes).mpr (hsound.numbered e hmem n halias)
    rwa [show e.scope = scope from congrArg Prod.fst hkey] at hfinds
  refine ⟨hsome, fun hdiffers => ?_, ?_⟩
  · subst hstore
    rcases place?_number rules told hmotive ha hn h with hplace | ⟨before, after, b, htold, hb, hne, hnot⟩
    · exact absurd (query_eq_of_place? hsound.distinct hplace hown) hdiffers
    · obtain ⟨other, hother, rfl⟩ := Option.map_eq_some_iff.mp hb
      exact ⟨before, after, other, htold, hother, hne, hnot⟩
  · rintro ⟨before, after, other, rfl, hother, hne, -⟩ hsame
    -- What the number found at that time it finds now.
    have hfirst := place?_run (sound_run (sound_empty rules) before) (place?_of_query hother) after
    rw [← run_append, hstore, place?, hsame] at hfirst
    rw [place?, hfirst] at hown
    exact hne (Option.some.inj hown)

/-- Engine 12 gets the number 1234 and is found by it, also after engine 13 got the same number. -/
theorem found_by_number_first :
    let record (recordNo : UInt8) : Update := .message (.record
      ⟨recordNo, RecordMessage.writeFlags, 0, 0, .motive .engine 8 { MotiveRecord.unknown with number := some "1234" }⟩)
    let store := (empty ⟨.stock, .standard⟩).run [(0, record 12), (1, record 13)]
    store.spelled? .engine 12 = some 1234 ∧ (store.query .engine 1234).isSome = true ∧
      store.query .engine 1234 = store.query .engine 12 := by
  intro record store
  have hspelled : store.spelled? .engine 12 = some 1234 := by decide +kernel
  obtain ⟨hsome, hdiffers⟩ := found_by_number ⟨.stock, .standard⟩ [(0, record 12), (1, record 13)] rfl rfl
    (by decide) (by decide) hspelled
  refine ⟨hspelled, hsome, by_contra fun hne => ?_⟩
  obtain ⟨before, after, other, htold, hother, hnot, -⟩ := hdiffers.mp hne
  -- At no time does the number find an engine other than 12.
  have hnone : ∀ told ∈ [(0, record 12), (1, record 13)].inits,
      ((((empty ⟨.stock, .standard⟩).run told).query .engine 1234).map Entry.address).getD 12 = 12 := by
    decide +kernel
  have htwelve := hnone before ((List.mem_inits _ _).mpr ⟨after, htold.symm⟩)
  rw [hother] at htwelve
  exact hnot htwelve

/-- A number does not always find the engine that has it: engines 12 and 13 both have the number 1234, and it finds
engine 12; engine 1234 is filed by a command before engine 12 gets its number, and the number finds engine 1234. -/
theorem found_by_number_other :
    let record (recordNo : UInt8) : Update := .message (.record
      ⟨recordNo, RecordMessage.writeFlags, 0, 0, .motive .engine 8 { MotiveRecord.unknown with number := some "1234" }⟩)
    let shared := (empty ⟨.stock, .standard⟩).run [(0, record 12), (1, record 13)]
    let taken := (empty ⟨.stock, .standard⟩).run
      [(0, .command ⟨.engine .legacy .blowHorn, 1234, none, .engine⟩), (1, record 12)]
    (shared.spelled? .engine 13 = some 1234 ∧ shared.query .engine 1234 ≠ shared.query .engine 13) ∧
      (taken.spelled? .engine 12 = some 1234 ∧ taken.query .engine 1234 ≠ taken.query .engine 12) := by
  intro record shared taken
  refine ⟨⟨?_, ?_⟩, ?_, ?_⟩ <;> decide +kernel

end Store
end RailLayout
