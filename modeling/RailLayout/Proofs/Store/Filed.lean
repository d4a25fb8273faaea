import Mathlib.Data.List.Nodup
import RailLayout.Store.Basic

/-!
What is filed in a store and what an address finds. Putting a component in its place moves nothing else, and filing one
adds only its own place; so what an address found it still finds (`Store.finds_put`, `Store.finds_file`,
`Store.finds_fileAlias`).
-/

namespace RailLayout

namespace Entry

/-- The place of a component: its kind, and the address that it is filed under. -/
def key (e : Entry) : Scope × UInt16 := (e.scope, e.address)

theorem isAt_iff {e : Entry} {scope : Scope} {address : UInt16} :
    e.isAt scope address = true ↔ e.key = (scope, address) := by
  simp only [isAt, key, Bool.and_eq_true, beq_iff_eq, Prod.mk.injEq]

end Entry

namespace Store

variable {store : Store} {e other : Entry} {scope : Scope} {address : UInt16}

/-- The places at which components are filed. -/
def keys (store : Store) : List (Scope × UInt16) := store.entries.map Entry.key

theorem filed?_eq_some (h : store.filed? scope address = some e) : e ∈ store.entries ∧ e.key = (scope, address) := by
  unfold filed? at h
  have hat := List.find?_some h
  exact ⟨List.mem_of_find?_eq_some h, Entry.isAt_iff.mp hat⟩

theorem isSome_filed? : (store.filed? scope address).isSome = true ↔ (scope, address) ∈ store.keys := by
  simp only [filed?, List.find?_isSome, Entry.isAt_iff, keys, List.mem_map]

theorem eq_of_key_eq (hdistinct : store.keys.Nodup) (he : e ∈ store.entries) (hother : other ∈ store.entries)
    (h : e.key = other.key) : e = other :=
  List.inj_on_of_nodup_map hdistinct he hother h

theorem filed?_of_mem (hdistinct : store.keys.Nodup) (he : e ∈ store.entries) :
    store.filed? e.scope e.address = some e := by
  have hfound : (e.scope, e.address) ∈ store.keys := List.mem_map_of_mem he
  obtain ⟨found, hfiled⟩ := Option.isSome_iff_exists.mp (isSome_filed?.mpr hfound)
  obtain ⟨hmem, hkey⟩ := filed?_eq_some hfiled
  rw [hfiled, eq_of_key_eq hdistinct hmem he hkey]

theorem query_own (hdistinct : store.keys.Nodup) (he : e ∈ store.entries) :
    store.query e.scope e.address = some e := by
  rw [query, filed?_of_mem hdistinct he]

/-- What leads from an address to another one is filed as a second address. -/
theorem mem_of_home? {home : UInt16} (h : store.home? scope address = some home) :
    (⟨scope, address, home⟩ : Alias) ∈ store.aliases := by
  obtain ⟨a, ha, rfl⟩ := Option.map_eq_some_iff.mp h
  have hat := List.find?_some ha
  simp only [Bool.and_eq_true, beq_iff_eq] at hat
  obtain ⟨rfl, rfl⟩ := hat
  exact List.mem_of_find?_eq_some ha

theorem query_eq_some (h : store.query scope address = some e) : e ∈ store.entries ∧ e.scope = scope := by
  unfold query at h
  split at h
  · rename_i hfiled
    cases h
    obtain ⟨hmem, hkey⟩ := filed?_eq_some hfiled
    exact ⟨hmem, congrArg Prod.fst hkey⟩
  · obtain ⟨home, -, hfiled⟩ := Option.bind_eq_some_iff.mp h
    obtain ⟨hmem, hkey⟩ := filed?_eq_some hfiled
    exact ⟨hmem, congrArg Prod.fst hkey⟩

/-! ## What an address finds -/

/-- Whether an address of a kind is the place of a component, or a second address of one. -/
def Finds (store : Store) (scope : Scope) (address : UInt16) : Prop :=
  (scope, address) ∈ store.keys ∨ ∃ a ∈ store.aliases, a.scope = scope ∧ a.address = address

/-- Whether every second address belongs to a component that is filed. -/
def Homes (store : Store) : Prop := ∀ a ∈ store.aliases, (a.scope, a.home) ∈ store.keys

theorem isSome_query_iff (h : Homes store) : (store.query scope address).isSome = true ↔ store.Finds scope address := by
  unfold query
  split
  · rename_i found hfiled
    exact ⟨fun _ => Or.inl (isSome_filed?.mp (Option.isSome_iff_exists.mpr ⟨found, hfiled⟩)), fun _ => rfl⟩
  · rename_i hfree
    have hnot : (scope, address) ∉ store.keys := by
      rw [← isSome_filed?, hfree]
      exact Bool.false_ne_true
    constructor
    · intro hfound
      obtain ⟨e, he⟩ := Option.isSome_iff_exists.mp hfound
      obtain ⟨home, hhome, -⟩ := Option.bind_eq_some_iff.mp he
      exact Or.inr ⟨_, mem_of_home? hhome, rfl, rfl⟩
    · intro hfinds
      obtain ⟨a, ha, hscope, haddress⟩ := hfinds.resolve_left hnot
      have hsome : (store.aliases.find? fun a => a.scope == scope && a.address == address).isSome = true :=
        List.find?_isSome.mpr ⟨a, ha, by simp only [hscope, haddress, beq_self_eq_true, Bool.and_self]⟩
      obtain ⟨first, hfirst⟩ := Option.isSome_iff_exists.mp hsome
      have hat := List.find?_some hfirst
      simp only [Bool.and_eq_true, beq_iff_eq] at hat
      have hfiled := isSome_filed?.mpr (hat.1 ▸ h first (List.mem_of_find?_eq_some hfirst))
      rw [home?, hfirst]
      exact hfiled

/-- An address that finds nothing is the place of no component. -/
theorem not_mem_keys_of_free (h : Homes store) (hfree : store.query scope address = none) :
    (scope, address) ∉ store.keys := by
  intro hkey
  have hsome := (isSome_query_iff h).mpr (Or.inl hkey)
  rw [hfree] at hsome
  cases hsome

/-! ## Putting -/

@[simp] theorem keys_put (store : Store) (e : Entry) : (store.put e).keys = store.keys := by
  simp only [keys, put, List.map_map]
  refine List.map_congr_left fun old _ => ?_
  simp only [Function.comp]
  split
  · rename_i hat
    exact (Entry.isAt_iff.mp hat).symm
  · rfl

@[simp] theorem aliases_put (store : Store) (e : Entry) : (store.put e).aliases = store.aliases := rfl

theorem mem_put {x : Entry} (h : x ∈ (store.put e).entries) : x = e ∨ (x ∈ store.entries ∧ x.key ≠ e.key) := by
  obtain ⟨old, hold, rfl⟩ := List.mem_map.mp h
  split
  · exact Or.inl rfl
  · rename_i haway
    exact Or.inr ⟨hold, fun hkey => haway (Entry.isAt_iff.mpr hkey)⟩

theorem mem_put_of_ne (h : other ∈ store.entries) (hkey : other.key ≠ e.key) : other ∈ (store.put e).entries := by
  refine List.mem_map.mpr ⟨other, h, if_neg fun hat => hkey ?_⟩
  exact Entry.isAt_iff.mp hat

theorem finds_put : (store.put e).Finds scope address ↔ store.Finds scope address := by
  simp only [Finds, keys_put, aliases_put]

theorem homes_put (h : Homes store) (e : Entry) : Homes (store.put e) := by
  simpa only [Homes, keys_put, aliases_put] using h

/-! ## Filing -/

theorem insertEntry_perm (e : Entry) (entries : List Entry) : (insertEntry e entries).Perm (e :: entries) := by
  induction entries with
  | nil => exact .refl _
  | cons first rest ih =>
      unfold insertEntry
      split
      · exact .refl _
      · exact (ih.cons first).trans (.swap e first rest)

theorem mem_file {x : Entry} : x ∈ (store.file e).entries ↔ x = e ∨ x ∈ store.entries :=
  (insertEntry_perm e store.entries).mem_iff.trans List.mem_cons

theorem mem_keys_file {key : Scope × UInt16} : key ∈ (store.file e).keys ↔ key = e.key ∨ key ∈ store.keys :=
  ((insertEntry_perm e store.entries).map Entry.key).mem_iff.trans List.mem_cons

theorem nodup_keys_file (h : store.keys.Nodup) (hfree : e.key ∉ store.keys) : (store.file e).keys.Nodup :=
  ((insertEntry_perm e store.entries).map Entry.key).nodup_iff.mpr (List.nodup_cons.mpr ⟨hfree, h⟩)

theorem finds_file (h : store.Finds scope address) (e : Entry) : (store.file e).Finds scope address :=
  h.imp_left fun hkey => mem_keys_file.mpr (Or.inr hkey)

theorem homes_file (h : Homes store) (e : Entry) : Homes (store.file e) :=
  fun a ha => mem_keys_file.mpr (Or.inr (h a ha))

/-! ## Second addresses -/

/-- Filing a second address, where there is one to file. -/
theorem fileAlias_cases (store : Store) (e : Entry) :
    ((∀ n, e.alias? = some n → (store.query e.scope n).isSome = true) ∧ store.fileAlias e = store) ∨
      ∃ n, e.alias? = some n ∧ store.query e.scope n = none ∧
        store.fileAlias e = { store with aliases := store.aliases ++ [⟨e.scope, n, e.address⟩] } := by
  unfold fileAlias
  split
  · rename_i hnone
    refine Or.inl ⟨fun n hn => ?_, rfl⟩
    rw [hnone] at hn
    cases hn
  · rename_i number hnumber
    split
    · rename_i found hfound
      refine Or.inl ⟨fun n hn => ?_, rfl⟩
      rw [hnumber] at hn
      cases hn
      exact Option.isSome_iff_exists.mpr ⟨found, hfound⟩
    · rename_i hfree
      exact Or.inr ⟨number, hnumber, hfree, rfl⟩

@[simp] theorem entries_fileAlias (store : Store) (e : Entry) : (store.fileAlias e).entries = store.entries := by
  rcases fileAlias_cases store e with ⟨-, hsame⟩ | ⟨n, -, -, hnew⟩
  · rw [hsame]
  · rw [hnew]

@[simp] theorem keys_fileAlias (store : Store) (e : Entry) : (store.fileAlias e).keys = store.keys := by
  rw [keys, entries_fileAlias, keys]

theorem homes_fileAlias (h : Homes store) (hfiled : e.key ∈ store.keys) : Homes (store.fileAlias e) := by
  intro a ha
  rw [keys_fileAlias]
  rcases fileAlias_cases store e with ⟨-, hsame⟩ | ⟨n, -, -, hnew⟩
  · exact h a (hsame ▸ ha)
  · rw [hnew] at ha
    rcases List.mem_append.mp ha with hold | hlast
    · exact h a hold
    · cases List.mem_singleton.mp hlast
      exact hfiled

theorem finds_fileAlias (h : store.Finds scope address) (e : Entry) : (store.fileAlias e).Finds scope address := by
  rcases h with hkey | ⟨a, ha, hat⟩
  · exact Or.inl (by rwa [keys_fileAlias])
  · refine Or.inr ⟨a, ?_, hat⟩
    rcases fileAlias_cases store e with ⟨-, hsame⟩ | ⟨n, -, -, hnew⟩
    · rwa [hsame]
    · rw [hnew]
      exact List.mem_append_left _ ha

/-- The four-digit number of a component finds one after it was filed as a second address. -/
theorem finds_alias (h : Homes store) {n : UInt16} (hn : e.alias? = some n) : (store.fileAlias e).Finds e.scope n := by
  rcases fileAlias_cases store e with ⟨hfound, hsame⟩ | ⟨number, hnumber, -, hnew⟩
  · rw [hsame]
    exact (isSome_query_iff h).mp (hfound n hn)
  · rw [hn] at hnumber
    cases hnumber
    refine Or.inr ⟨⟨e.scope, n, e.address⟩, ?_, rfl, rfl⟩
    rw [hnew]
    exact List.mem_append_right _ List.mem_cons_self

end Store
end RailLayout
