import RailLayout.Proofs.Store.Run

/-!
Where addresses lead, and how a store grows. What an address finds it finds for good, whatever is filed and whatever is
put back; and what it finds anew is what was filed or got a new number (`Store.Grows`).
-/

namespace RailLayout

namespace Store

variable {store later last : Store} {e : Entry} {scope : Scope} {n a : UInt16}

/-! ## Where an address leads -/

/-- The address that the component is filed under which an address finds. -/
def place? (store : Store) (scope : Scope) (n : UInt16) : Option UInt16 :=
  (store.query scope n).map Entry.address

theorem filed?_eq_some_iff {a : UInt16} :
    (store.filed? scope n).map Entry.address = some a ↔ n = a ∧ (scope, a) ∈ store.keys := by
  constructor
  · intro h
    obtain ⟨e, hfiled, rfl⟩ := Option.map_eq_some_iff.mp h
    have hkey := (filed?_eq_some hfiled).2
    have haddress : e.address = n := congrArg Prod.snd hkey
    rw [haddress]
    exact ⟨rfl, isSome_filed?.mp (by rw [hfiled]; rfl)⟩
  · rintro ⟨rfl, hkey⟩
    obtain ⟨e, hfiled⟩ := Option.isSome_iff_exists.mp (isSome_filed?.mpr hkey)
    rw [hfiled, Option.map_some, show e.address = n from congrArg Prod.snd (filed?_eq_some hfiled).2]

/-- An address leads to itself if a component is filed there, and else to where the first second address says. -/
theorem place?_eq_some : store.place? scope n = some a ↔
    (scope, a) ∈ store.keys ∧ (n = a ∨ (scope, n) ∉ store.keys ∧ store.home? scope n = some a) := by
  unfold place? query
  split
  · rename_i e hfiled
    have hkey : (scope, n) ∈ store.keys := isSome_filed?.mp (by rw [hfiled]; rfl)
    rw [← hfiled, filed?_eq_some_iff]
    constructor
    · exact fun h => ⟨h.2, Or.inl h.1⟩
    · exact fun h => ⟨h.2.resolve_right fun hhome => hhome.1 hkey, h.1⟩
  · rename_i hfiled
    have hfree : (scope, n) ∉ store.keys := by
      rw [← isSome_filed?, hfiled]
      exact Bool.false_ne_true
    rw [Option.map_bind, Option.bind_eq_some_iff]
    simp only [Function.comp_apply, filed?_eq_some_iff]
    constructor
    · rintro ⟨home, hhome, rfl, hkey⟩
      exact ⟨hkey, Or.inr ⟨hfree, hhome⟩⟩
    · rintro ⟨hkey, rfl | ⟨-, hhome⟩⟩
      · exact absurd hkey hfree
      · exact ⟨a, hhome, rfl, hkey⟩

theorem place?_of_query (h : store.query scope n = some e) : store.place? scope n = some e.address := by
  rw [place?, h]
  rfl

theorem query_eq_some_iff (hdistinct : store.keys.Nodup) :
    store.query scope n = some e ↔ e ∈ store.entries ∧ e.scope = scope ∧ store.place? scope n = some e.address := by
  constructor
  · exact fun h => ⟨(query_eq_some h).1, (query_eq_some h).2, place?_of_query h⟩
  · rintro ⟨hmem, rfl, hplace⟩
    obtain ⟨found, hfound, haddress⟩ := Option.map_eq_some_iff.mp hplace
    obtain ⟨hmem', hscope⟩ := query_eq_some hfound
    rw [hfound, eq_of_key_eq hdistinct hmem' hmem (Prod.ext hscope haddress)]

/-- Two addresses that lead to one place find the same. -/
theorem query_eq_of_place? (hdistinct : store.keys.Nodup) {m : UInt16} (hn : store.place? scope n = some a)
    (hm : store.place? scope m = some a) : store.query scope n = store.query scope m := by
  obtain ⟨e, he, rfl⟩ := Option.map_eq_some_iff.mp hn
  obtain ⟨hmem, hscope⟩ := query_eq_some he
  rw [he, (query_eq_some_iff hdistinct).mpr ⟨hmem, hscope, hm⟩]

theorem home?_append (store : Store) (new : Alias) (scope : Scope) (n : UInt16) :
    home? { store with aliases := store.aliases ++ [new] } scope n =
      (store.home? scope n).or (if new.scope = scope ∧ new.address = n then some new.home else none) := by
  unfold home?
  rw [List.find?_append, Option.map_or]
  congr 1
  by_cases hnew : new.scope = scope ∧ new.address = n
  · rw [if_pos hnew, List.find?_cons_of_pos (by simpa using hnew)]
    rfl
  · rw [if_neg hnew, List.find?_cons_of_neg (by simpa using hnew)]
    rfl

/-! ## What becomes new -/

/-- How one store came from another by what was done to components at some places: what an address finds it finds still,
what it finds now and did not find before is at these places, and components elsewhere have the second address that they
had. -/
structure Grows (touched : Scope × UInt16 → Prop) (store later : Store) : Prop where
  kept : ∀ {scope n a}, store.place? scope n = some a → later.place? scope n = some a
  found : ∀ {scope n a}, later.place? scope n = some a → store.place? scope n = some a ∨ touched (scope, a)
  numbered : ∀ e ∈ later.entries, touched e.key ∨ ∃ old ∈ store.entries, old.key = e.key ∧ old.alias? = e.alias?

variable {touched : Scope × UInt16 → Prop}

theorem grows_refl (store : Store) : Grows touched store store where
  kept h := h
  found h := Or.inl h
  numbered e he := Or.inr ⟨e, he, rfl, rfl⟩

theorem grows_trans (h : Grows touched store later) (h' : Grows touched later last) : Grows touched store last where
  kept hfound := h'.kept (h.kept hfound)
  found hfound := (h'.found hfound).elim h.found Or.inr
  numbered e he := by
    rcases h'.numbered e he with htouched | ⟨between, hmem, hkey, halias⟩
    · exact Or.inl htouched
    · rcases h.numbered between hmem with htouched | ⟨old, hold, hkey', halias'⟩
      · exact Or.inl (hkey ▸ htouched)
      · exact Or.inr ⟨old, hold, hkey'.trans hkey, halias'.trans halias⟩

/-- Nothing is found anew if nothing is filed. -/
theorem grows_of_same_places (hkeys : later.keys = store.keys) (haliases : later.aliases = store.aliases)
    (hnumbered : ∀ e ∈ later.entries, touched e.key ∨ ∃ old ∈ store.entries, old.key = e.key ∧ old.alias? = e.alias?) :
    Grows touched store later := by
  have hplace : ∀ {scope n a}, later.place? scope n = some a ↔ store.place? scope n = some a := by
    intro scope n a
    rw [place?_eq_some, place?_eq_some, hkeys, home?, home?, haliases]
  exact ⟨hplace.mpr, fun h => Or.inl (hplace.mp h), hnumbered⟩

theorem grows_mono {more : Scope × UInt16 → Prop} (h : Grows touched store later)
    (hmore : ∀ key, touched key → more key) : Grows more store later where
  kept := h.kept
  found hfound := (h.found hfound).imp_right (hmore _)
  numbered e he := (h.numbered e he).imp_left (hmore _)

theorem grows_put (htouched : touched e.key) : Grows touched store (store.put e) := by
  refine grows_of_same_places (keys_put store e) (aliases_put store e) fun x hx => ?_
  rcases mem_put hx with rfl | ⟨hx, -⟩
  · exact Or.inl htouched
  · exact Or.inr ⟨x, hx, rfl, rfl⟩

theorem grows_file (hfree : store.query e.scope e.address = none) (htouched : touched e.key) :
    Grows touched store (store.file e) := by
  refine ⟨fun {scope n a} h => ?_, fun {scope n a} h => ?_, fun x hx => ?_⟩
  · have hother : (scope, n) ≠ e.key := by
      intro hsame
      cases hsame
      rw [place?, hfree] at h
      cases h
    obtain ⟨hkey, hleads⟩ := place?_eq_some.mp h
    refine place?_eq_some.mpr ⟨mem_keys_file.mpr (Or.inr hkey), hleads.imp_right fun ⟨hn, hhome⟩ => ⟨?_, hhome⟩⟩
    exact fun hnew => hn ((mem_keys_file.mp hnew).resolve_left hother)
  · obtain ⟨hkey, hleads⟩ := place?_eq_some.mp h
    rcases mem_keys_file.mp hkey with hnew | hold
    · exact Or.inr (hnew ▸ htouched)
    · refine Or.inl (place?_eq_some.mpr ⟨hold, hleads.imp_right fun ⟨hn, hhome⟩ => ⟨?_, hhome⟩⟩)
      exact fun hin => hn (mem_keys_file.mpr (Or.inr hin))
  · rcases mem_file.mp hx with rfl | hx
    · exact Or.inl htouched
    · exact Or.inr ⟨x, hx, rfl, rfl⟩

theorem grows_fileAlias (htouched : touched e.key) : Grows touched store (store.fileAlias e) := by
  rcases fileAlias_cases store e with ⟨-, hsame⟩ | ⟨number, -, -, hnew⟩
  · rw [hsame]
    exact grows_refl store
  rw [hnew]
  refine ⟨fun {scope n a} h => ?_, fun {scope n a} h => ?_, fun x hx => Or.inr ⟨x, hx, rfl, rfl⟩⟩
  · obtain ⟨hkey, hleads⟩ := place?_eq_some.mp h
    refine place?_eq_some.mpr ⟨hkey, hleads.imp_right fun ⟨hn, hhome⟩ => ⟨hn, ?_⟩⟩
    rw [home?_append, hhome]
    rfl
  · obtain ⟨hkey, rfl | ⟨hn, hhome⟩⟩ := place?_eq_some.mp h
    · exact Or.inl (place?_eq_some.mpr ⟨hkey, Or.inl rfl⟩)
    · rw [home?_append] at hhome
      rcases Option.or_eq_some_iff.mp hhome with hold | ⟨-, hadded⟩
      · exact Or.inl (place?_eq_some.mpr ⟨hkey, Or.inr ⟨hn, hold⟩⟩)
      · obtain ⟨⟨hscope, -⟩, hhome⟩ := Option.ite_none_right_eq_some.mp hadded
        cases hhome
        exact Or.inr (hscope ▸ htouched)

theorem grows_getOrCreate (h : store.getOrCreate scope n = .ok (e, later)) (htouched : touched e.key) :
    Grows touched store later := by
  rcases getOrCreate_cases h with ⟨-, rfl⟩ | ⟨state, hfree, -, rfl, rfl⟩
  · exact grows_refl later
  · exact grows_file hfree htouched

end Store
end RailLayout
