import Mathlib.Data.Set.Card
import RailLayout.Proofs.Store.Spared

/-!
What a store lists. Components are filed in order, each under the address that it is bound to, and a second address is
a number from 100 to 9999 of an engine or a train that is filed under an address of one or two digits (`Store.Listed`,
`Store.settled_after`). So a listing has every component that an address of its kind finds once, by address, and the
size of a store is how many components there are to be found (`Store.listed_once`).
-/

namespace RailLayout

theorem Scope.rank_inj {scope other : Scope} (h : scope.rank = other.rank) : scope = other := by
  cases scope <;> cases other <;> first | rfl | cases h

/-! ## The order of places -/

/-- Whether a place comes before another one: by kind, then by address. -/
def Precedes (key other : Scope × UInt16) : Prop :=
  key.1.rank < other.1.rank ∨ (key.1 = other.1 ∧ key.2 < other.2)

theorem precedes_trans {key between other : Scope × UInt16} (h : Precedes key between) (h' : Precedes between other) :
    Precedes key other := by
  rcases h with hrank | ⟨hscope, haddress⟩
  · rcases h' with hrank' | ⟨hscope', -⟩
    · exact Or.inl (hrank.trans hrank')
    · exact Or.inl (hscope' ▸ hrank)
  · rcases h' with hrank' | ⟨hscope', haddress'⟩
    · exact Or.inl (hscope ▸ hrank')
    · exact Or.inr ⟨hscope.trans hscope', UInt16.lt_trans haddress haddress'⟩

/-- Of two places one comes first. -/
theorem precedes_of_not {key other : Scope × UInt16} (hne : key ≠ other) (h : ¬Precedes key other) :
    Precedes other key := by
  obtain ⟨hrank, haddress⟩ := not_or.mp h
  rcases Nat.lt_or_eq_of_le (Nat.le_of_not_lt hrank) with hless | hsame
  · exact Or.inl hless
  · have hscope : other.1 = key.1 := Scope.rank_inj hsame
    refine Or.inr ⟨hscope, ?_⟩
    have hle : other.2 ≤ key.2 := UInt16.not_lt.mp fun hlt => haddress ⟨hscope.symm, hlt⟩
    exact UInt16.lt_of_le_of_ne hle fun hsame => hne (Prod.ext hscope.symm hsame.symm)

theorem Entry.before_iff {e other : Entry} : e.before other = true ↔ Precedes e.key other.key :=
  decide_eq_true_iff

namespace Store

variable {store later : Store} {e : Entry} {scope : Scope} {n : UInt16} {now : Nat} {u : Update}

theorem ordered_insertEntry {entries : List Entry} (h : (entries.map Entry.key).Pairwise Precedes)
    (hnew : e.key ∉ entries.map Entry.key) : ((insertEntry e entries).map Entry.key).Pairwise Precedes := by
  induction entries with
  | nil => exact List.pairwise_singleton _ _
  | cons first rest ih =>
      obtain ⟨hfirst, hrest⟩ := List.pairwise_cons.mp h
      obtain ⟨hne, hnot⟩ := List.ne_and_not_mem_of_not_mem_cons hnew
      unfold insertEntry
      split
      · rename_i hbefore
        have hless := Entry.before_iff.mp hbefore
        refine List.pairwise_cons.mpr ⟨fun key hkey => ?_, h⟩
        rcases List.mem_cons.mp hkey with rfl | hin
        · exact hless
        · exact precedes_trans hless (hfirst key hin)
      · rename_i hbefore
        have hless : Precedes first.key e.key := precedes_of_not hne fun hless => hbefore (Entry.before_iff.mpr hless)
        refine List.pairwise_cons.mpr ⟨fun key hkey => ?_, ih hrest hnot⟩
        rcases List.mem_cons.mp (((insertEntry_perm e rest).map Entry.key).mem_iff.mp hkey) with rfl | hin
        · exact hless
        · exact hfirst key hin

/-! ## What each move keeps -/

/-- How the components of every store are filed, and what second addresses there are. -/
structure Listed (store : Store) : Prop where
  ordered : store.keys.Pairwise Precedes
  admitted : ∀ key ∈ store.keys, key.1.admits (key.1.bound key.2) = true
  numbers : ∀ a ∈ store.aliases, a.scope.isMotive = true ∧ (100 ≤ a.address ∧ a.address ≤ 9999) ∧ a.home ≤ 99

theorem listed_empty (rules : Rules) : Listed (empty rules) where
  ordered := .nil
  admitted _ hkey := absurd hkey List.not_mem_nil
  numbers _ ha := absurd ha List.not_mem_nil

theorem listed_put (h : Listed store) (e : Entry) : Listed (store.put e) where
  ordered := keys_put store e ▸ h.ordered
  admitted := keys_put store e ▸ h.admitted
  numbers := h.numbers

theorem listed_file {state : Component} (h : Listed store) (hfree : (scope, n) ∉ store.keys)
    (hbuilt : Component.build scope (some n) = .ok state) : Listed (store.file ⟨scope, n, state, 0⟩) where
  ordered := ordered_insertEntry h.ordered hfree
  admitted key hkey := by
    rcases mem_keys_file.mp hkey with rfl | hold
    · exact (Component.built_of_build hbuilt).admits _ (Scope.address_of_build hbuilt)
    · exact h.admitted key hold
  numbers := h.numbers

theorem listed_fileAlias (h : Listed store) (e : Entry) : Listed (store.fileAlias e) where
  ordered := keys_fileAlias store e ▸ h.ordered
  admitted := keys_fileAlias store e ▸ h.admitted
  numbers a ha := by
    rcases fileAlias_cases store e with ⟨-, hsame⟩ | ⟨number, hnumber, -, hnew⟩
    · exact h.numbers a (hsame ▸ ha)
    · rw [hnew] at ha
      rcases List.mem_append.mp ha with hin | hlast
      · exact h.numbers a hin
      · cases List.mem_singleton.mp hlast
        exact number_of_alias? hnumber

theorem listed_move (hsound : Sound store) (h : Listed store) (hmove : Move store later) : Listed later := by
  cases hmove with
  | file hfree hbuilt => exact listed_file h (not_mem_keys_of_free hsound.homes hfree) hbuilt
  | leave => exact listed_put h _
  | tell | see => exact listed_fileAlias (listed_put h _) _

theorem listed_after (rules : Rules) (actions : List Action) : Listed ((empty rules).after actions) :=
  after_invariant listed_move (fun _ => listed_empty _) (sound_empty rules) (listed_empty rules) actions

/-! ## Where components are filed -/

/-- Whether every component is filed under the address that it is bound to. -/
def Settled (store : Store) : Prop := ∀ key ∈ store.keys, key.1.bound key.2 = key.2

/-- What can be sent files components under addresses that they are bound to. -/
theorem settled_route (hsound : Sound store) (h : Settled store) (hsent : u.Sent) :
    Settled (store.route now u).state := by
  intro key hkey
  obtain ⟨e, he, rfl⟩ := List.mem_map.mp hkey
  have hspares := (independent_route hsound now u).spares
  by_cases hconcerned : store.Concerns u e.key
  · rcases hconcerned with ⟨scope, n, htarget, hplace⟩ | ⟨sighting, -, hplace⟩
    · cases hfound : store.place? scope n with
      | none =>
          rw [hplace, placeOf, hfound]
          exact Update.bound_of_sent hsent htarget
      | some a =>
          rw [hplace, placeOf, hfound]
          exact h (scope, a) (place?_eq_some.mp hfound).1
    · rw [hplace]
      rfl
  · exact h e.key (List.mem_map_of_mem ((hspares.same hconcerned).mp he))

theorem settled_dispatch (hsound : Sound store) (h : Settled store) (hsent : u.Sent) :
    Settled (store.dispatch now u).state := by
  have hall : ∀ {scopes : List Scope} (c : Command), scopes.Nodup →
      Settled (store.applyToAll now (.command c) scopes).state := by
    intro scopes c hscopes
    rw [Settled, keys_applyToAll_command hsound hscopes]
    exact h
  unfold dispatch
  split
  · exact settled_route hsound h hsent
  · repeat' split
    · exact hall _ (by decide)
    · exact hall _ (by decide)
    · exact hall _ (List.nodup_singleton _)
    · exact settled_route hsound h hsent

/-- Whether an action is a reset, or tells the store what can be sent. -/
inductive Action.Sent : Action → Prop where
  | tell (now : Nat) {u : Update} (h : u.Sent) : Sent (.tell now u)
  | clear : Sent .clear

theorem settled_empty (rules : Rules) : Settled (empty rules) := fun _ hkey => absurd hkey List.not_mem_nil

theorem settled_after (hsound : Sound store) (h : Settled store) (actions : List Action)
    (hsent : ∀ action ∈ actions, action.Sent) : Settled (store.after actions) := by
  induction actions generalizing store with
  | nil => exact h
  | cons action rest ih =>
      refine ih (sound_act hsound action) ?_ fun other hother => hsent other (List.mem_cons_of_mem action hother)
      cases hsent action List.mem_cons_self with
      | tell now hu => exact settled_dispatch hsound h hu
      | clear => exact settled_empty store.rules

/-! ## What is listed -/

/-- What there is to say of a component that an address finds: it is of the kind that was asked for and bound to the
address that it is filed under, which the kind admits; and the address is this one, or a second address. -/
structure Filed (store : Store) (scope : Scope) (n : UInt16) (e : Entry) : Prop where
  scope_eq : e.scope = scope
  state_scope : e.state.scope = scope
  bound : e.state.profile.address = some e.address
  admitted : scope.admits e.address = true
  key : n = e.address ∨ (scope.isMotive = true ∧ (100 ≤ n ∧ n ≤ 9999) ∧ e.address ≤ 99 ∧
    store.query scope e.address = some e)

theorem filed_of_query (hsound : Sound store) (hplaced : Placed store) (hlisted : Listed store)
    (hsettled : Settled store) (h : store.query scope n = some e) : store.Filed scope n e := by
  obtain ⟨hmem, rfl⟩ := query_eq_some h
  have hkey : e.key ∈ store.keys := List.mem_map_of_mem hmem
  have hbound : e.scope.bound e.address = e.address := hsettled e.key hkey
  refine ⟨rfl, (hsound.sound e hmem).scope_eq, ?_, ?_, ?_⟩
  · rw [hplaced.bound e hmem, hbound]
  · rw [← hbound]
    exact hlisted.admitted e.key hkey
  · rcases (place?_eq_some.mp (place?_of_query h)).2 with hown | ⟨-, hhome⟩
    · exact Or.inl hown
    · obtain ⟨hmotive, hnumber, hlow⟩ := hlisted.numbers _ (mem_of_home? hhome)
      exact Or.inr ⟨hmotive, hnumber, hlow, query_own hsound.distinct hmem⟩

theorem mem_ofScope_iff (hdistinct : store.keys.Nodup) :
    e ∈ store.ofScope scope ↔ ∃ n, store.query scope n = some e := by
  rw [ofScope, List.mem_filter, beq_iff_eq]
  constructor
  · rintro ⟨hmem, rfl⟩
    exact ⟨e.address, query_own hdistinct hmem⟩
  · rintro ⟨n, h⟩
    exact query_eq_some h

theorem pairwise_ofScope (h : Listed store) (scope : Scope) :
    (store.ofScope scope).Pairwise fun e other => e.address < other.address := by
  have hordered : store.entries.Pairwise fun e other => Precedes e.key other.key := List.pairwise_map.mp h.ordered
  refine (hordered.filter fun e => e.scope == scope).imp_of_mem fun {e other} he hother hprecedes => ?_
  have hscope : e.scope = other.scope :=
    (beq_iff_eq.mp (List.mem_filter.mp he).2).trans (beq_iff_eq.mp (List.mem_filter.mp hother).2).symm
  rcases hprecedes with hrank | ⟨-, haddress⟩
  · exact absurd (congrArg Scope.rank hscope) (Nat.ne_of_lt hrank)
  · exact haddress

theorem size_eq_ncard (hdistinct : store.keys.Nodup) :
    store.size = {e | ∃ scope n, store.query scope n = some e}.ncard := by
  have hset : {e | ∃ scope n, store.query scope n = some e} = (store.entries.toFinset : Set Entry) := by
    ext e
    rw [List.coe_toFinset]
    constructor
    · rintro ⟨scope, n, h⟩
      exact (query_eq_some h).1
    · exact fun he => ⟨e.scope, e.address, query_own hdistinct he⟩
  rw [hset, Set.ncard_coe_finset, List.toFinset_card_of_nodup (List.Nodup.of_map Entry.key hdistinct), size]

/-- Take any store after any dispatches of what can be sent, and any resets. A component that an address of a kind
finds is of this kind and is bound to the address that it is filed under, which the kind admits; an address other than
this one finds it only if it is a number from 100 to 9999 and the component is an engine or a train with an address up
to 99, by which it is found as well. So the components of a kind are listed by address, each of them once, and no other
ones; and the size of the store is the number of components that addresses find. -/
theorem listed_once (rules : Rules) (actions : List Action) (hsent : ∀ action ∈ actions, action.Sent) {store : Store}
    (hstore : (empty rules).after actions = store) :
    (∀ scope n e, store.query scope n = some e → store.Filed scope n e) ∧
      (∀ scope, (store.ofScope scope).Pairwise (fun e other => e.address < other.address) ∧
        ∀ e, e ∈ store.ofScope scope ↔ ∃ n, store.query scope n = some e) ∧
        store.size = {e | ∃ scope n, store.query scope n = some e}.ncard := by
  subst hstore
  have hempty : Sound (empty rules) := sound_empty rules
  have hsound : Sound ((empty rules).after actions) := sound_after rules actions
  have hplaced : Placed ((empty rules).after actions) :=
    after_invariant placed_move (fun _ => placed_empty _) hempty (placed_empty rules) actions
  have hlisted : Listed ((empty rules).after actions) :=
    after_invariant listed_move (fun _ => listed_empty _) hempty (listed_empty rules) actions
  have hsettled : Settled ((empty rules).after actions) := settled_after hempty (settled_empty rules) actions hsent
  refine ⟨fun scope n e h => ?_, fun scope => ⟨pairwise_ofScope hlisted scope, fun e => ?_⟩, ?_⟩
  · exact filed_of_query hsound hplaced hlisted hsettled h
  · exact mem_ofScope_iff hsound.distinct
  · exact size_eq_ncard hsound.distinct

/-- Engine 12 gets the number 1234 after a reset, and the switch and the engine with lower addresses come later: the
number finds engine 12, and each of the three components is listed once. -/
theorem listed_once_numbered :
    let horn : Update := .command ⟨.engine .legacy .blowHorn, 7, none, .engine⟩
    let number : Update := .message (.memory
      ⟨12, MemoryMessage.writeFlags, 0, some .engine, 0x3F, 2, 4, [0x31, 0x32, 0x33, 0x34]⟩)
    let out : Update := .command ⟨.switch .out, 3, none, .switch⟩
    let actions : List Action := [.tell 0 horn, .clear, .tell 1 number, .tell 2 out, .tell 3 horn]
    let store := (empty ⟨.stock, .standard⟩).after actions
    (∃ e, store.query .engine 1234 = some e ∧ e.address = 12 ∧ store.Filed .engine 1234 e) ∧
      (store.ofScope .engine).map Entry.address = [7, 12] ∧
        {e | ∃ scope n, store.query scope n = some e}.ncard = 3 := by
  intro horn number out actions store
  have hhorn : horn.Sent := .command (show Command.build (.engine .legacy .blowHorn) 7 none none = .ok _ from rfl)
  have hout : out.Sent := .command (show Command.build (.switch .out) 3 none none = .ok _ from rfl)
  have hnumber : number.Sent :=
    .message (show Message.ofFrame ⟨.baseMemory, [12, 0xC2, 0, 1, 0x3F, 0, 0, 0, 2, 4, 0x31, 0x32, 0x33, 0x34]⟩ =
      .ok _ from by decide +kernel)
  have hsent : ∀ action ∈ actions, action.Sent := by
    simp only [actions, List.forall_mem_cons]
    exact ⟨.tell 0 hhorn, .clear, .tell 1 hnumber, .tell 2 hout, .tell 3 hhorn, fun _ h => absurd h List.not_mem_nil⟩
  have hstore : (empty ⟨.stock, .standard⟩).after actions = store := rfl
  obtain ⟨hfiled, -, hsize⟩ := listed_once ⟨.stock, .standard⟩ actions hsent hstore
  have hfound : (store.query .engine 1234).map Entry.address = some 12 := by decide +kernel
  obtain ⟨e, he, haddress⟩ := Option.map_eq_some_iff.mp hfound
  refine ⟨⟨e, he, haddress, hfiled .engine 1234 e he⟩, by decide +kernel, ?_⟩
  rw [← hsize]
  decide +kernel

end Store
end RailLayout
