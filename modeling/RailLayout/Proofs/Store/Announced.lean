import RailLayout.Proofs.Store.Changes
import RailLayout.Proofs.Store.Listed
import RailLayout.Store.Feed

/-!
What an observer hears of changes. Over a run of dispatches every change is announced once, under an address that finds
the component that changed. This is the address that the component is filed under, unless a sensor track reports an
engine by its second address: then the engine's change is announced under this one (`Store.announced_iff`).
-/

namespace RailLayout

namespace EventFeed

/-- The addresses that the waiting events say have changed, oldest first. -/
def updates (feed : EventFeed) : List (Scope × UInt16) := feed.waiting.filterMap StoreEvent.updated?

theorem waiting_publish {feed : EventFeed} {events : List StoreEvent} (h : (feed.publish events).lost = 0) :
    feed.lost = 0 ∧ (feed.publish events).waiting = feed.waiting ++ events := by
  obtain ⟨hlost, hexcess⟩ := Nat.add_eq_zero_iff.mp h
  refine ⟨hlost, ?_⟩
  rw [publish, hexcess]
  rfl

end EventFeed

namespace Store

variable {store : Store} {told : List (Nat × Update)}

/-! ## Runs -/

/-- Give updates in order, each at its time. -/
def tellAll (told : List (Nat × Update)) (store : Store) : Reaction Store :=
  Reaction.forEach (fun t => dispatch t.1 t.2) told store

theorem state_tellAll (told : List (Nat × Update)) (store : Store) : (store.tellAll told).state = store.run told := by
  induction told generalizing store with
  | nil => rfl
  | cons t rest ih => exact ih (store.dispatch t.1 t.2).state

/-- A store and the events that wait for an observer, after updates in order, each at its time. -/
def watch (feed : EventFeed) (told : List (Nat × Update)) (store : Store) : Store × EventFeed :=
  told.foldl (fun s t => ((s.1.dispatch t.1 t.2).state, s.2.publish (s.1.dispatch t.1 t.2).events)) (store, feed)

/-- An observer who has lost nothing has all events waiting. -/
theorem waiting_watch {feed : EventFeed} (hlost : (store.watch feed told).2.lost = 0) :
    feed.lost = 0 ∧ (store.watch feed told).2.waiting = feed.waiting ++ (store.tellAll told).events := by
  induction told generalizing store feed with
  | nil => exact ⟨hlost, (List.append_nil _).symm⟩
  | cons t rest ih =>
      obtain ⟨hfirst, hrest⟩ := ih hlost
      obtain ⟨hnone, hpublished⟩ := EventFeed.waiting_publish hfirst
      refine ⟨hnone, hrest.trans ?_⟩
      rw [hpublished, List.append_assoc]
      rfl

theorem state_watch (feed : EventFeed) (told : List (Nat × Update)) (store : Store) :
    (store.watch feed told).1 = store.run told := by
  induction told generalizing store feed with
  | nil => rfl
  | cons t rest ih => exact ih (feed.publish (store.dispatch t.1 t.2).events) (store.dispatch t.1 t.2).state

/-- Whether every sensor track that reports an engine, and changes it, names the address that it is filed under. -/
def Direct (store : Store) (told : List (Nat × Update)) : Prop :=
  ∀ before now u after, told = before ++ (now, u) :: after →
    ∀ c, (store.run before).sighted? now u = some c → c.told = c.place

theorem direct_cons {now : Nat} {u : Update} : store.Direct ((now, u) :: told) ↔
    (∀ c, store.sighted? now u = some c → c.told = c.place) ∧ (store.dispatch now u).state.Direct told := by
  constructor
  · intro h
    refine ⟨h [] now u told rfl, fun before later v after htold => ?_⟩
    exact h ((now, u) :: before) later v after (congrArg _ htold)
  · rintro ⟨hfirst, hrest⟩ before later v after htold
    cases before with
    | nil =>
        cases htold
        exact hfirst
    | cons t before =>
        cases htold
        exact hrest before later v after rfl

/-- Every change over a run is announced. -/
theorem announced_run (hsound : Sound store) (told : List (Nat × Update)) :
    ∃ changes, Announced store (store.tellAll told) changes ∧
      ((∀ c ∈ changes, c.told = c.place) ↔ store.Direct told) := by
  induction told generalizing store with
  | nil =>
      refine ⟨[], announced_nil rfl, fun _ before now u after htold => ?_, fun _ c hc => absurd hc List.not_mem_nil⟩
      exact absurd htold.symm (List.append_ne_nil_of_right_ne_nil before (List.cons_ne_nil _ _))
  | cons t rest ih =>
      obtain ⟨now, u⟩ := t
      obtain ⟨keys, hfirst⟩ := tallied_dispatch hsound now u
      obtain ⟨others, hrest, hdirect⟩ := ih (sound_moves hsound (moves_dispatch now u store))
      refine ⟨_, announced_andThen hfirst.announced hrest, ?_⟩
      simp only [List.forall_mem_append, List.forall_mem_map, Option.mem_toList, direct_cons, hdirect]
      exact and_congr_left fun _ => and_iff_right fun _ _ => rfl

section Announced

variable {r : Reaction Store} {changes : List Change} (h : Announced store r changes)
include h

/-- A change is announced under the address that the component is filed under, or under an address that is no place. -/
theorem Announced.told_mem_iff {c : Change} (hc : c ∈ changes) : c.told ∈ r.state.keys ↔ c.told = c.place := by
  obtain ⟨hscope, hplace⟩ := h.found c hc
  obtain ⟨hkey, hleads⟩ := place?_eq_some.mp hplace
  constructor
  · intro hin
    exact Prod.ext hscope (hleads.resolve_right fun hfree => hfree.1 hin)
  · intro hsame
    rw [hscope] at hkey
    rw [hsame]
    exact hkey

/-- The address under which a change is announced finds the component that changed. -/
theorem Announced.query_iff (hdistinct : r.state.keys.Nodup) {c : Change} (hc : c ∈ changes) {e : Entry}
    (he : e ∈ r.state.entries) : r.state.query c.told.1 c.told.2 = some e ↔ c.place = e.key := by
  obtain ⟨hscope, hplace⟩ := h.found c hc
  rw [query_eq_some_iff hdistinct, hplace, hscope, Option.some_inj]
  constructor
  · rintro ⟨-, hkind, haddress⟩
    exact Prod.ext hkind.symm haddress
  · intro hsame
    exact ⟨he, (congrArg Prod.fst hsame).symm, congrArg Prod.snd hsame⟩

theorem Announced.isSome_query {c : Change} (hc : c ∈ changes) :
    (r.state.query c.told.1 c.told.2).isSome = true := by
  obtain ⟨e, he, -⟩ := Option.map_eq_some_iff.mp (h.found c hc).2
  exact Option.isSome_of_eq_some he

end Announced

theorem settled_run (hsound : Sound store) (h : Settled store) (hsent : ∀ t ∈ told, t.2.Sent) :
    Settled (store.run told) := by
  induction told generalizing store with
  | nil => exact h
  | cons t rest ih =>
      obtain ⟨hfirst, hrest⟩ := List.forall_mem_cons.mp hsent
      exact ih (sound_moves hsound (moves_dispatch t.1 t.2 store)) (settled_dispatch hsound h hfirst) hrest

/-- Take a run of dispatches, and an observer from the start whose feed has lost nothing. Every component's version is
the number of updates announced under addresses that find it, and every such address finds a component. The addresses
are those that the components are filed under, which makes every component's version the number of updates announced
under its own address and leaves no other ones, exactly if no sensor track that changes an engine reports it by its
second address. In a run of what can be sent, a component is bound to the address that it is filed under. -/
theorem announced_iff (rules : Rules) (told : List (Nat × Update)) (wanted : Nat) {store : Store} {log : EventFeed}
    (hrun : (empty rules).watch (.empty wanted) told = (store, log)) (hlost : log.lost = 0) :
    (∀ e ∈ store.entries, (log.updates.countP fun key => store.query key.1 key.2 = some e) = e.version) ∧
      (∀ key ∈ log.updates, (store.query key.1 key.2).isSome = true) ∧
        (((∀ e ∈ store.entries, log.updates.count e.key = e.version) ∧ ∀ key ∈ log.updates, key ∈ store.keys) ↔
          (empty rules).Direct told) ∧
          ((∀ t ∈ told, t.2.Sent) → ∀ e ∈ store.entries, e.state.profile.address = some e.address) := by
  have hempty : Sound (empty rules) := sound_empty rules
  obtain ⟨changes, hchanges, hdirect⟩ := announced_run hempty told
  have hstate : ((empty rules).tellAll told).state = store := by
    rw [state_tellAll, ← state_watch (.empty wanted) told (empty rules), hrun]
  have hupdates : log.updates = changes.map Change.told := by
    have hwaiting := (waiting_watch (by rwa [hrun])).2
    rw [hrun] at hwaiting
    rw [← hchanges.told, EventFeed.updates, hwaiting]
    rfl
  have hdistinct : store.keys.Nodup := by
    rw [← hstate, state_tellAll]
    exact (sound_run hempty told).distinct
  have hversion : ∀ e ∈ store.entries, (changes.map Change.place).count e.key = e.version := by
    intro e he
    have hcount := hchanges.versions e.key
    rw [hstate, versionAt_of_mem hdistinct he] at hcount
    exact (hcount.trans (Nat.zero_add _)).symm
  rw [← hdirect, hupdates]
  rw [← hstate] at hdistinct hversion ⊢
  refine ⟨fun e he => ?_, fun key hkey => ?_, ⟨fun ⟨_, hown⟩ c hc => ?_, fun hown => ?_⟩, fun hsent e he => ?_⟩
  · rw [← hversion e he, List.countP_map, List.count, List.countP_map]
    refine List.countP_congr fun c hc => ?_
    exact (decide_eq_true_iff.trans (hchanges.query_iff hdistinct hc he)).trans beq_iff_eq.symm
  · obtain ⟨c, hc, rfl⟩ := List.mem_map.mp hkey
    exact hchanges.isSome_query hc
  · exact (hchanges.told_mem_iff hc).mp (hown c.told (List.mem_map_of_mem hc))
  · have hsame : changes.map Change.told = changes.map Change.place := List.map_congr_left hown
    refine ⟨fun e he => hsame ▸ hversion e he, List.forall_mem_map.mpr fun c hc => ?_⟩
    exact (hchanges.told_mem_iff hc).mpr (hown c hc)
  · rw [state_tellAll] at he
    have hsettled := settled_run hempty (settled_empty rules) hsent e.key (List.mem_map_of_mem he)
    rw [(placed_run rules told).bound e he]
    exact congrArg some hsettled

/-- Engine 12 gets the number 150, and sensor track 2 reports engine 150 and what it is called: engine 12 has changed
twice, is bound to its address still, and its second change is announced for engine 150. -/
theorem announced_iff_numbered :
    let number : Message := .memory
      ⟨12, MemoryMessage.writeFlags, 0, some .engine, 0x3F, 2, 4, [0x30, 0x31, 0x35, 0x30]⟩
    let product : Product := ⟨0, 0, 0, 0, 2019, "Santa Fe", "3751", 0, 0, 180, 0⟩
    let report : Message := .board .irda
      ⟨.irdaRx, 2, .own .data, none, .report (.data ⟨0, 0, 0, 150, 0, 0, 0, 0, 0, 0, some product⟩)⟩
    let told : List (Nat × Update) := [(0, .message number), (1, .message report)]
    let rules : Rules := ⟨.stock, .standard⟩
    let store := ((empty rules).watch (.empty 256) told).1
    let log := ((empty rules).watch (.empty 256) told).2
    store.entries.map (fun e => (e.key, e.version)) = [((.engine, 12), 2), ((.sensorTrack, 2), 1)] ∧
      log.updates = [(.engine, 12), (.sensorTrack, 2), (.engine, 150)] ∧
        (∀ e ∈ store.entries, (log.updates.countP fun key => store.query key.1 key.2 = some e) = e.version) ∧
          ¬(empty rules).Direct told ∧ ∀ e ∈ store.entries, e.state.profile.address = some e.address := by
  intro number product report told rules store log
  have hrun : (empty rules).watch (.empty 256) told = (store, log) := rfl
  obtain ⟨hfound, -, hdirect, hbound⟩ := announced_iff rules told 256 hrun (by decide +kernel)
  have hversions : store.entries.map (fun e => (e.key, e.version)) = [((.engine, 12), 2), ((.sensorTrack, 2), 1)] := by
    decide +kernel
  have hupdates : log.updates = [(.engine, 12), (.sensorTrack, 2), (.engine, 150)] := by decide +kernel
  refine ⟨hversions, hupdates, hfound, fun h => ?_, hbound ?_⟩
  · have hkey := (hdirect.mpr h).2 (.engine, 150) (by rw [hupdates]; decide)
    revert hkey
    decide +kernel
  · have hnumber : Message.ofFrame number.toFrame = .ok number := by decide +kernel
    have hreport : Message.ofFrame report.toFrame = .ok report := by decide +kernel
    exact List.forall_mem_cons.mpr ⟨.message hnumber, List.forall_mem_singleton.mpr (.message hreport)⟩

end Store
end RailLayout
