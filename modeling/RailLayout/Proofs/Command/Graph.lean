import RailLayout.Command.Graph
import RailLayout.Proofs.Command.TriggerSet

/-!
A graph is the relations that were registered. An index files a relation if it has, under each trigger, the set of
those that the trigger is related to (`TriggerIndex.Files`). Whatever calls make a graph, each of its two relations is
filed both ways (`EffectGraph.holds_ofCalls`), and an index is determined by the relation that it files
(`TriggerIndex.Files.get?_eq`); so answers are read off the relations, and nothing else about the calls matters
(`EffectGraph.answers_registered`).
-/

namespace RailLayout

/-- What a trigger is a spelling of is no spelling of another one. -/
theorem Trigger.canonical?_of_canonical? {t canonical : Trigger} (h : t.canonical? = some canonical) :
    canonical.canonical? = none := by
  have hplain : ∀ entry ∈ aliases, entry.2.canonical? = none := by decide
  unfold canonical? at h
  split at h
  · obtain ⟨entry, hentry, rfl⟩ := Option.map_eq_some_iff.mp h
    exact hplain entry (List.mem_of_find?_eq_some hentry)
  · cases h

/-! ## Indexes -/

namespace TriggerIndex

variable {index other : TriggerIndex} {t u : Trigger} {R : Trigger → Trigger → Prop}

theorem get?_cons (entry : Trigger × TriggerSet) (rest : TriggerIndex) (key : Trigger) :
    get? (entry :: rest) key = if entry.1 = key then some entry.2 else get? rest key := by
  unfold get?
  by_cases h : entry.1 = key
  · rw [if_pos h, List.find?_cons_of_pos (by simpa using h), Option.map_some]
  · rw [if_neg h, List.find?_cons_of_neg (by simpa using h)]

/-- Only the set that is filed under the trigger changes. -/
theorem get?_add (index : TriggerIndex) (t u key : Trigger) :
    (index.add t u).get? key =
      if key = t then some (TriggerSet.insert u ((index.get? t).getD [])) else index.get? key := by
  induction index with
  | nil =>
      rw [add, get?_cons]
      simp only [eq_comm (a := t)]
      rfl
  | cons entry rest ih =>
      unfold add
      by_cases hentry : entry.1 = t
      · simp only [hentry, if_true, get?_cons, Option.getD_some, eq_comm (a := t)]
        split <;> rfl
      · simp only [if_neg hentry, get?_cons, ih]
        by_cases hkey : key = t
        · subst hkey
          simp only [if_neg hentry, if_true]
        · simp only [if_neg hkey]

/-- Whether an index files a relation: the triggers that a trigger is related to are filed under it in the order of
ranks, and no set is filed that is empty. -/
structure Files (index : TriggerIndex) (R : Trigger → Trigger → Prop) : Prop where
  mem_iff : ∀ t u, u ∈ (index.get? t).getD [] ↔ R t u
  ascending : ∀ t, TriggerSet.Ascending ((index.get? t).getD [])
  ne_nil : ∀ t, index.get? t ≠ some []

theorem files_empty : Files [] fun _ _ => False where
  mem_iff _ _ := iff_of_false List.not_mem_nil id
  ascending _ := .nil
  ne_nil _ h := nomatch h

theorem files_add (h : Files index R) (t u : Trigger) : Files (index.add t u) fun a b => R a b ∨ (a = t ∧ b = u) := by
  refine ⟨fun a b => ?_, fun a => ?_, fun a => ?_⟩ <;> rw [get?_add] <;> by_cases ha : a = t
  · subst ha
    rw [if_pos rfl, Option.getD_some, TriggerSet.mem_insert, h.mem_iff, or_comm, eq_self, true_and]
  · rw [if_neg ha, h.mem_iff, or_iff_left fun hsame => ha hsame.1]
  · rw [if_pos ha]
    exact TriggerSet.ascending_insert (h.ascending t) u
  · rw [if_neg ha]
    exact h.ascending a
  · rw [if_pos ha]
    intro hnil
    have hmem : u ∈ TriggerSet.insert u ((index.get? t).getD []) := TriggerSet.mem_insert.mpr (Or.inl rfl)
    rw [Option.some.inj hnil] at hmem
    exact List.not_mem_nil hmem
  · rw [if_neg ha]
    exact h.ne_nil a

theorem Files.mem_of_get? (h : Files index R) {set : TriggerSet} (hset : index.get? t = some set) :
    u ∈ set ↔ R t u := by
  rw [← h.mem_iff, hset, Option.getD_some]

theorem Files.not_of_get? (h : Files index R) (hnone : index.get? t = none) : ¬R t u := by
  rw [← h.mem_iff, hnone]
  exact List.not_mem_nil

/-- Something is related to a trigger under which a set is filed. -/
theorem Files.exists_of_get? (h : Files index R) {set : TriggerSet} (hset : index.get? t = some set) :
    ∃ u, R t u := by
  obtain ⟨u, hu⟩ := List.exists_mem_of_ne_nil set fun hnil => h.ne_nil t (hnil ▸ hset)
  exact ⟨u, (h.mem_of_get? hset).mp hu⟩

/-- Two indexes that file the same relation find the same. -/
theorem Files.get?_eq (h : Files index R) (hother : Files other R) (t : Trigger) : index.get? t = other.get? t := by
  have hsets : (index.get? t).getD [] = (other.get? t).getD [] :=
    (h.ascending t).eq_of_mem_iff (hother.ascending t) fun u => (h.mem_iff t u).trans (hother.mem_iff t u).symm
  have hne := h.ne_nil t
  have hne' := hother.ne_nil t
  cases hfound : index.get? t <;> cases hfound' : other.get? t <;> simp_all

end TriggerIndex

/-! ## Relations -/

namespace Links

variable {links : Links} {R S : Trigger → Trigger → Prop}

/-- Whether a relation is filed both ways. -/
structure Holds (links : Links) (R : Trigger → Trigger → Prop) : Prop where
  targets : links.targets.Files R
  origins : links.origins.Files fun u t => R t u

theorem Holds.congr (h : links.Holds R) (hsame : ∀ t u, R t u ↔ S t u) : links.Holds S := by
  obtain rfl : R = S := funext₂ fun t u => propext (hsame t u)
  exact h

theorem holds_empty : empty.Holds fun _ _ => False := ⟨TriggerIndex.files_empty, TriggerIndex.files_empty⟩

theorem holds_link (h : links.Holds R) (t u : Trigger) :
    (links.link t u).Holds fun a b => R a b ∨ (a = t ∧ b = u) := by
  refine ⟨TriggerIndex.files_add h.targets t u, ?_⟩
  simpa only [link, and_comm] using TriggerIndex.files_add h.origins u t

theorem holds_linkAll (h : links.Holds R) (t : Trigger) (us : List Trigger) :
    (links.linkAll t us).Holds fun a b => R a b ∨ (a = t ∧ b ∈ us) := by
  induction us generalizing links R with
  | nil => exact h.congr fun a b => (or_iff_left fun hmem => List.not_mem_nil hmem.2).symm
  | cons u rest ih =>
      refine (ih (holds_link h t u)).congr fun a b => ?_
      rw [List.mem_cons, and_or_left, or_assoc]

end Links

/-! ## Calls -/

/-- A call that registers what a cause results in, or what an actor switches off. -/
inductive Registration where
  | causes (cause : Trigger) (results : List Trigger)
  | toggles (actor : Trigger) (toggled : List Trigger)

namespace Registration

variable {calls other : List Registration} {t u : Trigger}

/-- The pairs of a cause and a result that calls register: the ones that are given, and those of an alias for what it
spells as well. -/
inductive Causes (calls : List Registration) : Trigger → Trigger → Prop where
  | given {cause result : Trigger} {results : List Trigger} (h : causes cause results ∈ calls)
      (hresult : result ∈ results) : Causes calls cause result
  | spelled {cause canonical result : Trigger} (h : Causes calls cause result)
      (hcanonical : cause.canonical? = some canonical) : Causes calls canonical result

/-- The pairs of an actor and what it switches off that calls register. -/
def Toggles (calls : List Registration) (actor u : Trigger) : Prop :=
  ∃ toggled, toggles actor toggled ∈ calls ∧ u ∈ toggled

/-- A result is registered for the cause that is given or for what this one spells; there it ends. -/
theorem causes_iff : Causes calls t u ↔
    ∃ cause results, causes cause results ∈ calls ∧ u ∈ results ∧ (t = cause ∨ cause.canonical? = some t) := by
  constructor
  · intro h
    induction h with
    | given h hresult => exact ⟨_, _, h, hresult, Or.inl rfl⟩
    | spelled _ hcanonical ih =>
        obtain ⟨cause, results, hcall, hresult, rfl | hspelled⟩ := ih
        · exact ⟨_, results, hcall, hresult, Or.inr hcanonical⟩
        · rw [Trigger.canonical?_of_canonical? hspelled] at hcanonical
          cases hcanonical
  · rintro ⟨cause, results, hcall, hresult, rfl | hspelled⟩
    · exact .given hcall hresult
    · exact .spelled (.given hcall hresult) hspelled

theorem causes_cons_causes {cause : Trigger} {results : List Trigger} :
    Causes (causes cause results :: calls) t u ↔
      ((t = cause ∧ u ∈ results) ∨ (cause.canonical? = some t ∧ u ∈ results)) ∨ Causes calls t u := by
  rw [causes_iff, causes_iff]
  constructor
  · rintro ⟨c, rs, hcall, hu, ht⟩
    rcases List.mem_cons.mp hcall with hfirst | hrest
    · cases hfirst
      exact Or.inl (ht.imp (⟨·, hu⟩) (⟨·, hu⟩))
    · exact Or.inr ⟨c, rs, hrest, hu, ht⟩
  · rintro ((⟨ht, hu⟩ | ⟨ht, hu⟩) | ⟨c, rs, hrest, hu, ht⟩)
    · exact ⟨cause, results, List.mem_cons_self, hu, Or.inl ht⟩
    · exact ⟨cause, results, List.mem_cons_self, hu, Or.inr ht⟩
    · exact ⟨c, rs, List.mem_cons_of_mem _ hrest, hu, ht⟩

theorem causes_cons_toggles {actor : Trigger} {toggled : List Trigger} :
    Causes (toggles actor toggled :: calls) t u ↔ Causes calls t u := by
  simp only [causes_iff, List.mem_cons, reduceCtorEq, false_or]

theorem toggles_cons_toggles {actor : Trigger} {toggled : List Trigger} :
    Toggles (toggles actor toggled :: calls) t u ↔ (t = actor ∧ u ∈ toggled) ∨ Toggles calls t u := by
  unfold Toggles
  constructor
  · rintro ⟨us, hcall, hu⟩
    rcases List.mem_cons.mp hcall with hfirst | hrest
    · cases hfirst
      exact Or.inl ⟨rfl, hu⟩
    · exact Or.inr ⟨us, hrest, hu⟩
  · rintro (⟨rfl, hu⟩ | ⟨us, hrest, hu⟩)
    · exact ⟨toggled, List.mem_cons_self, hu⟩
    · exact ⟨us, List.mem_cons_of_mem _ hrest, hu⟩

theorem toggles_cons_causes {cause : Trigger} {results : List Trigger} :
    Toggles (causes cause results :: calls) t u ↔ Toggles calls t u := by
  simp only [Toggles, List.mem_cons, reduceCtorEq, false_or]

theorem causes_perm (h : calls.Perm other) : Causes calls t u ↔ Causes other t u := by
  simp only [causes_iff, h.mem_iff]

theorem toggles_perm (h : calls.Perm other) : Toggles calls t u ↔ Toggles other t u := by
  simp only [Toggles, h.mem_iff]

end Registration

namespace EffectGraph

open Registration

variable {graph other : EffectGraph} {R S : Trigger → Trigger → Prop} {t u : Trigger}

def enter (graph : EffectGraph) : Registration → EffectGraph
  | .causes cause results => graph.registerCauses cause results
  | .toggles actor toggled => graph.registerToggles actor toggled

/-- The graph that calls make of an empty one. -/
def ofCalls (calls : List Registration) : EffectGraph := calls.foldl enter empty

theorem holds_registerCauses (h : graph.causes.Holds R) (cause : Trigger) (results : List Trigger) :
    (graph.registerCauses cause results).causes.Holds fun t u =>
      R t u ∨ ((t = cause ∧ u ∈ results) ∨ (cause.canonical? = some t ∧ u ∈ results)) := by
  have hown := Links.holds_linkAll h cause results
  unfold registerCauses
  dsimp only
  cases hcanonical : cause.canonical? with
  | none => exact hown.congr fun t u => by simp only [reduceCtorEq, false_and, or_false]
  | some canonical =>
      refine (Links.holds_linkAll hown canonical results).congr fun t u => ?_
      rw [Option.some.injEq, eq_comm (a := canonical), or_assoc]

theorem toggles_registerCauses (graph : EffectGraph) (cause : Trigger) (results : List Trigger) :
    (graph.registerCauses cause results).toggles = graph.toggles := by
  unfold registerCauses
  dsimp only
  split <;> rfl

/-- What calls add to a graph is what they register. -/
theorem holds_foldl_enter (hcauses : graph.causes.Holds R) (htoggles : graph.toggles.Holds S)
    (calls : List Registration) :
    (calls.foldl enter graph).causes.Holds (fun t u => R t u ∨ Causes calls t u) ∧
      (calls.foldl enter graph).toggles.Holds fun t u => S t u ∨ Toggles calls t u := by
  induction calls generalizing graph R S with
  | nil =>
      exact ⟨hcauses.congr fun t u => by simp only [causes_iff, List.not_mem_nil, false_and, exists_false, or_false],
        htoggles.congr fun t u => by simp only [Toggles, List.not_mem_nil, false_and, exists_false, or_false]⟩
  | cons call rest ih =>
      cases call with
      | causes cause results =>
          obtain ⟨hcauses', htoggles'⟩ := ih (holds_registerCauses hcauses cause results)
            ((toggles_registerCauses graph cause results).symm ▸ htoggles)
          exact ⟨hcauses'.congr fun t u => by rw [causes_cons_causes, or_assoc],
            htoggles'.congr fun t u => by rw [toggles_cons_causes]⟩
      | toggles actor toggled =>
          have hsame : (graph.registerToggles actor toggled).causes.Holds R := hcauses
          obtain ⟨hcauses', htoggles'⟩ := ih hsame (Links.holds_linkAll htoggles actor toggled)
          exact ⟨hcauses'.congr fun t u => by rw [causes_cons_toggles],
            htoggles'.congr fun t u => by rw [toggles_cons_toggles, or_assoc]⟩

theorem holds_ofCalls (calls : List Registration) :
    (ofCalls calls).causes.Holds (Causes calls) ∧ (ofCalls calls).toggles.Holds (Toggles calls) := by
  have hcausesEmpty : empty.causes.Holds fun _ _ => False := Links.holds_empty
  have htogglesEmpty : empty.toggles.Holds fun _ _ => False := Links.holds_empty
  obtain ⟨hcauses, htoggles⟩ := holds_foldl_enter hcausesEmpty htogglesEmpty calls
  exact ⟨hcauses.congr fun t u => iff_of_eq (false_or _), htoggles.congr fun t u => iff_of_eq (false_or _)⟩

/-- The relations of the stock graph, and of any other that is given as two tables, are registered call by call. -/
theorem register_empty (causes toggles : List (Trigger × List Trigger)) :
    empty.register causes toggles = ofCalls (causes.map (fun entry => .causes entry.1 entry.2) ++
      toggles.map fun entry => .toggles entry.1 entry.2) := by
  rw [ofCalls, List.foldl_append, List.foldl_map, List.foldl_map]
  rfl

/-! ## Queries -/

/-- What a trigger without another spelling results in includes the trigger itself. -/
theorem self_mem_resultsIn (graph : EffectGraph) {t : Trigger} (h : t.canonical? = none) :
    t ∈ graph.resultsIn t true false := by
  unfold resultsIn
  split
  · unfold withSelf
    split
    · rename_i hfound
      exact List.contains_iff_mem.mp hfound
    · rw [spell, h]
      exact TriggerSet.mem_insert.mpr (Or.inl rfl)
  · rw [h]
    exact List.mem_singleton_self t

theorem spell_kept (t : Trigger) : spell false true t = [t] := by
  unfold spell
  split <;> rfl

/-- Aliases that are kept stand for themselves. -/
theorem harvest_kept (triggers : List Trigger) : harvest false true triggers = TriggerSet.ofList triggers := by
  rw [harvest, List.flatMap_congr fun t _ => spell_kept t, List.flatMap_singleton']

theorem mem_withSelf {found : TriggerSet} : u ∈ withSelf false true t found ↔ u = t ∨ u ∈ found := by
  unfold withSelf
  split
  · rename_i hfound
    exact (or_iff_right_of_imp fun hself => hself ▸ List.contains_iff_mem.mp hfound).symm
  · rw [spell_kept, TriggerSet.mem_insertAll, List.mem_singleton]

theorem ascending_withSelf {found : TriggerSet} (h : found.Ascending) (dereference keepAliases : Bool) :
    (withSelf dereference keepAliases t found).Ascending := by
  unfold withSelf
  split
  · exact h
  · exact TriggerSet.ascending_insertAll h _

theorem ascending_singleton (t : Trigger) : TriggerSet.Ascending [t] := List.pairwise_singleton _ t

theorem mem_resultsIn_iff (h : graph.causes.Holds R) : u ∈ graph.resultsIn t false true ↔
    u = t ∨ R t u ∨ (∀ v, ¬R t v) ∧ ∃ canonical, t.canonical? = some canonical ∧ R canonical u := by
  unfold resultsIn
  split
  · rename_i results hresults
    obtain ⟨v, hv⟩ := h.targets.exists_of_get? hresults
    have hsome : ¬∀ v, ¬R t v := fun hnone => hnone v hv
    rw [mem_withSelf, harvest_kept, TriggerSet.mem_ofList, h.targets.mem_of_get? hresults]
    simp only [hsome, false_and, or_false]
  · rename_i hnone
    have hnot : ∀ v, ¬R t v := fun v => h.targets.not_of_get? hnone
    rw [or_iff_right (hnot u), and_iff_right hnot]
    split
    · rename_i canonical hcanonical
      simp only [hcanonical, Option.some.injEq, exists_eq_left']
      split
      · rename_i results hresults
        rw [spell_kept, TriggerSet.mem_insertAll, harvest_kept, TriggerSet.mem_ofList,
          h.targets.mem_of_get? hresults, List.mem_singleton]
      · rename_i hnothing
        rw [or_iff_left (h.targets.not_of_get? hnothing), List.mem_singleton]
    · rename_i hplain
      simp only [hplain, reduceCtorEq, false_and, exists_false, or_false, List.mem_singleton]

theorem ascending_resultsIn (graph : EffectGraph) (t : Trigger) (dereference keepAliases : Bool) :
    (graph.resultsIn t dereference keepAliases).Ascending := by
  unfold resultsIn
  split
  · exact ascending_withSelf (TriggerSet.ascending_ofList _) dereference keepAliases
  · split
    · split
      · exact TriggerSet.ascending_insertAll (TriggerSet.ascending_ofList _) _
      · exact ascending_singleton t
    · exact ascending_singleton t

theorem mem_causedBy_iff (h : graph.causes.Holds R) : u ∈ graph.causedBy t false true ↔ u = t ∨ R u t := by
  unfold causedBy
  split
  · rename_i causes hcauses
    rw [mem_withSelf, harvest_kept, TriggerSet.mem_ofList, h.origins.mem_of_get? hcauses]
  · rename_i hnone
    rw [or_iff_left (h.origins.not_of_get? hnone), List.mem_singleton]

theorem ascending_causedBy (graph : EffectGraph) (t : Trigger) (dereference keepAliases : Bool) :
    (graph.causedBy t dereference keepAliases).Ascending := by
  unfold causedBy
  split
  · exact ascending_withSelf (TriggerSet.ascending_ofList _) dereference keepAliases
  · exact ascending_singleton t

theorem mem_foldl_insertAll {f : Trigger → List Trigger} {triggers : List Trigger} {set : TriggerSet} :
    u ∈ triggers.foldl (fun acc v => TriggerSet.insertAll acc (f v)) set ↔ u ∈ set ∨ ∃ v ∈ triggers, u ∈ f v := by
  induction triggers generalizing set with
  | nil => simp only [List.foldl_nil, List.not_mem_nil, false_and, exists_false, or_false]
  | cons v rest ih =>
      rw [List.foldl_cons, ih, TriggerSet.mem_insertAll, List.exists_mem_cons_iff, or_comm (a := u ∈ f v), or_assoc]

theorem ascending_foldl_insertAll {f : Trigger → List Trigger} {set : TriggerSet} (h : set.Ascending)
    (triggers : List Trigger) :
    TriggerSet.Ascending (triggers.foldl (fun acc v => TriggerSet.insertAll acc (f v)) set) := by
  induction triggers generalizing set with
  | nil => exact h
  | cons v rest ih => exact ih (TriggerSet.ascending_insertAll h (f v))

theorem mem_disabledBy_iff (hcauses : graph.causes.Holds R) (htoggles : graph.toggles.Holds S) :
    u ∈ graph.disabledBy t false true ↔ ∃ v, S t v ∧ (u = v ∨ R u v) := by
  unfold disabledBy
  split
  · rename_i toggled htoggled
    simp only [mem_foldl_insertAll, harvest_kept, TriggerSet.mem_ofList, htoggles.targets.mem_of_get? htoggled,
      mem_causedBy_iff hcauses]
    exact or_iff_right_of_imp fun hu => ⟨u, hu, Or.inl rfl⟩
  · rename_i hnone
    exact iff_of_false List.not_mem_nil fun ⟨v, hv, _⟩ => htoggles.targets.not_of_get? hnone hv

theorem ascending_disabledBy (graph : EffectGraph) (t : Trigger) (dereference keepAliases : Bool) :
    (graph.disabledBy t dereference keepAliases).Ascending := by
  unfold disabledBy
  split
  · exact ascending_foldl_insertAll (TriggerSet.ascending_ofList _) _
  · exact .nil

/-! ## Answers -/

/-- Whether two graphs answer everything that can be asked alike, however the answers are to be spelled. -/
def Alike (graph other : EffectGraph) : Prop :=
  ∀ t dereference keepAliases,
    graph.resultsIn t dereference keepAliases = other.resultsIn t dereference keepAliases ∧
      graph.causedBy t dereference keepAliases = other.causedBy t dereference keepAliases ∧
        graph.enabledBy t dereference keepAliases = other.enabledBy t dereference keepAliases ∧
          graph.disabledBy t dereference keepAliases = other.disabledBy t dereference keepAliases ∧
            graph.toggledBy t = other.toggledBy t

theorem alike_of_holds (hcauses : graph.causes.Holds R) (htoggles : graph.toggles.Holds S)
    (hcauses' : other.causes.Holds R) (htoggles' : other.toggles.Holds S) : graph.Alike other := by
  have hresults := hcauses.targets.get?_eq hcauses'.targets
  have horigins := hcauses.origins.get?_eq hcauses'.origins
  have hcaused : graph.causedBy = other.causedBy := by
    funext t dereference keepAliases
    rw [causedBy, causedBy, horigins]
  intro t dereference keepAliases
  refine ⟨?_, by rw [hcaused], by rw [enabledBy, enabledBy, hcaused], ?_, ?_⟩
  · simp only [resultsIn, hresults]
  · rw [disabledBy, disabledBy, htoggles.targets.get?_eq htoggles'.targets, hcaused]
  · rw [toggledBy, toggledBy, htoggles.origins.get?_eq htoggles'.origins]

end EffectGraph

/-- Whether a set has the triggers with a property, each of them once and in the order of ranks. -/
def TriggerSet.Lists (set : TriggerSet) (p : Trigger → Prop) : Prop := set.Ascending ∧ ∀ u, u ∈ set ↔ p u

namespace EffectGraph

open Registration

/-- Take the graph that any calls make of an empty one. A trigger results in itself and in its registered results; if it
has none, in those of what it is a spelling of. It is caused by itself and by what it was registered as a result of. It
is switched off by what it toggles and by the direct causes of that, and it is toggled by what was registered as
toggling it. Both ways in which a relation is filed agree with it. So two graphs for which the same was registered
answer alike, and the order of the calls does not matter. -/
theorem answers_registered (calls : List Registration) :
    let graph := ofCalls calls
    (∀ t, (graph.resultsIn t false true).Lists fun u => u = t ∨ Causes calls t u ∨
        (∀ v, ¬Causes calls t v) ∧ ∃ canonical, t.canonical? = some canonical ∧ Causes calls canonical u) ∧
      (∀ t, (graph.causedBy t false true).Lists fun u => u = t ∨ Causes calls u t) ∧
        (∀ t, (graph.disabledBy t false true).Lists fun u => ∃ v, Toggles calls t v ∧ (u = v ∨ Causes calls u v)) ∧
          (∀ t, (graph.toggledBy t).Lists fun u => Toggles calls u t) ∧
            graph.causes.Holds (Causes calls) ∧ graph.toggles.Holds (Toggles calls) ∧
              (∀ other, (∀ t u, Causes other t u ↔ Causes calls t u) → (∀ t u, Toggles other t u ↔ Toggles calls t u) →
                graph.Alike (ofCalls other)) ∧
                ∀ other, calls.Perm other → graph.Alike (ofCalls other) := by
  intro graph
  obtain ⟨hcauses, htoggles⟩ := holds_ofCalls calls
  have halike : ∀ other, (∀ t u, Causes other t u ↔ Causes calls t u) →
      (∀ t u, Toggles other t u ↔ Toggles calls t u) → graph.Alike (ofCalls other) := by
    intro other hsame hsame'
    obtain ⟨hcauses', htoggles'⟩ := holds_ofCalls other
    exact alike_of_holds hcauses htoggles (hcauses'.congr hsame) (htoggles'.congr hsame')
  refine ⟨fun t => ⟨ascending_resultsIn graph t false true, fun u => mem_resultsIn_iff hcauses⟩,
    fun t => ⟨ascending_causedBy graph t false true, fun u => mem_causedBy_iff hcauses⟩,
    fun t => ⟨ascending_disabledBy graph t false true, fun u => mem_disabledBy_iff hcauses htoggles⟩,
    fun t => ⟨htoggles.origins.ascending t, htoggles.origins.mem_iff t⟩, hcauses, htoggles, halike,
    fun other hperm => halike other (fun t u => (causes_perm hperm).symm) fun t u => (toggles_perm hperm).symm⟩

/-- Stopping and shutting down cause each other, and stopping is what starting up toggles: starting up is switched off
by both and by the number that shutting down spells, but not by the speed that stopping spells, which is one step
further. The calls in reverse make a graph that answers alike. -/
theorem answers_registered_cycle :
    let stop := tmcc .speedStopHold
    let shutdown := tmcc .shutdownImmediate
    let calls : List Registration :=
      [.toggles (tmcc .startUpImmediate) [stop], .causes shutdown [stop], .causes stop [shutdown]]
    let graph := ofCalls calls
    let off := graph.disabledBy (tmcc .startUpImmediate) false true
    shutdown ∈ off ∧ ⟨.engine .tmcc .numeric, some 5⟩ ∈ off ∧ ⟨.engine .tmcc .absoluteSpeed, some 0⟩ ∉ off ∧
      graph.Alike (ofCalls calls.reverse) := by
  intro stop shutdown calls graph off
  obtain ⟨-, -, hdisabled, -, -, -, -, hperm⟩ := answers_registered calls
  have hcalls : Registration.causes shutdown [stop] ∈ calls := List.mem_cons_of_mem _ List.mem_cons_self
  have hcauses : Causes calls shutdown stop := .given hcalls List.mem_cons_self
  have htoggles : Toggles calls (tmcc .startUpImmediate) stop := ⟨[stop], List.mem_cons_self, List.mem_cons_self⟩
  refine ⟨((hdisabled _).2 _).mpr ⟨stop, htoggles, Or.inr hcauses⟩,
    ((hdisabled _).2 _).mpr ⟨stop, htoggles, Or.inr (.spelled hcauses rfl)⟩, by decide +kernel,
    hperm _ (List.reverse_perm calls).symm⟩

end EffectGraph
end RailLayout
