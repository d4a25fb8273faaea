import RailLayout.Proofs.Command.Graph

/-!
How answers are spelled. The two flags of a query ask for aliases as they are, in canonical form, both or not at all,
and an answer under any flags should have the triggers of the answer with aliases kept, spelled as asked (`Respells`).
So it is for what enables a trigger. What a trigger results in, and what causes it, is spelled as asked unless the
trigger is an alias for which nothing was registered: the answer then is the alias, whatever the flags. What switches a
trigger off is looked up by triggers that have been spelled already, so that causes of a toggled alias can be lost, and
those of what it spells gained (`respelled_iff`).
-/

namespace RailLayout

namespace TriggerSet

/-- Two sets with given triggers are the same if the same triggers are given. -/
theorem Lists.eq_iff {set other : TriggerSet} {p q : Trigger → Prop} (h : set.Lists p) (hother : other.Lists q) :
    set = other ↔ ∀ u, p u ↔ q u := by
  constructor
  · rintro rfl u
    exact (h.2 u).symm.trans (hother.2 u)
  · intro hsame
    exact h.1.eq_of_mem_iff hother.1 fun u => (h.2 u).trans ((hsame u).trans (hother.2 u).symm)

end TriggerSet

namespace EffectGraph

variable {graph : EffectGraph} {R S A : Trigger → Trigger → Prop} {t u v : Trigger} {dereference keepAliases : Bool}
  {plain answer : TriggerSet}

/-! ## Spellings -/

/-- Whether a trigger is spelled as another one: an alias as itself if aliases are kept, and in canonical form if they
are dereferenced; any other trigger as itself. -/
def Spells (dereference keepAliases : Bool) (t u : Trigger) : Prop :=
  (u = t ∧ (keepAliases = true ∨ t.canonical? = none)) ∨ (dereference = true ∧ t.canonical? = some u)

theorem mem_spell_iff : u ∈ spell dereference keepAliases t ↔ Spells dereference keepAliases t u := by
  unfold spell Spells
  cases t.canonical? with
  | none => simp only [List.mem_singleton, or_true, and_true, reduceCtorEq, and_false, or_false]
  | some canonical =>
      rw [List.mem_append]
      refine or_congr ?_ ?_
      · cases keepAliases <;> simp
      · cases dereference <;> simp [eq_comm]

theorem mem_harvest_iff {triggers : List Trigger} :
    u ∈ harvest dereference keepAliases triggers ↔ ∃ t ∈ triggers, Spells dereference keepAliases t u := by
  rw [harvest, TriggerSet.mem_ofList, List.mem_flatMap]
  simp only [mem_spell_iff]

theorem spells_self (h : keepAliases = true ∨ t.canonical? = none) : Spells dereference keepAliases t t :=
  Or.inl ⟨rfl, h⟩

theorem spells_kept_iff : Spells false true t u ↔ u = t := by
  simp only [Spells, true_or, and_true, Bool.false_eq_true, false_and, or_false]

/-- A trigger that was spelled is spelled no further. -/
theorem Spells.trans (h : Spells dereference keepAliases t u) (h' : Spells dereference keepAliases u v) :
    Spells dereference keepAliases t v := by
  rcases h with ⟨rfl, -⟩ | ⟨hdereference, hcanonical⟩
  · exact h'
  · have hplain := Trigger.canonical?_of_canonical? hcanonical
    rcases h' with ⟨rfl, -⟩ | ⟨-, halias⟩
    · exact Or.inr ⟨hdereference, hcanonical⟩
    · rw [hplain] at halias
      cases halias

theorem Spells.canonical?_eq_none (h : Spells dereference false t u) : u.canonical? = none := by
  rcases h with ⟨rfl, hkept | hplain⟩ | ⟨-, hcanonical⟩
  · cases hkept
  · exact hplain
  · exact Trigger.canonical?_of_canonical? hcanonical

/-- A trigger is spelled as itself alone if it is no alias, or if aliases are kept and not dereferenced. -/
theorem forall_spells_iff :
    (∀ u, u = t ↔ Spells dereference keepAliases t u) ↔
      ¬(t.canonical? ≠ none ∧ (dereference = true ∨ keepAliases = false)) := by
  cases hcanonical : t.canonical? with
  | none =>
      refine iff_of_true (fun u => ?_) fun hnot => hnot.1 rfl
      simp only [Spells, hcanonical, or_true, and_true, reduceCtorEq, and_false, or_false]
  | some canonical =>
      have hne : canonical ≠ t := by
        rintro rfl
        rw [Trigger.canonical?_of_canonical? hcanonical] at hcanonical
        cases hcanonical
      constructor
      · rintro hself ⟨-, hflags⟩
        rcases hflags with hdereference | hdropped
        · exact hne ((hself canonical).mpr (Or.inr ⟨hdereference, hcanonical⟩))
        · rcases (hself t).mp rfl with ⟨-, hkept | hplain⟩ | ⟨-, hsame⟩
          · rw [hdropped] at hkept
            cases hkept
          · rw [hcanonical] at hplain
            cases hplain
          · rw [hcanonical] at hsame
            exact hne (Option.some.inj hsame)
      · intro hnot u
        rw [not_and, not_or, Bool.not_eq_true, Bool.not_eq_false] at hnot
        obtain ⟨rfl, rfl⟩ := hnot (Option.some_ne_none canonical)
        exact spells_kept_iff.symm

/-- Whether an answer has the triggers of another one, spelled as asked. -/
def Respells (dereference keepAliases : Bool) (plain answer : TriggerSet) : Prop :=
  answer.Lists fun u => ∃ t ∈ plain, Spells dereference keepAliases t u

theorem respells_iff {p q : Trigger → Prop} (hplain : plain.Lists p) (hanswer : answer.Lists q) :
    Respells dereference keepAliases plain answer ↔
      ∀ u, q u ↔ ∃ t, p t ∧ Spells dereference keepAliases t u := by
  simp only [Respells, TriggerSet.Lists, hplain.2, hanswer.2, hanswer.1, true_and]

theorem respells_harvest (plain : TriggerSet) :
    Respells dereference keepAliases plain (harvest dereference keepAliases plain) :=
  ⟨TriggerSet.ascending_ofList _, fun _ => mem_harvest_iff⟩

/-- An answer that is spelled as asked is the only one. -/
theorem eq_harvest_iff (hanswer : answer.Ascending) :
    harvest dereference keepAliases plain = answer ↔ Respells dereference keepAliases plain answer := by
  constructor
  · rintro rfl
    exact respells_harvest plain
  · exact fun h => ((respells_harvest plain).eq_iff h).mpr fun _ => Iff.rfl

/-! ## What a trigger results in, and what causes it -/

/-- Whether an answer has a trigger and what was found for it, spelled as asked; or the trigger as it is, if nothing was
found. -/
def Gathers (dereference keepAliases : Bool) (t : Trigger) (found : Trigger → Prop) (answer : TriggerSet) : Prop :=
  answer.Lists fun u =>
    ((∃ v, found v) ∧ ∃ v, (v = t ∨ found v) ∧ Spells dereference keepAliases v u) ∨ ((∀ v, ¬found v) ∧ u = t)

section Gathers

variable {found : Trigger → Prop}

theorem gathers_of_found {set : TriggerSet} (hset : ∀ u, u ∈ set ↔ found u) (hsome : ∃ v, found v)
    (hanswer : answer.Ascending)
    (hmem : ∀ u, u ∈ answer ↔ Spells dereference keepAliases t u ∨ u ∈ harvest dereference keepAliases set) :
    Gathers dereference keepAliases t found answer := by
  have hnot : ¬∀ v, ¬found v := fun hnone => hsome.elim hnone
  refine ⟨hanswer, fun u => ?_⟩
  simp only [hmem, mem_harvest_iff, hset, hsome, hnot, true_and, false_and, or_false, or_and_right, exists_or,
    exists_eq_left]

theorem gathers_of_not_found (hnone : ∀ v, ¬found v) : Gathers dereference keepAliases t found [t] := by
  have hnot : ¬∃ v, found v := fun hsome => hsome.elim hnone
  refine ⟨ascending_singleton t, fun u => List.mem_singleton.trans ?_⟩
  exact ((or_iff_right fun hfound => hnot hfound.1).trans (and_iff_right hnone)).symm

/-- The spelling of a trigger is put into a harvest, unless the trigger is there: then its spellings are there too. -/
theorem mem_withSelf_iff {set : TriggerSet} :
    u ∈ withSelf dereference keepAliases t (harvest dereference keepAliases set) ↔
      Spells dereference keepAliases t u ∨ u ∈ harvest dereference keepAliases set := by
  unfold withSelf
  split
  · rename_i hself
    obtain ⟨v, hv, hspelled⟩ := mem_harvest_iff.mp (List.contains_iff_mem.mp hself)
    exact (or_iff_right_of_imp fun h => mem_harvest_iff.mpr ⟨v, hv, hspelled.trans h⟩).symm
  · rw [TriggerSet.mem_insertAll, mem_spell_iff]

/-- An answer with aliases kept has the trigger and what was found for it. -/
theorem Gathers.mem_kept (h : Gathers false true t found plain) : u ∈ plain ↔ u = t ∨ found u := by
  rw [h.2]
  simp only [spells_kept_iff, exists_eq_right']
  constructor
  · rintro (⟨-, hu⟩ | ⟨-, rfl⟩)
    · exact hu
    · exact Or.inl rfl
  · rintro (rfl | hu)
    · exact (em (∃ v, found v)).imp (⟨·, Or.inl rfl⟩) fun hnone => ⟨fun v hv => hnone ⟨v, hv⟩, rfl⟩
    · exact Or.inl ⟨⟨u, hu⟩, Or.inr hu⟩

/-- The answer is spelled as asked, unless nothing was found for an alias that is to be spelled otherwise. -/
theorem Gathers.respells_iff (hplain : Gathers false true t found plain)
    (hanswer : Gathers dereference keepAliases t found answer) :
    Respells dereference keepAliases plain answer ↔
      ¬((t.canonical? ≠ none ∧ ∀ v, ¬found v) ∧ (dereference = true ∨ keepAliases = false)) := by
  have hkept : plain.Lists fun u => u = t ∨ found u := ⟨hplain.1, fun u => hplain.mem_kept⟩
  rw [EffectGraph.respells_iff hkept hanswer]
  by_cases hsome : ∃ v, found v
  · have hnot : ¬∀ v, ¬found v := fun hnone => hsome.elim hnone
    simp only [hsome, hnot, true_and, and_false, false_and, or_false, not_false_eq_true, implies_true]
  · have hnone : ∀ v, ¬found v := fun v hv => hsome ⟨v, hv⟩
    simp only [hnone, exists_false, not_false_eq_true, implies_true, false_and, true_and, false_or, or_false, and_true,
      exists_eq_left, forall_spells_iff]

/-- If aliases are not kept, the only one in an answer is the trigger itself, for which nothing was found. -/
theorem Gathers.exists_alias_iff (h : Gathers dereference false t found answer) :
    (∃ u ∈ answer, u.canonical? ≠ none) ↔ t.canonical? ≠ none ∧ ∀ v, ¬found v := by
  constructor
  · rintro ⟨u, hu, halias⟩
    rcases (h.2 u).mp hu with ⟨-, v, -, hspelled⟩ | ⟨hnone, rfl⟩
    · exact absurd hspelled.canonical?_eq_none halias
    · exact ⟨halias, hnone⟩
  · rintro ⟨halias, hnone⟩
    exact ⟨t, (h.2 t).mpr (Or.inr ⟨hnone, rfl⟩), halias⟩

end Gathers

/-- What a trigger has for results: its own, or those of what it is a spelling of. -/
def Yields (R : Trigger → Trigger → Prop) (t u : Trigger) : Prop :=
  R t u ∨ (∀ v, ¬R t v) ∧ ∃ canonical, t.canonical? = some canonical ∧ R canonical u

theorem gathers_resultsIn (h : graph.causes.Holds R) (t : Trigger) (dereference keepAliases : Bool) :
    Gathers dereference keepAliases t (Yields R t) (graph.resultsIn t dereference keepAliases) := by
  have hascending := ascending_resultsIn graph t dereference keepAliases
  unfold resultsIn at hascending ⊢
  split at hascending <;> rename_i hown
  · rename_i results
    obtain ⟨v, hv⟩ := h.targets.exists_of_get? hown
    have hnot : ¬∀ v, ¬R t v := fun hnone => hnone v hv
    refine gathers_of_found (fun u => ?_) ⟨v, Or.inl hv⟩ hascending fun u => mem_withSelf_iff
    rw [h.targets.mem_of_get? hown, Yields, or_iff_left fun hother => hnot hother.1]
  · have hnone : ∀ v, ¬R t v := fun v => h.targets.not_of_get? hown
    split at hascending <;> rename_i hcanonical
    · rename_i canonical
      split at hascending <;> rename_i hresults
      · rename_i results
        obtain ⟨v, hv⟩ := h.targets.exists_of_get? hresults
        have hyields : ∀ u, u ∈ results ↔ Yields R t u := by
          intro u
          rw [h.targets.mem_of_get? hresults, Yields, or_iff_right (hnone u), and_iff_right hnone]
          simp only [hcanonical, Option.some.injEq, exists_eq_left']
        refine gathers_of_found hyields ⟨v, (hyields v).mp ((h.targets.mem_of_get? hresults).mpr hv)⟩ hascending
          fun u => ?_
        rw [TriggerSet.mem_insertAll, mem_spell_iff]
      · refine gathers_of_not_found fun v hv => ?_
        obtain ⟨-, c, hc, hv⟩ := hv.resolve_left (hnone v)
        rw [hcanonical] at hc
        exact h.targets.not_of_get? hresults (Option.some.inj hc ▸ hv)
    · refine gathers_of_not_found fun v hv => ?_
      obtain ⟨-, c, hc, -⟩ := hv.resolve_left (hnone v)
      rw [hcanonical] at hc
      cases hc

theorem gathers_causedBy (h : graph.causes.Holds R) (t : Trigger) (dereference keepAliases : Bool) :
    Gathers dereference keepAliases t (fun u => R u t) (graph.causedBy t dereference keepAliases) := by
  have hascending := ascending_causedBy graph t dereference keepAliases
  unfold causedBy at hascending ⊢
  split at hascending <;> rename_i hfound
  · exact gathers_of_found (fun u => h.origins.mem_of_get? hfound) (h.origins.exists_of_get? hfound) hascending
      fun u => mem_withSelf_iff
  · exact gathers_of_not_found fun v => h.origins.not_of_get? hfound

/-! ## What switches a trigger off -/

/-- The toggled triggers are spelled first, and their causes are looked up after that. -/
theorem mem_disabledBy_spelled_iff (hcauses : graph.causes.Holds R) (htoggles : graph.toggles.Holds S) :
    u ∈ graph.disabledBy t dereference keepAliases ↔ ∃ v spelled, S t v ∧ Spells dereference keepAliases v spelled ∧
      (u = spelled ∨ ∃ cause, R cause spelled ∧ Spells dereference keepAliases cause u) := by
  unfold disabledBy
  split
  · rename_i toggled htoggled
    simp only [mem_foldl_insertAll, mem_harvest_iff, htoggles.targets.mem_of_get? htoggled, mem_causedBy_iff hcauses]
    constructor
    · rintro (⟨v, hv, hu⟩ | ⟨spelled, ⟨v, hv, hspelled⟩, cause, rfl | hcause, hu⟩)
      · exact ⟨v, u, hv, hu, Or.inl rfl⟩
      · exact ⟨v, u, hv, hspelled.trans hu, Or.inl rfl⟩
      · exact ⟨v, spelled, hv, hspelled, Or.inr ⟨cause, hcause, hu⟩⟩
    · rintro ⟨v, spelled, hv, hspelled, rfl | ⟨cause, hcause, hu⟩⟩
      · exact Or.inl ⟨v, hv, hspelled⟩
      · exact Or.inr ⟨spelled, ⟨v, hv, hspelled⟩, cause, Or.inr hcause, hu⟩
  · rename_i hnone
    exact iff_of_false List.not_mem_nil fun ⟨v, _, hv, _⟩ => htoggles.targets.not_of_get? hnone hv

end EffectGraph

namespace EffectGraph

open Registration

variable {calls : List Registration} {t u : Trigger} {dereference keepAliases : Bool}

/-- What switches a trigger off, spelled as asked: a toggled trigger or a cause of one. -/
def SwitchesOff (calls : List Registration) (dereference keepAliases : Bool) (t u : Trigger) : Prop :=
  ∃ v, Toggles calls t v ∧ ∃ w, (w = v ∨ Causes calls w v) ∧ Spells dereference keepAliases w u

/-- What is reached if the toggled triggers are spelled before their causes are looked up. -/
def ReachedSpelled (calls : List Registration) (dereference keepAliases : Bool) (t u : Trigger) : Prop :=
  ∃ v spelled, Toggles calls t v ∧ Spells dereference keepAliases v spelled ∧
    (u = spelled ∨ ∃ cause, Causes calls cause spelled ∧ Spells dereference keepAliases cause u)

/-- Whether a cause of a toggled alias is lost: aliases are not kept, and no spelling of the alias leads to it. -/
def LosesCause (calls : List Registration) (dereference keepAliases : Bool) (t : Trigger) : Prop :=
  keepAliases = false ∧ ∃ v cause u, Toggles calls t v ∧ v.canonical? ≠ none ∧ Causes calls cause v ∧
    Spells dereference keepAliases cause u ∧ ¬ReachedSpelled calls dereference keepAliases t u

/-- Whether a cause of what a toggled alias spells is gained: aliases are dereferenced, and no toggled trigger leads to
it. -/
def GainsCause (calls : List Registration) (dereference keepAliases : Bool) (t : Trigger) : Prop :=
  dereference = true ∧ ∃ v canonical cause u, Toggles calls t v ∧ v.canonical? = some canonical ∧
    Causes calls cause canonical ∧ Spells dereference keepAliases cause u ∧
      ¬SwitchesOff calls dereference keepAliases t u

theorem forall_reachedSpelled_iff :
    (∀ u, ReachedSpelled calls dereference keepAliases t u ↔ SwitchesOff calls dereference keepAliases t u) ↔
      ¬LosesCause calls dereference keepAliases t ∧ ¬GainsCause calls dereference keepAliases t := by
  constructor
  · intro hsame
    refine ⟨fun ⟨_, v, cause, u, hv, _, hcause, hu, hlost⟩ => hlost ?_,
      fun ⟨hdereference, v, canonical, cause, u, hv, hcanonical, hcause, hu, hgained⟩ => hgained ?_⟩
    · exact (hsame u).mpr ⟨v, hv, cause, Or.inr hcause, hu⟩
    · exact (hsame u).mp ⟨v, canonical, hv, Or.inr ⟨hdereference, hcanonical⟩, Or.inr ⟨cause, hcause, hu⟩⟩
  · rintro ⟨hlost, hgained⟩ u
    constructor
    · rintro ⟨v, spelled, hv, hspelled, rfl | ⟨cause, hcause, hu⟩⟩
      · exact ⟨v, hv, v, Or.inl rfl, hspelled⟩
      · rcases hspelled with ⟨rfl, -⟩ | ⟨hdereference, hcanonical⟩
        · exact ⟨spelled, hv, cause, Or.inr hcause, hu⟩
        · by_contra hforeign
          exact hgained ⟨hdereference, v, spelled, cause, u, hv, hcanonical, hcause, hu, hforeign⟩
    · rintro ⟨v, hv, w, rfl | hcause, hu⟩
      · exact ⟨w, u, hv, hu, Or.inl rfl⟩
      · by_cases hself : keepAliases = true ∨ v.canonical? = none
        · exact ⟨v, v, hv, spells_self hself, Or.inr ⟨w, hcause, hu⟩⟩
        · rw [not_or, Bool.not_eq_true] at hself
          by_contra hmissing
          exact hlost ⟨hself.1, v, w, u, hv, hself.2, hcause, hu, hmissing⟩

theorem respells_disabledBy_iff (calls : List Registration) (t : Trigger) (dereference keepAliases : Bool) :
    Respells dereference keepAliases ((ofCalls calls).disabledBy t false true)
        ((ofCalls calls).disabledBy t dereference keepAliases) ↔
      ¬LosesCause calls dereference keepAliases t ∧ ¬GainsCause calls dereference keepAliases t := by
  obtain ⟨hcauses, htoggles⟩ := holds_ofCalls calls
  have hplain : ((ofCalls calls).disabledBy t false true).Lists
      fun w => ∃ v, Toggles calls t v ∧ (w = v ∨ Causes calls w v) :=
    ⟨ascending_disabledBy .., fun w => mem_disabledBy_iff hcauses htoggles⟩
  have hanswer : ((ofCalls calls).disabledBy t dereference keepAliases).Lists
      (ReachedSpelled calls dereference keepAliases t) :=
    ⟨ascending_disabledBy .., fun u => mem_disabledBy_spelled_iff hcauses htoggles⟩
  rw [respells_iff hplain hanswer, ← forall_reachedSpelled_iff]
  refine forall_congr' fun u => iff_congr Iff.rfl ?_
  exact ⟨fun ⟨w, ⟨v, hv, hw⟩, hu⟩ => ⟨v, hv, w, hw, hu⟩, fun ⟨v, hv, w, hw, hu⟩ => ⟨w, ⟨v, hv, hw⟩, hu⟩⟩

/-- An alias has no results, its own or those of what it spells, if nothing was registered for what it spells: what is
registered for an alias is registered for that as well. -/
theorem forall_not_yields_iff : t.canonical? ≠ none ∧ (∀ u, ¬Yields (Causes calls) t u) ↔
    ∃ canonical, t.canonical? = some canonical ∧ ∀ u, ¬Causes calls canonical u := by
  constructor
  · rintro ⟨halias, hnone⟩
    obtain ⟨canonical, hcanonical⟩ := Option.ne_none_iff_exists'.mp halias
    have hown : ∀ v, ¬Causes calls t v := fun v hv => hnone v (Or.inl hv)
    exact ⟨canonical, hcanonical, fun u hu => hnone u (Or.inr ⟨hown, canonical, hcanonical, hu⟩)⟩
  · rintro ⟨canonical, hcanonical, hnone⟩
    refine ⟨hcanonical ▸ Option.some_ne_none canonical, ?_⟩
    rintro u (hu | ⟨-, c, hc, hu⟩)
    · exact hnone u (.spelled hu hcanonical)
    · rw [hcanonical] at hc
      exact hnone u (Option.some.inj hc ▸ hu)

/-- Take the graph that any calls make of an empty one, any trigger and any flags. What enables the trigger is the plain
answer spelled as asked. So is what it results in, and what causes it, unless the flags ask for an alias to be spelled
otherwise than as itself, and nothing was registered for what it spells or as its cause: then the alias stands as it
is, even if aliases are not to be kept, and what causes it differs from what enables it. What switches the trigger off
is spelled as asked unless a cause of a toggled alias is lost, or one of what the alias spells is gained. -/
theorem respelled_iff (calls : List Registration) (t : Trigger) (dereference keepAliases : Bool) :
    let graph := ofCalls calls
    let otherwise := dereference = true ∨ keepAliases = false
    let barren := ∃ canonical, t.canonical? = some canonical ∧ ∀ u, ¬Causes calls canonical u
    let uncaused := t.canonical? ≠ none ∧ ∀ u, ¬Causes calls u t
    let Asked (query : Trigger → Bool → Bool → TriggerSet) : Prop :=
      Respells dereference keepAliases (query t false true) (query t dereference keepAliases)
    let ReturnsAlias (query : Trigger → Bool → Bool → TriggerSet) : Prop :=
      ∃ u ∈ query t dereference false, u.canonical? ≠ none
    Asked graph.enabledBy ∧ (Asked graph.resultsIn ↔ ¬(barren ∧ otherwise)) ∧
      (Asked graph.causedBy ↔ ¬(uncaused ∧ otherwise)) ∧
        (graph.enabledBy t dereference keepAliases = graph.causedBy t dereference keepAliases ↔
            ¬(uncaused ∧ otherwise)) ∧
          (Asked graph.disabledBy ↔
              ¬LosesCause calls dereference keepAliases t ∧ ¬GainsCause calls dereference keepAliases t) ∧
            (ReturnsAlias graph.resultsIn ↔ barren) ∧ (ReturnsAlias graph.causedBy ↔ uncaused) ∧
              ¬ReturnsAlias graph.enabledBy ∧ ¬ReturnsAlias graph.disabledBy := by
  intro graph otherwise barren uncaused Asked ReturnsAlias
  obtain ⟨hcauses, htoggles⟩ := holds_ofCalls calls
  have hresults := gathers_resultsIn hcauses t
  have hcaused := gathers_causedBy hcauses t
  have henabled : Asked graph.enabledBy := by
    have hplain : graph.enabledBy t false true = graph.causedBy t false true := by
      refine (eq_harvest_iff (ascending_causedBy ..)).mpr ?_
      refine ((hcaused false true).respells_iff (hcaused false true)).mpr ?_
      rintro ⟨-, hflag | hflag⟩ <;> cases hflag
    simp only [Asked, hplain]
    exact respells_harvest _
  have hbarren : t.canonical? ≠ none ∧ (∀ u, ¬Yields (Causes calls) t u) ↔ barren := forall_not_yields_iff
  refine ⟨henabled, ?results, ?causes, ?same, respells_disabledBy_iff calls t dereference keepAliases, ?aliasResult,
    (hcaused dereference false).exists_alias_iff, ?noAliasEnabling, ?noAliasDisabling⟩
  case results =>
    rw [← hbarren]
    exact (hresults false true).respells_iff (hresults dereference keepAliases)
  case causes => exact (hcaused false true).respells_iff (hcaused dereference keepAliases)
  case same =>
    rw [← (hcaused false true).respells_iff (hcaused dereference keepAliases)]
    exact eq_harvest_iff (ascending_causedBy ..)
  case aliasResult =>
    rw [← hbarren]
    exact (hresults dereference false).exists_alias_iff
  case noAliasEnabling =>
    rintro ⟨u, hu, halias⟩
    obtain ⟨v, -, hspelled⟩ := mem_harvest_iff.mp hu
    exact halias hspelled.canonical?_eq_none
  case noAliasDisabling =>
    rintro ⟨u, hu, halias⟩
    obtain ⟨v, spelled, -, hspelled, rfl | ⟨cause, -, hcause⟩⟩ := (mem_disabledBy_spelled_iff hcauses htoggles).mp hu
    · exact halias hspelled.canonical?_eq_none
    · exact halias hcause.canonical?_eq_none

/-- The bell toggles resetting, which an auxiliary output causes, and nothing is registered for the delayed shutdown. In
canonical form, resetting is left as the bell's toggled number, without its cause; and the delayed shutdown is caused by
itself under its own name, though it is enabled by the number it spells. -/
theorem respelled_iff_reset :
    let calls : List Registration :=
      [.causes (legacy .aux1On) [legacy .reset], .toggles (legacy .bellOn) [legacy .reset]]
    let graph := ofCalls calls
    graph.disabledBy (legacy .bellOn) false true = [legacy .reset, legacy .aux1On] ∧
      graph.disabledBy (legacy .bellOn) true false = [⟨.engine .legacy .numeric, some 0⟩] ∧
        ¬Respells true false (graph.disabledBy (legacy .bellOn) false true)
          (graph.disabledBy (legacy .bellOn) true false) ∧
          graph.causedBy (legacy .shutdownDelayed) true false = [legacy .shutdownDelayed] ∧
            graph.enabledBy (legacy .shutdownDelayed) true false = [⟨.engine .legacy .numeric, some 5⟩] := by
  intro calls graph
  have hdisabled : graph.disabledBy (legacy .bellOn) true false = [⟨.engine .legacy .numeric, some 0⟩] := by
    decide +kernel
  refine ⟨by decide +kernel, hdisabled, fun hasked => ?_, by decide +kernel, by decide +kernel⟩
  obtain ⟨-, -, -, -, hbell, -⟩ := respelled_iff calls (legacy .bellOn) true false
  have htoggles : Toggles calls (legacy .bellOn) (legacy .reset) :=
    ⟨[legacy .reset], List.mem_cons_of_mem _ List.mem_cons_self, List.mem_cons_self⟩
  have hcauses : Causes calls (legacy .aux1On) (legacy .reset) := .given List.mem_cons_self List.mem_cons_self
  refine (hbell.mp hasked).1 ⟨rfl, legacy .reset, legacy .aux1On, legacy .aux1On, htoggles, by decide +kernel, hcauses,
    spells_self (Or.inr (by decide +kernel)), fun hreached => ?_⟩
  have hmem : legacy .aux1On ∈ graph.disabledBy (legacy .bellOn) true false :=
    (mem_disabledBy_spelled_iff (holds_ofCalls calls).1 (holds_ofCalls calls).2).mpr hreached
  rw [hdisabled] at hmem
  revert hmem
  decide +kernel

end EffectGraph
end RailLayout
