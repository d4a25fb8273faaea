import RailLayout.Proofs.Command.TriggerSet
import RailLayout.State.Motive.Command

/-!
What can be among the effects of a command: its own trigger, with and without data, and what the graph has as
results, all in canonical form (`Effects.mem_ofCommand`). Hence a command whose data is in the documented range of
its operation has, under the stock graph, no effect whose data is out of range (`Effects.inRange_of_mem`).
-/

namespace RailLayout

namespace Trigger

theorem canonical_cases (t : Trigger) :
    t.canonical = t ∨ ∃ entry ∈ aliases, entry.1 = t.operation ∧ t.canonical = entry.2 := by
  obtain ⟨operation, data⟩ := t
  cases data with
  | some d => exact Or.inl rfl
  | none =>
      cases hfound : aliases.find? (fun entry => entry.1 == operation) with
      | none =>
          refine Or.inl ?_
          simp only [canonical, canonical?, Operation.canonical?, hfound, Option.map_none, Option.getD_none]
      | some entry =>
          have hkey := List.find?_some hfound
          refine Or.inr ⟨entry, List.mem_of_find?_eq_some hfound, eq_of_beq hkey, ?_⟩
          simp only [canonical, canonical?, Operation.canonical?, hfound, Option.map_some, Option.getD_some]

theorem canonical_canonical (t : Trigger) : t.canonical.canonical = t.canonical := by
  have hplain : ∀ entry ∈ aliases, entry.2.canonical = entry.2 := by decide
  rcases canonical_cases t with h | ⟨entry, hentry, -, h⟩
  · rw [h, h]
  · rw [h, hplain entry hentry]

theorem canonical_of_data {t : Trigger} {d : UInt16} (h : t.data = some d) : t.canonical = t := by
  simp only [canonical, canonical?, h, Option.getD_none]

end Trigger

namespace Links

/-- The pairs of a relation, by their first member. -/
def pairs (links : Links) : List (Trigger × Trigger) :=
  links.targets.flatMap fun entry => entry.2.map fun u => (entry.1, u)

theorem mem_pairs_of_get? {links : Links} {t u : Trigger} {set : TriggerSet} (h : links.targets.get? t = some set)
    (hu : u ∈ set) : (t, u) ∈ links.pairs := by
  obtain ⟨entry, hfound, rfl⟩ := Option.map_eq_some_iff.mp h
  have hkey := List.find?_some hfound
  exact List.mem_flatMap.mpr ⟨entry, List.mem_of_find?_eq_some hfound,
    List.mem_map.mpr ⟨u, hu, congrArg (·, u) (eq_of_beq hkey)⟩⟩

end Links

namespace EffectGraph

variable {graph : EffectGraph} {t u : Trigger}

/-- A trigger that has no results and spells no other one results in itself alone. -/
theorem resultsIn_of_not_cause (hcause : ∀ entry ∈ graph.causes.targets, entry.1 ≠ t) (hplain : t.canonical? = none)
    (dereference keepAliases : Bool) : graph.resultsIn t dereference keepAliases = [t] := by
  have hnone : graph.causes.targets.get? t = none := by
    refine Option.map_eq_none_iff.mpr (List.find?_eq_none.mpr fun entry hentry hsame => ?_)
    exact hcause entry hentry (eq_of_beq hsame)
  simp only [resultsIn, hnone, hplain]

theorem eq_canonical_of_mem_spell (h : u ∈ spell true false t) : u = t.canonical := by
  unfold spell at h
  split at h
  · rename_i c hc
    rw [Trigger.canonical, hc]
    exact List.mem_singleton.mp h
  · rename_i hnone
    rw [Trigger.canonical, hnone]
    exact List.mem_singleton.mp h

theorem mem_harvest {triggers : List Trigger} (h : u ∈ harvest true false triggers) :
    ∃ v ∈ triggers, u = v.canonical := by
  obtain ⟨v, hv, hu⟩ := List.mem_flatMap.mp (TriggerSet.mem_ofList.mp h)
  exact ⟨v, hv, eq_canonical_of_mem_spell hu⟩

/-- What a trigger results in: itself, as it is or in canonical form, and what is registered for one of these. -/
theorem mem_resultsIn (h : u ∈ graph.resultsIn t true false) :
    u = t ∨ u = t.canonical ∨
      ∃ pair ∈ graph.causes.pairs, (pair.1 = t ∨ pair.1 = t.canonical) ∧ u = pair.2.canonical := by
  have hregistered : ∀ {cause results}, graph.causes.targets.get? cause = some results →
      u ∈ harvest true false results → ∃ pair ∈ graph.causes.pairs, pair.1 = cause ∧ u = pair.2.canonical := by
    intro cause results hresults hu
    obtain ⟨v, hv, rfl⟩ := mem_harvest hu
    exact ⟨(cause, v), Links.mem_pairs_of_get? hresults hv, rfl, rfl⟩
  unfold resultsIn at h
  split at h
  · rename_i results hresults
    have hown : u ∈ harvest true false results →
        ∃ pair ∈ graph.causes.pairs, (pair.1 = t ∨ pair.1 = t.canonical) ∧ u = pair.2.canonical := by
      intro h
      obtain ⟨pair, hpair, hcause, hu⟩ := hregistered hresults h
      exact ⟨pair, hpair, Or.inl hcause, hu⟩
    unfold withSelf at h
    split at h
    · exact Or.inr (Or.inr (hown h))
    · rcases TriggerSet.mem_insertAll.mp h with h | h
      · exact Or.inr (Or.inl (eq_canonical_of_mem_spell h))
      · exact Or.inr (Or.inr (hown h))
  · split at h
    · rename_i canonical hcanonical
      split at h
      · rename_i results hresults
        rcases TriggerSet.mem_insertAll.mp h with h | h
        · exact Or.inr (Or.inl (eq_canonical_of_mem_spell h))
        · obtain ⟨pair, hpair, hcause, hu⟩ := hregistered hresults h
          refine Or.inr (Or.inr ⟨pair, hpair, Or.inr ?_, hu⟩)
          rw [hcause, Trigger.canonical, hcanonical, Option.getD_some]
      · exact Or.inl (List.mem_singleton.mp h)
    · exact Or.inl (List.mem_singleton.mp h)

end EffectGraph

/-! ## Documented ranges -/

/-- The greatest data value that an engine operation is documented to take, if there is one. -/
def EngineOp.greatest? : EngineOp → Option UInt16
  | absoluteSpeed => some 255
  | dieselRpm => some 7
  | engineLabor => some 31
  | trainBrake => some 7
  | momentum => some 7
  | _ => none

/-- Whether the data of a trigger is in the documented range of its operation. -/
def Trigger.inRange (t : Trigger) : Bool :=
  match t.operation, t.data with
  | .engine _ op, some d => op.greatest?.all fun greatest => decide (d ≤ greatest)
  | _, _ => true

/-- Whether the data of a command is in the documented range of its operation. -/
def Command.inRange (c : Command) : Bool := c.dataTrigger?.all Trigger.inRange

namespace Effects

theorem mem_canonicalSet {t : Trigger} {triggers : TriggerSet} (h : t ∈ canonicalSet triggers) :
    ∃ u ∈ triggers, t = u.canonical := by
  obtain ⟨u, hu, heq⟩ := List.mem_map.mp (TriggerSet.mem_ofList.mp h)
  exact ⟨u, hu, heq.symm⟩

/-- A canonical form of a result is a cause's own trigger or a registered one, in canonical form. -/
theorem mem_canonicalSet_resultsIn {graph : EffectGraph} {t u : Trigger}
    (h : u ∈ canonicalSet (graph.resultsIn t true false)) :
    u = t.canonical ∨
      ∃ pair ∈ graph.causes.pairs, (pair.1 = t ∨ pair.1 = t.canonical) ∧ u = pair.2.canonical := by
  obtain ⟨v, hv, rfl⟩ := mem_canonicalSet h
  rcases EffectGraph.mem_resultsIn hv with rfl | rfl | ⟨pair, hpair, hcause, rfl⟩
  · exact Or.inl rfl
  · exact Or.inl (Trigger.canonical_canonical t)
  · exact Or.inr ⟨pair, hpair, hcause, Trigger.canonical_canonical _⟩

/-- Whether a command is filed under a trigger: its operation, as it is or in canonical form, or this with its data. -/
def FiledUnder (c : Command) (t : Trigger) : Prop :=
  t = c.trigger ∨ t = c.trigger.canonical ∨ c.dataTrigger? = some t

/-- What is among the effects of a command. -/
theorem mem_ofCommand {graph : EffectGraph} {c : Command} {t : Trigger} (h : t ∈ ofCommand graph c) :
    t = c.trigger.canonical ∨ c.dataTrigger? = some t ∨
      ∃ pair ∈ graph.causes.pairs, FiledUnder c pair.1 ∧ t = pair.2.canonical := by
  have hbare : t ∈ canonicalSet (graph.resultsIn c.trigger true false) → t = c.trigger.canonical ∨
      ∃ pair ∈ graph.causes.pairs, FiledUnder c pair.1 ∧ t = pair.2.canonical := by
    intro h
    refine (mem_canonicalSet_resultsIn h).imp_right fun ⟨pair, hpair, hcause, ht⟩ => ⟨pair, hpair, ?_, ht⟩
    exact hcause.imp_right Or.inl
  unfold ofCommand at h
  dsimp only at h
  split at h
  · rename_i own hown
    have hself : own.canonical = own := by
      obtain ⟨d, -, rfl⟩ := Option.map_eq_some_iff.mp hown
      exact Trigger.canonical_of_data rfl
    rcases TriggerSet.mem_insertAll.mp h with h | h
    · rcases mem_canonicalSet_resultsIn h with rfl | ⟨pair, hpair, hcause, ht⟩
      · exact Or.inr (Or.inl (hself.symm ▸ hown))
      · rw [hself, or_self] at hcause
        exact Or.inr (Or.inr ⟨pair, hpair, Or.inr (Or.inr (hcause ▸ hown)), ht⟩)
    · exact (hbare h).imp_right Or.inr
  · exact (hbare h).imp_right Or.inr

/-- Under the stock graph a command in range has no effect out of range. -/
theorem inRange_of_mem {c : Command} (hc : c.inRange = true) {t : Trigger} (h : t ∈ ofCommand .stock c) :
    t.inRange = true := by
  have hstock : ∀ pair ∈ EffectGraph.stock.causes.pairs, pair.2.canonical.inRange = true := by decide +kernel
  have hplain : ∀ entry ∈ aliases, entry.2.inRange = true := by decide
  have hbare : c.trigger.inRange = true := by
    unfold Trigger.inRange Command.trigger Operation.trigger
    cases c.operation <;> rfl
  rcases mem_ofCommand h with rfl | hown | ⟨pair, hpair, -, rfl⟩
  · rcases c.trigger.canonical_cases with hself | ⟨entry, hentry, -, hspelled⟩
    · rw [hself, hbare]
    · rw [hspelled, hplain entry hentry]
  · rw [Command.inRange, hown] at hc
    exact hc
  · exact hstock pair hpair

theorem mem_of_data?_eq_some {effects : TriggerSet} {op : EngineOp} {d : UInt16}
    (h : data? effects op = some d) : ∃ g, ⟨.engine g op, some d⟩ ∈ effects := by
  obtain ⟨t, ht, hdata⟩ := List.exists_of_findSome?_eq_some h
  obtain ⟨operation, data⟩ := t
  split at hdata
  · rename_i g other e hop he
    split at hdata
    · rename_i hsame
      cases hop
      cases he
      cases hdata
      exact ⟨g, hsame ▸ ht⟩
    · cases hdata
  · cases hdata

theorem data?_le {effects : TriggerSet} (heffects : ∀ t ∈ effects, t.inRange = true) {op : EngineOp}
    {greatest d : UInt16} (hop : op.greatest? = some greatest) (h : data? effects op = some d) :
    d ≤ greatest := by
  obtain ⟨g, hmem⟩ := mem_of_data?_eq_some h
  have hrange := heffects _ hmem
  simpa only [Trigger.inRange, hop, Option.all_some, decide_eq_true_eq] using hrange

end Effects
end RailLayout
