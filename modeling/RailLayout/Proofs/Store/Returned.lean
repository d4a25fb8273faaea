import RailLayout.Proofs.Store.Heard
import RailLayout.Proofs.Store.Retold

/-!
What is sent for the components of a store and what comes back of them. Addresses are sent for in order, and the broadcast
address is the greatest one, so the broadcasts of a kind go out after everything else that is sent for it
(`Store.resent_script`). An empty store that is told all of it files the components for which something is sent that
reaches no other one, and these come back exactly if their outputs are left where they are and the broadcasts tell them
nothing new (`Store.refiled_replayed`).
-/

namespace RailLayout

variable {rules : Rules} {scope : Scope} {n : UInt16} {e other : Entry}

/-- No component other than engines and trains has an address beyond the broadcast address. -/
theorem Scope.le_broadcastAddress (hmotive : scope.isMotive = false) (h : scope.admits n = true) :
    n ≤ broadcastAddress := by
  refine UInt16.le_trans (of_decide_eq_true h).2 ?_
  cases scope <;> first | decide | cases hmotive

namespace Entry

/-! ## One component -/

/-- Whether an entry has a component that is no engine and no train, at the address that it is bound to, and that heard
nothing but what can be sent. -/
structure Stationary (e : Entry) : Prop where
  still : e.scope.isMotive = false
  scope_eq : e.state.scope = e.scope
  bound : e.state.profile.address = some e.address
  admitted : e.scope.admits e.address = true
  kept : e.state.Kept

theorem Stationary.addressed (h : e.Stationary) : ∀ u ∈ e.state.script, u.resent.Addressed e.scope e.address := by
  rw [← h.scope_eq]
  exact Component.addressed_script (h.scope_eq ▸ h.still) h.bound (h.scope_eq ▸ h.admitted)

theorem Stationary.sendable (h : e.Stationary) : ∀ u ∈ e.state.script, u.Sendable :=
  Component.sendable_script h.kept (h.scope_eq ▸ h.still)

/-- Only for the component at the broadcast address broadcasts are sent. -/
theorem Stationary.broadcasts_eq_nil (h : e.Stationary) (haway : e.address ≠ broadcastAddress) :
    e.state.broadcasts = [] := by
  refine List.eq_nil_iff_forall_not_mem.mpr fun u hu => haway ?_
  cases u with
  | message m => cases (List.mem_filter.mp hu).2
  | command d =>
      obtain ⟨hsent, hall⟩ := Component.of_mem_broadcasts hu
      exact (congrArg Prod.snd (Option.some.inj (h.addressed _ hsent).target)).symm.trans hall

theorem Stationary.broadcasts (h : e.Stationary) : Component.Broadcasts e.state := by
  by_cases hall : e.address = broadcastAddress
  · exact Component.broadcasts_of_bound (h.scope_eq ▸ h.still) (hall ▸ h.bound) (h.scope_eq ▸ hall ▸ h.admitted)
  · exact .none (h.broadcasts_eq_nil hall)

end Entry

/-- Whether a component comes back that something is sent for: the commands for its outputs leave them where they are,
something that is sent for it files it, and the broadcasts of its kind tell it nothing that it is not sent anyway. -/
structure Entry.Returns (graph : EffectGraph) (broadcasts : List Update) (e : Entry) : Prop where
  restores : e.state.Restores graph
  filed : ∃ u ∈ e.state.script, u.isBroadcast = false
  heard : e.state.Hears e.address broadcasts

theorem Component.exists_direct {c : Component} (h : c.direct ≠ []) : ∃ u ∈ c.script, u.isBroadcast = false := by
  obtain ⟨u, hu⟩ := List.exists_mem_of_ne_nil _ h
  obtain ⟨hsent, hone⟩ := List.mem_filter.mp hu
  exact ⟨u, hsent, by simpa using hone⟩

theorem Component.kind_of_broadcasts {c : Component} (h : Broadcasts c) (hsome : c.broadcasts ≠ []) :
    c.scope = .switch ∨ c.scope = .accessory := by
  cases h with
  | none hnone => exact absurd hnone hsome
  | switch _ _ => exact Or.inl rfl
  | accessory _ _ => exact Or.inr rfl

namespace Entry.Stationary

/-- A component comes back from what is sent for it, where no broadcasts are. -/
theorem takes_alone (h : e.Stationary) (hfits : e.state.profile.NamesFit) (hown : e.state.broadcasts = [])
    (hsome : e.state.direct ≠ []) :
    Component.Takes rules (e.state.Rebuilt (e.Returns rules.graph [])) (e.state.direct.map Update.resent)
      (.fresh e.scope (some e.address)) := by
  have hfiled := Component.exists_direct hsome
  rw [Component.direct_of_broadcasts hown, ← h.scope_eq, ← h.bound]
  refine Component.takes_imp (Component.takes_script h.kept (h.scope_eq ▸ h.still) hfits ?_ ?_) fun d hd => ?_
  · intro address haddress
    cases h.bound.symm.trans haddress
    exact h.scope_eq ▸ h.admitted
  · intro hfree
    cases h.bound.symm.trans hfree
  · exact ⟨fun hreturns => hd.same hreturns.restores,
      fun hresent => ⟨hd.holds hresent, hfiled, Or.inr fun u hu => absurd hu List.not_mem_nil⟩⟩

/-- A component comes back from what is sent for it and the broadcasts for the component at the broadcast address, under
the stock graph. -/
theorem takes_beside {caster : Entry} (h : e.Stationary) (hcaster : caster.Stationary) (hscope : caster.scope = e.scope)
    (haddress : caster.address = broadcastAddress) (hcasts : caster.state.broadcasts ≠ [])
    (hone : e.address = broadcastAddress → e = caster) (hfits : e.state.profile.NamesFit)
    (hsome : e.state.direct ≠ []) (settings : Settings) :
    Component.Takes ⟨.stock, settings⟩
      (Component.Takes ⟨.stock, settings⟩ (e.state.Rebuilt (e.Returns .stock caster.state.broadcasts))
        caster.state.broadcasts)
      (e.state.direct.map Update.resent) (.fresh e.scope (some e.address)) := by
  have hscopes : caster.state.scope = e.state.scope := hcaster.scope_eq.trans (hscope.trans h.scope_eq.symm)
  have hkind : e.state.scope = .switch ∨ e.state.scope = .accessory :=
    hscopes ▸ Component.kind_of_broadcasts hcaster.broadcasts hcasts
  have hadmits : e.state.scope.admits e.address = true := h.scope_eq ▸ h.admitted
  have hrebuilt : ∀ d, e.state.Respelled (e.state.Hears e.address caster.state.broadcasts) d →
      e.state.Rebuilt (e.Returns .stock caster.state.broadcasts) d := fun d hd =>
    Component.rebuilt_of_respelled ⟨fun hreturns => hd.same hreturns.heard,
      fun hresent => ⟨Component.restores_stock h.kept, Component.exists_direct hsome, hd.holds hresent⟩⟩
  rw [← h.scope_eq]
  by_cases hsame : e.address = broadcastAddress
  · obtain rfl := hone hsame
    rw [hsame] at hrebuilt hadmits ⊢
    exact Component.takes_imp (Component.takes_own_broadcasts h.kept hkind hfits (hsame ▸ h.bound) hadmits settings)
      fun d hd => Component.takes_imp hd hrebuilt
  · rw [Component.direct_of_broadcasts (h.broadcasts_eq_nil hsame)]
    exact Component.takes_imp (Component.takes_overheard h.kept hcaster.kept hscopes hkind hfits h.bound hadmits
      (haddress ▸ hcaster.bound) (hcaster.scope_eq ▸ haddress ▸ hcaster.admitted) settings)
      fun d hd => Component.takes_imp hd hrebuilt

end Entry.Stationary

namespace Store

variable {store : Store}

theorem stationary_of_mem (h : Regular rules store) (hlisted : Listed store) (he : e ∈ store.entries)
    (hmotive : e.scope.isMotive = false) (hsettled : e.scope.bound e.address = e.address) (hkept : e.state.Kept) :
    e.Stationary where
  still := hmotive
  scope_eq := (h.sound.sound e he).scope_eq
  bound := hsettled ▸ h.placed.bound e he
  admitted := hsettled ▸ hlisted.admitted e.key (List.mem_map_of_mem he)
  kept := hkept

/-! ## What is sent for a kind -/

theorem mem_ofScope : e ∈ store.ofScope scope ↔ e ∈ store.entries ∧ e.scope = scope := by
  rw [ofScope, List.mem_filter, beq_iff_eq]

theorem mem_scriptOrder (scope : Scope) : scope ∈ scriptOrder := by
  cases scope <;> decide

theorem mem_flatMap_scriptOrder : e ∈ scriptOrder.flatMap store.ofScope ↔ e ∈ store.entries := by
  rw [mem_flatMap_ofScope]
  exact and_iff_left (mem_scriptOrder e.scope)

theorem mem_script {u : Update} : u ∈ store.script ↔ ∃ e ∈ store.entries, u ∈ e.state.script := by
  rw [script, List.mem_flatMap]
  exact exists_congr fun e => and_congr_left' mem_flatMap_scriptOrder

/-- What is sent for the components of a kind and reaches all of them. -/
def broadcasts (store : Store) (scope : Scope) : List Update :=
  (store.ofScope scope).flatMap fun e => e.state.broadcasts

/-- No broadcast is sent for any kind if none is sent at all. -/
theorem broadcasts_eq_nil (h : ∀ u ∈ store.script, u.isBroadcast = false) (scope : Scope) :
    store.broadcasts scope = [] := by
  refine List.flatMap_eq_nil_iff.mpr fun e he => List.filter_eq_nil_iff.mpr fun u hu hall => ?_
  have hone := h u (mem_script.mpr ⟨e, (mem_ofScope.mp he).1, hu⟩)
  exact Bool.false_ne_true (hone.symm.trans hall)

theorem broadcasts_addressed (hall : ∀ e ∈ store.entries, e.Stationary) (scope : Scope) :
    Broadcasts scope (store.broadcasts scope) := by
  intro u hu
  obtain ⟨e, he, hsent⟩ := List.mem_flatMap.mp hu
  obtain ⟨hin, rfl⟩ := mem_ofScope.mp he
  obtain ⟨hscript, hbroadcast⟩ := List.mem_filter.mp hsent
  cases u with
  | message m => cases hbroadcast
  | command d => exact ⟨hbroadcast, e.address, (hall e hin).addressed _ hscript⟩

theorem flatMap_eq_of_mem {α β : Type} {f : α → List β} {as : List α} {a : α} (hnodup : as.Nodup) (ha : a ∈ as)
    (hother : ∀ b ∈ as, b ≠ a → f b = []) : as.flatMap f = f a := by
  obtain ⟨before, after, rfl⟩ := List.append_of_mem ha
  have hapart := List.nodup_middle.mp hnodup
  have hbefore : before.flatMap f = [] := List.flatMap_eq_nil_iff.mpr fun b hb =>
    hother b (List.mem_append_left _ hb) fun hsame =>
      (List.nodup_cons.mp hapart).1 (hsame ▸ List.mem_append_left _ hb)
  have hafter : after.flatMap f = [] := List.flatMap_eq_nil_iff.mpr fun b hb =>
    hother b (List.mem_append_right _ (List.mem_cons_of_mem a hb)) fun hsame =>
      (List.nodup_cons.mp hapart).1 (hsame ▸ List.mem_append_right _ hb)
  rw [List.flatMap_append, List.flatMap_cons, hbefore, hafter, List.nil_append, List.append_nil]

/-- The broadcasts of a kind are those that are sent for the component at the broadcast address. -/
theorem broadcasts_eq (hdistinct : store.keys.Nodup) (hall : ∀ e ∈ store.entries, e.Stationary)
    (he : e ∈ store.ofScope scope) (haddress : e.address = broadcastAddress) :
    store.broadcasts scope = e.state.broadcasts := by
  have hnodup : (store.ofScope scope).Nodup := (List.Nodup.of_map Entry.key hdistinct).filter _
  refine flatMap_eq_of_mem hnodup he fun other hother hne => ?_
  obtain ⟨hin, hscope⟩ := mem_ofScope.mp he
  obtain ⟨hinOther, hscopeOther⟩ := mem_ofScope.mp hother
  refine (hall other hinOther).broadcasts_eq_nil fun hsame => hne ?_
  exact eq_of_key_eq hdistinct hinOther hin (Prod.ext (hscopeOther.trans hscope.symm) (hsame.trans haddress.symm))

theorem flatMap_append_of_pairwise {α β : Type} {f g h : α → List β} {as : List α}
    (hsplit : ∀ a ∈ as, f a = g a ++ h a) (hlast : as.Pairwise fun a _ => h a = []) :
    as.flatMap f = as.flatMap g ++ as.flatMap h := by
  induction as with
  | nil => rfl
  | cons a rest ih =>
      obtain ⟨hfirst, hrest⟩ := List.pairwise_cons.mp hlast
      have hmore := ih (fun b hb => hsplit b (List.mem_cons_of_mem a hb)) hrest
      rw [List.flatMap_cons, List.flatMap_cons, List.flatMap_cons, hmore, hsplit a List.mem_cons_self]
      cases rest with
      | nil => simp only [List.flatMap_nil, List.append_nil]
      | cons b others => rw [hfirst b List.mem_cons_self, List.append_nil, List.nil_append, List.append_assoc]

/-- What is sent for a store, as it is read again: kind by kind, and for each kind what reaches one component before what
reaches all of them. -/
theorem resent_script (hlisted : Listed store) (hall : ∀ e ∈ store.entries, e.Stationary) :
    store.script.map Update.resent = scriptOrder.flatMap fun scope =>
      ((store.ofScope scope).flatMap fun e => e.state.direct.map Update.resent) ++ store.broadcasts scope := by
  rw [script, List.flatMap_assoc, List.map_flatMap]
  refine List.flatMap_congr fun scope _ => ?_
  rw [List.map_flatMap]
  refine flatMap_append_of_pairwise (fun e he => ?_) ?_
  · rw [Component.script_eq_append (hall e (mem_ofScope.mp he).1).broadcasts, List.map_append,
      Component.map_resent_broadcasts]
  · -- Components are listed by address, so none comes after the one at the broadcast address.
    refine (pairwise_ofScope hlisted scope).imp_of_mem fun {e other} he hother hbefore => ?_
    refine (hall e (mem_ofScope.mp he).1).broadcasts_eq_nil fun hsame => ?_
    have hother := hall other (mem_ofScope.mp hother).1
    have hlast := Scope.le_broadcastAddress hother.still hother.admitted
    exact UInt16.lt_irrefl _ (UInt16.lt_of_lt_of_le (hsame ▸ hbefore) hlast)

/-! ## What comes back -/

/-- Whether every component of a store comes back that something is sent for. -/
def Returns (store : Store) (graph : EffectGraph) : Prop :=
  ∀ e ∈ store.entries, e.state.script ≠ [] → e.Returns graph (store.broadcasts e.scope)

/-- If no broadcast is sent, every component comes back of which the outputs are left where they are. -/
theorem returns_of_silent (h : ∀ u ∈ store.script, u.isBroadcast = false) (graph : EffectGraph) :
    store.Returns graph ↔ ∀ e ∈ store.entries, e.state.script ≠ [] → e.state.Restores graph := by
  refine ⟨fun hreturns e he hsome => (hreturns e he hsome).restores, fun hrestores e he hsome => ?_⟩
  obtain ⟨u, hu⟩ := List.exists_mem_of_ne_nil _ hsome
  refine ⟨hrestores e he hsome, ⟨u, hu, h u (mem_script.mpr ⟨e, he, hu⟩)⟩, Or.inr fun v hv => ?_⟩
  rw [broadcasts_eq_nil h] at hv
  exact absurd hv List.not_mem_nil

/-- What is sent for a component of a store brings it back, with the broadcasts of its kind after it. If there are any the
graph must be the stock one. -/
theorem retold_of_mem (hdistinct : store.keys.Nodup) (hall : ∀ e ∈ store.entries, e.Stationary)
    (he : e ∈ store.entries) (hfits : e.state.profile.NamesFit)
    (hgraph : rules.graph = .stock ∨ store.broadcasts e.scope = []) :
    Retold rules (Component.Takes rules (e.state.Rebuilt (e.Returns rules.graph (store.broadcasts e.scope)))
      (store.broadcasts e.scope)) e := by
  have h := hall e he
  refine ⟨h.still, h.admitted, fun u hu => h.addressed u (List.mem_filter.mp hu).1, fun hsome => ?_⟩
  by_cases hnone : store.broadcasts e.scope = []
  · have hown : e.state.broadcasts = [] := List.flatMap_eq_nil_iff.mp hnone e (mem_ofScope.mpr ⟨he, rfl⟩)
    rw [hnone]
    exact h.takes_alone hfits hown hsome
  · obtain ⟨graph, settings⟩ := rules
    obtain rfl : graph = .stock := hgraph.resolve_right hnone
    obtain ⟨u, hu⟩ := List.exists_mem_of_ne_nil _ hnone
    obtain ⟨caster, hcaster, hcast⟩ := List.mem_flatMap.mp hu
    obtain ⟨hin, hscope⟩ := mem_ofScope.mp hcaster
    have hcasts : caster.state.broadcasts ≠ [] := List.ne_nil_of_mem hcast
    have haddress : caster.address = broadcastAddress := by
      by_contra haway
      exact hcasts ((hall caster hin).broadcasts_eq_nil haway)
    have hone : e.address = broadcastAddress → e = caster := fun hsame =>
      eq_of_key_eq hdistinct he hin (Prod.ext hscope.symm (hsame.trans haddress.symm))
    rw [broadcasts_eq hdistinct hall hcaster haddress]
    exact h.takes_beside (hall caster hin) hscope haddress hcasts hone hfits hsome settings

/-- An empty store that is told what is sent for another one. -/
theorem refiled_replayed {rules' : Rules} (h : Regular rules store) (hlisted : Listed store)
    (hall : ∀ e ∈ store.entries, e.Stationary) (hfits : ∀ e ∈ store.entries, e.state.profile.NamesFit)
    (hgraph : rules'.graph = .stock ∨ ∀ scope, store.broadcasts scope = []) {timed : List (Nat × Update)}
    (htimed : timed.map Prod.snd = store.script.map Update.resent) :
    Regular rules' ((empty rules').run timed) ∧
      Refiled (fun e => e.state.Rebuilt (e.Returns rules'.graph (store.broadcasts e.scope)))
        (scriptOrder.flatMap store.ofScope) ((empty rules').run timed) := by
  rw [resent_script hlisted hall] at htimed
  have hdistinct := h.sound.distinct
  have hscopes : scriptOrder.Nodup := by decide
  have hnone := refiled_empty (fun e => e.state.Rebuilt (e.Returns rules'.graph (store.broadcasts e.scope))) rules'
  refine refiled_run (fun scope e he => (mem_ofScope.mp he).2)
    (fun scope => hdistinct.sublist (List.filter_sublist.map Entry.key)) (fun scope e he => ?_)
    (broadcasts_addressed hall) hscopes htimed (regular_empty rules') (fun e he => absurd he List.not_mem_nil) hnone
  obtain ⟨hin, rfl⟩ := mem_ofScope.mp he
  exact retold_of_mem hdistinct hall hin (hfits e hin) (hgraph.imp_right fun hnone => hnone e.scope)

end Store
end RailLayout
