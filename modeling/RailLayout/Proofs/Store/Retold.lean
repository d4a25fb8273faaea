import RailLayout.Proofs.Store.Listed
import RailLayout.Proofs.Store.Overheard

/-!
Updates that are told to a store one after the other. What is for one component reaches this component, which is filed if
it is new, and no other one (`Store.run_of_takes`); a broadcast is told to every component of its kind that is filed, and
files none (`Store.run_of_broadcasts`). So what is sent for several components files those for which something is sent
that reaches no other one, and brings each to where it is after that and the broadcasts of its kind
(`Store.refiled_run`).
-/

namespace RailLayout

namespace Store

variable {rules : Rules} {store later : Store} {e : Entry} {scope : Scope} {n : UInt16} {now : Nat} {u : Update}
  {c : Component}

/-! ## One update -/

/-- What is kept of a store while it is told updates. -/
structure Regular (rules : Rules) (store : Store) : Prop where
  sound : Sound store
  placed : Placed store
  rules_eq : store.rules = rules

theorem regular_empty (rules : Rules) : Regular rules (empty rules) := ⟨sound_empty rules, placed_empty rules, rfl⟩

theorem regular_moves (h : Regular rules store) (hmoves : Moves store later) : Regular rules later where
  sound := sound_moves h.sound hmoves
  placed := moves_invariant placed_move h.sound h.placed hmoves
  rules_eq := moves_invariant (P := fun store => store.rules = rules)
    (fun _ hrules hmove => (rules_move hmove).trans hrules) h.sound h.rules_eq hmoves

/-- An address of a kind other than engine and train leads to itself. -/
theorem key_of_query (h : Regular rules store) (hmotive : scope.isMotive = false)
    (hquery : store.query scope n = some e) : e.key = (scope, n) := by
  refine Prod.ext (query_eq_some hquery).2 ((h.placed.address_of_query hquery).resolve_right ?_)
  rw [hmotive]
  exact fun hother => Bool.false_ne_true hother.1

theorem placeOf_eq (h : Regular rules store) (hmotive : scope.isMotive = false) : store.placeOf scope n = (scope, n) := by
  unfold placeOf place?
  cases hquery : store.query scope n with
  | none => rfl
  | some e =>
      have haddress : e.address = n := congrArg Prod.snd (key_of_query h hmotive hquery)
      exact congrArg (scope, ·) haddress

theorem standing?_of_mem (h : Regular rules store) (he : e ∈ store.entries) :
    store.standing? e.scope e.address = some e.state :=
  standing?_of_query (query_own h.sound.distinct he)

/-- Where nothing is filed an address stands for a new component. -/
theorem standing?_of_not_mem (h : Regular rules store) (hmotive : scope.isMotive = false)
    (hadmits : scope.admits n = true) (hfree : (scope, n) ∉ store.keys) :
    store.standing? scope n = some (.fresh scope (some n)) := by
  have hnone : store.query scope n = none := by
    refine Option.eq_none_iff_forall_not_mem.mpr fun e hquery => hfree ?_
    rw [← key_of_query h hmotive hquery]
    exact List.mem_map_of_mem (query_eq_some hquery).1
  have hbuilt : Component.build scope (some n) = .ok (.fresh scope (some n)) :=
    Component.build_eq_fresh fun a ha => Option.some.inj ha ▸ hadmits
  rw [standing?, hnone, hbuilt]
  rfl

/-- An update for one component files it, is told to it and leaves all others. -/
theorem dispatch_of_addressed (h : Regular rules store) (hmotive : scope.isMotive = false)
    (hu : u.Addressed scope n) (hdirect : u.isBroadcast = false) (now : Nat) (hc : store.standing? scope n = some c) :
    Regular rules (store.dispatch now u).state ∧ Spares (· = (scope, n)) store (store.dispatch now u).state ∧
      (scope, n) ∈ (store.dispatch now u).state.keys ∧
        (store.dispatch now u).state.standing? scope n = some (c.update rules now u).state := by
  have hroute : store.dispatch now u = store.route now u := by
    cases u with
    | message m => rfl
    | command d =>
        refine dispatch_eq_route hu.halt hu.target fun hall => ?_
        cases hu.target
        simp [Update.isBroadcast, Command.isBroadcast, hall] at hdirect
  obtain ⟨told, hmakes, htold | ⟨sighting, hsighting, -⟩⟩ := makes_route h.sound now hu.target
  · rw [hroute, htold]
    have hregular := regular_moves h hmakes.moves
    have hstate := hmakes.state
    rw [hc, h.rules_eq] at hstate
    obtain ⟨x, hquery, hx⟩ := Option.map_eq_some_iff.mp hstate
    have hkey := key_of_query hregular hmotive hquery
    refine ⟨hregular, placeOf_eq h hmotive ▸ hmakes.spares, ?_, ?_⟩
    · exact hkey ▸ List.mem_map_of_mem (query_eq_some hquery).1
    · rw [standing?_of_query hquery, hx]
  · rw [hu.sighting] at hsighting
    cases hsighting

/-! ## One component -/

/-- Updates for one component that it takes file it, bring it to where it is after them, and leave all others. -/
theorem run_of_takes {P : Component → Prop} (hmotive : scope.isMotive = false) {us : List Update}
    (hus : ∀ u ∈ us, u.Addressed scope n ∧ u.isBroadcast = false) {timed : List (Nat × Update)}
    (htimed : timed.map Prod.snd = us) (h : Regular rules store) (hc : store.standing? scope n = some c)
    (htakes : Component.Takes rules P us c) (hsome : us ≠ [] ∨ (scope, n) ∈ store.keys) :
    Regular rules (store.run timed) ∧ Spares (· = (scope, n)) store (store.run timed) ∧
      ∃ e ∈ (store.run timed).entries, e.key = (scope, n) ∧ P e.state := by
  induction timed generalizing us store c with
  | nil =>
      subst htimed
      obtain ⟨e, he, hkey⟩ := List.mem_map.mp (hsome.resolve_left fun h => h rfl)
      have hsame : store.standing? scope n = some e.state := by
        rw [← standing?_of_mem h he, show e.scope = scope from congrArg Prod.fst hkey,
          show e.address = n from congrArg Prod.snd hkey]
      obtain rfl := Option.some.inj (hc.symm.trans hsame)
      exact ⟨h, spares_refl store, e, he, hkey, htakes⟩
  | cons first rest ih =>
      obtain ⟨now, u⟩ := first
      subst htimed
      obtain ⟨d, changed, hupdate, hd⟩ := htakes now
      obtain ⟨hregular, hspares, hfiled, hstanding⟩ :=
        dispatch_of_addressed h hmotive (hus u List.mem_cons_self).1 (hus u List.mem_cons_self).2 now hc
      rw [hupdate] at hstanding
      obtain ⟨hlast, hmore, hP⟩ := ih (fun v hv => hus v (List.mem_cons_of_mem u hv)) rfl hregular hstanding hd
        (Or.inr hfiled)
      exact ⟨hlast, spares_trans hspares hmore, hP⟩

/-! ## Broadcasts -/

/-- A broadcast is told to every component of its kind that is filed, leaves all others and files none. -/
theorem dispatch_of_broadcast (h : Regular rules store) {d : Command} (hall : d.isBroadcast = true)
    (hhalt : (Update.command d).isHalt = false) (now : Nat) :
    Regular rules (store.dispatch now (.command d)).state ∧ (store.dispatch now (.command d)).state.keys = store.keys ∧
      ∀ e ∈ store.entries, (if e.scope = d.scope then e.updated rules now (.command d) else e) ∈
        (store.dispatch now (.command d)).state.entries := by
  have hentries : (store.dispatch now (.command d)).state.entries =
      store.entries.map fun e => if e.scope = d.scope then e.updated rules now (.command d) else e := by
    rw [dispatch_broadcast hall hhalt, applyToAll_command h.sound (List.nodup_singleton d.scope), h.rules_eq]
    simp only [List.mem_singleton]
  refine ⟨regular_moves h (moves_dispatch now _ store), ?_, fun e he => ?_⟩
  · rw [keys, keys, hentries, List.map_map]
    refine List.map_congr_left fun e _ => ?_
    rw [Function.comp_apply]
    split
    · exact Entry.key_updated rules now _ e
    · rfl
  · rw [hentries]
    exact List.mem_map_of_mem he

/-- Updates that reach every component of a kind, and only these. -/
def Broadcasts (scope : Scope) (us : List Update) : Prop :=
  ∀ u ∈ us, u.isBroadcast = true ∧ ∃ n, u.Addressed scope n

/-- Broadcasts to a kind bring every component of it that is filed to where it is after them, and leave all others. -/
theorem run_of_broadcasts {us : List Update} (hus : Broadcasts scope us) {timed : List (Nat × Update)}
    (htimed : timed.map Prod.snd = us) (h : Regular rules store) :
    Regular rules (store.run timed) ∧ (store.run timed).keys = store.keys ∧
      (∀ e ∈ store.entries, e.scope ≠ scope → e ∈ (store.run timed).entries) ∧
      ∀ (P : Component → Prop), ∀ e ∈ store.entries, e.scope = scope → Component.Takes rules P us e.state →
        ∃ x ∈ (store.run timed).entries, x.key = e.key ∧ P x.state := by
  induction timed generalizing us store with
  | nil =>
      subst htimed
      exact ⟨h, rfl, fun e he _ => he, fun P e he _ htakes => ⟨e, he, rfl, htakes⟩⟩
  | cons first rest ih =>
      obtain ⟨now, u⟩ := first
      subst htimed
      obtain ⟨hall, n, hu⟩ := hus u List.mem_cons_self
      cases u with
      | message m => cases hall
      | command d =>
          obtain rfl : d.scope = scope := congrArg Prod.fst (Option.some.inj hu.target)
          obtain ⟨hregular, hkeysFirst, hfirst⟩ := dispatch_of_broadcast h hall hu.halt now
          obtain ⟨hlast, hkeys, hothers, htold⟩ := ih (fun v hv => hus v (List.mem_cons_of_mem _ hv)) rfl hregular
          refine ⟨hlast, hkeys.trans hkeysFirst, fun e he haway => ?_, fun P e he hsame htakes => ?_⟩
          · have hkept := hfirst e he
            rw [if_neg haway] at hkept
            exact hothers e hkept haway
          · have hupdated := hfirst e he
            rw [if_pos hsame] at hupdated
            obtain ⟨c, changed, hupdate, hc⟩ := htakes now
            obtain ⟨hscope, -, hstate⟩ := Entry.updated_same rules now (.command d) e
            rw [hupdate] at hstate
            obtain ⟨x, hx, hkey, hP⟩ := htold P _ hupdated (hscope.trans hsame) (hstate.symm ▸ hc)
            exact ⟨x, hx, hkey.trans (Entry.key_updated rules now _ e), hP⟩

/-! ## One component after the other -/

/-- Of some components exactly those are filed for which something is sent that reaches no other one, and a condition
holds of each. -/
structure Refiled (P : Entry → Component → Prop) (entries : List Entry) (store : Store) : Prop where
  filed : ∀ e ∈ entries, e.state.direct ≠ [] → ∃ x ∈ store.entries, x.key = e.key ∧ P e x.state
  only : ∀ x ∈ store.entries, ∃ e ∈ entries, e.state.direct ≠ [] ∧ x.key = e.key

theorem refiled_empty (P : Entry → Component → Prop) (rules : Rules) : Refiled P [] (empty rules) where
  filed _ he := absurd he List.not_mem_nil
  only _ hx := absurd hx List.not_mem_nil

variable {P Q : Entry → Component → Prop} {before entries : List Entry}

theorem refiled_imp (h : Refiled P entries store) (himp : ∀ e ∈ entries, ∀ c, P e c → Q e c) : Refiled Q entries store where
  filed e he hsome := by
    obtain ⟨x, hx, hkey, hP⟩ := h.filed e he hsome
    exact ⟨x, hx, hkey, himp e he _ hP⟩
  only := h.only

/-- Whether what is sent to a component's own address brings it to where a condition holds. -/
structure Retold (rules : Rules) (P : Component → Prop) (e : Entry) : Prop where
  still : e.scope.isMotive = false
  admitted : e.scope.admits e.address = true
  addressed : ∀ u ∈ e.state.direct, u.resent.Addressed e.scope e.address
  takes : e.state.direct ≠ [] →
    Component.Takes rules P (e.state.direct.map Update.resent) (.fresh e.scope (some e.address))

/-- What is sent for one more component files it, if there is anything. -/
theorem refiled_retold (he : Retold rules (P e) e) (haway : e.key ∉ before.map Entry.key)
    {timed : List (Nat × Update)} (htimed : timed.map Prod.snd = e.state.direct.map Update.resent)
    (h : Regular rules store) (hrefiled : Refiled P before store) :
    Regular rules (store.run timed) ∧ Refiled P (before ++ [e]) (store.run timed) := by
  by_cases hsome : e.state.direct = []
  · have hnil : timed = [] := List.map_eq_nil_iff.mp (htimed.trans (by rw [hsome]; rfl))
    subst hnil
    refine ⟨h, fun old hold hfiled => ?_, fun x hx => ?_⟩
    · rcases List.mem_append.mp hold with hold | hnew
      · exact hrefiled.filed old hold hfiled
      · exact absurd (List.mem_singleton.mp hnew ▸ hsome) hfiled
    · obtain ⟨old, hold, hfiled⟩ := hrefiled.only x hx
      exact ⟨old, List.mem_append_left _ hold, hfiled⟩
  · have hfree : (e.scope, e.address) ∉ store.keys := by
      intro hkey
      obtain ⟨x, hx, hsame⟩ := List.mem_map.mp hkey
      obtain ⟨old, hold, -, hsameOld⟩ := hrefiled.only x hx
      exact haway (List.mem_map.mpr ⟨old, hold, hsameOld.symm.trans hsame⟩)
    have hus : ∀ u ∈ e.state.direct.map Update.resent, u.Addressed e.scope e.address ∧ u.isBroadcast = false := by
      refine List.forall_mem_map.mpr fun u hu => ⟨he.addressed u hu, ?_⟩
      rw [Update.isBroadcast_resent]
      simpa using (List.mem_filter.mp hu).2
    obtain ⟨hregular, hspares, x, hx, hkey, hP⟩ := run_of_takes he.still hus htimed h
      (standing?_of_not_mem h he.still he.admitted hfree) (he.takes hsome)
      (Or.inl fun hnone => hsome (List.map_eq_nil_iff.mp hnone))
    refine ⟨hregular, fun old hold hfiled => ?_, fun y hy => ?_⟩
    · rcases List.mem_append.mp hold with hold | hnew
      · obtain ⟨y, hy, hkeyOld, hPy⟩ := hrefiled.filed old hold hfiled
        refine ⟨y, (hspares.same fun hsame => haway ?_).mpr hy, hkeyOld, hPy⟩
        exact List.mem_map.mpr ⟨old, hold, hkeyOld.symm.trans hsame⟩
      · obtain rfl := List.mem_singleton.mp hnew
        exact ⟨x, hx, hkey, hP⟩
    · by_cases hsame : y.key = e.key
      · exact ⟨e, List.mem_append_right _ (List.mem_singleton_self e), hsome, hsame⟩
      · obtain ⟨old, hold, hfiled⟩ := hrefiled.only y ((hspares.same hsame).mp hy)
        exact ⟨old, List.mem_append_left _ hold, hfiled⟩

/-- What is sent for more components, one after the other. -/
theorem refiled_each (hkeys : (entries.map Entry.key).Nodup) (hretold : ∀ e ∈ entries, Retold rules (P e) e)
    (haway : ∀ e ∈ entries, e.key ∉ before.map Entry.key) {timed : List (Nat × Update)}
    (htimed : timed.map Prod.snd = entries.flatMap fun e => e.state.direct.map Update.resent)
    (h : Regular rules store) (hrefiled : Refiled P before store) :
    Regular rules (store.run timed) ∧ Refiled P (before ++ entries) (store.run timed) := by
  induction entries generalizing timed store before with
  | nil =>
      have hnil : timed = [] := List.map_eq_nil_iff.mp htimed
      subst hnil
      exact ⟨h, (List.append_nil before).symm ▸ hrefiled⟩
  | cons e rest ih =>
      obtain ⟨hfirst, hrest⟩ := List.nodup_cons.mp hkeys
      obtain ⟨own, others, rfl, hown, hothers⟩ := List.map_eq_append_iff.mp htimed
      obtain ⟨hregular, hnext⟩ := refiled_retold (hretold e List.mem_cons_self) (haway e List.mem_cons_self) hown h hrefiled
      rw [run_append, List.append_cons]
      refine ih hrest (fun y hy => hretold y (List.mem_cons_of_mem e hy)) (fun y hy => ?_) hothers hregular hnext
      rw [List.map_append, List.mem_append]
      rintro (hold | hsame)
      · exact haway y (List.mem_cons_of_mem e hy) hold
      · exact hfirst (List.mem_singleton.mp hsame ▸ List.mem_map_of_mem hy)

/-! ## One kind after the other -/

/-- A condition that components of a kind come to when they are told broadcasts. -/
def Pending (rules : Rules) (scope : Scope) (us : List Update) (P : Entry → Component → Prop) (e : Entry)
    (c : Component) : Prop :=
  if e.scope = scope then Component.Takes rules (P e) us c else P e c

/-- The broadcasts of a kind bring its components to where a condition was pending. -/
theorem refiled_broadcasts {us : List Update} (hall : Broadcasts scope us) {timed : List (Nat × Update)}
    (htimed : timed.map Prod.snd = us) (h : Regular rules store)
    (hrefiled : Refiled (Pending rules scope us P) entries store) :
    Regular rules (store.run timed) ∧ Refiled P entries (store.run timed) := by
  obtain ⟨hlast, hkeys, hothers, htold⟩ := run_of_broadcasts hall htimed h
  refine ⟨hlast, fun e he hsome => ?_, fun x hx => ?_⟩
  · obtain ⟨x, hx, hkey, hP⟩ := hrefiled.filed e he hsome
    have hscope : x.scope = e.scope := congrArg Prod.fst hkey
    by_cases hsame : e.scope = scope
    · rw [Pending, if_pos hsame] at hP
      obtain ⟨y, hy, hkeyTold, hPy⟩ := htold (P e) x hx (hscope.trans hsame) hP
      exact ⟨y, hy, hkeyTold.trans hkey, hPy⟩
    · rw [Pending, if_neg hsame] at hP
      exact ⟨x, hothers x hx (hscope.trans_ne hsame), hkey, hP⟩
  · have hfiled : x.key ∈ store.keys := hkeys ▸ List.mem_map_of_mem hx
    obtain ⟨y, hy, hkey⟩ := List.mem_map.mp hfiled
    obtain ⟨e, he, hsome, hsame⟩ := hrefiled.only y hy
    exact ⟨e, he, hsome, hkey.symm.trans hsame⟩

/-- A store is told what is sent for the components of one kind, of which it has none. -/
theorem refiled_append {us : List Update} (hbefore : ∀ e ∈ before, e.scope ≠ scope)
    (hscope : ∀ e ∈ entries, e.scope = scope) (hkeys : (entries.map Entry.key).Nodup)
    (hretold : ∀ e ∈ entries, Retold rules (Component.Takes rules (P e) us) e) (hall : Broadcasts scope us)
    {timed : List (Nat × Update)}
    (htimed : timed.map Prod.snd = (entries.flatMap fun e => e.state.direct.map Update.resent) ++ us)
    (h : Regular rules store) (hrefiled : Refiled P before store) :
    Regular rules (store.run timed) ∧ Refiled P (before ++ entries) (store.run timed) := by
  obtain ⟨direct, after, rfl, hdirect, hafter⟩ := List.map_eq_append_iff.mp htimed
  -- Until the broadcasts are told, the condition is pending for the components of this kind and holds of the others.
  have hpending : Refiled (Pending rules scope us P) before store :=
    refiled_imp hrefiled fun e he c hP => (if_neg (hbefore e he)).mpr hP
  have heach : ∀ e ∈ entries, Retold rules (Pending rules scope us P e) e := by
    intro e he
    have hsame : Pending rules scope us P e = Component.Takes rules (P e) us := funext fun c => if_pos (hscope e he)
    exact hsame ▸ hretold e he
  have haway : ∀ e ∈ entries, e.key ∉ before.map Entry.key := by
    intro e he hkey
    obtain ⟨old, hold, hsame⟩ := List.mem_map.mp hkey
    exact hbefore old hold ((congrArg Prod.fst hsame).trans (hscope e he))
  obtain ⟨hregular, hmid⟩ := refiled_each hkeys heach haway hdirect h hpending
  rw [run_append]
  exact refiled_broadcasts hall hafter hregular hmid

/-- A store is told what is sent for the components of some kinds, of which it has none. -/
theorem refiled_run {kind : Scope → List Entry} {broadcasts : Scope → List Update}
    (hkind : ∀ scope, ∀ e ∈ kind scope, e.scope = scope) (hkeys : ∀ scope, ((kind scope).map Entry.key).Nodup)
    (hretold : ∀ scope, ∀ e ∈ kind scope, Retold rules (Component.Takes rules (P e) (broadcasts scope)) e)
    (hall : ∀ scope, Broadcasts scope (broadcasts scope)) {scopes : List Scope} (hscopes : scopes.Nodup)
    {timed : List (Nat × Update)}
    (htimed : timed.map Prod.snd = scopes.flatMap fun scope =>
      ((kind scope).flatMap fun e => e.state.direct.map Update.resent) ++ broadcasts scope)
    (h : Regular rules store) (hbefore : ∀ e ∈ before, e.scope ∉ scopes)
    (hrefiled : Refiled P before store) :
    Regular rules (store.run timed) ∧ Refiled P (before ++ scopes.flatMap kind) (store.run timed) := by
  induction scopes generalizing timed store before with
  | nil =>
      have hnil : timed = [] := List.map_eq_nil_iff.mp htimed
      subst hnil
      exact ⟨h, (List.append_nil before).symm ▸ hrefiled⟩
  | cons scope rest ih =>
      obtain ⟨hfirst, hrest⟩ := List.nodup_cons.mp hscopes
      obtain ⟨own, others, rfl, hown, hothers⟩ := List.map_eq_append_iff.mp htimed
      obtain ⟨hregular, hnext⟩ := refiled_append
        (fun e he hsame => hbefore e he (hsame ▸ List.mem_cons_self)) (hkind scope) (hkeys scope) (hretold scope)
        (hall scope) hown h hrefiled
      rw [run_append, List.flatMap_cons, ← List.append_assoc]
      refine ih hrest hothers hregular (fun e he hin => ?_) hnext
      rcases List.mem_append.mp he with hold | hnew
      · exact hbefore e hold (List.mem_cons_of_mem scope hin)
      · exact hfirst (hkind scope e hnew ▸ hin)

end Store
end RailLayout
