import RailLayout.Proofs.Store.Returned

/-!
Stores that are rebuilt from their bytes. When the bytes of a store without engines and trains are told to an empty store
one update after the other, the store that was rebuilt has the same bytes, exactly if everything comes back that something
is sent for (`Store.encode_replayed`). A command for the broadcast address files nothing and reaches the other components
of its kind, so a store need not come back if one is written for it; nor does it under every graph
(`Store.replayed_differs`).
-/

namespace RailLayout

namespace Store

variable {rules : Rules} {store later : Store} {e : Entry} {scope : Scope} {n : UInt16}

/-! ## What is written afterwards -/

/-- What brings back the component that an address stands for. -/
def scriptAt (store : Store) (scope : Scope) (n : UInt16) : List Update :=
  ((store.standing? scope n).map Component.script).getD []

theorem scriptAt_of_mem (h : Regular rules store) (he : e ∈ store.entries) :
    store.scriptAt e.scope e.address = e.state.script := by
  rw [scriptAt, standing?_of_query (query_own h.sound.distinct he)]
  rfl

/-- Nothing brings back a component that is not filed. -/
theorem scriptAt_of_not_mem (h : Regular rules store) (hmotive : scope.isMotive = false)
    (hfree : (scope, n) ∉ store.keys) : store.scriptAt scope n = [] := by
  cases hstanding : store.standing? scope n with
  | none => rw [scriptAt, hstanding]; rfl
  | some c =>
      rcases standing?_cases hstanding with ⟨e, he, hkey, -⟩ | ⟨-, -, hbuilt⟩
      · rw [placeOf_eq h hmotive] at hkey
        exact absurd (hkey ▸ List.mem_map_of_mem he) hfree
      · rw [scriptAt, hstanding]
        exact Component.script_of_build hmotive hbuilt

theorem flatMap_filter_of_nil {α β : Type} {p : α → Bool} {f : α → List β} {as : List α}
    (h : ∀ a ∈ as, ¬p a = true → f a = []) : (as.filter p).flatMap f = as.flatMap f := by
  induction as with
  | nil => rfl
  | cons a rest ih =>
      have hrest := ih fun b hb => h b (List.mem_cons_of_mem a hb)
      by_cases ha : p a = true
      · rw [List.filter_cons_of_pos ha, List.flatMap_cons, List.flatMap_cons, hrest]
      · rw [List.filter_cons_of_neg ha, List.flatMap_cons, h a List.mem_cons_self ha, hrest, List.nil_append]

/-- What brings back the components of a kind, from a list of addresses that has all of theirs. -/
theorem flatMap_script_ofScope (h : Regular rules store) (hlisted : Listed store) (hmotive : scope.isMotive = false)
    {addresses : List UInt16} (hsorted : addresses.Pairwise (· < ·))
    (hall : ∀ e ∈ store.ofScope scope, e.address ∈ addresses) :
    ((store.ofScope scope).flatMap fun e => e.state.script) = addresses.flatMap (store.scriptAt scope) := by
  have hfiled : (store.ofScope scope).map Entry.address =
      addresses.filter fun n => decide ((scope, n) ∈ store.keys) := by
    refine List.Pairwise.eq_of_mem_iff (List.pairwise_map.mpr (pairwise_ofScope hlisted scope)) (hsorted.filter _) ?_
    intro n
    rw [List.mem_map, List.mem_filter, decide_eq_true_iff]
    constructor
    · rintro ⟨e, he, rfl⟩
      obtain ⟨hin, rfl⟩ := mem_ofScope.mp he
      exact ⟨hall e he, List.mem_map_of_mem hin⟩
    · rintro ⟨-, hkey⟩
      obtain ⟨e, hin, hsame⟩ := List.mem_map.mp hkey
      exact ⟨e, mem_ofScope.mpr ⟨hin, congrArg Prod.fst hsame⟩, congrArg Prod.snd hsame⟩
  calc ((store.ofScope scope).flatMap fun e => e.state.script)
      = (store.ofScope scope).flatMap fun e => store.scriptAt scope e.address := by
        refine List.flatMap_congr fun e he => ?_
        obtain ⟨hin, rfl⟩ := mem_ofScope.mp he
        exact (scriptAt_of_mem h hin).symm
    _ = ((store.ofScope scope).map Entry.address).flatMap (store.scriptAt scope) := (List.flatMap_map _ _ _).symm
    _ = addresses.flatMap (store.scriptAt scope) := by
        rw [hfiled]
        refine flatMap_filter_of_nil fun n _ hfree => scriptAt_of_not_mem h hmotive fun hkey => hfree ?_
        exact decide_eq_true hkey

/-- If every component stands for the same bytes in another store, and nothing else is filed there, the stores have the
same bytes. -/
theorem sameBytes_script (hlisted : Listed store) (hlater : Regular rules later) (hlistedLater : Listed later)
    (hmotive : ∀ e ∈ store.entries, e.scope.isMotive = false) (hkeys : ∀ key ∈ later.keys, key ∈ store.keys)
    (hsame : ∀ e ∈ store.entries, Update.SameBytes (later.scriptAt e.scope e.address) e.state.script) :
    Update.SameBytes later.script store.script := by
  rw [script, script, List.flatMap_assoc, List.flatMap_assoc]
  refine Update.sameBytes_flatMap fun scope _ => ?_
  have hfound : ∀ e ∈ later.ofScope scope, ∃ old ∈ store.ofScope scope, old.address = e.address := by
    intro e he
    obtain ⟨hin, hscope⟩ := mem_ofScope.mp he
    obtain ⟨old, hold, hkey⟩ := List.mem_map.mp (hkeys e.key (List.mem_map_of_mem hin))
    exact ⟨old, mem_ofScope.mpr ⟨hold, (congrArg Prod.fst hkey).trans hscope⟩, congrArg Prod.snd hkey⟩
  cases hscope : scope.isMotive with
  | true =>
      have hnone : store.ofScope scope = [] := by
        refine List.eq_nil_iff_forall_not_mem.mpr fun e he => ?_
        obtain ⟨hin, rfl⟩ := mem_ofScope.mp he
        rw [hmotive e hin] at hscope
        cases hscope
      have hnoneLater : later.ofScope scope = [] := by
        refine List.eq_nil_iff_forall_not_mem.mpr fun e he => ?_
        obtain ⟨old, hold, -⟩ := hfound e he
        rw [hnone] at hold
        exact List.not_mem_nil hold
      rw [hnone, hnoneLater]
      exact fun σ codec => rfl
  | false =>
      have hsorted : ((store.ofScope scope).map Entry.address).Pairwise (· < ·) :=
        List.pairwise_map.mpr (pairwise_ofScope hlisted scope)
      have hall : ∀ e ∈ later.ofScope scope, e.address ∈ (store.ofScope scope).map Entry.address := by
        intro e he
        obtain ⟨old, hold, haddress⟩ := hfound e he
        exact haddress ▸ List.mem_map_of_mem hold
      rw [flatMap_script_ofScope hlater hlistedLater hscope hsorted hall, List.flatMap_map]
      refine Update.sameBytes_flatMap fun e he => ?_
      obtain ⟨hin, rfl⟩ := mem_ofScope.mp he
      exact hsame e hin

/-! ## The store that was rebuilt -/

/-- What is sent for an address is what the component is sent that the address stands for. -/
theorem filter_script (h : Regular rules store) (hall : ∀ e ∈ store.entries, e.Stationary)
    (hmotive : scope.isMotive = false) (n : UInt16) :
    (store.script.map Update.resent).filter (fun u => u.target? = some (scope, n)) =
      (store.scriptAt scope n).map Update.resent := by
  have htarget : ∀ e ∈ store.entries, ∀ u ∈ e.state.script.map Update.resent, u.target? = some e.key := fun e he =>
    List.forall_mem_map.mpr fun u hu => ((hall e he).addressed u hu).target
  have hother : ∀ e ∈ scriptOrder.flatMap store.ofScope, e.key ≠ (scope, n) →
      (e.state.script.map Update.resent).filter (fun u => u.target? = some (scope, n)) = [] := by
    intro e he haway
    refine List.filter_eq_nil_iff.mpr fun u hu hsame => haway ?_
    rw [htarget e (mem_flatMap_scriptOrder.mp he) u hu] at hsame
    exact Option.some.inj (of_decide_eq_true hsame)
  rw [script, List.map_flatMap, List.filter_flatMap]
  by_cases hfiled : (scope, n) ∈ store.keys
  · obtain ⟨e, he, hkey⟩ := List.mem_map.mp hfiled
    obtain rfl : e.scope = scope := congrArg Prod.fst hkey
    obtain rfl : e.address = n := congrArg Prod.snd hkey
    rw [scriptAt_of_mem h he]
    refine (flatMap_eq_of_mem (nodup_flatMap_ofScope h.sound (by decide)) (mem_flatMap_scriptOrder.mpr he)
      fun other hin hne => hother other hin fun hsame => hne ?_).trans ?_
    · exact eq_of_key_eq h.sound.distinct (mem_flatMap_scriptOrder.mp hin) he hsame
    · exact List.filter_eq_self.mpr fun u hu => decide_eq_true (htarget e he u hu)
  · rw [scriptAt_of_not_mem h hmotive hfiled]
    refine List.flatMap_eq_nil_iff.mpr fun e he => hother e he fun hsame => hfiled ?_
    exact hsame ▸ List.mem_map_of_mem (mem_flatMap_scriptOrder.mp he)

section Refiled

variable {rules' : Rules} {P : Entry → Component → Prop} (h : Regular rules store) (hlater : Regular rules' later)
  (hall : ∀ e ∈ store.entries, e.Stationary) (hrefiled : Refiled P (scriptOrder.flatMap store.ofScope) later)
include h hlater hall hrefiled

/-- Components that are filed again are where they were filed before. -/
theorem stationary_of_refiled (hlisted : Listed later) (hkept : ∀ x ∈ later.entries, x.state.Kept) :
    ∀ x ∈ later.entries, x.Stationary := by
  intro x hx
  obtain ⟨e, hin, -, hkey⟩ := hrefiled.only x hx
  have he := mem_flatMap_scriptOrder.mp hin
  obtain ⟨hscope, haddress⟩ : x.scope = e.scope ∧ x.address = e.address := Prod.mk.inj hkey
  refine stationary_of_mem hlater hlisted hx (hscope ▸ (hall e he).still) ?_ (hkept x hx)
  rw [hscope, haddress]
  exact Option.some.inj ((h.placed.bound e he).symm.trans (hall e he).bound)

theorem scriptAt_of_direct_eq_nil (he : e ∈ store.entries) (hnone : e.state.direct = []) :
    later.scriptAt e.scope e.address = [] := by
  refine scriptAt_of_not_mem hlater (hall e he).still fun hfiled => ?_
  obtain ⟨x, hx, hkey⟩ := List.mem_map.mp hfiled
  obtain ⟨other, hother, hsome, hsame⟩ := hrefiled.only x hx
  exact hsome (eq_of_key_eq h.sound.distinct (mem_flatMap_scriptOrder.mp hother) he (hsame.symm.trans hkey) ▸ hnone)

omit h hall in
theorem scriptAt_of_direct_ne_nil (he : e ∈ store.entries) (hsome : e.state.direct ≠ []) :
    ∃ c, later.scriptAt e.scope e.address = c.script ∧ P e c := by
  obtain ⟨x, hx, hkey, hP⟩ := hrefiled.filed e (mem_flatMap_scriptOrder.mpr he) hsome
  obtain ⟨hscope, haddress⟩ : x.scope = e.scope ∧ x.address = e.address := Prod.mk.inj hkey
  exact ⟨x.state, hscope ▸ haddress ▸ scriptAt_of_mem hlater hx, hP⟩

end Refiled

/-- A store that files what comes back of another one. -/
structure Rebuilt (graph : EffectGraph) (store later : Store) : Prop where
  /-- The stores have the same bytes if everything comes back. -/
  same : store.Returns graph → Update.SameBytes later.script store.script
  /-- If the same is sent for both, everything came back. -/
  returns : later.script.map Update.resent = store.script.map Update.resent → store.Returns graph
  sendable : ∀ u ∈ later.script, u.Sendable

theorem rebuilt_of_refiled {rules' : Rules} (h : Regular rules store) (hlisted : Listed store)
    (hall : ∀ e ∈ store.entries, e.Stationary) (hlater : Regular rules' later) (hlistedLater : Listed later)
    (hkept : ∀ x ∈ later.entries, x.state.Kept) {graph : EffectGraph}
    (hrefiled : Refiled (fun e => e.state.Rebuilt (e.Returns graph (store.broadcasts e.scope)))
      (scriptOrder.flatMap store.ofScope) later) :
    store.Rebuilt graph later := by
  have hallLater := stationary_of_refiled h hlater hall hrefiled hlistedLater hkept
  refine ⟨fun hreturns => ?_, fun hsame e he hsome => ?_, fun u hu => ?_⟩
  · refine sameBytes_script hlisted hlater hlistedLater (fun e he => (hall e he).still) (fun key hkey => ?_) fun e he => ?_
    · obtain ⟨x, hx, rfl⟩ := List.mem_map.mp hkey
      obtain ⟨e, he, -, hsame⟩ := hrefiled.only x hx
      exact hsame ▸ List.mem_map_of_mem (mem_flatMap_scriptOrder.mp he)
    · by_cases hsome : e.state.script = []
      · have hnone : e.state.direct = [] := by rw [Component.direct, hsome, List.filter_nil]
        rw [scriptAt_of_direct_eq_nil h hlater hall hrefiled he hnone, hsome]
        exact fun σ codec => rfl
      · have hback := hreturns e he hsome
        obtain ⟨u, hu, hone⟩ := hback.filed
        have hdirect : e.state.direct ≠ [] := List.ne_nil_of_mem (List.mem_filter.mpr ⟨hu, by rw [hone]; rfl⟩)
        obtain ⟨c, hscript, hrebuilt⟩ := scriptAt_of_direct_ne_nil hlater hrefiled he hdirect
        exact hscript ▸ hrebuilt.same hback
  · have hown : (later.scriptAt e.scope e.address).map Update.resent = e.state.script.map Update.resent := by
      rw [← filter_script hlater hallLater (hall e he).still, hsame, filter_script h hall (hall e he).still,
        scriptAt_of_mem h he]
    by_cases hdirect : e.state.direct = []
    · rw [scriptAt_of_direct_eq_nil h hlater hall hrefiled he hdirect] at hown
      exact absurd (List.map_eq_nil_iff.mp hown.symm) hsome
    · obtain ⟨c, hscript, hrebuilt⟩ := scriptAt_of_direct_ne_nil hlater hrefiled he hdirect
      exact hrebuilt.holds (hscript ▸ hown)
  · obtain ⟨x, hx, hsent⟩ := mem_script.mp hu
    exact (hallLater x hx).sendable u hsent

/-- An empty store that is told what is sent for another one. -/
theorem rebuilt_replayed {rules' : Rules} (h : Regular rules store) (hlisted : Listed store)
    (hall : ∀ e ∈ store.entries, e.Stationary) (hfits : ∀ e ∈ store.entries, e.state.profile.NamesFit)
    (hgraph : rules'.graph = .stock ∨ ∀ scope, store.broadcasts scope = []) {timed : List (Nat × Update)}
    (htimed : timed.map Prod.snd = store.script.map Update.resent) :
    store.Rebuilt rules'.graph ((empty rules').run timed) := by
  obtain ⟨hlater, hrefiled⟩ := refiled_replayed h hlisted hall hfits hgraph htimed
  have hspoken : ∀ u ∈ timed.map Prod.snd, u.Spoken := by
    rw [htimed]
    refine List.forall_mem_map.mpr fun u hu => Update.spoken_resent ?_
    obtain ⟨e, he, hsent⟩ := mem_script.mp hu
    exact (hall e he).sendable u hsent
  exact rebuilt_of_refiled h hlisted hall hlater
    (run_invariant listed_move (sound_empty rules') (listed_empty rules') timed)
    (kept_run (sound_empty rules') (fun e he => absurd he List.not_mem_nil) hspoken) hrefiled

/-- Take any store without engines and trains after any dispatches of what can be sent, and any resets, in which names
and numbers fit their fields. If it has no bytes, the codec refused a command of its script. Otherwise its bytes are read
as updates, and these are told to an empty store one after the other, at whatever times. This comes to the same bytes,
also if the codec goes on from where it was, exactly if every component comes back that something is sent for. The graph
is the stock one, or any graph if no broadcast is written; then only the outputs of accessories that no board drives can
stay behind. -/
theorem encode_replayed {σ : Type} {codec : Codec σ} (hcodec : codec.Inverts) (rules : Rules) (actions : List Action)
    (hsent : ∀ action ∈ actions, action.Sent) {store : Store} (hstore : (empty rules).after actions = store)
    (hmotive : ∀ e ∈ store.entries, e.scope.isMotive = false)
    (hfits : ∀ e ∈ store.entries, e.state.profile.NamesFit) (memory : σ) :
    (∀ e memory', (store.encode codec).run memory = (.error e, memory') →
      ∃ d, .command d ∈ store.script ∧ ∃ m, (codec.encode d m).1 = .error e) ∧
    ∀ bytes memory', (store.encode codec).run memory = (.ok bytes, memory') →
      ∃ updates, Update.decodeAll codec memory' bytes = .ok updates ∧
        ∀ rules' : Rules, (rules'.graph = .stock ∨ ∀ u ∈ store.script, u.isBroadcast = false) →
          ((∀ u ∈ store.script, u.isBroadcast = false) → (store.Returns rules'.graph ↔
            ∀ e ∈ store.entries, e.state.script ≠ [] → e.state.Restores rules'.graph)) ∧
          ∀ timed : List (Nat × Update), timed.map Prod.snd = updates →
            (((empty rules').run timed).encode codec = store.encode codec ↔ store.Returns rules'.graph) ∧
              (codec.Repeats →
                ((((empty rules').run timed).encode codec).run memory' = (.ok bytes, memory') ↔
                  store.Returns rules'.graph)) := by
  subst hstore
  have hempty : Sound (empty rules) := sound_empty rules
  have hregular : Regular rules ((empty rules).after actions) :=
    ⟨sound_after rules actions, after_invariant placed_move (fun _ => placed_empty _) hempty (placed_empty rules) actions,
      rules_after rules actions⟩
  have hlisted : Listed ((empty rules).after actions) :=
    after_invariant listed_move (fun _ => listed_empty _) hempty (listed_empty rules) actions
  have hsettled : Settled ((empty rules).after actions) := settled_after hempty (settled_empty rules) actions hsent
  have hkept := kept_after rules actions hsent
  generalize (empty rules).after actions = store at *
  have hall : ∀ e ∈ store.entries, e.Stationary := fun e he =>
    stationary_of_mem hregular hlisted he (hmotive e he) (hsettled e.key (List.mem_map_of_mem he)) (hkept e he)
  have hsend : ∀ u ∈ store.script, u.Sendable := by
    intro u hu
    obtain ⟨e, he, hscript⟩ := mem_script.mp hu
    exact (hall e he).sendable u hscript
  refine ⟨fun e memory' herror => Update.encodeAll_eq_error herror, fun bytes memory' hbytes => ?_⟩
  have hread := Update.decodeAll_encodeAll hcodec hsend hbytes
  refine ⟨_, hread, fun rules' hgraph => ⟨fun hsilent => returns_of_silent hsilent rules'.graph, fun timed htimed => ?_⟩⟩
  have hrebuilt := rebuilt_replayed hregular hlisted hall hfits (hgraph.imp_right broadcasts_eq_nil) htimed
  generalize (empty rules').run timed = later at *
  -- The same bytes are read as the same script.
  have hreturns : ∀ {mid}, (later.encode codec).run mid = (.ok bytes, memory') → store.Returns rules'.graph := by
    intro mid hagain
    have hreadAgain := Update.decodeAll_encodeAll hcodec hrebuilt.sendable hagain
    exact hrebuilt.returns (Except.ok.inj (hreadAgain.symm.trans hread))
  have hsame : store.Returns rules'.graph → later.encode codec = store.encode codec := fun h => hrebuilt.same h σ codec
  refine ⟨⟨fun hencode => hreturns (hencode ▸ hbytes), hsame⟩, fun hrepeats => ⟨hreturns, fun h => ?_⟩⟩
  rw [hsame h]
  exact Update.encodeAll_again hrepeats hbytes

/-- A yard in which a relay drives an accessory, a key of another one was pressed, and the switch at the broadcast
address has a name. It was thrown after another switch, which is sent the same command. -/
theorem encode_replayed_yard :
    let record : RecordMessage := ⟨broadcastAddress.toUInt8, RecordMessage.writeFlags, 0, 0,
      .fixture .switch Profile.namesMask ⟨none, none, some "Yard", none, []⟩⟩
    let rules : Rules := ⟨.stock, .standard⟩
    let actions : List Action :=
      [.tell 0 (.command ⟨.accessory .aux1OptOne, 7, none, .accessory⟩), .tell 2 (.message (.record record.resent)),
        .tell 5 (.message (.board .asc2 (AccessoryState.relayMessage 5 true))),
        .tell 9 (.command ⟨.switch .through, 3, none, .switch⟩),
        .tell 9 (.command ⟨.switch .out, broadcastAddress, none, .switch⟩)]
    let store := (empty rules).after actions
    ∃ bytes memory updates, (store.encode CommandTable.codec).run [] = (.ok bytes, memory) ∧
      Update.decodeAll CommandTable.codec memory bytes = .ok updates ∧ store.size = 4 ∧
        .command ⟨.switch .out, broadcastAddress, none, .switch⟩ ∈ store.broadcasts .switch ∧
          ∀ timed : List (Nat × Update), timed.map Prod.snd = updates →
            (((empty rules).run timed).encode CommandTable.codec).run memory = (.ok bytes, memory) := by
  intro record rules actions store
  have hpress : Update.Sent (.command ⟨.accessory .aux1OptOne, 7, none, .accessory⟩) :=
    .command (show Command.build (.accessory .aux1OptOne) 7 none none = .ok _ from rfl)
  have hname : Update.Sent (.message (.record record.resent)) := .message (Message.ofFrame_toFrame_record record)
  have hrelay : Update.Sent (.message (.board .asc2 (AccessoryState.relayMessage 5 true))) :=
    .message (AccessoryState.sendable_relayMessage 5 true).1
  have hthrough : Update.Sent (.command ⟨.switch .through, 3, none, .switch⟩) :=
    .command (show Command.build (.switch .through) 3 none none = .ok _ from rfl)
  have hout : Update.Sent (.command ⟨.switch .out, broadcastAddress, none, .switch⟩) :=
    .command (show Command.build (.switch .out) broadcastAddress none none = .ok _ from rfl)
  have hsent : ∀ action ∈ actions, action.Sent := by
    simp only [actions, List.forall_mem_cons]
    exact ⟨.tell 0 hpress, .tell 2 hname, .tell 5 hrelay, .tell 9 hthrough, .tell 9 hout,
      fun _ h => absurd h List.not_mem_nil⟩
  have hmotive : ∀ e ∈ store.entries, e.scope.isMotive = false := by decide +kernel
  have hnames : ∀ e ∈ store.entries, e.state.profile.roadName.getD "Yard" = "Yard" ∧
      e.state.profile.roadNumber = none := by decide +kernel
  have hfits : ∀ e ∈ store.entries, e.state.profile.NamesFit := fun e he =>
    Profile.namesFit_of_getD (by decide +kernel) (hnames e he).1 (hnames e he).2
  have hback : ∀ e ∈ store.entries, (∃ u ∈ e.state.script, u.isBroadcast = false) ∧
      e.state.Hears e.address (store.broadcasts e.scope) := by decide +kernel
  have hreturns : store.Returns rules.graph := fun e he _ =>
    ⟨Component.restores_stock (kept_after rules actions hsent e he), (hback e he).1, (hback e he).2⟩
  have hspelled : ((store.encode CommandTable.codec).run []).1.isOk = true := by decide +kernel
  rcases hbytes : (store.encode CommandTable.codec).run [] with ⟨_ | bytes, memory⟩
  · rw [hbytes] at hspelled
    cases hspelled
  · obtain ⟨-, hread⟩ := encode_replayed CommandTable.codec_inverts rules actions hsent rfl hmotive hfits []
    obtain ⟨updates, hupdates, hreplayed⟩ := hread bytes memory hbytes
    refine ⟨bytes, memory, updates, rfl, hupdates, by decide +kernel, by decide +kernel, fun timed htimed => ?_⟩
    exact (((hreplayed rules (Or.inl rfl)).2 timed htimed).2 CommandTable.codec_repeats).mpr hreturns

/-- Whether the bytes of a store are read as updates that bring an empty store with the same rules to other bytes. -/
def Differs (store : Store) : Prop :=
  ∃ bytes memory updates, (store.encode CommandTable.codec).run [] = (.ok bytes, memory) ∧
    Update.decodeAll CommandTable.codec memory bytes = .ok updates ∧
      ((((empty store.rules).run (updates.map fun u => (0, u))).encode CommandTable.codec).run memory).1 ≠ .ok bytes

theorem differs_of_script (us vs : List Update) (hscript : store.script = us) (hsend : ∀ u ∈ us, u.Sendable)
    (hlater : ((empty store.rules).run ((us.map Update.resent).map fun u => (0, u))).script = vs)
    (hspelled : ((Update.encodeAll CommandTable.codec us).run []).1.isOk = true)
    (hdiffers : ((Update.encodeAll CommandTable.codec vs).run ((Update.encodeAll CommandTable.codec us).run []).2).1 ≠
      ((Update.encodeAll CommandTable.codec us).run []).1) : store.Differs := by
  subst hscript hlater
  rcases hbytes : (Update.encodeAll CommandTable.codec store.script).run [] with ⟨_ | bytes, memory⟩
  · rw [hbytes] at hspelled
    cases hspelled
  · rw [hbytes] at hdiffers
    exact ⟨bytes, memory, _, hbytes, Update.decodeAll_encodeAll CommandTable.codec_inverts hsend hbytes, hdiffers⟩

/-- Stores without engines and trains that do not come back: one with a switch at the broadcast address, which is sent a
command that files no switch; one in which this switch is filed by its name, and the command throws another switch; and,
under a graph in which the second output's command switches the first output off, one with an accessory that was told to
switch the second output on and then the first. -/
theorem replayed_differs :
    let graph := EffectGraph.empty.registerCauses (Operation.accessory .aux2On).trigger
      [(Operation.accessory .aux1Off).trigger]
    let record : RecordMessage := ⟨broadcastAddress.toUInt8, RecordMessage.writeFlags, 0, 0,
      .fixture .switch Profile.namesMask ⟨none, none, some "Yard", none, []⟩⟩
    let thrown : Action :=
      .tell 0 (.message (.board .stm2 ⟨.stm2Rx, 99, .own .control1, none, .report (.position 0)⟩))
    let named : List Action :=
      [.tell 0 (.message (.record record.resent)), .tell 0 (.command ⟨.switch .out, 3, none, .switch⟩), thrown]
    let switched : List Action :=
      [.tell 0 (.command ⟨.accessory .aux2On, 5, none, .accessory⟩),
        .tell 0 (.command ⟨.accessory .aux1On, 5, none, .accessory⟩)]
    ∀ store ∈ [(empty ⟨.stock, .standard⟩).after [thrown], (empty ⟨.stock, .standard⟩).after named,
        (empty ⟨graph, .standard⟩).after switched],
      (∀ action ∈ thrown :: (named ++ switched), action.Sent) ∧
        (∀ e ∈ store.entries, e.scope.isMotive = false ∧ e.state.profile.NamesFit) ∧ store.Differs := by
  intro graph record thrown named switched store hstore
  have hreport : Update.Sent (.message (.board .stm2 ⟨.stm2Rx, 99, .own .control1, none, .report (.position 0)⟩)) :=
    .message (show Message.ofFrame ⟨.stm2Rx, [99, 0x10, 0]⟩ = .ok _ from by decide +kernel)
  have hname : Update.Sent (.message (.record record.resent)) := .message (Message.ofFrame_toFrame_record record)
  have hout : Update.Sent (.command ⟨.switch .out, 3, none, .switch⟩) :=
    .command (show Command.build (.switch .out) 3 none none = .ok _ from rfl)
  have hsecond : Update.Sent (.command ⟨.accessory .aux2On, 5, none, .accessory⟩) :=
    .command (show Command.build (.accessory .aux2On) 5 none none = .ok _ from rfl)
  have hfirst : Update.Sent (.command ⟨.accessory .aux1On, 5, none, .accessory⟩) :=
    .command (show Command.build (.accessory .aux1On) 5 none none = .ok _ from rfl)
  have hsent : ∀ action ∈ thrown :: (named ++ switched), action.Sent := by
    simp only [thrown, named, switched, List.cons_append, List.nil_append, List.forall_mem_cons]
    exact ⟨.tell 0 hreport, .tell 0 hname, .tell 0 hout, .tell 0 hreport, .tell 0 hsecond, .tell 0 hfirst,
      fun _ h => absurd h List.not_mem_nil⟩
  have hnames : ∀ e ∈ store.entries, e.scope.isMotive = false ∧ e.state.profile.roadName.getD "Yard" = "Yard" ∧
      e.state.profile.roadNumber = none := by
    simp only [List.mem_cons, List.not_mem_nil, or_false] at hstore
    rcases hstore with rfl | rfl | rfl <;> decide +kernel
  refine ⟨hsent, fun e he => ?_, ?_⟩
  · obtain ⟨hmotive, hname, hnumber⟩ := hnames e he
    exact ⟨hmotive, Profile.namesFit_of_getD (by decide +kernel) hname hnumber⟩
  · have hsend : ∀ c d : Command, ∀ u ∈ [Update.command c, .command d], u.Sendable := fun c d =>
      List.forall_mem_cons.mpr ⟨trivial, List.forall_mem_singleton.mpr trivial⟩
    let throwing (op : SwitchOp) (n : UInt16) : Update := .command ⟨.switch op, n, none, .switch⟩
    let told (op : AccessoryOp) : Update := .command ⟨.accessory op, 5, none, .accessory⟩
    simp only [List.mem_cons, List.not_mem_nil, or_false] at hstore
    rcases hstore with rfl | rfl | rfl
    · refine differs_of_script [throwing .through 99] [] ?_ (List.forall_mem_singleton.mpr trivial) ?_ ?_ ?_
      all_goals decide +kernel
    · refine differs_of_script [throwing .out 3, .message (.record record), throwing .through 99]
        [throwing .through 3, .message (.record record), throwing .through 99] ?_ ?_ ?_ ?_ ?_
      rotate_left
      · exact List.forall_mem_cons.mpr ⟨trivial, List.forall_mem_cons.mpr
          ⟨Update.sendable_record record, List.forall_mem_singleton.mpr trivial⟩⟩
      all_goals decide +kernel
    · refine differs_of_script [told .aux1On, told .aux2On] [told .aux1Off, told .aux2On] ?_ (hsend _ _) ?_ ?_ ?_
      all_goals decide +kernel

end Store
end RailLayout
