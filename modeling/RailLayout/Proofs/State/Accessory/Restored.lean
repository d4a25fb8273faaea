import RailLayout.Proofs.State.Accessory.Claimed
import RailLayout.Proofs.State.Addressed

/-!
Outputs that are brought back. An accessory that a relay or a power district has claimed is on or off as the board
reported, and that is what is sent for it. For one that no board drives the commands for its keys and outputs are sent;
each of them leaves the outputs where the last effect puts them that it has, and so they come back exactly if the last
command that sets an output leaves it where it is (`AccessoryState.Restores`). Under the stock graph they always do
(`AccessoryState.restores_stock`). The theorem about the bytes is `Component.outputs_restored`.
-/

namespace RailLayout

namespace AccessoryState

variable {s t : AccessoryState} {rules : Rules} {graph : EffectGraph} {now : Nat} {p : Profile} {recordNo : UInt8}

theorem outputs_eq_iff : t.outputs = s.outputs ↔ t.aux = s.aux ∧ ∀ output, t.position output = s.position output := by
  simp only [outputs, Prod.mk.injEq]
  refine and_congr_right fun _ => ⟨fun h output => ?_, fun h => ⟨h .aux1, h .aux2⟩⟩
  cases output
  · exact h.1
  · exact h.2

/-! ## What boards drive -/

/-- Whether an accessory that is claimed is driven by a relay or a power district. -/
def ClaimedByPower (s : AccessoryState) : Prop := s.claimed = true → s.kind = .relay ∨ s.kind = .powerDistrict

theorem kind_applyKind (now : Nat) (m : Message) (offered : AccessoryKind) (s : AccessoryState) :
    (s.applyKind now m offered).state = s ∨ (s.applyKind now m offered).state.kind = offered := by
  have hkind : (applyBoard m { s with kind := offered }).1.kind = offered := (driven_applyBoard m _).kind
  unfold applyKind
  split
  · split <;> rename_i heq <;> rw [heq] at hkind <;> exact Or.inr hkind
  · exact Or.inl rfl

theorem claimedByPower_of_follows {power : Option Bool} (h : ClaimedByPower s) (hfollows : s.Follows power t)
    (hnew : s.claimed = false → t.claimed = true → t.kind = .relay ∨ t.kind = .powerDistrict) : ClaimedByPower t := by
  intro hclaimed
  cases hbefore : s.claimed with
  | false => exact hnew hbefore hclaimed
  | true =>
      have hdriver := h hbefore
      have hdriven : s.kind ≠ .plain := by rcases hdriver with hkind | hkind <;> rw [hkind] <;> decide
      rw [hfollows.kind hdriven]
      exact hdriver

theorem claimedByPower_applyMessage (h : ClaimedByPower s) (now : Nat) (m : Message) :
    ClaimedByPower (s.applyMessage now m).state := by
  have hfollows := follows_applyMessage now m s
  refine claimedByPower_of_follows h hfollows fun hfree hclaimed => ?_
  have hstays : (s.applyMessage now m).state ≠ s := by
    intro hsame
    rw [hsame, hfree] at hclaimed
    cases hclaimed
  -- A message that says nothing of whether the accessory is on claims nothing.
  have hsilent : (Update.message m).power? ≠ none := by
    intro hnone
    rw [hnone, ite_self] at hfollows
    rw [(hfollows.silent rfl).1, hfree] at hclaimed
    cases hclaimed
  cases m with
  | board b m =>
      cases b with
      | asc2 => exact Or.inl ((kind_applyKind now (.board .asc2 m) .relay s).resolve_left hstays)
      | bpc2 => exact Or.inr ((kind_applyKind now (.board .bpc2 m) .powerDistrict s).resolve_left hstays)
      | amc2 | irda | wifi | ser2 | stm2 => exact absurd rfl hsilent
  | _ => exact absurd rfl hsilent

theorem claimedByPower_update (h : ClaimedByPower s) (rules : Rules) (now : Nat) (u : Update) :
    ClaimedByPower (s.update rules now u).state := by
  cases haccept : s.profile.accept .accessory u with
  | error cause =>
      rw [update, haccept]
      exact h
  | ok q =>
      cases u with
      | command c =>
          rw [update_command haccept]
          refine claimedByPower_of_follows (s := { s with profile := q }) h (follows_applyCommand rules now c _) ?_
          intro hfree hclaimed
          have hsame : (applyCommand rules now c { s with profile := q }).1.claimed = s.claimed := by
            unfold applyCommand
            split
            · rfl
            · split
              · exact ((follows_applyOperation rules now c _ { s with profile := q }).silent rfl).1
              · rfl
          rw [hsame, hfree] at hclaimed
          cases hclaimed
      | message m =>
          rw [update_message haccept]
          exact claimedByPower_applyMessage (s := { s with profile := q }) h now m

/-- What an accessory is rebuilt to from what is sent for another one. -/
structure Returned (graph : EffectGraph) (s t : AccessoryState) : Prop where
  claimed : s.claimed = true → t.outputs = s.outputs
  plain : s.kind = .plain → t.aux = s.aux ∧ ∀ output, t.position output = s.left? graph output
  unclaimed : s.kind ≠ .plain → s.claimed = false → t.outputs = (none, none, none)

theorem returned_of_claimed (hkind : s.kind ≠ .plain) (hclaimed : s.claimed = true) (h : t.outputs = s.outputs) :
    Returned graph s t where
  claimed _ := h
  plain hplain := absurd hplain hkind
  unclaimed _ hfree := absurd (hclaimed.symm.trans hfree) (by decide)

theorem returned_of_unclaimed (hkind : s.kind ≠ .plain) (hfree : s.claimed = false)
    (h : t.outputs = (none, none, none)) : Returned graph s t where
  claimed hclaimed := absurd (hclaimed.symm.trans hfree) (by decide)
  plain hplain := absurd hplain hkind
  unclaimed _ _ := h

theorem outputs_plain_iff (h : Returned graph s t) (hplain : s.kind = .plain) :
    t.outputs = s.outputs ↔ s.Restores graph := by
  obtain ⟨haux, hleft⟩ := h.plain hplain
  rw [outputs_eq_iff, and_iff_right haux]
  simp only [hleft, Restores]

/-- The key and the outputs come back if they are claimed, if no board drives the accessory and its commands restore
them, or if nothing is known of them. -/
theorem outputs_returned_iff (h : Returned graph s t) (hfree : s.kind = .plain → s.claimed = false) :
    t.outputs = s.outputs ↔
      s.claimed = true ∨ (s.kind = .plain ∧ s.Restores graph) ∨ s.outputs = (none, none, none) := by
  by_cases hplain : s.kind = .plain
  · have hunclaimed : ¬s.claimed = true := by rw [hfree hplain]; decide
    rw [outputs_plain_iff h hplain, or_iff_right hunclaimed, and_iff_right hplain]
    refine ⟨Or.inl, fun hknown => hknown.elim id fun hnone output => ?_⟩
    obtain ⟨haux, haux1, haux2⟩ : s.aux = none ∧ s.aux1 = none ∧ s.aux2 = none := by
      simpa only [outputs, Prod.mk.injEq] using hnone
    rw [left?, haux, haux1, haux2]
    cases output
    · exact haux1.symm
    · exact haux2.symm
  · cases hclaimed : s.claimed with
    | true => exact iff_of_true (h.claimed hclaimed) (Or.inl rfl)
    | false =>
        rw [h.unclaimed hplain hclaimed, or_iff_right Bool.false_ne_true, or_iff_right fun hboth => hplain hboth.1]
        exact eq_comm

/-- What is not known of the key and the outputs of an accessory that a board drives does not come back. -/
theorem unknown_returned (h : Returned graph s t) (hdriven : s.kind ≠ .plain) :
    (s.aux = none → t.aux = none) ∧ ∀ output, s.position output = none → t.position output = none := by
  cases hclaimed : s.claimed with
  | true =>
      obtain ⟨haux, hposition⟩ := outputs_eq_iff.mp (h.claimed hclaimed)
      exact ⟨fun hnone => haux.trans hnone, fun output hnone => (hposition output).trans hnone⟩
  | false =>
      have hnothing : t.outputs = (fresh s.profile).outputs := h.unclaimed hdriven hclaimed
      obtain ⟨haux, hposition⟩ := outputs_eq_iff.mp hnothing
      exact ⟨fun _ => haux, fun output _ => (hposition output).trans (by cases output <;> rfl)⟩

/-- Whether an accessory with a profile, rebuilt from what is sent for another one, has the names of the profile and
nothing else that this one has not, its key and its outputs aside. -/
structure Apart (p : Profile) (s t : AccessoryState) : Prop where
  name : t.profile.roadName = p.roadName
  roadNumber : t.profile.roadNumber = p.roadNumber
  number : t.number = none
  output : t.output = none ∨ t.output = s.output

theorem apart_of_unswitched (h : t.unswitched = (fresh p).unswitched) : Apart p s t where
  name := show t.unswitched.profile.roadName = (fresh p).unswitched.profile.roadName by rw [h]
  roadNumber := show t.unswitched.profile.roadNumber = (fresh p).unswitched.profile.roadNumber by rw [h]
  number := show t.unswitched.number = (fresh p).unswitched.number by rw [h]
  output := Or.inl (show t.unswitched.output = (fresh p).unswitched.output by rw [h])

theorem isAux1On_of_powered {on : Bool} (h : s.outputs = powered on) : s.isAux1On = on := by
  rw [isAux1On, show s.aux1 = (powered on).2.1 from congrArg (·.2.1) h]
  cases on <;> rfl

section Kinds

variable (hno : p.recordNo? = some recordNo)
include hno

theorem takes_claimed (h : Kept s) (hkind : s.kind = .relay ∨ s.kind = .powerDistrict) (hclaimed : s.claimed = true)
    {on : Bool} (hon : s.outputs = powered on) :
    Component.Takes rules (fun d => ∃ t, d = .accessory t ∧ t.outputs = s.outputs ∧ Apart p s t)
      ((s.kindUpdates recordNo.toUInt16 recordNo).map Update.resent) (.accessory (fresh p)) := by
  have hstate := isAux1On_of_powered hon
  rw [hon]
  rcases hkind with hkind | hkind
  · rw [kindUpdates_relay _ _ hkind, if_pos hclaimed, hstate]
    cases on <;> exact takes_message hno rfl rfl rfl rfl fun now => ⟨_, rfl, rfl, rfl, rfl, rfl, Or.inl rfl⟩
  · rw [kindUpdates_powerDistrict _ _ hkind, if_pos hclaimed, hstate]
    rcases getD_districtAction h with haction | haction <;> rw [haction] <;>
      cases on <;> exact takes_message hno rfl rfl rfl rfl fun now => ⟨_, rfl, rfl, rfl, rfl, rfl, Or.inl rfl⟩

theorem takes_unclaimed (hkind : s.kind ≠ .plain) (hfree : s.claimed = false) :
    Component.Takes rules (fun d => ∃ t, d = .accessory t ∧ t.outputs = (none, none, none) ∧ Apart p s t)
      ((s.kindUpdates recordNo.toUInt16 recordNo).map Update.resent) (.accessory (fresh p)) := by
  have hclaimed : ¬s.claimed = true := by rw [hfree]; decide
  have hfresh : Apart p s (fresh p) := ⟨rfl, rfl, rfl, Or.inl rfl⟩
  cases hdriver : s.kind with
  | plain => exact absurd hdriver hkind
  | sensorTrack =>
      rw [kindUpdates_sensorTrack _ _ hdriver]
      exact takes_message hno rfl rfl rfl rfl fun now => ⟨_, rfl, rfl, rfl, rfl, rfl, Or.inl rfl⟩
  | powerDistrict =>
      rw [kindUpdates_powerDistrict _ _ hdriver, if_neg hclaimed]
      exact ⟨fresh p, rfl, rfl, hfresh⟩
  | relay =>
      rw [kindUpdates_relay _ _ hdriver, if_neg hclaimed]
      exact ⟨fresh p, rfl, rfl, hfresh⟩
  | motorLamp =>
      rw [kindUpdates_motorLamp _ _ hdriver]
      cases houtput : s.output with
      | none => exact ⟨fresh p, rfl, rfl, hfresh⟩
      | some config =>
          exact takes_message hno rfl rfl rfl rfl fun now => ⟨_, rfl, rfl, rfl, rfl, rfl, Or.inr houtput.symm⟩

theorem takes_returned (h : Kept s) (hclaim : ClaimedByPower s)
    (hpowered : s.claimed = true → ∃ on, s.outputs = powered on) :
    Component.Takes rules (fun d => ∃ t, d = .accessory t ∧ Returned rules.graph s t ∧ Apart p s t)
      ((s.kindUpdates recordNo.toUInt16 recordNo).map Update.resent) (.accessory (fresh p)) := by
  by_cases hplain : s.kind = .plain
  · have hresent : (s.kindUpdates recordNo.toUInt16 recordNo).map Update.resent =
        (s.aux.toList ++ (s.aux1.toList ++ s.aux2.toList)).map (commanding recordNo.toUInt16) := by
      rw [kindUpdates_plain _ _ hplain, List.map_map]
      rfl
    rw [hresent]
    refine Component.takes_imp (takes_commands_fresh h.latched (Profile.address_of_recordNo? hno)) ?_
    rintro d ⟨t, rfl, hsame, hleft⟩
    exact ⟨t, rfl, ⟨fun hclaimed => absurd (hclaimed.symm.trans (h.plain hplain)) (by decide), fun _ => hleft,
      fun hdriven => absurd hplain hdriven⟩, apart_of_unswitched hsame⟩
  · cases hclaimed : s.claimed with
    | true =>
        obtain ⟨on, hon⟩ := hpowered hclaimed
        refine Component.takes_imp (takes_claimed hno h (hclaim hclaimed) hclaimed hon) ?_
        rintro d ⟨t, rfl, ht, hapart⟩
        exact ⟨t, rfl, returned_of_claimed hplain hclaimed ht, hapart⟩
    | false =>
        refine Component.takes_imp (takes_unclaimed hno hplain hclaimed) ?_
        rintro d ⟨t, rfl, ht, hapart⟩
        exact ⟨t, rfl, returned_of_unclaimed hplain hclaimed ht, hapart⟩

end Kinds

/-- A fresh accessory takes all that is sent for another one. -/
theorem takes_script_returned (h : Kept s) (hclaim : ClaimedByPower s)
    (hpowered : s.claimed = true → ∃ on, s.outputs = powered on) (hno : s.profile.recordNo? = some recordNo) :
    Component.Takes rules
      (fun d => ∃ t, d = .accessory t ∧ Returned rules.graph s t ∧ ∃ p, s.profile.Resumed p ∧ Apart p s t)
      (s.script.map Update.resent) (.accessory (fresh (.fresh s.profile.address))) := by
  have hresumed : ∀ {p : Profile}, s.profile.Resumed p → p.recordNo? = some recordNo →
      Component.Takes rules
        (fun d => ∃ t, d = .accessory t ∧ Returned rules.graph s t ∧ ∃ p, s.profile.Resumed p ∧ Apart p s t)
        ((s.kindUpdates recordNo.toUInt16 recordNo).map Update.resent) (.accessory (fresh p)) := by
    intro p hp hsame
    refine Component.takes_imp (takes_returned hsame h hclaim hpowered) ?_
    rintro d ⟨t, rfl, hreturned, hapart⟩
    exact ⟨t, rfl, hreturned, p, hp, hapart⟩
  refine takes_names hno (fun now => hresumed (Or.inr ⟨_, _, _, now, rfl⟩) ?_) fun _ => hresumed (Or.inl rfl) hno
  exact (Profile.recordNo?_congr (Profile.address_rebuilt _ _ _ _ now)).trans hno

end AccessoryState

namespace Component

variable {c : Component} {n : UInt16}

theorem claimedByPower_run {s : AccessoryState} (h : s.ClaimedByPower) (history : List Incident) :
    ∃ t, (accessory s).run history = accessory t ∧ t.ClaimedByPower := by
  induction history generalizing s with
  | nil => exact ⟨s, rfl, h⟩
  | cons i rest ih =>
      cases i with
      | told rules now u => exact ih (AccessoryState.claimedByPower_update h rules now u)
      | seen sighting => exact ih h

/-- What brings an accessory back that heard nothing but commands and messages from frames is taken by a fresh
accessory of its address. -/
theorem takes_returned {start : Option UInt16} (h : build .accessory start = .ok c) {history : List Incident}
    (hheard : ∀ i ∈ history, i.Heard) :
    ∃ s, c.run history = accessory s ∧ (∀ u ∈ s.script, u.Sendable) ∧
      ∀ rules : Rules,
        Takes rules (fun d => ∃ t, d = accessory t ∧ s.Returned rules.graph t ∧ ∃ p, s.profile.Resumed p ∧ s.Apart p t)
          (s.script.map Update.resent) (fresh .accessory s.profile.address) := by
  have hkept := kept_run h hheard
  have hbare := bare_run h history
  have hadmits : ∀ n, (c.run history).profile.address = some n → Scope.accessory.admits n = true :=
    fun n hn => admits_run h history hn
  have hstart := eq_fresh_of_build h
  have hunclaimed : Obeys (AccessoryState.fresh (.fresh start)) none := nofun
  obtain ⟨s, hs, -, -, hobeys⟩ := follows_run hunclaimed history
  obtain ⟨t, ht, hclaim⟩ := claimedByPower_run (s := .fresh (.fresh start)) nofun history
  have hrun : c.run history = accessory s := hstart ▸ hs
  cases accessory.inj (hs.symm.trans ht)
  rw [hrun] at hkept hbare hadmits
  refine ⟨s, hrun, AccessoryState.sendable_script hkept, fun rules => ?_⟩
  cases hbound : s.profile.address with
  | none =>
      -- Nothing is known of an accessory without an address.
      have hfree : accessory s = fresh .accessory none := eq_fresh_of_build (hbare hbound)
      cases accessory.inj hfree
      refine ⟨_, rfl, ⟨fun _ => rfl, fun _ => ⟨rfl, fun output => by cases output <;> rfl⟩, fun _ _ => rfl⟩, ?_⟩
      exact ⟨_, Or.inl rfl, rfl, rfl, rfl, Or.inl rfl⟩
  | some n =>
      obtain ⟨recordNo, hno⟩ := exists_recordNo? (hadmits n hbound) hbound
      have hpowered : s.claimed = true → ∃ on, s.outputs = AccessoryState.powered on := by
        intro hclaimed
        obtain ⟨on, -, hon⟩ := hobeys hclaimed
        exact ⟨on, hon⟩
      rw [← hbound]
      exact AccessoryState.takes_script_returned hkept hclaim hpowered hno

/-- The bytes of an accessory that heard nothing but commands and messages from frames, under any graphs. If there are
none, the codec refused a command of its script. Otherwise they are read as updates that a fresh accessory of its
address takes without a refusal, at whatever times. Its key and its outputs come back exactly if a relay or a power
district has claimed them, if no board drives the accessory and the commands for the outputs leave them where they are,
or if nothing is known of them. Without a board the key always comes back, and under the stock graph the outputs do. If a
board drives the accessory and has not claimed its outputs, nothing of them comes back. -/
theorem outputs_restored {σ : Type} {codec : Codec σ} (hcodec : codec.Inverts) {start : Option UInt16}
    (h : build .accessory start = .ok c) {history : List Incident} (hheard : ∀ i ∈ history, i.Heard) (memory : σ) :
    ∃ s, c.run history = accessory s ∧
      (∀ e memory', ((c.run history).encode codec).run memory = (.error e, memory') →
        ∃ d, .command d ∈ (c.run history).script ∧ ∃ m, (codec.encode d m).1 = .error e) ∧
      ∀ bytes memory', ((c.run history).encode codec).run memory = (.ok bytes, memory') →
        ∃ updates rebuilt, Update.decodeAll codec memory' bytes = .ok updates ∧
          build .accessory s.profile.address = .ok rebuilt ∧
          ∀ (rules : Rules) (timed : List (Nat × Update)), timed.map Prod.snd = updates →
            ∃ t, feed rules timed rebuilt = .ok (accessory t) ∧
              (t.outputs = s.outputs ↔
                s.claimed = true ∨ (s.kind = .plain ∧ s.Restores rules.graph) ∨ s.outputs = (none, none, none)) ∧
              (s.kind = .plain → t.aux = s.aux ∧ (t.outputs = s.outputs ↔ s.Restores rules.graph) ∧
                (rules.graph = .stock → t.outputs = s.outputs)) ∧
              (s.kind ≠ .plain → s.claimed = false → t.outputs = (none, none, none)) := by
  have hkept := kept_run h hheard
  have hadmits : ∀ n, (c.run history).profile.address = some n → Scope.accessory.admits n = true :=
    fun n hn => admits_run h history hn
  obtain ⟨s, hs, hsend, htakes⟩ := takes_returned h hheard
  rw [hs] at hkept hadmits ⊢
  refine ⟨s, rfl, fun e memory' herror => Update.encodeAll_eq_error herror, fun bytes memory' hbytes => ?_⟩
  refine ⟨s.script.map Update.resent, _, Update.decodeAll_encodeAll hcodec hsend hbytes, build_eq_fresh hadmits,
    fun rules timed htimed => ?_⟩
  obtain ⟨d, hfed, t, rfl, hreturned, -⟩ := feed_of_takes (htakes rules) htimed
  refine ⟨t, hfed, AccessoryState.outputs_returned_iff hreturned hkept.plain, fun hplain => ?_, hreturned.unclaimed⟩
  have hiff := AccessoryState.outputs_plain_iff hreturned hplain
  exact ⟨(hreturned.plain hplain).1, hiff, fun hgraph => hiff.mpr (hgraph ▸ AccessoryState.restores_stock hkept.latched)⟩

/-- An accessory of which an output was toggled by its option-one key, and one that a relay claimed after that: the key
and the outputs of both come back. -/
theorem outputs_restored_pressed :
    let rules : Rules := ⟨.stock, .standard⟩
    let relay : Message := .board .asc2 ⟨.asc2Rx, 5, .own .control1, none, .report (.control1 0 0)⟩
    let pressed : List Incident :=
      [.told rules 0 (.command ⟨.accessory .aux1OptOne, 5, none, .accessory⟩),
       .told rules 1500 (.command ⟨.accessory .aux1OptOne, 5, none, .accessory⟩),
       .told rules 1600 (.command ⟨.accessory .aux2On, 5, none, .accessory⟩)]
    ∀ history ∈ [pressed, pressed ++ [.told rules 2000 (.message relay)]],
      ∃ c s, build .accessory none = .ok c ∧ (∀ i ∈ history, i.Heard) ∧ c.run history = accessory s ∧ s.aux.isSome ∧
        ∃ bytes memory updates rebuilt,
          ((c.run history).encode CommandTable.codec).run [] = (.ok bytes, memory) ∧
            Update.decodeAll CommandTable.codec memory bytes = .ok updates ∧ build .accessory (some 5) = .ok rebuilt ∧
              ∀ timed : List (Nat × Update), timed.map Prod.snd = updates →
                ∃ t, feed rules timed rebuilt = .ok (accessory t) ∧ t.outputs = s.outputs := by
  intro rules relay pressed history hhistory
  have hbuild : build .accessory none = .ok (fresh .accessory none) := rfl
  have hcommand : ∀ d now, (Incident.told rules now (.command d)).Heard := fun _ _ => trivial
  have hrelay : (Incident.told rules 2000 (.message relay)).Heard := ⟨relay.toFrame, by decide +kernel⟩
  have hpressed : ∀ i ∈ pressed, i.Heard := by
    simp only [pressed, List.forall_mem_cons]
    exact ⟨hcommand _ _, hcommand _ _, hcommand _ _, fun _ h => absurd h List.not_mem_nil⟩
  have hheard : ∀ i ∈ history, i.Heard := by
    rcases List.mem_pair.mp hhistory with rfl | rfl
    · exact hpressed
    · exact List.forall_mem_append.mpr ⟨hpressed, List.forall_mem_singleton.mpr hrelay⟩
  have haddress : ((fresh .accessory none).run history).profile.address = some 5 := by
    rcases List.mem_pair.mp hhistory with rfl | rfl <;> decide +kernel
  have hspelled : ((((fresh .accessory none).run history).encode CommandTable.codec).run []).1.isOk = true := by
    rcases List.mem_pair.mp hhistory with rfl | rfl <;> decide +kernel
  have hstate : ∀ s, (fresh .accessory none).run history = accessory s →
      s.aux.isSome = true ∧ (s.kind = .plain ∨ s.claimed = true) := by
    intro s hs
    rcases List.mem_pair.mp hhistory with rfl | rfl
    · cases hs
      exact ⟨rfl, Or.inl rfl⟩
    · cases hs
      exact ⟨rfl, Or.inr rfl⟩
  obtain ⟨s, hs, -, hread⟩ := outputs_restored CommandTable.codec_inverts hbuild hheard []
  obtain ⟨haux, hkind⟩ := hstate s hs
  rcases hbytes : (((fresh .accessory none).run history).encode CommandTable.codec).run [] with ⟨_ | bytes, memory⟩
  · rw [hbytes] at hspelled
    cases hspelled
  · obtain ⟨updates, rebuilt, hupdates, hrebuilt, hfed⟩ := hread bytes memory hbytes
    rw [hs] at haddress
    rw [show s.profile.address = some 5 from haddress] at hrebuilt
    refine ⟨_, s, hbuild, hheard, hs, haux, bytes, memory, updates, rebuilt, hbytes, hupdates, hrebuilt, ?_⟩
    intro timed htimed
    obtain ⟨t, hfeed, hreturned, hplain, -⟩ := hfed rules timed htimed
    exact ⟨t, hfeed, hkind.elim (fun hplainly => (hplain hplainly).2.2 rfl) fun hclaimed => hreturned.mpr (Or.inl hclaimed)⟩

/-- If every command of a script is spelled, there are bytes, and they are read as the updates of the script. -/
theorem bytes_of_sendable (hsend : ∀ u ∈ c.script, u.Sendable)
    (hspelled : ((c.encode CommandTable.codec).run []).1.isOk = true) :
    ∃ bytes memory, (c.encode CommandTable.codec).run [] = (.ok bytes, memory) ∧
      Update.decodeAll CommandTable.codec memory bytes = .ok (c.script.map Update.resent) := by
  rcases hbytes : (c.encode CommandTable.codec).run [] with ⟨_ | bytes, memory⟩
  · rw [hbytes] at hspelled
    cases hspelled
  · exact ⟨bytes, memory, rfl, Update.decodeAll_encodeAll CommandTable.codec_inverts hsend hbytes⟩

/-- The key and the outputs of an accessory. -/
def outputs? : Component → Option (Option AccessoryOp × Option AccessoryOp × Option AccessoryOp)
  | accessory s => some s.outputs
  | _ => none

/-- Whether a fresh accessory at address 5 that is fed what brings another one back, which went through a history at this
address, ends up with another key or other outputs. -/
def LosesOutputs (rules : Rules) (history : List Incident) : Prop :=
  ∃ bytes memory updates fed,
    (((fresh .accessory (some 5)).run history).encode CommandTable.codec).run [] = (.ok bytes, memory) ∧
      Update.decodeAll CommandTable.codec memory bytes = .ok updates ∧
        feed rules (updates.map fun u => (0, u)) (fresh .accessory (some 5)) = .ok fed ∧
          fed.outputs? ≠ ((fresh .accessory (some 5)).run history).outputs?

theorem losesOutputs_of_script {rules : Rules} {history : List Incident} (us : List Update)
    (hscript : ((fresh .accessory (some 5)).run history).script = us) (hsend : ∀ u ∈ us, u.Sendable)
    (hspelled : ((Update.encodeAll CommandTable.codec us).run []).1.isOk = true)
    {after : Option (Option AccessoryOp × Option AccessoryOp × Option AccessoryOp)}
    (hfed : (feed rules ((us.map Update.resent).map fun u => (0, u)) (fresh .accessory (some 5))).map outputs? =
      .ok after)
    (hdiffers : after ≠ ((fresh .accessory (some 5)).run history).outputs?) : LosesOutputs rules history := by
  subst hscript
  obtain ⟨bytes, memory, hbytes, hread⟩ := bytes_of_sendable hsend hspelled
  cases hrebuilt : feed rules (List.map (fun u => (0, u)) _) (fresh .accessory (some 5)) with
  | error e =>
      rw [hrebuilt] at hfed
      cases hfed
  | ok fed =>
      rw [hrebuilt] at hfed
      cases hfed
      exact ⟨bytes, memory, _, fed, hbytes, hread, hrebuilt, hdiffers⟩

/-- An accessory whose first output was switched on, before or after a board said what it is. -/
def drivenOn (rules : Rules) (m : Message) : List (List Incident) :=
  let on : Incident := .told rules 0 (.command ⟨.accessory .aux1On, 5, none, .accessory⟩)
  [[on, .told rules 0 (.message m)], [.told rules 0 (.message m), on]]

/-- Nothing is known of the outputs of an accessory that is fed what a board says it is, or nothing at all. -/
theorem losesOutputs_of_driven {rules : Rules} {m : Message} (us : List Update)
    (hscript : ∀ history ∈ drivenOn rules m, ((fresh .accessory (some 5)).run history).script = us ∧
      ((fresh .accessory (some 5)).run history).outputs? = some (none, some .aux1On, none))
    (hsend : ∀ u ∈ us, u.Sendable) (hspelled : ((Update.encodeAll CommandTable.codec us).run []).1.isOk = true)
    (hfed : (feed rules ((us.map Update.resent).map fun u => (0, u)) (fresh .accessory (some 5))).map outputs? =
      .ok (some (none, none, none))) : ∀ history ∈ drivenOn rules m, LosesOutputs rules history := by
  intro history hhistory
  obtain ⟨hthis, hknown⟩ := hscript history hhistory
  refine losesOutputs_of_script us hthis hsend hspelled hfed ?_
  rw [hknown]
  decide

/-- Accessories whose outputs do not come back. Under the stock graph, nothing is known of the outputs afterwards if the
first one was switched on by a command and a sensor track, a relay, a power district or a motor and lamp controller said
what it is, whichever came first: only what a sensor track said is sent, and nothing for the others. Under a graph in
which the second output's command switches the first one off, an accessory that was told to switch the second one on and
then the first has the first one off afterwards: the commands are sent in the other order. -/
theorem outputs_lost :
    let stock : Rules := ⟨.stock, .standard⟩
    let body {board : Board} : BoardBody board := .common (.info ⟨5, 1, 2, 120⟩)
    let infos : List Message :=
      [.board .irda ⟨.irdaRx, 5, .common .info, none, body⟩, .board .asc2 ⟨.asc2Rx, 5, .common .info, none, body⟩,
        .board .bpc2 ⟨.bpc2Rx, 5, .common .info, none, body⟩, .board .amc2 ⟨.amc2Rx, 5, .common .info, none, body⟩]
    let graph := EffectGraph.empty.registerCauses (Operation.accessory .aux2On).trigger
      [(Operation.accessory .aux1Off).trigger]
    let told (op : AccessoryOp) : Incident := .told ⟨graph, .standard⟩ 0 (.command ⟨.accessory op, 5, none, .accessory⟩)
    (∀ m ∈ infos, ∀ history ∈ drivenOn stock m, (∀ i ∈ history, i.Heard) ∧ LosesOutputs stock history) ∧
      (∀ i ∈ [told .aux2On, told .aux1On], i.Heard) ∧ LosesOutputs ⟨graph, .standard⟩ [told .aux2On, told .aux1On] := by
  intro stock body infos graph told
  have hinfos : ∀ m ∈ infos, Message.ofFrame m.toFrame = .ok m := by decide +kernel
  refine ⟨fun m hm history hhistory => ⟨?_, ?_⟩, ?_, ?_⟩
  · have hm : (Incident.told stock 0 (.message m)).Heard := ⟨m.toFrame, hinfos m hm⟩
    rcases List.mem_pair.mp hhistory with rfl | rfl
    · exact List.forall_mem_cons.mpr ⟨trivial, List.forall_mem_singleton.mpr hm⟩
    · exact List.forall_mem_cons.mpr ⟨hm, List.forall_mem_singleton.mpr trivial⟩
  · simp only [infos, List.mem_cons, List.not_mem_nil, or_false] at hm
    rcases hm with rfl | rfl | rfl | rfl
    · refine losesOutputs_of_driven [.message (.board .irda ⟨.irdaRx, 5, .common .info, none, body⟩)] ?_ ?_ ?_ ?_ _ hhistory
      · decide +kernel
      · exact List.forall_mem_singleton.mpr (AccessoryState.sendable_infoMessage 5 ⟨5, 1, 2, 120⟩)
      · decide +kernel
      · decide +kernel
    all_goals
      refine losesOutputs_of_driven [] ?_ (fun u hu => absurd hu List.not_mem_nil) ?_ ?_ _ hhistory
      all_goals decide +kernel
  · exact List.forall_mem_cons.mpr ⟨trivial, List.forall_mem_singleton.mpr trivial⟩
  · have hsend : ∀ u ∈ [AccessoryState.commanding 5 .aux1On, AccessoryState.commanding 5 .aux2On], u.Sendable :=
      List.forall_mem_cons.mpr ⟨trivial, List.forall_mem_singleton.mpr trivial⟩
    have hfed : (feed ⟨graph, .standard⟩ [(0, AccessoryState.commanding 5 .aux1On), (0, AccessoryState.commanding 5 .aux2On)]
        (fresh .accessory (some 5))).map outputs? = .ok (some (none, some .aux1Off, some .aux2On)) := by decide +kernel
    exact losesOutputs_of_script _ (by decide +kernel) hsend (by decide +kernel) hfed (by decide +kernel)

end Component
end RailLayout
