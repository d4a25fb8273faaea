import RailLayout.Proofs.State.Accessory.Outputs

/-!
Accessories that are rebuilt from what brings a fresh accessory to them. A board's message settles what drives the
accessory and what that knows. Without a board the commands for the outputs are sent. In either case the same is sent
afterwards, exactly if these commands leave the outputs where they are (`AccessoryState.takes_script`).
-/

namespace RailLayout

namespace Component

/-- Whether the commands that are sent for a component leave its outputs where they are. Only those for an accessory that
no board drives can do otherwise. -/
def Restores (graph : EffectGraph) : Component → Prop
  | accessory s => s.kind = .plain → s.Restores graph
  | _ => True

/-- What a component was rebuilt to from what is sent for another one: the same is sent for it, exactly if a condition
holds. -/
structure Respelled (H : Prop) (c d : Component) : Prop where
  same : H → d.script = c.script
  holds : d.script.map Update.resent = c.script.map Update.resent → H

theorem respelled_of_script {H : Prop} {c d : Component} (hc : H) (h : d.script = c.script) : Respelled H c d where
  same _ := h
  holds _ := hc

end Component

namespace AccessoryState

variable {s t : AccessoryState} {rules : Rules} {now : Nat} {u : Update}

/-! ## What is sent -/

def relayMessage (address : UInt8) (on : Bool) : BoardMessage .asc2 :=
  ⟨.asc2Rx, address, .own .control1, none, .report (.control1 (Payload.flag on) 0)⟩

def districtMessage (address : UInt8) (action : DistrictAction) (on : Bool) : BoardMessage .bpc2 :=
  ⟨.bpc2Rx, address, .own action, none, .report (.state (Payload.flag on))⟩

def outputMessage (address : UInt8) (config : OutputConfig) : BoardMessage .amc2 :=
  ⟨.amc2Rx, address, .common .config, none, .config config⟩

def infoMessage (address : UInt8) (info : BoardInfo) : BoardMessage .irda :=
  ⟨.irdaRx, address, .common .info, none, .common (.info info)⟩

theorem script_of_recordNo? {recordNo : UInt8} (hno : s.profile.recordNo? = some recordNo) :
    s.script = s.profile.recordUpdates .accessory [] ++ s.kindUpdates recordNo.toUInt16 recordNo := by
  rw [script, Profile.address_of_recordNo? hno, hno]

theorem sendable_infoMessage (address : UInt8) (info : BoardInfo) :
    (Update.message (.board .irda (infoMessage address info))).Sendable :=
  Update.sendable_board (by decide) (by decide) (by decide) (fun p => ⟨_, rfl⟩) rfl address

theorem sendable_relayMessage (address : UInt8) (on : Bool) :
    (Update.message (.board .asc2 (relayMessage address on))).Sendable :=
  Update.sendable_board (by decide) (by decide) (by decide) (fun p => ⟨_, rfl⟩) rfl address

theorem sendable_districtMessage (address : UInt8) {action : DistrictAction}
    (haction : action = .control1 ∨ action = .control3) (on : Bool) :
    (Update.message (.board .bpc2 (districtMessage address action on))).Sendable := by
  rcases haction with rfl | rfl
  · exact Update.sendable_board (by decide) (by decide) (by decide) (fun p => ⟨_, rfl⟩) rfl address
  · exact Update.sendable_board (by decide) (by decide) (by decide) (fun p => ⟨_, rfl⟩) rfl address

theorem sendable_outputMessage (address : UInt8) (config : OutputConfig) :
    (Update.message (.board .amc2 (outputMessage address config))).Sendable := by
  have hbody : Read.Gives (BoardBody.read .amc2 .amc2Rx (.common .config)) config.encode (.config config) :=
    Read.Gives.map (f := @BoardBody.config .amc2) config.read_encode
  exact Update.sendable_board (by decide) (by decide) (by decide) hbody rfl address

theorem getD_districtAction (h : Kept s) :
    s.districtAction.getD .control3 = .control1 ∨ s.districtAction.getD .control3 = .control3 := by
  cases haction : s.districtAction with
  | none => exact Or.inr rfl
  | some action => exact h.district action haction

theorem sendable_kindUpdates (h : Kept s) (address : UInt16) (recordNo : UInt8) :
    ∀ u ∈ s.kindUpdates address recordNo, u.Sendable := by
  intro u hu
  unfold kindUpdates at hu
  split at hu
  · obtain ⟨op, -, rfl⟩ := List.mem_map.mp hu
    trivial
  · split at hu
    · rw [List.mem_singleton.mp hu]
      exact sendable_relayMessage recordNo _
    · exact absurd hu List.not_mem_nil
  · split at hu
    · rw [List.mem_singleton.mp hu]
      exact sendable_districtMessage recordNo (getD_districtAction h) _
    · exact absurd hu List.not_mem_nil
  · obtain ⟨config, -, rfl⟩ := Option.map_eq_some_iff.mp (Option.mem_toList.mp hu)
    exact sendable_outputMessage recordNo config
  · rw [List.mem_singleton.mp hu]
    exact sendable_infoMessage recordNo _

theorem sendable_script (h : Kept s) : ∀ u ∈ s.script, u.Sendable := by
  intro u hu
  unfold script at hu
  split at hu
  · rcases List.mem_append.mp hu with hrecord | hkind
    · exact Profile.sendable_recordUpdates s.profile .accessory [] u hrecord
    · exact sendable_kindUpdates h _ _ u hkind
  · exact absurd hu List.not_mem_nil

/-! ## What comes back -/

theorem script_congr (hprofile : Stands t.profile s) {recordNo : UInt8} (hno : s.profile.recordNo? = some recordNo)
    (hkind : t.kindUpdates recordNo.toUInt16 recordNo = s.kindUpdates recordNo.toUInt16 recordNo) :
    t.script = s.script := by
  have hnoT := (Profile.recordNo?_congr hprofile.address).trans hno
  rw [script_of_recordNo? hno, script_of_recordNo? hnoT, hprofile.record, hkind]

/-- A fresh accessory is driven by the first board that reports. -/
theorem update_board {p : Profile} {recordNo : UInt8} (hno : p.recordNo? = some recordNo) {board : Board}
    {m : BoardMessage board} (htarget : (Update.message (.board board m)).target? = some (.accessory, recordNo.toUInt16))
    {offered : AccessoryKind} (hoffered : kindOf? (.board board m) = some offered) {t : AccessoryState}
    (hboard : applyBoard (.board board m) { fresh p with kind := offered } = (t, true)) (rules : Rules) (now : Nat) :
    (Component.accessory (fresh p)).update rules now (.message (.board board m)) =
      ⟨.accessory (t.record (.message (.board board m)) now), .ok true⟩ := by
  have haccept : (fresh p).profile.accept .accessory (.message (.board board m)) = .ok p :=
    Profile.accept_bound (Profile.address_of_recordNo? hno) htarget
  have happly : applyMessage now (.board board m) (fresh p) = ⟨t.record (.message (.board board m)) now, .ok true⟩ := by
    simp only [applyMessage, hoffered, applyKind]
    rw [if_pos (Or.inl (show (fresh p).kind = .plain from rfl)), hboard]
  rw [Component.update, update_message haccept]
  exact congrArg (Outcome.map Component.accessory) happly

/-- A fresh accessory takes one message of a board. -/
theorem takes_message {P : Component → Prop} {p : Profile} {recordNo : UInt8} (hno : p.recordNo? = some recordNo)
    {board : Board} {m : BoardMessage board} (hsame : (Message.board board m).resent = .board board m)
    (htarget : (Update.message (.board board m)).target? = some (.accessory, recordNo.toUInt16))
    {offered : AccessoryKind} (hoffered : kindOf? (.board board m) = some offered) {t : AccessoryState}
    (hboard : applyBoard (.board board m) { fresh p with kind := offered } = (t, true))
    (hP : ∀ now, P (.accessory (t.record (.message (.board board m)) now))) :
    Component.Takes rules P [(Update.message (.board board m)).resent] (.accessory (fresh p)) := by
  intro now
  rw [Update.resent, hsame]
  exact ⟨_, _, update_board hno htarget hoffered hboard rules now, hP now⟩

/-- One message of a board brings a fresh accessory to where the same is sent for it. -/
theorem takes_board {p : Profile} (hp : Stands p s) {recordNo : UInt8} (hno : s.profile.recordNo? = some recordNo)
    {board : Board} {m : BoardMessage board} (hsame : (Message.board board m).resent = .board board m)
    (htarget : (Update.message (.board board m)).target? = some (.accessory, recordNo.toUInt16))
    {offered : AccessoryKind} (hoffered : kindOf? (.board board m) = some offered) {t : AccessoryState}
    (hboard : applyBoard (.board board m) { fresh p with kind := offered } = (t, true))
    (hkind : t.kindUpdates recordNo.toUInt16 recordNo = s.kindUpdates recordNo.toUInt16 recordNo) :
    Component.Takes rules (fun d => d.script = s.script) [(Update.message (.board board m)).resent]
      (.accessory (fresh p)) := by
  have hnoP : p.recordNo? = some recordNo := (Profile.recordNo?_congr hp.address).trans hno
  have hprofile : t.profile = p := by
    have hboth := profile_applyBoard (.board board m) { fresh p with kind := offered }
    rw [hboard] at hboth
    exact hboth
  have hstands : Stands t.profile s := hprofile ▸ hp
  refine takes_message hnoP hsame htarget hoffered hboard fun now => ?_
  exact script_congr (t := t.record (.message (.board board m)) now) ⟨hstands.address, hstands.record⟩ hno hkind

section Kinds

variable (address : UInt16) (recordNo : UInt8)

theorem kindUpdates_plain (hkind : s.kind = .plain) : s.kindUpdates address recordNo =
    (s.aux.toList ++ (s.aux1.toList ++ s.aux2.toList)).map (commanding address) := by
  rw [kindUpdates, hkind, ← List.append_assoc]
  rfl

theorem kindUpdates_relay (hkind : s.kind = .relay) : s.kindUpdates address recordNo =
    if s.claimed then [.message (.board .asc2 (relayMessage recordNo s.isAux1On))] else [] := by
  rw [kindUpdates, hkind]
  rfl

theorem kindUpdates_powerDistrict (hkind : s.kind = .powerDistrict) : s.kindUpdates address recordNo =
    if s.claimed then
      [.message (.board .bpc2 (districtMessage recordNo (s.districtAction.getD .control3) s.isAux1On))]
    else [] := by
  rw [kindUpdates, hkind]
  rfl

theorem kindUpdates_motorLamp (hkind : s.kind = .motorLamp) : s.kindUpdates address recordNo =
    (s.output.map fun config => Update.message (.board .amc2 (outputMessage recordNo config))).toList := by
  rw [kindUpdates, hkind]
  rfl

theorem kindUpdates_sensorTrack (hkind : s.kind = .sensorTrack) : s.kindUpdates address recordNo =
    [.message (.board .irda (infoMessage recordNo (s.sensorInfo.getD (defaultInfo recordNo))))] := by
  rw [kindUpdates, hkind]
  rfl

end Kinds

/-- The positions of the outputs are read off what is sent for them. -/
theorem find?_outputs (h : ∀ output op, s.position output = some op → op.output? = some output)
    (output : AccessoryOutput) :
    (s.aux1.toList ++ s.aux2.toList).find? (fun op => op.output? == some output) = s.position output := by
  have hother : ∀ {other : AccessoryOutput} (known : Option AccessoryOp), (∀ op, known = some op → op.output? = some other) →
      known.toList.find? (fun op => op.output? == some output) = if other = output then known else none := by
    intro other known hknown
    cases known with
    | none => rw [ite_self]; rfl
    | some op =>
        rw [Option.toList_some, List.find?_singleton, hknown op rfl]
        simp only [beq_iff_eq, Option.some.injEq]
  rw [List.find?_append, hother s.aux1 (h .aux1), hother s.aux2 (h .aux2)]
  cases output with
  | aux1 => exact Option.or_none
  | aux2 => exact Option.none_or

theorem resent_commanding_injective (address : UInt16) : Function.Injective (Update.resent ∘ commanding address) := by
  intro op other hsame
  cases hsame
  rfl

section Fresh

variable {p : Profile} (hp : Stands p s) {recordNo : UInt8} (hno : s.profile.recordNo? = some recordNo)
include hp hno

/-- A fresh accessory is where nothing is sent for it. -/
theorem takes_nothing (hnone : s.kindUpdates recordNo.toUInt16 recordNo = []) :
    Component.Takes rules (fun d => d.script = s.script)
      ((s.kindUpdates recordNo.toUInt16 recordNo).map Update.resent) (.accessory (fresh p)) := by
  rw [hnone]
  exact script_congr (t := fresh p) hp hno hnone.symm

theorem takes_relay (hkind : s.kind = .relay) :
    Component.Takes rules (fun d => d.script = s.script)
      ((s.kindUpdates recordNo.toUInt16 recordNo).map Update.resent) (.accessory (fresh p)) := by
  have hsent := kindUpdates_relay (s := s) recordNo.toUInt16 recordNo hkind
  by_cases hclaimed : s.claimed = true
  · rw [if_pos hclaimed] at hsent
    rw [hsent]
    cases hon : s.isAux1On <;> rw [hon] at hsent <;>
      exact takes_board hp hno rfl rfl rfl rfl hsent.symm
  · exact takes_nothing hp hno (hsent.trans (if_neg hclaimed))

theorem takes_powerDistrict (h : Kept s) (hkind : s.kind = .powerDistrict) :
    Component.Takes rules (fun d => d.script = s.script)
      ((s.kindUpdates recordNo.toUInt16 recordNo).map Update.resent) (.accessory (fresh p)) := by
  have hsent := kindUpdates_powerDistrict (s := s) recordNo.toUInt16 recordNo hkind
  by_cases hclaimed : s.claimed = true
  · rw [if_pos hclaimed] at hsent
    rw [hsent]
    rcases getD_districtAction h with haction | haction <;> rw [haction] at hsent ⊢ <;>
      cases hon : s.isAux1On <;> rw [hon] at hsent <;>
        exact takes_board hp hno rfl rfl rfl rfl hsent.symm
  · exact takes_nothing hp hno (hsent.trans (if_neg hclaimed))

theorem takes_motorLamp (hkind : s.kind = .motorLamp) :
    Component.Takes rules (fun d => d.script = s.script)
      ((s.kindUpdates recordNo.toUInt16 recordNo).map Update.resent) (.accessory (fresh p)) := by
  have hsent := kindUpdates_motorLamp (s := s) recordNo.toUInt16 recordNo hkind
  cases houtput : s.output with
  | none =>
      rw [houtput] at hsent
      exact takes_nothing hp hno hsent
  | some config =>
      rw [houtput] at hsent
      rw [hsent]
      exact takes_board hp hno rfl rfl rfl rfl hsent.symm

theorem takes_sensorTrack (hkind : s.kind = .sensorTrack) :
    Component.Takes rules (fun d => d.script = s.script)
      ((s.kindUpdates recordNo.toUInt16 recordNo).map Update.resent) (.accessory (fresh p)) := by
  have hsent := kindUpdates_sensorTrack (s := s) recordNo.toUInt16 recordNo hkind
  rw [hsent]
  exact takes_board hp hno rfl rfl rfl rfl hsent.symm

/-- Of an accessory that no board drives the same is sent afterwards exactly if every output is where it was. -/
theorem takes_plain (h : Kept s) (hkind : s.kind = .plain) :
    Component.Takes rules ((Component.accessory s).Respelled ((Component.accessory s).Restores rules.graph))
      ((s.kindUpdates recordNo.toUInt16 recordNo).map Update.resent) (.accessory (fresh p)) := by
  have hbound := Profile.address_of_recordNo? hno
  have hresent : (s.kindUpdates recordNo.toUInt16 recordNo).map Update.resent =
      (s.aux.toList ++ (s.aux1.toList ++ s.aux2.toList)).map (commanding recordNo.toUInt16) := by
    rw [kindUpdates_plain _ _ hkind, List.map_map]
    rfl
  rw [hresent]
  refine Component.takes_imp (takes_commands_fresh h.latched (hp.address.trans hbound)) ?_
  rintro d ⟨t, rfl, hsame, haux, hleft⟩
  have hstands := stands_of_unswitched hsame hp
  have hplain : t.kind = .plain := show t.unswitched.kind = .plain by rw [hsame]; rfl
  constructor
  · intro hrestores
    have hposition : ∀ output, t.position output = s.position output :=
      fun output => (hleft output).trans (hrestores hkind output)
    refine script_congr hstands hno ?_
    rw [kindUpdates_plain _ _ hplain, kindUpdates_plain _ _ hkind, haux, show t.aux1 = s.aux1 from hposition .aux1,
      show t.aux2 = s.aux2 from hposition .aux2]
  · intro hsent _ output
    have hnoT : t.profile.recordNo? = some recordNo := (Profile.recordNo?_congr hstands.address).trans hno
    have hcommands : (t.kindUpdates recordNo.toUInt16 recordNo).map Update.resent =
        (s.kindUpdates recordNo.toUInt16 recordNo).map Update.resent := by
      have hboth : t.script.map Update.resent = s.script.map Update.resent := hsent
      rw [script_of_recordNo? hno, script_of_recordNo? hnoT, hstands.record, List.map_append, List.map_append] at hboth
      exact List.append_cancel_left hboth
    rw [kindUpdates_plain _ _ hplain, kindUpdates_plain _ _ hkind, List.map_map, List.map_map, haux] at hcommands
    have hops := List.map_injective_iff.mpr (resent_commanding_injective recordNo.toUInt16) hcommands
    rw [← hleft, ← find?_outputs (fun output op hop => output?_of_position output h.latched hop),
      ← find?_outputs fun output op hop => output?_of_left? ((hleft output).symm.trans hop),
      List.append_cancel_left hops]

end Fresh

theorem takes_kindUpdates (h : Kept s) {p : Profile} (hp : Stands p s) {recordNo : UInt8}
    (hno : s.profile.recordNo? = some recordNo) :
    Component.Takes rules ((Component.accessory s).Respelled ((Component.accessory s).Restores rules.graph))
      ((s.kindUpdates recordNo.toUInt16 recordNo).map Update.resent) (.accessory (fresh p)) := by
  have hdriven : s.kind ≠ .plain → ∀ d : Component, d.script = s.script →
      (Component.accessory s).Respelled ((Component.accessory s).Restores rules.graph) d :=
    fun hkind d hscript => Component.respelled_of_script (fun hplain => absurd hplain hkind) hscript
  cases hkind : s.kind with
  | plain => exact takes_plain hp hno h hkind
  | sensorTrack => exact Component.takes_imp (takes_sensorTrack hp hno hkind) (hdriven (by rw [hkind]; decide))
  | powerDistrict => exact Component.takes_imp (takes_powerDistrict hp hno h hkind) (hdriven (by rw [hkind]; decide))
  | relay => exact Component.takes_imp (takes_relay hp hno hkind) (hdriven (by rw [hkind]; decide))
  | motorLamp => exact Component.takes_imp (takes_motorLamp hp hno hkind) (hdriven (by rw [hkind]; decide))

theorem update_message_record {m : RecordMessage} {p q : Profile}
    (haccept : p.accept .accessory (.message (.record m)) = .ok q)
    (hlive : ¬(m.isAcknowledgement = true ∨ m.status ≠ 0)) (rules : Rules) (now : Nat) :
    (Component.accessory (fresh p)).update rules now (.message (.record m)) =
      ⟨.accessory (fresh ((q.bindNames m.name? m.number?).record (.message (.record m)) now)), .ok true⟩ := by
  rw [Component.update, update_message (s := fresh p) haccept, applyMessage, applyRecord, if_neg hlive]
  rfl

theorem update_record (s : AccessoryState) {recordNo : UInt8} (hno : s.profile.recordNo? = some recordNo)
    (rules : Rules) (now : Nat) :
    (Component.accessory (fresh (.fresh s.profile.address))).update rules now
        (s.profile.recordUpdate .accessory recordNo []).resent =
      ⟨.accessory (fresh (s.profile.rebuilt .accessory recordNo [] now)), .ok true⟩ := by
  have hbound := Profile.address_of_recordNo? hno
  have haccept : (Profile.fresh s.profile.address).accept .accessory
      (.message (.record (s.profile.recordAgain .accessory recordNo []))) = .ok (.fresh s.profile.address) :=
    Profile.accept_bound hbound (Profile.target?_recordAgain hno .accessory [] hbound)
  have hlive : ¬((s.profile.recordAgain .accessory recordNo []).isAcknowledgement = true ∨
      (s.profile.recordAgain .accessory recordNo []).status ≠ 0) := by
    rintro (hack | hfailed)
    · cases hack
    · exact hfailed rfl
  rw [Profile.resent_recordUpdate, update_message_record haccept hlive, Profile.name?_recordAgain,
    Profile.number?_recordAgain, Profile.rebuilt]

/-- What is sent for an accessory is taken if what goes with its kind is taken, after the record of its names if this is
sent. -/
theorem takes_names {P : Component → Prop} {recordNo : UInt8} (hno : s.profile.recordNo? = some recordNo)
    (hnamed : ∀ now, Component.Takes rules P ((s.kindUpdates recordNo.toUInt16 recordNo).map Update.resent)
      (.accessory (fresh (s.profile.rebuilt .accessory recordNo [] now))))
    (hnameless : s.profile.recordUpdates .accessory [] = (Profile.fresh s.profile.address).recordUpdates .accessory [] →
      Component.Takes rules P ((s.kindUpdates recordNo.toUInt16 recordNo).map Update.resent)
        (.accessory (fresh (.fresh s.profile.address)))) :
    Component.Takes rules P (s.script.map Update.resent) (.accessory (fresh (.fresh s.profile.address))) := by
  have hresent : s.script.map Update.resent = (s.profile.recordUpdates .accessory []).map Update.resent ++
      (s.kindUpdates recordNo.toUInt16 recordNo).map Update.resent := by
    rw [script_of_recordNo? hno, List.map_append]
  rw [hresent]
  rcases Profile.recordUpdates_cases s.profile .accessory [] with ⟨other, hother, hsent⟩ | ⟨hnone, hfresh⟩
  · rw [hno] at hother
    cases hother
    rw [hsent]
    exact fun now => ⟨_, _, update_record s hno rules now, hnamed now⟩
  · rw [hnone]
    exact hnameless (hnone.trans hfresh.symm)

/-- A fresh accessory refuses nothing that is sent for another one, and the same is sent for it afterwards, exactly if
the commands for the outputs leave them where they are. -/
theorem takes_script (h : Kept s) (hfits : s.profile.NamesFit) {recordNo : UInt8}
    (hno : s.profile.recordNo? = some recordNo) :
    Component.Takes rules ((Component.accessory s).Respelled ((Component.accessory s).Restores rules.graph))
      (s.script.map Update.resent) (.accessory (fresh (.fresh s.profile.address))) := by
  refine takes_names hno (fun now => ?_) fun hsame => ?_
  · have hagrees := Profile.agrees_rebuilt h.named hfits .accessory recordNo [] now
    exact takes_kindUpdates h ⟨hagrees.address, Profile.recordUpdates_congr hagrees .accessory []⟩ hno
  · exact takes_kindUpdates (p := .fresh s.profile.address) h ⟨rfl, hsame.symm⟩ hno

end AccessoryState
end RailLayout
