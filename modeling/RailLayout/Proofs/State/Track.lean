import RailLayout.Proofs.State.Feed

/-!
Sensor tracks and blocks that are rebuilt from what brings a fresh state to them: the configuration of a sensor track
and the last report on a block, each in one message. What is not known of a configuration is sent with a default, and
comes back known; it is then sent as it is (`SensorTrackState.takes_script`). A report comes back as it is, since a
zero in it stands for nothing (`BlockState.takes_script`).
-/

namespace RailLayout

variable {rules : Rules} {now : Nat} {u : Update}

namespace SensorTrackState

variable {s : SensorTrackState}

/-- The configuration that is sent for a sensor track, with defaults for what is not known. -/
def config (s : SensorTrackState) (address : UInt8) (sequence : Sequence) : SensorConfig :=
  ⟨s.tmccId.getD address, 0, sequence, s.locoRightLeft.getD anyLoco, s.locoLeftRight.getD anyLoco⟩

def configMessage (address : UInt8) (config : SensorConfig) : BoardMessage .irda :=
  ⟨.irdaRx, address, .common .config, none, .config config⟩

theorem script_of_known {recordNo : UInt8} {sequence : Sequence} (hno : s.profile.recordNo? = some recordNo)
    (hsequence : s.sequence = some sequence) :
    s.script = [.message (.board .irda (configMessage recordNo (s.config recordNo sequence)))] := by
  rw [script, hno, hsequence]
  rfl

theorem script_cases (s : SensorTrackState) :
    (∃ recordNo sequence, s.profile.recordNo? = some recordNo ∧ s.sequence = some sequence) ∨ s.script = [] := by
  unfold script
  split
  · rename_i recordNo sequence hno hsequence
    exact Or.inl ⟨recordNo, sequence, hno, hsequence⟩
  · exact Or.inr rfl

theorem sendable_configMessage (address : UInt8) (c : SensorConfig) :
    (Update.message (.board .irda (configMessage address c))).Sendable := by
  have hbody : Read.Gives (BoardBody.read .irda .irdaRx (.common .config)) c.encode (.config c) :=
    Read.Gives.map (f := @BoardBody.config .irda) c.read_encode
  exact Update.sendable_board (by decide) (by decide) (by decide) hbody rfl address

theorem sendable_script (s : SensorTrackState) : ∀ u ∈ s.script, u.Sendable := by
  intro u hu
  rcases script_cases s with ⟨recordNo, sequence, hno, hsequence⟩ | hscript
  · rw [script_of_known hno hsequence, List.mem_singleton] at hu
    rw [hu]
    exact sendable_configMessage recordNo _
  · rw [hscript] at hu
    exact absurd hu List.not_mem_nil

/-- A sensor track that has taken over a configuration. -/
def configured (s : SensorTrackState) (recordNo : UInt8) (c : SensorConfig) (now : Nat) : SensorTrackState :=
  { s with
    profile := s.profile.record (.message (.board .irda (configMessage recordNo c))) now
    tmccId := some c.tmccId
    sequence := some c.sequence
    locoRightLeft := some c.locoRightLeft
    locoLeftRight := some c.locoLeftRight }

/-- A configuration is taken over in full. -/
theorem update_config {recordNo : UInt8} (hno : s.profile.recordNo? = some recordNo) (c : SensorConfig) (rules : Rules)
    (now : Nat) :
    (Component.sensorTrack s).update rules now (.message (.board .irda (configMessage recordNo c))) =
      ⟨.sensorTrack (s.configured recordNo c now), .ok true⟩ := by
  have haccept : s.profile.accept .sensorTrack (.message (.board .irda (configMessage recordNo c))) = .ok s.profile :=
    Profile.accept_bound (Profile.address_of_recordNo? hno) rfl
  rw [Component.update, update_of_accept haccept]
  rfl

theorem config_configured (s : SensorTrackState) (recordNo : UInt8) (c : SensorConfig) (now : Nat) :
    (s.configured recordNo c now).config recordNo c.sequence = { c with debug := 0 } := rfl

/-- A fresh sensor track refuses nothing that is sent for another one, and the same is sent for it afterwards. -/
theorem takes_script (s : SensorTrackState) :
    Component.Takes rules (fun d => d.script = s.script) (s.script.map Update.resent)
      (.sensorTrack (.fresh (.fresh s.profile.address))) := by
  rcases script_cases s with ⟨recordNo, sequence, hno, hsequence⟩ | hscript
  · rw [script_of_known hno hsequence]
    intro now
    refine ⟨_, _, update_config (s := .fresh (.fresh s.profile.address)) hno _ rules now, ?_⟩
    have hconfigured : ((fresh (.fresh s.profile.address)).configured recordNo (s.config recordNo sequence) now).script =
        _ := script_of_known hno rfl
    rw [config_configured] at hconfigured
    exact hconfigured
  · rw [hscript]
    show script _ = []
    unfold script
    split
    · rename_i hsequence
      cases hsequence
    · rfl

end SensorTrackState

namespace BlockState

variable {s : BlockState}

/-- What a block keeps to that heard nothing but commands and messages from frames: a name that fields can hold, and
zeros that stand for nothing. -/
structure Kept (s : BlockState) : Prop where
  named : s.profile.Named
  prevBlock : s.prevBlock ≠ some 0
  nextBlock : s.nextBlock ≠ some 0
  sensorTrack : s.sensorTrack ≠ some 0
  switch : s.switch ≠ some 0
  occupant : ∀ o, s.occupant = some o → o.address ≠ 0

theorem kept_apply (h : Kept s) (hu : u.Spoken) (now : Nat) : Kept (apply now u s).1 := by
  unfold apply
  split
  · obtain ⟨hplain, hname⟩ := hu
    have hnumber : TextField.Readable ((none : Option String).getD "") := TextField.readable_empty
    have hnamed := Profile.named_bindNames h.named hname hnumber
    exact ⟨{ hnamed with }, hplain.prevBlock, hplain.nextBlock, hplain.sensorTrack, hplain.switch, hplain.occupant⟩
  · exact h

theorem kept_update (h : Kept s) (hu : u.Spoken) (now : Nat) : Kept (s.update now u).state := by
  cases haccept : s.profile.accept .block u with
  | error e =>
      rw [update, haccept]
      exact h
  | ok q =>
      rw [update_of_accept haccept]
      exact kept_apply (s := { s with profile := q }) { h with named := Profile.named_of_accept h.named haccept } hu now

theorem update_bound {address : UInt16} (hbound : s.profile.address = some address)
    (htarget : u.target? = some (.block, address)) (rules : Rules) (now : Nat) :
    (Component.block s).update rules now u = ⟨.block (apply now u s).1, .ok (apply now u s).2⟩ := by
  rw [Component.update, update_of_accept (Profile.accept_bound hbound htarget)]
  rfl

/-- The report that is sent for a block. -/
def report (s : BlockState) (blockId flags : UInt8) : BlockReport :=
  ⟨blockId, s.prevBlock, s.nextBlock, flags, s.sensorTrack, s.switch, s.occupant, s.profile.roadName⟩

theorem script_of_known {recordNo flags : UInt8} (hno : s.profile.recordNo? = some recordNo)
    (hflags : s.flags = some flags) : s.script = [.message (.block (s.report recordNo flags))] := by
  rw [script, toReport?, hno, hflags]
  rfl

theorem script_cases (s : BlockState) :
    (∃ recordNo flags, s.profile.recordNo? = some recordNo ∧ s.flags = some flags) ∨ s.script = [] := by
  cases hflags : s.flags with
  | none => exact Or.inr (by rw [script, hflags])
  | some flags =>
      cases hno : s.profile.recordNo? with
      | none => exact Or.inr (by rw [script, toReport?, hno, hflags]; rfl)
      | some recordNo => exact Or.inl ⟨recordNo, flags, rfl, rfl⟩

theorem plain_report (h : Kept s) (blockId flags : UInt8) : (s.report blockId flags).Plain :=
  ⟨h.prevBlock, h.nextBlock, h.sensorTrack, h.switch, h.occupant⟩

theorem sendable_script (h : Kept s) : ∀ u ∈ s.script, u.Sendable := by
  intro u hu
  rcases script_cases s with ⟨recordNo, flags, hno, hflags⟩ | hscript
  · rw [script_of_known hno hflags, List.mem_singleton] at hu
    rw [hu]
    exact Update.sendable_block (plain_report h recordNo flags)
  · rw [hscript] at hu
    exact absurd hu List.not_mem_nil

theorem report_apply (now : Nat) (r : BlockReport) (s : BlockState) (blockId flags : UInt8) :
    (apply now (.message (.block r)) s).1.report blockId flags =
      ⟨blockId, r.prevBlock, r.nextBlock, flags, r.sensorTrack, r.switch, r.occupant,
        (Profile.trimmed? r.name).or s.profile.roadName⟩ := rfl

theorem flags_apply (now : Nat) (r : BlockReport) (s : BlockState) :
    (apply now (.message (.block r)) s).1.flags = some r.flags := rfl

/-- A report that was sent for a block is taken over as it was. -/
theorem update_report (h : Kept s) (hfits : s.profile.NamesFit) {recordNo : UInt8}
    (hno : s.profile.recordNo? = some recordNo) (flags : UInt8) (rules : Rules) (now : Nat) :
    ∃ t changed,
      (Component.block (.fresh (.fresh s.profile.address))).update rules now
          (.message (.block (s.report recordNo flags).resent)) = ⟨.block t, .ok changed⟩ ∧
        t.profile.recordNo? = some recordNo ∧ t.flags = some flags ∧
          t.report recordNo flags = s.report recordNo flags := by
  have hupdate := update_bound (s := .fresh (.fresh s.profile.address))
    (u := .message (.block (s.report recordNo flags).resent)) (Profile.address_of_recordNo? hno) rfl rules now
  have haddress := (told_apply now (.message (.block (s.report recordNo flags).resent))
    (.fresh (.fresh s.profile.address))).address
  refine ⟨_, _, hupdate, (Profile.recordNo?_congr haddress).trans hno, flags_apply now _ _, ?_⟩
  have hname : Profile.trimmed? (some (TextField.resent BlockReport.nameWidth (s.profile.roadName.getD ""))) =
      s.profile.roadName := Profile.trimmed?_resent h.named.name hfits.name
  rw [report_apply]
  simp only [BlockReport.resent, report, hname, fresh, Profile.fresh, Option.or_none]

/-- A fresh block refuses nothing that is sent for another one, and the same is sent for it afterwards. -/
theorem takes_script (h : Kept s) (hfits : s.profile.NamesFit) :
    Component.Takes rules (fun d => d.script = s.script) (s.script.map Update.resent)
      (.block (.fresh (.fresh s.profile.address))) := by
  rcases script_cases s with ⟨recordNo, flags, hno, hflags⟩ | hscript
  · rw [script_of_known hno hflags]
    intro now
    obtain ⟨t, changed, hupdate, hsameNo, hsame, hreport⟩ := update_report h hfits hno flags rules now
    refine ⟨_, _, hupdate, ?_⟩
    show t.script = _
    rw [script_of_known hsameNo hsame, hreport]
  · rw [hscript]
    rfl

end BlockState
end RailLayout
