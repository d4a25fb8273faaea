import RailLayout.Proofs.State.Accessory.Rebuilt
import RailLayout.Proofs.State.Accessory.Restored

/-!
Broadcasts that reach an accessory. If no board drives it, it takes the key and the outputs of another accessory from the
commands that are sent for this one, under the stock graph (`AccessoryState.takes_plain_broadcast`). What is sent for an
accessory that a board drives stays what it is (`AccessoryState.takes_driven`).
-/

namespace RailLayout

variable {n : UInt16}

namespace AccessoryState

variable {s t : AccessoryState} {rules : Rules}

/-- What is sent for an accessory that a board drives says nothing of its outputs unless the board has claimed them. -/
theorem kindUpdates_congr (hdriven : s.kind ≠ .plain) (hsame : t.unswitched = s.unswitched)
    (hclaimed : s.claimed = true → t.aux1 = s.aux1) (address : UInt16) (recordNo : UInt8) :
    t.kindUpdates address recordNo = s.kindUpdates address recordNo := by
  have hkind : t.kind = s.kind := show t.unswitched.kind = s.unswitched.kind by rw [hsame]
  have hclaim : t.claimed = s.claimed := show t.unswitched.claimed = s.unswitched.claimed by rw [hsame]
  have haction : t.districtAction = s.districtAction :=
    show t.unswitched.districtAction = s.unswitched.districtAction by rw [hsame]
  have houtput : t.output = s.output := show t.unswitched.output = s.unswitched.output by rw [hsame]
  have hinfo : t.sensorInfo = s.sensorInfo := show t.unswitched.sensorInfo = s.unswitched.sensorInfo by rw [hsame]
  have hon : s.claimed = true → t.isAux1On = s.isAux1On := fun h => by rw [isAux1On, isAux1On, hclaimed h]
  cases hkindS : s.kind with
  | plain => exact absurd hkindS hdriven
  | relay =>
      rw [kindUpdates_relay _ _ (hkind.trans hkindS), kindUpdates_relay _ _ hkindS, hclaim]
      split
      · rw [hon ‹_›]
      · rfl
  | powerDistrict =>
      rw [kindUpdates_powerDistrict _ _ (hkind.trans hkindS), kindUpdates_powerDistrict _ _ hkindS, hclaim, haction]
      split
      · rw [hon ‹_›]
      · rfl
  | motorLamp => rw [kindUpdates_motorLamp _ _ (hkind.trans hkindS), kindUpdates_motorLamp _ _ hkindS, houtput]
  | sensorTrack => rw [kindUpdates_sensorTrack _ _ (hkind.trans hkindS), kindUpdates_sensorTrack _ _ hkindS, hinfo]

theorem stands_of_same (hsame : t.unswitched = s.unswitched) : Stands t.profile s := by
  have hstands : Stands s.unswitched.profile s := ⟨rfl, rfl⟩
  rw [← hsame] at hstands
  exact ⟨hstands.address, hstands.record⟩

/-- A broadcast that carries no number changes at most the keys and the outputs, and these only if no board has claimed
them. -/
theorem update_broadcast (hbound : s.profile.address = some n) {op : AccessoryOp} (hop : op ≠ .numeric) (rules : Rules)
    (now : Nat) :
    ∃ t changed, (Component.accessory s).update rules now (commanding broadcastAddress op) =
        ⟨.accessory t, .ok changed⟩ ∧ t.unswitched = s.unswitched ∧ (s.claimed = true → t.aux1 = s.aux1) := by
  have haccept : s.profile.accept .accessory (commanding broadcastAddress op) = .ok s.profile :=
    Profile.accept_of_reaches hbound rfl (Or.inr (Or.inl ⟨rfl, by decide⟩))
  generalize hc : Command.mk (.accessory op) broadcastAddress none .accessory = c
  have hupdate : (Component.accessory s).update rules now (commanding broadcastAddress op) =
      ⟨.accessory (s.applyOperation rules now c op).1, .ok (s.applyOperation rules now c op).2⟩ := by
    rw [Component.update, commanding, update_command haccept, ← hc]
    rfl
  refine ⟨_, _, hupdate, ?_, fun hclaimed => ?_⟩
  · simp only [applyOperation, if_neg hop]
    split
    · rfl
    · rw [unswitched_applyOutputs, unswitched_applyPress]
      rfl
  · exact congrArg (·.2.1) (((follows_applyOperation rules now c op s).silent rfl).2 hclaimed)

/-- Broadcasts that carry no number change nothing of what is sent for an accessory that a board drives. -/
theorem takes_driven (hbound : s.profile.address = some n) (hdriven : s.kind ≠ .plain) {recordNo : UInt8}
    (hno : s.profile.recordNo? = some recordNo) {ops : List AccessoryOp} (hops : ∀ op ∈ ops, op ≠ .numeric) :
    Component.Takes rules (fun d => d.script = s.script) (ops.map (commanding broadcastAddress)) (.accessory s) := by
  induction ops generalizing s with
  | nil => rfl
  | cons op rest ih =>
      intro now
      obtain ⟨t, changed, hupdate, hsame, hclaimed⟩ := update_broadcast hbound (hops op List.mem_cons_self) rules now
      have hstands := stands_of_same hsame
      have hscript : t.script = s.script := script_congr hstands hno (kindUpdates_congr hdriven hsame hclaimed _ _)
      have hkind : t.kind = s.kind := show t.unswitched.kind = s.unswitched.kind by rw [hsame]
      refine ⟨_, _, hupdate, Component.takes_imp (ih (hstands.address.trans hbound) (hkind ▸ hdriven)
        ((Profile.recordNo?_congr hstands.address).trans hno) fun op hop => hops op (List.mem_cons_of_mem _ hop)) ?_⟩
      exact fun d hd => hd.trans hscript

/-- The key and the positions that are known of an accessory, in the order in which they are sent. -/
def ops (s : AccessoryState) : List AccessoryOp := s.aux.toList ++ (s.aux1.toList ++ s.aux2.toList)

theorem mem_ops {op : AccessoryOp} : op ∈ s.ops ↔ s.aux = some op ∨ ∃ output, s.position output = some op := by
  simp only [ops, List.mem_append, Option.mem_toList]
  refine or_congr_right ⟨fun h => h.elim (⟨.aux1, ·⟩) (⟨.aux2, ·⟩), ?_⟩
  rintro ⟨_ | _, h⟩
  · exact Or.inl h
  · exact Or.inr h

theorem output?_of_aux (h : Latched s) {op : AccessoryOp} (hop : s.aux = some op) : op.output? = none := by
  rcases h.aux op hop with ⟨rfl, -⟩ | ⟨rfl, -⟩ <;> rfl

theorem ne_numeric_of_mem_ops (h : Latched s) {op : AccessoryOp} (hop : op ∈ s.ops) : op ≠ .numeric := by
  rintro rfl
  rcases mem_ops.mp hop with hkey | ⟨output, hposition⟩
  · rcases h.aux _ hkey with ⟨hkey, -⟩ | ⟨hkey, -⟩ <;> cases hkey
  · cases output?_of_position output h hposition

/-- A key that is known of two accessories is the same if one is sent what the other one is. -/
theorem aux_or_eq {other : AccessoryState} (hother : Latched other) (h : Latched s) (hmem : ∀ op ∈ other.ops, op ∈ s.ops) :
    other.aux.or s.aux = s.aux := by
  cases hkey : other.aux with
  | none => rfl
  | some op =>
      rcases mem_ops.mp (hmem op (mem_ops.mpr (Or.inl hkey))) with hsame | ⟨output, hposition⟩
      · exact hsame.symm
      · cases (output?_of_aux hother hkey).symm.trans (output?_of_position output h hposition)

theorem position_or_eq {other : AccessoryState} (hother : Latched other) (h : Latched s)
    (hmem : ∀ op ∈ other.ops, op ∈ s.ops) (output : AccessoryOutput) :
    (other.position output).or (s.position output) = s.position output := by
  cases hknown : other.position output with
  | none => rfl
  | some op =>
      have houtput := output?_of_position output hother hknown
      rcases mem_ops.mp (hmem op (mem_ops.mpr (Or.inr ⟨output, hknown⟩))) with hkey | ⟨place, hposition⟩
      · cases (output?_of_aux h hkey).symm.trans houtput
      · obtain rfl := Option.some.inj ((output?_of_position place h hposition).symm.trans houtput)
        exact hposition.symm

theorem script_of_plain (hplain : s.kind = .plain) {recordNo : UInt8} (hno : s.profile.recordNo? = some recordNo) :
    s.script = s.profile.recordUpdates .accessory [] ++ s.ops.map (commanding recordNo.toUInt16) := by
  rw [script_of_recordNo? hno, kindUpdates_plain _ _ hplain, ops]

/-- An accessory that no board drives takes the key and the positions of another one from broadcasts, under the stock
graph. -/
theorem takes_plain_broadcast {other : AccessoryState} (hother : Latched other) (h : Latched s)
    (hfree : Free broadcastAddress s) {recordNo : UInt8} (hno : s.profile.recordNo? = some recordNo)
    (settings : Settings) :
    Component.Takes ⟨.stock, settings⟩
      (fun d => ((∀ op ∈ other.ops, op ∈ s.ops) → d.script = s.script) ∧
        ∀ op ∈ other.ops, commanding recordNo.toUInt16 op ∈ d.script)
      (other.ops.map (commanding broadcastAddress)) (.accessory s) := by
  refine Component.takes_imp (takes_commands hother hfree) ?_
  rintro d ⟨t, rfl, hsame, haux, hleft⟩
  have hposition : ∀ output, t.position output = (other.position output).or (s.position output) := fun output => by
    rw [hleft, restores_stock hother output]
  have hstands := stands_of_same hsame
  have hkind : t.kind = .plain := (show t.unswitched.kind = s.unswitched.kind by rw [hsame]).trans hfree.kind
  have hnoT : t.profile.recordNo? = some recordNo := (Profile.recordNo?_congr hstands.address).trans hno
  refine ⟨fun hmem => ?_, fun op hop => ?_⟩
  · have hops : t.ops = s.ops := by
      rw [ops, ops, haux, aux_or_eq hother h hmem, show t.aux1 = s.aux1 from (hposition .aux1).trans
        (position_or_eq hother h hmem .aux1), show t.aux2 = s.aux2 from (hposition .aux2).trans
          (position_or_eq hother h hmem .aux2)]
    show t.script = s.script
    rw [script_of_plain hkind hnoT, script_of_plain hfree.kind hno, hstands.record, hops]
  · have hkept : op ∈ t.ops := by
      refine mem_ops.mpr ((mem_ops.mp hop).imp (fun hkey => ?_) fun ⟨output, hknown⟩ => ⟨output, ?_⟩)
      · rw [haux, hkey]
        rfl
      · rw [hposition, hknown]
        rfl
    show _ ∈ t.script
    rw [script_of_plain hkind hnoT]
    exact List.mem_append_right _ (List.mem_map_of_mem hkept)

theorem kind_applyOperation (now : Nat) (c : Command) (op : AccessoryOp) (s : AccessoryState) :
    (s.applyOperation rules now c op).1.kind = s.kind := by
  unfold applyOperation
  dsimp only
  repeat' split
  all_goals first | rfl | rw [(alike_applyOutputs _ _).kind, (alike_applyPress _ _ _ _).kind]; rfl

/-- Only a board's message makes a board drive an accessory. -/
theorem kind_update (rules : Rules) (now : Nat) (u : Update) (s : AccessoryState) :
    (s.update rules now u).state.kind = s.kind ∨ ∃ board m, u = .message (.board board m) := by
  cases haccept : s.profile.accept .accessory u with
  | error e =>
      rw [update, haccept]
      exact Or.inl rfl
  | ok q =>
      cases u with
      | command c =>
          rw [update_command haccept, applyCommand]
          split
          · exact Or.inl rfl
          · split
            · exact Or.inl (kind_applyOperation now c _ { s with profile := q })
            · exact Or.inl rfl
      | message m =>
          rw [update_message haccept]
          cases m with
          | board board m => exact Or.inr ⟨board, m, rfl⟩
          | record r =>
              refine Or.inl ?_
              show (applyRecord now r { s with profile := q }).1.kind = _
              unfold applyRecord
              split <;> rfl
          | _ => exact Or.inl rfl

theorem board_not_mem_script (hplain : s.kind = .plain) {board : Board} (m : BoardMessage board) :
    .message (.board board m) ∉ s.script := by
  cases hno : s.profile.recordNo? with
  | none =>
      rw [script, hno]
      split
      · cases ‹_ = some _›
      · exact List.not_mem_nil
  | some recordNo =>
      rw [script_of_plain hplain hno, List.mem_append]
      rintro (hrecord | hcommand)
      · obtain ⟨m, hm⟩ := Profile.record_of_mem_recordUpdates hrecord
        cases hm
      · obtain ⟨op, -, hcommand⟩ := List.mem_map.mp hcommand
        cases hcommand

/-- Only for an accessory that no board drives commands are sent. -/
theorem plain_of_command {address : UInt16} {recordNo : UInt8} {c : Command}
    (h : .command c ∈ s.kindUpdates address recordNo) : s.kind = .plain := by
  unfold kindUpdates at h
  split at h
  · assumption
  · split at h
    · cases List.mem_singleton.mp h
    · cases h
  · split at h
    · cases List.mem_singleton.mp h
    · cases h
  · obtain ⟨config, -, hcommand⟩ := Option.map_eq_some_iff.mp (Option.mem_toList.mp h)
    cases hcommand
  · cases List.mem_singleton.mp h

theorem mem_ops_of_mem_script (hplain : s.kind = .plain) {recordNo : UInt8} (hno : s.profile.recordNo? = some recordNo)
    {op : AccessoryOp} (h : commanding recordNo.toUInt16 op ∈ s.script) : op ∈ s.ops := by
  rw [script_of_plain hplain hno, List.mem_append] at h
  obtain ⟨same, hsame, hcommand⟩ :=
    List.mem_map.mp (h.resolve_left (Profile.command_not_mem_recordUpdates _ _ _ _))
  cases hcommand
  exact hsame

end AccessoryState

end RailLayout
