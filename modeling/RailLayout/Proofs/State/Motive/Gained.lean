import RailLayout.Proofs.State.Motive.Dossier
import RailLayout.Proofs.State.Motive.Learned

/-!
What an engine or a train that is brought back knows. Whatever the graph, it knows nothing that the original one does
not, except for the control type, which goes with the generation, for the flags of the members, which go with the
members, and for what goes with the effects of the commands that the original one is held by
(`MotiveState.learns_run_script`).
-/

namespace RailLayout

namespace MotiveState

variable {kind : MotiveKind} {s : MotiveState} {rules : Rules}

/-! ## The generation -/

/-- Whether the generation is known if the control type is. -/
def Decided (s : MotiveState) : Prop := s.controlType.isSome = true → s.legacy.isSome = true

theorem decided_congr {t : MotiveState} (hdossier : t.dossier = s.dossier) (h : Decided s) : Decided t := by
  show t.dossier.controlType.isSome = true → t.dossier.legacy.isSome = true
  rw [hdossier]
  exact h

/-- A control type decides the generation of an engine; a train's is known. -/
theorem decided_setControlType (h : Coherent kind s) (controlType : UInt8) : Decided (s.setControlType controlType) := by
  intro _
  cases kind with
  | engine => exact Option.isSome_of_eq_some (if_pos h.kind_eq)
  | train => exact Option.isSome_of_eq_some ((h.setControlType controlType).legacy rfl)

theorem stable_decided (rules : Rules) (kind : MotiveKind) :
    Stable rules (fun _ => True) fun s => Coherent kind s ∧ Decided s where
  profile h p := ⟨(stable_coherent rules kind).profile h.1 p, h.2⟩
  latchGeneration {s} h c := by
    refine ⟨h.1.latchGeneration c, fun hcontrol => ?_⟩
    unfold MotiveState.latchGeneration at hcontrol ⊢
    split
    · rfl
    · rename_i hlatched
      rw [if_neg hlatched] at hcontrol
      exact h.2 hcontrol
  halt h := ⟨h.1.halt, decided_congr (dossier_halt _) h.2⟩
  applyNumeric h op data effects := ⟨h.1.applyNumeric op data effects, decided_congr (dossier_applyNumeric _ _ _ _) h.2⟩
  applyFields h c _ _ _ _ now := ⟨h.1.applyFields _ now _ _ c.data _, decided_congr (dossier_applyFields _ _ _ _ _ _ _) h.2⟩
  applyRecordFields {s} h m r := by
    refine ⟨h.1.applyRecordFields m r, ?_⟩
    unfold MotiveState.applyRecordFields
    dsimp only
    split
    · exact decided_setControlType (s := { s with profile := _, locoType := _ }) { h.1 with } _
    · exact h.2
  applyConsist h kind r := ⟨h.1.applyConsist kind r, by cases kind <;> exact h.2⟩
  applyMemoryField {s} h entry := by
    refine ⟨h.1.applyMemoryField entry, ?_⟩
    unfold MotiveState.applyMemoryField
    split
    case h_8 v => exact decided_setControlType h.1 v
    all_goals exact h.2
  speed h _ := ⟨{ h.1 with }, h.2⟩
  fourDigitRecord h _ := ⟨{ h.1 with }, h.2⟩

theorem decided_applySighting (h : Coherent kind s ∧ Decided s) (sighting : Sighting) :
    Coherent kind (s.applySighting sighting).1 ∧ Decided (s.applySighting sighting).1 := by
  refine ⟨h.1.applySighting sighting, ?_⟩
  unfold applySighting
  split
  · exact h.2
  · exact h.2

/-! ## What brings a state back -/

/-- Whether the record is sent. -/
def SendsRecord (s : MotiveState) : Prop := s.hasRecordFields = true ∧ ∃ address ≤ 99, s.profile.address = some address

/-- Why an engine or a train that is brought back, under a graph, can know a field that the original one does not know.
In a record that is sent, a control type that is not known goes with the generation, and the flags of a train's members
go with the members. The commands that the original one is held by decide the generation, and set fields by their
effects. -/
inductive Gains (graph : EffectGraph) (s : MotiveState) : StateField → Prop
  | controlType (hrecord : s.SendsRecord) (hlegacy : s.legacy.isSome = true) : Gains graph s .controlType
  | consistFlags (hrecord : s.SendsRecord) (htrain : s.kind = .train) (hmembers : s.consist ≠ []) :
      Gains graph s .consistFlags
  | legacy (hheld : s.heldOps ≠ []) : Gains graph s .legacy
  | effect {op : EngineOp} (hop : op ∈ s.heldOps) {field : StateField}
      (hsets : Effects.sets (graph.effects s.generation op) field = true) : Gains graph s field

/-- Whether a field can be known in what is brought back. -/
def Accounts (graph : EffectGraph) (s : MotiveState) (field : StateField) : Prop :=
  s.knows field = true ∨ s.Gains graph field ∨ field = .lastUpdate

theorem learns_applyConsist {graph : EffectGraph} (hrecord : s.SendsRecord) (f : MotiveState) :
    Learns (s.Accounts graph) f (f.applyConsist s.kind (s.toRecord.resent s.kind)) := by
  intro field hknows
  cases hkind : s.kind with
  | engine =>
      rw [hkind] at hknows
      exact Or.inl hknows
  | train =>
      rw [hkind] at hknows
      have hflags : s.toRecord.consistFlags = s.consistFlags := if_pos hkind
      have hmembers : s.toRecord.consist = s.consist := if_pos hkind
      cases field
      case consistFlags =>
        by_cases hnone : s.consistFlags = none ∧ s.consist = []
        · have hresent : (s.toRecord.resent .train).consistFlags = none := if_pos ⟨hflags.trans hnone.1, hmembers.trans hnone.2⟩
          refine Or.inl ?_
          rw [applyConsist] at hknows
          dsimp only [knows] at hknows
          rw [hresent] at hknows
          exact hknows
        · refine Or.inr ?_
          by_cases hempty : s.consist = []
          · exact Or.inl (Option.isSome_iff_ne_none.mpr fun h => hnone ⟨h, hempty⟩)
          · exact Or.inr (Or.inl (.consistFlags hrecord hkind hempty))
      case consist =>
        by_cases hempty : s.consist = []
        · have hresent : (s.toRecord.resent .train).consist = [] := by
            show Consist.read (Consist.write Consist.slots s.toRecord.consist) = []
            rw [hmembers, hempty]
            decide
          refine Or.inl ?_
          rw [applyConsist] at hknows
          dsimp only [knows] at hknows
          rw [hresent] at hknows
          exact hknows
        · refine Or.inr (Or.inl ?_)
          rw [knows, List.isEmpty_eq_false_iff.mpr hempty]
          rfl
      all_goals exact Or.inl hknows

theorem learns_update_record {graph : EffectGraph} (hdecided : Decided s)
    (hfields : s.hasRecordFields = true) {address : UInt16} (hbound : s.profile.address = some address)
    (hlow : address ≤ 99) {f : MotiveState} (hkind : f.kind = s.kind) (hsame : f.profile.address = some address)
    (rules : Rules) (now : Nat) :
    Learns (s.Accounts graph) f (f.update rules now (.message (.record (s.recordMessage address).resent))).state := by
  have hrecord : s.SendsRecord := ⟨hfields, address, hlow, hbound⟩
  have hread : Learns (s.Accounts graph) f
      (f.applyRecordFields (s.recordMessage address).resent (s.toRecord.resent s.kind)) := by
    intro field hknows
    rcases knows_applyRecordFields rfl hknows with hold | ⟨valid, hfield, hvalid⟩
    · exact Or.inl hold
    · rw [RecordMessage.has_validMask (r := s.toRecord) rfl] at hvalid
      rcases knows_of_has_toRecord hfield hvalid with hknown | ⟨rfl | rfl, hgeneration⟩
      · exact Or.inr (Or.inl hknown)
      · exact Or.inr (Or.inl ((Bool.or_eq_true_iff.mp hgeneration).elim hdecided id))
      · exact Or.inr ((Bool.or_eq_true_iff.mp hgeneration).imp id fun hlegacy => Or.inl (.controlType hrecord hlegacy))
  rw [update_recordMessage hlow hkind hsame]
  exact learns_trans (learns_trans hread (learns_applyConsist hrecord _)) (learns_record (Or.inr (Or.inr rfl)) _ now)

/-- The message that says where the record of a four-digit address is. -/
def foundMessage (s : MotiveState) (recordNo address : UInt16) : FourDigitMessage :=
  .about s.kind recordNo (.map 0 (some address))

theorem fourDigitUpdates_of_found {recordNo address : UInt16} (hrecord : s.fourDigitRecord = some recordNo)
    (hhigh : ¬address ≤ 99) : s.fourDigitUpdates address = [.message (.fourDigit (s.foundMessage recordNo address))] := by
  rw [fourDigitUpdates, hrecord]
  exact if_pos (UInt16.not_le.mp hhigh)

theorem learns_update_found {graph : EffectGraph} {recordNo : UInt16} (hrecord : s.fourDigitRecord = some recordNo)
    {address : UInt16} {f : MotiveState}
    (htarget : (Update.message (.fourDigit (s.foundMessage recordNo address))).target? = some (f.kind.scope, address))
    (hsame : f.profile.address = some address) (rules : Rules) (now : Nat) :
    Learns (s.Accounts graph) f (f.update rules now (.message (.fourDigit (s.foundMessage recordNo address)))).state := by
  have haccept : f.profile.accept f.kind.scope (.message (.fourDigit (s.foundMessage recordNo address))) = .ok f.profile :=
    Profile.accept_bound hsame htarget
  rw [update_message haccept]
  have hread : Learns (s.Accounts graph) f { f with fourDigitRecord := some recordNo } := by
    refine learns_of_others .fourDigitRecord (fun field hfield => ?_) fun _ =>
      Or.inr (Or.inl (Option.isSome_of_eq_some hrecord))
    cases field <;> first | rfl | exact absurd rfl hfield
  exact learns_trans hread (learns_record (Or.inr (Or.inr rfl)) _ now)

theorem learns_run_messages (graph : EffectGraph) (hdecided : Decided s)
    (hlocated : Located s) {address : UInt16} (hbound : s.profile.address = some address) (hrange : address ≤ 9999)
    {f : MotiveState} (hkind : f.kind = s.kind) (hsame : f.profile.address = some address) (rules : Rules)
    {timed : List (Nat × Update)}
    (htimed : timed.map Prod.snd = (s.recordUpdates address ++ s.fourDigitUpdates address).map Update.resent) :
    Learns (s.Accounts graph) f (f.run rules timed) := by
  have hnothing : timed.map Prod.snd = [] → Learns (s.Accounts graph) f (f.run rules timed) := by
    intro hnone
    rw [List.map_eq_nil_iff.mp hnone]
    exact learns_refl f
  by_cases hlow : address ≤ 99
  · rw [fourDigitUpdates_eq_nil s hlow, List.append_nil, recordUpdates_eq s hlow] at htimed
    split at htimed
    · rename_i hfields
      obtain ⟨⟨now, u⟩, rfl, rfl⟩ := List.map_eq_singleton_iff.mp htimed
      exact learns_update_record hdecided hfields hbound hlow hkind hsame rules now
    · exact hnothing htimed
  · have htarget := fun u => message_of_script (u := u) hlocated hrange
    rw [recordUpdates, if_neg fun h => hlow h.2, List.nil_append] at htimed htarget
    cases hrecord : s.fourDigitRecord with
    | none =>
        rw [fourDigitUpdates, hrecord] at htimed
        exact hnothing htimed
    | some recordNo =>
        rw [fourDigitUpdates_of_found hrecord hlow] at htimed htarget
        obtain ⟨⟨now, u⟩, rfl, rfl⟩ := List.map_eq_singleton_iff.mp htimed
        have htold := (htarget _ List.mem_cons_self).2.2
        rw [← hkind] at htold
        exact learns_update_found hrecord htold hsame rules now

/-- The field that is latched in a slot. -/
def slotField : Nat → StateField
  | 0 => .started
  | 1 => .smoke
  | 2 => .direction
  | 3 => .aux
  | 4 => .aux1
  | _ => .aux2

/-- What an operation stands for that a state is held by is known in this state. -/
theorem knows_slotField (h : Coherent kind s) {op : EngineOp} (hop : op ∈ s.heldOps) {field : StateField}
    (hfield : op.slot?.map slotField = some field) : s.knows field = true := by
  have hsame {held : Option EngineOp} {n : Nat} (hmem : op ∈ held.toList)
      (hn : ∀ other, held = some other → other.slot? = some n) : field = slotField n ∧ held.isSome = true := by
    have hheld := Option.mem_toList.mp hmem
    rw [hn op hheld] at hfield
    exact ⟨(Option.some.inj hfield).symm, Option.isSome_of_eq_some hheld⟩
  simp only [heldOps, List.mem_append] at hop
  rcases hop with ((((hstart | hlevel) | hturn) | hkey) | hfirst) | hsecond
  · obtain ⟨rfl, hknown⟩ := hsame hstart s.slot?_start
    exact Option.isSome_map.symm.trans hknown
  · obtain ⟨rfl, hknown⟩ := hsame hlevel s.slot?_smoke
    exact Option.isSome_map.symm.trans hknown
  · obtain ⟨rfl, hknown⟩ := hsame hturn (slot?_direction h)
    exact hknown
  · obtain ⟨rfl, hknown⟩ := hsame hkey (slot?_aux h)
    exact hknown
  · obtain ⟨rfl, hknown⟩ := hsame hfirst (slot?_aux1 h)
    exact hknown
  · obtain ⟨rfl, hknown⟩ := hsame hsecond (slot?_aux2 h)
    exact hknown

/-- What an operation sets itself that a state is held by is known in this state. -/
theorem knows_of_sets (h : Coherent kind s) {op : EngineOp} (hop : op ∈ s.heldOps) {field : StateField}
    (hsets : op.sets field = true) : s.knows field = true := by
  have hslot := isSome_slot?_of_mem_heldOps h hop
  cases field
  case direction =>
    rcases (Bool.or_eq_true_iff.mp hsets).imp eq_of_beq eq_of_beq with rfl | rfl <;> exact knows_slotField h hop rfl
  case aux =>
    rcases (Bool.or_eq_true_iff.mp hsets).imp eq_of_beq eq_of_beq with rfl | rfl <;> exact knows_slotField h hop rfl
  case aux1 =>
    cases eq_of_beq hsets
    exact h.aux1_known (Or.inl (held_of_mem h hop rfl (by decide)))
  case aux2 =>
    cases eq_of_beq hsets
    exact h.aux2_known (Or.inl (held_of_mem h hop rfl (by decide)))
  case rpm =>
    cases eq_of_beq hsets
    cases hslot
  case momentum =>
    rcases Bool.or_eq_true_iff.mp hsets with hsets | hhigh
    · rcases (Bool.or_eq_true_iff.mp hsets).imp eq_of_beq eq_of_beq with rfl | rfl <;> cases hslot
    · cases eq_of_beq hhigh
      cases hslot
  all_goals cases hsets

/-- Whatever the graph and the times, an engine or a train that is brought back knows nothing that the original one does
not account for. -/
theorem learns_run_script (hcoherent : Coherent kind s)
    (hdecided : Decided s) (hlocated : Located s) {address : UInt16}
    (hbound : s.profile.address = some address) (hrange : address ≤ 9999) (rules : Rules) {timed : List (Nat × Update)}
    (htimed : timed.map Prod.snd = s.script.map Update.resent) :
    Learns (s.Accounts rules.graph) (fresh kind (.fresh (some address)))
      ((fresh kind (.fresh (some address))).run rules timed) := by
  rw [script_of_bound hbound, List.map_append, List.map_map] at htimed
  obtain ⟨first, rest, rfl, hfirst, hrest⟩ := List.map_eq_append_iff.mp htimed
  rw [run_append]
  refine learns_trans (learns_run_messages rules.graph hdecided hlocated hbound hrange
    hcoherent.kind_eq.symm rfl rules hfirst) ?_
  have hkind : ((fresh kind (.fresh (some address))).run rules first).kind = s.kind :=
    (coherent_run rules kind (.fresh (some address)) first).kind_eq.trans hcoherent.kind_eq.symm
  exact learns_run_held (P := s.Accounts rules.graph) (fun op hop => isSome_slot?_of_mem_heldOps hcoherent hop)
    (fun op hop field hsets => Or.inr (Or.inl (.effect hop hsets)))
    (fun op hop field hsets => Or.inl (knows_of_sets hcoherent hop hsets))
    (fun hheld => Or.inr (Or.inl (.legacy hheld))) (Or.inr (Or.inr rfl)) hrest hkind (address_run rfl first)

end MotiveState
end RailLayout
