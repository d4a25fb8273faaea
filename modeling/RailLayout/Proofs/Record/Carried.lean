import RailLayout.Proofs.Record.Mask
import RailLayout.Proofs.Record.Message

/-!
What the record of an engine or a train says when it has travelled. A field that is not known is filled with a byte or
with a blank text (`MotiveRecord.resent`), and only the validity mask tells it from one that is. With the mask that goes
with the record, every field is read as it was: known with its value, or not known (`RecordMessage.record_survives`).
-/

namespace RailLayout

namespace MotiveRecord

/-- What a record has in a field, a text or a byte. -/
def get? (r : MotiveRecord) : RecordField → Option (String ⊕ UInt8)
  | .reverseLink => r.reverseLink.map .inr
  | .forwardLink => r.forwardLink.map .inr
  | .roadName => r.name.map .inl
  | .roadNumber => r.number.map .inl
  | .locoType => r.locoType.map .inr
  | .controlType => r.controlType.map .inr
  | .soundType => r.soundType.map .inr
  | .classType => r.classType.map .inr
  | .tsdbLeft => r.tsdbLeft.map .inr
  | .tsdbRight => r.tsdbRight.map .inr
  | .spare => r.spare.map .inr
  | .speed => r.speed.map .inr
  | .runLevel => r.runLevel.map .inr
  | .laborBias => r.laborBias.map .inr
  | .speedLimit => r.speedLimit.map .inr
  | .maxSpeed => r.maxSpeed.map .inr
  | .fuelLevel => r.fuel.map .inr
  | .waterLevel => r.water.map .inr
  | .trainAddress => r.trainAddress.map .inr
  | .trainPosition => r.trainPosition.map .inr
  | .smokeLevel => r.smoke.map .inr
  | .ditchLight => r.ditch.map .inr
  | .trainBrake => r.trainBrake.map .inr
  | .momentum => r.momentum.map .inr

theorem isSome_get? (r : MotiveRecord) (field : RecordField) : (r.get? field).isSome = r.has field := by
  cases field <;> exact Option.isSome_map

/-- Whether a frame has room for what a record says: for its texts, which have to be such as a field can hold, and for
its members, which have to be told apart from empty slots and have flags in front of them. -/
structure Portable (kind : MotiveKind) (r : MotiveRecord) : Prop where
  name (text : String) (h : r.name = some text) : TextField.Readable text ∧ TextField.Fits RecordLayout.nameWidth text
  number (text : String) (h : r.number = some text) :
    TextField.Readable text ∧ TextField.Fits RecordLayout.numberWidth text
  room (h : kind = .train) : r.consist.length ≤ Consist.slots
  seated (h : kind = .train) : ∀ member ∈ r.consist, Consist.Seated member
  flagged (h : kind = .train) : r.consist ≠ [] → r.consistFlags.isSome = true

namespace Portable

variable {kind : MotiveKind} {r : MotiveRecord} (h : r.Portable kind)
include h

/-- A field that is known comes back. -/
theorem get?_resent {field : RecordField} (hknown : r.has field = true) :
    (r.resent kind).get? field = r.get? field := by
  cases field
  case roadName =>
    obtain ⟨text, htext⟩ := Option.isSome_iff_exists.mp hknown
    obtain ⟨hreadable, hfits⟩ := h.name text htext
    simp only [get?, resent, htext, Option.getD_some, TextField.resent_of_fits hreadable hfits]
  case roadNumber =>
    obtain ⟨text, htext⟩ := Option.isSome_iff_exists.mp hknown
    obtain ⟨hreadable, hfits⟩ := h.number text htext
    simp only [get?, resent, htext, Option.getD_some, TextField.resent_of_fits hreadable hfits]
  all_goals
    obtain ⟨b, hb⟩ := Option.isSome_iff_exists.mp hknown
    simp only [get?, resent, hb, Option.getD_some]

theorem resentFlags_eq (hkind : kind = .train) : r.resentFlags kind = r.consistFlags := by
  subst hkind
  rw [resentFlags]
  cases hflags : r.consistFlags with
  | some flags =>
      rw [if_neg fun hnone => Option.some_ne_none flags hnone.1]
      rfl
  | none =>
      have hempty : r.consist = [] := Decidable.byContradiction fun hmembers => by
        have hsome := h.flagged rfl hmembers
        rw [hflags] at hsome
        cases hsome
      exact if_pos ⟨rfl, hempty⟩

theorem resentConsist_eq (hkind : kind = .train) : r.resentConsist kind = r.consist := by
  have hsame := Consist.read_write (h.seated hkind) (h.room hkind)
  subst hkind
  exact hsame

end Portable

end MotiveRecord

namespace RecordMessage

/-- Take any record of an engine or a train for which a frame has room, and the message that writes it under any number
with the mask that goes with it. The frame of the message holds a message with the same number, in which every field
with a validity bit is as the record has it, known or not, and so are the members of a train and the flags before
them. -/
theorem record_survives {kind : MotiveKind} {r : MotiveRecord} (h : r.Portable kind) (recordNo : UInt8) :
    ∃ sent found record, write recordNo (.motive kind r.validMask r) = .ok sent ∧
      ofFrame sent.toFrame = .ok found ∧ found.recordNo = recordNo ∧
        found.contents = .motive kind r.validMask record ∧
          (∀ field, (if found.has field then record.get? field else none) = r.get? field) ∧
            (kind = .train → record.consistFlags = r.consistFlags ∧ record.consist = r.consist) := by
  let sent : RecordMessage := ⟨recordNo, writeFlags, 0, 0, .motive kind r.validMask r⟩
  refine ⟨sent, sent.resent, r.resent kind, rfl, ofFrame_toFrame sent, rfl, rfl, fun field => ?_, fun hkind => ?_⟩
  · have hhas : sent.resent.has field = r.has field := has_validMask rfl field
    rw [hhas]
    cases hknown : r.has field with
    | true => exact h.get?_resent hknown
    | false =>
        rw [← r.isSome_get?, Option.isSome_eq_false_iff, Option.isNone_iff_eq_none] at hknown
        exact hknown.symm
  · exact ⟨h.resentFlags_eq hkind, h.resentConsist_eq hkind⟩

/-- A train with a name of which the number and most other fields are not known, and with two members. -/
theorem record_survives_named :
    let r : MotiveRecord := { MotiveRecord.unknown with
      name := some "Zéphyr", speed := some 0, momentum := some 54, consistFlags := some 1
      consist := [⟨12, 0x41⟩, ⟨14, 0x47⟩] }
    r.Portable .train ∧
      ∃ sent found record, write 7 (.motive .train r.validMask r) = .ok sent ∧
        ofFrame sent.toFrame = .ok found ∧ found.recordNo = 7 ∧
          found.contents = .motive .train r.validMask record ∧
            (∀ field, (if found.has field then record.get? field else none) = r.get? field) ∧
              record.consistFlags = some 1 ∧ record.consist = [⟨12, 0x41⟩, ⟨14, 0x47⟩] := by
  intro r
  have hportable : r.Portable .train :=
    { name := fun text htext => by
        cases htext
        exact ⟨by decide, by decide⟩
      number := fun text htext => nomatch htext
      room := fun _ => by decide
      seated := fun _ => by decide
      flagged := fun _ _ => rfl }
  obtain ⟨sent, found, record, hsent, hfound, hno, hcontents, hfields, hmembers⟩ := record_survives hportable 7
  exact ⟨hportable, sent, found, record, hsent, hfound, hno, hcontents, hfields, hmembers rfl⟩

end RecordMessage
end RailLayout
