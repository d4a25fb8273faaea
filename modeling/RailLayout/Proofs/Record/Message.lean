import RailLayout.Proofs.Record.Resent

/-!
Messages about records sent again. The message that the frame of a message holds is the same message with its
record sent again (`ofFrame_toFrame`); so it can only differ where the record does.
-/

namespace RailLayout

namespace RecordContents

/-- The texts of the contents, with the widths of their fields. -/
def texts : RecordContents → List (Nat × String)
  | none _ => []
  | motive _ _ record => RecordLayout.texts record.name record.number
  | fixture _ _ record => RecordLayout.texts record.name record.number
  | base _ record => record.texts

/-- The contents that are read from the bytes of contents. -/
def resent : RecordContents → RecordContents
  | none kind => none kind
  | motive kind valid record => motive kind valid (record.resent kind)
  | fixture kind valid record => fixture kind (lowWord valid).toUInt32 (record.resent kind)
  | base valid record => base (lowWord valid).toUInt32 record.resent

theorem words_eq (valid : UInt32) :
    (lowWord valid).toUInt32 ||| (highWord valid).toUInt32 <<< 16 = valid := by
  have hhigh : (valid >>> 16).toNat = valid.toNat / 2 ^ 16 := Nat.shiftRight_eq_div_pow valid.toNat 16
  have hlt := valid.toNat_lt
  have hword : valid.toNat / 2 ^ 16 % 2 ^ 16 = valid.toNat / 2 ^ 16 := Nat.mod_eq_of_lt (by omega)
  have hshift : (valid.toNat / 2 ^ 16) <<< 16 % 2 ^ 32 = (valid.toNat / 2 ^ 16) <<< 16 :=
    Nat.mod_eq_of_lt (by rw [Nat.shiftLeft_eq]; omega)
  rw [← UInt32.toNat_inj, lowWord, highWord]
  simp only [UInt32.toNat_or, UInt32.toNat_shiftLeft, UInt16.toNat_toUInt32, UInt32.toNat_toUInt16, hhigh, hword]
  show valid.toNat % 2 ^ 16 ||| (valid.toNat / 2 ^ 16) <<< 16 % 2 ^ 32 = valid.toNat
  rw [hshift, Payload.or_shiftLeft (by omega)]
  omega

theorem lowWord_toUInt32 (w : UInt16) : lowWord w.toUInt32 = w := UInt16.toUInt16_toUInt32 w

theorem read_encode (c : RecordContents) : Read.Gives (read c.kind) c.encode c.resent := by
  intro p
  have hroom : ∀ (w : UInt16) (more : List UInt8), ¬(Payload.le16 w ++ more).length < 2 := by
    intro w more
    rw [List.length_append]
    show ¬2 + more.length < 2
    omega
  cases c with
  | none kind => exact ⟨_, rfl⟩
  | motive kind valid record =>
      obtain ⟨last, hrecord⟩ := record.read_encode kind (p + 4)
      refine ⟨last, ?_⟩
      simp only [read, RecordContents.kind, encode, List.append_assoc, Read.bind_eq, Read.remaining_eq,
        Reader.remaining, if_neg (hroom _ _), Read.le16_append, Read.le16?_append, Nat.add_assoc,
        Nat.reduceAdd, hrecord, Option.getD_some, words_eq, Read.pure_eq, resent]
  | fixture kind valid record =>
      obtain ⟨last, hrecord⟩ := record.read_encode kind (p + 2)
      refine ⟨last, ?_⟩
      simp only [read, RecordContents.kind, encode, Read.bind_eq, Read.remaining_eq, Reader.remaining,
        if_neg (hroom _ _), Read.le16_append, hrecord, Read.pure_eq, resent]
  | base valid record =>
      obtain ⟨last, hrecord⟩ := record.read_encode (p + 2)
      refine ⟨last, ?_⟩
      simp only [read, RecordContents.kind, encode, Read.bind_eq, Read.remaining_eq, Reader.remaining,
        if_neg (hroom _ _), Read.le16_append, hrecord, Read.pure_eq, resent]

theorem resent_resent (c : RecordContents) : c.resent.resent = c.resent := by
  cases c with
  | none kind => rfl
  | motive kind valid record => rw [resent, resent, MotiveRecord.resent_resent]
  | fixture kind valid record => rw [resent, resent, FixtureRecord.resent_resent, lowWord_toUInt32]
  | base valid record => rw [resent, resent, BaseRecord.resent_resent, lowWord_toUInt32]

/-- How many bytes contents have at the least if each fixed field of the record is there, in whole or, where it
is a text, in part. -/
def wholeSize : RecordKind → Nat
  | .motive _ => 4 + MotiveRecord.fixedSize
  | .fixture _ => 38
  | .base => 6

/-- Whether the contents are those of a Base whose throw rate is not known. -/
def lacksRate : RecordContents → Bool
  | base _ record => record.throwRate.isNone
  | _ => false

theorem of_read {kind : RecordKind} {r last : Reader} {c : RecordContents}
    (h : read kind r = .ok (c, last)) :
    c.kind = kind ∧ TextField.AllReadable c.texts ∧
      (c.valid? = Option.none ∨ wholeSize kind ≤ r.rest.length → c.lacksRate = false →
        TextField.AllFit c.texts → c.resent = c) := by
  unfold read at h
  rw [Read.bind_eq, Read.remaining_eq] at h
  dsimp only at h
  by_cases hshort : r.remaining < 2
  · rw [if_pos hshort] at h
    cases h
    exact ⟨rfl, fun t ht => absurd ht List.not_mem_nil, fun _ _ _ => rfl⟩
  rw [if_neg hshort] at h
  obtain ⟨low, mid, hlow, h⟩ := Read.bind_eq_ok.mp h
  have hmid := Read.le16_eq_ok hlow
  cases kind with
  | motive kind =>
      obtain ⟨high, next, hhigh, h⟩ := Read.bind_eq_ok.mp h
      obtain ⟨record, end_, hrecord, h⟩ := Read.bind_eq_ok.mp h
      cases h
      refine ⟨rfl, MotiveRecord.allReadable_of_read hrecord, fun hwhole _ hfits => ?_⟩
      have hroom : 4 + MotiveRecord.fixedSize ≤ r.rest.length := hwhole.resolve_left (by rintro ⟨⟩)
      have hnext : next.rest = mid.rest.drop 2 := Read.le16?_eq_ok hhigh (by rw [hmid, List.length_drop]; omega)
      have hleft : MotiveRecord.fixedSize ≤ next.rest.length := by
        rw [hnext, hmid, List.length_drop, List.length_drop]
        omega
      rw [resent, MotiveRecord.resent_eq_of_read hrecord hleft hfits]
  | fixture kind =>
      obtain ⟨record, end_, hrecord, h⟩ := Read.bind_eq_ok.mp h
      cases h
      refine ⟨rfl, FixtureRecord.allReadable_of_read hrecord, fun hwhole _ hfits => ?_⟩
      have hroom : 38 ≤ r.rest.length := hwhole.resolve_left (by rintro ⟨⟩)
      have hleft : 35 < mid.rest.length := by
        rw [hmid, List.length_drop]
        omega
      rw [resent, FixtureRecord.resent_eq_of_read hrecord hleft hfits, lowWord_toUInt32]
  | base =>
      obtain ⟨record, end_, hrecord, h⟩ := Read.bind_eq_ok.mp h
      cases h
      refine ⟨rfl, BaseRecord.allReadable_of_read hrecord, fun hwhole hrate hfits => ?_⟩
      have hroom : 6 ≤ r.rest.length := hwhole.resolve_left (by rintro ⟨⟩)
      have hleft : 3 < mid.rest.length := by
        rw [hmid, List.length_drop]
        omega
      have hknown : record.throwRate ≠ Option.none := by
        intro hnone
        rw [lacksRate, hnone] at hrate
        cases hrate
      rw [resent, BaseRecord.resent_eq_of_read hrecord hleft hknown hfits, lowWord_toUInt32]

end RecordContents

namespace RecordKind

theorem ofCode?_code (kind : RecordKind) : ofCode? kind.code = some kind := by
  cases kind with
  | motive kind => cases kind <;> rfl
  | fixture kind => cases kind <;> rfl
  | base => rfl

end RecordKind

namespace RecordMessage

/-- The message that is read from the bytes of a message. -/
def resent (m : RecordMessage) : RecordMessage := { m with contents := m.contents.resent }

/-- What the frame of a message holds. -/
theorem ofFrame_toFrame (m : RecordMessage) : ofFrame m.toFrame = .ok m.resent := by
  obtain ⟨last, hcontents⟩ := m.contents.read_encode 4
  have hread : read m.kind (.ofList m.toFrame.payload) = .ok (m.resent, last) := by
    simp only [read, Reader.ofList, toFrame, List.cons_append, List.nil_append, Read.bind_eq, Read.byte_cons,
      Read.byteOrZero_cons, Nat.reduceAdd, kind, hcontents, Read.pure_eq, resent]
  have hkind : RecordKind.ofCode? m.toFrame.code = some m.kind := RecordKind.ofCode?_code m.kind
  rw [ofFrame, hkind]
  exact Read.run_eq_ok.mpr ⟨last, hread⟩

theorem resent_resent (m : RecordMessage) : m.resent.resent = m.resent := by
  rw [resent, resent, RecordContents.resent_resent]

/-- Where in a payload the last field of a record starts, the members of a train and the steps of a route aside:
the momentum of an engine or a train, the number of a fixture, the name of the Base. -/
def lastField : RecordKind → Nat
  | .motive _ => 67
  | .fixture _ => 41
  | .base => 9

theorem lastField_lt_iff (kind : RecordKind) (length : Nat) :
    lastField kind < length ↔ 4 + RecordContents.wholeSize kind ≤ length := by
  cases kind <;> exact Iff.rfl

/-- A record that was read comes back if every field was there, the throw rate is known and the texts fit. -/
theorem resent_eq_of_ofFrame {frame : Frame} {m : RecordMessage} (h : ofFrame frame = .ok m)
    (hwhole : m.isAcknowledgement = true ∨ lastField m.kind < frame.payload.length)
    (hrate : m.contents.lacksRate = false) (hfits : TextField.AllFit m.contents.texts) : m.resent = m := by
  unfold ofFrame at h
  split at h
  · rename_i kind hkind
    obtain ⟨last, h⟩ := Read.run_eq_ok.mp h
    unfold read at h
    obtain ⟨recordNo, mid, hno, h⟩ := Read.bind_eq_ok.mp h
    simp only [Read.bind_eq, Read.byteOrZero_eq, Reader.drop_drop, Nat.reduceAdd] at h
    rw [← Read.bind_eq] at h
    obtain ⟨contents, end_, hcontents, h⟩ := Read.bind_eq_ok.mp h
    cases h
    obtain ⟨hkinds, -, hsame⟩ := RecordContents.of_read hcontents
    have hpayload : frame.payload = recordNo :: mid.rest := Read.byte_eq_ok hno
    rw [resent, hsame ?_ hrate hfits]
    refine hwhole.imp Option.isNone_iff_eq_none.mp fun hlength => ?_
    rw [lastField_lt_iff, RecordMessage.kind, hkinds, hpayload, List.length_cons] at hlength
    rw [Reader.rest_drop, List.length_drop]
    omega
  · cases h

end RecordMessage
end RailLayout
