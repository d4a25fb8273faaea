import RailLayout.Proofs.Message.NormalForm

/-!
What messages keep to that were read from frames, as far as states take over parts of them and send these parts again
in messages of their own (`Message.spoken_of_ofFrame`): texts that a field can hold, steps of routes that are read
again from their words, throw rates that are read again from their bytes, and reports of blocks in which a zero stands
for nothing.
-/

namespace RailLayout

namespace FixtureRecord

/-- Whether steps are read again from the words that are written for them. -/
def StepsKept (steps : List RouteStep) : Prop := stepsOf maxSteps (encodeSteps steps) = steps

theorem stepsKept_nil : StepsKept [] := rfl

theorem stepsKept_ite (listed : Prop) [Decidable listed] (bytes : List UInt8) :
    StepsKept (if listed then stepsOf maxSteps bytes else []) := by
  split
  · exact stepsOf_encodeSteps bytes
  · exact stepsKept_nil

theorem stepsKept_of_read {kind : FixtureKind} {r last : Reader} {m : FixtureRecord} (h : read kind r = .ok (m, last)) :
    StepsKept m.route := by
  simp only [read, Read.bind_eq, Read.byte?_eq, Read.textUpTo?_eq, Read.rest_eq, Read.pure_eq] at h
  cases h
  exact stepsKept_ite _ _

end FixtureRecord

namespace BaseRecord

/-- Whether a throw rate is read again from its byte. -/
def RateKept (rate : Option Seconds) : Prop := ∀ s, rate = some s → Seconds.ofThrowRate? s.throwRate = some s

theorem rateKept_of_read {r last : Reader} {m : BaseRecord} (h : read r = .ok (m, last)) : RateKept m.throwRate := by
  simp only [read, Read.bind_eq, Read.byte?_eq, Read.rest_eq, Read.pure_eq] at h
  cases h
  intro s hs
  obtain ⟨byte, -, hmeans⟩ := Option.bind_eq_some_iff.mp hs
  exact Seconds.ofThrowRate?_throwRate hmeans

end BaseRecord

/-- What the contents of a record keep to that were read from a frame. -/
def RecordContents.Spoken : RecordContents → Prop
  | none _ => True
  | motive _ _ r => TextField.Readable (r.name.getD "") ∧ TextField.Readable (r.number.getD "")
  | fixture _ _ r =>
    TextField.Readable (r.name.getD "") ∧ TextField.Readable (r.number.getD "") ∧ FixtureRecord.StepsKept r.route
  | base _ r => TextField.Readable (r.name.getD "") ∧ BaseRecord.RateKept r.throwRate

theorem RecordContents.spoken_of_read {kind : RecordKind} {r last : Reader} {c : RecordContents}
    (h : read kind r = .ok (c, last)) : c.Spoken := by
  obtain ⟨-, hreadable, -⟩ := of_read h
  unfold read at h
  rw [Read.bind_eq, Read.remaining_eq] at h
  dsimp only at h
  by_cases hshort : r.remaining < 2
  · rw [if_pos hshort] at h
    cases h
    trivial
  rw [if_neg hshort] at h
  obtain ⟨low, mid, -, h⟩ := Read.bind_eq_ok.mp h
  cases kind with
  | motive kind =>
      obtain ⟨high, next, -, h⟩ := Read.bind_eq_ok.mp h
      obtain ⟨record, end_, -, h⟩ := Read.bind_eq_ok.mp h
      cases h
      exact RecordLayout.allReadable_texts.mp hreadable
  | fixture kind =>
      obtain ⟨record, end_, hrecord, h⟩ := Read.bind_eq_ok.mp h
      cases h
      obtain ⟨hname, hnumber⟩ := RecordLayout.allReadable_texts.mp hreadable
      exact ⟨hname, hnumber, FixtureRecord.stepsKept_of_read hrecord⟩
  | base =>
      obtain ⟨record, end_, hrecord, h⟩ := Read.bind_eq_ok.mp h
      cases h
      exact ⟨hreadable _ List.mem_cons_self, BaseRecord.rateKept_of_read hrecord⟩

theorem RecordMessage.spoken_of_ofFrame {frame : Frame} {m : RecordMessage} (h : ofFrame frame = .ok m) :
    m.contents.Spoken := by
  unfold ofFrame at h
  split at h
  · obtain ⟨last, h⟩ := Read.run_eq_ok.mp h
    unfold read at h
    obtain ⟨recordNo, mid, -, h⟩ := Read.bind_eq_ok.mp h
    obtain ⟨flags, mid, -, h⟩ := Read.bind_eq_ok.mp h
    obtain ⟨status, mid, -, h⟩ := Read.bind_eq_ok.mp h
    obtain ⟨spare, mid, -, h⟩ := Read.bind_eq_ok.mp h
    obtain ⟨contents, end_, hcontents, h⟩ := Read.bind_eq_ok.mp h
    cases h
    exact RecordContents.spoken_of_read hcontents
  · cases h

namespace RecordMessage

variable {m : RecordMessage}

theorem readable_name? (h : m.contents.Spoken) : TextField.Readable (m.name?.getD "") := by
  unfold name?
  split
  · exact TextField.readable_empty
  · rename_i hcontents
    rw [hcontents] at h
    split
    · exact h.1
    · exact TextField.readable_empty
  · rename_i hcontents
    rw [hcontents] at h
    split
    · exact h.1
    · exact TextField.readable_empty
  · rename_i hcontents
    rw [hcontents] at h
    exact h.1

theorem readable_number? (h : m.contents.Spoken) : TextField.Readable (m.number?.getD "") := by
  unfold number?
  split
  · rename_i hcontents
    rw [hcontents] at h
    split
    · exact h.2
    · exact TextField.readable_empty
  · rename_i hcontents
    rw [hcontents] at h
    split
    · exact h.2.1
    · exact TextField.readable_empty
  · exact TextField.readable_empty

end RecordMessage

namespace Message

/-- What messages keep to that were read from frames. -/
def Spoken : Message → Prop
  | record m => m.contents.Spoken
  | block m => m.Plain ∧ TextField.Readable (m.name.getD "")
  | _ => True

theorem spoken_of_ofFrame {frame : Frame} {m : Message} (h : ofFrame frame = .ok m) : m.Spoken := by
  unfold ofFrame at h
  split at h
  · cases h
    trivial
  · obtain ⟨p, -, h⟩ := ok_of_bind h
    cases h
    trivial
  · rcases of_ofBaseFrame h with ⟨r, -, rfl⟩ | ⟨r, -, rfl⟩ | ⟨r, hr, rfl⟩
    · trivial
    · trivial
    · exact RecordMessage.spoken_of_ofFrame hr
  · obtain ⟨r, -, h⟩ := ok_of_bind h
    cases h
    trivial
  · obtain ⟨r, hr, h⟩ := ok_of_bind h
    cases h
    obtain ⟨hplain, hreadable, -⟩ := BlockReport.of_ofFrame hr
    exact ⟨hplain, hreadable⟩
  · split at h
    · obtain ⟨r, -, h⟩ := ok_of_bind h
      cases h
      trivial
    · cases h
      trivial
  · cases h
    trivial
  · cases h
    trivial

end Message
end RailLayout
