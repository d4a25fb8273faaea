import RailLayout.Proofs.Record.Message

/-!
Where in the payload of a frame the record of an engine or a train stands: after eight bytes of the message and the mask
(`RecordMessage.motive_of_ofFrame`), its fields of one byte from the fortieth on, and then, for a train, the members
(`MotiveRecord.layout_of_read`).
-/

namespace RailLayout

namespace MotiveRecord

/-- The members after the other fields of a record: only a train's record has some. -/
def consistIn (bytes : List UInt8) : MotiveKind → Option UInt8 × List ConsistMember
  | .engine => (none, [])
  | .train => (bytes[60]?, Consist.read (bytes.drop 61))

/-- What a record that was read has in each place. -/
theorem layout_of_read {kind : MotiveKind} {r last : Reader} {m : MotiveRecord} (h : read kind r = .ok (m, last)) :
    m.byteFields = (List.range 20).map (fun i => r.rest[40 + i]?) ∧
      (m.consistFlags, m.consist) = consistIn r.rest kind := by
  simp only [read, RecordLayout.nameWidth, RecordLayout.numberWidth, Read.bind_eq, Read.byte?_eq,
    Read.textUpTo?_eq, Reader.drop_drop, Reader.rest_drop, List.getElem?_drop, Nat.reduceAdd] at h
  cases kind with
  | engine =>
      cases h
      exact ⟨rfl, rfl⟩
  | train =>
      simp only [read.readConsist, Read.bind_eq, Read.byte?_eq, Read.rest_eq, Read.pure_eq, Reader.drop_drop,
        Reader.rest_drop, List.getElem?_drop, Nat.reduceAdd] at h
      cases h
      exact ⟨rfl, rfl⟩

end MotiveRecord

/-- What is read where there are four bytes of a mask. -/
theorem RecordContents.motive_of_read {kind : MotiveKind} {b0 b1 b2 b3 : UInt8} {rest : List UInt8} {p : Nat}
    {c : RecordContents} {last : Reader} (h : read (.motive kind) ⟨p, b0 :: b1 :: b2 :: b3 :: rest⟩ = .ok (c, last)) :
    ∃ valid r, c = .motive kind valid r ∧ MotiveRecord.read kind ⟨p + 4, rest⟩ = .ok (r, last) := by
  have hlong : ¬(b0 :: b1 :: b2 :: b3 :: rest).length < 2 := by
    simp only [List.length_cons]
    omega
  have hmask : RecordContents.read (.motive kind) ⟨p, b0 :: b1 :: b2 :: b3 :: rest⟩ =
      (MotiveRecord.read kind >>= fun record => pure (.motive kind
        ((Payload.word b0 b1).toUInt32 ||| (Payload.word b2 b3).toUInt32 <<< 16) record) :
          Read RecordContents) ⟨p + 4, rest⟩ := by
    rw [read, Read.bind_eq, Read.remaining_eq]
    dsimp only [Reader.remaining]
    rw [if_neg hlong]
    rfl
  rw [hmask] at h
  obtain ⟨r, end_, hr, h⟩ := Read.bind_eq_ok.mp h
  cases h
  exact ⟨_, r, rfl, hr⟩

/-- The record in the frame of a message about an engine or a train. -/
theorem RecordMessage.motive_of_ofFrame {frame : Frame} {m : RecordMessage} {kind : MotiveKind}
    (h : ofFrame frame = .ok m) (hkind : m.kind = .motive kind) (hlong : 8 ≤ frame.payload.length) :
    ∃ valid r last, m.contents = .motive kind valid r ∧
      MotiveRecord.read kind ⟨8, frame.payload.drop 8⟩ = .ok (r, last) := by
  obtain ⟨code, payload⟩ := frame
  obtain ⟨b0, b1, b2, b3, b4, b5, b6, b7, rest, rfl⟩ : ∃ b0 b1 b2 b3 b4 b5 b6 b7 rest,
      payload = b0 :: b1 :: b2 :: b3 :: b4 :: b5 :: b6 :: b7 :: rest := by
    rcases payload with _ | ⟨b0, _ | ⟨b1, _ | ⟨b2, _ | ⟨b3, _ | ⟨b4, _ | ⟨b5, _ | ⟨b6, _ | ⟨b7, rest⟩⟩⟩⟩⟩⟩⟩⟩
    case cons.cons.cons.cons.cons.cons.cons.cons => exact ⟨b0, b1, b2, b3, b4, b5, b6, b7, rest, rfl⟩
    all_goals exact absurd hlong (by simp)
  unfold ofFrame at h
  split at h
  · rename_i k hk
    obtain ⟨last, h⟩ := Read.run_eq_ok.mp h
    unfold read at h
    simp only [Reader.ofList, Read.bind_eq, Read.byte_cons, Read.byteOrZero_cons, Nat.reduceAdd] at h
    rw [← Read.bind_eq] at h
    obtain ⟨contents, end_, hcontents, h⟩ := Read.bind_eq_ok.mp h
    cases h
    have hsame : k = .motive kind := (RecordContents.of_read hcontents).1.symm.trans hkind
    subst hsame
    obtain ⟨valid, r, rfl, hr⟩ := RecordContents.motive_of_read hcontents
    exact ⟨valid, r, last, rfl, hr⟩
  · cases h

end RailLayout
