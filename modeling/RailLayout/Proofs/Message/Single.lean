import RailLayout.BlockReport
import RailLayout.Memory.Message
import RailLayout.PassThrough
import RailLayout.Proofs.Payload.Reader
import RailLayout.SpeedReport

/-!
Messages of one layout each sent again: pass-throughs, speed reports, memory parts and block reports. The first
two come back as they were. A memory part comes back as an engine's if the kind of its record is not known, and
a block report without a name comes back with an empty one; both stay as they are from then on.
-/

namespace RailLayout

namespace PassThrough

theorem ofFrame_toFrame {frame : Frame} {m : PassThrough} (h : ofFrame frame = .ok m) :
    ofFrame m.toFrame = .ok m := by
  obtain ⟨code, payload⟩ := frame
  unfold ofFrame at h
  split at h
  · rename_i hcode
    cases payload with
    | nil => cases h
    | cons b rest =>
        cases h
        exact if_pos hcode
  · cases h

theorem code_of_ofFrame {frame : Frame} {m : PassThrough} (h : ofFrame frame = .ok m) :
    m.code = frame.code := by
  unfold ofFrame at h
  split at h
  · split at h
    · cases h
    · cases h
      rfl
  · cases h

end PassThrough

namespace SpeedReport

theorem ofFrame_toFrame (m : SpeedReport) : ofFrame m.toFrame = .ok m := by
  obtain ⟨kind, recordNo, speed⟩ := m
  cases kind <;> rfl

end SpeedReport

namespace MemoryMessage

/-- The message that is read from the frame of a message. -/
def resent (m : MemoryMessage) : MemoryMessage :=
  { m with scope := scopeOf? ((m.scope.bind typeOf?).getD 1) }

theorem ofFrame_toFrame (m : MemoryMessage) : ofFrame m.toFrame = .ok m.resent := by
  refine (if_pos rfl).trans (Read.run_eq_ok.mpr ⟨⟨0 + 1 + 1 + 1 + 1 + 4 + 1 + 1 + m.data.length, []⟩, ?_⟩)
  simp only [Reader.ofList, toFrame, read, List.append_assoc, List.cons_append, List.nil_append, Read.bind_eq,
    Read.byte_cons, Read.le32_append, Read.rest_eq, Reader.remaining, Read.pure_eq, resent]

theorem resent_resent (m : MemoryMessage) : m.resent.resent = m.resent := by
  obtain ⟨recordNo, flags, status, scope, start, port, dataLen, data⟩ := m
  cases scope with
  | none => rfl
  | some scope => cases scope <;> rfl

theorem resent_eq_of_ofFrame {frame : Frame} {m : MemoryMessage} (h : ofFrame frame = .ok m)
    (hknown : m.scope ≠ none) : m.resent = m := by
  unfold ofFrame at h
  split at h
  · obtain ⟨last, h⟩ := Read.run_eq_ok.mp h
    obtain ⟨recordNo, mid, -, h⟩ := Read.bind_eq_ok.mp h
    obtain ⟨flags, mid, -, h⟩ := Read.bind_eq_ok.mp h
    obtain ⟨status, mid, -, h⟩ := Read.bind_eq_ok.mp h
    obtain ⟨kind, mid, -, h⟩ := Read.bind_eq_ok.mp h
    obtain ⟨start, mid, -, h⟩ := Read.bind_eq_ok.mp h
    obtain ⟨port, mid, -, h⟩ := Read.bind_eq_ok.mp h
    obtain ⟨dataLen, mid, -, h⟩ := Read.bind_eq_ok.mp h
    obtain ⟨data, mid, -, h⟩ := Read.bind_eq_ok.mp h
    cases h
    obtain ⟨scope, hscope⟩ := Option.ne_none_iff_exists'.mp hknown
    dsimp only at hscope
    have hfound := List.find?_some (show Scope.all.find? (fun s => typeOf? s == some kind) = some scope from hscope)
    have htype : typeOf? scope = some kind := beq_iff_eq.mp hfound
    simp only [resent, hscope, Option.bind_some, htype, Option.getD_some]
  · cases h

end MemoryMessage

namespace Scope

theorem ofWire?_wire (scope : Scope) : ofWire? scope.wire = some scope := by
  cases scope <;> rfl

end Scope

namespace Direction

theorem ofWire_wire (direction : Direction) : ofWire direction.wire = direction := by
  cases direction <;> rfl

end Direction

namespace BlockReport

/-- The report that is read from the frame of a report. -/
def resent (m : BlockReport) : BlockReport :=
  { m with name := some (TextField.resent nameWidth (m.name.getD "")) }

/-- The texts of a report, with the widths of their fields. -/
def texts (m : BlockReport) : List (Nat × String) := [(nameWidth, m.name.getD "")]

/-- Whether zeros stand for nothing and for nothing else. -/
structure Plain (m : BlockReport) : Prop where
  prevBlock : m.prevBlock ≠ some 0
  nextBlock : m.nextBlock ≠ some 0
  sensorTrack : m.sensorTrack ≠ some 0
  switch : m.switch ≠ some 0
  occupant : ∀ o, m.occupant = some o → o.address ≠ 0

theorem bind_nonzero?_ne (byte : Option UInt8) : byte.bind nonzero? ≠ some 0 := by
  intro h
  obtain ⟨b, -, hb⟩ := Option.bind_eq_some_iff.mp h
  unfold nonzero? at hb
  split at hb
  · cases hb
  · rename_i hne
    exact hne (Option.some.inj hb)

theorem nonzero?_getD {byte : Option UInt8} (h : byte ≠ some 0) : nonzero? (byte.getD 0) = byte := by
  cases byte with
  | none => rfl
  | some b => exact if_neg fun hzero => h (congrArg some hzero)

theorem occupant?_address {address : Option UInt16} {scopeByte directionByte : Option UInt8} {o : Occupant}
    (h : occupant? address scopeByte directionByte = some o) : o.address ≠ 0 := by
  unfold occupant? at h
  split at h
  · split at h
    · cases h
    · rename_i hne
      cases h
      exact hne
  · cases h

theorem of_ofFrame {frame : Frame} {m : BlockReport} (h : ofFrame frame = .ok m) :
    m.Plain ∧ TextField.Readable (m.name.getD "") ∧ (10 < frame.payload.length → m.name ≠ none) := by
  unfold ofFrame at h
  split at h
  · obtain ⟨last, h⟩ := Read.run_eq_ok.mp h
    unfold read at h
    obtain ⟨blockId, mid, hid, h⟩ := Read.bind_eq_ok.mp h
    have hpayload : frame.payload = blockId :: mid.rest := Read.byte_eq_ok hid
    simp only [Read.bind_eq, Read.byte?_eq, Read.byteOrZero_eq, Reader.drop_drop, Nat.reduceAdd] at h
    rw [← Read.bind_eq] at h
    obtain ⟨address, next, haddress, h⟩ := Read.bind_eq_ok.mp h
    simp only [Read.textUpTo?_eq, Reader.drop_drop, Read.pure_eq] at h
    cases h
    refine ⟨⟨bind_nonzero?_ne _, bind_nonzero?_ne _, bind_nonzero?_ne _, bind_nonzero?_ne _,
      fun o ho => occupant?_address ho⟩, TextField.readable_textUpTo _ _, fun hlong => ?_⟩
    rw [hpayload, List.length_cons] at hlong
    have hnext : next.rest = (mid.drop 5).rest.drop 2 :=
      Read.le16?_eq_ok haddress (by rw [Reader.rest_drop, List.length_drop]; omega)
    have hleft : (next.drop 2).rest ≠ [] := by
      rw [Reader.rest_drop, hnext, Reader.rest_drop, List.drop_drop, List.drop_drop]
      exact Read.drop_ne_nil (by omega)
    rw [if_neg hleft]
    exact Option.some_ne_none _
  · cases h

theorem ofFrame_toFrame {m : BlockReport} (h : m.Plain) : ofFrame m.toFrame = .ok m.resent := by
  have hname : ∀ (q : Nat) (t : String), Read.textUpTo? nameWidth ⟨q, TextField.write nameWidth t⟩ =
      .ok (some (TextField.resent nameWidth t), ⟨q + nameWidth, []⟩) := by
    intro q t
    rw [← List.append_nil (TextField.write nameWidth t)]
    exact Read.textUpTo?_write q [] 32 t
  have hread : ∃ last, read (.ofList m.toFrame.payload) = .ok (m.resent, last) := by
    obtain ⟨blockId, prevBlock, nextBlock, flags, sensorTrack, switch, occupant, name⟩ := m
    refine ⟨⟨0 + 1 + 1 + 1 + 1 + 1 + 1 + 2 + 1 + 1 + nameWidth, []⟩, ?_⟩
    cases occupant with
    | none =>
        have hnobody : encodeOccupant none = Payload.le16 0 ++ [0, 0] := rfl
        have hnone : occupant? (some 0) (some 0) (some 0) = none := rfl
        simp only [read, Reader.ofList, toFrame, hnobody, List.append_assoc, List.cons_append,
          List.nil_append, Read.bind_eq, Read.byte_cons, Read.byte?_cons, Read.byteOrZero_cons, Read.le16?_append,
          hname, Read.pure_eq, Option.bind_some, nonzero?_getD h.prevBlock, nonzero?_getD h.nextBlock,
          nonzero?_getD h.sensorTrack, nonzero?_getD h.switch, resent, hnone]
    | some o =>
        simp only [read, Reader.ofList, toFrame, encodeOccupant, List.append_assoc, List.cons_append,
          List.nil_append, Read.bind_eq, Read.byte_cons, Read.byte?_cons, Read.byteOrZero_cons, Read.le16?_append,
          hname, Read.pure_eq, Option.bind_some, nonzero?_getD h.prevBlock, nonzero?_getD h.nextBlock,
          nonzero?_getD h.sensorTrack, nonzero?_getD h.switch, resent, occupant?, Scope.ofWire?_wire,
          if_neg (h.occupant o rfl), Option.map_some, Option.getD_some, Direction.ofWire_wire]
  exact (if_pos rfl).trans (Read.run_eq_ok.mpr hread)

theorem resent_resent (m : BlockReport) : m.resent.resent = m.resent := by
  simp only [resent, Option.getD_some, TextField.resent_resent]

theorem resent_eq {m : BlockReport} (h : TextField.Readable (m.name.getD "")) (hthere : m.name ≠ none)
    (hfits : TextField.AllFit m.texts) : m.resent = m := by
  have hfit : TextField.Fits nameWidth (m.name.getD "") := hfits _ List.mem_cons_self
  have hsame : some (m.name.getD "") = m.name := by
    obtain ⟨name, hname⟩ := Option.ne_none_iff_exists'.mp hthere
    rw [hname]
    rfl
  rw [resent, TextField.resent_of_fits h hfit, hsame]

end BlockReport
end RailLayout
