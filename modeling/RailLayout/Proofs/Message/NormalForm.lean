import RailLayout.Message
import RailLayout.Proofs.FourDigit
import RailLayout.Proofs.Lcs.Message
import RailLayout.Proofs.Message.Single
import RailLayout.Proofs.Record.Message

/-!
Messages sent again. The frame of a message that was read from a frame is read without fail, and what is read
is a normal form: sent again once more, it stays as it is (`exists_normal_form`). It is the message itself except
where the first frame left something out that is filled in, or held something that the layout cannot keep
(`Lossy`).
-/

namespace RailLayout

theorem ok_of_bind {α β : Type} {x : Except Error α} {f : α → Except Error β} {b : β}
    (h : (x >>= f) = .ok b) : ∃ a, x = .ok a ∧ f a = .ok b := by
  cases x with
  | error e => cases h
  | ok a => exact ⟨a, rfl, h⟩

theorem bind_of_ok {α β : Type} {x : Except Error α} {f : α → Except Error β} {a : α} (h : x = .ok a) :
    (x >>= f) = f a := by
  rw [h]
  rfl

namespace Message

/-- The message that is read from the frame of a message. -/
def resent : Message → Message
  | record m => record m.resent
  | memory m => memory m.resent
  | block m => block m.resent
  | board b m => board b m.resent
  | m => m

/-- The texts of a message, with the widths of their fields. -/
def texts : Message → List (Nat × String)
  | record m => m.contents.texts
  | block m => m.texts
  | board _ m => m.body.texts
  | _ => []

/-- The cases in which a message that was read from a frame need not come back from its own frame as it was. -/
inductive Lossy (frame : Frame) : Message → Prop where
  /-- The frame of a record, no acknowledgement, ended before the record's last field. -/
  | cutRecord (m : RecordMessage) (h : m.isAcknowledgement = false)
      (hcut : frame.payload.length ≤ RecordMessage.lastField m.kind) : Lossy frame (.record m)
  /-- The Base's record of itself had a byte that means no throw rate. -/
  | noThrowRate (m : RecordMessage) (h : m.contents.lacksRate = true) : Lossy frame (.record m)
  /-- A memory record was of a kind that is not known. -/
  | unknownKind (m : MemoryMessage) (h : m.scope = none) : Lossy frame (.memory m)
  /-- A block report ended before its name. -/
  | cutBlock (m : BlockReport) (hcut : frame.payload.length ≤ 10) : Lossy frame (.block m)
  /-- A relay was held for a single tick. -/
  | singleTick (board : Board) (m : BoardMessage board) (h : m.body.isSingleTick = true) :
      Lossy frame (.board board m)
  /-- A text does not fit its field any more. -/
  | longText (m : Message) (h : ¬TextField.AllFit m.texts) : Lossy frame m

theorem ofFrame_record {frame : Frame} {kind : RecordKind} (h : RecordKind.ofCode? frame.code = some kind) :
    ofFrame frame = (do return .record (← RecordMessage.ofFrame frame)) := by
  obtain ⟨code, payload⟩ := frame
  cases code <;> first | rfl | cases h

theorem ofFrame_toFrame_record (m : RecordMessage) : ofFrame (record m).toFrame = .ok (record m.resent) := by
  have hcode : RecordKind.ofCode? (record m).toFrame.code = some m.kind := RecordKind.ofCode?_code m.kind
  rw [ofFrame_record hcode]
  exact bind_of_ok (RecordMessage.ofFrame_toFrame m)

theorem of_ofBaseFrame {frame : Frame} {r : Message} (h : ofBaseFrame frame = .ok r) :
    (∃ m, MemoryMessage.ofFrame frame = .ok m ∧ r = .memory m) ∨
      (∃ m, SpeedReport.ofFrame frame = .ok m ∧ r = .speed m) ∨
        ∃ m, RecordMessage.ofFrame frame = .ok m ∧ r = .record m := by
  unfold ofBaseFrame at h
  split at h
  · obtain ⟨m, hm, h⟩ := ok_of_bind h
    cases h
    exact Or.inl ⟨m, hm, rfl⟩
  · obtain ⟨m, hm, h⟩ := ok_of_bind h
    cases h
    exact Or.inr (Or.inl ⟨m, hm, rfl⟩)
  · obtain ⟨m, hm, h⟩ := ok_of_bind h
    cases h
    exact Or.inr (Or.inl ⟨m, hm, rfl⟩)
  · obtain ⟨m, hm, h⟩ := ok_of_bind h
    cases h
    exact Or.inr (Or.inr ⟨m, hm, rfl⟩)

/-- What becomes of a message that is sent again: what its own frame holds, that this stays, and when it is the
message itself. -/
structure Settles (frame : Frame) (r : Message) : Prop where
  again : ofFrame r.toFrame = .ok r.resent
  stays : r.resent.resent = r.resent
  kept : ¬Lossy frame r → r.resent = r

theorem settles_of_same {frame : Frame} {r : Message} (hagain : ofFrame r.toFrame = .ok r)
    (hsame : r.resent = r) : Settles frame r :=
  ⟨by rw [hagain, hsame], by rw [hsame, hsame], fun _ => hsame⟩

theorem settles_passThrough {frame : Frame} {m : PassThrough} (h : PassThrough.ofFrame frame = .ok m)
    (hfamily : frame.code.family = .tmcc) : Settles frame (.passThrough m) := by
  have hcode : (passThrough m).toFrame.code = frame.code := PassThrough.code_of_ofFrame h
  refine settles_of_same ?_ rfl
  rw [ofFrame, hcode, hfamily]
  exact bind_of_ok (PassThrough.ofFrame_toFrame h)

theorem settles_fourDigit {frame : Frame} {m : FourDigitMessage} (h : FourDigitMessage.ofFrame frame = .ok m)
    (hfamily : frame.code.family = .fourDigit) : Settles frame (.fourDigit m) := by
  have hcode : (fourDigit m).toFrame.code = frame.code := FourDigitMessage.code_of_ofFrame h
  refine settles_of_same ?_ rfl
  rw [ofFrame, hcode, hfamily]
  exact bind_of_ok (FourDigitMessage.ofFrame_toFrame h)

theorem settles_record {frame : Frame} {m : RecordMessage} (h : RecordMessage.ofFrame frame = .ok m) :
    Settles frame (.record m) := by
  refine ⟨ofFrame_toFrame_record m, congrArg record (RecordMessage.resent_resent m),
    fun hlossy => congrArg record (RecordMessage.resent_eq_of_ofFrame h ?_ ?_ ?_)⟩
  · by_cases hack : m.isAcknowledgement = true
    · exact Or.inl hack
    · refine Or.inr (Nat.lt_of_not_le fun hcut => hlossy ?_)
      exact .cutRecord m (Bool.eq_false_iff.mpr hack) hcut
  · exact Bool.eq_false_iff.mpr fun hrate => hlossy (.noThrowRate m hrate)
  · exact Classical.byContradiction fun hlong => hlossy (.longText (.record m) hlong)

theorem settles_memory {frame : Frame} {m : MemoryMessage} (h : MemoryMessage.ofFrame frame = .ok m) :
    Settles frame (.memory m) := by
  refine ⟨?_, congrArg memory (MemoryMessage.resent_resent m), fun hlossy => ?_⟩
  · exact bind_of_ok (MemoryMessage.ofFrame_toFrame m)
  · exact congrArg memory (MemoryMessage.resent_eq_of_ofFrame h fun hnone => hlossy (.unknownKind m hnone))

theorem settles_speed (frame : Frame) (m : SpeedReport) : Settles frame (.speed m) := by
  refine settles_of_same ?_ rfl
  obtain ⟨kind, recordNo, speed⟩ := m
  cases kind <;> rfl

theorem settles_block {frame : Frame} {m : BlockReport} (h : BlockReport.ofFrame frame = .ok m) :
    Settles frame (.block m) := by
  obtain ⟨hplain, hreadable, hname⟩ := BlockReport.of_ofFrame h
  refine ⟨?_, congrArg block (BlockReport.resent_resent m), fun hlossy => ?_⟩
  · exact bind_of_ok (BlockReport.ofFrame_toFrame hplain)
  · have hthere : 10 < frame.payload.length := Nat.lt_of_not_le fun hcut => hlossy (.cutBlock m hcut)
    have hfits : TextField.AllFit m.texts :=
      Classical.byContradiction fun hlong => hlossy (.longText (.block m) hlong)
    exact congrArg block (BlockReport.resent_eq hreadable (hname hthere) hfits)

theorem settles_board {frame : Frame} {board : Board} {m : BoardMessage board}
    (h : BoardMessage.ofFrame board frame = .ok m) (hfamily : frame.code.family = .board board)
    (hlayout : frame.code.isBoard = true) : Settles frame (.board board m) := by
  obtain ⟨hcode, hspoken, hagain⟩ := BoardMessage.ofFrame_toFrame h
  refine ⟨?_, congrArg (Message.board board) (BoardMessage.resent_resent m), fun hlossy => ?_⟩
  · have hframe : (Message.board board m).toFrame.code = frame.code := hcode
    rw [ofFrame, hframe, hfamily]
    exact (if_pos hlayout).trans (bind_of_ok hagain)
  · have htick : m.body.isSingleTick = false :=
      Bool.eq_false_iff.mpr fun htick => hlossy (.singleTick board m htick)
    have hfits : TextField.AllFit m.body.texts :=
      Classical.byContradiction fun hlong => hlossy (.longText (.board board m) hlong)
    exact congrArg (Message.board board) (BoardMessage.resent_eq hspoken htick hfits)

theorem settles {frame : Frame} {r : Message} (h : ofFrame frame = .ok r) : Settles frame r := by
  unfold ofFrame at h
  cases hfamily : frame.code.family with
  | ping =>
      simp only [hfamily] at h
      cases h
      exact settles_of_same rfl rfl
  | tmcc =>
      simp only [hfamily] at h
      obtain ⟨m, hm, h⟩ := ok_of_bind h
      cases h
      exact settles_passThrough hm hfamily
  | base =>
      simp only [hfamily] at h
      rcases of_ofBaseFrame h with ⟨m, hm, rfl⟩ | ⟨m, hm, rfl⟩ | ⟨m, hm, rfl⟩
      · exact settles_memory hm
      · exact settles_speed frame m
      · exact settles_record hm
  | fourDigit =>
      simp only [hfamily] at h
      obtain ⟨m, hm, h⟩ := ok_of_bind h
      cases h
      exact settles_fourDigit hm hfamily
  | block =>
      simp only [hfamily] at h
      obtain ⟨m, hm, h⟩ := ok_of_bind h
      cases h
      exact settles_block hm
  | board b =>
      simp only [hfamily] at h
      by_cases hlayout : frame.code.isBoard = true
      · rw [if_pos hlayout] at h
        obtain ⟨m, hm, h⟩ := ok_of_bind h
        cases h
        exact settles_board hm hfamily hlayout
      · rw [if_neg hlayout] at h
        cases h
        refine settles_of_same ?_ rfl
        rw [ofFrame, toFrame, hfamily]
        exact if_neg hlayout
  | everyone =>
      simp only [hfamily] at h
      cases h
      refine settles_of_same ?_ rfl
      rw [ofFrame, toFrame, hfamily]
      rfl
  | radio =>
      simp only [hfamily] at h
      cases h
      refine settles_of_same ?_ rfl
      rw [ofFrame, toFrame, hfamily]
      rfl

/-- The frame of a message that was read from a frame is read without fail; what is read stays as it is when it is
sent again, and it is the message itself unless the first frame was lossy. -/
theorem exists_normal_form {frame : Frame} {r : Message} (h : ofFrame frame = .ok r) :
    ∃ n, ofFrame r.toFrame = .ok n ∧ ofFrame n.toFrame = .ok n ∧ (n ≠ r → Lossy frame r) := by
  have hr := settles h
  have hn := settles hr.again
  refine ⟨r.resent, hr.again, ?_, fun hchanged => Classical.byContradiction fun hlossy => ?_⟩
  · rw [hn.again, hr.stays]
  · exact hchanged (hr.kept hlossy)

/-- A pulse of a single tick has a normal form; that one is a pulse without a hold. -/
theorem exists_normal_form_pulse :
    let pulse (time : UInt8) : Message := .board .asc2 ⟨.asc2Set, 5, .own .control3, none, .report (.pulse 1 time)⟩
    ofFrame ⟨.asc2Set, [5, 0x12, 1, 1]⟩ = .ok (pulse 1) ∧
      ∃ n, ofFrame (pulse 1).toFrame = .ok n ∧ ofFrame n.toFrame = .ok n ∧
        (n ≠ pulse 1 → Lossy ⟨.asc2Set, [5, 0x12, 1, 1]⟩ (pulse 1)) :=
  ⟨rfl, exists_normal_form rfl⟩

end Message
end RailLayout
