import RailLayout.Proofs.Message.NormalForm

/-!
Messages that carry no data (`Message.IsBare`). A frame in which a board refuses has no body
(`Message.reportsFailure_of_ofFrame`), so what reports a failure carries no data; and neither does a question that asks
a board, or for a record or a part of one, or a four-digit database how many records it has and what they are
(`Message.isBare_of_asks`). Two more questions are put to such a database, but by number: where its first record is, and
which record is that of an address.
-/

namespace RailLayout

namespace BoardMessage

variable {board : Board} {address : UInt8} {action : BoardAction board} {m : BoardMessage board}

/-- A frame in which a board refuses has no body. -/
theorem body_of_isRefusal {frame : Frame} (h : ofFrame board frame = .ok m) (hrefusal : m.isRefusal = true) :
    m.body = .empty := by
  unfold ofFrame at h
  split at h
  · obtain ⟨last, h⟩ := Read.run_eq_ok.mp h
    obtain ⟨address, _, -, h⟩ := Read.bind_eq_ok.mp h
    obtain ⟨raw, _, -, h⟩ := Read.bind_eq_ok.mp h
    cases haction : BoardAction.ofBits? board (raw &&& 0x7F) with
    | none =>
        simp only [haction] at h
        cases h
    | some action =>
      simp only [haction] at h
      obtain ⟨⟨fault, body⟩, _, hbody, h⟩ := Read.bind_eq_ok.mp h
      cases h
      cases hrefused : (raw &&& refusalBit != 0) with
      | true =>
          rw [hrefused, readBody, if_pos rfl] at hbody
          obtain ⟨code, _, -, hbody⟩ := Read.bind_eq_ok.mp hbody
          cases hbody
          rfl
      | false =>
          rw [hrefused] at hbody
          obtain ⟨rfl, -⟩ := readBody_encode hbody
          cases hrefusal
  · cases h

theorem build_eq_ok {role : Role} {body : BoardBody board} (h : build role address action body = .ok m) :
    m.address = address ∧ m.action = action ∧ m.fault = none ∧ m.body = body := by
  unfold build at h
  split at h
  · cases h
  · split at h
    · cases h
      exact ⟨rfl, rfl, rfl, rfl⟩
    · cases h

end BoardMessage

namespace MemoryMessage

/-- A part without data holds no field. -/
theorem fields_of_data_eq_nil {m : MemoryMessage} (h : m.data = []) : m.fields = [] := by
  have hvalue : ∀ field, m.value? field = none := by
    intro field
    have hsize : 0 < field.size := by cases field <;> decide
    rw [value?, if_neg]
    rintro ⟨hstart, hend⟩
    rw [h, List.length_nil, Nat.add_zero] at hend
    have hlow : m.start.toNat ≤ field.offset.toNat := hstart
    omega
  unfold fields
  split
  · rfl
  · exact List.filterMap_eq_nil_iff.mpr fun field _ => by rw [hvalue, Option.map_none]

theorem data_of_query {scope : Scope} {recordNo : UInt8} {start : UInt32} {length : UInt8} {m : MemoryMessage}
    (h : query scope recordNo start length = .ok m) : m.data = [] := by
  obtain ⟨-, -, h⟩ := ok_of_bind h
  cases h
  rfl

end MemoryMessage

namespace FourDigitMessage

theorem lookup_of_build {scope : Scope} {recordNo : UInt16} {lookup : Lookup} {m : FourDigitMessage}
    (h : build scope recordNo lookup = .ok m) : m.lookup = lookup := by
  unfold build at h
  split at h
  · cases h
    rfl
  · cases h

end FourDigitMessage

namespace Message

/-- Whether a message carries no data: a board's message without a body, a question about a record or an answer that
gives no more than a status, a part of a memory record that holds no field, or a question to a four-digit database other
than one for a number. -/
def IsBare : Message → Prop
  | .board _ m => m.body = .empty
  | .record m => m.isAcknowledgement = true ∨ m.status ≠ 0
  | .memory m => m.fields = []
  | .fourDigit ⟨_, _, lookup⟩ =>
    match lookup with
    | .query | .nextRecord _ _ _ _ => True
    | .count _ n => n = none
    | .firstRecord | .map _ _ => False
  | _ => False

/-- Whether a message reports a failure: a board refuses, which leaves no place for a body, or a record could not be
read or written. -/
def ReportsFailure : Message → Prop
  | .board _ m => m.isRefusal = true ∧ m.body = .empty
  | .record m => m.status ≠ 0
  | _ => False

theorem isBare_of_reportsFailure {m : Message} (h : m.ReportsFailure) : m.IsBare := by
  cases m with
  | board board b => exact h.2
  | record r => exact Or.inr h
  | _ => exact h.elim

/-- Whether a board says by a message that it refuses, or the status of a record is not zero. -/
def isFailure : Message → Bool
  | .board _ m => m.isRefusal
  | .record m => m.status != 0
  | _ => false

theorem ofFrame_of_board {frame : Frame} {board : Board} {b : BoardMessage board}
    (h : ofFrame frame = .ok (.board board b)) : BoardMessage.ofFrame board frame = .ok b := by
  unfold ofFrame at h
  split at h
  · cases h
  · obtain ⟨m, -, h⟩ := ok_of_bind h
    cases h
  · rcases of_ofBaseFrame h with ⟨m, -, h⟩ | ⟨m, -, h⟩ | ⟨m, -, h⟩ <;> cases h
  · obtain ⟨m, -, h⟩ := ok_of_bind h
    cases h
  · obtain ⟨m, -, h⟩ := ok_of_bind h
    cases h
  · split at h
    · obtain ⟨m, hm, h⟩ := ok_of_bind h
      cases h
      exact hm
    · cases h
  · cases h
  · cases h

/-- What a frame reports as a failure carries no data. -/
theorem reportsFailure_of_ofFrame {frame : Frame} {m : Message} (h : ofFrame frame = .ok m)
    (hfails : m.isFailure = true) : m.ReportsFailure := by
  cases m with
  | board board b => exact ⟨hfails, BoardMessage.body_of_isRefusal (ofFrame_of_board h) hfails⟩
  | record r => exact bne_iff_ne.mp hfails
  | _ => cases hfails

/-- Whether a message is a question that the host puts to a board, or about a record or a part of one, or that it puts
to a four-digit database without a number. -/
inductive Asks : Message → Prop where
  | board {board : Board} {address : UInt8} {action : BoardAction board} {m : BoardMessage board}
      (h : BoardMessage.query address action = .ok m) : Asks (.board board m)
  | record {scope : Scope} {recordNo : UInt8} {m : RecordMessage} (h : RecordMessage.query scope recordNo = .ok m) :
      Asks (.record m)
  | memory {scope : Scope} {recordNo : UInt8} {start : UInt32} {length : UInt8} {m : MemoryMessage}
      (h : MemoryMessage.query scope recordNo start length = .ok m) : Asks (.memory m)
  | field {scope : Scope} {recordNo : UInt8} {field : MemoryField} {m : MemoryMessage}
      (h : MemoryMessage.queryField scope recordNo field = .ok m) : Asks (.memory m)
  | count {scope : Scope} {m : FourDigitMessage} (h : FourDigitMessage.count scope = .ok m) : Asks (.fourDigit m)
  | next {scope : Scope} {recordNo : UInt16} {m : FourDigitMessage}
      (h : FourDigitMessage.nextRecord scope recordNo = .ok m) : Asks (.fourDigit m)
  | fourDigit {scope : Scope} {recordNo : UInt16} {m : FourDigitMessage}
      (h : FourDigitMessage.query scope recordNo = .ok m) : Asks (.fourDigit m)

theorem isBare_of_asks {m : Message} (h : m.Asks) : m.IsBare := by
  cases h with
  | board h => exact (BoardMessage.build_eq_ok h).2.2.2
  | record h =>
      unfold RecordMessage.query at h
      split at h
      · cases h
        exact Or.inl rfl
      · cases h
  | memory h | field h => exact MemoryMessage.fields_of_data_eq_nil (MemoryMessage.data_of_query h)
  | @count _ m h | @next _ _ m h | @fourDigit _ _ m h =>
      obtain ⟨code, recordNo, lookup⟩ := m
      cases FourDigitMessage.lookup_of_build h
      trivial

end Message
end RailLayout
