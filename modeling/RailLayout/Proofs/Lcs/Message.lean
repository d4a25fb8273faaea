import RailLayout.Proofs.Lcs.Report

/-!
Messages of the boards sent again. A message that was read from a frame is read from its own frame, with its
body sent again (`BoardMessage.ofFrame_toFrame`): a refusal with the same fault, a query without data as a query
without data, and any other body by the rules of its board.
-/

namespace RailLayout

namespace BoardBody

variable {board : Board}

/-- The report that is read from the bytes of a report. -/
def resentReport : (board : Board) → board.Report → board.Report
  | .irda, r => SensorReport.resent r
  | .asc2, r => RelayReport.resent r
  | .wifi, r => r
  | .ser2, r => r
  | .bpc2, r => r
  | .amc2, r => r
  | .stm2, r => r

/-- The body that is read from the bytes of a body. -/
def resent : BoardBody board → BoardBody board
  | common body => common body
  | config c => config c
  | report r => report (resentReport board r)

/-- The texts of a body, with the widths of their fields. -/
def texts : {board : Board} → BoardBody board → List (Nat × String)
  | .irda, report r => SensorReport.texts r
  | _, _ => []

/-- Whether a body holds a relay for a single tick in a place where the board takes that for no hold. -/
def isSingleTick : {board : Board} → BoardBody board → Bool
  | .asc2, report r => RelayReport.isSingleTick r
  | _, _ => false

/-- Whether a body says what a frame can say. -/
def Spoken : {board : Board} → BoardBody board → Prop
  | .irda, report r => SensorReport.Spoken r
  | _, _ => True

theorem resent_resent (body : BoardBody board) : body.resent.resent = body.resent := by
  cases body with
  | common body => rfl
  | config c => rfl
  | report r =>
      cases board with
      | irda => exact congrArg report (SensorReport.resent_resent r)
      | asc2 => exact congrArg report (RelayReport.resent_resent r)
      | wifi => rfl
      | ser2 => exact r.elim
      | bpc2 => rfl
      | amc2 => rfl
      | stm2 => rfl

theorem resent_eq {body : BoardBody board} (h : body.Spoken) (htick : body.isSingleTick = false)
    (hfits : TextField.AllFit body.texts) : body.resent = body := by
  cases body with
  | common body => rfl
  | config c => rfl
  | report r =>
      cases board with
      | irda => exact congrArg report (SensorReport.resent_eq h hfits)
      | asc2 => exact congrArg report (RelayReport.resent_eq htick)
      | wifi => rfl
      | ser2 => exact r.elim
      | bpc2 => rfl
      | amc2 => rfl
      | stm2 => rfl

theorem readConfig_encode {code : FrameCode} {r last : Reader} {body : BoardBody board}
    (h : readConfig board r = .ok (body, last)) :
    body.Spoken ∧ Read.Gives (readConfig board) (body.encode code) body.resent := by
  cases board with
  | irda =>
      obtain ⟨c, _, -, h⟩ := Read.bind_eq_ok.mp h
      cases h
      exact ⟨trivial, (SensorConfig.read_encode c).map fun c => (config c : BoardBody .irda)⟩
  | wifi =>
      obtain ⟨bytes, _, -, h⟩ := Read.bind_eq_ok.mp h
      cases h
      exact ⟨trivial, fun p => ⟨_, rfl⟩⟩
  | ser2 =>
      obtain ⟨c, _, -, h⟩ := Read.bind_eq_ok.mp h
      cases h
      exact ⟨trivial, (ConfigHeader.gives c).map fun c => (config c : BoardBody .ser2)⟩
  | asc2 =>
      obtain ⟨c, _, -, h⟩ := Read.bind_eq_ok.mp h
      cases h
      exact ⟨trivial, (RelayConfig.read_encode c).map fun c => (config c : BoardBody .asc2)⟩
  | bpc2 =>
      obtain ⟨c, _, hc, h⟩ := Read.bind_eq_ok.mp h
      cases h
      exact ⟨trivial, (DistrictConfig.read_encode hc).map fun c => (config c : BoardBody .bpc2)⟩
  | amc2 =>
      obtain ⟨c, _, -, h⟩ := Read.bind_eq_ok.mp h
      cases h
      exact ⟨trivial, (OutputConfig.read_encode c).map fun c => (config c : BoardBody .amc2)⟩
  | stm2 =>
      obtain ⟨c, _, -, h⟩ := Read.bind_eq_ok.mp h
      cases h
      exact ⟨trivial, (ConfigHeader.gives c).map fun c => (config c : BoardBody .stm2)⟩

theorem readReport_encode {code : FrameCode} {action : board.Own} {r last : Reader} {x : board.Report}
    (h : readReport board code action r = .ok (x, last)) :
    (report x).Spoken ∧
      Read.Gives (readReport board code action) (encodeReport board code x) (resentReport board x) := by
  cases board with
  | irda => exact SensorReport.read_encode h
  | wifi => exact ⟨trivial, WirelessReport.read_encode h⟩
  | ser2 => exact action.elim
  | asc2 => exact ⟨trivial, RelayReport.read_encode h⟩
  | bpc2 => exact ⟨trivial, DistrictReport.read_encode h⟩
  | amc2 => exact ⟨trivial, OutputReport.read_encode rfl h⟩
  | stm2 => exact ⟨trivial, @PositionReport.read_encode action r last x h⟩

theorem read_encode {code : FrameCode} {action : BoardAction board} {r last : Reader} {body : BoardBody board}
    (h : read board code action r = .ok (body, last)) :
    body.Spoken ∧ Read.Gives (read board code action) (body.encode code) body.resent := by
  have hcommon : ∀ a, read board code (.common a) = (do return .common (← CommonBody.read code a)) →
      read board code (.common a) r = .ok (body, last) →
        body.Spoken ∧ Read.Gives (read board code (.common a)) (body.encode code) body.resent := by
    intro a hread h
    rw [hread] at h ⊢
    obtain ⟨c, _, hc, h⟩ := Read.bind_eq_ok.mp h
    cases h
    exact ⟨by cases board <;> trivial, (CommonBody.read_encode hc).map common⟩
  cases action with
  | own action =>
      obtain ⟨x, _, hx, h⟩ := Read.bind_eq_ok.mp h
      cases h
      obtain ⟨hspoken, hgives⟩ := readReport_encode hx
      exact ⟨hspoken, hgives.map report⟩
  | common action =>
      cases action with
      | config => exact readConfig_encode h
      | firmware => exact hcommon _ rfl h
      | status => exact hcommon _ rfl h
      | info => exact hcommon _ rfl h
      | clearErrors => exact hcommon _ rfl h
      | reset => exact hcommon _ rfl h
      | identify => exact hcommon _ rfl h

/-- Only an action's own data are read as a report, the configuration of the wireless module apart. -/
theorem report_of_read {code : FrameCode} {action : BoardAction board} {r last : Reader} {x : board.Report}
    (h : read board code action r = .ok (report x, last)) :
    (∃ own mid, action = .own own ∧ readReport board code own r = .ok (x, mid)) ∨
      readConfig board r = .ok (report x, last) := by
  have hcommon : ∀ a, read board code (.common a) = (do return .common (← CommonBody.read code a)) →
      read board code (.common a) r ≠ .ok (report x, last) := by
    intro a hread h
    rw [hread] at h
    obtain ⟨c, _, -, h⟩ := Read.bind_eq_ok.mp h
    cases h
  cases action with
  | own own =>
      obtain ⟨y, mid, hy, h⟩ := Read.bind_eq_ok.mp h
      cases h
      exact Or.inl ⟨own, last, rfl, hy⟩
  | common a =>
      cases a with
      | config => exact Or.inr h
      | firmware => exact (hcommon _ rfl h).elim
      | status => exact (hcommon _ rfl h).elim
      | info => exact (hcommon _ rfl h).elim
      | clearErrors => exact (hcommon _ rfl h).elim
      | reset => exact (hcommon _ rfl h).elim
      | identify => exact (hcommon _ rfl h).elim

theorem eq_empty_of_encode_eq_nil {code : FrameCode} {action : BoardAction board} {r last : Reader}
    {body : BoardBody board} (h : read board code action r = .ok (body, last)) (hdata : r.rest ≠ [])
    (hsilent : body.encode code = []) : body = empty := by
  cases body with
  | common c =>
      cases c with
      | empty => rfl
      | firmware f => cases hsilent
      | status s => cases hsilent
      | info i => cases hsilent
      | identify light => cases hsilent
  | config c =>
      cases board with
      | irda => cases hsilent
      | wifi => exact c.elim
      | ser2 => cases hsilent
      | asc2 => cases hsilent
      | bpc2 => cases hsilent
      | amc2 => cases hsilent
      | stm2 => cases hsilent
  | report x =>
      cases board with
      | irda =>
          rcases report_of_read h with ⟨own, mid, -, hx⟩ | hconfig
          · exact absurd (SensorReport.rest_eq_nil hx hsilent) hdata
          · obtain ⟨c, _, -, hconfig⟩ := Read.bind_eq_ok.mp hconfig
            cases hconfig
      | wifi =>
          rcases report_of_read h with ⟨own, mid, -, hx⟩ | hconfig
          · exact absurd (WirelessReport.rest_eq_nil hx hsilent) hdata
          · obtain ⟨bytes, _, hrest, hconfig⟩ := Read.bind_eq_ok.mp hconfig
            cases hconfig
            cases hrest
            exact absurd hsilent hdata
      | ser2 => exact x.elim
      | asc2 => cases x <;> cases hsilent
      | bpc2 => cases x <;> cases hsilent
      | amc2 =>
          cases x with
          | select index => cases hsilent
          | motor index speed rotation => cases (List.append_eq_nil_iff.mp hsilent).2
          | lamp index level => cases (List.append_eq_nil_iff.mp hsilent).2
          | motorConfig index outputType restoreState => cases (List.append_eq_nil_iff.mp hsilent).2
      | stm2 => cases x; cases hsilent

end BoardBody

namespace BoardAction

theorem bits_of_ofBits? {board : Board} {bits : UInt8} {action : BoardAction board}
    (h : ofBits? board bits = some action) : action.bits = bits := by
  have hfound := List.find?_some (show (all board).find? (fun a => a.bits == bits) = some action from h)
  exact beq_iff_eq.mp hfound

/-- Whether an action is read from its byte, as it stands and marked as refused. -/
structure Legible {board : Board} (action : BoardAction board) : Prop where
  plain : ofBits? board (action.bits &&& 0x7F) = some action
  clear : (action.bits &&& BoardMessage.refusalBit != 0) = false
  marked : ofBits? board ((action.bits ||| BoardMessage.refusalBit) &&& 0x7F) = some action
  set : ((action.bits ||| BoardMessage.refusalBit) &&& BoardMessage.refusalBit != 0) = true

theorem legible_of_ofBits? {board : Board} {raw : UInt8} {action : BoardAction board}
    (h : ofBits? board (raw &&& 0x7F) = some action) : action.Legible := by
  obtain ⟨htwice, hclear, hkept, hset⟩ := lowBits raw
  have hbits := bits_of_ofBits? h
  constructor
  · rw [hbits, htwice, h]
  · rw [hbits, BoardMessage.refusalBit, hclear]
    rfl
  · rw [hbits, BoardMessage.refusalBit, hkept, h]
  · rw [hbits, BoardMessage.refusalBit, hset]
    rfl

end BoardAction

namespace BoardMessage

variable {board : Board}

/-- The message that is read from the frame of a message. -/
def resent (m : BoardMessage board) : BoardMessage board := { m with body := m.body.resent }

/-- A query without data has nothing to read; any other message that is no refusal has a body. -/
theorem readBody_eq (code : FrameCode) (action : BoardAction board) (r : Reader) :
    readBody code action false r =
      if (code.isGet && r.isEmpty) = true then .ok ((none, BoardBody.empty), r)
      else (BoardBody.read board code action >>= fun body => pure (none, body)) r := by
  rw [readBody, if_neg Bool.false_ne_true, Read.bind_eq, Read.atEnd_eq]
  dsimp only
  split <;> rfl

theorem gives_readBody {code : FrameCode} {action : BoardAction board} {bytes : List UInt8} {body : BoardBody board}
    (hget : code.isGet = false) (hbody : Read.Gives (BoardBody.read board code action) bytes body) :
    Read.Gives (readBody code action false) bytes (none, body) := by
  intro p
  obtain ⟨last, hread⟩ := hbody p
  simp only [readBody_eq, hget, Bool.false_and, Bool.false_eq_true, if_false, Read.bind_eq, hread, Read.pure_eq]
  exact ⟨_, rfl⟩

/-- A body that was read without refusal is read from its own bytes, with or without data. -/
theorem readBody_encode {code : FrameCode} {action : BoardAction board} {r last : Reader}
    {fault : Option Fault} {body : BoardBody board}
    (h : readBody code action false r = .ok ((fault, body), last)) :
    fault = none ∧ body.Spoken ∧
      Read.Gives (readBody code action false) (body.encode code) (none, body.resent) := by
  have hquery : ∀ {bytes : List UInt8}, (code.isGet && bytes.isEmpty) = true →
      Read.Gives (readBody code action false) bytes (none, BoardBody.empty) := by
    intro bytes hget p
    refine ⟨⟨p, bytes⟩, ?_⟩
    rw [readBody_eq]
    exact if_pos hget
  rw [readBody_eq] at h
  by_cases hget : (code.isGet && r.isEmpty) = true
  · rw [if_pos hget] at h
    cases h
    rw [Bool.and_eq_true] at hget
    exact ⟨rfl, by cases board <;> trivial, hquery (by rw [hget.1]; rfl)⟩
  rw [if_neg hget] at h
  obtain ⟨b, _, hb, h⟩ := Read.bind_eq_ok.mp h
  cases h
  obtain ⟨hspoken, hgives⟩ := BoardBody.read_encode hb
  refine ⟨rfl, hspoken, ?_⟩
  by_cases hsilent : (code.isGet && (body.encode code).isEmpty) = true
  · have hsame : body = BoardBody.empty := by
      rw [Bool.and_eq_true] at hsilent
      rw [hsilent.1, Bool.true_and] at hget
      refine BoardBody.eq_empty_of_encode_eq_nil hb (fun hnil => hget ?_) (List.isEmpty_iff.mp hsilent.2)
      rw [Reader.isEmpty, hnil]
      rfl
    have hgivesEmpty := hquery hsilent
    rw [hsame] at hgivesEmpty ⊢
    exact hgivesEmpty
  · intro p
    obtain ⟨final, hread⟩ := hgives p
    refine ⟨final, ?_⟩
    rw [readBody_eq]
    exact (if_neg hsilent).trans (Read.bind_eq_ok.mpr ⟨_, _, hread, rfl⟩)

/-- What reading says of a message: it has the code that it was read with, and it is a refusal, which has no body, or
its body was read. -/
theorem read_cases {code : FrameCode} {r last : Reader} {m : BoardMessage board}
    (h : read board code r = .ok (m, last)) :
    m.code = code ∧ m.action.Legible ∧
      ((∃ f, m.fault = some (Fault.ofCode f) ∧ m.body = .empty) ∨
        ∃ before after, readBody code m.action false before = .ok ((m.fault, m.body), after)) := by
  obtain ⟨address, _, -, h⟩ := Read.bind_eq_ok.mp h
  obtain ⟨raw, mid, -, h⟩ := Read.bind_eq_ok.mp h
  obtain ⟨action, haction⟩ : ∃ action, BoardAction.ofBits? board (raw &&& 0x7F) = some action := by
    cases haction : BoardAction.ofBits? board (raw &&& 0x7F) with
    | none =>
        simp only [haction] at h
        cases h
    | some action => exact ⟨action, rfl⟩
  simp only [haction] at h
  obtain ⟨⟨fault, body⟩, _, hbody, h⟩ := Read.bind_eq_ok.mp h
  cases h
  refine ⟨rfl, BoardAction.legible_of_ofBits? haction, ?_⟩
  by_cases hrefused : (raw &&& refusalBit != 0) = true
  · rw [hrefused, readBody, if_pos rfl] at hbody
    obtain ⟨f, _, -, hbody⟩ := Read.bind_eq_ok.mp hbody
    cases hbody
    exact Or.inl ⟨_, rfl, rfl⟩
  · rw [Bool.eq_false_iff.mpr hrefused] at hbody
    exact Or.inr ⟨_, _, hbody⟩

theorem gives_refusal {action : BoardAction board} (h : action.Legible) (code : FrameCode) (address f : UInt8) :
    Read.Gives (read board code) [address, action.bits ||| refusalBit, (Fault.ofCode f).code]
      ⟨code, address, action, some (Fault.ofCode f), .empty⟩ := by
  intro p
  simp only [read, Read.bind_eq, Read.byte_cons, h.marked, readBody, h.set, if_true, Read.byte?_cons,
    Option.getD_some, Fault.code_ofCode, Read.pure_eq]
  exact ⟨_, rfl⟩

theorem gives_of_body {code : FrameCode} {action : BoardAction board} {bytes : List UInt8} {body : BoardBody board}
    (haction : BoardAction.ofBits? board (action.bits &&& 0x7F) = some action)
    (hclear : (action.bits &&& refusalBit != 0) = false)
    (hbody : Read.Gives (readBody code action false) bytes (none, body)) (address : UInt8) :
    Read.Gives (read board code) (address :: action.bits :: bytes) ⟨code, address, action, none, body⟩ := by
  intro p
  obtain ⟨final, hread⟩ := hbody (p + 1 + 1)
  simp only [read, Read.bind_eq, Read.byte_cons, haction, hclear, hread, Read.pure_eq]
  exact ⟨_, rfl⟩

/-- What reading says of a message: it is read again from its own bytes, with its body sent again. -/
theorem read_toFrame {code : FrameCode} {r last : Reader} {m : BoardMessage board}
    (h : read board code r = .ok (m, last)) :
    m.code = code ∧ m.body.Spoken ∧ Read.Gives (read board code) m.toFrame.payload m.resent := by
  obtain ⟨hcode, haction, hparts⟩ := read_cases h
  obtain ⟨_, address, action, fault, body⟩ := m
  cases hcode
  rcases hparts with ⟨f, hfault, hempty⟩ | ⟨before, after, hbody⟩
  · cases hfault
    cases hempty
    exact ⟨rfl, by cases board <;> trivial, gives_refusal haction _ address f⟩
  · obtain ⟨hfault, hspoken, hgives⟩ := readBody_encode hbody
    cases hfault
    exact ⟨rfl, hspoken, gives_of_body haction.plain haction.clear hgives address⟩

/-- What the frame of a message holds that was read from a frame. -/
theorem ofFrame_toFrame {frame : Frame} {m : BoardMessage board} (h : ofFrame board frame = .ok m) :
    m.code = frame.code ∧ m.body.Spoken ∧ ofFrame board m.toFrame = .ok m.resent := by
  unfold ofFrame at h
  split at h
  · rename_i hcode
    obtain ⟨last, h⟩ := Read.run_eq_ok.mp h
    obtain ⟨hsame, hspoken, hgives⟩ := read_toFrame h
    have hframe : m.toFrame.code = frame.code := hsame
    refine ⟨hsame, hspoken, ?_⟩
    rw [ofFrame, hframe, if_pos hcode]
    exact hgives.run
  · cases h

/-- A message that is no query is read from its own frame if its body is read from its own bytes. -/
theorem ofFrame_toFrame_of_gives {m : BoardMessage board} (hcode : m.code.family = .board board ∧ m.code.isBoard = true)
    (hget : m.code.isGet = false) (hfault : m.fault = none)
    (haction : BoardAction.ofBits? board (m.action.bits &&& 0x7F) = some m.action)
    (hclear : (m.action.bits &&& refusalBit != 0) = false)
    (hbody : Read.Gives (BoardBody.read board m.code m.action) (m.body.encode m.code) m.body) :
    ofFrame board m.toFrame = .ok m := by
  obtain ⟨code, address, action, fault, body⟩ := m
  cases hfault
  rw [ofFrame, if_pos (by exact hcode)]
  exact (gives_of_body haction hclear (gives_readBody hget hbody) address).run

theorem resent_resent (m : BoardMessage board) : m.resent.resent = m.resent := by
  rw [resent, resent, BoardBody.resent_resent]

theorem resent_eq {m : BoardMessage board} (h : m.body.Spoken) (htick : m.body.isSingleTick = false)
    (hfits : TextField.AllFit m.body.texts) : m.resent = m := by
  rw [resent, BoardBody.resent_eq h htick hfits]

end BoardMessage
end RailLayout
