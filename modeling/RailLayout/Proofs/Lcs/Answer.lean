import RailLayout.Proofs.Lcs.Message

/-!
Commands sent as answers. A command that was read from a host's frame, with an action that the board answers as well, is
read from the frame of the board that says the same, with the same address, action and fault
(`BoardMessage.ofFrame_toFrame_of_set`). The body comes back as well, except where it would not come back from a host's frame
either, and except for a pulse: the two bytes of a relay controller's third action mean a pulse from a host and the
state of the bank from a board (`BoardMessage.ofFrame_asAnswer_iff`).
-/

namespace RailLayout

theorem FrameCode.isGet_of_isSet {code : FrameCode} (h : code.isSet = true) : code.isGet = false := by
  rw [isSet, beq_iff_eq] at h
  rw [isGet, h]
  rfl

namespace RelayReport

/-- Whether a report is a pulse, which only a host can send. -/
def isPulse : RelayReport → Bool
  | pulse _ _ => true
  | _ => false

/-- The report that is read from the bytes of a report in a board's frame. -/
def answered : RelayReport → RelayReport
  | pulse relay time => control3 relay (holdByte time)
  | r => r.resent

theorem read_answered {code later : FrameCode} (hset : code.isSet = true) (hlater : later.isSet = false)
    {action : RelayAction} {r last : Reader} {x : RelayReport} (h : read code action r = .ok (x, last)) :
    Read.Gives (read later action) x.encode x.answered := by
  obtain ⟨first, _, -, h⟩ := Read.bind_eq_ok.mp h
  cases action with
  | control1 =>
      obtain ⟨_, _, -, h⟩ := Read.bind_eq_ok.mp h
      cases h
      exact fun p => ⟨_, rfl⟩
  | control2 =>
      obtain ⟨_, _, -, h⟩ := Read.bind_eq_ok.mp h
      cases h
      exact fun p => ⟨_, rfl⟩
  | control3 =>
      obtain ⟨second, _, -, h⟩ := Read.bind_eq_ok.mp h
      rw [if_pos hset] at h
      cases h
      intro p
      simp only [read, encode, Read.bind_eq, Read.byte_cons, Read.byteOrZero_cons, hlater, Bool.false_eq_true, if_false]
      exact ⟨_, rfl⟩
  | control4 =>
      obtain ⟨_, _, -, h⟩ := Read.bind_eq_ok.mp h
      cases h
      exact fun p => ⟨_, rfl⟩
  | control5 =>
      cases h
      exact fun p => ⟨_, rfl⟩

theorem answered_eq_iff (x : RelayReport) : x.answered = x ↔ x.isPulse = false ∧ x.isSingleTick = false := by
  cases x with
  | pulse relay time => exact iff_of_false nofun fun h => nomatch h.1
  | control4 values time =>
      show control4 values (holdByte time) = control4 values time ↔ _
      rw [control4.injEq, holdByte_eq_iff]
      exact ⟨fun h => ⟨rfl, h.2⟩, fun h => ⟨rfl, h.2⟩⟩
  | _ => exact iff_of_true rfl ⟨rfl, rfl⟩

end RelayReport

theorem Product.resent_eq_iff (p : Product) : p.resent = p ↔ ∀ t ∈ p.texts, TextField.resent t.1 t.2 = t.2 := by
  have htexts : (∀ t ∈ p.texts, TextField.resent t.1 t.2 = t.2) ↔
      TextField.resent nameWidth p.name = p.name ∧ TextField.resent numberWidth p.number = p.number := by
    simp only [texts, List.forall_mem_cons, List.not_mem_nil, false_imp_iff, implies_true, and_true]
  rw [htexts]
  refine ⟨fun h => ?_, fun h => by rw [resent, h.1, h.2]⟩
  have hname : p.resent.name = p.name := by rw [h]
  have hnumber : p.resent.number = p.number := by rw [h]
  exact ⟨hname, hnumber⟩

namespace SensorReport

theorem resent_eq_iff (x : SensorReport) :
    x.resent = x ↔ ∀ t ∈ x.texts, TextField.resent t.1 t.2 = t.2 := by
  cases x with
  | data s =>
      obtain ⟨valid1, valid2, dir, engineId, trainId, status, fuel, water, burn, fwbMask, product⟩ := s
      cases product with
      | none => exact iff_of_true rfl fun t ht => absurd ht List.not_mem_nil
      | some p =>
          rw [resent, data.injEq, Sighting.resent, Sighting.mk.injEq, Option.map_some, Option.some.injEq,
            Product.resent_eq_iff]
          simp only [true_and]
          rfl
  | _ => exact iff_of_true rfl fun t ht => absurd ht List.not_mem_nil

end SensorReport

namespace BoardBody

variable {board : Board}

def isPulse : {board : Board} → BoardBody board → Bool
  | .asc2, report r => RelayReport.isPulse r
  | _, _ => false

/-- The body that is read from the bytes of a body in a board's frame. -/
def answered : {board : Board} → BoardBody board → BoardBody board
  | .asc2, report r => report (RelayReport.answered r)
  | _, body => body.resent

/-- The data of a common action are no pulse. -/
theorem answered_of_common {code : FrameCode} {action : CommonAction} {r last : Reader} {body : BoardBody board}
    (h : read board code (.common action) r = .ok (body, last)) : body.answered = body.resent := by
  cases board with
  | asc2 =>
      cases body with
      | common c => rfl
      | config c => rfl
      | report x =>
          rcases report_of_read h with ⟨own, mid, hown, -⟩ | hconfig
          · cases hown
          · obtain ⟨c, _, -, hconfig⟩ := Read.bind_eq_ok.mp hconfig
            cases hconfig
  | _ => rfl

/-- A body of a command is read from its own bytes in a board's frame. -/
theorem read_answered {code later : FrameCode} (hset : code.isSet = true)
    (hlater : later.isGet = false ∧ later.isSet = false) {action : BoardAction board}
    (hresponds : action.capabilities.responds = true) {r last : Reader} {body : BoardBody board}
    (h : read board code action r = .ok (body, last)) :
    Read.Gives (read board later action) (body.encode later) body.answered := by
  cases action with
  | common action =>
      -- Only the light to identify a board by is read from commands alone, and no board answers that.
      have hsame : read board later (.common action) = read board code (.common action) := by
        cases action <;> first | rfl | cases hresponds
      rw [answered_of_common h]
      exact (read_encode (hsame ▸ h)).2
  | own action =>
      cases board with
      | asc2 =>
          obtain ⟨x, _, hx, h⟩ := Read.bind_eq_ok.mp h
          cases h
          exact (RelayReport.read_answered hset hlater.2 hx).map fun x => (report x : BoardBody .asc2)
      | amc2 =>
          obtain ⟨x, _, hx, h⟩ := Read.bind_eq_ok.mp h
          cases h
          have hsame : later.isGet = code.isGet := hlater.1.trans (FrameCode.isGet_of_isSet hset).symm
          exact (OutputReport.read_encode hsame hx).map fun x => (report x : BoardBody .amc2)
      | ser2 => exact action.elim
      | irda | wifi | bpc2 | stm2 =>
          have hsame : read _ later (.own action) r = .ok (body, last) := h
          exact (read_encode hsame).2

theorem answered_eq_iff (body : BoardBody board) :
    body.answered = body ↔
      body.isPulse = false ∧ body.isSingleTick = false ∧ ∀ t ∈ body.texts, TextField.resent t.1 t.2 = t.2 := by
  have hnone : ∀ t ∈ ([] : List (Nat × String)), TextField.resent t.1 t.2 = t.2 :=
    fun t ht => absurd ht List.not_mem_nil
  cases board with
  | asc2 =>
      cases body with
      | report x =>
          show report (RelayReport.answered x) = report x ↔ _
          rw [report.injEq, RelayReport.answered_eq_iff]
          exact ⟨fun h => ⟨h.1, h.2, hnone⟩, fun h => ⟨h.1, h.2.1⟩⟩
      | _ => exact iff_of_true rfl ⟨rfl, rfl, hnone⟩
  | irda =>
      cases body with
      | report x =>
          show report (SensorReport.resent x) = report x ↔ _
          rw [report.injEq]
          exact (SensorReport.resent_eq_iff x).trans ⟨fun h => ⟨rfl, rfl, h⟩, fun h => h.2.2⟩
      | _ => exact iff_of_true rfl ⟨rfl, rfl, hnone⟩
  | _ => cases body <;> exact iff_of_true rfl ⟨rfl, rfl, hnone⟩

/-- A text that was read and that fits its field comes back. -/
theorem texts_resent {body : BoardBody board} (h : body.Spoken) (hfits : TextField.AllFit body.texts) :
    ∀ t ∈ body.texts, TextField.resent t.1 t.2 = t.2 := by
  cases board with
  | irda =>
      cases body with
      | report x => exact (SensorReport.resent_eq_iff x).mp (SensorReport.resent_eq h hfits)
      | _ => exact fun t ht => absurd ht List.not_mem_nil
  | _ => cases body <;> exact fun t ht => absurd ht List.not_mem_nil

end BoardBody

namespace BoardMessage

variable {board : Board}

theorem code_asAnswer (m : BoardMessage board) :
    (m.asAnswer.code.family = .board board ∧ m.asAnswer.code.isBoard = true) ∧
      m.asAnswer.code.isGet = false ∧ m.asAnswer.code.isSet = false := by
  cases board <;> exact ⟨⟨rfl, rfl⟩, rfl, rfl⟩

/-- What a frame of the board holds that says the same as a command. -/
theorem ofFrame_toFrame_of_set {frame : Frame} {m : BoardMessage board} (h : ofFrame board frame = .ok m)
    (hset : frame.code.isSet = true) (hresponds : m.action.capabilities.responds = true) {later : FrameCode}
    (hlayout : later.family = .board board ∧ later.isBoard = true)
    (hlater : later.isGet = false ∧ later.isSet = false) :
    ofFrame board (toFrame { m with code := later }) = .ok { m with code := later, body := m.body.answered } := by
  obtain ⟨code, address, action, fault, body⟩ := m
  have hframe : (toFrame ⟨later, address, action, fault, body⟩).code = later := rfl
  rw [ofFrame, hframe, if_pos hlayout]
  unfold ofFrame at h
  split at h
  · obtain ⟨last, h⟩ := Read.run_eq_ok.mp h
    obtain ⟨-, haction, hparts⟩ := read_cases h
    rcases hparts with ⟨f, hfault, hempty⟩ | ⟨before, after, hbody⟩
    · cases hfault
      cases hempty
      have hanswered : (BoardBody.empty : BoardBody board).answered = .empty := by cases board <;> rfl
      have hgives := gives_refusal haction later address f
      rw [← hanswered] at hgives
      exact hgives.run
    · rw [readBody_eq, FrameCode.isGet_of_isSet hset] at hbody
      obtain ⟨x, _, hx, hbody⟩ := Read.bind_eq_ok.mp hbody
      cases hbody
      have hgives := gives_readBody hlater.1 (BoardBody.read_answered hset hlater hresponds hx)
      exact (gives_of_body haction.plain haction.clear hgives address).run
  · cases h

/-- Take a command that was read from a host's frame, with an action that the board answers as well. The frame of the
board that says the same is read, with the same address, action and fault. The body comes back as well just if it is no
pulse, holds no switch for a single tick, and holds no text that does not come back from its field; a text that fits its
field does. -/
theorem ofFrame_asAnswer_iff {frame : Frame} {m : BoardMessage board} (h : ofFrame board frame = .ok m)
    (hset : frame.code.isSet = true) (hresponds : m.action.capabilities.responds = true) :
    ofFrame board m.asAnswer.toFrame = .ok { m.asAnswer with body := m.body.answered } ∧
      (ofFrame board m.asAnswer.toFrame = .ok m.asAnswer ↔
        m.body.isPulse = false ∧ m.body.isSingleTick = false ∧
          ∀ t ∈ m.body.texts, TextField.resent t.1 t.2 = t.2) ∧
      (TextField.AllFit m.body.texts → ∀ t ∈ m.body.texts, TextField.resent t.1 t.2 = t.2) := by
  obtain ⟨hlayout, hlater⟩ := m.code_asAnswer
  have hagain : ofFrame board m.asAnswer.toFrame = .ok { m.asAnswer with body := m.body.answered } :=
    ofFrame_toFrame_of_set h hset hresponds hlayout hlater
  refine ⟨hagain, ?_, BoardBody.texts_resent (ofFrame_toFrame h).2.1⟩
  rw [hagain, ← BoardBody.answered_eq_iff, Except.ok.injEq]
  exact ⟨fun hsame => congrArg body hsame, fun hsame => by rw [hsame]; rfl⟩

/-- A motor is turned around: a board's frame has a byte without meaning before the motor, and says the same. -/
theorem ofFrame_asAnswer_iff_motor :
    let m : BoardMessage .amc2 := ⟨.amc2Set, 9, .own .motor, none, .report (.motor 1 75 .reverse)⟩
    ofFrame .amc2 ⟨.amc2Set, [9, 0x10, 1, 75, 2]⟩ = .ok m ∧ m.asAnswer.toFrame = ⟨.amc2Rx, [9, 0x10, 0, 1, 75, 2]⟩ ∧
      ofFrame .amc2 m.asAnswer.toFrame = .ok m.asAnswer := by
  intro m
  have hread : ofFrame .amc2 ⟨.amc2Set, [9, 0x10, 1, 75, 2]⟩ = .ok m := rfl
  refine ⟨hread, rfl, (ofFrame_asAnswer_iff hread rfl rfl).2.1.mpr ⟨rfl, rfl, fun t ht => ?_⟩⟩
  exact absurd ht List.not_mem_nil

/-- A pulse comes back as the state of the bank. A name that starts with a byte that is no character, and fills its
field up, comes back without its last two characters: the mark for that byte takes three bytes. -/
theorem asAnswer_differs :
    let pulse : BoardMessage .asc2 := ⟨.asc2Set, 5, .own .control3, none, .report (.pulse 2 30)⟩
    let named (letters : Nat) : BoardMessage .irda := ⟨.irdaSet, 2, .own .data, none,
      .report (.data ⟨0, 0, 0, 18, 0, 0, 0, 0, 0, 0, some ⟨0, 0, 0, 0, 2019,
        String.ofList (Char.ofNat 0xFFFD :: List.replicate letters 'A'), "3751", 0, 0, 180, 0⟩⟩)⟩
    (ofFrame .asc2 ⟨.asc2Set, [5, 0x12, 2, 30]⟩ = .ok pulse ∧ pulse.action.capabilities.responds = true ∧
      ofFrame .asc2 pulse.asAnswer.toFrame = .ok ⟨.asc2Rx, 5, .own .control3, none, .report (.control3 2 30)⟩ ∧
        ofFrame .asc2 pulse.asAnswer.toFrame ≠ .ok pulse.asAnswer) ∧
    (ofFrame .irda ⟨.irdaSet, [2, 0x10, 0, 0, 0, 0, 0, 18, 0, 0, 0, 0, 0, 0, 0, 0, 0, 0, 0, 0, 0x31, 0x39, 0] ++
      (0xFF :: List.replicate 32 0x41) ++ [0x33, 0x37, 0x35, 0x31, 0, 0, 0, 180, 0, 0, 0]⟩ = .ok (named 32) ∧
        (named 32).action.capabilities.responds = true ∧
          ofFrame .irda (named 32).asAnswer.toFrame = .ok (named 30).asAnswer ∧
            ofFrame .irda (named 32).asAnswer.toFrame ≠ .ok (named 32).asAnswer) := by
  intro pulse named
  exact ⟨⟨rfl, rfl, by decide +kernel, by decide +kernel⟩, by decide +kernel, rfl, by decide +kernel, by decide +kernel⟩

end BoardMessage
end RailLayout
