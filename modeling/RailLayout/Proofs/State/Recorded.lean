import RailLayout.Proofs.State.Fixture

/-!
What a record of the Base leaves alone. A record marks which of its fields mean anything. An engine, a train and an
accessory take over the marked fields only. A switch and a route take over the name and the number of a record that is
in use, marked or not; so one that is not marked replaces what they hold, unless it is blank or the same
(`Component.recorded_update_iff`).
-/

namespace RailLayout

/-- What a component holds of a field of its record. -/
inductive RecordValue where
  | text (text : String)
  | byte (value : UInt8)
  | word (value : UInt16)
  | smoke (level : SmokeLevel)
  deriving DecidableEq

namespace Profile

def recorded (p : Profile) : RecordField → Option RecordValue
  | .roadName => p.roadName.map .text
  | .roadNumber => p.roadNumber.map .text
  | _ => none

/-- The name or the number, whichever the field is for, without blanks around it. -/
def text? (name number : Option String) : RecordField → Option String
  | .roadName => trimmed? name
  | .roadNumber => trimmed? number
  | _ => none

theorem recorded_bindNames (p : Profile) (name number : Option String) (field : RecordField) :
    (p.bindNames name number).recorded field = ((text? name number field).map .text).or (p.recorded field) := by
  cases field <;> first | rfl | exact Option.map_or

theorem recorded_of_accept {scope : Scope} {u : Update} {p q : Profile} (h : p.accept scope u = .ok q) :
    q.recorded = p.recorded := by
  rw [accept_eq h]
  rfl

end Profile

namespace MotiveState

/-- What an engine or a train holds of a field of its record. -/
def recorded (s : MotiveState) : RecordField → Option RecordValue
  | .locoType => s.locoType.map .byte
  | .controlType => s.controlType.map .byte
  | .soundType => s.soundType.map .byte
  | .classType => s.classType.map .byte
  | .speed => s.speed.map .word
  | .runLevel => s.rpm.map .byte
  | .laborBias => s.labor.map .byte
  | .speedLimit => s.speedLimit.map .byte
  | .maxSpeed => s.maxSpeed.map .byte
  | .fuelLevel => s.fuelLevel.map .byte
  | .waterLevel => s.waterLevel.map .byte
  | .smokeLevel => s.smoke.map .smoke
  | .trainBrake => s.trainBrake.map .byte
  | .momentum => s.momentum.map .byte
  | field => s.profile.recorded field

theorem recorded_profile (s : MotiveState) {q : Profile} (h : q.recorded = s.profile.recorded) :
    ({ s with profile := q } : MotiveState).recorded = s.recorded := by
  funext field
  cases field
  case roadName => exact congrFun h .roadName
  case roadNumber => exact congrFun h .roadNumber
  all_goals rfl

end MotiveState

namespace Component

/-- What a component holds of a field of its record. -/
def recorded : Component → RecordField → Option RecordValue
  | motive s => s.recorded
  | other => other.profile.recorded

end Component

theorem RecordKind.isSome_ofScope? (kind : RecordKind) : (RecordKind.ofScope? kind.scope).isSome = true := by
  cases kind with
  | motive kind | fixture kind => cases kind <;> rfl
  | base => rfl

namespace RecordMessage

variable {m : RecordMessage} {field : RecordField}

/-- The text that a record of an accessory, a switch or a route has for a field, marked or not. -/
def text? (m : RecordMessage) (field : RecordField) : Option String :=
  match m.contents with
  | .fixture _ _ r => Profile.text? r.name r.number field
  | _ => none

theorem scope_of_accept {scope : Scope} {p q : Profile} (h : p.accept scope (.message (.record m)) = .ok q) :
    m.scope = scope := by
  obtain ⟨received, address, htarget, hmeant, -⟩ := Profile.of_accept h
  cases htarget
  exact hmeant.resolve_left Bool.false_ne_true

/-- The name and the number that a record marks are no text for a field that it does not mark. -/
theorem text?_marked (hscope : m.scope ≠ .base) (hclear : m.has field = false) :
    Profile.text? m.name? m.number? field = none := by
  obtain ⟨recordNo, flags, status, spare, contents⟩ := m
  have hnot : ¬has ⟨recordNo, flags, status, spare, contents⟩ field = true := Bool.eq_false_iff.mp hclear
  cases contents with
  | base valid r => exact absurd rfl hscope
  | none kind => cases field <;> rfl
  | motive kind valid r | fixture kind valid r =>
      cases field <;> first | rfl | (simp only [Profile.text?, name?, number?, if_neg hnot]; rfl)

end RecordMessage

theorem MotiveState.recorded_applyRecordFields {m : RecordMessage} {field : RecordField} (hscope : m.scope ≠ .base)
    (hclear : m.has field = false) (r : MotiveRecord) (s : MotiveState) :
    (s.applyRecordFields m r).recorded field = s.recorded field := by
  have hnot : ¬m.has field = true := Bool.eq_false_iff.mp hclear
  have hnames : (s.profile.bindNames m.name? m.number?).recorded field = s.profile.recorded field := by
    rw [Profile.recorded_bindNames, RecordMessage.text?_marked hscope hclear]
    rfl
  unfold applyRecordFields
  dsimp only
  cases field
  case controlType =>
    rw [if_neg hnot]
    rfl
  case locoType | soundType | classType | speed | runLevel | laborBias | speedLimit | maxSpeed | fuelLevel |
      waterLevel | smokeLevel | trainBrake | momentum =>
    simp only [if_neg hnot]
    split <;> rfl
  all_goals split <;> exact hnames

theorem MotiveState.recorded_applyMessage {m : RecordMessage} {field : RecordField} (hscope : m.scope ≠ .base)
    (hclear : m.has field = false) (now : Nat) (s : MotiveState) :
    (s.applyMessage now (.record m)).1.recorded field = s.recorded field := by
  have hrecord : (s.applyRecord m).1.recorded field = s.recorded field := by
    unfold applyRecord
    split
    · rfl
    · split
      · rename_i kind valid r hcontents
        rw [← recorded_applyRecordFields hscope hclear r s]
        cases kind <;> cases field <;> rfl
      · rfl
  unfold applyMessage
  rw [applyReport]
  split <;> rename_i heq <;> rw [heq] at hrecord
  · rw [← hrecord]
    cases field <;> rfl
  · exact hrecord

theorem AccessoryState.recorded_applyRecord {m : RecordMessage} {field : RecordField} (hscope : m.scope ≠ .base)
    (hclear : m.has field = false) (now : Nat) (s : AccessoryState) :
    (s.applyRecord now m).1.profile.recorded field = s.profile.recorded field := by
  unfold applyRecord
  split
  · rfl
  · have hnames := s.profile.recorded_bindNames m.name? m.number? field
    rw [RecordMessage.text?_marked hscope hclear] at hnames
    exact hnames

/-- The text of a record in use replaces what a profile holds of a field, unless it is blank or the same. -/
theorem Profile.recorded_bindNames_iff (p : Profile) (name number : Option String) (field : RecordField) :
    (p.bindNames name number).recorded field = p.recorded field ↔
      ¬∃ text, text? name number field = some text ∧ p.recorded field ≠ some (.text text) := by
  rw [recorded_bindNames]
  cases text? name number field with
  | none => exact iff_of_true rfl fun ⟨text, hnone, _⟩ => nomatch hnone
  | some text =>
      simp only [Option.map_some, Option.some_or, Option.some.injEq, exists_eq_left', not_not, ne_eq]
      exact eq_comm

/-- Whether a record replaces what a switch or a route holds of a field, by another text. -/
def RecordMessage.Replaces (m : RecordMessage) (field : RecordField) (p : Profile) : Prop :=
  m.status = 0 ∧ m.isActive = true ∧ ∃ text, m.text? field = some text ∧ p.recorded field ≠ some (.text text)

theorem replaces_iff_of_live {m : RecordMessage} {r : FixtureRecord} (hlive : liveRecord? m = some r)
    (field : RecordField) (p : Profile) : m.Replaces field p ↔
      ∃ text, Profile.text? r.name r.number field = some text ∧ p.recorded field ≠ some (.text text) := by
  obtain ⟨kind, valid, hcontents⟩ := contents_of_liveRecord? hlive
  have huse : m.status = 0 ∧ m.isActive = true := by
    unfold liveRecord? at hlive
    split at hlive
    · cases hlive
    · rename_i huse
      rw [not_or, not_not, Bool.not_eq_false] at huse
      exact huse
  rw [RecordMessage.Replaces, RecordMessage.text?, hcontents, and_iff_right huse.1, and_iff_right huse.2]

theorem not_replaces_of_dead {m : RecordMessage} (hscope : m.scope = .switch ∨ m.scope = .route)
    (hdead : liveRecord? m = none) (field : RecordField) (p : Profile) : ¬m.Replaces field p := by
  rintro ⟨hstatus, huse, text, htext, -⟩
  obtain ⟨recordNo, flags, status, spare, contents⟩ := m
  have hlive : ¬(status ≠ 0 ∨ RecordMessage.isActive ⟨recordNo, flags, status, spare, contents⟩ = false) :=
    not_or.mpr ⟨not_not.mpr hstatus, Bool.not_eq_false _ ▸ huse⟩
  cases contents with
  | fixture kind valid r =>
      rw [liveRecord?, if_neg hlive] at hdead
      cases kind with
      | accessory => rcases hscope with h | h <;> cases h
      | switch | route => cases hdead
  | none | motive | base => cases htext

theorem SwitchState.recorded_apply_iff {m : RecordMessage} (hscope : m.scope = .switch) (field : RecordField)
    (now : Nat) (s : SwitchState) :
    (apply now (.message (.record m)) s).1.profile.recorded field = s.profile.recorded field ↔
      ¬m.Replaces field s.profile := by
  rw [apply]
  unfold applyRecord
  split
  · rename_i r hlive
    rw [replaces_iff_of_live hlive]
    exact Profile.recorded_bindNames_iff s.profile r.name r.number field
  · rename_i hdead
    exact iff_of_true rfl (not_replaces_of_dead (Or.inl hscope) hdead field s.profile)

theorem RouteState.recorded_apply_iff {m : RecordMessage} (hscope : m.scope = .route) (field : RecordField)
    (now : Nat) (s : RouteState) :
    (apply now (.message (.record m)) s).1.profile.recorded field = s.profile.recorded field ↔
      ¬m.Replaces field s.profile := by
  unfold apply
  dsimp only
  split
  · rename_i r hlive
    rw [replaces_iff_of_live hlive]
    exact Profile.recorded_bindNames_iff s.profile r.name r.number field
  · rename_i hdead
    exact iff_of_true rfl (not_replaces_of_dead (Or.inr hscope) hdead field s.profile)

namespace Component

/-- Take any component but the Base, any record, and a field that the record does not mark as valid. The component holds
of the field afterwards what it held before, unless it is a switch or a route that accepts the record, the record was
read without fault and is in use, and its name or number, blanks aside, is another than the one held: then that is
replaced, though it is not marked. -/
theorem recorded_update_iff (rules : Rules) (now : Nat) {m : RecordMessage} {field : RecordField}
    (hclear : m.has field = false) {c : Component} (hbase : c.scope ≠ .base) :
    (c.update rules now (.message (.record m))).state.recorded field = c.recorded field ↔
      ¬((c.scope = .switch ∨ c.scope = .route) ∧ (c.profile.accept c.scope (.message (.record m))).isOk = true ∧
        m.Replaces field c.profile) := by
  cases haccept : c.profile.accept c.scope (.message (.record m)) with
  | error e =>
      rw [update_of_refused haccept]
      exact iff_of_true rfl fun hnot => nomatch hnot.2.1
  | ok q =>
      have hscope := RecordMessage.scope_of_accept haccept
      have hkept := Profile.recorded_of_accept haccept
      cases c with
      | motive s =>
          rw [update, MotiveState.update_message haccept]
          refine iff_of_true ?_ fun hnot => ?_
          · exact (MotiveState.recorded_applyMessage (hscope ▸ hbase) hclear now _).trans
              (congrFun (s.recorded_profile hkept) field)
          · cases hkind : s.kind <;> rw [scope, hkind] at hnot <;> rcases hnot.1 with h | h <;> cases h
      | switch s =>
          rw [update, SwitchState.update_of_accept haccept]
          have happly := SwitchState.recorded_apply_iff hscope field now { s with profile := q }
          simp only [RecordMessage.Replaces, hkept] at happly
          exact happly.trans (not_congr ⟨fun h => ⟨Or.inl rfl, rfl, h⟩, fun h => h.2.2⟩)
      | route s =>
          rw [update, RouteState.update_of_accept haccept]
          have happly := RouteState.recorded_apply_iff hscope field now { s with profile := q }
          simp only [RecordMessage.Replaces, hkept] at happly
          exact happly.trans (not_congr ⟨fun h => ⟨Or.inr rfl, rfl, h⟩, fun h => h.2.2⟩)
      | accessory s =>
          rw [update, AccessoryState.update_message haccept]
          refine iff_of_true ?_ fun hnot => by rcases hnot.1 with h | h <;> cases h
          exact (AccessoryState.recorded_applyRecord (hscope ▸ hbase) hclear now _).trans (congrFun hkept field)
      | base s => exact absurd rfl hbase
      | sensorTrack s | block s | sync s =>
          have hkind := RecordKind.isSome_ofScope? m.kind
          rw [show m.kind.scope = _ from hscope] at hkind
          cases hkind

/-- A record that marks only its number comes for a switch that is named otherwise: the name is replaced. -/
theorem recorded_update_iff_unmarked :
    let record : FixtureRecord := ⟨some 101, some 101, some "Main", some "12", []⟩
    let m : RecordMessage := ⟨5, RecordMessage.writeFlags, 0, 0, .fixture .switch RecordField.roadNumber.mask record⟩
    let yard : Component := switch ⟨⟨some 5, some "Yard", some "12", none⟩, some true⟩
    let after := (yard.update ⟨.stock, .standard⟩ 0 (.message (.record m))).state
    RecordMessage.ofFrame m.toFrame = .ok m ∧ m.has .roadName = false ∧ yard.scope ≠ .base ∧
      (yard.profile.roadName, after.profile.roadName) = (some "Yard", some "Main") ∧
        after.recorded .roadName ≠ yard.recorded .roadName := by
  intro record m yard after
  have hclear : m.has .roadName = false := by decide
  have hbase : yard.scope ≠ .base := by decide
  have hreplaces : m.Replaces .roadName yard.profile := ⟨rfl, by decide, "Main", by decide +kernel, by decide⟩
  refine ⟨by decide +kernel, hclear, hbase, by decide +kernel, fun hsame => ?_⟩
  exact (recorded_update_iff ⟨.stock, .standard⟩ 0 hclear hbase).mp hsame ⟨Or.inl rfl, rfl, hreplaces⟩

end Component
end RailLayout
