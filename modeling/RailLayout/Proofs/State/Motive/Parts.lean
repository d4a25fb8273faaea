import RailLayout.Proofs.Memory.Parts
import RailLayout.Proofs.State.Believed

/-!
What an engine or a train learns from parts of its memory. Each field of the memory sets something of its own in the
state (`MotiveState.applyMemoryField_eq`), so fields may come in any order, and two parts teach what the part teaches
that they make up (`Component.told_in_parts`). They do so in either order, unless the first of them puts an end to the
alias under which both are sent: an engine or a train takes what is sent to the number of four digits that its road
number spells, and a part of the memory can hold another road number.
-/

namespace RailLayout

def MemoryValue.members? : MemoryValue → Option (List ConsistMember)
  | consist members => some members
  | _ => none

/-- What becomes of something that one field of the memory sets when an entry is taken over. -/
def MemoryField.takeOver {α : Type} (field : MemoryField) (set : MemoryValue → α → α)
    (entry : MemoryField × MemoryValue) (held : α) : α :=
  if entry.1 = field then set entry.2 held else held

theorem MemoryField.takeOver_comm {α : Type} {a b : MemoryField × MemoryValue} (h : a.1 ≠ b.1) (field : MemoryField)
    (set : MemoryValue → α → α) (held : α) :
    field.takeOver set b (field.takeOver set a held) = field.takeOver set a (field.takeOver set b held) := by
  unfold takeOver
  by_cases hfield : a.1 = field
  · have hother : b.1 ≠ field := fun hb => h (hfield.trans hb.symm)
    rw [if_neg hother, if_neg hother]
  · rw [if_neg hfield, if_neg hfield]

namespace MotiveState

/-- Each field of the memory sets something of its own. -/
theorem applyMemoryField_eq (s : MotiveState) (entry : MemoryField × MemoryValue) :
    s.applyMemoryField entry =
      let byte {α : Type} (field : MemoryField) (read : UInt8 → Option α) (held : Option α) : Option α :=
        field.takeOver (fun value held => (value.byte?.bind read).or held) entry held
      let text (field : MemoryField) (held : Option String) : Option String :=
        field.takeOver (fun value held => (Profile.trimmed? value.text?).or held) entry held
      { s with
        profile := { s.profile with
          roadName := text .roadName s.profile.roadName
          roadNumber := text .roadNumber s.profile.roadNumber }
        speed := byte .speed (fun v => some v.toUInt16) s.speed
        trainBrake := byte .trainBrake (fun v => some (Scale.brakeFromRecord v)) s.trainBrake
        rpm := byte .rpmLabor (fun v => some (v &&& 0x07)) s.rpm
        labor := byte .rpmLabor (fun v => some (Scale.laborFromRecord (v >>> 3))) s.labor
        momentum := byte .momentum (fun v => some (Scale.momentumFromRecord v)) s.momentum
        locoType := byte .engineType some s.locoType
        controlType := byte .controlType some s.controlType
        legacy := byte .controlType (fun v => if s.kind = .engine then some (v == legacyControl) else none) s.legacy
        soundType := byte .soundType some s.soundType
        classType := byte .engineClass some s.classType
        smoke := byte .smoke SmokeLevel.ofByte? s.smoke
        speedLimit := byte .speedLimit some s.speedLimit
        maxSpeed := byte .maxSpeed some s.maxSpeed
        consistFlags := byte .consistFlags some s.consistFlags
        consist := MemoryField.takeOver .consistComps (fun value held => value.members?.getD held) entry
          s.consist } := by
  obtain ⟨field, value⟩ := entry
  cases field
  case controlType =>
    cases value
    case byte v =>
      have hlegacy : (if s.kind = .engine then some (v == legacyControl) else s.legacy) =
          (if s.kind = .engine then some (v == legacyControl) else none).or s.legacy := by split <;> rfl
      rw [applyMemoryField, setControlType, hlegacy]
      rfl
    all_goals rfl
  all_goals cases value <;> rfl

theorem applyMemoryField_comm {a b : MemoryField × MemoryValue} (h : a.1 ≠ b.1) (s : MotiveState) :
    (s.applyMemoryField a).applyMemoryField b = (s.applyMemoryField b).applyMemoryField a := by
  simp only [applyMemoryField_eq, MemoryField.takeOver_comm h]

/-- The fields of a part may come in any order. -/
theorem foldl_applyMemoryField_perm {m : MemoryMessage} {entries : List (MemoryField × MemoryValue)}
    (h : entries.Perm m.fields) (s : MotiveState) :
    entries.foldl applyMemoryField s = m.fields.foldl applyMemoryField s := by
  refine (h.symm.foldl_eq' (fun a ha b hb t => ?_) s).symm
  by_cases hfield : a.1 = b.1
  · rw [MemoryMessage.eq_of_mem_fields ha hb hfield]
  · exact applyMemoryField_comm hfield t

/-- The state with another memory of the last update. -/
def lastTold (last : Option (Update × Nat)) (s : MotiveState) : MotiveState :=
  { s with profile := { s.profile with last } }

theorem foldl_applyMemoryField_lastTold (last : Option (Update × Nat)) (entries : List (MemoryField × MemoryValue))
    (s : MotiveState) :
    entries.foldl applyMemoryField (s.lastTold last) = (entries.foldl applyMemoryField s).lastTold last := by
  induction entries generalizing s with
  | nil => rfl
  | cons entry rest ih =>
      have hentry : (s.lastTold last).applyMemoryField entry = (s.applyMemoryField entry).lastTold last := by
        rw [applyMemoryField_eq, applyMemoryField_eq]
        rfl
      rw [List.foldl_cons, List.foldl_cons, hentry, ih]

/-- Two parts teach what the part teaches that they make up. -/
theorem foldl_applyMemoryField_of_madeUpOf {whole first second : MemoryMessage} (h : whole.MadeUpOf first second)
    (s : MotiveState) :
    second.fields.foldl applyMemoryField (first.fields.foldl applyMemoryField s) =
      whole.fields.foldl applyMemoryField s := by
  rw [← List.foldl_append, foldl_applyMemoryField_perm h.fields_perm]

/-! ## A part that is accepted, and one after it -/

/-- A part and the two that it is made up of are sent to the same address. -/
theorem targets_of_madeUpOf {whole first second : MemoryMessage} (h : whole.MadeUpOf first second) :
    (Update.message (.memory whole)).target? = (Update.message (.memory first)).target? ∧
      (Update.message (.memory second)).target? = (Update.message (.memory first)).target? := by
  obtain ⟨hscope₁, hscope₂⟩ := h.scopes
  obtain ⟨haddress₁, haddress₂⟩ := h.addresses
  simp only [Update.target?_memory, hscope₁, haddress₁, hscope₂, haddress₂, and_self]

/-- Whether a part of the memory puts an end to the alias that it is sent to: before it the road number of an engine or
a train that is bound to another address spells the number of the record, and after it no more. -/
structure EndsAlias (m : MemoryMessage) (bound : UInt16) (s : MotiveState) : Prop where
  isBound : s.profile.address = some bound
  other : bound ≠ m.address
  scope : m.scope = some s.kind.scope
  before : s.profile.isAlias s.kind.scope m.address = true
  after : (s.applyMemory m).1.profile.isAlias s.kind.scope m.address = false

variable {s : MotiveState} {first : MemoryMessage} {bound : UInt16} {q : Profile}

namespace EndsAlias

variable (h : s.EndsAlias first bound)
include h

theorem target : (Update.message (.memory first)).target? = some (s.kind.scope, first.address) := by
  rw [Update.target?_memory, h.scope, Option.map_some]

theorem accepted : s.profile.accept s.kind.scope (.message (.memory first)) = .ok s.profile :=
  Profile.accept_of_reaches h.isBound h.target (Or.inr (Or.inr (Profile.isAlias_eq_true_iff.mp h.before)))

theorem fields_ne_nil : first.fields ≠ [] := by
  intro hfields
  have hafter := h.after
  rw [applyMemory, hfields, List.foldl_nil, h.before] at hafter
  cases hafter

/-- What comes next for the record is refused. -/
theorem refused {u : Update} (htarget : u.target? = some (s.kind.scope, first.address))
    (last : Option (Update × Nat)) :
    let t := (first.fields.foldl applyMemoryField s).lastTold last
    t.profile.accept t.kind.scope u = .error (.addressMismatch s.kind.scope bound first.address) := by
  intro t
  have hsame := alike_foldl_applyMemoryField first.fields s
  rw [show t.kind = s.kind from hsame.kind]
  refine Profile.accept_of_not_reaches (hsame.address.trans h.isBound) htarget ?_
  rintro (hbound | ⟨hbroadcast, -⟩ | hspelled)
  · exact h.other hbound.symm
  · have habove := (Profile.isAlias_eq_true_iff.mp h.before).2.1
    rw [hbroadcast] at habove
    exact absurd habove (by decide)
  · have hafter := h.after
    rw [Bool.eq_false_iff] at hafter
    exact hafter (Profile.isAlias_eq_true_iff.mpr hspelled)

end EndsAlias

/-- What comes next for the record is accepted too, unless the part ends the alias. -/
theorem accept_next (haccept : s.profile.accept s.kind.scope (.message (.memory first)) = .ok q)
    (hkept : ∀ bound, ¬s.EndsAlias first bound) {u : Update}
    (htarget : u.target? = (Update.message (.memory first)).target?) (last : Option (Update × Nat)) :
    let t := (first.fields.foldl applyMemoryField { s with profile := q }).lastTold last
    t.profile.accept t.kind.scope u = .ok t.profile := by
  intro t
  have hsame := alike_foldl_applyMemoryField first.fields { s with profile := q }
  rw [show t.kind = s.kind from hsame.kind]
  obtain ⟨received, address, hfound, hmeant, hcases⟩ := Profile.of_accept haccept
  obtain rfl : received = s.kind.scope := hmeant.resolve_left Bool.false_ne_true
  have hnext : u.target? = some (s.kind.scope, address) := htarget.trans hfound
  rcases hcases with ⟨bound, hbound, hreaches, rfl⟩ | ⟨-, -, -, rfl⟩
  · have hheld : t.profile.address = some bound := hsame.address.trans hbound
    by_cases hother : address = bound
    · exact Profile.accept_of_reaches hheld hnext (Or.inl hother)
    rcases hreaches.resolve_left hother with hbroadcast | hspelled
    · exact Profile.accept_of_reaches hheld hnext (Or.inr (Or.inl hbroadcast))
    cases hafter : t.profile.isAlias s.kind.scope address with
    | true =>
        exact Profile.accept_of_reaches hheld hnext (Or.inr (Or.inr (Profile.isAlias_eq_true_iff.mp hafter)))
    | false =>
        rw [Update.target?_memory] at hfound
        obtain ⟨scope, hscope, hpair⟩ := Option.map_eq_some_iff.mp hfound
        obtain ⟨rfl, rfl⟩ := Prod.mk.inj hpair
        exact absurd ⟨hbound, Ne.symm hother, hscope, Profile.isAlias_eq_true_iff.mpr hspelled, hafter⟩ (hkept bound)
  · exact Profile.accept_bound hsame.address hnext

end MotiveState

namespace Component

open MotiveState

theorem believed_lastTold (last : Option (Update × Nat)) (s : MotiveState) :
    (motive (s.lastTold last)).believed = (motive s).believed := rfl

/-- A part that is accepted is taken field by field; one without fields is not remembered. -/
theorem update_memory {s : MotiveState} {m : MemoryMessage} {q : Profile}
    (haccept : s.profile.accept s.kind.scope (.message (.memory m)) = .ok q) (rules : Rules) (now : Nat) :
    ∃ last, (motive s).update rules now (.message (.memory m)) =
      ⟨motive ((m.fields.foldl applyMemoryField { s with profile := q }).lastTold last), .ok (!m.fields.isEmpty)⟩ := by
  have hreport : applyReport (.memory m) { s with profile := q } =
      (m.fields.foldl applyMemoryField { s with profile := q }, !m.fields.isEmpty) := rfl
  rw [update, update_message haccept, applyMessage, hreport]
  cases m.fields with
  | nil => exact ⟨q.last, rfl⟩
  | cons entry rest => exact ⟨some (.message (.memory m), now), rfl⟩

theorem update_memory_of_kept {s : MotiveState} {m : MemoryMessage}
    (haccept : s.profile.accept s.kind.scope (.message (.memory m)) = .ok s.profile) (rules : Rules) (now : Nat) :
    ∃ last, (motive s).update rules now (.message (.memory m)) =
      ⟨motive ((m.fields.foldl applyMemoryField s).lastTold last), .ok (!m.fields.isEmpty)⟩ :=
  update_memory haccept rules now

section Next

variable {s : MotiveState} {first second : MemoryMessage} (rules : Rules) (now₁ now₂ : Nat)

/-- A part that comes after one that was accepted is taken on top of it. -/
theorem update_next {q : Profile} (haccept : s.profile.accept s.kind.scope (.message (.memory first)) = .ok q)
    (hkept : ∀ bound, ¬s.EndsAlias first bound)
    (htarget : (Update.message (.memory second)).target? = (Update.message (.memory first)).target?) :
    let once := (motive s).update rules now₁ (.message (.memory first))
    let told := first.fields.foldl applyMemoryField { s with profile := q }
    ∃ last, once.state.update rules now₂ (.message (.memory second)) =
      ⟨motive ((second.fields.foldl applyMemoryField told).lastTold last), .ok (!second.fields.isEmpty)⟩ := by
  intro once told
  obtain ⟨last₁, hfirst⟩ := update_memory haccept rules now₁
  obtain ⟨last₂, hsecond⟩ := update_memory_of_kept (accept_next haccept hkept htarget last₁) rules now₂
  refine ⟨last₂, ?_⟩
  simp only [once, hfirst]
  rw [hsecond, foldl_applyMemoryField_lastTold]
  rfl

/-- A part that comes after one that ended the alias is refused. -/
theorem update_refused {bound : UInt16} (hends : s.EndsAlias first bound)
    (htarget : (Update.message (.memory second)).target? = (Update.message (.memory first)).target?) :
    let once := (motive s).update rules now₁ (.message (.memory first))
    once.state.update rules now₂ (.message (.memory second)) =
      ⟨once.state, .error (.addressMismatch s.kind.scope bound first.address)⟩ := by
  intro once
  obtain ⟨last, honce⟩ := update_memory hends.accepted rules now₁
  simp only [once, honce]
  exact update_of_refused (c := motive _) (hends.refused (htarget.trans hends.target) last)

end Next

/-- Take any engine or train, and a part of the memory of a record that two parts make up without cutting through a
field that lies in it. The part changes something exactly if one of the two does, sent one after the other in either
order, and what is believed after both is what is believed after the whole. There is one exception: where the first of
the two ends the alias that both are sent to, the second is refused. -/
theorem told_in_parts {whole first second : MemoryMessage} (h : whole.MadeUpOf first second) (rules : Rules)
    (now now₁ now₂ : Nat) (s : MotiveState) :
    let told := (motive s).update rules now (.message (.memory whole))
    let once := (motive s).update rules now₁ (.message (.memory first))
    let twice := once.state.update rules now₂ (.message (.memory second))
    (told.verdict = .ok true ↔ once.verdict = .ok true ∨ twice.verdict = .ok true) ∧
      (∀ bound, s.EndsAlias first bound →
        twice = ⟨once.state, .error (.addressMismatch s.kind.scope bound first.address)⟩) ∧
        ((∀ bound, ¬s.EndsAlias first bound) → twice.state.believed = told.state.believed) := by
  intro told once twice
  obtain ⟨hwhole, hnext⟩ := targets_of_madeUpOf h
  have hempty := h.isEmpty_fields
  cases haccept : s.profile.accept s.kind.scope (.message (.memory first)) with
  | error e =>
      have htold : told = ⟨motive s, .error e⟩ :=
        update_of_refused (c := motive s) ((Profile.accept_congr hwhole rfl).trans haccept)
      have honce : once = ⟨motive s, .error e⟩ := update_of_refused (c := motive s) haccept
      have htwice : twice = ⟨motive s, .error e⟩ := by
        simp only [twice, honce]
        exact update_of_refused (c := motive s) ((Profile.accept_congr hnext rfl).trans haccept)
      rw [htold, honce, htwice]
      refine ⟨by simp, fun bound hends => ?_, fun _ => rfl⟩
      rw [hends.accepted] at haccept
      cases haccept
  | ok q =>
      obtain ⟨last, htold⟩ := update_memory ((Profile.accept_congr hwhole rfl).trans haccept) rules now
      obtain ⟨last₁, honce⟩ := update_memory haccept rules now₁
      by_cases hends : ∃ bound, s.EndsAlias first bound
      · obtain ⟨bound, hends⟩ := hends
        have htwice : twice = _ := update_refused rules now₁ now₂ hends hnext
        have hfields : first.fields.isEmpty = false := by simpa using hends.fields_ne_nil
        refine ⟨?_, fun other hother => update_refused rules now₁ now₂ hother hnext,
          fun hnot => absurd hends (hnot bound)⟩
        simp [told, once, htold, honce, htwice, hempty, hfields]
      · have hkept : ∀ bound, ¬s.EndsAlias first bound := fun bound hbound => hends ⟨bound, hbound⟩
        obtain ⟨last₂, htwice⟩ := update_next rules now₁ now₂ haccept hkept hnext
        refine ⟨?_, fun bound hbound => absurd hbound (hkept bound), fun _ => ?_⟩
        · simp only [told, once, twice, htold, htwice]
          simp only [honce, hempty]
          cases first.fields.isEmpty <;> cases second.fields.isEmpty <;> simp
        · simp only [told, twice, once, htold, htwice, foldl_applyMemoryField_of_madeUpOf h, believed_lastTold]

/-- An engine is told the bytes from its speed to its momentum, those from the run level on first. -/
theorem told_in_parts_momentum :
    let whole : MemoryMessage := ⟨12, MemoryMessage.readFlags, 0, some .engine, 0x07, MemoryMessage.permanentPort, 18,
      [25, 0, 3, 0, 0, 0x43, 0, 0, 0, 0, 0, 0, 0, 0, 0, 0, 0, 54]⟩
    let first : MemoryMessage := { whole with start := 0x0C, dataLen := 13, data := whole.data.drop 5 }
    let second : MemoryMessage := { whole with dataLen := 5, data := whole.data.take 5 }
    let s : MotiveState := .fresh .engine (.fresh (some 12))
    let rules : Rules := ⟨.stock, .standard⟩
    let told := (motive s).update rules 0 (.message (.memory whole))
    let once := (motive s).update rules 4 (.message (.memory first))
    let twice := once.state.update rules 9 (.message (.memory second))
    whole.MadeUpOf first second ∧ (∀ bound, ¬s.EndsAlias first bound) ∧
      (told.verdict = .ok true ↔ once.verdict = .ok true ∨ twice.verdict = .ok true) ∧
        twice.state.believed = told.state.believed := by
  intro whole first second s rules told once twice
  have hparts : whole.MadeUpOf first second := Or.inr
    { recordNo_low := rfl
      recordNo_high := rfl
      scope_low := rfl
      scope_high := rfl
      start_low := rfl
      start_high := rfl
      data := rfl
      uncut := by decide +kernel }
  have hkept : ∀ bound, ¬s.EndsAlias first bound := fun bound h => h.other (Option.some.inj h.isBound).symm
  obtain ⟨hverdict, -, hbelieved⟩ := told_in_parts hparts rules 0 4 9 s
  exact ⟨hparts, hkept, hverdict, hbelieved hkept⟩

/-- An engine that is bound to 12 is sent to number 200, as its road number says, that its road number is 1234, and then
of what type it is. It does not learn its type, as it does when both come in one part. -/
theorem told_in_parts_misses :
    let whole : MemoryMessage := ⟨200, MemoryMessage.readFlags, 0, some .engine, 0x3F, MemoryMessage.permanentPort, 5,
      [0x31, 0x32, 0x33, 0x34, 5]⟩
    let first : MemoryMessage := { whole with dataLen := 4, data := whole.data.take 4 }
    let second : MemoryMessage := { whole with start := 0x43, dataLen := 1, data := whole.data.drop 4 }
    let s : MotiveState := .fresh .engine { Profile.fresh (some 12) with roadNumber := some "200" }
    let rules : Rules := ⟨.stock, .standard⟩
    let told := (motive s).update rules 0 (.message (.memory whole))
    let once := (motive s).update rules 0 (.message (.memory first))
    let twice := once.state.update rules 0 (.message (.memory second))
    whole.MadeUpOf first second ∧ told.verdict = .ok true ∧ once.verdict = .ok true ∧
      twice.verdict = .error (.addressMismatch .engine 12 200) ∧ twice.state.believed ≠ told.state.believed := by
  intro whole first second s rules told once twice
  have hparts : whole.MadeUpOf first second := Or.inl
    { recordNo_low := rfl
      recordNo_high := rfl
      scope_low := rfl
      scope_high := rfl
      start_low := rfl
      start_high := rfl
      data := rfl
      uncut := by decide +kernel }
  exact ⟨hparts, by decide +kernel, by decide +kernel, by decide +kernel, by decide +kernel⟩

end Component
end RailLayout
