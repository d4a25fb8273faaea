import RailLayout.Proofs.State.Feed

/-!
The Base, rebuilt from what brings a fresh state to it. Parts of its own record that are not known are sent with
defaults and come back known, so the Base that was rebuilt knows more; but its record has the same bytes, and the
figures of both databases come back as they are (`BaseState.takes_script`).
-/

namespace RailLayout

variable {rules : Rules} {now : Nat} {u : Update}

namespace BaseRecord

/-- A record with the defaults that are sent for what is not known. -/
def filled (r : BaseRecord) : BaseRecord :=
  ⟨some (r.firmwareHigh.getD 0), some (r.firmwareLow.getD 0), some (r.throwRate.getD defaultThrowRate), r.name⟩

theorem encode_filled (r : BaseRecord) : r.filled.encode = r.encode := rfl

theorem ofThrowRate?_getD {rate : Option Seconds} (h : RateKept rate) :
    Seconds.ofThrowRate? (rate.getD defaultThrowRate).throwRate = some (rate.getD defaultThrowRate) := by
  cases rate with
  | none => exact Seconds.ofThrowRate?_ofQuarters 8 (by decide)
  | some s => exact h s rfl

theorem rateKept_or {rate known : Option Seconds} (h : RateKept rate) (hknown : RateKept known) :
    RateKept (rate.or known) := by
  intro s hs
  rcases Option.or_eq_some_iff.mp hs with hnew | ⟨-, hold⟩
  · exact h s hnew
  · exact hknown s hold

end BaseRecord

namespace BaseState

variable {s t : BaseState}

/-- What the Base keeps to that heard nothing but commands and messages from frames. -/
structure Kept (s : BaseState) : Prop where
  named : s.profile.Named
  rate : BaseRecord.RateKept s.throwRate

theorem kept_setFigures (h : Kept s) (database : MotiveKind) (figures : DatabaseFigures) :
    Kept (s.setFigures database figures) := by
  cases database <;> exact { h with }

theorem kept_applyMessage? (h : Kept s) {m : Message} (hm : m.Spoken) (ht : applyMessage? m s = some t) : Kept t := by
  rcases applyMessage?_cases ht with ⟨r, valid, info, rfl, hcontents, rfl⟩ | ⟨database, figures, rfl⟩
  · have hspoken : r.contents.Spoken := hm
    rw [hcontents] at hspoken
    obtain ⟨hname, hrate⟩ := hspoken
    exact ⟨Profile.named_bindNames h.named hname TextField.readable_empty, BaseRecord.rateKept_or hrate h.rate⟩
  · exact kept_setFigures h database figures

theorem kept_apply (h : Kept s) (hu : u.Spoken) (now : Nat) : Kept (apply now u s).1 := by
  unfold apply
  split
  · exact h
  · split
    · rename_i m t hmessage
      have hkept : Kept t := kept_applyMessage? h hu hmessage
      exact { hkept with named := { hkept.named with } }
    · exact h

theorem kept_update (h : Kept s) (hu : u.Spoken) (now : Nat) : Kept (s.update now u).state := by
  cases haccept : s.profile.accept .base u with
  | error e =>
      rw [update, haccept]
      exact h
  | ok q =>
      rw [update_of_accept haccept]
      exact kept_apply (s := { s with profile := q }) { h with named := Profile.named_of_accept h.named haccept } hu now

theorem update_bound (hbound : s.profile.address = some address) (htarget : u.target? = some (.base, address))
    (rules : Rules) (now : Nat) :
    (Component.base s).update rules now u = ⟨.base (apply now u s).1, .ok (apply now u s).2⟩ := by
  rw [Component.update, update_of_accept (Profile.accept_bound hbound htarget)]
  rfl

/-! ## What is sent -/

def recordMessage (s : BaseState) : RecordMessage :=
  ⟨0, RecordMessage.writeFlags, 0, 0, .base recordMask s.toRecord⟩

def infoUpdates (s : BaseState) : List Update := if s.hasInfo then [.message (.record s.recordMessage)] else []

def countUpdates (figures : DatabaseFigures) (database : MotiveKind) : List Update :=
  (figures.count.map fun n => Update.message (.fourDigit (.about database 0 (.count 0 (some n))))).toList

def firstUpdates (figures : DatabaseFigures) (database : MotiveKind) : List Update :=
  (figures.firstRecord.map fun n => Update.message (.fourDigit (.about database n .firstRecord))).toList

theorem script_eq (s : BaseState) : s.script = s.infoUpdates ++ s.figureUpdates .engine ++ s.figureUpdates .train := rfl

theorem figureUpdates_eq (s : BaseState) (database : MotiveKind) :
    s.figureUpdates database =
      countUpdates (s.figures database) database ++ firstUpdates (s.figures database) database :=
  rfl

theorem sendable_figureUpdates (s : BaseState) (database : MotiveKind) :
    ∀ u ∈ s.figureUpdates database, u.Sendable := by
  have hfamily : (FourDigitMessage.codeOf database).family = .fourDigit := by cases database <;> rfl
  intro u hu
  rw [figureUpdates_eq] at hu
  rcases List.mem_append.mp hu with hcount | hfirst
  · obtain ⟨n, -, rfl⟩ := Option.map_eq_some_iff.mp (Option.mem_toList.mp hcount)
    exact Update.sendable_fourDigit hfamily trivial
  · obtain ⟨n, -, rfl⟩ := Option.map_eq_some_iff.mp (Option.mem_toList.mp hfirst)
    exact Update.sendable_fourDigit hfamily trivial

theorem sendable_script (s : BaseState) : ∀ u ∈ s.script, u.Sendable := by
  intro u hu
  rw [script_eq] at hu
  rcases List.mem_append.mp hu with hu | htrains
  · rcases List.mem_append.mp hu with hinfo | hengines
    · unfold infoUpdates at hinfo
      split at hinfo
      · rw [List.mem_singleton.mp hinfo]
        exact Update.sendable_record _
      · exact absurd hinfo List.not_mem_nil
    · exact sendable_figureUpdates s .engine u hengines
  · exact sendable_figureUpdates s .train u htrains

/-! ## What comes back -/

/-- Whether a state differs from another one only in the figures of a database. -/
structure Refigured (s t : BaseState) (database : MotiveKind) (figures : DatabaseFigures) : Prop where
  address : t.profile.address = s.profile.address
  roadNumber : t.profile.roadNumber = s.profile.roadNumber
  figures : t.figures database = figures
  others : ∀ other, other ≠ database → t.figures other = s.figures other
  toRecord : t.toRecord = s.toRecord

theorem refigured_setFigures (s : BaseState) (database : MotiveKind) (figures : DatabaseFigures) (u : Update)
    (now : Nat) :
    Refigured s { s.setFigures database figures with profile := (s.setFigures database figures).profile.record u now }
      database figures := by
  cases database with
  | engine => exact ⟨rfl, rfl, rfl, fun other hother => by cases other <;> trivial, rfl⟩
  | train => exact ⟨rfl, rfl, rfl, fun other hother => by cases other <;> trivial, rfl⟩

theorem database_about (database : MotiveKind) (recordNo : UInt16) (lookup : Lookup) :
    (FourDigitMessage.about database recordNo lookup).database = database := by
  cases database <;> rfl

theorem takes_countUpdates (hbound : t.profile.address = some address) (database : MotiveKind)
    (hunknown : t.figures database = .unknown) (figures : DatabaseFigures) :
    Component.Takes rules (fun d => ∃ t', d = .base t' ∧ Refigured t t' database ⟨figures.count, none⟩)
      ((countUpdates figures database).map Update.resent) (.base t) := by
  unfold countUpdates
  cases figures.count with
  | none => exact ⟨t, rfl, rfl, rfl, hunknown, fun _ _ => rfl, rfl⟩
  | some n =>
      intro now
      have hmessage : applyMessage? (.fourDigit (.about database 0 (.count 0 (some n)))) t =
          some (t.setFigures database ⟨some n, none⟩) := by
        show some (t.setFigures (FourDigitMessage.database _)
          { t.figures (FourDigitMessage.database _) with count := some n }) = _
        rw [database_about, hunknown]
        rfl
      have hupdate :=
        update_bound (u := .message (.fourDigit (.about database 0 (.count 0 (some n))))) hbound rfl rules now
      rw [apply, hmessage] at hupdate
      exact ⟨_, _, hupdate, _, rfl, refigured_setFigures t database ⟨some n, none⟩ _ now⟩

theorem takes_firstUpdates (hbound : t.profile.address = some address) (database : MotiveKind)
    {figures : DatabaseFigures} (hcounted : t.figures database = ⟨figures.count, none⟩) :
    Component.Takes rules (fun d => ∃ t', d = .base t' ∧ Refigured t t' database figures)
      ((firstUpdates figures database).map Update.resent) (.base t) := by
  obtain ⟨count, firstRecord⟩ := figures
  unfold firstUpdates
  cases firstRecord with
  | none => exact ⟨t, rfl, rfl, rfl, hcounted, fun _ _ => rfl, rfl⟩
  | some n =>
      intro now
      have hmessage : applyMessage? (.fourDigit (.about database n .firstRecord)) t =
          some (t.setFigures database ⟨count, some n⟩) := by
        show some (t.setFigures (FourDigitMessage.database _)
          { t.figures (FourDigitMessage.database _) with firstRecord := some n }) = _
        rw [database_about, hcounted]
      have hupdate := update_bound (u := .message (.fourDigit (.about database n .firstRecord))) hbound rfl rules now
      rw [apply, hmessage] at hupdate
      exact ⟨_, _, hupdate, _, rfl, refigured_setFigures t database ⟨count, some n⟩ _ now⟩

theorem refigured_trans {r : BaseState} {database : MotiveKind} {first second : DatabaseFigures}
    (h : Refigured r s database first) (h' : Refigured s t database second) : Refigured r t database second where
  address := h'.address.trans h.address
  roadNumber := h'.roadNumber.trans h.roadNumber
  figures := h'.figures
  others other hother := (h'.others other hother).trans (h.others other hother)
  toRecord := h'.toRecord.trans h.toRecord

/-- The figures of a database come back, and nothing else changes. -/
theorem takes_figureUpdates (hbound : t.profile.address = some address) (database : MotiveKind)
    (hunknown : t.figures database = .unknown) (s : BaseState) :
    Component.Takes rules (fun d => ∃ t', d = .base t' ∧ Refigured t t' database (s.figures database))
      ((s.figureUpdates database).map Update.resent) (.base t) := by
  rw [figureUpdates_eq, List.map_append]
  refine Component.takes_append
    (Component.takes_imp (takes_countUpdates hbound database hunknown (s.figures database)) ?_)
  rintro d ⟨counted, rfl, hcounted⟩
  refine Component.takes_imp (takes_firstUpdates (hcounted.address.trans hbound) database hcounted.figures) ?_
  rintro d ⟨t', rfl, hfirst⟩
  exact ⟨t', rfl, refigured_trans hcounted hfirst⟩

theorem hasInfo_congr (h : t.toRecord = s.toRecord) : t.hasInfo = s.hasInfo := by
  simp only [toRecord, BaseRecord.mk.injEq] at h
  simp only [hasInfo, h]

theorem toRecord_applyInfo (r : BaseRecord) (s : BaseState) :
    (applyInfo r s).toRecord =
      ⟨r.firmwareHigh.or s.firmwareHigh, r.firmwareLow.or s.firmwareLow, r.throwRate.or s.throwRate,
        (Profile.trimmed? r.name).or s.profile.roadName⟩ := rfl

theorem toRecord_applyInfo_resent (h : Kept s) (hfits : s.profile.NamesFit) :
    (applyInfo s.toRecord.resent fresh).toRecord = s.toRecord.filled := by
  have hname := Profile.trimmed?_resent h.named.name hfits.name
  have hrate := BaseRecord.ofThrowRate?_getD h.rate
  rw [toRecord_applyInfo]
  simp only [BaseRecord.resent, BaseRecord.filled, toRecord, fresh, Profile.fresh, Option.or_none, hname, hrate]

/-- The record that is known after what is sent for the Base's own record. -/
def reread (s : BaseState) : BaseRecord :=
  if s.hasInfo then (applyInfo s.toRecord.resent fresh).toRecord else fresh.toRecord

/-- A Base of which nothing is known but a record. -/
structure Holds (t : BaseState) (r : BaseRecord) : Prop where
  address : t.profile.address = some address
  roadNumber : t.profile.roadNumber = none
  figures : ∀ database, t.figures database = .unknown
  toRecord : t.toRecord = r

/-- A fresh Base takes over the record that a message holds. -/
theorem update_info {m : RecordMessage} {valid : UInt32} {r : BaseRecord} (hcontents : m.contents = .base valid r)
    (hstatus : m.status = 0) (rules : Rules) (now : Nat) :
    ∃ t, (Component.base fresh).update rules now (.message (.record m)) = ⟨.base t, .ok true⟩ ∧
      t.Holds (applyInfo r fresh).toRecord := by
  obtain ⟨recordNo, flags, status, spare, contents⟩ := m
  cases hcontents
  cases hstatus
  exact ⟨_, update_bound (s := fresh) rfl rfl rules now, rfl, rfl, fun database => by cases database <;> rfl, rfl⟩

theorem takes_infoUpdates (s : BaseState) :
    Component.Takes rules (fun d => ∃ t : BaseState, d = .base t ∧ t.Holds s.reread)
      (s.infoUpdates.map Update.resent) (.base fresh) := by
  unfold infoUpdates reread
  by_cases hinfo : s.hasInfo = true
  · rw [if_pos hinfo, if_pos hinfo]
    intro now
    obtain ⟨t, hupdate, ht⟩ := update_info (m := s.recordMessage.resent) (r := s.toRecord.resent) rfl rfl rules now
    exact ⟨_, _, hupdate, t, rfl, ht⟩
  · rw [if_neg hinfo, if_neg hinfo]
    exact ⟨fresh, rfl, rfl, rfl, fun database => by cases database <;> rfl, rfl⟩

/-- A fresh Base refuses nothing that is sent for another one, and comes to know its record, as it is read again, and
its figures. -/
theorem takes_reread (s : BaseState) :
    Component.Takes rules
      (fun d => ∃ t : BaseState, d = .base t ∧ t.profile.roadNumber = none ∧ t.toRecord = s.reread ∧
        ∀ database, t.figures database = s.figures database)
      (s.script.map Update.resent) (.base fresh) := by
  have hresent : s.script.map Update.resent = s.infoUpdates.map Update.resent ++
      ((s.figureUpdates .engine).map Update.resent ++ (s.figureUpdates .train).map Update.resent) := by
    rw [script_eq, List.map_append, List.map_append, List.append_assoc]
  rw [hresent]
  refine Component.takes_append (Component.takes_imp (takes_infoUpdates s) ?_)
  rintro d ⟨informed, rfl, hinformed⟩
  refine Component.takes_append
    (Component.takes_imp (takes_figureUpdates hinformed.address .engine (hinformed.figures .engine) s) ?_)
  rintro d ⟨counted, rfl, hengines⟩
  have htrains : counted.figures .train = .unknown := (hengines.others .train (by decide)).trans (hinformed.figures .train)
  refine Component.takes_imp (takes_figureUpdates (hengines.address.trans hinformed.address) .train htrains s) ?_
  rintro d ⟨t, rfl, hlast⟩
  refine ⟨t, rfl, (hlast.roadNumber.trans hengines.roadNumber).trans hinformed.roadNumber,
    (hlast.toRecord.trans hengines.toRecord).trans hinformed.toRecord, fun database => ?_⟩
  cases database with
  | engine => exact (hlast.others .engine (by decide)).trans hengines.figures
  | train => exact hlast.figures

/-- The Base's own record comes back with the defaults filled in. -/
theorem reread_encode (h : Kept s) (hfits : s.profile.NamesFit) (hrecord : t.toRecord = s.reread) :
    t.hasInfo = s.hasInfo ∧ t.toRecord.encode = s.toRecord.encode := by
  unfold reread at hrecord
  by_cases hinfo : s.hasInfo = true
  · rw [if_pos hinfo, toRecord_applyInfo_resent h hfits] at hrecord
    have hknown : t.firmwareHigh = some _ := congrArg BaseRecord.firmwareHigh hrecord
    refine ⟨?_, by rw [hrecord, BaseRecord.encode_filled]⟩
    rw [hinfo, hasInfo, hknown, Option.isSome_some, Bool.or_true, Bool.true_or, Bool.true_or]
  · -- Nothing is sent for the record, since the Base knows as little of it as a fresh one.
    have hnothing : s.toRecord = fresh.toRecord := by
      simp only [hasInfo, Bool.or_eq_true, not_or, Bool.not_eq_true, Option.isSome_eq_false_iff,
        Option.isNone_iff_eq_none] at hinfo
      simp only [toRecord, hinfo]
      rfl
    rw [if_neg hinfo, ← hnothing] at hrecord
    exact ⟨hasInfo_congr hrecord, congrArg BaseRecord.encode hrecord⟩

theorem encodeAll_script_congr {σ : Type} (codec : Codec σ) (hinfo : t.hasInfo = s.hasInfo)
    (hrecord : t.toRecord.encode = s.toRecord.encode) (hfigures : ∀ database, t.figures database = s.figures database) :
    Update.encodeAll codec t.script = Update.encodeAll codec s.script := by
  have hsame : ∀ database, t.figureUpdates database = s.figureUpdates database := by
    intro database
    rw [figureUpdates_eq, figureUpdates_eq, hfigures]
  have hmessage : (Message.record t.recordMessage).encode = (Message.record s.recordMessage).encode := by
    have hcontents : t.recordMessage.contents.encode = s.recordMessage.contents.encode :=
      congrArg (Payload.le16 (RecordContents.lowWord recordMask) ++ ·) hrecord
    show Frame.encode ⟨_, _ ++ t.recordMessage.contents.encode⟩ = Frame.encode ⟨_, _ ++ s.recordMessage.contents.encode⟩
    rw [hcontents]
    rfl
  rw [script_eq, script_eq, hsame, hsame, infoUpdates, infoUpdates, hinfo]
  by_cases hknown : s.hasInfo = true
  · rw [if_pos hknown, if_pos hknown]
    exact Update.encodeAll_cons_congr hmessage _
  · rw [if_neg hknown, if_neg hknown]

/-- A fresh Base refuses nothing that is sent for another one, and what is sent for it afterwards has the same bytes. -/
theorem takes_script (h : Kept s) (hfits : s.profile.NamesFit) :
    Component.Takes rules (fun d => ∀ (σ : Type) (codec : Codec σ), d.encode codec = Update.encodeAll codec s.script)
      (s.script.map Update.resent) (.base fresh) := by
  refine Component.takes_imp (takes_reread s) ?_
  rintro d ⟨t, rfl, -, hrecord, hfigures⟩ σ codec
  obtain ⟨hinfo, hencode⟩ := reread_encode h hfits hrecord
  exact encodeAll_script_congr codec hinfo hencode hfigures

end BaseState
end RailLayout
