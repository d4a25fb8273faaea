import RailLayout.Proofs.Record.Lists
import RailLayout.Record.Message

/-!
Records sent again. The record that is read from the bytes of another is known in full (`read_encode` for each
kind of record): fields that were not known have their defaults, and texts are cut to their fields. Sending a
record that was read from a frame once more changes nothing (`resent_resent`), and it changes nothing the first
time either if the frame held every fixed field and the texts fit (`resent_eq_of_read`).
-/

namespace RailLayout

namespace RecordLayout

/-- The texts of a record's head, with the widths of their fields. -/
def texts (name number : Option String) : List (Nat × String) :=
  [(nameWidth, name.getD ""), (numberWidth, number.getD "")]

theorem allReadable_texts {name number : Option String} :
    TextField.AllReadable (texts name number) ↔
      TextField.Readable (name.getD "") ∧ TextField.Readable (number.getD "") := by
  simp [TextField.AllReadable, texts]

theorem allFit_texts {name number : Option String} :
    TextField.AllFit (texts name number) ↔
      TextField.Fits nameWidth (name.getD "") ∧ TextField.Fits numberWidth (number.getD "") := by
  simp [TextField.AllFit, texts]

end RecordLayout

namespace MotiveRecord

/-- The consist flags of a record that is sent again. -/
def resentFlags (r : MotiveRecord) : MotiveKind → Option UInt8
  | .engine => none
  | .train => if r.consistFlags = none ∧ r.consist = [] then none else some (r.consistFlags.getD 0)

/-- The members of a record that is sent again. -/
def resentConsist (r : MotiveRecord) : MotiveKind → List ConsistMember
  | .engine => []
  | .train => Consist.read (Consist.write Consist.slots r.consist)

/-- The record that is read from the bytes of a record. -/
def resent (kind : MotiveKind) (r : MotiveRecord) : MotiveRecord where
  reverseLink := some (r.reverseLink.getD RecordLayout.newLink)
  forwardLink := some (r.forwardLink.getD RecordLayout.newLink)
  name := some (TextField.resent RecordLayout.nameWidth (r.name.getD ""))
  number := some (TextField.resent RecordLayout.numberWidth (r.number.getD ""))
  locoType := some (r.locoType.getD 0)
  controlType := some (r.controlType.getD 0)
  soundType := some (r.soundType.getD 0)
  classType := some (r.classType.getD 0)
  tsdbLeft := some (r.tsdbLeft.getD 0)
  tsdbRight := some (r.tsdbRight.getD 0)
  spare := some (r.spare.getD 0)
  speed := some (r.speed.getD 0)
  runLevel := some (r.runLevel.getD 0)
  laborBias := some (r.laborBias.getD 0)
  speedLimit := some (r.speedLimit.getD 0)
  maxSpeed := some (r.maxSpeed.getD 0)
  fuel := some (r.fuel.getD 0)
  water := some (r.water.getD 0)
  trainAddress := some (r.trainAddress.getD 0)
  trainPosition := some (r.trainPosition.getD 0)
  smoke := some (r.smoke.getD 0)
  ditch := some (r.ditch.getD 0)
  trainBrake := some (r.trainBrake.getD 0)
  momentum := some (r.momentum.getD 0)
  consistFlags := r.resentFlags kind
  consist := r.resentConsist kind

theorem readConsist_encodeConsist (kind : MotiveKind) (r : MotiveRecord) :
    Read.Gives (read.readConsist kind) (r.encodeConsist kind) (r.resentFlags kind, r.resentConsist kind) := by
  intro p
  cases kind with
  | engine => exact ⟨_, rfl⟩
  | train =>
      by_cases hnone : r.consistFlags = none ∧ r.consist = []
      · simp only [read.readConsist, encodeConsist, resentFlags, resentConsist, hnone.1, hnone.2, and_self,
          if_true, Read.bind_eq, Read.byte?_nil, Read.rest_eq, Read.pure_eq]
        exact ⟨_, rfl⟩
      · simp only [read.readConsist, encodeConsist, resentFlags, resentConsist, if_neg hnone, Read.bind_eq,
          Read.byte?_cons, Read.rest_eq, Read.pure_eq]
        exact ⟨_, rfl⟩

/-- What is read from the bytes of a record. -/
theorem read_encode (kind : MotiveKind) (r : MotiveRecord) :
    Read.Gives (read kind) (r.encode kind) (r.resent kind) := by
  intro p
  obtain ⟨last, hconsist⟩ := readConsist_encodeConsist kind r (p + 60)
  refine ⟨last, ?_⟩
  simp only [read, encode, RecordLayout.encodeHead, RecordLayout.nameWidth, RecordLayout.numberWidth,
    byteFields, List.map_cons, List.map_nil, List.append_assoc, List.cons_append, List.nil_append,
    Read.bind_eq, Read.byte?_cons, Read.textUpTo?_write, Nat.add_assoc, Nat.reduceAdd, hconsist, Read.pure_eq]
  rfl

theorem resent_resent (kind : MotiveKind) (r : MotiveRecord) :
    (r.resent kind).resent kind = r.resent kind := by
  have hconsist : (r.resent kind).resentConsist kind = r.resentConsist kind := by
    cases kind with
    | engine => rfl
    | train => exact Consist.read_write_read _
  have hflags : (r.resent kind).resentFlags kind = r.resentFlags kind := by
    cases kind with
    | engine => rfl
    | train =>
        by_cases hnone : r.consistFlags = none ∧ r.consist = []
        · simp only [resent, resentFlags, resentConsist, hnone.1, hnone.2, and_self, if_true]
          rfl
        · simp only [resent, resentFlags, if_neg hnone, reduceCtorEq, false_and, if_false, Option.getD_some]
  rw [resent, hconsist, hflags]
  simp only [resent, Option.getD_some, TextField.resent_resent]

/-- How many bytes a record has before its consist. -/
def fixedSize : Nat := 60

theorem exists_readConsist (kind : MotiveKind) (r : Reader) :
    ∃ flags members last, read.readConsist kind r = .ok ((flags, members), last) ∧
      ∀ m : MotiveRecord, m.consistFlags = flags → m.consist = members →
        m.resentFlags kind = flags ∧ m.resentConsist kind = members := by
  cases kind with
  | engine => exact ⟨none, [], r, rfl, fun m _ _ => ⟨rfl, rfl⟩⟩
  | train =>
      obtain ⟨position, bs⟩ := r
      cases bs with
      | nil =>
          refine ⟨none, [], _, rfl, fun m hflags hconsist => ?_⟩
          rw [resentFlags, resentConsist, hflags, hconsist]
          exact ⟨rfl, rfl⟩
      | cons b rest =>
          refine ⟨some b, Consist.read rest, _, rfl, fun m hflags hconsist => ?_⟩
          rw [resentFlags, resentConsist, hflags, hconsist]
          exact ⟨rfl, Consist.read_write_read rest⟩

theorem allReadable_of_read {kind : MotiveKind} {r last : Reader} {m : MotiveRecord}
    (h : read kind r = .ok (m, last)) : TextField.AllReadable (RecordLayout.texts m.name m.number) := by
  simp only [read, RecordLayout.nameWidth, RecordLayout.numberWidth, Read.bind_eq, Read.byte?_eq,
    Read.textUpTo?_eq, Reader.drop_drop, Reader.rest_drop, List.getElem?_drop, Nat.reduceAdd] at h
  obtain ⟨flags, members, rest, hconsist, -⟩ := exists_readConsist kind _
  rw [hconsist] at h
  cases h
  exact RecordLayout.allReadable_texts.mpr
    ⟨TextField.readable_textUpTo _ _, TextField.readable_textUpTo _ _⟩

/-- A record of which every fixed field was there comes back, unless a text does not fit. -/
theorem resent_eq_of_read {kind : MotiveKind} {r last : Reader} {m : MotiveRecord}
    (h : read kind r = .ok (m, last)) (hwhole : fixedSize ≤ r.rest.length)
    (hfits : TextField.AllFit (RecordLayout.texts m.name m.number)) : m.resent kind = m := by
  simp only [read, RecordLayout.nameWidth, RecordLayout.numberWidth, Read.bind_eq, Read.byte?_eq,
    Read.textUpTo?_eq, Reader.drop_drop, Reader.rest_drop, List.getElem?_drop, Nat.reduceAdd] at h
  obtain ⟨flags, members, rest, hconsist, hsame⟩ := exists_readConsist kind _
  rw [hconsist] at h
  obtain ⟨hflags, hmembers⟩ := hsame m (by cases h; rfl) (by cases h; rfl)
  obtain ⟨hname, hnumber⟩ := RecordLayout.allFit_texts.mp hfits
  have hbyte : ∀ n, n < 60 → ∀ b : UInt8, some (r.rest[n]?.getD b) = r.rest[n]? := by
    intro n hn b
    rw [List.getElem?_eq_getElem (Nat.lt_of_lt_of_le hn hwhole)]
    rfl
  have hthere : ∀ n, n < 60 → r.rest.drop n ≠ [] := by
    intro n hn hempty
    exact absurd (List.drop_eq_nil_iff.mp hempty) (Nat.not_le_of_lt (Nat.lt_of_lt_of_le hn hwhole))
  have hsameName : some (TextField.resent RecordLayout.nameWidth (m.name.getD "")) = m.name := by
    cases h
    exact TextField.some_resent_getD (hthere 2 (by decide)) hname
  have hsameNumber : some (TextField.resent RecordLayout.numberWidth (m.number.getD "")) = m.number := by
    cases h
    exact TextField.some_resent_getD (hthere 35 (by decide)) hnumber
  rw [resent, hflags, hmembers, hsameName, hsameNumber]
  cases h
  simp (disch := decide) only [hbyte]

end MotiveRecord

namespace FixtureRecord

/-- The record that is read from the bytes of a record of a kind. -/
def resent (kind : FixtureKind) (r : FixtureRecord) : FixtureRecord :=
  let reverseLink := some (r.reverseLink.getD RecordLayout.newLink)
  let forwardLink := some (r.forwardLink.getD RecordLayout.newLink)
  let name := some (TextField.resent RecordLayout.nameWidth (r.name.getD ""))
  let number := some (TextField.resent RecordLayout.numberWidth (r.number.getD ""))
  let route :=
    if kind = .route ∧ RecordLayout.isUsed reverseLink forwardLink name number = true then
      stepsOf maxSteps (encodeSteps r.route)
    else []
  ⟨reverseLink, forwardLink, name, number, route⟩

/-- What is read from the bytes of a record. -/
theorem read_encode (kind : FixtureKind) (r : FixtureRecord) :
    Read.Gives (read kind) r.encode (r.resent kind) := by
  intro p
  have hencode : r.encode = RecordLayout.encodeHead r.reverseLink r.forwardLink r.name r.number ++
      encodeSteps r.route := rfl
  rw [hencode]
  simp only [read, RecordLayout.encodeHead, RecordLayout.nameWidth, RecordLayout.numberWidth,
    List.append_assoc, List.cons_append, List.nil_append, Read.bind_eq, Read.byte?_cons,
    Read.textUpTo?_write, Nat.reduceAdd, Read.rest_eq, Read.pure_eq]
  exact ⟨_, rfl⟩

theorem resent_resent (kind : FixtureKind) (r : FixtureRecord) :
    (r.resent kind).resent kind = r.resent kind := by
  simp only [resent, Option.getD_some, TextField.resent_resent]
  split
  · rw [stepsOf_encodeSteps]
  · rfl

theorem allReadable_of_read {kind : FixtureKind} {r last : Reader} {m : FixtureRecord}
    (h : read kind r = .ok (m, last)) : TextField.AllReadable (RecordLayout.texts m.name m.number) := by
  simp only [read, Read.bind_eq, Read.byte?_eq, Read.textUpTo?_eq, Read.rest_eq, Read.pure_eq] at h
  cases h
  exact RecordLayout.allReadable_texts.mpr
    ⟨TextField.readable_textUpTo _ _, TextField.readable_textUpTo _ _⟩

/-- A record that had at least part of a number comes back, unless a text does not fit. -/
theorem resent_eq_of_read {kind : FixtureKind} {r last : Reader} {m : FixtureRecord}
    (h : read kind r = .ok (m, last)) (hwhole : 35 < r.rest.length)
    (hfits : TextField.AllFit (RecordLayout.texts m.name m.number)) : m.resent kind = m := by
  simp only [read, RecordLayout.nameWidth, RecordLayout.numberWidth, Read.bind_eq, Read.byte?_eq,
    Read.textUpTo?_eq, Reader.drop_drop, Reader.rest_drop, List.getElem?_drop, Nat.reduceAdd,
    Read.rest_eq, Read.pure_eq] at h
  obtain ⟨hname, hnumber⟩ := RecordLayout.allFit_texts.mp hfits
  have hreverse : some (m.reverseLink.getD RecordLayout.newLink) = m.reverseLink := by
    cases h
    exact Read.some_getD_getElem? (by omega) _
  have hforward : some (m.forwardLink.getD RecordLayout.newLink) = m.forwardLink := by
    cases h
    exact Read.some_getD_getElem? (by omega) _
  have hsameName : some (TextField.resent RecordLayout.nameWidth (m.name.getD "")) = m.name := by
    cases h
    exact TextField.some_resent_getD (Read.drop_ne_nil (by omega)) hname
  have hsameNumber : some (TextField.resent RecordLayout.numberWidth (m.number.getD "")) = m.number := by
    cases h
    exact TextField.some_resent_getD (Read.drop_ne_nil (by omega)) hnumber
  have hsteps : m.route = if kind = .route ∧ m.isUsed = true then stepsOf maxSteps (r.rest.drop 40) else [] := by
    cases h
    rfl
  have hroute : (if kind = .route ∧ m.isUsed = true then stepsOf maxSteps (encodeSteps m.route) else []) =
      m.route := by
    by_cases hused : kind = .route ∧ m.isUsed = true
    · rw [if_pos hused] at hsteps ⊢
      rw [hsteps, stepsOf_encodeSteps]
    · rw [if_neg hused] at hsteps ⊢
      exact hsteps.symm
  rw [isUsed] at hroute
  simp only [resent, hreverse, hforward, hsameName, hsameNumber, hroute]

end FixtureRecord

namespace Seconds

theorem throwRate_bounds (s : Seconds) : 1 ≤ s.throwRate ∧ s.throwRate ≤ slowest := by
  unfold throwRate
  by_cases hfast : (s.negative = false ∨ s.units = 0) ∧ s.units < 2 * one
  · have hquarters : 4 * s.units / one < 8 := by
      rw [Nat.div_lt_iff_lt_mul (by decide)]
      have := hfast.2
      omega
    rw [if_pos hfast]
    generalize 4 * s.units / one = quarters at hquarters
    have hbyte : (quarters + 1).toUInt8.toNat = quarters + 1 := Nat.mod_eq_of_lt (by omega)
    rw [UInt8.le_iff_toNat_le, UInt8.le_iff_toNat_le, hbyte]
    exact ⟨show 1 ≤ quarters + 1 by omega, show quarters + 1 ≤ 9 by omega⟩
  · rw [if_neg hfast]
    decide

theorem ofThrowRate?_ofQuarters :
    ∀ n < 9, ofThrowRate? (ofQuarters n).throwRate = some (ofQuarters n) := by
  decide

theorem ofThrowRate?_throwRate {b : UInt8} {s : Seconds} (h : ofThrowRate? b = some s) :
    ofThrowRate? s.throwRate = some s := by
  unfold ofThrowRate? at h
  split at h
  · rename_i hbounds
    cases h
    have hle : b.toNat ≤ 9 := UInt8.le_iff_toNat_le.mp hbounds.2
    exact ofThrowRate?_ofQuarters (b.toNat - 1) (by omega)
  · cases h

end Seconds

namespace BaseRecord

/-- The texts of a record, with the widths of their fields. -/
def texts (r : BaseRecord) : List (Nat × String) := [(RecordLayout.nameWidth, r.name.getD "")]

/-- The record that is read from the bytes of a record. -/
def resent (r : BaseRecord) : BaseRecord where
  firmwareHigh := some (r.firmwareHigh.getD 0)
  firmwareLow := some (r.firmwareLow.getD 0)
  throwRate := Seconds.ofThrowRate? (r.throwRate.getD defaultThrowRate).throwRate
  name := some (TextField.resent RecordLayout.nameWidth (r.name.getD ""))

/-- What is read from the bytes of a record. -/
theorem read_encode (r : BaseRecord) : Read.Gives read r.encode r.resent := by
  intro p
  have hname : (TextField.write RecordLayout.nameWidth (r.name.getD "")).isEmpty = false := by
    rw [List.isEmpty_eq_false_iff, ← List.length_pos_iff, TextField.length_write]
    decide
  simp only [read, encode, List.cons_append, List.nil_append, Read.bind_eq, Read.byte?_cons, Read.rest_eq,
    Read.pure_eq, hname]
  exact ⟨_, rfl⟩

theorem resent_resent (r : BaseRecord) : r.resent.resent = r.resent := by
  obtain ⟨rate, hrate⟩ : ∃ rate, Seconds.ofThrowRate? (r.throwRate.getD defaultThrowRate).throwRate = some rate :=
    ⟨_, if_pos (Seconds.throwRate_bounds _)⟩
  simp only [resent, Option.getD_some, TextField.resent_resent, hrate,
    Seconds.ofThrowRate?_throwRate hrate]

theorem allReadable_of_read {r last : Reader} {m : BaseRecord} (h : read r = .ok (m, last)) :
    TextField.AllReadable m.texts := by
  simp only [read, Read.bind_eq, Read.byte?_eq, Read.rest_eq, Read.pure_eq] at h
  cases h
  intro t ht
  rw [texts, List.mem_singleton] at ht
  subst ht
  show TextField.Readable (Option.getD _ "")
  split
  · exact TextField.readable_empty
  · exact TextField.readable_read _

/-- A record that had at least part of a name and a throw rate that means one comes back, unless the name does
not fit. -/
theorem resent_eq_of_read {r last : Reader} {m : BaseRecord} (h : read r = .ok (m, last))
    (hwhole : 3 < r.rest.length) (hrate : m.throwRate ≠ none) (hfits : TextField.AllFit m.texts) :
    m.resent = m := by
  have hname : TextField.Readable (m.name.getD "") := allReadable_of_read h _ List.mem_cons_self
  have hfit : TextField.Fits RecordLayout.nameWidth (m.name.getD "") := hfits _ List.mem_cons_self
  simp only [read, Read.bind_eq, Read.byte?_eq, Read.rest_eq, Read.pure_eq, Reader.drop_drop, Reader.rest_drop,
    List.getElem?_drop, Nat.reduceAdd] at h
  have hhigh : some (m.firmwareHigh.getD 0) = m.firmwareHigh := by
    cases h
    exact Read.some_getD_getElem? (by omega) _
  have hlow : some (m.firmwareLow.getD 0) = m.firmwareLow := by
    cases h
    exact Read.some_getD_getElem? (by omega) _
  obtain ⟨rate, hknown⟩ := Option.ne_none_iff_exists'.mp hrate
  have hsameRate : Seconds.ofThrowRate? (m.throwRate.getD defaultThrowRate).throwRate = m.throwRate := by
    have hread : (r.rest[2]?).bind Seconds.ofThrowRate? = some rate := by
      rw [← hknown]
      cases h
      rfl
    obtain ⟨byte, -, hmeans⟩ := Option.bind_eq_some_iff.mp hread
    rw [hknown]
    exact Seconds.ofThrowRate?_throwRate hmeans
  have hsameName : some (TextField.resent RecordLayout.nameWidth (m.name.getD "")) = m.name := by
    rw [TextField.resent_of_fits hname hfit]
    cases h
    rw [if_neg (by simpa using Read.drop_ne_nil hwhole)]
    rfl
  rw [resent, hhigh, hlow, hsameRate, hsameName]

end BaseRecord
end RailLayout
