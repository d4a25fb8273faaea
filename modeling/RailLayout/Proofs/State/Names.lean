import Mathlib.Data.List.DropRight
import RailLayout.Proofs.Message.Spoken
import RailLayout.Proofs.State.Accept
import RailLayout.Proofs.Store.Script

/-!
Names and numbers of components, taken over from messages and sent again. A component takes over a text without the
blanks around it, so the text that it holds can be held by a field and is taken over as it is
(`Profile.named_bindNames`). Hence a name and a number that fit their fields come back from the record that they are
sent in (`Profile.agrees_rebuilt`).
-/

namespace RailLayout

namespace Text

theorem trimStart_trimEnd {cs : List Char} (h : trimStart cs = cs) : trimStart (trimEnd cs) = trimEnd cs := by
  cases cs with
  | nil => rfl
  | cons c rest =>
      have hink : ¬isBlank c = true := by
        intro hblank
        have hlength := congrArg List.length h
        rw [trimStart, List.dropWhile_cons_of_pos hblank] at hlength
        have hle := (List.dropWhile_sublist (l := rest) isBlank).length_le
        rw [List.length_cons] at hlength
        omega
      obtain ⟨dropped, hkept⟩ := trimEnd_prefix (c :: rest)
      cases hinner : trimEnd (c :: rest) with
      | nil => rfl
      | cons d more =>
          rw [hinner, List.cons_append, List.cons.injEq] at hkept
          rw [trimStart, List.dropWhile_cons_of_neg (by rw [hkept.1]; exact hink)]

theorem trim_trim (cs : List Char) : trim (trim cs) = trim cs := by
  have hstart : trimStart (trimStart cs) = trimStart cs := List.dropWhile_idempotent isBlank cs
  rw [trim, trim, trimStart_trimEnd hstart, trimEnd_trimEnd]

theorem trim_sublist (cs : List Char) : (trim cs).Sublist cs :=
  (Text.trimEnd_prefix _).sublist.trans (List.dropWhile_sublist isBlank)

end Text

/-- A link that is not known is sent as that of a new record, so the record counts as used. -/
theorem RecordLayout.isUsed_newLink (forwardLink : Option UInt8) (name number : Option String) :
    isUsed (some newLink) forwardLink name number = true := by
  have hlink : (some newLink == some noLink) = false := by decide
  rw [isUsed, hlink, Bool.false_and, Bool.false_and, Bool.false_and, Bool.not_false]

theorem FixtureRecord.route_resent {r : FixtureRecord} (hlink : r.reverseLink = none) (hsteps : StepsKept r.route) :
    (resent .route r).route = r.route := by
  have hused : FixtureKind.route = FixtureKind.route ∧
      RecordLayout.isUsed (some (r.reverseLink.getD RecordLayout.newLink))
        (some (r.forwardLink.getD RecordLayout.newLink)) (some (TextField.resent RecordLayout.nameWidth (r.name.getD "")))
          (some (TextField.resent RecordLayout.numberWidth (r.number.getD ""))) = true := by
    rw [hlink]
    exact ⟨rfl, RecordLayout.isUsed_newLink _ _ _⟩
  exact (if_pos hused).trans hsteps

namespace Profile

variable {p q : Profile}

/-- Whether a component that takes over a text takes it over as it is, and so does a field. -/
structure Settled (text : String) : Prop where
  readable : TextField.Readable text
  taken : trimmed? (some text) = some text

theorem settled_of_trimmed? {text : Option String} {t : String} (h : trimmed? text = some t)
    (hzero : ∀ r, text = some r → Char.ofNat 0 ∉ r.toList) : Settled t := by
  cases text with
  | none => cases h
  | some r =>
      unfold trimmed? at h
      dsimp only at h
      split at h
      · cases h
      · rename_i hink
        cases h
        refine ⟨⟨?_, ?_⟩, ?_⟩
        · rw [String.toList_ofList]
          exact fun hmem => hzero r rfl ((Text.trim_sublist _).subset hmem)
        · rw [String.toList_ofList, Text.trim, Text.trimEnd_trimEnd]
        · simp only [trimmed?, String.toList_ofList, Text.trim_trim, hink, Bool.false_eq_true, if_false]

/-- What the names of a component keep to. -/
structure Named (p : Profile) : Prop where
  name : ∀ t, p.roadName = some t → Settled t
  number : ∀ t, p.roadNumber = some t → Settled t

/-- Whether the name and the number of a component fit the fields of its record. -/
structure NamesFit (p : Profile) : Prop where
  name : ∀ t, p.roadName = some t → TextField.Fits RecordLayout.nameWidth t
  number : ∀ t, p.roadNumber = some t → TextField.Fits RecordLayout.numberWidth t

theorem namesFit_of_eq_none (hname : p.roadName = none) (hnumber : p.roadNumber = none) : NamesFit p where
  name t ht := by
    rw [hname] at ht
    cases ht
  number t ht := by
    rw [hnumber] at ht
    cases ht

/-- A component whose only name is one that fits. -/
theorem namesFit_of_getD {t : String} (ht : TextField.Fits RecordLayout.nameWidth t) (hname : p.roadName.getD t = t)
    (hnumber : p.roadNumber = none) : NamesFit p where
  name other hother := by
    rw [hother, Option.getD_some] at hname
    exact hname ▸ ht
  number other hother := by
    rw [hnumber] at hother
    cases hother

theorem named_fresh (address : Option UInt16) : Named (fresh address) where
  name _ h := by cases h
  number _ h := by cases h

theorem named_of_accept {scope : Scope} {u : Update} (h : Named p) (haccept : p.accept scope u = .ok q) : Named q := by
  rw [accept_eq haccept]
  exact { h with }

theorem settled_or {text known : Option String} (hzero : ∀ r, text = some r → Char.ofNat 0 ∉ r.toList)
    (hknown : ∀ t, known = some t → Settled t) {t : String} (ht : (trimmed? text).or known = some t) : Settled t := by
  rcases Option.or_eq_some_iff.mp ht with hnew | ⟨-, hold⟩
  · exact settled_of_trimmed? hnew hzero
  · exact hknown t hold

theorem named_bindNames (h : Named p) {name number : Option String} (hname : TextField.Readable (name.getD ""))
    (hnumber : TextField.Readable (number.getD "")) : Named (p.bindNames name number) where
  name _ ht := settled_or (fun r hr => by rw [hr] at hname; exact hname.1) h.name ht
  number _ ht := settled_or (fun r hr => by rw [hr] at hnumber; exact hnumber.1) h.number ht

theorem roadName_bindNames (p : Profile) (name number : Option String) :
    (p.bindNames name number).roadName = (trimmed? name).or p.roadName := rfl

theorem roadNumber_bindNames (p : Profile) (name number : Option String) :
    (p.bindNames name number).roadNumber = (trimmed? number).or p.roadNumber := rfl

/-! ## Sent again -/

/-- Whether two profiles have the same address, the same name and the same number. -/
structure Agrees (p q : Profile) : Prop where
  address : p.address = q.address
  name : p.roadName = q.roadName
  number : p.roadNumber = q.roadNumber

theorem recordNo?_congr (h : p.address = q.address) : p.recordNo? = q.recordNo? := by
  rw [recordNo?, recordNo?, h]

theorem hasNames_congr (h : Agrees p q) : p.hasNames = q.hasNames := by
  rw [hasNames, hasNames, h.name, h.number]

theorem address_of_recordNo? {recordNo : UInt8} (h : p.recordNo? = some recordNo) :
    p.address = some recordNo.toUInt16 := by
  unfold recordNo? at h
  split at h
  · rename_i address haddress
    split at h
    · rename_i hbyte
      cases h
      have hsame : address.toUInt8.toUInt16 = address := by
        rw [UInt16.le_iff_toNat_le] at hbyte
        rw [← UInt16.toNat_inj, UInt8.toNat_toUInt16, UInt16.toNat_toUInt8]
        exact Nat.mod_eq_of_lt (Nat.lt_succ_of_le hbyte)
      rw [haddress, hsame]
    · cases h
  · cases h

theorem recordUpdate_congr (h : Agrees p q) (kind : FixtureKind) (recordNo : UInt8) (steps : List RouteStep) :
    p.recordUpdate kind recordNo steps = q.recordUpdate kind recordNo steps := by
  rw [recordUpdate, recordUpdate, h.name, h.number]

theorem recordUpdates_congr (h : Agrees p q) (kind : FixtureKind) (steps : List RouteStep) :
    p.recordUpdates kind steps = q.recordUpdates kind steps := by
  simp only [recordUpdates, recordNo?_congr h.address, hasNames_congr h, recordUpdate_congr h]

/-- A record is sent if there is a name or a number; of a fresh component there is neither. -/
theorem recordUpdates_cases (p : Profile) (kind : FixtureKind) (steps : List RouteStep) :
    (∃ recordNo, p.recordNo? = some recordNo ∧ p.recordUpdates kind steps = [p.recordUpdate kind recordNo steps]) ∨
      (p.recordUpdates kind steps = [] ∧ (fresh p.address).recordUpdates kind steps = []) := by
  have hfresh : (fresh p.address).recordUpdates kind steps = [] := by
    unfold recordUpdates
    split <;> rfl
  cases hno : p.recordNo? with
  | none => exact Or.inr ⟨by rw [recordUpdates, hno], hfresh⟩
  | some recordNo =>
      have hsent : p.recordUpdates kind steps = if p.hasNames then [p.recordUpdate kind recordNo steps] else [] := by
        rw [recordUpdates, hno]
      by_cases hnames : p.hasNames = true
      · exact Or.inl ⟨recordNo, rfl, hsent.trans (if_pos hnames)⟩
      · exact Or.inr ⟨hsent.trans (if_neg hnames), hfresh⟩

theorem record_of_mem_recordUpdates {p : Profile} {kind : FixtureKind} {steps : List RouteStep} {u : Update}
    (h : u ∈ p.recordUpdates kind steps) : ∃ m, u = .message (.record m) := by
  rcases recordUpdates_cases p kind steps with ⟨recordNo, -, hsent⟩ | ⟨hnone, -⟩
  · rw [hsent, List.mem_singleton] at h
    exact ⟨_, h⟩
  · rw [hnone] at h
    cases h

theorem command_not_mem_recordUpdates (p : Profile) (kind : FixtureKind) (steps : List RouteStep) (c : Command) :
    .command c ∉ p.recordUpdates kind steps := by
  intro h
  obtain ⟨m, hm⟩ := record_of_mem_recordUpdates h
  cases hm

/-- A text that a component holds, or none, is taken over again from the field that it is sent in. -/
theorem trimmed?_resent {text : Option String} {width : Nat} (hsettled : ∀ t, text = some t → Settled t)
    (hfits : ∀ t, text = some t → TextField.Fits width t) :
    trimmed? (some (TextField.resent width (text.getD ""))) = text := by
  cases text with
  | none =>
      rw [Option.getD_none, TextField.resent_of_fits TextField.readable_empty (Nat.zero_le width)]
      rfl
  | some t =>
      rw [Option.getD_some, TextField.resent_of_fits (hsettled t rfl).readable (hfits t rfl)]
      exact (hsettled t rfl).taken

theorem trimmed?_resent_of_eq_none {text : Option String} (h : text = none) (width : Nat) :
    trimmed? (some (TextField.resent width (text.getD ""))) = none := by
  subst h
  exact trimmed?_resent (fun t ht => by cases ht) fun t ht => by cases ht

/-- The record of an accessory, a switch or a route as it is read again. -/
def recordAgain (p : Profile) (kind : FixtureKind) (recordNo : UInt8) (steps : List RouteStep) : RecordMessage :=
  ⟨recordNo, RecordMessage.writeFlags, 0, 0,
    .fixture kind namesMask (FixtureRecord.resent kind ⟨none, none, p.roadName, p.roadNumber, steps⟩)⟩

theorem resent_recordUpdate (p : Profile) (kind : FixtureKind) (recordNo : UInt8) (steps : List RouteStep) :
    (p.recordUpdate kind recordNo steps).resent = .message (.record (p.recordAgain kind recordNo steps)) := rfl

theorem target?_recordAgain {recordNo : UInt8} (hno : p.recordNo? = some recordNo) (kind : FixtureKind)
    (steps : List RouteStep) {address : UInt16} (haddress : p.address = some address) :
    (Update.message (.record (p.recordAgain kind recordNo steps))).target? = some (kind.scope, address) := by
  rw [address_of_recordNo? hno] at haddress
  cases haddress
  rfl

theorem sendable_recordUpdates (p : Profile) (kind : FixtureKind) (steps : List RouteStep) :
    ∀ u ∈ p.recordUpdates kind steps, u.Sendable := by
  intro u hu
  rcases recordUpdates_cases p kind steps with ⟨recordNo, -, hsent⟩ | ⟨hnone, -⟩
  · rw [hsent, List.mem_singleton] at hu
    rw [hu]
    exact Update.sendable_record _
  · rw [hnone] at hu
    exact absurd hu List.not_mem_nil

theorem isActive_recordAgain (p : Profile) (kind : FixtureKind) (recordNo : UInt8) (steps : List RouteStep) :
    (p.recordAgain kind recordNo steps).isActive = true := by
  simp only [recordAgain, RecordMessage.isActive, FixtureRecord.isUsed, FixtureRecord.resent, Option.getD_none,
    RecordLayout.isUsed_newLink]

/-- The record is sent with a mask that makes its name and its number valid. -/
theorem has_recordAgain (p : Profile) (kind : FixtureKind) (recordNo : UInt8) (steps : List RouteStep)
    {field : RecordField} (hfield : field = .roadName ∨ field = .roadNumber) :
    (p.recordAgain kind recordNo steps).has field = true := by
  have hvalid : (p.recordAgain kind recordNo steps).contents.valid? = some namesMask := rfl
  rw [RecordMessage.has, RecordMessage.isValid, hvalid]
  rcases hfield with rfl | rfl <;> decide

theorem name?_recordAgain (p : Profile) (kind : FixtureKind) (recordNo : UInt8) (steps : List RouteStep) :
    (p.recordAgain kind recordNo steps).name? =
      some (TextField.resent RecordLayout.nameWidth (p.roadName.getD "")) := by
  show (if (p.recordAgain kind recordNo steps).has .roadName = true then _ else none) = _
  rw [if_pos (has_recordAgain p kind recordNo steps (Or.inl rfl))]
  rfl

theorem number?_recordAgain (p : Profile) (kind : FixtureKind) (recordNo : UInt8) (steps : List RouteStep) :
    (p.recordAgain kind recordNo steps).number? =
      some (TextField.resent RecordLayout.numberWidth (p.roadNumber.getD "")) := by
  show (if (p.recordAgain kind recordNo steps).has .roadNumber = true then _ else none) = _
  rw [if_pos (has_recordAgain p kind recordNo steps (Or.inr rfl))]
  rfl

theorem liveRecord?_recordAgain {kind : FixtureKind} (hkind : kind ≠ .accessory) (p : Profile) (recordNo : UInt8)
    (steps : List RouteStep) :
    liveRecord? (p.recordAgain kind recordNo steps) =
      some (FixtureRecord.resent kind ⟨none, none, p.roadName, p.roadNumber, steps⟩) := by
  have hstatus : (p.recordAgain kind recordNo steps).status = 0 := rfl
  simp only [liveRecord?, hstatus, isActive_recordAgain, ne_eq, not_true_eq_false, Bool.true_eq_false, or_self,
    if_false]
  cases kind with
  | accessory => exact absurd rfl hkind
  | switch | route => simp only [recordAgain]

/-- A fresh profile after the record of an accessory, a switch or a route with the same address. -/
def rebuilt (p : Profile) (kind : FixtureKind) (recordNo : UInt8) (steps : List RouteStep) (now : Nat) : Profile :=
  ((fresh p.address).bindNames (some (TextField.resent RecordLayout.nameWidth (p.roadName.getD "")))
    (some (TextField.resent RecordLayout.numberWidth (p.roadNumber.getD "")))).record
      (.message (.record (p.recordAgain kind recordNo steps))) now

theorem address_rebuilt (p : Profile) (kind : FixtureKind) (recordNo : UInt8) (steps : List RouteStep) (now : Nat) :
    (p.rebuilt kind recordNo steps now).address = p.address := by
  rw [rebuilt, record, address_bindNames, fresh]

theorem roadName_rebuilt (p : Profile) (kind : FixtureKind) (recordNo : UInt8) (steps : List RouteStep) (now : Nat) :
    (p.rebuilt kind recordNo steps now).roadName =
      trimmed? (some (TextField.resent RecordLayout.nameWidth (p.roadName.getD ""))) := by
  rw [rebuilt, record, roadName_bindNames, fresh, Option.or_none]

theorem roadNumber_rebuilt (p : Profile) (kind : FixtureKind) (recordNo : UInt8) (steps : List RouteStep) (now : Nat) :
    (p.rebuilt kind recordNo steps now).roadNumber =
      trimmed? (some (TextField.resent RecordLayout.numberWidth (p.roadNumber.getD ""))) := by
  rw [rebuilt, record, roadNumber_bindNames, fresh, Option.or_none]

/-- Whether a profile is a fresh one with the same address, before or after the record. -/
def Resumed (p q : Profile) : Prop :=
  q = fresh p.address ∨ ∃ kind recordNo steps now, q = p.rebuilt kind recordNo steps now

/-- A name or a number that is not known is not known afterwards. -/
theorem eq_none_of_resumed (h : p.Resumed q) :
    (p.roadName = none → q.roadName = none) ∧ (p.roadNumber = none → q.roadNumber = none) := by
  rcases h with rfl | ⟨kind, recordNo, steps, now, rfl⟩
  · exact ⟨fun _ => rfl, fun _ => rfl⟩
  · rw [roadName_rebuilt, roadNumber_rebuilt]
    exact ⟨fun hnone => trimmed?_resent_of_eq_none hnone _, fun hnone => trimmed?_resent_of_eq_none hnone _⟩

/-- A name and a number that fit their fields come back from the record that they are sent in. -/
theorem agrees_rebuilt (h : Named p) (hfits : NamesFit p) (kind : FixtureKind) (recordNo : UInt8)
    (steps : List RouteStep) (now : Nat) : Agrees (p.rebuilt kind recordNo steps now) p := by
  refine ⟨address_rebuilt p kind recordNo steps now, ?_, ?_⟩
  · rw [roadName_rebuilt, trimmed?_resent h.name hfits.name]
  · rw [roadNumber_rebuilt, trimmed?_resent h.number hfits.number]

end Profile
end RailLayout
