import RailLayout.Proofs.State.Accessory.Kept
import RailLayout.Proofs.State.Addressed
import RailLayout.Proofs.State.Known
import RailLayout.Proofs.State.Motive.Dossier
import RailLayout.Proofs.State.Shown

/-!
What a component shows that does not count as known. If it is no engine and no train, it shows nothing and has no bytes,
whatever it went through. An engine or a train counts as known by its names and by what commands and most of its record
tell, but the fields that `StateField.overlooked` lists make no difference: all of them can be known of one that does
not count as known, and if its address has four digits it has bytes, those that say where its record is
(`Component.unknown_shows_overlooked`).
-/

namespace RailLayout

/-- The fields of components of a kind that make no difference to whether a component counts as known. -/
def StateField.overlooked : Scope → List StateField
  | .engine => [fuelLevel, waterLevel, year, fourDigitRecord]
  | .train => [fuelLevel, waterLevel, consistFlags, consist, fourDigitRecord]
  | _ => []

theorem MotiveKind.eq_of_scope_eq {kind other : MotiveKind} (h : kind.scope = other.scope) : kind = other := by
  cases kind <;> cases other <;> first | rfl | cases h

namespace Profile

variable {p : Profile}

theorem shown_of_nameless (h : p.hasNames = false) : p.shown = fresh none := by
  simp only [hasNames, Bool.or_eq_false_iff, Option.isSome_eq_false_iff, Option.isNone_iff_eq_none] at h
  rw [shown, fresh, h.1, h.2]

theorem eq_lastUpdate_of_knows (h : p.hasNames = false) {field : StateField} (hknows : p.knows field = true) :
    field = .lastUpdate := by
  simp only [hasNames, Bool.or_eq_false_iff] at h
  cases field
  case roadName => exact absurd (h.1.symm.trans hknows) (by decide)
  case roadNumber => exact absurd (h.2.symm.trans hknows) (by decide)
  case lastUpdate => rfl
  all_goals cases hknows

end Profile

/-! ## Engines and trains -/

namespace MotiveState

variable {s t : MotiveState} {field : StateField}

/-- What an engine or a train that does not count as known can show: its generation and what is overlooked. -/
def leftover (s : MotiveState) : MotiveState :=
  { fresh s.kind (.fresh none) with
    legacy := s.legacy
    fuelLevel := s.fuelLevel
    waterLevel := s.waterLevel
    year := s.year
    consistFlags := s.consistFlags
    consist := s.consist
    fourDigitRecord := s.fourDigitRecord }

/-- Whether an engine has no members, and a train no year of manufacture. -/
structure Proper (s : MotiveState) : Prop where
  engine : s.kind = .engine → s.consistFlags = none ∧ s.consist = []
  train : s.kind = .train → s.year = none

theorem proper_of_dossier (h : Proper s) (hdossier : t.dossier = s.dossier) : Proper t := by
  have hkept : Proper s.dossier := ⟨h.engine, h.train⟩
  rw [← hdossier] at hkept
  exact ⟨hkept.engine, hkept.train⟩

theorem proper_applyCommand (h : Proper s) (rules : Rules) (now : Nat) (c : Command) :
    Proper (s.applyCommand rules now c).1 := by
  have hlatched : Proper (s.latchGeneration c) := by
    unfold latchGeneration
    split
    · exact ⟨h.engine, h.train⟩
    · exact h
  exact proper_of_dossier hlatched (dossier_applyCommand s rules now c)

theorem proper_applyRecordFields (h : Proper s) (m : RecordMessage) (r : MotiveRecord) :
    Proper (s.applyRecordFields m r) := by
  unfold applyRecordFields
  dsimp only
  split <;> exact ⟨h.engine, h.train⟩

/-- A record tells members only to a train. -/
theorem proper_applyConsist (h : Proper s) {kind : MotiveKind} (hkind : kind = s.kind) (r : MotiveRecord) :
    Proper (s.applyConsist kind r) := by
  unfold applyConsist
  split
  · exact h
  · exact ⟨fun hengine => absurd (hkind.trans hengine) (by decide), h.train⟩

theorem proper_applyMemoryField (h : Proper s) {entry : MemoryField × MemoryValue}
    (hentry : entry.1 ∈ MemoryField.ofScope s.kind.scope) : Proper (s.applyMemoryField entry) := by
  have hmembers : s.kind = .engine → entry.1 ≠ .consistFlags ∧ entry.1 ≠ .consistComps := by
    intro hkind
    rw [hkind] at hentry
    constructor <;> exact fun hsame => absurd (hsame ▸ hentry) (by decide)
  unfold applyMemoryField
  split
  case h_14 => exact ⟨fun hkind => absurd rfl (hmembers hkind).1, h.train⟩
  case h_15 => exact ⟨fun hkind => absurd rfl (hmembers hkind).2, h.train⟩
  all_goals exact ⟨h.engine, h.train⟩

theorem proper_applyMemory (h : Proper s) {m : MemoryMessage} (hscope : m.scope = some s.kind.scope) :
    Proper (s.applyMemory m).1 := by
  have hfields : ∀ entry ∈ m.fields, entry.1 ∈ MemoryField.ofScope s.kind.scope := by
    intro entry hentry
    rw [MemoryMessage.fields, hscope] at hentry
    obtain ⟨field, hfield, hvalue⟩ := List.mem_filterMap.mp hentry
    obtain ⟨value, -, rfl⟩ := Option.map_eq_some_iff.mp hvalue
    exact List.mem_of_mem_filter hfield
  unfold applyMemory
  dsimp only
  generalize m.fields = fields at hfields
  induction fields generalizing s with
  | nil => exact h
  | cons entry rest ih =>
      have hkind := (alike_applyMemoryField s entry).kind
      refine ih (proper_applyMemoryField h (hfields entry List.mem_cons_self)) (hkind.symm ▸ hscope) ?_
      intro other hother
      rw [hkind]
      exact hfields other (List.mem_cons_of_mem entry hother)

theorem proper_applyRecord (h : Proper s) {m : RecordMessage} (hscope : m.scope = s.kind.scope) :
    Proper (s.applyRecord m).1 := by
  unfold applyRecord
  split
  · exact h
  · split
    · rename_i kind valid r hcontents
      have hkind : kind = s.kind := by
        rw [RecordMessage.scope, RecordMessage.kind, hcontents] at hscope
        exact MotiveKind.eq_of_scope_eq hscope
      have hkept := (alike_applyRecordFields m r s).kind
      exact proper_applyConsist (proper_applyRecordFields h m r) (hkind.trans hkept.symm) r
    · exact h

/-- A message for an engine or a train tells it nothing that only the other kind has. -/
theorem proper_applyReport (h : Proper s) {m : Message} {address : UInt16}
    (htarget : (Update.message m).target? = some (s.kind.scope, address)) : Proper (s.applyReport m).1 := by
  unfold applyReport
  split
  · exact proper_applyRecord h (congrArg Prod.fst (Option.some.inj htarget))
  · exact ⟨h.engine, h.train⟩
  · rename_i m
    rw [Update.target?_memory] at htarget
    obtain ⟨scope, hscope, hsame⟩ := Option.map_eq_some_iff.mp htarget
    cases hsame
    exact proper_applyMemory h hscope
  · split
    · exact ⟨h.engine, h.train⟩
    · exact h
  · exact h

theorem proper_update (h : Proper s) (rules : Rules) (now : Nat) (u : Update) :
    Proper (s.update rules now u).state := by
  cases haccept : s.profile.accept s.kind.scope u with
  | error e =>
      rw [update, haccept]
      exact h
  | ok q =>
      have hq : Proper { s with profile := q } := ⟨h.engine, h.train⟩
      cases u with
      | command c =>
          rw [update_command haccept]
          exact proper_applyCommand hq rules now c
      | message m =>
          obtain ⟨received, address, htarget, hmeant, -⟩ := Profile.of_accept haccept
          rw [hmeant.resolve_left Bool.false_ne_true] at htarget
          have hreport := proper_applyReport hq htarget
          rw [update_message haccept]
          rcases applyMessage_cases now m { s with profile := q } with hchanged | hsame
          · rw [hchanged]
            exact ⟨hreport.engine, hreport.train⟩
          · rw [hsame]
            exact hq

theorem proper_applySighting (h : Proper s) (hkind : s.kind = .engine) (sighting : Sighting) :
    Proper (s.applySighting sighting).1 := by
  unfold applySighting
  split
  · exact h
  · exact ⟨h.engine, fun htrain => absurd (hkind.symm.trans htrain) (by decide)⟩

/-! ## What is shown of an engine or a train that does not count as known -/

theorem shown_of_unknown (h : s.isKnown = false) : s.shown = s.leftover := by
  simp only [isKnown, hasRecordFields, Profile.hasNames, Bool.or_eq_false_iff, Option.isSome_eq_false_iff,
    Option.isNone_iff_eq_none, and_assoc] at h
  obtain ⟨hname, hnumber, hspeed, hrpm, hlabor, hmomentum, hbrake, hlimit, hmax, hloco, hcontrol, hsound, hclass,
    hstarted, hdirection, hsmoke, haux, haux1, haux2, hnumeric⟩ := h
  simp only [shown, leftover, fresh, Profile.shown, Profile.fresh, *]

theorem knows_shown (hfield : field ≠ .lastUpdate) (s : MotiveState) : s.shown.knows field = s.knows field := by
  cases field
  case lastUpdate => exact absurd rfl hfield
  all_goals rfl

/-- An engine or a train that does not count as known knows no more than its generation and what is overlooked. -/
theorem overlooked_of_knows (hproper : Proper s) (h : s.isKnown = false) (hknows : s.knows field = true) :
    field = .lastUpdate ∨ field = .legacy ∨ field ∈ StateField.overlooked s.kind.scope := by
  by_cases hlast : field = .lastUpdate
  · exact Or.inl hlast
  have hleft : s.leftover.knows field = true := by
    rw [← shown_of_unknown h, knows_shown hlast]
    exact hknows
  refine Or.inr ?_
  cases hkind : s.kind with
  | engine =>
      obtain ⟨hflags, hmembers⟩ := hproper.engine hkind
      cases field
      case legacy => exact Or.inl rfl
      case fuelLevel | waterLevel | year | fourDigitRecord => exact Or.inr (by decide)
      case consistFlags =>
        rw [leftover, knows, hflags] at hleft
        cases hleft
      case consist =>
        rw [leftover, knows, hmembers] at hleft
        cases hleft
      all_goals cases hleft
  | train =>
      have hyear := hproper.train hkind
      cases field
      case legacy => exact Or.inl rfl
      case fuelLevel | waterLevel | consistFlags | consist | fourDigitRecord => exact Or.inr (by decide)
      case year =>
        rw [leftover, knows, hyear] at hleft
        cases hleft
      all_goals cases hleft

/-- All that is sent for an engine or a train that does not count as known is where its record is. -/
theorem script_of_unknown (h : s.isKnown = false) :
    s.script = (s.profile.address.map s.fourDigitUpdates).getD [] := by
  have hshown := shown_of_unknown h
  have hrecord : s.hasRecordFields = false := by
    simp only [isKnown, Bool.or_eq_false_iff, and_assoc] at h
    exact h.1
  have hheld : s.heldOps = [] := by
    show s.shown.heldOps = []
    rw [hshown]
    rfl
  unfold script
  cases s.profile.address with
  | none => rfl
  | some address =>
      have hnothing : s.recordUpdates address = [] := by
        unfold recordUpdates
        rw [hrecord, if_neg (fun h => Bool.false_ne_true h.1)]
      simp only [hnothing, hheld, List.nil_append, List.map_nil, List.append_nil, Option.map_some, Option.getD_some]

end MotiveState

/-! ## Accessories -/

namespace AccessoryState

variable {s t : AccessoryState}

/-- What says how an accessory is driven: the kind of board, whether it has reported, and whether as a district. -/
def driving (s : AccessoryState) : AccessoryKind × Bool × Bool := (s.kind, s.claimed, s.isPowerDistrict)

theorem driving_applyPress (window now : Nat) (op : AccessoryOp) (s : AccessoryState) :
    (s.applyPress window now op).driving = s.driving := by
  unfold applyPress
  repeat' split
  all_goals rfl

theorem driving_applyOutputs (effects : TriggerSet) (s : AccessoryState) :
    (effects.foldl applyOutput s).driving = s.driving := by
  induction effects generalizing s with
  | nil => rfl
  | cons t rest ih =>
      rw [List.foldl_cons, ih]
      unfold applyOutput
      split <;> rfl

/-- No command changes how an accessory is driven. -/
theorem driving_applyCommand (rules : Rules) (now : Nat) (c : Command) (s : AccessoryState) :
    (s.applyCommand rules now c).1.driving = s.driving := by
  unfold applyCommand
  split
  · rfl
  · split
    · rename_i op _
      unfold applyOperation
      dsimp only
      repeat' split
      all_goals first | rfl | exact (driving_applyOutputs _ _).trans (driving_applyPress _ now op _)
    · rfl

/-- Whether an accessory that no board drives is not claimed either, and no power district. -/
def Covered (s : AccessoryState) : Prop := s.kind = .plain → s.driving = (.plain, false, false)

theorem covered_of_driving (h : Covered s) (hdriving : t.driving = s.driving) : Covered t := by
  have hkind : t.kind = s.kind := congrArg Prod.fst hdriving
  intro hplain
  rw [hdriving]
  exact h (hkind.symm.trans hplain)

theorem covered_applyMessage (h : Covered s) (now : Nat) (m : Message) : Covered (s.applyMessage now m).state := by
  unfold applyMessage
  split
  · rename_i r
    show Covered (applyRecord now r s).1
    unfold applyRecord
    split <;> exact h
  · split
    · rename_i offered hoffered
      have hkind := (driven_applyBoard m { s with kind := offered }).kind
      unfold applyKind
      split
      · -- The board drives the accessory from now on.
        have hdriven : ∀ {t : AccessoryState}, t.kind = offered → Covered t := fun ht hplain =>
          absurd (ht.symm.trans hplain) (ne_plain_of_kindOf? hoffered)
        split <;> rename_i heq <;> rw [heq] at hkind <;> exact hdriven hkind
      · exact h
    · exact h

end AccessoryState

/-! ## What reports tell components of other kinds -/

/-- What a sensor track takes makes it known, unless it says nothing. -/
theorem SensorTrackState.apply_cases (now : Nat) (u : Update) (s : SensorTrackState) :
    (apply now u s).1.isKnown = true ∨ (apply now u s).1 = s := by
  have hreport : ∀ {m t}, applyReport? now m s = some t → t.isKnown = true := by
    intro m t ht
    unfold applyReport? at ht
    split at ht <;> cases ht <;> simp [isKnown]
  unfold apply
  split
  · split
    · rename_i t ht
      have hknown : t.isKnown = true := hreport ht
      exact Or.inl hknown
    · exact Or.inr rfl
  · exact Or.inr rfl

/-- What a block takes makes it known, unless it says nothing. -/
theorem BlockState.apply_cases (now : Nat) (u : Update) (s : BlockState) :
    (apply now u s).1.isKnown = true ∨ (apply now u s).1 = s := by
  unfold apply
  split
  · exact Or.inl rfl
  · exact Or.inr rfl

/-- What the synchronization status takes makes it known, unless it says nothing. -/
theorem SyncState.apply_cases (now : Nat) (u : Update) (s : SyncState) :
    (apply now u s).1.isKnown = true ∨ (apply now u s).1 = s := by
  unfold apply
  repeat' split
  all_goals first | exact Or.inl rfl | exact Or.inr rfl

/-- The Base takes over a name but no number. -/
theorem BaseState.roadNumber_apply (now : Nat) (u : Update) (s : BaseState) :
    (apply now u s).1.profile.roadNumber = s.profile.roadNumber := by
  unfold apply
  split
  · rfl
  · split
    · rename_i ht
      rcases applyMessage?_cases ht with ⟨r, valid, info, -, -, rfl⟩ | ⟨database, figures, rfl⟩
      · rfl
      · cases database <;> rfl
    · rfl

/-! ## Every kind -/

namespace Component

variable {c d : Component}

/-- Whether a component is as it was built but for its address and what it was told last. -/
def AsBuilt (c : Component) : Prop :=
  ∃ scope p, Profile.hasNames p = false ∧ c = (fresh scope none).withProfile p

theorem asBuilt_fresh (scope : Scope) (start : Option UInt16) : AsBuilt (fresh scope start) :=
  ⟨scope, (fresh scope start).profile, by cases scope <;> rfl, by cases scope <;> rfl⟩

theorem asBuilt_withAddress (h : AsBuilt c) (address : Option UInt16) :
    AsBuilt (c.withProfile { c.profile with address := address }) := by
  obtain ⟨scope, p, hnames, rfl⟩ := h
  exact ⟨scope, { p with address := address }, hnames, by cases scope <;> rfl⟩

/-- Whether a component shows nothing that is not covered by what makes it count as known. -/
def Covered : Component → Prop
  | motive s => s.Proper
  | switch _ => True
  | route _ => True
  | accessory s => s.Covered
  | base s => s.profile.roadNumber = none
  | other => other.isKnown = false → other.AsBuilt

theorem covered_build {scope : Scope} {start : Option UInt16} (h : build scope start = .ok c) : Covered c := by
  cases eq_fresh_of_build h
  cases scope with
  | engine => exact ⟨fun _ => ⟨rfl, rfl⟩, fun htrain => by cases htrain⟩
  | train => exact ⟨fun hengine => by (cases hengine), fun _ => rfl⟩
  | switch | route => trivial
  | accessory => exact fun _ => rfl
  | sensorTrack | block | sync => exact fun _ => asBuilt_fresh _ start
  | base => rfl

theorem covered_withAddress (h : Covered c) (address : Option UInt16) :
    Covered (c.withProfile { c.profile with address := address }) := by
  cases c with
  | motive s => exact ⟨h.engine, h.train⟩
  | switch s | route s => trivial
  | accessory s | base s => exact h
  | sensorTrack s | block s | sync s => exact fun hunknown => asBuilt_withAddress (h hunknown) address

/-- A step that makes a component known or leaves it as it is keeps it as it was built until it is known. -/
theorem asBuilt_of_cases (h : c.isKnown = false → AsBuilt c) (hcases : d.isKnown = true ∨ d = c) :
    d.isKnown = false → AsBuilt d := by
  intro hunknown
  rcases hcases with hknown | rfl
  · exact absurd (hknown.symm.trans hunknown) (by decide)
  · exact h hunknown

theorem covered_update (h : Covered c) (rules : Rules) (now : Nat) (u : Update) :
    Covered (c.update rules now u).state := by
  cases haccept : c.profile.accept c.scope u with
  | error e =>
      rw [update_of_refused haccept]
      exact h
  | ok q =>
      have hq := covered_withAddress h q.address
      rw [← Profile.accept_eq haccept] at hq
      cases c with
      | motive s => exact MotiveState.proper_update h rules now u
      | switch s | route s => trivial
      | accessory s =>
          cases u with
          | command c =>
              rw [update, AccessoryState.update_command haccept]
              exact AccessoryState.covered_of_driving hq (AccessoryState.driving_applyCommand rules now c _)
          | message m =>
              rw [update, AccessoryState.update_message haccept]
              exact AccessoryState.covered_applyMessage hq now m
      | sensorTrack s =>
          rw [update, SensorTrackState.update_of_accept haccept]
          exact asBuilt_of_cases hq ((SensorTrackState.apply_cases now u _).imp_right (congrArg sensorTrack))
      | block s =>
          rw [update, BlockState.update_of_accept haccept]
          exact asBuilt_of_cases hq ((BlockState.apply_cases now u _).imp_right (congrArg block))
      | base s =>
          rw [update, BaseState.update_of_accept haccept]
          exact (BaseState.roadNumber_apply now u _).trans hq
      | sync s =>
          rw [update, SyncState.update_of_accept haccept]
          exact asBuilt_of_cases hq ((SyncState.apply_cases now u _).imp_right (congrArg sync))

theorem covered_meet (h : Covered c) (i : Incident) : Covered (c.meet i) := by
  cases i with
  | told rules now u => exact covered_update h rules now u
  | seen sighting =>
      cases c with
      | motive s =>
          rw [meet, applySighting]
          dsimp only
          split
          · rename_i hkind
            exact MotiveState.proper_applySighting h hkind sighting
          · exact h
      | _ => exact h

/-! ## What is shown of a component that does not count as known -/

/-- What a component that does not count as known can show: an engine or a train its generation and what is overlooked,
any other component nothing. -/
def leftover : Component → Component
  | motive s => motive s.leftover
  | other => fresh other.scope none

/-- Whether a component has nothing to show and nothing to send. -/
structure Blank (c : Component) : Prop where
  shown : c.shown = (fresh c.scope none).shown
  knows : ∀ field, c.knows field = true → field = .lastUpdate
  script : c.script = []

theorem scope_withProfile_fresh (scope : Scope) (p : Profile) : ((fresh scope none).withProfile p).scope = scope := by
  cases scope <;> rfl

theorem knows_of_withProfile {p : Profile} {field : StateField} (h : (c.withProfile p).knows field = true) :
    c.knows field = true ∨ p.knows field = true := by
  cases c <;> cases field <;> first | exact Or.inl h | exact Or.inr h

theorem script_withProfile_fresh {scope : Scope} (hmotive : scope.isMotive = false) {p : Profile}
    (h : p.hasNames = false) : ((fresh scope none).withProfile p).script = [] := by
  cases scope with
  | engine | train => cases hmotive
  | switch =>
      show SwitchState.script ⟨p, none⟩ = []
      simp only [SwitchState.script, Profile.recordUpdates_of_nameless h]
      split <;> rfl
  | route =>
      show RouteState.script ⟨p, []⟩ = []
      simp only [RouteState.script, RouteState.isKnown, h]
      split <;> rfl
  | accessory =>
      show AccessoryState.script (.fresh p) = []
      simp only [AccessoryState.script, AccessoryState.fresh, Profile.recordUpdates_of_nameless h]
      split <;> rfl
  | sensorTrack =>
      show SensorTrackState.script (.fresh p) = []
      unfold SensorTrackState.script
      cases SensorTrackState.fresh p |>.profile.recordNo? <;> rfl
  | block => rfl
  | base =>
      simp only [Profile.hasNames, Bool.or_eq_false_iff] at h
      show BaseState.script { BaseState.fresh with profile := p } = []
      simp only [BaseState.script, BaseState.hasInfo, BaseState.fresh, h.1]
      rfl
  | sync => rfl

/-- A component that is as it was built has nothing to show. -/
theorem blank_of_asBuilt (hmotive : c.scope.isMotive = false) (h : AsBuilt c) : Blank c := by
  obtain ⟨scope, p, hnames, rfl⟩ := h
  rw [scope_withProfile_fresh] at hmotive
  refine ⟨?_, fun field hknows => ?_, script_withProfile_fresh hmotive hnames⟩
  · have hshown := congrArg (fun q => ((fresh scope none).withProfile q).shown) (Profile.shown_of_nameless hnames)
    cases scope with
    | engine | train => cases hmotive
    | _ => exact hshown
  · rcases knows_of_withProfile hknows with hfresh | hprofile
    · obtain ⟨rfl, -⟩ := eq_legacy_of_knows_fresh hfresh
      cases hmotive
    · exact Profile.eq_lastUpdate_of_knows hnames hprofile

/-- Of an accessory only what it keeps to itself can differ from what it was built with. -/
theorem blank_accessory {s : AccessoryState} (hcovered : s.Covered) (h : s.isKnown = false) : Blank (accessory s) := by
  obtain ⟨profile, kind, claimed, district, aux, aux1, aux2, number, pressed1, pressed2, action, output, info⟩ := s
  simp only [AccessoryState.isKnown, Bool.or_eq_false_iff, Option.isSome_eq_false_iff, Option.isNone_iff_eq_none,
    bne_eq_false_iff_eq, and_assoc] at h
  obtain ⟨hnames, rfl, rfl, rfl, rfl, rfl, rfl⟩ := h
  cases hcovered rfl
  have hblank : Blank (accessory (.fresh profile)) := blank_of_asBuilt rfl ⟨.accessory, profile, hnames, rfl⟩
  refine ⟨hblank.shown, fun field hknows => hblank.knows field ?_, hblank.script⟩
  cases field <;> exact hknows

/-- A component that is no engine and no train has nothing to show if it does not count as known. -/
theorem blank_of_unknown (hmotive : c.scope.isMotive = false) (hcovered : Covered c) (h : c.isKnown = false) :
    Blank c := by
  cases c with
  | motive s => exact absurd ((isMotive_scope s).symm.trans hmotive) (by decide)
  | switch s =>
      obtain ⟨profile, through⟩ := s
      simp only [isKnown, SwitchState.isKnown, Bool.or_eq_false_iff, Option.isSome_eq_false_iff,
        Option.isNone_iff_eq_none] at h
      obtain ⟨rfl, hnames⟩ := h
      exact blank_of_asBuilt rfl ⟨.switch, profile, hnames, rfl⟩
  | route s =>
      obtain ⟨profile, steps⟩ := s
      simp only [isKnown, RouteState.isKnown, Bool.or_eq_false_iff, Bool.not_eq_false', List.isEmpty_iff] at h
      obtain ⟨rfl, hnames⟩ := h
      exact blank_of_asBuilt rfl ⟨.route, profile, hnames, rfl⟩
  | accessory s => exact blank_accessory hcovered h
  | base s =>
      obtain ⟨profile, high, low, throwRate, engines, trains⟩ := s
      simp only [isKnown, BaseState.isKnown, BaseState.hasInfo, Bool.or_eq_false_iff, Option.isSome_eq_false_iff,
        Option.isNone_iff_eq_none, bne_eq_false_iff_eq, and_assoc] at h
      obtain ⟨hname, rfl, rfl, rfl, rfl, rfl⟩ := h
      have hnumber : profile.roadNumber = none := hcovered
      have hnames : profile.hasNames = false := by
        rw [Profile.hasNames, hname, hnumber]
        rfl
      exact blank_of_asBuilt rfl ⟨.base, profile, hnames, rfl⟩
  | sensorTrack s | block s | sync s => exact blank_of_asBuilt rfl (hcovered h)

/-- Whether a component has an address of four digits and knows where its record is. -/
def Mapped (c : Component) : Prop :=
  c.knows .fourDigitRecord = true ∧ ∃ address, c.profile.address = some address ∧ 99 < address

/-- All that is sent for a component that does not count as known is where its record is. -/
theorem script_of_unknown (hcovered : Covered c) (h : c.isKnown = false) :
    (c.script = [] ∧ ¬c.Mapped) ∨ (∃ m, c.script = [.message m]) ∧ c.Mapped := by
  by_cases hmotive : c.scope.isMotive = true
  · obtain ⟨s, rfl⟩ := exists_motive hmotive
    rw [script, MotiveState.script_of_unknown h, Mapped, profile, knows, MotiveState.knows]
    cases s.profile.address with
    | none => simp
    | some address =>
        simp only [Option.map_some, Option.getD_some, MotiveState.fourDigitUpdates]
        cases s.fourDigitRecord with
        | none => simp
        | some recordNo => by_cases haddress : 99 < address <;> simp [haddress]
  · have hblank := blank_of_unknown (Bool.eq_false_iff.mpr hmotive) hcovered h
    refine Or.inl ⟨hblank.script, fun hmapped => ?_⟩
    cases hblank.knows _ hmapped.1

theorem run_encode_of_unknown (hcovered : Covered c) (h : c.isKnown = false) {σ : Type} (codec : Codec σ) (memory : σ) :
    (c.encode codec).run memory = (.ok [], memory) ↔ ¬c.Mapped := by
  rw [Component.encode]
  rcases script_of_unknown hcovered h with ⟨hnothing, hfree⟩ | ⟨⟨m, hm⟩, hmapped⟩
  · rw [hnothing]
    exact iff_of_true rfl hfree
  · rw [hm]
    refine iff_of_false (fun hempty => ?_) (not_not.mpr hmapped)
    have hbytes : m.encode ++ [] = [] := Except.ok.inj (congrArg Prod.fst hempty)
    cases hbytes

/-- What can be asked of a component that does not count as known. -/
theorem shows_of_unknown (hcovered : Covered c) (h : c.isKnown = false) :
    c.shown = c.leftover.shown ∧
      ∀ field, c.knows field = true →
        field = .lastUpdate ∨ field = .legacy ∨ field ∈ StateField.overlooked c.scope := by
  by_cases hmotive : c.scope.isMotive = true
  · obtain ⟨s, rfl⟩ := exists_motive hmotive
    exact ⟨congrArg motive (MotiveState.shown_of_unknown h), fun field => MotiveState.overlooked_of_knows hcovered h⟩
  · have hblank := blank_of_unknown (Bool.eq_false_iff.mpr hmotive) hcovered h
    refine ⟨?_, fun field hknows => Or.inl (hblank.knows field hknows)⟩
    cases c with
    | motive s => exact absurd (isMotive_scope s) hmotive
    | _ => exact hblank.shown

/-- What tells an engine or a train all that is overlooked: a record that marks nothing as valid but fuel and water,
where the four-digit record is, and a sighting with nothing but a year of manufacture. A broadcast reaches a component
that has an address; any other one takes the number as its own. -/
def tellsOverlooked (kind : MotiveKind) (start : Option UInt16) : List Incident :=
  let rules : Rules := ⟨.stock, .standard⟩
  let number : UInt8 := if start.isSome then 99 else 5
  let record : RecordMessage := ⟨number, RecordMessage.readFlags, 0, 0,
    .motive kind (RecordField.fuelLevel.mask ||| RecordField.waterLevel.mask)
      { MotiveRecord.unknown with fuel := some 10, water := some 20, consistFlags := some 1, consist := [⟨7, 0⟩] }⟩
  [.told rules 0 (.message (.record record.resent)),
   .told rules 0 (.message (.fourDigit (.about kind 3 (.map 0 (some number.toUInt16))))),
   .seen ⟨0, 0, 0, 0, 0, 0, 0, 0, 0, 0, some ⟨0, 0, 0, 0, 1999, "", "", 0, 0, 0, 0⟩⟩]

theorem heard_tellsOverlooked (kind : MotiveKind) (start : Option UInt16) :
    ∀ i ∈ tellsOverlooked kind start, i.Heard := by
  have hmap (number : UInt8) (hnumber : number = 5 ∨ number = 99) :
      (Incident.told ⟨.stock, .standard⟩ 0
        (.message (.fourDigit (.about kind 3 (.map 0 (some number.toUInt16)))))).Heard := by
    refine ⟨(Message.fourDigit (.about kind 3 (.map 0 (some number.toUInt16)))).toFrame, ?_⟩
    rcases hnumber with rfl | rfl <;> cases kind <;> decide +kernel
  simp only [tellsOverlooked, List.forall_mem_cons]
  refine ⟨⟨_, Message.ofFrame_toFrame_record _⟩, hmap _ ?_, trivial, fun i hi => by cases hi⟩
  cases start
  · exact Or.inl rfl
  · exact Or.inr rfl

/-- Everything that is overlooked can be known at once of a component that does not count as known. -/
theorem exists_overlooked {scope : Scope} {start : Option UInt16} (h : build scope start = .ok c) :
    ∃ history, (∀ i ∈ history, i.Heard) ∧ (c.run history).isKnown = false ∧
      ∀ field ∈ StateField.overlooked scope, (c.run history).knows field = true := by
  cases eq_fresh_of_build h
  have htold (kind : MotiveKind) :
      ((fresh kind.scope start).run (tellsOverlooked kind start)).isKnown = false ∧
        ∀ field ∈ StateField.overlooked kind.scope,
          ((fresh kind.scope start).run (tellsOverlooked kind start)).knows field = true := by
    cases kind <;> cases start <;> exact ⟨rfl, List.all_eq_true.mp rfl⟩
  cases scope with
  | engine => exact ⟨_, heard_tellsOverlooked .engine start, htold .engine⟩
  | train => exact ⟨_, heard_tellsOverlooked .train start, htold .train⟩
  | _ =>
      refine ⟨[], fun i hi => ?_, rfl, fun field hfield => ?_⟩
      · cases hi
      · cases hfield

/-- What can be asked of a component that does not count as known, whatever it went through. If it is no engine and no
train, it shows what it did when it was built. An engine or a train knows no more than its generation, what it was told
last and fields that are overlooked, and shows no more. Only one with an address of four digits that knows where its
record is has bytes. All the fields that are overlooked can be known at once. -/
theorem unknown_shows_overlooked {scope : Scope} {start : Option UInt16} (h : build scope start = .ok c) :
    (∀ history, (c.run history).isKnown = false →
      (c.run history).shown = (c.run history).leftover.shown ∧
        (∀ field, (c.run history).knows field = true →
          field = .lastUpdate ∨ field = .legacy ∨ field ∈ StateField.overlooked scope) ∧
        ∀ {σ : Type} (codec : Codec σ) (memory : σ),
          ((c.run history).encode codec).run memory = (.ok [], memory) ↔ ¬(c.run history).Mapped) ∧
    ∃ history, (∀ i ∈ history, i.Heard) ∧ (c.run history).isKnown = false ∧
      ∀ field ∈ StateField.overlooked scope, (c.run history).knows field = true := by
  refine ⟨fun history hunknown => ?_, exists_overlooked h⟩
  have hcovered : Covered (c.run history) := run_induction (covered_build h) fun _ i _ hd => covered_meet hd i
  obtain ⟨hshown, hfields⟩ := shows_of_unknown hcovered hunknown
  rw [scope_run_of_build h history] at hfields
  exact ⟨hshown, hfields, run_encode_of_unknown hcovered hunknown⟩

/-- An engine with an address of four digits that was told where its record is and nothing else has bytes, but it does
not count as known. -/
theorem unknown_shows_overlooked_mapped :
    let history : List Incident :=
      [.told ⟨.stock, .standard⟩ 0 (.message (.fourDigit (.about .engine 3 (.map 0 (some 2056)))))]
    ∃ c, build .engine (some 2056) = .ok c ∧ (∀ i ∈ history, i.Heard) ∧ (c.run history).isKnown = false ∧
      (c.run history).knows .fourDigitRecord = true ∧
        ((c.run history).encode CommandTable.codec).run [] ≠ (.ok [], []) := by
  intro history
  have hbuild : build .engine (some 2056) = .ok (fresh .engine (some 2056)) := rfl
  have hheard : ∀ i ∈ history, i.Heard :=
    List.forall_mem_singleton.mpr ⟨⟨.d4Engine, [3, 0, 5, 0, 0, 50, 48, 53, 54]⟩, by decide +kernel⟩
  have hunknown : ((fresh .engine (some 2056)).run history).isKnown = false := by decide +kernel
  have hmapped : ((fresh .engine (some 2056)).run history).Mapped :=
    ⟨by decide +kernel, 2056, by decide +kernel, by decide⟩
  obtain ⟨-, -, hbytes⟩ := (unknown_shows_overlooked hbuild).1 history hunknown
  exact ⟨_, hbuild, hheard, hunknown, hmapped.1, fun hempty => (hbytes CommandTable.codec []).mp hempty hmapped⟩

end Component
end RailLayout
