import RailLayout.Proofs.State.Motive.Imprint

/-!
The window in which an engine or a train drops a command that repeats the last one. A command that is not relative would
change nothing when it comes again, however long ago it came, as long as it is the one that is remembered: what is told
or seen in the meantime without being remembered leaves alone what it overwrote (`MotiveState.Settled`). So for such
commands it makes no difference how long the window is (`Component.window_makes_no_difference`). Each run is compared to
one in which nothing is dropped; the two differ in when they were last told something (`MotiveState.Tracks`).
-/

namespace RailLayout

/-- The rules with another window for repeated commands. -/
def Rules.withDuplicateWindow (window : Nat) (rules : Rules) : Rules :=
  { rules with settings := { rules.settings with duplicateWindow := window } }

namespace Profile

/-- Whether an update is accepted has nothing to do with what is remembered. -/
theorem accept_withLast (scope : Scope) (p : Profile) (last : Option (Update × Nat)) (u : Update) :
    accept scope { p with last } u = (accept scope p u).map fun q => { q with last } := by
  obtain ⟨address, roadName, roadNumber, told⟩ := p
  unfold accept isAlias spelledAddress?
  cases u.target? with
  | none => rfl
  | some target =>
      dsimp only
      split
      · rfl
      · split
        · cases address <;> rfl
        · cases address with
          | none => cases scope.validate target.2 <;> rfl
          | some bound =>
              dsimp only
              split <;> rfl

end Profile

namespace MotiveState

variable {s t : MotiveState} {rules : Rules} {now window : Nat} {c : Command} {last : Option (Update × Nat)}

/-! ## What the command that is remembered would change -/

/-- Whether the command that is remembered, if it is not relative, would change nothing. -/
def Settled (s : MotiveState) : Prop :=
  ∀ c time, s.profile.last = some (.command c, time) → c.isRelative = false → Fulfils c s

/-- A command at most decides the generation, or it is remembered. -/
theorem applyCommand_cases (rules : Rules) (now : Nat) (c : Command) (s : MotiveState) :
    (s.applyCommand rules now c).1 = s.latchGeneration c ∨
      s.profile.repeats c rules.settings.duplicateWindow now = false ∧
        (s.applyCommand rules now c).1.profile.last = some (.command c, now) := by
  have hprofile : (s.latchGeneration c).profile = s.profile := congrArg Prod.snd (identity_latchGeneration s c)
  unfold applyCommand
  dsimp only
  rw [hprofile]
  split
  · exact Or.inl rfl
  · rename_i hnew
    have hnew := (Bool.not_eq_true _).mp hnew
    split
    · exact Or.inr ⟨hnew, rfl⟩
    · split
      · rename_i generation op _
        have hrecord := (applyOperation_same rules now c generation op (s.latchGeneration c)).2
        exact Or.inr ⟨hnew, congrArg Profile.last hrecord⟩
      · exact Or.inl rfl

theorem settled_applyCommand (hgraph : rules.graph = .stock) (h : Settled s) (now : Nat) (c : Command) :
    Settled (s.applyCommand rules now c).1 := by
  intro d time hlast hd
  rcases applyCommand_cases rules now c s with hlatched | ⟨hnew, htold⟩
  · rw [hlatched] at hlast ⊢
    rw [latchGeneration_decided] at hlast
    exact fulfils_latchGeneration (h d time hlast hd) c
  · rw [htold] at hlast
    cases hlast
    exact fulfils_applyCommand hd hgraph s hnew

theorem settled_update (hgraph : rules.graph = .stock) (h : Settled s) (now : Nat) (u : Update) :
    Settled (s.update rules now u).state := by
  cases haccept : s.profile.accept s.kind.scope u with
  | error e =>
      rw [update, haccept]
      exact h
  | ok q =>
      have haccepted : Settled { s with profile := q } := by
        intro d time hlast hd
        rw [Profile.accept_eq haccept] at hlast
        exact fulfils_withProfile (h d time hlast hd) q
      cases u with
      | command c =>
          rw [update_command haccept]
          exact settled_applyCommand hgraph haccepted now c
      | message m =>
          rw [update_message haccept]
          rcases applyMessage_cases now m { s with profile := q } with htold | hsame
          · rw [htold]
            intro d time hlast
            cases hlast
          · rw [hsame]
            exact haccepted

theorem settled_applySighting (h : Settled s) (sighting : Sighting) : Settled (s.applySighting sighting).1 := by
  intro d time hlast hd
  rw [(alike_applySighting sighting s).last] at hlast
  exact fulfils_applySighting (h d time hlast hd) sighting

/-! ## A run beside one that drops nothing -/

/-- Whether two states differ at most in when they were told what they were told last. -/
def Tracks (s t : MotiveState) : Prop :=
  ∃ last, t = s.lastTold last ∧ last.map Prod.fst = s.profile.last.map Prod.fst

theorem tracks_refl (s : MotiveState) : Tracks s s := ⟨s.profile.last, rfl, rfl⟩

/-- A command that one state drops and the other does not changes nothing in the other one. -/
theorem tracks_applyCommand (hgraph : rules.graph = .stock) (hc : c.isRelative = false) (hsettled : Settled s)
    (hlast : last.map Prod.fst = s.profile.last.map Prod.fst) (now window : Nat) :
    Tracks (s.applyCommand (rules.withDuplicateWindow window) now c).1
      ((s.lastTold last).applyCommand (rules.withDuplicateWindow 0) now c).1 := by
  have hlatched : (s.lastTold last).latchGeneration c = (s.latchGeneration c).lastTold last := by
    rw [latchGeneration_decided, latchGeneration_decided]
    rfl
  have hother := applyCommand_imprint hc (show (rules.withDuplicateWindow 0).graph = .stock from hgraph)
    (s.lastTold last) (Profile.repeats_zero _ c now)
  rw [hlatched] at hother
  cases hrepeats : s.profile.repeats c window now with
  | true =>
      obtain ⟨time, htold, -⟩ := Profile.repeats_eq_true_iff.mp hrepeats
      obtain ⟨hdecided, himprint⟩ := hsettled c time htold hc
      have hdropped : (s.applyCommand (rules.withDuplicateWindow window) now c).1 = s := by
        rcases applyCommand_cases (rules.withDuplicateWindow window) now c s with hsame | ⟨hnew, -⟩
        · exact hsame.trans hdecided
        · cases hrepeats.symm.trans hnew
      have hkept : (Imprint.ofCommand c s.direction).on ((s.latchGeneration c).lastTold last) = s.lastTold last := by
        rw [hdecided]
        exact congrArg (lastTold last) himprint
      refine ⟨if c.isRemembered then some (.command c, now) else last, ?_, ?_⟩ <;> rw [hdropped]
      · rw [hother]
        show ((Imprint.ofCommand c s.direction).on ((s.latchGeneration c).lastTold last)).lastTold _ = _
        rw [hkept]
        rfl
      cases c.isRemembered with
      | true => exact (congrArg (Option.map Prod.fst) htold).symm
      | false => exact hlast
  | false =>
      have hheard := applyCommand_imprint hc
        (show (rules.withDuplicateWindow window).graph = .stock from hgraph) s hrepeats
      refine ⟨if c.isRemembered then some (.command c, now) else last, ?_, ?_⟩
      · rw [hother, hheard]
        rfl
      · rw [hheard]
        cases c.isRemembered with
        | true => rfl
        | false => exact hlast

/-- A report is taken over in the same way whatever was told last. -/
theorem applyReport_lastTold (m : Message) (last : Option (Update × Nat)) (s : MotiveState) :
    (s.lastTold last).applyReport m = ((s.applyReport m).1.lastTold last, (s.applyReport m).2) := by
  have hfields : ∀ (r : RecordMessage) (record : MotiveRecord),
      applyRecordFields r record (s.lastTold last) = (applyRecordFields r record s).lastTold last := by
    intro r record
    unfold applyRecordFields
    dsimp only
    split <;> rfl
  cases m with
  | record r =>
      show applyRecord r (s.lastTold last) = ((applyRecord r s).1.lastTold last, (applyRecord r s).2)
      unfold applyRecord
      split
      · rfl
      · split
        · rename_i kind valid record _
          rw [hfields]
          cases kind <;> rfl
        · rfl
  | memory r => exact congrArg (·, !r.fields.isEmpty) (foldl_applyMemoryField_lastTold last r.fields s)
  | fourDigit r =>
      obtain ⟨code, recordNo, lookup⟩ := r
      cases lookup <;> rfl
  | _ => rfl

theorem tracks_applyMessage (hlast : last.map Prod.fst = s.profile.last.map Prod.fst) (now : Nat) (m : Message) :
    Tracks (s.applyMessage now m).1 ((s.lastTold last).applyMessage now m).1 := by
  have hsame := (alike_applyReport m s).last
  unfold applyMessage
  rw [applyReport_lastTold]
  generalize s.applyReport m = reported at hsame ⊢
  obtain ⟨r, changed⟩ := reported
  cases changed with
  | true => exact ⟨some (.message m, now), rfl, rfl⟩
  | false => exact ⟨last, rfl, hlast.trans (congrArg (Option.map Prod.fst) hsame.symm)⟩

theorem tracks_update (hgraph : rules.graph = .stock) {u : Update} (hu : ∀ c, u = .command c → c.isRelative = false)
    (hsettled : Settled s) (h : Tracks s t) (now window : Nat) :
    Tracks (s.update (rules.withDuplicateWindow window) now u).state
      (t.update (rules.withDuplicateWindow 0) now u).state := by
  obtain ⟨last, rfl, hlast⟩ := h
  have hother := Profile.accept_withLast s.kind.scope s.profile last u
  cases haccept : s.profile.accept s.kind.scope u with
  | error e =>
      rw [haccept] at hother
      have hrefused : (s.lastTold last).profile.accept (s.lastTold last).kind.scope u = .error e := hother
      unfold update
      rw [haccept, hrefused]
      exact ⟨last, rfl, hlast⟩
  | ok q =>
      rw [haccept] at hother
      have haccept' : (s.lastTold last).profile.accept (s.lastTold last).kind.scope u = .ok { q with last } := hother
      have hheld : q.last = s.profile.last := by rw [Profile.accept_eq haccept]
      have haccepted : Settled { s with profile := q } := by
        intro d time htold hd
        exact fulfils_withProfile (hsettled d time (hheld ▸ htold) hd) q
      rw [← hheld] at hlast
      cases u with
      | command c =>
          rw [update_command haccept, update_command haccept']
          exact tracks_applyCommand (s := { s with profile := q }) hgraph (hu c rfl) haccepted hlast now window
      | message m =>
          rw [update_message haccept, update_message haccept']
          exact tracks_applyMessage (s := { s with profile := q }) hlast now m

theorem tracks_applySighting (h : Tracks s t) (sighting : Sighting) :
    Tracks (s.applySighting sighting).1 (t.applySighting sighting).1 := by
  obtain ⟨last, rfl, hlast⟩ := h
  refine ⟨last, ?_, hlast.trans ?_⟩
  · unfold applySighting
    cases sighting.product <;> rfl
  · rw [(alike_applySighting sighting s).last]

end MotiveState

/-! ## Runs -/

namespace Incident

/-- Whether what a component goes through goes by the stock graph. -/
def ByStock : Incident → Prop
  | told rules _ _ => rules.graph = .stock
  | seen _ => True

/-- Whether what a component goes through is no relative command. -/
def IsAbsolute : Incident → Prop
  | told _ _ (.command c) => c.isRelative = false
  | _ => True

/-- The same with another window for repeated commands. -/
def withDuplicateWindow (window : Nat) : Incident → Incident
  | told rules now u => told (rules.withDuplicateWindow window) now u
  | seen sighting => seen sighting

end Incident

namespace Component

open MotiveState

theorem meet_seen (s : MotiveState) (sighting : Sighting) : (motive s).meet (.seen sighting) =
    motive (if s.kind = .engine then (s.applySighting sighting).1 else s) := by
  unfold meet applySighting
  dsimp only
  cases s.kind <;> rfl

theorem exists_settled_run {s : MotiveState} (h : Settled s) {history : List Incident}
    (hhistory : ∀ i ∈ history, i.ByStock) : ∃ t, (motive s).run history = motive t ∧ Settled t := by
  refine run_induction (P := fun c => ∃ t, c = motive t ∧ Settled t) ⟨s, rfl, h⟩ ?_
  rintro d i hi ⟨t, rfl, ht⟩
  cases i with
  | told rules now u => exact ⟨_, rfl, settled_update (hhistory _ hi) ht now u⟩
  | seen sighting =>
      refine ⟨_, meet_seen t sighting, ?_⟩
      split
      · exact settled_applySighting ht sighting
      · exact ht

/-- A run by any window, and beside it one that drops nothing. -/
theorem exists_tracks_run {s t : MotiveState} (hsettled : Settled s) (htracks : Tracks s t) (window : Nat)
    {history : List Incident} (hhistory : ∀ i ∈ history, i.ByStock ∧ i.IsAbsolute) :
    ∃ s' t', (motive s).run (history.map (.withDuplicateWindow window)) = motive s' ∧
      (motive t).run (history.map (.withDuplicateWindow 0)) = motive t' ∧ Tracks s' t' := by
  induction history generalizing s t with
  | nil => exact ⟨s, t, rfl, rfl, htracks⟩
  | cons i rest ih =>
      obtain ⟨⟨hgraph, habsolute⟩, hrest⟩ := List.forall_mem_cons.mp hhistory
      cases i with
      | told rules now u =>
          have hu : ∀ c, u = .command c → c.isRelative = false := by
            rintro c rfl
            exact habsolute
          have hgraph' : (rules.withDuplicateWindow window).graph = .stock := hgraph
          exact ih (settled_update hgraph' hsettled now u) (tracks_update hgraph hu hsettled htracks now window) hrest
      | seen sighting =>
          have hkind : t.kind = s.kind := by
            obtain ⟨last, rfl, -⟩ := htracks
            rfl
          show ∃ s' t', ((motive s).meet (.seen sighting)).run _ = motive s' ∧
            ((motive t).meet (.seen sighting)).run _ = motive t' ∧ Tracks s' t'
          rw [meet_seen, meet_seen, hkind]
          split
          · exact ih (settled_applySighting hsettled sighting) (tracks_applySighting htracks sighting) hrest
          · exact ih hsettled htracks hrest

/-- Take an engine or a train as it was built, after anything that it was told and that was seen of it under the stock
graph, and go on with anything but relative commands: other commands, halts and messages at any times, and sightings.
What is believed of it then is the same however long the window is in which repeated commands are dropped. -/
theorem window_makes_no_difference {kind : MotiveKind} {start : Option UInt16} {c : Component}
    (hbuild : build kind.scope start = .ok c) {history later : List Incident} (hhistory : ∀ i ∈ history, i.ByStock)
    (hlater : ∀ i ∈ later, i.ByStock ∧ i.IsAbsolute) (window window' : Nat) :
    let d := c.run history
    (d.run (later.map (.withDuplicateWindow window))).believed =
      (d.run (later.map (.withDuplicateWindow window'))).believed := by
  obtain ⟨s, rfl⟩ := exists_motive (c := c) (by
    rw [(built_of_build hbuild).scope_eq]
    cases kind <;> rfl)
  have hfresh : Settled s := by
    intro d time hlast
    rw [show s.profile = .fresh s.profile.address from (built_of_build hbuild).fresh] at hlast
    cases hlast
  obtain ⟨t, ht, hsettled⟩ := exists_settled_run hfresh hhistory
  have hsame : ∀ window, ((motive t).run (later.map (.withDuplicateWindow window))).believed =
      ((motive t).run (later.map (.withDuplicateWindow 0))).believed := by
    intro window
    obtain ⟨r, r', hr, hr', last, rfl, -⟩ := exists_tracks_run hsettled (tracks_refl t) window hlater
    rw [hr, hr', believed_lastTold]
  intro d
  rw [show d = motive t from ht, hsame window, hsame window']

/-- A speed and a halt come twice, each time within a second: with a window of a second the second ones are dropped. -/
theorem window_makes_no_difference_halted :
    let tell (operation : Operation) (data : Option UInt16) (now : Nat) : Incident :=
      .told ⟨.stock, .standard⟩ now (.command ⟨operation, 12, data, .engine⟩)
    let speed : Operation := .engine .legacy .absoluteSpeed
    let later : List Incident :=
      [tell speed (some 30) 100, tell speed (some 30) 700, tell .halt none 800, tell .halt none 900]
    ∃ c, build .engine (some 12) = .ok c ∧
      let d := c.run [tell (.engine .legacy .rpmUp) none 0]
      let long := d.run (later.map (.withDuplicateWindow 1000))
      let short := d.run (later.map (.withDuplicateWindow 0))
      long.believed = short.believed ∧ long.profile.last.map Prod.snd = some 800 ∧
        short.profile.last.map Prod.snd = some 900 := by
  intro tell speed later
  have hbuild : build MotiveKind.engine.scope (some 12) = .ok (.motive (.fresh .engine (.fresh (some 12)))) := rfl
  refine ⟨_, hbuild, window_makes_no_difference hbuild ?_ ?_ 1000 0, by decide +kernel, by decide +kernel⟩
  · rintro i (_ | ⟨_, ⟨⟩⟩)
    rfl
  · simp only [later, List.forall_mem_cons, List.not_mem_nil, false_implies, implies_true, and_true]
    exact ⟨⟨rfl, rfl⟩, ⟨rfl, rfl⟩, ⟨rfl, rfl⟩, rfl, rfl⟩

end Component
end RailLayout
