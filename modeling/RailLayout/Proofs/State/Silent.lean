import RailLayout.Proofs.State.Accessory.Kept
import RailLayout.Proofs.State.Shown
import RailLayout.Proofs.Store.Script

/-!
Updates that report that nothing has changed. What a component shows is then the same as before, except in a few cases
(`Component.Unannounced`): the first report of a block that has nothing to report, the first message of a board that
says nothing of an accessory, a command that decides the generation of an engine and no more, a repeated direction that
the graph lets press a number key, and an address of an engine that was sighted before it had one. In each of these
cases what is shown does change (`Component.sameAnswers_iff`).
-/

namespace RailLayout

theorem Outcome.of_map {σ τ : Type} {f : σ → τ} {o : Outcome σ} {after : τ} {verdict : Except Error Bool}
    (h : o.map f = ⟨after, verdict⟩) : ∃ t, o = ⟨t, verdict⟩ ∧ after = f t := by
  cases h
  exact ⟨o.state, rfl, rfl⟩

/-- An outcome that reports no change, by a step that changes nothing then. -/
theorem Outcome.of_silent {σ τ : Type} {f : σ → τ} {s t : σ} {changed : Bool} {after : τ}
    (h : Outcome.map f ⟨t, .ok changed⟩ = ⟨after, .ok false⟩) (hstep : changed = false → t = s) : after = f s := by
  cases h
  exact congrArg f (hstep rfl)

/-! ## Engines and trains -/

namespace MotiveState

variable {s t : MotiveState} {rules : Rules} {now : Nat}

/-- Whether a command decides the generation. -/
def Decides (u : Update) (s : MotiveState) : Prop := s.legacy = none ∧ ∃ c, u = .command c ∧ u.isHalt = false

/-- Whether a command asks for the direction already set and the graph presses another number key than the last. -/
def Renumbers (rules : Rules) (now : Nat) (u : Update) (s : MotiveState) : Prop :=
  ∃ c generation op n, u = .command c ∧ c.operation = .engine generation op ∧ s.keepsDirection op = true ∧
    s.profile.repeats c rules.settings.duplicateWindow now = false ∧
      Effects.data? (Effects.ofCommand rules.graph c) .numeric = some n ∧ s.numeric ≠ some n

theorem latchGeneration_eq (s : MotiveState) (c : Command) :
    ∃ legacy, s.latchGeneration c = { s with legacy := legacy } ∧ (legacy = s.legacy ↔ ¬Decides (.command c) s) := by
  unfold latchGeneration
  split
  · rename_i hdecides
    refine ⟨_, rfl, fun hsame => ?_, fun hnot => absurd ⟨hdecides.1, c, rfl, hdecides.2⟩ hnot⟩
    rw [hdecides.1] at hsame
    cases hsame
  · rename_i hnot
    refine ⟨s.legacy, rfl, fun _ hdecides => ?_, fun _ => rfl⟩
    obtain ⟨hunknown, -, -, hhalt⟩ := hdecides
    exact hnot ⟨hunknown, hhalt⟩

theorem applyNumeric_eq (s : MotiveState) {op : EngineOp} (hop : op ≠ .numeric) (data : Option UInt16)
    (effects : TriggerSet) :
    s.applyNumeric op data effects = { s with numeric := (Effects.data? effects .numeric).or s.numeric } := by
  unfold applyNumeric
  rw [if_neg hop]
  split <;> rename_i hnumber <;> rw [hnumber] <;> rfl

/-- A command that reports no change at most decides the generation, presses a number key and is remembered. -/
theorem applyCommand_silent {c : Command} (h : s.applyCommand rules now c = (t, false)) :
    ∃ last legacy numeric,
      t = { s with profile := { s.profile with last := last }, legacy := legacy, numeric := numeric } ∧
        (legacy = s.legacy ↔ ¬Decides (.command c) s) ∧
          (numeric = s.numeric ↔ ¬Renumbers rules now (.command c) s) := by
  obtain ⟨legacy, hlatched, hlegacy⟩ := latchGeneration_eq s c
  rw [applyCommand, hlatched] at h
  dsimp only at h
  split at h
  · rename_i hrepeats
    cases h
    refine ⟨s.profile.last, legacy, s.numeric, rfl, hlegacy, iff_of_true rfl ?_⟩
    rintro ⟨d, -, -, -, hd, -, -, hnew, -⟩
    cases hd
    rw [hnew] at hrepeats
    cases hrepeats
  · rename_i hrepeats
    split at h
    · cases h
    · split at h
      · rename_i generation op hop
        unfold applyOperation at h
        dsimp only at h
        split at h
        · rename_i hkeeps
          cases h
          rw [keepsDirection_congr (core_applyNumeric _ op c.data _)] at hkeeps
          have hkeeps : s.keepsDirection op = true := hkeeps
          have hturn : op ≠ .numeric := by
            intro hsame
            subst hsame
            cases hkeeps
          refine ⟨some (.command c, now), legacy,
            (Effects.data? (Effects.ofCommand rules.graph c) .numeric).or s.numeric, ?_, hlegacy, ?_⟩
          · rw [applyNumeric_eq _ hturn]
            rfl
          · cases hnumber : Effects.data? (Effects.ofCommand rules.graph c) .numeric with
            | none =>
                refine iff_of_true rfl ?_
                rintro ⟨d, -, -, n, hd, -, -, -, hn, -⟩
                cases hd
                rw [hnumber] at hn
                cases hn
            | some n =>
                constructor
                · rintro hsame ⟨d, -, -, m, hd, -, -, -, hm, hne⟩
                  cases hd
                  rw [hnumber] at hm
                  cases hm
                  exact hne hsame.symm
                · intro hnot
                  refine Classical.byContradiction fun hne => hnot ?_
                  exact ⟨c, generation, op, n, rfl, hop, hkeeps, eq_false_of_ne_true hrepeats, hnumber,
                    fun hsame => hne hsame.symm⟩
        · cases h
      · rename_i hother
        cases h
        refine ⟨s.profile.last, legacy, s.numeric, rfl, hlegacy, iff_of_true rfl ?_⟩
        rintro ⟨d, generation, op, -, hd, hop, -⟩
        cases hd
        exact hother generation op hop

theorem update_silent {u : Update} {q : Profile} (haccept : s.profile.accept s.kind.scope u = .ok q)
    (h : s.update rules now u = ⟨t, .ok false⟩) :
    ∃ last legacy numeric, t = { s with profile := { q with last := last }, legacy := legacy, numeric := numeric } ∧
      (legacy = s.legacy ↔ ¬Decides u s) ∧ (numeric = s.numeric ↔ ¬Renumbers rules now u s) := by
  cases u with
  | command c =>
      rw [update_command haccept] at h
      have hsilent : ({ s with profile := q } : MotiveState).applyCommand rules now c = (t, false) :=
        Prod.ext (congrArg Outcome.state h) (Except.ok.inj (congrArg Outcome.verdict h))
      have hlast : q.last = s.profile.last := by rw [Profile.accept_eq haccept]
      obtain ⟨last, legacy, numeric, rfl, hlegacy, hnumeric⟩ := applyCommand_silent hsilent
      refine ⟨last, legacy, numeric, rfl, hlegacy, ?_⟩
      simp only [Renumbers, Profile.repeats, hlast] at hnumeric ⊢
      exact hnumeric
  | message m =>
      rw [update_message haccept] at h
      refine ⟨q.last, s.legacy, s.numeric, ?_, iff_of_true rfl ?_, iff_of_true rfl ?_⟩
      · rcases applyMessage_cases now m { s with profile := q } with hchanged | hsame
        · rw [hchanged] at h
          cases h
        · rw [hsame] at h
          cases h
          rfl
      · rintro ⟨-, c, hc, -⟩
        cases hc
      · rintro ⟨c, -, -, -, hc, -⟩
        cases hc

end MotiveState

/-! ## The other kinds -/

theorem SwitchState.apply_silent {now : Nat} {u : Update} {s : SwitchState} (h : (apply now u s).2 = false) :
    (apply now u s).1 = s := by
  revert h
  unfold apply applyPosition applyRecord
  repeat' split
  all_goals first | exact fun _ => rfl | exact fun h => absurd h Bool.noConfusion

theorem RouteState.apply_silent {now : Nat} {u : Update} {s : RouteState} (h : (apply now u s).2 = false) :
    (apply now u s).1 = s := by
  revert h
  unfold apply
  repeat' split
  all_goals first | exact fun _ => rfl | exact fun h => absurd h Bool.noConfusion

theorem SensorTrackState.apply_silent {now : Nat} {u : Update} {s : SensorTrackState}
    (h : (apply now u s).2 = false) : (apply now u s).1 = s := by
  revert h
  unfold apply
  repeat' split
  all_goals first | exact fun _ => rfl | exact fun h => absurd h Bool.noConfusion

theorem BaseState.apply_silent {now : Nat} {u : Update} {s : BaseState} (h : (apply now u s).2 = false) :
    (apply now u s).1 = s := by
  revert h
  unfold apply
  repeat' split
  all_goals first | exact fun _ => rfl | exact fun h => absurd h Bool.noConfusion

theorem SyncState.apply_silent {now : Nat} {u : Update} {s : SyncState} (h : (apply now u s).2 = false) :
    (apply now u s).1 = s := by
  revert h
  unfold apply
  repeat' split
  all_goals first | exact fun _ => rfl | exact fun h => absurd h Bool.noConfusion

namespace AccessoryState

variable {rules : Rules} {now : Nat} {s t : AccessoryState}

/-- A command that reports no change is at most remembered. -/
theorem applyCommand_silent {c : Command} (h : s.applyCommand rules now c = (t, false)) :
    ∃ last, t = { s with profile := { s.profile with last := last } } := by
  unfold applyCommand at h
  split at h
  · cases h
  · split at h
    · rename_i op hop
      unfold applyOperation at h
      dsimp only at h
      by_cases hnumber : op = .numeric
      · subst hnumber
        simp only [if_true, beq_self_eq_true] at h
        split at h <;> cases h
      · rw [if_neg hnumber] at h
        split at h
        · obtain ⟨rfl, -⟩ := Prod.mk.inj h
          exact ⟨_, rfl⟩
        · cases h
    · cases h
      exact ⟨_, rfl⟩

/-- Whether a board that speaks to an accessory decides by it what drives it. -/
def Identifies (u : Update) (s : AccessoryState) : Prop :=
  s.kind = .plain ∧ ∃ m offered, u = .message m ∧ kindOf? m = some offered

theorem applyBoard_silent {m : Message} (h : s.applyBoard m = (t, false)) : t = s := by
  unfold applyBoard at h
  split at h
  · unfold applyRelay at h
    repeat' split at h
    all_goals cases h <;> rfl
  · unfold applyDistrict at h
    split at h
    · cases h
    · cases h
    · cases h
      rfl
  · unfold applyOutputMessage at h
    split at h
    · rename_i config hconfig
      obtain ⟨rfl, hsame⟩ := Prod.mk.inj h
      rw [bne_eq_false_iff_eq.mp hsame, ← hconfig]
    · split at h
      · cases h
      · cases h
        rfl
  · unfold applySensor at h
    split at h <;> cases h
  · cases h
    rfl

/-- A message that reports no change at most decides what drives the accessory. -/
theorem applyMessage_silent {m : Message} (h : s.applyMessage now m = ⟨t, .ok false⟩) :
    ∃ kind, t = { s with kind := kind } ∧ (kind = s.kind ↔ ¬Identifies (.message m) s) := by
  have hother {same : AccessoryState} (hsame : same = s) (hnone : kindOf? m = none) :
      ∃ kind, same = { s with kind := kind } ∧ (kind = s.kind ↔ ¬Identifies (.message m) s) := by
    refine ⟨s.kind, hsame, iff_of_true rfl ?_⟩
    rintro ⟨-, n, offered, hn, hoffered⟩
    cases hn
    rw [hnone] at hoffered
    cases hoffered
  unfold applyMessage at h
  split at h
  · rename_i r
    unfold applyRecord at h
    dsimp only at h
    split at h
    · cases h
      exact hother rfl rfl
    · cases h
  · split at h
    · rename_i offered hoffered
      unfold applyKind at h
      split at h
      · rename_i hfits
        split at h
        · cases h
        · rename_i next hboard
          cases h
          refine ⟨offered, applyBoard_silent hboard, fun hsame hidentifies => ?_, fun hnot => ?_⟩
          · exact ne_plain_of_kindOf? hoffered (hsame.trans hidentifies.1)
          · rcases hfits with hplain | hsame
            · exact absurd ⟨hplain, _, offered, rfl, hoffered⟩ hnot
            · exact hsame.symm
      · cases h
    · rename_i hnone
      cases h
      exact hother rfl hnone

end AccessoryState

/-- Whether a report is the first one of a block. -/
def BlockState.FirstReported (u : Update) (s : BlockState) : Prop :=
  s.flags = none ∧ ∃ r, u = .message (.block r)

/-- A report that reports no change says what the state says, except that it can be the first one. -/
theorem BlockState.apply_silent {now : Nat} {u : Update} {s : BlockState} (hbound : s.profile.recordNo?.isSome = true)
    (h : (apply now u s).2 = false) :
    ∃ last flags, (apply now u s).1 = { s with profile := { s.profile with last := last }, flags := flags } ∧
      (flags = s.flags ↔ ¬FirstReported u s) := by
  unfold apply at h ⊢
  split
  · rename_i r
    obtain ⟨blockId, hblock⟩ := Option.isSome_iff_exists.mp hbound
    have hsaid : s.toReport? = (applyReport r s).toReport? := bne_eq_false_iff_eq.mp h
    have hnext : (applyReport r s).profile.recordNo? = some blockId := hblock
    simp only [toReport?, hblock, hnext, Option.map_some, Option.some.injEq, BlockReport.mk.injEq, true_and] at hsaid
    obtain ⟨hprev, hafter, hflags, htrack, hswitch, hoccupant, hname⟩ := hsaid
    have hprofile : s.profile = (applyReport r s).profile := by
      show s.profile = { s.profile with roadName := (applyReport r s).profile.roadName }
      rw [← hname]
    have hnew : applyReport r s = { s with flags := some r.flags } := by
      rw [hprev, hafter, htrack, hswitch, hoccupant, hprofile]
      rfl
    refine ⟨some (.message (.block r), now), some r.flags, ?_, ?_⟩
    · dsimp only
      rw [hnew]
      rfl
    · cases hfirst : s.flags with
      | none =>
          refine iff_of_false (Option.some_ne_none _) fun hnot => hnot ⟨hfirst, r, rfl⟩
      | some flags =>
          rw [hfirst] at hflags
          refine iff_of_true (congrArg some hflags.symm) fun hreported => ?_
          rw [hreported.1] at hfirst
          cases hfirst
  · rename_i hother
    refine ⟨s.profile.last, s.flags, rfl, iff_of_true rfl ?_⟩
    rintro ⟨-, r, rfl⟩
    exact hother r rfl

namespace Component

/-- Whether an update changes what a component shows though it reports no change: see the single cases. -/
def Unannounced (rules : Rules) (now : Nat) (u : Update) (c : Component) : Prop :=
  Surfaces u c ∨
    match c with
    | motive s => s.Decides u ∨ s.Renumbers rules now u
    | accessory s => s.Identifies u
    | block s => s.FirstReported u
    | _ => False

variable {rules : Rules} {now : Nat} {u : Update} {q : Profile} {after : Component}

/-- A record that becomes known under an address is in the bytes. -/
theorem not_sameAnswers_of_surfaces {s t : MotiveState} (hbare : Bare (motive s)) (hfree : s.profile.address = none)
    (hsaid : t.hasRecordFields = true) {address : UInt16} (hbound : t.profile.address = some address)
    (hlow : address ≤ 99) : ¬SameAnswers (motive s) (motive t) := by
  intro hsame
  have hempty : ((motive t).encode CommandTable.codec).run [] = (.ok [], []) := by
    rw [hsame.encode CommandTable.codec, encode, script_of_unbound hbare hfree]
    rfl
  have hscript : ∃ m rest, (motive t).script = .message m :: rest := by
    rw [script, MotiveState.script, hbound]
    dsimp only
    rw [MotiveState.recordUpdates, if_pos ⟨hsaid, hlow⟩]
    exact ⟨_, _, rfl⟩
  obtain ⟨m, rest, hscript⟩ := hscript
  rw [encode, hscript] at hempty
  obtain ⟨first, mid, more, hfirst, -, hnone⟩ := Update.encodeAll_cons_eq_ok hempty
  rw [Update.encode_message] at hfirst
  cases hfirst
  rw [Message.encode, Frame.encode_eq] at hnone
  cases hnone

theorem sameAnswers_motive_iff {s : MotiveState} (haccept : s.profile.accept s.kind.scope u = .ok q)
    (hbare : s.profile.address = none → Bare (motive s))
    (hsilent : (motive s).update rules now u = ⟨after, .ok false⟩) :
    SameAnswers (motive s) after ↔ ¬Unannounced rules now u (motive s) := by
  obtain ⟨t, ht, rfl⟩ := Outcome.of_map hsilent
  obtain ⟨last, legacy, numeric, rfl, hlegacy, hnumeric⟩ := MotiveState.update_silent haccept ht
  constructor
  · rintro hsame (⟨r, scope, address, hr, hfree, hsaid, htarget, hlow⟩ | hdecides | hrenumbers)
    · cases hr
      obtain ⟨received, other, hother, -, ⟨bound, hbound, -⟩ | ⟨-, -, -, rfl⟩⟩ := Profile.of_accept haccept
      · rw [hfree] at hbound
        cases hbound
      · rw [htarget] at hother
        cases hother
        refine not_sameAnswers_of_surfaces (hbare hfree) hfree ?_ rfl hlow hsame
        exact hsaid
    · have hshown : legacy = s.legacy := congrArg MotiveState.legacy (Component.motive.inj hsame.shown)
      exact hlegacy.mp hshown hdecides
    · have hshown : numeric = s.numeric := congrArg MotiveState.numeric (Component.motive.inj hsame.shown)
      exact hnumeric.mp hshown hrenumbers
  · intro hnot
    rw [hlegacy.mpr fun hdecides => hnot (Or.inr (Or.inl hdecides)),
      hnumeric.mpr fun hrenumbers => hnot (Or.inr (Or.inr hrenumbers))]
    exact sameAnswers_withProfile (c := motive s) haccept hbare (fun hseen => hnot (Or.inl hseen)) last

theorem not_surfaces (h : c.scope.isMotive = false) : ¬Surfaces u c := by
  rintro ⟨s, -, -, rfl, -⟩
  cases hkind : s.kind <;> rw [scope, hkind] at h <;> cases h

theorem sameAnswers_accessory_iff {s : AccessoryState} (haccept : s.profile.accept .accessory u = .ok q)
    (hbare : s.profile.address = none → Bare (accessory s))
    (hsilent : (accessory s).update rules now u = ⟨after, .ok false⟩) :
    SameAnswers (accessory s) after ↔ ¬Unannounced rules now u (accessory s) := by
  have hunseen : ¬Surfaces u (accessory s) := not_surfaces rfl
  obtain ⟨t, ht, rfl⟩ := Outcome.of_map hsilent
  cases u with
  | command c =>
      rw [AccessoryState.update_command haccept] at ht
      have hcommand : ({ s with profile := q } : AccessoryState).applyCommand rules now c = (t, false) :=
        Prod.ext (congrArg Outcome.state ht) (Except.ok.inj (congrArg Outcome.verdict ht))
      obtain ⟨last, rfl⟩ := AccessoryState.applyCommand_silent hcommand
      refine iff_of_true (sameAnswers_withProfile (c := accessory s) haccept hbare hunseen last) ?_
      rintro (hseen | ⟨-, m, -, hm, -⟩)
      · exact hunseen hseen
      · cases hm
  | message m =>
      rw [AccessoryState.update_message haccept] at ht
      obtain ⟨kind, rfl, hkind⟩ := AccessoryState.applyMessage_silent ht
      constructor
      · rintro hsame (hseen | hidentifies)
        · exact hunseen hseen
        · have hshown : kind = s.kind := congrArg AccessoryState.kind (Component.accessory.inj hsame.shown)
          exact hkind.mp hshown hidentifies
      · intro hnot
        rw [hkind.mpr fun hidentifies => hnot (Or.inr hidentifies)]
        exact sameAnswers_withProfile (c := accessory s) haccept hbare hunseen q.last

theorem sameAnswers_block_iff {s : BlockState} (haccept : s.profile.accept .block u = .ok q)
    (hbare : s.profile.address = none → Bare (block s)) (hbound : q.recordNo?.isSome = true)
    (hsilent : (block s).update rules now u = ⟨after, .ok false⟩) :
    SameAnswers (block s) after ↔ ¬Unannounced rules now u (block s) := by
  have hunseen : ¬Surfaces u (block s) := not_surfaces rfl
  obtain ⟨t, ht, rfl⟩ := Outcome.of_map hsilent
  rw [BlockState.update_of_accept haccept] at ht
  obtain ⟨rfl, hverdict⟩ := Outcome.mk.inj ht
  obtain ⟨last, flags, hafter, hflags⟩ := BlockState.apply_silent (s := { s with profile := q }) hbound
    (Except.ok.inj hverdict)
  rw [hafter]
  constructor
  · rintro hsame (hseen | hfirst)
    · exact hunseen hseen
    · have hknown : flags.isSome = s.flags.isSome := hsame.isKnown
      rw [hfirst.1, Option.isSome_none, Option.isSome_eq_false_iff, Option.isNone_iff_eq_none] at hknown
      exact hflags.mp (hknown.trans hfirst.1.symm) hfirst
  · intro hnot
    rw [hflags.mpr fun hfirst => hnot (Or.inr hfirst)]
    exact sameAnswers_withProfile (c := block s) haccept hbare hunseen last

/-- The kinds that have no unannounced changes stay as they were. -/
theorem sameAnswers_of_unchanged (haccept : c.profile.accept c.scope u = .ok q)
    (hbare : c.profile.address = none → Bare c) (hscope : c.scope.isMotive = false)
    (hnone : Unannounced rules now u c → Surfaces u c ∨ False) (hafter : after = c.withProfile q) :
    SameAnswers c after ↔ ¬Unannounced rules now u c := by
  rw [hafter]
  refine iff_of_true (sameAnswers_withProfile haccept hbare (not_surfaces hscope) q.last) fun hun => ?_
  exact (hnone hun).elim (not_surfaces hscope) id

/-- Take a component after anything it went through, and an update that reports no change. The component gives the same
answers as before, if and only if none of the unannounced changes is made. -/
theorem sameAnswers_iff {scope : Scope} {start : Option UInt16} {c : Component} (hbuild : build scope start = .ok c)
    (history : List Incident) {rules : Rules} {now : Nat} {u : Update} {after : Component}
    (hsilent : (c.run history).update rules now u = ⟨after, .ok false⟩) :
    SameAnswers (c.run history) after ↔ ¬Unannounced rules now u (c.run history) := by
  have hbare := bare_run hbuild history
  have hadmits : ∀ a, ((c.run history).update rules now u).state.profile.address = some a → scope.admits a = true := by
    intro a ha
    refine admits_run hbuild (history ++ [.told rules now u]) ?_
    rw [run, List.foldl_append]
    exact ha
  have hscope := scope_run_of_build hbuild history
  generalize c.run history = d at hsilent hbare hadmits hscope ⊢
  cases haccept : d.profile.accept d.scope u with
  | error e =>
      rw [update_of_refused haccept] at hsilent
      cases hsilent
  | ok q =>
      cases d with
      | motive s => exact sameAnswers_motive_iff haccept hbare hsilent
      | accessory s => exact sameAnswers_accessory_iff haccept hbare hsilent
      | block s =>
          have htook : Took (block s) q u now ((block s).update rules now u) := took_of_accepted haccept
          obtain ⟨bound, hbound⟩ := Option.isSome_iff_exists.mp (Profile.isSome_address_of_accept haccept)
          have hscope : Scope.block = scope := hscope
          have hrange : bound ≤ 99 := by
            have hin := hadmits bound (htook.told.address.trans hbound)
            rw [← hscope] at hin
            exact (of_decide_eq_true hin).2
          have hrecord : q.recordNo?.isSome = true := by
            rw [Profile.recordNo?, hbound]
            dsimp only
            rw [if_pos (UInt16.le_trans hrange (by decide))]
            rfl
          exact sameAnswers_block_iff haccept hbare hrecord hsilent
      | switch s =>
          rw [update, SwitchState.update_of_accept haccept] at hsilent
          have hafter := Outcome.of_silent hsilent SwitchState.apply_silent
          exact sameAnswers_of_unchanged (c := switch s) haccept hbare rfl id hafter
      | route s =>
          rw [update, RouteState.update_of_accept haccept] at hsilent
          have hafter := Outcome.of_silent hsilent RouteState.apply_silent
          exact sameAnswers_of_unchanged (c := route s) haccept hbare rfl id hafter
      | sensorTrack s =>
          rw [update, SensorTrackState.update_of_accept haccept] at hsilent
          have hafter := Outcome.of_silent hsilent SensorTrackState.apply_silent
          exact sameAnswers_of_unchanged (c := sensorTrack s) haccept hbare rfl id hafter
      | base s =>
          rw [update, BaseState.update_of_accept haccept] at hsilent
          have hafter := Outcome.of_silent hsilent BaseState.apply_silent
          exact sameAnswers_of_unchanged (c := base s) haccept hbare rfl id hafter
      | sync s =>
          rw [update, SyncState.update_of_accept haccept] at hsilent
          have hafter := Outcome.of_silent hsilent SyncState.apply_silent
          exact sameAnswers_of_unchanged (c := sync s) haccept hbare rfl id hafter

/-- The first report of block 4 says nothing but that it is there. The block is known from then on, and the report is in
its bytes, yet no change is reported. -/
theorem sameAnswers_iff_blank :
    let blank : Update := .message (.block ⟨4, none, none, 0, none, none, none, none⟩)
    ∃ c after, build .block none = .ok c ∧ (c.run []).update ⟨.stock, .standard⟩ 0 blank = ⟨after, .ok false⟩ ∧
      (c.isKnown, after.isKnown) = (false, true) ∧ ¬SameAnswers (c.run []) after := by
  intro blank
  have hbuild : build .block none = .ok (block (.fresh (.fresh none))) := rfl
  have hsilent : ((block (.fresh (.fresh none))).run []).update ⟨.stock, .standard⟩ 0 blank =
      ⟨block ⟨⟨some 4, none, none, some (blank, 0)⟩, some 0, none, none, none, none, none⟩, .ok false⟩ := rfl
  have hfirst : Unannounced ⟨.stock, .standard⟩ 0 blank ((block (.fresh (.fresh none))).run []) :=
    Or.inr ⟨rfl, _, rfl⟩
  exact ⟨_, _, hbuild, hsilent, rfl, fun hsame => (sameAnswers_iff hbuild [] hsilent).mp hsame hfirst⟩

end Component
end RailLayout
