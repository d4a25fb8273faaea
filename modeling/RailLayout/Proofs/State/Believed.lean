import RailLayout.Proofs.Message.Bare
import RailLayout.Proofs.State.Silent

/-!
What is believed of a component: everything but what it was told last, and when (`Component.believed`). A message that
carries no data can bind an address, and the first board that speaks for an accessory is taken for what drives it; it
teaches a component nothing besides (`Component.learned_update`). So an answer that reports a failure leaves all that is
believed of a component as it is, unless it is the first to tell the component's address, or the first to come from a
board (`Component.failure_teaches_nothing`).
-/

namespace RailLayout

/-! ## Messages without data, kind by kind -/

section Bare

variable {m : Message} (hbare : m.IsBare)
include hbare

theorem MotiveState.applyMessage_of_bare (now : Nat) (s : MotiveState) : s.applyMessage now m = (s, false) := by
  have hreport : s.applyReport m = (s, false) := by
    cases m with
    | record r =>
        rcases hbare with hquestion | hfailed
        · obtain ⟨recordNo, flags, status, spare, contents⟩ := r
          cases contents with
          | none kind =>
              rw [applyReport, applyRecord]
              split <;> rfl
          | _ => cases hquestion
        · exact if_pos (Or.inl hfailed)
    | memory r =>
        rw [applyReport, applyMemory, show r.fields = [] from hbare]
        rfl
    | fourDigit r =>
        obtain ⟨code, recordNo, lookup⟩ := r
        cases lookup <;> first | rfl | exact hbare.elim
    | speed r => exact hbare.elim
    | _ => rfl
  rw [applyMessage, hreport]

theorem liveRecord?_of_bare {r : RecordMessage} (hr : m = .record r) : liveRecord? r = none := by
  subst hr
  rcases hbare with hquestion | hfailed
  · obtain ⟨recordNo, flags, status, spare, contents⟩ := r
    cases contents with
    | none kind =>
        unfold liveRecord?
        split <;> rfl
    | _ => cases hquestion
  · exact if_pos (Or.inl hfailed)

theorem SwitchState.apply_of_bare (now : Nat) (s : SwitchState) : apply now (.message m) s = (s, false) := by
  cases m with
  | record r =>
      rw [apply, applyRecord, liveRecord?_of_bare hbare rfl]
  | board board b =>
      obtain ⟨code, address, action, fault, body⟩ := b
      cases (show body = .empty from hbare)
      cases board <;> cases fault <;> rfl
  | _ => rfl

theorem RouteState.apply_of_bare (now : Nat) (s : RouteState) : apply now (.message m) s = (s, false) := by
  cases m with
  | record r =>
      rw [apply, liveRecord?_of_bare hbare rfl]
  | _ => rfl

theorem SensorTrackState.apply_of_bare (now : Nat) (s : SensorTrackState) : apply now (.message m) s = (s, false) := by
  cases m with
  | board board b =>
      obtain ⟨code, address, action, fault, body⟩ := b
      cases (show body = .empty from hbare)
      cases board <;> cases fault <;> rfl
  | _ => rfl

theorem BlockState.apply_of_bare (now : Nat) (s : BlockState) : apply now (.message m) s = (s, false) := by
  cases m with
  | block r => exact hbare.elim
  | _ => rfl

theorem BaseState.apply_of_bare (now : Nat) (s : BaseState) : apply now (.message m) s = (s, false) := by
  have hmessage : applyMessage? m s = none := by
    cases m with
    | record r =>
        obtain ⟨recordNo, flags, status, spare, contents⟩ := r
        cases contents with
        | base valid info => exact if_neg (hbare.resolve_left Bool.false_ne_true)
        | _ => rfl
    | fourDigit r =>
        obtain ⟨code, recordNo, lookup⟩ := r
        cases lookup with
        | count postAction n =>
            cases (show n = none from hbare)
            rfl
        | _ => first | rfl | exact hbare.elim
    | _ => rfl
  rw [apply, hmessage]

namespace AccessoryState

theorem applyBoard_of_bare (s : AccessoryState) : (s.applyBoard m).1 = s := by
  cases m with
  | board board b =>
      obtain ⟨code, address, action, fault, body⟩ := b
      cases (show body = .empty from hbare)
      cases board with
      | asc2 | bpc2 =>
          cases fault with
          | none =>
              cases action with
              | common action => rfl
              | own action => cases action <;> rfl
          | some fault => rfl
      | amc2 =>
          cases houtput : s.output with
          | none =>
              simp only [applyBoard, applyOutputMessage, houtput]
              split
              · rename_i hconfig
                cases hconfig
              · rfl
          | some config =>
              -- A configuration is put back as it was.
              have hsame : config.fold ⟨code, address, action, fault, .empty⟩ = config := by
                unfold OutputConfig.fold
                split <;> rfl
              simp only [applyBoard, applyOutputMessage, houtput, OutputConfig.update, hsame]
              rw [← houtput]
      | _ => rfl
  | _ => rfl

end AccessoryState

end Bare

namespace Component

variable {c d : Component} {rules : Rules} {now : Nat} {u : Update} {m : Message} {q : Profile}

/-! ## Beliefs -/

/-- What is believed of a component: all but what it was told last, and when. -/
def believed (c : Component) : Component := c.withProfile { c.profile with last := none }

/-- The kind of board that drives a component, if it is an accessory. -/
def driver? : Component → Option AccessoryKind
  | accessory s => some s.kind
  | _ => none

/-- The component, driven by the board that a message is from if nothing drives it yet. -/
def drivenBy (m : Message) : Component → Component
  | accessory s =>
    accessory { s with kind := if s.kind = .plain then (AccessoryState.kindOf? m).getD .plain else s.kind }
  | other => other

/-- What is believed of a component besides its address and what drives it. -/
def learned : Component → Component
  | accessory s => accessory { s with profile := { s.profile with address := none, last := none }, kind := .plain }
  | other => other.withProfile { other.profile with address := none, last := none }

/-- The component with another address and, if it is an accessory, with what drives it. -/
def marked (address : Option UInt16) (driver : Option AccessoryKind) : Component → Component
  | accessory s =>
    accessory { s with profile := { s.profile with address := address }, kind := driver.getD s.kind }
  | other => other.withProfile { other.profile with address := address }

theorem learned_believed (c : Component) : c.believed.learned = c.learned := by
  cases c <;> rfl

theorem address_believed (c : Component) : c.believed.profile.address = c.profile.address := by
  cases c <;> rfl

theorem driver?_believed (c : Component) : c.believed.driver? = c.driver? := by
  cases c <;> rfl

theorem believed_eq_marked (c : Component) : c.believed = c.learned.marked c.profile.address c.driver? := by
  cases c <;> rfl

/-- A belief is about the address, about what drives an accessory, or it was learned. -/
theorem believed_eq_iff : c.believed = d.believed ↔
    c.learned = d.learned ∧ c.profile.address = d.profile.address ∧ c.driver? = d.driver? := by
  constructor
  · intro h
    rw [← learned_believed c, ← address_believed c, ← driver?_believed c, h]
    exact ⟨learned_believed d, address_believed d, driver?_believed d⟩
  · rintro ⟨hlearned, haddress, hdriver⟩
    rw [believed_eq_marked c, believed_eq_marked d, hlearned, haddress, hdriver]

/-- Components of which the same is believed give the same answers. -/
theorem sameAnswers_of_believed (h : d.believed = c.believed) : SameAnswers c d where
  isKnown := by
    have hknown : ∀ x : Component, x.believed.isKnown = x.isKnown :=
      fun x => isKnown_withProfile x x.profile.address none
    rw [← hknown d, h, hknown c]
  encode codec := by
    have hscript : ∀ x : Component, x.believed.script = x.script := fun x => script_withProfile x none
    rw [Component.encode, ← hscript d, h, hscript c]
    rfl
  shown := by
    have hshown : ∀ x : Component, x.believed.shown = x.shown :=
      fun x => shown_withProfile x x.profile.address none
    rw [← hshown d, h, hshown c]

/-! ## What is learned from a message without data -/

theorem drivenBy_of_kindOf?_eq_none (h : AccessoryState.kindOf? m = none) (c : Component) : c.drivenBy m = c := by
  cases c with
  | accessory s =>
      have hsame : (if s.kind = .plain then AccessoryKind.plain else s.kind) = s.kind := by
        split
        · rename_i hplain
          exact hplain.symm
        · rfl
      rw [drivenBy, h, Option.getD_none, hsame]
  | _ => rfl

theorem believed_applyKind (hbare : m.IsBare) {offered : AccessoryKind}
    (hoffered : AccessoryState.kindOf? m = some offered) (now : Nat) (s : AccessoryState) :
    (accessory (s.applyKind now m offered).state).believed = ((accessory s).drivenBy m).believed := by
  have hboard := AccessoryState.applyBoard_of_bare hbare { s with kind := offered }
  rw [drivenBy, hoffered, Option.getD_some]
  unfold AccessoryState.applyKind
  split
  · rename_i hfits
    have hkind : (if s.kind = .plain then offered else s.kind) = offered := by
      split
      · rfl
      · rename_i hdriven
        exact hfits.resolve_left hdriven
    rw [hkind]
    split <;> rename_i heq <;> rw [heq] at hboard <;> cases hboard <;> rfl
  · rename_i hheld
    rw [if_neg fun hplain => hheld (Or.inl hplain)]

theorem believed_applyMessage (hbare : m.IsBare) (now : Nat) (s : AccessoryState) :
    (accessory (s.applyMessage now m).state).believed = ((accessory s).drivenBy m).believed := by
  unfold AccessoryState.applyMessage
  split
  · rename_i r
    have hsame : s.applyRecord now r = (s, false) := if_pos hbare
    rw [drivenBy_of_kindOf?_eq_none rfl, hsame]
  · split
    · rename_i offered hoffered
      exact believed_applyKind hbare hoffered now s
    · rename_i hnone
      rw [drivenBy_of_kindOf?_eq_none hnone]

/-- A message without data that is accepted binds the address that accepting it binds, and a board is taken for what
drives an accessory. -/
theorem believed_update (hbare : m.IsBare) (haccept : c.profile.accept c.scope (.message m) = .ok q) :
    (c.update rules now (.message m)).state.believed = ((c.withProfile q).drivenBy m).believed := by
  cases c with
  | motive s =>
      rw [update, MotiveState.update_message haccept, MotiveState.applyMessage_of_bare hbare]
      rfl
  | switch s =>
      rw [update, SwitchState.update_of_accept haccept, SwitchState.apply_of_bare hbare]
      rfl
  | route s =>
      rw [update, RouteState.update_of_accept haccept, RouteState.apply_of_bare hbare]
      rfl
  | accessory s =>
      rw [update, AccessoryState.update_message haccept]
      exact believed_applyMessage hbare now { s with profile := q }
  | sensorTrack s =>
      rw [update, SensorTrackState.update_of_accept haccept, SensorTrackState.apply_of_bare hbare]
      rfl
  | block s =>
      rw [update, BlockState.update_of_accept haccept, BlockState.apply_of_bare hbare]
      rfl
  | base s =>
      rw [update, BaseState.update_of_accept haccept, BaseState.apply_of_bare hbare]
      rfl
  | sync s =>
      rw [update, SyncState.update_of_accept haccept]
      rfl

/-- Whether an update is the first that a component accepts. -/
def Binds (u : Update) (c : Component) : Prop :=
  c.profile.address = none ∧ (c.profile.accept c.scope u).isOk = true

/-- Whether a message is the first from a board that an accessory accepts. -/
def LearnsDriver (m : Message) (c : Component) : Prop :=
  (c.profile.accept c.scope (.message m)).isOk = true ∧ c.driver? = some .plain ∧
    (AccessoryState.kindOf? m).isSome = true

theorem learned_drivenBy (m : Message) (c : Component) : (c.drivenBy m).learned = c.learned := by
  cases c <;> rfl

theorem learned_withProfile (c : Component) (address : Option UInt16) :
    (c.withProfile { c.profile with address := address }).learned = c.learned := by
  cases c <;> rfl

/-- A message without data teaches nothing. -/
theorem learned_update (hbare : m.IsBare) (c : Component) :
    (c.update rules now (.message m)).state.learned = c.learned := by
  cases haccept : c.profile.accept c.scope (.message m) with
  | error e => rw [update_of_refused haccept]
  | ok q =>
      rw [← learned_believed, believed_update hbare haccept, learned_believed, learned_drivenBy,
        Profile.accept_eq haccept, learned_withProfile]

theorem address_update_iff : (c.update rules now u).state.profile.address = c.profile.address ↔ ¬c.Binds u := by
  cases haccept : c.profile.accept c.scope u with
  | error e =>
      rw [update_of_refused haccept]
      refine iff_of_true rfl fun hbinds => ?_
      rw [Binds, haccept] at hbinds
      cases hbinds.2
  | ok q =>
      rw [(took_of_accepted haccept).told.address]
      have hbound := Profile.isSome_address_of_accept haccept
      constructor
      · rintro hsame ⟨hfree, -⟩
        rw [hsame, hfree] at hbound
        cases hbound
      · intro hnot
        have hsome : c.profile.address.isSome = true := by
          refine Option.isSome_iff_ne_none.mpr fun hfree => hnot ⟨hfree, ?_⟩
          rw [haccept]
          rfl
        rw [Profile.accept_eq_of_bound haccept hsome]

theorem driver?_drivenBy_iff : (c.drivenBy m).driver? = c.driver? ↔
    ¬(c.driver? = some .plain ∧ (AccessoryState.kindOf? m).isSome = true) := by
  cases c with
  | accessory s =>
      have hkinds : (if s.kind = .plain then (AccessoryState.kindOf? m).getD .plain else s.kind) = s.kind ↔
          ¬(s.kind = .plain ∧ (AccessoryState.kindOf? m).isSome = true) := by
        by_cases hplain : s.kind = .plain
        · cases hoffered : AccessoryState.kindOf? m with
          | none => simp [hplain]
          | some offered => simp [hplain, AccessoryState.ne_plain_of_kindOf? hoffered]
        · simp [hplain]
      simp only [drivenBy, driver?, Option.some.injEq]
      exact hkinds
  | _ => exact iff_of_true rfl fun h => nomatch h.1

theorem driver?_update_iff (hbare : m.IsBare) :
    (c.update rules now (.message m)).state.driver? = c.driver? ↔ ¬c.LearnsDriver m := by
  cases haccept : c.profile.accept c.scope (.message m) with
  | error e =>
      rw [update_of_refused haccept]
      refine iff_of_true rfl fun hlearns => ?_
      rw [LearnsDriver, haccept] at hlearns
      cases hlearns.1
  | ok q =>
      have hsame : (c.withProfile q).driver? = c.driver? := by cases c <;> rfl
      rw [← driver?_believed, believed_update hbare haccept, driver?_believed, ← hsame, driver?_drivenBy_iff,
        LearnsDriver, haccept, hsame]
      exact not_congr (and_iff_right rfl).symm

/-- A message without data leaves what is believed as it is, or it is the first update that is accepted, or the first
from a board. -/
theorem believed_update_iff (hbare : m.IsBare) : (c.update rules now (.message m)).state.believed = c.believed ↔
    ¬c.Binds (.message m) ∧ ¬c.LearnsDriver m := by
  rw [believed_eq_iff, address_update_iff, driver?_update_iff hbare]
  exact and_iff_right (learned_update hbare c)

/-- Take any component and any answer that reports a failure: a board refuses, or a record could not be read or written.
What is believed of the component is the same afterwards, all but what it was told last and when, unless the answer is
the first update that it accepts or the first from a board that an accessory accepts. In these cases the address is
bound, or the accessory is driven by this kind of board from then on, and everything else is the same. -/
theorem failure_teaches_nothing (rules : Rules) (now : Nat) {m : Message} (hfails : m.ReportsFailure)
    (c : Component) :
    let after := (c.update rules now (.message m)).state
    (after.believed = c.believed ↔ ¬c.Binds (.message m) ∧ ¬c.LearnsDriver m) ∧ after.learned = c.learned := by
  intro after
  have hbare := Message.isBare_of_reportsFailure hfails
  exact ⟨believed_update_iff hbare, learned_update hbare c⟩

/-- A relay that is on refuses a request by a frame; it is believed on as it was. -/
theorem failure_teaches_nothing_relay :
    let rules : Rules := ⟨.stock, .standard⟩
    let report : Message := .board .asc2 ⟨.asc2Rx, 5, .own .control1, none, .report (.control1 1 0)⟩
    let frame : Frame := ⟨.asc2Rx, [5, 0x90, 2]⟩
    ∃ c m, build .accessory none = .ok c ∧ Message.ofFrame frame = .ok m ∧ m.isFailure = true ∧
      let relay := c.run [.told rules 0 (.message report)]
      relay.isKnown = true ∧ (relay.update rules 7 (.message m)).state.believed = relay.believed := by
  intro rules report frame
  have hbuild : build .accessory none = .ok (accessory (.fresh (.fresh none))) := rfl
  have hframe : Message.ofFrame frame =
      .ok (.board .asc2 ⟨.asc2Rx, 5, .own .control1, some .actionNotSupported, .empty⟩) := by decide +kernel
  have hfails := Message.reportsFailure_of_ofFrame hframe rfl
  refine ⟨_, _, hbuild, hframe, rfl, by decide +kernel, ?_⟩
  refine (failure_teaches_nothing rules 7 hfails _).1.mpr ⟨fun hbinds => ?_, fun hlearns => ?_⟩
  · exact absurd hbinds.1 (by decide +kernel)
  · exact absurd hlearns.2.1 (by decide +kernel)

/-- The first frame from a board for accessory 5 is one in which a relay refuses: the accessory is believed to be driven
by a relay from then on, and something is known of it. -/
theorem failure_teaches_driver :
    let rules : Rules := ⟨.stock, .standard⟩
    let frame : Frame := ⟨.asc2Rx, [5, 0x90, 2]⟩
    ∃ c m after, build .accessory (some 5) = .ok c ∧ Message.ofFrame frame = .ok m ∧ m.isFailure = true ∧
      c.update rules 0 (.message m) = ⟨after, .ok false⟩ ∧
        (c.driver?, after.driver?) = (some .plain, some .relay) ∧ (c.isKnown, after.isKnown) = (false, true) ∧
          after.believed ≠ c.believed := by
  intro rules frame
  have hframe : Message.ofFrame frame =
      .ok (.board .asc2 ⟨.asc2Rx, 5, .own .control1, some .actionNotSupported, .empty⟩) := by decide +kernel
  refine ⟨accessory (.fresh (.fresh (some 5))), _, _, rfl, hframe, rfl, rfl, rfl, rfl, fun hsame => ?_⟩
  have hdriver := congrArg driver? hsame
  cases hdriver

end Component
end RailLayout
