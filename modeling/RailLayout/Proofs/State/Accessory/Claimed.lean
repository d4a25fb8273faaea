import RailLayout.Proofs.State.Accessory.Kept
import RailLayout.Proofs.State.Binding

/-!
Accessories that boards drive. The kind of board that reported first stays for good, and once a relay or a power
district has reported whether its output is on, the accessory stays claimed. Its keys and outputs then say what the last
such report said, or that it is off if a halt came later; commands have no part in it (`Component.claim_holds`).
-/

namespace RailLayout

/-- What a relay's message says of whether its output is on, unless it is a refusal. -/
def relayPower? (m : BoardMessage .asc2) : Option Bool :=
  match m.fault, m.action, m.body with
  | none, .own .control1, .report r => r.values?.map (· != 0)
  | _, _, _ => none

/-- What a power district's message says of whether it is on, unless it is a refusal. -/
def districtPower? (m : BoardMessage .bpc2) : Option Bool :=
  match m.fault, m.action, m.body with
  | none, .own .control1, .report (.state state) => some (state == 1)
  | none, .own .control3, .report (.state state) => some (state == 1)
  | _, _, _ => none

/-- What an update says of whether an accessory is on. A halt says that it is off; other commands say nothing. -/
def Update.power? : Update → Option Bool
  | .command c => if (Update.command c).isHalt then some false else none
  | .message (.board .asc2 m) => relayPower? m
  | .message (.board .bpc2 m) => districtPower? m
  | _ => none

namespace AccessoryState

variable {s t : AccessoryState} {rules : Rules} {now : Nat} {u : Update}

/-- The key pressed last, and the two outputs. -/
def outputs (s : AccessoryState) : Option AccessoryOp × Option AccessoryOp × Option AccessoryOp :=
  (s.aux, s.aux1, s.aux2)

/-- The key and the outputs of an accessory that is on, and of one that is off. -/
def powered (on : Bool) : Option AccessoryOp × Option AccessoryOp × Option AccessoryOp :=
  if on then (some .aux1OptOne, some .aux1On, some .aux2On) else (some .aux2OptOne, some .aux1Off, some .aux2Off)

/-! ## One update -/

/-- What became of an accessory that was told something which says that it is on or off, or nothing of the kind. -/
structure Follows (s : AccessoryState) (power : Option Bool) (t : AccessoryState) : Prop where
  kind : s.kind ≠ .plain → t.kind = s.kind
  claimed : s.claimed = true → t.claimed = true
  told : ∀ on, power = some on → t.outputs = powered on
  /-- What says nothing of the kind claims nothing, and leaves the outputs if they are claimed. -/
  silent : power = none → t.claimed = s.claimed ∧ (s.claimed = true → t.outputs = s.outputs)

theorem follows_refl (s : AccessoryState) : Follows s none s where
  kind _ := rfl
  claimed h := h
  told _ h := by cases h
  silent _ := ⟨rfl, fun _ => rfl⟩

theorem follows_of_silent (hkind : s.kind ≠ .plain → t.kind = s.kind) (hclaimed : t.claimed = s.claimed)
    (houtputs : s.claimed = true → t.outputs = s.outputs) : Follows s none t where
  kind := hkind
  claimed h := hclaimed.trans h
  told _ h := by cases h
  silent _ := ⟨hclaimed, houtputs⟩

theorem follows_setPower (hkind : t.kind = s.kind) (hclaimed : t.claimed = true) (on : Bool) :
    Follows s (some on) (t.setPower on) where
  kind _ := by cases on <;> exact hkind
  claimed _ := by cases on <;> exact hclaimed
  told other h := by
    cases h
    cases on <;> rfl
  silent h := by cases h

theorem follows_applyOperation (rules : Rules) (now : Nat) (c : Command) (op : AccessoryOp) (s : AccessoryState) :
    Follows s none (s.applyOperation rules now c op).1 := by
  unfold applyOperation
  dsimp only
  have hnumbered : Follows s none (if op = .numeric then { s.record (.command c) now with number := c.data }
      else s.record (.command c) now) := by
    split <;> exact follows_of_silent (fun _ => rfl) rfl fun _ => rfl
  generalize (if op = .numeric then { s.record (.command c) now with number := c.data }
    else s.record (.command c) now) = numbered at hnumbered ⊢
  split
  · exact hnumbered
  · -- Only an accessory that is not claimed is pressed and switched.
    rename_i hfree
    have halike := alike_trans (alike_applyPress rules.settings.auxPulseWindow now op numbered)
      (alike_applyOutputs (rules.graph.resultsIn c.trigger true false) _)
    refine follows_of_silent (fun hdriven => halike.kind.trans (hnumbered.kind hdriven))
      (halike.claimed.trans (hnumbered.silent rfl).1) fun hclaimed => ?_
    exact absurd (hnumbered.claimed hclaimed) hfree

theorem follows_applyCommand (rules : Rules) (now : Nat) (c : Command) (s : AccessoryState) :
    Follows s (Update.command c).power? (s.applyCommand rules now c).1 := by
  rw [applyCommand, Update.power?]
  split
  · exact ⟨fun _ => rfl, id, fun on hon => by cases hon; rfl, fun h => by cases h⟩
  · split
    · exact follows_applyOperation rules now c _ s
    · exact follows_refl s

/-- A relay's report claims the accessory for what it says; another message of a relay does nothing. -/
theorem applyRelay_eq (m : BoardMessage .asc2) (s : AccessoryState) :
    (s.applyRelay m).1 =
      match relayPower? m with
      | some on => ({ s with claimed := true } : AccessoryState).setPower on
      | none => s := by
  obtain ⟨code, address, action, fault, body⟩ := m
  rcases fault with _ | fault
  · rcases action with action | action
    · rfl
    · cases action
      case control1 =>
        rcases body with body | config | report
        · rfl
        · rfl
        · cases report <;> rfl
      all_goals rfl
  · rfl

/-- A power district's report of its state claims the accessory for it; another message does nothing. -/
theorem applyDistrict_cases (m : BoardMessage .bpc2) (s : AccessoryState) :
    (districtPower? m = none ∧ (s.applyDistrict m).1 = s) ∨
      ∃ action state, districtPower? m = some (state == 1) ∧ (s.applyDistrict m).1 = s.claimDistrict action state := by
  obtain ⟨code, address, action, fault, body⟩ := m
  rcases fault with _ | fault
  · rcases action with action | action
    · exact Or.inl ⟨rfl, rfl⟩
    · cases action
      case control1 | control3 =>
        rcases body with body | config | report
        · exact Or.inl ⟨rfl, rfl⟩
        · exact Or.inl ⟨rfl, rfl⟩
        · cases report with
          | state state => exact Or.inr ⟨_, state, rfl, rfl⟩
          | bank => exact Or.inl ⟨rfl, rfl⟩
      all_goals exact Or.inl ⟨rfl, rfl⟩
  · exact Or.inl ⟨rfl, rfl⟩

theorem follows_applyRelay (m : BoardMessage .asc2) (s : AccessoryState) :
    Follows s (relayPower? m) (s.applyRelay m).1 := by
  rw [applyRelay_eq]
  cases relayPower? m with
  | none => exact follows_refl s
  | some on =>
      have hkind : ({ s with claimed := true } : AccessoryState).kind = s.kind := rfl
      exact follows_setPower hkind rfl on

theorem follows_applyDistrict (m : BoardMessage .bpc2) (s : AccessoryState) :
    Follows s (districtPower? m) (s.applyDistrict m).1 := by
  rcases applyDistrict_cases m s with ⟨hpower, hsame⟩ | ⟨action, state, hpower, hclaimed⟩
  · rw [hpower, hsame]
    exact follows_refl s
  · rw [hpower, hclaimed, claimDistrict]
    exact follows_setPower (by rfl) (by rfl) _

theorem follows_applyBoard (m : Message) (s : AccessoryState) :
    Follows s (Update.message m).power? (s.applyBoard m).1 := by
  cases m with
  | board b m =>
      cases b with
      | asc2 => exact follows_applyRelay m s
      | bpc2 => exact follows_applyDistrict m s
      | amc2 =>
          show Follows s none (s.applyOutputMessage m).1
          unfold applyOutputMessage
          repeat' split
          all_goals exact follows_of_silent (fun _ => rfl) rfl fun _ => rfl
      | irda =>
          show Follows s none (s.applySensor m).1
          unfold applySensor
          split <;> exact follows_of_silent (fun _ => rfl) rfl fun _ => rfl
      | wifi | ser2 | stm2 => exact follows_refl s
  | _ => exact follows_refl s

/-- A message that is refused says nothing. -/
theorem follows_applyMessage (now : Nat) (m : Message) (s : AccessoryState) :
    Follows s (if (s.applyMessage now m).verdict.isOk = true then (Update.message m).power? else none)
      (s.applyMessage now m).state := by
  unfold applyMessage
  split
  · rename_i r
    show Follows s none (applyRecord now r s).1
    unfold applyRecord
    split
    · exact follows_refl s
    · exact follows_of_silent (fun _ => rfl) rfl fun _ => rfl
  · split
    · rename_i offered hoffered
      unfold applyKind
      split
      · rename_i hheld
        have hboard := follows_applyBoard m { s with kind := offered }
        have hfollows : Follows s (Update.message m).power? (applyBoard m { s with kind := offered }).1 := by
          refine { hboard with kind := fun hdriven => ?_ }
          rw [hheld.resolve_left hdriven]
          exact hboard.kind (ne_plain_of_kindOf? hoffered)
        split
        · rename_i heq
          rw [heq] at hfollows
          exact { hfollows with }
        · rename_i heq
          rw [heq] at hfollows
          exact { hfollows with }
      · exact follows_refl s
    · rename_i hnone
      have hsilent : (Update.message m).power? = none := by
        cases m with
        | board b m => cases b <;> first | rfl | cases hnone
        | _ => rfl
      rw [hsilent, ite_self]
      exact follows_refl s

theorem follows_update (rules : Rules) (now : Nat) (u : Update) (s : AccessoryState) :
    Follows s (if (s.update rules now u).verdict.isOk = true then u.power? else none) (s.update rules now u).state := by
  cases haccept : s.profile.accept .accessory u with
  | error cause =>
      have hrefused : s.update rules now u = ⟨s, .error cause⟩ := by simp only [update, haccept]
      rw [hrefused]
      exact follows_refl s
  | ok q =>
      cases u with
      | command c =>
          rw [update_command haccept]
          exact { follows_applyCommand rules now c { s with profile := q } with }
      | message m =>
          rw [update_message haccept]
          exact { follows_applyMessage now m { s with profile := q } with }

/-- A message of another kind of board than the one that drives an accessory is refused, and changes nothing if the
accessory is bound. -/
theorem update_of_other {m : Message} {offered : AccessoryKind} (hoffered : kindOf? m = some offered)
    (hdriven : s.kind ≠ .plain) (hother : offered ≠ s.kind) (hbound : s.profile.address.isSome = true) :
    ∃ cause, s.update rules now (.message m) = ⟨s, .error cause⟩ := by
  cases haccept : s.profile.accept .accessory (.message m) with
  | error cause => exact ⟨cause, by simp only [update, haccept]⟩
  | ok q =>
      have hsame : ({ s with profile := q } : AccessoryState) = s := by
        rw [Profile.accept_eq_of_bound haccept hbound]
      have hheld : ¬(s.kind = .plain ∨ s.kind = offered) := fun h => h.elim hdriven fun hkind => hother hkind.symm
      rw [update_message haccept, hsame]
      unfold applyMessage
      split
      · cases hoffered
      · rw [hoffered]
        exact ⟨_, if_neg hheld⟩

end AccessoryState

/-! ## Histories -/

namespace Component

variable {c : Component}

/-- What a component is told of whether it is on, if it takes it. -/
def power? (c : Component) : Incident → Option Bool
  | .told rules now u => if (c.update rules now u).verdict.isOk then u.power? else none
  | .seen _ => none

/-- What the last update says of whether a component is on, of those that it took and that say it. -/
def lastPower? (c : Component) : List Incident → Option Bool
  | [] => none
  | i :: rest => ((c.meet i).lastPower? rest).or (c.power? i)

/-- Whether a claimed accessory is on or off as it was told last. -/
def Obeys (s : AccessoryState) (told : Option Bool) : Prop :=
  s.claimed = true → ∃ on, told = some on ∧ s.outputs = AccessoryState.powered on

theorem obeys_of_follows {s t : AccessoryState} {told power : Option Bool} (h : Obeys s told)
    (hfollows : s.Follows power t) : Obeys t (power.or told) := by
  intro hclaimed
  cases power with
  | some on => exact ⟨on, rfl, hfollows.told on rfl⟩
  | none =>
      obtain ⟨hbefore, hkept⟩ := hfollows.silent rfl
      have hclaimed := hbefore.symm.trans hclaimed
      obtain ⟨on, hon, houtputs⟩ := h hclaimed
      exact ⟨on, hon, (hkept hclaimed).trans houtputs⟩

theorem follows_meet (s : AccessoryState) (i : Incident) :
    ∃ t, (accessory s).meet i = accessory t ∧ s.Follows ((accessory s).power? i) t := by
  cases i with
  | told rules now u => exact ⟨_, rfl, AccessoryState.follows_update rules now u s⟩
  | seen sighting => exact ⟨s, rfl, AccessoryState.follows_refl s⟩

theorem follows_run {s : AccessoryState} {told : Option Bool} (h : Obeys s told) (history : List Incident) :
    ∃ t, (accessory s).run history = accessory t ∧ (s.kind ≠ .plain → t.kind = s.kind) ∧
      (s.claimed = true → t.claimed = true) ∧ Obeys t (((accessory s).lastPower? history).or told) := by
  -- What was told before counts as long as the history says nothing of the kind.
  induction history generalizing s told with
  | nil => exact ⟨s, rfl, fun _ => rfl, id, h⟩
  | cons i rest ih =>
      obtain ⟨next, hmeet, hfollows⟩ := follows_meet s i
      obtain ⟨t, hrun, hkind, hclaimed, hobeys⟩ := ih (obeys_of_follows h hfollows)
      refine ⟨t, ?_, fun hdriven => ?_, fun hbefore => hclaimed (hfollows.claimed hbefore), ?_⟩
      · rw [run, List.foldl_cons, hmeet]
        exact hrun
      · have hnext := hfollows.kind hdriven
        exact (hkind (hnext ▸ hdriven)).trans hnext
      · rw [lastPower?, hmeet, Option.or_assoc]
        exact hobeys

/-- Take any accessory, and whatever it goes through. Once a board drives it, it is driven by this kind of board for
good, and what boards of another kind send is refused and changes nothing. Once it is claimed, it stays claimed; then it
is on or off as it was told last by a report or a halt that it took, with its keys and outputs set accordingly, and no
command but a halt changes them. -/
theorem claim_holds {start : Option UInt16} {c : Component} (h : build .accessory start = .ok c)
    (history later : List Incident) :
    ∃ s t, c.run history = accessory s ∧ c.run (history ++ later) = accessory t ∧
      (s.kind ≠ .plain → t.kind = s.kind ∧
        ∀ rules now m offered, AccessoryState.kindOf? m = some offered → offered ≠ s.kind →
          ∃ cause, (accessory t).update rules now (.message m) = ⟨accessory t, .error cause⟩) ∧
      (s.claimed = true → t.claimed = true ∧
        (∃ on, c.lastPower? (history ++ later) = some on ∧
          (t.aux, t.aux1, t.aux2) =
            if on then (some .aux1OptOne, some .aux1On, some .aux2On)
            else (some .aux2OptOne, some .aux1Off, some .aux2Off)) ∧
        ∀ rules now d, (Update.command d).isHalt = false →
          ∃ next, ((accessory t).update rules now (.command d)).state = accessory next ∧
            (next.aux, next.aux1, next.aux2) = (t.aux, t.aux1, t.aux2)) := by
  obtain ⟨p, -, hc⟩ := ok_of_bind h
  cases hc
  have hfresh : Obeys (AccessoryState.fresh p) none := fun hclaimed => by cases hclaimed
  -- What stays is said of the second part of the history alone, what was told last of all of it.
  obtain ⟨s, hs, -, -, hobeys⟩ := follows_run hfresh history
  obtain ⟨t, ht, hkind, hclaimed, -⟩ := follows_run hobeys later
  obtain ⟨t', ht', -, -, hlast⟩ := follows_run hfresh (history ++ later)
  have hrun : (accessory (.fresh p)).run (history ++ later) = accessory t := by
    rw [run, List.foldl_append]
    exact (congrArg (·.run later) hs).trans ht
  rw [hrun] at ht'
  cases ht'
  refine ⟨s, t, hs, hrun, fun hdriven => ⟨hkind hdriven, ?_⟩, fun hbefore => ⟨hclaimed hbefore, ?_, ?_⟩⟩
  · intro rules now m offered hoffered hother
    have hdriven' : t.kind ≠ .plain := (hkind hdriven).symm ▸ hdriven
    have hbound := boundIfDriven_run h (history ++ later) t hrun hdriven'
    obtain ⟨cause, hcause⟩ : ∃ cause, t.update rules now (.message m) = ⟨t, .error cause⟩ :=
      AccessoryState.update_of_other hoffered hdriven' ((hkind hdriven).symm ▸ hother) hbound
    exact ⟨cause, by rw [update, hcause]; rfl⟩
  · obtain ⟨on, hon, houtputs⟩ := hlast (hclaimed hbefore)
    rw [Option.or_none] at hon
    exact ⟨on, hon, houtputs⟩
  · intro rules now d hmoves
    have hsilent : (Update.command d).power? = none := by
      rw [Update.power?, hmoves]
      rfl
    have hfollows := AccessoryState.follows_update rules now (.command d) t
    rw [hsilent, ite_self] at hfollows
    exact ⟨_, rfl, (hfollows.silent rfl).2 (hclaimed hbefore)⟩

/-- A relay reports that it is on, a command switches the first output off, and a power district reports that it is off:
the accessory stays on. It is off after a halt. -/
theorem claim_holds_relay :
    let rules : Rules := ⟨.stock, .standard⟩
    let relay : Message := .board .asc2 ⟨.asc2Rx, 5, .own .control1, none, .report (.control1 1 0)⟩
    let district : Message := .board .bpc2 ⟨.bpc2Rx, 5, .own .control3, none, .report (.state 0)⟩
    let told (u : Update) : Incident := .told rules 0 u
    let history := [told (.message relay)]
    let refused := [told (.command ⟨.accessory .aux1Off, 5, none, .accessory⟩), told (.message district)]
    let halted := refused ++ [told (.command ⟨.halt, broadcastAddress, none, .engine⟩)]
    ∃ c s t v, build .accessory none = .ok c ∧ c.run history = accessory s ∧ s.kind = .relay ∧ s.claimed = true ∧
      (c.run (history ++ refused) = accessory t ∧ t.kind = .relay ∧ t.aux1 = some .aux1On) ∧
      (c.run (history ++ halted) = accessory v ∧ v.kind = .relay ∧ v.aux1 = some .aux1Off) := by
  intro rules relay district told history refused halted
  have hbuild : build .accessory none = .ok (accessory (.fresh (.fresh none))) := rfl
  have hclaim : ∀ s, (accessory (.fresh (.fresh none))).run history = accessory s →
      s.kind = .relay ∧ s.claimed = true := by
    intro s hs
    cases hs
    exact ⟨rfl, rfl⟩
  have hon : (accessory (.fresh (.fresh none))).lastPower? (history ++ refused) = some true := by decide +kernel
  have hoff : (accessory (.fresh (.fresh none))).lastPower? (history ++ halted) = some false := by decide +kernel
  obtain ⟨s, t, hs, ht, hdriven, hclaimed⟩ := claim_holds hbuild history refused
  obtain ⟨s', v, hs', hv, hdriven', hclaimed'⟩ := claim_holds hbuild history halted
  obtain rfl : s = s' := by simpa only [hs, accessory.injEq] using hs'
  obtain ⟨hkind, hstate⟩ := hclaim s hs
  have hboard : s.kind ≠ .plain := by rw [hkind]; decide
  obtain ⟨-, ⟨on, htold, hpowered⟩, -⟩ := hclaimed hstate
  obtain ⟨-, ⟨off, htold', hpowered'⟩, -⟩ := hclaimed' hstate
  rw [hon] at htold
  rw [hoff] at htold'
  cases htold
  cases htold'
  exact ⟨_, s, t, v, hbuild, hs, hkind, hstate, ⟨ht, (hdriven hboard).1.trans hkind, congrArg (·.2.1) hpowered⟩,
    hv, (hdriven' hboard).1.trans hkind, congrArg (·.2.1) hpowered'⟩

end Component
end RailLayout
