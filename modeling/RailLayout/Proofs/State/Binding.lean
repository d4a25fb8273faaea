import RailLayout.Proofs.State.Run

/-!
Addresses of components, bound when they start or by the first update that is accepted. An address never changes once
it is bound, and the component's kind admits it; what a bound component accepts is meant for it (`address_binding`).
A refusal, whatever its cause, leaves the whole component as it was (`state_of_refused`), since a board that is not the
one that drives an accessory can only be refused when the accessory is bound.
-/

namespace RailLayout

namespace Component

variable {c : Component} {rules : Rules} {now : Nat} {u : Update}

theorem accept_of_isOk (h : (c.update rules now u).verdict.isOk = true) : ∃ q, c.profile.accept c.scope u = .ok q := by
  cases haccept : c.profile.accept c.scope u with
  | error e =>
      rw [update_of_refused haccept] at h
      cases h
  | ok q => exact ⟨q, rfl⟩

/-- What an update can do to the address: nothing, or bind one that the kind admits and that is no broadcast. -/
theorem address_update_cases (rules : Rules) (now : Nat) (u : Update) (c : Component) :
    (c.update rules now u).state.profile.address = c.profile.address ∨
      (c.profile.address = none ∧ ∃ received address, u.target? = some (received, address) ∧
        ¬(address = broadcastAddress ∧ c.scope ≠ .sync) ∧ c.scope.admits address = true ∧
        (c.update rules now u).state.profile.address = some address) := by
  cases haccept : c.profile.accept c.scope u with
  | error e =>
      rw [update_of_refused haccept]
      exact Or.inl rfl
  | ok q =>
      rw [(took_of_accepted haccept).told.address]
      obtain ⟨received, address, htarget, -, ⟨-, -, -, rfl⟩ | ⟨hfree, hdirect, hadmits, rfl⟩⟩ :=
        Profile.of_accept haccept
      · exact Or.inl rfl
      · exact Or.inr ⟨hfree, received, address, htarget, hdirect, hadmits, rfl⟩

theorem address_meet {a : UInt16} (h : c.profile.address = some a) (i : Incident) :
    (c.meet i).profile.address = some a := by
  cases i with
  | told rules now u =>
      rcases address_update_cases rules now u c with hsame | ⟨hfree, -⟩
      · exact hsame.trans h
      · rw [h] at hfree
        cases hfree
  | seen sighting => exact (applySighting_same sighting c).2.trans h

theorem address_run {a : UInt16} (h : c.profile.address = some a) (history : List Incident) :
    (c.run history).profile.address = some a :=
  run_induction (P := fun d => d.profile.address = some a) h fun _ i _ hd => address_meet hd i

theorem admits_meet (h : ∀ a, c.profile.address = some a → c.scope.admits a = true) (i : Incident) :
    ∀ a, (c.meet i).profile.address = some a → (c.meet i).scope.admits a = true := by
  rw [scope_meet]
  intro a ha
  cases i with
  | told rules now u =>
      rcases address_update_cases rules now u c with hsame | ⟨-, received, address, -, -, hadmits, hbound⟩
      · exact h a (hsame.symm.trans ha)
      · rw [show (c.meet (.told rules now u)).profile.address = some address from hbound] at ha
        cases ha
        exact hadmits
  | seen sighting => exact h a ((applySighting_same sighting c).2.symm.trans ha)

theorem admits_run {scope : Scope} {start : Option UInt16} (h : build scope start = .ok c)
    (history : List Incident) {a : UInt16} (ha : (c.run history).profile.address = some a) :
    scope.admits a = true := by
  have hbuilt := built_of_build h
  have hadmits := run_induction (P := fun d => ∀ a, d.profile.address = some a → d.scope.admits a = true)
    (hbuilt.scope_eq.symm ▸ hbuilt.admits) (fun _ i _ hd => admits_meet hd i) a ha
  rwa [scope_run, hbuilt.scope_eq] at hadmits

theorem scope_run_of_build {scope : Scope} {start : Option UInt16} (h : build scope start = .ok c)
    (history : List Incident) : (c.run history).scope = scope :=
  (scope_run c history).trans (built_of_build h).scope_eq

/-- A component after any history, whether it started with an address or without. An address that it has is in the
range of its kind and stays for good. If it has one, the updates that it takes are for its own kind or halts, and they
are for this address, for all components but never so for the synchronization status, or for the four-digit number
that the road number of an engine or a train spells at the time. If it has none, a broadcast does not bind it. -/
theorem address_binding {scope : Scope} {start : Option UInt16} (h : build scope start = .ok c)
    (history : List Incident) :
    (∀ a, (c.run history).profile.address = some a →
      scope.admits a = true ∧
        (∀ later, ((c.run history).run later).profile.address = some a) ∧
        ∀ rules now u, ((c.run history).update rules now u).verdict.isOk = true →
          ∃ received address, u.target? = some (received, address) ∧ (u.isHalt = true ∨ received = scope) ∧
            (c.run history).profile.Reaches scope a address) ∧
      ((c.run history).profile.address = none → ∀ rules now u received,
        u.target? = some (received, broadcastAddress) →
          ((c.run history).update rules now u).state.profile.address = none) := by
  have hscope := scope_run_of_build h history
  refine ⟨fun a ha => ⟨admits_run h history ha, address_run ha, ?_⟩, ?_⟩
  · intro rules now u hverdict
    obtain ⟨q, haccept⟩ := accept_of_isOk hverdict
    obtain ⟨received, address, htarget, hmeant, ⟨bound, hbound, hreaches, -⟩ | ⟨hfree, -⟩⟩ :=
      Profile.of_accept haccept
    · rw [ha] at hbound
      cases hbound
      rw [hscope] at hmeant hreaches
      exact ⟨received, address, htarget, hmeant, hreaches⟩
    · rw [ha] at hfree
      cases hfree
  · intro hfree rules now u received htarget
    rcases address_update_cases rules now u (c.run history) with hsame | ⟨-, other, address, hother, hdirect, -⟩
    · exact hsame.trans hfree
    · rw [htarget] at hother
      cases hother
      have hsync : scope = .sync := by
        rw [hscope] at hdirect
        exact Classical.not_not.mp fun hne => hdirect ⟨rfl, hne⟩
      rw [address_run ((built_of_build h).sync hsync) history] at hfree
      cases hfree

/-- A command binds an engine, and a record gives it the number 1234; a command for this number then reaches it. -/
theorem address_binding_numbered :
    let numbered : MotiveRecord := { MotiveRecord.unknown with number := some "1234" }
    let history : List Incident :=
      [.told ⟨.stock, .standard⟩ 0 (.command ⟨.engine .legacy .startUpImmediate, 12, none, .engine⟩),
       .told ⟨.stock, .standard⟩ 5 (.message (.record ⟨12, RecordMessage.writeFlags, 0, 0, .motive .engine 8 numbered⟩))]
    ∃ c, build .engine none = .ok c ∧ (c.run history).profile.address = some 12 ∧
      (∀ later, ((c.run history).run later).profile.address = some 12) ∧
        (c.run history).profile.Reaches .engine 12 1234 := by
  intro numbered history
  have hbuild : build .engine none = .ok (motive (.fresh .engine (.fresh none))) := rfl
  have hbound : ((motive (.fresh .engine (.fresh none))).run history).profile.address = some 12 := by decide +kernel
  have htaken : (((motive (.fresh .engine (.fresh none))).run history).update ⟨.stock, .standard⟩ 7
      (.command ⟨.engine .legacy .blowHorn, 1234, none, .engine⟩)).verdict.isOk = true := by decide +kernel
  obtain ⟨hall, -⟩ := address_binding hbuild history
  obtain ⟨-, hstays, hreached⟩ := hall 12 hbound
  obtain ⟨received, address, htarget, -, hreaches⟩ := hreached _ _ _ htaken
  cases htarget
  exact ⟨_, hbuild, hbound, hstays, hreaches⟩

/-! ## Refusals -/

/-- Whether a component is bound if it is an accessory that a board drives. -/
def BoundIfDriven (c : Component) : Prop :=
  ∀ s, c = accessory s → s.kind ≠ .plain → s.profile.address.isSome = true

theorem boundIfDriven_meet (h : BoundIfDriven c) (i : Incident) : BoundIfDriven (c.meet i) := by
  cases i with
  | told rules now u =>
      cases haccept : c.profile.accept c.scope u with
      | error e =>
          rw [meet, update_of_refused haccept]
          exact h
      | ok q =>
          intro s hs _
          have htook : Took c q u now (c.update rules now u) := took_of_accepted haccept
          have haddress := htook.told.address
          rw [show (c.update rules now u).state = accessory s from hs] at haddress
          exact (congrArg Option.isSome haddress).trans (Profile.isSome_address_of_accept haccept)
  | seen sighting =>
      cases c with
      | motive s =>
          intro t ht
          have hscope := (applySighting_same sighting (motive s)).1
          rw [show ((motive s).applySighting sighting).1 = accessory t from ht] at hscope
          cases hkind : s.kind <;> rw [scope, scope, hkind] at hscope <;> cases hscope
      | _ => exact h

theorem boundIfDriven_run {scope : Scope} {start : Option UInt16} (h : build scope start = .ok c)
    (history : List Incident) : BoundIfDriven (c.run history) := by
  refine run_induction (P := BoundIfDriven) ?_ fun _ i _ hd => boundIfDriven_meet hd i
  intro s hs hdriven
  exact absurd ((built_of_build h).plain s hs) hdriven

/-- An update that a component refuses, after any history, leaves the component as it was. -/
theorem state_of_refused {scope : Scope} {start : Option UInt16} (h : build scope start = .ok c)
    (history : List Incident) {e : Error} (he : ((c.run history).update rules now u).verdict = .error e) :
    ((c.run history).update rules now u).state = c.run history := by
  have hdriven := boundIfDriven_run h history
  generalize c.run history = d at he hdriven ⊢
  cases haccept : d.profile.accept d.scope u with
  | error other => rw [update_of_refused haccept]
  | ok q =>
      have htook : Took d q u now (d.update rules now u) := took_of_accepted haccept
      rcases htook.verdict with ⟨changed, hchanged⟩ | ⟨s, rfl, hkind, hstate⟩
      · rw [hchanged] at he
        cases he
      · -- The board was identified by a message that had been accepted, so accepting this one bound nothing.
        rw [hstate, Profile.accept_eq_of_bound haccept (hdriven s rfl hkind)]
        rfl

/-- An accessory that a relay drives refuses a power district and stays as it was. -/
theorem state_of_refused_district :
    let relay : Message := .board .asc2 ⟨.asc2Rx, 5, .own .control1, none, .report (.control1 1 0)⟩
    let district : Message := .board .bpc2 ⟨.bpc2Rx, 5, .own .control3, none, .report (.state 1)⟩
    let history : List Incident := [.told ⟨.stock, .standard⟩ 0 (.message relay)]
    ∃ c e, build .accessory none = .ok c ∧
      ((c.run history).update ⟨.stock, .standard⟩ 3 (.message district)).verdict = .error e ∧
        ((c.run history).update ⟨.stock, .standard⟩ 3 (.message district)).state = c.run history := by
  intro relay district history
  have hbuild : build .accessory none = .ok (accessory (.fresh (.fresh none))) := rfl
  have hrefused : (((accessory (.fresh (.fresh none))).run history).update ⟨.stock, .standard⟩ 3
      (.message district)).verdict = .error (.protocol (.heldByOther 5 .relay .powerDistrict)) := rfl
  exact ⟨_, _, hbuild, hrefused, state_of_refused hbuild history hrefused⟩

end Component
end RailLayout
