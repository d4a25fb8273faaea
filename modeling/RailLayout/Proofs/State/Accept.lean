import RailLayout.Proofs.Message.NormalForm
import RailLayout.State.Profile

/-!
When an update is accepted: it is for the component's kind, or a halt, and it reaches the address that the component
is bound to or binds one (`Profile.of_accept`). A bound component keeps its profile; one that is not bound takes the
address of the update, if its kind admits it, but never the broadcast address. A command that is accepted can still be
dropped as a repetition of the last one (`Profile.repeats_eq_true_iff`).
-/

namespace RailLayout

namespace Scope

theorem validate_eq_ok {scope : Scope} {address found : UInt16} (h : scope.validate address = .ok found) :
    scope.admits address = true ∧ found = address := by
  unfold validate at h
  split at h
  · rename_i hadmits
    cases h
    exact ⟨hadmits, rfl⟩
  · cases h

end Scope

theorem Command.of_build {operation : Operation} {address : UInt16} {data : Option UInt16} {scope : Option Scope}
    {c : Command} (h : build operation address data scope = .ok c) :
    c.operation.accepts c.scope = true ∧ c.scope.admits address = true ∧ c.address = address := by
  unfold build at h
  dsimp only at h
  split at h
  · rename_i haccepts
    obtain ⟨valid, hvalid, hc⟩ := ok_of_bind h
    cases hc
    obtain ⟨hadmits, hsame⟩ := Scope.validate_eq_ok hvalid
    exact ⟨haccepts, hadmits, hsame⟩
  · cases h

theorem Update.target?_memory (m : MemoryMessage) :
    (Update.message (.memory m)).target? = m.scope.map fun scope => (scope, m.address) := by
  simp only [target?, messageTarget?, Message.scope?, Message.address?]
  cases m.scope <;> rfl

namespace Profile

variable {scope : Scope} {p q : Profile} {u : Update}

@[simp] theorem address_bindNames (p : Profile) (name number : Option String) :
    (p.bindNames name number).address = p.address := rfl

/-- Whether an update for an address reaches a component of a kind that is bound to an address: it is for this address,
it is a broadcast, or, for an engine or a train, it is for the number of four digits that the road number spells. -/
def Reaches (p : Profile) (scope : Scope) (bound address : UInt16) : Prop :=
  address = bound ∨ (address = broadcastAddress ∧ scope ≠ .sync) ∨
    (scope.isMotive = true ∧ 99 < address ∧ p.spelledAddress? = some address)

theorem isAlias_eq_true_iff {address : UInt16} :
    p.isAlias scope address = true ↔ scope.isMotive = true ∧ 99 < address ∧ p.spelledAddress? = some address := by
  simp only [isAlias, Bool.and_eq_true, decide_eq_true_eq, beq_iff_eq, and_assoc]

theorem build_eq_ok {start : Option UInt16} (h : build scope start = .ok p) :
    p = fresh start ∧ ∀ a, start = some a → scope.admits a = true := by
  cases start with
  | none =>
      cases h
      exact ⟨rfl, fun a ha => by cases ha⟩
  | some address =>
      obtain ⟨found, hvalid, h⟩ := ok_of_bind h
      cases h
      obtain ⟨hadmits, rfl⟩ := Scope.validate_eq_ok hvalid
      refine ⟨rfl, fun a ha => ?_⟩
      cases ha
      exact hadmits

/-- What was accepted, by a component that was bound or by one that was not. -/
theorem of_accept (h : p.accept scope u = .ok q) :
    ∃ received address, u.target? = some (received, address) ∧ (u.isHalt = true ∨ received = scope) ∧
      ((∃ bound, p.address = some bound ∧ p.Reaches scope bound address ∧ q = p) ∨
        (p.address = none ∧ ¬(address = broadcastAddress ∧ scope ≠ .sync) ∧ scope.admits address = true ∧
          q = { p with address := some address })) := by
  unfold accept at h
  split at h
  · cases h
  rename_i received address htarget
  refine ⟨received, address, htarget, ?_⟩
  split at h
  · cases h
  rename_i hscope
  have hmeant : u.isHalt = true ∨ received = scope := by
    by_cases hsame : received = scope
    · exact Or.inr hsame
    · exact Or.inl (Bool.not_eq_false _ ▸ fun hhalt => hscope ⟨hsame, hhalt⟩)
  refine ⟨hmeant, ?_⟩
  split at h
  · rename_i hbroadcast
    split at h
    · rename_i bound hbound
      cases h
      exact Or.inl ⟨bound, hbound, Or.inr (Or.inl hbroadcast), rfl⟩
    · cases h
  · rename_i hbroadcast
    split at h
    · rename_i bound hbound
      split at h
      · rename_i hreaches
        cases h
        refine Or.inl ⟨bound, hbound, ?_, rfl⟩
        exact hreaches.imp Eq.symm fun halias => Or.inr (isAlias_eq_true_iff.mp halias)
      · cases h
    · rename_i hfree
      cases hvalid : scope.validate address with
      | error e =>
          rw [hvalid] at h
          cases h
      | ok found =>
          rw [hvalid] at h
          cases h
          obtain ⟨hadmits, rfl⟩ := Scope.validate_eq_ok hvalid
          exact Or.inr ⟨hfree, hbroadcast, hadmits, rfl⟩

/-- Accepting an update leaves everything but the address as it is. -/
theorem accept_eq (h : p.accept scope u = .ok q) : q = { p with address := q.address } := by
  obtain ⟨-, -, -, -, ⟨-, -, -, rfl⟩ | ⟨-, -, -, rfl⟩⟩ := of_accept h <;> rfl

theorem accept_eq_of_bound (h : p.accept scope u = .ok q) (hbound : p.address.isSome = true) : q = p := by
  obtain ⟨-, -, -, -, ⟨-, -, -, rfl⟩ | ⟨hfree, -⟩⟩ := of_accept h
  · rfl
  · rw [hfree] at hbound
    cases hbound

theorem isSome_address_of_accept (h : p.accept scope u = .ok q) : q.address.isSome = true := by
  obtain ⟨-, -, -, -, ⟨bound, hbound, -, rfl⟩ | ⟨-, -, -, rfl⟩⟩ := of_accept h
  · rw [hbound]
    rfl
  · rfl

/-- Whether an update is accepted depends on what it is for, and on whether it is a halt. -/
theorem accept_congr {v : Update} (htarget : v.target? = u.target?) (hhalt : v.isHalt = u.isHalt) :
    p.accept scope v = p.accept scope u := by
  rw [accept, htarget, hhalt, ← accept]

/-- A component that is bound accepts what reaches it. -/
theorem accept_of_reaches {bound address : UInt16} (hbound : p.address = some bound)
    (htarget : u.target? = some (scope, address)) (h : p.Reaches scope bound address) : p.accept scope u = .ok p := by
  simp only [accept, htarget, hbound, ne_eq, not_true_eq_false, false_and, if_false]
  split
  · rfl
  · rename_i hbroadcast
    exact if_pos (h.imp Eq.symm fun h => isAlias_eq_true_iff.mpr (h.resolve_left hbroadcast))

/-- A component that is bound refuses what is for another one of its kind. -/
theorem accept_of_not_reaches {bound address : UInt16} (hbound : p.address = some bound)
    (htarget : u.target? = some (scope, address)) (h : ¬p.Reaches scope bound address) :
    p.accept scope u = .error (.addressMismatch scope bound address) := by
  obtain ⟨hother, h⟩ := not_or.mp h
  obtain ⟨hbroadcast, halias⟩ := not_or.mp h
  simp only [accept, htarget, hbound, ne_eq, not_true_eq_false, false_and, if_false]
  rw [if_neg hbroadcast]
  exact if_neg (not_or.mpr ⟨Ne.symm hother, fun hspelled => halias (isAlias_eq_true_iff.mp hspelled)⟩)

/-- An update for a component that is bound is accepted. -/
theorem accept_bound {address : UInt16} (hbound : p.address = some address)
    (htarget : u.target? = some (scope, address)) : p.accept scope u = .ok p :=
  accept_of_reaches hbound htarget (Or.inl rfl)

/-- A halt for all components is accepted by every component that is bound. -/
theorem accept_halt {c : Command} (hhalt : (Update.command c).isHalt = true) (hall : c.address = broadcastAddress)
    (hbound : p.address.isSome = true) (hscope : scope ≠ .sync) : p.accept scope (.command c) = .ok p := by
  obtain ⟨bound, hbound⟩ := Option.isSome_iff_exists.mp hbound
  simp only [accept, Update.target?, hhalt, hall, hbound, hscope, ne_eq, not_false_eq_true, and_false, and_true,
    Bool.true_eq_false, if_false, if_true]

/-- A command repeats the last update if it is that update and comes again within the window. -/
theorem repeats_eq_true_iff {c : Command} {window now : Nat} :
    p.repeats c window now = true ↔ ∃ time, p.last = some (.command c, time) ∧ now - time < window := by
  unfold repeats
  cases p.last with
  | none => exact iff_of_false Bool.false_ne_true nofun
  | some told =>
      obtain ⟨v, time⟩ := told
      simp only [Bool.and_eq_true, beq_iff_eq, decide_eq_true_eq, Option.some.injEq, Prod.mk.injEq]
      constructor
      · rintro ⟨rfl, hsoon⟩
        exact ⟨time, ⟨rfl, rfl⟩, hsoon⟩
      · rintro ⟨_, ⟨rfl, rfl⟩, hsoon⟩
        exact ⟨rfl, hsoon⟩

theorem repeats_zero (p : Profile) (c : Command) (now : Nat) : p.repeats c 0 now = false := by
  refine Bool.eq_false_iff.mpr fun hrepeats => ?_
  obtain ⟨time, -, hsoon⟩ := repeats_eq_true_iff.mp hrepeats
  exact Nat.not_lt_zero _ hsoon

end Profile
end RailLayout
