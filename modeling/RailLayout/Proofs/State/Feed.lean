import RailLayout.Proofs.Message.Spoken
import RailLayout.Proofs.State.Names
import RailLayout.Proofs.State.Run

/-!
Components that are fed updates, which may end with a refusal. A component takes updates if none of them is refused at
any time (`Component.Takes`); updates that are taken one after the other are taken together (`Component.takes_append`).
What a component has heard are commands and messages that were read from frames (`Incident.Heard`).
-/

namespace RailLayout

/-- What updates keep to that are commands or were read from frames. -/
def Update.Spoken : Update → Prop
  | command _ => True
  | message m => m.Spoken

/-- Whether a component was told a command or a message from a frame, or saw something pass. -/
def Incident.Heard : Incident → Prop
  | told _ _ (.command _) => True
  | told _ _ (.message m) => ∃ frame, Message.ofFrame frame = .ok m
  | seen _ => True

theorem Incident.spoken_of_heard {rules : Rules} {now : Nat} {u : Update} (h : (told rules now u).Heard) :
    u.Spoken := by
  cases u with
  | command c => trivial
  | message m =>
      obtain ⟨frame, hframe⟩ := h
      exact Message.spoken_of_ofFrame hframe

/-- What is read from the frame of an update that can be sent is spoken. -/
theorem Update.spoken_resent {u : Update} (h : u.Sendable) : u.resent.Spoken := by
  cases u with
  | command c => trivial
  | message m => exact Message.spoken_of_ofFrame h.1

namespace Component

/-- Feed updates to a component, each at its time, unless one is refused. -/
def feed (rules : Rules) : List (Nat × Update) → Component → Except Error Component
  | [], c => .ok c
  | (now, u) :: rest, c =>
    match c.update rules now u with
    | ⟨_, .error e⟩ => .error e
    | ⟨d, .ok _⟩ => feed rules rest d

/-- Whether a component refuses none of some updates, whenever they come, and is in a given state after them. -/
def Takes (rules : Rules) (P : Component → Prop) : List Update → Component → Prop
  | [], c => P c
  | u :: rest, c => ∀ now, ∃ d changed, c.update rules now u = ⟨d, .ok changed⟩ ∧ Takes rules P rest d

variable {rules : Rules} {P Q : Component → Prop} {us vs : List Update} {c : Component}

theorem takes_append (h : Takes rules (Takes rules P vs) us c) : Takes rules P (us ++ vs) c := by
  induction us generalizing c with
  | nil => exact h
  | cons u rest ih =>
      intro now
      obtain ⟨d, changed, hupdate, hd⟩ := h now
      exact ⟨d, changed, hupdate, ih hd⟩

theorem takes_of_append (h : Takes rules P (us ++ vs) c) : Takes rules (Takes rules P vs) us c := by
  induction us generalizing c with
  | nil => exact h
  | cons u rest ih =>
      intro now
      obtain ⟨d, changed, hupdate, hd⟩ := h now
      exact ⟨d, changed, hupdate, ih hd⟩

theorem takes_imp (h : Takes rules P us c) (himp : ∀ d, P d → Q d) : Takes rules Q us c := by
  induction us generalizing c with
  | nil => exact himp c h
  | cons u rest ih =>
      intro now
      obtain ⟨d, changed, hupdate, hd⟩ := h now
      exact ⟨d, changed, hupdate, ih hd⟩

/-- What every update keeps to is kept by updates that are taken. -/
theorem takes_and (h : Takes rules P us c) (hc : Q c)
    (hstep : ∀ u ∈ us, ∀ now d, Q d → Q (d.update rules now u).state) : Takes rules (fun d => P d ∧ Q d) us c := by
  induction us generalizing c with
  | nil => exact ⟨h, hc⟩
  | cons u rest ih =>
      intro now
      obtain ⟨d, changed, hupdate, hd⟩ := h now
      have hkept := hstep u List.mem_cons_self now c hc
      rw [hupdate] at hkept
      exact ⟨d, changed, hupdate, ih hd hkept fun v hv => hstep v (List.mem_cons_of_mem u hv)⟩

/-- Updates that a component takes can be fed to it at any times. -/
theorem feed_of_takes (h : Takes rules P us c) {timed : List (Nat × Update)} (htimed : timed.map Prod.snd = us) :
    ∃ d, feed rules timed c = .ok d ∧ P d := by
  induction timed generalizing us c with
  | nil =>
      subst htimed
      exact ⟨c, rfl, h⟩
  | cons first rest ih =>
      obtain ⟨now, u⟩ := first
      subst htimed
      obtain ⟨d, changed, hupdate, hd⟩ := h now
      obtain ⟨fed, hfed, hP⟩ := ih hd rfl
      refine ⟨fed, ?_, hP⟩
      rw [feed, hupdate]
      exact hfed

end Component
end RailLayout
