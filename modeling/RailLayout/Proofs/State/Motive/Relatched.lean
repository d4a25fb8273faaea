import RailLayout.Proofs.State.Binding
import RailLayout.Proofs.State.Feed
import RailLayout.Proofs.State.Motive.Latches
import RailLayout.Proofs.State.Motive.Replay

/-!
What is latched in an engine or a train that was rebuilt from the bytes of another one. The commands that the original
one is held by come in the order of their slots, and an output that an option-one key can switch comes after the key; so
after all of them every slot holds the operation that was sent for it (`MotiveState.held_run`), and what is latched is
the same as in the original one, at every address (`MotiveState.replayed_latches`).
-/

namespace RailLayout

namespace EngineOp

/-- The slot of the output that an option-one key can switch. -/
def switched? : EngineOp → Option Nat
  | aux1OptionOne => some 4
  | aux2OptionOne => some 5
  | _ => none

/-- Whether an operation can change what is held in a slot. -/
def Touches (op : EngineOp) (slot : Nat) : Prop := op.slot? = some slot ∨ op.switched? = some slot

end EngineOp

namespace MotiveState

/-- The operation that is latched in a slot. What is latched in the slot of the level of smoke is not looked at. -/
def Latches.held (l : Latches) : Nat → Option EngineOp
  | 0 => l.started.map fun started => if started then .startUpImmediate else .shutdownImmediate
  | 2 => l.direction
  | 3 => l.aux
  | 4 => l.aux1
  | 5 => l.aux2
  | _ => none

variable {kind : MotiveKind} {s : MotiveState} {rules : Rules}

/-! ## Slots -/

theorem held_of_mem (h : Coherent kind s) {op : EngineOp} (hop : op ∈ s.heldOps) {slot : Nat}
    (hslot : op.slot? = some slot) (hsmoke : slot ≠ 1) : s.latches.held slot = some op := by
  have hsame {held : Option EngineOp} {n : Nat} (hmem : op ∈ held.toList)
      (hn : ∀ other, held = some other → other.slot? = some n) : slot = n ∧ held = some op := by
    have hheld := Option.mem_toList.mp hmem
    have hthis := hn op hheld
    rw [hslot] at hthis
    exact ⟨Option.some.inj hthis, hheld⟩
  simp only [heldOps, List.mem_append] at hop
  rcases hop with ((((hstart | hlevel) | hturn) | hkey) | hfirst) | hsecond
  · obtain ⟨rfl, hheld⟩ := hsame hstart s.slot?_start
    exact hheld
  · exact absurd (hsame hlevel s.slot?_smoke).1 hsmoke
  · obtain ⟨rfl, hheld⟩ := hsame hturn (slot?_direction h)
    exact hheld
  · obtain ⟨rfl, hheld⟩ := hsame hkey (slot?_aux h)
    exact hheld
  · obtain ⟨rfl, hheld⟩ := hsame hfirst (slot?_aux1 h)
    exact hheld
  · obtain ⟨rfl, hheld⟩ := hsame hsecond (slot?_aux2 h)
    exact hheld

theorem mem_of_held (h : Coherent kind s) {op : EngineOp} {slot : Nat} (hheld : s.latches.held slot = some op) :
    op ∈ s.heldOps ∧ op.slot? = some slot := by
  simp only [heldOps, List.mem_append, Option.mem_toList]
  unfold Latches.held at hheld
  split at hheld
  · exact ⟨Or.inl (Or.inl (Or.inl (Or.inl (Or.inl hheld)))), s.slot?_start op hheld⟩
  · exact ⟨Or.inl (Or.inl (Or.inl (Or.inr hheld))), slot?_direction h op hheld⟩
  · exact ⟨Or.inl (Or.inl (Or.inr hheld)), slot?_aux h op hheld⟩
  · exact ⟨Or.inl (Or.inr hheld), slot?_aux1 h op hheld⟩
  · exact ⟨Or.inr hheld, slot?_aux2 h op hheld⟩
  · cases hheld

/-- The output that a key can switch is known once the key was pressed. -/
theorem switched_held (h : Coherent kind s) {op : EngineOp} (hop : op ∈ s.heldOps) {slot : Nat}
    (hswitched : op.switched? = some slot) : s.latches.held slot ≠ none := by
  have hknown {output : Option EngineOp} (hsome : output.isSome = true) : output ≠ none := by
    intro hnone
    rw [hnone] at hsome
    cases hsome
  cases op
  case aux1OptionOne =>
    cases hswitched
    exact hknown (h.aux1_known (Or.inl (held_of_mem h hop rfl (by decide))))
  case aux2OptionOne =>
    cases hswitched
    exact hknown (h.aux2_known (Or.inl (held_of_mem h hop rfl (by decide))))
  all_goals cases hswitched

/-- No operation that is sent later changes what an earlier one has latched. -/
theorem pairwise_touches (h : Coherent kind s) :
    s.heldOps.Pairwise fun a b => ∀ slot, a.slot? = some slot → ¬b.Touches slot := by
  have hall : [some 0, some 1, some 2, some 3, some 4, some 5].Pairwise
      (fun a b : Option Nat => a ≠ b ∧ (b = some 3 → a ≠ some 4 ∧ a ≠ some 5)) := by decide
  refine (List.pairwise_map.mp (hall.sublist (map_slot?_heldOps h))).imp fun {a b} horder slot hslot htouches => ?_
  obtain ⟨hne, hkeys⟩ := horder
  rcases htouches with hsame | hswitched
  · exact hne (hslot.trans hsame.symm)
  · rw [← hswitched] at hslot
    cases b
    case aux1OptionOne => exact (hkeys rfl).1 hslot
    case aux2OptionOne => exact (hkeys rfl).2 hslot
    all_goals cases hswitched

/-! ## The commands that a state is held by -/

/-- What the command for an operation latches in a slot. -/
theorem held_update {generation : Generation} {address : UInt16} {op : EngineOp} (hop : op.slot?.isSome = true)
    (hbound : s.profile.address = some address) (hready : Ready s (holding generation s.kind address) op)
    (settings : Settings) (now : Nat) {slot : Nat} (hsmoke : slot ≠ 1) {t : MotiveState}
    (ht : (s.update ⟨.stock, settings⟩ now (.command (holding generation s.kind address op))).state = t) :
    (¬op.Touches slot → t.latches.held slot = s.latches.held slot) ∧
      (op.slot? = some slot → t.latches.held slot = some op) := by
  obtain ⟨aux1, aux2, hlatches, haux1, haux2⟩ := latches_update_held hop hbound hready settings now
  rw [ht] at hlatches
  rw [hlatches]
  constructor
  · intro huntouched
    obtain ⟨hslot, hswitched⟩ := not_or.mp huntouched
    rcases slot with _ | _ | _ | _ | _ | _ | slot
    · simp only [Latches.held, if_neg hslot]
      rfl
    · exact absurd rfl hsmoke
    · exact if_neg hslot
    · exact if_neg hslot
    · exact (if_neg hslot).trans (haux1 fun hkey => hswitched (hkey ▸ rfl))
    · exact (if_neg hslot).trans (haux2 fun hkey => hswitched (hkey ▸ rfl))
    · rfl
  · intro hslot
    cases op <;> cases hslot
    all_goals first | rfl | exact absurd rfl hsmoke

/-- What is latched in a slot after commands that undo nothing that others of them latched before. -/
theorem held_run (settings : Settings) {generation : Generation} {kind : MotiveKind} {address : UInt16}
    {ops : List EngineOp} {s : MotiveState} {timed : List (Nat × Update)}
    (htimed : timed.map Prod.snd = ops.map fun op => .command (holding generation kind address op))
    (hkind : s.kind = kind) (hbound : s.profile.address = some address)
    (hheld : ∀ op ∈ ops, op.slot?.isSome = true)
    (hkept : ops.Pairwise fun a b => ∀ slot, a.slot? = some slot → ¬b.Touches slot)
    (hready : ∀ op ∈ ops, Ready s (holding generation kind address) op) {slot : Nat} (hsmoke : slot ≠ 1) :
    ((∀ op ∈ ops, ¬op.Touches slot) →
        (s.run ⟨.stock, settings⟩ timed).latches.held slot = s.latches.held slot) ∧
      ∀ op ∈ ops, op.slot? = some slot → (s.run ⟨.stock, settings⟩ timed).latches.held slot = some op := by
  have hslots : ops.Pairwise fun a b => a.slot? ≠ b.slot? := by
    refine hkept.imp_of_mem fun {a b} ha _ huntouched hsame => ?_
    obtain ⟨own, hown⟩ := Option.isSome_iff_exists.mp (hheld a ha)
    exact huntouched own hown (Or.inl (hsame ▸ hown))
  revert hkept
  refine run_held_induction settings (P := fun s ops t =>
    (ops.Pairwise fun a b => ∀ slot, a.slot? = some slot → ¬b.Touches slot) →
      ((∀ op ∈ ops, ¬op.Touches slot) → t.latches.held slot = s.latches.held slot) ∧
        ∀ op ∈ ops, op.slot? = some slot → t.latches.held slot = some op) ?_ ?_ htimed hkind hbound hheld hslots hready
  · exact fun _ _ => ⟨fun _ => rfl, fun op hop => absurd hop List.not_mem_nil⟩
  · intro s t op rest now hop hbound hready hnext hkept
    obtain ⟨hafter, hrest⟩ := List.pairwise_cons.mp hkept
    obtain ⟨hleft, hset⟩ := held_update hop hbound hready settings now hsmoke rfl
    obtain ⟨hstill, hlater⟩ := hnext hrest
    constructor
    · intro huntouched
      exact (hstill fun other hother => huntouched other (List.mem_cons_of_mem op hother)).trans
        (hleft (huntouched op List.mem_cons_self))
    · intro other hother hslot
      rcases List.mem_cons.mp hother with rfl | hother
      · exact (hstill fun third hthird => hafter third hthird slot hslot).trans (hset hslot)
      · exact hlater other hother hslot

/-- A state that was fresh except for its messages has the same latches as the state whose commands it was given. -/
theorem held_run_heldOps (hcoherent : Coherent kind s) {address : UInt16} (settings : Settings)
    {f : MotiveState} {timed : List (Nat × Update)}
    (htimed : timed.map Prod.snd = s.heldOps.map fun op => .command (holding s.generation kind address op))
    (hkind : f.kind = kind) (hbound : f.profile.address = some address)
    (hlast : ∀ c now, f.profile.last ≠ some (.command c, now)) (hfresh : ∀ slot, f.latches.held slot = none)
    {slot : Nat} (hsmoke : slot ≠ 1) :
    (f.run ⟨.stock, settings⟩ timed).latches.held slot = s.latches.held slot := by
  have hready : ∀ op ∈ s.heldOps, Ready f (holding s.generation kind address) op := fun op _ =>
    ready_of_fresh hlast (hfresh 2) _ op
  obtain ⟨hstill, hset⟩ := held_run settings htimed hkind hbound
    (fun op hop => isSome_slot?_of_mem_heldOps hcoherent hop) (pairwise_touches hcoherent) hready hsmoke
  cases hheld : s.latches.held slot with
  | some op =>
      obtain ⟨hop, hslot⟩ := mem_of_held hcoherent hheld
      exact hset op hop hslot
  | none =>
      refine (hstill fun op hop htouches => ?_).trans (hfresh slot)
      rcases htouches with hslot | hswitched
      · rw [held_of_mem hcoherent hop hslot hsmoke] at hheld
        cases hheld
      · exact switched_held hcoherent hop hswitched hheld

/-! ## The messages before them -/

/-- A message latches nothing and is no command that could be repeated. -/
theorem update_message_keeps (now : Nat) (m : Message) (hlast : ∀ c time, s.profile.last ≠ some (.command c, time)) :
    (∀ slot, (s.update rules now (.message m)).state.latches.held slot = s.latches.held slot) ∧
      ∀ c time, (s.update rules now (.message m)).state.profile.last ≠ some (.command c, time) := by
  cases haccept : s.profile.accept s.kind.scope (.message m) with
  | error cause =>
      simp only [update, haccept]
      exact ⟨fun _ => trivial, hlast⟩
  | ok q =>
      rw [update_message haccept]
      constructor
      · intro slot
        rcases latches_applyMessage now m { s with profile := q } with hsame | ⟨_, _, _, -, -, hset⟩
        · rw [hsame]
          rfl
        · rw [hset]
          rfl
      · intro c time hcommand
        have hq : q.last = s.profile.last := by rw [Profile.accept_eq haccept]
        rcases applyMessage_cases now m { s with profile := q } with hchanged | hsame
        · rw [hchanged] at hcommand
          cases hcommand
        · rw [hsame] at hcommand
          exact hlast c time (hq.symm.trans hcommand)

theorem run_messages {timed : List (Nat × Update)} (hmessages : ∀ u ∈ timed, ∃ m, u.2 = .message m)
    (hlast : ∀ c now, s.profile.last ≠ some (.command c, now)) :
    (∀ slot, (s.run rules timed).latches.held slot = s.latches.held slot) ∧
      ∀ c now, (s.run rules timed).profile.last ≠ some (.command c, now) := by
  induction timed generalizing s with
  | nil => exact ⟨fun _ => rfl, hlast⟩
  | cons first rest ih =>
      obtain ⟨now, u⟩ := first
      obtain ⟨m, rfl⟩ := hmessages (now, u) List.mem_cons_self
      obtain ⟨hkept, hlater⟩ : (∀ slot, (s.update rules now (.message m)).state.latches.held slot = _) ∧ _ :=
        update_message_keeps now m hlast
      obtain ⟨hrest, hend⟩ := ih (fun u hu => hmessages u (List.mem_cons_of_mem _ hu)) hlater
      exact ⟨fun slot => (hrest slot).trans (hkept slot), hend⟩

/-- What stands before the commands of a script are messages for the same component, and they can be sent. -/
theorem message_of_script (hlocated : Located s) {address : UInt16} (hrange : address ≤ 9999) {u : Update}
    (hu : u ∈ s.recordUpdates address ++ s.fourDigitUpdates address) :
    (∃ m, u.resent = .message m) ∧ u.Sendable ∧ u.resent.target? = some (s.kind.scope, address) := by
  rcases List.mem_append.mp hu with hu | hu
  · by_cases hlow : address ≤ 99
    · rw [recordUpdates_eq s hlow] at hu
      split at hu
      · rw [List.mem_singleton.mp hu]
        exact ⟨⟨_, rfl⟩, Update.sendable_record _, target?_record s hlow⟩
      · exact absurd hu List.not_mem_nil
    · rw [recordUpdates, if_neg fun h => hlow h.2] at hu
      exact absurd hu List.not_mem_nil
  · unfold fourDigitUpdates at hu
    split at hu
    · rename_i recordNo hrecord
      split at hu
      · rw [List.mem_singleton.mp hu]
        have hfound : recordNo ≠ FourDigitMessage.notFound := fun hlost => hlocated (hlost ▸ hrecord)
        refine ⟨⟨_, rfl⟩, Update.sendable_fourDigit ?_ ?_, ?_⟩
        · cases s.kind <;> rfl
        · intro n hn
          cases hn
          exact Nat.lt_succ_of_le (UInt16.le_iff_toNat_le.mp hrange)
        · show Update.fourDigitTarget? (.about s.kind recordNo (.map 0 (some address))) = _
          simp only [Update.fourDigitTarget?, FourDigitMessage.about, FourDigitMessage.isNotFound,
            beq_eq_false_iff_ne.mpr hfound, Bool.false_eq_true, if_false, Option.map_some]
          cases s.kind <;> rfl
      · exact absurd hu List.not_mem_nil
    · exact absurd hu List.not_mem_nil

theorem sendable_of_script (hlocated : Located s) {address : UInt16} (hbound : s.profile.address = some address)
    (hrange : address ≤ 9999) : ∀ u ∈ s.script, u.Sendable := by
  intro u hu
  rw [script_of_bound hbound] at hu
  rcases List.mem_append.mp hu with hu | hu
  · exact (message_of_script hlocated hrange hu).2.1
  · obtain ⟨op, -, rfl⟩ := List.mem_map.mp hu
    trivial

theorem target?_of_script (hlocated : Located s) {address : UInt16} (hbound : s.profile.address = some address)
    (hrange : address ≤ 9999) : ∀ u ∈ s.script.map Update.resent, u.target? = some (s.kind.scope, address) := by
  intro u hu
  obtain ⟨v, hv, rfl⟩ := List.mem_map.mp hu
  rw [script_of_bound hbound] at hv
  rcases List.mem_append.mp hv with hv | hv
  · exact (message_of_script hlocated hrange hv).2.2
  · obtain ⟨op, -, rfl⟩ := List.mem_map.mp hv
    rfl

/-! ## The whole script -/

/-- Updates for the address that an engine or a train is bound to are all taken. -/
theorem feed_motive {address : UInt16} {timed : List (Nat × Update)} (hbound : s.profile.address = some address)
    (htargets : ∀ u ∈ timed, u.2.target? = some (s.kind.scope, address)) :
    Component.feed rules timed (.motive s) = .ok (.motive (s.run rules timed)) := by
  induction timed generalizing s with
  | nil => rfl
  | cons first rest ih =>
      obtain ⟨now, u⟩ := first
      have htarget : u.target? = some (s.kind.scope, address) := htargets (now, u) List.mem_cons_self
      have haccept := Profile.accept_bound hbound htarget
      have htook : Component.Took (.motive s) s.profile u now ((Component.motive s).update rules now u) :=
        Component.took_motive haccept
      have hnext : Component.feed rules ((now, u) :: rest) (.motive s) =
          Component.feed rules rest (.motive (s.update rules now u).state) := by
        rcases htook.verdict with ⟨changed, hchanged⟩ | ⟨t, hother, -⟩
        · have hupdate : (Component.motive s).update rules now u = ⟨.motive (s.update rules now u).state, .ok changed⟩ := by
            rw [← hchanged]
            rfl
          rw [Component.feed, hupdate]
        · cases hother
      rw [hnext]
      have hscope : (s.update rules now u).state.kind.scope = s.kind.scope := htook.scope
      refine ih (htook.told.address.trans hbound) fun v hv => ?_
      rw [hscope]
      exact htargets v (List.mem_cons_of_mem _ hv)

theorem run_motive (timed : List (Nat × Update)) :
    (Component.motive s).run (timed.map fun u => .told rules u.1 u.2) = .motive (s.run rules timed) := by
  induction timed generalizing s with
  | nil => rfl
  | cons u rest ih => exact ih

theorem address_run {address : UInt16} (hbound : s.profile.address = some address) (timed : List (Nat × Update)) :
    (s.run rules timed).profile.address = some address := by
  have hstart : (Component.motive s).profile.address = some address := hbound
  have hstays := Component.address_run hstart (timed.map fun u => .told rules u.1 u.2)
  rwa [run_motive] at hstays

/-- An engine or a train that has no address has taken nothing. -/
theorem run_eq_of_unbound {timed : List (Nat × Update)} (h : (s.run rules timed).profile.address = none) :
    s.run rules timed = s := by
  induction timed generalizing s with
  | nil => rfl
  | cons u rest ih =>
      have hrest : (s.update rules u.1 u.2).state.run rules rest = (s.update rules u.1 u.2).state := ih h
      have hfree : ((s.update rules u.1 u.2).state.run rules rest).profile.address = none := h
      show (s.update rules u.1 u.2).state.run rules rest = s
      rw [hrest] at hfree ⊢
      cases haccept : s.profile.accept s.kind.scope u.2 with
      | error cause => simp only [update, haccept]
      | ok q =>
          have htook : Component.Took (.motive s) q u.2 u.1 ((Component.motive s).update rules u.1 u.2) :=
            Component.took_motive haccept
          have hbound : (s.update rules u.1 u.2).state.profile.address.isSome = true :=
            (congrArg Option.isSome htook.told.address).trans (Profile.isSome_address_of_accept haccept)
          rw [hfree] at hbound
          cases hbound

/-- A fresh state that was told what stands before the commands of a script has latched nothing and was told no command. -/
theorem run_messages_of_script (hlocated : Located s) {address : UInt16} (hrange : address ≤ 9999) (rules : Rules)
    {timed : List (Nat × Update)}
    (htimed : timed.map Prod.snd = (s.recordUpdates address ++ s.fourDigitUpdates address).map Update.resent) :
    (∀ slot, ((fresh kind (.fresh (some address))).run rules timed).latches.held slot = none) ∧
      ∀ c now, ((fresh kind (.fresh (some address))).run rules timed).profile.last ≠ some (.command c, now) := by
  have hmessages : ∀ u ∈ timed, ∃ m, u.2 = .message m := by
    intro u hu
    obtain ⟨v, hv, hresent⟩ := List.mem_map.mp (htimed ▸ List.mem_map_of_mem hu)
    rw [← hresent]
    exact (message_of_script hlocated hrange hv).1
  have hnew : ∀ slot, (fresh kind (.fresh (some address))).latches.held slot = none := by
    intro slot
    unfold Latches.held
    split <;> rfl
  have hlast : ∀ c now, (fresh kind (.fresh (some address))).profile.last ≠ some (.command c, now) :=
    fun c now hc => by cases hc
  obtain ⟨hlatches, hlater⟩ := run_messages hmessages hlast
  exact ⟨fun slot => (hlatches slot).trans (hnew slot), hlater⟩

/-- What is latched in a state that was rebuilt from a script, whatever the times. -/
theorem held_run_script (hcoherent : Coherent kind s) (hlocated : Located s) {address : UInt16}
    (hbound : s.profile.address = some address) (hrange : address ≤ 9999) (settings : Settings)
    {timed : List (Nat × Update)} (htimed : timed.map Prod.snd = s.script.map Update.resent) {slot : Nat}
    (hsmoke : slot ≠ 1) :
    ((fresh kind (.fresh (some address))).run ⟨.stock, settings⟩ timed).latches.held slot = s.latches.held slot := by
  rw [script_of_bound hbound, List.map_append, List.map_map] at htimed
  obtain ⟨first, rest, rfl, hfirst, hrest⟩ := List.map_eq_append_iff.mp htimed
  obtain ⟨hnew, hlast⟩ := run_messages_of_script hlocated hrange ⟨.stock, settings⟩ hfirst
  rw [run_append]
  exact held_run_heldOps hcoherent settings (hcoherent.kind_eq ▸ hrest)
    (coherent_run _ kind (.fresh (some address)) first).kind_eq (address_run rfl first) hlast hnew hsmoke

theorem started_of_held {l m : Latches} (h : l.held 0 = m.held 0) : l.started = m.started := by
  have hinjective : Function.Injective fun started : Bool =>
      if started then EngineOp.startUpImmediate else EngineOp.shutdownImmediate := by
    intro a b hab
    cases a <;> cases b <;> first | rfl | cases hab
  exact Option.map_injective hinjective h

theorem build_of_admits {address : UInt16} (h : kind.scope.admits address = true) :
    Component.build kind.scope (some address) = .ok (.motive (fresh kind (.fresh (some address)))) := by
  have hvalid : kind.scope.validate address = .ok address := if_pos h
  have hprofile : Profile.build kind.scope (some address) = .ok (.fresh (some address)) := bind_of_ok hvalid
  cases kind <;> exact bind_of_ok hprofile

theorem le_of_admits {address : UInt16} (h : kind.scope.admits address = true) : address ≤ 9999 := by
  have hrange := (of_decide_eq_true h).2
  cases kind with
  | engine => exact hrange
  | train => exact UInt16.le_trans hrange (by decide)

/-- Take any engine or train after any updates under the stock graph, whether it started with an address or without. It
has bytes unless the codec refuses one of the commands in its script. Its bytes are read back, and whatever the times
and windows, a fresh engine or train of the same kind and address takes everything that was read; whether it is started,
its direction and its auxiliary outputs are the same then as in the original one, known or unknown. -/
theorem replayed_latches {σ : Type} {codec : Codec σ} (hcodec : codec.Inverts) {kind : MotiveKind}
    {start : Option UInt16} (hstart : Component.build kind.scope start = .ok (.motive (fresh kind (.fresh start))))
    (settings : Settings) (history : List (Nat × Update)) {s : MotiveState}
    (hs : (fresh kind (.fresh start)).run ⟨.stock, settings⟩ history = s) (memory : σ) :
    (∀ e memory', ((Component.motive s).encode codec).run memory = (.error e, memory') →
      ∃ c, .command c ∈ s.script ∧ ∃ m, (codec.encode c m).1 = .error e) ∧
    ∀ bytes memory', ((Component.motive s).encode codec).run memory = (.ok bytes, memory') →
      ∃ updates, Update.decodeAll codec memory' bytes = .ok updates ∧
        ∀ (windows : Settings) (timed : List (Nat × Update)), timed.map Prod.snd = updates →
          ∃ again replayed, Component.build kind.scope s.profile.address = .ok again ∧
            Component.feed ⟨.stock, windows⟩ timed again = .ok (.motive replayed) ∧
              replayed.started = s.started ∧ replayed.direction = s.direction ∧ replayed.aux = s.aux ∧
                replayed.aux1 = s.aux1 ∧ replayed.aux2 = s.aux2 := by
  refine ⟨fun e memory' herror => Update.encodeAll_eq_error herror, fun bytes memory' hbytes => ?_⟩
  have hcoherent : Coherent kind s := hs ▸ coherent_run _ kind (.fresh start) history
  have hlocated : Located s := hs ▸ located_run _ kind (.fresh start) history
  cases hbound : s.profile.address with
  | none =>
      -- Nothing was taken, so there is nothing to say and nothing to restore.
      have hfresh : s = fresh kind (.fresh start) := hs ▸ run_eq_of_unbound (hs.symm ▸ hbound)
      have hstill : s.script = [] := by rw [script, hbound]
      have hbuild : Component.build kind.scope none = .ok (.motive (fresh kind (.fresh none))) := by
        cases kind <;> rfl
      have hsendable : ∀ u ∈ s.script, u.Sendable := by
        rw [hstill]
        exact fun u hu => absurd hu List.not_mem_nil
      have hread := Update.decodeAll_encodeAll hcodec hsendable hbytes
      rw [hstill] at hread
      refine ⟨[], hread, fun windows timed htimed => ?_⟩
      rw [List.map_eq_nil_iff] at htimed
      subst htimed
      refine ⟨_, fresh kind (.fresh none), hbuild, rfl, ?_⟩
      rw [hfresh]
      exact ⟨rfl, rfl, rfl, rfl, rfl⟩
  | some address =>
      have hadmits : kind.scope.admits address = true := by
        refine Component.admits_run hstart (history.map fun u => .told ⟨.stock, settings⟩ u.1 u.2) ?_
        rw [run_motive, hs]
        exact hbound
      have hrange := le_of_admits hadmits
      have hread := Update.decodeAll_encodeAll hcodec (sendable_of_script hlocated hbound hrange) hbytes
      refine ⟨_, hread, fun windows timed htimed => ?_⟩
      have htargets : ∀ u ∈ timed, u.2.target? = some (kind.scope, address) := by
        intro u hu
        have htarget := target?_of_script hlocated hbound hrange u.2 (htimed ▸ List.mem_map_of_mem hu)
        rwa [hcoherent.kind_eq] at htarget
      have hheld : ∀ slot, slot ≠ 1 → _ = s.latches.held slot := fun slot hsmoke =>
        held_run_script hcoherent hlocated hbound hrange windows htimed hsmoke
      refine ⟨_, _, build_of_admits hadmits, feed_motive rfl htargets, started_of_held (hheld 0 (by decide)), ?_⟩
      exact ⟨hheld 2 (by decide), hheld 3 (by decide), hheld 4 (by decide), hheld 5 (by decide)⟩

/-- Engine 2056 was started, turned around and had its first key pressed; all of this comes back, though the key switches
the output of the engine that is rebuilt, before the output itself is sent. -/
theorem replayed_latches_pressed :
    let told (op : EngineOp) : Nat × Update := (0, .command ⟨.engine .legacy op, 2056, none, .engine⟩)
    let s := (fresh .engine (.fresh none)).run ⟨.stock, .standard⟩
      [told .startUpImmediate, told .reverseDirection, told .aux1OptionOne, told .aux1Off]
    s.profile.address = some 2056 ∧ s.aux = some .aux1OptionOne ∧ s.aux1 = some .aux1Off ∧
      ∃ bytes memory updates,
        ((Component.motive s).encode CommandTable.codec).run [] = (.ok bytes, memory) ∧
          Update.decodeAll CommandTable.codec memory bytes = .ok updates ∧
            ∀ (windows : Settings) (timed : List (Nat × Update)), timed.map Prod.snd = updates →
              ∃ again replayed, Component.build .engine (some 2056) = .ok again ∧
                Component.feed ⟨.stock, windows⟩ timed again = .ok (.motive replayed) ∧
                  replayed.started = some true ∧ replayed.direction = some .reverseDirection ∧
                    replayed.aux1 = some .aux1Off := by
  intro told s
  have hbound : s.profile.address = some 2056 := by decide +kernel
  have hlatches : s.latches = ⟨some true, some .reverseDirection, some .aux1OptionOne, some .aux1Off, none, none⟩ := by
    decide +kernel
  have hspelled : (((Component.motive s).encode CommandTable.codec).run []).1.isOk = true := by decide +kernel
  have hs : (fresh .engine (.fresh none)).run ⟨.stock, .standard⟩
      [told .startUpImmediate, told .reverseDirection, told .aux1OptionOne, told .aux1Off] = s := rfl
  clear_value s
  rcases hbytes : ((Component.motive s).encode CommandTable.codec).run [] with ⟨_ | bytes, memory⟩
  · rw [hbytes] at hspelled
    cases hspelled
  · have hstart : Component.build MotiveKind.engine.scope none = .ok (.motive (fresh .engine (.fresh none))) := rfl
    obtain ⟨-, hread⟩ := replayed_latches CommandTable.codec_inverts hstart .standard
      [told .startUpImmediate, told .reverseDirection, told .aux1OptionOne, told .aux1Off] hs []
    obtain ⟨updates, hread, hreplayed⟩ := hread bytes memory hbytes
    refine ⟨hbound, congrArg Latches.aux hlatches, congrArg Latches.aux1 hlatches, bytes, memory, updates, rfl, hread,
      fun windows timed htimed => ?_⟩
    obtain ⟨again, replayed, hbuilt, hfed, hstarted, hdirection, -, haux1, -⟩ := hreplayed windows timed htimed
    rw [hbound] at hbuilt
    exact ⟨again, replayed, hbuilt, hfed, hstarted.trans (congrArg Latches.started hlatches),
      hdirection.trans (congrArg Latches.direction hlatches), haux1.trans (congrArg Latches.aux1 hlatches)⟩

end MotiveState
end RailLayout
