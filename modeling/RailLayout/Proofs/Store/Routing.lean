import RailLayout.Proofs.Store.Halt
import RailLayout.Proofs.Store.Placed

/-!
Where updates are routed. A command that could be built, or a message that was read from a frame, is routed to a
component of its own kind. It is routed to a component with another address only by a number of four digits, or of three,
and this component refuses it if its road number has changed since (`Store.misrouted_iff`).
-/

namespace RailLayout

/-- Whether an error says that a component was sent something for another address or another kind. -/
def Error.isMisrouting : Error → Bool
  | addressMismatch _ _ _ => true
  | scopeMismatch _ _ => true
  | _ => false

/-- Whether an observer is told that an update was refused because it was for another address or another kind. -/
def StoreEvent.isMisrouting : StoreEvent → Bool
  | rejected _ _ cause => cause.isMisrouting
  | _ => false

/-- What is sent to components: commands that can be built, and messages that are read from frames. -/
inductive Update.Sent : Update → Prop where
  | command {operation : Operation} {address : UInt16} {data : Option UInt16} {scope : Option Scope} {c : Command}
      (h : Command.build operation address data scope = .ok c) : Sent (.command c)
  | message {frame : Frame} {m : Message} (h : Message.ofFrame frame = .ok m) : Sent (.message m)

/-! ## Targets -/

theorem Scope.bound_of_admits {scope : Scope} {n : UInt16} (h : scope.admits n = true) : scope.bound n = n := by
  cases scope with
  | base | sync =>
      have hrange := of_decide_eq_true h
      exact UInt16.le_antisymm hrange.1 hrange.2
  | _ => rfl

theorem MotiveKind.bound_scope (kind : MotiveKind) (n : UInt16) : kind.scope.bound n = n := by
  cases kind <;> rfl

theorem BoardAction.bound_scope {board : Board} (hboard : board ≠ .wifi) (action : BoardAction board) (n : UInt16) :
    action.scope.bound n = n := by
  unfold scope
  split <;> first | rfl | contradiction

theorem MemoryMessage.bound_scope {frame : Frame} {m : MemoryMessage} (h : ofFrame frame = .ok m) {scope : Scope}
    (hscope : m.scope = some scope) (n : UInt16) : scope.bound n = n := by
  have hsame := congrArg MemoryMessage.scope (resent_eq_of_ofFrame h (by rw [hscope]; exact Option.some_ne_none scope))
  rw [hscope] at hsame
  have htype : (typeOf? scope).isSome = true := by
    have hfound := List.find?_some (show Scope.all.find? (fun s => typeOf? s == some _) = some scope from hsame)
    rw [beq_iff_eq.mp hfound]
    rfl
  cases scope <;> first | rfl | cases htype

namespace Update

variable {u : Update} {scope : Scope} {n : UInt16}

theorem bound_of_memory {frame : Frame} {m : MemoryMessage} (h : Message.ofFrame frame = .ok (.memory m))
    (hscope : m.scope = some scope) : scope.bound n = n := by
  unfold Message.ofFrame at h
  split at h
  case h_3 =>
    rcases Message.of_ofBaseFrame h with ⟨r, hr, hsame⟩ | ⟨r, -, hsame⟩ | ⟨r, -, hsame⟩
    · cases hsame
      exact MemoryMessage.bound_scope hr hscope n
    · cases hsame
    · cases hsame
  case h_6 =>
    split at h
    · obtain ⟨r, -, h⟩ := ok_of_bind h
      cases h
    · cases h
  all_goals first | cases h | (obtain ⟨r, -, h⟩ := ok_of_bind h; cases h)

theorem bound_of_message {frame : Frame} {m : Message} (h : Message.ofFrame frame = .ok m)
    (htarget : messageTarget? m = some (scope, n)) : scope.bound n = n := by
  cases m with
  | ping | passThrough | raw => cases htarget
  | record r =>
      obtain ⟨recordNo, flags, status, spare, contents⟩ := r
      cases htarget
      cases contents with
      | none kind => cases kind with
        | motive kind => exact MotiveKind.bound_scope kind _
        | fixture kind => cases kind <;> rfl
        | base => rfl
      | motive kind => exact MotiveKind.bound_scope kind _
      | fixture kind => cases kind <;> rfl
      | base => rfl
  | speed r =>
      cases htarget
      exact MotiveKind.bound_scope r.kind _
  | memory r =>
      cases hscope : r.scope with
      | none =>
          simp only [messageTarget?, Message.scope?, hscope, reduceCtorEq] at htarget
      | some received =>
          simp only [messageTarget?, Message.scope?, Message.address?, hscope] at htarget
          cases htarget
          exact bound_of_memory h hscope
  | fourDigit r =>
      have htarget : fourDigitTarget? r = some (scope, n) := htarget
      cases hlookup : r.lookup with
      | count | firstRecord =>
          rw [fourDigitTarget?, hlookup] at htarget
          cases htarget
          rfl
      | map postAction id =>
          rw [fourDigitTarget?, hlookup] at htarget
          obtain ⟨-, hfound⟩ := Option.ite_none_left_eq_some.mp htarget
          obtain ⟨address, -, hsame⟩ := Option.map_eq_some_iff.mp hfound
          cases hsame
          exact MotiveKind.bound_scope _ _
      | query | nextRecord =>
          rw [fourDigitTarget?, hlookup] at htarget
          cases htarget
  | block r =>
      cases htarget
      rfl
  | board b r =>
      cases b with
      | wifi | ser2 => cases htarget
      | bpc2 | stm2 =>
          cases htarget
          rfl
      | irda | asc2 | amc2 =>
          cases htarget
          exact BoardAction.bound_scope (by decide) r.action _

/-- An update is for an address that a component of its kind can be bound to. -/
theorem bound_of_sent (h : u.Sent) (htarget : u.target? = some (scope, n)) : scope.bound n = n := by
  cases h with
  | @command operation address data chosen c h =>
      cases htarget
      obtain ⟨-, hadmits, hsame⟩ := Command.of_build h
      exact Scope.bound_of_admits (hsame.symm ▸ hadmits)
  | message h => exact bound_of_message h htarget

end Update

/-! ## Refusals -/

namespace Component

variable {c : Component} {rules : Rules} {now : Nat} {u : Update}

/-- What was accepted is refused only for an accessory that another kind of board drives. -/
theorem heldByOther_of_accepted {q : Profile} (h : c.profile.accept c.scope u = .ok q) {cause : Error}
    (hcause : (c.update rules now u).verdict = .error cause) :
    ∃ address holder offered, cause = .protocol (.heldByOther address holder offered) := by
  have htook : Took c q u now (c.update rules now u) := took_of_accepted h
  rcases htook.verdict with ⟨changed, hchanged⟩ | ⟨s, rfl, -, -⟩
  · rw [hchanged] at hcause
    cases hcause
  · rw [update] at hcause
    cases u with
    | command d =>
        rw [AccessoryState.update_command h] at hcause
        cases hcause
    | message m =>
        rw [AccessoryState.update_message h] at hcause
        unfold Outcome.map AccessoryState.applyMessage AccessoryState.applyKind at hcause
        repeat' split at hcause
        all_goals cases hcause
        exact ⟨_, _, _, rfl⟩

theorem invalidAddress_of_build {scope : Scope} {address : UInt16} {cause : Error}
    (h : build scope (some address) = .error cause) : cause = .invalidAddress scope address := by
  cases hadmits : scope.admits address
  all_goals
    cases scope <;>
      simp [build, Profile.build, Scope.validate, hadmits, bind, Except.bind, pure, Except.pure] at h
  all_goals exact h.symm

end Component

namespace Store

variable {store : Store} {e : Entry} {scope : Scope} {n : UInt16} {now : Nat} {u : Update}

theorem accept_of_found (hsound : e.Sound) (hplace : e.state.profile.address = some (e.scope.bound e.address))
    (htarget : u.target? = some (e.scope, n)) (hbound : e.scope.bound n = n)
    (hfound : e.address = n ∨ (e.scope.isMotive = true ∧ 99 < n)) :
    e.state.profile.accept e.state.scope u =
      if e.address = n ∨ e.state.profile.spelledAddress? = some n then .ok e.state.profile
      else .error (.addressMismatch e.scope e.address n) := by
  by_cases hown : e.address = n
  · rw [if_pos (Or.inl hown)]
    refine Profile.accept_bound hplace ?_
    rw [htarget, hsound.scope_eq, hown, hbound]
  · obtain ⟨hmotive, habove⟩ := hfound.resolve_left hown
    have hhere : e.state.profile.address = some e.address := by
      rw [hplace, Scope.bound_of_isMotive hmotive]
    have hdirect : ¬(n = broadcastAddress ∧ e.scope ≠ .sync) := by
      rintro ⟨rfl, -⟩
      exact absurd habove (by decide)
    have halias : e.state.profile.isAlias e.scope n = true ↔ e.state.profile.spelledAddress? = some n := by
      rw [Profile.isAlias_eq_true_iff]
      exact ⟨fun h => h.2.2, fun h => ⟨hmotive, habove, h⟩⟩
    simp only [Profile.accept, htarget, hsound.scope_eq, hhere, ne_eq, not_true_eq_false, false_and, if_false,
      if_neg hdirect, halias, hown, false_or]

/-! ## What observers are told -/

theorem isMisrouting_of_getOrCreate {cause : Error} (h : store.getOrCreate scope n = .error cause) :
    cause.isMisrouting = false := by
  unfold getOrCreate at h
  split at h
  · cases h
  · cases hbuilt : Component.build scope (some n) with
    | ok state =>
        rw [hbuilt] at h
        cases h
    | error other =>
        rw [hbuilt] at h
        cases h
        rw [Component.invalidAddress_of_build hbuilt]
        rfl

/-- Whether no observer is told that an update was for another address or another kind. -/
def Routed (events : List StoreEvent) : Prop := ∀ event ∈ events, event.isMisrouting = false

theorem routed_nil : Routed [] := fun _ h => absurd h List.not_mem_nil

theorem routed_singleton {event : StoreEvent} (h : event.isMisrouting = false) : Routed [event] := by
  intro other hother
  rwa [List.mem_singleton.mp hother]

theorem routed_append {events more : List StoreEvent} (h : Routed events) (hmore : Routed more) :
    Routed (events ++ more) :=
  fun event hevent => (List.mem_append.mp hevent).elim (h event) (hmore event)

theorem routed_passSighting (u : Update) (store : Store) : Routed (store.passSighting u).events := by
  unfold passSighting
  split
  · unfold applySighting
    dsimp only
    split
    · rename_i hrefused
      exact routed_singleton (isMisrouting_of_getOrCreate hrefused)
    · split
      · exact routed_singleton rfl
      · exact routed_nil
  · exact routed_nil

/-- Giving an update to a component that accepts it. -/
theorem routed_applyTo {q : Profile} (h : e.state.profile.accept e.state.scope u = .ok q) :
    Routed (store.applyTo now u e).events := by
  unfold applyTo
  dsimp only
  split
  · exact routed_append (routed_singleton rfl) (routed_passSighting u _)
  · exact routed_nil
  · rename_i cause hcause
    obtain ⟨address, holder, offered, rfl⟩ := Component.heldByOther_of_accepted h hcause
    exact routed_singleton rfl

/-- A command for every component of its kind is accepted by all of them. -/
theorem routed_broadcast (h : Sound store) {c : Command} (hall : c.address = broadcastAddress)
    (hscope : c.scope ≠ .sync) (targets : List Entry) (htargets : ∀ x ∈ targets, x.scope = c.scope) :
    Routed (Reaction.forEach (applyToFiled now (.command c)) targets store).events := by
  induction targets generalizing store with
  | nil => exact routed_nil
  | cons x rest ih =>
      have hnext := sound_moves h (moves_applyToFiled now (.command c) x store)
      refine routed_append ?_ (ih hnext fun y hy => htargets y (List.mem_cons_of_mem x hy))
      unfold applyToFiled
      split
      · rename_i present hpresent
        obtain ⟨hmem, hkey⟩ := filed?_eq_some hpresent
        have hpresentScope : present.state.scope = c.scope :=
          (h.sound present hmem).scope_eq.trans
            ((congrArg Prod.fst hkey).trans (htargets x List.mem_cons_self))
        have hbound := (h.sound present hmem).bound
        have haccept : present.state.profile.accept present.state.scope (.command c) = .ok present.state.profile := by
          obtain ⟨a, ha⟩ := Option.isSome_iff_exists.mp hbound
          simp only [Profile.accept, Update.target?, hpresentScope, hall, ha, ne_eq, hscope, not_true_eq_false,
            not_false_eq_true, false_and, and_self, if_false, if_true]
        exact routed_applyTo haccept
      · exact routed_nil

/-! ## One dispatch -/

/-- Whether an update is for a number that finds a component which is filed elsewhere and has another road number by
now. -/
structure Outdated (store : Store) (u : Update) (e : Entry) (n : UInt16) : Prop where
  target : u.target? = some (e.scope, n)
  found : store.query e.scope n = some e
  elsewhere : e.address ≠ n
  renamed : e.state.profile.spelledAddress? ≠ some n

theorem put_of_mem (hdistinct : store.keys.Nodup) (he : e ∈ store.entries) : store.put e = store := by
  have hentries : (store.entries.map fun old => if old.isAt e.scope e.address then e else old) =
      store.entries.map id := by
    refine List.map_congr_left fun old hold => ?_
    split
    · rename_i hat
      exact eq_of_key_eq hdistinct he hold (Entry.isAt_iff.mp hat).symm
    · rfl
  rw [put, hentries, List.map_id]

theorem dispatch_eq_route (hhalt : u.isHalt = false) (htarget : u.target? = some (scope, n))
    (hdirect : ¬(n = broadcastAddress ∧ scope ≠ .sync)) : store.dispatch now u = store.route now u := by
  cases u with
  | message m => rfl
  | command c =>
      cases htarget
      obtain ⟨hhalt, hsystem⟩ := Bool.or_eq_false_iff.mp hhalt
      have hone : c.isBroadcast = false := by
        simpa [Command.isBroadcast] using hdirect
      simp only [dispatch, hhalt, hsystem, hone, Bool.false_eq_true, if_false]

/-- Such an update is refused and changes nothing. -/
theorem dispatch_of_outdated (hsound : Sound store) (hplaced : Placed store) (hsent : u.Sent) (hhalt : u.isHalt = false)
    (h : store.Outdated u e n) :
    store.dispatch now u = ⟨store, [.rejected e.scope e.address (.addressMismatch e.scope e.address n)], 0⟩ := by
  have hmem := (query_eq_some h.found).1
  have hfound := hplaced.address_of_query h.found
  -- Only a number above 99 finds a component that is filed elsewhere, so the update is for no broadcast.
  have habove : 99 < n := (hfound.resolve_left h.elsewhere).2
  have hdirect : ¬(n = broadcastAddress ∧ e.scope ≠ .sync) := by
    rintro ⟨rfl, -⟩
    exact absurd habove (by decide)
  have hrefused := accept_of_found (hsound.sound e hmem) (hplaced.bound e hmem) h.target
    (Update.bound_of_sent hsent h.target) hfound
  rw [if_neg fun haccepted => haccepted.elim h.elsewhere h.renamed] at hrefused
  rw [dispatch_eq_route hhalt h.target hdirect, route, h.target]
  simp only [applyAt, getOrCreate, h.found, applyTo, Component.update_of_refused hrefused]
  rw [put_of_mem hsound.distinct hmem]

theorem found_of_getOrCreate {later : Store} (h : store.getOrCreate scope n = .ok (e, later)) :
    e.address = n ∨ store.query scope n = some e := by
  rcases getOrCreate_cases h with ⟨hquery, -⟩ | ⟨state, -, -, rfl, -⟩
  · exact Or.inr hquery
  · exact Or.inl rfl

theorem routed_route (hsound : Sound store) (hplaced : Placed store) (hsent : u.Sent)
    (h : ∀ e n, ¬store.Outdated u e n) : Routed (store.route now u).events := by
  unfold route
  split
  · rename_i scope n htarget
    unfold applyAt
    split
    · rename_i hrefused
      exact routed_singleton (isMisrouting_of_getOrCreate hrefused)
    · rename_i e later hgot
      obtain ⟨hmoves, hmem⟩ := moves_getOrCreate hgot
      have hlater := sound_moves hsound hmoves
      have hbound := moves_invariant placed_move hsound hplaced hmoves
      have hscope := scope_of_getOrCreate hgot
      subst hscope
      have hfound : e.address = n ∨ (e.scope.isMotive = true ∧ 99 < n) :=
        (found_of_getOrCreate hgot).elim Or.inl hplaced.address_of_query
      -- A component that is filed elsewhere was found by its road number, which still spells the number.
      have hcurrent : e.address = n ∨ e.state.profile.spelledAddress? = some n := by
        rcases found_of_getOrCreate hgot with hown | hquery
        · exact Or.inl hown
        · by_contra hneither
          obtain ⟨helsewhere, hrenamed⟩ := not_or.mp hneither
          exact h e n ⟨htarget, hquery, helsewhere, hrenamed⟩
      have haccept := accept_of_found (hlater.sound e hmem) (hbound.bound e hmem) htarget
        (Update.bound_of_sent hsent htarget) hfound
      rw [if_pos hcurrent] at haccept
      exact routed_applyTo haccept
  · exact routed_nil

/-- Any other update is accepted where it is routed to. -/
theorem routed_dispatch (hsound : Sound store) (hplaced : Placed store) (hsent : u.Sent) (hhalt : u.isHalt = false)
    (h : ∀ e n, ¬store.Outdated u e n) : Routed (store.dispatch now u).events := by
  cases u with
  | message m => exact routed_route hsound hplaced hsent h
  | command c =>
      have hone : Routed (store.route now (.command c)).events := routed_route hsound hplaced hsent h
      obtain ⟨hhalt, hsystem⟩ := Bool.or_eq_false_iff.mp hhalt
      cases hall : c.isBroadcast with
      | false => simpa only [dispatch, hhalt, hsystem, hall, Bool.false_eq_true, if_false] using hone
      | true =>
          simp only [dispatch, hhalt, hsystem, hall, Bool.false_eq_true, if_false, if_true]
          have hbroadcast : c.address = broadcastAddress ∧ c.scope ≠ .sync := by
            simpa [Command.isBroadcast] using hall
          refine routed_broadcast hsound hbroadcast.1 hbroadcast.2 _ fun x hx => ?_
          obtain ⟨-, hscope⟩ := mem_flatMap_ofScope.mp hx
          exact List.mem_singleton.mp hscope

/-! ## Runs -/

/-- Take any store after any run of dispatches, and a command that can be built, no halt, or a message that is read from
a frame. The update is never refused for being meant for another kind of component. It is refused for being meant for
another address exactly if it is for a number that finds an engine or a train by its road number, and the road number
does not spell this number any more; then nothing changes and observers are told of the refusal. -/
theorem misrouted_iff (rules : Rules) (told : List (Nat × Update)) {store : Store}
    (hstore : (empty rules).run told = store) (now : Nat) {u : Update} (hsent : u.Sent) (hhalt : u.isHalt = false) :
    ((∃ event ∈ (store.dispatch now u).events, event.isMisrouting = true) ↔ ∃ e n, store.Outdated u e n) ∧
      ∀ e n, store.Outdated u e n →
        store.dispatch now u = ⟨store, [.rejected e.scope e.address (.addressMismatch e.scope e.address n)], 0⟩ := by
  have hsound : Sound store := hstore ▸ sound_run (sound_empty rules) told
  have hplaced : Placed store := hstore ▸ placed_run rules told
  have hrefused : ∀ e n, store.Outdated u e n →
      store.dispatch now u = ⟨store, [.rejected e.scope e.address (.addressMismatch e.scope e.address n)], 0⟩ :=
    fun e n h => dispatch_of_outdated hsound hplaced hsent hhalt h
  refine ⟨⟨fun ⟨event, hevent, hmisrouted⟩ => ?_, fun ⟨e, n, h⟩ => ?_⟩, hrefused⟩
  · by_contra hnone
    have hrouted : Routed (store.dispatch now u).events :=
      routed_dispatch hsound hplaced hsent hhalt fun e n h => hnone ⟨e, n, h⟩
    rw [hrouted event hevent] at hmisrouted
    cases hmisrouted
  · rw [hrefused e n h]
    exact ⟨_, List.mem_singleton.mpr rfl, rfl⟩

/-- Engine 12 is found by the number 1234 until it gets the number 5678, and then still; commands for the first number
are refused from then on, commands for the second one are not. -/
theorem misrouted_iff_renumbered :
    let record (number : String) : Update := .message (.record
      ⟨12, RecordMessage.writeFlags, 0, 0, .motive .engine 8 { MotiveRecord.unknown with number := some number }⟩)
    let store := (empty ⟨.stock, .standard⟩).run [(0, record "1234"), (1, record "5678")]
    let horn (address : UInt16) : Update := .command ⟨.engine .legacy .blowHorn, address, none, .engine⟩
    (∃ e, store.Outdated (horn 1234) e 1234 ∧ store.dispatch 2 (horn 1234) =
        ⟨store, [.rejected .engine 12 (.addressMismatch .engine 12 1234)], 0⟩) ∧
      ¬∃ e n, store.Outdated (horn 5678) e n := by
  intro record store horn
  have hold : (horn 1234).Sent :=
    .command (show Command.build (.engine .legacy .blowHorn) 1234 none none = .ok _ from rfl)
  have hnew : (horn 5678).Sent :=
    .command (show Command.build (.engine .legacy .blowHorn) 5678 none none = .ok _ from rfl)
  have hfound (number : UInt16) (hnumber : number = 1234 ∨ number = 5678) : ∃ e, store.query .engine number = some e ∧
      e.key = (.engine, 12) ∧ e.state.profile.spelledAddress? = some 5678 := by
    have hseen : (store.query .engine number).map (fun e => (e.key, e.state.profile.spelledAddress?)) =
        some ((.engine, 12), some 5678) := by
      rcases hnumber with rfl | rfl <;> decide +kernel
    obtain ⟨e, he, hsame⟩ := Option.map_eq_some_iff.mp hseen
    exact ⟨e, he, congrArg Prod.fst hsame, congrArg Prod.snd hsame⟩
  refine ⟨?_, ?_⟩
  · obtain ⟨e, hquery, hkey, hspelled⟩ := hfound 1234 (Or.inl rfl)
    obtain ⟨scope, address, state, version⟩ := e
    cases hkey
    have houtdated : store.Outdated (horn 1234) ⟨.engine, 12, state, version⟩ 1234 :=
      ⟨rfl, hquery, (by decide : (12 : UInt16) ≠ 1234), fun hstill => by rw [hspelled] at hstill; cases hstill⟩
    obtain ⟨-, hrefused⟩ := misrouted_iff ⟨.stock, .standard⟩ [(0, record "1234"), (1, record "5678")] rfl 2 hold rfl
    exact ⟨_, houtdated, hrefused _ _ houtdated⟩
  · rintro ⟨e, n, htarget, hquery, -, hrenamed⟩
    obtain ⟨hscope, rfl⟩ : .engine = e.scope ∧ 5678 = n := by
      simpa only [Update.target?, horn, Option.some.injEq, Prod.mk.injEq] using htarget
    obtain ⟨found, hfound, -, hspelled⟩ := hfound 5678 (Or.inr rfl)
    rw [← hscope, hfound] at hquery
    cases hquery
    exact hrenamed hspelled

end Store
end RailLayout
