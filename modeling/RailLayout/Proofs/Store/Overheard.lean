import RailLayout.Proofs.State.Accessory.Overheard
import RailLayout.Proofs.Store.Broadcast

/-!
Broadcasts among what is sent for components. A component at the broadcast address is sent commands that reach every
component of its kind. A switch takes the position of another one then, and an accessory that no board drives takes its
key and its outputs; so what is sent for either is the same afterwards exactly if it has the same commands already
(`Component.takes_broadcasts`). An accessory that a board drives is sent the same afterwards in any case.
-/

namespace RailLayout

namespace Update

/-- Whether an update is a command for every component of a kind. -/
def isBroadcast : Update → Bool
  | command c => c.isBroadcast
  | message _ => false

/-- Whether an update is a message of a board. -/
def isBoard : Update → Bool
  | message (.board _ _) => true
  | _ => false

/-- The same command for another address. -/
def sentTo (n : UInt16) : Update → Update
  | command c => command (c.sentTo n)
  | message m => message m

end Update

variable {n : UInt16}

namespace SwitchState

variable {s : SwitchState} {rules : Rules}

/-- The position of a switch is read off the command that is sent for it. -/
theorem through_of_throwing (hbound : s.profile.address = some n) {through : Bool} (h : throwing n through ∈ s.script) :
    s.through = some through := by
  rw [script_of_bound hbound, List.mem_append] at h
  obtain ⟨known, hknown, hcommand⟩ := Option.map_eq_some_iff.mp
    (Option.mem_toList.mp (h.resolve_left (Profile.command_not_mem_recordUpdates _ _ _ _)))
  cases known <;> cases through <;> first | exact hknown | cases hcommand

/-- A switch takes the position of another one from a broadcast. -/
theorem takes_broadcast (hbound : s.profile.address = some n) (position : Option Bool) :
    Component.Takes rules
      (fun d => ∃ t, d = .switch t ∧ t.profile.address = some n ∧ t.through = position.or s.through ∧
        t.profile.recordUpdates .switch [] = s.profile.recordUpdates .switch [])
      ((position.map (throwing broadcastAddress)).toList) (.switch s) := by
  cases position with
  | none => exact ⟨s, rfl, hbound, rfl, rfl⟩
  | some through =>
      intro now
      have haccept : s.profile.accept .switch (throwing broadcastAddress through) = .ok s.profile :=
        Profile.accept_of_reaches hbound rfl (Or.inr (Or.inl ⟨rfl, by decide⟩))
      exact ⟨_, _, update_throwing haccept rules now, _, rfl, hbound, rfl, rfl⟩

end SwitchState

namespace Update

/-- Updates that are read alike have the same commands. -/
theorem command_mem_of_resent {us vs : List Update} (h : us.map resent = vs.map resent) {c : Command}
    (hc : .command c ∈ us) : .command c ∈ vs := by
  have hread : (command c).resent ∈ vs.map resent := h ▸ List.mem_map_of_mem hc
  obtain ⟨v, hv, hsame⟩ := List.mem_map.mp hread
  cases v with
  | command d =>
      cases hsame
      exact hv
  | message m => cases hsame

theorem isBoard_resent (u : Update) : u.resent.isBoard = u.isBoard := by
  cases u with
  | command c => rfl
  | message m => cases m <;> rfl

theorem isBroadcast_resent (u : Update) : u.resent.isBroadcast = u.isBroadcast := by
  cases u <;> rfl

end Update

namespace Component

variable {c : Component} {rules : Rules}

/-- What is sent for a component and reaches no other one. -/
def direct (c : Component) : List Update := c.script.filter fun u => !u.isBroadcast

/-- What is sent for a component and reaches every component of its kind. -/
def broadcasts (c : Component) : List Update := c.script.filter Update.isBroadcast

theorem direct_of_broadcasts (h : c.broadcasts = []) : c.direct = c.script :=
  List.filter_eq_self.mpr fun u hu => by simpa using List.filter_eq_nil_iff.mp h u hu

/-- Broadcasts are sent for switches and for accessories that no board drives, and after everything else. -/
inductive Broadcasts : Component → Prop
  | none {c : Component} (h : c.broadcasts = []) : Broadcasts c
  | switch {s : SwitchState} (h : (switch s).broadcasts = (s.through.map (SwitchState.throwing broadcastAddress)).toList)
      (hlast : s.script = (switch s).direct ++ (switch s).broadcasts) : Broadcasts (switch s)
  | accessory {s : AccessoryState} (h : (accessory s).broadcasts = s.ops.map (AccessoryState.commanding broadcastAddress))
      (hlast : s.script = (accessory s).direct ++ (accessory s).broadcasts) : Broadcasts (accessory s)

theorem isBroadcast_recordUpdates {p : Profile} {kind : FixtureKind} {steps : List RouteStep} :
    ∀ u ∈ p.recordUpdates kind steps, u.isBroadcast = false := by
  intro u hu
  cases u with
  | command c => exact absurd hu (Profile.command_not_mem_recordUpdates p kind steps c)
  | message m => rfl

theorem script_eq_append (h : Broadcasts c) : c.script = c.direct ++ c.broadcasts := by
  cases h with
  | none hnone => rw [hnone, direct_of_broadcasts hnone, List.append_nil]
  | switch _ hlast => exact hlast
  | accessory _ hlast => exact hlast

theorem of_mem_broadcasts {d : Command} (h : .command d ∈ c.broadcasts) :
    .command d ∈ c.script ∧ d.address = broadcastAddress := by
  obtain ⟨hsent, hall⟩ := List.mem_filter.mp h
  exact ⟨hsent, beq_iff_eq.mp (Bool.and_eq_true_iff.mp hall).1⟩

theorem map_resent_broadcasts (c : Component) : c.broadcasts.map Update.resent = c.broadcasts := by
  have hsame : ∀ u ∈ c.broadcasts, u.resent = u := by
    intro u hu
    cases u with
    | command d => rfl
    | message m => cases (List.mem_filter.mp hu).2
  exact (List.map_congr_left hsame).trans (List.map_id' _)

theorem broadcasts_of_silent (h : ∀ u ∈ c.script, u.isBroadcast = false) : Broadcasts c :=
  .none (List.filter_eq_nil_iff.mpr fun u hu => by simp [h u hu])

/-- A script that ends with its broadcasts. -/
theorem broadcasts_of_append {first last : List Update} (hscript : c.script = first ++ last)
    (hfirst : ∀ u ∈ first, u.isBroadcast = false) (hlast : ∀ u ∈ last, u.isBroadcast = true) :
    c.broadcasts = last ∧ c.script = c.direct ++ c.broadcasts := by
  have hnone : first.filter Update.isBroadcast = [] := List.filter_eq_nil_iff.mpr fun u hu => by simp [hfirst u hu]
  have hrest : last.filter (fun u => !u.isBroadcast) = [] :=
    List.filter_eq_nil_iff.mpr fun u hu => by simp [hlast u hu]
  have hbroadcasts : c.broadcasts = last := by
    rw [broadcasts, hscript, List.filter_append, hnone, List.nil_append, List.filter_eq_self.mpr hlast]
  have hdirect : c.direct = first := by
    rw [direct, hscript, List.filter_append, hrest, List.append_nil,
      List.filter_eq_self.mpr fun u hu => by simp [hfirst u hu]]
  exact ⟨hbroadcasts, by rw [hdirect, hbroadcasts, hscript]⟩

theorem broadcasts_switch {s : SwitchState} (hbound : s.profile.address = some broadcastAddress) :
    Broadcasts (switch s) := by
  have hthrown : ∀ u ∈ (s.through.map (SwitchState.throwing broadcastAddress)).toList, u.isBroadcast = true := by
    intro u hu
    obtain ⟨through, -, rfl⟩ := Option.map_eq_some_iff.mp (Option.mem_toList.mp hu)
    rfl
  obtain ⟨hsent, hlast⟩ := broadcasts_of_append (c := switch s) (SwitchState.script_of_bound hbound)
    isBroadcast_recordUpdates hthrown
  exact .switch hsent hlast

theorem broadcasts_accessory {s : AccessoryState} (hbound : s.profile.address = some broadcastAddress) :
    Broadcasts (accessory s) := by
  obtain ⟨recordNo, hno⟩ := exists_recordNo? (by decide) hbound
  have haddress : recordNo.toUInt16 = broadcastAddress :=
    Option.some.inj ((Profile.address_of_recordNo? hno).symm.trans hbound)
  by_cases hplain : s.kind = .plain
  · have hcommands : ∀ u ∈ s.ops.map (AccessoryState.commanding broadcastAddress), u.isBroadcast = true :=
      List.forall_mem_map.mpr fun _ _ => rfl
    have hscript := AccessoryState.script_of_plain hplain hno
    rw [haddress] at hscript
    obtain ⟨hsent, hlast⟩ := broadcasts_of_append (c := accessory s) hscript isBroadcast_recordUpdates hcommands
    exact .accessory hsent hlast
  · refine broadcasts_of_silent fun u hu => ?_
    rw [script, AccessoryState.script_of_recordNo? hno, List.mem_append] at hu
    rcases hu with hrecord | hboard
    · exact isBroadcast_recordUpdates u hrecord
    · cases u with
      | message m => rfl
      | command c => exact absurd (AccessoryState.plain_of_command hboard) hplain

theorem broadcasts_of_bound (hmotive : c.scope.isMotive = false) (hbound : c.profile.address = some broadcastAddress)
    (hadmits : c.scope.admits broadcastAddress = true) : Broadcasts c := by
  cases c with
  | motive s => cases hkind : s.kind <;> rw [scope, hkind] at hmotive <;> cases hmotive
  | switch s => exact broadcasts_switch hbound
  | accessory s => exact broadcasts_accessory hbound
  | route s =>
      refine broadcasts_of_silent fun u hu => ?_
      rw [script, RouteState.script] at hu
      split at hu
      · split at hu
        · rw [List.mem_singleton.mp hu]
          rfl
        · cases hu
      · cases hu
  | sensorTrack s =>
      refine broadcasts_of_silent fun u hu => ?_
      rw [script, SensorTrackState.script] at hu
      split at hu
      · rw [List.mem_singleton.mp hu]
        rfl
      · cases hu
  | block s =>
      refine broadcasts_of_silent fun u hu => ?_
      rw [script, BlockState.script] at hu
      split at hu
      · rw [List.mem_singleton.mp hu]
        rfl
      · cases hu
  | base s => cases hadmits
  | sync s => exact .none rfl

theorem exists_switch (h : c.scope = .switch) : ∃ s, c = switch s := by
  cases c with
  | switch s => exact ⟨s, rfl⟩
  | motive s => cases hkind : s.kind <;> rw [scope, hkind] at h <;> cases h
  | _ => cases h

theorem exists_accessory (h : c.scope = .accessory) : ∃ s, c = accessory s := by
  cases c with
  | accessory s => exact ⟨s, rfl⟩
  | motive s => cases hkind : s.kind <;> rw [scope, hkind] at h <;> cases h
  | _ => cases h

/-- Whether a component is an accessory that a board drives. -/
def Driven : Component → Prop
  | accessory s => s.kind ≠ .plain
  | _ => False

theorem takes_broadcasts_switch {s t : SwitchState} (hbound : s.profile.address = some n) :
    Takes rules
      (Respelled (∀ u ∈ (t.through.map (SwitchState.throwing broadcastAddress)).toList, u.sentTo n ∈ s.script) (switch s))
      ((t.through.map (SwitchState.throwing broadcastAddress)).toList) (switch s) := by
  refine takes_imp (SwitchState.takes_broadcast hbound t.through) ?_
  rintro d ⟨u, rfl, hu, hthrough, hrecord⟩
  have hscript := SwitchState.script_of_bound hu
  cases hthrown : t.through with
  | none =>
      refine respelled_of_script (fun v hv => absurd hv List.not_mem_nil) ?_
      show u.script = s.script
      rw [hscript, SwitchState.script_of_bound hbound, hrecord, hthrough, hthrown, Option.none_or]
  | some through =>
      rw [Option.map_some, Option.toList_some, List.forall_mem_singleton]
      have hposition : u.through = some through := hthrough.trans (by rw [hthrown]; rfl)
      constructor
      · intro hsame
        have hown : s.through = some through := SwitchState.through_of_throwing hbound hsame
        show u.script = s.script
        rw [hscript, SwitchState.script_of_bound hbound, hrecord, hposition, hown]
      · intro hsent
        refine Update.command_mem_of_resent hsent ?_
        show _ ∈ u.script
        rw [hscript, hposition]
        exact List.mem_append_right _ (List.mem_singleton_self _)

theorem takes_broadcasts_accessory {s t : AccessoryState} (h : s.Kept) (ht : t.Kept)
    (hbound : s.profile.address = some n) (hadmits : Scope.accessory.admits n = true) (settings : Settings) :
    Takes ⟨.stock, settings⟩
      (Respelled (s.kind ≠ .plain ∨ ∀ u ∈ t.ops.map (AccessoryState.commanding broadcastAddress), u.sentTo n ∈ s.script)
        (accessory s))
      (t.ops.map (AccessoryState.commanding broadcastAddress)) (accessory s) := by
  obtain ⟨recordNo, hno⟩ := exists_recordNo? hadmits hbound
  obtain rfl : recordNo.toUInt16 = n := Option.some.inj ((Profile.address_of_recordNo? hno).symm.trans hbound)
  rw [List.forall_mem_map]
  by_cases hplain : s.kind = .plain
  · have hfree : AccessoryState.Free broadcastAddress s :=
      ⟨⟨_, hbound, Or.inr (Or.inl ⟨rfl, by decide⟩)⟩, hplain, h.plain hplain⟩
    refine takes_imp (AccessoryState.takes_plain_broadcast ht.latched h.latched hfree hno settings) ?_
    rintro d ⟨hsame, hall⟩
    constructor
    · intro hsent
      refine hsame fun op hop => AccessoryState.mem_ops_of_mem_script hplain hno ?_
      exact hsent.resolve_left (fun hdriven => hdriven hplain) op hop
    · exact fun hresent => Or.inr fun op hop => Update.command_mem_of_resent hresent (hall op hop)
  · refine takes_imp (AccessoryState.takes_driven hbound hplain hno fun op hop =>
      AccessoryState.ne_numeric_of_mem_ops ht.latched hop) fun d hd => ?_
    exact respelled_of_script (Or.inl hplain) hd

/-- What a component makes of the broadcasts that are sent for another one, under the stock graph: the same is sent for
it afterwards exactly if a board drives it or the same commands are sent to its own address already. -/
theorem takes_broadcasts {other : Component} (h : Kept c) (hother : Kept other) (hscope : other.scope = c.scope)
    (hmotive : c.scope.isMotive = false) (hbound : c.profile.address = some n) (hadmits : c.scope.admits n = true)
    (hall : other.profile.address = some broadcastAddress) (hadmitsAll : other.scope.admits broadcastAddress = true)
    (settings : Settings) :
    Takes ⟨.stock, settings⟩ (Respelled (c.Driven ∨ ∀ u ∈ other.broadcasts, u.sentTo n ∈ c.script) c)
      other.broadcasts c := by
  cases broadcasts_of_bound (hscope ▸ hmotive) hall hadmitsAll with
  | none hnone =>
      rw [hnone]
      exact respelled_of_script (Or.inr fun u hu => absurd hu List.not_mem_nil) rfl
  | @switch t hsent =>
      obtain ⟨s, rfl⟩ := exists_switch hscope.symm
      rw [hsent]
      refine takes_imp (takes_broadcasts_switch hbound) fun d hd => ?_
      exact ⟨fun hsame => hd.same (hsame.resolve_left id), fun hresent => Or.inr (hd.holds hresent)⟩
  | @accessory t hsent =>
      obtain ⟨s, rfl⟩ := exists_accessory hscope.symm
      rw [hsent]
      exact takes_broadcasts_accessory h hother hbound hadmits settings

/-! ## What comes back besides -/

/-- Whether broadcasts tell a component nothing that it is not sent anyway: what is sent for it says that a board drives
it, or the same commands are sent to its own address. -/
def Hears (c : Component) (n : UInt16) (broadcasts : List Update) : Prop :=
  (∃ u ∈ c.script, u.isBoard = true) ∨ ∀ u ∈ broadcasts, u.sentTo n ∈ c.script

instance (c : Component) (n : UInt16) (broadcasts : List Update) : Decidable (c.Hears n broadcasts) :=
  inferInstanceAs (Decidable (_ ∨ _))

theorem driven_update {now : Nat} {u : Update} (h : (c.update rules now u).state.Driven) :
    c.Driven ∨ u.isBoard = true := by
  cases c with
  | accessory s =>
      rcases AccessoryState.kind_update rules now u s with hsame | hboard
      · exact Or.inl fun hplain => h (hsame.trans hplain)
      · obtain ⟨board, m, rfl⟩ := hboard
        exact Or.inr rfl
  | _ => exact False.elim h

theorem driven_of_board (hkind : c.scope = .switch ∨ c.scope = .accessory) (h : ∃ u ∈ c.script, u.isBoard = true) :
    c.Driven := by
  obtain ⟨u, hu, hboard⟩ := h
  rcases hkind with hkind | hkind
  · obtain ⟨s, rfl⟩ := exists_switch hkind
    rw [script, SwitchState.script] at hu
    split at hu
    · cases hu
    · rcases List.mem_append.mp hu with hrecord | hcommand
      · obtain ⟨m, rfl⟩ := Profile.record_of_mem_recordUpdates hrecord
        cases hboard
      · obtain ⟨through, -, rfl⟩ := Option.map_eq_some_iff.mp (Option.mem_toList.mp hcommand)
        cases hboard
  · obtain ⟨s, rfl⟩ := exists_accessory hkind
    intro hplain
    cases u with
    | command d => cases hboard
    | message m =>
        cases m with
        | board board m => exact AccessoryState.board_not_mem_script hplain m hu
        | _ => cases hboard

/-- Under the stock graph a switch and an accessory come back with the same script. -/
theorem takes_script_stock (h : Kept c) (hkind : c.scope = .switch ∨ c.scope = .accessory) (hfits : c.profile.NamesFit)
    (hbound : c.profile.address = some n) (hadmits : c.scope.admits n = true) (settings : Settings) :
    Takes ⟨.stock, settings⟩ (fun d => d.script = c.script) (c.script.map Update.resent) (fresh c.scope (some n)) := by
  rw [← hbound]
  rcases hkind with hkind | hkind
  · obtain ⟨s, rfl⟩ := exists_switch hkind
    exact SwitchState.takes_script h hfits
  · obtain ⟨s, rfl⟩ := exists_accessory hkind
    obtain ⟨recordNo, hno⟩ := exists_recordNo? hadmits hbound
    exact takes_imp (AccessoryState.takes_script h hfits hno) fun d hd =>
      hd.same fun _ => AccessoryState.restores_stock h.latched

/-- What a component keeps to that is told what is sent for another one at an address. -/
structure Following (c : Component) (n : UInt16) (d : Component) : Prop where
  kept : Kept d
  scope : d.scope = c.scope
  bound : d.profile.address = some n
  driven : d.Driven → ∃ u ∈ c.script, u.isBoard = true

theorem following_fresh (hkind : c.scope = .switch ∨ c.scope = .accessory) (hadmits : c.scope.admits n = true) :
    Following c n (fresh c.scope (some n)) := by
  have hkept : Kept (fresh c.scope (some n)) :=
    kept_build (build_eq_fresh fun a ha => Option.some.inj ha ▸ hadmits)
  refine ⟨hkept, scope_fresh _ _, ?_, ?_⟩
  · rcases hkind with hkind | hkind <;> rw [hkind] <;> rfl
  · rcases hkind with hkind | hkind <;> rw [hkind]
    · exact False.elim
    · exact fun hdriven => absurd rfl hdriven

theorem following_update (h : Kept c) (hmotive : c.scope.isMotive = false) {u : Update} (hu : u ∈ c.script)
    {d : Component} (hd : Following c n d) (rules : Rules) (now : Nat) :
    Following c n (d.update rules now u.resent).state where
  kept := kept_update hd.kept (Update.spoken_resent (sendable_script h hmotive u hu)) rules now
  scope := (scope_update rules now _ d).trans hd.scope
  bound := address_meet hd.bound (.told rules now _)
  driven hlater := by
    rcases driven_update hlater with hbefore | hboard
    · exact hd.driven hbefore
    · exact ⟨u, hu, (Update.isBoard_resent u).symm.trans hboard⟩

/-- A component comes back although it hears the broadcasts that are sent for another one, exactly if they tell it nothing
that it is not sent anyway. -/
theorem takes_overheard {other : Component} (h : Kept c) (hother : Kept other) (hscope : other.scope = c.scope)
    (hkind : c.scope = .switch ∨ c.scope = .accessory) (hfits : c.profile.NamesFit)
    (hbound : c.profile.address = some n) (hadmits : c.scope.admits n = true)
    (hall : other.profile.address = some broadcastAddress) (hadmitsAll : other.scope.admits broadcastAddress = true)
    (settings : Settings) :
    Takes ⟨.stock, settings⟩ (Takes ⟨.stock, settings⟩ (Respelled (c.Hears n other.broadcasts) c) other.broadcasts)
      (c.script.map Update.resent) (fresh c.scope (some n)) := by
  have hmotive : c.scope.isMotive = false := by rcases hkind with hkind | hkind <;> rw [hkind] <;> rfl
  have htold := takes_and (takes_script_stock h hkind hfits hbound hadmits settings) (following_fresh hkind hadmits)
    (List.forall_mem_map.mpr fun u hu now d hd => following_update h hmotive hu hd _ now)
  refine takes_imp htold fun d ⟨hscript, hd⟩ => ?_
  refine takes_imp (takes_broadcasts hd.kept hother (hscope.trans hd.scope.symm) (hd.scope ▸ hmotive) hd.bound
    (hd.scope ▸ hadmits) hall hadmitsAll settings) fun last hlast => ?_
  rw [hscript] at hlast
  constructor
  · rintro (hboard | hsent)
    · exact (hlast.same (Or.inl (driven_of_board (hd.scope ▸ hkind) (hscript ▸ hboard)))).trans hscript
    · exact (hlast.same (Or.inr hsent)).trans hscript
  · exact fun hresent => (hlast.holds (hscript ▸ hresent)).imp_left hd.driven

/-- A component at the broadcast address comes back from what reaches no other one and its own broadcasts after that. -/
theorem takes_own_broadcasts (h : Kept c) (hkind : c.scope = .switch ∨ c.scope = .accessory)
    (hfits : c.profile.NamesFit) (hall : c.profile.address = some broadcastAddress)
    (hadmits : c.scope.admits broadcastAddress = true) (settings : Settings) :
    Takes ⟨.stock, settings⟩ (Takes ⟨.stock, settings⟩ (Respelled (c.Hears broadcastAddress c.broadcasts) c) c.broadcasts)
      (c.direct.map Update.resent) (fresh c.scope (some broadcastAddress)) := by
  have hmotive : c.scope.isMotive = false := by rcases hkind with hkind | hkind <;> rw [hkind] <;> rfl
  have hread : c.script.map Update.resent = c.direct.map Update.resent ++ c.broadcasts := by
    refine (congrArg (List.map Update.resent) (script_eq_append (broadcasts_of_bound hmotive hall hadmits))).trans ?_
    rw [List.map_append, map_resent_broadcasts]
  have htold := takes_script_stock h hkind hfits hall hadmits settings
  rw [hread] at htold
  refine takes_imp (takes_of_append htold) fun d hd => takes_imp hd fun last hlast => ?_
  refine respelled_of_script (Or.inr fun u hu => ?_) hlast
  cases u with
  | message m => cases (List.mem_filter.mp hu).2
  | command d =>
      obtain ⟨hsent, haddress⟩ := of_mem_broadcasts hu
      rw [Update.sentTo, Command.sentTo, ← haddress]
      exact hsent

end Component
end RailLayout
