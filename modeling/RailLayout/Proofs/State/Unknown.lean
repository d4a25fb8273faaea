import RailLayout.Proofs.State.Accessory.Restored
import RailLayout.Proofs.State.Known
import RailLayout.Proofs.State.Motive.GainedStock
import RailLayout.Proofs.State.Noted
import RailLayout.Proofs.State.Sent

/-!
What is not known of a component is not known of the one that is rebuilt from its bytes either, but for the fields that
`Component.Gains` names. Switches, routes, sensor tracks and blocks gain nothing. The Base gains the parts of its record
that are sent with defaults. An engine or a train gains what goes with its generation and with the commands that it is
held by, and an accessory that no board drives an output that one of its commands sets besides its own; under the stock
graph these are few, and all of them are gained (`Component.GainsStock`). The theorem about the bytes is
`Component.unknown_stays_unknown`.
-/

namespace RailLayout

/-- The field that says where an output is. -/
def AccessoryOutput.field : AccessoryOutput → StateField
  | aux1 => .aux1
  | aux2 => .aux2

namespace Component

/-- Why a component that is rebuilt, under a graph, can know a field that the original one does not know. It has a last
update if anything was sent. A command that was sent for an accessory can result in setting another output, and the
Base's own record is sent whole. -/
inductive Gains (graph : EffectGraph) : Component → StateField → Prop
  | lastUpdate {c : Component} (hscript : c.script ≠ []) : Gains graph c .lastUpdate
  | motive {s : MotiveState} {field : StateField} (h : s.Gains graph field) : Gains graph (motive s) field
  | output {s : AccessoryState} (hplain : s.kind = .plain) {output : AccessoryOutput}
      (hleft : s.left? graph output ≠ none) : Gains graph (accessory s) output.field
  | firmware {s : BaseState} (hinfo : s.hasInfo = true) : Gains graph (base s) .firmware
  | throwRate {s : BaseState} (hinfo : s.hasInfo = true) : Gains graph (base s) .throwRate

/-- What is gained under the stock graph, where a command for an output of an accessory sets this output only. -/
def GainsStock : Component → StateField → Prop
  | motive s, field => s.GainsStock field
  | base s, .firmware => s.hasInfo = true
  | base s, .throwRate => s.hasInfo = true
  | c, .lastUpdate => c.script ≠ []
  | _, _ => False

/-- Whether a field can be known of a component that is rebuilt under a graph. -/
def Accounts (graph : EffectGraph) (c : Component) (field : StateField) : Prop :=
  c.knows field = true ∨ c.Gains graph field

/-- Whether a component knows only certain fields, apart from its last update. -/
def KnowsOnly (P : StateField → Prop) (c : Component) : Prop :=
  ∀ field, field ≠ .lastUpdate → c.knows field = true → P field

theorem knowsOnly_imp {P Q : StateField → Prop} {c : Component} (h : KnowsOnly P c)
    (himp : ∀ field, P field → Q field) : KnowsOnly Q c := fun field hfield hknows => himp field (h field hfield hknows)

theorem knows_fresh {scope : Scope} (hmotive : scope.isMotive = false) (address : Option UInt16) (field : StateField) :
    (fresh scope address).knows field = false := by
  refine Bool.eq_false_iff.mpr fun hknows => ?_
  obtain ⟨rfl, -⟩ := eq_legacy_of_knows_fresh hknows
  cases hmotive

theorem knowsOnly_fresh (scope : Scope) (hmotive : scope.isMotive = false) (address : Option UInt16)
    (P : StateField → Prop) : KnowsOnly P (fresh scope address) := by
  intro field _ hknows
  rw [knows_fresh hmotive] at hknows
  cases hknows

end Component

variable {rules : Rules}

/-- The names that come back from a record are known in the profile that it was sent for. -/
theorem Profile.knows_of_resumed {p q r : Profile} (h : p.Resumed q) (hname : r.roadName = q.roadName)
    (hnumber : r.roadNumber = q.roadNumber) {field : StateField} (hfield : field ≠ .lastUpdate)
    (hknows : r.knows field = true) : p.knows field = true := by
  obtain ⟨hnameless, hnumberless⟩ := eq_none_of_resumed h
  cases field
  case roadName =>
    refine Option.isSome_iff_ne_none.mpr fun hnone => ?_
    rw [knows, hname, hnameless hnone] at hknows
    cases hknows
  case roadNumber =>
    refine Option.isSome_iff_ne_none.mpr fun hnone => ?_
    rw [knows, hnumber, hnumberless hnone] at hknows
    cases hknows
  case lastUpdate => exact absurd rfl hfield
  all_goals cases hknows

namespace SwitchState

variable {s : SwitchState}

theorem knowsOnly_of_resumed {t : SwitchState} {q : Profile} (h : s.profile.Resumed q)
    (hname : t.profile.roadName = q.roadName) (hnumber : t.profile.roadNumber = q.roadNumber)
    (hthrough : t.through = s.through) : Component.KnowsOnly (s.knows · = true) (.switch t) := by
  intro field hfield hknows
  cases field
  case position => exact (congrArg Option.isSome hthrough).symm.trans hknows
  all_goals exact Profile.knows_of_resumed h hname hnumber hfield hknows

/-- A fresh switch that takes what is sent for another one knows nothing else afterwards. -/
theorem takes_known (s : SwitchState) :
    Component.Takes rules (Component.KnowsOnly (s.knows · = true)) (s.script.map Update.resent)
      (.switch (fresh (.fresh s.profile.address))) := by
  cases hbound : s.profile.address with
  | none =>
      rw [script, hbound]
      exact Component.knowsOnly_fresh .switch rfl none _
  | some address =>
      have hposition : ∀ {q}, s.profile.Resumed q → q.address = some address →
          Component.Takes rules (Component.KnowsOnly (s.knows · = true))
            ((s.through.map (throwing address)).toList.map Update.resent) (.switch (fresh q)) := by
        intro q hq haddress
        cases hthrough : s.through with
        | none => exact knowsOnly_of_resumed hq rfl rfl hthrough.symm
        | some through =>
            intro now
            exact ⟨_, _, update_throwing (Profile.accept_bound haddress rfl) rules now, knowsOnly_of_resumed hq rfl rfl hthrough.symm⟩
      rw [← hbound]
      refine takes_names hbound (fun recordNo now => hposition (Or.inr ⟨_, _, _, _, rfl⟩) ?_) fun _ =>
        hposition (Or.inl rfl) hbound
      rw [Profile.address_rebuilt, hbound]

end SwitchState

namespace RouteState

variable {s : RouteState}

theorem knowsOnly_of_resumed {q : Profile} (h : s.profile.Resumed q) :
    Component.KnowsOnly (s.knows · = true) (.route ⟨q, s.steps⟩) := by
  intro field hfield hknows
  cases field
  case steps => exact hknows
  all_goals exact Profile.knows_of_resumed h rfl rfl hfield hknows

/-- A fresh route that takes what is sent for another one knows nothing else afterwards. -/
theorem takes_known (h : Kept s) :
    Component.Takes rules (Component.KnowsOnly (s.knows · = true)) (s.script.map Update.resent)
      (.route (fresh (.fresh s.profile.address))) := by
  have hnothing : Component.KnowsOnly (s.knows · = true) (.route (fresh (.fresh s.profile.address))) :=
    Component.knowsOnly_fresh .route rfl s.profile.address _
  unfold script
  split
  · rename_i recordNo hno
    split
    · intro now
      exact ⟨_, _, update_record h hno rules now, knowsOnly_of_resumed (Or.inr ⟨_, _, _, _, rfl⟩)⟩
    · exact hnothing
  · exact hnothing

end RouteState

namespace SensorTrackState

/-- Any engine is let through if no filter is known. -/
theorem filterOf?_getD (filter : Option UInt8) : filterOf? (some (filter.getD anyLoco)) = filterOf? filter := by
  cases filter <;> rfl

/-- A fresh sensor track that takes what is sent for another one knows nothing else afterwards. -/
theorem takes_known (s : SensorTrackState) :
    Component.Takes rules (Component.KnowsOnly (s.knows · = true)) (s.script.map Update.resent)
      (.sensorTrack (fresh (.fresh s.profile.address))) := by
  rcases script_cases s with ⟨recordNo, sequence, hno, hsequence⟩ | hscript
  · rw [script_of_known hno hsequence]
    intro now
    refine ⟨_, _, update_config (s := fresh (.fresh s.profile.address)) hno _ rules now, fun field hfield hknows => ?_⟩
    cases field
    case sequence => exact Option.isSome_of_eq_some hsequence
    case rightLeft => exact (congrArg Option.isSome (filterOf?_getD s.locoRightLeft)).symm.trans hknows
    case leftRight => exact (congrArg Option.isSome (filterOf?_getD s.locoLeftRight)).symm.trans hknows
    case lastUpdate => exact absurd rfl hfield
    all_goals cases hknows
  · rw [hscript]
    exact Component.knowsOnly_fresh .sensorTrack rfl s.profile.address _

end SensorTrackState

namespace BlockState

variable {s : BlockState}

theorem knowsOnly_of_report {t : BlockState} {blockId flags : UInt8} {name : Option String}
    (hflags : t.flags = s.flags) (hreport : t.report blockId flags = { s.report blockId flags with name := name })
    (hname : s.profile.roadName = none → name = none) (hnumber : t.profile.roadNumber = none) :
    Component.KnowsOnly (s.knows · = true) (.block t) := by
  simp only [report, BlockReport.mk.injEq, true_and] at hreport
  obtain ⟨hprev, hnext, hsensor, hswitch, hoccupant, hnamed⟩ := hreport
  intro field hfield hknows
  rw [Component.knows] at hknows
  cases field
  case blockDirection =>
    rw [knows, direction, hflags] at hknows
    exact hknows
  case prevBlock =>
    rw [knows, prev?, hprev] at hknows
    exact hknows
  case nextBlock =>
    rw [knows, next?, hnext] at hknows
    exact hknows
  case sensorTrack =>
    rw [knows, sensorTrack?, hsensor] at hknows
    exact hknows
  case switch =>
    rw [knows, switch?, hswitch] at hknows
    exact hknows
  case occupant =>
    rw [knows, occupant?, hoccupant] at hknows
    exact hknows
  case occupantDirection =>
    rw [knows, occupantDirection, hoccupant] at hknows
    exact hknows
  case roadName =>
    refine Option.isSome_iff_ne_none.mpr fun hnone => ?_
    have hnameless : t.profile.roadName.isSome = true := hknows
    rw [hnamed, hname hnone] at hnameless
    cases hnameless
  case roadNumber =>
    have hnumbered : t.profile.roadNumber.isSome = true := hknows
    rw [hnumber] at hnumbered
    cases hnumbered
  case lastUpdate => exact absurd rfl hfield
  all_goals cases hknows

/-- A fresh block that takes what is sent for another one knows nothing else afterwards. -/
theorem takes_known (s : BlockState) :
    Component.Takes rules (Component.KnowsOnly (s.knows · = true)) (s.script.map Update.resent)
      (.block (fresh (.fresh s.profile.address))) := by
  rcases script_cases s with ⟨recordNo, flags, hno, hflags⟩ | hscript
  · rw [script_of_known hno hflags]
    intro now
    refine ⟨_, _, update_bound (s := fresh (.fresh s.profile.address)) (Profile.address_of_recordNo? hno) rfl rules now,
      knowsOnly_of_report ((flags_apply now _ _).trans hflags.symm) (report_apply now _ _ recordNo flags) ?_ rfl⟩
    intro hnone
    rw [fresh, Profile.fresh, Option.or_none]
    exact Profile.trimmed?_resent_of_eq_none hnone _
  · rw [hscript]
    exact Component.knowsOnly_fresh .block rfl s.profile.address _

end BlockState

namespace BaseState

variable {s : BaseState}

/-- A name of the Base that is not known is not known after its record is read again. -/
theorem name_reread_of_eq_none (h : s.profile.roadName = none) : s.reread.name = none := by
  have hname := Profile.trimmed?_resent_of_eq_none h RecordLayout.nameWidth
  unfold reread
  split
  · rw [toRecord_applyInfo]
    simp only [BaseRecord.resent, toRecord, fresh, Profile.fresh, Option.or_none, hname]
  · rfl

/-- A fresh Base that takes what is sent for another one knows nothing else afterwards, unless a record is sent; then it
also knows the parts of it that are sent with defaults. -/
theorem takes_known (s : BaseState) :
    Component.Takes rules (Component.KnowsOnly ((Component.base s).Accounts rules.graph))
      (s.script.map Update.resent) (.base fresh) := by
  refine Component.takes_imp (takes_reread s) ?_
  rintro d ⟨t, rfl, hnumber, hrecord, hfigures⟩ field hfield hknows
  -- A record that is sent has every part, so that none was sent if a part of it is not known afterwards.
  have hsent : t.toRecord.firmware?.isSome = true ∨ t.toRecord.throwRate.isSome = true → s.hasInfo = true := by
    intro hpart
    by_contra hinfo
    rw [hrecord, reread, if_neg hinfo] at hpart
    rcases hpart with hpart | hpart <;> cases hpart
  rw [Component.knows] at hknows
  cases field
  case firmware => exact Or.inr (.firmware (hsent (Or.inl hknows)))
  case throwRate => exact Or.inr (.throwRate (hsent (Or.inr hknows)))
  case count database =>
    rw [knows, hfigures database] at hknows
    exact Or.inl hknows
  case firstRecord database =>
    rw [knows, hfigures database] at hknows
    exact Or.inl hknows
  case roadName =>
    refine Or.inl (Option.isSome_iff_ne_none.mpr fun hnone => ?_)
    have hnamed : t.toRecord.name.isSome = true := hknows
    rw [hrecord, name_reread_of_eq_none hnone] at hnamed
    cases hnamed
  case roadNumber =>
    have hnumbered : t.profile.roadNumber.isSome = true := hknows
    rw [hnumber] at hnumbered
    cases hnumbered
  case lastUpdate => exact absurd rfl hfield
  all_goals cases hknows

end BaseState

namespace AccessoryState

variable {s t : AccessoryState} {graph : EffectGraph}

theorem isSome_aux_of_returned (h : s.Returned graph t) (hknown : t.aux.isSome = true) : s.aux.isSome = true := by
  by_cases hplain : s.kind = .plain
  · exact (h.plain hplain).1 ▸ hknown
  · refine Option.isSome_iff_ne_none.mpr fun hnone => ?_
    rw [(unknown_returned h hplain).1 hnone] at hknown
    cases hknown

theorem isSome_position_of_returned (h : s.Returned graph t) (output : AccessoryOutput)
    (hknown : (t.position output).isSome = true) :
    (s.position output).isSome = true ∨ (Component.accessory s).Gains graph output.field := by
  by_cases hplain : s.kind = .plain
  · refine Or.inr (.output hplain fun hnone => ?_)
    rw [(h.plain hplain).2 output, hnone] at hknown
    cases hknown
  · refine Or.inl (Option.isSome_iff_ne_none.mpr fun hnone => ?_)
    rw [(unknown_returned h hplain).2 output hnone] at hknown
    cases hknown

theorem knowsOnly_of_returned (h : s.Returned graph t) {p : Profile} (hp : s.profile.Resumed p) (hapart : s.Apart p t) :
    Component.KnowsOnly ((Component.accessory s).Accounts graph) (.accessory t) := by
  intro field hfield hknows
  rw [Component.knows] at hknows
  cases field
  case aux => exact Or.inl (isSome_aux_of_returned h hknows)
  case aux1 => exact isSome_position_of_returned h .aux1 hknows
  case aux2 => exact isSome_position_of_returned h .aux2 hknows
  case number =>
    rw [knows, hapart.number] at hknows
    cases hknows
  case outputConfig =>
    rw [knows] at hknows
    rcases hapart.output with hnone | hsame
    · rw [hnone] at hknows
      cases hknows
    · rw [hsame] at hknows
      exact Or.inl hknows
  all_goals exact Or.inl (Profile.knows_of_resumed hp hapart.name hapart.roadNumber hfield hknows)

end AccessoryState

namespace Component

variable {c : Component} {scope : Scope} {start : Option UInt16} {history : List Incident}

/-! ## Components other than engines and trains -/

theorem takes_known_run (h : build scope start = .ok c) (hmotive : scope.isMotive = false)
    (hheard : ∀ i ∈ history, i.Heard) (rules : Rules) :
    Takes rules (KnowsOnly ((c.run history).Accounts rules.graph)) ((c.run history).script.map Update.resent)
      (fresh scope (c.run history).profile.address) := by
  have hscope := scope_run_of_build h history
  have hkept := kept_run h hheard
  -- An accessory needs its whole history, since what is claimed and what is known of it go together.
  have haccessory : ∀ s, c.run history = accessory s →
      Takes rules (KnowsOnly ((accessory s).Accounts rules.graph)) (s.script.map Update.resent)
        (fresh .accessory s.profile.address) := by
    intro s hs
    rw [hs] at hscope
    cases hscope
    obtain ⟨t, ht, -, htakes⟩ := takes_returned h hheard
    cases accessory.inj (hs.symm.trans ht)
    refine takes_imp (htakes rules) ?_
    rintro d ⟨t, rfl, hreturned, p, hp, hapart⟩
    exact AccessoryState.knowsOnly_of_returned hreturned hp hapart
  have hown : ∀ d e : Component, KnowsOnly (d.knows · = true) e → KnowsOnly (d.Accounts rules.graph) e :=
    fun _ _ hknows => knowsOnly_imp hknows fun _ => Or.inl
  generalize c.run history = d at *
  subst hscope
  cases d with
  | motive s => cases hkind : s.kind <;> rw [Component.scope, hkind] at hmotive <;> cases hmotive
  | switch s => exact takes_imp (SwitchState.takes_known s) (hown (switch s))
  | route s => exact takes_imp (RouteState.takes_known hkept) (hown (route s))
  | accessory s => exact haccessory s rfl
  | sensorTrack s => exact takes_imp (SensorTrackState.takes_known s) (hown (sensorTrack s))
  | block s => exact takes_imp (BlockState.takes_known s) (hown (block s))
  | base s => exact BaseState.takes_known s
  | sync s => exact knowsOnly_fresh .sync rfl none _

/-! ## Engines and trains -/

/-- Whether the control type of an engine or a train, once known, has decided its generation. -/
def Decided (c : Component) : Prop := ∀ s, c = motive s → ∃ kind, MotiveState.Coherent kind s ∧ s.Decided

theorem decided_build (h : build scope start = .ok c) : Decided c := by
  cases eq_fresh_of_build h
  intro s hs
  cases scope <;> cases hs <;> exact ⟨_, MotiveState.coherent_fresh _ _, nofun⟩

theorem decided_meet (h : Decided c) (i : Incident) : Decided (c.meet i) := by
  refine meet_motive (fun s rules now u hs => ?_) (fun s sighting hs => ?_) h i
  · obtain ⟨kind, hkind⟩ := hs
    exact ⟨kind, (MotiveState.stable_decided rules kind).update hkind now fun _ _ => trivial⟩
  · obtain ⟨kind, hkind⟩ := hs
    exact ⟨kind, MotiveState.decided_applySighting hkind sighting⟩

/-- What is known of a component that was just built is known of every other one of its kind. -/
theorem knows_of_knows_fresh (h : Decided c) {address : Option UInt16} {field : StateField}
    (hknows : (fresh c.scope address).knows field = true) : c.knows field = true := by
  obtain ⟨htrain, rfl⟩ := eq_legacy_of_knows_fresh hknows
  obtain ⟨s, rfl⟩ := exists_motive (c := c) (by rw [htrain]; rfl)
  obtain ⟨kind, hcoherent, -⟩ := h s rfl
  have hkind : kind = .train := by
    rw [scope, hcoherent.kind_eq] at htrain
    cases kind
    · cases htrain
    · rfl
  exact Option.isSome_of_eq_some (hcoherent.legacy hkind)

theorem feed_fresh_motive {s : MotiveState} (hlocated : s.Located) {address : UInt16}
    (hbound : s.profile.address = some address) (hrange : address ≤ 9999) (rules : Rules) {timed : List (Nat × Update)}
    (htimed : timed.map Prod.snd = s.script.map Update.resent) :
    feed rules timed (fresh s.kind.scope (some address)) =
      .ok (motive ((MotiveState.fresh s.kind (.fresh (some address))).run rules timed)) := by
  have htargets : ∀ u ∈ timed, u.2.target? = some (s.kind.scope, address) := fun u hu =>
    MotiveState.target?_of_script hlocated hbound hrange u.2 (htimed ▸ List.mem_map_of_mem hu)
  have hfresh : fresh s.kind.scope (some address) = motive (.fresh s.kind (.fresh (some address))) := by
    cases s.kind <;> rfl
  rw [hfresh]
  exact MotiveState.feed_motive rfl htargets

theorem feed_known_motive {s : MotiveState} (hdecided : Decided (motive s)) (hlocated : s.Located) {address : UInt16}
    (hbound : s.profile.address = some address) (hadmits : s.kind.scope.admits address = true) (rules : Rules)
    {timed : List (Nat × Update)} (htimed : timed.map Prod.snd = s.script.map Update.resent) :
    ∃ fed, feed rules timed (fresh s.kind.scope (some address)) = .ok fed ∧
      KnowsOnly ((motive s).Accounts rules.graph) fed := by
  have hrange := MotiveState.le_of_admits hadmits
  obtain ⟨kind, hcoherent, hcontrol⟩ := hdecided s rfl
  obtain rfl := hcoherent.kind_eq
  refine ⟨_, feed_fresh_motive hlocated hbound hrange rules htimed, fun field hfield hknows => ?_⟩
  rcases MotiveState.learns_run_script hcoherent hcontrol hlocated hbound hrange rules htimed field hknows with
    hbefore | hknown | hgains | hlast
  · have hbuilt : (fresh (motive s).scope (some address)).knows field = true := by
      rw [Component.scope]
      cases hkind : s.kind <;> rw [hkind] at hbefore <;> exact hbefore
    exact Or.inl (knows_of_knows_fresh hdecided hbuilt)
  · exact Or.inl hknown
  · exact Or.inr (.motive hgains)
  · exact absurd hlast hfield

/-- An engine or a train that was just built and was fed what is sent for another one, under the stock graph, knows what
is gained there. -/
theorem knows_fed_motive {s : MotiveState} (hdecided : Decided (motive s)) (hlocated : s.Located) {address : UInt16}
    (hbound : s.profile.address = some address) (hadmits : s.kind.scope.admits address = true) {rules : Rules}
    (hstock : rules.graph = .stock) {timed : List (Nat × Update)}
    (htimed : timed.map Prod.snd = s.script.map Update.resent) {fed : Component}
    (hfed : feed rules timed (fresh s.kind.scope (some address)) = .ok fed) {field : StateField}
    (hgains : s.GainsStock field) : fed.knows field = true := by
  have hrange := MotiveState.le_of_admits hadmits
  obtain ⟨kind, hcoherent, -⟩ := hdecided s rfl
  obtain rfl := hcoherent.kind_eq
  obtain ⟨graph, settings⟩ := rules
  subst hstock
  obtain rfl := Except.ok.inj ((feed_fresh_motive hlocated hbound hrange _ htimed).symm.trans hfed)
  exact MotiveState.knows_run_script hcoherent hlocated hbound hrange settings htimed hgains

/-! ## Every kind -/

/-- A fresh component that is fed what is sent for another one, under any rules and at any times, takes all of it, and it
knows nothing that this one does not know, but for what it gains. -/
theorem feed_known (h : build scope start = .ok c) (hheard : ∀ i ∈ history, i.Heard) (rules : Rules)
    {timed : List (Nat × Update)} (htimed : timed.map Prod.snd = (c.run history).script.map Update.resent) :
    ∃ fed, feed rules timed (fresh scope (c.run history).profile.address) = .ok fed ∧
      ∀ field, fed.knows field = true → (c.run history).Accounts rules.graph field := by
  have hscope := scope_run_of_build h history
  have hdecided : Decided (c.run history) := run_induction (decided_build h) fun _ i _ hd => decided_meet hd i
  have hlocated : Located (c.run history) := run_induction (located_build h) fun _ i _ hd => located_meet hd i
  by_cases hscript : (c.run history).script = []
  · rw [hscript, List.map_nil, List.map_eq_nil_iff] at htimed
    subst htimed hscope
    exact ⟨_, rfl, fun field hknows => Or.inl (knows_of_knows_fresh hdecided hknows)⟩
  · suffices hfed : ∃ fed, feed rules timed (fresh scope (c.run history).profile.address) = .ok fed ∧
        KnowsOnly ((c.run history).Accounts rules.graph) fed by
      obtain ⟨fed, hfed, hknown⟩ := hfed
      refine ⟨fed, hfed, fun field hknows => ?_⟩
      by_cases hlast : field = .lastUpdate
      · exact Or.inr (hlast ▸ .lastUpdate hscript)
      · exact hknown field hlast hknows
    cases hmotive : scope.isMotive with
    | false => exact feed_of_takes (takes_known_run h hmotive hheard rules) htimed
    | true =>
        obtain ⟨address, hbound⟩ : ∃ address, (c.run history).profile.address = some address := by
          refine Option.ne_none_iff_exists'.mp fun hfree => hscript ?_
          exact script_of_unbound (bare_run h history hfree) hfree
        have hadmits := admits_run h history hbound
        rw [hbound]
        generalize c.run history = d at *
        subst hscope
        obtain ⟨s, rfl⟩ := exists_motive hmotive
        exact feed_known_motive hdecided (hlocated s rfl) hbound hadmits rules htimed

theorem gainsStock_of_gains (hkept : Kept c) (hdecided : Decided c) {field : StateField} (h : c.Gains .stock field)
    (hunknown : c.knows field = false) : c.GainsStock field := by
  cases h with
  | lastUpdate hscript =>
      cases c <;> exact hscript
  | firmware hinfo => exact hinfo
  | throwRate hinfo => exact hinfo
  | motive hgains =>
      obtain ⟨kind, hcoherent, -⟩ := hdecided _ rfl
      cases hgains with
      | controlType hrecord hlegacy => exact ⟨hrecord, hlegacy⟩
      | consistFlags hrecord htrain hmembers => exact ⟨hrecord, htrain, hmembers⟩
      | legacy hheld => exact hheld
      | effect hop hsets =>
          exact (MotiveState.knows_or_gains hcoherent hop hsets).resolve_left fun hknown =>
            absurd (hknown.symm.trans hunknown) (by decide)
  | @output s _ output hleft =>
      -- Each command sets its own output, and is sent only if this output is known.
      have hrestores := AccessoryState.restores_stock hkept.latched output
      have hknown : (accessory s).knows output.field = true := by
        rw [hrestores] at hleft
        cases output <;> exact Option.isSome_iff_ne_none.mpr hleft
      exact absurd (hknown.symm.trans hunknown) (by decide)

/-- A fresh component that is fed what is sent for another one, under the stock graph, knows what is gained there. -/
theorem knows_of_gainsStock (h : build scope start = .ok c) (hheard : ∀ i ∈ history, i.Heard) {rules : Rules}
    (hstock : rules.graph = .stock) {timed : List (Nat × Update)}
    (htimed : timed.map Prod.snd = (c.run history).script.map Update.resent) {fed : Component}
    (hfed : feed rules timed (fresh scope (c.run history).profile.address) = .ok fed) {field : StateField}
    (hgains : (c.run history).GainsStock field) : fed.knows field = true := by
  have hscope := scope_run_of_build h history
  have hkept := kept_run h hheard
  have hdecided : Decided (c.run history) := run_induction (decided_build h) fun _ i _ hd => decided_meet hd i
  have hlocated : Located (c.run history) := run_induction (located_build h) fun _ i _ hd => located_meet hd i
  have hbare := bare_run h history
  have hadmits : ∀ address, (c.run history).profile.address = some address → scope.admits address = true :=
    fun _ ha => admits_run h history ha
  generalize c.run history = d at *
  subst hscope
  have hlast (hmotive : d.scope.isMotive = false) (hscript : d.script ≠ []) : fed.knows .lastUpdate = true :=
    (knows_lastUpdate fed).trans (last_feed_script hkept hmotive hscript htimed hfed)
  cases d with
  | motive s =>
      cases hbound : s.profile.address with
      | none =>
          obtain ⟨hlatches, hsmoke⟩ := hbare hbound
          exact absurd hgains (MotiveState.not_gainsStock_of_unbound hbound hlatches hsmoke field)
      | some address =>
          rw [profile, hbound] at hfed
          exact knows_fed_motive hdecided (hlocated s rfl) hbound (hadmits address hbound) hstock htimed hfed hgains
  | base s =>
      obtain ⟨_, hown, t, rfl, -, hrecord, -⟩ := feed_of_takes (BaseState.takes_reread s) htimed
      obtain rfl := Except.ok.inj (hown.symm.trans hfed)
      have hsent : s.hasInfo = true → t.toRecord = (BaseState.applyInfo s.toRecord.resent .fresh).toRecord :=
        fun hinfo => hrecord.trans (if_pos hinfo)
      cases field
      case firmware => exact (congrArg (fun r : BaseRecord => r.firmware?.isSome) (hsent hgains)).trans rfl
      case throwRate =>
        have hrate : s.toRecord.resent.throwRate = some (s.throwRate.getD BaseRecord.defaultThrowRate) :=
          BaseRecord.ofThrowRate?_getD hkept.rate
        refine (congrArg (fun r : BaseRecord => r.throwRate.isSome) (hsent hgains)).trans ?_
        show (s.toRecord.resent.throwRate.or none).isSome = true
        rw [hrate]
        rfl
      case lastUpdate => exact hlast rfl hgains
      all_goals exact False.elim hgains
  | switch s | route s | accessory s | sensorTrack s | block s | sync s =>
      cases field
      case lastUpdate => exact hlast rfl hgains
      all_goals exact False.elim hgains

/-- The bytes of a component of any kind that heard any commands and messages from frames and saw anything pass, under
any rules. If there are none, the codec refused a command of its script. Otherwise they are read as updates that a fresh
component of the kind and the address takes without a refusal, under any rules and at any times. What is not known of
the original component is not known of this one then, except for what `Gains` names; under the stock graph these are
exactly the fields that `GainsStock` names. -/
theorem unknown_stays_unknown {σ : Type} {codec : Codec σ} (hcodec : codec.Inverts) (h : build scope start = .ok c)
    (hheard : ∀ i ∈ history, i.Heard) (memory : σ) :
    (∀ e memory', ((c.run history).encode codec).run memory = (.error e, memory') →
      ∃ d, .command d ∈ (c.run history).script ∧ ∃ m, (codec.encode d m).1 = .error e) ∧
    ∀ bytes memory', ((c.run history).encode codec).run memory = (.ok bytes, memory') →
      ∃ updates rebuilt, Update.decodeAll codec memory' bytes = .ok updates ∧
        build scope (c.run history).profile.address = .ok rebuilt ∧
        ∀ (rules : Rules) (timed : List (Nat × Update)), timed.map Prod.snd = updates →
          ∃ fed, feed rules timed rebuilt = .ok fed ∧
            ∀ field, (c.run history).knows field = false →
              (fed.knows field = true → (c.run history).Gains rules.graph field) ∧
                (rules.graph = .stock → (fed.knows field = true ↔ (c.run history).GainsStock field)) := by
  have hkept := kept_run h hheard
  have hdecided : Decided (c.run history) := run_induction (decided_build h) fun _ i _ hd => decided_meet hd i
  have hsend : ∀ u ∈ (c.run history).script, u.Sendable := fun u hu => (sent_run h hheard u hu).2.1
  refine ⟨fun e memory' herror => Update.encodeAll_eq_error herror, fun bytes memory' hbytes => ?_⟩
  refine ⟨_, _, Update.decodeAll_encodeAll hcodec hsend hbytes,
    build_eq_fresh fun a ha => admits_run h history ha, fun rules timed htimed => ?_⟩
  obtain ⟨fed, hfed, hknown⟩ := feed_known h hheard rules htimed
  refine ⟨fed, hfed, fun field hunknown => ?_⟩
  have hgains (hknows : fed.knows field = true) : (c.run history).Gains rules.graph field :=
    (hknown field hknows).resolve_left fun hbefore => absurd (hbefore.symm.trans hunknown) (by decide)
  refine ⟨hgains, fun hstock => ⟨fun hknows => ?_, knows_of_gainsStock h hheard hstock htimed hfed⟩⟩
  exact gainsStock_of_gains hkept hdecided (hstock ▸ hgains hknows) hunknown

/-- An engine that was told its speed and nothing else comes back with nothing else of its motion, without limits and
without a name. -/
theorem unknown_stays_unknown_told :
    let rules : Rules := ⟨.stock, .standard⟩
    let history : List Incident :=
      [.told rules 0 (.command ⟨.engine .legacy .absoluteSpeed, 12, some 55, .engine⟩)]
    ∃ c, build .engine (some 12) = .ok c ∧ (∀ i ∈ history, i.Heard) ∧ (c.run history).knows .speed = true ∧
      ∃ bytes memory updates rebuilt,
        ((c.run history).encode CommandTable.codec).run [] = (.ok bytes, memory) ∧
          Update.decodeAll CommandTable.codec memory bytes = .ok updates ∧ build .engine (some 12) = .ok rebuilt ∧
            ∀ timed : List (Nat × Update), timed.map Prod.snd = updates →
              ∃ fed, feed rules timed rebuilt = .ok fed ∧
                ∀ field ∈ [StateField.rpm, .momentum, .maxSpeed, .speedLimit, .roadName], fed.knows field = false := by
  intro rules history
  have hbuild : build .engine (some 12) = .ok (fresh .engine (some 12)) := rfl
  have hheard : ∀ i ∈ history, i.Heard := List.forall_mem_singleton.mpr trivial
  have haddress : ((fresh .engine (some 12)).run history).profile.address = some 12 := by decide +kernel
  have hspelled : ((((fresh .engine (some 12)).run history).encode CommandTable.codec).run []).1.isOk = true := by
    decide +kernel
  obtain ⟨bytes, memory, hbytes, -⟩ := bytes_of_sendable (fun u hu => (sent_run hbuild hheard u hu).2.1) hspelled
  obtain ⟨-, hread⟩ := unknown_stays_unknown CommandTable.codec_inverts hbuild hheard []
  obtain ⟨updates, rebuilt, hupdates, hrebuilt, hfed⟩ := hread bytes memory hbytes
  rw [haddress] at hrebuilt
  refine ⟨_, hbuild, hheard, by decide +kernel, bytes, memory, updates, rebuilt, hbytes, hupdates, hrebuilt, ?_⟩
  intro timed htimed
  obtain ⟨fed, hfeed, hunknown⟩ := hfed rules timed htimed
  refine ⟨fed, hfeed, fun field hfield => Bool.eq_false_iff.mpr fun hknows => ?_⟩
  have hnothing : ∀ field ∈ [StateField.rpm, .momentum, .maxSpeed, .speedLimit, .roadName],
      ((fresh .engine (some 12)).run history).knows field = false := by decide +kernel
  have hgains := ((hunknown field (hnothing field hfield)).2 rfl).mp hknows
  generalize hs : (MotiveState.fresh .engine (.fresh (some 12))).run rules
    [(0, .command ⟨.engine .legacy .absoluteSpeed, 12, some 55, .engine⟩)] = s
  have hstate : (fresh .engine (some 12)).run history = motive s := congrArg motive hs
  have hpull : s.heldPull = .none := by
    rw [← hs]
    decide +kernel
  rw [hstate] at hgains
  simp only [List.mem_cons, List.not_mem_nil, or_false] at hfield
  rcases hfield with rfl | rfl | rfl | rfl | rfl
  · cases hpull.symm.trans hgains
  all_goals exact hgains

/-- Whether a field is not known of a component after a history, but is known of one that was just built when it is fed
what brings this one back. -/
def ComesBack (rules : Rules) (c : Component) (history : List Incident) (field : StateField) : Prop :=
  (c.run history).knows field = false ∧
    ∃ bytes memory updates fed,
      ((c.run history).encode CommandTable.codec).run [] = (.ok bytes, memory) ∧
        Update.decodeAll CommandTable.codec memory bytes = .ok updates ∧
          feed rules (updates.map fun u => (0, u)) c = .ok fed ∧ fed.knows field = true

theorem comesBack_of_feed (h : build scope start = .ok c) (hheard : ∀ i ∈ history, i.Heard) {fields : List StateField}
    (hunknown : ∀ field ∈ fields, (c.run history).knows field = false)
    (hspelled : (((c.run history).encode CommandTable.codec).run []).1.isOk = true) {rules : Rules}
    (hfed : (feed rules (((c.run history).script.map Update.resent).map fun u => (0, u)) c).map (fields.all ·.knows) =
      .ok true) : ∀ field ∈ fields, ComesBack rules c history field := by
  obtain ⟨bytes, memory, hbytes, hread⟩ := bytes_of_sendable (fun u hu => (sent_run h hheard u hu).2.1) hspelled
  cases hrebuilt : feed rules (List.map (fun u => (0, u)) _) c with
  | error e =>
      rw [hrebuilt] at hfed
      cases hfed
  | ok fed =>
      rw [hrebuilt] at hfed
      intro field hfield
      exact ⟨hunknown field hfield, bytes, memory, _, fed, hbytes, hread, hrebuilt,
        List.all_eq_true.mp (Except.ok.inj hfed) field hfield⟩

/-- Every field that can be gained under the stock graph is gained by some component. An engine that was told its speed
comes back with a control type: its record spells one, since the command has decided its generation. One that was shut
down by a number key, which stops nothing, comes back at rest. One that was started and halted comes back with the number
key of the start. One that was halted before anything else comes back with a generation, that of the commands sent for
its outputs. One that was only seen passing comes back with a last update. A train whose members are known comes back
with flags for them. The Base, after a record that breaks off after the first byte, comes back with a firmware version
and a throw rate, those that its own record is filled up with. -/
theorem unknown_comes_back :
    let rules : Rules := ⟨.stock, .standard⟩
    let engine : Component := fresh .engine (some 12)
    let train : Component := fresh .train (some 7)
    let speed (address : UInt16) (scope : Scope) : Incident :=
      .told rules 0 (.command ⟨.engine .legacy .absoluteSpeed, address, some 55, scope⟩)
    let shut : Incident := .told rules 0 (.command ⟨.engine .legacy .numeric, 12, some 5, .engine⟩)
    let started : Incident := .told rules 0 (.command ⟨.engine .tmcc .startUpImmediate, 12, none, .engine⟩)
    let halted : Incident := .told rules 0 (.command ⟨.halt, 12, none, .engine⟩)
    let passed : Incident := .seen ⟨0, 0, 0, 12, 150, 0, 0, 0, 0, 0,
      some ⟨0, 0, 0, 0, 2019, "Santa Fe", "3751", 0, 0, 180, 0⟩⟩
    let members : Incident := .told rules 0 (.message (.memory
      ⟨7, RecordMessage.writeFlags, 0, some .train, 0x70, 2, 32, 0 :: 12 :: List.replicate 30 0xFF⟩))
    let short : Incident := .told rules 0 (.message (.record
      ⟨0, RecordMessage.readFlags, 0, 0, .base 15 ⟨some 4, none, none, none⟩⟩))
    (∀ i ∈ [speed 12 .engine, shut, started, halted, passed, members, speed 7 .train, short], i.Heard) ∧
      (∀ field ∈ [StateField.controlType], ComesBack rules engine [speed 12 .engine] field) ∧
      (∀ field ∈ [StateField.speed, .rpm, .labor], ComesBack rules engine [shut] field) ∧
      (∀ field ∈ [StateField.numeric], ComesBack rules engine [started, halted] field) ∧
      (∀ field ∈ [StateField.legacy], ComesBack rules engine [halted] field) ∧
      (∀ field ∈ [StateField.lastUpdate], ComesBack rules engine [passed] field) ∧
      (∀ field ∈ [StateField.consistFlags], ComesBack rules train [members, speed 7 .train] field) ∧
      ∀ field ∈ [StateField.firmware, .throwRate], ComesBack rules (fresh .base none) [short] field := by
  intro rules engine train speed shut started halted passed members short
  have hengine : build .engine (some 12) = .ok engine := rfl
  have htrain : build .train (some 7) = .ok train := rfl
  have hbase : build .base none = .ok (fresh .base none) := rfl
  have hmembers : members.Heard :=
    ⟨⟨.baseMemory, [7, 0xC2, 0, 2, 0x70, 0, 0, 0, 2, 32] ++ 0 :: 12 :: List.replicate 30 0xFF⟩, by decide +kernel⟩
  have hshort : short.Heard := ⟨⟨.base, [0, 2, 0, 0, 15, 0, 4]⟩, by decide +kernel⟩
  have hheard : ∀ i ∈ [speed 12 .engine, shut, started, halted, passed, members, speed 7 .train, short], i.Heard := by
    intro i hi
    simp only [List.mem_cons, List.not_mem_nil, or_false] at hi
    rcases hi with rfl | rfl | rfl | rfl | rfl | rfl | rfl | rfl
    case inr.inr.inr.inr.inr.inl => exact hmembers
    case inr.inr.inr.inr.inr.inr.inr => exact hshort
    all_goals trivial
  have hpart {history : List Incident}
      (h : history ⊆ [speed 12 .engine, shut, started, halted, passed, members, speed 7 .train, short]) :
      ∀ i ∈ history, i.Heard := fun i hi => hheard i (h hi)
  refine ⟨hheard, ?_, ?_, ?_, ?_, ?_, ?_, ?_⟩
  · exact comesBack_of_feed hengine (hpart (by simp)) (by decide +kernel) (by decide +kernel) (by decide +kernel)
  · exact comesBack_of_feed hengine (hpart (by simp)) (by decide +kernel) (by decide +kernel) (by decide +kernel)
  · exact comesBack_of_feed hengine (hpart (by simp)) (by decide +kernel) (by decide +kernel) (by decide +kernel)
  · exact comesBack_of_feed hengine (hpart (by simp)) (by decide +kernel) (by decide +kernel) (by decide +kernel)
  · exact comesBack_of_feed hengine (hpart (by simp)) (by decide +kernel) (by decide +kernel) (by decide +kernel)
  · exact comesBack_of_feed htrain (hpart (by simp)) (by decide +kernel) (by decide +kernel) (by decide +kernel)
  · exact comesBack_of_feed hbase (hpart (by simp)) (by decide +kernel) (by decide +kernel) (by decide +kernel)

end Component
end RailLayout
