import RailLayout.Proofs.State.Accessory.Rebuilt
import RailLayout.Proofs.State.Base
import RailLayout.Proofs.State.Binding
import RailLayout.Proofs.State.Fixture
import RailLayout.Proofs.State.Shown
import RailLayout.Proofs.State.Track

/-!
Components other than engines and trains, rebuilt from their bytes. The bytes of a component that heard nothing but
commands and messages from frames, fed to a fresh component of the same kind and address one update after the other,
are all taken, and the component that was rebuilt has the same bytes, unless it is an accessory that no board drives and
the commands for its outputs do not leave them where they are (`Component.encode_rebuilt`). Under the stock graph they
always do; under another graph they need not (`Component.rebuilt_differs`).
-/

namespace RailLayout

namespace Component

variable {c : Component} {rules : Rules} {now : Nat} {u : Update}

/-- What a component that is no engine and no train keeps to if it heard nothing but commands and messages from
frames. -/
def Kept : Component → Prop
  | motive _ => True
  | switch s => s.profile.Named
  | route s => s.Kept
  | accessory s => s.Kept
  | sensorTrack _ => True
  | block s => s.Kept
  | base s => s.Kept
  | sync _ => True

theorem kept_update (h : Kept c) (hu : u.Spoken) (rules : Rules) (now : Nat) : Kept (c.update rules now u).state := by
  cases c with
  | motive s => trivial
  | switch s => exact SwitchState.named_update h hu now
  | route s => exact RouteState.kept_update h hu now
  | accessory s => exact AccessoryState.kept_update h hu rules now
  | sensorTrack s => trivial
  | block s => exact BlockState.kept_update h hu now
  | base s => exact BaseState.kept_update h hu now
  | sync s => trivial

theorem kept_meet (h : Kept c) {i : Incident} (hi : i.Heard) : Kept (c.meet i) := by
  cases i with
  | told rules now u => exact kept_update h (Incident.spoken_of_heard hi) rules now
  | seen sighting =>
      cases c with
      | motive s =>
          simp only [meet, applySighting]
          split <;> trivial
      | _ => exact h

theorem kept_build {scope : Scope} {start : Option UInt16} (h : build scope start = .ok c) : Kept c := by
  cases scope with
  | base =>
      cases h
      exact ⟨Profile.named_fresh _, fun s hs => by cases hs⟩
  | sync =>
      cases h
      trivial
  | engine | train | sensorTrack =>
      obtain ⟨p, -, h⟩ := ok_of_bind h
      cases h
      trivial
  | switch =>
      obtain ⟨p, hp, h⟩ := ok_of_bind h
      obtain ⟨rfl, -⟩ := Profile.build_eq_ok hp
      cases h
      exact Profile.named_fresh start
  | route =>
      obtain ⟨p, hp, h⟩ := ok_of_bind h
      obtain ⟨rfl, -⟩ := Profile.build_eq_ok hp
      cases h
      exact ⟨Profile.named_fresh start, FixtureRecord.stepsKept_nil⟩
  | accessory =>
      obtain ⟨p, hp, h⟩ := ok_of_bind h
      obtain ⟨rfl, -⟩ := Profile.build_eq_ok hp
      cases h
      exact AccessoryState.kept_fresh start
  | block =>
      obtain ⟨p, hp, h⟩ := ok_of_bind h
      obtain ⟨rfl, -⟩ := Profile.build_eq_ok hp
      cases h
      exact ⟨Profile.named_fresh start, nofun, nofun, nofun, nofun, nofun⟩

theorem kept_run {scope : Scope} {start : Option UInt16} (h : build scope start = .ok c) {history : List Incident}
    (hheard : ∀ i ∈ history, i.Heard) : Kept (c.run history) :=
  run_induction (kept_build h) fun _ i hi hd => kept_meet hd (hheard i hi)

theorem sendable_script (h : Kept c) (hmotive : c.scope.isMotive = false) : ∀ u ∈ c.script, u.Sendable := by
  cases c with
  | motive s => cases hkind : s.kind <;> rw [scope, hkind] at hmotive <;> cases hmotive
  | switch s => exact SwitchState.sendable_script s
  | route s => exact RouteState.sendable_script s
  | accessory s => exact AccessoryState.sendable_script h
  | sensorTrack s => exact SensorTrackState.sendable_script s
  | block s => exact BlockState.sendable_script h
  | base s => exact BaseState.sendable_script s
  | sync s => exact fun u hu => absurd hu List.not_mem_nil

/-- A component of which nothing is known but an address, if it has one. -/
def fresh (scope : Scope) (address : Option UInt16) : Component :=
  match scope with
  | .engine => motive (.fresh .engine (.fresh address))
  | .train => motive (.fresh .train (.fresh address))
  | .switch => switch (.fresh (.fresh address))
  | .route => route (.fresh (.fresh address))
  | .accessory => accessory (.fresh (.fresh address))
  | .sensorTrack => sensorTrack (.fresh (.fresh address))
  | .block => block (.fresh (.fresh address))
  | .base => base .fresh
  | .sync => sync .fresh

theorem build_eq_fresh {scope : Scope} {address : Option UInt16} (h : ∀ a, address = some a → scope.admits a = true) :
    build scope address = .ok (fresh scope address) := by
  have hprofile : Profile.build scope address = .ok (.fresh address) := by
    cases address with
    | none => rfl
    | some a =>
        have hvalid : scope.validate a = .ok a := if_pos (h a rfl)
        rw [Profile.build, hvalid]
        rfl
  cases scope with
  | base | sync => rfl
  | _ =>
      rw [build, hprofile]
      rfl

theorem scope_fresh (scope : Scope) (address : Option UInt16) : (fresh scope address).scope = scope := by
  cases scope <;> rfl

theorem eq_fresh_of_build {scope : Scope} {start : Option UInt16} (h : build scope start = .ok c) :
    c = fresh scope start := by
  cases scope with
  | base | sync =>
      cases h
      rfl
  | _ =>
      obtain ⟨p, hp, h⟩ := ok_of_bind h
      obtain ⟨rfl, -⟩ := Profile.build_eq_ok hp
      cases h
      rfl

/-- A record of an accessory says its address. -/
theorem exists_recordNo? (hadmits : Scope.accessory.admits n = true) {p : Profile} (h : p.address = some n) :
    ∃ recordNo, p.recordNo? = some recordNo := by
  have hrange : n ≤ 99 := (of_decide_eq_true hadmits).2
  refine ⟨n.toUInt8, ?_⟩
  rw [Profile.recordNo?, h]
  exact if_pos (UInt16.le_trans hrange (by decide))

/-- What a component was rebuilt to from what is sent for another one: what is sent for it has the same bytes, exactly if
a condition holds. -/
structure Rebuilt (H : Prop) (c d : Component) : Prop where
  same : H → Update.SameBytes d.script c.script
  holds : d.script.map Update.resent = c.script.map Update.resent → H

theorem rebuilt_of_respelled {H : Prop} {d : Component} (h : Respelled H c d) : Rebuilt H c d where
  same hc _ codec := congrArg (Update.encodeAll codec) (h.same hc)
  holds := h.holds

/-- A fresh component refuses nothing that is sent for one of the same kind and address, and what is sent for it
afterwards has the same bytes, exactly if the commands for the outputs leave them where they are. -/
theorem takes_script (h : Kept c) (hmotive : c.scope.isMotive = false) (hfits : c.profile.NamesFit)
    (hadmits : ∀ n, c.profile.address = some n → c.scope.admits n = true)
    (hbare : c.profile.address = none → Bare c) :
    Takes rules (Rebuilt (c.Restores rules.graph) c) (c.script.map Update.resent) (fresh c.scope c.profile.address) := by
  have hsame : c.Restores rules.graph → ∀ d : Component, d.script = c.script → Rebuilt (c.Restores rules.graph) c d :=
    fun hc d hscript => rebuilt_of_respelled (respelled_of_script hc hscript)
  cases c with
  | motive s => cases hkind : s.kind <;> rw [scope, hkind] at hmotive <;> cases hmotive
  | switch s => exact takes_imp (SwitchState.takes_script h hfits) (hsame trivial)
  | route s => exact takes_imp (RouteState.takes_script h hfits) (hsame trivial)
  | accessory s =>
      cases hbound : s.profile.address with
      | none =>
          have hfree : accessory s = fresh .accessory none := eq_fresh_of_build (hbare hbound)
          cases accessory.inj hfree
          exact rebuilt_of_respelled (respelled_of_script (fun _ output => by cases output <;> rfl) rfl)
      | some n =>
          obtain ⟨recordNo, hno⟩ := exists_recordNo? (hadmits n hbound) hbound
          exact takes_imp (AccessoryState.takes_script h hfits hno) fun d hd => rebuilt_of_respelled hd
  | sensorTrack s => exact takes_imp (SensorTrackState.takes_script s) (hsame trivial)
  | block s => exact takes_imp (BlockState.takes_script h hfits) (hsame trivial)
  | base s => exact takes_imp (BaseState.takes_script h hfits) fun d hd => ⟨fun _ => hd, fun _ => trivial⟩
  | sync s => exact hsame trivial _ rfl

/-- What is sent for the component afterwards can be sent. -/
theorem takes_rebuilt (h : Kept c) (hmotive : c.scope.isMotive = false) (hfits : c.profile.NamesFit)
    (hadmits : ∀ n, c.profile.address = some n → c.scope.admits n = true)
    (hbare : c.profile.address = none → Bare c) :
    Takes rules (fun d => Rebuilt (c.Restores rules.graph) c d ∧ ∀ u ∈ d.script, u.Sendable) (c.script.map Update.resent)
      (fresh c.scope c.profile.address) := by
  have hspoken : ∀ u ∈ c.script.map Update.resent, u.Spoken :=
    List.forall_mem_map.mpr fun u hu => Update.spoken_resent (sendable_script h hmotive u hu)
  have hfresh : Kept (fresh c.scope c.profile.address) ∧ (fresh c.scope c.profile.address).scope = c.scope :=
    ⟨kept_build (build_eq_fresh hadmits), scope_fresh _ _⟩
  refine takes_imp (takes_and (Q := fun d => Kept d ∧ d.scope = c.scope) (takes_script h hmotive hfits hadmits hbare)
    hfresh fun u hu now d hd => ?_) ?_
  · exact ⟨kept_update hd.1 (hspoken u hu) rules now, (scope_update rules now u d).trans hd.2⟩
  · exact fun d hd => ⟨hd.1, sendable_script hd.2.1 (hd.2.2 ▸ hmotive)⟩

theorem restores_stock (h : Kept c) : c.Restores .stock := by
  cases c with
  | accessory s => exact fun _ => AccessoryState.restores_stock h.latched
  | _ => trivial

/-- The bytes of a component that is no engine and no train and that heard nothing but commands and messages from
frames. If there are none, the codec refused a command of its script. Otherwise they are read as updates that a fresh
component of the kind and the address takes without a refusal, under any rules and at whatever times. The component
after them has the same bytes, also if the codec goes on from where it was, exactly if the commands for the outputs leave
them where they are, as they do under the stock graph. -/
theorem encode_rebuilt {σ : Type} {codec : Codec σ} (hcodec : codec.Inverts) {scope : Scope} {start : Option UInt16}
    (h : build scope start = .ok c) (hmotive : scope.isMotive = false) {history : List Incident}
    (hheard : ∀ i ∈ history, i.Heard) (hfits : (c.run history).profile.NamesFit) (memory : σ) :
    (∀ e memory', ((c.run history).encode codec).run memory = (.error e, memory') →
      ∃ d, .command d ∈ (c.run history).script ∧ ∃ m, (codec.encode d m).1 = .error e) ∧
    ∀ bytes memory', ((c.run history).encode codec).run memory = (.ok bytes, memory') →
      ∃ updates rebuilt, Update.decodeAll codec memory' bytes = .ok updates ∧
        build scope (c.run history).profile.address = .ok rebuilt ∧
        ∀ (rules : Rules) (timed : List (Nat × Update)), timed.map Prod.snd = updates →
          ∃ fed, feed rules timed rebuilt = .ok fed ∧
            (fed.encode codec = (c.run history).encode codec ↔ (c.run history).Restores rules.graph) ∧
            (codec.Repeats →
              ((fed.encode codec).run memory' = (.ok bytes, memory') ↔ (c.run history).Restores rules.graph)) ∧
            (rules.graph = .stock → (c.run history).Restores rules.graph) := by
  have hscope := scope_run_of_build h history
  have hkept := kept_run h hheard
  have hbare := bare_run h history
  have hadmits : ∀ a, (c.run history).profile.address = some a → scope.admits a = true :=
    fun a ha => admits_run h history ha
  generalize c.run history = s at *
  subst hscope
  have hsend := sendable_script hkept hmotive
  -- What is decoded is the script, each message of it as it is read again; that is what a fresh component takes.
  refine ⟨fun e memory' herror => Update.encodeAll_eq_error herror, fun bytes memory' hbytes => ?_⟩
  have hread := Update.decodeAll_encodeAll hcodec hsend hbytes
  have hrebuilt : build s.scope s.profile.address = .ok (fresh s.scope s.profile.address) := build_eq_fresh hadmits
  refine ⟨s.script.map Update.resent, _, hread, hrebuilt, fun rules timed htimed => ?_⟩
  obtain ⟨fed, hfed, hreturned, hfedSend⟩ := feed_of_takes (takes_rebuilt hkept hmotive hfits hadmits hbare) htimed
  have hsame : s.Restores rules.graph → fed.encode codec = s.encode codec := fun hrestores => hreturned.same hrestores σ codec
  -- The same bytes are read as the same script.
  have hrestores : ∀ {mid}, (fed.encode codec).run mid = (.ok bytes, memory') → s.Restores rules.graph := by
    intro mid hagain
    have hreadAgain := Update.decodeAll_encodeAll hcodec hfedSend hagain
    exact hreturned.holds (Except.ok.inj (hreadAgain.symm.trans hread))
  refine ⟨fed, hfed, ⟨fun hencode => hrestores (hencode ▸ hbytes), hsame⟩, fun hrepeats => ⟨hrestores, fun h => ?_⟩,
    fun hstock => hstock ▸ restores_stock hkept⟩
  rw [hsame h]
  exact Update.encodeAll_again hrepeats hbytes

/-- An accessory with a name, of which one output was toggled by its option-one key and the other one set. -/
theorem encode_rebuilt_pressed :
    let record : RecordMessage := ⟨5, RecordMessage.writeFlags, 0, 0,
      .fixture .accessory Profile.namesMask ⟨none, none, some "Depot", none, []⟩⟩
    let rules : Rules := ⟨.stock, .standard⟩
    let history : List Incident :=
      [.told rules 0 (.command ⟨.accessory .aux1OptOne, 5, none, .accessory⟩),
       .told rules 4 (.message (.record record.resent)),
       .told rules 9 (.command ⟨.accessory .aux2On, 5, none, .accessory⟩)]
    ∃ c, build .accessory none = .ok c ∧ (∀ i ∈ history, i.Heard) ∧ (c.run history).profile.roadName = some "Depot" ∧
      ∃ bytes memory updates rebuilt,
        ((c.run history).encode CommandTable.codec).run [] = (.ok bytes, memory) ∧
          Update.decodeAll CommandTable.codec memory bytes = .ok updates ∧ build .accessory (some 5) = .ok rebuilt ∧
            ∀ timed : List (Nat × Update), timed.map Prod.snd = updates →
              ∃ fed, feed rules timed rebuilt = .ok fed ∧
                (fed.encode CommandTable.codec).run memory = (.ok bytes, memory) := by
  intro record rules history
  have hbuild : build .accessory none = .ok (accessory (.fresh (.fresh none))) := rfl
  have hrecord : (Incident.told rules 4 (.message (.record record.resent))).Heard :=
    ⟨_, Message.ofFrame_toFrame_record record⟩
  have hheard : ∀ i ∈ history, i.Heard :=
    List.forall_mem_cons.mpr ⟨trivial, List.forall_mem_cons.mpr ⟨hrecord, List.forall_mem_singleton.mpr trivial⟩⟩
  have haddress : ((accessory (.fresh (.fresh none))).run history).profile.address = some 5 := by decide +kernel
  have hname : ((accessory (.fresh (.fresh none))).run history).profile.roadName = some "Depot" := by decide +kernel
  have hnumber : ((accessory (.fresh (.fresh none))).run history).profile.roadNumber = none := by decide +kernel
  have hfits : ((accessory (.fresh (.fresh none))).run history).profile.NamesFit := by
    refine ⟨fun t ht => ?_, fun t ht => ?_⟩
    · rw [hname] at ht
      cases ht
      decide +kernel
    · rw [hnumber] at ht
      cases ht
  have hspelled :
      (((accessory (.fresh (.fresh none))).run history).encode CommandTable.codec |>.run []).1.isOk = true := by
    decide +kernel
  rcases hbytes : (((accessory (.fresh (.fresh none))).run history).encode CommandTable.codec).run [] with
    ⟨_ | bytes, memory⟩
  · rw [hbytes] at hspelled
    cases hspelled
  · obtain ⟨-, hread⟩ := encode_rebuilt CommandTable.codec_inverts hbuild rfl hheard hfits []
    obtain ⟨updates, rebuilt, hupdates, hrebuilt, hfed⟩ := hread bytes memory hbytes
    rw [haddress] at hrebuilt
    refine ⟨_, hbuild, hheard, hname, bytes, memory, updates, rebuilt, hbytes, hupdates, hrebuilt, ?_⟩
    intro timed htimed
    obtain ⟨fed, hfeed, -, hagain, hrestores⟩ := hfed rules timed htimed
    exact ⟨fed, hfeed, (hagain CommandTable.codec_repeats).mpr (hrestores rfl)⟩

/-- Under a graph in which the second output's command switches the first output off, an accessory that was told to
switch the second output on and then the first is not brought back: the commands are sent in the other order. -/
theorem rebuilt_differs :
    let graph := EffectGraph.empty.registerCauses (Operation.accessory .aux2On).trigger
      [(Operation.accessory .aux1Off).trigger]
    let rules : Rules := ⟨graph, .standard⟩
    let history : List Incident :=
      [.told rules 0 (.command ⟨.accessory .aux2On, 5, none, .accessory⟩),
       .told rules 0 (.command ⟨.accessory .aux1On, 5, none, .accessory⟩)]
    ∃ c, build .accessory (some 5) = .ok c ∧ (∀ i ∈ history, i.Heard) ∧ (c.run history).profile.NamesFit ∧
      ∃ bytes memory updates fed,
        ((c.run history).encode CommandTable.codec).run [] = (.ok bytes, memory) ∧
          Update.decodeAll CommandTable.codec memory bytes = .ok updates ∧
            feed rules (updates.map fun u => (0, u)) c = .ok fed ∧
              ((fed.encode CommandTable.codec).run memory).1 ≠ .ok bytes := by
  intro graph rules history
  let first : Update := .command ⟨.accessory .aux1On, 5, none, .accessory⟩
  let second : Update := .command ⟨.accessory .aux2On, 5, none, .accessory⟩
  let off : Update := .command ⟨.accessory .aux1Off, 5, none, .accessory⟩
  have hheard : ∀ i ∈ history, i.Heard :=
    List.forall_mem_cons.mpr ⟨trivial, List.forall_mem_singleton.mpr trivial⟩
  have hname : ((accessory (.fresh (.fresh (some 5)))).run history).profile.roadName = none := by decide +kernel
  have hnumber : ((accessory (.fresh (.fresh (some 5)))).run history).profile.roadNumber = none := by decide +kernel
  have hfits := Profile.namesFit_of_eq_none hname hnumber
  have hscript : ((accessory (.fresh (.fresh (some 5)))).run history).script = [first, second] := by decide +kernel
  have hsend : ∀ u ∈ [first, second], u.Sendable :=
    List.forall_mem_cons.mpr ⟨trivial, List.forall_mem_singleton.mpr trivial⟩
  have hfed : (feed rules [(0, first), (0, second)] (accessory (.fresh (.fresh (some 5))))).map script =
      .ok [off, second] := by
    decide +kernel
  have hspelled : ((Update.encodeAll CommandTable.codec [first, second]).run []).1.isOk = true := by decide +kernel
  have hdiffers : ((Update.encodeAll CommandTable.codec [off, second]).run
      ((Update.encodeAll CommandTable.codec [first, second]).run []).2).1 ≠
        ((Update.encodeAll CommandTable.codec [first, second]).run []).1 := by decide +kernel
  cases hrebuilt : feed rules [(0, first), (0, second)] (accessory (.fresh (.fresh (some 5)))) with
  | error e =>
      rw [hrebuilt] at hfed
      cases hfed
  | ok fed =>
      rw [hrebuilt] at hfed
      have hfedScript : fed.script = [off, second] := Except.ok.inj hfed
      rcases hbytes : (Update.encodeAll CommandTable.codec [first, second]).run [] with ⟨_ | bytes, memory⟩
      · rw [hbytes] at hspelled
        cases hspelled
      · rw [hbytes, ← hfedScript] at hdiffers
        rw [← hscript] at hbytes
        exact ⟨_, rfl, hheard, hfits, bytes, memory, _, fed, hbytes,
          Update.decodeAll_encodeAll CommandTable.codec_inverts (hscript ▸ hsend) hbytes, hscript ▸ hrebuilt, hdiffers⟩

end Component
end RailLayout
