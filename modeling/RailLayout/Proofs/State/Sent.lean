import RailLayout.Proofs.State.Addressed
import RailLayout.Proofs.State.Motive.Relatched

/-!
What a component sends to be brought back. Whatever commands and messages it has heard, every update of its script can
be made: the constructors of commands and messages refuse none of them (`Update.Made`). Every update can be sent, and
is for the component itself. So under a codec that spells every command, the bytes of a component never fail, and they
are frames that are read one by one, each for this component and for no other (`Component.encode_is_own`).
-/

namespace RailLayout

theorem Command.build_of_admits {operation : Operation} {address : UInt16} {scope : Scope}
    (haccepts : operation.accepts scope = true) (hadmits : scope.admits address = true) (data : Option UInt16) :
    build operation address data (some scope) = .ok ⟨operation, address, data, scope⟩ := by
  have hvalid : scope.validate address = .ok address := if_pos hadmits
  exact (if_pos haccepts).trans (bind_of_ok hvalid)

namespace Update

/-- Whether an update is what its constructor makes, which can refuse: a command needs a kind of component that takes
its operation and an address of that kind, and an answer of a board needs an action that the board answers. The answer
of a relay is the command that switches it, as the board sends it; the report of a block is made without a check. -/
def Made : Update → Prop
  | command c => Command.build c.operation c.address c.data (some c.scope) = .ok c
  | message (.board .asc2 m) => ∃ on, (BoardMessage.relay m.address on none).map BoardMessage.asAnswer = .ok m
  | message (.board _ m) => BoardMessage.answer m.address m.action m.body = .ok m
  | message (.record m) => RecordMessage.write m.recordNo m.contents = .ok m
  | message (.fourDigit m) => FourDigitMessage.build m.database.scope m.recordNo m.lookup = .ok m
  | message (.block _) => True
  | message _ => False

section Frames

variable {σ : Type} {codec : Codec σ} {u : Update} {updates : List Update}

/-- Whether a frame is read as an update, whatever bytes come after it. -/
def ReadFrom (codec : Codec σ) (memory : σ) (frame : Frame) (u : Update) : Prop :=
  ∃ m, (∀ rest, Message.take (frame.encode ++ rest) = .ok (m, rest)) ∧ ofMessage codec memory m = .ok u

/-- Under a codec that spells every command, an update that can be sent is a frame; it is read as the update again, also
after more was spelled. -/
theorem encode_of_total (hcodec : codec.Inverts) (htotal : codec.Total) (hsend : u.Sendable) (memory : σ) :
    ∃ frame memory', (u.encode codec).run memory = (.ok frame.encode, memory') ∧
      ∀ {later bytes final}, (encodeAll codec later).run memory' = (.ok bytes, final) →
        ReadFrom codec final frame u.resent := by
  cases u with
  | command c =>
      obtain ⟨word, memory', hword⟩ := htotal c memory
      refine ⟨PassThrough.toFrame ⟨PassThrough.codeFor c.address, word⟩, memory', encode_command_of_eq_ok hword, ?_⟩
      intro later bytes final hlater
      have hframe := PassThrough.ofFrame_codeFor c.address (hcodec.ne_nil hword)
      exact ⟨_, Message.take_encode (m := .passThrough ⟨PassThrough.codeFor c.address, word⟩) hframe,
        bind_of_ok (decode_of_encodeAll hcodec (hcodec.decode_encode hword) hlater)⟩
  | message m =>
      obtain ⟨hread, hplain⟩ := hsend
      exact ⟨m.toFrame, memory, encode_message m memory, fun _ => ⟨m.resent, Message.take_encode hread,
        ofMessage_of_ne hplain _⟩⟩

/-- Under a codec that spells every command, updates that can be sent are frames, each of which is one of them. -/
theorem encodeAll_of_total (hcodec : codec.Inverts) (htotal : codec.Total) (hsend : ∀ u ∈ updates, u.Sendable)
    (memory : σ) :
    ∃ (frames : List Frame) (memory' : σ),
      (encodeAll codec updates).run memory = (.ok (frames.flatMap Frame.encode), memory') ∧
        ∀ frame ∈ frames, ∃ u ∈ updates, ReadFrom codec memory' frame u.resent := by
  induction updates generalizing memory with
  | nil => exact ⟨[], memory, rfl, fun frame hframe => absurd hframe List.not_mem_nil⟩
  | cons u rest ih =>
      obtain ⟨frame, mid, hfirst, hread⟩ := encode_of_total hcodec htotal (hsend u List.mem_cons_self) memory
      obtain ⟨frames, memory', hrest, hframes⟩ := ih (fun v hv => hsend v (List.mem_cons_of_mem u hv)) mid
      refine ⟨frame :: frames, memory', ?_, List.forall_mem_cons.mpr ⟨⟨u, List.mem_cons_self, hread hrest⟩, ?_⟩⟩
      · rw [encodeAll, run_bind hfirst]
        exact run_bind hrest
      · intro other hother
        obtain ⟨v, hv, hfrom⟩ := hframes other hother
        exact ⟨v, List.mem_cons_of_mem u hv, hfrom⟩

end Frames
end Update

/-! ## What the constructors make -/

theorem Profile.made_recordUpdates (p : Profile) (kind : FixtureKind) (steps : List RouteStep) :
    ∀ u ∈ p.recordUpdates kind steps, u.Made := by
  intro u hu
  rcases recordUpdates_cases p kind steps with ⟨recordNo, -, hsent⟩ | ⟨hnone, -⟩
  · rw [hsent, List.mem_singleton] at hu
    rw [hu]
    rfl
  · rw [hnone] at hu
    exact absurd hu List.not_mem_nil

variable {n : UInt16}

theorem SwitchState.made_script {s : SwitchState} (hbound : s.profile.address = some n)
    (hadmits : Scope.switch.admits n = true) : ∀ u ∈ s.script, u.Made := by
  intro u hu
  rw [script_of_bound hbound] at hu
  rcases List.mem_append.mp hu with hrecord | hcommand
  · exact Profile.made_recordUpdates s.profile .switch [] u hrecord
  · obtain ⟨through, -, rfl⟩ := Option.map_eq_some_iff.mp (Option.mem_toList.mp hcommand)
    exact Command.build_of_admits rfl hadmits none

theorem RouteState.made_script (s : RouteState) : ∀ u ∈ s.script, u.Made := by
  intro u hu
  unfold script at hu
  split at hu
  · split at hu
    · rw [List.mem_singleton.mp hu]
      rfl
    · exact absurd hu List.not_mem_nil
  · exact absurd hu List.not_mem_nil

namespace AccessoryState

theorem made_kindUpdates (s : AccessoryState) {recordNo : UInt8}
    (hadmits : Scope.accessory.admits recordNo.toUInt16 = true) :
    ∀ u ∈ s.kindUpdates recordNo.toUInt16 recordNo, u.Made := by
  intro u hu
  unfold kindUpdates at hu
  split at hu
  · obtain ⟨op, -, rfl⟩ := List.mem_map.mp hu
    exact Command.build_of_admits rfl hadmits none
  · split at hu
    · rw [List.mem_singleton.mp hu]
      exact ⟨s.isAux1On, rfl⟩
    · exact absurd hu List.not_mem_nil
  · split at hu
    · rw [List.mem_singleton.mp hu]
      show BoardMessage.answer recordNo (.own (s.districtAction.getD .control3) : BoardAction .bpc2) _ = _
      cases s.districtAction.getD .control3 <;> rfl
    · exact absurd hu List.not_mem_nil
  · obtain ⟨config, -, rfl⟩ := Option.map_eq_some_iff.mp (Option.mem_toList.mp hu)
    rfl
  · rw [List.mem_singleton.mp hu]
    rfl

theorem made_script {s : AccessoryState} (hbound : s.profile.address = some n)
    (hadmits : Scope.accessory.admits n = true) : ∀ u ∈ s.script, u.Made := by
  intro u hu
  cases hno : s.profile.recordNo? with
  | none =>
      rw [script, hbound, hno] at hu
      exact absurd hu List.not_mem_nil
  | some recordNo =>
      rw [script_of_recordNo? hno] at hu
      rcases List.mem_append.mp hu with hrecord | hkind
      · exact Profile.made_recordUpdates s.profile .accessory [] u hrecord
      · obtain rfl : recordNo.toUInt16 = n := Option.some.inj ((Profile.address_of_recordNo? hno).symm.trans hbound)
        exact made_kindUpdates s hadmits u hkind

end AccessoryState

theorem SensorTrackState.made_script (s : SensorTrackState) : ∀ u ∈ s.script, u.Made := by
  intro u hu
  rcases script_cases s with ⟨recordNo, sequence, hno, hsequence⟩ | hscript
  · rw [script_of_known hno hsequence, List.mem_singleton] at hu
    rw [hu]
    rfl
  · rw [hscript] at hu
    exact absurd hu List.not_mem_nil

theorem BlockState.made_script (s : BlockState) : ∀ u ∈ s.script, u.Made := by
  intro u hu
  rcases script_cases s with ⟨recordNo, flags, hno, hflags⟩ | hscript
  · rw [script_of_known hno hflags, List.mem_singleton] at hu
    rw [hu]
    trivial
  · rw [hscript] at hu
    exact absurd hu List.not_mem_nil

namespace BaseState

theorem made_figureUpdates (s : BaseState) (database : MotiveKind) : ∀ u ∈ s.figureUpdates database, u.Made := by
  intro u hu
  rcases List.mem_append.mp hu with hcount | hfirst
  · obtain ⟨n, -, rfl⟩ := Option.map_eq_some_iff.mp (Option.mem_toList.mp hcount)
    cases database <;> rfl
  · obtain ⟨n, -, rfl⟩ := Option.map_eq_some_iff.mp (Option.mem_toList.mp hfirst)
    cases database <;> rfl

theorem made_script (s : BaseState) : ∀ u ∈ s.script, u.Made := by
  intro u hu
  rw [script_eq] at hu
  rcases List.mem_append.mp hu with hu | htrains
  · rcases List.mem_append.mp hu with hinfo | hengines
    · unfold infoUpdates at hinfo
      split at hinfo
      · rw [List.mem_singleton.mp hinfo]
        rfl
      · exact absurd hinfo List.not_mem_nil
    · exact made_figureUpdates s .engine u hengines
  · exact made_figureUpdates s .train u htrains

end BaseState

theorem MotiveState.made_script {s : MotiveState} (hbound : s.profile.address = some n)
    (hadmits : s.kind.scope.admits n = true) : ∀ u ∈ s.script, u.Made := by
  intro u hu
  rw [script_of_bound hbound] at hu
  rcases List.mem_append.mp hu with hmessage | hcommand
  · rcases List.mem_append.mp hmessage with hrecord | hmap
    · unfold recordUpdates at hrecord
      split at hrecord
      · rw [List.mem_singleton.mp hrecord]
        rfl
      · exact absurd hrecord List.not_mem_nil
    · unfold fourDigitUpdates at hmap
      split at hmap
      · split at hmap
        · rw [List.mem_singleton.mp hmap]
          cases hkind : s.kind <;> rfl
        · exact absurd hmap List.not_mem_nil
      · exact absurd hmap List.not_mem_nil
  · obtain ⟨op, -, rfl⟩ := List.mem_map.mp hcommand
    have haccepts : (Operation.engine s.generation op).accepts s.kind.scope = true := by
      cases hkind : s.kind <;> rfl
    exact Command.build_of_admits haccepts hadmits none

namespace Component

variable {c : Component}

theorem made_script (hbound : c.profile.address = some n) (hadmits : c.scope.admits n = true) :
    ∀ u ∈ c.script, u.Made := by
  cases c with
  | motive s => exact MotiveState.made_script hbound hadmits
  | switch s => exact SwitchState.made_script hbound hadmits
  | route s => exact RouteState.made_script s
  | accessory s => exact AccessoryState.made_script hbound hadmits
  | sensorTrack s => exact SensorTrackState.made_script s
  | block s => exact BlockState.made_script s
  | base s => exact BaseState.made_script s
  | sync s => exact fun u hu => absurd hu List.not_mem_nil

/-! ## What can be sent, and where it goes -/

/-- Whether an engine or a train is not said to have its record where nothing was found. -/
def Located (c : Component) : Prop := ∀ s, c = motive s → s.Located

theorem located_build {scope : Scope} {start : Option UInt16} (h : build scope start = .ok c) : Located c := by
  cases eq_fresh_of_build h
  intro s hs hlost
  cases scope <;> cases hs <;> cases hlost

/-- What every update and every sighting keep of engines and trains is kept whatever a component meets. -/
theorem meet_motive {P : MotiveState → Prop} (hupdate : ∀ s rules now u, P s → P (s.update rules now u).state)
    (hsighting : ∀ s sighting, P s → P (s.applySighting sighting).1) (h : ∀ s, c = motive s → P s) (i : Incident) :
    ∀ s, c.meet i = motive s → P s := by
  cases c with
  | motive s =>
      have hbefore := h s rfl
      intro t ht
      cases i with
      | told rules now u =>
          cases ht
          exact hupdate s rules now u hbefore
      | seen sighting =>
          rw [meet, applySighting] at ht
          dsimp only at ht
          split at ht
          · cases ht
            exact hsighting s sighting hbefore
          · cases ht
            exact hbefore
  | _ =>
      intro t ht
      cases i <;> cases ht

theorem located_meet (h : Located c) (i : Incident) : Located (c.meet i) := by
  refine meet_motive (fun s rules now u hs => MotiveState.located_update hs rules now u) (fun s sighting hs => ?_) h i
  have hseen : (s.applySighting sighting).1.fourDigitRecord = s.fourDigitRecord := by
    unfold MotiveState.applySighting
    split <;> rfl
  rw [MotiveState.Located, hseen]
  exact hs

/-- Every update that brings back a component can be sent, and is for this component as it is read again. -/
theorem sent_script (hkept : Kept c) (hlocated : Located c) (hbound : c.profile.address = some n)
    (hadmits : c.scope.admits n = true) :
    ∀ u ∈ c.script, u.Sendable ∧ u.resent.target? = some (c.scope, n) := by
  intro u hu
  cases hmotive : c.scope.isMotive with
  | true =>
      obtain ⟨s, rfl⟩ := exists_motive hmotive
      have hrange : n ≤ 9999 := MotiveState.le_of_admits hadmits
      exact ⟨MotiveState.sendable_of_script (hlocated s rfl) hbound hrange u hu,
        MotiveState.target?_of_script (hlocated s rfl) hbound hrange u.resent (List.mem_map_of_mem hu)⟩
  | false => exact ⟨sendable_script hkept hmotive u hu, (addressed_script hmotive hbound hadmits u hu).target⟩

/-- Every update that brings back a component which heard nothing but commands and messages from frames can be made and
sent, and is for this component as it is read again. One without an address has none. -/
theorem sent_run {scope : Scope} {start : Option UInt16} (h : build scope start = .ok c) {history : List Incident}
    (hheard : ∀ i ∈ history, i.Heard) :
    ∀ u ∈ (c.run history).script, u.Made ∧ u.Sendable ∧
      ∃ address, (c.run history).profile.address = some address ∧ u.resent.target? = some (scope, address) := by
  have hscope := scope_run_of_build h history
  have hkept := kept_run h hheard
  have hlocated : Located (c.run history) := run_induction (located_build h) fun _ i _ hd => located_meet hd i
  have hbare := bare_run h history
  have hadmits : ∀ a, (c.run history).profile.address = some a → scope.admits a = true :=
    fun a ha => admits_run h history ha
  generalize c.run history = s at *
  subst hscope
  intro u hu
  cases hbound : s.profile.address with
  | none =>
      rw [script_of_unbound (hbare hbound) hbound] at hu
      exact absurd hu List.not_mem_nil
  | some address =>
      obtain ⟨hsend, htarget⟩ := sent_script hkept hlocated hbound (hadmits address hbound) u hu
      exact ⟨made_script hbound (hadmits address hbound) u hu, hsend, address, rfl, htarget⟩

/-- What a component of any kind sends for itself, after it heard any commands and messages from frames and saw anything
pass, under any rules. The constructors make every update of it. Under a codec that spells every command and can be read
back, it has bytes: a number of frames, each of which is read as an update for just the component's kind and the address
that it is bound to, a command being read by the codec as it is at the end. -/
theorem encode_is_own {σ : Type} {codec : Codec σ} (hcodec : codec.Inverts) (htotal : codec.Total) {scope : Scope}
    {start : Option UInt16} (h : build scope start = .ok c) {history : List Incident}
    (hheard : ∀ i ∈ history, i.Heard) (memory : σ) :
    (∀ u ∈ (c.run history).script, u.Made) ∧
      ∃ (frames : List Frame) (memory' : σ),
        ((c.run history).encode codec).run memory = (.ok (frames.flatMap Frame.encode), memory') ∧
          ∀ frame ∈ frames, ∃ u address, Update.ReadFrom codec memory' frame u ∧
            (c.run history).profile.address = some address ∧ u.target? = some (scope, address) := by
  have hsent := sent_run h hheard
  obtain ⟨frames, memory', hbytes, hread⟩ :=
    Update.encodeAll_of_total hcodec htotal (fun u hu => (hsent u hu).2.1) memory
  refine ⟨fun u hu => (hsent u hu).1, frames, memory', hbytes, fun frame hframe => ?_⟩
  obtain ⟨u, hu, hfrom⟩ := hread frame hframe
  obtain ⟨-, -, address, hbound, htarget⟩ := hsent u hu
  exact ⟨u.resent, address, hfrom, hbound, htarget⟩

/-- An engine with an address of four digits was started and its record was found; both come as frames of its own. -/
theorem encode_is_own_located :
    let rules : Rules := ⟨.stock, .standard⟩
    let found : Message := .fourDigit (.about .engine 5 (.map 0 (some 2056)))
    let history : List Incident :=
      [.told rules 0 (.command ⟨.engine .legacy .startUpImmediate, 2056, none, .engine⟩),
       .told rules 4 (.message found)]
    ∃ c, build .engine none = .ok c ∧ (∀ i ∈ history, i.Heard) ∧
      ∃ (frames : List Frame) (memory : CommandTable),
        ((c.run history).encode CommandTable.endless).run [] = (.ok (frames.flatMap Frame.encode), memory) ∧
          frames ≠ [] ∧
            ∀ frame ∈ frames, ∃ u, Update.ReadFrom CommandTable.endless memory frame u ∧
              u.target? = some (.engine, 2056) := by
  intro rules found history
  have hfound : (Incident.told rules 4 (.message found)).Heard := ⟨found.toFrame, by decide +kernel⟩
  have hheard : ∀ i ∈ history, i.Heard :=
    List.forall_mem_cons.mpr ⟨trivial, List.forall_mem_singleton.mpr hfound⟩
  have hbuild : build .engine none = .ok (motive (.fresh .engine (.fresh none))) := rfl
  have haddress : ((motive (.fresh .engine (.fresh none))).run history).profile.address = some 2056 := by
    decide +kernel
  have hsaid : ((((motive (.fresh .engine (.fresh none))).run history).encode CommandTable.endless).run []).1 ≠
      .ok [] := by
    decide +kernel
  obtain ⟨-, frames, memory, hbytes, hread⟩ :=
    encode_is_own CommandTable.endless_inverts CommandTable.endless_total hbuild hheard []
  refine ⟨_, hbuild, hheard, frames, memory, hbytes, ?_, fun frame hframe => ?_⟩
  · rintro rfl
    exact hsaid (congrArg Prod.fst hbytes)
  · obtain ⟨u, address, hfrom, hbound, htarget⟩ := hread frame hframe
    obtain rfl : address = 2056 := Option.some.inj (hbound.symm.trans haddress)
    exact ⟨u, hfrom, htarget⟩

end Component
end RailLayout
