import RailLayout.Proofs.Record.Mask
import RailLayout.Proofs.State.Motive.Held
import RailLayout.Proofs.Store.Script

/-!
The motion of an engine or a train that was rebuilt from the bytes of another one, at an address of two digits. The
record brings back every known value, a labor above thirty-one aside; but the commands after it are taken as
commands, so a direction stops the engine that was rebuilt, and under the Legacy generation a direction or a
shutdown brings engine speed and labor to rest as well. `replayed_motion` says what the motion is, and that it
agrees with the original one exactly if that one was `Undisturbed`.
-/

namespace RailLayout

namespace Scale

theorem forall_lt {P : UInt8 → Prop} (bound : Nat) (h : ∀ n < bound, P n.toUInt8) {b : UInt8}
    (hb : b.toNat < bound) : P b := by
  have hn := h b.toNat hb
  rwa [show b.toNat.toUInt8 = b from UInt8.ofNat_toNat] at hn

theorem laborFromRecord_laborToRecord (labor : UInt8) : laborFromRecord (laborToRecord labor) = min labor 31 := by
  have hle : min labor 31 ≤ 31 := Std.min_le_right
  exact forall_lt (P := fun b => laborFromRecord (if 12 ≤ b then b - 12 else b + 20) = b) 32 (by decide)
    (Nat.lt_succ_of_le (UInt8.le_iff_toNat_le.mp hle))

theorem brakeFromRecord_brakeToRecord {brake : UInt8} (h : brake ≤ 7) :
    brakeFromRecord (brakeToRecord brake) = brake :=
  forall_lt (P := fun b => brakeFromRecord (brakeToRecord b) = b) 8 (by decide)
    (Nat.lt_succ_of_le (UInt8.le_iff_toNat_le.mp h))

theorem momentumFromRecord_momentumToRecord {momentum : UInt8} (h : momentum ≤ 7) :
    momentumFromRecord (momentumToRecord momentum) = momentum :=
  forall_lt (P := fun b => momentumFromRecord (momentumToRecord b) = b) 8 (by decide)
    (Nat.lt_succ_of_le (UInt8.le_iff_toNat_le.mp h))

end Scale

namespace Motion

def recorded (m : Motion) : Motion := { m with labor := m.labor.map (min · 31) }

/-- Whether a motion has every value that is known in another one. -/
structure Restores (restored m : Motion) : Prop where
  speed : ∀ v, m.speed = some v → restored.speed = some v
  rpm : ∀ v, m.rpm = some v → restored.rpm = some v
  labor : ∀ v, m.labor = some v → restored.labor = some v
  momentum : ∀ v, m.momentum = some v → restored.momentum = some v
  trainBrake : ∀ v, m.trainBrake = some v → restored.trainBrake = some v

/-- Whether a motion is one that a record can hold and that a pull leaves as it is. -/
structure Undisturbed (m : Motion) (pull : Pull) : Prop where
  speed : pull ≠ .none → ∀ v, m.speed = some v → v = 0
  rpm : pull = .rest → ∀ v, m.rpm = some v → v = 0
  labor : ∀ v, m.labor = some v → if pull = .rest then v = MotiveState.restingLabor else v ≤ 31

theorem restores_speed_iff (m : Motion) (pull : Pull) :
    (∀ v, m.speed = some v → (m.recorded.pulled pull).speed = some v) ↔
      (pull ≠ .none → ∀ v, m.speed = some v → v = 0) := by
  cases pull with
  | none => exact ⟨fun _ hmoved => absurd rfl hmoved, fun _ v hv => hv⟩
  | stop | rest =>
      refine ⟨fun h _ v hv => (Option.some.inj (h v hv)).symm, fun h v hv => ?_⟩
      rw [h (by decide) v hv]
      rfl

theorem restores_rpm_iff (m : Motion) (pull : Pull) :
    (∀ v, m.rpm = some v → (m.recorded.pulled pull).rpm = some v) ↔
      (pull = .rest → ∀ v, m.rpm = some v → v = 0) := by
  cases pull with
  | none | stop => exact ⟨fun _ hrest => absurd hrest (by decide), fun _ v hv => hv⟩
  | rest =>
      refine ⟨fun h _ v hv => (Option.some.inj (h v hv)).symm, fun h v hv => ?_⟩
      rw [h rfl v hv]
      rfl

theorem recorded_labor_iff {m : Motion} {v : UInt8} (hv : m.labor = some v) :
    m.recorded.labor = some v ↔ v ≤ 31 := by
  rw [recorded, hv, Option.map_some, Option.some.injEq]
  refine ⟨fun h => ?_, fun h => ?_⟩
  · rw [← h]
    exact Std.min_le_right
  · rw [Std.min_eq_if, if_pos h]

theorem restores_labor_iff (m : Motion) (pull : Pull) :
    (∀ v, m.labor = some v → (m.recorded.pulled pull).labor = some v) ↔
      ∀ v, m.labor = some v → if pull = .rest then v = MotiveState.restingLabor else v ≤ 31 := by
  refine forall_congr' fun v => forall_congr' fun hv => ?_
  cases pull with
  | none | stop => exact recorded_labor_iff hv
  | rest => exact ⟨fun h => (Option.some.inj h).symm, fun h => congrArg some h.symm⟩

/-- The motion after a record and a pull agrees with the original one exactly if that one is undisturbed. -/
theorem restores_iff (m : Motion) (pull : Pull) : (m.recorded.pulled pull).Restores m ↔ m.Undisturbed pull := by
  constructor
  · exact fun h => ⟨(restores_speed_iff m pull).mp h.speed, (restores_rpm_iff m pull).mp h.rpm,
      (restores_labor_iff m pull).mp h.labor⟩
  · refine fun h => ⟨(restores_speed_iff m pull).mpr h.speed, (restores_rpm_iff m pull).mpr h.rpm,
      (restores_labor_iff m pull).mpr h.labor, fun v hv => ?_, fun v hv => ?_⟩
    · cases pull <;> exact hv
    · cases pull <;> exact hv

end Motion

namespace MotiveState

/-! ## The record -/

/-- The message that brings the record of a state. -/
def recordMessage (s : MotiveState) (address : UInt16) : RecordMessage :=
  ⟨address.toUInt8, RecordMessage.writeFlags, 0, 0, .motive s.kind s.toRecord.validMask s.toRecord⟩

theorem recordUpdates_eq (s : MotiveState) {address : UInt16} (hlow : address ≤ 99) :
    s.recordUpdates address =
      if s.hasRecordFields = true then [.message (.record (s.recordMessage address))] else [] := by
  simp only [recordUpdates, hlow, and_true, recordMessage]

theorem valid_getD {known : Bool} {value : Option UInt8} (h : known = value.isSome) (b : UInt8) :
    (if known = true then some (value.getD b) else none) = value := by
  rw [h]
  cases value <;> rfl

theorem target?_record (s : MotiveState) {address : UInt16} (hlow : address ≤ 99) :
    (Update.message (.record (s.recordMessage address).resent)).target? = some (s.kind.scope, address) := by
  have hbyte : address.toUInt8.toUInt16 = address := by
    rw [UInt16.le_iff_toNat_le] at hlow
    rw [← UInt16.toNat_inj, UInt8.toNat_toUInt16, UInt16.toNat_toUInt8]
    exact Nat.mod_eq_of_lt (Nat.lt_of_le_of_lt hlow (by decide))
  show some (s.kind.scope, address.toUInt8.toUInt16) = _
  rw [hbyte]

theorem core_applyRecordFields (m : RecordMessage) (r : MotiveRecord) (s : MotiveState) :
    (s.applyRecordFields m r).core =
      let valid (field : RecordField) (value : Option UInt8) : Option UInt8 := if m.has field then value else none
      { s.core with
        profile := s.profile.bindNames m.name? m.number?
        motion :=
          { speed := ((valid .speed r.speed).map UInt8.toUInt16).or s.speed
            rpm := (valid .runLevel r.runLevel).or s.rpm
            labor := ((valid .laborBias r.laborBias).map Scale.laborFromRecord).or s.labor
            momentum := ((valid .momentum r.momentum).map Scale.momentumFromRecord).or s.momentum
            trainBrake := ((valid .trainBrake r.trainBrake).map Scale.brakeFromRecord).or s.trainBrake } } := by
  unfold applyRecordFields
  dsimp only
  split <;> rfl

theorem core_applyConsist (kind : MotiveKind) (r : MotiveRecord) (s : MotiveState) :
    (s.applyConsist kind r).core = s.core := by
  cases kind <;> rfl

theorem map_map_eq {α β : Type} {write : α → β} {read : β → α} {value : Option α}
    (h : ∀ v, value = some v → read (write v) = v) : (value.map write).map read = value := by
  cases value with
  | none => rfl
  | some v => exact congrArg some (h v rfl)

/-- The motion that a record says, on the scale of commands. -/
def recordMotion (r : MotiveRecord) : Motion :=
  ⟨r.speed.map UInt8.toUInt16, r.runLevel, r.labor?, r.commandMomentum?, r.commandTrainBrake?⟩

theorem recordMotion_toRecord {s : MotiveState} (hsteady : Steady s) :
    recordMotion s.toRecord = s.motion.recorded := by
  have hspeed : (s.speed.map clampByte).map UInt8.toUInt16 = s.speed :=
    map_map_eq fun v hv => toUInt16_clampByte (hsteady.speed hv)
  have hlabor : (s.labor.map Scale.laborToRecord).map Scale.laborFromRecord = s.labor.map (min · 31) := by
    rw [Option.map_map]
    exact congrArg (s.labor.map ·) (funext Scale.laborFromRecord_laborToRecord)
  have hmomentum : (s.momentum.map Scale.momentumToRecord).map Scale.momentumFromRecord = s.momentum :=
    map_map_eq fun v hv => Scale.momentumFromRecord_momentumToRecord (hsteady.momentum hv)
  have hbrake : (s.trainBrake.map Scale.brakeToRecord).map Scale.brakeFromRecord = s.trainBrake :=
    map_map_eq fun v hv => Scale.brakeFromRecord_brakeToRecord (hsteady.trainBrake hv)
  show Motion.mk _ s.rpm _ _ _ = Motion.mk s.speed s.rpm _ s.momentum s.trainBrake
  congr 1

/-- What a record that was sent with the mask of its known fields does to a state of which no motion is known. -/
theorem core_applyRecordFields_resent {m : RecordMessage} {r : MotiveRecord} {kind : MotiveKind}
    (hmask : m.contents.valid? = some r.validMask) {f : MotiveState}
    (hfresh : f.motion = ⟨none, none, none, none, none⟩) :
    (f.applyRecordFields m (r.resent kind)).core =
      ⟨f.kind, f.profile.bindNames m.name? m.number?, f.direction, recordMotion r⟩ := by
  -- What was not known comes back as zero, but without its bit in the mask.
  have hkept : ∀ field (value : Option UInt8), r.has field = value.isSome →
      (if m.has field = true then some (value.getD 0) else none) = value := by
    intro field value hknown
    exact valid_getD ((RecordMessage.has_validMask hmask field).trans hknown) 0
  have hspeed : f.speed = none := congrArg Motion.speed hfresh
  have hrpm : f.rpm = none := congrArg Motion.rpm hfresh
  have hlabor : f.labor = none := congrArg Motion.labor hfresh
  have hmomentum : f.momentum = none := congrArg Motion.momentum hfresh
  have hbrake : f.trainBrake = none := congrArg Motion.trainBrake hfresh
  rw [core_applyRecordFields]
  simp only [MotiveRecord.resent, hkept .speed r.speed rfl, hkept .runLevel r.runLevel rfl,
    hkept .laborBias r.laborBias rfl, hkept .momentum r.momentum rfl, hkept .trainBrake r.trainBrake rfl,
    hspeed, hrpm, hlabor, hmomentum, hbrake, Option.or_none]
  rfl

/-- The record of a state is taken over by another one. -/
theorem update_recordMessage {s f : MotiveState} {address : UInt16} (hlow : address ≤ 99) (hkind : f.kind = s.kind)
    (hbound : f.profile.address = some address) (rules : Rules) (now : Nat) :
    (f.update rules now (.message (.record (s.recordMessage address).resent))).state =
      (applyConsist s.kind (s.toRecord.resent s.kind)
        (f.applyRecordFields (s.recordMessage address).resent (s.toRecord.resent s.kind))).record
          (.message (.record (s.recordMessage address).resent)) now := by
  -- A link that is not known is sent as that of a new record, so the record counts as used.
  have hactive : ¬((s.recordMessage address).resent.status ≠ 0 ∨
      (s.recordMessage address).resent.isActive = false) := by
    intro h
    rcases h with h | h
    · exact h rfl
    · cases h
  have htarget := target?_record s hlow
  rw [← hkind] at htarget
  have hreport : f.applyReport (.record (s.recordMessage address).resent) =
      (applyConsist s.kind (s.toRecord.resent s.kind)
        (f.applyRecordFields (s.recordMessage address).resent (s.toRecord.resent s.kind)), true) := by
    rw [applyReport, applyRecord, if_neg hactive]
    rfl
  simp only [update, Profile.accept_bound hbound htarget, applyMessage, hreport]

theorem core_update_record {s f : MotiveState} (hsteady : Steady s) {address : UInt16} (hlow : address ≤ 99)
    (hkind : f.kind = s.kind) (hbound : f.profile.address = some address)
    (hfresh : f.motion = ⟨none, none, none, none, none⟩) (rules : Rules) (now : Nat) :
    ∃ profile : Profile, profile.address = some address ∧
      (∃ m, profile.last = some (.message m, now)) ∧
        (f.update rules now (.message (.record (s.recordMessage address).resent))).state.core =
          ⟨s.kind, profile, f.direction, s.motion.recorded⟩ := by
  have hcore : (applyConsist s.kind (s.toRecord.resent s.kind)
      (f.applyRecordFields (s.recordMessage address).resent (s.toRecord.resent s.kind))).core = _ :=
    (core_applyConsist _ _ _).trans (core_applyRecordFields_resent (r := s.toRecord) rfl hfresh)
  rw [recordMotion_toRecord hsteady, hkind] at hcore
  rw [update_recordMessage hlow hkind hbound, core_record, hcore]
  exact ⟨(f.profile.bindNames _ _).record (.message (.record (s.recordMessage address).resent)) now, hbound,
    ⟨_, rfl⟩, rfl⟩

/-! ## The whole script -/

/-- A script at an address of two digits: the record, and the commands that the state is held by. -/
theorem script_of_bound {s : MotiveState} {address : UInt16} (hbound : s.profile.address = some address) :
    s.script = (s.recordUpdates address ++ s.fourDigitUpdates address) ++
      s.heldOps.map fun op => .command (holding s.generation s.kind address op) := by
  rw [script, hbound]
  rfl

theorem fourDigitUpdates_eq_nil (s : MotiveState) {address : UInt16} (hlow : address ≤ 99) :
    s.fourDigitUpdates address = [] := by
  unfold fourDigitUpdates
  split
  · exact if_neg (UInt16.not_lt.mpr hlow)
  · rfl

theorem script_eq {s : MotiveState} {address : UInt16} (hbound : s.profile.address = some address)
    (hlow : address ≤ 99) :
    s.script = s.recordUpdates address ++
      s.heldOps.map fun op => .command (holding s.generation s.kind address op) := by
  rw [script_of_bound hbound, fourDigitUpdates_eq_nil s hlow, List.append_nil]

theorem sendable_script {s : MotiveState} {address : UInt16} (hbound : s.profile.address = some address)
    (hlow : address ≤ 99) : ∀ u ∈ s.script, u.Sendable := by
  intro u hu
  rw [script_eq hbound hlow, recordUpdates_eq s hlow] at hu
  rcases List.mem_append.mp hu with hu | hu
  · split at hu
    · rw [List.mem_singleton.mp hu]
      exact Update.sendable_record _
    · exact absurd hu List.not_mem_nil
  · obtain ⟨op, -, rfl⟩ := List.mem_map.mp hu
    trivial

theorem motion_of_not_hasRecordFields {s : MotiveState} (h : ¬s.hasRecordFields = true) :
    s.motion = ⟨none, none, none, none, none⟩ := by
  simp only [hasRecordFields, Bool.or_eq_true, not_or, Bool.not_eq_true, Option.isSome_eq_false_iff,
    Option.isNone_iff_eq_none] at h
  simp only [motion, h]

theorem run_recordUpdates {s : MotiveState} (hsteady : Steady s) {address : UInt16} (hlow : address ≤ 99)
    (rules : Rules) {timed : List (Nat × Update)}
    (htimed : timed.map Prod.snd = (s.recordUpdates address).map Update.resent) :
    ∃ profile : Profile, profile.address = some address ∧ (∀ c now, profile.last ≠ some (.command c, now)) ∧
      ((fresh s.kind (.fresh (some address))).run rules timed).core =
        ⟨s.kind, profile, none, s.motion.recorded⟩ := by
  rw [recordUpdates_eq s hlow] at htimed
  by_cases hfields : s.hasRecordFields = true
  · rw [if_pos hfields, List.map_singleton] at htimed
    obtain ⟨⟨now, u⟩, rfl, hu⟩ := List.map_eq_singleton_iff.mp htimed
    obtain ⟨profile, hbound, ⟨m, hlast⟩, hcore⟩ :=
      core_update_record (f := fresh s.kind (.fresh (some address))) hsteady hlow rfl rfl rfl rules now
    refine ⟨profile, hbound, fun c later hc => ?_, ?_⟩
    · rw [hlast] at hc
      cases hc
    · rw [show u = Update.message (.record (s.recordMessage address).resent) from hu]
      exact hcore
  · rw [if_neg hfields, List.map_nil, List.map_eq_nil_iff] at htimed
    refine ⟨.fresh (some address), rfl, (fun c now hc => by cases hc), ?_⟩
    rw [htimed, motion_of_not_hasRecordFields hfields]
    rfl

theorem motion_run_script {kind : MotiveKind} {s : MotiveState} (hcoherent : Coherent kind s) (hsteady : Steady s)
    {address : UInt16} (hbound : s.profile.address = some address) (hlow : address ≤ 99) (settings : Settings)
    {timed : List (Nat × Update)} (htimed : timed.map Prod.snd = s.script.map Update.resent) :
    ((fresh kind (.fresh (some address))).run ⟨.stock, settings⟩ timed).motion =
      s.motion.recorded.pulled s.heldPull := by
  rw [script_eq hbound hlow, List.map_append, List.map_map] at htimed
  obtain ⟨first, rest, rfl, hfirst, hrest⟩ := List.map_eq_append_iff.mp htimed
  obtain ⟨profile, hsame, hlast, hcore⟩ :=
    run_recordUpdates hsteady hlow ⟨.stock, settings⟩ hfirst
  rw [hcoherent.kind_eq] at hcore
  rw [run_append]
  generalize (fresh kind (.fresh (some address))).run ⟨.stock, settings⟩ first = f at hcore ⊢
  have hprofile : f.profile = profile := congrArg Core.profile hcore
  have hdirection : f.direction = none := congrArg Core.direction hcore
  have hmotion : f.motion = s.motion.recorded := congrArg Core.motion hcore
  have hready : ∀ op ∈ s.heldOps, Ready f (holding s.generation kind address) op := fun op _ =>
    ready_of_fresh (hprofile ▸ hlast) hdirection _ op
  have hheld := motion_run_held settings (hcoherent.kind_eq ▸ hrest) (congrArg Core.kind hcore) (hprofile ▸ hsame)
    (fun op hop => isSome_slot?_of_mem_heldOps hcoherent hop) (pairwise_heldOps hcoherent) hready
  rw [hheld, hmotion, foldl_heldOps hcoherent]

theorem refused_of_encode_eq_error {σ : Type} {codec : Codec σ} {s : MotiveState} {address : UInt16}
    (hbound : s.profile.address = some address) (hlow : address ≤ 99) {memory memory' : σ} {e : Error}
    (h : ((Component.motive s).encode codec).run memory = (.error e, memory')) :
    ∃ op ∈ s.heldOps, ∃ m, (codec.encode (holding s.generation s.kind address op) m).1 = .error e := by
  obtain ⟨c, hc, hrefused⟩ := Update.encodeAll_eq_error h
  rw [Component.script, script_eq hbound hlow, recordUpdates_eq s hlow] at hc
  rcases List.mem_append.mp hc with hrecord | hheld
  · split at hrecord
    · cases List.mem_singleton.mp hrecord
    · exact absurd hrecord List.not_mem_nil
  · obtain ⟨op, hop, heq⟩ := List.mem_map.mp hheld
    cases heq
    exact ⟨op, hop, hrefused⟩

/-- Take any engine or train at an address of two digits, after any commands in range and any messages. It has bytes
unless the codec refuses one of the commands that it is held by. Its bytes are read back, and whatever the times and
windows, a fresh engine or train that is told what was read has the motion of the original one as a record holds it,
but pulled by the commands that the original one was held by. So the motion is restored exactly if that leaves it
undisturbed. -/
theorem replayed_motion {σ : Type} {codec : Codec σ} (hcodec : codec.Inverts) {kind : MotiveKind}
    {start : Option UInt16} {settings : Settings} {history : List (Nat × Update)}
    (hrange : ∀ u ∈ history, u.2.inRange = true) {s : MotiveState}
    (hs : (fresh kind (.fresh start)).run ⟨.stock, settings⟩ history = s) {address : UInt16}
    (hbound : s.profile.address = some address) (hlow : address ≤ 99) (memory : σ) :
    (∀ e memory', ((Component.motive s).encode codec).run memory = (.error e, memory') →
      ∃ op ∈ s.heldOps, ∃ m, (codec.encode (holding s.generation s.kind address op) m).1 = .error e) ∧
    ∀ bytes memory', ((Component.motive s).encode codec).run memory = (.ok bytes, memory') →
      ∃ updates, Update.decodeAll codec memory' bytes = .ok updates ∧
        ∀ (windows : Settings) (timed : List (Nat × Update)), timed.map Prod.snd = updates →
          let replayed := (fresh kind (.fresh (some address))).run ⟨.stock, windows⟩ timed
          replayed.motion = s.motion.recorded.pulled s.heldPull ∧
            (replayed.motion.Restores s.motion ↔ s.motion.Undisturbed s.heldPull) := by
  have hcoherent : Coherent kind s := hs ▸ coherent_run _ kind (.fresh start) history
  have hsteady : Steady s := hs ▸ steady_run settings kind (.fresh start) hrange
  refine ⟨fun e memory' herror => refused_of_encode_eq_error hbound hlow herror, fun bytes memory' hbytes => ?_⟩
  refine ⟨s.script.map Update.resent,
    Update.decodeAll_encodeAll hcodec (sendable_script hbound hlow) hbytes, fun windows timed htimed => ?_⟩
  have hmotion := motion_run_script hcoherent hsteady hbound hlow windows htimed
  refine ⟨hmotion, ?_⟩
  rw [hmotion]
  exact Motion.restores_iff s.motion s.heldPull

/-- A Legacy engine that runs forward at a speed of 79 is rebuilt at rest. -/
theorem replayed_motion_forward :
    let told : List (Nat × Update) :=
      [(0, .command ⟨.engine .legacy .forwardDirection, 12, none, .engine⟩),
       (0, .command ⟨.engine .legacy .absoluteSpeed, 12, some 79, .engine⟩)]
    let s := (fresh .engine (.fresh (some 12))).run ⟨.stock, .standard⟩ told
    (∀ u ∈ told, u.2.inRange = true) ∧ s.profile.address = some 12 ∧ s.speed = some 79 ∧
      ∃ bytes memory updates,
        ((Component.motive s).encode CommandTable.codec).run [] = (.ok bytes, memory) ∧
          Update.decodeAll CommandTable.codec memory bytes = .ok updates ∧
            ∀ (windows : Settings) (timed : List (Nat × Update)), timed.map Prod.snd = updates →
              ((fresh .engine (.fresh (some 12))).run ⟨.stock, windows⟩ timed).speed = some 0 := by
  intro told s
  have hrange : ∀ u ∈ told, u.2.inRange = true := by decide
  have hbound : s.profile.address = some 12 := by decide +kernel
  have hspeed : s.speed = some 79 := by decide +kernel
  have hpull : s.heldPull = .rest := by decide +kernel
  have hspelled : (((Component.motive s).encode CommandTable.codec).run []).1.isOk = true := by decide +kernel
  rcases hbytes : ((Component.motive s).encode CommandTable.codec).run [] with ⟨_ | bytes, memory⟩
  · rw [hbytes] at hspelled
    cases hspelled
  · obtain ⟨-, hread⟩ := replayed_motion CommandTable.codec_inverts hrange rfl hbound (by decide) []
    obtain ⟨updates, hread, hreplayed⟩ := hread bytes memory hbytes
    refine ⟨hrange, hbound, hspeed, bytes, memory, updates, rfl, hread, fun windows timed htimed => ?_⟩
    obtain ⟨hmotion, -⟩ := hreplayed windows timed htimed
    rw [hpull] at hmotion
    exact congrArg Motion.speed hmotion

end MotiveState
end RailLayout
