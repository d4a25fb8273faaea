import RailLayout.Proofs.Memory.Parts
import RailLayout.Proofs.Record.Layout
import RailLayout.Proofs.State.Believed

/-!
The fields of an engine or a train that reach it in two ways: in a record of the Base, if they are marked as valid, and
in a part of the memory that holds them whole. Each way has a layout, a decoder and rules of its own for taking over a
value. They agree for every field of one byte (`SharedField.InRecord.applyRecord`,
`SharedField.InMemory.applyMemory`), as far as the record of a train says nothing new of its members, which no bit
marks. They agree for the members too, except that a record without members leaves those that the train has, and the
memory takes them away (`Component.told_alike_iff`).
-/

namespace RailLayout

/-- The fields that the record of an engine or a train and its memory both hold. The members of a train go with the
flags before them. -/
inductive SharedField where
  | locoType
  | controlType
  | soundType
  | classType
  | speed
  | speedLimit
  | maxSpeed
  | smoke
  | trainBrake
  | momentum
  | consist
  deriving DecidableEq

namespace MotiveState

/-- Whether what was found of the members of a train is nothing, or what is held of them. -/
def Repeats (found : Option UInt8 × List ConsistMember) (s : MotiveState) : Prop :=
  (found.1 = none ∨ found.1 = s.consistFlags) ∧ (found.2 = [] ∨ found.2 = s.consist)

theorem repeats_none (s : MotiveState) : Repeats (none, []) s := ⟨Or.inl rfl, Or.inl rfl⟩

theorem applyConsist_eq (kind : MotiveKind) (r : MotiveRecord) (s : MotiveState) :
    s.applyConsist kind r =
      { s with consistFlags := (s.applyConsist kind r).consistFlags, consist := (s.applyConsist kind r).consist } := by
  cases kind <;> rfl

/-- A record leaves what is held of the members if it repeats that, as far as it says anything. -/
theorem applyConsist_eq_iff {bytes : List UInt8} {kind : MotiveKind} {r : MotiveRecord}
    (h : (r.consistFlags, r.consist) = MotiveRecord.consistIn bytes kind) (s : MotiveState) :
    (s.applyConsist kind r).consistFlags = s.consistFlags ∧ (s.applyConsist kind r).consist = s.consist ↔
      Repeats (MotiveRecord.consistIn bytes kind) s := by
  cases kind with
  | engine => exact iff_of_true ⟨rfl, rfl⟩ s.repeats_none
  | train =>
      rw [← h, Repeats, applyConsist]
      refine and_congr ?_ ?_
      · cases r.consistFlags with
        | none => exact iff_of_true rfl (Or.inl rfl)
        | some flags => exact (or_iff_right (Option.some_ne_none flags)).symm
      · cases r.consist with
        | nil => exact iff_of_true rfl (Or.inl rfl)
        | cons member rest => exact (or_iff_right (List.cons_ne_nil member rest)).symm

end MotiveState

namespace SharedField

/-- The field of a record; the members of a train have no validity bit. -/
def bit? : SharedField → Option RecordField
  | locoType => some .locoType
  | controlType => some .controlType
  | soundType => some .soundType
  | classType => some .classType
  | speed => some .speed
  | speedLimit => some .speedLimit
  | maxSpeed => some .maxSpeed
  | smoke => some .smokeLevel
  | trainBrake => some .trainBrake
  | momentum => some .momentum
  | consist => none

/-- How many bytes stand before the field in a record. -/
def place : SharedField → Nat
  | locoType => 40
  | controlType => 41
  | soundType => 42
  | classType => 43
  | speed => 47
  | speedLimit => 50
  | maxSpeed => 51
  | smoke => 56
  | trainBrake => 58
  | momentum => 59
  | consist => 60

/-- The first byte of the field, from a record. -/
def byte? (r : MotiveRecord) : SharedField → Option UInt8
  | locoType => r.locoType
  | controlType => r.controlType
  | soundType => r.soundType
  | classType => r.classType
  | speed => r.speed
  | speedLimit => r.speedLimit
  | maxSpeed => r.maxSpeed
  | smoke => r.smoke
  | trainBrake => r.trainBrake
  | momentum => r.momentum
  | consist => r.consistFlags

/-- The field of the memory that the first byte is. -/
def cell : SharedField → MemoryField
  | locoType => .engineType
  | controlType => .controlType
  | soundType => .soundType
  | classType => .engineClass
  | speed => .speed
  | speedLimit => .speedLimit
  | maxSpeed => .maxSpeed
  | smoke => .smoke
  | trainBrake => .trainBrake
  | momentum => .momentum
  | consist => .consistFlags

/-- The fields of the memory that it takes, by offset. -/
def cells (field : SharedField) : List MemoryField :=
  field.cell :: if field = consist then [.consistComps] else []

def width (field : SharedField) : Nat := if field = consist then 33 else 1

/-- What the fields of the memory hold if the bytes are these. -/
def values (field : SharedField) (raw : List UInt8) : List (MemoryField × MemoryValue) :=
  (field.cell, .byte (raw.headD 0)) ::
    if field = consist then [(.consistComps, .consist (Consist.read raw.tail))] else []

variable {field : SharedField} {kind : MotiveKind} {raw : List UInt8} {b : UInt8}

theorem byte?_of_read {r last : Reader} {m : MotiveRecord} (h : MotiveRecord.read kind r = .ok (m, last))
    (hfield : field ≠ consist) : byte? m field = r.rest[field.place]? := by
  have hplace := congrArg (fun bytes => bytes[field.place - 40]?) (MotiveRecord.layout_of_read h).1
  cases field
  case consist => exact absurd rfl hfield
  all_goals exact Option.some.inj hplace

theorem decode_cell (field : SharedField) (b : UInt8) : field.cell.decode [b] = .ok (.byte b) := by
  cases field <;> rfl

theorem decode_members (h : raw.length = MemoryField.consistComps.size) :
    MemoryField.consistComps.decode raw = .ok (.consist (Consist.read raw)) := by
  rw [MemoryField.decode, if_neg (not_not.mpr h)]

theorem consist_foldl_values (hfield : field ≠ consist) (raw : List UInt8) (s : MotiveState) :
    ((field.values raw).foldl MotiveState.applyMemoryField s).consistFlags = s.consistFlags ∧
      ((field.values raw).foldl MotiveState.applyMemoryField s).consist = s.consist := by
  cases field
  case consist => exact absurd rfl hfield
  all_goals exact ⟨rfl, rfl⟩

/-! ## From a record -/

section Fields

variable {m : RecordMessage} {valid : UInt32} {r : MotiveRecord} (hcontents : m.contents = .motive kind valid r)
include hcontents

theorem names_of_unmarked (hname : m.has .roadName = false) (hnumber : m.has .roadNumber = false) :
    m.name? = none ∧ m.number? = none := by
  rw [RecordMessage.name?, RecordMessage.number?, hcontents]
  simp only [hname, hnumber]
  exact ⟨rfl, rfl⟩

/-- A record that marks nothing changes nothing. -/
theorem applyRecordFields_of_unmarked (hclear : ∀ other, m.has other = false) (s : MotiveState) :
    s.applyRecordFields m r = s := by
  obtain ⟨hname, hnumber⟩ := names_of_unmarked hcontents (hclear _) (hclear _)
  unfold MotiveState.applyRecordFields
  simp only [hclear, hname, hnumber]
  rfl

/-- A record that marks one field is taken as the byte of the memory is. -/
theorem applyRecordFields_of_marked (hvalid : ∀ other, m.has other = true ↔ field.bit? = some other)
    (hfield : field ≠ consist) (hbyte : byte? r field = some b) (s : MotiveState) :
    s.applyRecordFields m r = s.applyMemoryField (field.cell, .byte b) := by
  have hhas : ∀ other, m.has other = decide (field.bit? = some other) := by
    intro other
    rw [Bool.eq_iff_iff, hvalid, decide_eq_true_eq]
  obtain ⟨hname, hnumber⟩ := names_of_unmarked hcontents
    ((hhas _).trans (by cases field <;> rfl)) ((hhas _).trans (by cases field <;> rfl))
  unfold MotiveState.applyRecordFields
  simp only [hhas, hname, hnumber]
  cases field
  case consist => exact absurd rfl hfield
  all_goals
    simp only [byte?] at hbyte
    simp only [hbyte, bit?]
    rfl

end Fields

/-- Whether a frame holds a record in use that was read without fault, of which a field is all that is valid, with
these bytes. -/
structure InRecord (kind : MotiveKind) (field : SharedField) (raw : List UInt8) (frame : Frame) (m : RecordMessage) :
    Prop where
  read : RecordMessage.ofFrame frame = .ok m
  describes : m.kind = .motive kind
  status : m.status = 0
  active : m.isActive = true
  valid (other : RecordField) : m.has other = true ↔ field.bit? = some other
  width : raw.length = field.width
  bytes : (frame.payload.drop (8 + field.place)).take field.width = raw
  isTrain (hfield : field = consist) : kind = .train

theorem head?_of_take {bytes : List UInt8} {n : Nat} (h : bytes.take n = raw) (hraw : raw ≠ []) :
    bytes.head? = some (raw.headD 0) := by
  subst h
  cases n with
  | zero => exact absurd List.take_zero hraw
  | succ n =>
      cases bytes with
      | nil => exact absurd List.take_nil hraw
      | cons b rest => rfl

theorem tail_of_take {bytes : List UInt8} {n : Nat} (h : bytes.take (n + 1) = raw) : bytes.tail.take n = raw.tail := by
  subst h
  cases bytes <;> cases n <;> rfl

namespace InRecord

variable {frame : Frame} {m : RecordMessage} (h : InRecord kind field raw frame m)
include h

theorem raw_ne_nil : raw ≠ [] := by
  have hwidth := h.width
  rintro rfl
  cases field <;> cases hwidth

theorem motive : ∃ valid r last, m.contents = .motive kind valid r ∧
    MotiveRecord.read kind ⟨8, frame.payload.drop 8⟩ = .ok (r, last) := by
  refine RecordMessage.motive_of_ofFrame h.read h.describes ?_
  have hlength := h.width
  have hwidth : 0 < field.width := by cases field <;> decide
  rw [← h.bytes, List.length_take, List.length_drop] at hlength
  omega

theorem head : (frame.payload.drop 8)[field.place]? = some (raw.headD 0) := by
  rw [List.getElem?_drop, ← List.head?_drop]
  exact head?_of_take h.bytes h.raw_ne_nil

theorem live : ¬(m.status ≠ 0 ∨ m.isActive = false) :=
  not_or.mpr ⟨not_not.mpr h.status, Bool.not_eq_false _ ▸ h.active⟩

theorem applyRecord (hfield : field ≠ consist) : ∃ r : MotiveRecord,
    (r.consistFlags, r.consist) = MotiveRecord.consistIn (frame.payload.drop 8) kind ∧
      ∀ s : MotiveState, s.applyRecord m =
        (((field.values raw).foldl MotiveState.applyMemoryField s).applyConsist kind r, true) := by
  obtain ⟨valid, r, last, hcontents, hread⟩ := h.motive
  have hbyte : byte? r field = some (raw.headD 0) := (byte?_of_read hread hfield).trans h.head
  refine ⟨r, (MotiveRecord.layout_of_read hread).2, fun s => ?_⟩
  rw [MotiveState.applyRecord, if_neg h.live, hcontents]
  dsimp only
  rw [applyRecordFields_of_marked hcontents h.valid hfield hbyte, values, if_neg hfield]
  rfl

end InRecord

/-- What a train takes over from its members in a record: no members leave those that it has. -/
def joined (raw : List UInt8) (s : MotiveState) : MotiveState :=
  let members := Consist.read raw.tail
  { s with
    consistFlags := some (raw.headD 0)
    consist := if members.isEmpty then s.consist else members }

theorem InRecord.applyRecord_consist {frame : Frame} {m : RecordMessage} (h : InRecord kind consist raw frame m)
    (s : MotiveState) : s.applyRecord m = (joined raw s, true) := by
  obtain ⟨valid, r, last, hcontents, hread⟩ := h.motive
  cases h.isTrain rfl
  obtain ⟨hflags, hmembers⟩ := Prod.mk.inj (MotiveRecord.layout_of_read hread).2
  have hhead : r.consistFlags = some (raw.headD 0) := hflags.trans h.head
  have htail : Consist.read raw.tail = r.consist := by
    rw [hmembers, ← tail_of_take h.bytes, List.tail_drop, List.drop_drop]
    exact Consist.readSlots_take Consist.slots _
  have hclear : ∀ other, m.has other = false := fun other =>
    Bool.eq_false_iff.mpr fun hhas => nomatch (h.valid other).mp hhas
  rw [MotiveState.applyRecord, if_neg h.live, hcontents]
  dsimp only
  rw [applyRecordFields_of_unmarked hcontents hclear, MotiveState.applyConsist, hhead, ← htail]
  rfl

/-! ## From the memory -/

/-- Whether a part of the memory holds a field, whole and alone, with these bytes. -/
structure InMemory (kind : MotiveKind) (field : SharedField) (raw : List UInt8) (m : MemoryMessage) : Prop where
  scope : m.scope = some kind.scope
  covers : m.fields.map Prod.fst = field.cells
  bytes : (m.data.drop (field.cell.offset.toNat - m.start.toNat)).take field.width = raw

theorem InMemory.fields_eq {m : MemoryMessage} (h : InMemory kind field raw m) (hwidth : raw.length = field.width) :
    m.fields = field.values raw := by
  have hraw : raw ≠ [] := by
    rintro rfl
    cases field <;> cases hwidth
  obtain ⟨⟨cell, value⟩, rest, hfields, hcell, hrest⟩ := List.map_eq_cons_iff.mp h.covers
  obtain rfl : cell = field.cell := hcell
  have hfirst : (field.cell, value) ∈ m.fields := hfields ▸ List.mem_cons_self
  obtain ⟨hstart, hdecode⟩ := MemoryMessage.of_mem_fields hfirst
  have hsize : field.cell.size = 1 := by cases field <;> rfl
  have hvalue : value = .byte (raw.headD 0) := by
    dsimp only at hdecode
    rw [hsize, List.take_one, head?_of_take h.bytes hraw, Option.toList_some, decode_cell] at hdecode
    exact (Except.ok.inj hdecode).symm
  by_cases hfield : field = consist
  · subst hfield
    obtain ⟨⟨cell', value'⟩, rest', hfields', hcell', hrest'⟩ := List.map_eq_cons_iff.mp hrest
    cases hcell'
    cases List.map_eq_nil_iff.mp hrest'
    have hmem : (MemoryField.consistComps, value') ∈ m.fields := by
      rw [hfields, hfields']
      exact List.mem_cons_of_mem _ List.mem_cons_self
    obtain ⟨-, hdecode'⟩ := MemoryMessage.of_mem_fields hmem
    have hnext : MemoryField.consistComps.offset.toNat - m.start.toNat =
        (cell consist).offset.toNat - m.start.toNat + 1 := Nat.succ_sub hstart
    have hlength : raw.tail.length = MemoryField.consistComps.size := by rw [List.length_tail, hwidth]; rfl
    have hbytes : (m.data.drop ((cell consist).offset.toNat - m.start.toNat)).tail.take MemoryField.consistComps.size =
        raw.tail := tail_of_take h.bytes
    have hvalue' : value' = .consist (Consist.read raw.tail) := by
      dsimp only at hdecode'
      rw [hnext, ← List.tail_drop, hbytes, decode_members hlength] at hdecode'
      exact (Except.ok.inj hdecode').symm
    rw [hfields, hfields', hvalue, hvalue']
    rfl
  · rw [if_neg hfield, List.map_eq_nil_iff] at hrest
    rw [hfields, hrest, hvalue, values, if_neg hfield]

theorem InMemory.applyMemory {m : MemoryMessage} (h : InMemory kind field raw m) (hwidth : raw.length = field.width)
    (s : MotiveState) : s.applyMemory m = ((field.values raw).foldl MotiveState.applyMemoryField s, true) := by
  rw [MotiveState.applyMemory, h.fields_eq hwidth]
  rfl

/-! ## Side by side -/

theorem target?_eq {frame : Frame} {m : RecordMessage} {n : MemoryMessage} (hrecord : InRecord kind field raw frame m)
    (hmemory : InMemory kind field raw n) (hno : n.recordNo = m.recordNo) :
    (Update.message (.memory n)).target? = (Update.message (.record m)).target? := by
  have haddress : m.address = m.recordNo.toUInt16 := by rw [RecordMessage.address, hrecord.describes]
  have hscope : m.scope = kind.scope := by rw [RecordMessage.scope, hrecord.describes, RecordKind.scope]
  have htarget : (Update.message (.record m)).target? = some (m.scope, m.address) := rfl
  rw [htarget, hscope, haddress, ← hno, Update.target?_memory, hmemory.scope]
  rfl

/-- The memory puts the members that it holds in place of those that a train has. -/
theorem foldl_consist (raw : List UInt8) (s : MotiveState) :
    (consist.values raw).foldl MotiveState.applyMemoryField s =
      { joined raw s with consist := Consist.read raw.tail } := rfl

/-- A record does so too, unless it holds no members and the train has some. -/
theorem consist_joined_iff (raw : List UInt8) (s : MotiveState) :
    (joined raw s).consist = Consist.read raw.tail ↔ ¬(Consist.read raw.tail = [] ∧ s.consist ≠ []) := by
  rw [joined]
  cases Consist.read raw.tail with
  | nil => rw [and_iff_right rfl, not_not, List.isEmpty_nil, if_pos rfl]
  | cons member rest => exact iff_of_true rfl fun hnot => nomatch hnot.1

end SharedField

namespace Component

open SharedField

/-- What is believed after a report that was taken: being the last that was told is no part of it. -/
theorem believed_update_of_report {rules : Rules} {now : Nat} {m : Message} {s told : MotiveState} {q : Profile}
    (haccept : s.profile.accept s.kind.scope (.message m) = .ok q)
    (hreport : MotiveState.applyReport m { s with profile := q } = (told, true)) :
    ((motive s).update rules now (.message m)).state.believed = (motive told).believed := by
  rw [update, MotiveState.update_message haccept, MotiveState.applyMessage, hreport]
  rfl

theorem consist_of_believed_eq {s t : MotiveState} (h : (motive s).believed = (motive t).believed) :
    s.consistFlags = t.consistFlags ∧ s.consist = t.consist := by
  have hflags := congrArg MotiveState.consistFlags (motive.inj h)
  have hmembers := congrArg MotiveState.consist (motive.inj h)
  exact ⟨hflags, hmembers⟩

/-- Take any engine or train, a record of which one field is all that is valid, and a part of the memory that holds this
field alone, both for the same number and with the same bytes. Refused, neither changes what is believed. Accepted, they
leave the same belief of a field of one byte, unless the record is a train's and says of the members, which no bit
marks, what is not held; and of the members, unless all slots are empty and the train has some: the record leaves them,
and the memory takes them away. -/
theorem told_alike_iff {kind : MotiveKind} {field : SharedField} {raw : List UInt8} {frame : Frame}
    {m : RecordMessage} {n : MemoryMessage} (hrecord : InRecord kind field raw frame m)
    (hmemory : InMemory kind field raw n) (hno : n.recordNo = m.recordNo) (rules : Rules) (now now' : Nat)
    (s : MotiveState) :
    ((motive s).update rules now (.message (.record m))).state.believed =
        ((motive s).update rules now' (.message (.memory n))).state.believed ↔
      ((s.profile.accept s.kind.scope (.message (.record m))).isOk = true →
        if field = .consist then ¬(Consist.read raw.tail = [] ∧ s.consist ≠ [])
        else s.Repeats (MotiveRecord.consistIn (frame.payload.drop 8) kind)) := by
  have hsame : s.profile.accept s.kind.scope (.message (.memory n)) =
      s.profile.accept s.kind.scope (.message (.record m)) :=
    Profile.accept_congr (target?_eq hrecord hmemory hno) rfl
  cases haccept : s.profile.accept s.kind.scope (.message (.record m)) with
  | error e =>
      rw [update_of_refused (c := motive s) haccept, update_of_refused (c := motive s) (hsame.trans haccept)]
      exact iff_of_true rfl fun hok => nomatch hok
  | ok q =>
      refine Iff.trans ?_ (imp_iff_right rfl).symm
      rw [believed_update_of_report (hsame.trans haccept) (hmemory.applyMemory hrecord.width _)]
      by_cases hfield : field = .consist
      · subst hfield
        rw [believed_update_of_report haccept (hrecord.applyRecord_consist _), foldl_consist, if_pos rfl]
        refine Iff.trans ?_ (consist_joined_iff raw { s with profile := q })
        refine ⟨fun hbelieved => (consist_of_believed_eq hbelieved).2, fun hkept => ?_⟩
        rw [← hkept]
      · obtain ⟨r, hconsist, hrecords⟩ := hrecord.applyRecord hfield
        rw [believed_update_of_report haccept (hrecords _), if_neg hfield]
        obtain ⟨hflags, hmembers⟩ := consist_foldl_values hfield raw { s with profile := q }
        generalize (field.values raw).foldl MotiveState.applyMemoryField { s with profile := q } = told at *
        have hrepeats : told.Repeats (MotiveRecord.consistIn (frame.payload.drop 8) kind) ↔
            s.Repeats (MotiveRecord.consistIn (frame.payload.drop 8) kind) := by
          rw [MotiveState.Repeats, hflags, hmembers]
          rfl
        rw [← hrepeats, ← MotiveState.applyConsist_eq_iff hconsist]
        refine ⟨consist_of_believed_eq, ?_⟩
        rintro ⟨hflags, hmembers⟩
        rw [MotiveState.applyConsist_eq, hflags, hmembers]

/-- An engine is told by its record, or by its memory, that it runs at speed 30. -/
theorem told_alike_iff_speed :
    let r : MotiveRecord := ({ MotiveRecord.unknown with speed := some 30 } : MotiveRecord).resent .engine
    let m : RecordMessage := ⟨7, RecordMessage.writeFlags, 0, 0, .motive .engine RecordField.speed.mask r⟩
    let n : MemoryMessage := ⟨7, MemoryMessage.writeFlags, 0, some .engine, 7, MemoryMessage.permanentPort, 1, [30]⟩
    let s : MotiveState := { MotiveState.fresh .engine (.fresh (some 7)) with speed := some 5 }
    let rules : Rules := ⟨.stock, .standard⟩
    InRecord .engine .speed [30] m.toFrame m ∧ InMemory .engine .speed [30] n ∧ n.recordNo = m.recordNo ∧
      (s.update rules 0 (.message (.record m))).state.speed = some 30 ∧
        ((motive s).update rules 0 (.message (.record m))).state.believed =
          ((motive s).update rules 9 (.message (.memory n))).state.believed := by
  intro r m n s rules
  have hrecord : InRecord .engine .speed [30] m.toFrame m :=
    { read := by decide +kernel
      describes := rfl
      status := rfl
      active := by decide +kernel
      valid := fun other => by cases other <;> decide
      width := rfl
      bytes := by decide +kernel
      isTrain := fun hfield => nomatch hfield }
  have hmemory : InMemory .engine .speed [30] n := ⟨rfl, by decide +kernel, rfl⟩
  refine ⟨hrecord, hmemory, rfl, by decide +kernel, ?_⟩
  exact (told_alike_iff hrecord hmemory rfl rules 0 9 s).mpr fun _ => s.repeats_none

/-- A train with one member is told that all its slots are empty: told by its record it keeps the member, told by its
memory it has none. -/
theorem told_apart :
    let raw : List UInt8 := 1 :: List.replicate 32 0xFF
    let r : MotiveRecord := ({ MotiveRecord.unknown with consistFlags := some 1 } : MotiveRecord).resent .train
    let m : RecordMessage := ⟨7, RecordMessage.writeFlags, 0, 0, .motive .train 0 r⟩
    let n : MemoryMessage := ⟨7, MemoryMessage.writeFlags, 0, some .train, 0x6F, MemoryMessage.permanentPort, 33, raw⟩
    let s : MotiveState := { MotiveState.fresh .train (.fresh (some 7)) with consist := [⟨12, 0⟩] }
    let rules : Rules := ⟨.stock, .standard⟩
    InRecord .train .consist raw m.toFrame m ∧ InMemory .train .consist raw n ∧ n.recordNo = m.recordNo ∧
      (s.update rules 0 (.message (.record m))).state.consist = [⟨12, 0⟩] ∧
        (s.update rules 0 (.message (.memory n))).state.consist = [] ∧
          ((motive s).update rules 0 (.message (.record m))).state.believed ≠
            ((motive s).update rules 0 (.message (.memory n))).state.believed := by
  intro raw r m n s rules
  have hrecord : InRecord .train .consist raw m.toFrame m :=
    { read := by decide +kernel
      describes := rfl
      status := rfl
      active := by decide +kernel
      valid := fun other => by cases other <;> decide
      width := rfl
      bytes := by decide +kernel
      isTrain := fun _ => rfl }
  have hmemory : InMemory .train .consist raw n := ⟨rfl, by decide +kernel, by decide +kernel⟩
  have hkept : (s.update rules 0 (.message (.record m))).state.consist = [⟨12, 0⟩] := by decide +kernel
  have hlost : (s.update rules 0 (.message (.memory n))).state.consist = [] := by decide +kernel
  refine ⟨hrecord, hmemory, rfl, hkept, hlost, fun hsame => ?_⟩
  exact absurd (hkept.symm.trans ((consist_of_believed_eq hsame).2.trans hlost)) (by decide)

end Component
end RailLayout
