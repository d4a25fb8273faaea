import RailLayout.Proofs.FourDigit
import RailLayout.Proofs.Memory.Parts
import RailLayout.Proofs.Message.Single
import RailLayout.Proofs.Record.Lists

/-!
A field of a memory record that is written. Each layout fills the width of its field, but for the number of a
four-digit record, which takes as many bytes as it has digits: with five it overruns its field (`Overruns`). The
message that writes a value is read as that one field exactly if the value does not overrun it
(`MemoryMessage.writeField_reads`).
-/

namespace RailLayout

namespace MemoryValue

/-- The value that is read from a field to which a value was written. -/
def resent (field : MemoryField) : MemoryValue → MemoryValue
  | text t => text (TextField.resent field.size t)
  | consist members => consist (Consist.read (Consist.write Consist.slots members))
  | value => value

end MemoryValue

namespace MemoryField

/-- Whether a value takes more bytes than its field has: a number of five digits does, where four are written. -/
def Overruns (field : MemoryField) (value : MemoryValue) : Prop :=
  field = .tmccId ∧ ∃ id : UInt16, value = .word id ∧ 10000 ≤ id.toNat

instance (field : MemoryField) (value : MemoryValue) : Decidable (field.Overruns value) :=
  match value with
  | .word id => decidable_of_iff (field = .tmccId ∧ 10000 ≤ id.toNat) (by simp [Overruns])
  | .byte _ => isFalse (by simp [Overruns])
  | .long _ => isFalse (by simp [Overruns])
  | .text _ => isFalse (by simp [Overruns])
  | .consist _ => isFalse (by simp [Overruns])

/-- What a value of a field is written as, one case for each layout. -/
inductive Encoded : MemoryField → MemoryValue → List UInt8 → Prop
  | digits (id : UInt16) : Encoded .tmccId (.word id) (fourDigits id)
  | word (w : UInt16) : Encoded .btId (.word w) (Payload.le16 w)
  | long (n : UInt32) : Encoded .timestamp (.long n) (Payload.le32 n)
  | text {field : MemoryField} (hfield : field = .roadName ∨ field = .roadNumber) (t : String) :
      Encoded field (.text t) (TextField.write field.size t)
  | consist (members : List ConsistMember) :
      Encoded .consistComps (.consist members) (Consist.write Consist.slots members)
  | byte {field : MemoryField} (hsize : field.size = 1) (b : UInt8) : Encoded field (.byte b) [b]

variable {scope : Scope} {field other : MemoryField} {value : MemoryValue} {bytes raw : List UInt8}

theorem encoded_of_encode (h : field.encode value = .ok bytes) : Encoded field value bytes := by
  cases value with
  | byte b =>
      have hsize : field.size = 1 := by
        cases field <;> first | rfl | cases h
      have hbytes : field.encode (.byte b) = .ok [b] := by
        cases field <;> first | rfl | cases hsize
      obtain rfl := Except.ok.inj (hbytes.symm.trans h)
      exact .byte hsize b
  | word w =>
      cases field with
      | btId => cases h; exact .word w
      | tmccId => cases h; exact .digits w
      | _ => cases h
  | long n =>
      cases field with
      | timestamp => cases h; exact .long n
      | _ => cases h
  | text t =>
      cases field with
      | roadName => cases h; exact .text (.inl rfl) t
      | roadNumber => cases h; exact .text (.inr rfl) t
      | _ => cases h
  | consist members =>
      cases field with
      | consistComps => cases h; exact .consist members
      | _ => cases h

/-! ## What fits -/

theorem lt_length_fourDigits {id : UInt16} (h : 10000 ≤ id.toNat) : 4 < (fourDigits id).length := by
  have hpadded : Numeral.padded 4 id.toNat = Nat.toDigits 10 id.toNat := if_neg (Nat.not_lt_of_le h)
  have hdigits : ∀ c ∈ Nat.toDigits 10 id.toNat, c.toNat < 0x80 := fun c hc =>
    Nat.lt_of_le_of_lt (Char.isDigit_iff_toNat.mp (Nat.isDigit_of_mem_toDigits (by decide) (by decide) hc)).2
      (by decide)
  have hlength : ¬(Nat.toDigits 10 id.toNat).length ≤ 4 := fun hle =>
    Nat.not_lt_of_le h ((Nat.length_toDigits_le_iff (by decide) (by decide)).mp hle)
  rw [fourDigits, hpadded, Utf8.encode, String.toList_ofList]
  exact Utf8.length_encodeChars_of_lt hdigits ▸ Nat.lt_of_not_le hlength

theorem Encoded.length_eq_iff (h : Encoded field value bytes) :
    bytes.length = field.size ↔ ¬field.Overruns value := by
  cases h with
  | digits id =>
      constructor
      · rintro hlength ⟨-, n, heq, hn⟩
        cases heq
        exact Nat.ne_of_gt (lt_length_fourDigits hn) hlength
      · intro hfits
        exact length_fourDigits (Nat.lt_of_not_le fun hn => hfits ⟨rfl, id, rfl, hn⟩)
  | word => exact iff_of_true rfl (by simp [Overruns])
  | long => exact iff_of_true rfl (by simp [Overruns])
  | text _ t => exact iff_of_true (TextField.length_write _ t) (by simp [Overruns])
  | consist members => exact iff_of_true (Consist.length_write members) (by simp [Overruns])
  | byte hsize => exact iff_of_true hsize.symm (by simp [Overruns])

theorem decode_singleton (h : field.size = 1) (b : UInt8) : field.decode [b] = .ok (.byte b) := by
  cases field <;> first | rfl | cases h

theorem decode_fourDigits {id : UInt16} (h : id.toNat < 10000) : decode .tmccId (fourDigits id) = .ok (.word id) := by
  have hbytes := fourDigits_eq h
  have hzero : 0 ∉ fourDigits id := hbytes ▸ Utf8.zero_notMem_encodeChars (Numeral.zero_notMem_fixedDigits 4 id.toNat)
  have hread : TextField.read (fourDigits id) = String.ofList (Numeral.fixedDigits 4 id.toNat) := by
    rw [TextField.read, TextField.content_of_zero_notMem hzero, hbytes, Utf8.decode_encodeChars,
      Numeral.trimEnd_fixedDigits]
  have hword : Numeral.word? (Numeral.fixedDigits 4 id.toNat) = some id := by
    rw [Numeral.word?_fixedDigits (by decide) h id.toNat_lt]
    exact congrArg some UInt16.ofNat_toNat
  refine (if_neg (Decidable.not_not.mpr (length_fourDigits h))).trans ?_
  simp only [hread, String.toList_ofList, hword]

/-- A value that fits its field is read from it, but for what a text or a list of members loses on the way. -/
theorem Encoded.decode (h : Encoded field value bytes) (hfits : ¬field.Overruns value) :
    field.decode bytes = .ok (value.resent field) := by
  have hlength := h.length_eq_iff.mpr hfits
  cases h with
  | digits id => exact decode_fourDigits (Nat.lt_of_not_le fun hn => hfits ⟨rfl, id, rfl, hn⟩)
  | word w => exact congrArg (fun w => Except.ok (MemoryValue.word w)) (Payload.word_le16 w)
  | long n => exact congrArg (fun n => Except.ok (MemoryValue.long n)) (Payload.number_le32 n)
  | text hfield t =>
      rcases hfield with rfl | rfl <;> exact if_neg (Decidable.not_not.mpr hlength)
  | consist members => exact if_neg (Decidable.not_not.mpr hlength)
  | byte hsize b => exact decode_singleton hsize b

theorem toNat_lt_of_word?_read {id : UInt16} (hraw : raw.length ≤ 4)
    (h : Numeral.word? (TextField.read raw).toList = some id) : id.toNat < 10000 :=
  calc
    id.toNat < 10 ^ (TextField.read raw).toList.length := Numeral.toNat_lt_of_word? h
    _ ≤ 10 ^ 4 := Nat.pow_le_pow_right (by decide) (Nat.le_trans (TextField.length_read_le raw) hraw)

/-- What is read from characters of one byte each fits its field again and loses nothing. -/
theorem resent_of_decode (hraw : ∀ b ∈ raw, b < 0x80) (h : field.decode raw = .ok value) :
    ¬field.Overruns value ∧ value.resent field = value := by
  unfold decode at h
  split at h
  · cases h
  · rename_i hlength
    have hlength := Decidable.not_not.mp hlength
    have htext : value = .text (TextField.read raw) → value.resent field = value := by
      rintro rfl
      have hfits := hlength ▸ TextField.fits_read_of_lt hraw
      exact congrArg MemoryValue.text (TextField.resent_of_fits (TextField.readable_read raw) hfits)
    cases field with
    | tmccId =>
        dsimp only at h
        split at h
        · rename_i id hid
          cases h
          refine ⟨?_, rfl⟩
          rintro ⟨-, n, heq, hn⟩
          cases heq
          exact Nat.not_lt_of_le hn (toNat_lt_of_word?_read (Nat.le_of_eq hlength) hid)
        · cases h
    | roadName => exact ⟨by simp [Overruns], htext (Except.ok.inj h).symm⟩
    | roadNumber => exact ⟨by simp [Overruns], htext (Except.ok.inj h).symm⟩
    | consistComps =>
        cases h
        exact ⟨by simp [Overruns], congrArg MemoryValue.consist (Consist.read_write_read raw)⟩
    | _ =>
        cases h
        exact ⟨by simp [Overruns], rfl⟩

/-! ## Where fields are -/

theorem checkScope_of_mem (h : field ∈ ofScope scope) : MemoryMessage.checkScope scope = .ok () := by
  cases scope <;> first | rfl | cases h

theorem resentScope_of_mem (h : field ∈ ofScope scope) :
    MemoryMessage.scopeOf? ((MemoryMessage.typeOf? scope).getD 1) = some scope := by
  cases scope <;> first | rfl | cases h

theorem nodup_ofScope (scope : Scope) : (ofScope scope).Nodup := by
  cases scope <;> decide

/-- No field of a record starts where another one does. -/
theorem at?_offset (h : field ∈ ofScope scope) : at? scope field.offset = some field := by
  have htable : ∀ field ∈ ofScope scope, at? scope field.offset = some field := by
    cases scope <;> decide
  exact htable field h

/-- Fields of a record have no byte in common. -/
theorem apart (hfield : field ∈ ofScope scope) (hother : other ∈ ofScope scope) (hne : other ≠ field) :
    other.offset.toNat + other.size ≤ field.offset.toNat ∨ field.offset.toNat + field.size ≤ other.offset.toNat := by
  have htable : ∀ field ∈ ofScope scope, ∀ other ∈ ofScope scope, other ≠ field →
      other.offset.toNat + other.size ≤ field.offset.toNat ∨
        field.offset.toNat + field.size ≤ other.offset.toNat := by
    cases scope <;> decide +kernel
  exact htable field hfield other hother hne

/-- The fields of the four-digit databases are the last ones of a record. -/
theorem isFourDigitOnly_of_le (hfield : field.isFourDigitOnly = true) (h : field.offset ≤ other.offset) :
    other.isFourDigitOnly = true := by
  cases field with
  | tmccId => cases other <;> first | rfl | exact absurd h (by decide)
  | timestamp => cases other <;> first | rfl | exact absurd h (by decide)
  | _ => cases hfield

end MemoryField

namespace MemoryMessage

variable {scope : Scope} {field other : MemoryField} {value : MemoryValue} {bytes raw : List UInt8} {recordNo : UInt8}

/-- The message that writes bytes to a field of a record. -/
def written (scope : Scope) (recordNo : UInt8) (field : MemoryField) (bytes : List UInt8) : MemoryMessage :=
  ⟨recordNo, writeFlags, 0, some scope, field.offset, permanentPort, bytes.length.toUInt8, bytes⟩

theorem writeField_eq (hfield : field ∈ MemoryField.ofScope scope) (h : field.encode value = .ok bytes) :
    writeField scope recordNo field value = .ok (written scope recordNo field bytes) := by
  simp only [writeField, MemoryField.checkScope_of_mem hfield, MemoryField.at?_offset hfield, h, ne_eq,
    not_true_eq_false, if_false]
  rfl

theorem ofFrame_written (hfield : field ∈ MemoryField.ofScope scope) :
    ofFrame (written scope recordNo field bytes).toFrame = .ok (written scope recordNo field bytes) := by
  rw [ofFrame_toFrame, resent]
  simp only [written, Option.bind_some, MemoryField.resentScope_of_mem hfield]

theorem field?_written (hfield : field ∈ MemoryField.ofScope scope) :
    (written scope recordNo field bytes).field? =
      if bytes.length = field.size then (field.decode bytes).toOption.map (field, ·) else none := by
  simp only [field?, written, Option.bind_eq_bind, Option.bind_some, MemoryField.at?_offset hfield]
  by_cases hlength : bytes.length = field.size
  · rw [if_pos hlength]
    cases (field.decode bytes).toOption <;> exact if_neg (Decidable.not_not.mpr hlength)
  · rw [if_neg hlength]
    exact if_pos hlength

theorem value?_written_self (hlength : bytes.length = field.size) :
    (written scope recordNo field bytes).value? field = (field.decode bytes).toOption := by
  have hinside : field.offset ≤ field.offset ∧ field.offset.toNat + field.size ≤ field.offset.toNat + bytes.length :=
    ⟨UInt32.le_refl _, by omega⟩
  simp only [value?, written, if_pos hinside, Nat.sub_self, List.drop_zero]
  rw [← hlength, List.take_length]

/-- Where a field begins no other one is read, unless bytes that overrun the field reach it. -/
theorem value?_written_of_ne (hfield : field ∈ MemoryField.ofScope scope) (hother : other ∈ MemoryField.ofScope scope)
    (hne : other ≠ field) (h : bytes.length = field.size ∨ ¬field.offset ≤ other.offset) :
    (written scope recordNo field bytes).value? other = none := by
  refine if_neg ?_
  rintro ⟨hstart, hend⟩
  simp only [written] at hstart hend
  have hle := UInt32.le_iff_toNat_le.mp hstart
  have hsize := other.size_pos
  have hapart := MemoryField.apart hfield hother hne
  have hlength := h.resolve_right (Decidable.not_not.mpr hstart)
  omega

theorem filterMap_of_alone {α β : Type} {f : α → Option β} {a : α} {l : List α} (hnodup : l.Nodup) (ha : a ∈ l)
    (halone : ∀ b ∈ l, b ≠ a → f b = none) : l.filterMap f = (f a).toList := by
  obtain ⟨before, after, rfl⟩ := List.append_of_mem ha
  have hbefore : before.filterMap f = [] := List.filterMap_eq_nil_iff.mpr fun b hb =>
    halone b (by simp [hb]) (by grind)
  have hafter : after.filterMap f = [] := List.filterMap_eq_nil_iff.mpr fun b hb =>
    halone b (by simp [hb]) (by grind)
  rw [List.filterMap_append, hbefore, List.nil_append, List.filterMap_cons, hafter]
  cases f a <;> rfl

/-- The fields of a written part are the one that was written; those of the four-digit databases do not count. -/
theorem fields_written (hfield : field ∈ MemoryField.ofScope scope) (hencoded : MemoryField.Encoded field value bytes) :
    (written scope recordNo field bytes).fields =
      if field.isFourDigitOnly then [] else [(field, value.resent field)] := by
  show List.filterMap _ ((MemoryField.ofScope scope).filter (!·.isFourDigitOnly)) = _
  cases hlast : field.isFourDigitOnly with
  | false =>
      have hfits : ¬field.Overruns value := fun hover => by
        rw [hover.1] at hlast
        cases hlast
      have hlength := hencoded.length_eq_iff.mpr hfits
      rw [filterMap_of_alone ((MemoryField.nodup_ofScope scope).filter _)
        (List.mem_filter.mpr ⟨hfield, congrArg (!·) hlast⟩), value?_written_self hlength, hencoded.decode hfits]
      · rfl
      · intro other hother hne
        rw [value?_written_of_ne hfield (List.mem_filter.mp hother).1 hne (.inl hlength)]
        rfl
  | true =>
      rw [if_pos rfl, List.filterMap_eq_nil_iff]
      intro other hother
      obtain ⟨hother, hlisted⟩ := List.mem_filter.mp hother
      have hbehind : ¬field.offset ≤ other.offset := fun hle => by
        rw [MemoryField.isFourDigitOnly_of_le hlast hle] at hlisted
        cases hlisted
      have hne : other ≠ field := fun heq => hbehind (heq ▸ UInt32.le_refl _)
      rw [value?_written_of_ne hfield hother hne (.inr hbehind)]
      rfl

/-- Every value that can be written to a field is written as that field alone, and fills it unless it is a number of
five digits. Such a number takes a byte more than its field has, and the message is read as no field. Any other value is
read again, and comes back unchanged if it was once read from characters of one byte each. -/
theorem writeField_reads (recordNo : UInt8) (hfield : field ∈ MemoryField.ofScope scope)
    (hencode : field.encode value = .ok bytes) :
    ∃ m, writeField scope recordNo field value = .ok m ∧ ofFrame m.toFrame = .ok m ∧ m.data = bytes ∧
      (bytes.length = field.size ↔ ¬field.Overruns value) ∧
      m.field? = (if field.Overruns value then none else some (field, value.resent field)) ∧
      m.fields = (if field.isFourDigitOnly then [] else [(field, value.resent field)]) ∧
      (¬field.Overruns value →
        ∀ other ∈ MemoryField.ofScope scope, other ≠ field → m.value? other = none) ∧
      ∀ raw, (∀ b ∈ raw, b < 0x80) → field.decode raw = .ok value → m.field? = some (field, value) := by
  have hencoded := MemoryField.encoded_of_encode hencode
  have hread : (written scope recordNo field bytes).field? =
      if field.Overruns value then none else some (field, value.resent field) := by
    rw [field?_written hfield]
    by_cases hover : field.Overruns value
    · rw [if_pos hover, if_neg fun hlength => hencoded.length_eq_iff.mp hlength hover]
    · rw [if_neg hover, if_pos (hencoded.length_eq_iff.mpr hover), hencoded.decode hover]
      rfl
  refine ⟨written scope recordNo field bytes, writeField_eq hfield hencode, ofFrame_written hfield, rfl,
    hencoded.length_eq_iff, hread, fields_written hfield hencoded, fun hfits other hother hne => ?_,
    fun raw hraw hdecode => ?_⟩
  · exact value?_written_of_ne hfield hother hne (.inl (hencoded.length_eq_iff.mpr hfits))
  · obtain ⟨hfits, hsame⟩ := MemoryField.resent_of_decode hraw hdecode
    rw [hread, if_neg hfits, hsame]

/-- The number 12345 takes five bytes where its field has four, and is read as no field. -/
theorem writeField_reads_tmccId :
    MemoryField.encode .tmccId (.word 12345) = .ok [0x31, 0x32, 0x33, 0x34, 0x35] ∧
      ∃ m, writeField .engine 12 .tmccId (.word 12345) = .ok m ∧ ofFrame m.toFrame = .ok m ∧ m.data.length = 5 ∧
        m.field? = none := by
  have hdigits : MemoryField.fourDigits 12345 = [0x31, 0x32, 0x33, 0x34, 0x35] := by decide +kernel
  have hencode : MemoryField.encode .tmccId (.word 12345) = .ok [0x31, 0x32, 0x33, 0x34, 0x35] :=
    congrArg Except.ok hdigits
  obtain ⟨m, hwrite, hframe, hdata, -, hread, -⟩ :=
    writeField_reads 12 (show MemoryField.tmccId ∈ MemoryField.ofScope .engine by decide) hencode
  exact ⟨hencode, m, hwrite, hframe, congrArg List.length hdata, hread.trans (if_pos (by decide))⟩

end MemoryMessage
end RailLayout
