import RailLayout.Memory.Message

/-!
What lies in a part of a memory record. If the part is made up of two, then a field lies whole in the first of them, in
the second, or across the cut, and a field that is not cut through is read as it was: the fields of the two parts are
those of the whole (`MemoryMessage.MadeUp.fields_perm`).
-/

namespace RailLayout

theorem MemoryField.size_pos (field : MemoryField) : 0 < field.size := by
  cases field <;> decide

namespace MemoryMessage

variable {m n whole low high : MemoryMessage}

/-- A field of a part of the memory lies in it whole, and its value is decoded from its bytes. -/
theorem of_mem_fields {entry : MemoryField × MemoryValue} (h : entry ∈ m.fields) :
    m.start.toNat ≤ entry.1.offset.toNat ∧
      entry.1.decode ((m.data.drop (entry.1.offset.toNat - m.start.toNat)).take entry.1.size) = .ok entry.2 := by
  unfold fields at h
  split at h
  · cases h
  · obtain ⟨cell, -, hvalue⟩ := List.mem_filterMap.mp h
    obtain ⟨value, hvalue, rfl⟩ := Option.map_eq_some_iff.mp hvalue
    unfold value? at hvalue
    split at hvalue
    · rename_i hinside
      refine ⟨hinside.1, ?_⟩
      dsimp only at hvalue ⊢
      cases hdecode : cell.decode ((m.data.drop (cell.offset.toNat - m.start.toNat)).take cell.size) <;>
        rw [hdecode] at hvalue <;> cases hvalue
      rfl
    · cases hvalue

/-- A part has one value for a field. -/
theorem eq_of_mem_fields {a b : MemoryField × MemoryValue} (ha : a ∈ m.fields) (hb : b ∈ m.fields) (h : a.1 = b.1) :
    a = b := by
  have hdecode := (of_mem_fields ha).2
  rw [h, (of_mem_fields hb).2] at hdecode
  exact Prod.ext h (Except.ok.inj hdecode).symm

/-- Of two parts of one record, the fields of one are some of those of the other if their values are. -/
theorem fields_eq_filter (hscope : n.scope = m.scope) (p : MemoryField → Bool)
    (hvalue : ∀ field, n.value? field = if p field then m.value? field else none) :
    n.fields = m.fields.filter fun entry => p entry.1 := by
  rw [fields, fields, hscope]
  cases m.scope with
  | none => rfl
  | some scope =>
      dsimp only
      rw [List.filter_filterMap]
      refine congrArg (List.filterMap · _) (funext fun field => ?_)
      rw [hvalue]
      cases hfield : p field <;> cases m.value? field <;> simp [Option.filter, hfield]

/-- Whether a part of a record is made up of two: they are of the same record, the second starts where the first ends,
and they cut no field that lies in the whole. -/
structure MadeUp (whole low high : MemoryMessage) : Prop where
  recordNo_low : low.recordNo = whole.recordNo
  recordNo_high : high.recordNo = whole.recordNo
  scope_low : low.scope = whole.scope
  scope_high : high.scope = whole.scope
  start_low : low.start = whole.start
  start_high : high.start.toNat = whole.start.toNat + low.data.length
  data : whole.data = low.data ++ high.data
  uncut (entry : MemoryField × MemoryValue) (h : entry ∈ whole.fields) :
    ¬(entry.1.offset.toNat < high.start.toNat ∧ high.start.toNat < entry.1.offset.toNat + entry.1.size)

namespace MadeUp

variable (h : MadeUp whole low high)
include h

/-- The first part holds the fields that end before the cut. -/
theorem value?_low (field : MemoryField) :
    low.value? field =
      if field.offset.toNat + field.size ≤ high.start.toNat then whole.value? field else none := by
  have hcut := h.start_high
  simp only [value?, h.start_low, h.data, UInt32.le_iff_toNat_le, List.length_append]
  by_cases hstart : whole.start.toNat ≤ field.offset.toNat
  · by_cases hbefore : field.offset.toNat + field.size ≤ high.start.toNat
    · have hdrop : field.offset.toNat - whole.start.toNat ≤ low.data.length := by omega
      have htake : field.size ≤ (low.data.drop (field.offset.toNat - whole.start.toNat)).length := by
        rw [List.length_drop]
        omega
      rw [if_pos ⟨hstart, by omega⟩, if_pos hbefore, if_pos ⟨hstart, by omega⟩,
        List.drop_append_of_le_length hdrop, List.take_append_of_le_length htake]
    · rw [if_neg (by omega), if_neg hbefore]
  · simp only [hstart, false_and, if_false, ite_self]

/-- The second part holds the fields that start after the cut. -/
theorem value?_high (field : MemoryField) :
    high.value? field = if high.start.toNat ≤ field.offset.toNat then whole.value? field else none := by
  have hcut := h.start_high
  simp only [value?, h.data, UInt32.le_iff_toNat_le, List.length_append]
  by_cases hafter : high.start.toNat ≤ field.offset.toNat
  · have hdrop : (low.data ++ high.data).drop (field.offset.toNat - whole.start.toNat) =
        high.data.drop (field.offset.toNat - high.start.toNat) := by
      rw [List.drop_append, List.drop_eq_nil_of_le (by omega), List.nil_append]
      congr 1
      omega
    rw [if_pos hafter, hdrop]
    by_cases hend : field.offset.toNat + field.size ≤ high.start.toNat + high.data.length
    · rw [if_pos ⟨hafter, hend⟩, if_pos ⟨by omega, by omega⟩]
    · rw [if_neg (by omega), if_neg (by omega)]
  · rw [if_neg (by omega), if_neg hafter]

/-- The fields of a part that is made up of two are theirs. -/
theorem fields_perm : (low.fields ++ high.fields).Perm whole.fields := by
  have hlow := fields_eq_filter h.scope_low (fun field => decide (field.offset.toNat + field.size ≤ high.start.toNat))
    (by simpa using h.value?_low)
  have hhigh := fields_eq_filter h.scope_high (fun field => decide (high.start.toNat ≤ field.offset.toNat))
    (by simpa using h.value?_high)
  have hrest : high.fields = whole.fields.filter fun entry =>
      !decide (entry.1.offset.toNat + entry.1.size ≤ high.start.toNat) := by
    refine hhigh.trans (List.filter_congr fun entry hentry => ?_)
    have huncut := h.uncut entry hentry
    have hsize := entry.1.size_pos
    rw [← decide_not, decide_eq_decide]
    omega
  rw [hlow, hrest]
  exact List.filter_append_perm _ _

end MadeUp

/-- Whether a part of a record is made up of two, whichever of them is named first. -/
def MadeUpOf (whole first second : MemoryMessage) : Prop := MadeUp whole first second ∨ MadeUp whole second first

namespace MadeUpOf

variable {first second : MemoryMessage} (h : whole.MadeUpOf first second)
include h

theorem scopes : first.scope = whole.scope ∧ second.scope = whole.scope := by
  rcases h with h | h
  · exact ⟨h.scope_low, h.scope_high⟩
  · exact ⟨h.scope_high, h.scope_low⟩

theorem addresses : first.address = whole.address ∧ second.address = whole.address := by
  rcases h with h | h
  · exact ⟨congrArg UInt8.toUInt16 h.recordNo_low, congrArg UInt8.toUInt16 h.recordNo_high⟩
  · exact ⟨congrArg UInt8.toUInt16 h.recordNo_high, congrArg UInt8.toUInt16 h.recordNo_low⟩

theorem fields_perm : (first.fields ++ second.fields).Perm whole.fields := by
  rcases h with h | h
  · exact h.fields_perm
  · exact List.perm_append_comm.trans h.fields_perm

theorem isEmpty_fields : whole.fields.isEmpty = (first.fields.isEmpty && second.fields.isEmpty) := by
  rw [← h.fields_perm.isEmpty_eq]
  cases first.fields <;> rfl

end MadeUpOf

end MemoryMessage
end RailLayout
