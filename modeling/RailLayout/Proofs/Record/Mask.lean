import Mathlib.Algebra.Group.Nat.Defs
import RailLayout.Record.Message

/-!
The validity mask of a record. A message with the mask that goes with a record marks exactly the fields that are
known in it (`RecordMessage.has_validMask`).
-/

namespace RailLayout

namespace RecordField

theorem getElem?_bit (field : RecordField) : all[field.bit.toNat]? = some field := by
  cases field <;> rfl

theorem mem_all (field : RecordField) : field ∈ all := List.mem_of_getElem? (getElem?_bit field)

theorem bit_inj {a b : RecordField} : a.bit = b.bit ↔ a = b := by
  refine ⟨fun h => ?_, congrArg bit⟩
  have ha := getElem?_bit a
  rw [h, getElem?_bit b] at ha
  exact (Option.some.inj ha).symm

theorem bit_lt (field : RecordField) : field.bit < 32 := by
  cases field <;> decide

theorem toNat_mask (field : RecordField) : field.mask.toNat = 2 ^ field.bit.toNat := by
  cases field <;> rfl

theorem testBit_mask (a b : RecordField) : a.mask.toNat.testBit b.bit.toNat = decide (a = b) := by
  rw [toNat_mask, Nat.testBit_two_pow]
  exact decide_eq_decide.mpr (UInt8.toNat_inj.trans bit_inj)

theorem testBit_foldl_mask (fields : List RecordField) (mask : UInt32) (field : RecordField) :
    (fields.foldl (fun mask f => mask ||| f.mask) mask).toNat.testBit field.bit.toNat =
      (mask.toNat.testBit field.bit.toNat || decide (field ∈ fields)) := by
  induction fields generalizing mask with
  | nil => simp
  | cons f rest ih =>
      rw [List.foldl_cons, ih, UInt32.toNat_or, Nat.testBit_or, testBit_mask]
      simp only [List.mem_cons, Bool.decide_or, Bool.or_assoc, eq_comm]

end RecordField

theorem MotiveRecord.testBit_validMask (r : MotiveRecord) (field : RecordField) :
    r.validMask.toNat.testBit field.bit.toNat = r.has field := by
  rw [validMask, RecordField.testBit_foldl_mask]
  simp only [List.mem_filter, RecordField.mem_all, true_and, Bool.decide_eq_true, UInt32.toNat_zero,
    Nat.zero_testBit, Bool.false_or]

namespace RecordMessage

theorem has_eq_testBit {m : RecordMessage} {valid : UInt32} (h : m.contents.valid? = some valid)
    (field : RecordField) : m.has field = valid.toNat.testBit field.bit.toNat := by
  have hbit : field.bit.toUInt32.toNat % 32 = field.bit.toNat := by
    cases field <;> rfl
  have hand : (valid >>> field.bit.toUInt32 &&& 1).toNat = 1 &&& valid.toNat >>> field.bit.toNat := by
    rw [UInt32.toNat_and, UInt32.toNat_shiftRight, hbit, Nat.and_comm]
    rfl
  simp only [has, isValid, h, RecordField.bit_lt, decide_true, Bool.true_and, Nat.testBit, ← hand]
  rw [Bool.eq_iff_iff, bne_iff_ne, bne_iff_ne]
  exact not_congr UInt32.toNat_inj.symm

/-- A message with the mask of a record marks the fields that are known in it. -/
theorem has_validMask {m : RecordMessage} {r : MotiveRecord} (h : m.contents.valid? = some r.validMask)
    (field : RecordField) : m.has field = r.has field := by
  rw [has_eq_testBit h, MotiveRecord.testBit_validMask]

end RecordMessage
end RailLayout
