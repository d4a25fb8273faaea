import Mathlib.Algebra.Group.Nat.Defs
import RailLayout.Proofs.Text.Utf8
import RailLayout.Text.Blank
import RailLayout.Text.Numeral

/-!
Numerals read back from their digits. A number that fits the digits it is written with is read again
(`word?_fixedDigits`), and the digits of a numeral bound the number that it means (`toNat_lt_of_word?`). The
bytes of digits hold no zero and read as the digits.
-/

namespace RailLayout
namespace Numeral

def digitChar (d : Nat) : Char := Char.ofNat ('0'.toNat + d)

theorem digit?_digitChar : ∀ d < 10, digit? (digitChar d) = some d := by
  decide

theorem digitChar_plain : ∀ d < 10,
    digitChar d ≠ '+' ∧ digitChar d ≠ Char.ofNat 0 ∧ (digitChar d).toNat < 0x80 ∧
      Text.isBlank (digitChar d) = false := by
  decide

theorem mem_fixedDigits {width n : Nat} {c : Char} (h : c ∈ fixedDigits width n) :
    ∃ d < 10, c = digitChar d := by
  induction width generalizing n with
  | zero => exact absurd h List.not_mem_nil
  | succ width ih =>
      rw [fixedDigits, List.mem_append, List.mem_singleton] at h
      rcases h with h | rfl
      · exact ih h
      · exact ⟨n % 10, Nat.mod_lt n (by decide), rfl⟩

theorem length_fixedDigits (width n : Nat) : (fixedDigits width n).length = width := by
  induction width generalizing n with
  | zero => rfl
  | succ width ih => rw [fixedDigits, List.length_append, ih, List.length_singleton]

/-! ## The value of digits -/

theorem digitsFrom?_append (value : Nat) (xs ys : List Char) :
    digitsFrom? value (xs ++ ys) = (digitsFrom? value xs).bind (digitsFrom? · ys) := by
  induction xs generalizing value with
  | nil => rfl
  | cons c rest ih =>
      rw [List.cons_append, digitsFrom?, digitsFrom?]
      cases digit? c with
      | none => rfl
      | some d => exact ih _

theorem digitsFrom?_fixedDigits (value width n : Nat) :
    digitsFrom? value (fixedDigits width n) = some (value * 10 ^ width + n % 10 ^ width) := by
  induction width generalizing n with
  | zero => rw [fixedDigits, digitsFrom?, Nat.pow_zero, Nat.mul_one, Nat.mod_one, Nat.add_zero]
  | succ width ih =>
      have hdigit := digit?_digitChar (n % 10) (Nat.mod_lt n (by decide))
      rw [fixedDigits, digitsFrom?_append, ih, Option.bind_some, digitsFrom?]
      rw [digitChar] at hdigit
      rw [hdigit]
      show some ((value * 10 ^ width + n / 10 % 10 ^ width) * 10 + n % 10) = _
      rw [Nat.pow_succ, Nat.mul_comm (10 ^ width) 10, Nat.mod_mul, Nat.add_mul, Nat.mul_assoc,
        Nat.mul_comm (10 ^ width) 10]
      congr 1
      omega

theorem lt_of_digitsFrom? {value n : Nat} {cs : List Char} (h : digitsFrom? value cs = some n) :
    n < (value + 1) * 10 ^ cs.length := by
  induction cs generalizing value with
  | nil =>
      rw [digitsFrom?, Option.some.injEq] at h
      rw [List.length_nil, Nat.pow_zero]
      omega
  | cons c rest ih =>
      rw [digitsFrom?] at h
      split at h
      · rename_i d hdigit
        have hd : d < 10 := by
          unfold digit? at hdigit
          split at hdigit
          · rename_i hrange
            have hnine : c.toNat ≤ 57 := hrange.2
            rw [Option.some.injEq] at hdigit
            rw [← hdigit]
            show c.toNat - 48 < 10
            omega
          · cases hdigit
        have hn := ih h
        have hle : (value * 10 + d + 1) * 10 ^ rest.length ≤ (value + 1) * 10 * 10 ^ rest.length :=
          Nat.mul_le_mul_right _ (by omega)
        rw [List.length_cons, Nat.pow_succ, Nat.mul_comm (10 ^ rest.length) 10, ← Nat.mul_assoc]
        omega
      · cases h

theorem lt_of_digits? {n : Nat} {cs : List Char} (h : digits? cs = some n) : n < 10 ^ cs.length := by
  cases cs with
  | nil => cases h
  | cons c rest =>
      have := lt_of_digitsFrom? h
      rwa [Nat.zero_add, Nat.one_mul] at this

/-- The digits that a number of sixteen bits is read from, and the number before it is narrowed. -/
theorem exists_digits?_of_word? {cs : List Char} {w : UInt16} (h : word? cs = some w) :
    ∃ digits n, digits.length ≤ cs.length ∧ digits? digits = some n ∧ w = n.toUInt16 := by
  unfold word? at h
  split at h
  · rename_i rest
    dsimp only at h
    split at h
    · rename_i n hn
      split at h
      · exact ⟨rest, n, Nat.le_succ rest.length, hn, (Option.some.inj h).symm⟩
      · cases h
    · cases h
  · dsimp only at h
    split at h
    · rename_i n hn
      split at h
      · exact ⟨cs, n, Nat.le_refl cs.length, hn, (Option.some.inj h).symm⟩
      · cases h
    · cases h

/-- A number of sixteen bits is bounded by the characters that mean it. -/
theorem toNat_lt_of_word? {cs : List Char} {w : UInt16} (h : word? cs = some w) :
    w.toNat < 10 ^ cs.length := by
  obtain ⟨digits, n, hlength, hn, rfl⟩ := exists_digits?_of_word? h
  calc
    n.toUInt16.toNat ≤ n := Nat.mod_le n _
    _ < 10 ^ digits.length := lt_of_digits? hn
    _ ≤ 10 ^ cs.length := Nat.pow_le_pow_right (by decide) hlength

/-- A number is read from digits enough for it. -/
theorem word?_fixedDigits {width n : Nat} (hwidth : 0 < width) (hn : n < 10 ^ width) (hword : n < 65536) :
    word? (fixedDigits width n) = some n.toUInt16 := by
  have hvalue := digitsFrom?_fixedDigits 0 width n
  rw [Nat.zero_mul, Nat.zero_add, Nat.mod_eq_of_lt hn] at hvalue
  cases hdigits : fixedDigits width n with
  | nil =>
      have := length_fixedDigits width n
      rw [hdigits] at this
      exact absurd this (Nat.ne_of_lt hwidth)
  | cons c rest =>
      rw [hdigits] at hvalue
      obtain ⟨d, hd, hc⟩ := mem_fixedDigits (hdigits ▸ List.mem_cons_self : c ∈ fixedDigits width n)
      have hplus := (digitChar_plain d hd).1
      have hnumber : digits? (c :: rest) = some n := hvalue
      unfold word?
      split
      · rename_i tail heq
        exact absurd (hc ▸ (List.cons.inj heq).1) hplus
      · rw [hnumber]
        exact if_pos hword

/-! ## The bytes of digits -/

theorem zero_notMem_fixedDigits (width n : Nat) : Char.ofNat 0 ∉ fixedDigits width n := by
  intro hmem
  obtain ⟨d, hd, hzero⟩ := mem_fixedDigits hmem
  exact (digitChar_plain d hd).2.1 hzero.symm

theorem length_encodeChars_fixedDigits (width n : Nat) :
    (Utf8.encodeChars (fixedDigits width n)).length = width := by
  rw [Utf8.length_encodeChars_of_lt, length_fixedDigits]
  intro c hmem
  obtain ⟨d, hd, rfl⟩ := mem_fixedDigits hmem
  exact (digitChar_plain d hd).2.2.1

theorem dropWhile_isBlank {width n : Nat} {cs : List Char} (h : ∀ c ∈ cs, c ∈ fixedDigits width n) :
    cs.dropWhile Text.isBlank = cs := by
  cases cs with
  | nil => rfl
  | cons c rest =>
      obtain ⟨d, hd, hc⟩ := mem_fixedDigits (h c List.mem_cons_self)
      have hblank := (digitChar_plain d hd).2.2.2
      rw [List.dropWhile_cons_of_neg (by rw [hc, hblank]; exact Bool.false_ne_true)]

theorem trimEnd_fixedDigits (width n : Nat) : Text.trimEnd (fixedDigits width n) = fixedDigits width n := by
  rw [Text.trimEnd, dropWhile_isBlank fun c hc => List.mem_reverse.mp hc, List.reverse_reverse]

theorem trim_fixedDigits (width n : Nat) : Text.trim (fixedDigits width n) = fixedDigits width n := by
  rw [Text.trim, Text.trimStart, dropWhile_isBlank fun c hc => hc, trimEnd_fixedDigits]

end Numeral
end RailLayout
