import RailLayout.Consist
import RailLayout.Proofs.Payload.Reader
import RailLayout.Record.Fixture

/-!
The lists at the end of a record, a train's members and a route's steps. Both are lists of pairs of bytes in
which some pairs stand for nothing. Reading keeps the other pairs, up to the number that a record has room
for, and what was read is read again from the bytes that are written for it (`read_write_read`,
`stepsOf_encodeSteps`).
-/

namespace RailLayout

namespace Consist

/-- Whether a slot holds the member: an empty slot has a byte `FF`. -/
def Seated (m : ConsistMember) : Prop := m.flags ≠ 0xFF ∧ m.address ≠ 0xFF

instance (m : ConsistMember) : Decidable (Seated m) := inferInstanceAs (Decidable (_ ∧ _))

theorem seated_readSlots (n : Nat) (bytes : List UInt8) : ∀ m ∈ readSlots n bytes, Seated m := by
  fun_induction readSlots n bytes with
  | case1 n flags address rest hempty ih => exact ih
  | case2 n flags address rest hfilled ih =>
      rintro m (_ | ⟨_, hmem⟩)
      · exact not_or.mp hfilled
      · exact ih m hmem
  | case3 => exact fun m hmem => absurd hmem List.not_mem_nil

theorem length_readSlots_le (n : Nat) (bytes : List UInt8) : (readSlots n bytes).length ≤ n := by
  fun_induction readSlots n bytes with
  | case1 n flags address rest hempty ih => omega
  | case2 n flags address rest hfilled ih => rw [List.length_cons]; omega
  | case3 => exact Nat.zero_le _

/-- Bytes after the slots are not read. -/
theorem readSlots_take (n : Nat) (bytes : List UInt8) :
    readSlots n (bytes.take (2 * n)) = readSlots n bytes := by
  induction n generalizing bytes with
  | zero => rfl
  | succ n ih =>
      rcases bytes with _ | ⟨flags, _ | ⟨address, rest⟩⟩
      · rfl
      · rfl
      · rw [Nat.mul_succ, List.take_succ_cons, List.take_succ_cons, readSlots, readSlots, ih]

theorem readSlots_replicate (n k : Nat) : readSlots n (List.replicate (k * 2) 0xFF) = [] := by
  induction k generalizing n with
  | zero => cases n <;> rfl
  | succ k ih =>
      cases n with
      | zero => rfl
      | succ n =>
          rw [Nat.succ_mul, List.replicate_succ, List.replicate_succ, readSlots, if_pos (Or.inl rfl), ih]

theorem readSlots_flatMap {n : Nat} {members : List ConsistMember} (hseated : ∀ m ∈ members, Seated m)
    (hroom : members.length ≤ n) (k : Nat) :
    readSlots n (members.flatMap (fun m => [m.flags, m.address]) ++ List.replicate (k * 2) 0xFF) = members := by
  induction members generalizing n with
  | nil => exact readSlots_replicate n k
  | cons m rest ih =>
      obtain ⟨n, rfl⟩ : ∃ j, n = j + 1 := ⟨n - 1, by rw [List.length_cons] at hroom; omega⟩
      have hm := hseated m List.mem_cons_self
      show readSlots (n + 1) (m.flags :: m.address :: (rest.flatMap _ ++ _)) = _
      rw [readSlots, if_neg (not_or.mpr hm),
        ih (fun x hx => hseated x (List.mem_cons_of_mem m hx)) (Nat.le_of_succ_le_succ hroom)]

theorem length_write (members : List ConsistMember) : (write slots members).length = 2 * slots := by
  have hroom : (members.take slots).length ≤ slots := List.length_take_le slots members
  have hpairs : ((members.take slots).flatMap fun m => [m.flags, m.address]).length =
      (members.take slots).length * 2 := by
    rw [List.length_flatMap]
    show ((members.take slots).map fun _ => 2).sum = _
    rw [List.map_const', List.sum_replicate_nat]
  rw [write, List.length_append, hpairs, List.length_replicate]
  omega

/-- Members for which there is room are read from the slots in which they are written. -/
theorem read_write {members : List ConsistMember} (hseated : ∀ m ∈ members, Seated m) (hroom : members.length ≤ slots) :
    read (write slots members) = members := by
  rw [write, read, List.take_of_length_le hroom]
  exact readSlots_flatMap hseated hroom _

/-- Members that were read are read again from the slots in which they are written. -/
theorem read_write_read (bytes : List UInt8) : read (write slots (read bytes)) = read bytes :=
  read_write (seated_readSlots slots bytes) (length_readSlots_le slots bytes)

end Consist

namespace FixtureRecord

/-- Whether a word is a step: a word of zeros or ones only is none. -/
def IsStep (s : RouteStep) : Prop := s.word ≠ 0xFFFF ∧ s.word ≠ 0

theorem isStep_stepsOf (n : Nat) (bytes : List UInt8) : ∀ s ∈ stepsOf n bytes, IsStep s := by
  fun_induction stepsOf n bytes with
  | case1 n b0 b1 rest word hnone ih => exact ih
  | case2 n b0 b1 rest word hstep ih =>
      rintro s (_ | ⟨_, hmem⟩)
      · exact not_or.mp hstep
      · exact ih s hmem
  | case3 => exact fun s hmem => absurd hmem List.not_mem_nil

theorem length_stepsOf_le (n : Nat) (bytes : List UInt8) : (stepsOf n bytes).length ≤ n := by
  fun_induction stepsOf n bytes with
  | case1 n b0 b1 rest word hnone ih => exact ih
  | case2 n b0 b1 rest word hstep ih => rw [List.length_cons]; omega
  | case3 => exact Nat.zero_le _

theorem stepsOf_flatMap {n : Nat} {steps : List RouteStep} (hsteps : ∀ s ∈ steps, IsStep s)
    (hroom : steps.length ≤ n) : stepsOf n (steps.flatMap fun s => Payload.be16 s.word) = steps := by
  induction steps generalizing n with
  | nil => cases n <;> rfl
  | cons s rest ih =>
      obtain ⟨n, rfl⟩ : ∃ j, n = j + 1 := ⟨n - 1, by rw [List.length_cons] at hroom; omega⟩
      have hs := hsteps s List.mem_cons_self
      show stepsOf (n + 1) ((s.word >>> 8).toUInt8 :: s.word.toUInt8 :: rest.flatMap _) = _
      rw [stepsOf, Payload.word_le16, if_neg (not_or.mpr hs),
        ih (fun x hx => hsteps x (List.mem_cons_of_mem s hx)) (Nat.le_of_succ_le_succ hroom)]

/-- The words of the steps that a record has room for. -/
def encodeSteps (steps : List RouteStep) : List UInt8 :=
  (steps.take maxSteps).flatMap fun s => Payload.be16 s.word

/-- Steps that were read are read again from the words that are written for them. -/
theorem stepsOf_encodeSteps (bytes : List UInt8) :
    stepsOf maxSteps (encodeSteps (stepsOf maxSteps bytes)) = stepsOf maxSteps bytes := by
  have hroom := length_stepsOf_le maxSteps bytes
  rw [encodeSteps, List.take_of_length_le hroom]
  exact stepsOf_flatMap (isStep_stepsOf maxSteps bytes) hroom

end FixtureRecord
end RailLayout
