import Mathlib.Data.List.DropRight
import RailLayout.Proofs.Frame.Chunks

/-!
What scanning finds in a stream, from left to right. A buffer gives out the frames and faults that scans find one after
the other, each going on where the last one left off; of what is left it keeps all but the noise before a start marker
(`FrameBuffer.takeItems_eq_findAll`).
-/

namespace RailLayout

namespace Scan

/-- The frame or fault that a scan found, with the bytes to drop before looking on. -/
def item? : Scan → Option (Except FrameError Frame × Nat)
  | frame found consumed => some (.ok found, consumed)
  | incomplete => none
  | invalid cause consumed => some (.error cause, consumed)

theorem length_drop_lt {bytes : List UInt8} {item : Except FrameError Frame} {consumed : Nat}
    (h : (scan bytes).item? = some (item, consumed)) : (bytes.drop consumed).length < bytes.length := by
  obtain ⟨hframe, hinvalid⟩ := FrameBuffer.scan_consumed_pos bytes
  have hpos : 0 < consumed ∧ 0 < bytes.length := by
    cases hscan : scan bytes with
    | frame found n =>
        rw [hscan] at h
        cases h
        exact hframe _ _ hscan
    | incomplete =>
        rw [hscan] at h
        cases h
    | invalid cause n =>
        rw [hscan] at h
        cases h
        exact hinvalid _ _ hscan
  rw [List.length_drop]
  omega

/-- The frames and faults that scans find from left to right, and the bytes in which none is found any more. -/
def findAll (bytes : List UInt8) : List (Except FrameError Frame) × List UInt8 :=
  match _h : (scan bytes).item? with
  | some (item, consumed) =>
    let more := findAll (bytes.drop consumed)
    (item :: more.1, more.2)
  | none => ([], bytes)
  termination_by bytes.length
  decreasing_by exact length_drop_lt _h

/-- Noise in front only adds to the bytes to drop. -/
theorem item?_scan (bytes : List UInt8) : (scan bytes).item? =
    (scan (bytes.dropWhile isNoise)).item?.map fun found => (found.1, (bytes.takeWhile isNoise).length + found.2) := by
  have hdrop : (bytes.dropWhile isNoise).dropWhile isNoise = bytes.dropWhile isNoise := List.dropWhile_idempotent _ _
  have htake : (bytes.dropWhile isNoise).takeWhile isNoise = [] := by
    have hsplit := List.takeWhile_append_dropWhile (p := isNoise) (l := bytes.dropWhile isNoise)
    rw [hdrop] at hsplit
    exact List.append_left_eq_self.mp hsplit
  unfold scan
  dsimp only
  rw [hdrop, htake]
  cases bytes.dropWhile isNoise with
  | nil => rfl
  | cons b rest =>
      dsimp only
      cases (Enclosed.read rest).ending with
      | unfinished => rfl
      | restarted => simp only [item?, Option.map_some, List.length_nil, Nat.zero_add, Nat.add_assoc]
      | closed =>
          cases (Enclosed.read rest).toFrame <;>
            simp only [item?, Option.map_some, List.length_nil, Nat.zero_add, Nat.add_assoc]

end Scan

namespace FrameBuffer

open Scan

theorem takeItem_eq (bytes : List UInt8) : takeItem bytes =
    match (scan bytes).item? with
    | some (item, consumed) => (some item, bytes.drop consumed)
    | none => (none, bytes.dropWhile isNoise) := by
  have hdrop : ∀ n, bytes.drop ((bytes.takeWhile isNoise).length + n) = (bytes.dropWhile isNoise).drop n := by
    intro n
    conv => lhs; rw [← List.takeWhile_append_dropWhile (p := isNoise) (l := bytes), List.drop_append]
    simp
  rw [item?_scan]
  unfold takeItem
  dsimp only
  cases scan (bytes.dropWhile isNoise) with
  | frame found n => simp only [item?, Option.map_some, hdrop]
  | incomplete => rfl
  | invalid cause n => simp only [item?, Option.map_some, hdrop]

/-- Of what is left, only the noise in front is dropped. -/
theorem takeItems_eq_findAll (bytes : List UInt8) :
    takeItems bytes = ((findAll bytes).1, (findAll bytes).2.dropWhile isNoise) := by
  fun_induction findAll bytes with
  | case1 bytes item consumed h more ih =>
      have hitem : takeItem bytes = (some item, bytes.drop consumed) := by rw [takeItem_eq, h]
      rw [takeItems_of_some hitem, ih]
  | case2 bytes h => exact takeItems_of_none (by rw [takeItem_eq, h])

end FrameBuffer
end RailLayout
