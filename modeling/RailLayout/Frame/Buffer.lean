import RailLayout.Frame.Scan

/-!
Putting frames together from chunks. The buffer keeps what may still become a frame, up to a limit, and finds
its way back at the next start marker after a bad frame.
-/

namespace RailLayout

/-- Bytes received and not yet made into frames. -/
structure FrameBuffer where
  bytes : List UInt8
  /-- How many bytes may wait; never zero in use. -/
  limit : Nat
  deriving DecidableEq

namespace FrameBuffer

/-- The limit of a buffer that is given none. -/
def defaultLimit : Nat := 4096

/-- An empty buffer; a limit of zero counts as one. -/
def empty (limit : Nat) : FrameBuffer := ⟨[], max limit 1⟩

/-- The bytes from the last start marker on, if there is one. -/
def fromLastStart? : List UInt8 → Option (List UInt8)
  | [] => none
  | b :: rest =>
    match fromLastStart? rest with
    | some found => some found
    | none => if b = startMarker then some (b :: rest) else none

/-- Cut bytes to a limit: too many are cut back to the last start marker, or dropped if that is not enough. -/
def clip (limit : Nat) (bytes : List UInt8) : List UInt8 :=
  if bytes.length ≤ limit then bytes
  else match fromLastStart? bytes with
    | some tail => if tail.length ≤ limit then tail else []
    | none => []

def extend (buffer : FrameBuffer) (chunk : List UInt8) : FrameBuffer :=
  { buffer with bytes := clip buffer.limit (buffer.bytes ++ chunk) }

/-- The first frame or fault in waiting bytes, if there is one, and the bytes still to wait. -/
def takeItem (bytes : List UInt8) : Option (Except FrameError Frame) × List UInt8 :=
  let waiting := bytes.dropWhile isNoise
  match Scan.scan waiting with
  | .frame found consumed => (some (.ok found), waiting.drop consumed)
  | .incomplete => (none, waiting)
  | .invalid cause consumed => (some (.error cause), waiting.drop consumed)

def next (buffer : FrameBuffer) : Option (Except FrameError Frame) × FrameBuffer :=
  let (item, bytes) := takeItem buffer.bytes
  (item, { buffer with bytes := bytes })

theorem scan_consumed_pos (bytes : List UInt8) :
    (∀ found n, Scan.scan bytes = .frame found n → 0 < n ∧ 0 < bytes.length) ∧
      (∀ cause n, Scan.scan bytes = .invalid cause n → 0 < n ∧ 0 < bytes.length) := by
  cases bytes with
  | nil => simp [Scan.scan]
  | cons b rest =>
      unfold Scan.scan
      dsimp only
      constructor
      · intro found n h
        simp only [List.length_cons, Nat.succ_pos, and_true]
        revert h
        split
        · intro h; cases h
        · split
          · intro h; cases h
          · intro h; cases h
          · split
            · intro h; injection h; omega
            · intro h; cases h
      · intro cause n h
        simp only [List.length_cons, Nat.succ_pos, and_true]
        revert h
        split
        · intro h; cases h
        · split
          · intro h; cases h
          · intro h; injection h; omega
          · split
            · intro h; cases h
            · intro h; injection h; omega

theorem length_takeItem_lt {bytes rest : List UInt8} {item : Except FrameError Frame}
    (h : takeItem bytes = (some item, rest)) : rest.length < bytes.length := by
  have hle := (List.dropWhile_suffix (l := bytes) isNoise).length_le
  have hpos := scan_consumed_pos (bytes.dropWhile isNoise)
  unfold takeItem at h
  dsimp only at h
  revert h
  split
  · intro h
    rename_i heq
    have := hpos.1 _ _ heq
    simp only [Prod.mk.injEq] at h
    rw [← h.2, List.length_drop]
    omega
  · intro h
    simp at h
  · intro h
    rename_i heq
    have := hpos.2 _ _ heq
    simp only [Prod.mk.injEq] at h
    rw [← h.2, List.length_drop]
    omega

/-- Every frame and fault in waiting bytes, in order, and the bytes still to wait. -/
def takeItems (bytes : List UInt8) : List (Except FrameError Frame) × List UInt8 :=
  match _h : takeItem bytes with
  | (none, rest) => ([], rest)
  | (some item, rest) =>
    let more := takeItems rest
    (item :: more.1, more.2)
  termination_by bytes.length
  decreasing_by exact length_takeItem_lt _h

/-- Take every frame and fault that has come in whole. -/
def drain (buffer : FrameBuffer) : List (Except FrameError Frame) × FrameBuffer :=
  let (items, bytes) := takeItems buffer.bytes
  (items, { buffer with bytes := bytes })

def clear (buffer : FrameBuffer) : FrameBuffer := { buffer with bytes := [] }

end FrameBuffer
end RailLayout
