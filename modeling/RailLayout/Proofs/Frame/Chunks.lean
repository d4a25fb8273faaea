import RailLayout.Proofs.Frame.RoundTrip

/-!
How a stream is cut into chunks, and when the buffer is asked for frames, does not matter as long as the buffer
never overflows: the same frames and faults come out, and the same bytes are left waiting.

What has ended stays ended: more bytes change neither what an ended frame reads as (`Enclosed.read_append`) nor
the item at the front of the waiting bytes (`takeItem_append_of_some`). Waiting bytes without an item only lose
noise (`takeItem_append_of_none`). A run of calls follows by induction on the calls.
-/

namespace RailLayout

/-- The byte at which enclosed bytes come to an end, if they do. -/
def Ending.mark? : Ending → Option UInt8
  | closed => some endMarker
  | restarted => some startMarker
  | unfinished => none

/-! ## What has ended stays ended -/

namespace Enclosed

theorem read_sent (bytes : List UInt8) :
    ∃ tail, bytes = (read bytes).sent ++ tail ∧ tail.head? = (read bytes).ending.mark? := by
  fun_induction read bytes with
  | case1 => exact ⟨[], rfl, rfl⟩
  | case2 => exact ⟨[], rfl, rfl⟩
  | case3 c more ih =>
      obtain ⟨tail, hbytes, hmark⟩ := ih
      exact ⟨tail, by simp only [cons, List.cons_append, List.nil_append, ← hbytes], hmark⟩
  | case4 rest => exact ⟨endMarker :: rest, rfl, rfl⟩
  | case5 rest => exact ⟨startMarker :: rest, rfl, rfl⟩
  | case6 b rest _ _ _ ih =>
      obtain ⟨tail, hbytes, hmark⟩ := ih
      exact ⟨tail, by simp only [cons, List.cons_append, List.nil_append, ← hbytes], hmark⟩

/-- Bytes that have come to an end fill at least what travels for them and the byte that ends them. -/
theorem length_read_sent_lt {bytes : List UInt8} (h : (read bytes).ending ≠ .unfinished) :
    (read bytes).sent.length < bytes.length := by
  obtain ⟨tail, hbytes, hmark⟩ := read_sent bytes
  have hlength := congrArg List.length hbytes
  rw [List.length_append] at hlength
  cases tail with
  | nil =>
      cases hending : (read bytes).ending with
      | closed => rw [hending] at hmark; cases hmark
      | restarted => rw [hending] at hmark; cases hmark
      | unfinished => exact absurd hending h
  | cons b rest =>
      rw [List.length_cons] at hlength
      omega

/-- More bytes do not change what bytes that have come to an end read as. -/
theorem read_append {bytes : List UInt8} (h : (read bytes).ending ≠ .unfinished) (more : List UInt8) :
    read (bytes ++ more) = read bytes := by
  fun_induction read bytes with
  | case1 => exact absurd rfl h
  | case2 => exact absurd rfl h
  | case3 c rest ih => exact (read_stuffed c (rest ++ more)).trans (congrArg _ (ih h))
  | case4 rest => exact read_endMarker (rest ++ more)
  | case5 rest => exact read_startMarker (rest ++ more)
  | case6 b rest hstuff hend hstart ih =>
      have hplain : isMarker b = false := by simp [isMarker, hstuff, hend, hstart]
      exact (read_plain hplain (rest ++ more)).trans (congrArg _ (ih h))

end Enclosed

namespace Scan

/-- A stream that starts with a frame or a fault still does so when more bytes come in. -/
theorem scan_append {bytes : List UInt8} (h : scan bytes ≠ .incomplete) (more : List UInt8) :
    scan (bytes ++ more) = scan bytes := by
  cases hwaiting : bytes.dropWhile isNoise with
  | nil => exact absurd (by simp only [scan, hwaiting]) h
  | cons b rest =>
      have hended : (Enclosed.read rest).ending ≠ .unfinished := by
        intro hunfinished
        exact h (by simp only [scan, hwaiting, hunfinished])
      have hne : ¬(bytes.dropWhile isNoise).isEmpty := by simp [hwaiting]
      have htake : (bytes ++ more).takeWhile isNoise = bytes.takeWhile isNoise := by
        rw [List.takeWhile_append, if_neg]
        intro hall
        have := congrArg List.length (List.takeWhile_append_dropWhile (p := isNoise) (l := bytes))
        simp [hwaiting] at this
        omega
      simp only [scan, htake, List.dropWhile_append, hwaiting, List.isEmpty_cons, Bool.false_eq_true,
        if_false, List.cons_append, Enclosed.read_append hended]

/-- How many bytes to drop before looking on, where a frame or a fault was found. -/
def consumed? : Scan → Option Nat
  | frame _ n => some n
  | incomplete => none
  | invalid _ n => some n

theorem consumed_le {bytes : List UInt8} {n : Nat} (h : (scan bytes).consumed? = some n) :
    n ≤ bytes.length := by
  have hsplit := congrArg List.length (List.takeWhile_append_dropWhile (p := isNoise) (l := bytes))
  rw [List.length_append] at hsplit
  cases hwaiting : bytes.dropWhile isNoise with
  | nil => simp only [scan, hwaiting, consumed?, reduceCtorEq] at h
  | cons b rest =>
      rw [hwaiting, List.length_cons] at hsplit
      cases hending : (Enclosed.read rest).ending with
      | unfinished => simp only [scan, hwaiting, hending, consumed?, reduceCtorEq] at h
      | restarted =>
          have hlength : (Enclosed.read rest).sent.length < rest.length :=
            Enclosed.length_read_sent_lt (by simp [hending])
          simp only [scan, hwaiting, hending, consumed?, Option.some.injEq] at h
          omega
      | closed =>
          have hlength : (Enclosed.read rest).sent.length < rest.length :=
            Enclosed.length_read_sent_lt (by simp [hending])
          cases hframe : (Enclosed.read rest).toFrame <;>
            simp only [scan, hwaiting, hending, hframe, consumed?, Option.some.injEq] at h <;> omega

end Scan

namespace FrameBuffer

/-! ## The item at the front -/

theorem takeItem_dropWhile (bytes more : List UInt8) :
    takeItem (bytes.dropWhile isNoise ++ more) = takeItem (bytes ++ more) := by
  have hdrop : (bytes.dropWhile isNoise ++ more).dropWhile isNoise =
      (bytes ++ more).dropWhile isNoise := by
    induction bytes with
    | nil => rfl
    | cons b rest ih =>
        by_cases hb : isNoise b = true
        · rw [List.dropWhile_cons_of_pos hb, List.cons_append, List.dropWhile_cons_of_pos hb, ih]
        · rw [List.dropWhile_cons_of_neg hb]
  simp only [takeItem, hdrop]

/-- The item at the front stays the same when more bytes come in. -/
theorem takeItem_append_of_some {bytes rest : List UInt8} {item : Except FrameError Frame}
    (h : takeItem bytes = (some item, rest)) (more : List UInt8) :
    takeItem (bytes ++ more) = (some item, rest ++ more) := by
  have hscan : Scan.scan (bytes.dropWhile isNoise) ≠ .incomplete := by
    intro hincomplete
    simp [takeItem, hincomplete] at h
  have hwaiting : (bytes ++ more).dropWhile isNoise = bytes.dropWhile isNoise ++ more := by
    rw [List.dropWhile_append, if_neg]
    intro hempty
    exact hscan (by rw [List.isEmpty_iff.mp hempty]; rfl)
  have hsame := Scan.scan_append hscan more
  have hle : ∀ n, (Scan.scan (bytes.dropWhile isNoise)).consumed? = some n →
      n ≤ (bytes.dropWhile isNoise).length := fun n => Scan.consumed_le
  unfold takeItem at h ⊢
  simp only [hwaiting, hsame] at h ⊢
  cases hfound : Scan.scan (bytes.dropWhile isNoise) with
  | incomplete => exact absurd hfound hscan
  | frame found n =>
      simp only [hfound, Prod.mk.injEq] at h ⊢
      rw [List.drop_append_of_le_length (hle n (by rw [hfound]; rfl)), h.2]
      exact ⟨h.1, rfl⟩
  | invalid cause n =>
      simp only [hfound, Prod.mk.injEq] at h ⊢
      rw [List.drop_append_of_le_length (hle n (by rw [hfound]; rfl)), h.2]
      exact ⟨h.1, rfl⟩

/-- Waiting bytes without an item only lose noise, which does not matter to what comes in later. -/
theorem takeItem_append_of_none {bytes rest : List UInt8} (h : takeItem bytes = (none, rest))
    (more : List UInt8) : takeItem (rest ++ more) = takeItem (bytes ++ more) := by
  have hrest : rest = bytes.dropWhile isNoise := by
    unfold takeItem at h
    dsimp only at h
    split at h
    · simp at h
    · simp only [Prod.mk.injEq, true_and] at h
      exact h.symm
    · simp at h
  rw [hrest, takeItem_dropWhile]

theorem takeItems_congr {a b : List UInt8} (h : takeItem a = takeItem b) : takeItems a = takeItems b := by
  rcases hitem : takeItem b with ⟨_ | item, rest⟩
  · rw [takeItems_of_none (h.trans hitem), takeItems_of_none hitem]
  · rw [takeItems_of_some (h.trans hitem), takeItems_of_some hitem]

/-- Taking everything out before more bytes come in comes to the same as taking everything out afterwards. -/
theorem takeItems_append (bytes more : List UInt8) :
    takeItems (bytes ++ more) =
      ((takeItems bytes).1 ++ (takeItems ((takeItems bytes).2 ++ more)).1,
        (takeItems ((takeItems bytes).2 ++ more)).2) := by
  -- Where no item is left, what stays behind is the bytes without noise, and both sides go on from there.
  fun_induction takeItems bytes with
  | case1 bytes rest h => exact (takeItems_congr (takeItem_append_of_none h more)).symm
  | case2 bytes item rest h _ ih =>
      rw [takeItems_of_some (takeItem_append_of_some h more), ih]
      rfl

/-! ## Runs of calls -/

/-- What is done with a buffer. -/
inductive BufferCall where
  /-- Append a chunk that has come in. -/
  | extend (chunk : List UInt8)
  /-- Ask for the next frame or fault. -/
  | next
  /-- Ask for every frame and fault. -/
  | drain

def BufferCall.chunk : BufferCall → List UInt8
  | extend chunk => chunk
  | next => []
  | drain => []

/-- The frames and faults that a call gives out, and the buffer afterwards. -/
def call (buffer : FrameBuffer) : BufferCall → List (Except FrameError Frame) × FrameBuffer
  | .extend chunk => ([], buffer.extend chunk)
  | .next => (buffer.next.1.toList, buffer.next.2)
  | .drain => buffer.drain

/-- The frames and faults that calls give out, and the buffer afterwards. -/
def run (buffer : FrameBuffer) : List BufferCall → List (Except FrameError Frame) × FrameBuffer
  | [] => ([], buffer)
  | c :: rest => ((buffer.call c).1 ++ ((buffer.call c).2.run rest).1, ((buffer.call c).2.run rest).2)

def received (calls : List BufferCall) : List UInt8 := calls.flatMap BufferCall.chunk

/-- Whether there is room for what a call brings in. -/
def hasRoom (buffer : FrameBuffer) : BufferCall → Prop
  | .extend chunk => buffer.bytes.length + chunk.length ≤ buffer.limit
  | .next => True
  | .drain => True

/-- Whether there is room for what each of some calls brings in. -/
def fits (buffer : FrameBuffer) : List BufferCall → Prop
  | [] => True
  | c :: rest => buffer.hasRoom c ∧ (buffer.call c).2.fits rest

theorem extend_eq {buffer : FrameBuffer} {chunk : List UInt8}
    (h : buffer.bytes.length + chunk.length ≤ buffer.limit) :
    buffer.extend chunk = { buffer with bytes := buffer.bytes ++ chunk } := by
  rw [extend, clip, if_pos (by rw [List.length_append]; exact h)]

/-- A call gives out what the bytes at hand and the bytes that it brings in start with, and leaves the rest. -/
theorem takeItems_call {buffer : FrameBuffer} {c : BufferCall} (h : buffer.hasRoom c) (later : List UInt8) :
    takeItems (buffer.bytes ++ (c.chunk ++ later)) =
      ((buffer.call c).1 ++ (takeItems ((buffer.call c).2.bytes ++ later)).1,
        (takeItems ((buffer.call c).2.bytes ++ later)).2) := by
  cases c with
  | extend chunk => rw [call, extend_eq h, BufferCall.chunk, ← List.append_assoc, List.nil_append]
  | next =>
      rw [BufferCall.chunk, List.nil_append]
      rcases hitem : takeItem buffer.bytes with ⟨_ | item, rest⟩
      · simp only [call, next, hitem]
        exact (takeItems_congr (takeItem_append_of_none hitem later)).symm
      · simp only [call, next, hitem]
        exact takeItems_of_some (takeItem_append_of_some hitem later)
  | drain => exact takeItems_append buffer.bytes later

/-- Calls give out what the bytes at hand and the bytes that they bring in start with, and leave the rest. -/
theorem takeItems_run {buffer : FrameBuffer} {calls : List BufferCall} (h : buffer.fits calls) :
    takeItems (buffer.bytes ++ received calls) =
      ((buffer.run calls).1 ++ (takeItems (buffer.run calls).2.bytes).1,
        (takeItems (buffer.run calls).2.bytes).2) := by
  induction calls generalizing buffer with
  | nil => rw [received, List.flatMap_nil, List.append_nil]; rfl
  | cons c rest ih =>
      obtain ⟨hroom, hrest⟩ := h
      rw [show received (c :: rest) = c.chunk ++ received rest from List.flatMap_cons,
        takeItems_call hroom, ih hrest, ← List.append_assoc]
      rfl

theorem run_append (buffer : FrameBuffer) (a b : List BufferCall) :
    buffer.run (a ++ b) =
      ((buffer.run a).1 ++ ((buffer.run a).2.run b).1, ((buffer.run a).2.run b).2) := by
  induction a generalizing buffer with
  | nil => rfl
  | cons c rest ih => simp only [List.cons_append, run, ih, List.append_assoc]

theorem run_drain {limit : Nat} {calls : List BufferCall} (h : (empty limit).fits calls) :
    ((empty limit).run (calls ++ [.drain])).1 = (takeItems (received calls)).1 ∧
      ((empty limit).run (calls ++ [.drain])).2.bytes = (takeItems (received calls)).2 := by
  have hrun := takeItems_run h
  rw [show (empty limit).bytes = [] from rfl, List.nil_append] at hrun
  rw [run_append, hrun]
  exact ⟨congrArg _ (List.append_nil _), rfl⟩

/-- Chunks, and the times at which frames are asked for, make no difference: a last draining brings the same
frames and faults to light, and leaves the same bytes waiting, as if the whole stream had come in at once. -/
theorem chunks_make_no_difference {limit large : Nat} {calls : List BufferCall}
    (hfits : (empty limit).fits calls) (hlarge : (received calls).length ≤ large) :
    ((empty limit).run (calls ++ [.drain])).1 =
        ((empty large).run [.extend (received calls), .drain]).1 ∧
      ((empty limit).run (calls ++ [.drain])).2.bytes =
        ((empty large).run [.extend (received calls), .drain]).2.bytes := by
  have hwhole : (empty large).fits [.extend (received calls)] := by
    refine ⟨?_, trivial⟩
    rw [hasRoom, show (empty large).bytes = [] from rfl, List.length_nil, Nat.zero_add]
    exact Nat.le_trans hlarge (Nat.le_max_left large 1)
  have hsame : received [.extend (received calls)] = received calls := List.append_nil _
  have hchunks := run_drain hfits
  have hall := run_drain hwhole
  rw [hsame] at hall
  exact ⟨hchunks.1.trans hall.1.symm, hchunks.2.trans hall.2.symm⟩

/-- A frame cut inside a stuffed pair behind noise, in a buffer that the whole stream would overflow. -/
theorem chunks_make_no_difference_split :
    let calls : List BufferCall :=
      [.extend [0x00, 0xD1, 0x3C, 0xDE], .next, .extend [0xD1, 0x15, 0xDF, 0xD1], .next]
    ((empty 7).run (calls ++ [.drain])).1 = ((empty 8).run [.extend (received calls), .drain]).1 ∧
      ((empty 7).run (calls ++ [.drain])).2.bytes =
        ((empty 8).run [.extend (received calls), .drain]).2.bytes :=
  chunks_make_no_difference
    ⟨show 0 + 4 ≤ 7 by decide, trivial, show 3 + 4 ≤ 7 by decide, trivial, trivial⟩ (by decide)

end FrameBuffer
end RailLayout
