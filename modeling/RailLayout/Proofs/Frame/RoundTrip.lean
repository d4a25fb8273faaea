import RailLayout.Frame.Buffer

/-!
A frame is found in the bytes that it is sent as, whatever marker bytes its payload or its checksum holds,
whatever noise without a start marker stands before it and whatever comes after it. Frames sent one after the
other are therefore taken out again one by one.

The reading of enclosed bytes and their writing agree byte by byte (`Enclosed.read_stuff`); the only other fact
is that the two bytes of a stuffed checksum bring the sum to zero just as a plain one does (`byteSum_closing`).
-/

namespace RailLayout

theorem byteSum_append (a b : List UInt8) : byteSum (a ++ b) = byteSum a + byteSum b := by
  induction a with
  | nil => simp [byteSum]
  | cons x rest ih => simp only [List.cons_append, byteSum, ih, UInt8.add_assoc]

theorem FrameCode.ofByte?_byte (code : FrameCode) : ofByte? code.byte = some code := by
  cases code <;> rfl

/-! ## What is read between the markers -/

namespace Enclosed

/-- Bytes in front, with what travels for them. -/
def prepend (content sent : List UInt8) (e : Enclosed) : Enclosed :=
  ⟨content ++ e.content, sent ++ e.sent, e.ending⟩

theorem read_stuffed (b : UInt8) (rest : List UInt8) :
    read (stuffMarker :: b :: rest) = (read rest).cons b [stuffMarker, b] := by
  rw [read.eq_def]
  exact if_pos rfl

theorem read_plain {b : UInt8} (hb : isMarker b = false) (rest : List UInt8) :
    read (b :: rest) = (read rest).cons b [b] := by
  simp only [isMarker, Bool.or_eq_false_iff, beq_eq_false_iff_ne] at hb
  obtain ⟨⟨hstart, hstuff⟩, hend⟩ := hb
  rw [read.eq_def]
  dsimp only
  rw [if_neg hstuff, if_neg hend, if_neg hstart]

theorem read_endMarker (rest : List UInt8) : read (endMarker :: rest) = ⟨[], [], .closed⟩ := by
  rw [read.eq_def]
  dsimp only
  rw [if_neg (by decide), if_pos rfl]

theorem read_startMarker (rest : List UInt8) : read (startMarker :: rest) = ⟨[], [], .restarted⟩ := by
  rw [read.eq_def]
  dsimp only
  rw [if_neg (by decide), if_neg (by decide), if_pos rfl]

/-- Writing a byte and reading it again gives the byte. -/
theorem read_stuff (b : UInt8) (rest : List UInt8) :
    read (Frame.stuff b ++ rest) = (read rest).prepend [b] (Frame.stuff b) := by
  unfold Frame.stuff
  cases hb : isMarker b with
  | true => exact read_stuffed b rest
  | false => exact read_plain hb rest

theorem read_flatMap_stuff (bytes rest : List UInt8) :
    read (bytes.flatMap Frame.stuff ++ rest) =
      (read rest).prepend bytes (bytes.flatMap Frame.stuff) := by
  induction bytes with
  | nil => rfl
  | cons b more ih =>
      rw [List.flatMap_cons, List.append_assoc, read_stuff, ih]
      simp only [prepend, List.append_assoc, List.cons_append, List.nil_append]

theorem toFrame_eq_ok {e : Enclosed} {code : FrameCode} {payload : List UInt8} {check : UInt8}
    (hcontent : e.content = code.byte :: (payload ++ [check])) (hsum : byteSum e.sent = 0) :
    e.toFrame = .ok ⟨code, payload⟩ := by
  obtain ⟨second, more, hmore⟩ := List.exists_cons_of_ne_nil (List.concat_ne_nil check payload)
  have hpayload : (second :: more).dropLast = payload := by rw [← hmore, List.dropLast_concat]
  rw [hmore] at hcontent
  simp only [toFrame, hcontent, if_pos hsum, FrameCode.ofByte?_byte, hpayload]

end Enclosed

namespace Frame

/-! ## The checksum -/

/-- The checksum of a body, without its stuff byte. -/
def check (body : List UInt8) : UInt8 :=
  let check := 0 - byteSum body
  if isMarker check then check - stuffMarker else check

/-- A checksum and its stuff byte, if it has one, bring a body to zero. -/
theorem byteSum_closing (body : List UInt8) : byteSum body + byteSum (closing body) = 0 := by
  unfold closing
  dsimp only
  split
  · simp only [byteSum]
    grind
  · simp only [byteSum]
    grind

theorem read_closing (body rest : List UInt8) :
    Enclosed.read (closing body ++ endMarker :: rest) = ⟨[check body], closing body, .closed⟩ := by
  unfold closing check
  dsimp only
  split
  · rw [List.cons_append, List.cons_append, List.nil_append, Enclosed.read_stuffed,
      Enclosed.read_endMarker]
    rfl
  · rename_i hplain
    rw [List.cons_append, List.nil_append, Enclosed.read_plain (by simpa using hplain),
      Enclosed.read_endMarker]
    rfl

/-! ## Whole frames -/

/-- The bytes of a frame between its markers, stuffed, without the checksum. -/
def body (frame : Frame) : List UInt8 := (frame.code.byte :: frame.payload).flatMap stuff

/-- What is read after the start marker of a frame. -/
def enclosed (frame : Frame) : Enclosed :=
  ⟨frame.code.byte :: (frame.payload ++ [check frame.body]), frame.body ++ closing frame.body, .closed⟩

theorem encode_eq (frame : Frame) :
    frame.encode = startMarker :: (frame.body ++ closing frame.body ++ [endMarker]) := rfl

theorem length_encode (frame : Frame) : frame.encode.length = frame.enclosed.sent.length + 2 := by
  simp only [encode_eq, enclosed, List.length_cons, List.length_append, List.length_nil]

theorem read_encode (frame : Frame) (rest : List UInt8) :
    Enclosed.read (frame.body ++ closing frame.body ++ [endMarker] ++ rest) = frame.enclosed := by
  have hclose := read_closing frame.body rest
  rw [show frame.body ++ closing frame.body ++ [endMarker] ++ rest =
      frame.body ++ (closing frame.body ++ endMarker :: rest) by simp only [List.append_assoc]; rfl]
  unfold body at hclose ⊢
  rw [Enclosed.read_flatMap_stuff, hclose]
  rfl

theorem toFrame_enclosed (frame : Frame) : frame.enclosed.toFrame = .ok frame :=
  Enclosed.toFrame_eq_ok rfl (by rw [enclosed, byteSum_append, byteSum_closing])

end Frame

namespace Scan

theorem isNoise_of_mem {noise : List UInt8} (h : startMarker ∉ noise) : ∀ b ∈ noise, isNoise b = true := by
  intro b hb
  rw [isNoise, bne_iff_ne]
  exact fun hstart => h (hstart ▸ hb)

theorem takeWhile_isNoise {noise : List UInt8} (h : startMarker ∉ noise) (rest : List UInt8) :
    (noise ++ startMarker :: rest).takeWhile isNoise = noise := by
  rw [List.takeWhile_append_of_pos (isNoise_of_mem h), List.takeWhile_cons_of_neg (by decide), List.append_nil]

theorem dropWhile_isNoise {noise : List UInt8} (h : startMarker ∉ noise) (rest : List UInt8) :
    (noise ++ startMarker :: rest).dropWhile isNoise = startMarker :: rest := by
  rw [List.dropWhile_append_of_pos (isNoise_of_mem h), List.dropWhile_cons_of_neg (by decide)]

theorem scan_eq_frame {noise rest : List UInt8} {e : Enclosed} {frame : Frame}
    (hnoise : startMarker ∉ noise) (hread : Enclosed.read rest = e) (hclosed : e.ending = .closed)
    (hframe : e.toFrame = .ok frame) :
    scan (noise ++ startMarker :: rest) = .frame frame (noise.length + e.sent.length + 2) := by
  unfold scan
  simp only [takeWhile_isNoise hnoise, dropWhile_isNoise hnoise, hread, hclosed, hframe]

theorem scan_encode {noise : List UInt8} (hnoise : startMarker ∉ noise) (frame : Frame)
    (rest : List UInt8) :
    scan (noise ++ frame.encode ++ rest) = .frame frame (noise.length + frame.encode.length) := by
  rw [Frame.length_encode, Frame.encode_eq, List.append_assoc, List.cons_append]
  exact scan_eq_frame hnoise (Frame.read_encode frame rest) rfl (Frame.toFrame_enclosed frame)

end Scan

namespace FrameBuffer

theorem takeItem_encode {noise : List UInt8} (hnoise : startMarker ∉ noise) (frame : Frame)
    (rest : List UInt8) :
    takeItem (noise ++ frame.encode ++ rest) = (some (.ok frame), rest) := by
  have hwaiting : (noise ++ frame.encode ++ rest).dropWhile isNoise = frame.encode ++ rest := by
    rw [List.append_assoc, Frame.encode_eq, List.cons_append]
    exact Scan.dropWhile_isNoise hnoise _
  have hscan := Scan.scan_encode (List.not_mem_nil (a := startMarker)) frame rest
  rw [List.nil_append, List.length_nil, Nat.zero_add] at hscan
  simp only [takeItem, hwaiting, hscan, List.drop_left]

theorem takeItems_of_some {bytes rest : List UInt8} {item : Except FrameError Frame}
    (h : takeItem bytes = (some item, rest)) :
    takeItems bytes = (item :: (takeItems rest).1, (takeItems rest).2) := by
  rw [takeItems]
  split
  · rename_i heq
    rw [h] at heq
    simp at heq
  · rename_i heq
    rw [h] at heq
    simp only [Prod.mk.injEq, Option.some.injEq] at heq
    rw [heq.1, heq.2]

theorem takeItems_of_none {bytes rest : List UInt8} (h : takeItem bytes = (none, rest)) :
    takeItems bytes = ([], rest) := by
  rw [takeItems]
  split
  · rename_i heq
    rw [h] at heq
    simp only [Prod.mk.injEq, true_and] at heq
    rw [heq]
  · rename_i heq
    rw [h] at heq
    simp at heq

/-- What travels for frames, each behind some noise. -/
def sent (frames : List (List UInt8 × Frame)) : List UInt8 :=
  frames.flatMap fun part => part.1 ++ part.2.encode

theorem takeItems_sent {frames : List (List UInt8 × Frame)}
    (hnoise : ∀ part ∈ frames, startMarker ∉ part.1) (rest : List UInt8) :
    takeItems (sent frames ++ rest) =
      (frames.map (fun part => .ok part.2) ++ (takeItems rest).1, (takeItems rest).2) := by
  induction frames with
  | nil => rfl
  | cons part more ih =>
      have hfirst := takeItem_encode (hnoise part List.mem_cons_self) part.2 (sent more ++ rest)
      have hmore := ih fun other hother => hnoise other (List.mem_cons_of_mem part hother)
      rw [show sent (part :: more) = part.1 ++ part.2.encode ++ sent more from List.flatMap_cons,
        List.append_assoc, takeItems_of_some hfirst, hmore]
      rfl

/-- A frame that is sent is received: behind noise and before anything, a scan finds it with all its bytes, and
of a stream of frames with noise between them every frame is taken out, in order. -/
theorem sent_frames_received {noise : List UInt8} {frames : List (List UInt8 × Frame)}
    (hnoise : startMarker ∉ noise) (hbetween : ∀ part ∈ frames, startMarker ∉ part.1) (frame : Frame)
    (rest : List UInt8) :
    Scan.scan (noise ++ frame.encode ++ rest) = .frame frame (noise.length + frame.encode.length) ∧
      takeItems (sent frames ++ rest) =
        (frames.map (fun part => .ok part.2) ++ (takeItems rest).1, (takeItems rest).2) :=
  ⟨Scan.scan_encode hnoise frame rest, takeItems_sent hbetween rest⟩

/-- A payload of all three markers behind noise, and two frames, the first with a stuffed checksum. -/
theorem sent_frames_received_markers :
    Scan.scan ([0xDE, 0xDF] ++ Frame.encode ⟨.asc2Get, [0xD1, 0xDE, 0xDF]⟩ ++ [0xD1]) =
        .frame ⟨.asc2Get, [0xD1, 0xDE, 0xDF]⟩ 12 ∧
      takeItems (sent [([0x00], ⟨.ping, [0x06]⟩), ([], ⟨.ping, []⟩)] ++ [0xD1]) =
        ([.ok ⟨.ping, [0x06]⟩, .ok ⟨.ping, []⟩] ++ (takeItems [0xD1]).1, (takeItems [0xD1]).2) :=
  sent_frames_received (by decide) (by decide) ⟨.asc2Get, [0xD1, 0xDE, 0xDF]⟩ [0xD1]

end FrameBuffer
end RailLayout
