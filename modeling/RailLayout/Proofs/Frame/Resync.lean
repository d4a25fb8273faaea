import RailLayout.Proofs.Frame.Found
import RailLayout.Proofs.Frame.Grammar

/-!
How a buffer finds its way back after bytes that are no frames. Where such bytes leave a stream is one of three places:
outside of frames, inside a frame that was left open, or there with a stuff byte last (`Place`). Taking items out does
not change the place (`FrameBuffer.after_takeItems`), so it says what the frame that comes next meets: a start marker
opens it, whatever was left open is given up for it, or its start marker is taken for a stuffed byte. In the last case
the frame is lost, with what was left open, but its end marker counts, and so the frames behind it are found
(`FrameBuffer.resynchronizes`).
-/

namespace RailLayout

/-! ## The tokens of a frame -/

namespace Token

def ofByte (b : UInt8) : Token := if h : isMarker b = false then plain b h else stuffed b

@[simp] theorem bytes_ofByte (b : UInt8) : (ofByte b).bytes = Frame.stuff b := by
  unfold ofByte Frame.stuff
  split
  · rename_i h
    rw [h]
    rfl
  · rename_i h
    rw [if_pos ((Bool.not_eq_false _).mp h)]
    rfl

theorem wire_map_ofByte (bytes : List UInt8) : wire (bytes.map ofByte) = bytes.flatMap Frame.stuff := by
  rw [wire, List.flatMap_map]
  simp only [bytes_ofByte]

/-- The token of a checksum. -/
def closing (body : List UInt8) : Token :=
  let check := 0 - byteSum body
  if h : isMarker check = false then plain check h else stuffed (check - stuffMarker)

theorem bytes_closing (body : List UInt8) : (closing body).bytes = Frame.closing body := by
  unfold closing Frame.closing
  dsimp only
  split
  · rename_i h
    rw [h]
    rfl
  · rename_i h
    rw [if_pos ((Bool.not_eq_false _).mp h)]
    rfl

end Token

namespace Frame

/-- The tokens of a frame: its code, its payload and its checksum. -/
def tokens (frame : Frame) : List Token :=
  (frame.code.byte :: frame.payload).map Token.ofByte ++ [Token.closing frame.body]

theorem length_tokens (frame : Frame) : frame.tokens.length = frame.payload.length + 2 := by
  rw [tokens, List.length_append, List.length_map]
  rfl

theorem encode_eq_wire (frame : Frame) : frame.encode = startMarker :: (Token.wire frame.tokens ++ [endMarker]) := by
  rw [tokens, Token.wire_append, Token.wire_map_ofByte, ← body, encode_eq, Token.wire, List.flatMap_singleton,
    Token.bytes_closing]

end Frame

/-! ## Where a stream stands -/

/-- Where a stream of bytes stands with regard to frames. -/
inductive Place where
  /-- In no frame: a start marker opens one. -/
  | outside
  /-- In a frame that is open. -/
  | inside
  /-- In a frame that is open, behind a stuff byte: the next byte is taken as it is. -/
  | escaped
  deriving DecidableEq

namespace Place

open Token

def next : Place → UInt8 → Place
  | outside, b => if b = startMarker then inside else outside
  | inside, b => if b = stuffMarker then escaped else if b = endMarker then outside else inside
  | escaped, _ => inside

/-- Where bytes leave a stream that began outside of frames. -/
def after (bytes : List UInt8) : Place := bytes.foldl next outside

theorem foldl_noise {noise : List UInt8} (h : startMarker ∉ noise) : noise.foldl next outside = outside := by
  induction noise with
  | nil => rfl
  | cons b rest ih =>
      obtain ⟨hb, hrest⟩ := not_or.mp (mt List.mem_cons.mpr h)
      rw [List.foldl_cons, next, if_neg (Ne.symm hb), ih hrest]

theorem foldl_bytes (token : Token) : token.bytes.foldl next inside = inside := by
  cases token with
  | stuffed b => rfl
  | plain b hplain =>
      simp only [isMarker, Bool.or_eq_false_iff, beq_eq_false_iff_ne] at hplain
      obtain ⟨⟨-, hstuff⟩, hend⟩ := hplain
      rw [bytes, List.foldl_cons, List.foldl_nil, next, if_neg hstuff, if_neg hend]

theorem foldl_wire (tokens : List Token) : (wire tokens).foldl next inside = inside := by
  induction tokens with
  | nil => rfl
  | cons token more ih => rw [wire_cons, List.foldl_append, foldl_bytes, ih]

theorem after_started {noise : List UInt8} (hnoise : startMarker ∉ noise) (tokens : List Token) (tail : List UInt8) :
    after (noise ++ startMarker :: (wire tokens ++ tail)) = tail.foldl next inside := by
  rw [after, List.foldl_append, foldl_noise hnoise, List.foldl_cons, next, if_pos rfl, List.foldl_append, foldl_wire]

end Place

namespace FrameBuffer

open Token Scan

/-! ## Waiting bytes -/

theorem takeItem_of_unstarted {bytes : List UInt8} (h : startMarker ∉ bytes) : takeItem bytes = (none, []) := by
  rw [takeItem_eq, scan_of_unstarted h]
  exact congrArg _ (List.dropWhile_eq_nil_iff.mpr (isNoise_of_mem h))

theorem drop_started (noise : List UInt8) (tokens : List Token) (tail : List UInt8) (n : Nat) :
    (noise ++ startMarker :: (wire tokens ++ tail)).drop (noise.length + (wire tokens).length + 1 + n) =
      tail.drop n := by
  have hlength : noise.length + (wire tokens).length + 1 = (noise ++ startMarker :: wire tokens).length := by
    rw [List.length_append, List.length_cons, Nat.add_assoc]
  rw [hlength, ← List.cons_append, ← List.append_assoc, List.drop_length_add_append]

section Started

variable {noise : List UInt8} (hnoise : startMarker ∉ noise) (tokens : List Token)
include hnoise

theorem takeItem_unfinished {lone : List UInt8} (h : Stop lone .unfinished) :
    takeItem (noise ++ startMarker :: (wire tokens ++ lone)) = (none, startMarker :: (wire tokens ++ lone)) := by
  rw [takeItem_eq, scan_started hnoise tokens h]
  exact congrArg _ (dropWhile_isNoise hnoise _)

theorem takeItem_restarted (rest : List UInt8) :
    takeItem (noise ++ startMarker :: (wire tokens ++ startMarker :: rest)) =
      (some (.error (.truncated ((wire tokens).length + 1))), startMarker :: rest) := by
  rw [takeItem_eq, scan_started hnoise tokens (.restarted rest)]
  exact congrArg _ (drop_started noise tokens (startMarker :: rest) 0)

theorem takeItem_closed (rest : List UInt8) :
    takeItem (noise ++ startMarker :: (wire tokens ++ endMarker :: rest)) =
      (some (Enclosed.toFrame ⟨contents tokens, wire tokens, .closed⟩), rest) := by
  have hdrop := drop_started noise tokens (endMarker :: rest) 1
  rw [takeItem_eq, scan_started hnoise tokens (.closed rest), ofTokens]
  cases Enclosed.toFrame ⟨contents tokens, wire tokens, .closed⟩ with
  | ok found => exact congrArg _ hdrop
  | error cause => exact congrArg _ hdrop

end Started

/-- Taking an item out, or noise if there is none, does not change where the bytes leave a stream. -/
theorem after_takeItem (bytes : List UInt8) : Place.after (takeItem bytes).2 = Place.after bytes := by
  by_cases hstart : startMarker ∈ bytes
  · obtain ⟨noise, tokens, tail, ending, hnoise, hstop, rfl⟩ := exists_started hstart
    rw [Place.after_started hnoise]
    cases hstop with
    | bare =>
        rw [takeItem_unfinished hnoise tokens .bare]
        exact Place.after_started List.not_mem_nil tokens []
    | stuff =>
        rw [takeItem_unfinished hnoise tokens .stuff]
        exact Place.after_started List.not_mem_nil tokens [stuffMarker]
    | closed rest =>
        rw [takeItem_closed hnoise tokens rest]
        rfl
    | restarted rest =>
        rw [takeItem_restarted hnoise tokens rest]
        rfl
  · rw [takeItem_of_unstarted hstart, Place.after, Place.after, Place.foldl_noise hstart, List.foldl_nil]

theorem after_takeItems (bytes : List UInt8) : Place.after (takeItems bytes).2 = Place.after bytes := by
  fun_induction takeItems bytes with
  | case1 bytes rest h => rw [← after_takeItem bytes, h]
  | case2 bytes item rest h more ih => exact ih.trans (by rw [← after_takeItem bytes, h])

/-- What is left when nothing can be taken out any more: nothing, or a frame that is open. -/
theorem waiting_takeItems (bytes : List UInt8) : (takeItems bytes).2 = [] ∨ ∃ tokens lone,
    Stop lone .unfinished ∧ (takeItems bytes).2 = startMarker :: (wire tokens ++ lone) := by
  fun_induction takeItems bytes with
  | case1 bytes rest h =>
      by_cases hstart : startMarker ∈ bytes
      · obtain ⟨noise, tokens, tail, ending, hnoise, hstop, rfl⟩ := exists_started hstart
        cases ending with
        | unfinished =>
            rw [takeItem_unfinished hnoise tokens hstop] at h
            cases h
            exact Or.inr ⟨tokens, tail, hstop, rfl⟩
        | restarted =>
            cases hstop
            rw [takeItem_restarted hnoise tokens] at h
            cases h
        | closed =>
            cases hstop
            rw [takeItem_closed hnoise tokens] at h
            cases h
      · rw [takeItem_of_unstarted hstart] at h
        cases h
        exact Or.inl rfl
  | case2 bytes item rest h more ih => exact ih

/-! ## Behind any bytes -/

/-- A frame whose start marker opens it is found; what was left open is given up for it. -/
theorem takeItems_of_not_escaped {garbage : List UInt8} (h : Place.after garbage ≠ .escaped) (first : Frame)
    (more : List UInt8) : ∃ items, takeItems (garbage ++ (first.encode ++ more)) =
      (items ++ .ok first :: (takeItems more).1, (takeItems more).2) := by
  have hfirst : takeItem (first.encode ++ more) = (some (.ok first), more) :=
    takeItem_encode (List.not_mem_nil (a := startMarker)) first more
  rw [takeItems_append]
  rcases waiting_takeItems garbage with hempty | ⟨tokens, lone, hlone, hopen⟩
  · refine ⟨(takeItems garbage).1, ?_⟩
    rw [hempty, List.nil_append, takeItems_of_some hfirst]
  · have hplace := after_takeItems garbage
    rw [hopen] at hplace
    cases hlone with
    | stuff => exact absurd (hplace.symm.trans (Place.after_started List.not_mem_nil tokens [stuffMarker])) h
    | bare =>
        have hgiven : takeItem (startMarker :: (wire tokens ++ (first.encode ++ more))) =
            (some (.error (.truncated ((wire tokens).length + 1))), first.encode ++ more) := by
          rw [first.encode_eq_wire]
          exact takeItem_restarted List.not_mem_nil tokens _
        refine ⟨(takeItems garbage).1 ++ [.error (.truncated ((wire tokens).length + 1))], ?_⟩
        rw [hopen, List.append_nil, List.cons_append, takeItems_of_some hgiven, takeItems_of_some hfirst,
          List.append_assoc]
        rfl

/-- A frame whose start marker is taken for a stuffed byte is lost, but its end marker counts. -/
theorem takeItems_of_escaped {garbage : List UInt8} (h : Place.after garbage = .escaped) (first : Frame)
    (more : List UInt8) : ∃ items lost, lost ≠ .ok first ∧ takeItems (garbage ++ (first.encode ++ more)) =
      (items ++ lost :: (takeItems more).1, (takeItems more).2) := by
  have hplace := (after_takeItems garbage).trans h
  rw [takeItems_append]
  rcases waiting_takeItems garbage with hempty | ⟨tokens, lone, hlone, hopen⟩
  · rw [hempty] at hplace
    cases hplace
  · rw [hopen] at hplace ⊢
    cases hlone with
    | bare => cases (Place.after_started List.not_mem_nil tokens []).symm.trans hplace
    | stuff =>
        let merged := tokens ++ stuffed startMarker :: first.tokens
        have hmerged : startMarker :: (wire tokens ++ [stuffMarker]) ++ (first.encode ++ more) =
            startMarker :: (wire merged ++ endMarker :: more) := by
          rw [first.encode_eq_wire, wire_append, wire_cons]
          simp only [Token.bytes, List.append_assoc, List.cons_append, List.nil_append]
        have hlost : takeItem (startMarker :: (wire merged ++ endMarker :: more)) =
            (some (Enclosed.toFrame ⟨contents merged, wire merged, .closed⟩), more) :=
          takeItem_closed List.not_mem_nil merged more
        refine ⟨(takeItems garbage).1, Enclosed.toFrame ⟨contents merged, wire merged, .closed⟩, fun hsame => ?_, ?_⟩
        · obtain ⟨-, check, hcontents⟩ := Enclosed.toFrame_eq_ok_iff.mp hsame
          have hlength := congrArg List.length hcontents
          simp only [contents, List.length_map, merged, List.length_append, List.length_cons, List.length_nil,
            first.length_tokens] at hlength
          omega
        · rw [hmerged, takeItems_of_some hlost]

/-- Bytes for which there is room are all kept, in any chunks. -/
theorem foldl_extend {buffer : FrameBuffer} {chunks : List (List UInt8)}
    (h : buffer.bytes.length + chunks.flatten.length ≤ buffer.limit) :
    chunks.foldl extend buffer = { buffer with bytes := buffer.bytes ++ chunks.flatten } := by
  induction chunks generalizing buffer with
  | nil => rw [List.flatten_nil, List.append_nil]; rfl
  | cons chunk rest ih =>
      rw [List.flatten_cons, List.length_append] at h
      have hchunk : buffer.bytes.length + chunk.length ≤ buffer.limit := by omega
      have hrest : (buffer.bytes ++ chunk).length + rest.flatten.length ≤ buffer.limit := by
        rw [List.length_append]
        omega
      rw [List.foldl_cons, extend_eq hchunk, ih hrest, List.flatten_cons, List.append_assoc]

theorem takeItems_flatMap_encode (frames : List Frame) :
    takeItems (frames.flatMap Frame.encode) = (frames.map .ok, []) := by
  have hquiet : ∀ part ∈ frames.map fun frame => (([] : List UInt8), frame), startMarker ∉ part.1 := by
    intro part hpart
    obtain ⟨frame, -, rfl⟩ := List.mem_map.mp hpart
    exact List.not_mem_nil
  have hsent := takeItems_sent hquiet []
  rw [sent, List.flatMap_map, List.map_map, List.append_nil, takeItems_of_none (takeItem_of_unstarted List.not_mem_nil),
    List.append_nil] at hsent
  exact hsent

/-- Behind any bytes at all a buffer with room for the stream finds its way back: it gives out every frame that comes
later than the first one, after whatever came before, and keeps nothing. The first frame comes right before them, unless
the bytes end in a frame that is open, with a stuff byte that takes the start marker of the first frame. So bytes that
are no frames cost at most one frame that comes after them. -/
theorem resynchronizes {limit : Nat} {garbage : List UInt8} {first : Frame} {later : List Frame}
    {chunks : List (List UInt8)} (hchunks : chunks.flatten = garbage ++ (first :: later).flatMap Frame.encode)
    (hroom : chunks.flatten.length ≤ limit) :
    ∃ before, (chunks.foldl extend (empty limit)).drain = (before ++ later.map .ok, empty limit) ∧
      (before.getLast? = some (.ok first) ↔ Place.after garbage ≠ .escaped) := by
  have hlater := takeItems_flatMap_encode later
  have hlimit : (empty limit).bytes.length + chunks.flatten.length ≤ (empty limit).limit := by
    rw [show (empty limit).bytes = [] from rfl, List.length_nil, Nat.zero_add]
    exact Nat.le_trans hroom (Nat.le_max_left limit 1)
  have hdrain : (chunks.foldl extend (empty limit)).drain =
      ((takeItems chunks.flatten).1, { empty limit with bytes := (takeItems chunks.flatten).2 }) := by
    rw [foldl_extend hlimit]
    rfl
  rw [hdrain, hchunks, List.flatMap_cons]
  by_cases h : Place.after garbage = .escaped
  · obtain ⟨items, lost, hlost, htaken⟩ := takeItems_of_escaped h first (later.flatMap Frame.encode)
    refine ⟨items ++ [lost], ?_, ?_⟩
    · rw [htaken, hlater, List.append_assoc]
      rfl
    · rw [List.getLast?_concat, Option.some.injEq]
      exact iff_of_false hlost (not_not.mpr h)
  · obtain ⟨items, htaken⟩ := takeItems_of_not_escaped h first (later.flatMap Frame.encode)
    refine ⟨items ++ [.ok first], ?_, ?_⟩
    · rw [htaken, hlater, List.append_assoc]
      rfl
    · rw [List.getLast?_concat]
      exact iff_of_true rfl h

/-- The bytes end in an open frame, with a stuff byte: of three frames that come in three chunks the first is lost. -/
theorem resynchronizes_escaped :
    let garbage : List UInt8 := [0x00, 0xD1, 0x29, 0xDE]
    let chunks : List (List UInt8) :=
      [garbage ++ [0xD1], [0x29, 0xD7, 0xDF, 0xD1, 0x29, 0x06, 0xDE], [0xF3, 0xDF, 0xD1, 0x29, 0xD7, 0xDF]]
    let first : Frame := ⟨.ping, []⟩
    let later : List Frame := [⟨.ping, [0x06]⟩, ⟨.ping, []⟩]
    Place.after garbage = .escaped ∧ chunks.flatten = garbage ++ (first :: later).flatMap Frame.encode ∧
      chunks.flatten.length ≤ 18 ∧
        ∃ before, (chunks.foldl extend (empty 18)).drain = (before ++ later.map .ok, empty 18) ∧
          before.getLast? ≠ some (.ok first) := by
  intro garbage chunks first later
  have hplace : Place.after garbage = .escaped := by decide
  have hchunks : chunks.flatten = garbage ++ (first :: later).flatMap Frame.encode := by decide
  obtain ⟨before, hdrain, hlast⟩ := resynchronizes hchunks (show chunks.flatten.length ≤ 18 by decide)
  exact ⟨hplace, hchunks, by decide, before, hdrain, fun hfirst => hlast.mp hfirst hplace⟩

end FrameBuffer
end RailLayout
