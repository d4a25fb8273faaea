import Mathlib.Data.List.Basic
import Mathlib.Data.List.TakeWhile
import RailLayout.Proofs.Frame.RoundTrip

/-!
The grammar of frames. After a start marker bytes are tokens, each a byte that is no marker or a stuff byte with the
byte after it, until an end marker, another start marker or the end of the bytes comes (`Token.exists_wire`). A scan
finds a frame exactly where two tokens or more stand between the first start marker and an end marker, their bytes sum
to zero and the first of them is a code. It waits for more exactly where there is no start marker, or tokens up to the
end, perhaps with a stuff byte whose byte has not come in (`Scan.follows_grammar`).
-/

namespace RailLayout

/-- The sum of bytes as numbers. -/
def byteTotal (bytes : List UInt8) : Nat := bytes.foldr (fun b total => b.toNat + total) 0

theorem toNat_byteSum (bytes : List UInt8) : (byteSum bytes).toNat = byteTotal bytes % 256 := by
  induction bytes with
  | nil => rfl
  | cons b rest ih =>
      have htotal : byteTotal (b :: rest) = b.toNat + byteTotal rest := rfl
      rw [byteSum, UInt8.toNat_add, ih, htotal, Nat.add_mod_mod]

theorem byteSum_eq_zero_iff (bytes : List UInt8) : byteSum bytes = 0 ↔ byteTotal bytes % 256 = 0 := by
  rw [← toNat_byteSum, ← UInt8.toNat_inj, UInt8.toNat_zero]

theorem FrameCode.byte_of_ofByte? {b : UInt8} {code : FrameCode} (h : ofByte? b = some code) : code.byte = b :=
  eq_of_beq (List.find?_some (p := fun code : FrameCode => code.byte == b) h)

/-! ## Tokens -/

/-- One byte of what a frame holds, as it travels: by itself if it is no marker, or behind a stuff byte. -/
inductive Token where
  | plain (byte : UInt8) (unmarked : isMarker byte = false)
  | stuffed (byte : UInt8)

namespace Token

def byte : Token → UInt8
  | plain b _ => b
  | stuffed b => b

def bytes : Token → List UInt8
  | plain b _ => [b]
  | stuffed b => [stuffMarker, b]

/-- The bytes of tokens without stuffing. -/
def contents (tokens : List Token) : List UInt8 := tokens.map byte

/-- The bytes of tokens as they travel. -/
def wire (tokens : List Token) : List UInt8 := tokens.flatMap bytes

theorem wire_cons (token : Token) (tokens : List Token) : wire (token :: tokens) = token.bytes ++ wire tokens :=
  List.flatMap_cons

theorem wire_append (a b : List Token) : wire (a ++ b) = wire a ++ wire b := List.flatMap_append

/-- What comes after tokens where the next byte begins no other one, and how the bytes come to an end with it. -/
inductive Stop : List UInt8 → Ending → Prop where
  | bare : Stop [] .unfinished
  /-- A stuff byte without a byte after it. -/
  | stuff : Stop [stuffMarker] .unfinished
  | closed (rest : List UInt8) : Stop (endMarker :: rest) .closed
  | restarted (rest : List UInt8) : Stop (startMarker :: rest) .restarted

/-- Any bytes are tokens as far as a stop. -/
theorem exists_wire (bytes : List UInt8) : ∃ tokens tail ending, bytes = wire tokens ++ tail ∧ Stop tail ending := by
  fun_induction Enclosed.read bytes with
  | case1 => exact ⟨[], [], _, rfl, .bare⟩
  | case2 => exact ⟨[], [stuffMarker], _, rfl, .stuff⟩
  | case3 c more ih =>
      obtain ⟨tokens, tail, ending, rfl, hstop⟩ := ih
      exact ⟨stuffed c :: tokens, tail, ending, rfl, hstop⟩
  | case4 rest => exact ⟨[], endMarker :: rest, _, rfl, .closed rest⟩
  | case5 rest => exact ⟨[], startMarker :: rest, _, rfl, .restarted rest⟩
  | case6 b rest hstuff hend hstart ih =>
      obtain ⟨tokens, tail, ending, rfl, hstop⟩ := ih
      have hplain : isMarker b = false := by simp [isMarker, hstuff, hend, hstart]
      exact ⟨plain b hplain :: tokens, tail, ending, rfl, hstop⟩

end Token

namespace Enclosed

open Token

theorem read_token (token : Token) (rest : List UInt8) :
    read (token.bytes ++ rest) = (read rest).prepend [token.byte] token.bytes := by
  cases token with
  | plain b hplain => exact read_plain hplain rest
  | stuffed b => exact read_stuffed b rest

theorem read_wire (tokens : List Token) (rest : List UInt8) :
    read (wire tokens ++ rest) = (read rest).prepend (contents tokens) (wire tokens) := by
  induction tokens with
  | nil => rfl
  | cons token more ih =>
      rw [wire_cons, List.append_assoc, read_token, ih]
      simp only [prepend, contents, List.map_cons, List.append_assoc, List.cons_append, List.nil_append]

/-- Tokens that have come to an end are read in full. -/
theorem read_wire_of_stop (tokens : List Token) {tail : List UInt8} {ending : Ending} (h : Stop tail ending)
    (hended : ending ≠ .unfinished) : read (wire tokens ++ tail) = ⟨contents tokens, wire tokens, ending⟩ := by
  rw [read_wire]
  cases h with
  | bare => exact absurd rfl hended
  | stuff => exact absurd rfl hended
  | closed rest => rw [read_endMarker, prepend, List.append_nil, List.append_nil]
  | restarted rest => rw [read_startMarker, prepend, List.append_nil, List.append_nil]

theorem toFrame_eq_ok_iff {e : Enclosed} {frame : Frame} : e.toFrame = .ok frame ↔
    byteSum e.sent = 0 ∧ ∃ check, e.content = frame.code.byte :: (frame.payload ++ [check]) := by
  refine ⟨fun h => ?_, fun ⟨hsum, check, hcontent⟩ => toFrame_eq_ok hcontent hsum⟩
  unfold toFrame at h
  split at h
  · cases h
  · cases h
  · rename_i first second rest hcontent
    dsimp only at h
    split at h
    · rename_i hsum
      split at h
      · rename_i code hcode
        cases h
        refine ⟨hsum, (second :: rest).getLast (List.cons_ne_nil second rest), ?_⟩
        rw [hcontent, List.dropLast_append_getLast, FrameCode.byte_of_ofByte? hcode]
      · cases h
    · cases h

end Enclosed

/-! ## What a scan finds -/

/-- The parts of bytes that begin with a frame: noise, a start marker, two tokens or more, an end marker, and the bytes
after it. -/
structure Envelope where
  noise : List UInt8
  first : Token
  between : List Token
  last : Token
  rest : List UInt8
  unstarted : startMarker ∉ noise
  balanced : byteTotal (Token.wire (first :: (between ++ [last]))) % 256 = 0

namespace Envelope

/-- The bytes between the markers. -/
def body (e : Envelope) : List UInt8 := Token.wire (e.first :: (e.between ++ [e.last]))

def bytes (e : Envelope) : List UInt8 := e.noise ++ [startMarker] ++ e.body ++ [endMarker] ++ e.rest

theorem bytes_eq (e : Envelope) : e.bytes = e.noise ++ startMarker :: (e.body ++ endMarker :: e.rest) := by
  simp only [bytes, List.append_assoc, List.cons_append, List.nil_append]

/-- How many bytes there are up to the end marker. -/
def length (e : Envelope) : Nat := e.noise.length + e.body.length + 2

/-- Whether the frame is the one that the tokens hold: its code is the first of them, and its payload is those between
the first and the last. -/
def Holds (e : Envelope) (frame : Frame) : Prop :=
  frame.code.byte = e.first.byte ∧ frame.payload = Token.contents e.between

end Envelope

namespace Scan

open Token

/-- Whether the bytes may become a frame when more come in: there is no start marker, or all after the first one are
tokens, perhaps with a stuff byte whose byte is still to come. -/
def Pending (bytes : List UInt8) : Prop :=
  startMarker ∉ bytes ∨ ∃ noise tokens lone, startMarker ∉ noise ∧ (lone = [] ∨ lone = [stuffMarker]) ∧
    bytes = noise ++ [startMarker] ++ wire tokens ++ lone

theorem scan_of_unstarted {bytes : List UInt8} (h : startMarker ∉ bytes) : scan bytes = .incomplete := by
  rw [scan, List.dropWhile_eq_nil_iff.mpr (isNoise_of_mem h)]

/-- What a scan makes of tokens behind a start marker and some bytes skipped, as they come to an end. -/
def ofTokens (skipped : Nat) (tokens : List Token) : Ending → Scan
  | .unfinished => .incomplete
  | .restarted => .invalid (.truncated ((wire tokens).length + 1)) (skipped + (wire tokens).length + 1)
  | .closed =>
    match Enclosed.toFrame ⟨contents tokens, wire tokens, .closed⟩ with
    | .ok found => .frame found (skipped + (wire tokens).length + 2)
    | .error cause => .invalid cause (skipped + (wire tokens).length + 2)

theorem scan_started {noise : List UInt8} (hnoise : startMarker ∉ noise) (tokens : List Token) {tail : List UInt8}
    {ending : Ending} (h : Stop tail ending) :
    scan (noise ++ startMarker :: (wire tokens ++ tail)) = ofTokens noise.length tokens ending := by
  have hread := Enclosed.read_wire_of_stop tokens h
  simp only [scan, takeWhile_isNoise hnoise, dropWhile_isNoise hnoise]
  cases h with
  | bare => rw [Enclosed.read_wire]; rfl
  | stuff => rw [Enclosed.read_wire]; rfl
  | closed rest => rw [hread fun hended => by cases hended]; rfl
  | restarted rest => rw [hread fun hended => by cases hended]; rfl

/-- Bytes with a start marker are noise, the first start marker, tokens and a stop. -/
theorem exists_started {bytes : List UInt8} (h : startMarker ∈ bytes) : ∃ noise tokens tail ending,
    startMarker ∉ noise ∧ Stop tail ending ∧ bytes = noise ++ startMarker :: (wire tokens ++ tail) := by
  obtain ⟨noise, rest, rfl, hnoise⟩ := List.eq_append_cons_of_mem h
  obtain ⟨tokens, tail, ending, rfl, hstop⟩ := Token.exists_wire rest
  exact ⟨noise, tokens, tail, ending, hnoise, hstop, rfl⟩

theorem scan_eq_incomplete_iff (bytes : List UInt8) : scan bytes = .incomplete ↔ Pending bytes := by
  constructor
  · intro h
    by_cases hstart : startMarker ∈ bytes
    · obtain ⟨noise, tokens, tail, ending, hnoise, hstop, rfl⟩ := exists_started hstart
      rw [scan_started hnoise tokens hstop] at h
      refine Or.inr ⟨noise, tokens, tail, hnoise, ?_, by simp⟩
      cases hstop with
      | bare => exact Or.inl rfl
      | stuff => exact Or.inr rfl
      | closed rest =>
          rw [ofTokens] at h
          split at h <;> cases h
      | restarted rest => cases h
    · exact Or.inl hstart
  · rintro (hnone | ⟨noise, tokens, lone, hnoise, hlone, rfl⟩)
    · exact scan_of_unstarted hnone
    · have hstop : Stop lone .unfinished := by
        rcases hlone with rfl | rfl
        · exact .bare
        · exact .stuff
      rw [List.append_assoc, List.append_assoc]
      exact scan_started hnoise tokens hstop

theorem contents_eq_iff {tokens : List Token} {b check : UInt8} {payload : List UInt8} :
    contents tokens = b :: (payload ++ [check]) ↔ ∃ first between last,
      tokens = first :: (between ++ [last]) ∧ first.byte = b ∧ contents between = payload ∧ last.byte = check := by
  constructor
  · intro h
    obtain ⟨first, more, rfl, hfirst, hmore⟩ := List.map_eq_cons_iff.mp h
    obtain ⟨between, final, rfl, hbetween, hfinal⟩ := List.map_eq_append_iff.mp hmore
    obtain ⟨last, rfl, hlast⟩ := List.map_eq_singleton_iff.mp hfinal
    exact ⟨first, between, last, rfl, hfirst, hbetween, hlast⟩
  · rintro ⟨first, between, last, rfl, rfl, rfl, rfl⟩
    rw [contents, List.map_cons, List.map_append]
    rfl

theorem scan_eq_frame_iff (bytes : List UInt8) (frame : Frame) (n : Nat) :
    scan bytes = .frame frame n ↔ ∃ e : Envelope, bytes = e.bytes ∧ e.Holds frame ∧ n = e.length := by
  constructor
  · intro h
    by_cases hstart : startMarker ∈ bytes
    · obtain ⟨noise, tokens, tail, ending, hnoise, hstop, rfl⟩ := exists_started hstart
      rw [scan_started hnoise tokens hstop] at h
      cases hstop with
      | bare => cases h
      | stuff => cases h
      | restarted rest => cases h
      | closed rest =>
          rw [ofTokens] at h
          split at h
          · rename_i found hfound
            cases h
            obtain ⟨hsum, check, hcontents⟩ := Enclosed.toFrame_eq_ok_iff.mp hfound
            obtain ⟨first, between, last, rfl, hcode, hpayload, -⟩ := contents_eq_iff.mp hcontents
            let e : Envelope := ⟨noise, first, between, last, rest, hnoise, (byteSum_eq_zero_iff _).mp hsum⟩
            exact ⟨e, e.bytes_eq.symm, ⟨hcode.symm, hpayload.symm⟩, rfl⟩
          · cases h
    · rw [scan_of_unstarted hstart] at h
      cases h
  · rintro ⟨e, rfl, ⟨hcode, hpayload⟩, rfl⟩
    have hcontents : contents (e.first :: (e.between ++ [e.last])) =
        frame.code.byte :: (frame.payload ++ [e.last.byte]) := by
      rw [contents_eq_iff]
      exact ⟨e.first, e.between, e.last, rfl, hcode.symm, hpayload.symm, rfl⟩
    have hframe : Enclosed.toFrame ⟨contents (e.first :: (e.between ++ [e.last])), e.body, .closed⟩ = .ok frame :=
      Enclosed.toFrame_eq_ok hcontents ((byteSum_eq_zero_iff _).mpr e.balanced)
    rw [e.bytes_eq, Envelope.body, scan_started e.unstarted _ (.closed e.rest), ofTokens, ← Envelope.body, hframe]
    rfl

/-- A scan finds a frame exactly where its grammar has one, with the bytes up to the end marker, and waits for more
bytes exactly where they may become a frame. -/
theorem follows_grammar (bytes : List UInt8) :
    (∀ frame n, scan bytes = .frame frame n ↔ ∃ e : Envelope, bytes = e.bytes ∧ e.Holds frame ∧ n = e.length) ∧
      (scan bytes = .incomplete ↔ Pending bytes) :=
  ⟨scan_eq_frame_iff bytes, scan_eq_incomplete_iff bytes⟩

end Scan
end RailLayout
