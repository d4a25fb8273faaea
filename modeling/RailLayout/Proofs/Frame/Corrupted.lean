import RailLayout.Proofs.Frame.Resync

/-!
A frame in which one byte has changed on the way. Unless a stuff byte has changed, or a byte has become a marker where
no stuff byte comes before it, the bytes still read as the same number of tokens (`Token.exists_wire_set`). So the frame
ends where it did, and what tells that it is wrong is its sum, which the change brings away from zero
(`Scan.corruption_detected`).
-/

namespace RailLayout

/-! ## Stuff bytes -/

/-- For each byte that travels for a token, whether it is a stuff byte. -/
def Token.stuffing : Token → List Bool
  | plain _ _ => [false]
  | stuffed _ => [true, false]

namespace Frame

/-- For each byte that is sent for a frame, whether it is a stuff byte. -/
def stuffing (frame : Frame) : List Bool := false :: (frame.tokens.flatMap Token.stuffing ++ [false])

/-- Whether a byte that is sent for a frame, by its position, is a stuff byte. -/
def IsStuffing (frame : Frame) (i : Nat) : Prop := frame.stuffing[i]? = some true

instance (frame : Frame) (i : Nat) : Decidable (frame.IsStuffing i) :=
  inferInstanceAs (Decidable (frame.stuffing[i]? = some true))

end Frame

/-! ## One byte in place of another -/

theorem byteSum_set {bytes : List UInt8} {i : Nat} (h : i < bytes.length) (b : UInt8) :
    byteSum (bytes.set i b) = byteSum bytes + (b - bytes[i]) := by
  induction bytes generalizing i with
  | nil => cases h
  | cons first rest ih =>
      cases i with
      | zero =>
          simp only [List.set_cons_zero, List.getElem_cons_zero, byteSum]
          grind
      | succ i =>
          simp only [List.set_cons_succ, List.getElem_cons_succ, byteSum, ih (Nat.lt_of_succ_lt_succ h)]
          grind

namespace Token

theorem length_stuffing (tokens : List Token) : (tokens.flatMap stuffing).length = (wire tokens).length := by
  rw [wire, List.length_flatMap, List.length_flatMap]
  refine congrArg _ (List.map_congr_left fun token _ => ?_)
  cases token <;> rfl

/-- A byte in place of one that is no stuff byte leaves tokens, as many as before, if it is no marker or stands behind a
stuff byte. -/
theorem exists_wire_set {tokens : List Token} {i : Nat} {b : UInt8} (hi : i < (wire tokens).length)
    (hstuffing : (tokens.flatMap stuffing)[i]? ≠ some true)
    (hb : isMarker b = false ∨ (false :: tokens.flatMap stuffing)[i]? = some true) :
    ∃ changed : List Token, changed.length = tokens.length ∧ wire changed = (wire tokens).set i b := by
  induction tokens generalizing i with
  | nil => cases hi
  | cons token more ih =>
      cases token with
      | plain c hplain =>
          cases i with
          | zero =>
              obtain hb | hb := hb
              · exact ⟨plain b hb :: more, rfl, rfl⟩
              · cases hb
          | succ i =>
              obtain ⟨changed, hlength, hwire⟩ := ih (Nat.lt_of_succ_lt_succ hi) hstuffing hb
              exact ⟨plain c hplain :: changed, congrArg (· + 1) hlength, congrArg (c :: ·) hwire⟩
      | stuffed c =>
          rcases i with _ | _ | i
          · exact absurd rfl hstuffing
          · exact ⟨stuffed b :: more, rfl, rfl⟩
          · obtain ⟨changed, hlength, hwire⟩ :=
              ih (Nat.lt_of_succ_lt_succ (Nat.lt_of_succ_lt_succ hi)) hstuffing hb
            exact ⟨stuffed c :: changed, congrArg (· + 1) hlength, congrArg (stuffMarker :: c :: ·) hwire⟩

theorem getLast?_wire_concat (tokens : List Token) (last : Token) :
    (wire (tokens ++ [last])).getLast? = some last.byte := by
  rw [wire_append, wire, wire, List.flatMap_singleton]
  cases last with
  | plain b hplain => exact List.getLast?_concat
  | stuffed b => exact List.getLast?_append_cons _ _ _

end Token

/-! ## Frames with a wrong sum -/

namespace Frame

open Token

theorem byteSum_wire_tokens (frame : Frame) : byteSum (wire frame.tokens) = 0 := by
  rw [tokens, wire_append, wire_map_ofByte, ← body, wire, List.flatMap_singleton, bytes_closing, byteSum_append,
    byteSum_closing]

end Frame

namespace Enclosed

theorem toFrame_eq_checksum {e : Enclosed} {inner : List UInt8} {check : UInt8} (hcontent : e.content = inner ++ [check])
    (hinner : inner ≠ []) (hsum : byteSum e.sent ≠ 0) :
    e.toFrame = .error (.checksum (check - byteSum e.sent) check) := by
  obtain ⟨first, rest, rfl⟩ := List.exists_cons_of_ne_nil hinner
  obtain ⟨second, more, hmore⟩ := List.exists_cons_of_ne_nil (List.concat_ne_nil check rest)
  have hlast : (second :: more).getLast (List.cons_ne_nil second more) = check := by
    simp only [← hmore, List.getLast_concat]
  rw [List.cons_append, hmore] at hcontent
  simp only [toFrame, hcontent, if_neg hsum, hlast]

end Enclosed

namespace Scan

open Token

/-- One byte between the markers of a frame that has changed on the way is detected, whatever comes behind the frame:
the scan reports the checksum, with what it should be, and consumes the frame as it was. The byte that has changed may
be any but a stuff byte, and what it has become may be any byte but a marker, or any byte at all behind a stuff byte. -/
theorem corruption_detected {frame : Frame} {i : Nat} {b : UInt8} (hfirst : 0 < i) (hlast : i + 1 < frame.encode.length)
    (hstuffing : ¬frame.IsStuffing i) (hchanged : b ≠ frame.encode[i])
    (hb : isMarker b = false ∨ frame.IsStuffing (i - 1)) (rest : List UInt8) :
    ∃ check, (frame.encode.set i b).dropLast.getLast? = some check ∧
      scan (frame.encode.set i b ++ rest) =
        .invalid (.checksum (check - (b - frame.encode[i])) check) frame.encode.length := by
  obtain ⟨i, rfl⟩ := Nat.exists_eq_add_one_of_ne_zero (Nat.ne_of_gt hfirst)
  have hlength : frame.encode.length = (wire frame.tokens).length + 2 := by
    rw [frame.encode_eq_wire, List.length_cons, List.length_append, List.length_singleton]
  have hi : i < (wire frame.tokens).length := by omega
  have hflags : i < (frame.tokens.flatMap stuffing).length := length_stuffing frame.tokens ▸ hi
  have hset : frame.encode.set (i + 1) b = startMarker :: ((wire frame.tokens).set i b ++ [endMarker]) := by
    rw [frame.encode_eq_wire, List.set_cons_succ, List.set_append_left i b hi]
  have hold : frame.encode[i + 1] = (wire frame.tokens)[i] := by
    simp only [frame.encode_eq_wire, List.getElem_cons_succ, List.getElem_append_left hi]
  rw [Frame.IsStuffing, Frame.stuffing, List.getElem?_cons_succ, List.getElem?_append_left hflags] at hstuffing
  rw [Nat.add_sub_cancel, Frame.IsStuffing, Frame.stuffing, ← List.cons_append,
    List.getElem?_append_left (Nat.lt_succ_of_lt hflags)] at hb
  obtain ⟨changed, hcount, hwire⟩ := exists_wire_set hi hstuffing hb
  have hsum : byteSum (wire changed) = b - frame.encode[i + 1] := by
    rw [hwire, byteSum_set hi, frame.byteSum_wire_tokens, UInt8.zero_add, hold]
  have hwrong : byteSum (wire changed) ≠ 0 := by grind
  rw [frame.length_tokens] at hcount
  rcases List.eq_nil_or_concat' changed with rfl | ⟨inner, last, rfl⟩
  · cases hcount
  have hinner : contents inner ≠ [] := by
    intro hnone
    rw [List.map_eq_nil_iff.mp hnone, List.nil_append, List.length_singleton] at hcount
    omega
  have hframe : Enclosed.toFrame ⟨contents (inner ++ [last]), wire (inner ++ [last]), .closed⟩ =
      .error (.checksum (last.byte - (b - frame.encode[i + 1])) last.byte) := by
    rw [← hsum]
    exact Enclosed.toFrame_eq_checksum List.map_append hinner hwrong
  refine ⟨last.byte, ?_, ?_⟩
  · rw [hset, ← hwire, ← List.cons_append, List.dropLast_concat, List.getLast?_cons,
      getLast?_wire_concat]
    rfl
  · have hscan := scan_started (List.not_mem_nil (a := startMarker)) (inner ++ [last]) (.closed rest)
    have hsame := congrArg List.length hwire
    rw [List.length_set] at hsame
    rw [ofTokens, hframe, List.length_nil, Nat.zero_add, hsame, ← hlength, List.nil_append] at hscan
    rw [hset, ← hwire, List.cons_append, List.append_assoc]
    exact hscan

/-- A start marker in the payload has become an end marker behind its stuff byte, and a frame comes next. -/
theorem corruption_detected_escaped :
    let frame : Frame := ⟨.asc2Get, [0x15, 0xD1]⟩
    ¬frame.IsStuffing 4 ∧ frame.IsStuffing 3 ∧ frame.encode.set 4 0xDF = [0xD1, 0x3C, 0x15, 0xDE, 0xDF, 0x00, 0xDF] ∧
      scan (frame.encode.set 4 0xDF ++ [0xD1, 0x29, 0xD7, 0xDF]) = .invalid (.checksum 0xF2 0x00) 7 := by
  intro frame
  have hstuffing : ¬frame.IsStuffing 4 := by decide
  have hbehind : frame.IsStuffing 3 := by decide
  have hencode : frame.encode = [0xD1, 0x3C, 0x15, 0xDE, 0xD1, 0x00, 0xDF] := by decide
  have hlength : 4 + 1 < frame.encode.length := by rw [hencode]; decide
  have hold : frame.encode[4] = 0xD1 := by simp only [hencode, List.getElem_cons_succ, List.getElem_cons_zero]
  have hchanged : (0xDF : UInt8) ≠ frame.encode[4] := by rw [hold]; decide
  obtain ⟨check, hlast, hscan⟩ := corruption_detected (by decide) hlength hstuffing hchanged (Or.inr hbehind)
    [0xD1, 0x29, 0xD7, 0xDF]
  have hset : frame.encode.set 4 0xDF = [0xD1, 0x3C, 0x15, 0xDE, 0xDF, 0x00, 0xDF] := by rw [hencode]; rfl
  obtain rfl : 0x00 = check := Option.some.inj ((congrArg (·.dropLast.getLast?) hset).symm.trans hlast)
  refine ⟨hstuffing, hbehind, hset, hscan.trans ?_⟩
  rw [hold, hencode]
  decide

end Scan
end RailLayout
