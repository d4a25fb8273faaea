import RailLayout.FourDigit
import RailLayout.Proofs.Payload.Reader
import RailLayout.Proofs.Text.Numeral

/-!
Messages to and from the four-digit databases come back from their frames unchanged (`ofFrame_toFrame`). What
was read is well spoken: a field is only there if the fields before it are, and an address has four digits.
-/

namespace RailLayout

namespace MemoryField

theorem fourDigits_eq {id : UInt16} (h : id.toNat < 10000) :
    fourDigits id = Utf8.encodeChars (Numeral.fixedDigits 4 id.toNat) := by
  have hpadded : Numeral.padded 4 id.toNat = Numeral.fixedDigits 4 id.toNat := if_pos h
  rw [fourDigits, hpadded, Utf8.encode, String.toList_ofList]
  rfl

theorem length_fourDigits {id : UInt16} (h : id.toNat < 10000) : (fourDigits id).length = 4 := by
  rw [fourDigits_eq h, Numeral.length_encodeChars_fixedDigits]

end MemoryField

namespace Lookup

/-- Whether fields end at the first one that is missing and an address has four digits. -/
def Spoken : Lookup → Prop
  | query => True
  | count _ _ => True
  | firstRecord => True
  | nextRecord _ start dataLen next => (start = none → dataLen = none) ∧ (dataLen = none → next = none)
  | map _ id => ∀ n, id = some n → n.toNat < 10000

theorem strip_eq {bytes : List UInt8} (h : 0 ∉ bytes) :
    ((bytes.dropWhile (· == 0)).reverse.dropWhile (· == 0)).reverse = bytes := by
  have hkeep : ∀ bs : List UInt8, 0 ∉ bs → bs.dropWhile (· == 0) = bs := by
    intro bs hzero
    cases bs with
    | nil => rfl
    | cons b rest =>
        have hb : (b == 0) = false := by
          rw [beq_eq_false_iff_ne]
          rintro rfl
          exact hzero List.mem_cons_self
        rw [List.dropWhile_cons_of_neg (by rw [hb]; exact Bool.false_ne_true)]
  rw [hkeep bytes h, hkeep bytes.reverse (fun hmem => h (List.mem_reverse.mp hmem)), List.reverse_reverse]

theorem readId_fourDigits {id : UInt16} (h : id.toNat < 10000) :
    readId (MemoryField.fourDigits id) = .ok id := by
  have hzero : 0 ∉ MemoryField.fourDigits id := by
    rw [MemoryField.fourDigits_eq h]
    exact Utf8.zero_notMem_encodeChars (Numeral.zero_notMem_fixedDigits 4 id.toNat)
  have hword : Numeral.word? (Numeral.fixedDigits 4 id.toNat) = some id := by
    rw [Numeral.word?_fixedDigits (by decide) h id.toNat_lt]
    exact congrArg some (UInt16.ofNat_toNat)
  rw [readId, strip_eq hzero, MemoryField.fourDigits_eq h, Utf8.decode_encodeChars, hword]

theorem toNat_lt_of_readId {raw : List UInt8} {id : UInt16} (h : readId raw = .ok id)
    (hraw : raw.length ≤ 4) : id.toNat < 10000 := by
  have hstrip : ∀ bs : List UInt8, (bs.dropWhile (· == 0)).length ≤ bs.length := fun bs =>
    (List.dropWhile_sublist _).length_le
  have hinner : (((raw.dropWhile (· == 0)).reverse.dropWhile (· == 0)).reverse).length ≤ 4 := by
    have h1 := hstrip raw
    have h2 := hstrip (raw.dropWhile (· == 0)).reverse
    rw [List.length_reverse] at h2 ⊢
    omega
  unfold readId at h
  dsimp only at h
  split at h
  · rename_i n hn
    cases h
    have hlt := Numeral.toNat_lt_of_word? hn
    have hchars := Utf8.length_decode_le (((raw.dropWhile (· == 0)).reverse.dropWhile (· == 0)).reverse)
    exact Nat.lt_of_lt_of_le hlt (Nat.pow_le_pow_right (by decide) (Nat.le_trans hchars hinner))
  · cases h

theorem spoken_of_read_next {r last : Reader} {l : Lookup} (h : read 4 r = .ok (l, last)) :
    l.byte = 4 ∧ l.Spoken := by
  obtain ⟨postAction, mid, -, h⟩ := Read.bind_eq_ok.mp h
  simp only [Read.bind_eq, Read.byte?_eq, Reader.drop_drop, Reader.rest_drop, List.getElem?_drop,
    Nat.reduceAdd] at h
  rw [← Read.bind_eq] at h
  obtain ⟨next, end_, hnext, h⟩ := Read.bind_eq_ok.mp h
  cases h
  refine ⟨rfl, fun hstart => ?_, fun hlen => ?_⟩
  · rw [List.getElem?_eq_none_iff] at hstart ⊢
    omega
  · rw [List.getElem?_eq_none_iff] at hlen
    exact Read.le16?_short hnext (by rw [Reader.rest_drop, List.length_drop]; omega)

theorem spoken_of_read_map {r last : Reader} {l : Lookup} (h : read 5 r = .ok (l, last)) :
    l.byte = 5 ∧ l.Spoken := by
  obtain ⟨postAction, mid, -, h⟩ := Read.bind_eq_ok.mp h
  rw [Read.bind_eq, Read.atEnd_eq] at h
  dsimp only at h
  by_cases hend : mid.isEmpty = true
  · rw [if_pos hend] at h
    cases h
    exact ⟨rfl, fun n hn => by cases hn⟩
  · rw [if_neg hend] at h
    obtain ⟨raw, mid, hraw, h⟩ := Read.bind_eq_ok.mp h
    obtain ⟨id, end_, hid, h⟩ := Read.bind_eq_ok.mp h
    cases h
    refine ⟨rfl, fun n hn => ?_⟩
    cases hn
    exact toNat_lt_of_readId (Read.check_eq_ok.mp hid).1 (Read.bytes_length_le hraw)

theorem spoken_of_read {action : UInt8} {r last : Reader} {l : Lookup} (h : read action r = .ok (l, last)) :
    l.byte = action ∧ l.Spoken := by
  by_cases hnext : action = 4
  · subst hnext
    exact spoken_of_read_next h
  by_cases hmap : action = 5
  · subst hmap
    exact spoken_of_read_map h
  unfold read at h
  by_cases hquery : action = 1
  · rw [if_pos hquery] at h
    cases h
    exact ⟨hquery.symm, trivial⟩
  rw [if_neg hquery] at h
  by_cases hcount : action = 2
  · rw [if_pos hcount] at h
    obtain ⟨postAction, mid, -, h⟩ := Read.bind_eq_ok.mp h
    obtain ⟨n, end_, -, h⟩ := Read.bind_eq_ok.mp h
    cases h
    exact ⟨hcount.symm, trivial⟩
  rw [if_neg hcount] at h
  by_cases hfirst : action = 3
  · rw [if_pos hfirst] at h
    cases h
    exact ⟨hfirst.symm, trivial⟩
  · rw [if_neg hfirst, if_neg hnext, if_neg hmap] at h
    cases h

theorem read_encodeWord? (w : Option UInt16) (p : Nat) :
    ∃ last, Read.le16? ⟨p, encodeWord? w⟩ = .ok (w, last) := by
  cases w with
  | none => exact ⟨_, rfl⟩
  | some w => exact ⟨_, by rw [← Read.le16?_append p [] w, List.append_nil]; rfl⟩

theorem read_encode_count (postAction : UInt16) (n : Option UInt16) :
    Read.Gives (read 2) (count postAction n).encode (count postAction n) := by
  intro p
  obtain ⟨last, hn⟩ := read_encodeWord? n (p + 2)
  refine ⟨last, ?_⟩
  show (Read.le16? >>= fun w => Read.le16? >>= fun n => pure (count (w.getD 0) n)) _ = _
  simp only [encode, Read.bind_eq, Read.le16?_append, hn, Read.pure_eq, Option.getD_some]

theorem read_encode_next {postAction : UInt16} {start dataLen : Option UInt8} {next : Option UInt16}
    (h : (nextRecord postAction start dataLen next).Spoken) :
    Read.Gives (read 4) (nextRecord postAction start dataLen next).encode
      (nextRecord postAction start dataLen next) := by
  intro p
  -- Past the first word, what is left to read depends on which fields are there.
  have hread : ∀ bytes, (∃ last, (Read.byte? >>= fun s => Read.byte? >>= fun len => Read.le16? >>= fun n =>
        pure (nextRecord postAction s len n)) ⟨p + 2, bytes⟩ = .ok (nextRecord postAction start dataLen next, last)) →
      ∃ last, read 4 ⟨p, Payload.le16 postAction ++ bytes⟩ =
        .ok (nextRecord postAction start dataLen next, last) := by
    intro bytes hrest
    obtain ⟨last, hbytes⟩ := hrest
    refine ⟨last, ?_⟩
    show (Read.le16? >>= fun w => Read.byte? >>= fun s => Read.byte? >>= fun len => Read.le16? >>= fun n =>
      pure (nextRecord (w.getD 0) s len n)) _ = _
    rw [Read.bind_eq, Read.le16?_append]
    exact hbytes
  refine hread _ ?_
  cases start with
  | none =>
      obtain rfl := h.1 rfl
      obtain rfl := h.2 rfl
      exact ⟨_, rfl⟩
  | some s =>
      cases dataLen with
      | none =>
          obtain rfl := h.2 rfl
          exact ⟨_, rfl⟩
      | some len =>
          obtain ⟨last, hnext⟩ := read_encodeWord? next (p + 2 + 1 + 1)
          refine ⟨last, ?_⟩
          simp only [List.cons_append, List.nil_append, Read.bind_eq, Read.byte?_cons, hnext, Read.pure_eq]

theorem read_encode_map {postAction : UInt16} {id : Option UInt16} (h : (map postAction id).Spoken) :
    Read.Gives (read 5) (map postAction id).encode (map postAction id) := by
  intro p
  cases id with
  | none =>
      refine ⟨⟨p + 2, []⟩, ?_⟩
      show (Read.le16? >>= fun w => _) ⟨p, Payload.le16 postAction ++ []⟩ = _
      rw [Read.bind_eq, Read.le16?_append]
      rfl
  | some id =>
      have hid := h id rfl
      have hlength := MemoryField.length_fourDigits hid
      have hend : (MemoryField.fourDigits id).isEmpty = false := by
        rw [List.isEmpty_eq_false_iff, ← List.length_pos_iff, hlength]
        decide
      have hbytes := Read.bytes_append (p + 2) [] hlength
      rw [List.append_nil] at hbytes
      refine ⟨⟨p + 2 + 4, []⟩, ?_⟩
      show (Read.le16? >>= fun w => Read.atEnd >>= fun e => if e = true then pure (map (w.getD 0) none)
        else Read.bytes 4 >>= fun raw => Read.check (readId raw) >>= fun n => pure (map (w.getD 0) (some n)))
          ⟨p, Payload.le16 postAction ++ MemoryField.fourDigits id⟩ = _
      simp only [Read.bind_eq, Read.le16?_append, Read.atEnd_eq, Reader.isEmpty, hend, Bool.false_eq_true,
        if_false, hbytes, readId_fourDigits hid, Read.check_ok, Read.pure_eq, Option.getD_some]

theorem read_encode {l : Lookup} (h : l.Spoken) : Read.Gives (read l.byte) l.encode l := by
  cases l with
  | query => exact fun _ => ⟨_, rfl⟩
  | firstRecord => exact fun _ => ⟨_, rfl⟩
  | count postAction n => exact read_encode_count postAction n
  | nextRecord postAction start dataLen next => exact read_encode_next h
  | map postAction id => exact read_encode_map h

end Lookup

namespace FourDigitMessage

theorem code_of_ofFrame {frame : Frame} {m : FourDigitMessage} (h : ofFrame frame = .ok m) :
    m.code = frame.code := by
  unfold ofFrame at h
  split at h
  · obtain ⟨last, h⟩ := Read.run_eq_ok.mp h
    obtain ⟨recordNo, mid, -, h⟩ := Read.bind_eq_ok.mp h
    obtain ⟨action, mid, -, h⟩ := Read.bind_eq_ok.mp h
    obtain ⟨l, end_, -, h⟩ := Read.bind_eq_ok.mp h
    cases h
    rfl
  · cases h

/-- A well-spoken message is read from its own frame. -/
theorem ofFrame_toFrame_of_spoken {m : FourDigitMessage} (hcode : m.code.isFourDigit = true)
    (hspoken : m.lookup.Spoken) : ofFrame m.toFrame = .ok m := by
  obtain ⟨final, hread⟩ := Lookup.read_encode hspoken (2 + 1)
  rw [ofFrame, if_pos (by exact hcode)]
  refine Read.run_eq_ok.mpr ⟨final, ?_⟩
  simp only [Reader.ofList, toFrame, List.append_assoc, List.cons_append, List.nil_append, Read.bind_eq,
    Read.le16_append, Nat.zero_add, Read.byte_cons, hread, Read.pure_eq]

/-- A message that was read from a frame is read from its own frame. -/
theorem ofFrame_toFrame {frame : Frame} {m : FourDigitMessage} (h : ofFrame frame = .ok m) :
    ofFrame m.toFrame = .ok m := by
  unfold ofFrame at h
  split at h
  · rename_i hcode
    obtain ⟨last, h⟩ := Read.run_eq_ok.mp h
    obtain ⟨recordNo, mid, -, h⟩ := Read.bind_eq_ok.mp h
    obtain ⟨action, mid, -, h⟩ := Read.bind_eq_ok.mp h
    obtain ⟨l, end_, hlookup, h⟩ := Read.bind_eq_ok.mp h
    cases h
    exact ofFrame_toFrame_of_spoken hcode (Lookup.spoken_of_read hlookup).2
  · cases h

end FourDigitMessage
end RailLayout
