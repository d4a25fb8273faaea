import RailLayout.Text.Utf8

/-!
Reading text back from its UTF-8 bytes. Bytes that were written and not cut give the text back, and bytes that
were cut give the characters that are whole and one replacement character for the one that is not
(`decode_take_encodeChars`). Bytes without a zero never read as a zero character (`zero_notMem_decode`).

A character of more than one byte is a lead byte and digits to the base 64 that keep the bounds which the lead
byte sets (`exists_digits`); reading goes digit by digit.
-/

namespace RailLayout
namespace Utf8

/-! ## Digits within their bounds -/

/-- The byte of a digit to the base 64. -/
def digitByte (d : Nat) : UInt8 := (d + 0x80).toUInt8

/-- Whether digits keep the bounds that are set for their bytes. -/
def Within : List (UInt8 × UInt8) → List Nat → Prop
  | [], [] => True
  | bound :: bounds, d :: digits =>
    d < 64 ∧ bound.1.toNat ≤ d + 0x80 ∧ d + 0x80 ≤ bound.2.toNat ∧ Within bounds digits
  | _, _ => False

/-- The number that digits spell after bits at hand. -/
def spelled (bits : Nat) (digits : List Nat) : Nat := digits.foldl (fun n d => n * 64 + d) bits

theorem toNat_digitByte {d : Nat} (h : d < 64) : (digitByte d).toNat = d + 0x80 := by
  rw [digitByte, Nat.toUInt8, UInt8.toNat_ofNat', Nat.mod_eq_of_lt]
  omega

theorem step_digit {bits d : Nat} {bound : UInt8 × UInt8} {bounds : List (UInt8 × UInt8)} (hd : d < 64)
    (hlow : bound.1.toNat ≤ d + 0x80) (hhigh : d + 0x80 ≤ bound.2.toNat) :
    step ⟨bits, bound :: bounds⟩ (digitByte d) = settle ⟨bits * 64 + d, bounds⟩ := by
  have hbyte := toNat_digitByte hd
  have hbits : (digitByte d).toNat % 64 = d := by omega
  have hwithin : bound.1 ≤ digitByte d ∧ digitByte d ≤ bound.2 := by
    rw [UInt8.le_iff_toNat_le, UInt8.le_iff_toNat_le, hbyte]
    exact ⟨hlow, hhigh⟩
  simp only [step, if_pos hwithin, hbits]

theorem decodeFrom_digits {bits : Nat} {bound : UInt8 × UInt8} {bounds : List (UInt8 × UInt8)}
    {digits : List Nat} (h : Within (bound :: bounds) digits) (rest : List UInt8) :
    decodeFrom ⟨bits, bound :: bounds⟩ (digits.map digitByte ++ rest) =
      Char.ofNat (spelled bits digits) :: decode rest := by
  induction digits generalizing bits bound bounds with
  | nil => exact h.elim
  | cons d more ih =>
      obtain ⟨hd, hlow, hhigh, hmore⟩ := h
      rw [List.map_cons, List.cons_append, decodeFrom, step_digit hd hlow hhigh]
      cases bounds with
      | nil =>
          cases more with
          | nil => rfl
          | cons _ _ => exact hmore.elim
      | cons next later => exact ih hmore

theorem decodeFrom_digits_take {bits : Nat} {bound : UInt8 × UInt8} {bounds : List (UInt8 × UInt8)}
    {digits : List Nat} (h : Within (bound :: bounds) digits) {k : Nat} (hk : k < digits.length) :
    decodeFrom ⟨bits, bound :: bounds⟩ ((digits.map digitByte).take k) = [replacement] := by
  induction k generalizing bits bound bounds digits with
  | zero => rfl
  | succ k ih =>
      cases digits with
      | nil => exact h.elim
      | cons d more =>
          obtain ⟨hd, hlow, hhigh, hmore⟩ := h
          rw [List.length_cons, Nat.add_lt_add_iff_right] at hk
          rw [List.map_cons, List.take_succ_cons, decodeFrom, step_digit hd hlow hhigh]
          cases bounds with
          | nil =>
              cases more with
              | nil => exact absurd hk (Nat.not_lt_zero k)
              | cons _ _ => exact hmore.elim
          | cons next later => exact ih hmore hk

/-! ## Characters as digits -/

/-- The bound that the lead byte of three bytes sets for the second. -/
def secondOfThree (lead : Nat) : UInt8 × UInt8 :=
  if lead = 0 then (0xA0, 0xBF) else if lead = 13 then (0x80, 0x9F) else continuation

/-- The bound that the lead byte of four bytes sets for the second. -/
def secondOfFour (lead : Nat) : UInt8 × UInt8 :=
  if lead = 0 then (0x90, 0xBF) else if lead = 4 then (0x80, 0x8F) else continuation

theorem lead?_two : ∀ n < 32, 2 ≤ n → lead? (UInt8.ofNat (n + 0xC0)) = some ⟨n, [continuation]⟩ := by
  decide

theorem lead?_three :
    ∀ n < 16, lead? (UInt8.ofNat (n + 0xE0)) = some ⟨n, [secondOfThree n, continuation]⟩ := by
  decide

theorem lead?_four :
    ∀ n < 5, lead? (UInt8.ofNat (n + 0xF0)) = some ⟨n, [secondOfFour n, continuation, continuation]⟩ := by
  decide

theorem lead?_last : ∀ n < 11, lead? (UInt8.ofNat (n + 0xF5)) = none := by
  decide

theorem within_continuation {d : Nat} {bounds : List (UInt8 × UInt8)} {digits : List Nat} (hd : d < 64)
    (h : Within bounds digits) : Within (continuation :: bounds) (d :: digits) :=
  ⟨hd, show 0x80 ≤ d + 0x80 by omega, show d + 0x80 ≤ 0xBF by omega, h⟩

/-- The first digit of three bytes keeps its bounds, unless the character would need fewer bytes or be a
surrogate. -/
theorem within_secondOfThree {lead d : Nat} {bounds : List (UInt8 × UInt8)} {digits : List Nat} (hd : d < 64)
    (hlow : lead = 0 → 32 ≤ d) (hhigh : lead = 13 → d < 32) (h : Within bounds digits) :
    Within (secondOfThree lead :: bounds) (d :: digits) := by
  unfold secondOfThree
  by_cases hzero : lead = 0
  · rw [if_pos hzero]
    have := hlow hzero
    exact ⟨hd, show 0xA0 ≤ d + 0x80 by omega, show d + 0x80 ≤ 0xBF by omega, h⟩
  · rw [if_neg hzero]
    by_cases hsurrogate : lead = 13
    · rw [if_pos hsurrogate]
      have := hhigh hsurrogate
      exact ⟨hd, show 0x80 ≤ d + 0x80 by omega, show d + 0x80 ≤ 0x9F by omega, h⟩
    · rw [if_neg hsurrogate]
      exact within_continuation hd h

/-- The first digit of four bytes keeps its bounds, unless the character would need fewer bytes or be past the
last code point. -/
theorem within_secondOfFour {lead d : Nat} {bounds : List (UInt8 × UInt8)} {digits : List Nat} (hd : d < 64)
    (hlow : lead = 0 → 16 ≤ d) (hhigh : lead = 4 → d < 16) (h : Within bounds digits) :
    Within (secondOfFour lead :: bounds) (d :: digits) := by
  unfold secondOfFour
  by_cases hzero : lead = 0
  · rw [if_pos hzero]
    have := hlow hzero
    exact ⟨hd, show 0x90 ≤ d + 0x80 by omega, show d + 0x80 ≤ 0xBF by omega, h⟩
  · rw [if_neg hzero]
    by_cases hlast : lead = 4
    · rw [if_pos hlast]
      have := hhigh hlast
      exact ⟨hd, show 0x80 ≤ d + 0x80 by omega, show d + 0x80 ≤ 0x8F by omega, h⟩
    · rw [if_neg hlast]
      exact within_continuation hd h

theorem encodeChar_of_lt {c : Char} (h : c.toNat < 0x80) :
    String.utf8EncodeChar c = [UInt8.ofNat c.toNat] ∧ lead? (UInt8.ofNat c.toNat) = some ⟨c.toNat, []⟩ := by
  have hbyte : (UInt8.ofNat c.toNat).toNat = c.toNat := by
    rw [UInt8.toNat_ofNat', Nat.mod_eq_of_lt]
    omega
  refine ⟨if_pos (Nat.le_of_lt_succ h), ?_⟩
  rw [lead?, if_pos (by rw [UInt8.lt_iff_toNat_lt, hbyte]; exact h), hbyte]

/-- A character of more than one byte is a lead byte and digits within the bounds that it sets. -/
theorem exists_digits {c : Char} (h : 0x80 ≤ c.toNat) :
    ∃ lead bits bound bounds digits,
      String.utf8EncodeChar c = lead :: digits.map digitByte ∧
        lead? lead = some ⟨bits, bound :: bounds⟩ ∧ Within (bound :: bounds) digits ∧
        spelled bits digits = c.toNat := by
  have hvalid : c.toNat < 0xD800 ∨ (0xDFFF < c.toNat ∧ c.toNat < 0x110000) := c.valid
  have hnat : c.val.toNat = c.toNat := rfl
  unfold String.utf8EncodeChar
  dsimp only
  rw [hnat, if_neg (show ¬c.toNat ≤ 0x7F by omega)]
  generalize c.toNat = n at h hvalid
  have hdigit : ∀ k, k % 64 < 64 := fun k => Nat.mod_lt k (by decide)
  -- Two, three or four bytes, as the encoder splits them; the bounds on the second byte come from the branch taken.
  by_cases htwo : n ≤ 0x7FF
  · rw [if_pos htwo]
    refine ⟨_, _, _, _, [n % 64], rfl, lead?_two _ (Nat.mod_lt _ (by decide)) (by omega), ?_, ?_⟩
    · exact within_continuation (hdigit n) trivial
    · simp only [spelled, List.foldl]
      omega
  · rw [if_neg htwo]
    by_cases hthree : n ≤ 0xFFFF
    · rw [if_pos hthree]
      refine ⟨_, _, _, _, [n / 64 % 64, n % 64], rfl, lead?_three _ (Nat.mod_lt _ (by decide)), ?_, ?_⟩
      · exact within_secondOfThree (hdigit _) (by omega) (by omega)
          (within_continuation (hdigit n) trivial)
      · simp only [spelled, List.foldl]
        omega
    · rw [if_neg hthree]
      refine ⟨_, _, _, _, [n / 4096 % 64, n / 64 % 64, n % 64], rfl, lead?_four _ (by omega), ?_, ?_⟩
      · exact within_secondOfFour (hdigit _) (by omega) (by omega)
          (within_continuation (hdigit _) (within_continuation (hdigit n) trivial))
      · simp only [spelled, List.foldl]
        omega

/-! ## Whole texts and cut texts -/

def encodeChars (cs : List Char) : List UInt8 := cs.flatMap String.utf8EncodeChar

/-- The characters that a cut of their bytes leaves whole, and a replacement for one that it goes through. -/
def cut : Nat → List Char → List Char
  | _, [] => []
  | 0, _ => []
  | n + 1, c :: rest =>
    if (String.utf8EncodeChar c).length ≤ n + 1 then c :: cut (n + 1 - (String.utf8EncodeChar c).length) rest
    else [replacement]

theorem decode_encodeChar (c : Char) (rest : List UInt8) :
    decode (String.utf8EncodeChar c ++ rest) = c :: decode rest := by
  by_cases h : c.toNat < 0x80
  · obtain ⟨hbytes, hlead⟩ := encodeChar_of_lt h
    rw [hbytes, List.cons_append, List.nil_append, decode, decodeFrom]
    simp only [step, Pending.none, start, hlead, settle, Char.ofNat_toNat]
    rfl
  · obtain ⟨lead, bits, bound, bounds, digits, hbytes, hlead, hwithin, hspelled⟩ :=
      exists_digits (Nat.le_of_not_lt h)
    rw [hbytes, List.cons_append, decode, decodeFrom]
    simp only [step, Pending.none, start, hlead, settle]
    rw [List.nil_append, decodeFrom_digits hwithin, hspelled, Char.ofNat_toNat]

theorem decode_take_encodeChar {c : Char} {k : Nat} (hpos : 0 < k)
    (hlt : k < (String.utf8EncodeChar c).length) :
    decode ((String.utf8EncodeChar c).take k) = [replacement] := by
  by_cases h : c.toNat < 0x80
  · rw [(encodeChar_of_lt h).1, List.length_singleton] at hlt
    omega
  · obtain ⟨lead, bits, bound, bounds, digits, hbytes, hlead, hwithin, -⟩ :=
      exists_digits (Nat.le_of_not_lt h)
    obtain ⟨j, rfl⟩ : ∃ j, k = j + 1 := ⟨k - 1, by omega⟩
    rw [hbytes, List.length_cons, List.length_map, Nat.add_lt_add_iff_right] at hlt
    rw [hbytes, List.take_succ_cons, decode, decodeFrom]
    simp only [step, Pending.none, start, hlead, settle]
    rw [List.nil_append, decodeFrom_digits_take hwithin hlt]

/-- Characters are read from their bytes as far as a cut leaves them whole. -/
theorem decode_take_encodeChars (n : Nat) (cs : List Char) :
    decode ((encodeChars cs).take n) = cut n cs := by
  induction cs generalizing n with
  | nil => rw [encodeChars, List.flatMap_nil, List.take_nil]; cases n <;> rfl
  | cons c rest ih =>
      cases n with
      | zero => rfl
      | succ n =>
          rw [encodeChars, List.flatMap_cons, cut, List.take_append]
          by_cases hfits : (String.utf8EncodeChar c).length ≤ n + 1
          · rw [if_pos hfits, List.take_of_length_le hfits, decode_encodeChar, ← ih]
            rfl
          · rw [if_neg hfits, Nat.sub_eq_zero_of_le (by omega), List.take_zero, List.append_nil,
              decode_take_encodeChar (Nat.succ_pos n) (by omega)]

theorem cut_of_le {n : Nat} {cs : List Char} (h : (encodeChars cs).length ≤ n) : cut n cs = cs := by
  induction cs generalizing n with
  | nil => cases n <;> rfl
  | cons c rest ih =>
      rw [encodeChars, List.flatMap_cons, List.length_append] at h
      have hpos : 0 < (String.utf8EncodeChar c).length :=
        List.length_pos_iff.mpr String.utf8EncodeChar_ne_nil
      obtain ⟨m, rfl⟩ : ∃ m, n = m + 1 := ⟨n - 1, by omega⟩
      rw [cut, if_pos (by omega), ih]
      rw [encodeChars]
      omega

theorem decode_encodeChars (cs : List Char) : decode (encodeChars cs) = cs := by
  have h := decode_take_encodeChars (encodeChars cs).length cs
  rwa [List.take_length, cut_of_le (Nat.le_refl _)] at h

/-- Characters below 128 take a byte each. -/
theorem length_encodeChars_of_lt {cs : List Char} (h : ∀ c ∈ cs, c.toNat < 0x80) :
    (encodeChars cs).length = cs.length := by
  induction cs with
  | nil => rfl
  | cons c rest ih =>
      obtain ⟨hc, hrest⟩ := List.forall_mem_cons.mp h
      rw [encodeChars, List.flatMap_cons, (encodeChar_of_lt hc).1]
      exact congrArg (· + 1) (ih hrest)

/-- Bytes below 128 are characters of one byte each. -/
theorem exists_encodeChars_of_lt {bytes : List UInt8} (h : ∀ b ∈ bytes, b < 0x80) :
    ∃ cs, encodeChars cs = bytes := by
  induction bytes with
  | nil => exact ⟨[], rfl⟩
  | cons b rest ih =>
      obtain ⟨hb, hrest⟩ := List.forall_mem_cons.mp h
      obtain ⟨cs, hcs⟩ := ih hrest
      rw [UInt8.lt_iff_toNat_lt] at hb
      have hchar : (Char.ofNat b.toNat).toNat = b.toNat := by
        rw [Char.ofNat, dif_pos (Or.inl (Nat.lt_trans hb (by decide)))]
        rfl
      have hbyte := (encodeChar_of_lt (hchar ▸ hb)).1
      refine ⟨Char.ofNat b.toNat :: cs, ?_⟩
      rw [encodeChars, List.flatMap_cons, hbyte, hchar, UInt8.ofNat_toNat, ← encodeChars, hcs]
      rfl

/-- A cut of what a longer text was cut to changes nothing, even if what is left ends earlier. -/
theorem cut_of_prefix_cut {n : Nat} {part cs : List Char} (h : part <+: cut n cs) : cut n part = part := by
  induction cs generalizing n part with
  | nil =>
      have hnil : part = [] := by cases n <;> simpa [cut] using h
      rw [hnil]
      cases n <;> rfl
  | cons c rest ih =>
      cases n with
      | zero =>
          have hnil : part = [] := by simpa [cut] using h
          rw [hnil]
          rfl
      | succ n =>
          rw [cut] at h
          by_cases hfits : (String.utf8EncodeChar c).length ≤ n + 1
          · rw [if_pos hfits] at h
            cases part with
            | nil => rfl
            | cons d more =>
                obtain ⟨rfl, hmore⟩ := List.cons_prefix_cons.mp h
                rw [cut, if_pos hfits, ih hmore]
          · rw [if_neg hfits] at h
            cases part with
            | nil => rfl
            | cons d more =>
                obtain ⟨rfl, hmore⟩ := List.cons_prefix_cons.mp h
                rw [List.prefix_nil.mp hmore, cut]
                -- A replacement character that does not fit is cut to a replacement character.
                split
                · cases n + 1 - (String.utf8EncodeChar replacement).length <;> rfl
                · rfl

/-! ## Zero bytes and zero characters -/

/-- Whether bits at hand can only become characters other than the zero one, within the bounds of the bytes to
come. -/
def Sound : Nat → List (UInt8 × UInt8) → Prop
  | n, [] => n ≠ 0 ∧ n.isValidChar
  | n, bound :: bounds => ∀ b : UInt8, bound.1 ≤ b → b ≤ bound.2 → Sound (n * 64 + b.toNat % 64) bounds

theorem sound_cons {n : Nat} (low high : Nat) {bound : UInt8 × UInt8} {bounds : List (UInt8 × UInt8)}
    (hbound : 0x80 + low = bound.1.toNat ∧ bound.2.toNat = 0x80 + high) (hhigh : high < 64)
    (h : ∀ d, low ≤ d → d ≤ high → Sound (n * 64 + d) bounds) : Sound n (bound :: bounds) := by
  intro b hle hge
  rw [UInt8.le_iff_toNat_le] at hle hge
  exact h (b.toNat % 64) (by omega) (by omega)

theorem sound_continuation {n : Nat} {bounds : List (UInt8 × UInt8)}
    (h : ∀ d, d < 64 → Sound (n * 64 + d) bounds) : Sound n (continuation :: bounds) :=
  sound_cons 0 63 ⟨rfl, rfl⟩ (by decide) fun d _ hd => h d (by omega)

/-- One more byte makes a character, short of the surrogates and of the end of the code points. -/
theorem sound_last {n : Nat} (hpos : 0 < n) (hvalid : n < 864 ∨ (895 < n ∧ n < 17408)) :
    Sound n [continuation] :=
  sound_continuation fun d hd => ⟨by omega, show _ < 0xD800 ∨ (0xDFFF < _ ∧ _ < 0x110000) by omega⟩

theorem sound_three (lead : Nat) (h : lead < 16) : Sound lead [secondOfThree lead, continuation] := by
  unfold secondOfThree
  by_cases hzero : lead = 0
  · rw [if_pos hzero]
    exact sound_cons 32 63 ⟨rfl, rfl⟩ (by decide) fun d hlow hhigh =>
      sound_last (by omega) (by omega)
  · rw [if_neg hzero]
    by_cases hsurrogate : lead = 13
    · rw [if_pos hsurrogate]
      exact sound_cons 0 31 ⟨rfl, rfl⟩ (by decide) fun d hlow hhigh =>
        sound_last (by omega) (by omega)
    · rw [if_neg hsurrogate]
      exact sound_continuation fun d hd => sound_last (by omega) (by omega)

theorem sound_four (lead : Nat) (h : lead < 5) :
    Sound lead [secondOfFour lead, continuation, continuation] := by
  unfold secondOfFour
  by_cases hzero : lead = 0
  · rw [if_pos hzero]
    exact sound_cons 16 63 ⟨rfl, rfl⟩ (by decide) fun d hlow hhigh =>
      sound_continuation fun e he => sound_last (by omega) (by omega)
  · rw [if_neg hzero]
    by_cases hlast : lead = 4
    · rw [if_pos hlast]
      exact sound_cons 0 15 ⟨rfl, rfl⟩ (by decide) fun d hlow hhigh =>
        sound_continuation fun e he => sound_last (by omega) (by omega)
    · rw [if_neg hlast]
      exact sound_continuation fun d hd => sound_continuation fun e he =>
        sound_last (by omega) (by omega)

theorem eq_ofNat_add {b : UInt8} {base : Nat} (h : base ≤ b.toNat) :
    b = UInt8.ofNat (b.toNat - base + base) := by
  rw [Nat.sub_add_cancel h, UInt8.ofNat_toNat]

theorem sound_of_lead? {b : UInt8} {p : Pending} (hb : b ≠ 0) (h : lead? b = some p) :
    Sound p.bits p.bounds := by
  have hpos : b.toNat ≠ 0 := fun hzero => hb (UInt8.toNat_inj.mp hzero)
  have hlt := b.toNat_lt
  by_cases hone : b < 0x80
  · rw [lead?, if_pos hone, Option.some.injEq] at h
    rw [UInt8.lt_iff_toNat_lt] at hone
    exact h ▸ ⟨hpos, Or.inl (Nat.lt_trans hone (by decide))⟩
  by_cases hnone : b < 0xC2
  · rw [lead?, if_neg hone, if_pos hnone] at h
    cases h
  have htail : 0xC2 ≤ b.toNat := by
    rw [UInt8.lt_iff_toNat_lt] at hnone
    exact Nat.le_of_not_lt hnone
  by_cases htwo : b.toNat < 0xE0
  · rw [eq_ofNat_add (show 0xC0 ≤ b.toNat by omega), lead?_two _ (by omega) (by omega),
      Option.some.injEq] at h
    subst h
    exact sound_last (n := b.toNat - 0xC0) (by omega) (by omega)
  by_cases hthree : b.toNat < 0xF0
  · rw [eq_ofNat_add (show 0xE0 ≤ b.toNat by omega), lead?_three _ (by omega), Option.some.injEq] at h
    subst h
    exact sound_three (b.toNat - 0xE0) (by omega)
  by_cases hfour : b.toNat < 0xF5
  · rw [eq_ofNat_add (show 0xF0 ≤ b.toNat by omega), lead?_four _ (by omega), Option.some.injEq] at h
    subst h
    exact sound_four (b.toNat - 0xF0) (by omega)
  · rw [eq_ofNat_add (Nat.le_of_not_lt hfour), lead?_last _ (by omega)] at h
    cases h

/-- A reader that is between two characters, or that can only complete characters other than the zero one. -/
def Pending.Nonzero (p : Pending) : Prop := p.bounds = [] ∨ Sound p.bits p.bounds

theorem settle_nonzero {p : Pending} (h : Sound p.bits p.bounds) :
    (Char.ofNat 0 ∉ (settle p).1) ∧ (settle p).2.Nonzero := by
  unfold settle
  split
  · rename_i hbounds
    rw [hbounds] at h
    refine ⟨?_, Or.inl rfl⟩
    rw [List.mem_singleton]
    intro hzero
    have hnat : (Char.ofNat p.bits).toNat = p.bits := by
      rw [Char.ofNat, dif_pos h.2]
      rfl
    exact h.1 (hnat ▸ congrArg Char.toNat hzero.symm)
  · exact ⟨List.not_mem_nil, Or.inr h⟩

theorem start_nonzero {b : UInt8} (hb : b ≠ 0) : (Char.ofNat 0 ∉ (start b).1) ∧ (start b).2.Nonzero := by
  unfold start
  split
  · rename_i hlead
    exact settle_nonzero (sound_of_lead? hb hlead)
  · exact ⟨by decide, Or.inl rfl⟩

theorem step_nonzero {p : Pending} {b : UInt8} (hp : p.Nonzero) (hb : b ≠ 0) :
    (Char.ofNat 0 ∉ (step p b).1) ∧ (step p b).2.Nonzero := by
  unfold step
  split
  · exact start_nonzero hb
  · rename_i low high rest hbounds
    split
    · rename_i hwithin
      have hsound : Sound p.bits p.bounds := hp.resolve_left (by rw [hbounds]; exact List.cons_ne_nil _ _)
      rw [hbounds] at hsound
      exact settle_nonzero (p := ⟨p.bits * 64 + b.toNat % 64, rest⟩) (hsound b hwithin.1 hwithin.2)
    · obtain ⟨hchars, hnext⟩ := start_nonzero hb
      refine ⟨?_, hnext⟩
      rw [List.mem_cons, not_or]
      exact ⟨by decide, hchars⟩

theorem decodeFrom_nonzero {p : Pending} {bytes : List UInt8} (hp : p.Nonzero) (h : 0 ∉ bytes) :
    Char.ofNat 0 ∉ decodeFrom p bytes := by
  induction bytes generalizing p with
  | nil =>
      unfold decodeFrom
      split
      · exact List.not_mem_nil
      · decide
  | cons b rest ih =>
      rw [List.mem_cons, not_or] at h
      obtain ⟨hchars, hnext⟩ := step_nonzero hp (Ne.symm h.1)
      rw [decodeFrom, List.mem_append, not_or]
      exact ⟨hchars, ih hnext h.2⟩

/-- Bytes without a zero read as no zero character. -/
theorem zero_notMem_decode {bytes : List UInt8} (h : 0 ∉ bytes) : Char.ofNat 0 ∉ decode bytes :=
  decodeFrom_nonzero (Or.inl rfl) h

theorem zero_notMem_digits {bounds : List (UInt8 × UInt8)} {digits : List Nat} (h : Within bounds digits) :
    0 ∉ digits.map digitByte := by
  induction digits generalizing bounds with
  | nil => exact List.not_mem_nil
  | cons d more ih =>
      cases bounds with
      | nil => exact h.elim
      | cons bound bounds =>
          obtain ⟨hd, -, -, hmore⟩ := h
          rw [List.map_cons, List.mem_cons, not_or]
          refine ⟨fun hzero => ?_, ih hmore⟩
          have := toNat_digitByte hd
          rw [← hzero] at this
          exact absurd this (by rw [UInt8.toNat_zero]; omega)

theorem zero_notMem_encodeChar {c : Char} (h : c ≠ Char.ofNat 0) : 0 ∉ String.utf8EncodeChar c := by
  by_cases hone : c.toNat < 0x80
  · rw [(encodeChar_of_lt hone).1, List.mem_singleton]
    intro hzero
    have hnat : c.toNat = 0 := by
      have := congrArg UInt8.toNat hzero
      rw [UInt8.toNat_ofNat', Nat.mod_eq_of_lt (by omega)] at this
      exact this.symm
    exact h (by rw [← Char.ofNat_toNat c, hnat])
  · obtain ⟨lead, bits, bound, bounds, digits, hbytes, hlead, hwithin, -⟩ :=
      exists_digits (Nat.le_of_not_lt hone)
    rw [hbytes, List.mem_cons, not_or]
    refine ⟨?_, zero_notMem_digits hwithin⟩
    rintro rfl
    cases hlead

theorem zero_notMem_encodeChars {cs : List Char} (h : Char.ofNat 0 ∉ cs) : 0 ∉ encodeChars cs := by
  rw [encodeChars, List.mem_flatMap]
  rintro ⟨c, hmem, hzero⟩
  exact zero_notMem_encodeChar (fun heq => h (heq ▸ hmem)) hzero

/-- The bytes before the first zero byte of a text are those of the characters before its first zero character. -/
theorem takeWhile_encodeChars (cs : List Char) :
    (encodeChars cs).takeWhile (· != 0) = encodeChars (cs.takeWhile (· != Char.ofNat 0)) := by
  induction cs with
  | nil => rfl
  | cons c rest ih =>
      by_cases hzero : c = Char.ofNat 0
      · subst hzero
        rfl
      · have hbytes : ∀ b ∈ String.utf8EncodeChar c, (b != 0) = true := by
          intro b hb
          rw [bne_iff_ne]
          rintro rfl
          exact zero_notMem_encodeChar hzero hb
        have hkept : (c :: rest).takeWhile (· != Char.ofNat 0) = c :: rest.takeWhile (· != Char.ofNat 0) :=
          List.takeWhile_cons_of_pos (bne_iff_ne.mpr hzero)
        rw [hkept, encodeChars, List.flatMap_cons, List.takeWhile_append_of_pos hbytes, encodeChars,
          List.flatMap_cons]
        exact congrArg (String.utf8EncodeChar c ++ ·) ih

/-! ## The length of a text -/

/-- The characters that a pending sequence still stands for. -/
def Pending.owed (p : Pending) : Nat :=
  match p.bounds with
  | [] => 0
  | _ => 1

theorem settle_length (p : Pending) : (settle p).1.length + (settle p).2.owed ≤ 1 := by
  unfold settle
  split
  · exact Nat.le_refl 1
  · unfold Pending.owed
    split
    · exact Nat.zero_le 1
    · exact Nat.le_refl 1

theorem start_length (b : UInt8) : (start b).1.length + (start b).2.owed ≤ 1 := by
  unfold start
  split
  · exact settle_length _
  · exact Nat.le_refl 1

theorem step_length (p : Pending) (b : UInt8) :
    (step p b).1.length + (step p b).2.owed ≤ p.owed + 1 := by
  unfold step
  split
  · exact Nat.le_trans (start_length b) (Nat.le_add_left 1 _)
  · rename_i low high rest hbounds
    have howed : p.owed = 1 := by rw [Pending.owed, hbounds]
    rw [howed]
    split
    · exact Nat.le_trans (settle_length _) (by decide)
    · have := start_length b
      show (start b).1.length + 1 + (start b).2.owed ≤ 2
      omega

theorem decodeFrom_length (p : Pending) (bytes : List UInt8) :
    (decodeFrom p bytes).length ≤ p.owed + bytes.length := by
  induction bytes generalizing p with
  | nil =>
      obtain ⟨bits, bounds⟩ := p
      cases bounds with
      | nil => exact Nat.le_refl 0
      | cons _ _ => exact Nat.le_refl 1
  | cons b rest ih =>
      have := step_length p b
      have := ih (step p b).2
      rw [decodeFrom, List.length_append, List.length_cons]
      omega

theorem length_decode_le (bytes : List UInt8) : (decode bytes).length ≤ bytes.length := by
  have := decodeFrom_length Pending.none bytes
  rwa [show Pending.none.owed = 0 from rfl, Nat.zero_add] at this

end Utf8
end RailLayout
