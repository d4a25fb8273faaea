import Mathlib.Algebra.Group.Nat.Defs
import RailLayout.Payload.Reader
import RailLayout.Proofs.Text.Field

/-!
Reading what was written. Each step that takes a value from a payload takes it back from the bytes that
`Payload` writes for it, and goes on with the bytes behind them; so the reading of a whole layout is evaluated
step by step. A step that takes what is there and never fails is known on every payload (`byte?_eq`,
`textUpTo?_eq`).
-/

namespace RailLayout

namespace Payload

/-! ## Words and numbers -/

theorem or_shiftLeft {low high width : Nat} (h : low < 2 ^ width) :
    low ||| high <<< width = low + 2 ^ width * high := by
  rw [Nat.shiftLeft_eq, Nat.mul_comm high, Nat.or_comm, ← Nat.two_pow_add_eq_or_of_lt h, Nat.add_comm]

theorem toNat_word (low high : UInt8) : (word low high).toNat = low.toNat + 256 * high.toNat := by
  have hlow := low.toNat_lt
  have hhigh := high.toNat_lt
  have hshift : high.toNat <<< 8 % 65536 = high.toNat <<< 8 :=
    Nat.mod_eq_of_lt (by rw [Nat.shiftLeft_eq]; omega)
  simp only [word, UInt16.toNat_or, UInt16.toNat_shiftLeft, UInt8.toNat_toUInt16]
  show low.toNat ||| high.toNat <<< 8 % 65536 = _
  rw [hshift]
  exact or_shiftLeft (show low.toNat < 2 ^ 8 by omega)

theorem toNat_number (b0 b1 b2 b3 : UInt8) :
    (number b0 b1 b2 b3).toNat =
      b0.toNat + 256 * b1.toNat + 65536 * b2.toNat + 16777216 * b3.toNat := by
  have h0 := b0.toNat_lt
  have h1 := b1.toNat_lt
  have h2 := b2.toNat_lt
  have h3 := b3.toNat_lt
  have hshift : ∀ {n k : Nat}, n * 2 ^ k < 2 ^ 32 → n <<< k % 2 ^ 32 = n <<< k := fun h =>
    Nat.mod_eq_of_lt (by rw [Nat.shiftLeft_eq]; exact h)
  have hword : b0.toNat ||| b1.toNat <<< 8 = b0.toNat + 2 ^ 8 * b1.toNat := or_shiftLeft (by omega)
  have hthree : b0.toNat + 2 ^ 8 * b1.toNat ||| b2.toNat <<< 16 = b0.toNat + 2 ^ 8 * b1.toNat + 2 ^ 16 * b2.toNat :=
    or_shiftLeft (by omega)
  simp only [number, UInt32.toNat_or, UInt32.toNat_shiftLeft, UInt8.toNat_toUInt32]
  show b0.toNat ||| b1.toNat <<< 8 % 2 ^ 32 ||| b2.toNat <<< 16 % 2 ^ 32 ||| b3.toNat <<< 24 % 2 ^ 32 = _
  rw [hshift (by omega), hshift (by omega), hshift (by omega), hword, hthree]
  exact or_shiftLeft (by omega)

theorem word_le16 (w : UInt16) : word w.toUInt8 (w >>> 8).toUInt8 = w := by
  have hhigh : (w >>> 8).toNat = w.toNat / 2 ^ 8 := Nat.shiftRight_eq_div_pow w.toNat 8
  have hlt := w.toNat_lt
  rw [← UInt16.toNat_inj, toNat_word, UInt16.toNat_toUInt8, UInt16.toNat_toUInt8, hhigh]
  omega

theorem number_le32 (n : UInt32) :
    number n.toUInt8 (n >>> 8).toUInt8 (n >>> 16).toUInt8 (n >>> 24).toUInt8 = n := by
  have h1 : (n >>> 8).toNat = n.toNat / 2 ^ 8 := Nat.shiftRight_eq_div_pow n.toNat 8
  have h2 : (n >>> 16).toNat = n.toNat / 2 ^ 16 := Nat.shiftRight_eq_div_pow n.toNat 16
  have h3 : (n >>> 24).toNat = n.toNat / 2 ^ 24 := Nat.shiftRight_eq_div_pow n.toNat 24
  have hlt := n.toNat_lt
  rw [← UInt32.toNat_inj, toNat_number]
  simp only [UInt32.toNat_toUInt8, h1, h2, h3]
  omega

theorem number_le24 {n : UInt32} (h : n.toNat < 16777216) :
    number n.toUInt8 (n >>> 8).toUInt8 (n >>> 16).toUInt8 0 = n := by
  have hzero : (n >>> 24).toUInt8 = 0 := by
    have h3 : (n >>> 24).toNat = n.toNat / 2 ^ 24 := Nat.shiftRight_eq_div_pow n.toNat 24
    rw [← UInt8.toNat_inj, UInt32.toNat_toUInt8, h3, UInt8.toNat_zero]
    omega
  rw [← hzero, number_le32]

end Payload

namespace Reader

/-- The place `n` bytes further on, or the end. -/
def drop (n : Nat) (r : Reader) : Reader := ⟨r.position + (r.rest.take n).length, r.rest.drop n⟩

@[simp] theorem rest_drop (n : Nat) (r : Reader) : (r.drop n).rest = r.rest.drop n := rfl

@[simp] theorem drop_drop (m n : Nat) (r : Reader) : (r.drop m).drop n = r.drop (m + n) := by
  simp only [drop, List.drop_drop, List.length_take, List.length_drop, Reader.mk.injEq, and_true]
  omega

end Reader

namespace Read

variable {α β : Type}

/-! ## Steps in a row -/

theorem pure_eq (a : α) (r : Reader) : (pure a : Read α) r = .ok (a, r) := rfl

theorem bind_eq (x : Read α) (f : α → Read β) (r : Reader) :
    (x >>= f) r = match x r with
      | .ok (a, mid) => f a mid
      | .error e => .error e := by
  show Except.bind (x r) _ = _
  cases x r <;> rfl

theorem map_eq (f : α → β) (x : Read α) (r : Reader) :
    (f <$> x) r = match x r with
      | .ok (a, mid) => .ok (f a, mid)
      | .error e => .error e := by
  show Except.bind (x r) _ = _
  cases x r <;> rfl

theorem bind_eq_ok {x : Read α} {f : α → Read β} {r last : Reader} {b : β} :
    (x >>= f) r = .ok (b, last) ↔ ∃ a mid, x r = .ok (a, mid) ∧ f a mid = .ok (b, last) := by
  rw [bind_eq]
  cases hx : x r with
  | error e => simp
  | ok read => exact ⟨fun h => ⟨read.1, read.2, rfl, h⟩, fun ⟨_, _, hread, h⟩ => by cases hread; exact h⟩

theorem pure_eq_ok {a b : α} {r last : Reader} :
    (pure a : Read α) r = .ok (b, last) ↔ a = b ∧ r = last := by
  rw [pure_eq, Except.ok.injEq, Prod.mk.injEq]

theorem run_eq_ok {step : Read α} {payload : List UInt8} {a : α} :
    run step payload = .ok a ↔ ∃ last, step (.ofList payload) = .ok (a, last) := by
  unfold run
  cases step (.ofList payload) with
  | error e => simp
  | ok read => simp [Prod.ext_iff]

/-- Whether a step reads a value from bytes, wherever in a payload they stand. -/
def Gives (step : Read α) (bytes : List UInt8) (a : α) : Prop :=
  ∀ p, ∃ last, step ⟨p, bytes⟩ = .ok (a, last)

theorem Gives.run {step : Read α} {bytes : List UInt8} {a : α} (h : Gives step bytes a) :
    run step bytes = .ok a :=
  run_eq_ok.mpr (h 0)

theorem Gives.map {step : Read α} {bytes : List UInt8} {a : α} (h : Gives step bytes a) (f : α → β) :
    Gives (step >>= fun a => pure (f a)) bytes (f a) := by
  intro p
  obtain ⟨last, hstep⟩ := h p
  exact ⟨last, bind_eq_ok.mpr ⟨a, last, hstep, rfl⟩⟩

theorem check_eq_ok {result : Except Error α} {a : α} {r last : Reader} :
    check result r = .ok (a, last) ↔ result = .ok a ∧ r = last := by
  cases result <;> simp [check]

/-! ## Steps on bytes that were written -/

variable (p : Nat) (more : List UInt8)

@[simp] theorem byte_cons (b : UInt8) : byte ⟨p, b :: more⟩ = .ok (b, ⟨p + 1, more⟩) := rfl

@[simp] theorem byte?_cons (b : UInt8) : byte? ⟨p, b :: more⟩ = .ok (some b, ⟨p + 1, more⟩) := rfl

@[simp] theorem byte?_nil : byte? ⟨p, []⟩ = .ok (none, ⟨p, []⟩) := rfl

@[simp] theorem byteOrZero_cons (b : UInt8) : byteOrZero ⟨p, b :: more⟩ = .ok (b, ⟨p + 1, more⟩) := rfl

@[simp] theorem byteOrZero_nil : byteOrZero ⟨p, []⟩ = .ok (0, ⟨p, []⟩) := rfl

@[simp] theorem le16_append (w : UInt16) :
    le16 ⟨p, Payload.le16 w ++ more⟩ = .ok (w, ⟨p + 2, more⟩) := by
  show Except.ok (Payload.word w.toUInt8 (w >>> 8).toUInt8, (⟨p + 2, more⟩ : Reader)) = _
  rw [Payload.word_le16]

@[simp] theorem le16?_append (w : UInt16) :
    le16? ⟨p, Payload.le16 w ++ more⟩ = .ok (some w, ⟨p + 2, more⟩) := by
  rw [le16?, optional, le16_append]

@[simp] theorem le16?_nil : le16? ⟨p, []⟩ = .ok (none, ⟨p, []⟩) := rfl

@[simp] theorem be16_append (w : UInt16) :
    be16 ⟨p, Payload.be16 w ++ more⟩ = .ok (w, ⟨p + 2, more⟩) := by
  show Except.ok (Payload.word w.toUInt8 (w >>> 8).toUInt8, (⟨p + 2, more⟩ : Reader)) = _
  rw [Payload.word_le16]

@[simp] theorem le32_append (n : UInt32) :
    le32 ⟨p, Payload.le32 n ++ more⟩ = .ok (n, ⟨p + 4, more⟩) := by
  show Except.ok (Payload.number n.toUInt8 (n >>> 8).toUInt8 (n >>> 16).toUInt8 (n >>> 24).toUInt8,
    (⟨p + 4, more⟩ : Reader)) = _
  rw [Payload.number_le32]

theorem le24_append {n : UInt32} (h : n.toNat < 16777216) :
    le24 ⟨p, Payload.le24 n ++ more⟩ = .ok (n, ⟨p + 3, more⟩) := by
  show Except.ok (Payload.number n.toUInt8 (n >>> 8).toUInt8 (n >>> 16).toUInt8 0,
    (⟨p + 3, more⟩ : Reader)) = _
  rw [Payload.number_le24 h]

@[simp] theorem rest_eq (r : Reader) : rest r = .ok (r.rest, ⟨r.position + r.remaining, []⟩) := rfl

@[simp] theorem atEnd_eq (r : Reader) : atEnd r = .ok (r.isEmpty, r) := rfl

@[simp] theorem remaining_eq (r : Reader) : remaining r = .ok (r.remaining, r) := rfl

@[simp] theorem check_ok (a : α) (r : Reader) : check (.ok a) r = .ok (a, r) := rfl

theorem bytes_append {n : Nat} {bs : List UInt8} (h : bs.length = n) :
    bytes n ⟨p, bs ++ more⟩ = .ok (bs, ⟨p + n, more⟩) := by
  have hroom : ¬(bs ++ more).length < n := by rw [List.length_append]; omega
  rw [bytes, Reader.remaining, if_neg hroom, List.take_left' h, List.drop_left' h]

@[simp] theorem text_write (width : Nat) (t : String) :
    text width ⟨p, TextField.write width t ++ more⟩ = .ok (TextField.resent width t, ⟨p + width, more⟩) := by
  rw [text, bind_eq, bytes_append p more (TextField.length_write width t)]
  rfl

@[simp] theorem textUpTo?_write (width : Nat) (t : String) :
    textUpTo? (width + 1) ⟨p, TextField.write (width + 1) t ++ more⟩ =
      .ok (some (TextField.resent (width + 1) t), ⟨p + (width + 1), more⟩) := by
  have hlength : (TextField.write (width + 1) t ++ more).length = width + 1 + more.length := by
    rw [List.length_append, TextField.length_write]
  simp only [textUpTo?, bind_eq, remaining_eq, Reader.remaining, hlength]
  rw [if_neg (by omega), Nat.min_eq_left (by omega), bind_eq, text_write]
  rfl

/-! ## Steps on any bytes -/

theorem some_getD_getElem? {bs : List UInt8} {n : Nat} (h : n < bs.length) (b : UInt8) :
    some (bs[n]?.getD b) = bs[n]? := by
  rw [List.getElem?_eq_getElem h]
  rfl

theorem drop_ne_nil {bs : List UInt8} {n : Nat} (h : n < bs.length) : bs.drop n ≠ [] :=
  fun hempty => absurd (List.drop_eq_nil_iff.mp hempty) (Nat.not_le_of_lt h)

/-- The next byte is there or not. -/
theorem byte?_eq (r : Reader) : byte? r = .ok (r.rest[0]?, r.drop 1) := by
  obtain ⟨position, bs⟩ := r
  cases bs <;> rfl

/-- A text that the end cuts short is what is left. -/
theorem textUpTo?_eq (width : Nat) (r : Reader) :
    textUpTo? width r =
      .ok (if r.rest = [] then none else some (TextField.read (r.rest.take width)), r.drop width) := by
  obtain ⟨position, bs⟩ := r
  simp only [textUpTo?, bind_eq, remaining_eq, Reader.remaining]
  cases bs with
  | nil => rw [Reader.drop, List.take_nil, List.drop_nil]; rfl
  | cons b rest =>
      have hroom : ¬(b :: rest).length < min width (b :: rest).length := by omega
      have htake : (b :: rest).take (min width (b :: rest).length) = (b :: rest).take width := by
        rw [← List.take_eq_take_min]
      have hdrop : (b :: rest).drop (min width (b :: rest).length) = (b :: rest).drop width := by
        rw [← List.drop_eq_drop_min]
      rw [if_neg (show ¬(b :: rest).length = 0 from Nat.succ_ne_zero _), if_neg (List.cons_ne_nil b rest), bind_eq, text, bind_eq, bytes,
        Reader.remaining, if_neg hroom, htake, hdrop, Reader.drop, List.length_take]
      rfl

theorem byte_eq_ok {r last : Reader} {b : UInt8} (h : byte r = .ok (b, last)) : r.rest = b :: last.rest := by
  obtain ⟨position, bs⟩ := r
  cases bs with
  | nil => cases h
  | cons _ _ => cases h; rfl

theorem le16_eq_ok {r last : Reader} {w : UInt16} (h : le16 r = .ok (w, last)) :
    last.rest = r.rest.drop 2 := by
  obtain ⟨position, bs⟩ := r
  rcases bs with _ | ⟨b0, _ | ⟨b1, more⟩⟩
  · cases h
  · cases h
  · cases h
    rfl

theorem le16?_eq_ok {r last : Reader} {w : Option UInt16} (h : le16? r = .ok (w, last))
    (hroom : 2 ≤ r.rest.length) : last.rest = r.rest.drop 2 := by
  obtain ⟨position, bs⟩ := r
  rcases bs with _ | ⟨b0, _ | ⟨b1, more⟩⟩
  · cases hroom
  · cases hroom with
    | step hroom => cases hroom
  · cases h
    rfl

theorem le16?_short {r last : Reader} {w : Option UInt16} (h : le16? r = .ok (w, last))
    (hshort : r.rest.length < 2) : w = none := by
  obtain ⟨position, bs⟩ := r
  rcases bs with _ | ⟨b0, _ | ⟨b1, more⟩⟩
  · cases h
    rfl
  · cases h
    rfl
  · exact absurd hshort (Nat.not_lt_of_le (Nat.le_add_left 2 _))

theorem toNat_le24_lt {r last : Reader} {n : UInt32} (h : le24 r = .ok (n, last)) : n.toNat < 16777216 := by
  obtain ⟨position, bs⟩ := r
  rcases bs with _ | ⟨b0, _ | ⟨b1, _ | ⟨b2, more⟩⟩⟩
  · cases h
  · cases h
  · cases h
  · cases h
    have h0 := b0.toNat_lt
    have h1 := b1.toNat_lt
    have h2 := b2.toNat_lt
    rw [Payload.toNat_number, UInt8.toNat_zero]
    omega

theorem bytes_length_le {n : Nat} {r last : Reader} {bs : List UInt8} (h : bytes n r = .ok (bs, last)) :
    bs.length ≤ n := by
  unfold bytes at h
  split at h
  · cases h
  · cases h
    exact List.length_take_le n r.rest

theorem byteOrZero_eq (r : Reader) : byteOrZero r = .ok (r.rest[0]?.getD 0, r.drop 1) := by
  rw [byteOrZero, bind_eq, byte?_eq]
  rfl

theorem text_readable {width : Nat} {r last : Reader} {t : String} (h : text width r = .ok (t, last)) :
    TextField.Readable t := by
  obtain ⟨bs, mid, -, hpure⟩ := bind_eq_ok.mp h
  rw [← (pure_eq_ok.mp hpure).1]
  exact TextField.readable_read bs

end Read
end RailLayout
