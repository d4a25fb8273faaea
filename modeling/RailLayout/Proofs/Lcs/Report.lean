import RailLayout.Proofs.Lcs.Config
import RailLayout.Proofs.Text.Numeral

/-!
What boards are told and report, read back from its bytes. Two things can change. A relay controller takes a
hold of a single tick for none, so that hold is sent as none (`RelayReport.resent`); and the name and the number
of a product are cut to their fields (`Product.resent`). Everything else that was read comes back as it was.
-/

namespace RailLayout

/-! ## The sensor track -/

namespace Product

/-- The texts of a product, with the widths of their fields. -/
def texts (p : Product) : List (Nat × String) := [(nameWidth, p.name), (numberWidth, p.number)]

/-- The product that is read from the bytes of a product. -/
def resent (p : Product) : Product :=
  { p with name := TextField.resent nameWidth p.name, number := TextField.resent numberWidth p.number }

/-- Whether a product says what a product block can say. -/
structure Spoken (p : Product) : Prop where
  year : p.year = 0 ∨ ∃ y < 100, p.year = 2000 + y.toUInt16
  odometer : p.odometer.toNat < 16777216
  name : TextField.Readable p.name
  number : TextField.Readable p.number

theorem readYear_cases {digits : List UInt8} (h : digits.length ≤ 2) :
    readYear digits = 0 ∨ ∃ y < 100, readYear digits = 2000 + y.toUInt16 := by
  have htrim : (Text.trim (Utf8.decode digits)).length ≤ 2 := by
    have h1 := (Text.trimEnd_prefix (Text.trimStart (Utf8.decode digits))).length_le
    have h2 := (List.dropWhile_sublist (l := Utf8.decode digits) Text.isBlank).length_le
    have h3 := Utf8.length_decode_le digits
    unfold Text.trim
    unfold Text.trimStart at h1 ⊢
    omega
  unfold readYear
  split
  · rename_i y hy
    have hlt : y.toNat < 100 :=
      Nat.lt_of_lt_of_le (Numeral.toNat_lt_of_word? hy) (Nat.pow_le_pow_right (by decide) htrim)
    exact Or.inr ⟨y.toNat, hlt, by rw [Nat.toUInt16, UInt16.ofNat_toNat]⟩
  · exact Or.inl rfl

theorem length_encodeYear (year : UInt16) : (encodeYear year).length = 2 := by
  unfold encodeYear
  split
  · rw [Utf8.encode, String.toList_ofList]
    exact Numeral.length_encodeChars_fixedDigits 2 _
  · rfl

theorem readYear_encodeYear {year : UInt16} (h : year = 0 ∨ ∃ y < 100, year = 2000 + y.toUInt16) :
    readYear (encodeYear year) = year := by
  rcases h with rfl | ⟨y, hy, rfl⟩
  · decide
  · have hyear : (2000 + y.toUInt16).toNat = 2000 + y := by
      rw [UInt16.toNat_add]
      show (2000 + y % 65536) % 65536 = 2000 + y
      omega
    have hlate : (2000 : UInt16) ≤ 2000 + y.toUInt16 := by
      rw [UInt16.le_iff_toNat_le, hyear]
      exact Nat.le_add_right 2000 y
    have hdigits : (2000 + y - 2000) % 100 = y := by omega
    have hdecode : Utf8.decode (Utf8.encode (String.ofList (Numeral.fixedDigits 2 y))) = Numeral.fixedDigits 2 y := by
      rw [Utf8.encode, String.toList_ofList]
      exact Utf8.decode_encodeChars _
    rw [encodeYear, if_pos hlate, hyear, hdigits, readYear, hdecode, Numeral.trim_fixedDigits,
      Numeral.word?_fixedDigits (by decide) hy (by omega)]

theorem spoken_of_read {r last : Reader} {p : Product} (h : read r = .ok (p, last)) : p.Spoken := by
  unfold read at h
  obtain ⟨_, _, -, h⟩ := Read.bind_eq_ok.mp h
  obtain ⟨_, _, -, h⟩ := Read.bind_eq_ok.mp h
  obtain ⟨_, _, -, h⟩ := Read.bind_eq_ok.mp h
  obtain ⟨_, _, -, h⟩ := Read.bind_eq_ok.mp h
  obtain ⟨digits, _, hdigits, h⟩ := Read.bind_eq_ok.mp h
  obtain ⟨_, _, -, h⟩ := Read.bind_eq_ok.mp h
  obtain ⟨name, _, hname, h⟩ := Read.bind_eq_ok.mp h
  obtain ⟨number, _, hnumber, h⟩ := Read.bind_eq_ok.mp h
  obtain ⟨_, _, -, h⟩ := Read.bind_eq_ok.mp h
  obtain ⟨_, _, -, h⟩ := Read.bind_eq_ok.mp h
  obtain ⟨_, _, -, h⟩ := Read.bind_eq_ok.mp h
  obtain ⟨odometer, _, hodometer, h⟩ := Read.bind_eq_ok.mp h
  cases h
  exact ⟨readYear_cases (Read.bytes_length_le hdigits), Read.toNat_le24_lt hodometer,
    Read.text_readable hname, Read.text_readable hnumber⟩

theorem length_encode (p : Product) : p.encode.length = size := by
  simp only [encode, List.length_append, length_encodeYear, TextField.length_write]
  rfl

theorem read_encode {p : Product} (h : p.Spoken) : Read.Gives read p.encode p.resent := by
  intro q
  have hskip : ∀ (n : Nat) (b : UInt8) (more : List UInt8),
      Read.skip 1 ⟨n, b :: more⟩ = .ok ((), ⟨n + 1, more⟩) := fun n b more => rfl
  have hodometer : ∀ n, Read.le24 ⟨n, Payload.le24 p.odometer⟩ = .ok (p.odometer, ⟨n + 3, []⟩) := by
    intro n
    rw [← List.append_nil (Payload.le24 p.odometer), Read.le24_append n [] h.odometer]
  simp only [read, encode, List.append_assoc, List.cons_append, List.nil_append, Read.bind_eq, Read.le16_append,
    Read.byte_cons, Read.bytes_append _ _ (length_encodeYear p.year), hskip, Read.text_write, hodometer,
    readYear_encodeYear h.year, Read.pure_eq, resent]
  exact ⟨_, rfl⟩

theorem resent_resent (p : Product) : p.resent.resent = p.resent := by
  simp only [resent, TextField.resent_resent]

theorem resent_eq {p : Product} (h : p.Spoken) (hfits : TextField.AllFit p.texts) : p.resent = p := by
  have hname : TextField.Fits nameWidth p.name := hfits _ List.mem_cons_self
  have hnumber : TextField.Fits numberWidth p.number := hfits _ (List.mem_cons_of_mem _ List.mem_cons_self)
  rw [resent, TextField.resent_of_fits h.name hname, TextField.resent_of_fits h.number hnumber]

end Product

namespace Sighting

/-- The sighting that is read from the bytes of a sighting. -/
def resent (s : Sighting) : Sighting := { s with product := s.product.map Product.resent }

theorem spoken_of_read {r last : Reader} {s : Sighting} (h : read r = .ok (s, last)) :
    ∀ p, s.product = some p → p.Spoken := by
  unfold read at h
  iterate 10 obtain ⟨_, _, -, h⟩ := Read.bind_eq_ok.mp h
  obtain ⟨left, _, -, h⟩ := Read.bind_eq_ok.mp h
  split at h
  · obtain ⟨product, _, hproduct, h⟩ := Read.bind_eq_ok.mp h
    cases h
    rw [Read.map_eq] at hproduct
    split at hproduct
    · rename_i p' _ hread
      cases hproduct
      intro p hp
      cases hp
      exact Product.spoken_of_read hread
    · cases hproduct
  · cases h
    intro p hp
    cases hp

theorem read_encode {s : Sighting} (h : ∀ p, s.product = some p → p.Spoken) :
    Read.Gives read s.encode s.resent := by
  obtain ⟨valid1, valid2, dir, engineId, trainId, status, fuel, water, burn, fwbMask, product⟩ := s
  intro q
  cases product with
  | none =>
      have hroom : ¬Product.size ≤ ([] : List UInt8).length := by decide
      simp only [read, encode, List.append_assoc, List.cons_append, List.nil_append, Read.bind_eq,
        Read.le16_append, Read.byte_cons, Read.remaining_eq, Reader.remaining, if_neg hroom, Read.pure_eq]
      exact ⟨_, rfl⟩
  | some p =>
      have hroom : Product.size ≤ p.encode.length := Nat.le_of_eq (Product.length_encode p).symm
      obtain ⟨last, hproduct⟩ := Product.read_encode (h p rfl) (q + 2 + 2 + 1 + 1 + 1 + 1 + 1 + 1 + 1 + 1)
      simp only [read, encode, List.append_assoc, List.cons_append, List.nil_append, Read.bind_eq,
        Read.le16_append, Read.byte_cons, Read.remaining_eq, Reader.remaining, if_pos hroom, Read.map_eq,
        hproduct, Read.pure_eq]
      exact ⟨_, rfl⟩

end Sighting

namespace SensorReport

/-- The texts of a report, with the widths of their fields. -/
def texts : SensorReport → List (Nat × String)
  | data s => (s.product.map Product.texts).getD []
  | _ => []

/-- The report that is read from the bytes of a report. -/
def resent : SensorReport → SensorReport
  | data s => data s.resent
  | r => r

/-- Whether the product of a report says what a product block can say. -/
def Spoken : SensorReport → Prop
  | data s => ∀ p, s.product = some p → p.Spoken
  | _ => True

/-- A report that was read is read from its own bytes, with its texts cut to their fields. -/
theorem read_encode {action : SensorAction} {r last : Reader} {x : SensorReport}
    (h : read action r = .ok (x, last)) : x.Spoken ∧ Read.Gives (read action) x.encode x.resent := by
  cases action with
  | data =>
      obtain ⟨s, _, hs, h⟩ := Read.bind_eq_ok.mp h
      cases h
      have hspoken := Sighting.spoken_of_read hs
      exact ⟨hspoken, (Sighting.read_encode hspoken).map data⟩
  | sequence =>
      obtain ⟨b, _, -, h⟩ := Read.bind_eq_ok.mp h
      obtain ⟨s, _, -, h⟩ := Read.bind_eq_ok.mp h
      cases h
      refine ⟨trivial, fun p => ?_⟩
      simp only [read, encode, Read.bind_eq, Read.byte_cons, Sequence.ofByte_byte, Read.check_ok, Read.pure_eq]
      exact ⟨_, rfl⟩
  | record =>
      obtain ⟨b, _, -, h⟩ := Read.bind_eq_ok.mp h
      cases h
      exact ⟨trivial, fun p => ⟨_, rfl⟩⟩
  | diagData =>
      obtain ⟨bytes, _, -, h⟩ := Read.bind_eq_ok.mp h
      cases h
      exact ⟨trivial, fun p => ⟨_, rfl⟩⟩

theorem rest_eq_nil {action : SensorAction} {r last : Reader} {x : SensorReport}
    (h : read action r = .ok (x, last)) (hsilent : x.encode = []) : r.rest = [] := by
  cases action with
  | data =>
      obtain ⟨s, _, -, h⟩ := Read.bind_eq_ok.mp h
      cases h
      cases hsilent
  | sequence =>
      obtain ⟨_, _, -, h⟩ := Read.bind_eq_ok.mp h
      obtain ⟨_, _, -, h⟩ := Read.bind_eq_ok.mp h
      cases h
      cases hsilent
  | record =>
      obtain ⟨_, _, -, h⟩ := Read.bind_eq_ok.mp h
      cases h
      cases hsilent
  | diagData =>
      obtain ⟨_, _, hrest, h⟩ := Read.bind_eq_ok.mp h
      cases h
      cases hrest
      exact hsilent

theorem resent_resent (x : SensorReport) : x.resent.resent = x.resent := by
  cases x with
  | data s =>
      obtain ⟨valid1, valid2, dir, engineId, trainId, status, fuel, water, burn, fwbMask, product⟩ := s
      cases product with
      | none => rfl
      | some p => simp only [resent, Sighting.resent, Option.map_some, Product.resent_resent]
  | sequence s => rfl
  | record status => rfl
  | diagData bytes => rfl

theorem resent_eq {x : SensorReport} (h : x.Spoken) (hfits : TextField.AllFit x.texts) : x.resent = x := by
  cases x with
  | data s =>
      obtain ⟨valid1, valid2, dir, engineId, trainId, status, fuel, water, burn, fwbMask, product⟩ := s
      cases product with
      | none => rfl
      | some p => simp only [resent, Sighting.resent, Option.map_some, Product.resent_eq (h p rfl) hfits]
  | sequence s => rfl
  | record status => rfl
  | diagData bytes => rfl

end SensorReport

/-! ## The wireless module -/

namespace WirelessReport

theorem clientsOf_flatMap {base : HostAddress} {clients : List WirelessClient}
    (h : ∀ c ∈ clients, c.address = { base with d := c.address.d }) :
    clientsOf base (clients.flatMap fun c => [c.slot, c.address.d]) = clients := by
  induction clients with
  | nil => rfl
  | cons c rest ih =>
      show (⟨c.slot, { base with d := c.address.d }⟩ : WirelessClient) :: clientsOf base (rest.flatMap _) = _
      rw [ih fun x hx => h x (List.mem_cons_of_mem c hx), ← h c List.mem_cons_self]

theorem address_clientsOf (base : HostAddress) (bytes : List UInt8) :
    ∀ c ∈ clientsOf base bytes, c.address = { base with d := c.address.d } := by
  fun_induction clientsOf base bytes with
  | case1 slot last rest ih =>
      rintro c (_ | ⟨_, hmem⟩)
      · rfl
      · exact ih c hmem
  | case2 => exact fun c hmem => absurd hmem List.not_mem_nil

theorem read_encode {action : WirelessAction} {r last : Reader} {x : WirelessReport}
    (h : read action r = .ok (x, last)) : Read.Gives (read action) x.encode x := by
  cases action with
  | connect =>
      obtain ⟨_, _, -, h⟩ := Read.bind_eq_ok.mp h
      obtain ⟨_, _, -, h⟩ := Read.bind_eq_ok.mp h
      obtain ⟨_, _, -, h⟩ := Read.bind_eq_ok.mp h
      obtain ⟨_, _, -, h⟩ := Read.bind_eq_ok.mp h
      cases h
      intro p
      simp only [read, encode, Read.bind_eq, Read.byte_cons, WirelessMode.ofByte_byte, Read.check_ok, Read.pure_eq]
      exact ⟨_, rfl⟩
  | ip =>
      obtain ⟨octets, _, -, h⟩ := Read.bind_eq_ok.mp h
      obtain ⟨bytes, _, -, h⟩ := Read.bind_eq_ok.mp h
      cases h
      intro p
      have hoctets : ∀ (b0 b1 b2 b3 : UInt8) (more : List UInt8),
          Read.bytes 4 ⟨p, b0 :: b1 :: b2 :: b3 :: more⟩ = .ok ([b0, b1, b2, b3], ⟨p + 4, more⟩) :=
        fun b0 b1 b2 b3 more => Read.bytes_append p more (show [b0, b1, b2, b3].length = 4 from rfl)
      simp only [read, encode, List.cons_append, List.nil_append, Read.bind_eq, hoctets, List.getD_cons_zero,
        List.getD_cons_succ, Read.rest_eq, clientsOf_flatMap (address_clientsOf _ bytes), Read.pure_eq]
      exact ⟨_, rfl⟩
  | respBcasts =>
      obtain ⟨b, _, -, h⟩ := Read.bind_eq_ok.mp h
      cases h
      intro p
      simp only [read, encode, Read.bind_eq, Read.byte_cons, Payload.flag_eq_one, Read.pure_eq]
      exact ⟨_, rfl⟩
  | unlock =>
      obtain ⟨bytes, _, -, h⟩ := Read.bind_eq_ok.mp h
      cases h
      exact fun p => ⟨_, rfl⟩
  | passcode =>
      obtain ⟨bytes, _, -, h⟩ := Read.bind_eq_ok.mp h
      cases h
      exact fun p => ⟨_, rfl⟩

theorem rest_eq_nil {action : WirelessAction} {r last : Reader} {x : WirelessReport}
    (h : read action r = .ok (x, last)) (hsilent : x.encode = []) : r.rest = [] := by
  have hraw : ∀ {y : WirelessReport}, (do return .raw (← Read.rest) : Read WirelessReport) r = .ok (y, last) →
      y.encode = [] → r.rest = [] := by
    intro y hy hnil
    obtain ⟨_, _, hrest, hy⟩ := Read.bind_eq_ok.mp hy
    cases hy
    cases hrest
    exact hnil
  cases action with
  | connect =>
      obtain ⟨_, _, -, h⟩ := Read.bind_eq_ok.mp h
      obtain ⟨_, _, -, h⟩ := Read.bind_eq_ok.mp h
      obtain ⟨_, _, -, h⟩ := Read.bind_eq_ok.mp h
      obtain ⟨_, _, -, h⟩ := Read.bind_eq_ok.mp h
      cases h
      cases hsilent
  | ip =>
      obtain ⟨_, _, -, h⟩ := Read.bind_eq_ok.mp h
      obtain ⟨_, _, -, h⟩ := Read.bind_eq_ok.mp h
      cases h
      cases hsilent
  | respBcasts =>
      obtain ⟨_, _, -, h⟩ := Read.bind_eq_ok.mp h
      cases h
      cases hsilent
  | unlock => exact hraw h hsilent
  | passcode => exact hraw h hsilent

end WirelessReport

/-! ## Controllers -/

namespace RelayReport

/-- The report that is read from the bytes of a report. -/
def resent : RelayReport → RelayReport
  | pulse relay time => pulse relay (holdByte time)
  | control4 values time => control4 values (holdByte time)
  | r => r

/-- Whether a report holds a relay for a single tick in a place where the board takes that for no hold. -/
def isSingleTick : RelayReport → Bool
  | pulse _ time => time == 1
  | control4 _ time => time == 1
  | _ => false

/-- A report that was read is read from its own bytes, without a hold of a single tick. -/
theorem read_encode {code : FrameCode} {action : RelayAction} {r last : Reader} {x : RelayReport}
    (h : read code action r = .ok (x, last)) : Read.Gives (read code action) x.encode x.resent := by
  obtain ⟨first, _, -, h⟩ := Read.bind_eq_ok.mp h
  cases action with
  | control1 =>
      obtain ⟨_, _, -, h⟩ := Read.bind_eq_ok.mp h
      cases h
      exact fun p => ⟨_, rfl⟩
  | control2 =>
      obtain ⟨_, _, -, h⟩ := Read.bind_eq_ok.mp h
      cases h
      exact fun p => ⟨_, rfl⟩
  | control3 =>
      obtain ⟨second, _, -, h⟩ := Read.bind_eq_ok.mp h
      intro p
      by_cases hset : code.isSet = true
      · rw [if_pos hset] at h
        cases h
        simp only [read, encode, Read.bind_eq, Read.byte_cons, Read.byteOrZero_cons, if_pos hset]
        exact ⟨_, rfl⟩
      · rw [if_neg hset] at h
        cases h
        simp only [read, encode, Read.bind_eq, Read.byte_cons, Read.byteOrZero_cons, if_neg hset]
        exact ⟨_, rfl⟩
  | control4 =>
      obtain ⟨_, _, -, h⟩ := Read.bind_eq_ok.mp h
      cases h
      exact fun p => ⟨_, rfl⟩
  | control5 =>
      cases h
      exact fun p => ⟨_, rfl⟩

theorem holdByte_holdByte (time : UInt8) : holdByte (holdByte time) = holdByte time := by
  unfold holdByte
  by_cases htick : time = 1
  · rw [if_pos htick]
    rfl
  · rw [if_neg htick, if_neg htick]

theorem resent_resent (x : RelayReport) : x.resent.resent = x.resent := by
  cases x <;> simp only [resent, holdByte_holdByte]

theorem holdByte_eq_iff (time : UInt8) : holdByte time = time ↔ (time == 1) = false := by
  rw [holdByte, beq_eq_false_iff_ne]
  split
  · rename_i htick
    rw [htick]
    decide
  · rename_i hother
    exact iff_of_true rfl hother

theorem resent_eq {x : RelayReport} (h : x.isSingleTick = false) : x.resent = x := by
  cases x with
  | pulse relay time => rw [resent, (holdByte_eq_iff time).mpr h]
  | control4 values time => rw [resent, (holdByte_eq_iff time).mpr h]
  | control1 values time => rfl
  | control2 values valids => rfl
  | control3 values valids => rfl
  | control5 values => rfl

end RelayReport

theorem DistrictReport.read_encode {action : DistrictAction} {r last : Reader} {x : DistrictReport}
    (h : read action r = .ok (x, last)) : Read.Gives (read action) x.encode x := by
  have hbank : ∀ {r last : Reader} {x : DistrictReport}, read.readBank r = .ok (x, last) →
      Read.Gives read.readBank x.encode x := by
    intro r last x h
    obtain ⟨_, _, -, h⟩ := Read.bind_eq_ok.mp h
    obtain ⟨_, _, -, h⟩ := Read.bind_eq_ok.mp h
    cases h
    exact fun p => ⟨_, rfl⟩
  cases action with
  | control1 =>
      obtain ⟨_, _, -, h⟩ := Read.bind_eq_ok.mp h
      cases h
      exact fun p => ⟨_, rfl⟩
  | control3 =>
      obtain ⟨_, _, -, h⟩ := Read.bind_eq_ok.mp h
      cases h
      exact fun p => ⟨_, rfl⟩
  | control2 => exact hbank h
  | control4 => exact hbank h

theorem PositionReport.read_encode {action : PositionAction} {r last : Reader} {x : PositionReport}
    (h : read action r = .ok (x, last)) : Read.Gives (read action) x.encode x := by
  cases action with
  | control1 =>
      obtain ⟨_, _, -, h⟩ := Read.bind_eq_ok.mp h
      cases h
      exact fun p => ⟨_, rfl⟩

namespace OutputReport

theorem skipReserved_reserved (code : FrameCode) (p : Nat) (more : List UInt8) :
    ∃ q, skipReserved code ⟨p, reserved code ++ more⟩ = .ok ((), ⟨q, more⟩) := by
  unfold skipReserved reserved
  by_cases hrx : code.isRx = true
  · rw [if_pos hrx, if_pos hrx]
    exact ⟨_, rfl⟩
  · rw [if_neg hrx, if_neg hrx]
    exact ⟨_, rfl⟩

/-- A report that was read is read from its own bytes, also in a frame with another code unless just one of the two is a
query's. -/
theorem read_encode {code later : FrameCode} (hsame : later.isGet = code.isGet) {action : OutputAction}
    {r last : Reader} {x : OutputReport} (h : read code action r = .ok (x, last)) :
    Read.Gives (read later action) (x.encode later) x := by
  unfold read at h
  rw [← hsame] at h
  intro p
  by_cases hget : later.isGet = true
  · rw [if_pos hget] at h
    obtain ⟨index, _, -, h⟩ := Read.bind_eq_ok.mp h
    cases h
    simp only [read, encode, if_pos hget, Read.bind_eq, Read.byte_cons, Read.pure_eq]
    exact ⟨_, rfl⟩
  rw [if_neg hget] at h
  obtain ⟨_, _, -, h⟩ := Read.bind_eq_ok.mp h
  cases action with
  | motor =>
      obtain ⟨motor, _, -, h⟩ := Read.bind_eq_ok.mp h
      obtain ⟨speed, _, -, h⟩ := Read.bind_eq_ok.mp h
      obtain ⟨_, _, -, h⟩ := Read.bind_eq_ok.mp h
      obtain ⟨rotation, _, -, h⟩ := Read.bind_eq_ok.mp h
      cases h
      obtain ⟨q, hskip⟩ := skipReserved_reserved later p [motor, speed, rotation.byte]
      simp only [read, encode, if_neg hget, Read.bind_eq, hskip, Read.byte_cons, Rotation.ofByte_byte, Read.check_ok,
        Read.pure_eq]
      exact ⟨_, rfl⟩
  | lamp =>
      obtain ⟨lamp, _, -, h⟩ := Read.bind_eq_ok.mp h
      obtain ⟨level, _, -, h⟩ := Read.bind_eq_ok.mp h
      cases h
      obtain ⟨q, hskip⟩ := skipReserved_reserved later p [lamp, level]
      simp only [read, encode, if_neg hget, Read.bind_eq, hskip, Read.byte_cons, Read.pure_eq]
      exact ⟨_, rfl⟩
  | motorConfig =>
      obtain ⟨motor, _, -, h⟩ := Read.bind_eq_ok.mp h
      obtain ⟨_, _, -, h⟩ := Read.bind_eq_ok.mp h
      obtain ⟨outputType, _, -, h⟩ := Read.bind_eq_ok.mp h
      obtain ⟨restoreState, _, -, h⟩ := Read.bind_eq_ok.mp h
      cases h
      obtain ⟨q, hskip⟩ := skipReserved_reserved later p
        [motor, outputType.byte, Payload.flag (restoreState != 0)]
      simp only [read, encode, if_neg hget, Read.bind_eq, hskip, Read.byte_cons, OutputType.ofByte_byte,
        Read.check_ok, Payload.flag_ne_zero, Read.pure_eq]
      exact ⟨_, rfl⟩

end OutputReport
end RailLayout
