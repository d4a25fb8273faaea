import RailLayout.Lcs.Message
import RailLayout.Proofs.Payload.Reader

/-!
What all boards report about themselves, and their configurations, read back from their bytes. A configuration
has a byte for everything that it says, so it comes back as it was; the mode of a power district controller
shares its byte with the bit for the last power state, and comes back because reading takes that bit out of it
(`DistrictConfig.read_encode`).
-/

namespace RailLayout

namespace Read

theorem skip_two (p : Nat) (a b : UInt8) (more : List UInt8) :
    skip 2 ⟨p, a :: b :: more⟩ = .ok ((), ⟨p + 2, more⟩) := by
  have hbytes : bytes 2 ⟨p, a :: b :: more⟩ = .ok ([a, b], ⟨p + 2, more⟩) :=
    bytes_append p more (show [a, b].length = 2 from rfl)
  rw [skip, bind_eq, hbytes]
  rfl

end Read

/-! ## Numbers that mean one of a few things -/

theorem Sequence.ofByte_byte (s : Sequence) : ofByte s.byte = .ok s := by
  cases s <;> rfl

theorem AccessType.ofByte_byte (a : AccessType) : ofByte a.byte = .ok a := by
  cases a <;> rfl

theorem OutputType.ofByte_byte (o : OutputType) : ofByte o.byte = .ok o := by
  cases o <;> rfl

theorem Rotation.ofByte_byte (r : Rotation) : ofByte r.byte = .ok r := by
  cases r <;> rfl

theorem WirelessMode.ofByte_byte (m : WirelessMode) : ofByte m.byte = .ok m := by
  cases m <;> rfl

theorem Payload.flag_ne_zero (b : Bool) : (flag b != 0) = b := by
  cases b <;> rfl

theorem Payload.flag_eq_one (b : Bool) : (flag b == 1) = b := by
  cases b <;> rfl

theorem Fault.code_ofCode (code : UInt8) : (ofCode code).code = code := by
  unfold ofCode
  repeat' split
  all_goals first | exact Eq.symm ‹_› | rfl

/-! ## Bits of a byte -/

theorem and_seven_bits : ∀ n < 256,
    (UInt8.ofNat n &&& 0x7F) &&& 0x7F = UInt8.ofNat n &&& 0x7F ∧ (UInt8.ofNat n &&& 0x7F) &&& 0x80 = 0 ∧
      ((UInt8.ofNat n &&& 0x7F) ||| 0x80) &&& 0x7F = UInt8.ofNat n &&& 0x7F ∧
      ((UInt8.ofNat n &&& 0x7F) ||| 0x80) &&& 0x80 = 0x80 := by
  decide +kernel

theorem lowBits (b : UInt8) :
    (b &&& 0x7F) &&& 0x7F = b &&& 0x7F ∧ (b &&& 0x7F) &&& 0x80 = 0 ∧
      ((b &&& 0x7F) ||| 0x80) &&& 0x7F = b &&& 0x7F ∧ ((b &&& 0x7F) ||| 0x80) &&& 0x80 = 0x80 := by
  have h := and_seven_bits b.toNat b.toNat_lt
  rwa [UInt8.ofNat_toNat] at h

/-! ## Common reports -/

theorem length_fit (n : Nat) (bytes : List UInt8) : (fit n bytes).length = n := by
  simp only [fit, List.length_append, List.length_take, List.length_replicate]
  omega

theorem fit_eq {n : Nat} {bytes : List UInt8} (h : bytes.length = n) : fit n bytes = bytes := by
  rw [fit, List.take_of_length_le (Nat.le_of_eq h), h, Nat.sub_self]
  exact List.append_nil bytes

namespace BoardStatus

theorem read_encode {s : BoardStatus} (h : s.errorCounts.length = errorCounters) :
    Read.Gives read s.encode s := by
  intro p
  simp only [read, encode, List.cons_append, List.nil_append, Read.bind_eq, Read.byte_cons, Read.rest_eq,
    Read.pure_eq, fit_eq h]
  exact ⟨_, rfl⟩

theorem length_of_read {r last : Reader} {s : BoardStatus} (h : read r = .ok (s, last)) :
    s.errorCounts.length = errorCounters := by
  obtain ⟨_, _, -, h⟩ := Read.bind_eq_ok.mp h
  obtain ⟨_, _, -, h⟩ := Read.bind_eq_ok.mp h
  obtain ⟨_, _, -, h⟩ := Read.bind_eq_ok.mp h
  obtain ⟨_, _, -, h⟩ := Read.bind_eq_ok.mp h
  obtain ⟨_, _, -, h⟩ := Read.bind_eq_ok.mp h
  obtain ⟨_, _, -, h⟩ := Read.bind_eq_ok.mp h
  obtain ⟨_, _, -, h⟩ := Read.bind_eq_ok.mp h
  obtain ⟨counts, _, -, h⟩ := Read.bind_eq_ok.mp h
  cases h
  exact length_fit _ counts

end BoardStatus

namespace CommonBody

/-- A body that was read is read from its own bytes. -/
theorem read_encode {code : FrameCode} {action : CommonAction} {r last : Reader} {body : CommonBody}
    (h : read code action r = .ok (body, last)) : Read.Gives (read code action) body.encode body := by
  have hempty : Read.Gives (read code action) [] empty := fun _ => ⟨_, rfl⟩
  unfold read at h
  rw [Read.bind_eq, Read.atEnd_eq] at h
  dsimp only at h
  split at h
  · cases h
    exact hempty
  · cases action with
    | firmware =>
        obtain ⟨_, _, -, h⟩ := Read.bind_eq_ok.mp h
        obtain ⟨_, _, -, h⟩ := Read.bind_eq_ok.mp h
        obtain ⟨_, _, -, h⟩ := Read.bind_eq_ok.mp h
        cases h
        exact fun _ => ⟨_, rfl⟩
    | status =>
        obtain ⟨s, _, hstatus, h⟩ := Read.bind_eq_ok.mp h
        cases h
        exact (BoardStatus.read_encode (BoardStatus.length_of_read hstatus)).map status
    | info =>
        obtain ⟨_, _, -, h⟩ := Read.bind_eq_ok.mp h
        obtain ⟨_, _, -, h⟩ := Read.bind_eq_ok.mp h
        obtain ⟨_, _, -, h⟩ := Read.bind_eq_ok.mp h
        obtain ⟨_, _, -, h⟩ := Read.bind_eq_ok.mp h
        cases h
        exact fun _ => ⟨_, rfl⟩
    | identify =>
        by_cases hset : code.isSet = true
        · rw [if_pos hset] at h
          obtain ⟨light, _, -, h⟩ := Read.bind_eq_ok.mp h
          cases h
          intro p
          show ∃ last, (if code.isSet = true then Read.byte >>= fun light => pure (identify light) else pure empty)
            ⟨p, [light]⟩ = .ok (identify light, last)
          rw [if_pos hset]
          exact ⟨_, rfl⟩
        · rw [if_neg hset] at h
          cases h
          exact hempty
    | config => cases h; exact hempty
    | clearErrors => cases h; exact hempty
    | reset => cases h; exact hempty

end CommonBody

/-! ## Configurations -/

namespace ConfigHeader

@[simp] theorem read_encode (h : ConfigHeader) (p : Nat) (more : List UInt8) :
    read ⟨p, h.encode ++ more⟩ = .ok (h, ⟨p + 5, more⟩) := by
  simp only [read, encode, List.cons_append, List.nil_append, Read.bind_eq, Read.byte_cons, Read.skip_two,
    Read.pure_eq]

theorem gives (h : ConfigHeader) : Read.Gives read h.encode h := by
  intro p
  rw [← List.append_nil h.encode]
  exact ⟨_, read_encode h p []⟩

end ConfigHeader

theorem SensorConfig.read_encode (c : SensorConfig) : Read.Gives read c.encode c := by
  intro p
  simp only [read, encode, Read.bind_eq, ConfigHeader.read_encode, Sequence.ofByte_byte, Read.check_ok,
    Read.byte?_cons, Option.getD_some, Read.pure_eq]
  exact ⟨_, rfl⟩

theorem RelayConfig.read_encode (c : RelayConfig) : Read.Gives read c.encode c := by
  intro p
  simp only [read, encode, Read.bind_eq, ConfigHeader.read_encode, Read.byte_cons, Read.pure_eq]
  exact ⟨_, rfl⟩

namespace DistrictConfig

theorem read_encode {c : DistrictConfig} {r last : Reader} (h : read r = .ok (c, last)) :
    Read.Gives read c.encode c := by
  intro p
  obtain ⟨header, _, -, h⟩ := Read.bind_eq_ok.mp h
  cases h
  obtain ⟨htwice, hclear, hset, hbit⟩ := lowBits header.mode
  rw [encode, ← List.append_nil (ConfigHeader.encode _)]
  simp only [read, Read.bind_eq, ConfigHeader.read_encode, Read.pure_eq, restoreBit]
  by_cases hrestore : (header.mode &&& 0x80 != 0) = true
  · simp only [hrestore, if_true, hset, hbit]
    exact ⟨_, rfl⟩
  · simp only [hrestore, Bool.false_eq_true, if_false, htwice, hclear]
    exact ⟨_, rfl⟩

end DistrictConfig

theorem OutputConfig.read_encode (c : OutputConfig) : Read.Gives read c.encode c := by
  intro p
  have hraw : ∀ (q : Nat) (b0 b1 b2 b3 b4 b5 b6 b7 b8 b9 : UInt8) (more : List UInt8),
      Read.bytes 10 ⟨q, b0 :: b1 :: b2 :: b3 :: b4 :: b5 :: b6 :: b7 :: b8 :: b9 :: more⟩ =
        .ok ([b0, b1, b2, b3, b4, b5, b6, b7, b8, b9], ⟨q + 10, more⟩) := fun q b0 b1 b2 b3 b4 b5 b6 b7 b8 b9 more =>
    Read.bytes_append q more (show [b0, b1, b2, b3, b4, b5, b6, b7, b8, b9].length = 10 from rfl)
  simp only [read, encode, List.cons_append, List.nil_append, Read.bind_eq, Read.byte_cons, Read.be16_append,
    AccessType.ofByte_byte, Read.check_ok, hraw, List.getD_cons_zero, List.getD_cons_succ,
    OutputType.ofByte_byte, Rotation.ofByte_byte, Read.byteOrZero_cons, Payload.flag_ne_zero, Read.pure_eq]
  exact ⟨_, rfl⟩

end RailLayout
