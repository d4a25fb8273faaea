import RailLayout.Command.Codec

/-!
Codecs that can be read back. A codec inverts if what it has spelled is read as the same command, at once and
after more was spelled. The table codec inverts, since a command keeps its slot (`CommandTable.codec_inverts`), and for
the same reason it spells a command as it did before (`CommandTable.codec_repeats`). It spells no more commands than it
has slots; `CommandTable.endless` goes on after them.
-/

namespace RailLayout

/-- Decoding inverts encoding. -/
structure Codec.Inverts {σ : Type} (codec : Codec σ) : Prop where
  /-- A spelled command has bytes. -/
  ne_nil {c : Command} {m m' : σ} {bytes : List UInt8} (h : codec.encode c m = (.ok bytes, m')) : bytes ≠ []
  decode_encode {c : Command} {m m' : σ} {bytes : List UInt8} (h : codec.encode c m = (.ok bytes, m')) :
    codec.decode m' bytes = .ok c
  /-- What could be read can be read after another command was spelled. -/
  decode_later {c : Command} {m : σ} {bytes : List UInt8} (h : codec.decode m bytes = .ok c) (d : Command) :
    codec.decode (codec.encode d m).2 bytes = .ok c

/-- A command that was spelled is spelled the same again, at once and after more was spelled. -/
structure Codec.Repeats {σ : Type} (codec : Codec σ) : Prop where
  encode_again {c : Command} {m m' : σ} {bytes : List UInt8} (h : codec.encode c m = (.ok bytes, m')) :
    codec.encode c m' = (.ok bytes, m')
  encode_later {c : Command} {m : σ} {bytes : List UInt8} (h : codec.encode c m = (.ok bytes, m)) (d : Command) :
    codec.encode c (codec.encode d m).2 = (.ok bytes, (codec.encode d m).2)

/-- Every command can be spelled, whatever was spelled before. -/
def Codec.Total {σ : Type} (codec : Codec σ) : Prop :=
  ∀ c memory, ∃ word memory', codec.encode c memory = (.ok word, memory')

namespace CommandTable

theorem spell_eq_ok {slot : Nat} {bytes : List UInt8} (h : spell slot = .ok bytes) :
    slot < capacity ∧ bytes = [marker, (slot / 256).toUInt8, slot.toUInt8] := by
  unfold spell at h
  split at h
  · rename_i hslot
    cases h
    exact ⟨hslot, rfl⟩
  · cases h

theorem slot_of_bytes {slot : Nat} (h : slot < capacity) :
    (slot / 256).toUInt8.toNat * 256 + slot.toUInt8.toNat = slot := by
  have hcapacity : slot < 65536 := h
  simp only [Nat.toUInt8, UInt8.toNat_ofNat']
  omega

theorem decode_spell {slot : Nat} {bytes : List UInt8} {table : CommandTable} {c : Command}
    (h : spell slot = .ok bytes) (hslot : table[slot]? = some c) : decode table bytes = .ok c := by
  obtain ⟨hbound, rfl⟩ := spell_eq_ok h
  simp only [decode, if_true, slot_of_bytes hbound, hslot]

theorem decode_eq_ok {table : CommandTable} {bytes : List UInt8} {c : Command} (h : decode table bytes = .ok c) :
    ∃ high low, bytes = [marker, high, low] ∧ table[high.toNat * 256 + low.toNat]? = some c := by
  unfold decode at h
  split at h
  · rename_i first high low
    split at h
    · rename_i hmarker
      split at h
      · rename_i found hfound
        cases h
        exact ⟨high, low, by rw [hmarker], hfound⟩
      · cases h
    · cases h
  · cases h

/-- A command that was spelled is in the table, and its slot was spelled. -/
theorem findIdx?_of_encode {c : Command} {table table' : CommandTable} {result : Except Error (List UInt8)}
    (h : encode c table = (result, table')) : ∃ slot, result = spell slot ∧ table'.findIdx? (· == c) = some slot := by
  unfold encode at h
  split at h
  · rename_i slot hfound
    cases h
    exact ⟨slot, rfl, hfound⟩
  · rename_i hnone
    cases h
    refine ⟨table.length, rfl, ?_⟩
    rw [List.findIdx?_append, hnone, Option.none_or, List.findIdx?_singleton, beq_self_eq_true, if_pos rfl,
      Option.map_some, Nat.zero_add]

theorem exists_slot {c : Command} {table table' : CommandTable} {result : Except Error (List UInt8)}
    (h : encode c table = (result, table')) :
    ∃ slot, result = spell slot ∧ table'[slot]? = some c := by
  obtain ⟨slot, hspell, hfound⟩ := findIdx?_of_encode h
  obtain ⟨hbound, hsame, -⟩ := List.findIdx?_eq_some_iff_getElem.mp hfound
  exact ⟨slot, hspell, by rw [List.getElem?_eq_getElem hbound, eq_of_beq hsame]⟩

theorem getElem?_encode {table : CommandTable} {slot : Nat} {c : Command} (h : table[slot]? = some c)
    (d : Command) : (encode d table).2[slot]? = some c := by
  unfold encode
  split
  · exact h
  · obtain ⟨hbound, -⟩ := List.getElem?_eq_some_iff.mp h
    rw [List.getElem?_append_left hbound, h]

theorem codec_inverts : codec.Inverts where
  ne_nil h := by
    obtain ⟨slot, hspell, -⟩ := exists_slot h
    obtain ⟨-, rfl⟩ := spell_eq_ok hspell.symm
    exact List.cons_ne_nil _ _
  decode_encode h := by
    obtain ⟨slot, hspell, hslot⟩ := exists_slot h
    exact decode_spell hspell.symm hslot
  decode_later h d := by
    obtain ⟨high, low, rfl, hslot⟩ := decode_eq_ok h
    have hkept := getElem?_encode hslot d
    simp only [codec, decode, if_true, hkept]

theorem encode_of_findIdx? {c : Command} {table : CommandTable} {slot : Nat}
    (h : table.findIdx? (· == c) = some slot) : encode c table = (spell slot, table) := by
  rw [encode, h]

theorem findIdx?_encode {c : Command} {table : CommandTable} {slot : Nat} (h : table.findIdx? (· == c) = some slot)
    (d : Command) : (encode d table).2.findIdx? (· == c) = some slot := by
  unfold encode
  split
  · exact h
  · rw [List.findIdx?_append, h, Option.some_or]

theorem codec_repeats : codec.Repeats where
  encode_again h := by
    obtain ⟨slot, hspell, hfound⟩ := findIdx?_of_encode h
    rw [hspell]
    exact encode_of_findIdx? hfound
  encode_later h d := by
    obtain ⟨slot, hspell, hfound⟩ := findIdx?_of_encode h
    rw [hspell]
    exact encode_of_findIdx? (findIdx?_encode hfound d)

/-! ## A table without an end -/

/-- The bytes of any slot. One that the table codec has no bytes for is spelled by its length. -/
def spellAny (slot : Nat) : List UInt8 :=
  if slot < capacity then [marker, (slot / 256).toUInt8, slot.toUInt8] else List.replicate slot marker

def slotOf : List UInt8 → Nat
  | [_, high, low] => high.toNat * 256 + low.toNat
  | bytes => bytes.length

/-- The table codec, as long as it has slots, and then without an end. -/
def endless : Codec CommandTable where
  encode c table :=
    let table := (encode c table).2
    (.ok (spellAny ((table.findIdx? (· == c)).getD 0)), table)
  decode table bytes :=
    match table[slotOf bytes]? with
    | some c => .ok c
    | none => .error (.codec (.unreadable bytes))

theorem slotOf_of_length {bytes : List UInt8} (h : bytes.length ≠ 3) : slotOf bytes = bytes.length := by
  unfold slotOf
  split
  · exact absurd rfl h
  · rfl

theorem slotOf_spellAny (slot : Nat) : slotOf (spellAny slot) = slot := by
  unfold spellAny
  split
  · rename_i hslot
    exact slot_of_bytes hslot
  · rename_i hslot
    have hlength : (List.replicate slot marker).length = slot := List.length_replicate
    have hlong : (List.replicate slot marker).length ≠ 3 := by
      rw [hlength]
      rintro rfl
      exact hslot (by decide)
    rw [slotOf_of_length hlong, hlength]

theorem decode_endless {table : CommandTable} {bytes : List UInt8} {c : Command} :
    endless.decode table bytes = .ok c ↔ table[slotOf bytes]? = some c := by
  simp only [endless]
  split
  · rename_i found hfound
    rw [hfound, Except.ok.injEq, Option.some.injEq]
  · rename_i hnone
    rw [hnone]
    exact ⟨nofun, nofun⟩

theorem spellAny_ne_nil (slot : Nat) : spellAny slot ≠ [] := by
  unfold spellAny
  split
  · exact List.cons_ne_nil _ _
  · rename_i hslot
    rw [ne_eq, List.replicate_eq_nil_iff]
    rintro rfl
    exact hslot (by decide)

theorem encode_endless (c : Command) (table : CommandTable) :
    ∃ slot table', endless.encode c table = (.ok (spellAny slot), table') ∧ table'[slot]? = some c := by
  rcases hencode : encode c table with ⟨result, table'⟩
  obtain ⟨slot, -, hfound⟩ := findIdx?_of_encode hencode
  obtain ⟨hbound, hsame, -⟩ := List.findIdx?_eq_some_iff_getElem.mp hfound
  refine ⟨slot, table', ?_, by rw [List.getElem?_eq_getElem hbound, eq_of_beq hsame]⟩
  simp only [endless, hencode, hfound, Option.getD_some]

theorem endless_total : endless.Total := by
  intro c table
  obtain ⟨slot, table', hspelled, -⟩ := encode_endless c table
  exact ⟨spellAny slot, table', hspelled⟩

theorem endless_inverts : endless.Inverts where
  ne_nil {c table _ _} h := by
    obtain ⟨slot, table', hspelled, -⟩ := encode_endless c table
    rw [hspelled] at h
    cases h
    exact spellAny_ne_nil slot
  decode_encode {c table _ _} h := by
    obtain ⟨slot, table', hspelled, hslot⟩ := encode_endless c table
    rw [hspelled] at h
    cases h
    rw [decode_endless, slotOf_spellAny]
    exact hslot
  decode_later h d := decode_endless.mpr (getElem?_encode (decode_endless.mp h) d)

end CommandTable
end RailLayout
