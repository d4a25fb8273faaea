import Mathlib.Data.List.TakeWhile
import RailLayout.Proofs.Text.Utf8
import RailLayout.Text.Field

/-!
Texts in fields of fixed width. A text that was read from a field, of whatever width, holds no zero character
and no blank at its end (`readable_read`). Written to a field and read again, such a text comes back if its
bytes fit the field (`resent_of_fits`). What comes back from any text is the characters before its first zero, cut to
the field, without the blanks at the end (`toList_resent`), and it stays as it is from then on (`resent_settles`).
-/

namespace RailLayout

namespace Text

theorem trimEnd_prefix (cs : List Char) : trimEnd cs <+: cs := by
  have h := List.reverse_prefix.mpr (List.dropWhile_suffix (l := cs.reverse) isBlank)
  rwa [List.reverse_reverse] at h

theorem trimEnd_trimEnd (cs : List Char) : trimEnd (trimEnd cs) = trimEnd cs := by
  unfold trimEnd
  rw [List.reverse_reverse]
  congr 1
  cases hrest : cs.reverse.dropWhile isBlank with
  | nil => rfl
  | cons c more =>
      have hhead := List.head?_dropWhile_not isBlank cs.reverse
      rw [hrest] at hhead
      have hink : isBlank c = false := hhead
      rw [List.dropWhile_cons_of_neg (by rw [hink]; exact Bool.false_ne_true)]

/-- Characters that do not end in a blank have nothing to trim. -/
theorem trimEnd_of_getLast? {cs : List Char} (h : ∀ c, cs.getLast? = some c → isBlank c = false) :
    trimEnd cs = cs := by
  unfold trimEnd
  cases hrest : cs.reverse with
  | nil => rw [List.reverse_eq_nil_iff.mp hrest]; rfl
  | cons c more =>
      have hlast : cs.getLast? = some c := by rw [← List.head?_reverse, hrest, List.head?_cons]
      rw [List.dropWhile_cons_of_neg (by rw [h c hlast]; exact Bool.false_ne_true), ← hrest, List.reverse_reverse]

end Text

namespace TextField

/-- Whether a field can hold a text as it is: it has no zero character, and no blank at its end. -/
def Readable (text : String) : Prop :=
  Char.ofNat 0 ∉ text.toList ∧ Text.trimEnd text.toList = text.toList

instance (text : String) : Decidable (Readable text) := inferInstanceAs (Decidable (_ ∧ _))

/-- Whether the bytes of a text fit a field. -/
def Fits (width : Nat) (text : String) : Prop := (Utf8.encode text).length ≤ width

instance (width : Nat) (text : String) : Decidable (Fits width text) :=
  inferInstanceAs (Decidable (_ ≤ _))

/-- The text that is read from a field to which a text was written. -/
def resent (width : Nat) (text : String) : String := read (write width text)

theorem length_write (width : Nat) (text : String) : (write width text).length = width := by
  simp only [write, List.length_append, List.length_take, List.length_replicate]
  omega

theorem zero_notMem_content (bytes : List UInt8) : 0 ∉ content bytes := by
  intro hmem
  have h := List.all_eq_true.mp (List.all_takeWhile (p := (· != 0)) (l := bytes)) 0 hmem
  cases h

theorem length_read_le (bytes : List UInt8) : (read bytes).toList.length ≤ bytes.length := by
  rw [read, String.toList_ofList]
  calc
    (Text.trimEnd (Utf8.decode (content bytes))).length ≤ (Utf8.decode (content bytes)).length :=
      (Text.trimEnd_prefix _).length_le
    _ ≤ (content bytes).length := Utf8.length_decode_le _
    _ ≤ bytes.length := (List.takeWhile_prefix _).length_le

/-- Whatever is read from a field can be held by a field. -/
theorem readable_read (bytes : List UInt8) : Readable (read bytes) := by
  unfold Readable read
  rw [String.toList_ofList]
  refine ⟨fun hzero => ?_, Text.trimEnd_trimEnd _⟩
  exact Utf8.zero_notMem_decode (zero_notMem_content bytes) ((Text.trimEnd_prefix _).subset hzero)

theorem readable_empty : Readable "" := ⟨List.not_mem_nil, rfl⟩

theorem readable_resent (width : Nat) (text : String) : Readable (resent width text) :=
  readable_read _

/-- The zeros that fill a field up are not read. -/
theorem content_append_zeros (bytes : List UInt8) (n : Nat) :
    content (bytes ++ List.replicate n 0) = content bytes := by
  rw [content, List.takeWhile_append]
  split
  · rename_i hall
    have hwhole : bytes.takeWhile (· != 0) = bytes := (List.takeWhile_prefix _).eq_of_length hall
    rw [List.takeWhile_replicate, content, hwhole]
    exact List.append_nil bytes
  · rfl

theorem content_of_zero_notMem {bytes : List UInt8} (h : 0 ∉ bytes) : content bytes = bytes := by
  rw [content, List.takeWhile_eq_self_iff]
  intro b hb
  rw [bne_iff_ne]
  rintro rfl
  exact h hb

/-- A text as far as its first zero character, where a field ends it. -/
def beforeZero (text : String) : String := String.ofList (text.toList.takeWhile (· != Char.ofNat 0))

theorem beforeZero_eq {text : String} (h : Char.ofNat 0 ∉ text.toList) : beforeZero text = text := by
  have hwhole : text.toList.takeWhile (· != Char.ofNat 0) = text.toList := by
    rw [List.takeWhile_eq_self_iff]
    intro c hc
    rw [bne_iff_ne]
    rintro rfl
    exact h hc
  rw [beforeZero, hwhole, String.ofList_toList]

theorem content_write (width : Nat) (text : String) :
    content (write width text) = (Utf8.encode (beforeZero text)).take width := by
  have hcut : content ((Utf8.encode text).take width) = (content (Utf8.encode text)).take width :=
    List.take_takeWhile.symm
  have hended : content (Utf8.encode text) = Utf8.encode (beforeZero text) := by
    rw [Utf8.encode, Utf8.encode, beforeZero, String.toList_ofList]
    exact Utf8.takeWhile_encodeChars text.toList
  rw [write, content_append_zeros, hcut, hended]

/-- What is read back: the characters before the first zero, cut to the field, without the blanks at the end. -/
theorem toList_resent (width : Nat) (text : String) :
    (resent width text).toList = Text.trimEnd (Utf8.cut width (beforeZero text).toList) := by
  rw [resent, read, content_write, String.toList_ofList]
  exact congrArg Text.trimEnd (Utf8.decode_take_encodeChars width (beforeZero text).toList)

theorem resent_of_fits {width : Nat} {text : String} (h : Readable text) (hfits : Fits width text) :
    resent width text = text := by
  rw [← String.toList_inj, toList_resent, beforeZero_eq h.1, Utf8.cut_of_le hfits, h.2]

/-- A text that was read from characters of one byte each fits the field that it was read from. -/
theorem fits_read_of_lt {bytes : List UInt8} (h : ∀ b ∈ bytes, b < 0x80) : Fits bytes.length (read bytes) := by
  have hcontent : content bytes <+: bytes := List.takeWhile_prefix _
  obtain ⟨cs, hcs⟩ := Utf8.exists_encodeChars_of_lt fun b hb => h b (hcontent.subset hb)
  obtain ⟨rest, hrest⟩ := Text.trimEnd_prefix cs
  have hlength : (Utf8.encodeChars (Text.trimEnd cs)).length ≤ (Utf8.encodeChars cs).length := by
    rw [← congrArg (fun cs => (Utf8.encodeChars cs).length) hrest, Utf8.encodeChars, Utf8.encodeChars,
      List.flatMap_append, List.length_append]
    exact Nat.le_add_right _ _
  rw [Fits, read, ← hcs, Utf8.decode_encodeChars, Utf8.encode, String.toList_ofList]
  exact Nat.le_trans hlength (hcs ▸ hcontent.length_le)

/-- A text that came back once comes back unchanged, whether or not the first one fitted. -/
theorem resent_resent (width : Nat) (text : String) : resent width (resent width text) = resent width text := by
  rw [← String.toList_inj, toList_resent, beforeZero_eq (readable_resent width text).1, toList_resent,
    Utf8.cut_of_prefix_cut (Text.trimEnd_prefix _), Text.trimEnd_trimEnd]

/-- A field is always filled to its width, and what comes back from it settles at once, whatever text was written:
a character that the field cuts may come back as a mark that takes more bytes than there were, and that the field
would cut in turn, but it comes back as the same mark. A text that fits, holds no zero character and does not end in
a blank comes back as it is. -/
theorem resent_settles (width : Nat) (text : String) :
    (write width text).length = width ∧ resent width (resent width text) = resent width text ∧
      (Fits width text → Char.ofNat 0 ∉ text.toList →
        (∀ c, text.toList.getLast? = some c → Text.isBlank c = false) → resent width text = text) := by
  refine ⟨length_write width text, resent_resent width text, fun hfits hzero hend => ?_⟩
  exact resent_of_fits ⟨hzero, Text.trimEnd_of_getLast? hend⟩ hfits

/-- A name of four characters and six bytes fits a field of six bytes, and a field of four bytes cuts its last
character. -/
theorem resent_settles_cut :
    Fits 6 "L\u00E9\u00EEs" ∧ resent 6 "L\u00E9\u00EEs" = "L\u00E9\u00EEs" ∧
      resent 4 "L\u00E9\u00EEs" = "L\u00E9\uFFFD" ∧ resent 4 "L\u00E9\uFFFD" = "L\u00E9\uFFFD" := by
  have hfits : Fits 6 "L\u00E9\u00EEs" := by decide
  have hcut : resent 4 "L\u00E9\u00EEs" = "L\u00E9\uFFFD" := by decide
  have hend : ∀ c, "L\u00E9\u00EEs".toList.getLast? = some c → Text.isBlank c = false := by
    intro c hlast
    obtain rfl : 's' = c := Option.some.inj hlast
    rfl
  refine ⟨hfits, (resent_settles 6 _).2.2 hfits (by decide) hend, hcut, ?_⟩
  rw [← hcut]
  exact (resent_settles 4 _).2.1

/-! ## Texts that may be missing -/

/-- What is read where a text may be missing can be held by a field, missing or not. -/
theorem readable_textUpTo (width : Nat) (bs : List UInt8) :
    Readable ((if bs = [] then none else some (read (bs.take width))).getD "") := by
  by_cases hempty : bs = []
  · rw [if_pos hempty]
    exact readable_empty
  · rw [if_neg hempty]
    exact readable_read _

theorem some_resent_getD {width : Nat} {bs : List UInt8} (hthere : bs ≠ [])
    (hfits : Fits width ((if bs = [] then none else some (read (bs.take width))).getD "")) :
    some (resent width ((if bs = [] then none else some (read (bs.take width))).getD "")) =
      if bs = [] then none else some (read (bs.take width)) := by
  rw [resent_of_fits (readable_textUpTo width bs) hfits, if_neg hthere]
  rfl

/-! ## All texts of a message -/

/-- Whether every text can be held by a field as it is. -/
def AllReadable (texts : List (Nat × String)) : Prop := ∀ t ∈ texts, Readable t.2

def AllFit (texts : List (Nat × String)) : Prop := ∀ t ∈ texts, Fits t.1 t.2

end TextField
end RailLayout
