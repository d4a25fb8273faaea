import Mathlib.Data.List.Forall2
import Mathlib.Data.Set.Defs
import RailLayout.Proofs.Frame.Resync

/-!
Frames that a buffer gives out although they were not sent. A buffer that overflows drops bytes and goes on at a start
marker, which can be a stuffed one in the middle of a frame. It then reads what that frame ends in, and gives it out if
it is a frame (`Frame.Conceals`). More than this cannot happen: at each step the frames given out come from the first
ones of those sent, and the bytes at hand from the others (`FrameBuffer.ComesFrom`). So a buffer can give out a frame
that was not sent exactly if a frame that is sent conceals one (`FrameBuffer.invents_iff`).
-/

namespace RailLayout

/-! ## The end of a frame -/

namespace Token

@[simp] theorem byte_ofByte (b : UInt8) : (ofByte b).byte = b := by
  unfold ofByte
  split <;> rfl

theorem contents_map_ofByte (bytes : List UInt8) : contents (bytes.map ofByte) = bytes := by
  simp only [contents, List.map_map, Function.comp_def, byte_ofByte, List.map_id']

/-- A start marker among the bytes of tokens is a stuffed one. -/
theorem exists_stuffed {tokens : List Token} {front back : List UInt8}
    (h : wire tokens = front ++ startMarker :: back) :
    ∃ before after, tokens = before ++ stuffed startMarker :: after ∧ back = wire after := by
  induction tokens generalizing front with
  | nil => cases front <;> cases h
  | cons token more ih =>
      rw [wire_cons] at h
      cases token with
      | plain b hplain =>
          cases front with
          | nil =>
              obtain ⟨rfl, -⟩ := List.cons.inj h
              cases hplain
          | cons c front =>
              obtain ⟨before, after, rfl, hback⟩ := ih (List.cons.inj h).2
              exact ⟨plain b hplain :: before, after, rfl, hback⟩
      | stuffed b =>
          rcases front with _ | ⟨c, _ | ⟨d, front⟩⟩
          · cases h
          · obtain ⟨rfl, hback⟩ := List.cons.inj (List.cons.inj h).2
            exact ⟨[], more, rfl, hback.symm⟩
          · obtain ⟨before, after, rfl, hback⟩ := ih (List.cons.inj (List.cons.inj h).2).2
            exact ⟨stuffed b :: before, after, rfl, hback⟩

end Token

namespace Frame

open Token

/-- Whether what is sent for a frame ends in what is sent for another one. -/
def Conceals (sent hidden : Frame) : Prop := hidden ≠ sent ∧ hidden.encode <:+ sent.encode

theorem closing_congr {a b : List UInt8} (h : byteSum a = byteSum b) : closing a = closing b := by
  unfold closing
  rw [h]

/-- What follows a stuffed start marker in a frame is all that is sent for the frame that it reads as: the checksum at
the end is the same, since it brings both to zero. -/
theorem encode_of_stuffed {sent hidden : Frame} {before after : List Token}
    (h : sent.tokens = before ++ stuffed startMarker :: after)
    (hframe : Enclosed.toFrame ⟨contents after, wire after, .closed⟩ = .ok hidden) :
    hidden.encode = startMarker :: (wire after ++ [endMarker]) := by
  obtain ⟨hsum, check, hcontents⟩ := Enclosed.toFrame_eq_ok_iff.mp hframe
  rcases List.eq_nil_or_concat' after with rfl | ⟨inner, last, rfl⟩
  · cases hcontents
  rw [tokens, ← List.cons_append, ← List.append_assoc] at h
  obtain ⟨hinner, hlast⟩ := List.append_inj' h rfl
  obtain rfl : Token.closing sent.body = last := (List.cons.inj hlast).1
  obtain ⟨front, rest, -, -, hrest⟩ := List.map_eq_append_iff.mp hinner
  obtain ⟨marker, bytes, -, -, rfl⟩ := List.map_eq_cons_iff.mp hrest
  have hbytes : bytes = hidden.code.byte :: hidden.payload := by
    rw [contents, List.map_append, ← contents, contents_map_ofByte, ← List.cons_append] at hcontents
    exact (List.append_inj' hcontents rfl).1
  have hwire : wire (bytes.map ofByte ++ [Token.closing sent.body]) = hidden.body ++ closing sent.body := by
    rw [wire_append, wire_map_ofByte, hbytes, ← body, wire, List.flatMap_singleton, bytes_closing]
  have hsame : byteSum hidden.body = byteSum sent.body := by
    rw [hwire, byteSum_append] at hsum
    exact (UInt8.add_left_inj _).mp (hsum.trans (byteSum_closing sent.body).symm)
  rw [hwire, encode_eq, closing_congr hsame]

end Frame

namespace FrameBuffer

open Token

/-! ## Items of a stream of frames -/

theorem takeItem_suffix (bytes : List UInt8) : (takeItem bytes).2 <:+ bytes := by
  rw [takeItem_eq]
  split
  · exact List.drop_suffix _ _
  · exact List.dropWhile_suffix _

/-- From the first start marker in what is left of a frame to its end marker there is one item, and a frame there is
the one that was sent or what this one ends in. -/
theorem takeItem_of_tail {sent : Frame} {tail : List UInt8} (htail : tail <:+ sent.encode) (hstart : startMarker ∈ tail)
    (more : List UInt8) : ∃ item, takeItem (tail ++ more) = (some item, more) ∧
      ∀ given, item = .ok given → given.encode <:+ sent.encode := by
  obtain ⟨noise, back, rfl, hnoise⟩ := List.eq_append_cons_of_mem hstart
  obtain ⟨front, hfront⟩ := htail
  have hsent := hfront
  rw [sent.encode_eq_wire, ← List.append_assoc] at hsent
  cases hgone : front ++ noise with
  | nil =>
      -- The frame is all there.
      obtain ⟨rfl, rfl⟩ := List.append_eq_nil_iff.mp hgone
      have hwhole := takeItem_encode hnoise sent more
      rw [← hfront] at hwhole
      exact ⟨_, hwhole, fun given hgiven => by cases hgiven; exact List.suffix_rfl⟩
  | cons marker gone =>
      rw [hgone, List.cons_append] at hsent
      have hinner := (List.cons.inj hsent).2
      rcases List.eq_nil_or_concat' back with rfl | ⟨back, last, rfl⟩
      · cases (List.append_inj' hinner rfl).2
      rw [← List.cons_append, ← List.append_assoc] at hinner
      obtain ⟨hwire, hlast⟩ := List.append_inj' hinner rfl
      obtain rfl := (List.cons.inj hlast).1
      obtain ⟨before, after, htokens, rfl⟩ := exists_stuffed hwire.symm
      have hclosed := takeItem_closed hnoise after more
      refine ⟨_, by simpa only [List.append_assoc, List.cons_append, List.nil_append] using hclosed, ?_⟩
      intro given hgiven
      rw [Frame.encode_of_stuffed htokens hgiven]
      exact (List.suffix_append noise _).trans ⟨front, hfront⟩

/-- A frame at the front of what is left of a stream is one of those sent or what this one ends in, and the frames behind
that one are still to come. -/
theorem takeItem_of_suffix {bytes rest : List UInt8} {frames : List Frame} {given : Frame}
    (h : bytes <:+ frames.flatMap Frame.encode) (hitem : takeItem bytes = (some (.ok given), rest)) :
    ∃ lost sent more, frames = lost ++ sent :: more ∧ given.encode <:+ sent.encode ∧
      rest = more.flatMap Frame.encode := by
  induction frames generalizing bytes with
  | nil =>
      rw [List.flatMap_nil, List.suffix_nil] at h
      subst h
      cases hitem
  | cons first more ih =>
      have hlater : ∀ {bytes}, bytes <:+ more.flatMap Frame.encode → takeItem bytes = (some (.ok given), rest) →
          ∃ lost sent more', first :: more = lost ++ sent :: more' ∧ given.encode <:+ sent.encode ∧
            rest = more'.flatMap Frame.encode := by
        intro bytes h hitem
        obtain ⟨lost, sent, more', hmore, hgiven, hrest⟩ := ih h hitem
        exact ⟨first :: lost, sent, more', congrArg (first :: ·) hmore, hgiven, hrest⟩
      rw [List.flatMap_cons] at h
      rcases List.suffix_or_suffix_of_suffix h (List.suffix_append _ _) with hshort | ⟨tail, rfl⟩
      · exact hlater hshort hitem
      have htail : tail <:+ first.encode := by
        obtain ⟨front, hfront⟩ := h
        exact ⟨front, List.append_cancel_right ((List.append_assoc _ _ _).trans hfront)⟩
      by_cases hstart : startMarker ∈ tail
      · obtain ⟨item, hfirst, hgiven⟩ := takeItem_of_tail htail hstart (more.flatMap Frame.encode)
        cases hfirst.symm.trans hitem
        exact ⟨[], first, more, rfl, hgiven given rfl, rfl⟩
      · -- What is left of the first frame is noise.
        have hquiet : tail.dropWhile isNoise = [] := List.dropWhile_eq_nil_iff.mpr (Scan.isNoise_of_mem hstart)
        have hskip := takeItem_dropWhile tail (more.flatMap Frame.encode)
        rw [hquiet, List.nil_append] at hskip
        exact hlater List.suffix_rfl (hskip.trans hitem)

/-! ## Frames given out -/

/-- The frames among items. -/
def framesOf (items : List (Except FrameError Frame)) : List Frame := items.filterMap Except.toOption

/-- The frames that calls give out. -/
def framesGiven (buffer : FrameBuffer) (calls : List BufferCall) : List Frame := framesOf (buffer.run calls).1

/-- Whether items come from the first ones of some frames, with bytes left that belong to the others and to what comes
in later: each frame among the items comes from a frame of its own, in order, as that or as what it ends in. -/
def ComesFrom (frames : List Frame) (later : List UInt8) (items : List (Except FrameError Frame)) (rest : List UInt8) :
    Prop :=
  ∃ done more, frames = done ++ more ∧
    List.SublistForall₂ (fun given sent => given.encode <:+ sent.encode) (framesOf items) done ∧
      rest ++ later <:+ more.flatMap Frame.encode

section ComesFrom

variable {frames : List Frame} {bytes later rest : List UInt8}

theorem comesFrom_nil (h : rest ++ later <:+ frames.flatMap Frame.encode) : ComesFrom frames later [] rest :=
  ⟨[], frames, rfl, .nil, h⟩

theorem comesFrom_append {first second : List (Except FrameError Frame)} {middle last : List UInt8}
    (h : ComesFrom frames later first middle)
    (hnext : ∀ more, middle ++ later <:+ more.flatMap Frame.encode → ComesFrom more last second rest) :
    ComesFrom frames last (first ++ second) rest := by
  obtain ⟨done, more, rfl, hfirst, hmiddle⟩ := h
  obtain ⟨done', more', rfl, hsecond, hrest⟩ := hnext more hmiddle
  refine ⟨done ++ done', more', (List.append_assoc _ _ _).symm, ?_, hrest⟩
  rw [framesOf, List.filterMap_append]
  rw [List.sublistForall₂_iff] at hfirst hsecond ⊢
  obtain ⟨taken, htaken, hsub⟩ := hfirst
  obtain ⟨taken', htaken', hsub'⟩ := hsecond
  exact ⟨taken ++ taken', List.rel_append htaken htaken', hsub.append hsub'⟩

theorem comesFrom_takeItem (h : bytes ++ later <:+ frames.flatMap Frame.encode) :
    ComesFrom frames later (takeItem bytes).1.toList (takeItem bytes).2 := by
  obtain ⟨gone, hgone⟩ := takeItem_suffix bytes
  have hrest : (takeItem bytes).2 ++ later <:+ frames.flatMap Frame.encode := by
    refine List.IsSuffix.trans ⟨gone, ?_⟩ h
    rw [← List.append_assoc, hgone]
  rcases hitem : takeItem bytes with ⟨_ | _ | given, rest⟩ <;> rw [hitem] at hrest
  · exact comesFrom_nil hrest
  · exact ⟨[], frames, rfl, .nil, hrest⟩
  · obtain ⟨lost, sent, more, rfl, hgiven, hmore⟩ := takeItem_of_suffix h (takeItem_append_of_some hitem later)
    refine ⟨lost ++ [sent], more, List.append_cons lost sent more, ?_, hmore ▸ List.suffix_rfl⟩
    rw [List.sublistForall₂_iff]
    exact ⟨[sent], .cons hgiven .nil, List.sublist_append_right lost [sent]⟩

theorem comesFrom_takeItems (h : bytes ++ later <:+ frames.flatMap Frame.encode) :
    ComesFrom frames later (takeItems bytes).1 (takeItems bytes).2 := by
  induction bytes using takeItems.induct generalizing frames with
  | case1 bytes rest hitem =>
      have hfirst := comesFrom_takeItem h
      rw [hitem] at hfirst
      rw [takeItems_of_none hitem]
      exact hfirst
  | case2 bytes item rest hitem ih =>
      have hfirst := comesFrom_takeItem h
      rw [hitem] at hfirst
      rw [takeItems_of_some hitem]
      exact comesFrom_append hfirst fun _ => ih

theorem clip_suffix (limit : Nat) (bytes : List UInt8) : clip limit bytes <:+ bytes := by
  have hstart : ∀ {tail}, fromLastStart? bytes = some tail → tail <:+ bytes := by
    intro tail htail
    fun_induction fromLastStart? bytes with
    | case1 => cases htail
    | case2 b rest found hfound ih =>
        cases htail
        exact (ih hfound).trans (List.suffix_cons b rest)
    | case3 =>
        cases htail
        exact List.suffix_rfl
    | case4 => cases htail
  unfold clip
  split
  · exact List.suffix_rfl
  · split
    · rename_i tail htail
      split
      · exact hstart htail
      · exact List.nil_suffix
    · exact List.nil_suffix

theorem comesFrom_call {buffer : FrameBuffer} {c : BufferCall}
    (h : buffer.bytes ++ (c.chunk ++ later) <:+ frames.flatMap Frame.encode) :
    ComesFrom frames later (buffer.call c).1 (buffer.call c).2.bytes := by
  cases c with
  | extend chunk =>
      refine comesFrom_nil (List.IsSuffix.trans ?_ h)
      obtain ⟨gone, hgone⟩ := clip_suffix buffer.limit (buffer.bytes ++ chunk)
      refine ⟨gone, ?_⟩
      rw [BufferCall.chunk, ← List.append_assoc, ← List.append_assoc, ← hgone]
      rfl
  | next => exact comesFrom_takeItem h
  | drain => exact comesFrom_takeItems h

theorem comesFrom_run {buffer : FrameBuffer} {calls : List BufferCall}
    (h : buffer.bytes ++ (received calls ++ later) <:+ frames.flatMap Frame.encode) :
    ComesFrom frames later (buffer.run calls).1 (buffer.run calls).2.bytes := by
  induction calls generalizing buffer frames with
  | nil => exact comesFrom_nil h
  | cons c rest ih =>
      rw [show received (c :: rest) = c.chunk ++ received rest from List.flatMap_cons, List.append_assoc] at h
      exact comesFrom_append (comesFrom_call h) fun _ => ih

end ComesFrom

section Deliveries

variable {limit : Nat} {calls : List BufferCall} {frames : List Frame}

/-- Whatever the limit, the frames given out come from different ones of the frames that were sent, in order. -/
theorem sublistForall₂_framesGiven (h : received calls <+: frames.flatMap Frame.encode) :
    List.SublistForall₂ (fun given sent => given.encode <:+ sent.encode) ((empty limit).framesGiven calls) frames := by
  obtain ⟨later, hlater⟩ := h
  have hall : (empty limit).bytes ++ (received calls ++ later) <:+ frames.flatMap Frame.encode :=
    hlater ▸ List.suffix_rfl
  obtain ⟨done, more, rfl, hgiven, -⟩ := comesFrom_run hall
  obtain ⟨taken, htaken, hsub⟩ := List.sublistForall₂_iff.mp hgiven
  exact List.sublistForall₂_iff.mpr ⟨taken, htaken, hsub.trans (List.sublist_append_left done more)⟩

/-- Without an overflow the frames given out are the first ones that were sent. -/
theorem framesGiven_prefix (hfits : (empty limit).fits calls) (h : received calls <+: frames.flatMap Frame.encode) :
    (empty limit).framesGiven calls <+: frames := by
  obtain ⟨later, hlater⟩ := h
  have hrun : ((empty limit).run calls).1 <+: (takeItems (received calls)).1 :=
    ⟨_, (congrArg Prod.fst (takeItems_run hfits)).symm⟩
  have hitems : ((empty limit).run calls).1 <+: frames.map .ok := by
    have hall := congrArg Prod.fst (takeItems_flatMap_encode frames)
    rw [← hlater, takeItems_append] at hall
    exact hrun.trans ⟨_, hall⟩
  have hframes : framesOf (frames.map .ok) = frames := by
    rw [framesOf, List.filterMap_map]
    exact List.filterMap_some
  rw [← hframes]
  exact hitems.filterMap Except.toOption

end Deliveries

/-! ## Frames that were not sent -/

theorem fromLastStart?_concat (bytes : List UInt8) :
    fromLastStart? (bytes ++ [startMarker]) = some [startMarker] := by
  induction bytes with
  | nil => rfl
  | cons b rest ih => rw [List.cons_append, fromLastStart?, ih]

/-- Of two copies of a frame that conceals another one, in a buffer with room for the concealed one only, what is given
out is the concealed one: the buffer overflows at its start marker, which it keeps, and then the rest of it comes in. -/
theorem exists_invented {sent hidden : Frame} (h : hidden.encode <:+ sent.encode) : ∃ limit calls,
    received calls = [sent, sent].flatMap Frame.encode ∧ (empty limit).framesGiven calls = [hidden] := by
  obtain ⟨before, hbefore⟩ := h
  let tail := wire hidden.tokens ++ [endMarker]
  have htail : hidden.encode = startMarker :: tail := hidden.encode_eq_wire
  let chunk := sent.encode ++ before ++ [startMarker]
  let limit := hidden.encode.length
  have hlong : ¬chunk.length ≤ limit := by
    simp only [chunk, limit, List.length_append, ← hbefore, List.length_singleton]
    omega
  have hlimit : max limit 1 = limit := max_eq_left (by simp only [limit, htail, List.length_cons]; omega)
  have hcut : clip limit chunk = [startMarker] := by
    rw [clip, if_neg hlong, fromLastStart?_concat]
    exact if_pos (by simp only [limit, htail, List.length_cons, List.length_nil]; omega)
  have hwhole : clip limit ([startMarker] ++ tail) = hidden.encode := by
    rw [List.singleton_append, ← htail]
    exact if_pos Nat.le.refl
  have htaken : takeItems hidden.encode = ([.ok hidden], []) := by
    have hone := takeItems_flatMap_encode [hidden]
    rwa [List.flatMap_singleton] at hone
  refine ⟨limit, [.extend chunk, .extend tail, .drain], ?_, ?_⟩
  · simp only [received, List.flatMap_cons, List.flatMap_nil, BufferCall.chunk, chunk, List.append_assoc,
      List.singleton_append, List.append_nil]
    rw [← htail, hbefore]
  · simp only [framesGiven, run, call, extend, drain, empty, hlimit, List.nil_append, hcut, hwhole, htaken]
    rfl

/-- Frames that come from frames which conceal nothing are those. -/
theorem eq_of_plain {vocabulary : Set Frame} (hplain : ∀ sent ∈ vocabulary, ∀ hidden, ¬sent.Conceals hidden)
    {given sent : List Frame} (hsent : ∀ frame ∈ sent, frame ∈ vocabulary)
    (h : List.Forall₂ (fun given sent => given.encode <:+ sent.encode) given sent) : given = sent := by
  induction h with
  | nil => rfl
  | cons hfirst _ ih =>
      obtain ⟨hhead, hrest⟩ := List.forall_mem_cons.mp hsent
      exact congrArg₂ _ (not_not.mp fun hne => hplain _ hhead _ ⟨hne, hfirst⟩) (ih hrest)

/-- While frames come in, in any chunks and under any limit, those given out come from different ones of those that were
sent, in order, and each is the one that it comes from or what this one ends in. Without an overflow they are the first
ones of those sent. So frames of a vocabulary can come out that were not sent, with some limit and some chunks, exactly
if a frame of the vocabulary conceals another frame. -/
theorem invents_iff (vocabulary : Set Frame) :
    (∀ (frames : List Frame) (limit : Nat) (calls : List BufferCall), received calls <+: frames.flatMap Frame.encode →
      List.SublistForall₂ (fun given sent => given.encode <:+ sent.encode) ((empty limit).framesGiven calls) frames ∧
        ((empty limit).fits calls → (empty limit).framesGiven calls <+: frames)) ∧
      ((∃ (frames : List Frame) (limit : Nat) (calls : List BufferCall), (∀ frame ∈ frames, frame ∈ vocabulary) ∧
        received calls <+: frames.flatMap Frame.encode ∧ ¬((empty limit).framesGiven calls).Sublist frames) ↔
          ∃ sent ∈ vocabulary, ∃ hidden, sent.Conceals hidden) := by
  refine ⟨fun frames limit calls h => ⟨sublistForall₂_framesGiven h, fun hfits => framesGiven_prefix hfits h⟩, ?_, ?_⟩
  · rintro ⟨frames, limit, calls, hframes, hreceived, hinvented⟩
    by_contra hplain
    have hgiven := @sublistForall₂_framesGiven limit calls frames hreceived
    obtain ⟨taken, htaken, hsub⟩ := List.sublistForall₂_iff.mp hgiven
    refine hinvented (eq_of_plain ?_ (fun frame hframe => hframes frame (hsub.subset hframe)) htaken ▸ hsub)
    exact fun sent hsent hidden hconceals => hplain ⟨sent, hsent, hidden, hconceals⟩
  · rintro ⟨sent, hsent, hidden, hne, hsuffix⟩
    obtain ⟨limit, calls, hreceived, hgiven⟩ := exists_invented hsuffix
    refine ⟨[sent, sent], limit, calls, by simpa using hsent, hreceived ▸ List.prefix_rfl, fun hsub => ?_⟩
    rw [hgiven, List.singleton_sublist] at hsub
    simp only [List.mem_cons, List.not_mem_nil, or_false, or_self] at hsub
    exact hne hsub

/-- A frame for a relay controller that ends in what is sent for a ping. -/
theorem invents_iff_ping :
    let request : Frame := ⟨.asc2Get, [0x15, 0xD1, 0x29]⟩
    request.Conceals ⟨.ping, []⟩ ∧ ∃ (frames : List Frame) (limit : Nat) (calls : List BufferCall),
      (∀ frame ∈ frames, frame ∈ ({request} : Set Frame)) ∧ received calls <+: frames.flatMap Frame.encode ∧
        ¬((empty limit).framesGiven calls).Sublist frames := by
  intro request
  have hconceals : request.Conceals ⟨.ping, []⟩ := ⟨by decide, by decide⟩
  exact ⟨hconceals, (invents_iff {request}).2.mpr ⟨request, rfl, ⟨.ping, []⟩, hconceals⟩⟩

end FrameBuffer
end RailLayout
