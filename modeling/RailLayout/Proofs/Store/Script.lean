import RailLayout.Proofs.Command.Codec
import RailLayout.Proofs.Frame.RoundTrip
import RailLayout.Proofs.Message.NormalForm
import RailLayout.Store.Script

/-!
Reading a script back. The bytes of updates, split into frames, are the same updates, except that messages come
back as they are read from their own frames (`Update.decodeAll_encodeAll`). Commands need a codec that inverts;
messages need to be of the kind that is sent: one that is read without fail and passes no command.
-/

namespace RailLayout

section Bind

variable {σ α β : Type} {x : ExceptT Error (StateM σ) α} {f : α → ExceptT Error (StateM σ) β}
  {memory memory' : σ}

theorem run_bind {r : Except Error α} (hx : x.run memory = (r, memory')) :
    (x >>= f).run memory = (ExceptT.bindCont f r).run memory' := by
  simp only [ExceptT.run] at hx
  simp only [bind, ExceptT.bind, ExceptT.mk, ExceptT.run, StateT.bind, StateT.run, hx]

theorem ok_of_run_bind {b : β} (h : (x >>= f).run memory = (.ok b, memory')) :
    ∃ a mid, x.run memory = (.ok a, mid) ∧ (f a).run mid = (.ok b, memory') := by
  rcases hx : x.run memory with ⟨r, mid⟩
  rw [run_bind hx] at h
  cases r with
  | error e => cases h
  | ok a => exact ⟨a, mid, rfl, h⟩

theorem error_of_run_bind {e : Error} (h : (x >>= f).run memory = (.error e, memory')) :
    x.run memory = (.error e, memory') ∨
      ∃ a mid, x.run memory = (.ok a, mid) ∧ (f a).run mid = (.error e, memory') := by
  rcases hx : x.run memory with ⟨r, mid⟩
  rw [run_bind hx] at h
  cases r with
  | error other =>
      cases h
      exact .inl rfl
  | ok a => exact .inr ⟨a, mid, rfl, h⟩

end Bind

theorem Frame.take_encode (frame : Frame) (rest : List UInt8) :
    Frame.take (frame.encode ++ rest) = .ok (frame, rest) := by
  have hscan : Scan.scan ([] ++ frame.encode ++ rest) = .frame frame (0 + frame.encode.length) :=
    Scan.scan_encode List.not_mem_nil frame rest
  rw [List.nil_append, Nat.zero_add] at hscan
  simp only [take, hscan, List.drop_left]

theorem Message.take_encode {m n : Message} (h : ofFrame m.toFrame = .ok n) (rest : List UInt8) :
    Message.take (m.encode ++ rest) = .ok (n, rest) := by
  rw [take, encode, Frame.take_encode]
  exact bind_of_ok h

namespace PassThrough

theorem ofFrame_codeFor (address : UInt16) {word : List UInt8} (h : word ≠ []) :
    Message.ofFrame (toFrame ⟨codeFor address, word⟩) = .ok (.passThrough ⟨codeFor address, word⟩) := by
  cases word with
  | nil => exact absurd rfl h
  | cons b rest =>
      unfold codeFor
      split
      · rfl
      · rfl

end PassThrough

namespace Update

variable {σ : Type} {codec : Codec σ}

/-- The update that is read from the bytes of an update. -/
def resent : Update → Update
  | command c => command c
  | message m => message m.resent

/-- Whether an update can stand in a script: a message has to be read from its own frame without fail, and as no
command. -/
def Sendable : Update → Prop
  | command _ => True
  | message m => Message.ofFrame m.toFrame = .ok m.resent ∧ ∀ p, m.resent ≠ .passThrough p

/-! ## What can be sent -/

theorem sendable_record (m : RecordMessage) : (message (.record m)).Sendable :=
  ⟨Message.ofFrame_toFrame_record m, fun _ hp => by cases hp⟩

theorem sendable_block {m : BlockReport} (h : m.Plain) : (message (.block m)).Sendable :=
  ⟨bind_of_ok (BlockReport.ofFrame_toFrame h), fun _ hp => by cases hp⟩

theorem sendable_fourDigit {m : FourDigitMessage} (hfamily : m.code.family = .fourDigit) (h : m.lookup.Spoken) :
    (message (.fourDigit m)).Sendable := by
  have hcode : (Message.fourDigit m).toFrame.code = m.code := rfl
  have hlayout : m.code.isFourDigit = true := by
    rw [FrameCode.isFourDigit, hfamily]
    rfl
  refine ⟨?_, fun _ hp => by cases hp⟩
  rw [Message.ofFrame, hcode, hfamily]
  exact bind_of_ok (FourDigitMessage.ofFrame_toFrame_of_spoken hlayout h)

/-- A board's message that is no query and no refusal, with an action that its byte spells, can be sent if its body
can. -/
theorem sendable_board {board : Board} {code : FrameCode} {action : BoardAction board}
    (hcode : code.family = .board board ∧ code.isBoard = true ∧ code.isGet = false)
    (haction : BoardAction.ofBits? board (action.bits &&& 0x7F) = some action)
    (hclear : (action.bits &&& BoardMessage.refusalBit != 0) = false) {body : BoardBody board}
    (hbody : Read.Gives (BoardBody.read board code action) (body.encode code) body) (hsame : body.resent = body)
    (address : UInt8) : (message (.board board ⟨code, address, action, none, body⟩)).Sendable := by
  obtain ⟨hfamily, hlayout, hget⟩ := hcode
  generalize hm : (⟨code, address, action, none, body⟩ : BoardMessage board) = m
  have hframe : (Message.board board m).toFrame.code = code := by rw [← hm]; rfl
  have hread : BoardMessage.ofFrame board m.toFrame = .ok m := by
    rw [← hm]
    exact BoardMessage.ofFrame_toFrame_of_gives ⟨hfamily, hlayout⟩ hget rfl haction hclear hbody
  have hresent : (Message.board board m).resent = .board board m := by
    rw [Message.resent, BoardMessage.resent, ← hm, hsame]
  refine ⟨?_, fun _ hp => by cases hp⟩
  rw [hresent, Message.ofFrame, hframe, hfamily]
  exact (if_pos hlayout).trans (bind_of_ok hread)

/-! ## What is written -/

theorem encode_command_eq_ok {c : Command} {memory memory' : σ} {bytes : List UInt8}
    (h : ((command c).encode codec).run memory = (.ok bytes, memory')) :
    ∃ word, codec.encode c memory = (.ok word, memory') ∧
      bytes = (PassThrough.toFrame ⟨PassThrough.codeFor c.address, word⟩).encode := by
  obtain ⟨p, mid, hp, h⟩ := ok_of_run_bind h
  obtain ⟨word, last, hword, hlast⟩ := ok_of_run_bind hp
  cases hlast
  cases h
  exact ⟨word, hword, rfl⟩

theorem encode_message (m : Message) (memory : σ) :
    ((message m).encode codec).run memory = (.ok m.encode, memory) := rfl

theorem encodeAll_cons_eq_ok {u : Update} {rest : List Update} {memory memory' : σ} {bytes : List UInt8}
    (h : (encodeAll codec (u :: rest)).run memory = (.ok bytes, memory')) :
    ∃ first mid more, (u.encode codec).run memory = (.ok first, mid) ∧
      (encodeAll codec rest).run mid = (.ok more, memory') ∧ bytes = first ++ more := by
  obtain ⟨first, mid, hfirst, h⟩ := ok_of_run_bind h
  obtain ⟨more, last, hmore, h⟩ := ok_of_run_bind h
  cases h
  exact ⟨first, mid, more, hfirst, hmore, rfl⟩

theorem encodeAll_cons_congr {m n : Message} (h : m.encode = n.encode) (rest : List Update) :
    encodeAll codec (message m :: rest) = encodeAll codec (message n :: rest) := by
  rw [encodeAll, encodeAll, encode, encode, h]

theorem encode_eq_error {u : Update} {memory memory' : σ} {e : Error}
    (h : (u.encode codec).run memory = (.error e, memory')) :
    ∃ c, u = .command c ∧ codec.encode c memory = (.error e, memory') := by
  cases u with
  | message m => cases h
  | command c =>
      rcases error_of_run_bind h with hp | ⟨p, mid, -, hdone⟩
      · rcases error_of_run_bind hp with hrefused | ⟨word, mid, -, hdone⟩
        · exact ⟨c, rfl, hrefused⟩
        · cases hdone
      · cases hdone

/-- Updates have bytes unless the codec refuses a command among them. -/
theorem encodeAll_eq_error {updates : List Update} {memory memory' : σ} {e : Error}
    (h : (encodeAll codec updates).run memory = (.error e, memory')) :
    ∃ c, .command c ∈ updates ∧ ∃ m, (codec.encode c m).1 = .error e := by
  induction updates generalizing memory with
  | nil => cases h
  | cons u rest ih =>
      rcases error_of_run_bind h with hfirst | ⟨first, mid, -, hlater⟩
      · obtain ⟨c, rfl, hrefused⟩ := encode_eq_error hfirst
        exact ⟨c, List.mem_cons_self, memory, congrArg Prod.fst hrefused⟩
      · rcases error_of_run_bind hlater with hrest | ⟨more, last, -, hdone⟩
        · obtain ⟨c, hc, hrefused⟩ := ih hrest
          exact ⟨c, List.mem_cons_of_mem u hc, hrefused⟩
        · cases hdone

theorem decode_of_encodeAll (hcodec : codec.Inverts) {updates : List Update} {memory memory' : σ}
    {word bytes : List UInt8} {c : Command} (hword : codec.decode memory word = .ok c)
    (h : (encodeAll codec updates).run memory = (.ok bytes, memory')) : codec.decode memory' word = .ok c := by
  induction updates generalizing memory bytes with
  | nil =>
      cases h
      exact hword
  | cons u rest ih =>
      obtain ⟨first, mid, more, hfirst, hmore, -⟩ := encodeAll_cons_eq_ok h
      refine ih ?_ hmore
      cases u with
      | command d =>
          obtain ⟨other, hother, -⟩ := encode_command_eq_ok hfirst
          have hlater := hcodec.decode_later hword d
          rw [hother] at hlater
          exact hlater
      | message m =>
          rw [encode_message] at hfirst
          cases hfirst
          exact hword

/-! ## What is written again -/

theorem encode_command_of_eq_ok {c : Command} {memory memory' : σ} {word : List UInt8}
    (h : codec.encode c memory = (.ok word, memory')) :
    ((command c).encode codec).run memory =
      (.ok (PassThrough.toFrame ⟨PassThrough.codeFor c.address, word⟩).encode, memory') := by
  have hspelled : (PassThrough.ofCommand codec c).run memory = (.ok ⟨PassThrough.codeFor c.address, word⟩, memory') :=
    run_bind (x := ExceptT.mk (codec.encode c)) h
  exact run_bind hspelled

theorem encode_later (hrepeats : codec.Repeats) {u : Update} {memory : σ} {bytes : List UInt8}
    (h : (u.encode codec).run memory = (.ok bytes, memory)) (d : Command) :
    (u.encode codec).run (codec.encode d memory).2 = (.ok bytes, (codec.encode d memory).2) := by
  cases u with
  | message m =>
      rw [encode_message] at h ⊢
      cases h
      rfl
  | command c =>
      obtain ⟨word, hword, rfl⟩ := encode_command_eq_ok h
      exact encode_command_of_eq_ok (hrepeats.encode_later hword d)

theorem encode_again (hrepeats : codec.Repeats) {u : Update} {memory memory' : σ} {bytes : List UInt8}
    (h : (u.encode codec).run memory = (.ok bytes, memory')) : (u.encode codec).run memory' = (.ok bytes, memory') := by
  cases u with
  | message m =>
      rw [encode_message] at h
      cases h
      exact encode_message m memory
  | command c =>
      obtain ⟨word, hword, rfl⟩ := encode_command_eq_ok h
      exact encode_command_of_eq_ok (hrepeats.encode_again hword)

theorem encode_of_encodeAll (hrepeats : codec.Repeats) {u : Update} {updates : List Update} {memory memory' : σ}
    {first bytes : List UInt8} (hfirst : (u.encode codec).run memory = (.ok first, memory))
    (h : (encodeAll codec updates).run memory = (.ok bytes, memory')) :
    (u.encode codec).run memory' = (.ok first, memory') := by
  induction updates generalizing memory bytes with
  | nil =>
      cases h
      exact hfirst
  | cons v rest ih =>
      obtain ⟨_, mid, more, hv, hmore, -⟩ := encodeAll_cons_eq_ok h
      refine ih ?_ hmore
      cases v with
      | message m =>
          rw [encode_message] at hv
          cases hv
          exact hfirst
      | command d =>
          obtain ⟨word, hword, -⟩ := encode_command_eq_ok hv
          have hlater := encode_later hrepeats hfirst d
          rw [hword] at hlater
          exact hlater

/-- The bytes of updates that were written are the same when they are written again. -/
theorem encodeAll_again (hrepeats : codec.Repeats) {updates : List Update} {memory memory' : σ} {bytes : List UInt8}
    (h : (encodeAll codec updates).run memory = (.ok bytes, memory')) :
    (encodeAll codec updates).run memory' = (.ok bytes, memory') := by
  induction updates generalizing memory bytes with
  | nil =>
      cases h
      rfl
  | cons u rest ih =>
      obtain ⟨first, mid, more, hfirst, hmore, rfl⟩ := encodeAll_cons_eq_ok h
      have hagain := encode_of_encodeAll hrepeats (encode_again hrepeats hfirst) hmore
      rw [encodeAll, run_bind hagain]
      exact run_bind (ih hmore)

/-! ## What is written together -/

/-- Whether two lists of updates have the same bytes, whatever the codec. -/
def SameBytes (us vs : List Update) : Prop :=
  ∀ (σ : Type) (codec : Codec σ), encodeAll codec us = encodeAll codec vs

theorem encodeAll_append (codec : Codec σ) (us vs : List Update) :
    encodeAll codec (us ++ vs) = do return (← encodeAll codec us) ++ (← encodeAll codec vs) := by
  induction us with
  | nil => simp only [List.nil_append, encodeAll, pure_bind, bind_pure]
  | cons u rest ih => simp only [List.cons_append, encodeAll, ih, bind_assoc, pure_bind, List.append_assoc]

theorem sameBytes_append {us vs us' vs' : List Update} (h : SameBytes us us') (h' : SameBytes vs vs') :
    SameBytes (us ++ vs) (us' ++ vs') := by
  intro σ codec
  rw [encodeAll_append, encodeAll_append, h, h']

theorem sameBytes_flatMap {α : Type} {f g : α → List Update} {as : List α} (h : ∀ a ∈ as, SameBytes (f a) (g a)) :
    SameBytes (as.flatMap f) (as.flatMap g) := by
  induction as with
  | nil => exact fun σ codec => rfl
  | cons a rest ih =>
      rw [List.flatMap_cons, List.flatMap_cons]
      exact sameBytes_append (h a List.mem_cons_self) (ih fun b hb => h b (List.mem_cons_of_mem a hb))

/-! ## What is read -/

theorem ofMessage_of_ne {m : Message} (h : ∀ p, m ≠ .passThrough p) (memory : σ) :
    ofMessage codec memory m = .ok (.message m) := by
  cases m with
  | passThrough p => exact absurd rfl (h p)
  | _ => rfl

theorem decodeAll_nil (memory : σ) : decodeAll codec memory [] = .ok [] := by
  rw [decodeAll]

theorem decodeAll_of_take {memory : σ} {bytes rest : List UInt8} {m : Message} {u : Update}
    {updates : List Update} (htake : Message.take bytes = .ok (m, rest))
    (hfirst : ofMessage codec memory m = .ok u) (hrest : decodeAll codec memory rest = .ok updates) :
    decodeAll codec memory bytes = .ok (u :: updates) := by
  cases bytes with
  | nil => cases htake
  | cons b more =>
      rw [decodeAll]
      split
      · rename_i herror
        rw [htake] at herror
        cases herror
      · rename_i other tail hfound
        rw [htake] at hfound
        cases hfound
        rw [hfirst, hrest]
        rfl

/-- The bytes of a script are read as the updates in it. -/
theorem decodeAll_encodeAll (hcodec : codec.Inverts) {updates : List Update}
    (hsend : ∀ u ∈ updates, u.Sendable) {memory memory' : σ} {bytes : List UInt8}
    (h : (encodeAll codec updates).run memory = (.ok bytes, memory')) :
    decodeAll codec memory' bytes = .ok (updates.map resent) := by
  -- Everything is read with the memory at the end, so what a codec has spelled must outlast the rest of the script.
  induction updates generalizing memory bytes with
  | nil =>
      cases h
      exact decodeAll_nil memory'
  | cons u rest ih =>
      obtain ⟨first, mid, more, hfirst, hmore, rfl⟩ := encodeAll_cons_eq_ok h
      have hrest := ih (fun v hv => hsend v (List.mem_cons_of_mem u hv)) hmore
      cases u with
      | command c =>
          obtain ⟨word, hword, rfl⟩ := encode_command_eq_ok hfirst
          refine decodeAll_of_take (Message.take_encode (m := .passThrough ⟨PassThrough.codeFor c.address, word⟩)
            (PassThrough.ofFrame_codeFor c.address (hcodec.ne_nil hword)) more) ?_ hrest
          exact bind_of_ok (decode_of_encodeAll hcodec (hcodec.decode_encode hword) hmore)
      | message m =>
          obtain ⟨hread, hplain⟩ := hsend (message m) List.mem_cons_self
          rw [encode_message] at hfirst
          cases hfirst
          exact decodeAll_of_take (Message.take_encode hread more) (ofMessage_of_ne hplain memory') hrest

end Update
end RailLayout
