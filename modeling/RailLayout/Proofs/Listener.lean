import RailLayout.Listener
import RailLayout.Proofs.Frame.Found

/-!
What a listener makes of the bytes of a link. Each frame and each fault comes to one finding (`Finding.ofItem`): it is
counted, and an update among the findings is given to the store. So to listen to chunks is to dispatch the updates that
the whole stream holds, in order, and to count the rest (`Listener.forEach_ingest`); where the stream is cut makes no
difference as long as there is room for every chunk (`Listener.cuts_make_no_difference`).
-/

namespace RailLayout

namespace Reaction

variable {σ τ : Type}

@[simp] theorem none_andThen (state : σ) (next : σ → Reaction σ) : (none state).andThen next = next state := by
  simp only [andThen, none, List.nil_append, Nat.zero_add]

theorem andThen_none (r : Reaction σ) : r.andThen none = r := by
  simp only [andThen, none, List.append_nil, Nat.add_zero]

theorem andThen_assoc (r : Reaction σ) (next last : σ → Reaction σ) :
    (r.andThen next).andThen last = r.andThen fun state => (next state).andThen last := by
  simp only [andThen, List.append_assoc, Nat.add_assoc]

theorem forEach_append {α : Type} (react : α → σ → Reaction σ) (as bs : List α) (state : σ) :
    forEach react (as ++ bs) state = (forEach react as state).andThen (forEach react bs) := by
  induction as generalizing state with
  | nil => exact (none_andThen state _).symm
  | cons a rest ih =>
      rw [List.cons_append, forEach, forEach, andThen_assoc]
      exact congrArg _ (funext ih)

end Reaction

/-- What a listener makes of a frame or a fault. -/
inductive Finding where
  /-- Bytes that make no frame. -/
  | fault
  | ping
  /-- A frame without a message, or a command that cannot be read. -/
  | undecodable
  /-- A command that is passed through the Base, for a listener that reads none. -/
  | unread
  | update (u : Update)
  deriving DecidableEq

namespace Finding

def ofMessage (readCommand : Option (List UInt8 → Except Error Command)) : Message → Finding
  | .passThrough p =>
    match readCommand with
    | none => unread
    | some read =>
      match read p.bytes with
      | .ok c => update (.command c)
      | .error _ => undecodable
  | m => update (.message m)

def ofItem (readCommand : Option (List UInt8 → Except Error Command)) : Except FrameError Frame → Finding
  | .ok frame =>
    if frame.isPing then ping
    else
      match Message.ofFrame frame with
      | .ok m => ofMessage readCommand m
      | .error _ => undecodable
  | .error _ => fault

/-- What is given to the store. -/
def update? : Finding → Option Update
  | update u => some u
  | _ => none

end Finding

namespace ListenerStats

def add (s t : ListenerStats) : ListenerStats :=
  ⟨s.frames + t.frames, s.pings + t.pings, s.badFrames + t.badFrames, s.undecodable + t.undecodable,
    s.applied + t.applied⟩

/-- The counts that findings come to, with so many components that changed. -/
def tally (findings : List Finding) (applied : Nat) : ListenerStats :=
  ⟨findings.countP (· != .fault), findings.count .ping, findings.count .fault, findings.count .undecodable, applied⟩

theorem add_tally_append (s : ListenerStats) (first rest : List Finding) (m n : Nat) :
    s.add (tally (first ++ rest) (m + n)) = (s.add (tally first m)).add (tally rest n) := by
  simp only [add, tally, List.countP_append, List.count_append, Nat.add_assoc]

end ListenerStats

namespace Store

theorem dispatchAll_append (now : Nat) (us vs : List Update) (store : Store) :
    store.dispatchAll now (us ++ vs) = (store.dispatchAll now us).andThen (dispatchAll now vs) :=
  Reaction.forEach_append (dispatch now) us vs store

theorem dispatchAll_singleton (now : Nat) (u : Update) (store : Store) :
    store.dispatchAll now [u] = store.dispatch now u :=
  Reaction.andThen_none _

end Store

namespace Listener

variable {l : Listener} {now : Nat}

/-- Dispatch the updates among findings in order, and count the findings. -/
def heed (now : Nat) (findings : List Finding) (l : Listener) : Reaction Listener :=
  (l.store.dispatchAll now (findings.filterMap Finding.update?)).map fun store =>
    { l with store := store, stats := l.stats.add (.tally findings 0) }

theorem heed_append (now : Nat) (first rest : List Finding) (l : Listener) :
    heed now (first ++ rest) l = (heed now first l).andThen (heed now rest) := by
  unfold heed
  rw [List.filterMap_append, Store.dispatchAll_append]
  simp only [Reaction.map, Reaction.andThen, ← ListenerStats.add_tally_append]

/-- A message comes to one finding, once its frame is counted. -/
theorem takeMessage_eq (now : Nat) (m : Message) (l : Listener) :
    takeMessage now m (l.count fun s => { s with frames := s.frames + 1 }) =
      heed now [.ofMessage l.readCommand m] l := by
  obtain ⟨link, buffer, store, readCommand, stats⟩ := l
  have hupdate : ∀ u, dispatch now u (count (fun s => { s with frames := s.frames + 1 })
      ⟨link, buffer, store, readCommand, stats⟩) = heed now [.update u] ⟨link, buffer, store, readCommand, stats⟩ := by
    intro u
    have hsingle : [Finding.update u].filterMap Finding.update? = [u] := rfl
    rw [heed, hsingle, Store.dispatchAll_singleton]
    rfl
  cases m with
  | passThrough p =>
      cases readCommand with
      | none => rfl
      | some read =>
          simp only [takeMessage, count, Finding.ofMessage]
          cases read p.bytes with
          | ok c => exact hupdate (.command c)
          | error cause => rfl
  | _ => exact hupdate _

/-- A frame or a fault comes to one finding. -/
theorem takeItem_eq (now : Nat) (item : Except FrameError Frame) (l : Listener) :
    takeItem now item l = heed now [.ofItem l.readCommand item] l := by
  cases item with
  | error cause => rfl
  | ok frame =>
      unfold takeItem takeFrame Finding.ofItem
      dsimp only
      cases frame.isPing with
      | true => rfl
      | false =>
          simp only [Bool.false_eq_true, if_false]
          cases Message.ofFrame frame with
          | error cause => rfl
          | ok m => exact takeMessage_eq now m l

theorem forEach_takeItem (now : Nat) (items : List (Except FrameError Frame)) (l : Listener) :
    Reaction.forEach (takeItem now) items l = heed now (items.map (.ofItem l.readCommand)) l := by
  induction items generalizing l with
  | nil => rfl
  | cons item rest ih =>
      show (takeItem now item l).andThen _ =
        heed now ([.ofItem l.readCommand item] ++ rest.map (.ofItem l.readCommand)) l
      rw [heed_append, takeItem_eq, Reaction.andThen, Reaction.andThen, ih]
      rfl

/-! ## Chunks -/

/-- What listening to chunks does with the buffer: each chunk is appended, and everything is taken out that has come in
whole. -/
def bufferCalls (chunks : List (List UInt8)) : List FrameBuffer.BufferCall :=
  chunks.flatMap fun chunk => [.extend chunk, .drain]

theorem received_bufferCalls (chunks : List (List UInt8)) :
    FrameBuffer.received (bufferCalls chunks) = chunks.flatten := by
  induction chunks with
  | nil => rfl
  | cons chunk rest ih =>
      rw [bufferCalls, List.flatMap_cons, FrameBuffer.received, List.flatMap_append, List.flatten_cons]
      exact congrArg₂ _ (List.append_nil chunk) ih

/-- A listener after so many frames and faults came out of its buffer: the updates among them are dispatched, and all
of them are counted. -/
def hear (now : Nat) (out : List (Except FrameError Frame) × FrameBuffer) (l : Listener) : Reaction Listener :=
  let findings := out.1.map (Finding.ofItem l.readCommand)
  let dispatched := l.store.dispatchAll now (findings.filterMap Finding.update?)
  dispatched.map fun store =>
    { l with buffer := out.2, store := store, stats := l.stats.add (.tally findings dispatched.changed) }

theorem ingest_eq (now : Nat) (chunk : List UInt8) (l : Listener) :
    ingest now chunk l = hear now (l.buffer.extend chunk).drain l := by
  unfold ingest
  dsimp only
  rw [forEach_takeItem]
  rfl

theorem hear_append (now : Nat) (first rest : List (Except FrameError Frame)) (between last : FrameBuffer)
    (l : Listener) :
    (hear now (first, between) l).andThen (hear now (rest, last)) = hear now (first ++ rest, last) l := by
  unfold hear
  simp only [List.map_append, List.filterMap_append, Store.dispatchAll_append, Reaction.map, Reaction.andThen,
    ListenerStats.add_tally_append]

/-- Listening to chunks gives the store the updates that come out of the buffer, and counts what comes out. -/
theorem forEach_ingest (now : Nat) (chunks : List (List UInt8)) (l : Listener) :
    Reaction.forEach (ingest now) chunks l = hear now (l.buffer.run (bufferCalls chunks)) l := by
  induction chunks generalizing l with
  | nil => rfl
  | cons chunk rest ih =>
      show (ingest now chunk l).andThen _ = _
      rw [ingest_eq, Reaction.andThen, ih]
      exact hear_append now (l.buffer.extend chunk).drain.1 _ (l.buffer.extend chunk).drain.2 _ l

/-! ## Streams -/

/-- Whether nothing waits that has come in whole. -/
def Idle (buffer : FrameBuffer) : Prop := FrameBuffer.takeItems buffer.bytes = ([], buffer.bytes)

theorem idle_drain (buffer : FrameBuffer) : Idle buffer.drain.2 := by
  have hagain := FrameBuffer.takeItems_append buffer.bytes []
  rw [List.append_nil, List.append_nil] at hagain
  obtain ⟨hitems, hrest⟩ := Prod.ext_iff.mp hagain
  exact Prod.ext (List.append_right_eq_self.mp hitems.symm) hrest.symm

theorem idle_run {buffer : FrameBuffer} (h : Idle buffer) (chunks : List (List UInt8)) :
    Idle (buffer.run (bufferCalls chunks)).2 := by
  induction chunks generalizing buffer with
  | nil => exact h
  | cons chunk rest ih => exact ih (idle_drain (buffer.extend chunk))

/-- A listener after chunks, each of them at its time. -/
def listen (l : Listener) (chunks : List (Nat × List UInt8)) : Listener :=
  chunks.foldl (fun l chunk => (l.ingest chunk.1 chunk.2).state) l

theorem idle_listen (h : Idle l.buffer) (chunks : List (Nat × List UInt8)) : Idle (l.listen chunks).buffer := by
  induction chunks generalizing l with
  | nil => exact h
  | cons chunk rest ih =>
      have hnext : Idle (l.ingest chunk.1 chunk.2).state.buffer := by
        rw [ingest_eq]
        exact idle_drain (l.buffer.extend chunk.2)
      exact ih hnext

/-- What there is to tell of listening: the store, the counts and the bytes that wait afterwards, how many components
changed, and what observers were told. -/
structure Account where
  store : Store
  stats : ListenerStats
  pending : List UInt8
  changed : Nat
  events : List StoreEvent

namespace Account

def ofReaction (r : Reaction Listener) : Account := ⟨r.state.store, r.state.stats, r.state.pending, r.changed, r.events⟩

/-- What comes of a stream frame by frame. The frames and faults that scans find in it from left to right are counted,
each as what it is; the updates that they hold are dispatched, one after the other; and what is left waits, without the
noise before a start marker. -/
def ofStream (now : Nat) (bytes : List UInt8) (l : Listener) : Account :=
  let found := Scan.findAll bytes
  let findings := found.1.map (Finding.ofItem l.readCommand)
  let dispatched := l.store.dispatchAll now (findings.filterMap Finding.update?)
  ⟨dispatched.state, l.stats.add (.tally findings dispatched.changed), found.2.dropWhile isNoise, dispatched.changed,
    dispatched.events⟩

theorem ofReaction_hear {out : List (Except FrameError Frame) × FrameBuffer} {bytes : List UInt8}
    (h : FrameBuffer.takeItems bytes = (out.1, out.2.bytes)) : ofReaction (hear now out l) = ofStream now bytes l := by
  rw [FrameBuffer.takeItems_eq_findAll, Prod.mk.injEq] at h
  obtain ⟨hitems, hrest⟩ := h
  unfold ofStream
  dsimp only
  rw [hitems, hrest]
  rfl

end Account

/-- Take a listener that has heard anything before, with or without a codec, and a stream that is cut into chunks in any
way that leaves room for each of them. Listening to the chunks one by one, all at one time, comes to the same as
dispatching what the stream holds frame by frame; and to the same as listening to the whole stream at once, if there is
room for it, be it the listener's own limit or a larger one. -/
theorem cuts_make_no_difference (link : Link) (limit : Nat) (store : Store)
    (readCommand : Option (List UInt8 → Except Error Command)) (earlier : List (Nat × List UInt8))
    (hl : (start link limit store readCommand).listen earlier = l) (now : Nat) {chunks : List (List UInt8)}
    (hroom : l.buffer.fits (bufferCalls chunks)) :
    let listened := Reaction.forEach (ingest now) chunks l
    Account.ofReaction listened = .ofStream now (l.pending ++ chunks.flatten) l ∧
      ∀ large, l.pending.length + chunks.flatten.length ≤ large →
        Account.ofReaction (ingest now chunks.flatten { l with buffer.limit := large }) = .ofReaction listened := by
  intro listened
  have hempty : Idle (.empty limit) := FrameBuffer.takeItems_of_none rfl
  have hidle : Idle l.buffer := hl ▸ idle_listen hempty earlier
  have hchunks : FrameBuffer.takeItems (l.pending ++ chunks.flatten) =
      ((l.buffer.run (bufferCalls chunks)).1, (l.buffer.run (bufferCalls chunks)).2.bytes) := by
    have hrun := FrameBuffer.takeItems_run hroom
    rw [received_bufferCalls, idle_run hidle, List.append_nil] at hrun
    exact hrun
  have hlistened : Account.ofReaction listened = .ofStream now (l.pending ++ chunks.flatten) l :=
    (congrArg Account.ofReaction (forEach_ingest now chunks l)).trans (Account.ofReaction_hear hchunks)
  refine ⟨hlistened, fun large hlarge => ?_⟩
  rw [hlistened, ingest_eq, FrameBuffer.extend_eq hlarge]
  exact Account.ofReaction_hear rfl

/-- A stream goes on inside a ping and ends inside a frame; it holds noise, a bad checksum, a report of a relay, a
command and one that cannot be read. It is cut so that no more than twelve bytes wait at any time, and it is longer than
that. -/
theorem cuts_make_no_difference_midway :
    let out : Command := ⟨.switch .out, 3, none, .switch⟩
    let read (bytes : List UInt8) : Except Error Command :=
      if bytes = [0xFE, 0x00, 0x00] then .ok out else .error (.protocol (.badTmccId ""))
    let link : Link := ⟨[], [], none, false, true⟩
    let l := (start link 12 (.empty ⟨.stock, .standard⟩) (some read)).listen [(0, [0xD1, 0x29])]
    let chunks : List (List UInt8) :=
      [[0xD7, 0xDF, 0x42, 0xD1, 0x3E], [0x06, 0x10, 0x01, 0x00, 0xAA, 0xDF], [0xD1, 0x3E, 0x07, 0x10, 0x01],
        [0x00, 0xAA, 0xDF, 0xD1, 0x27], [0xFE, 0x00, 0x00, 0xDB, 0xDF],
        [0xD1, 0x27, 0xFE, 0x00, 0x01, 0xDA, 0xDF, 0xD1]]
    let listened := Reaction.forEach (ingest 5) chunks l
    l.pending = [0xD1, 0x29] ∧ listened.state.stats = ⟨4, 1, 1, 1, 2⟩ ∧ listened.state.pending = [0xD1] ∧
      Account.ofReaction listened = .ofStream 5 (l.pending ++ chunks.flatten) l ∧
        Account.ofReaction (ingest 5 chunks.flatten { l with buffer.limit := 64 }) = .ofReaction listened := by
  intro out read link l chunks listened
  have hroom : l.buffer.fits (bufferCalls chunks) := by
    refine ⟨?_, trivial, ?_, trivial, ?_, trivial, ?_, trivial, ?_, trivial, ?_, trivial, trivial⟩ <;>
      exact show (_ : Nat) ≤ _ by decide +kernel
  obtain ⟨hstream, hwhole⟩ := cuts_make_no_difference link 12 _ (some read) [(0, [0xD1, 0x29])] rfl 5 hroom
  exact ⟨by decide +kernel, by decide +kernel, by decide +kernel, hstream, hwhole 64 (by decide +kernel)⟩

end Listener
end RailLayout
