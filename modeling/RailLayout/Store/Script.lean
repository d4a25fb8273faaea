import RailLayout.Frame.Buffer
import RailLayout.Store.Dispatch

/-!
Bringing a fresh store to where another one is. A store is written as the frames that rebuild every component of
which something is known, the Base first; read back, frames that pass a command through the Base are commands
and all others are messages.
-/

namespace RailLayout

namespace Store

/-- The kinds of component in the order in which they are written. -/
def scriptOrder : List Scope :=
  [.base, .engine, .train, .switch, .route, .accessory, .sensorTrack, .block, .sync]

/-- The updates that bring a fresh store to this one. -/
def script (store : Store) : List Update :=
  (scriptOrder.flatMap store.ofScope).flatMap fun e => e.state.script

/-- The frames that bring a fresh store to this one. -/
def encode {σ : Type} (codec : Codec σ) (store : Store) : ExceptT Error (StateM σ) (List UInt8) :=
  Update.encodeAll codec store.script

end Store

theorem Frame.length_rest_lt {bytes rest : List UInt8} {frame : Frame}
    (h : Frame.take bytes = .ok (frame, rest)) : rest.length < bytes.length := by
  have hpos := FrameBuffer.scan_consumed_pos bytes
  unfold Frame.take at h
  revert h
  split
  · intro h
    rename_i heq
    have := hpos.1 _ _ heq
    simp only [Except.ok.injEq, Prod.mk.injEq] at h
    rw [← h.2, List.length_drop]
    omega
  · intro h
    simp at h
  · intro h
    simp at h

theorem Message.length_rest_lt {bytes rest : List UInt8} {m : Message}
    (h : Message.take bytes = .ok (m, rest)) : rest.length < bytes.length := by
  unfold Message.take at h
  revert h
  split
  · intro h
    rename_i heq
    have := Frame.length_rest_lt heq
    revert h
    cases Message.ofFrame _ with
    | error e => intro h; simp [bind, Except.bind] at h
    | ok found =>
        intro h
        simp only [bind, Except.bind, pure, Except.pure, Except.ok.injEq, Prod.mk.injEq] at h
        rw [← h.2]
        exact this
  · intro h
    simp at h

namespace Update

variable {σ : Type}

/-- The update that a message is; a command that it passes through the Base is read by a codec. -/
def ofMessage (codec : Codec σ) (memory : σ) : Message → Except Error Update
  | .passThrough m => return .command (← codec.decode memory m.bytes)
  | m => return .message m

def decodeAll (codec : Codec σ) (memory : σ) (bytes : List UInt8) : Except Error (List Update) :=
  match bytes with
  | [] => .ok []
  | first :: more =>
    match _h : Message.take (first :: more) with
    | .error e => .error e
    | .ok (m, rest) => do
      let u ← ofMessage codec memory m
      return u :: (← decodeAll codec memory rest)
  termination_by bytes.length
  decreasing_by exact Message.length_rest_lt _h

end Update
end RailLayout
