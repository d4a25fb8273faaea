import RailLayout.Error

/-!
A link to the Base that plays a script: bytes that wait to be read, and exchanges, each with the bytes that have
to be sent next and the bytes that come back for them. Once every exchange is done, anything may be sent.
-/

namespace RailLayout

/-- Bytes to be sent, and the answer to them. -/
structure Exchange where
  request : List UInt8
  response : List UInt8
  deriving DecidableEq

/-- A link that plays a script. -/
structure Link where
  /-- The bytes that wait to be read. -/
  inbound : List UInt8
  /-- The exchanges to come. -/
  exchanges : List Exchange
  /-- How many bytes may be read at once, if that is limited; never zero in use. -/
  chunkSize : Option Nat
  /-- Whether the connection is lost once every byte has been read. -/
  hangsUp : Bool
  connected : Bool
  deriving DecidableEq

namespace Link

/-- The most bytes that a reader has room for. -/
def room : Nat := 256

/-- Send bytes. The exchange that comes next is over, whether or not the bytes are the ones it wants. -/
def send (bytes : List UInt8) (link : Link) : Except Error Unit × Link :=
  if link.connected then
    match link.exchanges with
    | [] => (.ok (), link)
    | next :: rest =>
      let link := { link with exchanges := rest }
      if bytes = next.request then (.ok (), { link with inbound := link.inbound ++ next.response })
      else (.error (.protocol (.unexpectedSend next.request bytes)), link)
  else (.error .notConnected, link)

def stride (link : Link) : Nat :=
  match link.chunkSize with
  | some size => min room (max size 1)
  | none => room

/-- Read waiting bytes. If there are none, the wait for some times out or the connection is lost. -/
def receive (link : Link) : Except Error (List UInt8) × Link :=
  if link.connected then
    match link.inbound with
    | [] =>
      if link.hangsUp then (.error .connectionLost, { link with connected := false })
      else (.error .timeout, link)
    | bytes => (.ok (bytes.take link.stride), { link with inbound := bytes.drop link.stride })
  else (.error .notConnected, link)

theorem stride_pos (link : Link) : 0 < link.stride := by
  unfold stride room
  split <;> omega

theorem length_receive_lt {link rest : Link} {chunk : List UInt8}
    (h : link.receive = (.ok chunk, rest)) : rest.inbound.length < link.inbound.length := by
  have hpos := link.stride_pos
  unfold receive at h
  revert h
  split
  · split
    · split
      · intro h
        simp at h
      · intro h
        simp at h
    · intro h
      rename_i hne
      have : 0 < link.inbound.length := List.length_pos_iff.mpr hne
      simp only [Prod.mk.injEq] at h
      rw [← h.2, List.length_drop]
      omega
  · intro h
    simp at h

/-- Read until nothing is left: the chunks, why there are no more, and the link afterwards. -/
def receiveAll (link : Link) : List (List UInt8) × Error × Link :=
  match _h : link.receive with
  | (.ok chunk, rest) =>
    let (chunks, cause, last) := receiveAll rest
    (chunk :: chunks, cause, last)
  | (.error cause, rest) => ([], cause, rest)
  termination_by link.inbound.length
  decreasing_by exact length_receive_lt _h

/-- Close the link; nothing can be read or sent any more. -/
def close (link : Link) : Link := { link with connected := false, inbound := [] }

end Link
end RailLayout
