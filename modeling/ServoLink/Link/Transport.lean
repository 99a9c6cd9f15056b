import ServoLink.Link.Endpoint
import ServoLink.Link.Stream

/-!
# A link on a stream

A transport moves the bytes of a link over a stream. Bytes drained from the
send queue wait as pending until the stream takes them, and nothing more is
drained before; so no byte is lost, sent twice or sent out of order, however
the stream behaves. A call that was interrupted is made again; a stream that
has nothing to give or take is left for the next time.
-/

namespace ServoLink

/-- A link end, the state of its handlers, and the stream it runs on. -/
structure Transport (σ : Type) where
  /-- The link end. -/
  endpoint : Endpoint σ
  /-- The state of the handlers. -/
  state : σ
  /-- The stream. -/
  stream : Stream := {}
  /-- The bytes drained from the link and not yet taken by the stream. -/
  pending : Bytes := []

/-- Why a transport stopped. -/
inductive Halt where
  /-- The link or the stream failed. -/
  | link (e : LinkError)
  /-- A handler raised a fault. -/
  | fault (f : Fault)
  deriving DecidableEq

/-- What one poll did. -/
structure PollReport where
  /-- Bytes read. -/
  read : Nat
  /-- Bytes written. -/
  written : Nat
  /-- What the parse pass did. -/
  parse : ParseReport
  deriving DecidableEq

namespace Transport

variable {σ : Type}

/-- The most bytes read at a time. -/
def readChunk : Nat := 512

/-- Read once, calling again while interrupted. -/
def readStream (room : Nat) (s : Stream) : Except IoFailure Bytes × Stream :=
  match _h : s.reads with
  | .failure f :: rest =>
    if f.kind.isRetry then readStream room { s with reads := rest } else s.read room
  | _ => s.read room
termination_by s.reads.length
decreasing_by simp [_h]

/-- Read what is there into the receive buffer, as far as it has room. -/
def receive (t : Transport σ) : Except LinkError Nat × Transport σ :=
  let room := min t.endpoint.sync.room readChunk
  if room = 0 then (.ok 0, t)
  else match readStream room t.stream with
    | (.ok [], stream) => (.error .closed, { t with stream })
    | (.ok data, stream) =>
      match t.endpoint.push data with
      | (.ok (), endpoint) => (.ok data.length, { t with endpoint, stream })
      | (.error err, endpoint) => (.error err, { t with endpoint, stream })
    | (.error f, stream) =>
      if f.kind.isIdle then (.ok 0, { t with stream }) else (.error (.io f), { t with stream })

/-- Write pending bytes until all are taken or the stream takes no more. The
answer is the number taken. -/
def writePending (pending : Bytes) (written : Nat) (s : Stream) :
    Except LinkError Nat × Bytes × Stream :=
  if pending.isEmpty then (.ok written, pending, s)
  else match _h : s.writes with
    | [] => (.ok (written + pending.length), [], (s.write pending).2)
    | .accept limit :: _ =>
      if limit = 0 then (.error .closed, pending, (s.write pending).2)
      else
        writePending (pending.drop limit) (written + min limit pending.length)
          (s.write pending).2
    | .failure f :: rest =>
      let s := { s with writes := rest }
      if f.kind.isRetry then writePending pending written s
      else if f.kind.isIdle then (.ok written, pending, s)
      else (.error (.io f), pending, s)
termination_by s.writes.length
decreasing_by all_goals simp [Stream.write, _h]

/-- Flush the stream, calling again while interrupted. -/
def flushStream (s : Stream) : Except LinkError Unit × Stream :=
  match _h : s.flushes with
  | some f :: rest =>
    let s := { s with flushes := rest }
    if f.kind.isRetry then flushStream s else (.error (.io f), s)
  | _ => (.ok (), s.flush.2)
termination_by s.flushes.length
decreasing_by simp [_h]

/-- Drain the send queue, once nothing is pending from before. -/
def refill (t : Transport σ) : Transport σ :=
  if t.pending.isEmpty then
    let (pending, endpoint) := t.endpoint.drain
    { t with pending, endpoint }
  else t

/-- Write what is pending or queued, and flush the stream if it took any. -/
def transmit (t : Transport σ) : Except LinkError Nat × Transport σ :=
  let t := t.refill
  match writePending t.pending 0 t.stream with
  | (.error err, pending, stream) => (.error err, { t with pending, stream })
  | (.ok written, pending, stream) =>
    if written = 0 then (.ok 0, { t with pending, stream })
    else match flushStream stream with
      | (.ok (), stream) => (.ok written, { t with pending, stream })
      | (.error err, stream) => (.error err, { t with pending, stream })

/-- Run a parse pass. -/
def parse (t : Transport σ) : Except Fault ParseReport × Transport σ :=
  let (answer, endpoint, state) := t.endpoint.parse t.state
  (answer, { t with endpoint, state })

/-- Write, read, parse, and write again so that answers go out at once. -/
def poll (t : Transport σ) : Except Halt PollReport × Transport σ :=
  match t.transmit with
  | (.error err, t) => (.error (.link err), t)
  | (.ok before, t) =>
    match t.receive with
    | (.error err, t) => (.error (.link err), t)
    | (.ok read, t) =>
      match t.parse with
      | (.error fault, t) => (.error (.fault fault), t)
      | (.ok parse, t) =>
        match t.transmit with
        | (.error err, t) => (.error (.link err), t)
        | (.ok after, t) => (.ok { read, written := before + after, parse }, t)

end Transport

end ServoLink
