import ServoLink.Link.Config
import ServoLink.Link.Registry
import ServoLink.Link.SendQueue
import ServoLink.Receive.Synchronizer

/-!
# A link endpoint

An endpoint joins the receive synchronizer, the registry, the send queue and
the counters into one end of a link. Bytes are pushed in and parsed, frames
are queued and drained. A parse pass hands every whole frame to its handler
and goes on until the buffer yields no more; a handler's fault ends it at
once, with the frame consumed and the rest of the buffer kept.
-/

namespace ServoLink

/-- What one parse pass did. -/
structure ParseReport where
  /-- Frames found. -/
  frames : Nat := 0
  /-- Frames handled. -/
  delivered : Nat := 0
  /-- Read requests answered. -/
  replies : Nat := 0
  /-- Runs of garbage begun. -/
  transportErrors : Nat := 0
  /-- Frames that could not be delivered. -/
  decodeErrors : Nat := 0
  /-- Bytes dropped. -/
  discarded : Nat := 0
  deriving DecidableEq, Inhabited

/-- An observer of every dispatch, told of the frame, of what became of it,
and of the counters right after. -/
abbrev Tap (σ : Type) := Frame → Dispatch → Counters → σ → Option Fault × σ

/-- One end of a link. -/
structure Endpoint (σ : Type) where
  /-- The settings. -/
  config : LinkConfig
  /-- The receive side. -/
  sync : Synchronizer
  /-- The handlers. -/
  registry : Registry σ := {}
  /-- The send side. -/
  queue : SendQueue
  /-- The counters. -/
  counters : Counters := {}
  /-- The sequence number of the next frame queued. -/
  nextSeq : UInt8 := 0
  /-- The sequence number of the last frame received, if there was one. -/
  lastReceived : Option UInt8 := none
  /-- The observer of dispatches, if there is one. -/
  tap : Option (Tap σ) := none

namespace Endpoint

variable {σ : Type}

/-- A fresh endpoint. -/
def new (config : LinkConfig) : Endpoint σ where
  config := config
  sync := .new config.frame config.receiveLimit
  queue := { capacity := config.maxQueue }

/-- Change the counters. -/
def count (e : Endpoint σ) (change : Counters → Counters) : Endpoint σ :=
  { e with counters := change e.counters }

/-! ## Sending -/

/-- Queue a frame under the next sequence number, and answer its size on the
wire. A frame that is refused consumes no number. -/
def enqueueFrame (e : Endpoint σ) (f : Frame) : Except LinkError Nat × Endpoint σ :=
  let refuse (err : LinkError) : Except LinkError Nat × Endpoint σ :=
    (.error err, e.count fun n => { n with enqueueRejected := n.enqueueRejected.bump 1 })
  match Frame.encode { f with seq := e.nextSeq } e.config.frame with
  | .error err => refuse (.frame err)
  | .ok encoded =>
    match e.queue.enqueue encoded with
    | (.error err, _) => refuse err
    | (.ok (), queue) =>
      (.ok encoded.length,
        { e with queue, nextSeq := e.nextSeq + 1 }.count fun n =>
          { n with framesEnqueued := n.framesEnqueued.bump 1 })

/-- Queue a payload for a key. -/
def enqueue (e : Endpoint σ) (k : Key) (payload : Bytes) : Except LinkError Nat × Endpoint σ :=
  e.enqueueFrame (.forKey k payload)

/-- Ask the peer for the current value of a key: queue an empty frame. -/
def request (e : Endpoint σ) (k : Key) : Except LinkError Nat × Endpoint σ :=
  e.enqueue k []

/-- Hand out every byte queued. -/
def drain (e : Endpoint σ) : Bytes × Endpoint σ :=
  let (out, queue) := e.queue.drain
  (out,
    { e with queue }.count fun n => { n with bytesDrained := n.bytesDrained.bump out.length })

/-! ## Registration -/

/-- Give a key a handler. -/
def register (e : Endpoint σ) (k : Key) (h : Handler σ) : Endpoint σ :=
  { e with registry := e.registry.register k h }

/-- Take any frame of a key. -/
def registerWildcard (e : Endpoint σ) (k : Key) : Endpoint σ :=
  { e with registry := e.registry.registerWildcard k }

/-- Take any frame of the keys that have nothing registered, and answer their
number. -/
def registerRemaining (e : Endpoint σ) : Nat × Endpoint σ :=
  let (count, registry) := e.registry.registerRemaining
  (count, { e with registry })

/-- Observe every dispatch from now on. -/
def onDispatch (e : Endpoint σ) (tap : Tap σ) : Endpoint σ :=
  { e with tap := some tap }

/-! ## Receiving -/

/-- Take received bytes into the buffer, all or none. -/
def push (e : Endpoint σ) (data : Bytes) : Except LinkError Unit × Endpoint σ :=
  match e.sync.push data with
  | (.ok (), sync) =>
    (.ok (),
      { e with sync }.count fun n => { n with bytesReceived := n.bytesReceived.bump data.length })
  | (.error err, _) =>
    (.error err, e.count fun n => { n with receiveOverflow := n.receiveOverflow.bump 1 })

/-- Compare a sequence number with the one expected, count those skipped, and
expect the next from here. -/
def noteSequence (e : Endpoint σ) (seq : UInt8) : Endpoint σ :=
  let skipped : Nat :=
    match e.lastReceived with
    | none => 0
    | some last => (seq - (last + 1)).toNat
  { e with lastReceived := some seq }.count fun n =>
    { n with sequenceGaps := n.sequenceGaps.bump skipped }

/-- Count a frame that was handled. -/
def countSuccess (e : Endpoint σ) : Endpoint σ :=
  e.count fun n => { n with success := n.success.bump 1 }

/-- Count the outcome of a dispatch, and queue the answer to a read request.
An answer that does not fit is dropped. -/
def settle (e : Endpoint σ) (f : Frame) (report : ParseReport) :
    Dispatch → ParseReport × Endpoint σ
  | .delivered | .accepted =>
    ({ report with delivered := report.delivered + 1 }, e.countSuccess)
  | .reply payload =>
    ({ report with delivered := report.delivered + 1, replies := report.replies + 1 },
      (e.countSuccess.enqueue f.key payload).2)
  | .unregistered | .lengthMismatch .. | .rejected _ =>
    ({ report with decodeErrors := report.decodeErrors + 1 },
      e.count fun n => { n with decodeErrors := n.decodeErrors.bump 1 })

/-- Hand a frame to its handler, settle the outcome, and tell the tap. -/
def dispatch (e : Endpoint σ) (f : Frame) (report : ParseReport) (s : σ) :
    Except Fault ParseReport × Endpoint σ × σ :=
  match e.registry.dispatch f s with
  | (.error fault, _, s) => (.error fault, e, s)
  | (.ok outcome, registry, s) =>
    let (report, e) := settle { e with registry } f report outcome
    match e.tap with
    | none => (.ok report, e, s)
    | some tap =>
      match tap f outcome e.counters s with
      | (none, s) => (.ok report, e, s)
      | (some fault, s) => (.error fault, e, s)

/-- Take one report of the synchronizer. -/
def handle (e : Endpoint σ) (report : ParseReport) (s : σ) :
    SyncEvent → Except Fault ParseReport × Endpoint σ × σ
  | .discarded bytes _ newRun =>
    let report := { report with discarded := report.discarded + bytes }
    if newRun then
      (.ok { report with transportErrors := report.transportErrors + 1 },
        e.count fun n => { n with transportErrors := n.transportErrors.bump 1 }, s)
    else (.ok report, e, s)
  | .frame f =>
    (e.noteSequence f.seq).dispatch f { report with frames := report.frames + 1 } s

theorem sync_enqueueFrame (e : Endpoint σ) (f : Frame) : (e.enqueueFrame f).2.sync = e.sync := by
  unfold enqueueFrame
  dsimp only
  split
  · rfl
  · split <;> rfl

theorem sync_settle (e : Endpoint σ) (f : Frame) (report : ParseReport) (d : Dispatch) :
    (e.settle f report d).2.sync = e.sync := by
  cases d with
  | reply payload => exact sync_enqueueFrame _ _
  | delivered | accepted | unregistered => rfl
  | lengthMismatch expected actual => rfl
  | rejected reason => rfl

theorem sync_dispatch (e : Endpoint σ) (f : Frame) (report : ParseReport) (s : σ) :
    (e.dispatch f report s).2.1.sync = e.sync := by
  unfold dispatch
  split
  · rfl
  · dsimp only
    split
    · exact sync_settle _ _ _ _
    · split <;> exact sync_settle _ _ _ _

/-- Handling a report leaves the receive buffer alone. -/
theorem sync_handle (e : Endpoint σ) (report : ParseReport) (s : σ) (event : SyncEvent) :
    (e.handle report s event).2.1.sync = e.sync := by
  cases event with
  | frame f => exact sync_dispatch _ _ _ _
  | discarded bytes reason newRun => cases newRun <;> rfl

/-- Go on with a parse pass that has done what `report` says. -/
def parseFrom (e : Endpoint σ) (report : ParseReport) (s : σ) :
    Except Fault ParseReport × Endpoint σ × σ :=
  match _h : e.sync.poll with
  | (none, sync) => (.ok report, { e with sync }, s)
  | (some event, sync) =>
    match _h' : handle { e with sync } report s event with
    | (.error fault, e', s') => (.error fault, e', s')
    | (.ok report', e', s') => e'.parseFrom report' s'
termination_by e.sync.buffer.length
decreasing_by
  have hsync := sync_handle { e with sync } report s event
  rw [_h'] at hsync
  rw [hsync]
  exact Synchronizer.poll_shrinks _h

/-- Find and dispatch every whole frame in the receive buffer. -/
def parse (e : Endpoint σ) (s : σ) : Except Fault ParseReport × Endpoint σ × σ :=
  e.parseFrom {} s

end Endpoint

end ServoLink
