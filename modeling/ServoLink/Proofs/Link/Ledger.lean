import ServoLink.Proofs.Link.Persistence
import ServoLink.Proofs.Link.Taken

/-!
# The history of an endpoint

A `Ledger` is a history of everything that can be done to an endpoint, in any
order: bytes are pushed and parsed, frames are queued and drained, handlers and
taps are set, and what the handlers act on changes from outside. It keeps its own
record of what went in and out, apart from the counters of the endpoint: the bytes
taken in, the reports made, the frames taken into the queue, the blocks handed
out.

No counter ever falls (`Ledger.counters_step`). What the counters amount to is the
matter of the books that are kept on each side of the endpoint.
-/

namespace ServoLink

/-! ## Counters only rise -/

/-- No counter has fallen. -/
structure Counters.Rise (n n' : Counters) : Prop where
  success : n.success.val ≤ n'.success.val
  transportErrors : n.transportErrors.val ≤ n'.transportErrors.val
  decodeErrors : n.decodeErrors.val ≤ n'.decodeErrors.val
  sequenceGaps : n.sequenceGaps.val ≤ n'.sequenceGaps.val
  bytesReceived : n.bytesReceived.val ≤ n'.bytesReceived.val
  bytesDrained : n.bytesDrained.val ≤ n'.bytesDrained.val
  framesEnqueued : n.framesEnqueued.val ≤ n'.framesEnqueued.val
  enqueueRejected : n.enqueueRejected.val ≤ n'.enqueueRejected.val
  receiveOverflow : n.receiveOverflow.val ≤ n'.receiveOverflow.val

namespace Counters.Rise

theorem refl (n : Counters) : n.Rise n := by
  constructor <;> exact Nat.le_refl _

theorem trans {n n' n'' : Counters} (h : n.Rise n') (h' : n'.Rise n'') : n.Rise n'' where
  success := Nat.le_trans h.success h'.success
  transportErrors := Nat.le_trans h.transportErrors h'.transportErrors
  decodeErrors := Nat.le_trans h.decodeErrors h'.decodeErrors
  sequenceGaps := Nat.le_trans h.sequenceGaps h'.sequenceGaps
  bytesReceived := Nat.le_trans h.bytesReceived h'.bytesReceived
  bytesDrained := Nat.le_trans h.bytesDrained h'.bytesDrained
  framesEnqueued := Nat.le_trans h.framesEnqueued h'.framesEnqueued
  enqueueRejected := Nat.le_trans h.enqueueRejected h'.enqueueRejected
  receiveOverflow := Nat.le_trans h.receiveOverflow h'.receiveOverflow

end Counters.Rise

namespace Endpoint

variable {σ : Type}

/-- **What a push can do**: take the bytes and count them, or count that it was
refused. -/
theorem push_cases (e : Endpoint σ) (data : Bytes) :
    e.push data = (.ok (), { e with
        sync := { e.sync with buffer := e.sync.buffer ++ data } }.count fun n =>
          { n with bytesReceived := n.bytesReceived.bump data.length }) ∨
      ∃ err, e.push data = (.error err,
        e.count fun n => { n with receiveOverflow := n.receiveOverflow.bump 1 }) := by
  unfold push Synchronizer.push
  by_cases hbig : data.length > e.sync.room
  · rw [if_pos hbig]
    exact .inr ⟨_, rfl⟩
  · rw [if_neg hbig]
    exact .inl rfl

theorem rise_push (e : Endpoint σ) (data : Bytes) : e.counters.Rise (e.push data).2.counters := by
  unfold push
  split
  · exact { Counters.Rise.refl _ with bytesReceived := Counter.val_le_val_bump _ _ }
  · exact { Counters.Rise.refl _ with receiveOverflow := Counter.val_le_val_bump _ _ }

theorem rise_enqueueFrame (e : Endpoint σ) (f : Frame) :
    e.counters.Rise (e.enqueueFrame f).2.counters := by
  rcases e.enqueueFrame_cases f with ⟨-, henq⟩ | ⟨err, henq⟩
  · rw [henq]
    exact { Counters.Rise.refl _ with framesEnqueued := Counter.val_le_val_bump _ _ }
  · rw [henq]
    exact { Counters.Rise.refl _ with enqueueRejected := Counter.val_le_val_bump _ _ }

/-- **No counter falls in a parse pass.** -/
theorem persists_rise : Persists fun e e' : Endpoint σ => e.counters.Rise e'.counters where
  refl e := .refl e.counters
  trans := .trans
  onSync e _ := .refl e.counters
  onRegistry e _ _ := .refl e.counters
  onSequence e _ :=
    { Counters.Rise.refl e.counters with sequenceGaps := Counter.val_le_val_bump _ _ }
  onSuccess e := { Counters.Rise.refl e.counters with success := Counter.val_le_val_bump _ _ }
  onFailure e :=
    { Counters.Rise.refl e.counters with decodeErrors := Counter.val_le_val_bump _ _ }
  onGarbage e :=
    { Counters.Rise.refl e.counters with transportErrors := Counter.val_le_val_bump _ _ }
  onEnqueue := rise_enqueueFrame

/-! ## Histories -/

/-- What is asked of an endpoint. -/
inductive Ledger.Call (σ : Type) where
  /-- Received bytes are pushed. -/
  | push (data : Bytes)
  /-- The buffer is parsed. -/
  | parse
  /-- Give a key a handler. -/
  | register (k : Key) (h : Handler σ)
  /-- Take any frame of a key. -/
  | registerWildcard (k : Key)
  /-- Take any frame of the keys that have nothing registered. -/
  | registerRemaining
  /-- Observe every dispatch from now on. -/
  | onDispatch (tap : Tap σ)
  /-- Queue a payload for a key. -/
  | enqueue (k : Key) (payload : Bytes)
  /-- Queue a frame with its flags. -/
  | enqueueFrame (f : Frame)
  /-- Ask the peer for the value of a key. -/
  | request (k : Key)
  /-- Hand out every byte queued. -/
  | drain
  /-- What the handlers act on is changed from outside. -/
  | touch (change : σ → σ)

/-- The bytes that a push takes in: all or none. -/
def accepts (e : Endpoint σ) (data : Bytes) : Bytes :=
  match (e.push data).1 with
  | .ok () => data
  | .error _ => []

/-- A history of calls, with a record of what went in and out. -/
structure Ledger (σ : Type) where
  /-- The endpoint as it is now. -/
  endpoint : Endpoint σ
  /-- What its handlers act on. -/
  state : σ
  /-- The bytes of all pushes that were taken, in order. -/
  accepted : Bytes := []
  /-- The reports of the parse passes that came to rest. -/
  reports : List ParseReport := []
  /-- The faults at which the other passes ended. -/
  faults : List Fault := []
  /-- What the synchronizer reported to the passes that came to rest. -/
  events : List SyncEvent := []
  /-- The frames among these that a tap should have been told of, each with its
  number among all frames. -/
  observed : List (Frame × Nat) := []
  /-- The frames taken into the queue, answers included, as they were numbered. -/
  taken : List Frame := []
  /-- The bytes of each drain. -/
  blocks : List Bytes := []

namespace Ledger

/-- The frames found by the passes that came to rest, in stream order. -/
def extracted (t : Ledger σ) : List Frame :=
  Synchronizer.frames t.events

/-- The frames of the next pass that a tap should be told of, if there is one. -/
def observes (t : Ledger σ) : List (Frame × Nat) :=
  if t.endpoint.tap.isSome then
    (Synchronizer.frames t.endpoint.sync.pollAll.1).zipIdx (t.extracted.length + 1)
  else []

/-- Book the answer of the next pass. -/
def book (t : Ledger σ) : Except Fault ParseReport → Ledger σ
  | .ok report =>
    { t with
      reports := t.reports ++ [report]
      events := t.events ++ t.endpoint.sync.pollAll.1
      observed := t.observed ++ t.observes }
  | .error fault => { t with faults := t.faults ++ [fault] }

/-- One call. -/
def step (t : Ledger σ) : Call σ → Ledger σ
  | .push data =>
    { t with
      endpoint := (t.endpoint.push data).2
      accepted := t.accepted ++ t.endpoint.accepts data }
  | .parse =>
    { t.book (t.endpoint.parse t.state).1 with
      endpoint := (t.endpoint.parse t.state).2.1
      state := (t.endpoint.parse t.state).2.2
      taken := t.taken ++ t.endpoint.parseAnswers {} t.state }
  | .register k h => { t with endpoint := t.endpoint.register k h }
  | .registerWildcard k => { t with endpoint := t.endpoint.registerWildcard k }
  | .registerRemaining => { t with endpoint := t.endpoint.registerRemaining.2 }
  | .onDispatch tap => { t with endpoint := t.endpoint.onDispatch tap }
  | .enqueue k payload =>
    { t with
      endpoint := (t.endpoint.enqueue k payload).2
      taken := t.taken ++ t.endpoint.taken (.forKey k payload) }
  | .enqueueFrame f =>
    { t with
      endpoint := (t.endpoint.enqueueFrame f).2
      taken := t.taken ++ t.endpoint.taken f }
  | .request k =>
    { t with
      endpoint := (t.endpoint.request k).2
      taken := t.taken ++ t.endpoint.taken (.forKey k []) }
  | .drain =>
    { t with
      endpoint := t.endpoint.drain.2
      blocks := t.blocks ++ [t.endpoint.drain.1] }
  | .touch change => { t with state := change t.state }

/-- A history of calls on a fresh endpoint. -/
def run (config : LinkConfig) (state : σ) (calls : List (Call σ)) : Ledger σ :=
  calls.foldl step { endpoint := .new config, state }

section

variable {t : Ledger σ} {e' : Endpoint σ} {s' : σ}

theorem step_parse_of_ok {report : ParseReport}
    (h : t.endpoint.parse t.state = (.ok report, e', s')) :
    t.step .parse = { t with
      endpoint := e'
      state := s'
      reports := t.reports ++ [report]
      events := t.events ++ t.endpoint.sync.pollAll.1
      observed := t.observed ++ t.observes
      taken := t.taken ++ t.endpoint.parseAnswers {} t.state } := by
  unfold step
  dsimp only
  rw [h]
  rfl

theorem step_parse_of_error {fault : Fault}
    (h : t.endpoint.parse t.state = (.error fault, e', s')) :
    t.step .parse = { t with
      endpoint := e'
      state := s'
      faults := t.faults ++ [fault]
      taken := t.taken ++ t.endpoint.parseAnswers {} t.state } := by
  unfold step
  dsimp only
  rw [h]
  rfl

end

/-- Faults are not forgotten. -/
theorem faults_of_step {t : Ledger σ} {call : Call σ} (hquiet : (t.step call).faults = []) :
    t.faults = [] := by
  cases call with
  | parse =>
    rcases hparse : t.endpoint.parse t.state with ⟨fault | report, e', s'⟩
    · rw [step_parse_of_error hparse] at hquiet
      exact (List.append_eq_nil_iff.1 hquiet).1
    · rwa [step_parse_of_ok hparse] at hquiet
  | _ => exact hquiet

/-- A parse pass that raises no fault ends with a report. -/
theorem exists_report {t : Ledger σ} (hquiet : (t.step .parse).faults = []) :
    ∃ report e' s', t.endpoint.parse t.state = (.ok report, e', s') := by
  rcases hparse : t.endpoint.parse t.state with ⟨fault | report, e', s'⟩
  · rw [step_parse_of_error hparse] at hquiet
    cases (List.append_eq_nil_iff.1 hquiet).2
  · exact ⟨report, e', s', rfl⟩

/-- Bytes taken in are not forgotten. -/
theorem accepted_prefix_step (t : Ledger σ) (call : Call σ) :
    t.accepted <+: (t.step call).accepted := by
  cases call with
  | push data => exact List.prefix_append _ _
  | parse =>
    rcases hparse : t.endpoint.parse t.state with ⟨fault | report, e', s'⟩
    · exact ⟨[], by rw [step_parse_of_error hparse, List.append_nil]⟩
    · exact ⟨[], by rw [step_parse_of_ok hparse, List.append_nil]⟩
  | _ => exact List.prefix_refl _

/-- **No counter ever falls.** -/
theorem counters_step (t : Ledger σ) (call : Call σ) :
    t.endpoint.counters.Rise (t.step call).endpoint.counters := by
  cases call with
  | push data => exact rise_push _ _
  | parse => exact persists_rise.parse t.endpoint t.state
  | register | registerWildcard | registerRemaining | onDispatch | touch => exact .refl _
  | enqueue | enqueueFrame | request => exact rise_enqueueFrame _ _
  | drain => exact { Counters.Rise.refl _ with bytesDrained := Counter.val_le_val_bump _ _ }

end Ledger

end Endpoint

end ServoLink
