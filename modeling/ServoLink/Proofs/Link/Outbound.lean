import Mathlib.Algebra.GroupWithZero.Nat
import ServoLink.Proofs.Link.Ledger

/-!
# The books of the send side

A frame is taken into the queue whole or not at all, and whether it is can be told
beforehand: its payload must be within the limit, and its bytes within what is left
of the queue (`Endpoint.Admits`). A frame that is refused leaves nothing behind but
a count.

Frames also come into the queue in the course of parse passes, as answers to read
requests. Over any history, `Ledger.Stocked` ties the queue and the blocks handed
out to the frames taken: each holds a row of whole frames, and no byte is counted
that is not one of theirs (`Ledger.send_balanced`).
-/

namespace ServoLink

namespace Frame

/-- A row of frames is as long as its frames. -/
theorem length_wires (c : FrameConfig) (frames : List Frame) :
    (wires c frames).length = (frames.map wireSize).sum := by
  induction frames with
  | nil => rfl
  | cons f frames ih =>
    show (f.wire c ++ wires c frames).length = f.wireSize + (frames.map wireSize).sum
    rw [List.length_append, length_wire, ih]

/-- Rows one behind the other are a row. -/
theorem wires_flatten (c : FrameConfig) (rows : List (List Frame)) :
    wires c rows.flatten = (rows.map (wires c)).flatten := by
  induction rows with
  | nil => rfl
  | cons row rows ih =>
    rw [List.flatten_cons, wires_append, ih, List.map_cons, List.flatten_cons]

end Frame

namespace Endpoint

variable {σ : Type} {e e' : Endpoint σ} {f : Frame}

/-! ## Admission -/

/-- **A frame that the queue takes**: its payload is within the limit, and there is
room for it. -/
def Admits (e : Endpoint σ) (f : Frame) : Prop :=
  f.payload.length ≤ e.config.frame.payloadLimit ∧ f.wireSize ≤ e.queue.remaining

instance (e : Endpoint σ) (f : Frame) : Decidable (e.Admits f) :=
  inferInstanceAs (Decidable (_ ∧ _))

/-- It is taken under the next number, and counted. -/
theorem enqueueFrame_of_admits (h : e.Admits f) :
    e.enqueueFrame f = (.ok f.wireSize,
      { e with
        queue := { e.queue with
          bytes := e.queue.bytes ++ Frame.wire { f with seq := e.nextSeq } e.config.frame }
        nextSeq := e.nextSeq + 1
        counters := { e.counters with framesEnqueued := e.counters.framesEnqueued.bump 1 } }) := by
  rcases e.enqueueFrame_cases f with ⟨-, henq⟩ | ⟨err, henq⟩
  · exact henq
  · unfold enqueueFrame at henq
    have hencode : Frame.encode { f with seq := e.nextSeq } e.config.frame = .ok _ :=
      Frame.encode_of_length_le h.1
    have hqueue : ¬ (Frame.wire { f with seq := e.nextSeq } e.config.frame).length
        > e.queue.remaining := by
      rw [Frame.length_wire]
      exact Nat.not_lt.2 h.2
    rw [hencode] at henq
    unfold SendQueue.enqueue at henq
    dsimp only at henq
    rw [if_neg hqueue] at henq
    cases henq

/-- Any other frame is refused, and nothing else happens. -/
theorem enqueueFrame_of_not_admits (h : ¬ e.Admits f) :
    ∃ err, e.enqueueFrame f = (.error err,
      { e with counters :=
        { e.counters with enqueueRejected := e.counters.enqueueRejected.bump 1 } }) := by
  unfold enqueueFrame
  by_cases hfit : f.payload.length ≤ e.config.frame.payloadLimit
  · have hencode : Frame.encode { f with seq := e.nextSeq } e.config.frame = .ok _ :=
      Frame.encode_of_length_le hfit
    have hfull : (Frame.wire { f with seq := e.nextSeq } e.config.frame).length
        > e.queue.remaining := by
      rw [Frame.length_wire]
      exact Nat.not_le.1 fun hroom => h ⟨hfit, hroom⟩
    rw [hencode]
    unfold SendQueue.enqueue
    dsimp only
    rw [if_pos hfull]
    exact ⟨_, rfl⟩
  · have hencode : Frame.encode { f with seq := e.nextSeq } e.config.frame = .error _ :=
      if_pos (Nat.not_le.1 hfit)
    rw [hencode]
    exact ⟨_, rfl⟩

/-- **A frame is taken exactly if it is admitted.** -/
theorem enqueueFrame_eq_ok_iff (e : Endpoint σ) (f : Frame) :
    (∃ n, (e.enqueueFrame f).1 = .ok n) ↔ e.Admits f := by
  constructor
  · rintro ⟨n, hok⟩
    refine Decidable.byContradiction fun hno => ?_
    obtain ⟨err, henq⟩ := enqueueFrame_of_not_admits hno
    rw [henq] at hok
    cases hok
  · intro h
    exact ⟨_, congrArg Prod.fst (enqueueFrame_of_admits h)⟩

/-- Ten bytes of room are room for a header with two bytes behind it, not for one
with three. -/
example :
    let e : Endpoint Unit := .new { maxQueue := 10 }
    e.Admits { component := 1, data := 2, payload := [3, 4] } ∧
      ¬ e.Admits { component := 1, data := 2, payload := [3, 4, 5] } := by
  decide

/-- The frame taken of one that is admitted. -/
theorem taken_of_admits (h : e.Admits f) : e.taken f = [{ f with seq := e.nextSeq }] := by
  unfold taken
  rw [enqueueFrame_of_admits h]

/-- An empty queue takes a frame that it can ever take. -/
theorem admits_of_empty (hqueue : e.queue.bytes = [])
    (hfit : f.payload.length ≤ e.config.frame.payloadLimit)
    (hroom : f.wireSize ≤ e.queue.capacity) : e.Admits f := by
  refine ⟨hfit, ?_⟩
  unfold SendQueue.remaining SendQueue.size
  rw [hqueue]
  exact hroom

/-! ## The queue stays within its bounds -/

/-- **The send side is kept within bounds**: the queue has the same capacity and
does not outgrow it, and no byte is counted as handed out. -/
structure Holds (e e' : Endpoint σ) : Prop where
  config : e'.config = e.config
  capacity : e'.queue.capacity = e.queue.capacity
  bounded : e.queue.size ≤ e.queue.capacity → e'.queue.size ≤ e'.queue.capacity
  drained : e'.counters.bytesDrained = e.counters.bytesDrained

/-- Where the queue stays as it is. -/
theorem Holds.of_queue (hconfig : e'.config = e.config) (hqueue : e'.queue = e.queue)
    (hdrained : e'.counters.bytesDrained = e.counters.bytesDrained) : Holds e e' := by
  refine ⟨hconfig, ?_, ?_, hdrained⟩
  · rw [hqueue]
  · rw [hqueue]
    exact id

/-- Queueing a frame fills the queue at most. -/
theorem holds_enqueueFrame (e : Endpoint σ) (f : Frame) : Holds e (e.enqueueFrame f).2 := by
  by_cases h : e.Admits f
  · rw [enqueueFrame_of_admits h]
    refine ⟨rfl, rfl, fun hle => ?_, rfl⟩
    have hroom := h.2
    show (e.queue.bytes ++ Frame.wire _ _).length ≤ e.queue.capacity
    rw [List.length_append, Frame.length_wire]
    unfold SendQueue.remaining SendQueue.size at *
    show e.queue.bytes.length + f.wireSize ≤ _
    omega
  · obtain ⟨err, henq⟩ := enqueueFrame_of_not_admits h
    rw [henq]
    exact .of_queue rfl rfl rfl

/-- **A parse pass keeps the send side within bounds.** -/
theorem persists_holds : Persists (Holds (σ := σ)) where
  refl _ := .of_queue rfl rfl rfl
  trans h h' :=
    ⟨h'.config.trans h.config, h'.capacity.trans h.capacity, fun hle => h'.bounded (h.bounded hle),
      h'.drained.trans h.drained⟩
  onSync _ _ := .of_queue rfl rfl rfl
  onRegistry _ _ _ := .of_queue rfl rfl rfl
  onSequence _ _ := .of_queue rfl rfl rfl
  onSuccess _ := .of_queue rfl rfl rfl
  onFailure _ := .of_queue rfl rfl rfl
  onGarbage _ := .of_queue rfl rfl rfl
  onEnqueue := holds_enqueueFrame

namespace Ledger

variable {t : Ledger σ} {c : LinkConfig}

/-! ## The books -/

/-- **The send side is stocked** with the frames taken: those of each block handed
out, then those still queued. -/
structure Stocked (c : LinkConfig) (t : Ledger σ) : Prop where
  config : t.endpoint.config = c
  capacity : t.endpoint.queue.capacity = c.maxQueue
  bounded : t.endpoint.queue.size ≤ t.endpoint.queue.capacity
  drained : t.endpoint.counters.bytesDrained = Counter.bump 0 t.blocks.flatten.length
  counted : t.endpoint.counters.framesEnqueued = Counter.bump 0 t.taken.length
  fits : ∀ f ∈ t.taken, f.payload.length ≤ c.frame.payloadLimit
  rows : ∃ (sent : List (List Frame)) (waiting : List Frame), t.taken = sent.flatten ++ waiting ∧
    t.blocks = sent.map (Frame.wires c.frame) ∧
    t.endpoint.queue.bytes = Frame.wires c.frame waiting

/-- Nothing is in stock at the start. -/
theorem stocked_new (config : LinkConfig) (state : σ) :
    Stocked config ({ endpoint := .new config, state } : Ledger σ) where
  config := rfl
  capacity := rfl
  bounded := Nat.zero_le _
  drained := rfl
  counted := rfl
  fits _ hf := by cases hf
  rows := ⟨[], [], rfl, rfl, rfl⟩

/-- **Taking frames stocks them.** -/
theorem Stocked.took (h : t.Stocked c) {frames : List Frame}
    (htook : Took t.endpoint frames e') (hholds : Holds t.endpoint e') :
    Stocked c { t with endpoint := e', taken := t.taken ++ frames } := by
  obtain ⟨sent, waiting, htaken, hblocks, hqueue⟩ := h.rows
  refine ⟨htook.config.trans h.config, hholds.capacity.trans h.capacity,
    hholds.bounded h.bounded, hholds.drained.trans h.drained, ?_, fun f hf => ?_,
    sent, waiting ++ frames, ?_, hblocks, ?_⟩
  · show e'.counters.framesEnqueued = Counter.bump 0 (t.taken ++ frames).length
    rw [htook.counted, h.counted, Counter.bump_bump, List.length_append]
  · rcases List.mem_append.1 hf with hf | hf
    · exact h.fits f hf
    · rw [← h.config]
      exact htook.fits f hf
  · show t.taken ++ frames = _
    rw [htaken, List.append_assoc]
  · show e'.queue.bytes = _
    rw [htook.queued, hqueue, h.config, Frame.wires_append]

/-- Handing out the queue makes a block of the frames that wait. -/
theorem Stocked.drain (h : t.Stocked c) : (t.step .drain).Stocked c := by
  obtain ⟨sent, waiting, htaken, hblocks, hqueue⟩ := h.rows
  refine { h with
    bounded := Nat.zero_le _
    drained := ?_
    rows := ⟨sent ++ [waiting], [], ?_, ?_, rfl⟩ }
  · show t.endpoint.counters.bytesDrained.bump t.endpoint.queue.bytes.length
      = Counter.bump 0 (t.blocks ++ [t.endpoint.queue.bytes]).flatten.length
    rw [h.drained, Counter.bump_bump, List.flatten_append, List.length_append,
      List.flatten_singleton]
  · show t.taken = _
    rw [htaken, List.flatten_append, List.flatten_singleton, List.append_nil]
  · show t.blocks ++ [t.endpoint.queue.bytes] = _
    rw [hblocks, hqueue, List.map_append]
    rfl

/-- **Every call keeps the stock in order.** -/
theorem Stocked.step (h : t.Stocked c) (call : Call σ) : (t.step call).Stocked c := by
  cases call with
  | push data =>
    unfold Ledger.step
    dsimp only
    rcases t.endpoint.push_cases data with hpush | ⟨err, hpush⟩ <;> rw [hpush] <;> exact { h with }
  | parse =>
    have hparsed := h.took (t.endpoint.took_parse t.state)
      (persists_holds.parse t.endpoint t.state)
    rcases hparse : t.endpoint.parse t.state with ⟨fault | report, e', s'⟩
    · rw [hparse] at hparsed
      rw [step_parse_of_error hparse]
      exact { hparsed with }
    · rw [hparse] at hparsed
      rw [step_parse_of_ok hparse]
      exact { hparsed with }
  | register | registerWildcard | registerRemaining | onDispatch | touch => exact { h with }
  | enqueue k payload =>
    exact h.took (t.endpoint.took_enqueueFrame (.forKey k payload)) (holds_enqueueFrame _ _)
  | enqueueFrame f => exact h.took (t.endpoint.took_enqueueFrame f) (holds_enqueueFrame _ _)
  | request k =>
    exact h.took (t.endpoint.took_enqueueFrame (.forKey k [])) (holds_enqueueFrame _ _)
  | drain => exact h.drain

/-- **Every history keeps the stock in order.** -/
theorem stocked_run (config : LinkConfig) (state : σ) (calls : List (Call σ)) :
    (run config state calls).Stocked config :=
  List.foldlRecOn calls step (motive := Stocked config) (stocked_new config state)
    fun _ h call _ => h.step call

/-- The bytes handed out and those queued are the bytes of the frames taken. -/
theorem Stocked.length_eq (h : t.Stocked c) :
    t.blocks.flatten.length + t.endpoint.queue.size = (t.taken.map Frame.wireSize).sum := by
  obtain ⟨sent, waiting, htaken, hblocks, hqueue⟩ := h.rows
  unfold SendQueue.size
  rw [hblocks, hqueue, ← Frame.wires_flatten, ← List.length_append, ← Frame.wires_append,
    ← htaken, Frame.length_wires]

/-- **The books of the send side add up**, for every history of calls.

A frame is taken exactly if its payload is within the limit and its bytes are
within what is left of the queue. If it is, the queue grows by its encoding under
the next number, whose size is answered, and it is counted; if not, it is counted
as refused, and nothing else happens. The queue never holds more than it may. The
bytes handed out and those queued are as many as the frames taken have, answers to
read requests included; and the queue, like every block that was handed out, is a
row of whole frames. -/
theorem send_balanced (config : LinkConfig) (state : σ) (calls : List (Call σ)) :
    let t := run config state calls
    let e := t.endpoint
    (∀ f : Frame, (∃ n, (e.enqueueFrame f).1 = .ok n) ↔
        f.payload.length ≤ config.frame.payloadLimit ∧
          headerSize + f.payload.length ≤ config.maxQueue - e.queue.size) ∧
      (∀ f n e', e.enqueueFrame f = (.ok n, e') →
        ∃ encoded, Frame.encode { f with seq := e.nextSeq } config.frame = .ok encoded ∧
          n = encoded.length ∧
          e' = { e with
            queue := { e.queue with bytes := e.queue.bytes ++ encoded }
            nextSeq := e.nextSeq + 1
            counters :=
              { e.counters with framesEnqueued := e.counters.framesEnqueued.bump 1 } }) ∧
      (∀ f err e', e.enqueueFrame f = (.error err, e') →
        e' = { e with counters :=
          { e.counters with enqueueRejected := e.counters.enqueueRejected.bump 1 } }) ∧
      e.queue.size ≤ config.maxQueue ∧
      e.counters.framesEnqueued = Counter.bump 0 t.taken.length ∧
      (t.blocks.flatten.length ≤ Counter.limit →
        e.counters.bytesDrained.val + e.queue.size = (t.taken.map Frame.wireSize).sum) ∧
      (∀ f ∈ t.taken, f.encode config.frame = .ok (f.wire config.frame)) ∧
      ∃ (sent : List (List Frame)) (waiting : List Frame), t.taken = sent.flatten ++ waiting ∧
        t.blocks = sent.map (Frame.wires config.frame) ∧
        e.queue.bytes = Frame.wires config.frame waiting := by
  intro t e
  have h : t.Stocked config := stocked_run config state calls
  have hconfig : e.config = config := h.config
  refine ⟨fun f => ?admits, fun f n e' henq => ?taken, fun f err e' henq => ?refused, ?bounded,
    h.counted, fun hlimit => ?drained, fun f hf => Frame.encode_of_length_le (h.fits f hf), h.rows⟩
  case admits =>
    rw [e.enqueueFrame_eq_ok_iff]
    unfold Admits SendQueue.remaining
    rw [hconfig, show e.queue.capacity = config.maxQueue from h.capacity]
    rfl
  case taken =>
    have hadmits : e.Admits f := (e.enqueueFrame_eq_ok_iff f).1 ⟨n, congrArg Prod.fst henq⟩
    rw [enqueueFrame_of_admits hadmits] at henq
    cases henq
    rw [← hconfig]
    exact ⟨_, Frame.encode_of_length_le hadmits.1,
      (Frame.length_wire { f with seq := e.nextSeq } e.config.frame).symm, rfl⟩
  case refused =>
    by_cases hadmits : e.Admits f
    · rw [enqueueFrame_of_admits hadmits] at henq
      cases henq
    · obtain ⟨err', hrefused⟩ := enqueueFrame_of_not_admits hadmits
      rw [hrefused] at henq
      cases henq
      rfl
  case bounded =>
    rw [← h.capacity]
    exact h.bounded
  case drained =>
    have hdrained : e.counters.bytesDrained = Counter.bump 0 t.blocks.flatten.length := h.drained
    rw [hdrained, Counter.val_bump_zero hlimit]
    exact h.length_eq

end Ledger

end Endpoint

end ServoLink
