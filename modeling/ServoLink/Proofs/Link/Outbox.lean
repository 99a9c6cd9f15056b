import ServoLink.Link.Endpoint
import ServoLink.Proofs.Frame.ReadBack

/-!
# What a sending endpoint hands out

An `Outbox` is a history of sends and drains of one endpoint, with a list of the
frames it took. A frame that is refused, because its payload is too long or the
queue is full, leaves nothing behind and uses up no sequence number. So the
bytes handed out are the frames taken, numbered from zero and written one after
the other, whatever was refused in between (`Outbox.accounts_run`).
-/

namespace ServoLink

variable {σ : Type}

namespace Frame

/-- Frames under consecutive sequence numbers, modulo 256. -/
def numbered (start : Nat) (frames : List Frame) : List Frame :=
  (frames.zipIdx start).map fun p => { p.1 with seq := UInt8.ofNat p.2 }

@[simp] theorem numbered_nil (start : Nat) : numbered start [] = [] := rfl

theorem numbered_cons (start : Nat) (f : Frame) (frames : List Frame) :
    numbered start (f :: frames)
      = { f with seq := UInt8.ofNat start } :: numbered (start + 1) frames := rfl

theorem numbered_append (start : Nat) (front back : List Frame) :
    numbered start (front ++ back)
      = numbered start front ++ numbered (start + front.length) back := by
  unfold numbered
  rw [List.zipIdx_append, List.map_append]

@[simp] theorem length_numbered (start : Nat) (frames : List Frame) :
    (numbered start frames).length = frames.length := by
  unfold numbered
  rw [List.length_map, List.length_zipIdx]

/-- Numbering changes no payload. -/
theorem payload_of_mem_numbered {start : Nat} {frames : List Frame} {g : Frame}
    (h : g ∈ numbered start frames) : ∃ f ∈ frames, g.payload = f.payload := by
  obtain ⟨⟨f, i⟩, hmem, rfl⟩ := List.mem_map.1 h
  exact ⟨f, List.fst_mem_of_mem_zipIdx hmem, rfl⟩

end Frame

namespace Endpoint

/-- **What queueing a frame can do**: take it under the next number, or refuse
it and count that. -/
theorem enqueueFrame_cases (e : Endpoint σ) (f : Frame) :
    (f.payload.length ≤ e.config.frame.payloadLimit ∧
      e.enqueueFrame f = (.ok f.wireSize,
        { e with
          queue := { e.queue with
            bytes := e.queue.bytes ++ Frame.wire { f with seq := e.nextSeq } e.config.frame }
          nextSeq := e.nextSeq + 1 }.count fun n =>
            { n with framesEnqueued := n.framesEnqueued.bump 1 })) ∨
    ∃ err, e.enqueueFrame f = (.error err,
      e.count fun n => { n with enqueueRejected := n.enqueueRejected.bump 1 }) := by
  unfold enqueueFrame
  dsimp only
  split
  · exact .inr ⟨_, rfl⟩
  · rename_i encoded henc
    obtain ⟨hfit, rfl⟩ := Frame.encode_eq_ok henc
    split
    · exact .inr ⟨_, rfl⟩
    · rename_i queue hq
      unfold SendQueue.enqueue at hq
      split at hq
      · simp at hq
      · obtain rfl := (Prod.mk.inj hq).2
        exact .inl ⟨hfit, by rw [Frame.length_wire]; rfl⟩

/-! ## Histories of sends and drains -/

/-- What is asked of a sending endpoint. -/
inductive Outbox.Call where
  /-- Queue a payload for a key. -/
  | enqueue (k : Key) (payload : Bytes)
  /-- Queue a frame with its flags. -/
  | enqueueFrame (f : Frame)
  /-- Ask the peer for the value of a key. -/
  | request (k : Key)
  /-- Hand out every byte queued. -/
  | drain

/-- A history of sends and drains. -/
structure Outbox (σ : Type) where
  /-- The endpoint as it is now. -/
  endpoint : Endpoint σ
  /-- The frames taken before the last drain, in order. -/
  sent : List Frame := []
  /-- The frames taken since. -/
  waiting : List Frame := []
  /-- The bytes of all drains, in order. -/
  drained : Bytes := []

namespace Outbox

/-- List a frame as taken, if the answer says that it was. -/
def offer (t : Outbox σ) (f : Frame) : Except LinkError Nat × Endpoint σ → Outbox σ
  | (.ok _, endpoint) => { t with endpoint, waiting := t.waiting ++ [f] }
  | (.error _, endpoint) => { t with endpoint }

/-- One call. -/
def step (t : Outbox σ) : Call → Outbox σ
  | .enqueue k payload => t.offer (.forKey k payload) (t.endpoint.enqueue k payload)
  | .enqueueFrame f => t.offer f (t.endpoint.enqueueFrame f)
  | .request k => t.offer (.forKey k []) (t.endpoint.request k)
  | .drain =>
    { endpoint := t.endpoint.drain.2
      sent := t.sent ++ t.waiting
      waiting := []
      drained := t.drained ++ t.endpoint.drain.1 }

/-- A history of calls on a fresh endpoint. -/
def run (config : LinkConfig) (calls : List Call) : Outbox σ :=
  calls.foldl step { endpoint := .new config }

/-- **The books of an outbox**: the bytes drained are the frames sent, the bytes
queued are the frames waiting, and all are numbered as they were taken. -/
structure Accounts (c : FrameConfig) (t : Outbox σ) : Prop where
  config : t.endpoint.config.frame = c
  nextSeq : t.endpoint.nextSeq = UInt8.ofNat (t.sent.length + t.waiting.length)
  drained : t.drained = Frame.wires c (Frame.numbered 0 t.sent)
  queued : t.endpoint.queue.bytes = Frame.wires c (Frame.numbered t.sent.length t.waiting)
  fits : ∀ f ∈ t.sent ++ t.waiting, f.payload.length ≤ c.payloadLimit

variable {c : FrameConfig} {t : Outbox σ}

/-- Offering a frame keeps the books, whether it is taken or not. -/
theorem Accounts.offer (h : t.Accounts c) (f : Frame) :
    (t.offer f (t.endpoint.enqueueFrame f)).Accounts c := by
  obtain ⟨hconfig, hseq, hdrained, hqueued, hfits⟩ := h
  rcases t.endpoint.enqueueFrame_cases f with ⟨hfit, henq⟩ | ⟨err, henq⟩
  -- taken: the frame stands behind those waiting, under the number that counts them all
  · rw [henq]
    refine ⟨hconfig, ?_, hdrained, ?_, ?_⟩
    · show t.endpoint.nextSeq + 1 = UInt8.ofNat (t.sent.length + (t.waiting ++ [f]).length)
      rw [hseq, List.length_append, ← Nat.add_assoc]
      exact (UInt8.ofNat_add _ 1).symm
    · show t.endpoint.queue.bytes ++ Frame.wire _ t.endpoint.config.frame
        = Frame.wires c (Frame.numbered t.sent.length (t.waiting ++ [f]))
      rw [Frame.numbered_append, Frame.wires_append, ← hqueued, hconfig, hseq]
      simp [Frame.numbered_cons, Frame.wires]
    · intro g hg
      rw [show (t.offer f _).sent ++ (t.offer f _).waiting = (t.sent ++ t.waiting) ++ [f] from
        (List.append_assoc ..).symm] at hg
      rcases List.mem_append.1 hg with hg | hg
      · exact hfits g hg
      · rw [List.mem_singleton.1 hg, ← hconfig]
        exact hfit
  -- refused: only a counter moves
  · rw [henq]
    exact ⟨hconfig, hseq, hdrained, hqueued, hfits⟩

/-- Every call keeps the books. -/
theorem Accounts.step (h : t.Accounts c) (call : Call) : (t.step call).Accounts c := by
  cases call with
  | enqueue k payload => exact h.offer (.forKey k payload)
  | enqueueFrame f => exact h.offer f
  | request k => exact h.offer (.forKey k [])
  | drain =>
    obtain ⟨hconfig, hseq, hdrained, hqueued, hfits⟩ := h
    refine ⟨hconfig, ?_, ?_, rfl, ?_⟩
    · show t.endpoint.nextSeq = UInt8.ofNat ((t.sent ++ t.waiting).length + 0)
      rw [hseq, List.length_append, Nat.add_zero]
    · show t.drained ++ t.endpoint.queue.bytes
        = Frame.wires c (Frame.numbered 0 (t.sent ++ t.waiting))
      rw [Frame.numbered_append, Frame.wires_append, hdrained, hqueued, Nat.zero_add]
    · intro g hg
      exact hfits g (by simpa [Outbox.step] using hg)

/-- **The bytes handed out are the frames taken**, for every history. -/
theorem accounts_run (config : LinkConfig) (calls : List Call) :
    (run (σ := σ) config calls).Accounts config.frame := by
  unfold run
  have hnew : Accounts config.frame ({ endpoint := .new config } : Outbox σ) :=
    ⟨rfl, rfl, rfl, rfl, fun f hf => by simp at hf⟩
  generalize ({ endpoint := .new config } : Outbox σ) = t at hnew
  induction calls generalizing t with
  | nil => exact hnew
  | cons call calls ih => exact ih _ (hnew.step call)

end Outbox

end Endpoint

end ServoLink
