import ServoLink.Proofs.Link.Outbound

/-!
# When a full queue is worth waiting for

A frame that finds the queue full is to be offered again once the queue was handed
out. Whether that helps depends on the frame and the settings alone: it is taken
then if it fits an empty queue, and if it does not, it is refused for want of room
in every state that the endpoint can come to (`Ledger.retry_iff_of_queueFull`).

The receive side never asks for what it cannot get, because its budget is raised to
that of the longest frame. The send budget stands as it was set. So a link may
accept a payload as not too long and then never have room for it
(`Ledger.queueFull_again`).
-/

namespace ServoLink

namespace Endpoint

variable {σ : Type} {e e' : Endpoint σ} {f : Frame} {needed available : Nat}

/-- A frame within the limit that finds too little room is refused for that. -/
theorem enqueueFrame_of_remaining_lt (hfit : f.payload.length ≤ e.config.frame.payloadLimit)
    (hfull : e.queue.remaining < f.wireSize) :
    (e.enqueueFrame f).1 = .error (.queueFull f.wireSize e.queue.remaining) := by
  have hencode : Frame.encode { f with seq := e.nextSeq } e.config.frame = .ok _ :=
    Frame.encode_of_length_le hfit
  have hlength : (Frame.wire { f with seq := e.nextSeq } e.config.frame).length = f.wireSize :=
    Frame.length_wire _ _
  unfold enqueueFrame
  rw [hencode]
  unfold SendQueue.enqueue
  dsimp only
  rw [hlength, if_pos hfull]

/-- A frame over the limit is refused for that, whatever room there is. -/
theorem enqueueFrame_of_limit_lt (hbig : e.config.frame.payloadLimit < f.payload.length) :
    (e.enqueueFrame f).1
      = .error (.frame (.payloadTooLarge f.payload.length e.config.frame.payloadLimit)) := by
  have hencode : Frame.encode { f with seq := e.nextSeq } e.config.frame = .error _ :=
    if_pos hbig
  unfold enqueueFrame
  rw [hencode]

/-- **A queue is full for a frame** that is within the limit and larger than what is
left; the answer says both sizes. -/
theorem enqueueFrame_eq_queueFull_iff :
    (e.enqueueFrame f).1 = .error (.queueFull needed available) ↔
      f.payload.length ≤ e.config.frame.payloadLimit ∧ needed = f.wireSize ∧
        available = e.queue.remaining ∧ available < needed := by
  constructor
  · intro hfull
    by_cases hfit : f.payload.length ≤ e.config.frame.payloadLimit
    · by_cases hroom : f.wireSize ≤ e.queue.remaining
      · rw [enqueueFrame_of_admits ⟨hfit, hroom⟩] at hfull
        cases hfull
      · rw [enqueueFrame_of_remaining_lt hfit (Nat.not_le.1 hroom)] at hfull
        cases hfull
        exact ⟨hfit, rfl, rfl, Nat.not_le.1 hroom⟩
    · rw [enqueueFrame_of_limit_lt (Nat.not_le.1 hfit)] at hfull
      cases hfull
  · rintro ⟨hfit, rfl, rfl, hroom⟩
    exact enqueueFrame_of_remaining_lt hfit hroom

/-- A queue that was handed out has all its room. -/
theorem remaining_drain (e : Endpoint σ) : e.drain.2.queue.remaining = e.queue.capacity := rfl

namespace Ledger

/-- **When a full queue is worth waiting for.** In every state that a history of
calls leads to, let a frame be refused because the queue is full. The answer names
the size of the frame and the room that is left. Offered again once the queue was
handed out, the frame is taken if and only if it fits an empty queue; every frame
does where the longest one does. If it does not, every later state refuses it as
well, for the same reason. -/
theorem retry_iff_of_queueFull (config : LinkConfig) (state : σ) (calls : List (Call σ))
    {f : Frame} {needed available : Nat} {e' : Endpoint σ}
    (hfull : (run config state calls).endpoint.enqueueFrame f
      = (.error (.queueFull needed available), e')) :
    needed = f.wireSize ∧
      available = config.maxQueue - (run config state calls).endpoint.queue.size ∧
      ((∃ n, (e'.drain.2.enqueueFrame f).1 = .ok n) ↔ f.wireSize ≤ config.maxQueue) ∧
      f.wireSize ≤ config.frame.maxFrameLength ∧
      (config.maxQueue < f.wireSize → ∀ later : List (Call σ), ∃ left,
        ((run config state (calls ++ later)).endpoint.enqueueFrame f).1
          = .error (.queueFull f.wireSize left)) := by
  have hstock := stocked_run config state calls
  obtain ⟨hfit, hneeded, havailable, hroom⟩ :=
    enqueueFrame_eq_queueFull_iff.1 (congrArg Prod.fst hfull)
  rw [hstock.config] at hfit
  -- a refusal leaves the settings and the queue as they were
  have hrefused : ¬ (run config state calls).endpoint.Admits f := fun h => by
    rw [enqueueFrame_of_admits h] at hfull
    cases hfull
  obtain ⟨err, hafter⟩ := enqueueFrame_of_not_admits hrefused
  rw [hfull] at hafter
  obtain rfl := (Prod.mk.inj hafter).2
  refine ⟨hneeded, ?_, ?_, Nat.add_le_add_left hfit _, fun hbig later => ?_⟩
  · rw [havailable, ← hstock.capacity]
    rfl
  · rw [enqueueFrame_eq_ok_iff]
    unfold Admits
    rw [remaining_drain]
    show _ ≤ (run config state calls).endpoint.config.frame.payloadLimit ∧ _
        ≤ (run config state calls).endpoint.queue.capacity ↔ _
    rw [hstock.config, hstock.capacity]
    exact and_iff_right hfit
  · have hlater := stocked_run config state (calls ++ later)
    refine ⟨_, enqueueFrame_of_remaining_lt ?_ ?_⟩
    · rw [hlater.config]
      exact hfit
    · refine Nat.lt_of_le_of_lt (Nat.sub_le _ _) ?_
      rw [hlater.capacity]
      exact hbig

/-- A queue of twelve bytes that holds a frame of that size: one of nine bytes is
refused, and taken once the queue was handed out. -/
theorem retry_iff_of_queueFull_fits :
    let config : LinkConfig := { maxQueue := 12 }
    let t := run config () [.enqueue ⟨1, 1⟩ [1, 2, 3, 4]]
    let f : Frame := { component := 1, data := 2, payload := [7] }
    (t.endpoint.enqueueFrame f).1 = .error (.queueFull 9 0) ∧
      ∃ n, ((t.endpoint.enqueueFrame f).2.drain.2.enqueueFrame f).1 = .ok n := by
  intro config t f
  have hfull : (t.endpoint.enqueueFrame f).1 = .error (.queueFull 9 0) := rfl
  have hpair : t.endpoint.enqueueFrame f
      = (.error (.queueFull 9 0), (t.endpoint.enqueueFrame f).2) := Prod.ext hfull rfl
  obtain ⟨-, -, hretry, -, -⟩ :=
    retry_iff_of_queueFull config () [.enqueue ⟨1, 1⟩ [1, 2, 3, 4]] hpair
  exact ⟨hfull, hretry.2 (by decide)⟩

/-- A queue may be full for good: one of eight bytes is empty and refuses a payload
of a single byte, and handing out nothing makes no room. -/
theorem queueFull_again :
    let t := run (σ := Unit) { maxQueue := 8 } () []
    let f : Frame := { component := 1, data := 1, payload := [7] }
    (t.endpoint.enqueueFrame f).1 = .error (.queueFull 9 8) ∧
      ((t.endpoint.enqueueFrame f).2.drain.2.enqueueFrame f).1 = .error (.queueFull 9 8) :=
  ⟨rfl, rfl⟩

end Ledger

end Endpoint

end ServoLink
