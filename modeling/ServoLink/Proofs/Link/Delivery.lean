import ServoLink.Proofs.Link.Outbox
import ServoLink.Proofs.Link.Reception
import ServoLink.Proofs.Receive.Noise

/-!
# From one end of a link to the other

What one endpoint hands out, another one takes in, and in the end every frame
that the first has taken was routed by the second, once and in order
(`Reception.dispatched_of_drained`). Between the two lie the numbering of
frames, refusals on the way into the queue, the queue itself, the wire, and
every way of cutting it; none of them shows but in the number a frame carries.

On a line that is not clean the frames still arrive, as long as what stands
between them is nothing but noise, and each stretch of noise is counted once
(`Reception.dispatched_of_noisy`).
-/

namespace ServoLink

namespace Endpoint

variable {σ τ : Type}

/-! ## No number is skipped -/

/-- The number behind the last one skips none. -/
theorem skipped_succ (n : Nat) : skipped (some (UInt8.ofNat n)) (UInt8.ofNat (n + 1)) = 0 := by
  have hahead := skipped_ahead (UInt8.ofNat n) 0
  rw [show UInt8.ofNat 0 = 0 from rfl, UInt8.add_zero] at hahead
  rw [UInt8.ofNat_add]
  exact hahead

/-- **Frames numbered in a row skip no number**, also where the numbers start
again. -/
theorem tally_numbered (c : FrameConfig) (frames : List Frame) :
    (tally ((Frame.numbered 0 frames).map (·.received c))).2 = 0 := by
  -- on the frames, for every start that the last number leads up to
  have hrow : ∀ (start : Nat) (last : Option UInt8), skipped last (UInt8.ofNat start) = 0 →
      (((Frame.numbered start frames).map (·.received c)).foldl
        (fun t f => (some f.seq, t.2 + skipped t.1 f.seq)) (last, 0)).2 = 0 := by
    induction frames with
    | nil => exact fun _ _ _ => rfl
    | cons f frames ih =>
      intro start last hlast
      rw [Frame.numbered_cons, List.map_cons, List.foldl_cons, Frame.seq_received, hlast]
      exact ih (start + 1) _ (skipped_succ start)
  exact hrow 0 none rfl

namespace Reception

/-! ## Frames taken in -/

/-- **An endpoint that takes in frames among noise** serves the frames, and
meets as many runs of garbage as there are stretches of noise. -/
theorem served_of_noisy (config : LinkConfig) (r : Registry σ) (s₀ : σ) (lead : Bytes)
    (tail : List (Frame × Bytes)) (moves : List Move)
    (hencodes : ∀ p ∈ tail, p.1.encode config.frame = .ok (p.1.wire config.frame))
    (hr : ∀ p ∈ tail, (r.slot p.1.key).Accepts) (hinert : Noisy.Inert config.frame lead tail)
    (hbytes : (run config r s₀ (moves ++ [.parse])).accepted
      = Noisy.bytes config.frame lead tail) :
    let b := run config r s₀ (moves ++ [.parse])
    Served r s₀ (tail.map (·.1.received config.frame))
        ((Noisy.gaps lead tail).countP (· ≠ [])) b.endpoint b.state ∧
      b.endpoint.sync.buffer = [] := by
  intro b
  have hscan := Noisy.run_bytes (fun p hp => (Frame.encode_eq_ok (hencodes p hp)).1) hinert
  have hframes : (Scan.run config.frame b.accepted).frames
      = tail.map (·.1.received config.frame) := by
    rw [hbytes, hscan, Scan.frames_eq, Noisy.filterMap_items]
  have hruns : (Scan.run config.frame b.accepted).garbageRuns
      = (Noisy.gaps lead tail).countP (· ≠ []) := by
    rw [hbytes, hscan, Scan.garbageRuns, Noisy.countRuns_items]
  obtain ⟨hserved, hrest⟩ := run_served config r s₀ moves fun f hf => by
    rw [hframes] at hf
    obtain ⟨p, hp, rfl⟩ := List.mem_map.1 hf
    rw [Frame.key_received]
    exact hr p hp
  rw [hframes, hruns] at hserved
  rw [hbytes, hscan] at hrest
  exact ⟨hserved, hrest⟩

/-- Frames written one after the other are a stream without noise. -/
theorem wires_eq_noisy (c : FrameConfig) (frames : List Frame) :
    Frame.wires c frames = Noisy.bytes c [] (frames.map fun f => (f, [])) := by
  induction frames with
  | nil => rfl
  | cons f frames ih =>
    show f.wire c ++ Frame.wires c frames = [] ++ (f.wire c ++ Noisy.bytes c [] _)
    rw [ih, List.nil_append]

/-- An endpoint that takes in frames written one after the other serves them,
and meets no garbage. -/
theorem served_of_wires (config : LinkConfig) (r : Registry σ) (s₀ : σ) (frames : List Frame)
    (moves : List Move) (hfits : ∀ f ∈ frames, f.payload.length ≤ config.frame.payloadLimit)
    (hr : ∀ f ∈ frames, (r.slot f.key).Accepts)
    (hbytes : (run config r s₀ (moves ++ [.parse])).accepted = Frame.wires config.frame frames) :
    let b := run config r s₀ (moves ++ [.parse])
    Served r s₀ (frames.map (·.received config.frame)) 0 b.endpoint b.state ∧
      b.endpoint.sync.buffer = [] := by
  intro b
  -- a stretch that is empty holds no sync byte, and is no run of garbage
  have hclean : ∀ gap ∈ Noisy.gaps [] (frames.map fun f => (f, ([] : Bytes))), gap = [] := by
    intro gap hgap
    rcases List.mem_cons.1 hgap with h | h
    · exact h
    · rw [List.map_map] at h
      obtain ⟨-, -, rfl⟩ := List.mem_map.1 h
      rfl
  have hinert : Noisy.Inert config.frame [] (frames.map fun f => (f, [])) := by
    refine Noisy.inert_of_sync_free fun gap hgap => ?_
    rw [hclean gap hgap]
    exact List.not_mem_nil
  have hruns : (Noisy.gaps [] (frames.map fun f => (f, ([] : Bytes)))).countP (· ≠ []) = 0 := by
    rw [List.countP_eq_zero]
    intro gap hgap
    simp [hclean gap hgap]
  rw [wires_eq_noisy] at hbytes
  have hserved := served_of_noisy config r s₀ [] (frames.map fun f => (f, [])) moves
    (fun p hp => ?_) (fun p hp => ?_) hinert hbytes
  · rw [hruns, List.map_map] at hserved
    exact hserved
  · obtain ⟨f, hf, rfl⟩ := List.mem_map.1 hp
    exact Frame.encode_of_length_le (hfits f hf)
  · obtain ⟨f, hf, rfl⟩ := List.mem_map.1 hp
    exact hr f hf

/-! ## A clean line -/

/-- **What one endpoint takes, the other routes.** Let the bytes that one fresh
endpoint handed out be taken in by another, of the same frame format and with
every key accepted, in any pieces and with parse passes anywhere in between.
After a last pass the second has routed exactly the frames that the first had
taken before it last handed out bytes, once each and in order, numbered from
zero; it counts no error and no gap, and its buffer is empty. -/
theorem dispatched_of_drained (sender receiver : LinkConfig)
    (hframe : sender.frame = receiver.frame) (r : Registry σ) (hr : ∀ k, (r.slot k).Accepts)
    (s₀ : σ) (calls : List Outbox.Call) (moves : List Move)
    (hbytes : (run receiver r s₀ (moves ++ [.parse])).accepted
      = (Outbox.run (σ := τ) sender calls).drained) :
    let a := Outbox.run (σ := τ) sender calls
    let b := run receiver r s₀ (moves ++ [.parse])
    let frames := (Frame.numbered 0 a.sent).map (·.received receiver.frame)
    (b.endpoint.registry, b.state) = r.dispatchAll s₀ frames ∧
      b.endpoint.counters.success = Counter.bump 0 a.sent.length ∧
      b.endpoint.counters.transportErrors = 0 ∧
      b.endpoint.counters.decodeErrors = 0 ∧
      b.endpoint.counters.sequenceGaps = 0 ∧
      b.endpoint.sync.buffer = [] := by
  intro a b frames
  have hbooks := Outbox.accounts_run (σ := τ) sender calls
  rw [hframe] at hbooks
  -- the sender took the frames under the limit that the receiver reads them with
  have hfits : ∀ g ∈ Frame.numbered 0 a.sent, g.payload.length ≤ receiver.frame.payloadLimit := by
    intro g hg
    obtain ⟨f, hf, hpayload⟩ := Frame.payload_of_mem_numbered hg
    rw [hpayload]
    exact hbooks.fits f (List.mem_append_left _ hf)
  obtain ⟨hserved, hrest⟩ := served_of_wires receiver r s₀ (Frame.numbered 0 a.sent) moves hfits
    (fun f _ => hr f.key) (hbytes.trans hbooks.drained)
  have hlength : frames.length = a.sent.length := by
    rw [List.length_map, Frame.length_numbered]
  refine ⟨hserved.dispatched, ?_, hserved.transportErrors, hserved.decodeErrors, ?_, hrest⟩
  · rw [← hlength]
    exact hserved.success
  · rw [hserved.sequenceGaps, tally_numbered]
    rfl

/-- A clean line at work: the second of three frames finds the queue full, and
the numbers of the other two follow each other. -/
theorem dispatched_of_drained_refusal :
    let f : Frame := { component := 1, data := 2, flags := 9, payload := [0xA0, 3] }
    let g : Frame := { seq := 1, component := 3, data := 4 }
    (run {} Registry.recording []
        ([.push ((f.wire {}).take 5), .push ((f.wire {}).drop 5 ++ g.wire {})] ++ [.parse])).state
      = [{ f with flags := 1 }, g] := by
  intro f g
  let sender : LinkConfig := { maxQueue := 10 }
  let calls : List Outbox.Call :=
    [.enqueueFrame f, .enqueue ⟨5, 6⟩ [1, 2, 3], .drain, .request ⟨3, 4⟩, .drain]
  have hsent : (Frame.numbered 0 (Outbox.run (σ := Unit) sender calls).sent).map
      (·.received {}) = [{ f with flags := 1 }, g] := by decide +kernel
  have hdispatched := (dispatched_of_drained (τ := Unit) sender {} rfl Registry.recording
    (fun _ => .raw fun _ _ => rfl) [] calls
    [.push ((f.wire {}).take 5), .push ((f.wire {}).drop 5 ++ g.wire {})] (by decide +kernel)).1
  exact (Registry.state_of_recording hdispatched).trans hsent

/-! ## A line with noise -/

/-- **Noise between frames loses none of them.** Let a fresh endpoint take in
frames with noise around them, in any pieces and with parse passes anywhere in
between. If the noise is nothing but noise and the keys of the frames are
accepted, then after a last pass exactly those frames were routed, once each and
in order; none of them counts as an error, each stretch of noise counts as one,
and the buffer is empty. -/
theorem dispatched_of_noisy (config : LinkConfig) (r : Registry σ) (s₀ : σ) (lead : Bytes)
    (tail : List (Frame × Bytes)) (moves : List Move)
    (hencodes : ∀ p ∈ tail, p.1.encode config.frame = .ok (p.1.wire config.frame))
    (hr : ∀ p ∈ tail, (r.slot p.1.key).Accepts) (hinert : Noisy.Inert config.frame lead tail)
    (hbytes : (run config r s₀ (moves ++ [.parse])).accepted
      = Noisy.bytes config.frame lead tail) :
    let b := run config r s₀ (moves ++ [.parse])
    let frames := tail.map (·.1.received config.frame)
    (b.endpoint.registry, b.state) = r.dispatchAll s₀ frames ∧
      b.endpoint.counters.success = Counter.bump 0 tail.length ∧
      b.endpoint.counters.decodeErrors = 0 ∧
      b.endpoint.counters.transportErrors
        = Counter.bump 0 ((Noisy.gaps lead tail).countP (· ≠ [])) ∧
      b.endpoint.sync.buffer = [] := by
  intro b frames
  obtain ⟨hserved, hrest⟩ := served_of_noisy config r s₀ lead tail moves hencodes hr hinert hbytes
  have hlength : frames.length = tail.length := List.length_map _
  refine ⟨hserved.dispatched, ?_, hserved.decodeErrors, hserved.transportErrors, hrest⟩
  rw [← hlength]
  exact hserved.success

/-- Noise at work: the sync byte in front makes a header out of the first five
bytes of the frame, which asks for more than a frame may hold. -/
theorem dispatched_of_noisy_false_sync :
    let f : Frame := { component := 1, data := 2, payload := [0xA0, 3] }
    let g : Frame := { seq := 7, component := 3, data := 4, flags := 5 }
    let stream := 0xA0 :: f.wire {} ++ [1, 2] ++ g.wire {}
    let b := run {} Registry.recording []
      ([.push (stream.take 3), .push (stream.drop 3)] ++ [.parse])
    b.state = [f, g] ∧ b.endpoint.counters.transportErrors.val = 2 := by
  intro f g stream b
  have hfits : ∀ p ∈ [(f, ([1, 2] : Bytes)), (g, [])],
      p.1.payload.length ≤ FrameConfig.payloadLimit {} := by
    decide
  obtain ⟨hdispatched, -, -, hruns, -⟩ :=
    dispatched_of_noisy {} Registry.recording [] [0xA0] [(f, [1, 2]), (g, [])]
      [.push (stream.take 3), .push (stream.drop 3)]
      (fun p hp => Frame.encode_of_length_le (hfits p hp)) (fun _ _ => .raw fun _ _ => rfl)
      (by decide +kernel) (by decide +kernel)
  have hreceived : [(f, ([1, 2] : Bytes)), (g, [])].map (·.1.received {}) = [f, g] := by
    decide
  refine ⟨(Registry.state_of_recording hdispatched).trans hreceived, ?_⟩
  rw [hruns]
  rfl

/-- Beside a checksum the upper flag bits of a frame do not arrive, with or
without noise. -/
theorem upper_flags_lost :
    let f : Frame := { component := 1, data := 1, flags := 8 }
    let b := run {} Registry.recording [] [.push (f.wire {}), .parse]
    f.encode {} = .ok (f.wire {}) ∧ b.accepted = f.wire {} ∧
      b.state = [{ f with flags := 0 }] ∧ b.state ≠ [f] := by
  intro f b
  have haccepted : b.accepted = f.wire {} := by decide +kernel
  have hserved := (served_of_wires {} Registry.recording [] [f] [.push (f.wire {})] (by decide)
    (fun _ _ => .raw fun _ _ => rfl) (haccepted.trans (List.append_nil _).symm)).1
  have hreceived : [f].map (·.received {}) = [{ f with flags := 0 }] := by decide
  have hstate : b.state = [{ f with flags := 0 }] :=
    (Registry.state_of_recording hserved.dispatched).trans hreceived
  refine ⟨rfl, haccepted, hstate, ?_⟩
  rw [hstate]
  decide

end Reception

end Endpoint

end ServoLink
