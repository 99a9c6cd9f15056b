import Mathlib.Data.List.Induction
import ServoLink.Proofs.Frame.RoundTrip
import ServoLink.Proofs.Link.Delivery
import ServoLink.StreamCodec

/-!
# From a stream codec to an endpoint

A stream codec numbers the frames it writes with a counter of its own, and has no
queue: it writes behind whatever its buffer holds. A `Writing` is a history of frames
given to one codec and one buffer. Whatever was refused in between, the buffer holds the
frames taken, numbered from zero and written one after the other
(`Writing.accounts_run`).

So an endpoint does not tell a codec from another endpoint: it routes the frames that
the codec has taken, once each and in order, and misses no number
(`Endpoint.Reception.dispatched_of_written`).
-/

namespace ServoLink

namespace StreamCodec

variable {f : Frame}

/-- A frame within the limit is written under the next number. -/
theorem encode_of_length_le (codec : StreamCodec) (buffer : Bytes)
    (h : f.payload.length ≤ codec.config.payloadLimit) :
    codec.encode f buffer = (.ok (), { codec with nextSeq := codec.nextSeq + 1 },
      buffer ++ Frame.wire { f with seq := codec.nextSeq } codec.config) := by
  unfold encode
  rw [Frame.encodeOnto_of_length_le (f := { f with seq := codec.nextSeq }) buffer h]

/-- A frame over the limit uses up no number, and nothing of it is written. -/
theorem encode_of_lt (codec : StreamCodec) (buffer : Bytes)
    (h : codec.config.payloadLimit < f.payload.length) :
    codec.encode f buffer
      = (.error (.payloadTooLarge f.payload.length codec.config.payloadLimit), codec,
          buffer) := by
  unfold encode
  rw [Frame.encodeOnto_of_lt (f := { f with seq := codec.nextSeq }) buffer h]

/-- **A refusal leaves no trace**, in the buffer or in the codec. -/
theorem eq_of_encode_error {codec codec' : StreamCodec} {buffer buffer' : Bytes} {e : FrameError}
    (h : codec.encode f buffer = (.error e, codec', buffer')) :
    codec' = codec ∧ buffer' = buffer := by
  rcases Nat.lt_or_ge codec.config.payloadLimit f.payload.length with hbig | hfit
  · rw [encode_of_lt codec buffer hbig] at h
    cases h
    exact ⟨rfl, rfl⟩
  · rw [encode_of_length_le codec buffer hfit] at h
    cases h

end StreamCodec

/-- A history of frames given to one codec and one buffer. -/
structure Writing where
  /-- The codec as it is now. -/
  codec : StreamCodec
  /-- What has been written. -/
  buffer : Bytes := []
  /-- The frames that the codec has taken, in order. -/
  taken : List Frame := []

namespace Writing

/-- Give a frame to the codec, and list it if the answer says that it was taken. -/
def write (t : Writing) (f : Frame) : Writing :=
  match t.codec.encode f t.buffer with
  | (.ok (), codec, buffer) => { codec, buffer, taken := t.taken ++ [f] }
  | (.error _, codec, buffer) => { t with codec, buffer }

/-- A history of frames given to a fresh codec and an empty buffer. -/
def run (c : FrameConfig) (frames : List Frame) : Writing :=
  frames.foldl write { codec := { config := c } }

/-- **The books of a writing**: the buffer holds the frames taken, numbered as they were
taken, and they are the frames within the limit. -/
structure Accounts (c : FrameConfig) (frames : List Frame) (t : Writing) : Prop where
  config : t.codec.config = c
  nextSeq : t.codec.nextSeq = UInt8.ofNat t.taken.length
  buffer : t.buffer = Frame.wires c (Frame.numbered 0 t.taken)
  taken : t.taken = frames.filter (·.payload.length ≤ c.payloadLimit)

variable {c : FrameConfig} {t : Writing} {frames : List Frame}

/-- One more frame keeps the books, whether it is taken or not. -/
theorem Accounts.write (h : t.Accounts c frames) (f : Frame) :
    (t.write f).Accounts c (frames ++ [f]) := by
  obtain ⟨rfl, hseq, hbuffer, htaken⟩ := h
  unfold Writing.write
  rcases Nat.lt_or_ge t.codec.config.payloadLimit f.payload.length with hbig | hfit
  · rw [StreamCodec.encode_of_lt t.codec t.buffer hbig]
    refine ⟨rfl, hseq, hbuffer, ?_⟩
    rw [List.filter_append, ← htaken]
    simp [hbig]
  · rw [StreamCodec.encode_of_length_le t.codec t.buffer hfit]
    refine ⟨rfl, ?_, ?_, ?_⟩
    · show t.codec.nextSeq + 1 = UInt8.ofNat (t.taken ++ [f]).length
      rw [hseq, List.length_append]
      exact (UInt8.ofNat_add _ 1).symm
    · show t.buffer ++ _ = Frame.wires _ (Frame.numbered 0 (t.taken ++ [f]))
      rw [Frame.numbered_append, Frame.wires_append, ← hbuffer, hseq, Nat.zero_add]
      simp [Frame.numbered_cons, Frame.wires]
    · show t.taken ++ [f] = _
      rw [List.filter_append, ← htaken]
      simp [hfit]

/-- **The buffer holds the frames taken**, for every history. -/
theorem accounts_run (c : FrameConfig) (frames : List Frame) :
    (run c frames).Accounts c frames := by
  induction frames using List.reverseRecOn with
  | nil => exact ⟨rfl, rfl, rfl, rfl⟩
  | append_singleton frames f ih =>
    show ((frames ++ [f]).foldl write _).Accounts c (frames ++ [f])
    rw [List.foldl_append]
    exact ih.write f

end Writing

namespace Endpoint.Reception

variable {σ : Type}

/-- **What a codec writes, an endpoint routes.** A frame that a codec refuses leaves the
codec and the buffer as they were. Let any frames be given to a fresh codec with an empty
buffer, and let a fresh endpoint of the same frame format, with every key accepted, take in
what has been written, in any pieces and with parse passes anywhere in between. After a
last pass it has routed exactly the frames that the codec took, which are those within the
limit, once each and in order, numbered from zero, with the flags that travel; it counts no
error and no gap, and its buffer is empty. -/
theorem dispatched_of_written (config : LinkConfig) (r : Registry σ)
    (hr : ∀ k, (r.slot k).Accepts) (s₀ : σ) (given : List Frame) (moves : List Move)
    (hbytes : (run config r s₀ (moves ++ [.parse])).accepted
      = (Writing.run config.frame given).buffer) :
    let t := Writing.run config.frame given
    let b := run config r s₀ (moves ++ [.parse])
    let frames := (Frame.numbered 0 t.taken).map (·.received config.frame)
    (∀ (codec codec' : StreamCodec) (buffer buffer' : Bytes) (f : Frame) (e : FrameError),
        codec.encode f buffer = (.error e, codec', buffer') →
          codec' = codec ∧ buffer' = buffer) ∧
      t.taken = given.filter (·.payload.length ≤ config.frame.payloadLimit) ∧
      (b.endpoint.registry, b.state) = r.dispatchAll s₀ frames ∧
      b.endpoint.counters.success = Counter.bump 0 t.taken.length ∧
      b.endpoint.counters.transportErrors = 0 ∧
      b.endpoint.counters.decodeErrors = 0 ∧
      b.endpoint.counters.sequenceGaps = 0 ∧
      b.endpoint.sync.buffer = [] := by
  intro t b frames
  have hbooks := Writing.accounts_run config.frame given
  have hfits : ∀ g ∈ Frame.numbered 0 t.taken,
      g.payload.length ≤ config.frame.payloadLimit := by
    intro g hg
    obtain ⟨f, hf, hpayload⟩ := Frame.payload_of_mem_numbered hg
    rw [hbooks.taken] at hf
    rw [hpayload]
    exact of_decide_eq_true (List.mem_filter.1 hf).2
  obtain ⟨hserved, hrest⟩ := served_of_wires config r s₀ (Frame.numbered 0 t.taken) moves hfits
    (fun f _ => hr f.key) (hbytes.trans hbooks.buffer)
  have hlength : frames.length = t.taken.length := by
    rw [List.length_map, Frame.length_numbered]
  refine ⟨fun _ _ _ _ _ _ => StreamCodec.eq_of_encode_error, hbooks.taken, hserved.dispatched,
    ?_, hserved.transportErrors, hserved.decodeErrors, ?_, hrest⟩
  · rw [← hlength]
    exact hserved.success
  · rw [hserved.sequenceGaps, tally_numbered]
    rfl

/-- A codec writes three frames, of which the second is too long: the third has the number
behind that of the first, whatever number it was given. -/
theorem dispatched_of_written_refusal :
    let config : LinkConfig := { frame := { maxPayload := 2, integrity := .unchecked } }
    let f : Frame := { component := 1, data := 2, flags := 9, payload := [0xA0, 3] }
    let g : Frame := { component := 3, data := 4, payload := [1, 2, 3] }
    let h : Frame := { seq := 7, component := 3, data := 4 }
    let stream := (Writing.run config.frame [f, g, h]).buffer
    let b := run config Registry.recording []
      ([.push (stream.take 5), .parse, .push (stream.drop 5)] ++ [.parse])
    b.state = [f, { h with seq := 1 }] ∧ b.endpoint.counters.sequenceGaps = 0 := by
  intro config f g h stream b
  obtain ⟨-, htaken, hdispatched, -, -, -, hgaps, -⟩ :=
    dispatched_of_written config Registry.recording (fun _ => .raw fun _ _ => rfl) [] [f, g, h]
      [.push (stream.take 5), .parse, .push (stream.drop 5)] (by decide +kernel)
  rw [htaken] at hdispatched
  exact ⟨(Registry.state_of_recording hdispatched).trans (by decide), hgaps⟩

/-- Beside a checksum a frame that the codec took arrives without its upper flag bits. -/
theorem upper_flags_unwritten :
    let f : Frame := { component := 1, data := 1, flags := 8 }
    let t := Writing.run {} [f]
    let b := run {} Registry.recording [] [.push t.buffer, .parse]
    t.taken = [f] ∧ b.accepted = t.buffer ∧ b.state = [{ f with flags := 0 }] ∧
      b.state ≠ [f] := by
  intro f t b
  have hstate : b.state = [{ f with flags := 0 }] := by decide +kernel
  refine ⟨by decide, by decide +kernel, hstate, ?_⟩
  rw [hstate]
  decide

end Endpoint.Reception

end ServoLink
