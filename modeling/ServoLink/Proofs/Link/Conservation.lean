import ServoLink.Link.Transport
import ServoLink.Proofs.Link.Taken

/-!
# No byte is lost on the way out

A transport holds bytes in two places, pending and queued, and the stream takes
them as it likes: some of them, none for the moment, or none and an error. The
bytes that the stream has taken, those that are pending and those that are
queued, one behind the other, are the outbound bytes of the transport
(`Transport.outbound`). Only one thing ever changes them: where the queue takes a
frame, its bytes come in at the end. Draining and writing move bytes from one
place to the next, whether they succeed or not (`Transport.Carried`).

So after any history of calls the outbound bytes are the frames taken, in the
order in which they were, and a poll that met no idle stream leaves nothing
behind (`Traffic.outbound_conserved`).
-/

namespace ServoLink

namespace Stream

variable {s : Stream} {offered : Bytes}

theorem write_of_nil (h : s.writes = []) :
    s.write offered = (.ok offered.length, { s with written := s.written ++ offered }) := by
  unfold write
  rw [h]

theorem write_of_accept {limit : Nat} {writes : List WriteAnswer}
    (h : s.writes = .accept limit :: writes) :
    s.write offered = (.ok (min limit offered.length),
      { s with writes, written := s.written ++ offered.take limit }) := by
  unfold write
  rw [h]

end Stream

/-- Whether a write is left for the next time. -/
def WriteAnswer.isIdle : WriteAnswer → Bool
  | .accept _ => false
  | .failure f => f.kind.isIdle

namespace Transport

variable {σ : Type}

/-! ## Dealing with the stream -/

/-- **What is pending goes to the stream or stays pending**, however the writing
ends. -/
theorem written_writePending (pending : Bytes) (written : Nat) (s : Stream) :
    (writePending pending written s).2.2.written ++ (writePending pending written s).2.1
      = s.written ++ pending := by
  fun_induction writePending pending written s with
  | case1 => rfl
  | case2 pending written s _ h =>
    rw [Stream.write_of_nil h]
    exact List.append_nil _
  | case3 pending written s _ writes h =>
    rw [Stream.write_of_accept h]
    show s.written ++ pending.take 0 ++ pending = s.written ++ pending
    rw [List.take_zero, List.append_nil]
  | case4 pending written s _ limit writes h _ ih =>
    rw [ih, Stream.write_of_accept h]
    show s.written ++ pending.take limit ++ pending.drop limit = s.written ++ pending
    rw [List.append_assoc, List.take_append_drop]
  | case5 pending written s _ f writes h s' _ ih => exact ih
  | case6 => rfl
  | case7 => rfl

/-- **Writing that ends well leaves nothing pending**, unless it met an idle
stream. -/
theorem pending_of_writePending {pending rest : Bytes} {written n : Nat} {s s' : Stream}
    (h : writePending pending written s = (.ok n, rest, s')) :
    ∃ used, s.writes = used ++ s'.writes ∧ ((∀ a ∈ used, a.isIdle = false) → rest = []) := by
  fun_induction writePending pending written s with
  | case1 pending written s hempty =>
    obtain ⟨-, rfl, rfl⟩ : written = n ∧ pending = rest ∧ s = s' := by simpa using h
    exact ⟨[], rfl, fun _ => List.isEmpty_iff.1 hempty⟩
  | case2 pending written s _ hw =>
    rw [Stream.write_of_nil hw] at h
    obtain ⟨-, rfl, rfl⟩ : written + pending.length = n ∧ [] = rest ∧ _ = s' := by simpa using h
    exact ⟨[], rfl, fun _ => rfl⟩
  | case3 => cases h
  | case4 pending written s _ limit writes hw _ ih =>
    obtain ⟨used, hused, hrest⟩ := ih h
    rw [Stream.write_of_accept hw] at hused
    refine ⟨.accept limit :: used, ?_, fun hidle => hrest fun a ha => hidle a (.tail _ ha)⟩
    rw [hw, List.cons_append, ← hused]
  | case5 pending written s _ f writes hw t _ ih =>
    obtain ⟨used, hused, hrest⟩ := ih h
    refine ⟨.failure f :: used, ?_, fun hidle => hrest fun a ha => hidle a (.tail _ ha)⟩
    rw [hw, List.cons_append, ← hused]
  | case6 pending written s _ f writes hw t _ hidle =>
    obtain ⟨-, rfl, rfl⟩ : written = n ∧ pending = rest ∧ t = s' := by simpa using h
    refine ⟨[.failure f], hw, fun hno => ?_⟩
    rw [show f.kind.isIdle = false from hno _ (.head _)] at hidle
    cases hidle
  | case7 => cases h

/-- Flushing takes no bytes and uses up no answer to a write. -/
theorem flushStream_frame (s : Stream) :
    (flushStream s).2.written = s.written ∧ (flushStream s).2.writes = s.writes := by
  fun_induction flushStream s with
  | case1 s f flushes h t _ ih => exact ih
  | case2 => exact ⟨rfl, rfl⟩
  | case3 s _ =>
    unfold Stream.flush
    split <;> exact ⟨rfl, rfl⟩

/-- Reading uses up answers to reads, and nothing else. -/
theorem readStream_frame (room : Nat) (s : Stream) :
    ∃ reads, (readStream room s).2 = { s with reads } := by
  have hread : ∀ s : Stream, ∃ reads, (s.read room).2 = { s with reads } := by
    intro s
    unfold Stream.read
    split <;> exact ⟨_, rfl⟩
  fun_induction readStream room s with
  | case1 s f reads h _ ih => exact ih
  | case2 s => exact hread s
  | case3 s => exact hread s

/-! ## The outbound bytes -/

/-- **The outbound bytes**, first to be sent first: those that the stream has
taken, those that are pending, those that are queued. -/
def outbound (t : Transport σ) : Bytes :=
  t.stream.written ++ t.pending ++ t.endpoint.queue.bytes

/-- **A transport has taken some frames**: they are on the books of its endpoint,
and their bytes came in behind the outbound bytes. -/
structure Carried (t : Transport σ) (frames : List Frame) (t' : Transport σ) : Prop
    extends t.endpoint.Booked frames t'.endpoint where
  outbound : t'.outbound = t.outbound ++ Frame.wires t.endpoint.config.frame frames

variable {t t' t'' : Transport σ} {frames front back : List Frame}

/-- Frames that the endpoint takes come in behind the outbound bytes, whatever
becomes of those that are on their way already. -/
theorem Carried.of_took (h : t.endpoint.Took frames t'.endpoint)
    (hstream : t'.stream.written ++ t'.pending = t.stream.written ++ t.pending) :
    Carried t frames t' := by
  refine ⟨h.toBooked, ?_⟩
  unfold Transport.outbound
  rw [hstream, h.queued, ← List.append_assoc]

/-- Frames taken one after the other come in one after the other. -/
theorem Carried.append (h : Carried t front t') (h' : Carried t' back t'') :
    Carried t (front ++ back) t'' := by
  refine ⟨h.toBooked.append h'.toBooked, ?_⟩
  rw [h'.outbound, h.outbound, h.config, Frame.wires_append, List.append_assoc]

/-! ## Writing -/

/-- Draining moves the queue behind the bytes taken, if nothing is pending
there. -/
theorem carried_refill (t : Transport σ) : Carried t [] t.refill := by
  unfold refill
  split
  · rename_i hempty
    refine ⟨.nil rfl rfl, ?_⟩
    show t.stream.written ++ t.endpoint.queue.bytes ++ []
      = t.stream.written ++ t.pending ++ t.endpoint.queue.bytes ++ []
    rw [List.isEmpty_iff.1 hempty, List.append_nil t.stream.written]
  · exact .of_took (.nil ⟨rfl, rfl, rfl, rfl⟩) rfl

/-- Draining leaves the stream alone. -/
theorem stream_refill (t : Transport σ) : t.refill.stream = t.stream := by
  unfold refill
  split <;> rfl

/-- Draining empties the queue, if nothing is pending. -/
theorem queue_refill (h : t.pending = []) : t.refill.endpoint.queue.bytes = [] := by
  unfold refill
  rw [h]
  rfl

/-- After draining, a transport has only its stream and its pending bytes
changed by writing. -/
theorem transmit_frame (t : Transport σ) :
    ∃ stream, t.transmit.2
        = { t.refill with
            pending := (writePending t.refill.pending 0 t.refill.stream).2.1
            stream } ∧
      stream.written = (writePending t.refill.pending 0 t.refill.stream).2.2.written ∧
      stream.writes = (writePending t.refill.pending 0 t.refill.stream).2.2.writes := by
  unfold transmit
  dsimp only
  rcases writePending t.refill.pending 0 t.refill.stream with ⟨err | written, pending, stream⟩
  · exact ⟨stream, rfl, rfl, rfl⟩
  · dsimp only
    split
    · exact ⟨stream, rfl, rfl, rfl⟩
    · refine ⟨(flushStream stream).2, ?_, flushStream_frame stream⟩
      rcases flushStream stream with ⟨err | _, stream'⟩ <;> rfl

/-- **Writing takes no frame and loses no byte**, however it ends. -/
theorem carried_transmit (t : Transport σ) : Carried t [] t.transmit.2 := by
  obtain ⟨stream, htransmit, hwritten, -⟩ := t.transmit_frame
  have hwrite : Carried t.refill [] t.transmit.2 := by
    rw [htransmit]
    refine .of_took (.nil ⟨rfl, rfl, rfl, rfl⟩) ?_
    show stream.written ++ _ = _
    rw [hwritten]
    exact written_writePending _ 0 _
  exact t.carried_refill.append hwrite

/-- **Writing that ends well and meets no idle stream leaves nothing pending**,
and nothing queued if nothing was pending before. -/
theorem transmit_of_ok {n : Nat} (h : t.transmit = (.ok n, t')) :
    ∃ used, t.stream.writes = used ++ t'.stream.writes ∧
      ((∀ a ∈ used, a.isIdle = false) → t'.pending = []) ∧
      (t.pending = [] → t'.endpoint.queue.bytes = []) := by
  obtain ⟨stream, htransmit, -, hwrites⟩ := t.transmit_frame
  rw [h] at htransmit
  -- writing itself ended well, or the call would not have
  obtain ⟨m, rest, s', hwrite⟩ : ∃ m rest s',
      writePending t.refill.pending 0 t.refill.stream = (.ok m, rest, s') := by
    rcases hw : writePending t.refill.pending 0 t.refill.stream with ⟨err | m, rest, s'⟩
    · unfold transmit at h
      dsimp only at h
      rw [hw] at h
      cases h
    · exact ⟨m, rest, s', rfl⟩
  obtain ⟨used, hused, hrest⟩ := pending_of_writePending hwrite
  rw [hwrite] at htransmit hwrites
  obtain rfl : t' = { t.refill with pending := rest, stream } := htransmit
  refine ⟨used, ?_, hrest, queue_refill⟩
  rw [← stream_refill, hused]
  exact congrArg (used ++ ·) hwrites.symm

/-! ## Reading and parsing -/

/-- Reading changes the receive side, the counters apart from that of the frames
taken, and what the stream has in store for reads. -/
theorem receive_frame (t : Transport σ) :
    ∃ sync counters reads, t.receive.2 = { t with
        endpoint := { t.endpoint with sync, counters }
        stream := { t.stream with reads } } ∧
      counters.framesEnqueued = t.endpoint.counters.framesEnqueued := by
  unfold receive
  dsimp only
  split
  · exact ⟨_, _, _, rfl, rfl⟩
  · obtain ⟨reads, hreads⟩ := readStream_frame (min t.endpoint.sync.room readChunk) t.stream
    split
    all_goals
      rename_i hread
      rw [hread] at hreads
      obtain rfl : _ = { t.stream with reads } := hreads
    · exact ⟨_, _, _, rfl, rfl⟩
    · unfold Endpoint.push
      split
      all_goals
        rename_i hpush
        split at hpush <;> cases hpush
        exact ⟨_, _, _, rfl, rfl⟩
    · split <;> exact ⟨_, _, _, rfl, rfl⟩

/-- Reading takes no frame. -/
theorem carried_receive (t : Transport σ) : Carried t [] t.receive.2 := by
  obtain ⟨sync, counters, reads, hreceive, hcounted⟩ := t.receive_frame
  rw [hreceive]
  exact .of_took (.nil ⟨rfl, rfl, rfl, hcounted.symm⟩) rfl

/-- **A parse pass takes its answers.** -/
theorem carried_parse (t : Transport σ) :
    Carried t (t.endpoint.parseAnswers {} t.state) t.parse.2 :=
  .of_took (t.endpoint.took_parse t.state) rfl

/-! ## A poll -/

/-- The answers that the queue takes in the course of a poll. -/
def pollAnswers (t : Transport σ) : List Frame :=
  match t.transmit with
  | (.error _, _) => []
  | (.ok _, t) =>
    match t.receive with
    | (.error _, _) => []
    | (.ok _, t) => t.endpoint.parseAnswers {} t.state

/-- **A poll takes the answers of its parse pass**, however it ends. -/
theorem carried_poll (t : Transport σ) : Carried t t.pollAnswers t.poll.2 := by
  unfold pollAnswers poll
  have hbefore := t.carried_transmit
  rcases htransmit : t.transmit with ⟨err | before, t₁⟩ <;> rw [htransmit] at hbefore
  · exact hbefore
  have hread := hbefore.append t₁.carried_receive
  dsimp only
  rcases hreceive : t₁.receive with ⟨err | read, t₂⟩ <;> rw [hreceive] at hread
  · exact hread
  have hparse := hread.append t₂.carried_parse
  dsimp only
  rcases hpass : t₂.parse with ⟨fault | parse, t₃⟩ <;> rw [hpass] at hparse
  · exact hparse
  have hafter := hparse.append t₃.carried_transmit
  rw [List.append_nil] at hafter
  dsimp only
  rcases htransmit' : t₃.transmit with ⟨err | after, t₄⟩ <;> rw [htransmit'] at hafter <;>
    exact hafter

/-- **A poll that ends well and meets no idle stream leaves nothing behind.** -/
theorem poll_of_ok {report : PollReport} (h : t.poll = (.ok report, t')) :
    ∃ used, t.stream.writes = used ++ t'.stream.writes ∧
      ((∀ a ∈ used, a.isIdle = false) → t'.pending = [] ∧ t'.endpoint.queue.bytes = []) := by
  unfold poll at h
  rcases hbefore : t.transmit with ⟨err | before, t₁⟩
  · simp [hbefore] at h
  rcases hread : t₁.receive with ⟨err | read, t₂⟩
  · simp [hbefore, hread] at h
  rcases hparse : t₂.parse with ⟨fault | parse, t₃⟩
  · simp [hbefore, hread, hparse] at h
  rcases hafter : t₃.transmit with ⟨err | after, t₄⟩
  · simp [hbefore, hread, hparse, hafter] at h
  obtain ⟨-, rfl⟩ : _ ∧ t₄ = t' := by simpa [hbefore, hread, hparse, hafter] using h
  obtain ⟨used₁, hused₁, hpending₁, -⟩ := transmit_of_ok hbefore
  obtain ⟨used₂, hused₂, hpending₂, hqueue⟩ := transmit_of_ok hafter
  -- between the two writings nothing is written, and nothing pending changes
  obtain ⟨hwrites, hpending⟩ : t₃.stream.writes = t₁.stream.writes ∧ t₃.pending = t₁.pending := by
    obtain ⟨sync, counters, reads, hreceive, -⟩ := t₁.receive_frame
    rw [hread] at hreceive
    obtain rfl : t₂ = _ := hreceive
    obtain rfl : _ = t₃ := congrArg Prod.snd hparse
    exact ⟨rfl, rfl⟩
  refine ⟨used₁ ++ used₂, ?_, fun hidle => ⟨?_, ?_⟩⟩
  · rw [hused₁, ← hwrites, hused₂, List.append_assoc]
  · exact hpending₂ fun a ha => hidle a (List.mem_append_right _ ha)
  · refine hqueue (hpending.trans ?_)
    exact hpending₁ fun a ha => hidle a (List.mem_append_left _ ha)

end Transport

/-! ## Histories -/

/-- What is asked of a transport and its link. -/
inductive Traffic.Call where
  /-- Queue a payload for a key. -/
  | enqueue (k : Key) (payload : Bytes)
  /-- Queue a frame with its flags. -/
  | enqueueFrame (f : Frame)
  /-- Ask the peer for the value of a key. -/
  | request (k : Key)
  /-- Write, read, parse, and write again. -/
  | poll
  /-- Write what is pending or queued. -/
  | transmit
  /-- Read what is there. -/
  | receive
  /-- Run a parse pass. -/
  | parse

/-- A history of calls of a transport. -/
structure Traffic (σ : Type) where
  /-- The transport as it is now. -/
  transport : Transport σ
  /-- The frames that the queue took, in order. -/
  taken : List Frame := []

namespace Traffic

variable {σ : Type}

/-- Offer a frame to the queue. -/
def offer (t : Traffic σ) (f : Frame) : Traffic σ where
  transport := { t.transport with endpoint := (t.transport.endpoint.enqueueFrame f).2 }
  taken := t.taken ++ t.transport.endpoint.taken f

/-- One call, whatever it answers. -/
def step (t : Traffic σ) : Call → Traffic σ
  | .enqueue k payload => t.offer (.forKey k payload)
  | .enqueueFrame f => t.offer f
  | .request k => t.offer (.forKey k [])
  | .poll => ⟨t.transport.poll.2, t.taken ++ t.transport.pollAnswers⟩
  | .transmit => ⟨t.transport.transmit.2, t.taken⟩
  | .receive => ⟨t.transport.receive.2, t.taken⟩
  | .parse =>
    ⟨t.transport.parse.2, t.taken ++ t.transport.endpoint.parseAnswers {} t.transport.state⟩

/-- A history of calls. -/
def run (t₀ : Transport σ) (calls : List Call) : Traffic σ :=
  calls.foldl step { transport := t₀ }

/-- Every call takes the frames that it lists, and no others. -/
theorem carried_step (t : Traffic σ) (call : Call) :
    ∃ frames, (t.step call).taken = t.taken ++ frames ∧
      t.transport.Carried frames (t.step call).transport := by
  have hoffer (f : Frame) : t.transport.Carried (t.transport.endpoint.taken f)
      (t.offer f).transport := .of_took (t.transport.endpoint.took_enqueueFrame f) rfl
  cases call with
  | enqueue k payload => exact ⟨_, rfl, hoffer _⟩
  | enqueueFrame f => exact ⟨_, rfl, hoffer f⟩
  | request k => exact ⟨_, rfl, hoffer _⟩
  | poll => exact ⟨_, rfl, t.transport.carried_poll⟩
  | transmit => exact ⟨[], (List.append_nil _).symm, t.transport.carried_transmit⟩
  | receive => exact ⟨[], (List.append_nil _).symm, t.transport.carried_receive⟩
  | parse => exact ⟨_, rfl, t.transport.carried_parse⟩

/-- A history takes the frames that it lists, and no others. -/
theorem carried_run (t₀ : Transport σ) (calls : List Call) :
    t₀.Carried (run t₀ calls).taken (run t₀ calls).transport := by
  -- from any point of the history on, with what was taken before
  have hfrom : ∀ t : Traffic σ, t₀.Carried t.taken t.transport →
      t₀.Carried (calls.foldl step t).taken (calls.foldl step t).transport := by
    induction calls with
    | nil => exact fun _ h => h
    | cons call calls ih =>
      intro t h
      obtain ⟨frames, htaken, hstep⟩ := t.carried_step call
      refine ih (t.step call) ?_
      rw [htaken]
      exact h.append hstep
  exact hfrom { transport := t₀ } (.of_took (.nil ⟨rfl, rfl, rfl, rfl⟩) rfl)

/-- **No byte is lost, sent twice or sent out of order.** Let nothing be outbound
at the start. Then after any history of calls, however each of them ended, the
bytes that the stream has taken, those that are pending and those that are queued
make up, one behind the other, the frames that the queue took, in order. These
are as many as the link has counted. And a poll that ends well without having met
an idle stream leaves nothing pending and nothing queued. -/
theorem outbound_conserved (t₀ : Transport σ) (hstart : t₀.outbound = []) (calls : List Call) :
    let t := run t₀ calls
    let c := t₀.endpoint.config.frame
    t.transport.stream.written ++ t.transport.pending ++ t.transport.endpoint.queue.bytes
        = Frame.wires c t.taken ∧
      (∀ f ∈ t.taken, f.encode c = .ok (f.wire c)) ∧
      t.transport.endpoint.counters.framesEnqueued
        = t₀.endpoint.counters.framesEnqueued.bump t.taken.length ∧
      ∀ report after, t.transport.poll = (.ok report, after) →
        ∃ used, t.transport.stream.writes = used ++ after.stream.writes ∧
          ((∀ a ∈ used, a.isIdle = false) →
            after.pending = [] ∧ after.endpoint.queue.bytes = []) := by
  intro t c
  have hrun := carried_run t₀ calls
  refine ⟨?_, fun f hf => Frame.encode_of_length_le (hrun.fits f hf), hrun.counted,
    fun _ _ hpoll => Transport.poll_of_ok hpoll⟩
  have houtbound := hrun.outbound
  rw [hstart, List.nil_append] at houtbound
  exact houtbound

/-- A stream that takes three bytes, is interrupted, is busy, takes nothing for
once and fails for good, while frames are queued and a request is answered: the
answer stands behind the frame that was queued before it, and one more poll sends
what is left. -/
theorem outbound_conserved_busy :
    let key : Key := ⟨1, 2⟩
    let r : Registry Unit :=
      { slot := fun _ => .handler ((Handler.raw fun _ s => (none, s)).answering fun _ => [7]) }
    let request : Frame := { component := 1, data := 2 }
    let quiet : ReadAnswer := .failure ⟨.timedOut, "quiet"⟩
    let busy : WriteAnswer := .failure ⟨.wouldBlock, "busy"⟩
    let t₀ : Transport Unit :=
      { endpoint := { Endpoint.new {} with registry := r }
        state := ()
        stream :=
          { reads := [.data (request.wire {}), quiet]
            writes := [.accept 3, .failure ⟨.interrupted, "again"⟩, busy, .accept 0, .accept 4,
              busy, busy, .failure ⟨.brokenPipe, "gone"⟩, .accept 2] } }
    let calls : List Call :=
      [.enqueue key [5, 6], .transmit, .request ⟨3, 4⟩, .transmit, .poll, .transmit]
    let frames : List Frame :=
      [{ component := 1, data := 2, payload := [5, 6] }, { seq := 1, component := 3, data := 4 },
        { seq := 2, component := 1, data := 2, payload := [7] }]
    let t := (run t₀ calls).transport
    t.stream.written.length = 7 ∧ t.pending.length = 3 ∧ t.endpoint.queue.size = 17 ∧
      t.stream.written ++ t.pending ++ t.endpoint.queue.bytes = Frame.wires {} frames ∧
      t.poll.2.pending = [] ∧ t.poll.2.endpoint.queue.bytes = [] := by
  intro key r request quiet busy t₀ calls frames t
  have htaken : (run t₀ calls).taken = frames := by decide +kernel
  have hwrites : t.stream.writes = [.accept 2] := by decide +kernel
  have hends : t.poll.1.isOk = true := by decide +kernel
  obtain ⟨hbytes, -, -, hpolls⟩ := outbound_conserved t₀ rfl calls
  rw [htaken] at hbytes
  refine ⟨by decide +kernel, by decide +kernel, by decide +kernel, hbytes, ?_⟩
  rcases hpoll : t.poll with ⟨err | report, after⟩
  · rw [hpoll] at hends
    cases hends
  · obtain ⟨used, hused, hnothing⟩ := hpolls report after hpoll
    refine hnothing fun a ha => ?_
    have hmem : a ∈ t.stream.writes := hused ▸ List.mem_append_left _ ha
    rw [hwrites] at hmem
    rw [List.mem_singleton.1 hmem]
    rfl

end Traffic

end ServoLink
