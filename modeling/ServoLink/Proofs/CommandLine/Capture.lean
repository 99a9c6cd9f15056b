import ServoLink.CommandLine.Decode
import ServoLink.Proofs.Link.Polling

/-!
# A capture and a live link

The scan of a capture feeds an endpoint as much at a time as it has room for, a link on a
stream at most one read. Both are feedings of the same stream, and at rest an endpoint
shows the stream and not how it was fed. So the counters that the scan ends with are those
that a link shows when its stream has yielded the same bytes
(`Endpoint.scan_agrees_with_link`).

`Endpoint.scan` ends early where there is no room, to be a total function. The loop that it
stands for does not: it pushes pieces until nothing is left, and would go on for ever with
a full buffer. `Endpoint.Scans` is that loop. It comes to its end on every capture, since
after a parse pass there is room again.
-/

namespace ServoLink

open Registry

namespace Endpoint

variable {e e' : Endpoint (List Frame)} {e₀ : Endpoint (List Frame)} {s₀ found found' : List Frame}
  {seen capture : Bytes} {pieces : List Bytes}

/-! ## The loop of the scan -/

/-- **The loop of the scan**, with the pieces it pushes: while bytes are left, as many as
there is room for are pushed, and parsed. -/
inductive Scans : Endpoint (List Frame) → List Frame → Bytes → List Bytes →
    Endpoint (List Frame) → List Frame → Prop
  /-- Nothing is left. -/
  | done {e : Endpoint (List Frame)} {found : List Frame} : Scans e found [] [] e found
  /-- One more piece was taken in. -/
  | piece {e pushed e' : Endpoint (List Frame)} {found found' : List Frame} {capture : Bytes}
      {pieces : List Bytes} (hmore : capture ≠ [])
      (hpush : e.push (capture.take e.sync.room) = (.ok (), pushed))
      (hrest : Scans (pushed.parse found).2.1 (pushed.parse found).2.2
        (capture.drop e.sync.room) pieces e' found') :
      Scans e found capture (capture.take e.sync.room :: pieces) e' found'

/-- **Every byte is pushed once**, and in order. -/
theorem Scans.flatten (h : Scans e found capture pieces e' found') : pieces.flatten = capture := by
  induction h with
  | done => rfl
  | piece _ _ _ ih => rw [List.flatten_cons, ih, List.take_append_drop]

/-- The scan pushes a piece like the loop, where there is room. -/
theorem scan_piece {pushed : Endpoint (List Frame)} (hmore : capture ≠ [])
    (hroom : 0 < e.sync.room) (hpush : e.push (capture.take e.sync.room) = (.ok (), pushed)) :
    e.scan found capture
      = (pushed.parse found).2.1.scan (pushed.parse found).2.2 (capture.drop e.sync.room) := by
  have hgoes : ¬ (capture.isEmpty || e.sync.room == 0) = true := by
    simp [hmore, Nat.ne_of_gt hroom]
  rw [scan, dif_neg hgoes, hpush]

/-- **At rest the scan comes to its end**, and at rest, if no callback raises a fault. -/
theorem Rested.scan (h : Rested e₀ s₀ seen e found)
    (hquiet : Quiet e₀.registry.slot e₀.tap) (capture : Bytes) :
    ∃ pieces e' found', e.scan found capture = .ok (e', found') ∧
      Scans e found capture pieces e' found' ∧ Rested e₀ s₀ (seen ++ capture) e' found' := by
  induction hlength : capture.length using Nat.strongRecOn generalizing e found seen capture with
  | ind n ih =>
    by_cases hmore : capture = []
    · obtain rfl := hmore
      refine ⟨[], e, found, ?_, .done, ?_⟩
      · rw [Endpoint.scan]
        rfl
      · rwa [List.append_nil]
    · -- there is room, so a piece is taken in and fewer bytes are left
      have hroom := h.room_pos
      obtain ⟨hpush, hfed⟩ := h.push (List.length_take_le e.sync.room capture)
      have hshorter : (capture.drop e.sync.room).length < n := by
        rw [List.length_drop, ← hlength]
        exact Nat.sub_lt (List.length_pos_iff.2 hmore) hroom
      obtain ⟨-, hrested⟩ := hfed.parse hquiet
      obtain ⟨pieces, e', found', hscan, hscans, hend⟩ := ih _ hshorter hrested _ rfl
      have hpushed : e.push (capture.take e.sync.room)
          = (.ok (), (e.push (capture.take e.sync.room)).2) := Prod.ext hpush rfl
      refine ⟨_, e', found', ?_, .piece hmore hpushed hscans, ?_⟩
      · rw [scan_piece hmore hroom hpushed]
        exact hscan
      · rwa [List.append_assoc, List.take_append_drop] at hend

/-! ## The endpoint that keeps every frame -/

/-- It takes every frame. -/
theorem deliver_collecting (config : LinkConfig) (f : Frame) (found : List Frame) :
    deliver ((collecting config).registry.slot f.key) f found = (.ok .delivered, f :: found) :=
  rfl

theorem quiet_collecting (config : LinkConfig) :
    Quiet (collecting config).registry.slot (collecting config).tap where
  handlers f s := ⟨.delivered, congrArg Prod.fst (deliver_collecting config f s)⟩
  tap _ h := by cases h

/-- The frames that had their turns are kept, newest first. -/
theorem found_of_acted {config : LinkConfig} {turns : List (Turn (List Frame))}
    (h : Acted (collecting config).registry.slot none found turns found') :
    found' = (turns.map (·.frame)).reverse ++ found := by
  induction h with
  | nil => rfl
  | cons t n _ ih =>
    have hafter : after (collecting config).registry.slot none n t = t.frame :: t.state := by
      unfold after
      rw [deliver_collecting]
    rw [ih, hafter, List.map_cons, List.reverse_cons, List.append_assoc]
    rfl

/-- **What it has kept at rest** are the frames of the stream, and each counts as
handled. -/
theorem Rested.collected {config : LinkConfig}
    (h : Rested (collecting config) [] capture e found) :
    found.reverse = (Scan.run config.frame capture).frames ∧
      e.counters.success = Counter.bump 0 found.length ∧ e.counters.decodeErrors = 0 := by
  obtain ⟨events, turns, hattended, -, -, hframes, -⟩ := h.attended
  have hfound := found_of_acted hattended.acted
  have houtcome : ∀ t : Turn (List Frame),
      outcome (collecting config).registry.slot t = .ok .delivered :=
    fun t => congrArg Prod.fst (deliver_collecting config t.frame t.state)
  rw [List.append_nil] at hfound
  rw [hfound]
  refine ⟨?_, ?_, ?_⟩
  · rw [List.reverse_reverse, hattended.frames]
    exact hframes.symm
  · rw [hattended.success, List.length_reverse, List.length_map,
      List.countP_eq_length.2 fun t _ => congrArg handled (houtcome t)]
  · rw [hattended.decodeErrors,
      List.countP_eq_zero.2 fun t _ => ne_of_eq_of_ne (congrArg failed (houtcome t)) nofun]
    rfl

/-! ## The two compared -/

/-- **An endpoint has the same books as a scan** that found so many frames: what it still
holds and its counters are the same, but that some of the frames may have failed. -/
structure Agrees (e : Endpoint (List Frame)) (count : Nat) {σ : Type} (e' : Endpoint σ) :
    Prop where
  transportErrors : e'.counters.transportErrors = e.counters.transportErrors
  sequenceGaps : e'.counters.sequenceGaps = e.counters.sequenceGaps
  bytesReceived : e'.counters.bytesReceived = e.counters.bytesReceived
  buffer : e'.sync.buffer = e.sync.buffer
  outcomes : ∃ delivered failed, delivered + failed = count ∧
    e'.counters.success = Counter.bump 0 delivered ∧
    e'.counters.decodeErrors = Counter.bump 0 failed
  counted : count ≤ Counter.limit →
    e'.counters.success.val + e'.counters.decodeErrors.val = count

/-- What shows the same stream agrees. -/
theorem Shows.agrees {σ : Type} {c : FrameConfig} {e' : Endpoint σ} (h : Shows c capture e)
    (h' : Shows c capture e') : Agrees e (Scan.run c capture).frames.length e' where
  transportErrors := h'.transportErrors.trans h.transportErrors.symm
  sequenceGaps := h'.sequenceGaps.trans h.sequenceGaps.symm
  bytesReceived := h'.bytesReceived.trans h.bytesReceived.symm
  buffer := h'.rest.trans h.rest.symm
  outcomes := h'.outcomes
  counted hroom := by
    obtain ⟨delivered, failed, hsum, hsuccess, hfailed⟩ := h'.outcomes
    rw [← hsum] at hroom ⊢
    rw [hsuccess, hfailed, Counter.val_bump_zero (Nat.le_trans (Nat.le_add_right _ _) hroom),
      Counter.val_bump_zero (Nat.le_trans (Nat.le_add_left _ _) hroom)]

/-- **The scan of a capture reports what a live link would.**

The loop of the scan comes to its end on every capture. Each of its pushes is taken, and
together they push every byte once. It returns the frames of the capture, one for each
success, and counts no failure and no overflow.

On a stream that yields the same bytes, a fresh link with the same settings can be polled
until the stream is at its end, whatever its callbacks do, as long as they raise no fault.
By then it has the same books: the same runs of garbage, gaps and bytes received, the same
bytes still held, and as many frames handled or failed as the scan has found.

And a read of any link in any state overflows nothing and drops nothing: what has left the
stream is in the receive buffer. -/
theorem scan_agrees_with_link (config : LinkConfig) (capture : Bytes) :
    (∃ pieces e found,
      (collecting config).scan [] capture = .ok (e, found) ∧
      Scans (collecting config) [] capture pieces e found ∧ pieces.flatten = capture ∧
      found.reverse = (Scan.run config.frame capture).frames ∧
      e.counters.bytesReceived = Counter.bump 0 capture.length ∧
      e.counters.success = Counter.bump 0 found.length ∧
      e.counters.decodeErrors = 0 ∧ e.counters.receiveOverflow = 0 ∧
      ∀ (σ : Type) (registry : Registry σ) (tap : Option (Tap σ)) (s : σ) (stream : Stream),
        Quiet registry.slot tap → stream.Willing → stream.inbound = capture →
        let t : Transport σ :=
          { endpoint := { (Endpoint.new config : Endpoint σ) with registry, tap },
            state := s, stream }
        ∃ n, (∀ i < n, ∃ report, (Transport.polled^[i] t).poll.1 = .ok report) ∧
          (Transport.polled^[n] t).poll.1 = .error (.link .closed) ∧
          Agrees e found.length (Transport.polled^[n + 1] t).endpoint) ∧
    ∀ (σ : Type) (t : Transport σ),
      (∀ needed room, t.receive.1 ≠ .error (.receiveOverflow needed room)) ∧
        t.receive.2.endpoint.counters.receiveOverflow
          = t.endpoint.counters.receiveOverflow ∧
        t.receive.2.endpoint.sync.buffer ++ t.receive.2.stream.inbound
          = t.endpoint.sync.buffer ++ t.stream.inbound := by
  refine ⟨?_, fun σ t => t.receive_keeps⟩
  have hstart : Rested (collecting config) [] [] (collecting config) [] :=
    rested_fresh config _ _ []
  obtain ⟨pieces, e, found, hscan, hscans, hrested⟩ := hstart.scan (quiet_collecting config) capture
  rw [List.nil_append] at hrested
  have hshows : Shows config.frame capture e := hrested.shows (quiet_collecting config)
  obtain ⟨hfound, hsuccess, hfailed⟩ := hrested.collected
  refine ⟨pieces, e, found, hscan, hscans, hscans.flatten, hfound, hshows.bytesReceived, hsuccess,
    hfailed, hshows.receiveOverflow, ?_⟩
  intro σ registry tap s stream hquiet hwilling hcapture t
  have hlive : Transport.Live t.endpoint s capture t :=
    ⟨hwilling, [], rested_fresh config registry tap s, hcapture⟩
  obtain ⟨n, hbefore, hended, hend⟩ := hlive.polled_to_end hquiet
  have hcount : (Scan.run config.frame capture).frames.length = found.length := by
    rw [← hfound, List.length_reverse]
  refine ⟨n, hbefore, hended, ?_⟩
  rw [← hcount]
  exact hshows.agrees (hend.shows hquiet)

/-- The two at work on noise, two frames with a gap between them and the beginning of a
third, which the link reads in pieces, with an interruption and two pauses. It takes the
frames of one key and fails the other. -/
theorem scan_agrees_with_link_paused :
    let f : Frame := { component := 1, data := 2, payload := [7] }
    let g : Frame := { seq := 3, component := 3, data := 4 }
    let capture : Bytes := 9 :: f.wire {} ++ g.wire {} ++ [syncByte, 0]
    let registry : Registry Unit := Registry.registerWildcard {} f.key
    let stream : Stream :=
      { reads := [.data (capture.take 4), .failure ⟨.interrupted, ""⟩, .data (capture.drop 4),
          .failure ⟨.wouldBlock, ""⟩, .failure ⟨.timedOut, ""⟩]
        writes := [.accept 1] }
    let t : Transport Unit :=
      { endpoint := { (Endpoint.new {} : Endpoint Unit) with registry }, state := (), stream }
    Quiet registry.slot none ∧ stream.Willing ∧ stream.inbound = capture ∧
      ∃ e n, (collecting {}).scan [] capture = .ok (e, [g, f]) ∧
        (Transport.polled^[n] t).poll.1 = .error (.link .closed) ∧
        Agrees e 2 (Transport.polled^[n + 1] t).endpoint := by
  intro f g capture registry stream t
  have hquiet : Quiet registry.slot none := by
    refine ⟨fun h s => ?_, nofun⟩
    show ∃ d, (deliver (if h.key = f.key then .wildcard else .empty) h s).1 = .ok d
    split <;> exact ⟨_, rfl⟩
  have hwilling : stream.Willing := by
    refine ⟨fun a ha => ?_, fun a ha => ?_, nofun⟩
    · simp only [stream, List.mem_cons, List.not_mem_nil, or_false] at ha
      rcases ha with rfl | rfl | rfl | rfl | rfl
      · show capture.take 4 ≠ []
        decide +kernel
      · exact .inl rfl
      · show capture.drop 4 ≠ []
        decide +kernel
      · exact .inr rfl
      · exact .inr rfl
    · exact ⟨0, List.mem_singleton.1 ha⟩
  have hinbound : stream.inbound = capture := by decide +kernel
  obtain ⟨⟨pieces, e, found, hscan, -, -, hfound, -, -, -, -, hlink⟩, -⟩ :=
    scan_agrees_with_link {} capture
  obtain ⟨n, -, hended, hagrees⟩ := hlink Unit registry none () stream hquiet hwilling hinbound
  have hframes : (Scan.run {} capture).frames = [f, g] := by decide +kernel
  obtain rfl : found = [g, f] := by
    rw [← List.reverse_reverse found, show found.reverse = _ from hfound,
      show (Scan.run (LinkConfig.frame {}) capture).frames = _ from hframes]
    rfl
  exact ⟨hquiet, hwilling, hinbound, e, n, hscan, hended, hagrees⟩

end Endpoint

end ServoLink
