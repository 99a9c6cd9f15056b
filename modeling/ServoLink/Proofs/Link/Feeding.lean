import ServoLink.Proofs.Link.Cuts
import ServoLink.Proofs.Link.Hearing

/-!
# What an endpoint makes of a stream it is fed

An endpoint is fed a stream in pieces, each of them as large as there is room for at
most, and parses after each piece. With callbacks that raise no fault every pass comes to
rest, and then there is room again (`Endpoint.Rested.room_pos`), so that any stream can be
fed in the end. What the endpoint shows of it depends on the stream alone, not on the
pieces, nor on what was sent in between, nor on the callbacks (`Endpoint.Rested.shows`):
all that the callbacks decide is which frames count as handled and which as failed.
-/

namespace ServoLink

open Registry

namespace Endpoint

variable {σ : Type} {e₀ e e' : Endpoint σ} {s₀ s s' : σ} {stream data : Bytes}
  {events : List SyncEvent} {report : ParseReport} {answer : Except Fault ParseReport}

/-! ## Callbacks that raise no fault -/

/-- **Callbacks that raise no fault**, the handlers and the tap, on whatever state. -/
structure Quiet (slot : Key → Slot σ) (tap : Option (Tap σ)) : Prop where
  handlers : ∀ f, Calm slot f
  tap : ∀ observe, tap = some observe → ∀ f d n s, (observe f d n s).1 = none

/-- With such callbacks a parse pass comes to rest. -/
theorem Pass.ok_of_quiet (h : Pass e report s events answer e' s')
    (hquiet : Quiet e.registry.slot e.tap) : ∃ report', answer = .ok report' := by
  rcases answer with fault | report'
  · obtain ⟨earlier, t, -, -, hcut⟩ := h.cut rfl
    cases hcut with
    | handler hdeliver =>
      obtain ⟨d, hd⟩ := hquiet.handlers t.frame t.state
      rw [hdeliver] at hd
      cases hd
    | @tap d s observe htap hdeliver hraised =>
      have hnone := hquiet.tap observe htap t.frame d e'.counters s
      rw [hraised] at hnone
      cases hnone
  · exact ⟨report', rfl⟩

/-! ## Turns taken -/

/-- **The frames of some reports have had their turns**, from a fresh endpoint on: the
callbacks have acted in each, and each was counted for what became of it. -/
structure Attended (e₀ : Endpoint σ) (s₀ : σ) (events : List SyncEvent) (turns : List (Turn σ))
    (e : Endpoint σ) (s : σ) : Prop where
  slots : e.registry.slot = e₀.registry.slot
  tap : e.tap = e₀.tap
  frames : turns.map (·.frame) = Synchronizer.frames events
  acted : Acted e₀.registry.slot e₀.tap s₀ turns s
  success : e.counters.success
    = Counter.bump 0 (turns.countP (handled <| outcome e₀.registry.slot ·))
  decodeErrors : e.counters.decodeErrors
    = Counter.bump 0 (turns.countP (failed <| outcome e₀.registry.slot ·))

/-- A report gives its frame one more turn. -/
theorem Attended.handle {turns : List (Turn σ)} (h : Attended e₀ s₀ events turns e s)
    (report : ParseReport) (event : SyncEvent) :
    Attended e₀ s₀ (events ++ [event]) (turns ++ Endpoint.turns s event)
      (e.handle report s event).2.1 (e.handle report s event).2.2 := by
  have hran := ran_handle e report s event
  have hacted := acted_handle e report s event
  rw [h.slots, h.tap] at hacted
  refine ⟨hran.slots.trans h.slots, hran.tap.trans h.tap, ?_, h.acted.append hacted, ?_, ?_⟩
  · rw [List.map_append, h.frames, frames_turns, Synchronizer.frames_append]
  · rw [hran.success, h.success, h.slots, Counter.bump_bump, List.countP_append]
  · rw [hran.decodeErrors, h.decodeErrors, h.slots, Counter.bump_bump, List.countP_append]

/-- Pushes and reports keep it so. -/
theorem kept_attended (e₀ : Endpoint σ) (s₀ : σ) :
    Kept fun events e s => ∃ turns, Attended e₀ s₀ events turns e s where
  onSync _ h := by
    obtain ⟨turns, h⟩ := h
    exact ⟨turns, { h with }⟩
  onPush data h := by
    obtain ⟨turns, h⟩ := h
    refine ⟨turns, ?_⟩
    unfold push
    split <;> exact { h with }
  onHandle := by
    rintro events e s report event ⟨turns, h⟩
    exact ⟨_, h.handle report event⟩

/-- Where no callback raises a fault, every turn is handled or fails. -/
theorem Attended.outcomes {turns : List (Turn σ)} (h : Attended e₀ s₀ events turns e s)
    (hquiet : Quiet e₀.registry.slot e₀.tap) :
    ∃ delivered failed, delivered + failed = (Synchronizer.frames events).length ∧
      e.counters.success = Counter.bump 0 delivered ∧
      e.counters.decodeErrors = Counter.bump 0 failed := by
  refine ⟨_, _, ?_, h.success, h.decodeErrors⟩
  have hnone : turns.countP (faulted e₀.registry.slot) = 0 := by
    refine List.countP_eq_zero.2 fun t _ hfaulted => ?_
    obtain ⟨d, hd⟩ := hquiet.handlers t.frame t.state
    unfold faulted outcome at hfaulted
    rw [hd] at hfaulted
    cases hfaulted
  have hlength : turns.length = (Synchronizer.frames events).length := by
    rw [← h.frames, List.length_map]
  have hall := countP_outcomes e₀.registry.slot turns
  rwa [hnone, Nat.add_zero, hlength] at hall

/-! ## Feeding -/

/-- Bytes that were pushed stay counted, and so do pushes that were refused. -/
theorem persists_pushed : Persists fun e e' : Endpoint σ =>
    e'.counters.bytesReceived = e.counters.bytesReceived ∧
      e'.counters.receiveOverflow = e.counters.receiveOverflow where
  refl _ := ⟨rfl, rfl⟩
  trans h h' := ⟨h'.1.trans h.1, h'.2.trans h.2⟩
  onSync _ _ := ⟨rfl, rfl⟩
  onRegistry _ _ _ := ⟨rfl, rfl⟩
  onSequence _ _ := ⟨rfl, rfl⟩
  onSuccess _ := ⟨rfl, rfl⟩
  onFailure _ := ⟨rfl, rfl⟩
  onGarbage _ := ⟨rfl, rfl⟩
  onEnqueue e f := by
    obtain ⟨_, _, _, _, hqueued⟩ := e.enqueueFrame_intake f
    rw [hqueued]
    exact ⟨rfl, rfl⟩

/-- **A fresh endpoint that was fed a stream**: it has taken in every byte and refused
none, what was reported agrees with a scan of the stream, and the frames among the reports
have had their turns. -/
structure Fed (e₀ : Endpoint σ) (s₀ : σ) (stream : Bytes) (e : Endpoint σ) (s : σ) : Prop where
  sound : e.sync.Sound e₀.config.frame e₀.sync.capacity
  wide : e₀.config.frame.maxFrameLength ≤ e₀.sync.capacity
  bytesReceived : e.counters.bytesReceived = Counter.bump 0 stream.length
  receiveOverflow : e.counters.receiveOverflow = 0
  heard : ∃ events turns, e.sync.Reads e₀.config.frame stream events ∧ Noted events e ∧
    Attended e₀ s₀ events turns e s

/-- **A fed endpoint at rest**: it holds the beginning of a frame, or nothing. -/
structure Rested (e₀ : Endpoint σ) (s₀ : σ) (stream : Bytes) (e : Endpoint σ) (s : σ) : Prop
    extends Fed e₀ s₀ stream e s where
  waits : Frame.decode e.sync.buffer e₀.config.frame = .ok none

/-- At the start it was fed nothing. -/
theorem rested_fresh (config : LinkConfig) (registry : Registry σ) (tap : Option (Tap σ))
    (s : σ) :
    let e : Endpoint σ := { (Endpoint.new config : Endpoint σ) with registry, tap }
    Rested e s [] e s where
  sound := Synchronizer.sound_new _ _
  wide := Nat.le_max_right _ _
  bytesReceived := rfl
  receiveOverflow := rfl
  heard := ⟨[], [], Synchronizer.reads_new _ _, ⟨rfl, rfl, rfl⟩, rfl, rfl, rfl, .nil s, rfl, rfl⟩
  waits := rfl

/-- **At rest there is room**, since the frame that was begun must fit in. -/
theorem Rested.room_pos (h : Rested e₀ s₀ stream e s) : 0 < e.sync.room := by
  have hshort : e.sync.buffer.length < e₀.config.frame.maxFrameLength := by
    rcases Frame.cases_of_decode_none h.waits with ⟨-, hpart⟩ | ⟨header, -, hlimit, hpart⟩
    · exact Nat.lt_of_lt_of_le hpart (Nat.le_add_right _ _)
    · exact Nat.lt_of_lt_of_le hpart (Nat.add_le_add_left hlimit _)
  unfold Synchronizer.room
  rw [h.sound.capacity]
  exact Nat.sub_pos_of_lt (Nat.lt_of_lt_of_le hshort h.wide)

/-- A piece that fits in is fed. -/
theorem Fed.push (h : Fed e₀ s₀ stream e s) (hfit : data.length ≤ e.sync.room) :
    (e.push data).1 = .ok () ∧ Fed e₀ s₀ (stream ++ data) (e.push data).2 s := by
  obtain ⟨events, turns, hreads, hnoted, hattended⟩ := h.heard
  have hpush := e.push_of_le_room data hfit
  have hsound := h.sound.push data
  rw [Synchronizer.push_of_le_room hfit] at hsound
  rw [hpush]
  refine ⟨rfl, hsound, h.wide, ?_, h.receiveOverflow, events, turns, hreads.append data,
    { hnoted with }, { hattended with }⟩
  show e.counters.bytesReceived.bump data.length = _
  rw [h.bytesReceived, Counter.bump_bump, List.length_append]

/-- **A parse pass brings it to rest**, if no callback raises a fault. -/
theorem Fed.parse (h : Fed e₀ s₀ stream e s) (hquiet : Quiet e₀.registry.slot e₀.tap) :
    (∃ report, (e.parse s).1 = .ok report) ∧
      Rested e₀ s₀ stream (e.parse s).2.1 (e.parse s).2.2 := by
  obtain ⟨events, turns, hreads, hnoted, hattended⟩ := h.heard
  obtain ⟨later, hpass⟩ := e.exists_pass {} s
  obtain ⟨report, hok⟩ := hpass.ok_of_quiet (by rwa [hattended.slots, hattended.tap])
  obtain ⟨hreads', hnoted'⟩ := hpass.kept kept_noted hreads hnoted
  obtain ⟨-, turns', hattended'⟩ := hpass.kept (kept_attended e₀ s₀) hreads ⟨turns, hattended⟩
  obtain ⟨hbytes, hrefused⟩ := persists_pushed.parse e s
  have hwaits := hpass.waits hreads.aligned hok
  rw [hreads'.config] at hwaits
  exact ⟨⟨report, hok⟩, ⟨hpass.sound h.sound, h.wide, hbytes.trans h.bytesReceived,
    hrefused.trans h.receiveOverflow, _, turns', hreads', hnoted', hattended'⟩, hwaits⟩

/-- What is handed out in between does not matter. -/
theorem Rested.drain (h : Rested e₀ s₀ stream e s) : Rested e₀ s₀ stream e.drain.2 s := by
  obtain ⟨⟨hsound, hwide, hbytes, hrefused, events, turns, hreads, hnoted, hattended⟩, hwaits⟩ := h
  exact ⟨⟨hsound, hwide, hbytes, hrefused, events, turns, hreads, { hnoted with },
    { hattended with }⟩, hwaits⟩

/-! ## What is shown -/

/-- **What an endpoint shows of a stream**: the bytes that may still become a frame, and
the counters of its receive side. -/
structure Shows (c : FrameConfig) (stream : Bytes) (e : Endpoint σ) : Prop where
  rest : e.sync.buffer = (Scan.run c stream).rest
  bytesReceived : e.counters.bytesReceived = Counter.bump 0 stream.length
  receiveOverflow : e.counters.receiveOverflow = 0
  transportErrors : e.counters.transportErrors = Counter.bump 0 (Scan.run c stream).garbageRuns
  sequenceGaps : e.counters.sequenceGaps = Counter.bump 0 (tally (Scan.run c stream).frames).2
  outcomes : ∃ delivered failed, delivered + failed = (Scan.run c stream).frames.length ∧
    e.counters.success = Counter.bump 0 delivered ∧
    e.counters.decodeErrors = Counter.bump 0 failed

/-- At rest the frames that have had their turns are those of the stream. -/
theorem Rested.attended (h : Rested e₀ s₀ stream e s) :
    ∃ events turns, Attended e₀ s₀ events turns e s ∧ Noted events e ∧
      Scan.run e₀.config.frame stream
        = { items := Synchronizer.items events, rest := e.sync.buffer } ∧
      (Scan.run e₀.config.frame stream).frames = Synchronizer.frames events ∧
      (Scan.run e₀.config.frame stream).garbageRuns = Synchronizer.newRuns events := by
  obtain ⟨events, turns, hreads, hnoted, hattended⟩ := h.heard
  have hscan := hreads.scan_of_none h.waits
  refine ⟨events, turns, hattended, hnoted, hscan, ?_, ?_⟩
  · rw [hscan, Scan.frames_eq, Synchronizer.frames_items]
  · rw [hscan, Scan.garbageRuns, hreads.runs]

/-- **At rest an endpoint shows the stream** that it was fed. -/
theorem Rested.shows (h : Rested e₀ s₀ stream e s) (hquiet : Quiet e₀.registry.slot e₀.tap) :
    Shows e₀.config.frame stream e := by
  obtain ⟨events, turns, hattended, hnoted, hscan, hframes, hruns⟩ := h.attended
  refine ⟨?_, h.bytesReceived, h.receiveOverflow, ?_, ?_, ?_⟩
  · rw [hscan]
  · rw [hruns, hnoted.transportErrors]
  · rw [hframes, hnoted.sequenceGaps]
  · rw [hframes]
    exact hattended.outcomes hquiet

end Endpoint

end ServoLink
