import ServoLink.Proofs.Link.Pass

/-!
# What a receiving endpoint makes of a stream

A `Reception` is a history of pushes and parse passes of one endpoint. If every
frame that a scan finds in the bytes taken in has a slot that accepts it, then
after a last parse pass the endpoint stands as if exactly those frames had been
routed, once each and in order, and its counters are what the scan says
(`Reception.run_served`). How the bytes were cut into pushes, and when they were
parsed, does not show.
-/

namespace ServoLink

variable {σ : Type}

/-- **A slot that takes every frame of its key**: a wildcard, or a handler of
raw frames that raises no fault and answers no read requests. -/
inductive Slot.Accepts : Slot σ → Prop
  | wildcard : Accepts .wildcard
  | raw {receive : Frame → σ → Option Fault × σ} (h : ∀ f s, (receive f s).1 = none) :
      Accepts (.handler (.raw receive))

namespace Registry

/-- Route frames one after the other. -/
def dispatchAll (r : Registry σ) (s : σ) (frames : List Frame) : Registry σ × σ :=
  frames.foldl (fun p f => (p.1.dispatch f p.2).2) (r, s)

/-- A registry that lists every frame routed. -/
def recording : Registry (List Frame) :=
  registerAll {} (.raw fun f log => (none, log ++ [f]))

/-- **Routing frames one by one routes each of them once**, in order. -/
theorem dispatchAll_recording (frames : List Frame) :
    (recording.dispatchAll [] frames).2 = frames := by
  -- hits are counted along the way, but what is registered stays
  have hlist : ∀ (hitCounts : HitCounts) (log : List Frame),
      (dispatchAll { recording with hitCounts } log frames).2 = log ++ frames := by
    induction frames with
    | nil => exact fun _ log => (List.append_nil log).symm
    | cons f frames ih =>
      intro hitCounts log
      have hdispatch : dispatch { recording with hitCounts } f log
          = (.ok .delivered, { recording with hitCounts := hitCounts.bump f.key }, log ++ [f]) :=
        rfl
      show (dispatchAll (dispatch { recording with hitCounts } f log).2.1
        (dispatch { recording with hitCounts } f log).2.2 frames).2 = _
      rw [hdispatch]
      exact (ih _ (log ++ [f])).trans (List.append_assoc log [f] frames)
  exact hlist {} []

/-- Behind a registry that lists them, the frames routed are the state. -/
theorem state_of_recording {r : Registry (List Frame)} {log frames : List Frame}
    (h : (r, log) = recording.dispatchAll [] frames) : log = frames := by
  have hlog : log = (recording.dispatchAll [] frames).2 := congrArg Prod.snd h
  rw [hlog, dispatchAll_recording]

/-- A frame with a slot that accepts it counts as handled. -/
theorem dispatch_of_accepts (r : Registry σ) (f : Frame) (s : σ)
    (h : (r.slot f.key).Accepts) :
    (r.dispatch f s).1 = .ok .accepted ∨ (r.dispatch f s).1 = .ok .delivered := by
  unfold dispatch
  generalize r.slot f.key = slot at h
  cases h with
  | wildcard => exact .inl rfl
  | @raw receive h =>
    have hdeliver : deliver (.handler (.raw receive)) f s
        = (.ok .delivered, (receive f s).2) := by
      have hreceive : receive f s = (none, (receive f s).2) := Prod.ext (h f s) rfl
      simp only [deliver, Handler.raw]
      rw [hreceive]
      rfl
    rw [hdeliver]
    exact .inr rfl

end Registry

namespace Endpoint

/-! ## Sequence numbers -/

/-- How many numbers lie between the number expected and the one received. -/
def skipped (last : Option UInt8) (seq : UInt8) : Nat :=
  match last with
  | none => 0
  | some last => (seq - (last + 1)).toNat

/-- A number so far ahead of the one expected skips as many, but for whole rounds. -/
theorem skipped_ahead (last : UInt8) (ahead : Nat) :
    skipped (some last) (last + 1 + UInt8.ofNat ahead) = ahead % 256 := by
  show (last + 1 + UInt8.ofNat ahead - (last + 1)).toNat = _
  rw [UInt8.add_comm, UInt8.add_sub_cancel]
  exact UInt8.toNat_ofNat'

/-- The number of the last of some frames, and how many numbers were skipped
on the way. -/
def tally (frames : List Frame) : Option UInt8 × Nat :=
  frames.foldl (fun t f => (some f.seq, t.2 + skipped t.1 f.seq)) (none, 0)

theorem tally_concat (frames : List Frame) (f : Frame) :
    tally (frames ++ [f])
      = (some f.seq, (tally frames).2 + skipped (tally frames).1 f.seq) := by
  unfold tally
  rw [List.foldl_append]
  rfl

/-! ## Frames that are accepted -/

/-- **An endpoint that has served** some frames, all of them accepted, and met
some runs of garbage: its registry and its state are as if the frames had been
routed one by one, and its counters say so. -/
structure Served (r : Registry σ) (s₀ : σ) (frames : List Frame) (runs : Nat)
    (e : Endpoint σ) (s : σ) : Prop where
  dispatched : (e.registry, s) = r.dispatchAll s₀ frames
  success : e.counters.success = Counter.bump 0 frames.length
  decodeErrors : e.counters.decodeErrors = 0
  transportErrors : e.counters.transportErrors = Counter.bump 0 runs
  last : e.lastReceived = (tally frames).1
  sequenceGaps : e.counters.sequenceGaps = Counter.bump 0 (tally frames).2

variable {r : Registry σ} {s₀ s : σ} {frames : List Frame} {runs : Nat} {e : Endpoint σ}

/-- An accepted frame is routed and counted, and nothing else happens. -/
theorem dispatch_of_accepts (e : Endpoint σ) (f : Frame) (report : ParseReport) (s : σ)
    (htap : e.tap = none) (h : (e.registry.slot f.key).Accepts) :
    e.dispatch f report s
      = (.ok { report with delivered := report.delivered + 1 },
          { e with registry := (e.registry.dispatch f s).2.1 }.countSuccess,
          (e.registry.dispatch f s).2.2) := by
  have hout := e.registry.dispatch_of_accepts f s h
  obtain ⟨outcome, registry, s', hr⟩ : ∃ outcome registry s',
      e.registry.dispatch f s = (outcome, registry, s') := ⟨_, _, _, rfl⟩
  rw [hr] at hout
  unfold dispatch
  rw [hr]
  rcases hout with rfl | rfl <;> simp only [settle, countSuccess, count, htap]

theorem handle_of_accepts (e : Endpoint σ) (report : ParseReport) (s : σ) (f : Frame)
    (htap : e.tap = none) (h : (e.registry.slot f.key).Accepts) :
    e.handle report s (.frame f)
      = (.ok { report with frames := report.frames + 1, delivered := report.delivered + 1 },
          { e.noteSequence f.seq with registry := (e.registry.dispatch f s).2.1 }.countSuccess,
          (e.registry.dispatch f s).2.2) :=
  (e.noteSequence f.seq).dispatch_of_accepts f _ s htap h

/-- One more accepted frame is one more frame served. -/
theorem Served.frame (h : Served r s₀ frames runs e s) (report : ParseReport) (f : Frame)
    (htap : e.tap = none) (ha : (e.registry.slot f.key).Accepts) :
    Served r s₀ (frames ++ [f]) runs (e.handle report s (.frame f)).2.1
      (e.handle report s (.frame f)).2.2 := by
  rw [e.handle_of_accepts report s f htap ha]
  refine ⟨?_, ?_, h.decodeErrors, h.transportErrors, ?_, ?_⟩
  · unfold Registry.dispatchAll
    rw [List.foldl_append]
    show (_, _) = ((r.dispatchAll s₀ frames).1.dispatch f (r.dispatchAll s₀ frames).2).2
    rw [← h.dispatched]
    rfl
  · show e.counters.success.bump 1 = _
    rw [h.success, Counter.bump_bump, List.length_append]
    rfl
  · rw [tally_concat]
    rfl
  · show e.counters.sequenceGaps.bump (skipped e.lastReceived f.seq) = _
    rw [h.sequenceGaps, h.last, Counter.bump_bump, tally_concat]

/-- A drop serves no frame, and is counted if it opens a run. -/
theorem Served.drop (h : Served r s₀ frames runs e s) (report : ParseReport) (bytes : Nat)
    (reason : DiscardReason) (newRun : Bool) :
    Served r s₀ frames (runs + if newRun then 1 else 0)
      (e.handle report s (.discarded bytes reason newRun)).2.1
      (e.handle report s (.discarded bytes reason newRun)).2.2 := by
  cases newRun with
  | false => exact h
  | true =>
    refine ⟨h.dispatched, h.success, h.decodeErrors, ?_, h.last, h.sequenceGaps⟩
    show e.counters.transportErrors.bump 1 = _
    rw [h.transportErrors, Counter.bump_bump]
    rfl

/-- What holds throughout a reception: registrations stay, and as long as every
frame found is accepted, the endpoint has served the frames found. -/
def ServedSoFar (r : Registry σ) (s₀ : σ) (events : List SyncEvent) (e : Endpoint σ) (s : σ) :
    Prop :=
  e.tap = none ∧ e.registry.slot = r.slot ∧
    ((∀ f ∈ Synchronizer.frames events, (r.slot f.key).Accepts) →
      Served r s₀ (Synchronizer.frames events) (Synchronizer.newRuns events) e s)

/-- Pushes and reports keep it so. -/
theorem kept_servedSoFar (r : Registry σ) (s₀ : σ) : Kept (ServedSoFar r s₀) where
  onSync := by
    rintro events e s sync ⟨htap, hslot, hserved⟩
    exact ⟨htap, hslot, fun ha => { hserved ha with }⟩
  onPush := by
    rintro events e s data ⟨htap, hslot, hserved⟩
    unfold push
    -- neither the bytes taken in nor those refused are among the counts of `Served`
    split
    · exact ⟨htap, hslot, fun ha => { hserved ha with }⟩
    · exact ⟨htap, hslot, fun ha => { hserved ha with }⟩
  onHandle := by
    rintro events e s report event ⟨htap, hslot, hserved⟩
    obtain ⟨-, hslot', htap'⟩ := e.handle_frame report s event
    refine ⟨htap'.trans htap, hslot'.trans hslot, fun ha => ?_⟩
    rw [Synchronizer.frames_append, Synchronizer.newRuns_append] at *
    have hbefore := hserved fun f hf => ha f (List.mem_append_left _ hf)
    cases event with
    | frame f =>
      refine hbefore.frame report f htap ?_
      rw [hslot]
      exact ha f (List.mem_append_right _ (List.mem_singleton_self f))
    | discarded bytes reason newRun =>
      have hdrop := hbefore.drop report bytes reason newRun
      rw [show Synchronizer.frames [.discarded bytes reason newRun] = [] from rfl,
        List.append_nil]
      cases newRun <;> exact hdrop

/-- **A pass over accepted frames meets no fault.** -/
theorem Pass.ok_of_accepts {e' : Endpoint σ} {report : ParseReport} {s' : σ}
    {events : List SyncEvent} {answer : Except Fault ParseReport}
    (h : Pass e report s events answer e' s') (htap : e.tap = none)
    (ha : ∀ f ∈ Synchronizer.frames events, (e.registry.slot f.key).Accepts) :
    ∃ report', answer = .ok report' := by
  induction h with
  | rest hp => exact ⟨_, rfl⟩
  | @fault e _ report s _ event sync _ hp hh =>
    cases event with
    | discarded bytes reason newRun => cases newRun <;> simp [handle] at hh
    | frame f =>
      rw [handle_of_accepts { e with sync } report s f htap (ha f (List.mem_singleton_self f))]
        at hh
      simp at hh
  | next hp hh _ ih =>
    obtain ⟨hslot, htap'⟩ := set_of_handle hh
    refine ih (htap'.trans htap) fun f hf => ?_
    rw [hslot]
    refine ha f ?_
    rw [← List.singleton_append, Synchronizer.frames_append]
    exact List.mem_append_right _ hf

/-! ## Receptions -/

/-- What is done to a receiving endpoint. -/
inductive Reception.Move where
  /-- Received bytes are pushed. -/
  | push (data : Bytes)
  /-- The buffer is parsed. -/
  | parse

/-- A history of pushes and parse passes. -/
structure Reception (σ : Type) where
  /-- The endpoint as it is now. -/
  endpoint : Endpoint σ
  /-- What its handlers act on. -/
  state : σ
  /-- The bytes of all pushes that were taken, in order. -/
  accepted : Bytes := []

namespace Reception

/-- One move. A pass that ends at a fault leaves the rest for the next. -/
def step (t : Reception σ) : Move → Reception σ
  | .push data =>
    match t.endpoint.push data with
    | (.ok (), endpoint) => { t with endpoint, accepted := t.accepted ++ data }
    | (.error _, endpoint) => { t with endpoint }
  | .parse =>
    { t with
      endpoint := (t.endpoint.parse t.state).2.1
      state := (t.endpoint.parse t.state).2.2 }

/-- A history of moves with a fresh endpoint that has these registrations. -/
def run (config : LinkConfig) (registry : Registry σ) (state : σ) (moves : List Move) :
    Reception σ :=
  moves.foldl step { endpoint := { Endpoint.new config with registry }, state }

variable {c : FrameConfig} {t : Reception σ} {events : List SyncEvent}
  {P : List SyncEvent → Endpoint σ → σ → Prop}

/-- One move keeps what is kept. -/
theorem step_kept (hP : Kept P) (hr : t.endpoint.sync.Reads c t.accepted events)
    (hk : P events t.endpoint t.state) (move : Move) :
    ∃ events', (t.step move).endpoint.sync.Reads c (t.step move).accepted events' ∧
      P events' (t.step move).endpoint (t.step move).state := by
  cases move with
  | parse =>
    obtain ⟨later, hpass⟩ := t.endpoint.exists_pass {} t.state
    exact ⟨events ++ later, hpass.kept hP hr hk⟩
  | push data =>
    have hpush := hP.onPush data hk
    refine ⟨events, ?_⟩
    rcases h : t.endpoint.push data with ⟨err | _, endpoint⟩
    · rw [h] at hpush
      rw [← push_of_error h] at hr
      simp only [step, h]
      exact ⟨hr, hpush⟩
    · rw [h] at hpush
      simp only [step, h]
      exact ⟨hr.push (push_of_ok h), hpush⟩

/-- **A history keeps what is kept**, for the list of all reports handled, and
those reports agree with a scan of the bytes taken in. -/
theorem foldl_step_kept (hP : Kept P) (hr : t.endpoint.sync.Reads c t.accepted events)
    (hk : P events t.endpoint t.state) (moves : List Move) :
    ∃ events', (moves.foldl step t).endpoint.sync.Reads c (moves.foldl step t).accepted events' ∧
      P events' (moves.foldl step t).endpoint (moves.foldl step t).state := by
  induction moves generalizing t events with
  | nil => exact ⟨events, hr, hk⟩
  | cons move moves ih =>
    obtain ⟨events', hr', hk'⟩ := step_kept hP hr hk move
    exact ih hr' hk'

/-- A last parse pass serves what a scan finds, if it is all accepted. -/
theorem parse_served {r : Registry σ} {s₀ : σ}
    (hr : t.endpoint.sync.Reads c t.accepted events)
    (hk : ServedSoFar r s₀ events t.endpoint t.state)
    (ha : ∀ f ∈ (Scan.run c t.accepted).frames, (r.slot f.key).Accepts) :
    Served r s₀ (Scan.run c t.accepted).frames (Scan.run c t.accepted).garbageRuns
        (t.step .parse).endpoint (t.step .parse).state ∧
      (t.step .parse).endpoint.sync.buffer = (Scan.run c t.accepted).rest := by
  obtain ⟨later, hpass⟩ := t.endpoint.exists_pass {} t.state
  obtain ⟨hr', htap', hslot', hserved⟩ := hpass.kept (kept_servedSoFar r s₀) hr hk
  have haccepts : ∀ f ∈ Synchronizer.frames (events ++ later), (r.slot f.key).Accepts :=
    fun f hf => ha f (hr'.mem_frames hf)
  -- accepted frames raise no fault, so the pass came to rest
  have hok : ∃ report, (t.endpoint.parseFrom {} t.state).1 = .ok report := by
    refine hpass.ok_of_accepts hk.1 fun f hf => ?_
    rw [hk.2.1]
    refine haccepts f ?_
    rw [Synchronizer.frames_append]
    exact List.mem_append_right _ hf
  obtain ⟨report, hreport⟩ := hok
  have hwaits := hpass.waits hr.aligned hreport
  rw [hr'.config] at hwaits
  have hscan := hr'.scan_of_none hwaits
  have hframes : (Scan.run c t.accepted).frames = Synchronizer.frames (events ++ later) := by
    rw [hscan, Scan.frames_eq, Synchronizer.frames_items]
  have hruns : (Scan.run c t.accepted).garbageRuns = Synchronizer.newRuns (events ++ later) := by
    rw [hscan, Scan.garbageRuns, hr'.runs]
  rw [hframes, hruns]
  refine ⟨hserved haccepts, ?_⟩
  rw [hscan]
  rfl

/-- **An endpoint serves what a scan finds.** If every frame that a scan finds
in the bytes taken in is accepted, then after a last parse pass exactly those
frames were routed, once each and in order, and the runs of garbage counted are
those of the scan, whose rest is still held. -/
theorem run_served (config : LinkConfig) (r : Registry σ) (s₀ : σ) (moves : List Move)
    (ha : ∀ f ∈ (Scan.run config.frame
        (run config r s₀ (moves ++ [.parse])).accepted).frames, (r.slot f.key).Accepts) :
    let t := run config r s₀ (moves ++ [.parse])
    let scan := Scan.run config.frame t.accepted
    Served r s₀ scan.frames scan.garbageRuns t.endpoint t.state ∧
      t.endpoint.sync.buffer = scan.rest := by
  unfold run at ha ⊢
  rw [List.foldl_append] at ha ⊢
  obtain ⟨events, hr, hk⟩ := foldl_step_kept (kept_servedSoFar r s₀)
    (t := { endpoint := { Endpoint.new config with registry := r }, state := s₀ })
    (Synchronizer.reads_new config.frame config.receiveLimit)
    ⟨rfl, rfl, fun _ => ⟨rfl, rfl, rfl, rfl, rfl, rfl⟩⟩ moves
  exact parse_served hr hk ha

end Reception

end Endpoint

end ServoLink
