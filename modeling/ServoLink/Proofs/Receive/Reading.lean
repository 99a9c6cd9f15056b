import ServoLink.Proofs.Receive.Scan
import ServoLink.Receive.Synchronizer

/-!
# What the synchronizer reads

The synchronizer remembers how far it has looked: that a sync byte stands at
the front, or that a header was read and how long its frame is. `Aligned` says
that what it remembers is still true of its buffer. From an aligned state a poll
does one of three things, which `Step` lists: it waits because bytes are
missing, it takes the frame at the front, or it drops bytes none of which starts
a frame. That is all that is ever used of `poll`.

`Reads` compares the reports made so far with a scan of every byte taken in so
far: the scan finds what was reported, and goes on with what is in the buffer.
Pushing and polling keep it so, in any order, since a scan may be had in parts.
-/

namespace ServoLink

namespace SyncEvent

/-- What a scan calls the event. -/
def items : SyncEvent → List ScanItem
  | .frame f => [.frame f]
  | .discarded bytes .. => List.replicate bytes .dropped

/-- The frame reported, if it is one. -/
def frame? : SyncEvent → Option Frame
  | .frame f => some f
  | .discarded .. => none

/-- The number of bytes reported as dropped. -/
def dropped : SyncEvent → Nat
  | .frame _ => 0
  | .discarded bytes .. => bytes

/-- Whether the report opens a run of garbage. -/
def opensRun : SyncEvent → Bool
  | .frame _ => false
  | .discarded _ _ newRun => newRun

end SyncEvent

namespace Synchronizer

variable {s s' : Synchronizer} {c : FrameConfig} {stream : Bytes} {events : List SyncEvent}

/-! ## The reports of a run -/

/-- What a scan calls a list of events. -/
def items (events : List SyncEvent) : List ScanItem :=
  events.flatMap SyncEvent.items

/-- The frames reported, in order. -/
def frames (events : List SyncEvent) : List Frame :=
  events.filterMap SyncEvent.frame?

/-- The number of bytes reported as dropped. -/
def dropped : List SyncEvent → Nat
  | [] => 0
  | event :: events => event.dropped + dropped events

/-- The number of runs of garbage reported. -/
def newRuns (events : List SyncEvent) : Nat :=
  events.countP SyncEvent.opensRun

theorem items_append (front back : List SyncEvent) :
    items (front ++ back) = items front ++ items back :=
  List.flatMap_append

theorem frames_append (front back : List SyncEvent) :
    frames (front ++ back) = frames front ++ frames back :=
  List.filterMap_append

theorem newRuns_append (front back : List SyncEvent) :
    newRuns (front ++ back) = newRuns front + newRuns back :=
  List.countP_append

/-- A scan that finds the events finds their frames. -/
theorem frames_items (events : List SyncEvent) :
    (items events).filterMap Scan.frameOf? = frames events := by
  induction events with
  | nil => rfl
  | cons event events ih =>
    unfold items frames at ih ⊢
    rw [List.flatMap_cons, List.filterMap_append, ih]
    cases event with
    | frame f => rfl
    | discarded bytes reason newRun =>
      rw [List.filterMap_cons_none rfl, SyncEvent.items, List.filterMap_replicate_of_none rfl]
      rfl

/-- A scan that finds the events drops the bytes they drop. -/
theorem dropped_items (events : List SyncEvent) :
    (items events).count .dropped = dropped events := by
  induction events with
  | nil => rfl
  | cons event events ih =>
    show (event.items ++ items events).count .dropped = event.dropped + dropped events
    rw [List.count_append, ih]
    cases event with
    | frame f => rfl
    | discarded bytes reason newRun =>
      show (List.replicate bytes ScanItem.dropped).count .dropped + _ = bytes + _
      rw [List.count_replicate_self]

/-! ## Aligned states -/

/-- **What is remembered is true of the buffer**: a sync byte that was found
stands at the front, and an announced frame is announced by the header
there. -/
def Aligned (s : Synchronizer) : Prop :=
  match s.state with
  | .seekSync => True
  | .awaitHeader => s.buffer.head? = some syncByte
  | .awaitPayload n =>
    ∃ h, Header.parse s.buffer = .ok (some h) ∧ h.payloadLength ≤ s.config.payloadLimit ∧
      h.frameLength = n

/-- Bytes that are pushed go behind what is remembered. -/
theorem Aligned.append (h : s.Aligned) (data : Bytes) :
    Aligned { s with buffer := s.buffer ++ data } := by
  unfold Aligned at h ⊢
  cases hs : s.state with
  | seekSync => trivial
  | awaitHeader =>
    rw [hs] at h
    show (s.buffer ++ data).head? = some syncByte
    rw [List.head?_append, h]
    rfl
  | awaitPayload n =>
    rw [hs] at h
    obtain ⟨hd, hp, hlimit, hn⟩ := h
    refine ⟨hd, ?_, hlimit, hn⟩
    rw [Header.parse_append data (by simp [hp]), hp]

/-! ## One poll -/

/-- **What a poll can do.** -/
inductive Step (s : Synchronizer) : Option SyncEvent → Synchronizer → Prop
  /-- Wait: bytes are missing at the front. -/
  | wait (state : SyncState) (hd : Frame.decode s.buffer s.config = .ok none)
      (ha : Aligned { s with state }) : Step s none { s with state }
  /-- Take the frame at the front. -/
  | take {f : Frame} {n : Nat} (hd : Frame.decode s.buffer s.config = .ok (some (f, n))) :
      Step s (some (.frame f))
        { s with buffer := s.buffer.drop n, state := .seekSync, inGarbage := false }
  /-- Drop bytes none of which starts a frame. -/
  | drop {k : Nat} {reason : DiscardReason} {next : SyncState} (hk : 0 < k)
      (hd : ∀ i < k, ∃ e, Frame.decode (s.buffer.drop i) s.config = .error e)
      (ha : (s.discard k reason next).2.Aligned) :
      Step s (some (.discarded k reason (!s.inGarbage))) (s.discard k reason next).2

/-- Dropping one byte after which the search begins anew. -/
theorem Step.drop_one {reason : DiscardReason} {e : FrameError}
    (hd : Frame.decode s.buffer s.config = .error e) :
    Step s (some (.discarded 1 reason (!s.inGarbage))) (s.discard 1 reason .seekSync).2 := by
  refine .drop Nat.one_pos (fun i hi => ?_) trivial
  obtain rfl : i = 0 := by omega
  exact ⟨e, hd⟩

/-- With its header at the front, a frame is waited for, taken or given up. -/
theorem pollPayload_step {h : Header} (hp : Header.parse s.buffer = .ok (some h))
    (hlimit : h.payloadLength ≤ s.config.payloadLimit) :
    Step s (s.pollPayload h.frameLength).1 (s.pollPayload h.frameLength).2 := by
  unfold pollPayload
  by_cases hshort : s.buffer.length < h.frameLength
  · rw [if_pos hshort]
    exact .wait _ (Frame.decode_of_short hp hlimit hshort) ⟨h, hp, hlimit, rfl⟩
  · rw [if_neg hshort, Frame.decode_take hp (Nat.not_lt.1 hshort)]
    have hdecided := Frame.decode_ne_none (c := s.config) hp (Nat.not_lt.1 hshort)
    split
    · rename_i hd
      exact .take hd
    · rename_i hd
      exact absurd hd hdecided
    · rename_i hd
      exact .drop_one hd

/-- A header is read whatever stands at the front. -/
theorem pollHeader_step (hne : s.buffer.head? = some syncByte) :
    Step s s.pollHeader.1 s.pollHeader.2 := by
  unfold pollHeader
  split
  · rename_i hp
    exact .wait .awaitHeader (Frame.decode_of_parse_none hp) hne
  · rename_i h hp
    by_cases hbig : h.payloadLength > s.config.payloadLimit
    · rw [if_pos hbig]
      exact .drop_one (Frame.decode_of_oversized hp hbig)
    · rw [if_neg hbig]
      exact pollPayload_step hp (Nat.not_lt.1 hbig)
  · rename_i hp
    exact .drop_one (Frame.decode_of_parse_error hp)

/-- Everything before the first sync byte is dropped at once. -/
theorem pollSync_step (hs : s.state = .seekSync) : Step s s.pollSync.1 s.pollSync.2 := by
  unfold pollSync
  by_cases hempty : s.buffer = []
  · rw [if_pos (by simp [hempty])]
    have ha : s.Aligned := by
      unfold Aligned
      rw [hs]
      trivial
    exact .wait s.state (by rw [hempty]; rfl) ha
  · rw [if_neg (by simp [hempty])]
    have hpos := List.length_pos_iff.2 hempty
    split
    · rename_i hfind
      obtain ⟨hlt, hsync, -⟩ := List.findIdx?_eq_some_iff_getElem.1 hfind
      refine pollHeader_step ?_
      rw [List.head?_eq_getElem?, List.getElem?_eq_getElem hlt, eq_of_beq hsync]
    · rename_i offset hfind
      obtain ⟨hlt, hsync, hbefore⟩ := List.findIdx?_eq_some_iff_getElem.1 hfind
      refine .drop (Nat.succ_pos _) (fun i hi => ?_) ?_
      · exact Frame.decode_drop_of_ne (Nat.lt_trans hi hlt) fun h => hbefore i hi (by rw [h]; rfl)
      · show (s.buffer.drop (offset + 1)).head? = some syncByte
        rw [List.head?_drop, List.getElem?_eq_getElem hlt, eq_of_beq hsync]
    · rename_i hfind
      refine .drop hpos (fun i hi => Frame.decode_drop_of_ne hi fun h => ?_) trivial
      have hnone := List.findIdx?_eq_none_iff.1 hfind _ (List.getElem_mem hi)
      rw [h] at hnone
      exact absurd hnone (by decide)

/-- **Every poll of an aligned state is a step.** -/
theorem poll_step (h : s.Aligned) : Step s s.poll.1 s.poll.2 := by
  unfold Aligned at h
  unfold poll
  cases hs : s.state with
  | seekSync => exact pollSync_step hs
  | awaitHeader =>
    rw [hs] at h
    exact pollHeader_step h
  | awaitPayload n =>
    rw [hs] at h
    obtain ⟨hd, hp, hlimit, rfl⟩ := h
    exact pollPayload_step hp hlimit

/-- A step leads to an aligned state. -/
theorem Step.aligned {e : Option SyncEvent} (h : Step s e s') : s'.Aligned := by
  cases h with
  | wait state hd ha => exact ha
  | take hd => trivial
  | drop hk hd ha => exact ha

/-- The frame format stays. -/
theorem Step.config {e : Option SyncEvent} (h : Step s e s') : s'.config = s.config := by
  cases h <;> rfl

/-- **A step is what a scan does next**: the scan of the buffer finds what is
reported, and goes on with the buffer that is left. -/
theorem Step.scan {e : Option SyncEvent} (h : Step s e s') :
    Scan.run s.config s.buffer
      = (Scan.run s.config s'.buffer).precededBy (items e.toList) := by
  cases h with
  | wait state hd ha => rfl
  | take hd => rw [Scan.run_of_frame hd]; rfl
  | drop hk hd ha =>
    rw [Scan.run_of_errors hd]
    simp [items, SyncEvent.items, discard]

/-! ## Runs -/

/-- **The reports agree with a scan** of the bytes taken in: the scan finds
them, then what a scan of the buffer finds. The runs reported are the runs
found, and a run is open exactly if the last report was a drop. -/
structure Reads (s : Synchronizer) (c : FrameConfig) (stream : Bytes)
    (events : List SyncEvent) : Prop where
  config : s.config = c
  aligned : s.Aligned
  scan : Scan.run c stream = (Scan.run c s.buffer).precededBy (items events)
  garbage : s.inGarbage = Scan.endsInGarbage false (items events)
  runs : newRuns events = Scan.countRuns false (items events)

/-- At the start nothing was taken in and nothing reported. -/
theorem reads_new (c : FrameConfig) (maxBuffered : Nat) : (new c maxBuffered).Reads c [] [] :=
  ⟨rfl, trivial, rfl, rfl, rfl⟩

/-- Bytes taken in go behind those that were scanned. -/
theorem Reads.append (h : s.Reads c stream events) (data : Bytes) :
    Reads { s with buffer := s.buffer ++ data } c (stream ++ data) events := by
  refine ⟨h.config, h.aligned.append data, ?_, h.garbage, h.runs⟩
  rw [Scan.run_append, Scan.run_append _ s.buffer, h.scan, Scan.precededBy_precededBy]
  rfl

/-- A step adds its report. -/
theorem Reads.step {e : Option SyncEvent} (h : s.Reads c stream events) (hs : Step s e s') :
    s'.Reads c stream (events ++ e.toList) := by
  obtain rfl := h.config
  refine ⟨hs.config, hs.aligned, ?_, ?_, ?_⟩
  · rw [h.scan, hs.scan, Scan.precededBy_precededBy, items_append]
  · rw [items_append, Scan.endsInGarbage_append, ← h.garbage]
    cases hs with
    | wait state hd ha => rfl
    | take hd => rfl
    | drop hk hd ha =>
      simp [items, SyncEvent.items, Scan.endsInGarbage_replicate _ hk, discard]
  · rw [items_append, Scan.countRuns_append, newRuns_append, h.runs, ← h.garbage]
    congr 1
    cases hs with
    | wait state hd ha => rfl
    | take hd => rfl
    | drop hk hd ha =>
      simp only [items, SyncEvent.items, newRuns, SyncEvent.opensRun, Option.toList_some,
        List.flatMap_singleton, List.countP_singleton, Scan.countRuns_replicate _ hk]
      cases s.inGarbage <;> rfl

/-- A poll adds its report. -/
theorem Reads.poll (h : s.Reads c stream events) :
    s.poll.2.Reads c stream (events ++ s.poll.1.toList) :=
  h.step (poll_step h.aligned)

/-- A push that is taken adds its bytes. -/
theorem Reads.push (h : s.Reads c stream events) {data : Bytes}
    (hp : s.push data = (.ok (), s')) : s'.Reads c (stream ++ data) events := by
  unfold Synchronizer.push at hp
  split at hp
  · simp at hp
  · obtain rfl := (Prod.mk.inj hp).2
    exact h.append data

/-- **At rest the reports are the scan**: once the buffer only waits, it is
what the scan of all bytes leaves. -/
theorem Reads.scan_of_none (h : s.Reads c stream events)
    (hd : Frame.decode s.buffer c = .ok none) :
    Scan.run c stream = { items := items events, rest := s.buffer } := by
  rw [h.scan, Scan.run_of_none hd, Scan.precededBy, List.append_nil]

/-- Every frame reported is one that the scan finds. -/
theorem Reads.mem_frames (h : s.Reads c stream events) {f : Frame} (hf : f ∈ frames events) :
    f ∈ (Scan.run c stream).frames := by
  rw [h.scan, Scan.frames_eq, Scan.items_precededBy, List.filterMap_append, frames_items]
  exact List.mem_append_left _ hf

/-! ## Polling to the end -/

theorem pollAll_of_none (hp : s.poll = (none, s')) : s.pollAll = ([], s') := by
  rw [pollAll]
  split
  · rename_i s₁ hp'
    obtain rfl : s' = s₁ := by simpa [hp] using hp'
    rfl
  · rename_i hp'
    simp [hp] at hp'

theorem pollAll_of_some {e : SyncEvent} (hp : s.poll = (some e, s')) :
    s.pollAll = (e :: s'.pollAll.1, s'.pollAll.2) := by
  rw [pollAll]
  split
  · rename_i hp'
    simp [hp] at hp'
  · rename_i e₁ s₁ hp'
    obtain ⟨rfl, rfl⟩ : e = e₁ ∧ s' = s₁ := by simpa [hp] using hp'
    rfl

/-- Polling until nothing is reported adds what it reports. -/
theorem Reads.pollAll (h : s.Reads c stream events) :
    s.pollAll.2.Reads c stream (events ++ s.pollAll.1) := by
  induction s using pollAll.induct generalizing events with
  | case1 s s' hp =>
    have hpoll := h.poll
    rw [hp] at hpoll
    rw [pollAll_of_none hp]
    exact hpoll
  | case2 s e s' hp _ _ _ ih =>
    have hpoll := h.poll
    rw [hp] at hpoll
    rw [pollAll_of_some hp]
    have hrest := ih hpoll
    rw [List.append_assoc] at hrest
    exact hrest

/-- A poll that reports nothing leaves a buffer that waits. -/
theorem Step.waits (h : Step s none s') : Frame.decode s'.buffer s'.config = .ok none := by
  cases h with
  | wait state hd ha => exact hd

/-- **Polling comes to rest where bytes are missing.** -/
theorem Aligned.decode_pollAll (h : s.Aligned) :
    Frame.decode s.pollAll.2.buffer s.pollAll.2.config = .ok none := by
  induction s using Synchronizer.pollAll.induct with
  | case1 s s' hp =>
    have hstep := poll_step h
    rw [hp] at hstep
    rw [pollAll_of_none hp]
    exact hstep.waits
  | case2 s e s' hp _ _ _ ih =>
    have hstep := poll_step h
    rw [hp] at hstep
    rw [pollAll_of_some hp]
    exact ih hstep.aligned

/-- **Polled to the end, the reports are the scan** of the bytes taken in, and the
buffer is what the scan leaves. -/
theorem Reads.scan_pollAll (h : s.Reads c stream events) :
    Scan.run c stream
      = { items := items (events ++ s.pollAll.1), rest := s.pollAll.2.buffer } := by
  have hend := h.pollAll
  have hrest := h.aligned.decode_pollAll
  rw [hend.config] at hrest
  exact hend.scan_of_none hrest

end Synchronizer

end ServoLink
