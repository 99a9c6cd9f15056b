import ServoLink.Link.Endpoint
import ServoLink.Proofs.Receive.Reading

/-!
# Parse passes, event by event

A parse pass takes one report of the synchronizer after the other and handles
each. `Pass` lists the reports of a pass in order, together with how it ended: at
rest, when the synchronizer had nothing more to report, or at the fault of a
callback. Everything about passes is proved by induction on it.

Whatever is kept by a push and by the handling of one report is kept by a whole
pass (`Pass.kept`), for the list of all reports handled so far, and those
reports agree with a scan of the bytes taken in.
-/

namespace ServoLink

namespace Endpoint

variable {σ : Type}

/-! ## What handling leaves alone -/

/-- Queueing a frame touches the send side and the counters. -/
theorem enqueueFrame_frame (e : Endpoint σ) (f : Frame) :
    ∃ queue nextSeq counters, (e.enqueueFrame f).2 = { e with queue, nextSeq, counters } := by
  unfold enqueueFrame
  dsimp only
  split
  · exact ⟨_, _, _, rfl⟩
  · split <;> exact ⟨_, _, _, rfl⟩

/-- Settling an outcome touches the send side and the counters. -/
theorem settle_frame (e : Endpoint σ) (f : Frame) (report : ParseReport) (d : Dispatch) :
    ∃ queue nextSeq counters, (e.settle f report d).2 = { e with queue, nextSeq, counters } := by
  cases d with
  | reply payload => exact enqueueFrame_frame e.countSuccess _
  | delivered | accepted | unregistered => exact ⟨_, _, _, rfl⟩
  | lengthMismatch expected actual => exact ⟨_, _, _, rfl⟩
  | rejected reason => exact ⟨_, _, _, rfl⟩

/-- Routing a frame counts it, and registers nothing. -/
theorem slot_dispatch (r : Registry σ) (f : Frame) (s : σ) :
    (r.dispatch f s).2.1.slot = r.slot := by
  unfold Registry.dispatch
  split
  · rfl
  · dsimp only
    split <;> rfl

/-- Dispatching a frame touches the hit counts, the send side and the
counters. -/
theorem dispatch_frame (e : Endpoint σ) (f : Frame) (report : ParseReport) (s : σ) :
    ∃ registry queue nextSeq counters, registry.slot = e.registry.slot ∧
      (e.dispatch f report s).2.1 = { e with registry, queue, nextSeq, counters } := by
  unfold dispatch
  split
  · exact ⟨_, _, _, _, rfl, rfl⟩
  · rename_i outcome registry s' hr
    have hslot : registry.slot = e.registry.slot := by
      have := slot_dispatch e.registry f s
      rwa [hr] at this
    obtain ⟨queue, nextSeq, counters, hsettle⟩ :=
      settle_frame { e with registry } f report outcome
    dsimp only
    rw [hsettle]
    split
    · exact ⟨_, _, _, _, hslot, rfl⟩
    · split <;> exact ⟨_, _, _, _, hslot, rfl⟩

/-- Handling a report changes no setting, no registration and no tap. -/
theorem handle_frame (e : Endpoint σ) (report : ParseReport) (s : σ) (event : SyncEvent) :
    (e.handle report s event).2.1.config = e.config ∧
      (e.handle report s event).2.1.registry.slot = e.registry.slot ∧
      (e.handle report s event).2.1.tap = e.tap := by
  cases event with
  | discarded bytes reason newRun => cases newRun <;> exact ⟨rfl, rfl, rfl⟩
  | frame f =>
    obtain ⟨registry, queue, nextSeq, counters, hslot, hd⟩ :=
      (e.noteSequence f.seq).dispatch_frame f { report with frames := report.frames + 1 } s
    unfold handle
    rw [hd]
    exact ⟨rfl, hslot, rfl⟩

section

variable {e e' : Endpoint σ} {report : ParseReport} {s s' : σ} {event : SyncEvent}
  {sync : Synchronizer} {answer : Except Fault ParseReport}

/-- The next report is taken from the buffer that the last one has left. -/
theorem sync_of_handle (hh : handle { e with sync } report s event = (answer, e', s')) :
    e'.sync = sync := by
  have hsync := sync_handle { e with sync } report s event
  rwa [hh] at hsync

/-- It finds the same registrations and the same tap. -/
theorem set_of_handle (hh : handle { e with sync } report s event = (answer, e', s')) :
    e'.registry.slot = e.registry.slot ∧ e'.tap = e.tap := by
  obtain ⟨-, hset⟩ := handle_frame { e with sync } report s event
  rwa [hh] at hset

end

/-- A push that is taken goes to the synchronizer. -/
theorem push_of_ok {e e' : Endpoint σ} {data : Bytes} (h : e.push data = (.ok (), e')) :
    e.sync.push data = (.ok (), e'.sync) := by
  unfold push at h
  split at h
  · rename_i sync hp
    rw [hp, ← (Prod.mk.inj h).2]
    rfl
  · simp at h

/-- A push that is refused leaves the synchronizer as it was. -/
theorem push_of_error {e e' : Endpoint σ} {data : Bytes} {err : LinkError}
    (h : e.push data = (.error err, e')) : e'.sync = e.sync := by
  unfold push at h
  split at h
  · simp at h
  · rw [← (Prod.mk.inj h).2]
    rfl

/-! ## A pass as a list of reports -/

/-- **A parse pass**, by the reports it handles. -/
inductive Pass : Endpoint σ → ParseReport → σ → List SyncEvent →
    Except Fault ParseReport → Endpoint σ → σ → Prop
  /-- Nothing more is reported. -/
  | rest {e : Endpoint σ} {report : ParseReport} {s : σ} {sync : Synchronizer}
      (hp : e.sync.poll = (none, sync)) :
      Pass e report s [] (.ok report) { e with sync } s
  /-- A callback raised a fault. -/
  | fault {e e' : Endpoint σ} {report : ParseReport} {s s' : σ} {event : SyncEvent}
      {sync : Synchronizer} {fault : Fault} (hp : e.sync.poll = (some event, sync))
      (hh : handle { e with sync } report s event = (.error fault, e', s')) :
      Pass e report s [event] (.error fault) e' s'
  /-- A report was handled, and the pass went on. -/
  | next {e e' e'' : Endpoint σ} {report report' : ParseReport} {s s' s'' : σ}
      {event : SyncEvent} {sync : Synchronizer} {events : List SyncEvent}
      {answer : Except Fault ParseReport} (hp : e.sync.poll = (some event, sync))
      (hh : handle { e with sync } report s event = (.ok report', e', s'))
      (hrest : Pass e' report' s' events answer e'' s'') :
      Pass e report s (event :: events) answer e'' s''

/-- **Every parse pass is a list of reports.** -/
theorem exists_pass (e : Endpoint σ) (report : ParseReport) (s : σ) :
    ∃ events, Pass e report s events (e.parseFrom report s).1 (e.parseFrom report s).2.1
      (e.parseFrom report s).2.2 := by
  induction e, report, s using parseFrom.induct with
  | case1 e report s sync hp =>
    refine ⟨[], ?_⟩
    rw [parseFrom]
    split
    · rename_i sync' hp'
      exact .rest hp'
    · rename_i hp'
      simp [hp] at hp'
  | case2 e report s event sync hp fault e' s' hh =>
    refine ⟨[event], ?_⟩
    rw [parseFrom]
    split
    · rename_i hp'
      simp [hp] at hp'
    · rename_i event' sync' hp'
      obtain ⟨rfl, rfl⟩ : event = event' ∧ sync = sync' := by simpa [hp] using hp'
      split
      · rename_i hh'
        exact .fault hp hh'
      · rename_i hh'
        simp [hh] at hh'
  | case3 e report s event sync hp report' e' s' hh ih =>
    obtain ⟨events, ih⟩ := ih
    refine ⟨event :: events, ?_⟩
    rw [parseFrom]
    split
    · rename_i hp'
      simp [hp] at hp'
    · rename_i event₁ sync₁ hp'
      obtain ⟨rfl, rfl⟩ : event = event₁ ∧ sync = sync₁ := by simpa [hp] using hp'
      split
      · rename_i hh'
        simp [hh] at hh'
      · rename_i report₁ e₁ s₁ hh'
        obtain ⟨rfl, rfl, rfl⟩ : report' = report₁ ∧ e' = e₁ ∧ s' = s₁ := by
          simpa [hh] using hh'
        exact .next hp hh ih

/-- A pass that did not end at a fault ended where bytes are missing. -/
theorem Pass.waits {e e' : Endpoint σ} {report : ParseReport} {s s' : σ}
    {events : List SyncEvent} {answer : Except Fault ParseReport}
    (h : Pass e report s events answer e' s') (ha : e.sync.Aligned)
    {report' : ParseReport} (hok : answer = .ok report') :
    Frame.decode e'.sync.buffer e'.sync.config = .ok none := by
  induction h with
  | @rest e _ _ sync hp =>
    have hstep := Synchronizer.poll_step ha
    rw [hp] at hstep
    exact hstep.waits
  | fault hp hh => simp at hok
  | next hp hh _ ih =>
    have hstep := Synchronizer.poll_step ha
    rw [hp] at hstep
    refine ih ?_ hok
    rw [sync_of_handle hh]
    exact hstep.aligned

/-! ## What holds throughout -/

/-- What a push and the handling of a report keep. The list is that of all
reports handled so far, and what was waited for does not matter. -/
structure Kept (P : List SyncEvent → Endpoint σ → σ → Prop) : Prop where
  onSync : ∀ {events e s} (sync : Synchronizer), P events e s → P events { e with sync } s
  onPush : ∀ {events e s} (data : Bytes), P events e s → P events (e.push data).2 s
  onHandle : ∀ {events e s} (report : ParseReport) (event : SyncEvent), P events e s →
    P (events ++ [event]) (e.handle report s event).2.1 (e.handle report s event).2.2

variable {P : List SyncEvent → Endpoint σ → σ → Prop}

/-- Taking one more report keeps what is kept, and the agreement with a
scan. -/
theorem Kept.report (hP : Kept P) {e : Endpoint σ} {s : σ} {c : FrameConfig} {stream : Bytes}
    {events : List SyncEvent} {event : SyncEvent} {sync : Synchronizer} (report : ParseReport)
    (hp : e.sync.poll = (some event, sync)) (hr : e.sync.Reads c stream events)
    (hk : P events e s) :
    (handle { e with sync } report s event).2.1.sync.Reads c stream (events ++ [event]) ∧
      P (events ++ [event]) (handle { e with sync } report s event).2.1
        (handle { e with sync } report s event).2.2 := by
  have hpoll := hr.poll
  rw [hp] at hpoll
  refine ⟨?_, hP.onHandle report event (hP.onSync sync hk)⟩
  rw [sync_handle]
  exact hpoll

/-- **A pass keeps what is kept**, for its own reports behind the earlier
ones. -/
theorem Pass.kept (hP : Kept P) {e e' : Endpoint σ} {report : ParseReport} {s s' : σ}
    {c : FrameConfig} {stream : Bytes} {earlier events : List SyncEvent}
    {answer : Except Fault ParseReport} (h : Pass e report s events answer e' s')
    (hr : e.sync.Reads c stream earlier) (hk : P earlier e s) :
    e'.sync.Reads c stream (earlier ++ events) ∧ P (earlier ++ events) e' s' := by
  induction h generalizing earlier with
  | rest hp =>
    have hpoll := hr.poll
    rw [hp] at hpoll
    rw [List.append_nil]
    exact ⟨by simpa using hpoll, hP.onSync _ hk⟩
  | @fault _ _ report _ _ _ _ _ hp hh =>
    have hreport := hP.report report hp hr hk
    rw [hh] at hreport
    exact hreport
  | @next _ _ _ report _ _ _ _ _ _ _ _ hp hh _ ih =>
    have hreport := hP.report report hp hr hk
    rw [hh] at hreport
    rw [List.append_cons]
    exact ih hreport.1 hreport.2

end Endpoint

end ServoLink
