import ServoLink.Proofs.Link.Outbox
import ServoLink.Proofs.Link.Pass
import ServoLink.Proofs.Receive.Balance

/-!
# What a parse pass counts

A parse pass writes down twice what it did: in its report, and in the counters of
the endpoint. `Endpoint.Tallied` says that the two agree with each other and with
what the synchronizer reported, for the reports handled so far. Handling one more
report keeps it so, whatever becomes of a frame (`Endpoint.Tallied.handle`), and so
does a whole pass (`Endpoint.Pass.tallied`). A pass that ends without a fault
handles all that polling the synchronizer to the end reports
(`Endpoint.Pass.pollAll`).
-/

namespace ServoLink

namespace Endpoint

variable {σ : Type}

/-! ## What handling a report counts -/

/-- Queueing a frame leaves the receive side alone, its counters included. -/
theorem enqueueFrame_intake (e : Endpoint σ) (f : Frame) :
    ∃ queue nextSeq framesEnqueued enqueueRejected, (e.enqueueFrame f).2
      = { e with
          queue
          nextSeq
          counters := { e.counters with framesEnqueued, enqueueRejected } } := by
  rcases e.enqueueFrame_cases f with ⟨-, henq⟩ | ⟨err, henq⟩
  · rw [henq]
    exact ⟨_, _, _, _, rfl⟩
  · rw [henq]
    exact ⟨_, _, _, _, rfl⟩

/-- **The books of a parse pass**: the frames found are those delivered and those
that failed, the counters have risen by as many, and what was dropped is on the
report. -/
structure Tallied (n₀ : Counters) (events : List SyncEvent) (report : ParseReport)
    (n : Counters) : Prop where
  frames : report.frames = (Synchronizer.frames events).length
  outcomes : report.frames = report.delivered + report.decodeErrors
  replies : report.replies ≤ report.delivered
  runs : report.transportErrors = Synchronizer.newRuns events
  discarded : report.discarded = Synchronizer.dropped events
  success : n.success = n₀.success.bump report.delivered
  decodeErrors : n.decodeErrors = n₀.decodeErrors.bump report.decodeErrors
  transportErrors : n.transportErrors = n₀.transportErrors.bump report.transportErrors
  bytesReceived : n.bytesReceived = n₀.bytesReceived

variable {n₀ n : Counters} {events : List SyncEvent} {report report' : ParseReport}
  {e e' : Endpoint σ} {s s' : σ} {f : Frame}

/-- At the start of a pass. -/
theorem tallied_start (n : Counters) : Tallied n [] {} n :=
  ⟨rfl, rfl, Nat.le_refl _, rfl, rfl, (Counter.bump_zero _).symm, (Counter.bump_zero _).symm,
    (Counter.bump_zero _).symm, rfl⟩

/-- Settling the outcome of one more frame. -/
theorem Tallied.settle (h : Tallied n₀ events report e.counters) (f : Frame) (d : Dispatch) :
    Tallied n₀ (events ++ [.frame f])
      (e.settle f { report with frames := report.frames + 1 } d).1
      (e.settle f { report with frames := report.frames + 1 } d).2.counters := by
  obtain ⟨hframes, houtcomes, hreplies, hruns, hdiscarded, hsuccess, herrors, htransport,
    hbytes⟩ := h
  have hcount : report.frames + 1 = (Synchronizer.frames (events ++ [.frame f])).length := by
    rw [Synchronizer.frames_append, List.length_append, hframes]
    rfl
  have hruns' : report.transportErrors = Synchronizer.newRuns (events ++ [.frame f]) := by
    rw [Synchronizer.newRuns_append, hruns]
    rfl
  have hdiscarded' : report.discarded = Synchronizer.dropped (events ++ [.frame f]) := by
    rw [Synchronizer.dropped_append, hdiscarded]
    rfl
  have hdelivered : e.counters.success.bump 1 = n₀.success.bump (report.delivered + 1) := by
    rw [hsuccess, Counter.bump_bump]
  have hfailed : e.counters.decodeErrors.bump 1
      = n₀.decodeErrors.bump (report.decodeErrors + 1) := by
    rw [herrors, Counter.bump_bump]
  cases d with
  | delivered | accepted =>
    refine ⟨hcount, ?_, ?_, hruns', hdiscarded', hdelivered, herrors, htransport, hbytes⟩
    · show report.frames + 1 = report.delivered + 1 + report.decodeErrors
      omega
    · show report.replies ≤ report.delivered + 1
      omega
  | reply payload =>
    obtain ⟨_, _, _, _, hqueued⟩ := e.countSuccess.enqueueFrame_intake (.forKey f.key payload)
    have hsettled : (e.settle f { report with frames := report.frames + 1 }
        (.reply payload)).2 = _ := hqueued
    rw [hsettled]
    refine ⟨hcount, ?_, ?_, hruns', hdiscarded', hdelivered, herrors, htransport, hbytes⟩
    · show report.frames + 1 = report.delivered + 1 + report.decodeErrors
      omega
    · show report.replies + 1 ≤ report.delivered + 1
      omega
  | unregistered | lengthMismatch | rejected =>
    refine ⟨hcount, ?_, hreplies, hruns', hdiscarded', hsuccess, hfailed, htransport, hbytes⟩
    show report.frames + 1 = report.delivered + (report.decodeErrors + 1)
    omega

/-- **What a dispatch without a fault did**: the frame was routed, its outcome was
settled, and the tap was told. -/
theorem dispatch_eq_ok (h : e.dispatch f report s = (.ok report', e', s')) :
    ∃ outcome registry s₁, e.registry.dispatch f s = (.ok outcome, registry, s₁) ∧
      settle { e with registry } f report outcome = (report', e') ∧
      (e.tap = none → s' = s₁) ∧
      ∀ tap, e.tap = some tap → tap f outcome e'.counters s₁ = (none, s') := by
  unfold dispatch at h
  split at h
  · cases h
  · rename_i outcome registry s₁ hrouted
    refine ⟨outcome, registry, s₁, hrouted, ?_⟩
    obtain ⟨_, _, _, hsettled⟩ := settle_frame { e with registry } f report outcome
    have htap : (settle { e with registry } f report outcome).2.tap = e.tap := by
      rw [hsettled]
    dsimp only at h
    rw [htap] at h
    split at h
    · rename_i hnone
      cases h
      refine ⟨rfl, fun _ => rfl, fun tap hsome => ?_⟩
      rw [hnone] at hsome
      cases hsome
    · rename_i tap hsome
      split at h
      · rename_i htold
        cases h
        refine ⟨rfl, fun hnone => ?_, fun tap' hsome' => ?_⟩
        · rw [hsome] at hnone
          cases hnone
        · rw [hsome] at hsome'
          obtain rfl := Option.some.inj hsome'
          exact htold
      · cases h

/-- **Handling one more report keeps the books**, if it raises no fault. -/
theorem Tallied.handle {event : SyncEvent} (h : Tallied n₀ events report e.counters)
    (hh : e.handle report s event = (.ok report', e', s')) :
    Tallied n₀ (events ++ [event]) report' e'.counters := by
  cases event with
  | frame f =>
    have hgap : Tallied n₀ events report (e.noteSequence f.seq).counters :=
      { h with }
    obtain ⟨outcome, registry, s₁, -, hsettled, -⟩ := dispatch_eq_ok hh
    have hnext := Tallied.settle (e := { e.noteSequence f.seq with registry }) hgap f outcome
    rw [hsettled] at hnext
    exact hnext
  | discarded bytes reason newRun =>
    obtain ⟨hframes, houtcomes, hreplies, hruns, hdiscarded, hsuccess, herrors, htransport,
      hbytes⟩ := h
    have hcount : report.frames
        = (Synchronizer.frames (events ++ [.discarded bytes reason newRun])).length := by
      rw [Synchronizer.frames_append, List.length_append, hframes]
      rfl
    have hdropped : report.discarded + bytes
        = Synchronizer.dropped (events ++ [.discarded bytes reason newRun]) := by
      rw [Synchronizer.dropped_append, hdiscarded]
      rfl
    cases newRun with
    | false =>
      cases hh
      refine ⟨hcount, houtcomes, hreplies, ?_, hdropped, hsuccess, herrors, htransport, hbytes⟩
      rw [Synchronizer.newRuns_append, ← hruns]
      rfl
    | true =>
      cases hh
      refine ⟨hcount, houtcomes, hreplies, ?_, hdropped, hsuccess, herrors, ?_, hbytes⟩
      · rw [Synchronizer.newRuns_append, ← hruns]
        rfl
      · show e.counters.transportErrors.bump 1 = _
        rw [htransport, Counter.bump_bump]

/-- **A parse pass keeps the books.** -/
theorem Pass.tallied {earlier : List SyncEvent} {answer : Except Fault ParseReport}
    (h : Pass e report s events answer e' s') (hstart : Tallied n₀ earlier report e.counters)
    (hok : answer = .ok report') : Tallied n₀ (earlier ++ events) report' e'.counters := by
  induction h generalizing earlier with
  | rest hp =>
    obtain rfl := Except.ok.inj hok
    rw [List.append_nil]
    exact hstart
  | fault hp hh => cases hok
  | @next e _ _ _ _ _ _ _ _ sync _ _ hp hh _ ih =>
    rw [List.append_cons]
    exact ih (Tallied.handle (e := { e with sync }) hstart hh) hok

/-- A pass that comes to rest polls the synchronizer to the end. -/
theorem Pass.pollAll {answer : Except Fault ParseReport}
    (h : Pass e report s events answer e' s') (hok : answer = .ok report') :
    e.sync.pollAll = (events, e'.sync) := by
  induction h with
  | rest hp => exact Synchronizer.pollAll_of_none hp
  | fault hp hh => cases hok
  | next hp hh _ ih =>
    have hrest := ih hok
    rw [sync_of_handle hh] at hrest
    rw [Synchronizer.pollAll_of_some hp, hrest]

/-- **A parse that ends without a fault** is a pass over all that polling the
synchronizer to the end reports. -/
theorem pass_of_parse (h : e.parse s = (.ok report, e', s')) :
    Pass e {} s e.sync.pollAll.1 (.ok report) e' s' ∧ e.sync.pollAll.2 = e'.sync := by
  obtain ⟨events, hpass⟩ := e.exists_pass {} s
  unfold parse at h
  rw [h] at hpass
  have hpolled := hpass.pollAll rfl
  rw [hpolled]
  exact ⟨hpass, rfl⟩

end Endpoint

end ServoLink
