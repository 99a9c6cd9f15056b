import ServoLink.Proofs.Link.Course
import ServoLink.Proofs.Link.Counting

/-!
# Passes that a fault cuts short

A callback that raises a fault ends the parse pass. By then the frame has been taken
from the buffer and its sequence number noted. If it was the handler that raised the
fault, nothing was counted; if it was the tap, everything was, because the tap is told
last (`Endpoint.Pass.cut`). The rest of the buffer is untouched, so that another pass
goes on with the next report (`Endpoint.Pass.pollAll_of_fault`).

What is noted of a stream, the runs of garbage and the sequence numbers, does not
depend on what the callbacks make of it (`Endpoint.kept_noted`), so that it can be told from
the frames found so far (`Endpoint.Tracks`). What they make of it
is told by the turns: each handler acts once, on the state that the turn before has
left (`Endpoint.Acted`).
-/

namespace ServoLink

open Registry

namespace Endpoint

variable {σ : Type} {e e' : Endpoint σ} {s s' s'' : σ} {report : ParseReport}
  {event : SyncEvent} {events : List SyncEvent} {answer : Except Fault ParseReport}
  {front back : List (Turn σ)}

/-! ## What is noted of a stream -/

/-- **The runs of garbage and the sequence numbers of some reports are noted.** -/
structure Noted (events : List SyncEvent) (e : Endpoint σ) : Prop where
  last : e.lastReceived = (tally (Synchronizer.frames events)).1
  sequenceGaps :
    e.counters.sequenceGaps = Counter.bump 0 (tally (Synchronizer.frames events)).2
  transportErrors : e.counters.transportErrors = Counter.bump 0 (Synchronizer.newRuns events)

/-- A push changes nothing of this, whether it is taken or not. -/
theorem Noted.push (h : Noted events e) (data : Bytes) : Noted events (e.push data).2 := by
  unfold Endpoint.push
  split <;> exact { h with }

/-- Settling an outcome changes nothing of this either. -/
theorem Noted.settle (h : Noted events e) (f : Frame) (report : ParseReport) (d : Dispatch) :
    Noted events (e.settle f report d).2 := by
  cases d with
  | reply payload =>
    obtain ⟨_, _, _, _, hqueued⟩ := e.countSuccess.enqueueFrame_intake (.forKey f.key payload)
    have hsettled : (e.settle f report (.reply payload)).2 = _ := hqueued
    rw [hsettled]
    exact { h with }
  | delivered | accepted | unregistered | lengthMismatch | rejected => exact { h with }

/-- A frame whose number was noted is one more frame noted. -/
theorem Noted.frame (h : Noted events e) (f : Frame) :
    Noted (events ++ [.frame f]) (e.noteSequence f.seq) := by
  have hframes : Synchronizer.frames (events ++ [.frame f]) = Synchronizer.frames events ++ [f] :=
    Synchronizer.frames_append _ _
  have hruns : Synchronizer.newRuns (events ++ [.frame f]) = Synchronizer.newRuns events :=
    Synchronizer.newRuns_append _ _
  refine ⟨?_, ?_, ?_⟩
  · rw [hframes, tally_concat]
    rfl
  · show e.counters.sequenceGaps.bump (skipped e.lastReceived f.seq) = _
    rw [h.sequenceGaps, h.last, Counter.bump_bump, hframes, tally_concat]
  · rw [hruns]
    exact h.transportErrors

/-- **Handlers and taps have no part in it**, whatever they do and whether or not they
raise faults. -/
theorem kept_noted : Kept fun events (e : Endpoint σ) _ => Noted events e where
  onSync _ h := { h with }
  onPush data h := h.push data
  onHandle := by
    intro events e s report event h
    cases event with
    | discarded bytes reason newRun =>
      have hframes : Synchronizer.frames (events ++ [.discarded bytes reason newRun])
          = Synchronizer.frames events :=
        (Synchronizer.frames_append _ _).trans (List.append_nil _)
      refine ⟨?_, ?_, ?_⟩
      · rw [hframes, ← h.last]
        cases newRun <;> rfl
      · rw [hframes, ← h.sequenceGaps]
        cases newRun <;> rfl
      · rw [Synchronizer.newRuns_append, ← Counter.bump_bump, ← h.transportErrors]
        cases newRun with
        | false => exact (Counter.bump_zero _).symm
        | true => rfl
    | frame f =>
      have hnoted := h.frame f
      rcases hdeliver : deliver (e.registry.slot f.key) f s with ⟨fault | d, s'⟩
      · rw [handle_of_error hdeliver]
        exact hnoted
      · rw [handle_of_ok hdeliver]
        have hcounted : Noted (events ++ [.frame f])
            { e.noteSequence f.seq with registry := e.registry.tick f d } := { hnoted with }
        exact hcounted.settle f _ d

/-- **What was found of a stream is noted**: the reports made of it so far agree with a scan, and
the frames among them are those found. -/
def Tracks (c : FrameConfig) (stream : Bytes) (found : List Frame) (e : Endpoint σ) : Prop :=
  ∃ events, e.sync.Reads c stream events ∧ Noted events e ∧ Synchronizer.frames events = found

section

variable {c : FrameConfig} {stream data : Bytes} {found : List Frame}

/-- A push that is taken adds its bytes to the stream. -/
theorem Tracks.push_of_ok (h : Tracks c stream found e) (hp : e.push data = (.ok (), e')) :
    Tracks c (stream ++ data) found e' := by
  obtain ⟨events, hreads, hnoted, hframes⟩ := h
  have hpush := hnoted.push data
  rw [hp] at hpush
  exact ⟨events, hreads.push (Endpoint.push_of_ok hp), hpush, hframes⟩

/-- A push that is refused adds nothing. -/
theorem Tracks.push_of_error {err : LinkError} (h : Tracks c stream found e)
    (hp : e.push data = (.error err, e')) : Tracks c stream found e' := by
  obtain ⟨events, hreads, hnoted, hframes⟩ := h
  have hpush := hnoted.push data
  rw [hp] at hpush
  rw [← Endpoint.push_of_error hp] at hreads
  exact ⟨events, hreads, hpush, hframes⟩

/-- **A parse pass finds the frames of its course**, however it ends. -/
theorem Tracks.pass (h : Tracks c stream found e) (hpass : Pass e report s events answer e' s') :
    Tracks c stream (found ++ (e.course report s).map (·.frame)) e' := by
  obtain ⟨earlier, hreads, hnoted, hframes⟩ := h
  obtain ⟨hreads', hnoted'⟩ := hpass.kept kept_noted hreads hnoted
  refine ⟨earlier ++ events, hreads', hnoted', ?_⟩
  rw [Synchronizer.frames_append, hframes, hpass.frames_course]

/-- The frames of the stream are those found, and behind them those that a scan finds in the
buffer. -/
theorem Tracks.frames (h : Tracks c stream found e) :
    (Scan.run c stream).frames = found ++ (Scan.run c e.sync.buffer).frames := by
  obtain ⟨events, hreads, -, hframes⟩ := h
  rw [hreads.scan, Scan.frames_eq, Scan.items_precededBy, List.filterMap_append,
    Synchronizer.frames_items, hframes]
  rfl

/-- The last sequence number received is that of the last frame found, and the gaps counted are
those between the frames. -/
theorem Tracks.gaps (h : Tracks c stream found e) :
    e.lastReceived = (tally found).1 ∧
      e.counters.sequenceGaps = Counter.bump 0 (tally found).2 := by
  obtain ⟨events, -, hnoted, hframes⟩ := h
  rw [← hframes]
  exact ⟨hnoted.last, hnoted.sequenceGaps⟩

end

/-! ## What the callbacks make of it -/

/-- The state that a turn leaves: the handler acts on it first and then, unless a fault
was raised, the tap, which is told the counters. -/
def after (slot : Key → Slot σ) (tap : Option (Tap σ)) (n : Counters) (t : Turn σ) : σ :=
  match deliver (slot t.frame.key) t.frame t.state, tap with
  | (.ok d, s), some tap => (tap t.frame d n s).2
  | (_, s), _ => s

/-- **The callbacks have acted**, once for each of some turns and in their order: every
turn finds the state that the turn before has left. -/
inductive Acted (slot : Key → Slot σ) (tap : Option (Tap σ)) : σ → List (Turn σ) → σ → Prop
  | nil (s : σ) : Acted slot tap s [] s
  | cons (t : Turn σ) (n : Counters) {turns : List (Turn σ)} {s : σ}
      (h : Acted slot tap (after slot tap n t) turns s) : Acted slot tap t.state (t :: turns) s

variable {slot : Key → Slot σ} {tap : Option (Tap σ)}

theorem Acted.append (h : Acted slot tap s front s') (h' : Acted slot tap s' back s'') :
    Acted slot tap s (front ++ back) s'' := by
  induction h with
  | nil => exact h'
  | cons t n _ ih => exact .cons t n (ih h')

/-- Handling a report is what its turn does to the state. -/
theorem acted_handle (e : Endpoint σ) (report : ParseReport) (s : σ) (event : SyncEvent) :
    Acted e.registry.slot e.tap s (turns s event) (e.handle report s event).2.2 := by
  cases event with
  | discarded bytes reason newRun => cases newRun <;> exact .nil s
  | frame f =>
    rcases hdeliver : deliver (e.registry.slot f.key) f s with ⟨fault | d, s'⟩
    · have hafter : after e.registry.slot e.tap e.counters ⟨f, s⟩ = s' := by
        unfold after
        rw [hdeliver]
      rw [handle_of_error hdeliver]
      exact .cons ⟨f, s⟩ e.counters (hafter ▸ .nil _)
    · let e₁ := (e.settled f report d).2
      have hafter : after e.registry.slot e.tap e₁.counters ⟨f, s⟩ = (e₁.tell f d s').2 := by
        have htap : e₁.tap = e.tap := (e.settled_frame f report d).2
        unfold after tell
        rw [hdeliver, htap]
        rcases e.tap with _ | tap <;> rfl
      rw [handle_of_ok hdeliver]
      exact .cons ⟨f, s⟩ e₁.counters (hafter ▸ .nil _)

/-- **In a parse pass every handler acts once for each frame of its key**, however the
pass ends. -/
theorem Pass.acted (h : Pass e report s events answer e' s') :
    Acted e.registry.slot e.tap s (e.course report s) s' := by
  induction h with
  | rest hp =>
    rw [course_of_rest hp]
    exact .nil _
  | @fault e _ report s _ event sync _ hp hh =>
    have hacted := acted_handle { e with sync } report s event
    rw [hh] at hacted
    rw [course_of_fault hp hh]
    exact hacted
  | @next e _ _ report _ s _ _ event sync _ _ hp hh _ ih =>
    have hacted := acted_handle { e with sync } report s event
    obtain ⟨hslot, htap⟩ := set_of_handle hh
    rw [hh] at hacted
    rw [hslot, htap] at ih
    rw [course_of_next hp hh]
    exact hacted.append ih

/-! ## Where a pass is cut -/

/-- A pass that a fault has ended goes on where it stopped. -/
theorem Pass.pollAll_of_fault {fault : Fault} (h : Pass e report s events answer e' s')
    (hfault : answer = .error fault) :
    e.sync.pollAll = (events ++ e'.sync.pollAll.1, e'.sync.pollAll.2) := by
  induction h with
  | rest hp => cases hfault
  | fault hp hh =>
    rw [Synchronizer.pollAll_of_some hp, sync_of_handle hh]
    rfl
  | next hp hh _ ih =>
    have hrest := ih hfault
    rw [sync_of_handle hh] at hrest
    rw [Synchronizer.pollAll_of_some hp, hrest]
    rfl

/-- A pass that a fault has ended took something from the buffer. -/
theorem Pass.shrinks {fault : Fault} (h : Pass e report s events answer e' s')
    (hfault : answer = .error fault) : e'.sync.buffer.length < e.sync.buffer.length := by
  induction h with
  | rest hp => cases hfault
  | fault hp hh =>
    rw [sync_of_handle hh]
    exact Synchronizer.poll_shrinks hp
  | next hp hh _ ih =>
    have hrest := ih hfault
    rw [sync_of_handle hh] at hrest
    exact Nat.lt_trans hrest (Synchronizer.poll_shrinks hp)

/-- **The turn that a fault ends**: its handler raised it, or it came to an outcome and
the tap raised it, told of the counters as they are left. -/
inductive CutBy (e : Endpoint σ) (fault : Fault) (t : Turn σ) (e' : Endpoint σ) (s' : σ) : Prop
  /-- The handler raised it. -/
  | handler (h : deliver (e.registry.slot t.frame.key) t.frame t.state = (.error fault, s'))
  /-- The tap raised it. -/
  | tap {d : Dispatch} {s : σ} {tap : Tap σ} (htap : e.tap = some tap)
      (h : deliver (e.registry.slot t.frame.key) t.frame t.state = (.ok d, s))
      (hraised : tap t.frame d e'.counters s = (some fault, s'))

/-- A report that ends a pass is a frame, whose turn a fault ends. -/
theorem cut_handle {fault : Fault} (hh : e.handle report s event = (.error fault, e', s')) :
    ∃ t, turns s event = [t] ∧ CutBy e fault t e' s' := by
  cases event with
  | discarded bytes reason newRun => cases newRun <;> cases hh
  | frame f =>
    refine ⟨⟨f, s⟩, rfl, ?_⟩
    rcases hdeliver : deliver (e.registry.slot f.key) f s with ⟨raised | d, s₁⟩
    · rw [handle_of_error hdeliver] at hh
      cases hh
      exact .handler hdeliver
    · rw [handle_of_ok hdeliver] at hh
      have hsettled : (e.settled f report d).2 = e' := congrArg (·.2.1) hh
      have hstate : ((e.settled f report d).2.tell f d s₁).2 = s' := congrArg (·.2.2) hh
      have htap : e'.tap = e.tap := hsettled ▸ (e.settled_frame f report d).2
      have hanswer := congrArg Prod.fst hh
      rw [hsettled] at hstate hanswer
      unfold tell at hstate hanswer
      rw [htap] at hstate hanswer
      rcases htold : e.tap with _ | tap <;> rw [htold] at hstate hanswer
      · cases hanswer
      · dsimp only at hstate hanswer
        refine .tap htold hdeliver (Prod.ext ?_ hstate)
        split at hanswer
        · cases hanswer
        · rename_i hraised
          rw [hraised, Except.error.inj hanswer]

/-- **A pass that a fault has ended** took its turns up to the one where the fault was
raised, and none before it raised one. -/
theorem Pass.cut {fault : Fault} (h : Pass e report s events answer e' s')
    (hfault : answer = .error fault) :
    ∃ earlier t, e.course report s = earlier ++ [t] ∧
      (∀ t ∈ earlier, ∃ d, outcome e.registry.slot t = .ok d) ∧ CutBy e fault t e' s' := by
  induction h with
  | rest hp => cases hfault
  | @fault e _ report s _ event sync _ hp hh =>
    obtain rfl := Except.error.inj hfault
    obtain ⟨t, hturns, hcut⟩ := cut_handle hh
    refine ⟨[], t, ?_, fun t ht => absurd ht List.not_mem_nil, ?_⟩
    · rw [course_of_fault hp hh, hturns]
      rfl
    · cases hcut with
      | handler h => exact .handler h
      | tap htap h hraised => exact .tap htap h hraised
  | @next e _ _ _ _ s _ _ event sync _ _ hp hh _ ih =>
    obtain ⟨hslot, htap⟩ := set_of_handle hh
    obtain ⟨earlier, t, hcourse, hearlier, hcut⟩ := ih hfault
    rw [hslot] at hearlier
    refine ⟨turns s event ++ earlier, t, ?_, List.forall_mem_append.2 ⟨?_, hearlier⟩, ?_⟩
    · rw [course_of_next hp hh, hcourse, List.append_assoc]
    · exact outcome_of_handle (e := { e with sync }) hh
    · cases hcut with
      | handler h => exact .handler (hslot ▸ h)
      | tap hset h hraised => exact .tap (htap ▸ hset) (hslot ▸ h) hraised

end Endpoint

end ServoLink
