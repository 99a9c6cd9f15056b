import ServoLink.Proofs.Link.Course

/-!
# Answers that do not fit

A parse pass counts a read request as answered when its handler has given out the
bytes, before they are offered to the send queue. The queue may refuse them, because
they are too long for a frame or because there is no room left, by then perhaps for
answers of the same pass. So the answers on the report are those given out
(`Endpoint.Pass.replies`), and those queued may be fewer: which they are is a matter
of the queue alone (`Endpoint.takenOf`). They are as many exactly if all of them fit
into what was left of it (`Endpoint.replies_queued_iff`).
-/

namespace ServoLink

variable {σ : Type}

namespace Registry

variable (slot : Key → Slot σ)

/-- **A read request**: an empty frame whose handler answers such. -/
def asks (f : Frame) : Bool :=
  match slot f.key with
  | .handler h => h.responds && f.payload.isEmpty
  | _ => false

variable {slot}

/-- A request that raises no fault is answered on its key, and nothing else is. -/
theorem key_answer? {t : Turn σ} {d : Dispatch} (h : outcome slot t = .ok d) :
    (answer? slot t).map (·.key) = if asks slot t.frame then some t.frame.key else none := by
  obtain ⟨f, s⟩ := t
  unfold outcome deliver at h
  unfold answer? asks
  dsimp only at h ⊢
  generalize slot f.key = entry at h ⊢
  rcases entry with _ | _ | ⟨expected, receive, _ | respond⟩
  · rfl
  · rfl
  · rfl
  · cases hpayload : f.payload with
    | cons b rest => rfl
    | nil =>
      rw [hpayload] at h
      dsimp only [List.isEmpty_nil] at h ⊢
      rcases hs : respond s with fault | payload
      · rw [hs] at h
        cases h
      · rfl

/-- Where no turn raises a fault, there is one answer for each request. -/
theorem keys_answers {turns : List (Turn σ)} (h : ∀ t ∈ turns, ∃ d, outcome slot t = .ok d) :
    (turns.filterMap (answer? slot)).map (·.key)
      = ((turns.map (·.frame)).filter (asks slot)).map (·.key) := by
  induction turns with
  | nil => rfl
  | cons t turns ih =>
    obtain ⟨⟨d, hd⟩, hturns⟩ := List.forall_mem_cons.1 h
    have hkey := key_answer? hd
    rw [List.map_cons, List.filter_cons]
    split at hkey
    · obtain ⟨f, hanswer, hf⟩ := Option.map_eq_some_iff.1 hkey
      rw [List.filterMap_cons_some hanswer, List.map_cons, ih hturns, hf, if_pos ‹_›,
        List.map_cons]
    · rw [List.filterMap_cons_none (Option.map_eq_none_iff.1 hkey), ih hturns, if_neg ‹_›]

end Registry

open Registry

namespace Endpoint

variable {e e' : Endpoint σ} {s s' : σ} {report report' : ParseReport}

/-! ## What the queue takes of many frames -/

/-- The frames that the queue takes of some offered one after the other, under the numbers
that they get. -/
def takenOf (e : Endpoint σ) : List Frame → List Frame
  | [] => []
  | f :: frames => e.taken f ++ (e.enqueueFrame f).2.takenOf frames

/-- They are on the books, and their bytes are queued in a row. -/
theorem took_offer (e : Endpoint σ) (frames : List Frame) :
    Took e (e.takenOf frames) (e.offer frames) := by
  induction frames generalizing e with
  | nil => exact .nil ⟨rfl, rfl, rfl, rfl⟩
  | cons f frames ih => exact (e.took_enqueueFrame f).append (ih _)

/-- What is taken of a frame that is not admitted. -/
theorem taken_of_not_admits {f : Frame} (h : ¬ e.Admits f) : e.taken f = [] := by
  obtain ⟨_, henq⟩ := enqueueFrame_of_not_admits h
  unfold taken
  rw [henq]

/-- What is left of the queue once it took a frame. -/
theorem remaining_of_admits {f : Frame} (h : e.Admits f) :
    (e.enqueueFrame f).2.queue.remaining = e.queue.remaining - f.wireSize := by
  rw [enqueueFrame_of_admits h]
  unfold SendQueue.remaining SendQueue.size
  dsimp only
  rw [List.length_append, Frame.length_wire]
  show e.queue.capacity - (e.queue.bytes.length + f.wireSize) = _
  omega

/-- **The queue takes frames whole and in order**, and leaves out those that do not fit. -/
theorem content_takenOf (e : Endpoint σ) (frames : List Frame) :
    ((e.takenOf frames).map Frame.content).Sublist (frames.map Frame.content) := by
  induction frames generalizing e with
  | nil => exact .slnil
  | cons f frames ih =>
    unfold takenOf
    by_cases h : e.Admits f
    · rw [taken_of_admits h]
      exact (ih _).cons_cons f.content
    · rw [taken_of_not_admits h]
      exact (ih _).cons f.content

theorem length_takenOf_le (e : Endpoint σ) (frames : List Frame) :
    (e.takenOf frames).length ≤ frames.length := by
  have hle := (e.content_takenOf frames).length_le
  rwa [List.length_map, List.length_map] at hle

/-- A frame that is left out is counted as refused. -/
theorem rejected_offer (e : Endpoint σ) (frames : List Frame) :
    (e.offer frames).counters.enqueueRejected
      = e.counters.enqueueRejected.bump (frames.length - (e.takenOf frames).length) := by
  induction frames generalizing e with
  | nil => exact (Counter.bump_zero _).symm
  | cons f frames ih =>
    have hle := (e.enqueueFrame f).2.length_takenOf_le frames
    show ((e.enqueueFrame f).2.offer frames).counters.enqueueRejected = _
    rw [ih, takenOf, List.length_append, List.length_cons]
    by_cases h : e.Admits f
    · rw [taken_of_admits h, enqueueFrame_of_admits h, List.length_singleton,
        Nat.add_comm 1, Nat.add_sub_add_right]
    · obtain ⟨_, henq⟩ := enqueueFrame_of_not_admits h
      rw [henq] at hle ⊢
      rw [taken_of_not_admits h, List.length_nil, Nat.zero_add]
      dsimp only at hle ⊢
      rw [Counter.bump_bump, ← Nat.add_sub_assoc hle, Nat.add_comm 1]

/-- **All frames are taken exactly if they fit together** into what is left of the queue. -/
theorem length_takenOf_eq_iff (e : Endpoint σ) (frames : List Frame) :
    (e.takenOf frames).length = frames.length ↔
      (∀ f ∈ frames, f.payload.length ≤ e.config.frame.payloadLimit) ∧
        (frames.map Frame.wireSize).sum ≤ e.queue.remaining := by
  induction frames generalizing e with
  | nil => exact ⟨fun _ => ⟨fun f hf => absurd hf List.not_mem_nil, Nat.zero_le _⟩, fun _ => rfl⟩
  | cons f frames ih =>
    have hle := (e.enqueueFrame f).2.length_takenOf_le frames
    rw [takenOf, List.length_append, List.length_cons, List.map_cons, List.sum_cons,
      List.forall_mem_cons]
    by_cases h : e.Admits f
    · have hnext := ih (e.enqueueFrame f).2
      rw [remaining_of_admits h] at hnext
      have hconfig : (e.enqueueFrame f).2.config = e.config := by
        rw [enqueueFrame_of_admits h]
      rw [hconfig] at hnext
      obtain ⟨hfit, hroom⟩ := h
      rw [taken_of_admits ⟨hfit, hroom⟩, List.length_singleton, Nat.add_comm 1,
        Nat.add_right_cancel_iff, hnext]
      constructor
      · rintro ⟨hfits, hsum⟩
        exact ⟨⟨hfit, hfits⟩, by omega⟩
      · rintro ⟨⟨-, hfits⟩, hsum⟩
        exact ⟨hfits, by omega⟩
    · rw [taken_of_not_admits h, List.length_nil]
      constructor
      · intro hall
        omega
      · rintro ⟨⟨hfit, -⟩, hsum⟩
        exact absurd ⟨hfit, by omega⟩ h

/-! ## What the report counts -/

/-- Where handling a report raises no fault, the answer is on the report of the pass. -/
theorem replies_handle {event : SyncEvent} (hh : e.handle report s event = (.ok report', e', s')) :
    report'.replies
      = report.replies + ((turns s event).filterMap (answer? e.registry.slot)).length := by
  cases event with
  | discarded bytes reason newRun => cases newRun <;> cases hh <;> rfl
  | frame f =>
    rcases hdeliver : deliver (e.registry.slot f.key) f s with ⟨fault | d, s₁⟩
    · rw [handle_of_error hdeliver] at hh
      cases hh
    · rw [handle_of_ok hdeliver] at hh
      have hreport : report' = (e.settled f report d).1 := by
        have hanswer := congrArg Prod.fst hh
        dsimp only at hanswer
        split at hanswer
        · exact (Except.ok.inj hanswer).symm
        · cases hanswer
      have hanswer := answer?_eq e.registry.slot ⟨f, s⟩
      rw [show outcome e.registry.slot ⟨f, s⟩ = .ok d from congrArg Prod.fst hdeliver] at hanswer
      rw [hreport]
      cases d with
      | reply payload =>
        rw [turns, List.filterMap_cons_some hanswer]
        rfl
      | delivered | accepted | unregistered | lengthMismatch | rejected =>
        rw [turns, List.filterMap_cons_none hanswer]
        rfl

/-- In a pass that raises no fault, no turn raises one. -/
theorem Pass.outcome_of_ok {events : List SyncEvent} {answer : Except Fault ParseReport}
    (h : Pass e report s events answer e' s') (hok : answer = .ok report') :
    ∀ t ∈ e.course report s, ∃ d, outcome e.registry.slot t = .ok d := by
  induction h with
  | rest hp =>
    rw [course_of_rest hp]
    exact fun t ht => absurd ht List.not_mem_nil
  | fault hp hh => cases hok
  | @next e _ _ _ _ _ _ _ _ sync _ _ hp hh _ ih =>
    have hrest := ih hok
    rw [(set_of_handle hh).1] at hrest
    rw [course_of_next hp hh]
    exact List.forall_mem_append.2 ⟨outcome_of_handle (e := { e with sync }) hh, hrest⟩

/-- **The report counts every answer given out.** -/
theorem Pass.replies {events : List SyncEvent} {answer : Except Fault ParseReport}
    (h : Pass e report s events answer e' s') (hok : answer = .ok report') :
    report'.replies
      = report.replies + ((e.course report s).filterMap (answer? e.registry.slot)).length := by
  induction h with
  | rest hp =>
    rw [course_of_rest hp, ← Except.ok.inj hok]
    rfl
  | fault hp hh => cases hok
  | @next e _ _ _ _ _ _ _ _ sync _ _ hp hh _ ih =>
    rw [course_of_next hp hh, ih hok, replies_handle (e := { e with sync }) hh,
      List.filterMap_append, List.length_append, ← Nat.add_assoc, (set_of_handle hh).1]

/-- **An answer on the report is an answer given out, and need not be queued.** In a parse
pass that raises no fault every frame found has its turn. For every read request among them
there is one answer, in their order and on the key that was asked for, with the bytes that
the handler gave out; the report counts these. They are offered to the queue one after the
other; those that the queue refuses are left out and counted as refused. So the frames
queued are as many as the answers on the report if and only if all of these are within the
payload limit and fit together into what was left of the queue. -/
theorem replies_queued_iff (hparse : e.parse s = (.ok report, e', s')) :
    let turns := e.course {} s
    let replies := turns.filterMap (answer? e.registry.slot)
    let queued := e.takenOf replies
    let found := Synchronizer.frames e.sync.pollAll.1
    turns.map (·.frame) = found ∧
      replies.map (·.key) = (found.filter (asks e.registry.slot)).map (·.key) ∧
      report.replies = replies.length ∧
      (queued.map Frame.content).Sublist (replies.map Frame.content) ∧
      e'.queue.bytes = e.queue.bytes ++ Frame.wires e.config.frame queued ∧
      e'.counters.framesEnqueued = e.counters.framesEnqueued.bump queued.length ∧
      e'.counters.enqueueRejected
        = e.counters.enqueueRejected.bump (report.replies - queued.length) ∧
      (queued.length = report.replies ↔
        (∀ f ∈ replies, f.payload.length ≤ e.config.frame.payloadLimit) ∧
          (replies.map Frame.wireSize).sum ≤ e.queue.remaining) := by
  obtain ⟨hpass, -⟩ := pass_of_parse hparse
  intro turns replies queued found
  have hfound : turns.map (·.frame) = found := hpass.frames_course
  have hcount : report.replies = replies.length := by
    rw [hpass.replies rfl]
    exact Nat.zero_add _
  have hsent := hpass.ran.sent
  have htook := e.took_offer replies
  refine ⟨hfound, ?_, hcount, e.content_takenOf replies, ?_, ?_, ?_, ?_⟩
  · rw [← hfound]
    exact keys_answers (hpass.outcome_of_ok rfl)
  · rw [← hsent.queue]
    exact htook.queued
  · rw [← hsent.counted]
    exact htook.counted
  · rw [← hsent.rejected, hcount]
    exact e.rejected_offer replies
  · rw [hcount]
    exact e.length_takenOf_eq_iff replies

/-- Of two requests in one pass the first may take the room of the second: with nine bytes
to queue, both are counted as answered and one answer is queued. -/
theorem replies_queued_iff_second :
    let registry : Registry Unit :=
      Registry.register {} ⟨1, 1⟩ ((Handler.raw fun _ s => (none, s)).answering fun _ => [7])
    let request : Frame := { component := 1, data := 1 }
    let e : Endpoint Unit :=
      ({ Endpoint.new { maxQueue := 9 } with registry }.push
        (Frame.wires {} [request, request])).2
    let answer : Frame := .forKey ⟨1, 1⟩ [7]
    (e.parse ()).1.toOption = some { frames := 2, delivered := 2, replies := 2 } ∧
      (e.course {} ()).filterMap (answer? e.registry.slot) = [answer, answer] ∧
      (e.parse ()).2.1.queue.bytes = answer.wire {} ∧
      ¬ (e.takenOf [answer, answer]).length = 2 := by
  intro registry request e answer
  have hreport : (e.parse ()).1.toOption
      = some { frames := 2, delivered := 2, replies := 2 } := by
    decide +kernel
  have hcourse : (e.course {} ()).filterMap (answer? e.registry.slot) = [answer, answer] := by
    decide +kernel
  rcases hparse : e.parse () with ⟨fault | report, e', s'⟩
  · rw [hparse] at hreport
    cases hreport
  rw [hparse] at hreport
  obtain ⟨-, -, hcount, -, hbytes, -, -, hiff⟩ := replies_queued_iff hparse
  rw [hcount, hcourse] at hiff
  rw [hcourse] at hbytes
  refine ⟨hreport, hcourse, hbytes.trans (by decide +kernel), fun hall => ?_⟩
  exact absurd (hiff.1 hall).2 (by decide +kernel)

/-- A request counted as answered may get no answer at all: with eight bytes to queue there
is never room for one that has a payload. -/
theorem reply_counted_unqueued :
    let registry : Registry Unit :=
      Registry.register {} ⟨1, 1⟩ ((Handler.raw fun _ s => (none, s)).answering fun _ => [7])
    let request : Frame := { component := 1, data := 1 }
    let e : Endpoint Unit :=
      ({ Endpoint.new { maxQueue := 8 } with registry }.push (request.wire {})).2
    e.counters.framesEnqueued = 0 ∧
      (e.parse ()).1.toOption = some { frames := 1, delivered := 1, replies := 1 } ∧
      (e.parse ()).2.1.counters.framesEnqueued = 0 := by
  intro registry request e
  refine ⟨rfl, ?_, ?_⟩ <;> decide +kernel

end Endpoint

end ServoLink
