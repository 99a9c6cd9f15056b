import ServoLink.Proofs.Link.Outbox
import ServoLink.Proofs.Link.Pass

/-!
# Which frames the send queue takes

Frames come into the send queue of an endpoint from its user, and from its own
parse passes where a read request is answered. `Endpoint.taken` is the frame that
is taken of one offered, and `Endpoint.parseAnswers` lists the answers that are
taken in the course of a pass. `Endpoint.Took` says what taking frames means:
their bytes stand in a row behind those that were queued, and the endpoint has
counted as many. Queueing a frame, handling a report and whole passes take the
frames listed, and no others (`Endpoint.took_enqueueFrame`,
`Endpoint.took_handle`, `Endpoint.took_parse`).
-/

namespace ServoLink

namespace Endpoint

variable {σ : Type}

/-! ## The frames taken -/

/-- The frame that the queue takes of one offered, if it does: the same under the
next sequence number. -/
def taken (e : Endpoint σ) (f : Frame) : List Frame :=
  match (e.enqueueFrame f).1 with
  | .ok _ => [{ f with seq := e.nextSeq }]
  | .error _ => []

/-- The answer that the queue takes where routing a frame came out so, if it is
one. -/
def takenReply (e : Endpoint σ) (f : Frame) : Except Fault Dispatch → List Frame
  | .ok (.reply payload) => e.taken (.forKey f.key payload)
  | _ => []

/-- The answer that the queue takes while a report is handled, if there is
one. -/
def answers (e : Endpoint σ) (s : σ) : SyncEvent → List Frame
  | .discarded .. => []
  | .frame f => e.takenReply f (e.registry.dispatch f s).1

/-- The answers that the queue takes in the course of a parse pass, in order. -/
def parseAnswers (e : Endpoint σ) (report : ParseReport) (s : σ) : List Frame :=
  match _h : e.sync.poll with
  | (none, _) => []
  | (some event, sync) =>
    e.answers s event ++
      match _h' : handle { e with sync } report s event with
      | (.error _, _, _) => []
      | (.ok report', e', s') => e'.parseAnswers report' s'
termination_by e.sync.buffer.length
decreasing_by
  have hsync := sync_handle { e with sync } report s event
  rw [_h'] at hsync
  rw [hsync]
  exact Synchronizer.poll_shrinks _h

section

variable {e e' : Endpoint σ} {report report' : ParseReport} {s s' : σ} {event : SyncEvent}
  {sync : Synchronizer}

theorem parseAnswers_of_rest (hp : e.sync.poll = (none, sync)) :
    e.parseAnswers report s = [] := by
  rw [parseAnswers]
  split
  · rfl
  · rename_i hp'
    simp [hp] at hp'

theorem parseAnswers_of_fault {fault : Fault} (hp : e.sync.poll = (some event, sync))
    (hh : handle { e with sync } report s event = (.error fault, e', s')) :
    e.parseAnswers report s = e.answers s event := by
  rw [parseAnswers]
  split
  · rename_i hp'
    simp [hp] at hp'
  · rename_i event₁ sync₁ hp'
    obtain ⟨rfl, rfl⟩ : event = event₁ ∧ sync = sync₁ := by simpa [hp] using hp'
    split
    · exact List.append_nil _
    · rename_i hh'
      simp [hh] at hh'

theorem parseAnswers_of_next (hp : e.sync.poll = (some event, sync))
    (hh : handle { e with sync } report s event = (.ok report', e', s')) :
    e.parseAnswers report s = e.answers s event ++ e'.parseAnswers report' s' := by
  rw [parseAnswers]
  split
  · rename_i hp'
    simp [hp] at hp'
  · rename_i event₁ sync₁ hp'
    obtain ⟨rfl, rfl⟩ : event = event₁ ∧ sync = sync₁ := by simpa [hp] using hp'
    split
    · rename_i hh'
      simp [hh] at hh'
    · rename_i report₁ e₁ s₁ hh'
      obtain ⟨rfl, rfl, rfl⟩ : report' = report₁ ∧ e' = e₁ ∧ s' = s₁ := by
        simpa [hh] using hh'
      rfl

end

/-! ## What taking frames depends on -/

/-- Two endpoints with the same settings and the same send side, the count of
frames taken included. -/
structure SameOutlet (e e' : Endpoint σ) : Prop where
  config : e.config = e'.config
  queue : e.queue = e'.queue
  nextSeq : e.nextSeq = e'.nextSeq
  counted : e.counters.framesEnqueued = e'.counters.framesEnqueued

variable {e e' e'' : Endpoint σ} {frames front back : List Frame}

theorem taken_congr (h : SameOutlet e e') (f : Frame) : e.taken f = e'.taken f := by
  unfold taken enqueueFrame
  rw [h.config, h.queue, h.nextSeq]
  dsimp only
  rcases Frame.encode { f with seq := e'.nextSeq } e'.config.frame with err | encoded
  · rfl
  · dsimp only
    rcases e'.queue.enqueue encoded with ⟨err | _, queue⟩ <;> rfl

theorem takenReply_congr (h : SameOutlet e e') (f : Frame) (outcome : Except Fault Dispatch) :
    e.takenReply f outcome = e'.takenReply f outcome := by
  unfold takenReply
  split
  · exact taken_congr h _
  · rfl

/-- What a report is answered with does not depend on the receive buffer. -/
theorem answers_sync (e : Endpoint σ) (sync : Synchronizer) (s : σ) (event : SyncEvent) :
    answers { e with sync } s event = e.answers s event := by
  have hsame : SameOutlet { e with sync } e := ⟨rfl, rfl, rfl, rfl⟩
  cases event with
  | discarded bytes reason newRun => rfl
  | frame f => exact takenReply_congr hsame f _

/-! ## What taking frames means -/

/-- Some frames are on the books of an endpoint: they were counted, and all are
within the limit. -/
structure Booked (e : Endpoint σ) (frames : List Frame) (e' : Endpoint σ) : Prop where
  config : e'.config = e.config
  counted : e'.counters.framesEnqueued = e.counters.framesEnqueued.bump frames.length
  fits : ∀ f ∈ frames, f.payload.length ≤ e.config.frame.payloadLimit

/-- Where nothing is counted no frame is booked. -/
theorem Booked.nil (hconfig : e'.config = e.config)
    (hcounted : e'.counters.framesEnqueued = e.counters.framesEnqueued) : Booked e [] e' := by
  refine ⟨hconfig, ?_, fun f hf => by cases hf⟩
  rw [hcounted, List.length_nil, Counter.bump_zero]

/-- Frames booked one after the other are booked in a row. -/
theorem Booked.append (h : Booked e front e') (h' : Booked e' back e'') :
    Booked e (front ++ back) e'' := by
  refine ⟨h'.config.trans h.config, ?_, fun f hf => ?_⟩
  · rw [h'.counted, h.counted, Counter.bump_bump, List.length_append]
  · rcases List.mem_append.1 hf with hf | hf
    · exact h.fits f hf
    · rw [← h.config]
      exact h'.fits f hf

/-- **An endpoint has taken some frames**: they are on its books, and their bytes
stand in a row behind what was queued. -/
structure Took (e : Endpoint σ) (frames : List Frame) (e' : Endpoint σ) : Prop
    extends Booked e frames e' where
  queued : e'.queue.bytes = e.queue.bytes ++ Frame.wires e.config.frame frames

/-- No frame is taken where the send side stays as it is. -/
theorem Took.nil (h : SameOutlet e e') : Took e [] e' := by
  refine ⟨.nil h.config.symm h.counted.symm, ?_⟩
  rw [← h.queue]
  exact (List.append_nil _).symm

/-- Frames taken one after the other are taken in a row. -/
theorem Took.append (h : Took e front e') (h' : Took e' back e'') :
    Took e (front ++ back) e'' := by
  refine ⟨h.toBooked.append h'.toBooked, ?_⟩
  rw [h'.queued, h.queued, h.config, Frame.wires_append, List.append_assoc]

/-- Where the frames were taken from, nothing but the send side matters. -/
theorem Took.congr (h : SameOutlet e e') (htook : Took e frames e'') : Took e' frames e'' := by
  obtain ⟨⟨hconfig, hcounted, hfits⟩, hqueued⟩ := htook
  rw [h.config] at hconfig hqueued hfits
  rw [h.queue] at hqueued
  rw [h.counted] at hcounted
  exact ⟨⟨hconfig, hcounted, hfits⟩, hqueued⟩

/-! ## Who takes frames -/

/-- **Queueing a frame takes it, or nothing.** -/
theorem took_enqueueFrame (e : Endpoint σ) (f : Frame) :
    Took e (e.taken f) (e.enqueueFrame f).2 := by
  unfold taken
  rcases e.enqueueFrame_cases f with ⟨hfit, henq⟩ | ⟨err, henq⟩
  · rw [henq]
    refine ⟨⟨rfl, rfl, fun g hg => ?_⟩, ?_⟩
    · rw [List.mem_singleton.1 hg]
      exact hfit
    · show e.queue.bytes ++ Frame.wire _ _ = e.queue.bytes ++ (Frame.wire _ _ ++ [])
      rw [List.append_nil]
  · rw [henq]
    exact .nil ⟨rfl, rfl, rfl, rfl⟩

/-- Settling an outcome takes the answer, if it is one. -/
theorem took_settle (e : Endpoint σ) (f : Frame) (report : ParseReport) (d : Dispatch) :
    Took e (e.takenReply f (.ok d)) (e.settle f report d).2 := by
  cases d with
  | reply payload =>
    have hsame : SameOutlet e.countSuccess e := ⟨rfl, rfl, rfl, rfl⟩
    have htook := (e.countSuccess.took_enqueueFrame (.forKey f.key payload)).congr hsame
    rw [taken_congr hsame] at htook
    exact htook
  | delivered | accepted | unregistered => exact .nil ⟨rfl, rfl, rfl, rfl⟩
  | lengthMismatch expected actual => exact .nil ⟨rfl, rfl, rfl, rfl⟩
  | rejected reason => exact .nil ⟨rfl, rfl, rfl, rfl⟩

/-- Routing a frame takes the answer, if there is one; the tap is only told. -/
theorem took_dispatch (e : Endpoint σ) (f : Frame) (report : ParseReport) (s : σ) :
    Took e (e.takenReply f (e.registry.dispatch f s).1) (e.dispatch f report s).2.1 := by
  unfold dispatch
  rcases e.registry.dispatch f s with ⟨fault | outcome, registry, s'⟩
  · exact .nil ⟨rfl, rfl, rfl, rfl⟩
  · have hsame : SameOutlet { e with registry } e := ⟨rfl, rfl, rfl, rfl⟩
    have htook := (took_settle { e with registry } f report outcome).congr hsame
    rw [takenReply_congr hsame] at htook
    dsimp only
    split
    · exact htook
    · split <;> exact htook

/-- **Handling a report takes the answer**, if there is one. -/
theorem took_handle (e : Endpoint σ) (report : ParseReport) (s : σ) (event : SyncEvent) :
    Took e (e.answers s event) (e.handle report s event).2.1 := by
  cases event with
  | discarded bytes reason newRun => cases newRun <;> exact .nil ⟨rfl, rfl, rfl, rfl⟩
  | frame f =>
    let report := { report with frames := report.frames + 1 }
    have hsame : SameOutlet (e.noteSequence f.seq) e := ⟨rfl, rfl, rfl, rfl⟩
    have htook := ((e.noteSequence f.seq).took_dispatch f report s).congr hsame
    rw [takenReply_congr hsame] at htook
    exact htook

/-- Handling a report that was just polled. -/
theorem took_handle_polled (e : Endpoint σ) (sync : Synchronizer) (report : ParseReport)
    (s : σ) (event : SyncEvent) :
    Took e (e.answers s event) (handle { e with sync } report s event).2.1 := by
  have hsame : SameOutlet { e with sync } e := ⟨rfl, rfl, rfl, rfl⟩
  have htook := (took_handle { e with sync } report s event).congr hsame
  rw [answers_sync] at htook
  exact htook

/-- **A parse pass takes the answers of its reports**, in order, also where it
ends at a fault. -/
theorem Pass.took {report : ParseReport} {s s' : σ} {events : List SyncEvent}
    {answer : Except Fault ParseReport} (h : Pass e report s events answer e' s') :
    Took e (e.parseAnswers report s) e' := by
  induction h with
  | rest hp =>
    rw [parseAnswers_of_rest hp]
    exact .nil ⟨rfl, rfl, rfl, rfl⟩
  | @fault e _ report s _ event sync _ hp hh =>
    have htook := e.took_handle_polled sync report s event
    rw [hh] at htook
    rw [parseAnswers_of_fault hp hh]
    exact htook
  | @next e _ _ report _ s _ _ event sync _ _ hp hh _ ih =>
    have htook := e.took_handle_polled sync report s event
    rw [hh] at htook
    rw [parseAnswers_of_next hp hh]
    exact htook.append ih

theorem took_parse (e : Endpoint σ) (s : σ) :
    Took e (e.parseAnswers {} s) (e.parse s).2.1 := by
  obtain ⟨events, hpass⟩ := e.exists_pass {} s
  exact hpass.took

end Endpoint

end ServoLink
