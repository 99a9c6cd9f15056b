import ServoLink.Proofs.Link.Outbound
import ServoLink.Proofs.Link.Routing
import ServoLink.Proofs.Link.Slots

/-!
# The course of a parse pass

A parse pass gives every frame its turn, in the order in which the frames stand in
the buffer, until nothing is left or a callback raises a fault. `Endpoint.course`
lists the turns of a pass: each frame with the state that its handler finds. What
becomes of a frame is settled by its turn and its slot (`Registry.outcome`), and so
is the answer to a read request (`Registry.answer?`).

All that a pass does to the counters of outcomes, to the hits and to the send side
can be read off its course, however it ends: one turn is one count at most, and the
answers are offered to the queue one after the other (`Endpoint.Pass.ran`).
-/

namespace ServoLink

variable {σ : Type}

/-- A frame whose turn it is, with the state that its handler finds. -/
structure Turn (σ : Type) where
  /-- The frame. -/
  frame : Frame
  /-- What the handlers act on, as it is before. -/
  state : σ

namespace Registry

variable (slot : Key → Slot σ)

/-- What becomes of a frame whose turn it is. -/
def outcome (t : Turn σ) : Except Fault Dispatch :=
  (deliver (slot t.frame.key) t.frame t.state).1

/-- **The answer to a read request**: where the frame is empty and its handler answers
requests, the bytes that the handler gives out in this state, on the key that was
asked for. -/
def answer? (t : Turn σ) : Option Frame :=
  match slot t.frame.key with
  | .handler h =>
    match h.respond, t.frame.payload with
    | some respond, [] => (respond t.state).toOption.map (.forKey t.frame.key)
    | _, _ => none
  | _ => none

/-- A turn that raised a fault. -/
def faulted (t : Turn σ) : Bool :=
  match outcome slot t with
  | .ok _ => false
  | .error _ => true

/-- A turn whose frame was handled, on a given key. -/
def hit (k : Key) (t : Turn σ) : Bool :=
  handled (outcome slot t) && t.frame.key == k

variable {slot}

/-- An answer comes of a read request, and of nothing else. -/
theorem answer?_eq (slot : Key → Slot σ) (t : Turn σ) :
    answer? slot t = match outcome slot t with
      | .ok (.reply payload) => some (.forKey t.frame.key payload)
      | _ => none := by
  obtain ⟨f, s⟩ := t
  unfold answer? outcome
  dsimp only
  rcases slot f.key with _ | _ | h
  · rfl
  · rfl
  dsimp only
  by_cases hask : h.respond = none ∨ f.payload ≠ []
  · have hnone : ∀ outcome, outcome = (deliver (.handler h) f s).1 →
        (none : Option Frame) = match outcome with
          | .ok (.reply payload) => some (.forKey f.key payload)
          | _ => none := by
      intro outcome houtcome
      split
      · exact absurd houtcome.symm (deliver_ne_reply hask s _)
      · rfl
    refine Eq.trans ?_ (hnone _ rfl)
    split
    · rename_i hrespond hempty
      rcases hask with hsilent | hfull
      · cases hsilent.symm.trans hrespond
      · exact absurd hempty hfull
    · rfl
  · obtain ⟨hsome, hempty⟩ := not_or.1 hask
    obtain ⟨respond, hrespond⟩ := Option.ne_none_iff_exists'.1 hsome
    rw [deliver_of_asked hrespond (not_not.1 hempty), hrespond, not_not.1 hempty]
    dsimp only
    rcases respond s with fault | payload <;> rfl

/-- **Every turn is handled, fails, or raises a fault**, and no two of these. -/
theorem countP_outcomes (slot : Key → Slot σ) (turns : List (Turn σ)) :
    turns.countP (handled <| outcome slot ·) + turns.countP (failed <| outcome slot ·)
      + turns.countP (faulted slot) = turns.length := by
  induction turns with
  | nil => rfl
  | cons t turns ih =>
    rw [List.countP_cons, List.countP_cons, List.countP_cons, List.length_cons, ← ih]
    unfold faulted
    rcases outcome slot t with fault | d
    · simp [handled, failed]
      omega
    · cases hd : d.isSuccess <;> simp [handled, failed, hd] <;> omega

/-- Count a frame with this outcome for its key. -/
def tick (r : Registry σ) (f : Frame) (d : Dispatch) : Registry σ :=
  if d.isSuccess then { r with hitCounts := r.hitCounts.bump f.key } else r

theorem slot_tick (r : Registry σ) (f : Frame) (d : Dispatch) : (r.tick f d).slot = r.slot := by
  unfold tick
  split <;> rfl

/-- A frame that was handled is a hit of its key, and of no other. -/
theorem hits_tick (r : Registry σ) (f : Frame) (d : Dispatch) (k : Key) :
    (r.tick f d).hits k = (r.hits k).bump (if handled (.ok d) && f.key == k then 1 else 0) := by
  show _ = (r.hits k).bump (if d.isSuccess && f.key == k then 1 else 0)
  unfold tick
  by_cases hd : d.isSuccess = true
  · rw [if_pos hd]
    simp only [hd, Bool.true_and, beq_iff_eq]
    refine (r.hitCounts.get_bump f.key k).trans ?_
    by_cases hk : k = f.key
    · rw [if_pos hk, if_pos hk.symm]
      rfl
    · rw [if_neg hk, if_neg fun h => hk h.symm, Counter.bump_zero]
      rfl
  · rw [if_neg hd]
    simp only [hd, Bool.false_and, Bool.false_eq_true, if_false, Counter.bump_zero]

end Registry

open Registry

namespace Endpoint

variable {e e' e'' : Endpoint σ} {f : Frame} {s s' : σ} {report report' : ParseReport}
  {event : SyncEvent} {events : List SyncEvent} {sync : Synchronizer}

/-! ## One turn -/

/-- What a frame leaves that came to this outcome, before the tap is told. -/
def settled (e : Endpoint σ) (f : Frame) (report : ParseReport) (d : Dispatch) :
    ParseReport × Endpoint σ :=
  settle { e.noteSequence f.seq with registry := e.registry.tick f d } f
    { report with frames := report.frames + 1 } d

/-- Settling registers nothing and leaves the tap, and counts the frame for its key. -/
theorem settled_frame (e : Endpoint σ) (f : Frame) (report : ParseReport) (d : Dispatch) :
    (e.settled f report d).2.registry = e.registry.tick f d ∧
      (e.settled f report d).2.tap = e.tap := by
  obtain ⟨_, _, _, hframe⟩ := settle_frame
    { e.noteSequence f.seq with registry := e.registry.tick f d } f
    { report with frames := report.frames + 1 } d
  exact ⟨congrArg (·.registry) hframe, congrArg (·.tap) hframe⟩

/-- A fault of its handler ends the turn of a frame: its number was noted, and nothing
was counted. -/
theorem handle_of_error {fault : Fault}
    (h : deliver (e.registry.slot f.key) f s = (.error fault, s')) (report : ParseReport) :
    e.handle report s (.frame f) = (.error fault, e.noteSequence f.seq, s') :=
  dispatch_of_error (e := e.noteSequence f.seq) h _

/-- **Any other turn is settled first**, and the tap is told last, whatever it makes of
that. -/
theorem handle_of_ok {d : Dispatch} (h : deliver (e.registry.slot f.key) f s = (.ok d, s'))
    (report : ParseReport) :
    e.handle report s (.frame f) =
      (match ((e.settled f report d).2.tell f d s').1 with
        | none => .ok (e.settled f report d).1
        | some fault => .error fault,
        (e.settled f report d).2, ((e.settled f report d).2.tell f d s').2) := by
  have hrouted : e.registry.dispatch f s = (.ok d, e.registry.tick f d, s') := by
    unfold Registry.dispatch
    rw [h]
    rfl
  show (e.noteSequence f.seq).dispatch f _ s = _
  unfold dispatch
  rw [show (e.noteSequence f.seq).registry.dispatch f s = _ from hrouted]
  unfold settled tell
  dsimp only
  generalize settle _ f _ d = done
  rcases done.2.tap with _ | tap
  · rfl
  · dsimp only
    rcases tap f d done.2.counters s' with ⟨_ | fault, s''⟩ <;> rfl

/-! ## The course -/

/-- The turn that a report gives to a frame, if it is one. -/
def turns (s : σ) : SyncEvent → List (Turn σ)
  | .discarded .. => []
  | .frame f => [⟨f, s⟩]

/-- A turn that raises a fault ends the pass. -/
theorem outcome_of_handle (hh : e.handle report s event = (.ok report', e', s')) :
    ∀ t ∈ turns s event, ∃ d, outcome e.registry.slot t = .ok d := by
  intro t ht
  cases event with
  | discarded bytes reason newRun => exact absurd ht List.not_mem_nil
  | frame f =>
    rw [List.mem_singleton.1 ht]
    rcases hdeliver : deliver (e.registry.slot f.key) f s with ⟨fault | d, s₁⟩
    · rw [handle_of_error hdeliver] at hh
      cases hh
    · exact ⟨d, congrArg Prod.fst hdeliver⟩

/-- The turns of a parse pass, in order. The last one may have ended it by a fault. -/
def course (e : Endpoint σ) (report : ParseReport) (s : σ) : List (Turn σ) :=
  match _h : e.sync.poll with
  | (none, _) => []
  | (some event, sync) =>
    turns s event ++
      match _h' : handle { e with sync } report s event with
      | (.error _, _, _) => []
      | (.ok report', e', s') => e'.course report' s'
termination_by e.sync.buffer.length
decreasing_by
  have hsync := sync_handle { e with sync } report s event
  rw [_h'] at hsync
  rw [hsync]
  exact Synchronizer.poll_shrinks _h

/-- One step of a course. -/
theorem course_eq (e : Endpoint σ) (report : ParseReport) (s : σ) :
    e.course report s = match e.sync.poll with
      | (none, _) => []
      | (some event, sync) => turns s event ++
        match handle { e with sync } report s event with
        | (.error _, _, _) => []
        | (.ok report', e', s') => e'.course report' s' := by
  rw [course]
  split
  · rename_i hp
    rw [hp]
  · rename_i event sync hp
    rw [hp]
    dsimp only
    split <;> rename_i hh <;> rw [hh]

theorem course_of_rest (hp : e.sync.poll = (none, sync)) : e.course report s = [] := by
  rw [course_eq, hp]

theorem course_of_fault {fault : Fault} (hp : e.sync.poll = (some event, sync))
    (hh : handle { e with sync } report s event = (.error fault, e', s')) :
    e.course report s = turns s event := by
  rw [course_eq, hp]
  dsimp only
  rw [hh]
  exact List.append_nil _

theorem course_of_next (hp : e.sync.poll = (some event, sync))
    (hh : handle { e with sync } report s event = (.ok report', e', s')) :
    e.course report s = turns s event ++ e'.course report' s' := by
  rw [course_eq, hp]
  dsimp only
  rw [hh]

/-- A report that is a frame gives this frame its turn. -/
theorem frames_turns (s : σ) (event : SyncEvent) :
    (turns s event).map (·.frame) = Synchronizer.frames [event] := by
  cases event <;> rfl

/-- **Every frame that is found gets its turn**, once and in order. -/
theorem Pass.frames_course {answer : Except Fault ParseReport}
    (h : Pass e report s events answer e' s') :
    (e.course report s).map (·.frame) = Synchronizer.frames events := by
  induction h with
  | rest hp => rw [course_of_rest hp]; rfl
  | fault hp hh => rw [course_of_fault hp hh, frames_turns]
  | next hp hh _ ih =>
    rw [course_of_next hp hh, List.map_append, ih, frames_turns, ← Synchronizer.frames_append]
    rfl

/-! ## Offering frames to the queue -/

/-- Offer frames to the queue, one after the other. -/
def offer (e : Endpoint σ) (frames : List Frame) : Endpoint σ :=
  frames.foldl (fun e f => (e.enqueueFrame f).2) e

/-- Two endpoints with the same send side, all its counts included but that of the bytes
handed out. -/
structure SameSend (e e' : Endpoint σ) : Prop extends SameOutlet e e' where
  rejected : e.counters.enqueueRejected = e'.counters.enqueueRejected

theorem SameSend.refl (e : Endpoint σ) : SameSend e e :=
  ⟨⟨rfl, rfl, rfl, rfl⟩, rfl⟩

theorem SameSend.trans (h : SameSend e e') (h' : SameSend e' e'') : SameSend e e'' :=
  ⟨⟨h.config.trans h'.config, h.queue.trans h'.queue, h.nextSeq.trans h'.nextSeq,
    h.counted.trans h'.counted⟩, h.rejected.trans h'.rejected⟩

/-- Where the send side is the same, a frame makes the same of it. -/
theorem SameSend.enqueueFrame (h : SameSend e e') (f : Frame) :
    SameSend (e.enqueueFrame f).2 (e'.enqueueFrame f).2 := by
  have hadmits : e.Admits f ↔ e'.Admits f := by
    unfold Admits
    rw [h.config, h.queue]
  by_cases ha : e.Admits f
  · rw [enqueueFrame_of_admits ha, enqueueFrame_of_admits (hadmits.1 ha)]
    refine ⟨⟨h.config, ?_, congrArg (· + 1) h.nextSeq, congrArg (Counter.bump · 1) h.counted⟩,
      h.rejected⟩
    dsimp only
    rw [h.queue, h.nextSeq, h.config]
  · obtain ⟨_, henq⟩ := enqueueFrame_of_not_admits ha
    obtain ⟨_, henq'⟩ := enqueueFrame_of_not_admits fun ha' => ha (hadmits.2 ha')
    rw [henq, henq']
    exact ⟨⟨h.config, h.queue, h.nextSeq, h.counted⟩, congrArg (Counter.bump · 1) h.rejected⟩

theorem SameSend.offer (h : SameSend e e') (frames : List Frame) :
    SameSend (e.offer frames) (e'.offer frames) := by
  induction frames generalizing e e' with
  | nil => exact h
  | cons f frames ih => exact ih (h.enqueueFrame f)

/-! ## What comes of a course -/

/-- **An endpoint has run through some turns**: each was counted for what became of it,
and the answers were offered to the queue. -/
structure Ran (e : Endpoint σ) (turns : List (Turn σ)) (e' : Endpoint σ) : Prop where
  slots : e'.registry.slot = e.registry.slot
  tap : e'.tap = e.tap
  success : e'.counters.success
    = e.counters.success.bump (turns.countP (handled <| outcome e.registry.slot ·))
  decodeErrors : e'.counters.decodeErrors
    = e.counters.decodeErrors.bump (turns.countP (failed <| outcome e.registry.slot ·))
  hits : ∀ k, e'.registry.hits k
    = (e.registry.hits k).bump (turns.countP (hit e.registry.slot k))
  sent : SameSend (e.offer (turns.filterMap (answer? e.registry.slot))) e'

variable {front back : List (Turn σ)}

/-- Where no turn was taken. -/
theorem Ran.nil (hregistry : e'.registry = e.registry) (htap : e'.tap = e.tap)
    (hsuccess : e'.counters.success = e.counters.success)
    (hfailed : e'.counters.decodeErrors = e.counters.decodeErrors) (hsent : SameSend e e') :
    Ran e [] e' where
  slots := by rw [hregistry]
  tap := htap
  success := by rw [hsuccess, List.countP_nil, Counter.bump_zero]
  decodeErrors := by rw [hfailed, List.countP_nil, Counter.bump_zero]
  hits k := by rw [hregistry, List.countP_nil, Counter.bump_zero]
  sent := hsent

/-- Turns run through one after the other are run through in a row. -/
theorem Ran.append (h : Ran e front e') (h' : Ran e' back e'') : Ran e (front ++ back) e'' := by
  have hslot := h.slots
  refine ⟨h'.slots.trans hslot, h'.tap.trans h.tap, ?_, ?_, fun k => ?_, ?_⟩
  · rw [h'.success, h.success, hslot, Counter.bump_bump, List.countP_append]
  · rw [h'.decodeErrors, h.decodeErrors, hslot, Counter.bump_bump, List.countP_append]
  · rw [h'.hits, h.hits, hslot, Counter.bump_bump, List.countP_append]
  · have hsent := (h.sent.offer (back.filterMap (answer? e.registry.slot))).trans
      (hslot ▸ h'.sent)
    rw [List.filterMap_append]
    unfold Endpoint.offer at hsent ⊢
    rwa [List.foldl_append]

/-- Settling an outcome offers the answer, if it is one, and sends nothing else. -/
theorem sent_settle (e : Endpoint σ) (f : Frame) (report : ParseReport) (d : Dispatch) :
    SameSend (match d with
      | .reply payload => (e.enqueueFrame (.forKey f.key payload)).2
      | _ => e) (e.settle f report d).2 := by
  have hcounted : SameSend e e.countSuccess := ⟨⟨rfl, rfl, rfl, rfl⟩, rfl⟩
  cases d with
  | reply payload => exact hcounted.enqueueFrame (.forKey f.key payload)
  | delivered | accepted => exact hcounted
  | unregistered | lengthMismatch | rejected => exact ⟨⟨rfl, rfl, rfl, rfl⟩, rfl⟩

/-- A frame that came to an outcome has had its turn. -/
theorem ran_settled {d : Dispatch} (h : outcome e.registry.slot ⟨f, s⟩ = .ok d)
    (report : ParseReport) : Ran e [⟨f, s⟩] (e.settled f report d).2 := by
  let noted : Endpoint σ := { e.noteSequence f.seq with registry := e.registry.tick f d }
  obtain ⟨hgood, hbad⟩ := noted.counters_settle f { report with frames := report.frames + 1 } d
  have hsent := noted.sent_settle f { report with frames := report.frames + 1 } d
  obtain ⟨hregistry, htap⟩ := e.settled_frame f report d
  have hnoted : SameSend e noted := ⟨⟨rfl, rfl, rfl, rfl⟩, rfl⟩
  refine ⟨?_, htap, ?_, ?_, fun k => ?_, ?_⟩
  · rw [hregistry, slot_tick]
  · rw [List.countP_singleton, h]
    exact hgood
  · rw [List.countP_singleton, h]
    exact hbad
  · rw [hregistry, hits_tick, List.countP_singleton, hit, h]
  · have hanswer := answer?_eq e.registry.slot ⟨f, s⟩
    rw [h] at hanswer
    cases d with
    | reply payload =>
      rw [List.filterMap_cons_some hanswer]
      exact (hnoted.enqueueFrame (.forKey f.key payload)).trans hsent
    | delivered | accepted | unregistered | lengthMismatch | rejected =>
      rw [List.filterMap_cons_none hanswer]
      exact hnoted.trans hsent

/-- A frame whose handler raised a fault has had its turn, and nothing came of it. -/
theorem ran_fault {fault : Fault} (h : outcome e.registry.slot ⟨f, s⟩ = .error fault) :
    Ran e [⟨f, s⟩] (e.noteSequence f.seq) := by
  have hanswer := answer?_eq e.registry.slot ⟨f, s⟩
  rw [h] at hanswer
  refine ⟨rfl, rfl, ?_, ?_, fun k => ?_, ?_⟩
  · rw [List.countP_singleton, h]
    exact (Counter.bump_zero _).symm
  · rw [List.countP_singleton, h]
    exact (Counter.bump_zero _).symm
  · rw [List.countP_singleton, hit, h]
    exact (Counter.bump_zero _).symm
  · rw [List.filterMap_cons_none hanswer]
    exact ⟨⟨rfl, rfl, rfl, rfl⟩, rfl⟩

/-- **Handling a report is the turn of its frame**, if it is one. -/
theorem ran_handle (e : Endpoint σ) (report : ParseReport) (s : σ) (event : SyncEvent) :
    Ran e (turns s event) (e.handle report s event).2.1 := by
  cases event with
  | discarded bytes reason newRun =>
    cases newRun <;> exact .nil rfl rfl rfl rfl ⟨⟨rfl, rfl, rfl, rfl⟩, rfl⟩
  | frame f =>
    rcases hdeliver : deliver (e.registry.slot f.key) f s with ⟨fault | d, s'⟩
    · rw [handle_of_error hdeliver]
      exact ran_fault (congrArg Prod.fst hdeliver)
    · rw [handle_of_ok hdeliver]
      exact ran_settled (congrArg Prod.fst hdeliver) report

/-- **A parse pass runs through its course**, however it ends. -/
theorem Pass.ran {answer : Except Fault ParseReport} (h : Pass e report s events answer e' s') :
    Ran e (e.course report s) e' := by
  have hsync : ∀ (e : Endpoint σ) (sync : Synchronizer), Ran e [] { e with sync } :=
    fun _ _ => .nil rfl rfl rfl rfl ⟨⟨rfl, rfl, rfl, rfl⟩, rfl⟩
  induction h with
  | rest hp =>
    rw [course_of_rest hp]
    exact hsync _ _
  | @fault e _ report s _ event sync _ hp hh =>
    have hran := (hsync e sync).append (ran_handle { e with sync } report s event)
    rw [hh, List.nil_append] at hran
    rw [course_of_fault hp hh]
    exact hran
  | @next e _ _ report _ s _ _ event sync _ _ hp hh _ ih =>
    have hran := (hsync e sync).append (ran_handle { e with sync } report s event)
    rw [hh, List.nil_append] at hran
    rw [course_of_next hp hh]
    exact hran.append ih

end Endpoint

end ServoLink
