import ServoLink.Proofs.Link.Counting
import ServoLink.Proofs.Link.Delivery

/-!
# Frames routed one after the other

What a receiving endpoint does to the state of its handlers is what its slots do,
frame by frame, to nothing but the frames found: `Registry.deliverAll` says what
becomes of each and of the state. However bytes come in, and whatever faults are
raised on the way, the endpoint stands as if the frames found so far had been
delivered in order, and it has counted those that were handled and those that
failed (`Endpoint.Routed`).

If no frame of a stream can raise a fault, a last parse pass finds them all
(`Reception.routed_of_wires`).
-/

namespace ServoLink

variable {σ : Type}

namespace Frame

/-- What a frame says and to whom, whatever number and flags it carries. -/
def content (f : Frame) : Key × Bytes :=
  (f.key, f.payload)

/-- The way over the wire does not change what a frame says. -/
theorem content_received (f : Frame) (c : FrameConfig) : (f.received c).content = f.content := by
  unfold content
  rw [key_received, payload_received]

/-- Nor does its number. -/
theorem map_content_received (c : FrameConfig) (start : Nat) (frames : List Frame) :
    ((numbered start frames).map (·.received c)).map content = frames.map content := by
  induction frames generalizing start with
  | nil => rfl
  | cons f frames ih =>
    rw [numbered_cons, List.map_cons, List.map_cons, List.map_cons, ih, content_received]
    rfl

/-- Where frames say some values, each of them says one. -/
theorem exists_of_map_content {α : Type} {frames : List Frame} {values : List α} {say : α → Frame}
    (h : frames.map content = values.map fun v => (say v).content) {f : Frame}
    (hf : f ∈ frames) : ∃ v, f.content = (say v).content := by
  have hmem := List.mem_map_of_mem (f := content) hf
  rw [h] at hmem
  obtain ⟨v, -, hv⟩ := List.mem_map.1 hmem
  exact ⟨v, hv.symm⟩

end Frame

namespace Registry

/-! ## Delivering frames in a row -/

/-- Deliver frames one after the other: what becomes of each, and the state behind
the last. -/
def deliverAll (slot : Key → Slot σ) : List Frame → σ → List (Except Fault Dispatch) × σ
  | [], s => ([], s)
  | f :: frames, s =>
    let (outcome, s) := deliver (slot f.key) f s
    let (outcomes, s) := deliverAll slot frames s
    (outcome :: outcomes, s)

variable {slot : Key → Slot σ} {f : Frame} {s : σ}

theorem deliverAll_cons (slot : Key → Slot σ) (f : Frame) (frames : List Frame) (s : σ) :
    deliverAll slot (f :: frames) s
      = ((deliver (slot f.key) f s).1 :: (deliverAll slot frames (deliver (slot f.key) f s).2).1,
        (deliverAll slot frames (deliver (slot f.key) f s).2).2) := rfl

theorem deliverAll_concat (slot : Key → Slot σ) (frames : List Frame) (f : Frame) (s : σ) :
    deliverAll slot (frames ++ [f]) s
      = ((deliverAll slot frames s).1 ++ [(deliver (slot f.key) f (deliverAll slot frames s).2).1],
        (deliver (slot f.key) f (deliverAll slot frames s).2).2) := by
  induction frames generalizing s with
  | nil => rfl
  | cons g frames ih =>
    rw [List.cons_append, deliverAll_cons, deliverAll_cons, ih, List.cons_append]

/-- Whether a frame was handled. -/
def handled : Except Fault Dispatch → Bool
  | .ok d => d.isSuccess
  | .error _ => false

/-- Whether a frame could not be delivered. A fault is neither. -/
def failed : Except Fault Dispatch → Bool
  | .ok d => !d.isSuccess
  | .error _ => false

/-- **A slot that raises no fault** over a frame. -/
def Calm (slot : Key → Slot σ) (f : Frame) : Prop :=
  ∀ s, ∃ d, (deliver (slot f.key) f s).1 = .ok d

end Registry

open Registry

namespace Endpoint

/-! ## What routing counts -/

/-- Settling an outcome counts it as handled or as failed. -/
theorem counters_settle (e : Endpoint σ) (f : Frame) (report : ParseReport) (d : Dispatch) :
    (e.settle f report d).2.counters.success
        = e.counters.success.bump (if handled (.ok d) then 1 else 0) ∧
      (e.settle f report d).2.counters.decodeErrors
        = e.counters.decodeErrors.bump (if failed (.ok d) then 1 else 0) := by
  cases d with
  | delivered | accepted => exact ⟨rfl, (Counter.bump_zero _).symm⟩
  | reply payload =>
    obtain ⟨_, _, _, _, hqueued⟩ := e.countSuccess.enqueueFrame_intake (.forKey f.key payload)
    have hsettled : (e.settle f report (.reply payload)).2 = _ := hqueued
    rw [hsettled]
    exact ⟨rfl, (Counter.bump_zero _).symm⟩
  | unregistered | lengthMismatch | rejected => exact ⟨(Counter.bump_zero _).symm, rfl⟩

/-- Tell the tap of an outcome, if there is one. -/
def tell (e : Endpoint σ) (f : Frame) (d : Dispatch) (s : σ) : Option Fault × σ :=
  match e.tap with
  | none => (none, s)
  | some tap => tap f d e.counters s

theorem tell_of_tap_none {e : Endpoint σ} (h : e.tap = none) (f : Frame) (d : Dispatch) (s : σ) :
    e.tell f d s = (none, s) := by
  unfold tell
  rw [h]

variable {e : Endpoint σ} {f : Frame} {s s' : σ}

/-- A frame that its slot delivers is settled, and the tap is told. -/
theorem dispatch_of_ok {d : Dispatch} (h : deliver (e.registry.slot f.key) f s = (.ok d, s'))
    (report : ParseReport) :
    let after := e.dispatch f report s
    (∃ registry, after.2.1 = (settle { e with registry } f report d).2) ∧
      after.2.2 = (after.2.1.tell f d s').2 ∧
      ((after.2.1.tell f d s').1 = none → ∃ report', after.1 = .ok report') := by
  have hrouted : ∃ registry, e.registry.dispatch f s = (.ok d, registry, s') := by
    unfold Registry.dispatch
    rw [h]
    exact ⟨_, rfl⟩
  obtain ⟨registry, hrouted⟩ := hrouted
  intro after
  have hafter : after = e.dispatch f report s := rfl
  rw [dispatch, hrouted] at hafter
  dsimp only at hafter
  generalize hsettled : settle { e with registry } f report d = settled at hafter
  rcases htap : settled.2.tap with _ | tap <;> rw [htap] at hafter
  · rw [hafter, tell_of_tap_none htap]
    exact ⟨⟨registry, by rw [hsettled]⟩, rfl, fun _ => ⟨_, rfl⟩⟩
  · have htell : settled.2.tell f d s' = tap f d settled.2.counters s' := by
      unfold tell
      rw [htap]
    dsimp only at hafter
    rcases htold : tap f d settled.2.counters s' with ⟨_ | fault, s''⟩ <;> rw [htold] at hafter
    · rw [hafter, htell, htold]
      exact ⟨⟨registry, by rw [hsettled]⟩, rfl, fun _ => ⟨_, rfl⟩⟩
    · rw [hafter, htell, htold]
      exact ⟨⟨registry, by rw [hsettled]⟩, rfl, fun hnone => by cases hnone⟩

/-- A fault ends the dispatch at once. -/
theorem dispatch_of_error {fault : Fault}
    (h : deliver (e.registry.slot f.key) f s = (.error fault, s')) (report : ParseReport) :
    e.dispatch f report s = (.error fault, e, s') := by
  unfold dispatch Registry.dispatch
  rw [h]

/-! ## What is routed so far -/

/-- **An endpoint that has routed some frames**, unobserved: its state is what the
slots made of it, and its counters say what became of the frames. -/
structure Routed (slot : Key → Slot σ) (s₀ : σ) (frames : List Frame) (e : Endpoint σ) (s : σ) :
    Prop where
  tap : e.tap = none
  slots : e.registry.slot = slot
  state : s = (deliverAll slot frames s₀).2
  success : e.counters.success = Counter.bump 0 ((deliverAll slot frames s₀).1.countP handled)
  decodeErrors :
    e.counters.decodeErrors = Counter.bump 0 ((deliverAll slot frames s₀).1.countP failed)

variable {slot : Key → Slot σ} {s₀ : σ} {frames : List Frame}

/-- **One more frame is one more routed**, fault or not. -/
theorem Routed.frame (h : Routed slot s₀ frames e s) (f : Frame) (report : ParseReport) :
    Routed slot s₀ (frames ++ [f]) (e.handle report s (.frame f)).2.1
      (e.handle report s (.frame f)).2.2 := by
  obtain ⟨htap, hslot, hstate, hsuccess, hfailed⟩ := h
  obtain ⟨-, hslot', htap'⟩ := e.handle_frame report s (.frame f)
  have hall := deliverAll_concat slot frames f s₀
  rw [← hstate, ← hslot] at hall
  let report' := { report with frames := report.frames + 1 }
  rcases hdeliver : deliver (e.registry.slot f.key) f s with ⟨fault | d, s'⟩
  · rw [hdeliver] at hall
    have hhandled : e.handle report s (.frame f) = (.error fault, e.noteSequence f.seq, s') :=
      dispatch_of_error (e := e.noteSequence f.seq) hdeliver report'
    rw [hhandled] at hslot' htap' ⊢
    refine ⟨htap'.trans htap, hslot'.trans hslot, ?_, ?_, ?_⟩
    · rw [← hslot, hall]
    · rw [← hslot, hall, List.countP_append, hslot]
      exact hsuccess
    · rw [← hslot, hall, List.countP_append, hslot]
      exact hfailed
  · rw [hdeliver] at hall
    obtain ⟨⟨registry, hsettled⟩, htold, -⟩ :=
      dispatch_of_ok (e := e.noteSequence f.seq) hdeliver report'
    have hquiet := tell_of_tap_none (htap'.trans htap) f d s'
    obtain ⟨hgood, hbad⟩ := counters_settle { e.noteSequence f.seq with registry } f report' d
    refine ⟨htap'.trans htap, hslot'.trans hslot, ?_, ?_, ?_⟩
    · rw [← hslot, hall]
      exact htold.trans (congrArg Prod.snd hquiet)
    · refine (congrArg (·.counters.success) hsettled).trans (hgood.trans ?_)
      show e.counters.success.bump _ = _
      rw [hsuccess, Counter.bump_bump, ← hslot, hall, List.countP_append, List.countP_singleton]
    · refine (congrArg (·.counters.decodeErrors) hsettled).trans (hbad.trans ?_)
      show e.counters.decodeErrors.bump _ = _
      rw [hfailed, Counter.bump_bump, ← hslot, hall, List.countP_append, List.countP_singleton]

/-- Pushes and reports keep it so. -/
theorem kept_routed (slot : Key → Slot σ) (s₀ : σ) :
    Kept fun events => Routed slot s₀ (Synchronizer.frames events) where
  onSync _ h := { h with }
  onPush data h := by
    unfold push
    split <;> exact { h with }
  onHandle := by
    intro events e s report event h
    rw [Synchronizer.frames_append]
    cases event with
    | frame f => exact h.frame f report
    | discarded bytes reason newRun =>
      rw [show Synchronizer.frames [.discarded bytes reason newRun] = [] from rfl, List.append_nil]
      cases newRun <;> exact { h with }

/-- A frame that raises no fault ends no pass, if nobody observes. -/
theorem handle_of_calm (htap : e.tap = none) (hcalm : Calm e.registry.slot f)
    (report : ParseReport) : ∃ report', (e.handle report s (.frame f)).1 = .ok report' := by
  obtain ⟨d, hd⟩ := hcalm s
  have hdeliver : deliver (e.registry.slot f.key) f s
    = (.ok d, (deliver (e.registry.slot f.key) f s).2) := Prod.ext hd rfl
  obtain ⟨-, -, hok⟩ := dispatch_of_ok (e := e.noteSequence f.seq) hdeliver
    { report with frames := report.frames + 1 }
  obtain ⟨-, -, htap'⟩ := e.handle_frame report s (.frame f)
  exact hok (congrArg Prod.fst (tell_of_tap_none (htap'.trans htap) f d _))

/-- **A pass over frames that raise no fault comes to rest**, if nobody observes. -/
theorem Pass.ok_of_calm {e' : Endpoint σ} {report : ParseReport} {events : List SyncEvent}
    {answer : Except Fault ParseReport} (h : Pass e report s events answer e' s')
    (htap : e.tap = none) (hcalm : ∀ f ∈ Synchronizer.frames events, Calm e.registry.slot f) :
    ∃ report', answer = .ok report' := by
  induction h with
  | rest hp => exact ⟨_, rfl⟩
  | @fault e _ report s _ event sync _ hp hh =>
    cases event with
    | discarded bytes reason newRun => cases newRun <;> simp [handle] at hh
    | frame f =>
      obtain ⟨report', hok⟩ := handle_of_calm (e := { e with sync }) (s := s) htap
        (hcalm f (List.mem_singleton_self f)) report
      rw [hh] at hok
      cases hok
  | next hp hh _ ih =>
    obtain ⟨hslot, htap'⟩ := set_of_handle hh
    refine ih (htap'.trans htap) fun f hf => ?_
    rw [hslot]
    refine hcalm f ?_
    rw [← List.singleton_append, Synchronizer.frames_append]
    exact List.mem_append_right _ hf

/-- A pass that came to rest found what a scan finds. -/
theorem Pass.scan_of_ok {e' : Endpoint σ} {report report' : ParseReport} {c : FrameConfig}
    {stream : Bytes} {earlier events : List SyncEvent}
    (h : Pass e report s events (.ok report') e' s') (hr : e.sync.Reads c stream earlier) :
    Scan.run c stream
      = { items := Synchronizer.items (earlier ++ events), rest := e'.sync.buffer } := by
  have hkept : Kept fun _ (_ : Endpoint σ) (_ : σ) => True :=
    ⟨fun _ _ => trivial, fun _ _ => trivial, fun _ _ _ => trivial⟩
  have hr' := (h.kept hkept hr trivial).1
  have hwaits := h.waits hr.aligned rfl
  rw [hr'.config] at hwaits
  exact hr'.scan_of_none hwaits

namespace Reception

/-- **What is routed in the end.** If no frame that a scan finds in the bytes taken in can
raise a fault, then after a last parse pass exactly those frames were routed, in order,
and the rest is still held. -/
theorem run_routed (config : LinkConfig) (r : Registry σ) (s₀ : σ) (moves : List Move)
    (hcalm : ∀ f ∈ (Scan.run config.frame (run config r s₀ (moves ++ [.parse])).accepted).frames,
      Calm r.slot f) :
    let t := run config r s₀ (moves ++ [.parse])
    let scan := Scan.run config.frame t.accepted
    Routed r.slot s₀ scan.frames t.endpoint t.state ∧ t.endpoint.sync.buffer = scan.rest := by
  unfold run at hcalm ⊢
  rw [List.foldl_append] at hcalm ⊢
  obtain ⟨events, hr, hk⟩ := foldl_step_kept (kept_routed r.slot s₀)
    (t := { endpoint := { Endpoint.new config with registry := r }, state := s₀ })
    (Synchronizer.reads_new config.frame config.receiveLimit) ⟨rfl, rfl, rfl, rfl, rfl⟩ moves
  generalize moves.foldl step
    { endpoint := { Endpoint.new config with registry := r }, state := s₀ }
    = t at hr hk hcalm ⊢
  obtain ⟨later, hpass⟩ := t.endpoint.exists_pass {} t.state
  obtain ⟨hr', hk'⟩ := hpass.kept (kept_routed r.slot s₀) hr hk
  have hrest : ∃ report, (t.endpoint.parseFrom {} t.state).1 = .ok report := by
    refine hpass.ok_of_calm hk.tap fun f hf => ?_
    rw [hk.slots]
    refine hcalm f (hr'.mem_frames ?_)
    rw [Synchronizer.frames_append]
    exact List.mem_append_right _ hf
  obtain ⟨report, hreport⟩ := hrest
  rw [hreport] at hpass
  have hscan := hpass.scan_of_ok hr
  show Routed r.slot s₀ (Scan.run config.frame t.accepted).frames _ _
    ∧ _ = (Scan.run config.frame t.accepted).rest
  rw [hscan, Scan.frames_eq, Synchronizer.frames_items]
  exact ⟨hk', rfl⟩

/-- **Frames written one after the other are routed one after the other**, as they are
received, if none of them can raise a fault; and nothing is left over. -/
theorem routed_of_wires (config : LinkConfig) (r : Registry σ) (s₀ : σ) (frames : List Frame)
    (moves : List Move) (hfits : ∀ f ∈ frames, f.payload.length ≤ config.frame.payloadLimit)
    (hcalm : ∀ f ∈ frames, Calm r.slot (f.received config.frame))
    (hbytes : (run config r s₀ (moves ++ [.parse])).accepted = Frame.wires config.frame frames) :
    let b := run config r s₀ (moves ++ [.parse])
    Routed r.slot s₀ (frames.map (·.received config.frame)) b.endpoint b.state ∧
      b.endpoint.sync.buffer = [] := by
  have hscan : Scan.run config.frame (Frame.wires config.frame frames)
      = { items := frames.map fun f => .frame (f.received config.frame), rest := [] } := by
    clear hbytes hcalm
    induction frames with
    | nil => exact Scan.run_of_none rfl
    | cons f frames ih =>
      show Scan.run _ (f.wire _ ++ Frame.wires _ frames) = _
      rw [Scan.run_wire_append f _ (hfits f List.mem_cons_self),
        ih fun g hg => hfits g (List.mem_cons_of_mem _ hg)]
      rfl
  have hframes : (Scan.run config.frame (Frame.wires config.frame frames)).frames
      = frames.map (·.received config.frame) := by
    rw [hscan, Scan.frames_eq, List.filterMap_map]
    exact congrFun List.filterMap_eq_map frames
  obtain ⟨hrouted, hrest⟩ := run_routed config r s₀ moves fun f hf => by
    rw [hbytes, hframes] at hf
    obtain ⟨g, hg, rfl⟩ := List.mem_map.1 hf
    exact hcalm g hg
  rw [hbytes, hframes] at hrouted
  rw [hbytes, hscan] at hrest
  exact ⟨hrouted, hrest⟩

end Reception

end Endpoint

end ServoLink
