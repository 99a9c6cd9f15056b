import ServoLink.Proofs.Link.Outbound
import ServoLink.Proofs.Link.Routing
import ServoLink.Proofs.Receive.Waiting

/-!
# One frame heard

An endpoint that holds no received bytes takes in those of one frame, in any pieces,
and then parses. Whatever its history, it has room for them, and what it does is to
handle that frame and nothing else (`Ledger.heard_of_deliver`): it counts the frame as
handled or as failed, queues the answer if there is one, and ends in the state that
the handler left, as far as nothing else was done by the tap.
-/

namespace ServoLink

variable {σ α : Type}

/-- A tap that leaves what is looked at as it is. -/
def Tap.Keeps (tap : Tap σ) (look : σ → α) : Prop :=
  ∀ f d n s, look (tap f d n s).2 = look s

open Registry

namespace Endpoint

variable {e e' : Endpoint σ} {c : FrameConfig} {bound : Nat} {f : Frame} {s s' : σ}

/-! ## The receive side stays sound -/

/-- A parse pass keeps the receive side sound, however it ends. -/
theorem Pass.sound {report : ParseReport} {events : List SyncEvent}
    {answer : Except Fault ParseReport} (h : Pass e report s events answer e' s')
    (hs : e.sync.Sound c bound) : e'.sync.Sound c bound := by
  induction h with
  | rest hp =>
    have hpoll := hs.poll
    rw [hp] at hpoll
    exact hpoll
  | fault hp hh =>
    have hpoll := hs.poll
    rw [hp] at hpoll
    rw [sync_of_handle hh]
    exact hpoll
  | next hp hh _ ih =>
    have hpoll := hs.poll
    rw [hp] at hpoll
    refine ih ?_
    rw [sync_of_handle hh]
    exact hpoll

namespace Ledger

variable {t : Ledger σ}

/-- Every call keeps the receive side sound. -/
theorem sound_step (h : t.endpoint.sync.Sound c bound) (call : Call σ) :
    (t.step call).endpoint.sync.Sound c bound := by
  cases call with
  | push data =>
    have hpush := h.push data
    unfold Ledger.step Endpoint.push
    dsimp only
    split
    · rename_i hp
      rw [hp] at hpush
      exact hpush
    · exact h
  | parse =>
    obtain ⟨events, hpass⟩ := t.endpoint.exists_pass {} t.state
    exact hpass.sound h
  | register | registerWildcard | registerRemaining | onDispatch | touch | drain => exact h
  | enqueue | enqueueFrame | request =>
    unfold Ledger.step
    refine Eq.mpr ?_ h
    exact congrArg (Synchronizer.Sound c bound) (sync_enqueueFrame _ _)

/-- **Every history keeps the receive side sound.** -/
theorem sound_run (config : LinkConfig) (state : σ) (calls : List (Call σ)) :
    (run config state calls).endpoint.sync.Sound config.frame
      (max config.receiveLimit config.frame.maxFrameLength) :=
  List.foldlRecOn calls step
    (motive := fun t => t.endpoint.sync.Sound config.frame
      (max config.receiveLimit config.frame.maxFrameLength))
    (Synchronizer.sound_new _ _) fun _ h call _ => sound_step h call

end Ledger

/-! ## A frame handled -/

/-- **A frame of which its handler made an outcome `d` and a state `s`** was counted, the
answer was queued if it is one, and nothing but the tap went on from that state. -/
structure Settled (f : Frame) (d : Dispatch) (s : σ) (e e' : Endpoint σ) (s' : σ) : Prop where
  success : e'.counters.success = e.counters.success.bump (if handled (.ok d) then 1 else 0)
  decodeErrors :
    e'.counters.decodeErrors = e.counters.decodeErrors.bump (if failed (.ok d) then 1 else 0)
  took : Took e (e.takenReply f (.ok d)) e'
  state : s' = s ∨ ∃ tap n, e.tap = some tap ∧ s' = (tap f d n s).2

/-- Handling a frame settles it. -/
theorem settled_of_deliver {d : Dispatch} {s₀ : σ}
    (hdeliver : deliver (e.registry.slot f.key) f s₀ = (.ok d, s)) (report : ParseReport) :
    Settled f d s e (e.handle report s₀ (.frame f)).2.1 (e.handle report s₀ (.frame f)).2.2 := by
  let report' := { report with frames := report.frames + 1 }
  obtain ⟨⟨registry, hsettled⟩, htold, -⟩ :=
    dispatch_of_ok (e := e.noteSequence f.seq) hdeliver report'
  obtain ⟨hgood, hbad⟩ := counters_settle { e.noteSequence f.seq with registry } f report' d
  have hsame : SameOutlet { e.noteSequence f.seq with registry } e := ⟨rfl, rfl, rfl, rfl⟩
  have htook := (took_settle { e.noteSequence f.seq with registry } f report' d).congr hsame
  rw [takenReply_congr hsame, ← hsettled] at htook
  obtain ⟨-, -, htap⟩ := e.handle_frame report s₀ (.frame f)
  refine ⟨(congrArg (·.counters.success) hsettled).trans hgood,
    (congrArg (·.counters.decodeErrors) hsettled).trans hbad, htook, ?_⟩
  have hstate : (e.handle report s₀ (.frame f)).2.2
      = ((e.handle report s₀ (.frame f)).2.1.tell f d s).2 := htold
  rw [hstate]
  cases hset : e.tap with
  | none => exact .inl (congrArg Prod.snd (tell_of_tap_none (htap.trans hset) f d s))
  | some tap =>
    refine .inr ⟨tap, (e.handle report s₀ (.frame f)).2.1.counters, rfl, ?_⟩
    unfold tell
    rw [htap.trans hset]

/-- What a frame was settled with depends on the send side, the tap and two counters. -/
theorem Settled.congr {d : Dispatch} {e₁ : Endpoint σ} (h : Settled f d s e₁ e' s')
    (hsame : SameOutlet e₁ e) (htap : e₁.tap = e.tap)
    (hsuccess : e₁.counters.success = e.counters.success)
    (hfailed : e₁.counters.decodeErrors = e.counters.decodeErrors) : Settled f d s e e' s' := by
  obtain ⟨hgood, hbad, htook, hstate⟩ := h
  rw [hsuccess] at hgood
  rw [hfailed] at hbad
  rw [takenReply_congr hsame] at htook
  rw [htap] at hstate
  exact ⟨hgood, hbad, htook.congr hsame, hstate⟩

/-- What the tap leaves alone is as the handler left it. -/
theorem Settled.look {d : Dispatch} (h : Settled f d s e e' s') {look : σ → α}
    (htap : ∀ tap, e.tap = some tap → tap.Keeps look) : look s' = look s := by
  rcases h.state with rfl | ⟨tap, n, hset, rfl⟩
  · rfl
  · exact htap tap hset f d n s

/-! ## A pass over one frame -/

/-- Bytes for which there is room are taken in. -/
theorem push_of_le_room (e : Endpoint σ) (data : Bytes) (hfit : data.length ≤ e.sync.room) :
    e.push data = (.ok (), { e with
      sync := { e.sync with buffer := e.sync.buffer ++ data }
      counters := { e.counters with
        bytesReceived := e.counters.bytesReceived.bump data.length } }) := by
  unfold push
  rw [Synchronizer.push_of_le_room hfit]
  rfl

/-- **A buffer that holds one frame** is parsed to that frame, and then nothing more. -/
theorem parse_of_wire {d : Dispatch} {s₀ : σ} (ha : e.sync.Aligned)
    (hbuffer : e.sync.buffer = f.wire e.sync.config)
    (hfit : f.payload.length ≤ e.sync.config.payloadLimit)
    (hdeliver : deliver (e.registry.slot f.key) (f.received e.sync.config) s₀ = (.ok d, s)) :
    (e.parse s₀).2.1.sync.buffer = [] ∧
      Settled (f.received e.sync.config) d s e (e.parse s₀).2.1 (e.parse s₀).2.2 := by
  have hdecode : Frame.decode e.sync.buffer e.sync.config
      = .ok (some (f.received e.sync.config, f.wireSize)) := by
    rw [hbuffer]
    have hread := f.decode_wire_append e.sync.config [] hfit
    rwa [List.append_nil] at hread
  -- the frame at the front is taken, and it was all there is
  have hpoll : ∃ sync, e.sync.poll = (some (.frame (f.received e.sync.config)), sync) ∧
      sync.buffer = [] ∧ sync.Aligned := by
    have hstep := Synchronizer.poll_step ha
    generalize e.sync.poll = polled at hstep
    obtain ⟨event, sync⟩ := polled
    cases hstep with
    | wait state hd _ =>
      rw [hdecode] at hd
      cases hd
    | take hd =>
      rw [hdecode] at hd
      cases hd
      refine ⟨_, rfl, ?_, trivial⟩
      show e.sync.buffer.drop f.wireSize = []
      rw [hbuffer, ← f.length_wire e.sync.config, List.drop_length]
    | drop hk hd _ =>
      obtain ⟨err, herr⟩ := hd 0 hk
      rw [List.drop_zero, hdecode] at herr
      cases herr
  obtain ⟨sync, hpoll, hempty, haligned⟩ := hpoll
  have hsettled : Settled (f.received e.sync.config) d s e
      (handle { e with sync } {} s₀ (.frame (f.received e.sync.config))).2.1
      (handle { e with sync } {} s₀ (.frame (f.received e.sync.config))).2.2 := by
    rw [← Frame.key_received f e.sync.config] at hdeliver
    exact (settled_of_deliver (e := { e with sync }) hdeliver {}).congr ⟨rfl, rfl, rfl, rfl⟩
      rfl rfl rfl
  obtain ⟨events, hpass⟩ := e.exists_pass {} s₀
  have hparse : e.parse s₀ = e.parseFrom {} s₀ := rfl
  rw [hparse]
  generalize e.parseFrom {} s₀ = parsed at hpass ⊢
  obtain ⟨answer, e', s'⟩ := parsed
  cases hpass with
  | rest hp =>
    cases hp.symm.trans hpoll
  | fault hp hh =>
    cases hp.symm.trans hpoll
    rw [hh] at hsettled
    refine ⟨?_, hsettled⟩
    show e'.sync.buffer = []
    rw [sync_of_handle hh, hempty]
  | @next _ e₁ _ _ _ _ _ _ _ _ _ _ hp hh hrest =>
    cases hp.symm.trans hpoll
    rw [hh] at hsettled
    rw [← sync_of_handle hh] at hempty haligned
    -- an empty buffer has nothing to report
    have hnone : ∀ {event sync'}, e₁.sync.poll ≠ (some event, sync') := fun hp' => by
      have hshrinks := Synchronizer.poll_shrinks hp'
      rw [hempty] at hshrinks
      exact Nat.not_lt_zero _ hshrinks
    cases hrest with
    | rest hp' =>
      obtain ⟨hrested, -⟩ := Synchronizer.poll_none haligned hp'
      refine ⟨?_, { hsettled with took := { hsettled.took with } }⟩
      show Synchronizer.buffer _ = []
      rw [hrested]
      exact hempty
    | fault hp' => exact absurd hp' hnone
    | next hp' => exact absurd hp' hnone

namespace Ledger

variable {t : Ledger σ}

/-- Pieces that fit in all together are taken in one after the other. -/
theorem foldl_push (t : Ledger σ) (pieces : List Bytes)
    (hroom : t.endpoint.sync.buffered + pieces.flatten.length ≤ t.endpoint.sync.capacity) :
    ∃ bytesReceived, (pieces.map Call.push).foldl step t = { t with
      endpoint := { t.endpoint with
        sync := { t.endpoint.sync with buffer := t.endpoint.sync.buffer ++ pieces.flatten }
        counters := { t.endpoint.counters with bytesReceived } }
      accepted := t.accepted ++ pieces.flatten } := by
  induction pieces generalizing t with
  | nil =>
    refine ⟨t.endpoint.counters.bytesReceived, ?_⟩
    rw [List.flatten_nil, List.append_nil, List.append_nil]
    rfl
  | cons data pieces ih =>
    rw [List.flatten_cons, List.length_append] at hroom
    have hpush := t.endpoint.push_of_le_room data (by
      unfold Synchronizer.room
      unfold Synchronizer.buffered at hroom
      omega)
    have hstep : t.step (.push data) = { t with
        endpoint := { t.endpoint with
          sync := { t.endpoint.sync with buffer := t.endpoint.sync.buffer ++ data }
          counters := { t.endpoint.counters with
            bytesReceived := t.endpoint.counters.bytesReceived.bump data.length } }
        accepted := t.accepted ++ data } := by
      unfold step accepts
      dsimp only
      rw [hpush]
    obtain ⟨bytesReceived, hrest⟩ := ih (t.step (.push data)) (by
      rw [hstep]
      show (t.endpoint.sync.buffer ++ data).length + _ ≤ _
      rw [List.length_append, Nat.add_assoc]
      exact hroom)
    refine ⟨bytesReceived, ?_⟩
    rw [List.map_cons, List.foldl_cons, hrest, hstep, List.flatten_cons, ← List.append_assoc,
      ← List.append_assoc]

/-- Take in received bytes, piece by piece, and parse. -/
def hear (t : Ledger σ) (pieces : List Bytes) : Ledger σ :=
  (pieces.map Call.push ++ [Call.parse]).foldl step t

/-- A parse pass hands nothing out. -/
theorem blocks_step_parse (t : Ledger σ) : (t.step .parse).blocks = t.blocks := by
  rcases hparse : t.endpoint.parse t.state with ⟨fault | report, e', s'⟩
  · rw [step_parse_of_error hparse]
  · rw [step_parse_of_ok hparse]

/-- **An endpoint that has heard one frame**, of which its handler made an outcome `d`
and a state `s`. -/
structure Heard (f : Frame) (d : Dispatch) (s : σ) (t t' : Ledger σ) : Prop
    extends Settled f d s t.endpoint t'.endpoint t'.state where
  buffer : t'.endpoint.sync.buffer = []
  blocks : t'.blocks = t.blocks

/-- **The bytes of one frame make that frame heard**, if nothing else is held. -/
theorem heard_of_deliver {d : Dispatch} {pieces : List Bytes}
    (hsound : t.endpoint.sync.Sound c bound) (hbound : c.maxFrameLength ≤ bound)
    (hempty : t.endpoint.sync.buffer = []) (hfit : f.payload.length ≤ c.payloadLimit)
    (hpieces : pieces.flatten = f.wire c)
    (hdeliver : deliver (t.endpoint.registry.slot f.key) (f.received c) t.state = (.ok d, s)) :
    Heard (f.received c) d s t (t.hear pieces) := by
  obtain ⟨rfl, rfl, -, haligned⟩ := hsound
  obtain ⟨bytesReceived, hpushed⟩ := foldl_push t pieces (by
    unfold Synchronizer.buffered
    rw [hempty, hpieces, f.length_wire, List.length_nil, Nat.zero_add]
    exact Nat.le_trans (Nat.add_le_add_left hfit _) hbound)
  have hhear : t.hear pieces = ((pieces.map Call.push).foldl step t).step .parse :=
    List.foldl_append
  rw [hpushed, hempty, List.nil_append, hpieces] at hhear
  have ha := haligned.append (f.wire t.endpoint.sync.config)
  rw [hempty, List.nil_append] at ha
  rw [hhear]
  obtain ⟨hbuffer, hsettled⟩ := parse_of_wire (e := { t.endpoint with
    sync := { t.endpoint.sync with buffer := f.wire t.endpoint.sync.config }
    counters := { t.endpoint.counters with bytesReceived } }) ha rfl hfit hdeliver
  exact ⟨hsettled.congr ⟨rfl, rfl, rfl, rfl⟩ rfl rfl rfl, hbuffer, blocks_step_parse _⟩

/-- **A request on an empty queue** is the one frame handed out next, and nothing else
comes of it. -/
theorem request_drain {c : LinkConfig} (hstock : t.Stocked c)
    (hqueue : t.endpoint.queue.bytes = []) (hroom : headerSize ≤ c.maxQueue) (k : Key) :
    let asked := (t.step (.request k)).step .drain
    (t.endpoint.request k).1 = .ok headerSize ∧
      asked.blocks = t.blocks ++
        [Frame.wire { Frame.forKey k [] with seq := t.endpoint.nextSeq } c.frame] ∧
      asked.state = t.state ∧
      ∃ queue nextSeq counters, asked.endpoint = { t.endpoint with queue, nextSeq, counters } ∧
        queue.bytes = [] ∧ counters.success = t.endpoint.counters.success := by
  have hadmits : t.endpoint.Admits (.forKey k []) := by
    refine admits_of_empty hqueue (Nat.zero_le _) ?_
    rw [hstock.capacity]
    exact hroom
  have hrequest : t.endpoint.request k = _ := enqueueFrame_of_admits hadmits
  intro asked
  have hasked : asked = (t.step (.request k)).step .drain := rfl
  unfold Ledger.step at hasked
  dsimp only at hasked
  rw [hrequest, hqueue, List.nil_append] at hasked
  rw [hasked, hrequest, ← hstock.config]
  exact ⟨rfl, rfl, rfl, _, _, _, rfl, rfl, rfl⟩

end Ledger

end Endpoint

end ServoLink
