import ServoLink.Proofs.Device.Arrival
import ServoLink.Proofs.Link.Hearing

/-!
# Asking a station for a value

A read request is an empty frame on the key of a value. The station that is asked
answers with its value and changes nothing of its own. The answer is no request,
because a value is never empty; so it is taken like any other value that arrives, and
nothing goes back (`Station.reading_answered`).

Some keys take values and give none out. There an empty frame is a value of the wrong
length.
-/

namespace ServoLink

variable {σ τ α : Type}

/-- A payload that goes through a link whose queue is empty. -/
def LinkConfig.Carries (c : LinkConfig) (payload : Bytes) : Prop :=
  payload.length ≤ c.frame.payloadLimit ∧ headerSize + payload.length ≤ c.maxQueue

instance (c : LinkConfig) (payload : Bytes) : Decidable (c.Carries payload) :=
  inferInstanceAs (Decidable (_ ∧ _))

namespace Registry

variable {β : Type}

/-- An empty frame is a read request where requests are answered. -/
theorem deliver_request {h : Handler σ} {f : Frame} (hempty : f.payload = [])
    (respond : σ → Bytes) (s : σ) :
    deliver (.handler (h.answering respond)) f s = (.ok (.reply (respond s)), s) :=
  deliver_of_asked (h := h.answering respond) rfl hempty s

/-- Where requests are not answered an empty frame has not the length of a message. -/
theorem deliver_typed_empty [Message β] (receive : β → σ → Verdict × σ) {f : Frame}
    (hempty : f.payload = []) (hsize : Message.size β ≠ 0) (s : σ) :
    deliver (.handler (Handler.typed receive)) f s
      = (.ok (.lengthMismatch (Message.size β) 0), s) := by
  unfold deliver
  rw [hempty]
  exact if_pos (bne_iff_ne.2 hsize)

end Registry

namespace Station

variable (mount : Mount σ Station Notice)

/-- What a station has registered for a key. -/
def slot (k : Key) : Slot σ :=
  (bind mount (.new {})).registry.slot k

/-- A value that is given out on request. -/
inductive Reading where
  | motorFeedback
  | motorSetpoints
  | encoderFeedback
  | encoderInfo
  | encoderSettings
  | firmwareChunk
  | firmwareCrc
  deriving DecidableEq

namespace Reading

/-- The value, as a station has it. -/
def value : Reading → Station → Notice
  | .motorFeedback, st => .motors (.feedback st.motors.feedback)
  | .motorSetpoints, st => .motors (.setpoints st.motors.setpoints)
  | .encoderFeedback, st => .encoders (.feedback st.encoders.feedback)
  | .encoderInfo, st => .encoders (.info st.encoders.info)
  | .encoderSettings, st => .encoders (.settings st.encoders.settings)
  | .firmwareChunk, st => .update (.chunk st.update.chunk)
  | .firmwareCrc, st => .update (.crc st.update.crc)

/-- The key to ask on. -/
def key : Reading → Key
  | .motorFeedback => Motors.feedbackKey
  | .motorSetpoints => Motors.setpointKey
  | .encoderFeedback => Encoders.feedbackKey
  | .encoderInfo => Encoders.infoKey
  | .encoderSettings => Encoders.settingsKey
  | .firmwareChunk => Update.chunkKey
  | .firmwareCrc => Update.crcKey

/-- A value travels on the key it is asked for on. -/
theorem key_value (r : Reading) (st : Station) : (r.value st).key = r.key := by
  cases r <;> rfl

/-- A value that arrives is the value from then on. -/
theorem absorb_value (r : Reading) (mine theirs : Station) :
    ∃ st, mine.absorb (r.value theirs).canon = .ok st ∧ r.value st = (r.value theirs).canon := by
  cases r <;> exact ⟨_, rfl, rfl⟩

end Reading

/-- **A request is answered** with the value as it stands. -/
theorem deliver_reading (r : Reading) {f : Frame} (hempty : f.payload = []) (s : σ) :
    Registry.deliver (slot mount r.key) f s
      = (.ok (.reply (r.value (mount.get s)).payload), s) := by
  cases r <;> exact Registry.deliver_request hempty _ s

/-- The keys whose values are not given out. -/
def unreadKeys : List Key :=
  [Motors.infoKey, Motors.settingsKey, Motors.pidKey]

/-- **A request where none are answered** is a message of the wrong length. -/
theorem deliver_unread {k : Key} (hk : k ∈ unreadKeys) {f : Frame} (hempty : f.payload = [])
    (s : σ) : ∃ size, Registry.deliver (slot mount k) f s = (.ok (.lengthMismatch size 0), s) := by
  unfold unreadKeys at hk
  simp only [List.mem_cons, List.not_mem_nil, or_false] at hk
  rcases hk with rfl | rfl | rfl <;>
    exact ⟨_, Registry.deliver_typed_empty _ hempty (by decide) s⟩

open Endpoint

/-- **A link end ready to talk about a key**: what it has registered there is the
station's, no received bytes are held, and the tap leaves alone the values of the station
and the list of those announced. -/
structure Ready (log : σ → List Notice) (k : Key) (t : Ledger σ) : Prop where
  slot : t.endpoint.registry.slot k = Station.slot mount k
  buffer : t.endpoint.sync.buffer = []
  tap_get : ∀ tap, t.endpoint.tap = some tap → Tap.Keeps tap mount.get
  tap_log : ∀ tap, t.endpoint.tap = some tap → Tap.Keeps tap log

variable {mount} {log : σ → List Notice} {t : Ledger σ} {config : LinkConfig}

/-- **Hearing a request**: the value is queued, the frame is counted as handled, and the
station is as it was. -/
theorem Ready.asked {r : Reading} (h : Ready mount log r.key t) (hstock : t.Stocked config)
    (hsound : t.endpoint.sync.Sound config.frame
      (max config.receiveLimit config.frame.maxFrameLength))
    (hqueue : t.endpoint.queue.bytes = [])
    (hcarries : config.Carries (r.value (mount.get t.state)).payload) (seq : UInt8)
    {pieces : List Bytes}
    (hpieces : pieces.flatten = Frame.wire { Frame.forKey r.key [] with seq } config.frame) :
    let served := (t.hear pieces).step .drain
    let answer := Frame.forKey r.key (r.value (mount.get t.state)).payload
    served.blocks = t.blocks ++
        [Frame.wire { answer with seq := t.endpoint.nextSeq } config.frame] ∧
      served.endpoint.counters.success = t.endpoint.counters.success.bump 1 ∧
      mount.get served.state = mount.get t.state ∧ log served.state = log t.state := by
  have hdeliver := deliver_reading mount r
    (f := Frame.received { Frame.forKey r.key [] with seq } config.frame)
    (Frame.payload_received _ _) t.state
  rw [← h.slot] at hdeliver
  have hheard := Ledger.heard_of_deliver hsound (Nat.le_max_right _ _) h.buffer (Nat.zero_le _)
    hpieces hdeliver
  intro served answer
  have hadmits : t.endpoint.Admits answer := by
    refine admits_of_empty hqueue ?_ ?_
    · rw [hstock.config]
      exact hcarries.1
    · rw [hstock.capacity]
      exact hcarries.2
  have hqueued : (t.hear pieces).endpoint.queue.bytes
      = Frame.wire { answer with seq := t.endpoint.nextSeq } config.frame := by
    have htook := hheard.took.queued
    unfold takenReply at htook
    dsimp only at htook
    rw [Frame.key_received, hqueue, hstock.config] at htook
    refine htook.trans ?_
    rw [show Frame.forKey (Frame.key { Frame.forKey r.key [] with seq })
      (r.value (mount.get t.state)).payload = answer from rfl, taken_of_admits hadmits]
    exact List.append_nil _
  refine ⟨?_, hheard.success, hheard.look h.tap_get, hheard.look h.tap_log⟩
  show (t.hear pieces).blocks ++ [(t.hear pieces).endpoint.queue.bytes] = _
  rw [hheard.blocks, hqueued]

/-- **Hearing a value**: it is the value of the station from then on, it was announced
once, the frame is counted as handled, and nothing is queued. -/
theorem Ready.told {r : Reading} (hm : mount.Logged log) (h : Ready mount log r.key t)
    (hsound : t.endpoint.sync.Sound config.frame
      (max config.receiveLimit config.frame.maxFrameLength))
    (theirs : Station) {f : Frame} (hkey : f.key = r.key)
    (hpayload : f.payload = (r.value theirs).payload)
    (hfit : f.payload.length ≤ config.frame.payloadLimit)
    {pieces : List Bytes} (hpieces : pieces.flatten = f.wire config.frame) :
    let told := t.hear pieces
    r.value (mount.get told.state) = (r.value theirs).canon ∧
      log told.state = log t.state ++ [(r.value theirs).canon] ∧
      told.endpoint.counters.success = t.endpoint.counters.success.bump 1 ∧
      told.endpoint.queue.bytes = t.endpoint.queue.bytes := by
  obtain ⟨st, hstored, hvalue⟩ := r.absorb_value (mount.get t.state) theirs
  have hdeliver := Component.deliver_bind mount (.new {}) (r.value theirs)
    (f := f.received config.frame) ((Frame.payload_received _ _).trans hpayload) t.state
  have hslot : (Component.bind mount (.new {})).registry.slot (Component.key (r.value theirs))
      = t.endpoint.registry.slot f.key := by
    rw [hkey, h.slot, ← r.key_value theirs]
    rfl
  have hreceive : mount.receive Component.store (Component.canon (r.value theirs)) t.state = _ :=
    Mount.receive_of_ok hm.toLawful hstored
  rw [hslot, hreceive] at hdeliver
  have hheard := Ledger.heard_of_deliver hsound (Nat.le_max_right _ _) h.buffer hfit hpieces
    hdeliver
  refine ⟨?_, ?_, hheard.success, hheard.took.queued.trans (List.append_nil _)⟩
  · rw [hheard.look h.tap_get, hm.get_notify, hm.get_set]
    exact hvalue
  · rw [hheard.look h.tap_log, hm.log_notify, hm.log_set]
    rfl

/-- **A read request is answered, and the answer is not.** Let a host and a device of the
same frame format, after any histories, be ready to talk about a key that answers requests,
with nothing queued, and let the value fit both links. The host asks, the device takes in
what it is sent, in any pieces, and parses; the host does the same with what comes back.
Then the value of the host is written to the same bytes as that of the device, and was
announced once; nothing of the device has changed; both have counted one success; and the
host has nothing to send.

An empty frame on a key that does not answer is counted as undeliverable, and changes
nothing else. -/
theorem reading_answered :
    (∀ {σ τ : Type} (hostMount : Mount σ Station Notice) (deviceMount : Mount τ Station Notice)
        (hostLog : σ → List Notice) (deviceLog : τ → List Notice) (_ : hostMount.Logged hostLog)
        (hostConfig deviceConfig : LinkConfig) (_ : hostConfig.frame = deviceConfig.frame)
        (hostState : σ) (deviceState : τ) (hostCalls : List (Ledger.Call σ))
        (deviceCalls : List (Ledger.Call τ)) (r : Reading) (there back : List Bytes),
      let host := Ledger.run hostConfig hostState hostCalls
      let device := Ledger.run deviceConfig deviceState deviceCalls
      let asked := (host.step (.request r.key)).step .drain
      let served := (device.hear there).step .drain
      let told := asked.hear back
      let answer := r.value (deviceMount.get device.state)
      Ready hostMount hostLog r.key host → host.endpoint.queue.bytes = [] →
      Ready deviceMount deviceLog r.key device → device.endpoint.queue.bytes = [] →
      hostConfig.Carries answer.payload → deviceConfig.Carries answer.payload →
      asked.blocks = host.blocks ++ [there.flatten] →
      served.blocks = device.blocks ++ [back.flatten] →
        (host.endpoint.request r.key).1 = .ok headerSize ∧
          (r.value (hostMount.get told.state)).payload
            = (r.value (deviceMount.get served.state)).payload ∧
          hostLog told.state = hostLog host.state ++ [answer.canon] ∧
          deviceMount.get served.state = deviceMount.get device.state ∧
          deviceLog served.state = deviceLog device.state ∧
          told.endpoint.counters.success = host.endpoint.counters.success.bump 1 ∧
          served.endpoint.counters.success = device.endpoint.counters.success.bump 1 ∧
          told.endpoint.queue.bytes = []) ∧
      ∀ {σ : Type} (mount : Mount σ Station Notice) (log : σ → List Notice) (config : LinkConfig)
        (state : σ) (calls : List (Ledger.Call σ)) (f : Frame) (pieces : List Bytes),
      let t := Ledger.run config state calls
      let told := t.hear pieces
      f.key ∈ unreadKeys → f.payload = [] → Ready mount log f.key t →
      pieces.flatten = f.wire config.frame →
        (∃ size, Registry.deliver (t.endpoint.registry.slot f.key) (f.received config.frame) t.state
          = (.ok (.lengthMismatch size 0), t.state)) ∧
        told.endpoint.counters.decodeErrors = t.endpoint.counters.decodeErrors.bump 1 ∧
        told.endpoint.counters.success = t.endpoint.counters.success ∧
        told.endpoint.queue.bytes = t.endpoint.queue.bytes ∧
        mount.get told.state = mount.get t.state ∧ log told.state = log t.state := by
  constructor
  · intro σ τ hostMount deviceMount hostLog deviceLog hm hostConfig deviceConfig hframe hostState
      deviceState hostCalls deviceCalls r there back host device asked served told answer hhost
      hhostQueue hdevice hdeviceQueue hhostCarries hdeviceCarries hthere hback
    have hhostStock : host.Stocked hostConfig := Ledger.stocked_run _ _ _
    have hhostSound := Ledger.sound_run hostConfig hostState hostCalls
    obtain ⟨hrequest, hblocks, hstate, queue, nextSeq, counters, hasked, hempty, hcounted⟩ :=
      Ledger.request_drain hhostStock hhostQueue
        (Nat.le_trans (Nat.le_add_right _ _) hhostCarries.2) r.key
    have hrequested : there.flatten = _ :=
      List.singleton_inj.1 (List.append_cancel_left (hthere.symm.trans hblocks))
    rw [hframe] at hrequested
    obtain ⟨hserved, hdeviceSuccess, hget, hlog⟩ := hdevice.asked (Ledger.stocked_run _ _ _)
      (Ledger.sound_run _ _ _) hdeviceQueue hdeviceCarries _ hrequested
    have hanswered : back.flatten = _ :=
      List.singleton_inj.1 (List.append_cancel_left (hback.symm.trans hserved))
    rw [← hframe] at hanswered
    -- asking leaves the host as ready as it was
    have hready : Ready hostMount hostLog r.key asked := by
      constructor <;> rw [hasked]
      · exact hhost.slot
      · exact hhost.buffer
      · exact hhost.tap_get
      · exact hhost.tap_log
    have hsound : asked.endpoint.sync.Sound hostConfig.frame
        (max hostConfig.receiveLimit hostConfig.frame.maxFrameLength) := by
      rw [hasked]
      exact hhostSound
    obtain ⟨hvalue, hannounced, hhostSuccess, hquiet⟩ :=
      hready.told hm hsound (deviceMount.get device.state) rfl rfl hhostCarries.1 hanswered
    refine ⟨hrequest, ?_, ?_, hget, hlog, ?_, hdeviceSuccess, ?_⟩
    · rw [hvalue, hget]
      exact Component.payload_canon answer
    · rw [← hstate]
      exact hannounced
    · refine hhostSuccess.trans ?_
      rw [hasked, ← hcounted]
    · refine hquiet.trans ?_
      rw [hasked]
      exact hempty
  · intro σ mount log config state calls f pieces t told hkey hpayload hready hpieces
    obtain ⟨size, hdeliver⟩ := deliver_unread mount hkey (f := f.received config.frame)
      ((Frame.payload_received _ _).trans hpayload) t.state
    rw [← hready.slot] at hdeliver
    have hheard := Ledger.heard_of_deliver (Ledger.sound_run config state calls)
      (Nat.le_max_right _ _) hready.buffer (by rw [hpayload]; exact Nat.zero_le _) hpieces hdeliver
    exact ⟨⟨size, hdeliver⟩, hheard.decodeErrors, hheard.success.trans (Counter.bump_zero _),
      hheard.took.queued.trans (List.append_nil _), hheard.look hready.tap_get,
      hheard.look hready.tap_log⟩

/-- The settings of an encoder board are asked for and arrive, under the eyes of a tap; the
identity of a motor is not given out. -/
theorem reading_answered_settings :
    let mount := Mount.journal Station Notice
    let config : LinkConfig := { frame := { integrity := .unchecked } }
    let calls (k : Key) : List (Ledger.Call (Station × List Notice)) :=
      match slot mount k with
      | .handler h => [.register k h, .onDispatch fun _ _ _ s => (none, s)]
      | _ => []
    let board : Station := { encoders := { settings := { resetId := 4 } } }
    let host := Ledger.run config ({}, []) (calls Encoders.settingsKey)
    let device := Ledger.run config (board, []) (calls Encoders.settingsKey)
    let asked := (host.step (.request Encoders.settingsKey)).step .drain
    let request := asked.blocks.flatten
    let served := (device.hear [request.take 3, request.drop 3]).step .drain
    let told := asked.hear [served.blocks.flatten]
    let motor := Ledger.run config ({}, []) (calls Motors.infoKey)
    let refused := motor.hear [Frame.wire (.forKey Motors.infoKey []) config.frame]
    (told.state.2 = [.encoders (.settings { resetId := 4 })] ∧
        told.endpoint.queue.bytes = []) ∧
      refused.endpoint.counters.decodeErrors.val = 1 := by
  intro mount config calls board host device asked request served told motor refused
  have hready {k : Key} (st : Station) (hk : k ∈ [Encoders.settingsKey, Motors.infoKey]) :
      Ready mount Prod.snd k (Ledger.run config (st, []) (calls k)) := by
    simp only [List.mem_cons, List.not_mem_nil, or_false] at hk
    rcases hk with rfl | rfl <;>
      exact ⟨rfl, rfl, fun tap hset => by cases hset; exact fun _ _ _ _ => rfl,
        fun tap hset => by cases hset; exact fun _ _ _ _ => rfl⟩
  obtain ⟨hread, hunread⟩ := reading_answered
  obtain ⟨-, -, hlog, -, -, -, -, hqueue⟩ := hread mount mount Prod.snd Prod.snd
    (Mount.logged_journal Station Notice) config config rfl ({}, []) (board, [])
    (calls Encoders.settingsKey) (calls Encoders.settingsKey) .encoderSettings
    [request.take 3, request.drop 3] [served.blocks.flatten] (hready {} (by decide)) rfl
    (hready board (by decide)) rfl (by decide) (by decide) (by decide +kernel) (by decide +kernel)
  obtain ⟨-, hfailed, -⟩ := hunread mount Prod.snd config ({}, []) (calls Motors.infoKey)
    (.forKey Motors.infoKey []) [_] (by decide) rfl (hready {} (by decide)) (List.append_nil _)
  refine ⟨⟨hlog, hqueue⟩, ?_⟩
  have hcount : refused.endpoint.counters.decodeErrors = _ := hfailed
  rw [hcount]
  rfl

end Station

end ServoLink
