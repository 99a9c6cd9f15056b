import ServoLink.Proofs.Device.Arrival
import ServoLink.Proofs.Device.Unsent
import ServoLink.Proofs.Link.Routing
import ServoLink.Proofs.Link.Taken

/-!
# A peer that follows

Two ends of a link keep the values of one component each. One of them sets values and
sends them, the other takes what arrives. The two do this in different ways: a setpoint
is set in its own place and sent with the whole table, a mode is set in the settings of
a motor and sent with all of them, and the receiver finds the place in the payload. As
long as the link refuses nothing, it comes to the same: every value of the second end is
written to the same bytes as that of the first (`Component.replicates`).

The values themselves may differ, since one that carries the code of a named value
arrives under the name.
-/

namespace ServoLink

variable {σ τ α β μ κ : Type}

open Registry

/-! ## Calls that store what they send -/

namespace Component

variable [Component α μ]

/-- **A call stores what it sends**, as if it had arrived, or is refused before anything
is done. -/
inductive Sends (μ : Type) [Component α μ] (m : α) (e : Endpoint σ) : Answer σ α → Prop
  | refused {err : DeviceError} (h : err.isLocal) : Sends μ m e (.error err, m, e)
  | sent {m' : α} (v : μ) (hstore : store m v = .ok m') :
    Sends μ m e ((e.enqueue (key v) (payload v)).1.mapError .link, m',
      (e.enqueue (key v) (payload v)).2)

/-- Sending a message stores it, if the values kept are those it would make on arrival. -/
theorem sends_send [Message β] {m m' : α} {e : Endpoint σ} {k : Key} {message : β} (v : μ)
    (hstore : store m v = .ok m') (hkey : key v = k)
    (hpayload : payload v = Message.write message) :
    Sends μ m e ((e.send k message).1, m', (e.send k message).2) := by
  subst hkey
  rw [e.send_eq, ← hpayload]
  exact .sent v hstore

end Component

namespace Motors

/-- A call that sets values of the motors and sends them. -/
inductive Call where
  | setCurrent (motor : UInt8) (current : Int16)
  | setSpeed (motor : UInt8) (speed : Int16)
  | setPosition (motor : UInt8) (position : UInt16) (speed : Int16)
  | setMit (motor : UInt8) (position : UInt16) (speed : Int16) (current : UInt16)
  | setMode (motor : UInt8) (mode : MotorMode)
  | sendFeedback (table : MotorFeedbackTable)
  | sendInfo (info : MotorInfo)
  | sendSettings (settings : MotorSettings)
  | sendSetpoints
  | sendPid (pid : MotorPid)

/-- Make a call. -/
def make (m : Motors) (e : Endpoint σ) : Call → Answer σ Motors
  | .setCurrent motor current => m.setCurrent e motor current
  | .setSpeed motor speed => m.setSpeed e motor speed
  | .setPosition motor position speed => m.setPosition e motor position speed
  | .setMit motor position speed current => m.setMit e motor position speed current
  | .setMode motor mode => m.setMode e motor mode
  | .sendFeedback table => m.sendFeedback e table
  | .sendInfo info => m.sendInfo e info
  | .sendSettings settings => m.sendSettings e settings
  | .sendSetpoints => m.sendSetpoints e
  | .sendPid pid => m.sendPid e pid

variable {m m' d : Motors} {e : Endpoint σ}

open Component (Sends sends_send)

section

/-! What is stored about a motor is stored in the slot of the motor. -/

variable (m)

theorem store_info (info : MotorInfo) :
    m.store (.info info) = (payloadSlot info.motorId).map (m.setInfo · info) := by
  unfold store
  dsimp only
  cases payloadSlot info.motorId <;> rfl

theorem store_settings (settings : MotorSettings) :
    m.store (.settings settings)
      = (payloadSlot settings.motorId).map (m.setSettings · settings) := by
  unfold store
  dsimp only
  cases payloadSlot settings.motorId <;> rfl

theorem store_pid (pid : MotorPid) :
    m.store (.pid pid) = (payloadSlot pid.motorId).map (m.setPid · pid) := by
  unfold store
  dsimp only
  cases payloadSlot pid.motorId <;> rfl

end

/-- A change in the slot of a motor is made if there is such a motor. -/
theorem map_payloadSlot_eq_ok_iff {motor : UInt8} {change : Fin motorCount → Motors} :
    (payloadSlot motor).map change = .ok m' ↔ ∃ k, slot? motor = some k ∧ change k = m' := by
  unfold payloadSlot
  rcases slot? motor with _ | k
  · simp [Except.map]
  · simp [Except.map]

/-- A call about a motor is refused if there is no such motor. -/
theorem sends_at (motor : UInt8) {answer : Fin motorCount → Answer σ Motors}
    (h : ∀ k, slot? motor = some k → Sends Value m e (answer k)) :
    Sends Value m e (match callerSlot motor with
      | .error err => (.error err, m, e)
      | .ok k => answer k) := by
  unfold callerSlot
  rcases hslot : slot? motor with _ | k
  · exact .refused rfl
  · exact h k hslot

/-- A setpoint is sent with the table that it is set in. -/
theorem sends_commandSetpoint (motor : UInt8) (required : MotorMode) (setpoint : MotorSetpoint) :
    Sends Value m e (m.commandSetpoint e motor required setpoint) := by
  refine sends_at motor fun k _ => ?_
  by_cases hmode : (m.settings.get k).mode ≠ required
  · rw [if_pos hmode]
    exact .refused rfl
  · rw [if_neg hmode]
    exact sends_send (Value.setpoints (m.setSetpoint k setpoint).setpoints) rfl rfl rfl

/-- **Every call of the motors stores what it sends.** -/
theorem sends_make (m : Motors) (e : Endpoint σ) (call : Call) :
    Sends Value m e (m.make e call) := by
  have stored {motor : UInt8} {k : Fin motorCount} {change : Fin motorCount → Motors} {v : Value}
      (hstore : m.store v = (payloadSlot motor).map change) (hk : slot? motor = some k) :
      m.store v = .ok (change k) := by
    rw [hstore]
    exact map_payloadSlot_eq_ok_iff.2 ⟨k, hk, rfl⟩
  cases call with
  | setCurrent | setSpeed | setPosition | setMit => exact sends_commandSetpoint ..
  | setMode motor mode =>
    exact sends_at motor fun k hk => sends_send
      (Value.settings { m.settings.get k with motorId := motor, mode })
      (stored (store_settings m _) hk) rfl rfl
  | sendFeedback table => exact sends_send (Value.feedback table) rfl rfl rfl
  | sendInfo info =>
    exact sends_at info.motorId fun k hk =>
      sends_send (Value.info info) (stored (store_info m info) hk) rfl rfl
  | sendSettings settings =>
    exact sends_at settings.motorId fun k hk =>
      sends_send (Value.settings settings) (stored (store_settings m settings) hk) rfl rfl
  | sendSetpoints => exact sends_send (Value.setpoints m.setpoints) rfl rfl rfl
  | sendPid pid =>
    exact sends_at pid.motorId fun k hk =>
      sends_send (Value.pid pid) (stored (store_pid m pid) hk) rfl rfl

end Motors

namespace Encoders

/-- A call that sets a value of the encoders and sends it. -/
inductive Call where
  | sendFeedback (table : EncoderFeedbackTable)
  | sendInfo (info : EncoderInfo)
  | sendSettings (settings : EncoderSettings)

/-- Make a call. -/
def make (m : Encoders) (e : Endpoint σ) : Call → Answer σ Encoders
  | .sendFeedback table => m.sendFeedback e table
  | .sendInfo info => m.sendInfo e info
  | .sendSettings settings => m.sendSettings e settings

/-- **Every call of the encoders stores what it sends.** -/
theorem sends_make (m : Encoders) (e : Endpoint σ) (call : Call) :
    Component.Sends Value m e (m.make e call) := by
  cases call with
  | sendFeedback table => exact Component.sends_send (Value.feedback table) rfl rfl rfl
  | sendInfo info => exact Component.sends_send (Value.info info) rfl rfl rfl
  | sendSettings settings => exact Component.sends_send (Value.settings settings) rfl rfl rfl

end Encoders

/-! ## Values written to the same bytes -/

/-- The values of two motor controllers, written to the same bytes. -/
structure Motors.SameWire (m d : Motors) : Prop where
  feedback : Message.write m.feedback = Message.write d.feedback
  info : ∀ k, Message.write (m.info.get k) = Message.write (d.info.get k)
  settings : ∀ k, Message.write (m.settings.get k) = Message.write (d.settings.get k)
  setpoints : Message.write m.setpoints = Message.write d.setpoints
  pid : ∀ k, Message.write (m.pid.get k) = Message.write (d.pid.get k)

/-- The values of two encoder boards, written to the same bytes. -/
structure Encoders.SameWire (m d : Encoders) : Prop where
  feedback : Message.write m.feedback = Message.write d.feedback
  info : Message.write m.info = Message.write d.info
  settings : Message.write m.settings = Message.write d.settings

/-- Replacing an item on both sides. -/
theorem Message.write_get_set [Message α] {n : Nat} {v w : Vector α n}
    (h : ∀ j, Message.write (v.get j) = Message.write (w.get j)) {a b : α}
    (hab : Message.write a = Message.write b) (k j : Fin n) :
    Message.write ((v.set k.val a k.isLt).get j)
      = Message.write ((w.set k.val b k.isLt).get j) := by
  have hget (u : Vector α n) (x : α) :
      (u.set k.val x k.isLt).get j = if k.val = j.val then x else u.get j :=
    Vector.getElem_set ..
  rw [hget, hget]
  split
  · exact hab
  · exact h j

namespace Motors

variable {m d m' : Motors}

/-- A change in the slot of a motor that is made here is made there, if the two are alike. -/
theorem sameWire_map_payloadSlot {motor : UInt8} {change change' : Fin motorCount → Motors}
    (hmade : (payloadSlot motor).map change = .ok m')
    (h : ∀ k, (change k).SameWire (change' k)) :
    ∃ d', (payloadSlot motor).map change' = .ok d' ∧ m'.SameWire d' := by
  obtain ⟨k, hk, rfl⟩ := map_payloadSlot_eq_ok_iff.1 hmade
  exact ⟨change' k, map_payloadSlot_eq_ok_iff.2 ⟨k, hk, rfl⟩, h k⟩

/-- **What is stored here is stored there.** -/
theorem SameWire.store (h : m.SameWire d) {v : Value} (hstore : m.store v = .ok m') :
    ∃ d', d.store v.canon = .ok d' ∧ m'.SameWire d' := by
  cases v with
  | feedback table =>
    cases hstore
    exact ⟨_, rfl, { h with feedback := (Message.write_canon table).symm }⟩
  | setpoints table =>
    cases hstore
    exact ⟨_, rfl, { h with setpoints := (Message.write_canon table).symm }⟩
  | info info =>
    rw [store_info] at hstore
    unfold Value.canon
    rw [store_info]
    refine sameWire_map_payloadSlot hstore fun k => { h with info := ?_ }
    exact Message.write_get_set h.info (Message.write_canon info).symm k
  | settings settings =>
    rw [store_settings] at hstore
    unfold Value.canon
    rw [store_settings]
    refine sameWire_map_payloadSlot hstore fun k => { h with settings := ?_ }
    exact Message.write_get_set h.settings (Message.write_canon settings).symm k
  | pid pid =>
    rw [store_pid] at hstore
    unfold Value.canon
    rw [store_pid]
    refine sameWire_map_payloadSlot hstore fun k => { h with pid := ?_ }
    exact Message.write_get_set h.pid (Message.write_canon pid).symm k

end Motors

/-- What is stored here is stored there. -/
theorem Encoders.SameWire.store {m d m' : Encoders} (h : m.SameWire d) {v : Value}
    (hstore : m.store v = .ok m') : ∃ d', d.store v.canon = .ok d' ∧ m'.SameWire d' := by
  cases v with
  | feedback table =>
    cases hstore
    exact ⟨_, rfl, { h with feedback := (Message.write_canon table).symm }⟩
  | info info =>
    cases hstore
    exact ⟨_, rfl, { h with info := (Message.write_canon info).symm }⟩
  | settings settings =>
    cases hstore
    exact ⟨_, rfl, { h with settings := (Message.write_canon settings).symm }⟩

/-! ## Histories of calls -/

/-- What is done to a component that sends its values. -/
inductive Session.Call (κ : Type) where
  /-- A call is made. -/
  | make (call : κ)
  /-- Every byte queued is handed out. -/
  | drain

/-- A history of calls of one component of one endpoint. -/
structure Session (σ α : Type) where
  /-- The endpoint as it is now. -/
  endpoint : Endpoint σ
  /-- The values of the component. -/
  values : α
  /-- What the calls answered, in order. -/
  answers : List (Except DeviceError Nat) := []
  /-- The bytes of all drains, in order. -/
  drained : Bytes := []

namespace Session

/-- One call, made as the component makes it. -/
def step (make : α → Endpoint σ → κ → Answer σ α) (t : Session σ α) : Call κ → Session σ α
  | .make call =>
    { t with
      endpoint := (make t.values t.endpoint call).2.2
      values := (make t.values t.endpoint call).2.1
      answers := t.answers ++ [(make t.values t.endpoint call).1] }
  | .drain =>
    { t with
      endpoint := t.endpoint.drain.2
      drained := t.drained ++ t.endpoint.drain.1 }

/-- A history of calls with a fresh endpoint and these values. -/
def run (make : α → Endpoint σ → κ → Answer σ α) (config : LinkConfig) (values : α)
    (calls : List (Call κ)) : Session σ α :=
  calls.foldl (step make) { endpoint := .new config, values }

/-- Whether an answer is none that the link gave for want of room or for a payload too
long. -/
def unhindered : Except DeviceError Nat → Bool
  | .ok _ => true
  | .error err => err.isLocal

/-- No call failed because of the link. -/
def Unhindered (t : Session σ α) : Prop :=
  ∀ answer ∈ t.answers, unhindered answer

instance (t : Session σ α) : Decidable t.Unhindered :=
  inferInstanceAs (Decidable (∀ answer ∈ t.answers, unhindered answer))

open Endpoint Component

variable [Component α μ] {make : α → Endpoint σ → κ → Answer σ α} {t : Session σ α}
  {o : Outbox σ} {c : FrameConfig} {values : List μ} {m₀ : α}

/-- **A history has spoken some values**: they are what its endpoint has taken, as an
outbox lists it, and storing them one after the other makes its values. -/
structure Spoken (c : FrameConfig) (m₀ : α) (values : List μ) (o : Outbox σ)
    (t : Session σ α) : Prop where
  accounts : o.Accounts c
  endpoint : o.endpoint = t.endpoint
  drained : o.drained = t.drained
  taken : o.sent ++ o.waiting = values.map frame
  stored : values.foldlM store m₀ = .ok t.values
  counted : t.answers.countP (·.isOk) = values.length
  booked : t.endpoint.counters.framesEnqueued = Counter.bump 0 values.length

/-- Handing out bytes speaks no more values. -/
theorem Spoken.drain (h : Spoken c m₀ values o t) :
    Spoken c m₀ values (o.step .drain) (t.step make .drain) where
  accounts := h.accounts.step .drain
  endpoint := congrArg (·.drain.2) h.endpoint
  drained := by
    show o.drained ++ o.endpoint.drain.1 = t.drained ++ t.endpoint.drain.1
    rw [h.endpoint, h.drained]
  taken := by
    show o.sent ++ o.waiting ++ [] = _
    rw [List.append_nil, h.taken]
  stored := h.stored
  counted := h.counted
  booked := h.booked

/-- A call that the link does not refuse speaks the value it stores, or none. -/
theorem Spoken.call (h : Spoken c m₀ values o t) (hmake : ∀ m e call, Sends μ m e (make m e call))
    (call : κ) (hlink : (t.step make (.make call)).Unhindered) :
    ∃ (values' : List μ) (o' : Outbox σ), Spoken c m₀ values' o' (t.step make (.make call)) := by
  have hsends := hmake t.values t.endpoint call
  have hanswer : ∀ err, (make t.values t.endpoint call).1 ≠ .error (.link err) := by
    intro err herr
    have hbad := hlink _ (List.mem_append_right _ (List.mem_singleton_self _))
    rw [herr] at hbad
    cases hbad
  unfold step
  dsimp only
  generalize make t.values t.endpoint call = answer at hsends hanswer
  cases hsends with
  | refused hlocal =>
    refine ⟨values, o, { h with counted := ?_ }⟩
    show (t.answers ++ [_]).countP _ = _
    rw [List.countP_append, h.counted]
    rfl
  | sent v hstore =>
    refine ⟨values ++ [v], o.step (.enqueue (key v) (payload v)), ?_⟩
    have hpair : ∃ size e', t.endpoint.enqueue (key v) (payload v) = (.ok size, e') := by
      rcases henq : t.endpoint.enqueue (key v) (payload v) with ⟨err | size, e'⟩
      · exact absurd (by rw [henq]; rfl) (hanswer err)
      · exact ⟨size, e', rfl⟩
    obtain ⟨size, e', henq⟩ := hpair
    have hoffer : o.step (.enqueue (key v) (payload v))
        = { o with endpoint := e', waiting := o.waiting ++ [frame v] } := by
      show o.offer _ (o.endpoint.enqueue _ _) = _
      rw [h.endpoint, henq]
      rfl
    have haccounts := h.accounts.step (.enqueue (key v) (payload v))
    rw [hoffer] at haccounts ⊢
    rw [henq]
    refine ⟨haccounts, rfl, h.drained, ?_, ?_, ?_, ?_⟩
    · show o.sent ++ (o.waiting ++ [frame v]) = _
      rw [← List.append_assoc, h.taken, List.map_append]
      rfl
    · rw [List.foldlM_append, h.stored]
      show (store t.values v >>= pure) = _
      rw [hstore]
      rfl
    · show (t.answers ++ [_]).countP _ = _
      rw [List.countP_append, h.counted, List.length_append]
      rfl
    · have htaken := (t.endpoint.took_enqueueFrame (frame v)).counted
      have hone : t.endpoint.taken (frame v) = [{ frame v with seq := t.endpoint.nextSeq }] := by
        unfold Endpoint.taken
        rw [show t.endpoint.enqueueFrame (frame v) = (.ok size, e') from henq]
      rw [hone, show (t.endpoint.enqueueFrame (frame v)).2 = e' from congrArg Prod.snd henq,
        h.booked, Counter.bump_bump] at htaken
      rw [List.length_append]
      exact htaken

/-- Answers are not forgotten. -/
theorem unhindered_of_foldl {calls : List (Call κ)}
    (h : (calls.foldl (step make) t).Unhindered) : t.Unhindered := by
  induction calls generalizing t with
  | nil => exact h
  | cons call calls ih =>
    have hstep : (t.step make call).Unhindered := ih h
    cases call with
    | make call => exact fun answer h => hstep answer (List.mem_append_left _ h)
    | drain => exact hstep

/-- **A history in which the link refuses nothing speaks values.** -/
theorem spoken_run (hmake : ∀ m e call, Sends μ m e (make m e call)) (config : LinkConfig)
    (m₀ : α) (calls : List (Call κ)) (hlink : (run make config m₀ calls).Unhindered) :
    ∃ (values : List μ) (o : Outbox σ),
      Spoken config.frame m₀ values o (run make config m₀ calls) := by
  have hnew : Spoken (μ := μ) config.frame m₀ [] ({ endpoint := .new config } : Outbox σ)
      { endpoint := .new config, values := m₀ } :=
    ⟨Outbox.accounts_run config [], rfl, rfl, rfl, rfl, rfl, rfl⟩
  unfold run at hlink ⊢
  generalize ([] : List μ) = values, ({ endpoint := .new config } : Outbox σ) = o,
    ({ endpoint := .new config, values := m₀ } : Session σ α) = t at hnew hlink
  induction calls generalizing t values o with
  | nil => exact ⟨values, o, hnew⟩
  | cons call calls ih =>
    cases call with
    | make call =>
      obtain ⟨values', o', h⟩ := hnew.call hmake call (unhindered_of_foldl hlink)
      exact ih values' o' _ h hlink
    | drain => exact ih values _ _ hnew.drain hlink

end Session

/-! ## The values that arrive -/

namespace Component

open Endpoint

variable [Component α μ] {mount : Mount σ α μ} {slot : Key → Slot σ} {R : α → α → Prop}
  {m m' : α} {s : σ} {values : List μ} {frames : List Frame}

/-- A frame that says a value comes to what the component makes of it. -/
theorem deliver_of_content {e₀ : Endpoint σ}
    (hslot : ∀ v : μ, slot (key v) = (bind mount e₀).registry.slot (key v)) {f : Frame} {v : μ}
    (hf : f.content = (frame v).content) (s : σ) :
    deliver (slot f.key) f s
      = ((mount.receive store (canon v) s).1.outcome, (mount.receive store (canon v) s).2) := by
  obtain ⟨hkey, hpayload⟩ := Prod.mk.inj hf
  rw [show f.key = key v from hkey, hslot]
  exact deliver_bind mount e₀ v hpayload s

/-- So it raises no fault. -/
theorem calm_of_content {e₀ : Endpoint σ} (hm : mount.Lawful)
    (hslot : ∀ v : μ, slot (key v) = (bind mount e₀).registry.slot (key v)) {f : Frame} {v : μ}
    (hf : f.content = (frame v).content) : Calm slot f := fun s => by
  rw [deliver_of_content hslot hf s]
  exact Mount.calm_receive hm _ s

/-- Storing some values stores the first, and then the others. -/
theorem foldlM_store_cons {v : μ} (h : (v :: values).foldlM store m = .ok m') :
    ∃ m₁, store m v = .ok m₁ ∧ values.foldlM store m₁ = .ok m' := by
  rw [List.foldlM_cons] at h
  rcases hfirst : store m v with err | m₁ <;> rw [hfirst] at h
  · cases h
  · exact ⟨m₁, rfl, h⟩

/-- **Values that arrive are followed.** If storing a value here is matched by storing there
what arrives of it, then so is storing many, and each frame is delivered. -/
theorem deliverAll_values {e₀ : Endpoint σ} (hm : mount.Lawful)
    (hslot : ∀ v : μ, slot (key v) = (bind mount e₀).registry.slot (key v))
    (hR : ∀ {m d m' : α} {v : μ}, R m d → store m v = .ok m' →
      ∃ d', store d (canon v) = .ok d' ∧ R m' d')
    (hframes : frames.map Frame.content = values.map fun v => (frame v).content)
    (hstored : values.foldlM store m = .ok m') (hs : R m (mount.get s)) :
    R m' (mount.get (deliverAll slot frames s).2) ∧
      (deliverAll slot frames s).1 = List.replicate values.length (.ok .delivered) := by
  induction values generalizing m s frames with
  | nil =>
    obtain rfl : frames = [] := List.map_eq_nil_iff.1 hframes
    obtain rfl : m = m' := Except.ok.inj hstored
    exact ⟨hs, rfl⟩
  | cons v values ih =>
    obtain ⟨f, frames, rfl, hf, hrest⟩ := List.map_eq_cons_iff.1 hframes
    obtain ⟨m₁, hfirst, hothers⟩ := foldlM_store_cons hstored
    obtain ⟨d', hd, hR'⟩ := hR hs hfirst
    have hdeliver := deliver_of_content hslot hf s
    rw [mount.receive_of_ok hm hd] at hdeliver
    rw [deliverAll_cons, hdeliver]
    let s' := (mount.notify (canon v) (mount.set d' s)).2
    obtain ⟨hstate, houtcomes⟩ := ih hrest hothers (s := s') (by
      rw [hm.get_notify, hm.get_set]
      exact hR')
    exact ⟨hstate, congrArg (_ :: ·) houtcomes⟩

/-- **A peer follows** a component that stores what it sends, if what is stored here can be
matched there. -/
theorem follows_of_sends {make : α → Endpoint τ → κ → Answer τ α}
    (hmake : ∀ m e call, Sends μ m e (make m e call))
    (hR : ∀ {m d m' : α} {v : μ}, R m d → store m v = .ok m' →
      ∃ d', store d (canon v) = .ok d' ∧ R m' d')
    (hm : mount.Lawful) (host device : LinkConfig) (hframe : host.frame = device.frame)
    (e₀ : Endpoint σ) {m₀ : α} {s₀ : σ} (hs : R m₀ (mount.get s₀)) (calls : List (Session.Call κ))
    (moves : List Reception.Move)
    (hlink : (Session.run make host m₀ (calls ++ [.drain])).Unhindered)
    (hbytes : (Reception.run device (bind mount e₀).registry s₀ (moves ++ [.parse])).accepted
      = (Session.run make host m₀ (calls ++ [.drain])).drained) :
    let a := Session.run make host m₀ (calls ++ [.drain])
    let b := Reception.run device (bind mount e₀).registry s₀ (moves ++ [.parse])
    R a.values (mount.get b.state) ∧
      b.endpoint.counters.success = Counter.bump 0 (a.answers.countP (·.isOk)) ∧
      b.endpoint.counters.success = a.endpoint.counters.framesEnqueued ∧
      b.endpoint.counters.decodeErrors = 0 := by
  intro a b
  -- the last drain hands out all that was spoken
  have hrun : Session.run make host m₀ (calls ++ [.drain])
      = (Session.run make host m₀ calls).step make .drain := List.foldl_append
  rw [hrun] at hlink hbytes
  obtain ⟨values, o, hspoken⟩ := Session.spoken_run hmake host m₀ calls hlink
  have h : Session.Spoken host.frame m₀ values (o.step .drain)
      ((Session.run make host m₀ calls).step make .drain) := hspoken.drain
  have hsent : (o.step .drain).sent = values.map frame :=
    (List.append_nil _).symm.trans h.taken
  have haccounts := h.accounts
  rw [hframe] at haccounts
  have hwires := haccounts.drained
  rw [hsent, h.drained, ← hbytes] at hwires
  have hcontent := Frame.map_content_received device.frame 0 (values.map frame)
  rw [List.map_map (f := frame)] at hcontent
  have hfits : ∀ g ∈ Frame.numbered 0 (values.map frame),
      g.payload.length ≤ device.frame.payloadLimit := by
    intro g hg
    obtain ⟨f, hf, hpayload⟩ := Frame.payload_of_mem_numbered hg
    rw [hpayload]
    refine haccounts.fits f (List.mem_append_left _ ?_)
    rw [hsent]
    exact hf
  have hcalm : ∀ g ∈ Frame.numbered 0 (values.map frame),
      Calm (bind mount e₀).registry.slot (g.received device.frame) := by
    intro g hg
    obtain ⟨v, hv⟩ := Frame.exists_of_map_content hcontent
      (List.mem_map_of_mem (f := (·.received device.frame)) hg)
    exact calm_of_content hm (fun _ => rfl) hv
  obtain ⟨hrouted, -⟩ := Reception.routed_of_wires device _ s₀ _ moves hfits hcalm hwires
  obtain ⟨hvalues, houtcomes⟩ := deliverAll_values hm (fun _ => rfl) hR hcontent h.stored hs
  have hsuccess := hrouted.success
  have hfailed := hrouted.decodeErrors
  rw [houtcomes, List.countP_replicate] at hsuccess hfailed
  refine ⟨?_, ?_, ?_, hfailed⟩
  · rw [hrouted.state]
    show R (Session.run make host m₀ (calls ++ [.drain])).values _
    rw [hrun]
    exact hvalues
  · show _ = Counter.bump 0 ((Session.run make host m₀ (calls ++ [.drain])).answers.countP _)
    rw [hrun, h.counted]
    exact hsuccess
  · show _ = (Session.run make host m₀ (calls ++ [.drain])).endpoint.counters.framesEnqueued
    rw [hrun, h.booked]
    exact hsuccess

end Component

/-- **A peer follows.** Let a fresh host with fresh values make calls, none of which the link
refuses, and let a device of the same frame format with fresh values take in all that the
host hands out, in any pieces and with parse passes anywhere in between. After a last pass
every value of the device is written to the same bytes as that of the host; the device has
counted a success for every frame sent, and no failure. So it is for motors, and for
encoders. -/
theorem Component.replicates :
    (∀ {σ τ : Type} (mount : Mount σ Motors Motors.Value) (_ : mount.Lawful)
        (host device : LinkConfig) (_ : host.frame = device.frame) (e₀ : Endpoint σ) (s₀ : σ)
        (_ : mount.get s₀ = .fresh) (calls : List (Session.Call Motors.Call))
        (moves : List Endpoint.Reception.Move),
      let a := Session.run (σ := τ) Motors.make host .fresh (calls ++ [.drain])
      let b := Endpoint.Reception.run device (Motors.bind mount e₀).registry s₀ (moves ++ [.parse])
      a.Unhindered → b.accepted = a.drained →
        a.values.SameWire (mount.get b.state) ∧
          b.endpoint.counters.success = Counter.bump 0 (a.answers.countP (·.isOk)) ∧
          b.endpoint.counters.success = a.endpoint.counters.framesEnqueued ∧
          b.endpoint.counters.decodeErrors = 0) ∧
      ∀ {σ τ : Type} (mount : Mount σ Encoders Encoders.Value) (_ : mount.Lawful)
        (host device : LinkConfig) (_ : host.frame = device.frame) (e₀ : Endpoint σ) (s₀ : σ)
        (_ : mount.get s₀ = {}) (calls : List (Session.Call Encoders.Call))
        (moves : List Endpoint.Reception.Move),
      let a := Session.run (σ := τ) Encoders.make host {} (calls ++ [.drain])
      let b := Endpoint.Reception.run device (Encoders.bind mount e₀).registry s₀
        (moves ++ [.parse])
      a.Unhindered → b.accepted = a.drained →
        a.values.SameWire (mount.get b.state) ∧
          b.endpoint.counters.success = Counter.bump 0 (a.answers.countP (·.isOk)) ∧
          b.endpoint.counters.success = a.endpoint.counters.framesEnqueued ∧
          b.endpoint.counters.decodeErrors = 0 := by
  constructor
  · intro σ τ mount hm host device hframe e₀ s₀ hfresh calls moves a b hlink hbytes
    refine follows_of_sends (R := Motors.SameWire) Motors.sends_make (fun h => h.store) hm host
      device hframe e₀ ?_ calls moves hlink hbytes
    rw [hfresh]
    exact ⟨rfl, fun _ => rfl, fun _ => rfl, rfl, fun _ => rfl⟩
  · intro σ τ mount hm host device hframe e₀ s₀ hfresh calls moves a b hlink hbytes
    refine follows_of_sends (R := Encoders.SameWire) Encoders.sends_make (fun h => h.store) hm
      host device hframe e₀ ?_ calls moves hlink hbytes
    rw [hfresh]
    exact ⟨rfl, rfl, rfl⟩

/-- A mode without a name arrives under the name of its code, the refused calls send nothing,
and the setpoint finds its place; an encoder board follows as well. -/
theorem Component.replicates_unnamed_mode :
    let config : LinkConfig := { frame := { integrity := .unchecked } }
    let calls : List (Session.Call Motors.Call) :=
      [.make (.setMode 2 (.other 1)), .drain, .make (.setCurrent 3 7), .make (.setSpeed 2 5),
        .make (.setSpeed 8 5)]
    let a := Session.run (σ := Unit) Motors.make config .fresh (calls ++ [.drain])
    let e₀ : Endpoint Motors := .new config
    let b := Endpoint.Reception.run config (Motors.bind (.whole Motors Motors.Value) e₀).registry
      .fresh ([.push (a.drained.take 9), .parse, .push (a.drained.drop 9)] ++ [.parse])
    let host := Session.run (σ := Unit) Encoders.make config {}
      ([.make (.sendSettings { resetId := 4 })] ++ [.drain])
    let board : Endpoint Encoders := .new config
    let device := Endpoint.Reception.run config
      (Encoders.bind (.whole Encoders Encoders.Value) board).registry {}
      ([.push host.drained] ++ [.parse])
    (a.values.SameWire b.state ∧ a.values ≠ b.state ∧ b.endpoint.counters.success.val = 2) ∧
      host.values.SameWire device.state ∧ device.state.settings.resetId = 4 := by
  intro config calls a e₀ b host board device
  have hlaw {α μ : Type} : (Mount.whole α μ).Lawful :=
    ⟨fun _ _ => rfl, fun _ _ => rfl, fun _ _ => rfl⟩
  obtain ⟨hmotors, hencoders⟩ := Component.replicates
  obtain ⟨hsame, hsuccess, -, -⟩ := hmotors (τ := Unit) (.whole Motors Motors.Value) hlaw config
    config rfl e₀ .fresh rfl calls [.push (a.drained.take 9), .parse, .push (a.drained.drop 9)]
    (by decide +kernel) (by decide +kernel)
  obtain ⟨hboard, -⟩ := hencoders (τ := Unit) (.whole Encoders Encoders.Value) hlaw config config
    rfl board {} rfl [.make (.sendSettings { resetId := 4 })] [.push host.drained]
    (by decide +kernel) (by decide +kernel)
  have hsent : a.answers.countP (·.isOk) = 2 := by decide +kernel
  refine ⟨⟨hsame, by decide +kernel, ?_⟩, hboard, by decide +kernel⟩
  have hcount : b.endpoint.counters.success = Counter.bump 0 (a.answers.countP (·.isOk)) := hsuccess
  rw [hcount, hsent]
  rfl

end ServoLink
