import ServoLink.Device.Station
import ServoLink.Proofs.Link.Slots
import ServoLink.Proofs.Message.Layout

/-!
# Values that arrive

The slots of a component differ in nothing but the message they read and the value
they make of it. `Component` says so once for all components: a frame on the key of
a value, whose payload the value was written to, comes to what the component makes
of that value (`Component.deliver_bind`). The value that arrives is the value sent
with named values under their names, and it is written the same way
(`Component.payload_canon`).

A station is a component made of components: each of them finds its values inside
the station, and stores one there as it would on its own.
-/

namespace ServoLink

variable {σ α β μ ν : Type}

/-! ## Mounts that can be relied on -/

namespace Mount

/-- **A mount that keeps what it is given**, with an observer that raises no fault and
leaves the values alone. -/
structure Lawful (m : Mount σ α μ) : Prop where
  get_set : ∀ a s, m.get (m.set a s) = a
  calm : ∀ v s, (m.notify v s).1 = none
  get_notify : ∀ v s, m.get (m.notify v s).2 = m.get s

/-- A mount whose observer lists the values announced, and of nothing else. -/
structure Logged (m : Mount σ α μ) (log : σ → List μ) : Prop extends m.Lawful where
  log_set : ∀ a s, log (m.set a s) = log s
  log_notify : ∀ v s, log (m.notify v s).2 = log s ++ [v]

/-- A mount whose values are half of the state, and the list of those announced the
other. -/
def journal (α μ : Type) : Mount (α × List μ) α μ where
  get := Prod.fst
  set a s := (a, s.2)
  notify v s := (none, (s.1, s.2 ++ [v]))

theorem logged_journal (α μ : Type) : (journal α μ).Logged Prod.snd where
  get_set _ _ := rfl
  calm _ _ := rfl
  get_notify _ _ := rfl
  log_set _ _ := rfl
  log_notify _ _ := rfl

variable {m : Mount σ α μ} {store : α → μ → Except PayloadError α} {v : μ} {s : σ}

/-- A value that is refused leaves all as it was. -/
theorem receive_of_error {reason : PayloadError} (h : store (m.get s) v = .error reason) :
    m.receive store v s = (.rejected reason, s) := by
  unfold receive
  rw [h]

/-- A value that is admitted is stored and announced. -/
theorem receive_of_ok (hm : m.Lawful) {a : α} (h : store (m.get s) v = .ok a) :
    m.receive store v s = (.accepted, (m.notify v (m.set a s)).2) := by
  have hcalm : m.notify v (m.set a s) = (none, (m.notify v (m.set a s)).2) :=
    Prod.ext (hm.calm v _) rfl
  unfold receive
  rw [h]
  dsimp only
  rw [hcalm]

/-- No fault comes of a value that arrives. -/
theorem calm_receive (hm : m.Lawful) (v : μ) (s : σ) :
    ∃ d, (m.receive store v s).1.outcome = .ok d := by
  cases h : store (m.get s) v with
  | error reason =>
    rw [receive_of_error h]
    exact ⟨_, rfl⟩
  | ok a =>
    rw [receive_of_ok hm h]
    exact ⟨_, rfl⟩

/-- The place of a part of the values, with the values of the part under names of
their own. -/
def part (m : Mount σ α μ) (look : α → β) (put : β → α → α) (name : ν → μ) : Mount σ β ν where
  get s := look (m.get s)
  set b s := m.set (put b (m.get s)) s
  notify v := m.notify (name v)

/-- A value arrives at a part as it arrives at the whole. -/
theorem receive_part (m : Mount σ α μ) {look : α → β} {put : β → α → α} {name : ν → μ}
    {store : α → μ → Except PayloadError α} {storePart : β → ν → Except PayloadError β}
    (h : ∀ a v, store a (name v) = (storePart (look a) v).map (put · a)) (v : ν) (s : σ) :
    (m.part look put name).receive storePart v s = m.receive store (name v) s := by
  unfold receive part
  rw [h]
  dsimp only
  cases storePart (look (m.get s)) v <;> rfl

end Mount

namespace Registry

/-- **A message on its key.** It reaches the handler as it is read. -/
theorem deliver_typed [Message β] [Message.Lawful β] (receive : β → σ → Verdict × σ)
    (respond : Option (σ → Except Fault Bytes)) (hsize : Message.size β ≠ 0) {f : Frame} {m : β}
    (hpayload : f.payload = Message.write m) (s : σ) :
    deliver (.handler { Handler.typed receive with respond }) f s
      = ((receive (Message.canon m) s).1.outcome, (receive (Message.canon m) s).2) := by
  have hlength : f.payload.length = Message.size β := by
    rw [hpayload, Message.length_write]
  -- a message has a size, so the frame is no read request
  have hfull : f.payload.isEmpty = false := by
    rw [List.isEmpty_eq_false_iff, ← List.length_pos_iff, hlength]
    exact Nat.pos_of_ne_zero hsize
  have hreceive : (Handler.typed receive).receive f s = receive (Message.canon m) s := by
    unfold Handler.typed
    dsimp only
    rw [hpayload, Message.ofPayload_write]
  rw [deliver_of_taken (.inr hfull) (by simp [Handler.typed, hlength])]
  dsimp only
  rw [hreceive]

end Registry

/-! ## Components -/

/-- Sending a message is queueing its bytes. -/
theorem Endpoint.send_eq [Message α] (e : Endpoint σ) (k : Key) (message : α) :
    e.send k message = ((e.enqueue k (Message.write message)).1.mapError .link,
      (e.enqueue k (Message.write message)).2) := by
  unfold send
  rcases e.enqueue k (Message.write message) with ⟨err | size, e'⟩ <;> rfl

/-- **A component, by the values that travel on its keys.** -/
class Component (α : outParam Type) (μ : Type) where
  /-- Take the frames of the keys. -/
  bind : {σ : Type} → Mount σ α μ → Endpoint σ → Endpoint σ
  /-- Store a value that has arrived. -/
  store : α → μ → Except PayloadError α
  /-- The key that a value travels on. -/
  key : μ → Key
  /-- The bytes that it is written to. -/
  payload : μ → Bytes
  /-- The value that is read from them. -/
  canon : μ → μ
  key_canon : ∀ v, key (canon v) = key v
  payload_canon : ∀ v, payload (canon v) = payload v
  deliver_bind : ∀ {σ : Type} (mount : Mount σ α μ) (e : Endpoint σ) (v : μ) {f : Frame}
    (_ : f.payload = payload v) (s : σ),
    Registry.deliver ((bind mount e).registry.slot (key v)) f s
      = ((mount.receive store (canon v) s).1.outcome, (mount.receive store (canon v) s).2)

namespace Component

/-- A value for its key. -/
def frame [Component α μ] (v : μ) : Frame :=
  .forKey (key v) (payload v)

end Component

namespace Motors

namespace Value

/-- The key that a value travels on. -/
def key : Value → Key
  | .feedback _ => feedbackKey
  | .info _ => infoKey
  | .settings _ => settingsKey
  | .setpoints _ => setpointKey
  | .pid _ => pidKey

/-- The bytes that a value is written to. -/
def payload : Value → Bytes
  | .feedback m | .info m | .settings m | .setpoints m | .pid m => Message.write m

/-- The value that is read from them. -/
def canon : Value → Value
  | .feedback m => .feedback (Message.canon m)
  | .info m => .info (Message.canon m)
  | .settings m => .settings (Message.canon m)
  | .setpoints m => .setpoints (Message.canon m)
  | .pid m => .pid (Message.canon m)

end Value

instance : Component Motors Value where
  bind := bind
  store := store
  key := Value.key
  payload := Value.payload
  canon := Value.canon
  key_canon v := by cases v <;> rfl
  payload_canon v := by cases v <;> exact Message.write_canon _
  deliver_bind mount _ v _ hpayload s := by
    cases v with
    | feedback m =>
      exact Registry.deliver_typed (mount.receive store <| .feedback ·) _ (by decide) hpayload s
    | info m =>
      exact Registry.deliver_typed (mount.receive store <| .info ·) _ (by decide) hpayload s
    | settings m =>
      exact Registry.deliver_typed (mount.receive store <| .settings ·) _ (by decide) hpayload s
    | setpoints m =>
      exact Registry.deliver_typed (mount.receive store <| .setpoints ·) _ (by decide) hpayload s
    | pid m =>
      exact Registry.deliver_typed (mount.receive store <| .pid ·) _ (by decide) hpayload s

end Motors

namespace Encoders

namespace Value

/-- The key that a value travels on. -/
def key : Value → Key
  | .feedback _ => feedbackKey
  | .info _ => infoKey
  | .settings _ => settingsKey

/-- The bytes that a value is written to. -/
def payload : Value → Bytes
  | .feedback m | .info m | .settings m => Message.write m

/-- The value that is read from them. -/
def canon : Value → Value
  | .feedback m => .feedback (Message.canon m)
  | .info m => .info (Message.canon m)
  | .settings m => .settings (Message.canon m)

end Value

instance : Component Encoders Value where
  bind := bind
  store := store
  key := Value.key
  payload := Value.payload
  canon := Value.canon
  key_canon v := by cases v <;> rfl
  payload_canon v := by cases v <;> exact Message.write_canon _
  deliver_bind mount _ v _ hpayload s := by
    cases v with
    | feedback m =>
      exact Registry.deliver_typed (mount.receive store <| .feedback ·) _ (by decide) hpayload s
    | info m =>
      exact Registry.deliver_typed (mount.receive store <| .info ·) _ (by decide) hpayload s
    | settings m =>
      exact Registry.deliver_typed (mount.receive store <| .settings ·) _ (by decide) hpayload s

end Encoders

namespace Update

namespace Value

/-- The key that a value travels on. -/
def key : Value → Key
  | .chunk _ => chunkKey
  | .crc _ => crcKey

/-- The bytes that a value is written to. -/
def payload : Value → Bytes
  | .chunk m | .crc m => Message.write m

/-- The value that is read from them. -/
def canon : Value → Value
  | .chunk m => .chunk (Message.canon m)
  | .crc m => .crc (Message.canon m)

end Value

instance : Component Update Value where
  bind := bind
  store := store
  key := Value.key
  payload := Value.payload
  canon := Value.canon
  key_canon v := by cases v <;> rfl
  payload_canon v := by cases v <;> exact Message.write_canon _
  deliver_bind mount _ v _ hpayload s := by
    cases v with
    | chunk m =>
      exact Registry.deliver_typed (mount.receive store <| .chunk ·) _ (by decide) hpayload s
    | crc m =>
      exact Registry.deliver_typed (mount.receive store <| .crc ·) _ (by decide) hpayload s

end Update

namespace SystemChannel

instance : Component SystemChannel Bytes where
  bind := bind
  store := store
  key _ := rawKey
  payload := id
  canon := id
  key_canon _ := rfl
  payload_canon _ := rfl
  deliver_bind mount _ v f hpayload s := by
    obtain rfl : f.payload = v := hpayload
    exact Registry.deliver_of_taken (.inl rfl) rfl s

end SystemChannel

/-! ## Stations -/

namespace Station

/-- Store a value that has arrived with the component it is for. -/
def absorb (st : Station) : Notice → Except PayloadError Station
  | .motors v => (st.motors.store v).map fun motors => { st with motors }
  | .encoders v => (st.encoders.store v).map fun encoders => { st with encoders }
  | .update v => (st.update.store v).map fun update => { st with update }
  | .system payload => (st.system.store payload).map fun system => { st with system }

variable (mount : Mount σ Station Notice)

/-- The place of the values of the motors. -/
abbrev motorsMount : Mount σ Motors Motors.Value :=
  mount.part motors (fun motors st => { st with motors }) .motors

/-- The place of the values of the encoders. -/
abbrev encodersMount : Mount σ Encoders Encoders.Value :=
  mount.part encoders (fun encoders st => { st with encoders }) .encoders

/-- The place of the values of the firmware channel. -/
abbrev updateMount : Mount σ Update Update.Value :=
  mount.part update (fun update st => { st with update }) .update

/-- The place of the last system message. -/
abbrev systemMount : Mount σ SystemChannel Bytes :=
  mount.part system (fun system st => { st with system }) .system

section

/-! What arrives at a component of a station arrives at the station. -/

variable (s : σ)

theorem receive_motors (v : Motors.Value) :
    (motorsMount mount).receive Motors.store v s = mount.receive absorb (.motors v) s :=
  mount.receive_part (fun _ _ => rfl) v s

theorem receive_encoders (v : Encoders.Value) :
    (encodersMount mount).receive Encoders.store v s = mount.receive absorb (.encoders v) s :=
  mount.receive_part (fun _ _ => rfl) v s

theorem receive_update (v : Update.Value) :
    (updateMount mount).receive Update.store v s = mount.receive absorb (.update v) s :=
  mount.receive_part (fun _ _ => rfl) v s

theorem receive_system (v : Bytes) :
    (systemMount mount).receive SystemChannel.store v s = mount.receive absorb (.system v) s :=
  mount.receive_part (fun _ _ => rfl) v s

end

section

variable (e : Endpoint σ)

/-- The slots of the motors, behind which other components take other keys. -/
theorem slot_motors (v : Motors.Value) :
    (bind mount e).registry.slot v.key
      = (Motors.bind (motorsMount mount) e).registry.slot v.key := by
  cases v <;> rfl

/-- The slots of the encoders. -/
theorem slot_encoders (v : Encoders.Value) :
    (bind mount e).registry.slot v.key
      = (Encoders.bind (encodersMount mount) (Motors.bind (motorsMount mount) e)).registry.slot
          v.key := by
  cases v <;> rfl

/-- The slots of the firmware channel. -/
theorem slot_update (v : Update.Value) :
    (bind mount e).registry.slot v.key
      = (Update.bind (updateMount mount) (Encoders.bind (encodersMount mount)
          (Motors.bind (motorsMount mount) e))).registry.slot v.key := by
  cases v <;> rfl

end

namespace Notice

/-- The key that a value travels on. -/
def key : Notice → Key
  | .motors v | .encoders v | .update v | .system v => Component.key v

/-- The bytes that a value is written to. -/
def payload : Notice → Bytes
  | .motors v | .encoders v | .update v | .system v => Component.payload v

/-- The value that is read from them. -/
def canon : Notice → Notice
  | .motors v => .motors (Component.canon v)
  | .encoders v => .encoders (Component.canon v)
  | .update v => .update (Component.canon v)
  | .system v => .system (Component.canon v)

end Notice

instance : Component Station Notice where
  bind := bind
  store := absorb
  key := Notice.key
  payload := Notice.payload
  canon := Notice.canon
  key_canon n := by cases n <;> exact Component.key_canon _
  payload_canon n := by cases n <;> exact Component.payload_canon _
  deliver_bind mount e n f hpayload s := by
    cases n with
    | motors v =>
      refine (congrArg (Registry.deliver · f s) (slot_motors mount e v)).trans ?_
      refine (Component.deliver_bind (motorsMount mount) e v hpayload s).trans ?_
      exact congrArg (fun p => (p.1.outcome, p.2)) (receive_motors mount s _)
    | encoders v =>
      refine (congrArg (Registry.deliver · f s) (slot_encoders mount e v)).trans ?_
      refine (Component.deliver_bind (encodersMount mount) _ v hpayload s).trans ?_
      exact congrArg (fun p => (p.1.outcome, p.2)) (receive_encoders mount s _)
    | update v =>
      refine (congrArg (Registry.deliver · f s) (slot_update mount e v)).trans ?_
      refine (Component.deliver_bind (updateMount mount) _ v hpayload s).trans ?_
      exact congrArg (fun p => (p.1.outcome, p.2)) (receive_update mount s _)
    | system v =>
      refine (Component.deliver_bind (systemMount mount) _ v hpayload s).trans ?_
      exact congrArg (fun p => (p.1.outcome, p.2)) (receive_system mount s _)

end Station

end ServoLink
