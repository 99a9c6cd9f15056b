import Mathlib.Logic.Function.Basic
import ServoLink.Proofs.Device.Replica
import ServoLink.Proofs.Device.Request

/-!
# What a frame does to a station

A station listens on eleven channels. They differ in the message they read and in the
entry of the station that the value goes to; for the rest a frame does the same on all of
them (`Station.comes_deliver`). Either nothing happens: it is a read request, it has the
wrong length, or its content is refused. Or the value that it carries is stored and then
announced, and if its observer raises a fault, it has been stored by then.

Storing a value replaces one entry, which the key and the number of the motor select, and
leaves the others as they are (`Station.absorbs`). A value about a motor that does
not exist has no entry, and is refused.
-/

namespace ServoLink

variable {σ β μ : Type}

/-- **A frame that reaches a handler** without having it raise a fault over a read request
comes to nothing, or to what the handler makes of it. -/
theorem Registry.deliver_cases {h : Handler σ}
    (hcalm : ∀ respond, h.respond = some respond → ∀ s, ∃ payload, respond s = .ok payload)
    (f : Frame) (s : σ) :
    (∃ d, deliver (.handler h) f s = (.ok d, s) ∧ d ≠ .delivered) ∨
      deliver (.handler h) f s = ((h.receive f s).1.outcome, (h.receive f s).2) := by
  unfold deliver
  dsimp only
  split
  · rename_i respond hrespond hempty
    obtain ⟨payload, hpayload⟩ := hcalm respond hrespond s
    rw [hpayload]
    exact .inl ⟨.reply payload, rfl, nofun⟩
  · split
    · exact .inl ⟨_, rfl, nofun⟩
    · right
      rcases h.receive f s with ⟨accepted | reason | fault, s'⟩ <;> rfl

/-- What comes of a reading comes of what was read. -/
theorem exists_of_map_eq_ok {ε α : Type} {read : Except ε α} {name : α → β} {b : β}
    (h : read.map name = .ok b) : ∃ a, read = .ok a ∧ name a = b := by
  cases read with
  | error e => cases h
  | ok a => exact ⟨a, rfl, Except.ok.inj h⟩

/-- Looking up a table in which one entry was set. -/
theorem get_set {α : Type} {n : Nat} (v : Vector α n) (k : Fin n) (a : α) (j : Fin n) :
    (v.set k.val a k.isLt).get j = if j = k then a else v.get j := by
  have hget : (v.set k.val a k.isLt).get j = if k.val = j.val then a else v.get j :=
    Vector.getElem_set ..
  simpa only [Fin.ext_iff, eq_comm] using hget

namespace Station

variable (mount : Mount σ Station Notice)

/-! ## Channels -/

/-- A component of a station. -/
inductive Part where
  | motors
  | encoders
  | update
  | system
  deriving DecidableEq

/-- A key on which a station takes values. -/
inductive Channel where
  | motorFeedback
  | motorInfo
  | motorSettings
  | motorSetpoints
  | motorPid
  | encoderFeedback
  | encoderInfo
  | encoderSettings
  | firmwareChunk
  | firmwareCrc
  | systemRaw
  deriving DecidableEq

namespace Channel

/-- The component whose values are taken. -/
def part : Channel → Part
  | .motorFeedback | .motorInfo | .motorSettings | .motorSetpoints | .motorPid => .motors
  | .encoderFeedback | .encoderInfo | .encoderSettings => .encoders
  | .firmwareChunk | .firmwareCrc => .update
  | .systemRaw => .system

/-- The key. -/
def key : Channel → Key
  | .motorFeedback => Motors.feedbackKey
  | .motorInfo => Motors.infoKey
  | .motorSettings => Motors.settingsKey
  | .motorSetpoints => Motors.setpointKey
  | .motorPid => Motors.pidKey
  | .encoderFeedback => Encoders.feedbackKey
  | .encoderInfo => Encoders.infoKey
  | .encoderSettings => Encoders.settingsKey
  | .firmwareChunk => Update.chunkKey
  | .firmwareCrc => Update.crcKey
  | .systemRaw => SystemChannel.rawKey

/-- Read a payload as the value that travels on the key. -/
def read : Channel → Bytes → Except PayloadError Notice
  | .motorFeedback, p => (Message.ofPayload p).map (.motors <| .feedback ·)
  | .motorInfo, p => (Message.ofPayload p).map (.motors <| .info ·)
  | .motorSettings, p => (Message.ofPayload p).map (.motors <| .settings ·)
  | .motorSetpoints, p => (Message.ofPayload p).map (.motors <| .setpoints ·)
  | .motorPid, p => (Message.ofPayload p).map (.motors <| .pid ·)
  | .encoderFeedback, p => (Message.ofPayload p).map (.encoders <| .feedback ·)
  | .encoderInfo, p => (Message.ofPayload p).map (.encoders <| .info ·)
  | .encoderSettings, p => (Message.ofPayload p).map (.encoders <| .settings ·)
  | .firmwareChunk, p => (Message.ofPayload p).map (.update <| .chunk ·)
  | .firmwareCrc, p => (Message.ofPayload p).map (.update <| .crc ·)
  | .systemRaw, p => .ok (.system p)

/-- What is read on a key travels on it. -/
theorem key_of_read {c : Channel} {payload : Bytes} {n : Notice} (h : c.read payload = .ok n) :
    n.key = c.key := by
  cases c with
  | systemRaw =>
    cases h
    rfl
  | motorFeedback | motorInfo | motorSettings | motorSetpoints | motorPid | encoderFeedback
  | encoderInfo | encoderSettings | firmwareChunk | firmwareCrc =>
    obtain ⟨m, -, rfl⟩ := exists_of_map_eq_ok h
    rfl

end Channel

/-! ## Components bound one by one -/

/-- Take the frames of one component, for a station that lives in a larger state. -/
def Part.bind : Part → Endpoint σ → Endpoint σ
  | .motors => Motors.bind (motorsMount mount)
  | .encoders => Encoders.bind (encodersMount mount)
  | .update => Update.bind (updateMount mount)
  | .system => SystemChannel.bind (systemMount mount)

/-- Take the frames of some components, and of no others. -/
def bindAll (parts : List Part) (e : Endpoint σ) : Endpoint σ :=
  parts.foldr (Part.bind mount) e

/-- **What a component registers for its keys** does not depend on what else is bound. -/
theorem slot_bindAll {parts : List Part} {c : Channel} (hc : c.part ∈ parts) (e : Endpoint σ) :
    (bindAll mount parts e).registry.slot c.key = slot mount c.key := by
  induction parts with
  | nil => exact absurd hc List.not_mem_nil
  | cons p parts ih =>
    show (Part.bind mount p (bindAll mount parts e)).registry.slot c.key = _
    obtain hp | hp := eq_or_ne c.part p
    · subst hp
      cases c <;> rfl
    · have hother : (Part.bind mount p (bindAll mount parts e)).registry.slot c.key
          = (bindAll mount parts e).registry.slot c.key := by
        cases p <;> cases c <;> first | rfl | exact absurd rfl hp
      rw [hother]
      exact ih ((List.mem_cons.1 hc).resolve_left hp)

/-! ## What a frame comes to -/

/-- **A handler that listens for a station**: a value that it reads is stored and announced,
and a read request, which is never a value, raises no fault. -/
structure Listens (read : Bytes → Except PayloadError Notice) (h : Handler σ) : Prop where
  receive : ∀ f s, h.receive f s = match read f.payload with
    | .ok n => mount.receive absorb n s
    | .error reason => (.rejected reason, s)
  length : ∀ p n, read p = .ok n → h.expectedLength.any (· != p.length) = false
  calm : ∀ respond, h.respond = some respond → ∀ s, ∃ payload, respond s = .ok payload
  asked : ∀ p n, read p = .ok n → h.respond = none ∨ p.isEmpty = false

variable {mount}

/-- A handler of messages listens, if the station makes a value of each. -/
theorem listens_typed [Message β] {receive : β → σ → Verdict × σ} {name : β → Notice}
    (h : ∀ m s, receive m s = mount.receive absorb (name m) s) :
    Listens mount (fun p => (Message.ofPayload p).map name) (Handler.typed receive) where
  receive f s := by
    unfold Handler.typed
    dsimp only
    rcases (Message.ofPayload f.payload : Except PayloadError β) with reason | m
    · rfl
    · exact h m s
  length p n hread := by
    obtain ⟨m, hm, -⟩ := exists_of_map_eq_ok hread
    simp [Handler.typed, Message.length_of_ofPayload hm]
  calm _ hrespond := nomatch hrespond
  asked _ _ _ := .inl rfl

/-- It goes on listening if it answers read requests, as long as no message is empty. -/
theorem listens_answering [Message β] {receive : β → σ → Verdict × σ} {name : β → Notice}
    (h : ∀ m s, receive m s = mount.receive absorb (name m) s) (hsize : Message.size β ≠ 0)
    (respond : σ → Bytes) :
    Listens mount (fun p => (Message.ofPayload p).map name)
      ((Handler.typed receive).answering respond) where
  receive := (listens_typed h).receive
  length := (listens_typed h).length
  calm r hr s := by
    obtain rfl := Option.some.inj hr
    exact ⟨respond s, rfl⟩
  asked p n hread := by
    obtain ⟨m, hm, -⟩ := exists_of_map_eq_ok hread
    right
    rw [List.isEmpty_eq_false_iff, ← List.length_pos_iff, Message.length_of_ofPayload hm]
    exact Nat.pos_of_ne_zero hsize

variable (mount)

/-- **Every channel has a handler that listens.** -/
theorem slot_channel (c : Channel) :
    ∃ h, slot mount c.key = .handler h ∧ Listens mount c.read h := by
  cases c with
  | motorFeedback =>
    exact ⟨_, rfl, listens_answering (fun m s => receive_motors mount s (.feedback m))
      (by decide) _⟩
  | motorInfo => exact ⟨_, rfl, listens_typed fun m s => receive_motors mount s (.info m)⟩
  | motorSettings => exact ⟨_, rfl, listens_typed fun m s => receive_motors mount s (.settings m)⟩
  | motorSetpoints =>
    exact ⟨_, rfl, listens_answering (fun m s => receive_motors mount s (.setpoints m))
      (by decide) _⟩
  | motorPid => exact ⟨_, rfl, listens_typed fun m s => receive_motors mount s (.pid m)⟩
  | encoderFeedback =>
    exact ⟨_, rfl, listens_answering (fun m s => receive_encoders mount s (.feedback m))
      (by decide) _⟩
  | encoderInfo =>
    exact ⟨_, rfl, listens_answering (fun m s => receive_encoders mount s (.info m))
      (by decide) _⟩
  | encoderSettings =>
    exact ⟨_, rfl, listens_answering (fun m s => receive_encoders mount s (.settings m))
      (by decide) _⟩
  | firmwareChunk =>
    exact ⟨_, rfl, listens_answering (fun m s => receive_update mount s (.chunk m))
      (by decide) _⟩
  | firmwareCrc =>
    exact ⟨_, rfl, listens_answering (fun m s => receive_update mount s (.crc m)) (by decide) _⟩
  | systemRaw =>
    exact ⟨_, rfl, fun f s => receive_system mount s f.payload, fun _ _ _ => rfl, nofun,
      fun _ _ _ => .inl rfl⟩

/-- **A value that is read is received.** -/
theorem deliver_of_read {c : Channel} {f : Frame} {n : Notice} (hread : c.read f.payload = .ok n)
    (s : σ) : Registry.deliver (slot mount c.key) f s
      = ((mount.receive absorb n s).1.outcome, (mount.receive absorb n s).2) := by
  obtain ⟨h, hslot, hlistens⟩ := slot_channel mount c
  rw [hslot, Registry.deliver_of_taken (hlistens.asked _ _ hread) (hlistens.length _ _ hread),
    hlistens.receive, hread]

/-- **What a frame on a channel can come to**, and the state that it leaves. -/
inductive Comes (c : Channel) (f : Frame) (s : σ) : Except Fault Dispatch → σ → Prop
  /-- Nothing happens. -/
  | nothing {d : Dispatch} (hd : d ≠ .delivered) : Comes c f s (.ok d) s
  /-- Its value is stored and announced. -/
  | stored {n : Notice} {st : Station} {s' : σ} (hread : c.read f.payload = .ok n)
      (hstore : (mount.get s).absorb n = .ok st)
      (hnotify : mount.notify n (mount.set st s) = (none, s')) : Comes c f s (.ok .delivered) s'
  /-- Its value is stored, and the observer raises a fault. -/
  | raised {n : Notice} {st : Station} {s' : σ} {fault : Fault}
      (hread : c.read f.payload = .ok n) (hstore : (mount.get s).absorb n = .ok st)
      (hnotify : mount.notify n (mount.set st s) = (some fault, s')) :
      Comes c f s (.error fault) s'

/-- **A frame on a channel comes to one of these.** -/
theorem comes_deliver (c : Channel) (f : Frame) (s : σ) :
    Comes mount c f s (Registry.deliver (slot mount c.key) f s).1
      (Registry.deliver (slot mount c.key) f s).2 := by
  obtain ⟨h, hslot, hlistens⟩ := slot_channel mount c
  rw [hslot]
  obtain ⟨d, hdeliver, hd⟩ | hdeliver := Registry.deliver_cases hlistens.calm f s
  · rw [hdeliver]
    exact .nothing hd
  rw [hdeliver, hlistens.receive]
  rcases hread : c.read f.payload with reason | n
  · exact .nothing nofun
  · dsimp only
    unfold Mount.receive
    rcases hstore : (mount.get s).absorb n with reason | st
    · exact .nothing nofun
    · dsimp only
      rcases hnotify : mount.notify n (mount.set st s) with ⟨_ | fault, s'⟩
      · exact .stored hread hstore hnotify
      · exact .raised hread hstore hnotify

/-! ## Entries -/

/-- An entry of the values of a station. -/
inductive Entry where
  | motorFeedback
  | motorInfo (k : Fin motorCount)
  | motorSettings (k : Fin motorCount)
  | motorSetpoints
  | motorPid (k : Fin motorCount)
  | encoderFeedback
  | encoderInfo
  | encoderSettings
  | firmwareChunk
  | firmwareCrc
  | systemRaw
  deriving DecidableEq

/-- The value of an entry. -/
def entry (st : Station) : Entry → Notice
  | .motorFeedback => .motors (.feedback st.motors.feedback)
  | .motorInfo k => .motors (.info (st.motors.info.get k))
  | .motorSettings k => .motors (.settings (st.motors.settings.get k))
  | .motorSetpoints => .motors (.setpoints st.motors.setpoints)
  | .motorPid k => .motors (.pid (st.motors.pid.get k))
  | .encoderFeedback => .encoders (.feedback st.encoders.feedback)
  | .encoderInfo => .encoders (.info st.encoders.info)
  | .encoderSettings => .encoders (.settings st.encoders.settings)
  | .firmwareChunk => .update (.chunk st.update.chunk)
  | .firmwareCrc => .update (.crc st.update.crc)
  | .systemRaw => .system st.system.last

/-- The entry that a value is for: that of its key, and of the motor it speaks of. There is
none if there is no such motor. -/
def Notice.entry? : Notice → Option Entry
  | .motors (.feedback _) => some .motorFeedback
  | .motors (.info info) => (Motors.slot? info.motorId).map .motorInfo
  | .motors (.settings settings) => (Motors.slot? settings.motorId).map .motorSettings
  | .motors (.setpoints _) => some .motorSetpoints
  | .motors (.pid pid) => (Motors.slot? pid.motorId).map .motorPid
  | .encoders (.feedback _) => some .encoderFeedback
  | .encoders (.info _) => some .encoderInfo
  | .encoders (.settings _) => some .encoderSettings
  | .update (.chunk _) => some .firmwareChunk
  | .update (.crc _) => some .firmwareCrc
  | .system _ => some .systemRaw

/-- **The entries and the number of chunks received are all there is to a station.** -/
theorem ext_entry {st st' : Station} (hentry : ∀ x, st.entry x = st'.entry x)
    (hchunks : st.update.chunksReceived = st'.update.chunksReceived) : st = st' := by
  obtain ⟨⟨feedback, info, settings, setpoints, pid⟩, ⟨_, _, _⟩, ⟨_, _, _⟩, ⟨_⟩⟩ := st
  obtain ⟨⟨feedback', info', settings', setpoints', pid'⟩, ⟨_, _, _⟩, ⟨_, _, _⟩, ⟨_⟩⟩ := st'
  have hinfo : info = info' := Vector.ext fun k hk =>
    Motors.Value.info.inj (Notice.motors.inj (hentry (.motorInfo ⟨k, hk⟩)))
  have hsettings : settings = settings' := Vector.ext fun k hk =>
    Motors.Value.settings.inj (Notice.motors.inj (hentry (.motorSettings ⟨k, hk⟩)))
  have hpid : pid = pid' := Vector.ext fun k hk =>
    Motors.Value.pid.inj (Notice.motors.inj (hentry (.motorPid ⟨k, hk⟩)))
  have hfeedback := hentry .motorFeedback
  have hsetpoints := hentry .motorSetpoints
  have hencoderFeedback := hentry .encoderFeedback
  have hencoderInfo := hentry .encoderInfo
  have hencoderSettings := hentry .encoderSettings
  have hchunk := hentry .firmwareChunk
  have hcrc := hentry .firmwareCrc
  have hsystem := hentry .systemRaw
  simp_all [entry]

/-- **One entry is replaced**: it has the new value, the others are as before, and a chunk
counts as received. -/
structure Replaces (st : Station) (x : Entry) (n : Notice) (st' : Station) : Prop where
  entries : st'.entry = Function.update st.entry x n
  received : st'.update.chunksReceived
    = st.update.chunksReceived + if x = .firmwareChunk then 1 else 0

/-- What storing a value can come to. -/
def Absorbs (st : Station) (n : Notice) : Prop :=
  (∃ x st', n.entry? = some x ∧ st.absorb n = .ok st' ∧ st.Replaces x n st') ∨
    ∃ motor, n.entry? = none ∧ st.absorb n = .error (.instanceOutOfRange motor motorCount)

variable {st : Station} {n : Notice}

/-- A value whose entry does not depend on a motor is stored. -/
theorem absorbs_whole (x : Entry) {st' : Station} (hentry : n.entry? = some x)
    (hstore : st.absorb n = .ok st') (hhere : st'.entry x = n)
    (helsewhere : ∀ y, y ≠ x → st'.entry y = st.entry y)
    (hreceived : st'.update.chunksReceived
      = st.update.chunksReceived + if x = .firmwareChunk then 1 else 0) : st.Absorbs n := by
  refine .inl ⟨x, st', hentry, hstore, ?_, hreceived⟩
  funext y
  obtain rfl | hy := eq_or_ne y x
  · rw [hhere, Function.update_self]
  · rw [helsewhere y hy, Function.update_of_ne hy]

/-- One that is no chunk does not count as received. -/
theorem absorbs_other (x : Entry) {st' : Station} (hx : x ≠ .firmwareChunk)
    (hentry : n.entry? = some x) (hstore : st.absorb n = .ok st') (hhere : st'.entry x = n)
    (helsewhere : ∀ y, y ≠ x → st'.entry y = st.entry y)
    (hreceived : st'.update.chunksReceived = st.update.chunksReceived) : st.Absorbs n :=
  absorbs_whole x hentry hstore hhere helsewhere <| by
    rw [if_neg hx, UInt64.add_zero, hreceived]

/-- A value about a motor is stored if there is such a motor. -/
theorem absorbs_motor {motor : UInt8} {x : Fin motorCount → Entry}
    {change : Fin motorCount → Motors} (hentry : n.entry? = (Motors.slot? motor).map x)
    (hstore : st.absorb n
      = ((Motors.payloadSlot motor).map change).map fun motors => { st with motors })
    (hhere : ∀ k, entry { st with motors := change k } (x k) = n)
    (helsewhere : ∀ k y, y ≠ x k → entry { st with motors := change k } y = st.entry y)
    (hx : ∀ k, x k ≠ .firmwareChunk) : st.Absorbs n := by
  unfold Motors.payloadSlot at hstore
  cases hk : Motors.slot? motor with
  | none =>
    rw [hk] at hentry hstore
    exact .inr ⟨motor.toNat, hentry, hstore⟩
  | some k =>
    rw [hk] at hentry hstore
    exact absorbs_other (x k) (hx k) hentry hstore (hhere k) (helsewhere k) rfl

/-- **Storing a value replaces its entry**, if it has one, and is refused otherwise. -/
theorem absorbs (st : Station) (n : Notice) : st.Absorbs n := by
  cases n with
  | motors v =>
    cases v with
    | feedback table =>
      exact absorbs_other .motorFeedback nofun rfl rfl rfl
        (fun y hy => by cases y <;> simp_all [entry]) rfl
    | setpoints table =>
      exact absorbs_other .motorSetpoints nofun rfl rfl rfl
        (fun y hy => by cases y <;> simp_all [entry]) rfl
    | info info =>
      exact absorbs_motor rfl (congrArg (Except.map _) (Motors.store_info st.motors info))
        (fun k => by simp [entry, Motors.setInfo, get_set])
        (fun k y hy => by cases y <;> simp_all [entry, Motors.setInfo, get_set]) nofun
    | settings settings =>
      exact absorbs_motor rfl (congrArg (Except.map _) (Motors.store_settings st.motors settings))
        (fun k => by simp [entry, Motors.setSettings, get_set])
        (fun k y hy => by cases y <;> simp_all [entry, Motors.setSettings, get_set]) nofun
    | pid pid =>
      exact absorbs_motor rfl (congrArg (Except.map _) (Motors.store_pid st.motors pid))
        (fun k => by simp [entry, Motors.setPid, get_set])
        (fun k y hy => by cases y <;> simp_all [entry, Motors.setPid, get_set]) nofun
  | encoders v =>
    cases v with
    | feedback table =>
      exact absorbs_other .encoderFeedback nofun rfl rfl rfl
        (fun y hy => by cases y <;> simp_all [entry, Encoders.set]) rfl
    | info info =>
      exact absorbs_other .encoderInfo nofun rfl rfl rfl
        (fun y hy => by cases y <;> simp_all [entry, Encoders.set]) rfl
    | settings settings =>
      exact absorbs_other .encoderSettings nofun rfl rfl rfl
        (fun y hy => by cases y <;> simp_all [entry, Encoders.set]) rfl
  | update v =>
    cases v with
    | chunk chunk =>
      exact absorbs_whole .firmwareChunk rfl rfl rfl
        (fun y hy => by cases y <;> simp_all [entry]) rfl
    | crc crc =>
      exact absorbs_other .firmwareCrc nofun rfl rfl rfl
        (fun y hy => by cases y <;> simp_all [entry]) rfl
  | system payload =>
    exact absorbs_other .systemRaw nofun rfl rfl rfl
      (fun y hy => by cases y <;> simp_all [entry]) rfl

/-- A value that was stored replaced its entry. -/
theorem replaces_of_absorb {st' : Station} (h : st.absorb n = .ok st') :
    ∃ x, n.entry? = some x ∧ st.Replaces x n st' := by
  rcases st.absorbs n with ⟨x, made, hentry, hmade, hreplaces⟩ | ⟨motor, -, hrefused⟩
  · obtain rfl := Except.ok.inj (hmade.symm.trans h)
    exact ⟨x, hentry, hreplaces⟩
  · cases hrefused.symm.trans h

end Station

end ServoLink
