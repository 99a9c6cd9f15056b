import ServoLink.Proofs.Device.Faults
import ServoLink.Proofs.Device.Setpoint
import ServoLink.Proofs.Link.Invariant

/-!
# Motors under their own numbers

The identity, the settings and the control parameters of a motor carry its number, and they are
kept in the slot of that number. Both are written in many places: when the values are fresh,
when a mode is set, when a value is sent, and when one arrives, of which the peer chooses the
number. In none of them is a value put under another number than its own, whether the call is
refused before anything is done, or by the link, or not at all, and whatever bytes are received
(`Motors.motorId_of_run`).

Calls need no treatment of their own, since each of them stores what it sends as if it had
arrived (`Motors.sends_make`).
-/

namespace ServoLink

variable {σ α μ : Type}

/-- **What becomes of the values** when one arrives: it is stored, or nothing is. -/
theorem Mount.Retains.receive {m : Mount σ α μ} (hm : m.Retains)
    (store : α → μ → Except PayloadError α) (v : μ) (s : σ) :
    store (m.get s) v = .ok (m.get (m.receive store v s).2) ∨ (m.receive store v s).2 = s := by
  unfold Mount.receive
  rcases hstore : store (m.get s) v with reason | a
  · exact .inr rfl
  · left
    have hkept : m.get (m.notify v (m.set a s)).2 = a :=
      (hm.get_notify v _).trans (hm.get_set a s)
    dsimp only
    rcases hnotify : m.notify v (m.set a s) with ⟨_ | fault, s'⟩ <;> rw [hnotify] at hkept <;>
      exact congrArg Except.ok hkept.symm

namespace Motors

variable {m m' : Motors} {e : Endpoint σ} {motor : UInt8} {k : Fin motorCount}

/-- The slot of a motor has its number. -/
theorem val_of_slot? (h : slot? motor = some k) : motor.toNat = k.val := by
  unfold slot? at h
  split at h
  · exact congrArg Fin.val (Option.some.inj h)
  · cases h

/-! ## Tables in place -/

/-- Every entry of a table carries the number of its slot. -/
def Numbered (id : α → UInt8) (table : Vector α motorCount) : Prop :=
  ∀ k : Fin motorCount, (id (table.get k)).toNat = k.val

section

variable {id : α → UInt8} {table : Vector α motorCount}

/-- Entries that were numbered when the table was made. -/
theorem numbered_ofFn {make : Fin motorCount → α} (h : ∀ k, id (make k) = UInt8.ofNat k.val) :
    Numbered id (.ofFn make) := by
  intro k
  have hk : k.val < 256 := Nat.lt_trans k.isLt (by decide)
  have hget : (Vector.ofFn make).get k = make k := Vector.getElem_ofFn k.isLt
  rw [hget, h, UInt8.toNat_ofNat', Nat.mod_eq_of_lt hk]

/-- An entry is replaced by one for the same slot. -/
theorem Numbered.set (h : Numbered id table) {x : α} (hx : (id x).toNat = k.val) :
    Numbered id (table.set k.val x k.isLt) := by
  intro j
  rw [get_set]
  split
  · next hj => rw [hj, hx]
  · exact h j

/-- The entry of a motor carries its number. -/
theorem Numbered.motorId_get (h : Numbered id table) (hk : k.val = motor.toNat) :
    id (table.get k) = motor :=
  UInt8.toNat.inj ((h k).trans hk)

end

/-- **Every motor is kept under its own number.** -/
structure InPlace (m : Motors) : Prop where
  info : Numbered (·.motorId) m.info
  settings : Numbered (·.motorId) m.settings
  pid : Numbered (·.motorId) m.pid

/-- Fresh values are. -/
theorem inPlace_fresh : fresh.InPlace where
  info := numbered_ofFn fun _ => rfl
  settings := numbered_ofFn fun _ => rfl
  pid := numbered_ofFn fun _ => rfl

/-- **Storing a value leaves them in place**: a value about a motor goes into the slot of the
number that it carries. -/
theorem InPlace.store (h : m.InPlace) {v : Value} (hstore : m.store v = .ok m') : m'.InPlace := by
  cases v with
  | feedback table | setpoints table =>
    cases hstore
    exact ⟨h.info, h.settings, h.pid⟩
  | info info =>
    rw [store_info] at hstore
    obtain ⟨k, hk, rfl⟩ := map_payloadSlot_eq_ok_iff.1 hstore
    exact ⟨h.info.set (val_of_slot? hk), h.settings, h.pid⟩
  | settings settings =>
    rw [store_settings] at hstore
    obtain ⟨k, hk, rfl⟩ := map_payloadSlot_eq_ok_iff.1 hstore
    exact ⟨h.info, h.settings.set (val_of_slot? hk), h.pid⟩
  | pid pid =>
    rw [store_pid] at hstore
    obtain ⟨k, hk, rfl⟩ := map_payloadSlot_eq_ok_iff.1 hstore
    exact ⟨h.info, h.settings, h.pid.set (val_of_slot? hk)⟩

/-- A call that is refused stores nothing, and any other stores what it sends, whatever the
link answers. -/
theorem InPlace.make (h : m.InPlace) (e : Endpoint σ) (call : Call) :
    (m.make e call).2.1.InPlace := by
  have hsends := sends_make m e call
  generalize m.make e call = answer at hsends
  cases hsends with
  | refused => exact h
  | sent v hstore => exact h.store hstore

/-- A call registers nothing. -/
theorem set_make (m : Motors) (e : Endpoint σ) (call : Call) :
    (m.make e call).2.2.registry.slot = e.registry.slot ∧ (m.make e call).2.2.tap = e.tap := by
  have hsends := sends_make m e call
  generalize m.make e call = answer at hsends
  cases hsends with
  | refused => exact ⟨rfl, rfl⟩
  | sent v => exact Endpoint.persists_set.onEnqueue e _

/-- What is looked up about a motor carries its number. -/
theorem InPlace.lookup (h : m.InPlace) (hmotor : motor.toNat < motorCount) :
    (∃ info, m.infoOf motor = .ok info ∧ info.motorId = motor) ∧
      (∃ settings, m.settingsOf motor = .ok settings ∧ settings.motorId = motor) ∧
        ∃ pid, m.pidOf motor = .ok pid ∧ pid.motorId = motor := by
  obtain ⟨k, hk⟩ : ∃ k : Fin motorCount, k.val = motor.toNat := ⟨⟨motor.toNat, hmotor⟩, rfl⟩
  unfold infoOf settingsOf pidOf callerSlot
  rw [slot?_of_val_eq hk]
  exact ⟨⟨_, rfl, h.info.motorId_get hk⟩, ⟨_, rfl, h.settings.motorId_get hk⟩, _, rfl,
    h.pid.motorId_get hk⟩

/-! ## Motors on a link -/

variable {mount : Mount σ Motors Value}

/-- A value that arrives leaves them in place, and so do the observers. -/
theorem inPlace_receive (hm : mount.Retains) (v : Value) {s : σ} (h : (mount.get s).InPlace) :
    (mount.get (mount.receive store v s).2).InPlace := by
  rcases hm.receive store v s with hstore | hsame
  · exact h.store hstore
  · rwa [hsame]

/-- **Whatever frame arrives on the keys of the motors leaves them in place.** -/
theorem preserves_bind (hm : mount.Retains) (he : e.Preserves (mount.get · |>.InPlace)) :
    (bind mount e).Preserves (mount.get · |>.InPlace) := by
  have taken {β : Type} [Message β] (name : β → Value)
      (respond : Option (σ → Except Fault Bytes)) :
      (Slot.handler { Handler.typed fun message => mount.receive store (name message) with
        respond }).Preserves (mount.get · |>.InPlace) :=
    Slot.preserves_typed (fun message _ => inPlace_receive hm (name message)) respond
  exact ((((he.install _ (taken .feedback _)).install _ (taken .info none)).install _
    (taken .settings none)).install _ (taken .setpoints _)).install _ (taken .pid none)

/-- A link end, and what its handlers act on. -/
structure Site (σ : Type) where
  endpoint : Endpoint σ
  state : σ

/-- What is done at a link end that motors are bound to. -/
inductive Move (σ : Type) where
  /-- A call of the motors is made. -/
  | make (call : Call)
  /-- Something is asked of the link by anyone. -/
  | ask (call : Endpoint.Ledger.Call σ)

/-- One move. The values of the motors are where the mount says. -/
def Site.step (mount : Mount σ Motors Value) (t : Site σ) : Move σ → Site σ
  | .make call =>
    { endpoint := ((mount.get t.state).make t.endpoint call).2.2
      state := mount.set ((mount.get t.state).make t.endpoint call).2.1 t.state }
  | .ask call =>
    let after := Endpoint.Ledger.step { endpoint := t.endpoint, state := t.state } call
    { endpoint := after.endpoint, state := after.state }

/-- A history of moves that begins where motors are bound to a link. -/
def Site.run (mount : Mount σ Motors Value) (e : Endpoint σ) (s : σ) (moves : List (Move σ)) :
    Site σ :=
  moves.foldl (step mount) { endpoint := bind mount e, state := s }

/-- A move by which nobody else comes to change the values of the motors. -/
def Move.Spares (mount : Mount σ Motors Value) : Move σ → Prop
  | .make _ => True
  | .ask call => ∀ m, call.Preserves (mount.get · = m)

/-- **One move leaves all in place**, and so do the callbacks after it. -/
theorem Site.inPlace_step (hm : mount.Retains) {t : Site σ}
    (he : t.endpoint.Preserves (mount.get · |>.InPlace)) (hs : (mount.get t.state).InPlace)
    {move : Move σ} (hmove : move.Spares mount) :
    (t.step mount move).endpoint.Preserves (mount.get · |>.InPlace) ∧
      (mount.get (t.step mount move).state).InPlace := by
  cases move with
  | make call =>
    obtain ⟨hslot, htap⟩ := set_make (mount.get t.state) t.endpoint call
    refine ⟨he.congr hslot htap, ?_⟩
    show (mount.get (mount.set _ _)).InPlace
    rw [hm.get_set]
    exact hs.make t.endpoint call
  | ask call =>
    exact Endpoint.Ledger.preserves_step he hs (Endpoint.Ledger.Call.preserves_of_look hmove)

/-- **Motors keep their numbers.** Motors are bound to a link, with fresh values that nobody
else can change, although others may have their handlers and taps there. Then calls are made,
of which any may fail, and anything is asked of the link, in any order: any bytes are received,
and any callbacks raise faults. At every time, what is looked up about a motor below eight is
there, and carries the number of the motor. -/
theorem motorId_of_run (hm : mount.Retains) {e : Endpoint σ} {s : σ}
    (hothers : ∀ m, e.Preserves (mount.get · = m)) (hfresh : mount.get s = fresh)
    {moves : List (Move σ)} (hmoves : ∀ move ∈ moves, move.Spares mount) (motor : UInt8)
    (hmotor : motor.toNat < 8) :
    let m := mount.get (Site.run mount e s moves).state
    (∃ info, m.infoOf motor = .ok info ∧ info.motorId = motor) ∧
      (∃ settings, m.settingsOf motor = .ok settings ∧ settings.motorId = motor) ∧
        ∃ pid, m.pidOf motor = .ok pid ∧ pid.motorId = motor := by
  have hrun : (Site.run mount e s moves).endpoint.Preserves (mount.get · |>.InPlace) ∧
      (mount.get (Site.run mount e s moves).state).InPlace := by
    refine List.foldlRecOn moves (Site.step mount)
      (motive := fun t => t.endpoint.Preserves (mount.get · |>.InPlace) ∧
        (mount.get t.state).InPlace) ?_ fun t ht move hmove => ?_
    · refine ⟨preserves_bind hm (Endpoint.preserves_of_look hothers), ?_⟩
      show (mount.get s).InPlace
      rw [hfresh]
      exact inPlace_fresh
    · exact Site.inPlace_step hm ht.1 ht.2 (hmoves move hmove)
  exact hrun.2.lookup hmotor

/-- A mode that the link refuses to send, an identity for a motor that there is not, and
settings that arrive for motor 5 between others that are refused. -/
theorem motorId_of_run_unsent :
    let mount : Mount Motors Motors Value := .whole Motors Value
    let config : LinkConfig := { frame := { integrity := .unchecked }, maxQueue := 4 }
    let settings (motor : UInt8) : Frame :=
      Component.frame (Value.settings { motorId := motor, mode := .mit })
    let moves : List (Move Motors) :=
      [.make (.setMode 3 .speed), .make (.sendInfo { motorId := 9 }),
        .ask (.push (Frame.wires config.frame [settings 9, settings 5])), .ask .parse]
    let m := (Site.run mount (.new config) fresh moves).state
    (m.modeOf 3).toOption = some .speed ∧ (m.modeOf 5).toOption = some .mit ∧
      (∃ settings, m.settingsOf 3 = .ok settings ∧ settings.motorId = 3) ∧
        ∃ settings, m.settingsOf 5 = .ok settings ∧ settings.motorId = 5 := by
  intro mount config settings moves m
  have hmount : mount.Retains := ⟨fun _ _ => rfl, fun _ _ => rfl⟩
  have hmoves : ∀ move ∈ moves, move.Spares mount := by
    simp [moves, Move.Spares, Endpoint.Ledger.Call.Preserves]
  have hnumbers (motor : UInt8) := motorId_of_run hmount
    (fun _ => Endpoint.preserves_new config) rfl hmoves motor
  exact ⟨by decide +kernel, by decide +kernel, (hnumbers 3 (by decide)).2.1,
    (hnumbers 5 (by decide)).2.1⟩

end Motors

end ServoLink
