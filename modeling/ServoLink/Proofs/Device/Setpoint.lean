import ServoLink.Proofs.Device.Channel

/-!
# Commands to motors

A motor is commanded by a setpoint, whose three numbers mean what its mode makes of them.
There is a call for each mode, and it is refused before anything is done if there is no such
motor or if the motor is known to be in another mode. Otherwise the setpoint of the motor is
replaced, in a table whose other entries stay as earlier commands and received tables have
left them, and the whole table is queued as one frame (`Motors.Command.run_effect`).

Positions and currents are unsigned, and the numbers of a setpoint are signed. What is kept
are the sixteen bits, from which the number can be had again (`Motors.Command.Fills`).
-/

namespace ServoLink

variable {σ : Type}

namespace Motors

variable {m : Motors} {e : Endpoint σ} {motor : UInt8} {k : Fin motorCount}

/-- The slot of a motor that there is. -/
theorem slot?_of_val_eq (hk : k.val = motor.toNat) : slot? motor = some k := by
  unfold slot?
  rw [dif_pos (hk ▸ k.isLt)]
  exact congrArg some (Fin.ext hk.symm)

/-- The slot of a motor that there is not. -/
theorem slot?_of_le (hmotor : motorCount ≤ motor.toNat) : slot? motor = none :=
  dif_neg (Nat.not_lt.2 hmotor)

/-- The mode of a motor that there is, is that of its slot. -/
theorem modeOf_of_val_eq (hk : k.val = motor.toNat) :
    m.modeOf motor = .ok (m.settings.get k).mode := by
  unfold modeOf settingsOf callerSlot
  rw [slot?_of_val_eq hk]
  rfl

section

variable {required : MotorMode} {setpoint : MotorSetpoint}

/-- A command to a motor that there is not is refused. -/
theorem commandSetpoint_of_le (hmotor : motorCount ≤ motor.toNat) :
    m.commandSetpoint e motor required setpoint
      = (.error (.instanceOutOfRange motor.toNat motorCount), m, e) := by
  unfold commandSetpoint callerSlot
  rw [slot?_of_le hmotor]

/-- A command to a motor in another mode is refused. -/
theorem commandSetpoint_of_ne (hk : k.val = motor.toNat)
    (hmode : (m.settings.get k).mode ≠ required) :
    m.commandSetpoint e motor required setpoint
      = (.error (.modeMismatch motor required (m.settings.get k).mode), m, e) := by
  unfold commandSetpoint callerSlot
  rw [slot?_of_val_eq hk]
  exact if_pos hmode

/-- Any other command is kept, and the table that it stands in is queued. -/
theorem commandSetpoint_of_eq (hk : k.val = motor.toNat)
    (hmode : (m.settings.get k).mode = required) :
    let kept := m.setSetpoint k setpoint
    let queued := e.enqueueFrame (.forKey setpointKey (Message.write kept.setpoints))
    m.commandSetpoint e motor required setpoint = (queued.1.mapError .link, kept, queued.2) := by
  intro kept queued
  unfold commandSetpoint callerSlot
  rw [slot?_of_val_eq hk]
  dsimp only
  rw [if_neg (not_not.2 hmode)]
  unfold keepAndSend
  rw [Endpoint.send_eq]
  rfl

end

/-! ## The commands -/

/-- What a motor can be told, by the mode that it has to be in. -/
inductive Command where
  | current (current : Int16)
  | speed (speed : Int16)
  | position (position : UInt16) (speed : Int16)
  | mit (position : UInt16) (speed : Int16) (current : UInt16)

namespace Command

/-- Give a command to a motor. -/
def run (m : Motors) (e : Endpoint σ) (motor : UInt8) : Command → Sent σ
  | .current i => m.setCurrent e motor i
  | .speed v => m.setSpeed e motor v
  | .position x v => m.setPosition e motor x v
  | .mit x v i => m.setMit e motor x v i

/-- The mode that a command is meant for. -/
def mode : Command → MotorMode
  | .current _ => .current
  | .speed _ => .speed
  | .position .. => .position
  | .mit .. => .mit

/-- **What a setpoint holds of a command.** Unsigned numbers are read off the bits of a
signed one, and the numbers that the command has no use for are zero. -/
def Fills (setpoint : MotorSetpoint) : Command → Prop
  | .current i => setpoint.set = i ∧ setpoint.setExtra = 0 ∧ setpoint.setExtra2 = 0
  | .speed v => setpoint.set = v ∧ setpoint.setExtra = 0 ∧ setpoint.setExtra2 = 0
  | .position x v =>
    setpoint.set.toUInt16 = x ∧ setpoint.setExtra = v ∧ setpoint.setExtra2 = 0
  | .mit x v i =>
    setpoint.set.toUInt16 = x ∧ setpoint.setExtra = v ∧ setpoint.setExtra2.toUInt16 = i

/-- Each command is a setpoint for its mode that holds it. -/
theorem exists_setpoint (c : Command) :
    ∃ setpoint, c.Fills setpoint ∧ ∀ {σ : Type} (m : Motors) (e : Endpoint σ) (motor : UInt8),
      c.run m e motor = m.commandSetpoint e motor c.mode setpoint := by
  cases c with
  | current i => exact ⟨{ set := i }, ⟨rfl, rfl, rfl⟩, fun _ _ _ => rfl⟩
  | speed v => exact ⟨{ set := v }, ⟨rfl, rfl, rfl⟩, fun _ _ _ => rfl⟩
  | position x v =>
    exact ⟨{ set := x.toInt16, setExtra := v }, ⟨x.toUInt16_toInt16, rfl, rfl⟩,
      fun _ _ _ => rfl⟩
  | mit x v i =>
    exact ⟨{ set := x.toInt16, setExtra := v, setExtra2 := i.toInt16 },
      ⟨x.toUInt16_toInt16, rfl, i.toUInt16_toInt16⟩, fun _ _ _ => rfl⟩

/-- **What a command does**, for whatever values are known of the motors and whatever the
state of the link is.

If there is no such motor, or it is known to be in another mode, the command is refused, and
the values and the link are as they were. Otherwise it fails if and only if the link refuses
the frame. If it succeeds with `n`, the setpoint of this motor holds the command, the other
setpoints and all other values are as they were, and one frame was queued, of `n` bytes: it
goes to the setpoint key, and its payload of 48 bytes reads as the table of all setpoints as
it is now. -/
theorem run_effect (m : Motors) (e : Endpoint σ) (motor : UInt8) (c : Command) :
    let answer := (c.run m e motor).1
    let m' := (c.run m e motor).2.1
    let e' := (c.run m e motor).2.2
    let frame : Frame := { component := 1, data := 4, payload := Message.write m'.setpoints }
    (8 ≤ motor.toNat →
      c.run m e motor = (.error (.instanceOutOfRange motor.toNat 8), m, e)) ∧
    (motor.toNat < 8 → ∃ actual, m.modeOf motor = .ok actual ∧
      (actual ≠ c.mode →
        c.run m e motor = (.error (.modeMismatch motor c.mode actual), m, e)) ∧
      (actual = c.mode →
        (∀ err, answer = .error err ↔
          ∃ reason, err = .link reason ∧ (e.enqueueFrame frame).1 = .error reason) ∧
        ∀ n, answer = .ok n →
          (∃ setpoint, c.Fills setpoint ∧ ∀ j : Fin motorCount, m'.setpoints.get j
            = if j.val = motor.toNat then setpoint else m.setpoints.get j) ∧
          m' = { m with setpoints := m'.setpoints } ∧
          frame.payload.length = 48 ∧ Message.ofPayload frame.payload = .ok m'.setpoints ∧
          n = (Frame.wire { frame with seq := e.nextSeq } e.config.frame).length ∧
          e' = { e with
            queue := { e.queue with
              bytes := e.queue.bytes
                ++ Frame.wire { frame with seq := e.nextSeq } e.config.frame }
            nextSeq := e.nextSeq + 1 }.count fun counters =>
              { counters with framesEnqueued := counters.framesEnqueued.bump 1 })) := by
  obtain ⟨setpoint, hfills, hrun⟩ := c.exists_setpoint
  rw [hrun]
  intro answer m' e' frame
  refine ⟨commandSetpoint_of_le, fun hmotor => ?_⟩
  obtain ⟨k, hk⟩ : ∃ k : Fin motorCount, k.val = motor.toNat := ⟨⟨motor.toNat, hmotor⟩, rfl⟩
  refine ⟨_, modeOf_of_val_eq hk, commandSetpoint_of_ne hk, fun hmode => ?_⟩
  have hkept : m.commandSetpoint e motor c.mode setpoint = _ := commandSetpoint_of_eq hk hmode
  have hm' : m' = m.setSetpoint k setpoint := congrArg (·.2.1) hkept
  have hqueued : answer = (e.enqueueFrame frame).1.mapError .link ∧
      e' = (e.enqueueFrame frame).2 := by
    rw [show frame = .forKey setpointKey (Message.write (m.setSetpoint k setpoint).setpoints) from
      congrArg (fun kept : Motors => Frame.forKey setpointKey (Message.write kept.setpoints)) hm']
    exact ⟨congrArg Prod.fst hkept, congrArg (·.2.2) hkept⟩
  obtain ⟨hanswer, he'⟩ := hqueued
  have hlength : frame.payload.length = 48 := Message.length_write m'.setpoints
  rcases e.enqueueFrame_cases frame with ⟨-, htaken⟩ | ⟨reason, hrefused⟩
  · -- the link takes the frame
    rw [htaken] at hanswer he' ⊢
    rw [hanswer]
    refine ⟨fun err => ⟨nofun, fun ⟨_, _, h⟩ => nomatch h⟩, fun n hn => ?_⟩
    refine ⟨⟨setpoint, hfills, fun j => ?_⟩, ?_, hlength, ?_, ?_, he'⟩
    · rw [hm', ← hk]
      have hslot := get_set m.setpoints k setpoint j
      simp only [Fin.ext_iff] at hslot
      exact hslot
    · rw [hm']
      rfl
    · exact (Message.ofPayload_write m'.setpoints).trans (congrArg Except.ok (Vector.map_id _))
    · rw [Frame.length_wire]
      exact (Except.ok.inj hn).symm
  · -- the link refuses it
    rw [hrefused] at hanswer ⊢
    rw [hanswer]
    refine ⟨fun err => ⟨fun h => ?_, fun ⟨reason', h, h'⟩ => ?_⟩, nofun⟩
    · exact ⟨reason, (Except.error.inj h).symm, rfl⟩
    · rw [h, ← Except.error.inj h']
      rfl

/-- Motor 3 is to go to a position above the signed numbers, with a setpoint of motor 5 left
from before. Motor 5 is in another mode, and there is no motor 9. -/
theorem run_effect_mit :
    let third : Fin motorCount := ⟨3, by decide⟩
    let fifth : Fin motorCount := ⟨5, by decide⟩
    let m := (fresh.setSettings third { motorId := 3, mode := .mit }).setSetpoint fifth { set := 7 }
    let e : Endpoint Unit := .new {}
    let c : Command := .mit 0xFFFE (-2) 0x8000
    let after := (c.run m e 3).2.1.setpoints
    m.modeOf 3 = .ok c.mode ∧ (c.run m e 3).1 = .ok 56 ∧
      (after.get third).set.toUInt16 = 0xFFFE ∧ after.get fifth = { set := 7 } ∧
      c.run m e 5 = (.error (.modeMismatch 5 .mit .current), m, e) ∧
      c.run m e 9 = (.error (.instanceOutOfRange 9 8), m, e) := by
  intro third fifth m e c after
  have hmode : m.modeOf 3 = .ok c.mode := rfl
  have hok : (c.run m e 3).1 = .ok 56 := rfl
  obtain ⟨-, hthird⟩ := run_effect m e 3 c
  obtain ⟨actual, hactual, -, heffect⟩ := hthird (by decide)
  have hsame : actual = c.mode := Except.ok.inj (hactual.symm.trans hmode)
  obtain ⟨⟨setpoint, ⟨hposition, -⟩, hslots⟩, -⟩ := (heffect hsame).2 56 hok
  obtain ⟨-, hfifth⟩ := run_effect m e 5 c
  obtain ⟨other, hother, hmismatch, -⟩ := hfifth (by decide)
  obtain rfl : MotorMode.current = other := Except.ok.inj hother
  obtain ⟨habsent, -⟩ := run_effect m e 9 c
  refine ⟨hmode, hok, ?_, ?_, hmismatch nofun, habsent (by decide)⟩
  · exact (congrArg (·.set.toUInt16) (hslots third)).trans hposition
  · exact hslots fifth

end Command

end Motors

end ServoLink
