import ServoLink.Device.Update
import ServoLink.Firmware.Image

/-!
# Uploading an image

An upload queues the chunks of an image and then its checksum, as far as the
send queue has room, and goes on from there when it is called again.
-/

namespace ServoLink

/-- An upload under way. -/
structure Upload where
  /-- The image. -/
  image : Image
  /-- The frames queued so far. -/
  queued : Nat := 0
  deriving DecidableEq, Inhabited

namespace Upload

/-- The frames of the whole upload: every chunk and the checksum. -/
def total (u : Upload) : Nat :=
  u.image.chunkCount + 1

/-- Whether every frame was queued. -/
def isComplete (u : Upload) : Bool :=
  u.total ≤ u.queued

/-- What queueing frames answers, and what it leaves behind. -/
abbrev Pumped (σ : Type) := Except DeviceError Bool × Upload × Update × Endpoint σ

variable {σ : Type}

/-- Queue the next frame, whatever it is. -/
def sendNext (u : Upload) (m : Update) (e : Endpoint σ) : Update.Sent σ :=
  match u.image.chunk? u.queued with
  | some chunk => m.sendChunk e chunk
  | none => m.sendCrc e u.image.crc

/-- Queue frames until the upload is complete, which answers `true`, or the
queue is full, which answers `false`. -/
def pump (u : Upload) (m : Update) (e : Endpoint σ) : Pumped σ :=
  if u.isComplete then (.ok true, u, m, e)
  else match u.sendNext m e with
    | (.ok _, m, e) => pump { u with queued := u.queued + 1 } m e
    | (.error (.link (.queueFull ..)), m, e) => (.ok false, u, m, e)
    | (.error err, m, e) => (.error err, u, m, e)
termination_by u.total - u.queued
decreasing_by
  simp only [isComplete, decide_eq_true_eq, Nat.not_le] at *
  simp only [total] at *
  omega

end Upload

end ServoLink
