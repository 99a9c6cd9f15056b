import ServoLink.Proofs.Firmware.Pump
import ServoLink.Proofs.Link.Outbound

/-!
# The history of an upload

A `Campaign` is a history of a link on which an upload is pumped, among all else that
can be done to it: others queue frames, frames come in and are answered, the queue is
handed out, in any order. It records the bytes that each call of `pump` has added to
the queue.

However the others fill the queue, pumping never fails, and what it has queued is the
schedule of the image, as far as it got (`Campaign.underway_run`).
-/

namespace ServoLink

open Endpoint

variable {σ : Type}

namespace Endpoint.Ledger

/-- What a call does does not depend on the frames taken before. -/
theorem step_taken (t : Ledger σ) (call : Call σ) : ∃ frames, ∀ earlier,
    ({ t with taken := earlier } : Ledger σ).step call
      = { t.step call with taken := earlier ++ frames } := by
  cases call with
  | parse =>
    refine ⟨t.endpoint.parseAnswers {} t.state, fun earlier => ?_⟩
    rcases hparse : t.endpoint.parse t.state with ⟨fault | report, e', s'⟩
    · rw [step_parse_of_error hparse]
      exact step_parse_of_error (t := { t with taken := earlier }) hparse
    · rw [step_parse_of_ok hparse]
      exact step_parse_of_ok (t := { t with taken := earlier }) hparse
  | enqueue k payload => exact ⟨t.endpoint.taken (.forKey k payload), fun _ => rfl⟩
  | enqueueFrame f => exact ⟨t.endpoint.taken f, fun _ => rfl⟩
  | request k => exact ⟨t.endpoint.taken (.forKey k []), fun _ => rfl⟩
  | push | register | registerWildcard | registerRemaining | onDispatch | drain | touch =>
    refine ⟨[], fun earlier => ?_⟩
    rw [List.append_nil]
    rfl

end Endpoint.Ledger

/-- Whether a key is one of the firmware channel. -/
def Update.owns (k : Key) : Bool :=
  k = chunkKey ∨ k = crcKey

theorem Update.owns_key (v : Update.Value) : owns v.key = true := by
  cases v <;> rfl

/-- The channel leaves the other keys alone. -/
theorem Update.slot_bind_of_not_owns (mount : Mount σ Update Value) (e : Endpoint σ) {k : Key}
    (h : owns k = false) : (bind mount e).registry.slot k = e.registry.slot k := by
  obtain ⟨hchunk, hcrc⟩ := not_or.1 (of_decide_eq_false h)
  exact (if_neg hcrc).trans (if_neg hchunk)

/-- What is asked of a link on which an upload is pumped. -/
inductive Campaign.Call (σ : Type) where
  /-- Pump, with the values of the firmware channel as they are. -/
  | pump (values : Update)
  /-- Anything else. -/
  | other (call : Ledger.Call σ)

/-- A history of a link on which an upload is pumped. -/
structure Campaign (σ : Type) where
  /-- The link. The frames it has on record are those not pumped. -/
  link : Ledger σ
  /-- The upload. -/
  upload : Upload
  /-- The bytes that pumping has added to the queue, in order. -/
  pumped : Bytes := []
  /-- The answers to pumping. -/
  answers : List (Except DeviceError Bool) := []

namespace Campaign

/-- One call. -/
def step (t : Campaign σ) : Call σ → Campaign σ
  | .pump values =>
    let (answer, upload, _, endpoint) := t.upload.pump values t.link.endpoint
    { link := { t.link with endpoint }
      upload
      pumped := t.pumped ++ endpoint.queue.bytes.drop t.link.endpoint.queue.size
      answers := t.answers ++ [answer] }
  | .other call => { t with link := t.link.step call }

/-- A history of calls on a fresh link, with nothing of the image queued. -/
def run (config : LinkConfig) (state : σ) (image : Image) (calls : List (Call σ)) : Campaign σ :=
  calls.foldl step { link := { endpoint := .new config, state }, upload := { image } }

/-- **An upload under way**: of all the frames that the queue has taken, those that were
pumped are the schedule of the image, as far as it got. -/
structure Underway (c : LinkConfig) (image : Image) (all pumped : List Frame) (t : Campaign σ) :
    Prop where
  stocked : Ledger.Stocked c { t.link with taken := all }
  bytes : t.pumped = Frame.wires c.frame pumped
  content : pumped.map Frame.content
    = (image.schedule.take t.upload.queued).map fun v => (Component.frame v).content
  image : t.upload.image = image
  bounded : t.upload.queued ≤ t.upload.total
  answers : ∀ answer ∈ t.answers, ∃ done, answer = .ok done
  apart : (∀ f ∈ t.link.taken, Update.owns f.key = false) →
    all.filter (fun f => Update.owns f.key) = pumped

variable {c : LinkConfig} {image : Image} {all pumped : List Frame} {t : Campaign σ}

/-- Frames that say values of the firmware channel are on its keys. -/
theorem filter_owns {frames : List Frame} {values : List Update.Value}
    (h : frames.map Frame.content = values.map fun v => (Component.frame v).content) :
    frames.filter (fun f => Update.owns f.key) = frames := by
  refine List.filter_eq_self.2 fun f hf => ?_
  obtain ⟨v, hv⟩ := Frame.exists_of_map_content h hf
  have hkey : f.key = v.key := congrArg Prod.fst hv
  rw [hkey]
  exact Update.owns_key v

/-- Pumping goes on in the schedule by the frames that were taken. -/
theorem upload_step_pump {values : Update} {frames : List Frame}
    (h : Upload.Advances t.upload t.link.endpoint (t.upload.pump values t.link.endpoint) frames) :
    (t.step (.pump values)).upload
      = { t.upload with queued := t.upload.queued + frames.length } :=
  h.upload

/-- **Pumping keeps an upload under way.** -/
theorem Underway.pump (h : Underway c image all pumped t)
    (hlimit : chunkSize ≤ c.frame.payloadLimit) (values : Update) :
    ∃ frames, Underway c image (all ++ frames) (pumped ++ frames) (t.step (.pump values)) ∧
      Upload.Advances t.upload t.link.endpoint (t.upload.pump values t.link.endpoint) frames := by
  obtain ⟨frames, hadv⟩ := t.upload.advances_pump values t.link.endpoint (by
    rw [show t.link.endpoint.config = c from h.stocked.config]
    exact hlimit)
  have hupload := upload_step_pump hadv
  refine ⟨frames, ⟨h.stocked.took hadv.took hadv.holds, ?bytes, ?content, ?image, ?bounded,
    ?answers, ?apart⟩, hadv⟩
  case bytes =>
    show t.pumped ++ List.drop _ _ = _
    rw [hadv.took.queued, SendQueue.size, List.drop_left, h.bytes, Frame.wires_append,
      show t.link.endpoint.config = c from h.stocked.config]
  case content =>
    rw [hupload, List.map_append, h.content, hadv.content, h.image, ← List.map_append,
      ← List.take_add]
  case image =>
    rw [hupload]
    exact h.image
  case bounded =>
    have hbounded : (t.step (.pump values)).upload.queued ≤ t.upload.total := hadv.bounded h.bounded
    rw [hupload] at hbounded ⊢
    exact hbounded
  case answers =>
    intro answer hmem
    rcases List.mem_append.1 hmem with hmem | hmem
    · exact h.answers answer hmem
    · rw [List.mem_singleton.1 hmem]
      exact ⟨_, hadv.answer⟩
  case apart =>
    intro hapart
    rw [List.filter_append, h.apart hapart, filter_owns hadv.content]

/-- **Anything else keeps an upload under way.** -/
theorem Underway.other (h : Underway c image all pumped t) (call : Ledger.Call σ) :
    ∃ frames, Underway c image (all ++ frames) pumped (t.step (.other call)) := by
  obtain ⟨frames, htaken⟩ := t.link.step_taken call
  refine ⟨frames, ?_, h.bytes, h.content, h.image, h.bounded, h.answers, fun hapart => ?_⟩
  · have hstock := h.stocked.step call
    rw [htaken] at hstock
    exact hstock
  · have hlink : (t.link.step call).taken = t.link.taken ++ frames :=
      congrArg Ledger.taken (htaken t.link.taken)
    have hapart : ∀ f ∈ (t.link.step call).taken, Update.owns f.key = false := hapart
    rw [hlink] at hapart
    rw [List.filter_append, h.apart fun f hf => hapart f (List.mem_append_left _ hf),
      List.filter_eq_nil_iff.2 fun f hf => by
        rw [hapart f (List.mem_append_right _ hf)]
        exact Bool.false_ne_true, List.append_nil]

/-- **Every history keeps an upload under way**, where the limit lets a chunk pass. -/
theorem underway_run (config : LinkConfig) (hlimit : chunkSize ≤ config.frame.payloadLimit)
    (state : σ) (image : Image) (calls : List (Call σ)) :
    ∃ all pumped, Underway config image all pumped (run config state image calls) := by
  refine List.foldlRecOn calls step
    (motive := fun t => ∃ all pumped, Underway config image all pumped t)
    ⟨[], [], ⟨Ledger.stocked_new config state, rfl, rfl, rfl, Nat.zero_le _, ?_, fun _ => rfl⟩⟩ ?_
  · intro answer hmem
    cases hmem
  · rintro t ⟨all, pumped, h⟩ call -
    cases call with
    | pump values =>
      obtain ⟨frames, hpumped, -⟩ := h.pump hlimit values
      exact ⟨_, _, hpumped⟩
    | other call =>
      obtain ⟨frames, hother⟩ := h.other call
      exact ⟨_, _, hother⟩

end Campaign

end ServoLink
