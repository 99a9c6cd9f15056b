import ServoLink.Proofs.Device.Replica
import ServoLink.Proofs.Firmware.Campaign
import ServoLink.Proofs.Frame.RoundTrip

/-!
# An image delivered

What a link hands out while an upload is pumped is the schedule of the image with the
frames of others in between. The firmware channel of the receiver sees none of the
others: as long as they are not on its keys, and what is done with them leaves its
values alone, it makes of the stream what it would make of the schedule alone
(`Component.deliverAll_among`). So once the upload is complete and the queue was handed
out, the receiver has announced the chunks of the image, each once and in order, and
holds the checksum (`Campaign.image_delivered`).
-/

namespace ServoLink

open Endpoint Registry

variable {σ τ α μ : Type}

/-- A slot that raises no fault and leaves what is looked at as it is. -/
def Slot.Keeps (slot : Slot σ) (look : σ → α) : Prop :=
  ∀ f s, (∃ d, (deliver slot f s).1 = .ok d) ∧ look (deliver slot f s).2 = look s

namespace Component

/-! ## Values among other frames -/

variable [Component α μ] {mount : Mount σ α μ} {log : σ → List μ} {slot : Key → Slot σ}
  {owns : Key → Bool} {e₀ : Endpoint σ} {frames : List Frame} {values : List μ} {m' : α} {s : σ}

/-- **Values that arrive among other frames** are stored and announced as if they arrived
alone, if what is done with the others leaves the component alone. -/
theorem deliverAll_among (hm : mount.Logged log)
    (hslot : ∀ v : μ, slot (key v) = (bind mount e₀).registry.slot (key v))
    (hget : ∀ k, owns k = false → (slot k).Keeps mount.get)
    (hlog : ∀ k, owns k = false → (slot k).Keeps log)
    (hframes : (frames.filter fun f => owns f.key).map Frame.content
      = values.map fun v => (frame v).content)
    (hstored : (values.map canon).foldlM store (mount.get s) = .ok m') :
    mount.get (deliverAll slot frames s).2 = m' ∧
      log (deliverAll slot frames s).2 = log s ++ values.map canon := by
  induction frames generalizing s values with
  | nil =>
    obtain rfl : values = [] := List.map_eq_nil_iff.1 hframes.symm
    exact ⟨Except.ok.inj hstored, (List.append_nil _).symm⟩
  | cons f frames ih =>
    rw [deliverAll_cons]
    dsimp only
    cases howns : owns f.key with
    | false =>
      rw [List.filter_cons_of_neg (by rw [howns]; exact Bool.false_ne_true)] at hframes
      obtain ⟨-, hsame⟩ := hget f.key howns f s
      obtain ⟨-, hquiet⟩ := hlog f.key howns f s
      rw [← hsame] at hstored
      rw [← hquiet]
      exact ih hframes hstored
    | true =>
      rw [List.filter_cons_of_pos (p := fun f : Frame => owns f.key) howns,
        List.map_cons] at hframes
      obtain ⟨v, values, rfl, hv, hrest⟩ := List.map_eq_cons_iff.1 hframes.symm
      rw [List.map_cons] at hstored
      obtain ⟨m₁, hfirst, hothers⟩ := foldlM_store_cons hstored
      have hdeliver := deliver_of_content hslot hv.symm s
      rw [mount.receive_of_ok hm.toLawful hfirst] at hdeliver
      rw [hdeliver]
      obtain ⟨hend, hannounced⟩ := ih (s := (mount.notify (canon v) (mount.set m₁ s)).2) hrest.symm
        (by rw [hm.get_notify, hm.get_set]; exact hothers)
      refine ⟨hend, ?_⟩
      rw [hannounced, hm.log_notify, hm.log_set, List.append_assoc]
      rfl

/-- None of them raises a fault. -/
theorem calm_among (hm : mount.Lawful)
    (hslot : ∀ v : μ, slot (key v) = (bind mount e₀).registry.slot (key v))
    (hget : ∀ k, owns k = false → (slot k).Keeps mount.get)
    (hframes : (frames.filter fun f => owns f.key).map Frame.content
      = values.map fun v => (frame v).content) :
    ∀ f ∈ frames, Calm slot f := by
  intro f hf
  cases howns : owns f.key with
  | false => exact fun s => (hget f.key howns f s).1
  | true =>
    obtain ⟨v, hv⟩ := Frame.exists_of_map_content hframes
      (List.mem_filter (p := fun f : Frame => owns f.key) |>.2 ⟨hf, howns⟩)
    exact calm_of_content hm hslot hv

end Component

namespace Campaign

variable {c : LinkConfig} {image : Image} {all pumped : List Frame} {t : Campaign σ}

/-! ## The sending side -/

/-- An upload never goes back. -/
theorem Underway.monotone (h : Underway c image all pumped t)
    (hlimit : chunkSize ≤ c.frame.payloadLimit) (call : Call σ) :
    t.upload.queued ≤ (t.step call).upload.queued := by
  cases call with
  | pump values =>
    obtain ⟨frames, -, hadv⟩ := h.pump hlimit values
    rw [upload_step_pump hadv]
    exact Nat.le_add_right _ _
  | other call => exact Nat.le_refl _

/-- Pumping with room for a chunk goes on, if anything is left. -/
theorem Underway.progress (h : Underway c image all pumped t)
    (hlimit : chunkSize ≤ c.frame.payloadLimit) (hmore : t.upload.isComplete = false)
    (hroom : headerSize + chunkSize ≤ t.link.endpoint.queue.remaining) (values : Update) :
    t.upload.queued < (t.step (.pump values)).upload.queued := by
  obtain ⟨frames, -, hadv⟩ := h.pump hlimit values
  rw [upload_step_pump hadv]
  exact Nat.lt_add_of_pos_right (List.length_pos_iff.2 (hadv.progress hmore hroom))

/-- What was pumped reads back as the schedule, as far as it got. -/
theorem Underway.readBack (h : Underway c image all pumped t)
    (hlimit : chunkSize ≤ c.frame.payloadLimit) :
    Frame.decodeAll c.frame t.pumped
      = { frames := pumped.map (·.received c.frame), error := none, rest := [] } := by
  have hfits : ∀ f ∈ pumped, f.payload.length ≤ c.frame.payloadLimit := by
    intro f hf
    obtain ⟨v, hv⟩ := Frame.exists_of_map_content h.content hf
    rw [show f.payload = v.payload from congrArg Prod.snd hv]
    exact Nat.le_trans (Image.length_payload_le v) hlimit
  rw [h.bytes]
  exact Frame.decodeAll_wires hfits

/-! ## The receiving side -/

/-- Once the queue was handed out, the blocks are all frames in a row. -/
theorem Underway.blocks_eq (h : Underway c image all pumped t)
    (hdrained : t.link.endpoint.queue.bytes = []) :
    t.link.blocks.flatten = Frame.wires c.frame all := by
  obtain ⟨sent, waiting, hall, hblocks, hqueue⟩ := h.stocked.rows
  have hnone : waiting = [] := by
    cases waiting with
    | nil => rfl
    | cons f waiting =>
      have hlength := congrArg List.length (hqueue.symm.trans hdrained)
      have hcons : Frame.wires c.frame (f :: waiting)
        = f.wire c.frame ++ Frame.wires c.frame waiting := rfl
      rw [hcons, List.length_append, f.length_wire] at hlength
      unfold Frame.wireSize headerSize at hlength
      rw [List.length_nil] at hlength
      omega
  obtain rfl := hnone
  have hall : all = sent.flatten := hall.trans (List.append_nil _)
  have hblocks : t.link.blocks = sent.map (Frame.wires c.frame) := hblocks
  rw [hblocks, hall, Frame.wires_flatten]

/-- **A fresh firmware channel makes the image of what a complete upload sent**, if it
receives nothing else on its keys. -/
theorem Underway.received (h : Underway c image all pumped t)
    (hcomplete : t.upload.isComplete = true) (hdrained : t.link.endpoint.queue.bytes = [])
    (hapart : ∀ f ∈ t.link.taken, Update.owns f.key = false) {receiver : LinkConfig}
    (hframe : c.frame = receiver.frame) {mount : Mount τ Update Update.Value}
    {log : τ → List Update.Value} (hm : mount.Logged log) {r : Registry τ} {s : τ}
    (hfresh : mount.get s = {})
    (hslot : ∀ v : Update.Value, r.slot v.key = (Update.bind mount (.new {})).registry.slot v.key)
    (hget : ∀ k, Update.owns k = false → (r.slot k).Keeps mount.get)
    (hlog : ∀ k, Update.owns k = false → (r.slot k).Keeps log) (moves : List Reception.Move)
    (hbytes : (Reception.run receiver r s (moves ++ [.parse])).accepted
      = t.link.blocks.flatten) :
    let d := Reception.run receiver r s (moves ++ [.parse])
    log d.state = log s ++ image.schedule ∧ ∃ chunk, mount.get d.state
      = { chunk, crc := { crc16 := image.crc },
          chunksReceived := UInt64.ofNat image.chunkCount } := by
  have hrow := hbytes.trans (h.blocks_eq hdrained)
  rw [hframe] at hrow
  -- all of the schedule was pumped, and nothing else is on the keys
  have hwhole : image.schedule.length ≤ t.upload.queued := by
    rw [image.length_schedule, ← h.image]
    exact t.upload.isComplete_iff.1 hcomplete
  have hcontent := h.content
  rw [List.take_of_length_le hwhole] at hcontent
  have howned : ((all.map (·.received receiver.frame)).filter fun f => Update.owns f.key).map
      Frame.content = image.schedule.map fun v => (Component.frame v).content := by
    have howns : (fun f => Update.owns f.key) ∘ (Frame.received · receiver.frame)
        = fun f => Update.owns f.key :=
      funext fun f => congrArg Update.owns (Frame.key_received f _)
    have hsays : Frame.content ∘ (Frame.received · receiver.frame) = Frame.content :=
      funext fun f => Frame.content_received f _
    rw [List.filter_map, howns, h.apart hapart, List.map_map, hsays, hcontent]
  have hcalm := Component.calm_among hm.toLawful hslot hget howned
  obtain ⟨hrouted, -⟩ := Reception.routed_of_wires receiver r s all moves
    (fun f hf => by rw [← hframe]; exact h.stocked.fits f hf)
    (fun f hf => hcalm _ (List.mem_map_of_mem hf)) hrow
  have hcanon : image.schedule.map Component.canon = image.schedule :=
    List.map_id'' (fun v => by cases v <;> rfl) _
  obtain ⟨chunk, hstored⟩ := image.foldlM_store_schedule
  obtain ⟨hvalues, hannounced⟩ := Component.deliverAll_among (s := s) hm hslot hget hlog howned
    (by rw [hcanon, hfresh]; exact hstored)
  intro d
  have hstate : d.state = _ := hrouted.state
  rw [hstate, hannounced, hcanon]
  exact ⟨rfl, chunk, hvalues⟩

/-- **An image is delivered once and in order.** Let two links have the same frame format,
whose limit lets a chunk pass, and let the queue of the sender have room for one. In every
history of the sender, with pumping, queueing and handing out in any order:

pumping never fails; the upload never goes back, and not beyond its end; the bytes that
pumping has added, which stand behind what was queued, read back as the chunks of the image
in order and then the checksum, as far as the upload got; with room for a chunk, as there is
behind a drain, pumping goes on until the upload is complete; and then it does nothing.

If the upload is complete, all was handed out, and a fresh firmware channel takes it in, in
any pieces, with no other frames on its keys, then it has announced the chunks of the image
and then the checksum. They are as many as it has counted, in 64 bits, and hold the image and
then zeros. -/
theorem image_delivered (sender receiver : LinkConfig) (hframe : sender.frame = receiver.frame)
    (hlimit : chunkSize ≤ sender.frame.payloadLimit)
    (hroom : headerSize + chunkSize ≤ sender.maxQueue) (state : σ) (image : Image)
    (calls : List (Call σ)) :
    let t := run sender state image calls
    let read := Frame.decodeAll sender.frame t.pumped
    (∀ answer ∈ t.answers, ∃ done, answer = .ok done) ∧
      t.upload.image = image ∧ t.upload.queued ≤ t.upload.total ∧
      (∀ call, t.upload.queued ≤ (t.step call).upload.queued) ∧
      (∀ values, ∃ added, (t.step (.pump values)).pumped = t.pumped ++ added ∧
        (t.step (.pump values)).link.endpoint.queue.bytes
          = t.link.endpoint.queue.bytes ++ added) ∧
      (read.frames.map Frame.content
          = (image.schedule.take t.upload.queued).map fun v => (Component.frame v).content) ∧
      read.error = none ∧ read.rest = [] ∧
      (t.upload.isComplete = false → ∀ values,
        (headerSize + chunkSize ≤ t.link.endpoint.queue.remaining →
          t.upload.queued < (t.step (.pump values)).upload.queued) ∧
        t.upload.queued < ((t.step (.other .drain)).step (.pump values)).upload.queued) ∧
      (t.upload.isComplete = true → ∀ values,
        t.step (.pump values) = { t with answers := t.answers ++ [.ok true] }) ∧
      ∀ (mount : Mount τ Update Update.Value) (log : τ → List Update.Value) (r : Registry τ) (s : τ)
        (moves : List Reception.Move),
      let d := Reception.run receiver r s (moves ++ [.parse])
      mount.Logged log → mount.get s = {} → log s = [] →
      (∀ v : Update.Value,
        r.slot v.key = (Update.bind mount (.new {})).registry.slot v.key) →
      (∀ k, Update.owns k = false → (r.slot k).Keeps mount.get ∧ (r.slot k).Keeps log) →
      t.upload.isComplete = true → t.link.endpoint.queue.bytes = [] →
      (∀ f ∈ t.link.taken, Update.owns f.key = false) → d.accepted = t.link.blocks.flatten →
        ∃ chunks : List FirmwareChunk,
          log d.state = chunks.map .chunk ++ [.crc { crc16 := image.crc }] ∧
          chunks.length = (image.data.length + chunkSize - 1) / chunkSize ∧
          (chunks.map (·.data.toList)).flatten = image.data
            ++ List.replicate (chunkSize * chunks.length - image.data.length) 0 ∧
          ((mount.get d.state).chunksReceived : Nat) = chunks.length % 2 ^ 64 ∧
          (mount.get d.state).crc = { crc16 := image.crc } := by
  intro t read
  obtain ⟨all, pumped, h⟩ := underway_run sender hlimit state image calls
  have hread : read = _ := h.readBack hlimit
  refine ⟨h.answers, h.image, h.bounded, h.monotone hlimit, ?added, ?content, ?error, ?rest,
    ?progress, ?complete, ?received⟩
  case added =>
    intro values
    obtain ⟨frames, -, hadv⟩ := h.pump hlimit values
    refine ⟨_, rfl, ?_⟩
    show (t.upload.pump values t.link.endpoint).2.2.2.queue.bytes = _ ++ List.drop _ _
    rw [hadv.took.queued, SendQueue.size, List.drop_left]
  case content =>
    rw [hread, ← h.content, List.map_map]
    exact List.map_congr_left fun f _ => Frame.content_received f _
  case error => rw [hread]
  case rest => rw [hread]
  case progress =>
    intro hmore values
    refine ⟨fun hfree => h.progress hlimit hmore hfree values, ?_⟩
    obtain ⟨frames, hdrained⟩ := h.other .drain
    refine hdrained.progress hlimit hmore ?_ values
    show headerSize + chunkSize ≤ t.link.endpoint.queue.capacity
    rw [show t.link.endpoint.queue.capacity = sender.maxQueue from h.stocked.capacity]
    exact hroom
  case complete =>
    intro hcomplete values
    have hpump : t.upload.pump values t.link.endpoint
        = (.ok true, t.upload, values, t.link.endpoint) := by
      unfold Upload.pump
      exact if_pos hcomplete
    unfold step
    dsimp only
    rw [hpump, SendQueue.size, List.drop_length, List.append_nil]
  case received =>
    intro mount log r s moves d hm hfresh hnew hslot hothers hcomplete hdrained hapart hbytes
    obtain ⟨hlog, chunk, hvalues⟩ := h.received hcomplete hdrained hapart hframe hm hfresh hslot
      (fun k hk => (hothers k hk).1) (fun k hk => (hothers k hk).2) moves hbytes
    rw [hnew, List.nil_append] at hlog
    refine ⟨image.chunks, hlog, image.length_chunks, ?_, ?_, ?_⟩
    · rw [image.flatten_chunks, image.length_chunks]
      rfl
    · rw [hvalues, image.length_chunks]
      exact UInt64.toNat_ofNat'
    · rw [hvalues]

/-- Three bytes make one chunk. The queue has room for just one frame of that size, and at
first there is a request in it; the receiver parses in between. -/
theorem image_delivered_short :
    let config : LinkConfig := { frame := { integrity := .unchecked }, maxQueue := 264 }
    let image : Image := ⟨[1, 2, 3]⟩
    let calls : List (Call Unit) := [.other (.request ⟨1, 1⟩), .pump {}, .other .drain, .pump {},
      .other .drain, .pump {}, .other .drain]
    let t := run config () image calls
    let mount := Mount.journal Update Update.Value
    let e : Endpoint (Update × List Update.Value) := .new config
    let bytes := t.link.blocks.flatten
    let moves : List Reception.Move := [.push (bytes.take 100), .parse, .push (bytes.drop 100)]
    let d := Reception.run config (Update.bind mount e).registry ({}, []) (moves ++ [.parse])
    t.answers = [.ok false, .ok false, .ok true] ∧
      ∃ chunk, d.state.2 = [.chunk chunk, .crc { crc16 := image.crc }] ∧
        chunk.data.toList = [1, 2, 3] ++ List.replicate 253 0 := by
  intro config image calls t mount e bytes moves d
  have hempty : ∀ k, Update.owns k = false → (Update.bind mount e).registry.slot k = .empty :=
    fun k hk => Update.slot_bind_of_not_owns mount e hk
  obtain ⟨-, -, -, -, -, -, -, -, -, -, hreceived⟩ :=
    image_delivered (τ := Update × List Update.Value) config config rfl (by decide) (by decide) ()
      image calls
  obtain ⟨chunks, hlog, hlength, hdata, -⟩ := hreceived mount Prod.snd
    (Update.bind mount e).registry ({}, []) moves (Mount.logged_journal _ _) rfl rfl
    (fun v => by cases v <;> rfl)
    (fun k hk => by
      rw [hempty k hk]
      exact ⟨fun _ _ => ⟨⟨_, rfl⟩, rfl⟩, fun _ _ => ⟨⟨_, rfl⟩, rfl⟩⟩)
    (by decide +kernel) (by decide +kernel) (by decide +kernel) (by decide +kernel)
  obtain ⟨chunk, rfl⟩ := List.length_eq_one_iff.1 (hlength.trans (by decide))
  exact ⟨by decide +kernel, chunk, hlog, (List.append_nil _).symm.trans hdata⟩

end Campaign

end ServoLink
