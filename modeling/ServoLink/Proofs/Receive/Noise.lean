import ServoLink.Proofs.Frame.ReadBack
import ServoLink.Proofs.Receive.Scan

/-!
# Frames among noise

A stream of frames may have other bytes in front of the first frame and behind
each. If no frame starts in those bytes, whatever is looked at there, they are
all dropped and every frame is found (`Noisy.run_bytes`). The condition speaks
of the whole rest of the stream and not of the noise alone: a sync byte in the
noise makes a header out of the bytes behind it, and those may reach into the
frames that follow. Noise without a sync byte always meets it
(`Noisy.inert_of_sync_free`).
-/

namespace ServoLink

/-- A scan takes a frame that was written. -/
theorem Scan.run_wire_append {c : FrameConfig} (f : Frame) (rest : Bytes)
    (h : f.payload.length ≤ c.payloadLimit) :
    run c (f.wire c ++ rest) = (run c rest).precededBy [.frame (f.received c)] := by
  rw [run_of_frame (f.decode_wire_append c rest h), ← f.length_wire c, List.drop_left]

namespace Noisy

/-- The bytes of a stream that starts with some noise and goes on with frames,
each with the noise behind it. -/
def bytes (c : FrameConfig) : (lead : Bytes) → (tail : List (Frame × Bytes)) → Bytes
  | lead, [] => lead
  | lead, (f, gap) :: tail => lead ++ (f.wire c ++ bytes c gap tail)

/-- The stretches of noise of a stream. -/
def gaps (lead : Bytes) (tail : List (Frame × Bytes)) : List Bytes :=
  lead :: tail.map (·.2)

/-- No frame starts at the first `n` offsets of a stream, and none may still
start there. -/
def Refused (c : FrameConfig) (n : Nat) (stream : Bytes) : Prop :=
  ∀ i < n, ∃ e, Frame.decode (stream.drop i) c = .error e

/-- **Noise that is nothing but noise**: no frame starts at any of its offsets,
with the rest of the stream behind it. -/
def Inert (c : FrameConfig) : (lead : Bytes) → (tail : List (Frame × Bytes)) → Prop
  | lead, [] => Refused c lead.length (bytes c lead [])
  | lead, (f, gap) :: tail =>
    Refused c lead.length (bytes c lead ((f, gap) :: tail)) ∧ Inert c gap tail

instance (c : FrameConfig) (n : Nat) (stream : Bytes) : Decidable (Refused c n stream) :=
  decidable_of_iff (∀ i < n, (Frame.decode (stream.drop i) c).toOption = none) <| by
    refine forall₂_congr fun i _ => ?_
    cases Frame.decode (stream.drop i) c <;> simp [Except.toOption]

instance decidableInert (c : FrameConfig) : (lead : Bytes) → (tail : List (Frame × Bytes)) →
    Decidable (Inert c lead tail)
  | lead, [] => inferInstanceAs (Decidable (Refused c lead.length (bytes c lead [])))
  | lead, (f, gap) :: tail =>
    have := decidableInert c gap tail
    inferInstanceAs (Decidable (Refused c lead.length (bytes c lead ((f, gap) :: tail)) ∧ _))

/-- What a scan should find: every byte of noise dropped, every frame taken. -/
def items (c : FrameConfig) : (lead : Bytes) → (tail : List (Frame × Bytes)) → List ScanItem
  | lead, [] => List.replicate lead.length .dropped
  | lead, (f, gap) :: tail =>
    List.replicate lead.length .dropped ++ .frame (f.received c) :: items c gap tail

variable {c : FrameConfig} {lead : Bytes} {tail : List (Frame × Bytes)}

/-- Where there is no sync byte no frame starts. -/
theorem refused_of_sync_free (rest : Bytes) (h : syncByte ∉ lead) :
    Refused c lead.length (lead ++ rest) := by
  intro i hi
  have hlt : i < (lead ++ rest).length := by
    rw [List.length_append]
    omega
  refine Frame.decode_drop_of_ne hlt fun heq => h ?_
  rw [List.getElem_append_left hi] at heq
  rw [← heq]
  exact List.getElem_mem hi

/-- **Noise without a sync byte is inert**, whatever the frames around it. -/
theorem inert_of_sync_free (h : ∀ gap ∈ gaps lead tail, syncByte ∉ gap) :
    Inert c lead tail := by
  induction tail generalizing lead with
  | nil =>
    have hlead := refused_of_sync_free (c := c) [] (h lead (.head _))
    rwa [List.append_nil] at hlead
  | cons p tail ih =>
    obtain ⟨f, gap⟩ := p
    refine ⟨refused_of_sync_free _ (h lead (.head _)), ih fun gap' hgap => ?_⟩
    exact h gap' (.tail _ hgap)

/-- **A scan drops the noise and takes the frames**, and nothing is left. -/
theorem run_bytes (hfits : ∀ p ∈ tail, p.1.payload.length ≤ c.payloadLimit)
    (hinert : Inert c lead tail) :
    Scan.run c (bytes c lead tail) = { items := items c lead tail, rest := [] } := by
  -- on the frames: each stretch of noise is dropped up to the frame behind it
  induction tail generalizing lead with
  | nil =>
    have hempty : Scan.run c [] = {} := Scan.run_of_none rfl
    rw [Scan.run_of_errors hinert, show bytes c lead [] = lead from rfl, List.drop_length, hempty]
    unfold Scan.precededBy
    rw [List.append_nil]
    rfl
  | cons p tail ih =>
    obtain ⟨f, gap⟩ := p
    obtain ⟨hlead, hgap⟩ := hinert
    have hbehind := ih (fun q hq => hfits q (.tail _ hq)) hgap
    rw [Scan.run_of_errors hlead,
      show bytes c lead ((f, gap) :: tail) = lead ++ (f.wire c ++ bytes c gap tail) from rfl,
      List.drop_left, Scan.run_wire_append f _ (hfits _ (.head _)), hbehind,
      Scan.precededBy_precededBy]
    unfold Scan.precededBy
    rw [List.append_assoc]
    rfl

/-! ## What the items say -/

/-- The frames found are those of the stream. -/
theorem filterMap_items (c : FrameConfig) (lead : Bytes) (tail : List (Frame × Bytes)) :
    (items c lead tail).filterMap Scan.frameOf? = tail.map (·.1.received c) := by
  induction tail generalizing lead with
  | nil => exact List.filterMap_replicate_of_none rfl
  | cons p tail ih =>
    show ((List.replicate lead.length ScanItem.dropped)
      ++ .frame (p.1.received c) :: items c p.2 tail).filterMap _ = _
    rw [List.filterMap_append, List.filterMap_replicate_of_none rfl, List.nil_append,
      List.map_cons, ← ih p.2]
    rfl

/-- A stretch of noise is one run of garbage, unless it is empty. -/
theorem countRuns_noise (lead : Bytes) :
    Scan.countRuns false (List.replicate lead.length .dropped) = if lead = [] then 0 else 1 := by
  cases lead with
  | nil => rfl
  | cons first lead => exact Scan.countRuns_replicate false (Nat.succ_pos _)

/-- **The runs of garbage are the stretches of noise** that are not empty. -/
theorem countRuns_items (c : FrameConfig) (lead : Bytes) (tail : List (Frame × Bytes)) :
    Scan.countRuns false (items c lead tail) = (gaps lead tail).countP (· ≠ []) := by
  induction tail generalizing lead with
  | nil =>
    show Scan.countRuns false (List.replicate lead.length .dropped) = [lead].countP _
    rw [countRuns_noise, List.countP_singleton]
    by_cases h : lead = [] <;> simp [h]
  | cons p tail ih =>
    have hframe : ∀ b, Scan.countRuns b (.frame (p.1.received c) :: items c p.2 tail)
        = Scan.countRuns false (items c p.2 tail) := by
      intro b
      cases b <;> rfl
    show Scan.countRuns false (List.replicate lead.length .dropped
      ++ .frame (p.1.received c) :: items c p.2 tail) = (lead :: gaps p.2 tail).countP _
    -- the frame ends whatever run was open, so the next stretch counts for itself
    rw [Scan.countRuns_append, hframe, ih, countRuns_noise, List.countP_cons, Nat.add_comm]
    by_cases h : lead = [] <;> simp [h]

end Noisy

end ServoLink
