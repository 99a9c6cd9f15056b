import ServoLink.Proofs.Frame.ReadBack

/-!
# Writing into a buffer and reading it empty

A buffer may already hold something when a frame is written behind it, and it
may hold more frames than one when it is read. Neither shows in a frame: what
was written is read back whatever stands before it or behind it, a row of frames
is read back frame by frame until nothing is left, and a frame that is refused
has not touched the buffer (`Frame.decode_encodeOnto`).
-/

namespace ServoLink

namespace Frame

variable {f : Frame} {c : FrameConfig}

/-- Write frames one after the other behind what a buffer holds. -/
def encodeAll (c : FrameConfig) (frames : List Frame) (buffer : Bytes) : Bytes :=
  frames.foldl (fun buffer f => (f.encodeOnto c buffer).2) buffer

/-! ## Writing -/

/-- A frame within the limit stands behind what the buffer held. -/
theorem encodeOnto_of_length_le (buffer : Bytes) (h : f.payload.length ≤ c.payloadLimit) :
    f.encodeOnto c buffer = (.ok (), buffer ++ f.wire c) := by
  unfold encodeOnto
  rw [encode_of_length_le h]

/-- A frame over the limit is refused, and the buffer stays as it was. -/
theorem encodeOnto_of_lt (buffer : Bytes) (h : c.payloadLimit < f.payload.length) :
    f.encodeOnto c buffer
      = (.error (.payloadTooLarge f.payload.length c.payloadLimit), buffer) := by
  have hencode : f.encode c = .error (.payloadTooLarge f.payload.length c.payloadLimit) :=
    if_pos h
  unfold encodeOnto
  rw [hencode]

/-- Frames within the limit stand in a row behind what the buffer held. -/
theorem encodeAll_of_length_le {frames : List Frame} (buffer : Bytes)
    (h : ∀ f ∈ frames, f.payload.length ≤ c.payloadLimit) :
    encodeAll c frames buffer = buffer ++ wires c frames := by
  induction frames generalizing buffer with
  | nil => exact (List.append_nil buffer).symm
  | cons f frames ih =>
    show encodeAll c frames (f.encodeOnto c buffer).2 = buffer ++ (f.wire c ++ wires c frames)
    rw [encodeOnto_of_length_le buffer (h f (.head _)), ih _ fun g hg => h g (.tail _ hg),
      List.append_assoc]

/-! ## Reading -/

/-- Reading goes on behind a frame that was read. -/
theorem decodeAll_of_frame {window : Bytes} {n : Nat}
    (hd : decode window c = .ok (some (f, n))) :
    decodeAll c window
      = { decodeAll c (window.drop n) with
          frames := f :: (decodeAll c (window.drop n)).frames } := by
  rw [decodeAll]
  split
  · rename_i hd'
    simp [hd] at hd'
  · rename_i hd'
    simp [hd] at hd'
  · rename_i g m hd'
    obtain ⟨rfl, rfl⟩ : f = g ∧ n = m := by simpa [hd] using hd'
    rfl

/-- **A row of frames is read back frame by frame**, and then what stands behind
it. -/
theorem decodeAll_wires_append {frames : List Frame} (rest : Bytes)
    (h : ∀ f ∈ frames, f.payload.length ≤ c.payloadLimit) :
    decodeAll c (wires c frames ++ rest)
      = { decodeAll c rest with
          frames := frames.map (·.received c) ++ (decodeAll c rest).frames } := by
  induction frames with
  | nil => rfl
  | cons f frames ih =>
    have hbytes : wires c (f :: frames) ++ rest = f.wire c ++ (wires c frames ++ rest) :=
      List.append_assoc ..
    rw [hbytes, decodeAll_of_frame (f.decode_wire_append c _ (h f (.head _))),
      ← f.length_wire c, List.drop_left, ih fun g hg => h g (.tail _ hg)]
    rfl

/-- Nothing is left of a row of frames that nothing stands behind. -/
theorem decodeAll_wires {frames : List Frame}
    (h : ∀ f ∈ frames, f.payload.length ≤ c.payloadLimit) :
    decodeAll c (wires c frames)
      = { frames := frames.map (·.received c), error := none, rest := [] } := by
  have hempty : decodeAll c [] = {} := by
    rw [decodeAll]
    rfl
  have hrow := decodeAll_wires_append [] h
  rw [hempty, List.append_nil, List.append_nil] at hrow
  exact hrow

/-! ## Both -/

/-- **Reading undoes writing.** A frame within the limit is written behind
whatever the buffer holds, and is read back from its bytes whatever stands behind
them: the same number, key and payload, and of the flags those that travel. So
frames written in a row are read back in their order, and the buffer is empty
then. A frame over the limit is refused with its size, and the buffer stays as
it was. -/
theorem decode_encodeOnto (c : FrameConfig) :
    (∀ f : Frame, f.payload.length ≤ c.payloadLimit →
      ∃ bytes, (∀ buffer, f.encodeOnto c buffer = (.ok (), buffer ++ bytes)) ∧
        ∀ rest, decode (bytes ++ rest) c
          = .ok (some (f.received c, headerSize + f.payload.length))) ∧
    (∀ frames : List Frame, (∀ f ∈ frames, f.payload.length ≤ c.payloadLimit) →
      decodeAll c (encodeAll c frames [])
        = { frames := frames.map (·.received c), error := none, rest := [] }) ∧
    ∀ (f : Frame) (buffer : Bytes), c.payloadLimit < f.payload.length →
      f.encodeOnto c buffer
        = (.error (.payloadTooLarge f.payload.length c.payloadLimit), buffer) := by
  refine ⟨fun f hfit => ?_, fun frames hfits => ?_, fun f buffer hbig => ?_⟩
  · exact ⟨f.wire c, fun buffer => encodeOnto_of_length_le buffer hfit,
      fun rest => f.decode_wire_append c rest hfit⟩
  · have hempty : decodeAll c [] = {} := by
      rw [decodeAll]
      rfl
    have hrow := decodeAll_wires_append [] hfits
    rw [hempty, List.append_nil, List.append_nil] at hrow
    rw [encodeAll_of_length_le [] hfits, List.nil_append]
    exact hrow
  · exact encodeOnto_of_lt buffer hbig

/-- A payload with a sync byte in it travels like any other, and of eight flags
the low three arrive; one byte more than the limit is refused. -/
theorem decode_encodeOnto_flags :
    let c : FrameConfig := { maxPayload := 3 }
    let f : Frame :=
      { seq := 255, component := 1, data := 2, flags := 0x8D, payload := [0xA0, 0, 4] }
    let g : Frame := { component := 3, data := 4, payload := [1, 2, 3, 4] }
    (∃ bytes, (∀ buffer, f.encodeOnto c buffer = (.ok (), buffer ++ bytes)) ∧
      decode (bytes ++ [0xA0, 1]) c = .ok (some ({ f with flags := 5 }, 11))) ∧
    decodeAll c (encodeAll c [f, f] [])
      = { frames := [{ f with flags := 5 }, { f with flags := 5 }] } ∧
    g.encodeOnto c [0xA0, 7] = (.error (.payloadTooLarge 4 3), [0xA0, 7]) := by
  intro c f g
  have hreceived : f.received c = { f with flags := 5 } := by decide
  obtain ⟨hone, hrow, hbig⟩ := decode_encodeOnto c
  refine ⟨?_, ?_, hbig g [0xA0, 7] (by decide)⟩
  · obtain ⟨bytes, hwrite, hread⟩ := hone f (by decide)
    refine ⟨bytes, hwrite, ?_⟩
    rw [← hreceived]
    exact hread [0xA0, 1]
  · have hread := hrow [f, f] (by decide)
    rw [List.map_cons, List.map_cons, hreceived] at hread
    exact hread

end Frame

end ServoLink
