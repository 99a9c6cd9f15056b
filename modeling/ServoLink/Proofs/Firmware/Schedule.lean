import Mathlib.Data.List.Basic
import ServoLink.Firmware.Image
import ServoLink.Proofs.Device.Arrival

/-!
# What an upload sends

The chunks of an image, one after the other, are the image and then zeros, as few as
make the last chunk whole (`Image.flatten_chunks`). An image that is empty has no
chunk. An upload sends the chunks in order and then the checksum of the image itself;
this is its schedule.
-/

namespace ServoLink

namespace Image

variable (image : Image) {i : Nat}

/-- The chunks hold the image, and less than a chunk besides. -/
theorem length_le_chunkCount :
    image.data.length ≤ chunkSize * image.chunkCount ∧
      chunkSize * image.chunkCount < image.data.length + chunkSize := by
  unfold chunkCount chunkSize
  omega

/-- The image, filled up with zeros to whole chunks. -/
def padded : Bytes :=
  image.data ++ List.replicate (chunkSize * image.chunkCount - image.data.length) 0

/-- **A chunk is its part of the image**, the filling included. -/
theorem data_chunk (hi : i < image.chunkCount) :
    (FirmwareChunk.ofBytes ((image.data.drop (i * chunkSize)).take chunkSize)).data.toList
      = (image.padded.drop (chunkSize * i)).take chunkSize := by
  obtain ⟨-, hlast⟩ := image.length_le_chunkCount
  have hnext : chunkSize * i + chunkSize ≤ chunkSize * image.chunkCount :=
    Nat.mul_le_mul_left chunkSize hi
  have hinside : chunkSize * i ≤ image.data.length := by omega
  have hzeros : chunkSize - ((image.data.drop (chunkSize * i)).take chunkSize).length
      = min (chunkSize - (image.data.drop (chunkSize * i)).length)
          (chunkSize * image.chunkCount - image.data.length) := by
    rw [List.length_take, List.length_drop]
    omega
  show ((image.data.drop (i * chunkSize)).take chunkSize).take chunkSize
    ++ List.replicate (chunkSize - ((image.data.drop (i * chunkSize)).take chunkSize).length) 0 = _
  rw [Nat.mul_comm i, List.take_take, Nat.min_self, hzeros]
  unfold padded
  rw [List.drop_append_of_le_length hinside, List.take_append, List.take_replicate]

/-- Every place up to their number has a chunk. -/
theorem chunks_eq_map : image.chunks = (List.range image.chunkCount).map fun i =>
    FirmwareChunk.ofBytes ((image.data.drop (i * chunkSize)).take chunkSize) := by
  unfold chunks
  rw [← List.filterMap_eq_map]
  exact List.filterMap_congr fun i hi => if_pos (List.mem_range.1 hi)

theorem length_chunks : image.chunks.length = image.chunkCount := by
  rw [chunks_eq_map, List.length_map, List.length_range]

theorem getElem?_chunks (i : Nat) : image.chunks[i]? = image.chunk? i := by
  rw [chunks_eq_map, List.getElem?_map]
  unfold chunk?
  by_cases hi : i < image.chunkCount
  · rw [List.getElem?_range hi, if_pos hi]
    rfl
  · rw [if_neg hi, List.getElem?_eq_none (by rw [List.length_range]; exact Nat.not_lt.1 hi)]
    rfl

/-- **The chunks are the image and then zeros.** -/
theorem flatten_chunks : (image.chunks.map (·.data.toList)).flatten = image.padded := by
  have hfront : ∀ k ≤ image.chunkCount,
      ((List.range k).map fun i => (FirmwareChunk.ofBytes
        ((image.data.drop (i * chunkSize)).take chunkSize)).data.toList).flatten
        = image.padded.take (chunkSize * k) := by
    intro k hk
    induction k with
    | zero => rfl
    | succ k ih =>
      rw [List.range_succ, List.map_append, List.flatten_append, ih (Nat.le_of_succ_le hk),
        List.map_singleton, List.flatten_singleton, image.data_chunk hk, Nat.mul_succ,
        List.take_add]
  have hwhole : image.padded.length ≤ chunkSize * image.chunkCount := by
    obtain ⟨hle, -⟩ := image.length_le_chunkCount
    unfold padded
    rw [List.length_append, List.length_replicate]
    omega
  rw [chunks_eq_map, List.map_map]
  exact (hfront _ (Nat.le_refl _)).trans (List.take_of_length_le hwhole)

/-- **What an upload sends**: every chunk, and the checksum. -/
def schedule : List Update.Value :=
  image.chunks.map .chunk ++ [.crc { crc16 := image.crc }]

theorem length_schedule : image.schedule.length = image.chunkCount + 1 := by
  unfold schedule
  rw [List.length_append, List.length_map, length_chunks]
  rfl

/-- No frame of an upload is longer than that of a chunk. -/
theorem length_payload_le (v : Update.Value) : v.payload.length ≤ chunkSize := by
  cases v with
  | chunk m => exact Nat.le_of_eq (Message.length_write m)
  | crc m => exact Nat.le_trans (Nat.le_of_eq (Message.length_write m)) (by decide)

/-- Chunks that arrive are counted. -/
theorem foldlM_store_chunks (m : Update) (chunks : List FirmwareChunk) :
    ∃ chunk, (chunks.map Update.Value.chunk).foldlM Update.store m
      = .ok { m with chunk, chunksReceived := m.chunksReceived + UInt64.ofNat chunks.length } := by
  induction chunks generalizing m with
  | nil =>
    have hnone : m.chunksReceived + UInt64.ofNat 0 = m.chunksReceived := UInt64.add_zero _
    refine ⟨m.chunk, ?_⟩
    rw [List.length_nil, hnone]
    rfl
  | cons c chunks ih =>
    obtain ⟨chunk, h⟩ := ih { m with chunk := c, chunksReceived := m.chunksReceived + 1 }
    refine ⟨chunk, ?_⟩
    have hcount : m.chunksReceived + 1 + UInt64.ofNat chunks.length
        = m.chunksReceived + UInt64.ofNat (chunks.length + 1) := by
      rw [UInt64.add_assoc, UInt64.ofNat_add, UInt64.add_comm 1]
      rfl
    rw [List.map_cons, List.foldlM_cons, List.length_cons, ← hcount]
    exact h

/-- **What a fresh firmware channel has stored of an upload.** -/
theorem foldlM_store_schedule :
    ∃ chunk, image.schedule.foldlM Update.store {}
      = .ok { chunk, crc := { crc16 := image.crc },
              chunksReceived := UInt64.ofNat image.chunkCount } := by
  obtain ⟨chunk, hchunks⟩ := foldlM_store_chunks {} image.chunks
  refine ⟨chunk, ?_⟩
  unfold schedule
  rw [List.foldlM_append, hchunks, image.length_chunks, UInt64.zero_add]
  rfl

end Image

end ServoLink
