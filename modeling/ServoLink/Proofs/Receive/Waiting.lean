import ServoLink.Proofs.Receive.Chunking

/-!
# What a synchronizer waits for

A synchronizer is never at a loss. What it remembers of its buffer stays true
(`Synchronizer.Sound`), so where it reads a header there is a sync byte, and where
it reads a frame the frame is there: two answers that its code provides for never
come (`Synchronizer.pollOr_eq`). And where a poll reports nothing, what is waited
for can be read off the buffer alone (`Synchronizer.AtRest`): a sync byte if it is
empty, a header if it is shorter than one, else the rest of the frame that the
header announces. Since the buffer has room for the longest frame there can be,
there is room for the bytes that are missing, and at least one is
(`Synchronizer.Session.never_stuck`).
-/

namespace ServoLink

namespace Synchronizer

variable {s s' : Synchronizer} {c : FrameConfig} {bound : Nat}

/-! ## The invariant -/

/-- **A sound state**: no more is held than is allowed, and what is remembered is
true of it. -/
structure Sound (c : FrameConfig) (bound : Nat) (s : Synchronizer) : Prop where
  config : s.config = c
  capacity : s.capacity = bound
  buffered_le : s.buffered ≤ bound
  aligned : s.Aligned

/-- A fresh synchronizer is sound. -/
theorem sound_new (c : FrameConfig) (maxBuffered : Nat) :
    Sound c (max maxBuffered c.maxFrameLength) (new c maxBuffered) :=
  ⟨rfl, rfl, Nat.zero_le _, trivial⟩

/-- No step takes in bytes. -/
theorem Step.buffered_le {e : Option SyncEvent} (h : Step s e s') :
    s'.capacity = s.capacity ∧ s'.buffered ≤ s.buffered := by
  cases h with
  | wait state hd ha => exact ⟨rfl, Nat.le_refl _⟩
  | take hd => exact ⟨rfl, (List.drop_sublist _ _).length_le⟩
  | drop hk hd ha => exact ⟨rfl, (List.drop_sublist _ _).length_le⟩

/-- **A poll keeps a state sound.** -/
theorem Sound.poll (h : s.Sound c bound) : s.poll.2.Sound c bound := by
  have hstep := poll_step h.aligned
  obtain ⟨hcapacity, hle⟩ := hstep.buffered_le
  exact ⟨hstep.config.trans h.config, hcapacity.trans h.capacity, Nat.le_trans hle h.buffered_le,
    hstep.aligned⟩

/-- **A push keeps a state sound**, in whatever state it lands. -/
theorem Sound.push (h : s.Sound c bound) (data : Bytes) : (s.push data).2.Sound c bound := by
  unfold Synchronizer.push
  split
  · exact h
  · rename_i hfit
    refine ⟨h.config, h.capacity, ?_, h.aligned.append data⟩
    have hroom : data.length ≤ bound - s.buffered := by
      rw [← h.capacity]
      exact Nat.not_lt.1 hfit
    have hle := h.buffered_le
    show (s.buffer ++ data).length ≤ bound
    rw [List.length_append]
    unfold buffered at hroom hle
    omega

/-- One move keeps a state sound. -/
theorem Session.sound_step {t : Session} (h : t.sync.Sound c bound) (move : Move) :
    (t.step move).sync.Sound c bound := by
  cases move with
  | poll => exact h.poll
  | push data =>
    have hpush := h.push data
    unfold step
    dsimp only
    split
    · rename_i hp
      rw [hp] at hpush
      exact hpush
    · exact h

/-- **Every state that pushes and polls lead to is sound.** -/
theorem Session.sound_foldl {t : Session} (h : t.sync.Sound c bound) (moves : List Move) :
    (moves.foldl step t).sync.Sound c bound := by
  induction moves generalizing t with
  | nil => exact h
  | cons move moves ih => exact ih (sound_step h move)

/-! ## Answers that never come -/

/-- `pollPayload` with something else done where a whole frame is found to be
incomplete. -/
def pollPayloadOr (incomplete : Synchronizer → Option SyncEvent × Synchronizer)
    (s : Synchronizer) (frameLength : Nat) : Option SyncEvent × Synchronizer :=
  if s.buffer.length < frameLength then (none, { s with state := .awaitPayload frameLength })
  else match Frame.decode (s.buffer.take frameLength) s.config with
    | .ok (some (f, n)) =>
      (some (.frame f),
        { s with buffer := s.buffer.drop n, state := .seekSync, inGarbage := false })
    | .ok none => incomplete s
    | .error _ =>
      let (event, s) := s.discard 1 .checksum .seekSync
      (some event, s)

/-- `pollHeader` with something else done where a header is refused. -/
def pollHeaderOr (refused incomplete : Synchronizer → Option SyncEvent × Synchronizer)
    (s : Synchronizer) : Option SyncEvent × Synchronizer :=
  match Header.parse s.buffer with
  | .ok none => (none, { s with state := .awaitHeader })
  | .ok (some h) =>
    if h.payloadLength > s.config.payloadLimit then
      let (event, s) := s.discard 1 .oversized .seekSync
      (some event, s)
    else s.pollPayloadOr incomplete h.frameLength
  | .error _ => refused s

/-- `pollSync` with something else done in these two cases. -/
def pollSyncOr (refused incomplete : Synchronizer → Option SyncEvent × Synchronizer)
    (s : Synchronizer) : Option SyncEvent × Synchronizer :=
  if s.buffer.isEmpty then (none, s)
  else match s.buffer.findIdx? (· == syncByte) with
    | some 0 => s.pollHeaderOr refused incomplete
    | some (offset + 1) =>
      let (event, s) := s.discard (offset + 1) .noise .awaitHeader
      (some event, s)
    | none =>
      let (event, s) := s.discard s.buffer.length .noise .seekSync
      (some event, s)

/-- **A poll with something else done** where it reads a header that does not
start with a sync byte, and where it reads a whole frame and finds it
incomplete. -/
def pollOr (refused incomplete : Synchronizer → Option SyncEvent × Synchronizer)
    (s : Synchronizer) : Option SyncEvent × Synchronizer :=
  match s.state with
  | .seekSync => s.pollSyncOr refused incomplete
  | .awaitHeader => s.pollHeaderOr refused incomplete
  | .awaitPayload frameLength => s.pollPayloadOr incomplete frameLength

/-- With the same done as in a poll it is a poll. -/
theorem pollOr_own (s : Synchronizer) :
    s.pollOr (fun s => (some (s.discard 1 .noise .seekSync).1, (s.discard 1 .noise .seekSync).2))
      (fun s => (none, { s with state := .seekSync })) = s.poll :=
  rfl

section

variable (refused incomplete : Synchronizer → Option SyncEvent × Synchronizer)

/-- A whole frame is not found incomplete. -/
theorem pollPayloadOr_eq {h : Header} (hp : Header.parse s.buffer = .ok (some h)) :
    s.pollPayloadOr incomplete h.frameLength = s.pollPayload h.frameLength := by
  unfold pollPayloadOr pollPayload
  by_cases hshort : s.buffer.length < h.frameLength
  · rw [if_pos hshort, if_pos hshort]
  · have hdecided := Frame.decode_ne_none (c := s.config) hp (Nat.not_lt.1 hshort)
    rw [if_neg hshort, if_neg hshort, Frame.decode_take hp (Nat.not_lt.1 hshort)]
    rcases hd : Frame.decode s.buffer s.config with e | _ | ⟨f, n⟩
    · rfl
    · exact absurd hd hdecided
    · rfl

/-- A header with a sync byte at the front is not refused. -/
theorem pollHeaderOr_eq (hsync : s.buffer.head? = some syncByte) :
    s.pollHeaderOr refused incomplete = s.pollHeader := by
  unfold pollHeaderOr pollHeader
  rcases hp : Header.parse s.buffer with e | _ | h
  · exact absurd hp (Header.parse_ne_error hsync)
  · rfl
  · dsimp only
    rw [pollPayloadOr_eq incomplete hp]

/-- A sync byte that is found at once stands at the front. -/
theorem head?_of_findIdx?_zero {buffer : Bytes}
    (hfind : buffer.findIdx? (· == syncByte) = some 0) : buffer.head? = some syncByte := by
  obtain ⟨hlt, hsync, -⟩ := List.findIdx?_eq_some_iff_getElem.1 hfind
  rw [List.head?_eq_getElem?, List.getElem?_eq_getElem hlt, eq_of_beq hsync]

/-- **Two answers never come**: whatever is done where they do, a poll of an
aligned state does the same. -/
theorem pollOr_eq (ha : s.Aligned) : s.pollOr refused incomplete = s.poll := by
  unfold Aligned at ha
  unfold pollOr poll
  cases hs : s.state with
  | seekSync =>
    unfold pollSyncOr pollSync
    rcases hfind : s.buffer.findIdx? (· == syncByte) with _ | _ | offset
    · rfl
    · dsimp only
      rw [pollHeaderOr_eq refused incomplete (head?_of_findIdx?_zero hfind)]
    · rfl
  | awaitHeader =>
    rw [hs] at ha
    exact pollHeaderOr_eq refused incomplete ha
  | awaitPayload n =>
    rw [hs] at ha
    obtain ⟨h, hp, -, rfl⟩ := ha
    exact pollPayloadOr_eq incomplete hp

end

/-! ## At rest -/

/-- What is waited for, as the buffer tells it. -/
def restState (buffer : Bytes) : SyncState :=
  if buffer.isEmpty then .seekSync
  else match Header.parse buffer with
    | .ok (some h) => .awaitPayload h.frameLength
    | _ => .awaitHeader

/-- The number of bytes missing for the header or the frame that is waited
for. -/
def missing (s : Synchronizer) : Nat :=
  match s.state with
  | .awaitPayload n => n - s.buffered
  | .seekSync | .awaitHeader => headerSize - s.buffered

theorem restState_of_parse {buffer : Bytes} {h : Header}
    (hp : Header.parse buffer = .ok (some h)) : restState buffer = .awaitPayload h.frameLength := by
  have hne : buffer.isEmpty = false := by
    cases buffer with
    | nil => cases hp
    | cons first rest => rfl
  unfold restState
  rw [hne, hp]
  rfl

theorem restState_of_parse_none {buffer : Bytes} (hne : buffer ≠ [])
    (hp : Header.parse buffer = .ok none) : restState buffer = .awaitHeader := by
  unfold restState
  rw [List.isEmpty_eq_false_iff.2 hne, hp]
  rfl

/-- Where a frame is announced, nothing is reported only while it is not
whole. -/
theorem state_of_pollPayload_none {h : Header} (hp : Header.parse s.buffer = .ok (some h))
    (hnone : s.pollPayload h.frameLength = (none, s')) :
    s'.state = .awaitPayload h.frameLength := by
  rw [← pollPayloadOr_eq (fun s => (none, { s with state := .awaitPayload h.frameLength })) hp]
    at hnone
  unfold pollPayloadOr at hnone
  split at hnone
  · obtain rfl := (Prod.mk.inj hnone).2
    rfl
  · split at hnone
    · simp at hnone
    · obtain rfl := (Prod.mk.inj hnone).2
      rfl
    · simp at hnone

theorem state_of_pollHeader_none (hsync : s.buffer.head? = some syncByte)
    (hnone : s.pollHeader = (none, s')) : s'.state = restState s.buffer := by
  have hne : s.buffer ≠ [] := by
    rintro hnil
    rw [hnil] at hsync
    cases hsync
  unfold pollHeader at hnone
  rcases hp : Header.parse s.buffer with e | _ | h
  · exact absurd hp (Header.parse_ne_error hsync)
  · rw [hp] at hnone
    obtain rfl := (Prod.mk.inj hnone).2
    exact (restState_of_parse_none hne hp).symm
  · rw [hp] at hnone
    dsimp only at hnone
    split at hnone
    · simp at hnone
    · rw [restState_of_parse hp]
      exact state_of_pollPayload_none hp hnone

/-- **Where nothing is reported the buffer tells what is waited for.** -/
theorem state_of_poll_none (ha : s.Aligned) (hnone : s.poll = (none, s')) :
    s'.state = restState s.buffer := by
  unfold Aligned at ha
  unfold poll at hnone
  cases hs : s.state with
  | seekSync =>
    rw [hs] at hnone
    dsimp only at hnone
    unfold pollSync at hnone
    split at hnone
    · rename_i hempty
      obtain rfl := (Prod.mk.inj hnone).2
      rw [hs, restState, if_pos hempty]
    · split at hnone
      · rename_i hfind
        exact state_of_pollHeader_none (head?_of_findIdx?_zero hfind) hnone
      · simp at hnone
      · simp at hnone
  | awaitHeader =>
    rw [hs] at ha hnone
    exact state_of_pollHeader_none ha hnone
  | awaitPayload n =>
    rw [hs] at ha hnone
    obtain ⟨h, hp, -, rfl⟩ := ha
    rw [restState_of_parse hp]
    exact state_of_pollPayload_none hp hnone

/-- A poll that reports nothing changes what is waited for, and leaves bytes that
are no frame yet. -/
theorem poll_none (ha : s.Aligned) (hnone : s.poll = (none, s')) :
    s' = { s with state := restState s.buffer } ∧ Frame.decode s.buffer s.config = .ok none := by
  have hstate := state_of_poll_none ha hnone
  have hstep := poll_step ha
  rw [hnone] at hstep
  generalize he : (none : Option SyncEvent) = e at hstep
  cases hstep with
  | wait state hd _ =>
    obtain rfl : state = restState s.buffer := hstate
    exact ⟨rfl, hd⟩
  | take hd => cases he
  | drop hk hd ha => cases he

/-- **What may be waited for**: a sync byte, a header begun, or a frame whose
header is there. -/
theorem restState_cases {buffer : Bytes} (hd : Frame.decode buffer c = .ok none) :
    buffer = [] ∧ restState buffer = .seekSync ∨
      0 < buffer.length ∧ buffer.length < headerSize ∧ Header.parse buffer = .ok none ∧
        restState buffer = .awaitHeader ∨
      ∃ h, Header.parse buffer = .ok (some h) ∧ h.payloadLength ≤ c.payloadLimit ∧
        headerSize ≤ buffer.length ∧ buffer.length < h.frameLength ∧
        restState buffer = .awaitPayload h.frameLength := by
  rcases Frame.cases_of_decode_none hd with ⟨hp, hshort⟩ | ⟨h, hp, hlimit, hshort⟩
  · by_cases hnil : buffer = []
    · exact .inl ⟨hnil, by rw [hnil]; rfl⟩
    · exact .inr (.inl ⟨List.length_pos_iff.2 hnil, hshort, hp, restState_of_parse_none hnil hp⟩)
  · exact .inr (.inr ⟨h, hp, hlimit, Header.length_of_parse hp, hshort, restState_of_parse hp⟩)

/-- **A synchronizer at rest**: what it waits for can be read off its buffer, and
there is room for it. -/
structure AtRest (s : Synchronizer) : Prop where
  /-- The buffer tells what is waited for. -/
  state_eq : s.state = restState s.buffer
  seekSync_iff : s.state = .seekSync ↔ s.buffer = []
  awaitHeader_iff : s.state = .awaitHeader ↔ 0 < s.buffered ∧ s.buffered < headerSize
  awaitPayload_iff : ∀ n, s.state = .awaitPayload n ↔ headerSize ≤ s.buffered ∧ s.buffered < n ∧
    ∃ h, Header.parse s.buffer = .ok (some h) ∧ h.frameLength = n
  /-- Less is held than the longest frame has. -/
  buffered_lt : s.buffered < s.config.maxFrameLength
  missing_pos : 0 < s.missing
  missing_le_room : s.missing ≤ s.room
  /-- The bytes that are missing can be pushed. -/
  admits : ∀ data : Bytes, data.length ≤ s.missing →
    s.push data = (.ok (), { s with buffer := s.buffer ++ data })
  /-- A frame with no bytes missing is decided. -/
  completes : ∀ n, s.state = .awaitPayload n → ∀ data : Bytes, data.length = s.missing →
    (s.push data).2.poll.1.isSome

/-- What is missing is no longer than the rest of a frame. -/
theorem missing_bounds (hstate : s.state = restState s.buffer)
    (hd : Frame.decode s.buffer s.config = .ok none) :
    0 < s.missing ∧ s.buffered + s.missing ≤ s.config.maxFrameLength := by
  unfold missing buffered FrameConfig.maxFrameLength
  rw [hstate]
  rcases restState_cases hd with ⟨hnil, hr⟩ | ⟨hpos, hshort, hp, hr⟩ |
    ⟨h, hp, hlimit, hlong, hshort, hr⟩
  · rw [hr, hnil]
    exact ⟨by decide, Nat.le_add_right _ _⟩
  · rw [hr]
    dsimp only
    omega
  · rw [hr]
    unfold Header.frameLength at hshort ⊢
    dsimp only
    omega

/-- Bytes that fit are taken. -/
theorem push_of_le_room {data : Bytes} (hfit : data.length ≤ s.room) :
    s.push data = (.ok (), { s with buffer := s.buffer ++ data }) :=
  if_neg (Nat.not_lt.2 hfit)

/-- **A frame with no bytes missing is decided**: it is taken or dropped. -/
theorem poll_isSome_of_whole {h : Header} (hstate : s.state = .awaitPayload h.frameLength)
    (hp : Header.parse s.buffer = .ok (some h)) (hwhole : h.frameLength ≤ s.buffer.length) :
    s.poll.1.isSome := by
  have hdecided := Frame.decode_ne_none (c := s.config) hp hwhole
  unfold poll
  rw [hstate]
  dsimp only
  unfold pollPayload
  rw [if_neg (Nat.not_lt.2 hwhole), Frame.decode_take hp hwhole]
  rcases hd : Frame.decode s.buffer s.config with e | _ | ⟨f, n⟩
  · rfl
  · exact absurd hd hdecided
  · rfl

/-- **Where bytes are missing there is room for them.** -/
theorem AtRest.of_decode_none (hstate : s.state = restState s.buffer)
    (hd : Frame.decode s.buffer s.config = .ok none)
    (hcapacity : s.config.maxFrameLength ≤ s.capacity) : s.AtRest := by
  obtain ⟨hpos, hbound⟩ := missing_bounds hstate hd
  have hroom : s.missing ≤ s.room := by
    unfold buffered at hbound
    unfold room
    omega
  have hcases := restState_cases hd
  rw [← hstate] at hcases
  refine ⟨hstate, ?seekSync, ?awaitHeader, fun n => ?awaitPayload, by omega, hpos, hroom,
    fun data hfit => push_of_le_room (Nat.le_trans hfit hroom), fun n hs data hdata => ?completes⟩
  case seekSync =>
    rcases hcases with ⟨hnil, hs⟩ | ⟨hlen, -, -, hs⟩ | ⟨h, -, -, hlong, -, hs⟩
    · simp [hs, hnil]
    · simp [hs, List.length_pos_iff.1 hlen]
    · have hne := List.length_pos_iff.1 (Nat.lt_of_lt_of_le (by decide) hlong)
      simp [hs, hne]
  case awaitHeader =>
    unfold buffered
    rcases hcases with ⟨hnil, hs⟩ | ⟨hlen, hshort, -, hs⟩ | ⟨h, -, -, hlong, -, hs⟩
    · simp [hs, hnil]
    · simp [hs, hlen, hshort]
    · simp [hs, Nat.not_lt.2 hlong]
  case awaitPayload =>
    unfold buffered
    rcases hcases with ⟨hnil, hs⟩ | ⟨-, -, hp, hs⟩ | ⟨h, hp, -, hlong, hshort, hs⟩
    · simp [hs, hnil, headerSize]
    · simp [hs, hp]
    · simp only [hs, hp, SyncState.awaitPayload.injEq, Except.ok.injEq, Option.some.injEq]
      constructor
      · rintro rfl
        exact ⟨hlong, hshort, h, rfl, rfl⟩
      · rintro ⟨-, -, h', rfl, hn⟩
        exact hn
  case completes =>
    rw [push_of_le_room (Nat.le_trans (Nat.le_of_eq hdata) hroom)]
    rcases hcases with ⟨-, hs'⟩ | ⟨-, -, -, hs'⟩ | ⟨h, hp, -, -, hshort, hs'⟩
    · rw [hs'] at hs
      cases hs
    · rw [hs'] at hs
      cases hs
    · refine poll_isSome_of_whole (h := h) hs' ?_ ?_
      · rw [Header.parse_append data (by simp [hp])]
        exact hp
      · show h.frameLength ≤ (s.buffer ++ data).length
        have hmissing : s.missing = h.frameLength - s.buffered := by
          unfold missing
          rw [hs']
        unfold buffered at hmissing
        rw [List.length_append]
        omega

/-- **A synchronizer is never stuck.** In every state that pushes and polls lead
to, no more is held than is allowed, and a header that is waited for has its sync
byte at the front, a frame its header. So two answers that a poll provides for
never come. Where a poll reports nothing, the synchronizer is at rest: its buffer
tells what is waited for, and has room for the bytes that are missing. -/
theorem Session.never_stuck (c : FrameConfig) (maxBuffered : Nat) (moves : List Move) :
    let s := (run c maxBuffered moves).sync
    s.config = c ∧ s.capacity = max maxBuffered c.maxFrameLength ∧ s.buffered ≤ s.capacity ∧
      (s.state = .awaitHeader → s.buffer.head? = some syncByte) ∧
      (∀ n, s.state = .awaitPayload n → n ≤ c.maxFrameLength ∧
        ∃ h, Header.parse s.buffer = .ok (some h) ∧ h.frameLength = n) ∧
      (∀ refused incomplete, s.pollOr refused incomplete = s.poll) ∧
      ∀ s', s.poll = (none, s') → s'.config = c ∧ s'.AtRest := by
  intro s
  have hsound : s.Sound c (max maxBuffered c.maxFrameLength) :=
    sound_foldl (sound_new c maxBuffered) moves
  have ha := hsound.aligned
  refine ⟨hsound.config, hsound.capacity, ?_, fun hs => ?_, fun n hs => ?_,
    fun refused incomplete => pollOr_eq refused incomplete ha, fun s' hnone => ?_⟩
  · rw [hsound.capacity]
    exact hsound.buffered_le
  · unfold Aligned at ha
    rw [hs] at ha
    exact ha
  · unfold Aligned at ha
    rw [hs, hsound.config] at ha
    obtain ⟨h, hp, hlimit, rfl⟩ := ha
    exact ⟨Nat.add_le_add_left hlimit _, h, hp, rfl⟩
  · obtain ⟨rfl, hd⟩ := poll_none ha hnone
    refine ⟨hsound.config, .of_decode_none rfl hd ?_⟩
    show s.config.maxFrameLength ≤ s.capacity
    rw [hsound.config, hsound.capacity]
    exact Nat.le_max_right _ _

end Synchronizer

end ServoLink
