import ServoLink.Proofs.Receive.Waiting

/-!
# Polling comes to an end

A poll goes round and round: each round looks at what is waited for, and either answers or leaves
something else to wait for, for which it takes no byte. It does so only on the way from a sync byte
to a header and on to a frame, so that a poll has answered after three rounds at the latest
(`Synchronizer.within_three`). Every answer that is a report takes bytes from the buffer. So polling
to the end makes no more reports than there are bytes (`Synchronizer.length_pollAll`), and there
it stays: another poll reports nothing and changes nothing (`Synchronizer.poll_pollAll`).
-/

namespace ServoLink

namespace Synchronizer

variable {s s' : Synchronizer}

/-! ## Rounds -/

/-- **One round of a poll**: an answer, or what the next round begins with. -/
def round (s : Synchronizer) : Synchronizer ⊕ (Option SyncEvent × Synchronizer) :=
  let dropped (count : Nat) (reason : DiscardReason) (next : SyncState) :=
    (some (s.discard count reason next).1, (s.discard count reason next).2)
  match s.state with
  | .seekSync =>
    if s.buffer.isEmpty then .inr (none, s)
    else match s.buffer.findIdx? (· == syncByte) with
      | some 0 => .inl { s with state := .awaitHeader }
      | some (offset + 1) => .inr (dropped (offset + 1) .noise .awaitHeader)
      | none => .inr (dropped s.buffer.length .noise .seekSync)
  | .awaitHeader =>
    match Header.parse s.buffer with
    | .ok none => .inr (none, s)
    | .ok (some h) =>
      if h.payloadLength > s.config.payloadLimit then .inr (dropped 1 .oversized .seekSync)
      else .inl { s with state := .awaitPayload h.frameLength }
    | .error _ => .inr (dropped 1 .noise .seekSync)
  | .awaitPayload n =>
    if s.buffer.length < n then .inr (none, s)
    else match Frame.decode (s.buffer.take n) s.config with
      | .ok (some (f, m)) =>
        .inr (some (.frame f),
          { s with buffer := s.buffer.drop m, state := .seekSync, inGarbage := false })
      | .ok none => .inr (none, { s with state := .seekSync })
      | .error _ => .inr (dropped 1 .checksum .seekSync)

/-- The answer of a poll, if it comes within so many rounds. -/
def within : Nat → Synchronizer → Option (Option SyncEvent × Synchronizer)
  | 0, _ => none
  | rounds + 1, s =>
    match s.round with
    | .inl next => within rounds next
    | .inr answer => some answer

/-- Where a frame is waited for, a round answers. -/
theorem round_awaitPayload {n : Nat} (hs : s.state = .awaitPayload n) :
    s.round = .inr (s.pollPayload n) := by
  obtain ⟨config, capacity, buffer, state, inGarbage⟩ := s
  obtain rfl : state = .awaitPayload n := hs
  unfold round pollPayload
  dsimp only
  by_cases hshort : buffer.length < n
  · rw [if_pos hshort, if_pos hshort]
  · rw [if_neg hshort, if_neg hshort]
    rcases Frame.decode (buffer.take n) config with e | _ | ⟨f, m⟩ <;> rfl

/-- Where a header is waited for, it answers or goes on to the frame. -/
theorem round_awaitHeader (hs : s.state = .awaitHeader) :
    s.round = .inr s.pollHeader ∨
      ∃ n, s.round = .inl { s with state := .awaitPayload n } ∧
        s.pollHeader = pollPayload { s with state := .awaitPayload n } n := by
  obtain ⟨config, capacity, buffer, state, inGarbage⟩ := s
  obtain rfl : state = .awaitHeader := hs
  unfold round pollHeader
  dsimp only
  rcases Header.parse buffer with e | _ | h
  · exact .inl rfl
  · exact .inl rfl
  · dsimp only
    by_cases hbig : h.payloadLength > config.payloadLimit
    · rw [if_pos hbig, if_pos hbig]
      exact .inl rfl
    · rw [if_neg hbig, if_neg hbig]
      exact .inr ⟨h.frameLength, rfl, rfl⟩

/-- Where a sync byte is waited for, it answers or goes on to the header. -/
theorem round_seekSync (hs : s.state = .seekSync) :
    s.round = .inr s.pollSync ∨
      s.round = .inl { s with state := .awaitHeader } ∧
        s.pollSync = pollHeader { s with state := .awaitHeader } := by
  unfold round pollSync
  rw [hs]
  dsimp only
  by_cases hempty : s.buffer.isEmpty
  · rw [if_pos hempty, if_pos hempty]
    exact .inl rfl
  · rw [if_neg hempty, if_neg hempty]
    rcases s.buffer.findIdx? (· == syncByte) with _ | _ | offset
    · exact .inl rfl
    · exact .inr ⟨rfl, rfl⟩
    · exact .inl rfl

theorem within_of_inr {answer : Option SyncEvent × Synchronizer} (h : s.round = .inr answer)
    (more : Nat) : s.within (more + 1) = some answer := by
  rw [within, h]

theorem within_of_inl {next : Synchronizer} (h : s.round = .inl next) (more : Nat) :
    s.within (more + 1) = next.within more := by
  rw [within, h]

theorem within_awaitHeader (hs : s.state = .awaitHeader) (more : Nat) :
    s.within (more + 2) = some s.pollHeader := by
  rcases round_awaitHeader hs with h | ⟨n, h, hpoll⟩
  · exact within_of_inr h _
  · rw [within_of_inl h, within_of_inr (round_awaitPayload rfl), hpoll]

theorem within_seekSync (hs : s.state = .seekSync) (more : Nat) :
    s.within (more + 3) = some s.pollSync := by
  rcases round_seekSync hs with h | ⟨h, hpoll⟩
  · exact within_of_inr h _
  · rw [within_of_inl h, within_awaitHeader rfl, hpoll]

/-- **A poll answers within three rounds**, whatever is held. -/
theorem within_three (s : Synchronizer) : s.within 3 = some s.poll := by
  unfold poll
  split
  · rename_i hs
    exact within_seekSync hs 0
  · rename_i hs
    exact within_awaitHeader hs 1
  · rename_i n hs
    exact within_of_inr (round_awaitPayload hs) 2

/-! ## At the end -/

/-- Where bytes are missing at the front, nothing is reported. -/
theorem poll_of_decode_none (ha : s.Aligned) (hd : Frame.decode s.buffer s.config = .ok none) :
    s.poll = (none, { s with state := restState s.buffer }) := by
  rcases hp : s.poll with ⟨event, s'⟩
  have hstep := poll_step ha
  rw [hp] at hstep
  cases hstep with
  | wait state _ _ =>
    obtain ⟨hrest, -⟩ := poll_none ha hp
    rw [hrest]
  | take hframe => cases hd.symm.trans hframe
  | drop hk herrors _ =>
    obtain ⟨_, herror⟩ := herrors 0 hk
    cases hd.symm.trans herror

/-- **A poll that reports nothing has come to rest**: the next one does nothing. -/
theorem poll_of_poll_none (ha : s.Aligned) (hnone : s.poll = (none, s')) :
    s'.poll = (none, s') := by
  have haligned := (poll_step ha).aligned
  rw [hnone] at haligned
  obtain ⟨rfl, hd⟩ := poll_none ha hnone
  exact poll_of_decode_none haligned hd

/-- **There are no more reports than bytes to report of.** -/
theorem length_pollAll (ha : s.Aligned) :
    s.pollAll.1.length + s.pollAll.2.buffered ≤ s.buffered := by
  induction s using pollAll.induct with
  | case1 s s' hp =>
    obtain ⟨rfl, -⟩ := poll_none ha hp
    rw [pollAll_of_none hp, List.length_nil, Nat.zero_add]
    exact Nat.le_refl _
  | case2 s event s' hp _ _ _ ih =>
    have hstep := poll_step ha
    rw [hp] at hstep
    have hrest := ih hstep.aligned
    have hshrinks : s'.buffered < s.buffered := poll_shrinks hp
    rw [pollAll_of_some hp, List.length_cons]
    dsimp only
    omega

/-- **Polled to the end it is at rest.** -/
theorem poll_pollAll (ha : s.Aligned) : s.pollAll.2.poll = (none, s.pollAll.2) := by
  induction s using pollAll.induct with
  | case1 s s' hp =>
    rw [pollAll_of_none hp]
    exact poll_of_poll_none ha hp
  | case2 s event s' hp _ _ _ ih =>
    have hstep := poll_step ha
    rw [hp] at hstep
    rw [pollAll_of_some hp]
    exact ih hstep.aligned

end Synchronizer

end ServoLink
