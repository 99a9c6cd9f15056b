import ServoLink.Frame.Codec

/-!
# What the front of a byte string decides

A receiver reads frames from a buffer that is still growing. What it finds at
the front must therefore not depend on bytes that have yet to come: a header
that was read stays the header, a byte string that starts with no frame goes on
starting with none, and a frame that was read is read again
(`Frame.decode_append`). Only the answer that bytes are missing may change.

A frame lies within the length its header declares, so reading it from that
many bytes is reading it from the whole buffer (`Frame.decode_take`).
-/

namespace ServoLink

namespace Header

/-! ## Headers -/

/-- Eight bytes are enough for a header, or for the answer that there is
none. -/
theorem parse_ne_none {window : Bytes} (h : headerSize ≤ window.length) :
    parse window ≠ .ok none := by
  intro hp
  unfold parse at hp
  split at hp
  · simp [headerSize] at h
  · split at hp
    · simp at hp
    · split at hp
      · simp at hp
      · rename_i rest _ _ hshort
        -- a rest without seven bytes leaves less than a header
        rcases rest with _ | ⟨a, _ | ⟨b, _ | ⟨c, _ | ⟨d, _ | ⟨e, _ | ⟨f, _ | ⟨g, rest⟩⟩⟩⟩⟩⟩⟩
        all_goals first
          | exact hshort _ _ _ _ _ _ _ _ rfl
          | simp [headerSize] at h

/-- No header starts with anything but a sync byte. -/
theorem parse_cons_of_ne {first : UInt8} (rest : Bytes) (hne : first ≠ syncByte) :
    parse (first :: rest) = .error (.invalidSync first) := by
  simp only [parse, if_pos hne]

/-- Where a sync byte stands at the front no header is refused. -/
theorem parse_ne_error {window : Bytes} {e : FrameError}
    (hsync : window.head? = some syncByte) : parse window ≠ .error e := by
  intro hp
  unfold parse at hp
  split at hp
  · simp at hp
  · rename_i first rest
    rw [if_neg (not_not_intro (Option.some.inj hsync))] at hp
    split at hp <;> cases hp

/-- A header that was read takes eight bytes. -/
theorem length_of_parse {window : Bytes} {h : Header} (hp : parse window = .ok (some h)) :
    headerSize ≤ window.length := by
  unfold parse at hp
  split at hp
  · simp at hp
  · split at hp
    · simp at hp
    · split at hp
      · simp [headerSize]
      · simp at hp

/-- **What stands behind a header does not change it.** -/
theorem parse_append {window : Bytes} (suffix : Bytes) (h : parse window ≠ .ok none) :
    parse (window ++ suffix) = parse window := by
  cases window with
  | nil => exact absurd rfl h
  | cons first rest =>
    by_cases hsync : first ≠ syncByte
    · simp only [List.cons_append, parse]
      rw [if_pos hsync, if_pos hsync]
    · simp only [List.cons_append, parse] at h ⊢
      rw [if_neg hsync] at h
      rw [if_neg hsync, if_neg hsync]
      split at h
      · rfl
      · exact absurd rfl h

/-- No header starts with anything but a sync byte, and that is all that a header
is refused for. -/
theorem isResync_of_parse_error {window : Bytes} {e : FrameError}
    (hp : parse window = .error e) : e.isResync = true := by
  unfold parse at hp
  split at hp
  · cases hp
  · split at hp
    · obtain rfl := Except.error.inj hp
      rfl
    · split at hp <;> cases hp

end Header

/-! ## Check words -/

section CheckWord

variable {h : Header} {covered payload : Bytes}

/-- A check word that is not the checksum is refused, and both are told. -/
theorem verify_crc16_of_ne (hne : h.checkWord ≠ Crc.update (Crc.checksum covered) payload) :
    verify h covered payload .crc16
      = .error (.checksumMismatch h.checkWord (Crc.update (Crc.checksum covered) payload)) :=
  if_neg hne

/-- **A check word passes where it is the checksum**, and nowhere else. -/
theorem verify_crc16_eq_ok_iff :
    verify h covered payload .crc16 = .ok ()
      ↔ h.checkWord = Crc.update (Crc.checksum covered) payload := by
  refine ⟨fun hok => Decidable.byContradiction fun hne => ?_, fun heq => if_pos heq⟩
  rw [verify_crc16_of_ne hne] at hok
  cases hok

/-- A check word is refused for not being the one computed. -/
theorem isResync_of_verify_error {i : Integrity} {e : FrameError}
    (hv : verify h covered payload i = .error e) : e.isResync = true := by
  cases i with
  | unchecked => cases hv
  | crc16 =>
    by_cases heq : h.checkWord = Crc.update (Crc.checksum covered) payload
    · rw [verify_crc16_eq_ok_iff.2 heq] at hv
      cases hv
    · rw [verify_crc16_of_ne heq] at hv
      obtain rfl := Except.error.inj hv
      rfl

end CheckWord

namespace Frame

/-! ## Frames -/

variable {window : Bytes} {c : FrameConfig} {h : Header}

/-- What is read where a header stands: the limit is looked at first, then
whether the frame is whole, then its check word. -/
theorem decode_of_header (hp : Header.parse window = .ok (some h)) :
    decode window c
      = if h.payloadLength > c.payloadLimit then
          .error (.payloadTooLarge h.payloadLength c.payloadLimit)
        else if window.length < h.frameLength then .ok none
        else
          match verify h (window.take 6) ((window.take h.frameLength).drop headerSize)
              c.integrity with
          | .error e => .error e
          | .ok () =>
            .ok (some
              ({ seq := h.seq, component := h.component, data := h.data,
                 flags := h.flags c.integrity,
                 payload := (window.take h.frameLength).drop headerSize }, h.frameLength)) := by
  unfold decode
  generalize Header.parse window = parsed at hp ⊢
  subst hp
  rfl

/-- Where no header can stand there is no frame. -/
theorem decode_of_parse_error {e : FrameError} (hp : Header.parse window = .error e) :
    decode window c = .error e := by
  simp only [decode, hp]

/-- Where a header is incomplete the frame is. -/
theorem decode_of_parse_none (hp : Header.parse window = .ok none) :
    decode window c = .ok none := by
  simp only [decode, hp]

/-- A payload over the limit is refused as soon as its length is known. -/
theorem decode_of_oversized (hp : Header.parse window = .ok (some h))
    (hbig : c.payloadLimit < h.payloadLength) :
    decode window c = .error (.payloadTooLarge h.payloadLength c.payloadLimit) := by
  rw [decode_of_header hp, if_pos hbig]

/-- A frame within the limit is waited for while bytes are missing. -/
theorem decode_of_short (hp : Header.parse window = .ok (some h))
    (hlimit : h.payloadLength ≤ c.payloadLimit) (hshort : window.length < h.frameLength) :
    decode window c = .ok none := by
  rw [decode_of_header hp, if_neg (Nat.not_lt.2 hlimit), if_pos hshort]

/-- A whole frame within the limit is refused where its check word is. -/
theorem decode_of_verify_error {e : FrameError} (hp : Header.parse window = .ok (some h))
    (hlimit : h.payloadLength ≤ c.payloadLimit) (hwhole : h.frameLength ≤ window.length)
    (hverify : verify h (window.take 6) ((window.take h.frameLength).drop headerSize)
      c.integrity = .error e) : decode window c = .error e := by
  rw [decode_of_header hp, if_neg (Nat.not_lt.2 hlimit), if_neg (Nat.not_lt.2 hwhole), hverify]

/-- A whole frame is decided, one way or the other. -/
theorem decode_ne_none (hp : Header.parse window = .ok (some h))
    (hwhole : h.frameLength ≤ window.length) : decode window c ≠ .ok none := by
  rw [decode_of_header hp]
  split
  · simp
  · rw [if_neg (Nat.not_lt.2 hwhole)]
    split <;> simp

/-- **Where bytes are missing** there is a part of a header, or a header whose
frame is within the limit and not whole. -/
theorem cases_of_decode_none (hd : decode window c = .ok none) :
    Header.parse window = .ok none ∧ window.length < headerSize ∨
      ∃ h, Header.parse window = .ok (some h) ∧ h.payloadLength ≤ c.payloadLimit ∧
        window.length < h.frameLength := by
  rcases hp : Header.parse window with e | _ | h
  · rw [decode_of_parse_error hp] at hd
    cases hd
  · exact .inl ⟨rfl, Nat.not_le.1 fun hlen => Header.parse_ne_none hlen hp⟩
  · refine .inr ⟨h, rfl, Nat.not_lt.1 fun hbig => ?_, Nat.not_le.1 fun hwhole => ?_⟩
    · rw [decode_of_oversized hp hbig] at hd
      cases hd
    · exact decode_ne_none hp hwhole hd

/-- A byte that is no sync byte starts no frame, whatever follows. -/
theorem decode_cons_of_ne {first : UInt8} (rest : Bytes) (hne : first ≠ syncByte) :
    decode (first :: rest) c = .error (.invalidSync first) :=
  decode_of_parse_error (Header.parse_cons_of_ne rest hne)

/-- No frame starts where there is no sync byte. -/
theorem decode_drop_of_ne {i : Nat} (hi : i < window.length) (hne : window[i] ≠ syncByte) :
    ∃ e, decode (window.drop i) c = .error e := by
  rw [List.drop_eq_getElem_cons hi]
  exact ⟨_, decode_cons_of_ne _ hne⟩

/-- **Where reading fails a receiver may go on**: reading bytes at hand fails for
no reason but that no frame starts there. -/
theorem isResync_of_decode_error {e : FrameError} (hd : decode window c = .error e) :
    e.isResync = true := by
  unfold decode at hd
  split at hd
  · rename_i hp
    obtain rfl := Except.error.inj hd
    exact Header.isResync_of_parse_error hp
  · cases hd
  · split at hd
    · obtain rfl := Except.error.inj hd
      rfl
    · split at hd
      · cases hd
      · dsimp only at hd
        split at hd
        · rename_i hv
          obtain rfl := Except.error.inj hd
          exact isResync_of_verify_error hv
        · cases hd

/-- **A verdict stands.** What was read at the front of some bytes, frame or
error, is read again when more bytes follow. -/
theorem decode_append (suffix : Bytes) (hd : decode window c ≠ .ok none) :
    decode (window ++ suffix) c = decode window c := by
  have hp : Header.parse window ≠ .ok none := fun hp => hd (decode_of_parse_none hp)
  have happ := Header.parse_append suffix hp
  rcases hw : Header.parse window with e | _ | h
  · rw [decode_of_parse_error hw, decode_of_parse_error (happ.trans hw)]
  · exact absurd hw hp
  · rw [decode_of_header hw, decode_of_header (happ.trans hw)]
    by_cases hbig : h.payloadLength > c.payloadLimit
    · rw [if_pos hbig, if_pos hbig]
    · have hwhole : h.frameLength ≤ window.length := by
        refine Nat.not_lt.1 fun hshort => hd ?_
        exact decode_of_short hw (Nat.not_lt.1 hbig) hshort
      have hsix : 6 ≤ window.length :=
        Nat.le_trans (by decide) (Header.length_of_parse hw)
      rw [if_neg hbig, if_neg hbig, if_neg (Nat.not_lt.2 hwhole), if_neg (by simp; omega),
        List.take_append_of_le_length hwhole, List.take_append_of_le_length hsix]

/-- A frame that was read is read again, with as many bytes, -/
theorem decode_append_of_frame {f : Frame} {n : Nat} (suffix : Bytes)
    (hd : decode window c = .ok (some (f, n))) :
    decode (window ++ suffix) c = .ok (some (f, n)) := by
  rw [decode_append suffix (by simp [hd]), hd]

/-- and an error is met again, as it was. -/
theorem decode_append_of_error {e : FrameError} (suffix : Bytes)
    (hd : decode window c = .error e) : decode (window ++ suffix) c = .error e := by
  rw [decode_append suffix (by simp [hd]), hd]

/-- **A frame lies within its declared length**: reading from that many bytes
of a buffer is reading from the buffer. -/
theorem decode_take (hp : Header.parse window = .ok (some h))
    (hwhole : h.frameLength ≤ window.length) :
    decode (window.take h.frameLength) c = decode window c := by
  have hlen : (window.take h.frameLength).length = h.frameLength := by
    rw [List.length_take, Nat.min_eq_left hwhole]
  have hsplit := List.take_append_drop h.frameLength window
  have hne : Header.parse (window.take h.frameLength) ≠ .ok none :=
    Header.parse_ne_none (by rw [hlen]; exact Nat.le_add_right _ _)
  have hfront : Header.parse (window.take h.frameLength) = .ok (some h) := by
    rw [← Header.parse_append (window.drop h.frameLength) hne, hsplit, hp]
  have hdecided : decode (window.take h.frameLength) c ≠ .ok none :=
    decode_ne_none hfront (Nat.le_of_eq hlen.symm)
  rw [← decode_append (window.drop h.frameLength) hdecided, hsplit]

end Frame

end ServoLink
