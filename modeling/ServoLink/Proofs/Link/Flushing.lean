import ServoLink.Proofs.Link.Conservation

/-!
# What waits for a flush

A stream may hold bytes back until it is flushed. A transmission flushes the stream if the
stream took any bytes in it, and if it did not fail before; a transmission in which no bytes
were taken does not flush at all. So what an earlier transmission has left unflushed, because
it failed, is not made up for until bytes are taken again.

`Stream.Sent` says what one transmission does to the stream, and `Traffic.transmissions`
lists those of a history. The stream has passed on all that it took if and only if, of the
transmissions in which it took anything, the last one ended well
(`Traffic.flushed_iff_of_ok`).
-/

namespace ServoLink

/-- What became of a transmission, as the stream sees it. -/
structure Transmission where
  /-- The number of bytes that the stream took. -/
  taken : Nat
  /-- Whether it ended well. -/
  ended : Bool
  deriving DecidableEq

namespace Stream

/-- **What a transmission does to a stream**: some bytes are taken, and all that were ever
taken are passed on, if there were some now and it ended well. -/
structure Sent (s : Stream) (x : Transmission) (s' : Stream) : Prop where
  written : s'.written.length = s.written.length + x.taken
  flushed : s'.flushed = if x.taken ≠ 0 ∧ x.ended then s'.written.length else s.flushed

end Stream

namespace Transport

variable {σ : Type}

/-! ## One transmission -/

/-- Writing flushes nothing, and if it ends well it has counted what was taken. -/
theorem taken_writePending (pending : Bytes) (written : Nat) (s : Stream) :
    ∃ taken, (writePending pending written s).2.2.written.length = s.written.length + taken ∧
      (writePending pending written s).2.2.flushed = s.flushed ∧
      ∀ n, (writePending pending written s).1 = .ok n → n = written + taken := by
  fun_induction writePending pending written s with
  | case1 => exact ⟨0, rfl, rfl, fun n hn => (Except.ok.inj hn).symm⟩
  | case2 pending written s _ h =>
    rw [Stream.write_of_nil h]
    exact ⟨pending.length, List.length_append, rfl, fun n hn => (Except.ok.inj hn).symm⟩
  | case3 pending written s _ writes h =>
    rw [Stream.write_of_accept h]
    refine ⟨0, ?_, rfl, fun n hn => by cases hn⟩
    show (s.written ++ pending.take 0).length = _
    rw [List.take_zero, List.append_nil]
    rfl
  | case4 pending written s _ limit writes h _ ih =>
    obtain ⟨taken, hlength, hflushed, hcount⟩ := ih
    rw [Stream.write_of_accept h] at hlength hflushed hcount ⊢
    refine ⟨min limit pending.length + taken, ?_, hflushed, fun n hn => ?_⟩
    · rw [hlength]
      show (s.written ++ pending.take limit).length + taken = _
      rw [List.length_append, List.length_take, Nat.add_assoc]
    · rw [hcount n hn, Nat.add_assoc]
  | case5 pending written s _ f writes h s' _ ih => exact ih
  | case6 => exact ⟨0, rfl, rfl, fun n hn => (Except.ok.inj hn).symm⟩
  | case7 => exact ⟨0, rfl, rfl, fun n hn => by cases hn⟩

/-- A flush passes on all that was taken, or nothing. -/
theorem flushed_flushStream (s : Stream) :
    (flushStream s).2.flushed
      = if (flushStream s).1.isOk then s.written.length else s.flushed := by
  fun_induction flushStream s with
  | case1 s f flushes h s' _ ih => exact ih
  | case2 => rfl
  | case3 s hno =>
    unfold Stream.flush
    split
    · rfl
    · rfl
    · rename_i f flushes h
      exact absurd h (hno f flushes)

section

variable {t : Transport σ} {pending : Bytes} {stream : Stream}

/-- A transmission whose writing fails does not come to flush. -/
theorem transmit_of_write_error {err : LinkError}
    (h : writePending t.refill.pending 0 t.stream = (.error err, pending, stream)) :
    t.transmit = (.error err, { t.refill with pending, stream }) := by
  unfold transmit
  dsimp only
  rw [t.stream_refill, h]

/-- Nor does one in which nothing is taken. -/
theorem transmit_of_write_zero
    (h : writePending t.refill.pending 0 t.stream = (.ok 0, pending, stream)) :
    t.transmit = (.ok 0, { t.refill with pending, stream }) := by
  unfold transmit
  dsimp only
  rw [t.stream_refill, h]
  rfl

/-- **Where something is taken, the flush decides** how a transmission ends. -/
theorem transmit_of_write_pos {n : Nat} (hn : n ≠ 0)
    (h : writePending t.refill.pending 0 t.stream = (.ok n, pending, stream)) :
    t.transmit = ((flushStream stream).1.map fun _ => n,
      { t.refill with pending, stream := (flushStream stream).2 }) := by
  unfold transmit
  dsimp only
  rw [t.stream_refill, h]
  dsimp only
  rw [if_neg hn]
  rcases flushStream stream with ⟨err | _, stream'⟩ <;> rfl

end

/-- What becomes of the next transmission. -/
def transmission (t : Transport σ) : Transmission where
  taken := t.transmit.2.stream.written.length - t.stream.written.length
  ended := t.transmit.1.isOk

theorem transmission_eq {t t' : Transport σ} {answer : Except LinkError Nat} {taken : Nat}
    (h : t.transmit = (answer, t'))
    (hwritten : t'.stream.written.length = t.stream.written.length + taken) :
    t.transmission = ⟨taken, answer.isOk⟩ := by
  unfold transmission
  rw [h, hwritten, Nat.add_sub_cancel_left]

/-- **A transmission**, however it ends; and if it ends well it has counted what was
taken. -/
theorem sent_transmit (t : Transport σ) :
    t.stream.Sent t.transmission t.transmit.2.stream ∧
      ∀ n, t.transmit.1 = .ok n → t.transmission = ⟨n, true⟩ := by
  obtain ⟨taken, hwritten, hflushed, hcount⟩ := taken_writePending t.refill.pending 0 t.stream
  rcases hwrite : writePending t.refill.pending 0 t.stream with ⟨err | n, pending, stream⟩
  all_goals rw [hwrite] at hwritten hflushed hcount
  · have htransmit := transmit_of_write_error hwrite
    rw [transmission_eq htransmit hwritten, htransmit]
    exact ⟨⟨hwritten, hflushed.trans (if_neg fun h => nomatch h.2).symm⟩, nofun⟩
  obtain rfl : n = taken := (hcount n rfl).trans (Nat.zero_add _)
  by_cases hn : n = 0
  · obtain rfl := hn
    have htransmit := transmit_of_write_zero hwrite
    rw [transmission_eq htransmit hwritten, htransmit]
    exact ⟨⟨hwritten, hflushed.trans (if_neg fun h => h.1 rfl).symm⟩,
      fun m hm => Except.ok.inj hm ▸ rfl⟩
  · have htransmit := transmit_of_write_pos hn hwrite
    obtain ⟨hkept, -⟩ := flushStream_frame stream
    have hpassed := flushed_flushStream stream
    have hlength : (flushStream stream).2.written.length = t.stream.written.length + n :=
      hkept ▸ hwritten
    rw [transmission_eq htransmit hlength, htransmit]
    rw [← hkept, hflushed] at hpassed
    rcases hflush : flushStream stream with ⟨err | _, stream'⟩ <;>
      rw [hflush] at hpassed hlength
    · exact ⟨⟨hlength, hpassed.trans (if_neg fun h => nomatch h.2).symm⟩, nofun⟩
    · exact ⟨⟨hlength, hpassed.trans (if_pos ⟨hn, rfl⟩).symm⟩, fun m hm => Except.ok.inj hm ▸ rfl⟩

/-- The transmissions of a poll. -/
def pollTransmissions (t : Transport σ) : List Transmission :=
  match t.transmit with
  | (.error _, _) => [t.transmission]
  | (.ok _, t₁) => t.transmission ::
    match t₁.receive with
    | (.error _, _) => []
    | (.ok _, t₂) =>
      match t₂.parse with
      | (.error _, _) => []
      | (.ok _, t₃) => [t₃.transmission]

end Transport

/-! ## Transmissions one after the other -/

namespace Transmission

/-- The last of some transmissions in which bytes were taken, if there is one. -/
def lastTaking (log : List Transmission) : Option Transmission :=
  (log.filter (·.taken ≠ 0)).getLast?

/-- **The last transmission in which bytes were taken ended well**, if there was one. -/
def EndedWell (log : List Transmission) : Prop :=
  ∀ x ∈ lastTaking log, x.ended = true

variable {log : List Transmission} {x : Transmission}

/-- A transmission in which nothing is taken does not matter. -/
theorem endedWell_concat_of_zero (h : x.taken = 0) : EndedWell (log ++ [x]) ↔ EndedWell log := by
  unfold EndedWell lastTaking
  rw [List.filter_append, List.filter_cons_of_neg (by simp [h]), List.filter_nil, List.append_nil]

/-- Any other is the only one that matters. -/
theorem endedWell_concat_of_ne (h : x.taken ≠ 0) :
    EndedWell (log ++ [x]) ↔ x.ended = true := by
  unfold EndedWell lastTaking
  rw [List.filter_append, List.filter_cons_of_pos (by simp [h]), List.filter_nil,
    List.getLast?_concat]
  simp

end Transmission

open Transmission (EndedWell endedWell_concat_of_zero endedWell_concat_of_ne)

/-- **The transmissions of a stream so far**: nothing waits for a flush if and only if the
last of them in which bytes were taken ended well. -/
structure Stream.Through (log : List Transmission) (s : Stream) : Prop where
  flushed_le : s.flushed ≤ s.written.length
  flushed_iff : s.flushed = s.written.length ↔ EndedWell log

namespace Stream.Through

variable {log : List Transmission} {s s' : Stream} {x : Transmission}

/-- Reading has nothing to do with it. -/
theorem congr (h : s.Through log) (hwritten : s'.written = s.written)
    (hflushed : s'.flushed = s.flushed) : s'.Through log := by
  constructor
  · rw [hwritten, hflushed]
    exact h.flushed_le
  · rw [hwritten, hflushed]
    exact h.flushed_iff

/-- **One more transmission.** -/
theorem sent (h : s.Through log) (hsent : s.Sent x s') : s'.Through (log ++ [x]) := by
  obtain ⟨hwritten, hflushed⟩ := hsent
  have hle := h.flushed_le
  by_cases htaken : x.taken = 0
  · -- nothing was taken, and everything is as before
    rw [if_neg fun hx => hx.1 htaken] at hflushed
    rw [htaken, Nat.add_zero] at hwritten
    constructor
    · rwa [hwritten, hflushed]
    · rw [hwritten, hflushed, endedWell_concat_of_zero htaken]
      exact h.flushed_iff
  · by_cases hended : x.ended = true
    · rw [if_pos ⟨htaken, hended⟩] at hflushed
      refine ⟨Nat.le_of_eq hflushed, ?_⟩
      rw [endedWell_concat_of_ne htaken]
      exact iff_of_true hflushed hended
    · rw [if_neg fun hx => hended hx.2] at hflushed
      have hless : s'.flushed < s'.written.length := by omega
      refine ⟨Nat.le_of_lt hless, ?_⟩
      rw [endedWell_concat_of_ne htaken]
      exact iff_of_false (Nat.ne_of_lt hless) hended

/-- A poll is its transmissions. -/
theorem poll {σ : Type} {t : Transport σ} (h : t.stream.Through log) :
    t.poll.2.stream.Through (log ++ t.pollTransmissions) := by
  have hbefore := h.sent t.sent_transmit.1
  unfold Transport.pollTransmissions Transport.poll
  rcases htransmit : t.transmit with ⟨err | before, t₁⟩ <;> rw [htransmit] at hbefore
  · exact hbefore
  have hread : t₁.receive.2.stream.Through (log ++ [t.transmission]) := by
    obtain ⟨_, _, _, hreceive, -⟩ := t₁.receive_frame
    rw [hreceive]
    exact hbefore.congr rfl rfl
  dsimp only
  rcases hreceive : t₁.receive with ⟨err | read, t₂⟩ <;> rw [hreceive] at hread
  · exact hread
  have hparse : t₂.parse.2.stream.Through (log ++ [t.transmission]) := hread
  dsimp only
  rcases hpass : t₂.parse with ⟨fault | parse, t₃⟩ <;> rw [hpass] at hparse
  · exact hparse
  have hafter := hparse.sent t₃.sent_transmit.1
  rw [List.append_assoc] at hafter
  dsimp only
  rcases htransmit' : t₃.transmit with ⟨err | after, t₄⟩ <;> rw [htransmit'] at hafter <;>
    exact hafter

end Stream.Through

/-! ## Histories -/

namespace Traffic

variable {σ : Type}

/-- The transmissions of one call. -/
def callTransmissions (t : Transport σ) : Call → List Transmission
  | .poll => t.pollTransmissions
  | .transmit => [t.transmission]
  | .enqueue .. | .enqueueFrame _ | .request _ | .receive | .parse => []

/-- **The transmissions of a history of calls**, in order. -/
def transmissions (t : Traffic σ) : List Call → List Transmission
  | [] => []
  | call :: calls => callTransmissions t.transport call ++ transmissions (t.step call) calls

/-- Every call is its transmissions. -/
theorem through_step {log : List Transmission} {t : Traffic σ}
    (h : t.transport.stream.Through log) (call : Call) :
    (t.step call).transport.stream.Through (log ++ callTransmissions t.transport call) := by
  cases call with
  | poll => exact h.poll
  | transmit => exact h.sent t.transport.sent_transmit.1
  | receive =>
    obtain ⟨_, _, _, hreceive, -⟩ := t.transport.receive_frame
    show t.transport.receive.2.stream.Through _
    rw [hreceive, show callTransmissions t.transport .receive = [] from rfl, List.append_nil]
    exact h.congr rfl rfl
  | enqueue | enqueueFrame | request | parse =>
    exact (List.append_nil log).symm ▸ h.congr rfl rfl

/-- **A history is its transmissions.** -/
theorem through_foldl {log : List Transmission} {t : Traffic σ}
    (h : t.transport.stream.Through log) (calls : List Call) :
    (calls.foldl step t).transport.stream.Through (log ++ transmissions t calls) := by
  induction calls generalizing log t with
  | nil => exact (List.append_nil log).symm ▸ h
  | cons call calls ih =>
    rw [transmissions, ← List.append_assoc]
    exact ih (through_step h call)

/-- **What a transmission that ends well leaves unflushed.** Let the stream have taken
nothing at the start. Then after any history of calls, however each of them ended, a
transmission that ends well has passed on everything that the stream ever took if and only
if bytes were taken in it, or, of the transmissions before it in which bytes were taken, the
last one ended well, or there was none. -/
theorem flushed_iff_of_ok (t₀ : Transport σ) (hwritten : t₀.stream.written = [])
    (hflushed : t₀.stream.flushed = 0) (calls : List Call) {n : Nat} {t' : Transport σ}
    (h : (run t₀ calls).transport.transmit = (.ok n, t')) :
    t'.stream.flushed = t'.stream.written.length ↔
      n ≠ 0 ∨ EndedWell (transmissions { transport := t₀ } calls) := by
  have hstart : t₀.stream.Through [] := by
    constructor
    · rw [hflushed]
      exact Nat.zero_le _
    · rw [hflushed, hwritten]
      exact ⟨fun _ => nofun, fun _ => rfl⟩
  have hrun : (run t₀ calls).transport.stream.Through (transmissions { transport := t₀ } calls) :=
    through_foldl (t := { transport := t₀ }) hstart calls
  obtain ⟨hsent, hcount⟩ := (run t₀ calls).transport.sent_transmit
  rw [h] at hsent hcount
  rw [hcount n rfl] at hsent
  rw [(hrun.sent hsent).flushed_iff]
  by_cases hn : n = 0
  · rw [endedWell_concat_of_zero hn]
    exact (or_iff_right fun h => h hn).symm
  · rw [endedWell_concat_of_ne hn]
    exact iff_of_true rfl (.inl hn)

/-- A flush fails. Another transmission finds nothing to send and ends well, and the nine
bytes of the frame wait on; they are passed on with the next frame. -/
theorem flushed_iff_of_ok_failed_flush :
    let key : Key := ⟨1, 2⟩
    let t₀ : Transport Unit :=
      { endpoint := .new {}
        state := ()
        stream := { flushes := [some ⟨.brokenPipe, "gone"⟩] } }
    let idle := (run t₀ [.enqueue key [7], .transmit]).transport.transmit
    let next := (run t₀ [.enqueue key [7], .transmit, .enqueue key [8]]).transport.transmit
    idle.1.toOption = some 0 ∧ idle.2.stream.flushed ≠ idle.2.stream.written.length ∧
      next.1.toOption = some 9 ∧ next.2.stream.flushed = next.2.stream.written.length := by
  intro key t₀ idle next
  have hidle : idle.1.toOption = some 0 := by decide +kernel
  have hnext : next.1.toOption = some 9 := by decide +kernel
  have hlog : transmissions { transport := t₀ } [.enqueue key [7], .transmit] = [⟨9, false⟩] := by
    decide +kernel
  have hfailed : ¬ EndedWell [⟨9, false⟩] := fun h => nomatch h ⟨9, false⟩ rfl
  refine ⟨hidle, fun hflushed => ?_, hnext, ?_⟩
  · rcases hended : idle with ⟨err | n, t'⟩ <;> rw [hended] at hidle hflushed <;> cases hidle
    have hiff := flushed_iff_of_ok t₀ rfl rfl [.enqueue key [7], .transmit] hended
    rw [hlog] at hiff
    exact (hiff.1 hflushed).elim (fun h => h rfl) hfailed
  · rcases hended : next with ⟨err | n, t'⟩ <;> rw [hended] at hnext <;> cases hnext
    exact (flushed_iff_of_ok t₀ rfl rfl [.enqueue key [7], .transmit, .enqueue key [8]]
      hended).2 (.inl (by decide))

/-- **A transmission can end well and leave everything unflushed**: the frame was taken in
the transmission before it, whose flush failed. -/
theorem ok_leaves_unflushed :
    let t₀ : Transport Unit :=
      { endpoint := .new {}
        state := ()
        stream := { flushes := [some ⟨.brokenPipe, "scripted"⟩, some ⟨.brokenPipe, "scripted"⟩] } }
    let t := (run t₀ [.enqueue ⟨1, 1⟩ [7], .transmit]).transport
    t.transmit.1.toOption = some 0 ∧ t.transmit.2.stream.written.length = 9 ∧
      t.transmit.2.stream.flushed = 0 := by
  decide +kernel

end Traffic

end ServoLink
