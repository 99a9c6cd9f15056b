import Mathlib.Logic.Function.Iterate
import ServoLink.Proofs.Link.Conservation
import ServoLink.Proofs.Link.Feeding

/-!
# Polling a link to the end of its stream

A read puts no more into the receive buffer than there is room for, and all of it: what
has left the stream is in the buffer (`Transport.receive_keeps`). So on a stream that
goes on until it ends (`Stream.Willing`), polling feeds the endpoint what the stream
yields and nothing else, in pieces cut by the stream and by the size of a read. Every poll
uses up something that the stream has in store, so that polling comes to the end
(`Transport.Live.polled_to_end`).
-/

namespace ServoLink

/-- The bytes that an answer to a read has in store. -/
def ReadAnswer.bytes : ReadAnswer → Bytes
  | .data bytes => bytes
  | .failure _ => []

/-- **An answer after which reading goes on**: some bytes, an interruption, or nothing for
the moment. -/
def ReadAnswer.Continues : ReadAnswer → Prop
  | .data bytes => bytes ≠ []
  | .failure f => f.kind.isRetry = true ∨ f.kind.isIdle = true

namespace Stream

variable {s : Stream}

/-- The bytes still to be read. -/
def inbound (s : Stream) : Bytes :=
  s.reads.flatMap ReadAnswer.bytes

/-- How much there is still to be read, in bytes and in answers. -/
def weight (s : Stream) : Nat :=
  (s.reads.map fun a => a.bytes.length + 1).sum

/-- **A stream that goes on until it ends**: reads yield its bytes in pieces of any sizes,
with interruptions and pauses between them; writes take some of what is offered, and
flushes succeed. -/
structure Willing (s : Stream) : Prop where
  reads : ∀ a ∈ s.reads, a.Continues
  writes : ∀ a ∈ s.writes, ∃ limit, a = .accept (limit + 1)
  flushes : ∀ a ∈ s.flushes, a = none

/-- It goes on with the answers that are left. -/
theorem Willing.tail (h : s.Willing) {a : ReadAnswer} {reads : List ReadAnswer}
    (hreads : s.reads = a :: reads) : Willing { s with reads } :=
  { h with reads := fun b hb => h.reads b (hreads ▸ List.mem_cons_of_mem a hb) }

theorem inbound_cons {a : ReadAnswer} {reads : List ReadAnswer} (hreads : s.reads = a :: reads) :
    s.inbound = a.bytes ++ inbound { s with reads } := by
  unfold inbound
  rw [hreads, List.flatMap_cons]

theorem weight_cons {a : ReadAnswer} {reads : List ReadAnswer} (hreads : s.reads = a :: reads) :
    s.weight = a.bytes.length + 1 + weight { s with reads } := by
  unfold weight
  rw [hreads, List.map_cons, List.sum_cons]

/-- **A read takes its bytes from those that are to be read.** -/
theorem inbound_read (s : Stream) (room : Nat) :
    s.inbound = ((s.read room).1.toOption.getD []) ++ (s.read room).2.inbound := by
  unfold read
  split
  · rfl
  · rename_i f reads hreads
    exact inbound_cons hreads
  · rename_i bytes reads hreads
    rw [inbound_cons hreads]
    show bytes ++ inbound { s with reads } = bytes.take room ++ inbound { s with reads := _ }
    split
    · rename_i hfit
      rw [List.take_of_length_le hfit]
    · rw [inbound_cons (s := { s with reads := .data (bytes.drop room) :: reads }) rfl,
        ← List.append_assoc]
      show bytes ++ _ = bytes.take room ++ bytes.drop room ++ _
      rw [List.take_append_drop]

/-- A read yields no more bytes than there is room for. -/
theorem length_read_le {room : Nat} {data : Bytes} (h : (s.read room).1 = .ok data) :
    data.length ≤ room := by
  unfold read at h
  split at h
  · cases h
    exact Nat.zero_le _
  · cases h
  · cases h
    rw [List.length_take]
    exact Nat.min_le_left _ _

/-- **What a read of such a stream comes to**: bytes, a pause, or the end. -/
theorem Willing.read (h : s.Willing) {room : Nat} (hroom : 0 < room)
    (hanswer : ∀ f reads, s.reads = .failure f :: reads → f.kind.isRetry = false) :
    (s.read room).2.Willing ∧
      ((s.read room).1 = .ok [] ∧ (s.read room).2.inbound = [] ∨
        (s.read room).2.weight < s.weight ∧
          ((∃ data, (s.read room).1 = .ok data ∧ data ≠ []) ∨
            ∃ f, (s.read room).1 = .error f ∧ f.kind.isIdle = true)) := by
  unfold Stream.read
  split
  · rename_i hreads
    refine ⟨h, .inl ⟨rfl, ?_⟩⟩
    unfold inbound
    rw [hreads]
    rfl
  · rename_i f reads hreads
    have hcontinues : f.kind.isRetry = true ∨ f.kind.isIdle = true :=
      h.reads (.failure f) (hreads ▸ List.mem_cons_self)
    rw [hanswer f reads hreads] at hcontinues
    refine ⟨h.tail hreads, .inr ⟨?_, .inr ⟨f, rfl, hcontinues.resolve_left Bool.false_ne_true⟩⟩⟩
    rw [weight_cons hreads]
    exact Nat.lt_add_of_pos_left (Nat.succ_pos _)
  · rename_i bytes reads hreads
    have hne : bytes ≠ [] := h.reads (.data bytes) (hreads ▸ List.mem_cons_self)
    have hpos := List.length_pos_iff.2 hne
    have htaken : bytes.take room ≠ [] :=
      fun hnil => hne ((List.take_eq_nil_iff.1 hnil).resolve_left (Nat.ne_of_gt hroom))
    rw [weight_cons hreads]
    show Willing { s with reads := _ } ∧ (_ ∨ weight { s with reads := _ } < _ ∧ _)
    split
    · exact ⟨h.tail hreads, .inr ⟨Nat.lt_add_of_pos_left (Nat.succ_pos _),
        .inl ⟨_, rfl, htaken⟩⟩⟩
    · -- what has no room stays in store, and is less than there was
      rename_i hbig
      refine ⟨{ h with reads := ?_ }, .inr ⟨?_, .inl ⟨_, rfl, htaken⟩⟩⟩
      · refine List.forall_mem_cons.2 ⟨fun hnil => hbig ?_, (h.tail hreads).reads⟩
        exact List.drop_eq_nil_iff.1 hnil
      · rw [weight_cons (s := { s with reads := .data (bytes.drop room) :: reads }) rfl]
        show (bytes.drop room).length + 1 + _ < bytes.length + 1 + _
        rw [List.length_drop]
        exact Nat.add_lt_add_right (Nat.add_lt_add_right (Nat.sub_lt hpos hroom) 1) _

end Stream

namespace Transport

variable {σ : Type} {s : Stream}

/-! ## Reading -/

/-- What is left of a read when the interruptions before it are passed over. -/
theorem readStream_cases (room : Nat) (s : Stream) :
    ∃ reads, readStream room s = Stream.read { s with reads } room ∧
      s.inbound = Stream.inbound { s with reads } ∧
      Stream.weight { s with reads } ≤ s.weight ∧
      (s.Willing → Stream.Willing { s with reads }) ∧
      ∀ f later, reads = .failure f :: later → f.kind.isRetry = false := by
  fun_induction readStream room s with
  | case1 s f reads hreads _ ih =>
    obtain ⟨later, hread, hinbound, hweight, hwilling, hanswer⟩ := ih
    refine ⟨later, hread, ?_, ?_, fun h => hwilling (h.tail hreads), hanswer⟩
    · rw [Stream.inbound_cons hreads]
      exact hinbound
    · rw [Stream.weight_cons hreads]
      exact Nat.le_trans hweight (Nat.le_add_left _ _)
  | case2 s f reads hreads hretry =>
    refine ⟨s.reads, rfl, rfl, Nat.le_refl _, id, fun g later hg => ?_⟩
    rw [hreads] at hg
    cases hg
    exact Bool.eq_false_iff.2 hretry
  | case3 s hno =>
    exact ⟨s.reads, rfl, rfl, Nat.le_refl _, id, fun f later hf => absurd hf (hno f later)⟩

/-- The next read: of as many bytes as there is room for, and of a chunk at most. -/
def nextRead (t : Transport σ) : Except IoFailure Bytes × Stream :=
  readStream (min t.endpoint.sync.room readChunk) t.stream

variable {t : Transport σ} {data : Bytes} {stream : Stream}

/-- What it yields fits in, and is taken from what is to be read. -/
theorem nextRead_keeps (t : Transport σ) :
    (∀ data, t.nextRead.1 = .ok data → data.length ≤ t.endpoint.sync.room) ∧
      t.stream.inbound = t.nextRead.1.toOption.getD [] ++ t.nextRead.2.inbound := by
  obtain ⟨reads, hread, hinbound, -⟩ :=
    readStream_cases (min t.endpoint.sync.room readChunk) t.stream
  unfold nextRead
  rw [hread, hinbound, Stream.inbound_read { t.stream with reads }]
  exact ⟨fun data hdata => Nat.le_trans (Stream.length_read_le hdata) (Nat.min_le_left _ _), rfl⟩

theorem span_pos (hroom : 0 < t.endpoint.sync.room) :
    0 < min t.endpoint.sync.room readChunk :=
  Nat.lt_min.2 ⟨hroom, by decide⟩

/-- On a stream that goes on it yields bytes, finds a pause, or finds the end. -/
theorem nextRead_of_willing (h : t.stream.Willing) (hroom : 0 < t.endpoint.sync.room) :
    t.nextRead.2.Willing ∧
      (t.nextRead.1 = .ok [] ∧ t.nextRead.2.inbound = [] ∨
        t.nextRead.2.weight < t.stream.weight ∧
          ((∃ data, t.nextRead.1 = .ok data ∧ data ≠ []) ∨
            ∃ f, t.nextRead.1 = .error f ∧ f.kind.isIdle = true)) := by
  obtain ⟨reads, hread, -, hweight, hwilling, hanswer⟩ :=
    readStream_cases (min t.endpoint.sync.room readChunk) t.stream
  unfold nextRead
  rw [hread]
  obtain ⟨hgoes, hended | ⟨hless, hyields⟩⟩ := (hwilling h).read (span_pos hroom) hanswer
  · exact ⟨hgoes, .inl hended⟩
  · exact ⟨hgoes, .inr ⟨Nat.lt_of_lt_of_le hless hweight, hyields⟩⟩

/-- What is read is pushed. -/
theorem receive_of_data (hroom : 0 < t.endpoint.sync.room)
    (hread : t.nextRead = (.ok data, stream)) (hne : data ≠ []) :
    t.receive = (.ok data.length, { t with endpoint := (t.endpoint.push data).2, stream }) := by
  have hfit := t.nextRead_keeps.1 data (congrArg Prod.fst hread)
  obtain ⟨byte, data, rfl⟩ := List.exists_cons_of_ne_nil hne
  unfold receive
  dsimp only
  rw [if_neg (Nat.ne_of_gt (span_pos hroom)), show readStream _ t.stream = _ from hread]
  dsimp only
  rw [t.endpoint.push_of_le_room _ hfit]

/-- No bytes are the end of the stream. -/
theorem receive_of_end (hroom : 0 < t.endpoint.sync.room)
    (hread : t.nextRead = (.ok [], stream)) : t.receive = (.error .closed, { t with stream }) := by
  unfold receive
  dsimp only
  rw [if_neg (Nat.ne_of_gt (span_pos hroom)), show readStream _ t.stream = _ from hread]

/-- A failure is a pause, or it ends the poll. -/
theorem receive_of_error {f : IoFailure} (hroom : 0 < t.endpoint.sync.room)
    (hread : t.nextRead = (.error f, stream)) :
    t.receive = (if f.kind.isIdle then .ok 0 else .error (.io f), { t with stream }) := by
  unfold receive
  dsimp only
  rw [if_neg (Nat.ne_of_gt (span_pos hroom)), show readStream _ t.stream = _ from hread]
  dsimp only
  split <;> rfl

/-- **A read overflows nothing and drops nothing**: what has left the stream is in the
receive buffer. -/
theorem receive_keeps (t : Transport σ) :
    (∀ needed room, t.receive.1 ≠ .error (.receiveOverflow needed room)) ∧
      t.receive.2.endpoint.counters.receiveOverflow = t.endpoint.counters.receiveOverflow ∧
      t.receive.2.endpoint.sync.buffer ++ t.receive.2.stream.inbound
        = t.endpoint.sync.buffer ++ t.stream.inbound := by
  by_cases hroom : t.endpoint.sync.room = 0
  · have hfull : t.receive = (.ok 0, t) := by
      unfold receive
      rw [hroom, Nat.zero_min]
      rfl
    rw [hfull]
    exact ⟨nofun, rfl, rfl⟩
  have hpos := Nat.pos_of_ne_zero hroom
  obtain ⟨hfits, hinbound⟩ := t.nextRead_keeps
  rcases hread : t.nextRead with ⟨f | data, stream⟩ <;> rw [hread] at hfits hinbound
  · rw [receive_of_error hpos hread, hinbound]
    refine ⟨fun needed room => ?_, rfl, rfl⟩
    dsimp only
    split <;> nofun
  · by_cases hne : data = []
    · rw [hne] at hread hinbound
      rw [receive_of_end hpos hread, hinbound]
      exact ⟨nofun, rfl, rfl⟩
    · rw [receive_of_data hpos hread hne, hinbound,
        t.endpoint.push_of_le_room data (hfits data rfl)]
      exact ⟨nofun, rfl, List.append_assoc _ _ _⟩

/-! ## Writing -/

/-- Such a stream takes everything that is pending. -/
theorem writePending_of_willing (pending : Bytes) (written : Nat) (h : s.Willing) :
    (∃ n, (writePending pending written s).1 = .ok n) ∧
      (writePending pending written s).2.2.Willing ∧
      (writePending pending written s).2.2.reads = s.reads := by
  fun_induction writePending pending written s with
  | case1 => exact ⟨⟨_, rfl⟩, h, rfl⟩
  | case2 pending written s _ hwrites =>
    rw [Stream.write_of_nil hwrites]
    exact ⟨⟨_, rfl⟩, { h with }, rfl⟩
  | case3 pending written s _ writes hwrites =>
    obtain ⟨limit, hlimit⟩ := h.writes (.accept 0) (hwrites ▸ List.mem_cons_self)
    cases hlimit
  | case4 pending written s _ limit writes hwrites _ ih =>
    rw [Stream.write_of_accept hwrites] at ih ⊢
    exact ih { h with writes := fun a ha => h.writes a (hwrites ▸ List.mem_cons_of_mem _ ha) }
  | case5 pending written s _ f writes hwrites | case6 pending written s _ f writes hwrites
  | case7 pending written s _ f writes hwrites =>
    obtain ⟨limit, hlimit⟩ := h.writes (.failure f) (hwrites ▸ List.mem_cons_self)
    cases hlimit

theorem flushStream_of_willing (h : s.Willing) :
    (flushStream s).1 = .ok () ∧ (flushStream s).2.Willing ∧
      (flushStream s).2.reads = s.reads := by
  fun_induction flushStream s with
  | case1 s f flushes hflushes => cases h.flushes (some f) (hflushes ▸ List.mem_cons_self)
  | case2 s f flushes hflushes => cases h.flushes (some f) (hflushes ▸ List.mem_cons_self)
  | case3 s hno =>
    refine ⟨rfl, ?_⟩
    unfold Stream.flush
    split
    · exact ⟨{ h with }, rfl⟩
    · rename_i flushes hflushes
      exact ⟨{ h with flushes := fun a ha => h.flushes a (hflushes ▸ List.mem_cons_of_mem _ ha) },
        rfl⟩
    · rename_i f flushes hflushes
      exact absurd hflushes (hno f flushes)

/-- On such a stream sending ends well, and it leaves what is to be read. -/
theorem transmit_of_willing (h : t.stream.Willing) :
    ∃ n pending stream, t.transmit = (.ok n, { t.refill with pending, stream }) ∧
      stream.Willing ∧ stream.reads = t.stream.reads := by
  obtain ⟨⟨n, hn⟩, hwilling, hreads⟩ := writePending_of_willing t.refill.pending 0 h
  rw [← t.stream_refill] at hn hwilling hreads
  unfold transmit
  dsimp only
  rcases hwrite : writePending t.refill.pending 0 t.refill.stream with ⟨answer, pending, stream⟩
  rw [hwrite] at hn hwilling hreads
  obtain rfl : answer = .ok n := hn
  dsimp only
  split
  · exact ⟨_, _, _, rfl, hwilling, hreads.trans (congrArg (·.reads) t.stream_refill)⟩
  · obtain ⟨hflush, hwilling', hreads'⟩ := flushStream_of_willing hwilling
    rcases hflushed : flushStream stream with ⟨answer, stream'⟩
    rw [hflushed] at hflush hwilling' hreads'
    obtain rfl : answer = .ok () := hflush
    exact ⟨_, _, _, rfl, hwilling',
      hreads'.trans (hreads.trans (congrArg (·.reads) t.stream_refill))⟩

/-! ## Polling -/

open Endpoint

variable {e₀ : Endpoint σ} {s₀ : σ} {bytes : Bytes}

/-- What a poll leaves. -/
def polled (t : Transport σ) : Transport σ :=
  t.poll.2

/-- **A transport between two polls**, on a stream that goes on until it ends: its endpoint
is at rest, and what it was fed and what is still to be read are the bytes that the stream
has yielded from the start on. -/
structure Live (e₀ : Endpoint σ) (s₀ : σ) (bytes : Bytes) (t : Transport σ) : Prop where
  willing : t.stream.Willing
  fed : ∃ seen, Rested e₀ s₀ seen t.endpoint t.state ∧ seen ++ t.stream.inbound = bytes

/-- Sending does not matter. -/
theorem Live.transmit (h : Live e₀ s₀ bytes t) :
    ∃ n t', t.transmit = (.ok n, t') ∧ Live e₀ s₀ bytes t' ∧
      t'.stream.weight = t.stream.weight := by
  obtain ⟨seen, hrested, hbytes⟩ := h.fed
  obtain ⟨n, pending, stream, htransmit, hwilling, hreads⟩ := transmit_of_willing h.willing
  have hrefilled : Rested e₀ s₀ seen t.refill.endpoint t.refill.state := by
    unfold refill
    split
    · exact hrested.drain
    · exact hrested
  refine ⟨n, _, htransmit, ⟨hwilling, seen, hrefilled, ?_⟩, ?_⟩
  · unfold Stream.inbound at hbytes ⊢
    rwa [show stream.reads = t.stream.reads from hreads]
  · unfold Stream.weight
    rw [show stream.reads = t.stream.reads from hreads]

/-- **Reading feeds the endpoint**, or finds the stream at its end when all is fed. -/
theorem Live.receive (h : Live e₀ s₀ bytes t) :
    (∃ t', t.receive = (.error .closed, t') ∧ Rested e₀ s₀ bytes t'.endpoint t'.state) ∨
      ∃ n t' seen, t.receive = (.ok n, t') ∧ t'.stream.weight < t.stream.weight ∧
        t'.stream.Willing ∧ Fed e₀ s₀ seen t'.endpoint t'.state ∧
        seen ++ t'.stream.inbound = bytes := by
  obtain ⟨seen, hrested, hbytes⟩ := h.fed
  have hroom := hrested.room_pos
  obtain ⟨hfits, hinbound⟩ := t.nextRead_keeps
  obtain ⟨hwilling, hcomes⟩ := nextRead_of_willing h.willing hroom
  rw [hinbound] at hbytes
  rcases hread : t.nextRead with ⟨answer, stream⟩
  rw [hread] at hfits hbytes hwilling hcomes
  -- the end of the stream, some bytes, or a pause
  rcases hcomes with ⟨hended, hrest⟩ | ⟨hless, ⟨data, hdata, hne⟩ | ⟨f, hf, hidle⟩⟩
  · obtain rfl : answer = .ok [] := hended
    rw [show stream.inbound = [] from hrest] at hbytes
    obtain rfl : seen = bytes := (List.append_nil seen).symm.trans hbytes
    exact .inl ⟨_, receive_of_end hroom hread, hrested⟩
  · obtain rfl : answer = .ok data := hdata
    refine .inr ⟨_, _, seen ++ data, receive_of_data hroom hread hne, hless, hwilling,
      (hrested.push (hfits data rfl)).2, ?_⟩
    exact (List.append_assoc _ _ _).trans hbytes
  · obtain rfl : answer = .error f := hf
    refine .inr ⟨0, { t with stream }, seen, ?_, hless, hwilling, hrested.toFed, hbytes⟩
    rw [receive_of_error hroom hread, if_pos hidle]

/-- **A poll**, if no callback raises a fault, either uses up something of the stream, or
finds it at its end when all is fed. -/
theorem Live.poll (h : Live e₀ s₀ bytes t) (hquiet : Quiet e₀.registry.slot e₀.tap) :
    (t.poll.1 = .error (.link .closed) ∧ Rested e₀ s₀ bytes t.polled.endpoint t.polled.state) ∨
      (∃ report, t.poll.1 = .ok report) ∧ Live e₀ s₀ bytes t.polled ∧
        t.polled.stream.weight < t.stream.weight := by
  obtain ⟨before, t₁, hbefore, hlive, hsame⟩ := h.transmit
  unfold polled Transport.poll
  rw [hbefore, ← hsame]
  dsimp only
  rcases hlive.receive with ⟨t₂, hended, hrested⟩ | ⟨read, t₂, seen, hread, hless, hwilling,
    hfed, hbytes⟩
  · rw [hended]
    exact .inl ⟨rfl, hrested⟩
  · obtain ⟨⟨parse, hparse⟩, hrested⟩ := hfed.parse hquiet
    have hlive' : Live e₀ s₀ bytes t₂.parse.2 := ⟨hwilling, seen, hrested, hbytes⟩
    rw [hread]
    dsimp only
    rcases hparsed : t₂.parse with ⟨answer, t₃⟩
    rw [hparsed] at hlive'
    obtain rfl : answer = .ok parse := (congrArg Prod.fst hparsed).symm.trans hparse
    obtain ⟨after, t₄, hafter, hlast, hsame'⟩ := hlive'.transmit
    have hstream : t₃.stream = t₂.stream := (congrArg (·.2.stream) hparsed).symm
    dsimp only
    rw [hafter]
    refine .inr ⟨⟨_, rfl⟩, hlast, ?_⟩
    rw [hsame', hstream]
    exact hless

/-- **Polling comes to the end of the stream**, if no callback raises a fault, and by then
the endpoint was fed all that the stream has yielded. -/
theorem Live.polled_to_end (h : Live e₀ s₀ bytes t) (hquiet : Quiet e₀.registry.slot e₀.tap) :
    ∃ n, (∀ i < n, ∃ report, (polled^[i] t).poll.1 = .ok report) ∧
      (polled^[n] t).poll.1 = .error (.link .closed) ∧
      Rested e₀ s₀ bytes (polled^[n + 1] t).endpoint
        (polled^[n + 1] t).state := by
  -- on what the stream still has in store
  induction hweight : t.stream.weight using Nat.strongRecOn generalizing t with
  | ind w ih =>
    rcases h.poll hquiet with ⟨hended, hrested⟩ | ⟨hok, hlive, hless⟩
    · exact ⟨0, fun i hi => absurd hi (Nat.not_lt_zero i), hended, hrested⟩
    · obtain ⟨n, hbefore, hended, hrested⟩ := ih _ (hweight ▸ hless) hlive rfl
      refine ⟨n + 1, fun i hi => ?_, hended, hrested⟩
      cases i with
      | zero => exact hok
      | succ i => exact hbefore i (Nat.lt_of_succ_lt_succ hi)

end Transport

end ServoLink
