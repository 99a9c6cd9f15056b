import ServoLink.Proofs.Link.Flushing
import ServoLink.Proofs.Link.Polling

/-!
# Polling a stream that is never in trouble for long

A stream may be interrupted, or have nothing to give or take for the moment. Such
conditions pass (`IoKind.Passing`), and a stream that knows no others and does not end
(`Stream.Passing`) gives no cause for a poll to fail. Reading and writing indeed go on after
an interruption and leave the rest for the next time when the stream is idle
(`Transport.receive_of_passing`, `Transport.writePending_of_outgoing`). Flushing goes on
after an interruption too, but takes an idle stream for a failure.

So a poll of such a stream fails where a flush is put off, and nowhere else: bytes are
waiting to be sent, the stream takes some of them, and then it is idle when it is asked to
flush (`Transport.Snags`). That can happen before the read and after the parse pass
(`Transport.poll_fails_iff`).
-/

namespace ServoLink

/-- **A condition that passes.** -/
def IoKind.Passing (k : IoKind) : Prop :=
  k = .interrupted ∨ k = .wouldBlock ∨ k = .timedOut

/-- A call that met one is made again, or it is left for the next time. -/
theorem IoKind.Passing.isIdle {k : IoKind} (h : k.Passing) (hretry : k.isRetry = false) :
    k.isIdle = true := by
  rcases h with rfl | rfl | rfl
  · cases hretry
  · rfl
  · rfl

/-- An idle stream would block, or it has timed out. -/
theorem IoKind.isIdle_iff {k : IoKind} : k.isIdle = true ↔ k = .wouldBlock ∨ k = .timedOut := by
  cases k <;> simp [IoKind.isIdle]

namespace Stream

/-- Whether a read is interrupted. -/
def readRetries : ReadAnswer → Bool
  | .data _ => false
  | .failure f => f.kind.isRetry

/-- Whether a write is interrupted. -/
def writeRetries : WriteAnswer → Bool
  | .accept _ => false
  | .failure f => f.kind.isRetry

/-- Whether a flush is interrupted. -/
def flushRetries : Option IoFailure → Bool
  | none => false
  | some f => f.kind.isRetry

/-- **The stream takes some bytes when it is offered any**: the first answer that is no
interruption is not a failure. -/
def Accepts (s : Stream) : Prop :=
  ∀ f, s.writes.find? (!writeRetries ·) ≠ some (.failure f)

/-- **The failure that a flush comes to**, if it fails: that of the first answer that is no
interruption. -/
def flushFailure (s : Stream) : Option IoFailure :=
  (s.flushes.find? (!flushRetries ·)).join

/-- **Sending meets only conditions that pass**, and every write takes something. -/
structure Outgoing (s : Stream) : Prop where
  accepts : .accept 0 ∉ s.writes
  writes : ∀ f, .failure f ∈ s.writes → f.kind.Passing
  flushes : ∀ f, some f ∈ s.flushes → f.kind.Passing

/-- **A stream that knows only conditions that pass, and does not end**: every read that is
answered finds some bytes, and beyond the interruptions there is an answer. -/
structure Passing (s : Stream) : Prop extends s.Outgoing where
  data : .data [] ∉ s.reads
  reads : ∀ f, .failure f ∈ s.reads → f.kind.Passing
  answered : ∃ a ∈ s.reads, readRetries a = false

variable {s : Stream}

/-- What sending leaves in store: the reads, and answers from some point on. -/
structure Left (s s' : Stream) : Prop where
  reads : s'.reads = s.reads
  writes : s'.writes <:+ s.writes
  flushes : s'.flushes <:+ s.flushes

theorem Outgoing.left (h : s.Outgoing) {s' : Stream} (hleft : s.Left s') : s'.Outgoing where
  accepts hmem := h.accepts (hleft.writes.subset hmem)
  writes f hmem := h.writes f (hleft.writes.subset hmem)
  flushes f hmem := h.flushes f (hleft.flushes.subset hmem)

/-- A flush that is put off was put off by an idle stream. -/
theorem Outgoing.isIdle_of_flushFailure (h : s.Outgoing) {f : IoFailure}
    (hf : s.flushFailure = some f) : f.kind.isIdle = true := by
  obtain hfound : s.flushes.find? (!flushRetries ·) = some (some f) :=
    Option.join_eq_some_iff.1 hf
  exact (h.flushes f (List.mem_of_find?_eq_some hfound)).isIdle
    (by simpa [flushRetries] using List.find?_some hfound)

/-! ### The first answer that is no interruption -/

theorem accepts_of_nil (h : s.writes = []) : s.Accepts := by
  intro f
  rw [h]
  exact nofun

theorem accepts_of_accept {limit : Nat} {writes : List WriteAnswer}
    (h : s.writes = .accept limit :: writes) : s.Accepts := by
  intro f
  rw [h, List.find?_cons_of_pos rfl]
  exact nofun

/-- An interruption is passed over, and any other failure is what the write comes to. -/
theorem accepts_of_failure {f : IoFailure} {writes : List WriteAnswer}
    (h : s.writes = .failure f :: writes) :
    s.Accepts ↔ f.kind.isRetry = true ∧ Accepts { s with writes } := by
  unfold Accepts
  rw [h]
  by_cases hretry : f.kind.isRetry = true
  · rw [List.find?_cons_of_neg (by simp [writeRetries, hretry])]
    exact (and_iff_right hretry).symm
  · rw [List.find?_cons_of_pos (by simp [writeRetries, hretry])]
    exact iff_of_false (fun hnot => hnot f rfl) fun hboth => hretry hboth.1

theorem flushFailure_of_nil (h : s.flushes = []) : s.flushFailure = none := by
  unfold flushFailure
  rw [h]
  rfl

theorem flushFailure_of_success {flushes : List (Option IoFailure)}
    (h : s.flushes = none :: flushes) : s.flushFailure = none := by
  unfold flushFailure
  rw [h, List.find?_cons_of_pos rfl]
  rfl

theorem flushFailure_of_failure {f : IoFailure} {flushes : List (Option IoFailure)}
    (h : s.flushes = some f :: flushes) :
    s.flushFailure = if f.kind.isRetry then flushFailure { s with flushes } else some f := by
  unfold flushFailure
  rw [h]
  by_cases hretry : f.kind.isRetry = true
  · rw [if_pos hretry, List.find?_cons_of_neg (by simp [flushRetries, hretry])]
  · rw [if_neg hretry, List.find?_cons_of_pos (by simp [flushRetries, hretry])]
    rfl

end Stream

namespace Transport

variable {σ : Type} {s : Stream}

/-! ## Reading -/

/-- **A read goes on until it is answered**: it finds bytes, or an idle stream. -/
theorem readStream_of_passing {room : Nat} (hroom : 0 < room) (hdata : .data [] ∉ s.reads)
    (hreads : ∀ f, .failure f ∈ s.reads → f.kind.Passing)
    (hanswered : ∃ a ∈ s.reads, Stream.readRetries a = false) :
    (∃ data, (readStream room s).1 = .ok data ∧ data ≠ []) ∨
      ∃ f, (readStream room s).1 = .error f ∧ f.kind.isIdle = true := by
  fun_induction readStream room s with
  | case1 s f reads h hretry ih =>
    refine ih ?_ ?_ ?_
    · exact fun hmem => hdata (h ▸ List.mem_cons_of_mem _ hmem)
    · exact fun g hmem => hreads g (h ▸ List.mem_cons_of_mem _ hmem)
    · obtain ⟨a, hmem, ha⟩ := hanswered
      rw [h] at hmem
      refine ⟨a, (List.mem_cons.1 hmem).resolve_left ?_, ha⟩
      rintro rfl
      exact Bool.false_ne_true (ha.symm.trans hretry)
  | case2 s f reads h hretry =>
    refine .inr ⟨f, ?_, (hreads f (h ▸ List.mem_cons_self)).isIdle (Bool.eq_false_iff.2 hretry)⟩
    unfold Stream.read
    rw [h]
  | case3 s hno =>
    obtain ⟨a, hmem, -⟩ := hanswered
    unfold Stream.read
    split
    · rename_i h
      rw [h] at hmem
      cases hmem
    · rename_i f reads h
      exact absurd h (hno f reads)
    · rename_i bytes reads h
      refine .inl ⟨_, rfl, fun hnil => hdata ?_⟩
      obtain rfl := (List.take_eq_nil_iff.1 hnil).resolve_left (Nat.ne_of_gt hroom)
      exact h ▸ List.mem_cons_self

/-- **Reading never fails.** -/
theorem receive_of_passing {t : Transport σ} (hdata : .data [] ∉ t.stream.reads)
    (hreads : ∀ f, .failure f ∈ t.stream.reads → f.kind.Passing)
    (hanswered : ∃ a ∈ t.stream.reads, Stream.readRetries a = false) :
    ∃ n, t.receive.1 = .ok n := by
  by_cases hroom : t.endpoint.sync.room = 0
  · refine ⟨0, ?_⟩
    unfold receive
    rw [hroom, Nat.zero_min]
    rfl
  have hpos := Nat.pos_of_ne_zero hroom
  rcases readStream_of_passing (span_pos hpos) hdata hreads hanswered with
    ⟨data, hread, hne⟩ | ⟨f, hread, hidle⟩
  · exact ⟨data.length, congrArg Prod.fst (receive_of_data hpos (Prod.ext hread rfl) hne)⟩
  · refine ⟨0, ?_⟩
    rw [receive_of_error hpos (Prod.ext hread rfl), if_pos hidle]

/-! ## Writing and flushing -/

theorem writePending_left (pending : Bytes) (written : Nat) (s : Stream) :
    s.Left (writePending pending written s).2.2 ∧
      (writePending pending written s).2.2.flushes = s.flushes := by
  have hlater : ∀ {a writes}, s.writes = a :: writes → writes <:+ s.writes :=
    fun h => h ▸ List.suffix_cons _ _
  fun_induction writePending pending written s with
  | case1 => exact ⟨⟨rfl, List.suffix_rfl, List.suffix_rfl⟩, rfl⟩
  | case2 pending written s _ h =>
    rw [Stream.write_of_nil h]
    exact ⟨⟨rfl, List.suffix_rfl, List.suffix_rfl⟩, rfl⟩
  | case3 pending written s _ writes h =>
    rw [Stream.write_of_accept h]
    exact ⟨⟨rfl, hlater h, List.suffix_rfl⟩, rfl⟩
  | case4 pending written s _ limit writes h _ ih =>
    rw [Stream.write_of_accept h] at ih ⊢
    obtain ⟨⟨hreads, hwrites, hflushes⟩, hsame⟩ := ih fun h => h ▸ List.suffix_cons _ _
    exact ⟨⟨hreads, hwrites.trans (hlater h), hflushes⟩, hsame⟩
  | case5 pending written s _ f writes h s' _ ih =>
    obtain ⟨⟨hreads, hwrites, hflushes⟩, hsame⟩ := ih fun h => h ▸ List.suffix_cons _ _
    exact ⟨⟨hreads, hwrites.trans (hlater h), hflushes⟩, hsame⟩
  | case6 pending written s _ f writes h s' | case7 pending written s _ f writes h s' =>
    exact ⟨⟨rfl, hlater h, List.suffix_rfl⟩, rfl⟩

/-- **Writing never fails**, and it takes bytes if there are any and the stream takes some. -/
theorem writePending_of_outgoing (pending : Bytes) (written : Nat) (h : s.Outgoing) :
    ∃ n, (writePending pending written s).1 = .ok (written + n) ∧
      (n ≠ 0 ↔ pending ≠ [] ∧ s.Accepts) := by
  fun_induction writePending pending written s with
  | case1 pending written s hempty =>
    obtain rfl := List.isEmpty_iff.1 hempty
    exact ⟨0, rfl, iff_of_false (fun hne => hne rfl) fun hboth => hboth.1 rfl⟩
  | case2 pending written s hempty hwrites =>
    refine ⟨pending.length, rfl, ?_⟩
    rw [and_iff_left (Stream.accepts_of_nil hwrites)]
    exact not_congr List.length_eq_zero_iff
  | case3 pending written s _ writes hwrites =>
    exact absurd (hwrites ▸ List.mem_cons_self) h.accepts
  | case4 pending written s hempty limit writes hwrites hlimit ih =>
    have hne : pending ≠ [] := fun hnil => hempty (List.isEmpty_iff.2 hnil)
    rw [Stream.write_of_accept hwrites] at ih ⊢
    obtain ⟨n, hn, -⟩ := ih (h.left ⟨rfl, hwrites ▸ List.suffix_cons _ _, List.suffix_rfl⟩)
    refine ⟨min limit pending.length + n, by rw [hn, Nat.add_assoc], ?_⟩
    have hpos := List.length_pos_iff.2 hne
    exact iff_of_true (by omega) ⟨hne, Stream.accepts_of_accept hwrites⟩
  | case5 pending written s _ f writes hwrites s' hretry ih =>
    obtain ⟨n, hn, hiff⟩ := ih (h.left ⟨rfl, hwrites ▸ List.suffix_cons _ _, List.suffix_rfl⟩)
    refine ⟨n, hn, ?_⟩
    rw [Stream.accepts_of_failure hwrites, and_iff_right hretry]
    exact hiff
  | case6 pending written s _ f writes hwrites s' hretry =>
    refine ⟨0, rfl, iff_of_false (fun hne => hne rfl) fun hboth => ?_⟩
    exact hretry ((Stream.accepts_of_failure hwrites).1 hboth.2).1
  | case7 pending written s _ f writes hwrites s' hretry hidle =>
    have hpassing := h.writes f (hwrites ▸ List.mem_cons_self)
    exact absurd (hpassing.isIdle (Bool.eq_false_iff.2 hretry)) hidle

theorem flushStream_left (s : Stream) : s.Left (flushStream s).2 := by
  fun_induction flushStream s with
  | case1 s f flushes h s' _ ih =>
    exact ⟨ih.reads, ih.writes, ih.flushes.trans (h ▸ List.suffix_cons _ _)⟩
  | case2 s f flushes h => exact ⟨rfl, List.suffix_rfl, h ▸ List.suffix_cons _ _⟩
  | case3 s _ =>
    unfold Stream.flush
    split
    · exact ⟨rfl, List.suffix_rfl, List.suffix_rfl⟩
    all_goals
      rename_i h
      exact ⟨rfl, List.suffix_rfl, h ▸ List.suffix_cons _ _⟩

/-- **A flush fails on any answer but an interruption**: an idle stream is no exception. -/
theorem flushStream_answer (s : Stream) :
    (flushStream s).1 = s.flushFailure.elim (.ok ()) fun f => .error (.io f) := by
  fun_induction flushStream s with
  | case1 s f flushes h s' hretry ih =>
    rw [Stream.flushFailure_of_failure h, if_pos hretry]
    exact ih
  | case2 s f flushes h s' hretry =>
    rw [Stream.flushFailure_of_failure h, if_neg hretry]
    rfl
  | case3 s hno =>
    rcases h : s.flushes with _ | ⟨_ | f, flushes⟩
    · rw [Stream.flushFailure_of_nil h]
      rfl
    · rw [Stream.flushFailure_of_success h]
      rfl
    · exact absurd h (hno f flushes)

/-! ## A transmission -/

/-- **A transmission snags on a failure**: there are bytes to send, the stream takes some of
them, and its flush comes to the failure. -/
structure Snags (t : Transport σ) (f : IoFailure) : Prop where
  waiting : t.pending ≠ [] ∨ t.endpoint.queue.bytes ≠ []
  accepts : t.stream.Accepts
  flush : t.stream.flushFailure = some f

variable {t : Transport σ}

/-- A transmission offers what is pending, or what is queued. -/
theorem pending_refill_ne_nil (t : Transport σ) :
    t.refill.pending ≠ [] ↔ t.pending ≠ [] ∨ t.endpoint.queue.bytes ≠ [] := by
  unfold refill
  by_cases hempty : t.pending.isEmpty = true
  · rw [if_pos hempty]
    exact (or_iff_right fun hne => hne (List.isEmpty_iff.1 hempty)).symm
  · rw [if_neg hempty]
    have hne : t.pending ≠ [] := fun hnil => hempty (List.isEmpty_iff.2 hnil)
    exact iff_of_true hne (.inl hne)

/-- **A transmission fails where it snags**, and only there. -/
theorem transmit_fails_iff (h : t.stream.Outgoing) (err : LinkError) :
    t.transmit.1 = .error err ↔ ∃ f, err = .io f ∧ t.Snags f := by
  obtain ⟨n, hn, hpos⟩ := writePending_of_outgoing t.refill.pending 0 h
  obtain ⟨-, hflushes⟩ := writePending_left t.refill.pending 0 t.stream
  rw [pending_refill_ne_nil] at hpos
  rcases hwrite : writePending t.refill.pending 0 t.stream with ⟨answer, pending, stream⟩
  rw [hwrite] at hn hflushes
  obtain rfl : answer = .ok n := hn.trans (congrArg Except.ok (Nat.zero_add n))
  by_cases hzero : n = 0
  · obtain rfl := hzero
    rw [transmit_of_write_zero hwrite]
    refine iff_of_false nofun ?_
    rintro ⟨f, -, hsnags⟩
    exact hpos.2 ⟨hsnags.waiting, hsnags.accepts⟩ rfl
  · obtain ⟨hwaiting, haccepts⟩ := hpos.1 hzero
    have hfailure : stream.flushFailure = t.stream.flushFailure := by
      unfold Stream.flushFailure
      rw [hflushes]
    rw [transmit_of_write_pos hzero hwrite, flushStream_answer, hfailure]
    rcases hflush : t.stream.flushFailure with _ | f
    · refine iff_of_false nofun ?_
      rintro ⟨f, -, hsnags⟩
      exact nomatch hflush.symm.trans hsnags.flush
    · constructor
      · intro herr
        exact ⟨f, (Except.error.inj herr).symm, hwaiting, haccepts, hflush⟩
      · rintro ⟨g, rfl, hsnags⟩
        obtain rfl := Option.some.inj (hflush.symm.trans hsnags.flush)
        rfl

theorem transmit_ok_iff (h : t.stream.Outgoing) :
    (∃ n, t.transmit.1 = .ok n) ↔ ∀ f, ¬ t.Snags f := by
  rcases htransmit : t.transmit.1 with err | n
  · obtain ⟨f, -, hsnags⟩ := (transmit_fails_iff h err).1 htransmit
    exact iff_of_false nofun fun hnone => hnone f hsnags
  · refine iff_of_true ⟨n, rfl⟩ fun f hsnags => ?_
    exact nomatch htransmit.symm.trans ((transmit_fails_iff h (.io f)).2 ⟨f, rfl, hsnags⟩)

/-- What a transmission leaves of the stream. -/
theorem transmit_left (t : Transport σ) : t.stream.Left t.transmit.2.stream := by
  obtain ⟨hleft, -⟩ := writePending_left t.refill.pending 0 t.stream
  rcases hwrite : writePending t.refill.pending 0 t.stream with ⟨err | n, pending, stream⟩
  all_goals rw [hwrite] at hleft
  · rw [transmit_of_write_error hwrite]
    exact hleft
  by_cases hzero : n = 0
  · obtain rfl := hzero
    rw [transmit_of_write_zero hwrite]
    exact hleft
  · rw [transmit_of_write_pos hzero hwrite]
    have hflush := flushStream_left stream
    exact ⟨hflush.reads.trans hleft.reads, hflush.writes.trans hleft.writes,
      hflush.flushes.trans hleft.flushes⟩

/-! ## A poll -/

/-- The link as the parse pass of a poll finds it. -/
def heard (t : Transport σ) : Transport σ :=
  t.transmit.2.receive.2

/-- A poll ends with a transmission that fails. -/
theorem poll_of_transmit_error {err : LinkError} (h : t.transmit.1 = .error err) :
    t.poll.1 = .error (.link err) := by
  unfold poll
  rcases htransmit : t.transmit with ⟨err' | n, t'⟩ <;> rw [htransmit] at h <;> cases h
  rfl

/-- Otherwise the parse pass and the transmission after it decide. -/
theorem poll_of_heard {before read : Nat} (hbefore : t.transmit.1 = .ok before)
    (hread : t.transmit.2.receive.1 = .ok read) :
    t.poll.1 = match t.heard.parse.1, t.heard.parse.2.transmit.1 with
      | .error fault, _ => .error (.fault fault)
      | .ok _, .error err => .error (.link err)
      | .ok parse, .ok after => .ok { read, written := before + after, parse } := by
  unfold poll heard
  rcases htransmit : t.transmit with ⟨err | n, t₁⟩ <;> rw [htransmit] at hbefore hread <;>
    cases hbefore
  dsimp only at hread ⊢
  rcases hreceive : t₁.receive with ⟨err | n, t₂⟩ <;> rw [hreceive] at hread <;> cases hread
  dsimp only
  rcases t₂.parse with ⟨fault | parse, t₃⟩
  · rfl
  · dsimp only
    rcases t₃.transmit with ⟨err | after, t₄⟩ <;> rfl

/-- **What a poll hears**, if its first transmission ends well: the read ends well too, and
sending goes on as before. -/
theorem heard_of_passing (h : t.stream.Passing) :
    (∃ read, t.transmit.2.receive.1 = .ok read) ∧ t.heard.parse.2.stream.Outgoing := by
  have hleft := t.transmit_left
  have hsending := h.toOutgoing.left hleft
  refine ⟨receive_of_passing ?_ ?_ ?_, ?_⟩
  · exact hleft.reads ▸ h.data
  · exact hleft.reads ▸ h.reads
  · exact hleft.reads ▸ h.answered
  · obtain ⟨sync, counters, reads, hreceive, -⟩ := t.transmit.2.receive_frame
    show t.heard.stream.Outgoing
    unfold heard
    rw [hreceive]
    exact ⟨hsending.accepts, hsending.writes, hsending.flushes⟩

/-- **When polling such a stream fails.** An error of the link, if there is one, is that of
an idle stream that was asked to flush: before the read, or after the parse pass. Every other
poll whose parse pass meets no fault ends well. -/
theorem poll_fails_iff (h : t.stream.Passing) :
    (∀ err, t.poll.1 = .error (.link err) ↔
      ∃ f, err = .io f ∧ (f.kind = .wouldBlock ∨ f.kind = .timedOut) ∧
        (t.Snags f ∨ (∀ g, ¬ t.Snags g) ∧
          ∃ report, t.heard.parse.1 = .ok report ∧ t.heard.parse.2.Snags f)) ∧
      ((∃ report, t.poll.1 = .ok report) ↔
        (∀ f, ¬ t.Snags f) ∧ (∃ report, t.heard.parse.1 = .ok report) ∧
          ∀ f, ¬ t.heard.parse.2.Snags f) := by
  have hidle : ∀ {u : Transport σ} {f}, u.stream.Outgoing → u.Snags f →
      f.kind = .wouldBlock ∨ f.kind = .timedOut :=
    fun hu hsnags => IoKind.isIdle_iff.1 (hu.isIdle_of_flushFailure hsnags.flush)
  obtain ⟨⟨read, hread⟩, hsending⟩ := heard_of_passing h
  rcases hbefore : t.transmit.1 with err₁ | before
  · -- the first transmission snags
    obtain ⟨f₁, rfl, hsnags⟩ := (transmit_fails_iff h.toOutgoing err₁).1 hbefore
    rw [poll_of_transmit_error hbefore]
    refine ⟨fun err => ⟨fun herr => ?_, ?_⟩, iff_of_false nofun fun hok => hok.1 f₁ hsnags⟩
    · obtain rfl := Halt.link.inj (Except.error.inj herr)
      exact ⟨f₁, rfl, hidle h.toOutgoing hsnags, .inl hsnags⟩
    · rintro ⟨f, rfl, -, hf | ⟨hnone, -⟩⟩
      · rw [Option.some.inj (hsnags.flush.symm.trans hf.flush)]
      · exact absurd hsnags (hnone f₁)
  have hnone := (transmit_ok_iff h.toOutgoing).1 ⟨before, hbefore⟩
  rw [poll_of_heard hbefore hread]
  rcases hparse : t.heard.parse.1 with fault | parse
  · -- the parse pass meets a fault
    refine ⟨fun err => iff_of_false nofun ?_, iff_of_false nofun fun hok => nomatch hok.2.1⟩
    rintro ⟨f, -, -, hf | ⟨-, _, hok, -⟩⟩
    · exact hnone f hf
    · exact nomatch hok
  rcases hafter : t.heard.parse.2.transmit.1 with err₂ | after
  · -- the second transmission snags
    obtain ⟨f₂, rfl, hsnags⟩ := (transmit_fails_iff hsending err₂).1 hafter
    refine ⟨fun err => ⟨fun herr => ?_, ?_⟩, iff_of_false nofun fun hok => hok.2.2 f₂ hsnags⟩
    · obtain rfl := Halt.link.inj (Except.error.inj herr)
      exact ⟨f₂, rfl, hidle hsending hsnags, .inr ⟨hnone, parse, rfl, hsnags⟩⟩
    · rintro ⟨f, rfl, -, hf | ⟨-, _, -, hf⟩⟩
      · exact absurd hf (hnone f)
      · rw [Option.some.inj (hsnags.flush.symm.trans hf.flush)]
  · -- nothing snags
    have hnone' := (transmit_ok_iff hsending).1 ⟨after, hafter⟩
    refine ⟨fun err => iff_of_false nofun ?_, iff_of_true ⟨_, rfl⟩ ⟨hnone, ⟨parse, rfl⟩, hnone'⟩⟩
    rintro ⟨f, -, -, hf | ⟨-, _, -, hf⟩⟩
    · exact hnone f hf
    · exact hnone' f hf

/-- The stream has nothing to read and is not ready to flush. A poll that has nothing to send
ends well, and one that sends a frame does not. -/
theorem poll_fails_iff_idle_flush :
    let t : Transport Unit :=
      { endpoint := .new {}
        state := ()
        stream :=
          { reads := [.failure ⟨.timedOut, "nothing"⟩]
            flushes := [some ⟨.interrupted, "again"⟩, some ⟨.wouldBlock, "later"⟩] } }
    let busy := { t with endpoint := (t.endpoint.enqueue ⟨1, 1⟩ [7]).2 }
    t.stream.Passing ∧ (∃ report, t.poll.1 = .ok report) ∧
      busy.poll.1 = .error (.link (.io ⟨.wouldBlock, "later"⟩)) := by
  intro t busy
  have hpassing : t.stream.Passing := by
    refine { accepts := nofun, writes := nofun, flushes := ?_, data := nofun, reads := ?_,
             answered := ?_ }
    · rintro f (_ | ⟨_, _ | ⟨_, hnil⟩⟩)
      · exact .inl rfl
      · exact .inr (.inl rfl)
      · cases hnil
    · rintro f (_ | ⟨_, hnil⟩)
      · exact .inr (.inr rfl)
      · cases hnil
    · exact ⟨_, List.mem_cons_self, rfl⟩
  have hidle : ∀ {u : Transport Unit}, u.pending = [] → u.endpoint.queue.bytes = [] →
      ∀ f, ¬ u.Snags f :=
    fun hpending hqueue f hsnags => hsnags.waiting.elim (· hpending) (· hqueue)
  have hparse : ∃ report, t.heard.parse.1 = .ok report := by
    have hok : t.heard.parse.1.isOk = true := by decide +kernel
    rcases hanswer : t.heard.parse.1 with fault | report
    · rw [hanswer] at hok
      cases hok
    · exact ⟨report, rfl⟩
  refine ⟨hpassing, ?_, ?_⟩
  · exact (poll_fails_iff hpassing).2.2
      ⟨hidle rfl rfl, hparse, hidle (by decide +kernel) (by decide +kernel)⟩
  · refine ((poll_fails_iff (t := busy) hpassing).1 _).2 ⟨_, rfl, .inl rfl, .inl ⟨?_, ?_, ?_⟩⟩
    · exact .inr (by decide +kernel)
    · exact Stream.accepts_of_nil rfl
    · rfl

end Transport

end ServoLink
