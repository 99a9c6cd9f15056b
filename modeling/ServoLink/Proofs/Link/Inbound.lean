import ServoLink.Proofs.Link.Ledger
import ServoLink.Proofs.Link.Observer

/-!
# The books of the receive side

What an endpoint counts on its receive side adds up, over any history of calls in
which no callback raises a fault. Every byte received was a byte of a frame, was
dropped, or is still held; every frame found was delivered or failed, and its tap
was told of it once (`Ledger.receive_balanced`). The counters, the reports of the
parse passes and the buffer are kept in different places and changed on different
ways; `Ledger.Balanced` ties them to what the synchronizer reported.
-/

namespace ServoLink

namespace Endpoint

variable {σ : Type}

namespace Ledger

variable {t : Ledger σ} {log : σ → List Notice}

/-- **The receive side is balanced**: what the endpoint holds and counts is what
the synchronizer reported. -/
structure Balanced (t : Ledger σ) : Prop where
  aligned : t.endpoint.sync.Aligned
  received : t.accepted.length = Synchronizer.consumed t.events + t.endpoint.sync.buffered
  runs : Synchronizer.newRuns t.events + t.endpoint.sync.closedRuns ≤ t.extracted.length + 1
  found : (t.reports.map (·.frames)).sum = t.extracted.length
  discarded : (t.reports.map (·.discarded)).sum = Synchronizer.dropped t.events
  bytesReceived : t.endpoint.counters.bytesReceived = Counter.bump 0 t.accepted.length
  outcomes : ∃ delivered failed, delivered + failed = t.extracted.length ∧
    t.endpoint.counters.success = Counter.bump 0 delivered ∧
    t.endpoint.counters.decodeErrors = Counter.bump 0 failed
  transportErrors :
    t.endpoint.counters.transportErrors = Counter.bump 0 (Synchronizer.newRuns t.events)

/-- A fresh endpoint is balanced. -/
theorem balanced_new (config : LinkConfig) (state : σ) :
    Balanced ({ endpoint := .new config, state } : Ledger σ) :=
  ⟨trivial, rfl, Nat.le_refl 1, rfl, rfl, rfl, ⟨0, 0, rfl, rfl, rfl⟩, rfl⟩

/-- Every frame found is eight bytes or more of those received. -/
theorem Balanced.extracted_le (h : t.Balanced) : 8 * t.extracted.length ≤ t.accepted.length := by
  have hframes := Synchronizer.headerSize_mul_le t.events
  rw [h.received]
  unfold Synchronizer.consumed extracted
  unfold headerSize at hframes
  omega

/-- **Every frame found is counted once.** -/
theorem Balanced.counted (h : t.Balanced) (hroom : t.accepted.length ≤ Counter.limit) :
    t.endpoint.counters.success.val + t.endpoint.counters.decodeErrors.val
      = t.extracted.length := by
  have hle := h.extracted_le
  obtain ⟨delivered, failed, hsum, hsuccess, hfailed⟩ := h.outcomes
  rw [hsuccess, hfailed, Counter.val_bump_zero (by omega), Counter.val_bump_zero (by omega), hsum]

/-- Every run of garbage is counted once. -/
theorem Balanced.counted_runs (h : t.Balanced) (hroom : t.accepted.length ≤ Counter.limit) :
    t.endpoint.counters.transportErrors.val = Synchronizer.newRuns t.events := by
  have hle := h.extracted_le
  have hruns := h.runs
  have hone : 1 ≤ Counter.limit := by decide
  rw [h.transportErrors, Counter.val_bump_zero (by omega)]

/-- Queueing a frame keeps the balance. -/
theorem Balanced.enqueueFrame (h : t.Balanced) (f : Frame) (taken : List Frame) :
    Balanced { t with endpoint := (t.endpoint.enqueueFrame f).2, taken } := by
  obtain ⟨_, _, _, _, hqueued⟩ := t.endpoint.enqueueFrame_intake f
  rw [hqueued]
  exact { h with }

/-- A push keeps the balance, whether it is taken or not. -/
theorem Balanced.push (h : t.Balanced) (data : Bytes) : (t.step (.push data)).Balanced := by
  unfold Ledger.step accepts
  dsimp only
  rcases t.endpoint.push_cases data with hpush | ⟨err, hpush⟩ <;> rw [hpush]
  · refine { h with aligned := h.aligned.append data, received := ?_, bytesReceived := ?_ }
    · have hreceived := h.received
      unfold Synchronizer.buffered at hreceived
      show (t.accepted ++ data).length
        = Synchronizer.consumed t.events + (t.endpoint.sync.buffer ++ data).length
      rw [List.length_append, List.length_append, hreceived, Nat.add_assoc]
    · show t.endpoint.counters.bytesReceived.bump data.length
        = Counter.bump 0 (t.accepted ++ data).length
      rw [h.bytesReceived, Counter.bump_bump, List.length_append]
  · dsimp only
    rw [List.append_nil]
    exact { h with }

/-- **A parse pass that comes to rest keeps the balance.** -/
theorem Balanced.parse (h : t.Balanced) {report : ParseReport} {e' : Endpoint σ} {s' : σ}
    (hparse : t.endpoint.parse t.state = (.ok report, e', s')) : (t.step .parse).Balanced := by
  obtain ⟨hpass, hsync⟩ := pass_of_parse hparse
  have hyields := h.aligned.yields_pollAll
  have htally := hpass.tallied (tallied_start t.endpoint.counters) rfl
  rw [List.nil_append] at htally
  rw [hsync] at hyields
  rw [step_parse_of_ok hparse]
  generalize t.endpoint.sync.pollAll.1 = events at hyields htally
  have hextracted : (Synchronizer.frames (t.events ++ events)).length
      = t.extracted.length + report.frames := by
    rw [Synchronizer.frames_append, List.length_append, htally.frames]
    rfl
  obtain ⟨delivered, failed, hsum, hsuccess, hfailed⟩ := h.outcomes
  refine ⟨hyields.aligned, ?received, ?runs, ?found, ?discarded, ?bytesReceived, ?outcomes,
    ?transportErrors⟩
  case received =>
    show t.accepted.length = Synchronizer.consumed (t.events ++ events) + e'.sync.buffered
    rw [h.received, hyields.buffered, Synchronizer.consumed_append, Nat.add_assoc]
  case runs =>
    have hbefore := h.runs
    have hafter := hyields.runs
    show Synchronizer.newRuns (t.events ++ events) + e'.sync.closedRuns
      ≤ (Synchronizer.frames (t.events ++ events)).length + 1
    rw [hextracted, htally.frames, Synchronizer.newRuns_append]
    omega
  case found =>
    show ((t.reports ++ [report]).map (·.frames)).sum = _
    rw [List.map_append, List.sum_append, h.found]
    exact hextracted.symm
  case discarded =>
    show ((t.reports ++ [report]).map (·.discarded)).sum = Synchronizer.dropped (t.events ++ events)
    rw [List.map_append, List.sum_append, h.discarded, Synchronizer.dropped_append,
      ← htally.discarded]
    rfl
  case bytesReceived =>
    exact htally.bytesReceived.trans h.bytesReceived
  case outcomes =>
    refine ⟨delivered + report.delivered, failed + report.decodeErrors, ?_, ?_, ?_⟩
    · have houtcomes := htally.outcomes
      show _ = (Synchronizer.frames (t.events ++ events)).length
      rw [hextracted]
      omega
    · rw [← Counter.bump_bump, ← hsuccess]
      exact htally.success
    · rw [← Counter.bump_bump, ← hfailed]
      exact htally.decodeErrors
  case transportErrors =>
    show e'.counters.transportErrors = Counter.bump 0 (Synchronizer.newRuns (t.events ++ events))
    rw [htally.transportErrors, h.transportErrors, Counter.bump_bump, htally.runs,
      Synchronizer.newRuns_append]

/-- **Every call keeps the balance**, unless a callback raises a fault. -/
theorem Balanced.step (h : t.Balanced) (call : Call σ) (hquiet : (t.step call).faults = []) :
    (t.step call).Balanced := by
  cases call with
  | push data => exact h.push data
  | parse =>
    obtain ⟨report, e', s', hparse⟩ := exists_report hquiet
    exact h.parse hparse
  | register | registerWildcard | registerRemaining | onDispatch | touch | drain =>
    exact { h with }
  | enqueue k payload => exact h.enqueueFrame (.forKey k payload) _
  | enqueueFrame f => exact h.enqueueFrame f _
  | request k => exact h.enqueueFrame (.forKey k []) _

/-- **Every history without a fault is balanced.** -/
theorem balanced_run (config : LinkConfig) (state : σ) (calls : List (Call σ))
    (hquiet : (run config state calls).faults = []) : (run config state calls).Balanced := by
  revert hquiet
  exact List.foldlRecOn calls step (motive := fun t => t.faults = [] → t.Balanced)
    (fun _ => balanced_new config state)
    fun t hbefore call _ hquiet => (hbefore (faults_of_step hquiet)).step call hquiet

/-! ## The tap -/

/-- A call that leaves the log to the tap. -/
def Call.Spares (log : σ → List Notice) : Call σ → Prop
  | .register _ h => h.Spares log
  | .onDispatch tap => Tap.Logs tap log
  | .touch change => ∀ s, log (change s) = log s
  | _ => True

/-- Such a call sets no handler that touches the log, and no tap that does not
write there. -/
theorem attuned_step (h : Attuned log t.endpoint) {call : Call σ} (hcall : call.Spares log) :
    Attuned log (t.step call).endpoint := by
  cases call with
  | push data => exact h.congr (t.endpoint.push_set data)
  | parse => exact h.congr (persists_set.parse t.endpoint t.state)
  | register k handler =>
    refine ⟨fun k' handler' hslot => ?_, h.tap⟩
    change (if k' = k then Slot.handler handler else t.endpoint.registry.slot k') = _ at hslot
    split at hslot
    · obtain rfl := Slot.handler.inj hslot
      exact hcall
    · exact h.handlers k' handler' hslot
  | registerWildcard k =>
    refine ⟨fun k' handler' hslot => ?_, h.tap⟩
    change (if k' = k then Slot.wildcard else t.endpoint.registry.slot k') = _ at hslot
    split at hslot
    · cases hslot
    · exact h.handlers k' handler' hslot
  | registerRemaining =>
    refine ⟨fun k' handler' hslot => ?_, h.tap⟩
    change t.endpoint.registry.registerRemaining.2.slot k' = _ at hslot
    unfold Registry.registerRemaining at hslot
    dsimp only at hslot
    split at hslot
    · cases hslot
    · exact h.handlers k' handler' hslot
  | onDispatch tap =>
    refine ⟨h.handlers, fun tap' hset => ?_⟩
    obtain rfl := Option.some.inj hset
    exact hcall
  | enqueue | enqueueFrame | request => exact h.congr (persists_set.onEnqueue _ _)
  | drain | touch => exact ⟨h.handlers, h.tap⟩

/-- **The log is that of the frames observed.** -/
def Followed (log : σ → List Notice) (before : List (Frame × Nat)) (t : Ledger σ) : Prop :=
  (log t.state).map Notice.entry = before ++ t.observed

/-- **In a parse pass the tap is told of every frame found**, each with its number
among all frames. -/
theorem Balanced.followed_parse (h : t.Balanced) (ha : Attuned log t.endpoint)
    {before : List (Frame × Nat)} (hlog : t.Followed log before) {report : ParseReport}
    {e' : Endpoint σ} {s' : σ} (hparse : t.endpoint.parse t.state = (.ok report, e', s'))
    (hroom : t.accepted.length ≤ Counter.limit) : (t.step .parse).Followed log before := by
  have hcounted := h.counted hroom
  have hafter := (h.parse hparse).extracted_le
  obtain ⟨hpass, -⟩ := pass_of_parse hparse
  rw [step_parse_of_ok hparse] at hafter ⊢
  have hfound : 8 * (Synchronizer.frames (t.events ++ t.endpoint.sync.pollAll.1)).length
      ≤ t.accepted.length := hafter
  rw [Synchronizer.frames_append, List.length_append] at hfound
  have hfits : t.endpoint.counters.success.val + t.endpoint.counters.decodeErrors.val
      + (Synchronizer.frames ([] ++ t.endpoint.sync.pollAll.1)).length ≤ Counter.limit := by
    rw [hcounted, List.nil_append]
    unfold extracted
    omega
  have hlogged := hpass.logged rfl ha (tallied_start t.endpoint.counters) hfits
  show (log s').map Notice.entry = before ++ (t.observed ++ t.observes)
  rw [hlogged, show (log t.state).map Notice.entry = _ from hlog, List.append_assoc]
  unfold observes enumerated
  rw [hcounted]
  rfl

/-- **Every call keeps the log**, unless a callback raises a fault. -/
theorem Balanced.followed_step (h : t.Balanced) (ha : Attuned log t.endpoint)
    {before : List (Frame × Nat)} (hlog : t.Followed log before) {call : Call σ}
    (hcall : call.Spares log) (hquiet : (t.step call).faults = [])
    (hroom : t.accepted.length ≤ Counter.limit) : (t.step call).Followed log before := by
  cases call with
  | parse =>
    obtain ⟨report, e', s', hparse⟩ := exists_report hquiet
    exact h.followed_parse ha hlog hparse hroom
  | touch change =>
    show (log (change t.state)).map Notice.entry = before ++ t.observed
    rw [show log (change t.state) = log t.state from hcall t.state]
    exact hlog
  | _ => exact hlog

/-- **The tap is told of the frames observed**, in every history without a
fault. -/
theorem followed_run (config : LinkConfig) (state : σ) {calls : List (Call σ)}
    (hcalls : ∀ call ∈ calls, call.Spares log)
    (hquiet : (run config state calls).faults = [])
    (hroom : (run config state calls).accepted.length ≤ Counter.limit) :
    (run config state calls).Followed log ((log state).map Notice.entry) := by
  let motive (t : Ledger σ) : Prop := Attuned log t.endpoint ∧
    (t.faults = [] → t.accepted.length ≤ Counter.limit →
      t.Balanced ∧ t.Followed log ((log state).map Notice.entry))
  have hrun : motive (run config state calls) := by
    refine List.foldlRecOn calls step (motive := motive) ⟨attuned_new log config, fun _ _ => ?_⟩ ?_
    · exact ⟨balanced_new config state, (List.append_nil _).symm⟩
    · rintro t ⟨ha, hbefore⟩ call hmem
      refine ⟨attuned_step ha (hcalls call hmem), fun hquiet hroom => ?_⟩
      have hle := Nat.le_trans (t.accepted_prefix_step call).length_le hroom
      obtain ⟨hbalanced, hlog⟩ := hbefore (faults_of_step hquiet) hle
      exact ⟨hbalanced.step call hquiet,
        hbalanced.followed_step ha hlog (hcalls call hmem) hquiet hle⟩
  exact (hrun.2 hquiet hroom).2

/-- Once a tap is set there is one. -/
theorem tap_step (h : t.endpoint.tap.isSome) (call : Call σ) :
    (t.step call).endpoint.tap.isSome := by
  cases call with
  | push data => exact (congrArg Option.isSome (t.endpoint.push_set data).2).trans h
  | parse =>
    exact (congrArg Option.isSome (persists_set.parse t.endpoint t.state).2).trans h
  | onDispatch tap => rfl
  | enqueue | enqueueFrame | request =>
    exact (congrArg Option.isSome (persists_set.onEnqueue t.endpoint _).2).trans h
  | _ => exact h

/-- While a tap is set no frame goes unobserved. -/
theorem observed_step (h : t.endpoint.tap.isSome) (hall : t.observed = t.extracted.zipIdx 1)
    (call : Call σ) : (t.step call).observed = (t.step call).extracted.zipIdx 1 := by
  cases call with
  | parse =>
    rcases hparse : t.endpoint.parse t.state with ⟨fault | report, e', s'⟩
    · rw [step_parse_of_error hparse]
      exact hall
    · rw [step_parse_of_ok hparse]
      show t.observed ++ t.observes
        = (Synchronizer.frames (t.events ++ t.endpoint.sync.pollAll.1)).zipIdx 1
      rw [hall, Synchronizer.frames_append, List.zipIdx_append, Nat.add_comm 1]
      unfold observes
      rw [if_pos h]
      rfl
  | _ => exact hall

/-- **A tap that is set at the start observes every frame.** -/
theorem observed_of_tap (config : LinkConfig) (state : σ) (tap : Tap σ) (calls : List (Call σ)) :
    (run config state (.onDispatch tap :: calls)).observed
      = (run config state (.onDispatch tap :: calls)).extracted.zipIdx 1 := by
  let start : Ledger σ := { endpoint := (new config).onDispatch tap, state }
  have hrun : (calls.foldl step start).endpoint.tap.isSome ∧
      (calls.foldl step start).observed = (calls.foldl step start).extracted.zipIdx 1 :=
    List.foldlRecOn calls step
      (motive := fun t => t.endpoint.tap.isSome ∧ t.observed = t.extracted.zipIdx 1) ⟨rfl, rfl⟩
      fun t h call _ => ⟨tap_step h.1 call, observed_step h.1 h.2 call⟩
  exact hrun.2

/-! ## The books -/

/-- **The books of one parse pass**: its report agrees with what the counters have
risen by. -/
structure PassBalanced (n : Counters) (found : List Frame) (report : ParseReport)
    (n' : Counters) : Prop where
  frames : report.frames = found.length
  outcomes : report.frames = report.delivered + report.decodeErrors
  replies : report.replies ≤ report.delivered
  success : n'.success.val = n.success.val + report.delivered
  decodeErrors : n'.decodeErrors.val = n.decodeErrors.val + report.decodeErrors
  transportErrors : n'.transportErrors.val = n.transportErrors.val + report.transportErrors

/-- The books of a parse pass, as long as no counter is full. -/
theorem Balanced.pass (h : t.Balanced) (hroom : t.accepted.length ≤ Counter.limit)
    {report : ParseReport} {e' : Endpoint σ} {s' : σ}
    (hparse : t.endpoint.parse t.state = (.ok report, e', s')) :
    PassBalanced t.endpoint.counters (Synchronizer.frames t.endpoint.sync.pollAll.1) report
      e'.counters := by
  have hcounted := h.counted hroom
  have hruns := h.counted_runs hroom
  have hafter := h.parse hparse
  obtain ⟨hpass, -⟩ := pass_of_parse hparse
  have htally := hpass.tallied (tallied_start t.endpoint.counters) rfl
  rw [List.nil_append] at htally
  rw [step_parse_of_ok hparse] at hafter
  -- the frames and the runs of all passes, this one included, can still be counted
  have hfound := hafter.extracted_le
  have hopened := hafter.runs
  unfold extracted at hfound hopened hcounted
  dsimp only at hfound hopened
  rw [Synchronizer.frames_append, List.length_append, ← htally.frames] at hfound hopened
  rw [Synchronizer.newRuns_append, ← htally.runs] at hopened
  have houtcomes := htally.outcomes
  have hone : 1 ≤ Counter.limit := by decide
  refine ⟨htally.frames, houtcomes, htally.replies, ?_, ?_, ?_⟩
  · rw [htally.success, Counter.val_bump_of_le]
    omega
  · rw [htally.decodeErrors, Counter.val_bump_of_le]
    omega
  · rw [htally.transportErrors, Counter.val_bump_of_le]
    omega

/-- **The books of the receive side add up**, for every history in which no
callback raises a fault and no more bytes come in than can be counted.

The bytes received are those of the frames found, those dropped and those held;
every frame found was delivered or failed; and there is at most one run of garbage
more than there are frames. A push that is refused is counted and changes nothing
else. The report of a parse pass agrees with what the counters have risen by. The
tap is told of every frame found while it was set, once and in order, each time
with counters that have just counted that frame. And no counter falls. -/
theorem receive_balanced (config : LinkConfig) (state : σ) (calls : List (Call σ))
    (hquiet : (run config state calls).faults = [])
    (hroom : (run config state calls).accepted.length ≤ Counter.limit) :
    let t := run config state calls
    let n := t.endpoint.counters
    n.bytesReceived.val = (t.extracted.map Frame.wireSize).sum
        + (t.reports.map (·.discarded)).sum + t.endpoint.sync.buffered ∧
      (t.reports.map (·.frames)).sum = t.extracted.length ∧
      n.success.val + n.decodeErrors.val = t.extracted.length ∧
      n.transportErrors.val ≤ n.success.val + n.decodeErrors.val + 1 ∧
      (∀ data err e', t.endpoint.push data = (.error err, e') →
        e' = { t.endpoint with
          counters := { n with receiveOverflow := n.receiveOverflow.bump 1 } }) ∧
      (∀ report e' s', t.endpoint.parse t.state = (.ok report, e', s') →
        PassBalanced n (Synchronizer.frames t.endpoint.sync.pollAll.1) report e'.counters) ∧
      (∀ log : σ → List Notice, (∀ call ∈ calls, call.Spares log) →
        (log t.state).map Notice.entry = (log state).map Notice.entry ++ t.observed) ∧
      (∀ tap later, calls = .onDispatch tap :: later → t.observed = t.extracted.zipIdx 1) ∧
      ∀ call, n.Rise (t.step call).endpoint.counters := by
  intro t n
  have hbalanced : t.Balanced := balanced_run config state calls hquiet
  have hcounted : n.success.val + n.decodeErrors.val = t.extracted.length :=
    hbalanced.counted hroom
  refine ⟨?received, hbalanced.found, hcounted, ?runs, ?push,
    fun report e' s' hparse => hbalanced.pass hroom hparse,
    fun log hcalls => followed_run config state hcalls hquiet hroom, ?observed, t.counters_step⟩
  case received =>
    have hbytes : n.bytesReceived.val = t.accepted.length := by
      rw [show n.bytesReceived = _ from hbalanced.bytesReceived, Counter.val_bump_zero hroom]
    rw [hbytes, hbalanced.received, hbalanced.discarded]
    rfl
  case runs =>
    have hopened := hbalanced.runs
    rw [show n.transportErrors.val = _ from hbalanced.counted_runs hroom]
    omega
  case push =>
    intro data err e' hpush
    rcases t.endpoint.push_cases data with htaken | ⟨err', hrefused⟩
    · rw [htaken] at hpush
      cases hpush
    · rw [hrefused] at hpush
      cases hpush
      rfl
  case observed =>
    rintro tap later rfl
    exact observed_of_tap config state tap later

/-- The books at work: noise, a frame that is delivered and one that nobody takes,
all of which the tap is told of. -/
theorem receive_balanced_told :
    let f : Frame := { component := 1, data := 2, payload := [7] }
    let g : Frame := { seq := 1, component := 3, data := 4 }
    let tap : Tap (List Notice) := fun f d n log => (none, log ++ [⟨f, d, n⟩])
    let calls : List (Call (List Notice)) :=
      [.onDispatch tap, .registerWildcard ⟨1, 2⟩, .push (7 :: f.wire {} ++ g.wire {}), .parse]
    let t := run {} [] calls
    let n := t.endpoint.counters
    t.faults = [] ∧ t.accepted.length ≤ Counter.limit ∧ n.bytesReceived.val = 9 + 8 + 1 + 0 ∧
      n.success.val + n.decodeErrors.val = 2 ∧ t.state.map Notice.entry = [(f, 1), (g, 2)] := by
  intro f g tap calls t n
  obtain ⟨hquiet, hroom, hextracted, hdropped, hrest⟩ : t.faults = [] ∧
      t.accepted.length ≤ Counter.limit ∧ t.extracted = [f, g] ∧
      (t.reports.map (·.discarded)).sum = 1 ∧ t.endpoint.sync.buffered = 0 := by
    decide +kernel
  have hspares : ∀ call ∈ calls, call.Spares (id : List Notice → List Notice) := by
    intro call hmem
    simp only [calls, List.mem_cons, List.not_mem_nil, or_false] at hmem
    rcases hmem with rfl | rfl | rfl | rfl
    · exact fun _ _ _ _ => rfl
    all_goals trivial
  obtain ⟨hbytes, -, hcounted, -, -, -, hlog, hobserved, -⟩ :=
    receive_balanced {} [] calls hquiet hroom
  refine ⟨hquiet, hroom, ?_, ?_, ?_⟩
  · rw [show n.bytesReceived.val = _ from hbytes]
    show (t.extracted.map _).sum + (t.reports.map _).sum + t.endpoint.sync.buffered = _
    rw [hextracted, hdropped, hrest]
    rfl
  · rw [show n.success.val + n.decodeErrors.val = _ from hcounted]
    show t.extracted.length = 2
    rw [hextracted]
    rfl
  · have htold : t.state.map Notice.entry = t.observed := hlog id hspares
    rw [htold, show t.observed = _ from hobserved tap _ rfl]
    show t.extracted.zipIdx 1 = _
    rw [hextracted]
    rfl

end Ledger

end Endpoint

end ServoLink
