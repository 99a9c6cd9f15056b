import Mathlib.Logic.Function.Iterate
import ServoLink.Proofs.Link.Cuts
import ServoLink.Proofs.Link.Hearing

/-!
# Going on after a fault

A `Recovery` is a history of one endpoint whose callbacks may raise faults: bytes are
pushed, a parse pass is made, or passes are made until one of them completes
(`Recovery.settle`). It keeps the turns of all passes. At any moment, whatever has been
cut short by then, the account is right (`Recovery.Account`): the frames that had their
turn and those that a scan still finds in the buffer are the frames of the stream, in
order; and every turn was counted for what became of it, or not at all if its handler
raised a fault.

After a fault the next pass goes on with the next report, so passes that are made until
one completes leave the receive side as one pass without faults does
(`Recovery.sync_settle`). Therefore two endpoints that are handed the same bytes, and
whose passes are always completed, note the same runs of garbage and the same gaps,
whatever their callbacks do (`Recovery.lockstep_run`).
-/

namespace ServoLink

open Registry

namespace Endpoint

variable {σ τ : Type}

/-- What is done to an endpoint whose callbacks may raise faults. -/
inductive Recovery.Move where
  /-- Received bytes are pushed. -/
  | push (data : Bytes)
  /-- One parse pass is made. -/
  | pass
  /-- Parse passes are made until one of them completes. -/
  | settle

/-- A history of pushes and parse passes, with the turns of all passes. -/
structure Recovery (σ : Type) extends Reception σ where
  /-- The turns of all passes, in order. -/
  turns : List (Turn σ) := []

namespace Recovery

/-- What a parse pass comes to now. -/
def answer (t : Recovery σ) : Except Fault ParseReport :=
  (t.endpoint.parse t.state).1

/-- One parse pass. -/
def pass (t : Recovery σ) : Recovery σ where
  toReception := t.toReception.step .parse
  turns := t.turns ++ t.endpoint.course {} t.state

/-- **A fault cannot recur for ever**: a pass that it ends has taken something from the
buffer. -/
theorem shrinks_pass {t : Recovery σ} {fault : Fault} (h : t.answer = .error fault) :
    t.pass.endpoint.sync.buffer.length < t.endpoint.sync.buffer.length := by
  obtain ⟨events, hpass⟩ := t.endpoint.exists_pass {} t.state
  exact hpass.shrinks h

/-- Parse passes until one of them completes. -/
def settle (t : Recovery σ) : Recovery σ :=
  match _h : t.answer with
  | .ok _ => t.pass
  | .error _ => t.pass.settle
termination_by t.endpoint.sync.buffer.length
decreasing_by exact shrinks_pass _h

/-- One move. -/
def step (t : Recovery σ) : Move → Recovery σ
  | .push data => { t with toReception := t.toReception.step (.push data) }
  | .pass => t.pass
  | .settle => t.settle

/-- The history that begins with an endpoint. -/
def start (e : Endpoint σ) (s : σ) : Recovery σ :=
  { endpoint := e, state := s }

/-- A history of moves. -/
def run (e : Endpoint σ) (s : σ) (moves : List Move) : Recovery σ :=
  moves.foldl step (start e s)

variable {t : Recovery σ} {u : Recovery τ} {e : Endpoint σ} {s : σ} {c : FrameConfig}
  {report : ParseReport} {fault : Fault}

/-! ## Pushes -/

/-- A push that is taken adds its bytes. -/
theorem step_push_of_ok {e' : Endpoint σ} {data : Bytes} (h : t.endpoint.push data = (.ok (), e')) :
    t.step (.push data) = { t with endpoint := e', accepted := t.accepted ++ data } := by
  simp only [step, Reception.step, h]

/-- A push that is refused adds none. -/
theorem step_push_of_error {e' : Endpoint σ} {data : Bytes} {err : LinkError}
    (h : t.endpoint.push data = (.error err, e')) :
    t.step (.push data) = { t with endpoint := e' } := by
  simp only [step, Reception.step, h]

/-- Whether a push is taken is a matter of the receive side alone. -/
theorem step_push (t : Recovery σ) (data : Bytes) :
    (t.step (.push data)).endpoint.sync = (t.endpoint.sync.push data).2 ∧
      (t.step (.push data)).accepted
        = t.accepted ++ if data.length > t.endpoint.sync.room then [] else data := by
  by_cases hbig : data.length > t.endpoint.sync.room
  · have hsync : t.endpoint.sync.push data = (.error _, t.endpoint.sync) := if_pos hbig
    have hp : t.endpoint.push data = (.error (.receiveOverflow data.length t.endpoint.sync.room),
        t.endpoint.count fun n => { n with receiveOverflow := n.receiveOverflow.bump 1 }) := by
      unfold Endpoint.push
      rw [hsync]
    rw [step_push_of_error hp, hsync, if_pos hbig, List.append_nil]
    exact ⟨rfl, rfl⟩
  · have hp := t.endpoint.push_of_le_room data (Nat.not_lt.1 hbig)
    rw [step_push_of_ok hp, Synchronizer.push_of_le_room (Nat.not_lt.1 hbig), if_neg hbig]
    exact ⟨rfl, rfl⟩

/-! ## Passes until one completes -/

/-- **Passes are made until one completes**: each of those before was ended by a fault. -/
theorem settle_eq (t : Recovery σ) :
    ∃ n report, t.settle = pass^[n + 1] t ∧ (pass^[n] t).answer = .ok report ∧
      ∀ i < n, ∃ fault, (pass^[i] t).answer = .error fault := by
  induction t using settle.induct with
  | case1 t report h =>
    refine ⟨0, report, ?_, h, fun i hi => absurd hi (Nat.not_lt_zero i)⟩
    rw [settle]
    split
    · rfl
    · rename_i hfault
      cases h.symm.trans hfault
  | case2 t fault h ih =>
    obtain ⟨n, report, hsettle, hanswer, hbefore⟩ := ih
    refine ⟨n + 1, report, ?_, hanswer, fun i hi => ?_⟩
    · rw [settle]
      split
      · rename_i hok
        cases h.symm.trans hok
      · exact hsettle
    · cases i with
      | zero => exact ⟨fault, h⟩
      | succ i => exact hbefore i (Nat.lt_of_succ_lt_succ hi)

/-- Passes take in no bytes. -/
theorem accepted_iterate (n : Nat) (t : Recovery σ) : (pass^[n] t).accepted = t.accepted := by
  induction n generalizing t with
  | zero => rfl
  | succ n ih => exact ih t.pass

theorem accepted_settle (t : Recovery σ) : t.settle.accepted = t.accepted := by
  obtain ⟨n, report, hsettle, -, -⟩ := t.settle_eq
  rw [hsettle]
  exact accepted_iterate (n + 1) t

/-- **Passes until one completes poll the synchronizer to the end**, whatever faults there
are on the way. -/
theorem sync_settle (t : Recovery σ) :
    t.settle.endpoint.sync = t.endpoint.sync.pollAll.2 := by
  obtain ⟨n, report, hsettle, hanswer, hbefore⟩ := t.settle_eq
  rw [hsettle]
  clear hsettle
  induction n generalizing t with
  | zero =>
    obtain ⟨events, hpass⟩ := t.endpoint.exists_pass {} t.state
    exact (congrArg Prod.snd (hpass.pollAll hanswer)).symm
  | succ n ih =>
    obtain ⟨fault, hfault⟩ := hbefore 0 (Nat.succ_pos n)
    obtain ⟨events, hpass⟩ := t.endpoint.exists_pass {} t.state
    rw [hpass.pollAll_of_fault hfault]
    exact ih t.pass hanswer fun i hi => hbefore (i + 1) (Nat.succ_lt_succ hi)

/-! ## The account -/

/-- **The account of a history** that began with a fresh receive side: what was reported
agrees with a scan of the bytes taken in, the frames reported are those that had their
turn, and the turns have done and counted what they come to. -/
structure Account (c : FrameConfig) (e : Endpoint σ) (s : σ) (t : Recovery σ) : Prop where
  reads : ∃ events, t.endpoint.sync.Reads c t.accepted events ∧ Noted events t.endpoint ∧
    Synchronizer.frames events = t.turns.map (·.frame)
  ran : Ran e t.turns t.endpoint
  acted : Acted e.registry.slot e.tap s t.turns t.state

/-- The frames that had their turn are those found. -/
theorem Account.tracks (h : Account c e s t) :
    Tracks c t.accepted (t.turns.map (·.frame)) t.endpoint :=
  h.reads

/-- A push keeps it right. -/
theorem Account.push (h : Account c e s t) (data : Bytes) :
    Account c e s (t.step (.push data)) := by
  have hnothing : Ran t.endpoint [] (t.endpoint.push data).2 := by
    unfold Endpoint.push
    split <;> exact .nil rfl rfl rfl rfl ⟨⟨rfl, rfl, rfl, rfl⟩, rfl⟩
  have hpushed := h.ran.append hnothing
  rw [List.append_nil] at hpushed
  rcases hp : t.endpoint.push data with ⟨err | _, e'⟩ <;> rw [hp] at hpushed
  · rw [step_push_of_error hp]
    exact ⟨h.tracks.push_of_error hp, hpushed, h.acted⟩
  · rw [step_push_of_ok hp]
    exact ⟨h.tracks.push_of_ok hp, hpushed, h.acted⟩

/-- **A pass keeps it right**, wherever a fault cuts it. -/
theorem Account.pass (h : Account c e s t) : Account c e s t.pass := by
  obtain ⟨later, hpass⟩ := t.endpoint.exists_pass {} t.state
  have htracks := h.tracks.pass hpass
  rw [← List.map_append] at htracks
  refine ⟨htracks, h.ran.append hpass.ran, h.acted.append ?_⟩
  rw [← h.ran.slots, ← h.ran.tap]
  exact hpass.acted

theorem Account.iterate (h : Account c e s t) (n : Nat) : Account c e s (Recovery.pass^[n] t) := by
  induction n generalizing t with
  | zero => exact h
  | succ n ih => exact ih h.pass

theorem Account.settle (h : Account c e s t) : Account c e s t.settle := by
  obtain ⟨n, report, hsettle, -, -⟩ := t.settle_eq
  rw [hsettle]
  exact h.iterate (n + 1)

theorem Account.step (h : Account c e s t) (move : Move) : Account c e s (t.step move) := by
  cases move with
  | push data => exact h.push data
  | pass => exact h.pass
  | settle => exact h.settle

/-- An endpoint that has received nothing, with any registrations and tap. -/
def fresh (config : LinkConfig) (registry : Registry σ) (tap : Option (Tap σ)) : Endpoint σ :=
  { (Endpoint.new config : Endpoint σ) with registry, tap }

/-- **The account is right at every moment.** -/
theorem account_run (config : LinkConfig) (registry : Registry σ) (tap : Option (Tap σ)) (s : σ)
    (moves : List Move) :
    Account config.frame (fresh config registry tap) s
      (run (fresh config registry tap) s moves) :=
  List.foldlRecOn moves step
    ⟨⟨[], Synchronizer.reads_new config.frame config.receiveLimit, ⟨rfl, rfl, rfl⟩, rfl⟩,
      .nil rfl rfl rfl rfl (.refl _), .nil s⟩
    fun _ h move _ => h.step move

/-! ## What the account says -/

/-- **A pass that completes leaves what a scan leaves**: every frame of the stream has had
its turn, and every run of garbage was counted. -/
theorem Account.of_ok (h : Account c e s t) (hok : t.answer = .ok report) :
    t.pass.turns.map (·.frame) = (Scan.run c t.accepted).frames ∧
      t.pass.endpoint.sync.buffer = (Scan.run c t.accepted).rest ∧
      t.pass.endpoint.counters.transportErrors
        = Counter.bump 0 (Scan.run c t.accepted).garbageRuns := by
  obtain ⟨⟨events, hreads, hnoted, hframes⟩, -, -⟩ := h.pass
  obtain ⟨⟨before, hbefore, -, -⟩, -, -⟩ := h
  obtain ⟨later, hpass⟩ := t.endpoint.exists_pass {} t.state
  have hwaits := hpass.waits hbefore.aligned hok
  have hconfig : t.pass.endpoint.sync.config = c := hreads.config
  have hscan := hreads.scan_of_none (hconfig ▸ hwaits)
  have haccepted : t.pass.accepted = t.accepted := rfl
  rw [haccepted] at hscan
  rw [hscan]
  refine ⟨?_, rfl, ?_⟩
  · rw [← hframes, Scan.frames_eq, Synchronizer.frames_items]
  · rw [hnoted.transportErrors, hreads.runs]
    rfl

/-- The same, whatever faults there were on the way. -/
theorem Account.of_settle (h : Account c e s t) :
    t.settle.turns.map (·.frame) = (Scan.run c t.accepted).frames ∧
      t.settle.endpoint.sync.buffer = (Scan.run c t.accepted).rest ∧
      t.settle.endpoint.counters.transportErrors
        = Counter.bump 0 (Scan.run c t.accepted).garbageRuns := by
  obtain ⟨n, report, hsettle, hok, -⟩ := t.settle_eq
  have hrest := (h.iterate n).of_ok hok
  rw [accepted_iterate] at hrest
  rw [hsettle, Function.iterate_succ_apply']
  exact hrest

/-- **A history is consistent**, whatever its callbacks have raised so far. -/
structure Consistent (config : LinkConfig) (registry : Registry σ) (tap : Option (Tap σ))
    (s : σ) (t : Recovery σ) : Prop where
  /-- The frames that had their turn are the first of the stream, once each and in order; the
  others are still in the buffer. -/
  frames : (Scan.run config.frame t.accepted).frames
    = t.turns.map (·.frame) ++ (Scan.run config.frame t.endpoint.sync.buffer).frames
  /-- In each turn the callbacks have acted once. -/
  acted : Acted registry.slot tap s t.turns t.state
  /-- The last sequence number received is that of the last turn. -/
  last : t.endpoint.lastReceived = (tally (t.turns.map (·.frame))).1
  /-- The gaps counted are those between the turns. -/
  gaps : t.endpoint.counters.sequenceGaps = Counter.bump 0 (tally (t.turns.map (·.frame))).2
  /-- The turns whose frame was handled are the successes. -/
  success : t.endpoint.counters.success
    = Counter.bump 0 (t.turns.countP (handled <| outcome registry.slot ·))
  /-- The turns whose frame could not be delivered are the decode errors. -/
  decodeErrors : t.endpoint.counters.decodeErrors
    = Counter.bump 0 (t.turns.countP (failed <| outcome registry.slot ·))
  /-- The hits of a key are the turns with a frame of this key that was handled. -/
  hits : ∀ k, t.endpoint.registry.hits k
    = (registry.hits k).bump (t.turns.countP (hit registry.slot k))
  /-- All turns are counted but those whose handler raised a fault. -/
  counted : t.turns.length ≤ Counter.limit →
    t.endpoint.counters.success.val + t.endpoint.counters.decodeErrors.val
      = t.turns.length - t.turns.countP (faulted registry.slot)

/-- A right account makes it so. -/
theorem Account.consistent {config : LinkConfig} {registry : Registry σ} {tap : Option (Tap σ)}
    (h : Account config.frame (fresh config registry tap) s t) :
    Consistent config registry tap s t where
  frames := h.tracks.frames
  acted := h.acted
  last := h.tracks.gaps.1
  gaps := h.tracks.gaps.2
  success := h.ran.success
  decodeErrors := h.ran.decodeErrors
  hits := h.ran.hits
  counted hroom := by
    have hall := countP_outcomes registry.slot t.turns
    have hsuccess : t.endpoint.counters.success
        = Counter.bump 0 (t.turns.countP (handled <| outcome registry.slot ·)) := h.ran.success
    have hfailed : t.endpoint.counters.decodeErrors
        = Counter.bump 0 (t.turns.countP (failed <| outcome registry.slot ·)) :=
      h.ran.decodeErrors
    rw [hsuccess, hfailed, Counter.val_bump_zero (Nat.le_trans List.countP_le_length hroom),
      Counter.val_bump_zero (Nat.le_trans List.countP_le_length hroom)]
    omega

/-! ## Two endpoints side by side -/

/-- Moves among which every parse is completed. -/
def Thorough (moves : List Move) : Prop :=
  ∀ move ∈ moves, match move with
    | .pass => False
    | _ => True

/-- Two histories with the same bytes taken in and the same receive side. -/
structure Lockstep (t : Recovery σ) (u : Recovery τ) : Prop where
  accepted : t.accepted = u.accepted
  sync : t.endpoint.sync = u.endpoint.sync

/-- A push is taken by both or by none. -/
theorem Lockstep.push (h : Lockstep t u) (data : Bytes) :
    Lockstep (t.step (.push data)) (u.step (.push data)) := by
  obtain ⟨hsync, haccepted⟩ := t.step_push data
  obtain ⟨hsync', haccepted'⟩ := u.step_push data
  exact ⟨by rw [haccepted, haccepted', h.accepted, h.sync], by rw [hsync, hsync', h.sync]⟩

theorem Lockstep.settle (h : Lockstep t u) : Lockstep t.settle u.settle := by
  refine ⟨?_, ?_⟩
  · rw [accepted_settle, accepted_settle, h.accepted]
  · rw [sync_settle, sync_settle, h.sync]

/-- **Two endpoints whose passes are completed stay in step**, whatever their callbacks
do. -/
theorem lockstep_run (config : LinkConfig) (registry : Registry σ) (tap : Option (Tap σ)) (s : σ)
    (registry' : Registry τ) (tap' : Option (Tap τ)) (s' : τ) {moves : List Move}
    (hthorough : Thorough moves) :
    Lockstep (run (fresh config registry tap) s moves)
      (run (fresh config registry' tap') s' moves) := by
  have hfold : ∀ (moves : List Move) (t : Recovery σ) (u : Recovery τ), Thorough moves →
      Lockstep t u → Lockstep (moves.foldl step t) (moves.foldl step u) := by
    intro moves
    induction moves with
    | nil => exact fun t u _ h => h
    | cons move moves ih =>
      intro t u hthorough h
      obtain ⟨hmove, hmoves⟩ := List.forall_mem_cons.1 hthorough
      refine ih _ _ hmoves ?_
      cases move with
      | push data => exact h.push data
      | pass => exact hmove.elim
      | settle => exact h.settle
  exact hfold moves _ _ hthorough ⟨rfl, rfl⟩

/-- Histories in step have noted the same. -/
theorem Lockstep.noted {e' : Endpoint τ} {s' : τ} (h : Lockstep t u) (ht : Account c e s t)
    (hu : Account c e' s' u) :
    t.endpoint.counters.transportErrors = u.endpoint.counters.transportErrors ∧
      t.endpoint.counters.sequenceGaps = u.endpoint.counters.sequenceGaps ∧
      t.endpoint.lastReceived = u.endpoint.lastReceived := by
  obtain ⟨haccepted, hsync⟩ := h
  obtain ⟨⟨events, hreads, hnoted, -⟩, -, -⟩ := ht
  obtain ⟨⟨events', hreads', hnoted', -⟩, -, -⟩ := hu
  -- the same bytes with the same rest were reported as the same items
  have hitems : Synchronizer.items events = Synchronizer.items events' := by
    have hscan := hreads.scan
    rw [haccepted, hreads'.scan, hsync] at hscan
    exact (List.append_cancel_right (congrArg Scan.items hscan)).symm
  have hframes : Synchronizer.frames events = Synchronizer.frames events' := by
    rw [← Synchronizer.frames_items, hitems, Synchronizer.frames_items]
  have hruns : Synchronizer.newRuns events = Synchronizer.newRuns events' := by
    rw [hreads.runs, hitems, hreads'.runs]
  exact ⟨by rw [hnoted.transportErrors, hnoted'.transportErrors, hruns],
    by rw [hnoted.sequenceGaps, hnoted'.sequenceGaps, hframes],
    by rw [hnoted.last, hnoted'.last, hframes]⟩

/-! ## What a fault leaves -/

/-- A turn whose handler raised a fault counts for nothing. -/
theorem ran_of_fault {e' : Endpoint σ} {earlier : List (Turn σ)} {turn : Turn σ}
    (h : Ran e (earlier ++ [turn]) e') (hfault : outcome e.registry.slot turn = .error fault) :
    Ran e earlier e' := by
  have hanswer := answer?_eq e.registry.slot turn
  rw [hfault] at hanswer
  refine ⟨h.slots, h.tap, ?_, ?_, fun k => ?_, ?_⟩
  · rw [h.success, List.countP_append, List.countP_singleton, hfault]
    rfl
  · rw [h.decodeErrors, List.countP_append, List.countP_singleton, hfault]
    rfl
  · rw [h.hits, List.countP_append, List.countP_singleton, hit, hfault]
    rfl
  · have hsent := h.sent
    rwa [List.filterMap_append, List.filterMap_cons_none hanswer, List.filterMap_nil,
      List.append_nil] at hsent

/-- **What a pass leaves that a fault has ended.** The frame in whose turn it was raised has
been taken, and its sequence number is the last received. If its handler raised the fault,
the pass has come to what the turns before came to; if the tap did, to what they came to with
this one, and the tap was told of counters that have counted the frame. -/
inductive Cut (slot : Key → Slot σ) (tap : Option (Tap σ)) (t : Recovery σ) (fault : Fault)
    (earlier : List (Turn σ)) (turn : Turn σ) : Prop
  /-- The handler raised it. -/
  | handler (hdeliver : deliver (slot turn.frame.key) turn.frame turn.state
        = (.error fault, t.pass.state))
      (hran : Ran t.endpoint earlier t.pass.endpoint)
  /-- The tap raised it. -/
  | tap {d : Dispatch} {s : σ} {observe : Tap σ} (htap : tap = some observe)
      (hdeliver : deliver (slot turn.frame.key) turn.frame turn.state = (.ok d, s))
      (hraised : observe turn.frame d t.pass.endpoint.counters s = (some fault, t.pass.state))
      (hran : Ran t.endpoint (earlier ++ [turn]) t.pass.endpoint)

/-- **A fault ends a pass at the turn in which it was raised**, and at the first. -/
theorem Account.cut (h : Account c e s t) (hfault : t.answer = .error fault) :
    ∃ earlier turn, t.pass.turns = t.turns ++ earlier ++ [turn] ∧
      (∀ t ∈ earlier, ∃ d, outcome e.registry.slot t = .ok d) ∧
      t.pass.endpoint.lastReceived = some turn.frame.seq ∧
      Cut e.registry.slot e.tap t fault earlier turn := by
  obtain ⟨events, hpass⟩ := t.endpoint.exists_pass {} t.state
  obtain ⟨earlier, turn, hcourse, hearlier, hcut⟩ := hpass.cut hfault
  have hturns : t.pass.turns = t.turns ++ earlier ++ [turn] := by
    show t.turns ++ t.endpoint.course {} t.state = _
    rw [hcourse, List.append_assoc]
  have hslot := h.ran.slots
  have hran := hpass.ran
  rw [hcourse] at hran
  rw [hslot] at hearlier
  refine ⟨earlier, turn, hturns, hearlier, ?_, ?_⟩
  · rw [h.pass.tracks.gaps.1, hturns, List.map_append, List.map_singleton, tally_concat]
  · cases hcut with
    | handler hdeliver =>
      exact .handler (hslot ▸ hdeliver) (ran_of_fault hran (congrArg Prod.fst hdeliver))
    | tap htap hdeliver hraised =>
      exact .tap (h.ran.tap ▸ htap) (hslot ▸ hdeliver) hraised hran

end Recovery

end Endpoint

end ServoLink
