import ServoLink.Proofs.Link.Ledger
import ServoLink.Proofs.Link.Registration

/-!
# The registry inside an endpoint

An endpoint has its handlers registered by calls, and dispatches the frames that its parse
passes find. What a history of an endpoint amounts to for its registry are calls again
(`Endpoint.Ledger.Dealings`): a registration is itself, a parse pass is the dispatch of the
frames whose turn came, each followed by what the tap has done. Its registry is at any time
what a fresh one has become in the course of these calls, and so the last word counts for it
too (`Registry.last_word_counts`). Its counter of frames handled is the sum of the hits.
-/

namespace ServoLink

variable {σ : Type}

open Registry

namespace Endpoint

/-! ## The turns of a pass -/

/-- **What some turns are for a registry**: each frame is dispatched and then, unless its
handler raised a fault, the tap is told, if there is one. -/
inductive Serves (slot : Key → Slot σ) (tap : Option (Tap σ)) :
    List (Turn σ) → List (Registry.Call σ) → Prop
  | nil : Serves slot tap [] []
  /-- No tap is told. -/
  | untold {turns : List (Turn σ)} {calls : List (Registry.Call σ)} (t : Turn σ)
      (huntold : tap = none ∨ faulted slot t = true) (h : Serves slot tap turns calls) :
      Serves slot tap (t :: turns) (.dispatch t.frame :: calls)
  /-- The tap is told, and shown the counters. -/
  | told {turns : List (Turn σ)} {calls : List (Registry.Call σ)} (t : Turn σ)
      {observe : Tap σ} {d : Dispatch} (n : Counters) (hset : tap = some observe)
      (hcame : outcome slot t = .ok d) (h : Serves slot tap turns calls) :
      Serves slot tap (t :: turns)
        (.dispatch t.frame :: .touch (fun s => (observe t.frame d n s).2) :: calls)

theorem Serves.append {slot : Key → Slot σ} {tap : Option (Tap σ)} {front back : List (Turn σ)}
    {calls calls' : List (Registry.Call σ)} (h : Serves slot tap front calls)
    (h' : Serves slot tap back calls') : Serves slot tap (front ++ back) (calls ++ calls') := by
  induction h with
  | nil => exact h'
  | untold t huntold _ ih => exact .untold t huntold ih
  | told t n hset hcame _ ih => exact .told t n hset hcame ih

end Endpoint

/-- **A registry in service mirrors an endpoint**: the endpoint has the same registry, with
handlers that act on the same state, and has counted the frames handled. -/
structure Registry.Service.Mirrors (u : Service σ) (e : Endpoint σ) (s : σ) : Prop where
  registry : e.registry = u.registry
  state : s = u.state
  success : e.counters.success = Counter.bump 0 u.handled.length

namespace Registry.Service.Mirrors

open Endpoint

variable {u : Service σ} {e e' : Endpoint σ} {s s' : σ} {f : Frame}

/-- Nothing else matters. -/
theorem congr (h : u.Mirrors e s) (hregistry : e'.registry = e.registry)
    (hsuccess : e'.counters.success = e.counters.success) : u.Mirrors e' s :=
  ⟨hregistry.trans h.registry, h.state, hsuccess.trans h.success⟩

/-- Taking bytes in does not. -/
theorem push (h : u.Mirrors e s) (data : Bytes) : u.Mirrors (e.push data).2 s := by
  rcases e.push_cases data with hpush | ⟨err, hpush⟩ <;> rw [hpush] <;> exact h.congr rfl rfl

/-- Queueing does not. -/
theorem enqueueFrame (h : u.Mirrors e s) (f : Frame) : u.Mirrors (e.enqueueFrame f).2 s := by
  obtain ⟨_, _, _, _, henq⟩ := e.enqueueFrame_intake f
  rw [henq]
  exact h.congr rfl rfl

/-- A fault of its handler leaves a frame uncounted. -/
theorem dispatch_of_error {fault : Fault} (h : u.Mirrors e s)
    (hdeliver : deliver (e.registry.slot f.key) f s = (.error fault, s')) :
    (u.step (.dispatch f)).Mirrors (e.noteSequence f.seq) s' := by
  obtain ⟨hregistry, rfl, hsuccess⟩ := h
  rw [hregistry] at hdeliver
  rw [Service.step_dispatch_of_error hdeliver]
  exact ⟨hregistry, rfl, hsuccess⟩

/-- **Any other frame is settled as it is dispatched.** -/
theorem dispatch_of_ok {d : Dispatch} (h : u.Mirrors e s)
    (hdeliver : deliver (e.registry.slot f.key) f s = (.ok d, s')) (report : ParseReport) :
    (u.step (.dispatch f)).Mirrors (e.settled f report d).2 s' := by
  obtain ⟨hsettled, -⟩ := e.settled_frame f report d
  have hcame : outcome e.registry.slot ⟨f, s⟩ = .ok d := congrArg Prod.fst hdeliver
  have hcounted := (ran_settled hcame report).success
  rw [List.countP_singleton, hcame] at hcounted
  obtain ⟨hregistry, rfl, hsuccess⟩ := h
  rw [hregistry] at hdeliver hsettled
  rw [Service.step_dispatch_of_ok hdeliver]
  refine ⟨hsettled, rfl, ?_⟩
  rw [hcounted, hsuccess, Counter.bump_bump, List.length_append]
  show Counter.bump 0 (_ + if d.isSuccess = true then 1 else 0) = _
  cases d.isSuccess <;> rfl

/-- **Handling a report is the turn of its frame**, if it is one. -/
theorem handle (h : u.Mirrors e s) (report : ParseReport) (event : SyncEvent) :
    ∃ calls, Serves e.registry.slot e.tap (turns s event) calls ∧
      (calls.foldl Service.step u).Mirrors (e.handle report s event).2.1
        (e.handle report s event).2.2 := by
  cases event with
  | discarded bytes reason newRun =>
    refine ⟨[], .nil, ?_⟩
    cases newRun <;> exact h.congr rfl rfl
  | frame f =>
    rcases hdeliver : deliver (e.registry.slot f.key) f s with ⟨fault | d, s'⟩
    · have hfaulted : faulted e.registry.slot ⟨f, s⟩ = true := by
        unfold faulted outcome
        rw [hdeliver]
      rw [handle_of_error hdeliver]
      exact ⟨[.dispatch f], .untold ⟨f, s⟩ (.inr hfaulted) .nil, h.dispatch_of_error hdeliver⟩
    · have hserved := h.dispatch_of_ok hdeliver report
      obtain ⟨-, htap⟩ := e.settled_frame f report d
      rw [handle_of_ok hdeliver]
      dsimp only
      rcases hset : e.tap with _ | observe
      · rw [tell_of_tap_none (htap.trans hset)]
        exact ⟨[.dispatch f], .untold ⟨f, s⟩ (.inl rfl) .nil, hserved⟩
      · refine ⟨_, .told ⟨f, s⟩ (e.settled f report d).2.counters rfl
          (congrArg Prod.fst hdeliver) .nil, ?_⟩
        -- the tap acts on what the handler has left
        unfold Endpoint.tell
        rw [htap, hset]
        exact ⟨hserved.registry, congrArg (fun s => (observe f d _ s).2) hserved.state,
          hserved.success⟩

/-- **A parse pass is the turns of its course**, however it ends. -/
theorem pass {report : ParseReport} {events : List SyncEvent} {answer : Except Fault ParseReport}
    (hpass : Pass e report s events answer e' s') (h : u.Mirrors e s) :
    ∃ calls, Serves e.registry.slot e.tap (e.course report s) calls ∧
      (calls.foldl Service.step u).Mirrors e' s' := by
  induction hpass generalizing u with
  | rest hp =>
    rw [course_of_rest hp]
    exact ⟨[], .nil, h.congr rfl rfl⟩
  | @fault e _ report s _ event sync _ hp hh =>
    have hsync : u.Mirrors { e with sync } s := h.congr rfl rfl
    obtain ⟨calls, hserves, hmirrors⟩ := hsync.handle report event
    rw [hh] at hmirrors
    rw [course_of_fault hp hh]
    exact ⟨calls, hserves, hmirrors⟩
  | @next e _ _ report _ s _ _ event sync _ _ hp hh _ ih =>
    have hsync : u.Mirrors { e with sync } s := h.congr rfl rfl
    obtain ⟨calls, hserves, hmirrors⟩ := hsync.handle report event
    obtain ⟨hslot, htap⟩ := set_of_handle hh
    rw [hh] at hmirrors
    obtain ⟨calls', hserves', hmirrors'⟩ := ih hmirrors
    rw [hslot, htap] at hserves'
    rw [course_of_next hp hh]
    refine ⟨calls ++ calls', hserves.append hserves', ?_⟩
    rwa [List.foldl_append]

end Registry.Service.Mirrors

/-! ## Histories -/

namespace Endpoint.Ledger

/-- **What a call to an endpoint is for its registry.** -/
inductive Deals (t : Ledger σ) : Call σ → List (Registry.Call σ) → Prop
  | register (k : Key) (h : Handler σ) : Deals t (.register k h) [.register k h]
  | registerWildcard (k : Key) : Deals t (.registerWildcard k) [.registerWildcard k]
  | registerRemaining : Deals t .registerRemaining [.registerRemaining]
  | touch (change : σ → σ) : Deals t (.touch change) [.touch change]
  /-- A parse pass is the turns of its frames. -/
  | parse {calls : List (Registry.Call σ)}
      (h : Serves t.endpoint.registry.slot t.endpoint.tap (t.endpoint.course {} t.state) calls) :
      Deals t .parse calls
  | push (data : Bytes) : Deals t (.push data) []
  | onDispatch (tap : Tap σ) : Deals t (.onDispatch tap) []
  | enqueue (k : Key) (payload : Bytes) : Deals t (.enqueue k payload) []
  | enqueueFrame (f : Frame) : Deals t (.enqueueFrame f) []
  | request (k : Key) : Deals t (.request k) []
  | drain : Deals t .drain []

/-- **What a history of an endpoint is for its registry.** -/
inductive Dealings : Ledger σ → List (Call σ) → List (Registry.Call σ) → Prop
  | nil (t : Ledger σ) : Dealings t [] []
  | cons {t : Ledger σ} {call : Call σ} {history : List (Call σ)}
      {front back : List (Registry.Call σ)} (h : Deals t call front)
      (h' : Dealings (t.step call) history back) : Dealings t (call :: history) (front ++ back)

variable {t : Ledger σ} {u : Service σ}

/-- **Every call is mirrored.** -/
theorem mirrors_step (h : u.Mirrors t.endpoint t.state) (call : Call σ) :
    ∃ calls, Deals t call calls ∧
      (calls.foldl Service.step u).Mirrors (t.step call).endpoint (t.step call).state := by
  have hregister : ∀ change : Registry σ → Registry σ,
      Service.Mirrors { u with registry := change u.registry }
        { t.endpoint with registry := change t.endpoint.registry } t.state :=
    fun change => ⟨congrArg change h.registry, h.state, h.success⟩
  cases call with
  | register k handler => exact ⟨_, .register k handler, hregister (·.register k handler)⟩
  | registerWildcard k => exact ⟨_, .registerWildcard k, hregister (·.registerWildcard k)⟩
  | registerRemaining => exact ⟨_, .registerRemaining, hregister (·.registerRemaining.2)⟩
  | touch change =>
    exact ⟨_, .touch change, h.registry, congrArg change h.state, h.success⟩
  | parse =>
    obtain ⟨events, hpass⟩ := t.endpoint.exists_pass {} t.state
    obtain ⟨calls, hserves, hmirrors⟩ := h.pass hpass
    exact ⟨calls, .parse hserves, hmirrors⟩
  | push data => exact ⟨_, .push data, h.push data⟩
  | onDispatch tap => exact ⟨_, .onDispatch tap, h.congr rfl rfl⟩
  | enqueue k payload => exact ⟨_, .enqueue k payload, h.enqueueFrame (.forKey k payload)⟩
  | enqueueFrame f => exact ⟨_, .enqueueFrame f, h.enqueueFrame f⟩
  | request k => exact ⟨_, .request k, h.enqueueFrame (.forKey k [])⟩
  | drain => exact ⟨_, .drain, h.congr rfl rfl⟩

/-- **A history is mirrored.** -/
theorem mirrors_foldl (h : u.Mirrors t.endpoint t.state) (history : List (Call σ)) :
    ∃ calls, Dealings t history calls ∧
      (calls.foldl Service.step u).Mirrors (history.foldl step t).endpoint
        (history.foldl step t).state := by
  induction history generalizing t u with
  | nil => exact ⟨[], .nil t, h⟩
  | cons call history ih =>
    obtain ⟨front, hdeals, hmirrors⟩ := mirrors_step h call
    obtain ⟨back, hdealings, hmirrors'⟩ := ih hmirrors
    refine ⟨front ++ back, .cons hdeals hdealings, ?_⟩
    rwa [List.foldl_append]

theorem mirrors_run (config : LinkConfig) (state : σ) (history : List (Call σ)) :
    ∃ calls, Dealings { endpoint := .new config, state } history calls ∧
      (Service.run state calls).Mirrors (run config state history).endpoint
        (run config state history).state :=
  mirrors_foldl (t := { endpoint := .new config, state }) ⟨rfl, rfl, rfl⟩ history

end Endpoint.Ledger

namespace Registry.Service

/-- **The hits of all keys are the frames handled**, up to the largest count. -/
theorem sum_hits_run (state : σ) (calls : List (Call σ))
    (hlimit : (run state calls).handled.length ≤ Counter.limit) :
    (Key.all.map fun k => ((run state calls).registry.hits k).val).sum
      = (run state calls).handled.length := by
  have hcount : ∀ k ∈ Key.all, ((run state calls).registry.hits k).val
      = (run state calls).handled.count k := by
    intro k _
    rw [hits_run, Counter.val_bump_zero (Nat.le_trans List.count_le_length hlimit)]
  rw [List.map_congr_left hcount]
  exact Key.sum_count Key.nodup_all Key.mem_all _

theorem Mirrors.sum_hits {state s : σ} {calls : List (Call σ)} {e : Endpoint σ}
    (h : (run state calls).Mirrors e s)
    (hlimit : (run state calls).handled.length ≤ Counter.limit) :
    (Key.all.map fun k => (e.registry.hits k).val).sum = e.counters.success.val := by
  rw [h.registry, h.success, Counter.val_bump_zero hlimit]
  exact sum_hits_run state calls hlimit

end Registry.Service

/-- **The last word counts.** What a registry makes of a frame is up to what was registered
last for its key: `Service.Shows` says this of every history of calls to a registry. The
registry inside an endpoint is no exception, because every history of calls to an endpoint
is one of calls to its registry. Until a counter has come to its limit, the hits of all keys
add up to the frames that the endpoint has handled. -/
theorem Registry.last_word_counts :
    (∀ (state : σ) (calls : List (Call σ)), Service.Shows calls (Service.run state calls)) ∧
      ∀ (config : LinkConfig) (state : σ) (history : List (Endpoint.Ledger.Call σ)),
        let t := Endpoint.Ledger.run config state history
        ∃ calls, Endpoint.Ledger.Dealings { endpoint := .new config, state } history calls ∧
          (Service.run state calls).Mirrors t.endpoint t.state ∧
          ((Service.run state calls).handled.length ≤ Counter.limit →
            (Key.all.map fun k => (t.endpoint.registry.hits k).val).sum
              = t.endpoint.counters.success.val) := by
  refine ⟨Service.shows_run, fun config state history => ?_⟩
  obtain ⟨calls, hdealings, hmirrors⟩ := Endpoint.Ledger.mirrors_run config state history
  exact ⟨calls, hdealings, hmirrors, hmirrors.sum_hits⟩

/-- A wildcard takes a frame of three bytes. The handler that takes its place asks for one byte:
it refuses the frame and takes another, and both hits count. An endpoint that has handled one
frame has one hit in all. -/
theorem Registry.last_word_counts_replaced :
    let k : Key := ⟨1, 1⟩
    let small : Handler Unit := { expectedLength := some 1, receive := fun _ s => (.accepted, s) }
    let long : Frame := .forKey k [1, 2, 3]
    let calls : List (Call Unit) :=
      [.registerWildcard k, .dispatch long, .register k small, .dispatch long,
        .dispatch (.forKey k [7])]
    let t := Service.run () calls
    let e := (Endpoint.Ledger.run {} ()
      [.registerWildcard k, .push [0xA0, 0, 1, 1, 0, 0, 0xBC, 0xAE], .parse]).endpoint
    (t.registry.dispatch long ()).1 = .ok (.lengthMismatch 1 3) ∧ (t.registry.hits k).val = 2 ∧
      (∀ k', k' ∈ t.registry.keys ↔ k' = k) ∧
      (Key.all.map fun k => (e.registry.hits k).val).sum = 1 := by
  intro k small long calls t e
  have hdirect := last_word_counts.1 () calls
  refine ⟨?_, ?_, fun k' => ?_, ?_⟩
  · have hstands : Becomes long t.state (standing calls long.key) (.ok (.lengthMismatch 1 3)) :=
      .lengthMismatch (h := small) (.inl rfl) rfl (by decide)
    exact (becomes_iff.1 (hdirect.outcome long)).symm.trans (becomes_iff.1 hstands)
  · rw [hdirect.hits]
    decide +kernel
  · rw [hdirect.mem_keys]
    constructor
    · rintro ⟨call, hcall, hregisters⟩
      simp only [calls, List.mem_cons, List.not_mem_nil, or_false] at hcall
      rcases hcall with rfl | rfl | rfl | rfl | rfl
      · exact hregisters
      · exact hregisters.elim
      · exact hregisters
      · exact hregisters.elim
      · exact hregisters.elim
    · rintro rfl
      exact ⟨_, List.mem_cons_self, rfl⟩
  · obtain ⟨_, -, hmirrors, hsum⟩ := last_word_counts.2 {} ()
      [.registerWildcard k, .push [0xA0, 0, 1, 1, 0, 0, 0xBC, 0xAE], .parse]
    have hone : e.counters.success.val = 1 := by decide +kernel
    have hcounted := (congrArg Counter.val hmirrors.success).symm.trans hone
    rw [Counter.val_bump, Counter.val_zero, Nat.zero_add] at hcounted
    have hlimit : 1 < Counter.limit := by decide
    exact (hsum (by omega)).trans hone

end ServoLink
