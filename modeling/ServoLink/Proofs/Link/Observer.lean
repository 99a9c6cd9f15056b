import ServoLink.Proofs.Link.Counting
import ServoLink.Proofs.Link.Persistence

/-!
# What a tap is told

A tap is told of every frame once, in the order in which the frames were found,
right after the frame was counted. To say so of any tap, let some part of the state
be a log: the tap writes down there what it is told, and no handler touches it
(`Endpoint.Attuned`). Then a parse pass adds to the log the frames it finds, each
with its number among all frames counted so far (`Endpoint.Pass.logged`).
-/

namespace ServoLink

/-- What a tap is told of one frame. -/
structure Notice where
  /-- The frame. -/
  frame : Frame
  /-- What became of it. -/
  outcome : Dispatch
  /-- The counters right after. -/
  counters : Counters

/-- The frame told of, and the number of frames counted by then. -/
def Notice.entry (n : Notice) : Frame × Nat :=
  (n.frame, n.counters.success.val + n.counters.decodeErrors.val)

variable {σ : Type} {log : σ → List Notice}

/-- A handler that leaves the log alone. -/
def Handler.Spares (h : Handler σ) (log : σ → List Notice) : Prop :=
  ∀ f s, log (h.receive f s).2 = log s

/-- A tap that writes down what it is told. -/
def Tap.Logs (tap : Tap σ) (log : σ → List Notice) : Prop :=
  ∀ f d n s, log (tap f d n s).2 = log s ++ [⟨f, d, n⟩]

namespace Endpoint

/-- **A log is kept by the tap alone.** -/
structure Attuned (log : σ → List Notice) (e : Endpoint σ) : Prop where
  handlers : ∀ k h, e.registry.slot k = .handler h → h.Spares log
  tap : ∀ tap, e.tap = some tap → Tap.Logs tap log

variable {e e' : Endpoint σ} {s s' : σ} {f : Frame} {report report' : ParseReport}
  {event : SyncEvent} {events : List SyncEvent} {n₀ : Counters}

/-- A fresh endpoint has neither handlers nor a tap. -/
theorem attuned_new (log : σ → List Notice) (config : LinkConfig) : Attuned log (new config) := by
  constructor
  · intro k h hslot
    cases hslot
  · intro tap hset
    cases hset

/-- **A parse pass sets no handler and no tap.** -/
theorem persists_set : Persists fun e e' : Endpoint σ =>
    e'.registry.slot = e.registry.slot ∧ e'.tap = e.tap where
  refl _ := ⟨rfl, rfl⟩
  trans h h' := ⟨h'.1.trans h.1, h'.2.trans h.2⟩
  onSync _ _ := ⟨rfl, rfl⟩
  onRegistry _ _ hslot := ⟨hslot, rfl⟩
  onSequence _ _ := ⟨rfl, rfl⟩
  onSuccess _ := ⟨rfl, rfl⟩
  onFailure _ := ⟨rfl, rfl⟩
  onGarbage _ := ⟨rfl, rfl⟩
  onEnqueue e f := by
    obtain ⟨_, _, _, _, hqueued⟩ := e.enqueueFrame_intake f
    rw [hqueued]
    exact ⟨rfl, rfl⟩

/-- Nor does a push set any. -/
theorem push_set (e : Endpoint σ) (data : Bytes) :
    (e.push data).2.registry.slot = e.registry.slot ∧ (e.push data).2.tap = e.tap := by
  unfold push
  split <;> exact ⟨rfl, rfl⟩

/-- Where no handler and no tap is set the log is kept as before. -/
theorem Attuned.congr (h : Attuned log e)
    (hset : e'.registry.slot = e.registry.slot ∧ e'.tap = e.tap) : Attuned log e' := by
  obtain ⟨hslot, htap⟩ := hset
  constructor
  · rw [hslot]
    exact h.handlers
  · rw [htap]
    exact h.tap

/-- Routing a frame leaves the log alone. -/
theorem Attuned.log_dispatch (h : Attuned log e) (f : Frame) (s : σ) :
    log (e.registry.dispatch f s).2.2 = log s := by
  have hdeliver : log (Registry.deliver (e.registry.slot f.key) f s).2 = log s := by
    cases hslot : e.registry.slot f.key with
    | empty => rfl
    | wildcard => rfl
    | handler handler =>
      have hspares := h.handlers f.key handler hslot f s
      unfold Registry.deliver
      dsimp only
      split
      · rfl
      · split
        · rfl
        · split <;> rename_i hreceive <;> rw [hreceive] at hspares <;> exact hspares
  unfold Registry.dispatch
  split <;> rename_i hrouted <;> rw [hrouted] at hdeliver <;> exact hdeliver

/-- **The tap is told of a frame once**, with the counters right after. -/
theorem Attuned.log_handle (h : Attuned log e)
    (hh : e.handle report s event = (.ok report', e', s')) :
    (log s').map Notice.entry = (log s).map Notice.entry ++
      if e.tap.isSome then (Synchronizer.frames [event]).map
        (·, e'.counters.success.val + e'.counters.decodeErrors.val)
      else [] := by
  cases event with
  | discarded bytes reason newRun =>
    have hstate : s' = s := by
      cases newRun <;> cases hh <;> rfl
    rw [hstate]
    cases e.tap <;> exact (List.append_nil _).symm
  | frame f =>
    obtain ⟨outcome, registry, s₁, hrouted, -, hnone, hsome⟩ := dispatch_eq_ok hh
    have hlog := h.log_dispatch f s
    rw [show e.registry.dispatch f s = _ from hrouted] at hlog
    cases htap : e.tap with
    | none =>
      rw [hnone htap, hlog]
      exact (List.append_nil _).symm
    | some tap =>
      have htold := h.tap tap htap f outcome e'.counters s₁
      rw [hsome tap htap, hlog] at htold
      rw [htold, List.map_append]
      rfl

/-- The frames of some reports, each with the number of frames counted before and
with it. -/
def enumerated (n₀ : Counters) (earlier events : List SyncEvent) : List (Frame × Nat) :=
  (Synchronizer.frames events).zipIdx
    (n₀.success.val + n₀.decodeErrors.val + (Synchronizer.frames earlier).length + 1)

theorem enumerated_cons (n₀ : Counters) (earlier : List SyncEvent) (event : SyncEvent)
    (events : List SyncEvent) :
    enumerated n₀ earlier (event :: events)
      = enumerated n₀ earlier [event] ++ enumerated n₀ (earlier ++ [event]) events := by
  unfold enumerated
  rw [← List.singleton_append, Synchronizer.frames_append, List.zipIdx_append,
    Synchronizer.frames_append, List.length_append]
  congr 2
  omega

/-- The number of a frame that was just counted. -/
theorem Tallied.counted (h : Tallied n₀ events report e.counters)
    (hroom : n₀.success.val + n₀.decodeErrors.val + (Synchronizer.frames events).length
      ≤ Counter.limit) :
    e.counters.success.val + e.counters.decodeErrors.val
      = n₀.success.val + n₀.decodeErrors.val + (Synchronizer.frames events).length := by
  have hframes := h.frames
  have houtcomes := h.outcomes
  rw [h.success, h.decodeErrors, Counter.val_bump_of_le (by omega),
    Counter.val_bump_of_le (by omega)]
  omega

/-- **In a parse pass the tap is told of every frame found**, in order, each time
with counters that have just counted it. -/
theorem Pass.logged {earlier : List SyncEvent} {answer : Except Fault ParseReport}
    (h : Pass e report s events answer e' s') (hok : answer = .ok report')
    (ha : Attuned log e) (hstart : Tallied n₀ earlier report e.counters)
    (hroom : n₀.success.val + n₀.decodeErrors.val
      + (Synchronizer.frames (earlier ++ events)).length ≤ Counter.limit) :
    (log s').map Notice.entry = (log s).map Notice.entry ++
      if e.tap.isSome then enumerated n₀ earlier events else [] := by
  induction h generalizing earlier with
  | @rest e _ _ _ hp =>
    cases e.tap <;> exact (List.append_nil _).symm
  | fault hp hh => cases hok
  | @next e e₁ _ report _ s s₁ _ event sync events _ hp hh _ ih =>
    have htold := Attuned.log_handle (e := { e with sync }) ⟨ha.handlers, ha.tap⟩ hh
    have hset := persists_set.handle { e with sync } report s event
    have hnext := Tallied.handle (e := { e with sync }) hstart hh
    rw [hh] at hset
    have htap : e₁.tap = e.tap := hset.2
    rw [List.append_cons] at hroom
    have hcount : (Synchronizer.frames (earlier ++ [event])).length
        ≤ (Synchronizer.frames (earlier ++ [event] ++ events)).length := by
      rw [Synchronizer.frames_append _ events, List.length_append]
      exact Nat.le_add_right _ _
    rw [ih hok (ha.congr hset) hnext hroom, htold, htap, List.append_assoc]
    congr 1
    cases e.tap with
    | none => rfl
    | some tap =>
      show _ ++ enumerated n₀ (earlier ++ [event]) events = enumerated n₀ earlier (event :: events)
      rw [enumerated_cons]
      congr 1
      cases event with
      | discarded bytes reason newRun => rfl
      | frame f =>
        show [(f, _)] = [(f, _)]
        rw [hnext.counted (by omega), Synchronizer.frames_append, List.length_append]
        rfl

end Endpoint

end ServoLink
