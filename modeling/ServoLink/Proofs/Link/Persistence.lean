import ServoLink.Proofs.Link.Pass

/-!
# What a parse pass leaves as it was

Handling a report is made of few parts: counters of the receive side rise, a
sequence number is noted, hits are counted in the registry, an answer may be
queued. A relation between endpoints that each of these parts keeps, and that may
be chained, is kept by a whole parse pass, however it ends
(`Endpoint.Persists.parse`). So what a pass leaves alone needs to be said of the
parts only.
-/

namespace ServoLink

namespace Endpoint

variable {σ : Type}

/-- **A relation that every part of a parse pass keeps.** -/
structure Persists (R : Endpoint σ → Endpoint σ → Prop) : Prop where
  refl : ∀ e, R e e
  trans : ∀ {e e' e''}, R e e' → R e' e'' → R e e''
  onSync : ∀ e sync, R e { e with sync }
  onRegistry : ∀ e registry, registry.slot = e.registry.slot → R e { e with registry }
  onSequence : ∀ e seq, R e (e.noteSequence seq)
  onSuccess : ∀ e, R e e.countSuccess
  onFailure : ∀ e, R e (e.count fun n => { n with decodeErrors := n.decodeErrors.bump 1 })
  onGarbage : ∀ e, R e (e.count fun n => { n with transportErrors := n.transportErrors.bump 1 })
  onEnqueue : ∀ e f, R e (e.enqueueFrame f).2

namespace Persists

variable {R : Endpoint σ → Endpoint σ → Prop}

theorem settle (hR : Persists R) (e : Endpoint σ) (f : Frame) (report : ParseReport)
    (d : Dispatch) : R e (e.settle f report d).2 := by
  cases d with
  | delivered | accepted => exact hR.onSuccess e
  | reply payload => exact hR.trans (hR.onSuccess e) (hR.onEnqueue _ _)
  | unregistered | lengthMismatch | rejected => exact hR.onFailure e

theorem dispatch (hR : Persists R) (e : Endpoint σ) (f : Frame) (report : ParseReport) (s : σ) :
    R e (e.dispatch f report s).2.1 := by
  have hslot := slot_dispatch e.registry f s
  unfold Endpoint.dispatch
  split
  · exact hR.refl e
  · rename_i outcome registry s' hrouted
    rw [hrouted] at hslot
    have hsettle := hR.trans (hR.onRegistry e registry hslot)
      (hR.settle { e with registry } f report outcome)
    dsimp only
    split
    · exact hsettle
    · split <;> exact hsettle

/-- Handling a report keeps it. -/
theorem handle (hR : Persists R) (e : Endpoint σ) (report : ParseReport) (s : σ)
    (event : SyncEvent) : R e (e.handle report s event).2.1 := by
  cases event with
  | frame f => exact hR.trans (hR.onSequence e f.seq) (hR.dispatch _ _ _ _)
  | discarded bytes reason newRun =>
    cases newRun with
    | false => exact hR.refl e
    | true => exact hR.onGarbage e

/-- **A parse pass keeps it**, however it ends. -/
theorem pass (hR : Persists R) {e e' : Endpoint σ} {report : ParseReport} {s s' : σ}
    {events : List SyncEvent} {answer : Except Fault ParseReport}
    (h : Pass e report s events answer e' s') : R e e' := by
  induction h with
  | rest hp => exact hR.onSync _ _
  | @fault e _ report s _ event sync _ _ hh =>
    have hhandled := hR.trans (hR.onSync e sync) (hR.handle { e with sync } report s event)
    rw [hh] at hhandled
    exact hhandled
  | @next e _ _ report _ s _ _ event sync _ _ _ hh _ ih =>
    have hhandled := hR.trans (hR.onSync e sync) (hR.handle { e with sync } report s event)
    rw [hh] at hhandled
    exact hR.trans hhandled ih

theorem parse (hR : Persists R) (e : Endpoint σ) (s : σ) : R e (e.parse s).2.1 := by
  obtain ⟨events, hpass⟩ := e.exists_pass {} s
  exact hR.pass hpass

end Persists

end Endpoint

end ServoLink
