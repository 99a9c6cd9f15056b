import ServoLink.Proofs.Link.Feeding
import ServoLink.Proofs.Receive.Rounds

/-!
# A parse pass comes to rest

A parse pass takes the reports that polling alone would give, one after the other, and the answers
that it queues on the way do not come back to it. So it ends after no more reports than there are
bytes in the buffer (`Endpoint.pass_of_quiet`), and then it has done all there is to do: as long as
no more bytes come, another pass reports nothing and changes nothing
(`Endpoint.Ledger.parse_settles`).
-/

namespace ServoLink

open Registry

namespace Endpoint

variable {σ : Type}

/-- **With callbacks that raise no fault** a parse pass handles what polling reports, and leaves
the buffer that polling leaves. -/
theorem pass_of_quiet (e : Endpoint σ) (s : σ) (hquiet : Quiet e.registry.slot e.tap) :
    ∃ report e' s', e.parse s = (.ok report, e', s') ∧
      Pass e {} s e.sync.pollAll.1 (.ok report) e' s' ∧ e'.sync = e.sync.pollAll.2 := by
  obtain ⟨events, hpass⟩ := e.exists_pass {} s
  obtain ⟨report, hok⟩ := hpass.ok_of_quiet hquiet
  have hparse : e.parse s = (.ok report, (e.parse s).2.1, (e.parse s).2.2) := Prod.ext hok rfl
  obtain ⟨hpolled, hsync⟩ := pass_of_parse hparse
  exact ⟨report, _, _, hparse, hpolled, hsync.symm⟩

/-- At rest a parse pass does nothing, and says so. -/
theorem parse_of_rest {e : Endpoint σ} (hrest : e.sync.poll = (none, e.sync)) (s : σ) :
    e.parse s = (.ok {}, e, s) := by
  unfold parse
  rw [parseFrom]
  split
  · rename_i sync hp
    rw [hrest] at hp
    cases hp
    rfl
  · rename_i hp
    rw [hrest] at hp
    cases hp

namespace Ledger

variable {t : Ledger σ}

/-- At rest a parse pass adds its empty report to the record, and that is all. -/
theorem step_parse_of_rest (hrest : t.endpoint.sync.poll = (none, t.endpoint.sync)) :
    t.step .parse = { t with reports := t.reports ++ [{}] } := by
  have hnothing := Synchronizer.pollAll_of_none hrest
  have hobserves : t.observes = [] := by
    unfold observes
    rw [hnothing]
    split <;> rfl
  rw [step_parse_of_ok (parse_of_rest hrest t.state), hnothing, hobserves,
    parseAnswers_of_rest hrest]
  dsimp only
  rw [List.append_nil, List.append_nil, List.append_nil]

/-- **And so do any number of them.** -/
theorem foldl_parse_of_rest (hrest : t.endpoint.sync.poll = (none, t.endpoint.sync)) (n : Nat) :
    (List.replicate n Call.parse).foldl step t
      = { t with reports := t.reports ++ List.replicate n {} } := by
  induction n generalizing t with
  | zero =>
    rw [List.replicate_zero, List.replicate_zero, List.append_nil]
    rfl
  | succ n ih =>
    have hstep := step_parse_of_rest hrest
    have hrest' : (t.step .parse).endpoint.sync.poll
        = (none, (t.step .parse).endpoint.sync) := by
      rw [hstep]
      exact hrest
    rw [List.replicate_succ, List.foldl_cons, ih hrest', hstep, List.replicate_succ,
      List.append_assoc]
    rfl

/-- **A parse pass ends, and a second one does nothing.** A poll answers within three rounds, and
each time it reports something the buffer gets shorter. So after any history, where the callbacks
that are set raise no fault, a parse pass ends with a report. What it handles are the reports of
polling the synchronizer to the end, at most as many as the bytes that leave the buffer. They are
the same with any other callbacks, so that no answer that is queued adds to them. Another pass
reports nothing and leaves the endpoint and the state of its handlers as they are, and so does every
one after it. -/
theorem parse_settles (config : LinkConfig) (state : σ) (calls : List (Call σ))
    (hquiet : Quiet (run config state calls).endpoint.registry.slot
      (run config state calls).endpoint.tap) :
    let t := run config state calls
    let polled := t.endpoint.sync.pollAll
    (∀ sync : Synchronizer, sync.within 3 = some sync.poll ∧
        ∀ event sync', sync.poll = (some event, sync') → sync'.buffered < sync.buffered) ∧
      (∃ report e' s', t.endpoint.parse t.state = (.ok report, e', s') ∧
        Pass t.endpoint {} t.state polled.1 (.ok report) e' s' ∧ e'.sync = polled.2 ∧
        polled.1.length + e'.sync.buffered ≤ t.endpoint.sync.buffered ∧
        e'.parse s' = (.ok {}, e', s')) ∧
      (∀ (τ : Type) (e : Endpoint τ) (s : τ), e.sync = t.endpoint.sync →
        Quiet e.registry.slot e.tap →
        ∃ report e' s', Pass e {} s polled.1 (.ok report) e' s' ∧ e'.sync = polled.2) ∧
      ∀ n, (List.replicate n Call.parse).foldl step (t.step .parse)
        = { t.step .parse with reports := (t.step .parse).reports ++ List.replicate n {} } := by
  intro t polled
  have haligned : t.endpoint.sync.Aligned := (sound_run config state calls).aligned
  obtain ⟨report, e', s', hparse, hpass, hsync⟩ := t.endpoint.pass_of_quiet t.state hquiet
  have hrest : e'.sync.poll = (none, e'.sync) := by
    rw [hsync]
    exact Synchronizer.poll_pollAll haligned
  refine ⟨fun sync => ⟨sync.within_three, fun _ _ => Synchronizer.poll_shrinks⟩,
    ⟨report, e', s', hparse, hpass, hsync, ?bound, parse_of_rest hrest s'⟩,
    fun τ e s hsame hcalm => ?same, fun n => ?again⟩
  case bound =>
    rw [hsync]
    exact Synchronizer.length_pollAll haligned
  case same =>
    obtain ⟨report, e', s', -, hpass, hsync⟩ := e.pass_of_quiet s hcalm
    rw [hsame] at hpass hsync
    exact ⟨report, e', s', hpass, hsync⟩
  case again =>
    refine foldl_parse_of_rest ?_ n
    rw [step_parse_of_ok hparse]
    exact hrest

/-- Noise, a request that is answered, and the beginning of another one, which waits for the rest
however often the buffer is parsed. -/
theorem parse_settles_waiting :
    let f : Frame := { component := 1, data := 2 }
    let handler : Handler Nat :=
      (Handler.raw fun _ n => (none, n + 1)).answering fun n => [n.toUInt8]
    let calls : List (Call Nat) :=
      [.register ⟨1, 2⟩ handler, .push (7 :: f.wire {} ++ (f.wire {}).take 5)]
    let first : ParseReport :=
      { frames := 1, delivered := 1, replies := 1, transportErrors := 1, discarded := 1 }
    let t := run {} 3 calls
    Quiet t.endpoint.registry.slot t.endpoint.tap ∧
      (∃ report e' s', t.endpoint.parse t.state = (.ok report, e', s') ∧
        e'.parse s' = (.ok {}, e', s')) ∧
      ∀ n, (List.replicate n Call.parse).foldl step (t.step .parse)
        = { t.step .parse with reports := first :: List.replicate n {} } := by
  intro f handler calls first t
  have hquiet : Quiet t.endpoint.registry.slot t.endpoint.tap := by
    refine ⟨fun g s => ?_, nofun⟩
    show ∃ d, (deliver (if g.key = ⟨1, 2⟩ then .handler handler else .empty) g s).1 = .ok d
    split
    · cases hask : g.payload.isEmpty
      · exact ⟨.delivered, by unfold deliver; rw [hask]; rfl⟩
      · exact ⟨.reply [s.toUInt8], by unfold deliver; rw [hask]; rfl⟩
    · exact ⟨.unregistered, rfl⟩
  obtain ⟨-, ⟨report, e', s', hparse, -, -, -, hagain⟩, -, hrepeated⟩ :=
    parse_settles {} 3 calls hquiet
  have hreports : (t.step .parse).reports = [first] := by decide +kernel
  refine ⟨hquiet, ⟨report, e', s', hparse, hagain⟩, fun n => ?_⟩
  rw [hrepeated n, hreports]
  rfl

end Ledger

end Endpoint

end ServoLink
