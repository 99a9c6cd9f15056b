import ServoLink.Proofs.Device.Channel
import ServoLink.Proofs.Link.Recovery

/-!
# Faults of observers

An observer of a station is called when the value that has arrived is stored. If it raises a
fault, its handler raises it, the parse pass ends, and the value stays
(`Station.replaces_of_fault`). This completes what there is to say about faults: whatever
callback raises one and wherever it cuts a pass, the endpoint stays consistent and the next
pass goes on (`Endpoint.Recovery.recovers`).
-/

namespace ServoLink

open Registry

variable {σ α μ : Type}

/-- A mount that keeps what it is given, with observers that leave it there, whatever faults
they raise. -/
structure Mount.Retains (m : Mount σ α μ) : Prop where
  get_set : ∀ a s, m.get (m.set a s) = a
  get_notify : ∀ v s, m.get (m.notify v s).2 = m.get s

/-- **A fault on a channel comes from an observer**, and the value it was told is stored. -/
theorem Station.replaces_of_fault {mount : Mount σ Station Notice} (hm : mount.Retains)
    {c : Channel} {f : Frame} {s s' : σ} {fault : Fault}
    (h : deliver (slot mount c.key) f s = (.error fault, s')) :
    ∃ n x, c.read f.payload = .ok n ∧ n.entry? = some x ∧
      (mount.get s).Replaces x n (mount.get s') := by
  have hcomes := comes_deliver mount c f s
  rw [h] at hcomes
  cases hcomes with
  | @raised n st _ _ hread hstore hnotify =>
    obtain ⟨x, hentry, hreplaces⟩ := replaces_of_absorb hstore
    have hkept := hm.get_notify n (mount.set st s)
    rw [hnotify, hm.get_set] at hkept
    rw [← hkept] at hreplaces
    exact ⟨n, x, hread, hentry, hreplaces⟩

namespace Endpoint.Recovery

/-- **An endpoint recovers from faults.** Let any callbacks raise faults at any frames of any
stream.

At every moment the history is consistent. Passes made until one completes come to an end;
then every frame of the stream has had its turn, exactly once and in order, and what is left
of the stream is held. Where passes are always completed, the bytes taken in, the runs of
garbage and the gaps are those of any other endpoint that is handed the same, in particular of
one whose callbacks raise no fault.

A fault ends a pass at the turn in which it was raised. The frame has been taken, and the next
sequence number is expected from it. If its handler raised the fault, nothing was counted for
the frame; if the tap did, the frame has been counted and the answer to it queued. If it was an
observer of a station, the value that has arrived is stored. -/
theorem recovers (config : LinkConfig) (registry : Registry σ) (tap : Option (Tap σ)) (s : σ)
    (moves : List Move) :
    let t := run (fresh config registry tap) s moves
    let scan := Scan.run config.frame t.accepted
    Consistent config registry tap s t ∧
    (∃ n report, t.settle = pass^[n + 1] t ∧ (pass^[n] t).answer = .ok report ∧
      Consistent config registry tap s t.settle ∧
      t.settle.turns.map (·.frame) = scan.frames ∧ t.settle.endpoint.sync.buffer = scan.rest ∧
      t.settle.endpoint.counters.transportErrors = Counter.bump 0 scan.garbageRuns) ∧
    (Thorough moves → ∀ {τ : Type} (registry' : Registry τ) (tap' : Option (Tap τ)) (s' : τ),
      let u := run (fresh config registry' tap') s' moves
      t.accepted = u.accepted ∧
        t.endpoint.counters.transportErrors = u.endpoint.counters.transportErrors ∧
        t.endpoint.counters.sequenceGaps = u.endpoint.counters.sequenceGaps) ∧
    ∀ fault, t.answer = .error fault →
      ∃ earlier turn, t.pass.turns = t.turns ++ earlier ++ [turn] ∧
        (∀ t ∈ earlier, ∃ d, outcome registry.slot t = .ok d) ∧
        t.pass.endpoint.lastReceived = some turn.frame.seq ∧
        Cut registry.slot tap t fault earlier turn ∧
        ∀ (mount : Mount σ Station Station.Notice) (c : Station.Channel), mount.Retains →
          registry.slot c.key = Station.slot mount c.key → turn.frame.key = c.key →
          outcome registry.slot turn = .error fault →
          ∃ n x, c.read turn.frame.payload = .ok n ∧ n.entry? = some x ∧
            (mount.get turn.state).Replaces x n (mount.get t.pass.state) := by
  intro t scan
  have haccount : Account config.frame (fresh config registry tap) s t :=
    account_run config registry tap s moves
  refine ⟨haccount.consistent, ?_, fun hthorough τ registry' tap' s' => ?_, fun fault hfault => ?_⟩
  · obtain ⟨n, report, hsettle, hok, -⟩ := t.settle_eq
    exact ⟨n, report, hsettle, hok, haccount.settle.consistent, haccount.of_settle⟩
  · intro u
    have hstep : Lockstep t u := lockstep_run config registry tap s registry' tap' s' hthorough
    obtain ⟨htransport, hgaps, -⟩ :=
      hstep.noted haccount (account_run config registry' tap' s' moves)
    exact ⟨hstep.accepted, htransport, hgaps⟩
  · obtain ⟨earlier, turn, hturns, hearlier, hlast, hcut⟩ := haccount.cut hfault
    refine ⟨earlier, turn, hturns, hearlier, hlast, hcut, ?_⟩
    intro mount c hm hslot hkey houtcome
    cases hcut with
    | handler hdeliver =>
      have hraised : deliver (registry.slot turn.frame.key) turn.frame turn.state = _ := hdeliver
      rw [hkey, hslot] at hraised
      exact Station.replaces_of_fault hm hraised
    | tap _ hdeliver =>
      have hok : outcome registry.slot turn = .ok _ := congrArg Prod.fst hdeliver
      cases houtcome.symm.trans hok

/-- An observer raises a fault over the identity of motor 3: the identity is stored, nothing
is counted, and the frame behind it has its turn in the next pass. -/
theorem recovers_observer :
    let mount : Mount Station Station Station.Notice :=
      { get := id, set := fun st _ => st, notify := fun _ st => (some { message := "" }, st) }
    let config : LinkConfig := { frame := { integrity := .unchecked } }
    let registry := (Station.bind mount (.new config)).registry
    let info : Station.Notice := .motors (.info { motorId := 3 })
    let f : Frame := .forKey info.key info.payload
    let g : Frame := { seq := 1, component := 9, data := 9 }
    let t := run (fresh config registry none) {}
      [.push (f.wire config.frame ++ g.wire config.frame)]
    t.answer.isOk = false ∧ t.pass.state.entry (.motorInfo ⟨3, by decide⟩) = info ∧
      t.pass.endpoint.counters.success = 0 ∧ t.pass.endpoint.lastReceived = some 0 ∧
      t.settle.turns.map (·.frame) = [f, g] ∧ t.settle.endpoint.counters.decodeErrors.val = 1 := by
  intro mount config registry info f g t
  obtain ⟨-, ⟨n, report, -, -, -, hturns, -⟩, -, hfault⟩ := recovers config registry none {}
    [.push (f.wire config.frame ++ g.wire config.frame)]
  have hfound : t.settle.turns.map (·.frame) = [f, g] := hturns.trans (by decide +kernel)
  have hraised : t.answer.isOk = false := by decide +kernel
  have hpass : t.pass.turns.map (·.frame) = [f] := by decide +kernel
  rcases hanswer : t.answer with fault | report
  · obtain ⟨earlier, turn, hturn, -, hlast, hcut, hobserver⟩ := hfault fault hanswer
    have hframe : turn.frame = f := by
      rw [hturn, List.map_append] at hpass
      have hlast : _ ++ [turn.frame] = [] ++ [f] := hpass
      exact List.singleton_inj.1 (List.append_inj_right' hlast rfl)
    have houtcome : outcome registry.slot turn = .error fault := by
      cases hcut with
      | handler hdeliver => exact congrArg Prod.fst hdeliver
      | tap htap => cases htap
    obtain ⟨m, x, hread, hentry, hreplaces⟩ := hobserver mount .motorInfo
      ⟨fun _ _ => rfl, fun _ _ => rfl⟩ rfl (congrArg Frame.key hframe) houtcome
    rw [hframe] at hread hlast
    obtain rfl : info = m := Except.ok.inj hread
    obtain rfl : .motorInfo ⟨3, by decide⟩ = x := Option.some.inj hentry
    exact ⟨rfl, (congrFun hreplaces.entries _).trans (Function.update_self ..),
      by decide +kernel, hlast, hfound, by decide +kernel⟩
  · rw [hanswer] at hraised
    cases hraised

end Endpoint.Recovery

end ServoLink
