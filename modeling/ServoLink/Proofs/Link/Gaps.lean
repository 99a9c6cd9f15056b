import Mathlib.Data.Finset.Card
import Mathlib.Order.Interval.Finset.Nat
import ServoLink.Proofs.Link.Cuts
import ServoLink.Proofs.Link.Ledger

/-!
# Frames lost and numbers skipped

A sender numbers its frames in a row. If frame `j` is the next one to arrive after frame `i`, then
`j - i - 1` frames are missing between them. Their numbers are bytes, so that of those missing the
receiver sees what is left over whole rounds of 256 (`Endpoint.skipped_number`). It notes the number
of every frame that it takes from its buffer, whatever becomes of the frame. So what it has counted
at any time are the frames missing so far, except for whole rounds (`Endpoint.Ledger.gaps_eq_lost`).
-/

namespace ServoLink

namespace Endpoint

variable {start : UInt8} {i j : Nat} {later positions : List Nat} {frames : List Frame}

/-! ## Numbers skipped -/

/-- The number that a sender gives to frame `i`, if it begins with `start`. -/
def number (start : UInt8) (i : Nat) : UInt8 :=
  start + UInt8.ofNat i

/-- **Frames that have arrived** from a sender: they stand in its order, at some positions of the
row, and each has its number there. -/
structure Arrived (start : UInt8) (positions : List Nat) (frames : List Frame) : Prop where
  ascending : positions.Pairwise (· < ·)
  numbers : frames.map (·.seq) = positions.map (number start)

/-- How many positions are missing between those next to each other. -/
def losses (positions : List Nat) : List Nat :=
  positions.zipWith (fun i j => j - i - 1) positions.tail

/-- **From one number to a later one** those between them are skipped, but for whole rounds. -/
theorem skipped_number (start : UInt8) (h : i < j) :
    skipped (some (number start i)) (number start j) = (j - i - 1) % 256 := by
  obtain ⟨k, rfl⟩ := Nat.exists_eq_add_of_lt h
  have hbehind : number start (i + k + 1) = number start i + 1 + UInt8.ofNat k := by
    unfold number
    rw [UInt8.ofNat_add, UInt8.ofNat_add]
    ac_rfl
  rw [hbehind, skipped_ahead]
  congr 1
  omega

/-- **What is skipped on the way through some frames** are the positions missing, but for whole
rounds. The first frame skips nothing. -/
theorem tally_of_arrived (h : Arrived start positions frames) :
    (tally frames).2 = ((losses positions).map (· % 256)).sum := by
  -- on the later positions, for every number that was the last one before them
  have hlater : ∀ (later : List Nat) (i skips : Nat), (i :: later).Pairwise (· < ·) →
      ((later.map (number start)).foldl (fun t n => (some n, t.2 + skipped t.1 n))
        (some (number start i), skips)).2
        = skips + ((losses (i :: later)).map (· % 256)).sum := by
    intro later
    induction later with
    | nil => exact fun _ _ _ => rfl
    | cons j later ih =>
      intro i skips h
      obtain ⟨hbefore, hrest⟩ := List.pairwise_cons.1 h
      have hsum : ((losses (i :: j :: later)).map (· % 256)).sum
          = (j - i - 1) % 256 + ((losses (j :: later)).map (· % 256)).sum := List.sum_cons
      rw [List.map_cons, List.foldl_cons, skipped_number start (hbefore j List.mem_cons_self),
        ih j _ hrest, hsum, Nat.add_assoc]
  have htally : tally frames = (positions.map (number start)).foldl
      (fun t n => (some n, t.2 + skipped t.1 n)) (none, 0) := by
    rw [← h.numbers, List.foldl_map]
    rfl
  rw [htally]
  cases positions with
  | nil => rfl
  | cons i later => exact (hlater later i 0 h.ascending).trans (Nat.zero_add _)

/-! ## Frames lost -/

/-- The positions lost: those between the first and the last that are not there. -/
def lost (positions : List Nat) : Finset Nat :=
  (Finset.range (positions.getLast?.getD 0)).filter fun k =>
    k ∉ positions ∧ ∃ i ∈ positions, i < k

/-- They lie before the second of those that are there, or are lost behind it. -/
theorem lost_cons_cons (h : (i :: j :: later).Pairwise (· < ·)) :
    lost (i :: j :: later) = Finset.Ioo i j ∪ lost (j :: later) := by
  obtain ⟨hfirst, hrest⟩ := List.pairwise_cons.1 h
  have hij : i < j := hfirst j List.mem_cons_self
  have hafter : ∀ m ∈ j :: later, j ≤ m := fun m hm => by
    rcases List.mem_cons.1 hm with rfl | hm
    · exact Nat.le_refl m
    · exact Nat.le_of_lt ((List.pairwise_cons.1 hrest).1 m hm)
  have hlast : j ≤ (j :: later).getLast?.getD 0 := by
    rw [List.getLast?_eq_some_getLast (List.cons_ne_nil j later)]
    exact hafter _ (List.getLast_mem _)
  ext k
  unfold lost
  rw [List.getLast?_cons_cons, Finset.mem_union, Finset.mem_Ioo, Finset.mem_filter,
    Finset.mem_filter, Finset.mem_range]
  constructor
  · rintro ⟨hk, hmissing, m, hm, hmk⟩
    obtain ⟨hki, hkrest⟩ := List.ne_and_not_mem_of_not_mem_cons hmissing
    have hkj : k ≠ j := fun h => hkrest (h ▸ List.mem_cons_self)
    have hik : i < k := by
      rcases List.mem_cons.1 hm with rfl | hm
      · exact hmk
      · exact Nat.lt_of_lt_of_le hij (Nat.le_of_lt (Nat.lt_of_le_of_lt (hafter m hm) hmk))
    rcases Nat.lt_or_ge k j with hbefore | hbehind
    · exact .inl ⟨hik, hbefore⟩
    · exact .inr ⟨hk, hkrest, j, List.mem_cons_self, Nat.lt_of_le_of_ne hbehind hkj.symm⟩
  · rintro (⟨hik, hkj⟩ | ⟨hk, hmissing, m, hm, hmk⟩)
    · refine ⟨Nat.lt_of_lt_of_le hkj hlast, ?_, i, List.mem_cons_self, hik⟩
      refine List.not_mem_cons_of_ne_of_not_mem (Nat.ne_of_gt hik) fun hmem => ?_
      exact absurd (hafter k hmem) (Nat.not_le.2 hkj)
    · refine ⟨hk, List.not_mem_cons_of_ne_of_not_mem ?_ hmissing, m, .tail _ hm, hmk⟩
      exact Nat.ne_of_gt (Nat.lt_trans (Nat.lt_of_lt_of_le hij (hafter m hm)) hmk)

/-- **As many are lost as are missing between those next to each other.** -/
theorem card_lost (h : positions.Pairwise (· < ·)) :
    (lost positions).card = (losses positions).sum := by
  induction positions with
  | nil => rfl
  | cons i later ih =>
    cases later with
    | nil =>
      refine Finset.card_eq_zero.2 (Finset.filter_eq_empty_iff.2 fun k hk hlost => ?_)
      obtain ⟨-, m, hm, hmk⟩ := hlost
      rw [List.mem_singleton.1 hm] at hmk
      exact absurd (Finset.mem_range.1 hk) (Nat.not_lt.2 (Nat.le_of_lt hmk))
    | cons j later =>
      obtain ⟨-, hrest⟩ := List.pairwise_cons.1 h
      have hdisjoint : Disjoint (Finset.Ioo i j) (lost (j :: later)) := by
        refine Finset.disjoint_left.2 fun k hk hlost => ?_
        obtain ⟨-, -, m, hm, hmk⟩ := Finset.mem_filter.1 hlost
        obtain ⟨-, hkj⟩ := Finset.mem_Ioo.1 hk
        rcases List.mem_cons.1 hm with rfl | hm
        · exact absurd hmk (Nat.not_lt.2 (Nat.le_of_lt hkj))
        · have hjm := (List.pairwise_cons.1 hrest).1 m hm
          omega
      rw [lost_cons_cons h, Finset.card_union_of_disjoint hdisjoint, Nat.card_Ioo, ih hrest]
      exact List.sum_cons.symm

namespace Ledger

variable {σ : Type} {t : Ledger σ} {c : FrameConfig} {earlier : List Frame}

/-! ## Frames found -/

/-- The frames that a call takes from the buffer, also if a fault ends the pass. -/
def takes (t : Ledger σ) : Call σ → List Frame
  | .parse => (t.endpoint.course {} t.state).map (·.frame)
  | _ => []

/-- The frames that some calls take from the buffer, in order. -/
def finds (t : Ledger σ) : List (Call σ) → List Frame
  | [] => []
  | call :: calls => t.takes call ++ (t.step call).finds calls

/-- The frames that a fresh endpoint finds in the course of some calls. -/
def found (config : LinkConfig) (state : σ) (calls : List (Call σ)) : List Frame :=
  finds { endpoint := .new config, state } calls

/-- **Every call keeps track of what it finds.** -/
theorem tracks_step (h : Tracks c t.accepted earlier t.endpoint) (call : Call σ) :
    Tracks c (t.step call).accepted (earlier ++ t.takes call) (t.step call).endpoint := by
  -- queueing a frame leaves the receive side alone
  have hqueue : ∀ f, Tracks c t.accepted (earlier ++ []) (t.endpoint.enqueueFrame f).2 := by
    intro f
    obtain ⟨events, hreads, hnoted, hframes⟩ := h
    obtain ⟨_, _, _, _, hqueued⟩ := t.endpoint.enqueueFrame_intake f
    rw [hqueued, List.append_nil]
    exact ⟨events, hreads, { hnoted with }, hframes⟩
  cases call with
  | push data =>
    unfold step accepts takes
    dsimp only
    rw [List.append_nil]
    rcases hp : t.endpoint.push data with ⟨err | _, e'⟩
    · dsimp only
      rw [List.append_nil]
      exact h.push_of_error hp
    · exact h.push_of_ok hp
  | parse =>
    obtain ⟨events, hpass⟩ := t.endpoint.exists_pass {} t.state
    have haccepted : (t.step .parse).accepted = t.accepted := by
      unfold step book
      dsimp only
      split <;> rfl
    rw [haccepted]
    exact h.pass hpass
  | register | registerWildcard | registerRemaining | onDispatch | drain | touch =>
    obtain ⟨events, hreads, hnoted, hframes⟩ := h
    exact ⟨events, hreads, { hnoted with }, hframes.trans (List.append_nil _).symm⟩
  | enqueue k payload => exact hqueue (.forKey k payload)
  | enqueueFrame f => exact hqueue f
  | request k => exact hqueue (.forKey k [])

theorem tracks_foldl (h : Tracks c t.accepted earlier t.endpoint) (calls : List (Call σ)) :
    Tracks c (calls.foldl step t).accepted (earlier ++ t.finds calls)
      (calls.foldl step t).endpoint := by
  induction calls generalizing t earlier with
  | nil =>
    rw [finds, List.append_nil]
    exact h
  | cons call calls ih =>
    rw [finds, ← List.append_assoc]
    exact ih (tracks_step h call)

/-- **Every history keeps track of it.** -/
theorem tracks_run (config : LinkConfig) (state : σ) (calls : List (Call σ)) :
    Tracks config.frame (run config state calls).accepted (found config state calls)
      (run config state calls).endpoint := by
  have hfresh : Tracks config.frame [] [] (Endpoint.new config : Endpoint σ) :=
    ⟨[], Synchronizer.reads_new config.frame config.receiveLimit, ⟨rfl, rfl, rfl⟩, rfl⟩
  exact tracks_foldl (t := { endpoint := .new config, state }) hfresh calls

/-! ## What is counted -/

/-- **The gaps counted are the frames lost.** Whatever is asked of an endpoint and whatever becomes
of the frames that it finds, faults included, let them be frames of a sender that numbers them in a
row. Then what it counts, up to the limit of a counter, are the frames missing between every two
that follow each other, each time without whole rounds of 256; the first frame adds nothing. So
where never 256 or more are missing in a row, these are all that are lost between the first and the
last. The frames that it finds are those of the bytes it has taken in, up to those that it still
holds. -/
theorem gaps_eq_lost (config : LinkConfig) (state : σ) (calls : List (Call σ)) (start : UInt8)
    (positions : List Nat) (h : Arrived start positions (found config state calls)) :
    let t := run config state calls
    let gaps := t.endpoint.counters.sequenceGaps
    gaps = Counter.bump 0 ((losses positions).map (· % 256)).sum ∧
      ((∀ missing ∈ losses positions, missing < 256) →
        gaps = Counter.bump 0 (lost positions).card) ∧
      (positions.length ≤ 1 → gaps = 0) ∧
      (Scan.run config.frame t.accepted).frames
        = found config state calls ++ (Scan.run config.frame t.endpoint.sync.buffer).frames := by
  intro t gaps
  have htracks := tracks_run config state calls
  have hgaps : gaps = Counter.bump 0 ((losses positions).map (· % 256)).sum := by
    rw [← tally_of_arrived h]
    exact htracks.gaps.2
  refine ⟨hgaps, fun hshort => ?short, fun hone => ?first, htracks.frames⟩
  case short =>
    have hwhole : (losses positions).map (· % 256) = losses positions :=
      (List.map_congr_left fun missing hmem => Nat.mod_eq_of_lt (hshort missing hmem)).trans
        (List.map_id _)
    rw [hgaps, hwhole, card_lost h.ascending]
  case first =>
    have hnone : losses positions = [] := by
      refine List.eq_nil_of_length_eq_zero ?_
      unfold losses
      rw [List.length_zipWith, List.length_tail]
      omega
    rw [hgaps, hnone]
    rfl

/-- Noise, a frame before the numbers start again, one behind it that nobody takes, and one that
comes after a loss; at the end the first half of another one. -/
theorem gaps_eq_lost_around :
    let sent : Nat → Frame := fun i => { seq := number 250 i, component := 1, data := i.toUInt8 }
    let calls : List (Call Unit) :=
      [.registerWildcard ⟨1, 3⟩, .push (7 :: (sent 3).wire {} ++ (sent 6).wire {}), .parse,
        .push ((sent 300).wire {} ++ ((sent 301).wire {}).take 4), .parse]
    let t := run {} () calls
    Arrived 250 [3, 6, 300] (found {} () calls) ∧
      t.endpoint.counters.sequenceGaps = Counter.bump 0 (2 + 293 % 256) ∧
      t.endpoint.counters.decodeErrors.val = 2 := by
  intro sent calls t
  have harrived : Arrived 250 [3, 6, 300] (found {} () calls) :=
    ⟨by decide, by decide +kernel⟩
  exact ⟨harrived, (gaps_eq_lost {} () calls 250 [3, 6, 300] harrived).1, by decide +kernel⟩

end Ledger

end Endpoint

end ServoLink
