import ServoLink.Firmware.Upload
import ServoLink.Proofs.Firmware.Schedule
import ServoLink.Proofs.Link.Backpressure
import ServoLink.Proofs.Link.Routing

/-!
# Pumping

An upload is pumped into a send queue that others use as well, and that is handed out
now and then. Each call goes on where the last one stopped: it takes the next frames
of the schedule, as many as there is room for, and no others (`Upload.advances_pump`).
-/

namespace ServoLink

namespace Upload

open Endpoint

variable {σ : Type} {u : Upload} {e : Endpoint σ}

theorem isComplete_iff (u : Upload) : u.isComplete = true ↔ u.total ≤ u.queued :=
  decide_eq_true_iff

/-- **The next frame is the next of the schedule.** -/
theorem sendNext_eq (h : u.isComplete = false) (m : Update) (e : Endpoint σ) :
    ∃ (v : Update.Value) (m' : Update), u.image.schedule[u.queued]? = some v ∧
      u.sendNext m e = ((e.enqueueFrame (Component.frame v)).1.mapError .link, m',
        (e.enqueueFrame (Component.frame v)).2) := by
  have hlt : u.queued ≤ u.image.chunkCount := by
    have := mt u.isComplete_iff.2 (Bool.eq_false_iff.1 h)
    unfold total at this
    omega
  unfold sendNext Image.schedule
  rw [← u.image.getElem?_chunks]
  rcases Nat.lt_or_eq_of_le hlt with hlt | heq
  · have hinside : u.queued < u.image.chunks.length := by
      rw [u.image.length_chunks]
      exact hlt
    refine ⟨.chunk u.image.chunks[u.queued], { m with chunk := u.image.chunks[u.queued] }, ?_, ?_⟩
    · rw [List.getElem?_append_left (by rw [List.length_map]; exact hinside), List.getElem?_map,
        List.getElem?_eq_getElem hinside]
      rfl
    · rw [List.getElem?_eq_getElem hinside]
      dsimp only
      unfold Update.sendChunk
      rw [e.send_eq]
      rfl
  · have houtside : u.image.chunks.length = u.queued := by
      rw [u.image.length_chunks]
      exact heq.symm
    refine ⟨.crc { crc16 := u.image.crc }, { m with crc := { crc16 := u.image.crc } }, ?_, ?_⟩
    · have hend : (u.image.chunks.map Update.Value.chunk).length = u.queued := by
        rw [List.length_map, houtside]
      rw [List.getElem?_append_right (Nat.le_of_eq hend), hend, Nat.sub_self]
      rfl
    · rw [List.getElem?_eq_none (Nat.le_of_eq houtside)]
      dsimp only
      unfold Update.sendCrc
      dsimp only
      rw [e.send_eq]
      rfl

/-- Where the limit lets a chunk pass, nothing but want of room keeps the next frame out. -/
theorem sendNext_cases (h : u.isComplete = false) (m : Update)
    (hlimit : chunkSize ≤ e.config.frame.payloadLimit) :
    ∃ (v : Update.Value) (m' : Update), u.image.schedule[u.queued]? = some v ∧
      (e.Admits (Component.frame v) ∧ u.sendNext m e
          = (.ok (Component.frame v).wireSize, m', (e.enqueueFrame (Component.frame v)).2) ∨
        e.queue.remaining < (Component.frame v).wireSize ∧ u.sendNext m e
          = (.error (.link (.queueFull (Component.frame v).wireSize e.queue.remaining)), m',
            (e.enqueueFrame (Component.frame v)).2)) := by
  obtain ⟨v, m', hv, hnext⟩ := sendNext_eq h m e
  have hfit : (Component.frame v).payload.length ≤ e.config.frame.payloadLimit :=
    Nat.le_trans (Image.length_payload_le v) hlimit
  refine ⟨v, m', hv, ?_⟩
  by_cases hroom : (Component.frame v).wireSize ≤ e.queue.remaining
  · refine .inl ⟨⟨hfit, hroom⟩, ?_⟩
    rw [hnext, enqueueFrame_of_admits ⟨hfit, hroom⟩]
    rfl
  · refine .inr ⟨Nat.not_le.1 hroom, ?_⟩
    rw [hnext, enqueueFrame_of_remaining_lt hfit (Nat.not_le.1 hroom)]
    rfl

/-- **What pumping did**: it took some frames, which are the next of the schedule, and
some are taken if there is room for a chunk. -/
structure Advances (u : Upload) (e : Endpoint σ) (p : Pumped σ) (frames : List Frame) : Prop where
  answer : p.1 = .ok p.2.1.isComplete
  upload : p.2.1 = { u with queued := u.queued + frames.length }
  bounded : u.queued ≤ u.total → p.2.1.queued ≤ u.total
  content : frames.map Frame.content
    = ((u.image.schedule.drop u.queued).take frames.length).map fun v =>
        (Component.frame v).content
  took : Took e frames p.2.2.2
  holds : Holds e p.2.2.2
  progress : u.isComplete = false → headerSize + chunkSize ≤ e.queue.remaining → frames ≠ []

variable {v : Update.Value} {p : Pumped σ} {frames : List Frame}

/-- A frame for which there is no room ends the pumping. -/
theorem advances_of_full (h : u.isComplete = false) (m : Update)
    (hfull : e.queue.remaining < (Component.frame v).wireSize) :
    Advances u e (.ok false, u, m, (e.enqueueFrame (Component.frame v)).2) [] := by
  have hno : ¬ e.Admits (Component.frame v) := fun hadmits => Nat.not_lt.2 hadmits.2 hfull
  have htook := e.took_enqueueFrame (Component.frame v)
  obtain ⟨err, hrefused⟩ := enqueueFrame_of_not_admits hno
  unfold taken at htook
  rw [hrefused] at htook
  refine ⟨congrArg Except.ok h.symm, rfl, id, rfl, ?_, holds_enqueueFrame _ _, fun _ hroom => ?_⟩
  · rw [hrefused]
    exact htook
  · have hsize : (Component.frame v).wireSize ≤ headerSize + chunkSize :=
      Nat.add_le_add_left (Image.length_payload_le v) _
    omega

/-- A frame that is taken is the first of those that are. -/
theorem Advances.next (hmore : u.isComplete = false) (hv : u.image.schedule[u.queued]? = some v)
    (hadmits : e.Admits (Component.frame v))
    (h : Advances { u with queued := u.queued + 1 } (e.enqueueFrame (Component.frame v)).2 p
      frames) :
    Advances u e p ({ Component.frame v with seq := e.nextSeq } :: frames) := by
  have htook := e.took_enqueueFrame (Component.frame v)
  rw [taken_of_admits hadmits] at htook
  have hlt : u.queued < u.total := Nat.not_le.1 (mt u.isComplete_iff.2 (Bool.eq_false_iff.1 hmore))
  obtain ⟨hinside, hget⟩ := List.getElem?_eq_some_iff.1 hv
  refine ⟨h.answer, ?_, fun _ => h.bounded hlt, ?_, htook.append h.took,
    persists_holds.trans (holds_enqueueFrame _ _) h.holds, fun _ _ => List.cons_ne_nil _ _⟩
  · rw [h.upload, List.length_cons, Nat.add_assoc, Nat.add_comm 1]
  · rw [List.drop_eq_getElem_cons hinside, List.length_cons, List.take_succ_cons, List.map_cons,
      List.map_cons, h.content, hget]
    rfl

/-- **Pumping takes the next frames of the schedule**, where the limit lets a chunk pass. -/
theorem advances_pump (u : Upload) (m : Update) (e : Endpoint σ)
    (hlimit : chunkSize ≤ e.config.frame.payloadLimit) :
    ∃ frames, Advances u e (u.pump m e) frames := by
  fun_induction pump u m e with
  | case1 u m e hcomplete =>
    refine ⟨[], congrArg Except.ok hcomplete.symm, rfl, id, rfl, .nil ⟨rfl, rfl, rfl, rfl⟩,
      .of_queue rfl rfl rfl, fun hmore => ?_⟩
    cases hcomplete.symm.trans hmore
  | case2 u m e hmore n m' e' hsend ih =>
    have hmore := Bool.eq_false_iff.2 hmore
    obtain ⟨v, m₁, hv, ⟨hadmits, hnext⟩ | ⟨-, hnext⟩⟩ := sendNext_cases hmore m hlimit
    · cases hsend.symm.trans hnext
      have hconfig := (e.took_enqueueFrame (Component.frame v)).config
      obtain ⟨frames, h⟩ := ih (by rw [hconfig]; exact hlimit)
      exact ⟨_, h.next hmore hv hadmits⟩
    · cases hsend.symm.trans hnext
  | case3 u m e hmore needed available m' e' hsend =>
    have hmore := Bool.eq_false_iff.2 hmore
    obtain ⟨v, m₁, -, ⟨-, hnext⟩ | ⟨hfull, hnext⟩⟩ := sendNext_cases hmore m hlimit
    · cases hsend.symm.trans hnext
    · cases hsend.symm.trans hnext
      exact ⟨[], advances_of_full hmore _ hfull⟩
  | case4 u m e hmore err m' e' hother hsend =>
    have hmore := Bool.eq_false_iff.2 hmore
    obtain ⟨v, m₁, -, ⟨-, hnext⟩ | ⟨-, hnext⟩⟩ := sendNext_cases hmore m hlimit
    · cases hsend.symm.trans hnext
    · cases hsend.symm.trans hnext
      exact absurd rfl (hother _ _)

end Upload

end ServoLink
