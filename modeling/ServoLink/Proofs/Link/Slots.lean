import ServoLink.Link.Registry

/-!
# What a slot makes of a frame

A frame is for the slot of its key. A handler that answers read requests answers an empty
frame (`Registry.deliver_of_asked`). It takes any other frame of the length that it asks for,
and decides about it (`Registry.deliver_of_unasked`). `Registry.Becomes` lists the ways in
which this can go, and there are no others (`Registry.becomes_iff`).
-/

namespace ServoLink

variable {σ : Type}

/-- What becomes of a frame whose handler gives this verdict. -/
def Verdict.outcome : Verdict → Except Fault Dispatch
  | .accepted => .ok .delivered
  | .rejected reason => .ok (.rejected reason)
  | .failed fault => .error fault

namespace Registry

variable {h : Handler σ} {f : Frame}

/-- An empty frame is a read request where requests are answered. -/
theorem deliver_of_asked {respond : σ → Except Fault Bytes} (hrespond : h.respond = some respond)
    (hempty : f.payload = []) (s : σ) :
    deliver (.handler h) f s = ((respond s).map .reply, s) := by
  unfold deliver
  dsimp only
  rw [hrespond, hempty]
  rfl

/-- Any other frame goes by its length, and then by the verdict. -/
theorem deliver_of_unasked (hask : h.respond = none ∨ f.payload ≠ []) (s : σ) :
    deliver (.handler h) f s =
      if h.expectedLength.any (· != f.payload.length) then
        (.ok (.lengthMismatch (h.expectedLength.getD 0) f.payload.length), s)
      else ((h.receive f s).1.outcome, (h.receive f s).2) := by
  unfold deliver
  dsimp only
  split
  · rename_i hrespond hempty
    rcases hask with hnone | hfull
    · cases hnone.symm.trans hrespond
    · exact absurd (List.isEmpty_iff.1 hempty) hfull
  · split
    · rfl
    · rcases h.receive f s with ⟨accepted | reason | fault, s'⟩ <;> rfl

/-- A frame that is no read request, of a length that its handler takes, comes to the
verdict. -/
theorem deliver_of_taken (hask : h.respond = none ∨ f.payload.isEmpty = false)
    (hlength : h.expectedLength.any (· != f.payload.length) = false) (s : σ) :
    deliver (.handler h) f s = ((h.receive f s).1.outcome, (h.receive f s).2) := by
  rw [deliver_of_unasked (hask.imp_right List.isEmpty_eq_false_iff.1),
    if_neg (Bool.eq_false_iff.1 hlength)]

/-- Where no request is made or none is answered, no answer comes. -/
theorem deliver_ne_reply (hask : h.respond = none ∨ f.payload ≠ []) (s : σ) (payload : Bytes) :
    (deliver (.handler h) f s).1 ≠ .ok (.reply payload) := by
  rw [deliver_of_unasked hask]
  split
  · nofun
  · rcases (h.receive f s).1 with _ | _ | _ <;> nofun

/-- A length that is not the one asked for. -/
theorem deliver_of_mismatch {expected : Nat} (hask : h.respond = none ∨ f.payload ≠ [])
    (hexpected : h.expectedLength = some expected) (hne : expected ≠ f.payload.length) (s : σ) :
    deliver (.handler h) f s = (.ok (.lengthMismatch expected f.payload.length), s) := by
  rw [deliver_of_unasked hask, hexpected]
  exact if_pos (bne_iff_ne.2 hne)

/-- **What becomes of a frame**, by what is in the slot of its key. -/
inductive Becomes (f : Frame) (s : σ) : Slot σ → Except Fault Dispatch → Prop
  /-- Nothing is registered. -/
  | unregistered : Becomes f s .empty (.ok .unregistered)
  /-- A wildcard takes any frame. -/
  | accepted : Becomes f s .wildcard (.ok .accepted)
  /-- An empty frame is a read request for a handler that answers those. -/
  | reply {h : Handler σ} {respond : σ → Except Fault Bytes} (hrespond : h.respond = some respond)
      (hempty : f.payload = []) : Becomes f s (.handler h) ((respond s).map .reply)
  /-- Any other frame must have the length that the handler asks for. -/
  | lengthMismatch {h : Handler σ} {expected : Nat} (hask : h.respond = none ∨ f.payload ≠ [])
      (hexpected : h.expectedLength = some expected) (hne : expected ≠ f.payload.length) :
      Becomes f s (.handler h) (.ok (.lengthMismatch expected f.payload.length))
  /-- Then the handler decides. -/
  | verdict {h : Handler σ} (hask : h.respond = none ∨ f.payload ≠ [])
      (hfits : ∀ expected, h.expectedLength = some expected → expected = f.payload.length) :
      Becomes f s (.handler h) (h.receive f s).1.outcome

/-- A handler that asks for no other length. -/
theorem any_ne_eq_false_iff {asked : Option Nat} {length : Nat} :
    asked.any (· != length) = false ↔ ∀ expected, asked = some expected → expected = length := by
  cases asked <;> simp

/-- **It is what the slot makes of it**, and nothing else. -/
theorem becomes_iff {slot : Slot σ} {s : σ} {outcome : Except Fault Dispatch} :
    Becomes f s slot outcome ↔ (deliver slot f s).1 = outcome := by
  constructor
  · rintro (_ | _ | ⟨hrespond, hempty⟩ | ⟨hask, hexpected, hne⟩ | ⟨hask, hfits⟩)
    · rfl
    · rfl
    · rw [deliver_of_asked hrespond hempty]
    · rw [deliver_of_mismatch hask hexpected hne]
    · rw [deliver_of_unasked hask, any_ne_eq_false_iff.2 hfits]
      rfl
  · rintro rfl
    cases slot with
    | empty => exact .unregistered
    | wildcard => exact .accepted
    | handler h =>
      by_cases hask : h.respond = none ∨ f.payload ≠ []
      · by_cases hfits : ∀ expected, h.expectedLength = some expected → expected = f.payload.length
        · rw [deliver_of_unasked hask, any_ne_eq_false_iff.2 hfits]
          exact .verdict hask hfits
        · obtain ⟨expected, hnot⟩ := Classical.not_forall.1 hfits
          obtain ⟨hexpected, hne⟩ := Classical.not_imp.1 hnot
          rw [deliver_of_mismatch hask hexpected hne]
          exact .lengthMismatch hask hexpected hne
      · obtain ⟨hsome, hempty⟩ := not_or.1 hask
        obtain ⟨respond, hrespond⟩ := Option.ne_none_iff_exists'.1 hsome
        rw [deliver_of_asked hrespond (Decidable.not_not.1 hempty)]
        exact .reply hrespond (Decidable.not_not.1 hempty)

end Registry

end ServoLink
