import ServoLink.Message.Basic
import ServoLink.Proofs.Link.Cuts
import ServoLink.Proofs.Link.Ledger
import ServoLink.Proofs.Link.Observer

/-!
# Properties that every callback preserves

What the handlers of an endpoint act on is changed by them, by the tap, and by whoever else
holds it. Whatever is asked of the endpoint, and however its parse passes end, a property that
all of these preserve is preserved (`Endpoint.Ledger.preserves_step`). The handlers may change
meanwhile, as long as the new ones preserve it too.

The callbacks of others leave a part of the state as it is. They preserve every property of
that part (`Endpoint.preserves_of_look`).
-/

namespace ServoLink

open Registry

variable {σ α : Type} {P : σ → Prop} {look : σ → α} {Q : α → Prop}

/-! ## Callbacks -/

/-- A slot preserves a property if every frame does, whatever becomes of the frame. -/
def Slot.Preserves (slot : Slot σ) (P : σ → Prop) : Prop :=
  ∀ f s, P s → P (deliver slot f s).2

/-- So does a tap if it does whatever it is told. -/
def Tap.Preserves (tap : Tap σ) (P : σ → Prop) : Prop :=
  ∀ f d n s, P s → P (tap f d n s).2

/-- Nothing acts on the state where nothing is registered. -/
theorem Slot.preserves_empty : (Slot.empty : Slot σ).Preserves P :=
  fun _ _ hs => hs

/-- A wildcard does not act on it either. -/
theorem Slot.preserves_wildcard : (Slot.wildcard : Slot σ).Preserves P :=
  fun _ _ hs => hs

/-- A handler acts on it where it decides about a frame, and not where it answers a request
or asks for another length. -/
theorem Slot.preserves_handler {h : Handler σ} (hreceive : ∀ f s, P s → P (h.receive f s).2) :
    (Slot.handler h).Preserves P := by
  intro f s hs
  by_cases hask : h.respond = none ∨ f.payload ≠ []
  · rw [deliver_of_unasked hask]
    split
    · exact hs
    · exact hreceive f s hs
  · obtain ⟨hsome, hempty⟩ := not_or.1 hask
    obtain ⟨respond, hrespond⟩ := Option.ne_none_iff_exists'.1 hsome
    rw [deliver_of_asked hrespond (not_not.1 hempty)]
    exact hs

/-- A handler of messages acts on it for those that it can read. -/
theorem Slot.preserves_typed {β : Type} [Message β] {receive : β → σ → Verdict × σ}
    (hreceive : ∀ m s, P s → P (receive m s).2) (respond : Option (σ → Except Fault Bytes)) :
    (Slot.handler { Handler.typed receive with respond }).Preserves P := by
  refine Slot.preserves_handler fun f s hs => ?_
  unfold Handler.typed
  dsimp only
  rcases (Message.ofPayload f.payload : Except PayloadError β) with reason | m
  · exact hs
  · exact hreceive m s hs

/-- What is left as it is, is left with all that holds of it. -/
theorem Slot.preserves_of_look {slot : Slot σ} (h : ∀ a, slot.Preserves (look · = a)) :
    slot.Preserves (Q <| look ·) := by
  intro f s hs
  show Q (look _)
  rw [h (look s) f s rfl]
  exact hs

theorem Tap.preserves_of_look {tap : Tap σ} (h : ∀ a, tap.Preserves (look · = a)) :
    tap.Preserves (Q <| look ·) := by
  intro f d n s hs
  show Q (look _)
  rw [h (look s) f d n s rfl]
  exact hs

namespace Endpoint

variable {e e' : Endpoint σ}

/-- **Every callback of an endpoint preserves a property.** -/
structure Preserves (e : Endpoint σ) (P : σ → Prop) : Prop where
  slot : ∀ k, (e.registry.slot k).Preserves P
  tap : ∀ tap, e.tap = some tap → tap.Preserves P

theorem preserves_new (config : LinkConfig) : (new config : Endpoint σ).Preserves P :=
  ⟨fun _ => Slot.preserves_empty, nofun⟩

/-- Callbacks that leave what is looked at as it is preserve whatever holds of it. -/
theorem preserves_of_look (h : ∀ a, e.Preserves (look · = a)) : e.Preserves (Q <| look ·) where
  slot k := Slot.preserves_of_look fun a => (h a).slot k
  tap tap hset := Tap.preserves_of_look fun a => (h a).tap tap hset

/-- It goes by what is registered. -/
theorem Preserves.congr (h : e.Preserves P) (hslot : e'.registry.slot = e.registry.slot)
    (htap : e'.tap = e.tap) : e'.Preserves P where
  slot k := hslot ▸ h.slot k
  tap tap hset := h.tap tap (htap ▸ hset)

/-- Something else is put into the slot of a key. -/
theorem Preserves.install (h : e.Preserves P) (k : Key) {slot : Slot σ}
    (hslot : slot.Preserves P) :
    Preserves { e with registry := e.registry.install k slot } P where
  slot k' := by
    show (if k' = k then slot else e.registry.slot k').Preserves P
    split
    · exact hslot
    · exact h.slot k'
  tap := h.tap

/-- The slots that are left are filled. -/
theorem Preserves.registerRemaining (h : e.Preserves P) : e.registerRemaining.2.Preserves P where
  slot k := by
    have hk := h.slot k
    unfold Endpoint.registerRemaining Registry.registerRemaining
    dsimp only
    split
    · exact Slot.preserves_wildcard
    · exact hk
  tap := h.tap

/-- Turns taken one after the other preserve it. -/
theorem Acted.preserves {slot : Key → Slot σ} {tap : Option (Tap σ)} {s s' : σ}
    {turns : List (Turn σ)} (h : Acted slot tap s turns s') (hslot : ∀ k, (slot k).Preserves P)
    (htap : ∀ observe, tap = some observe → observe.Preserves P) (hs : P s) : P s' := by
  induction h with
  | nil => exact hs
  | cons t n _ ih =>
    refine ih ?_
    -- the handler acts first, and then the tap, if it is told
    have hhandled := hslot t.frame.key t.frame t.state hs
    unfold after
    generalize deliver (slot t.frame.key) t.frame t.state = delivered at hhandled
    obtain ⟨fault | d, s⟩ := delivered
    · exact hhandled
    · rcases tap with _ | observe
      · exact hhandled
      · exact htap observe rfl t.frame d n s hhandled

/-- **A parse pass preserves it**, however it ends. -/
theorem Preserves.parse (h : e.Preserves P) {s : σ} (hs : P s) : P (e.parse s).2.2 := by
  obtain ⟨events, hpass⟩ := e.exists_pass {} s
  exact hpass.acted.preserves h.slot h.tap hs

namespace Ledger

/-- What is asked of an endpoint brings in no callback, and no change from outside, that would
not preserve a property. -/
def Call.Preserves (call : Call σ) (P : σ → Prop) : Prop :=
  match call with
  | .register _ h => (Slot.handler h).Preserves P
  | .onDispatch tap => tap.Preserves P
  | .touch change => ∀ s, P s → P (change s)
  | .push _ | .parse | .registerWildcard _ | .registerRemaining | .enqueue .. | .enqueueFrame _
  | .request _ | .drain => True

theorem Call.preserves_of_look {call : Call σ} (h : ∀ a, call.Preserves (look · = a)) :
    call.Preserves (Q <| look ·) := by
  cases call with
  | register k handler => exact Slot.preserves_of_look h
  | onDispatch tap => exact Tap.preserves_of_look h
  | touch change =>
    intro s hs
    show Q (look _)
    rw [h (look s) s rfl]
    exact hs
  | _ => trivial

/-- **Whatever is asked of an endpoint preserves it**, and so do its callbacks afterwards. -/
theorem preserves_step {t : Ledger σ} (he : t.endpoint.Preserves P) (hs : P t.state)
    {call : Call σ} (hcall : call.Preserves P) :
    (t.step call).endpoint.Preserves P ∧ P (t.step call).state := by
  have queued (f : Frame) : (t.endpoint.enqueueFrame f).2.Preserves P := by
    obtain ⟨hslot, htap⟩ := persists_set.onEnqueue t.endpoint f
    exact he.congr hslot htap
  cases call with
  | push data =>
    refine ⟨?_, hs⟩
    unfold step
    dsimp only
    rcases t.endpoint.push_cases data with hpush | ⟨err, hpush⟩ <;> rw [hpush] <;>
      exact he.congr rfl rfl
  | parse =>
    obtain ⟨hslot, htap⟩ := persists_set.parse t.endpoint t.state
    exact ⟨he.congr hslot htap, he.parse hs⟩
  | register k h => exact ⟨he.install k hcall, hs⟩
  | registerWildcard k => exact ⟨he.install k Slot.preserves_wildcard, hs⟩
  | registerRemaining => exact ⟨he.registerRemaining, hs⟩
  | onDispatch tap =>
    refine ⟨⟨he.slot, fun tap' htap => ?_⟩, hs⟩
    obtain rfl := Option.some.inj htap
    exact hcall
  | enqueue | enqueueFrame | request => exact ⟨queued _, hs⟩
  | drain => exact ⟨he.congr rfl rfl, hs⟩
  | touch change => exact ⟨he, hcall _ hs⟩

end Ledger

end Endpoint

end ServoLink
