import Mathlib.Data.List.Induction
import ServoLink.Proofs.Link.Course
import ServoLink.Proofs.Link.Keys

/-!
# What stands for a key

A registry in service has handlers registered and frames dispatched, in any order
(`Registry.Service`). What it makes of a frame does not depend on the frames before, nor on
what was registered for other keys, but on what was registered last for the key of the frame:
`Registry.standing` reads this off the calls, and `Registry.Becomes` says what becomes of the
frame then.

Registering anew does not touch the hits of a key. They are the frames of the key that were
handled since the registry was new, and the registry keeps its own count of them apart from
the record in `Registry.Service` (`Registry.Service.shows_run`).
-/

namespace ServoLink

namespace Registry

variable {σ : Type}

/-- What is asked of a registry. -/
inductive Call (σ : Type) where
  /-- Give a key a handler. -/
  | register (k : Key) (h : Handler σ)
  /-- Take any frame of a key. -/
  | registerWildcard (k : Key)
  /-- Take any frame of the keys that have nothing registered. -/
  | registerRemaining
  /-- Route a frame to its handler. -/
  | dispatch (f : Frame)
  /-- What the handlers act on is changed from outside. -/
  | touch (change : σ → σ)

namespace Call

/-- What a call registers for a key by its name. -/
def named (k : Key) : Call σ → Option (Slot σ)
  | .register k' h => if k = k' then some (.handler h) else none
  | .registerWildcard k' => if k = k' then some .wildcard else none
  | .registerRemaining | .dispatch _ | .touch _ => none

/-- A call that fills the slots that are left. -/
def fills : Call σ → Bool
  | .registerRemaining => true
  | _ => false

/-- A call after which something is registered for a key. -/
def Registers (k : Key) : Call σ → Prop
  | .register k' _ | .registerWildcard k' => k = k'
  | .registerRemaining => True
  | .dispatch _ | .touch _ => False

/-- It names the key, or it fills its slot. -/
theorem registers_iff {k : Key} {call : Call σ} :
    call.Registers k ↔ (call.named k).isSome = true ∨ call.fills = true := by
  cases call <;> simp [Registers, named, fills]

/-- Nothing is never registered. -/
theorem isTaken_of_named {k : Key} {call : Call σ} {slot : Slot σ} (h : call.named k = some slot) :
    slot.isTaken = true := by
  cases call with
  | register k' h' =>
    obtain ⟨-, ⟨⟩⟩ := Option.ite_none_right_eq_some.1 h
    rfl
  | registerWildcard k' =>
    obtain ⟨-, ⟨⟩⟩ := Option.ite_none_right_eq_some.1 h
    rfl
  | registerRemaining | dispatch | touch => cases h

end Call

/-! ## The last word -/

/-- What was registered for a key by its name, in order. -/
def namedFor (calls : List (Call σ)) (k : Key) : List (Slot σ) :=
  calls.filterMap (Call.named k)

/-- **What stands for a key after some calls**: the last that was registered for it by its name
or, if nothing was, a wildcard once the slots that were left have been filled. -/
def standing (calls : List (Call σ)) (k : Key) : Slot σ :=
  (namedFor calls k).getLast?.getD (if calls.any Call.fills then .wildcard else .empty)

/-- A slot with any frame taken if there was nothing in it. -/
def orWildcard : Slot σ → Slot σ
  | .empty => .wildcard
  | slot => slot

variable {calls : List (Call σ)} {k : Key}

/-- What was named is taken. -/
theorem isTaken_of_mem_namedFor {slot : Slot σ} (h : slot ∈ namedFor calls k) :
    slot.isTaken = true := by
  obtain ⟨call, -, hcall⟩ := List.mem_filterMap.1 h
  exact Call.isTaken_of_named hcall

theorem orWildcard_of_isTaken {slot : Slot σ} (h : slot.isTaken = true) :
    orWildcard slot = slot := by
  cases slot with
  | empty => cases h
  | wildcard | handler => rfl

/-- **One more call**: it is the last word on a key that it names, and it may fill the slots
that are left. -/
theorem standing_concat (calls : List (Call σ)) (call : Call σ) (k : Key) :
    standing (calls ++ [call]) k = match call.named k with
      | some slot => slot
      | none => if call.fills then orWildcard (standing calls k) else standing calls k := by
  unfold standing namedFor
  rw [List.filterMap_append, List.any_append]
  rcases hnamed : call.named k with _ | slot
  · rw [List.filterMap_cons_none hnamed, List.filterMap_nil, List.append_nil]
    rcases hfills : call.fills with _ | _
    · simp [hfills]
    · rcases hlast : (calls.filterMap (Call.named k)).getLast? with _ | slot
      · cases hany : calls.any Call.fills <;> simp [hfills, orWildcard]
      · have htaken := isTaken_of_mem_namedFor (List.mem_of_getLast? hlast)
        exact (orWildcard_of_isTaken htaken).symm
  · rw [List.filterMap_cons_some hnamed, List.filterMap_nil, List.getLast?_concat]
    rfl

/-- **Something stands for a key once it was registered**, and it is never taken away. -/
theorem isTaken_standing :
    (standing calls k).isTaken = true ↔ ∃ call ∈ calls, call.Registers k := by
  unfold standing
  rcases hlast : (namedFor calls k).getLast? with _ | slot
  · -- no call names the key, and one that registers it fills its slot
    have hnone := List.filterMap_eq_nil_iff.1 (List.getLast?_eq_none_iff.1 hlast)
    have hfilled : (∃ call ∈ calls, call.Registers k) ↔ calls.any Call.fills = true := by
      rw [List.any_eq_true]
      refine exists_congr fun call => and_congr_right fun hmem => ?_
      rw [Call.registers_iff, hnone call hmem]
      exact or_iff_right Bool.false_ne_true
    rw [hfilled]
    show Slot.isTaken (if calls.any Call.fills then .wildcard else .empty) = true ↔ _
    cases calls.any Call.fills <;> exact Iff.rfl
  · have hmem := List.mem_of_getLast? hlast
    obtain ⟨call, hcall, hnamed⟩ := List.mem_filterMap.1 hmem
    refine iff_of_true (isTaken_of_mem_namedFor hmem) ⟨call, hcall, Call.registers_iff.2 (.inl ?_)⟩
    rw [hnamed]
    rfl

/-! ## One call -/

/-- A frame that came to an outcome is counted, and one that raised a fault is not. -/
theorem dispatch_eq (r : Registry σ) (f : Frame) (s : σ) :
    r.dispatch f s =
      ((deliver (r.slot f.key) f s).1,
        match (deliver (r.slot f.key) f s).1 with
        | .ok d => r.tick f d
        | .error _ => r,
        (deliver (r.slot f.key) f s).2) := by
  unfold dispatch
  rcases deliver (r.slot f.key) f s with ⟨fault | d, s'⟩ <;> rfl

/-- The keys in order are those with something registered. -/
theorem mem_keys (r : Registry σ) (k : Key) : k ∈ r.keys ↔ (r.slot k).isTaken = true :=
  List.mem_filter.trans (and_iff_right (Key.mem_all k))

theorem keys_ascending (r : Registry σ) : r.keys.Pairwise Key.Before :=
  Key.pairwise_all.filter _

/-- The keys that have nothing registered. -/
def free (r : Registry σ) : List Key :=
  Key.all.filter fun k => !r.isRegistered k

theorem mem_free (r : Registry σ) (k : Key) : k ∈ r.free ↔ ¬ (r.slot k).isTaken = true := by
  unfold free
  rw [List.mem_filter, and_iff_right (Key.mem_all k), Bool.not_eq_true, Bool.not_eq_true']
  rfl

theorem nodup_free (r : Registry σ) : r.free.Nodup :=
  Key.nodup_all.filter _

/-- **Filling what is left** answers the number of the free keys, and gives each of them a
wildcard. -/
theorem registerRemaining_eq (r : Registry σ) :
    r.registerRemaining =
      (r.free.length, { r with slot := fun k => if k ∈ r.free then .wildcard else r.slot k }) := by
  have hslot : (fun k => match r.slot k with
      | .empty => .wildcard
      | slot => slot) = fun k => if k ∈ r.free then Slot.wildcard else r.slot k := by
    funext k
    rw [if_congr (r.mem_free k) rfl rfl]
    cases r.slot k <;> rfl
  rw [← hslot]
  rfl

/-! ## A registry in service -/

/-- A registry, with what its handlers act on and a record of its own of what it handled. -/
structure Service (σ : Type) where
  /-- The registry as it is now. -/
  registry : Registry σ := {}
  /-- What its handlers act on. -/
  state : σ
  /-- The keys of the frames handled, in order. -/
  handled : List Key := []

namespace Service

/-- One call. -/
def step (t : Service σ) : Call σ → Service σ
  | .register k h => { t with registry := t.registry.register k h }
  | .registerWildcard k => { t with registry := t.registry.registerWildcard k }
  | .registerRemaining => { t with registry := t.registry.registerRemaining.2 }
  | .dispatch f =>
    { registry := (t.registry.dispatch f t.state).2.1
      state := (t.registry.dispatch f t.state).2.2
      handled := t.handled ++
        if Registry.handled (t.registry.dispatch f t.state).1 then [f.key] else [] }
  | .touch change => { t with state := change t.state }

/-- A fresh registry after some calls. -/
def run (state : σ) (calls : List (Call σ)) : Service σ :=
  calls.foldl step { state }

theorem run_concat (state : σ) (calls : List (Call σ)) (call : Call σ) :
    run state (calls ++ [call]) = (run state calls).step call :=
  List.foldl_concat ..

section

variable {t : Service σ} {f : Frame} {s' : σ}

theorem step_dispatch_of_error {fault : Fault}
    (h : deliver (t.registry.slot f.key) f t.state = (.error fault, s')) :
    t.step (.dispatch f) = { t with state := s' } := by
  unfold step
  dsimp only
  rw [dispatch_eq, h]
  exact congrArg (Service.mk t.registry s') (List.append_nil t.handled)

theorem step_dispatch_of_ok {d : Dispatch}
    (h : deliver (t.registry.slot f.key) f t.state = (.ok d, s')) :
    t.step (.dispatch f) =
      { registry := t.registry.tick f d
        state := s'
        handled := t.handled ++ if d.isSuccess then [f.key] else [] } := by
  unfold step
  dsimp only
  rw [dispatch_eq, h]
  rfl

end

/-- A call names a key, or fills its slot, or leaves it alone. -/
theorem slot_step (t : Service σ) (call : Call σ) (k : Key) :
    (t.step call).registry.slot k = match call.named k with
      | some slot => slot
      | none => if call.fills then orWildcard (t.registry.slot k) else t.registry.slot k := by
  cases call with
  | register k' | registerWildcard k' =>
    show (if k = k' then _ else t.registry.slot k) = match (if k = k' then some _ else none) with
      | some slot => slot
      | none => t.registry.slot k
    split <;> rfl
  | dispatch f => exact congrFun (Endpoint.slot_dispatch _ f _) k
  | registerRemaining | touch => rfl

/-- **What is in a slot is the last word on its key.** -/
theorem slot_run (state : σ) (calls : List (Call σ)) (k : Key) :
    (run state calls).registry.slot k = standing calls k := by
  induction calls using List.reverseRecOn with
  | nil => rfl
  | append_singleton calls call ih => rw [run_concat, slot_step, standing_concat, ih]

/-- **The hits of a key are the frames handled on it**, whatever was registered meanwhile. -/
theorem hits_run (state : σ) (calls : List (Call σ)) (k : Key) :
    (run state calls).registry.hits k = Counter.bump 0 ((run state calls).handled.count k) := by
  induction calls using List.reverseRecOn with
  | nil => rfl
  | append_singleton calls call ih =>
    rw [run_concat]
    cases call with
    | register | registerWildcard | registerRemaining | touch => exact ih
    | dispatch f =>
      rcases hdeliver : deliver ((run state calls).registry.slot f.key) f (run state calls).state
        with ⟨fault | d, s'⟩
      · rw [step_dispatch_of_error hdeliver]
        exact ih
      · rw [step_dispatch_of_ok hdeliver]
        dsimp only
        rw [hits_tick, ih, Counter.bump_bump, List.count_append]
        show Counter.bump 0 (_ + if d.isSuccess && f.key == k then 1 else 0)
          = Counter.bump 0 (_ + List.count k (if d.isSuccess then [f.key] else []))
        cases d.isSuccess
        · rfl
        · rw [Bool.true_and, if_pos rfl, List.count_singleton]

/-- **What a registry shows after some calls.** -/
structure Shows (calls : List (Call σ)) (t : Service σ) : Prop where
  /-- What becomes of a frame is up to what stands for its key. -/
  outcome : ∀ f, Becomes f t.state (standing calls f.key) (t.registry.dispatch f t.state).1
  /-- The keys with something registered are those that were registered, -/
  mem_keys : ∀ k, k ∈ t.registry.keys ↔ ∃ call ∈ calls, call.Registers k
  /-- in ascending order. -/
  keys_ascending : t.registry.keys.Pairwise Key.Before
  /-- The others could be filled now: this is their number, and no other slot would change. -/
  remaining : ∃ rest : List Key, rest.Nodup ∧
    (∀ k, k ∈ rest ↔ ¬ ∃ call ∈ calls, call.Registers k) ∧
    t.registry.registerRemaining.1 = rest.length ∧
    ∀ k, t.registry.registerRemaining.2.slot k
      = if k ∈ rest then .wildcard else t.registry.slot k
  /-- The hits of a key are the frames handled on it. -/
  hits : ∀ k, t.registry.hits k = Counter.bump 0 (t.handled.count k)

/-- **A registry is a map in which the last word counts**, with the hits of every key. -/
theorem shows_run (state : σ) (calls : List (Call σ)) : Shows calls (run state calls) where
  outcome f := by
    rw [becomes_iff, ← slot_run state calls, dispatch_eq]
  mem_keys k := by
    rw [Registry.mem_keys, slot_run, isTaken_standing]
  keys_ascending := Registry.keys_ascending _
  remaining := by
    rw [registerRemaining_eq]
    dsimp only
    refine ⟨(run state calls).registry.free, Registry.nodup_free _, fun k => ?_, rfl, fun k => rfl⟩
    rw [Registry.mem_free, slot_run, isTaken_standing]
  hits := hits_run state calls

end Service

end Registry

end ServoLink
