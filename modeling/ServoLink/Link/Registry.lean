import ServoLink.Link.Error
import ServoLink.Link.Counters

/-!
# Handlers and their registry

Every key may have a handler that takes the frames addressed to it. What a
handler does, it does to a state `σ` that the link itself never looks into:
the caches of components, the records of an application. The registry finds
the handler of a frame, checks the payload length it asks for, answers read
requests, and counts the frames handled per key. It says what is kept for each
key; `KeyTable` keeps the same in one row.
-/

namespace ServoLink

/-- What a handler made of a frame. -/
inductive Verdict where
  /-- It took the frame. -/
  | accepted
  /-- It refused the content. -/
  | rejected (reason : PayloadError)
  /-- It raised a fault. -/
  | failed (fault : Fault)
  deriving DecidableEq

/-- The receiver of the frames of one key. -/
structure Handler (σ : Type) where
  /-- The only payload length taken, if there is one. -/
  expectedLength : Option Nat := none
  /-- Take a frame, changing the state. -/
  receive : Frame → σ → Verdict × σ
  /-- The payload that answers a read request, which is an empty frame, unless
  a fault is raised in its place. -/
  respond : Option (σ → Except Fault Bytes) := none

namespace Handler

/-- A handler that takes every frame of its key, of whatever length. -/
def raw {σ : Type} (receive : Frame → σ → Option Fault × σ) : Handler σ where
  receive f s :=
    match receive f s with
    | (none, s) => (.accepted, s)
    | (some fault, s) => (.failed fault, s)

/-- The handler with read requests answered. -/
def answering {σ : Type} (h : Handler σ) (respond : σ → Bytes) : Handler σ :=
  { h with respond := some fun s => .ok (respond s) }

/-- Whether read requests are answered. -/
def responds {σ : Type} (h : Handler σ) : Bool :=
  h.respond.isSome

end Handler

/-- What is registered for a key. -/
inductive Slot (σ : Type) where
  /-- Nothing. -/
  | empty
  /-- Any frame counts as handled. -/
  | wildcard
  /-- A handler. -/
  | handler (h : Handler σ)

/-- Whether anything is registered. -/
def Slot.isTaken {σ : Type} : Slot σ → Bool
  | .empty => false
  | _ => true

/-- What became of an intact frame. -/
inductive Dispatch where
  /-- Its handler took it. -/
  | delivered
  /-- Its key is a wildcard. -/
  | accepted
  /-- It is a read request, answered with this payload. -/
  | reply (payload : Bytes)
  /-- Nothing is registered for its key. -/
  | unregistered
  /-- Its payload has not the length its handler asks for. -/
  | lengthMismatch (expected actual : Nat)
  /-- Its handler refused the content. -/
  | rejected (reason : PayloadError)
  deriving DecidableEq

/-- Whether the frame counts as handled. -/
def Dispatch.isSuccess : Dispatch → Bool
  | .delivered | .accepted | .reply _ => true
  | _ => false

/-- The number of frames handled, per key. Keys that are not listed have
none. -/
structure HitCounts where
  /-- One entry per key that was ever hit. -/
  entries : List (Key × Counter) := []

namespace HitCounts

/-- The count of a key. -/
def get (h : HitCounts) (k : Key) : Counter :=
  (h.entries.lookup k).getD 0

/-- Count one more in a list of entries. -/
def bumpIn (k : Key) : List (Key × Counter) → List (Key × Counter)
  | [] => [(k, Counter.bump 0 1)]
  | (k', c) :: rest => if k' = k then (k', c.bump 1) :: rest else (k', c) :: bumpIn k rest

/-- Count one more frame for a key. -/
def bump (h : HitCounts) (k : Key) : HitCounts :=
  ⟨bumpIn k h.entries⟩

/-- Counting a frame raises the count of its key and no other. -/
theorem get_bump (h : HitCounts) (k k' : Key) :
    (h.bump k).get k' = if k' = k then (h.get k').bump 1 else h.get k' := by
  obtain ⟨entries⟩ := h
  simp only [bump, get]
  induction entries with
  | nil =>
    by_cases hk : k' = k
    · simp [bumpIn, hk]
    · simp [bumpIn, List.lookup_cons, hk, beq_eq_false_iff_ne.2 hk]
  | cons entry rest ih =>
    obtain ⟨k₀, c⟩ := entry
    by_cases h₀ : k₀ = k
    · by_cases hk : k' = k
      · simp [bumpIn, h₀, hk]
      · simp [bumpIn, List.lookup_cons, h₀, hk, beq_eq_false_iff_ne.2 hk]
    · by_cases hk : k' = k₀
      · have : ¬ k' = k := fun h => h₀ (hk ▸ h)
        simp [bumpIn, h₀, hk]
      · simp only [bumpIn, h₀, if_false, List.lookup_cons, beq_eq_false_iff_ne.2 hk]
        exact ih

end HitCounts

/-- What is registered for every key, and how many frames each has handled. -/
structure Registry (σ : Type) where
  /-- What is registered for a key. -/
  slot : Key → Slot σ := fun _ => .empty
  /-- The frames handled per key. They stay when a key is registered anew. -/
  hitCounts : HitCounts := {}

namespace Registry

variable {σ : Type}

/-- Put something into the slot of a key. -/
def install (r : Registry σ) (k : Key) (s : Slot σ) : Registry σ :=
  { r with slot := fun k' => if k' = k then s else r.slot k' }

/-- Give a key a handler, in place of what it had. -/
def register (r : Registry σ) (k : Key) (h : Handler σ) : Registry σ :=
  r.install k (.handler h)

/-- Take any frame of a key. -/
def registerWildcard (r : Registry σ) (k : Key) : Registry σ :=
  r.install k .wildcard

/-- Give every key one handler. -/
def registerAll (r : Registry σ) (h : Handler σ) : Registry σ :=
  { r with slot := fun _ => .handler h }

/-- Whether anything is registered for a key. -/
def isRegistered (r : Registry σ) (k : Key) : Bool :=
  (r.slot k).isTaken

/-- The keys with something registered, in ascending order. -/
def keys (r : Registry σ) : List Key :=
  Key.all.filter r.isRegistered

/-- Take any frame of the keys that have nothing registered. The number of
those keys is the first component. -/
def registerRemaining (r : Registry σ) : Nat × Registry σ :=
  ((Key.all.filter fun k => !r.isRegistered k).length,
    { r with slot := fun k =>
        match r.slot k with
        | .empty => .wildcard
        | s => s })

/-- The frames handled for a key. -/
def hits (r : Registry σ) (k : Key) : Counter :=
  r.hitCounts.get k

/-- What a slot makes of a frame. -/
def deliver (slot : Slot σ) (f : Frame) (s : σ) : Except Fault Dispatch × σ :=
  match slot with
  | .empty => (.ok .unregistered, s)
  | .wildcard => (.ok .accepted, s)
  | .handler h =>
    match h.respond, f.payload.isEmpty with
    | some respond, true => ((respond s).map .reply, s)
    | _, _ =>
      if h.expectedLength.any (· != f.payload.length) then
        (.ok (.lengthMismatch (h.expectedLength.getD 0) f.payload.length), s)
      else match h.receive f s with
        | (.accepted, s) => (.ok .delivered, s)
        | (.rejected reason, s) => (.ok (.rejected reason), s)
        | (.failed fault, s) => (.error fault, s)

/-- Route a frame to what is registered for its key, and count it if it was
handled. -/
def dispatch (r : Registry σ) (f : Frame) (s : σ) : Except Fault Dispatch × Registry σ × σ :=
  match deliver (r.slot f.key) f s with
  | (.error fault, s) => (.error fault, r, s)
  | (.ok outcome, s) =>
    (.ok outcome,
      if outcome.isSuccess then { r with hitCounts := r.hitCounts.bump f.key } else r,
      s)

end Registry

end ServoLink
