import ServoLink.Link.Registry

/-!
# The flat table of handlers

The entries of all 65536 keys in one row: the slot of each key and the frames
it has handled, at the place of the key in ascending order. `Registry` says
per key what is kept here side by side.
-/

namespace ServoLink

/-- What is kept for a key. -/
structure KeyTable.Entry (σ : Type) where
  /-- What is registered for it. -/
  slot : Slot σ := .empty
  /-- The frames it has handled. -/
  hits : Counter := 0

/-- The entry, with any frame taken if nothing was registered. -/
def KeyTable.Entry.filled {σ : Type} (entry : Entry σ) : Entry σ :=
  match entry.slot with
  | .empty => { entry with slot := .wildcard }
  | _ => entry

/-- A row with one entry for every key. -/
structure KeyTable (σ : Type) where
  /-- The entries, in the order of their keys. -/
  entries : Vector (KeyTable.Entry σ) 65536

namespace KeyTable

variable {σ : Type}

/-- A table with nothing registered. -/
def new : KeyTable σ :=
  ⟨.replicate 65536 {}⟩

/-- The entry of a key. -/
def entry (t : KeyTable σ) (k : Key) : Entry σ :=
  t.entries.get ⟨k.toNat, k.toNat_lt⟩

/-- Replace the entry of a key. -/
def put (t : KeyTable σ) (k : Key) (entry : Entry σ) : KeyTable σ :=
  ⟨t.entries.set k.toNat entry k.toNat_lt⟩

/-- Put something into the slot of a key. Its hits stay. -/
def install (t : KeyTable σ) (k : Key) (slot : Slot σ) : KeyTable σ :=
  t.put k { t.entry k with slot }

/-- Give a key a handler, in place of what it had. -/
def register (t : KeyTable σ) (k : Key) (h : Handler σ) : KeyTable σ :=
  t.install k (.handler h)

/-- Take any frame of a key. -/
def registerWildcard (t : KeyTable σ) (k : Key) : KeyTable σ :=
  t.install k .wildcard

/-- Give every key one handler, one after the other. -/
def registerAll (t : KeyTable σ) (h : Handler σ) : KeyTable σ :=
  Key.all.foldl (fun t k => t.register k h) t

/-- Whether anything is registered for a key. -/
def isRegistered (t : KeyTable σ) (k : Key) : Bool :=
  (t.entry k).slot.isTaken

/-- The keys of the entries with something registered, in the order of the row. -/
def keys (t : KeyTable σ) : List Key :=
  (t.entries.toList.zipIdx.filter fun (entry, _) => entry.slot.isTaken).map
    fun (_, i) => Key.ofNat i

/-- Take any frame of the keys that have nothing registered. The number of
those keys is the first component. -/
def registerRemaining (t : KeyTable σ) : Nat × KeyTable σ :=
  (t.entries.countP fun entry => !entry.slot.isTaken, ⟨t.entries.map Entry.filled⟩)

/-- The frames handled for a key. -/
def hits (t : KeyTable σ) (k : Key) : Counter :=
  (t.entry k).hits

/-- Route a frame to what is registered for its key, and count it there if it
was handled. -/
def dispatch (t : KeyTable σ) (f : Frame) (s : σ) : Except Fault Dispatch × KeyTable σ × σ :=
  let entry := t.entry f.key
  match Registry.deliver entry.slot f s with
  | (.error fault, s) => (.error fault, t, s)
  | (.ok outcome, s) =>
    (.ok outcome,
      if outcome.isSuccess then t.put f.key { entry with hits := entry.hits.bump 1 } else t,
      s)

end KeyTable

end ServoLink
