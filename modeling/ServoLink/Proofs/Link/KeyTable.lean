import ServoLink.Link.KeyTable
import ServoLink.Proofs.Link.Registration

/-!
# The flat table and the registry

A flat table keeps the entries of all keys in one row. A registry says what is kept for each
key, and leaves open where. The two agree if every key has the same slot and the same hits
(`KeyTable.Agrees`). They answer every question alike then, and agree again after every call,
so that a fresh table and a fresh registry are never told apart (`KeyTable.agrees_run`). What
holds of a registry in service holds of a table (`KeyTable.last_word_run`).
-/

namespace ServoLink

namespace KeyTable

variable {σ : Type} {t : KeyTable σ} {r : Registry σ}

/-! ## The row -/

/-- Where the entry of a key stands: at its component and its message type, side by side. -/
theorem getElem?_entries (t : KeyTable σ) (k : Key) :
    t.entries[k.component.toNat <<< 8 ||| k.data.toNat]? = some (t.entry k) := by
  rw [← Key.toNat_eq]
  exact Vector.getElem?_eq_getElem k.toNat_lt

/-- Whose entry stands at a place. -/
theorem getElem_entries (t : KeyTable σ) {i : Nat} (h : i < 65536) :
    t.entries[i] = t.entry (Key.ofNat i) := by
  unfold entry
  simp only [Key.toNat_ofNat h]
  rfl

/-- An entry that is replaced is that of its key, and of no other. -/
theorem entry_put (t : KeyTable σ) (k k' : Key) (entry : Entry σ) :
    (t.put k entry).entry k' = if k' = k then entry else t.entry k' := by
  have hplace : k.toNat = k'.toNat ↔ k' = k :=
    ⟨fun h => by rw [← k.ofNat_toNat, h, k'.ofNat_toNat], fun h => h ▸ rfl⟩
  refine (Vector.getElem_set k.toNat_lt k'.toNat_lt).trans ?_
  exact if_congr hplace rfl rfl

/-- The row, entry by entry with its place. -/
theorem zipIdx_entries (t : KeyTable σ) :
    t.entries.toList.zipIdx = (List.range 65536).map fun i => (t.entry (Key.ofNat i), i) := by
  refine List.ext_getElem (by simp) fun i hi hi' => ?_
  have hlt : i < 65536 := by simpa using hi
  rw [List.getElem_zipIdx, List.getElem_map, List.getElem_range, Vector.getElem_toList,
    getElem_entries t hlt, Nat.zero_add]

/-- **The row has the entry of every key**, in the order of the keys. -/
theorem toList_entries (t : KeyTable σ) : t.entries.toList = Key.all.map t.entry := by
  rw [← List.zipIdx_map_fst 0 t.entries.toList, zipIdx_entries, List.map_map, Key.all,
    List.map_map]
  rfl

/-- The keys listed are those registered, in their order. -/
theorem keys_eq (t : KeyTable σ) : t.keys = Key.all.filter t.isRegistered := by
  unfold keys
  rw [zipIdx_entries, List.filter_map, List.map_map, Key.all, List.filter_map]
  rfl

/-- Filling an entry does not touch its hits. -/
theorem Entry.filled_eq (entry : Entry σ) :
    entry.filled = { entry with slot := Registry.orWildcard entry.slot } := by
  obtain ⟨slot, hits⟩ := entry
  cases slot <;> rfl

/-! ## Agreement -/

/-- **A table and a registry agree**: they keep the same for every key. -/
structure Agrees (t : KeyTable σ) (r : Registry σ) : Prop where
  /-- The same is registered, -/
  slot : ∀ k, (t.entry k).slot = r.slot k
  /-- and as many frames were handled. -/
  hits : ∀ k, t.hits k = r.hits k

/-- Nothing is registered at first. -/
theorem agrees_new : (new : KeyTable σ).Agrees {} := by
  have hentry : ∀ k, (new : KeyTable σ).entry k = {} := fun k => Vector.getElem_replicate _
  exact ⟨fun k => congrArg Entry.slot (hentry k), fun k => congrArg Entry.hits (hentry k)⟩

namespace Agrees

/-- The same keys are registered. -/
theorem isRegistered (h : t.Agrees r) (k : Key) : t.isRegistered k = r.isRegistered k :=
  congrArg Slot.isTaken (h.slot k)

/-- The same keys are listed. -/
theorem keys (h : t.Agrees r) : t.keys = r.keys := by
  rw [keys_eq]
  exact List.filter_congr fun k _ => h.isRegistered k

/-- They still agree if the entry of one key is replaced by what the registry has for it now. -/
theorem put {r' : Registry σ} (h : t.Agrees r) {k : Key} {entry : Entry σ}
    (hslot : ∀ k', r'.slot k' = if k' = k then entry.slot else r.slot k')
    (hhits : ∀ k', r'.hits k' = if k' = k then entry.hits else r.hits k') :
    (t.put k entry).Agrees r' := by
  refine ⟨fun k' => ?slot, fun k' => ?hits⟩
  case slot =>
    rw [entry_put, hslot, ← h.slot]
    split <;> rfl
  case hits =>
    show ((t.put k entry).entry k').hits = _
    rw [entry_put, hhits, ← h.hits]
    split <;> rfl

/-- What is registered for a key does not touch its hits. -/
theorem install (h : t.Agrees r) (k : Key) (slot : Slot σ) :
    (t.install k slot).Agrees (r.install k slot) := by
  refine h.put (fun _ => rfl) fun k' => ?_
  show r.hits k' = if k' = k then t.hits k else r.hits k'
  split
  · next hk => rw [hk, h.hits]
  · rfl

/-- A frame that was handled counts for its key, and leaves alone what is registered. -/
theorem count (h : t.Agrees r) (k : Key) :
    (t.put k { t.entry k with hits := (t.entry k).hits.bump 1 }).Agrees
      { r with hitCounts := r.hitCounts.bump k } := by
  refine h.put (fun k' => ?slot) fun k' => ?hits
  case slot =>
    show r.slot k' = if k' = k then (t.entry k).slot else r.slot k'
    split
    · next hk => rw [hk, h.slot]
    · rfl
  case hits =>
    refine (r.hitCounts.get_bump k k').trans ?_
    show (if k' = k then (r.hits k').bump 1 else r.hits k')
      = if k' = k then (t.hits k).bump 1 else r.hits k'
    split
    · next hk => rw [hk, h.hits]
    · rfl

/-- Keys that are given a handler one after the other have it, and the others what they had. -/
theorem foldl_register (h : t.Agrees r) (handler : Handler σ) (row : List Key) :
    (row.foldl (fun t k => t.register k handler) t).Agrees
      { r with slot := fun k => if k ∈ row then .handler handler else r.slot k } := by
  induction row generalizing t r with
  | nil =>
    simp only [List.not_mem_nil, if_false]
    exact h
  | cons k row ih =>
    have hrest := ih (h.install k (.handler handler))
    refine ⟨fun k' => (hrest.slot k').trans ?_, hrest.hits⟩
    show (if k' ∈ row then _ else if k' = k then _ else r.slot k')
      = if k' ∈ k :: row then _ else r.slot k'
    by_cases hk : k' = k <;> by_cases hmem : k' ∈ row <;> simp [hk, hmem]

/-- A handler for every key is one for each of them in turn. -/
theorem registerAll (h : t.Agrees r) (handler : Handler σ) :
    (t.registerAll handler).Agrees (r.registerAll handler) := by
  have hslot : (fun k => if k ∈ Key.all then Slot.handler handler else r.slot k)
      = fun _ => .handler handler :=
    funext fun k => if_pos k.mem_all
  unfold KeyTable.registerAll Registry.registerAll
  rw [← hslot]
  exact h.foldl_register handler Key.all

/-- As many slots are free. -/
theorem length_free (h : t.Agrees r) : t.registerRemaining.1 = r.registerRemaining.1 := by
  unfold KeyTable.registerRemaining Registry.registerRemaining
  dsimp only
  rw [← Vector.countP_toList, toList_entries, List.countP_map, List.countP_eq_length_filter]
  exact congrArg List.length (List.filter_congr fun k _ => congrArg (!·) (h.isRegistered k))

theorem registerRemaining (h : t.Agrees r) :
    t.registerRemaining.2.Agrees r.registerRemaining.2 := by
  have hentry : ∀ k, t.registerRemaining.2.entry k = { t.entry k with
      slot := Registry.orWildcard (t.entry k).slot } :=
    fun k => (Vector.getElem_map _ k.toNat_lt).trans (t.entry k).filled_eq
  refine ⟨fun k => ?_, fun k => ?_⟩
  · rw [hentry, h.slot]
    rfl
  · show (t.registerRemaining.2.entry k).hits = _
    rw [hentry]
    exact h.hits k

/-- **A frame comes to the same**, and counts in both or in neither. -/
theorem dispatch (h : t.Agrees r) (f : Frame) (s : σ) :
    (t.dispatch f s).1 = (r.dispatch f s).1 ∧
      (t.dispatch f s).2.1.Agrees (r.dispatch f s).2.1 ∧
      (t.dispatch f s).2.2 = (r.dispatch f s).2.2 := by
  have hslot : Registry.deliver (t.entry f.key).slot f s = Registry.deliver (r.slot f.key) f s := by
    rw [h.slot]
  unfold KeyTable.dispatch Registry.dispatch
  dsimp only
  rw [hslot]
  rcases Registry.deliver (r.slot f.key) f s with ⟨fault | outcome, s'⟩
  · exact ⟨rfl, h, rfl⟩
  · refine ⟨rfl, ?_, rfl⟩
    dsimp only
    split
    · exact h.count f.key
    · exact h

end Agrees

/-! ## A table in service -/

/-- One call, on a table and what its handlers act on. -/
def step (p : KeyTable σ × σ) : Registry.Call σ → KeyTable σ × σ
  | .register k h => (p.1.register k h, p.2)
  | .registerWildcard k => (p.1.registerWildcard k, p.2)
  | .registerRemaining => (p.1.registerRemaining.2, p.2)
  | .dispatch f => (p.1.dispatch f p.2).2
  | .touch change => (p.1, change p.2)

/-- A fresh table after some calls. -/
def run (state : σ) (calls : List (Registry.Call σ)) : KeyTable σ × σ :=
  calls.foldl step (new, state)

/-- A call keeps a table and a registry in agreement, and does the same to what their handlers
act on. -/
theorem agrees_step {s : Registry.Service σ} (h : t.Agrees s.registry)
    (call : Registry.Call σ) :
    (step (t, s.state) call).1.Agrees (s.step call).registry ∧
      (step (t, s.state) call).2 = (s.step call).state := by
  cases call with
  | register k handler => exact ⟨h.install k (.handler handler), rfl⟩
  | registerWildcard k => exact ⟨h.install k .wildcard, rfl⟩
  | registerRemaining => exact ⟨h.registerRemaining, rfl⟩
  | dispatch f => exact (h.dispatch f s.state).2
  | touch change => exact ⟨h, rfl⟩

/-- **A flat table is a registry**: after the same calls they agree. -/
theorem agrees_run (state : σ) (calls : List (Registry.Call σ)) :
    (run state calls).1.Agrees (Registry.Service.run state calls).registry ∧
      (run state calls).2 = (Registry.Service.run state calls).state := by
  induction calls using List.reverseRecOn with
  | nil => exact ⟨agrees_new, rfl⟩
  | append_singleton calls call ih =>
    have hrun : run state (calls ++ [call]) = step (run state calls) call :=
      List.foldl_concat ..
    rw [hrun, Registry.Service.run_concat]
    have hstep := agrees_step ih.1 call
    rwa [← ih.2] at hstep

/-- **The last word counts in a flat table.** What becomes of a frame is up to what was
registered last for its key; the keys listed are those that were registered, in ascending
order; filling the others answers their number; and the hits of a key are the frames handled
on it. -/
theorem last_word_run (state : σ) (calls : List (Registry.Call σ)) :
    let t := (run state calls).1
    let s := (run state calls).2
    (∀ f, Registry.Becomes f s (Registry.standing calls f.key) (t.dispatch f s).1) ∧
      (∀ k, k ∈ t.keys ↔ ∃ call ∈ calls, call.Registers k) ∧ t.keys.Pairwise Key.Before ∧
      (∃ rest : List Key, rest.Nodup ∧ (∀ k, k ∈ rest ↔ ¬ ∃ call ∈ calls, call.Registers k) ∧
        t.registerRemaining.1 = rest.length) ∧
      ∀ k, t.hits k
        = Counter.bump 0 ((Registry.Service.run state calls).handled.count k) := by
  intro t s
  obtain ⟨hagrees, hstate⟩ := agrees_run state calls
  have hshows := Registry.Service.shows_run state calls
  refine ⟨fun f => ?outcome, ?keys, ?ascending, ?remaining,
    fun k => (hagrees.hits k).trans (hshows.hits k)⟩
  case outcome =>
    rw [show s = _ from hstate, (hagrees.dispatch f _).1]
    exact hshows.outcome f
  case keys =>
    rw [show t.keys = _ from hagrees.keys]
    exact hshows.mem_keys
  case ascending =>
    rw [show t.keys = _ from hagrees.keys]
    exact hshows.keys_ascending
  case remaining =>
    obtain ⟨rest, hnodup, hmem, hnumber, -⟩ := hshows.remaining
    exact ⟨rest, hnodup, hmem, hagrees.length_free.trans hnumber⟩

end KeyTable

end ServoLink
