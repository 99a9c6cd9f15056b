import Mathlib.Algebra.BigOperators.Group.List.Basic
import Mathlib.Algebra.GroupWithZero.Nat
import Mathlib.Data.List.Nodup
import ServoLink.Link.Registry

/-!
# The keys in order

A key is a component and a message type within it, and stands at a place of its own in a row
of 65536 (`Key.toNat_eq`). `Key.all` lists the keys in that order (`Key.pairwise_all`), each of
them once, so that a registry can be gone through key by key, and what was counted for each of
them adds up (`Key.sum_count`).
-/

namespace ServoLink

namespace Key

/-- **One key comes before another**: by its component, or by the message type within it. -/
def Before (a b : Key) : Prop :=
  a.component < b.component ∨ a.component = b.component ∧ a.data < b.data

/-- The component and the message type stand side by side in the place of a key. -/
theorem toNat_eq (k : Key) : k.toNat = k.component.toNat <<< 8 ||| k.data.toNat := by
  rw [← Nat.shiftLeft_add_eq_or_of_lt k.data.toNat_lt, Nat.shiftLeft_eq]
  rfl

/-- A key comes before those whose places come later. -/
theorem before_iff {a b : Key} : a.Before b ↔ a.toNat < b.toNat := by
  have ha := a.data.toNat_lt
  have hb := b.data.toNat_lt
  unfold Before toNat
  rw [UInt8.lt_iff_toNat_lt, UInt8.lt_iff_toNat_lt, ← UInt8.toNat_inj]
  omega

/-- Every place is that of a key. -/
theorem toNat_ofNat {n : Nat} (h : n < 65536) : (ofNat n).toNat = n := by
  show (UInt8.ofNat (n / 256)).toNat * 256 + (UInt8.ofNat n).toNat = n
  rw [UInt8.toNat_ofNat', UInt8.toNat_ofNat']
  omega

/-- **The row of all keys is ascending.** -/
theorem pairwise_all : all.Pairwise Before := by
  unfold all
  rw [List.pairwise_map]
  refine List.pairwise_lt_range.imp_of_mem fun ha hb hlt => ?_
  rw [before_iff, toNat_ofNat (List.mem_range.1 ha), toNat_ofNat (List.mem_range.1 hb)]
  exact hlt

/-- No key is listed twice. -/
theorem nodup_all : all.Nodup :=
  pairwise_all.imp fun {a b} h (heq : a = b) => Nat.lt_irrefl _ (heq ▸ before_iff.1 h)

/-- **Counts per key add up**, over any row in which every key is listed once. -/
theorem sum_count {row : List Key} (hnodup : row.Nodup) (hmem : ∀ k, k ∈ row) (keys : List Key) :
    (row.map fun k => keys.count k).sum = keys.length := by
  induction keys with
  | nil => simp
  | cons k keys ih =>
    have hone : (row.map fun k' => if k == k' then 1 else 0).sum = 1 := by
      have hnone : ∀ k', k' ≠ k → k' ∈ row → (if k == k' then 1 else 0) = 0 :=
        fun k' hne _ => if_neg fun h => hne (beq_iff_eq.1 h).symm
      rw [List.sum_map_eq_nsmul_single k _ hnone, List.count_eq_one_of_mem hnodup (hmem k),
        if_pos (beq_self_eq_true k), one_nsmul]
    simp only [List.count_cons]
    rw [List.sum_map_add, ih, hone, List.length_cons]

end Key

end ServoLink
