import Mathlib.Data.Prod.Lex
import Mathlib.Order.OrderDual
import XrtcServer.Ice.Model.Channel
import XrtcServer.Ice.Model.Quality
/-!
# The ranking of connections

`better` compares lexicographically: the write state, then the receiving
flag, the priority and the RTT. `rank` is that order as a linear order, so
that what is first after the sort is least. A connection has the rank of its
quality. Which connection `_sort_connections_and_update_state` selects
depends on the rank of the best one and on the RTT of the one selected before.
-/

namespace XrtcServer

namespace Ice

open IceController

variable {a b c : IceConnection} {heap : ℕ → IceConnection} {ids : List ℕ}

/-! ## The comparison -/

namespace Quality

variable {a b : Quality}

/-- The rank of a quality, the least being the best. -/
def rank (q : Quality) : ℕ ×ₗ Bool ×ₗ ℕᵒᵈ ×ₗ ℤ :=
  toLex (q.writeState.value, toLex (!q.receiving,
    toLex (OrderDual.toDual q.priority.toNat, q.rtt)))

theorem writable_iff : a.writable = true ↔ a.writeState.value = 0 := by
  cases h : a.writeState <;> simp [writable, h, WriteState.value]

theorem writable_eq_false_iff : a.writable = false ↔ 0 < a.writeState.value := by
  rw [Nat.pos_iff_ne_zero, ne_eq, ← writable_iff, Bool.not_eq_true]

theorem compareConnections_of_lt (h : a.writeState.value < b.writeState.value) :
    a.compareConnections b = a_is_better := by
  have hb : b.writable = false := writable_eq_false_iff.2 (by omega)
  unfold compareConnections
  by_cases ha : a.writable = true
  · simp [ha, hb]
  · simp [ha, hb, h]

theorem compareConnections_of_gt (h : b.writeState.value < a.writeState.value) :
    a.compareConnections b = b_is_better := by
  have ha : a.writable = false := writable_eq_false_iff.2 (by omega)
  have hn : ¬ a.writeState.value < b.writeState.value := by omega
  unfold compareConnections
  by_cases hb : b.writable = true
  · simp [ha, hb]
  · simp [ha, hb, h, hn]

theorem compareConnections_of_eq (h : a.writeState.value = b.writeState.value) :
    a.compareConnections b =
      if a.receiving && !b.receiving then a_is_better
      else if !a.receiving && b.receiving then b_is_better
      else if a.priority > b.priority then a_is_better
      else if a.priority < b.priority then b_is_better
      else 0 := by
  have hw : a.writable = b.writable := by
    rw [Bool.eq_iff_iff, writable_iff, writable_iff, h]
  have hlt : ¬ a.writeState.value < b.writeState.value := by omega
  have hgt : ¬ a.writeState.value > b.writeState.value := by omega
  unfold compareConnections
  rw [hw, if_neg (by simp), if_neg (by simp), if_neg hlt, if_neg hgt]

/-- **The comparison is that of the ranks.** -/
theorem better_iff : a.better b = true ↔ a.rank < b.rank := by
  simp only [rank, Prod.Lex.toLex_lt_toLex, OrderDual.toDual_lt_toDual]
  unfold better
  rcases lt_trichotomy a.writeState.value b.writeState.value with hv | hv | hv
  · simp [compareConnections_of_lt hv, hv, a_is_better]
  · rw [compareConnections_of_eq hv]
    by_cases hr : a.receiving = b.receiving
    · -- one class: the priorities decide, and then the round trip times
      rcases lt_trichotomy a.priority.toNat b.priority.toNat with hp | hp | hp
      · have hne : a.priority.toNat ≠ b.priority.toNat := by omega
        simp [hv, hr, b_is_better, UInt64.lt_iff_toNat_lt, hp, hp.not_gt, hne]
      · simp [hv, hr, UInt64.lt_iff_toNat_lt, hp]
      · simp [hv, hr, a_is_better, UInt64.lt_iff_toNat_lt, hp]
    · cases hra : a.receiving <;> cases hrb : b.receiving <;>
        simp_all [a_is_better, b_is_better]
  · simp [compareConnections_of_gt hv, hv.not_gt, hv.ne', b_is_better]

end Quality

/-- The quality of a connection, the least being the best. -/
def rank (c : IceConnection) : ℕ ×ₗ Bool ×ₗ ℕᵒᵈ ×ₗ ℤ :=
  toLex (c.writeState.value, toLex (!c.receiving,
    toLex (OrderDual.toDual c.priority.toNat, c.rtt)))

theorem writable_iff : c.writable = true ↔ c.writeState.value = 0 :=
  Quality.writable_iff (a := c.quality)

theorem compareConnections_of_eq (h : a.writeState.value = b.writeState.value) :
    compareConnections a b =
      if a.receiving && !b.receiving then a_is_better
      else if !a.receiving && b.receiving then b_is_better
      else if a.priority > b.priority then a_is_better
      else if a.priority < b.priority then b_is_better
      else 0 :=
  Quality.compareConnections_of_eq (a := a.quality) (b := b.quality) h

/-- The comparison of connections is that of their ranks. -/
theorem better_iff : better a b = true ↔ rank a < rank b :=
  Quality.better_iff (a := a.quality) (b := b.quality)

theorem better_eq_false_iff : better a b = false ↔ rank b ≤ rank a := by
  rw [← not_lt, ← better_iff, Bool.not_eq_true]

/-! ## The sort -/

instance : Std.Total fun id1 id2 : ℕ => better (heap id2) (heap id1) = false where
  total _ _ := by
    rw [better_eq_false_iff, better_eq_false_iff]
    exact le_total _ _

instance : IsTrans ℕ fun id1 id2 => better (heap id2) (heap id1) = false where
  trans _ _ _ hab hbc := by
    rw [better_eq_false_iff] at hab hbc ⊢
    exact le_trans hab hbc

theorem mem_stableSort {id : ℕ} : id ∈ stableSort heap ids ↔ id ∈ ids :=
  List.mem_insertionSort _

/-- The first connection after the sort is registered, and none is better. -/
theorem head_stableSort {top : ℕ} (h : (stableSort heap ids).head? = some top) :
    top ∈ ids ∧ ∀ id ∈ ids, rank (heap top) ≤ rank (heap id) := by
  have hpair : (stableSort heap ids).Pairwise fun id1 id2 =>
      better (heap id2) (heap id1) = false := List.pairwise_insertionSort _ ids
  obtain ⟨rest, hrest⟩ := List.head?_eq_some_iff.1 h
  refine ⟨mem_stableSort.1 (hrest ▸ List.mem_cons_self), fun id hid => ?_⟩
  rw [hrest] at hpair
  rcases List.mem_cons.1 (hrest ▸ mem_stableSort.2 hid) with rfl | hid
  · exact le_rfl
  · exact better_eq_false_iff.1 ((List.pairwise_cons.1 hpair).1 id hid)

theorem head_stableSort_isSome (heap : ℕ → IceConnection) {id : ℕ} (h : id ∈ ids) :
    ∃ top, (stableSort heap ids).head? = some top := by
  have hmem : id ∈ stableSort heap ids := mem_stableSort.2 h
  cases hs : stableSort heap ids with
  | nil =>
    rw [hs] at hmem
    cases hmem
  | cons top rest => exact ⟨top, rfl⟩

/-- What ranks no worse than a writable connection is writable. -/
theorem writable_of_rank_le (h : rank a ≤ rank b) (hb : b.writable = true) : a.writable = true := by
  rw [writable_iff] at hb ⊢
  simp only [rank, Prod.Lex.toLex_le_toLex] at h
  omega

end Ice

end XrtcServer
