import XrtcServer.Common.StableSort
import XrtcServer.Ice.Effects
/-!
# The order of the connections

The comparison that `sort_and_switch_connection` passes to `stable_sort` is
the order of the ranks, so it is a strict weak order whatever the getters of
a connection return. `stable_sort` then has one result, and `stableSort` is
it.
-/

namespace XrtcServer

namespace Ice

open Common IceController

variable {heap : ℕ → IceConnection} {ids sorted : List ℕ}

/-- The comparison of two pointers. -/
def goesBefore (heap : ℕ → IceConnection) (conn1 conn2 : ℕ) : Bool :=
  better (heap conn1) (heap conn2)

theorem weaklyOrders_quality : WeaklyOrders Quality.better :=
  weaklyOrders_of_rank Quality.rank fun _ _ => Quality.better_iff

theorem weaklyOrders_goesBefore (heap : ℕ → IceConnection) : WeaklyOrders (goesBefore heap) :=
  weaklyOrders_of_rank (fun id => rank (heap id)) fun _ _ => better_iff

theorem stablySorted_stableSort (heap : ℕ → IceConnection) (ids : List ℕ) :
    StablySorted (goesBefore heap) ids (stableSort heap ids) :=
  stablySorted_insertionSort (weaklyOrders_goesBefore heap) ids

/-- **However `stable_sort` goes about it**, it is `stableSort`. -/
theorem stablySorted_iff :
    StablySorted (goesBefore heap) ids sorted ↔ sorted = stableSort heap ids := by
  constructor
  · intro h
    exact h.unique (weaklyOrders_goesBefore heap) (stablySorted_stableSort heap ids)
  · rintro rfl
    exact stablySorted_stableSort heap ids

/-- **The comparison is a strict weak order**, and the connections are sorted
by it stably: they are those that there were, none stands before a better
one, and those it cannot tell apart stand in the order that they stood in. -/
theorem better_stablySorts :
    (∀ a : Quality, a.better a = false) ∧
      (∀ a b c : Quality, a.better b = true → b.better c = true → a.better c = true) ∧
      (∀ a b c : Quality, alike Quality.better a b = true → alike Quality.better b c = true →
        alike Quality.better a c = true) ∧
      ∀ (ctl : IceController) (heap : ℕ → IceConnection),
        (∀ id1 id2, goesBefore heap id1 id2 = (heap id1).quality.better (heap id2).quality) ∧
        StablySorted (goesBefore heap) ctl.connections
          (ctl.sortAndSwitchConnection heap).1.connections := by
  have horder := weaklyOrders_quality
  refine ⟨fun a => ?_, fun a b c hab hbc => ?_, fun a b c hab hbc => ?_, fun ctl heap => ⟨?_, ?_⟩⟩
  · exact Bool.eq_false_iff.2 (horder.irrefl a)
  · exact horder.trans a b c hab hbc
  · exact horder.alike_trans hab hbc
  · intro id1 id2
    exact (Quality.better_quality _ _).symm
  · rw [sortAndSwitch_fst]
    exact stablySorted_stableSort heap ctl.connections

end Ice

end XrtcServer
