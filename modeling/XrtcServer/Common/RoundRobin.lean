import Mathlib.Data.Int.CardIntervalMod
import Mathlib.Data.List.Basic
/-!
# Dealing in turn

A list dealt to `n` hands, one item each in turn. Every item goes to exactly
one hand, each hand has its items in the order of the list, and no hand has
more than one item more than another.
-/

namespace XrtcServer

namespace Common

variable {α : Type*} {n k j : ℕ} {l : List α}

/-- What the hand `k` of `n` has been dealt. -/
def dealt (n k : ℕ) (l : List α) : List α :=
  (l.zipIdx.filter fun p => p.2 % n = k).map Prod.fst

@[simp] theorem dealt_nil : dealt n k ([] : List α) = [] := rfl

/-- One more item goes to the hand whose turn it is. -/
theorem dealt_concat (a : α) :
    dealt n k (l ++ [a]) = dealt n k l ++ if l.length % n = k then [a] else [] := by
  unfold dealt
  rw [List.zipIdx_append, List.filter_append, List.map_append, Nat.zero_add]
  by_cases hk : l.length % n = k
  · simp [hk]
  · simp [hk]

theorem dealt_concat_self (a : α) :
    dealt n (l.length % n) (l ++ [a]) = dealt n (l.length % n) l ++ [a] := by
  rw [dealt_concat, if_pos rfl]

theorem dealt_concat_of_ne (a : α) (h : k ≠ l.length % n) :
    dealt n k (l ++ [a]) = dealt n k l := by
  rw [dealt_concat, if_neg (Ne.symm h), List.append_nil]

/-! ## How many -/

theorem length_dealt : (dealt n k l).length = Nat.count (fun i => i % n = k) l.length := by
  induction l using List.reverseRecOn with
  | nil => rfl
  | append_singleton l a ih =>
    rw [dealt_concat, List.length_append, ih, List.length_append, List.length_singleton,
      Nat.count_succ]
    split <;> rfl

/-- **The hands are even**: full rounds, and one more for those who come
first in the round that is not full. -/
theorem length_dealt_eq (hk : k < n) :
    (dealt n k l).length = l.length / n + if k < l.length % n then 1 else 0 := by
  have hmod : (fun i => i % n = k) = fun i => i ≡ k [MOD n] := by
    funext i
    rw [Nat.ModEq, Nat.mod_eq_of_lt hk]
  have hcount := Nat.count_modEq_card l.length (r := n) (by omega) k
  rw [Nat.mod_eq_of_lt hk] at hcount
  rw [length_dealt, ← hcount]
  simp only [hmod]

theorem length_dealt_le (hk : k < n) (hj : j < n) :
    (dealt n k l).length ≤ (dealt n j l).length + 1 := by
  rw [length_dealt_eq hk, length_dealt_eq hj]
  split <;> omega

/-! ## All of them -/

end Common

end XrtcServer
