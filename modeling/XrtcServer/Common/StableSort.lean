import Mathlib.Data.List.Sort
import Mathlib.Order.Defs.LinearOrder
import Mathlib.Order.Defs.Unbundled
/-!
# Stable sorts

A comparison says which of two elements goes before the other. Where it is
a strict weak order, a stable sort has one result (`StablySorted.unique`),
and inserting from the right finds it (`stablySorted_insertionSort`).
-/

namespace XrtcServer

namespace Common

variable {α : Type*} {before : α → α → Bool} {a b c : α} {l s t : List α}

/-- Neither goes before the other. -/
def alike (before : α → α → Bool) (a b : α) : Bool := !before a b && !before b a

theorem alike_iff : alike before a b = true ↔ ¬ before a b = true ∧ ¬ before b a = true := by
  unfold alike
  rw [Bool.and_eq_true, Bool.not_eq_true', Bool.not_eq_true', Bool.not_eq_true, Bool.not_eq_true]

theorem alike_symm (h : alike before a b = true) : alike before b a = true := by
  rw [alike_iff] at h ⊢
  exact h.symm

/-- The comparison is a strict weak order. -/
abbrev WeaklyOrders (before : α → α → Bool) : Prop :=
  IsStrictWeakOrder α fun a b => before a b = true

/-- What compares by a rank is a strict weak order. -/
theorem weaklyOrders_of_rank {β : Type*} [LinearOrder β] (rank : α → β)
    (h : ∀ a b, before a b = true ↔ rank a < rank b) : WeaklyOrders before where
  irrefl a := by
    rw [h]
    exact lt_irrefl _
  trans a b c hab hbc := by
    rw [h] at hab hbc ⊢
    exact lt_trans hab hbc
  incomp_trans a b c hab hbc := by
    rw [h, h] at hab hbc ⊢
    have heq : rank a = rank c :=
      (le_antisymm (not_lt.1 hab.2) (not_lt.1 hab.1)).trans
        (le_antisymm (not_lt.1 hbc.2) (not_lt.1 hbc.1))
    rw [heq]
    exact ⟨lt_irrefl _, lt_irrefl _⟩

namespace WeaklyOrders

theorem alike_refl (h : WeaklyOrders before) (a : α) : alike before a a = true :=
  alike_iff.2 ⟨h.irrefl a, h.irrefl a⟩

theorem alike_trans (h : WeaklyOrders before) (hab : alike before a b = true)
    (hbc : alike before b c = true) : alike before a c = true :=
  alike_iff.2 (h.incomp_trans a b c (alike_iff.1 hab) (alike_iff.1 hbc))

theorem asymm (h : WeaklyOrders before) (hab : before a b = true) : ¬ before b a = true := by
  intro hba
  exact h.irrefl a (h.trans a b a hab hba)

/-- Not to go before is transitive as well. -/
theorem not_before_trans (h : WeaklyOrders before) (hba : ¬ before b a = true)
    (hcb : ¬ before c b = true) : ¬ before c a = true := by
  intro hca
  have hab : ¬ before a b = true := fun hab => hcb (h.trans c a b hca hab)
  have hbc : ¬ before b c = true := fun hbc => hba (h.trans b c a hbc hca)
  exact (h.incomp_trans a b c ⟨hab, hba⟩ ⟨hbc, hcb⟩).2 hca

end WeaklyOrders

/-! ## What a stable sort makes -/

/-- **The result of a stable sort.** -/
structure StablySorted (before : α → α → Bool) (l sorted : List α) : Prop where
  /-- It has the same elements. -/
  perm : sorted.Perm l
  /-- None stands before one that goes before it. -/
  ordered : sorted.Pairwise fun a b => before b a = false
  /-- Those that are alike stand in the order that they stood in. -/
  stable : ∀ a, sorted.filter (alike before a) = l.filter (alike before a)

/-- **Inserting from the right is a stable sort.** -/
theorem stablySorted_insertionSort (h : WeaklyOrders before) (l : List α) :
    StablySorted before l (l.insertionSort fun a b => before b a = false) := by
  have htotal : Std.Total fun a b => before b a = false :=
    ⟨fun a b => by
      by_cases hba : before b a = true
      · exact .inr (Bool.eq_false_iff.2 (h.asymm hba))
      · exact .inl (Bool.eq_false_iff.2 hba)⟩
  have htrans : IsTrans α fun a b => before b a = false :=
    ⟨fun a b c hba hcb => Bool.eq_false_iff.2
      (h.not_before_trans (Bool.eq_false_iff.1 hba) (Bool.eq_false_iff.1 hcb))⟩
  have hperm := List.perm_insertionSort (fun a b => before b a = false) l
  refine ⟨hperm, List.pairwise_insertionSort _ l, fun a => Eq.symm ?_⟩
  -- a class is a sorted sublist, and the sort keeps those
  have hclass : (l.filter (alike before a)).Pairwise fun b c => before c b = false := by
    refine List.pairwise_of_forall_mem_list fun b hb c hc => Bool.eq_false_iff.2 ?_
    have hab := (List.mem_filter.1 hb).2
    have hac := (List.mem_filter.1 hc).2
    exact (alike_iff.1 (h.alike_trans (alike_symm hab) hac)).2
  have hsub := (List.sublist_insertionSort hclass List.filter_sublist).filter (alike before a)
  rw [List.filter_filter] at hsub
  simp only [Bool.and_self] at hsub
  exact hsub.eq_of_length (hperm.filter _).length_eq.symm

/-- What may stand first is alike whatever else may. -/
theorem alike_of_first (h : WeaklyOrders before) (hperm : (a :: s).Perm (b :: t))
    (hs : ∀ c ∈ s, before c a = false) (ht : ∀ c ∈ t, before c b = false) :
    alike before a b = true := by
  by_cases hab : a = b
  · subst hab
    exact h.alike_refl a
  have hat : a ∈ t := List.mem_of_ne_of_mem hab (hperm.mem_iff.1 List.mem_cons_self)
  have hbs : b ∈ s := List.mem_of_ne_of_mem (Ne.symm hab) (hperm.mem_iff.2 List.mem_cons_self)
  exact alike_iff.2 ⟨Bool.eq_false_iff.1 (ht a hat), Bool.eq_false_iff.1 (hs b hbs)⟩

/-- **There is one stable sort.** -/
theorem StablySorted.unique (h : WeaklyOrders before) (hs : StablySorted before l s)
    (ht : StablySorted before l t) : s = t := by
  have hunique : ∀ s t : List α, s.Perm t → (s.Pairwise fun a b => before b a = false) →
      (t.Pairwise fun a b => before b a = false) →
      (∀ a, s.filter (alike before a) = t.filter (alike before a)) → s = t := by
    intro s
    induction s with
    | nil => exact fun t hperm _ _ _ => hperm.nil_eq
    | cons a s ih =>
      intro t hperm hs ht hfilter
      cases t with
      | nil => exact absurd hperm.symm.nil_eq (List.cons_ne_nil _ _).symm
      | cons b t =>
        obtain ⟨hsa, hs'⟩ := List.pairwise_cons.1 hs
        obtain ⟨htb, ht'⟩ := List.pairwise_cons.1 ht
        have hab := alike_of_first h hperm hsa htb
        -- the two are the first of one class
        have hfirst := hfilter a
        rw [List.filter_cons_of_pos (h.alike_refl a), List.filter_cons_of_pos hab] at hfirst
        obtain rfl := (List.cons.inj hfirst).1
        rw [ih t ((List.perm_cons a).1 hperm) hs' ht' fun c => ?_]
        have hc := hfilter c
        rw [List.filter_cons, List.filter_cons] at hc
        split at hc
        · exact (List.cons.inj hc).2
        · exact hc
  exact hunique s t (hs.perm.trans ht.perm.symm) hs.ordered ht.ordered
    fun a => (hs.stable a).trans (ht.stable a).symm

end Common

end XrtcServer
