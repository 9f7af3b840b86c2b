import Mathlib.Data.Set.BooleanAlgebra
import Mathlib.Logic.Function.Basic
import Mathlib.Order.CompletePartialOrder
/-!
# Round robin in two sets

Those still to be served in this round wait; those served in it do not,
until the round is renewed. Whoever is chosen has waited longest of the
eligible. Members come and go at any time, and some are served out of turn.
The fairness of this is one relation between two members (`Owed`): since `a`
was served, `b` has not been, and `a` does not wait while `b` is counted as
served.
-/

namespace XrtcServer

namespace Common

variable {α T : Type*}

/-- The two sets of a round, and when each member was last served. -/
structure Rounds (α T : Type*) where
  waiting : Set α
  served : Set α
  last : α → T
  apart : Disjoint waiting served

/-- What happens to a round. -/
inductive RoundEvent (α T : Type*) where
  | joins (a : α) (t : T)
  | leaves (a : α)
  | renewed
  | serves (a : α) (t : T)

namespace Rounds

theorem apart_insert {w v : Set α} (h : Disjoint w v) (a : α) :
    Disjoint (insert a w) (v \ {a}) := by
  rw [Set.disjoint_left] at h ⊢
  rintro b (rfl | hw) ⟨hv, hne⟩
  · exact hne rfl
  · exact h hw hv

variable [DecidableEq α]

/-- One event. -/
def next (r : Rounds α T) : RoundEvent α T → Rounds α T
  | .joins a t => ⟨insert a r.waiting, r.served \ {a}, Function.update r.last a t,
      apart_insert r.apart a⟩
  | .leaves a => ⟨r.waiting \ {a}, r.served \ {a}, r.last,
      r.apart.mono Set.sdiff_subset Set.sdiff_subset⟩
  | .renewed => ⟨r.waiting ∪ r.served, ∅, r.last, Set.disjoint_empty _⟩
  | .serves a t => ⟨r.waiting \ {a}, insert a r.served, Function.update r.last a t,
      (apart_insert r.apart.symm a).symm⟩

def run (r : Rounds α T) (es : List (RoundEvent α T)) : Rounds α T := es.foldl next r

theorem run_append (r : Rounds α T) (es fs : List (RoundEvent α T)) :
    r.run (es ++ fs) = (r.run es).run fs :=
  List.foldl_append

/-- Some leave, and that is all. -/
theorem run_leaves (r : Rounds α T) (as : List α) :
    (∀ a, a ∈ (r.run (as.map .leaves)).waiting ↔ a ∈ r.waiting ∧ a ∉ as) ∧
      (∀ a, a ∈ (r.run (as.map .leaves)).served ↔ a ∈ r.served ∧ a ∉ as) ∧
      (r.run (as.map .leaves)).last = r.last := by
  induction as generalizing r with
  | nil => exact ⟨fun a => by simp [run], fun a => by simp [run], rfl⟩
  | cons b as ih =>
    obtain ⟨hwaiting, hserved, hlast⟩ := ih (r.next (.leaves b))
    refine ⟨fun a => (hwaiting a).trans ?_, fun a => (hserved a).trans ?_, hlast⟩
    · rw [List.mem_cons, not_or]
      exact and_assoc
    · rw [List.mem_cons, not_or]
      exact and_assoc

/-- Nobody joins, and nobody is served. -/
def Idle : RoundEvent α T → Prop
  | .leaves _ | .renewed => True
  | .joins .. | .serves .. => False

omit [DecidableEq α] in
theorem idle_leaves (as : List α) :
    ∀ e ∈ as.map (@RoundEvent.leaves α T), Idle e := by
  intro e he
  obtain ⟨a, -, rfl⟩ := List.mem_map.1 he
  trivial

theorem run_idle_last {r : Rounds α T} {es : List (RoundEvent α T)} (h : ∀ e ∈ es, Idle e) :
    (r.run es).last = r.last := by
  induction es generalizing r with
  | nil => rfl
  | cons e es ih =>
    refine (ih fun f hf => h f (List.mem_cons_of_mem e hf)).trans ?_
    have he := h e List.mem_cons_self
    cases e with
    | joins => exact he.elim
    | leaves => rfl
    | renewed => rfl
    | serves => exact he.elim

variable [LinearOrder T]

/-- **The one that waits longest**, of those that are eligible. -/
structure Chosen (r : Rounds α T) (eligible : α → Prop) (a : α) : Prop where
  waits : a ∈ r.waiting
  allowed : eligible a
  longest : ∀ b ∈ r.waiting, eligible b → r.last a ≤ r.last b

/-- **`b` is owed a turn before `a`**, which was served at `t` or later. -/
structure Owed (a b : α) (t : T) (r : Rounds α T) : Prop where
  behind : b ∈ r.served → a ∉ r.waiting
  later : t ≤ r.last a
  sooner : r.last b < t

/-- The event serves somebody else than `b`, at `t` or later, and neither of
the two joins in it. -/
def PassesOver (a b : α) (t : T) : RoundEvent α T → Prop
  | .joins c _ => c ≠ a ∧ c ≠ b
  | .leaves _ | .renewed => True
  | .serves c now => c ≠ b ∧ t ≤ now

variable {r : Rounds α T} {a b : α} {t : T} {e : RoundEvent α T}

/-- Once `a` has been served, `b` is next of the two. -/
theorem owed_of_serves (hne : b ≠ a) (hlast : r.last b < t) : Owed a b t (r.next (.serves a t)) where
  behind := fun _ hwaits => hwaits.2 rfl
  later := by simp [next]
  sooner := by simpa [next, hne] using hlast

theorem Owed.next (h : Owed a b t r) (he : PassesOver a b t e) : Owed a b t (r.next e) := by
  obtain ⟨hbehind, hlater, hsooner⟩ := h
  cases e with
  | joins c now =>
    obtain ⟨hca, hcb⟩ := he
    refine ⟨fun hb ha => ?_, ?_, ?_⟩
    · rcases ha with rfl | ha
      · exact hca rfl
      · exact hbehind hb.1 ha
    · simpa [Rounds.next, hca.symm] using hlater
    · simpa [Rounds.next, hcb.symm] using hsooner
  | leaves c => exact ⟨fun hb ha => hbehind hb.1 ha.1, hlater, hsooner⟩
  | renewed => exact ⟨fun hb => hb.elim, hlater, hsooner⟩
  | serves c now =>
    obtain ⟨hcb, hnow⟩ := he
    refine ⟨fun hb ha => ?_, ?_, ?_⟩
    · rcases hb with rfl | hb
      · exact hcb rfl
      · exact hbehind hb ha.1
    · by_cases hca : a = c
      · subst hca
        simpa [Rounds.next] using hnow
      · simpa [Rounds.next, hca] using hlater
    · simpa [Rounds.next, hcb.symm] using hsooner

theorem Owed.run {es : List (RoundEvent α T)} (h : Owed a b t r) (hes : ∀ e ∈ es, PassesOver a b t e) :
    Owed a b t (r.run es) := by
  induction es generalizing r with
  | nil => exact h
  | cons e es ih =>
    exact ih (h.next (hes e List.mem_cons_self)) fun f hf => hes f (List.mem_cons_of_mem e hf)

omit [DecidableEq α] in
/-- **Who owes a turn is not chosen** while the other is eligible: `b` waits
where `a` does, and has waited longer. -/
theorem Owed.not_chosen {eligible : α → Prop} (h : Owed a b t r)
    (hmember : b ∈ r.waiting ∨ b ∈ r.served) (heligible : eligible b) : ¬ r.Chosen eligible a := by
  rintro ⟨hwaits, -, hlongest⟩
  rcases hmember with hb | hb
  · exact absurd (h.later.trans (hlongest b hb heligible)) (not_le.2 h.sooner)
  · exact h.behind hb hwaits

/-- **Between two turns of `a` every eligible member is served**, where
nobody is served before the first of them any more. -/
theorem exists_serves {es : List (RoundEvent α T)} {eligible : α → Prop} (hne : b ≠ a)
    (hlast : r.last b < t)
    (hjoins : ∀ c now, .joins c now ∈ es → c ≠ a ∧ c ≠ b)
    (hserves : ∀ c now, .serves c now ∈ es → t ≤ now)
    (hchosen : ((r.next (.serves a t)).run es).Chosen eligible a)
    (hmember : b ∈ ((r.next (.serves a t)).run es).waiting ∨
      b ∈ ((r.next (.serves a t)).run es).served)
    (heligible : eligible b) : ∃ now, .serves b now ∈ es := by
  by_contra hnone
  have hes : ∀ e ∈ es, PassesOver a b t e := by
    intro e he
    cases e with
    | joins c now => exact hjoins c now he
    | leaves c => trivial
    | renewed => trivial
    | serves c now =>
      refine ⟨?_, hserves c now he⟩
      rintro rfl
      exact hnone ⟨now, he⟩
  exact ((owed_of_serves hne hlast).run hes).not_chosen hmember heligible hchosen

end Rounds

end Common

end XrtcServer
