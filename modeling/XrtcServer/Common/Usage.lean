import Mathlib.Data.Int.Notation
import Mathlib.Data.List.Basic
import Mathlib.Data.Nat.Notation
/-!
# A resource that its users share

A resource that is set up for its first user and torn down after its last.
What happens to it is a list of `Use`s; `LazyUse` says which lists a counter
of the users gives, and `users` counts them from the list. In such a list the
resource is set up and torn down nowhere but where the number of users leaves
zero and where it gets back there.
-/

namespace XrtcServer

namespace Common

/-- What happens to a shared resource. -/
inductive Use where
  | init
  /-- It has one user more. -/
  | taken
  /-- One user less. -/
  | dropped
  | shutdown
deriving DecidableEq, Repr

/-- The users there are in the end. -/
def users (uses : List Use) : ℤ := uses.count .taken - uses.count .dropped

/-- **The uses of a counted resource**, and the users it has then. -/
inductive LazyUse : List Use → ℕ → Prop where
  | unused : LazyUse [] 0
  | first {uses : List Use} : LazyUse uses 0 → LazyUse (uses ++ [.init, .taken]) 1
  | more {uses : List Use} {n : ℕ} : LazyUse uses (n + 1) → LazyUse (uses ++ [.taken]) (n + 2)
  | fewer {uses : List Use} {n : ℕ} : LazyUse uses (n + 2) → LazyUse (uses ++ [.dropped]) (n + 1)
  | last {uses : List Use} : LazyUse uses 1 → LazyUse (uses ++ [.dropped, .shutdown]) 0

variable {uses more pre post : List Use} {n : ℕ}

theorem users_append (uses more : List Use) : users (uses ++ more) = users uses + users more := by
  simp only [users, List.count_append]
  omega

theorem LazyUse.users_eq (h : LazyUse uses n) : users uses = n := by
  have htaken : users [.taken] = 1 := rfl
  have hdropped : users [.dropped] = -1 := rfl
  have hfirst : users [.init, .taken] = 1 := rfl
  have hlast : users [.dropped, .shutdown] = -1 := rfl
  induction h with
  | unused => rfl
  | first _ ih | more _ ih | fewer _ ih | last _ ih =>
    rw [users_append, ih]
    omega

/-- Where a use is in a list that has been continued. -/
theorem split_of_append {u : Use} (h : uses ++ more = pre ++ u :: post) :
    (∃ rest, uses = pre ++ u :: rest ∧ post = rest ++ more) ∨
      ∃ start, pre = uses ++ start ∧ more = start ++ u :: post := by
  rcases List.append_eq_append_iff.1 h with ⟨start, hpre, hmore⟩ | ⟨rest, huses, hpost⟩
  · exact .inr ⟨start, hpre, hmore⟩
  · cases rest with
    | nil =>
      rw [List.append_nil] at huses
      exact .inr ⟨[], by rw [huses, List.append_nil], hpost.symm⟩
    | cons v rest =>
      obtain ⟨rfl, rfl⟩ := List.cons.inj hpost
      exact .inl ⟨rest, huses, rfl⟩

/-- **It is set up for a first user only.** -/
theorem LazyUse.at_init (h : LazyUse uses n) (hu : uses = pre ++ .init :: post) :
    users pre = 0 ∧ ∃ rest, post = .taken :: rest := by
  have hearlier : ∀ rest more : List Use, (users pre = 0 ∧ ∃ rest', rest = .taken :: rest') →
      users pre = 0 ∧ ∃ rest', rest ++ more = .taken :: rest' := by
    rintro _ more ⟨hpre, rest, rfl⟩
    exact ⟨hpre, rest ++ more, rfl⟩
  induction h generalizing post with
  | unused => simp at hu
  | first h ih =>
    rcases split_of_append hu with ⟨rest, huses, rfl⟩ | ⟨start, rfl, hmore⟩
    · exact hearlier rest _ (ih huses)
    · obtain ⟨rfl, rfl⟩ : start = [] ∧ post = [.taken] := by
        simpa [List.cons_eq_append_iff] using hmore
      rw [List.append_nil, h.users_eq]
      exact ⟨rfl, [], rfl⟩
  | more h ih | fewer h ih | last h ih =>
    rcases split_of_append hu with ⟨rest, huses, rfl⟩ | ⟨start, rfl, hmore⟩
    · exact hearlier rest _ (ih huses)
    · simp [List.cons_eq_append_iff] at hmore

/-- **It is torn down after the last user only.** -/
theorem LazyUse.at_shutdown (h : LazyUse uses n) (hu : uses = pre ++ .shutdown :: post) :
    users pre = 0 ∧ ∃ first, pre = first ++ [.dropped] := by
  induction h generalizing post with
  | unused => simp at hu
  | last h ih =>
    rcases split_of_append hu with ⟨rest, huses, -⟩ | ⟨start, rfl, hmore⟩
    · exact ih huses
    · obtain ⟨rfl, rfl⟩ : start = [.dropped] ∧ post = [] := by
        simpa [List.cons_eq_append_iff] using hmore
      rw [users_append, h.users_eq]
      exact ⟨rfl, _, rfl⟩
  | first h ih | more h ih | fewer h ih =>
    rcases split_of_append hu with ⟨rest, huses, -⟩ | ⟨start, rfl, hmore⟩
    · exact ih huses
    · simp [List.cons_eq_append_iff] at hmore

end Common

end XrtcServer
