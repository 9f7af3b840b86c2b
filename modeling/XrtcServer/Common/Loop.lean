import Mathlib.Data.Nat.Notation
/-!
# Loops

A loop is a body that, from a state, goes on with another state or leaves
with a result. `loop body fuel` makes at most `fuel` passes: it ends with
the result, or with the state reached where the passes ran out. The rules
say that fuel is only a bound on the passes made.
-/

namespace XrtcServer

namespace Common

variable {σ ρ : Type*}

/-- At most `fuel` passes of a loop. -/
def loop (body : σ → σ ⊕ ρ) : ℕ → σ → σ ⊕ ρ
  | 0, s => .inl s
  | fuel + 1, s =>
    match body s with
    | .inl s' => loop body fuel s'
    | .inr r => .inr r

variable {body : σ → σ ⊕ ρ} {s s' t : σ} {r : ρ} {fuel more : ℕ}

@[simp] theorem loop_zero : loop body 0 s = .inl s := rfl

theorem loop_succ_inl (h : body s = .inl s') : loop body (fuel + 1) s = loop body fuel s' := by
  simp [loop, h]

theorem loop_succ_inr (h : body s = .inr r) : loop body (fuel + 1) s = .inr r := by
  simp [loop, h]

/-- Once left, a loop stays left: more fuel gives the same result. -/
theorem loop_add_of_inr (h : loop body fuel s = .inr r) : loop body (fuel + more) s = .inr r := by
  induction fuel generalizing s with
  | zero => cases h
  | succ fuel ih =>
    rw [Nat.succ_add]
    cases hb : body s with
    | inl s' =>
      rw [loop_succ_inl hb] at h ⊢
      exact ih h
    | inr r' =>
      rw [loop_succ_inr hb] at h ⊢
      exact h

/-- Where the passes ran out, more fuel goes on from the state reached. -/
theorem loop_add_of_inl (h : loop body fuel s = .inl s') :
    loop body (fuel + more) s = loop body more s' := by
  induction fuel generalizing s with
  | zero =>
    obtain rfl := Sum.inl.inj h
    rw [Nat.zero_add]
  | succ fuel ih =>
    rw [Nat.succ_add]
    cases hb : body s with
    | inl t =>
      rw [loop_succ_inl hb] at h ⊢
      exact ih h
    | inr r =>
      rw [loop_succ_inr hb] at h
      cases h

/-- **The invariant rule of a loop.** What the body keeps, and gives of a
result, is so wherever the loop ends. -/
theorem loop_of_inv {I : σ → Prop} {Q : ρ → Prop} (hinl : ∀ s s', I s → body s = .inl s' → I s')
    (hinr : ∀ s r, I s → body s = .inr r → Q r) (hs : I s) (fuel : ℕ) :
    (∀ s', loop body fuel s = .inl s' → I s') ∧ ∀ r, loop body fuel s = .inr r → Q r := by
  induction fuel generalizing s with
  | zero =>
    constructor
    · intro s' h
      obtain rfl := Sum.inl.inj h
      exact hs
    · intro r h
      cases h
  | succ fuel ih =>
    cases hb : body s with
    | inl t =>
      rw [loop_succ_inl hb]
      exact ih (hinl s t hs hb)
    | inr r =>
      rw [loop_succ_inr hb]
      constructor
      · intro s' h
        cases h
      · intro r' h
        obtain rfl := Sum.inr.inj h
        exact hinr s r hs hb

/-- **A loop whose passes decrease a measure is left** where it has more fuel
than that, and the fuel makes no difference. -/
theorem loop_of_measure {μ : σ → ℕ} (hdec : ∀ s s', body s = .inl s' → μ s' < μ s)
    (h : μ s < fuel) : ∃ r, loop body fuel s = .inr r := by
  induction fuel generalizing s with
  | zero => exact absurd h (Nat.not_lt_zero _)
  | succ fuel ih =>
    cases hb : body s with
    | inl s' =>
      rw [loop_succ_inl hb]
      have hlt := hdec s s' hb
      exact ih (by omega)
    | inr r => exact ⟨r, loop_succ_inr hb⟩

theorem loop_fuel_eq {μ : σ → ℕ} (hdec : ∀ s s', body s = .inl s' → μ s' < μ s)
    (h : μ s < fuel) : loop body fuel s = loop body (μ s + 1) s := by
  obtain ⟨r, hr⟩ := loop_of_measure hdec (Nat.lt_succ_self (μ s))
  obtain ⟨more, rfl⟩ := Nat.exists_eq_add_of_le h
  rw [loop_add_of_inr hr, hr]

/-! ## The states of a run -/

/-- The states that the passes of a loop start from, in order. -/
def visited (body : σ → σ ⊕ ρ) : ℕ → σ → List σ
  | 0, _ => []
  | fuel + 1, s =>
    match body s with
    | .inl s' => s :: visited body fuel s'
    | .inr _ => [s]

theorem visited_succ_inl (h : body s = .inl s') :
    visited body (fuel + 1) s = s :: visited body fuel s' := by
  simp [visited, h]

theorem visited_succ_inr (h : body s = .inr r) : visited body (fuel + 1) s = [s] := by
  simp [visited, h]

/-- The fuel makes no difference where the passes decrease a measure. -/
theorem visited_fuel_eq {μ : σ → ℕ} (hdec : ∀ s s', body s = .inl s' → μ s' < μ s) {fuel' : ℕ}
    (h : μ s < fuel) (h' : μ s < fuel') : visited body fuel s = visited body fuel' s := by
  induction fuel generalizing s fuel' with
  | zero => exact absurd h (Nat.not_lt_zero _)
  | succ fuel ih =>
    obtain ⟨fuel', rfl⟩ := Nat.exists_eq_succ_of_ne_zero (Nat.ne_of_gt (Nat.zero_lt_of_lt h'))
    cases hb : body s with
    | inl s' =>
      have hlt := hdec s s' hb
      rw [visited_succ_inl hb, visited_succ_inl hb]
      exact congrArg _ (ih (by omega) (by omega))
    | inr r => rw [visited_succ_inr hb, visited_succ_inr hb]

end Common

end XrtcServer
