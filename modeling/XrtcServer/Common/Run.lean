import Mathlib.Data.List.Infix
import Mathlib.Data.Nat.Notation
/-!
# Runs of a partial step function

A component is a state type, an event type and a step function that says
what an event does in a state, `none` where the event cannot happen there.
A run is a list of events. What holds along a run is `EveryStep`: a
relation between the state before a step, the event and the state after,
asked of each step the run takes. The rules are the two a safety argument
needs, `everyStep_of_inv` (an invariant carries a fact along a run) and
`everyStep_iff_of_inv` (where the invariant survives a step exactly when
the step meets a condition, the run keeps it exactly when all its steps do).
-/

namespace XrtcServer

namespace Common

variable {σ ε : Type*}

/-- The state a list of events leads to, where each of them can happen. -/
def run (step : σ → ε → Option σ) : σ → List ε → Option σ
  | s, [] => some s
  | s, e :: es => (step s e).bind fun s' => run step s' es

/-- **What holds of every step of a run.** An event that cannot happen
ends the run, and nothing is asked of it. -/
def EveryStep (step : σ → ε → Option σ) (P : σ → ε → σ → Prop) : σ → List ε → Prop
  | _, [] => True
  | s, e :: es => ∀ s', step s e = some s' → P s e s' ∧ EveryStep step P s' es

variable {step : σ → ε → Option σ}

@[simp] theorem run_nil (s : σ) : run step s [] = some s := rfl

theorem run_cons (s : σ) (e : ε) (es : List ε) :
    run step s (e :: es) = (step s e).bind fun s' => run step s' es := rfl

theorem run_append (s : σ) (es fs : List ε) :
    run step s (es ++ fs) = (run step s es).bind fun s' => run step s' fs := by
  induction es generalizing s with
  | nil => simp
  | cons e es ih =>
    rw [List.cons_append, run_cons, run_cons, Option.bind_assoc]
    cases step s e with
    | none => rfl
    | some s' => simp [ih]

@[simp] theorem everyStep_nil {P : σ → ε → σ → Prop} (s : σ) : EveryStep step P s [] := trivial

/-- What holds of every step holds of the last, where the run gets there. -/
theorem everyStep_last {P : σ → ε → σ → Prop} {s t t' : σ} {es : List ε} {e : ε}
    (h : EveryStep step P s (es ++ [e])) (ht : run step s es = some t)
    (hs : step t e = some t') : P t e t' := by
  induction es generalizing s with
  | nil =>
    obtain rfl : s = t := Option.some.inj ht
    exact (h t' hs).1
  | cons f es ih =>
    obtain ⟨u, hu, hrest⟩ := Option.bind_eq_some_iff.1 ht
    exact ih (h u hu).2 hrest

/-- **The invariant rule.** What the invariant gives of each step holds
along the run. -/
theorem everyStep_of_inv {I : σ → Prop} {P Q : σ → ε → σ → Prop}
    (hstep : ∀ s e s', I s → step s e = some s' → Q s e s' → I s' ∧ P s e s')
    {s : σ} {es : List ε} (hs : I s) (hQ : EveryStep step Q s es) :
    EveryStep step P s es := by
  induction es generalizing s with
  | nil => trivial
  | cons e es ih =>
    intro s' he
    obtain ⟨hq, hrest⟩ := hQ s' he
    obtain ⟨hinv, hp⟩ := hstep s e s' hs he hq
    exact ⟨hp, ih hinv hrest⟩

/-- **The exact rule.** Where a step keeps the invariant and its promise
exactly when it meets the condition, a run does exactly when every step
of it meets the condition. -/
theorem everyStep_iff_of_inv {I : σ → Prop} {P Q : σ → ε → σ → Prop}
    (hstep : ∀ s e s', I s → step s e = some s' → (P s e s' ↔ Q s e s'))
    (hinv : ∀ s e s', I s → step s e = some s' → P s e s' → I s')
    {s : σ} {es : List ε} (hs : I s) :
    EveryStep step P s es ↔ EveryStep step Q s es := by
  induction es generalizing s with
  | nil => exact Iff.rfl
  | cons e es ih =>
    refine forall_congr' fun s' => imp_congr_right fun he => ?_
    rw [hstep s e s' hs he]
    refine and_congr_right fun hq => ih ?_
    exact hinv s e s' hs he ((hstep s e s' hs he).2 hq)

/-- **An invariant every step keeps holds at the end of a run.** -/
theorem inv_of_run {I : σ → Prop}
    (hstep : ∀ s e s', I s → step s e = some s' → I s')
    {s t : σ} {es : List ε} (hs : I s) (h : run step s es = some t) : I t := by
  induction es generalizing s with
  | nil =>
    obtain rfl : s = t := Option.some.inj h
    exact hs
  | cons e es ih =>
    obtain ⟨s', he, hrest⟩ := Option.bind_eq_some_iff.1 h
    exact ih (hstep s e s' hs he) hrest

/-- It is enough that the steps of the run keep it. -/
theorem inv_of_everyStep {I : σ → Prop} {Q : σ → ε → σ → Prop}
    (hstep : ∀ s e s', I s → step s e = some s' → Q s e s' → I s')
    {s t : σ} {es : List ε} (hs : I s) (hQ : EveryStep step Q s es)
    (h : run step s es = some t) : I t := by
  induction es generalizing s with
  | nil =>
    obtain rfl : s = t := Option.some.inj h
    exact hs
  | cons e es ih =>
    obtain ⟨s', he, hrest⟩ := Option.bind_eq_some_iff.1 h
    obtain ⟨hq, hall⟩ := hQ s' he
    exact ih (hstep s e s' hs he hq) hall hrest

/-- **What holds at the end of a run and not at its start has begun in one
of its steps**, and held ever since. -/
theorem exists_since {I P : σ → Prop} {Q : σ → ε → Prop}
    (hinv : ∀ s e s', I s → step s e = some s' → I s')
    (hstep : ∀ s e s', I s → step s e = some s' → P s' → P s ∨ Q s e)
    {s t : σ} {es : List ε} (hI : I s) (hs : ¬ P s) (h : run step s es = some t) (ht : P t) :
    ∃ fs e gs u, es = fs ++ e :: gs ∧ run step s fs = some u ∧ Q u e ∧
      ∀ hs v, hs <+: gs → run step s (fs ++ e :: hs) = some v → P v := by
  -- from the end of the run backwards
  induction es using List.reverseRecOn generalizing t with
  | nil =>
    obtain rfl : s = t := Option.some.inj h
    exact absurd ht hs
  | append_singleton es e ih =>
    have hrun := h
    rw [run_append] at h
    obtain ⟨u, hu, hlast⟩ := Option.bind_eq_some_iff.1 h
    obtain ⟨t', he, hnil⟩ := Option.bind_eq_some_iff.1 hlast
    obtain rfl : t' = t := Option.some.inj hnil
    rcases hstep u e t' (inv_of_run hinv hI hu) he ht with hp | hq
    · obtain ⟨fs, f, gs, w, rfl, hw, hf, hsince⟩ := ih hu hp
      refine ⟨fs, f, gs ++ [e], w, by simp, hw, hf, fun gs' v hstarts hv => ?_⟩
      rcases List.prefix_concat_iff.1 hstarts with rfl | hstarts
      · rw [List.append_assoc, List.cons_append] at hrun
        obtain rfl := Option.some.inj (hrun.symm.trans hv)
        exact ht
      · exact hsince gs' v hstarts hv
    · refine ⟨es, e, [], u, rfl, hu, hq, fun gs' v hstarts hv => ?_⟩
      obtain rfl := List.prefix_nil.1 hstarts
      obtain rfl := Option.some.inj (hrun.symm.trans hv)
      exact ht

end Common

end XrtcServer
