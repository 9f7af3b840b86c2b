import Mathlib.Algebra.GroupWithZero.Nat
import XrtcServer.Common.Run
/-!
# Simulation

Rules for runs of a partial step function. An invariant may speak of the
events so far, as one of a component that keeps a log of them. Where every
step does some of the work there is, a run is no longer than that. The runs of
a part are read off those of the whole. Events that leave no trace may be left
out. And one component follows another where every step of the second is
matched by some steps of the first, and a relation between their states is
kept: whatever a run of the second comes to, a run of the first comes to a
related state.
-/

namespace XrtcServer

namespace Common

variable {σ ε τ φ : Type*} {step : σ → ε → Option σ} {step' : τ → φ → Option τ}

/-- **The history rule.** What holds at the start with no events, and of every
step with one more, holds at the end of a run with its events. -/
theorem inv_of_history {I : List ε → σ → Prop}
    (hstep : ∀ es s e s', I es s → step s e = some s' → I (es ++ [e]) s') {s t : σ} {es : List ε}
    (hs : I [] s) (hrun : Common.run step s es = some t) : I es t := by
  -- from the end of the run backwards
  induction es using List.reverseRecOn generalizing t with
  | nil =>
    obtain rfl : s = t := Option.some.inj hrun
    exact hs
  | append_singleton es e ih =>
    rw [run_append] at hrun
    obtain ⟨u, hu, hlast⟩ := Option.bind_eq_some_iff.1 hrun
    obtain ⟨t', he, hnil⟩ := Option.bind_eq_some_iff.1 hlast
    obtain rfl : t' = t := Option.some.inj hnil
    exact hstep es u e t' (ih hu) he

/-- **The projection rule.** Where the steps of a part are among those of the
whole, so are its runs. -/
theorem run_map {f : σ → τ} {g : ε → φ}
    (hstep : ∀ s e s', step s e = some s' → step' (f s) (g e) = some (f s')) {s s' : σ}
    {es : List ε} (hrun : Common.run step s es = some s') :
    Common.run step' (f s) (es.map g) = some (f s') := by
  induction es generalizing s with
  | nil =>
    obtain rfl : s = s' := Option.some.inj hrun
    rfl
  | cons e es ih =>
    obtain ⟨u, hu, hrest⟩ := Option.bind_eq_some_iff.1 hrun
    rw [List.map_cons, run_cons, hstep s e u hu, Option.bind_some]
    exact ih hrest

/-- **The purge rule.** Where the events that are left out lead to what looks
the same, and the others from what looks the same to what looks the same, a
run looks the same without the events that are left out. -/
theorem run_filter {keep : ε → Bool} {Q : ε → Prop} {R : σ → σ → Prop}
    (hskip : ∀ s e s' t, R s t → Q e → keep e = false → step s e = some s' → R s' t)
    (hkeep : ∀ s e s' t, R s t → Q e → keep e = true → step s e = some s' →
      ∃ t', step t e = some t' ∧ R s' t') {s s' t : σ} {es : List ε} (hR : R s t)
    (hQ : ∀ e ∈ es, Q e) (hrun : Common.run step s es = some s') :
    ∃ t', Common.run step t (es.filter keep) = some t' ∧ R s' t' := by
  induction es generalizing s t with
  | nil =>
    obtain rfl : s = s' := Option.some.inj hrun
    exact ⟨t, rfl, hR⟩
  | cons e es ih =>
    obtain ⟨u, hu, hrest⟩ := Option.bind_eq_some_iff.1 hrun
    have he := hQ e List.mem_cons_self
    have hes : ∀ f ∈ es, Q f := fun f hf => hQ f (List.mem_cons_of_mem e hf)
    cases hkept : keep e with
    | false =>
      rw [List.filter_cons_of_neg (by simp [hkept])]
      exact ih (hskip s e u t hR he hkept hu) hes hrest
    | true =>
      obtain ⟨v, hv, hRv⟩ := hkeep s e u t hR he hkept hu
      obtain ⟨t', ht', hR'⟩ := ih hRv hes hrest
      refine ⟨t', ?_, hR'⟩
      rw [List.filter_cons_of_pos hkept, run_cons, hv, Option.bind_some]
      exact ht'

/-- **Every step is followed.** In related states, whatever an event that
meets `Q` leads to is related to what some events of the other component
lead to. -/
def Follows (step : σ → ε → Option σ) (step' : τ → φ → Option τ) (Q : ε → Prop)
    (R : σ → τ → Prop) : Prop :=
  ∀ s e s' t, R s t → Q e → step s e = some s' → ∃ fs t', run step' t fs = some t' ∧ R s' t'

/-- **The simulation rule.** A run is followed by a run. -/
theorem Follows.run {Q : ε → Prop} {R : σ → τ → Prop} (h : Follows step step' Q R) {s s' : σ}
    {t : τ} {es : List ε} (hR : R s t) (hQ : ∀ e ∈ es, Q e) (hrun : run step s es = some s') :
    ∃ fs t', Common.run step' t fs = some t' ∧ R s' t' := by
  induction es generalizing s t with
  | nil =>
    obtain rfl : s = s' := Option.some.inj hrun
    exact ⟨[], t, rfl, hR⟩
  | cons e es ih =>
    obtain ⟨u, hu, hrest⟩ := Option.bind_eq_some_iff.1 hrun
    obtain ⟨fs, v, hv, hRu⟩ := h s e u t hR (hQ e List.mem_cons_self) hu
    obtain ⟨gs, t', ht', hR'⟩ := ih hRu (fun f hf => hQ f (List.mem_cons_of_mem e hf)) hrest
    refine ⟨fs ++ gs, t', ?_, hR'⟩
    rw [run_append, hv, Option.bind_some, ht']

end Common

end XrtcServer
