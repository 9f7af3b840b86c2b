import XrtcServer.Common.Run
/-!
# Since

What one kind of event starts and another ends: it holds at the end of a run
where it has been started and not been ended since.
-/

namespace XrtcServer

namespace Common

variable {σ ε : Type*} {p q : ε → Prop} {e : ε} {es : List ε}

/-- **An event of the one kind has happened, and none of the other since.** -/
def Since (p q : ε → Prop) (es : List ε) : Prop :=
  ∃ pre e post, es = pre ++ e :: post ∧ p e ∧ ∀ f ∈ post, ¬ q f

theorem not_since_nil : ¬ Since p q ([] : List ε) := by
  rintro ⟨pre, e, post, hsplit, -, -⟩
  exact List.cons_ne_nil _ _ (List.append_eq_nil_iff.1 hsplit.symm).2

/-- One more event starts it, ends it or leaves it as it was. -/
theorem since_concat : Since p q (es ++ [e]) ↔ p e ∨ ¬ q e ∧ Since p q es := by
  constructor
  · rintro ⟨pre, e', post, hsplit, hp, hq⟩
    rcases List.eq_nil_or_concat' post with rfl | ⟨post, f, rfl⟩
    · obtain ⟨-, hlast⟩ := List.append_inj' hsplit rfl
      obtain rfl := List.singleton_inj.1 hlast
      exact .inl hp
    · rw [← List.cons_append, ← List.append_assoc] at hsplit
      obtain ⟨rfl, hlast⟩ := List.append_inj' hsplit rfl
      obtain rfl := List.singleton_inj.1 hlast
      refine .inr ⟨hq e (by simp), pre, e', post, rfl, hp, fun f hf => ?_⟩
      exact hq f (List.mem_append_left _ hf)
  · rintro (hp | ⟨hq, pre, e', post, rfl, hp, hpost⟩)
    · exact ⟨es, e, [], rfl, hp, fun f hf => by cases hf⟩
    · refine ⟨pre, e', post ++ [e], by simp, hp, fun f hf => ?_⟩
      rcases List.mem_append.1 hf with hf | hf
      · exact hpost f hf
      · rw [List.mem_singleton.1 hf]
        exact hq

/-- **What every step starts, ends or leaves alone** holds at the end of a
run, where it did not at its start, exactly since it was started. -/
theorem iff_since_of_run {step : σ → ε → Option σ} {I P : σ → Prop}
    (hinv : ∀ s e s', I s → step s e = some s' → I s')
    (hstep : ∀ s e s', I s → step s e = some s' → (P s' ↔ p e ∨ ¬ q e ∧ P s))
    {s t : σ} (hI : I s) (hs : ¬ P s) (h : run step s es = some t) : P t ↔ Since p q es := by
  -- from the end of the run backwards
  induction es using List.reverseRecOn generalizing t with
  | nil =>
    obtain rfl : s = t := Option.some.inj h
    exact iff_of_false hs not_since_nil
  | append_singleton es e ih =>
    rw [run_append] at h
    obtain ⟨u, hu, hlast⟩ := Option.bind_eq_some_iff.1 h
    obtain ⟨t', he, hnil⟩ := Option.bind_eq_some_iff.1 hlast
    obtain rfl : t' = t := Option.some.inj hnil
    rw [hstep u e t' (inv_of_run hinv hI hu) he, ih hu, since_concat]

end Common

end XrtcServer
