import Mathlib.Data.List.Chain
/-!
# Signals of a value

A component keeps a value and signals it to whoever listens. What has been
signalled is a list of values; `Announced` says that a signal was sent for
every change of the value and for nothing else.
-/

namespace XrtcServer

namespace Common

variable {α : Type*} {init current a : α} {values : List α}

/-- **Every signal announces a change**: each value differs from the one
before it, from the initial value on, and the last one is current. -/
structure Announced (init : α) (values : List α) (current : α) : Prop where
  chain : (init :: values).IsChain (· ≠ ·)
  last : (init :: values).getLast? = some current

namespace Announced

theorem start (init : α) : Announced init [] init := ⟨List.IsChain.singleton _, rfl⟩

/-- A change is signalled. -/
theorem concat (h : Announced init values current) (hne : current ≠ a) :
    Announced init (values ++ [a]) a := by
  refine ⟨?_, ?_⟩
  · rw [← List.cons_append]
    refine List.isChain_append.2 ⟨h.chain, List.IsChain.singleton _, fun b hb c hc => ?_⟩
    rw [h.last, Option.mem_def, Option.some.injEq] at hb
    rw [List.head?_cons, Option.mem_def, Option.some.injEq] at hc
    rw [← hb, ← hc]
    exact hne
  · rw [← List.cons_append, List.getLast?_concat]

/-- A value that is not the initial one has been signalled. -/
theorem mem (h : Announced init values current) (hne : current ≠ init) : current ∈ values := by
  have hmem : current ∈ init :: values := List.mem_of_getLast? h.last
  exact (List.mem_cons.1 hmem).resolve_left hne

/-- Whoever hears the values one after the other knows the current one. -/
theorem latest (h : Announced init values current) :
    values.foldl (fun _ a => a) init = current := by
  have hlast := h.last
  clear h
  induction values generalizing init with
  | nil => exact Option.some.inj hlast
  | cons a values ih =>
    rw [List.getLast?_cons_cons] at hlast
    exact ih hlast

end Announced

end Common

end XrtcServer
