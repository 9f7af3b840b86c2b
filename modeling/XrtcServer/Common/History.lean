import Mathlib.Data.List.Infix
import Mathlib.Data.Nat.Notation
/-!
# Histories of a queue with one producer and one consumer

What the two sides see of a queue: their calls and returns, in the order
they happened. A queue is first in, first out when the values consumed are
a prefix of the values produced; it is prompt when no `consume` comes back
empty-handed that started after a `produce` had completed whose value was
still there. Both are read off the history alone.
-/

namespace XrtcServer

namespace Common

/-- A call of one of the two sides, or its return. -/
inductive QueueEvent (α : Type*) where
  | produceCalled (a : α)
  | produceReturned
  | consumeCalled
  | consumeReturned (result : Option α)
deriving DecidableEq, Repr

namespace QueueEvent

variable {α : Type*}

/-- Whether it is the consumer's. -/
def isConsumer : QueueEvent α → Bool
  | .consumeCalled | .consumeReturned _ => true
  | _ => false

end QueueEvent

variable {α : Type*} {h before : List (QueueEvent α)} {e : QueueEvent α}

/-- The values `produce` was called with. -/
def produced (h : List (QueueEvent α)) : List α :=
  h.filterMap fun
    | .produceCalled a => some a
    | _ => none

/-- The values `consume` returned. -/
def consumed (h : List (QueueEvent α)) : List α :=
  h.filterMap fun
    | .consumeReturned result => result
    | _ => none

/-- How many calls of `produce` have returned. -/
def completed (h : List (QueueEvent α)) : ℕ :=
  h.countP fun
    | .produceReturned => true
    | _ => false

/-- No event of the consumer. -/
def Quiet (h : List (QueueEvent α)) : Prop := ∀ e ∈ h, e.isConsumer = false

/-- A `consume` is under way that was called after `before`. -/
def CalledAfter (h before : List (QueueEvent α)) : Prop :=
  ∃ during, h = before ++ .consumeCalled :: during ∧ Quiet during

/-- **No `consume` fails that started after a completed `produce` whose
value was not consumed.** -/
def Prompt (h : List (QueueEvent α)) : Prop :=
  ∀ before during after,
    h = before ++ .consumeCalled :: (during ++ .consumeReturned none :: after) → Quiet during →
      completed before ≤ (consumed before).length

theorem consumed_append (h g : List (QueueEvent α)) :
    consumed (h ++ g) = consumed h ++ consumed g :=
  List.filterMap_append

theorem completed_append (h g : List (QueueEvent α)) :
    completed (h ++ g) = completed h + completed g :=
  List.countP_append

/-- Without the consumer nothing is consumed. -/
theorem consumed_of_quiet (hq : Quiet h) : consumed h = [] := by
  refine List.filterMap_eq_nil_iff.2 fun e he => ?_
  have hside := hq e he
  cases e with
  | produceCalled _ => rfl
  | produceReturned => rfl
  | consumeCalled => exact absurd hside (by simp [QueueEvent.isConsumer])
  | consumeReturned _ => exact absurd hside (by simp [QueueEvent.isConsumer])

/-- The producer consumes nothing. -/
theorem consumed_append_producer (he : e.isConsumer = false) : consumed (h ++ [e]) = consumed h := by
  have hq : Quiet [e] := by simpa [Quiet] using he
  rw [consumed_append, consumed_of_quiet hq, List.append_nil]

/-- The consumer produces nothing. -/
theorem produced_append_consumer (he : e.isConsumer = true) : produced (h ++ [e]) = produced h := by
  cases e <;> simp_all [produced, QueueEvent.isConsumer]

/-- The consumer completes no `produce`. -/
theorem completed_append_consumer (he : e.isConsumer = true) :
    completed (h ++ [e]) = completed h := by
  cases e <;> simp_all [completed, QueueEvent.isConsumer]

@[simp] theorem produced_append_called (a : α) :
    produced (h ++ [.produceCalled a]) = produced h ++ [a] := by
  simp [produced]

@[simp] theorem produced_append_returned :
    produced (h ++ [.produceReturned]) = produced h := by
  simp [produced]

@[simp] theorem completed_append_called (a : α) :
    completed (h ++ [.produceCalled a]) = completed h := by
  simp [completed]

@[simp] theorem completed_append_returned :
    completed (h ++ [.produceReturned]) = completed h + 1 := by
  simp [completed]

@[simp] theorem consumed_append_called : consumed (h ++ [.consumeCalled]) = consumed h := by
  simp [consumed]

@[simp] theorem consumed_append_some (a : α) :
    consumed (h ++ [.consumeReturned (some a)]) = consumed h ++ [a] := by
  simp [consumed]

@[simp] theorem consumed_append_none : consumed (h ++ [.consumeReturned none]) = consumed h := by
  simp [consumed]

/-- While a `consume` is under way nothing more is consumed. -/
theorem CalledAfter.consumed_eq (hc : CalledAfter h before) : consumed before = consumed h := by
  obtain ⟨during, rfl, hq⟩ := hc
  have hnone : consumed (.consumeCalled :: during) = consumed during := rfl
  rw [consumed_append, hnone, consumed_of_quiet hq, List.append_nil]

theorem CalledAfter.completed_le (hc : CalledAfter h before) : completed before ≤ completed h := by
  obtain ⟨during, rfl, -⟩ := hc
  rw [completed_append]
  omega

/-- An event of the producer leaves the call where it was. -/
theorem CalledAfter.of_append (hc : CalledAfter (h ++ [e]) before) (he : e.isConsumer = false) :
    CalledAfter h before := by
  obtain ⟨during, heq, hq⟩ := hc
  -- the last event of the history is the last of what followed the call
  rcases List.eq_nil_or_concat during with rfl | ⟨during, last, rfl⟩
  · have hlast := (List.append_inj' heq rfl).2
    obtain rfl : e = .consumeCalled := by simpa using hlast
    exact absurd he (by simp [QueueEvent.isConsumer])
  · rw [List.concat_eq_append, ← List.cons_append, ← List.append_assoc] at heq
    refine ⟨during, (List.append_inj' heq rfl).1, fun e' he' => hq e' ?_⟩
    rw [List.concat_eq_append]
    exact List.mem_append_left _ he'

theorem prompt_nil : Prompt ([] : List (QueueEvent α)) := by
  intro before during after heq
  simp at heq

/-- **One more event keeps a history prompt**, unless a `consume` fails
that was owed a value. -/
theorem Prompt.append (hp : Prompt h)
    (he : e = .consumeReturned none →
      ∀ before, CalledAfter h before → completed before ≤ (consumed before).length) :
    Prompt (h ++ [e]) := by
  intro before during after heq hq
  rcases List.eq_nil_or_concat after with rfl | ⟨after, last, rfl⟩
  · rw [← List.cons_append, ← List.append_assoc] at heq
    obtain ⟨hh, hlast⟩ := List.append_inj' heq rfl
    exact he (by simpa using hlast) before ⟨during, hh, hq⟩
  · have heq' : h ++ [e] =
        (before ++ .consumeCalled :: (during ++ .consumeReturned none :: after)) ++ [last] := by
      rw [heq]
      simp
    exact hp before during after (List.append_inj' heq' rfl).1 hq

end Common

end XrtcServer
