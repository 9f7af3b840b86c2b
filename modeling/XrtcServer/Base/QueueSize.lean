import Mathlib.Algebra.Group.Nat.Defs
import XrtcServer.Base.LockFreeQueue
/-!
# The counter of the lock-free queue

A value is in the queue from `last = last->next` on and out of it from
`divider = divider->next` on, and is counted a step later each time. So the
consumer may count off a value that the producer has yet to count, and the
counter is -1 until it has (`Ahead`). Outside that window the counter is what
it should be, up to `INT_MAX`.
-/

namespace XrtcServer

namespace Base

open Common

variable {T : Type*} {q : LockFreeQueue T} {s s' : QueueSystem T} {act : QueueAct T} {f d l : ℕ}

/-! ## Between a value and its count -/

theorem Producing.uncounted_cases (p : Producing T) :
    p.uncounted = 0 ∧ p ≠ .addSize ∨ p.uncounted = 1 ∧ p = .addSize := by
  cases p with
  | addSize => exact .inr ⟨rfl, rfl⟩
  | _ => exact .inl ⟨rfl, nofun⟩

namespace Consuming

/-- Whether a value has been counted off that `consume` has yet to return. -/
def countedOff : Consuming T → ℕ
  | .returnTrue _ => 1
  | _ => 0

/-- The value that has left the queue is counted or has been counted off. -/
theorem counted_add_countedOff (c : Consuming T) :
    0 ≤ c.counted ∧ c.counted + c.countedOff = c.pending.length := by
  cases c with
  | subSize result => exact ⟨Int.one_nonneg, rfl⟩
  | _ => exact ⟨Int.le_refl 0, rfl⟩

end Consuming

/-! ## What `int` holds -/

namespace LockFreeQueue

theorem size_eq (hlow : -1 ≤ q._size) (hhigh : q._size < 2147483648) : q.size = q._size :=
  Int32.toInt_ofInt_of_le (by omega) (by omega)

/-- One more than `INT_MAX` is the least `int`. -/
theorem size_eq_of_overflow (h : q._size = 2147483648) : q.size = -2147483648 := by
  rw [size, h]
  rfl

end LockFreeQueue

namespace QueueSystem

/-- **What `size()` and `empty()` may observe.** -/
structure Sized (s : QueueSystem T) : Prop where
  nonneg : 0 ≤ s.queue.size
  le : s.queue.size ≤ (produced s.history).length - (consumed s.history).length
  unconsumed : s.producer = .idle → s.consumer = .idle →
    ∃ rest, produced s.history = consumed s.history ++ rest ∧ s.queue.size = rest.length

/-- The producer has yet to count the newest value, and that one has left the
queue already. -/
def Ahead (s : QueueSystem T) : Prop := s.producer = .addSize ∧ s.queue.divider = s.queue.last

/-- `++_size` finds less than `INT_MAX` values counted. -/
def Room (s : QueueSystem T) (act : QueueAct T) : Prop :=
  act = .producer → s.producer = .addSize →
    (produced s.history).length < 2 ^ 31 + ((consumed s.history).length + s.consumer.countedOff)

/-- `--_size` does not come before the `++_size` of the same value. -/
def CountsOffInOrder (s : QueueSystem T) (act : QueueAct T) : Prop :=
  ∀ result, act = .consumer → s.consumer = .subSize result → ¬ s.Ahead

/-- `consume` does not return before the value it took has been counted. -/
def ReturnsInOrder (s : QueueSystem T) (act : QueueAct T) : Prop :=
  act = .consumer → (s.consumer = .returnFalse ∨ ∃ result, s.consumer = .returnTrue result) →
    ¬ s.Ahead

/-! ## Which steps count -/

/-- What is so where an access goes on and where it goes wrong. -/
theorem access_of {P : QueueSystem T → Prop} {p : Option Ptr} {k : Ptr → Node T → QueueSystem T}
    (hk : ∀ i node, P (k i node)) (hwrong : P { s with undefined := true }) :
    P (s.access p k) := by
  unfold access
  split
  · exact hk _ _
  · exact hwrong

theorem stepProducer_size (hs : s.stepProducer = some s') (hp : s.producer ≠ .addSize) :
    s'.queue._size = s.queue._size := by
  obtain ⟨q, producer, consumer, history, undefined⟩ := s
  cases producer with
  | idle | newNode _ => cases hs
  | addSize => exact absurd rfl hp
  | readLast _ | readTail | writeLast _ | readDivider | readHead | readHeadAgain _
  | writeFirst _ _ =>
    obtain rfl := Option.some.inj hs
    rfl
  | writeNext _ _ | readTailNext _ | readHeadNext _ _ | deleteHead _ =>
    obtain rfl := Option.some.inj hs
    exact access_of (P := fun s' => s'.queue._size = q._size) (fun _ _ => rfl) rfl
  | readFirst divider =>
    simp only [stepProducer] at hs
    split at hs
    · obtain rfl := Option.some.inj hs
      rfl
    · obtain rfl := Option.some.inj hs
      rfl

theorem stepConsumer_size (hs : s.stepConsumer = some s')
    (hc : ∀ result, s.consumer ≠ .subSize result) : s'.queue._size = s.queue._size := by
  obtain ⟨q, producer, consumer, history, undefined⟩ := s
  cases consumer with
  | idle => cases hs
  | subSize result => exact absurd rfl (hc result)
  | readDivider | readFront | readDividerAgain _ | writeDivider _ _ | returnTrue _ | returnFalse =>
    obtain rfl := Option.some.inj hs
    rfl
  | readFrontNext _ | readFrontValue _ | readDividerNext _ _ =>
    obtain rfl := Option.some.inj hs
    exact access_of (P := fun s' => s'.queue._size = q._size) (fun _ _ => rfl) rfl
  | readLast divider =>
    simp only [stepConsumer] at hs
    split at hs
    · obtain rfl := Option.some.inj hs
      rfl
    · obtain rfl := Option.some.inj hs
      rfl

theorem At.step_producer (h : s.At f d l) : s.step .producer = s.stepProducer := by
  rw [step, h.defined]
  rfl

theorem At.step_consumer (h : s.At f d l) : s.step .consumer = s.stepConsumer := by
  rw [step, h.defined]
  rfl

theorem step_addSize (h : s.At f d l) (hp : s.producer = .addSize)
    (hs : s.step .producer = some s') : s'.queue._size = s.queue._size + 1 := by
  rw [h.step_producer, stepProducer, hp] at hs
  obtain rfl := Option.some.inj hs
  rfl

theorem step_subSize (h : s.At f d l) {result : T} (hc : s.consumer = .subSize result)
    (hs : s.step .consumer = some s') : s'.queue._size = s.queue._size - 1 := by
  rw [h.step_consumer, stepConsumer, hc] at hs
  obtain rfl := Option.some.inj hs
  rfl

/-- A call, or the allocator's answer, leaves the counter alone. -/
theorem step_size_of_call (hs : s.step act = some s') (hproducer : act ≠ .producer)
    (hconsumer : act ≠ .consumer) : s'.queue._size = s.queue._size := by
  cases act with
  | producer => exact absurd rfl hproducer
  | consumer => exact absurd rfl hconsumer
  | produce _ | consume =>
    rw [step] at hs
    split at hs
    · cases hs
    · split at hs
      · obtain rfl := Option.some.inj hs
        rfl
      · cases hs
  | allocate _ =>
    rw [step] at hs
    split at hs
    · cases hs
    · split at hs
      · split at hs
        · obtain rfl := Option.some.inj hs
          rfl
        · cases hs
      · cases hs

/-- **What counts**: `++_size`, `--_size` and nothing else. -/
theorem At.step_size (h : s.At f d l) (hs : s.step act = some s') :
    (act = .producer ∧ s.producer = .addSize ∧ s'.queue._size = s.queue._size + 1) ∨
    (act = .consumer ∧ (∃ result, s.consumer = .subSize result) ∧
      s'.queue._size = s.queue._size - 1) ∨
    ((act = .producer → s.producer ≠ .addSize) ∧
      (∀ result, act = .consumer → s.consumer ≠ .subSize result) ∧
      s'.queue._size = s.queue._size) := by
  cases act with
  | producer =>
    by_cases hp : s.producer = .addSize
    · exact .inl ⟨rfl, hp, step_addSize h hp hs⟩
    · rw [h.step_producer] at hs
      exact .inr (.inr ⟨fun _ => hp, nofun, stepProducer_size hs hp⟩)
  | consumer =>
    by_cases hc : ∃ result, s.consumer = .subSize result
    · obtain ⟨result, hc⟩ := hc
      exact .inr (.inl ⟨rfl, ⟨result, hc⟩, step_subSize h hc hs⟩)
    · rw [not_exists] at hc
      rw [h.step_consumer] at hs
      exact .inr (.inr ⟨nofun, fun result _ => hc result, stepConsumer_size hs hc⟩)
  | produce _ | allocate _ | consume =>
    exact .inr (.inr ⟨nofun, nofun, step_size_of_call hs nofun nofun⟩)

/-! ## The bounds -/

/-- **At any moment** the counter is at most what the calls allow, and it is
short by one at most. -/
theorem At.size_bounds (h : s.At f d l) :
    -1 ≤ s.queue._size ∧
      s.queue._size ≤ (Common.produced s.history).length - (Common.consumed s.history).length := by
  have hsize := h.size
  have hproduced := h.produced_length
  have hconsumed := h.consumed_length
  have hle := h.divider_le
  obtain ⟨hcounted, hpending⟩ := s.consumer.counted_add_countedOff
  rcases s.producer.uncounted_cases with ⟨huncounted, -⟩ | ⟨huncounted, -⟩
  · rw [huncounted] at hsize
    omega
  · rw [huncounted] at hsize
    omega

/-- **The consumer is ahead where the counter is short** of what is about to
be counted off. -/
theorem At.not_ahead_iff (h : s.At f d l) : ¬ s.Ahead ↔ s.consumer.counted ≤ s.queue._size := by
  have hsize := h.size
  have hle := h.divider_le
  unfold Ahead
  rw [h.divider, h.last, Option.some.injEq]
  rcases s.producer.uncounted_cases with ⟨huncounted, hp⟩ | ⟨huncounted, hp⟩
  · rw [huncounted] at hsize
    simp only [hp, false_and, not_false_eq_true, true_iff]
    omega
  · rw [huncounted] at hsize
    simp only [hp, true_and]
    omega

/-- Within what an `int` holds, and not negative, is all that is asked of the
counter. -/
theorem At.sized_iff (h : s.At f d l) (hhigh : s.queue._size ≤ 2147483648) :
    s.Sized ↔ 0 ≤ s.queue._size ∧ s.queue._size < 2147483648 := by
  obtain ⟨hlow, hle⟩ := h.size_bounds
  constructor
  · intro hsized
    have hnonneg := hsized.nonneg
    rcases Int.lt_or_le s.queue._size 2147483648 with hlt | hge
    · rw [LockFreeQueue.size_eq hlow hlt] at hnonneg
      exact ⟨hnonneg, hlt⟩
    · rw [LockFreeQueue.size_eq_of_overflow (by omega)] at hnonneg
      omega
  · rintro ⟨hnonneg, hlt⟩
    have hsize := LockFreeQueue.size_eq hlow hlt
    refine ⟨by rwa [hsize], by rwa [hsize], fun hp hc => ?_⟩
    have hproduced := h.produced
    have hconsumed := h.consumed
    simp only [hp, Producing.pending, List.append_nil] at hproduced
    simp only [hc, Consuming.pending, List.append_nil] at hconsumed
    have hsplit : Common.produced s.history =
        Common.consumed s.history ++ s.queue.values.drop d := by
      rw [hproduced, hconsumed, List.take_append_drop]
    refine ⟨s.queue.values.drop d, hsplit, ?_⟩
    rw [hsize, h.size_eq hp hc, hsplit, List.length_append]
    omega

/-! ## Any reader -/

/-- Between two micro-steps, with a counter that an `int` holds. -/
def Counts (s : QueueSystem T) : Prop :=
  ∃ f d l, s.At f d l ∧ 0 ≤ s.queue._size ∧ s.queue._size < 2147483648

theorem counts_init (dummy : T) (address : ℕ) : (init dummy address).Counts :=
  ⟨0, 0, 0, at_init dummy address, Int.le_refl 0, show (0 : ℤ) < 2147483648 by decide⟩

/-- Where the producer counts a value, there has to be room for it. -/
theorem room_iff (h : s.At f d l) (hp : s.producer = .addSize) :
    s.Room .producer ↔ s.queue._size + 1 < 2147483648 := by
  have hsize := h.size
  have hproduced := h.produced_length
  have hconsumed := h.consumed_length
  obtain ⟨hcounted, hpending⟩ := s.consumer.counted_add_countedOff
  simp only [hp, Producing.uncounted, Producing.behind, Producing.pending, List.length_nil]
    at hsize hproduced
  unfold Room
  simp only [hp, forall_const]
  omega

/-- Where the consumer counts a value off, it has to have been counted. -/
theorem countsOffInOrder_iff (h : s.At f d l) {result : T} (hc : s.consumer = .subSize result) :
    s.CountsOffInOrder .consumer ↔ 1 ≤ s.queue._size := by
  have hahead : s.CountsOffInOrder .consumer ↔ ¬ s.Ahead := by
    constructor
    · intro horder
      exact horder result rfl hc
    · intro hahead result' _ _
      exact hahead
  rw [hahead, h.not_ahead_iff, hc, Consuming.counted]

/-- **A step keeps the counter right exactly where it counts in order**, and
with room for what it counts. -/
theorem counts_step (h : s.Counts) (hs : s.step act = some s') :
    s'.Sized ↔ s.Room act ∧ s.CountsOffInOrder act := by
  obtain ⟨f, d, l, hat, hnonneg, hlt⟩ := h
  obtain ⟨f', d', l', hat'⟩ := at_step hat hs
  rcases hat.step_size hs with ⟨rfl, hp, hsize⟩ | ⟨rfl, ⟨result, hc⟩, hsize⟩ | ⟨hadd, hsub, hsize⟩
  · have horder : s.CountsOffInOrder .producer := nofun
    rw [hat'.sized_iff (by omega), hsize, room_iff hat hp]
    simp only [horder, and_true, and_iff_right_iff_imp]
    omega
  · have hroom : s.Room .consumer := nofun
    rw [hat'.sized_iff (by omega), hsize, countsOffInOrder_iff hat hc]
    simp only [hroom, true_and]
    omega
  · rw [hat'.sized_iff (by omega), hsize]
    refine iff_of_true ⟨hnonneg, hlt⟩ ⟨fun hact hp => ?_, fun result hact hc => ?_⟩
    · exact absurd hp (hadd hact)
    · exact absurd hc (hsub result hact)

theorem Counts.of_sized (h : s.Counts) (hs : s.step act = some s') (hsized : s'.Sized) :
    s'.Counts := by
  obtain ⟨f, d, l, hat, hnonneg, hlt⟩ := h
  obtain ⟨f', d', l', hat'⟩ := at_step hat hs
  have hle : s'.queue._size ≤ s.queue._size + 1 := by
    rcases hat.step_size hs with ⟨-, -, hsize⟩ | ⟨-, -, hsize⟩ | ⟨-, -, hsize⟩
    · omega
    · omega
    · omega
  exact ⟨f', d', l', hat', (hat'.sized_iff (by omega)).1 hsized⟩

/-! ## The consumer as the reader -/

/-- Between two micro-steps, with a counter that an `int` holds whenever the
consumer may look. -/
structure Settled (s : QueueSystem T) : Prop where
  between : ∃ f d l, s.At f d l
  size_lt : s.queue._size < 2147483648
  idle : s.consumer = .idle → ¬ s.Ahead

/-- The producer is about to count a value since it wrote `last`. -/
theorem writeLast_of_addSize (hs : s.stepProducer = some s') (hp : s'.producer = .addSize) :
    ∃ next, s.producer = .writeLast next ∧ s'.queue.last = next ∧
      s'.queue.divider = s.queue.divider := by
  obtain ⟨q, producer, consumer, history, undefined⟩ := s
  cases producer with
  | idle | newNode _ => cases hs
  | writeLast next =>
    obtain rfl := Option.some.inj hs
    exact ⟨next, rfl, rfl, rfl⟩
  | readLast _ | readTail | addSize | readDivider | readHead | readHeadAgain _ | writeFirst _ _ =>
    obtain rfl := Option.some.inj hs
    cases hp
  | writeNext _ _ | readTailNext _ | readHeadNext _ _ | deleteHead _ =>
    obtain rfl := Option.some.inj hs
    exact absurd hp (access_of (P := fun s' => s'.producer ≠ .addSize) (fun _ _ => nofun) nofun)
  | readFirst divider =>
    simp only [stepProducer] at hs
    split at hs
    · obtain rfl := Option.some.inj hs
      cases hp
    · obtain rfl := Option.some.inj hs
      cases hp

/-- The consumer is between two calls since it returned. -/
theorem returned_of_idle (hs : s.stepConsumer = some s') (hc : s'.consumer = .idle) :
    (s.consumer = .returnFalse ∨ ∃ result, s.consumer = .returnTrue result) ∧
      s'.producer = s.producer ∧ s'.queue = s.queue := by
  obtain ⟨q, producer, consumer, history, undefined⟩ := s
  cases consumer with
  | idle => cases hs
  | returnFalse =>
    obtain rfl := Option.some.inj hs
    exact ⟨.inl rfl, rfl, rfl⟩
  | returnTrue result =>
    obtain rfl := Option.some.inj hs
    exact ⟨.inr ⟨result, rfl⟩, rfl, rfl⟩
  | readDivider | readFront | readDividerAgain _ | writeDivider _ _ | subSize _ =>
    obtain rfl := Option.some.inj hs
    cases hc
  | readFrontNext _ | readFrontValue _ | readDividerNext _ _ =>
    obtain rfl := Option.some.inj hs
    exact absurd hc (access_of (P := fun s' => s'.consumer ≠ .idle) (fun _ _ => nofun) nofun)
  | readLast divider =>
    simp only [stepConsumer] at hs
    split at hs
    · obtain rfl := Option.some.inj hs
      cases hc
    · obtain rfl := Option.some.inj hs
      cases hc

theorem idle_of_returned (hs : s.stepConsumer = some s')
    (hc : s.consumer = .returnFalse ∨ ∃ result, s.consumer = .returnTrue result) :
    s'.consumer = .idle := by
  rcases hc with hc | ⟨result, hc⟩
  · rw [stepConsumer, hc] at hs
    obtain rfl := Option.some.inj hs
    rfl
  · rw [stepConsumer, hc] at hs
    obtain rfl := Option.some.inj hs
    rfl

/-- A call puts the two sides where they neither count nor read. -/
theorem sides_of_call (hs : s.step act = some s') (hproducer : act ≠ .producer)
    (hconsumer : act ≠ .consumer) : s'.producer ≠ .addSize ∨ s'.consumer ≠ .idle := by
  cases act with
  | producer => exact absurd rfl hproducer
  | consumer => exact absurd rfl hconsumer
  | produce _ =>
    rw [step] at hs
    split at hs
    · cases hs
    · split at hs
      · obtain rfl := Option.some.inj hs
        exact .inl fun hp => by cases hp
      · cases hs
  | allocate _ =>
    rw [step] at hs
    split at hs
    · cases hs
    · split at hs
      · split at hs
        · obtain rfl := Option.some.inj hs
          exact .inl fun hp => by cases hp
        · cases hs
      · cases hs
  | consume =>
    rw [step] at hs
    split at hs
    · cases hs
    · split at hs
      · obtain rfl := Option.some.inj hs
        exact .inr fun hc => by cases hc
      · cases hs

/-- The consumer gets ahead of the producer's count by returning, as the
consumer sees it. -/
theorem idle_not_ahead_iff (h : s.Settled) (hs : s.step act = some s') :
    (s'.consumer = .idle → ¬ s'.Ahead) ↔ s.ReturnsInOrder act := by
  obtain ⟨f, d, l, hat⟩ := h.between
  cases act with
  | consumer =>
    rw [hat.step_consumer] at hs
    constructor
    · intro hidle _ hreturns
      have hc := idle_of_returned hs hreturns
      obtain ⟨-, hp, hq⟩ := returned_of_idle hs hc
      have hnot := hidle hc
      unfold Ahead at hnot ⊢
      rwa [hp, hq] at hnot
    · intro horder hc
      obtain ⟨hreturns, hp, hq⟩ := returned_of_idle hs hc
      have hnot := horder rfl hreturns
      unfold Ahead at hnot ⊢
      rwa [hp, hq]
  | producer =>
    rw [hat.step_producer] at hs
    refine iff_of_true (fun _ hahead => ?_) nofun
    -- the value it is about to count is behind `divider`
    obtain ⟨next, hp, hlast, hdivider⟩ := writeLast_of_addSize hs hahead.1
    have hnext : next = some (l + 1) := by
      have hholds := hat.producer
      rwa [hp] at hholds
    have heq := hahead.2
    rw [hdivider, hlast, hat.divider, hnext] at heq
    have hle := hat.divider_le
    have hd := Option.some.inj heq
    omega
  | produce _ | allocate _ | consume =>
    refine iff_of_true (fun hc hahead => ?_) nofun
    rcases sides_of_call hs nofun nofun with hp | hidle
    · exact hp hahead.1
    · exact hidle hc

/-- Between two calls of `consume` the counter is wrong where the consumer is
ahead, and nowhere else that there is room. -/
theorem At.sized_iff_of_idle (h : s.At f d l) (hlt : s.queue._size < 2147483648)
    (hc : s.consumer = .idle) : s.Sized ↔ ¬ s.Ahead := by
  have hcounted : s.consumer.counted = 0 := by
    rw [hc]
    rfl
  rw [h.sized_iff (by omega), h.not_ahead_iff, hcounted]
  exact and_iff_left hlt

theorem size_lt_of_room (h : s.At f d l) (hlt : s.queue._size < 2147483648)
    (hroom : s.Room act) (hs : s.step act = some s') : s'.queue._size < 2147483648 := by
  rcases h.step_size hs with ⟨rfl, hp, hsize⟩ | ⟨-, -, hsize⟩ | ⟨-, -, hsize⟩
  · rw [room_iff h hp] at hroom
    omega
  · omega
  · omega

/-- **A step keeps the counter right for the consumer exactly where `consume`
returns in order.** -/
theorem settled_step (h : s.Settled) (hs : s.step act = some s') (hroom : s.Room act) :
    (s'.consumer = .idle → s'.Sized) ↔ s.ReturnsInOrder act := by
  obtain ⟨f, d, l, hat⟩ := h.between
  obtain ⟨f', d', l', hat'⟩ := at_step hat hs
  have hlt := size_lt_of_room hat h.size_lt hroom hs
  rw [← idle_not_ahead_iff h hs]
  exact forall_congr' fun hc => hat'.sized_iff_of_idle hlt hc

theorem Settled.of_sized (h : s.Settled) (hs : s.step act = some s') (hroom : s.Room act)
    (hsized : s'.consumer = .idle → s'.Sized) : s'.Settled := by
  obtain ⟨f, d, l, hat⟩ := h.between
  refine ⟨at_step hat hs, size_lt_of_room hat h.size_lt hroom hs, ?_⟩
  rwa [idle_not_ahead_iff h hs, ← settled_step h hs hroom]

theorem settled_init (dummy : T) (address : ℕ) : (init dummy address).Settled where
  between := ⟨0, 0, 0, at_init dummy address⟩
  size_lt := show (0 : ℤ) < 2147483648 by decide
  idle := fun _ hahead => nomatch hahead.1

/-! ## The counter over a run -/

variable {dummy : T} {address : ℕ} {schedule : List (QueueAct T)}

/-- **When the counter is right.** For any reader it is right in every state
of a run exactly where no value is counted off before it has been counted,
with room for all that is counted. For the consumer, which may read it
between two calls, it is enough that `consume` does not return in between. -/
theorem sized_iff_inOrder (dummy : T) (address : ℕ) (schedule : List (QueueAct T)) :
    (EveryStep step (fun _ _ s' => s'.Sized) (init dummy address) schedule ↔
      EveryStep step (fun s act _ => s.Room act ∧ s.CountsOffInOrder act)
        (init dummy address) schedule) ∧
    (EveryStep step (fun s act s' => s.Room act ∧ (s'.consumer = .idle → s'.Sized))
        (init dummy address) schedule ↔
      EveryStep step (fun s act _ => s.Room act ∧ s.ReturnsInOrder act)
        (init dummy address) schedule) := by
  constructor
  · refine everyStep_iff_of_inv (I := Counts) ?_ ?_ (counts_init dummy address)
    · intro s act s' h hs
      exact counts_step h hs
    · intro s act s' h hs hsized
      exact h.of_sized hs hsized
  · refine everyStep_iff_of_inv (I := Settled) ?_ ?_ (settled_init dummy address)
    · intro s act s' h hs
      exact and_congr_right fun hroom => settled_step h hs hroom
    · intro s act s' h hs hsized
      exact h.of_sized hs hsized.1 hsized.2

/-- The consumer takes the one value, counts it off and returns while the
producer has yet to count it: the size of the empty queue is -1. -/
theorem negative_size :
    ∃ s, run step (init 0 100)
        ([.produce 7, .allocate 101] ++ List.replicate 5 .producer ++ [.consume] ++
          List.replicate 10 .consumer) = some s ∧
      s.history = [.produceCalled 7, .consumeCalled, .consumeReturned (some 7)] ∧
      s.consumer = .idle ∧ s.producer = .addSize ∧ s.queue.size = -1 ∧ s.queue.empty = false ∧
      ¬ s.Sized := by
  have h : ∃ s, run step (init 0 100)
      ([.produce 7, .allocate 101] ++ List.replicate 5 .producer ++ [.consume] ++
        List.replicate 10 .consumer) = some s ∧
      s.history = [.produceCalled 7, .consumeCalled, .consumeReturned (some 7)] ∧
      s.consumer = .idle ∧ s.producer = .addSize ∧ s.queue.size = -1 ∧ s.queue.empty = false :=
    ⟨_, rfl, rfl, rfl, rfl, rfl, rfl⟩
  obtain ⟨s, hrun, hhistory, hc, hp, hsize, hempty⟩ := h
  refine ⟨s, hrun, hhistory, hc, hp, hsize, hempty, fun hsized => ?_⟩
  have hnonneg := hsized.nonneg
  rw [hsize] at hnonneg
  omega

end QueueSystem

end Base

end XrtcServer
