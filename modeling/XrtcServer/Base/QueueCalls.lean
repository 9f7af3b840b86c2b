import XrtcServer.Base.QueueSize
import Mathlib.Data.Fintype.EquivFin
/-!
# The calls of the lock-free queue

What the two threads that share a `LockFreeQueue` see of it: a micro-step of
one is nothing to the other and, where it is not the last of its call,
nothing to the history. A `consume` that is called with a value owed comes
back with one.
-/

namespace XrtcServer

namespace Base

open Common

variable {T : Type*} {s s' : QueueSystem T} {f d l : ℕ}

namespace QueueSystem

/-- The invariant holds, wherever the three pointers are. -/
def Sound (s : QueueSystem T) : Prop := ∃ f d l, s.At f d l

theorem sound_init (dummy : T) (address : ℕ) : (init dummy address).Sound :=
  ⟨0, 0, 0, at_init dummy address⟩

theorem Sound.step {act : QueueAct T} (h : s.Sound) (hs : s.step act = some s') : s'.Sound := by
  obtain ⟨f, d, l, hat⟩ := h
  exact at_step hat hs

theorem Sound.defined (h : s.Sound) : s.undefined = false := by
  obtain ⟨f, d, l, hat⟩ := h
  exact hat.defined

/-! ## What a micro-step is to the callers -/

/-- `produce` is called. -/
theorem produce_calls {t : T} (hs : s.step (.produce t) = some s') :
    s'.producer ≠ .idle ∧ s'.consumer = s.consumer ∧
      s'.history = s.history ++ [.produceCalled t] := by
  rw [step] at hs
  split at hs
  · cases hs
  · split at hs
    · obtain rfl := Option.some.inj hs
      exact ⟨by simp, rfl, rfl⟩
    · cases hs

/-- `consume` is called. -/
theorem consume_calls (hs : s.step .consume = some s') :
    s'.consumer ≠ .idle ∧ s'.producer = s.producer ∧
      s'.history = s.history ++ [.consumeCalled] := by
  rw [step] at hs
  split at hs
  · cases hs
  · split at hs
    · obtain rfl := Option.some.inj hs
      exact ⟨by simp, rfl, rfl⟩
    · cases hs

/-- The node is made, and `produce` goes on. -/
theorem allocate_goes_on {address : ℕ} (hs : s.step (.allocate address) = some s') :
    s'.producer ≠ .idle ∧ s'.consumer = s.consumer ∧ s'.history = s.history := by
  rw [step] at hs
  split at hs
  · cases hs
  · split at hs
    · split at hs
      · obtain rfl := Option.some.inj hs
        exact ⟨by simp, rfl, rfl⟩
      · cases hs
    · cases hs

/-- `produce` goes on, or returns. -/
theorem producer_goes_on (hs : s.step .producer = some s') :
    s'.consumer = s.consumer ∧
      (s'.producer ≠ .idle ∧ s'.history = s.history ∨
        s'.producer = .idle ∧ s'.history = s.history ++ [.produceReturned]) := by
  obtain ⟨q, producer, consumer, history, undefined⟩ := s
  rw [step] at hs
  split at hs
  · cases hs
  · cases producer with
    | idle | newNode _ => cases hs
    | readLast _ | readTail | writeLast _ | addSize | readDivider | readHead | readHeadAgain _
    | writeFirst _ _ =>
      obtain rfl := Option.some.inj hs
      exact ⟨rfl, .inl ⟨by simp, rfl⟩⟩
    | writeNext _ _ | readTailNext _ | readHeadNext _ _ | deleteHead _ =>
      obtain rfl := Option.some.inj hs
      refine ⟨access_of (P := fun s' => s'.consumer = consumer) (fun _ _ => rfl) rfl, .inl ⟨?_, ?_⟩⟩
      · exact access_of (P := fun s' => s'.producer ≠ .idle) (fun _ _ => by simp) (by simp)
      · exact access_of (P := fun s' => s'.history = history) (fun _ _ => rfl) rfl
    | readFirst divider =>
      simp only [stepProducer] at hs
      split at hs
      · obtain rfl := Option.some.inj hs
        exact ⟨rfl, .inl ⟨by simp, rfl⟩⟩
      · obtain rfl := Option.some.inj hs
        exact ⟨rfl, .inr ⟨rfl, rfl⟩⟩

/-- What `consume` is about to return, where it is. -/
def returning (s : QueueSystem T) : Option (Option T) :=
  match s.consumer with
  | .returnTrue result => some (some result)
  | .returnFalse => some none
  | _ => none

/-- `consume` goes on, or returns. -/
theorem consumer_goes_on (hs : s.step .consumer = some s') :
    s'.producer = s.producer ∧
      (s.returning = none ∧ s'.consumer ≠ .idle ∧ s'.history = s.history ∨
        ∃ result, s.returning = some result ∧ s'.consumer = .idle ∧
          s'.history = s.history ++ [.consumeReturned result]) := by
  obtain ⟨q, producer, consumer, history, undefined⟩ := s
  rw [step] at hs
  split at hs
  · cases hs
  · cases consumer with
    | idle => cases hs
    | returnTrue result =>
      obtain rfl := Option.some.inj hs
      exact ⟨rfl, .inr ⟨some result, rfl, rfl, rfl⟩⟩
    | returnFalse =>
      obtain rfl := Option.some.inj hs
      exact ⟨rfl, .inr ⟨none, rfl, rfl, rfl⟩⟩
    | readDivider | readFront | readDividerAgain _ | writeDivider _ _ | subSize _ =>
      obtain rfl := Option.some.inj hs
      exact ⟨rfl, .inl ⟨rfl, by simp, rfl⟩⟩
    | readFrontNext _ | readFrontValue _ | readDividerNext _ _ =>
      obtain rfl := Option.some.inj hs
      refine ⟨access_of (P := fun s' => s'.producer = producer) (fun _ _ => rfl) rfl,
        .inl ⟨rfl, ?_, ?_⟩⟩
      · exact access_of (P := fun s' => s'.consumer ≠ .idle) (fun _ _ => by simp) (by simp)
      · exact access_of (P := fun s' => s'.history = history) (fun _ _ => rfl) rfl
    | readLast divider =>
      simp only [stepConsumer] at hs
      split at hs
      · obtain rfl := Option.some.inj hs
        exact ⟨rfl, .inl ⟨rfl, by simp, rfl⟩⟩
      · obtain rfl := Option.some.inj hs
        exact ⟨rfl, .inl ⟨rfl, by simp, rfl⟩⟩

/-! ## What the callers can count on -/

/-- A `consume` is under way that was called with a value owed. -/
def Asked (h : List (QueueEvent T)) : Prop :=
  ∃ before, CalledAfter h before ∧ (Common.consumed before).length < Common.completed before

theorem asked_of_called {h : List (QueueEvent T)}
    (hlt : (Common.consumed h).length < Common.completed h) : Asked (h ++ [.consumeCalled]) :=
  ⟨h, ⟨[], rfl, nofun⟩, hlt⟩

/-- The producer calling or returning meanwhile changes nothing. -/
theorem Asked.append {h : List (QueueEvent T)} (ha : Asked h) {e : QueueEvent T}
    (he : e.isConsumer = false) : Asked (h ++ [e]) := by
  obtain ⟨before, ⟨during, rfl, hquiet⟩, hlt⟩ := ha
  refine ⟨before, ⟨during ++ [e], by simp, fun e' he' => ?_⟩, hlt⟩
  rcases List.mem_append.1 he' with hd | hlast
  · exact hquiet e' hd
  · exact List.mem_singleton.1 hlast ▸ he

/-- **Who asks with a value owed is not sent away.** -/
theorem Sound.returns_value (h : s.Sound) (ha : Asked s.history) : s.returning ≠ some none := by
  intro hnone
  obtain ⟨f, d, l, hat⟩ := h
  obtain ⟨before, hcalled, hlt⟩ := ha
  have hc : s.consumer = .returnFalse := by
    unfold returning at hnone
    split at hnone
    · cases hnone
    · assumption
    · cases hnone
  have hle := hat.failing hc before hcalled
  omega

/-- The values taken are the first of those put in. -/
theorem Sound.fifo (h : s.Sound) :
    Common.consumed s.history <+: Common.produced s.history := by
  obtain ⟨f, d, l, hat⟩ := h
  calc Common.consumed s.history
      <+: Common.consumed s.history ++ s.consumer.pending := List.prefix_append _ _
    _ <+: s.queue.values := hat.consumed ▸ List.take_prefix d _
    _ <+: Common.produced s.history := hat.produced ▸ List.prefix_append _ _

/-- Between two calls of `produce` all of them have returned. -/
theorem Sound.completed_eq (h : s.Sound) (hp : s.producer = .idle) :
    Common.completed s.history = (Common.produced s.history).length := by
  obtain ⟨f, d, l, hat⟩ := h
  have hcompleted := hat.completed
  have hlength := hat.produced_length
  rw [hp] at hcompleted hlength
  simp only [Producing.published, Producing.behind, Producing.pending, List.length_nil] at *
  omega

/-- And where as many have been taken, all have. -/
theorem Sound.all_taken (h : s.Sound) (hp : s.producer = .idle)
    (hn : Common.completed s.history = (Common.consumed s.history).length) :
    Common.consumed s.history = Common.produced s.history :=
  h.fifo.eq_of_length (by rw [← hn, h.completed_eq hp])

/-! ## How long the calls take -/

end QueueSystem

/-- A bound on the micro-steps to the end of `produce`, but for the nodes
there are to delete. -/
def Producing.work : Producing T → ℕ
  | .idle => 0
  | .newNode _ => 23
  | .readLast _ => 22
  | .writeNext _ _ => 21
  | .readTail => 20
  | .readTailNext _ => 19
  | .writeLast _ => 18
  | .deleteHead _ => 10
  | .addSize => 9
  | .readDivider => 8
  | .readFirst _ => 7
  | .readHead => 6
  | .readHeadAgain _ => 5
  | .readHeadNext _ _ => 4
  | .writeFirst _ _ => 3

/-- A bound on the micro-steps to the end of `consume`. -/
def Consuming.work : Consuming T → ℕ
  | .idle => 0
  | .readDivider => 11
  | .readLast _ => 10
  | .readFront => 9
  | .readFrontNext _ => 8
  | .readFrontValue _ => 7
  | .readDividerAgain _ => 6
  | .readDividerNext _ _ => 5
  | .writeDivider _ _ => 4
  | .subSize _ => 3
  | .returnTrue _ | .returnFalse => 2

namespace QueueSystem

/-- What is left to do: eight steps for every node that may be deleted. -/
def work (s : QueueSystem T) : ℕ :=
  8 * (s.queue.last.getD 0 - s.queue.first.getD 0) + s.producer.work + s.consumer.work

/-- There is room for a node. -/
theorem exists_available (q : LockFreeQueue T) : ∃ address, q.available address = true := by
  obtain ⟨address, hnew⟩ := Infinite.exists_notMem_finset (q.nodes.map Node.address).toFinset
  refine ⟨address, List.all_eq_true.2 fun node hnode => ?_⟩
  have hne : node.address ≠ address := by
    rintro rfl
    exact hnew (List.mem_toFinset.2 (List.mem_map_of_mem hnode))
  simp [hne]

/-- A producer that is called can go on. -/
theorem Sound.producer_enabled (h : s.Sound) (hp : s.producer ≠ .idle) :
    ∃ act, (act = .producer ∨ ∃ address, act = .allocate address) ∧ (s.step act).isSome := by
  have hdefined := h.defined
  obtain ⟨q, producer, consumer, history, undefined⟩ := s
  obtain rfl : undefined = false := hdefined
  cases producer with
  | idle => exact absurd rfl hp
  | newNode t =>
    obtain ⟨address, hroom⟩ := exists_available q
    refine ⟨.allocate address, .inr ⟨address, rfl⟩, ?_⟩
    simp [QueueSystem.step, hroom]
  | readFirst divider =>
    refine ⟨.producer, .inl rfl, ?_⟩
    simp only [QueueSystem.step, Bool.false_eq_true, if_false, stepProducer]
    split <;> rfl
  | _ => exact ⟨.producer, .inl rfl, rfl⟩

/-- A consumer that is called can go on. -/
theorem Sound.consumer_enabled (h : s.Sound) (hc : s.consumer ≠ .idle) :
    (s.step .consumer).isSome := by
  have hdefined := h.defined
  obtain ⟨q, producer, consumer, history, undefined⟩ := s
  obtain rfl : undefined = false := hdefined
  cases consumer with
  | idle => exact absurd rfl hc
  | readLast divider =>
    simp only [QueueSystem.step, Bool.false_eq_true, if_false, stepConsumer]
    split <;> rfl
  | _ => rfl

/-- And one that is not can be called. -/
theorem Sound.consume_enabled (h : s.Sound) (hc : s.consumer = .idle) :
    (s.step .consume).isSome := by
  simp [QueueSystem.step, h.defined, hc]

end QueueSystem

end Base

end XrtcServer
