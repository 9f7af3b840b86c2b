import XrtcServer.Common.Run
import XrtcServer.Base.Model.LockFreeQueue
import Mathlib.Data.List.Basic
/-!
# The lock-free queue is a queue

The allocations are numbered in the order they were made, and the links
follow that order, so `first`, `divider` and `last` are three numbers. What
holds between every two micro-steps is that they stay in this order, with
the nodes from `first` on allocated and those before it deleted, up to the
one node the producer is about to append and the one it is about to delete.
The consumer only ever moves `divider` and the producer only `first` and
`last`, so what one side holds is not made false by a step of the other.
-/

namespace XrtcServer

namespace Base

open Common

variable {T : Type*} {q : LockFreeQueue T} {s s' : QueueSystem T} {t : T} {f d l : ℕ}

/-! ## The memory -/

namespace LockFreeQueue

/-- The values behind the dummy node, in the order they were produced. -/
def values (q : LockFreeQueue T) : List T := q.nodes.tail.map Node.value

/-- The allocations from `low` on are still there, those below `linked`
have been linked to the next one, and no two allocated nodes share an address. -/
structure Laid (nodes : List (Node T)) (low linked : ℕ) : Prop where
  allocated : ∀ (i : ℕ) (node : Node T), nodes[i]? = some node → (node.allocated = true ↔ low ≤ i)
  next : ∀ (i : ℕ) (node : Node T), nodes[i]? = some node →
    node.next = if i < linked then some (i + 1) else none
  apart : ∀ (i j : ℕ) (a b : Node T), nodes[i]? = some a → nodes[j]? = some b →
    a.allocated = true → b.allocated = true → a.address = b.address → i = j

variable {low linked i j : ℕ}

/-- What an allocated node is read as. -/
theorem Laid.deref (h : Laid q.nodes low linked) (hlow : low ≤ i) (hi : i < q.nodes.length) :
    ∃ node, q.nodes[i]? = some node ∧ q.deref (some i) = some node ∧
      (i < linked → node.next = some (i + 1)) := by
  have hnode := List.getElem?_eq_getElem hi
  refine ⟨q.nodes[i], hnode, ?_, fun hl => (h.next i _ hnode).trans (if_pos hl)⟩
  have halloc := (h.allocated i _ hnode).2 hlow
  simp [LockFreeQueue.deref, halloc, hi]

theorem Laid.isAllocated (h : Laid q.nodes low linked) :
    q.isAllocated i = true ↔ low ≤ i ∧ i < q.nodes.length := by
  rw [LockFreeQueue.isAllocated, LockFreeQueue.deref, Option.bind_some]
  rcases Nat.lt_or_ge i q.nodes.length with hi | hi
  · have hnode := List.getElem?_eq_getElem hi
    have halloc := h.allocated i _ hnode
    rw [hnode, Option.bind_some]
    split
    · rename_i ha
      simp [hi, halloc.1 ha]
    · rename_i ha
      rw [halloc] at ha
      simp [ha]
  · rw [List.getElem?_eq_none hi]
    simp
    omega

/-- Allocated nodes are told apart by their addresses. -/
theorem Laid.address_eq_iff (h : Laid q.nodes low linked) (hi : low ≤ i) (hj : low ≤ j)
    (hi' : i < q.nodes.length) (hj' : j < q.nodes.length) :
    q.address (some i) = q.address (some j) ↔ i = j := by
  constructor
  · intro heq
    have hni := List.getElem?_eq_getElem hi'
    have hnj := List.getElem?_eq_getElem hj'
    simp only [LockFreeQueue.address, Option.bind_some, hni, hnj, Option.map_some,
      Option.some.injEq] at heq
    exact h.apart i j _ _ hni hnj ((h.allocated i _ hni).2 hi) ((h.allocated j _ hnj).2 hj) heq
  · rintro rfl
    rfl

theorem values_getElem? (n : ℕ) : q.values[n]? = q.nodes[n + 1]?.map Node.value := by
  rw [values, List.getElem?_map, List.getElem?_tail]

theorem values_newNode (hne : q.nodes ≠ []) (address : ℕ) :
    (q.newNode t address).values = q.values ++ [t] := by
  rw [values, newNode, List.tail_append_of_ne_nil hne, List.map_append]
  rfl

theorem values_modify (g : Node T → Node T) (hg : ∀ node, (g node).value = node.value) (p : ℕ) :
    ((q.nodes.modify p g).tail.map Node.value) = q.values := by
  refine List.ext_getElem? fun n => ?_
  rw [List.getElem?_map, List.getElem?_tail, List.getElem?_modify, values_getElem?]
  rcases q.nodes[n + 1]? with _ | node
  · rfl
  · by_cases hp : p = n + 1
    · simp [hp, hg]
    · simp [hp]

@[simp] theorem values_setNext (p : Ptr) (next : Option Ptr) :
    (q.setNext p next).values = q.values :=
  values_modify (fun node => { node with next := next }) (fun _ => rfl) p

@[simp] theorem values_release (p : Ptr) : (q.release p).values = q.values :=
  values_modify (fun node => { node with allocated := false }) (fun _ => rfl) p

/-- A new node is the one with the highest number, not linked to yet. -/
theorem Laid.newNode (h : Laid q.nodes low linked) {address : ℕ} (ha : q.available address = true)
    (hlow : low ≤ q.nodes.length) (hlinked : linked ≤ q.nodes.length) :
    Laid (q.newNode t address).nodes low linked := by
  -- the new node is the last, and an allocated one has another address
  have hsplit : ∀ i node, (q.newNode t address).nodes[i]? = some node →
      q.nodes[i]? = some node ∨ i = q.nodes.length ∧ node = ⟨t, none, address, true⟩ := by
    intro i node hnode
    have hnodes : (q.newNode t address).nodes = q.nodes ++ [⟨t, none, address, true⟩] := rfl
    rw [hnodes, List.getElem?_append] at hnode
    split at hnode
    · exact .inl hnode
    · rename_i hi
      rw [List.getElem?_singleton] at hnode
      split at hnode
      · exact .inr ⟨by omega, (Option.some.inj hnode).symm⟩
      · cases hnode
  have hfresh : ∀ (i : ℕ) (node : Node T), q.nodes[i]? = some node → node.allocated = true →
      node.address ≠ address := by
    intro i node hnode hal
    have hav := List.all_eq_true.1 ha node (List.mem_of_getElem? hnode)
    simpa [hal] using hav
  refine ⟨fun i node hnode => ?_, fun i node hnode => ?_, fun i j a b hi hj hai haj heq => ?_⟩
  · rcases hsplit i node hnode with hold | ⟨rfl, rfl⟩
    · exact h.allocated i node hold
    · simpa using hlow
  · rcases hsplit i node hnode with hold | ⟨rfl, rfl⟩
    · exact h.next i node hold
    · rw [if_neg (by omega)]
  · rcases hsplit i a hi with holdi | ⟨rfl, rfl⟩ <;> rcases hsplit j b hj with holdj | ⟨rfl, rfl⟩
    · exact h.apart i j a b holdi holdj hai haj heq
    · exact absurd heq (hfresh i a holdi hai)
    · exact absurd heq.symm (hfresh j b holdj haj)
    · rfl

theorem getElem?_modify_some {g : Node T → Node T} {p : ℕ} {node : Node T}
    (hnode : (q.nodes.modify p g)[i]? = some node) :
    ∃ old, q.nodes[i]? = some old ∧ node = if p = i then g old else old := by
  rw [List.getElem?_modify] at hnode
  obtain ⟨old, hold, rfl⟩ := Option.map_eq_some_iff.1 hnode
  refine ⟨old, hold, ?_⟩
  split <;> rfl

/-- Linking the last linked node to the one after it. -/
theorem Laid.setNext (h : Laid q.nodes low linked) :
    Laid (q.setNext linked (some (linked + 1))).nodes low (linked + 1) := by
  refine ⟨fun i node hnode => ?_, fun i node hnode => ?_, fun i j a b hi hj hai haj heq => ?_⟩
  · obtain ⟨old, hold, rfl⟩ := getElem?_modify_some hnode
    rw [← h.allocated i old hold]
    split <;> rfl
  · obtain ⟨old, hold, rfl⟩ := getElem?_modify_some hnode
    have hnext := h.next i old hold
    split
    · rename_i hp
      subst hp
      simp
    · rename_i hp
      rw [hnext]
      split
      · rw [if_pos (by omega)]
      · rw [if_neg (by omega)]
  · obtain ⟨a', hoa, rfl⟩ := getElem?_modify_some hi
    obtain ⟨b', hob, rfl⟩ := getElem?_modify_some hj
    refine h.apart i j a' b' hoa hob ?_ ?_ ?_
    · split at hai <;> exact hai
    · split at haj <;> exact haj
    · split at heq <;> split at heq <;> exact heq

/-- Deleting the lowest node that is allocated. -/
theorem Laid.release (h : Laid q.nodes low linked) : Laid (q.release low).nodes (low + 1) linked := by
  refine ⟨fun i node hnode => ?_, fun i node hnode => ?_, fun i j a b hi hj hai haj heq => ?_⟩
  · obtain ⟨old, hold, rfl⟩ := getElem?_modify_some hnode
    have hal := h.allocated i old hold
    split
    · simp
      omega
    · rw [hal]
      omega
  · obtain ⟨old, hold, rfl⟩ := getElem?_modify_some hnode
    rw [← h.next i old hold]
    split <;> rfl
  · obtain ⟨a', hoa, rfl⟩ := getElem?_modify_some hi
    obtain ⟨b', hob, rfl⟩ := getElem?_modify_some hj
    split at hai
    · cases hai
    · split at haj
      · cases haj
      · rename_i hpi hpj
        rw [if_neg hpi, if_neg hpj] at heq
        exact h.apart i j a' b' hoa hob hai haj heq

end LockFreeQueue

/-! ## What each side holds -/

namespace Producing

/-- How many nodes there are behind `last`. -/
def behind : Producing T → ℕ
  | .readLast _ | .writeNext _ _ | .readTail | .readTailNext _ | .writeLast _ => 1
  | _ => 0

/-- Whether `last` is linked to the node behind it. -/
def linked : Producing T → ℕ
  | .readTail | .readTailNext _ | .writeLast _ => 1
  | _ => 0

/-- Whether the node before `first` is still to be deleted. -/
def detached : Producing T → ℕ
  | .deleteHead _ => 1
  | _ => 0

/-- Whether the value of this call is in the queue. -/
def published : Producing T → ℕ
  | .idle | .newNode _ | .readLast _ | .writeNext _ _ | .readTail | .readTailNext _
  | .writeLast _ => 0
  | _ => 1

/-- Whether that value has yet to be counted. -/
def uncounted : Producing T → ℤ
  | .addSize => 1
  | _ => 0

/-- The value no node has been made for yet. -/
def pending : Producing T → List T
  | .newNode t => [t]
  | _ => []

/-- What the producer knows where it stands, with `first`, `divider` and
`last` at these nodes. -/
def Holds (f d l : ℕ) : Producing T → Prop
  | .readLast node => node = l + 1
  | .writeNext node last => node = l + 1 ∧ last = some l
  | .readTailNext last => last = some l
  | .writeLast next => next = some (l + 1)
  | .readFirst divider => ∃ e : ℕ, divider = some e ∧ f ≤ e ∧ e ≤ d
  | .readHead => f < d
  | .readHeadAgain temp => temp = some f ∧ f < d
  | .readHeadNext temp first => temp = some f ∧ first = some f ∧ f < d
  | .writeFirst temp next => temp = some f ∧ next = some (f + 1) ∧ f < d
  | .deleteHead temp => 0 < f ∧ temp = some (f - 1)
  | _ => True

/-- The consumer moving on takes nothing from what the producer knows. -/
theorem Holds.mono {p : Producing T} {d' : ℕ} (h : p.Holds f d l) (hd : d ≤ d') :
    p.Holds f d' l := by
  cases p <;> simp only [Holds] at h ⊢ <;> first | exact h | skip
  · obtain ⟨e, he, hfe, hed⟩ := h
    exact ⟨e, he, hfe, by omega⟩
  · omega
  · exact ⟨h.1, by omega⟩
  · exact ⟨h.1, h.2.1, by omega⟩
  · exact ⟨h.1, h.2.1, by omega⟩

end Producing

namespace Consuming

/-- The value that has left the queue and has not been returned. -/
def pending : Consuming T → List T
  | .subSize result | .returnTrue result => [result]
  | _ => []

/-- Whether that value is still counted. -/
def counted : Consuming T → ℤ
  | .subSize _ => 1
  | _ => 0

/-- What the consumer knows where it stands. -/
def Holds (values : List T) (d l : ℕ) : Consuming T → Prop
  | .readLast divider => divider = some d
  | .readFront => d < l
  | .readFrontNext divider => divider = some d ∧ d < l
  | .readFrontValue next => next = some (d + 1) ∧ d < l
  | .readDividerAgain result => d < l ∧ values[d]? = some result
  | .readDividerNext result divider => divider = some d ∧ d < l ∧ values[d]? = some result
  | .writeDivider result next => next = some (d + 1) ∧ d < l ∧ values[d]? = some result
  | _ => True

/-- The producer appending takes nothing from what the consumer knows. -/
theorem Holds.mono {c : Consuming T} {values values' : List T} {l' : ℕ}
    (h : c.Holds values d l) (hl : l ≤ l') (hv : values <+: values') : c.Holds values' d l' := by
  have hget : ∀ r, values[d]? = some r → values'[d]? = some r := by
    intro r hr
    obtain ⟨more, rfl⟩ := hv
    obtain ⟨hlt, -⟩ := List.getElem?_eq_some_iff.1 hr
    rw [List.getElem?_append_left hlt, hr]
  cases c <;> simp only [Holds] at h ⊢ <;> first | exact h | skip
  · omega
  · exact ⟨h.1, by omega⟩
  · exact ⟨h.1, by omega⟩
  · exact ⟨by omega, hget _ h.2⟩
  · exact ⟨h.1, by omega, hget _ h.2.2⟩
  · exact ⟨h.1, by omega, hget _ h.2.2⟩

end Consuming

/-! ## Between two micro-steps -/

namespace QueueSystem

open LockFreeQueue

/-- **The invariant**, with `first`, `divider` and `last` at the nodes `f`,
`d` and `l`. -/
structure At (s : QueueSystem T) (f d l : ℕ) : Prop where
  first : s.queue.first = some f
  divider : s.queue.divider = some d
  last : s.queue.last = some l
  first_le : f ≤ d
  divider_le : d ≤ l
  length : s.queue.nodes.length = l + 1 + s.producer.behind
  laid : Laid s.queue.nodes (f - s.producer.detached) (l + s.producer.linked)
  producer : s.producer.Holds f d l
  consumer : s.consumer.Holds s.queue.values d l
  produced : produced s.history = s.queue.values ++ s.producer.pending
  consumed : consumed s.history ++ s.consumer.pending = s.queue.values.take d
  completed : completed s.history + s.producer.published = l
  size : s.queue._size + s.producer.uncounted = l - d + s.consumer.counted
  failing : s.consumer = .returnFalse → ∀ before, CalledAfter s.history before →
    Common.completed before ≤ (Common.consumed before).length
  prompt : Prompt s.history
  defined : s.undefined = false

/-- An empty queue with both sides idle. -/
theorem at_init (dummy : T) (address : ℕ) : (init dummy address).At 0 0 0 where
  first := rfl
  divider := rfl
  last := rfl
  first_le := le_rfl
  divider_le := le_rfl
  length := rfl
  laid := by
    constructor
    · intro i node hnode
      obtain ⟨rfl, rfl⟩ : i = 0 ∧ node = ⟨dummy, none, address, true⟩ := by
        simpa [init, LockFreeQueue.init, List.getElem?_singleton, eq_comm] using hnode
      simp
    · intro i node hnode
      obtain ⟨rfl, rfl⟩ : i = 0 ∧ node = ⟨dummy, none, address, true⟩ := by
        simpa [init, LockFreeQueue.init, List.getElem?_singleton, eq_comm] using hnode
      rfl
    · intro i j a b hi hj _ _ _
      have hi0 : i = 0 := by
        simpa [init, LockFreeQueue.init, List.getElem?_singleton] using And.left (by
          simpa [init, LockFreeQueue.init, List.getElem?_singleton] using hi)
      have hj0 : j = 0 := by
        simpa [init, LockFreeQueue.init, List.getElem?_singleton] using And.left (by
          simpa [init, LockFreeQueue.init, List.getElem?_singleton] using hj)
      omega
  producer := trivial
  consumer := trivial
  produced := rfl
  consumed := rfl
  completed := rfl
  size := rfl
  failing := fun h => nomatch h
  prompt := prompt_nil
  defined := rfl

/-- What an access to an allocated node goes on with. -/
theorem access_eq {i : ℕ} {node : Node T} {k : Ptr → Node T → QueueSystem T}
    (h : s.queue.deref (some i) = some node) : s.access (some i) k = k i node := by
  simp only [access, h]

/-! ## The steps of the producer -/

/-- An event of the producer's is no concern of a `consume` that fails. -/
theorem At.failing_append (h : s.At f d l) {e : QueueEvent T} (he : e.isConsumer = false) :
    s.consumer = .returnFalse → ∀ before, CalledAfter (s.history ++ [e]) before →
      Common.completed before ≤ (Common.consumed before).length :=
  fun hc before hb => h.failing hc before (hb.of_append he)

theorem At.produce (h : s.At f d l) (hs : s.step (.produce t) = some s') : s'.At f d l := by
  obtain ⟨q, producer, consumer, history, undefined⟩ := s
  obtain rfl : undefined = false := h.defined
  cases producer <;> simp only [step, Bool.false_eq_true, if_false, reduceCtorEq,
    Option.some.injEq] at hs
  subst hs
  refine { h with
    producer := trivial
    produced := ?_
    consumed := ?_
    completed := ?_
    failing := h.failing_append rfl
    prompt := h.prompt.append nofun }
  · have hp : Common.produced history = q.values ++ [] := h.produced
    rw [produced_append_called, hp, List.append_nil]
    rfl
  · rw [consumed_append_producer rfl]
    exact h.consumed
  · rw [completed_append_called]
    exact h.completed

theorem At.allocate {address : ℕ} (h : s.At f d l)
    (hs : s.step (.allocate address) = some s') : s'.At f d l := by
  obtain ⟨q, producer, consumer, history, undefined⟩ := s
  obtain rfl : undefined = false := h.defined
  cases producer <;> simp only [step, Bool.false_eq_true, if_false, reduceCtorEq] at hs
  rename_i t
  split at hs
  · rename_i hav
    obtain rfl := Option.some.inj hs
    have hlen : q.nodes.length = l + 1 := h.length
    have hval : (q.newNode t address).values = q.values ++ [t] :=
      values_newNode (List.ne_nil_of_length_eq_add_one hlen) address
    have hd : d ≤ q.values.length := by
      have hle := h.divider_le
      rw [values, List.length_map, List.length_tail]
      omega
    refine { h with
      length := ?_
      laid := ?_
      producer := hlen
      consumer := h.consumer.mono le_rfl ?_
      produced := ?_
      consumed := ?_ }
    · rw [newNode, List.length_append, hlen]
      rfl
    · have hf := h.first_le
      have hle := h.divider_le
      refine h.laid.newNode hav ?_ ?_
      · show f - 0 ≤ q.nodes.length
        omega
      · show l + 0 ≤ q.nodes.length
        omega
    · rw [hval]
      exact List.prefix_append _ _
    · show Common.produced history = (q.newNode t address).values ++ []
      rw [hval, List.append_nil]
      exact h.produced
    · show Common.consumed history ++ consumer.pending = (q.newNode t address).values.take d
      rw [hval, List.take_append_of_le_length hd]
      exact h.consumed
  · cases hs

/-- **The producer moves `first` and `last` on, and nothing else.** -/
theorem At.producer_step (h : s.At f d l) (hs : s.step .producer = some s') :
    ∃ f' l', s'.At f' d l' := by
  obtain ⟨q, producer, consumer, history, undefined⟩ := s
  obtain rfl : undefined = false := h.defined
  have hfirst : q.first = some f := h.first
  have hdivider : q.divider = some d := h.divider
  have hlast : q.last = some l := h.last
  have hfd := h.first_le
  have hdl := h.divider_le
  have hlen := h.length
  simp only [step, Bool.false_eq_true, if_false] at hs
  cases producer with
  | idle => cases hs
  | newNode t => cases hs
  | readLast node =>
    obtain rfl := Option.some.inj hs
    exact ⟨f, l, { h with producer := ⟨h.producer, hlast⟩ }⟩
  | writeNext node last =>
    obtain ⟨rfl, rfl⟩ := h.producer
    obtain ⟨node, -, hderef, -⟩ := h.laid.deref (i := l) (by omega) (by rw [hlen]; omega)
    obtain rfl := (Option.some.inj hs).symm.trans (access_eq hderef)
    refine ⟨f, l, { h with
      length := (List.length_modify _ _ _).trans hlen
      laid := h.laid.setNext
      producer := trivial
      consumer := ?_
      produced := ?_
      consumed := ?_ }⟩
    · rw [values_setNext]
      exact h.consumer
    · rw [values_setNext]
      exact h.produced
    · rw [values_setNext]
      exact h.consumed
  | readTail =>
    obtain rfl := Option.some.inj hs
    exact ⟨f, l, { h with producer := hlast }⟩
  | readTailNext last =>
    obtain rfl := h.producer
    obtain ⟨node, -, hderef, hnext⟩ := h.laid.deref (i := l) (by omega) (by rw [hlen]; omega)
    obtain rfl := (Option.some.inj hs).symm.trans (access_eq hderef)
    exact ⟨f, l, { h with producer := hnext (Nat.lt_succ_self l) }⟩
  | writeLast next =>
    obtain rfl := h.producer
    obtain rfl := Option.some.inj hs
    -- from here on the value is in the queue
    refine ⟨f, l + 1, { h with
      last := rfl
      divider_le := by omega
      length := hlen
      producer := trivial
      consumer := h.consumer.mono (Nat.le_succ l) (List.prefix_refl _)
      completed := ?_
      size := ?_ }⟩
    · have hc : Common.completed history + 0 = l := h.completed
      show Common.completed history + 1 = l + 1
      omega
    · have hz : q._size + 0 = l - d + consumer.counted := h.size
      show q._size + 1 = ((l + 1 : ℕ) : ℤ) - d + consumer.counted
      omega
  | addSize =>
    obtain rfl := Option.some.inj hs
    refine ⟨f, l, { h with
      producer := trivial
      size := ?_ }⟩
    have hz : q._size + 1 = l - d + consumer.counted := h.size
    show q._size + 1 + 0 = (l : ℤ) - d + consumer.counted
    omega
  | readDivider =>
    obtain rfl := Option.some.inj hs
    exact ⟨f, l, { h with producer := ⟨d, hdivider, hfd, le_rfl⟩ }⟩
  | readFirst divider =>
    obtain ⟨e, rfl, hfe, hed⟩ := h.producer
    have hsame := h.laid.address_eq_iff (i := e) (j := f) (by omega) (by omega)
      (by rw [hlen]; omega) (by rw [hlen]; omega)
    simp only [stepProducer, hfirst, ne_eq, hsame] at hs
    split at hs
    · rename_i hne
      obtain rfl := Option.some.inj hs
      refine ⟨f, l, { h with producer := ?_ }⟩
      show f < d
      omega
    · obtain rfl := Option.some.inj hs
      refine ⟨f, l, { h with
        producer := trivial
        produced := ?_
        consumed := ?_
        completed := ?_
        failing := h.failing_append rfl
        prompt := h.prompt.append nofun }⟩
      · rw [produced_append_returned]
        exact h.produced
      · rw [consumed_append_producer rfl]
        exact h.consumed
      · rw [completed_append_returned]
        exact h.completed
  | readHead =>
    obtain rfl := Option.some.inj hs
    exact ⟨f, l, { h with producer := ⟨hfirst, h.producer⟩ }⟩
  | readHeadAgain temp =>
    obtain rfl := Option.some.inj hs
    exact ⟨f, l, { h with producer := ⟨h.producer.1, hfirst, h.producer.2⟩ }⟩
  | readHeadNext temp first =>
    obtain ⟨rfl, rfl, hlt⟩ := h.producer
    obtain ⟨node, -, hderef, hnext⟩ := h.laid.deref (i := f) (by omega) (by rw [hlen]; omega)
    obtain rfl := (Option.some.inj hs).symm.trans (access_eq hderef)
    have hl : f < l + 0 := by omega
    exact ⟨f, l, { h with producer := ⟨rfl, hnext hl, hlt⟩ }⟩
  | writeFirst temp next =>
    obtain ⟨rfl, rfl, hlt⟩ := h.producer
    obtain rfl := Option.some.inj hs
    exact ⟨f + 1, l, { h with
      first := rfl
      first_le := hlt
      producer := ⟨Nat.succ_pos f, rfl⟩ }⟩
  | deleteHead temp =>
    obtain ⟨hpos, rfl⟩ := h.producer
    obtain ⟨node, -, hderef, -⟩ := h.laid.deref (i := f - 1) le_rfl (by rw [hlen]; omega)
    obtain rfl := (Option.some.inj hs).symm.trans (access_eq hderef)
    have hgone : Laid (q.release (f - 1)).nodes (f - 1 + 1) l := h.laid.release
    rw [Nat.sub_add_cancel hpos] at hgone
    refine ⟨f, l, { h with
      length := (List.length_modify _ _ _).trans hlen
      laid := hgone
      producer := trivial
      consumer := ?_
      produced := ?_
      consumed := ?_ }⟩
    · rw [values_release]
      exact h.consumer
    · rw [values_release]
      exact h.produced
    · rw [values_release]
      exact h.consumed

/-! ## The steps of the consumer -/

theorem At.consume (h : s.At f d l) (hs : s.step .consume = some s') : s'.At f d l := by
  obtain ⟨q, producer, consumer, history, undefined⟩ := s
  obtain rfl : undefined = false := h.defined
  cases consumer <;> simp only [step, Bool.false_eq_true, if_false, reduceCtorEq,
    Option.some.injEq] at hs
  subst hs
  refine { h with
    consumer := trivial
    produced := ?_
    consumed := ?_
    completed := ?_
    failing := nofun
    prompt := h.prompt.append nofun }
  · rw [produced_append_consumer rfl]
    exact h.produced
  · rw [consumed_append_called]
    exact h.consumed
  · rw [completed_append_consumer rfl]
    exact h.completed

/-- **The consumer moves `divider` on, and nothing else.** -/
theorem At.consumer_step (h : s.At f d l) (hs : s.step .consumer = some s') :
    ∃ d', s'.At f d' l := by
  obtain ⟨q, producer, consumer, history, undefined⟩ := s
  obtain rfl : undefined = false := h.defined
  have hdivider : q.divider = some d := h.divider
  have hlast : q.last = some l := h.last
  have hfd := h.first_le
  have hdl := h.divider_le
  have hlen : q.nodes.length = l + 1 + producer.behind := h.length
  simp only [step, Bool.false_eq_true, if_false] at hs
  cases consumer with
  | idle => cases hs
  | readDivider =>
    obtain rfl := Option.some.inj hs
    exact ⟨d, { h with consumer := hdivider, failing := nofun }⟩
  | readLast divider =>
    obtain rfl := h.consumer
    have hsame := h.laid.address_eq_iff (i := d) (j := l) (by omega) (by omega)
      (by rw [hlen]; omega) (by rw [hlen]; omega)
    simp only [stepConsumer, hlast, ne_eq, hsame] at hs
    split at hs
    · rename_i hne
      obtain rfl := Option.some.inj hs
      refine ⟨d, { h with consumer := ?_, failing := nofun }⟩
      show d < l
      omega
    · rename_i heq
      obtain rfl := Option.some.inj hs
      obtain rfl : d = l := not_not.1 heq
      refine ⟨d, { h with consumer := trivial, failing := fun _ before hb => ?_ }⟩
      -- all that had been produced by the call has been consumed
      have hval : d ≤ q.values.length := by
        rw [values, List.length_map, List.length_tail]
        omega
      have htake : Common.consumed history ++ [] = q.values.take d := h.consumed
      have hall : (Common.consumed before).length = d := by
        rw [hb.consumed_eq, ← List.append_nil (Common.consumed _), htake, List.length_take]
        omega
      have hle := hb.completed_le
      have hcomp := h.completed
      simp only at hle hcomp
      omega
  | readFront =>
    obtain rfl := Option.some.inj hs
    exact ⟨d, { h with consumer := ⟨hdivider, h.consumer⟩, failing := nofun }⟩
  | readFrontNext divider =>
    obtain ⟨rfl, hlt⟩ := h.consumer
    obtain ⟨node, -, hderef, hnext⟩ := h.laid.deref (i := d) (by omega) (by rw [hlen]; omega)
    obtain rfl := (Option.some.inj hs).symm.trans (access_eq hderef)
    exact ⟨d, { h with consumer := ⟨hnext (by omega), hlt⟩, failing := nofun }⟩
  | readFrontValue next =>
    obtain ⟨rfl, hlt⟩ := h.consumer
    obtain ⟨node, hnode, hderef, -⟩ :=
      h.laid.deref (i := d + 1) (by omega) (by rw [hlen]; omega)
    obtain rfl := (Option.some.inj hs).symm.trans (access_eq hderef)
    refine ⟨d, { h with consumer := ⟨hlt, ?_⟩, failing := nofun }⟩
    rw [values_getElem?, hnode]
    rfl
  | readDividerAgain result =>
    obtain rfl := Option.some.inj hs
    exact ⟨d, { h with consumer := ⟨hdivider, h.consumer⟩, failing := nofun }⟩
  | readDividerNext result divider =>
    obtain ⟨rfl, hlt, hval⟩ := h.consumer
    obtain ⟨node, -, hderef, hnext⟩ := h.laid.deref (i := d) (by omega) (by rw [hlen]; omega)
    obtain rfl := (Option.some.inj hs).symm.trans (access_eq hderef)
    exact ⟨d, { h with consumer := ⟨hnext (by omega), hlt, hval⟩, failing := nofun }⟩
  | writeDivider result next =>
    obtain ⟨rfl, hlt, hval⟩ := h.consumer
    obtain rfl := Option.some.inj hs
    -- from here on the value has left the queue
    refine ⟨d + 1, { h with
      divider := rfl
      first_le := by omega
      divider_le := hlt
      producer := h.producer.mono (Nat.le_succ d)
      consumer := trivial
      consumed := ?_
      size := ?_
      failing := nofun }⟩
    · have hc : Common.consumed history ++ [] = q.values.take d := h.consumed
      show Common.consumed history ++ [result] = q.values.take (d + 1)
      rw [List.take_add_one, hval, ← hc, List.append_nil]
      rfl
    · have hz : q._size + producer.uncounted = l - d + 0 := h.size
      show q._size + producer.uncounted = l - ((d + 1 : ℕ) : ℤ) + 1
      omega
  | subSize result =>
    obtain rfl := Option.some.inj hs
    refine ⟨d, { h with consumer := trivial, size := ?_, failing := nofun }⟩
    have hz : q._size + producer.uncounted = l - d + 1 := h.size
    show q._size - 1 + producer.uncounted = (l : ℤ) - d + 0
    omega
  | returnTrue result =>
    obtain rfl := Option.some.inj hs
    refine ⟨d, { h with
      consumer := trivial
      produced := ?_
      consumed := ?_
      completed := ?_
      failing := nofun
      prompt := h.prompt.append nofun }⟩
    · rw [produced_append_consumer rfl]
      exact h.produced
    · rw [consumed_append_some]
      exact (List.append_nil _).trans h.consumed
    · rw [completed_append_consumer rfl]
      exact h.completed
  | returnFalse =>
    obtain rfl := Option.some.inj hs
    refine ⟨d, { h with
      consumer := trivial
      produced := ?_
      consumed := ?_
      completed := ?_
      failing := nofun
      prompt := h.prompt.append fun _ => h.failing rfl }⟩
    · rw [produced_append_consumer rfl]
      exact h.produced
    · rw [consumed_append_none]
      exact h.consumed
    · rw [completed_append_consumer rfl]
      exact h.completed

/-- **Every micro-step keeps the invariant.** -/
theorem at_step {act : QueueAct T} (h : s.At f d l) (hs : s.step act = some s') :
    ∃ f' d' l', s'.At f' d' l' := by
  cases act with
  | produce t => exact ⟨f, d, l, h.produce hs⟩
  | allocate address => exact ⟨f, d, l, h.allocate hs⟩
  | producer =>
    obtain ⟨f', l', h'⟩ := h.producer_step hs
    exact ⟨f', d, l', h'⟩
  | consume => exact ⟨f, d, l, h.consume hs⟩
  | consumer =>
    obtain ⟨d', h'⟩ := h.consumer_step hs
    exact ⟨f, d', l, h'⟩

/-- The invariant holds between every two micro-steps. -/
theorem At.of_run {dummy : T} {address : ℕ} {schedule : List (QueueAct T)}
    (h : run step (init dummy address) schedule = some s) : ∃ f d l, s.At f d l := by
  refine inv_of_run (I := fun s => ∃ f d l, s.At f d l) ?_ ⟨0, 0, 0, at_init dummy address⟩ h
  rintro s act s' ⟨f, d, l, hat⟩ hs
  exact at_step hat hs

/-! ## What the invariant says -/

theorem Producing.linked_le_behind (p : Producing T) : p.linked ≤ p.behind := by
  cases p <;> simp [Producing.linked, Producing.behind]

/-- A link leads to the next number. -/
theorem At.links (h : s.At f d l) {i j : ℕ} (hij : s.queue.Links i j) :
    j = i + 1 ∧ j < s.queue.nodes.length := by
  obtain ⟨node, hnode, hnext⟩ := hij
  rw [h.laid.next i node hnode] at hnext
  split at hnext
  · have hle := Producing.linked_le_behind s.producer
    have hlen := h.length
    have hj := Option.some.inj hnext
    omega
  · cases hnext

/-- What `divider` leads to has not been deleted. -/
theorem At.reaches (h : s.At f d l) {j : ℕ} (hj : s.queue.Reaches d j) :
    s.queue.isAllocated j = true := by
  have hbetween : d ≤ j ∧ j < s.queue.nodes.length := by
    induction hj with
    | refl =>
      have hle := h.divider_le
      have hlen := h.length
      omega
    | tail _ hlink ih =>
      have hnext := h.links hlink
      omega
  have hle := h.first_le
  exact h.laid.isAllocated.2 ⟨by omega, hbetween.2⟩

/-- Between two calls of `produce` the nodes that are allocated are those
from `first` to `last`. -/
theorem At.chain (h : s.At f d l) (hp : s.producer = .idle) :
    ∃ nodes, s.queue.Chain nodes ∧ ∀ i, s.queue.isAllocated i = true ↔ i ∈ nodes := by
  have hfd := h.first_le
  have hdl := h.divider_le
  have hlen := h.length
  have hlaid := h.laid
  rw [hp] at hlen hlaid
  have hlen' : s.queue.nodes.length = l + 1 := hlen
  have hlaid' : Laid s.queue.nodes f l := hlaid
  refine ⟨List.range' f (l - f + 1), ⟨?_, ?_, ?_⟩, fun i => ?_⟩
  · rw [List.head?_range', if_neg (by omega), h.first]
  · rw [List.getLast?_range', if_neg (by omega), h.last]
    congr 1
    omega
  · refine List.isChain_iff_getElem.2 fun i hi => ?_
    rw [List.length_range'] at hi
    rw [List.getElem_range', List.getElem_range', Nat.one_mul, Nat.one_mul, ← Nat.add_assoc]
    have hget := List.getElem?_eq_getElem (show f + i < s.queue.nodes.length by omega)
    exact ⟨_, hget, (hlaid'.next _ _ hget).trans (if_pos (by omega))⟩
  · rw [hlaid'.isAllocated, hlen', List.mem_range'_1]
    omega

theorem At.values_length (h : s.At f d l) : s.queue.values.length = l + s.producer.behind := by
  rw [values, List.length_map, List.length_tail, h.length]
  omega

theorem At.produced_length (h : s.At f d l) :
    (Common.produced s.history).length = l + s.producer.behind + s.producer.pending.length := by
  rw [h.produced, List.length_append, h.values_length]

theorem At.consumed_length (h : s.At f d l) :
    (Common.consumed s.history).length + s.consumer.pending.length = d := by
  have hle := h.divider_le
  rw [← List.length_append, h.consumed, List.length_take, h.values_length]
  omega

/-- With both sides idle the counter is the number of values in between. -/
theorem At.size_eq (h : s.At f d l) (hp : s.producer = .idle) (hc : s.consumer = .idle) :
    s.queue._size = (Common.produced s.history).length - (Common.consumed s.history).length := by
  have hsize := h.size
  have hproduced := h.produced_length
  have hconsumed := h.consumed_length
  rw [hp] at hsize hproduced
  rw [hc] at hsize hconsumed
  simp only [Producing.uncounted, Producing.behind, Producing.pending, Consuming.counted,
    Consuming.pending, List.length_nil] at hsize hproduced hconsumed
  omega

/-- **The queue is first in, first out, and prompt, and touches no node it
has deleted.** In every state the two sides reach, step by step in any
order: what has been consumed is the first of what has been produced, no
`consume` failed that was owed a value, `divider` leads to allocated nodes
only, no access has gone wrong, and between two calls of `produce` the
nodes still allocated are the chain from `first` to `last`. -/
theorem lockFreeQueue_fifo {dummy : T} {address : ℕ} {schedule : List (QueueAct T)}
    (h : run step (init dummy address) schedule = some s) :
    Common.consumed s.history <+: Common.produced s.history ∧
      Prompt s.history ∧
      (∃ i, s.queue.divider = some i ∧
        ∀ j, s.queue.Reaches i j → s.queue.isAllocated j = true) ∧
      s.undefined = false ∧
      (s.producer = .idle →
        ∃ nodes, s.queue.Chain nodes ∧ ∀ i, s.queue.isAllocated i = true ↔ i ∈ nodes) := by
  obtain ⟨f, d, l, hat⟩ := At.of_run h
  refine ⟨?_, hat.prompt, ⟨d, hat.divider, fun j hj => hat.reaches hj⟩, hat.defined, hat.chain⟩
  calc Common.consumed s.history
      <+: Common.consumed s.history ++ s.consumer.pending := List.prefix_append _ _
    _ <+: s.queue.values := hat.consumed ▸ List.take_prefix d _
    _ <+: Common.produced s.history := hat.produced ▸ List.prefix_append _ _

/-- One value goes through, its node at address 101 and the dummy's at 100:
the consumer takes it while the producer has yet to count it. -/
theorem lockFreeQueue_fifo_one :
    ∃ s, run step (init 0 100)
        ([.produce 7, .allocate 101] ++ List.replicate 5 .producer ++ [.consume] ++
          List.replicate 10 .consumer ++ List.replicate 10 .producer) = some s ∧
      s.history = [.produceCalled 7, .consumeCalled, .consumeReturned (some 7), .produceReturned] ∧
      Common.consumed s.history <+: Common.produced s.history ∧
      Prompt s.history ∧
      (∃ i, s.queue.divider = some i ∧
        ∀ j, s.queue.Reaches i j → s.queue.isAllocated j = true) ∧
      s.undefined = false ∧
      (s.producer = .idle →
        ∃ nodes, s.queue.Chain nodes ∧ ∀ i, s.queue.isAllocated i = true ↔ i ∈ nodes) := by
  have h : run step (init 0 100)
      ([.produce 7, .allocate 101] ++ List.replicate 5 .producer ++ [.consume] ++
        List.replicate 10 .consumer ++ List.replicate 10 .producer) = some _ := rfl
  exact ⟨_, h, rfl, lockFreeQueue_fifo h⟩

end QueueSystem

end Base

end XrtcServer
