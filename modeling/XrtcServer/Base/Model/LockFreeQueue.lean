import XrtcServer.Common.History
import Mathlib.Data.Int.Notation
import Mathlib.Logic.Relation
/-!
# The queue between two threads

`LockFreeQueue` and its two callers, one assignment or read of a shared
variable at a time. A pointer names the allocation it came from, so that a
pointer to a deleted node is not mistaken for one to a node allocated later
at the same address; two pointers compare equal when the addresses do. The
memory is every allocation there has been. Where an address may come from
is the allocator's: it gives any that no allocated node has.

An access through a null pointer or to a deleted node is recorded in
`undefined`, and nothing follows it.
-/

namespace XrtcServer

namespace Base

open Common

variable {T : Type*}

/-- Which allocation, counted from the dummy node. -/
abbrev Ptr := ℕ

/-- `LockFreeQueue::Node`, with where it is and whether it is still allocated. -/
structure Node (T : Type*) where
  value : T
  next : Option Ptr
  address : ℕ
  allocated : Bool
deriving DecidableEq, Repr

/-- `LockFreeQueue`, with the memory its pointers point into. A null
pointer is `none`. -/
structure LockFreeQueue (T : Type*) where
  nodes : List (Node T)
  first : Option Ptr
  divider : Option Ptr
  last : Option Ptr
  _size : ℤ
deriving DecidableEq, Repr

namespace LockFreeQueue

/-- `LockFreeQueue()`, the dummy node at an address. -/
def init (dummy : T) (address : ℕ) : LockFreeQueue T where
  nodes := [⟨dummy, none, address, true⟩]
  first := some 0
  divider := some 0
  last := some 0
  _size := 0

/-- The node behind a pointer, where there is one. -/
def deref (q : LockFreeQueue T) (p : Option Ptr) : Option (Node T) :=
  p.bind fun i => q.nodes[i]?.bind fun node => if node.allocated then some node else none

/-- What `==` on pointers compares. -/
def address (q : LockFreeQueue T) (p : Option Ptr) : Option ℕ :=
  p.bind fun i => q.nodes[i]?.map Node.address

/-- Whether the allocator may give this address. -/
def available (q : LockFreeQueue T) (address : ℕ) : Bool :=
  q.nodes.all fun node => !node.allocated || node.address != address

/-- `new Node(t)`. -/
def newNode (q : LockFreeQueue T) (t : T) (address : ℕ) : LockFreeQueue T :=
  { q with nodes := q.nodes ++ [⟨t, none, address, true⟩] }

/-- `p->next = next`. -/
def setNext (q : LockFreeQueue T) (p : Ptr) (next : Option Ptr) : LockFreeQueue T :=
  { q with nodes := q.nodes.modify p fun node => { node with next := next } }

/-- `delete p`. -/
def release (q : LockFreeQueue T) (p : Ptr) : LockFreeQueue T :=
  { q with nodes := q.nodes.modify p fun node => { node with allocated := false } }

/-- `size()`, what the `std::atomic<int>` holds after so many `++` and `--`. -/
def size (q : LockFreeQueue T) : ℤ := (Int32.ofInt q._size).toInt

/-- `empty()`. -/
def empty (q : LockFreeQueue T) : Bool := q.size = 0

/-- One `next` pointer leads to the other node. -/
def Links (q : LockFreeQueue T) (p p' : Ptr) : Prop :=
  ∃ node, q.nodes[p]? = some node ∧ node.next = some p'

/-- The nodes that `next` pointers lead to. -/
def Reaches (q : LockFreeQueue T) : Ptr → Ptr → Prop := Relation.ReflTransGen q.Links

/-- Whether a node has been allocated and not deleted. -/
def isAllocated (q : LockFreeQueue T) (p : Ptr) : Bool := (q.deref (some p)).isSome

/-- `nodes` are the nodes from `first` to `last`, in the order of the links. -/
structure Chain (q : LockFreeQueue T) (nodes : List Ptr) : Prop where
  first : nodes.head? = q.first
  last : nodes.getLast? = q.last
  links : nodes.IsChain q.Links

end LockFreeQueue

/-- Where the producer is in `produce`, with what it holds: each constructor
is named after what it does next. -/
inductive Producing (T : Type*) where
  | idle
  /-- `last->next = new Node(t)`. -/
  | newNode (t : T)
  | readLast (node : Ptr)
  | writeNext (node : Ptr) (last : Option Ptr)
  /-- `last = last->next`. -/
  | readTail
  | readTailNext (last : Option Ptr)
  | writeLast (next : Option Ptr)
  /-- `++_size`. -/
  | addSize
  /-- `divider != first`. -/
  | readDivider
  | readFirst (divider : Option Ptr)
  /-- `temp = first`. -/
  | readHead
  /-- `first = first->next`. -/
  | readHeadAgain (temp : Option Ptr)
  | readHeadNext (temp first : Option Ptr)
  | writeFirst (temp next : Option Ptr)
  /-- `delete temp`. -/
  | deleteHead (temp : Option Ptr)
deriving DecidableEq, Repr

/-- Where the consumer is in `consume`, with what it holds. -/
inductive Consuming (T : Type*) where
  | idle
  /-- `divider != last`. -/
  | readDivider
  | readLast (divider : Option Ptr)
  /-- `*result = divider->next->value`. -/
  | readFront
  | readFrontNext (divider : Option Ptr)
  | readFrontValue (next : Option Ptr)
  /-- `divider = divider->next`, with `*result` written. -/
  | readDividerAgain (result : T)
  | readDividerNext (result : T) (divider : Option Ptr)
  | writeDivider (result : T) (next : Option Ptr)
  /-- `--_size`. -/
  | subSize (result : T)
  /-- `return true`. -/
  | returnTrue (result : T)
  /-- `return false`. -/
  | returnFalse
deriving DecidableEq, Repr

/-- The queue and its two callers. -/
structure QueueSystem (T : Type*) where
  queue : LockFreeQueue T
  producer : Producing T := .idle
  consumer : Consuming T := .idle
  history : List (QueueEvent T) := []
  undefined : Bool := false

/-- Who takes the next micro-step. -/
inductive QueueAct (T : Type*) where
  /-- The producer calls `produce`. -/
  | produce (t : T)
  /-- The allocator answers `new`. -/
  | allocate (address : ℕ)
  /-- The producer goes on. -/
  | producer
  /-- The consumer calls `consume`. -/
  | consume
  /-- The consumer goes on. -/
  | consumer
deriving DecidableEq, Repr

namespace QueueSystem

/-- The two sides idle at an empty queue. -/
def init (dummy : T) (address : ℕ) : QueueSystem T where
  queue := .init dummy address

/-- Goes on with the node behind a pointer. -/
def access (s : QueueSystem T) (p : Option Ptr) (k : Ptr → Node T → QueueSystem T) :
    QueueSystem T :=
  match p, s.queue.deref p with
  | some i, some node => k i node
  | _, _ => { s with undefined := true }

/-- The next micro-step of `produce`. -/
def stepProducer (s : QueueSystem T) : Option (QueueSystem T) :=
  match s.producer with
  | .idle => none
  | .newNode _ => none
  | .readLast node => some { s with producer := .writeNext node s.queue.last }
  | .writeNext node last => some <| s.access last fun p _ =>
      { s with queue := s.queue.setNext p (some node), producer := .readTail }
  | .readTail => some { s with producer := .readTailNext s.queue.last }
  | .readTailNext last => some <| s.access last fun _ tail =>
      { s with producer := .writeLast tail.next }
  | .writeLast next =>
    some { s with queue := { s.queue with last := next }, producer := .addSize }
  | .addSize =>
    some { s with queue := { s.queue with _size := s.queue._size + 1 }, producer := .readDivider }
  | .readDivider => some { s with producer := .readFirst s.queue.divider }
  | .readFirst divider =>
    if s.queue.address divider ≠ s.queue.address s.queue.first then
      some { s with producer := .readHead }
    else
      some { s with producer := .idle, history := s.history ++ [.produceReturned] }
  | .readHead => some { s with producer := .readHeadAgain s.queue.first }
  | .readHeadAgain temp => some { s with producer := .readHeadNext temp s.queue.first }
  | .readHeadNext temp first => some <| s.access first fun _ head =>
      { s with producer := .writeFirst temp head.next }
  | .writeFirst temp next =>
    some { s with queue := { s.queue with first := next }, producer := .deleteHead temp }
  | .deleteHead temp => some <| s.access temp fun p _ =>
      { s with queue := s.queue.release p, producer := .readDivider }

/-- The next micro-step of `consume`. -/
def stepConsumer (s : QueueSystem T) : Option (QueueSystem T) :=
  match s.consumer with
  | .idle => none
  | .readDivider => some { s with consumer := .readLast s.queue.divider }
  | .readLast divider =>
    if s.queue.address divider ≠ s.queue.address s.queue.last then
      some { s with consumer := .readFront }
    else some { s with consumer := .returnFalse }
  | .readFront => some { s with consumer := .readFrontNext s.queue.divider }
  | .readFrontNext divider => some <| s.access divider fun _ node =>
      { s with consumer := .readFrontValue node.next }
  | .readFrontValue next => some <| s.access next fun _ node =>
      { s with consumer := .readDividerAgain node.value }
  | .readDividerAgain result =>
    some { s with consumer := .readDividerNext result s.queue.divider }
  | .readDividerNext result divider => some <| s.access divider fun _ node =>
      { s with consumer := .writeDivider result node.next }
  | .writeDivider result next =>
    some { s with queue := { s.queue with divider := next }, consumer := .subSize result }
  | .subSize result =>
    some { s with queue := { s.queue with _size := s.queue._size - 1 },
                  consumer := .returnTrue result }
  | .returnTrue result =>
    some { s with consumer := .idle, history := s.history ++ [.consumeReturned (some result)] }
  | .returnFalse =>
    some { s with consumer := .idle, history := s.history ++ [.consumeReturned none] }

/-- One micro-step of the system, where there is one. -/
def step (s : QueueSystem T) : QueueAct T → Option (QueueSystem T)
  | .produce t =>
    if s.undefined then none
    else match s.producer with
      | .idle => some { s with producer := .newNode t,
                               history := s.history ++ [.produceCalled t] }
      | _ => none
  | .allocate address =>
    if s.undefined then none
    else match s.producer with
      | .newNode t =>
        if s.queue.available address then
          some { s with queue := s.queue.newNode t address,
                        producer := .readLast s.queue.nodes.length }
        else none
      | _ => none
  | .producer => if s.undefined then none else s.stepProducer
  | .consume =>
    if s.undefined then none
    else match s.consumer with
      | .idle => some { s with consumer := .readDivider,
                               history := s.history ++ [.consumeCalled] }
      | _ => none
  | .consumer => if s.undefined then none else s.stepConsumer

end QueueSystem

end Base

end XrtcServer
