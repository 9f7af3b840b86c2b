import Mathlib.Algebra.BigOperators.Group.Finset.Basic
import XrtcServer.Common.Run
/-!
# Threads that relay

A relay is a set of threads. Each has a queue of items and a pipe, and is
woken by what it reads from the pipe: it takes at most one item off its
queue, handles it and may forward another item to a thread, in two steps of
its own, the item into the queue and then a notification into the pipe.
Any two steps of different threads interleave.

`Covered` is the relation between the two channels that makes this safe:
a queue is as long as the notifications that are still to announce it, in
the pipe, owed by a thread between its two steps, or in the hand of the
thread itself. `Ledger` says where each item is, `work` bounds the steps
until the relay is at rest.
-/

namespace XrtcServer

namespace Common

variable {ι α σ ξ τ : Type*}

/-- Where a thread is in its code. -/
inductive Phase (ι α : Type*) where
  /-- In its event loop. -/
  | idle
  /-- A notification has been read, the queue not yet looked at. -/
  | woken
  /-- An item has been handled; `a` is still to be queued for `d`. -/
  | carrying (a : α) (d : ι)
  /-- An item has been queued for `d`, the notification not yet written. -/
  | owing (d : ι)
  /-- The handler did not survive an empty queue. -/
  | dead

/-- What a thread does next. -/
inductive Act (ι α ξ τ : Type*) where
  /-- The thread queues an item of its own. -/
  | send (a : α) (d : ι)
  | notify
  | wake
  | take (x : ξ)
  | forward
  /-- A callback of the thread's loop that touches no queue. -/
  | callback (x : τ)

/-- The steps that only carry on what has been sent. -/
def Act.relays : Act ι α ξ τ → Bool
  | .send .. | .callback _ => false
  | _ => true

/-- The threads of a relay and their code. -/
structure Relay (ι α σ ξ τ : Type*) where
  nodes : Finset ι
  /-- What a thread does with an item: the store, and what it forwards. -/
  handle : ι → σ → ξ → α → σ × Option (α × ι)
  callback : ι → σ → τ → Option σ
  /-- Whether a handler returns where it finds its queue empty. -/
  survives : ι → Bool

namespace Relay

/-- A state of the threads. The last three fields are for the reader of a
run only. -/
structure State (ι α σ : Type*) where
  store : σ
  queue : ι → List α := fun _ => []
  pipe : ι → ℕ := fun _ => 0
  phase : ι → Phase ι α := fun _ => .idle
  /-- What was ever queued for a thread, with the thread that forwarded it. -/
  history : ι → List (Option ι × α) := fun _ => []
  /-- What a thread has taken off its queue, with what it forwards for it. -/
  took : ι → List (α × Option (α × ι)) := fun _ => []
  /-- The threads that found their queue empty. -/
  starved : List ι := []

variable [DecidableEq ι]

namespace State

variable (s : State ι α σ)

def goto (i : ι) (ph : Phase ι α) : State ι α σ := { s with phase := Function.update s.phase i ph }

def enqueue (origin : Option ι) (a : α) (d : ι) : State ι α σ :=
  { s with queue := Function.update s.queue d (s.queue d ++ [a])
           history := Function.update s.history d (s.history d ++ [(origin, a)]) }

def setPipe (d : ι) (n : ℕ) : State ι α σ := { s with pipe := Function.update s.pipe d n }

def taken (i : ι) (a : α) (rest : List α) (r : σ × Option (α × ι)) : State ι α σ :=
  { s with store := r.1
           queue := Function.update s.queue i rest
           took := Function.update s.took i (s.took i ++ [(a, r.2)]) }

section Fields

variable {s : State ι α σ} {i d j : ι} {ph : Phase ι α} {origin : Option ι} {a : α} {n : ℕ}
variable {rest : List α} {r : σ × Option (α × ι)}

theorem goto_phase : (s.goto i ph).phase j = if j = i then ph else s.phase j :=
  Function.update_apply ..

theorem enqueue_queue :
    (s.enqueue origin a d).queue j = if j = d then s.queue d ++ [a] else s.queue j :=
  Function.update_apply ..

theorem enqueue_history : (s.enqueue origin a d).history j =
    if j = d then s.history d ++ [(origin, a)] else s.history j :=
  Function.update_apply ..

theorem setPipe_pipe : (s.setPipe d n).pipe j = if j = d then n else s.pipe j :=
  Function.update_apply ..

theorem taken_queue : (s.taken i a rest r).queue j = if j = i then rest else s.queue j :=
  Function.update_apply ..

theorem taken_took : (s.taken i a rest r).took j =
    if j = i then s.took i ++ [(a, r.2)] else s.took j :=
  Function.update_apply ..

@[simp] theorem goto_queue : (s.goto i ph).queue = s.queue := rfl
@[simp] theorem goto_pipe : (s.goto i ph).pipe = s.pipe := rfl
@[simp] theorem goto_history : (s.goto i ph).history = s.history := rfl
@[simp] theorem goto_took : (s.goto i ph).took = s.took := rfl
@[simp] theorem goto_starved : (s.goto i ph).starved = s.starved := rfl
@[simp] theorem goto_store : (s.goto i ph).store = s.store := rfl

@[simp] theorem enqueue_pipe : (s.enqueue origin a d).pipe = s.pipe := rfl
@[simp] theorem enqueue_phase : (s.enqueue origin a d).phase = s.phase := rfl
@[simp] theorem enqueue_took : (s.enqueue origin a d).took = s.took := rfl
@[simp] theorem enqueue_starved : (s.enqueue origin a d).starved = s.starved := rfl
@[simp] theorem enqueue_store : (s.enqueue origin a d).store = s.store := rfl

@[simp] theorem setPipe_queue : (s.setPipe d n).queue = s.queue := rfl
@[simp] theorem setPipe_phase : (s.setPipe d n).phase = s.phase := rfl
@[simp] theorem setPipe_history : (s.setPipe d n).history = s.history := rfl
@[simp] theorem setPipe_took : (s.setPipe d n).took = s.took := rfl
@[simp] theorem setPipe_starved : (s.setPipe d n).starved = s.starved := rfl
@[simp] theorem setPipe_store : (s.setPipe d n).store = s.store := rfl

@[simp] theorem taken_pipe : (s.taken i a rest r).pipe = s.pipe := rfl
@[simp] theorem taken_phase : (s.taken i a rest r).phase = s.phase := rfl
@[simp] theorem taken_history : (s.taken i a rest r).history = s.history := rfl
@[simp] theorem taken_starved : (s.taken i a rest r).starved = s.starved := rfl
@[simp] theorem taken_store : (s.taken i a rest r).store = r.1 := rfl

end Fields

end State

/-- The phase after an item has been handled. -/
def next : Option (α × ι) → Phase ι α
  | none => .idle
  | some (b, d) => .carrying b d

variable (p : Relay ι α σ ξ τ)

/-- A woken thread looks at its queue. -/
def take (s : State ι α σ) (i : ι) (x : ξ) : State ι α σ :=
  match s.queue i with
  | [] => { s with starved := i :: s.starved }.goto i (if p.survives i then .idle else .dead)
  | a :: rest =>
    let r := p.handle i s.store x a
    (s.taken i a rest r).goto i (next r.2)

/-- What a thread can do in a phase. -/
def act (s : State ι α σ) (i : ι) : Phase ι α → Act ι α ξ τ → Option (State ι α σ)
  | .idle, .send a d => some ((s.enqueue none a d).goto i (.owing d))
  | .idle, .callback x => (p.callback i s.store x).map fun store => { s with store := store }
  | .idle, .wake => if 0 < s.pipe i then some ((s.setPipe i (s.pipe i - 1)).goto i .woken) else none
  | .woken, .take x => some (p.take s i x)
  | .carrying a d, .forward => some ((s.enqueue (some i) a d).goto i (.owing d))
  | .owing d, .notify => some ((s.setPipe d (s.pipe d + 1)).goto i .idle)
  | _, _ => none

/-- **One step of one thread.** -/
def step (s : State ι α σ) (e : ι × Act ι α ξ τ) : Option (State ι α σ) :=
  if e.1 ∈ p.nodes then p.act s e.1 (s.phase e.1) e.2 else none

/-! ## What a step can do -/

/-- The step function as a relation, one case for each kind of step. -/
inductive Moves (s : State ι α σ) (i : ι) : Act ι α ξ τ → State ι α σ → Prop
  | send {a : α} {d : ι} : s.phase i = .idle →
      Moves s i (.send a d) ((s.enqueue none a d).goto i (.owing d))
  | callback {x : τ} {store : σ} : s.phase i = .idle → p.callback i s.store x = some store →
      Moves s i (.callback x) { s with store := store }
  | wake : s.phase i = .idle → 0 < s.pipe i →
      Moves s i .wake ((s.setPipe i (s.pipe i - 1)).goto i .woken)
  | starve {x : ξ} : s.phase i = .woken → s.queue i = [] → Moves s i (.take x)
      ({ s with starved := i :: s.starved }.goto i (if p.survives i then .idle else .dead))
  | take {x : ξ} {a : α} {rest : List α} {r : σ × Option (α × ι)} :
      s.phase i = .woken → s.queue i = a :: rest → p.handle i s.store x a = r →
      Moves s i (.take x) ((s.taken i a rest r).goto i (next r.2))
  | forward {a : α} {d : ι} : s.phase i = .carrying a d →
      Moves s i .forward ((s.enqueue (some i) a d).goto i (.owing d))
  | notify {d : ι} : s.phase i = .owing d →
      Moves s i .notify ((s.setPipe d (s.pipe d + 1)).goto i .idle)

variable {p} {s s' : State ι α σ} {i : ι} {a : Act ι α ξ τ}

theorem moves_of_step (h : p.step s (i, a) = some s') : i ∈ p.nodes ∧ p.Moves s i a s' := by
  unfold step at h
  dsimp only at h
  split at h
  case isFalse => cases h
  case isTrue hi =>
    refine ⟨hi, ?_⟩
    generalize hph : s.phase i = ph at h
    unfold act at h
    split at h
    case h_1 => cases h; exact .send hph
    case h_2 =>
      obtain ⟨store, hstore, rfl⟩ := Option.map_eq_some_iff.1 h
      exact .callback hph hstore
    case h_3 =>
      split at h
      · rename_i hpipe
        cases h
        exact .wake hph hpipe
      · cases h
    case h_4 =>
      cases h
      unfold Relay.take
      split
      · rename_i hq
        exact .starve hph hq
      · rename_i hq
        exact .take hph hq rfl
    case h_5 => cases h; exact .forward hph
    case h_6 => cases h; exact .notify hph
    case h_7 => cases h

/-- What a step adds to the histories: nothing, an item sent, or an item
forwarded. -/
theorem history_step (h : p.step s (i, a) = some s') :
    s'.history = s.history ∨
      (∃ b d, a = .send b d ∧ s'.history = (s.enqueue none b d).history) ∨
      ∃ b d, s.phase i = .carrying b d ∧ s'.history = (s.enqueue (some i) b d).history := by
  obtain ⟨hi, hm⟩ := moves_of_step h
  cases hm with
  | @send b d hph => exact .inr (.inl ⟨b, d, rfl, rfl⟩)
  | @forward b d hph => exact .inr (.inr ⟨b, d, hph, rfl⟩)
  | callback | wake | starve | take | notify => exact .inl rfl

/-! ## A sum over the threads when one of them moves -/

theorem sum_update {β : Type*} {nodes : Finset ι} (hi : i ∈ nodes) (w : ι → β → ℕ) (f : ι → β)
    (b : β) : ∑ j ∈ nodes, w j (Function.update f i b j) + w i (f i) =
      ∑ j ∈ nodes, w j (f j) + w i b := by
  have hrest : ∑ j ∈ nodes.erase i, w j (Function.update f i b j) =
      ∑ j ∈ nodes.erase i, w j (f j) := by
    refine Finset.sum_congr rfl fun j hj => ?_
    rw [Function.update_of_ne (Finset.ne_of_mem_erase hj)]
  rw [← Finset.sum_erase_add nodes _ hi, ← Finset.sum_erase_add nodes (fun j => w j (f j)) hi,
    hrest, Function.update_self]
  omega

/-- Whether a thread in a phase owes `d` a notification. -/
def debt (d : ι) : Phase ι α → ℕ
  | .owing d' => if d' = d then 1 else 0
  | _ => 0

/-- Whether a thread in a phase holds a notification it has read. -/
def hand : Phase ι α → ℕ
  | .woken => 1
  | _ => 0

variable (p)

/-- The notifications the threads owe `d`. -/
def owed (s : State ι α σ) (d : ι) : ℕ := ∑ j ∈ p.nodes, debt d (s.phase j)

/-- **Every queued item is announced exactly once**, by a notification that
is in the pipe, owed, or read. No thread has died. -/
structure Covered (s : State ι α σ) : Prop where
  length : ∀ d, (s.queue d).length = s.pipe d + p.owed s d + hand (s.phase d)
  alive : ∀ i, s.phase i ≠ .dead
  starved : s.starved = []

variable {p}

open State

/-- The notifications owed to `d`, when a thread goes to another phase. -/
theorem owed_goto {t : State ι α σ} (hi : i ∈ p.nodes) (h : t.phase = s.phase) (ph : Phase ι α)
    (d : ι) : p.owed (t.goto i ph) d + debt d (s.phase i) = p.owed s d + debt d ph := by
  have hsum := sum_update hi (fun _ => debt d) t.phase ph
  rw [h] at hsum
  simpa only [owed, goto, h] using hsum

theorem covered_init (store : σ) : p.Covered { store := store } where
  length := fun d => by simp [owed, debt, hand]
  alive := fun i => by simp
  starved := rfl

theorem alive_goto {t : State ι α σ} (h : p.Covered s) (ht : t.phase = s.phase) {ph : Phase ι α}
    (hph : ph ≠ .dead) (j : ι) : (t.goto i ph).phase j ≠ .dead := by
  rw [goto_phase, ht]
  split
  · exact hph
  · exact h.alive j

omit [DecidableEq ι] in
theorem next_ne_dead (r : Option (α × ι)) : next r ≠ .dead := by
  rcases r with _ | ⟨b, d⟩ <;> simp [next]

/-- A woken thread has something in its queue: the notification it has
read announces an item that nobody else takes. -/
theorem queue_ne_nil (h : p.Covered s) (hph : s.phase i = .woken) : s.queue i ≠ [] := by
  intro hq
  have hlen := h.length i
  rw [hq, hph] at hlen
  simp only [List.length_nil, hand] at hlen
  omega

/-- The count at `d` survives a move that changes its two sides alike. -/
theorem length_goto {t : State ι α σ} {ph : Phase ι α} {d : ι} (hi : i ∈ p.nodes)
    (ht : t.phase = s.phase)
    (hlen : (s.queue d).length = s.pipe d + p.owed s d + hand (s.phase d))
    (hmove : (t.queue d).length + s.pipe d + debt d (s.phase i) +
        (if d = i then hand (s.phase i) else 0) =
      (s.queue d).length + t.pipe d + debt d ph + (if d = i then hand ph else 0)) :
    ((t.goto i ph).queue d).length =
      (t.goto i ph).pipe d + p.owed (t.goto i ph) d + hand ((t.goto i ph).phase d) := by
  have howed := owed_goto hi ht ph d
  rw [goto_queue, goto_pipe, goto_phase, ht]
  by_cases hd : d = i
  · subst hd
    simp only [if_true] at hmove ⊢
    omega
  · simp only [if_neg hd] at hmove ⊢
    omega

/-- Queueing an item and going into debt for it keep the count. -/
theorem length_enqueue {origin : Option ι} {b : α} {d : ι} (h : p.Covered s) (hi : i ∈ p.nodes)
    (hdebt : ∀ j, debt j (s.phase i) = 0) (hhand : hand (s.phase i) = 0) (j : ι) :
    let t := (s.enqueue origin b d).goto i (.owing d)
    (t.queue j).length = t.pipe j + p.owed t j + hand (t.phase j) := by
  refine length_goto hi enqueue_phase (h.length j) ?_
  rw [hdebt, hhand, enqueue_pipe, enqueue_queue]
  by_cases hj : j = d
  · subst hj
    simp only [if_true, List.length_append, List.length_singleton, debt, hand]
    omega
  · simp only [if_neg hj, if_neg (Ne.symm hj), debt, hand]

/-- **A step keeps the queues announced.** -/
theorem covered_step (h : p.Covered s) (hs : p.step s (i, a) = some s') : p.Covered s' := by
  obtain ⟨hi, hm⟩ := moves_of_step hs
  cases hm with
  | send hph =>
    refine ⟨length_enqueue h hi (fun j => ?_) ?_, alive_goto h rfl (by simp), h.starved⟩
    · simp only [hph, debt]
    · simp only [hph, hand]
  | callback hph hstore => exact ⟨h.length, h.alive, h.starved⟩
  | wake hph hpipe =>
    refine ⟨fun j => length_goto hi setPipe_phase (h.length j) ?_, alive_goto h rfl (by simp),
      h.starved⟩
    rw [hph, setPipe_queue, setPipe_pipe]
    by_cases hj : j = i
    · subst hj
      simp only [if_true, debt, hand]
      omega
    · simp only [if_neg hj, debt]
  | starve hph hq => exact absurd hq (queue_ne_nil h hph)
  | @take x b rest r hph hq hr =>
    refine ⟨fun j => length_goto hi taken_phase (h.length j) ?_, alive_goto h rfl (next_ne_dead r.2),
      h.starved⟩
    have hnext : debt j (next r.2) = 0 ∧ hand (next r.2) = 0 := by
      rcases r with ⟨store, _ | ⟨b, d⟩⟩ <;> exact ⟨rfl, rfl⟩
    rw [hph, hnext.1, hnext.2, taken_pipe, taken_queue]
    by_cases hj : j = i
    · subst hj
      simp only [if_true, hq, List.length_cons, debt, hand]
      omega
    · simp only [if_neg hj, debt]
  | forward hph =>
    refine ⟨length_enqueue h hi (fun j => ?_) ?_, alive_goto h rfl (by simp), h.starved⟩
    · simp only [hph, debt]
    · simp only [hph, hand]
  | @notify d hph =>
    refine ⟨fun j => length_goto hi setPipe_phase (h.length j) ?_, alive_goto h rfl (by simp),
      h.starved⟩
    rw [hph, setPipe_queue, setPipe_pipe]
    by_cases hj : j = d
    · subst hj
      simp only [if_true, debt, hand]
      omega
    · simp only [if_neg hj, if_neg (Ne.symm hj), debt, hand]

/-! ## Where the items are -/

/-- What a thread in a phase is still to queue for `d`. -/
def held (d : ι) : Phase ι α → List α
  | .carrying b d' => if d' = d then [b] else []
  | _ => []

/-- The item of an entry forwarded by `i`. -/
def sentBy (i : ι) (e : Option ι × α) : Option α := if e.1 = some i then some e.2 else none

/-- The item forwarded to `d` for one taken. -/
def sentTo (d : ι) (t : α × Option (α × ι)) : Option α :=
  t.2.bind fun f => if f.2 = d then some f.1 else none

/-- **No item is lost, doubled or overtaken**: a queue holds what was
queued and not taken, and what a thread has queued for another is what it
forwards for the items it took, in their order. -/
structure Ledger (s : State ι α σ) : Prop where
  fifo : ∀ d, (s.history d).map Prod.snd = (s.took d).map Prod.fst ++ s.queue d
  forwarded : ∀ i d, (s.history d).filterMap (sentBy i) ++ held d (s.phase i) =
    (s.took i).filterMap (sentTo d)

theorem ledger_init (store : σ) : Ledger ({ store := store } : State ι α σ) where
  fifo := fun _ => rfl
  forwarded := fun _ _ => rfl

theorem fifo_enqueue {origin : Option ι} {b : α} {d : ι} (h : Ledger s) (j : ι) :
    ((s.enqueue origin b d).history j).map Prod.snd =
      (s.took j).map Prod.fst ++ (s.enqueue origin b d).queue j := by
  rw [enqueue_history, enqueue_queue]
  by_cases hj : j = d
  · subst hj
    simp only [if_true, List.map_append, h.fifo, List.map_cons, List.map_nil, List.append_assoc]
  · rw [if_neg hj, if_neg hj, h.fifo]

/-- What the threads forwarded, when one of them moves: for that thread the
new entries must add up, and for the others nothing changes. -/
theorem forwarded_goto {t : State ι α σ} {ph : Phase ι α} (h : Ledger s) (ht : t.phase = s.phase)
    (hmove : ∀ d, (t.history d).filterMap (sentBy i) ++ held d ph = (t.took i).filterMap (sentTo d))
    (hhistory : ∀ j d, j ≠ i →
      (t.history d).filterMap (sentBy j) = (s.history d).filterMap (sentBy j))
    (htook : ∀ j, j ≠ i → t.took j = s.took j) (j d : ι) :
    ((t.goto i ph).history d).filterMap (sentBy j) ++ held d ((t.goto i ph).phase j) =
      ((t.goto i ph).took j).filterMap (sentTo d) := by
  rw [goto_history, goto_phase, goto_took, ht]
  by_cases hj : j = i
  · subst hj
    simpa only [if_true] using hmove d
  · rw [if_neg hj, hhistory j d hj, htook j hj, h.forwarded]

/-- A thread whose phase holds nothing has queued all it forwards. -/
theorem forwarded_of_held (h : Ledger s) (hheld : ∀ d, held d (s.phase i) = []) (d : ι) :
    (s.history d).filterMap (sentBy i) = (s.took i).filterMap (sentTo d) := by
  have hfwd := h.forwarded i d
  rwa [hheld, List.append_nil] at hfwd

/-- An entry counts for the thread that made it. -/
theorem filterMap_enqueue {origin : Option ι} {b : α} {d : ι} (j d' : ι) :
    ((s.enqueue origin b d).history d').filterMap (sentBy j) =
      (s.history d').filterMap (sentBy j) ++ if d = d' ∧ origin = some j then [b] else [] := by
  rw [enqueue_history]
  by_cases hd : d' = d
  · subst hd
    by_cases ho : origin = some j
    · simp [sentBy, ho]
    · simp [sentBy, ho]
  · simp [hd, Ne.symm hd]

/-- **A step keeps the ledger.** -/
theorem ledger_step (h : Ledger s) (hs : p.step s (i, a) = some s') : Ledger s' := by
  obtain ⟨hi, hm⟩ := moves_of_step hs
  cases hm with
  | @send b d hph =>
    have hheld : ∀ d', held d' (s.phase i) = [] := fun d' => by simp only [hph, held]
    refine ⟨fifo_enqueue h, forwarded_goto h rfl (fun d' => ?_) (fun j d' hj => ?_)
      fun j hj => rfl⟩
    · simp only [filterMap_enqueue, held, reduceCtorEq, and_false, if_false, List.append_nil,
        enqueue_took, forwarded_of_held h hheld]
    · simp only [filterMap_enqueue, reduceCtorEq, and_false, if_false, List.append_nil]
  | callback hph hstore => exact ⟨h.fifo, h.forwarded⟩
  | wake hph hpipe =>
    have hheld : ∀ d, held d (s.phase i) = [] := fun d => by simp only [hph, held]
    refine ⟨h.fifo, forwarded_goto h rfl (fun d => ?_) (fun j d hj => rfl) fun j hj => rfl⟩
    simpa only [held, List.append_nil, setPipe_history, setPipe_took] using
      forwarded_of_held h hheld d
  | starve hph hq =>
    have hheld : ∀ d, held d (s.phase i) = [] := fun d => by simp only [hph, held]
    refine ⟨h.fifo, forwarded_goto h rfl (fun d => ?_) (fun j d hj => rfl) fun j hj => rfl⟩
    have hnone : held d (if p.survives i then Phase.idle else .dead : Phase ι α) = [] := by
      split <;> rfl
    rw [hnone, List.append_nil]
    exact forwarded_of_held h hheld d
  | @take x b rest r hph hq hr =>
    have hheld : ∀ d, held d (s.phase i) = [] := fun d => by simp only [hph, held]
    refine ⟨fun j => ?_, forwarded_goto h rfl (fun d => ?_) (fun j d hj => rfl) fun j hj => ?_⟩
    · rw [goto_history, goto_took, goto_queue, taken_history, taken_took, taken_queue, h.fifo]
      by_cases hj : j = i
      · subst hj
        simp [hq]
      · rw [if_neg hj, if_neg hj]
    · -- what is forwarded for the item is what the thread now holds
      have hnext : held d (next r.2) = (sentTo d (b, r.2)).toList := by
        rcases r with ⟨store, _ | ⟨c, d'⟩⟩
        · rfl
        · by_cases hd : d' = d <;> simp [next, held, sentTo, hd]
      rw [taken_took, if_pos rfl, List.filterMap_append, taken_history, hnext,
        forwarded_of_held h hheld]
      cases hc : sentTo d (b, r.2) <;> simp [hc]
    · rw [taken_took, if_neg hj]
  | @forward b d hph =>
    refine ⟨fifo_enqueue h, forwarded_goto h rfl (fun d' => ?_) (fun j d' hj => ?_)
      fun j hj => rfl⟩
    · have hfwd := h.forwarded i d'
      rw [hph] at hfwd
      rw [filterMap_enqueue, enqueue_took, ← hfwd]
      simp [held]
    · simp [filterMap_enqueue, Ne.symm hj]
  | @notify d hph =>
    have hheld : ∀ d', held d' (s.phase i) = [] := fun d' => by simp only [hph, held]
    refine ⟨h.fifo, forwarded_goto h rfl (fun d => ?_) (fun j d hj => rfl) fun j hj => rfl⟩
    simpa only [held, List.append_nil, setPipe_history, setPipe_took] using
      forwarded_of_held h hheld d

/-- What is forwarded to `d` is forwarded for an item taken. -/
theorem of_mem_sentTo {took : List (α × Option (α × ι))} {b : α} {d : ι}
    (hb : b ∈ took.filterMap (sentTo d)) : ∃ x ∈ took, x.2 = some (b, d) := by
  obtain ⟨x, hx, hsent⟩ := List.mem_filterMap.1 hb
  obtain ⟨⟨c, d'⟩, hf, hif⟩ := Option.bind_eq_some_iff.1 hsent
  refine ⟨x, hx, ?_⟩
  split at hif
  case isFalse => cases hif
  case isTrue hd =>
    cases hif
    rw [hf, ← hd]

/-- A thread that carries an item to `d` has forwarded it for one taken. -/
theorem carrying_took (h : Ledger s) {b : α} {d : ι} (hph : s.phase i = .carrying b d) :
    ∃ x ∈ s.took i, x.2 = some (b, d) := by
  refine of_mem_sentTo ?_
  rw [← h.forwarded i d, hph]
  simp [held]

/-- A forwarded entry answers an item its thread took. -/
theorem history_took (h : Ledger s) {b : α} {d : ι} (hb : (some i, b) ∈ s.history d) :
    ∃ x ∈ s.took i, x.2 = some (b, d) := by
  refine of_mem_sentTo ?_
  rw [← h.forwarded i d]
  exact List.mem_append_left _ (List.mem_filterMap.2 ⟨_, hb, by simp [sentBy]⟩)

/-! ## What the handlers promise -/

/-- **What a handler promises for one item holds for every item taken.**
`I` is what the promise needs of the store. -/
theorem took_step {I : σ → Prop} {Q : ι → α → Option (α × ι) → Prop} {F : ι → Act ι α ξ τ → Prop}
    (hhandle : ∀ i st x b, I st → F i (.take x) → I (p.handle i st x b).1 ∧
      Q i b (p.handle i st x b).2)
    (hcallback : ∀ i st x st', I st → p.callback i st x = some st' → I st')
    (h : I s.store ∧ ∀ j, ∀ x ∈ s.took j, Q j x.1 x.2) (hF : F i a)
    (hs : p.step s (i, a) = some s') : I s'.store ∧ ∀ j, ∀ x ∈ s'.took j, Q j x.1 x.2 := by
  obtain ⟨hi, hm⟩ := moves_of_step hs
  cases hm with
  | send | wake | starve | forward | notify => exact h
  | callback hph hstore => exact ⟨hcallback i _ _ _ h.1 hstore, h.2⟩
  | @take x b rest r hph hq hr =>
    obtain ⟨hI, hQ⟩ := hhandle i s.store x b h.1 hF
    rw [hr] at hI hQ
    refine ⟨hI, fun j y hy => ?_⟩
    rw [goto_took, taken_took] at hy
    split at hy
    · rename_i hj
      subst hj
      rcases List.mem_append.1 hy with hy | hy
      · exact h.2 j y hy
      · obtain rfl := List.mem_singleton.1 hy
        exact hQ
    · exact h.2 j y hy

/-! ## Rest -/

/-- What an item in a queue is still worth, by the hops left to it. -/
def itemWork (hops : ℕ) : ℕ := 5 * hops + 1

def phaseWork (rank : ι → ℕ) : Phase ι α → ℕ
  | .idle | .dead => 0
  | .woken => 1
  | .owing _ => 3
  | .carrying _ d => itemWork (rank d) + 4

variable (p)

def queueWork (rank : ι → ℕ) (s : State ι α σ) : ℕ :=
  ∑ j ∈ p.nodes, (s.queue j).length * itemWork (rank j)

def pipeWork (s : State ι α σ) : ℕ := ∑ j ∈ p.nodes, 2 * s.pipe j

def phasesWork (rank : ι → ℕ) (s : State ι α σ) : ℕ := ∑ j ∈ p.nodes, phaseWork rank (s.phase j)

/-- **A bound on the steps that are left**, where every item forwarded is a
hop nearer its end. -/
def work (rank : ι → ℕ) (s : State ι α σ) : ℕ :=
  p.queueWork rank s + p.pipeWork s + p.phasesWork rank s

variable {p} {rank : ι → ℕ}

/-- No thread has anything to relay. -/
def Quiet (p : Relay ι α σ ξ τ) (s : State ι α σ) : Prop :=
  ∀ i a, a.relays = true → p.step s (i, a) = none

end Relay

end Common

end XrtcServer
