import XrtcServer.Base.QueueCalls
import XrtcServer.Common.RoundRobin
import XrtcServer.Server.Watchers
import XrtcServer.Server.Model.SignalingServer
/-!
# Every connection accepted reaches its worker

What one worker and the server know of each other is `Handed`: the queue
between the two has what the server has dealt the worker, and each
descriptor in it is announced, by a `NEW_CONN` in the pipe, by one that the
server is about to write, or by the one that made the worker look. So the
worker never looks in vain. And `QUIT` is the last the server writes: what
was announced before has been opened by the time the worker ends.
-/

namespace XrtcServer

namespace Server

open Base Base.QueueSystem Common

variable {parse : List UInt8 → Except JsonException Json} {dump : Json → List UInt8}

/-- What the server is doing about one worker. -/
inductive Role where
  | away
  | producing
  | notifying
  /-- `QUIT` has been written. -/
  | past
deriving DecidableEq, Repr

/-- The announcements the server owes the worker. -/
def Role.owed : Role → ℕ
  | .notifying => 1
  | _ => 0

/-- What the server is doing about the worker `k`. -/
def ServerPhase.role (k : ℕ) : ServerPhase → Role
  | .idle => .away
  | .producing j => if j = k then .producing else .away
  | .notifying j => if j = k then .notifying else .away
  | .stopping j => if k < j then .past else .away
  | .joining j => if k ≤ j then .past else .away
  | .stopped => .past

namespace WorkerPhase

/-- What the worker has taken and not yet opened. -/
def inHand : WorkerPhase → List ℤ
  | .opening (some fd) => [fd]
  | _ => []

/-- The announcement the worker has read and not yet made good. -/
def hand : WorkerPhase → ℕ
  | .consuming => 1
  | _ => 0

/-- `_stop` has been called. -/
def ended : WorkerPhase → Bool
  | .ending | .stopped => true
  | _ => false

end WorkerPhase

/-- **What holds between the server and a worker** that has been dealt `D`. -/
structure Handed (D : List ℤ) (r : Role) (w : WorkerThread) : Prop where
  sound : w.connfds.Sound
  produced : Common.produced w.connfds.history = D
  producer : w.connfds.producer = .idle ↔ r ≠ .producing
  consumer : w.connfds.consumer = .idle ↔ w.phase ≠ .consuming
  consumed : Common.consumed w.connfds.history = w.opened ++ w.phase.inHand
  found : w.phase ≠ .opening none
  announced : completed w.connfds.history = (Common.consumed w.connfds.history).length +
    w.pipe.count .NEW_CONN + r.owed + w.phase.hand
  asked : w.phase = .consuming → Asked w.connfds.history
  /-- Nothing is announced behind `QUIT`. -/
  last : w.pipe.Pairwise fun a b => a = .QUIT → b ≠ .NEW_CONN
  told : .QUIT ∈ w.pipe ∨ w.phase.ended = true ↔ r = .past
  drained : w.phase.ended = true → w.pipe.count .NEW_CONN = 0
  inStep : InStep w.thread

variable {D : List ℤ} {r : Role} {w w' : WorkerThread}

/-! ## The steps of the worker -/

theorem afterConsume_of_none {q : QueueSystem ℤ} (h : q.returning = none) :
    WorkerThread.afterConsume q.consumer = .consuming := by
  unfold returning at h
  unfold WorkerThread.afterConsume
  cases hc : q.consumer with
  | returnTrue _ | returnFalse =>
    rw [hc] at h
    cases h
  | _ => rfl

theorem afterConsume_of_some {q : QueueSystem ℤ} {result : Option ℤ}
    (h : q.returning = some result) :
    WorkerThread.afterConsume q.consumer = .opening result := by
  unfold returning at h
  unfold WorkerThread.afterConsume
  cases hc : q.consumer with
  | returnTrue fd =>
    rw [hc] at h
    rw [← Option.some.inj h]
  | returnFalse =>
    rw [hc] at h
    rw [← Option.some.inj h]
  | _ =>
    rw [hc] at h
    cases h

namespace Handed

theorem wake (h : Handed D r w) (hw : w.wake = some w') : Handed D r w' := by
  unfold WorkerThread.wake at hw
  split at hw
  · rename_i msg rest hphase hpipe
    have hfound := h.announced
    have hlast := h.last
    have htold := h.told
    rw [hphase, hpipe] at hfound htold
    rw [hpipe] at hlast
    obtain ⟨hfirst, hrest⟩ := List.pairwise_cons.1 hlast
    have hconsumed : Common.consumed w.connfds.history = w.opened ++ [] := by
      have heq := h.consumed
      rwa [hphase] at heq
    have hidle : w.connfds.consumer = .idle := h.consumer.2 (by rw [hphase]; nofun)
    cases msg with
    | QUIT =>
      obtain rfl := Option.some.inj hw
      have hnone : rest.count .NEW_CONN = 0 :=
        List.count_eq_zero.2 fun hmem => hfirst _ hmem rfl rfl
      rw [List.count_cons_of_ne (by decide)] at hfound
      exact { h with
        consumer := by simp [hidle]
        consumed := hconsumed
        found := nofun
        announced := hfound
        asked := nofun
        last := hrest
        told := by
          have hpast := htold.1 (.inl List.mem_cons_self)
          simp [hpast, WorkerPhase.ended]
        drained := fun _ => hnone }
    | NEW_CONN =>
      obtain ⟨q, hq, rfl⟩ := Option.map_eq_some_iff.1 hw
      obtain ⟨hbusy, hproducer, hhistory⟩ := consume_calls hq
      rw [List.count_cons_self] at hfound
      have hsame : Common.consumed q.history = Common.consumed w.connfds.history := by
        rw [hhistory, consumed_append_called]
      refine { h with
        sound := h.sound.step hq
        produced := ?_
        producer := hproducer ▸ h.producer
        consumer := by simp [hbusy]
        consumed := hsame.trans hconsumed
        found := nofun
        announced := ?_
        asked := fun _ => ?_
        last := hrest
        told := ?_
        drained := nofun }
      · rw [hhistory, produced_append_consumer rfl]
        exact h.produced
      · rw [hsame, hhistory, completed_append_consumer rfl, hfound]
        simp only [WorkerPhase.hand]
        omega
      · show Asked q.history
        rw [hhistory]
        exact asked_of_called (by omega)
      · rw [← htold]
        simp [WorkerPhase.ended]
    | RTC_MSG =>
      obtain rfl := Option.some.inj hw
      rw [List.count_cons_of_ne (by decide)] at hfound
      exact { h with
        consumer := by simp [hidle]
        consumed := hconsumed
        found := nofun
        announced := hfound
        asked := nofun
        last := hrest
        told := by
          rw [← htold]
          simp [WorkerPhase.ended]
        drained := nofun }
  · cases hw

/-- `consume` goes on, or returns a descriptor. -/
theorem consume (h : Handed D r w) (hw : w.consume = some w') : Handed D r w' := by
  unfold WorkerThread.consume at hw
  split at hw
  · rename_i hphase
    obtain ⟨q, hq, rfl⟩ := Option.map_eq_some_iff.1 hw
    obtain ⟨hproducer, hgoes⟩ := consumer_goes_on hq
    have hconsumed := h.consumed
    have hannounced := h.announced
    have htold := h.told
    rw [hphase] at hconsumed hannounced htold
    rcases hgoes with ⟨hnone, hbusy, hhistory⟩ | ⟨result, hresult, hidle, hhistory⟩
    · -- still in the call
      rw [afterConsume_of_none hnone]
      exact { h with
        sound := h.sound.step hq
        produced := hhistory ▸ h.produced
        producer := hproducer ▸ h.producer
        consumer := by simp [hbusy]
        consumed := hhistory ▸ hconsumed
        found := nofun
        announced := hhistory ▸ hannounced
        asked := fun _ => hhistory ▸ h.asked hphase
        told := htold
        drained := nofun }
    · obtain ⟨fd, rfl⟩ : ∃ fd, result = some fd := by
        refine Option.ne_none_iff_exists'.1 ?_
        rintro rfl
        exact h.sound.returns_value (h.asked hphase) hresult
      rw [afterConsume_of_some hresult]
      have hmore : Common.consumed q.history = Common.consumed w.connfds.history ++ [fd] := by
        rw [hhistory, consumed_append_some]
      refine { h with
        sound := h.sound.step hq
        produced := ?_
        producer := hproducer ▸ h.producer
        consumer := by simp [hidle]
        consumed := ?_
        found := nofun
        announced := ?_
        asked := nofun
        told := by simpa [WorkerPhase.ended] using htold
        drained := nofun }
      · rw [hhistory, produced_append_consumer rfl]
        exact h.produced
      · rw [hmore, hconsumed]
        simp [WorkerPhase.inHand]
      · rw [hmore, hhistory, completed_append_consumer rfl, hannounced, List.length_append]
        simp only [WorkerPhase.hand, List.length_singleton]
        omega
  · cases hw

theorem newConn {addr io timer : ℕ} (h : Handed D r w)
    (hw : w.newConn parse dump addr io timer = some w') : Handed D r w' := by
  unfold WorkerThread.newConn at hw
  split at hw
  · rename_i hphase
    exact absurd hphase h.found
  · rename_i fd hphase
    obtain ⟨t, ht, rfl⟩ := Option.map_eq_some_iff.1 hw
    have hconsumed := h.consumed
    have hannounced := h.announced
    have htold := h.told
    have hconsumer := h.consumer
    rw [hphase] at hconsumed hannounced htold hconsumer
    exact { h with
      consumer := by simpa using hconsumer
      consumed := by simpa [WorkerPhase.inHand] using hconsumed
      found := nofun
      announced := hannounced
      asked := nofun
      told := by simpa [WorkerPhase.ended] using htold
      drained := nofun
      inStep := h.inStep.step ht }
  · cases hw

theorem rtcMsg {popped : Option (RtcMsg × Option (List UInt8))} (h : Handed D r w)
    (hw : w.rtcMsg parse dump popped = some w') : Handed D r w' := by
  have hback : ∀ t : EventThread, w.phase = .answering → InStep t →
      Handed D r { w with thread := t, phase := .idle } := by
    intro t hphase ht
    have hconsumed := h.consumed
    have hannounced := h.announced
    have htold := h.told
    have hconsumer := h.consumer
    rw [hphase] at hconsumed hannounced htold hconsumer
    exact { h with
      consumer := by simpa using hconsumer
      consumed := hconsumed
      found := nofun
      announced := hannounced
      asked := nofun
      told := by simpa [WorkerPhase.ended] using htold
      drained := nofun
      inStep := ht }
  unfold WorkerThread.rtcMsg at hw
  split at hw
  · rename_i hphase
    obtain rfl := Option.some.inj hw
    exact hback w.thread hphase h.inStep
  · rename_i hphase
    obtain ⟨t, ht, rfl⟩ := Option.map_eq_some_iff.1 hw
    exact hback t hphase (h.inStep.step ht)
  · cases hw

theorem callback {e : LoopEvent} (h : Handed D r w) (hw : w.callback parse dump e = some w') :
    Handed D r w' := by
  unfold WorkerThread.callback at hw
  split at hw
  case h_5 => cases hw
  all_goals
    obtain ⟨t, ht, rfl⟩ := Option.map_eq_some_iff.1 hw
    exact { h with inStep := h.inStep.step ht }

theorem finish (h : Handed D r w) (hw : w.finish = some w') : Handed D r w' := by
  unfold WorkerThread.finish at hw
  split at hw
  · rename_i hphase
    obtain rfl := Option.some.inj hw
    have hconsumed := h.consumed
    have hannounced := h.announced
    have htold := h.told
    have hconsumer := h.consumer
    have hdrained := h.drained
    rw [hphase] at hconsumed hannounced htold hconsumer hdrained
    exact { h with
      consumer := by simpa using hconsumer
      consumed := hconsumed
      found := nofun
      announced := hannounced
      asked := nofun
      told := by simpa [WorkerPhase.ended] using htold
      drained := hdrained }
  · cases hw

/-! ## The steps of the server -/

/-- The server deals the worker one more descriptor. -/
theorem dispatch {fd : ℤ} {q : QueueSystem ℤ} (h : Handed D .away w)
    (hq : w.connfds.step (.produce fd) = some q) :
    Handed (D ++ [fd]) .producing { w with connfds := q } := by
  obtain ⟨hbusy, hconsumer, hhistory⟩ := produce_calls hq
  have htold := h.told
  refine { h with
    sound := h.sound.step hq
    produced := ?_
    producer := by simp [hbusy]
    consumer := hconsumer ▸ h.consumer
    consumed := ?_
    announced := ?_
    asked := fun hc => ?_
    told := by simpa using htold }
  · rw [hhistory, produced_append_called, h.produced]
  · rw [hhistory, consumed_append_producer rfl]
    exact h.consumed
  · rw [hhistory, completed_append_called, consumed_append_producer rfl]
    exact h.announced
  · rw [hhistory]
    exact (h.asked hc).append rfl

/-- A micro-step of `produce` that is not the last. -/
theorem produce_busy {q : QueueSystem ℤ} {act : QueueAct ℤ} (h : Handed D .producing w)
    (hq : w.connfds.step act = some q) (hbusy : q.producer ≠ .idle)
    (hconsumer : q.consumer = w.connfds.consumer) (hhistory : q.history = w.connfds.history) :
    Handed D .producing { w with connfds := q } :=
  { h with
    sound := h.sound.step hq
    produced := hhistory ▸ h.produced
    producer := by simp [hbusy]
    consumer := hconsumer ▸ h.consumer
    consumed := hhistory ▸ h.consumed
    announced := hhistory ▸ h.announced
    asked := fun hc => hhistory ▸ h.asked hc }

/-- The last leaves the server owing an announcement. -/
theorem produce_returns {q : QueueSystem ℤ} (h : Handed D .producing w)
    (hq : w.connfds.step .producer = some q) (hidle : q.producer = .idle)
    (hconsumer : q.consumer = w.connfds.consumer)
    (hhistory : q.history = w.connfds.history ++ [.produceReturned]) :
    Handed D .notifying { w with connfds := q } := by
  have htold := h.told
  refine { h with
    sound := h.sound.step hq
    produced := ?_
    producer := by simp [hidle]
    consumer := hconsumer ▸ h.consumer
    consumed := ?_
    announced := ?_
    asked := fun hc => ?_
    told := by simpa using htold }
  · rw [hhistory, produced_append_returned]
    exact h.produced
  · rw [hhistory, consumed_append_producer rfl]
    exact h.consumed
  · rw [hhistory, completed_append_returned, consumed_append_producer rfl, h.announced]
    simp only [Role.owed]
    omega
  · rw [hhistory]
    exact (h.asked hc).append rfl

/-- **A step of the server in `produce`.** -/
theorem produce {q : QueueSystem ℤ} {act : QueueAct ℤ} (h : Handed D .producing w)
    (hact : act = .producer ∨ ∃ address, act = .allocate address)
    (hq : w.connfds.step act = some q) :
    Handed D (if q.producer = .idle then .notifying else .producing) { w with connfds := q } := by
  rcases hact with rfl | ⟨address, rfl⟩
  · obtain ⟨hconsumer, ⟨hbusy, hhistory⟩ | ⟨hidle, hhistory⟩⟩ := producer_goes_on hq
    · rw [if_neg hbusy]
      exact h.produce_busy hq hbusy hconsumer hhistory
    · rw [if_pos hidle]
      exact h.produce_returns hq hidle hconsumer hhistory
  · obtain ⟨hbusy, hconsumer, hhistory⟩ := allocate_goes_on hq
    rw [if_neg hbusy]
    exact h.produce_busy hq hbusy hconsumer hhistory

/-- **Something is written into the pipe.** An announcement pays what was
owed, and is not written behind `QUIT`. -/
theorem post {msg : Notice} {r' : Role} (h : Handed D r w) (hw : w.post msg = some w')
    (hsafe : msg = .NEW_CONN → r ≠ .past) (howed : [msg].count .NEW_CONN + r'.owed = r.owed)
    (hproducing : r' = .producing ↔ r = .producing)
    (hpast : r' = .past ↔ msg = .QUIT ∨ r = .past) : Handed D r' w' := by
  have hended : w.phase.ended = false ∧ w' = { w with pipe := w.pipe ++ [msg] } := by
    unfold WorkerThread.post at hw
    cases hphase : w.phase with
    | ending | stopped =>
      rw [hphase] at hw
      cases hw
    | _ =>
      rw [hphase] at hw
      exact ⟨rfl, (Option.some.inj hw).symm⟩
  obtain ⟨hended, rfl⟩ := hended
  have htold := h.told
  simp only [hended, Bool.false_eq_true, or_false] at htold
  refine { h with
    producer := ?_
    announced := ?_
    last := ?_
    told := ?_
    drained := fun ho => absurd ho (by simp [hended]) }
  · rw [h.producer, not_iff_not]
    exact hproducing.symm
  · show completed w.connfds.history = (Common.consumed w.connfds.history).length +
      (w.pipe ++ [msg]).count .NEW_CONN + r'.owed + w.phase.hand
    rw [List.count_append, h.announced]
    omega
  · refine List.pairwise_append.2 ⟨h.last, List.pairwise_singleton .., fun a ha b hb => ?_⟩
    obtain rfl := List.mem_singleton.1 hb
    rintro rfl hnew
    exact hsafe hnew (htold.1 ha)
  · rw [hpast, ← htold]
    simp only [hended, Bool.false_eq_true, or_false, List.mem_append, List.mem_singleton,
      eq_comm (a := Notice.QUIT)]
    exact or_comm

end Handed

/-! ## The server and all its workers -/

/-- The worker the server is at. -/
def ServerPhase.busyWith : ServerPhase → Option ℕ
  | .producing k | .notifying k | .stopping k | .joining k => some k
  | .idle | .stopped => none

/-- `join` of the worker `k` has returned. -/
def ServerPhase.joined (k : ℕ) : ServerPhase → Prop
  | .stopping j | .joining j => k < j
  | .stopped => True
  | .idle | .producing _ | .notifying _ => False

/-- **The invariant**: each worker has been dealt what came in its turn. -/
structure InTurn (n : ℕ) (s : SignalingServer) : Prop where
  num : s.workerNum = n
  index : 0 < s.workerNum → s.nextWorkerIndex = s.accepted.length % s.workerNum
  fault : s.fault = false
  within : ∀ k, s.phase.busyWith = some k → k < s.workerNum
  workers : ∀ k < s.workerNum,
    Handed (dealt s.workerNum k s.accepted) (s.phase.role k) (s.workers k)
  joined : ∀ k < s.workerNum, s.phase.joined k → (s.workers k).phase = .stopped

variable {s s' : SignalingServer} {n k : ℕ}

theorem setWorker_self : (s.setWorker k w).workers k = w := Function.update_self ..

theorem setWorker_of_ne {j : ℕ} (h : j ≠ k) : (s.setWorker k w).workers j = s.workers j :=
  Function.update_of_ne h ..

namespace InTurn

/-- The server goes on with one worker, and it is nothing to the others. -/
theorem serve {p : ServerPhase} (h : InTurn n s) (hk : k < s.workerNum)
    (hw : Handed (dealt s.workerNum k s.accepted) (p.role k) w)
    (hroles : ∀ j, j ≠ k → p.role j = s.phase.role j)
    (hjoined : ∀ j, p.joined j → j ≠ k ∧ s.phase.joined j)
    (hwithin : ∀ j, p.busyWith = some j → j = k) :
    InTurn n { s.setWorker k w with phase := p } where
  num := h.num
  index := h.index
  fault := h.fault
  within := fun j hj => (hwithin j hj).symm ▸ hk
  workers := by
    intro j hj
    show Handed (dealt s.workerNum j s.accepted) (p.role j) ((s.setWorker k w).workers j)
    by_cases hjk : j = k
    · subst hjk
      rw [setWorker_self]
      exact hw
    · rw [setWorker_of_ne hjk, hroles j hjk]
      exact h.workers j hj
  joined := by
    intro j hj hjoin
    obtain ⟨hjk, hbefore⟩ := hjoined j hjoin
    show ((s.setWorker k w).workers j).phase = .stopped
    rw [setWorker_of_ne hjk]
    exact h.joined j hj hbefore

/-- A worker does something, and it is nothing to the server. -/
theorem inWorker {f : WorkerThread → Option WorkerThread} (h : InTurn n s)
    (hs : s.inWorker k f = some s')
    (hkeep : ∀ D r w', Handed D r (s.workers k) → f (s.workers k) = some w' → Handed D r w')
    (hstopped : (s.workers k).phase = .stopped → f (s.workers k) = none) : InTurn n s' := by
  unfold SignalingServer.inWorker at hs
  split at hs
  · rename_i hk
    obtain ⟨w, hw, rfl⟩ := Option.map_eq_some_iff.1 hs
    have hnot : ¬ s.phase.joined k := by
      intro hjoin
      rw [hstopped (h.joined k hk hjoin)] at hw
      cases hw
    refine ⟨h.num, h.index, h.fault, h.within, fun j hj => ?_, fun j hj hjoin => ?_⟩
    · by_cases hjk : j = k
      · subst hjk
        rw [setWorker_self]
        exact hkeep _ _ w (h.workers j hj) hw
      · rw [setWorker_of_ne hjk]
        exact h.workers j hj
    · have hjk : j ≠ k := by
        rintro rfl
        exact hnot hjoin
      rw [setWorker_of_ne hjk]
      exact h.joined j hj hjoin
  · cases hs

/-- The server goes on to the next worker that is to stop. -/
theorem stopFrom (h : InTurn n s)
    (hroles : ∀ j < s.workerNum, s.phase.role j = if j < k then .past else .away)
    (hended : ∀ j < s.workerNum, j < k → (s.workers j).phase = .stopped) :
    InTurn n (s.stopFrom k) := by
  unfold SignalingServer.stopFrom
  by_cases hk : k < s.workerNum
  · rw [if_pos hk]
    refine ⟨h.num, h.index, h.fault, fun j hj => ?_, fun j hj => ?_, hended⟩
    · obtain rfl : k = j := Option.some.inj hj
      exact hk
    · show Handed _ (if j < k then .past else .away) _
      rw [← hroles j hj]
      exact h.workers j hj
  · rw [if_neg hk]
    have hbelow : ∀ j < s.workerNum, j < k := fun j hj => by omega
    refine ⟨h.num, h.index, h.fault, nofun, fun j hj => ?_, fun j hj _ => hended j hj (hbelow j hj)⟩
    have hrole := hroles j hj
    rw [if_pos (hbelow j hj)] at hrole
    show Handed _ .past _
    rw [← hrole]
    exact h.workers j hj

/-- **A connection is accepted.** -/
theorem accept {fd : ℤ} (h : InTurn n s) (hs : s.acceptNewConnect fd = some s') : InTurn n s' := by
  unfold SignalingServer.acceptNewConnect at hs
  split at hs
  · cases hs
  rename_i hidle
  have hidle : s.phase = .idle := not_not.1 hidle
  split at hs
  · obtain rfl := Option.some.inj hs
    exact h
  split at hs
  · cases hs
  unfold SignalingServer.dispatchNewConn at hs
  dsimp only at hs
  split at hs
  · rename_i hnone
    obtain rfl := Option.some.inj hs
    exact ⟨h.num, fun hpos => absurd hnone (Nat.ne_of_gt hpos), h.fault, h.within,
      fun j hj => absurd (hnone ▸ hj) (Nat.not_lt_zero j), h.joined⟩
  rename_i hsome
  have hpos := Nat.pos_of_ne_zero hsome
  have hindex := h.index hpos
  have hlt : s.nextWorkerIndex < s.workerNum := hindex ▸ Nat.mod_lt _ hpos
  rw [if_neg (by omega)] at hs
  obtain ⟨q, hq, rfl⟩ := Option.map_eq_some_iff.1 hs
  have hrole : ∀ j, s.phase.role j = .away := fun j => by rw [hidle]; rfl
  refine ⟨h.num, fun _ => ?_, h.fault, fun j hj => ?_, fun j hj => ?_, nofun⟩
  · show (if s.workerNum ≤ s.nextWorkerIndex + 1 then 0 else s.nextWorkerIndex + 1) =
      (s.accepted ++ [fd]).length % s.workerNum
    rw [List.length_append, List.length_singleton, Nat.add_mod, ← hindex]
    split
    · have hwrap : s.nextWorkerIndex + 1 = s.workerNum := by omega
      rcases Nat.lt_or_ge 1 s.workerNum with hmany | hone
      · rw [Nat.mod_eq_of_lt hmany, hwrap, Nat.mod_self]
      · obtain hn : s.workerNum = 1 := by omega
        rw [hn, Nat.mod_one]
    · rw [Nat.mod_eq_of_lt (by omega : 1 < s.workerNum), Nat.mod_eq_of_lt (by omega)]
  · obtain rfl : s.nextWorkerIndex = j := Option.some.inj hj
    exact hlt
  · have hbefore := h.workers j hj
    rw [hrole] at hbefore
    by_cases hjk : j = s.nextWorkerIndex
    · subst hjk
      have hdealt : dealt s.workerNum s.nextWorkerIndex (s.accepted ++ [fd]) =
          dealt s.workerNum s.nextWorkerIndex s.accepted ++ [fd] := by
        rw [hindex]
        exact dealt_concat_self fd
      show Handed (dealt s.workerNum s.nextWorkerIndex (s.accepted ++ [fd]))
        (if s.nextWorkerIndex = s.nextWorkerIndex then .producing else .away)
        (Function.update s.workers s.nextWorkerIndex _ s.nextWorkerIndex)
      rw [hdealt, if_pos rfl, Function.update_self]
      exact hbefore.dispatch hq
    · show Handed (dealt s.workerNum j (s.accepted ++ [fd]))
        (if s.nextWorkerIndex = j then .producing else .away)
        (Function.update s.workers s.nextWorkerIndex _ j)
      rw [dealt_concat_of_ne fd (hindex ▸ hjk), if_neg (Ne.symm hjk), Function.update_of_ne hjk]
      exact hbefore

/-- A micro-step of `produce`. -/
theorem produce {act : QueueAct ℤ} (h : InTurn n s)
    (hact : act = .producer ∨ ∃ address, act = .allocate address)
    (hs : s.produce act = some s') : InTurn n s' := by
  unfold SignalingServer.produce at hs
  split at hs
  · rename_i k hphase
    obtain ⟨q, hq, rfl⟩ := Option.map_eq_some_iff.1 hs
    have hk : k < s.workerNum := h.within k (by rw [hphase]; rfl)
    have hat := h.workers k hk
    rw [hphase] at hat
    simp only [ServerPhase.role, if_true] at hat
    have hnext := hat.produce hact hq
    split
    · rename_i hidle
      rw [if_pos hidle] at hnext
      refine h.serve hk (by simpa [ServerPhase.role] using hnext) (fun j hj => ?_) nofun
        fun j hj => (Option.some.inj hj).symm
      simp [ServerPhase.role, hphase, Ne.symm hj]
    · rename_i hbusy
      rw [if_neg hbusy] at hnext
      refine h.serve hk (by simpa [ServerPhase.role] using hnext) (fun j _ => by rw [hphase]) nofun
        fun j hj => (Option.some.inj hj).symm
  · cases hs

/-- `NEW_CONN` is written. -/
theorem notify (h : InTurn n s) (hs : s.notify = some s') : InTurn n s' := by
  unfold SignalingServer.notify at hs
  split at hs
  · rename_i k hphase
    obtain ⟨w, hw, rfl⟩ := Option.map_eq_some_iff.1 hs
    have hk : k < s.workerNum := h.within k (by rw [hphase]; rfl)
    have hat := h.workers k hk
    rw [hphase] at hat
    simp only [ServerPhase.role, if_true] at hat
    refine h.serve hk (hat.post hw (fun _ => nofun) rfl ?_ ?_) (fun j hj => ?_) nofun nofun
    · exact ⟨nofun, nofun⟩
    · exact ⟨nofun, by rintro (hq | hq) <;> cases hq⟩
    · simp [ServerPhase.role, hphase, Ne.symm hj]
  · cases hs

/-- `QUIT` is read. -/
theorem quit (h : InTurn n s) (hs : s.quit = some s') : InTurn n s' := by
  unfold SignalingServer.quit at hs
  split at hs
  · rename_i hphase
    obtain rfl := Option.some.inj hs
    refine h.stopFrom (fun j _ => ?_) fun j _ hj => absurd hj (Nat.not_lt_zero j)
    rw [hphase, if_neg (Nat.not_lt_zero j)]
    rfl
  · cases hs

/-- `QUIT` is written. -/
theorem stop (h : InTurn n s) (hs : s.stop = some s') : InTurn n s' := by
  unfold SignalingServer.stop at hs
  split at hs
  · rename_i k hphase
    obtain ⟨w, hw, rfl⟩ := Option.map_eq_some_iff.1 hs
    have hk : k < s.workerNum := h.within k (by rw [hphase]; rfl)
    have hat := h.workers k hk
    rw [hphase] at hat
    simp only [ServerPhase.role, Nat.lt_irrefl, if_false] at hat
    have hquit : Handed (dealt s.workerNum k s.accepted) (ServerPhase.role k (.joining k)) w := by
      simp only [ServerPhase.role, Nat.le_refl, if_true]
      exact hat.post hw nofun rfl ⟨nofun, nofun⟩ ⟨fun _ => .inl rfl, fun _ => rfl⟩
    refine h.serve hk hquit (fun j hj => ?_) (fun j hj => ?_) fun j hj => (Option.some.inj hj).symm
    · simp only [ServerPhase.role, hphase, Nat.lt_iff_le_and_ne, and_iff_left hj]
    · rw [hphase]
      exact ⟨Nat.ne_of_lt hj, hj⟩
  · cases hs

/-- `join` returns. -/
theorem join (h : InTurn n s) (hs : s.join = some s') : InTurn n s' := by
  unfold SignalingServer.join at hs
  split at hs
  · rename_i k hphase
    split at hs
    · rename_i hended
      obtain rfl := Option.some.inj hs
      refine h.stopFrom (fun j _ => ?_) fun j hj hjk => ?_
      · simp only [ServerPhase.role, hphase, Nat.lt_succ_iff]
      · rcases Nat.lt_succ_iff_lt_or_eq.1 hjk with hlt | rfl
        · exact h.joined j hj (by rw [hphase]; exact hlt)
        · exact hended
    · cases hs
  · cases hs

/-- **Every step keeps it.** -/
theorem step {e : SignalingEvent} (h : InTurn n s) (hs : s.step parse dump e = some s') :
    InTurn n s' := by
  cases e with
  | accept fd => exact h.accept hs
  | produce address =>
    cases address with
    | none => exact h.produce (.inl rfl) hs
    | some address => exact h.produce (.inr ⟨address, rfl⟩) hs
  | notify => exact h.notify hs
  | quit => exact h.quit hs
  | stop => exact h.stop hs
  | join => exact h.join hs
  | post k =>
    refine h.inWorker (f := fun w => w.post .RTC_MSG) hs (fun D r w hD hw => ?_) fun hphase => by
      simp [WorkerThread.post, hphase]
    exact hD.post hw nofun (Nat.zero_add _) Iff.rfl ⟨.inr, fun hr => hr.resolve_left nofun⟩
  | wake k =>
    exact h.inWorker hs (fun D r w hD hw => hD.wake hw) fun hphase => by
      simp [WorkerThread.wake, hphase]
  | consume k =>
    exact h.inWorker hs (fun D r w hD hw => hD.consume hw) fun hphase => by
      simp [WorkerThread.consume, hphase]
  | newConn k addr io timer =>
    exact h.inWorker (f := fun w => w.newConn parse dump addr io timer) hs
      (fun D r w hD hw => hD.newConn hw) fun hphase => by simp [WorkerThread.newConn, hphase]
  | rtcMsg k popped =>
    exact h.inWorker (f := fun w => w.rtcMsg parse dump popped) hs
      (fun D r w hD hw => hD.rtcMsg hw) fun hphase => by simp [WorkerThread.rtcMsg, hphase]
  | callback k e =>
    exact h.inWorker (f := fun w => w.callback parse dump e) hs
      (fun D r w hD hw => hD.callback hw) fun hphase => by simp [WorkerThread.callback, hphase]
  | finish k =>
    exact h.inWorker hs (fun D r w hD hw => hD.finish hw) fun hphase => by
      simp [WorkerThread.finish, hphase]

end InTurn

theorem handed_start (k : ℕ) (timeout : ℤ) (address : ℕ) :
    Handed [] .away { connfds := .init 0 address, thread := .start k timeout } where
  sound := sound_init 0 address
  produced := rfl
  producer := ⟨nofun, fun _ => rfl⟩
  consumer := ⟨nofun, fun _ => rfl⟩
  consumed := rfl
  found := nofun
  announced := rfl
  asked := nofun
  last := .nil
  told := by simp [WorkerPhase.ended]
  drained := nofun
  inStep := inStep_start k timeout

theorem inTurn_start (n : ℕ) (timeout : ℤ) (address : ℕ → ℕ) :
    InTurn n (.start n timeout address) where
  num := rfl
  index := fun _ => (Nat.zero_mod n).symm
  fault := rfl
  within := nofun
  workers := fun k _ => handed_start k timeout (address k)
  joined := fun _ _ => False.elim

theorem inTurn_of_run {timeout : ℤ} {address : ℕ → ℕ} {es : List SignalingEvent}
    (h : run (SignalingServer.step parse dump) (.start n timeout address) es = some s) : InTurn n s :=
  inv_of_run (fun _ _ _ hs he => hs.step he) (inTurn_start n timeout address) h

/-! ## What comes of what is accepted -/

/-- Nothing is under way between the server and the worker `k`. -/
structure SignalingServer.AtRest (s : SignalingServer) (k : ℕ) : Prop where
  server : s.phase ≠ .producing k ∧ s.phase ≠ .notifying k
  pipe : .NEW_CONN ∉ (s.workers k).pipe
  worker : (s.workers k).phase ≠ .consuming ∧ ∀ fd, (s.workers k).phase ≠ .opening fd

/-- What the worker has opened, where it has taken all that was announced. -/
theorem Handed.opened_eq (h : Handed D r w) (hr : r ≠ .producing ∧ r ≠ .notifying)
    (hpipe : .NEW_CONN ∉ w.pipe) (hw : w.phase ≠ .consuming ∧ ∀ fd, w.phase ≠ .opening fd) :
    w.opened = D := by
  have howed : r.owed = 0 := by
    cases r with
    | notifying => exact absurd rfl hr.2
    | _ => rfl
  have hhands : w.phase.hand = 0 ∧ w.phase.inHand = [] := by
    cases hphase : w.phase with
    | consuming => exact absurd hphase hw.1
    | opening fd => exact absurd hphase (hw.2 fd)
    | _ => exact ⟨rfl, rfl⟩
  have hall := h.announced
  rw [List.count_eq_zero.2 hpipe, howed, hhands.1] at hall
  calc w.opened
      = Common.consumed w.connfds.history := by rw [h.consumed, hhands.2, List.append_nil]
    _ = Common.produced w.connfds.history := h.sound.all_taken (h.producer.2 hr.1) hall
    _ = D := h.produced

theorem Handed.opened_prefix (h : Handed D r w) : w.opened <+: D := by
  rw [← h.produced]
  refine List.IsPrefix.trans ?_ h.sound.fifo
  rw [h.consumed]
  exact List.prefix_append _ _

theorem role_eq_of_atRest (h : s.phase ≠ .producing k ∧ s.phase ≠ .notifying k) :
    s.phase.role k ≠ .producing ∧ s.phase.role k ≠ .notifying := by
  unfold ServerPhase.role
  cases hphase : s.phase with
  | producing j =>
    have hne : j ≠ k := by
      rintro rfl
      exact h.1 hphase
    simp [hne]
  | notifying j =>
    have hne : j ≠ k := by
      rintro rfl
      exact h.2 hphase
    simp [hne]
  | stopping j | joining j =>
    dsimp only
    split <;> exact ⟨nofun, nofun⟩
  | _ => exact ⟨nofun, nofun⟩

/-- **What a worker opens is what came in its turn**, in that order, and in
the end all of it. -/
structure OpenedInTurn (s : SignalingServer) (n k : ℕ) : Prop where
  first : (s.workers k).opened <+: dealt n k s.accepted
  atRest : s.AtRest k → (s.workers k).opened = dealt n k s.accepted
  ended : (s.workers k).phase = .ending ∨ (s.workers k).phase = .stopped →
    (s.workers k).opened = dealt n k s.accepted
  /-- No worker has more than its share. -/
  share : (s.workers k).opened.length ≤ s.accepted.length / n + 1
  /-- The queue is never accessed through a bad pointer. -/
  defined : (s.workers k).connfds.undefined = false

theorem InTurn.openedInTurn (h : InTurn n s) (hk : k < n) : OpenedInTurn s n k := by
  obtain rfl := h.num
  have hat := h.workers k hk
  refine ⟨hat.opened_prefix, fun hrest => ?_, fun hended => ?_, ?_, hat.sound.defined⟩
  · exact hat.opened_eq (role_eq_of_atRest hrest.server) hrest.pipe hrest.worker
  · have hover : (s.workers k).phase.ended = true := by
      rcases hended with hphase | hphase <;> rw [hphase] <;> rfl
    have hpast := hat.told.1 (.inr hover)
    refine hat.opened_eq (by simp [hpast]) (List.count_eq_zero.1 (hat.drained hover)) ?_
    rcases hended with hphase | hphase <;> rw [hphase] <;> exact ⟨nofun, nofun⟩
  · have hle := hat.opened_prefix.length_le
    rw [length_dealt_eq hk] at hle
    split at hle <;> omega

/-- **Every connection accepted reaches its worker.** Whatever the threads
do, step by step in any order, and whatever else their loops call back for:
the connections go round among the workers, each worker opens those that came
in its turn and no other, in the order they were accepted, none is lost, and
before the worker ends it has opened them all. `_workers` is not accessed
outside of its bounds. -/
theorem opened_in_turn {timeout : ℤ} {address : ℕ → ℕ} {es : List SignalingEvent}
    (h : run (SignalingServer.step parse dump) (.start n timeout address) es = some s) :
    s.fault = false ∧ ∀ k < n, OpenedInTurn s n k := by
  have hturn := inTurn_of_run h
  exact ⟨hturn.fault, fun k hk => hturn.openedInTurn hk⟩

/-- `produce` where nothing has been consumed, and the announcement. -/
def handOver (address : ℕ) : List SignalingEvent :=
  .produce (some address) :: List.replicate 8 (.produce none) ++ [.notify]

/-- The worker reads its pipe and takes a descriptor. -/
def takeOver (k : ℕ) : List SignalingEvent := .wake k :: List.replicate 10 (.consume k)

/-- Two workers and three connections. The third is accepted behind the
first, and the server stops before it is opened. -/
def threeConnections : List SignalingEvent :=
  .accept 5 :: handOver 101 ++ .accept 7 :: handOver 201 ++ takeOver 0 ++
    [.newConn 0 1 10 20, .callback 0 (.timer 20 5), .accept 9, .produce (some 102)] ++
    List.replicate 15 (.produce none) ++ [.notify, .quit, .stop] ++ takeOver 0 ++
    [.newConn 0 2 11 21, .wake 0, .finish 0, .join, .stop] ++ takeOver 1 ++
    [.newConn 1 1 10 20, .wake 1, .finish 1, .join]

theorem opened_in_turn_three :
    ∃ s, run (SignalingServer.step (fun _ => .error .parseError) fun _ => [])
        (.start 2 100 fun k => 100 * (k + 1)) threeConnections = some s ∧
      ((s.workers 0).opened, (s.workers 1).opened, s.accepted) = ([5, 9], [7], [5, 7, 9]) ∧
      s.fault = false ∧ ∀ k < 2, OpenedInTurn s 2 k := by
  have hrun : ((run (SignalingServer.step (fun _ => .error .parseError) fun _ => [])
      (.start 2 100 fun k => 100 * (k + 1)) threeConnections).map fun s =>
      ((s.workers 0).opened, (s.workers 1).opened, s.accepted)) =
      some ([5, 9], [7], [5, 7, 9]) := by
    decide +kernel
  obtain ⟨s, hs, heq⟩ := Option.map_eq_some_iff.1 hrun
  exact ⟨s, hs, heq, opened_in_turn hs⟩

end Server

end XrtcServer
