import XrtcServer.Server.Accepting
/-!
# Every connection has one owner

A descriptor that the server has accepted and that is not closed is at one
place only: on its way to a worker or open there. The kernel gives out none
that is open, a worker only closes what it has open, and a descriptor that a
worker opens is one that was on its way to it. So no two threads ever touch
one connection, and a worker is never handed what it has.
-/

namespace XrtcServer

namespace Server

open Base Base.QueueSystem Common

variable {parse : List UInt8 → Except JsonException Json} {dump : Json → List UInt8}

/-! ## What the callbacks do to the descriptors -/

section EventThread

variable {t t' : EventThread} {addr : ℕ} {c : TcpConnection} {fd : ℤ}

theorem closeConn_openFds (h : t.closeConn addr c = .returned t') :
    t'.worker.openFds.Sublist t.worker.openFds := by
  unfold EventThread.closeConn at h
  split at h
  · cases h
  · obtain rfl := CallbackEnd.returned.inj h
    exact List.erase_sublist

theorem readQuery_openFds {now fuel : ℕ} {data : List UInt8}
    (h : t.readQuery parse fd now fuel data = some (.returned t')) :
    t'.worker.openFds.Sublist t.worker.openFds := by
  unfold EventThread.readQuery at h
  split at h
  · obtain rfl := CallbackEnd.returned.inj (Option.some.inj h)
    exact .refl _
  split at h
  · cases h
  split at h
  · cases h
  split at h
  · cases h
  dsimp only at h
  split at h
  · obtain rfl := CallbackEnd.returned.inj (Option.some.inj h)
    exact .refl _
  · exact closeConn_openFds (Option.some.inj h)
  · cases h

theorem writeQuery_openFds {results : List ℤ} (h : t.writeQuery fd results = some (.returned t')) :
    t'.worker.openFds.Sublist t.worker.openFds := by
  unfold EventThread.writeQuery at h
  split at h
  · obtain rfl := CallbackEnd.returned.inj (Option.some.inj h)
    exact .refl _
  split at h
  · obtain rfl := CallbackEnd.returned.inj (Option.some.inj h)
    exact .refl _
  split at h
  · cases h
  dsimp only at h
  split at h
  · obtain rfl := CallbackEnd.returned.inj (Option.some.inj h)
    exact .refl _
  · exact closeConn_openFds (Option.some.inj h)
  · cases h

theorem connIoCb_openFds {read write : Bool} {now fuel : ℕ} {data : List UInt8} {results : List ℤ}
    (h : t.connIoCb parse fd read write now fuel data results = some (.returned t')) :
    t'.worker.openFds.Sublist t.worker.openFds := by
  obtain ⟨o, hread, h⟩ := Option.bind_eq_some_iff.1 h
  cases o with
  | fault | lost => cases h
  | returned u =>
    have hfirst : u.worker.openFds.Sublist t.worker.openFds := by
      split at hread
      · exact readQuery_openFds hread
      · obtain rfl := CallbackEnd.returned.inj (Option.some.inj hread)
        exact .refl _
    refine List.Sublist.trans ?_ hfirst
    dsimp only at h
    split at h
    · exact writeQuery_openFds h
    · obtain rfl := CallbackEnd.returned.inj (Option.some.inj h)
      exact .refl _

theorem connTimerCb_openFds {now : ℕ} (h : t.connTimerCb addr now = .returned t') :
    t'.worker.openFds.Sublist t.worker.openFds := by
  unfold EventThread.connTimerCb at h
  split at h
  · cases h
  split at h
  · exact closeConn_openFds h
  · obtain rfl := CallbackEnd.returned.inj h
    exact .refl _

theorem processRtcMsg_openFds {msg : RtcMsg} {block : Option (List UInt8)}
    (h : t.processRtcMsg dump msg block = .returned t') :
    t'.worker.openFds = t.worker.openFds := by
  unfold EventThread.processRtcMsg at h
  split at h
  · split at h
    · obtain rfl := CallbackEnd.returned.inj h
      rfl
    · unfold EventThread.addReplyTo at h
      split at h
      · cases h
      · split at h
        · obtain rfl := CallbackEnd.returned.inj h
          rfl
        · obtain rfl := CallbackEnd.returned.inj h
          rfl
  · obtain rfl := CallbackEnd.returned.inj h
    rfl

theorem callback_of_step {e : LoopEvent} (h : t.step parse dump e = some t') :
    t.callback parse dump e = some (.returned t') := by
  unfold EventThread.step at h
  split at h
  · rename_i hcall
    obtain rfl := Option.some.inj h
    exact hcall
  · cases h

/-- **A callback that opens nothing opens nothing.** -/
theorem openFds_step {e : LoopEvent} (h : t.step parse dump e = some t')
    (hnew : ∀ fd addr io timer, e ≠ .newConn fd addr io timer) :
    t'.worker.openFds.Sublist t.worker.openFds := by
  have hcall := callback_of_step h
  cases e with
  | newConn fd addr io timer => exact absurd rfl (hnew fd addr io timer)
  | io watcher read write now fuel data results =>
    obtain ⟨fd, -, hio⟩ := Option.bind_eq_some_iff.1 hcall
    exact connIoCb_openFds hio
  | timer watcher now =>
    obtain ⟨addr, -, htimer⟩ := Option.map_eq_some_iff.1 hcall
    exact connTimerCb_openFds htimer
  | response msg block => exact (processRtcMsg_openFds (Option.some.inj hcall)) ▸ .refl _

/-- `_new_conn` opens one, that was not open. -/
theorem openFds_newConn {io timer : ℕ} (h : t.step parse dump (.newConn fd addr io timer) = some t') :
    fd ∉ t.worker.openFds ∧ t'.worker.openFds = fd :: t.worker.openFds := by
  have hcall := callback_of_step h
  unfold EventThread.callback at hcall
  dsimp only at hcall
  split at hcall
  · cases hcall
  · rename_i hfree
    obtain rfl := CallbackEnd.returned.inj (Option.some.inj hcall)
    refine ⟨fun hmem => hfree (.inl hmem), ?_⟩
    unfold EventThread.newConn
    split
    · rfl
    · rename_i hpos
      show (SignalingWorker.newConn _ fd addr).openFds = _
      unfold SignalingWorker.newConn
      rw [if_neg hpos]
      rfl

end EventThread

/-! ## The descriptors of a worker -/

section Worker

variable {D : List ℤ} {r : Role} {w w' : WorkerThread}

/-- Where nothing more is dealt or opened, descriptors are only closed. -/
theorem descriptors_subperm
    (hproduced : produced w'.connfds.history = produced w.connfds.history)
    (hopened : w'.opened = w.opened)
    (hfds : w'.thread.worker.openFds.Sublist w.thread.worker.openFds) :
    w'.descriptors.Subperm w.descriptors := by
  unfold WorkerThread.descriptors WorkerThread.inFlight
  rw [hproduced, hopened]
  exact ((List.Sublist.refl _).append hfds).subperm

/-- What has been taken is on its way until it is opened. -/
theorem Handed.inFlight_eq (h : Handed D r w) {fd : ℤ} (hphase : w.phase = .opening (some fd)) :
    ∃ rest, w.inFlight = fd :: rest ∧
      (Common.produced w.connfds.history).drop (w.opened.length + 1) = rest := by
  have hconsumed := h.consumed
  rw [hphase] at hconsumed
  obtain ⟨rest, hrest⟩ := h.sound.fifo
  refine ⟨rest, ?_, ?_⟩
  · rw [WorkerThread.inFlight, ← hrest, hconsumed, List.append_assoc]
    exact List.drop_left
  · have hlen : (Common.consumed w.connfds.history).length = w.opened.length + 1 := by
      rw [hconsumed, List.length_append]
      rfl
    rw [← hrest, ← hlen]
    exact List.drop_left

/-- **What is opened was on its way.** -/
theorem Handed.newConn_descriptors (h : Handed D r w) {addr io timer : ℕ}
    (hw : w.newConn parse dump addr io timer = some w') :
    w'.descriptors.Subperm w.descriptors := by
  unfold WorkerThread.newConn at hw
  split at hw
  · rename_i hphase
    exact absurd hphase h.found
  · rename_i fd hphase
    obtain ⟨t, ht, rfl⟩ := Option.map_eq_some_iff.1 hw
    obtain ⟨-, hfds⟩ := openFds_newConn ht
    obtain ⟨rest, hflight, hdrop⟩ := h.inFlight_eq hphase
    have hleft : { w with thread := t, phase := .idle, opened := w.opened ++ [fd] }.inFlight =
        rest := by
      rw [← hdrop, WorkerThread.inFlight, List.length_append]
      rfl
    unfold WorkerThread.descriptors
    rw [hleft, hflight, hfds]
    exact List.perm_middle.subperm
  · cases hw

theorem wake_descriptors (hw : w.wake = some w') : w'.descriptors.Subperm w.descriptors := by
  unfold WorkerThread.wake at hw
  split at hw
  · rename_i msg rest _ _
    cases msg with
    | QUIT | RTC_MSG =>
      obtain rfl := Option.some.inj hw
      exact .refl _
    | NEW_CONN =>
      obtain ⟨q, hq, rfl⟩ := Option.map_eq_some_iff.1 hw
      refine descriptors_subperm ?_ rfl (.refl _)
      rw [(consume_calls hq).2.2, produced_append_consumer rfl]
  · cases hw

theorem consume_descriptors (hw : w.consume = some w') :
    w'.descriptors.Subperm w.descriptors := by
  unfold WorkerThread.consume at hw
  split at hw
  · obtain ⟨q, hq, rfl⟩ := Option.map_eq_some_iff.1 hw
    refine descriptors_subperm ?_ rfl (.refl _)
    obtain ⟨-, ⟨-, -, hhistory⟩ | ⟨result, -, -, hhistory⟩⟩ := consumer_goes_on hq
    · rw [hhistory]
    · rw [hhistory, produced_append_consumer rfl]
  · cases hw

theorem rtcMsg_descriptors {popped : Option (RtcMsg × Option (List UInt8))}
    (hw : w.rtcMsg parse dump popped = some w') : w'.descriptors.Subperm w.descriptors := by
  unfold WorkerThread.rtcMsg at hw
  split at hw
  · obtain rfl := Option.some.inj hw
    exact .refl _
  · obtain ⟨t, ht, rfl⟩ := Option.map_eq_some_iff.1 hw
    exact descriptors_subperm rfl rfl (openFds_step ht fun _ _ _ _ => nofun)
  · cases hw

theorem callback_descriptors {e : LoopEvent} (hw : w.callback parse dump e = some w') :
    w'.descriptors.Subperm w.descriptors := by
  unfold WorkerThread.callback at hw
  split at hw
  case h_5 => cases hw
  all_goals
    obtain ⟨t, ht, rfl⟩ := Option.map_eq_some_iff.1 hw
    exact descriptors_subperm rfl rfl (openFds_step ht fun _ _ _ _ => nofun)

theorem finish_descriptors (hw : w.finish = some w') : w'.descriptors.Subperm w.descriptors := by
  unfold WorkerThread.finish at hw
  split at hw
  · obtain rfl := Option.some.inj hw
    exact .refl _
  · cases hw

theorem post_descriptors {msg : Notice} (hw : w.post msg = some w') :
    w'.descriptors.Subperm w.descriptors := by
  unfold WorkerThread.post at hw
  split at hw
  · cases hw
  · cases hw
  · obtain rfl := Option.some.inj hw
    exact .refl _

/-- `produce` goes on with what it has. -/
theorem produce_descriptors {q : QueueSystem ℤ} {act : QueueAct ℤ}
    (hact : act = .producer ∨ ∃ address, act = .allocate address)
    (hq : w.connfds.step act = some q) :
    ({ w with connfds := q } : WorkerThread).descriptors.Subperm w.descriptors := by
  refine descriptors_subperm ?_ rfl (.refl _)
  rcases hact with rfl | ⟨address, rfl⟩
  · obtain ⟨-, ⟨-, hhistory⟩ | ⟨-, hhistory⟩⟩ := producer_goes_on hq
    · rw [hhistory]
    · rw [hhistory, produced_append_returned]
  · rw [(allocate_goes_on hq).2.2]

/-- **What is dealt is new to the worker.** -/
theorem Handed.dispatch_descriptors (h : Handed D r w) {fd : ℤ} {q : QueueSystem ℤ}
    (hq : w.connfds.step (.produce fd) = some q) :
    ({ w with connfds := q } : WorkerThread).descriptors.Perm (fd :: w.descriptors) := by
  have hle : w.opened.length ≤ (Common.produced w.connfds.history).length := by
    have hfifo := h.sound.fifo.length_le
    rw [h.consumed, List.length_append] at hfifo
    omega
  have hflight : ({ w with connfds := q } : WorkerThread).inFlight = w.inFlight ++ [fd] := by
    unfold WorkerThread.inFlight
    rw [(produce_calls hq).2.2, produced_append_called, List.drop_append_of_le_length hle]
  unfold WorkerThread.descriptors
  rw [hflight, List.append_assoc]
  exact List.perm_middle

end Worker

/-! ## The descriptors of all of them -/

/-- One of the lists apart from the others. -/
theorem flatMap_range_perm {α : Type*} {n k : ℕ} (hk : k < n) (f : ℕ → List α) :
    ((List.range n).flatMap f).Perm (f k ++ ((List.range n).erase k).flatMap f) := by
  have hmem := List.perm_cons_erase (List.mem_range.2 hk)
  exact (hmem.flatMap_right f).trans (by rw [List.flatMap_cons])

theorem flatMap_erase_update {α : Type*} {n k : ℕ} (f : ℕ → WorkerThread) (w : WorkerThread)
    (g : WorkerThread → List α) :
    ((List.range n).erase k).flatMap (fun j => g (Function.update f k w j)) =
      ((List.range n).erase k).flatMap fun j => g (f j) := by
  refine List.flatMap_congr fun j hj => ?_
  rw [Function.update_of_ne ((List.nodup_range.mem_erase_iff.1 hj).1)]

variable {s s' : SignalingServer} {n k : ℕ} {w : WorkerThread}

theorem setWorker_descriptors (hk : k < s.workerNum) :
    (s.setWorker k w).descriptors.Perm
      (w.descriptors ++
        ((List.range s.workerNum).erase k).flatMap fun j => (s.workers j).descriptors) := by
  have hapart := flatMap_range_perm hk fun j => ((s.setWorker k w).workers j).descriptors
  rw [setWorker_self] at hapart
  unfold SignalingServer.setWorker at hapart
  rw [flatMap_erase_update s.workers w WorkerThread.descriptors] at hapart
  exact hapart

/-- Where a worker only closes, so do they all. -/
theorem setWorker_subperm (hk : k < s.workerNum)
    (hw : w.descriptors.Subperm (s.workers k).descriptors) :
    (s.setWorker k w).descriptors.Subperm s.descriptors := by
  have hapart := flatMap_range_perm hk fun j => (s.workers j).descriptors
  exact (setWorker_descriptors hk).subperm.trans
    ((hw.append (.refl _)).trans hapart.symm.subperm)

theorem setWorker_cons {fd : ℤ} (hk : k < s.workerNum)
    (hw : w.descriptors.Perm (fd :: (s.workers k).descriptors)) :
    (s.setWorker k w).descriptors.Perm (fd :: s.descriptors) := by
  have hapart := flatMap_range_perm hk fun j => (s.workers j).descriptors
  exact (setWorker_descriptors hk).trans ((hw.append_right _).trans (hapart.symm.cons fd))

theorem nodup_of_subperm {α : Type*} {l l' : List α} (h : l.Subperm l') (hl : l'.Nodup) :
    l.Nodup := by
  obtain ⟨m, hm, hsub⟩ := h
  exact hm.nodup_iff.1 (hsub.nodup hl)

/-- **The descriptors are kept apart**, and the rest of the invariant. -/
structure Apart (n : ℕ) (s : SignalingServer) : Prop where
  inTurn : InTurn n s
  nodup : s.descriptors.Nodup

namespace Apart

theorem of_subperm (h : Apart n s) (hturn : InTurn n s') (hsub : s'.descriptors.Subperm s.descriptors) :
    Apart n s' :=
  ⟨hturn, nodup_of_subperm hsub h.nodup⟩

theorem inWorker {f : WorkerThread → Option WorkerThread} (h : Apart n s) (hturn : InTurn n s')
    (hs : s.inWorker k f = some s')
    (hsub : ∀ D r w', Handed D r (s.workers k) → f (s.workers k) = some w' →
      w'.descriptors.Subperm (s.workers k).descriptors) : Apart n s' := by
  unfold SignalingServer.inWorker at hs
  split at hs
  · rename_i hk
    obtain ⟨w, hw, rfl⟩ := Option.map_eq_some_iff.1 hs
    exact h.of_subperm hturn (setWorker_subperm hk (hsub _ _ w (h.inTurn.workers k hk) hw))
  · cases hs

/-- What is accepted is at no worker yet. -/
theorem accept {fd : ℤ} (h : Apart n s) (hturn : InTurn n s')
    (hs : s.acceptNewConnect fd = some s') : Apart n s' := by
  refine ⟨hturn, ?_⟩
  unfold SignalingServer.acceptNewConnect at hs
  split at hs
  · cases hs
  split at hs
  · obtain rfl := Option.some.inj hs
    exact h.nodup
  split at hs
  · cases hs
  rename_i hfree
  obtain ⟨-, hnew⟩ := not_or.1 hfree
  unfold SignalingServer.dispatchNewConn at hs
  dsimp only at hs
  split at hs
  · obtain rfl := Option.some.inj hs
    exact h.nodup
  split at hs
  · obtain rfl := Option.some.inj hs
    exact h.nodup
  rename_i hindex
  obtain ⟨q, hq, rfl⟩ := Option.map_eq_some_iff.1 hs
  have hk : s.nextWorkerIndex < s.workerNum := by omega
  have hperm := (h.inTurn.workers _ hk).dispatch_descriptors hq
  exact (setWorker_cons hk hperm).nodup_iff.2 (List.nodup_cons.2 ⟨hnew, h.nodup⟩)

theorem step {e : SignalingEvent} (h : Apart n s) (hs : s.step parse dump e = some s') :
    Apart n s' := by
  have hturn := h.inTurn.step hs
  have hproduce : ∀ act, (act = .producer ∨ ∃ address, act = .allocate address) →
      s.produce act = some s' → Apart n s' := by
    intro act hact hs
    unfold SignalingServer.produce at hs
    split at hs
    · rename_i k hphase
      obtain ⟨q, hq, rfl⟩ := Option.map_eq_some_iff.1 hs
      have hk : k < s.workerNum := h.inTurn.within k (by rw [hphase]; rfl)
      exact h.of_subperm hturn (setWorker_subperm hk (produce_descriptors hact hq))
    · cases hs
  cases e with
  | accept fd => exact h.accept hturn hs
  | produce address =>
    cases address with
    | none => exact hproduce _ (.inl rfl) hs
    | some address => exact hproduce _ (.inr ⟨address, rfl⟩) hs
  | notify =>
    simp only [SignalingServer.step, SignalingServer.notify] at hs
    split at hs
    · rename_i k hphase
      obtain ⟨w, hw, rfl⟩ := Option.map_eq_some_iff.1 hs
      have hk : k < s.workerNum := h.inTurn.within k (by rw [hphase]; rfl)
      exact h.of_subperm hturn (setWorker_subperm hk (post_descriptors hw))
    · cases hs
  | quit =>
    simp only [SignalingServer.step, SignalingServer.quit] at hs
    split at hs
    · obtain rfl := Option.some.inj hs
      exact ⟨hturn, h.nodup⟩
    · cases hs
  | stop =>
    simp only [SignalingServer.step, SignalingServer.stop] at hs
    split at hs
    · rename_i k hphase
      obtain ⟨w, hw, rfl⟩ := Option.map_eq_some_iff.1 hs
      have hk : k < s.workerNum := h.inTurn.within k (by rw [hphase]; rfl)
      exact h.of_subperm hturn (setWorker_subperm hk (post_descriptors hw))
    · cases hs
  | join =>
    simp only [SignalingServer.step, SignalingServer.join] at hs
    split at hs
    · split at hs
      · obtain rfl := Option.some.inj hs
        exact ⟨hturn, h.nodup⟩
      · cases hs
    · cases hs
  | post k =>
    exact h.inWorker (f := fun w => w.post .RTC_MSG) hturn hs fun _ _ _ _ hw => post_descriptors hw
  | wake k => exact h.inWorker hturn hs fun _ _ _ _ hw => wake_descriptors hw
  | consume k => exact h.inWorker hturn hs fun _ _ _ _ hw => consume_descriptors hw
  | newConn k addr io timer =>
    exact h.inWorker (f := fun w => w.newConn parse dump addr io timer) hturn hs
      fun _ _ _ hD hw => hD.newConn_descriptors hw
  | rtcMsg k popped =>
    exact h.inWorker (f := fun w => w.rtcMsg parse dump popped) hturn hs
      fun _ _ _ _ hw => rtcMsg_descriptors hw
  | callback k e =>
    exact h.inWorker (f := fun w => w.callback parse dump e) hturn hs
      fun _ _ _ _ hw => callback_descriptors hw
  | finish k => exact h.inWorker hturn hs fun _ _ _ _ hw => finish_descriptors hw

end Apart

namespace Apart

/-- What a worker is about to open is not open there. -/
theorem not_open (h : Apart n s) {fd : ℤ} (hk : k < n)
    (hphase : (s.workers k).phase = .opening (some fd)) :
    fd ∉ (s.workers k).thread.worker.openFds := by
  obtain rfl := h.inTurn.num
  obtain ⟨rest, hflight, -⟩ := (h.inTurn.workers k hk).inFlight_eq hphase
  have hown := (List.nodup_flatMap.1 h.nodup).1 k (List.mem_range.2 hk)
  rw [WorkerThread.descriptors, hflight] at hown
  intro hmem
  exact (List.nodup_append.1 hown).2.2 fd List.mem_cons_self fd hmem rfl

end Apart

end Server

end XrtcServer
