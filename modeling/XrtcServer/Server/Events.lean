import XrtcServer.Server.Envelope
/-!
# What an event does to the connections

Every event of a worker says what becomes of the objects in its heap
(`Happens`): a new one, one replaced by what its callback makes of it, one
deleted, or none touched. What the callbacks keep of a connection is then
kept by the worker.
-/

namespace XrtcServer

namespace Server

open Base SignalingWorker

variable {parse : List UInt8 → Except JsonException Json} {dump : Json → List UInt8}
variable {w w' : SignalingWorker} {e : WorkerEvent} {sent : List RtcMsg} {c : TcpConnection}

/-- **What an event does**, by the callback. -/
inductive Happens (parse : List UInt8 → Except JsonException Json) (w w' : SignalingWorker) :
    WorkerEvent → List RtcMsg → Prop
  | refused {fd : ℤ} {addr : ℕ} (hfree : w.heap addr = none) (hheap : w'.heap = w.heap) :
    Happens parse w w' (.newConn fd addr) []
  | opened {fd : ℤ} {addr : ℕ} {d : TcpConnection} (hfree : w.heap addr = none)
    (hd : d = { fd := fd, ioWatcher := IOWatcher.startIoEvent {} fd .READ })
    (hheap : w'.heap = Function.update w.heap addr (some d)) :
    Happens parse w w' (.newConn fd addr) []
  | kept {fd : ℤ} {addr now fuel : ℕ} {data : List UInt8} {c : TcpConnection}
    (haddr : w.connAt fd = some addr) (hc : w.heap addr = some c)
    (hheap : w'.heap = Function.update w.heap addr
      (some (readQuery parse w.id addr fuel now data c).1.conn)) :
    Happens parse w w' (.read fd now fuel data) (readQuery parse w.id addr fuel now data c).1.sent
  | readClosed {fd : ℤ} {addr now fuel : ℕ} {data : List UInt8} {c : TcpConnection}
    (haddr : w.connAt fd = some addr) (hc : w.heap addr = some c)
    (hheap : w'.heap = Function.update w.heap addr none) :
    Happens parse w w' (.read fd now fuel data) (readQuery parse w.id addr fuel now data c).1.sent
  | wrote {fd : ℤ} {addr : ℕ} {results : List ℤ} {c : TcpConnection}
    (haddr : w.connAt fd = some addr) (hc : w.heap addr = some c)
    (hheap : w'.heap = Function.update w.heap addr (some (writeQuery results c []).1)) :
    Happens parse w w' (.write fd results) []
  | writeClosed {fd : ℤ} {addr : ℕ} {results : List ℤ} {c : TcpConnection}
    (haddr : w.connAt fd = some addr) (hc : w.heap addr = some c)
    (hheap : w'.heap = Function.update w.heap addr none) :
    Happens parse w w' (.write fd results) []
  | timeout {addr now : ℕ} {c : TcpConnection} (hc : w.heap addr = some c)
    (hw : w' = w.processTimeout now addr c) : Happens parse w w' (.timeout addr now) []
  | unanswered {msg : RtcMsg} {block : Option (List UInt8)} (hheap : w'.heap = w.heap) :
    Happens parse w w' (.response msg block) []
  | answered {msg : RtcMsg} {block : Option (List UInt8)} {addr : ℕ} {c : TcpConnection}
    {reply : Slice} (hc : w.heap addr = some c)
    (hheap : w'.heap = Function.update w.heap addr (some (addReply reply c))) :
    Happens parse w w' (.response msg block) []

theorem step_happens (h : w.step parse dump e = some (w', sent)) : Happens parse w w' e sent := by
  cases e with
  | newConn fd addr =>
    obtain ⟨hfree, rfl⟩ := step_newConn h
    simp only [SignalingWorker.step] at h
    split at h
    · cases h
    · obtain ⟨-, rfl⟩ := Prod.mk.inj (Option.some.inj h)
      by_cases hfd : fd ≤ 0
      · exact .refused hfree (by rw [newConn, if_pos hfd])
      · exact .opened hfree rfl (by rw [newConn, if_neg hfd]; rfl)
  | read fd now fuel data =>
    simp only [SignalingWorker.step, Option.bind_eq_some_iff] at h
    obtain ⟨addr, haddr, c, hc, h⟩ := h
    split at h
    · cases h
    · split at h
      · obtain ⟨rfl, rfl⟩ := Prod.mk.inj (Option.some.inj h)
        exact .kept haddr hc rfl
      · obtain ⟨rfl, rfl⟩ := Prod.mk.inj (Option.some.inj h)
        exact .readClosed haddr hc rfl
      · cases h
  | write fd results =>
    simp only [SignalingWorker.step, Option.bind_eq_some_iff] at h
    obtain ⟨addr, haddr, c, hc, h⟩ := h
    split at h
    · obtain ⟨rfl, rfl⟩ := Prod.mk.inj (Option.some.inj h)
      exact .wrote haddr hc rfl
    · obtain ⟨rfl, rfl⟩ := Prod.mk.inj (Option.some.inj h)
      exact .writeClosed haddr hc rfl
    · cases h
  | timeout addr now =>
    obtain ⟨c, hc, h⟩ := Option.map_eq_some_iff.1 h
    obtain ⟨rfl, rfl⟩ := Prod.mk.inj h
    exact .timeout hc rfl
  | response msg block =>
    have hsent : sent = [] := ((Prod.mk.inj (Option.some.inj h)).2).symm
    subst hsent
    rcases step_response h with rfl | ⟨addr, c, reply, -, hc, rfl⟩
    · exact .unanswered rfl
    · exact .answered hc rfl

/-! ## What the callbacks keep -/

variable {addr : ℕ}

theorem update_some {heap : ℕ → Option TcpConnection} {a : ℕ} {d d' : TcpConnection}
    (h : Function.update heap addr (some d') a = some d) :
    (a = addr ∧ d = d') ∨ (a ≠ addr ∧ heap a = some d) := by
  by_cases ha : a = addr
  · subst ha
    rw [Function.update_self] at h
    exact .inl ⟨rfl, (Option.some.inj h).symm⟩
  · rw [Function.update_of_ne ha] at h
    exact .inr ⟨ha, h⟩

theorem update_none {heap : ℕ → Option TcpConnection} {a : ℕ} {d : TcpConnection}
    (h : Function.update heap addr none a = some d) : a ≠ addr ∧ heap a = some d := by
  by_cases ha : a = addr
  · subst ha
    rw [Function.update_self] at h
    cases h
  · rw [Function.update_of_ne ha] at h
    exact ⟨ha, h⟩

/-- **Writing leaves the reading side as it is.** -/
theorem writeQuery_keeps (results : List ℤ) (c : TcpConnection) (accepted : List UInt8) :
    (writeQuery results c accepted).1.querybuf = c.querybuf ∧
      (writeQuery results c accepted).1.lastInteraction = c.lastInteraction ∧
      (writeQuery results c accepted).1.currentState = c.currentState ∧
      (writeQuery results c accepted).1.bytesProcessed = c.bytesProcessed := by
  obtain ⟨replies, pos, watcher, -, h⟩ := writeQuery_frame results c accepted
  rw [h]
  exact ⟨rfl, rfl, rfl, rfl⟩

/-- A read sets the time of the last interaction. -/
theorem readQuery_lastInteraction (parse : List UInt8 → Except JsonException Json)
    (worker addr fuel now : ℕ) (data : List UInt8) (c : TcpConnection) :
    (readQuery parse worker addr fuel now data c).1.conn.lastInteraction = now := by
  unfold readQuery
  dsimp only
  split
  · rfl
  · split
    · rfl
    · exact call_of_inv (I := fun s => s.conn.lastInteraction = now) (fun _ h _ _ => h)
        (fun _ _ h _ _ _ => h) rfl fuel

/-- What a connection after an event was before it. -/
inductive Comes (parse : List UInt8 → Except JsonException Json) (w : SignalingWorker) (a : ℕ)
    (d : TcpConnection) : WorkerEvent → Prop
  | new {fd : ℤ} {addr : ℕ}
    (hd : d = { fd := fd, ioWatcher := IOWatcher.startIoEvent {} fd .READ }) :
    Comes parse w a d (.newConn fd addr)
  | same {e : WorkerEvent} (hd : w.heap a = some d) : Comes parse w a d e
  | read {fd : ℤ} {now fuel : ℕ} {data : List UInt8} {c : TcpConnection}
    (hc : w.heap a = some c) (hd : d = (readQuery parse w.id a fuel now data c).1.conn) :
    Comes parse w a d (.read fd now fuel data)
  | written {fd : ℤ} {results : List ℤ} {c : TcpConnection} (hc : w.heap a = some c)
    (hd : d = (writeQuery results c []).1) : Comes parse w a d (.write fd results)
  | answered {msg : RtcMsg} {block : Option (List UInt8)} {c : TcpConnection} {reply : Slice}
    (hc : w.heap a = some c) (hd : d = addReply reply c) :
    Comes parse w a d (.response msg block)

theorem Happens.comes (h : Happens parse w w' e sent) {a : ℕ} {d : TcpConnection}
    (hd : w'.heap a = some d) : Comes parse w a d e := by
  cases h with
  | refused _ hheap => exact .same (hheap ▸ hd)
  | opened _ hnew hheap =>
    rw [hheap] at hd
    rcases update_some hd with ⟨-, rfl⟩ | ⟨-, hold⟩
    · exact .new hnew
    · exact .same hold
  | kept _ hc hheap =>
    rw [hheap] at hd
    rcases update_some hd with ⟨rfl, hafter⟩ | ⟨-, hold⟩
    · exact .read hc hafter
    · exact .same hold
  | readClosed _ _ hheap =>
    rw [hheap] at hd
    exact .same (update_none hd).2
  | wrote _ hc hheap =>
    rw [hheap] at hd
    rcases update_some hd with ⟨rfl, hafter⟩ | ⟨-, hold⟩
    · exact .written hc hafter
    · exact .same hold
  | writeClosed _ _ hheap =>
    rw [hheap] at hd
    exact .same (update_none hd).2
  | timeout _ hw =>
    subst hw
    unfold processTimeout at hd
    split at hd
    · exact .same (update_none hd).2
    · exact .same hd
  | unanswered hheap => exact .same (hheap ▸ hd)
  | answered hc hheap =>
    rw [hheap] at hd
    rcases update_some hd with ⟨rfl, hafter⟩ | ⟨-, hold⟩
    · exact .answered hc hafter
    · exact .same hold

/-- **Only a read touches the reading side** of a connection that was there. -/
theorem Happens.reading (h : Happens parse w w' e sent) (hnew : ∀ fd addr, e ≠ .newConn fd addr)
    (hread : ∀ fd now fuel data, e ≠ .read fd now fuel data) {a : ℕ} {d : TcpConnection}
    (hd : w'.heap a = some d) : ∃ c, w.heap a = some c ∧ d.querybuf = c.querybuf ∧
      d.lastInteraction = c.lastInteraction ∧ d.currentState = c.currentState ∧
      d.bytesProcessed = c.bytesProcessed := by
  cases h.comes hd with
  | new => exact absurd rfl (hnew _ _)
  | same hd => exact ⟨d, hd, rfl, rfl, rfl, rfl⟩
  | read => exact absurd rfl (hread _ _ _ _)
  | written hc hd =>
    subst hd
    exact ⟨_, hc, writeQuery_keeps _ _ []⟩
  | answered hc hd =>
    subst hd
    exact ⟨_, hc, rfl, rfl, rfl, rfl⟩

theorem step_connectionTimeout (h : w.step parse dump e = some (w', sent)) :
    w'.connectionTimeout = w.connectionTimeout := by
  cases e with
  | newConn fd addr =>
    obtain ⟨-, rfl⟩ := step_newConn h
    unfold newConn
    split <;> rfl
  | read fd now fuel data =>
    cases (step_read h).1 <;> rfl
  | write fd results =>
    cases step_write h <;> rfl
  | timeout addr now =>
    cases step_timeout h <;> rfl
  | response msg block =>
    rcases step_response h with rfl | ⟨addr, c, reply, -, -, rfl⟩ <;> rfl

end Server

end XrtcServer
