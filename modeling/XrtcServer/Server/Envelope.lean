import Mathlib.Tactic.Common
import XrtcServer.Common.Run
import XrtcServer.Server.OneRequest
import XrtcServer.Server.Model.Worker
/-!
# The return envelope

A message carries the fd and the address of the connection whose request
made it, and `_response_server_offer` queues the reply on the connection
that has both. `Post` follows a worker's runs with what no code sees: which
object is at an address, by its birth, and of which birth each message not
yet answered is. The check is right as long as the fd and the address of a
message's connection are not both given to one new connection.
-/

namespace XrtcServer

namespace Server

open SignalingWorker

/-- A worker and its messages on their way, each with the birth of the
connection that made it. -/
structure Post where
  worker : SignalingWorker
  /-- The birth of the object last made at an address. -/
  birth : ℕ → ℕ := fun _ => 0
  births : ℕ := 0
  inFlight : List (RtcMsg × ℕ) := []

/-- What happens to a worker. A response is one to a message on its way,
with the `sdp` and `err_no` the RTC worker gave it. -/
inductive PostEvent where
  | newConn (fd : ℤ) (addr : ℕ)
  | read (fd : ℤ) (now fuel : ℕ) (data : List UInt8)
  | write (fd : ℤ) (results : List ℤ)
  | timeout (addr now : ℕ)
  | response (i : ℕ) (sdp : String) (errNo : ℤ) (block : Option (List UInt8))

variable (parse : List UInt8 → Except JsonException Json) (dump : Json → List UInt8)

/-- The birth of the connection an fd has. -/
def Post.birthAt (s : Post) (fd : ℤ) : ℕ := ((s.worker.connAt fd).map s.birth).getD 0

def Post.step (s : Post) : PostEvent → Option Post
  | .newConn fd addr =>
    (s.worker.step parse dump (.newConn fd addr)).map fun r =>
      { s with worker := r.1, birth := Function.update s.birth addr s.births,
               births := s.births + 1 }
  | .read fd now fuel data =>
    (s.worker.step parse dump (.read fd now fuel data)).map fun r =>
      { s with worker := r.1,
               inFlight := s.inFlight ++ r.2.map fun msg => (msg, s.birthAt fd) }
  | .write fd results =>
    (s.worker.step parse dump (.write fd results)).map fun r => { s with worker := r.1 }
  | .timeout addr now =>
    (s.worker.step parse dump (.timeout addr now)).map fun r => { s with worker := r.1 }
  | .response i sdp errNo block =>
    (s.inFlight[i]?).bind fun p =>
      (s.worker.step parse dump (.response { p.1 with sdp := sdp, errNo := errNo } block)).map
        fun r => { s with worker := r.1, inFlight := s.inFlight.eraseIdx i }

/-! ## What a connection's calls keep -/

variable {parse dump} {worker addr fuel now : ℕ} {data : List UInt8} {c : TcpConnection}

theorem addReply_fd (r : Slice) : (addReply r c).fd = c.fd := rfl

theorem writeStep_frame (reply : Slice) (n : ℕ) (c : TcpConnection) :
    ∃ replies pos, writeStep reply n c = { c with replyList := replies, curRespPos := pos } := by
  unfold writeStep
  split <;> exact ⟨_, _, rfl⟩

/-- **Writing touches the replies only**, and the watcher where it stops it. -/
theorem writeQuery_frame (results : List ℤ) (c : TcpConnection) (accepted : List UInt8) :
    ∃ replies pos watcher,
      (watcher = c.ioWatcher ∨ watcher = c.ioWatcher.stopIoEvent c.fd .WRITE) ∧
      (writeQuery results c accepted).1 =
        { c with replyList := replies, curRespPos := pos, ioWatcher := watcher } := by
  induction results generalizing c accepted with
  | nil =>
    unfold writeQuery
    split
    · exact ⟨_, _, _, .inr rfl, rfl⟩
    · exact ⟨_, _, _, .inl rfl, rfl⟩
  | cons n results ih =>
    unfold writeQuery
    split
    · exact ⟨_, _, _, .inr rfl, rfl⟩
    · rename_i reply replies _
      dsimp only
      split
      · exact ⟨_, _, _, .inl rfl, rfl⟩
      · split
        · exact ih c accepted
        · obtain ⟨replies', pos, hstep⟩ := writeStep_frame reply n.toNat c
          rw [hstep]
          exact ih { c with replyList := replies', curRespPos := pos } _

theorem writeQuery_fd (results : List ℤ) (c : TcpConnection) (accepted : List UInt8) :
    (writeQuery results c accepted).1.fd = c.fd := by
  obtain ⟨replies, pos, watcher, -, h⟩ := writeQuery_frame results c accepted
  rw [h]

/-- The messages of a call carry its connection. -/
structure Posted (worker addr : ℕ) (fd : ℤ) (s : QueryLoop) : Prop where
  sameFd : s.conn.fd = fd
  sent : ∀ msg ∈ s.sent, FromOrigin ⟨worker, addr, fd⟩ msg

theorem Posted.loop {fd : ℤ} {s : QueryLoop} (h : Posted worker addr fd s) (fuel : ℕ) :
    Posted worker addr fd
      (readEnd (Common.loop (queryPass parse worker addr) fuel s)).1 := by
  refine call_of_inv ?_ ?_ h fuel
  · intro t ht _ _
    exact ⟨ht.sameFd, ht.sent⟩
  · intro t p ht _ _ _
    refine ⟨ht.sameFd, fun msg hmsg => ?_⟩
    rcases List.mem_append.1 hmsg with hmsg | hmsg
    · exact ht.sent msg hmsg
    · rw [requestOn, ht.sameFd] at hmsg
      exact processRequest_sent hmsg

/-- **A read keeps the fd, and its messages carry the connection.** -/
theorem readQuery_posted (parse : List UInt8 → Except JsonException Json)
    (worker addr fuel now : ℕ) (data : List UInt8) (c : TcpConnection) :
    Posted worker addr c.fd (readQuery parse worker addr fuel now data c).1 := by
  have hstart : ∀ c' : TcpConnection, c'.fd = c.fd → Posted worker addr c.fd { conn := c' } :=
    fun c' hc' => ⟨hc', fun _ h => nomatch h⟩
  unfold readQuery
  by_cases hd : data = []
  · rw [if_pos hd]
    exact hstart _ rfl
  · rw [if_neg hd]
    by_cases hq : qbLen { c with lastInteraction := now } < 0
    · simp only [if_pos hq]
      exact hstart _ rfl
    · simp only [if_neg hq]
      refine Posted.loop (hstart _ ?_) fuel
      rfl

/-! ## The table -/

/-- Growing the vector adds null pointers only. -/
theorem getElem?_grow (conns : List (Option ℕ)) (k i : ℕ) :
    ((conns ++ List.replicate k none)[i]?).join = (conns[i]?).join := by
  rcases Nat.lt_or_ge i conns.length with hlt | hge
  · rw [List.getElem?_append_left hlt]
  · rw [List.getElem?_append_right hge, List.getElem?_eq_none hge]
    rw [List.getElem?_replicate]
    split <;> rfl

/-- Writing one place of the vector. -/
theorem getElem?_set_join (conns : List (Option ℕ)) {i j : ℕ} (o : Option ℕ)
    (hi : i < conns.length ∨ o = none) :
    ((conns.set i o)[j]?).join = if j = i then o else (conns[j]?).join := by
  by_cases hji : j = i
  · subst hji
    rw [if_pos rfl, List.getElem?_set_self']
    rcases hi with hi | rfl
    · simp [hi]
    · cases conns[j]? <;> rfl
  · rw [if_neg hji, List.getElem?_set_ne (Ne.symm hji)]

/-- The table after a fd has been given a connection. -/
theorem connAt_newConn (w : SignalingWorker) {fd fd' : ℤ} (hfd : 0 < fd) :
    (w.newConn fd addr).connAt fd' = if fd' = fd then some addr else w.connAt fd' := by
  unfold newConn
  rw [if_neg (by omega)]
  unfold connAt
  dsimp only
  by_cases hneg : 0 ≤ fd'
  · have hiff : fd'.toNat = fd.toNat ↔ fd' = fd := by omega
    rw [if_pos hneg, if_pos hneg, getElem?_set_join]
    · simp only [hiff]
      refine ite_congr rfl (fun _ => rfl) fun _ => ?_
      split
      · exact getElem?_grow _ _ _
      · rfl
    · left
      split
      · rw [List.length_append, List.length_replicate]
        split <;> split <;> omega
      · omega
  · rw [if_neg hneg, if_neg hneg, if_neg (by omega)]

theorem connAt_closeConn (w : SignalingWorker) {fd : ℤ} (hc : 0 ≤ c.fd) :
    (w.closeConn addr c).connAt fd = if fd = c.fd then none else w.connAt fd := by
  unfold closeConn connAt
  dsimp only
  by_cases hneg : 0 ≤ fd
  · have hiff : fd.toNat = c.fd.toNat ↔ fd = c.fd := by omega
    rw [if_pos hneg, if_pos hneg, getElem?_set_join _ _ (Or.inr rfl)]
    simp only [hiff]
  · rw [if_neg hneg, if_neg hneg, ite_self]

/-- Live connections have positive fds, and an entry of `_tcp_conns` is a
live connection with that fd. -/
structure TableSound (w : SignalingWorker) : Prop where
  live : ∀ addr c, w.heap addr = some c → 0 < c.fd
  entry : ∀ fd addr, w.connAt fd = some addr → ∃ c, w.heap addr = some c ∧ c.fd = fd

section Table

variable {w : SignalingWorker} {c' : TcpConnection}

theorem TableSound.setConn (h : TableSound w) (hc : w.heap addr = some c) (hfd : c'.fd = c.fd) :
    TableSound (w.setConn addr c') where
  live a d hd := by
    by_cases ha : a = addr
    · subst ha
      obtain rfl : c' = d := by simpa [SignalingWorker.setConn] using hd
      rw [hfd]
      exact h.live a c hc
    · exact h.live a d (by simpa [SignalingWorker.setConn, ha] using hd)
  entry fd a he := by
    obtain ⟨d, hd, hdfd⟩ := h.entry fd a he
    by_cases ha : a = addr
    · subst ha
      obtain rfl : c = d := Option.some.inj (hc.symm.trans hd)
      exact ⟨c', by simp [SignalingWorker.setConn], hfd.trans hdfd⟩
    · exact ⟨d, by simpa [SignalingWorker.setConn, ha] using hd, hdfd⟩

theorem TableSound.closeConn (h : TableSound w) (hc : w.heap addr = some c)
    (hfd : c'.fd = c.fd) : TableSound (w.closeConn addr c') where
  live a d hd := by
    by_cases ha : a = addr
    · simp [SignalingWorker.closeConn, ha] at hd
    · exact h.live a d (by simpa [SignalingWorker.closeConn, ha] using hd)
  entry fd a he := by
    have hpos := h.live addr c hc
    rw [connAt_closeConn w (by omega)] at he
    split at he
    · cases he
    · rename_i hne
      obtain ⟨d, hd, hdfd⟩ := h.entry fd a he
      have ha : a ≠ addr := by
        rintro rfl
        obtain rfl : c = d := Option.some.inj (hc.symm.trans hd)
        exact hne (by rw [← hdfd, hfd])
      exact ⟨d, by simpa [SignalingWorker.closeConn, ha] using hd, hdfd⟩

theorem newConn_heap (addr : ℕ) (w : SignalingWorker) {fd : ℤ} (hfd : 0 < fd) :
    ∃ d : TcpConnection, d.fd = fd ∧ d.replyList = [] ∧
      (w.newConn fd addr).heap = Function.update w.heap addr (some d) := by
  unfold newConn
  rw [if_neg (by omega)]
  exact ⟨_, rfl, rfl, rfl⟩

theorem TableSound.newConn (h : TableSound w) (hfree : w.heap addr = none) (fd : ℤ) :
    TableSound (w.newConn fd addr) := by
  by_cases hfd : 0 < fd
  · obtain ⟨d, hdfd, -, hheap⟩ := newConn_heap addr w hfd
    constructor
    · intro a e he
      rw [hheap] at he
      by_cases ha : a = addr
      · subst ha
        obtain rfl : d = e := by simpa using he
        omega
      · exact h.live a e (by simpa [ha] using he)
    · intro fd' a he
      rw [connAt_newConn w hfd] at he
      rw [hheap]
      split at he
      · rename_i heq
        obtain rfl := Option.some.inj he
        exact ⟨d, by simp, hdfd.trans heq.symm⟩
      · obtain ⟨e, hd, hefd⟩ := h.entry fd' a he
        have ha : a ≠ addr := by
          rintro rfl
          rw [hfree] at hd
          cases hd
        exact ⟨e, by simpa [ha] using hd, hefd⟩
  · rwa [SignalingWorker.newConn, if_pos (by omega)]

/-- What an event other than a new connection does to the connections: it
replaces one by another with its fd, closes one, or changes none. -/
inductive Touched (w : SignalingWorker) : SignalingWorker → Prop
  | none : Touched w w
  | set {addr : ℕ} {c c' : TcpConnection} (hc : w.heap addr = some c) (hfd : c'.fd = c.fd) :
      Touched w (w.setConn addr c')
  | close {addr : ℕ} {c c' : TcpConnection} (hc : w.heap addr = some c) (hfd : c'.fd = c.fd) :
      Touched w (w.closeConn addr c')

theorem Touched.tableSound {w' : SignalingWorker} (h : TableSound w) (ht : Touched w w') :
    TableSound w' := by
  cases ht with
  | none => exact h
  | set hc hfd => exact h.setConn hc hfd
  | close hc hfd => exact h.closeConn hc hfd

/-- No such event makes an object. -/
theorem Touched.heap {w' : SignalingWorker} (ht : Touched w w') {a : ℕ} {d : TcpConnection}
    (hd : w'.heap a = some d) : ∃ e, w.heap a = some e ∧ d.fd = e.fd := by
  cases ht with
  | none => exact ⟨d, hd, rfl⟩
  | @set addr c c' hc hfd =>
    by_cases ha : a = addr
    · subst ha
      obtain rfl : c' = d := by simpa [SignalingWorker.setConn] using hd
      exact ⟨c, hc, hfd⟩
    · exact ⟨d, by simpa [SignalingWorker.setConn, ha] using hd, rfl⟩
  | @close addr c c' hc hfd =>
    by_cases ha : a = addr
    · simp [SignalingWorker.closeConn, ha] at hd
    · exact ⟨d, by simpa [SignalingWorker.closeConn, ha] using hd, rfl⟩

/-! ## What each event does -/

variable {w' : SignalingWorker} {sent : List RtcMsg} {fd : ℤ}

theorem step_newConn (h : w.step parse dump (.newConn fd addr) = some (w', sent)) :
    w.heap addr = none ∧ w' = { w with openFds := fd :: w.openFds }.newConn fd addr := by
  simp only [SignalingWorker.step] at h
  split at h
  · cases h
  · rename_i hno
    obtain ⟨rfl, -⟩ := Prod.mk.inj (Option.some.inj h)
    refine ⟨?_, rfl⟩
    simpa using (not_or.1 hno).2

theorem step_read (h : w.step parse dump (.read fd now fuel data) = some (w', sent)) :
    Touched w w' ∧ ∃ addr c, w.connAt fd = some addr ∧ w.heap addr = some c ∧
      ∀ msg ∈ sent, msg.conn = some addr ∧ msg.fd = c.fd := by
  simp only [SignalingWorker.step, Option.bind_eq_some_iff] at h
  obtain ⟨addr, haddr, c, hc, h⟩ := h
  have hposted := readQuery_posted parse w.id addr fuel now data c
  split at h
  · cases h
  · generalize readQuery parse w.id addr fuel now data c = r at h hposted
    have hsent : ∀ msg ∈ r.1.sent, msg.conn = some addr ∧ msg.fd = c.fd :=
      fun msg hmsg => ⟨(hposted.sent msg hmsg).conn, (hposted.sent msg hmsg).fd⟩
    split at h
    · obtain ⟨rfl, rfl⟩ := Prod.mk.inj (Option.some.inj h)
      exact ⟨.set hc hposted.sameFd, addr, c, haddr, hc, hsent⟩
    · obtain ⟨rfl, rfl⟩ := Prod.mk.inj (Option.some.inj h)
      exact ⟨.close hc hposted.sameFd, addr, c, haddr, hc, hsent⟩
    · cases h

theorem step_write {results : List ℤ}
    (h : w.step parse dump (.write fd results) = some (w', sent)) : Touched w w' := by
  simp only [SignalingWorker.step, Option.bind_eq_some_iff] at h
  obtain ⟨addr, haddr, c, hc, h⟩ := h
  have hfd := writeQuery_fd results c []
  generalize writeQuery results c [] = r at h hfd
  split at h
  · obtain ⟨rfl, -⟩ := Prod.mk.inj (Option.some.inj h)
    exact .set hc hfd
  · obtain ⟨rfl, -⟩ := Prod.mk.inj (Option.some.inj h)
    exact .close hc hfd
  · cases h

theorem step_timeout (h : w.step parse dump (.timeout addr now) = some (w', sent)) :
    Touched w w' := by
  obtain ⟨c, hc, h⟩ := Option.map_eq_some_iff.1 h
  obtain ⟨rfl, -⟩ := Prod.mk.inj h
  unfold processTimeout
  split
  · exact .close hc rfl
  · exact .none

/-- A response adds a reply to the connection its message finds, or to
none. -/
theorem step_response {msg : RtcMsg} {block : Option (List UInt8)}
    (h : w.step parse dump (.response msg block) = some (w', sent)) :
    w' = w ∨ ∃ addr c r, w.responseConn msg = some addr ∧ w.heap addr = some c ∧
      w' = w.setConn addr (addReply r c) := by
  obtain ⟨rfl, -⟩ := Prod.mk.inj (Option.some.inj h)
  unfold processRtcMsg
  split
  · unfold responseServerOffer
    cases hconn : w.responseConn msg with
    | none => exact Or.inl rfl
    | some addr =>
      cases hc : w.heap addr with
      | none => exact Or.inl (by simp [hc])
      | some c =>
        cases block with
        | none => exact Or.inl (by simp)
        | some block =>
          refine Or.inr ⟨addr, c, responseReply c.querybuf (dump (responseRoot msg)) block, rfl, hc, ?_⟩
          simp only [hc]
  · exact Or.inl rfl

theorem responseConn_eq_some {msg : RtcMsg} :
    w.responseConn msg = some addr ↔ msg.conn = some addr ∧ w.connAt msg.fd = some addr := by
  unfold responseConn
  cases msg.conn with
  | none => simp
  | some a =>
    by_cases h : w.connAt msg.fd = some a
    · simp only [h, if_true, Option.some.injEq]
      exact ⟨fun he => ⟨he, he⟩, fun he => he.1⟩
    · simp only [if_neg h, reduceCtorEq, false_iff, not_and, Option.some.injEq]
      rintro rfl
      exact h

end Table

/-! ## The runs -/

/-- The table is sound, and a message on its way whose address and fd a
live connection both has was made by that connection. -/
structure Post.Sound (s : Post) : Prop where
  table : TableSound s.worker
  born : ∀ addr c, s.worker.heap addr = some c → s.birth addr < s.births
  past : ∀ p ∈ s.inFlight, 0 < p.1.fd ∧ p.2 < s.births
  origin : ∀ p ∈ s.inFlight, ∀ addr c, p.1.conn = some addr → s.worker.heap addr = some c →
    c.fd = p.1.fd → s.birth addr = p.2

/-- The worker `id`, without connections. -/
def Post.start (id : ℕ) (connectionTimeout : ℤ) : Post := { worker := { id, connectionTimeout } }

theorem sound_start (id : ℕ) (connectionTimeout : ℤ) : (Post.start id connectionTimeout).Sound where
  table := ⟨fun _ _ h => (nomatch h), fun fd addr h => by simp [Post.start, connAt] at h⟩
  born _ _ h := nomatch h
  past _ hp := nomatch hp
  origin _ hp := nomatch hp

/-- A reply was queued on the connection at an address. -/
def QueuedOn (w w' : SignalingWorker) (addr : ℕ) : Prop :=
  ∃ c c', w.heap addr = some c ∧ w'.heap addr = some c' ∧ c'.replyList ≠ c.replyList

/-- The response to a message queues a reply only on the connection that
made the message. -/
def OwnReply (s : Post) (e : PostEvent) (s' : Post) : Prop :=
  match e with
  | .response i _ _ _ => ∀ p addr, s.inFlight[i]? = some p →
      QueuedOn s.worker s'.worker addr → s.birth addr = p.2
  | _ => True

/-- Whichever message on its way is answered next, the connection found for
it is the one that made it. -/
def RightlyAddressed (s : Post) : Prop :=
  ∀ p ∈ s.inFlight, ∀ addr, s.worker.responseConn p.1 = some addr → s.birth addr = p.2

/-- A new connection does not get the fd and the address of a connection
that has a message on its way. -/
def NotRecycled (s : Post) (e : PostEvent) (_ : Post) : Prop :=
  match e with
  | .newConn fd addr => ∀ p ∈ s.inFlight, ¬ (p.1.conn = some addr ∧ p.1.fd = fd)
  | _ => True

variable {s s' : Post} {e : PostEvent}

theorem Post.Sound.rightlyAddressed (h : s.Sound) : RightlyAddressed s := by
  intro p hp addr hconn
  obtain ⟨hnamed, hat⟩ := responseConn_eq_some.1 hconn
  obtain ⟨c, hc, hfd⟩ := h.table.entry _ _ hat
  exact h.origin p hp addr c hnamed hc hfd

/-- Events that make no object keep messages and connections together. -/
theorem Post.Sound.touched (h : s.Sound) {w' : SignalingWorker} (ht : Touched s.worker w')
    {flight : List (RtcMsg × ℕ)} (hf : ∀ p ∈ flight, p ∈ s.inFlight) :
    Post.Sound { s with worker := w', inFlight := flight } where
  table := ht.tableSound h.table
  born addr c hc := by
    obtain ⟨d, hd, -⟩ := ht.heap hc
    exact h.born addr d hd
  past p hp := h.past p (hf p hp)
  origin p hp addr c hconn hc hfd := by
    obtain ⟨d, hd, hdfd⟩ := ht.heap hc
    exact h.origin p (hf p hp) addr d hconn hd (by rw [← hdfd, hfd])

/-- A connection that is not given what a message names keeps them
together. -/
theorem Post.Sound.newConn (h : s.Sound) {fd : ℤ}
    (hs : s.step parse dump (.newConn fd addr) = some s')
    (hn : NotRecycled s (.newConn fd addr) s') : s'.Sound := by
  obtain ⟨⟨w', sent⟩, hw, rfl⟩ := Option.map_eq_some_iff.1 hs
  obtain ⟨hfree, rfl⟩ := step_newConn hw
  have htable : TableSound { s.worker with openFds := fd :: s.worker.openFds } :=
    ⟨h.table.live, h.table.entry⟩
  -- an object at another address is there as before
  have hother : ∀ a c, a ≠ addr →
      ({ s.worker with openFds := fd :: s.worker.openFds }.newConn fd addr).heap a = some c →
      s.worker.heap a = some c := by
    intro a c ha hc
    by_cases hpos : 0 < fd
    · obtain ⟨d, -, -, hheap⟩ := newConn_heap addr
        { s.worker with openFds := fd :: s.worker.openFds } hpos
      rwa [hheap, Function.update_of_ne ha] at hc
    · rwa [SignalingWorker.newConn, if_pos (by omega)] at hc
  refine ⟨htable.newConn hfree fd, fun a c hc => ?_, fun p hp => ?_, fun p hp a c hconn hc hfd => ?_⟩
  · by_cases ha : a = addr
    · simp [ha]
    · have hlt := h.born a c (hother a c ha hc)
      simp only [Function.update_of_ne ha]
      omega
  · exact ⟨(h.past p hp).1, Nat.lt_succ_of_lt (h.past p hp).2⟩
  · by_cases ha : a = addr
    · subst ha
      have hpos := (h.past p hp).1
      have hne : p.1.fd ≠ fd := fun heq => hn p hp ⟨hconn, heq⟩
      by_cases hfdpos : 0 < fd
      · obtain ⟨d, hdfd, -, hheap⟩ := newConn_heap a
          { s.worker with openFds := fd :: s.worker.openFds } hfdpos
        dsimp only at hc
        rw [hheap, Function.update_self] at hc
        obtain rfl := Option.some.inj hc
        exact absurd (hfd.symm.trans hdfd) hne
      · dsimp only at hc
        rw [SignalingWorker.newConn, if_pos (by omega)] at hc
        exact absurd (hfree.symm.trans hc) (by simp)
    · dsimp only
      rw [Function.update_of_ne ha]
      exact h.origin p hp a c hconn (hother a c ha hc) hfd

/-- **Given both, the new connection is taken for the old one.** -/
theorem Post.Sound.recycled (h : s.Sound) {fd : ℤ}
    (hs : s.step parse dump (.newConn fd addr) = some s') (hr : RightlyAddressed s') :
    NotRecycled s (.newConn fd addr) s' := by
  obtain ⟨⟨w', sent⟩, hw, rfl⟩ := Option.map_eq_some_iff.1 hs
  obtain ⟨hfree, rfl⟩ := step_newConn hw
  rintro p hp ⟨hconn, rfl⟩
  obtain ⟨hpos, hlt⟩ := h.past p hp
  have hfound : ({ s.worker with openFds := p.1.fd :: s.worker.openFds }.newConn p.1.fd
      addr).responseConn p.1 = some addr := by
    rw [responseConn_eq_some, connAt_newConn _ hpos, if_pos rfl]
    exact ⟨hconn, rfl⟩
  have hbirth := hr p hp addr hfound
  simp only [Function.update_self] at hbirth
  omega

/-- **What one event keeps.** -/
theorem Post.Sound.step (h : s.Sound) (hs : s.step parse dump e = some s')
    (hn : NotRecycled s e s') : s'.Sound ∧ OwnReply s e s' := by
  cases e with
  | newConn fd addr => exact ⟨h.newConn hs hn, trivial⟩
  | read fd now fuel data =>
    refine ⟨?_, trivial⟩
    obtain ⟨⟨w', sent⟩, hw, rfl⟩ := Option.map_eq_some_iff.1 hs
    obtain ⟨ht, addr, c, haddr, hc, hsent⟩ := step_read hw
    have hkept := h.touched ht (fun p hp => hp)
    have hbirth : s.birthAt fd = s.birth addr := by simp [Post.birthAt, haddr]
    refine ⟨hkept.table, hkept.born, fun p hp => ?_, fun p hp a d hconn hd hfd => ?_⟩
    · rcases List.mem_append.1 hp with hp | hp
      · exact h.past p hp
      · obtain ⟨msg, hmsg, rfl⟩ := List.mem_map.1 hp
        dsimp only
        rw [(hsent msg hmsg).2, hbirth]
        exact ⟨h.table.live addr c hc, h.born addr c hc⟩
    · rcases List.mem_append.1 hp with hp | hp
      · exact hkept.origin p hp a d hconn hd hfd
      · obtain ⟨msg, hmsg, rfl⟩ := List.mem_map.1 hp
        obtain rfl : addr = a := Option.some.inj ((hsent msg hmsg).1.symm.trans hconn)
        exact hbirth.symm
  | write fd results =>
    refine ⟨?_, trivial⟩
    obtain ⟨⟨w', sent⟩, hw, rfl⟩ := Option.map_eq_some_iff.1 hs
    exact h.touched (step_write hw) (fun p hp => hp)
  | timeout addr now =>
    refine ⟨?_, trivial⟩
    obtain ⟨⟨w', sent⟩, hw, rfl⟩ := Option.map_eq_some_iff.1 hs
    exact h.touched (step_timeout hw) (fun p hp => hp)
  | response i sdp errNo block =>
    obtain ⟨p, hp, hs⟩ := Option.bind_eq_some_iff.1 hs
    obtain ⟨⟨w', sent⟩, hw, rfl⟩ := Option.map_eq_some_iff.1 hs
    rcases step_response hw with rfl | ⟨addr, c, r, hconn, hc, rfl⟩
    · refine ⟨h.touched .none fun q hq => List.mem_of_mem_eraseIdx hq, ?_⟩
      rintro q a - ⟨d, d', hd, hd', hne⟩
      obtain rfl : d = d' := Option.some.inj (hd.symm.trans hd')
      exact absurd rfl hne
    · refine ⟨h.touched (.set hc (addReply_fd r)) fun q hq => List.mem_of_mem_eraseIdx hq, ?_⟩
      rintro q a hq ⟨d, d', hd, hd', hne⟩
      obtain rfl : p = q := Option.some.inj (hp.symm.trans hq)
      have ha : a = addr := by
        by_contra ha
        have hsame : s.worker.heap a = some d' := by
          simpa [SignalingWorker.setConn, ha] using hd'
        exact hne (by rw [Option.some.inj (hd.symm.trans hsame)])
      subst ha
      exact h.rightlyAddressed p (List.mem_of_getElem? hp) a hconn

/-- **Replies go to the connections that asked for them in exactly the runs
in which no new connection is given the fd and the address that a message
on its way names.** -/
theorem ownReply_iff (parse : List UInt8 → Except JsonException Json)
    (dump : Json → List UInt8) (id : ℕ) (connectionTimeout : ℤ) (es : List PostEvent) :
    Common.EveryStep (Post.step parse dump) (fun s e s' => OwnReply s e s' ∧ RightlyAddressed s')
        (Post.start id connectionTimeout) es ↔
      Common.EveryStep (Post.step parse dump) NotRecycled (Post.start id connectionTimeout) es := by
  have hstep : ∀ s e s', Post.Sound s → s.step parse dump e = some s' →
      (OwnReply s e s' ∧ RightlyAddressed s' ↔ NotRecycled s e s') := by
    intro s e s' h hs
    constructor
    · rintro ⟨-, hr⟩
      cases e with
      | newConn fd addr => exact h.recycled hs hr
      | _ => trivial
    · intro hn
      exact ⟨(h.step hs hn).2, (h.step hs hn).1.rightlyAddressed⟩
  refine Common.everyStep_iff_of_inv (I := Post.Sound) hstep ?_ (sound_start id connectionTimeout)
  intro s e s' h hs hp
  exact (h.step hs ((hstep s e s' h hs).1 hp)).1

/-- A client sends a request and closes; the next connection gets its fd and
its address. -/
def recycledRun : List PostEvent :=
  [.newConn 7 100, .read 7 0 3 (sampleHead [37, 0, 0, 0]), .read 7 0 3 stopText, .read 7 0 3 [],
    .newConn 7 100]

/-- The text of a response to a request that succeeds without an offer. -/
def dumpSuccess (_ : Json) : List UInt8 :=
  [123, 34, 101, 114, 114, 95, 109, 115, 103, 34, 58, 34, 115, 117, 99, 99, 101, 115, 115, 34,
    44, 34, 101, 114, 114, 110, 111, 34, 58, 48, 44, 34, 111, 102, 102, 101, 114, 34, 58, 34,
    34, 125]

/-- **The reply to a closed connection goes to the next one.** -/
theorem reply_to_next_connection :
    ¬ Common.EveryStep (Post.step parseStop dumpSuccess) OwnReply (Post.start 0 5000000)
      (recycledRun ++ [.response 0 "" 0 (some [])]) := by
  intro h
  have hbefore : (Common.run (Post.step parseStop dumpSuccess) (Post.start 0 5000000)
      recycledRun).map (fun s => (s.inFlight.map Prod.snd, s.birth 100,
        (s.worker.heap 100).map fun c => c.replyList.length)) = some ([0], 1, some 0) := by
    decide +kernel
  have hafter : (Common.run (Post.step parseStop dumpSuccess) (Post.start 0 5000000)
      (recycledRun ++ [.response 0 "" 0 (some [])])).map (fun s =>
        (s.worker.heap 100).map fun c => c.replyList.length) = some (some 1) := by
    decide +kernel
  obtain ⟨t, ht, hobs⟩ := Option.map_eq_some_iff.1 hbefore
  obtain ⟨t', ht', hobs'⟩ := Option.map_eq_some_iff.1 hafter
  simp only [Prod.mk.injEq] at hobs
  obtain ⟨hflight, hbirth, hheap⟩ := hobs
  obtain ⟨p, hp, hp0⟩ := List.map_eq_singleton_iff.1 hflight
  obtain ⟨c, hc, hlen⟩ := Option.map_eq_some_iff.1 hheap
  obtain ⟨c', hc', hlen'⟩ := Option.map_eq_some_iff.1 hobs'
  rw [Common.run_append, ht, Option.bind_some, Common.run_cons, Option.bind_eq_some_iff] at ht'
  obtain ⟨u, hu, hrest⟩ := ht'
  obtain rfl := Option.some.inj hrest
  have hown := Common.everyStep_last h ht hu p 100 (by rw [hp]; rfl)
    ⟨c, c', hc, hc', fun heq => by rw [heq, hlen] at hlen'; cases hlen'⟩
  omega

end Server

end XrtcServer
