import XrtcServer.Common.Index
import XrtcServer.Server.Events
import XrtcServer.Server.Model.EventThread
/-!
# The table, the watchers and the timers

The three stay in step. An entry of `_tcp_conns` is a connection with that
descriptor that has not been closed, and of every such connection the loop
has registered one IO watcher and one timer, and of no other. So what the
callbacks follow is there: they are called for what is registered, and what
is registered is live.
-/

namespace XrtcServer

namespace Server

open Base Common SignalingWorker

variable {parse : List UInt8 → Except JsonException Json} {dump : Json → List UInt8}
variable {s s' : EventThread} {addr : ℕ} {c d : TcpConnection} {fd : ℤ}

/-- The watcher of a connection waits for its socket. -/
structure Watching (c : TcpConnection) : Prop where
  active : c.ioWatcher.active = true
  reads : c.ioWatcher.events.read = true
  sameFd : c.ioWatcher.fd = c.fd

/-- A connection there is has an open descriptor, within the table. -/
structure Live (s : EventThread) (c : TcpConnection) : Prop where
  pos : 0 < c.fd
  bound : c.fd.toNat < s.worker.tcpConns.length
  opened : c.fd ∈ s.worker.openFds
  watching : Watching c

/-- **The table, the watchers and the timers are in step**: each is an index
of the connections there are, which are those on the open descriptors. -/
structure InStep (s : EventThread) : Prop where
  table : IsIndex s.worker.heap (fun _ c => c.fd) (fun addr _ => addr) s.worker.connAt
  io : IsIndex s.worker.heap (fun addr _ => s.ioWatcher addr) (fun _ c => c.fd) s.ios
  timer : IsIndex s.worker.heap (fun addr _ => s.timerWatcher addr) (fun addr _ => addr) s.timers
  live : ∀ addr c, s.worker.heap addr = some c → Live s c
  once : s.worker.openFds.Nodup
  accepted : ∀ fd ∈ s.worker.openFds, 0 < fd → ∃ addr c, s.worker.heap addr = some c ∧ c.fd = fd

/-! ## The watcher of a connection -/

theorem watching_new (fd : ℤ) :
    Watching { fd := fd, ioWatcher := IOWatcher.startIoEvent {} fd .READ } :=
  ⟨rfl, rfl, rfl⟩

theorem watching_start (h : Watching c) :
    (c.ioWatcher.startIoEvent c.fd .WRITE).active = true ∧
      (c.ioWatcher.startIoEvent c.fd .WRITE).events.read = true ∧
      (c.ioWatcher.startIoEvent c.fd .WRITE).fd = c.fd := by
  unfold IOWatcher.startIoEvent
  rw [if_pos h.active]
  dsimp only
  split
  · exact ⟨h.active, h.reads, h.sameFd⟩
  · refine ⟨rfl, ?_, rfl⟩
    show (IOMask.WRITE.read || c.ioWatcher.events.read) = true
    rw [h.reads, Bool.or_true]

/-- Reading goes on where writing stops. -/
theorem watching_stop (h : Watching c) :
    (c.ioWatcher.stopIoEvent c.fd .WRITE).active = true ∧
      (c.ioWatcher.stopIoEvent c.fd .WRITE).events.read = true ∧
      (c.ioWatcher.stopIoEvent c.fd .WRITE).fd = c.fd := by
  have hread : (c.ioWatcher.events.diff .WRITE).read = true := by
    show (c.ioWatcher.events.read && !IOMask.WRITE.read) = true
    rw [h.reads]
    rfl
  unfold IOWatcher.stopIoEvent
  dsimp only
  split
  · exact ⟨h.active, h.reads, h.sameFd⟩
  · split
    · rename_i hnone
      rw [hnone] at hread
      cases hread
    · exact ⟨rfl, hread, rfl⟩

theorem writeQuery_watching (results : List ℤ) (accepted : List UInt8) (h : Watching c) :
    Watching (writeQuery results c accepted).1 := by
  obtain ⟨replies, pos, watcher, hwatcher, heq⟩ := writeQuery_frame results c accepted
  rw [heq]
  rcases hwatcher with rfl | rfl
  · exact ⟨h.active, h.reads, h.sameFd⟩
  · obtain ⟨hactive, hreads, hfd⟩ := watching_stop h
    exact ⟨hactive, hreads, hfd⟩

theorem readQuery_watching (parse : List UInt8 → Except JsonException Json)
    (worker addr fuel now : ℕ) (data : List UInt8) (h : Watching c) :
    Watching (readQuery parse worker addr fuel now data c).1.conn := by
  have hnow : Watching { c with lastInteraction := now } := ⟨h.active, h.reads, h.sameFd⟩
  unfold readQuery
  dsimp only
  split
  · exact hnow
  · split
    · exact hnow
    · refine call_of_inv (I := fun s => Watching s.conn) ?_ ?_ ?_ fuel
      · exact fun _ h _ _ => ⟨h.active, h.reads, h.sameFd⟩
      · exact fun _ _ h _ _ _ => ⟨h.active, h.reads, h.sameFd⟩
      · exact ⟨h.active, h.reads, h.sameFd⟩

/-! ## What a callback does to the connections -/

/-- Two live connections do not share their descriptor. -/
theorem InStep.eq_of_fd (h : InStep s) {addr' : ℕ} (hc : s.worker.heap addr = some c)
    (hd : s.worker.heap addr' = some d) (hfd : d.fd = c.fd) : addr' = addr :=
  h.table.val_eq hd hc hfd

theorem InStep.setConn (h : InStep s) (hc : s.worker.heap addr = some c) (hfd : d.fd = c.fd)
    (hd : Watching d) : InStep (s.setConn addr d) := by
  -- the watcher stays registered, for the same descriptor
  have hios : Function.update s.ios (s.ioWatcher addr)
      (if d.ioWatcher.active then some d.ioWatcher.fd else none) = s.ios := by
    rw [if_pos hd.active, hd.sameFd, hfd, ← h.io.lookup hc]
    exact Function.update_eq_self _ _
  refine ⟨h.table.replace hc hfd rfl, ?_, h.timer.replace hc rfl rfl, fun a e he => ?_, h.once,
    fun fd hmem hpos => ?_⟩
  · show IsIndex _ _ _ (Function.update s.ios (s.ioWatcher addr) _)
    rw [hios]
    exact h.io.replace hc rfl hfd
  · rcases update_some he with ⟨rfl, rfl⟩ | ⟨-, he⟩
    · have hlive := h.live a c hc
      exact ⟨hfd ▸ hlive.pos, hfd ▸ hlive.bound, hfd ▸ hlive.opened, hd⟩
    · have hlive := h.live a e he
      exact ⟨hlive.pos, hlive.bound, hlive.opened, hlive.watching⟩
  · obtain ⟨a, e, he, rfl⟩ := h.accepted fd hmem hpos
    by_cases ha : a = addr
    · subst ha
      obtain rfl := Option.some.inj (hc.symm.trans he)
      exact ⟨a, d, Function.update_self .., hfd⟩
    · exact ⟨a, e, (Function.update_of_ne ha ..).trans he, rfl⟩

/-- A connection that is closed is found in the table, and takes its watcher
and its timer with it. -/
theorem InStep.closeConn (h : InStep s) (hc : s.worker.heap addr = some c) (hfd : d.fd = c.fd) :
    ∃ s', s.closeConn addr d = .returned s' ∧ InStep s' := by
  have hlive := h.live addr c hc
  have hpos := hlive.pos
  have hbound := hlive.bound
  -- of the connection that is closed only the descriptor counts
  have hsame : s.worker.closeConn addr d = s.worker.closeConn addr c := by
    unfold SignalingWorker.closeConn
    rw [hfd]
  have htable : (s.worker.closeConn addr c).connAt =
      Function.update s.worker.connAt c.fd none := by
    funext fd
    rw [connAt_closeConn s.worker (by omega), Function.update_apply]
  unfold EventThread.closeConn
  rw [if_neg (by omega), hsame]
  refine ⟨_, rfl, ?_, ?_, ?_, fun a e he => ?_, h.once.erase c.fd, fun fd hmem hfdpos => ?_⟩
  · show IsIndex _ _ _ (s.worker.closeConn addr c).connAt
    rw [htable]
    exact h.table.remove hc fun _ _ _ heq => heq
  · exact h.io.remove hc fun b p hb heq => h.eq_of_fd hc hb heq
  · exact h.timer.remove hc fun _ _ _ heq => heq
  · obtain ⟨hne, he⟩ := update_none he
    have hstays := h.live a e he
    refine ⟨hstays.pos, ?_, ?_, hstays.watching⟩
    · show e.fd.toNat < (s.worker.tcpConns.set c.fd.toNat none).length
      rw [List.length_set]
      exact hstays.bound
    · have hfds : e.fd ≠ c.fd := fun heq => hne (h.eq_of_fd hc he heq)
      exact (List.mem_erase_of_ne hfds).2 hstays.opened
  · obtain ⟨hne, hmem⟩ := h.once.mem_erase_iff.1 hmem
    obtain ⟨a, e, he, rfl⟩ := h.accepted fd hmem hfdpos
    have ha : a ≠ addr := by
      rintro rfl
      obtain rfl := Option.some.inj (hc.symm.trans he)
      exact hne rfl
    exact ⟨a, e, (Function.update_of_ne ha ..).trans he, rfl⟩

theorem length_newConn (w : SignalingWorker) {fd : ℤ} (addr : ℕ) (hfd : 0 < fd) :
    fd.toNat < (w.newConn fd addr).tcpConns.length ∧
      w.tcpConns.length ≤ (w.newConn fd addr).tcpConns.length := by
  unfold SignalingWorker.newConn
  rw [if_neg (by omega)]
  dsimp only
  rw [List.length_set]
  split
  · rw [List.length_append, List.length_replicate]
    split <;> split <;> omega
  · omega

/-- A new connection, on a descriptor that was not open. -/
theorem InStep.newConn (h : InStep s) {io timer : ℕ} (hopen : fd ∉ s.worker.openFds)
    (hfree : s.worker.heap addr = none) (hio : s.ios io = none) (htimer : s.timers timer = none) :
    InStep ({ s with worker := { s.worker with openFds := fd :: s.worker.openFds } }.newConn
      fd addr io timer) := by
  have hopened : ∀ a e, s.worker.heap a = some e → e.fd ∈ fd :: s.worker.openFds :=
    fun a e he => List.mem_cons_of_mem fd (h.live a e he).opened
  unfold EventThread.newConn
  split
  · rename_i hnot
    refine ⟨h.table, h.io, h.timer, fun a e he => ?_, List.nodup_cons.2 ⟨hopen, h.once⟩,
      fun fd' hmem hpos => ?_⟩
    · have hlive := h.live a e he
      exact ⟨hlive.pos, hlive.bound, hopened a e he, hlive.watching⟩
    · have hne : fd' ≠ fd := by omega
      exact h.accepted fd' (List.mem_of_ne_of_mem hne hmem) hpos
  · rename_i hnot
    have hfd : 0 < fd := by omega
    let w : SignalingWorker := { s.worker with openFds := fd :: s.worker.openFds }
    let new : TcpConnection := { fd := fd, ioWatcher := IOWatcher.startIoEvent {} fd .READ }
    have hheap : (w.newConn fd addr).heap = Function.update s.worker.heap addr (some new) := by
      unfold SignalingWorker.newConn
      rw [if_neg hnot]
      rfl
    have hfds : (w.newConn fd addr).openFds = fd :: s.worker.openFds := by
      unfold SignalingWorker.newConn
      rw [if_neg hnot]
      rfl
    have htable : (w.newConn fd addr).connAt = Function.update s.worker.connAt fd (some addr) := by
      funext fd'
      rw [connAt_newConn w hfd, Function.update_apply]
      rfl
    -- an entry would be of a live connection, whose descriptor is open
    have hunknown : s.worker.connAt fd = none := by
      cases hat : s.worker.connAt fd with
      | none => rfl
      | some a =>
        obtain ⟨b, c, hb, rfl, -⟩ := (h.table fd a).1 hat
        exact absurd (h.live b c hb).opened hopen
    -- the addresses of the new watchers change nothing for the others
    have hold : ∀ {f : ℕ → ℕ} {x : ℕ} (a : ℕ) (c : TcpConnection), s.worker.heap a = some c →
        Function.update f addr x a = f a := by
      intro f x a c ha
      refine Function.update_of_ne ?_ ..
      rintro rfl
      rw [hfree] at ha
      cases ha
    obtain ⟨hbound, hgrows⟩ := length_newConn w addr hfd
    refine ⟨?_, ?_, ?_, fun a e he => ?_, ?_, fun fd' hmem hpos => ?_⟩
    · show IsIndex (w.newConn fd addr).heap _ _ (w.newConn fd addr).connAt
      rw [hheap, htable]
      exact h.table.insert (o := new) hfree hunknown
    · show IsIndex (w.newConn fd addr).heap _ _ _
      rw [hheap]
      have hindex := (h.io.congr fun a c ha => hold a c ha).insert (o := new) hfree
        ((congrArg s.ios (Function.update_self addr io s.ioWatcher)).trans hio)
      rw [Function.update_self] at hindex
      exact hindex
    · show IsIndex (w.newConn fd addr).heap _ _ _
      rw [hheap]
      have hindex := (h.timer.congr fun a c ha => hold a c ha).insert (o := new) hfree
        ((congrArg s.timers (Function.update_self addr timer s.timerWatcher)).trans htimer)
      rw [Function.update_self] at hindex
      exact hindex
    · have he' : Function.update s.worker.heap addr (some new) a = some e := hheap ▸ he
      rcases update_some he' with ⟨rfl, rfl⟩ | ⟨-, hea⟩
      · have hmem : fd ∈ (w.newConn fd a).openFds := by
          rw [hfds]
          exact List.mem_cons_self
        exact ⟨hfd, hbound, hmem, watching_new fd⟩
      · have hlive := h.live a e hea
        have hmem : e.fd ∈ (w.newConn fd addr).openFds := by
          rw [hfds]
          exact hopened a e hea
        exact ⟨hlive.pos, Nat.lt_of_lt_of_le hlive.bound hgrows, hmem, hlive.watching⟩
    · show (w.newConn fd addr).openFds.Nodup
      rw [hfds]
      exact List.nodup_cons.2 ⟨hopen, h.once⟩
    · show ∃ a e, (w.newConn fd addr).heap a = some e ∧ e.fd = fd'
      rw [hheap]
      by_cases hne : fd' = fd
      · exact ⟨addr, new, Function.update_self .., hne.symm⟩
      · have hmem' : fd' ∈ fd :: s.worker.openFds := hfds ▸ hmem
        obtain ⟨a, e, he, rfl⟩ := h.accepted fd' (List.mem_of_ne_of_mem hne hmem') hpos
        have ha : a ≠ addr := by
          rintro rfl
          rw [hfree] at he
          cases he
        exact ⟨a, e, (Function.update_of_ne ha ..).trans he, rfl⟩

/-! ## The callbacks -/

/-- A callback follows no bad pointer, and leaves the worker in step where it
returns. -/
def Faultless : Option CallbackEnd → Prop
  | some (.returned s) => InStep s
  | some .fault => False
  | _ => True

theorem InStep.faultless_closeConn (h : InStep s) (hc : s.worker.heap addr = some c)
    (hfd : d.fd = c.fd) : Faultless (some (s.closeConn addr d)) := by
  obtain ⟨s', hs', hin⟩ := h.closeConn hc hfd
  rw [hs']
  exact hin

/-- What is registered for a descriptor is of a connection that there is. -/
theorem InStep.registered (h : InStep s) {watcher : ℕ} (hio : s.ios watcher = some fd) :
    ∃ addr c, s.worker.heap addr = some c ∧ c.fd = fd ∧ s.worker.connAt fd = some addr := by
  obtain ⟨addr, c, hc, -, rfl⟩ := (h.io watcher fd).1 hio
  exact ⟨addr, c, hc, rfl, h.table.lookup hc⟩

theorem InStep.readQuery (h : InStep s) {watcher : ℕ} (hio : s.ios watcher = some fd)
    (now fuel : ℕ) (data : List UInt8) : Faultless (s.readQuery parse fd now fuel data) := by
  obtain ⟨addr, c, hc, rfl, hat⟩ := h.registered hio
  have hlive := h.live addr c hc
  have hpos := hlive.pos
  have hbound := hlive.bound
  have hfd := (readQuery_posted parse s.worker.id addr fuel now data c).sameFd
  have hwatching := readQuery_watching parse s.worker.id addr fuel now data hlive.watching
  unfold EventThread.readQuery
  rw [if_neg (by omega), hat]
  dsimp only
  rw [hc]
  dsimp only
  split
  · trivial
  · split
    · exact h.setConn hc hfd hwatching
    · exact h.faultless_closeConn hc hfd
    · trivial

/-- The pointer may be null: the connection may have been closed since the
event was found. -/
theorem InStep.writeQuery (h : InStep s) (fd : ℤ) (results : List ℤ) :
    Faultless (s.writeQuery fd results) := by
  unfold EventThread.writeQuery
  split
  · exact h
  · split
    · exact h
    · rename_i addr hat
      obtain ⟨a, c, hc, rfl, rfl⟩ := (h.table fd addr).1 hat
      have hfd := writeQuery_fd results c []
      have hwatching := writeQuery_watching results [] (h.live a c hc).watching
      rw [hc]
      dsimp only
      split
      · exact h.setConn hc hfd hwatching
      · exact h.faultless_closeConn hc hfd
      · trivial

theorem InStep.connIoCb (h : InStep s) {watcher : ℕ} (hio : s.ios watcher = some fd)
    (read write : Bool) (now fuel : ℕ) (data : List UInt8) (results : List ℤ) :
    Faultless (s.connIoCb parse fd read write now fuel data results) := by
  have hread : Faultless (if read then s.readQuery parse fd now fuel data
      else some (.returned s)) := by
    split
    · exact h.readQuery hio now fuel data
    · exact h
  unfold EventThread.connIoCb
  revert hread
  cases (if read then s.readQuery parse fd now fuel data else some (.returned s)) with
  | none => exact id
  | some o =>
    intro hread
    cases o with
    | returned s' =>
      -- the reading half may have closed the connection
      show Faultless (if write then s'.writeQuery fd results else some (.returned s'))
      split
      · exact InStep.writeQuery hread fd results
      · exact hread
    | fault => exact hread
    | lost => trivial

theorem InStep.connTimerCb (h : InStep s) {watcher : ℕ} (htimer : s.timers watcher = some addr)
    (now : ℕ) : Faultless (some (s.connTimerCb addr now)) := by
  obtain ⟨a, c, hc, -, rfl⟩ := (h.timer watcher addr).1 htimer
  unfold EventThread.connTimerCb
  rw [hc]
  dsimp only
  split
  · exact h.faultless_closeConn hc rfl
  · exact h

/-- A response is for the connection that the table has. -/
theorem InStep.processRtcMsg (h : InStep s) (msg : RtcMsg) (block : Option (List UInt8)) :
    Faultless (some (s.processRtcMsg dump msg block)) := by
  unfold EventThread.processRtcMsg
  split
  · split
    · exact h
    · rename_i addr hconn
      obtain ⟨-, hat⟩ := responseConn_eq_some.1 hconn
      obtain ⟨a, c, hc, -, rfl⟩ := (h.table msg.fd addr).1 hat
      unfold EventThread.addReplyTo
      rw [hc]
      dsimp only
      split
      · exact h
      · obtain ⟨hactive, hreads, hfd⟩ := watching_start (h.live a c hc).watching
        exact h.setConn hc rfl ⟨hactive, hreads, hfd⟩
  · exact h

/-- **One callback.** -/
theorem InStep.callback (h : InStep s) (parse : List UInt8 → Except JsonException Json)
    (dump : Json → List UInt8) (e : LoopEvent) : Faultless (s.callback parse dump e) := by
  cases e with
  | newConn fd addr io timer =>
    show Faultless (if _ then none else some _)
    split
    · trivial
    · rename_i hfree
      rw [not_or, not_or, not_or, Option.not_isSome_iff_eq_none, Option.not_isSome_iff_eq_none,
        Option.not_isSome_iff_eq_none] at hfree
      obtain ⟨hopen, haddr, hio, htimer⟩ := hfree
      exact h.newConn hopen haddr hio htimer
  | io watcher read write now fuel data results =>
    show Faultless ((s.ios watcher).bind _)
    cases hio : s.ios watcher with
    | none => trivial
    | some fd => exact h.connIoCb hio read write now fuel data results
  | timer watcher now =>
    show Faultless ((s.timers watcher).map _)
    cases htimer : s.timers watcher with
    | none => trivial
    | some addr => exact h.connTimerCb htimer now
  | response msg block => exact h.processRtcMsg msg block

theorem InStep.step (h : InStep s) {e : LoopEvent} (he : s.step parse dump e = some s') :
    InStep s' := by
  have hfaultless := h.callback parse dump e
  unfold EventThread.step at he
  split at he
  · rename_i t hcall
    obtain rfl := Option.some.inj he
    rw [hcall] at hfaultless
    exact hfaultless
  · cases he

theorem inStep_start (id : ℕ) (timeout : ℤ) : InStep (.start id timeout) := by
  have hat : (EventThread.start id timeout).worker.connAt = fun _ => none := by
    funext fd
    unfold SignalingWorker.connAt
    split <;> rfl
  refine ⟨?_, IsIndex.empty, IsIndex.empty, fun _ _ he => ?_, List.nodup_nil, fun _ hmem _ => ?_⟩
  · rw [hat]
    exact IsIndex.empty
  · cases he
  · cases hmem

/-! ## Every run -/

/-- The table has the connections on the descriptors accepted and not yet
closed, each under its own and within the bounds. Of each of them one IO
watcher and one timer are registered, and none of another. -/
structure Consistent (s : EventThread) : Prop where
  table : ∀ fd addr, s.worker.connAt fd = some addr ↔
    ∃ c, s.worker.heap addr = some c ∧ c.fd = fd
  accepted : ∀ fd, (s.worker.connAt fd).isSome ↔ 0 < fd ∧ fd ∈ s.worker.openFds
  bound : ∀ addr c, s.worker.heap addr = some c →
    0 < c.fd ∧ c.fd.toNat < s.worker.tcpConns.length
  oneWatcher : ∀ addr c, s.worker.heap addr = some c → ∃! watcher, s.ios watcher = some c.fd
  oneTimer : ∀ addr c, s.worker.heap addr = some c → ∃! watcher, s.timers watcher = some addr
  watched : ∀ watcher fd, s.ios watcher = some fd → (s.worker.connAt fd).isSome
  timed : ∀ watcher addr, s.timers watcher = some addr → (s.worker.heap addr).isSome

theorem InStep.consistent (h : InStep s) : Consistent s where
  table := by
    intro fd addr
    rw [h.table fd addr]
    constructor
    · rintro ⟨a, c, hc, hfd, rfl⟩
      exact ⟨c, hc, hfd⟩
    · rintro ⟨c, hc, hfd⟩
      exact ⟨addr, c, hc, hfd, rfl⟩
  accepted := by
    intro fd
    rw [Option.isSome_iff_exists]
    constructor
    · rintro ⟨addr, hat⟩
      obtain ⟨a, c, hc, rfl, -⟩ := (h.table fd addr).1 hat
      exact ⟨(h.live a c hc).pos, (h.live a c hc).opened⟩
    · rintro ⟨hpos, hmem⟩
      obtain ⟨addr, c, hc, rfl⟩ := h.accepted fd hmem hpos
      exact ⟨addr, h.table.lookup hc⟩
  bound := fun addr c hc => ⟨(h.live addr c hc).pos, (h.live addr c hc).bound⟩
  oneWatcher := by
    intro addr c hc
    refine ⟨s.ioWatcher addr, h.io.lookup hc, fun watcher hw => ?_⟩
    obtain ⟨b, d, hd, rfl, hfd⟩ := (h.io watcher c.fd).1 hw
    rw [h.eq_of_fd hc hd hfd]
  oneTimer := by
    intro addr c hc
    refine ⟨s.timerWatcher addr, h.timer.lookup hc, fun watcher hw => ?_⟩
    obtain ⟨b, d, hd, rfl, rfl⟩ := (h.timer watcher addr).1 hw
    rfl
  watched := by
    intro watcher fd hw
    obtain ⟨addr, c, -, -, hat⟩ := h.registered hw
    exact Option.isSome_of_eq_some hat
  timed := by
    intro watcher addr hw
    obtain ⟨a, c, hc, -, rfl⟩ := (h.timer watcher addr).1 hw
    exact Option.isSome_of_eq_some hc

/-- **In every run of the event thread**, whatever it is called back for and
in whatever order, the table, the watchers and the timers are consistent, and
no callback follows a pointer that is null or dangling or leaves the
table. -/
theorem consistent_of_run {id : ℕ} {timeout : ℤ} {es : List LoopEvent}
    (h : Common.run (EventThread.step parse dump) (.start id timeout) es = some s) :
    Consistent s ∧ ∀ e, s.callback parse dump e ≠ some .fault := by
  have hin : InStep s :=
    Common.inv_of_run (fun _ _ _ hs he => hs.step he) (inStep_start id timeout) h
  refine ⟨hin.consistent, fun e hfault => ?_⟩
  have hfaultless := hin.callback parse dump e
  rw [hfault] at hfaultless
  exact hfaultless

/-- Two connections, the first of which times out. -/
theorem consistent_of_run_timeout :
    ∃ s, Common.run (EventThread.step (fun _ => .error .parseError) fun _ => []) (.start 0 100)
        [.newConn 5 1 10 20, .newConn 9 2 11 21, .timer 20 200] = some s ∧
      Consistent s ∧
        ∀ e, s.callback (fun _ => .error .parseError) (fun _ => []) e ≠ some .fault := by
  have hrun : ∃ s, Common.run (EventThread.step (fun _ => .error .parseError) fun _ => [])
      (.start 0 100) [.newConn 5 1 10 20, .newConn 9 2 11 21, .timer 20 200] = some s :=
    ⟨_, rfl⟩
  obtain ⟨s, hs⟩ := hrun
  exact ⟨s, hs, consistent_of_run hs⟩

end Server

end XrtcServer
