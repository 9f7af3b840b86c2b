import XrtcServer.Server.Model.Worker
/-!
# The event thread of a signaling worker

`SignalingWorker` with what its loop has registered: the callbacks as the
loop calls them, `conn_io_cb` with the descriptor of its watcher and
`conn_timer_cb` with a connection. A watcher is known by its address, and a
connection holds the addresses of its two. An access that the code does not
check and that the memory does not allow is a `fault`. The loop calls back
for what is registered only: the pending events of a watcher that is stopped
are dropped.
-/

namespace XrtcServer

namespace Server

open Base

/-- The worker, the watchers that its connections point to and those that the
loop has registered: of an IO watcher the descriptor, of a timer the
connection it carries. -/
structure EventThread where
  worker : SignalingWorker
  ioWatcher : ℕ → ℕ := fun _ => 0
  timerWatcher : ℕ → ℕ := fun _ => 0
  ios : ℕ → Option ℤ := fun _ => none
  timers : ℕ → Option ℕ := fun _ => none

/-- What comes of a callback. -/
inductive CallbackEnd where
  | returned (s : EventThread)
  /-- A pointer that is null or dangling is followed, or the table is
  accessed outside of its bounds. -/
  | fault
  /-- The callback is left by an exception, does not return, or writes
  outside of the buffer of its connection. -/
  | lost

namespace EventThread

variable (s : EventThread)

/-- The connection as its callback leaves it. Whether its watcher is
registered is whether it is active. -/
def setConn (addr : ℕ) (c : TcpConnection) : EventThread :=
  { s with
    worker := s.worker.setConn addr c
    ios := Function.update s.ios (s.ioWatcher addr)
      (if c.ioWatcher.active then some c.ioWatcher.fd else none) }

/-- `_new_conn`, with the addresses of the new objects. -/
def newConn (fd : ℤ) (addr io timer : ℕ) : EventThread :=
  if fd ≤ 0 then s
  else
    { worker := s.worker.newConn fd addr
      ioWatcher := Function.update s.ioWatcher addr io
      timerWatcher := Function.update s.timerWatcher addr timer
      ios := Function.update s.ios io (some fd)
      timers := Function.update s.timers timer (some addr) }

/-- `_close_conn`. -/
def closeConn (addr : ℕ) (c : TcpConnection) : CallbackEnd :=
  if c.fd < 0 ∨ s.worker.tcpConns.length ≤ c.fd.toNat then .fault
  else
    .returned { s with
      worker := s.worker.closeConn addr c
      ios := Function.update s.ios (s.ioWatcher addr) none
      timers := Function.update s.timers (s.timerWatcher addr) none }

/-- `_read_query`, where the kernel gives this data. It gives no more than is
asked for. -/
def readQuery (parse : List UInt8 → Except JsonException Json) (fd : ℤ) (now fuel : ℕ)
    (data : List UInt8) : Option CallbackEnd :=
  if fd < 0 ∨ s.worker.tcpConns.length ≤ fd.toNat then some (.returned s)
  else
    match s.worker.connAt fd with
    | none => some .fault
    | some addr =>
      match s.worker.heap addr with
      | none => some .fault
      | some c =>
        if readLen c < data.length then none
        else
          let r := Server.readQuery parse s.worker.id addr fuel now data c
          match r.2 with
          | .kept => some (.returned (s.setConn addr r.1.conn))
          | .closed => some (s.closeConn addr r.1.conn)
          | _ => some .lost

/-- `_write_query`. -/
def writeQuery (fd : ℤ) (results : List ℤ) : Option CallbackEnd :=
  if fd ≤ 0 ∨ s.worker.tcpConns.length ≤ fd.toNat then some (.returned s)
  else
    match s.worker.connAt fd with
    | none => some (.returned s)
    | some addr =>
      match s.worker.heap addr with
      | none => some .fault
      | some c =>
        let r := Server.writeQuery results c []
        match r.2.2 with
        | .returned => some (.returned (s.setConn addr r.1))
        | .closed => some (s.closeConn addr r.1)
        | .busy => some .lost

/-- `conn_io_cb`. -/
def connIoCb (parse : List UInt8 → Except JsonException Json) (fd : ℤ) (read write : Bool)
    (now fuel : ℕ) (data : List UInt8) (results : List ℤ) : Option CallbackEnd :=
  (if read then s.readQuery parse fd now fuel data else some (.returned s)).bind fun
    | .returned s => if write then s.writeQuery fd results else some (.returned s)
    | o => some o

/-- `conn_timer_cb`: `_process_timeout`, in the arithmetic of `unsigned
long`. -/
def connTimerCb (addr now : ℕ) : CallbackEnd :=
  match s.worker.heap addr with
  | none => .fault
  | some c =>
    if s.worker.connectionTimeout % 2 ^ 64 ≤ ((now : ℤ) - c.lastInteraction) % 2 ^ 64 then
      s.closeConn addr c
    else .returned s

/-- `_response_server_offer` where it finds a connection. -/
def addReplyTo (dump : Json → List UInt8) (msg : RtcMsg) (block : Option (List UInt8))
    (addr : ℕ) : CallbackEnd :=
  match s.worker.heap addr with
  | none => .fault
  | some c =>
    match block with
    | none => .returned s
    | some block =>
      .returned (s.setConn addr
        (addReply (responseReply c.querybuf (dump (responseRoot msg)) block) c))

/-- `_process_rtc_msg`, of a message popped from the queue. -/
def processRtcMsg (dump : Json → List UInt8) (msg : RtcMsg) (block : Option (List UInt8)) :
    CallbackEnd :=
  if msg.cmdno = CMDNO_PUSH ∨ msg.cmdno = CMDNO_PULL ∨ msg.cmdno = CMDNO_STOPPUSH ∨
      msg.cmdno = CMDNO_STOPPULL ∨ msg.cmdno = CMDNO_ANSWER then
    match s.worker.responseConn msg with
    | none => .returned s
    | some addr => s.addReplyTo dump msg block addr
  else .returned s

end EventThread

/-- What the loop calls back for. -/
inductive LoopEvent where
  | newConn (fd : ℤ) (addr io timer : ℕ)
  | io (watcher : ℕ) (read write : Bool) (now fuel : ℕ) (data : List UInt8) (results : List ℤ)
  | timer (watcher now : ℕ)
  | response (msg : RtcMsg) (block : Option (List UInt8))

namespace EventThread

variable (parse : List UInt8 → Except JsonException Json) (dump : Json → List UInt8)

/-- One callback. A new descriptor is not open, and what is allocated is not
in use. -/
def callback (s : EventThread) : LoopEvent → Option CallbackEnd
  | .newConn fd addr io timer =>
    if fd ∈ s.worker.openFds ∨ (s.worker.heap addr).isSome ∨ (s.ios io).isSome ∨
        (s.timers timer).isSome then none
    else
      let worker := { s.worker with openFds := fd :: s.worker.openFds }
      some (.returned ({ s with worker := worker }.newConn fd addr io timer))
  | .io watcher read write now fuel data results =>
    (s.ios watcher).bind fun fd => s.connIoCb parse fd read write now fuel data results
  | .timer watcher now => (s.timers watcher).map fun addr => s.connTimerCb addr now
  | .response msg block => some (s.processRtcMsg dump msg block)

/-- One callback that returns. -/
def step (s : EventThread) (e : LoopEvent) : Option EventThread :=
  match s.callback parse dump e with
  | some (.returned s) => some s
  | _ => none

/-- A worker that has no connection yet. -/
def start (id : ℕ) (connectionTimeout : ℤ) : EventThread :=
  { worker := { id := id, connectionTimeout := connectionTimeout } }

end EventThread

end Server

end XrtcServer
