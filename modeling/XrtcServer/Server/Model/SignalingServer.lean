import XrtcServer.Base.Model.LockFreeQueue
import XrtcServer.Server.Model.EventThread
/-!
# The signaling server and its workers

`SignalingServer` in its thread, with the worker threads it hands the
connections to that it accepts: one `_q_connfd` for each worker, one
micro-step of `LockFreeQueue` at a time, and one pipe. Any two steps of
different threads interleave. The other callbacks of a worker's loop are
those of its `EventThread`, and the RTC workers write `RTC_MSG` into its
pipe whenever they like.

`SIGINT` makes the server stop: it has every worker stop, in turn, and waits
for its thread to end.
-/

namespace XrtcServer

namespace Server

open Base Common

/-- What is written into the pipe of a worker. -/
inductive Notice where
  | QUIT
  | NEW_CONN
  | RTC_MSG
deriving DecidableEq, Repr

/-- Where the thread of a worker is. -/
inductive WorkerPhase where
  /-- In its event loop. -/
  | idle
  /-- In `_q_connfd.consume`. -/
  | consuming
  /-- About to call `_new_conn`, with what `consume` has returned. -/
  | opening (fd : Option ℤ)
  /-- About to call `_process_rtc_msg`. -/
  | answering
  /-- `_stop` has been called: the loop ends with this iteration. -/
  | ending
  | stopped
deriving DecidableEq, Repr

/-- A `SignalingWorker` with its thread, its queue of descriptors and its
pipe. -/
structure WorkerThread where
  connfds : QueueSystem ℤ
  pipe : List Notice := []
  phase : WorkerPhase := .idle
  thread : EventThread
  /-- For the reader of a run only: what `_new_conn` has been called with. -/
  opened : List ℤ := []

/-- Where the thread of the server is. -/
inductive ServerPhase where
  /-- In its event loop. -/
  | idle
  /-- In `_q_connfd.produce` of a worker. -/
  | producing (k : ℕ)
  /-- About to write `NEW_CONN` for a worker. -/
  | notifying (k : ℕ)
  /-- In `_stop`, at `stop()` of a worker. -/
  | stopping (k : ℕ)
  /-- In `_stop`, at `join()` of a worker. -/
  | joining (k : ℕ)
  | stopped
deriving DecidableEq, Repr

/-- `SignalingServer`, with its workers by their index. -/
structure SignalingServer where
  workerNum : ℕ
  nextWorkerIndex : ℕ := 0
  phase : ServerPhase := .idle
  workers : ℕ → WorkerThread
  /-- `_workers` has been accessed outside of its bounds. -/
  fault : Bool := false
  /-- For the reader of a run only: what has been accepted. -/
  accepted : List ℤ := []

/-- What happens next, and in which thread. -/
inductive SignalingEvent where
  /-- `tcp_accept` returns to `accept_new_connect`. -/
  | accept (fd : ℤ)
  /-- The server goes on in `produce`, where the allocator answers or not. -/
  | produce (address : Option ℕ)
  /-- The server writes `NEW_CONN`. -/
  | notify
  /-- The server reads `QUIT`. -/
  | quit
  /-- The server writes `QUIT` for a worker. -/
  | stop
  /-- The thread of a worker has ended, and `join` returns. -/
  | join
  /-- An RTC worker writes `RTC_MSG`. -/
  | post (k : ℕ)
  /-- A worker reads its pipe. -/
  | wake (k : ℕ)
  /-- A worker goes on in `consume`. -/
  | consume (k : ℕ)
  /-- A worker calls `_new_conn`, with the addresses of the new objects. -/
  | newConn (k addr io timer : ℕ)
  /-- A worker calls `_process_rtc_msg`, and this is what it pops. -/
  | rtcMsg (k : ℕ) (popped : Option (RtcMsg × Option (List UInt8)))
  /-- The loop of a worker calls back for a connection. -/
  | callback (k : ℕ) (e : LoopEvent)
  /-- The loop of a worker has ended. -/
  | finish (k : ℕ)

namespace WorkerThread

variable (parse : List UInt8 → Except JsonException Json) (dump : Json → List UInt8)
variable (w : WorkerThread)

/-- The descriptors handed to the worker that it has not opened yet. -/
def inFlight : List ℤ := (produced w.connfds.history).drop w.opened.length

/-- The descriptors the worker has or is to have. -/
def descriptors : List ℤ := w.inFlight ++ w.thread.worker.openFds

/-- `_process_notify`, as far as the first step of each case. -/
def processNotify (rest : List Notice) : Notice → Option WorkerThread
  | .QUIT => some { w with pipe := rest, phase := .ending }
  | .NEW_CONN => (w.connfds.step .consume).map fun q =>
      { w with pipe := rest, connfds := q, phase := .consuming }
  | .RTC_MSG => some { w with pipe := rest, phase := .answering }

/-- `signaling_worker_recv_nofify`. -/
def wake : Option WorkerThread :=
  match w.phase, w.pipe with
  | .idle, msg :: rest => w.processNotify rest msg
  | _, _ => none

/-- Where a micro-step of `consume` leads. -/
def afterConsume : Consuming ℤ → WorkerPhase
  | .returnTrue fd => .opening (some fd)
  | .returnFalse => .opening none
  | _ => .consuming

/-- The next micro-step of `consume`. -/
def consume : Option WorkerThread :=
  match w.phase with
  | .consuming => (w.connfds.step .consumer).map fun q =>
      { w with connfds := q, phase := afterConsume w.connfds.consumer }
  | _ => none

/-- `_new_conn`. Where `consume` failed `fd` is still 0, and nothing
happens. -/
def newConn (addr io timer : ℕ) : Option WorkerThread :=
  match w.phase with
  | .opening none => some { w with phase := .idle, opened := w.opened ++ [0] }
  | .opening (some fd) => (w.thread.step parse dump (.newConn fd addr io timer)).map fun t =>
      { w with thread := t, phase := .idle, opened := w.opened ++ [fd] }
  | _ => none

/-- `_process_rtc_msg`. -/
def rtcMsg (popped : Option (RtcMsg × Option (List UInt8))) : Option WorkerThread :=
  match w.phase, popped with
  | .answering, none => some { w with phase := .idle }
  | .answering, some (msg, block) => (w.thread.step parse dump (.response msg block)).map fun t =>
      { w with thread := t, phase := .idle }
  | _, _ => none

/-- `conn_io_cb` or `conn_timer_cb`, which the loop also calls back in its
last iteration. -/
def callback (e : LoopEvent) : Option WorkerThread :=
  match w.phase, e with
  | .idle, .io .. | .idle, .timer .. | .ending, .io .. | .ending, .timer .. =>
    (w.thread.step parse dump e).map fun t => { w with thread := t }
  | _, _ => none

/-- The loop ends. -/
def finish : Option WorkerThread :=
  match w.phase with
  | .ending => some { w with phase := .stopped }
  | _ => none

/-- `notify` of another thread. The pipe is closed in `_stop`. -/
def post (msg : Notice) : Option WorkerThread :=
  match w.phase with
  | .ending | .stopped => none
  | _ => some { w with pipe := w.pipe ++ [msg] }

end WorkerThread

namespace SignalingServer

variable (parse : List UInt8 → Except JsonException Json) (dump : Json → List UInt8)
variable (s : SignalingServer)

def setWorker (k : ℕ) (w : WorkerThread) : SignalingServer :=
  { s with workers := Function.update s.workers k w }

/-- The descriptors of the workers. -/
def descriptors : List ℤ := (List.range s.workerNum).flatMap fun k => (s.workers k).descriptors

/-- `_dispatch_new_conn`, up to the call of `produce`. -/
def dispatchNewConn (fd : ℤ) : Option SignalingServer :=
  let index := s.nextWorkerIndex
  let next := if s.workerNum ≤ index + 1 then 0 else index + 1
  let s := { s with nextWorkerIndex := next, accepted := s.accepted ++ [fd] }
  if s.workerNum = 0 then some s
  else if s.workerNum ≤ index then some { s with fault := true }
  else
    let w := s.workers index
    (w.connfds.step (.produce fd)).map fun q =>
      { s.setWorker index { w with connfds := q } with phase := .producing index }

/-- `accept_new_connect`. What is accepted is a descriptor that is not open. -/
def acceptNewConnect (fd : ℤ) : Option SignalingServer :=
  if s.phase ≠ .idle then none
  else if fd = -1 then some s
  else if fd < 0 ∨ fd ∈ s.descriptors then none
  else s.dispatchNewConn fd

/-- The next micro-step of `produce`. -/
def produce (act : QueueAct ℤ) : Option SignalingServer :=
  match s.phase with
  | .producing k =>
    let w := s.workers k
    (w.connfds.step act).map fun q =>
      { s.setWorker k { w with connfds := q } with
        phase := if q.producer = .idle then .notifying k else .producing k }
  | _ => none

/-- `_stop` goes on with the next worker there is. -/
def stopFrom (k : ℕ) : SignalingServer :=
  { s with phase := if k < s.workerNum then .stopping k else .stopped }

/-- `notify_new_conn`, after `produce`. -/
def notify : Option SignalingServer :=
  match s.phase with
  | .notifying k => ((s.workers k).post .NEW_CONN).map fun w =>
      { s.setWorker k w with phase := .idle }
  | _ => none

/-- `_process_notify` of the server, which `QUIT` makes stop. -/
def quit : Option SignalingServer :=
  match s.phase with
  | .idle => some (s.stopFrom 0)
  | _ => none

/-- `worker->stop()`. -/
def stop : Option SignalingServer :=
  match s.phase with
  | .stopping k => ((s.workers k).post .QUIT).map fun w =>
      { s.setWorker k w with phase := .joining k }
  | _ => none

/-- `worker->join()` returns. -/
def join : Option SignalingServer :=
  match s.phase with
  | .joining k => if (s.workers k).phase = .stopped then some (s.stopFrom (k + 1)) else none
  | _ => none

/-- What a worker does. -/
def inWorker (k : ℕ) (f : WorkerThread → Option WorkerThread) : Option SignalingServer :=
  if k < s.workerNum then (f (s.workers k)).map fun w => s.setWorker k w else none

/-- One step of one thread. -/
def step : SignalingEvent → Option SignalingServer
  | .accept fd => s.acceptNewConnect fd
  | .produce (some address) => s.produce (.allocate address)
  | .produce none => s.produce .producer
  | .notify => s.notify
  | .quit => s.quit
  | .stop => s.stop
  | .join => s.join
  | .post k => s.inWorker k fun w => w.post .RTC_MSG
  | .wake k => s.inWorker k fun w => w.wake
  | .consume k => s.inWorker k fun w => w.consume
  | .newConn k addr io timer => s.inWorker k fun w => w.newConn parse dump addr io timer
  | .rtcMsg k popped => s.inWorker k fun w => w.rtcMsg parse dump popped
  | .callback k e => s.inWorker k fun w => w.callback parse dump e
  | .finish k => s.inWorker k fun w => w.finish

/-- All threads in their loops and nothing accepted, the dummy nodes of the
queues at these addresses. -/
def start (workerNum : ℕ) (connectionTimeout : ℤ) (address : ℕ → ℕ) : SignalingServer where
  workerNum := workerNum
  workers := fun k => { connfds := .init 0 (address k), thread := .start k connectionTimeout }

end SignalingServer

end Server

end XrtcServer
