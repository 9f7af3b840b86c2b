import Mathlib.Logic.Function.Basic
import XrtcServer.Server.Model.Connection
/-!
# The signaling worker

`SignalingWorker` with its connections. A connection is known by the
address of its object: `heap` holds the objects not yet deleted, and
`tcpConns` is the vector `_tcp_conns`, of pointers by fd. An event is one
callback of the worker's loop. The kernel's part is that a new fd is not
open, the allocator's that a new address is not in use; both may have been
before.
-/

namespace XrtcServer

namespace Server

open Base

/-- The room for a response's body. -/
def MAX_RES_BUF : ℕ := 4096

/-- `SignalingWorker`, with the fds the kernel holds open for it. -/
structure SignalingWorker where
  id : ℕ
  connectionTimeout : ℤ
  tcpConns : List (Option ℕ) := []
  heap : ℕ → Option TcpConnection := fun _ => none
  openFds : List ℤ := []

/-! ## The response to a request -/

/-- A 32-bit number in the byte order of the machine. -/
def uint32Bytes (n : ℕ) : List UInt8 :=
  [UInt8.ofNat n, UInt8.ofNat (n / 256), UInt8.ofNat (n / 65536), UInt8.ofNat (n / 16777216)]

/-- The object a response carries. -/
def responseRoot (msg : RtcMsg) : Json :=
  if msg.errNo ≠ 0 then
    .object [("err_msg", .string "process error"), ("errno", .numberInteger msg.errNo),
      ("offer", .string "")]
  else
    .object [("err_msg", .string "success"), ("errno", .numberInteger msg.errNo),
      ("offer", .string msg.sdp)]

/-- The reply in the block `zmalloc` gave: the request's header with a new
length, and what `snprintf` writes of the text. -/
def responseReply (querybuf text block : List UInt8) : Slice :=
  let bodyLen := text.length % 2 ^ 32
  let header := querybuf.take 32 ++ uint32Bytes bodyLen
  let body := (cstr text).take (MAX_RES_BUF - 1) ++ [0]
  ⟨header ++ body ++ block.drop (XHEAD_SIZE + body.length), XHEAD_SIZE + bodyLen⟩

namespace SignalingWorker

/-- The pointer `_tcp_conns[fd]`, null past the end. -/
def connAt (w : SignalingWorker) (fd : ℤ) : Option ℕ :=
  if 0 ≤ fd then (w.tcpConns[fd.toNat]?).join else none

def setConn (w : SignalingWorker) (addr : ℕ) (c : TcpConnection) : SignalingWorker :=
  { w with heap := Function.update w.heap addr (some c) }

/-- `_new_conn`. -/
def newConn (w : SignalingWorker) (fd : ℤ) (addr : ℕ) : SignalingWorker :=
  if fd ≤ 0 then w
  else
    let c : TcpConnection := { fd := fd, ioWatcher := IOWatcher.startIoEvent {} fd .READ }
    let size := w.tcpConns.length
    let doubled := if size = 0 then fd.toNat + 1 else 2 * size
    let newSize := if doubled ≤ fd.toNat then fd.toNat + 1 else doubled
    let conns :=
      if size ≤ fd.toNat then w.tcpConns ++ List.replicate (newSize - size) none else w.tcpConns
    { w.setConn addr c with tcpConns := conns.set fd.toNat (some addr) }

/-- `_close_conn`, with `_remove_conn`. -/
def closeConn (w : SignalingWorker) (addr : ℕ) (c : TcpConnection) : SignalingWorker :=
  { w with tcpConns := w.tcpConns.set c.fd.toNat none
           heap := Function.update w.heap addr none
           openFds := w.openFds.erase c.fd }

/-- `_process_timeout`, in the arithmetic of `unsigned long`. -/
def processTimeout (w : SignalingWorker) (now addr : ℕ) (c : TcpConnection) : SignalingWorker :=
  if w.connectionTimeout % 2 ^ 64 ≤ ((now : ℤ) - c.lastInteraction) % 2 ^ 64 then
    w.closeConn addr c
  else w

/-- The connection `_response_server_offer` finds for a message: the one it
names, where that is still the one its fd has. -/
def responseConn (w : SignalingWorker) (msg : RtcMsg) : Option ℕ :=
  match msg.conn with
  | none => none
  | some addr => if w.connAt msg.fd = some addr then some addr else none

/-- `_response_server_offer`. The block is null where `zmalloc` fails. -/
def responseServerOffer (dump : Json → List UInt8) (w : SignalingWorker) (msg : RtcMsg)
    (block : Option (List UInt8)) : SignalingWorker :=
  match w.responseConn msg with
  | none => w
  | some addr =>
    match w.heap addr, block with
    | some c, some block =>
      w.setConn addr (addReply (responseReply c.querybuf (dump (responseRoot msg)) block) c)
    | _, _ => w

/-- `_process_rtc_msg`, of a message popped from the queue. -/
def processRtcMsg (dump : Json → List UInt8) (w : SignalingWorker) (msg : RtcMsg)
    (block : Option (List UInt8)) : SignalingWorker :=
  if msg.cmdno = CMDNO_PUSH ∨ msg.cmdno = CMDNO_PULL ∨ msg.cmdno = CMDNO_STOPPUSH ∨
      msg.cmdno = CMDNO_STOPPULL ∨ msg.cmdno = CMDNO_ANSWER then
    w.responseServerOffer dump msg block
  else w

end SignalingWorker

/-! ## Events -/

/-- The callbacks of a worker's loop. A read or a write comes with what the
kernel gives it, a response with its message. -/
inductive WorkerEvent where
  | newConn (fd : ℤ) (addr : ℕ)
  | read (fd : ℤ) (now fuel : ℕ) (data : List UInt8)
  | write (fd : ℤ) (results : List ℤ)
  | timeout (addr now : ℕ)
  | response (msg : RtcMsg) (block : Option (List UInt8))

namespace SignalingWorker

/-- One event, with the messages sent to the server. It cannot happen where
the kernel or the allocator would not let it, nor where its callback does
not return. -/
def step (parse : List UInt8 → Except JsonException Json) (dump : Json → List UInt8)
    (w : SignalingWorker) : WorkerEvent → Option (SignalingWorker × List RtcMsg)
  | .newConn fd addr =>
    if fd ∈ w.openFds ∨ (w.heap addr).isSome then none
    else some ({ w with openFds := fd :: w.openFds }.newConn fd addr, [])
  | .read fd now fuel data =>
    (w.connAt fd).bind fun addr => (w.heap addr).bind fun c =>
      if readLen c < data.length then none
      else
        let r := readQuery parse w.id addr fuel now data c
        match r.2 with
        | .kept => some (w.setConn addr r.1.conn, r.1.sent)
        | .closed => some (w.closeConn addr r.1.conn, r.1.sent)
        | _ => none
  | .write fd results =>
    (w.connAt fd).bind fun addr => (w.heap addr).bind fun c =>
      let r := writeQuery results c []
      match r.2.2 with
      | .returned => some (w.setConn addr r.1, [])
      | .closed => some (w.closeConn addr r.1, [])
      | .busy => none
  | .timeout addr now => (w.heap addr).map fun c => (w.processTimeout now addr c, [])
  | .response msg block => some (w.processRtcMsg dump msg block, [])

end SignalingWorker

end Server

end XrtcServer
