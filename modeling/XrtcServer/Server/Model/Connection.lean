import XrtcServer.Base.Model.EventLoop
import XrtcServer.Common.Loop
import XrtcServer.Server.Model.Request
/-!
# A signaling connection

`TcpConnection`, what `_read_query` does with the bytes of a read, the loop
of `_process_query_buffer` over them, and `_write_query`. The buffer is
never trimmed: a read appends to it, and the header and the body are slices
of it.
-/

namespace XrtcServer

namespace Server

open Base

/-- `STATE_HEAD` and `STATE_BODY`. -/
inductive ConnState where
  | head
  | body
deriving DecidableEq

/-- `TcpConnection`, with the watcher it is given on acceptance. -/
structure TcpConnection where
  fd : ℤ
  querybuf : List UInt8 := []
  bytesExpected : ℕ := XHEAD_SIZE
  bytesProcessed : ℕ := 0
  currentState : ConnState := .head
  lastInteraction : ℕ := 0
  replyList : List Slice := []
  curRespPos : ℕ := 0
  ioWatcher : IOWatcher := {}

/-! ## Reading -/

/-- The loop of `_process_query_buffer`: the connection, with the texts
handed to the JSON parser and the messages sent to the server so far. -/
structure QueryLoop where
  conn : TcpConnection
  handed : List (List UInt8) := []
  sent : List RtcMsg := []

/-- One pass of the loop. It is left with the value the call returns or the
exception that leaves it. -/
def queryPass (parse : List UInt8 → Except JsonException Json) (worker addr : ℕ)
    (s : QueryLoop) : QueryLoop ⊕ (QueryLoop × Except JsonException ℤ) :=
  let c := s.conn
  if c.bytesExpected + c.bytesProcessed ≤ c.querybuf.length then
    let head := xhead c.querybuf
    match c.currentState with
    | .head =>
      if XHEAD_MAGIC_NUM ≠ head.magicNum then .inr (s, .ok (-1))
      else .inl { s with conn := { c with currentState := .body, bytesProcessed := XHEAD_SIZE,
                                          bytesExpected := head.bodyLen } }
    | .body =>
      let header : Slice := ⟨c.querybuf, XHEAD_SIZE⟩
      let body : Slice := ⟨c.querybuf.drop XHEAD_SIZE, head.bodyLen⟩
      let r := processRequest parse ⟨worker, addr, c.fd⟩ header body
      let s' := { s with handed := s.handed ++ [cstr body.data], sent := s.sent ++ r.sent }
      match r.ret with
      | .error e => .inr (s', .error e)
      | .ok ret =>
        if ret ≠ 0 then .inr (s', .ok (-1))
        else .inl { s' with conn := { c with bytesProcessed := 65536 } }
  else .inr (s, .ok 0)

/-- `_process_query_buffer`, of which at most `fuel` passes are made. -/
def processQueryBuffer (parse : List UInt8 → Except JsonException Json) (worker addr fuel : ℕ)
    (c : TcpConnection) : QueryLoop ⊕ (QueryLoop × Except JsonException ℤ) :=
  Common.loop (queryPass parse worker addr) fuel { conn := c }

/-- A `size_t` stored in an `int`. -/
def sizeToInt (n : ℕ) : ℤ := (n : ℤ).bmod (2 ^ 32)

/-- The length `_read_query` asks for. `read_len` is an `int`, and a
negative one makes the read fail. -/
def readLen (c : TcpConnection) : ℕ := (sizeToInt c.bytesExpected).toNat

/-- The offset `_read_query` reads to, an `int` as well. -/
def qbLen (c : TcpConnection) : ℤ := sizeToInt c.querybuf.length

/-- How a read event leaves a connection. -/
inductive ReadEnd where
  /-- The call returned and the connection stays. -/
  | kept
  /-- `_close_conn` was called. -/
  | closed
  /-- An exception leaves `_read_query`. -/
  | threw (e : JsonException)
  /-- The passes ran out: the call is still in its loop. -/
  | busy
  /-- The read's offset is negative, and the data lands outside the buffer. -/
  | astray
deriving DecidableEq

/-- What the end of `_process_query_buffer` means for the read event. -/
def readEnd : QueryLoop ⊕ (QueryLoop × Except JsonException ℤ) → QueryLoop × ReadEnd
  | .inl s => (s, .busy)
  | .inr (s, .error e) => (s, .threw e)
  | .inr (s, .ok ret) => (s, if ret ≠ 0 then .closed else .kept)

/-- `_read_query` on a connection, for the data the socket gives: nothing
where the read fails or the peer has closed. -/
def readQuery (parse : List UInt8 → Except JsonException Json) (worker addr fuel now : ℕ)
    (data : List UInt8) (c : TcpConnection) : QueryLoop × ReadEnd :=
  let c := { c with lastInteraction := now }
  if data = [] then ({ conn := c }, .closed)
  else if qbLen c < 0 then ({ conn := c }, .astray)
  else
    readEnd (processQueryBuffer parse worker addr fuel { c with querybuf := c.querybuf ++ data })

/-- A read event: the clock, and how many bytes the kernel gives at most. -/
structure SockRead where
  now : ℕ
  size : ℕ

/-- The reading life of a connection: what the client has sent and is not
yet read, and the texts handed on and the messages sent by all calls so
far. -/
structure Life where
  conn : TcpConnection
  unread : List UInt8
  handed : List (List UInt8) := []
  sent : List RtcMsg := []
  status : ReadEnd := .kept

/-- A read event of a connection that is still there. The kernel gives no
more than is asked for. -/
def Life.read (parse : List UInt8 → Except JsonException Json) (worker addr fuel : ℕ)
    (l : Life) (e : SockRead) : Life :=
  if l.status = .kept then
    let data := l.unread.take (min e.size (readLen l.conn))
    let r := readQuery parse worker addr fuel e.now data l.conn
    { conn := r.1.conn
      unread := l.unread.drop data.length
      handed := l.handed ++ r.1.handed
      sent := l.sent ++ r.1.sent
      status := r.2 }
  else l

/-- The life of a new connection on which the client sends `stream`. -/
def life (parse : List UInt8 → Except JsonException Json) (worker addr : ℕ) (fd : ℤ)
    (stream : List UInt8) (reads : List SockRead) (fuel : ℕ) : Life :=
  reads.foldl (Life.read parse worker addr fuel) { conn := { fd := fd }, unread := stream }

/-! ## Writing -/

/-- What `write` returns on a non-blocking socket: a number of bytes, that
it would block (`EAGAIN` or `EWOULDBLOCK`), or another error. -/
inductive SysWrite where
  | wrote (n : ℕ)
  | wouldBlock
  | failed
deriving DecidableEq

/-- `sock_write_data`. -/
def sockWriteData : SysWrite → ℤ
  | .wrote n => n
  | .wouldBlock => 0
  | .failed => -1

/-- `_add_reply`. -/
def addReply (reply : Slice) (c : TcpConnection) : TcpConnection :=
  { c with replyList := c.replyList ++ [reply],
           ioWatcher := c.ioWatcher.startIoEvent c.fd .WRITE }

/-- How a call of `_write_query` ends. -/
inductive WriteEnd where
  | returned
  | closed
  /-- The writes whose results are given do not end the loop. -/
  | busy
deriving DecidableEq

/-- What one write accepted does to the reply at the head of the list. It
is always given from its first byte. -/
def writeStep (reply : Slice) (nwritten : ℕ) (c : TcpConnection) : TcpConnection :=
  if reply.size ≤ nwritten + c.curRespPos then
    { c with replyList := c.replyList.tail, curRespPos := 0 }
  else { c with curRespPos := c.curRespPos + nwritten }

/-- The loop of `_write_query`, over the results of its writes (a number of
bytes, 0 for a full buffer, or -1), with the bytes the socket has accepted.
A full buffer leaves everything as it is, and the loop goes on. -/
def writeQuery : List ℤ → TcpConnection → List UInt8 →
    TcpConnection × List UInt8 × WriteEnd
  | results, c, accepted =>
    match c.replyList with
    | [] => ({ c with ioWatcher := c.ioWatcher.stopIoEvent c.fd .WRITE }, accepted, .returned)
    | reply :: _ =>
      match results with
      | [] => (c, accepted, .busy)
      | nwritten :: results =>
        if nwritten = -1 then (c, accepted, .closed)
        else if nwritten = 0 then writeQuery results c accepted
        else writeQuery results (writeStep reply nwritten.toNat c)
          (accepted ++ reply.data.take nwritten.toNat)

end Server

end XrtcServer
