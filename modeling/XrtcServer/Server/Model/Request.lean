import Mathlib.Algebra.Group.Int.Defs
import Mathlib.Algebra.Group.Nat.Defs
/-!
# Signaling requests

A request is a 36-byte header and a JSON text. `processRequest` parses the
text, reads `cmdno` and hands the object to one of five command handlers,
each of which reads its fields in order and sends one message to the
server. The parser is a parameter; what the handlers do with the values it
returns follows the conversions of the JSON library.
-/

namespace XrtcServer

namespace Server

/-! ## The wire -/

/-- A pointer into a buffer with the length its maker meant: the bytes from
the pointer to the end of the buffer, and the length. -/
structure Slice where
  data : List UInt8
  size : ℕ

/-- What is read through a `const char*`: the bytes before the first NUL. -/
def cstr (bytes : List UInt8) : List UInt8 := bytes.takeWhile (· ≠ 0)

/-- The size of a request header. -/
def XHEAD_SIZE : ℕ := 36

/-- The number every header carries. -/
def XHEAD_MAGIC_NUM : ℕ := 0xfb202202

/-- A 32-bit field of a buffer, in the byte order of the machine. -/
def uint32At (bytes : List UInt8) (pos : ℕ) : ℕ :=
  ((bytes.drop pos).take 4).foldr (fun b n => b.toNat + 256 * n) 0

/-- The fields of a header that the server reads. -/
structure XHead where
  logId : ℕ
  magicNum : ℕ
  bodyLen : ℕ

/-- The header at the start of a buffer. -/
def xhead (bytes : List UInt8) : XHead where
  logId := uint32At bytes 4
  magicNum := uint32At bytes 24
  bodyLen := uint32At bytes 32

/-! ## JSON values -/

/-- A parsed value. A float counts through what its casts to `int` and to
`uint64_t` give. -/
inductive Json where
  | null
  | boolean (b : Bool)
  | numberInteger (n : ℤ)
  | numberUnsigned (n : ℕ)
  | numberFloat (asInt : ℤ) (asUnsigned : ℕ)
  | string (s : String)
  | array (elements : List Json)
  | object (members : List (String × Json))

/-- The exception classes of the JSON library. -/
inductive JsonException where
  | parseError
  | invalidIterator
  | typeError
  | outOfRange
  | otherError
deriving DecidableEq

namespace Json

/-- The member of an object under a key. -/
def member : Json → String → Option Json
  | object members, key => members.lookup key
  | _, _ => none

/-- `root.at(key)`: a missing key is out of range, anything but an object a
type error. -/
def atKey (root : Json) (key : String) : Except JsonException Json :=
  match root with
  | object members =>
    match members.lookup key with
    | some v => .ok v
    | none => .error .outOfRange
  | _ => .error .typeError

/-- `root[key]` on a mutable value: a null root becomes an object, and a
missing key is inserted with a null value. -/
def index (root : Json) (key : String) : Except JsonException Json :=
  match root with
  | null => .ok null
  | object members => .ok ((members.lookup key).getD null)
  | _ => .error .typeError

/-- The conversion to `int`: any number and any boolean, cut to 32 bits. -/
def toInt : Json → Except JsonException ℤ
  | numberUnsigned n => .ok ((n : ℤ).bmod (2 ^ 32))
  | numberInteger n => .ok (n.bmod (2 ^ 32))
  | numberFloat asInt _ => .ok asInt
  | boolean b => .ok (if b then 1 else 0)
  | _ => .error .typeError

/-- The conversion to `uint64_t`, the library's own unsigned type: any
number, and no boolean. -/
def toUInt64 : Json → Except JsonException ℕ
  | numberUnsigned n => .ok (n % 2 ^ 64)
  | numberInteger n => .ok (n % 2 ^ 64).toNat
  | numberFloat _ asUnsigned => .ok asUnsigned
  | _ => .error .typeError

/-- The conversion to `std::string`. -/
def toStr : Json → Except JsonException String
  | string s => .ok s
  | _ => .error .typeError

end Json

/-! ## Messages -/

def CMDNO_PUSH : ℤ := 1
def CMDNO_PULL : ℤ := 2
def CMDNO_ANSWER : ℤ := 3
def CMDNO_STOPPUSH : ℤ := 4
def CMDNO_STOPPULL : ℤ := 5

/-- The message that carries a request through the threads and its response
back. `worker`, `conn` and `certificate` are pointers. -/
structure RtcMsg where
  cmdno : ℤ := -1
  uid : ℕ := 0
  streamName : String := ""
  streamType : String := ""
  audio : ℤ := 0
  video : ℤ := 0
  logId : ℕ := 0
  worker : Option ℕ := none
  conn : Option ℕ := none
  fd : ℤ := 0
  sdp : String := ""
  errNo : ℤ := 0
  certificate : Option ℕ := none
deriving DecidableEq

/-- Where a request comes from: the worker, the connection and its fd. -/
structure Origin where
  worker : ℕ
  conn : ℕ
  fd : ℤ

/-- A request's outcome: what the handler returns, or the exception that
leaves it, and the messages it passed to `RtcServer::send_rtc_msg`. -/
structure RequestResult where
  ret : Except JsonException ℤ
  sent : List RtcMsg

/-- The frame every command handler has: the fields are read inside a `try`
that catches `out_of_range` and nothing else, and then the message is sent. -/
def catchOutOfRange (fields : Except JsonException RtcMsg) : RequestResult :=
  match fields with
  | .ok msg => ⟨.ok 0, [msg]⟩
  | .error .outOfRange => ⟨.ok (-1), []⟩
  | .error e => ⟨.error e, []⟩

/-- A command on the media of a stream: `uid`, `stream_name`, `audio`,
`video`. -/
def processMedia (cmdno : ℤ) (o : Origin) (root : Json) (logId : ℕ) : RequestResult :=
  catchOutOfRange do
    let uid ← root.atKey "uid" >>= Json.toUInt64
    let streamName ← root.atKey "stream_name" >>= Json.toStr
    let audio ← root.atKey "audio" >>= Json.toInt
    let video ← root.atKey "video" >>= Json.toInt
    return { cmdno, uid, streamName, audio, video, logId,
             worker := o.worker, conn := o.conn, fd := o.fd }

/-- A command that ends a stream: `uid`, `stream_name`. -/
def processStop (cmdno : ℤ) (o : Origin) (root : Json) (logId : ℕ) : RequestResult :=
  catchOutOfRange do
    let uid ← root.atKey "uid" >>= Json.toUInt64
    let streamName ← root.atKey "stream_name" >>= Json.toStr
    return { cmdno, uid, streamName, logId, worker := o.worker, conn := o.conn, fd := o.fd }

def processPush (cmdno : ℤ) (o : Origin) (root : Json) (logId : ℕ) : RequestResult :=
  processMedia cmdno o root logId

def processPull (cmdno : ℤ) (o : Origin) (root : Json) (logId : ℕ) : RequestResult :=
  processMedia cmdno o root logId

def processStopPush (cmdno : ℤ) (o : Origin) (root : Json) (logId : ℕ) : RequestResult :=
  processStop cmdno o root logId

def processStopPull (cmdno : ℤ) (o : Origin) (root : Json) (logId : ℕ) : RequestResult :=
  processStop cmdno o root logId

/-- The answer of a client: `uid`, `stream_name`, `type`, `answer`. -/
def processAnswer (cmdno : ℤ) (o : Origin) (root : Json) (logId : ℕ) : RequestResult :=
  catchOutOfRange do
    let uid ← root.atKey "uid" >>= Json.toUInt64
    let streamName ← root.atKey "stream_name" >>= Json.toStr
    let type ← root.atKey "type" >>= Json.toStr
    let answer ← root.atKey "answer" >>= Json.toStr
    return { cmdno, uid, streamName, streamType := type, sdp := answer, logId,
             worker := o.worker, conn := o.conn, fd := o.fd }

/-- The `switch` over the command number. -/
def processCommand (cmdno : ℤ) (o : Origin) (root : Json) (logId : ℕ) : RequestResult :=
  if cmdno = CMDNO_PUSH then processPush cmdno o root logId
  else if cmdno = CMDNO_PULL then processPull cmdno o root logId
  else if cmdno = CMDNO_STOPPUSH then processStopPush cmdno o root logId
  else if cmdno = CMDNO_STOPPULL then processStopPull cmdno o root logId
  else if cmdno = CMDNO_ANSWER then processAnswer cmdno o root logId
  else ⟨.ok (-1), []⟩

/-- Parsing the text and reading the command number, the part of
`_process_request` inside its `try`. -/
def readCommand (parse : List UInt8 → Except JsonException Json) (text : List UInt8) :
    Except JsonException (ℤ × Json) := do
  let root ← parse text
  let cmdno ← root.index "cmdno" >>= Json.toInt
  return (cmdno, root)

/-- `_process_request`: its `try` catches `parse_error` and nothing else.
The body is parsed through its pointer, so up to the first NUL and not up
to its size. -/
def processRequest (parse : List UInt8 → Except JsonException Json) (o : Origin)
    (header body : Slice) : RequestResult :=
  match readCommand parse (cstr body.data) with
  | .ok (cmdno, root) => processCommand cmdno o root (xhead header.data).logId
  | .error .parseError => ⟨.ok (-1), []⟩
  | .error e => ⟨.error e, []⟩

end Server

end XrtcServer
