import XrtcServer.Server.Model.Request
import XrtcServer.Stream.Model.Manager
/-!
# The RTC server and its workers

What `RtcServer` and `RtcWorker` do with a message popped from their
queues. The server stamps the message with its certificate and picks a
worker by the stream's name; the worker runs the command on its stream
manager and fills in the response. The CRC of the name is a parameter.
-/

namespace XrtcServer

namespace Server

open XrtcServer.Stream

/-- `RtcServer`, without its queue. The workers are pointers, in the order
`init` made them. -/
structure RtcServer where
  workerNum : ℤ
  workers : List ℕ := []
  certificate : Option ℕ := none

namespace RtcServer

/-- The loop of `init`: `_create_worker` keeps the workers it could start. -/
def init (workerNum : ℤ) (created : ℕ → Bool) : RtcServer :=
  { workerNum := workerNum, workers := (List.range workerNum.toNat).filter created }

/-- `_generate_and_check_certificate`, where the clock says whether the
certificate has expired and the generator may fail. -/
def generateAndCheckCertificate (s : RtcServer) (expired : Bool) (generated : Option ℕ) :
    RtcServer × ℤ :=
  let s := if s.certificate = none ∨ expired then { s with certificate := generated } else s
  if s.certificate = none then (s, -1) else (s, 0)

/-- `_get_worker`, with the worker count as a `size_t` and, for the
remainder, as an `unsigned`. -/
def getWorker (crc32 : String → UInt32) (s : RtcServer) (streamName : String) : Option ℕ :=
  if s.workers.length = 0 ∨ (s.workers.length : ℤ) ≠ s.workerNum % 2 ^ 64 then none
  else s.workers[(crc32 streamName).toNat % (s.workerNum % 2 ^ 32).toNat]?

/-- `_process_rtc_msg`, of a message popped from the queue: what it sends
on, and to which worker. -/
def processRtcMsg (crc32 : String → UInt32) (s : RtcServer) (expired : Bool)
    (generated : Option ℕ) (msg : RtcMsg) : RtcServer × Option (RtcMsg × ℕ) :=
  let (s, ret) := s.generateAndCheckCertificate expired generated
  if ret ≠ 0 then (s, none)
  else
    let msg := { msg with certificate := s.certificate }
    (s, (s.getWorker crc32 msg.streamName).map fun worker => (msg, worker))

end RtcServer

namespace RtcWorker

variable {PC : Type} (ops : PeerConnectionOps PC) (mgr : RtcStreamManager PC) (msg : RtcMsg)

/-- The error number of a message after a command returned `ret`. -/
def withRet (ret : ℤ) (msg : RtcMsg) : RtcMsg := if ret ≠ 0 then { msg with errNo := -1 } else msg

def processPush : RtcStreamManager PC × RtcMsg :=
  let (mgr, ret, offer) := mgr.createPushStream ops msg.uid msg.streamName (msg.audio ≠ 0)
    (msg.video ≠ 0) msg.logId msg.certificate
  (mgr, { withRet ret msg with sdp := offer })

def processPull : RtcStreamManager PC × RtcMsg :=
  let (mgr, ret, offer) := mgr.createPullStream ops msg.uid msg.streamName (msg.audio ≠ 0)
    (msg.video ≠ 0) msg.logId msg.certificate
  (mgr, { withRet ret msg with sdp := offer })

def processStopPush : RtcStreamManager PC × RtcMsg :=
  let (mgr, ret) := mgr.stopPush msg.uid msg.streamName
  (mgr, withRet ret msg)

def processStopPull : RtcStreamManager PC × RtcMsg :=
  let (mgr, ret) := mgr.stopPull msg.uid msg.streamName
  (mgr, withRet ret msg)

/-- The response keeps the `sdp` the client sent. -/
def processAnswer : RtcStreamManager PC × RtcMsg :=
  let (mgr, ret) := mgr.setAnswer ops msg.uid msg.streamName msg.sdp msg.streamType
  (mgr, withRet ret msg)

/-- `_process_rtc_msg`, of a message popped from the queue. A known command
ends with `worker->send_rtc_msg(msg)`, for any other nothing is sent. -/
def processRtcMsg : RtcStreamManager PC × Option RtcMsg :=
  if msg.cmdno = CMDNO_PUSH then (processPush ops mgr msg).map id some
  else if msg.cmdno = CMDNO_PULL then (processPull ops mgr msg).map id some
  else if msg.cmdno = CMDNO_STOPPUSH then (processStopPush mgr msg).map id some
  else if msg.cmdno = CMDNO_STOPPULL then (processStopPull mgr msg).map id some
  else if msg.cmdno = CMDNO_ANSWER then (processAnswer ops mgr msg).map id some
  else (mgr, none)

end RtcWorker

end Server

end XrtcServer
