import XrtcServer.Common.Relay
import XrtcServer.Server.Model.RtcWorker
/-!
# The threads of the server

Any number of signaling workers, the RTC server and its RTC workers, as
threads that relay messages: a request goes from a signaling worker to the
server, from there to the worker of its stream, and the response back to
the signaling worker in it. Each `send_rtc_msg` is two steps, the message
into the queue and then one number into the pipe, and each number read
makes a handler pop one message at most.
-/

namespace XrtcServer

namespace Server

open Common XrtcServer.Stream

/-- A `shared_ptr<RtcMsg>`: the object, numbered in the order the requests
made them, and what it holds. -/
structure Parcel where
  id : ℕ
  msg : RtcMsg

/-- The threads, by the pointers to their objects. -/
inductive Node where
  | signaling (w : ℕ)
  | server
  | worker (k : ℕ)
deriving DecidableEq

/-- What the threads work on: the server, and each worker's manager. -/
structure Store (PC : Type) where
  server : RtcServer
  managers : ℕ → RtcStreamManager PC := fun _ => RtcStreamManager.init

/-- What the clock and the generator give `_generate_and_check_certificate`. -/
structure CertificateInput where
  expired : Bool
  generated : Option ℕ
deriving Inhabited

variable {PC : Type} (parse : List UInt8 → Except JsonException Json)
variable (crc32 : String → UInt32) (ops : PeerConnectionOps PC)

/-- What a thread does with a message it has popped, and whom it then
sends it to. A signaling worker answers its client. -/
def handleParcel (node : Node) (st : Store PC) (cert : CertificateInput) (p : Parcel) :
    Store PC × Option (Parcel × Node) :=
  match node with
  | .signaling _ => (st, none)
  | .server =>
    let r := st.server.processRtcMsg crc32 cert.expired cert.generated p.msg
    ({ st with server := r.1 }, r.2.map fun f => ({ p with msg := f.1 }, .worker f.2))
  | .worker k =>
    let r := RtcWorker.processRtcMsg ops (st.managers k) p.msg
    ({ st with managers := Function.update st.managers k r.1 },
      r.2.bind fun msg => msg.worker.map fun w => ({ p with msg := msg }, .signaling w))

/-- A callback of a stream, between two messages of its worker. -/
def streamCallback (node : Node) (st : Store PC) (e : Stream.Event) : Option (Store PC) :=
  match node, e with
  | .worker k, .connectionState .. | .worker k, .iceTimeout _ =>
    (Stream.step ops (st.managers k) e).map fun mgr =>
      { st with managers := Function.update st.managers k mgr }
  | _, _ => none

/-- The threads that run: `W` signaling workers, the server, and the RTC
workers it could start. Only the server's handler uses what it popped
without looking whether it is null. -/
def threads (W : ℕ) (server : RtcServer) :
    Relay Node Parcel (Store PC) CertificateInput Stream.Event where
  nodes := insert .server ((Finset.range W).image .signaling ∪ server.workers.toFinset.image .worker)
  handle := handleParcel crc32 ops
  callback := streamCallback ops
  survives := fun node => node ≠ .server

/-- The threads with their queues, pipes and stores. -/
abbrev System (PC : Type) := Relay.State Node Parcel (Store PC)

/-- What a thread does next. A request is what `_process_request` is called
with, in a signaling worker's loop. -/
inductive DispatchEvent where
  | request (w conn : ℕ) (fd : ℤ) (header body : Slice)
  | notify (node : Node)
  | wake (node : Node)
  | process (node : Node) (cert : CertificateInput)
  | forward (node : Node)
  | callback (node : Node) (e : Stream.Event)

/-- One step of one thread. A request that is refused sends nothing. -/
def System.step (W : ℕ) (server : RtcServer) (s : System PC) : DispatchEvent → Option (System PC)
  | .request w conn fd header body =>
    match (processRequest parse ⟨w, conn, fd⟩ header body).sent with
    | [] => some s
    | msg :: _ => (threads crc32 ops W server).step s
        (.signaling w, .send ⟨(s.history .server).length, msg⟩ .server)
  | .notify node => (threads crc32 ops W server).step s (node, .notify)
  | .wake node => (threads crc32 ops W server).step s (node, .wake)
  | .process node cert => (threads crc32 ops W server).step s (node, .take cert)
  | .forward node => (threads crc32 ops W server).step s (node, .forward)
  | .callback node e => (threads crc32 ops W server).step s (node, .callback e)

/-- All threads in their loops and nothing sent. -/
def System.init (server : RtcServer) : System PC := { store := { server := server } }

namespace System

variable (s : System PC)

/-- What was passed to `RtcServer::send_rtc_msg`, in the order it entered
the queue. -/
def entered : List Parcel := (s.history .server).map Prod.snd

/-- What a worker has popped, in order. -/
def handledBy (k : ℕ) : List Parcel := (s.took (.worker k)).map Prod.fst

/-- What was queued for a signaling worker. -/
def responsesTo (w : ℕ) : List Parcel := (s.history (.signaling w)).map Prod.snd

end System

end Server

end XrtcServer
