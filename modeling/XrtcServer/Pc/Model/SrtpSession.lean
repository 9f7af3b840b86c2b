import Mathlib.Algebra.Group.Nat.Defs
import Mathlib.Data.Int.Notation
import Mathlib.Data.List.Basic
import Mathlib.Data.Nat.Notation
/-!
# SRTP sessions

`SrtpSession` over libsrtp, and the pair of them in an `SrtpTransport`, with
what `DtlsSrtpTransport` adds to it on the way out. What libsrtp answers is a
parameter and may depend on all that it has been called with before. The use count of the library is shared by every session of the
process, and stands beside what the library was called with. A key is `none`
where its pointer is null.
-/

namespace XrtcServer

namespace Pc

namespace Srtp

/-! ## libsrtp -/

/-- `srtp_crypto_policy_t`, of which these two are read. -/
structure CryptoPolicy where
  cipherKeyLen : ℕ
  authTagLen : ℕ
deriving DecidableEq, Repr

/-- `srtp_ssrc_type_t`. -/
inductive SsrcType where
  | ssrcAnyInbound | ssrcAnyOutbound
deriving DecidableEq, Repr

/-- `srtp_policy_t`, with the profile its two crypto policies come from. -/
structure SrtpPolicy where
  profile : ℤ
  rtp : CryptoPolicy
  rtcp : CryptoPolicy
  ssrcType : SsrcType
  ssrcValue : ℕ := 0
  key : List UInt8
  windowSize : ℕ := 1024
  allowRepeatTx : Bool := true
deriving DecidableEq, Repr

/-- What libsrtp is called with, and what becomes of the sessions. -/
inductive SrtpCall where
  | init
  | installEventHandler
  | create (policy : SrtpPolicy)
  | update (policy : SrtpPolicy)
  | dealloc
  | shutdown
  /-- A session sets `_inited`. -/
  | sessionInited
  /-- A session that has set it is destroyed. -/
  | sessionDestroyed
deriving DecidableEq, Repr

/-- An `int` that is given this number. -/
def asInt (n : ℤ) : ℤ := n.bmod (2 ^ 32)

/-- What libsrtp answers, after these calls. -/
structure Libsrtp where
  init : List SrtpCall → Bool
  installEventHandler : List SrtpCall → Bool
  /-- `srtp_crypto_policy_set_from_profile_for_rtp`, and for RTCP. -/
  policyForRtp : List SrtpCall → ℤ → Option CryptoPolicy
  policyForRtcp : List SrtpCall → ℤ → Option CryptoPolicy
  create : List SrtpCall → SrtpPolicy → Bool
  update : List SrtpCall → SrtpPolicy → Bool

/-- `g_libsrtp_usage_count`, and the calls so far. -/
structure Usage where
  count : ℤ := 0
  calls : List SrtpCall := []
deriving DecidableEq, Repr

namespace Usage

variable (lib : Libsrtp) (g : Usage)

def call (c : SrtpCall) : Usage := { g with calls := g.calls ++ [c] }

/-- `_increment_libsrtp_usage_count_and_maybe_init`. -/
def incrementAndMaybeInit : Usage × Bool :=
  if g.count = 0 then
    if lib.init g.calls = false then (g.call .init, false)
    else if lib.installEventHandler (g.call .init).calls = false then
      ((g.call .init).call .installEventHandler, false)
    else ({ (g.call .init).call .installEventHandler with count := g.count + 1 }, true)
  else ({ g with count := g.count + 1 }, true)

/-- `_decrement_libsrtp_usage_count_and_maybe_deinit`. -/
def decrementAndMaybeDeinit : Usage :=
  let g := { g with count := g.count - 1 }
  if g.count = 0 then g.call .shutdown else g

end Usage

/-! ## A session -/

/-- `SrtpSession`. What `_session` points to is the policy it was made with. -/
structure SrtpSession where
  session : Option SrtpPolicy := none
  inited : Bool := false
  rtpAuthTagLen : ℕ := 0
  rtcpAuthTagLen : ℕ := 0
deriving DecidableEq, Repr

namespace SrtpSession

variable (lib : Libsrtp) (s : SrtpSession) (g : Usage)

/-- `_do_set_key` from where the policy is complete. -/
def install (policy : SrtpPolicy) : SrtpSession × Usage × Bool :=
  let done : SrtpSession := { s with
    session := some policy
    rtpAuthTagLen := policy.rtp.authTagLen
    rtcpAuthTagLen := policy.rtcp.authTagLen }
  match s.session with
  | none =>
    if lib.create g.calls policy then (done, g.call (.create policy), true)
    else ({ s with session := none }, g.call (.create policy), false)
  | some _ =>
    if lib.update g.calls policy then (done, g.call (.update policy), true)
    else (s, g.call (.update policy), false)

/-- `_do_set_key`. -/
def doSetKey (type : SsrcType) (cs : ℤ) (key : Option (List UInt8)) :
    SrtpSession × Usage × Bool :=
  match lib.policyForRtp g.calls cs, lib.policyForRtcp g.calls cs with
  | some rtp, some rtcp =>
    match key with
    | none => (s, g, false)
    | some key =>
      if key.length ≠ rtp.cipherKeyLen then (s, g, false)
      else s.install lib g { profile := cs, rtp := rtp, rtcp := rtcp, ssrcType := type, key := key }
  | _, _ => (s, g, false)

/-- `_set_key`. -/
def setKey (type : SsrcType) (cs : ℤ) (key : Option (List UInt8)) : SrtpSession × Usage × Bool :=
  if s.session.isSome then (s, g, false)
  else
    let (g, ok) := g.incrementAndMaybeInit lib
    if ok then { s with inited := true }.doSetKey lib (g.call .sessionInited) type cs key
    else (s, g, false)

/-- `_update_key`. -/
def updateKey (type : SsrcType) (cs : ℤ) (key : Option (List UInt8)) :
    SrtpSession × Usage × Bool :=
  if s.session.isNone then (s, g, false) else s.doSetKey lib g type cs key

/-- `set_send` and `set_recv`, `update_send` and `update_recv`. -/
def setSend (cs : ℤ) (key : Option (List UInt8)) : SrtpSession × Usage × Bool :=
  s.setKey lib g .ssrcAnyOutbound cs key

def setRecv (cs : ℤ) (key : Option (List UInt8)) : SrtpSession × Usage × Bool :=
  s.setKey lib g .ssrcAnyInbound cs key

def updateSend (cs : ℤ) (key : Option (List UInt8)) : SrtpSession × Usage × Bool :=
  s.updateKey lib g .ssrcAnyOutbound cs key

def updateRecv (cs : ℤ) (key : Option (List UInt8)) : SrtpSession × Usage × Bool :=
  s.updateKey lib g .ssrcAnyInbound cs key

/-- `~SrtpSession`. -/
def destroy : Usage :=
  let g := if s.session.isSome then g.call .dealloc else g
  if s.inited then (g.call .sessionDestroyed).decrementAndMaybeDeinit else g

/-- `get_auth_tag_len`, of two integers that are zero. -/
def getAuthTagLen : ℕ × ℕ :=
  if s.session.isNone then (0, 0) else (s.rtpAuthTagLen, s.rtcpAuthTagLen)

end SrtpSession

/-- `srtp_protect` and `srtp_protect_rtcp`, of a session and a packet. -/
structure Cipher where
  protect : SrtpPolicy → List UInt8 → Option (List UInt8)
  protectRtcp : SrtpPolicy → List UInt8 → Option (List UInt8)

/-- What became of a packet: it was not passed to libsrtp, or this is what
libsrtp made of it. -/
inductive Protection where
  | refused
  | passed (result : Option (List UInt8))
deriving DecidableEq, Repr

def Protection.isPassed : Protection → Bool
  | .refused => false
  | .passed _ => true

namespace SrtpSession

variable (cipher : Cipher) (s : SrtpSession)

/-- `protect_rtp`, of the buffer that starts with `p`. -/
def protectRtp (p : List UInt8) (inLen maxLen : ℤ) : Protection :=
  match s.session with
  | none => .refused
  | some policy =>
    let needLen := asInt (inLen + s.rtpAuthTagLen)
    if maxLen < needLen then .refused
    else .passed (cipher.protect policy (p.take inLen.toNat))

/-- `protect_rtcp`. -/
def protectRtcp (p : List UInt8) (inLen maxLen : ℤ) : Protection :=
  match s.session with
  | none => .refused
  | some policy =>
    let needLen := asInt (asInt (inLen + s.rtpAuthTagLen) + 4)
    if maxLen < needLen then .refused
    else .passed (cipher.protectRtcp policy (p.take inLen.toNat))

end SrtpSession

/-- A `unique_ptr` to a session is cleared or given another. -/
def destroyOld (old : Option SrtpSession) (g : Usage) : Usage :=
  match old with
  | none => g
  | some s => s.destroy g

/-! ## The pair of a transport -/

/-- `SrtpTransport`. -/
structure SrtpTransport where
  sendSession : Option SrtpSession := none
  recvSession : Option SrtpSession := none
deriving DecidableEq, Repr

namespace SrtpTransport

variable (lib : Libsrtp) (t : SrtpTransport) (g : Usage)

/-- `reset_params`. -/
def resetParams : SrtpTransport × Usage :=
  ({}, destroyOld t.recvSession (destroyOld t.sendSession g))

/-- `is_srtp_active`. -/
def isSrtpActive : Bool := t.recvSession.isSome && t.sendSession.isSome

/-- `_create_srtp_session`. -/
def createSrtpSession : SrtpTransport × Usage :=
  ({ sendSession := some {}, recvSession := some {} },
    destroyOld t.recvSession (destroyOld t.sendSession g))

/-- `set_rtp_params` from where it is known whether the sessions are new.
A null pointer followed is `none`. -/
def setBoth (newSession : Bool) (sendCs : ℤ) (sendKey : Option (List UInt8)) (recvCs : ℤ)
    (recvKey : Option (List UInt8)) : Option (SrtpTransport × Usage × Bool) := do
  let send ← t.sendSession
  let (send, g, ok) :=
    if newSession then send.setSend lib g sendCs sendKey else send.updateSend lib g sendCs sendKey
  let t := { t with sendSession := some send }
  if ok = false then
    let (t, g) := t.resetParams g
    return (t, g, false)
  let recv ← t.recvSession
  let (recv, g, ok) :=
    if newSession then recv.setRecv lib g recvCs recvKey else recv.updateRecv lib g recvCs recvKey
  let t := { t with recvSession := some recv }
  if ok = false then
    let (t, g) := t.resetParams g
    return (t, g, false)
  return (t, g, true)

/-- `set_rtp_params`. -/
def setRtpParams (sendCs : ℤ) (sendKey : Option (List UInt8)) (recvCs : ℤ)
    (recvKey : Option (List UInt8)) : Option (SrtpTransport × Usage × Bool) :=
  if t.sendSession.isNone then
    let (t, g) := t.createSrtpSession g
    t.setBoth lib g true sendCs sendKey recvCs recvKey
  else t.setBoth lib g false sendCs sendKey recvCs recvKey

/-- `send_rtp` up to where the packet is protected, of an active transport.
The buffer has room for the tag that the send session says. -/
def sendRtp (cipher : Cipher) (data : List UInt8) : Option Protection :=
  if t.isSrtpActive = false then none
  else
    t.sendSession.map fun send =>
      let capacity := max data.length (data.length + send.getAuthTagLen.1)
      send.protectRtp cipher data (asInt data.length) (asInt capacity)

/-- `send_rtcp`. -/
def sendRtcp (cipher : Cipher) (data : List UInt8) : Option Protection :=
  if t.isSrtpActive = false then none
  else
    t.sendSession.map fun send =>
      let capacity := max data.length (data.length + send.getAuthTagLen.2 + 4)
      send.protectRtcp cipher data (asInt data.length) (asInt capacity)

end SrtpTransport

/-! ## All the transports of the process -/

structure Process where
  transports : List SrtpTransport
  usage : Usage := {}
  /-- What the last call returned. -/
  returned : Bool := true
deriving DecidableEq, Repr

/-- A call on one of the transports. -/
inductive Event where
  | setRtpParams (i : ℕ) (sendCs : ℤ) (sendKey : Option (List UInt8)) (recvCs : ℤ)
      (recvKey : Option (List UInt8))
  | resetParams (i : ℕ)
deriving DecidableEq, Repr

/-- The transport it is made on. -/
def Event.transport : Event → ℕ
  | .setRtpParams i .. | .resetParams i => i

/-- One call, on a transport there is. -/
def step (lib : Libsrtp) (p : Process) : Event → Option Process
  | .setRtpParams i sendCs sendKey recvCs recvKey => do
    let t ← p.transports[i]?
    let (t, g, ok) ← t.setRtpParams lib p.usage sendCs sendKey recvCs recvKey
    return ⟨p.transports.set i t, g, ok⟩
  | .resetParams i => do
    let t ← p.transports[i]?
    let (t, g) := t.resetParams p.usage
    return ⟨p.transports.set i t, g, true⟩

end Srtp

end Pc

end XrtcServer
