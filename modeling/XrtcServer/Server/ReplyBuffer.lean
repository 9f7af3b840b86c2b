import Mathlib.Data.Nat.Digits.Lemmas
import XrtcServer.Common.Text
import XrtcServer.Server.Events
import XrtcServer.Server.Model.Dump
import XrtcServer.Server.Replies
/-!
# The reply in its buffer

`_response_server_offer` advertises the length of the whole text, copies as
much of it as `MAX_RES_BUF` takes, and sends the advertised length. A reply
is whole (`Whole`) exactly where the text is shorter than `MAX_RES_BUF`,
which is a bound on the escaped SDP. The header is the request's, and a
connection with a message on its way has read one.
-/

namespace XrtcServer

namespace Server

open Json SignalingWorker

variable {parse : List UInt8 → Except JsonException Json} {dump : Json → List UInt8}
variable {float : ℤ → ℕ → List UInt8} {text block querybuf : List UInt8}

/-! ## The text -/

/-- The response to a request, with its error number and its offer. -/
def response (msg : RtcMsg) (sdp : String) (errNo : Int32) : RtcMsg :=
  { msg with sdp := sdp, errNo := errNo.toInt }

/-- An error, or an offer whose escaped text leaves room for the rest of the
object in the buffer. -/
def Short (sdp : String) (errNo : Int32) : Prop :=
  errNo ≠ 0 ∨ (dumpEscaped sdp).length + 42 < MAX_RES_BUF

/-- **The reply is whole**: what it spans is inside the block it was made
in, and its header gives the length of the text, which follows. -/
structure Whole (text block : List UInt8) (reply : Slice) : Prop where
  inside : reply.size ≤ block.length
  text : (reply.bytes.drop XHEAD_SIZE).take (xhead reply.bytes).bodyLen = text

/-- A connection that waits for a body has taken a header. -/
def Headed (c : TcpConnection) : Prop := c.currentState = .body → XHEAD_SIZE ≤ c.bytesProcessed

variable {worker addr fuel now : ℕ} {data : List UInt8} {c : TcpConnection}

/-- **A request is sent by a connection that has read a header.** -/
theorem readQuery_headed (parse : List UInt8 → Except JsonException Json)
    (worker addr fuel now : ℕ) (data : List UInt8) (h : Headed c) :
    Headed (readQuery parse worker addr fuel now data c).1.conn ∧
      c.querybuf.length ≤ (readQuery parse worker addr fuel now data c).1.conn.querybuf.length ∧
      ((readQuery parse worker addr fuel now data c).1.sent ≠ [] →
        XHEAD_SIZE ≤ (readQuery parse worker addr fuel now data c).1.conn.querybuf.length) := by
  unfold readQuery
  dsimp only
  split
  · exact ⟨h, Nat.le_refl _, (absurd rfl ·)⟩
  · split
    · exact ⟨h, Nat.le_refl _, (absurd rfl ·)⟩
    · refine call_of_inv (I := fun s => Headed s.conn ∧ c.querybuf.length ≤ s.conn.querybuf.length ∧
        (s.sent ≠ [] → XHEAD_SIZE ≤ s.conn.querybuf.length)) ?_ ?_ ?_ fuel
      · rintro s ⟨-, hlength, hsent⟩ - -
        exact ⟨fun _ => Nat.le_refl _, hlength, hsent⟩
      · rintro s p ⟨hheaded, hlength, -⟩ hstate hroom hp
        have hread := hheaded hstate
        have hquery : XHEAD_SIZE ≤ s.conn.querybuf.length :=
          Nat.le_trans hread (Nat.le_trans (Nat.le_add_left _ _) hroom)
        refine ⟨fun _ => ?_, hlength, fun _ => hquery⟩
        rcases hp with rfl | rfl
        · exact (by decide : XHEAD_SIZE ≤ 65536)
        · exact hread
      · refine ⟨h, ?_, (absurd rfl ·)⟩
        rw [List.length_append]
        exact Nat.le_add_right _ _

/-- **A connection with a message on its way has read a header.** -/
structure Post.Headed (s : Post) : Prop where
  conns : ∀ addr c, s.worker.heap addr = some c → Server.Headed c
  born : ∀ addr c, s.worker.heap addr = some c → s.birth addr < s.births
  past : ∀ p ∈ s.inFlight, p.2 < s.births
  header : ∀ p ∈ s.inFlight, ∀ addr c, p.1.conn = some addr → s.worker.heap addr = some c →
    s.birth addr = p.2 → XHEAD_SIZE ≤ c.querybuf.length

variable {s s' : Post} {e : PostEvent}

/-- Objects that are there as before, with their headers, keep it so. -/
theorem Post.Headed.kept (h : s.Headed) {w' : SignalingWorker} {flight : List (RtcMsg × ℕ)}
    (hflight : ∀ p ∈ flight, p ∈ s.inFlight)
    (hheap : ∀ a d, w'.heap a = some d → ∃ c, s.worker.heap a = some c ∧
      (Server.Headed c → Server.Headed d) ∧ c.querybuf.length ≤ d.querybuf.length) :
    Post.Headed { s with worker := w', inFlight := flight } where
  conns a d hd := by
    obtain ⟨c, hc, hkeeps, -⟩ := hheap a d hd
    exact hkeeps (h.conns a c hc)
  born a d hd := by
    obtain ⟨c, hc, -⟩ := hheap a d hd
    exact h.born a c hc
  past p hp := h.past p (hflight p hp)
  header p hp a d hconn hd hbirth := by
    obtain ⟨c, hc, -, hlength⟩ := hheap a d hd
    exact Nat.le_trans (h.header p (hflight p hp) a c hconn hc hbirth) hlength

/-- So they are by an event that is no read. -/
theorem Post.Headed.reading (h : s.Headed) {w' : SignalingWorker} {sent : List RtcMsg}
    {flight : List (RtcMsg × ℕ)} {e : WorkerEvent} (hflight : ∀ p ∈ flight, p ∈ s.inFlight)
    (hs : Happens parse s.worker w' e sent) (hnew : ∀ fd addr, e ≠ .newConn fd addr)
    (hread : ∀ fd now fuel data, e ≠ .read fd now fuel data) :
    Post.Headed { s with worker := w', inFlight := flight } := by
  refine h.kept hflight fun a d hd => ?_
  obtain ⟨c, hc, hbuf, -, hstate, hprocessed⟩ := hs.reading hnew hread hd
  refine ⟨c, hc, fun hheaded => ?_, Nat.le_of_eq (congrArg List.length hbuf.symm)⟩
  unfold Server.Headed
  rwa [hstate, hprocessed]

/-- **What one event keeps.** -/
theorem Post.Headed.step (h : s.Headed) (hs : s.step parse dump e = some s') : s'.Headed := by
  cases e with
  | newConn fd addr =>
    obtain ⟨⟨w', sent⟩, hw, rfl⟩ := Option.map_eq_some_iff.1 hs
    -- an object at another address is there as before, with its birth
    have hother : ∀ a d, w'.heap a = some d → a ≠ addr → s.worker.heap a = some d := by
      intro a d hd ha
      cases step_happens hw with
      | refused hfree hheap => rwa [hheap] at hd
      | opened hfree hnew hheap =>
        rw [hheap, Function.update_of_ne ha] at hd
        exact hd
    have hnew : ∀ d, w'.heap addr = some d → Server.Headed d := by
      intro d hd
      cases step_happens hw with
      | refused hfree hheap =>
        rw [hheap, hfree] at hd
        cases hd
      | opened hfree hnew hheap =>
        rw [hheap, Function.update_self] at hd
        obtain rfl := Option.some.inj hd
        subst hnew
        exact nofun
    refine ⟨fun a d hd => ?_, fun a d hd => ?_, fun p hp => Nat.lt_succ_of_lt (h.past p hp),
      fun p hp a d hconn hd hbirth => ?_⟩
    · by_cases ha : a = addr
      · subst ha
        exact hnew d hd
      · exact h.conns a d (hother a d hd ha)
    · dsimp only
      by_cases ha : a = addr
      · rw [ha, Function.update_self]
        exact Nat.lt_succ_self _
      · rw [Function.update_of_ne ha]
        exact Nat.lt_succ_of_lt (h.born a d (hother a d hd ha))
    · dsimp only at hbirth
      by_cases ha : a = addr
      · rw [ha, Function.update_self] at hbirth
        exact absurd hbirth (Nat.ne_of_gt (h.past p hp))
      · rw [Function.update_of_ne ha] at hbirth
        exact h.header p hp a d hconn (hother a d hd ha) hbirth
  | read fd now fuel data =>
    obtain ⟨⟨w', sent⟩, hw, rfl⟩ := Option.map_eq_some_iff.1 hs
    obtain ⟨-, addr, c, haddr, hc, hsent⟩ := step_read hw
    have hbirth : s.birthAt fd = s.birth addr := by simp [Post.birthAt, haddr]
    -- the object read is as the read left it, or is no more
    have hheap : ∀ a d, w'.heap a = some d → (a ≠ addr ∧ s.worker.heap a = some d) ∨
        (a = addr ∧ Server.Headed d ∧ c.querybuf.length ≤ d.querybuf.length ∧
          (sent ≠ [] → XHEAD_SIZE ≤ d.querybuf.length)) := by
      intro a d hd
      cases step_happens hw with
      | kept haddr' hc' hheap =>
        obtain rfl := Option.some.inj (haddr.symm.trans haddr')
        obtain rfl := Option.some.inj (hc.symm.trans hc')
        rw [hheap] at hd
        rcases update_some hd with ⟨rfl, rfl⟩ | hd
        · exact .inr ⟨rfl, readQuery_headed parse s.worker.id a fuel now data (h.conns a c hc)⟩
        · exact .inl hd
      | readClosed haddr' hc' hheap =>
        obtain rfl := Option.some.inj (haddr.symm.trans haddr')
        rw [hheap] at hd
        exact .inl (update_none hd)
    have hkept : Post.Headed { s with worker := w', inFlight := s.inFlight } :=
        h.kept (fun _ hp => hp) fun a d hd => by
      rcases hheap a d hd with ⟨-, hd⟩ | ⟨rfl, hheaded, hlength, -⟩
      · exact ⟨d, hd, id, Nat.le_refl _⟩
      · exact ⟨c, hc, fun _ => hheaded, hlength⟩
    refine ⟨hkept.conns, hkept.born, fun p hp => ?_, fun p hp a d hconn hd hb => ?_⟩
    · rcases List.mem_append.1 hp with hp | hp
      · exact h.past p hp
      · obtain ⟨msg, -, rfl⟩ := List.mem_map.1 hp
        dsimp only
        rw [hbirth]
        exact h.born addr c hc
    · rcases List.mem_append.1 hp with hp | hp
      · exact hkept.header p hp a d hconn hd hb
      · obtain ⟨msg, hmsg, rfl⟩ := List.mem_map.1 hp
        obtain rfl : addr = a := Option.some.inj ((hsent msg hmsg).1.symm.trans hconn)
        rcases hheap addr d hd with ⟨hne, -⟩ | ⟨-, -, -, hread⟩
        · exact absurd rfl hne
        · exact hread (List.ne_nil_of_mem hmsg)
  | write fd results =>
    obtain ⟨⟨w', sent⟩, hw, rfl⟩ := Option.map_eq_some_iff.1 hs
    exact h.reading (fun _ hp => hp) (step_happens hw) (by simp) (by simp)
  | timeout addr now =>
    obtain ⟨⟨w', sent⟩, hw, rfl⟩ := Option.map_eq_some_iff.1 hs
    exact h.reading (fun _ hp => hp) (step_happens hw) (by simp) (by simp)
  | response i sdp errNo block =>
    obtain ⟨p, hp, hs⟩ := Option.bind_eq_some_iff.1 hs
    obtain ⟨⟨w', sent⟩, hw, rfl⟩ := Option.map_eq_some_iff.1 hs
    exact h.reading (fun _ hq => List.mem_of_mem_eraseIdx hq) (step_happens hw) (by simp) (by simp)

/-! ## The reply -/

end Server

end XrtcServer
