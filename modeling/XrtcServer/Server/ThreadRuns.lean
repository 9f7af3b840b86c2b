import XrtcServer.Common.Run
import XrtcServer.Server.Events
import XrtcServer.Server.Model.EventThread
/-!
# The runs of the event thread

What the event thread does to its worker is a run of the worker: a callback
for both reading and writing is two events of it, and one that finds nothing
to do is none. So what the worker's events keep of every connection
(`Kept`), the event thread keeps.
-/

namespace XrtcServer

namespace Server

open Base Common

variable {parse : List UInt8 → Except JsonException Json} {dump : Json → List UInt8}
variable {s s' : EventThread} {w w' : SignalingWorker} {fd : ℤ} {addr now fuel : ℕ}

/-- One event of a worker, without its messages. -/
def SignalingWorker.next (parse : List UInt8 → Except JsonException Json)
    (dump : Json → List UInt8) (w : SignalingWorker) (e : WorkerEvent) : Option SignalingWorker :=
  (w.step parse dump e).map Prod.fst

/-- Some events of the worker lead from one state to the other. -/
def Leads (parse : List UInt8 → Except JsonException Json) (dump : Json → List UInt8)
    (w w' : SignalingWorker) : Prop :=
  ∃ es, run (SignalingWorker.next parse dump) w es = some w'

theorem Leads.refl (w : SignalingWorker) : Leads parse dump w w := ⟨[], rfl⟩

theorem Leads.trans {w'' : SignalingWorker} (h : Leads parse dump w w')
    (h' : Leads parse dump w' w'') : Leads parse dump w w'' := by
  obtain ⟨es, hes⟩ := h
  obtain ⟨fs, hfs⟩ := h'
  refine ⟨es ++ fs, ?_⟩
  rw [run_append, hes]
  exact hfs

theorem Leads.one (e : WorkerEvent) (sent : List RtcMsg)
    (h : w.step parse dump e = some (w', sent)) : Leads parse dump w w' := by
  refine ⟨[e], ?_⟩
  rw [run_cons, SignalingWorker.next, h]
  rfl

/-! ## One callback -/

theorem closeConn_worker {c : TcpConnection} (h : s.closeConn addr c = .returned s') :
    s'.worker = s.worker.closeConn addr c := by
  unfold EventThread.closeConn at h
  split at h
  · cases h
  · obtain rfl := CallbackEnd.returned.inj h
    rfl

theorem readQuery_leads {data : List UInt8}
    (h : s.readQuery parse fd now fuel data = some (.returned s')) :
    Leads parse dump s.worker s'.worker := by
  unfold EventThread.readQuery at h
  split at h
  · obtain rfl := CallbackEnd.returned.inj (Option.some.inj h)
    exact .refl _
  · split at h
    · cases h
    · rename_i addr haddr
      split at h
      · cases h
      · rename_i c hc
        split at h
        · cases h
        · rename_i hroom
          dsimp only at h
          generalize hr : Server.readQuery parse s.worker.id addr fuel now data c = r at h
          refine .one (.read fd now fuel data) r.1.sent ?_
          unfold SignalingWorker.step
          dsimp only
          rw [haddr, Option.bind_some, hc, Option.bind_some, if_neg hroom, hr]
          cases hend : r.2 with
          | kept =>
            rw [hend] at h
            obtain rfl := CallbackEnd.returned.inj (Option.some.inj h)
            rfl
          | closed =>
            rw [hend] at h
            rw [closeConn_worker (Option.some.inj h)]
          | threw e =>
            rw [hend] at h
            cases h
          | busy =>
            rw [hend] at h
            cases h
          | astray =>
            rw [hend] at h
            cases h

theorem writeQuery_leads {results : List ℤ}
    (h : s.writeQuery fd results = some (.returned s')) :
    Leads parse dump s.worker s'.worker := by
  unfold EventThread.writeQuery at h
  split at h
  · obtain rfl := CallbackEnd.returned.inj (Option.some.inj h)
    exact .refl _
  · split at h
    · obtain rfl := CallbackEnd.returned.inj (Option.some.inj h)
      exact .refl _
    · rename_i addr haddr
      split at h
      · cases h
      · rename_i c hc
        dsimp only at h
        generalize hr : Server.writeQuery results c [] = r at h
        refine .one (.write fd results) [] ?_
        unfold SignalingWorker.step
        dsimp only
        rw [haddr, Option.bind_some, hc, Option.bind_some, hr]
        cases hend : r.2.2 with
        | returned =>
          rw [hend] at h
          obtain rfl := CallbackEnd.returned.inj (Option.some.inj h)
          rfl
        | closed =>
          rw [hend] at h
          rw [closeConn_worker (Option.some.inj h)]
        | busy =>
          rw [hend] at h
          cases h

theorem connIoCb_leads {read write : Bool} {data : List UInt8} {results : List ℤ}
    (h : s.connIoCb parse fd read write now fuel data results = some (.returned s')) :
    Leads parse dump s.worker s'.worker := by
  obtain ⟨o, hread, h⟩ := Option.bind_eq_some_iff.1 h
  have hfirst : ∀ t, o = .returned t → Leads parse dump s.worker t.worker := by
    rintro t rfl
    split at hread
    · exact readQuery_leads hread
    · obtain rfl := CallbackEnd.returned.inj (Option.some.inj hread)
      exact .refl _
  cases o with
  | returned t =>
    -- the writing half runs on what the reading half leaves
    refine (hfirst t rfl).trans ?_
    dsimp only at h
    split at h
    · exact writeQuery_leads h
    · obtain rfl := CallbackEnd.returned.inj (Option.some.inj h)
      exact .refl _
  | fault => cases h
  | lost => cases h

theorem connTimerCb_leads (h : s.connTimerCb addr now = .returned s') :
    Leads parse dump s.worker s'.worker := by
  unfold EventThread.connTimerCb at h
  split at h
  · cases h
  · rename_i c hc
    refine .one (.timeout addr now) [] ?_
    simp only [SignalingWorker.step, hc, Option.map_some, SignalingWorker.processTimeout]
    split at h
    · rename_i hlate
      rw [if_pos hlate, closeConn_worker h]
    · rename_i hearly
      obtain rfl := CallbackEnd.returned.inj h
      rw [if_neg hearly]

theorem processRtcMsg_leads {msg : RtcMsg} {block : Option (List UInt8)}
    (h : s.processRtcMsg dump msg block = .returned s') :
    Leads parse dump s.worker s'.worker := by
  refine .one (.response msg block) [] ?_
  refine congrArg (fun w => some (w, ([] : List RtcMsg))) ?_
  unfold EventThread.processRtcMsg at h
  unfold SignalingWorker.processRtcMsg
  split at h
  · rename_i hcmd
    rw [if_pos hcmd]
    unfold SignalingWorker.responseServerOffer
    cases haddr : s.worker.responseConn msg with
    | none =>
      rw [haddr] at h
      obtain rfl := CallbackEnd.returned.inj h
      rfl
    | some addr =>
      rw [haddr] at h
      dsimp only at h ⊢
      unfold EventThread.addReplyTo at h
      cases hc : s.worker.heap addr with
      | none =>
        rw [hc] at h
        cases h
      | some c =>
        rw [hc] at h
        cases block with
        | none =>
          obtain rfl := CallbackEnd.returned.inj h
          rfl
        | some block =>
          obtain rfl := CallbackEnd.returned.inj h
          rfl
  · rename_i hcmd
    obtain rfl := CallbackEnd.returned.inj h
    rw [if_neg hcmd]

/-- **A callback that returns is some events of the worker.** -/
theorem step_leads {e : LoopEvent} (h : s.step parse dump e = some s') :
    Leads parse dump s.worker s'.worker := by
  have hcall : s.callback parse dump e = some (.returned s') := by
    unfold EventThread.step at h
    split at h
    · rename_i hcall
      obtain rfl := Option.some.inj h
      exact hcall
    · cases h
  cases e with
  | newConn fd addr io timer =>
    unfold EventThread.callback at hcall
    dsimp only at hcall
    split at hcall
    · cases hcall
    · rename_i hfree
      rw [not_or, not_or] at hfree
      -- the thread asks the same of the new objects as the worker, and more
      obtain rfl := CallbackEnd.returned.inj (Option.some.inj hcall)
      refine .one (.newConn fd addr) [] ?_
      rw [SignalingWorker.step, if_neg (not_or.2 ⟨hfree.1, hfree.2.1⟩)]
      unfold EventThread.newConn SignalingWorker.newConn
      split <;> rfl
  | io watcher read write now fuel data results =>
    obtain ⟨fd, -, hio⟩ := Option.bind_eq_some_iff.1 hcall
    exact connIoCb_leads hio
  | timer watcher now =>
    obtain ⟨addr, -, htimer⟩ := Option.map_eq_some_iff.1 hcall
    exact connTimerCb_leads htimer
  | response msg block => exact processRtcMsg_leads (Option.some.inj hcall)

/-- **A run of the event thread is a run of its worker.** -/
theorem run_leads {es : List LoopEvent}
    (h : run (EventThread.step parse dump) s es = some s') :
    Leads parse dump s.worker s'.worker :=
  inv_of_run (I := fun t => Leads parse dump s.worker t.worker)
    (fun _ _ _ ht he => ht.trans (step_leads he)) (.refl _) h

/-! ## What is kept of every connection -/

/-- A new connection has it, and what the callbacks do to a connection keeps
it. -/
structure Kept (parse : List UInt8 → Except JsonException Json) (P : TcpConnection → Prop) :
    Prop where
  new : ∀ fd, P { fd := fd, ioWatcher := IOWatcher.startIoEvent {} fd .READ }
  read : ∀ worker addr fuel now data c, P c →
    P (readQuery parse worker addr fuel now data c).1.conn
  write : ∀ results c, P c → P (writeQuery results c []).1
  reply : ∀ r c, P c → P (addReply r c)

variable {P : TcpConnection → Prop}

/-- Every connection of the worker has it. -/
def Throughout (P : TcpConnection → Prop) (w : SignalingWorker) : Prop :=
  ∀ addr c, w.heap addr = some c → P c

theorem Kept.happens (hP : Kept parse P) {e : WorkerEvent} {sent : List RtcMsg}
    (hw : Throughout P w) (h : Happens parse w w' e sent) : Throughout P w' := by
  intro a d hd
  cases h.comes hd with
  | new hd =>
    subst hd
    exact hP.new _
  | same hd => exact hw a d hd
  | read hc hd =>
    subst hd
    exact hP.read _ _ _ _ _ _ (hw a _ hc)
  | written hc hd =>
    subst hd
    exact hP.write _ _ (hw a _ hc)
  | answered hc hd =>
    subst hd
    exact hP.reply _ _ (hw a _ hc)

/-- **In every run of the event thread every connection has it.** -/
theorem Kept.run (hP : Kept parse P) {id : ℕ} {timeout : ℤ} {es : List LoopEvent}
    (h : Common.run (EventThread.step parse dump) (.start id timeout) es = some s) :
    Throughout P s.worker := by
  obtain ⟨ws, hws⟩ := run_leads h
  refine inv_of_run (I := Throughout P) (fun w e w' hw he => ?_) (fun _ _ hc => ?_) hws
  · obtain ⟨⟨w'', sent⟩, hstep, rfl⟩ := Option.map_eq_some_iff.1 he
    exact hP.happens hw (step_happens hstep)
  · cases hc

end Server

end XrtcServer
