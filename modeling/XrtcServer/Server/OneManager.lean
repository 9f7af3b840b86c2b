import XrtcServer.Common.Simulation
import XrtcServer.Server.Dispatch
import XrtcServer.Stream.Sharded
/-!
# The workers as one manager

The streams are spread over the workers by the hash of their names. Whatever
the threads do, and in whatever order, one manager that handles the same
messages one after the other gives the same answers and has the same
streams: `OneManager` is what the server and its workers implement together.
-/

namespace XrtcServer

namespace Server

open Common Relay XrtcServer.Stream

variable {PC : Type} {parse : List UInt8 → Except JsonException Json}
variable {crc32 : String → UInt32} {ops : PeerConnectionOps PC} {W M : ℕ}

/-- One manager for all streams, and what it has handled and answered. -/
structure OneManager (PC : Type) where
  manager : RtcStreamManager PC := RtcStreamManager.init
  log : List (Parcel × Option RtcMsg) := []

inductive OneEvent where
  | message (p : Parcel)
  | callback (e : Stream.Event)

/-- A message is handled by the command in it, or a stream calls back. -/
def OneManager.step (ops : PeerConnectionOps PC) (s : OneManager PC) : OneEvent →
    Option (OneManager PC)
  | .message p =>
    let r := RtcWorker.processRtcMsg ops s.manager p.msg
    some { manager := r.1, log := s.log ++ [(p, r.2)] }
  | .callback e =>
    if Sharded.isCallback e then
      (Stream.step ops s.manager e).map fun manager => { s with manager := manager }
    else none

/-- The worker of a stream name. -/
def shard (crc32 : String → UInt32) (M : ℕ) (streamName : String) : ℕ :=
  (crc32 streamName).toNat % M

/-- A message with its answer, sent to the signaling worker in it. -/
def answered (x : Parcel × Option RtcMsg) : Parcel × Option (Parcel × Node) :=
  (x.1, x.2.bind fun msg => msg.worker.map fun w => ({ x.1 with msg := msg }, .signaling w))

/-- **What the workers and the one manager have in common**: the streams, and
what each worker has handled and answered. -/
structure Mirrors (crc32 : String → UInt32) (M : ℕ) (s : System PC) (one : OneManager PC) :
    Prop where
  sharded : ∃ f, Sharded (shard crc32 M) s.store.managers one.manager f
  took : ∀ k, s.took (.worker k) =
    (one.log.filter fun x => route crc32 M x.1 = k).map answered

theorem mirrors_init {server : RtcServer} :
    Mirrors crc32 M (System.init server : System PC) {} where
  sharded := ⟨_, Sharded.init⟩
  took _ := rfl

variable {server : RtcServer} {s s' : System PC} {one : OneManager PC}

/-- Nothing that the one manager knows of. -/
theorem Mirrors.unchanged (h : Mirrors crc32 M s one)
    (hmanagers : s'.store.managers = s.store.managers)
    (htook : ∀ k, s'.took (.worker k) = s.took (.worker k)) : Mirrors crc32 M s' one := by
  refine ⟨?_, fun k => ?_⟩
  · rw [hmanagers]
    exact h.sharded
  · rw [htook, h.took]

/-- **The manager of a worker handles a message as the one manager does.** -/
theorem processRtcMsg_sharded (ops : PeerConnectionOps PC) {route : String → ℕ}
    {managers : ℕ → RtcStreamManager PC} {manager : RtcStreamManager PC} {f : ℕ → ℕ → ℕ}
    (h : Sharded route managers manager f) {k : ℕ} {msg : RtcMsg}
    (hk : route msg.streamName = k) :
    (∃ g, Sharded route (Function.update managers k (RtcWorker.processRtcMsg ops (managers k) msg).1)
      (RtcWorker.processRtcMsg ops manager msg).1 g) ∧
      (RtcWorker.processRtcMsg ops manager msg).2 =
        (RtcWorker.processRtcMsg ops (managers k) msg).2 := by
  unfold RtcWorker.processRtcMsg
  split
  case isTrue =>
    have hpush := h.createPushStream ops msg.uid (msg.audio ≠ 0) (msg.video ≠ 0) msg.logId
      msg.certificate hk
    exact ⟨hpush.1, by simp only [Prod.map, RtcWorker.processPush, hpush.2]⟩
  case isFalse =>
    split
    case isTrue =>
      have hpull := h.createPullStream ops msg.uid (msg.audio ≠ 0) (msg.video ≠ 0) msg.logId
        msg.certificate hk
      exact ⟨hpull.1, by simp only [Prod.map, RtcWorker.processPull, hpull.2]⟩
    case isFalse =>
      split
      case isTrue => exact ⟨⟨f, h.removeStream _ _ hk⟩, rfl⟩
      case isFalse =>
        split
        case isTrue => exact ⟨⟨f, h.removeStream _ _ hk⟩, rfl⟩
        case isFalse =>
          split
          case isTrue =>
            have hanswer := h.setAnswer ops msg.uid msg.sdp msg.streamType hk
            exact ⟨⟨f, hanswer.1⟩, by simp only [Prod.map, RtcWorker.processAnswer, hanswer.2]⟩
          case isFalse => exact ⟨⟨f, h.same⟩, rfl⟩

/-- A worker has popped a message: so does the one manager. -/
theorem Mirrors.message (h : Mirrors crc32 M s one) (cert : CertificateInput) {k : ℕ} {p : Parcel}
    {rest : List Parcel} {ph : Phase Node Parcel} (hroute : route crc32 M p = k)
    (hs : s' = (s.taken (.worker k) p rest
      (handleParcel crc32 ops (.worker k) s.store cert p)).goto (.worker k) ph) :
    ∃ one', one.step ops (.message p) = some one' ∧ Mirrors crc32 M s' one' := by
  obtain ⟨f, hf⟩ := h.sharded
  obtain ⟨⟨g, hg⟩, hsame⟩ := processRtcMsg_sharded ops hf hroute
  refine ⟨_, rfl, ⟨g, ?_⟩, fun j => ?_⟩
  · rw [hs]
    exact hg
  · rw [hs, State.goto_took, State.taken_took, List.filter_append, List.map_append, ← h.took]
    by_cases hj : j = k
    · subst hj
      have hkept : decide (route crc32 M p = j) = true := decide_eq_true hroute
      rw [if_pos rfl, List.filter_singleton, hkept, hsame]
      rfl
    · have hne : ¬ (.worker j : Node) = .worker k := fun heq => hj (Node.worker.inj heq)
      have hleft : decide (route crc32 M p = j) = false :=
        decide_eq_false fun heq => hj (heq.symm.trans hroute)
      rw [if_neg hne, List.filter_singleton, hleft]
      simp

/-- A stream of a worker calls back: so does that stream of the one
manager. -/
theorem Mirrors.callback (h : Mirrors crc32 M s one) {node : Node} {e : Stream.Event}
    {store : Store PC} (hs : streamCallback ops node s.store e = some store) :
    ∃ e' one', one.step ops (.callback e') = some one' ∧
      Mirrors crc32 M { s with store := store } one' := by
  obtain ⟨f, hf⟩ := h.sharded
  have hcallback : ∃ k m', Sharded.isCallback e = true ∧
      Stream.step ops (s.store.managers k) e = some m' ∧
      store.managers = Function.update s.store.managers k m' := by
    unfold streamCallback at hs
    split at hs
    · obtain ⟨m', hm', rfl⟩ := Option.map_eq_some_iff.1 hs
      exact ⟨_, m', rfl, hm', rfl⟩
    · obtain ⟨m', hm', rfl⟩ := Option.map_eq_some_iff.1 hs
      exact ⟨_, m', rfl, hm', rfl⟩
    · cases hs
  obtain ⟨k, m', he, hm', hstore⟩ := hcallback
  obtain ⟨one', hone, hnew⟩ := hf.callback he hm'
  have he' : Sharded.isCallback (Sharded.renumber (f k) e) = true := by
    cases e with
    | connectionState | iceTimeout => rfl
    | createPushStream | createPullStream | stopPush | stopPull | setAnswer => cases he
  refine ⟨Sharded.renumber (f k) e, { one with manager := one' }, ?_, ⟨f, ?_⟩, h.took⟩
  · simp only [OneManager.step, he', if_true, hone, Option.map_some]
  · rw [hstore]
    exact hnew

/-- A message that a worker pops is of a stream of its own. -/
theorem route_of_taken (h : Inv crc32 ops W M server s') {k : ℕ} {p : Parcel}
    (hp : p ∈ s'.handledBy k) : route crc32 M p = k := by
  obtain ⟨q, -, hroute, c, rfl⟩ := handled_entered h hp
  exact hroute

/-- **Each step of the threads is at most one step of the one manager.** -/
theorem mirrors_step (h : Mirrors crc32 M s one) (hinv : Inv crc32 ops W M server s')
    {node : Node} {a : Act Node Parcel CertificateInput Stream.Event}
    (hs : (threads crc32 ops W server).step s (node, a) = some s') :
    ∃ os one', run (OneManager.step ops) one os = some one' ∧ Mirrors crc32 M s' one' := by
  obtain ⟨-, hm⟩ := moves_of_step hs
  cases hm with
  | send | wake | starve | forward | notify =>
    exact ⟨[], one, rfl, h.unchanged rfl fun k => rfl⟩
  | callback hph hstore =>
    obtain ⟨e, one', hone, hmirrors⟩ := h.callback hstore
    exact ⟨[.callback e], one', by rw [run_cons, hone, Option.bind_some, run_nil], hmirrors⟩
  | @take cert p rest r hph hq hr =>
    cases node with
    | signaling w =>
      subst hr
      refine ⟨[], one, rfl, h.unchanged rfl fun k => ?_⟩
      rw [State.goto_took, State.taken_took, if_neg (by simp)]
    | server =>
      subst hr
      refine ⟨[], one, rfl, h.unchanged rfl fun k => ?_⟩
      rw [State.goto_took, State.taken_took, if_neg (by simp)]
    | worker k =>
      have htaken : p ∈ System.handledBy
          ((s.taken (.worker k) p rest r).goto (.worker k) (next r.2)) k := by
        rw [System.handledBy, State.goto_took, State.taken_took, if_pos rfl, List.map_append]
        exact List.mem_append_right _ List.mem_cons_self
      subst hr
      obtain ⟨one', hone, hmirrors⟩ := h.message cert (route_of_taken hinv htaken) rfl
      exact ⟨[.message p], one', by rw [run_cons, hone, Option.bind_some, run_nil], hmirrors⟩

theorem follows_step (server : RtcServer) (hpos : 0 < M) (hint : M < 2 ^ 31) :
    Follows (System.step parse crc32 ops W server) (OneManager.step ops)
      DispatchEvent.CertificateAvailable
      (fun s one => Inv crc32 ops W M server s ∧ Mirrors crc32 M s one) := by
  rintro s e s' one ⟨hinv, hmirrors⟩ hcert hs
  have hinv' := inv_step hpos hint hinv hcert hs
  rcases step_cases hcert hs with rfl | ⟨node, a, hstep, -⟩
  · exact ⟨[], one, rfl, hinv, hmirrors⟩
  · obtain ⟨os, one', hrun, hmirrors'⟩ := mirrors_step hmirrors hinv' hstep
    exact ⟨os, one', hrun, hinv', hmirrors'⟩

/-- **The server and its workers implement one manager.** For every run of
the threads there is a run of one manager that handles the messages one at a
time: it has the streams of all workers and no others, and each worker has
handled the messages of its streams, and answered them, as the one manager
did. -/
theorem workers_are_one {workerNum : ℤ} {created : ℕ → Bool} (hpos : 0 < workerNum)
    (hint : workerNum < 2 ^ 31) (hcreated : ∀ i : ℕ, i < workerNum → created i = true)
    {es : List DispatchEvent} {t : System PC} (hcert : ∀ e ∈ es, e.CertificateAvailable)
    (hrun : run (System.step parse crc32 ops W (RtcServer.init workerNum created))
      (System.init (RtcServer.init workerNum created)) es = some t) :
    ∃ os one, run (OneManager.step ops) {} os = some one ∧
      (∃ f, Sharded (shard crc32 workerNum.toNat) t.store.managers one.manager f) ∧
      ∀ k, t.took (.worker k) =
        (one.log.filter fun x => route crc32 workerNum.toNat x.1 = k).map answered := by
  have hall := allWorkers_init hpos hcreated
  obtain ⟨os, one, hone, -, hmirrors⟩ := Follows.run
    (follows_step (RtcServer.init workerNum created) (by omega) (by omega))
    ⟨inv_init hall, mirrors_init⟩ hcert hrun
  exact ⟨os, one, hone, hmirrors.sharded, hmirrors.took⟩

/-- A request to push `a` or `b`. -/
def parsePush (text : List UInt8) : Except JsonException Json :=
  .ok (.object [("cmdno", .numberInteger 1), ("uid", .numberInteger 7),
    ("stream_name", .string (if text = [97] then "a" else "b")), ("audio", .numberInteger 1),
    ("video", .numberInteger 1)])

/-- Both are pushed, and the worker of `b` is faster. -/
def pushEvents : List DispatchEvent :=
  [.request 3 7 5 ⟨[], 0⟩ ⟨[97], 1⟩, .notify (.signaling 3),
   .request 3 8 6 ⟨[], 0⟩ ⟨[98], 1⟩, .notify (.signaling 3),
   .wake .server, .process .server ⟨false, some 0⟩, .forward .server, .notify .server,
   .wake .server, .process .server ⟨false, some 0⟩, .forward .server, .notify .server,
   .wake (.worker 1), .process (.worker 1) default,
   .wake (.worker 0), .process (.worker 0) default]

theorem two_workers_are_one : ∃ (t : System Unit) (os : List (OneEvent)) (one : OneManager Unit),
    run (System.step parsePush (fun n => if n = "a" then 0 else 1) idleTransport 4
      (RtcServer.init 2 fun _ => true)) (System.init (RtcServer.init 2 fun _ => true))
      pushEvents = some t ∧
    (t.handledBy 0).map Parcel.id = [0] ∧ (t.handledBy 1).map Parcel.id = [1] ∧
    run (OneManager.step idleTransport) {} os = some one ∧
    ∃ f, Sharded (shard (fun n => if n = "a" then 0 else 1) 2) t.store.managers one.manager f := by
  have hlogs : (run (System.step parsePush (fun n => if n = "a" then 0 else 1) idleTransport 4
      (RtcServer.init 2 fun _ => true)) (System.init (RtcServer.init 2 fun _ => true))
      pushEvents).map (fun t => ((t.handledBy 0).map Parcel.id, (t.handledBy 1).map Parcel.id)) =
        some ([0], [1]) := by decide +kernel
  obtain ⟨t, hrun, hids⟩ := Option.map_eq_some_iff.1 hlogs
  obtain ⟨hzero, hone⟩ := Prod.mk.inj hids
  have hcert : ∀ e ∈ pushEvents, e.CertificateAvailable := by
    simp [pushEvents, DispatchEvent.CertificateAvailable]
  obtain ⟨os, one, hos, hsharded, -⟩ :=
    workers_are_one (by decide) (by decide) (fun _ _ => rfl) hcert hrun
  exact ⟨t, os, one, hrun, hzero, hone, hos, hsharded⟩

end Server

end XrtcServer
