import XrtcServer.Ice.Pinging
import XrtcServer.Ice.Writable
/-!
# When a channel slows its pings down

`select_connection_to_ping` keeps the 48 ms rate while any registered
connection has been pinged less than three times. A connection whose peer is
not fully known is never pinged (`IceConnection.Addressed`), and so never
times out either: while one is registered the rate stays. The strong
interval of 480 ms is given where it is due exactly as long as there is no
such connection (`Unhindered`).
-/

namespace XrtcServer

namespace Ice

open IceTransportChannel IceConnection

variable {s t u : IceTransportChannel} {id : ℕ} {now : ℤ} {c d : IceConnection}

/-! ## Connections -/

/-- **A connection without the credentials of its peer has never been
pinged**: it waits for no answer and is not writable. -/
def IceConnection.Addressed (c : IceConnection) : Prop :=
  c.hasCredentials = true ∨ c.numPingsSent = 0 ∧ c.requests = [] ∧ c.writable = false

theorem addressed_of_kept (h : Kept c d) (hpings : d.numPingsSent = c.numPingsSent)
    (hwritable : d.writable = true → c.writable = true ∨ c.requests ≠ []) (hc : c.Addressed) :
    d.Addressed := by
  rcases hc with hcredentials | ⟨hnone, hrequests, hnot⟩
  · left
    unfold hasCredentials at hcredentials ⊢
    rw [h.candidate]
    exact hcredentials
  · refine .inr ⟨hpings.trans hnone, List.subset_nil.1 (hrequests ▸ h.requests), ?_⟩
    rw [← Bool.not_eq_true]
    intro hd
    rcases hwritable hd with hw | hr
    · rw [hnot] at hw
      cases hw
    · exact hr hrequests

/-- An answer brings credentials and takes none away. -/
theorem maybeSetRemoteIceParams_addressed (h : c.Addressed) (params : IceParameters) :
    (c.maybeSetRemoteIceParams params).Addressed := by
  unfold maybeSetRemoteIceParams
  split
  · rename_i hempty
    simp only [Bool.and_eq_true, decide_eq_true_eq] at hempty
    rcases h with hcredentials | hnone
    · simp [hasCredentials, hempty.2] at hcredentials
    · exact .inr hnone
  · exact h

/-! ## Channels -/

/-- Nothing but a ping makes a connection that has been pinged. -/
theorem Quiet.addressed (h : Quiet s t) (hpings : Unpinged s t)
    (hs : ∀ id, (s.heap id).Addressed) : ∀ id, (t.heap id).Addressed :=
  fun id => addressed_of_kept (h id).toKept (congrArg Prod.snd (hpings.pings id))
    (fun hw => .inl ((h id).writable hw)) (hs id)

theorem addressed_setConn (hs : ∀ id, (s.heap id).Addressed) (hc : c.Addressed) :
    ∀ j, ((s.setConn id c).heap j).Addressed := by
  intro j
  by_cases hj : j = id
  · rw [hj, setConn_heap_self]
    exact hc
  · rw [setConn_heap_of_ne hj]
    exact hs j

theorem onUnknownAddress_addressed (hs : ∀ id, (s.heap id).Addressed) {port : UDPPort}
    {addr : SocketAddress} (haddr : port.getConnection addr = none) (portIndex : ℕ)
    (remoteUfrag : String) (priority : Option UInt32) (id : ℕ) (now : ℤ) :
    ∀ j, ((s.onUnknownAddress portIndex port addr remoteUfrag priority id now).heap j).Addressed := by
  unfold onUnknownAddress
  cases priority with
  | none => exact hs
  | some priority =>
    refine Quiet.addressed (onConnectionStateChange_quiet _ now) (onConnectionStateChange_unpinged _ now)
      ?_
    rw [createConnection_of_none haddr]
    refine addressed_setConn hs (.inr ⟨rfl, rfl, ?_⟩)
    rfl

theorem setRemoteIceParams_addressed (hs : ∀ id, (s.heap id).Addressed) (params : IceParameters)
    (now : ℤ) : ∀ id, ((s.setRemoteIceParams params now).heap id).Addressed := by
  have hfold : ∀ (ids : List ℕ) (v : IceTransportChannel), (∀ id, (v.heap id).Addressed) →
      ∀ id, ((ids.foldl (fun ch id =>
        (ch.use id).setConn id ((ch.heap id).maybeSetRemoteIceParams params)) v).heap id).Addressed := by
    intro ids
    induction ids with
    | nil => exact fun _ hv => hv
    | cons id ids ih =>
      intro v hv
      have huse : ∀ j, ((v.use id).heap j).Addressed := (use_noted v id).heap ▸ hv
      exact ih _ (addressed_setConn huse (maybeSetRemoteIceParams_addressed (hv id) params))
  unfold setRemoteIceParams
  exact Quiet.addressed (onConnectionStateChange_quiet _ now) (onConnectionStateChange_unpinged _ now)
    (hfold _ _ hs)

theorem updateConnectionStates_addressed (hs : ∀ id, (s.heap id).Addressed) (now : ℤ) :
    ∀ id, ((s.updateConnectionStates now).heap id).Addressed :=
  Quiet.addressed (foldl_quiet (fun s id => updateState_quiet s id now) s _)
    (updateConnectionStates_unpinged s now) hs

/-- What is pinged has credentials. -/
theorem onCheckAndPing_addressed (hs : ∀ id, (s.heap id).Addressed) (requestId : String) (now : ℤ) :
    ∀ id, ((s.onCheckAndPing requestId now).heap id).Addressed := by
  let u := s.updateConnectionStates now
  let v := (u.selectConnectionToPing now).1
  have hu := updateConnectionStates_addressed hs now
  have hv : ∀ id, (v.heap id).Addressed := by
    rw [(selectConnectionToPing_books u now).2]
    exact hu
  have hping : ∀ id, ((v.pingChosen (pinged s now) requestId now).heap id).Addressed := by
    cases hconn : pinged s now with
    | none => exact hv
    | some id =>
      have hcredentials : (v.heap id).hasCredentials = true := by
        have hread := useAll_noted u
          (u.controller.connections ++ u.controller.selectedConnection.toList)
        have hchosen := IceController.selectConnectionToPing_credentials hconn
        rw [hread.heap] at hchosen
        show ((u.selectConnectionToPing now).1.heap id).hasCredentials = true
        rw [(selectConnectionToPing_books u now).2]
        rcases hchosen with hcredentials | hwritable
        · exact hcredentials
        · rcases hu id with hcredentials | ⟨-, -, hnot⟩
          · exact hcredentials
          · rw [hnot] at hwritable
            cases hwritable
      let w := { v with lastPingSentMs := now }.use id
      have hheap : w.heap = v.heap := (use_noted { v with lastPingSentMs := now } id).heap
      have hw : ∀ j, (w.heap j).Addressed := hheap ▸ hv
      let request : StunRequest := { serial := w.trace.requestsMade, id := requestId, ts := now }
      refine addressed_setConn (s := w) (c := (w.heap id).ping request now) hw (.inl ?_)
      show (w.heap id).hasCredentials = true
      rw [hheap]
      exact hcredentials
  unfold onCheckAndPing changePingInterval
  dsimp only
  split <;> exact hping

variable {movingAverage : ℤ → ℤ → ℤ → ℤ} {e : ChannelEvent}

theorem step_addressed (hs : ∀ id, (s.heap id).Addressed) (hstep : s.step movingAverage e = some t) :
    ∀ id, (t.heap id).Addressed := by
  cases handled_of_step hstep with
  | known packet now hport haddr =>
    rename_i conn _ _
    have hanswers := onReadPacket_answers movingAverage s conn packet now
    have hunpinged := onReadPacket_unpinged movingAverage s conn packet now
    refine fun j => addressed_of_kept (hanswers.kept j) (congrArg Prod.snd (hunpinged.pings j))
      (fun hw => ?_) (hs j)
    rcases hanswers.writable j hw with hold | ⟨rfl, _, _, -, hverified⟩
    · exact .inl hold
    · exact .inr (List.ne_nil_of_mem hverified.mem)
  | stranger remoteUfrag priority now hport haddr hnew =>
    exact onUnknownAddress_addressed hs haddr _ remoteUfrag priority _ now
  | dropped => exact hs
  | params params now => exact setRemoteIceParams_addressed hs params now
  | ticked requestId now htimer => exact onCheckAndPing_addressed hs requestId now
  | sent => exact (useAll_noted s _).heap ▸ hs
  | ended now =>
    refine Quiet.addressed (t := s.destroyChannel now) ?_ (destroyChannel_unpinged s now) hs
    exact foldl_quiet (fun s id => destroy_quiet s id now) { s with timer := none } _

/-! ## The rate -/

/-- The channel is not weak, and every connection that can be pinged has
been, three times. -/
structure Probed (s : IceTransportChannel) : Prop where
  strong : s.controller.weak s.heap = false
  pinged : ∀ id ∈ s.controller.connections, (s.heap id).hasCredentials = true →
    MIN_PINGS_AT_WEAK_PING_INTERVAL ≤ (s.heap id).numPingsSent

/-- **The pings slow down** once there is nobody left to probe. -/
def SlowsDown (s : IceTransportChannel) : Prop :=
  Probed s → ∀ now, (s.selectConnectionToPing now).2.pingInterval = STRONG_PING_INTERVAL

/-- **Nobody keeps the rate up** who cannot be pinged: where all the others
have been, every registered connection has credentials. -/
def Unhindered (s : IceTransportChannel) : Prop :=
  Probed s → ∀ id ∈ s.controller.connections, (s.heap id).hasCredentials = true

theorem selectConnectionToPing_interval (s : IceTransportChannel) (now : ℤ) :
    (s.selectConnectionToPing now).2.pingInterval = s.controller.pingInterval s.heap := by
  have hread := useAll_noted s (s.controller.connections ++ s.controller.selectedConnection.toList)
  have hinterval : ∀ (ctl : IceController) heap lastPingSentMs,
      (ctl.selectConnectionToPing heap lastPingSentMs now).2.pingInterval = ctl.pingInterval heap := by
    intro ctl heap lastPingSentMs
    unfold IceController.selectConnectionToPing
    dsimp only
    split <;> rfl
  refine (hinterval _ _ _).trans ?_
  rw [hread.controller, hread.heap]

theorem slowsDown_iff (hs : ∀ id, (s.heap id).Addressed) : SlowsDown s ↔ Unhindered s := by
  refine forall_congr' fun hprobed => ?_
  simp only [selectConnectionToPing_interval, forall_const]
  constructor
  · intro hstrong id hid
    rcases hs id with hcredentials | ⟨hnone, -⟩
    · exact hcredentials
    · -- one that has never been pinged is counted all the same
      exfalso
      have hcounted : (s.controller.connections.any fun id =>
          decide ((s.heap id).numPingsSent < MIN_PINGS_AT_WEAK_PING_INTERVAL)) = true := by
        refine List.any_eq_true.2 ⟨id, hid, decide_eq_true ?_⟩
        rw [hnone]
        decide
      unfold IceController.pingInterval at hstrong
      dsimp only at hstrong
      rw [hcounted, Bool.or_true, if_pos rfl] at hstrong
      exact absurd hstrong (by decide)
  · intro hknown
    have hall : (s.controller.connections.any fun id =>
        decide ((s.heap id).numPingsSent < MIN_PINGS_AT_WEAK_PING_INTERVAL)) = false := by
      refine List.any_eq_false.2 fun id hid => ?_
      simpa using hprobed.pinged id hid (hknown id hid)
    unfold IceController.pingInterval
    dsimp only
    rw [hall, hprobed.strong, Bool.or_false, if_neg Bool.false_ne_true]

/-! ## Runs -/

/-- The states of a step in which the controller may be asked: the one after
it, and in a tick the one in which it is. -/
def Asked (s : IceTransportChannel) (e : ChannelEvent) (t u : IceTransportChannel) : Prop :=
  u = t ∨ ∃ requestId now, e = .tick requestId now ∧ u = s.updateConnectionStates now

theorem addressed_init (localPriorities : List UInt32) (id : ℕ) :
    ((IceTransportChannel.init localPriorities).heap id).Addressed :=
  .inr ⟨rfl, rfl, rfl⟩

/-- **The pings slow down in every state of a run exactly when no connection
without credentials is registered** where the others have had their three
pings. -/
theorem slowsDown_iff_unhindered (movingAverage : ℤ → ℤ → ℤ → ℤ) (localPriorities : List UInt32)
    (es : List ChannelEvent) :
    Common.EveryStep (IceTransportChannel.step movingAverage)
        (fun s e t => ∀ u, Asked s e t u → SlowsDown u) (.init localPriorities) es ↔
      Common.EveryStep (IceTransportChannel.step movingAverage)
        (fun s e t => ∀ u, Asked s e t u → Unhindered u) (.init localPriorities) es := by
  refine Common.everyStep_iff_of_inv (I := fun s => ∀ id, (s.heap id).Addressed) ?_
    (fun s e t hs hstep _ => step_addressed hs hstep) (addressed_init localPriorities)
  intro s e t hs hstep
  refine forall_congr' fun u => forall_congr' fun hasked => slowsDown_iff ?_
  rcases hasked with rfl | ⟨requestId, now, rfl, rfl⟩
  · exact step_addressed hs hstep
  · exact updateConnectionStates_addressed hs now

/-- A stranger sends a request before the answer comes, under another name
than the peer that then connects and is pinged three times. -/
def strangerRun : List ChannelEvent :=
  [.datagram 0 ⟨0x0A000002, 6000⟩ (.request "other" (some 1)) 0 800,
    .setRemoteIceParams ⟨"peer", "secret"⟩ 900,
    .datagram 0 ⟨0x0A000001, 5000⟩ (.request "peer" (some 1)) 1 1000, .tick "first" 1100,
    .datagram 0 ⟨0x0A000001, 5000⟩
      (.response ⟨STUN_BINDING_RESPONSE, "first", 0, fun _ => true⟩) 2 1150,
    .tick "second" 1200]

/-- **A connection that can never be pinged keeps the channel at 48 ms.** -/
theorem stranger_keeps_rate :
    ¬ Common.EveryStep (IceTransportChannel.step getNextMovingAverage)
      (fun s e t => ∀ u, Asked s e t u → SlowsDown u) (.init [1])
      (strangerRun ++ [.tick "third" 1300]) := by
  intro h
  have hkept : ((Common.run (IceTransportChannel.step getNextMovingAverage) (.init [1])
      strangerRun).bind fun s => (s.step getNextMovingAverage (.tick "third" 1300)).map fun t =>
        decide (t.controller.weak t.heap = false ∧
          (∀ id ∈ t.controller.connections, (t.heap id).hasCredentials = true →
            MIN_PINGS_AT_WEAK_PING_INTERVAL ≤ (t.heap id).numPingsSent) ∧
          (t.selectConnectionToPing 1400).2.pingInterval = 48)) = some true := by
    decide +kernel
  obtain ⟨s, hs, hkept⟩ := Option.bind_eq_some_iff.1 hkept
  obtain ⟨t, ht, hkept⟩ := Option.map_eq_some_iff.1 hkept
  obtain ⟨hstrong, hpinged, hinterval⟩ := of_decide_eq_true hkept
  have hslow := Common.everyStep_last h hs ht t (.inl rfl) ⟨hstrong, hpinged⟩ 1400
  rw [hinterval] at hslow
  exact absurd hslow (by decide)

end Ice

end XrtcServer
