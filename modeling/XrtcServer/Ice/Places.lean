import XrtcServer.Ice.Aggregates
import XrtcServer.Ice.Mapped
/-!
# What stays of a channel

A connection never leaves its port or the address of its peer, keeps a
password once it has one, and the channel can only reach the connections it
could reach before, or a new one. `Stays` says so of every method but the
one that makes a connection. It holds after a connection has been destroyed
as well, when the controller may still have its pointer.
-/

namespace XrtcServer

namespace Ice

open IceTransportChannel IceConnection

/-- Where a connection is, and whose it is. -/
def IceConnection.place (c : IceConnection) : ℕ × SocketAddress × String :=
  (c.port, c.remoteCandidate.address, c.remoteCandidate.username)

/-- **A connection keeps its peer.** The password may still be filled in. -/
structure SamePeer (c d : IceConnection) : Prop where
  place : d.place = c.place
  password : c.remoteCandidate.password ≠ "" →
    d.remoteCandidate.password = c.remoteCandidate.password

theorem SamePeer.refl (c : IceConnection) : SamePeer c c := ⟨rfl, fun _ => rfl⟩

theorem SamePeer.trans {b c d : IceConnection} (h : SamePeer b c) (k : SamePeer c d) :
    SamePeer b d where
  place := k.place.trans h.place
  password := by
    intro hb
    have hc := h.password hb
    rw [k.password (hc ▸ hb), hc]

/-- Most methods leave the port and the candidate alone. -/
theorem SamePeer.of_eq {c d : IceConnection} (hport : d.port = c.port)
    (hcandidate : d.remoteCandidate = c.remoteCandidate) : SamePeer c d where
  place := by
    unfold IceConnection.place
    rw [hport, hcandidate]
  password := fun _ => by rw [hcandidate]

theorem SamePeer.of_unselected {c d : IceConnection} (h : unselected d = unselected c) :
    SamePeer c d := by
  have hkept := Kept.of_unselected h
  exact .of_eq hkept.port hkept.candidate

/-- **The channel has a pointer to the connection**, besides those in the maps
of its ports. -/
structure Reaches (s : IceTransportChannel) (id : ℕ) : Prop where
  reached : id ∈ s.controller.connections ∨ id ∈ s.controller.pingedConnections ∨
    id ∈ s.controller.unpingedConnections ∨ s.controller.selectedConnection = some id ∨
    s.selectedConnection = some id

/-- **Connections stay in their places**, nothing more is reached, and
signals are only added. -/
structure Stays (s t : IceTransportChannel) : Prop where
  made : t.made = s.made
  ports : t.ports = s.ports
  closed : t.closed = s.closed
  peer : ∀ id, SamePeer (s.heap id) (t.heap id)
  reaches : ∀ id, Reaches t id → Reaches s id
  signals : s.trace.signals <+: t.trace.signals

variable {s t u : IceTransportChannel} {i id : ℕ} {ids : List ℕ} {now : ℤ}

namespace Stays

theorem refl (s : IceTransportChannel) : Stays s s :=
  ⟨rfl, rfl, rfl, fun _ => .refl _, fun _ h => h, List.prefix_rfl⟩

theorem trans (h : Stays s t) (k : Stays t u) : Stays s u where
  made := k.made.trans h.made
  ports := k.ports.trans h.ports
  closed := k.closed.trans h.closed
  peer := fun id => (h.peer id).trans (k.peer id)
  reaches := fun id hid => h.reaches id (k.reaches id hid)
  signals := h.signals.trans k.signals

end Stays

theorem Reaches.congr (hcontroller : t.controller = s.controller)
    (hselected : t.selectedConnection = s.selectedConnection) (h : Reaches t id) : Reaches s id := by
  obtain ⟨h⟩ := h
  rw [hcontroller, hselected] at h
  exact ⟨h⟩

/-! ## Notes and flags -/

theorem Noted.stays (h : Noted s t) (hsignals : s.trace.signals <+: t.trace.signals) :
    Stays s t where
  made := h.onlySelects.made
  ports := h.onlySelects.ports
  closed := h.onlySelects.closed
  peer := fun id => by
    rw [h.heap]
    exact .refl _
  reaches := fun _ => Reaches.congr h.controller h.selected
  signals := hsignals

theorem use_stays (s : IceTransportChannel) (id : ℕ) : Stays s (s.use id) :=
  (use_noted s id).stays (by rw [(use_unaffected s id).signals])

theorem useAll_stays (s : IceTransportChannel) (ids : List ℕ) : Stays s (s.useAll ids) :=
  (useAll_noted s ids).stays (by rw [(useAll_unaffected s ids).signals])

theorem setWritable_stays (s : IceTransportChannel) (writable : Bool) :
    Stays s (s.setWritable writable) := by
  refine (setWritable_noted s writable).stays ?_
  unfold setWritable
  split
  · exact List.prefix_rfl
  · exact List.prefix_append _ _

theorem setReceiving_stays (s : IceTransportChannel) (receiving : Bool) :
    Stays s (s.setReceiving receiving) := by
  refine (setReceiving_noted s receiving).stays ?_
  unfold setReceiving
  split
  · exact List.prefix_rfl
  · exact List.prefix_append _ _

theorem updateState_stays (s : IceTransportChannel) : Stays s s.updateState := by
  have hflags : ∀ ids w ids' r, Stays s ((((s.useAll ids).setWritable w).useAll ids').setReceiving r) :=
    fun ids w ids' r => (((useAll_stays s ids).trans (setWritable_stays _ w)).trans
      (useAll_stays _ ids')).trans (setReceiving_stays _ r)
  unfold IceTransportChannel.updateState
  dsimp only
  split
  · exact (hflags _ _ _ _).trans ((setState_noted _ _).stays (List.prefix_append _ _))
  · exact hflags _ _ _ _

/-! ## Selecting -/

theorem sortAndUpdate_signals (s : IceTransportChannel) (now : ℤ) :
    s.trace.signals <+: (s.sortConnectionsAndUpdateState now).trace.signals := by
  have hsorted := (sortAndSwitchConnection_sameRecord s).signals
  have hswitched : ∀ (v : IceTransportChannel) (conn : Option ℕ),
      (v.maybeSwitchSelectedConnection conn).trace.signals = v.trace.signals := by
    intro v conn
    cases conn with
    | none => rfl
    | some id => exact (switchSelectedConnection_sameRecord v (some id)).signals
  unfold sortConnectionsAndUpdateState
  dsimp only
  rw [(maybeStartPinging_unaffected _ now).signals, ← hsorted,
    ← hswitched s.sortAndSwitchConnection.1 s.sortAndSwitchConnection.2]
  exact (updateState_stays _).signals

theorem sortConnectionsAndUpdateState_stays (s : IceTransportChannel) (now : ℤ) :
    Stays s (s.sortConnectionsAndUpdateState now) := by
  have hselects := sortConnectionsAndUpdateState_reselected s now
  refine ⟨hselects.onlySelects.made, hselects.onlySelects.ports, hselects.onlySelects.closed,
    fun id => .of_unselected (hselects.onlySelects.heap id), fun id hid => ?_,
    sortAndUpdate_signals s now⟩
  obtain ⟨hid⟩ := hid
  rw [hselects.controller, hselects.selected] at hid
  -- what is switched to is registered
  have hswitched : ∀ old : Option ℕ, (worthSwitching s).or old = some id →
      id ∈ s.controller.connections ∨ old = some id := by
    intro old hor
    cases hworth : worthSwitching s with
    | none =>
      rw [hworth] at hor
      exact .inr hor
    | some top =>
      rw [hworth] at hor
      obtain rfl := Option.some.inj hor
      exact .inl (worthSwitching_mem hworth)
  rcases hid with hid | hid | hid | hid | hid
  · exact ⟨.inl (List.mem_insertionSort _ |>.1 hid)⟩
  · exact ⟨.inr (.inl hid)⟩
  · exact ⟨.inr (.inr (.inl hid))⟩
  · rcases hswitched _ hid with hmem | hsame
    · exact ⟨.inl hmem⟩
    · exact ⟨.inr (.inr (.inr (.inl hsame)))⟩
  · rcases hswitched _ hid with hmem | hsame
    · exact ⟨.inl hmem⟩
    · exact ⟨.inr (.inr (.inr (.inr hsame)))⟩

theorem switchToNone_stays (s : IceTransportChannel) : Stays s (s.switchSelectedConnection none) := by
  have hswitch := switchSelectedConnection_switched s none
  refine ⟨hswitch.onlySelects.made, hswitch.onlySelects.ports, hswitch.onlySelects.closed,
    fun id => .of_unselected (hswitch.onlySelects.heap id), fun id hid => ?_, ?_⟩
  · obtain ⟨hid⟩ := hid
    rw [hswitch.controller, hswitch.selected] at hid
    rcases hid with hid | hid | hid | hid | hid
    · exact ⟨.inl hid⟩
    · exact ⟨.inr (.inl hid)⟩
    · exact ⟨.inr (.inr (.inl hid))⟩
    · exact ⟨.inr (.inr (.inr (.inl hid)))⟩
    · cases hid
  · rw [(switchSelectedConnection_sameRecord s none).signals]

theorem onConnectionDestroyed_stays (s : IceTransportChannel) (id : ℕ) (now : ℤ) :
    Stays s (s.onConnectionDestroyed id now) := by
  have herased : Stays s { s with controller := s.controller.onConnectionDestroyed id } := by
    refine ⟨rfl, rfl, rfl, fun _ => .refl _, fun j hj => ?_, List.prefix_rfl⟩
    obtain ⟨hj⟩ := hj
    rcases hj with hj | hj | hj | hj
    · exact ⟨.inl (List.mem_of_mem_erase hj)⟩
    · exact ⟨.inr (.inl (List.mem_of_mem_erase hj))⟩
    · exact ⟨.inr (.inr (.inl (List.mem_of_mem_erase hj)))⟩
    · exact ⟨.inr (.inr (.inr hj))⟩
  unfold onConnectionDestroyed
  dsimp only
  split
  · exact (herased.trans (switchToNone_stays _)).trans (sortConnectionsAndUpdateState_stays _ now)
  · exact herased.trans (updateState_stays _)

/-! ## Methods of a connection -/

/-- A connection is rewritten. -/
theorem setConn_stays {c : IceConnection} (h : SamePeer (s.heap id) c) : Stays s (s.setConn id c) := by
  refine ⟨rfl, rfl, rfl, fun j => ?_, fun _ hj => ⟨hj.reached⟩, List.prefix_rfl⟩
  by_cases hj : j = id
  · rw [hj, setConn_heap_self]
    exact h
  · rw [setConn_heap_of_ne hj]
    exact .refl _

theorem rewrite_stays {c : IceConnection} (h : SamePeer (s.heap id) c) :
    Stays s ((s.use id).setConn id c) :=
  (use_stays s id).trans (setConn_stays (by rwa [(use_noted s id).heap]))

theorem setWriteState_stays (s : IceTransportChannel) (id : ℕ) (state : WriteState) (now : ℤ) :
    Stays s (setWriteState s id state now) := by
  have hset : Stays s ((s.use id).setConn id { s.heap id with writeState := state }) :=
    rewrite_stays (.of_eq rfl rfl)
  unfold setWriteState
  dsimp only
  split
  · exact hset.trans (sortConnectionsAndUpdateState_stays _ now)
  · exact hset

theorem updateReceiving_stays (s : IceTransportChannel) (id : ℕ) (now : ℤ) :
    Stays s (updateReceiving s id now) := by
  unfold updateReceiving
  dsimp only
  split
  · exact use_stays s id
  · refine Stays.trans (rewrite_stays ?_) (sortConnectionsAndUpdateState_stays _ now)
    rw [(use_noted s id).heap]
    exact .of_eq rfl rfl

theorem destroy_stays (s : IceTransportChannel) (id : ℕ) (now : ℤ) :
    Stays s (destroy s id now) := by
  have htold : Stays s ((s.use id).onConnectionDestroyed id now) :=
    (use_stays s id).trans (onConnectionDestroyed_stays _ id now)
  let told := (s.use id).onConnectionDestroyed id now
  have hdeleted : Stays told (told.setConn id { told.heap id with requests := [] }) :=
    setConn_stays (.of_eq rfl rfl)
  have hall := htold.trans hdeleted
  exact ⟨hall.made, hall.ports, hall.closed, hall.peer, fun j hj => hall.reaches j ⟨hj.reached⟩,
    hall.signals⟩

theorem failAndDestroy_stays (s : IceTransportChannel) (id : ℕ) (now : ℤ) :
    Stays s (failAndDestroy s id now) := by
  unfold failAndDestroy
  refine Stays.trans (rewrite_stays ?_) (destroy_stays _ id now)
  exact .of_eq rfl rfl

theorem updateConn_stays (s : IceTransportChannel) (id : ℕ) (now : ℤ) :
    Stays s (IceConnection.updateState s id now) := by
  have hdegrade : Stays s (degrade s id now) := by
    unfold degrade
    dsimp only
    split
    · exact (use_stays s id).trans (setWriteState_stays _ id _ now)
    · exact use_stays s id
  unfold IceConnection.updateState
  dsimp only
  split
  · exact ((hdegrade.trans (setWriteState_stays _ id _ now)).trans
      (failAndDestroy_stays _ id now)).trans (updateReceiving_stays _ id now)
  · exact hdegrade.trans (updateReceiving_stays _ id now)

theorem receivedPingResponse_stays (movingAverage : ℤ → ℤ → ℤ → ℤ) (s : IceTransportChannel) (id : ℕ)
    (rtt now : ℤ) : Stays s (receivedPingResponse s id movingAverage rtt now) := by
  unfold receivedPingResponse
  dsimp only
  refine Stays.trans (((rewrite_stays ?_).trans (updateReceiving_stays _ id now)).trans
    (setWriteState_stays _ id .writable now)) (rewrite_stays ?_)
  · exact .of_eq rfl rfl
  · exact .of_eq rfl rfl

theorem deleteRequest_stays (s : IceTransportChannel) (id : ℕ) (request : StunRequest) :
    Stays s (deleteRequest s id request) := by
  have hremoved : Stays s ((s.use id).setConn id (((s.use id).heap id).removeRequest request.id)) := by
    refine rewrite_stays ?_
    rw [(use_noted s id).heap]
    exact .of_eq rfl rfl
  exact ⟨hremoved.made, hremoved.ports, hremoved.closed, hremoved.peer,
    fun j hj => hremoved.reaches j ⟨hj.reached⟩, hremoved.signals⟩

theorem checkResponse_stays (movingAverage : ℤ → ℤ → ℤ → ℤ) (s : IceTransportChannel) (id : ℕ)
    (msg : StunResponse) (now : ℤ) : Stays s (checkResponse s id movingAverage msg now) := by
  have huse := use_stays s id
  unfold checkResponse
  dsimp only
  split
  · exact huse
  · refine Stays.trans ?_ (deleteRequest_stays _ id _)
    split
    · exact huse.trans (receivedPingResponse_stays movingAverage _ id _ now)
    · split
      · unfold onConnectionRequestErrorResponse
        dsimp only
        split
        · exact huse.trans (use_stays _ id)
        · exact (huse.trans (use_stays _ id)).trans (failAndDestroy_stays _ id now)
      · exact huse

theorem onReadPacket_stays (movingAverage : ℤ → ℤ → ℤ → ℤ) (s : IceTransportChannel) (id : ℕ)
    (packet : Packet) (now : ℤ) :
    Stays s (IceConnection.onReadPacket s id movingAverage packet now) := by
  have huse := use_stays s id
  unfold IceConnection.onReadPacket
  dsimp only
  cases packet with
  | notStun =>
    refine rewrite_stays ?_
    rw [(use_noted s id).heap]
    exact .of_eq rfl rfl
  | refused => exact huse
  | otherStun => exact huse
  | request remoteUfrag priority =>
    dsimp only
    split
    · exact huse
    · refine rewrite_stays ?_
      rw [(use_noted s id).heap]
      exact .of_eq rfl rfl
  | response msg =>
    dsimp only
    split
    · split
      · exact huse.trans (checkResponse_stays movingAverage _ id msg now)
      · exact huse
    · exact huse

/-! ## The timer and the rest -/

theorem foldl_stays {f : IceTransportChannel → ℕ → IceTransportChannel}
    (hf : ∀ s id, Stays s (f s id)) (s : IceTransportChannel) (ids : List ℕ) :
    Stays s (ids.foldl f s) := by
  induction ids generalizing s with
  | nil => exact .refl s
  | cons id ids ih => exact (hf s id).trans (ih _)

theorem setRemoteIceParams_stays (s : IceTransportChannel) (params : IceParameters) (now : ℤ) :
    Stays s (s.setRemoteIceParams params now) := by
  have hparams : Stays s { s with remoteIceParams := params } :=
    ⟨rfl, rfl, rfl, fun _ => .refl _, fun _ h => ⟨h.reached⟩, List.prefix_rfl⟩
  unfold setRemoteIceParams
  refine Stays.trans (hparams.trans (foldl_stays (fun v j => rewrite_stays ?_) _ _))
    (sortConnectionsAndUpdateState_stays _ now)
  unfold maybeSetRemoteIceParams
  split
  · rename_i hempty
    simp only [Bool.and_eq_true, decide_eq_true_eq] at hempty
    exact ⟨rfl, fun hne => absurd hempty.2 hne⟩
  · exact .refl _

/-- Choosing starts a new round at most: what has been pinged has not been. -/
theorem selectConnectionToPing_stays (s : IceTransportChannel) (now : ℤ) :
    Stays s (s.selectConnectionToPing now).1 := by
  let ids := s.controller.connections ++ s.controller.selectedConnection.toList
  let v := s.useAll ids
  have huse : Stays s v := useAll_stays s ids
  refine huse.trans ⟨rfl, rfl, rfl, fun _ => .refl _, fun id hid => ?_, List.prefix_rfl⟩
  have hsets : ∀ (ctl : IceController) (lastPingSentMs : ℤ),
      let r := (ctl.selectConnectionToPing v.heap lastPingSentMs now).1
      r.connections = ctl.connections ∧ r.selectedConnection = ctl.selectedConnection ∧
        ∀ j, j ∈ r.pingedConnections ∨ j ∈ r.unpingedConnections →
          j ∈ ctl.pingedConnections ∨ j ∈ ctl.unpingedConnections := by
    intro ctl lastPingSentMs
    unfold IceController.selectConnectionToPing IceController.findNextPingableConnection
    dsimp only
    split
    · cases ctl.selectedIsDue v.heap now with
      | some id => exact ⟨rfl, rfl, fun _ hj => hj⟩
      | none =>
        dsimp only
        split
        · exact ⟨rfl, rfl, fun _ hj => hj⟩
        · refine ⟨rfl, rfl, fun j hj => ?_⟩
          rcases hj with hj | hj
          · cases hj
          · exact (mem_foldl_setInsert.1 hj).symm
    · exact ⟨rfl, rfl, fun _ hj => hj⟩
  obtain ⟨hconnections, hchosen, hsubset⟩ :=
    hsets v.controller (v.lastPingSentMs - PING_INTERVAL_DIFF)
  obtain ⟨hid⟩ := hid
  rcases hid with hid | hid | hid | hid | hid
  · exact ⟨.inl (hconnections ▸ hid)⟩
  · rcases hsubset id (.inl hid) with h | h
    · exact ⟨.inr (.inl h)⟩
    · exact ⟨.inr (.inr (.inl h))⟩
  · rcases hsubset id (.inr hid) with h | h
    · exact ⟨.inr (.inl h)⟩
    · exact ⟨.inr (.inr (.inl h))⟩
  · exact ⟨.inr (.inr (.inr (.inl (hchosen ▸ hid))))⟩
  · exact ⟨.inr (.inr (.inr (.inr hid)))⟩

theorem updateConnectionStates_stays (s : IceTransportChannel) (now : ℤ) :
    Stays s (s.updateConnectionStates now) :=
  foldl_stays (fun v j => updateConn_stays v j now) s _

theorem changePingInterval_stays (s : IceTransportChannel) (interval : ℤ) :
    Stays s (s.changePingInterval interval) := by
  unfold changePingInterval
  split
  · exact ⟨rfl, rfl, rfl, fun _ => .refl _, fun _ hj => ⟨hj.reached⟩, List.prefix_rfl⟩
  · exact .refl s

/-- A ping is not sent to another peer. -/
theorem pingChosen_peer (s : IceTransportChannel) (conn : Option ℕ) (requestId : String) (now : ℤ)
    (j : ℕ) : SamePeer (s.heap j) ((s.pingChosen conn requestId now).heap j) := by
  cases conn with
  | none => exact .refl _
  | some id =>
    have huse := use_noted { s with lastPingSentMs := now } id
    show SamePeer (s.heap j) ((s.pingConnection id requestId now).heap j)
    unfold pingConnection
    dsimp only
    by_cases hj : j = id
    · rw [hj, setConn_heap_self, huse.heap]
      exact .of_eq rfl rfl
    · rw [setConn_heap_of_ne hj, huse.heap]
      exact .refl _

theorem destroyAll_stays (s : IceTransportChannel) (ids : List ℕ) (now : ℤ) :
    Stays s (ids.foldl (fun ch id => IceConnection.destroy ch id now) { s with timer := none }) :=
  have htimer : Stays s { s with timer := none } :=
    ⟨rfl, rfl, rfl, fun _ => .refl _, fun _ hj => ⟨hj.reached⟩, List.prefix_rfl⟩
  htimer.trans (foldl_stays (fun v j => destroy_stays v j now) _ ids)

/-! ## Steps -/

/-- **A connection that has been made keeps its peer in every step.** -/
theorem step_peer {movingAverage : ℤ → ℤ → ℤ → ℤ} {e : ChannelEvent}
    (hstep : s.step movingAverage e = some t) (hid : id ∈ s.made) :
    SamePeer (s.heap id) (t.heap id) ∧ id ∈ t.made := by
  have hstays : ∀ {v}, Stays s v → SamePeer (s.heap id) (v.heap id) ∧ id ∈ v.made :=
    fun h => ⟨h.peer id, h.made ▸ hid⟩
  cases handled_of_step hstep with
  | known packet now => exact hstays (onReadPacket_stays movingAverage s _ packet now)
  | @stranger portIndex new addr port remoteUfrag priority now hport haddr hnew =>
    unfold IceTransportChannel.onUnknownAddress
    cases priority with
    | none => exact ⟨.refl _, hid⟩
    | some priority =>
      dsimp only
      have hsorted := fun v => sortConnectionsAndUpdateState_stays v now
      rw [createConnection_of_none haddr]
      refine ⟨SamePeer.trans ?_ ((hsorted _).peer id), ?_⟩
      · have hne : id ≠ new := by
          rintro rfl
          exact hnew hid
        refine .of_eq ?_ ?_
        · exact congrArg IceConnection.port (setConn_heap_of_ne hne)
        · exact congrArg IceConnection.remoteCandidate (setConn_heap_of_ne hne)
      · rw [(hsorted _).made]
        exact List.mem_cons_of_mem new hid
  | dropped => exact ⟨.refl _, hid⟩
  | params params now => exact hstays (setRemoteIceParams_stays s params now)
  | ticked requestId now =>
    have hchosen := (updateConnectionStates_stays s now).trans (selectConnectionToPing_stays _ now)
    let u := (s.updateConnectionStates now).selectConnectionToPing now
    have hinterval := changePingInterval_stays (u.1.pingChosen u.2.conn requestId now) u.2.pingInterval
    have hmade : (u.1.pingChosen u.2.conn requestId now).made = u.1.made := by
      cases u.2.conn with
      | none => rfl
      | some j => exact (use_onlySelects _ j).made
    refine ⟨((hchosen.peer id).trans (pingChosen_peer _ _ requestId now id)).trans
      (hinterval.peer id), ?_⟩
    show id ∈ ((u.1.pingChosen u.2.conn requestId now).changePingInterval u.2.pingInterval).made
    rw [hinterval.made, hmade, hchosen.made]
    exact hid
  | sent => exact hstays (useAll_stays s _)
  | ended now =>
    have hall := destroyAll_stays s s.controller.connections now
    exact ⟨hall.peer id, hall.made ▸ hid⟩

/-- **A signal that has been sent stays sent.** -/
theorem step_signals {movingAverage : ℤ → ℤ → ℤ → ℤ} {e : ChannelEvent}
    (hstep : s.step movingAverage e = some t) : s.trace.signals <+: t.trace.signals := by
  cases handled_of_step hstep with
  | known packet now => exact (onReadPacket_stays movingAverage s _ packet now).signals
  | @stranger portIndex new addr port remoteUfrag priority now hport haddr hnew =>
    unfold IceTransportChannel.onUnknownAddress
    cases priority with
    | none => exact List.prefix_rfl
    | some priority =>
      let remote : Candidate :=
        { priority := priority, address := addr, username := remoteUfrag,
          password := s.remoteIceParams.icePwd }
      let v := (s.createConnection portIndex port remote new now).addConnection new
      have hmade : v.trace.signals = s.trace.signals := by
        show ((s.createConnection portIndex port remote new now).addConnection new).trace.signals = _
        rw [createConnection_of_none haddr]
        rfl
      rw [← hmade]
      exact (sortConnectionsAndUpdateState_stays v now).signals
  | dropped => exact List.prefix_rfl
  | params params now => exact (setRemoteIceParams_stays s params now).signals
  | ticked requestId now =>
    have hchosen := (updateConnectionStates_stays s now).trans (selectConnectionToPing_stays _ now)
    let u := (s.updateConnectionStates now).selectConnectionToPing now
    have hpinged := (pingChosen_unaffected u.1 u.2.conn requestId now).signals
    have hinterval := (changePingInterval_stays (u.1.pingChosen u.2.conn requestId now)
      u.2.pingInterval).signals
    rw [hpinged] at hinterval
    exact hchosen.signals.trans hinterval
  | sent => exact (useAll_stays s _).signals
  | ended now => exact (destroyAll_stays s s.controller.connections now).signals

theorem run_peer {movingAverage : ℤ → ℤ → ℤ → ℤ} {es : List ChannelEvent}
    (hrun : Common.run (IceTransportChannel.step movingAverage) s es = some t) (hid : id ∈ s.made) :
    SamePeer (s.heap id) (t.heap id) ∧ id ∈ t.made := by
  refine Common.inv_of_run (I := fun v => SamePeer (s.heap id) (v.heap id) ∧ id ∈ v.made) ?_
    ⟨.refl _, hid⟩ hrun
  rintro u e v ⟨hpeer, hmem⟩ hstep
  obtain ⟨hpeer', hmem'⟩ := step_peer hstep hmem
  exact ⟨hpeer.trans hpeer', hmem'⟩

end Ice

end XrtcServer
