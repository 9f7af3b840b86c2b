import XrtcServer.Common.Run
import XrtcServer.Ice.Methods
/-!
# The selected connection over runs

`_on_connection_destroyed` clears the selected connection with
`_switch_selected_connection(nullptr)`, which returns before the controller
hears of it. So the selected connection is one registered connection, for
the channel and for the controller, in every state of a run exactly as long
as no connection is destroyed while it is selected (`SparesSelected`).
-/

namespace XrtcServer

namespace Ice

open IceTransportChannel

/-- **One registered connection is selected**, or none, and the controller
has looked at registered connections only. -/
structure OneSelected (s : IceTransportChannel) : Prop where
  same : s.controller.selectedConnection = s.selectedConnection
  registered : ∀ id, s.controller.selectedConnection = some id → id ∈ s.controller.connections
  observed : ∀ o ∈ s.trace.observed, o.2 = true

variable {s t : IceTransportChannel} {id : ℕ} {ids : List ℕ} {now : ℤ}

theorem Agreed.oneSelected (h : Agreed s) : OneSelected s :=
  ⟨h.same, fun id hid => h.selected id (h.same ▸ hid), h.observed⟩

theorem Stray.not_oneSelected (h : Stray s) : ¬ OneSelected s := by
  rintro ⟨-, hregistered, hobserved⟩
  rcases h with ⟨o, ho, hfalse⟩ | ⟨id, -, hsel, hout⟩
  · rw [hobserved o ho] at hfalse
    cases hfalse
  · exact hout (hregistered id hsel)

/-! ## The timer -/

/-- The connections are updated one after the other, and none is destroyed
that is selected once its time-out has been signalled. -/
def TickSpares (now : ℤ) : IceTransportChannel → List ℕ → Prop
  | _, [] => True
  | s, id :: ids =>
    ((s.heap id).diesAt now = true → (timedOut s id now).selectedConnection ≠ some id) ∧
      TickSpares now (IceConnection.updateState s id now) ids

theorem updateState_agreed (h : Agreed s)
    (hspares : (s.heap id).diesAt now = true → (timedOut s id now).selectedConnection ≠ some id) :
    Agreed (IceConnection.updateState s id now) := by
  cases hdies : (s.heap id).diesAt now with
  | false => exact (updateState_of_lives hdies).keeps.agreed h
  | true =>
    rw [updateState_of_dies hdies]
    exact (updateReceiving_touches _ id now).keeps.agreed ((failAndDestroy_ends _ id now).agreed
      ((timedOut_touches s id now).keeps.agreed h) (hspares hdies))

theorem updateState_stray (h : Stray s) (id : ℕ) (now : ℤ) :
    Stray (IceConnection.updateState s id now) := by
  cases hdies : (s.heap id).diesAt now with
  | false => exact (updateState_of_lives hdies).keeps.stray h
  | true =>
    rw [updateState_of_dies hdies]
    exact (updateReceiving_touches _ id now).keeps.stray ((failAndDestroy_ends _ id now).stray
      ((timedOut_touches s id now).keeps.stray h))

theorem updateState_stray_of_selected (h : Agreed s) (hdies : (s.heap id).diesAt now = true)
    (hsel : (timedOut s id now).selectedConnection = some id) :
    Stray (IceConnection.updateState s id now) := by
  rw [updateState_of_dies hdies]
  exact (updateReceiving_touches _ id now).keeps.stray ((failAndDestroy_ends _ id now).strays
    ((timedOut_touches s id now).keeps.agreed h) hsel)

theorem foldl_updateState_agreed (h : Agreed s) (hspares : TickSpares now s ids) :
    Agreed (ids.foldl (fun ch id => IceConnection.updateState ch id now) s) := by
  induction ids generalizing s with
  | nil => exact h
  | cons id ids ih => exact ih (updateState_agreed h hspares.1) hspares.2

theorem foldl_updateState_stray (h : Stray s) (ids : List ℕ) :
    Stray (ids.foldl (fun ch id => IceConnection.updateState ch id now) s) := by
  induction ids generalizing s with
  | nil => exact h
  | cons id ids ih => exact ih (updateState_stray h id now)

theorem foldl_updateState_stray_of_not (h : Agreed s) (hnot : ¬ TickSpares now s ids) :
    Stray (ids.foldl (fun ch id => IceConnection.updateState ch id now) s) := by
  induction ids generalizing s with
  | nil => exact absurd trivial hnot
  | cons id ids ih =>
    by_cases hspares : (s.heap id).diesAt now = true →
        (timedOut s id now).selectedConnection ≠ some id
    · exact ih (updateState_agreed h hspares) fun hrest => hnot ⟨hspares, hrest⟩
    · simp only [not_forall, not_not] at hspares
      obtain ⟨hdies, hsel⟩ := hspares
      exact foldl_updateState_stray (updateState_stray_of_selected h hdies hsel) ids

/-- Choosing what to ping looks at the selected connection and the one
chosen, which is it or registered. -/
theorem observe_chosen_keeps (s : IceTransportChannel) (lastPingSentMs now : ℤ) :
    let r := s.controller.selectConnectionToPing s.heap lastPingSentMs now
    Keeps s { s.observe (s.controller.selectedConnection.toList ++ r.2.conn.toList) with
      controller := r.1 } := by
  intro r
  obtain ⟨hconnections, hselected⟩ :=
    IceController.selectConnectionToPing_same s.controller s.heap lastPingSentMs now
  refine ⟨fun h => ?_, fun h => ?_⟩
  · obtain ⟨hregistry, hchosen⟩ :=
      IceController.selectConnectionToPing_spec h.registry s.heap lastPingSentMs now
    have hsel : ∀ id, s.controller.selectedConnection = some id → id ∈ s.controller.connections :=
      fun id hid => h.selected id (h.same ▸ hid)
    refine ⟨hregistry, fun id hid => h.made id (hconnections ▸ hid), hselected.trans h.same,
      fun id hid => hconnections ▸ h.selected id hid, fun o ho => ?_⟩
    rcases List.mem_append.1 ho with hold | hnew
    · exact h.observed o hold
    · obtain ⟨id, hid, rfl⟩ := List.mem_map.1 hnew
      refine decide_eq_true ?_
      rcases List.mem_append.1 hid with hs | hc
      · exact hsel id (Option.mem_toList.1 hs)
      · rcases hchosen id (Option.mem_toList.1 hc) with hs | hmem
        · exact hsel id hs
        · exact hmem
  · rcases h with ⟨o, ho, hfalse⟩ | ⟨id, hmade, hsel, hout⟩
    · exact .inl ⟨o, List.mem_append_left _ ho, hfalse⟩
    · exact .inr ⟨id, hmade, hselected.trans hsel, fun hin => hout (hconnections ▸ hin)⟩

theorem selectConnectionToPing_keeps (s : IceTransportChannel) (now : ℤ) :
    Keeps s (s.selectConnectionToPing now).1 :=
  (Keeps.noted (useAll_noted s _)).trans (observe_chosen_keeps _ _ now)

/-- What is chosen is registered. -/
theorem selectConnectionToPing_registered (h : Agreed s)
    (hconn : (s.selectConnectionToPing now).2.conn = some id) :
    id ∈ (s.selectConnectionToPing now).1.controller.connections := by
  let v := s.useAll (s.controller.connections ++ s.controller.selectedConnection.toList)
  have hv : Agreed v := (Keeps.noted (useAll_noted s _)).agreed h
  let last := v.lastPingSentMs - PING_INTERVAL_DIFF
  have hmem : id ∈ v.controller.connections := by
    rcases (IceController.selectConnectionToPing_spec hv.registry v.heap last now).2 id hconn
      with hs | hmem
    · exact hv.selected id (hv.same ▸ hs)
    · exact hmem
  have hsame := (IceController.selectConnectionToPing_same v.controller v.heap last now).1
  exact hsame.symm ▸ hmem

theorem pingConnection_keeps (s : IceTransportChannel) (id : ℕ) (requestId : String) (now : ℤ) :
    Keeps s (s.pingConnection id requestId now) := by
  have hsent : Keeps s { s with lastPingSentMs := now } := .of_eq rfl rfl rfl rfl
  exact (hsent.trans (.noted (use_noted _ id))).trans (.of_eq rfl rfl rfl rfl)

theorem markConnectionPinged_same (ctl : IceController) (id : ℕ) :
    (ctl.markConnectionPinged id).connections = ctl.connections ∧
      (ctl.markConnectionPinged id).selectedConnection = ctl.selectedConnection := by
  unfold IceController.markConnectionPinged
  split <;> exact ⟨rfl, rfl⟩

theorem pingChosen_agreed (h : Agreed s) {conn : Option ℕ}
    (hconn : ∀ id, conn = some id → id ∈ s.controller.connections) (requestId : String) (now : ℤ) :
    Agreed (s.pingChosen conn requestId now) := by
  cases conn with
  | none => exact h
  | some id =>
    have hping := (pingConnection_keeps s id requestId now).agreed h
    have hcontroller : (s.pingConnection id requestId now).controller = s.controller :=
      (use_noted _ id).controller
    obtain ⟨hconnections, hselected⟩ :=
      markConnectionPinged_same (s.pingConnection id requestId now).controller id
    refine ⟨hping.registry.markConnectionPinged (hcontroller ▸ hconn id rfl), fun j hj => ?_,
      hselected.trans hping.same, fun j hj => ?_, hping.observed⟩
    · exact hping.made j (hconnections ▸ hj)
    · exact hconnections ▸ hping.selected j hj

theorem pingChosen_stray (h : Stray s) (conn : Option ℕ) (requestId : String) (now : ℤ) :
    Stray (s.pingChosen conn requestId now) := by
  cases conn with
  | none => exact h
  | some id =>
    have hping := (pingConnection_keeps s id requestId now).stray h
    obtain ⟨hconnections, hselected⟩ :=
      markConnectionPinged_same (s.pingConnection id requestId now).controller id
    unfold Stray pingChosen
    dsimp only
    rw [hconnections, hselected]
    exact hping

theorem changePingInterval_keeps (s : IceTransportChannel) (pingInterval : ℤ) :
    Keeps s (s.changePingInterval pingInterval) := by
  unfold changePingInterval
  split
  · exact .of_eq rfl rfl rfl rfl
  · exact .refl s

/-- **A tick** keeps the agreement where its updates do. -/
theorem onCheckAndPing_agreed (h : Agreed s) (requestId : String)
    (hspares : TickSpares now s s.controller.connections) :
    Agreed (s.onCheckAndPing requestId now) := by
  have hupdated : Agreed (s.updateConnectionStates now) := foldl_updateState_agreed h hspares
  exact (changePingInterval_keeps _ _).agreed (pingChosen_agreed
    ((selectConnectionToPing_keeps _ now).agreed hupdated)
    (fun id hid => selectConnectionToPing_registered hupdated hid) requestId now)

theorem onCheckAndPing_stray (h : Agreed s) (requestId : String)
    (hnot : ¬ TickSpares now s s.controller.connections) :
    Stray (s.onCheckAndPing requestId now) := by
  have hupdated : Stray (s.updateConnectionStates now) := foldl_updateState_stray_of_not h hnot
  exact (changePingInterval_keeps _ _).stray (pingChosen_stray
    ((selectConnectionToPing_keeps _ now).stray hupdated) _ requestId now)

/-! ## The other events -/

theorem foldl_keeps {f : IceTransportChannel → ℕ → IceTransportChannel}
    (hf : ∀ s id, Keeps s (f s id)) (s : IceTransportChannel) (ids : List ℕ) :
    Keeps s (ids.foldl f s) := by
  induction ids generalizing s with
  | nil => exact .refl s
  | cons id ids ih => exact (hf s id).trans (ih (f s id))

theorem setRemoteIceParams_keeps (s : IceTransportChannel) (params : IceParameters) (now : ℤ) :
    Keeps s (s.setRemoteIceParams params now) := by
  have hrewrite : ∀ (s : IceTransportChannel) id c, Keeps s ((s.use id).setConn id c) :=
    fun s id c => (Keeps.noted (use_noted s id)).trans (.setConn _ id c)
  have hset : Keeps s { s with remoteIceParams := params } := .of_eq rfl rfl rfl rfl
  unfold setRemoteIceParams
  exact (hset.trans (foldl_keeps (fun s id => hrewrite s id _) _ _)).trans
    (sortConnectionsAndUpdateState_keeps _ now)

/-- A connection is made for an address that has none. -/
theorem createConnection_of_none {port : UDPPort} {remote : Candidate}
    (haddr : port.getConnection remote.address = none) (portIndex : ℕ) (now : ℤ) :
    s.createConnection portIndex port remote id now =
      { s.setConn id
          { port := portIndex, localPriority := port.localPriority, remoteCandidate := remote } with
        made := id :: s.made
        ports := s.ports.set portIndex { port with
          connections :=
            (remote.address, id) :: port.connections.filter (·.1 ≠ remote.address) } } := by
  unfold createConnection
  rw [haddr]
  rfl

theorem newConnection_agreed (h : Agreed s) {port : UDPPort} {remote : Candidate}
    (haddr : port.getConnection remote.address = none) (hnew : id ∉ s.made) (portIndex : ℕ)
    (now : ℤ) : Agreed ((s.createConnection portIndex port remote id now).addConnection id) := by
  rw [createConnection_of_none haddr]
  have hout : id ∉ s.controller.connections := fun hin => hnew (h.made id hin)
  refine ⟨h.registry.addConnection hout, fun j hj => ?_, h.same, fun j hj => ?_, h.observed⟩
  · rcases List.mem_append.1 hj with hold | hid
    · exact List.mem_cons_of_mem id (h.made j hold)
    · exact List.mem_singleton.1 hid ▸ List.mem_cons_self
  · exact List.mem_append_left _ (h.selected j hj)

theorem onUnknownAddress_agreed (h : Agreed s) {port : UDPPort} {addr : SocketAddress}
    (haddr : port.getConnection addr = none) (hnew : id ∉ s.made) (portIndex : ℕ)
    (remoteUfrag : String) (priority : Option UInt32) (now : ℤ) :
    Agreed (s.onUnknownAddress portIndex port addr remoteUfrag priority id now) := by
  unfold onUnknownAddress
  cases priority with
  | none => exact h
  | some priority =>
    exact (sortConnectionsAndUpdateState_keeps _ now).agreed
      (newConnection_agreed h haddr hnew portIndex now)

theorem destroy_selected (hne : s.selectedConnection ≠ some id) (now : ℤ) :
    (IceConnection.destroy s id now).selectedConnection = s.selectedConnection := by
  have huse := use_noted s id
  show ((s.use id).onConnectionDestroyed id now).selectedConnection = _
  unfold onConnectionDestroyed
  dsimp only
  rw [if_neg (huse.selected ▸ hne)]
  exact (updateState_noted _).selected.trans huse.selected

theorem foldl_destroy_agreed (h : Agreed s) (hnone : s.selectedConnection = none) (now : ℤ)
    (ids : List ℕ) : Agreed (ids.foldl (fun ch id => IceConnection.destroy ch id now) s) := by
  induction ids generalizing s with
  | nil => exact h
  | cons id ids ih =>
    have hne : s.selectedConnection ≠ some id := by simp [hnone]
    exact ih ((destroy_ends s id now).agreed h hne) ((destroy_selected hne now).trans hnone)

theorem foldl_destroy_stray (h : Stray s) (now : ℤ) (ids : List ℕ) :
    Stray (ids.foldl (fun ch id => IceConnection.destroy ch id now) s) := by
  induction ids generalizing s with
  | nil => exact h
  | cons id ids ih => exact ih ((destroy_ends s id now).stray h)

theorem foldl_destroy_stray_of_mem (h : Agreed s) (hsel : s.selectedConnection = some id) (now : ℤ)
    (hmem : id ∈ ids) : Stray (ids.foldl (fun ch id => IceConnection.destroy ch id now) s) := by
  induction ids generalizing s with
  | nil => cases hmem
  | cons j ids ih =>
    by_cases hj : s.selectedConnection = some j
    · exact foldl_destroy_stray ((destroy_ends s j now).strays h hj) now ids
    · refine ih ((destroy_ends s j now).agreed h hj) ((destroy_selected hj now).trans hsel) ?_
      rcases List.mem_cons.1 hmem with rfl | hrest
      · exact absurd hsel hj
      · exact hrest

theorem closed_keeps (s : IceTransportChannel) : Keeps s { s with ports := [], closed := true } :=
  .of_eq rfl rfl rfl rfl

theorem destroyChannel_agreed (h : Agreed s) (hnone : s.selectedConnection = none) (now : ℤ) :
    Agreed (s.destroyChannel now) := by
  have hstopped : Keeps s { s with timer := none } := .of_eq rfl rfl rfl rfl
  have hdestroyed := foldl_destroy_agreed (hstopped.agreed h) hnone now s.controller.connections
  exact (closed_keeps _).agreed hdestroyed

theorem destroyChannel_stray (h : Agreed s) (hsel : s.selectedConnection = some id) (now : ℤ) :
    Stray (s.destroyChannel now) := by
  have hstopped : Keeps s { s with timer := none } := .of_eq rfl rfl rfl rfl
  have hdestroyed := foldl_destroy_stray_of_mem (hstopped.agreed h) hsel now (h.selected id hsel)
  exact (closed_keeps _).stray hdestroyed

/-! ## Runs -/

/-- **No connection is destroyed while it is selected**: not by a fatal
response, not by a tick, and not by the end of the channel. -/
def SparesSelected (s : IceTransportChannel) : ChannelEvent → Prop
  | .datagram portIndex addr packet _ _ => ∀ port id, s.ports[portIndex]? = some port →
      port.getConnection addr = some id → (s.heap id).Fatal packet → s.selectedConnection ≠ some id
  | .tick _ now => TickSpares now s s.controller.connections
  | .destroyChannel _ => s.selectedConnection = none
  | .setRemoteIceParams .. | .sendPacket => True

variable {movingAverage : ℤ → ℤ → ℤ → ℤ} {e : ChannelEvent}

theorem Answered.agreed {packet : Packet} (h : Answered id packet s t) (hs : Agreed s)
    (hspared : (s.heap id).Fatal packet → s.selectedConnection ≠ some id) : Agreed t := by
  cases h with
  | touched _ _ htouches => exact htouches.keeps.agreed hs
  | answered v request _ _ htouches =>
    exact (deleteRequest_keeps v id request).agreed (htouches.keeps.agreed hs)
  | ended v request hfatal hends =>
    exact (deleteRequest_keeps v id request).agreed (hends.agreed hs (hspared hfatal))

theorem Answered.stray {packet : Packet} (h : Answered id packet s t) (hs : Agreed s)
    (hfatal : (s.heap id).Fatal packet) (hsel : s.selectedConnection = some id) : Stray t := by
  cases h with
  | touched _ hlives => exact absurd hfatal hlives
  | answered _ _ _ hlives => exact absurd hfatal hlives
  | ended v request _ hends => exact (deleteRequest_keeps v id request).stray (hends.strays hs hsel)

/-- **A step that spares the selected connection** keeps the agreement. -/
theorem step_agreed (h : Agreed s) (hstep : s.step movingAverage e = some t)
    (hspares : SparesSelected s e) : Agreed t := by
  cases handled_of_step hstep with
  | known packet now hport haddr =>
    exact (onReadPacket_answered movingAverage s _ packet now).agreed h
      (hspares _ _ hport haddr)
  | stranger remoteUfrag priority now hport haddr hnew =>
    exact onUnknownAddress_agreed h haddr hnew _ remoteUfrag priority now
  | dropped => exact h
  | params params now => exact (setRemoteIceParams_keeps s params now).agreed h
  | ticked requestId now htimer => exact onCheckAndPing_agreed h requestId hspares
  | sent => exact (Keeps.noted (useAll_noted s _)).agreed h
  | ended now => exact destroyChannel_agreed h hspares now

/-- **A step that does not** leaves the controller with a connection that is
not registered. -/
theorem step_stray (h : Agreed s) (hstep : s.step movingAverage e = some t)
    (hnot : ¬ SparesSelected s e) : Stray t := by
  cases e with
  | datagram portIndex addr packet id now =>
    simp only [SparesSelected, not_forall, not_not] at hnot
    obtain ⟨port, conn, hport, haddr, hfatal, hsel⟩ := hnot
    obtain rfl := step_known hport haddr hstep
    exact (onReadPacket_answered movingAverage s conn packet now).stray h hfatal hsel
  | setRemoteIceParams params now => exact absurd trivial hnot
  | tick requestId now =>
    obtain rfl := step_ticked hstep
    exact onCheckAndPing_stray h requestId hnot
  | sendPacket => exact absurd trivial hnot
  | destroyChannel now =>
    obtain rfl := step_ended hstep
    obtain ⟨id, hsel⟩ := Option.ne_none_iff_exists'.1 hnot
    exact destroyChannel_stray h hsel now

theorem agreed_init (localPriorities : List UInt32) : Agreed (.init localPriorities) where
  registry := .init
  made := fun id hid => absurd hid List.not_mem_nil
  same := rfl
  selected := fun id hid => by cases hid
  observed := fun o ho => absurd ho List.not_mem_nil

/-- **One registered connection is selected, in the channel and in its
controller, after every event of a run exactly when no event of it destroys
a connection while it is selected.** -/
theorem oneSelected_iff (movingAverage : ℤ → ℤ → ℤ → ℤ) (localPriorities : List UInt32)
    (es : List ChannelEvent) :
    Common.EveryStep (IceTransportChannel.step movingAverage) (fun _ _ t => OneSelected t)
        (.init localPriorities) es ↔
      Common.EveryStep (IceTransportChannel.step movingAverage) (fun s e _ => SparesSelected s e)
        (.init localPriorities) es := by
  have hstep : ∀ s e t, Agreed s → s.step movingAverage e = some t →
      (OneSelected t ↔ SparesSelected s e) := by
    intro s e t h hs
    constructor
    · intro hone
      by_contra hnot
      exact (step_stray h hs hnot).not_oneSelected hone
    · intro hspares
      exact (step_agreed h hs hspares).oneSelected
  refine Common.everyStep_iff_of_inv (I := Agreed) hstep ?_ (agreed_init localPriorities)
  intro s e t h hs hone
  exact step_agreed h hs ((hstep s e t h hs).1 hone)

/-- A moving average with three parts of the old value to one of the new. -/
def getNextMovingAverage (prev cur ratio : ℤ) : ℤ := (prev * ratio + cur).tdiv (ratio + 1)

/-- A peer connects and answers a ping. -/
def connectedRun : List ChannelEvent :=
  [.setRemoteIceParams ⟨"peer", "secret"⟩ 900,
    .datagram 0 ⟨0x0A000001, 5000⟩ (.request "peer" (some 1)) 0 1000, .tick "first" 1100,
    .datagram 0 ⟨0x0A000001, 5000⟩
      (.response ⟨STUN_BINDING_RESPONSE, "first", 0, fun _ => true⟩) 1 1150,
    .tick "second" 2100]

/-- It answers the next ping with a role conflict. -/
def roleConflict : ChannelEvent :=
  .datagram 0 ⟨0x0A000001, 5000⟩
    (.response ⟨STUN_BINDING_ERROR_RESPONSE, "second", 487, fun _ => true⟩) 1 2150

/-- **The selected connection is destroyed and stays selected** for the
controller. -/
theorem destroyed_stays_selected :
    ¬ Common.EveryStep (IceTransportChannel.step getNextMovingAverage) (fun _ _ t => OneSelected t)
      (.init [1]) (connectedRun ++ [roleConflict]) := by
  intro h
  have hlost : ((Common.run (IceTransportChannel.step getNextMovingAverage) (.init [1])
      connectedRun).bind fun s => (s.step getNextMovingAverage roleConflict).map fun t =>
        (t.controller.selectedConnection, t.selectedConnection)) = some (some 0, none) := by
    decide +kernel
  obtain ⟨s, hs, hlost⟩ := Option.bind_eq_some_iff.1 hlost
  obtain ⟨t, ht, hsel⟩ := Option.map_eq_some_iff.1 hlost
  have hsame := (Common.everyStep_last h hs ht).same
  rw [(Prod.mk.inj hsel).1, (Prod.mk.inj hsel).2] at hsame
  cases hsame

end Ice

end XrtcServer
