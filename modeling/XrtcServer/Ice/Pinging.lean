import XrtcServer.Ice.Lifetime
/-!
# What leaves the ping schedule alone

A ping is sent by a tick and by nothing else. All that the other methods do
to the schedule is that connections leave it (`Unpinged`): when each was
pinged last and how often stays as it was, and none joins.
-/

namespace XrtcServer

namespace Ice

open IceTransportChannel IceConnection

variable {s t u : IceTransportChannel} {i id : ℕ} {ids : List ℕ} {now : ℤ} {c : IceConnection}

/-- When a connection was last pinged, and how often it has been. -/
def pingRecord (c : IceConnection) : ℤ × ℤ := (c.lastPingSent, c.numPingsSent)

theorem pingRecord_of_unselected {c d : IceConnection} (h : unselected d = unselected c) :
    pingRecord d = pingRecord c := by
  have hrecord := congrArg pingRecord h
  exact hrecord

/-- **No ping is sent and no connection joins.** Some may leave. -/
structure Unpinged (s t : IceTransportChannel) : Prop where
  made : t.made = s.made
  sent : t.lastPingSentMs = s.lastPingSentMs
  pings : ∀ id, pingRecord (t.heap id) = pingRecord (s.heap id)
  selected : ∀ id, t.controller.selectedConnection = some id →
    s.controller.selectedConnection = some id ∨ id ∈ s.controller.connections
  left : ∃ ids, t.controller.connections.Perm (s.controller.connections.diff ids) ∧
    t.controller.pingedConnections = s.controller.pingedConnections.diff ids ∧
    t.controller.unpingedConnections = s.controller.unpingedConnections.diff ids

namespace Unpinged

theorem trans (h : Unpinged s t) (k : Unpinged t u) : Unpinged s u where
  made := k.made.trans h.made
  sent := k.sent.trans h.sent
  pings := fun id => (k.pings id).trans (h.pings id)
  selected := by
    intro id hid
    obtain ⟨ids, hconnections, -⟩ := h.left
    rcases k.selected id hid with hsel | hmem
    · exact h.selected id hsel
    · exact .inr ((List.diff_subset _ ids) (hconnections.mem_iff.1 hmem))
  left := by
    obtain ⟨ids, hconnections, hpinged, hunpinged⟩ := h.left
    obtain ⟨jds, kconnections, kpinged, kunpinged⟩ := k.left
    refine ⟨ids ++ jds, ?_, ?_, ?_⟩
    · rw [List.diff_append]
      exact kconnections.trans (hconnections.diff_right jds)
    · rw [kpinged, hpinged, List.diff_append]
    · rw [kunpinged, hunpinged, List.diff_append]

/-- The controller is the same, but for the order of its connections and the
one selected. -/
theorem of_controller (hmade : t.made = s.made) (hsent : t.lastPingSentMs = s.lastPingSentMs)
    (hpings : ∀ id, pingRecord (t.heap id) = pingRecord (s.heap id))
    (hconnections : t.controller.connections.Perm s.controller.connections)
    (hpinged : t.controller.pingedConnections = s.controller.pingedConnections)
    (hunpinged : t.controller.unpingedConnections = s.controller.unpingedConnections)
    (hselected : ∀ id, t.controller.selectedConnection = some id →
      s.controller.selectedConnection = some id ∨ id ∈ s.controller.connections) : Unpinged s t :=
  ⟨hmade, hsent, hpings, hselected, [], hconnections, hpinged, hunpinged⟩

theorem of_selecting (h : OnlySelects s t) (hsent : t.lastPingSentMs = s.lastPingSentMs)
    (hpinged : t.controller.pingedConnections = s.controller.pingedConnections)
    (hunpinged : t.controller.unpingedConnections = s.controller.unpingedConnections)
    (hselected : ∀ id, t.controller.selectedConnection = some id →
      s.controller.selectedConnection = some id ∨ id ∈ s.controller.connections) : Unpinged s t :=
  of_controller h.made hsent (fun id => pingRecord_of_unselected (h.heap id)) h.connections hpinged
    hunpinged hselected

theorem of_eq (hmade : t.made = s.made) (hsent : t.lastPingSentMs = s.lastPingSentMs)
    (hheap : t.heap = s.heap) (hcontroller : t.controller = s.controller) : Unpinged s t := by
  refine of_controller hmade hsent (fun id => by rw [hheap]) ?_ ?_ ?_ fun id hid => .inl ?_
  · rw [hcontroller]
  · rw [hcontroller]
  · rw [hcontroller]
  · exact hcontroller ▸ hid

theorem refl (s : IceTransportChannel) : Unpinged s s := of_eq rfl rfl rfl rfl

theorem noted (h : Noted s t) (hsent : t.lastPingSentMs = s.lastPingSentMs) : Unpinged s t :=
  of_eq h.onlySelects.made hsent h.heap h.controller

/-- A connection is rewritten, but for its record. -/
theorem setConn (h : pingRecord c = pingRecord (s.heap id)) : Unpinged s (s.setConn id c) := by
  refine of_controller rfl rfl (fun j => ?_) (.refl _) rfl rfl fun _ hj => .inl hj
  by_cases hj : j = id
  · rw [hj, setConn_heap_self, h]
  · rw [setConn_heap_of_ne hj]

theorem foldl {f : IceTransportChannel → ℕ → IceTransportChannel} (hf : ∀ s id, Unpinged s (f s id))
    (s : IceTransportChannel) (ids : List ℕ) : Unpinged s (ids.foldl f s) := by
  induction ids generalizing s with
  | nil => exact refl s
  | cons id ids ih => exact (hf s id).trans (ih (f s id))

end Unpinged

/-! ## Sorting and selecting -/

theorem use_unpinged (s : IceTransportChannel) (id : ℕ) : Unpinged s (s.use id) := by
  refine .noted (use_noted s id) ?_
  unfold use
  split <;> rfl

theorem useAll_unpinged (s : IceTransportChannel) (ids : List ℕ) : Unpinged s (s.useAll ids) :=
  .foldl use_unpinged s ids

theorem setWritable_sent (s : IceTransportChannel) (writable : Bool) :
    (s.setWritable writable).lastPingSentMs = s.lastPingSentMs := by
  unfold setWritable
  split <;> rfl

theorem setReceiving_sent (s : IceTransportChannel) (receiving : Bool) :
    (s.setReceiving receiving).lastPingSentMs = s.lastPingSentMs := by
  unfold setReceiving
  split <;> rfl

theorem updateState_unpinged (s : IceTransportChannel) : Unpinged s s.updateState := by
  have hflags : ∀ ids w ids' r, ((((s.useAll ids).setWritable w).useAll ids').setReceiving
      r).lastPingSentMs = s.lastPingSentMs := by
    intro ids w ids' r
    rw [setReceiving_sent, (useAll_unpinged _ ids').sent, setWritable_sent, (useAll_unpinged s ids).sent]
  refine .noted (updateState_noted s) ?_
  unfold IceTransportChannel.updateState
  dsimp only
  split <;> exact hflags _ _ _ _

theorem maybeStartPinging_unpinged (s : IceTransportChannel) (now : ℤ) :
    Unpinged s (s.maybeStartPinging now) := by
  refine .noted (maybeStartPinging_noted s now) ?_
  unfold maybeStartPinging
  split
  · rfl
  · dsimp only
    split <;> exact (useAll_unpinged s _).sent

theorem setSelected_sent (s : IceTransportChannel) (id : ℕ) (selected : Bool) :
    (s.setSelected id selected).lastPingSentMs = s.lastPingSentMs :=
  (use_unpinged s id).sent

theorem switchSelectedConnection_sent (s : IceTransportChannel) (conn : Option ℕ) :
    (s.switchSelectedConnection conn).lastPingSentMs = s.lastPingSentMs := by
  have htold : ∀ t : IceTransportChannel, (tellSelected t conn).lastPingSentMs = t.lastPingSentMs := by
    intro t
    cases conn with
    | none => rfl
    | some id => exact setSelected_sent t id true
  rw [switchSelectedConnection_eq, htold]
  cases s.selectedConnection with
  | none => rfl
  | some old => exact setSelected_sent _ old false

theorem sortAndSwitchConnection_sent (s : IceTransportChannel) :
    s.sortAndSwitchConnection.1.lastPingSentMs = s.lastPingSentMs :=
  (useAll_unpinged _ _).sent.trans (useAll_unpinged s s.controller.connections).sent

theorem onConnectionStateChange_unpinged (s : IceTransportChannel) (now : ℤ) :
    Unpinged s (s.onConnectionStateChange now) := by
  have hsorted := sortConnectionsAndUpdateState_reselected s now
  have hpinged := congrArg IceController.pingedConnections hsorted.controller
  have hunpinged := congrArg IceController.unpingedConnections hsorted.controller
  have hselected := congrArg IceController.selectedConnection hsorted.controller
  refine .of_selecting hsorted.onlySelects ?_ hpinged hunpinged fun id hid => ?_
  · unfold onConnectionStateChange sortConnectionsAndUpdateState
    dsimp only
    rw [(maybeStartPinging_unpinged _ now).sent, (updateState_unpinged _).sent]
    unfold maybeSwitchSelectedConnection
    cases s.sortAndSwitchConnection.2 with
    | none => exact sortAndSwitchConnection_sent s
    | some top => exact (switchSelectedConnection_sent _ _).trans (sortAndSwitchConnection_sent s)
  · rcases Option.or_eq_some_iff.1 (hselected.symm.trans hid) with hw | ⟨-, hold⟩
    · exact .inr (worthSwitching_mem hw)
    · exact .inl hold

/-! ## Methods of a connection -/

/-- A method notes its use and rewrites the object, but for its record. -/
theorem rewrite_unpinged (h : pingRecord c = pingRecord (s.heap id)) :
    Unpinged s ((s.use id).setConn id c) := by
  refine (use_unpinged s id).trans (.setConn ?_)
  rw [(use_noted s id).heap, h]

theorem setWriteState_unpinged (s : IceTransportChannel) (id : ℕ) (state : WriteState) (now : ℤ) :
    Unpinged s (setWriteState s id state now) := by
  have hset : Unpinged s ((s.use id).setConn id { s.heap id with writeState := state }) :=
    rewrite_unpinged rfl
  unfold setWriteState
  dsimp only
  split
  · exact hset.trans (onConnectionStateChange_unpinged _ now)
  · exact hset

theorem updateReceiving_unpinged (s : IceTransportChannel) (id : ℕ) (now : ℤ) :
    Unpinged s (updateReceiving s id now) := by
  unfold updateReceiving
  dsimp only
  split
  · exact use_unpinged s id
  · refine (use_unpinged s id).trans (Unpinged.trans (.setConn ?_)
      (onConnectionStateChange_unpinged _ now))
    rfl

theorem degrade_unpinged (s : IceTransportChannel) (id : ℕ) (now : ℤ) :
    Unpinged s (degrade s id now) := by
  unfold degrade
  dsimp only
  split
  · exact (use_unpinged s id).trans (setWriteState_unpinged _ id _ now)
  · exact use_unpinged s id

/-- A connection leaves. -/
theorem onConnectionDestroyed_unpinged (s : IceTransportChannel) (id : ℕ) (now : ℤ) :
    Unpinged s (s.onConnectionDestroyed id now) := by
  let v := { s with controller := s.controller.onConnectionDestroyed id }
  have hleft : Unpinged s v := by
    refine ⟨rfl, rfl, fun _ => rfl, fun j hj => .inl hj, [id], ?_, ?_, ?_⟩ <;>
      rw [List.diff_cons, List.diff_nil]
    · exact .refl _
    · rfl
    · rfl
  unfold onConnectionDestroyed
  dsimp only
  split
  · have hswitch := switchSelectedConnection_switched v none
    have hpinged := congrArg IceController.pingedConnections hswitch.controller
    have hunpinged := congrArg IceController.unpingedConnections hswitch.controller
    have hselected := congrArg IceController.selectedConnection hswitch.controller
    have hcleared : Unpinged v (v.switchSelectedConnection none) :=
      .of_selecting hswitch.onlySelects (switchSelectedConnection_sent v none) hpinged hunpinged
        fun j hj => .inl (hselected.symm.trans hj)
    exact (hleft.trans hcleared).trans (onConnectionStateChange_unpinged _ now)
  · exact hleft.trans (updateState_unpinged v)

theorem destroy_unpinged (s : IceTransportChannel) (id : ℕ) (now : ℤ) :
    Unpinged s (destroy s id now) := by
  let v := (s.use id).onConnectionDestroyed id now
  have htold : Unpinged s v := (use_unpinged s id).trans (onConnectionDestroyed_unpinged _ id now)
  have hemptied : Unpinged v (v.setConn id { v.heap id with requests := [] }) := .setConn rfl
  exact (htold.trans hemptied).trans (.of_eq rfl rfl rfl rfl)

theorem failAndDestroy_unpinged (s : IceTransportChannel) (id : ℕ) (now : ℤ) :
    Unpinged s (failAndDestroy s id now) := by
  have hfailed : Unpinged s ((s.use id).setConn id { s.heap id with state := .failed }) :=
    rewrite_unpinged rfl
  exact hfailed.trans (destroy_unpinged _ id now)

theorem updateState_connection_unpinged (s : IceTransportChannel) (id : ℕ) (now : ℤ) :
    Unpinged s (IceConnection.updateState s id now) := by
  have hdegrade := degrade_unpinged s id now
  unfold IceConnection.updateState
  dsimp only
  split
  · refine (hdegrade.trans ?_).trans (updateReceiving_unpinged _ id now)
    exact (setWriteState_unpinged _ id _ now).trans (failAndDestroy_unpinged _ id now)
  · exact hdegrade.trans (updateReceiving_unpinged _ id now)

variable (movingAverage : ℤ → ℤ → ℤ → ℤ)

theorem receivedPingResponse_unpinged (s : IceTransportChannel) (id : ℕ) (rtt now : ℤ) :
    Unpinged s (receivedPingResponse s id movingAverage rtt now) := by
  unfold receivedPingResponse
  dsimp only
  refine ((rewrite_unpinged ?_).trans ((updateReceiving_unpinged _ id now).trans
    (setWriteState_unpinged _ id .writable now))).trans (rewrite_unpinged ?_)
  · rfl
  · rfl

theorem deleteRequest_unpinged (s : IceTransportChannel) (id : ℕ) (request : StunRequest) :
    Unpinged s (deleteRequest s id request) := by
  let v := s.use id
  have hremoved : Unpinged v (v.setConn id ((v.heap id).removeRequest request.id)) := .setConn rfl
  exact ((use_unpinged s id).trans hremoved).trans (.of_eq rfl rfl rfl rfl)

theorem checkResponse_unpinged (s : IceTransportChannel) (id : ℕ) (msg : StunResponse) (now : ℤ) :
    Unpinged s (checkResponse s id movingAverage msg now) := by
  have huse := use_unpinged s id
  unfold checkResponse
  dsimp only
  split
  · exact huse
  · refine (huse.trans ?_).trans (deleteRequest_unpinged _ id _)
    split
    · exact receivedPingResponse_unpinged movingAverage _ id _ now
    · split
      · unfold onConnectionRequestErrorResponse
        dsimp only
        split
        · exact use_unpinged _ id
        · exact (use_unpinged _ id).trans (failAndDestroy_unpinged _ id now)
      · exact .refl _

theorem onReadPacket_unpinged (s : IceTransportChannel) (id : ℕ) (packet : Packet) (now : ℤ) :
    Unpinged s (IceConnection.onReadPacket s id movingAverage packet now) := by
  have huse := use_unpinged s id
  have hrewrite : ∀ c, pingRecord c = pingRecord ((s.use id).heap id) →
      Unpinged s ((s.use id).setConn id c) := fun c hc => huse.trans (.setConn hc)
  unfold IceConnection.onReadPacket
  dsimp only
  cases packet with
  | notStun => exact hrewrite _ rfl
  | refused => exact huse
  | otherStun => exact huse
  | request remoteUfrag priority =>
    dsimp only
    split
    · exact huse
    · exact hrewrite _ rfl
  | response msg =>
    dsimp only
    split
    · split
      · exact huse.trans (checkResponse_unpinged movingAverage _ id msg now)
      · exact huse
    · exact huse

/-! ## Events -/

theorem setRemoteIceParams_unpinged (s : IceTransportChannel) (params : IceParameters) (now : ℤ) :
    Unpinged s (s.setRemoteIceParams params now) := by
  have hrecord : ∀ c : IceConnection, pingRecord (c.maybeSetRemoteIceParams params) = pingRecord c := by
    intro c
    unfold maybeSetRemoteIceParams
    split <;> rfl
  have hset : Unpinged s { s with remoteIceParams := params } := .of_eq rfl rfl rfl rfl
  have hall := Unpinged.foldl (fun s id => @rewrite_unpinged s id _ (hrecord _))
    { s with remoteIceParams := params } s.controller.connections
  unfold setRemoteIceParams
  exact (hset.trans hall).trans (onConnectionStateChange_unpinged _ now)

theorem updateConnectionStates_unpinged (s : IceTransportChannel) (now : ℤ) :
    Unpinged s (s.updateConnectionStates now) :=
  .foldl (fun s id => updateState_connection_unpinged s id now) s _

theorem destroyChannel_unpinged (s : IceTransportChannel) (now : ℤ) :
    Unpinged s (s.destroyChannel now) := by
  have hstopped : Unpinged s { s with timer := none } := .of_eq rfl rfl rfl rfl
  have hdestroyed := Unpinged.foldl (fun s id => destroy_unpinged s id now) { s with timer := none }
    s.controller.connections
  exact (hstopped.trans hdestroyed).trans (.of_eq rfl rfl rfl rfl)

end Ice

end XrtcServer
