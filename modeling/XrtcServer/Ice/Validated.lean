import XrtcServer.Ice.Aggregates
import XrtcServer.Ice.ConnectivityCheck
/-!
# Data goes where a check has been answered

The packets of the upper layers leave by the selected connection, and only
while that can be sent on. A connection can be sent on once its peer has
answered one of its own pings under the peer's password: no other method
brings that about.
-/

namespace XrtcServer

namespace Ice

open Base Common StunMessage UDPPort IceConnection IceTransportChannel

variable {s t u : IceTransportChannel} {c : IceConnection} {id : ℕ} {now : ℤ}

/-! ## Connections that can be sent on -/

/-- What `ready_to_send` asks of a connection. -/
def IceConnection.canSend (c : IceConnection) : Bool :=
  c.writable || c.writeState = .writeUnreliable

theorem canSend_congr {d : IceConnection} (h : d.writeState = c.writeState) :
    d.canSend = c.canSend := by
  unfold canSend IceConnection.writable
  rw [h]

/-- No connection comes to be one that can be sent on, and the channel is not
announced to be writable without one. -/
structure NoneReadied (s t : IceTransportChannel) : Prop where
  heap : ∀ id, (t.heap id).canSend = true → (s.heap id).canSend = true
  announced : OnceWritable t → OnceWritable s ∨ ∃ id, (s.heap id).canSend = true

theorem NoneReadied.refl (s : IceTransportChannel) : NoneReadied s s := ⟨fun _ h => h, .inl⟩

theorem NoneReadied.trans (h : NoneReadied s t) (k : NoneReadied t u) : NoneReadied s u where
  heap := fun id hu => h.heap id (k.heap id hu)
  announced := by
    intro hu
    rcases k.announced hu with honce | ⟨id, hid⟩
    · exact h.announced honce
    · exact .inr ⟨id, h.heap id hid⟩

theorem SameRecord.once (h : SameRecord s t) (ht : OnceWritable t) : OnceWritable s := by
  unfold OnceWritable at ht
  rwa [h.announced] at ht

theorem SameRecord.noneReadied (h : SameRecord s t)
    (hwrite : ∀ id, (t.heap id).writeState = (s.heap id).writeState) : NoneReadied s t :=
  ⟨fun id ht => by rwa [canSend_congr (hwrite id)] at ht, fun ht => .inl (h.once ht)⟩

theorem Unaffected.noneReadied (h : Unaffected s t) : NoneReadied s t :=
  h.toSameRecord.noneReadied h.writeStates

theorem use_noneReadied (s : IceTransportChannel) (id : ℕ) : NoneReadied s (s.use id) :=
  (use_unaffected s id).noneReadied

theorem NoneReadied.setConn (h : c.canSend = true → (s.heap id).canSend = true) :
    NoneReadied s (s.setConn id c) := by
  refine ⟨fun j hj => ?_, .inl⟩
  by_cases hid : j = id
  · subst hid
    rw [setConn_heap_self] at hj
    exact h hj
  · rwa [setConn_heap_of_ne hid] at hj

theorem rewrite_noneReadied (h : c.canSend = true → (s.heap id).canSend = true) :
    NoneReadied s ((s.use id).setConn id c) := by
  refine (use_noneReadied s id).trans (.setConn ?_)
  rwa [(use_noted s id).heap]

/-! ## What the channel announces -/

theorem setWritable_noneReadied (s : IceTransportChannel) {writable : Bool}
    (h : writable = true → ∃ id, (s.heap id).canSend = true) :
    NoneReadied s (s.setWritable writable) := by
  refine ⟨fun id hid => by rwa [(setWritable_noted s writable).heap] at hid, fun ht => ?_⟩
  unfold setWritable at ht
  split at ht
  · exact .inl ht
  · unfold OnceWritable at ht
    rw [announced_emit, List.mem_append, List.mem_singleton] at ht
    exact ht.imp id fun hnow => h hnow.symm

theorem setReceiving_noneReadied (s : IceTransportChannel) (receiving : Bool) :
    NoneReadied s (s.setReceiving receiving) := by
  refine ⟨fun id hid => by rwa [(setReceiving_noted s receiving).heap] at hid, fun ht => ?_⟩
  unfold setReceiving at ht
  split at ht
  · exact .inl ht
  · unfold OnceWritable at ht
    rw [announced_emit_of_ne (by decide)] at ht
    exact .inl ht

/-- The channel is announced to be writable where its selected connection is. -/
theorem channelUpdateState_noneReadied (s : IceTransportChannel) :
    NoneReadied s s.updateState := by
  let v := s.useAll s.selectedConnection.toList
  let w := v.setWritable (v.selectedConnection.any fun id => (v.heap id).writable)
  let x := w.useAll w.controller.connections
  let y := x.setReceiving (x.controller.connections.any fun id => (x.heap id).receiving)
  have hupdate : s.updateState =
      if y.computeIceTransportState ≠ y.state then
        { y with state := y.computeIceTransportState }.emit .iceStateChange
      else y := rfl
  have hv : NoneReadied s v := (useAll_unaffected s _).noneReadied
  have hw : NoneReadied v w := by
    refine setWritable_noneReadied v fun hany => ?_
    obtain ⟨id, -, hid⟩ := (Option.any_eq_true _ _).1 hany
    refine ⟨id, ?_⟩
    unfold canSend
    rw [hid, Bool.true_or]
  have hx : NoneReadied w x := (useAll_unaffected w _).noneReadied
  have hy : NoneReadied s y := ((hv.trans hw).trans hx).trans (setReceiving_noneReadied x _)
  rw [hupdate]
  split
  · refine hy.trans ⟨fun _ h => h, fun ht => .inl ?_⟩
    unfold OnceWritable at ht
    rw [announced_emit_of_ne (by decide)] at ht
    exact ht
  · exact hy

theorem switchSelectedConnection_noneReadied (s : IceTransportChannel) (conn : Option ℕ) :
    NoneReadied s (s.switchSelectedConnection conn) :=
  (switchSelectedConnection_sameRecord s conn).noneReadied fun id =>
    writeState_of_unselected ((switchSelectedConnection_switched s conn).onlySelects.heap id)

theorem onConnectionStateChange_noneReadied (s : IceTransportChannel) (now : ℤ) :
    NoneReadied s (s.onConnectionStateChange now) := by
  have hsorted : NoneReadied s s.sortAndSwitchConnection.1 :=
    (sortAndSwitchConnection_sameRecord s).noneReadied fun id =>
      writeState_of_unselected ((sortAndSwitchConnection_sorted s).1.onlySelects.heap id)
  have hswitched : ∀ (v : IceTransportChannel) (conn : Option ℕ),
      NoneReadied v (v.maybeSwitchSelectedConnection conn) := by
    intro v conn
    cases conn with
    | none => exact .refl v
    | some id => exact switchSelectedConnection_noneReadied v (some id)
  exact ((hsorted.trans (hswitched _ _)).trans (channelUpdateState_noneReadied _)).trans
    (maybeStartPinging_unaffected _ now).noneReadied

theorem onConnectionDestroyed_noneReadied (s : IceTransportChannel) (id : ℕ) (now : ℤ) :
    NoneReadied s (s.onConnectionDestroyed id now) := by
  have herased : NoneReadied s { s with controller := s.controller.onConnectionDestroyed id } :=
    ⟨fun _ h => h, .inl⟩
  unfold onConnectionDestroyed
  dsimp only
  split
  · exact (herased.trans (switchSelectedConnection_noneReadied _ none)).trans
      (onConnectionStateChange_noneReadied _ now)
  · exact herased.trans (channelUpdateState_noneReadied _)

/-! ## The methods of a connection -/

theorem setWriteState_noneReadied {state : WriteState}
    (h : ({ s.heap id with writeState := state } : IceConnection).canSend = true →
      (s.heap id).canSend = true) (now : ℤ) : NoneReadied s (setWriteState s id state now) := by
  unfold setWriteState
  dsimp only
  split
  · exact (rewrite_noneReadied h).trans (onConnectionStateChange_noneReadied _ now)
  · exact rewrite_noneReadied h

theorem updateReceiving_noneReadied (s : IceTransportChannel) (id : ℕ) (now : ℤ) :
    NoneReadied s (updateReceiving s id now) := by
  unfold updateReceiving
  dsimp only
  split
  · exact use_noneReadied s id
  · have hset : NoneReadied (s.use id) ((s.use id).setConn id { (s.use id).heap id with
        receiving := ((s.use id).heap id).isReceiving now }) := .setConn fun h => h
    exact ((use_noneReadied s id).trans hset).trans (onConnectionStateChange_noneReadied _ now)

theorem destroy_noneReadied (s : IceTransportChannel) (id : ℕ) (now : ℤ) :
    NoneReadied s (destroy s id now) := by
  let told := (s.use id).onConnectionDestroyed id now
  have htold : NoneReadied s told :=
    (use_noneReadied s id).trans (onConnectionDestroyed_noneReadied (s.use id) id now)
  have hemptied : NoneReadied told (told.setConn id { told.heap id with requests := [] }) :=
    .setConn fun h => h
  exact (htold.trans hemptied).trans ⟨fun _ h => h, .inl⟩

theorem failAndDestroy_noneReadied (s : IceTransportChannel) (id : ℕ) (now : ℤ) :
    NoneReadied s (failAndDestroy s id now) := by
  have hfailed : NoneReadied s ((s.use id).setConn id { s.heap id with state := .failed }) :=
    rewrite_noneReadied fun h => h
  exact hfailed.trans (destroy_noneReadied _ id now)

/-- A connection is made unreliable where it was writable. -/
theorem degrade_noneReadied (s : IceTransportChannel) (id : ℕ) (now : ℤ) :
    NoneReadied s (degrade s id now) := by
  unfold degrade
  dsimp only
  split
  · rename_i hunreliable
    refine (use_noneReadied s id).trans (setWriteState_noneReadied (fun _ => ?_) now)
    unfold becomesUnreliable at hunreliable
    rw [Bool.and_eq_true, Bool.and_eq_true] at hunreliable
    unfold canSend IceConnection.writable
    rw [hunreliable.1.1, Bool.true_or]
  · exact use_noneReadied s id

theorem updateState_noneReadied (s : IceTransportChannel) (id : ℕ) (now : ℤ) :
    NoneReadied s (IceConnection.updateState s id now) := by
  have hdegrade := degrade_noneReadied s id now
  unfold IceConnection.updateState
  dsimp only
  split
  · have htimeout : NoneReadied (degrade s id now)
        (setWriteState (degrade s id now) id .writeTimeout now) :=
      setWriteState_noneReadied (fun h => by cases h) now
    exact (hdegrade.trans (htimeout.trans (failAndDestroy_noneReadied _ id now))).trans
      (updateReceiving_noneReadied _ id now)
  · exact hdegrade.trans (updateReceiving_noneReadied _ id now)

theorem deleteRequest_noneReadied (s : IceTransportChannel) (id : ℕ) (request : StunRequest) :
    NoneReadied s (deleteRequest s id request) := by
  have hremove : NoneReadied (s.use id)
      ((s.use id).setConn id (((s.use id).heap id).removeRequest request.id)) := .setConn fun h => h
  exact ((use_noneReadied s id).trans hremove).trans ⟨fun _ h => h, .inl⟩

theorem foldl_noneReadied {f : IceTransportChannel → ℕ → IceTransportChannel}
    (hf : ∀ s id, NoneReadied s (f s id)) (s : IceTransportChannel) (ids : List ℕ) :
    NoneReadied s (ids.foldl f s) := by
  induction ids generalizing s with
  | nil => exact .refl s
  | cons id ids ih => exact (hf s id).trans (ih (f s id))

/-! ## Datagrams -/

/-- A connection comes to be one that can be sent on by a verified response
only, and so does the channel. -/
structure ReadiedBy (s t : IceTransportChannel) (id : ℕ) (packet : Packet) : Prop where
  heap : ∀ j, (t.heap j).canSend = true → (s.heap j).canSend = true ∨
    j = id ∧ ∃ msg request, packet = .response msg ∧ (s.heap id).Verified msg request
  announced : OnceWritable t → (OnceWritable s ∨ ∃ j, (s.heap j).canSend = true) ∨
    ∃ msg request, packet = .response msg ∧ (s.heap id).Verified msg request

theorem NoneReadied.readiedBy (h : NoneReadied s t) (id : ℕ) (packet : Packet) :
    ReadiedBy s t id packet := ⟨fun j hj => .inl (h.heap j hj), fun ht => .inl (h.announced ht)⟩

theorem ReadiedBy.of_unaffected {packet : Packet} (h : Unaffected s t) (hheap : t.heap = s.heap)
    (k : ReadiedBy t u id packet) : ReadiedBy s u id packet := by
  obtain ⟨hready, honce⟩ := k
  rw [hheap] at hready honce
  exact ⟨hready, fun hu => (honce hu).imp_left (Or.imp_left h.toSameRecord.once)⟩

theorem checkResponse_readiedBy (movingAverage : ℤ → ℤ → ℤ → ℤ) {msg : StunResponse}
    (hok : msg.integrityOk (s.heap id).remoteCandidate.password = true) (now : ℤ) :
    ReadiedBy s (checkResponse s id movingAverage msg now) id (.response msg) := by
  have huse := use_noneReadied s id
  unfold checkResponse
  dsimp only
  rw [(use_noted s id).heap]
  cases hfind : (s.heap id).findRequest msg.transactionId with
  | none => exact huse.readiedBy id _
  | some request =>
    have hmem : request ∈ (s.heap id).requests := List.mem_of_find?_eq_some hfind
    have hid : request.id = msg.transactionId := by simpa using List.find?_some hfind
    dsimp only
    split
    · rename_i hsuccess
      have hverified : (s.heap id).Verified msg request := ⟨hmem, hid, hsuccess, hok⟩
      refine ⟨fun j hj => ?_, fun _ => .inr ⟨msg, request, rfl, hverified⟩⟩
      have hdeleted := (deleteRequest_noneReadied _ id request).heap j hj
      by_cases hself : j = id
      · exact .inr ⟨hself, msg, request, rfl, hverified⟩
      · have hothers := (receivedPingResponse_touches movingAverage (s.use id) id
          (toInt32 (now - request.ts)) now).others j hself
        rw [onConnectionRequestResponse, canSend_congr (writeState_of_unselected hothers)] at hdeleted
        exact .inl (huse.heap j hdeleted)
    · refine NoneReadied.readiedBy (NoneReadied.trans ?_ (deleteRequest_noneReadied _ id request)) id _
      split
      · unfold onConnectionRequestErrorResponse
        dsimp only
        split
        · exact huse.trans (use_noneReadied _ id)
        · exact (huse.trans (use_noneReadied _ id)).trans (failAndDestroy_noneReadied _ id now)
      · exact huse

theorem onReadPacket_readiedBy (movingAverage : ℤ → ℤ → ℤ → ℤ) (s : IceTransportChannel) (id : ℕ)
    (packet : Packet) (now : ℤ) :
    ReadiedBy s (IceConnection.onReadPacket s id movingAverage packet now) id packet := by
  have huse := use_noneReadied s id
  have hheap := (use_noted s id).heap
  have hrewrite : ∀ c : IceConnection, c.writeState = (s.heap id).writeState →
      NoneReadied s ((s.use id).setConn id c) :=
    fun c hc => rewrite_noneReadied fun h => by rwa [canSend_congr hc] at h
  unfold IceConnection.onReadPacket
  dsimp only
  rw [hheap]
  cases packet with
  | notStun =>
    refine NoneReadied.readiedBy (hrewrite _ ?_) id _
    rfl
  | refused => exact huse.readiedBy id _
  | otherStun => exact huse.readiedBy id _
  | request remoteUfrag priority =>
    dsimp only
    split
    · exact huse.readiedBy id _
    · refine NoneReadied.readiedBy (hrewrite _ ?_) id _
      rfl
  | response msg =>
    dsimp only
    split
    · split
      · rename_i hok
        exact (checkResponse_readiedBy movingAverage (by rwa [hheap]) now).of_unaffected
          (use_unaffected s id) hheap
      · exact huse.readiedBy id _
    · exact huse.readiedBy id _

/-! ## Steps -/

variable {movingAverage : ℤ → ℤ → ℤ → ℤ} {e : ChannelEvent}

theorem setRemoteIceParams_noneReadied (s : IceTransportChannel) (params : IceParameters) (now : ℤ) :
    NoneReadied s (s.setRemoteIceParams params now) := by
  have hfill : ∀ (v : IceTransportChannel) (id : ℕ), NoneReadied v
      ((v.use id).setConn id ((v.heap id).maybeSetRemoteIceParams params)) := by
    intro v id
    have hsame : ((v.heap id).maybeSetRemoteIceParams params).writeState = (v.heap id).writeState := by
      unfold maybeSetRemoteIceParams
      split <;> rfl
    exact rewrite_noneReadied fun h => by rwa [canSend_congr hsame] at h
  have hset : NoneReadied s { s with remoteIceParams := params } := ⟨fun _ h => h, .inl⟩
  exact (hset.trans (foldl_noneReadied hfill _ _)).trans (onConnectionStateChange_noneReadied _ now)

theorem onCheckAndPing_noneReadied (s : IceTransportChannel) (requestId : String) (now : ℤ) :
    NoneReadied s (s.onCheckAndPing requestId now) := by
  have hupdated : NoneReadied s (s.updateConnectionStates now) :=
    foldl_noneReadied (fun s id => updateState_noneReadied s id now) s _
  have hrest := ((selectConnectionToPing_unaffected (s.updateConnectionStates now) now).trans
    (pingChosen_unaffected _ (pinged s now) requestId now)).trans
    (changePingInterval_unaffected _
      ((s.updateConnectionStates now).selectConnectionToPing now).2.pingInterval)
  exact hupdated.trans hrest.noneReadied

/-- **A connection comes to be one that can be sent on** by a verified response
that arrives on it, and the channel is announced to be writable over one. -/
structure Readied (s : IceTransportChannel) (e : ChannelEvent) (t : IceTransportChannel) : Prop where
  heap : ∀ id, (t.heap id).canSend = true → (s.heap id).canSend = true ∨
    ∃ msg request, Arrives s id msg e ∧ (s.heap id).Verified msg request
  announced : OnceWritable t → (OnceWritable s ∨ ∃ id, (s.heap id).canSend = true) ∨
    ∃ id msg request, Arrives s id msg e ∧ (s.heap id).Verified msg request

theorem NoneReadied.readied (h : NoneReadied s t) (e : ChannelEvent) : Readied s e t :=
  ⟨fun id hid => .inl (h.heap id hid), fun ht => .inl (h.announced ht)⟩

theorem step_readied (hstep : s.step movingAverage e = some t) : Readied s e t := by
  cases handled_of_step hstep with
  | @known _ _ conn _ port packet now hport haddr =>
    have hread := onReadPacket_readiedBy movingAverage s conn packet now
    refine ⟨fun id hid => (hread.heap id hid).imp_right ?_, fun ht => (hread.announced ht).imp_right ?_⟩
    · rintro ⟨rfl, msg, request, rfl, hverified⟩
      exact ⟨msg, request, ⟨rfl, port, hport, haddr⟩, hverified⟩
    · rintro ⟨msg, request, rfl, hverified⟩
      exact ⟨conn, msg, request, ⟨rfl, port, hport, haddr⟩, hverified⟩
  | @stranger portIndex new addr port remoteUfrag priority now hport haddr hnew =>
    refine NoneReadied.readied ?_ _
    unfold IceTransportChannel.onUnknownAddress
    cases priority with
    | none => exact .refl s
    | some priority =>
      -- the new connection cannot be sent on
      let remote : Candidate :=
        { priority := priority, address := addr, username := remoteUfrag,
          password := s.remoteIceParams.icePwd }
      let c : IceConnection :=
        { port := portIndex, localPriority := port.localPriority, remoteCandidate := remote }
      have hset : NoneReadied s (s.setConn new c) := .setConn fun h => by cases h
      have hmade : NoneReadied s
          ((s.createConnection portIndex port remote new now).addConnection new) := by
        rw [createConnection_of_none haddr]
        exact hset.trans ⟨fun _ h => h, .inl⟩
      exact hmade.trans (onConnectionStateChange_noneReadied _ now)
  | dropped => exact (NoneReadied.refl s).readied _
  | params params now => exact (setRemoteIceParams_noneReadied s params now).readied _
  | ticked requestId now => exact (onCheckAndPing_noneReadied s requestId now).readied _
  | sent => exact (useAll_unaffected s _).noneReadied.readied _
  | ended now =>
    have hstopped : NoneReadied s { s with timer := none } := ⟨fun _ h => h, .inl⟩
    have hclosed : ∀ v : IceTransportChannel, NoneReadied v { v with ports := [], closed := true } :=
      fun _ => ⟨fun _ h => h, .inl⟩
    have hdestroyed := hstopped.trans
      (foldl_noneReadied (fun s id => destroy_noneReadied s id now) _ s.controller.connections)
    exact (hdestroyed.trans (hclosed _)).readied _

/-! ## Runs -/

variable {rtc : Rtc} {iceParams : IceParameters} {localPriorities : List UInt32}
variable {data : List UInt8} {es : List DatagramEvent} {v : DatagramChannel}

/-- What is a response for the channel is a STUN message with these fields. -/
theorem parses_of_response {msg : StunResponse}
    (h : packetOf rtc (getStunMessage rtc iceParams data) = .response msg) :
    ∃ got, Parses rtc data got ∧ msg.type = got.type ∧
      msg.transactionId = ofBytes got.transactionId ∧ ∀ password,
        msg.integrityOk password = true →
          got.validateMessageIntegrity rtc password = .integrityOk := by
  rcases getStunMessage_cases rtc iceParams data with
    hgot | ⟨got, hparses, hother, hgot⟩ | ⟨got, errCode, -, -, -, hgot⟩ |
    ⟨got, name, -, htype, -, hgot⟩
  · rw [hgot] at h
    cases h
  · rw [hgot] at h
    unfold packetOf at h
    dsimp only at h
    rw [if_neg (by decide), if_neg hother] at h
    split at h
    · obtain rfl := Packet.response.inj h
      exact ⟨got, hparses, rfl, rfl, fun password hok => of_decide_eq_true hok⟩
    · cases h
  · rw [hgot] at h
    cases h
  · rw [hgot] at h
    unfold packetOf acceptance at h
    dsimp only at h
    rw [if_neg (by decide), if_pos htype] at h
    cases h

/-- **A check has been answered from this place**: a ping has been sent there,
and a success response with its transaction id has come back, with a good HMAC
under the password of the ping. -/
def HasAnswered (rtc : Rtc) (iceParams : IceParameters) (movingAverage : ℤ → ℤ → ℤ → ℤ)
    (localPriorities : List UInt32) (es : List DatagramEvent) (portIndex : ℕ)
    (addr : SocketAddress) : Prop :=
  ∃ fs transactionId sentAt gs data new now hs u c msg,
    es = fs ++ .tick transactionId sentAt :: gs ++ .datagram portIndex addr data new now :: hs ∧
    run (DatagramChannel.step rtc iceParams movingAverage) ⟨.init localPriorities, []⟩ fs = some u ∧
    ⟨portIndex, addr, ping rtc iceParams c transactionId⟩ ∈
      u.channel.sends rtc iceParams movingAverage (.tick transactionId sentAt) ∧
    c.remoteCandidate.password ≠ "" ∧
    Parses rtc data msg ∧ msg.type = STUN_BINDING_RESPONSE ∧ msg.transactionId = transactionId ∧
    msg.validateMessageIntegrity rtc c.remoteCandidate.password = .integrityOk

theorem SamePeer.at (h : SamePeer c d) :
    d.port = c.port ∧ d.remoteCandidate.address = c.remoteCandidate.address := by
  have hplace := h.place
  unfold IceConnection.place at hplace
  obtain ⟨hport, hrest⟩ := Prod.mk.inj hplace
  exact ⟨hport, (Prod.mk.inj hrest).1⟩

/-- What a connection waits for has been sent. -/
theorem sent_of_pending {request : StunRequest}
    (hrun : run (DatagramChannel.step rtc iceParams movingAverage) ⟨.init localPriorities, []⟩ es =
      some v) (hpending : request ∈ (v.channel.heap id).requests) :
    ∃ fs transactionId sentAt gs u, es = fs ++ .tick transactionId sentAt :: gs ∧
      run (DatagramChannel.step rtc iceParams movingAverage) ⟨.init localPriorities, []⟩ fs =
        some u ∧ pinged u.channel sentAt = some id ∧ ofBytes transactionId = request.id := by
  obtain ⟨fs, e, gs, u, rfl, hu, hsends, -⟩ :=
    exists_since (I := fun w : DatagramChannel => ∀ j, (w.channel.heap j).Keyed)
      (P := fun w => request ∈ (w.channel.heap id).requests)
      (Q := fun w e => Sends w.channel id request (e.channelEvent rtc iceParams))
      (fun w e w' hkeyed hstep => (step_guarded hkeyed (DatagramChannel.step_eq_some.1 hstep).1).keyed)
      (fun w e w' hkeyed hstep hafter =>
        (step_guarded hkeyed (DatagramChannel.step_eq_some.1 hstep).1).requests id request hafter)
      (keyed_init localPriorities) (fun h => by cases h) hrun hpending
  obtain ⟨hevent, hpinged⟩ := hsends
  cases e with
  | tick transactionId sentAt =>
    obtain ⟨htid, rfl⟩ := ChannelEvent.tick.inj hevent
    exact ⟨fs, transactionId, _, gs, u, rfl, hu, hpinged, htid⟩
  | datagram | setRemoteIceParams | sendPacket | destroyChannel => cases hevent

/-- **A verified response is the answer** to a ping of the connection on which
it arrives, so that a check has been answered from there. -/
theorem answered_of_verified {u : DatagramChannel} {e : DatagramEvent} {msg : StunResponse}
    {request : StunRequest}
    (hu : run (DatagramChannel.step rtc iceParams movingAverage) ⟨.init localPriorities, []⟩ es =
      some u) (harrives : Arrives u.channel id msg (e.channelEvent rtc iceParams))
    (hverified : (u.channel.heap id).Verified msg request) (hs : List DatagramEvent) :
    id ∈ u.channel.made ∧
      HasAnswered rtc iceParams movingAverage localPriorities (es ++ e :: hs)
        (u.channel.heap id).port (u.channel.heap id).remoteCandidate.address := by
  cases e with
  | datagram portIndex addr data new now =>
    unfold DatagramEvent.channelEvent at harrives
    dsimp only at harrives
    generalize hpacket : packetOf rtc (getStunMessage rtc iceParams data) = packet at harrives
    cases packet with
    | response m =>
      obtain ⟨rfl, port, hport, hconn⟩ := harrives
      have hat : connectionAt u.channel portIndex addr = some id := by
        unfold connectionAt
        rw [hport, Option.bind_some, hconn]
      obtain ⟨hmade, hhere, haddress⟩ := (invited_of_run hu).entry portIndex addr id hat
      obtain ⟨got, hparses, htype, htid, hok⟩ := parses_of_response hpacket
      have hbinding := (keyed_run (DatagramChannel.run_channel hu) id).binding request hverified.mem
      obtain ⟨fs, transactionId, sentAt, gs, w, rfl, hw, hpinged, hdrawn⟩ :=
        sent_of_pending hu hverified.mem
      have hwMade := (invited_of_run hw).pinged hpinged
      have hwPassword := pinged_password (keyed_run (DatagramChannel.run_channel hw)) hpinged
      rw [run_append, hw, Option.bind_some] at hu
      have hwaits := (run_peer (DatagramChannel.run_channel hu) hwMade).1
      refine ⟨hmade, ?_⟩
      rcases sends_tick w.channel rtc iceParams movingAverage transactionId sentAt with
        ⟨hnone, -⟩ | ⟨id', c, hsome, hsame, hone⟩
      · rw [hpinged] at hnone
        cases hnone
      · obtain rfl := Option.some.inj (hpinged.symm.trans hsome)
        rw [hhere, haddress]
        refine ⟨fs, transactionId, sentAt, gs, data, new, now, hs, w, c, got, rfl, hw, ?_, ?_,
          hparses, ?_, ?_, ?_⟩
        · rw [hone, List.mem_singleton]
          unfold IceConnection.sendTo
          rw [hsame.port, hsame.candidate, ← hwaits.at.1, ← hwaits.at.2, hhere, haddress]
        · rwa [hsame.candidate]
        · have hsuccess := hverified.success
          rw [hbinding] at hsuccess
          rw [← htype]
          exact Option.some.inj (hsuccess.trans (by decide))
        · refine ofBytes_injective ?_
          rw [← htid, ← hverified.transaction, hdrawn]
        · rw [hsame.candidate, ← hwaits.password hwPassword]
          exact hok _ hverified.integrity
    | notStun | refused | otherStun | request => cases harrives
  | tick | setRemoteIceParams | sendPacket | destroyChannel => cases harrives

/-- **A connection that can be sent on has been answered** where it is. -/
theorem answered_of_canSend
    (hrun : run (DatagramChannel.step rtc iceParams movingAverage) ⟨.init localPriorities, []⟩ es =
      some v) (hsend : (v.channel.heap id).canSend = true) :
    HasAnswered rtc iceParams movingAverage localPriorities es (v.channel.heap id).port
      (v.channel.heap id).remoteCandidate.address := by
  obtain ⟨fs, e, gs, u, rfl, hu, ⟨msg, request, harrives, hverified⟩, -⟩ :=
    exists_since (I := fun _ : DatagramChannel => True)
      (P := fun w => (w.channel.heap id).canSend = true)
      (Q := fun w e => ∃ msg request, Arrives w.channel id msg (e.channelEvent rtc iceParams) ∧
        (w.channel.heap id).Verified msg request)
      (fun _ _ _ _ _ => trivial)
      (fun w e w' _ hstep => (step_readied (DatagramChannel.step_eq_some.1 hstep).1).heap id)
      trivial (fun h => by cases h) hrun hsend
  obtain ⟨hmade, hanswered⟩ := answered_of_verified hu harrives hverified gs
  rw [run_append, hu, Option.bind_some] at hrun
  have hkept := (run_peer (DatagramChannel.run_channel hrun) hmade).1.at
  rw [hkept.1, hkept.2]
  exact hanswered

/-- **A channel that has been announced to be writable** has had a check
answered. -/
theorem answered_of_onceWritable
    (hrun : run (DatagramChannel.step rtc iceParams movingAverage) ⟨.init localPriorities, []⟩ es =
      some v) (hwritable : OnceWritable v.channel) :
    ∃ portIndex addr,
      HasAnswered rtc iceParams movingAverage localPriorities es portIndex addr := by
  obtain ⟨fs, e, gs, u, rfl, hu, ⟨id, msg, request, harrives, hverified⟩, -⟩ :=
    exists_since (I := fun _ : DatagramChannel => True)
      (P := fun w => OnceWritable w.channel ∨ ∃ id, (w.channel.heap id).canSend = true)
      (Q := fun w e => ∃ id msg request, Arrives w.channel id msg (e.channelEvent rtc iceParams) ∧
        (w.channel.heap id).Verified msg request)
      (fun _ _ _ _ _ => trivial)
      (fun w e w' _ hstep hafter => by
        have hready := step_readied (DatagramChannel.step_eq_some.1 hstep).1
        rcases hafter with honce | ⟨id, hid⟩
        · exact hready.announced honce
        · exact (hready.heap id hid).imp (fun hbefore => .inr ⟨id, hbefore⟩) fun hnow => ⟨id, hnow⟩)
      trivial (fun h => by rcases h with h | ⟨_, h⟩ <;> cases h) hrun (.inl hwritable)
  exact ⟨_, _, (answered_of_verified hu harrives hverified gs).2⟩

/-- What comes of a packet of the upper layers. -/
theorem sends_sendPacket (rtc : Rtc) (iceParams : IceParameters) (movingAverage : ℤ → ℤ → ℤ → ℤ)
    (s : IceTransportChannel) (packet : List UInt8) :
    s.sends rtc iceParams movingAverage (.sendPacket packet) = [] ∨
      ∃ id, (s.heap id).canSend = true ∧
        s.sends rtc iceParams movingAverage (.sendPacket packet) =
          [⟨(s.heap id).port, (s.heap id).remoteCandidate.address, packet⟩] := by
  have hsends : s.sends rtc iceParams movingAverage (.sendPacket packet) =
      s.sendPacketSends packet := rfl
  rw [hsends]
  unfold sendPacketSends
  cases hselected : s.selectedConnection with
  | none => exact .inl rfl
  | some id =>
    dsimp only
    split
    · rename_i hready
      exact .inr ⟨id, hready, rfl⟩
    · exact .inl rfl

/-- **Data goes where a check has been answered.** A packet of the upper layers
leaves unchanged, once at most, for an address that the channel has pinged and
that has answered with success, under the password of the ping. -/
theorem data_after_check (rtc : Rtc) (iceParams : IceParameters) (movingAverage : ℤ → ℤ → ℤ → ℤ)
    (localPriorities : List UInt32) (es : List DatagramEvent) (v : DatagramChannel)
    (packet : List UInt8)
    (hrun : run (DatagramChannel.step rtc iceParams movingAverage) ⟨.init localPriorities, []⟩ es =
      some v) :
    v.channel.sends rtc iceParams movingAverage (.sendPacket packet) = [] ∨
      ∃ portIndex addr, v.channel.sends rtc iceParams movingAverage (.sendPacket packet) =
          [⟨portIndex, addr, packet⟩] ∧
        HasAnswered rtc iceParams movingAverage localPriorities es portIndex addr := by
  rcases sends_sendPacket rtc iceParams movingAverage v.channel packet with hnone | ⟨id, hready, hone⟩
  · exact .inl hnone
  · exact .inr ⟨_, _, hone, answered_of_canSend hrun hready⟩

/-- The ping of the second end is answered. -/
def answeredRun : List DatagramEvent :=
  meeting ++ [.tick (List.replicate 12 9) 1100,
    .datagram 0 firstAddress (success blankRtc freshParams secondAddress (List.replicate 12 9)) 1 1200]

theorem data_after_check_first : ∃ v : DatagramChannel,
    run (DatagramChannel.step blankRtc secondParams fun x _ _ => x) ⟨.init [0], []⟩ answeredRun =
      some v ∧
    v.channel.sends blankRtc secondParams (fun x _ _ => x) (.sendPacket [1, 2]) =
      [⟨0, firstAddress, [1, 2]⟩] ∧
    HasAnswered blankRtc secondParams (fun x _ _ => x) [0] answeredRun 0 firstAddress := by
  have hsent : (run (DatagramChannel.step blankRtc secondParams fun x _ _ => x) ⟨.init [0], []⟩
      answeredRun).map (fun v =>
        v.channel.sends blankRtc secondParams (fun x _ _ => x) (.sendPacket [1, 2])) =
      some [⟨0, firstAddress, [1, 2]⟩] := by decide +kernel
  obtain ⟨v, hrun, hone⟩ := Option.map_eq_some_iff.1 hsent
  refine ⟨v, hrun, hone, ?_⟩
  rcases data_after_check blankRtc secondParams (fun x _ _ => x) [0] answeredRun v [1, 2] hrun with
    hnone | ⟨portIndex, addr, hsome, hanswered⟩
  · rw [hone] at hnone
    cases hnone
  · rw [hone] at hsome
    obtain ⟨rfl, rfl, -⟩ := Sent.mk.inj (List.singleton_inj.1 hsome)
    exact hanswered

end Ice

end XrtcServer
