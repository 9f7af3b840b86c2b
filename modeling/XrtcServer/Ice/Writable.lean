import XrtcServer.Ice.Lifetime
/-!
# How a connection becomes writable

Only the answer to a request makes a connection writable, and only a
connection whose password is known sends requests: `_is_pingable` asks for
the credentials, and the selected connection, which is pinged without being
asked, is pinged where it is writable. So the password is known in every
state in which a connection is writable or waits for an answer
(`IceConnection.Keyed`).
-/

namespace XrtcServer

namespace Ice

open IceTransportChannel IceConnection

variable {s t u : IceTransportChannel} {i id : ℕ} {now : ℤ} {c d : IceConnection}

/-! ## Connections -/

/-- **A connection that is writable or waits for an answer has a password**,
and what it waits for are answers to Binding Requests. -/
structure IceConnection.Keyed (c : IceConnection) : Prop where
  password : c.requests ≠ [] ∨ c.writable = true → c.remoteCandidate.password ≠ ""
  binding : ∀ r ∈ c.requests, r.type = STUN_BINDING_REQUEST

/-- A connection makes no request and learns nothing of its peer. -/
structure Kept (c d : IceConnection) : Prop where
  requests : d.requests ⊆ c.requests
  candidate : d.remoteCandidate = c.remoteCandidate
  port : d.port = c.port

/-- Nor does it become writable, or count a ping. -/
structure Calm (c d : IceConnection) : Prop extends Kept c d where
  writable : d.writable = true → c.writable = true
  pingReceived : d.lastPingReceived = c.lastPingReceived

theorem Kept.refl (c : IceConnection) : Kept c c := ⟨List.Subset.refl _, rfl, rfl⟩

theorem Kept.trans {b : IceConnection} (h : Kept b c) (k : Kept c d) : Kept b d :=
  ⟨fun _ hr => h.requests (k.requests hr), k.candidate.trans h.candidate, k.port.trans h.port⟩

theorem Calm.refl (c : IceConnection) : Calm c c := ⟨.refl c, id, rfl⟩

theorem Calm.trans {b : IceConnection} (h : Calm b c) (k : Calm c d) : Calm b d :=
  ⟨h.toKept.trans k.toKept, fun hw => h.writable (k.writable hw), k.pingReceived.trans h.pingReceived⟩

theorem Kept.of_unselected (h : unselected d = unselected c) : Kept c d := by
  have hrequests := congrArg IceConnection.requests h
  have hcandidate := congrArg IceConnection.remoteCandidate h
  have hport := congrArg IceConnection.port h
  exact ⟨(List.Perm.of_eq hrequests).subset, hcandidate, hport⟩

/-- Selecting is calm. -/
theorem Calm.of_unselected (h : unselected d = unselected c) : Calm c d := by
  have hwritable := congrArg IceConnection.writable h
  have hping := congrArg IceConnection.lastPingReceived h
  exact ⟨.of_unselected h, fun hw => Eq.trans (Eq.symm hwritable) hw, hping⟩

/-- What leads to waiting or to being writable is asked of the state before. -/
theorem Kept.keyed (h : Kept c d) (hc : c.Keyed)
    (hw : d.writable = true → c.requests ≠ [] ∨ c.writable = true) : d.Keyed where
  password := by
    intro hd
    rw [h.candidate]
    refine hc.password ?_
    rcases hd with hd | hd
    · obtain ⟨r, hr⟩ := List.exists_mem_of_ne_nil _ hd
      exact .inl (List.ne_nil_of_mem (h.requests hr))
    · exact hw hd
  binding := fun r hr => hc.binding r (h.requests hr)

theorem Calm.keyed (h : Calm c d) (hc : c.Keyed) : d.Keyed :=
  h.toKept.keyed hc fun hd => .inr (h.writable hd)

/-- An answer brings a password to a connection that has none, so to one
that is not writable and waits for nothing. -/
theorem maybeSetRemoteIceParams_keyed (h : c.Keyed) (params : IceParameters) :
    (c.maybeSetRemoteIceParams params).Keyed := by
  unfold maybeSetRemoteIceParams
  split
  · rename_i hempty
    simp only [Bool.and_eq_true, decide_eq_true_eq] at hempty
    refine ⟨fun hd => ?_, h.binding⟩
    exact absurd hempty.2 (h.password hd)
  · exact h

theorem maybeSetRemoteIceParams_same (c : IceConnection) (params : IceParameters) :
    (c.maybeSetRemoteIceParams params).requests = c.requests ∧
      (c.maybeSetRemoteIceParams params).writable = c.writable := by
  unfold maybeSetRemoteIceParams
  split <;> exact ⟨rfl, rfl⟩

/-! ## Channels -/

/-- No connection becomes writable, makes a request or learns of its peer. -/
def Quiet (s t : IceTransportChannel) : Prop := ∀ id, Calm (s.heap id) (t.heap id)

theorem Quiet.trans (h : Quiet s t) (k : Quiet t u) : Quiet s u := fun id => (h id).trans (k id)

theorem OnlySelects.quiet (h : OnlySelects s t) : Quiet s t := fun id => .of_unselected (h.heap id)

theorem Quiet.setConn (h : Calm (s.heap id) c) : Quiet s (s.setConn id c) := by
  intro j
  by_cases hj : j = id
  · subst hj
    rw [setConn_heap_self]
    exact h
  · rw [setConn_heap_of_ne hj]
    exact .refl _

theorem use_quiet (s : IceTransportChannel) (id : ℕ) : Quiet s (s.use id) :=
  (use_onlySelects s id).quiet

theorem rewrite_quiet (h : Calm (s.heap id) c) : Quiet s ((s.use id).setConn id c) := by
  refine (use_quiet s id).trans (.setConn ?_)
  rw [(use_noted s id).heap]
  exact h

theorem onConnectionStateChange_quiet (s : IceTransportChannel) (now : ℤ) :
    Quiet s (s.onConnectionStateChange now) :=
  (sortConnectionsAndUpdateState_reselected s now).onlySelects.quiet

theorem setWriteState_quiet {state : WriteState} (h : state ≠ .writable) (s : IceTransportChannel)
    (id : ℕ) (now : ℤ) : Quiet s (setWriteState s id state now) := by
  have hset : Quiet s ((s.use id).setConn id { s.heap id with writeState := state }) := by
    refine rewrite_quiet ⟨⟨List.Subset.refl _, rfl, rfl⟩, fun hw => ?_, rfl⟩
    exact absurd (of_decide_eq_true hw) h
  unfold setWriteState
  dsimp only
  split
  · exact hset.trans (onConnectionStateChange_quiet _ now)
  · exact hset

theorem updateReceiving_quiet (s : IceTransportChannel) (id : ℕ) (now : ℤ) :
    Quiet s (updateReceiving s id now) := by
  unfold updateReceiving
  dsimp only
  split
  · exact use_quiet s id
  · refine (use_quiet s id).trans (Quiet.trans (.setConn ?_) (onConnectionStateChange_quiet _ now))
    exact ⟨⟨List.Subset.refl _, rfl, rfl⟩, fun hw => hw, rfl⟩

theorem destroy_quiet (s : IceTransportChannel) (id : ℕ) (now : ℤ) : Quiet s (destroy s id now) := by
  have htold := (use_quiet s id).trans (onConnectionDestroyed_onlySelects (s.use id) id now).quiet
  intro j
  by_cases hj : j = id
  · subst hj
    rw [destroy_heap_self]
    -- the requests go with the connection
    exact (htold j).trans ⟨⟨List.nil_subset _, rfl, rfl⟩, fun hw => hw, rfl⟩
  · rw [destroy_heap_of_ne hj]
    exact htold j

theorem failAndDestroy_quiet (s : IceTransportChannel) (id : ℕ) (now : ℤ) :
    Quiet s (failAndDestroy s id now) := by
  unfold failAndDestroy
  refine (rewrite_quiet ?_).trans (destroy_quiet _ id now)
  exact ⟨⟨List.Subset.refl _, rfl, rfl⟩, fun hw => hw, rfl⟩

theorem updateState_quiet (s : IceTransportChannel) (id : ℕ) (now : ℤ) :
    Quiet s (IceConnection.updateState s id now) := by
  have hdegrade : Quiet s (degrade s id now) := by
    unfold degrade
    dsimp only
    split
    · exact (use_quiet s id).trans (setWriteState_quiet (by decide) _ id now)
    · exact use_quiet s id
  unfold IceConnection.updateState
  dsimp only
  split
  · refine (hdegrade.trans ?_).trans (updateReceiving_quiet _ id now)
    exact (setWriteState_quiet (by decide) _ id now).trans (failAndDestroy_quiet _ id now)
  · exact hdegrade.trans (updateReceiving_quiet _ id now)

theorem deleteRequest_quiet (s : IceTransportChannel) (id : ℕ) (request : StunRequest) :
    Quiet s (deleteRequest s id request) := by
  have hremove : Quiet (s.use id)
      ((s.use id).setConn id (((s.use id).heap id).removeRequest request.id)) :=
    .setConn ⟨⟨fun _ hr => List.mem_of_mem_filter hr, rfl, rfl⟩, fun hw => hw, rfl⟩
  exact (use_quiet s id).trans hremove

theorem foldl_quiet {f : IceTransportChannel → ℕ → IceTransportChannel}
    (hf : ∀ s id, Quiet s (f s id)) (s : IceTransportChannel) (ids : List ℕ) :
    Quiet s (ids.foldl f s) := by
  induction ids generalizing s with
  | nil => exact fun _ => .refl _
  | cons id ids ih => exact (hf s id).trans (ih (f s id))

/-! ## Answers -/

/-- An answer keeps the requests and the peer of its connection. -/
theorem receivedPingResponse_kept (movingAverage : ℤ → ℤ → ℤ → ℤ) (s : IceTransportChannel)
    (id : ℕ) (rtt now : ℤ) (j : ℕ) :
    Kept (s.heap j) ((receivedPingResponse s id movingAverage rtt now).heap j) := by
  have htouches := receivedPingResponse_touches movingAverage s id rtt now
  by_cases hj : j = id
  · subst hj
    unfold receivedPingResponse at htouches ⊢
    dsimp only at htouches ⊢
    refine ⟨(List.Perm.of_eq htouches.requests).subset, ?_, ?_⟩
    · rw [setConn_heap_self]
      refine (Kept.of_unselected (setWriteState_heap ..)).candidate.trans ?_
      refine (updateReceiving_quiet _ j now j).candidate.trans ?_
      rw [setConn_heap_self]
    · rw [setConn_heap_self]
      refine (Kept.of_unselected (setWriteState_heap ..)).port.trans ?_
      refine (updateReceiving_quiet _ j now j).port.trans ?_
      rw [setConn_heap_self]
  · exact .of_unselected (htouches.others j hj)

/-- **The response answers a request of the connection with success**, and
verifies under the password of its peer. -/
structure IceConnection.Verified (c : IceConnection) (msg : StunResponse) (request : StunRequest) :
    Prop where
  mem : request ∈ c.requests
  transaction : request.id = msg.transactionId
  success : some msg.type = getStunSuccessResponse request.type
  integrity : msg.integrityOk c.remoteCandidate.password = true

/-- What comes of a datagram on a connection: only a verified response
makes it writable. -/
structure Answers (s t : IceTransportChannel) (id : ℕ) (packet : Packet) : Prop where
  kept : ∀ j, Kept (s.heap j) (t.heap j)
  writable : ∀ j, (t.heap j).writable = true → (s.heap j).writable = true ∨
    j = id ∧ ∃ msg request, packet = .response msg ∧ (s.heap id).Verified msg request

theorem Quiet.answers (h : Quiet s t) {packet : Packet} : Answers s t id packet :=
  ⟨fun j => (h j).toKept, fun j hw => .inl ((h j).writable hw)⟩

theorem Answers.trans {packet : Packet} (h : Answers s t id packet) (k : Quiet t u) :
    Answers s u id packet :=
  ⟨fun j => (h.kept j).trans (k j).toKept, fun j hw => h.writable j ((k j).writable hw)⟩

theorem Answers.of_heap {packet : Packet} (h : u.heap = s.heap) (k : Answers u t id packet) :
    Answers s t id packet := by
  obtain ⟨hkept, hwritable⟩ := k
  rw [h] at hkept hwritable
  exact ⟨hkept, hwritable⟩

theorem checkResponse_answers (movingAverage : ℤ → ℤ → ℤ → ℤ) {msg : StunResponse}
    (hok : msg.integrityOk (s.heap id).remoteCandidate.password = true) (now : ℤ) :
    Answers s (checkResponse s id movingAverage msg now) id (.response msg) := by
  have huse := use_quiet s id
  unfold checkResponse
  dsimp only
  rw [(use_noted s id).heap]
  cases hfind : (s.heap id).findRequest msg.transactionId with
  | none => exact huse.answers
  | some request =>
    refine Answers.trans ?_ (deleteRequest_quiet _ id request)
    split
    · rename_i hsuccess
      have hmem : request ∈ (s.heap id).requests := List.mem_of_find?_eq_some hfind
      have hid : request.id = msg.transactionId := by simpa using List.find?_some hfind
      have htouches := receivedPingResponse_touches movingAverage (s.use id) id
        (toInt32 (now - request.ts)) now
      refine ⟨fun j => (huse j).toKept.trans (receivedPingResponse_kept ..), fun j hw => ?_⟩
      by_cases hj : j = id
      · exact .inr ⟨hj, msg, request, rfl, hmem, hid, hsuccess, hok⟩
      · have hothers := Calm.of_unselected (htouches.others j hj)
        exact .inl ((huse j).writable (hothers.writable hw))
    · split
      · refine Quiet.answers (huse.trans ?_)
        unfold onConnectionRequestErrorResponse
        dsimp only
        split
        · exact use_quiet _ id
        · exact (use_quiet _ id).trans (failAndDestroy_quiet _ id now)
      · exact huse.answers

theorem onReadPacket_answers (movingAverage : ℤ → ℤ → ℤ → ℤ) (s : IceTransportChannel) (id : ℕ)
    (packet : Packet) (now : ℤ) :
    Answers s (IceConnection.onReadPacket s id movingAverage packet now) id packet := by
  have huse := use_noted s id
  have hquiet := use_quiet s id
  have hrewrite : ∀ c, Calm (s.heap id) c → Answers s ((s.use id).setConn id c) id packet :=
    fun c hc => (rewrite_quiet hc).answers
  unfold IceConnection.onReadPacket
  dsimp only
  rw [huse.heap]
  cases packet with
  | notStun => exact hrewrite _ ⟨⟨List.Subset.refl _, rfl, rfl⟩, fun hw => hw, rfl⟩
  | refused => exact hquiet.answers
  | otherStun => exact hquiet.answers
  | request remoteUfrag priority =>
    dsimp only
    split
    · exact hquiet.answers
    · -- the ping is counted, and nothing else happens
      refine ⟨fun j => ?_, fun j hw => .inl ?_⟩
      · by_cases hj : j = id
        · subst hj
          rw [setConn_heap_self]
          exact ⟨List.Subset.refl _, rfl, rfl⟩
        · rw [setConn_heap_of_ne hj, huse.heap]
          exact .refl _
      · by_cases hj : j = id
        · subst hj
          rw [setConn_heap_self] at hw
          exact hw
        · rw [setConn_heap_of_ne hj, huse.heap] at hw
          exact hw
  | response msg =>
    dsimp only
    split
    · split
      · rename_i hok
        refine .of_heap huse.heap (checkResponse_answers movingAverage ?_ now)
        rw [huse.heap]
        exact hok
      · exact hquiet.answers
    · exact hquiet.answers

/-! ## Steps -/

/-- The event is a response that arrives on the connection. -/
def Arrives (s : IceTransportChannel) (id : ℕ) (msg : StunResponse) : ChannelEvent → Prop
  | .datagram portIndex addr (.response m) _ _ =>
    m = msg ∧ ∃ port, s.ports[portIndex]? = some port ∧ port.getConnection addr = some id
  | _ => False

/-- The event is the tick in which the connection sends the request. -/
def Sends (s : IceTransportChannel) (id : ℕ) (request : StunRequest) (e : ChannelEvent) : Prop :=
  e = .tick request.id request.ts ∧ pinged s request.ts = some id

/-- **What a step does to the connections**: their passwords are known where
they have to be, they wait for what they have sent, and a verified response
makes them writable. -/
structure Guarded (s : IceTransportChannel) (e : ChannelEvent) (t : IceTransportChannel) : Prop where
  keyed : ∀ id, (t.heap id).Keyed
  requests : ∀ id, ∀ r ∈ (t.heap id).requests, r ∈ (s.heap id).requests ∨ Sends s id r e
  writable : ∀ id, (t.heap id).writable = true → (s.heap id).writable = true ∨
    ∃ msg request, Arrives s id msg e ∧ (s.heap id).Verified msg request

variable {e : ChannelEvent} {movingAverage : ℤ → ℤ → ℤ → ℤ}

theorem Quiet.guarded (h : Quiet s t) (hs : ∀ id, (s.heap id).Keyed) (e : ChannelEvent) :
    Guarded s e t where
  keyed := fun id => (h id).keyed (hs id)
  requests := fun id _ hr => .inl ((h id).requests hr)
  writable := fun id hw => .inl ((h id).writable hw)

/-- What is quiet afterwards changes nothing. -/
theorem Guarded.trans (h : Guarded s e t) (k : Quiet t u) : Guarded s e u where
  keyed := fun id => (k id).keyed (h.keyed id)
  requests := fun id r hr => h.requests id r ((k id).requests hr)
  writable := fun id hw => h.writable id ((k id).writable hw)

theorem Guarded.of_heap (h : Guarded s e t) (heq : u.heap = t.heap) : Guarded s e u :=
  h.trans fun id => by rw [heq]; exact .refl _

/-- One connection is rewritten. -/
theorem Guarded.setConn (h : Guarded s e t) (hkeyed : c.Keyed)
    (hrequests : ∀ r ∈ c.requests, r ∈ (t.heap id).requests ∨ Sends s id r e)
    (hwritable : c.writable = true → (t.heap id).writable = true) :
    Guarded s e (t.setConn id c) := by
  refine ⟨fun j => ?_, fun j r hr => ?_, fun j hw => ?_⟩
  · by_cases hj : j = id
    · rw [hj, setConn_heap_self]
      exact hkeyed
    · rw [setConn_heap_of_ne hj]
      exact h.keyed j
  · by_cases hj : j = id
    · subst hj
      rw [setConn_heap_self] at hr
      rcases hrequests r hr with hold | hsends
      · exact h.requests j r hold
      · exact .inr hsends
    · rw [setConn_heap_of_ne hj] at hr
      exact h.requests j r hr
  · by_cases hj : j = id
    · subst hj
      rw [setConn_heap_self] at hw
      exact h.writable j (hwritable hw)
    · rw [setConn_heap_of_ne hj] at hw
      exact h.writable j hw

theorem onReadPacket_guarded (hs : ∀ id, (s.heap id).Keyed) {portIndex : ℕ} {port : UDPPort}
    {addr : SocketAddress} (hport : s.ports[portIndex]? = some port)
    (haddr : port.getConnection addr = some id) (packet : Packet) (i : ℕ) (now : ℤ) :
    Guarded s (.datagram portIndex addr packet i now)
      (IceConnection.onReadPacket s id movingAverage packet now) := by
  have hanswers := onReadPacket_answers movingAverage s id packet now
  refine ⟨fun j => (hanswers.kept j).keyed (hs j) fun hw => ?_,
    fun j r hr => .inl ((hanswers.kept j).requests hr), fun j hw => ?_⟩
  · rcases hanswers.writable j hw with hold | ⟨rfl, msg, request, -, hverified⟩
    · exact .inr hold
    · exact .inl (List.ne_nil_of_mem hverified.mem)
  · rcases hanswers.writable j hw with hold | ⟨rfl, msg, request, rfl, hverified⟩
    · exact .inl hold
    · exact .inr ⟨msg, request, ⟨rfl, port, hport, haddr⟩, hverified⟩

/-- A new connection is not writable and has sent nothing. -/
theorem onUnknownAddress_guarded (hs : ∀ id, (s.heap id).Keyed) {port : UDPPort}
    {addr : SocketAddress} (haddr : port.getConnection addr = none) (portIndex : ℕ)
    (remoteUfrag : String) (priority : Option UInt32) (id : ℕ) (now : ℤ) (e : ChannelEvent) :
    Guarded s e (s.onUnknownAddress portIndex port addr remoteUfrag priority id now) := by
  unfold onUnknownAddress
  cases priority with
  | none => exact Quiet.guarded (fun _ => .refl _) hs e
  | some priority =>
    refine Guarded.trans ?_ (onConnectionStateChange_quiet _ now)
    rw [createConnection_of_none haddr]
    let remote : Candidate :=
      { priority := priority, address := addr, username := remoteUfrag,
        password := s.remoteIceParams.icePwd }
    let c : IceConnection :=
      { port := portIndex, localPriority := port.localPriority, remoteCandidate := remote }
    have hnew : Guarded s e (s.setConn id c) := by
      refine (Quiet.guarded (fun _ => .refl _) hs e).setConn ?_ ?_ ?_
      · exact ⟨fun h => by simp [c, IceConnection.writable] at h, fun r hr => by cases hr⟩
      · intro r hr
        cases hr
      · intro hw
        cases hw
    exact hnew.of_heap rfl

theorem setRemoteIceParams_guarded (hs : ∀ id, (s.heap id).Keyed) (params : IceParameters)
    (now : ℤ) (e : ChannelEvent) : Guarded s e (s.setRemoteIceParams params now) := by
  have hfold : ∀ (ids : List ℕ) (v : IceTransportChannel), Guarded s e v → Guarded s e
      (ids.foldl (fun ch id =>
        (ch.use id).setConn id ((ch.heap id).maybeSetRemoteIceParams params)) v) := by
    intro ids
    induction ids with
    | nil => exact fun _ hv => hv
    | cons id ids ih =>
      intro v hv
      have huse := hv.trans (use_quiet v id)
      have hsame := maybeSetRemoteIceParams_same (v.heap id) params
      refine ih _ (huse.setConn (maybeSetRemoteIceParams_keyed (hv.keyed id) params) ?_ ?_)
      · rw [hsame.1, (use_noted v id).heap]
        exact fun r hr => .inl hr
      · rw [hsame.2, (use_noted v id).heap]
        exact fun hw => hw
  have hsame : Guarded s e s := Quiet.guarded (fun _ => .refl _) hs e
  have hstart : Guarded s e { s with remoteIceParams := params } := hsame.of_heap rfl
  unfold setRemoteIceParams
  exact (hfold _ _ hstart).trans (onConnectionStateChange_quiet _ now)

/-- **A ping** is sent where the password is known, because the credentials
are, or because the connection is writable. -/
theorem onCheckAndPing_guarded (hs : ∀ id, (s.heap id).Keyed) (requestId : String) (now : ℤ) :
    Guarded s (.tick requestId now) (s.onCheckAndPing requestId now) := by
  let u := s.updateConnectionStates now
  have hupdate : Quiet s u := foldl_quiet (fun s id => updateState_quiet s id now) s _
  have hheap := (selectConnectionToPing_books u now).2
  let v := (u.selectConnectionToPing now).1
  have hselect : Guarded s (.tick requestId now) v := by
    refine (hupdate.guarded hs _).trans fun id => ?_
    rw [hheap]
    exact .refl _
  have hping : Guarded s (.tick requestId now) (v.pingChosen (pinged s now) requestId now) := by
    cases hconn : pinged s now with
    | none => exact hselect
    | some id =>
      have hpassword : (v.heap id).remoteCandidate.password ≠ "" := by
        have hread := useAll_noted u
          (u.controller.connections ++ u.controller.selectedConnection.toList)
        have hchosen := IceController.selectConnectionToPing_credentials hconn
        rw [hread.heap] at hchosen
        show ((u.selectConnectionToPing now).1.heap id).remoteCandidate.password ≠ ""
        rw [hheap]
        rcases hchosen with hcredentials | hwritable
        · intro hempty
          simp [IceConnection.hasCredentials, hempty] at hcredentials
        · exact ((hupdate id).keyed (hs id)).password (.inr hwritable)
      let w := { v with lastPingSentMs := now }.use id
      have hnoted := use_noted { v with lastPingSentMs := now } id
      have hheap' : w.heap = v.heap := hnoted.heap
      have huse : Guarded s (.tick requestId now) w := hselect.of_heap hheap'
      let request : StunRequest := { serial := w.trace.requestsMade, id := requestId, ts := now }
      have hsent : Guarded s (.tick requestId now) (w.setConn id ((w.heap id).ping request now)) := by
        refine huse.setConn ⟨fun _ => ?_, fun r hr => ?_⟩ (fun r hr => ?_) fun hw => hw
        · show (w.heap id).remoteCandidate.password ≠ ""
          rw [hheap']
          exact hpassword
        · rcases List.mem_append.1 hr with hold | hnew
          · exact (huse.keyed id).binding r (List.mem_of_mem_filter hold)
          · rw [List.mem_singleton.1 hnew]
        · rcases List.mem_append.1 hr with hold | hnew
          · exact .inl (List.mem_of_mem_filter hold)
          · rw [List.mem_singleton.1 hnew]
            exact .inr ⟨rfl, hconn⟩
      exact hsent.of_heap rfl
  unfold onCheckAndPing changePingInterval
  dsimp only
  split
  · exact hping.of_heap rfl
  · exact hping

/-- **Every step of a channel is guarded.** -/
theorem step_guarded (hs : ∀ id, (s.heap id).Keyed) (hstep : s.step movingAverage e = some t) :
    Guarded s e t := by
  have hsame : Guarded s e s := Quiet.guarded (fun _ => .refl _) hs e
  cases handled_of_step hstep with
  | known packet now hport haddr => exact onReadPacket_guarded hs hport haddr packet _ now
  | stranger remoteUfrag priority now hport haddr hnew =>
    exact onUnknownAddress_guarded hs haddr _ remoteUfrag priority _ now _
  | dropped => exact hsame
  | params params now => exact setRemoteIceParams_guarded hs params now _
  | ticked requestId now htimer => exact onCheckAndPing_guarded hs requestId now
  | sent => exact hsame.of_heap (useAll_noted s _).heap
  | ended now =>
    have hstop : Guarded s (.destroyChannel now) { s with timer := none } := hsame.of_heap rfl
    exact (hstop.trans (foldl_quiet (fun s id => destroy_quiet s id now) _ _)).of_heap rfl

/-! ## Runs -/

variable {localPriorities : List UInt32} {es : List ChannelEvent} {request : StunRequest}

theorem keyed_init (localPriorities : List UInt32) (id : ℕ) :
    ((IceTransportChannel.init localPriorities).heap id).Keyed where
  password := by simp [IceTransportChannel.init, IceConnection.writable]
  binding := by simp [IceTransportChannel.init]

theorem keyed_run (h : Common.run (IceTransportChannel.step movingAverage) (.init localPriorities)
    es = some s) : ∀ id, (s.heap id).Keyed :=
  Common.inv_of_run (I := fun s => ∀ id, (s.heap id).Keyed)
    (fun _ _ _ hs hstep => (step_guarded hs hstep).keyed) (keyed_init localPriorities) h

/-- **The connection has sent the request in a tick of the run, and has
waited for the answer ever since.** -/
def Pending (movingAverage : ℤ → ℤ → ℤ → ℤ) (localPriorities : List UInt32)
    (es : List ChannelEvent) (id : ℕ) (request : StunRequest) : Prop :=
  ∃ fs gs s, es = fs ++ .tick request.id request.ts :: gs ∧
    Common.run (IceTransportChannel.step movingAverage) (.init localPriorities) fs = some s ∧
    pinged s request.ts = some id ∧
    ∀ hs t, hs <+: gs → Common.run (IceTransportChannel.step movingAverage) (.init localPriorities)
      (fs ++ .tick request.id request.ts :: hs) = some t → request ∈ (t.heap id).requests

/-- What a connection waits for, it has sent. -/
theorem pending_run (h : Common.run (IceTransportChannel.step movingAverage)
    (.init localPriorities) es = some s) (hr : request ∈ (s.heap id).requests) :
    Pending movingAverage localPriorities es id request := by
  obtain ⟨fs, e, gs, u, hes, hu, ⟨rfl, hpinged⟩, hsince⟩ := Common.exists_since
    (I := fun s => ∀ id, (s.heap id).Keyed) (P := fun s => request ∈ (s.heap id).requests)
    (Q := fun s e => Sends s id request e)
    (fun _ _ _ hs hstep => (step_guarded hs hstep).keyed)
    (fun _ _ _ hs hstep hr => (step_guarded hs hstep).requests id request hr)
    (keyed_init localPriorities) List.not_mem_nil h hr
  exact ⟨fs, gs, u, hes, hu, hpinged, hsince⟩

/-- **A connection becomes writable only while a success response is
processed** that answers a request it has sent and waits for, and that
verifies under the password of its peer, which is not empty. -/
theorem becomes_writable
    (hrun : Common.run (IceTransportChannel.step movingAverage) (.init localPriorities) es = some s)
    (hstep : s.step movingAverage e = some t) (hbefore : (s.heap id).writable = false)
    (hafter : (t.heap id).writable = true) :
    ∃ msg request, Arrives s id msg e ∧ msg.type = STUN_BINDING_RESPONSE ∧
      Pending movingAverage localPriorities es id request ∧ request.id = msg.transactionId ∧
      msg.integrityOk (s.heap id).remoteCandidate.password = true ∧
      (s.heap id).remoteCandidate.password ≠ "" := by
  have hkeyed := keyed_run hrun
  rcases (step_guarded hkeyed hstep).writable id hafter with hold | ⟨msg, request, harrives, hverified⟩
  · rw [hbefore] at hold
    cases hold
  · have htype : some msg.type = some STUN_BINDING_RESPONSE := by
      rw [hverified.success, (hkeyed id).binding request hverified.mem]
      decide
    exact ⟨msg, request, harrives, Option.some.inj htype, pending_run hrun hverified.mem,
      hverified.transaction, hverified.integrity,
      (hkeyed id).password (.inl (List.ne_nil_of_mem hverified.mem))⟩

/-- The answer to the ping of a peer that has been pinged once. -/
def firstAnswer : ChannelEvent :=
  .datagram 0 ⟨0x0A000001, 5000⟩
    (.response ⟨STUN_BINDING_RESPONSE, "first", 0, fun key => key = "secret"⟩) 1 1150

theorem becomes_writable_first : ∃ s,
    Common.run (IceTransportChannel.step getNextMovingAverage) (.init [1]) unansweredRun = some s ∧
    ∃ msg request, Arrives s 0 msg firstAnswer ∧ msg.type = STUN_BINDING_RESPONSE ∧
      Pending getNextMovingAverage [1] unansweredRun 0 request ∧ request.id = msg.transactionId ∧
      msg.integrityOk (s.heap 0).remoteCandidate.password = true ∧
      (s.heap 0).remoteCandidate.password ≠ "" := by
  have hwritable : ((Common.run (IceTransportChannel.step getNextMovingAverage) (.init [1])
      unansweredRun).bind fun s => (s.step getNextMovingAverage firstAnswer).map fun t =>
        ((s.heap 0).writable, (t.heap 0).writable)) = some (false, true) := by
    decide +kernel
  obtain ⟨s, hs, hwritable⟩ := Option.bind_eq_some_iff.1 hwritable
  obtain ⟨t, ht, hboth⟩ := Option.map_eq_some_iff.1 hwritable
  obtain ⟨hbefore, hafter⟩ := Prod.mk.inj hboth
  exact ⟨s, hs, becomes_writable hs ht hbefore hafter⟩

end Ice

end XrtcServer
