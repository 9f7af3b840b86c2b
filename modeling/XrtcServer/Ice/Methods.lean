import XrtcServer.Ice.Agreement
/-!
# What the methods of a connection change

A method changes its own connection, but for the requests of its manager,
and the selection (`Touches`); only `destroy` ends one (`Ends`). So whether
a connection is going to be destroyed by `update_state` or by a response can
be told from its own fields beforehand (`diesAt`, `Fatal`). `Handled` says
which of them an event of the channel comes to.
-/

namespace XrtcServer

namespace Ice

open IceTransportChannel IceConnection

variable {s t u : IceTransportChannel} {i id : ℕ} {now : ℤ}

/-! ## Methods that do not destroy -/

/-- **Connection `i` has changed, but for its requests, and the selection
with it.** -/
structure Touches (i : ℕ) (s t : IceTransportChannel) : Prop extends SameBooks s t where
  others : ∀ j, j ≠ i → unselected (t.heap j) = unselected (s.heap j)
  requests : (t.heap i).requests = (s.heap i).requests
  unused : s.destroyed = [] → t.trace.deadUses = s.trace.deadUses
  keeps : Keeps s t

namespace Touches

theorem refl (i : ℕ) (s : IceTransportChannel) : Touches i s s :=
  ⟨.refl s, fun _ _ => rfl, rfl, fun _ => rfl, .refl s⟩

theorem trans (h : Touches i s t) (k : Touches i t u) : Touches i s u where
  toSameBooks := h.toSameBooks.trans k.toSameBooks
  others := fun j hj => (k.others j hj).trans (h.others j hj)
  requests := k.requests.trans h.requests
  unused := fun hnone => (k.unused (h.destroyed.trans hnone)).trans (h.unused hnone)
  keeps := h.keeps.trans k.keeps

theorem requests_eq (h : Touches i s t) (j : ℕ) : (t.heap j).requests = (s.heap j).requests := by
  by_cases hj : j = i
  · rw [hj, h.requests]
  · have hc := congrArg IceConnection.requests (h.others j hj)
    exact hc

end Touches

theorem use_of_none (h : s.destroyed = []) (id : ℕ) : s.use id = s :=
  use_of_not_mem (by simp [h])

theorem use_touches (i : ℕ) (s : IceTransportChannel) (id : ℕ) : Touches i s (s.use id) where
  toSameBooks := (use_onlySelects s id).toSameBooks
  others := fun j _ => (use_onlySelects s id).heap j
  requests := (use_onlySelects s id).requests i
  unused := fun hnone => by rw [use_of_none hnone]
  keeps := .noted (use_noted s id)

theorem setConn_touches (s : IceTransportChannel) (i : ℕ) (c : IceConnection)
    (h : c.requests = (s.heap i).requests) : Touches i s (s.setConn i c) where
  toSameBooks := ⟨rfl, rfl, rfl, rfl, .refl _, rfl, rfl, List.suffix_rfl⟩
  others := fun j hj => by rw [setConn_heap_of_ne hj]
  requests := by rw [setConn_heap_self, h]
  unused := fun _ => rfl
  keeps := .setConn s i c

theorem Live.of_none (h : s.destroyed = []) : Live s := by
  refine ⟨?_, ?_, ?_⟩ <;>
  · intros
    rw [h]
    exact List.not_mem_nil

theorem onConnectionStateChange_touches (i : ℕ) (s : IceTransportChannel) (now : ℤ) :
    Touches i s (s.onConnectionStateChange now) where
  toSameBooks := (sortConnectionsAndUpdateState_reselected s now).onlySelects.toSameBooks
  others := fun j _ => (sortConnectionsAndUpdateState_reselected s now).onlySelects.heap j
  requests := (sortConnectionsAndUpdateState_reselected s now).onlySelects.requests i
  unused := fun hnone => (sortConnectionsAndUpdateState_unharmed (.of_none hnone) now).deadUses
  keeps := sortConnectionsAndUpdateState_keeps s now

/-- A method notes its use, rewrites the object and may signal. -/
theorem rewrite_touches (s : IceTransportChannel) (i : ℕ) (c : IceConnection)
    (h : c.requests = (s.heap i).requests) : Touches i s ((s.use i).setConn i c) := by
  have huse := use_touches i s i
  exact huse.trans (setConn_touches _ i c (h.trans huse.requests.symm))

theorem setWriteState_touches (s : IceTransportChannel) (id : ℕ) (state : WriteState) (now : ℤ) :
    Touches id s (setWriteState s id state now) := by
  have hset : Touches id s ((s.use id).setConn id { s.heap id with writeState := state }) :=
    rewrite_touches s id _ rfl
  unfold setWriteState
  dsimp only
  split
  · exact hset.trans (onConnectionStateChange_touches id _ now)
  · exact hset

theorem updateReceiving_uses (s : IceTransportChannel) (id : ℕ) (now : ℤ) :
    Touches id (s.use id) (updateReceiving s id now) := by
  unfold updateReceiving
  dsimp only
  split
  · exact .refl id _
  · refine (setConn_touches _ id _ ?_).trans (onConnectionStateChange_touches id _ now)
    rfl

theorem updateReceiving_touches (s : IceTransportChannel) (id : ℕ) (now : ℤ) :
    Touches id s (updateReceiving s id now) :=
  (use_touches id s id).trans (updateReceiving_uses s id now)

theorem degrade_touches (s : IceTransportChannel) (id : ℕ) (now : ℤ) :
    Touches id s (degrade s id now) := by
  have huse := use_touches id s id
  unfold degrade
  dsimp only
  split
  · exact huse.trans (setWriteState_touches _ id _ now)
  · exact huse

theorem receivedPingResponse_touches (movingAverage : ℤ → ℤ → ℤ → ℤ) (s : IceTransportChannel)
    (id : ℕ) (rtt now : ℤ) : Touches id s (receivedPingResponse s id movingAverage rtt now) := by
  unfold receivedPingResponse
  dsimp only
  refine ((rewrite_touches s id _ ?_).trans ((updateReceiving_touches _ id now).trans
    (setWriteState_touches _ id .writable now))).trans (rewrite_touches _ id _ ?_)
  · rfl
  · rfl

/-! ## The end of a connection -/

/-- **Connection `i` has been destroyed**, and its requests with it. -/
structure Ends (i : ℕ) (s t : IceTransportChannel) : Prop where
  made : t.made = s.made
  destroyed : t.destroyed = i :: s.destroyed
  ports : t.ports = s.ports
  closed : t.closed = s.closed
  connections : t.controller.connections.Perm (s.controller.connections.erase i)
  requestsMade : t.trace.requestsMade = s.trace.requestsMade
  released : t.trace.released = s.trace.released ++ (s.heap i).requests.map StunRequest.serial
  deadUses : s.trace.deadUses <:+ t.trace.deadUses
  others : ∀ j, j ≠ i → unselected (t.heap j) = unselected (s.heap j)
  requests : (t.heap i).requests = []
  stray : Stray s → Stray t
  agreed : Agreed s → s.selectedConnection ≠ some i → Agreed t
  strays : Agreed s → s.selectedConnection = some i → Stray t

theorem onConnectionDestroyed_onlySelects (s : IceTransportChannel) (id : ℕ) (now : ℤ) :
    OnlySelects { s with controller := s.controller.onConnectionDestroyed id }
      (s.onConnectionDestroyed id now) := by
  unfold onConnectionDestroyed
  dsimp only
  split
  · exact (switchSelectedConnection_switched _ none).onlySelects.trans
      (sortConnectionsAndUpdateState_reselected _ now).onlySelects
  · exact (updateState_noted _).onlySelects

theorem destroy_heap_self (s : IceTransportChannel) (id : ℕ) (now : ℤ) :
    (destroy s id now).heap id =
      { ((s.use id).onConnectionDestroyed id now).heap id with requests := [] } :=
  setConn_heap_self

theorem destroy_heap_of_ne (h : i ≠ id) :
    (destroy s id now).heap i = ((s.use id).onConnectionDestroyed id now).heap i :=
  setConn_heap_of_ne h

theorem destroy_ends (s : IceTransportChannel) (id : ℕ) (now : ℤ) :
    Ends id s (destroy s id now) := by
  have huse := use_noted s id
  have htold := onConnectionDestroyed_onlySelects (s.use id) id now
  -- deleting the object keeps what the channel has been told
  have hdelete : Keeps ((s.use id).onConnectionDestroyed id now) (destroy s id now) :=
    .of_eq rfl rfl rfl rfl
  have hagreed : Agreed s → Agreed (s.use id) := (Keeps.noted huse).agreed
  refine ⟨?_, ?_, ?_, ?_, ?_, ?_, ?_, ?_, fun j hj => ?_, ?_, fun h => ?_, fun h hne => ?_,
    fun h hsel => ?_⟩
  · exact htold.made.trans huse.onlySelects.made
  · exact congrArg (id :: ·) (htold.destroyed.trans huse.onlySelects.destroyed)
  · exact htold.ports.trans huse.onlySelects.ports
  · exact htold.closed.trans huse.onlySelects.closed
  · have hperm := htold.connections
    rw [huse.controller] at hperm
    exact hperm
  · exact htold.requestsMade.trans huse.onlySelects.requestsMade
  · show ((s.use id).onConnectionDestroyed id now).trace.released ++
      (((s.use id).onConnectionDestroyed id now).heap id).requests.map _ = _
    rw [htold.released, htold.requests id]
    exact congrArg₂ (fun released requests => released ++ requests.map StunRequest.serial)
      huse.onlySelects.released (huse.onlySelects.requests id)
  · exact huse.onlySelects.deadUses.trans htold.deadUses
  · rw [destroy_heap_of_ne hj]
    exact (htold.heap j).trans (huse.onlySelects.heap j)
  · rw [destroy_heap_self]
  · exact hdelete.stray (onConnectionDestroyed_stray ((Keeps.noted huse).stray h) id now)
  · exact hdelete.agreed (onConnectionDestroyed_agreed (hagreed h) (huse.selected ▸ hne) now)
  · exact hdelete.stray
      (onConnectionDestroyed_stray_of_selected (hagreed h) (huse.selected.trans hsel) now)

/-- A method of the connection comes before its end. -/
theorem Ends.of_touches (h : Touches i s t)
    (hselected : t.selectedConnection = s.selectedConnection)
    (k : Ends i t u) : Ends i s u where
  made := k.made.trans h.made
  destroyed := by rw [k.destroyed, h.destroyed]
  ports := k.ports.trans h.ports
  closed := k.closed.trans h.closed
  connections := k.connections.trans (h.connections.erase i)
  requestsMade := k.requestsMade.trans h.requestsMade
  released := by rw [k.released, h.released, h.requests]
  deadUses := h.deadUses.trans k.deadUses
  others := fun j hj => (k.others j hj).trans (h.others j hj)
  requests := k.requests
  stray := fun hs => k.stray (h.keeps.stray hs)
  agreed := fun hs hne => k.agreed (h.keeps.agreed hs) (hselected ▸ hne)
  strays := fun hs hsel => k.strays (h.keeps.agreed hs) (hselected.trans hsel)

theorem failAndDestroy_ends (s : IceTransportChannel) (id : ℕ) (now : ℤ) :
    Ends id s (failAndDestroy s id now) := by
  have hfail : Touches id s ((s.use id).setConn id { s.heap id with state := .failed }) :=
    rewrite_touches s id _ rfl
  exact (destroy_ends _ id now).of_touches hfail (use_noted s id).selected

/-- Whatever uses the connection next uses a destroyed one. -/
theorem Ends.used (h : Ends i s t) : (t.use i).trace.deadUses ≠ [] :=
  use_of_mem (h.destroyed ▸ List.mem_cons_self)

/-! ## `update_state` -/

/-- **`update_state` is going to destroy the connection**: it has not become
writable, or no longer counts as such, and its oldest unanswered ping is
more than fifteen seconds old. -/
def IceConnection.diesAt (c : IceConnection) (now : ℤ) : Bool :=
  (c.becomesUnreliable now || c.writeState = .writeUnreliable || c.writeState = .writeInit) &&
    c.tooLongWithoutResponse CONNECTION_WRITE_TIMEOUT now

/-- The state in which `update_state` destroys the connection. -/
def timedOut (s : IceTransportChannel) (id : ℕ) (now : ℤ) : IceTransportChannel :=
  setWriteState (degrade s id now) id .writeTimeout now

theorem setWriteState_heap (s : IceTransportChannel) (id : ℕ) (state : WriteState) (now : ℤ) :
    unselected ((setWriteState s id state now).heap id) =
      unselected { s.heap id with writeState := state } := by
  unfold setWriteState
  dsimp only
  split
  · refine ((sortConnectionsAndUpdateState_reselected _ now).onlySelects.heap id).trans ?_
    rw [setConn_heap_self]
  · rw [setConn_heap_self]

theorem timesOut_of_unselected {c d : IceConnection} (h : unselected c = unselected d) :
    c.timesOut now = d.timesOut now := by
  have hout := congrArg (fun c => IceConnection.timesOut c now) h
  exact hout

theorem degrade_timesOut (s : IceTransportChannel) (id : ℕ) (now : ℤ) :
    ((degrade s id now).heap id).timesOut now = (s.heap id).diesAt now := by
  have hheap := (use_noted s id).heap
  unfold degrade
  dsimp only
  rw [hheap]
  unfold IceConnection.diesAt
  cases hun : (s.heap id).becomesUnreliable now with
  | true =>
    rw [if_pos rfl, timesOut_of_unselected (setWriteState_heap ..), hheap]
    simp [IceConnection.timesOut, tooLongWithoutResponse]
  | false =>
    rw [if_neg Bool.false_ne_true, hheap, Bool.false_or]
    rfl

theorem updateState_of_lives (h : (s.heap id).diesAt now = false) :
    Touches id s (IceConnection.updateState s id now) := by
  unfold IceConnection.updateState
  dsimp only
  rw [degrade_timesOut, h, if_neg Bool.false_ne_true]
  exact (degrade_touches s id now).trans (updateReceiving_touches _ id now)

theorem updateState_of_dies (h : (s.heap id).diesAt now = true) :
    IceConnection.updateState s id now =
      updateReceiving (failAndDestroy (timedOut s id now) id now) id now := by
  unfold IceConnection.updateState
  dsimp only
  rw [degrade_timesOut, h, if_pos rfl]
  rfl

theorem timedOut_touches (s : IceTransportChannel) (id : ℕ) (now : ℤ) :
    Touches id s (timedOut s id now) :=
  (degrade_touches s id now).trans (setWriteState_touches _ id _ now)

/-- `update_state` uses the connection it has destroyed. -/
theorem updateState_deadUses_of_dies (h : (s.heap id).diesAt now = true) :
    (IceConnection.updateState s id now).trace.deadUses ≠ [] := by
  rw [updateState_of_dies h]
  have hused := (failAndDestroy_ends (timedOut s id now) id now).used
  exact (updateReceiving_uses _ id now).deadUses.ne_nil hused

theorem updateState_others (s : IceTransportChannel) (id : ℕ) (now : ℤ) {j : ℕ} (hj : j ≠ id) :
    unselected ((IceConnection.updateState s id now).heap j) = unselected (s.heap j) := by
  cases h : (s.heap id).diesAt now with
  | false => exact (updateState_of_lives h).others j hj
  | true =>
    rw [updateState_of_dies h]
    exact ((updateReceiving_touches _ id now).others j hj).trans
      (((failAndDestroy_ends _ id now).others j hj).trans ((timedOut_touches s id now).others j hj))

theorem diesAt_of_unselected {c d : IceConnection} (h : unselected c = unselected d) :
    c.diesAt now = d.diesAt now := by
  have hdies := congrArg (fun c => IceConnection.diesAt c now) h
  exact hdies

theorem updateState_deadUses_suffix (s : IceTransportChannel) (id : ℕ) (now : ℤ) :
    s.trace.deadUses <:+ (IceConnection.updateState s id now).trace.deadUses := by
  cases h : (s.heap id).diesAt now with
  | false => exact (updateState_of_lives h).deadUses
  | true =>
    rw [updateState_of_dies h]
    exact ((timedOut_touches s id now).deadUses.trans
      (failAndDestroy_ends _ id now).deadUses).trans (updateReceiving_touches _ id now).deadUses

/-! ## Datagrams -/

/-- **A response that destroys the connection**: it answers a request of the
connection with an error after which it does not go on. -/
def IceConnection.Fatal (c : IceConnection) : Packet → Prop
  | .response msg =>
    (msg.type = STUN_BINDING_RESPONSE ∨ msg.type = STUN_BINDING_ERROR_RESPONSE) ∧
      msg.integrityOk c.remoteCandidate.password = true ∧
      ∃ request, c.findRequest msg.transactionId = some request ∧
        some msg.type ≠ getStunSuccessResponse request.type ∧
        some msg.type = getStunErrorResponse request.type ∧ isRecoverable msg.errorCode = false
  | _ => False

/-- What comes of a datagram: the connection is changed, and where the
datagram is a response to one of its requests, the request is deleted; a
fatal response destroys the connection before. -/
inductive Answered (i : ℕ) (packet : Packet) (s : IceTransportChannel) : IceTransportChannel → Prop
  | touched (v : IceTransportChannel) (hlives : ¬ (s.heap i).Fatal packet) (h : Touches i s v) :
    Answered i packet s v
  | answered (v : IceTransportChannel) (request : StunRequest) (key : String)
    (hlives : ¬ (s.heap i).Fatal packet) (h : Touches i s v)
    (hfind : (s.heap i).findRequest key = some request) :
    Answered i packet s (deleteRequest v i request)
  | ended (v : IceTransportChannel) (request : StunRequest) (hfatal : (s.heap i).Fatal packet)
    (h : Ends i s v) : Answered i packet s (deleteRequest v i request)

theorem checkResponse_answered (movingAverage : ℤ → ℤ → ℤ → ℤ) {msg : StunResponse}
    (htype : msg.type = STUN_BINDING_RESPONSE ∨ msg.type = STUN_BINDING_ERROR_RESPONSE)
    (hok : msg.integrityOk (s.heap id).remoteCandidate.password = true)
    (hu : Noted s u) (htouch : Touches id s u) (now : ℤ) :
    Answered id (.response msg) s (checkResponse u id movingAverage msg now) := by
  have huse := hu.trans (use_noted u id)
  have htouched := htouch.trans (use_touches id u id)
  unfold checkResponse
  dsimp only
  rw [huse.heap]
  cases hfind : (s.heap id).findRequest msg.transactionId with
  | none =>
    refine .touched _ ?_ htouched
    rintro ⟨-, -, request, hsome, -⟩
    rw [hfind] at hsome
    cases hsome
  | some request =>
    -- the answer is fatal where it is an error of this request's
    have hfatal : (s.heap id).Fatal (.response msg) ↔
        some msg.type ≠ getStunSuccessResponse request.type ∧
          some msg.type = getStunErrorResponse request.type ∧ isRecoverable msg.errorCode = false := by
      constructor
      · rintro ⟨-, -, found, hsome, h⟩
        obtain rfl : request = found := Option.some.inj (hfind.symm.trans hsome)
        exact h
      · exact fun h => ⟨htype, hok, request, hfind, h⟩
    dsimp only
    split
    · rename_i hsuccess
      exact .answered _ request _ (fun h => (hfatal.1 h).1 hsuccess)
        (htouched.trans (receivedPingResponse_touches ..)) hfind
    · rename_i hsuccess
      split
      · rename_i herror
        unfold onConnectionRequestErrorResponse
        dsimp only
        split
        · rename_i hrecoverable
          refine .answered _ request _ (fun h => ?_) (htouched.trans (use_touches id _ id)) hfind
          rw [(hfatal.1 h).2.2] at hrecoverable
          cases hrecoverable
        · rename_i hrecoverable
          rw [Bool.not_eq_true] at hrecoverable
          exact .ended _ request (hfatal.2 ⟨hsuccess, herror, hrecoverable⟩)
            ((failAndDestroy_ends _ id now).of_touches (htouched.trans (use_touches id _ id))
              (huse.trans (use_noted _ id)).selected)
      · rename_i herror
        exact .answered _ request _ (fun h => herror (hfatal.1 h).2.1) htouched hfind

theorem onReadPacket_answered (movingAverage : ℤ → ℤ → ℤ → ℤ) (s : IceTransportChannel) (id : ℕ)
    (packet : Packet) (now : ℤ) :
    Answered id packet s (IceConnection.onReadPacket s id movingAverage packet now) := by
  have huse := use_touches id s id
  have hheap := (use_noted s id).heap
  have hrewrite : ∀ c, c.requests = (s.heap id).requests →
      Touches id s ((s.use id).setConn id c) := rewrite_touches s id
  unfold IceConnection.onReadPacket
  dsimp only
  rw [hheap]
  cases packet with
  | notStun => exact .touched _ (fun h => h) (hrewrite _ rfl)
  | refused => exact .touched _ (fun h => h) huse
  | otherStun => exact .touched _ (fun h => h) huse
  | request remoteUfrag priority =>
    dsimp only
    split
    · exact .touched _ (fun h => h) huse
    · exact .touched _ (fun h => h) (hrewrite _ rfl)
  | response msg =>
    dsimp only
    split
    · rename_i htype
      split
      · rename_i hok
        exact checkResponse_answered movingAverage htype hok (use_noted s id) huse now
      · rename_i hbad
        exact .touched _ (fun h => hbad h.2.1) huse
    · rename_i htype
      exact .touched _ (fun h => htype h.1) huse

theorem deleteRequest_keeps (s : IceTransportChannel) (id : ℕ) (request : StunRequest) :
    Keeps s (deleteRequest s id request) :=
  (Keeps.noted (use_noted s id)).trans (.of_eq rfl rfl rfl rfl)

/-! ## Events -/

/-- **What an event does** to a channel that has not ended. -/
inductive Handled (movingAverage : ℤ → ℤ → ℤ → ℤ) (s : IceTransportChannel) :
    ChannelEvent → IceTransportChannel → Prop
  /-- A datagram of a known peer goes to its connection. -/
  | known {portIndex id conn : ℕ} {addr : SocketAddress} {port : UDPPort} (packet : Packet)
      (now : ℤ) : s.ports[portIndex]? = some port → port.getConnection addr = some conn →
      Handled movingAverage s (.datagram portIndex addr packet id now)
        (IceConnection.onReadPacket s conn movingAverage packet now)
  /-- A request of an unknown one makes a connection. -/
  | stranger {portIndex id : ℕ} {addr : SocketAddress} {port : UDPPort} (remoteUfrag : String)
      (priority : Option UInt32) (now : ℤ) : s.ports[portIndex]? = some port →
      port.getConnection addr = none → id ∉ s.made →
      Handled movingAverage s (.datagram portIndex addr (.request remoteUfrag priority) id now)
        (s.onUnknownAddress portIndex port addr remoteUfrag priority id now)
  /-- Whatever else an unknown one sends is dropped. -/
  | dropped {portIndex id : ℕ} {addr : SocketAddress} {port : UDPPort} {packet : Packet} {now : ℤ} :
      s.ports[portIndex]? = some port → port.getConnection addr = none →
      (∀ remoteUfrag priority, packet ≠ .request remoteUfrag priority) →
      Handled movingAverage s (.datagram portIndex addr packet id now) s
  | params (params : IceParameters) (now : ℤ) :
      Handled movingAverage s (.setRemoteIceParams params now) (s.setRemoteIceParams params now)
  /-- The timer is running. -/
  | ticked (requestId : String) (now : ℤ) : s.timer ≠ none →
      Handled movingAverage s (.tick requestId now) (s.onCheckAndPing requestId now)
  | sent : Handled movingAverage s .sendPacket s.sendPacket
  | ended (now : ℤ) : Handled movingAverage s (.destroyChannel now) (s.destroyChannel now)

variable {movingAverage : ℤ → ℤ → ℤ → ℤ} {e : ChannelEvent} {packet : Packet}

/-- Nothing happens to a channel that has ended. -/
theorem open_of_step (h : s.step movingAverage e = some t) : s.closed = false := by
  rw [← Bool.not_eq_true]
  intro hclosed
  unfold IceTransportChannel.step at h
  rw [if_pos hclosed] at h
  cases h

theorem handled_of_step (h : s.step movingAverage e = some t) : Handled movingAverage s e t := by
  have hopen : ¬ s.closed = true := by simp [open_of_step h]
  unfold IceTransportChannel.step at h
  rw [if_neg hopen] at h
  cases e with
  | datagram portIndex addr packet id now =>
    dsimp only at h
    split at h
    · cases h
    · rename_i hnew
      obtain ⟨port, hport, rfl⟩ := Option.map_eq_some_iff.1 h
      unfold IceTransportChannel.onReadPacket
      cases haddr : port.getConnection addr with
      | some conn => exact .known packet now hport haddr
      | none =>
        cases packet with
        | request remoteUfrag priority => exact .stranger remoteUfrag priority now hport haddr hnew
        | _ => exact .dropped hport haddr (fun _ _ heq => by cases heq)
  | setRemoteIceParams params now =>
    obtain rfl := Option.some.inj h
    exact .params params now
  | tick requestId now =>
    dsimp only at h
    split at h
    · cases h
    · rename_i htimer
      obtain rfl := Option.some.inj h
      exact .ticked requestId now htimer
  | sendPacket =>
    obtain rfl := Option.some.inj h
    exact .sent
  | destroyChannel now =>
    obtain rfl := Option.some.inj h
    exact .ended now

theorem step_known {portIndex conn : ℕ} {addr : SocketAddress} {port : UDPPort}
    (hport : s.ports[portIndex]? = some port) (haddr : port.getConnection addr = some conn)
    (h : s.step movingAverage (.datagram portIndex addr packet id now) = some t) :
    t = IceConnection.onReadPacket s conn movingAverage packet now := by
  cases handled_of_step h with
  | known _ _ hport' haddr' =>
    obtain rfl := Option.some.inj (hport.symm.trans hport')
    obtain rfl := Option.some.inj (haddr.symm.trans haddr')
    rfl
  | stranger _ _ _ hport' hnone =>
    obtain rfl := Option.some.inj (hport.symm.trans hport')
    cases haddr.symm.trans hnone
  | dropped hport' hnone =>
    obtain rfl := Option.some.inj (hport.symm.trans hport')
    cases haddr.symm.trans hnone

theorem step_ticked {requestId : String} (h : s.step movingAverage (.tick requestId now) = some t) :
    t = s.onCheckAndPing requestId now := by
  cases handled_of_step h
  rfl

theorem step_ended (h : s.step movingAverage (.destroyChannel now) = some t) :
    t = s.destroyChannel now := by
  cases handled_of_step h
  rfl

end Ice

end XrtcServer
