import Mathlib.Data.List.Count
import XrtcServer.Ice.Credentials
import XrtcServer.Ice.Writable
/-!
# The connections in the map of a port

A port finds the connection of a peer in its own map, the channel has the
registered connections in its controller, and nothing takes a destroyed
connection out of the map. So map and registration agree in every state of a
run exactly as long as no connection is destroyed before the channel ends
(`mapped_iff`); after that a Binding Request from the same address goes to a
connection that is gone.
-/

namespace XrtcServer

namespace Ice

open IceTransportChannel IceConnection

variable {s t u : IceTransportChannel} {i id portIndex : ℕ} {ids : List ℕ} {now : ℤ}
variable {addr : SocketAddress}

/-- The connection that a port has for an address. -/
def connectionAt (s : IceTransportChannel) (portIndex : ℕ) (addr : SocketAddress) : Option ℕ :=
  s.ports[portIndex]?.bind (·.getConnection addr)

/-- **Map and registration agree**: what the map has is alive and registered,
a registered connection is found under the address of its peer, and a
Binding Request from the address of a dead one makes a new connection, where
none has been made yet. -/
structure Mapped (s : IceTransportChannel) : Prop where
  alive : ∀ portIndex addr id, connectionAt s portIndex addr = some id →
    id ∉ s.destroyed ∧ id ∈ s.controller.connections
  found : ∀ id ∈ s.controller.connections,
    connectionAt s (s.heap id).port (s.heap id).remoteCandidate.address = some id
  fresh : ∀ dead ∈ s.destroyed, ∀ movingAverage remoteUfrag priority id now t,
    s.step movingAverage (.datagram (s.heap dead).port (s.heap dead).remoteCandidate.address
      (.request remoteUfrag (some priority)) id now) = some t →
    (∃ living, living ∉ s.destroyed ∧
      connectionAt s (s.heap dead).port (s.heap dead).remoteCandidate.address = some living) ∨
    id ∈ t.controller.connections

/-- A connection that is gone is in a map. -/
def Stale (s : IceTransportChannel) : Prop :=
  ∃ portIndex addr id, connectionAt s portIndex addr = some id ∧ id ∈ s.destroyed

theorem Stale.not_mapped (h : Stale s) : ¬ Mapped s := by
  obtain ⟨portIndex, addr, id, hfound, hdestroyed⟩ := h
  exact fun hmapped => (hmapped.alive portIndex addr id hfound).1 hdestroyed

/-- A channel that has destroyed no connection yet. -/
structure Whole (s : IceTransportChannel) : Prop where
  agreed : Agreed s
  opened : s.closed = false
  destroyed : s.destroyed = []
  registered : ∀ portIndex addr id, connectionAt s portIndex addr = some id →
    id ∈ s.controller.connections
  found : ∀ id ∈ s.controller.connections,
    connectionAt s (s.heap id).port (s.heap id).remoteCandidate.address = some id

theorem Whole.mapped (h : Whole s) : Mapped s where
  alive := fun portIndex addr id hid =>
    ⟨h.destroyed ▸ List.not_mem_nil, h.registered portIndex addr id hid⟩
  found := h.found
  fresh := fun _ hdead => absurd (h.destroyed ▸ hdead) List.not_mem_nil

/-! ## Nothing destroyed -/

/-- The connections are where they were. -/
def SamePlaces (s t : IceTransportChannel) : Prop :=
  ∀ j, (t.heap j).port = (s.heap j).port ∧
    (t.heap j).remoteCandidate.address = (s.heap j).remoteCandidate.address

theorem SamePlaces.of_kept (h : ∀ j, Kept (s.heap j) (t.heap j)) : SamePlaces s t :=
  fun j => ⟨(h j).port, congrArg Candidate.address (h j).candidate⟩

theorem connectionAt_congr (h : t.ports = s.ports) : connectionAt t = connectionAt s := by
  unfold connectionAt
  rw [h]

theorem Whole.frame (h : Whole s) (hclosed : t.closed = s.closed) (hdestroyed : t.destroyed = s.destroyed)
    (hports : t.ports = s.ports)
    (hmem : ∀ id, id ∈ t.controller.connections ↔ id ∈ s.controller.connections)
    (hplaces : SamePlaces s t) (hagreed : Agreed t) : Whole t where
  agreed := hagreed
  opened := hclosed.trans h.opened
  destroyed := hdestroyed.trans h.destroyed
  registered := by
    rw [connectionAt_congr hports]
    exact fun portIndex addr id hid => (hmem id).2 (h.registered portIndex addr id hid)
  found := by
    intro id hid
    rw [connectionAt_congr hports, (hplaces id).1, (hplaces id).2]
    exact h.found id ((hmem id).1 hid)

theorem Whole.books (h : Whole s) (ht : SameBooks s t) (hplaces : SamePlaces s t)
    (hagreed : Agreed t) : Whole t :=
  h.frame ht.closed ht.destroyed ht.ports (fun _ => ht.mem) hplaces hagreed

theorem Whole.onlySelects (h : Whole s) (ht : OnlySelects s t) (hkeeps : Keeps s t) : Whole t :=
  h.books ht.toSameBooks (.of_kept fun j => .of_unselected (ht.heap j)) (hkeeps.agreed h.agreed)

variable {movingAverage : ℤ → ℤ → ℤ → ℤ}

/-- What comes of a datagram that is not fatal. -/
theorem Whole.answered {packet : Packet} (h : Whole s) (ht : Answered id packet s t)
    (hkept : ∀ j, Kept (s.heap j) (t.heap j)) (hlives : ¬ (s.heap id).Fatal packet) : Whole t := by
  have hplaces : SamePlaces s t := .of_kept hkept
  cases ht with
  | touched _ _ htouches => exact h.books htouches.toSameBooks hplaces (htouches.keeps.agreed h.agreed)
  | answered v request _ _ htouches =>
    have huse := (use_onlySelects v id).toSameBooks
    have hbooks := htouches.toSameBooks.trans huse
    exact h.frame hbooks.closed hbooks.destroyed hbooks.ports (fun _ => hbooks.mem) hplaces
      ((deleteRequest_keeps v id request).agreed (htouches.keeps.agreed h.agreed))
  | ended _ _ hfatal => exact absurd hfatal hlives

/-- A new connection is found under the address it comes from, and the
others where they were. -/
theorem newConnection_whole (h : Whole s) {port : UDPPort} {remote : Candidate}
    (hport : s.ports[portIndex]? = some port) (haddr : port.getConnection remote.address = none)
    (hnew : id ∉ s.made) (now : ℤ) :
    Whole ((s.createConnection portIndex port remote id now).addConnection id) := by
  have hagreed := newConnection_agreed h.agreed haddr hnew portIndex now
  have hout : ∀ j ∈ s.controller.connections, j ≠ id := by
    rintro j hj rfl
    exact hnew (h.agreed.made j hj)
  rw [createConnection_of_none haddr] at hagreed ⊢
  let c : IceConnection :=
    { port := portIndex, localPriority := port.localPriority, remoteCandidate := remote }
  have hself : (s.setConn id c).heap id = c := setConn_heap_self
  have hbound := (List.getElem?_eq_some_iff.1 hport).1
  -- what a port has for an address after the insertion
  let taken : UDPPort := { port with
    connections := (remote.address, id) :: port.connections.filter (·.1 ≠ remote.address) }
  have hat : ∀ p a, ((s.ports.set portIndex taken)[p]?).bind (·.getConnection a) =
      if p = portIndex ∧ a = remote.address then some id else connectionAt s p a := by
    intro p a
    by_cases hp : p = portIndex
    · subst hp
      rw [List.getElem?_set_self hbound, Option.bind_some]
      by_cases ha : a = remote.address
      · subst ha
        rw [if_pos ⟨rfl, rfl⟩]
        unfold UDPPort.getConnection
        exact List.lookup_cons_self
      · rw [if_neg fun h => ha h.2]
        unfold connectionAt
        rw [hport, Option.bind_some]
        exact getConnection_insert_ne id ha
    · rw [List.getElem?_set_ne (Ne.symm hp), if_neg fun h => hp h.1]
      rfl
  refine ⟨hagreed, h.opened, h.destroyed, fun p a j hj => ?_, fun j hj => ?_⟩
  · have hj' := (hat p a).symm.trans hj
    split at hj'
    · obtain rfl := Option.some.inj hj'
      exact List.mem_append_right _ (List.mem_singleton_self _)
    · exact List.mem_append_left _ (h.registered p a j hj')
  · show ((s.ports.set portIndex taken)[((s.setConn id c).heap j).port]?).bind
      (·.getConnection ((s.setConn id c).heap j).remoteCandidate.address) = some j
    rw [hat]
    rcases List.mem_append.1 hj with hold | hlast
    · rw [setConn_heap_of_ne (hout j hold)]
      have hfound := h.found j hold
      rw [if_neg]
      · exact hfound
      · rintro ⟨hp, ha⟩
        rw [hp, ha] at hfound
        unfold connectionAt at hfound
        rw [hport, Option.bind_some, haddr] at hfound
        cases hfound
    · rw [List.mem_singleton.1 hlast, hself, if_pos ⟨rfl, rfl⟩]

theorem onUnknownAddress_whole (h : Whole s) {port : UDPPort}
    (hport : s.ports[portIndex]? = some port) (haddr : port.getConnection addr = none)
    (hnew : id ∉ s.made) (remoteUfrag : String) (priority : Option UInt32) (now : ℤ) :
    Whole (s.onUnknownAddress portIndex port addr remoteUfrag priority id now) := by
  unfold onUnknownAddress
  cases priority with
  | none => exact h
  | some priority =>
    exact (newConnection_whole h hport haddr hnew now).onlySelects
      (sortConnectionsAndUpdateState_reselected _ now).onlySelects
      (sortConnectionsAndUpdateState_keeps _ now)

theorem foldl_whole {f : IceTransportChannel → ℕ → IceTransportChannel}
    (hf : ∀ s id, Whole s → Whole (f s id)) (h : Whole s) (ids : List ℕ) : Whole (ids.foldl f s) := by
  induction ids generalizing s with
  | nil => exact h
  | cons id ids ih => exact ih (hf s id h)

theorem setRemoteIceParams_whole (h : Whole s) (params : IceParameters) (now : ℤ) :
    Whole (s.setRemoteIceParams params now) := by
  have hsame : ∀ c : IceConnection, (c.maybeSetRemoteIceParams params).requests = c.requests ∧
      (c.maybeSetRemoteIceParams params).port = c.port ∧
      (c.maybeSetRemoteIceParams params).remoteCandidate.address = c.remoteCandidate.address := by
    intro c
    unfold maybeSetRemoteIceParams
    split <;> exact ⟨rfl, rfl, rfl⟩
  have hone : ∀ s id, Whole s →
      Whole ((use s id).setConn id ((s.heap id).maybeSetRemoteIceParams params)) := by
    intro s id h
    obtain ⟨hrequests, hport, haddress⟩ := hsame (s.heap id)
    have htouches := rewrite_touches s id _ hrequests
    refine h.books htouches.toSameBooks (fun j => ?_) (htouches.keeps.agreed h.agreed)
    by_cases hj : j = id
    · rw [hj, setConn_heap_self]
      exact ⟨hport, haddress⟩
    · rw [setConn_heap_of_ne hj, (use_noted s id).heap]
      exact ⟨rfl, rfl⟩
  have hkeeps : Keeps s { s with remoteIceParams := params } := .of_eq rfl rfl rfl rfl
  have hset : Whole { s with remoteIceParams := params } :=
    h.frame rfl rfl rfl (fun _ => Iff.rfl) (fun _ => ⟨rfl, rfl⟩) (hkeeps.agreed h.agreed)
  unfold setRemoteIceParams
  exact (foldl_whole hone hset _).onlySelects
    (sortConnectionsAndUpdateState_reselected _ now).onlySelects
    (sortConnectionsAndUpdateState_keeps _ now)

/-! ## The timer -/

/-- Where no connection dies, all are updated. -/
theorem foldl_updateState_whole (h : Whole s) (hnodup : ids.Nodup)
    (hlive : ∀ id ∈ ids, (s.heap id).diesAt now = false) :
    Whole (ids.foldl (fun ch id => IceConnection.updateState ch id now) s) := by
  induction ids generalizing s with
  | nil => exact h
  | cons id ids ih =>
    obtain ⟨hout, hnodup⟩ := List.nodup_cons.1 hnodup
    have htouches := updateState_of_lives (hlive id List.mem_cons_self)
    have hplaces : SamePlaces s (IceConnection.updateState s id now) :=
      .of_kept fun j => (updateState_quiet s id now j).toKept
    refine ih (h.books htouches.toSameBooks hplaces (htouches.keeps.agreed h.agreed)) hnodup
      fun j hj => ?_
    have hne : j ≠ id := by
      rintro rfl
      exact hout hj
    rw [diesAt_of_unselected (updateState_others s id now hne)]
    exact hlive j (List.mem_cons_of_mem id hj)

/-- What comes of a ping: no connection comes or goes. -/
theorem pingChosen_frame (s : IceTransportChannel) (conn : Option ℕ) (requestId : String) (now : ℤ) :
    let t := s.pingChosen conn requestId now
    t.closed = s.closed ∧ t.destroyed = s.destroyed ∧ t.ports = s.ports ∧
      t.controller.connections = s.controller.connections ∧ SamePlaces s t := by
  cases conn with
  | none => exact ⟨rfl, rfl, rfl, rfl, fun _ => ⟨rfl, rfl⟩⟩
  | some id =>
    have huse := use_noted { s with lastPingSentMs := now } id
    have hbooks := huse.onlySelects.toSameBooks
    refine ⟨hbooks.closed, hbooks.destroyed, hbooks.ports, ?_, fun j => ?_⟩
    · refine (markConnectionPinged_same _ id).1.trans ?_
      exact congrArg IceController.connections huse.controller
    · show ((s.pingConnection id requestId now).heap j).port = _ ∧
        ((s.pingConnection id requestId now).heap j).remoteCandidate.address = _
      unfold pingConnection
      dsimp only
      by_cases hj : j = id
      · subst hj
        rw [setConn_heap_self, huse.heap]
        exact ⟨rfl, rfl⟩
      · rw [setConn_heap_of_ne hj, huse.heap]
        exact ⟨rfl, rfl⟩

/-- After its updates a tick only pings. -/
theorem onCheckAndPing_frame (s : IceTransportChannel) (requestId : String) (now : ℤ) :
    let u := s.updateConnectionStates now
    let t := s.onCheckAndPing requestId now
    t.closed = u.closed ∧ t.destroyed = u.destroyed ∧ t.ports = u.ports ∧
      (∀ id, id ∈ t.controller.connections ↔ id ∈ u.controller.connections) ∧ SamePlaces u t := by
  let u := s.updateConnectionStates now
  let v := (u.selectConnectionToPing now).1
  let result := (u.selectConnectionToPing now).2
  have htick : s.onCheckAndPing requestId now =
      (v.pingChosen result.conn requestId now).changePingInterval result.pingInterval := rfl
  obtain ⟨hbooks, hheap⟩ := selectConnectionToPing_books u now
  obtain ⟨hclosed, hdestroyed, hports, hconnections, hplaces⟩ :=
    pingChosen_frame v result.conn requestId now
  have hrest : ∀ (w : IceTransportChannel) interval,
      (w.changePingInterval interval).closed = w.closed ∧
      (w.changePingInterval interval).destroyed = w.destroyed ∧
      (w.changePingInterval interval).ports = w.ports ∧
      (w.changePingInterval interval).controller = w.controller ∧
      (w.changePingInterval interval).heap = w.heap := by
    intro w interval
    unfold changePingInterval
    split <;> exact ⟨rfl, rfl, rfl, rfl, rfl⟩
  obtain ⟨h1, h2, h3, h4, h5⟩ := hrest (v.pingChosen result.conn requestId now) result.pingInterval
  dsimp only
  rw [htick]
  refine ⟨h1.trans (hclosed.trans hbooks.closed), h2.trans (hdestroyed.trans hbooks.destroyed),
    h3.trans (hports.trans hbooks.ports), fun id => ?_, fun j => ?_⟩
  · rw [h4, hconnections]
    exact hbooks.mem
  · rw [h5, (hplaces j).1, (hplaces j).2]
    show (v.heap j).port = _ ∧ (v.heap j).remoteCandidate.address = _
    rw [hheap]
    exact ⟨rfl, rfl⟩

theorem onCheckAndPing_whole (h : Whole s) (requestId : String)
    (hlive : ∀ id ∈ s.controller.connections, (s.heap id).diesAt now = false) :
    Whole (s.onCheckAndPing requestId now) := by
  have hupdated : Whole (s.updateConnectionStates now) :=
    foldl_updateState_whole h h.agreed.registry.connections hlive
  obtain ⟨hclosed, hdestroyed, hports, hmem, hplaces⟩ := onCheckAndPing_frame s requestId now
  exact hupdated.frame hclosed hdestroyed hports hmem hplaces
    ((changePingInterval_keeps _ _).agreed (pingChosen_agreed
      ((selectConnectionToPing_keeps _ now).agreed hupdated.agreed)
      (fun id hid => selectConnectionToPing_registered hupdated.agreed hid) requestId now))

/-! ## A connection that is destroyed stays in the map -/

/-- Maps stay as they are, and what is destroyed stays destroyed. -/
structure Buries (s t : IceTransportChannel) : Prop where
  ports : t.ports = s.ports
  destroyed : s.destroyed ⊆ t.destroyed

theorem Buries.trans (h : Buries s t) (k : Buries t u) : Buries s u :=
  ⟨k.ports.trans h.ports, fun _ hid => k.destroyed (h.destroyed hid)⟩

theorem SameBooks.buries (h : SameBooks s t) : Buries s t :=
  ⟨h.ports, (List.Perm.of_eq h.destroyed.symm).subset⟩

theorem Ends.buries (h : Ends i s t) : Buries s t :=
  ⟨h.ports, h.destroyed ▸ List.subset_cons_self i s.destroyed⟩

theorem updateState_buries (s : IceTransportChannel) (id : ℕ) (now : ℤ) :
    Buries s (IceConnection.updateState s id now) := by
  cases hdies : (s.heap id).diesAt now with
  | false => exact (updateState_of_lives hdies).toSameBooks.buries
  | true =>
    rw [updateState_of_dies hdies]
    exact ((timedOut_touches s id now).toSameBooks.buries.trans
      (failAndDestroy_ends _ id now).buries).trans (updateReceiving_touches _ id now).toSameBooks.buries

theorem updateState_destroys (hdies : (s.heap id).diesAt now = true) :
    id ∈ (IceConnection.updateState s id now).destroyed := by
  rw [updateState_of_dies hdies]
  refine (updateReceiving_touches _ id now).toSameBooks.buries.destroyed ?_
  rw [(failAndDestroy_ends _ id now).destroyed]
  exact List.mem_cons_self

theorem foldl_updateState_buries (s : IceTransportChannel) (ids : List ℕ) (now : ℤ) :
    Buries s (ids.foldl (fun ch id => IceConnection.updateState ch id now) s) := by
  induction ids generalizing s with
  | nil => exact ⟨rfl, List.Subset.refl _⟩
  | cons id ids ih => exact (updateState_buries s id now).trans (ih _)

/-- A connection that dies in its turn is destroyed in the end. -/
theorem foldl_updateState_destroys (hnodup : ids.Nodup) (hmem : id ∈ ids)
    (hdies : (s.heap id).diesAt now = true) :
    id ∈ (ids.foldl (fun ch id => IceConnection.updateState ch id now) s).destroyed := by
  induction ids generalizing s with
  | nil => cases hmem
  | cons j ids ih =>
    obtain ⟨hout, hnodup⟩ := List.nodup_cons.1 hnodup
    by_cases hj : id = j
    · subst hj
      exact (foldl_updateState_buries _ ids now).destroyed (updateState_destroys hdies)
    · refine ih hnodup ((List.mem_cons.1 hmem).resolve_left hj) ?_
      rw [diesAt_of_unselected (updateState_others s j now hj)]
      exact hdies

/-- What was in a map and has been destroyed is in the map still. -/
theorem Buries.stale (h : Buries s t) (hfound : connectionAt s portIndex addr = some id)
    (hdestroyed : id ∈ t.destroyed) : Stale t :=
  ⟨portIndex, addr, id, connectionAt_congr h.ports ▸ hfound, hdestroyed⟩

theorem onCheckAndPing_stale (h : Whole s) (requestId : String)
    (hmem : id ∈ s.controller.connections) (hdies : (s.heap id).diesAt now = true) :
    Stale (s.onCheckAndPing requestId now) := by
  obtain ⟨-, hdestroyed, hports, -, -⟩ := onCheckAndPing_frame s requestId now
  have hupdated := foldl_updateState_buries s s.controller.connections now
  have hburies : Buries s (s.onCheckAndPing requestId now) :=
    hupdated.trans ⟨hports, (List.Perm.of_eq hdestroyed.symm).subset⟩
  refine hburies.stale (h.found id hmem) ?_
  rw [hdestroyed]
  exact foldl_updateState_destroys h.agreed.registry.connections hmem hdies

/-- A fatal response destroys the connection that the map goes on to have. -/
theorem Answered.stale {packet : Packet} (h : Answered id packet s t)
    (hfatal : (s.heap id).Fatal packet) (hfound : connectionAt s portIndex addr = some id) :
    Stale t := by
  cases h with
  | touched _ hlives => exact absurd hfatal hlives
  | answered _ _ _ hlives => exact absurd hfatal hlives
  | ended v request _ hends =>
    have huse := (use_onlySelects v id).toSameBooks.buries
    have hburies : Buries s (deleteRequest v id request) :=
      hends.buries.trans ⟨huse.ports, huse.destroyed⟩
    refine hburies.stale hfound (huse.destroyed ?_)
    rw [hends.destroyed]
    exact List.mem_cons_self

/-! ## Runs -/

/-- **No connection is destroyed**: not by a fatal response, and not by a
tick. -/
def DestroysNone (s : IceTransportChannel) : ChannelEvent → Prop
  | .datagram portIndex addr packet _ _ => ∀ id, connectionAt s portIndex addr = some id →
      ¬ (s.heap id).Fatal packet
  | .tick _ now => ∀ id ∈ s.controller.connections, (s.heap id).diesAt now = false
  | .setRemoteIceParams .. | .sendPacket | .destroyChannel _ => True

variable {e : ChannelEvent}

theorem foldl_destroy_connections (s : IceTransportChannel) (ids : List ℕ) (now : ℤ) :
    (ids.foldl (fun ch id => destroy ch id now) s).controller.connections.Perm
      (s.controller.connections.diff ids) := by
  induction ids generalizing s with
  | nil => exact .refl _
  | cons id ids ih =>
    rw [List.diff_cons]
    exact (ih (destroy s id now)).trans ((destroy_ends s id now).connections.diff_right ids)

/-- The end of a channel leaves no map and no registered connection. -/
theorem destroyChannel_mapped (s : IceTransportChannel) (now : ℤ) :
    Mapped (s.destroyChannel now) := by
  have hnone : ∀ id, id ∉ (s.destroyChannel now).controller.connections := by
    intro id hid
    have hdiff := (foldl_destroy_connections { s with timer := none } s.controller.connections
      now).mem_iff.1 hid
    have hself : s.controller.connections.diff s.controller.connections = [] := by
      refine List.subset_nil.1 fun j hj => ?_
      have hcount := List.count_diff j s.controller.connections s.controller.connections
      have hpos := List.count_pos_iff.2 hj
      omega
    exact List.not_mem_nil (hself ▸ hdiff)
  refine ⟨fun portIndex addr id hid => ?_, fun id hid => absurd hid (hnone id), ?_⟩
  · cases hid
  · intro dead _ movingAverage remoteUfrag priority id now' t ht
    cases ht

/-- **A step that destroys no connection** keeps map and registration as
they are to be, and so does the end of the channel. -/
theorem step_whole (h : Whole s) (hstep : s.step movingAverage e = some t)
    (hnone : DestroysNone s e) : Mapped t ∧ (t.closed = true ∨ Whole t) := by
  have hkept : Whole t → Mapped t ∧ (t.closed = true ∨ Whole t) := fun ht => ⟨ht.mapped, .inr ht⟩
  cases handled_of_step hstep with
  | known packet now hport haddr =>
    refine hkept (h.answered (onReadPacket_answered movingAverage s _ packet now)
      (onReadPacket_answers movingAverage s _ packet now).kept (hnone _ ?_))
    unfold connectionAt
    rw [hport, Option.bind_some, haddr]
  | stranger remoteUfrag priority now hport haddr hnew =>
    exact hkept (onUnknownAddress_whole h hport haddr hnew remoteUfrag priority now)
  | dropped => exact hkept h
  | params params now => exact hkept (setRemoteIceParams_whole h params now)
  | ticked requestId now htimer => exact hkept (onCheckAndPing_whole h requestId hnone)
  | sent =>
    have hnoted := useAll_noted s s.selectedConnection.toList
    exact hkept (h.onlySelects hnoted.onlySelects (.noted hnoted))
  | ended now => exact ⟨destroyChannel_mapped s now, .inl rfl⟩

/-- **A step that destroys one** leaves it in its map. -/
theorem step_stale (h : Whole s) (hstep : s.step movingAverage e = some t)
    (hnot : ¬ DestroysNone s e) : Stale t := by
  cases e with
  | datagram portIndex addr packet id now =>
    simp only [DestroysNone, not_forall, not_not] at hnot
    obtain ⟨conn, hfound, hfatal⟩ := hnot
    obtain ⟨port, hport, haddr⟩ := Option.bind_eq_some_iff.1 hfound
    obtain rfl := step_known hport haddr hstep
    exact (onReadPacket_answered movingAverage s conn packet now).stale hfatal hfound
  | tick requestId now =>
    simp only [DestroysNone, not_forall, Bool.not_eq_false] at hnot
    obtain ⟨id, hmem, hdies⟩ := hnot
    obtain rfl := step_ticked hstep
    exact onCheckAndPing_stale h requestId hmem hdies
  | setRemoteIceParams params now => exact absurd trivial hnot
  | sendPacket => exact absurd trivial hnot
  | destroyChannel now => exact absurd trivial hnot

theorem whole_init (localPriorities : List UInt32) : Whole (.init localPriorities) where
  agreed := agreed_init localPriorities
  opened := rfl
  destroyed := rfl
  registered := by
    intro portIndex addr id hid
    obtain ⟨port, hport, hfound⟩ := Option.bind_eq_some_iff.1 hid
    obtain ⟨priority, -, rfl⟩ := List.mem_map.1 (List.mem_of_getElem? hport)
    cases hfound
  found := fun _ hid => absurd hid List.not_mem_nil

/-- **The maps of the ports have the living registered connections and no
others, in every state of a run, exactly when no event of it destroys a
connection before the channel ends.** -/
theorem mapped_iff (movingAverage : ℤ → ℤ → ℤ → ℤ) (localPriorities : List UInt32)
    (es : List ChannelEvent) :
    Common.EveryStep (IceTransportChannel.step movingAverage) (fun _ _ t => Mapped t)
        (.init localPriorities) es ↔
      Common.EveryStep (IceTransportChannel.step movingAverage) (fun s e _ => DestroysNone s e)
        (.init localPriorities) es := by
  -- nothing happens to a channel that has ended
  have hopen : ∀ s e t, s.closed = true ∨ Whole s → s.step movingAverage e = some t → Whole s := by
    rintro s e t (hclosed | h) hs
    · rw [open_of_step hs] at hclosed
      cases hclosed
    · exact h
  have hstep : ∀ s e t, s.closed = true ∨ Whole s → s.step movingAverage e = some t →
      (Mapped t ↔ DestroysNone s e) := by
    intro s e t h hs
    constructor
    · intro hmapped
      by_contra hnot
      exact (step_stale (hopen s e t h hs) hs hnot).not_mapped hmapped
    · intro hnone
      exact (step_whole (hopen s e t h hs) hs hnone).1
  refine Common.everyStep_iff_of_inv (I := fun s => s.closed = true ∨ Whole s) hstep ?_
    (.inr (whole_init localPriorities))
  intro s e t h hs hmapped
  exact (step_whole (hopen s e t h hs) hs ((hstep s e t h hs).1 hmapped)).2

/-- **A destroyed connection stays in the map**, and the next Binding
Request from its address makes no new one. -/
theorem destroyed_stays_mapped :
    ¬ Common.EveryStep (IceTransportChannel.step getNextMovingAverage) (fun _ _ t => Mapped t)
        (.init [1]) (connectedRun ++ [roleConflict]) ∧
      ((Common.run (IceTransportChannel.step getNextMovingAverage) (.init [1])
        (connectedRun ++ [roleConflict, .datagram 0 ⟨0x0A000001, 5000⟩ (.request "peer" (some 1)) 2
          30000])).map fun t => (t.made, t.controller.connections)) = some ([0], []) := by
  constructor
  · intro h
    have hlost : ((Common.run (IceTransportChannel.step getNextMovingAverage) (.init [1])
        connectedRun).bind fun s => (s.step getNextMovingAverage roleConflict).map fun t =>
          (t.destroyed, connectionAt t 0 ⟨0x0A000001, 5000⟩)) = some ([0], some 0) := by
      decide +kernel
    obtain ⟨s, hs, hlost⟩ := Option.bind_eq_some_iff.1 hlost
    obtain ⟨t, ht, hstale⟩ := Option.map_eq_some_iff.1 hlost
    obtain ⟨hdestroyed, hfound⟩ := Prod.mk.inj hstale
    have halive := (Common.everyStep_last h hs ht).alive 0 _ 0 hfound
    exact halive.1 (hdestroyed ▸ List.mem_singleton_self 0)
  · decide +kernel

end Ice

end XrtcServer
