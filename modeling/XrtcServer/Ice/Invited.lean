import XrtcServer.Ice.Model.Datagrams
import XrtcServer.Ice.Places
/-!
# Where the connections of a channel are

A connection is made where somebody has asked for one, and it is found there
ever after: no method moves a connection, or reaches one that has not been
made. What counts as asking is a parameter (`H`), so that the invariant can
be read of any history.
-/

namespace XrtcServer

namespace Ice

open IceConnection IceTransportChannel

variable {s t : IceTransportChannel} {H H' : ℕ × SocketAddress × String → Prop}
variable {id portIndex : ℕ} {port : UDPPort} {addr : SocketAddress} {now : ℤ}

/-! ## A new connection -/

/-- A new connection is found under its address, and the others where they
were. -/
theorem connectionAt_newConnection {remote : Candidate} (hport : s.ports[portIndex]? = some port)
    (haddr : port.getConnection remote.address = none) (id : ℕ) (now : ℤ) (p : ℕ)
    (a : SocketAddress) :
    connectionAt ((s.createConnection portIndex port remote id now).addConnection id) p a =
      if p = portIndex ∧ a = remote.address then some id else connectionAt s p a := by
  rw [createConnection_of_none haddr]
  have hbound := (List.getElem?_eq_some_iff.1 hport).1
  let taken : UDPPort := { port with
    connections := (remote.address, id) :: port.connections.filter (·.1 ≠ remote.address) }
  show ((s.ports.set portIndex taken)[p]?).bind (·.getConnection a) = _
  by_cases hp : p = portIndex
  · subst hp
    rw [List.getElem?_set_self hbound, Option.bind_some]
    by_cases ha : a = remote.address
    · subst ha
      rw [if_pos ⟨rfl, rfl⟩]
      unfold UDPPort.getConnection
      exact List.lookup_cons_self
    · rw [if_neg fun h => ha h.2]
      unfold connectionAt
      rw [hport, Option.bind_some]
      exact getConnection_insert_ne id ha
  · rw [List.getElem?_set_ne (Ne.symm hp), if_neg fun h => hp h.1]
    rfl

theorem reaches_newConnection (s : IceTransportChannel) {remote : Candidate}
    (haddr : port.getConnection remote.address = none) (portIndex id : ℕ) (now : ℤ) (j : ℕ)
    (h : Reaches ((s.createConnection portIndex port remote id now).addConnection id) j) :
    j = id ∨ Reaches s j := by
  rw [createConnection_of_none haddr] at h
  obtain ⟨hj⟩ := h
  rcases hj with hj | hj | hj | hj | hj
  · rcases List.mem_append.1 hj with hj | hj
    · exact .inr ⟨.inl hj⟩
    · exact .inl (List.mem_singleton.1 hj)
  · exact .inr ⟨.inr (.inl hj)⟩
  · rcases mem_setInsert.1 hj with rfl | hj
    · exact .inl rfl
    · exact .inr ⟨.inr (.inr (.inl hj))⟩
  · exact .inr ⟨.inr (.inr (.inr (.inl hj)))⟩
  · exact .inr ⟨.inr (.inr (.inr (.inr hj)))⟩

/-! ## The invariant -/

/-- **Every connection is where somebody has asked for it**, the port finds it
there, and nothing else is found or reached. -/
structure Invited (H : ℕ × SocketAddress × String → Prop) (s : IceTransportChannel) : Prop where
  place : ∀ id ∈ s.made, H (s.heap id).place
  entry : ∀ portIndex addr id, connectionAt s portIndex addr = some id →
    id ∈ s.made ∧ (s.heap id).port = portIndex ∧ (s.heap id).remoteCandidate.address = addr
  found : s.closed = false → ∀ id ∈ s.made,
    connectionAt s (s.heap id).port (s.heap id).remoteCandidate.address = some id
  reached : ∀ id, Reaches s id → id ∈ s.made

namespace Invited

theorem mono (h : Invited H s) (hH : ∀ p, H p → H' p) : Invited H' s :=
  ⟨fun id hid => hH _ (h.place id hid), h.entry, h.found, h.reached⟩

/-- Where the same connections are in the same places, one may be reached
that has been made. -/
theorem frame (h : Invited H s) (hmade : t.made = s.made) (hports : t.ports = s.ports)
    (hclosed : t.closed = s.closed) (hplace : ∀ id, (t.heap id).place = (s.heap id).place)
    (hreached : ∀ id, Reaches t id → id ∈ s.made) : Invited H t := by
  have hat : connectionAt t = connectionAt s := connectionAt_congr hports
  have hsame : ∀ id, (t.heap id).port = (s.heap id).port ∧
      (t.heap id).remoteCandidate.address = (s.heap id).remoteCandidate.address := by
    intro id
    have hid := hplace id
    unfold IceConnection.place at hid
    simp only [Prod.mk.injEq] at hid
    exact ⟨hid.1, hid.2.1⟩
  refine ⟨fun id hid => ?_, fun p a id hid => ?_, fun hopen id hid => ?_, fun id hid => ?_⟩
  · rw [hmade] at hid
    rw [hplace]
    exact h.place id hid
  · rw [hat] at hid
    rw [hmade, (hsame id).1, (hsame id).2]
    exact h.entry p a id hid
  · rw [hmade] at hid
    rw [hat, (hsame id).1, (hsame id).2]
    exact h.found (hclosed ▸ hopen) id hid
  · rw [hmade]
    exact hreached id hid

theorem stays (h : Invited H s) (ht : Stays s t) : Invited H t :=
  h.frame ht.made ht.ports ht.closed (fun id => (ht.peer id).place)
    fun id hid => h.reached id (ht.reaches id hid)

/-- **A new connection** is where the request for it came from. -/
theorem newConnection (h : Invited H s) {remote : Candidate}
    (hport : s.ports[portIndex]? = some port) (haddr : port.getConnection remote.address = none)
    (hnew : id ∉ s.made) (now : ℤ) (hasked : H (portIndex, remote.address, remote.username)) :
    Invited H ((s.createConnection portIndex port remote id now).addConnection id) := by
  have hat := connectionAt_newConnection hport haddr id now
  have hreaches := reaches_newConnection s haddr portIndex id now
  rw [createConnection_of_none haddr] at hat hreaches ⊢
  let c : IceConnection :=
    { port := portIndex, localPriority := port.localPriority, remoteCandidate := remote }
  have hself : (s.setConn id c).heap id = c := setConn_heap_self
  have hold : ∀ j ∈ s.made, (s.setConn id c).heap j = s.heap j := by
    intro j hj
    refine setConn_heap_of_ne ?_
    rintro rfl
    exact hnew hj
  refine ⟨fun j hj => ?_, fun p a j hj => ?_, fun hopen j hj => ?_, fun j hj => ?_⟩
  · show H ((s.setConn id c).heap j).place
    rcases List.mem_cons.1 hj with rfl | hj
    · rw [hself]
      exact hasked
    · rw [hold j hj]
      exact h.place j hj
  · show j ∈ id :: s.made ∧ ((s.setConn id c).heap j).port = p ∧
      ((s.setConn id c).heap j).remoteCandidate.address = a
    rw [hat] at hj
    split at hj
    · rename_i hhere
      obtain rfl := Option.some.inj hj
      rw [hself]
      exact ⟨List.mem_cons_self, hhere.1.symm, hhere.2.symm⟩
    · obtain ⟨hmem, hentry⟩ := h.entry p a j hj
      rw [hold j hmem]
      exact ⟨List.mem_cons_of_mem id hmem, hentry⟩
  · rw [hat]
    show (if ((s.setConn id c).heap j).port = portIndex ∧
      ((s.setConn id c).heap j).remoteCandidate.address = remote.address then some id
      else connectionAt s ((s.setConn id c).heap j).port
        ((s.setConn id c).heap j).remoteCandidate.address) = some j
    rcases List.mem_cons.1 hj with rfl | hj
    · rw [hself, if_pos ⟨rfl, rfl⟩]
    · rw [hold j hj]
      have hfound := h.found hopen j hj
      rw [if_neg, hfound]
      -- nobody was there before
      rintro ⟨hp, ha⟩
      unfold connectionAt at hfound
      rw [hp, ha, hport, Option.bind_some, haddr] at hfound
      cases hfound
  · show j ∈ id :: s.made
    rcases hreaches j hj with rfl | hj
    · exact List.mem_cons_self
    · exact List.mem_cons_of_mem id (h.reached j hj)

theorem onUnknownAddress (h : Invited H s) (hport : s.ports[portIndex]? = some port)
    (haddr : port.getConnection addr = none) (hnew : id ∉ s.made) {remoteUfrag : String}
    (priority : Option UInt32) (now : ℤ)
    (hasked : priority ≠ none → H (portIndex, addr, remoteUfrag)) :
    Invited H (s.onUnknownAddress portIndex port addr remoteUfrag priority id now) := by
  unfold IceTransportChannel.onUnknownAddress
  cases priority with
  | none => exact h
  | some priority =>
    exact (h.newConnection hport haddr hnew now (hasked (Option.some_ne_none _))).stays
      (sortConnectionsAndUpdateState_stays _ now)

/-! ## Pings -/

theorem pingChosen (h : Invited H s) (conn : Option ℕ) (hconn : ∀ id, conn = some id → id ∈ s.made)
    (requestId : String) (now : ℤ) : Invited H (s.pingChosen conn requestId now) := by
  have hpeer := fun id => (pingChosen_peer s conn requestId now id).place
  cases conn with
  | none => exact h
  | some id =>
    have huse := use_noted { s with lastPingSentMs := now } id
    refine h.frame huse.onlySelects.made huse.onlySelects.ports huse.onlySelects.closed hpeer
      fun j hj => ?_
    have hctl : (s.pingChosen (some id) requestId now).controller =
        s.controller.markConnectionPinged id :=
      congrArg (IceController.markConnectionPinged · id) huse.controller
    have hselected : (s.pingChosen (some id) requestId now).selectedConnection =
        s.selectedConnection := huse.selected
    have hmarked : j = id ∨ Reaches s j := by
      obtain ⟨hj⟩ := hj
      rw [hctl, hselected] at hj
      unfold IceController.markConnectionPinged at hj
      split at hj
      · exact .inr ⟨hj⟩
      · rcases hj with hj | hj | hj | hj
        · exact .inr ⟨.inl hj⟩
        · rcases mem_setInsert.1 hj with rfl | hj
          · exact .inl rfl
          · exact .inr ⟨.inr (.inl hj)⟩
        · exact .inr ⟨.inr (.inr (.inl (List.mem_of_mem_erase hj)))⟩
        · exact .inr ⟨.inr (.inr (.inr hj))⟩
    rcases hmarked with rfl | hreaches
    · exact hconn j rfl
    · exact h.reached j hreaches

end Invited

/-- What is chosen to be pinged can be reached. -/
theorem selectConnectionToPing_reaches (h : (s.selectConnectionToPing now).2.conn = some id) :
    Reaches s id := by
  let v := s.useAll (s.controller.connections ++ s.controller.selectedConnection.toList)
  have huse : Noted s v := useAll_noted s _
  have hchosen : ∀ (ctl : IceController) (lastPingSentMs : ℤ),
      (ctl.selectConnectionToPing v.heap lastPingSentMs now).2.conn = some id →
      ctl.selectedConnection = some id ∨ id ∈ ctl.pingedConnections ∨
        id ∈ ctl.unpingedConnections := by
    intro ctl lastPingSentMs hconn
    unfold IceController.selectConnectionToPing IceController.findNextPingableConnection at hconn
    dsimp only at hconn
    split at hconn
    · cases hdue : ctl.selectedIsDue v.heap now with
      | some j =>
        rw [hdue] at hconn
        obtain rfl := Option.some.inj hconn
        exact .inl (Option.filter_eq_some_iff.1 hdue).1
      | none =>
        rw [hdue] at hconn
        have hmem := (IceController.mostPingable_spec hconn).1
        split at hmem
        · exact .inr (.inr hmem)
        · exact .inr (mem_foldl_setInsert.1 hmem).symm
    · cases hconn
  have hreached := hchosen v.controller (v.lastPingSentMs - PING_INTERVAL_DIFF) h
  rw [huse.controller] at hreached
  rcases hreached with hj | hj | hj
  · exact ⟨.inr (.inr (.inr (.inl hj)))⟩
  · exact ⟨.inr (.inl hj)⟩
  · exact ⟨.inr (.inr (.inl hj))⟩

/-- What a tick pings has been made. -/
theorem Invited.pinged (h : Invited H s) (hpinged : pinged s now = some id) : id ∈ s.made := by
  have hupdated := h.stays (updateConnectionStates_stays s now)
  rw [← (updateConnectionStates_stays s now).made]
  exact hupdated.reached id (selectConnectionToPing_reaches hpinged)

theorem Invited.onCheckAndPing (h : Invited H s) (requestId : String) (now : ℤ) :
    Invited H (s.onCheckAndPing requestId now) := by
  have hupdated := updateConnectionStates_stays s now
  have hchosen := hupdated.trans (selectConnectionToPing_stays _ now)
  have hpinged := (h.stays hchosen).pingChosen (Ice.pinged s now)
    (fun id hid => by
      rw [hchosen.made]
      exact h.pinged hid) requestId now
  exact hpinged.stays (changePingInterval_stays _ _)

theorem Invited.destroyChannel (h : Invited H s) (now : ℤ) : Invited H (s.destroyChannel now) := by
  have hall := h.stays (destroyAll_stays s s.controller.connections now)
  refine ⟨hall.place, fun p a id hid => ?_, fun hopen => ?_,
    fun id hid => hall.reached id ⟨hid.reached⟩⟩
  · cases hid
  · cases hopen

theorem invited_init (localPriorities : List UInt32) : Invited H (.init localPriorities) := by
  refine ⟨fun id hid => absurd hid List.not_mem_nil, fun p a id hid => ?_,
    fun _ id hid => absurd hid List.not_mem_nil, fun id hid => ?_⟩
  · unfold connectionAt IceTransportChannel.init at hid
    rw [List.getElem?_map] at hid
    cases hport : localPriorities[p]? with
    | none =>
      rw [hport] at hid
      cases hid
    | some localPriority =>
      rw [hport] at hid
      cases hid
  · obtain ⟨hid⟩ := hid
    rcases hid with hid | hid | hid | hid | hid
    · cases hid
    · cases hid
    · cases hid
    · cases hid
    · cases hid

end Ice

end XrtcServer
