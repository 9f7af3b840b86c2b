import XrtcServer.Ice.OneSelected
/-!
# The lifetime of connections and requests

Outside the end of the channel a connection is destroyed in the middle of
`update_state` or of `check_response`, and both go on to use it. So nothing
that has been destroyed is used, and every request is deleted exactly once,
as long as no connection is destroyed before the channel and no ping draws
the transaction id of a request its connection still has (`Survives`). The
end of the channel destroys every connection and uses none of them after.
-/

namespace XrtcServer

namespace Ice

open IceTransportChannel IceConnection

/-- The requests that the manager of a connection has. -/
def serials (s : IceTransportChannel) (id : ℕ) : List ℕ :=
  (s.heap id).requests.map StunRequest.serial

/-- The requests that have not been deleted. -/
def outstanding (s : IceTransportChannel) : List ℕ := s.made.flatMap (serials s)

/-- **Nothing destroyed has been used, and every request is deleted once**:
each is outstanding or has been deleted, not both and not twice, and at the
end of the channel none is outstanding. -/
structure Released (s : IceTransportChannel) : Prop where
  unused : s.trace.deadUses = []
  accounted : (s.trace.released ++ outstanding s).Perm (List.range s.trace.requestsMade)
  ended : s.closed = true → outstanding s = []

/-- A channel that has destroyed no connection yet. -/
structure Intact (s : IceTransportChannel) : Prop where
  agreed : Agreed s
  opened : s.closed = false
  connections : s.controller.connections.Perm s.made
  ports : ∀ port ∈ s.ports, ∀ entry ∈ port.connections, entry.2 ∈ s.made
  destroyed : s.destroyed = []
  unused : s.trace.deadUses = []
  ids : ∀ id, ((s.heap id).requests.map StunRequest.id).Nodup
  accounted : (s.trace.released ++ outstanding s).Perm (List.range s.trace.requestsMade)

variable {s t : IceTransportChannel} {i id : ℕ} {ids : List ℕ} {now : ℤ} {request : StunRequest}

theorem Intact.nodup (h : Intact s) : s.made.Nodup :=
  h.connections.nodup_iff.1 h.agreed.registry.connections

/-! ## Accounts -/

theorem outstanding_congr (hmade : t.made = s.made) (h : ∀ id ∈ s.made, serials t id = serials s id) :
    outstanding t = outstanding s := by
  unfold outstanding
  rw [hmade]
  exact List.flatMap_congr h

/-- Where one connection changes, the requests of the others are the same. -/
theorem outstanding_split (hmade : t.made = s.made) (hnodup : s.made.Nodup) (hmem : i ∈ s.made)
    (hothers : ∀ j, j ≠ i → serials t j = serials s j) :
    ∃ rest, (outstanding s).Perm (serials s i ++ rest) ∧
      (outstanding t).Perm (serials t i ++ rest) := by
  have hsplit : ∀ f : ℕ → List ℕ, (s.made.flatMap f).Perm (f i ++ (s.made.erase i).flatMap f) := by
    intro f
    have hperm := (List.perm_cons_erase hmem).flatMap_right f
    rw [List.flatMap_cons] at hperm
    exact hperm
  refine ⟨(s.made.erase i).flatMap (serials s), hsplit (serials s), ?_⟩
  have hrest : (s.made.erase i).flatMap (serials t) = (s.made.erase i).flatMap (serials s) :=
    List.flatMap_congr fun j hj => hothers j ((hnodup.mem_erase_iff).1 hj).1
  unfold outstanding
  rw [hmade, ← hrest]
  exact hsplit (serials t)

/-- A request found by its id is the only one with it. -/
theorem perm_removeRequest {requests : List StunRequest}
    (hids : (requests.map StunRequest.id).Nodup) (hmem : request ∈ requests) :
    requests.Perm (request :: requests.filter (·.id ≠ request.id)) := by
  have hnodup : requests.Nodup := .of_map _ hids
  have herase : requests.erase request = requests.filter (·.id ≠ request.id) := by
    rw [hnodup.erase_eq_filter]
    refine List.filter_congr fun r hr => ?_
    have hiff : r = request ↔ r.id = request.id :=
      ⟨congrArg StunRequest.id, List.inj_on_of_nodup_map hids hr hmem⟩
    rw [Bool.eq_iff_iff, bne_iff_ne, decide_eq_true_iff, ne_eq, ne_eq, hiff]
  rw [← herase]
  exact List.perm_cons_erase hmem

/-! ## Methods -/

theorem Intact.of_books (h : Intact s) (hbooks : SameBooks s t)
    (hrequests : ∀ id, (t.heap id).requests = (s.heap id).requests)
    (hunused : t.trace.deadUses = s.trace.deadUses) (hagreed : Agreed t) : Intact t where
  agreed := hagreed
  opened := hbooks.closed.trans h.opened
  connections := by
    rw [hbooks.made]
    exact hbooks.connections.trans h.connections
  ports := by
    rw [hbooks.ports, hbooks.made]
    exact h.ports
  destroyed := hbooks.destroyed.trans h.destroyed
  unused := hunused.trans h.unused
  ids := fun id => hrequests id ▸ h.ids id
  accounted := by
    have hserials : outstanding t = outstanding s := by
      refine outstanding_congr hbooks.made fun id _ => ?_
      unfold serials
      rw [hrequests]
    rw [hbooks.released, hbooks.requestsMade, hserials]
    exact h.accounted

theorem Intact.touches (h : Intact s) (ht : Touches i s t) : Intact t :=
  h.of_books ht.toSameBooks ht.requests_eq (ht.unused h.destroyed) (ht.keeps.agreed h.agreed)

theorem deleteRequest_of_live (h : id ∉ s.destroyed) :
    deleteRequest s id request =
      { s.setConn id ((s.heap id).removeRequest request.id) with
        trace := { s.trace with released := s.trace.released ++ [request.serial] } } := by
  unfold deleteRequest
  rw [use_of_not_mem h]

/-- The answer to a request deletes it. -/
theorem deleteRequest_intact (h : Intact s) (hmade : id ∈ s.made)
    (hmem : request ∈ (s.heap id).requests) : Intact (deleteRequest s id request) := by
  have hagreed := (deleteRequest_keeps s id request).agreed h.agreed
  have hlive : id ∉ s.destroyed := by simp [h.destroyed]
  rw [deleteRequest_of_live hlive] at hagreed ⊢
  let u := s.setConn id ((s.heap id).removeRequest request.id)
  have hself : u.heap id = (s.heap id).removeRequest request.id := setConn_heap_self
  have hothers : ∀ j, j ≠ id → u.heap j = s.heap j := fun j hj => setConn_heap_of_ne hj
  refine ⟨hagreed, h.opened, h.connections, h.ports, h.destroyed, h.unused, fun j => ?_, ?_⟩
  · show ((u.heap j).requests.map _).Nodup
    by_cases hj : j = id
    · subst hj
      rw [hself]
      exact (h.ids j).sublist (List.filter_sublist.map _)
    · rw [hothers j hj]
      exact h.ids j
  · have hserials : (serials s id).Perm (request.serial :: serials u id) := by
      unfold serials
      rw [hself]
      exact (perm_removeRequest (h.ids id) hmem).map _
    obtain ⟨rest, hs, hu⟩ := outstanding_split (s := s) (t := u) rfl h.nodup hmade fun j hj => by
      unfold serials
      rw [hothers j hj]
    -- the request moves from one account to the other
    have hmoved : ([request.serial] ++ outstanding u).Perm (outstanding s) :=
      ((hu.append_left _).trans (hserials.symm.append_right rest)).trans hs.symm
    show (s.trace.released ++ [request.serial] ++ outstanding u).Perm (List.range _)
    rw [List.append_assoc]
    exact (hmoved.append_left _).trans h.accounted

/-! ## Events -/

variable {movingAverage : ℤ → ℤ → ℤ → ℤ}

/-- A fatal response is answered with a use of what it has destroyed. -/
theorem Answered.lifetime {packet : Packet} (h : Answered id packet s t) (hs : Intact s)
    (hmade : id ∈ s.made) :
    (¬ (s.heap id).Fatal packet → Intact t) ∧ ((s.heap id).Fatal packet → t.trace.deadUses ≠ []) := by
  cases h with
  | touched _ hlives htouches => exact ⟨fun _ => hs.touches htouches, fun hfatal => absurd hfatal hlives⟩
  | answered v request key hlives htouches hfind =>
    refine ⟨fun _ => ?_, fun hfatal => absurd hfatal hlives⟩
    refine deleteRequest_intact (hs.touches htouches) (htouches.made ▸ hmade) ?_
    rw [htouches.requests]
    exact List.mem_of_find?_eq_some hfind
  | ended v request hfatal hends => exact ⟨fun hlives => absurd hfatal hlives, fun _ => hends.used⟩

theorem newConnection_intact (h : Intact s) {port : UDPPort} {remote : Candidate} {portIndex : ℕ}
    (hport : s.ports[portIndex]? = some port) (haddr : port.getConnection remote.address = none)
    (hnew : id ∉ s.made) (now : ℤ) :
    Intact ((s.createConnection portIndex port remote id now).addConnection id) := by
  have hagreed := newConnection_agreed h.agreed haddr hnew portIndex now
  rw [createConnection_of_none haddr] at hagreed ⊢
  let c : IceConnection :=
    { port := portIndex, localPriority := port.localPriority, remoteCandidate := remote }
  have hself : (s.setConn id c).heap id = c := setConn_heap_self
  have hothers : ∀ j, j ≠ id → (s.setConn id c).heap j = s.heap j := fun j hj => setConn_heap_of_ne hj
  refine ⟨hagreed, h.opened, ?_, ?_, h.destroyed, h.unused, fun j => ?_, ?_⟩
  · show (s.controller.connections ++ [id]).Perm (id :: s.made)
    exact (List.perm_append_singleton id _).trans (h.connections.cons id)
  · intro p hp entry hentry
    rcases List.mem_or_eq_of_mem_set hp with hold | rfl
    · exact List.mem_cons_of_mem id (h.ports p hold entry hentry)
    · rcases List.mem_cons.1 hentry with rfl | hold
      · exact List.mem_cons_self
      · exact List.mem_cons_of_mem id
          (h.ports port (List.mem_of_getElem? hport) entry (List.mem_of_mem_filter hold))
  · show (((s.setConn id c).heap j).requests.map _).Nodup
    by_cases hj : j = id
    · rw [hj, hself]
      exact .nil
    · rw [hothers j hj]
      exact h.ids j
  · -- the new connection has no requests
    have hserials : s.made.flatMap (serials (s.setConn id c)) = outstanding s := by
      refine List.flatMap_congr fun j hj => ?_
      unfold serials
      rw [hothers j fun heq => hnew (heq ▸ hj)]
    have hnone : serials (s.setConn id c) id = [] := by
      unfold serials
      rw [hself]
      rfl
    show (s.trace.released ++ (id :: s.made).flatMap (serials (s.setConn id c))).Perm _
    rw [List.flatMap_cons, hnone, hserials]
    exact h.accounted

theorem onUnknownAddress_intact (h : Intact s) {port : UDPPort} {addr : SocketAddress}
    {portIndex : ℕ} (hport : s.ports[portIndex]? = some port)
    (haddr : port.getConnection addr = none) (hnew : id ∉ s.made) (remoteUfrag : String)
    (priority : Option UInt32) (now : ℤ) :
    Intact (s.onUnknownAddress portIndex port addr remoteUfrag priority id now) := by
  unfold onUnknownAddress
  cases priority with
  | none => exact h
  | some priority =>
    exact (newConnection_intact h hport haddr hnew now).touches
      (onConnectionStateChange_touches id _ now)

theorem foldl_touches_intact {f : IceTransportChannel → ℕ → IceTransportChannel}
    (hf : ∀ s id, Touches id s (f s id)) (h : Intact s) (ids : List ℕ) : Intact (ids.foldl f s) := by
  induction ids generalizing s with
  | nil => exact h
  | cons id ids ih => exact ih (h.touches (hf s id))

theorem setRemoteIceParams_intact (h : Intact s) (params : IceParameters) (now : ℤ) :
    Intact (s.setRemoteIceParams params now) := by
  have hset : Intact { s with remoteIceParams := params } :=
    ⟨⟨h.agreed.registry, h.agreed.made, h.agreed.same, h.agreed.selected, h.agreed.observed⟩,
      h.opened, h.connections, h.ports, h.destroyed, h.unused, h.ids, h.accounted⟩
  have hrequests : ∀ c : IceConnection, (c.maybeSetRemoteIceParams params).requests = c.requests := by
    intro c
    unfold maybeSetRemoteIceParams
    split <;> rfl
  unfold setRemoteIceParams
  exact (foldl_touches_intact (fun s id => rewrite_touches s id _ (hrequests _)) hset _).touches
    (onConnectionStateChange_touches 0 _ now)

/-! ## The timer -/

/-- Where no connection dies, all go on with the requests they have. -/
theorem foldl_updateState_intact (h : Intact s) (hnodup : ids.Nodup)
    (hlive : ∀ id ∈ ids, (s.heap id).diesAt now = false) :
    let t := ids.foldl (fun ch id => IceConnection.updateState ch id now) s
    Intact t ∧ ∀ j, (t.heap j).requests = (s.heap j).requests := by
  induction ids generalizing s with
  | nil => exact ⟨h, fun _ => rfl⟩
  | cons id ids ih =>
    obtain ⟨hout, hnodup⟩ := List.nodup_cons.1 hnodup
    have htouches := updateState_of_lives (hlive id List.mem_cons_self)
    have hrest : ∀ j ∈ ids, ((IceConnection.updateState s id now).heap j).diesAt now = false := by
      intro j hj
      have hne : j ≠ id := by
        rintro rfl
        exact hout hj
      rw [diesAt_of_unselected (updateState_others s id now hne)]
      exact hlive j (List.mem_cons_of_mem id hj)
    obtain ⟨hintact, hrequests⟩ := ih (h.touches htouches) hnodup hrest
    exact ⟨hintact, fun j => (hrequests j).trans (htouches.requests_eq j)⟩

theorem foldl_updateState_deadUses (s : IceTransportChannel) (ids : List ℕ) (now : ℤ) :
    s.trace.deadUses <:+
      (ids.foldl (fun ch id => IceConnection.updateState ch id now) s).trace.deadUses := by
  induction ids generalizing s with
  | nil => exact List.suffix_rfl
  | cons id ids ih => exact (updateState_deadUses_suffix s id now).trans (ih _)

/-- Where one dies, it is used after. -/
theorem foldl_updateState_of_dies (hnodup : ids.Nodup) (hmem : id ∈ ids)
    (hdies : (s.heap id).diesAt now = true) :
    (ids.foldl (fun ch id => IceConnection.updateState ch id now) s).trace.deadUses ≠ [] := by
  induction ids generalizing s with
  | nil => cases hmem
  | cons j ids ih =>
    obtain ⟨hout, hnodup⟩ := List.nodup_cons.1 hnodup
    by_cases hj : id = j
    · subst hj
      exact (foldl_updateState_deadUses _ ids now).ne_nil (updateState_deadUses_of_dies hdies)
    · refine ih hnodup ((List.mem_cons.1 hmem).resolve_left hj) ?_
      rw [diesAt_of_unselected (updateState_others s j now hj)]
      exact hdies

theorem useAll_of_none (h : s.destroyed = []) (ids : List ℕ) : s.useAll ids = s :=
  useAll_of_not_mem fun id _ => by simp [h]

theorem selectConnectionToPing_books (s : IceTransportChannel) (now : ℤ) :
    SameBooks s (s.selectConnectionToPing now).1 ∧ (s.selectConnectionToPing now).1.heap = s.heap := by
  have huse := useAll_noted s (s.controller.connections ++ s.controller.selectedConnection.toList)
  let v := s.useAll (s.controller.connections ++ s.controller.selectedConnection.toList)
  have hconnections := (IceController.selectConnectionToPing_same v.controller v.heap
    (v.lastPingSentMs - PING_INTERVAL_DIFF) now).1
  have hbooks := huse.onlySelects
  refine ⟨⟨hbooks.made, hbooks.destroyed, hbooks.ports, hbooks.closed, ?_, hbooks.requestsMade,
    hbooks.released, hbooks.deadUses⟩, huse.heap⟩
  exact (List.Perm.of_eq hconnections).trans hbooks.connections

theorem selectConnectionToPing_intact (h : Intact s) (now : ℤ) :
    Intact (s.selectConnectionToPing now).1 := by
  obtain ⟨hbooks, hheap⟩ := selectConnectionToPing_books s now
  refine h.of_books hbooks (fun id => by rw [hheap]) ?_
    ((selectConnectionToPing_keeps s now).agreed h.agreed)
  show (s.useAll _).trace.deadUses = _
  rw [useAll_of_none h.destroyed]

theorem pingConnection_of_live (h : id ∉ s.destroyed) (requestId : String) (now : ℤ) :
    s.pingConnection id requestId now =
      { s.setConn id ((s.heap id).ping
          { serial := s.trace.requestsMade, id := requestId, ts := now } now) with
        lastPingSentMs := now
        trace := { s.trace with requestsMade := s.trace.requestsMade + 1 } } := by
  have huse : use { s with lastPingSentMs := now } id = { s with lastPingSentMs := now } :=
    use_of_not_mem h
  unfold pingConnection
  rw [huse]
  rfl

/-- The accounts after a ping: one request more on one connection. -/
theorem pingConnection_accounts (h : Intact s) (hmade : id ∈ s.made) (requestId : String) (now : ℤ) :
    let t := s.pingConnection id requestId now
    ∃ rest, (outstanding s).Perm (serials s id ++ rest) ∧
      (outstanding t).Perm (((s.heap id).requests.filter (·.id ≠ requestId)).map
        StunRequest.serial ++ [s.trace.requestsMade] ++ rest) := by
  have hlive : id ∉ s.destroyed := by simp [h.destroyed]
  dsimp only
  rw [pingConnection_of_live hlive]
  let c := (s.heap id).ping { serial := s.trace.requestsMade, id := requestId, ts := now } now
  have hothers : ∀ j, j ≠ id → serials (s.setConn id c) j = serials s j := by
    intro j hj
    unfold serials
    rw [setConn_heap_of_ne hj]
  obtain ⟨rest, hs, ht⟩ := outstanding_split (s := s) (t := s.setConn id c) rfl h.nodup hmade hothers
  refine ⟨rest, hs, ht.trans (List.Perm.of_eq ?_)⟩
  unfold serials
  rw [setConn_heap_self]
  show ((s.heap id).requests.filter _ ++ [_]).map StunRequest.serial ++ rest = _
  rw [List.map_append]
  rfl

/-- A ping whose transaction id its connection does not have. -/
theorem pingConnection_intact (h : Intact s) (hmade : id ∈ s.made) {requestId : String}
    (hfresh : ∀ r ∈ (s.heap id).requests, r.id ≠ requestId) (now : ℤ) :
    Intact (s.pingConnection id requestId now) := by
  have hagreed := (pingConnection_keeps s id requestId now).agreed h.agreed
  obtain ⟨rest, hs, ht⟩ := pingConnection_accounts h hmade requestId now
  have hlive : id ∉ s.destroyed := by simp [h.destroyed]
  rw [pingConnection_of_live hlive] at hagreed ht ⊢
  have hall : (s.heap id).requests.filter (·.id ≠ requestId) = (s.heap id).requests :=
    List.filter_eq_self.2 fun r hr => decide_eq_true (hfresh r hr)
  let c := (s.heap id).ping { serial := s.trace.requestsMade, id := requestId, ts := now } now
  refine ⟨hagreed, h.opened, h.connections, h.ports, h.destroyed, h.unused, fun j => ?_, ?_⟩
  · show (((s.setConn id c).heap j).requests.map _).Nodup
    by_cases hj : j = id
    · subst hj
      rw [setConn_heap_self]
      show (((s.heap j).requests.filter _ ++ [_]).map _).Nodup
      rw [hall, List.map_append, List.nodup_append]
      refine ⟨h.ids j, List.nodup_singleton _, fun a ha b hb => ?_⟩
      obtain ⟨r, hr, rfl⟩ := List.mem_map.1 ha
      obtain rfl := List.mem_singleton.1 hb
      exact hfresh r hr
    · rw [setConn_heap_of_ne hj]
      exact h.ids j
  · show (s.trace.released ++ _).Perm (List.range (s.trace.requestsMade + 1))
    rw [hall] at ht
    have hadded : ((s.heap id).requests.map StunRequest.serial ++ [s.trace.requestsMade] ++
        rest).Perm (outstanding s ++ [s.trace.requestsMade]) := by
      refine List.Perm.trans ?_ (hs.symm.append_right _)
      rw [List.append_assoc, List.append_assoc]
      exact (List.perm_append_comm).append_left _
    rw [List.range_succ]
    refine ((ht.trans hadded).append_left _).trans ?_
    rw [← List.append_assoc]
    exact h.accounted.append_right _

/-- **A ping that draws the transaction id of an outstanding request** loses
that request: it is overwritten in the map, and nothing deletes it. -/
theorem pingConnection_lost (h : Intact s) (hmade : id ∈ s.made) {requestId : String} {r : StunRequest}
    (hmem : r ∈ (s.heap id).requests) (hid : r.id = requestId) (now : ℤ) :
    let t := s.pingConnection id requestId now
    (t.trace.released ++ outstanding t).length < t.trace.requestsMade := by
  obtain ⟨rest, hs, ht⟩ := pingConnection_accounts h hmade requestId now
  have hlive : id ∉ s.destroyed := by simp [h.destroyed]
  dsimp only
  have hbooks : (s.pingConnection id requestId now).trace.released = s.trace.released ∧
      (s.pingConnection id requestId now).trace.requestsMade = s.trace.requestsMade + 1 := by
    rw [pingConnection_of_live hlive]
    exact ⟨rfl, rfl⟩
  have hlost : ((s.heap id).requests.filter (·.id ≠ requestId)).length <
      (s.heap id).requests.length := by
    refine List.length_filter_lt_length_iff_exists.2 ⟨r, hmem, ?_⟩
    simp [hid]
  have hbefore := h.accounted.length_eq
  have hlength := hs.length_eq
  have hlength' := ht.length_eq
  unfold serials at hlength
  simp only [List.length_append, List.length_map, List.length_range, List.length_singleton]
    at hbefore hlength hlength' ⊢
  rw [hbooks.1, hbooks.2]
  omega

theorem markConnectionPinged_intact (h : Intact s) (hmem : id ∈ s.controller.connections) :
    Intact { s with controller := s.controller.markConnectionPinged id } := by
  obtain ⟨hconnections, hselected⟩ := markConnectionPinged_same s.controller id
  refine h.of_books ⟨rfl, rfl, rfl, rfl, .of_eq hconnections, rfl, rfl, List.suffix_rfl⟩
    (fun _ => rfl) rfl ⟨h.agreed.registry.markConnectionPinged hmem, ?_, ?_, ?_, h.agreed.observed⟩
  · intro j hj
    exact h.agreed.made j (hconnections ▸ hj)
  · exact hselected.trans h.agreed.same
  · intro j hj
    exact hconnections ▸ h.agreed.selected j hj

theorem changePingInterval_intact (h : Intact s) (pingInterval : ℤ) :
    Intact (s.changePingInterval pingInterval) := by
  have hagreed := (changePingInterval_keeps s pingInterval).agreed h.agreed
  unfold changePingInterval at hagreed ⊢
  split
  · rename_i hne
    rw [if_pos hne] at hagreed
    exact h.of_books ⟨rfl, rfl, rfl, rfl, .refl _, rfl, rfl, List.suffix_rfl⟩ (fun _ => rfl) rfl hagreed
  · exact h

theorem pingChosen_intact (h : Intact s) {conn : Option ℕ} {requestId : String}
    (hconn : ∀ id, conn = some id → id ∈ s.controller.connections)
    (hfresh : ∀ id, conn = some id → ∀ r ∈ (s.heap id).requests, r.id ≠ requestId) (now : ℤ) :
    Intact (s.pingChosen conn requestId now) := by
  cases conn with
  | none => exact h
  | some id =>
    have hmade : id ∈ s.made := h.connections.mem_iff.1 (hconn id rfl)
    refine markConnectionPinged_intact (pingConnection_intact h hmade (hfresh id rfl) now) ?_
    have hlive : id ∉ s.destroyed := by simp [h.destroyed]
    rw [pingConnection_of_live hlive]
    exact hconn id rfl

/-- The connection that a tick is going to ping. -/
def pinged (s : IceTransportChannel) (now : ℤ) : Option ℕ :=
  ((s.updateConnectionStates now).selectConnectionToPing now).2.conn

/-- No connection dies in a tick, and its ping draws a transaction id that
no outstanding request of the connection has. -/
def TickSurvives (s : IceTransportChannel) (requestId : String) (now : ℤ) : Prop :=
  (∀ id ∈ s.controller.connections, (s.heap id).diesAt now = false) ∧
    ∀ id, pinged s now = some id → ∀ r ∈ (s.heap id).requests, r.id ≠ requestId

theorem onCheckAndPing_intact (h : Intact s) {requestId : String}
    (hsurvives : TickSurvives s requestId now) : Intact (s.onCheckAndPing requestId now) := by
  obtain ⟨hupdated, hrequests⟩ :=
    foldl_updateState_intact h h.agreed.registry.connections hsurvives.1
  have hselected := selectConnectionToPing_intact hupdated now
  refine changePingInterval_intact (pingChosen_intact hselected (fun id hid => ?_) (fun id hid => ?_)
    now) _
  · exact selectConnectionToPing_registered hupdated.agreed hid
  · rw [(selectConnectionToPing_books _ now).2, hrequests]
    exact hsurvives.2 id hid

theorem use_deadUses (s : IceTransportChannel) (id : ℕ) :
    s.trace.deadUses <:+ (s.use id).trace.deadUses := (use_onlySelects s id).deadUses

theorem onCheckAndPing_deadUses (s : IceTransportChannel) (requestId : String) (now : ℤ) :
    (s.updateConnectionStates now).trace.deadUses <:+
      (s.onCheckAndPing requestId now).trace.deadUses := by
  let u := s.updateConnectionStates now
  have hselect := (selectConnectionToPing_books u now).1.deadUses
  have hping : (u.selectConnectionToPing now).1.trace.deadUses <:+
      ((u.selectConnectionToPing now).1.pingChosen (u.selectConnectionToPing now).2.conn requestId
        now).trace.deadUses := by
    unfold pingChosen
    cases (u.selectConnectionToPing now).2.conn with
    | none => exact List.suffix_rfl
    | some id => exact use_deadUses { (u.selectConnectionToPing now).1 with lastPingSentMs := now } id
  unfold onCheckAndPing changePingInterval
  dsimp only
  split
  · exact hselect.trans hping
  · exact hselect.trans hping

/-- A tick that does not survive uses a destroyed connection, or loses a
request. -/
theorem onCheckAndPing_not_released (h : Intact s) {requestId : String}
    (hnot : ¬ TickSurvives s requestId now) : ¬ Released (s.onCheckAndPing requestId now) := by
  intro hreleased
  have hnodup := h.agreed.registry.connections
  have hlive : ∀ id ∈ s.controller.connections, (s.heap id).diesAt now = false := by
    intro id hid
    by_contra hdies
    rw [Bool.not_eq_false] at hdies
    have hused := foldl_updateState_of_dies hnodup hid hdies
    exact (onCheckAndPing_deadUses s requestId now).ne_nil hused hreleased.unused
  have hfresh : ¬ ∀ id, pinged s now = some id → ∀ r ∈ (s.heap id).requests, r.id ≠ requestId :=
    fun hfresh => hnot ⟨hlive, hfresh⟩
  simp only [not_forall, not_not] at hfresh
  obtain ⟨id, hconn, r, hr, hid⟩ := hfresh
  obtain ⟨hupdated, hrequests⟩ := foldl_updateState_intact h hnodup hlive
  let u := s.updateConnectionStates now
  have hselected : Intact (u.selectConnectionToPing now).1 := selectConnectionToPing_intact hupdated now
  have hmem := selectConnectionToPing_registered hupdated.agreed hconn
  have hmade : id ∈ (u.selectConnectionToPing now).1.made := hselected.connections.mem_iff.1 hmem
  have hr' : r ∈ ((u.selectConnectionToPing now).1.heap id).requests := by
    rw [(selectConnectionToPing_books u now).2]
    exact (hrequests id).symm ▸ hr
  have hlost := pingConnection_lost hselected hmade hr' hid now
  -- the rest of the tick has no part in the accounts
  have haccounts : (s.onCheckAndPing requestId now).trace =
      ((u.selectConnectionToPing now).1.pingConnection id requestId now).trace ∧
      outstanding (s.onCheckAndPing requestId now) =
        outstanding ((u.selectConnectionToPing now).1.pingConnection id requestId now) := by
    have hconn' : (u.selectConnectionToPing now).2.conn = some id := hconn
    unfold onCheckAndPing changePingInterval
    dsimp only
    split <;>
    · show (pingChosen _ (u.selectConnectionToPing now).2.conn requestId now).trace = _ ∧
        outstanding (pingChosen _ (u.selectConnectionToPing now).2.conn requestId now) = _
      rw [hconn']
      exact ⟨rfl, rfl⟩
  have hlength := hreleased.accounted.length_eq
  rw [haccounts.1, haccounts.2, List.length_range] at hlength
  omega

/-! ## The end of the channel -/

/-- What a channel can reach while it destroys its connections. The
controller may keep the connection that was selected: it is not asked any
more once none is. -/
structure Ending (s : IceTransportChannel) : Prop where
  nodup : s.controller.connections.Nodup
  registered : ∀ id ∈ s.controller.connections, id ∉ s.destroyed
  selected : ∀ id, s.selectedConnection = some id →
    s.controller.selectedConnection = some id ∧ id ∉ s.destroyed

/-- A connection is taken out: what is then reached is alive, and is not it. -/
theorem onConnectionDestroyed_ending (h : Ending s) (hlive : id ∉ s.destroyed) (now : ℤ) :
    let t := s.onConnectionDestroyed id now
    t.trace.deadUses = s.trace.deadUses ∧
      ∀ j, t.selectedConnection = some j →
        t.controller.selectedConnection = some j ∧ j ∉ s.destroyed ∧ j ≠ id := by
  let v := { s with controller := s.controller.onConnectionDestroyed id }
  have hregistered : ∀ j ∈ v.controller.connections, j ∉ s.destroyed :=
    fun j hj => h.registered j (List.mem_of_mem_erase hj)
  unfold onConnectionDestroyed
  dsimp only
  split
  · rename_i hsel
    have hv : Live v := by
      refine ⟨hregistered, fun j hj => ?_, fun j hj => (h.selected j hj).2⟩
      obtain rfl : id = j := Option.some.inj ((h.selected id hsel).1.symm.trans hj)
      exact hlive
    have hswitch := switchSelectedConnection_switched v none
    have hw := hv.switched hswitch fun j hj => by cases hj
    have hsorted := sortConnectionsAndUpdateState_reselected (v.switchSelectedConnection none) now
    refine ⟨(sortConnectionsAndUpdateState_unharmed hw now).deadUses.trans
      (switchSelectedConnection_deadUses hv none fun j hj => by cases hj), fun j hj => ?_⟩
    rw [hsorted.selected, hswitch.selected, Option.or_none] at hj
    have hmem := worthSwitching_mem hj
    rw [hswitch.controller] at hmem
    refine ⟨by rw [hsorted.controller, hj, Option.some_or], hregistered j hmem, ?_⟩
    exact ((h.nodup.mem_erase_iff).1 hmem).1
  · rename_i hne
    have hnoted := updateState_noted v
    refine ⟨updateState_deadUses hregistered fun j hj => (h.selected j hj).2, fun j hj => ?_⟩
    rw [hnoted.selected] at hj
    rw [hnoted.controller]
    refine ⟨(h.selected j hj).1, (h.selected j hj).2, ?_⟩
    rintro rfl
    exact hne hj

theorem destroy_ending (h : Ending s) (hlive : id ∉ s.destroyed) (now : ℤ) :
    Ending (destroy s id now) ∧ (destroy s id now).trace.deadUses = s.trace.deadUses := by
  have hends := destroy_ends s id now
  have huse : s.use id = s := use_of_not_mem hlive
  obtain ⟨hdead, hselected⟩ := onConnectionDestroyed_ending h hlive now
  refine ⟨⟨hends.connections.nodup_iff.2 (h.nodup.erase id), fun j hj => ?_, fun j hj => ?_⟩, ?_⟩
  · obtain ⟨hne, hmem⟩ := (h.nodup.mem_erase_iff).1 (hends.connections.mem_iff.1 hj)
    rw [hends.destroyed, List.mem_cons, not_or]
    exact ⟨hne, h.registered j hmem⟩
  · have hj' : ((s.use id).onConnectionDestroyed id now).selectedConnection = some j := hj
    rw [huse] at hj'
    obtain ⟨hcontroller, hout, hne⟩ := hselected j hj'
    rw [hends.destroyed, List.mem_cons, not_or]
    refine ⟨?_, hne, hout⟩
    show ((s.use id).onConnectionDestroyed id now).controller.selectedConnection = some j
    rw [huse]
    exact hcontroller
  · show ((s.use id).onConnectionDestroyed id now).trace.deadUses = _
    rw [huse]
    exact hdead

/-- The requests of a destroyed connection are deleted, once. -/
theorem destroy_accounted (hnodup : s.made.Nodup) (hmade : id ∈ s.made)
    (haccounted : (s.trace.released ++ outstanding s).Perm (List.range s.trace.requestsMade))
    (now : ℤ) :
    let t := destroy s id now
    (t.trace.released ++ outstanding t).Perm (List.range t.trace.requestsMade) := by
  have hends := destroy_ends s id now
  obtain ⟨rest, hs, ht⟩ := outstanding_split (s := s) hends.made hnodup hmade fun j hj => by
    have hrequests := congrArg IceConnection.requests (hends.others j hj)
    exact congrArg (List.map StunRequest.serial) hrequests
  have hnone : serials (destroy s id now) id = [] := by
    unfold serials
    rw [hends.requests]
    rfl
  dsimp only
  rw [hends.released, hends.requestsMade, List.append_assoc]
  refine List.Perm.trans (List.Perm.append_left _ ?_) haccounted
  rw [hnone] at ht
  exact (ht.append_left _).trans hs.symm

theorem foldl_destroy_ending (h : Ending s) (hnodup : s.made.Nodup)
    (hids : ids.Nodup) (hlive : ∀ id ∈ ids, id ∉ s.destroyed) (hmade : ∀ id ∈ ids, id ∈ s.made)
    (haccounted : (s.trace.released ++ outstanding s).Perm (List.range s.trace.requestsMade))
    (now : ℤ) :
    let t := ids.foldl (fun ch id => destroy ch id now) s
    t.trace.deadUses = s.trace.deadUses ∧ t.made = s.made ∧
      (t.trace.released ++ outstanding t).Perm (List.range t.trace.requestsMade) ∧
      ∀ j, j ∈ ids ∨ serials s j = [] → serials t j = [] := by
  induction ids generalizing s with
  | nil => exact ⟨rfl, rfl, haccounted, fun j hj => hj.resolve_left List.not_mem_nil⟩
  | cons id ids ih =>
    obtain ⟨hout, hids⟩ := List.nodup_cons.1 hids
    have hends := destroy_ends s id now
    obtain ⟨hending, hdead⟩ := destroy_ending h (hlive id List.mem_cons_self) now
    have hlive' : ∀ j ∈ ids, j ∉ (destroy s id now).destroyed := by
      intro j hj
      rw [hends.destroyed, List.mem_cons, not_or]
      refine ⟨?_, hlive j (List.mem_cons_of_mem id hj)⟩
      rintro rfl
      exact hout hj
    obtain ⟨hdead', hmade', haccounted', hserials⟩ := ih hending (hends.made ▸ hnodup) hids hlive'
      (fun j hj => hends.made ▸ hmade j (List.mem_cons_of_mem id hj))
      (destroy_accounted hnodup (hmade id List.mem_cons_self) haccounted now)
    refine ⟨hdead'.trans hdead, hmade'.trans hends.made, haccounted', fun j hj => hserials j ?_⟩
    by_cases hjd : j = id
    · right
      unfold serials
      rw [hjd, hends.requests]
      rfl
    · rcases hj with hmem | hnone
      · exact .inl ((List.mem_cons.1 hmem).resolve_left hjd)
      · right
        have hrequests := congrArg IceConnection.requests (hends.others j hjd)
        exact (congrArg (List.map StunRequest.serial) hrequests).trans hnone

/-- **The end of a channel** destroys every connection, deletes every
request, and uses nothing after it has been destroyed. -/
theorem destroyChannel_released (h : Intact s) (now : ℤ) : Released (s.destroyChannel now) := by
  have hending : Ending { s with timer := none } := by
    refine ⟨h.agreed.registry.connections, fun id _ => ?_, fun id hid => ⟨h.agreed.same.trans hid, ?_⟩⟩
    · simp [h.destroyed]
    · simp [h.destroyed]
  obtain ⟨hdead, hmade, haccounted, hserials⟩ := foldl_destroy_ending hending h.nodup
    h.agreed.registry.connections (fun id _ => by simp [h.destroyed]) h.agreed.made h.accounted now
  refine ⟨hdead.trans h.unused, haccounted, fun _ => ?_⟩
  refine List.flatMap_eq_nil_iff.2 fun j hj => hserials j (.inl ?_)
  exact h.connections.mem_iff.2 (hmade ▸ hj)

/-! ## Runs -/

/-- **Nothing but the end of the channel destroys a connection**, and no
ping draws the transaction id of an outstanding request. -/
def Survives (s : IceTransportChannel) : ChannelEvent → Prop
  | .datagram portIndex addr packet _ _ => ∀ port id, s.ports[portIndex]? = some port →
      port.getConnection addr = some id → ¬ (s.heap id).Fatal packet
  | .tick requestId now => TickSurvives s requestId now
  | .setRemoteIceParams .. | .sendPacket | .destroyChannel _ => True

variable {e : ChannelEvent}

theorem Intact.released (h : Intact s) : Released s where
  unused := h.unused
  accounted := h.accounted
  ended := by
    intro hclosed
    rw [h.opened] at hclosed
    cases hclosed

theorem getConnection_mem (h : Intact s) {portIndex : ℕ} {port : UDPPort} {addr : SocketAddress}
    (hport : s.ports[portIndex]? = some port) (haddr : port.getConnection addr = some id) :
    id ∈ s.made := by
  obtain ⟨pre, post, hlist, -⟩ := List.lookup_eq_some_iff.1 haddr
  have hentry : (addr, id) ∈ port.connections := by simp [hlist]
  exact h.ports port (List.mem_of_getElem? hport) (addr, id) hentry

/-- **A step that destroys no connection** keeps the channel intact, and the
end of the channel releases everything. -/
theorem step_released (h : Intact s) (hstep : s.step movingAverage e = some t)
    (hsurvives : Survives s e) : Released t ∧ (t.closed = true ∨ Intact t) := by
  have hkept : Intact t → Released t ∧ (t.closed = true ∨ Intact t) :=
    fun ht => ⟨ht.released, .inr ht⟩
  cases handled_of_step hstep with
  | known packet now hport haddr =>
    exact hkept (((onReadPacket_answered movingAverage s _ packet now).lifetime h
      (getConnection_mem h hport haddr)).1 (hsurvives _ _ hport haddr))
  | stranger remoteUfrag priority now hport haddr hnew =>
    exact hkept (onUnknownAddress_intact h hport haddr hnew remoteUfrag priority now)
  | dropped => exact hkept h
  | params params now => exact hkept (setRemoteIceParams_intact h params now)
  | ticked requestId now htimer => exact hkept (onCheckAndPing_intact h hsurvives)
  | sent =>
    refine hkept ?_
    unfold sendPacket
    rw [useAll_of_none h.destroyed]
    exact h
  | ended now => exact ⟨destroyChannel_released h now, .inl rfl⟩

theorem step_not_released (h : Intact s) (hstep : s.step movingAverage e = some t)
    (hnot : ¬ Survives s e) : ¬ Released t := by
  cases e with
  | datagram portIndex addr packet id now =>
    simp only [Survives, not_forall, not_not] at hnot
    obtain ⟨port, conn, hport, haddr, hfatal⟩ := hnot
    obtain rfl := step_known hport haddr hstep
    intro hreleased
    exact ((onReadPacket_answered movingAverage s conn packet now).lifetime h
      (getConnection_mem h hport haddr)).2 hfatal hreleased.unused
  | tick requestId now =>
    obtain rfl := step_ticked hstep
    exact onCheckAndPing_not_released h hnot
  | setRemoteIceParams params now => exact absurd trivial hnot
  | sendPacket => exact absurd trivial hnot
  | destroyChannel now => exact absurd trivial hnot

theorem intact_init (localPriorities : List UInt32) : Intact (.init localPriorities) where
  agreed := agreed_init localPriorities
  opened := rfl
  connections := .refl _
  ports := by
    intro port hport entry hentry
    obtain ⟨priority, -, rfl⟩ := List.mem_map.1 hport
    cases hentry
  destroyed := rfl
  unused := rfl
  ids := fun _ => .nil
  accounted := .refl _

/-- **Nothing that has been destroyed is used, and every request is deleted
exactly once, in every step of a run, exactly when no event of it destroys a
connection before the channel ends or repeats the transaction id of an
outstanding request.** -/
theorem released_iff (movingAverage : ℤ → ℤ → ℤ → ℤ) (localPriorities : List UInt32)
    (es : List ChannelEvent) :
    Common.EveryStep (IceTransportChannel.step movingAverage) (fun _ _ t => Released t)
        (.init localPriorities) es ↔
      Common.EveryStep (IceTransportChannel.step movingAverage) (fun s e _ => Survives s e)
        (.init localPriorities) es := by
  -- nothing happens to a channel that has ended
  have hopen : ∀ s e t, s.closed = true ∨ Intact s → s.step movingAverage e = some t → Intact s := by
    rintro s e t (hclosed | h) hs
    · rw [open_of_step hs] at hclosed
      cases hclosed
    · exact h
  have hstep : ∀ s e t, s.closed = true ∨ Intact s → s.step movingAverage e = some t →
      (Released t ↔ Survives s e) := by
    intro s e t h hs
    constructor
    · intro hreleased
      by_contra hnot
      exact step_not_released (hopen s e t h hs) hs hnot hreleased
    · intro hsurvives
      exact (step_released (hopen s e t h hs) hs hsurvives).1
  refine Common.everyStep_iff_of_inv (I := fun s => s.closed = true ∨ Intact s) hstep ?_
    (.inr (intact_init localPriorities))
  intro s e t h hs hreleased
  exact (step_released (hopen s e t h hs) hs ((hstep s e t h hs).1 hreleased)).2

/-- A peer sends a request and is pinged once. -/
def unansweredRun : List ChannelEvent :=
  [.setRemoteIceParams ⟨"peer", "secret"⟩ 900,
    .datagram 0 ⟨0x0A000001, 5000⟩ (.request "peer" (some 1)) 0 1000, .tick "first" 1100]

/-- **A connection that times out is used after it has been destroyed.** -/
theorem timed_out_connection_used :
    ¬ Common.EveryStep (IceTransportChannel.step getNextMovingAverage) (fun _ _ t => Released t)
      (.init [1]) (unansweredRun ++ [.tick "second" 16200]) := by
  intro h
  have hused : ((Common.run (IceTransportChannel.step getNextMovingAverage) (.init [1])
      unansweredRun).bind fun s => (s.step getNextMovingAverage (.tick "second" 16200)).map fun t =>
        t.trace.deadUses) = some [0] := by
    decide +kernel
  obtain ⟨s, hs, hused⟩ := Option.bind_eq_some_iff.1 hused
  obtain ⟨t, ht, hdead⟩ := Option.map_eq_some_iff.1 hused
  rw [(Common.everyStep_last h hs ht).unused] at hdead
  cases hdead

end Ice

end XrtcServer
