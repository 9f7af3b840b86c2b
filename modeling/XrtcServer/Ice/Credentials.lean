import XrtcServer.Ice.OneSelected
/-!
# The answer among the Binding Requests

The remote password comes with the answer and the user names with the
Binding Requests, in any order. `_on_unknown_address` gives a new connection
the password it has, and `set_remote_ice_params` fills it in afterwards; only
the second looks at the user name. `Arrived` says what a channel has of the
requests so far, `credentials_commute_iff` when the order does not matter.
-/

namespace XrtcServer

namespace Ice

open Common IceTransportChannel IceConnection

variable {s t : IceTransportChannel} {i id n : ℕ} {ids : List ℕ} {now : ℤ}

/-! ## The stored parameters -/

theorem use_params (s : IceTransportChannel) (id : ℕ) :
    (s.use id).remoteIceParams = s.remoteIceParams := by
  unfold use
  split <;> rfl

theorem useAll_params (s : IceTransportChannel) (ids : List ℕ) :
    (s.useAll ids).remoteIceParams = s.remoteIceParams := by
  induction ids generalizing s with
  | nil => rfl
  | cons id ids ih => exact (ih (s.use id)).trans (use_params s id)

theorem setWritable_params (s : IceTransportChannel) (writable : Bool) :
    (s.setWritable writable).remoteIceParams = s.remoteIceParams := by
  unfold setWritable
  split <;> rfl

theorem setReceiving_params (s : IceTransportChannel) (receiving : Bool) :
    (s.setReceiving receiving).remoteIceParams = s.remoteIceParams := by
  unfold setReceiving
  split <;> rfl

theorem updateState_params (s : IceTransportChannel) :
    s.updateState.remoteIceParams = s.remoteIceParams := by
  have hflags : ∀ ids w ids' r,
      ((((s.useAll ids).setWritable w).useAll ids').setReceiving r).remoteIceParams =
        s.remoteIceParams := by
    intro ids w ids' r
    rw [setReceiving_params, useAll_params, setWritable_params, useAll_params]
  unfold IceTransportChannel.updateState
  dsimp only
  split
  · exact hflags ..
  · exact hflags ..

theorem switchSelectedConnection_params (s : IceTransportChannel) (conn : Option ℕ) :
    (s.switchSelectedConnection conn).remoteIceParams = s.remoteIceParams := by
  have hset : ∀ (s : IceTransportChannel) id selected,
      (s.setSelected id selected).remoteIceParams = s.remoteIceParams :=
    fun s id _ => use_params s id
  unfold switchSelectedConnection
  dsimp only
  cases s.selectedConnection with
  | none =>
    cases conn with
    | none => rfl
    | some id => exact hset _ id true
  | some old =>
    cases conn with
    | none => exact hset _ old false
    | some id => exact (hset _ id true).trans (hset _ old false)

theorem sortConnectionsAndUpdateState_params (s : IceTransportChannel) (now : ℤ) :
    (s.sortConnectionsAndUpdateState now).remoteIceParams = s.remoteIceParams := by
  have hpinging : ∀ t : IceTransportChannel,
      (t.maybeStartPinging now).remoteIceParams = t.remoteIceParams := by
    intro t
    unfold maybeStartPinging
    split
    · rfl
    · dsimp only
      split <;> exact useAll_params ..
  have hsort : s.sortAndSwitchConnection.1.remoteIceParams = s.remoteIceParams :=
    (useAll_params ..).trans (useAll_params ..)
  unfold sortConnectionsAndUpdateState maybeSwitchSelectedConnection
  dsimp only
  rw [hpinging, updateState_params]
  split
  · exact hsort
  · exact (switchSelectedConnection_params ..).trans hsort

/-! ## Requests -/

/-- A Binding Request that has been accepted, from an address of its own. -/
structure BindingRequest where
  port : ℕ
  addr : SocketAddress
  remoteUfrag : String
  priority : Option UInt32
  id : ℕ
  now : ℤ

def BindingRequest.event (r : BindingRequest) : ChannelEvent :=
  .datagram r.port r.addr (.request r.remoteUfrag r.priority) r.id r.now

/-- Distinct new addresses, on the ports of the channel, and the objects made
for them. -/
structure Distinct (n : ℕ) (requests : List BindingRequest) : Prop where
  ports : ∀ r ∈ requests, r.port < n
  addresses : (requests.map fun r => (r.port, r.addr)).Nodup
  objects : (requests.map BindingRequest.id).Nodup

/-- The requests with the answer after the first `k` of them. -/
def arrivals (params : IceParameters) (answered : ℤ) (k : ℕ) (requests : List BindingRequest) :
    List ChannelEvent :=
  (requests.take k).map BindingRequest.event ++ .setRemoteIceParams params answered ::
    (requests.drop k).map BindingRequest.event

/-- The password that belongs to a request: that of the answer where the
user names are the same. -/
def BindingRequest.password (r : BindingRequest) (params : IceParameters) : String :=
  if r.remoteUfrag = params.iceUfrag then params.icePwd else ""

/-- **The order of the answer and the requests does not matter**: wherever
the answer comes, every connection ends up with the user name of its request
and the password that belongs to it. -/
def Commutes (movingAverage : ℤ → ℤ → ℤ → ℤ) (localPriorities : List UInt32) (params : IceParameters)
    (requests : List BindingRequest) : Prop :=
  ∀ k answered, ∃ t, run (IceTransportChannel.step movingAverage) (.init localPriorities)
      (arrivals params answered k requests) = some t ∧
    ∀ r ∈ requests, r.priority ≠ none → (t.heap r.id).remoteCandidate.username = r.remoteUfrag ∧
      (t.heap r.id).remoteCandidate.password = r.password params

/-! ## What has arrived -/

/-- **What a channel has of the requests so far**, each with the password its
connection has been given. -/
structure Arrived (n : ℕ) (s : IceTransportChannel) (done : List (BindingRequest × String)) : Prop where
  opened : s.closed = false
  made : ∀ id ∈ s.made, id ∈ done.map fun p => p.1.id
  registered : ∀ p ∈ done, p.1.priority ≠ none → p.1.id ∈ s.controller.connections
  credentials : ∀ p ∈ done, p.1.priority ≠ none →
    (s.heap p.1.id).remoteCandidate.username = p.1.remoteUfrag ∧
      (s.heap p.1.id).remoteCandidate.password = p.2
  free : ∀ portIndex addr, portIndex < n → (portIndex, addr) ∉ done.map (fun p => (p.1.port, p.1.addr)) →
    ∃ port, s.ports[portIndex]? = some port ∧ port.getConnection addr = none

variable {done : List (BindingRequest × String)} {r : BindingRequest}

theorem candidate_of_unselected {c d : IceConnection} (h : unselected c = unselected d) :
    c.remoteCandidate = d.remoteCandidate := by
  have hcandidate := congrArg IceConnection.remoteCandidate h
  exact hcandidate

/-- Selecting has no part in it. -/
theorem Arrived.onlySelects (h : Arrived n s done) (ht : OnlySelects s t) : Arrived n t done where
  opened := ht.closed.trans h.opened
  made := by
    rw [ht.made]
    exact h.made
  registered := fun p hp hpriority => ht.mem.2 (h.registered p hp hpriority)
  credentials := by
    intro p hp hpriority
    rw [candidate_of_unselected (ht.heap p.1.id)]
    exact h.credentials p hp hpriority
  free := by
    rw [ht.ports]
    exact h.free

/-- The address of a new connection is taken on its port, and no other is. -/
theorem getConnection_insert_ne {port : UDPPort} {addr addr' : SocketAddress} (id : ℕ)
    (hne : addr' ≠ addr) : UDPPort.getConnection { port with
      connections := (addr, id) :: port.connections.filter (·.1 ≠ addr) } addr' =
        port.getConnection addr' := by
  unfold UDPPort.getConnection
  dsimp only
  rw [List.lookup_cons, beq_eq_false_iff_ne.2 hne]
  show List.lookup addr' (port.connections.filter (·.1 ≠ addr)) = _
  induction port.connections with
  | nil => rfl
  | cons p rest ih =>
    by_cases hp : p.1 = addr
    · have hother : (addr' == p.1) = false := by
        rw [hp]
        exact beq_eq_false_iff_ne.2 hne
      rw [List.filter_cons_of_neg (by simpa using hp), ih, List.lookup_cons, hother]
    · rw [List.filter_cons_of_pos (by simpa using hp), List.lookup_cons, List.lookup_cons, ih]

theorem Arrived.taken {portIndex : ℕ} {addr : SocketAddress} {p : BindingRequest × String}
    (h : (portIndex, addr) ∉ (done ++ [p]).map fun p => (p.1.port, p.1.addr)) :
    (portIndex, addr) ∉ done.map (fun p => (p.1.port, p.1.addr)) ∧
      (portIndex, addr) ≠ (p.1.port, p.1.addr) := by
  simp only [List.map_append, List.mem_append, not_or, List.map_cons, List.map_nil,
    List.mem_singleton] at h
  exact h

/-- A new connection is registered, under an address that is then taken. -/
theorem Arrived.newConnection (h : Arrived n s done) {port : UDPPort} {remote : Candidate}
    (hport : s.ports[r.port]? = some port) (haddr : remote.address = r.addr)
    (hfree : port.getConnection remote.address = none) (hid : r.id ∉ done.map fun p => p.1.id)
    (husername : remote.username = r.remoteUfrag) (now : ℤ) :
    Arrived n ((s.createConnection r.port port remote r.id now).addConnection r.id)
      (done ++ [(r, remote.password)]) := by
  rw [createConnection_of_none hfree]
  let c : IceConnection :=
    { port := r.port, localPriority := port.localPriority, remoteCandidate := remote }
  have hself : (s.setConn r.id c).heap r.id = c := setConn_heap_self
  refine ⟨h.opened, fun id hmade => ?_, fun p hp hsome => ?_, fun p hp hsome => ?_,
    fun portIndex addr hlt hout => ?_⟩
  · rw [List.map_append]
    rcases List.mem_cons.1 hmade with rfl | hold
    · exact List.mem_append_right _ (List.mem_singleton_self _)
    · exact List.mem_append_left _ (h.made id hold)
  · rcases List.mem_append.1 hp with hold | hlast
    · exact List.mem_append_left _ (h.registered p hold hsome)
    · rw [List.mem_singleton.1 hlast]
      exact List.mem_append_right _ (List.mem_singleton_self _)
  · show ((s.setConn r.id c).heap p.1.id).remoteCandidate.username = _ ∧
      ((s.setConn r.id c).heap p.1.id).remoteCandidate.password = _
    rcases List.mem_append.1 hp with hold | hlast
    · have hne : p.1.id ≠ r.id := fun heq => hid (heq ▸ List.mem_map_of_mem hold)
      rw [setConn_heap_of_ne hne]
      exact h.credentials p hold hsome
    · rw [List.mem_singleton.1 hlast, hself]
      exact ⟨husername, rfl⟩
  · obtain ⟨hold, hne⟩ := Arrived.taken hout
    obtain ⟨port', hport', hfree'⟩ := h.free portIndex addr hlt hold
    by_cases heq : portIndex = r.port
    · subst heq
      obtain rfl := Option.some.inj (hport.symm.trans hport')
      have hother : addr ≠ remote.address := fun hsame => hne (Prod.ext rfl (hsame.trans haddr))
      have hbound := (List.getElem?_eq_some_iff.1 hport).1
      exact ⟨_, List.getElem?_set_self hbound, (getConnection_insert_ne r.id hother).trans hfree'⟩
    · refine ⟨port', ?_, hfree'⟩
      show (s.ports.set r.port _)[portIndex]? = _
      rw [List.getElem?_set_ne (Ne.symm heq), hport']

/-- A request that makes no connection changes nothing. -/
theorem Arrived.refused (h : Arrived n s done) (hpriority : r.priority = none) (password : String) :
    Arrived n s (done ++ [(r, password)]) := by
  refine ⟨h.opened, fun id hmade => ?_, fun p hp hsome => ?_, fun p hp hsome => ?_,
    fun portIndex addr hlt hout => h.free portIndex addr hlt (Arrived.taken hout).1⟩
  · rw [List.map_append]
    exact List.mem_append_left _ (h.made id hmade)
  · rcases List.mem_append.1 hp with hold | hlast
    · exact h.registered p hold hsome
    · rw [List.mem_singleton.1 hlast] at hsome
      exact absurd hpriority hsome
  · rcases List.mem_append.1 hp with hold | hlast
    · exact h.credentials p hold hsome
    · rw [List.mem_singleton.1 hlast] at hsome
      exact absurd hpriority hsome

/-- **A request from a new address makes a connection** with the password
that is stored. -/
theorem Arrived.request (h : Arrived n s done) (movingAverage : ℤ → ℤ → ℤ → ℤ) (hport : r.port < n)
    (haddr : (r.port, r.addr) ∉ done.map fun p => (p.1.port, p.1.addr))
    (hid : r.id ∉ done.map fun p => p.1.id) :
    ∃ t, s.step movingAverage r.event = some t ∧
      Arrived n t (done ++ [(r, s.remoteIceParams.icePwd)]) ∧
      t.remoteIceParams = s.remoteIceParams := by
  obtain ⟨port, hfound, hfree⟩ := h.free r.port r.addr hport haddr
  have hnew : r.id ∉ s.made := fun hmade => hid (h.made r.id hmade)
  have hopen : ¬ s.closed = true := by
    rw [h.opened]
    exact Bool.false_ne_true
  have hstep : s.step movingAverage r.event =
      some (s.onUnknownAddress r.port port r.addr r.remoteUfrag r.priority r.id r.now) := by
    unfold IceTransportChannel.step BindingRequest.event
    rw [if_neg hopen]
    dsimp only
    rw [if_neg hnew, hfound, Option.map_some]
    unfold IceTransportChannel.onReadPacket
    rw [hfree]
  refine ⟨_, hstep, ?_⟩
  unfold onUnknownAddress
  cases hpriority : r.priority with
  | none => exact ⟨h.refused hpriority _, rfl⟩
  | some priority =>
    let remote : Candidate :=
      { priority := priority, address := r.addr, username := r.remoteUfrag,
        password := s.remoteIceParams.icePwd }
    have hmade : Arrived n ((s.createConnection r.port port remote r.id r.now).addConnection r.id)
        (done ++ [(r, remote.password)]) := h.newConnection hfound rfl hfree hid rfl r.now
    refine ⟨hmade.onlySelects (sortConnectionsAndUpdateState_reselected _ r.now).onlySelects, ?_⟩
    refine (sortConnectionsAndUpdateState_params _ r.now).trans ?_
    rw [createConnection_of_none hfree]
    rfl

/-- **Requests make connections one after the other**, all with the password
that is stored. -/
theorem Arrived.requests (movingAverage : ℤ → ℤ → ℤ → ℤ) (requests : List BindingRequest)
    (h : Arrived n s done) (hdistinct : Distinct n (done.map Prod.fst ++ requests)) :
    ∃ t, run (IceTransportChannel.step movingAverage) s (requests.map BindingRequest.event) = some t ∧
      Arrived n t (done ++ requests.map fun r => (r, s.remoteIceParams.icePwd)) ∧
      t.remoteIceParams = s.remoteIceParams := by
  induction requests generalizing s done with
  | nil => exact ⟨s, rfl, by simpa using h, rfl⟩
  | cons r requests ih =>
    have hport : r.port < n :=
      hdistinct.ports r (List.mem_append_right _ List.mem_cons_self)
    have haddr : (r.port, r.addr) ∉ done.map fun p => (p.1.port, p.1.addr) := by
      have hnodup := hdistinct.addresses
      rw [List.map_append, List.map_map, List.map_cons] at hnodup
      exact fun hin => (List.nodup_append.1 hnodup).2.2 _ hin _ List.mem_cons_self rfl
    have hid : r.id ∉ done.map fun p => p.1.id := by
      have hnodup := hdistinct.objects
      rw [List.map_append, List.map_map, List.map_cons] at hnodup
      exact fun hin => (List.nodup_append.1 hnodup).2.2 _ hin _ List.mem_cons_self rfl
    obtain ⟨t, hstep, harrived, hparams⟩ := h.request movingAverage hport haddr hid
    have hrest : Distinct n ((done ++ [(r, s.remoteIceParams.icePwd)]).map Prod.fst ++ requests) := by
      rw [List.map_append, List.append_assoc]
      exact hdistinct
    obtain ⟨u, hrun, harrived', hparams'⟩ := ih harrived hrest
    refine ⟨u, ?_, ?_, hparams'.trans hparams⟩
    · rw [List.map_cons, run_cons, hstep]
      exact hrun
    · rw [hparams, List.append_assoc] at harrived'
      exact harrived'

/-! ## The answer -/

/-- The password that the answer makes of one. -/
def fill (params : IceParameters) (username password : String) : String :=
  if username = params.iceUfrag ∧ password = "" then params.icePwd else password

theorem fill_fill (params : IceParameters) (username password : String) :
    fill params username (fill params username password) = fill params username password := by
  unfold fill
  by_cases hmatch : username = params.iceUfrag ∧ password = ""
  · rw [if_pos hmatch]
    split <;> rfl
  · rw [if_neg hmatch, if_neg hmatch]

theorem maybeSetRemoteIceParams_candidate (c : IceConnection) (params : IceParameters) :
    (c.maybeSetRemoteIceParams params).remoteCandidate.username = c.remoteCandidate.username ∧
      (c.maybeSetRemoteIceParams params).remoteCandidate.password =
        fill params c.remoteCandidate.username c.remoteCandidate.password := by
  unfold maybeSetRemoteIceParams fill
  by_cases hmatch : c.remoteCandidate.username = params.iceUfrag ∧ c.remoteCandidate.password = ""
  · rw [if_pos (by simpa using hmatch), if_pos hmatch]
    exact ⟨rfl, rfl⟩
  · rw [if_neg (by simpa using hmatch), if_neg hmatch]
    exact ⟨rfl, rfl⟩

/-- What the loop over the registered connections leaves. -/
structure FilledIn (params : IceParameters) (ids : List ℕ) (s t : IceTransportChannel) : Prop
    extends SameBooks s t where
  stored : t.remoteIceParams = s.remoteIceParams
  username : ∀ j, (t.heap j).remoteCandidate.username = (s.heap j).remoteCandidate.username
  password : ∀ j ∈ ids, (t.heap j).remoteCandidate.password =
    fill params (s.heap j).remoteCandidate.username (s.heap j).remoteCandidate.password
  others : ∀ j, j ∉ ids →
    (t.heap j).remoteCandidate.password = (s.heap j).remoteCandidate.password

theorem fillIn_one (params : IceParameters) (s : IceTransportChannel) (id : ℕ) :
    FilledIn params [id] s
      ((s.use id).setConn id ((s.heap id).maybeSetRemoteIceParams params)) := by
  have hrequests : ((s.heap id).maybeSetRemoteIceParams params).requests = (s.heap id).requests := by
    unfold maybeSetRemoteIceParams
    split <;> rfl
  have hheap := (use_noted s id).heap
  obtain ⟨husername, hpassword⟩ := maybeSetRemoteIceParams_candidate (s.heap id) params
  refine ⟨(rewrite_touches s id _ hrequests).toSameBooks, use_params s id, fun j => ?_, fun j hj => ?_,
    fun j hj => ?_⟩
  · by_cases hj : j = id
    · rw [hj, setConn_heap_self, husername]
    · rw [setConn_heap_of_ne hj, hheap]
  · rw [List.mem_singleton.1 hj, setConn_heap_self, hpassword]
  · rw [setConn_heap_of_ne fun heq => hj (List.mem_singleton.2 heq), hheap]

theorem fillIn_all (params : IceParameters) (s : IceTransportChannel) (ids : List ℕ) :
    FilledIn params ids s (ids.foldl (fun ch id =>
      (ch.use id).setConn id ((ch.heap id).maybeSetRemoteIceParams params)) s) := by
  induction ids generalizing s with
  | nil => exact ⟨.refl s, rfl, fun _ => rfl, fun _ hj => absurd hj List.not_mem_nil, fun _ _ => rfl⟩
  | cons id ids ih =>
    have hone := fillIn_one params s id
    have hall := ih ((s.use id).setConn id ((s.heap id).maybeSetRemoteIceParams params))
    refine ⟨hone.toSameBooks.trans hall.toSameBooks, hall.stored.trans hone.stored,
      fun j => (hall.username j).trans (hone.username j), fun j hj => ?_, fun j hj => ?_⟩
    · -- a connection that comes twice is filled in once
      by_cases hlater : j ∈ ids
      · refine (hall.password j hlater).trans ?_
        rw [hone.username]
        by_cases hid : j = id
        · rw [hone.password j (List.mem_singleton.2 hid), fill_fill]
        · rw [hone.others j fun hin => hid (List.mem_singleton.1 hin)]
      · have hid : j = id := (List.mem_cons.1 hj).resolve_right hlater
        exact (hall.others j hlater).trans (hone.password j (List.mem_singleton.2 hid))
    · obtain ⟨hid, hlater⟩ := not_or.1 (mt List.mem_cons.2 hj)
      exact (hall.others j hlater).trans (hone.others j fun hin => hid (List.mem_singleton.1 hin))

/-- **The answer fills in the passwords** of the connections that have come
with its user name. -/
theorem Arrived.answer (h : Arrived n s done) (movingAverage : ℤ → ℤ → ℤ → ℤ)
    (params : IceParameters) (answered : ℤ) :
    ∃ t, s.step movingAverage (.setRemoteIceParams params answered) = some t ∧
      Arrived n t (done.map fun p => (p.1, fill params p.1.remoteUfrag p.2)) ∧
      t.remoteIceParams = params := by
  have hopen : ¬ s.closed = true := by
    rw [h.opened]
    exact Bool.false_ne_true
  refine ⟨s.setRemoteIceParams params answered, if_neg hopen, ?_⟩
  have hall := fillIn_all params { s with remoteIceParams := params } s.controller.connections
  unfold setRemoteIceParams
  refine ⟨Arrived.onlySelects ?_ (sortConnectionsAndUpdateState_reselected _ answered).onlySelects,
    (sortConnectionsAndUpdateState_params _ answered).trans hall.stored⟩
  have hids : (done.map fun p => (p.1, fill params p.1.remoteUfrag p.2)).map (fun p => p.1.id) =
      done.map fun p => p.1.id := by
    rw [List.map_map]
    rfl
  have haddrs : (done.map fun p => (p.1, fill params p.1.remoteUfrag p.2)).map
      (fun p => (p.1.port, p.1.addr)) = done.map fun p => (p.1.port, p.1.addr) := by
    rw [List.map_map]
    rfl
  refine ⟨hall.closed.trans h.opened, fun id hmade => ?_, fun q hq hpriority => ?_,
    fun q hq hpriority => ?_, fun portIndex addr hlt hout => ?_⟩
  · rw [hids]
    exact h.made id (hall.made ▸ hmade)
  · obtain ⟨p, hp, rfl⟩ := List.mem_map.1 hq
    exact hall.mem.2 (h.registered p hp hpriority)
  · obtain ⟨p, hp, rfl⟩ := List.mem_map.1 hq
    obtain ⟨husername, hpassword⟩ := h.credentials p hp hpriority
    have hfilled := hall.password p.1.id (h.registered p hp hpriority)
    refine ⟨(hall.username p.1.id).trans husername, hfilled.trans ?_⟩
    show fill params (s.heap p.1.id).remoteCandidate.username
      (s.heap p.1.id).remoteCandidate.password = _
    rw [husername, hpassword]
  · rw [haddrs] at hout
    rw [hall.ports]
    exact h.free portIndex addr hlt hout

theorem arrived_init (localPriorities : List UInt32) :
    Arrived localPriorities.length (.init localPriorities) [] where
  opened := rfl
  made := fun _ hmade => absurd hmade List.not_mem_nil
  registered := fun _ hp => absurd hp List.not_mem_nil
  credentials := fun _ hp => absurd hp List.not_mem_nil
  free := by
    intro portIndex addr hlt _
    refine ⟨{ localPriority := localPriorities[portIndex] }, ?_, rfl⟩
    show (localPriorities.map _)[portIndex]? = _
    rw [List.getElem?_map, List.getElem?_eq_getElem hlt]
    rfl

/-- **The passwords after all has arrived**: the requests before the answer
have the one that belongs to them, those after it have the answer's. -/
theorem run_arrivals (movingAverage : ℤ → ℤ → ℤ → ℤ) {localPriorities : List UInt32}
    {requests : List BindingRequest} (h : Distinct localPriorities.length requests)
    (params : IceParameters) (answered : ℤ) (k : ℕ) :
    ∃ t, run (IceTransportChannel.step movingAverage) (.init localPriorities)
        (arrivals params answered k requests) = some t ∧
      Arrived localPriorities.length t ((requests.take k).map (fun r => (r, r.password params)) ++
        (requests.drop k).map fun r => (r, params.icePwd)) := by
  have hsplit : requests.take k ++ requests.drop k = requests := List.take_append_drop k requests
  have hbefore : Distinct localPriorities.length (requests.take k) := by
    refine ⟨fun r hr => h.ports r (List.mem_of_mem_take hr), ?_, ?_⟩
    · rw [List.map_take]
      exact h.addresses.sublist (List.take_sublist ..)
    · rw [List.map_take]
      exact h.objects.sublist (List.take_sublist ..)
  obtain ⟨s, hs, harrived, -⟩ :=
    (arrived_init localPriorities).requests movingAverage (requests.take k) hbefore
  obtain ⟨t, ht, hanswered, hparams⟩ := harrived.answer movingAverage params answered
  have hpatched : ([] ++ (requests.take k).map fun r =>
        (r, (IceTransportChannel.init localPriorities).remoteIceParams.icePwd)).map
      (fun p : BindingRequest × String => (p.1, fill params p.1.remoteUfrag p.2)) =
      (requests.take k).map fun r => (r, r.password params) := by
    rw [List.nil_append, List.map_map]
    refine List.map_congr_left fun r _ => ?_
    show (r, fill params r.remoteUfrag "") = _
    unfold fill BindingRequest.password
    simp
  rw [hpatched] at hanswered
  have hafter : Distinct localPriorities.length
      (((requests.take k).map fun r => (r, r.password params)).map Prod.fst ++ requests.drop k) := by
    rw [List.map_map, Function.comp_def, List.map_id', hsplit]
    exact h
  obtain ⟨u, hu, hall, -⟩ := hanswered.requests movingAverage _ hafter
  refine ⟨u, ?_, ?_⟩
  · unfold arrivals
    rw [run_append, hs, Option.bind_some, run_cons, ht, Option.bind_some, hu]
  · rw [hparams] at hall
    exact hall

/-- **The order does not matter exactly where every user name is that of the
answer**, or the answer has no password. -/
theorem credentials_commute_iff (movingAverage : ℤ → ℤ → ℤ → ℤ) {localPriorities : List UInt32}
    {requests : List BindingRequest} (h : Distinct localPriorities.length requests)
    (params : IceParameters) : Commutes movingAverage localPriorities params requests ↔
      ∀ r ∈ requests, r.priority ≠ none → r.remoteUfrag = params.iceUfrag ∨ params.icePwd = "" := by
  have hbelongs : ∀ r : BindingRequest, params.icePwd = r.password params ↔
      r.remoteUfrag = params.iceUfrag ∨ params.icePwd = "" := by
    intro r
    unfold BindingRequest.password
    split <;> simp_all
  constructor
  · intro hcommutes r hr hpriority
    -- the answer comes first
    obtain ⟨t, ht, hcredentials⟩ := hcommutes 0 0
    obtain ⟨t', ht', harrived⟩ := run_arrivals movingAverage h params 0 0
    obtain rfl := Option.some.inj (ht.symm.trans ht')
    have hgiven := (harrived.credentials (r, params.icePwd)
      (List.mem_append_right _ (List.mem_map_of_mem hr)) hpriority).2
    exact (hbelongs r).1 (hgiven.symm.trans (hcredentials r hr hpriority).2)
  · intro hmatch k answered
    obtain ⟨t, ht, harrived⟩ := run_arrivals movingAverage h params answered k
    refine ⟨t, ht, fun r hr hpriority => ?_⟩
    rw [← List.take_append_drop k requests] at hr
    rcases List.mem_append.1 hr with hbefore | hafter
    · exact harrived.credentials (r, r.password params)
        (List.mem_append_left _ (List.mem_map_of_mem hbefore)) hpriority
    · rw [← (hbelongs r).2 (hmatch r (List.mem_of_mem_drop hafter) hpriority)]
      exact harrived.credentials (r, params.icePwd)
        (List.mem_append_right _ (List.mem_map_of_mem hafter)) hpriority

/-- A request of a peer that the answer does not name. -/
def strangerRequest : BindingRequest := ⟨0, ⟨0x0A000001, 5000⟩, "stranger", some 1, 0, 1000⟩

theorem strangerRequest_distinct : Distinct [(1 : UInt32)].length [strangerRequest] where
  ports := by decide
  addresses := by decide
  objects := by decide

theorem credentials_commute_iff_stranger :
    Commutes getNextMovingAverage [1] ⟨"peer", "secret"⟩ [strangerRequest] ↔
      ∀ r ∈ [strangerRequest], r.priority ≠ none →
        r.remoteUfrag = "peer" ∨ "secret" = "" :=
  credentials_commute_iff getNextMovingAverage strangerRequest_distinct ⟨"peer", "secret"⟩

/-- **A stranger after the answer is given its password.** -/
theorem stranger_not_commutes :
    ¬ Commutes getNextMovingAverage [1] ⟨"peer", "secret"⟩ [strangerRequest] := by
  intro h
  obtain ⟨t, ht, hcredentials⟩ := h 0 900
  obtain ⟨t', ht', harrived⟩ :=
    run_arrivals getNextMovingAverage strangerRequest_distinct ⟨"peer", "secret"⟩ 900 0
  obtain rfl := Option.some.inj (ht.symm.trans ht')
  have hgiven := (harrived.credentials (strangerRequest, "secret") (by simp) (by decide)).2
  have hbelongs := (hcredentials strangerRequest (by simp) (by decide)).2
  rw [hgiven] at hbelongs
  exact absurd hbelongs (by decide)

end Ice

end XrtcServer
