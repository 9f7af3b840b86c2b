import XrtcServer.Common.Rounds
import XrtcServer.Ice.Pinging
/-!
# Every connection gets its turn

The two sets of the controller are a round robin (`Scheduled`): a new
connection waits, a destroyed one leaves, a tick may renew the round and
serves the connection it pings. The selected connection may be served out of
turn, also where it is one that has been destroyed. Pings are sent at
strictly increasing times, as the gate of `select_connection_to_ping` is
never less than the clock tolerance. So between two turns of a connection
every other that is there and pingable is pinged.
-/

namespace XrtcServer

namespace Ice

open IceTransportChannel IceConnection Common

variable {s t u : IceTransportChannel} {r : Rounds ℕ ℤ} {id a b : ℕ} {now : ℤ}

/-! ## Choosing -/

namespace IceController

variable {ctl : IceController} {heap : ℕ → IceConnection} {ids : List ℕ} {lastPingSentMs : ℤ}

/-- The one found was pinged longest ago. -/
theorem mostPingable_longest (h : ctl.mostPingable heap ids now = some id) {j : ℕ} (hj : j ∈ ids)
    (hpingable : ctl.isPingable heap j now = true) :
    (heap id).lastPingSent ≤ (heap j).lastPingSent := by
  have hfound : ∀ (rest : List ℕ) (found : Option ℕ),
      (rest.foldl (fun found id =>
        if ctl.isPingable heap id now && morePingable heap id found then some id else found) found) =
          some id →
      (∀ j ∈ rest, ctl.isPingable heap j now = true →
        (heap id).lastPingSent ≤ (heap j).lastPingSent) ∧
      ∀ j, found = some j → (heap id).lastPingSent ≤ (heap j).lastPingSent := by
    intro rest
    induction rest with
    | nil =>
      intro found hf
      refine ⟨fun j hj => absurd hj List.not_mem_nil, fun j hj => ?_⟩
      obtain rfl := Option.some.inj (hj.symm.trans hf)
      exact le_rfl
    | cons k rest ih =>
      intro found hf
      obtain ⟨hrest, hnext⟩ := ih _ hf
      dsimp only at hnext
      -- the new one is taken where it was pinged before the one found
      have hk : ctl.isPingable heap k now = true →
          (heap id).lastPingSent ≤ (heap k).lastPingSent := by
        intro hpk
        rw [hpk, Bool.true_and] at hnext
        by_cases hmore : morePingable heap k found = true
        · exact hnext k (if_pos hmore)
        · rw [if_neg hmore] at hnext
          cases found with
          | none => exact absurd rfl hmore
          | some j =>
            refine (hnext j rfl).trans ?_
            simpa [morePingable] using hmore
      refine ⟨fun j hj hpj => ?_, fun j hj => ?_⟩
      · rcases List.mem_cons.1 hj with rfl | hj
        · exact hk hpj
        · exact hrest j hj hpj
      · subst hj
        by_cases htaken : (ctl.isPingable heap k now && morePingable heap k (some j)) = true
        · rw [if_pos htaken] at hnext
          have hmore := (Bool.and_eq_true_iff.1 htaken).2
          exact (hnext k rfl).trans (of_decide_eq_true hmore).le
        · rw [if_neg htaken] at hnext
          exact hnext j rfl
  exact (hfound ids none h).1 j hj hpingable

theorem pingInterval_ge (ctl : IceController) (heap : ℕ → IceConnection) :
    WEAK_PING_INTERVAL ≤ ctl.pingInterval heap := by
  unfold pingInterval
  dsimp only
  split <;> decide

/-- A new round. -/
def renewed (ctl : IceController) : IceController :=
  { ctl with unpingedConnections := ctl.pingedConnections.foldl setInsert ctl.unpingedConnections
             pingedConnections := [] }

/-- **What `select_connection_to_ping` comes to**: nothing before its time,
the selected connection where it is due, and otherwise a search of those
that wait, after a new round where none of them is pingable. -/
inductive Selects (ctl : IceController) (heap : ℕ → IceConnection) (lastPingSentMs now : ℤ) :
    IceController → Option ℕ → Prop
  | early : Selects ctl heap lastPingSentMs now ctl none
  | due (id : ℕ) (hgate : lastPingSentMs + ctl.pingInterval heap ≤ now)
      (hdue : ctl.selectedIsDue heap now = some id) :
      Selects ctl heap lastPingSentMs now ctl (some id)
  | turn (next : IceController) (hgate : lastPingSentMs + ctl.pingInterval heap ≤ now)
      (hdue : ctl.selectedIsDue heap now = none) (hnext : next = ctl ∨ next = ctl.renewed) :
      Selects ctl heap lastPingSentMs now next
        (next.mostPingable heap next.unpingedConnections now)

theorem selectConnectionToPing_selects (ctl : IceController) (heap : ℕ → IceConnection)
    (lastPingSentMs now : ℤ) :
    let r := ctl.selectConnectionToPing heap lastPingSentMs now
    Selects ctl heap lastPingSentMs now r.1 r.2.conn := by
  unfold selectConnectionToPing
  dsimp only
  split
  · rename_i hgate
    unfold findNextPingableConnection
    cases hdue : ctl.selectedIsDue heap now with
    | some id => exact .due id hgate hdue
    | none =>
      dsimp only
      split
      · exact .turn ctl hgate hdue (.inl rfl)
      · exact .turn ctl.renewed hgate hdue (.inr rfl)
  · exact .early

end IceController

/-! ## The schedule of a channel -/

/-- **The controller's sets are a round robin.** Registered connections are
in it, connections made are all that is in it, and the channel has sent no
ping later than its last. -/
structure Scheduled (s : IceTransportChannel) (r : Rounds ℕ ℤ) : Prop where
  waiting : ∀ id, id ∈ r.waiting ↔ id ∈ s.controller.unpingedConnections
  served : ∀ id, id ∈ r.served ↔ id ∈ s.controller.pingedConnections
  last : ∀ id, r.last id = (s.heap id).lastPingSent
  connections : s.controller.connections.Nodup
  pinged : s.controller.pingedConnections.Nodup
  unpinged : s.controller.unpingedConnections.Nodup
  registered : ∀ id ∈ s.controller.connections, id ∈ r.waiting ∨ id ∈ r.served
  made : ∀ id, id ∈ r.waiting ∨ id ∈ r.served → id ∈ s.made
  selected : ∀ id, s.controller.selectedConnection = some id → id ∈ s.made
  sent : ∀ id, r.last id ≤ s.lastPingSentMs
  started : 0 ≤ s.lastPingSentMs

namespace Scheduled

/-- Where nothing is pinged, some leave. -/
theorem unpinged_leaves (h : Scheduled s r) (ht : Unpinged s t) :
    ∃ ids : List ℕ, Scheduled t (r.run (ids.map .leaves)) := by
  obtain ⟨ids, hconnections, hpinged, hunpinged⟩ := ht.left
  obtain ⟨hwaiting, hserved, hlast⟩ := r.run_leaves ids
  have hrecord : ∀ id, (t.heap id).lastPingSent = (s.heap id).lastPingSent :=
    fun id => congrArg Prod.fst (ht.pings id)
  refine ⟨ids, fun id => ?_, fun id => ?_, fun id => ?_, ?_, ?_, ?_, fun id hid => ?_, fun id hid => ?_,
    fun id hid => ?_, fun id => ?_, ?_⟩
  · rw [hwaiting, hunpinged, h.unpinged.mem_sdiff_iff, h.waiting]
  · rw [hserved, hpinged, h.pinged.mem_sdiff_iff, h.served]
  · rw [hlast, hrecord, h.last]
  · exact hconnections.nodup_iff.2 h.connections.diff
  · exact hpinged ▸ h.pinged.diff
  · exact hunpinged ▸ h.unpinged.diff
  · obtain ⟨hold, hstays⟩ := h.connections.mem_sdiff_iff.1 (hconnections.mem_iff.1 hid)
    rw [hwaiting, hserved]
    exact (h.registered id hold).imp (⟨·, hstays⟩) (⟨·, hstays⟩)
  · rw [hwaiting, hserved] at hid
    rw [ht.made]
    exact h.made id (hid.imp And.left And.left)
  · rw [ht.made]
    rcases ht.selected id hid with hsel | hmem
    · exact h.selected id hsel
    · exact h.made id (h.registered id hmem)
  · rw [hlast, ht.sent]
    exact h.sent id
  · exact ht.sent ▸ h.started

/-- A new connection waits, and has never been pinged. -/
theorem newConnection (h : Scheduled s r) {port : UDPPort} {remote : Candidate}
    (haddr : port.getConnection remote.address = none) (hnew : id ∉ s.made) (portIndex : ℕ) (now : ℤ) :
    Scheduled ((s.createConnection portIndex port remote id now).addConnection id)
      (r.next (.joins id 0)) := by
  rw [createConnection_of_none haddr]
  have hout : id ∉ s.controller.connections := fun hin => hnew (h.made id (h.registered id hin))
  have hunserved : id ∉ s.controller.pingedConnections :=
    fun hin => hnew (h.made id (.inr ((h.served id).2 hin)))
  refine ⟨fun j => ?_, fun j => ?_, fun j => ?_, ?_, h.pinged, nodup_setInsert h.unpinged,
    fun j hj => ?_, fun j hj => ?_, fun j hj => ?_, fun j => ?_, h.started⟩
  · show j ∈ insert id r.waiting ↔ j ∈ setInsert s.controller.unpingedConnections id
    rw [mem_setInsert, ← h.waiting, Set.mem_insert_iff]
  · show j ∈ r.served \ {id} ↔ _
    rw [Set.mem_sdiff, h.served, Set.mem_singleton_iff]
    refine and_iff_left_of_imp fun hin heq => hunserved (heq ▸ hin)
  · show Function.update r.last id 0 j = _
    by_cases hj : j = id
    · subst hj
      rw [Function.update_self]
      show 0 = ((s.setConn j _).heap j).lastPingSent
      rw [setConn_heap_self]
    · rw [Function.update_of_ne hj, h.last]
      show _ = ((s.setConn id _).heap j).lastPingSent
      rw [setConn_heap_of_ne hj]
  · refine List.nodup_append.2 ⟨h.connections, List.nodup_singleton id, fun x hx y hy hxy => ?_⟩
    rw [List.mem_singleton] at hy
    exact hout (hy ▸ hxy ▸ hx)
  · by_cases hne : j = id
    · exact .inl (.inl hne)
    · have hold := (List.mem_append.1 hj).resolve_right fun hid => hne (List.mem_singleton.1 hid)
      exact (h.registered j hold).imp .inr (⟨·, hne⟩)
  · rcases hj with (rfl | hw) | ⟨hv, -⟩
    · exact List.mem_cons_self
    · exact List.mem_cons_of_mem id (h.made j (.inl hw))
    · exact List.mem_cons_of_mem id (h.made j (.inr hv))
  · exact List.mem_cons_of_mem id (h.selected j hj)
  · show Function.update r.last id 0 j ≤ _
    by_cases hj : j = id
    · subst hj
      rw [Function.update_self]
      exact h.started
    · rw [Function.update_of_ne hj]
      exact h.sent j

theorem congr (h : Scheduled s r) (hheap : t.heap = s.heap) (hcontroller : t.controller = s.controller)
    (hmade : t.made = s.made) (hsent : t.lastPingSentMs = s.lastPingSentMs) : Scheduled t r := by
  refine ⟨?_, ?_, ?_, ?_, ?_, ?_, ?_, ?_, ?_, ?_, ?_⟩
  · exact hcontroller ▸ h.waiting
  · exact hcontroller ▸ h.served
  · exact hheap ▸ h.last
  · exact hcontroller ▸ h.connections
  · exact hcontroller ▸ h.pinged
  · exact hcontroller ▸ h.unpinged
  · exact hcontroller ▸ h.registered
  · exact hmade ▸ h.made
  · rw [hcontroller, hmade]
    exact h.selected
  · exact hsent ▸ h.sent
  · exact hsent ▸ h.started

/-- The round is renewed. -/
theorem renewed (h : Scheduled s r) :
    Scheduled { s with controller := s.controller.renewed } (r.next .renewed) where
  waiting := by
    intro id
    show id ∈ r.waiting ∪ r.served ↔ id ∈ List.foldl setInsert s.controller.unpingedConnections _
    rw [Set.mem_union, h.waiting, h.served, mem_foldl_setInsert]
  served := fun id => iff_of_false (Set.notMem_empty id) List.not_mem_nil
  last := h.last
  connections := h.connections
  pinged := .nil
  unpinged := nodup_foldl_setInsert h.unpinged
  registered := fun id hid => .inl (h.registered id hid)
  made := fun id hid => h.made id (hid.resolve_right (Set.notMem_empty id))
  selected := h.selected
  sent := h.sent
  started := h.started

/-- A connection is pinged, later than any before. -/
theorem serves (h : Scheduled s r) (hmade : id ∈ s.made) (hlater : s.lastPingSentMs < now)
    (requestId : String) :
    Scheduled (s.pingChosen (some id) requestId now) (r.next (.serves id now)) := by
  let v := use { s with lastPingSentMs := now } id
  have hnoted := use_noted { s with lastPingSentMs := now } id
  have hcontroller : v.controller = s.controller := hnoted.controller
  have hsame := markConnectionPinged_same s.controller id
  -- one that has been pinged in this round does not wait
  have hmarked : (∀ j, j ∈ (s.controller.markConnectionPinged id).unpingedConnections ↔
      j ∈ r.waiting ∧ j ≠ id) ∧
      (∀ j, j ∈ (s.controller.markConnectionPinged id).pingedConnections ↔ j = id ∨ j ∈ r.served) ∧
      (s.controller.markConnectionPinged id).unpingedConnections.Nodup ∧
      (s.controller.markConnectionPinged id).pingedConnections.Nodup := by
    unfold IceController.markConnectionPinged
    split
    · rename_i hin
      have hserved := (h.served id).2 hin
      refine ⟨fun j => ?_, fun j => ?_, h.unpinged, h.pinged⟩
      · rw [← h.waiting]
        refine (and_iff_left_of_imp ?_).symm
        rintro hw rfl
        exact Set.disjoint_left.1 r.apart hw hserved
      · rw [← h.served]
        refine (or_iff_right_of_imp ?_).symm
        rintro rfl
        exact hserved
    · refine ⟨fun j => ?_, fun j => ?_, h.unpinged.erase id, nodup_setInsert h.pinged⟩
      · rw [h.unpinged.mem_erase_iff, h.waiting, and_comm]
      · rw [mem_setInsert, h.served]
  obtain ⟨hwaiting, hserved, hunpinged, hpinged⟩ := hmarked
  have hheap : ∀ j, ((s.pingChosen (some id) requestId now).heap j).lastPingSent =
      Function.update r.last id now j := by
    intro j
    show ((v.setConn id _).heap j).lastPingSent = _
    by_cases hj : j = id
    · subst hj
      rw [setConn_heap_self, Function.update_self]
      rfl
    · rw [setConn_heap_of_ne hj, Function.update_of_ne hj, h.last]
      exact congrArg (fun heap => (heap j).lastPingSent) hnoted.heap
  have hbooks : (s.pingChosen (some id) requestId now).controller =
      s.controller.markConnectionPinged id ∧
      (s.pingChosen (some id) requestId now).made = s.made ∧
      (s.pingChosen (some id) requestId now).lastPingSentMs = now :=
    ⟨congrArg (·.markConnectionPinged id) hcontroller, hnoted.onlySelects.made,
      (use_unpinged _ id).sent⟩
  obtain ⟨hctl, hmade', hsent⟩ := hbooks
  refine ⟨fun j => ?_, fun j => ?_, fun j => (hheap j).symm, ?_, ?_, ?_, fun j hj => ?_,
    fun j hj => ?_, fun j hj => ?_, fun j => ?_, ?_⟩
  · rw [hctl, hwaiting]
    exact Iff.rfl
  · rw [hctl, hserved]
    exact Iff.rfl
  · rw [hctl, hsame.1]
    exact h.connections
  · exact hctl ▸ hpinged
  · exact hctl ▸ hunpinged
  · rw [hctl, hsame.1] at hj
    by_cases hne : j = id
    · exact .inr (.inl hne)
    · exact (h.registered j hj).imp (⟨·, hne⟩) .inr
  · rw [hmade']
    rcases hj with ⟨hw, -⟩ | rfl | hv
    · exact h.made j (.inl hw)
    · exact hmade
    · exact h.made j (.inr hv)
  · rw [hctl, hsame.2] at hj
    exact hmade' ▸ h.selected j hj
  · rw [hsent]
    show Function.update r.last id now j ≤ now
    by_cases hj : j = id
    · rw [hj, Function.update_self]
    · rw [Function.update_of_ne hj]
      exact ((h.sent j).trans_lt hlater).le
  · rw [hsent]
    exact (h.started.trans_lt hlater).le

end Scheduled

/-! ## A tick -/

/-- What is chosen is chosen among the connections as the channel has them. -/
theorem chosen_selects (s : IceTransportChannel) (now : ℤ) :
    let v := (s.selectConnectionToPing now).1
    v.heap = s.heap ∧ v.made = s.made ∧ v.lastPingSentMs = s.lastPingSentMs ∧
      IceController.Selects s.controller s.heap (s.lastPingSentMs - PING_INTERVAL_DIFF) now
        v.controller (s.selectConnectionToPing now).2.conn := by
  let ids := s.controller.connections ++ s.controller.selectedConnection.toList
  have hread := useAll_noted s ids
  have hsent := (useAll_unpinged s ids).sent
  have hselected : (s.selectConnectionToPing now).1.controller =
      (s.controller.selectConnectionToPing s.heap (s.lastPingSentMs - PING_INTERVAL_DIFF) now).1 ∧
      (s.selectConnectionToPing now).2 =
      (s.controller.selectConnectionToPing s.heap (s.lastPingSentMs - PING_INTERVAL_DIFF) now).2 := by
    unfold IceTransportChannel.selectConnectionToPing
    dsimp only
    rw [hread.controller, hread.heap, hsent]
    exact ⟨rfl, rfl⟩
  refine ⟨hread.heap, hread.onlySelects.made, hsent, ?_⟩
  rw [hselected.1, hselected.2]
  exact IceController.selectConnectionToPing_selects _ _ _ now

/-- The gate leaves time since the last ping. -/
theorem later_of_gate {ctl : IceController} {heap : ℕ → IceConnection}
    (h : s.lastPingSentMs - PING_INTERVAL_DIFF + ctl.pingInterval heap ≤ now) :
    s.lastPingSentMs < now := by
  have hge := ctl.pingInterval_ge heap
  have hweak : WEAK_PING_INTERVAL = 48 := by decide
  have hdiff : PING_INTERVAL_DIFF = 5 := rfl
  omega

/-- **The round a connection is chosen in**, by its turn where the selected
connection is not due. -/
theorem Scheduled.selects (h : Scheduled s r) (now : ℤ) :
    ∃ r', (r' = r ∨ r' = r.next .renewed) ∧ Scheduled (s.selectConnectionToPing now).1 r' ∧
      ∀ id, (s.selectConnectionToPing now).2.conn = some id →
        s.lastPingSentMs < now ∧ id ∈ s.made ∧
        (s.controller.selectedIsDue s.heap now = none →
          r'.Chosen (fun j => s.controller.isPingable s.heap j now = true) id) := by
  obtain ⟨hheap, hmade, hsent, hselects⟩ := chosen_selects s now
  have hset : ∀ ctl r', Scheduled { s with controller := ctl } r' →
      (s.selectConnectionToPing now).1.controller = ctl →
      Scheduled (s.selectConnectionToPing now).1 r' :=
    fun ctl r' hr hctl => hr.congr hheap hctl hmade hsent
  generalize hnext : (s.selectConnectionToPing now).1.controller = next at hselects
  generalize (s.selectConnectionToPing now).2.conn = conn at hselects
  cases hselects with
  | early => exact ⟨r, .inl rfl, hset _ r h hnext, fun id hid => by cases hid⟩
  | due id hgate hdue =>
    refine ⟨r, .inl rfl, hset _ r h hnext, fun j hj => ?_⟩
    obtain rfl := Option.some.inj hj
    refine ⟨later_of_gate hgate, ?_, fun hnone => ?_⟩
    · exact h.selected id (Option.filter_eq_some_iff.1 hdue).1
    · rw [hdue] at hnone
      cases hnone
  | turn next hgate hdue hround =>
    -- a new round does not change who is pingable
    obtain ⟨r', hr', hscheduled, hpingable⟩ : ∃ r', (r' = r ∨ r' = r.next .renewed) ∧
        Scheduled { s with controller := next } r' ∧
        ∀ j, next.isPingable s.heap j now = s.controller.isPingable s.heap j now := by
      rcases hround with rfl | rfl
      · exact ⟨r, .inl rfl, h, fun _ => rfl⟩
      · exact ⟨_, .inr rfl, h.renewed, fun _ => rfl⟩
    refine ⟨r', hr', hset _ r' hscheduled hnext, fun id hid => ?_⟩
    obtain ⟨hmem, hself⟩ := IceController.mostPingable_spec hid
    have hwaits := (hscheduled.waiting id).2 hmem
    refine ⟨later_of_gate hgate, hscheduled.made id (.inl hwaits), fun _ => ⟨hwaits, ?_, ?_⟩⟩
    · exact hpingable id ▸ hself
    · intro j hj heligible
      rw [hscheduled.last, hscheduled.last]
      exact IceController.mostPingable_longest hid ((hscheduled.waiting j).1 hj)
        ((hpingable j).trans heligible)

/-- **A tick pings `id` in its turn**: `id` is chosen, and not because it is
selected. -/
def ByTurn (s : IceTransportChannel) (now : ℤ) (id : ℕ) : Prop :=
  let u := s.updateConnectionStates now
  pinged s now = some id ∧ u.controller.selectedIsDue u.heap now = none

instance (s : IceTransportChannel) (now : ℤ) (id : ℕ) : Decidable (ByTurn s now id) :=
  inferInstanceAs (Decidable (_ ∧ _))

theorem changePingInterval_scheduled (h : Scheduled s r) (pingInterval : ℤ) :
    Scheduled (s.changePingInterval pingInterval) r := by
  unfold changePingInterval
  split
  · exact h.congr rfl rfl rfl rfl
  · exact h

/-- **A tick**: some connections leave, the round may be renewed, and one
connection may be served. -/
theorem onCheckAndPing_scheduled (h : Scheduled s r) (requestId : String) (now : ℤ) :
    ∃ rs : List (RoundEvent ℕ ℤ), (∀ e ∈ rs, Rounds.Idle e) ∧
      (∀ id, id ∈ (s.updateConnectionStates now).controller.connections →
        id ∈ (r.run rs).waiting ∨ id ∈ (r.run rs).served) ∧
      (pinged s now = none → Scheduled (s.onCheckAndPing requestId now) (r.run rs)) ∧
      ∀ id, pinged s now = some id →
        Scheduled (s.onCheckAndPing requestId now) ((r.run rs).next (.serves id now)) ∧
        s.lastPingSentMs < now ∧
        (ByTurn s now id →
          (r.run rs).Chosen (fun j => (s.updateConnectionStates now).controller.isPingable
            (s.updateConnectionStates now).heap j now = true) id) := by
  let u := s.updateConnectionStates now
  have hupdated := updateConnectionStates_unpinged s now
  obtain ⟨ids, hu⟩ := h.unpinged_leaves hupdated
  obtain ⟨r', hr', hv, hchosen⟩ := hu.selects now
  have hleaves := Rounds.idle_leaves (T := ℤ) ids
  obtain ⟨rs, hidle, rfl, hmembers⟩ : ∃ rs, (∀ e ∈ rs, Rounds.Idle e) ∧ r' = r.run rs ∧
      ∀ id ∈ u.controller.connections, id ∈ r'.waiting ∨ id ∈ r'.served := by
    rcases hr' with rfl | rfl
    · exact ⟨_, hleaves, rfl, hu.registered⟩
    · refine ⟨ids.map .leaves ++ [.renewed], ?_, ?_, fun id hid => .inl (hu.registered id hid)⟩
      · intro e he
        rcases List.mem_append.1 he with he | he
        · exact hleaves e he
        · rw [List.mem_singleton.1 he]
          trivial
      · rw [Rounds.run_append]
        rfl
  have hticked : ∀ w r'', Scheduled w r'' →
      w = (u.selectConnectionToPing now).1.pingChosen (pinged s now) requestId now →
      Scheduled (s.onCheckAndPing requestId now) r'' := by
    rintro w r'' hw rfl
    exact changePingInterval_scheduled hw _
  refine ⟨rs, hidle, hmembers, fun hnone => ?_, fun id hid => ?_⟩
  · refine hticked _ _ hv ?_
    rw [hnone]
    rfl
  · obtain ⟨hlater, hmade, hturn⟩ := hchosen id hid
    obtain ⟨-, hmade', hsent, -⟩ := chosen_selects u now
    have hserved := hv.serves (hmade'.symm ▸ hmade) (hsent.symm ▸ hlater) requestId
    refine ⟨hticked _ _ hserved (by rw [hid]), ?_, fun hby => hturn hby.2⟩
    exact hupdated.sent ▸ hlater

theorem onCheckAndPing_sent (hlater : ∀ id, pinged s now = some id → s.lastPingSentMs < now)
    (requestId : String) :
    (s.onCheckAndPing requestId now).made = s.made ∧
      s.lastPingSentMs ≤ (s.onCheckAndPing requestId now).lastPingSentMs := by
  let u := s.updateConnectionStates now
  let v := (u.selectConnectionToPing now).1
  have hupdated := updateConnectionStates_unpinged s now
  obtain ⟨-, hmade, hsent, -⟩ := chosen_selects u now
  have hping : (v.pingChosen (pinged s now) requestId now).made = s.made ∧
      s.lastPingSentMs ≤ (v.pingChosen (pinged s now) requestId now).lastPingSentMs := by
    cases hconn : pinged s now with
    | none => exact ⟨hmade.trans hupdated.made, (hsent.trans hupdated.sent).ge⟩
    | some id =>
      have huse := use_unpinged { v with lastPingSentMs := now } id
      exact ⟨(huse.made.trans hmade).trans hupdated.made, (hlater id hconn).le.trans huse.sent.ge⟩
  unfold onCheckAndPing changePingInterval
  dsimp only
  split <;> exact hping

/-! ## Runs -/

variable {movingAverage : ℤ → ℤ → ℤ → ℤ} {e : ChannelEvent} {es : List ChannelEvent}

/-- A tick of the run pings the connection. -/
def PingedWithin (movingAverage : ℤ → ℤ → ℤ → ℤ) (s : IceTransportChannel) (es : List ChannelEvent)
    (id : ℕ) : Prop :=
  ∃ fs requestId now gs u, es = fs ++ .tick requestId now :: gs ∧
    run (IceTransportChannel.step movingAverage) s fs = some u ∧ pinged u now = some id

theorem PingedWithin.later (hstep : s.step movingAverage e = some t)
    (h : PingedWithin movingAverage t es id) : PingedWithin movingAverage s (e :: es) id := by
  obtain ⟨fs, requestId, now, gs, u, rfl, hu, hping⟩ := h
  refine ⟨e :: fs, requestId, now, gs, u, rfl, ?_, hping⟩
  rw [run_cons, hstep, Option.bind_some, hu]

theorem PingedWithin.append (h : PingedWithin movingAverage s [e] id) (es : List ChannelEvent) :
    PingedWithin movingAverage s (e :: es) id := by
  obtain ⟨fs, requestId, now, gs, u, heq, hu, hping⟩ := h
  refine ⟨fs, requestId, now, gs ++ es, u, ?_, hu, hping⟩
  rw [← List.singleton_append, heq, List.append_assoc, List.cons_append]

/-- **What some events do to the rounds**: only new connections join, and
one is served by a tick that pings it, after whatever was sent before. -/
structure Follows (movingAverage : ℤ → ℤ → ℤ → ℤ) (s : IceTransportChannel) (es : List ChannelEvent)
    (t : IceTransportChannel) (r : Rounds ℕ ℤ) (rs : List (RoundEvent ℕ ℤ)) : Prop where
  scheduled : Scheduled t (r.run rs)
  joins : ∀ id now, .joins id now ∈ rs → id ∉ s.made
  serves : ∀ id now, .serves id now ∈ rs → s.lastPingSentMs < now ∧ PingedWithin movingAverage s es id
  made : s.made ⊆ t.made
  sent : s.lastPingSentMs ≤ t.lastPingSentMs

/-- Nothing but leaving. -/
theorem Scheduled.follows (h : Scheduled s r) (ht : Unpinged s t) :
    ∃ rs, Follows movingAverage s es t r rs := by
  obtain ⟨ids, hids⟩ := h.unpinged_leaves ht
  have hidle := Rounds.idle_leaves (T := ℤ) ids
  exact ⟨_, hids, fun _ _ hmem => (hidle _ hmem).elim, fun _ _ hmem => (hidle _ hmem).elim,
    fun _ hid => ht.made ▸ hid, ht.sent.ge⟩

/-- A new connection, and then nothing but leaving. -/
theorem Scheduled.follows_newConnection (h : Scheduled s r) {port : UDPPort} {remote : Candidate}
    (haddr : port.getConnection remote.address = none) (hnew : id ∉ s.made) (portIndex : ℕ)
    (ht : Unpinged ((s.createConnection portIndex port remote id now).addConnection id) t) :
    ∃ rs, Follows movingAverage s es t r rs := by
  obtain ⟨ids, hids⟩ := (h.newConnection haddr hnew portIndex now).unpinged_leaves ht
  have hidle := Rounds.idle_leaves (T := ℤ) ids
  have hbooks : t.made = id :: s.made ∧ t.lastPingSentMs = s.lastPingSentMs := by
    rw [ht.made, ht.sent, createConnection_of_none haddr]
    exact ⟨rfl, rfl⟩
  refine ⟨.joins id 0 :: ids.map .leaves, hids, fun j now' hj => ?_, fun j now' hj => ?_, ?_, hbooks.2.ge⟩
  · rcases List.mem_cons.1 hj with hj | hj
    · obtain ⟨rfl, rfl⟩ := RoundEvent.joins.inj hj
      exact hnew
    · exact (hidle _ hj).elim
  · rcases List.mem_cons.1 hj with hj | hj
    · cases hj
    · exact (hidle _ hj).elim
  · intro j hj
    exact hbooks.1 ▸ List.mem_cons_of_mem id hj

theorem onCheckAndPing_follows (h : Scheduled s r) (requestId : String) (now : ℤ) :
    ∃ rs, Follows movingAverage s [.tick requestId now] (s.onCheckAndPing requestId now) r rs := by
  obtain ⟨rs, hidle, -, hnone, hsome⟩ := onCheckAndPing_scheduled h requestId now
  obtain ⟨hmade, hsent⟩ := onCheckAndPing_sent (fun id hid => (hsome id hid).2.1) requestId
  have hsubset : s.made ⊆ (s.onCheckAndPing requestId now).made := fun _ hid => hmade ▸ hid
  cases hconn : pinged s now with
  | none =>
    exact ⟨rs, hnone hconn, fun _ _ hmem => (hidle _ hmem).elim, fun _ _ hmem => (hidle _ hmem).elim,
      hsubset, hsent⟩
  | some id =>
    obtain ⟨hserved, hlater, -⟩ := hsome id hconn
    refine ⟨rs ++ [.serves id now], ?_, fun j now' hj => ?_, fun j now' hj => ?_, hsubset, hsent⟩
    · rw [Rounds.run_append]
      exact hserved
    · rcases List.mem_append.1 hj with hj | hj
      · exact (hidle _ hj).elim
      · cases List.mem_singleton.1 hj
    · rcases List.mem_append.1 hj with hj | hj
      · exact (hidle _ hj).elim
      · obtain ⟨rfl, rfl⟩ := RoundEvent.serves.inj (List.mem_singleton.1 hj)
        exact ⟨hlater, [], requestId, now', [], s, rfl, rfl, hconn⟩

/-- **One event of a channel**, as events of its round robin. -/
theorem step_follows (h : Scheduled s r) (hstep : s.step movingAverage e = some t) :
    ∃ rs, Follows movingAverage s [e] t r rs := by
  cases handled_of_step hstep with
  | known packet now hport haddr => exact h.follows (onReadPacket_unpinged movingAverage s _ packet now)
  | stranger remoteUfrag priority now hport haddr hnew =>
    unfold onUnknownAddress
    cases priority with
    | none => exact h.follows (.refl s)
    | some priority =>
      exact h.follows_newConnection haddr hnew _ (onConnectionStateChange_unpinged _ now)
  | dropped => exact h.follows (.refl s)
  | params params now => exact h.follows (setRemoteIceParams_unpinged s params now)
  | ticked requestId now htimer => exact onCheckAndPing_follows h requestId now
  | sent => exact h.follows (useAll_unpinged s _)
  | ended now => exact h.follows (destroyChannel_unpinged s now)

/-- **A run of a channel**, as a run of its round robin. -/
theorem run_follows (h : Scheduled s r)
    (hrun : run (IceTransportChannel.step movingAverage) s es = some t) :
    ∃ rs, Follows movingAverage s es t r rs := by
  induction es generalizing s r with
  | nil =>
    obtain rfl : s = t := Option.some.inj hrun
    exact h.follows (.refl s)
  | cons e es ih =>
    obtain ⟨u, hstep, hrest⟩ := Option.bind_eq_some_iff.1 hrun
    obtain ⟨rs, hfirst⟩ := step_follows h hstep
    obtain ⟨rs', hthen⟩ := ih hfirst.scheduled hrest
    refine ⟨rs ++ rs', ?_, fun id now hid => ?_, fun id now hid => ?_, ?_, ?_⟩
    · rw [Rounds.run_append]
      exact hthen.scheduled
    · rcases List.mem_append.1 hid with hid | hid
      · exact hfirst.joins id now hid
      · exact fun hmade => hthen.joins id now hid (hfirst.made hmade)
    · rcases List.mem_append.1 hid with hid | hid
      · obtain ⟨hlater, hping⟩ := hfirst.serves id now hid
        exact ⟨hlater, hping.append es⟩
      · obtain ⟨hlater, hping⟩ := hthen.serves id now hid
        exact ⟨hfirst.sent.trans_lt hlater, hping.later hstep⟩
    · exact fun _ hid => hthen.made (hfirst.made hid)
    · exact hfirst.sent.trans hthen.sent

/-- Before a run nobody is in the rounds. -/
def emptyRounds : Rounds ℕ ℤ := ⟨∅, ∅, fun _ => 0, Set.disjoint_empty _⟩

theorem scheduled_init (localPriorities : List UInt32) :
    Scheduled (.init localPriorities) emptyRounds where
  waiting := fun id => iff_of_false (Set.notMem_empty id) List.not_mem_nil
  served := fun id => iff_of_false (Set.notMem_empty id) List.not_mem_nil
  last := fun _ => rfl
  connections := .nil
  pinged := .nil
  unpinged := .nil
  registered := fun _ hid => absurd hid List.not_mem_nil
  made := fun id hid => hid.elim (absurd · (Set.notMem_empty id)) (absurd · (Set.notMem_empty id))
  selected := fun _ hid => by cases hid
  sent := fun _ => le_rfl
  started := le_rfl

/-- **Between two turns of a connection every other one is pinged** that is
registered in both of them, and so in between, and pingable in the second. -/
theorem pinged_between_turns {localPriorities : List UInt32} {before : List ChannelEvent}
    {s' : IceTransportChannel} {requestId : String} {now' : ℤ}
    (hbefore : run (IceTransportChannel.step movingAverage) (.init localPriorities) before = some s)
    (htick : s.step movingAverage (.tick requestId now) = some s')
    (hrun : run (IceTransportChannel.step movingAverage) s' es = some t)
    (hfirst : ByTurn s now a) (hsecond : ByTurn t now' a) (hne : b ≠ a)
    (hthere : b ∈ (s.updateConnectionStates now).controller.connections)
    (hstays : b ∈ (t.updateConnectionStates now').controller.connections)
    (hpingable : (t.updateConnectionStates now').controller.isPingable
      (t.updateConnectionStates now').heap b now' = true) :
    PingedWithin movingAverage s' es b := by
  obtain ⟨rs, hs⟩ := run_follows (scheduled_init localPriorities) hbefore
  -- the first turn
  obtain ⟨rs₁, hidle, hmembers, -, hsome⟩ := onCheckAndPing_scheduled hs.scheduled requestId now
  obtain ⟨hserved, hlater, -⟩ := hsome a hfirst.1
  obtain rfl := step_ticked htick
  let r₁ := (emptyRounds.run rs).run rs₁
  have hlast : r₁.last b < now := by
    rw [Rounds.run_idle_last hidle]
    exact (hs.scheduled.sent b).trans_lt hlater
  have hmade : a ∈ (s.onCheckAndPing requestId now).made ∧ b ∈ (s.onCheckAndPing requestId now).made :=
    ⟨hserved.made a (.inr (.inl rfl)),
      hserved.made b ((hmembers b hthere).imp (⟨·, hne⟩) .inr)⟩
  have hsent : now ≤ (s.onCheckAndPing requestId now).lastPingSentMs := by
    have hself := hserved.sent a
    simpa [Rounds.next] using hself
  -- what comes in between
  obtain ⟨rs₂, ht⟩ := run_follows hserved hrun
  -- the second turn
  obtain ⟨rs₃, hidle', hmembers', -, hsome'⟩ := onCheckAndPing_scheduled ht.scheduled requestId now'
  have hchosen := (hsome' a hsecond.1).2.2 hsecond
  have hmember := hmembers' b hstays
  rw [← Rounds.run_append] at hchosen hmember
  have hjoins : ∀ c now'', .joins c now'' ∈ rs₂ ++ rs₃ → c ≠ a ∧ c ≠ b := by
    intro c now'' hc
    rcases List.mem_append.1 hc with hc | hc
    · have hnew := ht.joins c now'' hc
      exact ⟨fun heq => hnew (heq ▸ hmade.1), fun heq => hnew (heq ▸ hmade.2)⟩
    · exact (hidle' _ hc).elim
  have hserves : ∀ c now'', .serves c now'' ∈ rs₂ ++ rs₃ → now ≤ now'' := by
    intro c now'' hc
    rcases List.mem_append.1 hc with hc | hc
    · exact hsent.trans (ht.serves c now'' hc).1.le
    · exact (hidle' _ hc).elim
  obtain ⟨now'', hmem⟩ :=
    Rounds.exists_serves hne hlast hjoins hserves hchosen hmember hpingable
  rcases List.mem_append.1 hmem with hmem | hmem
  · exact (ht.serves b now'' hmem).2
  · exact (hidle' _ hmem).elim

/-- Two peers that are not connected yet. -/
def twoPeersRun : List ChannelEvent :=
  [.setRemoteIceParams ⟨"peer", "secret"⟩ 900,
    .datagram 0 ⟨0x0A000001, 5000⟩ (.request "peer" (some 1)) 0 1000,
    .datagram 0 ⟨0x0A000001, 5001⟩ (.request "peer" (some 1)) 1 1010]

theorem pinged_between_turns_second : ∃ s s',
    run (IceTransportChannel.step getNextMovingAverage) (.init [1]) twoPeersRun = some s ∧
      s.step getNextMovingAverage (.tick "first" 1100) = some s' ∧
      PingedWithin getNextMovingAverage s' [.tick "second" 1200] 1 := by
  have hturns : ((run (IceTransportChannel.step getNextMovingAverage) (.init [1])
      twoPeersRun).bind fun s => (s.step getNextMovingAverage (.tick "first" 1100)).bind fun s' =>
        (run (IceTransportChannel.step getNextMovingAverage) s' [.tick "second" 1200]).map fun t =>
          let u := s.updateConnectionStates 1100
          let v := t.updateConnectionStates 1300
          decide (ByTurn s 1100 0 ∧ ByTurn t 1300 0 ∧ 1 ∈ u.controller.connections ∧
            1 ∈ v.controller.connections ∧ v.controller.isPingable v.heap 1 1300 = true)) =
      some true := by
    decide +kernel
  obtain ⟨s, hs, hturns⟩ := Option.bind_eq_some_iff.1 hturns
  obtain ⟨s', hs', hturns⟩ := Option.bind_eq_some_iff.1 hturns
  obtain ⟨t, ht, hturns⟩ := Option.map_eq_some_iff.1 hturns
  obtain ⟨hfirst, hsecond, hthere, hstays, hpingable⟩ := of_decide_eq_true hturns
  exact ⟨s, s', hs, hs',
    pinged_between_turns hs hs' ht hfirst hsecond (by decide) hthere hstays hpingable⟩

end Ice

end XrtcServer
