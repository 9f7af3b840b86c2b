import XrtcServer.Ice.Ranking
/-!
# The connections of a controller

The two sets of the round robin partition the registered connections, and
nothing the controller does takes a connection out of both. So what it
chooses to ping is registered, or the connection it has as selected.
-/

namespace XrtcServer

namespace Ice

variable {ctl : IceController} {heap : ℕ → IceConnection} {s : List ℕ} {id j : ℕ} {now : ℤ}

/-! ## Sets of pointers -/

theorem mem_setInsert : j ∈ setInsert s id ↔ j = id ∨ j ∈ s := by
  unfold setInsert
  split
  · rename_i hmem
    constructor
    · exact .inr
    · rintro (rfl | h)
      · exact hmem
      · exact h
  · exact List.mem_orderedInsert _

theorem nodup_setInsert (h : s.Nodup) : (setInsert s id).Nodup := by
  unfold setInsert
  split
  · exact h
  · rename_i hmem
    exact (List.perm_orderedInsert _ id s).nodup_iff.2 (List.nodup_cons.2 ⟨hmem, h⟩)

theorem mem_foldl_setInsert {t : List ℕ} : j ∈ t.foldl setInsert s ↔ j ∈ s ∨ j ∈ t := by
  induction t generalizing s with
  | nil => simp
  | cons k t ih =>
    rw [List.foldl_cons, ih, mem_setInsert, List.mem_cons]
    tauto

theorem nodup_foldl_setInsert {t : List ℕ} (h : s.Nodup) : (t.foldl setInsert s).Nodup := by
  induction t generalizing s with
  | nil => exact h
  | cons k t ih => exact ih (nodup_setInsert h)

namespace IceController

/-- **The sets of a controller**: every registered connection is in exactly
one of the two, and nothing else is. -/
structure Registry (ctl : IceController) : Prop where
  connections : ctl.connections.Nodup
  pinged : ctl.pingedConnections.Nodup
  unpinged : ctl.unpingedConnections.Nodup
  mem : ∀ id, id ∈ ctl.connections ↔
    id ∈ ctl.pingedConnections ∨ id ∈ ctl.unpingedConnections
  disjoint : ∀ id ∈ ctl.pingedConnections, id ∉ ctl.unpingedConnections

namespace Registry

theorem init : Registry {} where
  connections := .nil
  pinged := .nil
  unpinged := .nil
  mem := by simp
  disjoint := by simp

theorem addConnection (h : ctl.Registry) (hnew : id ∉ ctl.connections) :
    (ctl.addConnection id).Registry where
  connections := by
    refine List.nodup_append.2 ⟨h.connections, List.nodup_singleton id, fun a ha b hb => ?_⟩
    rw [List.mem_singleton] at hb
    exact fun hab => hnew (hb ▸ hab ▸ ha)
  pinged := h.pinged
  unpinged := nodup_setInsert h.unpinged
  mem := by
    intro j
    simp only [IceController.addConnection, List.mem_append, List.mem_singleton, mem_setInsert, h.mem]
    tauto
  disjoint := by
    intro j hj
    simp only [IceController.addConnection, mem_setInsert, not_or]
    refine ⟨?_, h.disjoint j hj⟩
    rintro rfl
    exact hnew ((h.mem j).2 (.inl hj))

theorem markConnectionPinged (h : ctl.Registry) (hmem : id ∈ ctl.connections) :
    (ctl.markConnectionPinged id).Registry := by
  unfold IceController.markConnectionPinged
  split
  · exact h
  · refine ⟨h.connections, nodup_setInsert h.pinged, h.unpinged.erase id, fun j => ?_, fun j hj => ?_⟩
    · simp only [mem_setInsert, h.unpinged.mem_erase_iff, h.mem]
      by_cases hj : j = id
      · subst hj
        simp [(h.mem j).1 hmem]
      · simp [hj]
    · rw [h.unpinged.mem_erase_iff]
      rintro ⟨hne, hun⟩
      rcases mem_setInsert.1 hj with rfl | hp
      · exact hne rfl
      · exact h.disjoint j hp hun

theorem onConnectionDestroyed (h : ctl.Registry) (id : ℕ) :
    (ctl.onConnectionDestroyed id).Registry where
  connections := h.connections.erase id
  pinged := h.pinged.erase id
  unpinged := h.unpinged.erase id
  mem := by
    intro j
    simp only [IceController.onConnectionDestroyed, h.connections.mem_erase_iff,
      h.pinged.mem_erase_iff, h.unpinged.mem_erase_iff, h.mem]
    tauto
  disjoint := by
    intro j hj hun
    exact h.disjoint j (List.mem_of_mem_erase hj) (List.mem_of_mem_erase hun)

/-- Sorting and selecting leave the sets alone. -/
theorem perm (h : ctl.Registry) {ids : List ℕ} (hids : ids.Perm ctl.connections)
    (selected : Option ℕ) :
    Registry { ctl with connections := ids, selectedConnection := selected } where
  connections := hids.nodup_iff.2 h.connections
  pinged := h.pinged
  unpinged := h.unpinged
  mem := fun j => hids.mem_iff.trans (h.mem j)
  disjoint := h.disjoint

/-- A new round: whatever was pinged is not pinged yet. -/
theorem newRound (h : ctl.Registry) :
    Registry { ctl with
      unpingedConnections := ctl.pingedConnections.foldl setInsert ctl.unpingedConnections
      pingedConnections := [] } where
  connections := h.connections
  pinged := .nil
  unpinged := nodup_foldl_setInsert h.unpinged
  mem := by
    intro j
    rw [mem_foldl_setInsert, h.mem]
    simp [or_comm]
  disjoint := by simp

end Registry

/-! ## What is chosen -/

/-- A search finds one of those it goes through, and that one is pingable. -/
theorem mostPingable_spec {ids : List ℕ} (h : ctl.mostPingable heap ids now = some id) :
    id ∈ ids ∧ ctl.isPingable heap id now = true := by
  have hfound : ∀ (rest : List ℕ) (found : Option ℕ),
      (rest.foldl (fun found id =>
        if ctl.isPingable heap id now && morePingable heap id found then some id else found) found) =
          some id → (id ∈ rest ∧ ctl.isPingable heap id now = true) ∨ found = some id := by
    intro rest
    induction rest with
    | nil => exact fun found hf => .inr hf
    | cons k rest ih =>
      intro found hf
      rcases ih _ hf with ⟨hr, hpingable⟩ | hk
      · exact .inl ⟨List.mem_cons_of_mem k hr, hpingable⟩
      · dsimp only at hk
        split at hk
        · rename_i hpingable
          obtain rfl := Option.some.inj hk
          exact .inl ⟨List.mem_cons_self, (Bool.and_eq_true_iff.1 hpingable).1⟩
        · exact .inr hk
  rcases hfound ids none h with hm | hn
  · exact hm
  · cases hn

/-- Choosing leaves the connections and the selected one alone. -/
theorem selectConnectionToPing_same (ctl : IceController) (heap : ℕ → IceConnection)
    (lastPingSentMs now : ℤ) :
    let r := ctl.selectConnectionToPing heap lastPingSentMs now
    r.1.connections = ctl.connections ∧ r.1.selectedConnection = ctl.selectedConnection := by
  unfold selectConnectionToPing findNextPingableConnection
  dsimp only
  split
  · cases ctl.selectedIsDue heap now with
    | some id => exact ⟨rfl, rfl⟩
    | none =>
      dsimp only
      split <;> exact ⟨rfl, rfl⟩
  · exact ⟨rfl, rfl⟩

theorem findNextPingableConnection_spec (h : ctl.Registry) (heap : ℕ → IceConnection) (now : ℤ) :
    let r := ctl.findNextPingableConnection heap now
    r.1.Registry ∧
      ∀ id, r.2 = some id → ctl.selectedConnection = some id ∨ id ∈ ctl.connections := by
  unfold findNextPingableConnection
  cases hdue : ctl.selectedIsDue heap now with
  | some id =>
    refine ⟨h, fun j hj => .inl ?_⟩
    obtain rfl := Option.some.inj hj
    exact (Option.filter_eq_some_iff.1 hdue).1
  | none =>
    dsimp only
    split
    · exact ⟨h, fun j hj => .inr ((h.mem j).2 (.inr ((mostPingable_spec hj).1)))⟩
    · exact ⟨h.newRound, fun j hj => .inr ((h.newRound.mem j).2 (.inr ((mostPingable_spec hj).1)))⟩

/-- **What is chosen** is the selected connection or a registered one, and
the sets still partition the registered ones. -/
theorem selectConnectionToPing_spec (h : ctl.Registry) (heap : ℕ → IceConnection)
    (lastPingSentMs now : ℤ) :
    let r := ctl.selectConnectionToPing heap lastPingSentMs now
    r.1.Registry ∧
      ∀ id, r.2.conn = some id → ctl.selectedConnection = some id ∨ id ∈ ctl.connections := by
  unfold selectConnectionToPing
  dsimp only
  split
  · exact findNextPingableConnection_spec h heap now
  · refine ⟨h, fun j hj => ?_⟩
    cases hj

/-- **What is pinged** has the credentials of its peer, or is writable. -/
theorem selectConnectionToPing_credentials {lastPingSentMs : ℤ}
    (h : (ctl.selectConnectionToPing heap lastPingSentMs now).2.conn = some id) :
    (heap id).hasCredentials = true ∨ (heap id).writable = true := by
  have hpingable : ∀ ctl : IceController, ctl.isPingable heap id now = true →
      (heap id).hasCredentials = true := by
    intro ctl hp
    by_contra hnot
    rw [Bool.not_eq_true] at hnot
    simp [isPingable, hnot] at hp
  unfold selectConnectionToPing findNextPingableConnection at h
  dsimp only at h
  split at h
  · cases hdue : ctl.selectedIsDue heap now with
    | some j =>
      rw [hdue] at h
      obtain rfl := Option.some.inj h
      have hwritable := (Option.filter_eq_some_iff.1 hdue).2
      exact .inr (Bool.and_eq_true_iff.1 hwritable).1
    | none =>
      rw [hdue] at h
      exact .inl (hpingable _ (mostPingable_spec h).2)
  · cases h

end IceController

end Ice

end XrtcServer
