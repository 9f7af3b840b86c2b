import XrtcServer.Ice.Effects
/-!
# One selected connection, kept twice

The channel and its controller each keep the selected connection. They agree
on it, and it is registered, as long as no connection is destroyed while it
is selected (`Agreed`). The controller is then never told: it either keeps
the connection or compares with it, and a run does not come back from that
(`Stray`). Everything else keeps both (`Keeps`).
-/

namespace XrtcServer

namespace Ice

open IceTransportChannel

/-- **Channel and controller agree** on a registered connection, and the
controller has returned and compared with registered connections only. -/
structure Agreed (s : IceTransportChannel) : Prop where
  registry : s.controller.Registry
  made : ∀ id ∈ s.controller.connections, id ∈ s.made
  same : s.controller.selectedConnection = s.selectedConnection
  selected : ∀ id, s.selectedConnection = some id → id ∈ s.controller.connections
  observed : ∀ o ∈ s.trace.observed, o.2 = true

/-- The controller keeps an unregistered connection as selected, or has
looked at one. -/
def Stray (s : IceTransportChannel) : Prop :=
  (∃ o ∈ s.trace.observed, o.2 = false) ∨
    ∃ id ∈ s.made, s.controller.selectedConnection = some id ∧ id ∉ s.controller.connections

/-- Neither is lost from one state to the other. -/
structure Keeps (s t : IceTransportChannel) : Prop where
  agreed : Agreed s → Agreed t
  stray : Stray s → Stray t

variable {s t u : IceTransportChannel} {id : ℕ} {now : ℤ}

namespace Keeps

theorem refl (s : IceTransportChannel) : Keeps s s := ⟨id, id⟩

theorem trans (h : Keeps s t) (k : Keeps t u) : Keeps s u :=
  ⟨fun hs => k.agreed (h.agreed hs), fun hs => k.stray (h.stray hs)⟩

/-- Only four parts of the state matter. -/
theorem of_eq (hcontroller : t.controller = s.controller)
    (hselected : t.selectedConnection = s.selectedConnection)
    (hobserved : t.trace.observed = s.trace.observed) (hmade : t.made = s.made) : Keeps s t where
  agreed := by
    intro h
    refine ⟨?_, ?_, ?_, ?_, ?_⟩
    · exact hcontroller ▸ h.registry
    · rw [hcontroller, hmade]
      exact h.made
    · rw [hcontroller, hselected]
      exact h.same
    · rw [hcontroller, hselected]
      exact h.selected
    · rw [hobserved]
      exact h.observed
  stray := by
    intro h
    unfold Stray
    rw [hcontroller, hobserved, hmade]
    exact h

theorem noted (h : Noted s t) : Keeps s t :=
  of_eq h.controller h.selected h.observed h.onlySelects.made

theorem setConn (s : IceTransportChannel) (id : ℕ) (c : IceConnection) : Keeps s (s.setConn id c) :=
  of_eq rfl rfl rfl rfl

end Keeps

/-! ## Selecting -/

theorem readyToSend_of_worthSwitching (h : worthSwitching s = some id) :
    IceController.readyToSend s.heap (topConnection s) = true := by
  unfold worthSwitching IceController.sortAndSwitchConnection at h
  by_contra hready
  rw [Bool.not_eq_true] at hready
  unfold topConnection at hready
  simp [hready] at h

theorem marks_of_agreed (h : Agreed s) :
    ∀ o ∈ marks s (comparedWith s ++ (worthSwitching s).toList), o.2 = true := by
  intro o ho
  obtain ⟨id, hid, rfl⟩ := List.mem_map.1 ho
  refine decide_eq_true ?_
  rcases List.mem_append.1 hid with hc | hw
  · unfold comparedWith at hc
    split at hc
    · exact h.selected id (h.same ▸ Option.mem_toList.1 hc)
    · cases hc
  · exact worthSwitching_mem (Option.mem_toList.1 hw)

/-- Sorting and selecting keep the agreement. A connection that the
controller should not have is kept as selected, or it is compared with the
one switched to. -/
theorem sortConnectionsAndUpdateState_keeps (s : IceTransportChannel) (now : ℤ) :
    Keeps s (s.sortConnectionsAndUpdateState now) := by
  have ht := sortConnectionsAndUpdateState_reselected s now
  refine ⟨fun h => ⟨?_, ?_, ?_, ?_, ?_⟩, fun h => ?_⟩
  · rw [ht.controller]
    exact h.registry.perm (List.perm_insertionSort _ _) _
  · intro id hid
    rw [ht.onlySelects.made]
    exact h.made id (ht.onlySelects.mem.1 hid)
  · rw [ht.controller, ht.selected, h.same]
  · intro id hid
    rw [ht.selected] at hid
    refine ht.onlySelects.mem.2 ?_
    rcases Option.or_eq_some_iff.1 hid with hw | ⟨-, hold⟩
    · exact worthSwitching_mem hw
    · exact h.selected id hold
  · rw [ht.observed]
    intro o ho
    rcases List.mem_append.1 ho with hold | hnew
    · exact h.observed o hold
    · exact marks_of_agreed h o hnew
  · rcases h with ⟨o, ho, hfalse⟩ | ⟨id, hmade, hsel, hout⟩
    · exact .inl ⟨o, ht.observed ▸ List.mem_append_left _ ho, hfalse⟩
    · cases hw : worthSwitching s with
      | none =>
        have hout' := fun hin => hout (ht.onlySelects.mem.1 hin)
        refine .inr ⟨id, ht.onlySelects.made ▸ hmade, ?_, hout'⟩
        rw [ht.controller, hw, Option.none_or, hsel]
      | some top =>
        -- there is a switch only where the stray connection has been compared with
        refine .inl ⟨(id, false), ?_, rfl⟩
        rw [ht.observed]
        refine List.mem_append_right _ (List.mem_map.2 ⟨id, ?_, by simp [hout]⟩)
        refine List.mem_append_left _ ?_
        unfold comparedWith
        rw [if_pos (readyToSend_of_worthSwitching hw), hsel]
        exact List.mem_singleton_self id

/-! ## Destroying -/

/-- Another connection than the selected one is taken out. -/
theorem onConnectionDestroyed_agreed (h : Agreed s) (hne : s.selectedConnection ≠ some id)
    (now : ℤ) : Agreed (s.onConnectionDestroyed id now) := by
  unfold onConnectionDestroyed
  dsimp only
  rw [if_neg hne]
  refine (Keeps.noted (updateState_noted _)).agreed
    ⟨h.registry.onConnectionDestroyed id, ?_, h.same, ?_, h.observed⟩
  · intro j hj
    exact h.made j (List.mem_of_mem_erase hj)
  · intro j hj
    refine (h.registry.connections.mem_erase_iff).2 ⟨?_, h.selected j hj⟩
    rintro rfl
    exact hne hj

/-- What has been looked at, or is kept as selected unregistered, remains so
when a connection is taken out. -/
theorem onConnectionDestroyed_stray (h : Stray s) (id : ℕ) (now : ℤ) :
    Stray (s.onConnectionDestroyed id now) := by
  have herase : Stray { s with controller := s.controller.onConnectionDestroyed id } := by
    rcases h with hobs | ⟨j, hmade, hsel, hout⟩
    · exact .inl hobs
    · exact .inr ⟨j, hmade, hsel, fun hin => hout (List.mem_of_mem_erase hin)⟩
  unfold onConnectionDestroyed
  dsimp only
  split
  · refine (sortConnectionsAndUpdateState_keeps _ now).stray ?_
    have hswitch := switchSelectedConnection_switched
      { s with controller := s.controller.onConnectionDestroyed id } none
    unfold Stray
    rw [hswitch.controller, hswitch.observed, hswitch.onlySelects.made]
    exact herase
  · exact (Keeps.noted (updateState_noted _)).stray herase

/-- **The selected connection is taken out, and the controller keeps it.** -/
theorem onConnectionDestroyed_stray_of_selected (h : Agreed s)
    (hsel : s.selectedConnection = some id) (now : ℤ) : Stray (s.onConnectionDestroyed id now) := by
  unfold onConnectionDestroyed
  dsimp only
  rw [if_pos hsel]
  refine (sortConnectionsAndUpdateState_keeps _ now).stray (.inr ⟨id, ?_, ?_, ?_⟩)
  all_goals
    have hswitch := switchSelectedConnection_switched
      { s with controller := s.controller.onConnectionDestroyed id } none
  · rw [hswitch.onlySelects.made]
    exact h.made id (h.selected id hsel)
  · rw [hswitch.controller]
    exact h.same.trans hsel
  · rw [hswitch.controller]
    exact fun hin => ((h.registry.connections.mem_erase_iff).1 hin).1 rfl

end Ice

end XrtcServer
