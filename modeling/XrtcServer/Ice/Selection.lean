import XrtcServer.Ice.Effects
/-!
# The selected connection

After `_sort_connections_and_update_state` the selected connection is the
best one, or the one selected before where the best does not gain ten
milliseconds on it. So a connection that cannot be written to is kept as
long as it was the faster one.
-/

namespace XrtcServer

namespace Ice

open IceTransportChannel IceController

variable {s : IceTransportChannel} {id top sel : ℕ} {now : ℤ}

/-! ## What is worth switching to -/

/-- With a selected connection that is not the best one, the round trip
times decide. -/
theorem worthSwitching_of_selected (htop : topConnection s = some top)
    (hready : readyToSend s.heap (some top) = true)
    (hsel : s.controller.selectedConnection = some sel) (hne : sel ≠ top) :
    worthSwitching s =
      if (s.heap top).rtt ≤ (s.heap sel).rtt - k_min_inprovement then some top else none := by
  unfold worthSwitching IceController.sortAndSwitchConnection
  unfold topConnection at htop
  simp only [htop, hready, hsel, Option.some.injEq, hne]
  simp
  split <;> rfl

theorem worthSwitching_of_none (htop : topConnection s = some top)
    (hready : readyToSend s.heap (some top) = true)
    (hsel : s.controller.selectedConnection = none) : worthSwitching s = some top := by
  unfold worthSwitching IceController.sortAndSwitchConnection
  unfold topConnection at htop
  simp [htop, hready, hsel]

theorem worthSwitching_of_top (htop : topConnection s = some top)
    (hsel : s.controller.selectedConnection = some top) : worthSwitching s = none := by
  unfold worthSwitching IceController.sortAndSwitchConnection
  unfold topConnection at htop
  simp [htop, hsel]

/-! ## A writable connection is selected, or a faster one kept -/

/-- The selected connection cannot be written to, and the best one does not
gain enough on it. -/
def KeptUnwritable (s : IceTransportChannel) (top sel : ℕ) : Prop :=
  (s.heap sel).writable = false ∧ (s.heap sel).rtt - k_min_inprovement < (s.heap top).rtt

/-- **What is selected where a connection is writable.** A best connection
is then writable. A selected connection that is not writable stays selected
where the best one's RTT is not at least ten milliseconds smaller, and in
every other case the connection selected afterwards is writable. -/
theorem selected_writable (now : ℤ)
    (hsame : s.controller.selectedConnection = s.selectedConnection)
    (hw : ∃ id ∈ s.controller.connections, (s.heap id).writable = true) :
    ∃ top ∈ s.controller.connections, (s.heap top).writable = true ∧
      (∀ id ∈ s.controller.connections, better (s.heap id) (s.heap top) = false) ∧
      (∀ sel, s.selectedConnection = some sel → KeptUnwritable s top sel →
        (s.sortConnectionsAndUpdateState now).selectedConnection = some sel) ∧
      ((∀ sel, s.selectedConnection = some sel → ¬ KeptUnwritable s top sel) →
        ∃ id, (s.sortConnectionsAndUpdateState now).selectedConnection = some id ∧
          ((s.sortConnectionsAndUpdateState now).heap id).writable = true) := by
  obtain ⟨w, hmem, hwritable⟩ := hw
  obtain ⟨top, htop⟩ := head_stableSort_isSome s.heap hmem
  obtain ⟨htopMem, hbest⟩ := head_stableSort htop
  have htopWritable := writable_of_rank_le (hbest w hmem) hwritable
  have hready : readyToSend s.heap (some top) = true := by simp [readyToSend, htopWritable]
  have ht := sortConnectionsAndUpdateState_reselected s now
  refine ⟨top, htopMem, htopWritable, fun id hid => better_eq_false_iff.2 (hbest id hid),
    fun sel hsel hkept => ?_, fun hnot => ?_⟩
  · have hne : sel ≠ top := by
      rintro rfl
      rw [hkept.1] at htopWritable
      cases htopWritable
    have hstay : ¬ (s.heap top).rtt ≤ (s.heap sel).rtt - k_min_inprovement := by
      have hrtt := hkept.2
      omega
    rw [ht.selected, worthSwitching_of_selected htop hready (hsame.trans hsel) hne, if_neg hstay,
      Option.none_or, hsel]
  · cases hsel : s.selectedConnection with
    | none =>
      refine ⟨top, ?_, (ht.onlySelects.writable top).trans htopWritable⟩
      rw [ht.selected, worthSwitching_of_none htop hready (hsame.trans hsel), Option.some_or]
    | some sel =>
      by_cases hne : sel = top
      · subst hne
        refine ⟨sel, ?_, (ht.onlySelects.writable sel).trans htopWritable⟩
        rw [ht.selected, worthSwitching_of_top htop (hsame.trans hsel), Option.none_or, hsel]
      · have hworth := worthSwitching_of_selected htop hready (hsame.trans hsel) hne
        by_cases hgain : (s.heap top).rtt ≤ (s.heap sel).rtt - k_min_inprovement
        · refine ⟨top, ?_, (ht.onlySelects.writable top).trans htopWritable⟩
          rw [ht.selected, hworth, if_pos hgain, Option.some_or]
        · -- not gaining enough, the selected connection must have been writable
          have hselWritable : (s.heap sel).writable = true := by
            by_contra hn
            refine hnot sel hsel ⟨by simpa using hn, ?_⟩
            omega
          refine ⟨sel, ?_, (ht.onlySelects.writable sel).trans hselWritable⟩
          rw [ht.selected, hworth, if_neg hgain, Option.none_or, hsel]

/-- Connection 0 is selected and has degraded, connection 1 is writable and
five milliseconds faster. -/
def degraded : IceTransportChannel where
  heap := fun id =>
    if id = 0 then { writeState := .writeUnreliable, selected := true, rtt := 100, rttSamples := 5 }
    else { writeState := .writable, receiving := true, rtt := 95, rttSamples := 5 }
  made := [1, 0]
  ports := []
  controller := { selectedConnection := some 0, connections := [0, 1], unpingedConnections := [0, 1] }
  selectedConnection := some 0
  hadConnection := true

theorem degraded_selected_writable : ∃ top ∈ degraded.controller.connections,
    (degraded.heap top).writable = true ∧
      (KeptUnwritable degraded top 0 →
        (degraded.sortConnectionsAndUpdateState 0).selectedConnection = some 0) := by
  obtain ⟨top, hmem, hwritable, -, hkept, -⟩ :=
    selected_writable 0 (s := degraded) rfl ⟨1, by decide, by decide⟩
  exact ⟨top, hmem, hwritable, hkept 0 rfl⟩

/-- **A degraded connection stays selected** beside a writable one. -/
theorem degraded_stays_selected :
    (degraded.heap 1).writable = true ∧ 1 ∈ degraded.controller.connections ∧
      (degraded.sortConnectionsAndUpdateState 0).selectedConnection = some 0 ∧
      ((degraded.sortConnectionsAndUpdateState 0).heap 0).writable = false := by
  decide +kernel

end Ice

end XrtcServer
