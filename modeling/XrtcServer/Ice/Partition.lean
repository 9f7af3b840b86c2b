import XrtcServer.Common.Since
import XrtcServer.Ice.Effects
/-!
# The two sets over a run

A controller by itself, called from outside in any order. The two sets of
the round robin partition its connections after every call (`Registry`), and
a connection is in one of them exactly since it was added.
-/

namespace XrtcServer

namespace Ice

open Common

/-- A call of a controller. What the pointers point to at the time, and the
clock, are read by the calls that depend on them. -/
inductive ControllerCall where
  | addConnection (id : ℕ)
  | markConnectionPinged (id : ℕ)
  | onConnectionDestroyed (id : ℕ)
  | findNextPingableConnection (heap : ℕ → IceConnection) (now : ℤ)
  | setSelectedConnection (conn : Option ℕ)
  | sortAndSwitchConnection (heap : ℕ → IceConnection)

namespace IceController

variable {ctl ctl' : IceController} {call : ControllerCall} {calls : List ControllerCall} {id : ℕ}

/-- A call, `none` where no caller makes it: a connection that is registered
is not added again, and one that is not is not pinged. -/
def called (ctl : IceController) : ControllerCall → Option IceController
  | .addConnection id => if id ∈ ctl.connections then none else some (ctl.addConnection id)
  | .markConnectionPinged id =>
    if id ∈ ctl.connections then some (ctl.markConnectionPinged id) else none
  | .onConnectionDestroyed id => some (ctl.onConnectionDestroyed id)
  | .findNextPingableConnection heap now => some (ctl.findNextPingableConnection heap now).1
  | .setSelectedConnection conn => some (ctl.setSelectedConnection conn)
  | .sortAndSwitchConnection heap => some (ctl.sortAndSwitchConnection heap).1

/-! ## One call -/

theorem called_addConnection (h : ctl.called (.addConnection id) = some ctl') :
    id ∉ ctl.connections ∧ ctl' = ctl.addConnection id := by
  rw [called, Option.ite_none_left_eq_some] at h
  exact ⟨h.1, (Option.some.inj h.2).symm⟩

theorem called_markConnectionPinged (h : ctl.called (.markConnectionPinged id) = some ctl') :
    id ∈ ctl.connections ∧ ctl' = ctl.markConnectionPinged id := by
  rw [called, Option.ite_none_right_eq_some] at h
  exact ⟨h.1, (Option.some.inj h.2).symm⟩

/-- **Every call keeps the partition.** -/
theorem registry_called (h : ctl.Registry) (hcall : ctl.called call = some ctl') :
    ctl'.Registry := by
  cases call with
  | addConnection id =>
    obtain ⟨hnew, rfl⟩ := called_addConnection hcall
    exact h.addConnection hnew
  | markConnectionPinged id =>
    obtain ⟨hmem, rfl⟩ := called_markConnectionPinged hcall
    exact h.markConnectionPinged hmem
  | onConnectionDestroyed id =>
    obtain rfl := Option.some.inj hcall
    exact h.onConnectionDestroyed id
  | findNextPingableConnection heap now =>
    obtain rfl := Option.some.inj hcall
    exact (findNextPingableConnection_spec h heap now).1
  | setSelectedConnection conn =>
    obtain rfl := Option.some.inj hcall
    exact h.perm (List.Perm.refl _) conn
  | sortAndSwitchConnection heap =>
    obtain rfl := Option.some.inj hcall
    rw [sortAndSwitch_fst]
    exact h.perm (List.perm_insertionSort _ _) _

theorem markConnectionPinged_connections (ctl : IceController) (id : ℕ) :
    (ctl.markConnectionPinged id).connections = ctl.connections := by
  unfold markConnectionPinged
  split
  · rfl
  · rfl

theorem findNextPingableConnection_connections (ctl : IceController) (heap : ℕ → IceConnection)
    (now : ℤ) : (ctl.findNextPingableConnection heap now).1.connections = ctl.connections := by
  unfold findNextPingableConnection
  cases ctl.selectedIsDue heap now with
  | some id => rfl
  | none =>
    dsimp only
    split
    · rfl
    · rfl

/-- **What a call registers or takes out**: the connection added or the one
destroyed, and no other. -/
theorem mem_connections_called (h : ctl.Registry) (hcall : ctl.called call = some ctl') :
    id ∈ ctl'.connections ↔
      call = .addConnection id ∨ call ≠ .onConnectionDestroyed id ∧ id ∈ ctl.connections := by
  cases call with
  | addConnection j =>
    obtain ⟨-, rfl⟩ := called_addConnection hcall
    simp [addConnection, or_comm, eq_comm]
  | markConnectionPinged j =>
    obtain ⟨-, rfl⟩ := called_markConnectionPinged hcall
    simp [markConnectionPinged_connections]
  | onConnectionDestroyed j =>
    obtain rfl := Option.some.inj hcall
    simp [onConnectionDestroyed, h.connections.mem_erase_iff, eq_comm]
  | findNextPingableConnection heap now =>
    obtain rfl := Option.some.inj hcall
    simp [findNextPingableConnection_connections]
  | setSelectedConnection conn =>
    obtain rfl := Option.some.inj hcall
    simp [setSelectedConnection]
  | sortAndSwitchConnection heap =>
    obtain rfl := Option.some.inj hcall
    simp [sortAndSwitch_fst, mem_stableSort]

/-! ## Any calls -/

theorem registry_of_run (h : run called {} calls = some ctl) : ctl.Registry :=
  inv_of_run (fun _ _ _ hreg hcall => registry_called hreg hcall) .init h

/-- A connection is registered since it was added. -/
theorem mem_connections_of_run (h : run called {} calls = some ctl) :
    id ∈ ctl.connections ↔
      Since (· = .addConnection id) (· = .onConnectionDestroyed id) calls := by
  refine iff_since_of_run (I := Registry) (P := fun ctl => id ∈ ctl.connections) ?_ ?_
    .init List.not_mem_nil h
  · intro ctl call ctl' hreg hcall
    exact registry_called hreg hcall
  · intro ctl call ctl' hreg hcall
    exact mem_connections_called hreg hcall

/-- **The partition over every run.** No connection is registered twice, and
each is in exactly one of the two sets; whatever is in them has been added,
and not been destroyed since. -/
theorem partition_of_run (h : run called {} calls = some ctl) :
    ctl.connections.Nodup ∧
      (∀ id ∈ ctl.pingedConnections, id ∉ ctl.unpingedConnections) ∧
      (∀ id, id ∈ ctl.pingedConnections ∨ id ∈ ctl.unpingedConnections ↔ id ∈ ctl.connections) ∧
      ∀ id, id ∈ ctl.pingedConnections ∨ id ∈ ctl.unpingedConnections ↔
        Since (· = .addConnection id) (· = .onConnectionDestroyed id) calls := by
  have hreg := registry_of_run h
  refine ⟨hreg.connections, hreg.disjoint, fun id => (hreg.mem id).symm, fun id => ?_⟩
  rw [← hreg.mem]
  exact mem_connections_of_run h

/-- Two connections are pinged, and the first of them once more in the next
round. The other is destroyed and added again. -/
def pingAndReplace : List ControllerCall :=
  [.addConnection 1, .addConnection 2, .markConnectionPinged 1, .markConnectionPinged 2,
    .findNextPingableConnection (fun _ => {}) 0, .markConnectionPinged 1,
    .onConnectionDestroyed 2, .addConnection 2]

theorem partition_of_run_replaced :
    ∃ ctl, run called {} pingAndReplace = some ctl ∧ ctl.connections = [1, 2] ∧
      1 ∉ ctl.unpingedConnections ∧
      Since (· = .addConnection 2) (· = .onConnectionDestroyed 2) pingAndReplace := by
  have hrun : ∃ ctl, run called {} pingAndReplace = some ctl ∧ ctl.connections = [1, 2] ∧
      ctl.pingedConnections = [1] ∧ ctl.unpingedConnections = [2] := ⟨_, rfl, rfl, rfl, rfl⟩
  obtain ⟨ctl, hctl, hconnections, hpinged, hunpinged⟩ := hrun
  obtain ⟨-, hdisjoint, -, hscheduled⟩ := partition_of_run hctl
  refine ⟨ctl, hctl, hconnections, hdisjoint 1 ?_, (hscheduled 2).1 (.inr ?_)⟩
  · rw [hpinged]
    exact List.mem_singleton_self 1
  · rw [hunpinged]
    exact List.mem_singleton_self 2

end IceController

end Ice

end XrtcServer
