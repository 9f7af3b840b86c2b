import XrtcServer.Ice.Ranking
/-!
# The pair priority

`IceConnection::priority` takes twice the larger candidate priority in 32
bits. It is the pair priority of its comment just for priorities below `2^31`
(`priority_eq_iff`), and the remote one is whatever the peer has put into its
request. Two remote priorities of one local candidate may so be ranked against
their order (`contradicts_iff`), which the formula never does
(`pairPriority_lt_iff`).
-/

namespace XrtcServer

namespace Ice

open IceController

namespace IceConnection

/-- `2^32 * min(G, D) + 2 * max(G, D) + (G > D ? 1 : 0)`, computed exactly. -/
def pairPriority (c : IceConnection) : ℕ :=
  let g := c.localPriority.toNat
  let d := c.remoteCandidate.priority.toNat
  2 ^ 32 * min g d + 2 * max g d + (if g > d then 1 else 0)

/-- **Both priorities can be doubled** in 32 bits. -/
def Doubles (c : IceConnection) : Prop :=
  c.localPriority.toNat < 2 ^ 31 ∧ c.remoteCandidate.priority.toNat < 2 ^ 31

/-- **The pair priorities rank `a` above `b`**, the remote ones below it. -/
def Contradicts (a b : IceConnection) : Prop :=
  a.remoteCandidate.priority < b.remoteCandidate.priority ∧ b.priority < a.priority

/-- **`b` falls behind `a`**: its remote priority is from `2^31` on, that of `a`
is between the local one and `2^31`, and they are less than `2^31` apart. -/
def FallsBehind (a b : IceConnection) : Prop :=
  let g := a.localPriority.toNat
  let da := a.remoteCandidate.priority.toNat
  let db := b.remoteCandidate.priority.toNat
  g ≤ da ∧ da < 2 ^ 31 ∧ 2 ^ 31 ≤ db ∧ db < da + 2 ^ 31

end IceConnection

variable {a b c : IceConnection}

/-! ## The value -/

theorem toNat_min (g d : UInt32) : (min g d).toNat = min g.toNat d.toNat := by
  change (if g ≤ d then g else d).toNat = _
  by_cases h : g ≤ d
  · rw [if_pos h, min_eq_left (UInt32.le_iff_toNat_le.1 h)]
  · have hlt : d.toNat < g.toNat := Nat.lt_of_not_le fun hle => h (UInt32.le_iff_toNat_le.2 hle)
    rw [if_neg h, min_eq_right hlt.le]

theorem toNat_max (g d : UInt32) : (max g d).toNat = max g.toNat d.toNat := by
  change (if g ≤ d then d else g).toNat = _
  by_cases h : g ≤ d
  · rw [if_pos h, max_eq_right (UInt32.le_iff_toNat_le.1 h)]
  · have hlt : d.toNat < g.toNat := Nat.lt_of_not_le fun hle => h (UInt32.le_iff_toNat_le.2 hle)
    rw [if_neg h, max_eq_left hlt.le]

theorem shifted_toNat (g : UInt32) : (g.toUInt64 <<< 32).toNat = 2 ^ 32 * g.toNat := by
  have hg : g.toNat < 2 ^ 32 := g.toNat_lt
  have hshift : (32 : UInt64).toNat % 64 = 32 := rfl
  rw [UInt64.toNat_shiftLeft, hshift, UInt32.toNat_toUInt64, Nat.shiftLeft_eq]
  omega

theorem doubled_toNat (d : UInt32) : (2 * d).toUInt64.toNat = 2 * d.toNat % 2 ^ 32 := by
  rw [UInt32.toNat_toUInt64, UInt32.toNat_mul]
  rfl

theorem one_of_lt_toNat (g d : UInt32) :
    (if g > d then 1 else 0 : UInt64).toNat = if g.toNat > d.toNat then 1 else 0 := by
  by_cases h : g > d
  · rw [if_pos h, if_pos (UInt32.lt_iff_toNat_lt.1 h)]
    rfl
  · rw [if_neg h, if_neg fun hlt => h (UInt32.lt_iff_toNat_lt.2 hlt)]
    rfl

/-- **What `priority` computes**: the sum itself does not wrap. -/
theorem priority_toNat (c : IceConnection) :
    c.priority.toNat =
      2 ^ 32 * min c.localPriority.toNat c.remoteCandidate.priority.toNat +
        2 * max c.localPriority.toNat c.remoteCandidate.priority.toNat % 2 ^ 32 +
        (if c.localPriority.toNat > c.remoteCandidate.priority.toNat then 1 else 0) := by
  have hg : c.localPriority.toNat < 2 ^ 32 := c.localPriority.toNat_lt
  have hd : c.remoteCandidate.priority.toNat < 2 ^ 32 := c.remoteCandidate.priority.toNat_lt
  unfold IceConnection.priority
  dsimp only
  rw [UInt64.toNat_add, UInt64.toNat_add, shifted_toNat, doubled_toNat, one_of_lt_toNat,
    toNat_min, toNat_max]
  -- an equal pair has no last bit, and an unequal one a smaller first part
  split <;> omega

/-- **It is the formula's value just where nothing is lost by doubling.** -/
theorem priority_eq_iff (c : IceConnection) : c.priority.toNat = c.pairPriority ↔ c.Doubles := by
  rw [priority_toNat]
  unfold IceConnection.pairPriority IceConnection.Doubles
  dsimp only
  omega

/-! ## The ranking -/

/-- **The formula ranks by remote priority**, the local one being the same. -/
theorem pairPriority_lt_iff (h : a.localPriority = b.localPriority) :
    a.pairPriority < b.pairPriority ↔ a.remoteCandidate.priority < b.remoteCandidate.priority := by
  rw [UInt32.lt_iff_toNat_lt]
  unfold IceConnection.pairPriority
  rw [h]
  dsimp only
  split <;> split <;> omega

/-- So does `priority`, where it is the formula's value. -/
theorem priority_lt_iff (h : a.localPriority = b.localPriority) (ha : a.Doubles) (hb : b.Doubles) :
    a.priority < b.priority ↔ a.remoteCandidate.priority < b.remoteCandidate.priority := by
  rw [UInt64.lt_iff_toNat_lt, (priority_eq_iff a).2 ha, (priority_eq_iff b).2 hb,
    pairPriority_lt_iff h]

/-- **The ranking is contradicted just by a connection that falls behind.** -/
theorem contradicts_iff (h : a.localPriority = b.localPriority) :
    a.Contradicts b ↔ a.FallsBehind b := by
  have hb : b.remoteCandidate.priority.toNat < 2 ^ 32 := b.remoteCandidate.priority.toNat_lt
  unfold IceConnection.Contradicts IceConnection.FallsBehind
  rw [UInt32.lt_iff_toNat_lt, UInt64.lt_iff_toNat_lt, priority_toNat, priority_toNat, h]
  dsimp only
  split <;> split <;> omega

/-- The sort puts the contradicting connection first, all else being equal. -/
theorem compareConnections_of_contradicts (h : a.Contradicts b)
    (hw : a.writeState = b.writeState) (hr : a.receiving = b.receiving) :
    compareConnections a b = a_is_better := by
  rw [compareConnections_of_eq (congrArg WriteState.value hw), hr, if_neg (by simp),
    if_neg (by simp), if_pos h.2]

/-- **`priority` is the formula's value just for priorities below `2^31`**, and
connections of one local candidate are ranked by their remote priorities just
where neither falls behind the other. -/
theorem pairRanking_iff (a b : IceConnection) (h : a.localPriority = b.localPriority) :
    (a.priority.toNat = a.pairPriority ↔ a.Doubles) ∧
      ((¬ a.Contradicts b ∧ ¬ b.Contradicts a) ↔ ¬ a.FallsBehind b ∧ ¬ b.FallsBehind a) := by
  refine ⟨priority_eq_iff a, ?_⟩
  rw [contradicts_iff h, contradicts_iff h.symm]

/-- A connection of a host candidate, to a peer whose request has this
priority. -/
def hostConnection (remotePriority : UInt32) : IceConnection :=
  { localPriority := 0x7E001EFF, remoteCandidate := { priority := remotePriority } }

theorem pairRanking_iff_host :
    ((hostConnection 1).priority.toNat = (hostConnection 1).pairPriority ↔
        (hostConnection 1).Doubles) ∧
      ((¬ (hostConnection 1).Contradicts (hostConnection 2) ∧
          ¬ (hostConnection 2).Contradicts (hostConnection 1)) ↔
        ¬ (hostConnection 1).FallsBehind (hostConnection 2) ∧
          ¬ (hostConnection 2).FallsBehind (hostConnection 1)) :=
  pairRanking_iff (hostConnection 1) (hostConnection 2) rfl

/-- Of the remote priorities `2^31 - 1` and `2^31` the smaller one wins, and the
pair priority of the other is not the formula's. -/
theorem smaller_remote_wins :
    (hostConnection 0x80000000).priority.toNat ≠ (hostConnection 0x80000000).pairPriority ∧
      (hostConnection 0x7FFFFFFF).Contradicts (hostConnection 0x80000000) ∧
      compareConnections (hostConnection 0x7FFFFFFF) (hostConnection 0x80000000) = a_is_better := by
  refine ⟨by decide, ⟨by decide, by decide⟩, by decide⟩

end Ice

end XrtcServer
