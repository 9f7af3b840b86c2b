import XrtcServer.Ice.Methods
/-!
# The deadlines of `update_state`

A connection that is writable becomes unreliable when its fifth unanswered
ping is late and its first was sent five seconds ago, and it times out after
fifteen. The first deadline is computed in 64 bits and stored in an `int`, so
from an uptime of some 24 days on it lies in the past whatever it should be
(`movesInTime_iff`).
-/

namespace XrtcServer

namespace Ice

open IceTransportChannel IceConnection

/-! ## The deadlines, computed exactly -/

namespace IceConnection

variable (c : IceConnection) (now : ℤ)

/-- `clamp(2 * rtt, MIN_RTT, MAX_RTT)`. -/
def allowedRtt : ℤ := max MIN_RTT (min (2 * c.rtt) MAX_RTT)

/-- **Five pings are unanswered**, the fifth is late, and the first was sent
more than five seconds ago. -/
def PingsFail : Prop :=
  ∃ first fifth, c.pingsSinceLastResponses[0]? = some first ∧
    c.pingsSinceLastResponses[4]? = some fifth ∧
    fifth.sentTime + c.allowedRtt < now ∧
    first.sentTime + CONNECTION_WRITE_CONNECT_TIMEOUT < now

/-- **The first unanswered ping was sent more than fifteen seconds ago.** -/
def Overdue : Prop :=
  ∃ first, c.pingsSinceLastResponses[0]? = some first ∧
    first.sentTime + CONNECTION_WRITE_TIMEOUT < now

/-! ## When the deadlines are kept -/

/-- The time of a ping that the machine keeps the deadlines of. -/
def Fits (ping : SentPing) (minTime : ℤ) : Prop := ping.sentTime + minTime < 2 ^ 63

/-- The expected response time of a ping, as the `int` it is stored in. -/
def storedDeadline (ping : SentPing) : ℤ := toInt32 (ping.sentTime + c.clampedRtt)

/-- **The deadlines are kept.** Where the first ping was sent five seconds ago
the fifth one is late by the stored deadline just where it is by the exact
one, and the fifteen seconds fit once it is; before that, the stored deadline
only counts where the five seconds do not fit. -/
def DeadlinesKept : Prop :=
  ∀ first, c.pingsSinceLastResponses[0]? = some first →
    match c.writeState with
    | .writable =>
      ∀ fifth, c.pingsSinceLastResponses[4]? = some fifth →
        if first.sentTime + CONNECTION_WRITE_CONNECT_TIMEOUT < now then
          (fifth.sentTime + c.allowedRtt < now ↔ c.storedDeadline fifth < now) ∧
            (fifth.sentTime + c.allowedRtt < now → Fits first CONNECTION_WRITE_TIMEOUT)
        else Fits first CONNECTION_WRITE_CONNECT_TIMEOUT ∨ now ≤ c.storedDeadline fifth
    | .writeUnreliable | .writeInit => Fits first CONNECTION_WRITE_TIMEOUT
    | .writeTimeout => True

end IceConnection

variable {s : IceTransportChannel} {c : IceConnection} {id : ℕ} {now : ℤ}

/-- **`update_state` moves the write state exactly as the deadlines say.** -/
structure MovesInTime (s : IceTransportChannel) (id : ℕ) (now : ℤ) : Prop where
  unreliable : (s.heap id).writeState = .writable →
    (((degrade s id now).heap id).writeState = .writeUnreliable ↔ (s.heap id).PingsFail now)
  timeout : ((degrade s id now).heap id).writeState = .writeUnreliable ∨
      ((degrade s id now).heap id).writeState = .writeInit →
    (((IceConnection.updateState s id now).heap id).writeState = .writeTimeout ↔
      (s.heap id).Overdue now)

/-! ## The write state -/

theorem writeState_of_unselected {d : IceConnection} (h : unselected c = unselected d) :
    c.writeState = d.writeState := by
  have hstate := congrArg IceConnection.writeState h
  exact hstate

theorem setWriteState_writeState (s : IceTransportChannel) (id : ℕ) (state : WriteState) (now : ℤ) :
    ((setWriteState s id state now).heap id).writeState = state :=
  writeState_of_unselected (setWriteState_heap s id state now)

theorem degrade_writeState (s : IceTransportChannel) (id : ℕ) (now : ℤ) :
    ((degrade s id now).heap id).writeState =
      if (s.heap id).becomesUnreliable now then .writeUnreliable else (s.heap id).writeState := by
  have hheap := (use_noted s id).heap
  unfold degrade
  dsimp only
  rw [hheap]
  split
  · exact setWriteState_writeState _ id _ now
  · rw [hheap]

theorem updateReceiving_writeState (s : IceTransportChannel) (id : ℕ) (now : ℤ) :
    ((updateReceiving s id now).heap id).writeState = (s.heap id).writeState := by
  have hheap := (use_noted s id).heap
  unfold updateReceiving
  dsimp only
  rw [hheap]
  split
  · rw [hheap]
  · have hsignal := (sortConnectionsAndUpdateState_reselected ((s.use id).setConn id
      { s.heap id with receiving := (s.heap id).isReceiving now }) now).onlySelects.heap id
    refine (writeState_of_unselected hsignal).trans ?_
    rw [setConn_heap_self]

theorem failAndDestroy_writeState (s : IceTransportChannel) (id : ℕ) (now : ℤ) :
    ((failAndDestroy s id now).heap id).writeState = (s.heap id).writeState := by
  unfold failAndDestroy
  rw [destroy_heap_self]
  have htold := (onConnectionDestroyed_onlySelects
    (((s.use id).setConn id { s.heap id with state := .failed }).use id) id now).heap id
  refine (writeState_of_unselected htold).trans ?_
  rw [(use_noted _ id).heap, setConn_heap_self]

/-- **The write state after `update_state`.** -/
theorem updateState_writeState (s : IceTransportChannel) (id : ℕ) (now : ℤ) :
    ((IceConnection.updateState s id now).heap id).writeState =
      if (s.heap id).diesAt now then .writeTimeout
      else ((degrade s id now).heap id).writeState := by
  unfold IceConnection.updateState
  dsimp only
  rw [updateReceiving_writeState, degrade_timesOut]
  split
  · rw [failAndDestroy_writeState, setWriteState_writeState]
  · rfl

/-! ## The tests of the machine -/

/-- The clock and the send times are of 64 bits. -/
structure Clocked (c : IceConnection) (now : ℤ) : Prop where
  nonneg : 0 ≤ now
  clock : now < 2 ^ 63
  sent : ∀ ping ∈ c.pingsSinceLastResponses, -2 ^ 63 ≤ ping.sentTime ∧ ping.sentTime < 2 ^ 63

theorem tooManyPingFailed_iff :
    c.tooManyPingFailed CONNECTION_WRITE_CONNECT_FAILS c.clampedRtt now ↔
    ∃ fifth, c.pingsSinceLastResponses[4]? = some fifth ∧ c.storedDeadline fifth < now := by
  unfold tooManyPingFailed
  have hfails : CONNECTION_WRITE_CONNECT_FAILS - 1 = 4 := rfl
  rw [hfails]
  split
  · rename_i hshort
    have hnone : c.pingsSinceLastResponses[4]? = none :=
      List.getElem?_eq_none (Nat.lt_succ_iff.1 hshort)
    simp [hnone]
  · cases hfifth : c.pingsSinceLastResponses[4]? with
    | none => simp
    | some fifth => simp [storedDeadline]

/-- **A deadline that does not fit has passed**: the sum has become negative. -/
theorem tooLongWithoutResponse_iff {first : SentPing} (minTime : ℤ) (h : Clocked c now)
    (hfirst : c.pingsSinceLastResponses[0]? = some first) (hmin : 0 ≤ minTime ∧ minTime < 2 ^ 63) :
    c.tooLongWithoutResponse minTime now ↔
      (Fits first minTime → first.sentTime + minTime < now) := by
  have hsent := h.sent first (List.mem_of_getElem? hfirst)
  have hnonneg := h.nonneg
  unfold tooLongWithoutResponse Fits toInt64
  split
  · rename_i hnil
    rw [hnil] at hfirst
    cases hfirst
  · rename_i ping pings hpings
    rw [hpings] at hfirst
    obtain rfl : ping = first := Option.some.inj hfirst
    rw [decide_eq_true_eq]
    by_cases hfits : ping.sentTime + minTime < 2 ^ 63
    · have hexact : (ping.sentTime + minTime).bmod (2 ^ 64) = ping.sentTime + minTime := by
        rw [Int.bmod_eq_of_le] <;> omega
      rw [hexact]
      exact ⟨fun hlate _ => hlate, fun hlate => hlate hfits⟩
    · have hwrapped : (ping.sentTime + minTime).bmod (2 ^ 64) =
          ping.sentTime + minTime - 2 ^ 64 := by
        rw [← Int.sub_bmod_right, Int.bmod_eq_of_le] <;> omega
      rw [hwrapped]
      refine iff_of_true ?_ fun hlate => absurd hlate hfits
      omega

/-- The machine keeps a deadline that fits, and no other. -/
theorem keeps_iff_fits {first : SentPing} (minTime : ℤ) (h : Clocked c now)
    (hfirst : c.pingsSinceLastResponses[0]? = some first) (hmin : 0 ≤ minTime ∧ minTime < 2 ^ 63) :
    (c.tooLongWithoutResponse minTime now ↔ first.sentTime + minTime < now) ↔
      Fits first minTime := by
  have hclock := h.clock
  rw [tooLongWithoutResponse_iff minTime h hfirst hmin]
  unfold Fits
  constructor
  · intro hiff
    by_contra hnot
    have hlate := hiff.1 fun hfits => absurd hfits hnot
    omega
  · exact fun hfits => ⟨fun hlate => hlate hfits, fun hlate _ => hlate⟩

/-! ## The moves -/

theorem degrade_moves_iff : ((degrade s id now).heap id).writeState = .writeUnreliable ↔
    (s.heap id).becomesUnreliable now ∨ (s.heap id).writeState = .writeUnreliable := by
  rw [degrade_writeState]
  cases (s.heap id).becomesUnreliable now <;> simp

/-- What `update_state` can still move after its first test. -/
theorem degrade_waits_iff : ((degrade s id now).heap id).writeState = .writeUnreliable ∨
      ((degrade s id now).heap id).writeState = .writeInit ↔
    (s.heap id).becomesUnreliable now ∨ (s.heap id).writeState = .writeUnreliable ∨
      (s.heap id).writeState = .writeInit := by
  rw [degrade_writeState]
  cases (s.heap id).becomesUnreliable now <;> simp

theorem updateState_moves_iff (h : ((degrade s id now).heap id).writeState = .writeUnreliable ∨
      ((degrade s id now).heap id).writeState = .writeInit) :
    ((IceConnection.updateState s id now).heap id).writeState = .writeTimeout ↔
      (s.heap id).tooLongWithoutResponse CONNECTION_WRITE_TIMEOUT now := by
  have hwaits := degrade_waits_iff.1 h
  have hdies : (s.heap id).diesAt now =
      (s.heap id).tooLongWithoutResponse CONNECTION_WRITE_TIMEOUT now := by
    have hmoves : ((s.heap id).becomesUnreliable now ||
        (s.heap id).writeState = .writeUnreliable || (s.heap id).writeState = .writeInit) = true := by
      simpa [or_assoc] using hwaits
    rw [diesAt, hmoves, Bool.true_and]
  rw [updateState_writeState, hdies]
  cases (s.heap id).tooLongWithoutResponse CONNECTION_WRITE_TIMEOUT now with
  | true => simp
  | false =>
    rcases h with h | h
    · simp [h]
    · simp [h]

/-- The first test, of a writable connection with five unanswered pings. -/
theorem becomesUnreliable_iff {first fifth : SentPing} (h : Clocked c now)
    (hstate : c.writeState = .writable) (hfirst : c.pingsSinceLastResponses[0]? = some first)
    (hfifth : c.pingsSinceLastResponses[4]? = some fifth) :
    c.becomesUnreliable now ↔ c.storedDeadline fifth < now ∧
      (Fits first CONNECTION_WRITE_CONNECT_TIMEOUT →
        first.sentTime + CONNECTION_WRITE_CONNECT_TIMEOUT < now) := by
  have hlate := tooLongWithoutResponse_iff CONNECTION_WRITE_CONNECT_TIMEOUT h hfirst (by decide)
  simp only [becomesUnreliable, Bool.and_eq_true, decide_eq_true_eq, hstate, true_and,
    tooManyPingFailed_iff, hlate, hfifth, Option.some.injEq, exists_eq_left']

theorem pingsFail_iff {first fifth : SentPing}
    (hfirst : c.pingsSinceLastResponses[0]? = some first)
    (hfifth : c.pingsSinceLastResponses[4]? = some fifth) :
    c.PingsFail now ↔ fifth.sentTime + c.allowedRtt < now ∧
      first.sentTime + CONNECTION_WRITE_CONNECT_TIMEOUT < now := by
  simp [PingsFail, hfirst, hfifth]

/-- Without five unanswered pings nothing fails. -/
theorem not_fails_of_none (now : ℤ) (h : c.pingsSinceLastResponses[4]? = none) :
    ¬ c.becomesUnreliable now ∧ ¬ c.PingsFail now := by
  constructor
  · simp [becomesUnreliable, tooManyPingFailed_iff, h]
  · rintro ⟨first, fifth, -, hfifth, -⟩
    rw [h] at hfifth
    cases hfifth

/-- **A writable connection**, with five unanswered pings. -/
theorem writable_keeps_iff {first fifth : SentPing} (h : Clocked c now)
    (hstate : c.writeState = .writable) (hfirst : c.pingsSinceLastResponses[0]? = some first)
    (hfifth : c.pingsSinceLastResponses[4]? = some fifth) :
    (c.becomesUnreliable now ↔ c.PingsFail now) ∧
        (c.becomesUnreliable now →
          (c.tooLongWithoutResponse CONNECTION_WRITE_TIMEOUT now ↔
            first.sentTime + CONNECTION_WRITE_TIMEOUT < now)) ↔
      if first.sentTime + CONNECTION_WRITE_CONNECT_TIMEOUT < now then
        (fifth.sentTime + c.allowedRtt < now ↔ c.storedDeadline fifth < now) ∧
          (fifth.sentTime + c.allowedRtt < now → Fits first CONNECTION_WRITE_TIMEOUT)
      else Fits first CONNECTION_WRITE_CONNECT_TIMEOUT ∨ now ≤ c.storedDeadline fifth := by
  rw [keeps_iff_fits _ h hfirst (by decide), becomesUnreliable_iff h hstate hfirst hfifth,
    pingsFail_iff hfirst hfifth]
  have hclock := h.clock
  split
  · rename_i hlate
    simp only [hlate, implies_true, and_true]
    constructor
    · rintro ⟨hsame, hfits⟩
      exact ⟨hsame.symm, fun hfails => hfits (hsame.2 hfails)⟩
    · rintro ⟨hsame, hfits⟩
      exact ⟨hsame.symm, fun hstored => hfits (hsame.2 hstored)⟩
  · rename_i hearly
    -- the exact test fails, so the one of the machine has to
    simp only [hearly, and_false, iff_false, not_and]
    constructor
    · rintro ⟨hnot, -⟩
      by_cases hfits : Fits first CONNECTION_WRITE_CONNECT_TIMEOUT
      · exact .inl hfits
      · refine .inr (not_lt.1 fun hstored => ?_)
        exact hnot hstored fun hfits' => absurd hfits' hfits
    · rintro hkept
      have hnot : c.storedDeadline fifth < now →
          ¬ (Fits first CONNECTION_WRITE_CONNECT_TIMEOUT → False) := by
        rintro hstored himp
        rcases hkept with hfits | hle
        · exact himp hfits
        · omega
      exact ⟨hnot, fun hboth => absurd hboth.2 (hnot hboth.1)⟩

/-- Each of the two moves is made by one test. -/
theorem movesInTime_iff_tests (s : IceTransportChannel) (id : ℕ) (now : ℤ) : MovesInTime s id now ↔
    ((s.heap id).writeState = .writable →
      ((s.heap id).becomesUnreliable now ↔ (s.heap id).PingsFail now)) ∧
    ((s.heap id).becomesUnreliable now ∨ (s.heap id).writeState = .writeUnreliable ∨
        (s.heap id).writeState = .writeInit →
      ((s.heap id).tooLongWithoutResponse CONNECTION_WRITE_TIMEOUT now ↔
        (s.heap id).Overdue now)) := by
  have hmoves : (s.heap id).writeState = .writable →
      (((degrade s id now).heap id).writeState = .writeUnreliable ↔
        (s.heap id).becomesUnreliable now) := by
    intro hstate
    rw [degrade_moves_iff, hstate]
    simp
  constructor
  · rintro ⟨hunreliable, htimeout⟩
    refine ⟨fun hstate => (hmoves hstate).symm.trans (hunreliable hstate), fun hwaits => ?_⟩
    have hdegraded := degrade_waits_iff.2 hwaits
    rw [← updateState_moves_iff hdegraded, htimeout hdegraded]
  · rintro ⟨hunreliable, htimeout⟩
    refine ⟨fun hstate => (hmoves hstate).trans (hunreliable hstate), fun hdegraded => ?_⟩
    rw [updateState_moves_iff hdegraded, htimeout (degrade_waits_iff.1 hdegraded)]

/-- **When the write state moves as the deadlines say**, at any time of a
64-bit clock. -/
theorem movesInTime_iff (s : IceTransportChannel) (id : ℕ) (now : ℤ)
    (h : Clocked (s.heap id) now) : MovesInTime s id now ↔ (s.heap id).DeadlinesKept now := by
  rw [movesInTime_iff_tests]
  unfold DeadlinesKept
  cases hfirst : (s.heap id).pingsSinceLastResponses[0]? with
  | none =>
    -- nothing is unanswered, so neither test nor deadline has a ping to go by
    have hnil : (s.heap id).pingsSinceLastResponses = [] := by simpa using hfirst
    have hnot := not_fails_of_none (c := s.heap id) now (by simp [hnil])
    have hoverdue : ¬ (s.heap id).Overdue now := by
      rintro ⟨first, hsome, -⟩
      rw [hfirst] at hsome
      cases hsome
    have hlong : ¬ (s.heap id).tooLongWithoutResponse CONNECTION_WRITE_TIMEOUT now := by
      simp [tooLongWithoutResponse, hnil]
    refine iff_of_true ⟨fun _ => iff_of_false hnot.1 hnot.2,
      fun _ => iff_of_false hlong hoverdue⟩ ?_
    intro first hsome
    cases hsome
  | some first =>
    have hoverdue : (s.heap id).Overdue now ↔ first.sentTime + CONNECTION_WRITE_TIMEOUT < now := by
      simp [Overdue, hfirst]
    have hfits := keeps_iff_fits CONNECTION_WRITE_TIMEOUT h hfirst (by decide)
    simp only [Option.some.injEq, forall_eq', hoverdue]
    -- the write state tells which of the two tests can be reached
    cases hstate : (s.heap id).writeState with
    | writable =>
      cases hfifth : (s.heap id).pingsSinceLastResponses[4]? with
      | none =>
        have hnot := not_fails_of_none now hfifth
        simp [hnot.1, hnot.2]
      | some fifth => simpa using writable_keeps_iff h hstate hfirst hfifth
    | writeUnreliable =>
      simpa [hstate] using hfits
    | writeInit =>
      simpa [hstate] using hfits
    | writeTimeout =>
      have hnot : ¬ (s.heap id).becomesUnreliable now := by simp [becomesUnreliable, hstate]
      simp [hnot]

/-- A writable connection after some 25 days of uptime, with a round trip time
of one second and five unanswered pings, the fifth sent at `sent`. -/
def aged (sent : ℤ) : IceTransportChannel where
  ports := []
  heap := fun _ => {
    writeState := .writable
    rtt := 1000
    pingsSinceLastResponses :=
      [⟨"1", 2147480000⟩, ⟨"2", 2147481000⟩, ⟨"3", 2147482000⟩, ⟨"4", 2147483000⟩, ⟨"5", sent⟩] }

theorem clocked_aged {sent : ℤ} (hsent : 0 ≤ sent ∧ sent < 2 ^ 63) (h : 0 ≤ now ∧ now < 2 ^ 63) :
    Clocked ((aged sent).heap 0) now := by
  refine ⟨h.1, h.2, fun ping hping => ?_⟩
  simp only [aged, List.mem_cons, List.not_mem_nil, or_false] at hping
  rcases hping with rfl | rfl | rfl | rfl | rfl <;> dsimp only <;> omega

theorem movesInTime_iff_early :
    Clocked ((aged 2147481000).heap 0) 2147484000 ∧
      (MovesInTime (aged 2147481000) 0 2147484000 ↔
        ((aged 2147481000).heap 0).DeadlinesKept 2147484000) := by
  have hclocked : Clocked ((aged 2147481000).heap 0) 2147484000 :=
    clocked_aged (by decide) (by decide)
  exact ⟨hclocked, movesInTime_iff _ _ _ hclocked⟩

/-- A ping sent a tenth of a second ago counts as failed, where two seconds
are allowed for. -/
theorem late_uptime_degrades :
    Clocked ((aged 2147485000).heap 0) 2147485100 ∧
    ((degrade (aged 2147485000) 0 2147485100).heap 0).writeState = .writeUnreliable ∧
    ¬ MovesInTime (aged 2147485000) 0 2147485100 := by
  have hunreliable : ((aged 2147485000).heap 0).becomesUnreliable 2147485100 = true := by decide
  have hmoved := degrade_moves_iff.2 (.inl hunreliable)
  refine ⟨clocked_aged (by decide) (by decide), hmoved, fun h => ?_⟩
  obtain ⟨first, fifth, -, hfifth, hlate, -⟩ := (h.unreliable rfl).1 hmoved
  obtain rfl := Option.some.inj hfifth
  exact absurd hlate (by decide)

end Ice

end XrtcServer
