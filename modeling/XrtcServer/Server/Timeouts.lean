import XrtcServer.Server.Events
/-!
# Idle connections

A worker with its clock, which never goes backwards. `Watch` records of each
object when it was accepted and when it was last read, which is what an idle
time is taken from; the code takes it from `last_interaction`, which is zero
until the first read. A tick closes no connection too early exactly where it
finds none that has not been read yet.
-/

namespace XrtcServer

namespace Server

open SignalingWorker

/-- A worker with its clock, in microseconds, and of the object last made at
an address when it was accepted and when it was last read. -/
structure Watch where
  worker : SignalingWorker
  clock : ℕ := 0
  acceptedAt : ℕ → ℕ := fun _ => 0
  readAt : ℕ → Option ℕ := fun _ => none

/-- A callback of the worker's loop, of which the clock gives the time. -/
inductive WatchEvent where
  | newConn (fd : ℤ) (addr : ℕ)
  | read (fd : ℤ) (fuel : ℕ) (data : List UInt8)
  | write (fd : ℤ) (results : List ℤ)
  | tick (addr : ℕ)
  | response (msg : RtcMsg) (block : Option (List UInt8))

namespace Watch

variable (parse : List UInt8 → Except JsonException Json) (dump : Json → List UInt8)

/-- A callback at a time. -/
def callback (s : Watch) (now : ℕ) : WatchEvent → Option Watch
  | .newConn fd addr =>
    (s.worker.step parse dump (.newConn fd addr)).map fun r =>
      { worker := r.1, clock := now, acceptedAt := Function.update s.acceptedAt addr now,
        readAt := Function.update s.readAt addr none }
  | .read fd fuel data =>
    (s.worker.step parse dump (.read fd now fuel data)).map fun r =>
      { worker := r.1, clock := now, acceptedAt := s.acceptedAt,
        readAt := match s.worker.connAt fd with
          | some addr => Function.update s.readAt addr (some now)
          | none => s.readAt }
  | .write fd results =>
    (s.worker.step parse dump (.write fd results)).map fun r => { s with worker := r.1, clock := now }
  | .tick addr =>
    (s.worker.step parse dump (.timeout addr now)).map fun r => { s with worker := r.1, clock := now }
  | .response msg block =>
    (s.worker.step parse dump (.response msg block)).map fun r =>
      { s with worker := r.1, clock := now }

/-- The next callback. The clock does not go backwards, and is an
`unsigned long`. -/
def step (s : Watch) (e : ℕ × WatchEvent) : Option Watch :=
  if s.clock ≤ e.1 ∧ e.1 < 2 ^ 64 then s.callback parse dump e.1 e.2 else none

/-- The worker `id`, without connections. The option is an `int`. -/
def start (id : ℕ) (connectionTimeout : Int32) : Watch :=
  { worker := { id, connectionTimeout := connectionTimeout.toInt } }

/-- When the object at an address was last heard of. -/
def heardAt (s : Watch) (addr : ℕ) : ℕ := max (s.acceptedAt addr) ((s.readAt addr).getD 0)

end Watch

/-- A tick closes a connection only after `connection_timeout` without a
word of it. -/
def ClosesIdle (s : Watch) (e : ℕ × WatchEvent) (s' : Watch) : Prop :=
  match e.2 with
  | .tick addr => s'.worker.heap addr = none →
    s.worker.connectionTimeout ≤ (e.1 : ℤ) - s.heardAt addr
  | _ => True

/-- A tick of a connection that has not been read yet comes
`connection_timeout` after its acceptance, or while the clock itself is
below `connection_timeout`. -/
def ReadOrDue (s : Watch) (e : ℕ × WatchEvent) (_ : Watch) : Prop :=
  match e.2 with
  | .tick addr => s.readAt addr = none → (e.1 : ℤ) < s.worker.connectionTimeout ∨
    s.worker.connectionTimeout ≤ (e.1 : ℤ) - s.acceptedAt addr
  | _ => True

variable {parse : List UInt8 → Except JsonException Json} {dump : Json → List UInt8}
variable {s s' : Watch} {e : ℕ × WatchEvent} {w' : SignalingWorker} {c : TcpConnection}
variable {now addr : ℕ}

/-! ## What the worker keeps -/

/-- `last_interaction` is the time of the last read, zero before the first,
and nothing has happened after the clock. -/
structure Watch.Stamped (s : Watch) (addr : ℕ) (c : TcpConnection) : Prop where
  interaction : c.lastInteraction = (s.readAt addr).getD 0
  accepted : s.acceptedAt addr ≤ s.clock
  read : ∀ t, s.readAt addr = some t → s.acceptedAt addr ≤ t ∧ t ≤ s.clock

/-- So it is of every connection, and the option is an `int`. -/
structure Watch.Sound (s : Watch) : Prop where
  stamped : ∀ addr c, s.worker.heap addr = some c → s.Stamped addr c
  option : s.worker.connectionTimeout < 2 ^ 31

theorem Watch.sound_start (id : ℕ) (connectionTimeout : Int32) :
    (Watch.start id connectionTimeout).Sound :=
  ⟨fun _ _ h => (nomatch h), connectionTimeout.toInt_lt⟩

/-- A connection with the same times, later. -/
theorem Watch.Stamped.later (h : s.Stamped addr c) {d : TcpConnection}
    (hd : d.lastInteraction = c.lastInteraction) (hclock : s.clock ≤ s'.clock)
    (haccepted : s'.acceptedAt addr = s.acceptedAt addr) (hread : s'.readAt addr = s.readAt addr) :
    s'.Stamped addr d where
  interaction := by rw [hd, hread, h.interaction]
  accepted := by
    rw [haccepted]
    exact Nat.le_trans h.accepted hclock
  read t ht := by
    rw [hread] at ht
    rw [haccepted]
    exact ⟨(h.read t ht).1, Nat.le_trans (h.read t ht).2 hclock⟩

/-- Where the times stay, a connection is one that was there, with its
last interaction. -/
theorem Watch.Sound.later (h : s.Sound) (hclock : s.clock ≤ s'.clock)
    (haccepted : s'.acceptedAt = s.acceptedAt) (hread : s'.readAt = s.readAt)
    (htimeout : s'.worker.connectionTimeout = s.worker.connectionTimeout)
    (hheap : ∀ a d, s'.worker.heap a = some d →
      ∃ c, s.worker.heap a = some c ∧ d.lastInteraction = c.lastInteraction) : s'.Sound where
  stamped a d hd := by
    obtain ⟨c, hc, htime⟩ := hheap a d hd
    exact (h.stamped a c hc).later htime hclock (by rw [haccepted]) (by rw [hread])
  option := by
    rw [htimeout]
    exact h.option

/-- So it is after an event that is no read. -/
theorem Watch.Sound.reading (h : s.Sound) {w' : SignalingWorker} {sent : List RtcMsg}
    {event : WorkerEvent} {now : ℕ} (hclock : s.clock ≤ now)
    (hs : s.worker.step parse dump event = some (w', sent))
    (hnew : ∀ fd addr, event ≠ .newConn fd addr)
    (hread : ∀ fd now fuel data, event ≠ .read fd now fuel data) :
    Watch.Sound { s with worker := w', clock := now } := by
  refine h.later hclock rfl rfl (step_connectionTimeout hs) fun a d hd => ?_
  obtain ⟨c, hc, -, htime, -⟩ := (step_happens hs).reading hnew hread hd
  exact ⟨c, hc, htime⟩

theorem Watch.step_eq_some :
    s.step parse dump e = some s' ↔
      (s.clock ≤ e.1 ∧ e.1 < 2 ^ 64) ∧ s.callback parse dump e.1 e.2 = some s' := by
  unfold Watch.step
  split
  · rename_i h
    exact (and_iff_right h).symm
  · rename_i h
    exact iff_of_false nofun fun k => h k.1

/-- **Every event keeps the times.** -/
theorem Watch.Sound.step (h : s.Sound) (hs : s.step parse dump e = some s') : s'.Sound := by
  obtain ⟨now, e⟩ := e
  rw [Watch.step_eq_some] at hs
  obtain ⟨hclock, hs⟩ := hs
  cases e with
  | newConn fd addr =>
    obtain ⟨⟨w', sent⟩, hw, rfl⟩ := Option.map_eq_some_iff.1 hs
    have hsame : ∀ a d, a ≠ addr → s.worker.heap a = some d → Watch.Stamped
        { worker := w', clock := now, acceptedAt := Function.update s.acceptedAt addr now,
          readAt := Function.update s.readAt addr none } a d := fun a d ha hd =>
      (h.stamped a d hd).later rfl hclock.1 (Function.update_of_ne ha ..)
        (Function.update_of_ne ha ..)
    refine ⟨fun a d hd => ?_, (step_connectionTimeout hw).symm ▸ h.option⟩
    cases step_happens hw with
    | refused hfree hheap =>
      dsimp only at hd
      rw [hheap] at hd
      refine hsame a d (fun ha => ?_) hd
      rw [ha, hfree] at hd
      cases hd
    | opened hfree hnew hheap =>
      dsimp only at hd
      rw [hheap] at hd
      rcases update_some hd with ⟨rfl, rfl⟩ | ⟨ha, hd⟩
      · subst hnew
        refine ⟨?_, ?_, ?_⟩
        · dsimp only
          rw [Function.update_self]
          rfl
        · dsimp only
          rw [Function.update_self]
        · intro t ht
          dsimp only at ht
          rw [Function.update_self] at ht
          cases ht
      · exact hsame a d ha hd
  | read fd fuel data =>
    obtain ⟨⟨w', sent⟩, hw, rfl⟩ := Option.map_eq_some_iff.1 hs
    refine ⟨fun a d hd => ?_, (step_connectionTimeout hw).symm ▸ h.option⟩
    cases step_happens hw with
    | kept haddr hc hheap =>
      rename_i addr c
      dsimp only at hd
      rw [hheap] at hd
      rw [haddr]
      rcases update_some hd with ⟨rfl, rfl⟩ | ⟨ha, hd⟩
      · have hread : Function.update s.readAt a (some now) a = some now := Function.update_self ..
        refine ⟨?_, Nat.le_trans (h.stamped a c hc).accepted hclock.1, fun t ht => ?_⟩
        · rw [readQuery_lastInteraction]
          dsimp only
          rw [hread]
          rfl
        · dsimp only at ht
          rw [hread] at ht
          obtain rfl := Option.some.inj ht
          exact ⟨Nat.le_trans (h.stamped a c hc).accepted hclock.1, Nat.le_refl _⟩
      · exact (h.stamped a d hd).later rfl hclock.1 rfl (Function.update_of_ne ha ..)
    | readClosed haddr hc hheap =>
      dsimp only at hd
      rw [hheap] at hd
      rw [haddr]
      obtain ⟨ha, hd⟩ := update_none hd
      exact (h.stamped a d hd).later rfl hclock.1 rfl (Function.update_of_ne ha ..)
  | write fd results =>
    obtain ⟨⟨w', sent⟩, hw, rfl⟩ := Option.map_eq_some_iff.1 hs
    exact h.reading hclock.1 hw (by simp) (by simp)
  | tick addr =>
    obtain ⟨⟨w', sent⟩, hw, rfl⟩ := Option.map_eq_some_iff.1 hs
    exact h.reading hclock.1 hw (by simp) (by simp)
  | response msg block =>
    unfold Watch.callback at hs
    obtain ⟨⟨w', sent⟩, hw, rfl⟩ := Option.map_eq_some_iff.1 hs
    exact h.reading hclock.1 hw (by simp) (by simp)

/-! ## The ticks -/

/-- **A tick closes a connection** whose time since the last interaction is
`connection_timeout` or more, both taken as `unsigned long`. -/
theorem processTimeout_closes (w : SignalingWorker) (now addr : ℕ) (c : TcpConnection) :
    (w.processTimeout now addr c).heap addr = none ↔ w.heap addr = none ∨
      w.connectionTimeout % 2 ^ 64 ≤ ((now : ℤ) - c.lastInteraction) % 2 ^ 64 := by
  unfold processTimeout
  split
  · rename_i hdue
    refine iff_of_true ?_ (.inr hdue)
    exact Function.update_self ..
  · rename_i hdue
    exact ⟨.inl, fun h => h.resolve_right hdue⟩

/-- **A tick closes too early exactly where the connection has not been read
yet**, and its acceptance is not long enough ago. -/
theorem closesIdle_iff (h : s.Sound) (hs : s.step parse dump e = some s') :
    ClosesIdle s e s' ↔ ReadOrDue s e s' := by
  obtain ⟨now, e⟩ := e
  rw [Watch.step_eq_some] at hs
  obtain ⟨hclock, hs⟩ := hs
  cases e with
  | tick addr =>
    obtain ⟨⟨w', sent⟩, hw, rfl⟩ := Option.map_eq_some_iff.1 hs
    cases step_happens hw with
    | timeout hc hheap =>
      rename_i c
      subst hheap
      obtain ⟨hinteraction, haccepted, hread⟩ := h.stamped addr c hc
      have hoption := h.option
      unfold ClosesIdle ReadOrDue Watch.heardAt
      dsimp only at hclock ⊢
      rw [processTimeout_closes, hc, or_iff_right (Option.some_ne_none c)]
      cases hlast : s.readAt addr with
      | none =>
        rw [hlast, Option.getD_none] at hinteraction
        have hnow : ((now : ℤ) - ((0 : ℕ) : ℤ)) % 2 ^ 64 = now := by omega
        rw [hinteraction, hnow, Option.getD_none, Nat.max_zero, forall_prop_of_true rfl]
        -- a negative option is a large number, and any time is longer
        omega
      | some t =>
        obtain ⟨hle, hpast⟩ := hread t hlast
        rw [hlast, Option.getD_some] at hinteraction
        have hidle : ((now : ℤ) - (t : ℤ)) % 2 ^ 64 = now - t := by omega
        rw [hinteraction, hidle, Option.getD_some, Nat.max_eq_right hle]
        refine iff_of_true (fun hclosed => ?_) nofun
        omega
  | _ => exact Iff.rfl

/-- **A worker closes idle connections only, in exactly the runs in which no
tick finds a connection that has not been read yet before its time.** -/
theorem closesIdle_iff_readOrDue (parse : List UInt8 → Except JsonException Json)
    (dump : Json → List UInt8) (id : ℕ) (connectionTimeout : Int32)
    (es : List (ℕ × WatchEvent)) :
    Common.EveryStep (Watch.step parse dump) ClosesIdle (Watch.start id connectionTimeout) es ↔
      Common.EveryStep (Watch.step parse dump) ReadOrDue (Watch.start id connectionTimeout) es :=
  Common.everyStep_iff_of_inv (I := Watch.Sound)
    (fun s e s' (h : s.Sound) (hs : s.step parse dump e = some s') => closesIdle_iff h hs)
    (fun s e s' (h : s.Sound) (hs : s.step parse dump e = some s') _ => h.step hs)
    (Watch.sound_start id connectionTimeout)

/-- A connection is accepted, and its timer goes off 100 ms later. -/
def firstTick : List (ℕ × WatchEvent) :=
  [(1700000000000000, .newConn 7 100), (1700000000100000, .tick 100)]

/-- **It is closed**, with a timeout of five seconds. -/
theorem first_tick_closes :
    ¬ Common.EveryStep (Watch.step parseStop dumpSuccess) ClosesIdle (Watch.start 0 5000000)
      firstTick := by
  intro h
  have hclosed := (h _ rfl).2 _ rfl
  exact absurd (hclosed.1 (by decide +kernel)) (by decide +kernel)

end Server

end XrtcServer
