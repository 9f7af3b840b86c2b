import XrtcServer.Common.Relay
import XrtcServer.Common.Simulation
import XrtcServer.Server.OneOwner
/-!
# The signaling server comes to rest

Accepting a connection, and stopping, is so much work for the threads and no
more (`work`), and as long as some of it is left one of them can do it. So
the threads come to rest, and when they do every connection accepted has been
opened, and a server that is to stop has stopped.
-/

namespace XrtcServer

namespace Server

open Base Base.QueueSystem Common

variable {parse : List UInt8 → Except JsonException Json} {dump : Json → List UInt8}

/-! ## The work there is -/

/-- What it takes to make good a notice, the reading of it included. -/
def Notice.work : Notice → ℕ
  | .QUIT => 2
  | .NEW_CONN => 12
  | .RTC_MSG => 2

def WorkerPhase.work : WorkerPhase → ℕ
  | .opening _ | .answering | .ending => 1
  | .idle | .consuming | .stopped => 0

def WorkerThread.work (w : WorkerThread) : ℕ :=
  (w.pipe.map Notice.work).sum + w.phase.work + w.connfds.work

/-- What the server has to do, with `n` workers to stop in the end. -/
def ServerPhase.work (n : ℕ) : ServerPhase → ℕ
  | .idle => 4 * n
  | .producing _ | .notifying _ => 4 * n + 13
  | .stopping k => 4 * (n - k)
  | .joining k => 4 * (n - k) - 3
  | .stopped => 0

def SignalingServer.work (s : SignalingServer) : ℕ :=
  s.phase.work s.workerNum + ∑ k ∈ Finset.range s.workerNum, (s.workers k).work

/-- Whether it is a step of the server's or a worker's own, or one that comes
from outside or from a connection. -/
def SignalingEvent.own : SignalingEvent → Bool
  | .accept _ | .quit | .post _ | .callback .. => false
  | _ => true

section Worker

variable {D : List ℤ} {r : Role} {w w' : WorkerThread}

end Worker

/-! ## So do they all -/

variable {s s' : SignalingServer} {n k : ℕ} {w : WorkerThread}

/-- What is numbered, each by another of finitely many things, leaves a
number. -/
theorem exists_none {α β : Type*} {f : ℕ → Option α} {l : List β} (R : ℕ → β → Prop)
    (hmem : ∀ i a, f i = some a → ∃ b ∈ l, R i b)
    (hinj : ∀ i j b, R i b → R j b → i = j) : ∃ i, f i = none := by
  by_contra hall
  have hsome : ∀ i, ∃ b : {b // b ∈ l}, R i b := by
    intro i
    obtain ⟨a, ha⟩ := Option.ne_none_iff_exists'.1 (not_exists.1 hall i)
    obtain ⟨b, hb, hR⟩ := hmem i a ha
    exact ⟨⟨b, hb⟩, hR⟩
  choose g hg using hsome
  have hginj : Function.Injective g := fun i j hij =>
    hinj i j (g i) (hg i) (hij ▸ hg j)
  have hfinite : Finite {b // b ∈ l} := List.finite_toSet l
  exact not_injective_infinite_finite g hginj

/-- **There is room for a new connection.** -/
theorem InStep.newConn_enabled {t : EventThread} {fd : ℤ} (h : InStep t)
    (hfd : fd ∉ t.worker.openFds) :
    ∃ addr io timer, (t.step parse dump (.newConn fd addr io timer)).isSome := by
  obtain ⟨addr, haddr⟩ : ∃ addr, t.worker.heap addr = none := by
    refine exists_none (l := t.worker.openFds) (fun a fd => ∃ c, t.worker.heap a = some c ∧ c.fd = fd)
      (fun a c hc => ⟨c.fd, (h.live a c hc).opened, c, hc, rfl⟩) ?_
    rintro i j _ ⟨c, hc, rfl⟩ ⟨d, hd, hfd⟩
    exact (h.eq_of_fd hc hd hfd).symm
  obtain ⟨io, hio⟩ : ∃ io, t.ios io = none := by
    refine exists_none (l := t.worker.openFds)
      (fun i fd => ∃ a c, t.worker.heap a = some c ∧ t.ioWatcher a = i ∧ c.fd = fd)
      (fun i fd hi => ?_) ?_
    · obtain ⟨a, c, hc, hio, hfd⟩ := (h.io i fd).1 hi
      exact ⟨fd, hfd ▸ (h.live a c hc).opened, a, c, hc, hio, hfd⟩
    · rintro i j _ ⟨a, c, hc, rfl, rfl⟩ ⟨b, d, hd, rfl, hfd⟩
      rw [h.eq_of_fd hc hd hfd]
  obtain ⟨timer, htimer⟩ : ∃ timer, t.timers timer = none := by
    refine exists_none (l := t.worker.openFds)
      (fun i fd => ∃ a c, t.worker.heap a = some c ∧ t.timerWatcher a = i ∧ c.fd = fd)
      (fun i a hi => ?_) ?_
    · obtain ⟨b, c, hc, htimer, rfl⟩ := (h.timer i a).1 hi
      exact ⟨c.fd, (h.live b c hc).opened, b, c, hc, htimer, rfl⟩
    · rintro i j _ ⟨a, c, hc, rfl, rfl⟩ ⟨b, d, hd, rfl, hfd⟩
      rw [h.eq_of_fd hc hd hfd]
  refine ⟨addr, io, timer, ?_⟩
  simp [EventThread.step, EventThread.callback, hfd, haddr, hio, htimer]

/-- No thread can take a step of its own. -/
def AtEnd (parse : List UInt8 → Except JsonException Json) (dump : Json → List UInt8)
    (s : SignalingServer) : Prop :=
  ∀ e : SignalingEvent, e.own = true → s.step parse dump e = none

theorem AtEnd.inWorker (h : AtEnd parse dump s) (hk : k < s.workerNum)
    {f : WorkerThread → Option WorkerThread} {e : SignalingEvent} (he : e.own = true)
    (hstep : s.step parse dump e = s.inWorker k f) : f (s.workers k) = none := by
  have hnone := h e he
  rw [hstep, SignalingServer.inWorker, if_pos hk, Option.map_eq_none_iff] at hnone
  exact hnone

/-- **A worker with nothing to do is in its loop**, its pipe empty, or has
ended. -/
theorem AtEnd.worker (h : AtEnd parse dump s) (hapart : Apart n s) (hk : k < n) :
    (s.workers k).phase = .idle ∧ (s.workers k).pipe = [] ∨ (s.workers k).phase = .stopped := by
  have hnum := hapart.inTurn.num
  have hkn : k < s.workerNum := hnum.symm ▸ hk
  have hat := hapart.inTurn.workers k hkn
  cases hphase : (s.workers k).phase with
  | stopped => exact .inr rfl
  | idle =>
    refine .inl ⟨rfl, ?_⟩
    have hwake := h.inWorker hkn (f := fun w => w.wake) (e := .wake k) rfl rfl
    cases hpipe : (s.workers k).pipe with
    | nil => rfl
    | cons msg rest =>
      rw [WorkerThread.wake, hphase, hpipe] at hwake
      cases msg with
      | QUIT | RTC_MSG => cases hwake
      | NEW_CONN =>
        have hcall := hat.sound.consume_enabled (hat.consumer.2 (by simp [hphase]))
        have hnone := Option.map_eq_none_iff.1 hwake
        rw [hnone] at hcall
        cases hcall
  | consuming =>
    have hconsume := h.inWorker hkn (f := fun w => w.consume) (e := .consume k) rfl rfl
    rw [WorkerThread.consume, hphase] at hconsume
    have hbusy : (s.workers k).connfds.consumer ≠ .idle := fun hidle =>
      hat.consumer.1 hidle hphase
    have hcall := hat.sound.consumer_enabled hbusy
    rw [Option.map_eq_none_iff.1 hconsume] at hcall
    cases hcall
  | opening fd =>
    cases fd with
    | none => exact absurd hphase hat.found
    | some fd =>
      obtain ⟨addr, io, timer, hopen⟩ : ∃ addr io timer,
          ((s.workers k).thread.step parse dump (.newConn fd addr io timer)).isSome :=
        hat.inStep.newConn_enabled (hapart.not_open hk hphase)
      have hnone := h.inWorker hkn (f := fun w => w.newConn parse dump addr io timer)
        (e := .newConn k addr io timer) rfl rfl
      rw [WorkerThread.newConn, hphase] at hnone
      rw [Option.map_eq_none_iff.1 hnone] at hopen
      cases hopen
  | answering =>
    have hnone := h.inWorker hkn (f := fun w => w.rtcMsg parse dump none) (e := .rtcMsg k none)
      rfl rfl
    simp [WorkerThread.rtcMsg, hphase] at hnone
  | ending =>
    have hnone := h.inWorker hkn (f := fun w => w.finish) (e := .finish k) rfl rfl
    rw [WorkerThread.finish, hphase] at hnone
    cases hnone

/-- A worker that has not been told to stop can be written to. -/
theorem Handed.post_enabled {D : List ℤ} {r : Role} (h : Handed D r w) (hr : r ≠ .past)
    (msg : Notice) : (w.post msg).isSome := by
  have hended : w.phase.ended ≠ true := fun ho => hr (h.told.1 (.inr ho))
  unfold WorkerThread.post
  cases hphase : w.phase with
  | ending | stopped => exact absurd (by rw [hphase]; rfl) hended
  | _ => rfl

/-- **A server with nothing to do is in its loop or has stopped.** -/
theorem AtEnd.server (h : AtEnd parse dump s) (hapart : Apart n s) :
    s.phase = .idle ∨ s.phase = .stopped := by
  have hwithin := hapart.inTurn.within
  have hat := hapart.inTurn.workers
  cases hphase : s.phase with
  | idle => exact .inl rfl
  | stopped => exact .inr rfl
  | producing k =>
    have hk := hwithin k (by rw [hphase]; rfl)
    have hhanded := hat k hk
    rw [hphase] at hhanded
    have hbusy : (s.workers k).connfds.producer ≠ .idle := fun hidle =>
      hhanded.producer.1 hidle (if_pos rfl)
    obtain ⟨act, hact, hgoes⟩ := hhanded.sound.producer_enabled hbusy
    have hnone : s.produce act = none := by
      rcases hact with rfl | ⟨address, rfl⟩
      · exact h (.produce none) rfl
      · exact h (.produce (some address)) rfl
    rw [SignalingServer.produce, hphase] at hnone
    rw [Option.map_eq_none_iff.1 hnone] at hgoes
    cases hgoes
  | notifying k =>
    have hk := hwithin k (by rw [hphase]; rfl)
    have hhanded := hat k hk
    rw [hphase] at hhanded
    have hpost := hhanded.post_enabled (by simp [ServerPhase.role]) .NEW_CONN
    have hnone : s.notify = none := h .notify rfl
    rw [SignalingServer.notify, hphase] at hnone
    rw [Option.map_eq_none_iff.1 hnone] at hpost
    cases hpost
  | stopping k =>
    have hk := hwithin k (by rw [hphase]; rfl)
    have hhanded := hat k hk
    rw [hphase] at hhanded
    have hpost := hhanded.post_enabled (by simp [ServerPhase.role]) .QUIT
    have hnone : s.stop = none := h .stop rfl
    rw [SignalingServer.stop, hphase] at hnone
    rw [Option.map_eq_none_iff.1 hnone] at hpost
    cases hpost
  | joining k =>
    -- the worker has read its `QUIT`, or is about to
    have hk := hwithin k (by rw [hphase]; rfl)
    have hhanded := hat k hk
    rw [hphase] at hhanded
    have hnone : s.join = none := h .join rfl
    rw [SignalingServer.join, hphase] at hnone
    dsimp only at hnone
    rcases h.worker hapart (hapart.inTurn.num ▸ hk) with ⟨hidle, hpipe⟩ | hended
    · have htold := hhanded.told.2 (if_pos le_rfl)
      rw [hidle, hpipe] at htold
      simp [WorkerPhase.ended] at htold
    · rw [if_pos hended] at hnone
      cases hnone

end Server

end XrtcServer
